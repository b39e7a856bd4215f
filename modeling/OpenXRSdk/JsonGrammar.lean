import OpenXRSdk.JsonReader
import OpenXRSdk.JsonNumbers
import OpenXRSdk.JsonStrings

/-!
# The language of JSON texts

What the texts look like that the reader is meant to accept, and the values that they denote:
JSON with the comments and the trailing commas that the features allow. Nothing here mentions
how the reader goes through a text.
-/
namespace OpenXRSdk.Json

/-! ## White space and comments -/

def IsBlanks (s : StdString) : Prop := ∀ c ∈ s, isBlank c

inductive Comment : StdString → Prop
  | block (body : StdString) (h : ¬ ['*', '/'] <:+: body) :
      Comment ('/' :: '*' :: (body ++ ['*', '/']))
  | line (body eol : StdString) (h : ∀ c ∈ body, c ≠ '\n' ∧ c ≠ '\r')
      (heol : eol = ['\n'] ∨ eol = ['\r'] ∨ eol = ['\r', '\n']) :
      Comment ('/' :: '/' :: (body ++ eol))

inductive Gap (features : OurFeatures) : StdString → Prop
  | nil : Gap features []
  | blank {c : Char} {s : StdString} (hc : isBlank c) (hs : Gap features s) : Gap features (c :: s)
  | comment {t s : StdString} (hallow : features.allowComments) (ht : Comment t)
      (hs : Gap features s) : Gap features (t ++ s)

/-! ## Strings -/

inductive HexFour : StdString → ℕ → Prop
  | mk {a b c d : Char} {a' b' c' d' : ℕ} (ha : hexDigit? a = some a') (hb : hexDigit? b = some b')
      (hc : hexDigit? c = some c') (hd : hexDigit? d = some d') :
      HexFour [a, b, c, d] (((a' * 16 + b') * 16 + c') * 16 + d')

/-- The characters after a backslash that stand for one other character. -/
def shortEscapes : List (Char × Char) :=
  [('"', '"'), ('/', '/'), ('\\', '\\'), ('b', '\x08'), ('f', '\x0c'), ('n', '\n'), ('r', '\r'),
    ('t', '\t')]

def IsHighSurrogate (x : ℕ) : Prop := 0xD800 ≤ x ∧ x ≤ 0xDBFF

/-- The characters between the quotes, and the bytes that they stand for. Any four digits serve
as the second half of a surrogate pair. -/
inductive StringText : StdString → StdString → Prop
  | nil : StringText [] []
  | plain {c : Char} {s decoded : StdString} (hc : IsPlain c) (hs : StringText s decoded) :
      StringText (c :: s) (c :: decoded)
  | short {c d : Char} {s decoded : StdString} (hc : (c, d) ∈ shortEscapes)
      (hs : StringText s decoded) : StringText ('\\' :: c :: s) (d :: decoded)
  | unicode {hex s decoded : StdString} {x : ℕ} (hx : HexFour hex x) (hlow : ¬ IsHighSurrogate x)
      (hs : StringText s decoded) :
      StringText ('\\' :: 'u' :: (hex ++ s)) (codePointToUTF8 x ++ decoded)
  | surrogates {hex hex' s decoded : StdString} {x y : ℕ} (hx : HexFour hex x)
      (hhigh : IsHighSurrogate x) (hy : HexFour hex' y) (hs : StringText s decoded) :
      StringText ('\\' :: 'u' :: (hex ++ '\\' :: 'u' :: (hex' ++ s)))
        (codePointToUTF8 (0x10000 + x % 1024 * 1024 + y % 1024) ++ decoded)

/-! ## Values -/

section Values
variable (features : OurFeatures)

/-- What may stand between the brackets of an array, where `P` tells the texts of the elements.
A comment cannot stand before the closing bracket of an empty array, or after a comma that an
element does not follow. -/
inductive Elements (P : StdString → Value → Prop) : (first : Bool) → StdString → List Value → Prop
  | done {first : Bool} {s : StdString} (hs : IsBlanks s)
      (hfirst : first ∨ features.allowTrailingCommas) : Elements P first s []
  | last {first : Bool} {gap text gap' : StdString} {value : Value} (hgap : Gap features gap)
      (htext : P text value) (hgap' : Gap features gap') :
      Elements P first (gap ++ (text ++ gap')) [value]
  | next {first : Bool} {gap text gap' s : StdString} {value : Value} {values : List Value}
      (hgap : Gap features gap) (htext : P text value) (hgap' : Gap features gap')
      (hs : Elements P false s values) :
      Elements P first (gap ++ (text ++ (gap' ++ ',' :: s))) (value :: values)

/-- A member, read when `members` have been read: the last value for a name is kept. -/
inductive Member (P : StdString → Value → Prop) (members : List (StdString × Value)) :
    StdString → (name : StdString) → List (StdString × Value) → Prop
  | mk {gap key name blanks gap' text gap'' : StdString} {value : Value}
      (hgap : Gap features gap) (hkey : StringText key name) (hshort : name.length < 2 ^ 30)
      (hnew : features.rejectDupKeys → isMember name members = false) (hblanks : IsBlanks blanks)
      (hgap' : Gap features gap') (htext : P text value) (hgap'' : Gap features gap'') :
      Member P members
        (gap ++ '"' :: (key ++ '"' :: (blanks ++ ':' :: (gap' ++ (text ++ gap'')))))
        name (insertMember name value members)

/-- What may stand between the braces of an object, after a member of the given name. A comma
may stand before the closing brace where the features allow it, and after an empty name. -/
inductive Members (P : StdString → Value → Prop) :
    (name : StdString) → List (StdString × Value) → StdString → List (StdString × Value) → Prop
  | done {name gap : StdString} {members : List (StdString × Value)} (hgap : Gap features gap)
      (hname : name = [] ∨ features.allowTrailingCommas) : Members P name members gap members
  | last {name s name' : StdString} {members members' : List (StdString × Value)}
      (hmember : Member features P members s name' members') : Members P name members s members'
  | next {name s name' s' : StdString} {members members' members'' : List (StdString × Value)}
      (hmember : Member features P members s name' members')
      (hs : Members P name' members' s' members'') : Members P name members (s ++ ',' :: s') members''

variable (readDouble : StdString → Option ℚ)

/-- The text of a value whose parts have texts by `P`. Of a string the value keeps as many bytes as
the low 32 bits of its length tell, which are not too many; an `int` counts the elements of an
array. -/
inductive ValueStep (P : StdString → Value → Prop) : StdString → Value → Prop
  | null : ValueStep P "null".toList .null
  | true : ValueStep P "true".toList (.boolean true)
  | false : ValueStep P "false".toList (.boolean false)
  | number {text : StdString} {value : Value} (htext : NumberText text)
      (hvalue : decodeNumber readDouble text = .ok value) : ValueStep P text value
  | string {s decoded : StdString} (hs : StringText s decoded)
      (hshort : decoded.length % 2 ^ 32 ≤ Value.maxStringLength) :
      ValueStep P ('"' :: (s ++ ['"'])) (.string (decoded.take (decoded.length % 2 ^ 32)))
  | array {s : StdString} {values : List Value} (hs : Elements features P Bool.true s values)
      (hcount : values.length ≤ Value.maxInt) : ValueStep P ('[' :: (s ++ [']'])) (.array values)
  | object {s : StdString} {members : List (StdString × Value)}
      (hs : Members features P [] [] s members) : ValueStep P ('{' :: (s ++ ['}'])) (.object members)

/-- The text of a value that is nested at most so deep. -/
def ValueText : (depth : ℕ) → StdString → Value → Prop
  | 0 => fun _ _ => False
  | depth + 1 => ValueStep features readDouble (ValueText depth)

end Values

/-! ## Gaps, scanned -/

theorem skipSpaces_append {blanks : StdString} (h : IsBlanks blanks) (rest : Location) :
    skipSpaces (blanks ++ rest) = skipSpaces rest :=
  List.dropWhile_append_of_pos h

theorem skipSpaces_eq (current : Location) :
    ∃ blanks, current = blanks ++ skipSpaces current ∧ IsBlanks blanks :=
  ⟨current.takeWhile isBlank, List.takeWhile_append_dropWhile.symm,
    fun _ hc => List.mem_takeWhile_imp hc⟩

theorem readToken_append {blanks : StdString} (h : IsBlanks blanks) (rest : Location) :
    readToken (blanks ++ rest) = readToken rest := by
  rw [readToken, skipSpaces_append h, readToken]

theorem readToken_cons {c : Char} (h : isBlank c = false) (rest : Location) :
    readToken (c :: rest) = ⟨(readFrom c rest).1, c :: rest, (readFrom c rest).2⟩ := by
  rw [readToken, skipSpaces_cons h]

theorem readCStyleComment_append {body : StdString} (h : ¬ ['*', '/'] <:+: body) (rest : Location) :
    readCStyleComment (body ++ '*' :: '/' :: rest) = (true, rest) := by
  induction body with
  | nil => simp [readCStyleComment]
  | cons c body ih =>
    have hbody : ¬ ['*', '/'] <:+: body := fun hinfix => h (List.infix_cons hinfix)
    have hnext : ¬ ∃ s, c = '*' ∧ body ++ '*' :: '/' :: rest = '/' :: s := by
      rintro ⟨s, rfl, hs⟩
      cases body with
      | nil => cases hs
      | cons d body =>
        cases hs
        exact h ⟨[], body, rfl⟩
    obtain ⟨d, s, hs⟩ := List.exists_cons_of_ne_nil (l := body ++ '*' :: '/' :: rest) (by simp)
    have hnot : ¬ (c = '*' ∧ d = '/') := fun hc => hnext ⟨s, hc.1, hc.2 ▸ hs⟩
    rw [List.cons_append, hs, readCStyleComment, if_neg hnot, ← hs, ih hbody]

/-- What the scanner takes for a comment is one, unless the document ends in it. -/
theorem readCStyleComment_eq {current : Location} (h : (readCStyleComment current).1 = true)
    (hrest : (readCStyleComment current).2 ≠ []) : ∃ body, ¬ ['*', '/'] <:+: body ∧
      current = body ++ '*' :: '/' :: (readCStyleComment current).2 := by
  fun_induction readCStyleComment current with
  | case1 => exact absurd rfl hrest
  | case2 => exact absurd rfl hrest
  | case3 c d current hc =>
    obtain ⟨rfl, rfl⟩ := hc
    exact ⟨[], by simp, rfl⟩
  | case4 c d current hc ih =>
    obtain ⟨body, hbody, heq⟩ := ih h hrest
    refine ⟨c :: body, ?_, congrArg (c :: ·) heq⟩
    intro hinfix
    rcases List.infix_cons_iff.mp hinfix with ⟨s, hs⟩ | hinfix
    · obtain ⟨hstar, hs⟩ := List.cons.inj hs
      cases body with
      | nil => cases hs
      | cons e body =>
        obtain ⟨hslash, -⟩ := List.cons.inj hs
        obtain ⟨hd, -⟩ := List.cons.inj heq
        exact hc ⟨hstar.symm, hd.trans hslash.symm⟩
    · exact hbody hinfix

theorem readCppStyleComment_append {body : StdString} (h : ∀ c ∈ body, c ≠ '\n' ∧ c ≠ '\r')
    (rest : Location) : readCppStyleComment (body ++ rest) = readCppStyleComment rest := by
  induction body with
  | nil => rfl
  | cons c body ih =>
    obtain ⟨hn, hr⟩ := h c (by simp)
    rw [List.cons_append, readCppStyleComment]
    · exact ih fun d hd => h d (by simp [hd])
    · exact hn
    · exact fun _ hc _ => hr hc
    · exact hr

theorem readCppStyleComment_eq {current : Location} (hrest : readCppStyleComment current ≠ []) :
    ∃ body eol, (∀ c ∈ body, c ≠ '\n' ∧ c ≠ '\r') ∧
      (eol = ['\n'] ∨ eol = ['\r'] ∨ eol = ['\r', '\n']) ∧
      current = body ++ (eol ++ readCppStyleComment current) := by
  fun_induction readCppStyleComment current with
  | case1 => exact absurd rfl hrest
  | case2 current => exact ⟨[], ['\n'], by simp, .inl rfl, rfl⟩
  | case3 current => exact ⟨[], ['\r', '\n'], by simp, .inr (.inr rfl), rfl⟩
  | case4 current h => exact ⟨[], ['\r'], by simp, .inr (.inl rfl), rfl⟩
  | case5 c current hn hrn hr ih =>
    obtain ⟨body, eol, hbody, heol, heq⟩ := ih hrest
    refine ⟨c :: body, eol, ?_, heol, congrArg (c :: ·) heq⟩
    intro d hd
    rcases List.mem_cons.mp hd with rfl | hd
    · exact ⟨hn, hr⟩
    · exact hbody d hd

end OpenXRSdk.Json
