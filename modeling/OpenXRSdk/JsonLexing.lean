import OpenXRSdk.JsonGrammar

/-!
# The scanner and the language

The tokens that the scanner finds are those of the language of JSON texts, with gaps between
them, and it decodes a string exactly when it is one of the language.
-/
namespace OpenXRSdk.Json

variable {features : OurFeatures}

/-! ## Tokens -/

/-- What the type of a token tells about its text, which begins with `c` and which `stop` follows. -/
def Spells (c : Char) (rest stop : Location) : TokenType → Prop
  | .objectBegin => c = '{' ∧ rest = stop
  | .objectEnd => c = '}' ∧ rest = stop
  | .arrayBegin => c = '[' ∧ rest = stop
  | .arrayEnd => c = ']' ∧ rest = stop
  | .arraySeparator => c = ',' ∧ rest = stop
  | .memberSeparator => c = ':' ∧ rest = stop
  | .true => c = 't' ∧ rest = "rue".toList ++ stop
  | .false => c = 'f' ∧ rest = "alse".toList ++ stop
  | .null => c = 'n' ∧ rest = "ull".toList ++ stop
  | .string => c = '"' ∧ readString rest = (true, stop)
  | .number => ∃ text, c :: rest = text ++ stop ∧ NumberText text ∧ EndsNumber text stop
  | .comment => c = '/' ∧ readComment rest = (true, stop)
  | .endOfStream => True
  | .error => True

theorem spells_accept {c : Char} {rest : Location} {type : TokenType} {read : Bool × Location}
    (h : read.1 = true → Spells c rest read.2 type) :
    Spells c rest (accept type read).2 (accept type read).1 := by
  unfold accept
  cases hread : read.1 with
  | false => trivial
  | true => exact h hread

theorem matchPattern_eq {pattern current : StdString} (h : (matchPattern pattern current).1 = true) :
    current = pattern ++ (matchPattern pattern current).2 := by
  unfold matchPattern at h ⊢
  split_ifs at h ⊢ with hpattern
  obtain ⟨rest, rfl⟩ := hpattern
  simp

theorem spells_readFrom (c : Char) (rest : Location) :
    Spells c rest (readFrom c rest).2 (readFrom c rest).1 := by
  by_cases hnumber : (readFrom c rest).1 = .number
  · rw [hnumber]
    exact numberText_of_readFrom hnumber
  unfold readFrom at hnumber ⊢
  split at hnumber
  case h_5 => exact spells_accept fun h => ⟨rfl, Prod.ext h rfl⟩
  case h_6 => exact spells_accept fun h => ⟨rfl, Prod.ext h rfl⟩
  case h_9 => exact spells_accept fun h => ⟨rfl, matchPattern_eq h⟩
  case h_10 => exact spells_accept fun h => ⟨rfl, matchPattern_eq h⟩
  case h_11 => exact spells_accept fun h => ⟨rfl, matchPattern_eq h⟩
  case h_7 => exact spells_accept fun h => absurd (by simp [accept, h]) hnumber
  case h_8 => exact spells_accept fun h => absurd (by simp [accept, h]) hnumber
  case h_15 =>
    split_ifs at hnumber ⊢ with hdigit
    · exact spells_accept fun h => absurd (by simp [accept, h]) hnumber
    · trivial
  all_goals first
    | exact ⟨rfl, rfl⟩
    | trivial

/-! ## Gaps -/

theorem readTokenSkippingComments_of_comment {current : Location} (hallow : features.allowComments)
    (h : (readToken current).type = .comment) :
    readTokenSkippingComments features current =
      readTokenSkippingComments features (readToken current).stop := by
  rw [readTokenSkippingComments, dif_pos ⟨hallow, h⟩]

theorem readTokenSkippingComments_of_not_comment {current : Location}
    (h : (readToken current).type ≠ .comment) :
    readTokenSkippingComments features current = readToken current := by
  rw [readTokenSkippingComments, dif_neg fun hc => h hc.2]

theorem readTokenSkippingComments_congr {current current' : Location}
    (h : readToken current = readToken current') :
    readTokenSkippingComments features current = readTokenSkippingComments features current' := by
  rw [readTokenSkippingComments.eq_def features current,
    readTokenSkippingComments.eq_def features current', h]

theorem readTokenSkippingComments_blank {c : Char} (h : isBlank c) (rest : Location) :
    readTokenSkippingComments features (c :: rest) = readTokenSkippingComments features rest := by
  have hblanks : IsBlanks [c] := by simpa [IsBlanks] using h
  exact readTokenSkippingComments_congr (readToken_append hblanks rest)

theorem readToken_comment {current rest : Location} (h : readComment current = (true, rest)) :
    readToken ('/' :: current) = ⟨.comment, '/' :: current, rest⟩ := by
  rw [readToken_cons (by decide)]
  simp only [readFrom, h]
  rfl

theorem readTokenSkippingComments_comment {t : StdString} (hallow : features.allowComments)
    (ht : Comment t) (rest : Location) :
    readTokenSkippingComments features (t ++ rest) = readTokenSkippingComments features rest := by
  cases ht with
  | block body h =>
    have hread : readComment ('*' :: (body ++ ['*', '/']) ++ rest) = (true, rest) := by
      rw [List.cons_append, List.append_assoc]
      exact readCStyleComment_append h rest
    have htoken := readToken_comment hread
    exact (readTokenSkippingComments_of_comment hallow (congrArg Token.type htoken)).trans
      (congrArg _ (congrArg Token.stop htoken))
  | line body eol h heol =>
    have hread : readComment ('/' :: (body ++ eol) ++ rest) =
        (true, readCppStyleComment (eol ++ rest)) := by
      rw [List.cons_append, List.append_assoc, readComment, readCppStyleComment_append h]
    have htoken := readToken_comment hread
    refine ((readTokenSkippingComments_of_comment hallow (congrArg Token.type htoken)).trans
      (congrArg _ (congrArg Token.stop htoken))).trans ?_
    rcases heol with rfl | rfl | rfl
    · rfl
    · cases rest with
      | nil => rfl
      | cons c rest =>
        by_cases hc : c = '\n'
        · subst hc
          exact (readTokenSkippingComments_blank (by decide) rest).symm
        · have hstop : readCppStyleComment ('\r' :: c :: rest) = c :: rest := by
            rw [readCppStyleComment]
            exact fun _ heq => hc (List.cons.inj heq).1
          exact congrArg (readTokenSkippingComments features) hstop
    · rfl

/-- Nothing in a gap matters to the next token. -/
theorem readTokenSkippingComments_gap {gap : StdString} (h : Gap features gap) (rest : Location) :
    readTokenSkippingComments features (gap ++ rest) = readTokenSkippingComments features rest := by
  induction h with
  | nil => rfl
  | blank hc hs ih => exact (readTokenSkippingComments_blank hc _).trans ih
  | comment hallow ht hs ih =>
    rw [List.append_assoc]
    exact (readTokenSkippingComments_comment hallow ht _).trans ih

theorem gap_of_blanks {blanks gap : StdString} (h : IsBlanks blanks) (hgap : Gap features gap) :
    Gap features (blanks ++ gap) := by
  induction blanks with
  | nil => exact hgap
  | cons c blanks ih =>
    exact .blank (h c (by simp)) (ih fun d hd => h d (by simp [hd]))

/-- Where there is a token, there are blanks before its first character. -/
theorem readToken_eq {current : Location} (h : (readToken current).type ≠ .endOfStream) :
    ∃ blanks c rest, current = blanks ++ c :: rest ∧ IsBlanks blanks ∧ isBlank c = false ∧
      readToken current = ⟨(readFrom c rest).1, c :: rest, (readFrom c rest).2⟩ := by
  obtain ⟨blanks, heq, hblanks⟩ := skipSpaces_eq current
  cases hs : skipSpaces current with
  | nil =>
    rw [readToken, hs] at h
    exact absurd rfl h
  | cons c rest =>
    rw [hs] at heq
    refine ⟨blanks, c, rest, heq, hblanks, ?_, by rw [readToken, hs]⟩
    have hhead := List.head?_dropWhile_not isBlank current
    rw [← skipSpaces, hs] at hhead
    exact hhead

theorem comment_of_readComment {current : Location} (h : (readComment current).1 = true)
    (hrest : (readComment current).2 ≠ []) :
    ∃ t, Comment t ∧ '/' :: current = t ++ (readComment current).2 := by
  fun_cases readComment current with
  | case1 current =>
    obtain ⟨body, hbody, heq⟩ := readCStyleComment_eq h hrest
    refine ⟨_, .block body hbody, ?_⟩
    rw [List.cons_append, List.cons_append, List.append_assoc]
    exact congrArg ('/' :: '*' :: ·) heq
  | case2 current =>
    obtain ⟨body, eol, hbody, heol, heq⟩ := readCppStyleComment_eq hrest
    refine ⟨_, .line body eol hbody heol, ?_⟩
    rw [List.cons_append, List.cons_append, List.append_assoc]
    exact congrArg ('/' :: '/' :: ·) heq
  | case3 current hstar hslash =>
    rw [readComment] at h
    · cases h
    · exact hstar
    · exact hslash

/-- What comes before a token that is neither a comment nor an error. -/
theorem readTokenSkippingComments_eq {current : Location}
    (hend : (readTokenSkippingComments features current).type ≠ .endOfStream)
    (hcomment : (readTokenSkippingComments features current).type ≠ .comment) :
    ∃ gap c rest, current = gap ++ c :: rest ∧ Gap features gap ∧ isBlank c = false ∧
      readTokenSkippingComments features current =
        ⟨(readFrom c rest).1, c :: rest, (readFrom c rest).2⟩ := by
  fun_induction readTokenSkippingComments features current with
  | case1 current h ih =>
    have hsome : (readToken current).type ≠ .endOfStream := by rw [h.2]; decide
    obtain ⟨blanks, c, rest, heq, hblanks, hc, htoken⟩ := readToken_eq hsome
    have htype : (readFrom c rest).1 = .comment := (congrArg Token.type htoken).symm.trans h.2
    have hspells := spells_readFrom c rest
    rw [htype] at hspells
    obtain ⟨rfl, hread⟩ := hspells
    have hstop : (readToken current).stop = (readFrom '/' rest).2 := congrArg Token.stop htoken
    rw [hstop] at ih hend hcomment ⊢
    have hne : (readFrom '/' rest).2 ≠ [] := by
      intro hnil
      rw [hnil, readTokenSkippingComments_of_not_comment (by decide)] at hend
      exact hend rfl
    obtain ⟨t, ht, ht'⟩ := @comment_of_readComment rest (by rw [hread]) (by rwa [hread])
    obtain ⟨gap, c, rest', heq', hgap, hc', htoken'⟩ := ih hend hcomment
    rw [hread] at ht'
    refine ⟨blanks ++ (t ++ gap), c, rest', ?_, gap_of_blanks hblanks (.comment h.1 ht hgap), hc',
      htoken'⟩
    rw [heq, ht', heq', List.append_assoc, List.append_assoc]
  | case2 current h =>
    obtain ⟨blanks, c, rest, heq, hblanks, hc, htoken⟩ := readToken_eq hend
    exact ⟨blanks, c, rest, heq, by simpa using gap_of_blanks hblanks .nil, hc, htoken⟩

/-- A token of a type that neither an end nor an error nor a comment has. -/
def IsProper (type : TokenType) : Prop := type ≠ .endOfStream ∧ type ≠ .comment ∧ type ≠ .error

instance : DecidablePred IsProper := fun type =>
  inferInstanceAs (Decidable (type ≠ .endOfStream ∧ type ≠ .comment ∧ type ≠ .error))

/-- The text of a token that is read, and what comes before it. -/
theorem spells_readTokenSkippingComments {current : Location} {type : TokenType}
    (htype : (readTokenSkippingComments features current).type = type) (hproper : IsProper type) :
    ∃ gap c rest, current = gap ++ c :: rest ∧ Gap features gap ∧
      (readTokenSkippingComments features current).start = c :: rest ∧
      Spells c rest (readTokenSkippingComments features current).stop type := by
  subst htype
  obtain ⟨gap, c, rest, heq, hgap, -, htoken⟩ :=
    readTokenSkippingComments_eq hproper.1 hproper.2.1
  have hspells := spells_readFrom c rest
  rw [htoken]
  exact ⟨gap, c, rest, heq, hgap, rfl, hspells⟩

theorem readTokenSkippingComments_append {gap : StdString} (hgap : Gap features gap) {c : Char}
    (hblank : isBlank c = false) (hc : c ≠ '/') (rest : Location) :
    readTokenSkippingComments features (gap ++ c :: rest) =
      ⟨(readFrom c rest).1, c :: rest, (readFrom c rest).2⟩ := by
  rw [readTokenSkippingComments_gap hgap, readTokenSkippingComments_of_not_comment,
    readToken_cons hblank]
  rw [readToken_cons hblank]
  intro htype
  have hspells := spells_readFrom c rest
  rw [show (readFrom c rest).1 = .comment from htype] at hspells
  exact hc hspells.1

/-- What is left of a gap when its first blanks are gone is a gap. -/
theorem skipSpaces_gap {gap : StdString} (h : Gap features gap) {c : Char}
    (hc : isBlank c = false) (rest : Location) :
    ∃ gap', Gap features gap' ∧ skipSpaces (gap ++ c :: rest) = gap' ++ c :: rest := by
  induction h with
  | nil => exact ⟨[], .nil, skipSpaces_cons hc rest⟩
  | @blank d gap hd hs ih =>
    obtain ⟨gap', hgap', heq⟩ := ih
    have hblanks : IsBlanks [d] := by simpa [IsBlanks] using hd
    exact ⟨gap', hgap', (skipSpaces_append hblanks _).trans heq⟩
  | @comment t gap hallow ht hs ih =>
    refine ⟨t ++ gap, .comment hallow ht hs, ?_⟩
    cases ht with
    | block body h => exact skipSpaces_cons (by decide) _
    | line body eol h heol => exact skipSpaces_cons (by decide) _

/-! ## Strings -/

/-- What the scanner takes for the characters between two quotes. -/
inductive StringBody : StdString → Prop
  | nil : StringBody []
  | plain {c : Char} {s : StdString} (hc : IsPlain c) (hs : StringBody s) : StringBody (c :: s)
  | escape (c : Char) {s : StdString} (hs : StringBody s) : StringBody ('\\' :: c :: s)

theorem readString_body {body : StdString} (h : StringBody body) (rest : Location) :
    readString (body ++ '"' :: rest) = (true, rest) := by
  induction h with
  | nil => rfl
  | plain hc hs ih => exact (readString_cons hc _).trans ih
  | escape c hs ih => exact ih

theorem readString_eq {current : Location} (h : (readString current).1 = true) :
    ∃ body, StringBody body ∧ current = body ++ '"' :: (readString current).2 := by
  fun_induction readString current with
  | case1 => cases h
  | case2 => cases h
  | case3 c current ih =>
    obtain ⟨body, hbody, heq⟩ := ih h
    exact ⟨'\\' :: c :: body, .escape c hbody, congrArg ('\\' :: c :: ·) heq⟩
  | case4 current => exact ⟨[], .nil, rfl⟩
  | case5 c current hlast hescape hquote ih =>
    obtain ⟨body, hbody, heq⟩ := ih h
    have hslash : c ≠ '\\' := by
      intro hc
      cases current with
      | nil => exact hlast hc rfl
      | cons d current => exact hescape d current hc rfl
    exact ⟨c :: body, .plain ⟨hquote, hslash⟩ hbody, congrArg (c :: ·) heq⟩

/-! ### Escapes -/

theorem decodeEscape_of_mem {c d : Char} (h : (c, d) ∈ shortEscapes) (s : StdString) :
    decodeEscape c s = .ok ([d], 0) := by
  simp only [shortEscapes, List.mem_cons, Prod.mk.injEq, List.not_mem_nil, or_false] at h
  rcases h with ⟨rfl, rfl⟩ | ⟨rfl, rfl⟩ | ⟨rfl, rfl⟩ | ⟨rfl, rfl⟩ | ⟨rfl, rfl⟩ | ⟨rfl, rfl⟩ |
    ⟨rfl, rfl⟩ | ⟨rfl, rfl⟩ <;> rfl

theorem mem_shortEscapes_of_decodeEscape {c : Char} (hc : c ≠ 'u') {s : StdString}
    {decoded : StdString × ℕ} (h : decodeEscape c s = .ok decoded) :
    ∃ d, (c, d) ∈ shortEscapes ∧ decoded = ([d], 0) := by
  unfold decodeEscape at h
  split at h
  case h_9 => exact absurd rfl hc
  case h_10 => cases h
  all_goals
    cases h
    exact ⟨_, by decide, rfl⟩

theorem decodeHexDigits_cons_eq_ok {count unicode x : ℕ} {c : Char} {current : StdString} :
    decodeHexDigits (count + 1) unicode (c :: current) = .ok x ↔
      ∃ digit, hexDigit? c = some digit ∧
        decodeHexDigits count (unicode * 16 + digit) current = .ok x := by
  rw [decodeHexDigits]
  cases hexDigit? c <;> simp

theorem decodeUnicodeEscapeSequence_eq_ok {current : StdString} {x : ℕ} :
    decodeUnicodeEscapeSequence current = .ok x ↔
      ∃ hex rest, current = hex ++ rest ∧ HexFour hex x := by
  constructor
  · intro h
    unfold decodeUnicodeEscapeSequence at h
    split_ifs at h with hlength
    obtain ⟨a, b, c, d, rest, rfl⟩ : ∃ a b c d rest, current = a :: b :: c :: d :: rest := by
      match current, hlength with
      | a :: b :: c :: d :: rest, _ => exact ⟨a, b, c, d, rest, rfl⟩
      | [_, _, _], h => simp at h
      | [_, _], h => simp at h
      | [_], h => simp at h
      | [], h => simp at h
    simp only [decodeHexDigits_cons_eq_ok] at h
    obtain ⟨a', ha, b', hb, c', hc, d', hd, h⟩ := h
    rw [decodeHexDigits] at h
    cases h
    exact ⟨[a, b, c, d], rest, rfl, by simpa using HexFour.mk ha hb hc hd⟩
  · rintro ⟨_, rest, rfl, ⟨ha, hb, hc, hd⟩⟩
    unfold decodeUnicodeEscapeSequence
    rw [if_neg (by simp)]
    simp [decodeHexDigits, ha, hb, hc, hd]

theorem length_of_hexFour {hex : StdString} {x : ℕ} (h : HexFour hex x) : hex.length = 4 := by
  cases h
  rfl

theorem isPlain_of_hexDigit? {c : Char} {d : ℕ} (h : hexDigit? c = some d) : IsPlain c := by
  constructor <;> rintro rfl <;> simp [hexDigit?] at h

theorem isPlain_of_hexFour {hex : StdString} {x : ℕ} (h : HexFour hex x) {c : Char} (hc : c ∈ hex) :
    IsPlain c := by
  obtain ⟨h₁, h₂, h₃, h₄⟩ := h
  simp only [List.mem_cons, List.not_mem_nil, or_false] at hc
  rcases hc with rfl | rfl | rfl | rfl
  · exact isPlain_of_hexDigit? h₁
  · exact isPlain_of_hexDigit? h₂
  · exact isPlain_of_hexDigit? h₃
  · exact isPlain_of_hexDigit? h₄

/-- The code point of a surrogate pair. -/
theorem surrogates_eq (x y : ℕ) :
    0x10000 + ((x &&& 0x3FF) <<< 10) + (y &&& 0x3FF) = 0x10000 + x % 1024 * 1024 + y % 1024 := by
  rw [show 0x3FF = 2 ^ 10 - 1 from rfl, Nat.and_two_pow_sub_one_eq_mod,
    Nat.and_two_pow_sub_one_eq_mod, Nat.shiftLeft_eq]

theorem decodeSurrogate_eq_ok {unicode x : ℕ} {current : StdString} :
    decodeSurrogate unicode current = .ok x ↔
      ∃ hex rest y, current = '\\' :: 'u' :: (hex ++ rest) ∧ HexFour hex y ∧
        x = 0x10000 + unicode % 1024 * 1024 + y % 1024 := by
  constructor
  · intro h
    unfold decodeSurrogate at h
    split_ifs at h with hlength
    split at h
    · obtain ⟨y, hy, hx⟩ := StateProgram.except_bind_eq_ok.mp h
      obtain ⟨hex, rest, rfl, hhex⟩ := decodeUnicodeEscapeSequence_eq_ok.mp hy
      rw [surrogates_eq] at hx
      cases hx
      exact ⟨hex, rest, y, rfl, hhex, rfl⟩
    · cases h
    · cases h
  · rintro ⟨hex, rest, y, rfl, hhex, rfl⟩
    have hy := decodeUnicodeEscapeSequence_eq_ok.mpr ⟨hex, rest, rfl, hhex⟩
    unfold decodeSurrogate
    rw [if_neg (by simp [length_of_hexFour hhex])]
    rw [← surrogates_eq]
    exact StateProgram.except_bind_eq_ok.mpr ⟨y, hy, rfl⟩

/-- How a `\\u` escape is read: alone, or as the first of a surrogate pair. -/
theorem decodeUnicodeCodePoint_eq_ok {current : StdString} {result : ℕ × ℕ} :
    decodeUnicodeCodePoint current = .ok result ↔
      (∃ hex rest x, current = hex ++ rest ∧ HexFour hex x ∧ ¬ IsHighSurrogate x ∧
        result = (x, 4)) ∨
      ∃ hex hex' rest x y, current = hex ++ '\\' :: 'u' :: (hex' ++ rest) ∧ HexFour hex x ∧
        IsHighSurrogate x ∧ HexFour hex' y ∧
        result = (0x10000 + x % 1024 * 1024 + y % 1024, 10) := by
  unfold decodeUnicodeCodePoint
  rw [StateProgram.except_bind_eq_ok]
  constructor
  · rintro ⟨x, hx, h⟩
    obtain ⟨hex, rest, rfl, hhex⟩ := decodeUnicodeEscapeSequence_eq_ok.mp hx
    split_ifs at h with hhigh
    · obtain ⟨z, hz, h⟩ := StateProgram.except_bind_eq_ok.mp h
      cases h
      rw [← length_of_hexFour hhex, List.drop_left] at hz
      obtain ⟨hex', rest', y, rfl, hhex', rfl⟩ := decodeSurrogate_eq_ok.mp hz
      exact .inr ⟨hex, hex', rest', x, y, rfl, hhex, hhigh, hhex', rfl⟩
    · cases h
      exact .inl ⟨hex, rest, x, rfl, hhex, hhigh, rfl⟩
  · rintro (⟨hex, rest, x, rfl, hhex, hlow, rfl⟩ | ⟨hex, hex', rest, x, y, rfl, hhex, hhigh, hhex', rfl⟩)
    · refine ⟨x, decodeUnicodeEscapeSequence_eq_ok.mpr ⟨hex, rest, rfl, hhex⟩, ?_⟩
      rw [if_neg (show ¬ (0xD800 ≤ x ∧ x ≤ 0xDBFF) from hlow)]
      rfl
    · refine ⟨x, decodeUnicodeEscapeSequence_eq_ok.mpr ⟨hex, _, rfl, hhex⟩, ?_⟩
      rw [if_pos (show 0xD800 ≤ x ∧ x ≤ 0xDBFF from hhigh), ← length_of_hexFour hhex, List.drop_left]
      exact StateProgram.except_bind_eq_ok.mpr ⟨_, decodeSurrogate_eq_ok.mpr ⟨hex', rest, y, rfl, hhex', rfl⟩, rfl⟩

/-! ### Whole strings -/

theorem decodeCharacters_plain_eq_ok {c : Char} (hc : IsPlain c) {s decoded : StdString} :
    decodeCharacters (c :: s) = .ok decoded ↔
      ∃ tail, decodeCharacters s = .ok tail ∧ decoded = c :: tail := by
  rw [decodeCharacters, StateProgram.except_bind_eq_ok]
  · refine exists_congr fun tail => and_congr_right fun _ => ?_
    exact ⟨fun h => (Except.ok.inj h).symm, fun h => congrArg _ h.symm⟩
  · exact hc.1
  · exact fun h _ => hc.2 h
  · exact fun _ _ h _ => hc.2 h

theorem decodeCharacters_escape_eq_ok {c : Char} {s decoded : StdString} :
    decodeCharacters ('\\' :: c :: s) = .ok decoded ↔
      ∃ first tail, decodeEscape c s = .ok first ∧ decodeCharacters (s.drop first.2) = .ok tail ∧
        decoded = first.1 ++ tail := by
  rw [decodeCharacters, StateProgram.except_bind_eq_ok]
  constructor
  · rintro ⟨first, hfirst, h⟩
    obtain ⟨tail, htail, h⟩ := StateProgram.except_bind_eq_ok.mp h
    exact ⟨first, tail, hfirst, htail, (Except.ok.inj h).symm⟩
  · rintro ⟨first, tail, hfirst, htail, rfl⟩
    exact ⟨first, hfirst, StateProgram.except_bind_eq_ok.mpr ⟨tail, htail, rfl⟩⟩

theorem stringBody_append_iff {p s : StdString} (hp : ∀ c ∈ p, IsPlain c) :
    StringBody (p ++ s) ↔ StringBody s := by
  induction p with
  | nil => rfl
  | cons c p ih =>
    have hc := hp c (by simp)
    rw [← ih fun d hd => hp d (by simp [hd])]
    constructor
    · rw [List.cons_append]
      generalize p ++ s = tail
      intro h
      cases h with
      | plain _ hs => exact hs
      | escape d hs => exact absurd rfl hc.2
    · exact .plain hc

theorem stringBody_of_stringText {s decoded : StdString} (h : StringText s decoded) :
    StringBody s := by
  induction h with
  | nil => exact .nil
  | plain hc _ ih => exact .plain hc ih
  | short _ _ ih => exact .escape _ ih
  | unicode hx _ _ ih =>
    exact .escape _ ((stringBody_append_iff fun _ => isPlain_of_hexFour hx).mpr ih)
  | surrogates hx _ hy _ ih =>
    have htail := (stringBody_append_iff fun _ => isPlain_of_hexFour hy).mpr ih
    exact .escape _ ((stringBody_append_iff fun _ => isPlain_of_hexFour hx).mpr (.escape _ htail))

theorem decodeCharacters_of_stringText {s decoded : StdString} (h : StringText s decoded) :
    decodeCharacters s = .ok decoded := by
  induction h with
  | nil => rw [decodeCharacters]
  | plain hc _ ih => exact (decodeCharacters_plain_eq_ok hc).mpr ⟨_, ih, rfl⟩
  | short hc _ ih =>
    exact decodeCharacters_escape_eq_ok.mpr ⟨_, _, decodeEscape_of_mem hc _, ih, rfl⟩
  | @unicode hex s decoded x hx hlow _ ih =>
    have hpoint := decodeUnicodeCodePoint_eq_ok.mpr (.inl ⟨hex, s, x, rfl, hx, hlow, rfl⟩)
    refine decodeCharacters_escape_eq_ok.mpr ⟨_, _, StateProgram.except_bind_eq_ok.mpr ⟨_, hpoint, rfl⟩, ?_, rfl⟩
    rwa [← length_of_hexFour hx, List.drop_left]
  | @surrogates hex hex' s decoded x y hx hhigh hy _ ih =>
    have hpoint := decodeUnicodeCodePoint_eq_ok.mpr
      (.inr ⟨hex, hex', s, x, y, rfl, hx, hhigh, hy, rfl⟩)
    refine decodeCharacters_escape_eq_ok.mpr ⟨_, _, StateProgram.except_bind_eq_ok.mpr ⟨_, hpoint, rfl⟩, ?_, rfl⟩
    have hlength : (hex ++ '\\' :: 'u' :: hex').length = 10 := by
      simp [length_of_hexFour hx, length_of_hexFour hy]
    have happend : hex ++ '\\' :: 'u' :: (hex' ++ s) = (hex ++ '\\' :: 'u' :: hex') ++ s := by simp
    rwa [happend, ← hlength, List.drop_left]

/-- The decoder accepts the strings of the language, and no others that the scanner lets through. -/
theorem stringText_of_decodeCharacters {s decoded : StdString} (hs : StringBody s)
    (h : decodeCharacters s = .ok decoded) : StringText s decoded := by
  induction hn : s.length using Nat.strong_induction_on generalizing s decoded with
  | _ n ih =>
    subst hn
    cases hs with
    | nil =>
      rw [decodeCharacters] at h
      cases h
      exact .nil
    | plain hc hs =>
      obtain ⟨tail, htail, rfl⟩ := (decodeCharacters_plain_eq_ok hc).mp h
      exact .plain hc (ih _ (by simp) hs htail rfl)
    | @escape c s hs =>
      obtain ⟨first, tail, hfirst, htail, rfl⟩ := decodeCharacters_escape_eq_ok.mp h
      by_cases hu : c = 'u'
      · subst hu
        obtain ⟨point, hpoint, hfirst⟩ := StateProgram.except_bind_eq_ok.mp hfirst
        cases hfirst
        rcases decodeUnicodeCodePoint_eq_ok.mp hpoint with
          ⟨hex, rest, x, rfl, hx, hlow, rfl⟩ | ⟨hex, hex', rest, x, y, rfl, hx, hhigh, hy, rfl⟩
        · dsimp only at htail
          rw [← length_of_hexFour hx, List.drop_left] at htail
          have hrest := (stringBody_append_iff fun _ => isPlain_of_hexFour hx).mp hs
          exact .unicode hx hlow (ih _ (by simp; omega) hrest htail rfl)
        · have hlength : (hex ++ '\\' :: 'u' :: hex').length = 10 := by
            simp [length_of_hexFour hx, length_of_hexFour hy]
          have happend : hex ++ '\\' :: 'u' :: (hex' ++ rest) =
            (hex ++ '\\' :: 'u' :: hex') ++ rest := by simp
          dsimp only at htail
          rw [happend, ← hlength, List.drop_left] at htail
          have hsecond := (stringBody_append_iff fun _ => isPlain_of_hexFour hx).mp hs
          cases hsecond with
          | plain hc _ => exact absurd rfl hc.2
          | escape _ hsecond =>
            have hrest := (stringBody_append_iff fun _ => isPlain_of_hexFour hy).mp hsecond
            exact .surrogates hx hhigh hy (ih _ (by simp; omega) hrest htail rfl)
      · obtain ⟨d, hd, rfl⟩ := mem_shortEscapes_of_decodeEscape hu hfirst
        exact .short hd (ih _ (by simp) hs htail rfl)

end OpenXRSdk.Json
