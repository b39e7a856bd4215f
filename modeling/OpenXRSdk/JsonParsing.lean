import OpenXRSdk.JsonLexing

/-!
# The reader and the language

The reader accepts a document exactly when a text of the language comes first in it, after a gap,
and yields the value that the text denotes.
-/
namespace OpenXRSdk.Json

/-- A number takes all the characters that can belong to it. -/
def Ends (text : StdString) (rest : Location) : Prop := NumberText text → EndsNumber text rest

def BeginsValue (text : StdString) : Prop :=
  ∃ c tail, text = c :: tail ∧ isBlank c = false ∧ c ≠ ']' ∧ c ≠ '/' ∧ c.toNat < 128

/-- `rec` reads the texts that `P` tells, and after a success stands behind one. -/
structure Recognises (features : OurFeatures) (P : StdString → Value → Prop)
    (rec : Value → Reader (Bool × Value)) : Prop where
  begins : ∀ {text : StdString} {value : Value}, P text value → BeginsValue text
  sound : ∀ {current value : Value} {s t : ReaderState}, rec current s = .ok (true, value) t →
    t.errors = s.errors ∧ ∃ gap text, s.current = gap ++ (text ++ t.current) ∧
      Gap features gap ∧ P text value ∧ Ends text t.current
  complete : ∀ {current value : Value} {s : ReaderState} {gap text : StdString} {rest : Location},
    s.current = gap ++ (text ++ rest) → Gap features gap → P text value → Ends text rest →
      rec current s = .ok (true, value) (s.moveTo rest)

variable {features : OurFeatures}

/-! ## Between the tokens -/

theorem head_gap_append {gap : StdString} (h : Gap features gap) (c : Char) (rest : Location) :
    ∃ d tail, gap ++ c :: rest = d :: tail ∧ (isBlank d ∨ d = '/' ∨ d = c) := by
  cases h with
  | nil => exact ⟨c, rest, rfl, .inr (.inr rfl)⟩
  | @blank d gap hd hs => exact ⟨d, gap ++ c :: rest, rfl, .inl hd⟩
  | comment hallow ht hs =>
    cases ht with
    | block body h => exact ⟨'/', _, rfl, .inr (.inl rfl)⟩
    | line body eol h heol => exact ⟨'/', _, rfl, .inr (.inl rfl)⟩

theorem not_isNumberChar_of_isBlank {c : Char} (h : isBlank c) : ¬ IsNumberChar c ∧ c ≠ 'I' := by
  simp only [isBlank, Bool.or_eq_true, decide_eq_true_eq] at h
  rcases h with ((rfl | rfl) | rfl) | rfl <;> simp [IsNumberChar]

/-- No number goes on over a gap that a bracket, a brace or a comma follows. -/
theorem ends_gap {gap text : StdString} (hgap : Gap features gap) {c : Char}
    (hc : ¬ IsNumberChar c ∧ c ≠ 'I') (rest : Location) : Ends text (gap ++ c :: rest) := by
  intro _
  apply endsNumber_of_head
  obtain ⟨d, tail, heq, hd⟩ := head_gap_append hgap c rest
  rw [heq]
  intro e he
  cases he
  rcases hd with hd | rfl | rfl
  · exact not_isNumberChar_of_isBlank hd
  · simp [IsNumberChar]
  · exact hc

@[simp] theorem moveTo_moveTo (s : ReaderState) (current current' : Location) :
    (s.moveTo current).moveTo current' = s.moveTo current' := rfl

variable {P : StdString → Value → Prop} {rec : Value → Reader (Bool × Value)}

/-! ## Arrays -/

section Arrays

theorem readElements_of_text (hrec : Recognises features P rec) {gap text : StdString} {value : Value}
    (hgap : Gap features gap) (htext : P text value) {after : Location} (hends : Ends text after)
    {s : ReaderState} (hs : s.current = gap ++ (text ++ after)) (turns : ℕ) {elements : List Value}
    (hcount : elements.length < Value.maxInt) :
    readElements features rec (turns + 1) elements s =
      if (readTokenSkippingComments features after).type = .arrayEnd then
        .ok (true, elements ++ [value])
          (s.moveTo (readTokenSkippingComments features after).stop)
      else if (readTokenSkippingComments features after).type = .arraySeparator then
        readElements features rec turns (elements ++ [value])
          (s.moveTo (readTokenSkippingComments features after).stop)
      else .ok (false, elements ++ [value])
        (((s.moveTo (readTokenSkippingComments features after).stop).addError
          "Missing ',' or ']' in array declaration".toList
          (readTokenSkippingComments features after)).recover .arrayEnd) := by
  obtain ⟨c, tail, rfl, hblank, hbracket, -⟩ := hrec.begins htext
  obtain ⟨gap', hgap', hskip⟩ := skipSpaces_gap hgap hblank (tail ++ after)
  have hcurrent : skipSpaces s.current = gap' ++ (c :: tail ++ after) := by rw [hs]; exact hskip
  have hhead : (skipSpaces s.current).head? ≠ some ']' := by
    obtain ⟨d, rest, heq, hd⟩ := head_gap_append hgap' c (tail ++ after)
    rw [hcurrent, List.cons_append, heq]
    rintro h
    cases h
    rcases hd with hd | hd | hd
    · exact absurd hd (by decide)
    · exact absurd hd (by decide)
    · exact hbracket hd.symm
  have hread : rec .null (s.moveTo (skipSpaces s.current)) =
      .ok (true, value) ((s.moveTo (skipSpaces s.current)).moveTo after) :=
    hrec.complete hcurrent hgap' htext hends
  rw [readElements_run, if_neg fun h => hhead h.1, if_neg (Nat.not_le_of_lt hcount), hread]
  rfl

theorem readTokenSkippingComments_arrayEnd {gap : StdString} (hgap : Gap features gap)
    (rest : Location) : readTokenSkippingComments features (gap ++ ']' :: rest) =
      ⟨.arrayEnd, ']' :: rest, rest⟩ :=
  readTokenSkippingComments_append hgap (by decide) (by decide) rest

theorem readTokenSkippingComments_arraySeparator {gap : StdString} (hgap : Gap features gap)
    (rest : Location) : readTokenSkippingComments features (gap ++ ',' :: rest) =
      ⟨.arraySeparator, ',' :: rest, rest⟩ :=
  readTokenSkippingComments_append hgap (by decide) (by decide) rest

theorem readElements_complete (hrec : Recognises features P rec) {first : Bool} {text : StdString}
    {values : List Value} (h : Elements features P first text values) {turns : ℕ}
    (hturns : text.length < turns) {elements : List Value} (hfirst : first = elements.isEmpty)
    (hcount : (elements ++ values).length ≤ Value.maxInt) {s : ReaderState} {rest : Location}
    (hs : s.current = text ++ ']' :: rest) :
    readElements features rec turns elements s = .ok (true, elements ++ values) (s.moveTo rest) := by
  induction h generalizing turns elements s with
  | @done first blanks hblanks hdone =>
    obtain ⟨turns, rfl⟩ := Nat.exists_eq_add_of_lt hturns
    have hskip : skipSpaces s.current = ']' :: rest := by
      rw [hs, skipSpaces_append hblanks, skipSpaces_cons (by decide)]
    have hempty : elements = [] ∨ features.allowTrailingCommas := by
      rcases hdone with hdone | hdone
      · exact .inl (List.isEmpty_iff.mp (hfirst ▸ hdone))
      · exact .inr hdone
    rw [readElements_run, hskip, if_pos ⟨rfl, hempty⟩, readToken_cons (by decide), List.append_nil]
    rfl
  | @last first gap text gap' value hgap htext hgap' =>
    obtain ⟨turns, rfl⟩ := Nat.exists_eq_add_of_lt hturns
    have hends : Ends text (gap' ++ ']' :: rest) := ends_gap hgap' (by simp [IsNumberChar]) rest
    rw [readElements_of_text hrec hgap htext hends (by simpa using hs) _ (by simpa using hcount),
      readTokenSkippingComments_arrayEnd hgap', if_pos rfl]
  | @next first gap text gap' tail value values hgap htext hgap' _ ih =>
    obtain ⟨turns, rfl⟩ := Nat.exists_eq_add_of_lt hturns
    have hends : Ends text (gap' ++ ',' :: (tail ++ ']' :: rest)) :=
      ends_gap hgap' (by simp [IsNumberChar]) _
    have hmore : elements.length < Value.maxInt := by
      simp only [List.length_append, List.length_cons] at hcount
      omega
    rw [readElements_of_text hrec hgap htext hends (by simpa using hs) _ hmore,
      readTokenSkippingComments_arraySeparator hgap', if_neg nofun, if_pos rfl,
      ih (by simp; omega) (by simp) (by simpa using hcount) rfl]
    simp

theorem readElements_sound (hrec : Recognises features P rec) {turns : ℕ}
    {elements result : List Value} {s t : ReaderState} (hcount : elements.length ≤ Value.maxInt)
    (h : readElements features rec turns elements s = .ok (true, result) t) :
    t.errors = s.errors ∧ ∃ text values, result = elements ++ values ∧
      s.current = text ++ ']' :: t.current ∧ Elements features P elements.isEmpty text values ∧
      result.length ≤ Value.maxInt := by
  induction turns generalizing elements s with
  | zero => cases h
  | succ turns ih =>
    rw [readElements_run] at h
    obtain ⟨blanks, hblanks, hblank⟩ := skipSpaces_eq s.current
    split_ifs at h with hdone hmany
    · cases h
      cases hskip : skipSpaces s.current with
      | nil => simp [hskip] at hdone
      | cons c rest =>
        simp only [hskip, List.head?_cons, Option.some.injEq] at hdone hblanks
        obtain ⟨rfl, hempty⟩ := hdone
        refine ⟨rfl, blanks, [], by simp, ?_, .done hblank ?_, hcount⟩
        · rw [hblanks, readToken_cons (by decide)]
          rfl
        · rcases hempty with rfl | hcommas
          · exact .inl rfl
          · exact .inr hcommas
    · split at h
      · cases h
      · cases h
      · rename_i value u hread
        obtain ⟨herrors, gap, text, hu, hgap, htext, -⟩ := hrec.sound hread
        have hgap₁ := gap_of_blanks hblank hgap
        have hcurrent : s.current = (blanks ++ gap) ++ (text ++ u.current) := by
          rw [List.append_assoc, ← hu]
          exact hblanks
        have hcount' : (elements ++ [value]).length ≤ Value.maxInt := by
          simpa using Nat.lt_of_not_le hmany
        dsimp only at h
        split_ifs at h with hend hseparator
        · cases h
          obtain ⟨gap', c, rest, heq, hgap', -, rfl, hrest⟩ :=
            spells_readTokenSkippingComments hend (by decide)
          refine ⟨herrors, (blanks ++ gap) ++ (text ++ gap'), [value], rfl, ?_,
            .last hgap₁ htext hgap', hcount'⟩
          rw [ReaderState.moveTo_current, ← hrest, hcurrent, heq]
          simp
        · obtain ⟨gap', c, rest, heq, hgap', -, rfl, hrest⟩ :=
            spells_readTokenSkippingComments hseparator (by decide)
          obtain ⟨herrors', tail, values, rfl, htail, helements, hresult⟩ := ih hcount' h
          have hfirst : (elements ++ [value]).isEmpty = false := by simp
          rw [hfirst] at helements
          refine ⟨herrors'.trans herrors, (blanks ++ gap) ++ (text ++ (gap' ++ ',' :: tail)),
            value :: values, by simp, ?_, .next hgap₁ htext hgap' helements, hresult⟩
          rw [ReaderState.moveTo_current, ← hrest] at htail
          rw [hcurrent, heq, htail]
          simp
        · cases h

end Arrays

/-! ## Strings -/

theorem inside_eq {token : Token} {body : StdString}
    (h : token.start = '"' :: (body ++ '"' :: token.stop)) : token.inside = body := by
  have htext : token.text = '"' :: (body ++ ['"']) := by
    rw [Token.text, h, show '"' :: (body ++ '"' :: token.stop) =
      ('"' :: (body ++ ['"'])) ++ token.stop by simp, List.length_append, Nat.add_sub_cancel,
      List.take_left]
  simp [Token.inside, htext]

theorem readTokenSkippingComments_string {gap body : StdString} (hgap : Gap features gap)
    (hbody : StringBody body) (rest : Location) :
    readTokenSkippingComments features (gap ++ '"' :: (body ++ '"' :: rest)) =
      ⟨.string, '"' :: (body ++ '"' :: rest), rest⟩ := by
  rw [readTokenSkippingComments_append hgap (by decide) (by decide)]
  simp only [readFrom, readString_body hbody]
  rfl

theorem string_of_readTokenSkippingComments {current : Location}
    (h : (readTokenSkippingComments features current).type = .string) :
    ∃ gap body, Gap features gap ∧ StringBody body ∧
      (readTokenSkippingComments features current).inside = body ∧
      current = gap ++ '"' :: (body ++ '"' :: (readTokenSkippingComments features current).stop) := by
  obtain ⟨gap, c, rest, heq, hgap, hstart, rfl, hread⟩ :=
    spells_readTokenSkippingComments h (by decide)
  obtain ⟨body, hbody, hrest⟩ := @readString_eq rest (by rw [hread])
  rw [hread] at hrest
  refine ⟨gap, body, hgap, hbody, inside_eq (by rw [hstart, hrest]), ?_⟩
  rw [← hrest]
  exact heq

/-! ## Objects -/

section Objects

theorem readTokenSkippingComments_objectEnd {gap : StdString} (hgap : Gap features gap)
    (rest : Location) : readTokenSkippingComments features (gap ++ '}' :: rest) =
      ⟨.objectEnd, '}' :: rest, rest⟩ :=
  readTokenSkippingComments_append hgap (by decide) (by decide) rest

theorem readMember_of_text (hrec : Recognises features P rec) {blanks gap text : StdString}
    {value : Value} (hblanks : IsBlanks blanks) (hgap : Gap features gap) (htext : P text value)
    {after : Location} (hends : Ends text after) {s : ReaderState}
    (hs : s.current = blanks ++ ':' :: (gap ++ (text ++ after))) (name : StdString)
    (members : List (StdString × Value)) :
    readMember features rec name members s =
      if (readTokenSkippingComments features after).type = .objectEnd then
        .ok (some true, insertMember name value members)
          (s.moveTo (readTokenSkippingComments features after).stop)
      else if (readTokenSkippingComments features after).type = .arraySeparator then
        .ok (none, insertMember name value members)
          (s.moveTo (readTokenSkippingComments features after).stop)
      else .ok (some false, insertMember name value members)
        (((s.moveTo (readTokenSkippingComments features after).stop).addError
          "Missing ',' or '\x7d' in object declaration".toList
          (readTokenSkippingComments features after)).recover .objectEnd) := by
  have hcolon : readToken s.current =
      ⟨.memberSeparator, ':' :: (gap ++ (text ++ after)), gap ++ (text ++ after)⟩ := by
    rw [hs, readToken_append hblanks, readToken_cons (by decide)]
    rfl
  have hread : rec ((Value.object members).lookup name) (s.moveTo (gap ++ (text ++ after))) =
      .ok (true, value) ((s.moveTo (gap ++ (text ++ after))).moveTo after) :=
    hrec.complete rfl hgap htext hends
  rw [readMember_run, hcolon]
  dsimp only
  rw [if_neg (by simp), hread]
  rfl

theorem colon_of_readToken {current : Location} (h : (readToken current).type = .memberSeparator) :
    ∃ blanks, IsBlanks blanks ∧ current = blanks ++ ':' :: (readToken current).stop := by
  obtain ⟨blanks, c, rest, heq, hblanks, -, htoken⟩ := readToken_eq (by rw [h]; decide)
  have hspells := spells_readFrom c rest
  rw [show (readFrom c rest).1 = .memberSeparator by rw [← h, htoken]] at hspells
  obtain ⟨rfl, hrest⟩ := hspells
  refine ⟨blanks, hblanks, ?_⟩
  rw [htoken]
  exact heq.trans (congrArg (blanks ++ ':' :: ·) hrest)

theorem readMember_sound (hrec : Recognises features P rec) {name : StdString}
    {members members' : List (StdString × Value)} {result : Option Bool} {s t : ReaderState}
    (h : readMember features rec name members s = .ok (result, members') t)
    (hresult : result ≠ some false) :
    t.errors = s.errors ∧ ∃ blanks gap text value gap' c,
      s.current = blanks ++ ':' :: (gap ++ (text ++ (gap' ++ c :: t.current))) ∧
      IsBlanks blanks ∧ Gap features gap ∧ P text value ∧ Gap features gap' ∧
      members' = insertMember name value members ∧
      (result = some true ∧ c = '}' ∨ result = none ∧ c = ',') := by
  rw [readMember_run] at h
  dsimp only at h
  split_ifs at h with hcolon
  · cases h
    exact absurd rfl hresult
  split at h
  · cases h
  · cases h
    exact absurd rfl hresult
  rename_i value u hread
  obtain ⟨herrors, gap, text, hu, hgap, htext, -⟩ := hrec.sound hread
  obtain ⟨blanks, hblanks, heq⟩ := colon_of_readToken (not_not.mp hcolon)
  have hcurrent : s.current = blanks ++ ':' :: (gap ++ (text ++ u.current)) := by
    rw [← hu]
    exact heq
  split_ifs at h with hend hseparator
  · cases h
    obtain ⟨gap', c, rest', heq', hgap', -, rfl, hrest'⟩ :=
      spells_readTokenSkippingComments hend (by decide)
    refine ⟨herrors, blanks, gap, text, value, gap', '}', ?_, hblanks, hgap, htext, hgap', rfl,
      .inl ⟨rfl, rfl⟩⟩
    rw [ReaderState.moveTo_current, ← hrest', hcurrent, heq']
  · cases h
    obtain ⟨gap', c, rest', heq', hgap', -, rfl, hrest'⟩ :=
      spells_readTokenSkippingComments hseparator (by decide)
    refine ⟨herrors, blanks, gap, text, value, gap', ',', ?_, hblanks, hgap, htext, hgap', rfl,
      .inr ⟨rfl, rfl⟩⟩
    rw [ReaderState.moveTo_current, ← hrest', hcurrent, heq']
  · cases h
    exact absurd rfl hresult

/-- The rest of a turn of the loop, behind a name that it takes. -/
theorem readMembers_key_run {gap key name : StdString} (hgap : Gap features gap)
    (hkey : StringText key name) (hshort : name.length < 2 ^ 30)
    {members : List (StdString × Value)}
    (hnew : features.rejectDupKeys → isMember name members = false) {after : Location}
    {s : ReaderState} (hs : s.current = gap ++ '"' :: (key ++ '"' :: after)) (turns : ℕ)
    (previous : StdString) :
    readMembers features rec (turns + 1) previous members s =
      (readMember features rec name members >>= fun read =>
        read.1.elim (readMembers features rec turns name read.2) fun ok => pure (ok, read.2))
        (s.moveTo after) := by
  have htoken := readTokenSkippingComments_string hgap (stringBody_of_stringText hkey) after
  have hinside : (Token.mk .string ('"' :: (key ++ '"' :: after)) after).inside = key := inside_eq rfl
  have hdup : ¬ (features.rejectDupKeys ∧ isMember name members) := by
    rintro ⟨hreject, hold⟩
    rw [hnew hreject] at hold
    cases hold
  rw [readMembers_run, hs, htoken]
  dsimp only
  rw [if_neg nofun, if_neg (by simp), hinside, decodeCharacters_of_stringText hkey]
  dsimp only
  rw [if_neg (Nat.not_le_of_lt hshort), if_neg hdup]
  cases hread : readMember features rec name members (s.moveTo after) with
  | error fault u => exact (StateProgram.bind_of_error hread).symm
  | ok read u =>
    rw [StateProgram.bind_of_ok hread]
    obtain ⟨_ | ok, members'⟩ := read <;> rfl

theorem readMembers_of_key {gap key name : StdString} (hgap : Gap features gap)
    (hkey : StringText key name) (hshort : name.length < 2 ^ 30)
    {members members' : List (StdString × Value)}
    (hnew : features.rejectDupKeys → isMember name members = false) {after : Location}
    {s u : ReaderState} (hs : s.current = gap ++ '"' :: (key ++ '"' :: after)) {result : Option Bool}
    (hmember : readMember features rec name members (s.moveTo after) = .ok (result, members') u)
    (turns : ℕ) (previous : StdString) :
    readMembers features rec (turns + 1) previous members s =
      result.elim (readMembers features rec turns name members' u) fun ok => .ok (ok, members') u := by
  rw [readMembers_key_run hgap hkey hshort hnew hs, StateProgram.bind_of_ok hmember]
  cases result <;> rfl

theorem readMembers_complete (hrec : Recognises features P rec) {previous text : StdString}
    {members members' : List (StdString × Value)}
    (h : Members features P previous members text members') {turns : ℕ}
    (hturns : text.length < turns) {s : ReaderState} {rest : Location}
    (hs : s.current = text ++ '}' :: rest) :
    readMembers features rec turns previous members s = .ok (true, members') (s.moveTo rest) := by
  induction h generalizing turns s with
  | @done previous gap members hgap hname =>
    obtain ⟨turns, rfl⟩ := Nat.exists_eq_add_of_lt hturns
    rw [readMembers_run, hs, readTokenSkippingComments_objectEnd hgap]
    exact if_pos ⟨rfl, hname⟩
  | @last previous text name members members' hmember =>
    obtain ⟨turns, rfl⟩ := Nat.exists_eq_add_of_lt hturns
    obtain @⟨gap, key, _, blanks, gap', text, gap'', value, hgap, hkey, hshort, hnew, hblanks, hgap',
      htext, hgap''⟩ := hmember
    have hends : Ends text (gap'' ++ '}' :: rest) := ends_gap hgap'' (by simp [IsNumberChar]) rest
    have hread := readMember_of_text hrec hblanks hgap' htext hends
      (s := s.moveTo (blanks ++ ':' :: (gap' ++ (text ++ (gap'' ++ '}' :: rest))))) rfl name members
    rw [readTokenSkippingComments_objectEnd hgap'', if_pos rfl] at hread
    exact readMembers_of_key hgap hkey hshort hnew (by rw [hs]; simp) hread _ previous
  | @next previous text name tail members members' members'' hmember _ ih =>
    obtain ⟨turns, rfl⟩ := Nat.exists_eq_add_of_lt hturns
    obtain @⟨gap, key, _, blanks, gap', text, gap'', value, hgap, hkey, hshort, hnew, hblanks, hgap',
      htext, hgap''⟩ := hmember
    have hends : Ends text (gap'' ++ ',' :: (tail ++ '}' :: rest)) :=
      ends_gap hgap'' (by simp [IsNumberChar]) _
    have hread := readMember_of_text hrec hblanks hgap' htext hends (s := s.moveTo
      (blanks ++ ':' :: (gap' ++ (text ++ (gap'' ++ ',' :: (tail ++ '}' :: rest)))))) rfl name members
    rw [readTokenSkippingComments_arraySeparator hgap'', if_neg nofun, if_pos rfl] at hread
    rw [readMembers_of_key hgap hkey hshort hnew (by rw [hs]; simp) hread _ previous]
    exact ih (by simp; omega) rfl

theorem readMembers_sound (hrec : Recognises features P rec) {turns : ℕ} {previous : StdString}
    {members members' : List (StdString × Value)} {s t : ReaderState}
    (h : readMembers features rec turns previous members s = .ok (true, members') t) :
    t.errors = s.errors ∧ ∃ text, s.current = text ++ '}' :: t.current ∧
      Members features P previous members text members' := by
  induction turns generalizing previous members s with
  | zero => cases h
  | succ turns ih =>
    rw [readMembers_run] at h
    dsimp only at h
    split_ifs at h with hend hstring
    · cases h
      obtain ⟨gap, c, rest, heq, hgap, -, rfl, hrest⟩ :=
        spells_readTokenSkippingComments hend.1 (by decide)
      refine ⟨rfl, gap, ?_, .done hgap hend.2⟩
      rw [ReaderState.moveTo_current, ← hrest, heq]
    · cases h
    obtain ⟨gap, key, hgap, hbody, hinside, heq⟩ :=
      string_of_readTokenSkippingComments (not_not.mp hstring)
    rw [hinside] at h
    split at h
    · cases h
    rename_i name hdecode
    have hkey := stringText_of_decodeCharacters hbody hdecode
    split_ifs at h with hlong hdup
    · cases h
    have hnew (hreject : features.rejectDupKeys) : isMember name members = false := by
      simpa [hreject] using hdup
    split at h
    · cases h
    · rename_i ok members'' u hread
      cases h
      obtain ⟨herrors, blanks, gap', text, value, gap'', c, hcurrent, hblanks, hgap', htext, hgap'',
        rfl, ⟨-, rfl⟩ | ⟨hnone, -⟩⟩ := readMember_sound hrec hread (by simp)
      · refine ⟨herrors, _, ?_, .last ⟨hgap, hkey, Nat.lt_of_not_le hlong, hnew, hblanks, hgap',
          htext, hgap''⟩⟩
        rw [heq, show (readTokenSkippingComments features s.current).stop = _ from hcurrent]
        simp
      · cases hnone
    · rename_i members'' u hread
      obtain ⟨herrors, blanks, gap', text, value, gap'', c, hcurrent, hblanks, hgap', htext, hgap'',
        rfl, ⟨hsome, -⟩ | ⟨-, rfl⟩⟩ := readMember_sound hrec hread (by simp)
      · cases hsome
      · obtain ⟨herrors', tail, htail, hmembers⟩ := ih h
        refine ⟨herrors'.trans herrors, _, ?_, .next ⟨hgap, hkey, Nat.lt_of_not_le hlong, hnew,
          hblanks, hgap', htext, hgap''⟩ hmembers⟩
        rw [heq, show (readTokenSkippingComments features s.current).stop = _ from hcurrent, htail]
        simp

end Objects

/-! ## Values -/

section Values
variable {readDouble : StdString → Option ℚ}

theorem beginsValue_of_valueStep {text : StdString} {value : Value}
    (h : ValueStep features readDouble P text value) : BeginsValue text := by
  cases h with
  | null => exact ⟨'n', _, rfl, by decide⟩
  | true => exact ⟨'t', _, rfl, by decide⟩
  | false => exact ⟨'f', _, rfl, by decide⟩
  | number htext _ =>
    obtain ⟨c, tail, rfl, hc, -⟩ := htext
    refine ⟨c, tail, rfl, ?_⟩
    rcases hc with rfl | rfl | hdigit
    · decide
    · decide
    · have hnat := digit_le hdigit
      refine ⟨isBlank_of_isDigit hdigit, ?_, ?_, by omega⟩ <;> rintro rfl <;> cases hdigit
  | string hs _ => exact ⟨'"', _, rfl, by decide⟩
  | array hs _ => exact ⟨'[', _, rfl, by decide⟩
  | object hs => exact ⟨'{', _, rfl, by decide⟩

theorem matchPattern_append (pattern rest : StdString) :
    matchPattern pattern (pattern ++ rest) = (true, rest) := by
  simp [matchPattern]

theorem readTokenSkippingComments_number {gap text : StdString} (hgap : Gap features gap)
    (htext : NumberText text) {rest : Location} (hends : EndsNumber text rest) :
    readTokenSkippingComments features (gap ++ (text ++ rest)) = ⟨.number, text ++ rest, rest⟩ := by
  have htoken := readToken_number htext hends
  rw [readTokenSkippingComments_gap hgap, readTokenSkippingComments_of_not_comment (by rw [htoken]; simp),
    htoken]

theorem readTokenSkippingComments_literal {gap pattern : StdString} {c : Char} {type : TokenType}
    (hgap : Gap features gap) (hblank : isBlank c = false) (hc : c ≠ '/')
    (hfrom : ∀ rest, readFrom c rest = accept type (matchPattern pattern rest)) (rest : Location) :
    readTokenSkippingComments features (gap ++ (c :: pattern ++ rest)) =
      ⟨type, c :: pattern ++ rest, rest⟩ := by
  rw [List.cons_append, readTokenSkippingComments_append hgap hblank hc, hfrom, matchPattern_append]
  rfl

theorem readValue_complete {room : ℕ}
    (hrec : Recognises features P (readValue features readDouble room)) {current value : Value}
    {s : ReaderState} {gap text : StdString} {rest : Location}
    (hs : s.current = gap ++ (text ++ rest)) (hgap : Gap features gap)
    (h : ValueStep features readDouble P text value) (hends : Ends text rest) :
    readValue features readDouble (room + 1) current s = .ok (true, value) (s.moveTo rest) := by
  rw [readValue_run, hs]
  cases h with
  | null =>
    rw [show "null".toList = 'n' :: "ull".toList from rfl,
      readTokenSkippingComments_literal hgap (by decide) (by decide) fun _ => rfl]
  | true =>
    rw [show "true".toList = 't' :: "rue".toList from rfl,
      readTokenSkippingComments_literal hgap (by decide) (by decide) fun _ => rfl]
  | false =>
    rw [show "false".toList = 'f' :: "alse".toList from rfl,
      readTokenSkippingComments_literal hgap (by decide) (by decide) fun _ => rfl]
  | number htext hvalue =>
    rw [readTokenSkippingComments_number hgap htext (hends htext)]
    dsimp only
    rw [text_of_append, hvalue]
  | @string body decoded hbody hshort =>
    have htoken := readTokenSkippingComments_string hgap (stringBody_of_stringText hbody) rest
    have hinside : (Token.mk .string ('"' :: (body ++ '"' :: rest)) rest).inside = body := inside_eq rfl
    rw [List.cons_append, List.append_assoc, List.singleton_append, htoken]
    dsimp only
    rw [hinside, decodeCharacters_of_stringText hbody]
    dsimp only
    rw [Value.ofString, if_pos hshort]
  | @array body values hvalues hcount =>
    rw [List.cons_append, List.append_assoc, List.singleton_append,
      readTokenSkippingComments_append hgap (by decide) (by decide)]
    have hread : readElements features (readValue features readDouble room)
        ((body ++ ']' :: rest).length + 1) [] (s.moveTo (body ++ ']' :: rest)) =
          .ok (true, values) (s.moveTo rest) :=
      readElements_complete hrec hvalues (by simp) rfl (by simpa using hcount) rfl
    simp only [readFrom]
    rw [hread]
  | @object body members hmembers =>
    rw [List.cons_append, List.append_assoc, List.singleton_append,
      readTokenSkippingComments_append hgap (by decide) (by decide)]
    have hread : readMembers features (readValue features readDouble room)
        ((body ++ '}' :: rest).length + 1) [] [] (s.moveTo (body ++ '}' :: rest)) =
          .ok (true, members) (s.moveTo rest) :=
      readMembers_complete hrec hmembers (by simp) rfl
    simp only [readFrom]
    rw [hread]

theorem ends_of_begins {c : Char} (h : ¬ (c = '-' ∨ c = '+' ∨ c.isDigit)) (tail : StdString)
    (rest : Location) : Ends (c :: tail) rest := by
  rintro ⟨d, tail', heq, hd, -⟩
  cases heq
  exact absurd hd h

theorem readValue_sound {room : ℕ}
    (hrec : Recognises features P (readValue features readDouble room)) {current value : Value}
    {s t : ReaderState} (h : readValue features readDouble (room + 1) current s = .ok (true, value) t) :
    t.errors = s.errors ∧ ∃ gap text, s.current = gap ++ (text ++ t.current) ∧
      Gap features gap ∧ ValueStep features readDouble P text value ∧ Ends text t.current := by
  rw [readValue_run] at h
  dsimp only at h
  split at h
  case h_1 htype =>
    obtain ⟨gap, c, rest, heq, hgap, -, rfl, hrest⟩ :=
      spells_readTokenSkippingComments htype (by decide)
    split at h
    · cases h
    · rename_i ok members u hread
      cases h
      obtain ⟨herrors, body, hbody, hmembers⟩ := readMembers_sound hrec hread
      rw [ReaderState.moveTo_current, ← hrest] at hbody
      refine ⟨herrors, gap, '{' :: (body ++ ['}']), ?_, hgap, .object hmembers,
        ends_of_begins (by decide) _ _⟩
      rw [heq, hbody]
      simp
  case h_2 htype =>
    obtain ⟨gap, c, rest, heq, hgap, -, rfl, hrest⟩ :=
      spells_readTokenSkippingComments htype (by decide)
    split at h
    · cases h
    · rename_i ok elements u hread
      cases h
      obtain ⟨herrors, body, values, rfl, hbody, hvalues, hcount⟩ :=
        readElements_sound hrec (Nat.zero_le _) hread
      rw [ReaderState.moveTo_current, ← hrest] at hbody
      refine ⟨herrors, gap, '[' :: (body ++ [']']), ?_, hgap, .array hvalues hcount,
        ends_of_begins (by decide) _ _⟩
      rw [heq, hbody]
      simp
  case h_3 htype =>
    obtain ⟨gap, c, rest, heq, hgap, hstart, text, htext, hnumber, hends⟩ :=
      spells_readTokenSkippingComments htype (by decide)
    split at h
    · rename_i decoded hdecode
      cases h
      rw [Token.text, hstart, htext, List.length_append, Nat.add_sub_cancel, List.take_left] at hdecode
      exact ⟨rfl, gap, text, heq.trans (congrArg (gap ++ ·) htext), hgap, .number hnumber hdecode, fun _ => hends⟩
    · cases h
  case h_4 htype =>
    obtain ⟨gap, body, hgap, hbody, hinside, heq⟩ := string_of_readTokenSkippingComments htype
    rw [hinside] at h
    split at h
    · rename_i decoded hdecode
      rw [Value.ofString] at h
      split_ifs at h with hshort
      cases h
      exact ⟨rfl, gap, '"' :: (body ++ ['"']), heq.trans (by simp), hgap,
        .string (stringText_of_decodeCharacters hbody hdecode) hshort, ends_of_begins (by decide) _ _⟩
    · cases h
  case h_5 htype =>
    obtain ⟨gap, c, rest, heq, hgap, -, rfl, hrest⟩ :=
      spells_readTokenSkippingComments htype (by decide)
    cases h
    exact ⟨rfl, gap, "true".toList, heq.trans (congrArg (gap ++ 't' :: ·) hrest), hgap, .true,
      ends_of_begins (by decide) _ _⟩
  case h_6 htype =>
    obtain ⟨gap, c, rest, heq, hgap, -, rfl, hrest⟩ :=
      spells_readTokenSkippingComments htype (by decide)
    cases h
    exact ⟨rfl, gap, "false".toList, heq.trans (congrArg (gap ++ 'f' :: ·) hrest), hgap, .false,
      ends_of_begins (by decide) _ _⟩
  case h_7 htype =>
    obtain ⟨gap, c, rest, heq, hgap, -, rfl, hrest⟩ :=
      spells_readTokenSkippingComments htype (by decide)
    cases h
    exact ⟨rfl, gap, "null".toList, heq.trans (congrArg (gap ++ 'n' :: ·) hrest), hgap, .null,
      ends_of_begins (by decide) _ _⟩
  case h_8 => cases h

/-- The reader reads the texts of the values that are nested no deeper than there is room for. -/
theorem recognises_readValue (features : OurFeatures) (readDouble : StdString → Option ℚ) (room : ℕ) :
    Recognises features (ValueText features readDouble room) (readValue features readDouble room) := by
  induction room with
  | zero => exact ⟨nofun, nofun, nofun⟩
  | succ room ih =>
    exact ⟨beginsValue_of_valueStep, readValue_sound ih,
      fun hs hgap htext hends => readValue_complete ih hs hgap htext hends⟩

/-! ## Documents -/

/-- `document` begins, behind a byte order mark that is skipped and a gap, with a text of `value`,
and nothing that comes after it speaks against it. -/
def Accepts (features : OurFeatures) (readDouble : StdString → Option ℚ) (document : Location)
    (value : Value) : Prop :=
  ∃ gap text rest, skipBom features document = gap ++ (text ++ rest) ∧ Gap features gap ∧
    ValueText features readDouble features.stackLimit text value ∧ Ends text rest ∧
    (features.failIfExtra → (readTokenSkippingComments features rest).type = .endOfStream) ∧
    (features.strictRoot → isContainer value)

theorem checkRoot_run (features : OurFeatures) (document : Location) (read : Bool × Value) (s : ReaderState) :
    checkRoot features document read s =
      if features.failIfExtra ∧
          (readTokenSkippingComments features s.current).type ≠ .endOfStream then
        .ok (false, read.2) ((s.moveTo (readTokenSkippingComments features s.current).stop).addError
          "Extra non-whitespace after JSON value.".toList
          (readTokenSkippingComments features s.current))
      else if features.strictRoot ∧ !isContainer read.2 then
        .ok (false, read.2) ((s.moveTo (readTokenSkippingComments features s.current).stop).addError
          ("A valid JSON document must be either an array or an object " ++ "value.").toList
          ⟨.error, document, []⟩)
      else .ok read (s.moveTo (readTokenSkippingComments features s.current).stop) := by
  rw [checkRoot, StateProgram.bind_of_ok (advance_run _ s)]
  split_ifs <;> rfl

theorem parse_of_ok {document : Location} {root : Value} {read result : Bool × Value}
    {t u : ReaderState} (h : readValue features readDouble features.stackLimit root
      ⟨skipBom features document, []⟩ = .ok read t)
    (hcheck : checkRoot features document read t = .ok result u) :
    parse features readDouble document root = .ok (result, u.errors) := by
  rw [parse, StateProgram.bind_of_ok h, hcheck]

theorem parse_of_error {document : Location} {root : Value} {fault : Fault} {t : ReaderState}
    (h : readValue features readDouble features.stackLimit root
      ⟨skipBom features document, []⟩ = .error fault t) :
    parse features readDouble document root = .error fault := by
  rw [parse, StateProgram.bind_of_error h]

theorem accepts_of_parse {document : Location} {root value : Value} {errors : List ErrorInfo}
    (h : parse features readDouble document root = .ok ((true, value), errors)) :
    errors = [] ∧ Accepts features readDouble document value := by
  cases hread : readValue features readDouble features.stackLimit root
      ⟨skipBom features document, []⟩ with
  | error fault t =>
    rw [parse_of_error hread] at h
    cases h
  | ok read t =>
    have hcheck := checkRoot_run features document read t
    split_ifs at hcheck with hextra hroot
    · rw [parse_of_ok hread hcheck] at h
      cases h
    · rw [parse_of_ok hread hcheck] at h
      cases h
    · rw [parse_of_ok hread hcheck] at h
      cases h
      obtain ⟨herrors, gap, text, heq, hgap, htext, hends⟩ :=
        (recognises_readValue features readDouble features.stackLimit).sound hread
      refine ⟨herrors, gap, text, t.current, heq, hgap, htext, hends, fun hfail => ?_, fun hstrict => ?_⟩
      · by_contra htype
        exact hextra ⟨hfail, htype⟩
      · by_contra hcontainer
        exact hroot ⟨hstrict, by simpa using hcontainer⟩

theorem parse_of_accepts {document : Location} {value : Value}
    (h : Accepts features readDouble document value) (root : Value) :
    parse features readDouble document root = .ok ((true, value), []) := by
  obtain ⟨gap, text, rest, heq, hgap, htext, hends, hextra, hroot⟩ := h
  have hread : readValue features readDouble features.stackLimit root
      ⟨skipBom features document, []⟩ =
        .ok (true, value) ((⟨skipBom features document, []⟩ : ReaderState).moveTo rest) :=
    (recognises_readValue features readDouble _).complete heq hgap htext hends
  have hcheck := checkRoot_run features document (true, value)
    ((⟨skipBom features document, []⟩ : ReaderState).moveTo rest)
  rw [if_neg fun h => h.2 (hextra h.1), if_neg fun h => by simp [hroot h.1] at h] at hcheck
  exact parse_of_ok hread hcheck

/-- The reader accepts the documents of the language, and no others, and reads the values that
they denote. -/
theorem parse_eq_ok_true_iff (features : OurFeatures) (readDouble : StdString → Option ℚ)
    (document : Location) (root value : Value) (errors : List ErrorInfo) :
    parse features readDouble document root = .ok ((true, value), errors) ↔
      errors = [] ∧ Accepts features readDouble document value := by
  constructor
  · exact accepts_of_parse
  · rintro ⟨rfl, h⟩
    exact parse_of_accepts h root

end Values

end OpenXRSdk.Json
