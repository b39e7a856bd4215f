import OpenXRSdk.JsonErrors

/-!
# Exceptions of the reader

The documents on which the reader raises an exception: those that open more arrays and objects
within each other than there is room for, and those with a string or a name that is too long, as
soon as that shows and whatever comes after it. Where an array goes on after as many elements as
an `int` counts, its index overflows.
-/
namespace OpenXRSdk.Json

section Language
variable (features : OurFeatures) (P : StdString → Value → Prop) (R : Fault → Location → Prop)

/-- The text of an array goes on here, after so many elements. -/
structure GoesOn (count : ℕ) (s : Location) : Prop where
  head : ∀ c ∈ s.head?, isBlank c = false
  isOpen : s.head? = some ']' → ¬ (count = 0 ∨ features.allowTrailingCommas)

/-- What is left of the document behind an opening bracket or a comma, when `R` tells where
reading an element fails. -/
inductive ArrayRaises : Fault → (count : ℕ) → Location → Prop
  | overflow {count : ℕ} {blanks : StdString} {s : Location} (hblanks : IsBlanks blanks)
      (hs : GoesOn features count s) (hcount : Value.maxInt ≤ count) :
      ArrayRaises .undefinedBehaviour count (blanks ++ s)
  | here {fault : Fault} {count : ℕ} {blanks : StdString} {s : Location} (hblanks : IsBlanks blanks)
      (hs : GoesOn features count s) (hcount : count < Value.maxInt) (h : R fault s) :
      ArrayRaises fault count (blanks ++ s)
  | later {fault : Fault} {count : ℕ} {gap text gap' : StdString} {value : Value} {s : Location}
      (hcount : count < Value.maxInt) (hgap : Gap features gap) (htext : P text value)
      (hgap' : Gap features gap') (h : ArrayRaises fault (count + 1) s) :
      ArrayRaises fault count (gap ++ (text ++ (gap' ++ ',' :: s)))

/-- What is left of the document behind an opening brace or a comma. -/
inductive ObjectRaises : Fault → (members : List (StdString × Value)) → Location → Prop
  | longName {members : List (StdString × Value)} {gap key name : StdString} {s : Location}
      (hgap : Gap features gap) (hkey : StringText key name) (hlong : 2 ^ 30 ≤ name.length) :
      ObjectRaises .exception members (gap ++ '"' :: (key ++ '"' :: s))
  | here {fault : Fault} {members : List (StdString × Value)} {gap key name blanks : StdString}
      {s : Location} (hgap : Gap features gap) (hkey : StringText key name)
      (hshort : name.length < 2 ^ 30)
      (hnew : features.rejectDupKeys → isMember name members = false) (hblanks : IsBlanks blanks)
      (h : R fault s) :
      ObjectRaises fault members (gap ++ '"' :: (key ++ '"' :: (blanks ++ ':' :: s)))
  | later {fault : Fault} {members members' : List (StdString × Value)} {text name : StdString}
      {s : Location} (hmember : Member features P members text name members')
      (h : ObjectRaises fault members' s) : ObjectRaises fault members (text ++ ',' :: s)

/-- What is left of the document where a value is read. -/
inductive ValueRaises : Fault → Location → Prop
  | longString {gap text decoded : StdString} {s : Location} (hgap : Gap features gap)
      (htext : StringText text decoded)
      (hlong : Value.maxStringLength < decoded.length % 2 ^ 32) :
      ValueRaises .exception (gap ++ '"' :: (text ++ '"' :: s))
  | array {fault : Fault} {gap : StdString} {s : Location} (hgap : Gap features gap)
      (h : ArrayRaises features P R fault 0 s) : ValueRaises fault (gap ++ '[' :: s)
  | object {fault : Fault} {gap : StdString} {s : Location} (hgap : Gap features gap)
      (h : ObjectRaises features P R fault [] s) : ValueRaises fault (gap ++ '{' :: s)

end Language

/-- Where and how reading a value fails, when there is room for so many nested values. -/
def Raises (features : OurFeatures) (readDouble : StdString → Option ℚ) :
    (room : ℕ) → Fault → Location → Prop
  | 0 => fun fault _ => fault = .exception
  | room + 1 => ValueRaises features (ValueText features readDouble room)
      (Raises features readDouble room)

section Parts
variable {features : OurFeatures} {P : StdString → Value → Prop} {R : Fault → Location → Prop}
  {rec : Value → Reader (Bool × Value)} (hrec : Recognises features P rec)
  (hraises : ∀ fault current s, (∃ t, rec current s = .error fault t) ↔ R fault s.current)

/-- Where an array goes on, the loop does not stop at the bracket. -/
theorem GoesOn.skipSpaces_eq {elements : List Value} {blanks text : StdString} {s : ReaderState}
    (hgoes : GoesOn features elements.length text) (hblanks : IsBlanks blanks)
    (hs : s.current = blanks ++ text) : skipSpaces s.current = text ∧
      ¬ ((skipSpaces s.current).head? = some ']' ∧
        (elements = [] ∨ features.allowTrailingCommas)) := by
  have hskip : skipSpaces s.current = text := by
    rw [hs, skipSpaces_append hblanks]
    cases text with
    | nil => rfl
    | cons c text => exact skipSpaces_cons (hgoes.head c rfl) text
  refine ⟨hskip, ?_⟩
  rw [hskip, ← List.length_eq_zero_iff]
  exact fun h => hgoes.isOpen h.1 h.2

theorem goesOn_skipSpaces {elements : List Value} {s : ReaderState}
    (h : ¬ ((skipSpaces s.current).head? = some ']' ∧
      (elements = [] ∨ features.allowTrailingCommas))) :
    GoesOn features elements.length (skipSpaces s.current) := by
  refine ⟨fun c hc => ?_, fun hbracket hclose => ?_⟩
  · have hhead := List.head?_dropWhile_not isBlank s.current
    rw [← skipSpaces, Option.mem_def.mp hc] at hhead
    exact hhead
  · rw [List.length_eq_zero_iff] at hclose
    exact h ⟨hbracket, hclose⟩

include hrec hraises

theorem readElements_raises {fault : Fault} {count : ℕ} {text : Location}
    (h : ArrayRaises features P R fault count text) {turns : ℕ} {s : ReaderState}
    (hs : s.current = text) (hturns : text.length < turns) {elements : List Value}
    (hcount : count = elements.length) :
    ∃ t, readElements features rec turns elements s = .error fault t := by
  induction h generalizing turns s elements with
  | @overflow count blanks text hblanks hgoes hfull =>
    obtain ⟨turns, rfl⟩ := Nat.exists_eq_add_of_lt hturns
    subst hcount
    obtain ⟨-, hnot⟩ := hgoes.skipSpaces_eq hblanks hs
    exact ⟨_, by rw [readElements_run, if_neg hnot, if_pos hfull]⟩
  | @here fault count blanks text hblanks hgoes hfew hR =>
    obtain ⟨turns, rfl⟩ := Nat.exists_eq_add_of_lt hturns
    subst hcount
    obtain ⟨hskip, hnot⟩ := hgoes.skipSpaces_eq hblanks hs
    obtain ⟨t, ht⟩ := (hraises fault .null (s.moveTo (skipSpaces s.current))).mpr
      (by rw [ReaderState.moveTo_current, hskip]; exact hR)
    exact ⟨t, by rw [readElements_run, if_neg hnot, if_neg (Nat.not_le_of_lt hfew), ht]⟩
  | @later fault count gap text gap' value tail hfew hgap htext hgap' _ ih =>
    obtain ⟨turns, rfl⟩ := Nat.exists_eq_add_of_lt hturns
    have hends : Ends text (gap' ++ ',' :: tail) := ends_gap hgap' (by simp [IsNumberChar]) _
    rw [readElements_of_text hrec hgap htext hends hs _ (hcount ▸ hfew),
      readTokenSkippingComments_arraySeparator hgap', if_neg (by simp), if_pos rfl]
    exact ih rfl (by simp; omega) (by simp [hcount])

theorem arrayRaises_of_readElements {turns : ℕ} {elements : List Value} {fault : Fault}
    {s t : ReaderState} (hturns : s.current.length < turns)
    (h : readElements features rec turns elements s = .error fault t) :
    ArrayRaises features P R fault elements.length s.current := by
  induction turns generalizing elements s with
  | zero => exact absurd hturns (Nat.not_lt_zero _)
  | succ turns ih =>
    obtain ⟨blanks, hblanks, hblank⟩ := skipSpaces_eq s.current
    rw [readElements_run] at h
    split_ifs at h with hdone hfull
    · cases h
      rw [hblanks]
      exact .overflow hblank (goesOn_skipSpaces hdone) hfull
    have hfew := Nat.lt_of_not_le hfull
    split at h
    · rename_i fault u hread
      cases h
      have hR := (hraises _ _ _).mp ⟨_, hread⟩
      rw [hblanks]
      exact .here hblank (goesOn_skipSpaces hdone) hfew hR
    · cases h
    · rename_i value u hread
      obtain ⟨-, gap, text, hu, hgap, htext, -⟩ := hrec.sound hread
      dsimp only at h
      split_ifs at h with hend hseparator
      obtain ⟨gap', c, rest, heq, hgap', -, rfl, hrest⟩ :=
        spells_readTokenSkippingComments hseparator (by decide)
      have hcurrent : s.current = blanks ++ (gap ++ (text ++ (gap' ++ ',' :: rest))) := by
        rw [← heq, ← hu]
        exact hblanks
      have hshorter : rest.length < turns := by
        have hlength := congrArg List.length hcurrent
        simp only [List.length_append, List.length_cons] at hlength
        omega
      have htail := ih (by rw [ReaderState.moveTo_current, ← hrest]; exact hshorter) h
      rw [List.length_append, List.length_singleton, ReaderState.moveTo_current, ← hrest] at htail
      rw [hcurrent, ← List.append_assoc]
      exact .later hfew (gap_of_blanks hblank hgap) htext hgap' htail

theorem readMembers_raises {fault : Fault} {members : List (StdString × Value)} {text : Location}
    (h : ObjectRaises features P R fault members text) {turns : ℕ} {s : ReaderState}
    (hs : s.current = text) (hturns : text.length < turns) (previous : StdString) :
    ∃ t, readMembers features rec turns previous members s = .error fault t := by
  induction h generalizing turns s previous with
  | @longName members gap key name tail hgap hkey hlong =>
    obtain ⟨turns, rfl⟩ := Nat.exists_eq_add_of_lt hturns
    have htoken := readTokenSkippingComments_string hgap (stringBody_of_stringText hkey) tail
    have hinside : (Token.mk .string ('"' :: (key ++ '"' :: tail)) tail).inside = key := inside_eq rfl
    rw [readMembers_run, hs, htoken]
    dsimp only
    rw [if_neg (by simp), if_neg (by simp), hinside, decodeCharacters_of_stringText hkey]
    dsimp only
    rw [if_pos hlong]
    exact ⟨_, rfl⟩
  | @here fault members gap key name blanks tail hgap hkey hshort hnew hblanks hR =>
    obtain ⟨turns, rfl⟩ := Nat.exists_eq_add_of_lt hturns
    have hcolon : readToken (blanks ++ ':' :: tail) = ⟨.memberSeparator, ':' :: tail, tail⟩ := by
      rw [readToken_append hblanks, readToken_cons (by decide)]
      rfl
    obtain ⟨t, ht⟩ := (hraises fault ((Value.object members).lookup name) (s.moveTo tail)).mpr hR
    have hmember : readMember features rec name members (s.moveTo (blanks ++ ':' :: tail)) =
        .error fault t := by
      rw [readMember_run]
      dsimp only
      rw [ReaderState.moveTo_current, hcolon, if_neg (by simp), moveTo_moveTo, ht]
    exact ⟨t, (readMembers_key_run hgap hkey hshort hnew hs _ previous).trans
      (StateProgram.bind_of_error hmember)⟩
  | @later fault members members' text name tail hmember _ ih =>
    obtain ⟨turns, rfl⟩ := Nat.exists_eq_add_of_lt hturns
    obtain @⟨gap, key, _, blanks, gap', text, gap'', value, hgap, hkey, hshort, hnew, hblanks, hgap',
      htext, hgap''⟩ := hmember
    have hends : Ends text (gap'' ++ ',' :: tail) := ends_gap hgap'' (by simp [IsNumberChar]) _
    have hread := readMember_of_text hrec hblanks hgap' htext hends (s := s.moveTo
      (blanks ++ ':' :: (gap' ++ (text ++ (gap'' ++ ',' :: tail))))) rfl name members
    rw [readTokenSkippingComments_arraySeparator hgap'', if_neg (by simp), if_pos rfl] at hread
    rw [readMembers_of_key hgap hkey hshort hnew (by rw [hs]; simp) hread _ previous]
    exact ih rfl (by simp; omega) _

theorem objectRaises_of_readMembers {turns : ℕ} {previous : StdString}
    {members : List (StdString × Value)} {fault : Fault} {s t : ReaderState}
    (hturns : s.current.length < turns)
    (h : readMembers features rec turns previous members s = .error fault t) :
    ObjectRaises features P R fault members s.current := by
  induction turns generalizing previous members s with
  | zero => exact absurd hturns (Nat.not_lt_zero _)
  | succ turns ih =>
    rw [readMembers_run] at h
    dsimp only at h
    split_ifs at h with hend hstring
    obtain ⟨gap, key, hgap, hbody, hinside, heq⟩ :=
      string_of_readTokenSkippingComments (not_not.mp hstring)
    rw [hinside] at h
    split at h
    · cases h
    rename_i name hdecode
    have hkey := stringText_of_decodeCharacters hbody hdecode
    split_ifs at h with hlong hdup
    · cases h
      rw [heq]
      exact .longName hgap hkey hlong
    have hnew (hreject : features.rejectDupKeys) : isMember name members = false := by
      simpa [hreject] using hdup
    split at h
    · rename_i fault u hread
      cases h
      rw [readMember_run] at hread
      dsimp only at hread
      split_ifs at hread with hcolon
      split at hread
      · rename_i fault u' hvalue
        cases hread
        have hR := (hraises _ _ _).mp ⟨_, hvalue⟩
        obtain ⟨blanks, hblanks, hrest⟩ := colon_of_readToken (not_not.mp hcolon)
        have hhere := ObjectRaises.here (P := P) hgap hkey (Nat.lt_of_not_le hlong) hnew hblanks hR
        rw [ReaderState.moveTo_current] at hrest
        rw [heq, hrest]
        exact hhere
      · cases hread
      · split_ifs at hread
    · cases h
    · rename_i members'' u hread
      obtain ⟨-, blanks, gap', text, value, gap'', c, hcurrent, hblanks, hgap', htext, hgap'',
        rfl, ⟨hsome, -⟩ | ⟨-, rfl⟩⟩ := readMember_sound hrec hread (by simp)
      · cases hsome
      · rw [show (readTokenSkippingComments features s.current).stop = _ from hcurrent] at heq
        have hshorter : u.current.length < turns := by
          have hlength := congrArg List.length heq
          simp only [List.length_append, List.length_cons] at hlength
          omega
        have hlater := ObjectRaises.later ⟨hgap, hkey, Nat.lt_of_not_le hlong, hnew, hblanks, hgap',
          htext, hgap''⟩ (ih hshorter h)
        rw [heq]
        simpa using hlater

end Parts

theorem readValue_raises (features : OurFeatures) (readDouble : StdString → Option ℚ) (room : ℕ)
    (fault : Fault) (current : Value) (s : ReaderState) :
    (∃ t, readValue features readDouble room current s = .error fault t) ↔
      Raises features readDouble room fault s.current := by
  induction room generalizing fault current s with
  | zero =>
    constructor
    · rintro ⟨t, h⟩
      cases h
      rfl
    · rintro rfl
      exact ⟨s, rfl⟩
  | succ room ih =>
    have hrec := recognises_readValue features readDouble room
    constructor
    · rintro ⟨t, h⟩
      rw [readValue_run] at h
      dsimp only at h
      split at h
      case h_1 htype =>
        obtain ⟨gap, c, rest, heq, hgap, -, rfl, hrest⟩ :=
          spells_readTokenSkippingComments htype (by decide)
        split at h
        · rename_i fault u hread
          cases h
          have hobject := objectRaises_of_readMembers hrec ih (Nat.lt_succ_self _) hread
          rw [ReaderState.moveTo_current, ← hrest] at hobject
          rw [heq]
          exact .object hgap hobject
        · cases h
      case h_2 htype =>
        obtain ⟨gap, c, rest, heq, hgap, -, rfl, hrest⟩ :=
          spells_readTokenSkippingComments htype (by decide)
        split at h
        · rename_i fault u hread
          cases h
          have harray := arrayRaises_of_readElements hrec ih (Nat.lt_succ_self _) hread
          rw [ReaderState.moveTo_current, ← hrest] at harray
          rw [heq]
          exact .array hgap harray
        · cases h
      case h_3 => split at h <;> cases h
      case h_4 htype =>
        obtain ⟨gap, body, hgap, hbody, hinside, heq⟩ := string_of_readTokenSkippingComments htype
        rw [hinside] at h
        split at h
        · rename_i decoded hdecode
          rw [Value.ofString] at h
          split_ifs at h with hshort
          cases h
          rw [heq]
          exact .longString hgap (stringText_of_decodeCharacters hbody hdecode)
            (Nat.lt_of_not_le hshort)
        · cases h
      all_goals cases h
    · intro h
      generalize hs : s.current = text at h
      cases h with
      | @longString gap text decoded rest hgap htext hlong =>
        have hinside : (Token.mk .string ('"' :: (text ++ '"' :: rest)) rest).inside = text :=
          inside_eq rfl
        rw [readValue_run, hs, readTokenSkippingComments_string hgap (stringBody_of_stringText htext)]
        dsimp only
        rw [hinside, decodeCharacters_of_stringText htext]
        dsimp only
        rw [Value.ofString, if_neg (Nat.not_le_of_lt hlong)]
        exact ⟨_, rfl⟩
      | @array fault gap rest hgap harray =>
        have hread : ∃ t, readElements features (readValue features readDouble room)
            (rest.length + 1) [] (s.moveTo rest) = .error fault t :=
          readElements_raises hrec ih harray rfl (Nat.lt_succ_self _) rfl
        obtain ⟨t, ht⟩ := hread
        rw [readValue_run, hs, readTokenSkippingComments_append hgap (by decide) (by decide)]
        simp only [readFrom]
        rw [ht]
        exact ⟨t, rfl⟩
      | @object fault gap rest hgap hobject =>
        obtain ⟨t, ht⟩ := readMembers_raises hrec ih hobject (s := s.moveTo rest) rfl
          (Nat.lt_succ_self _) []
        rw [readValue_run, hs, readTokenSkippingComments_append hgap (by decide) (by decide)]
        simp only [readFrom]
        rw [ht]
        exact ⟨t, rfl⟩

/-- Reading fails on those documents, so and not otherwise. -/
theorem parse_eq_error_iff (features : OurFeatures) (readDouble : StdString → Option ℚ)
    (document : Location) (root : Value) (fault : Fault) :
    parse features readDouble document root = .error fault ↔
      Raises features readDouble features.stackLimit fault (skipBom features document) := by
  have hraises := readValue_raises features readDouble
    features.stackLimit fault root ⟨skipBom features document, []⟩
  rw [← hraises]
  cases hread : readValue features readDouble features.stackLimit root
      ⟨skipBom features document, []⟩ with
  | error fault' t =>
    rw [parse_of_error hread]
    simp
  | ok read t =>
    have hcheck := checkRoot_run features document read t
    split_ifs at hcheck
    all_goals
      rw [parse_of_ok hread hcheck]
      simp

end OpenXRSdk.Json
