import OpenXRSdk.JsonModes

/-!
# Writing and reading

The values that the reader yields, and what becomes of them when they are written and read again.
-/
namespace OpenXRSdk.Json

open OrderedEntries

/-- The values as the reader makes them, nested at most so deep: integers of 64 bits, unsigned
ones only where they exceed the signed ones, no more elements than an `int` counts, and members in
the order of their names; neither these nor the strings are too long. The strings and the reals are among those that are told. -/
inductive Canonical (strings : StdString → Prop) (reals : ℚ → Prop) : (depth : ℕ) → Value → Prop
  | null {depth : ℕ} : Canonical strings reals (depth + 1) .null
  | boolean {depth : ℕ} (value : Bool) : Canonical strings reals (depth + 1) (.boolean value)
  | int {depth : ℕ} {value : ℤ} (h : -2 ^ 63 ≤ value) (h' : value < 2 ^ 63) :
      Canonical strings reals (depth + 1) (.int value)
  | uint {depth value : ℕ} (h : 2 ^ 63 ≤ value) (h' : value < 2 ^ 64) :
      Canonical strings reals (depth + 1) (.uint value)
  | real {depth : ℕ} {value : ℚ} (h : reals value) : Canonical strings reals (depth + 1) (.real value)
  | string {depth : ℕ} {value : StdString} (h : strings value)
      (hshort : value.length ≤ Value.maxStringLength) :
      Canonical strings reals (depth + 1) (.string value)
  | array {depth : ℕ} {values : List Value} (h : ∀ v ∈ values, Canonical strings reals depth v)
      (hcount : values.length ≤ Value.maxInt) : Canonical strings reals (depth + 1) (.array values)
  | object {depth : ℕ} {members : List (StdString × Value)} (hordered : Ordered members)
      (hnames : ∀ m ∈ members, strings m.1 ∧ m.1.length < 2 ^ 30)
      (h : ∀ m ∈ members, Canonical strings reals depth m.2) :
      Canonical strings reals (depth + 1) (.object members)

/-! ## What the reader yields -/

section Reading
variable {features : OurFeatures} {P : StdString → Value → Prop} {Q : Value → Prop}
  (hP : ∀ text value, P text value → Q value)
include hP

theorem Elements.forall {first : Bool} {s : StdString} {values : List Value}
    (h : Elements features P first s values) : ∀ v ∈ values, Q v := by
  induction h with
  | done => simp
  | last _ htext _ => simpa using hP _ _ htext
  | next _ htext _ _ ih => exact List.forall_mem_cons.mpr ⟨hP _ _ htext, ih⟩

/-- Members in order, whose names are short and whose values have a property. -/
def GoodMembers (Q : Value → Prop) (members : List (StdString × Value)) : Prop :=
  Ordered members ∧ ∀ m ∈ members, m.1.length < 2 ^ 30 ∧ Q m.2

theorem Member.good {members members' : List (StdString × Value)} {s name : StdString}
    (h : Member features P members s name members') (hgood : GoodMembers Q members) :
    GoodMembers Q members' := by
  obtain ⟨-, -, hshort, -, -, -, htext, -⟩ := h
  refine ⟨hgood.1.insertEntry _ _, fun m hm => ?_⟩
  rcases mem_of_mem_insertEntry hm with rfl | hm
  · exact ⟨hshort, hP _ _ htext⟩
  · exact hgood.2 m hm

theorem Members.good {previous s : StdString} {members members' : List (StdString × Value)}
    (h : Members features P previous members s members') (hgood : GoodMembers Q members) :
    GoodMembers Q members' := by
  induction h with
  | done => exact hgood
  | last hmember => exact hmember.good hP hgood
  | next hmember _ ih => exact ih (hmember.good hP hgood)

end Reading

theorem canonical_of_decodeNumber {readDouble : StdString → Option ℚ} {text : StdString}
    {value : Value} (h : decodeNumber readDouble text = .ok value) (depth : ℕ) :
    Canonical (fun _ => True) (fun _ => True) (depth + 1) value := by
  have hdouble (h : decodeDouble readDouble text = .ok value) :
      Canonical (fun _ => True) (fun _ => True) (depth + 1) value := by
    unfold decodeDouble at h
    split at h
    · cases h
      exact .real trivial
    · cases h
  by_cases hdigits : IsDigits (unsignedPart text)
  · unfold unsignedPart at hdigits
    split_ifs at hdigits with hsign
    · obtain ⟨digits, rfl⟩ : ∃ digits, text = '-' :: digits := List.head?_eq_some_iff.mp hsign
      rw [List.drop_succ_cons, List.drop_zero] at hdigits
      rw [decodeNumber_minus readDouble hdigits] at h
      split_ifs at h with hle
      · cases h
        exact .int (by omega) (by omega)
      · exact hdouble h
    · rw [decodeNumber_digits readDouble hdigits] at h
      split_ifs at h with hint huint
      · cases h
        exact .int (by omega) (by omega)
      · cases h
        exact .uint (by omega) huint
      · exact hdouble h
  · rw [decodeNumber_of_not_isDigits readDouble hdigits] at h
    exact hdouble h

theorem canonical_of_valueText {features : OurFeatures} {readDouble : StdString → Option ℚ}
    {depth : ℕ} {text : StdString} {value : Value}
    (h : ValueText features readDouble depth text value) :
    Canonical (fun _ => True) (fun _ => True) depth value := by
  induction depth generalizing text value with
  | zero => exact False.elim h
  | succ depth ih =>
    cases h with
    | null => exact .null
    | true => exact .boolean true
    | false => exact .boolean false
    | number _ hvalue => exact canonical_of_decodeNumber hvalue depth
    | string _ hshort => exact .string trivial ((List.length_take_le _ _).trans hshort)
    | array hs hcount => exact .array (hs.forall fun text value htext => ih htext) hcount
    | object hs =>
      obtain ⟨hordered, hgood⟩ := hs.good (fun text value htext => ih htext) ⟨List.Pairwise.nil, by simp⟩
      exact .object hordered (fun m hm => ⟨trivial, (hgood m hm).1⟩) fun m hm => (hgood m hm).2

/-- Whatever the document and the features, a value that the reader yields is one of those: no name
twice in an object, no integer with two forms, nothing too long or nested too deep. -/
theorem parse_canonical {features : OurFeatures} {readDouble : StdString → Option ℚ}
    {document : Location} {root value : Value} {errors : List ErrorInfo}
    (h : parse features readDouble document root = .ok ((true, value), errors)) :
    Canonical (fun _ => True) (fun _ => True) features.stackLimit value := by
  obtain ⟨-, gap, text, rest, -, -, htext, -⟩ := accepts_of_parse h
  exact canonical_of_valueText htext

theorem parse_canonical_nested :
    Canonical (fun _ => True) (fun _ => True) 1000 (.array [.array []]) :=
  parse_canonical (parse_of_accepts (accepts_nested fun _ => none) .null)

/-! ## What the writer writes -/

theorem stringText_escaped (s : List Char) : StringText (s.flatMap escapeOf) (utf8 s) := by
  have hread := readString_escaped s []
  obtain ⟨body, hbody, heq⟩ := readString_eq (congrArg Prod.fst hread)
  rw [hread] at heq
  rw [List.append_cancel_right heq]
  rw [List.append_cancel_right heq] at hread
  refine stringText_of_decodeCharacters hbody ?_
  rw [← List.append_cancel_right heq]
  exact decodeCharacters_escaped s

theorem valueToQuotedString_eq_quoted (s : List Char) :
    valueToQuotedString (utf8 s) = '"' :: (s.flatMap escapeOf ++ ['"']) := by
  simpa using valueToQuotedString_utf8 s []

def IsUtf8 (s : StdString) : Prop := ∃ cs : List Char, s = utf8 cs

/-- What is printed for a real is a number that is read as the same real. -/
def Prints (printDouble : ℚ → StdString) (readDouble : StdString → Option ℚ) (q : ℚ) : Prop :=
  NumberText (printDouble q) ∧ decodeNumber readDouble (printDouble q) = .ok (.real q)

section Writing
variable {features : OurFeatures} {writer : FastWriter} {printDouble : ℚ → StdString}
  {readDouble : StdString → Option ℚ} {P : StdString → Value → Prop}

theorem valueStep_string {s decoded : StdString} (hs : StringText s decoded)
    (hshort : decoded.length ≤ Value.maxStringLength) :
    ValueStep features readDouble P ('"' :: (s ++ ['"'])) (.string decoded) := by
  have hbits : decoded.length % 2 ^ 32 = decoded.length :=
    Nat.mod_eq_of_lt (lt_of_le_of_lt hshort (by decide))
  have hstring : ValueStep features readDouble P ('"' :: (s ++ ['"'])) _ :=
    .string hs (hbits.le.trans hshort)
  rwa [hbits, List.take_length] at hstring

theorem elements_writeElements {values : List Value}
    (hP : ∀ v ∈ values, P (writer.writeValue printDouble v) v) {first : Bool}
    (hfirst : first ∨ values ≠ []) :
    Elements features P first (writer.writeElements printDouble values) values := by
  induction values generalizing first with
  | nil =>
    rw [FastWriter.writeElements]
    exact .done (by simp [IsBlanks]) (.inl (hfirst.resolve_right fun h => h rfl))
  | cons v values ih =>
    have hv := hP v (by simp)
    cases values with
    | nil =>
      rw [FastWriter.writeElements]
      have hlast : Elements features P first ([] ++ (writer.writeValue printDouble v ++ [])) [v] :=
        .last .nil hv .nil
      simpa using hlast
    | cons w values =>
      rw [FastWriter.writeElements]
      · exact Elements.next .nil hv .nil (ih (fun u hu => hP u (by simp [hu])) (.inr (by simp)))
      · simp

/-- A member as it is written, after the members before it. -/
theorem member_written {name : StdString} {value : Value} {members : List (StdString × Value)}
    (hname : IsUtf8 name) (hshort : name.length < 2 ^ 30)
    (hbefore : ∀ m ∈ members, m.1 < name) (hvalue : P (writer.writeValue printDouble value) value) :
    Member features P members (valueToQuotedString name ++
      (if writer.yamlCompatibilityEnabled then ": ".toList else ":".toList) ++
      writer.writeValue printDouble value) name (members ++ [(name, value)]) := by
  obtain ⟨cs, rfl⟩ := hname
  have hnew : isMember (utf8 cs) members = false := by
    simp only [isMember, List.any_eq_false, decide_eq_true_eq]
    exact fun m hm => (hbefore m hm).ne
  have hgap : Gap features (if writer.yamlCompatibilityEnabled then [' '] else []) := by
    split_ifs
    · exact .blank rfl .nil
    · exact .nil
  have hblanks : IsBlanks [] := by simp [IsBlanks]
  have hmember : Member features P members _ (utf8 cs) (insertMember (utf8 cs) value members) :=
    .mk .nil (stringText_escaped cs) hshort (fun _ => hnew) hblanks hgap hvalue .nil
  rw [insertMember, insertEntry_of_forall_lt hbefore] at hmember
  convert hmember using 1
  rw [valueToQuotedString_eq_quoted]
  cases writer.yamlCompatibilityEnabled <;> simp

theorem members_writeMembers {before members : List (StdString × Value)}
    (hordered : Ordered (before ++ members))
    (hnames : ∀ m ∈ members, IsUtf8 m.1 ∧ m.1.length < 2 ^ 30)
    (hP : ∀ m ∈ members, P (writer.writeValue printDouble m.2) m.2) {previous : StdString}
    (hprevious : previous = [] ∨ members ≠ []) :
    Members features P previous before (writer.writeMembers printDouble members)
      (before ++ members) := by
  induction members generalizing before previous with
  | nil =>
    rw [FastWriter.writeMembers, List.append_nil]
    exact .done .nil (.inl (hprevious.resolve_right fun h => h rfl))
  | cons m members ih =>
    obtain ⟨name, value⟩ := m
    obtain ⟨hname, hshort⟩ := hnames _ (List.mem_cons_self ..)
    have hbefore (m : StdString × Value) (hm : m ∈ before) : m.1 < name :=
      (List.pairwise_append.mp hordered).2.2 m hm _ (List.mem_cons_self ..)
    have hmember : Member features P before _ name (before ++ [(name, value)]) :=
      member_written hname hshort hbefore (hP _ (List.mem_cons_self ..))
    cases members with
    | nil =>
      rw [FastWriter.writeMembers]
      exact .last hmember
    | cons m' members =>
      have hordered' : Ordered ((before ++ [(name, value)]) ++ m' :: members) := by
        simpa using hordered
      have hrest : Members features P name (before ++ [(name, value)]) _ _ :=
        ih hordered' (fun m hm => hnames m (by simp [hm])) (fun m hm => hP m (by simp [hm]))
          (.inr (by simp))
      rw [FastWriter.writeMembers]
      · simpa using Members.next hmember hrest
      · simp

theorem valueText_writeValue (hnull : writer.dropNullPlaceholders = false) {depth : ℕ} {value : Value}
    (h : Canonical IsUtf8 (Prints printDouble readDouble) depth value) :
    ValueText features readDouble depth (writer.writeValue printDouble value) value := by
  induction depth generalizing value with
  | zero => cases h
  | succ depth ih =>
    cases h with
    | null =>
      rw [FastWriter.writeValue, hnull]
      exact .null
    | boolean value =>
      rw [FastWriter.writeValue]
      cases value with
      | false => exact .false
      | true => exact .true
    | int h h' =>
      rw [FastWriter.writeValue]
      exact .number (numberText_intToString _) (decodeNumber_intToString readDouble h h')
    | @uint _ value h h' =>
      rw [FastWriter.writeValue]
      refine .number (numberText_uintToString _) ?_
      rw [decodeNumber_uintToString readDouble h', if_neg (Nat.not_lt_of_le h)]
    | real h =>
      rw [FastWriter.writeValue]
      exact .number h.1 h.2
    | string h hshort =>
      obtain ⟨cs, rfl⟩ := h
      rw [FastWriter.writeValue, valueToQuotedString_eq_quoted]
      exact valueStep_string (stringText_escaped cs) hshort
    | array h hcount =>
      rw [FastWriter.writeValue]
      exact .array (elements_writeElements (fun v hv => ih (h v hv)) (.inl rfl)) hcount
    | object hordered hnames h =>
      rw [FastWriter.writeValue]
      have hordered' : Ordered ([] ++ _) := hordered
      exact .object (members_writeMembers hordered' hnames (fun m hm => ih (h m hm)) (.inl rfl))

theorem ends_of_lineFeed (text : StdString) {rest : Location} (h : rest = [] ∨ rest = ['\n']) :
    Ends text rest := by
  intro _
  apply endsNumber_of_head
  rcases h with rfl | rfl
  · simp
  · simp [IsNumberChar]

theorem endOfStream_of_lineFeed {rest : Location} (h : rest = [] ∨ rest = ['\n']) :
    (readTokenSkippingComments features rest).type = .endOfStream := by
  have hnil : readTokenSkippingComments features [] = ⟨.endOfStream, [], []⟩ :=
    readTokenSkippingComments_of_not_comment (by decide)
  rcases h with rfl | rfl
  · rw [hnil]
  · rw [readTokenSkippingComments_blank (by decide), hnil]

end Writing

/-- A value that is written and read again is the same, whatever else the reader is asked for,
where its strings are encoded as they should be and its reals survive printing. -/
theorem parse_write {features : OurFeatures} {writer : FastWriter}
    (hnull : writer.dropNullPlaceholders = false) {printDouble : ℚ → StdString}
    {readDouble : StdString → Option ℚ} {value : Value}
    (h : Canonical IsUtf8 (Prints printDouble readDouble) features.stackLimit value)
    (hroot : features.strictRoot → isContainer value) (root : Value) :
    parse features readDouble (writer.write printDouble value) root = .ok ((true, value), []) := by
  have htext : ValueText features readDouble features.stackLimit
      (writer.writeValue printDouble value) value := valueText_writeValue hnull h
  have hline : (if writer.omitEndingLineFeed then [] else ['\n'] : StdString) = [] ∨
      (if writer.omitEndingLineFeed then [] else ['\n'] : StdString) = ['\n'] := by
    split_ifs
    · exact .inl rfl
    · exact .inr rfl
  refine parse_of_accepts ⟨[], _, _, ?_, .nil, htext, ends_of_lineFeed _ hline,
    fun _ => endOfStream_of_lineFeed hline, hroot⟩ root
  exact skipBom_of_head (head_ne_bom .nil htext _)

def sample : Value :=
  .object [("api_layer".toList,
    .array [.null, .int (-1), .uint (2 ^ 63), .real (1 / 2), .string (utf8 ['é', '"'])])]

def printHalf : ℚ → StdString := fun _ => "0.5".toList

def readHalf : StdString → Option ℚ := fun s => if s = "0.5".toList then some (1 / 2) else none

theorem canonical_sample : Canonical IsUtf8 (Prints printHalf readHalf) 1000 sample := by
  have hname : IsUtf8 "api_layer".toList := ⟨"api_layer".toList, by decide⟩
  have hhalf : Prints printHalf readHalf (1 / 2) :=
    ⟨⟨'0', ".5".toList, rfl, .inr (.inr (by decide)), [], ".5".toList, [], rfl, by simp [IsDigits],
      .inr ⟨['5'], rfl, by simp [IsDigits]⟩, .inl rfl⟩, rfl⟩
  refine .object (List.pairwise_singleton _ _) (by simpa using hname) ?_
  intro m hm
  rw [List.mem_singleton.mp hm]
  refine .array (fun v hv => ?_) (by decide)
  simp only [List.mem_cons, List.not_mem_nil, or_false] at hv
  rcases hv with rfl | rfl | rfl | rfl | rfl
  · exact .null
  · exact .int (by decide) (by decide)
  · exact .uint le_rfl (by decide)
  · exact .real hhalf
  · exact .string ⟨_, rfl⟩ (by decide)

theorem parse_write_sample : parse .strictMode readHalf
    ((⟨true, false, false⟩ : FastWriter).write printHalf sample) .null = .ok ((true, sample), []) :=
  parse_write rfl canonical_sample (fun _ => rfl) .null

end OpenXRSdk.Json
