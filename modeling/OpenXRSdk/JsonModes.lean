import OpenXRSdk.JsonParsing

/-!
# Features of the reader

What the reader accepts under one set of features, it accepts under every set that asks for less,
and it reads the same value.
-/
namespace OpenXRSdk.Json

/-- `features'` allow all that `features` allow, and demand nothing that these do not demand. -/
structure OurFeatures.Le (features features' : OurFeatures) : Prop where
  allowComments : features.allowComments → features'.allowComments
  allowTrailingCommas : features.allowTrailingCommas → features'.allowTrailingCommas
  strictRoot : features'.strictRoot → features.strictRoot
  failIfExtra : features'.failIfExtra → features.failIfExtra
  rejectDupKeys : features'.rejectDupKeys → features.rejectDupKeys
  skipBom : features.skipBom → features'.skipBom
  stackLimit : features.stackLimit ≤ features'.stackLimit

theorem strictMode_le_setDefaults : OurFeatures.strictMode.Le .setDefaults := by
  constructor <;> decide

section Languages
variable {features features' : OurFeatures} (hle : features.Le features')
include hle

theorem Gap.mono {s : StdString} (h : Gap features s) : Gap features' s := by
  induction h with
  | nil => exact .nil
  | blank hc _ ih => exact .blank hc ih
  | comment hallow ht _ ih => exact .comment (hle.allowComments hallow) ht ih

variable {P P' : StdString → Value → Prop} (hP : ∀ text value, P text value → P' text value)
include hP

theorem Elements.mono {first : Bool} {s : StdString} {values : List Value}
    (h : Elements features P first s values) : Elements features' P' first s values := by
  induction h with
  | done hs hfirst => exact .done hs (hfirst.imp_right hle.allowTrailingCommas)
  | last hgap htext hgap' => exact .last (hgap.mono hle) (hP _ _ htext) (hgap'.mono hle)
  | next hgap htext hgap' _ ih => exact .next (hgap.mono hle) (hP _ _ htext) (hgap'.mono hle) ih

theorem Member.mono {members members' : List (StdString × Value)} {s name : StdString}
    (h : Member features P members s name members') : Member features' P' members s name members' := by
  obtain ⟨hgap, hkey, hshort, hnew, hblanks, hgap', htext, hgap''⟩ := h
  exact ⟨hgap.mono hle, hkey, hshort, fun hreject => hnew (hle.rejectDupKeys hreject), hblanks,
    hgap'.mono hle, hP _ _ htext, hgap''.mono hle⟩

theorem Members.mono {previous s : StdString} {members members' : List (StdString × Value)}
    (h : Members features P previous members s members') :
    Members features' P' previous members s members' := by
  induction h with
  | done hgap hname => exact .done (hgap.mono hle) (hname.imp_right hle.allowTrailingCommas)
  | last hmember => exact .last (hmember.mono hle hP)
  | next hmember _ ih => exact .next (hmember.mono hle hP) ih

theorem ValueStep.mono {readDouble : StdString → Option ℚ} {text : StdString} {value : Value}
    (h : ValueStep features readDouble P text value) :
    ValueStep features' readDouble P' text value := by
  cases h with
  | null => exact .null
  | true => exact .true
  | false => exact .false
  | number htext hvalue => exact .number htext hvalue
  | string hs hshort => exact .string hs hshort
  | array hs hcount => exact .array (hs.mono hle hP) hcount
  | object hs => exact .object (hs.mono hle hP)

omit hP in
theorem valueText_mono {readDouble : StdString → Option ℚ} {depth depth' : ℕ} (hdepth : depth ≤ depth')
    {text : StdString} {value : Value} (h : ValueText features readDouble depth text value) :
    ValueText features' readDouble depth' text value := by
  induction depth generalizing depth' text value with
  | zero => exact False.elim h
  | succ depth ih =>
    obtain ⟨depth', rfl⟩ := Nat.exists_eq_add_of_le' (Nat.one_le_of_lt hdepth)
    exact ValueStep.mono hle (fun _ _ => ih (Nat.le_of_succ_le_succ hdepth)) h

omit hP in
theorem readTokenSkippingComments_mono {current : Location}
    (h : (readTokenSkippingComments features current).type = .endOfStream) :
    (readTokenSkippingComments features' current).type = .endOfStream := by
  fun_induction readTokenSkippingComments features current with
  | case1 current hcomment ih =>
    rw [readTokenSkippingComments_of_comment (hle.allowComments hcomment.1) hcomment.2]
    exact ih h
  | case2 current hnot =>
    rw [readTokenSkippingComments_of_not_comment (by rw [h]; decide)]
    exact h

end Languages

/-- No text begins with a byte order mark. -/
theorem head_ne_bom {features : OurFeatures} {readDouble : StdString → Option ℚ} {depth : ℕ}
    {gap text : StdString} {value : Value} (hgap : Gap features gap)
    (htext : ValueText features readDouble depth text value) (rest : Location) :
    (gap ++ (text ++ rest)).head? ≠ some '\xef' := by
  obtain ⟨c, tail, rfl, -, -, -, hc⟩ :=
    (recognises_readValue features readDouble depth).begins htext
  obtain ⟨d, tail', heq, hd⟩ := head_gap_append hgap c (tail ++ rest)
  rw [List.cons_append, heq]
  intro h
  cases h
  rcases hd with hd | hd | hd
  · cases hd
  · cases hd
  · exact absurd (hd ▸ hc) (by decide)

theorem skipBom_of_head {features : OurFeatures} {document : Location}
    (h : document.head? ≠ some '\xef') : skipBom features document = document := by
  unfold skipBom
  refine if_neg fun hbom => ?_
  obtain ⟨rest, rfl⟩ := hbom.2
  exact h rfl

section Documents
variable {features features' : OurFeatures} {readDouble : StdString → Option ℚ}
  {document : Location} {value : Value}

theorem Accepts.mono (hle : features.Le features') (h : Accepts features readDouble document value) :
    Accepts features' readDouble document value := by
  obtain ⟨gap, text, rest, heq, hgap, htext, hends, hextra, hroot⟩ := h
  refine ⟨gap, text, rest, ?_, hgap.mono hle, valueText_mono hle hle.stackLimit htext, hends,
    fun hfail => readTokenSkippingComments_mono hle (hextra (hle.failIfExtra hfail)),
    fun hstrict => hroot (hle.strictRoot hstrict)⟩
  rw [← heq]
  cases hskip : features.skipBom with
  | true => simp [skipBom, hskip, hle.skipBom hskip]
  | false =>
    have hdocument : skipBom features document = document := by simp [skipBom, hskip]
    rw [hdocument]
    apply skipBom_of_head
    rw [← hdocument, heq]
    exact head_ne_bom hgap htext rest

/-- A document that the reader accepts under some features is read as the same value under all
features that ask for less. -/
theorem parse_of_stricter (hle : features.Le features') {root : Value} {errors : List ErrorInfo}
    (h : parse features readDouble document root = .ok ((true, value), errors)) (root' : Value) :
    parse features' readDouble document root' = .ok ((true, value), []) :=
  parse_of_accepts ((accepts_of_parse h).2.mono hle) root'

/-- An array in an array, in the strict mode. -/
theorem accepts_nested (readDouble : StdString → Option ℚ) :
    Accepts .strictMode readDouble "[[]]".toList (.array [.array []]) := by
  have hblanks : IsBlanks [] := by simp [IsBlanks]
  have hinner : ValueText .strictMode readDouble 1 ['[', ']'] (.array []) :=
    ValueStep.array (.done hblanks (.inl rfl)) (Nat.zero_le _)
  have houter : ValueText .strictMode readDouble 2 "[[]]".toList (.array [.array []]) :=
    ValueStep.array (.last .nil hinner .nil) (by decide)
  have hend : readTokenSkippingComments .strictMode [] = ⟨.endOfStream, [], []⟩ :=
    readTokenSkippingComments_of_not_comment (by decide)
  exact ⟨[], "[[]]".toList, [], by decide, .nil,
    valueText_mono ⟨id, id, id, id, id, id, le_rfl⟩ (by decide) houter, ends_of_begins (by decide) _ _,
    fun _ => by rw [hend], fun _ => rfl⟩

theorem parse_of_stricter_nested :
    parse .setDefaults (fun _ => none) "[[]]".toList (.int 1) = .ok ((true, .array [.array []]), []) :=
  parse_of_stricter strictMode_le_setDefaults (parse_of_accepts (accepts_nested _) .null) (.int 1)

end Documents

end OpenXRSdk.Json
