import OpenXRSdk.ObjectInfo

/-!
# Session labels as a stack

What the list of labels of a session stands for: the regions that are open, and one label
that was inserted last of all. Every operation acts on these two, and on one session only.
-/
namespace OpenXRSdk

inductive LabelOp
  | beginLabelRegion (session : XrSession) (labelInfo : XrDebugUtilsLabelEXT)
  | endLabelRegion (session : XrSession)
  | insertLabel (session : XrSession) (labelInfo : XrDebugUtilsLabelEXT)
  | deleteSessionLabels (session : XrSession)
  deriving DecidableEq, Repr

namespace LabelOp

def session : LabelOp → XrSession
  | beginLabelRegion session _ => session
  | endLabelRegion session => session
  | insertLabel session _ => session
  | deleteSessionLabels session => session

def apply (data : DebugUtilsData) : LabelOp → DebugUtilsData
  | beginLabelRegion session labelInfo => data.beginLabelRegion session labelInfo
  | endLabelRegion session => data.endLabelRegion session
  | insertLabel session labelInfo => data.insertLabel session labelInfo
  | deleteSessionLabels session => data.deleteSessionLabels session

end LabelOp

/-! ## The abstract model -/

/-- The inserted label, if it is still there, and the open regions from the innermost to the
outermost. -/
structure LabelState where
  inserted : Option XrDebugUtilsLabelEXT
  regions : List XrDebugUtilsLabelEXT

namespace LabelState

/-- Only the operation that inserts a label leaves one inserted. -/
def insertedBy : LabelOp → Option XrDebugUtilsLabelEXT
  | .insertLabel _ labelInfo => some labelInfo
  | _ => none

def stack (regions : List XrDebugUtilsLabelEXT) : LabelOp → List XrDebugUtilsLabelEXT
  | .beginLabelRegion _ labelInfo => labelInfo :: regions
  | .endLabelRegion _ => regions.tail
  | .insertLabel _ _ => regions
  | .deleteSessionLabels _ => []

def step (state : LabelState) (op : LabelOp) : LabelState := ⟨insertedBy op, stack state.regions op⟩

/-- How the store keeps this state: the inserted label comes after all the regions. -/
def stored (state : LabelState) : List XrSdkSessionLabel :=
  state.regions.reverse.map (⟨·, false⟩) ++ state.inserted.toList.map (⟨·, true⟩)

theorem lookUp_stored (state : LabelState) :
    state.stored.reverse.map (·.debugUtilsLabel) = state.inserted.toList ++ state.regions := by
  cases h : state.inserted <;> simp [stored, h, Function.comp_def]

theorem removeIndividualLabel_stored (state : LabelState) :
    DebugUtilsData.removeIndividualLabel state.stored = state.regions.reverse.map (⟨·, false⟩) := by
  obtain ⟨inserted, regions⟩ := state
  cases inserted with
  | some label => simp [stored, DebugUtilsData.removeIndividualLabel]
  | none =>
    cases regions with
    | nil => rfl
    | cons label regions => simp [stored, DebugUtilsData.removeIndividualLabel]

/-- An individual label is the last of the list. -/
theorem individual_stored {state : LabelState} {earlier later : List XrSdkSessionLabel}
    {label : XrSdkSessionLabel} (h : state.stored = earlier ++ label :: later)
    (hl : label.isIndividualLabel) : later = [] := by
  have hregion : ∀ l ∈ state.regions.reverse.map (XrSdkSessionLabel.mk · false),
      l.isIndividualLabel = false := by simp
  unfold stored at h
  rcases List.append_eq_append_iff.mp h with ⟨common, rfl, htail⟩ | ⟨common, hregions, htail⟩
  · cases hins : state.inserted with
    | none => simp [hins] at htail
    | some inserted =>
      rw [hins] at htail
      cases common with
      | nil => exact (List.cons.inj htail).2.symm
      | cons l common => simp at htail
  · cases common with
    | nil =>
      cases hins : state.inserted with
      | none => simp [hins] at htail
      | some inserted =>
        rw [hins] at htail
        exact (List.cons.inj htail).2
    | cons l common =>
      obtain ⟨rfl, -⟩ := List.cons.inj htail
      have := hregion label (by rw [hregions]; simp)
      rw [hl] at this
      cases this

end LabelState

/-! ## The store implements the model -/

namespace DebugUtilsData

theorem sessionLabelList_deleteSessionLabels (session s : XrSession) (data : DebugUtilsData) :
    (data.deleteSessionLabels session).sessionLabelList s =
      if s = session then [] else data.sessionLabelList s := by
  unfold deleteSessionLabels sessionLabelList
  split_ifs with h
  · subst h
    simp
  · simp [AList.lookup_erase_ne h]

theorem sessionLabelList_apply_of_ne {op : LabelOp} {s : XrSession} (h : op.session ≠ s)
    (data : DebugUtilsData) : (op.apply data).sessionLabelList s = data.sessionLabelList s := by
  cases op with
  | beginLabelRegion session labelInfo =>
    exact (sessionLabelList_pushLabel _ _ _ _).trans (if_neg (Ne.symm h))
  | endLabelRegion session => exact (sessionLabelList_endLabelRegion _ _ _).trans (if_neg (Ne.symm h))
  | insertLabel session labelInfo =>
    exact (sessionLabelList_pushLabel _ _ _ _).trans (if_neg (Ne.symm h))
  | deleteSessionLabels session =>
    exact (sessionLabelList_deleteSessionLabels _ _ _).trans (if_neg (Ne.symm h))

/-- The simulation of one operation. -/
theorem sessionLabelList_apply {data : DebugUtilsData} {op : LabelOp} {state : LabelState}
    (h : data.sessionLabelList op.session = state.stored) :
    (op.apply data).sessionLabelList op.session = (state.step op).stored := by
  cases op with
  | beginLabelRegion session labelInfo =>
    have hs : data.sessionLabelList session = state.stored := h
    refine (sessionLabelList_pushLabel _ _ _ _).trans ((if_pos rfl).trans ?_)
    rw [hs, LabelState.removeIndividualLabel_stored]
    simp [LabelState.step, LabelState.stored, LabelState.stack, LabelState.insertedBy]
  | endLabelRegion session =>
    have hs : data.sessionLabelList session = state.stored := h
    refine (sessionLabelList_endLabelRegion _ _ _).trans ((if_pos rfl).trans ?_)
    rw [hs, LabelState.removeIndividualLabel_stored]
    cases hr : state.regions <;>
      simp [LabelState.step, LabelState.stored, LabelState.stack, LabelState.insertedBy, hr]
  | insertLabel session labelInfo =>
    have hs : data.sessionLabelList session = state.stored := h
    refine (sessionLabelList_pushLabel _ _ _ _).trans ((if_pos rfl).trans ?_)
    rw [hs, LabelState.removeIndividualLabel_stored]
    rfl
  | deleteSessionLabels session =>
    exact (sessionLabelList_deleteSessionLabels _ _ _).trans (if_pos rfl)

end DebugUtilsData

/-! ## Any sequence of operations -/

def labelsAfter (ops : List LabelOp) : DebugUtilsData := ops.foldl LabelOp.apply DebugUtilsData.new

def opsOn (s : XrSession) (ops : List LabelOp) : List LabelOp := ops.filter (·.session = s)

/-- The label that the last operation on the session inserted, if it inserted one. -/
def insertedLabel (s : XrSession) (ops : List LabelOp) : Option XrDebugUtilsLabelEXT :=
  (opsOn s ops).getLast?.bind LabelState.insertedBy

def openRegions (s : XrSession) (ops : List LabelOp) : List XrDebugUtilsLabelEXT :=
  (opsOn s ops).foldl LabelState.stack []

theorem opsOn_snoc (s : XrSession) (ops : List LabelOp) (op : LabelOp) :
    opsOn s (ops ++ [op]) = if op.session = s then opsOn s ops ++ [op] else opsOn s ops := by
  unfold opsOn
  split_ifs with h <;> simp [h]

/-- The store keeps the state of every session. -/
theorem sessionLabelList_labelsAfter (ops : List LabelOp) (s : XrSession) :
    (labelsAfter ops).sessionLabelList s =
      (LabelState.mk (insertedLabel s ops) (openRegions s ops)).stored := by
  induction ops using List.reverseRecOn with
  | nil => rfl
  | append_singleton ops op ih =>
    have hlast : labelsAfter (ops ++ [op]) = op.apply (labelsAfter ops) := by
      simp [labelsAfter, List.foldl_append]
    rw [hlast]
    by_cases h : op.session = s
    · subst h
      rw [DebugUtilsData.sessionLabelList_apply ih]
      simp [LabelState.step, insertedLabel, openRegions, opsOn_snoc, List.foldl_append]
    · rw [DebugUtilsData.sessionLabelList_apply_of_ne h, ih, insertedLabel, insertedLabel, openRegions,
        openRegions, opsOn_snoc, if_neg h]

theorem session_labels_stack (ops : List LabelOp) (s : XrSession) :
    (labelsAfter ops).lookUpSessionLabels s = (insertedLabel s ops).toList ++ openRegions s ops ∧
      (∀ earlier label later, (labelsAfter ops).sessionLabelList s = earlier ++ label :: later →
        label.isIndividualLabel → later = []) ∧
      ∀ op : LabelOp, op.session ≠ s → (op.apply (labelsAfter ops)).sessionLabelList s =
        (labelsAfter ops).sessionLabelList s := by
  have hstored := sessionLabelList_labelsAfter ops s
  refine ⟨?_, fun earlier label later h => ?_, fun op h => ?_⟩
  · rw [DebugUtilsData.lookUpSessionLabels, hstored, LabelState.lookUp_stored]
  · exact LabelState.individual_stored (hstored.symm.trans h)
  · exact DebugUtilsData.sessionLabelList_apply_of_ne h _

/-- The end that matches no begin does nothing but remove the inserted label. -/
example : (labelsAfter [.insertLabel 1 ⟨['a']⟩, .endLabelRegion 1, .beginLabelRegion 1 ⟨['b']⟩,
    .beginLabelRegion 2 ⟨['c']⟩, .insertLabel 1 ⟨['d']⟩]).lookUpSessionLabels 1 =
      [⟨['d']⟩, ⟨['b']⟩] := by decide

end OpenXRSdk
