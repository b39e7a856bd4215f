import OpenXRSdk.KeyedLists
import OpenXRSdk.ObjectInfo

/-!
# Object names as a map

The vector of named objects stands for a map from handles and types to names: whatever is added
and removed, each pair has at most one entry, and the last operation on it decides what is found.
-/
namespace OpenXRSdk

open KeyedLists

def XrSdkLogObjectInfo.identity (info : XrSdkLogObjectInfo) : ℕ × XrObjectType :=
  (info.handle, info.type)

inductive NameOp
  | addObjectName (handle : ℕ) (type : XrObjectType) (name : StdString)
  | removeObject (handle : ℕ) (type : XrObjectType)
  deriving DecidableEq, Repr

namespace NameOp

def identity : NameOp → ℕ × XrObjectType
  | addObjectName handle type _ => (handle, type)
  | removeObject handle type => (handle, type)

def apply (infos : ObjectInfoCollection) : NameOp → ObjectInfoCollection
  | addObjectName handle type name => ObjectInfoCollection.addObjectName handle type name infos
  | removeObject handle type => ObjectInfoCollection.removeObject handle type infos

/-- The name that the object has after the operation; an empty one removes it. -/
def name? : NameOp → Option StdString
  | addObjectName _ _ name => if name = [] then none else some name
  | removeObject _ _ => none

end NameOp

namespace ObjectInfoCollection

variable {infos : ObjectInfoCollection} {handle : ℕ} {type : XrObjectType} {name : StdString}

theorem lookUpStoredObjectInfo_eq (infos : ObjectInfoCollection) (handle : ℕ) (type : XrObjectType) :
    lookUpStoredObjectInfo infos handle type = infos.find? (·.identity = (handle, type)) := by
  unfold lookUpStoredObjectInfo XrSdkLogObjectInfo.identity
  simp only [Prod.mk.injEq]

theorem removeObject_eq (infos : ObjectInfoCollection) (handle : ℕ) (type : XrObjectType) :
    removeObject handle type infos = remove (·.identity) (handle, type) infos := by
  unfold removeObject remove XrSdkLogObjectInfo.identity
  simp only [ne_eq, Prod.mk.injEq]

theorem setName_eq (infos : ObjectInfoCollection) (handle : ℕ) (type : XrObjectType)
    (name : StdString) : setName handle type name infos =
      upsert (·.identity) (handle, type) (fun info => { info with name }) ⟨handle, type, name⟩ infos := by
  induction infos with
  | nil => rfl
  | cons info infos ih =>
    have hidentity : info.identity = (handle, type) ↔ info.handle = handle ∧ info.type = type :=
      Prod.mk.injEq _ _ _ _ ▸ Iff.rfl
    simp only [setName, upsert, hidentity, ih]

/-- Each pair has at most one entry, and no entry an empty name. -/
structure WellFormed (infos : ObjectInfoCollection) : Prop where
  distinct : (infos.map (·.identity)).Nodup
  named : ∀ info ∈ infos, info.name ≠ []

theorem WellFormed.removeObject (h : WellFormed infos) (handle : ℕ) (type : XrObjectType) :
    WellFormed (removeObject handle type infos) where
  distinct := by
    rw [removeObject_eq]
    exact nodup_map_remove h.distinct _
  named info hinfo := h.named info (List.mem_filter.mp hinfo).1

theorem WellFormed.setName (h : WellFormed infos) (handle : ℕ) (type : XrObjectType)
    (hname : name ≠ []) : WellFormed (setName handle type name infos) where
  distinct := by
    rw [setName_eq]
    exact nodup_map_upsert (fun _ => rfl) rfl h.distinct
  named info hinfo := by
    rw [setName_eq] at hinfo
    rcases mem_upsert hinfo with hinfo | rfl | ⟨old, -, rfl⟩
    · exact h.named info hinfo
    · exact hname
    · exact hname

/-- One operation keeps the collection well formed. -/
theorem WellFormed.apply (h : WellFormed infos) (op : NameOp) : WellFormed (op.apply infos) := by
  cases op with
  | addObjectName handle type name =>
    change WellFormed (addObjectName handle type name infos)
    unfold addObjectName
    split_ifs with hempty
    · exact h.removeObject handle type
    · exact h.setName handle type (by simpa using hempty)
  | removeObject handle type => exact h.removeObject handle type

/-- One operation decides what is found for its pair, and changes nothing for another. -/
theorem lookUpStoredObjectInfo_apply (infos : ObjectInfoCollection) (op : NameOp) (handle : ℕ)
    (type : XrObjectType) : lookUpStoredObjectInfo (op.apply infos) handle type =
      if (handle, type) = op.identity then op.name?.map (⟨handle, type, ·⟩)
      else lookUpStoredObjectInfo infos handle type := by
  have hremove (h : ℕ) (t : XrObjectType) :
      lookUpStoredObjectInfo (removeObject h t infos) handle type =
        if (handle, type) = (h, t) then none else lookUpStoredObjectInfo infos handle type := by
    rw [lookUpStoredObjectInfo_eq, removeObject_eq, find?_remove, lookUpStoredObjectInfo_eq]
  cases op with
  | removeObject h t => exact hremove h t
  | addObjectName h t name =>
    change lookUpStoredObjectInfo (addObjectName h t name infos) handle type = _
    unfold addObjectName
    cases name with
    | nil => exact hremove h t
    | cons c name =>
      have hset : lookUpStoredObjectInfo (setName h t (c :: name) infos) handle type =
          if (handle, type) = (h, t) then
            some (((infos.find? (·.identity = (h, t))).map fun info =>
              { info with name := c :: name }).getD ⟨h, t, c :: name⟩)
          else infos.find? (·.identity = (handle, type)) := by
        have hkey (info : XrSdkLogObjectInfo) :
            XrSdkLogObjectInfo.identity { info with name := c :: name } = info.identity := rfl
        have hnew : XrSdkLogObjectInfo.identity ⟨h, t, c :: name⟩ = (h, t) := rfl
        rw [lookUpStoredObjectInfo_eq, setName_eq]
        exact find?_upsert hkey hnew _ _
      rw [if_neg (by simp), hset, lookUpStoredObjectInfo_eq]
      refine ite_congr rfl (fun heq => ?_) fun _ => rfl
      cases heq
      cases hfind : infos.find? (·.identity = (handle, type)) with
      | none => rfl
      | some info =>
        have hidentity : info.identity = (handle, type) := by simpa using List.find?_some hfind
        cases hidentity
        rfl

end ObjectInfoCollection

/-! ## Any sequence of operations -/

def namesAfter (ops : List NameOp) : ObjectInfoCollection := ops.foldl NameOp.apply []

/-- The last name that was added for the pair, if it has not been removed since. -/
def lastName (ops : List NameOp) (identity : ℕ × XrObjectType) : Option StdString :=
  (ops.filter (·.identity = identity)).getLast?.bind NameOp.name?

theorem lastName_snoc (ops : List NameOp) (op : NameOp) (identity : ℕ × XrObjectType) :
    lastName (ops ++ [op]) identity =
      if identity = op.identity then op.name? else lastName ops identity := by
  unfold lastName
  split_ifs with h
  · subst h
    simp
  · simp [Ne.symm h]

theorem namesAfter_snoc (ops : List NameOp) (op : NameOp) :
    namesAfter (ops ++ [op]) = op.apply (namesAfter ops) := by
  simp [namesAfter]

open ObjectInfoCollection

theorem wellFormed_namesAfter (ops : List NameOp) : WellFormed (namesAfter ops) := by
  induction ops using List.reverseRecOn with
  | nil => exact ⟨List.nodup_nil, fun _ h => absurd h List.not_mem_nil⟩
  | append_singleton ops op ih =>
    rw [namesAfter_snoc]
    exact ih.apply op

theorem lookUpStoredObjectInfo_namesAfter (ops : List NameOp) (handle : ℕ) (type : XrObjectType) :
    lookUpStoredObjectInfo (namesAfter ops) handle type =
      (lastName ops (handle, type)).map (⟨handle, type, ·⟩) := by
  induction ops using List.reverseRecOn with
  | nil => rfl
  | append_singleton ops op ih =>
    rw [namesAfter_snoc, lookUpStoredObjectInfo_apply, lastName_snoc, ih]
    split_ifs <;> rfl

/-- The collection is the map of the last names, for every way of looking a name up. -/
theorem object_names_map (ops : List NameOp) :
    ((namesAfter ops).map (·.identity)).Nodup ∧ (∀ info ∈ namesAfter ops, info.name ≠ []) ∧
      (∀ handle type, lookUpStoredObjectInfo (namesAfter ops) handle type =
        (lastName ops (handle, type)).map (⟨handle, type, ·⟩)) ∧
      (∀ handle type name, lookUpSdkObjectName (namesAfter ops) ⟨handle, type, name⟩ =
        ((lastName ops (handle, type)).isSome,
          ⟨handle, type, (lastName ops (handle, type)).getD name⟩)) ∧
      (∀ handle type name, lookUpDebugUtilsObjectName (namesAfter ops) ⟨type, handle, name⟩ =
        ((lastName ops (handle, type)).isSome,
          ⟨type, handle, (lastName ops (handle, type)).getD name⟩)) ∧
      ∀ op handle type, (handle, type) ≠ NameOp.identity op →
        lookUpStoredObjectInfo (op.apply (namesAfter ops)) handle type =
          lookUpStoredObjectInfo (namesAfter ops) handle type := by
  have hlookUp := lookUpStoredObjectInfo_namesAfter ops
  refine ⟨(wellFormed_namesAfter ops).distinct, (wellFormed_namesAfter ops).named, hlookUp,
    fun handle type name => ?_, fun handle type name => ?_, fun op handle type h => ?_⟩
  · unfold lookUpSdkObjectName
    rw [hlookUp]
    cases lastName ops (handle, type) <;> rfl
  · unfold lookUpDebugUtilsObjectName
    rw [hlookUp]
    cases lastName ops (handle, type) <;> rfl
  · rw [lookUpStoredObjectInfo_apply, if_neg h]

/-- An empty name removes the object of its own type only. -/
example : (namesAfter [.addObjectName 7 1 ['a'], .addObjectName 7 2 ['b'],
    .addObjectName 7 1 []]).map (·.name) = [['b']] := by decide

end OpenXRSdk
