import OpenXRSdk.Types

/-!
# Object names and session labels

The store behind XR_EXT_debug_utils: names that the application gave to objects and, for
each session, its label regions from the outermost to the innermost with at most one
individual label at the end.
-/
namespace OpenXRSdk

/-- `XrDebugUtilsLabelEXT`, less its header. -/
structure XrDebugUtilsLabelEXT where
  labelName : StdString
  deriving DecidableEq, Repr

structure XrSdkSessionLabel where
  debugUtilsLabel : XrDebugUtilsLabelEXT
  isIndividualLabel : Bool
  deriving DecidableEq, Repr

abbrev XrObjectType := ℕ

def xrObjectTypeSession : XrObjectType := 2

structure XrSdkLogObjectInfo where
  handle : ℕ
  type : XrObjectType
  name : StdString
  deriving DecidableEq, Repr

structure XrDebugUtilsObjectNameInfoEXT where
  objectType : XrObjectType
  objectHandle : ℕ
  objectName : StdString
  deriving DecidableEq, Repr

abbrev ObjectInfoCollection := List XrSdkLogObjectInfo

namespace ObjectInfoCollection

def removeObject (handle : ℕ) (type : XrObjectType) (infos : ObjectInfoCollection) :
    ObjectInfoCollection :=
  infos.filter fun info => ¬ (info.handle = handle ∧ info.type = type)

/-- Name the first stored object with this handle and type, or store it at the end. -/
def setName (handle : ℕ) (type : XrObjectType) (name : StdString) :
    ObjectInfoCollection → ObjectInfoCollection
  | [] => [⟨handle, type, name⟩]
  | info :: infos =>
    if info.handle = handle ∧ info.type = type then { info with name } :: infos
    else info :: setName handle type name infos

def addObjectName (handle : ℕ) (type : XrObjectType) (name : StdString)
    (infos : ObjectInfoCollection) : ObjectInfoCollection :=
  if name.isEmpty then removeObject handle type infos else setName handle type name infos

def lookUpStoredObjectInfo (infos : ObjectInfoCollection) (handle : ℕ) (type : XrObjectType) :
    Option XrSdkLogObjectInfo :=
  infos.find? fun info => info.handle = handle ∧ info.type = type

/-- `LookUpObjectName` of an `XrSdkLogObjectInfo`: whether it is found, and its new value. -/
def lookUpSdkObjectName (infos : ObjectInfoCollection) (info : XrSdkLogObjectInfo) :
    Bool × XrSdkLogObjectInfo :=
  match lookUpStoredObjectInfo infos info.handle info.type with
  | some stored => (true, { info with name := stored.name })
  | none => (false, info)

/-- `LookUpObjectName` of an `XrDebugUtilsObjectNameInfoEXT`, whose name comes to point to
the stored one. -/
def lookUpDebugUtilsObjectName (infos : ObjectInfoCollection) (info : XrDebugUtilsObjectNameInfoEXT) :
    Bool × XrDebugUtilsObjectNameInfoEXT :=
  match lookUpStoredObjectInfo infos info.objectHandle info.objectType with
  | some stored => (true, { info with objectName := stored.name })
  | none => (false, info)

def lookUpObjectName (infos : ObjectInfoCollection) (handle : ℕ) (type : XrObjectType) :
    Option StdString :=
  (infos.find? fun info => info.handle = handle ∧ info.type = type).map (·.name)

end ObjectInfoCollection

structure DebugUtilsData where
  sessionLabels : UnorderedMap XrSession (List XrSdkSessionLabel)
  objectInfo : ObjectInfoCollection
  deriving DecidableEq

namespace DebugUtilsData

def new : DebugUtilsData := ⟨∅, []⟩

def removeIndividualLabel (labels : List XrSdkSessionLabel) : List XrSdkSessionLabel :=
  match labels.getLast? with
  | some label => if label.isIndividualLabel then labels.dropLast else labels
  | none => labels

def sessionLabelList (data : DebugUtilsData) (session : XrSession) : List XrSdkSessionLabel :=
  (data.sessionLabels.lookup session).getD []

def pushLabel (session : XrSession) (label : XrSdkSessionLabel) (data : DebugUtilsData) :
    DebugUtilsData :=
  let labels := removeIndividualLabel (data.sessionLabelList session) ++ [label]
  { data with sessionLabels := data.sessionLabels.insert session labels }

def beginLabelRegion (session : XrSession) (labelInfo : XrDebugUtilsLabelEXT) :
    DebugUtilsData → DebugUtilsData := pushLabel session ⟨labelInfo, false⟩

def endLabelRegion (session : XrSession) (data : DebugUtilsData) : DebugUtilsData :=
  match data.sessionLabels.lookup session with
  | none => data
  | some labels =>
    let labels := (removeIndividualLabel labels).dropLast
    { data with sessionLabels := data.sessionLabels.insert session labels }

def insertLabel (session : XrSession) (labelInfo : XrDebugUtilsLabelEXT) :
    DebugUtilsData → DebugUtilsData := pushLabel session ⟨labelInfo, true⟩

def deleteSessionLabels (session : XrSession) (data : DebugUtilsData) : DebugUtilsData :=
  { data with sessionLabels := data.sessionLabels.erase session }

def addObjectName (handle : ℕ) (type : XrObjectType) (name : StdString) (data : DebugUtilsData) :
    DebugUtilsData :=
  { data with objectInfo := ObjectInfoCollection.addObjectName handle type name data.objectInfo }

/-- The labels of a session, from the innermost to the outermost. -/
def lookUpSessionLabels (data : DebugUtilsData) (session : XrSession) : List XrDebugUtilsLabelEXT :=
  (data.sessionLabelList session).reverse.map (·.debugUtilsLabel)

@[simp] theorem sessionLabelList_pushLabel (session s : XrSession) (label : XrSdkSessionLabel)
    (data : DebugUtilsData) :
    (data.pushLabel session label).sessionLabelList s =
      if s = session then removeIndividualLabel (data.sessionLabelList session) ++ [label]
      else data.sessionLabelList s := by
  unfold pushLabel sessionLabelList
  split_ifs with h
  · subst h
    simp
  · simp [AList.lookup_insert_ne h]

theorem sessionLabelList_endLabelRegion (session s : XrSession) (data : DebugUtilsData) :
    (data.endLabelRegion session).sessionLabelList s =
      if s = session then (removeIndividualLabel (data.sessionLabelList session)).dropLast
      else data.sessionLabelList s := by
  unfold endLabelRegion
  cases h : data.sessionLabels.lookup session with
  | none =>
    split_ifs with hs
    · subst hs
      simp [sessionLabelList, h, removeIndividualLabel]
    · rfl
  | some labels =>
    unfold sessionLabelList
    split_ifs with hs
    · subst hs
      simp [h]
    · simp [AList.lookup_insert_ne hs]

theorem lookUpSessionLabels_eq_nil {data : DebugUtilsData} {session : XrSession} :
    data.lookUpSessionLabels session = [] ↔ data.sessionLabelList session = [] := by
  simp [lookUpSessionLabels]

end DebugUtilsData
end OpenXRSdk
