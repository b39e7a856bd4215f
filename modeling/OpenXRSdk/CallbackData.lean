import OpenXRSdk.CountedArrays
import OpenXRSdk.ObjectNames

/-!
# Names and labels in callback data

The two ways in which the stored names and labels come to a message: that of the loader's own
messages, and that of the messages the application submits.
-/
namespace OpenXRSdk

open ObjectInfoCollection

/-- `XrDebugUtilsMessengerCallbackDataEXT`. A name that is null counts as empty, as it does to
the constructor of `XrSdkLogObjectInfo`. -/
structure XrDebugUtilsMessengerCallbackDataEXT where
  messageId : StdString
  functionName : StdString
  message : StdString
  objects : CountedArray XrDebugUtilsObjectNameInfoEXT
  sessionLabels : CountedArray XrDebugUtilsLabelEXT
  deriving DecidableEq, Repr

/-! ## The loader's own messages -/

def populateObjectNameInfo (objects : List XrSdkLogObjectInfo) : List XrDebugUtilsObjectNameInfoEXT :=
  objects.map fun info => ⟨info.type, info.handle, info.name⟩

structure NamesAndLabels where
  sdkObjects : List XrSdkLogObjectInfo
  objects : List XrDebugUtilsObjectNameInfoEXT
  labels : List XrDebugUtilsLabelEXT

def NamesAndLabels.new (objects : List XrSdkLogObjectInfo) (labels : List XrDebugUtilsLabelEXT) :
    NamesAndLabels := ⟨objects, populateObjectNameInfo objects, labels⟩

namespace DebugUtilsData

/-- One round of `PopulateNamesAndLabels`, after the objects and labels of the rounds before. -/
def populateObject (data : DebugUtilsData)
    (populated : List XrSdkLogObjectInfo × List XrDebugUtilsLabelEXT) (obj : XrSdkLogObjectInfo) :
    List XrSdkLogObjectInfo × List XrDebugUtilsLabelEXT :=
  let (objects, labels) := populated
  let (_, obj) := lookUpSdkObjectName data.objectInfo obj
  (objects ++ [obj],
    if xrObjectTypeSession = obj.type then labels ++ data.lookUpSessionLabels obj.handle else labels)

def populateNamesAndLabels (data : DebugUtilsData) (objects : List XrSdkLogObjectInfo) : NamesAndLabels :=
  let (objects, labels) := objects.foldl data.populateObject ([], [])
  NamesAndLabels.new objects labels

/-! ## Submitted messages -/

/-- One round of the inspection: whether a name has been found, and the labels. -/
def inspectObject (data : DebugUtilsData) (found : Bool × List XrDebugUtilsLabelEXT)
    (obj : XrDebugUtilsObjectNameInfoEXT) : Bool × List XrDebugUtilsLabelEXT :=
  let (nameFound, labels) := found
  (nameFound || (lookUpStoredObjectInfo data.objectInfo obj.objectHandle obj.objectType).isSome,
    if xrObjectTypeSession = obj.objectType then labels ++ data.lookUpSessionLabels obj.objectHandle
    else labels)

/-- The data that `WrapCallbackData` exports. The copy keeps the count of the objects. -/
def wrapCallbackData (data : DebugUtilsData) (callbackData : XrDebugUtilsMessengerCallbackDataEXT) :
    XrDebugUtilsMessengerCallbackDataEXT :=
  if data.objectInfo = [] ∨ callbackData.objects.count = 0 then callbackData
  else
    let (nameFound, labels) := callbackData.objects.carried.foldl data.inspectObject (false, [])
    if !nameFound ∧ labels = [] then callbackData
    else
      let newObjects := callbackData.objects.carried.map fun obj =>
        (lookUpDebugUtilsObjectName data.objectInfo obj).2
      { callbackData with
        objects := ⟨callbackData.objects.count, newObjects⟩
        sessionLabels := CountedArray.ofList 32 labels }

/-! ## What both collect -/

def labelsOf (data : DebugUtilsData) (objects : List (ℕ × XrObjectType)) :
    List XrDebugUtilsLabelEXT :=
  objects.flatMap fun obj => if obj.2 = xrObjectTypeSession then data.lookUpSessionLabels obj.1 else []

def labelCount (data : DebugUtilsData) (objects : List (ℕ × XrObjectType)) : ℕ :=
  ((objects.filter (·.2 = xrObjectTypeSession)).map fun obj =>
    (data.sessionLabelList obj.1).length).sum

/-- The name that is stored for an object, if there is one. -/
def storedName (data : DebugUtilsData) (handle : ℕ) (type : XrObjectType) : Option StdString :=
  lookUpObjectName data.objectInfo handle type

theorem length_labelsOf (data : DebugUtilsData) (objects : List (ℕ × XrObjectType)) :
    (data.labelsOf objects).length = data.labelCount objects := by
  unfold labelsOf labelCount
  induction objects with
  | nil => rfl
  | cons obj objects ih =>
    rw [List.flatMap_cons, List.length_append, ih]
    by_cases h : obj.2 = xrObjectTypeSession
    · simp [h, lookUpSessionLabels]
    · simp [h]

theorem labelsOf_cons (data : DebugUtilsData) (obj : ℕ × XrObjectType)
    (objects : List (ℕ × XrObjectType)) : data.labelsOf (obj :: objects) =
      (if obj.2 = xrObjectTypeSession then data.lookUpSessionLabels obj.1 else []) ++
        data.labelsOf objects := rfl

theorem storedName_eq_none_of_empty {data : DebugUtilsData} (h : data.objectInfo = [])
    (handle : ℕ) (type : XrObjectType) : data.storedName handle type = none := by
  rw [storedName, h]
  rfl

theorem storedName_isSome (data : DebugUtilsData) (handle : ℕ) (type : XrObjectType) :
    (data.storedName handle type).isSome =
      (lookUpStoredObjectInfo data.objectInfo handle type).isSome :=
  Option.isSome_map

theorem lookUpSdkObjectName_eq (data : DebugUtilsData) (obj : XrSdkLogObjectInfo) :
    (lookUpSdkObjectName data.objectInfo obj).2 =
      { obj with name := (data.storedName obj.handle obj.type).getD obj.name } := by
  unfold lookUpSdkObjectName storedName lookUpObjectName lookUpStoredObjectInfo
  cases data.objectInfo.find? fun info => info.handle = obj.handle ∧ info.type = obj.type <;> rfl

theorem lookUpDebugUtilsObjectName_eq (data : DebugUtilsData) (obj : XrDebugUtilsObjectNameInfoEXT) :
    (lookUpDebugUtilsObjectName data.objectInfo obj).2 =
      { obj with
        objectName := (data.storedName obj.objectHandle obj.objectType).getD obj.objectName } := by
  unfold lookUpDebugUtilsObjectName storedName lookUpObjectName lookUpStoredObjectInfo
  cases data.objectInfo.find? fun info => info.handle = obj.objectHandle ∧ info.type = obj.objectType <;>
    rfl

/-- The loop of `PopulateNamesAndLabels`. -/
theorem foldl_populateObject (data : DebugUtilsData) (objects : List XrSdkLogObjectInfo)
    (populated : List XrSdkLogObjectInfo × List XrDebugUtilsLabelEXT) :
    objects.foldl data.populateObject populated =
      (populated.1 ++ objects.map (fun obj =>
          { obj with name := (data.storedName obj.handle obj.type).getD obj.name }),
        populated.2 ++ data.labelsOf (objects.map (·.identity))) := by
  induction objects generalizing populated with
  | nil => simp [labelsOf]
  | cons obj objects ih =>
    have hround : data.populateObject populated obj =
        (populated.1 ++ [{ obj with name := (data.storedName obj.handle obj.type).getD obj.name }],
          populated.2 ++ if obj.type = xrObjectTypeSession then data.lookUpSessionLabels obj.handle
            else []) := by
      unfold populateObject
      simp only [lookUpSdkObjectName_eq, eq_comm (a := xrObjectTypeSession)]
      split_ifs <;> simp
    rw [List.foldl_cons, hround, ih, List.map_cons, List.map_cons, labelsOf_cons]
    simp only [List.append_assoc, List.singleton_append]
    rfl

theorem populateNamesAndLabels_eq (data : DebugUtilsData) (objects : List XrSdkLogObjectInfo) :
    data.populateNamesAndLabels objects = NamesAndLabels.new
      (objects.map fun obj =>
        { obj with name := (data.storedName obj.handle obj.type).getD obj.name })
      (data.labelsOf (objects.map (·.identity))) := by
  unfold populateNamesAndLabels
  rw [foldl_populateObject]
  rfl

end DebugUtilsData

def XrDebugUtilsObjectNameInfoEXT.identity (info : XrDebugUtilsObjectNameInfoEXT) :
    ℕ × XrObjectType := (info.objectHandle, info.objectType)

namespace XrDebugUtilsMessengerCallbackDataEXT

def identities (callbackData : XrDebugUtilsMessengerCallbackDataEXT) : List (ℕ × XrObjectType) :=
  callbackData.objects.carried.map (·.identity)

end XrDebugUtilsMessengerCallbackDataEXT

namespace DebugUtilsData

def Names (data : DebugUtilsData) (objects : List (ℕ × XrObjectType)) : Prop :=
  ∃ obj ∈ objects, (data.storedName obj.1 obj.2).isSome

theorem not_names_of_empty {data : DebugUtilsData} (h : data.objectInfo = [])
    (objects : List (ℕ × XrObjectType)) : ¬ data.Names objects := by
  rintro ⟨obj, -, hsome⟩
  rw [storedName_eq_none_of_empty h] at hsome
  cases hsome

/-- The object with the name that is stored for it, else with its own. -/
def named (data : DebugUtilsData) (obj : XrDebugUtilsObjectNameInfoEXT) :
    XrDebugUtilsObjectNameInfoEXT :=
  { obj with
    objectName := (data.storedName obj.objectHandle obj.objectType).getD obj.objectName }

theorem named_eq_self {data : DebugUtilsData} {obj : XrDebugUtilsObjectNameInfoEXT}
    (h : data.storedName obj.objectHandle obj.objectType = none) : data.named obj = obj := by
  rw [named, h]
  rfl

/-- The inspection of the callback's objects. -/
theorem foldl_inspectObject (data : DebugUtilsData) (objects : List XrDebugUtilsObjectNameInfoEXT)
    (found : Bool × List XrDebugUtilsLabelEXT) :
    objects.foldl data.inspectObject found =
      (found.1 || objects.any fun obj => (data.storedName obj.objectHandle obj.objectType).isSome,
        found.2 ++ data.labelsOf (objects.map (·.identity))) := by
  induction objects generalizing found with
  | nil => simp [labelsOf]
  | cons obj objects ih =>
    have hround : data.inspectObject found obj =
        (found.1 || (data.storedName obj.objectHandle obj.objectType).isSome,
          found.2 ++ if obj.objectType = xrObjectTypeSession then
            data.lookUpSessionLabels obj.objectHandle else []) := by
      unfold inspectObject
      simp only [storedName_isSome, eq_comm (a := xrObjectTypeSession)]
      split_ifs <;> simp
    rw [List.foldl_cons, hround, ih, List.map_cons, labelsOf_cons]
    simp only [List.append_assoc, List.any_cons, Bool.or_assoc]
    rfl

section Wrapping
variable {data : DebugUtilsData} {callbackData : XrDebugUtilsMessengerCallbackDataEXT}

theorem names_identities : data.Names callbackData.identities ↔
    (callbackData.objects.carried.any fun obj =>
      (data.storedName obj.objectHandle obj.objectType).isSome) = true := by
  unfold Names XrDebugUtilsMessengerCallbackDataEXT.identities
  simp [XrDebugUtilsObjectNameInfoEXT.identity]

theorem wrapCallbackData_of_no_names (h : data.objectInfo = []) :
    data.wrapCallbackData callbackData = callbackData := by
  rw [wrapCallbackData, if_pos (Or.inl h)]

/-- Neither a name nor a label is stored for the objects. -/
theorem wrapCallbackData_of_nothing (hnames : ¬ data.Names callbackData.identities)
    (hlabels : data.labelsOf callbackData.identities = []) :
    data.wrapCallbackData callbackData = callbackData := by
  unfold wrapCallbackData
  rw [foldl_inspectObject]
  rw [names_identities, Bool.not_eq_true] at hnames
  unfold XrDebugUtilsMessengerCallbackDataEXT.identities at hlabels
  simp [hnames, hlabels]

theorem wrapCallbackData_of_found (hstored : data.objectInfo ≠ [])
    (hfound : data.Names callbackData.identities ∨ data.labelsOf callbackData.identities ≠ []) :
    data.wrapCallbackData callbackData = { callbackData with
      objects := ⟨callbackData.objects.count, callbackData.objects.carried.map data.named⟩
      sessionLabels := CountedArray.ofList 32 (data.labelsOf callbackData.identities) } := by
  have hcount : callbackData.objects.count ≠ 0 := by
    intro hcount
    have hnone : callbackData.identities = [] := by
      simp [XrDebugUtilsMessengerCallbackDataEXT.identities, CountedArray.carried, hcount]
    rw [hnone] at hfound
    rcases hfound with ⟨obj, hobj, -⟩ | hlabels
    · cases hobj
    · exact hlabels rfl
  have hnew : (fun obj => (lookUpDebugUtilsObjectName data.objectInfo obj).2) = data.named :=
    funext data.lookUpDebugUtilsObjectName_eq
  unfold wrapCallbackData
  rw [if_neg (not_or.mpr ⟨hstored, hcount⟩), foldl_inspectObject, hnew]
  refine if_neg ?_
  rw [names_identities] at hfound
  rcases hfound with hnames | hlabels
  · simp [hnames]
  · exact fun h => hlabels h.2

/-- The callback is exported as it is, or with all that was found for its objects. -/
theorem wrapCallbackData_cases (data : DebugUtilsData)
    (callbackData : XrDebugUtilsMessengerCallbackDataEXT) :
    ¬ data.Names callbackData.identities ∧
        (data.objectInfo = [] ∨ data.labelsOf callbackData.identities = []) ∧
        data.wrapCallbackData callbackData = callbackData ∨
      data.objectInfo ≠ [] ∧
        (data.Names callbackData.identities ∨ data.labelsOf callbackData.identities ≠ []) ∧
        data.wrapCallbackData callbackData = { callbackData with
          objects := ⟨callbackData.objects.count, callbackData.objects.carried.map data.named⟩
          sessionLabels := CountedArray.ofList 32 (data.labelsOf callbackData.identities) } := by
  by_cases hstored : data.objectInfo = []
  · exact Or.inl ⟨not_names_of_empty hstored _, Or.inl hstored, wrapCallbackData_of_no_names hstored⟩
  by_cases hfound : data.Names callbackData.identities ∨ data.labelsOf callbackData.identities ≠ []
  · exact Or.inr ⟨hstored, hfound, wrapCallbackData_of_found hstored hfound⟩
  · obtain ⟨hnames, hlabels⟩ := not_or.mp hfound
    have hnone := not_not.mp hlabels
    exact Or.inl ⟨hnames, Or.inr hnone, wrapCallbackData_of_nothing hnames hnone⟩

/-- The exported objects are those of the callback with their stored names. -/
theorem objects_wrapCallbackData :
    (data.wrapCallbackData callbackData).objects.count = callbackData.objects.count ∧
      (data.wrapCallbackData callbackData).objects.carried =
        callbackData.objects.carried.map data.named := by
  rcases data.wrapCallbackData_cases callbackData with ⟨hnames, -, hsame⟩ | ⟨-, -, hcopy⟩
  · have hunnamed : callbackData.objects.carried.map data.named = callbackData.objects.carried := by
      refine (List.map_congr_left fun obj hobj => ?_).trans (List.map_id _)
      apply named_eq_self
      by_contra hsome
      exact hnames ⟨obj.identity, List.mem_map_of_mem hobj, Option.isSome_iff_ne_none.mpr hsome⟩
    rw [hsame, hunnamed]
    exact ⟨rfl, rfl⟩
  · rw [hcopy]
    exact ⟨rfl, CountedArray.carried_mk_carried _ _⟩

end Wrapping

/-! ## The two ways compared -/

/-- A callback with these objects, without names or labels of its own. -/
structure Bare (objects : List (ℕ × XrObjectType))
    (callbackData : XrDebugUtilsMessengerCallbackDataEXT) : Prop where
  objects : callbackData.objects.carried = objects.map fun obj => ⟨obj.2, obj.1, []⟩
  labels : callbackData.sessionLabels.carried = []

/-- A submitted message about the objects comes with the names and labels of a message of the
loader about them. -/
def WrapsAsPopulated (data : DebugUtilsData) (objects : List (ℕ × XrObjectType)) : Prop :=
  ∀ callbackData, Bare objects callbackData →
    (data.wrapCallbackData callbackData).objects.carried =
        (data.populateNamesAndLabels (objects.map fun obj => ⟨obj.1, obj.2, []⟩)).objects ∧
      (data.wrapCallbackData callbackData).sessionLabels.carried =
        (data.populateNamesAndLabels (objects.map fun obj => ⟨obj.1, obj.2, []⟩)).labels

theorem exists_bare (objects : List (ℕ × XrObjectType)) : ∃ callbackData, Bare objects callbackData :=
  ⟨⟨[], [], [], ⟨objects.length, objects.map fun obj => ⟨obj.2, obj.1, []⟩⟩, .empty⟩,
    by simp [CountedArray.carried], rfl⟩

theorem Bare.identities {objects : List (ℕ × XrObjectType)}
    {callbackData : XrDebugUtilsMessengerCallbackDataEXT} (h : Bare objects callbackData) :
    callbackData.identities = objects := by
  unfold XrDebugUtilsMessengerCallbackDataEXT.identities
  rw [h.objects, List.map_map]
  exact List.map_id _

/-- The names always agree; the labels do exactly when there are none, or the check for stored
names lets the callback through and the labels can be counted. -/
theorem wrapsAsPopulated_iff (data : DebugUtilsData) (objects : List (ℕ × XrObjectType)) :
    data.WrapsAsPopulated objects ↔ data.labelCount objects = 0 ∨
      (data.objectInfo ≠ [] ∧ data.labelCount objects < 2 ^ 32) := by
  have hlabels : (data.populateNamesAndLabels (objects.map fun obj => ⟨obj.1, obj.2, []⟩)).labels =
      data.labelsOf objects := by
    rw [populateNamesAndLabels_eq]
    simp [NamesAndLabels.new, XrSdkLogObjectInfo.identity, Function.comp_def]
  have hobjects {callbackData : XrDebugUtilsMessengerCallbackDataEXT} (h : Bare objects callbackData) :
      (data.wrapCallbackData callbackData).objects.carried =
        (data.populateNamesAndLabels (objects.map fun obj => ⟨obj.1, obj.2, []⟩)).objects := by
    rw [objects_wrapCallbackData.2, h.objects, populateNamesAndLabels_eq]
    simp [NamesAndLabels.new, populateObjectNameInfo, named, Function.comp_def]
  rw [← length_labelsOf, List.length_eq_zero_iff]
  unfold WrapsAsPopulated
  rw [hlabels]
  constructor
  · intro h
    obtain ⟨callbackData, hbare⟩ := exists_bare objects
    have hcarried := (h callbackData hbare).2
    rcases data.wrapCallbackData_cases callbackData with ⟨-, -, hsame⟩ | ⟨hstored, -, hcopy⟩
    · rw [hsame, hbare.labels] at hcarried
      exact Or.inl hcarried.symm
    · rw [hcopy, hbare.identities] at hcarried
      exact Or.inr ⟨hstored, CountedArray.carried_ofList.mp hcarried⟩
  · intro h callbackData hbare
    refine ⟨hobjects hbare, ?_⟩
    rcases data.wrapCallbackData_cases callbackData with ⟨-, hnone, hsame⟩ | ⟨-, -, hcopy⟩
    · rw [hbare.identities] at hnone
      have hempty : data.labelsOf objects = [] :=
        h.elim id fun hstored => hnone.resolve_left hstored.1
      rw [hsame, hbare.labels, hempty]
    · rw [hcopy, hbare.identities]
      refine CountedArray.carried_ofList.mpr ?_
      rcases h with hempty | ⟨-, hfits⟩
      · rw [hempty]
        exact Nat.two_pow_pos 32
      · exact hfits

def unnamedSession : DebugUtilsData := new.beginLabelRegion 5 ⟨['a']⟩

def aboutSession : XrDebugUtilsMessengerCallbackDataEXT where
  messageId := []
  functionName := []
  message := []
  objects := ⟨1, [⟨xrObjectTypeSession, 5, []⟩]⟩
  sessionLabels := .empty

theorem unnamedSession_labelMissing : Bare [(5, xrObjectTypeSession)] aboutSession ∧
    (unnamedSession.wrapCallbackData aboutSession).sessionLabels.carried = [] ∧
    (unnamedSession.populateNamesAndLabels [⟨5, xrObjectTypeSession, []⟩]).labels = [⟨['a']⟩] ∧
    ¬ unnamedSession.WrapsAsPopulated [(5, xrObjectTypeSession)] := by
  have hbare : Bare [(5, xrObjectTypeSession)] aboutSession := ⟨rfl, rfl⟩
  refine ⟨hbare, by decide, by decide, fun h => ?_⟩
  have hlabels := (h aboutSession hbare).2
  revert hlabels
  decide

/-! ## What is exported beside what was given -/

/-- The message and its objects are the same, names that are stored replace the caller's, and the
labels of the sessions among the objects, if there are any, replace the caller's. -/
structure OnlyAdds (data : DebugUtilsData) (callbackData : XrDebugUtilsMessengerCallbackDataEXT) :
    Prop where
  messageId : (data.wrapCallbackData callbackData).messageId = callbackData.messageId
  functionName : (data.wrapCallbackData callbackData).functionName = callbackData.functionName
  message : (data.wrapCallbackData callbackData).message = callbackData.message
  count : (data.wrapCallbackData callbackData).objects.count = callbackData.objects.count
  objects : (data.wrapCallbackData callbackData).objects.carried =
    callbackData.objects.carried.map data.named
  labels : (data.wrapCallbackData callbackData).sessionLabels.carried =
    if data.labelsOf callbackData.identities = [] then callbackData.sessionLabels.carried
    else data.labelsOf callbackData.identities

/-- What `WrapCallbackData` never changes. -/
theorem message_wrapCallbackData (data : DebugUtilsData)
    (callbackData : XrDebugUtilsMessengerCallbackDataEXT) :
    (data.wrapCallbackData callbackData).messageId = callbackData.messageId ∧
      (data.wrapCallbackData callbackData).functionName = callbackData.functionName ∧
      (data.wrapCallbackData callbackData).message = callbackData.message := by
  rcases data.wrapCallbackData_cases callbackData with ⟨-, -, hsame⟩ | ⟨-, -, hcopy⟩
  · rw [hsame]
    exact ⟨rfl, rfl, rfl⟩
  · rw [hcopy]
    exact ⟨rfl, rfl, rfl⟩

theorem onlyAdds_iff_labels {data : DebugUtilsData}
    {callbackData : XrDebugUtilsMessengerCallbackDataEXT} : data.OnlyAdds callbackData ↔
      (data.wrapCallbackData callbackData).sessionLabels.carried =
        if data.labelsOf callbackData.identities = [] then callbackData.sessionLabels.carried
        else data.labelsOf callbackData.identities := by
  obtain ⟨hid, hfunction, hmessage⟩ := message_wrapCallbackData data callbackData
  obtain ⟨hcount, hobjects⟩ := @objects_wrapCallbackData data callbackData
  exact ⟨OnlyAdds.labels, fun hlabels => ⟨hid, hfunction, hmessage, hcount, hobjects, hlabels⟩⟩

/-- Where no session label is stored for the objects, a stored name costs the caller's labels;
where some are, the store must have a name for them to be looked at, and their number must fit
the count. -/
theorem onlyAdds_iff (data : DebugUtilsData) (callbackData : XrDebugUtilsMessengerCallbackDataEXT) :
    data.OnlyAdds callbackData ↔
      (data.labelCount callbackData.identities = 0 → data.Names callbackData.identities →
        callbackData.sessionLabels.carried = []) ∧
      (data.labelCount callbackData.identities ≠ 0 →
        if data.objectInfo = [] then
          callbackData.sessionLabels.carried = data.labelsOf callbackData.identities
        else data.labelCount callbackData.identities < 2 ^ 32) := by
  rw [onlyAdds_iff_labels, ← length_labelsOf, ne_eq, List.length_eq_zero_iff]
  rcases data.wrapCallbackData_cases callbackData with
    ⟨hnames, hnone, hsame⟩ | ⟨hstored, hfound, hcopy⟩
  · rw [hsame]
    by_cases hlabels : data.labelsOf callbackData.identities = []
    · simp [hlabels, hnames]
    · simp [hlabels, hnone.resolve_right hlabels]
  · rw [hcopy]
    by_cases hlabels : data.labelsOf callbackData.identities = []
    · have hempty : (CountedArray.ofList 32 (data.labelsOf callbackData.identities)).carried = [] := by
        rw [hlabels]
        rfl
      have hnames := hfound.resolve_right fun hne => hne hlabels
      rw [hempty, if_pos hlabels]
      simp only [hlabels, hnames, true_implies, not_true_eq_false, false_implies, and_true]
      exact eq_comm
    · rw [if_neg hlabels]
      simp only [hlabels, hstored, if_false, false_implies, true_and, not_false_eq_true, true_implies]
      exact CountedArray.carried_ofList

def namedObject : DebugUtilsData := new.addObjectName 9 1 ['n']

def labelledByCaller : XrDebugUtilsMessengerCallbackDataEXT where
  messageId := []
  functionName := []
  message := []
  objects := ⟨1, [⟨1, 9, []⟩]⟩
  sessionLabels := ⟨1, [⟨['a']⟩]⟩

theorem callerLabel_dropped : namedObject.labelsOf labelledByCaller.identities = [] ∧
    labelledByCaller.sessionLabels.carried = [⟨['a']⟩] ∧
    (namedObject.wrapCallbackData labelledByCaller).sessionLabels.carried = [] ∧
    ¬ namedObject.OnlyAdds labelledByCaller := by
  refine ⟨by decide, by decide, by decide, fun h => ?_⟩
  have hlabels := h.labels
  revert hlabels
  decide

end DebugUtilsData
end OpenXRSdk
