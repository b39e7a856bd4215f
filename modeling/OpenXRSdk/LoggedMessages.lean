import OpenXRSdk.BitFlags
import OpenXRSdk.CallbackData
import OpenXRSdk.LoaderLogger

/-!
# Messages of the loader

How a message of the loader reaches the recorders and, through those of messengers, the callbacks
of the application; and how many objects and labels it can carry there.
-/
namespace OpenXRSdk

open BitFlags

/-- `XrLoaderLogMessengerCallbackData`, whose counts are bytes. -/
structure XrLoaderLogMessengerCallbackData where
  messageId : StdString
  commandName : StdString
  message : StdString
  objects : CountedArray XrSdkLogObjectInfo
  sessionLabels : CountedArray XrDebugUtilsLabelEXT
  deriving DecidableEq, Repr

structure UserCall where
  messenger : XrDebugUtilsMessengerEXT
  messageSeverity : UInt64
  messageTypes : UInt64
  callbackData : XrDebugUtilsMessengerCallbackDataEXT
  deriving DecidableEq, Repr

def loaderLogMessageTypesToDebugUtilsMessageTypes : UInt64 → UInt64 :=
  knownBits [typeGeneral, typeSpecification, typePerformance]

namespace LoaderLogRecorder

/-- The data that `DebugUtilsLogRecorder::LogMessage` makes of the loader's: it copies the objects
one by one and takes the labels as they are. -/
def utilsCallbackData (callbackData : XrLoaderLogMessengerCallbackData) :
    XrDebugUtilsMessengerCallbackDataEXT where
  messageId := callbackData.messageId
  functionName := callbackData.commandName
  message := callbackData.message
  objects := ⟨callbackData.objects.count, populateObjectNameInfo callbackData.objects.carried⟩
  sessionLabels := callbackData.sessionLabels

/-- `DebugUtilsLogRecorder::LogMessage`; a recorder is active from its construction on. -/
def debugUtilsLogMessage (recorder : LoaderLogRecorder) (messageSeverity messageType : UInt64)
    (callbackData : XrLoaderLogMessengerCallbackData) : Option UserCall :=
  if recorder.messageSeverities &&& messageSeverity ≠ 0 ∧
      recorder.messageTypes &&& messageType ≠ 0 then
    some ⟨recorder.uniqueId, debugUtilsSeveritiesToLoaderLogMessageSeverities messageSeverity,
      loaderLogMessageTypesToDebugUtilsMessageTypes messageType, utilsCallbackData callbackData⟩
  else none

/-- `LogMessage`: whether the application is to exit, which only a callback can ask for. -/
def logMessage (userCallback : UserCall → Bool) (messageSeverity messageType : UInt64)
    (callbackData : XrLoaderLogMessengerCallbackData) (recorder : LoaderLogRecorder) : Bool :=
  match recorder.type with
  | .debugUtils =>
    (recorder.debugUtilsLogMessage messageSeverity messageType callbackData).any userCallback
  | _ => false

end LoaderLogRecorder

namespace LoaderLogger

def callbackData (logger : LoaderLogger) (messageId commandName message : StdString)
    (objects : List XrSdkLogObjectInfo) : XrLoaderLogMessengerCallbackData :=
  let namesAndLabels := logger.data.populateNamesAndLabels objects
  { messageId := messageId
    commandName := commandName
    message := message
    objects := ⟨namesAndLabels.objects.length % 2 ^ 8, namesAndLabels.sdkObjects⟩
    sessionLabels := CountedArray.ofList 8 namesAndLabels.labels }

/-- `LogMessage`: whether the application is to exit, and what each recorder is given. -/
def logMessage (logger : LoaderLogger) (userCallback : UserCall → Bool)
    (messageSeverity messageType : UInt64) (messageId commandName message : StdString)
    (objects : List XrSdkLogObjectInfo) :
    Bool × List (LoaderLogRecorder × XrLoaderLogMessengerCallbackData) :=
  let callbackData := logger.callbackData messageId commandName message objects
  let called := logger.recorders.filter fun recorder =>
    Contains recorder.messageSeverities messageSeverity ∧
      Contains recorder.messageTypes messageType
  (called.any (·.logMessage userCallback messageSeverity messageType callbackData),
    called.map (·, callbackData))

end LoaderLogger

/-! ## What a message carries -/

namespace NamesAndLabels

/-- Counted arrays that carry all of the objects and all of the labels. -/
structure CarriedBy {α : Type} (namesAndLabels : NamesAndLabels) (all : List α)
    (objects : CountedArray α) (labels : CountedArray XrDebugUtilsLabelEXT) : Prop where
  objectCount : objects.count = all.length
  objects : objects.carried = all
  labelCount : labels.count = namesAndLabels.labels.length
  labels : labels.carried = namesAndLabels.labels

end NamesAndLabels

namespace DebugUtilsData

variable {data : DebugUtilsData} {objects : List XrSdkLogObjectInfo}

/-- The objects and labels that are populated for a message all come to every recorder that is
given the message, and on to the callback of every messenger. -/
def LosesNothing (data : DebugUtilsData) (objects : List XrSdkLogObjectInfo) : Prop :=
  ∀ (logger : LoaderLogger) userCallback severity type messageId commandName message,
    logger.data = data →
    ∀ given ∈ (logger.logMessage userCallback severity type messageId commandName message objects).2,
      (data.populateNamesAndLabels objects).CarriedBy
          (data.populateNamesAndLabels objects).sdkObjects given.2.objects given.2.sessionLabels ∧
        ∀ call ∈ given.1.debugUtilsLogMessage severity type given.2,
          (data.populateNamesAndLabels objects).CarriedBy
            (data.populateNamesAndLabels objects).objects call.callbackData.objects
            call.callbackData.sessionLabels

theorem objects_populate (data : DebugUtilsData) (objects : List XrSdkLogObjectInfo) :
    (data.populateNamesAndLabels objects).objects =
      populateObjectNameInfo (data.populateNamesAndLabels objects).sdkObjects := by
  rw [populateNamesAndLabels_eq]
  rfl

theorem length_sdkObjects_populate (data : DebugUtilsData) (objects : List XrSdkLogObjectInfo) :
    (data.populateNamesAndLabels objects).sdkObjects.length = objects.length := by
  rw [populateNamesAndLabels_eq]
  exact List.length_map _

theorem length_labels_populate (data : DebugUtilsData) (objects : List XrSdkLogObjectInfo) :
    (data.populateNamesAndLabels objects).labels.length =
      data.labelCount (objects.map (·.identity)) := by
  rw [populateNamesAndLabels_eq, ← length_labelsOf]
  rfl

/-- The objects of a message, counted in a byte. -/
theorem objects_callbackData (logger : LoaderLogger) (messageId commandName message : StdString)
    (objects : List XrSdkLogObjectInfo) :
    (logger.callbackData messageId commandName message objects).objects =
      CountedArray.ofList 8 (logger.data.populateNamesAndLabels objects).sdkObjects := by
  simp [LoaderLogger.callbackData, CountedArray.ofList, objects_populate, populateObjectNameInfo]

/-- Both counts must fit a byte. -/
theorem carriedBy_callbackData_iff (logger : LoaderLogger)
    (messageId commandName message : StdString) (objects : List XrSdkLogObjectInfo) :
    (logger.data.populateNamesAndLabels objects).CarriedBy
        (logger.data.populateNamesAndLabels objects).sdkObjects
        (logger.callbackData messageId commandName message objects).objects
        (logger.callbackData messageId commandName message objects).sessionLabels ↔
      objects.length < 2 ^ 8 ∧ logger.data.labelCount (objects.map (·.identity)) < 2 ^ 8 := by
  rw [objects_callbackData, ← length_sdkObjects_populate logger.data, ← length_labels_populate]
  constructor
  · intro h
    exact ⟨CountedArray.count_ofList.mp h.objectCount, CountedArray.count_ofList.mp h.labelCount⟩
  · intro ⟨hobjects, hlabels⟩
    exact ⟨CountedArray.count_ofList.mpr hobjects, CountedArray.carried_ofList.mpr hobjects,
      CountedArray.count_ofList.mpr hlabels, CountedArray.carried_ofList.mpr hlabels⟩

/-- A recorder of a messenger passes on what it is given. -/
theorem carriedBy_utilsCallbackData {given : XrLoaderLogMessengerCallbackData}
    (h : (data.populateNamesAndLabels objects).CarriedBy
      (data.populateNamesAndLabels objects).sdkObjects given.objects given.sessionLabels) :
    (data.populateNamesAndLabels objects).CarriedBy (data.populateNamesAndLabels objects).objects
      (LoaderLogRecorder.utilsCallbackData given).objects
      (LoaderLogRecorder.utilsCallbackData given).sessionLabels where
  objectCount := by
    rw [objects_populate]
    exact h.objectCount.trans (List.length_map _).symm
  objects := by
    rw [objects_populate, ← h.objects]
    exact CountedArray.carried_mk_carried _ _
  labelCount := h.labelCount
  labels := h.labels

def errorLogger (data : DebugUtilsData) : LoaderLogger := ⟨[makeStdErrLoaderLogRecorder], ∅, data⟩

theorem logMessage_errorLogger (data : DebugUtilsData) (userCallback : UserCall → Bool)
    (objects : List XrSdkLogObjectInfo) :
    ((errorLogger data).logMessage userCallback severityError typeGeneral [] [] [] objects).2 =
      [(makeStdErrLoaderLogRecorder, (errorLogger data).callbackData [] [] [] objects)] := rfl

/-- If nothing is lost, the recorder of errors is given everything. -/
theorem LosesNothing.carriedBy (h : data.LosesNothing objects) :
    (data.populateNamesAndLabels objects).CarriedBy
      (data.populateNamesAndLabels objects).sdkObjects
      ((errorLogger data).callbackData [] [] [] objects).objects
      ((errorLogger data).callbackData [] [] [] objects).sessionLabels := by
  have hgiven := h (errorLogger data) (fun _ => false) severityError typeGeneral
    [] [] [] rfl _ (by rw [logMessage_errorLogger]; exact List.mem_singleton_self _)
  exact hgiven.1

/-- Objects and labels are counted in bytes. -/
theorem losesNothing_iff (data : DebugUtilsData) (objects : List XrSdkLogObjectInfo) :
    data.LosesNothing objects ↔
      objects.length < 2 ^ 8 ∧ data.labelCount (objects.map (·.identity)) < 2 ^ 8 := by
  constructor
  · intro h
    exact (carriedBy_callbackData_iff (errorLogger data) [] [] [] objects).mp h.carriedBy
  · rintro h logger userCallback severity type messageId commandName message rfl given hgiven
    obtain ⟨recorder, -, rfl⟩ := List.mem_map.mp hgiven
    have hcarried :=
      (carriedBy_callbackData_iff logger messageId commandName message objects).mpr h
    refine ⟨hcarried, fun call hcall => ?_⟩
    unfold LoaderLogRecorder.debugUtilsLogMessage at hcall
    split_ifs at hcall
    · cases hcall
      exact carriedBy_utilsCallbackData hcarried
    · cases hcall

def nestedRegions : DebugUtilsData :=
  (List.replicate 256 ⟨['a']⟩).foldl (fun data label => data.beginLabelRegion 5 label) new

theorem nestedRegions_lost :
    (nestedRegions.populateNamesAndLabels [⟨5, xrObjectTypeSession, []⟩]).labels.length = 256 ∧
    ((errorLogger nestedRegions).logMessage (fun _ => false) severityError typeGeneral [] [] []
      [⟨5, xrObjectTypeSession, []⟩]).2.map (·.2.sessionLabels.count) = [0] ∧
    ¬ nestedRegions.LosesNothing [⟨5, xrObjectTypeSession, []⟩] := by
  have hlength : (nestedRegions.populateNamesAndLabels
      [⟨5, xrObjectTypeSession, []⟩]).labels.length = 256 := by
    decide +kernel
  have hcount : ((errorLogger nestedRegions).callbackData [] [] []
      [⟨5, xrObjectTypeSession, []⟩]).sessionLabels.count = 0 := by
    decide +kernel
  refine ⟨hlength, ?_, fun h => ?_⟩
  · rw [logMessage_errorLogger, List.map_singleton, hcount]
  · have hcarried := h.carriedBy.labelCount
    rw [hcount, hlength] at hcarried
    cases hcarried

end DebugUtilsData
end OpenXRSdk
