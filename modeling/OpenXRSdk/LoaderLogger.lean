import OpenXRSdk.ObjectInfo

/-!
# The logger

The recorders of log messages. Those of debug-utils messengers are listed a second time
below the instance they were created for; the others have the unique id 0.
-/
namespace OpenXRSdk

inductive XrLoaderLogType
  | unknown
  | stderr
  | stdout
  | debugUtils
  | debugger
  | logcat
  deriving DecidableEq, Repr

/-! The severity bits have the same values in both encodings, as have the types. -/

def severityVerbose : UInt64 := 0x1
def severityInfo : UInt64 := 0x10
def severityWarning : UInt64 := 0x100
def severityError : UInt64 := 0x1000

def typeGeneral : UInt64 := 0x1
def typeSpecification : UInt64 := 0x2
def typePerformance : UInt64 := 0x4
def typeDefaultBits : UInt64 := 0xffffffff

def knownBits (bits : List UInt64) (flags : UInt64) : UInt64 :=
  bits.foldl (fun known bit => if flags &&& bit ≠ 0 then known ||| bit else known) 0

def debugUtilsSeveritiesToLoaderLogMessageSeverities : UInt64 → UInt64 :=
  knownBits [severityVerbose, severityInfo, severityWarning, severityError]

def debugUtilsMessageTypesToLoaderLogMessageTypes : UInt64 → UInt64 :=
  knownBits [typeGeneral, typeSpecification, typePerformance]

structure LoaderLogRecorder where
  type : XrLoaderLogType
  uniqueId : ℕ
  messageSeverities : UInt64
  messageTypes : UInt64
  deriving DecidableEq, Repr

/-- An `OstreamLoaderLogRecorder`, for `std::cerr` as for `std::cout`. -/
def ostreamLoaderLogRecorder (severities : UInt64) : LoaderLogRecorder :=
  ⟨.stdout, 0, severities, typeDefaultBits⟩

def makeStdErrLoaderLogRecorder : LoaderLogRecorder := ostreamLoaderLogRecorder severityError

def makeStdOutLoaderLogRecorder (severities : UInt64) : LoaderLogRecorder :=
  ostreamLoaderLogRecorder severities

def makeLogcatLoaderLogRecorder : LoaderLogRecorder :=
  ⟨.logcat, 0, severityVerbose ||| severityInfo ||| severityWarning ||| severityError,
    typeDefaultBits⟩

def makeDebuggerLoaderLogRecorder : LoaderLogRecorder :=
  ⟨.debugger, 0, severityError, typeDefaultBits⟩

def makeDebugUtilsLoaderLogRecorder (createInfo : XrDebugUtilsMessengerCreateInfoEXT)
    (messenger : XrDebugUtilsMessengerEXT) : LoaderLogRecorder :=
  ⟨.debugUtils, messenger,
    debugUtilsSeveritiesToLoaderLogMessageSeverities createInfo.messageSeverities,
    debugUtilsMessageTypesToLoaderLogMessageTypes createInfo.messageTypes⟩

structure LoaderLogger where
  recorders : List LoaderLogRecorder
  recordersByInstance : UnorderedMap XrInstance (Finset ℕ)
  data : DebugUtilsData

namespace LoaderLogger

/-- The severities that a value of `XR_LOADER_DEBUG` sends to `std::cout`. -/
def debugFlags (debugString : StdString) : UInt64 :=
  if debugString = "error".toList then severityError
  else if debugString = "warn".toList then severityError ||| severityWarning
  else if debugString = "info".toList then severityError ||| severityWarning ||| severityInfo
  else if debugString = "all".toList ∨ debugString = "verbose".toList then
    severityError ||| severityWarning ||| severityInfo ||| severityVerbose
  else 0

def defaultRecorders (android windows : Bool) (debugString : StdString) : List LoaderLogRecorder :=
  (if debugString ≠ "none".toList then
    makeStdErrLoaderLogRecorder :: (if android then [makeLogcatLoaderLogRecorder] else [])
  else []) ++
  (if windows then [makeDebuggerLoaderLogRecorder] else []) ++
  (if debugString.isEmpty then [] else [makeStdOutLoaderLogRecorder (debugFlags debugString)])

def new (android windows : Bool) (debugString : StdString) : LoaderLogger :=
  ⟨defaultRecorders android windows debugString, ∅, DebugUtilsData.new⟩

def instanceRecorders (logger : LoaderLogger) (inst : XrInstance) : Finset ℕ :=
  (logger.recordersByInstance.lookup inst).getD ∅

def addLogRecorderForXrInstance (inst : XrInstance) (recorder : LoaderLogRecorder)
    (logger : LoaderLogger) : LoaderLogger :=
  { logger with
    recorders := logger.recorders ++ [recorder]
    recordersByInstance := logger.recordersByInstance.insert inst
      (insert recorder.uniqueId (logger.instanceRecorders inst)) }

def removeLogRecorder (uniqueId : ℕ) (logger : LoaderLogger) : LoaderLogger :=
  { logger with
    recorders := logger.recorders.filter (·.uniqueId ≠ uniqueId)
    recordersByInstance := UnorderedMap.mapValues (·.erase uniqueId) logger.recordersByInstance }

def removeLogRecordersForXrInstance (inst : XrInstance) (logger : LoaderLogger) : LoaderLogger :=
  match logger.recordersByInstance.lookup inst with
  | none => logger
  | some ids =>
    { logger with
      recorders := logger.recorders.filter (·.uniqueId ∉ ids)
      recordersByInstance := logger.recordersByInstance.erase inst }

/-! ## What the operations do to the recorders -/

theorem uniqueId_of_mem_defaultRecorders {android windows : Bool} {debugString : StdString}
    {r : LoaderLogRecorder} (h : r ∈ defaultRecorders android windows debugString) :
    r.uniqueId = 0 := by
  unfold defaultRecorders at h
  simp only [List.mem_append] at h
  rcases h with (h | h) | h <;> split_ifs at h <;>
    simp only [List.mem_cons, List.not_mem_nil, or_false] at h
  · rcases h with rfl | rfl <;> rfl
  · subst h; rfl
  · subst h; rfl
  · subst h; rfl

theorem instanceRecorders_addLogRecorder (logger : LoaderLogger) (inst i : XrInstance)
    (recorder : LoaderLogRecorder) :
    (logger.addLogRecorderForXrInstance inst recorder).instanceRecorders i =
      if i = inst then insert recorder.uniqueId (logger.instanceRecorders inst)
      else logger.instanceRecorders i := by
  unfold addLogRecorderForXrInstance
  split_ifs with h
  · subst h
    simp [instanceRecorders]
  · simp [instanceRecorders, AList.lookup_insert_ne h]

theorem instanceRecorders_removeLogRecorder (logger : LoaderLogger) (uniqueId : ℕ) (i : XrInstance) :
    (logger.removeLogRecorder uniqueId).instanceRecorders i =
      (logger.instanceRecorders i).erase uniqueId := by
  unfold removeLogRecorder instanceRecorders
  rw [UnorderedMap.lookup_mapValues]
  cases logger.recordersByInstance.lookup i <;> simp

theorem recorders_removeForInstance (logger : LoaderLogger) (inst : XrInstance) :
    (logger.removeLogRecordersForXrInstance inst).recorders =
      logger.recorders.filter (·.uniqueId ∉ logger.instanceRecorders inst) := by
  unfold removeLogRecordersForXrInstance instanceRecorders
  cases logger.recordersByInstance.lookup inst <;> simp

theorem instanceRecorders_removeForInstance (logger : LoaderLogger) (inst i : XrInstance) :
    (logger.removeLogRecordersForXrInstance inst).instanceRecorders i =
      if i = inst then ∅ else logger.instanceRecorders i := by
  unfold removeLogRecordersForXrInstance instanceRecorders
  cases h : logger.recordersByInstance.lookup inst with
  | none =>
    split_ifs with hi
    · subst hi
      simp [h]
    · rfl
  | some ids =>
    split_ifs with hi
    · subst hi
      simp
    · simp [AList.lookup_erase_ne hi]

@[simp] theorem data_removeForInstance (logger : LoaderLogger) (inst : XrInstance) :
    (logger.removeLogRecordersForXrInstance inst).data = logger.data := by
  unfold removeLogRecordersForXrInstance
  cases logger.recordersByInstance.lookup inst <;> rfl

end LoaderLogger
end OpenXRSdk
