import OpenXRSdk.StateProgram
import OpenXRSdk.HandleLedger
import OpenXRSdk.LoaderInitData
import OpenXRSdk.LoaderLogger
import OpenXRSdk.ManifestFile

/-!
# The global state of the loader and the code around it

The singletons of the loader are one state, and code outside the loader is a table of
answers. Every question that is put to that code is numbered, and an answer may depend on
the number: the same question may be answered differently the next time.
-/
namespace OpenXRSdk

open StateProgram

abbrev DispatchTable := Command → Pfn

/-- The `RuntimeInterface` singleton; its library is known by the number of its opening. -/
structure RuntimeInterface where
  runtimeLibrary : ℕ
  getInstanceProcAddr : ℕ
  dispatchTableMap : UnorderedMap XrInstance DispatchTable
  messengerToInstanceMap : UnorderedMap XrDebugUtilsMessengerEXT XrInstance
  supportedExtensions : List StdString

structure ApiLayerInterface where
  layerName : StdString
  layerLibrary : ℕ
  supportedExtensions : List StdString
  getInstanceProcAddr : Pfn
  createApiLayerInstance : Pfn

/-- `_topmost_gipa` is a layer's function, or the loader's terminator. -/
structure LoaderInstance where
  runtimeInstance : XrInstance
  topmostGipa : Pfn
  apiLayerInterfaces : List ApiLayerInterface
  dispatchTable : DispatchTable
  enabledExtensions : List StdString
  messenger : XrDebugUtilsMessengerEXT

structure World where
  clock : ℕ
  libraries : HandleLedger
  overrides : UnorderedMap StdString StdString
  initData : LoaderInitData
  runtime : Option RuntimeInterface
  activeInstance : Option LoaderInstance
  logger : LoaderLogger

/-- The loader as it is before the first call, for the recorders its logger starts with. -/
def World.initial (logger : LoaderLogger) : World where
  clock := 0
  libraries := HandleLedger.empty
  overrides := ∅
  initData := LoaderInitData.new
  runtime := none
  activeInstance := none
  logger := logger

/-! ## Calls that leave the loader -/

/-- A call of a command for which the loader has a terminator. -/
inductive TermCall
  | createInstance (info : XrInstanceCreateInfo)
  | destroyInstance (inst : XrInstance)
  /-- `messenger` is whether the pointer for the new handle is not null. -/
  | createDebugUtilsMessengerEXT (inst : XrInstance) (info : XrDebugUtilsMessengerCreateInfoEXT)
      (messenger : Bool)
  | destroyDebugUtilsMessengerEXT (messenger : XrDebugUtilsMessengerEXT)
  | submitDebugUtilsMessageEXT (inst : XrInstance) (messageSeverity messageTypes : UInt64)
  | setDebugUtilsObjectNameEXT (inst : XrInstance) (info : XrDebugUtilsObjectNameInfoEXT)
  deriving DecidableEq

def TermCall.command : TermCall → Command
  | createInstance _ => .createInstance
  | destroyInstance _ => .destroyInstance
  | createDebugUtilsMessengerEXT _ _ _ => .createDebugUtilsMessengerEXT
  | destroyDebugUtilsMessengerEXT _ => .destroyDebugUtilsMessengerEXT
  | submitDebugUtilsMessageEXT _ _ _ => .submitDebugUtilsMessageEXT
  | setDebugUtilsObjectNameEXT _ _ => .setDebugUtilsObjectNameEXT

inductive DownCall
  | destroySession (session : XrSession)
  | beginDebugUtilsLabelRegionEXT (session : XrSession) (labelInfo : XrDebugUtilsLabelEXT)
  | endDebugUtilsLabelRegionEXT (session : XrSession)
  | insertDebugUtilsLabelEXT (session : XrSession) (labelInfo : XrDebugUtilsLabelEXT)
  | other (number : ℕ)
  deriving DecidableEq

def DownCall.command : DownCall → Command
  | destroySession _ => .destroySession
  | beginDebugUtilsLabelRegionEXT _ _ => .sessionBeginDebugUtilsLabelRegionEXT
  | endDebugUtilsLabelRegionEXT _ => .sessionEndDebugUtilsLabelRegionEXT
  | insertDebugUtilsLabelEXT _ _ => .sessionInsertDebugUtilsLabelEXT
  | other number => .other number

/-- The result of a call, and the handle that it wrote, if it wrote one. -/
structure Reply where
  result : XrResult
  handle : Option ℕ
  deriving DecidableEq, Repr

/-- The result of `xrGetInstanceProcAddr`, and the pointer that it wrote, if it wrote one. -/
structure GipaReply where
  result : XrResult
  function : Option Pfn
  deriving DecidableEq, Repr

structure XrApiLayerNextInfo where
  layerName : StdString
  nextGetInstanceProcAddr : Pfn
  nextCreateApiLayerInstance : Pfn
  deriving DecidableEq, Repr

structure XrNegotiateRuntimeRequest where
  runtimeInterfaceVersion : ℕ
  runtimeApiVersion : ℕ
  getInstanceProcAddr : Option ℕ

structure XrNegotiateApiLayerRequest where
  layerInterfaceVersion : ℕ
  layerApiVersion : ℕ
  getInstanceProcAddr : Pfn
  createApiLayerInstance : Pfn

/-- A library that has been opened, by the names that it exports, and what the
`xrGetInstanceProcAddr` that it negotiated answers for xrInitializeLoaderKHR. -/
structure Library (Request : Type) where
  exportedInitializeLoader : (symbol : StdString) → Option (XrLoaderInitInfoAndroidKHR → XrResult)
  negotiate : (symbol : StdString) → Option (XrResult × Request)
  queriedInitializeLoader : XrResult × Option (XrLoaderInitInfoAndroidKHR → XrResult)

/-- How a runtime answers the two calls of xrEnumerateInstanceExtensionProperties; the
results are not looked at. -/
structure ExtensionQuery where
  function : GipaReply
  count : XrResult × Option ℕ
  fill : (capacity : ℕ) → XrResult × Option ℕ × List XrExtensionProperties

/-- Everything around the loader. The first argument of an answer is its number. -/
structure Environment where
  requiresPlatformInit : Bool
  pathSeparator : Char
  platform : PlatformUtils
  android : ℕ → AndroidAnswers
  findLayerManifests : ℕ → ManifestFileType → Except Fault (XrResult × List ApiLayerManifestFile)
  findRuntimeManifests : ℕ → Except Fault (XrResult × List RuntimeManifestFile)
  openRuntime : ℕ → StdString → Option (Library XrNegotiateRuntimeRequest)
  openLayer : ℕ → StdString → Option (Library XrNegotiateApiLayerRequest)
  queryExtensions : ℕ → (getInstanceProcAddr : ℕ) → ExtensionQuery
  getInstanceProcAddr : ℕ → (getInstanceProcAddr : ℕ) → XrInstance → Command → GipaReply
  callRuntime : ℕ → (function : ℕ) → TermCall → Reply
  callLayer : ℕ → (function : ℕ) → TermCall → CallTree TermCall Reply Reply
  callDown : ℕ → (function : ℕ) → DownCall → CallTree TermCall Reply XrResult
  createApiLayerInstance : ℕ → (function : ℕ) → XrInstanceCreateInfo → List XrApiLayerNextInfo →
    CallTree TermCall Reply Reply
  allocateChar : ℕ → ℕ

/-- Surroundings in which there is nothing to find and nothing answers. -/
def Environment.bare : Environment where
  requiresPlatformInit := false
  pathSeparator := ':'
  platform := ⟨fun _ => [], fun _ => [], fun _ => false⟩
  android _ := ⟨some 0, some []⟩
  findLayerManifests _ _ := .ok (xrSuccess, [])
  findRuntimeManifests _ := .ok (xrErrorRuntimeUnavailable, [])
  openRuntime _ _ := none
  openLayer _ _ := none
  queryExtensions _ _ := ⟨⟨xrErrorFunctionUnsupported, none⟩, ⟨xrSuccess, none⟩, fun _ => ⟨xrSuccess, none, []⟩⟩
  getInstanceProcAddr _ _ _ _ := ⟨xrErrorFunctionUnsupported, none⟩
  callRuntime _ _ _ := ⟨xrErrorFunctionUnsupported, none⟩
  callLayer _ _ call := .forward call
  callDown _ _ _ := .done xrSuccess
  createApiLayerInstance _ _ info _ := .forward (.createInstance info)
  allocateChar t := t + 1

abbrev Loader (α : Type) := EStateM Fault World α

def World.tick (w : World) : World := { w with clock := w.clock + 1 }

/-- Put the next question to the code around the loader. -/
def ask {α : Type} (answer : ℕ → α) : Loader α := do
  let w ← get
  modify World.tick
  return answer w.clock

def undefinedBehaviour {α : Type} : Loader α := throw .undefinedBehaviour

/-- `XRLOADER_ABI_TRY` and `XRLOADER_ABI_CATCH_FALLBACK`. -/
def abiTry {α : Type} (caught : α) (x : Loader α) : Loader α := fun w =>
  match x w with
  | .error .exception w' => .ok caught w'
  | r => r

/-- `LoaderPlatformLibraryOpen`, once it is known to succeed: the number of the opening. -/
def openLibrary : Loader ℕ := do
  let w ← get
  modify fun w => { w with libraries := w.libraries.opening }
  return w.libraries.fresh

def closeLibrary (handle : ℕ) : Loader PUnit :=
  modify fun w => { w with libraries := w.libraries.closing handle }

section Steps
variable {α : Type} {answer : ℕ → α} {a : α} {w w' : World}

theorem ask_eq_ok : ask answer w = .ok a w' ↔ a = answer w.clock ∧ w' = w.tick := by
  change EStateM.Result.ok (answer w.clock) w.tick = .ok a w' ↔ _
  simp [eq_comm]

theorem ask_run : ask answer w = .ok (answer w.clock) w.tick := rfl

theorem undefinedBehaviour_eq_ok : (undefinedBehaviour : Loader α) w = .ok a w' ↔ False := throw_eq_ok

theorem openLibrary_run : openLibrary w =
    .ok w.libraries.fresh { w with libraries := w.libraries.opening } := rfl

theorem get_run : (get : Loader World) w = .ok w w := rfl

theorem abiTry_eq_ok {caught : α} {x : Loader α} : abiTry caught x w = .ok a w' ↔
    x w = .ok a w' ∨ (x w = .error .exception w' ∧ a = caught) := by
  unfold abiTry
  cases h : x w with
  | ok b t => simp
  | error e t => cases e <;> simp [eq_comm, and_comm]

abbrev isUndefined (fault : Fault) : Prop := fault = .undefinedBehaviour

theorem undefinedBehaviour_within {r : World → World → Prop} [IsPreorder World r] :
    Within r isUndefined (undefinedBehaviour : Loader α) := Within.throw rfl

def World.Later (w w' : World) : Prop := ∃ c, w' = { w with clock := c }

instance : IsPreorder World World.Later where
  refl w := ⟨w.clock, rfl⟩
  trans := by
    rintro _ _ _ ⟨c, rfl⟩ ⟨d, rfl⟩
    exact ⟨d, rfl⟩

theorem ask_later {E : Fault → Prop} (answer : ℕ → α) : Within World.Later E (ask answer) :=
  fun w => ⟨w.clock + 1, rfl⟩

theorem within_ask {r : World → World → Prop} {E : Fault → Prop} (htick : ∀ w : World, r w w.tick)
    (answer : ℕ → α) : Within r E (ask answer) := fun w => htick w

/-- Foreign code that is asked for is run with the functions it was handed. -/
theorem askTree_within {A R B : Type} {p : A → Prop} {r : World → World → Prop} [IsPreorder World r]
    {E : Fault → Prop} {answer : ℕ → CallTree A R B} {next : A → Loader R}
    (htick : ∀ w : World, r w w.tick) (hanswer : ∀ t, (answer t).Calls p)
    (hnext : ∀ a, p a → Within r E (next a)) :
    Within r E (ask answer >>= fun tree => tree.run next) := fun w =>
  (CallTree.run_within hnext _ (hanswer w.clock)).triple w w.tick (htick w)

end Steps

end OpenXRSdk
