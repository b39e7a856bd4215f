import OpenXRSdk.LibraryBalance
import OpenXRSdk.RelyGuarantee

/-!
# Calls from several threads

The calls that load or unload the runtime, cut into steps. Each of them does what the call does
when no other thread takes a step. All but xrInitializeLoaderKHR hold the global mutex from
before they look at the loader until they have done with it.
-/
namespace OpenXRSdk.Concurrency

open StateProgram World TransitionSystem RelyGuarantee

/-- The state of the loader, the owner of the global mutex, and for each thread whether a
LoadRuntime of its own has succeeded since it last took the mutex. -/
structure Shared (T : Type) where
  world : World
  owner : Option T
  loaded : T → Bool

inductive Action
  | lock
  | unlock
  | load
  /-- The runtime is needed: its interface is dereferenced, or a function of it is called. -/
  | use
  | unload
  | other
  deriving DecidableEq

abbrev Thread (T α : Type) := Program (Shared T) Fault Action α

section Steps
variable {T α : Type}

def onWorld (x : Loader α) : EStateM Fault (Shared T) α := fun s =>
  match x s.world with
  | .ok a w => .ok a { s with world := w }
  | .error e w => .error e { s with world := w }

def use (x : Loader α) : Thread T α := .atomic .use (onWorld x)

def other (x : Loader α) : Thread T α := .atomic .other (onWorld x)

def unload : Thread T PUnit := .atomic .unload (onWorld RuntimeInterface.unloadRuntime)

variable [DecidableEq T]

def load (t : T) (env : Environment) : Thread T XrResult := .atomic .load do
  let result ← onWorld (RuntimeInterface.loadRuntime env)
  modify fun s => { s with loaded := Function.update s.loaded t (decide (xrSucceeded result)) }
  return result

def lock (t : T) : Thread T PUnit :=
  .step .lock (fun s => s.owner.isNone)
    (modify fun s => { s with
      owner := some t
      loaded := Function.update s.loaded t false })
    .done .fail

def unlock : Thread T PUnit := .atomic .unlock (modify fun s => { s with owner := none })

def locked (t : T) (p : Thread T α) : Thread T α := do
  lock t
  .ensuring unlock p

/-- `XRLOADER_ABI_TRY` and `XRLOADER_ABI_CATCH_FALLBACK`. -/
def abiTry (caught : α) (p : Thread T α) : Thread T α :=
  p.catching fun
    | .exception => .done caught
    | .undefinedBehaviour => .fail .undefinedBehaviour

end Steps

/-! ## The terminators -/

section Terminators
variable {T : Type} (env : Environment)

def termCreateInstance (createInfo : XrInstanceCreateInfo) : Thread T Reply :=
  if xrFailed (validateInstanceCreateInfo createInfo) then
    return ⟨validateInstanceCreateInfo createInfo, none⟩
  else do
    let address ← use (RuntimeInterface.runtimeFunction env xrNullHandle .createInstance)
    let reply ← use (ask fun n => env.callRuntime n address (.createInstance createInfo))
    if xrSucceeded reply.result then
      use (RuntimeInterface.addDispatchTable env (reply.handle.getD xrNullHandle))
    return reply

def runtimeDestroyInstance (inst : XrInstance) : Thread T XrResult := do
  if inst ≠ xrNullHandle then
    use (RuntimeInterface.modifyRuntime fun rt =>
      { rt with dispatchTableMap := rt.dispatchTableMap.erase inst })
    let address ← use (RuntimeInterface.runtimeFunction env inst .destroyInstance)
    let _ ← use (ask fun n => env.callRuntime n address (.destroyInstance inst))
  return xrSuccess

def termDestroyInstance (inst : XrInstance) : Thread T Reply := do
  other (modifyLogger (·.removeLogRecordersForXrInstance inst))
  let _ ← use RuntimeInterface.getRuntime
  return ⟨← runtimeDestroyInstance env inst, none⟩

def termCreateDebugUtilsMessenger (inst : XrInstance) (createInfo : XrDebugUtilsMessengerCreateInfoEXT)
    (messenger : Bool) : Thread T Reply := do
  if !messenger then return ⟨xrErrorValidationFailure, none⟩
  let table ← use (RuntimeInterface.getDispatchTable inst)
  let table ← use (dispatchTableOf table)
  let reply ← use (runtimeMessenger env table inst createInfo)
  if xrSucceeded reply.result then
    match reply.handle with
    | none => other undefinedBehaviour
    | some handle =>
      other (modifyLogger (·.addLogRecorderForXrInstance inst
        (makeDebugUtilsLoaderLogRecorder createInfo handle)))
      use (RuntimeInterface.trackDebugMessenger inst handle)
  return reply

def termDestroyDebugUtilsMessenger (messenger : XrDebugUtilsMessengerEXT) : Thread T Reply := do
  let table ← use (RuntimeInterface.getDebugUtilsMessengerDispatchTable messenger)
  other (modifyLogger (·.removeLogRecorder messenger))
  use (RuntimeInterface.forgetDebugMessenger messenger)
  let table ← use (dispatchTableOf table)
  match table .destroyDebugUtilsMessengerEXT with
  | .null => return ⟨xrSuccess, none⟩
  | .foreign f =>
    let reply ← use (ask fun n => env.callRuntime n f (.destroyDebugUtilsMessengerEXT messenger))
    return ⟨reply.result, none⟩
  | _ => other undefinedBehaviour

def callRuntimeIfPresent (inst : XrInstance) (call : TermCall) : Thread T Reply := do
  let table ← use (RuntimeInterface.getDispatchTable inst)
  let table ← use (dispatchTableOf table)
  match table call.command with
  | .null => return ⟨xrSuccess, none⟩
  | .foreign f =>
    let reply ← use (ask fun n => env.callRuntime n f call)
    return ⟨reply.result, none⟩
  | _ => other undefinedBehaviour

def termSetDebugUtilsObjectName (inst : XrInstance) (nameInfo : XrDebugUtilsObjectNameInfoEXT) :
    Thread T Reply := do
  let reply ← callRuntimeIfPresent env inst (.setDebugUtilsObjectNameEXT inst nameInfo)
  other (modifyLogger fun logger => { logger with
    data := logger.data.addObjectName nameInfo.objectHandle nameInfo.objectType nameInfo.objectName })
  return reply

def terminate : TermCall → Thread T Reply
  | .createInstance info => termCreateInstance env info
  | .destroyInstance inst => termDestroyInstance env inst
  | .createDebugUtilsMessengerEXT inst info messenger =>
    termCreateDebugUtilsMessenger env inst info messenger
  | .destroyDebugUtilsMessengerEXT messenger => termDestroyDebugUtilsMessenger env messenger
  | .submitDebugUtilsMessageEXT inst severity types =>
    callRuntimeIfPresent env inst (.submitDebugUtilsMessageEXT inst severity types)
  | .setDebugUtilsObjectNameEXT inst info => termSetDebugUtilsObjectName env inst info

def callFunction (function : Pfn) (call : TermCall) : Thread T Reply :=
  match function with
  | .term command => if command = call.command then terminate env call else other undefinedBehaviour
  | .foreign f => do
    let tree ← other (ask fun n => env.callLayer n f call)
    .ofTree (terminate env) tree
  | _ => other undefinedBehaviour

end Terminators

/-! ## The calls -/

section Calls
variable {T : Type} [DecidableEq T] (t : T) (env : Environment)

/-- `LoaderXrInitializeLoaderKHR`, which never takes the mutex. -/
def initializeLoader (info : List LoaderInitInfo) : Thread T XrResult :=
  abiTry xrErrorRuntimeFailure do
    if ← other ActiveLoaderInstance.isAvailable then return xrErrorInitializationFailed
    unload
    other (LoaderCore.initializeInitData env info)

def collectExtensions (layerName : Option StdString) :
    Thread T (XrResult × List XrExtensionProperties) := do
  let (result, props) ← other (ApiLayerInterface.getInstanceExtensionProperties env layerName)
  if xrFailed result ∨ layerName.isSome then return (result, props)
  let result ← load t env
  if xrFailed result then return (result, props)
  return (result, ← use (RuntimeInterface.getInstanceExtensionProperties env props))

def extensionProperties (layerName : Option StdString) :
    Thread T (XrResult × List XrExtensionProperties) := do
  let (result, props) ← locked t (collectExtensions t env layerName)
  if xrFailed result ∨ layerName.isSome then return (result, props)
  else return (result, LoaderInstance.loaderSpecificExtensions.foldl LoaderCore.addLoaderExtension props)

def enumerateInstanceExtensionProperties (layerName : Option StdString) (capacity : ℕ) (count : Bool)
    (types : Option (List ℕ)) : Thread T (XrResult × Option ℕ × List XrExtensionProperties) :=
  abiTry (xrErrorRuntimeFailure, none, []) do
    if !count then return (xrErrorValidationFailure, none, [])
    let (result, props) ← extensionProperties t env (layerName.filter (!·.isEmpty))
    if xrFailed result then return (result, none, [])
    return LoaderCore.outputExtensions props capacity types

def loadRuntimeAndLayers (info : XrInstanceCreateInfo) :
    Thread T (XrResult × List ApiLayerInterface) := do
  let result ← load t env
  if xrFailed result then return (result, [])
  other (ApiLayerInterface.loadApiLayers env info.enabledApiLayerCount info.enabledApiLayerNames)

def callCreateApiLayerInstance (cali : Pfn) (info : XrInstanceCreateInfo)
    (nextInfo : List XrApiLayerNextInfo) : Thread T Reply :=
  match cali with
  | .term .createApiLayerInstance => terminate env (.createInstance info)
  | .foreign f => do
    let tree ← other (ask fun n => env.createApiLayerInstance n f info nextInfo)
    .ofTree (terminate env) tree
  | _ => other undefinedBehaviour

def callChain (layers : List ApiLayerInterface) (info : XrInstanceCreateInfo) : Thread T Reply :=
  if layers.isEmpty then terminate env (.createInstance info)
  else callCreateApiLayerInstance env (LoaderInstance.linkLayers layers).2.2 info
    (LoaderInstance.linkLayers layers).1

def createChained (layers : List ApiLayerInterface) (info : XrInstanceCreateInfo)
    (names : List StdString) : Thread T Reply := do
  let result ← use (LoaderInstance.checkExtensions layers names)
  if xrFailed result then return ⟨result, none⟩
  let info ← use (LoaderInstance.modifiedCreateInfo info names)
  callChain env layers info

def createLoaderInstance (layers : List ApiLayerInterface) (info : XrInstanceCreateInfo) :
    Thread T (XrResult × Option LoaderInstance) :=
  match arrayNames info.enabledExtensionCount info.enabledExtensionNames with
  | none => other undefinedBehaviour
  | some names => do
    let reply ← createChained env layers info names
    if xrFailed reply.result then
      other (ApiLayerInterface.destroyInterfaces layers)
      return (reply.result, none)
    let loaderInstance ← use (LoaderInstance.construct env (reply.handle.getD xrNullHandle) names layers)
    return (reply.result, some loaderInstance)

def createActiveInstance (info : XrInstanceCreateInfo) :
    Thread T (XrResult × List ApiLayerInterface) := do
  let (result, layers) ← loadRuntimeAndLayers t env info
  if xrFailed result then return (result, layers)
  let (result, loaderInstance) ← createLoaderInstance env layers info
  match loaderInstance with
  | none => return (result, [])
  | some loaderInstance => return (← other (ActiveLoaderInstance.set loaderInstance), [])

def createDebugUtilsMessenger (inst : XrInstance) (createInfo : XrDebugUtilsMessengerCreateInfoEXT)
    (messenger : Bool) : Thread T Reply := do
  if inst = xrNullHandle then return ⟨xrErrorHandleInvalid, none⟩
  match ← other ActiveLoaderInstance.active with
  | none => return ⟨xrErrorHandleInvalid, none⟩
  | some loaderInstance =>
    callFunction env (loaderInstance.dispatchTable .createDebugUtilsMessengerEXT)
      (.createDebugUtilsMessengerEXT inst createInfo messenger)

def destroyDebugUtilsMessenger (messenger : XrDebugUtilsMessengerEXT) : Thread T Reply := do
  if messenger = xrNullHandle then return ⟨xrErrorHandleInvalid, none⟩
  match ← other ActiveLoaderInstance.active with
  | none => return ⟨xrErrorHandleInvalid, none⟩
  | some loaderInstance =>
    callFunction env (loaderInstance.dispatchTable .destroyDebugUtilsMessengerEXT)
      (.destroyDebugUtilsMessengerEXT messenger)

def createDefaultMessenger (createInfo : XrDebugUtilsMessengerCreateInfoEXT) (inst : XrInstance) :
    Thread T Reply := do
  let reply ← createDebugUtilsMessenger env inst createInfo true
  if xrFailed reply.result then return ⟨xrErrorValidationFailure, none⟩
  match reply.handle with
  | none => other undefinedBehaviour
  | some messenger =>
    other (ActiveLoaderInstance.setDefaultDebugUtilsMessenger messenger)
    return ⟨reply.result, some inst⟩

def createWithoutActive (info : XrInstanceCreateInfo) : Thread T Reply := do
  let (result, layers) ← createActiveInstance t env info
  if xrFailed result then
    other ActiveLoaderInstance.remove
    unload
    other (ApiLayerInterface.destroyInterfaces layers)
    return ⟨result, none⟩
  match ← other ActiveLoaderInstance.active with
  | none => other undefinedBehaviour
  | some loaderInstance =>
    match LoaderCore.messengerCreateInfo info.next with
    | none => return ⟨result, some loaderInstance.runtimeInstance⟩
    | some createInfo => createDefaultMessenger env createInfo loaderInstance.runtimeInstance

/-- `LoaderXrCreateInstance`, which takes the mutex once it has looked at its arguments. -/
def createInstance (info : Option XrInstanceCreateInfo) (inst : Bool) : Thread T Reply :=
  abiTry ⟨xrErrorRuntimeFailure, none⟩
    (match info with
    | none => return ⟨xrErrorValidationFailure, none⟩
    | some info => do
      if LoaderCore.isApiVersionUnsupported info.applicationInfo.apiVersion then
        return ⟨xrErrorApiVersionUnsupported, none⟩
      if !inst then return ⟨xrErrorValidationFailure, none⟩
      locked t do
        if ← other ActiveLoaderInstance.isAvailable then return ⟨xrErrorLimitReached, none⟩
        createWithoutActive t env info)

def destroyDefaultMessenger (loaderInstance : LoaderInstance) : Thread T PUnit := do
  if loaderInstance.messenger ≠ xrNullHandle then
    let _ ← destroyDebugUtilsMessenger env loaderInstance.messenger

def destroyInstance (inst : XrInstance) : Thread T XrResult := do
  if inst = xrNullHandle then return xrErrorHandleInvalid
  locked t do
    match ← other ActiveLoaderInstance.active with
    | none => return xrErrorHandleInvalid
    | some loaderInstance =>
      destroyDefaultMessenger env loaderInstance
      let _ ← callFunction env (loaderInstance.dispatchTable .destroyInstance) (.destroyInstance inst)
      other ActiveLoaderInstance.remove
      unload
      return xrSuccess

/-- The calls that load or unload the runtime. -/
inductive Call
  | initializeLoader (info : List LoaderInitInfo)
  | enumerateInstanceExtensionProperties (layerName : Option StdString) (capacity : ℕ) (count : Bool)
      (types : Option (List ℕ))
  | createInstance (info : Option XrInstanceCreateInfo) (inst : Bool)
  | destroyInstance (inst : XrInstance)

def Call.toLoader : Call → LoaderCore.Call
  | .initializeLoader info => .initializeLoader info
  | .enumerateInstanceExtensionProperties layerName capacity count types =>
    .enumerateInstanceExtensionProperties layerName capacity count types
  | .createInstance info inst => .createInstance info inst
  | .destroyInstance inst => .destroyInstance inst

def replyOf {α : Type} (result : α → XrResult) (p : Thread T α) : Thread T Reply := do
  return ⟨result (← p), none⟩

def perform (t : T) (env : Environment) : Call → Thread T Reply
  | .initializeLoader info => replyOf id (initializeLoader env info)
  | .enumerateInstanceExtensionProperties layerName capacity count types =>
    replyOf (·.1) (enumerateInstanceExtensionProperties t env layerName capacity count types)
  | .createInstance info inst => createInstance t env info inst
  | .destroyInstance inst => replyOf id (destroyInstance t env inst)

abbrev Threads (T : Type) := Config T (Shared T) Fault Action Reply

/-- Each call is made in surroundings of its own. -/
def calls (t : T) (call : Environment × Call) : Thread T Reply := perform t call.1 call.2

def idle (w : World) : Threads T := ⟨⟨w, none, fun _ => false⟩, fun _ => .done ⟨xrSuccess, none⟩⟩

end Calls

end OpenXRSdk.Concurrency
