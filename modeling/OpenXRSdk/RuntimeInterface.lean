import OpenXRSdk.World

/-!
# The runtime interface

Loading the active runtime, keeping its dispatch tables and messengers, and unloading it.
-/
namespace OpenXRSdk

open StateProgram

def xrCurrentLoaderRuntimeVersion : ℕ := 1

section Forwarding
variable {Request : Type}

/-- Call xrInitializeLoaderKHR if the library exports it: whether the call was made, or
the result it failed with. -/
def forwardExported (param : Option XrLoaderInitInfoAndroidKHR) (library : Library Request)
    (symbol : StdString) : Except XrResult Bool :=
  match param, library.exportedInitializeLoader symbol with
  | some p, some initLoader => if xrSucceeded (initLoader p) then .ok true else .error (initLoader p)
  | _, _ => .ok false

/-- Call xrInitializeLoaderKHR if the negotiated function finds it. -/
def forwardQueried (param : Option XrLoaderInitInfoAndroidKHR) (library : Library Request) :
    Except XrResult Unit :=
  match param, library.queriedInitializeLoader with
  | some p, (result, initializeVoid) =>
    if xrSucceeded result then
      match initializeVoid with
      | none => .error xrErrorRuntimeFailure
      | some initLoader => if xrSucceeded (initLoader p) then .ok () else .error (initLoader p)
    else .ok ()
  | none, _ => .ok ()

theorem forwardExported_error {param : Option XrLoaderInitInfoAndroidKHR}
    {library : Library Request} {symbol : StdString} {res : XrResult}
    (h : forwardExported param library symbol = .error res) : xrFailed res := by
  unfold forwardExported at h
  split at h
  · split_ifs at h with hs
    cases h
    exact not_xrSucceeded.mp hs
  · cases h

theorem forwardQueried_error {param : Option XrLoaderInitInfoAndroidKHR}
    {library : Library Request} {res : XrResult}
    (h : forwardQueried param library = .error res) : xrFailed res := by
  unfold forwardQueried at h
  split at h
  · split_ifs at h with hs
    split at h
    · cases h
      decide
    · split_ifs at h with hs'
      cases h
      exact not_xrSucceeded.mp hs'
  · cases h

end Forwarding

namespace RuntimeInterface

/-! ## Extensions -/

/-- Give the first listed extension of this name the runtime's version. -/
def overrideVersion (ext : XrExtensionProperties) :
    List XrExtensionProperties → List XrExtensionProperties
  | [] => []
  | prop :: props =>
    if prop.extensionName = ext.extensionName then
      { prop with extensionVersion := ext.extensionVersion } :: props
    else prop :: overrideVersion ext props

/-- Only the entries that were there before the query are compared with. -/
def mergeExtensions (props exts : List XrExtensionProperties) : List XrExtensionProperties :=
  exts.foldl (fun ps ext => overrideVersion ext ps) props ++
    exts.filter fun ext => ¬ props.any (·.extensionName = ext.extensionName)

def supportsExtension (rt : RuntimeInterface) (extensionName : StdString) : Bool :=
  rt.supportedExtensions.contains extensionName

def getRuntime : Loader RuntimeInterface := do
  match (← get).runtime with
  | none => undefinedBehaviour
  | some rt => return rt

def modifyRuntime (f : RuntimeInterface → RuntimeInterface) : Loader PUnit :=
  modify fun w => { w with runtime := w.runtime.map f }

/-- The array that the second call of the runtime leaves: entries that it did not write
keep their initial value. -/
def filledExtensions (query : ExtensionQuery) : Loader (List XrExtensionProperties) :=
  match query.function.function with
  | none => undefinedBehaviour
  | some .null => undefinedBehaviour
  | some _ =>
    let count := query.count.2.getD 0
    let written := (query.fill count).2.2
    if count = 0 then return []
    else if count < written.length then undefinedBehaviour
    else return written ++ List.replicate (count - written.length) ⟨[], 0⟩

def getInstanceExtensionProperties (env : Environment) (props : List XrExtensionProperties) :
    Loader (List XrExtensionProperties) := do
  let rt ← getRuntime
  let query ← ask fun t => env.queryExtensions t rt.getInstanceProcAddr
  let exts ← filledExtensions query
  return mergeExtensions props exts

/-! ## Loading and unloading -/

/-- What is wrong with the answer to a successful negotiation, or the function it gives. -/
def checkRequest (request : XrNegotiateRuntimeRequest) : Except XrResult ℕ :=
  let major := xrVersionMajor request.runtimeApiVersion
  let minor := xrVersionMinor request.runtimeApiVersion
  match request.getInstanceProcAddr with
  | none => .error xrErrorFileContentsInvalid
  | some gipa =>
    if request.runtimeInterfaceVersion = 0 ∨
        xrCurrentLoaderRuntimeVersion < request.runtimeInterfaceVersion then
      .error xrErrorFileContentsInvalid
    else if major ≠ xrVersionMajor xrCurrentApiVersion ∨ (major = 0 ∧ minor = 0) then
      .error xrErrorFileContentsInvalid
    else .ok gipa

/-- All that TryLoadingSingleRuntime does with an open library before it uses the runtime. -/
def negotiateRuntime (requiresPlatformInit : Bool) (initData : LoaderInitData)
    (manifest : RuntimeManifestFile) (library : Library XrNegotiateRuntimeRequest) :
    Except XrResult ℕ := do
  if requiresPlatformInit ∧ ¬ initData.initialized then throw xrErrorValidationFailure
  let param := initData.getPlatformParam requiresPlatformInit
  let forwarded ← forwardExported param library
    (manifest.getFunctionName "xrInitializeLoaderKHR".toList)
  let gipa ←
    match library.negotiate (manifest.getFunctionName "xrNegotiateLoaderRuntimeInterface".toList) with
    | none => throw xrErrorRuntimeFailure
    | some (res, request) => if xrFailed res then throw res else checkRequest request
  if !forwarded then forwardQueried param library
  return gipa

/-- The names of the extensions that the runtime reports, kept with it. -/
def noteSupportedExtensions (env : Environment) : Loader PUnit := do
  let props ← getInstanceExtensionProperties env []
  modifyRuntime fun rt => { rt with supportedExtensions := props.map (·.extensionName) }

def tryLoadingSingleRuntime (env : Environment) (manifest : RuntimeManifestFile) : Loader XrResult := do
  match ← ask fun t => env.openRuntime t manifest.libraryPath with
  | none => return xrErrorFileAccessError
  | some library =>
    let handle ← openLibrary
    match negotiateRuntime env.requiresPlatformInit (← get).initData manifest library with
    | .error res =>
      closeLibrary handle
      return res
    | .ok gipa =>
      modify fun w => { w with runtime := some ⟨handle, gipa, ∅, ∅, []⟩ }
      noteSupportedExtensions env
      return xrSuccess

/-- The loop over the manifests; `lastError` is the result so far. -/
def tryManifests (env : Environment) (lastError : XrResult) : List RuntimeManifestFile → Loader XrResult
  | [] => return lastError
  | manifest :: manifests => do
    let result ← tryLoadingSingleRuntime env manifest
    if xrSucceeded result then return result else tryManifests env result manifests

/-- What becomes of the manifests, if the search for them did not fail. -/
def tryFoundManifests (env : Environment) (result : XrResult) (manifests : List RuntimeManifestFile) :
    Loader XrResult :=
  if xrFailed result then return result
  else tryManifests env xrErrorRuntimeUnavailable manifests

def loadRuntime (env : Environment) : Loader XrResult := do
  if (← get).runtime.isSome then return xrSuccess
  if env.requiresPlatformInit ∧ ¬ (← get).initData.initialized then return xrErrorInitializationFailed
  match ← ask env.findRuntimeManifests with
  | .error fault => throw fault
  | .ok (result, manifests) =>
    let lastError ← tryFoundManifests env result manifests
    if xrFailed lastError then return xrErrorRuntimeUnavailable else return lastError

def unloadRuntime : Loader PUnit := do
  match (← get).runtime with
  | none => return ⟨⟩
  | some rt =>
    closeLibrary rt.runtimeLibrary
    modify fun w => { w with runtime := none }

/-! ## Instances and messengers -/

def getDispatchTable (inst : XrInstance) : Loader (Option DispatchTable) := do
  let rt ← getRuntime
  return rt.dispatchTableMap.lookup inst

/-- An unknown messenger is looked up like one of the null instance. -/
def getDebugUtilsMessengerDispatchTable (messenger : XrDebugUtilsMessengerEXT) :
    Loader (Option DispatchTable) := do
  let rt ← getRuntime
  getDispatchTable ((rt.messengerToInstanceMap.lookup messenger).getD xrNullHandle)

/-- The function that `xrGetInstanceProcAddr` of the runtime writes; its result is not
looked at, and a pointer that it leaves alone holds no function. -/
def runtimeFunction (env : Environment) (inst : XrInstance) (command : Command) : Loader ℕ := do
  let rt ← getRuntime
  match (← ask fun t => env.getInstanceProcAddr t rt.getInstanceProcAddr inst command).function with
  | some (.foreign address) => return address
  | _ => undefinedBehaviour

/-- The functions that a `xrGetInstanceProcAddr` writes; a pointer that it leaves alone is
null. -/
def functionsOf (env : Environment) (gipa : ℕ) (inst : XrInstance) (t : ℕ) : DispatchTable :=
  fun command => (env.getInstanceProcAddr t gipa inst command).function.getD .null

def populateDispatchTable (env : Environment) (gipa : ℕ) (inst : XrInstance) : Loader DispatchTable :=
  ask (functionsOf env gipa inst)

/-- The dispatch table of an instance that the runtime has just created. -/
def addDispatchTable (env : Environment) (inst : XrInstance) : Loader PUnit := do
  let rt ← getRuntime
  let table ← populateDispatchTable env rt.getInstanceProcAddr inst
  modifyRuntime fun rt => { rt with dispatchTableMap := rt.dispatchTableMap.insert inst table }

def createInstance (env : Environment) (info : XrInstanceCreateInfo) : Loader Reply := do
  let address ← runtimeFunction env xrNullHandle .createInstance
  let reply ← ask fun t => env.callRuntime t address (.createInstance info)
  if xrSucceeded reply.result then addDispatchTable env (reply.handle.getD xrNullHandle)
  return reply

def destroyInstance (env : Environment) (inst : XrInstance) : Loader XrResult := do
  if inst ≠ xrNullHandle then
    modifyRuntime fun rt => { rt with dispatchTableMap := rt.dispatchTableMap.erase inst }
    let address ← runtimeFunction env inst .destroyInstance
    let _ ← ask fun t => env.callRuntime t address (.destroyInstance inst)
  return xrSuccess

def trackDebugMessenger (inst : XrInstance) (messenger : XrDebugUtilsMessengerEXT) : Loader PUnit :=
  modifyRuntime fun rt =>
    { rt with messengerToInstanceMap := rt.messengerToInstanceMap.insert messenger inst }

def forgetDebugMessenger (messenger : XrDebugUtilsMessengerEXT) : Loader PUnit :=
  if messenger ≠ xrNullHandle then
    modifyRuntime fun rt =>
      { rt with messengerToInstanceMap := rt.messengerToInstanceMap.erase messenger }
  else return ⟨⟩

end RuntimeInterface
end OpenXRSdk
