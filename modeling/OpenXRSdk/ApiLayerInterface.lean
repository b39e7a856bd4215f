import OpenXRSdk.RuntimeInterface

/-!
# The API layer interface

Which layers are enabled, in which order, and what loading each of them does to the
result of the whole call.
-/
namespace OpenXRSdk

open StateProgram

def xrMaxApiLayerDescriptionSize : ℕ := 256

def xrTypeApiLayerProperties : ℕ := 1

structure XrApiLayerProperties where
  layerName : StdString
  specVersion : ℕ
  layerVersion : ℕ
  description : StdString
  deriving DecidableEq, Repr

def ApiLayerManifestFile.populateApiLayerProperties (m : ApiLayerManifestFile) :
    XrApiLayerProperties where
  layerName := boundedCopy xrMaxApiLayerNameSize m.layerName
  specVersion := xrMakeVersion m.apiVersion.major m.apiVersion.minor m.apiVersion.patch
  layerVersion := m.implementationVersion
  description := boundedCopy xrMaxApiLayerDescriptionSize m.description

namespace ApiLayerInterface

/-- The components of a path list, the empty ones included but for a last one; `current` is
what has been read of the component. -/
def splitPathList (separator : Char) (current : StdString) : StdString → List StdString
  | [] => if current.isEmpty then [] else [current]
  | c :: cs =>
    if c = separator then current :: splitPathList separator [] cs
    else splitPathList separator (current ++ [c]) cs

def properties (env : Environment) (w : World) : LoaderProperty := ⟨env.platform, w.overrides⟩

def environmentApiLayers (env : Environment) (w : World) : List StdString :=
  splitPathList env.pathSeparator [] ((properties env w).get "XR_ENABLE_API_LAYERS".toList)

def findManifestFiles (env : Environment) (type : ManifestFileType) :
    Loader (XrResult × List ApiLayerManifestFile) := do
  match ← ask fun t => env.findLayerManifests t type with
  | .error fault => throw fault
  | .ok found => return found

/-- The implicit manifests and, unless that search fails, the explicit ones after them. -/
def findAllManifestFiles (env : Environment) : Loader (XrResult × List ApiLayerManifestFile) := do
  let (result, implicit) ← findManifestFiles env .implicitApiLayer
  if xrSucceeded result then
    let (result, explicit) ← findManifestFiles env .explicitApiLayer
    return (result, implicit ++ explicit)
  else return (result, implicit)

/-- The result, the count written and the entries written. The array that may be null is
known by the types of its entries. -/
def getApiLayerProperties (env : Environment) (incomingCount : ℕ) (outgoingCount : Bool)
    (types : Option (List ℕ)) : Loader (XrResult × Option ℕ × List XrApiLayerProperties) := do
  if 0 < incomingCount ∧ ∃ ts ∈ types, ∃ t ∈ ts, t ≠ xrTypeApiLayerProperties then
    return (xrErrorValidationFailure, none, [])
  if !outgoingCount then return (xrErrorValidationFailure, none, [])
  let (result, manifestFiles) ← findAllManifestFiles env
  if xrFailed result then return (result, none, [])
  let manifestCount := manifestFiles.length
  if 2 ^ 32 - 1 ≤ manifestCount then return (xrErrorRuntimeFailure, none, [])
  if incomingCount = 0 then return (xrSuccess, some manifestCount, [])
  if types.isNone then return (xrErrorValidationFailure, some manifestCount, [])
  if incomingCount < manifestCount then return (xrErrorSizeInsufficient, some manifestCount, [])
  return (xrSuccess, some manifestCount, manifestFiles.map (·.populateApiLayerProperties))

/-- The manifests whose extensions are reported when no layer is named. -/
def enumeratedManifests (implicit explicit : List ApiLayerManifestFile) (names : List StdString) :
    List ApiLayerManifestFile :=
  implicit ++ explicit.filter fun m => names.contains m.layerName

def collectExtensions (manifests : List ApiLayerManifestFile) (props : List XrExtensionProperties) :
    List XrExtensionProperties :=
  manifests.foldl (fun ps m => m.getInstanceExtensionProperties ps) props

/-- `layerName` is none when it is null or empty. -/
def getInstanceExtensionProperties (env : Environment) (layerName : Option StdString) :
    Loader (XrResult × List XrExtensionProperties) := do
  match layerName with
  | some name =>
    let (result, implicit) ← findManifestFiles env .implicitApiLayer
    if xrSucceeded result then
      let (result, explicit) ← findManifestFiles env .explicitApiLayer
      if xrFailed result then return (result, [])
      match (implicit ++ explicit).find? (·.layerName = name) with
      | some m => return (xrSuccess, m.getInstanceExtensionProperties [])
      | none => return (xrErrorApiLayerNotPresent, [])
    else return (xrSuccess, [])
  | none =>
    let (result, implicit) ← findManifestFiles env .implicitApiLayer
    let names := environmentApiLayers env (← get)
    if xrSucceeded result ∧ names ≠ [] then
      let (result, explicit) ← findManifestFiles env .explicitApiLayer
      let explicit := if xrSucceeded result then explicit else []
      return (xrSuccess, collectExtensions (enumeratedManifests implicit explicit names) [])
    else return (xrSuccess, collectExtensions implicit [])

/-! ## Which layers are enabled -/

/-- Names found so far, manifests enabled so far, manifests that are left, and whether every
name has been found. -/
structure Enabling where
  layersAlreadyFound : List StdString
  enabled : List ApiLayerManifestFile
  explicit : List ApiLayerManifestFile
  foundAllLayers : Bool

def enableLayer (s : Enabling) (layerName : StdString) : Enabling :=
  if layerName ∈ s.layersAlreadyFound then s
  else
    let matching := s.explicit.filter (·.layerName = layerName)
    if matching = [] then { s with foundAllLayers := false }
    else
      { s with
        layersAlreadyFound := layerName :: s.layersAlreadyFound
        enabled := s.enabled ++ matching
        explicit := s.explicit.filter (·.layerName ≠ layerName) }

def enableLayers (implicit explicit : List ApiLayerManifestFile) (names : List StdString) : Enabling :=
  names.foldl enableLayer ⟨implicit.map (·.layerName), implicit, explicit, true⟩

/-! ## Loading the enabled layers -/

/-- What comes of a layer whose library opens. -/
inductive LayerOutcome
  | notInitialized
  | initFailed (result : XrResult)
  | negotiateNotFound
  | negotiationFailed (result : XrResult)
  | loaded (request : XrNegotiateApiLayerRequest)

def negotiateLayer (requiresPlatformInit : Bool) (initData : LoaderInitData)
    (manifest : ApiLayerManifestFile) (library : Library XrNegotiateApiLayerRequest) : LayerOutcome :=
  if requiresPlatformInit ∧ ¬ initData.initialized then .notInitialized
  else
    let param := initData.getPlatformParam requiresPlatformInit
    match forwardExported param library (manifest.getFunctionName "xrInitializeLoaderKHR".toList) with
    | .error res => .initFailed res
    | .ok forwarded =>
      match library.negotiate
          (manifest.getFunctionName "xrNegotiateLoaderApiLayerInterface".toList) with
      | none => .negotiateNotFound
      | some (res, request) =>
        if xrFailed res then .negotiationFailed res
        else if request.getInstanceProcAddr = .null then
          .negotiationFailed xrErrorFileContentsInvalid
        else if forwarded then .loaded request
        else
          match forwardQueried param library with
          | .error res => .negotiationFailed res
          | .ok _ => .loaded request

structure LoadState where
  lastError : XrResult
  anyLoaded : Bool
  interfaces : List ApiLayerInterface

namespace LoadState

/-- A layer is skipped with an error that only counts while no layer has been loaded. -/
def skip (result : XrResult) (s : LoadState) : LoadState :=
  if s.anyLoaded then s else { s with lastError := result }

/-- "If we load one, clear all errors." -/
def add (iface : ApiLayerInterface) (s : LoadState) : LoadState :=
  ⟨xrSuccess, true, s.interfaces ++ [iface]⟩

end LoadState

/-- The interface of a layer that was loaded from the library with this number. -/
def makeInterface (manifest : ApiLayerManifestFile) (library : ℕ)
    (request : XrNegotiateApiLayerRequest) : ApiLayerInterface where
  layerName := manifest.layerName
  layerLibrary := library
  supportedExtensions := (manifest.getInstanceExtensionProperties []).map (·.extensionName)
  getInstanceProcAddr := request.getInstanceProcAddr
  createApiLayerInstance := request.createApiLayerInstance

/-- One round of the loop over the enabled manifests: the result of an early return, or the
variables for the next round. -/
def loadLayer (env : Environment) (s : LoadState) (manifest : ApiLayerManifestFile) :
    Loader (Except XrResult LoadState) := do
  match ← ask fun t => env.openLayer t manifest.libraryPath with
  | none => return .ok (s.skip xrErrorFileAccessError)
  | some library =>
    let handle ← openLibrary
    match negotiateLayer env.requiresPlatformInit (← get).initData manifest library with
    | .notInitialized =>
      closeLibrary handle
      return .error xrErrorValidationFailure
    | .initFailed res =>
      closeLibrary handle
      return .error res
    | .negotiateNotFound =>
      closeLibrary handle
      return .ok { s with lastError := xrErrorApiLayerNotPresent }
    | .negotiationFailed res =>
      closeLibrary handle
      return .ok (s.skip res)
    | .loaded request => return .ok (s.add (makeInterface manifest handle request))

def loadLayers (env : Environment) (s : LoadState) :
    List ApiLayerManifestFile → Loader (Option XrResult × LoadState)
  | [] => return (none, s)
  | manifest :: manifests => do
    match ← loadLayer env s manifest with
    | .error res => return (some res, s)
    | .ok s => loadLayers env s manifests

/-- `~ApiLayerInterface` of each element of a vector. -/
def destroyInterfaces (interfaces : List ApiLayerInterface) : Loader PUnit :=
  interfaces.forM fun iface => closeLibrary iface.layerLibrary

/-- The names requested through the environment and by the application; `none` when the
array of the application is null. -/
def requestedLayers (env : Environment) (w : World) (count : ℕ) (names : Option (List StdString)) :
    Option (List StdString) :=
  if count = 0 then some (environmentApiLayers env w)
  else names.map fun ns => environmentApiLayers env w ++ ns.take count

/-- The manifests of a type, or none of them after a failure. -/
def findUnlessFailed (env : Environment) (result : XrResult) (type : ManifestFileType) :
    Loader (XrResult × List ApiLayerManifestFile) :=
  if xrSucceeded result then findManifestFiles env type else return (result, [])

/-- The second half of LoadApiLayers: load what is enabled, and clean up after a failure. -/
def loadEnabledLayers (env : Environment) (enabling : Enabling) :
    Loader (XrResult × List ApiLayerInterface) := do
  let (early, s) ← loadLayers env ⟨xrSuccess, false, []⟩ enabling.enabled
  match early with
  | some res => return (res, s.interfaces)
  | none =>
    let lastError := if enabling.foundAllLayers then s.lastError else xrErrorApiLayerNotPresent
    if xrFailed lastError then
      destroyInterfaces s.interfaces
      return (lastError, [])
    else return (lastError, s.interfaces)

/-- The result, and the vector of interfaces when the function returns. -/
def loadApiLayers (env : Environment) (count : ℕ) (names : Option (List StdString)) :
    Loader (XrResult × List ApiLayerInterface) := do
  let (result, implicit) ← findManifestFiles env .implicitApiLayer
  let (result, explicit) ← findUnlessFailed env result .explicitApiLayer
  let w ← get
  match if xrSucceeded result then requestedLayers env w count names else some [] with
  | none => return (xrErrorValidationFailure, [])
  | some requested => loadEnabledLayers env (enableLayers implicit explicit requested)

def supportsExtension (iface : ApiLayerInterface) (extensionName : StdString) : Bool :=
  iface.supportedExtensions.contains extensionName

end ApiLayerInterface
end OpenXRSdk
