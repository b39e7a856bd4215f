import OpenXRSdk.LayerLoading
import OpenXRSdk.ManifestSafety
import OpenXRSdk.RecordedPrograms
import OpenXRSdk.RuntimeLoading

/-!
# What the loader looks up in libraries

The loader asks a library for functions under names that the manifest may have changed.
`LoaderPlatformLibraryGetProcAddr` asserts that the library is not null and that the name
is not empty.
-/
namespace OpenXRSdk

open Json RecordedPrograms RecordedPrograms.Recorded StateProgram

/-- A call of `LoaderPlatformLibraryGetProcAddr` on behalf of a manifest. -/
structure Lookup where
  manifest : ManifestFile
  library : Option ℕ
  name : StdString
  deriving DecidableEq

/-- The assertions of `LoaderPlatformLibraryGetProcAddr`. -/
structure Lookup.Permitted (l : Lookup) : Prop where
  library : l.library ≠ none
  name : l.name ≠ []

/-- Computations of the loader with a record of what is looked up. -/
abbrev Looking (α : Type) := Recorded Fault World Lookup α

/-- A library by the number of its opening; `none` is null. -/
abbrev LoaderPlatformLibraryHandle (Request : Type) := Option (ℕ × Library Request)

section Libraries
variable {Request β : Type}

def loaderPlatformLibraryOpen (opened : ℕ → Option (Library Request)) :
    Looking (LoaderPlatformLibraryHandle Request) := do
  match ← perform (ask opened) with
  | none => return none
  | some library =>
    let number ← perform openLibrary
    return some (number, library)

def loaderPlatformLibraryGetProcAddr (manifest : ManifestFile)
    (library : LoaderPlatformLibraryHandle Request) (name : StdString)
    (exported : Library Request → StdString → Option β) : Looking (Option β) := do
  enter ⟨manifest, library.map (·.1), name⟩
  return library.bind fun l => exported l.2 name

/-- Look up xrInitializeLoaderKHR and call it, where there is something to call it with. -/
def lookUpInitializeLoader (param : Option XrLoaderInitInfoAndroidKHR) (manifest : ManifestFile)
    (library : LoaderPlatformLibraryHandle Request) : Looking (Except XrResult Bool) :=
  match param with
  | none => return .ok false
  | some p => do
    let functionName := manifest.getFunctionName "xrInitializeLoaderKHR".toList
    match ← loaderPlatformLibraryGetProcAddr manifest library functionName
        (·.exportedInitializeLoader) with
    | none => return .ok false
    | some initLoader =>
      if xrSucceeded (initLoader p) then return .ok true else return .error (initLoader p)

/-- What is looked up in a library that is open: xrInitializeLoaderKHR and, unless a call of it
fails, the negotiation function. -/
def lookUpFunctions {α : Type} (param : Option XrLoaderInitInfoAndroidKHR) (manifest : ManifestFile)
    (negotiate : StdString) (library : LoaderPlatformLibraryHandle Request) (failed : XrResult → α)
    (settle : Bool → Option (XrResult × Request) → α) : Looking α := do
  match ← lookUpInitializeLoader param manifest library with
  | .error res => return failed res
  | .ok forwarded =>
    let functionName := manifest.getFunctionName negotiate
    let found ← loaderPlatformLibraryGetProcAddr manifest library functionName (·.negotiate)
    return settle forwarded found

/-- Open a library and, if there is one, go on with what comes of looking up its functions. -/
def tryLibrary {α : Type} (opened : ℕ → Option (Library Request)) (absent : β)
    (lookUp : LoaderInitData → LoaderPlatformLibraryHandle Request → Looking α)
    (finish : ℕ → α → Loader β) : Looking β := do
  let library ← loaderPlatformLibraryOpen opened
  match library with
  | none => return absent
  | some (handle, _) =>
    let w ← perform get
    let outcome ← lookUp w.initData library
    perform (finish handle outcome)

end Libraries

namespace RuntimeInterface

/-- What becomes of a runtime once its negotiation function has been looked up. -/
def settleRuntime (param : Option XrLoaderInitInfoAndroidKHR)
    (library : LoaderPlatformLibraryHandle XrNegotiateRuntimeRequest) (forwarded : Bool)
    (negotiate : Option (XrResult × XrNegotiateRuntimeRequest)) : Except XrResult ℕ := do
  let gipa ←
    match negotiate with
    | none => throw xrErrorRuntimeFailure
    | some (res, request) => if xrFailed res then throw res else checkRequest request
  if !forwarded then library.forM fun l => forwardQueried param l.2
  return gipa

def lookUpRuntime (requiresPlatformInit : Bool) (manifest : RuntimeManifestFile)
    (initData : LoaderInitData) (library : LoaderPlatformLibraryHandle XrNegotiateRuntimeRequest) :
    Looking (Except XrResult ℕ) :=
  if requiresPlatformInit ∧ ¬ initData.initialized then return .error xrErrorValidationFailure
  else
    let param := initData.getPlatformParam requiresPlatformInit
    lookUpFunctions (if initData.initialized then param else none) manifest.toManifestFile
      "xrNegotiateLoaderRuntimeInterface".toList library .error (settleRuntime param library)

/-- The library is closed again, or its runtime is the one in use. -/
def finishRuntime (env : Environment) (handle : ℕ) : Except XrResult ℕ → Loader XrResult
  | .error res => do
    closeLibrary handle
    return res
  | .ok gipa => do
    modify fun w => { w with runtime := some ⟨handle, gipa, ∅, ∅, []⟩ }
    noteSupportedExtensions env
    return xrSuccess

def recordedTryLoadingSingleRuntime (env : Environment) (manifest : RuntimeManifestFile) :
    Looking XrResult :=
  tryLibrary (fun t => env.openRuntime t manifest.libraryPath) xrErrorFileAccessError
    (lookUpRuntime env.requiresPlatformInit manifest) (finishRuntime env)

end RuntimeInterface

namespace ApiLayerInterface

/-- What becomes of a layer once its negotiation function has been looked up. -/
def settleLayer (param : Option XrLoaderInitInfoAndroidKHR)
    (library : LoaderPlatformLibraryHandle XrNegotiateApiLayerRequest) (forwarded : Bool)
    (negotiate : Option (XrResult × XrNegotiateApiLayerRequest)) : LayerOutcome :=
  match negotiate with
  | none => .negotiateNotFound
  | some (res, request) =>
    if xrFailed res then .negotiationFailed res
    else if request.getInstanceProcAddr = .null then .negotiationFailed xrErrorFileContentsInvalid
    else if forwarded then .loaded request
    else
      match library.forM fun l => forwardQueried param l.2 with
      | .error res => .negotiationFailed res
      | .ok _ => .loaded request

def lookUpLayer (requiresPlatformInit : Bool) (manifest : ApiLayerManifestFile)
    (initData : LoaderInitData) (library : LoaderPlatformLibraryHandle XrNegotiateApiLayerRequest) :
    Looking LayerOutcome :=
  if requiresPlatformInit ∧ ¬ initData.initialized then return .notInitialized
  else
    let param := initData.getPlatformParam requiresPlatformInit
    lookUpFunctions param manifest.toManifestFile "xrNegotiateLoaderApiLayerInterface".toList
      library .initFailed (settleLayer param library)

/-- The rest of a round of the loop, by what has come of the layer. -/
def finishLayer (s : LoadState) (manifest : ApiLayerManifestFile) (handle : ℕ) :
    LayerOutcome → Loader (Except XrResult LoadState)
  | .notInitialized => do
    closeLibrary handle
    return .error xrErrorValidationFailure
  | .initFailed res => do
    closeLibrary handle
    return .error res
  | .negotiateNotFound => do
    closeLibrary handle
    return .ok { s with lastError := xrErrorApiLayerNotPresent }
  | .negotiationFailed res => do
    closeLibrary handle
    return .ok (s.skip res)
  | .loaded request => return .ok (s.add (makeInterface manifest handle request))

def recordedLoadLayer (env : Environment) (s : LoadState) (manifest : ApiLayerManifestFile) :
    Looking (Except XrResult LoadState) :=
  tryLibrary (fun t => env.openLayer t manifest.libraryPath) (.ok (s.skip xrErrorFileAccessError))
    (lookUpLayer env.requiresPlatformInit manifest) (finishLayer s manifest)

def recordedLoadLayers (env : Environment) (s : LoadState) :
    List ApiLayerManifestFile → Looking (Option XrResult × LoadState)
  | [] => return (none, s)
  | manifest :: manifests => do
    match ← recordedLoadLayer env s manifest with
    | .error res => return (some res, s)
    | .ok s => recordedLoadLayers env s manifests

/-- The result of LoadApiLayers after the loop. -/
def finishLayers (foundAllLayers : Bool) :
    Option XrResult × LoadState → Loader (XrResult × List ApiLayerInterface)
  | (some res, s) => return (res, s.interfaces)
  | (none, s) => do
    let lastError := if foundAllLayers then s.lastError else xrErrorApiLayerNotPresent
    if xrFailed lastError then
      destroyInterfaces s.interfaces
      return (lastError, [])
    else return (lastError, s.interfaces)

def recordedLoadEnabledLayers (env : Environment) (enabling : Enabling) :
    Looking (XrResult × List ApiLayerInterface) := do
  let loaded ← recordedLoadLayers env ⟨xrSuccess, false, []⟩ enabling.enabled
  perform (finishLayers enabling.foundAllLayers loaded)

def recordedLoadApiLayers (env : Environment) (count : ℕ) (names : Option (List StdString)) :
    Looking (XrResult × List ApiLayerInterface) := do
  let (result, implicit) ← perform (findManifestFiles env .implicitApiLayer)
  let (result, explicit) ← perform (findUnlessFailed env result .explicitApiLayer)
  let w ← perform get
  match if xrSucceeded result then requestedLayers env w count names else some [] with
  | none => return (xrErrorValidationFailure, [])
  | some requested => recordedLoadEnabledLayers env (enableLayers implicit explicit requested)

end ApiLayerInterface

/-! ## The recorded functions are those of the loader -/

section Libraries
variable {Request β : Type}

theorem erase_loaderPlatformLibraryOpen (opened : ℕ → Option (Library Request)) (w : World) :
    erase (loaderPlatformLibraryOpen opened) w =
      match opened w.clock with
      | none => .ok none w.tick
      | some library => .ok (some (w.libraries.fresh, library))
          { w.tick with libraries := w.libraries.opening } := by
  unfold loaderPlatformLibraryOpen
  rw [erase_bind, erase_perform, bind_of_ok ask_run]
  cases opened w.clock <;> rfl

theorem erase_loaderPlatformLibraryGetProcAddr (manifest : ManifestFile) (number : ℕ)
    (library : Library Request) (name : StdString)
    (exported : Library Request → StdString → Option β) :
    erase (loaderPlatformLibraryGetProcAddr manifest (some (number, library)) name exported) =
      pure (exported library name) := rfl

theorem erase_lookUpInitializeLoader (param : Option XrLoaderInitInfoAndroidKHR)
    (manifest : ManifestFile) (number : ℕ) (library : Library Request) :
    erase (lookUpInitializeLoader param manifest (some (number, library))) =
      pure (forwardExported param library
        (manifest.getFunctionName "xrInitializeLoaderKHR".toList)) := by
  unfold lookUpInitializeLoader forwardExported
  cases param with
  | none => rfl
  | some p =>
    simp only [erase_bind, erase_loaderPlatformLibraryGetProcAddr, pure_bind]
    cases library.exportedInitializeLoader
        (manifest.getFunctionName "xrInitializeLoaderKHR".toList) with
    | none => rfl
    | some initLoader =>
      dsimp only
      by_cases h : xrSucceeded (initLoader p)
      · rw [if_pos h, if_pos h, erase_pure]
      · rw [if_neg h, if_neg h, erase_pure]

section Functions
variable {α : Type} {param : Option XrLoaderInitInfoAndroidKHR} {manifest : ManifestFile}
  {negotiate : StdString} {number : ℕ} {library : Library Request} {failed : XrResult → α}
  {settle : Bool → Option (XrResult × Request) → α}

theorem erase_lookUpFunctions_of_error {res : XrResult}
    (h : forwardExported param library
      (manifest.getFunctionName "xrInitializeLoaderKHR".toList) = .error res) :
    erase (lookUpFunctions param manifest negotiate (some (number, library)) failed settle) =
      pure (failed res) := by
  unfold lookUpFunctions
  rw [erase_bind, erase_lookUpInitializeLoader, h, pure_bind]
  rfl

theorem erase_lookUpFunctions_of_ok {forwarded : Bool}
    (h : forwardExported param library
      (manifest.getFunctionName "xrInitializeLoaderKHR".toList) = .ok forwarded) :
    erase (lookUpFunctions param manifest negotiate (some (number, library)) failed settle) =
      pure (settle forwarded (library.negotiate (manifest.getFunctionName negotiate))) := by
  unfold lookUpFunctions
  rw [erase_bind, erase_lookUpInitializeLoader, h, pure_bind]
  rfl

end Functions

section Trying
variable {α : Type} {opened : ℕ → Option (Library Request)} {absent : β}
  {lookUp : LoaderInitData → LoaderPlatformLibraryHandle Request → Looking α}
  {finish : ℕ → α → Loader β} {w : World}

theorem erase_tryLibrary_of_none (h : opened w.clock = none) :
    erase (tryLibrary opened absent lookUp finish) w = .ok absent w.tick := by
  have hopen := erase_loaderPlatformLibraryOpen opened w
  rw [h] at hopen
  unfold tryLibrary
  rw [erase_bind, bind_of_ok hopen]
  rfl

theorem erase_tryLibrary_of_some {library : Library Request} {outcome : α}
    (h : opened w.clock = some library)
    (hlookUp : erase (lookUp w.initData (some (w.libraries.fresh, library))) = pure outcome) :
    erase (tryLibrary opened absent lookUp finish) w =
      finish w.libraries.fresh outcome { w.tick with libraries := w.libraries.opening } := by
  have hopen := erase_loaderPlatformLibraryOpen opened w
  rw [h] at hopen
  unfold tryLibrary
  rw [erase_bind, bind_of_ok hopen]
  dsimp only
  rw [erase_bind, erase_perform, bind_of_ok get_run, erase_bind]
  change (erase (lookUp w.initData _) >>= _) _ = _
  rw [hlookUp, pure_bind]
  rfl

end Trying

end Libraries

namespace RuntimeInterface

/-- Without initialization there is no platform parameter to be handed over. -/
theorem param_eq {requiresPlatformInit : Bool} {initData : LoaderInitData}
    (h : ¬ (requiresPlatformInit = true ∧ ¬ initData.initialized = true)) :
    (if initData.initialized then initData.getPlatformParam requiresPlatformInit else none) =
      initData.getPlatformParam requiresPlatformInit := by
  unfold LoaderInitData.getPlatformParam
  cases hi : initData.initialized <;> cases requiresPlatformInit <;> simp_all

theorem erase_lookUpRuntime (requiresPlatformInit : Bool) (manifest : RuntimeManifestFile)
    (initData : LoaderInitData) (number : ℕ) (library : Library XrNegotiateRuntimeRequest) :
    erase (lookUpRuntime requiresPlatformInit manifest initData (some (number, library))) =
      pure (negotiateRuntime requiresPlatformInit initData manifest library) := by
  unfold lookUpRuntime negotiateRuntime
  by_cases hinit : requiresPlatformInit = true ∧ ¬ initData.initialized = true
  · rw [if_pos hinit, if_pos hinit]
    rfl
  rw [if_neg hinit, if_neg hinit]
  dsimp only
  rw [param_eq hinit]
  cases hforward : forwardExported (initData.getPlatformParam requiresPlatformInit) library
      (manifest.getFunctionName "xrInitializeLoaderKHR".toList) with
  | error res => exact erase_lookUpFunctions_of_error hforward
  | ok forwarded => exact erase_lookUpFunctions_of_ok hforward

theorem erase_recordedTryLoadingSingleRuntime (env : Environment) (manifest : RuntimeManifestFile) :
    erase (recordedTryLoadingSingleRuntime env manifest) = tryLoadingSingleRuntime env manifest := by
  funext w
  unfold recordedTryLoadingSingleRuntime
  rw [tryLoadingSingleRuntime_eq]
  cases ho : env.openRuntime w.clock manifest.libraryPath with
  | none => exact erase_tryLibrary_of_none ho
  | some library =>
    rw [erase_tryLibrary_of_some ho (erase_lookUpRuntime _ _ _ _ _), Option.map_some]
    cases negotiateRuntime env.requiresPlatformInit w.initData manifest library <;> rfl

end RuntimeInterface

namespace ApiLayerInterface

theorem erase_lookUpLayer (requiresPlatformInit : Bool) (manifest : ApiLayerManifestFile)
    (initData : LoaderInitData) (number : ℕ) (library : Library XrNegotiateApiLayerRequest) :
    erase (lookUpLayer requiresPlatformInit manifest initData (some (number, library))) =
      pure (negotiateLayer requiresPlatformInit initData manifest library) := by
  unfold lookUpLayer negotiateLayer
  by_cases hinit : requiresPlatformInit = true ∧ ¬ initData.initialized = true
  · rw [if_pos hinit, if_pos hinit]
    rfl
  rw [if_neg hinit, if_neg hinit]
  dsimp only
  cases hforward : forwardExported (initData.getPlatformParam requiresPlatformInit) library
      (manifest.getFunctionName "xrInitializeLoaderKHR".toList) with
  | error res => exact erase_lookUpFunctions_of_error hforward
  | ok forwarded => exact erase_lookUpFunctions_of_ok hforward

theorem erase_recordedLoadLayer (env : Environment) (s : LoadState) (manifest : ApiLayerManifestFile) :
    erase (recordedLoadLayer env s manifest) = loadLayer env s manifest := by
  funext w
  unfold recordedLoadLayer
  rw [loadLayer_eq]
  cases ho : env.openLayer w.clock manifest.libraryPath with
  | none => exact erase_tryLibrary_of_none ho
  | some library =>
    rw [erase_tryLibrary_of_some ho (erase_lookUpLayer _ _ _ _ _), Option.map_some]
    cases negotiateLayer env.requiresPlatformInit w.initData manifest library <;> rfl

theorem erase_recordedLoadLayers (env : Environment) (manifests : List ApiLayerManifestFile)
    (s : LoadState) : erase (recordedLoadLayers env s manifests) = loadLayers env s manifests := by
  induction manifests generalizing s with
  | nil => rfl
  | cons manifest manifests ih =>
    unfold recordedLoadLayers loadLayers
    refine erase_bind_eq (erase_recordedLoadLayer env s manifest) fun loaded => ?_
    cases loaded with
    | error res => rfl
    | ok s => exact ih s

theorem erase_recordedLoadEnabledLayers (env : Environment) (enabling : Enabling) :
    erase (recordedLoadEnabledLayers env enabling) = loadEnabledLayers env enabling := by
  unfold recordedLoadEnabledLayers loadEnabledLayers
  refine erase_bind_eq (erase_recordedLoadLayers env _ _) fun loaded => ?_
  obtain ⟨early, s⟩ := loaded
  cases early <;> rfl

theorem erase_recordedLoadApiLayers (env : Environment) (count : ℕ)
    (names : Option (List StdString)) :
    erase (recordedLoadApiLayers env count names) = loadApiLayers env count names := by
  unfold recordedLoadApiLayers loadApiLayers
  refine erase_bind_eq rfl fun implicit => erase_bind_eq rfl fun explicit => erase_bind_eq rfl fun w => ?_
  cases if xrSucceeded explicit.1 then requestedLayers env w count names else some [] with
  | none => rfl
  | some requested => exact erase_recordedLoadEnabledLayers env _

end ApiLayerInterface

/-! ## What is looked up -/

/-- What is looked up in a library that has been opened for a manifest. -/
def lookupsIn {Request : Type} (requiresPlatformInit : Bool) (manifest : ManifestFile)
    (negotiate : StdString) (initData : LoaderInitData) (number : ℕ) (library : Library Request) :
    List Lookup :=
  if requiresPlatformInit ∧ ¬ initData.initialized then []
  else
    let param := initData.getPlatformParam requiresPlatformInit
    let initName := manifest.getFunctionName "xrInitializeLoaderKHR".toList
    (param.toList.map fun _ => ⟨manifest, some number, initName⟩) ++
      match forwardExported param library initName with
      | .error _ => []
      | .ok _ => [⟨manifest, some number, manifest.getFunctionName negotiate⟩]

section Libraries
variable {Request α β : Type}

theorem record_loaderPlatformLibraryOpen (opened : ℕ → Option (Library Request)) (w : World) :
    record (loaderPlatformLibraryOpen opened) w = [] := by
  unfold loaderPlatformLibraryOpen
  rw [record_perform_bind ask_run]
  cases opened w.clock <;> rfl

theorem record_lookUpInitializeLoader (param : Option XrLoaderInitInfoAndroidKHR)
    (manifest : ManifestFile) (number : ℕ) (library : Library Request) (w : World) :
    record (lookUpInitializeLoader param manifest (some (number, library))) w =
      param.toList.map fun _ =>
        ⟨manifest, some number, manifest.getFunctionName "xrInitializeLoaderKHR".toList⟩ := by
  unfold lookUpInitializeLoader
  cases param with
  | none => rfl
  | some p =>
    dsimp only
    rw [record_bind_of_ok rfl]
    cases (some (number, library)).bind fun l => l.2.exportedInitializeLoader
        (manifest.getFunctionName "xrInitializeLoaderKHR".toList) with
    | none => rfl
    | some initLoader =>
      dsimp only
      split_ifs <;> rfl

theorem record_lookUpFunctions {requiresPlatformInit : Bool} {initData : LoaderInitData}
    (hinit : ¬ (requiresPlatformInit = true ∧ ¬ initData.initialized = true))
    (manifest : ManifestFile) (negotiate : StdString) (number : ℕ) (library : Library Request)
    (failed : XrResult → α) (settle : Bool → Option (XrResult × Request) → α) (w : World) :
    record (lookUpFunctions (initData.getPlatformParam requiresPlatformInit) manifest negotiate
        (some (number, library)) failed settle) w =
      lookupsIn requiresPlatformInit manifest negotiate initData number library := by
  have herase := congrFun (erase_lookUpInitializeLoader
    (initData.getPlatformParam requiresPlatformInit) manifest number library) w
  unfold lookUpFunctions lookupsIn
  rw [if_neg hinit, record_bind_of_ok herase, record_lookUpInitializeLoader]
  dsimp only
  cases forwardExported (initData.getPlatformParam requiresPlatformInit) library
      (manifest.getFunctionName "xrInitializeLoaderKHR".toList) with
  | error res => rfl
  | ok forwarded => rfl

/-- Nothing else is looked up. -/
theorem record_tryLibrary {opened : ℕ → Option (Library Request)} {absent : β}
    {lookUp : LoaderInitData → LoaderPlatformLibraryHandle Request → Looking α}
    {finish : ℕ → α → Loader β} {outcome : LoaderInitData → ℕ → Library Request → α}
    {lookups : LoaderInitData → ℕ → Library Request → List Lookup}
    (herase : ∀ initData number library,
      erase (lookUp initData (some (number, library))) = pure (outcome initData number library))
    (hrecord : ∀ initData number library w,
      record (lookUp initData (some (number, library))) w = lookups initData number library)
    (w : World) : record (tryLibrary opened absent lookUp finish) w =
      ((opened w.clock).map (lookups w.initData w.libraries.fresh)).getD [] := by
  have hopen := erase_loaderPlatformLibraryOpen opened w
  unfold tryLibrary
  cases ho : opened w.clock with
  | none =>
    rw [ho] at hopen
    rw [record_bind_of_ok hopen, record_loaderPlatformLibraryOpen]
    rfl
  | some library =>
    rw [ho] at hopen
    rw [record_bind_of_ok hopen, record_loaderPlatformLibraryOpen, List.nil_append]
    dsimp only
    rw [record_perform_bind get_run, record_bind_of_ok (congrFun (herase _ _ _) _), hrecord]
    exact List.append_nil _

end Libraries

theorem RuntimeInterface.record_lookUpRuntime (requiresPlatformInit : Bool)
    (manifest : RuntimeManifestFile) (initData : LoaderInitData) (number : ℕ)
    (library : Library XrNegotiateRuntimeRequest) (w : World) :
    record (lookUpRuntime requiresPlatformInit manifest initData (some (number, library))) w =
      lookupsIn requiresPlatformInit manifest.toManifestFile
        "xrNegotiateLoaderRuntimeInterface".toList initData number library := by
  unfold lookUpRuntime
  by_cases hinit : requiresPlatformInit = true ∧ ¬ initData.initialized = true
  · unfold lookupsIn
    rw [if_pos hinit, if_pos hinit]
    rfl
  rw [if_neg hinit]
  dsimp only
  rw [param_eq hinit]
  exact record_lookUpFunctions hinit _ _ _ _ _ _ _

/-- All that is looked up for a runtime. -/
theorem RuntimeInterface.record_tryLoadingSingleRuntime (env : Environment)
    (manifest : RuntimeManifestFile) (w : World) :
    record (recordedTryLoadingSingleRuntime env manifest) w =
      ((env.openRuntime w.clock manifest.libraryPath).map
        (lookupsIn env.requiresPlatformInit manifest.toManifestFile
          "xrNegotiateLoaderRuntimeInterface".toList w.initData w.libraries.fresh)).getD [] :=
  record_tryLibrary (fun _ _ _ => erase_lookUpRuntime _ _ _ _ _) (record_lookUpRuntime _ _) w

theorem ApiLayerInterface.record_lookUpLayer (requiresPlatformInit : Bool)
    (manifest : ApiLayerManifestFile) (initData : LoaderInitData) (number : ℕ)
    (library : Library XrNegotiateApiLayerRequest) (w : World) :
    record (lookUpLayer requiresPlatformInit manifest initData (some (number, library))) w =
      lookupsIn requiresPlatformInit manifest.toManifestFile
        "xrNegotiateLoaderApiLayerInterface".toList initData number library := by
  unfold lookUpLayer
  by_cases hinit : requiresPlatformInit = true ∧ ¬ initData.initialized = true
  · unfold lookupsIn
    rw [if_pos hinit, if_pos hinit]
    rfl
  rw [if_neg hinit]
  exact record_lookUpFunctions hinit _ _ _ _ _ _ _

/-- All that is looked up in one round of the loop. -/
theorem ApiLayerInterface.record_loadLayer (env : Environment) (s : LoadState)
    (manifest : ApiLayerManifestFile) (w : World) :
    record (recordedLoadLayer env s manifest) w =
      ((env.openLayer w.clock manifest.libraryPath).map
        (lookupsIn env.requiresPlatformInit manifest.toManifestFile
          "xrNegotiateLoaderApiLayerInterface".toList w.initData w.libraries.fresh)).getD [] :=
  record_tryLibrary (fun _ _ _ => erase_lookUpLayer _ _ _ _ _) (record_lookUpLayer _ _) w

/-! ## What is permitted -/

/-- Neither name that the loader goes by is empty. -/
def NamesNonempty (requiresPlatformInit : Bool) (negotiate : StdString) (manifest : ManifestFile) :
    Prop :=
  manifest.getFunctionName negotiate ≠ [] ∧
    (requiresPlatformInit = true →
      manifest.getFunctionName "xrInitializeLoaderKHR".toList ≠ [])

section Permitted
variable {Request : Type} {requiresPlatformInit : Bool} {initData : LoaderInitData}
  {manifest : ManifestFile} {negotiate : StdString} {number : ℕ} {library : Library Request}

/-- The library is the one that has been opened, whatever the manifest says. -/
theorem origin_of_mem_lookupsIn {l : Lookup}
    (hl : l ∈ lookupsIn requiresPlatformInit manifest negotiate initData number library) :
    l.manifest = manifest ∧ l.library = some number := by
  unfold lookupsIn at hl
  split_ifs at hl with hinit
  · cases hl
  rcases List.mem_append.mp hl with hl | hl
  · obtain ⟨p, -, rfl⟩ := List.mem_map.mp hl
    exact ⟨rfl, rfl⟩
  · split at hl
    · cases hl
    · rw [List.mem_singleton] at hl
      subst hl
      exact ⟨rfl, rfl⟩

/-- In a library that has been opened, the first name is looked up only with a platform
parameter, and the second one only if no forwarded call has failed. -/
theorem lookupsIn_permitted_iff
    (hinit : ¬ (requiresPlatformInit = true ∧ ¬ initData.initialized = true)) :
    (∀ l ∈ lookupsIn requiresPlatformInit manifest negotiate initData number library,
        l.Permitted) ↔
      (requiresPlatformInit = true →
        manifest.getFunctionName "xrInitializeLoaderKHR".toList ≠ []) ∧
      ((∃ forwarded, forwardExported (initData.getPlatformParam requiresPlatformInit) library
          (manifest.getFunctionName "xrInitializeLoaderKHR".toList) = .ok forwarded) →
        manifest.getFunctionName negotiate ≠ []) := by
  have hpermitted : ∀ name, Lookup.Permitted ⟨manifest, some number, name⟩ ↔ name ≠ [] :=
    fun name => ⟨fun h => h.name, fun h => ⟨by simp, h⟩⟩
  unfold lookupsIn
  rw [if_neg hinit]
  dsimp only
  rw [List.forall_mem_append]
  apply and_congr
  · cases requiresPlatformInit with
    | false => simp [LoaderInitData.getPlatformParam]
    | true => simp [LoaderInitData.getPlatformParam, hpermitted]
  · cases forwardExported (initData.getPlatformParam requiresPlatformInit) library
        (manifest.getFunctionName "xrInitializeLoaderKHR".toList) with
    | error res => simp
    | ok forwarded => simp [hpermitted]

theorem NamesNonempty.permitted (h : NamesNonempty requiresPlatformInit negotiate manifest) :
    ∀ l ∈ lookupsIn requiresPlatformInit manifest negotiate initData number library,
      l.Permitted := by
  by_cases hinit : requiresPlatformInit = true ∧ ¬ initData.initialized = true
  · unfold lookupsIn
    rw [if_pos hinit]
    simp
  · exact (lookupsIn_permitted_iff hinit).mpr ⟨h.2, fun _ => h.1⟩

end Permitted

/-! ## Runs -/

section Runs
variable {p : Lookup → Prop} {env : Environment}

/-- What is looked up is looked up in some library. -/
theorem exists_library_of_mem {Request : Type} {library? : Option (Library Request)}
    {lookups : Library Request → List Lookup} {l : Lookup}
    (hl : l ∈ (library?.map lookups).getD []) : ∃ library, l ∈ lookups library := by
  cases library? with
  | none => cases hl
  | some library => exact ⟨library, hl⟩

/-- What holds of the lookups in every library holds of a run. -/
theorem RuntimeInterface.enters_tryLoadingSingleRuntime {manifest : RuntimeManifestFile}
    (h : ∀ initData number (library : Library XrNegotiateRuntimeRequest),
      ∀ l ∈ lookupsIn env.requiresPlatformInit manifest.toManifestFile
        "xrNegotiateLoaderRuntimeInterface".toList initData number library, p l) :
    Enters p (recordedTryLoadingSingleRuntime env manifest) := by
  intro w l hl
  rw [record_tryLoadingSingleRuntime] at hl
  obtain ⟨library, hl⟩ := exists_library_of_mem hl
  exact h _ _ library l hl

namespace ApiLayerInterface

variable (h : ∀ (manifest : ApiLayerManifestFile) initData number
    (library : Library XrNegotiateApiLayerRequest),
  ∀ l ∈ lookupsIn env.requiresPlatformInit manifest.toManifestFile
    "xrNegotiateLoaderApiLayerInterface".toList initData number library, p l)

include h

theorem enters_loadLayer (s : LoadState) (manifest : ApiLayerManifestFile) :
    Enters p (recordedLoadLayer env s manifest) := by
  intro w l hl
  rw [record_loadLayer] at hl
  obtain ⟨library, hl⟩ := exists_library_of_mem hl
  exact h manifest _ _ library l hl

theorem enters_loadLayers (manifests : List ApiLayerManifestFile) (s : LoadState) :
    Enters p (recordedLoadLayers env s manifests) := by
  induction manifests generalizing s with
  | nil => exact Enters.pure _
  | cons manifest manifests ih =>
    unfold recordedLoadLayers
    refine (enters_loadLayer h s manifest).bind fun loaded => ?_
    cases loaded with
    | error res => exact Enters.pure _
    | ok s => exact ih s

/-- What holds of the lookups in every library holds of a run. -/
theorem enters_loadApiLayers (count : ℕ) (names : Option (List StdString)) :
    Enters p (recordedLoadApiLayers env count names) := by
  unfold recordedLoadApiLayers
  refine (Enters.perform _).bind fun implicit => (Enters.perform _).bind fun explicit =>
    (Enters.perform _).bind fun w => ?_
  cases if xrSucceeded explicit.1 then requestedLayers env w count names else some [] with
  | none => exact Enters.pure _
  | some requested => exact (enters_loadLayers h _ _).bind fun loaded => Enters.perform _

end ApiLayerInterface

/-- No manifest leads to a lookup in a null library. -/
theorem lookups_library (env : Environment) :
    (∀ manifest, Enters (·.library ≠ none)
      (RuntimeInterface.recordedTryLoadingSingleRuntime env manifest)) ∧
    ∀ count names, Enters (·.library ≠ none)
      (ApiLayerInterface.recordedLoadApiLayers env count names) := by
  constructor
  · intro manifest
    refine RuntimeInterface.enters_tryLoadingSingleRuntime fun _ number _ l hl => ?_
    rw [(origin_of_mem_lookupsIn hl).2]
    exact Option.some_ne_none number
  · intro count names
    refine ApiLayerInterface.enters_loadApiLayers (fun _ _ number _ l hl => ?_) count names
    rw [(origin_of_mem_lookupsIn hl).2]
    exact Option.some_ne_none number

end Runs

/-! ## Accepted manifests -/

/-- A runtime manifest that has been read from a JSON value. -/
structure AcceptedRuntime where
  fs : FileSystem
  root : Value
  filename : StdString
  manifestFiles : List RuntimeManifestFile
  manifest : RuntimeManifestFile
  accepted : RuntimeManifestFile.createIfValid fs root filename manifestFiles =
    .ok (manifestFiles ++ [manifest])

/-- A layer manifest that has been read from a JSON value. -/
structure AcceptedApiLayer where
  fs : FileSystem
  props : LoaderProperty
  locate : LibraryLocator
  type : ManifestFileType
  root : Value
  filename : StdString
  manifestFiles : List ApiLayerManifestFile
  manifest : ApiLayerManifestFile
  accepted : ApiLayerManifestFile.createIfValid fs props locate type root filename manifestFiles =
    .ok (manifestFiles ++ [manifest])

/-- In a section of functions, no name that the loader goes by is changed to the empty name. -/
def RenamesProperly (requiresPlatformInit : Bool) (negotiate : StdString) (node : Value) : Prop :=
  ManifestFile.renamedTo? node negotiate ≠ some [] ∧
    (requiresPlatformInit = true →
      ManifestFile.renamedTo? node "xrInitializeLoaderKHR".toList ≠ some [])

theorem getFunctionName_eq_nil {manifest : ManifestFile} {node : Value}
    (h : manifest.CompleteFor node) {funcName : StdString} (hname : funcName ≠ []) :
    manifest.getFunctionName funcName = [] ↔ ManifestFile.renamedTo? node funcName = some [] := by
  unfold ManifestFile.getFunctionName
  rw [h.functionsRenamed]
  cases ManifestFile.renamedTo? node funcName with
  | none => simp [hname]
  | some name => simp

theorem namesNonempty_iff {manifest : ManifestFile} {node : Value} (h : manifest.CompleteFor node)
    (requiresPlatformInit : Bool) (negotiate : StdString) (hname : negotiate ≠ []) :
    NamesNonempty requiresPlatformInit negotiate manifest ↔
      RenamesProperly requiresPlatformInit negotiate node := by
  unfold NamesNonempty RenamesProperly
  rw [ne_eq, ne_eq, getFunctionName_eq_nil h hname, getFunctionName_eq_nil h (by decide)]

/-- A value without members is not read as a manifest. -/
theorem isValidJson_of_not_accessible {root : Value} (h : ¬ root.Accessible) :
    ManifestFile.isValidJson root = .error .exception := by
  unfold ManifestFile.isValidJson
  rw [Value.member_of_not_accessible h]
  rfl

theorem Appends.eq_some {α : Type} {create : List α → Except Fault (List α)} {new : Option α}
    (h : Appends create new) {before : List α} {a : α} (ha : create before = .ok (before ++ [a])) :
    new = some a := by
  rw [h before] at ha
  have hnew := List.append_cancel_left (Except.ok.inj ha)
  cases new with
  | none => cases hnew
  | some b =>
    cases hnew
    rfl

theorem AcceptedRuntime.complete (r : AcceptedRuntime) :
    r.manifest.toManifestFile.CompleteFor (RuntimeManifestFile.runtimeNode r.root) := by
  have haccepted := r.accepted
  have hroot : r.root.Accessible := by
    by_contra hroot
    unfold RuntimeManifestFile.createIfValid at haccepted
    rw [isValidJson_of_not_accessible hroot] at haccepted
    cases haccepted
  by_cases hshape : RuntimeManifestFile.WellShaped r.fs r.root r.filename
  · obtain ⟨new, hnew, hcomplete⟩ := RuntimeManifestFile.createIfValid_appends hroot hshape
    exact (hcomplete _ (hnew.eq_some haccepted)).common
  · rw [RuntimeManifestFile.createIfValid_error hroot hshape] at haccepted
    cases haccepted

theorem AcceptedApiLayer.complete (a : AcceptedApiLayer) :
    a.manifest.toManifestFile.CompleteFor (ApiLayerManifestFile.layerNode a.root) := by
  have haccepted := a.accepted
  have hroot : a.root.Accessible := by
    by_contra hroot
    unfold ApiLayerManifestFile.createIfValid at haccepted
    rw [isValidJson_of_not_accessible hroot] at haccepted
    cases haccepted
  by_cases hshape :
      ApiLayerManifestFile.WellShaped a.fs a.props a.locate a.type a.root a.filename
  · obtain ⟨new, hnew, hcomplete⟩ := ApiLayerManifestFile.createIfValid_appends hroot hshape
    exact (hcomplete _ (hnew.eq_some haccepted)).common
  · obtain ⟨fault, hfault⟩ := ApiLayerManifestFile.createIfValid_error hroot hshape a.manifestFiles
    rw [haccepted] at hfault
    cases hfault

/-! ## Where every name is looked up -/

def Library.empty (Request : Type) : Library Request :=
  ⟨fun _ => none, fun _ => none, (xrErrorFunctionUnsupported, none)⟩

def Environment.opening (requiresPlatformInit : Bool) (layers : List ApiLayerManifestFile) :
    Environment :=
  { Environment.bare with
    requiresPlatformInit := requiresPlatformInit
    findLayerManifests := fun _ type =>
      .ok (xrSuccess, if type = .implicitApiLayer then layers else [])
    openRuntime := fun _ _ => some (Library.empty _)
    openLayer := fun _ _ => some (Library.empty _) }

def World.afterInitialization : World :=
  { World.initial (LoaderLogger.new false false []) with initData := ⟨true, ⟨1, 1⟩, 1, []⟩ }

theorem lookupsIn_empty_permitted_iff {Request : Type} (requiresPlatformInit : Bool)
    {w : World} (hw : w.initData.initialized = true) (manifest : ManifestFile)
    (negotiate : StdString) (number : ℕ) :
    (∀ l ∈ lookupsIn requiresPlatformInit manifest negotiate w.initData number
        (Library.empty Request), l.Permitted) ↔
      NamesNonempty requiresPlatformInit negotiate manifest := by
  have hforward : ∃ forwarded, forwardExported (w.initData.getPlatformParam requiresPlatformInit)
      (Library.empty Request) (manifest.getFunctionName "xrInitializeLoaderKHR".toList) =
        .ok forwarded := by
    refine ⟨false, ?_⟩
    cases w.initData.getPlatformParam requiresPlatformInit <;> rfl
  rw [lookupsIn_permitted_iff (by simp [hw])]
  unfold NamesNonempty
  constructor
  · rintro ⟨hinit, hnegotiate⟩
    exact ⟨hnegotiate hforward, hinit⟩
  · rintro ⟨hnegotiate, hinit⟩
    exact ⟨hinit, fun _ => hnegotiate⟩

theorem AcceptedRuntime.permitted_iff (r : AcceptedRuntime) (requiresPlatformInit : Bool) :
    (∀ env w, env.requiresPlatformInit = requiresPlatformInit →
      ∀ l ∈ record (RuntimeInterface.recordedTryLoadingSingleRuntime env r.manifest) w,
        l.Permitted) ↔
      RenamesProperly requiresPlatformInit "xrNegotiateLoaderRuntimeInterface".toList
        (RuntimeManifestFile.runtimeNode r.root) := by
  have hnames := namesNonempty_iff r.complete requiresPlatformInit
    "xrNegotiateLoaderRuntimeInterface".toList (by decide)
  rw [← hnames]
  constructor
  · intro h
    have hrun := h (.opening requiresPlatformInit []) .afterInitialization rfl
    rw [RuntimeInterface.record_tryLoadingSingleRuntime] at hrun
    exact (lookupsIn_empty_permitted_iff requiresPlatformInit rfl _ _ _).mp hrun
  · rintro h env w rfl
    exact RuntimeInterface.enters_tryLoadingSingleRuntime (fun _ _ _ => h.permitted) w

/-- The only layer there is is loaded. -/
theorem mem_record_loadApiLayers {requiresPlatformInit : Bool} {m : ApiLayerManifestFile}
    {l : Lookup} (hl : l ∈ lookupsIn requiresPlatformInit m.toManifestFile
      "xrNegotiateLoaderApiLayerInterface".toList World.afterInitialization.initData 0
        (Library.empty XrNegotiateApiLayerRequest)) :
    l ∈ record (ApiLayerInterface.recordedLoadApiLayers (.opening requiresPlatformInit [m]) 0 none)
      .afterInitialization := by
  change l ∈ record (ApiLayerInterface.recordedLoadEnabledLayers (.opening requiresPlatformInit [m])
    ⟨[m.layerName], [m], [], true⟩) World.afterInitialization.tick.tick
  refine mem_record_bind (mem_record_bind ?_)
  rw [ApiLayerInterface.record_loadLayer]
  exact hl

theorem AcceptedApiLayer.permitted_iff (a : AcceptedApiLayer) (requiresPlatformInit : Bool) :
    (∀ env w count names, env.requiresPlatformInit = requiresPlatformInit →
      ∀ l ∈ record (ApiLayerInterface.recordedLoadApiLayers env count names) w,
        l.manifest = a.manifest.toManifestFile → l.Permitted) ↔
      RenamesProperly requiresPlatformInit "xrNegotiateLoaderApiLayerInterface".toList
        (ApiLayerManifestFile.layerNode a.root) := by
  have hnames := namesNonempty_iff a.complete requiresPlatformInit
    "xrNegotiateLoaderApiLayerInterface".toList (by decide)
  rw [← hnames]
  constructor
  · intro h
    have hrun := h (.opening requiresPlatformInit [a.manifest]) .afterInitialization 0 none rfl
    have hlookups : ∀ l ∈ lookupsIn requiresPlatformInit a.manifest.toManifestFile
        "xrNegotiateLoaderApiLayerInterface".toList World.afterInitialization.initData 0
        (Library.empty XrNegotiateApiLayerRequest), l.Permitted :=
      fun l hl => hrun l (mem_record_loadApiLayers hl) (origin_of_mem_lookupsIn hl).1
    exact (lookupsIn_empty_permitted_iff requiresPlatformInit rfl _ _ 0).mp hlookups
  · rintro h env w count names rfl l hl
    refine ApiLayerInterface.enters_loadApiLayers
      (p := fun l => l.manifest = a.manifest.toManifestFile → l.Permitted)
      (fun m initData number library l hl hm => ?_) count names w l hl
    rw [← hm, (origin_of_mem_lookupsIn hl).1] at h
    exact h.permitted l hl

/-- The assertions hold on every occasion exactly for the manifests that change no name that is
looked up to the empty name. -/
theorem lookups_permitted_iff (requiresPlatformInit : Bool) :
    (∀ r : AcceptedRuntime,
      (∀ env w, env.requiresPlatformInit = requiresPlatformInit →
        ∀ l ∈ record (RuntimeInterface.recordedTryLoadingSingleRuntime env r.manifest) w,
          l.Permitted) ↔
        RenamesProperly requiresPlatformInit "xrNegotiateLoaderRuntimeInterface".toList
          (RuntimeManifestFile.runtimeNode r.root)) ∧
    ∀ a : AcceptedApiLayer,
      (∀ env w count names, env.requiresPlatformInit = requiresPlatformInit →
        ∀ l ∈ record (ApiLayerInterface.recordedLoadApiLayers env count names) w,
          l.manifest = a.manifest.toManifestFile → l.Permitted) ↔
        RenamesProperly requiresPlatformInit "xrNegotiateLoaderApiLayerInterface".toList
          (ApiLayerManifestFile.layerNode a.root) :=
  ⟨fun r => r.permitted_iff requiresPlatformInit, fun a => a.permitted_iff requiresPlatformInit⟩

def namelessRuntime : AcceptedRuntime where
  fs := uniformFileSystem []
  root := .object [("file_format_version".toList, .string "1.0.0".toList),
    ("runtime".toList, .object [("library_path".toList, .string "libruntime.so".toList),
      ("functions".toList, .object [("xrNegotiateLoaderRuntimeInterface".toList, .string [])])])]
  filename := "runtime.json".toList
  manifestFiles := []
  manifest := ⟨⟨"runtime.json".toList, .runtime, "libruntime.so".toList, [],
    UnorderedMap.emplace "xrNegotiateLoaderRuntimeInterface".toList [] ∅⟩⟩
  accepted := rfl

theorem namelessRuntime_not_permitted :
    ∃ l ∈ record (RuntimeInterface.recordedTryLoadingSingleRuntime (.opening false [])
        namelessRuntime.manifest) (World.initial (LoaderLogger.new false false [])),
      l.library = some 0 ∧ l.name = [] ∧ ¬ l.Permitted := by
  refine ⟨⟨namelessRuntime.manifest.toManifestFile, some 0, []⟩, ?_, rfl, rfl, fun h => h.name rfl⟩
  rw [RuntimeInterface.record_tryLoadingSingleRuntime]
  exact List.mem_singleton.mpr rfl

end OpenXRSdk
