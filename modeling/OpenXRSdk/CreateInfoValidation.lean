import OpenXRSdk.InstanceCreateInfo
import OpenXRSdk.LoadingAnswers

/-!
# Where an invalid create info is stopped

The reads of the two arrays of names are made explicit, and a call with an invalid create
info is followed to the terminator that validates it.
-/
namespace OpenXRSdk

open StateProgram

/-! ## Reading the arrays -/

/-- Read the elements of an array; `onNull` is what comes of reading a null one. -/
def readArray (onNull : Loader (List StdString)) (count : ℕ) (names : Option (List StdString)) :
    Loader (List StdString) :=
  if count = 0 then return []
  else
    match names with
    | none => onNull
    | some names => return names.take count

namespace ApiLayerInterface

/-- `LoadApiLayers` with the read of the application's names. -/
def loadApiLayersReading (onNull : Loader (List StdString)) (env : Environment) (count : ℕ)
    (names : Option (List StdString)) : Loader (XrResult × List ApiLayerInterface) := do
  let (result, implicit) ← findManifestFiles env .implicitApiLayer
  let (result, explicit) ← findUnlessFailed env result .explicitApiLayer
  let w ← get
  if xrSucceeded result then
    if count ≠ 0 ∧ names = none then return (xrErrorValidationFailure, [])
    let applicationNames ← readArray onNull count names
    loadEnabledLayers env
      (enableLayers implicit explicit (environmentApiLayers env w ++ applicationNames))
  else loadEnabledLayers env (enableLayers implicit explicit [])

/-- The array is checked before it is read. -/
theorem loadApiLayersReading_eq (onNull : Loader (List StdString)) (env : Environment) (count : ℕ)
    (names : Option (List StdString)) :
    loadApiLayersReading onNull env count names = loadApiLayers env count names := by
  funext w
  unfold loadApiLayersReading loadApiLayers
  refine bind_congr_of_ok fun implicit w₁ _ => bind_congr_of_ok fun explicit w₂ _ =>
    bind_congr_of_ok fun w₃ w₄ _ => ?_
  obtain ⟨_, implicit⟩ := implicit
  obtain ⟨found, explicit⟩ := explicit
  by_cases hs : xrSucceeded found
  · simp only [if_pos hs, requestedLayers, readArray]
    by_cases hcount : count = 0
    · simp [hcount]
    · cases names with
      | none => simp [hcount]
      | some names => simp [hcount]
  · simp only [if_neg hs]

end ApiLayerInterface

namespace LoaderInstance

/-- `CreateInstance`, once the names have been read. -/
def createFromNames (env : Environment) (layers : List ApiLayerInterface) (info : XrInstanceCreateInfo)
    (names : List StdString) : Loader (XrResult × Option LoaderInstance) := do
  let reply ← createChained env layers info names
  if xrFailed reply.result then
    ApiLayerInterface.destroyInterfaces layers
    return (reply.result, none)
  let loaderInstance ← construct env (reply.handle.getD xrNullHandle) names layers
  return (reply.result, some loaderInstance)

/-- `CreateInstance` with the read of the application's names. -/
def createInstanceReading (onNull : Loader (List StdString)) (env : Environment)
    (layers : List ApiLayerInterface) (info : XrInstanceCreateInfo) :
    Loader (XrResult × Option LoaderInstance) := do
  let names ← readArray onNull info.enabledExtensionCount info.enabledExtensionNames
  createFromNames env layers info names

theorem createInstance_of_names (env : Environment) (layers : List ApiLayerInterface)
    {info : XrInstanceCreateInfo} {names : List StdString}
    (h : arrayNames info.enabledExtensionCount info.enabledExtensionNames = some names) :
    createInstance env layers info = createFromNames env layers info names := by
  unfold createInstance
  rw [h]
  rfl

theorem createInstanceReading_of_names (onNull : Loader (List StdString)) (env : Environment)
    (layers : List ApiLayerInterface) {info : XrInstanceCreateInfo} {names : List StdString}
    (h : arrayNames info.enabledExtensionCount info.enabledExtensionNames = some names) :
    createInstanceReading onNull env layers info = createInstance env layers info := by
  rw [createInstance_of_names env layers h]
  unfold createInstanceReading readArray
  unfold arrayNames at h
  by_cases hcount : info.enabledExtensionCount = 0
  · rw [if_pos hcount] at h ⊢
    cases h
    rfl
  · rw [if_neg hcount] at h ⊢
    obtain ⟨ns, hns, rfl⟩ := Option.map_eq_some_iff.mp h
    rw [hns]
    rfl

end LoaderInstance

namespace LoaderCore

def loadRuntimeAndLayersReading (onNull : Loader (List StdString)) (env : Environment)
    (info : XrInstanceCreateInfo) : Loader (XrResult × List ApiLayerInterface) := do
  let result ← RuntimeInterface.loadRuntime env
  if xrFailed result then return (result, [])
  ApiLayerInterface.loadApiLayersReading onNull env info.enabledApiLayerCount info.enabledApiLayerNames

def createActiveInstanceReading (onNull : Loader (List StdString)) (env : Environment)
    (info : XrInstanceCreateInfo) : Loader (XrResult × List ApiLayerInterface) := do
  let (result, layers) ← loadRuntimeAndLayersReading onNull env info
  if xrFailed result then return (result, layers)
  let (result, loaderInstance) ← LoaderInstance.createInstanceReading onNull env layers info
  match loaderInstance with
  | none => return (result, [])
  | some loaderInstance => return (← ActiveLoaderInstance.set loaderInstance, [])

/-- What is left to do when an instance is active, or the call has failed. -/
def afterCreation (env : Environment) (info : XrInstanceCreateInfo) (result : XrResult)
    (layers : List ApiLayerInterface) : Loader Reply := do
  if xrFailed result then
    ActiveLoaderInstance.remove
    RuntimeInterface.unloadRuntime
    ApiLayerInterface.destroyInterfaces layers
    return ⟨result, none⟩
  match ← ActiveLoaderInstance.active with
  | none => undefinedBehaviour
  | some loaderInstance =>
    match messengerCreateInfo info.next with
    | none => return ⟨result, some loaderInstance.runtimeInstance⟩
    | some createInfo => createDefaultMessenger env createInfo loaderInstance.runtimeInstance

/-- `LoaderXrCreateInstance` with the reads of both arrays. -/
def createInstanceReading (onNull : Loader (List StdString)) (env : Environment)
    (info : Option XrInstanceCreateInfo) (inst : Bool) : Loader Reply :=
  abiTry ⟨xrErrorRuntimeFailure, none⟩
    (match info with
    | none => return ⟨xrErrorValidationFailure, none⟩
    | some info => do
      if isApiVersionUnsupported info.applicationInfo.apiVersion then
        return ⟨xrErrorApiVersionUnsupported, none⟩
      if !inst then return ⟨xrErrorValidationFailure, none⟩
      if ← ActiveLoaderInstance.isAvailable then return ⟨xrErrorLimitReached, none⟩
      let (result, layers) ← createActiveInstanceReading onNull env info
      afterCreation env info result layers)

theorem createWithoutActive_eq (env : Environment) (info : XrInstanceCreateInfo) :
    createWithoutActive env info =
      createActiveInstance env info >>= fun created => afterCreation env info created.1 created.2 :=
  rfl

section Reading
variable {onNull : Loader (List StdString)} {env : Environment} {info : XrInstanceCreateInfo}
  {inst : Bool} {w : World}

theorem abiTry_congr {α : Type} {caught : α} {x y : Loader α} (h : x w = y w) :
    abiTry caught x w = abiTry caught y w := by
  unfold abiTry
  rw [h]

theorem loadRuntimeAndLayersReading_eq (onNull : Loader (List StdString)) (env : Environment)
    (info : XrInstanceCreateInfo) :
    loadRuntimeAndLayersReading onNull env info = loadRuntimeAndLayers env info := by
  unfold loadRuntimeAndLayersReading
  simp only [ApiLayerInterface.loadApiLayersReading_eq]
  rfl

/-- The two differ only where the names of the extensions are read. -/
theorem createActiveInstanceReading_eq
    (h : ∀ result layers w₁, loadRuntimeAndLayers env info w = .ok (result, layers) w₁ →
      xrSucceeded result → LoaderInstance.createInstanceReading onNull env layers info w₁ =
        LoaderInstance.createInstance env layers info w₁) :
    createActiveInstanceReading onNull env info w = createActiveInstance env info w := by
  unfold createActiveInstanceReading createActiveInstance
  rw [loadRuntimeAndLayersReading_eq]
  refine bind_congr_of_ok fun loaded w₁ hloaded => ?_
  obtain ⟨result, layers⟩ := loaded
  by_cases hfail : xrFailed result
  · simp only [if_pos hfail]
  · simp only [if_neg hfail]
    exact bind_congr_left (h result layers w₁ hloaded (not_xrFailed.mp hfail))

theorem createInstanceReading_of_acceptable (h : Acceptable info inst w) :
    createInstanceReading onNull env (some info) inst w = abiTry ⟨xrErrorRuntimeFailure, none⟩
      (createActiveInstanceReading onNull env info >>= fun created =>
        afterCreation env info created.1 created.2) w := by
  obtain ⟨hversion, rfl, hactive⟩ := h
  have hrun := isAvailable_run w
  rw [hactive] at hrun
  refine abiTry_congr ?_
  dsimp only
  rw [if_neg (by simp [hversion]), if_neg (by simp), bind_of_ok hrun]
  rfl

/-- A call that is refused at once asks nothing of its surroundings. -/
theorem createInstanceReading_of_not_acceptable (h : ¬ Acceptable info inst w) (env' : Environment) :
    createInstanceReading onNull env (some info) inst w = createInstance env' (some info) inst w := by
  refine abiTry_congr ?_
  by_cases hversion : isApiVersionUnsupported info.applicationInfo.apiVersion = true
  · simp only [if_pos hversion]
  simp only [if_neg hversion]
  cases inst with
  | false => rfl
  | true =>
    refine bind_congr_of_ok fun available w₁ havailable => ?_
    rw [isAvailable_run] at havailable
    cases hactive : w.activeInstance with
    | some _ =>
      rw [hactive] at havailable
      cases havailable
      rfl
    | none => exact absurd ⟨by simpa using hversion, rfl, hactive⟩ h

theorem createInstanceReading_eq
    (h : Acceptable info inst w →
      createActiveInstanceReading onNull env info w = createActiveInstance env info w) :
    createInstanceReading onNull env (some info) inst w = createInstance env (some info) inst w := by
  by_cases hacc : Acceptable info inst w
  · rw [createInstanceReading_of_acceptable hacc, createInstance_of_acceptable hacc]
    exact abiTry_congr (bind_congr_left (h hacc))
  · exact createInstanceReading_of_not_acceptable hacc env

/-- Nothing stands in the way of the call, and the answers provide a runtime and the layers: it
comes to `LoaderInstance::CreateInstance`. -/
def Reaches (env : Environment) (info : XrInstanceCreateInfo) (inst : Bool) (w : World) : Prop :=
  Acceptable info inst w ∧ ∃ rt loaded u, Provides env info w rt loaded u

def MissesNames (info : XrInstanceCreateInfo) : Prop :=
  info.enabledExtensionCount ≠ 0 ∧ info.enabledExtensionNames = none

/-- Nothing depends on what the read of a null array would give. -/
def NeverReadsNull (env : Environment) (info : XrInstanceCreateInfo) (inst : Bool) (w : World) : Prop :=
  ∀ onNull, createInstanceReading onNull env (some info) inst w = createInstance env (some info) inst w

theorem arrayNames_of_not_missesNames (h : ¬ MissesNames info) :
    ∃ names, arrayNames info.enabledExtensionCount info.enabledExtensionNames = some names := by
  unfold arrayNames
  by_cases hcount : info.enabledExtensionCount = 0
  · exact ⟨[], if_pos hcount⟩
  · obtain ⟨names, hnames⟩ := Option.ne_none_iff_exists'.mp fun hnone => h ⟨hcount, hnone⟩
    exact ⟨_, by rw [if_neg hcount, hnames, Option.map_some]⟩

theorem neverReadsNull_of_reads (h : Reaches env info inst w → ¬ MissesNames info) :
    NeverReadsNull env info inst w := by
  intro onNull
  refine createInstanceReading_eq fun hacc => createActiveInstanceReading_eq ?_
  intro result layers w₁ hloaded hs
  obtain ⟨names, hnames⟩ := arrayNames_of_not_missesNames (h ⟨hacc, exists_provides_iff.mpr ⟨_, _, _, hloaded, hs⟩⟩)
  rw [LoaderInstance.createInstanceReading_of_names onNull env layers hnames]

theorem createInstanceReading_of_missesNames (hmisses : MissesNames info) (layers : List ApiLayerInterface) :
    LoaderInstance.createInstanceReading onNull env layers info =
      onNull >>= LoaderInstance.createFromNames env layers info := by
  unfold LoaderInstance.createInstanceReading readArray
  rw [if_neg hmisses.1, hmisses.2]

theorem createInstance_of_missesNames (hmisses : MissesNames info) (layers : List ApiLayerInterface) :
    LoaderInstance.createInstance env layers info = undefinedBehaviour := by
  unfold LoaderInstance.createInstance arrayNames
  rw [if_neg hmisses.1, hmisses.2]
  rfl

/-- The function as it is: a read of a null array has no defined behaviour. -/
theorem createInstanceReading_undefinedBehaviour (env : Environment) (info : XrInstanceCreateInfo)
    (inst : Bool) (w : World) :
    createInstanceReading undefinedBehaviour env (some info) inst w =
      createInstance env (some info) inst w := by
  refine createInstanceReading_eq fun hacc => createActiveInstanceReading_eq ?_
  intro result layers w₁ hloaded hs
  by_cases hmisses : MissesNames info
  · rw [createInstanceReading_of_missesNames hmisses, createInstance_of_missesNames hmisses]
    rfl
  · obtain ⟨names, hnames⟩ := arrayNames_of_not_missesNames hmisses
    rw [LoaderInstance.createInstanceReading_of_names _ env layers hnames]

theorem reads_of_neverReadsNull (h : NeverReadsNull env info inst w) (hreaches : Reaches env info inst w) :
    ¬ MissesNames info := by
  intro hmisses
  obtain ⟨hacc, hprovides⟩ := hreaches
  obtain ⟨result, layers, w₁, hloaded, hs⟩ := exists_provides_iff.mp hprovides
  have hread : createActiveInstanceReading (throw .exception) env info w = .error .exception w₁ := by
    unfold createActiveInstanceReading
    rw [loadRuntimeAndLayersReading_eq, bind_of_ok hloaded]
    simp only [if_neg (not_xrFailed.mpr hs), createInstanceReading_of_missesNames hmisses]
    rfl
  have hundefined : createActiveInstance env info w = .error .undefinedBehaviour w₁ := by
    unfold createActiveInstance
    rw [bind_of_ok hloaded]
    simp only [if_neg (not_xrFailed.mpr hs), createInstance_of_missesNames hmisses]
    rfl
  have hcalled := h (throw .exception)
  rw [createInstanceReading_of_acceptable hacc, createInstance_of_acceptable hacc,
    abiTry_eq_ok.mpr (Or.inr ⟨bind_eq_error.mpr (Or.inl hread), rfl⟩)] at hcalled
  have hcreated : createWithoutActive env info w = .error .undefinedBehaviour w₁ :=
    bind_eq_error.mpr (Or.inl hundefined)
  rcases abiTry_eq_ok.mp hcalled.symm with hrun | ⟨hrun, -⟩ <;>
  · rw [hcreated] at hrun
    cases hrun

end Reading

end LoaderCore

/-! ## Rejected create infos -/

/-- The functions of the runtime behave otherwise. -/
def Environment.withCalls (env : Environment) (call : ℕ → ℕ → TermCall → Reply) : Environment :=
  { env with callRuntime := call }

namespace LoaderCore

/-- The function of each layer hands the create info down the chain as it is. -/
structure LayersForward (env : Environment) : Prop where
  functions : ApiLayerInterface.RespondsIn
    {r | xrSucceeded r.1 → ∃ f, r.2.createApiLayerInstance = .foreign f} env
  forwards : ∀ t f info nextInfo,
    env.createApiLayerInstance t f info nextInfo = .forward (.createInstance info)

/-- The call fails, and does not depend on what the functions of the runtime would do. -/
def Rejected (env : Environment) (info : XrInstanceCreateInfo) (inst : Bool) (w : World) : Prop :=
  ∃ reply w', xrFailed reply.result ∧
    ∀ call, createInstance (env.withCalls call) (some info) inst w = .ok reply w'

/-- What is handed down is as invalid as what the application gave. -/
theorem validate_handedDown (rt : RuntimeInterface) {info : XrInstanceCreateInfo}
    (names : List StdString) (h : ¬ MissesNames info) :
    validateInstanceCreateInfo (LoaderInstance.handedDown rt info names) =
      validateInstanceCreateInfo info := by
  unfold LoaderInstance.handedDown
  by_cases hcount : info.enabledExtensionCount = 0
  · rw [if_pos hcount]
  rw [if_neg hcount, InstanceCreateInfoManager.get_update]
  generalize LoaderInstance.filterOutExtensions names (LoaderInstance.extensionsToSkip rt) = rest
  have hrest : ¬ (rest.length ≠ 0 ∧ (if rest = [] then none else some rest) = none) := by
    cases rest <;> simp
  unfold validateInstanceCreateInfo
  dsimp only
  rw [if_neg hrest, if_neg (show ¬ (_ ∧ _) from h)]

/-- The call goes straight to the terminator. -/
theorem callChain_of_forwards (env : Environment) {layers : List ApiLayerInterface}
    (hlayers : ∀ layer ∈ layers, ∃ f, layer.createApiLayerInstance = .foreign f)
    (hforwards : ∀ t f info nextInfo,
      env.createApiLayerInstance t f info nextInfo = .forward (.createInstance info))
    (info : XrInstanceCreateInfo) (w : World) : LoaderInstance.callChain env layers info w =
      termCreateInstance env info { w with clock := w.clock + if layers.isEmpty then 0 else 1 } := by
  cases layers with
  | nil => rfl
  | cons layer layers =>
    obtain ⟨f, hf⟩ := hlayers layer List.mem_cons_self
    change LoaderInstance.callCreateApiLayerInstance env layer.createApiLayerInstance info _ w = _
    rw [hf]
    change (CallTree.run (terminate env) (env.createApiLayerInstance _ f info _)) w.tick = _
    rw [hforwards, CallTree.run_forward]
    rfl

section Rejecting
variable {env : Environment} {info : XrInstanceCreateInfo} {layers : List ApiLayerInterface}
  (hlayers : ∀ layer ∈ layers, ∃ f, layer.createApiLayerInstance = .foreign f)
  (hforwards : ∀ t f info nextInfo,
    env.createApiLayerInstance t f info nextInfo = .forward (.createInstance info))
  (hinvalid : xrFailed (validateInstanceCreateInfo info))
include hlayers hforwards hinvalid

/-- The terminator rejects what the support check lets through. -/
theorem createChained_rejected (names : List StdString) (hnames : ¬ MissesNames info) {w : World}
    {rt : RuntimeInterface} (hruntime : w.runtime = some rt) :
    ∃ reply c, xrFailed reply.result ∧ ∀ call,
      LoaderInstance.createChained (env.withCalls call) layers info names w =
        .ok reply { w with clock := c } := by
  by_cases hsupported : names.all (LoaderInstance.isSupported rt layers) = true
  · have hvalidate := validate_handedDown rt names hnames
    refine ⟨⟨validateInstanceCreateInfo info, none⟩, w.clock + if layers.isEmpty then 0 else 1,
      hinvalid, fun call => ?_⟩
    rw [LoaderInstance.createChained_run _ layers info names hruntime, if_pos hsupported,
      callChain_of_forwards (env.withCalls call) hlayers hforwards]
    unfold termCreateInstance
    rw [hvalidate, if_pos hinvalid]
    rfl
  · refine ⟨⟨xrErrorExtensionNotPresent, none⟩, w.clock, by decide, fun call => ?_⟩
    rw [LoaderInstance.createChained_run _ layers info names hruntime, if_neg hsupported]

theorem loaderInstance_rejected (hnames : ¬ MissesNames info) {w : World} {rt : RuntimeInterface}
    (hruntime : w.runtime = some rt) : ∃ result w', xrFailed result ∧ ∀ call,
      LoaderInstance.createInstance (env.withCalls call) layers info w =
        .ok (result, none) w' := by
  obtain ⟨names, harray⟩ := arrayNames_of_not_missesNames hnames
  obtain ⟨reply, c, hfailed, hchained⟩ :=
    createChained_rejected hlayers hforwards hinvalid names hnames hruntime
  obtain ⟨l, hdestroy, -⟩ := ApiLayerInterface.destroyInterfaces_run layers { w with clock := c }
  refine ⟨reply.result, { w with
      clock := c
      libraries := l }, hfailed, fun call => ?_⟩
  rw [LoaderInstance.createInstance_of_names _ layers harray]
  unfold LoaderInstance.createFromNames
  rw [bind_of_ok (hchained call), if_pos hfailed, bind_of_ok hdestroy]
  rfl

end Rejecting

/-- A failing call cleans up, whatever is around it. -/
theorem afterCreation_failed (info : XrInstanceCreateInfo) {result : XrResult} (h : xrFailed result)
    (layers : List ApiLayerInterface) (w : World) :
    ∃ w', ∀ env, afterCreation env info result layers w = .ok ⟨result, none⟩ w' := by
  obtain ⟨l, hrun, -⟩ := cleanUp_run layers w
  refine ⟨{ w with
      libraries := l
      runtime := none
      activeInstance := none }, fun env => ?_⟩
  unfold afterCreation
  rw [if_pos h]
  exact hrun _

section Calling
variable {env : Environment} {info : XrInstanceCreateInfo} {inst : Bool} {w : World}

theorem loadRuntimeAndLayers_withCalls (env : Environment) (call : ℕ → ℕ → TermCall → Reply)
    (info : XrInstanceCreateInfo) :
    loadRuntimeAndLayers (env.withCalls call) info = loadRuntimeAndLayers env info := by
  have hmanifests (lastError : XrResult) (manifests : List RuntimeManifestFile) :
      RuntimeInterface.tryManifests (env.withCalls call) lastError manifests =
        RuntimeInterface.tryManifests env lastError manifests := by
    induction manifests generalizing lastError with
    | nil => rfl
    | cons manifest manifests ih =>
      unfold RuntimeInterface.tryManifests
      simp only [ih]
      rfl
  have hruntime : RuntimeInterface.loadRuntime (env.withCalls call) =
      RuntimeInterface.loadRuntime env := by
    unfold RuntimeInterface.loadRuntime RuntimeInterface.tryFoundManifests
    simp only [hmanifests]
    rfl
  have hlayers (count : ℕ) (names : Option (List StdString)) :
      ApiLayerInterface.loadApiLayers (env.withCalls call) count names =
        ApiLayerInterface.loadApiLayers env count names := by
    have henabled : ApiLayerInterface.loadEnabledLayers (env.withCalls call) =
        ApiLayerInterface.loadEnabledLayers env := by
      funext enabling
      refine ApiLayerInterface.SameLibraries.loadEnabledLayers_eq ?_ enabling
      exact ⟨rfl, rfl⟩
    unfold ApiLayerInterface.loadApiLayers
    rw [henabled]
    rfl
  unfold loadRuntimeAndLayers
  rw [hruntime, hlayers]

/-- What was loaded has functions of its own, where the libraries give such. -/
theorem loadRuntimeAndLayers_foreign (hforward : LayersForward env) {result : XrResult}
    {layers : List ApiLayerInterface} {w' : World}
    (h : loadRuntimeAndLayers env info w = .ok (result, layers) w') :
    ∀ layer ∈ layers, ∃ f, layer.createApiLayerInstance = .foreign f := by
  obtain ⟨loaded, w₁, -, h⟩ := bind_eq_ok.mp h
  by_cases hfail : xrFailed loaded
  · rw [if_pos hfail] at h
    cases h
    simp
  · rw [if_neg hfail] at h
    exact ApiLayerInterface.loadApiLayers_forall hforward.functions
      (fun r hr hs _ _ _ => hr hs) h

theorem createActiveInstance_rejected (hforward : LayersForward env)
    (hinvalid : xrFailed (validateInstanceCreateInfo info))
    {result : XrResult} {layers : List ApiLayerInterface} {w₁ : World}
    (hloaded : loadRuntimeAndLayers env info w = .ok (result, layers) w₁)
    (hnames : xrSucceeded result → ¬ MissesNames info) :
    ∃ result' layers' w', xrFailed result' ∧ ∀ call,
      createActiveInstance (env.withCalls call) info w = .ok (result', layers') w' := by
  unfold createActiveInstance
  by_cases hfail : xrFailed result
  · refine ⟨result, layers, w₁, hfail, fun call => ?_⟩
    rw [loadRuntimeAndLayers_withCalls, bind_of_ok hloaded]
    simp only [if_pos hfail]
    rfl
  · have hspec := (loadRuntimeAndLayers_spec env info w).of_ok rfl hloaded
    obtain ⟨rt, hruntime⟩ := Option.isSome_iff_exists.mp (hspec.2 (not_xrFailed.mp hfail))
    obtain ⟨result', w', hfailed, hcreate⟩ := loaderInstance_rejected
      (loadRuntimeAndLayers_foreign hforward hloaded) hforward.forwards hinvalid
      (hnames (not_xrFailed.mp hfail)) hruntime
    refine ⟨result', [], w', hfailed, fun call => ?_⟩
    rw [loadRuntimeAndLayers_withCalls, bind_of_ok hloaded]
    simp only [if_neg hfail]
    rw [bind_of_ok (hcreate call)]
    rfl

theorem rejected_of_invalid (hforward : LayersForward env)
    (hinvalid : xrFailed (validateInstanceCreateInfo info))
    (hnames : Reaches env info inst w → ¬ MissesNames info)
    (hdefined : Acceptable info inst w → ¬ LoadsUndefined env w) : Rejected env info inst w := by
  by_cases hacc : Acceptable info inst w
  · have hactive (call : ℕ → ℕ → TermCall → Reply) :
        createInstance (env.withCalls call) (some info) inst w =
          abiTry ⟨xrErrorRuntimeFailure, none⟩ (createWithoutActive (env.withCalls call) info) w :=
      createInstance_of_acceptable hacc
    cases hloaded : loadRuntimeAndLayers env info w with
    | ok loaded w₁ =>
      obtain ⟨result, layers⟩ := loaded
      obtain ⟨result', layers', w', hfailed, hcreate⟩ := createActiveInstance_rejected hforward hinvalid
        hloaded fun hs => hnames ⟨hacc, exists_provides_iff.mpr ⟨result, layers, w₁, hloaded, hs⟩⟩
      obtain ⟨w'', hafter⟩ := afterCreation_failed info hfailed layers' w'
      refine ⟨⟨result', none⟩, w'', hfailed, fun call => ?_⟩
      rw [hactive call, createWithoutActive_eq, abiTry_eq_ok]
      exact Or.inl ((bind_of_ok (hcreate call)).trans (hafter _))
    | error fault w₁ =>
      cases fault with
      | undefinedBehaviour => exact absurd ((loadsUndefined_iff info).mpr ⟨w₁, hloaded⟩) (hdefined hacc)
      | exception =>
        refine ⟨⟨xrErrorRuntimeFailure, none⟩, w₁, by decide, fun call => ?_⟩
        rw [hactive call, createWithoutActive_eq, abiTry_eq_ok]
        refine Or.inr ⟨bind_eq_error.mpr (Or.inl (bind_eq_error.mpr (Or.inl ?_))), rfl⟩
        rw [loadRuntimeAndLayers_withCalls, hloaded]
  · have hsame (env' : Environment) : createInstance env' (some info) inst w =
        createInstanceReading undefinedBehaviour env (some info) inst w :=
      (createInstanceReading_of_not_acceptable hacc env').symm
    have hrefused : ∀ i ∈ some info, ¬ Acceptable i inst w := by
      rintro i ⟨⟩
      exact hacc
    obtain ⟨result, hfailed, hrun, -⟩ : ∃ result, xrFailed result ∧
        createInstance env (some info) inst w = .ok ⟨result, none⟩ w ∧ _ :=
      createInstance_of_not_acceptable hrefused
    refine ⟨⟨result, none⟩, w, hfailed, fun call => ?_⟩
    rw [hsame, ← hsame env, hrun]

theorem loadsDefined_of_rejected (h : Rejected env info inst w) (hacc : Acceptable info inst w) :
    ¬ LoadsUndefined env w := by
  intro hundefined
  obtain ⟨w₁, hloaded⟩ := (loadsUndefined_iff info).mp hundefined
  obtain ⟨reply, w', -, hrun⟩ := h
  have hcreated : createWithoutActive env info w = .error .undefinedBehaviour w₁ :=
    bind_eq_error.mpr (Or.inl (bind_eq_error.mpr (Or.inl hloaded)))
  have hactual : createInstance env (some info) inst w = .ok reply w' := hrun env.callRuntime
  rw [createInstance_of_acceptable hacc] at hactual
  rcases abiTry_eq_ok.mp hactual with hrun | ⟨hrun, -⟩ <;>
  · rw [hcreated] at hrun
    cases hrun

end Calling

open ApiLayerInterface LoaderInstance

def forwardingLayer : Environment := respondingWith (xrSuccess, ⟨1, 0, .foreign 1, .foreign 2⟩)

theorem layersForward_forwardingLayer : LayersForward forwardingLayer where
  functions := by
    rintro t path _ ⟨⟩ symbol _ ⟨⟩ -
    exact ⟨2, rfl⟩
  forwards _ _ _ _ := rfl

end LoaderCore

end OpenXRSdk
