import OpenXRSdk.DebugMessengers
import OpenXRSdk.LayerChain

/-!
# Participants that conform

What the interface asks of a runtime and of layers, and why the loader, as long as they keep to
it, does nothing undefined when it loads them and creates an instance with them.
-/
namespace OpenXRSdk.LoaderCore

open StateProgram World

/-! ## What is asked of them -/

/-- The functions `xrGetInstanceProcAddr` of the runtimes and of the layers that there are, and the
handles of the instances that the runtimes create. -/
structure Participants where
  runtimes : Set ℕ
  layers : Set ℕ
  instances : Set XrInstance

def IsOwn (function : Pfn) : Prop := function = .null ∨ ∃ f, function = .foreign f

/-- A function for a command that has a terminator: one of a layer, or the terminator itself. -/
def EndsInTerminator (command : Command) (function : Pfn) : Prop :=
  function = .term command ∨ ∃ f, function = .foreign f

/-- The commands that a runtime has for certain, as far as the loader calls them without looking. -/
def isRequired : Command → Bool
  | .destroyInstance => true
  | .destroySession => true
  | _ => false

def OwnTable (table : DispatchTable) : Prop :=
  ∀ command, IsOwn (table command) ∧ (isRequired command = true → ∃ f, table command = .foreign f)

def ChainTable (table : DispatchTable) : Prop :=
  ∀ command, if hasTerminator command then EndsInTerminator command (table command)
    else IsOwn (table command) ∧ (isRequired command = true → ∃ f, table command = .foreign f)

/-- The answers of a runtime about its extensions: the function is there, and it does not write
behind the end of the array. -/
def ReportsExtensions (query : ExtensionQuery) : Prop :=
  (∃ function, query.function.function = some function ∧ function ≠ .null) ∧
    (query.fill (query.count.2.getD 0)).2.2.length ≤ query.count.2.getD 0

/-- Manifests can be read, and what they lead to is a runtime or a layer with all that the
interface asks for. Functions that are asked for by name are those of the one who is asked, or
those that a layer has from below. -/
structure Conforms (p : Participants) (env : Environment) : Prop where
  layerManifests : ∀ t type, env.findLayerManifests t type ≠ .error .undefinedBehaviour
  runtimeManifests : ∀ t, env.findRuntimeManifests t ≠ .error .undefinedBehaviour
  runtime : ∀ t path library, env.openRuntime t path = some library → ∀ symbol result request,
    library.negotiate symbol = some (result, request) → xrSucceeded result →
      ∀ gipa ∈ request.getInstanceProcAddr, gipa ∈ p.runtimes
  layer : ∀ t path library, env.openLayer t path = some library → ∀ symbol result request,
    library.negotiate symbol = some (result, request) → xrSucceeded result →
      (∃ f ∈ p.layers, request.getInstanceProcAddr = .foreign f) ∧
        ∃ f, request.createApiLayerInstance = .foreign f
  extensions : ∀ t, ∀ gipa ∈ p.runtimes, ReportsExtensions (env.queryExtensions t gipa)
  creates : ∀ t, ∀ gipa ∈ p.runtimes, ∃ f,
    (env.getInstanceProcAddr t gipa xrNullHandle .createInstance).function = some (.foreign f)
  created : ∀ t f info, xrSucceeded (env.callRuntime t f (.createInstance info)).result →
    ∃ inst ∈ p.instances, (env.callRuntime t f (.createInstance info)).handle = some inst
  runtimeFunctions : ∀ t, ∀ gipa ∈ p.runtimes, ∀ inst ∈ p.instances,
    OwnTable (RuntimeInterface.functionsOf env gipa inst t)
  layerFunctions : ∀ t, ∀ gipa ∈ p.layers, ∀ inst ∈ p.instances,
    ChainTable (RuntimeInterface.functionsOf env gipa inst t)

/-- What a layer may answer when the loader negotiates with it. -/
def Negotiated (p : Participants) : Set (XrResult × XrNegotiateApiLayerRequest) :=
  { r | xrSucceeded r.1 → (∃ f ∈ p.layers, r.2.getInstanceProcAddr = .foreign f) ∧
    ∃ f, r.2.createApiLayerInstance = .foreign f }

/-- A loaded runtime, with tables that it has filled. -/
structure RuntimeConforms (p : Participants) (rt : RuntimeInterface) : Prop where
  gipa : rt.getInstanceProcAddr ∈ p.runtimes
  tables : ∀ inst, ∀ table ∈ rt.dispatchTableMap.lookup inst, OwnTable table

def IsTopmost (p : Participants) (gipa : Pfn) : Prop :=
  gipa = .term .getInstanceProcAddr ∨ ∃ f ∈ p.layers, gipa = .foreign f

structure InterfaceConforms (p : Participants) (iface : ApiLayerInterface) : Prop where
  gipa : ∃ f ∈ p.layers, iface.getInstanceProcAddr = .foreign f
  create : ∃ f, iface.createApiLayerInstance = .foreign f

structure InstanceConforms (p : Participants) (inst : LoaderInstance) : Prop where
  handle : inst.runtimeInstance ∈ p.instances
  gipa : IsTopmost p inst.topmostGipa
  table : ChainTable inst.dispatchTable

/-- The runtime and the instance that the loader holds, as far as there are any. -/
structure Conforming (p : Participants) (w : World) : Prop where
  runtime : ∀ rt ∈ w.runtime, RuntimeConforms p rt
  active : ∀ inst ∈ w.activeInstance, InstanceConforms p inst

def Ready (p : Participants) (w : World) : Prop := ∃ rt ∈ w.runtime, RuntimeConforms p rt

/-- If anything is thrown it is an exception, and the state is as it should be even then. -/
def ThrownIn (I : World → Prop) (fault : Fault) (w : World) : Prop := fault = .exception ∧ I w

section Triples
variable {α : Type} {I : World → Prop} {E : Fault → World → Prop} {p : Participants}

theorem triple_ask {answer : ℕ → α} {Q : α → World → Prop}
    (h : ∀ w, I w → Q (answer w.clock) w.tick) : Triple I (ask answer) Q E := fun w hw => h w hw

/-- Where there is a runtime it can be had. -/
theorem triple_getRuntime : Triple (Ready p) RuntimeInterface.getRuntime
    (fun rt w => w.runtime = some rt ∧ RuntimeConforms p rt) E := by
  rintro w ⟨rt, hrt, hconforms⟩
  rw [RuntimeInterface.getRuntime_of_some hrt]
  exact ⟨hrt, hconforms⟩

theorem triple_abiTry {P : World → Prop} {Q : α → World → Prop} {caught : α} {x : Loader α}
    (h : Triple P x Q (ThrownIn I)) (hcaught : ∀ w, I w → Q caught w) :
    Triple P (abiTry caught x) Q E := by
  intro w hw
  have := h w hw
  unfold abiTry
  cases hx : x w with
  | ok a t =>
    rw [hx] at this
    exact this
  | error fault t =>
    rw [hx] at this
    obtain ⟨rfl, ht⟩ := this
    exact hcaught t ht

end Triples

/-! ## Loading a runtime -/

/-- The loaded runtime conforms, if there is one. -/
def RuntimeGood (p : Participants) (w : World) : Prop := ∀ rt ∈ w.runtime, RuntimeConforms p rt

theorem Ready.good {p : Participants} {w : World} (h : Ready p w) : RuntimeGood p w := by
  obtain ⟨rt, hrt, hconforms⟩ := h
  intro rt' hrt'
  cases (Option.mem_def.mp hrt).symm.trans hrt'
  exact hconforms

theorem RuntimeGood.ready {p : Participants} {w : World} (h : RuntimeGood p w)
    (hsome : w.runtime.isSome) : Ready p w := by
  obtain ⟨rt, hrt⟩ := Option.isSome_iff_exists.mp hsome
  exact ⟨rt, hrt, h rt hrt⟩

theorem triple_filledExtensions {I : World → Prop} {E : Fault → World → Prop} {query : ExtensionQuery}
    (hquery : ReportsExtensions query) :
    Triple I (RuntimeInterface.filledExtensions query) (fun _ => I) E := by
  obtain ⟨⟨function, hfunction, hnull⟩, hlength⟩ := hquery
  unfold RuntimeInterface.filledExtensions
  rw [hfunction]
  cases function with
  | null => exact absurd rfl hnull
  | _ =>
    dsimp only
    rw [if_neg (not_lt.mpr hlength)]
    split_ifs
    · exact Triple.pure fun _ hw => hw
    · exact Triple.pure fun _ hw => hw

section Loading
variable {p : Participants} {env : Environment} (h : Conforms p env) {E : Fault → World → Prop}
include h

theorem triple_getInstanceExtensionProperties (props : List XrExtensionProperties) :
    Triple (Ready p) (RuntimeInterface.getInstanceExtensionProperties env props)
      (fun _ => Ready p) E := by
  refine triple_getRuntime.bind fun rt => ?_
  refine Triple.bind (Q := fun query w => Ready p w ∧ ReportsExtensions query) ?_ fun query => ?_
  · refine triple_ask ?_
    rintro w ⟨hrt, hconforms⟩
    exact ⟨⟨rt, hrt, hconforms⟩, h.extensions _ _ hconforms.gipa⟩
  · exact Triple.known fun hquery =>
      (triple_filledExtensions hquery).bind fun _ => Triple.pure fun _ hw => hw

theorem triple_noteSupportedExtensions :
    Triple (Ready p) (RuntimeInterface.noteSupportedExtensions env) (fun _ => Ready p) E := by
  refine (triple_getInstanceExtensionProperties h []).bind fun props => Triple.modify ?_
  rintro w ⟨rt, hrt, hconforms⟩
  exact ⟨_, Option.mem_map_of_mem _ hrt, hconforms.gipa, hconforms.tables⟩

omit h in
theorem gipa_of_checkRequest {request : XrNegotiateRuntimeRequest} {gipa : ℕ}
    (hcheck : RuntimeInterface.checkRequest request = .ok gipa) :
    gipa ∈ request.getInstanceProcAddr := by
  unfold RuntimeInterface.checkRequest at hcheck
  cases hgipa : request.getInstanceProcAddr with
  | none =>
    rw [hgipa] at hcheck
    cases hcheck
  | some found =>
    rw [hgipa] at hcheck
    dsimp only at hcheck
    split_ifs at hcheck
    cases hcheck
    rfl

/-- The function that a runtime is used with is the one it has negotiated. -/
theorem gipa_of_negotiateRuntime {requiresPlatformInit : Bool} {initData : LoaderInitData}
    {manifest : RuntimeManifestFile} {library : Library XrNegotiateRuntimeRequest} {t gipa : ℕ}
    (hopen : env.openRuntime t manifest.libraryPath = some library)
    (hneg : RuntimeInterface.negotiateRuntime requiresPlatformInit initData manifest library =
      .ok gipa) : gipa ∈ p.runtimes := by
  unfold RuntimeInterface.negotiateRuntime at hneg
  split_ifs at hneg
  · cases hneg
  obtain ⟨forwarded, -, hneg⟩ := except_bind_eq_ok.mp hneg
  dsimp only at hneg
  cases hnegotiate : library.negotiate
      (manifest.getFunctionName "xrNegotiateLoaderRuntimeInterface".toList) with
  | none =>
    rw [hnegotiate] at hneg
    cases hneg
  | some answer =>
    rw [hnegotiate] at hneg
    dsimp only at hneg
    by_cases hfailed : xrFailed answer.1
    · rw [if_pos hfailed] at hneg
      cases hneg
    rw [if_neg hfailed] at hneg
    obtain ⟨found, hcheck, hneg⟩ := except_bind_eq_ok.mp hneg
    have hmem := h.runtime _ _ _ hopen _ _ _ hnegotiate (not_xrFailed.mp hfailed) _
      (gipa_of_checkRequest hcheck)
    split_ifs at hneg
    · obtain ⟨_, -, hneg⟩ := except_bind_eq_ok.mp hneg
      cases hneg
      exact hmem
    · cases hneg
      exact hmem

/-- One manifest is tried without undefined behaviour, whatever comes of it. -/
theorem triple_tryLoadingSingleRuntime (manifest : RuntimeManifestFile) :
    Triple (RuntimeGood p) (RuntimeInterface.tryLoadingSingleRuntime env manifest)
      (fun _ => RuntimeGood p) E := by
  intro w hw
  rw [RuntimeInterface.tryLoadingSingleRuntime_eq]
  cases hopen : env.openRuntime w.clock manifest.libraryPath with
  | none => exact hw
  | some library =>
    dsimp only [Option.map_some]
    cases hneg : RuntimeInterface.negotiateRuntime env.requiresPlatformInit w.initData manifest
      library with
    | error result => exact hw
    | ok gipa =>
      have hnote : Triple (Ready p)
          (RuntimeInterface.noteSupportedExtensions env >>= fun _ => pure xrSuccess)
          (fun _ => RuntimeGood p) E :=
        (triple_noteSupportedExtensions h).bind fun _ => Triple.pure fun _ hready => hready.good
      refine hnote _ ⟨_, rfl, gipa_of_negotiateRuntime h hopen hneg, ?_⟩
      intro inst table htable
      simp at htable

theorem triple_tryManifests (lastError : XrResult) (manifests : List RuntimeManifestFile) :
    Triple (RuntimeGood p) (RuntimeInterface.tryManifests env lastError manifests)
      (fun _ => RuntimeGood p) E := by
  induction manifests generalizing lastError with
  | nil => exact Triple.pure fun _ hw => hw
  | cons manifest manifests ih =>
    refine (triple_tryLoadingSingleRuntime h manifest).bind fun result => ?_
    split_ifs
    · exact Triple.pure fun _ hw => hw
    · exact ih result

theorem triple_loadRuntime : Triple (RuntimeGood p) (RuntimeInterface.loadRuntime env)
    (fun _ => RuntimeGood p) (ThrownIn (RuntimeGood p)) := by
  unfold RuntimeInterface.loadRuntime
  refine Triple.get.bind fun w₀ => ?_
  split_ifs
  · exact Triple.pure fun _ hw => hw
  refine Triple.get.bind fun w₁ => ?_
  split_ifs
  · exact Triple.pure fun _ hw => hw
  refine Triple.bind (Q := fun found w => RuntimeGood p w ∧ found ≠ .error .undefinedBehaviour)
    (triple_ask fun w hw => ⟨hw, h.runtimeManifests _⟩) fun found => Triple.known fun hfound => ?_
  cases found with
  | error fault =>
    cases fault with
    | exception => exact fun w hw => ⟨rfl, hw⟩
    | undefinedBehaviour => exact absurd rfl hfound
  | ok found =>
    dsimp only
    have htry : Triple (RuntimeGood p) (RuntimeInterface.tryFoundManifests env found.1 found.2)
        (fun _ => RuntimeGood p) (ThrownIn (RuntimeGood p)) := by
      unfold RuntimeInterface.tryFoundManifests
      split_ifs
      · exact Triple.pure fun _ hw => hw
      · exact triple_tryManifests h _ _
    refine htry.bind fun lastError => ?_
    split_ifs
    · exact Triple.pure fun _ hw => hw
    · exact Triple.pure fun _ hw => hw

end Loading

/-! ## Creating an instance -/

/-- There is a runtime and no instance yet. -/
def Starting (p : Participants) (w : World) : Prop := Ready p w ∧ w.activeInstance = none

theorem Starting.conforming {p : Participants} {w : World} (h : Starting p w) : Conforming p w where
  runtime := h.1.good
  active inst hinst := by
    rw [h.2] at hinst
    cases hinst

section Creating
variable {p : Participants} {env : Environment} (h : Conforms p env) {E : Fault → World → Prop}

theorem Starting.of_later {w w' : World} (hs : Starting p w) (hl : Later w w') : Starting p w' := by
  obtain ⟨c, rfl⟩ := hl
  exact hs

theorem Conforming.of_later {w w' : World} (hw : Conforming p w) (hl : Later w w') :
    Conforming p w' := by
  obtain ⟨c, rfl⟩ := hl
  exact ⟨hw.runtime, hw.active⟩

include h

/-- Reading the manifests may throw an exception, and nothing else. -/
theorem findManifestFiles_error {type : ManifestFileType} {w w' : World} {fault : Fault}
    (hrun : ApiLayerInterface.findManifestFiles env type w = .error fault w') :
    fault = .exception ∧ w' = w.tick := by
  rw [ApiLayerInterface.findManifestFiles_run] at hrun
  have hread := h.layerManifests w.clock type
  cases hanswer : env.findLayerManifests w.clock type with
  | ok found =>
    rw [hanswer] at hrun
    cases hrun
  | error found =>
    rw [hanswer] at hrun hread
    cases hrun
    cases fault with
    | exception => exact ⟨rfl, rfl⟩
    | undefinedBehaviour => exact absurd rfl hread

theorem loadApiLayers_error {count : ℕ} {names : Option (List StdString)} {w w' : World}
    {fault : Fault} (hrun : ApiLayerInterface.loadApiLayers env count names w = .error fault w') :
    fault = .exception := by
  rcases bind_eq_error.mp hrun with hrun | ⟨⟨_, implicit⟩, w₁, -, hrun⟩
  · exact (findManifestFiles_error h hrun).1
  rcases bind_eq_error.mp hrun with hrun | ⟨⟨found, explicit⟩, w₂, -, hrun⟩
  · unfold ApiLayerInterface.findUnlessFailed at hrun
    split_ifs at hrun
    · exact (findManifestFiles_error h hrun).1
    · cases hrun
  dsimp only at hrun
  rw [bind_of_ok get_run] at hrun
  cases hrequested : if xrSucceeded found then
    ApiLayerInterface.requestedLayers env w₂ count names else some [] with
  | none =>
    rw [hrequested] at hrun
    cases hrun
  | some requested =>
    rw [hrequested] at hrun
    obtain ⟨interfaces, c, l, hloaded, -⟩ := ApiLayerInterface.loadEnabledLayers_spec env
      (ApiLayerInterface.enableLayers implicit explicit requested) w₂ rfl
    cases hloaded.symm.trans hrun

/-- The layers that are loaded are those that have negotiated. -/
theorem triple_loadApiLayers (count : ℕ) (names : Option (List StdString)) :
    Triple (Starting p) (ApiLayerInterface.loadApiLayers env count names)
      (fun found w => Starting p w ∧ ∀ iface ∈ found.2, InterfaceConforms p iface)
      (ThrownIn (Starting p)) := by
  intro w hw
  have hspec := ApiLayerInterface.loadApiLayers_spec env count names w w (refl_of Later w)
  cases hrun : ApiLayerInterface.loadApiLayers env count names w with
  | error fault w' =>
    rw [hrun] at hspec
    exact ⟨loadApiLayers_error h hrun, hw.of_later hspec⟩
  | ok found w' =>
    rw [hrun] at hspec
    obtain ⟨c, l, rfl, -⟩ := hspec
    have hanswers : ApiLayerInterface.RespondsIn (Negotiated p) env :=
      fun t path library hopen symbol r hr hs => h.layer t path library hopen symbol r.1 r.2 hr hs
    refine ⟨hw, ApiLayerInterface.loadApiLayers_forall hanswers ?_ hrun⟩
    exact fun r hr hs _ m library => ⟨(hr hs).1, (hr hs).2⟩

theorem triple_loadRuntimeAndLayers (info : XrInstanceCreateInfo) :
    Triple (fun w => RuntimeGood p w ∧ w.activeInstance = none) (loadRuntimeAndLayers env info)
      (fun loaded w => (RuntimeGood p w ∧ w.activeInstance = none) ∧
        (xrSucceeded loaded.1 → Starting p w ∧ ∀ iface ∈ loaded.2, InterfaceConforms p iface))
      (ThrownIn fun w => RuntimeGood p w ∧ w.activeInstance = none) := by
  rintro w ⟨hgood, hnone⟩
  have hruntime := triple_loadRuntime h w hgood
  have hspec := RuntimeInterface.loadRuntime_spec env w w rfl
  unfold loadRuntimeAndLayers
  cases hload : RuntimeInterface.loadRuntime env w with
  | error fault w₁ =>
    rw [hload] at hruntime hspec
    rw [bind_of_error hload]
    exact ⟨hruntime.1, hruntime.2, hspec.activeInstance.trans hnone⟩
  | ok result w₁ =>
    rw [hload] at hruntime hspec
    rw [bind_of_ok hload]
    have hnone₁ := hspec.1.activeInstance.trans hnone
    by_cases hfailed : xrFailed result
    · rw [if_pos hfailed]
      exact ⟨⟨hruntime, hnone₁⟩, fun hs => absurd hfailed (not_xrFailed.mpr hs)⟩
    · rw [if_neg hfailed]
      have hready : Starting p w₁ :=
        ⟨RuntimeGood.ready hruntime (hspec.2.mp (not_xrFailed.mp hfailed)), hnone₁⟩
      exact (triple_loadApiLayers h _ _).conseq (fun _ hw => hw)
        (fun _ _ hw => ⟨⟨hw.1.1.good, hw.1.2⟩, fun _ => hw⟩)
        (fun _ _ hw => ⟨hw.1, hw.2.1.good, hw.2.2⟩) w₁ hready

omit h in
/-- The runtime has a function for a command that it is asked for. -/
theorem triple_runtimeFunction {I : World → Prop} (hI : ∀ w, I w → Ready p w ∧ I w.tick)
    {inst : XrInstance} {command : Command}
    (hfunction : ∀ t, ∀ gipa ∈ p.runtimes, ∃ f,
      (env.getInstanceProcAddr t gipa inst command).function = some (.foreign f)) :
    Triple I (RuntimeInterface.runtimeFunction env inst command) (fun _ => I) E := by
  intro w hw
  obtain ⟨⟨rt, hrt, hconforms⟩, htick⟩ := hI w hw
  obtain ⟨f, hf⟩ := hfunction w.clock _ hconforms.gipa
  unfold RuntimeInterface.runtimeFunction
  rw [bind_of_ok (RuntimeInterface.getRuntime_of_some hrt), bind_of_ok ask_run, hf]
  exact htick

/-- The table that an instance gets is filled by the runtime. -/
theorem triple_addDispatchTable {inst : XrInstance} (hinst : inst ∈ p.instances) :
    Triple (Starting p) (RuntimeInterface.addDispatchTable env inst) (fun _ => Starting p) E := by
  rintro w ⟨⟨rt, hrt, hconforms⟩, hnone⟩
  unfold RuntimeInterface.addDispatchTable RuntimeInterface.populateDispatchTable
  rw [bind_of_ok (RuntimeInterface.getRuntime_of_some hrt), bind_of_ok ask_run]
  refine ⟨⟨_, Option.mem_map_of_mem _ hrt, hconforms.gipa, fun other table htable => ?_⟩, hnone⟩
  by_cases hother : other = inst
  · rw [hother, AList.lookup_insert] at htable
    cases htable
    exact h.runtimeFunctions _ _ hconforms.gipa _ hinst
  · rw [AList.lookup_insert_ne hother] at htable
    exact hconforms.tables other table htable

def HandsOut (p : Participants) (reply : Reply) : Prop :=
  xrSucceeded reply.result → ∃ inst ∈ p.instances, reply.handle = some inst

theorem triple_termCreateInstance (info : XrInstanceCreateInfo) :
    Triple (Starting p) (termCreateInstance env info)
      (fun reply w => Starting p w ∧ HandsOut p reply) E := by
  unfold termCreateInstance
  split_ifs with hfailed
  · exact Triple.pure fun w hw => ⟨hw, fun hs => absurd hfailed (not_xrFailed.mpr hs)⟩
  refine (triple_runtimeFunction (fun w hw => ⟨hw.1, hw⟩) h.creates).bind fun address => ?_
  refine Triple.bind (Q := fun reply w => Starting p w ∧ HandsOut p reply)
    (triple_ask fun w hw => ⟨hw, h.created _ _ _⟩) fun reply => Triple.known fun hreply => ?_
  split_ifs with hs
  · obtain ⟨inst, hinst, hhandle⟩ := hreply hs
    rw [hhandle]
    exact (triple_addDispatchTable h hinst).bind fun _ => Triple.pure fun w hw => ⟨hw, hreply⟩
  · exact Triple.pure fun w hw => ⟨hw, hreply⟩

variable (hforward : ∀ t f info nextInfo,
  env.createApiLayerInstance t f info nextInfo = .forward (.createInstance info))
include hforward

/-- The topmost layer can be called, and the call comes down to the terminator. -/
theorem triple_callChain {layers : List ApiLayerInterface}
    (hlayers : ∀ iface ∈ layers, InterfaceConforms p iface) (info : XrInstanceCreateInfo) :
    Triple (Starting p) (LoaderInstance.callChain env layers info)
      (fun reply w => Starting p w ∧ HandsOut p reply) E := by
  unfold LoaderInstance.callChain
  cases layers with
  | nil => exact triple_termCreateInstance h info
  | cons layer layers =>
    obtain ⟨f, hf⟩ := (hlayers layer List.mem_cons_self).create
    rw [if_neg (by simp)]
    change Triple (Starting p) (LoaderInstance.callCreateApiLayerInstance env
      layer.createApiLayerInstance info _) _ E
    rw [hf]
    refine Triple.bind (Q := fun tree w => Starting p w ∧ tree = .forward (.createInstance info))
      (triple_ask fun w hw => ⟨hw, hforward _ _ _ _⟩) fun tree => Triple.known fun htree => ?_
    rw [htree, CallTree.run_forward]
    exact triple_termCreateInstance h info

theorem triple_createChained {layers : List ApiLayerInterface}
    (hlayers : ∀ iface ∈ layers, InterfaceConforms p iface) (info : XrInstanceCreateInfo)
    (names : List StdString) : Triple (Starting p) (LoaderInstance.createChained env layers info names)
      (fun reply w => Starting p w ∧ HandsOut p reply) E := by
  have hcheck : Triple (Starting p) (LoaderInstance.checkExtensions layers names)
      (fun _ => Starting p) E := by
    unfold LoaderInstance.checkExtensions
    split_ifs
    · exact Triple.pure fun _ hw => hw
    · rintro w ⟨⟨rt, hrt, hconforms⟩, hnone⟩
      rw [bind_of_ok (RuntimeInterface.getRuntime_of_some hrt)]
      split_ifs
      · exact ⟨⟨rt, hrt, hconforms⟩, hnone⟩
      · exact ⟨⟨rt, hrt, hconforms⟩, hnone⟩
  have hmodify : Triple (Starting p) (LoaderInstance.modifiedCreateInfo info names)
      (fun _ => Starting p) E := by
    unfold LoaderInstance.modifiedCreateInfo
    split_ifs
    · exact Triple.pure fun _ hw => hw
    · rintro w ⟨⟨rt, hrt, hconforms⟩, hnone⟩
      rw [bind_of_ok (RuntimeInterface.getRuntime_of_some hrt)]
      exact ⟨⟨rt, hrt, hconforms⟩, hnone⟩
  unfold LoaderInstance.createChained
  refine hcheck.bind fun result => ?_
  split_ifs with hfailed
  · exact Triple.pure fun w hw => ⟨hw, fun hs => absurd hfailed (not_xrFailed.mpr hs)⟩
  · exact hmodify.bind fun info => triple_callChain h hforward hlayers info

omit hforward in
/-- The table of the instance is filled by the topmost layer, or by the terminator that asks the
runtime. -/
theorem triple_populateDispatchTable {gipa : Pfn} (hgipa : IsTopmost p gipa) {inst : XrInstance}
    (hinst : inst ∈ p.instances) :
    Triple (Starting p) (LoaderInstance.populateDispatchTable env gipa inst)
      (fun table w => Starting p w ∧ ChainTable table) E := by
  rintro w ⟨⟨rt, hrt, hconforms⟩, hnone⟩
  unfold LoaderInstance.populateDispatchTable RuntimeInterface.populateDispatchTable
  rcases hgipa with rfl | ⟨f, hf, rfl⟩
  · dsimp only
    rw [bind_of_ok (RuntimeInterface.getRuntime_of_some hrt), bind_of_ok ask_run]
    refine ⟨⟨⟨rt, hrt, hconforms⟩, hnone⟩, fun command => ?_⟩
    dsimp only
    split_ifs
    · exact .inl rfl
    · exact h.runtimeFunctions _ _ hconforms.gipa _ hinst command
  · exact ⟨⟨⟨rt, hrt, hconforms⟩, hnone⟩, h.layerFunctions _ _ hf _ hinst⟩

omit h hforward in
theorem isTopmost_topmostGipaOf {layers : List ApiLayerInterface}
    (hlayers : ∀ iface ∈ layers, InterfaceConforms p iface) :
    IsTopmost p (LoaderInstance.topmostGipaOf layers) := by
  cases layers with
  | nil => exact .inl rfl
  | cons layer layers => exact .inr (hlayers layer List.mem_cons_self).gipa

/-- An application that says how many extensions it names does not withhold their names. -/
def HasNames (info : XrInstanceCreateInfo) : Prop :=
  (arrayNames info.enabledExtensionCount info.enabledExtensionNames).isSome

theorem triple_createInstance {layers : List ApiLayerInterface}
    (hlayers : ∀ iface ∈ layers, InterfaceConforms p iface) {info : XrInstanceCreateInfo}
    (hnames : HasNames info) : Triple (Starting p) (LoaderInstance.createInstance env layers info)
      (fun created w => Starting p w ∧ ∀ inst ∈ created.2, InstanceConforms p inst) E := by
  obtain ⟨names, harray⟩ := Option.isSome_iff_exists.mp hnames
  unfold LoaderInstance.createInstance
  rw [harray]
  refine (triple_createChained h hforward hlayers info names).bind fun reply =>
    Triple.known fun hreply => ?_
  split_ifs with hfailed
  · intro w hw
    obtain ⟨l, hrun, -⟩ := ApiLayerInterface.destroyInterfaces_run layers w
    rw [bind_of_ok hrun]
    exact ⟨hw, by simp⟩
  · obtain ⟨inst, hinst, hhandle⟩ := hreply (not_xrFailed.mp hfailed)
    rw [hhandle]
    have htop := isTopmost_topmostGipaOf hlayers
    refine Triple.bind (Q := fun li w => Starting p w ∧ InstanceConforms p li)
      ((triple_populateDispatchTable h htop hinst).bind fun table => ?_) fun li => ?_
    · exact Triple.pure fun w hw => ⟨hw.1, hinst, htop, hw.2⟩
    · exact Triple.pure fun w hw => ⟨hw.1, by simpa using hw.2⟩

/-- What is made active conforms, and whatever happens the runtime does. -/
theorem triple_createActiveInstance {info : XrInstanceCreateInfo} (hnames : HasNames info) :
    Triple (fun w => RuntimeGood p w ∧ w.activeInstance = none) (createActiveInstance env info)
      (fun _ => Conforming p) (ThrownIn (Conforming p)) := by
  have hconforming {w : World} (hw : RuntimeGood p w ∧ w.activeInstance = none) : Conforming p w :=
    ⟨hw.1, fun inst hinst => by rw [hw.2] at hinst; cases hinst⟩
  refine Triple.bind ((triple_loadRuntimeAndLayers h info).conseq (fun _ hw => hw) (fun _ _ hw => hw)
    fun _ _ hw => ⟨hw.1, hconforming hw.2⟩) fun loaded => ?_
  dsimp only
  split_ifs with hfailed
  · exact Triple.pure fun w hw => hconforming hw.1
  rintro w ⟨-, hloaded⟩
  obtain ⟨hstarting, hlayers⟩ := hloaded (not_xrFailed.mp hfailed)
  refine ((triple_createInstance h hforward hlayers hnames).bind fun created => ?_) w hstarting
  obtain ⟨result, created⟩ := created
  cases created with
  | none => exact Triple.pure fun w hw => hw.1.conforming
  | some inst =>
    rintro w ⟨hstarting, hinst⟩
    dsimp only
    rw [bind_of_ok (set_of_none hstarting.2 inst)]
    refine ⟨hstarting.1.good, ?_⟩
    rintro _ ⟨⟩
    exact hinst inst rfl

end Creating

end OpenXRSdk.LoaderCore
