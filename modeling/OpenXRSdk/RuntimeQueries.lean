import OpenXRSdk.LayerExtensions

/-!
# What the loader takes from a runtime

The extensions that are reported for a runtime against those that it wrote, and the
functions that are called against those that it resolved.
-/
namespace OpenXRSdk

open StateProgram LoaderInstance

/-- Of a list with something put behind it, a part that is taken by value fits in the list
only if nothing of what was put there is taken. -/
theorem filter_append_replicate_sublist {α : Type} [DecidableEq α] {p : α → Bool} {l : List α}
    {k : ℕ} {a : α} : ((l ++ List.replicate k a).filter p).Sublist l ↔ k = 0 ∨ p a = false := by
  constructor
  · intro h
    by_contra! hc
    have hp : p a = true := by simpa using hc.2
    have := h.count_le a
    rw [List.count_filter hp, List.count_append, List.count_replicate_self] at this
    omega
  · rintro (rfl | hp)
    · simp
    · simp [List.filter_append, hp]

def GipaReply.Resolved (reply : GipaReply) : Prop :=
  xrSucceeded reply.result ∧ ∃ f, reply.function = some f ∧ f ≠ .null

namespace ExtensionQuery
variable (query : ExtensionQuery)

/-- What the first call announces is what the second has room for. -/
def announced : ℕ := query.count.2.getD 0

def second : XrResult := (query.fill query.announced).1

def written : List XrExtensionProperties := (query.fill query.announced).2.2

/-- Nothing is announced; or the second call writes as much as was announced, and succeeds.
Entries whose names are there already do no harm. -/
def FillsFor (props : List XrExtensionProperties) : Prop :=
  query.announced = 0 ∨
    (query.written.length = query.announced ∨ [] ∈ extensionNames props) ∧
      (xrSucceeded query.second ∨ ∀ ext ∈ query.written, ext.extensionName ∈ extensionNames props)

end ExtensionQuery

namespace RuntimeInterface

/-! ## Reported extensions -/

/-- The entries keep their names, and each that is added was written by the second call, and
by one that succeeded. -/
structure AddsWritten (query : ExtensionQuery) (props result : List XrExtensionProperties) :
    Prop where
  known : extensionNames (result.take props.length) = extensionNames props
  written : (result.drop props.length).Sublist query.written
  succeeded : xrFailed query.second → result.drop props.length = []

section Merging
variable (props exts : List XrExtensionProperties)

def addedExtensions : List XrExtensionProperties :=
  exts.filter fun ext => ¬ props.any (·.extensionName = ext.extensionName)

theorem mergeExtensions_parts :
    extensionNames ((mergeExtensions props exts).take props.length) = extensionNames props ∧
      (mergeExtensions props exts).drop props.length = addedExtensions props exts := by
  have hnames := names_overrideVersions props exts
  have hlength : (exts.foldl (fun ps ext => overrideVersion ext ps) props).length = props.length := by
    simpa [extensionNames] using congrArg List.length hnames
  unfold mergeExtensions addedExtensions
  exact ⟨by rw [List.take_left' hlength, hnames], List.drop_left' hlength⟩

theorem addedExtensions_eq_nil :
    addedExtensions props exts = [] ↔ ∀ ext ∈ exts, ext.extensionName ∈ extensionNames props := by
  simp [addedExtensions, extensionNames]

end Merging

/-- The array of the second call, with the entries that it did not write. -/
def filledArray (query : ExtensionQuery) : List XrExtensionProperties :=
  query.written ++ List.replicate (query.announced - query.written.length) ⟨[], 0⟩

theorem filledExtensions_run {query : ExtensionQuery} {f : Pfn}
    (hresolved : query.function.function = some f) (hf : f ≠ .null)
    (hcapacity : query.written.length ≤ query.announced) (w : World) :
    filledExtensions query w =
      .ok (if query.announced = 0 then [] else filledArray query) w := by
  unfold filledExtensions
  cases f with
  | null => exact absurd rfl hf
  | term | trampoline | foreign =>
    simp only [hresolved]
    by_cases h : query.announced = 0
    · rw [if_pos h]
      exact congrFun (if_pos h) w
    · rw [if_neg h]
      exact congrFun ((if_neg h).trans (if_neg hcapacity.not_gt)) w

section Filling
variable {query : ExtensionQuery} (hcapacity : query.written.length ≤ query.announced)
  (props : List XrExtensionProperties)
include hcapacity

/-- A placeholder is added as soon as there is one, unless its name is there already. -/
theorem addedExtensions_sublist_iff :
    (addedExtensions props (filledArray query)).Sublist query.written ↔
      query.written.length = query.announced ∨ [] ∈ extensionNames props := by
  unfold addedExtensions filledArray
  rw [filter_append_replicate_sublist]
  have hlength : query.announced - query.written.length = 0 ↔
      query.written.length = query.announced := by omega
  rw [hlength]
  simp [extensionNames]

omit hcapacity in
theorem addedExtensions_filledArray_eq_nil
    (h : query.written.length = query.announced ∨ [] ∈ extensionNames props) :
    addedExtensions props (filledArray query) = [] ↔
      ∀ ext ∈ query.written, ext.extensionName ∈ extensionNames props := by
  rw [addedExtensions_eq_nil]
  unfold filledArray
  constructor
  · intro hall ext hext
    exact hall ext (List.mem_append_left _ hext)
  · intro hall ext hext
    rcases List.mem_append.mp hext with hext | hext
    · exact hall ext hext
    · obtain ⟨hk, rfl⟩ := List.mem_replicate.mp hext
      exact h.resolve_left (by omega)

theorem addsWritten_iff_of_filled :
    AddsWritten query props
        (mergeExtensions props (if query.announced = 0 then [] else filledArray query)) ↔
      query.FillsFor props := by
  by_cases h0 : query.announced = 0
  · have hadded := mergeExtensions_parts props []
    rw [if_pos h0]
    refine iff_of_true ⟨hadded.1, ?_, fun _ => hadded.2⟩ (Or.inl h0)
    rw [hadded.2]
    exact List.nil_sublist _
  rw [if_neg h0]
  obtain ⟨hknown, hadded⟩ := mergeExtensions_parts props (filledArray query)
  have hsub := addedExtensions_sublist_iff hcapacity props
  have hnil := @addedExtensions_filledArray_eq_nil query props
  constructor
  · intro ⟨_, hwritten, hsucceeded⟩
    rw [hadded] at hwritten hsucceeded
    have hrest := hsub.mp hwritten
    refine Or.inr ⟨hrest, ?_⟩
    by_cases hres : xrSucceeded query.second
    · exact Or.inl hres
    · exact Or.inr ((hnil hrest).mp (hsucceeded (not_xrSucceeded.mp hres)))
  · intro h
    obtain ⟨hrest, hres⟩ := h.resolve_left h0
    refine ⟨hknown, hadded ▸ hsub.mpr hrest, fun hfailed => hadded ▸ (hnil hrest).mpr ?_⟩
    exact hres.resolve_left (not_xrSucceeded.mpr hfailed)

end Filling

/-- Whatever a runtime answers, the entries that are added are ones that it wrote exactly
when it fills what it announced. -/
theorem addsWritten_iff (env : Environment) (w : World) {rt : RuntimeInterface}
    (hruntime : w.runtime = some rt) {query : ExtensionQuery}
    (hquery : env.queryExtensions w.clock rt.getInstanceProcAddr = query) {f : Pfn}
    (hresolved : query.function.function = some f) (hf : f ≠ .null)
    (hcapacity : query.written.length ≤ query.announced) (props : List XrExtensionProperties) :
    ∃ result, getInstanceExtensionProperties env props w = .ok result w.tick ∧
      (AddsWritten query props result ↔ query.FillsFor props) := by
  refine ⟨_, ?_, addsWritten_iff_of_filled hcapacity props⟩
  unfold getInstanceExtensionProperties
  rw [bind_of_ok (getRuntime_of_some hruntime), bind_of_ok ask_run, hquery,
    bind_of_ok (filledExtensions_run hresolved hf hcapacity _)]
  rfl

def announcingOneMore (result : XrResult) (exts : List XrExtensionProperties) : Environment :=
  { Environment.bare with
    queryExtensions := fun _ _ => ⟨⟨xrSuccess, some (.foreign 2)⟩,
      ⟨xrSuccess, some (exts.length + 1)⟩, fun _ => ⟨result, some exts.length, exts⟩⟩ }

/-- The missing entry does no harm when the list has an empty name. -/
theorem addsWritten_iff_oneMore : ∃ result,
    getInstanceExtensionProperties (announcingOneMore xrSuccess [⟨['x'], 1⟩]) [⟨[], 1⟩] runtimeWorld =
      .ok result runtimeWorld.tick ∧
    (AddsWritten ((announcingOneMore xrSuccess [⟨['x'], 1⟩]).queryExtensions 0 1) [⟨[], 1⟩] result ↔
      ((announcingOneMore xrSuccess [⟨['x'], 1⟩]).queryExtensions 0 1).FillsFor [⟨[], 1⟩]) :=
  addsWritten_iff _ runtimeWorld rfl rfl rfl (by decide) (by decide) _

/-- The second call fails and writes nothing. -/
theorem announcedExtension_placeholder :
    getInstanceExtensionProperties (announcingOneMore xrErrorRuntimeFailure []) [] runtimeWorld =
      .ok [⟨[], 0⟩] runtimeWorld.tick ∧
    ¬ AddsWritten ((announcingOneMore xrErrorRuntimeFailure []).queryExtensions 0 1) [] [⟨[], 0⟩] := by
  refine ⟨rfl, fun h => ?_⟩
  have := h.succeeded (by decide)
  revert this
  decide

/-! ## Functions of the runtime -/

end RuntimeInterface

/-- The queries of a runtime are answered as before, but its functions behave otherwise. -/
def Environment.withFunctions (env : Environment) (call : ℕ → ℕ → TermCall → Reply)
    (count : XrResult × Option ℕ) (fill : ℕ → XrResult × Option ℕ × List XrExtensionProperties) :
    Environment := { env with
  callRuntime := call
  queryExtensions := fun t gipa => { env.queryExtensions t gipa with count, fill } }

/-- The same for an xrInitializeLoaderKHR that was not resolved. -/
def Environment.withInitializeLoader (env : Environment)
    (initLoader : Option (XrLoaderInitInfoAndroidKHR → XrResult)) : Environment := { env with
  openRuntime := fun t path => (env.openRuntime t path).map fun library =>
    if xrFailed library.queriedInitializeLoader.1 then
      { library with queriedInitializeLoader := (library.queriedInitializeLoader.1, initLoader) }
    else library }

namespace RuntimeInterface

/-- The call returns a failing result, whatever the functions of the runtime would do. -/
def Refuses {α : Type} (f : Environment → Loader α) (resultOf : α → XrResult) (env : Environment)
    (w : World) : Prop :=
  ∀ call count fill, ∃ a w', f (env.withFunctions call count fill) w = .ok a w' ∧ xrFailed (resultOf a)

def negotiated (env : Environment) (manifest : RuntimeManifestFile) (w : World) :
    Option (Except XrResult ℕ) :=
  (env.openRuntime w.clock manifest.libraryPath).map
    (negotiateRuntime env.requiresPlatformInit w.initData manifest)

/-- The functions that a runtime was asked for are not called unless it resolved them; the
one that may be missing aside, the call then fails. -/
structure CallsResolved (env : Environment) (manifest : RuntimeManifestFile) (w : World)
    (rt : RuntimeInterface) (info : XrInstanceCreateInfo) (inst : XrInstance) : Prop where
  initializeLoader : ∀ initLoader, tryLoadingSingleRuntime (env.withInitializeLoader initLoader) manifest w =
    tryLoadingSingleRuntime env manifest w
  loading : ∀ gipa, negotiated env manifest w = some (.ok gipa) →
    ¬ (env.queryExtensions w.tick.clock gipa).function.Resolved →
      Refuses (tryLoadingSingleRuntime · manifest) id env w
  creating : ¬ (env.getInstanceProcAddr w.clock rt.getInstanceProcAddr xrNullHandle .createInstance).Resolved →
    Refuses (createInstance · info) (·.result) env { w with runtime := some rt }
  destroying : inst ≠ xrNullHandle →
    ¬ (env.getInstanceProcAddr w.clock rt.getInstanceProcAddr inst .destroyInstance).Resolved →
      Refuses (destroyInstance · inst) id env { w with runtime := some rt }

section Refusing
variable {env : Environment} {w w' : World}

/-- A negotiation that is accepted is never taken back. -/
theorem tryLoadingSingleRuntime_succeeds {manifest : RuntimeManifestFile}
    (h : ∃ gipa, negotiated env manifest w = some (.ok gipa)) {result : XrResult}
    (hrun : tryLoadingSingleRuntime env manifest w = .ok result w') : result = xrSuccess := by
  obtain ⟨gipa, h⟩ := h
  have hopen : (env.openRuntime w.clock manifest.libraryPath).map
      (negotiateRuntime env.requiresPlatformInit w.initData manifest) = some (.ok gipa) := h
  rw [tryLoadingSingleRuntime_eq, hopen] at hrun
  obtain ⟨_, _, -, hrun⟩ := bind_eq_ok.mp hrun
  exact (pure_eq_ok.mp hrun).1.symm

/-- What the function that was found answers is returned. -/
theorem createInstance_succeeds {info : XrInstanceCreateInfo}
    (hcall : ∀ t f call, (env.callRuntime t f call).result = xrSuccess) {reply : Reply}
    (hrun : createInstance env info w = .ok reply w') : reply.result = xrSuccess := by
  obtain ⟨address, w₁, -, hrun⟩ := bind_eq_ok.mp hrun
  rw [bind_of_ok ask_run] at hrun
  have hresult := hcall w₁.clock address (.createInstance info)
  dsimp only at hrun
  rw [if_pos (by rw [hresult])] at hrun
  obtain ⟨_, _, -, hrun⟩ := bind_eq_ok.mp hrun
  rw [← (pure_eq_ok.mp hrun).1, hresult]

theorem destroyInstance_succeeds {inst : XrInstance} {result : XrResult}
    (hrun : destroyInstance env inst w = .ok result w') : result = xrSuccess := by
  unfold destroyInstance at hrun
  split_ifs at hrun
  · obtain ⟨_, _, -, hrun⟩ := bind_eq_ok.mp hrun
    obtain ⟨_, _, -, hrun⟩ := bind_eq_ok.mp hrun
    obtain ⟨_, _, -, hrun⟩ := bind_eq_ok.mp hrun
    exact (pure_eq_ok.mp hrun).1.symm
  · exact (pure_eq_ok.mp hrun).1.symm

/-- If it never fails, the call does not refuse. -/
theorem not_refuses {α : Type} {f : Environment → Loader α} {resultOf : α → XrResult}
    {c : ℕ → ℕ → TermCall → Reply}
    (h : ∀ count fill a w', f (env.withFunctions c count fill) w = .ok a w' →
      resultOf a = xrSuccess) : ¬ Refuses f resultOf env w := by
  intro hrefuses
  obtain ⟨a, w', hrun, hfailed⟩ := hrefuses c (xrSuccess, none) fun _ => (xrSuccess, none, [])
  rw [h _ _ _ _ hrun] at hfailed
  exact absurd hfailed (by decide)

end Refusing

/-- A function that was not resolved is not looked at. -/
theorem forwardQueried_withInitializeLoader (param : Option XrLoaderInitInfoAndroidKHR)
    {library : Library XrNegotiateRuntimeRequest} (h : xrFailed library.queriedInitializeLoader.1)
    (initLoader : Option (XrLoaderInitInfoAndroidKHR → XrResult)) :
    forwardQueried param
      { library with queriedInitializeLoader := (library.queriedInitializeLoader.1, initLoader) } =
    forwardQueried param library := by
  unfold forwardQueried
  cases param with
  | none => rfl
  | some p => simp only [if_neg (not_xrSucceeded.mpr h)]

theorem negotiateRuntime_withInitializeLoader (requiresPlatformInit : Bool) (initData : LoaderInitData)
    (manifest : RuntimeManifestFile) {library : Library XrNegotiateRuntimeRequest}
    (h : xrFailed library.queriedInitializeLoader.1)
    (initLoader : Option (XrLoaderInitInfoAndroidKHR → XrResult)) :
    negotiateRuntime requiresPlatformInit initData manifest
      { library with queriedInitializeLoader := (library.queriedInitializeLoader.1, initLoader) } =
    negotiateRuntime requiresPlatformInit initData manifest library := by
  unfold negotiateRuntime
  simp only [forwardQueried_withInitializeLoader _ h]
  rfl

theorem tryLoadingSingleRuntime_withInitializeLoader (env : Environment)
    (initLoader : Option (XrLoaderInitInfoAndroidKHR → XrResult)) (manifest : RuntimeManifestFile)
    (w : World) : tryLoadingSingleRuntime (env.withInitializeLoader initLoader) manifest w =
      tryLoadingSingleRuntime env manifest w := by
  have hnegotiated : negotiated (env.withInitializeLoader initLoader) manifest w =
      negotiated env manifest w := by
    unfold negotiated Environment.withInitializeLoader
    dsimp only
    cases env.openRuntime w.clock manifest.libraryPath with
    | none => rfl
    | some library =>
      simp only [Option.map_some]
      split_ifs with h
      · rw [negotiateRuntime_withInitializeLoader _ _ _ h]
      · rfl
  unfold negotiated at hnegotiated
  rw [tryLoadingSingleRuntime_eq, tryLoadingSingleRuntime_eq, hnegotiated]
  rfl

/-- The loader looks at none of the results of its queries, and takes what it finds in the
pointer: it calls nothing that was not resolved exactly when each query resolves its function. -/
theorem callsResolved_iff (env : Environment) (manifest : RuntimeManifestFile) (w : World)
    (rt : RuntimeInterface) (info : XrInstanceCreateInfo) (inst : XrInstance) :
    CallsResolved env manifest w rt info inst ↔
      (∀ gipa, negotiated env manifest w = some (.ok gipa) →
        (env.queryExtensions w.tick.clock gipa).function.Resolved) ∧
      (env.getInstanceProcAddr w.clock rt.getInstanceProcAddr xrNullHandle .createInstance).Resolved ∧
      (inst ≠ xrNullHandle →
        (env.getInstanceProcAddr w.clock rt.getInstanceProcAddr inst .destroyInstance).Resolved) := by
  constructor
  · intro h
    refine ⟨fun gipa hgipa => ?_, ?_, fun hne => ?_⟩
    · by_contra hc
      refine not_refuses (c := env.callRuntime) (fun _ _ _ _ hrun => ?_) (h.loading gipa hgipa hc)
      exact tryLoadingSingleRuntime_succeeds (by exact ⟨gipa, hgipa⟩) hrun
    · by_contra hc
      refine not_refuses (c := fun _ _ _ => ⟨xrSuccess, none⟩) (fun _ _ _ _ hrun => ?_) (h.creating hc)
      exact createInstance_succeeds (fun _ _ _ => rfl) hrun
    · by_contra hc
      exact not_refuses (c := env.callRuntime) (fun _ _ _ _ hrun => destroyInstance_succeeds hrun)
        (h.destroying hne hc)
  · rintro ⟨hloading, hcreating, hdestroying⟩
    exact ⟨fun initLoader => tryLoadingSingleRuntime_withInitializeLoader env initLoader manifest w,
      fun gipa hgipa hc => absurd (hloading gipa hgipa) hc, fun hc => absurd hcreating hc,
      fun hne hc => absurd (hdestroying hne) hc⟩

/-- The runtime fails to find xrCreateInstance and leaves the pointer alone. -/
theorem unresolvedFunction_called :
    createInstance .bare ⟨0, [], 0, ⟨[], [], 0⟩, 0, none, 0, none⟩ runtimeWorld =
      .error .undefinedBehaviour runtimeWorld.tick ∧
    ¬ CallsResolved .bare ⟨⟨[], .runtime, [], [], ∅⟩⟩ runtimeWorld ⟨0, 1, ∅, ∅, []⟩
      ⟨0, [], 0, ⟨[], [], 0⟩, 0, none, 0, none⟩ 1 := by
  refine ⟨rfl, fun h => ?_⟩
  obtain ⟨_, _, hrun, -⟩ := h.creating (fun hr => absurd hr.1 (by decide))
    (fun _ _ _ => ⟨xrSuccess, none⟩) (xrSuccess, none) (fun _ => (xrSuccess, none, []))
  cases hrun

end RuntimeInterface
end OpenXRSdk
