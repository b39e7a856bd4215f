import OpenXRSdk.LibraryBalance

/-!
# Agreement on extensions

The extensions that are enumerated are compared with those that an instance may enable.
Both lists are followed as sets of names.
-/
namespace OpenXRSdk

open KeyedLists StateProgram HandleLedger World

def extensionNames (props : List XrExtensionProperties) : List StdString :=
  props.map (·.extensionName)

/-- The names of a manifest's extensions as they are reported. -/
def ManifestFile.reportedNames (m : ManifestFile) : List StdString :=
  m.instanceExtensions.map fun ext => boundedCopy xrMaxExtensionNameSize ext.name

/-! ## Names in merged lists -/

theorem cString_takeWhile_take (s : StdString) (n : ℕ) :
    cString ((cString s).take n) = (cString s).take n := by
  unfold cString
  rw [List.takeWhile_eq_self_iff]
  intro c hc
  have hmem := List.mem_of_mem_take hc
  exact List.mem_takeWhile_imp (p := fun x => decide (x ≠ '\x00')) hmem

/-- A name that fits is copied whole. -/
theorem boundedCopy_boundedCopy (size : ℕ) (s : StdString) :
    boundedCopy size (boundedCopy size s) = boundedCopy size s := by
  unfold boundedCopy
  rw [cString_takeWhile_take, List.take_take, min_self]

def Fit (props : List XrExtensionProperties) : Prop :=
  ∀ n ∈ extensionNames props, boundedCopy xrMaxExtensionNameSize n = n

namespace ManifestFile

theorem names_addExtension (ext : ExtensionListing) {props : List XrExtensionProperties}
    (h : Fit props) (n : StdString) :
    n ∈ extensionNames (addExtension ext props) ↔
      n ∈ extensionNames props ∨ n = boundedCopy xrMaxExtensionNameSize ext.name := by
  induction props with
  | nil => simp [addExtension, extensionNames]
  | cons prop props ih =>
    have hprop := h prop.extensionName (by simp [extensionNames])
    have hprops : Fit props := fun n hn => h n (List.mem_cons_of_mem _ hn)
    unfold addExtension
    split_ifs with heq
    · rw [← heq, hprop]
      simp only [extensionNames, List.map_cons, List.mem_cons]
      constructor
      · exact Or.inl
      · rintro (h | rfl)
        · exact h
        · exact Or.inl rfl
    · have := ih hprops
      simp only [extensionNames, List.map_cons, List.mem_cons] at this ⊢
      rw [this, or_assoc]

theorem fit_addExtension (ext : ExtensionListing) {props : List XrExtensionProperties}
    (h : Fit props) : Fit (addExtension ext props) := by
  intro n hn
  rcases (names_addExtension ext h n).mp hn with hn | rfl
  · exact h n hn
  · exact boundedCopy_boundedCopy _ _

def addExtensions (exts : List ExtensionListing) (props : List XrExtensionProperties) :
    List XrExtensionProperties :=
  exts.foldl (fun ps ext => addExtension ext ps) props

theorem fit_addExtensions (exts : List ExtensionListing) {props : List XrExtensionProperties}
    (h : Fit props) : Fit (addExtensions exts props) := by
  unfold addExtensions
  induction exts generalizing props with
  | nil => exact h
  | cons ext exts ih => exact ih (fit_addExtension ext h)

theorem names_addExtensions (exts : List ExtensionListing) {props : List XrExtensionProperties}
    (h : Fit props) (n : StdString) : n ∈ extensionNames (addExtensions exts props) ↔
      n ∈ extensionNames props ∨
        n ∈ exts.map fun ext => boundedCopy xrMaxExtensionNameSize ext.name := by
  unfold addExtensions
  induction exts generalizing props with
  | nil => simp
  | cons ext exts ih =>
    rw [List.foldl_cons, ih (fit_addExtension ext h), names_addExtension ext h]
    simp only [List.map_cons, List.mem_cons, or_assoc]

theorem names_getInstanceExtensionProperties (m : ManifestFile) {props : List XrExtensionProperties}
    (h : Fit props) (n : StdString) :
    n ∈ extensionNames (m.getInstanceExtensionProperties props) ↔
      n ∈ extensionNames props ∨ n ∈ m.reportedNames :=
  names_addExtensions m.instanceExtensions h n

/-- The manifests one after the other are like one manifest with all their extensions. -/
theorem collectExtensions_eq (manifests : List ApiLayerManifestFile)
    (props : List XrExtensionProperties) : ApiLayerInterface.collectExtensions manifests props =
      addExtensions (manifests.flatMap fun m => m.instanceExtensions) props := by
  unfold ApiLayerInterface.collectExtensions addExtensions
  rw [List.foldl_flatMap]
  rfl

end ManifestFile

theorem fit_nil : Fit [] := by simp [Fit, extensionNames]

theorem names_collectExtensions (manifests : List ApiLayerManifestFile) (n : StdString) :
    n ∈ extensionNames (ApiLayerInterface.collectExtensions manifests []) ↔
      ∃ m ∈ manifests, n ∈ m.reportedNames := by
  rw [ManifestFile.collectExtensions_eq, ManifestFile.names_addExtensions _ fit_nil]
  simp only [extensionNames, List.map_nil, List.not_mem_nil, false_or, List.map_flatMap,
    List.mem_flatMap, ManifestFile.reportedNames]

def XrExtensionProperties.mapVersion (f : ℕ → ℕ) (prop : XrExtensionProperties) : XrExtensionProperties :=
  { prop with extensionVersion := f prop.extensionVersion }

theorem XrExtensionProperties.mapVersion_name (f : ℕ → ℕ) (prop : XrExtensionProperties) :
    (prop.mapVersion f).extensionName = prop.extensionName := rfl

def changeVersion (n : StdString) (f : ℕ → ℕ) : List XrExtensionProperties → List XrExtensionProperties :=
  updateFirst (·.extensionName) n (·.mapVersion f)

theorem names_changeVersion (n : StdString) (f : ℕ → ℕ) (props : List XrExtensionProperties) :
    extensionNames (changeVersion n f props) = extensionNames props :=
  map_updateFirst _ (XrExtensionProperties.mapVersion_name f) n props

/-- A loop that stops at the first entry of a name and changes its version. -/
theorem eq_changeVersion {n : StdString} {f : ℕ → ℕ}
    {change : List XrExtensionProperties → List XrExtensionProperties} (hnil : change [] = [])
    (hcons : ∀ prop props, change (prop :: props) =
      if prop.extensionName = n then prop.mapVersion f :: props else prop :: change props)
    (props : List XrExtensionProperties) : change props = changeVersion n f props := by
  induction props with
  | nil => exact hnil
  | cons prop props ih =>
    rw [hcons, ih]
    rfl

theorem RuntimeInterface.overrideVersion_eq (ext : XrExtensionProperties) :
    ∀ props, overrideVersion ext props =
      changeVersion ext.extensionName (fun _ => ext.extensionVersion) props :=
  eq_changeVersion rfl fun _ _ => rfl

theorem LoaderCore.raiseVersion_eq (ext : XrExtensionProperties) :
    ∀ props, raiseVersion ext props =
      changeVersion ext.extensionName (max · ext.extensionVersion) props :=
  eq_changeVersion rfl fun _ _ => rfl

theorem names_overrideVersions (props exts : List XrExtensionProperties) :
    extensionNames (exts.foldl (fun ps ext => RuntimeInterface.overrideVersion ext ps) props) =
      extensionNames props := by
  induction exts generalizing props with
  | nil => rfl
  | cons ext exts ih => rw [List.foldl_cons, ih, RuntimeInterface.overrideVersion_eq, names_changeVersion]

theorem names_mergeExtensions (props exts : List XrExtensionProperties) (n : StdString) :
    n ∈ extensionNames (RuntimeInterface.mergeExtensions props exts) ↔
      n ∈ extensionNames props ∨ n ∈ extensionNames exts := by
  have hfold := names_overrideVersions props exts
  unfold RuntimeInterface.mergeExtensions
  unfold extensionNames at hfold ⊢
  rw [List.map_append, hfold, List.mem_append]
  simp only [List.mem_map, List.mem_filter, List.any_eq_true, decide_eq_true_eq]
  constructor
  · rintro (h | ⟨ext, ⟨hmem, -⟩, rfl⟩)
    · exact Or.inl h
    · exact Or.inr ⟨ext, hmem, rfl⟩
  · rintro (h | ⟨ext, hmem, rfl⟩)
    · exact Or.inl h
    · by_cases hin : ∃ prop ∈ props, prop.extensionName = ext.extensionName
      · exact Or.inl hin
      · exact Or.inr ⟨ext, ⟨hmem, hin⟩, rfl⟩

theorem names_addLoaderExtension (props : List XrExtensionProperties) (ext : XrExtensionProperties)
    (n : StdString) :
    n ∈ extensionNames (LoaderCore.addLoaderExtension props ext) ↔
      n ∈ extensionNames props ∨ n = ext.extensionName := by
  unfold LoaderCore.addLoaderExtension
  split_ifs with h
  · rw [LoaderCore.raiseVersion_eq, names_changeVersion]
    constructor
    · exact Or.inl
    · rintro (h' | rfl)
      · exact h'
      · simpa [extensionNames] using h
  · simp [extensionNames]

/-! ## Manifests that count -/

namespace ApiLayerInterface

/-- The manifests whose layers are enabled. -/
theorem mem_enabled (implicit explicit : List ApiLayerManifestFile) (names : List StdString)
    (m : ApiLayerManifestFile) :
    m ∈ (enableLayers implicit explicit names).enabled ↔ m ∈ implicit ∨
      m ∈ explicit ∧ m.layerName ∈ names ∧ m.layerName ∉ implicit.map (·.layerName) := by
  unfold enableLayers
  rw [enabled_foldl]
  simp [mem_select]

theorem supportsExtension_makeInterface (m : ApiLayerManifestFile) (library : ℕ)
    (request : XrNegotiateApiLayerRequest) (n : StdString) :
    (makeInterface m library request).supportsExtension n = true ↔ n ∈ m.reportedNames := by
  have := m.names_getInstanceExtensionProperties fit_nil n
  simpa [supportsExtension, makeInterface, extensionNames] using this

/-- Every library opens, and every layer in it is loaded. -/
def AllLoad (env : Environment) (initData : LoaderInitData) (manifests : List ApiLayerManifestFile) :
    Prop :=
  ∀ m ∈ manifests, ∀ t, ∃ request, (env.openLayer t m.libraryPath).map
    (negotiateLayer env.requiresPlatformInit initData m) = some (.loaded request)

theorem AllLoad.eachLoads {env : Environment} {initData : LoaderInitData}
    {manifests : List ApiLayerManifestFile} (h : AllLoad env initData manifests) (t : ℕ) :
    EachLoads (attempts env initData t manifests) := by
  intro x hx
  obtain ⟨m, hm, u, rfl⟩ := mem_attempts hx
  exact h m hm u

/-- The layers support what their manifests report. -/
theorem LayersOf.supports {interfaces : List ApiLayerInterface}
    {manifests : List ApiLayerManifestFile} (h : LayersOf interfaces manifests) (n : StdString) :
    (∃ iface ∈ interfaces, iface.supportsExtension n = true) ↔
      ∃ m ∈ manifests, n ∈ m.reportedNames := by
  induction h with
  | nil => simp
  | @cons iface m interfaces manifests hm _ ih =>
    obtain ⟨library, request, rfl⟩ := hm
    rw [List.exists_mem_cons_iff, List.exists_mem_cons_iff, ih, supportsExtension_makeInterface]

/-- The same manifests are found whenever they are looked for. -/
structure Finds (env : Environment) (implicit explicit : List ApiLayerManifestFile) : Prop where
  implicit : ∀ t, env.findLayerManifests t .implicitApiLayer = .ok (xrSuccess, implicit)
  explicit : ∀ t, env.findLayerManifests t .explicitApiLayer = .ok (xrSuccess, explicit)

theorem Finds.run_implicit {env : Environment} {implicit explicit : List ApiLayerManifestFile}
    (h : Finds env implicit explicit) (w : World) :
    findManifestFiles env .implicitApiLayer w = .ok (xrSuccess, implicit) w.tick := by
  rw [findManifestFiles_run, h.implicit]

theorem Finds.run_explicit {env : Environment} {implicit explicit : List ApiLayerManifestFile}
    (h : Finds env implicit explicit) (w : World) :
    findManifestFiles env .explicitApiLayer w = .ok (xrSuccess, explicit) w.tick := by
  rw [findManifestFiles_run, h.explicit]

theorem allLoad_enabled {env : Environment} {initData : LoaderInitData}
    {implicit explicit : List ApiLayerManifestFile}
    (h : AllLoad env initData (implicit ++ explicit)) (names : List StdString) :
    AllLoad env initData (enableLayers implicit explicit names).enabled := by
  intro m hm
  rcases (mem_enabled _ _ _ m).mp hm with hm | ⟨hm, -⟩
  · exact h m (List.mem_append_left _ hm)
  · exact h m (List.mem_append_right _ hm)

/-- What the layers of a create call support that names no layers of its own. -/
theorem supports_loadApiLayers {env : Environment} {implicit explicit : List ApiLayerManifestFile}
    (hfinds : Finds env implicit explicit) {w w' : World} {result : XrResult}
    {layers : List ApiLayerInterface} (hall : AllLoad env w.initData (implicit ++ explicit))
    (h : loadApiLayers env 0 none w = .ok (result, layers) w') (hs : xrSucceeded result)
    (n : StdString) :
    (∃ iface ∈ layers, iface.supportsExtension n = true) ↔
      ∃ m, (m ∈ implicit ∨ m ∈ explicit ∧ m.layerName ∈ environmentApiLayers env w ∧
        m.layerName ∉ implicit.map (·.layerName)) ∧ n ∈ m.reportedNames := by
  have hload := (allLoad_enabled hall (environmentApiLayers env w)).eachLoads (w.clock + 2)
  obtain ⟨result', layers', w'', hrun, hfound, hmissed⟩ := loadApiLayers_eachLoads
    (hfinds.implicit _) (hfinds.explicit _) (rfl : requestedLayers env w 0 none = _) hload
  rw [hrun] at h
  cases h
  by_cases hall' : AllFound implicit explicit (environmentApiLayers env w)
  · rw [(hfound hall').2.supports]
    simp only [mem_enabled]
  · rw [hmissed hall'] at hs
    exact absurd hs (by decide)

/-- What is enumerated from the manifests. -/
theorem layerExtensionProperties_run {env : Environment}
    {implicit explicit : List ApiLayerManifestFile} (hfinds : Finds env implicit explicit)
    (w : World) : ∃ w', getInstanceExtensionProperties env none w =
      .ok (xrSuccess, collectExtensions
        (enumeratedManifests implicit explicit (environmentApiLayers env w)) []) w' ∧ Later w w' := by
  unfold getInstanceExtensionProperties
  dsimp only
  rw [bind_of_ok (hfinds.run_implicit w)]
  dsimp only
  rw [bind_of_ok get_run]
  by_cases hnames : environmentApiLayers env w = []
  · have hcond : ¬ (xrSucceeded xrSuccess ∧ environmentApiLayers env w.tick ≠ []) := fun h => h.2 hnames
    have hmanifests : enumeratedManifests implicit explicit [] = implicit := by
      simp [enumeratedManifests]
    rw [if_neg hcond, hnames, hmanifests]
    exact ⟨_, rfl, ⟨_, rfl⟩⟩
  · have hcond : xrSucceeded xrSuccess ∧ environmentApiLayers env w.tick ≠ [] := ⟨le_refl _, hnames⟩
    rw [if_pos hcond, bind_of_ok (hfinds.run_explicit w.tick)]
    exact ⟨_, rfl, ⟨_, rfl⟩⟩

theorem names_enumeratedManifests (implicit explicit : List ApiLayerManifestFile)
    (names : List StdString) (n : StdString) :
    n ∈ extensionNames (collectExtensions (enumeratedManifests implicit explicit names) []) ↔
      ∃ m, (m ∈ implicit ∨ m ∈ explicit ∧ m.layerName ∈ names) ∧ n ∈ m.reportedNames := by
  rw [names_collectExtensions]
  simp [enumeratedManifests]

end ApiLayerInterface

/-! ## The runtime's extensions -/

namespace RuntimeInterface

/-- Each runtime answers every query with the same list. -/
def Reports (env : Environment) (exts : ℕ → List XrExtensionProperties) : Prop :=
  ∀ t gipa, filledExtensions (env.queryExtensions t gipa) = pure (exts gipa)

/-- The loaded runtime was asked for its extensions in these surroundings. -/
def Noted (exts : ℕ → List XrExtensionProperties) (w : World) : Prop :=
  ∀ rt ∈ w.runtime, rt.supportedExtensions = extensionNames (exts rt.getInstanceProcAddr)

theorem getInstanceExtensionProperties_run {env : Environment} {exts : ℕ → List XrExtensionProperties}
    (h : Reports env exts) {w : World} {rt : RuntimeInterface} (hrt : w.runtime = some rt)
    (props : List XrExtensionProperties) : getInstanceExtensionProperties env props w =
      .ok (mergeExtensions props (exts rt.getInstanceProcAddr)) w.tick := by
  unfold getInstanceExtensionProperties
  rw [bind_of_ok (getRuntime_of_some hrt), bind_of_ok ask_run, h]
  rfl

theorem noteSupportedExtensions_run {env : Environment} {exts : ℕ → List XrExtensionProperties}
    (h : Reports env exts) {w : World} {rt : RuntimeInterface} (hrt : w.runtime = some rt) :
    noteSupportedExtensions env w = .ok ⟨⟩ { w.tick with
      runtime := some { rt with
        supportedExtensions := extensionNames (exts rt.getInstanceProcAddr) } } := by
  unfold noteSupportedExtensions
  rw [bind_of_ok (getInstanceExtensionProperties_run h hrt []), mergeExtensions_nil]
  change EStateM.Result.ok _ _ = _
  simp only [World.tick, hrt, Option.map_some, extensionNames]

theorem tryLoadingSingleRuntime_noted {env : Environment} {exts : ℕ → List XrExtensionProperties}
    (h : Reports env exts) (manifest : RuntimeManifestFile) :
    Triple (Noted exts) (tryLoadingSingleRuntime env manifest) (fun _ => Noted exts)
      (fun _ _ => True) := by
  intro w hw
  rw [tryLoadingSingleRuntime_eq]
  cases (env.openRuntime w.clock manifest.libraryPath).map
      (negotiateRuntime env.requiresPlatformInit w.initData manifest) with
  | none => exact hw
  | some outcome =>
    cases outcome with
    | error res => exact hw
    | ok gipa =>
      dsimp only
      rw [bind_of_ok (noteSupportedExtensions_run h rfl)]
      rintro rt ⟨⟩
      rfl

theorem tryManifests_noted {env : Environment} {exts : ℕ → List XrExtensionProperties}
    (h : Reports env exts) (manifests : List RuntimeManifestFile) (lastError : XrResult) :
    Triple (Noted exts) (tryManifests env lastError manifests) (fun _ => Noted exts)
      (fun _ _ => True) := by
  induction manifests generalizing lastError with
  | nil => exact Triple.pure fun _ hw => hw
  | cons manifest manifests ih =>
    refine (tryLoadingSingleRuntime_noted h manifest).bind fun result => ?_
    split_ifs
    · exact Triple.pure fun _ hw => hw
    · exact ih result

theorem loadRuntime_noted {env : Environment} {exts : ℕ → List XrExtensionProperties}
    (h : Reports env exts) :
    Triple (Noted exts) (loadRuntime env) (fun _ => Noted exts) (fun _ _ => True) := by
  have hfound (result : XrResult) (manifests : List RuntimeManifestFile) : Triple (Noted exts)
      (tryFoundManifests env result manifests) (fun _ => Noted exts) (fun _ _ => True) := by
    unfold tryFoundManifests
    split_ifs
    · exact Triple.pure fun _ hw => hw
    · exact tryManifests_noted h manifests _
  intro w hw
  unfold loadRuntime
  rw [bind_of_ok get_run]
  split_ifs
  · exact hw
  rw [bind_of_ok get_run]
  split_ifs
  · exact hw
  rw [bind_of_ok ask_run]
  cases env.findRuntimeManifests w.clock with
  | error fault => trivial
  | ok found =>
    refine (hfound found.1 found.2).bind (fun result => ?_) w.tick hw
    split_ifs
    · exact Triple.pure fun _ hw => hw
    · exact Triple.pure fun _ hw => hw

end RuntimeInterface

namespace LoaderCore

theorem names_addLoaderExtensions (props exts : List XrExtensionProperties) (n : StdString) :
    n ∈ extensionNames (exts.foldl addLoaderExtension props) ↔
      n ∈ extensionNames props ∨ n ∈ extensionNames exts := by
  induction exts generalizing props with
  | nil => simp [extensionNames]
  | cons ext exts ih =>
    rw [List.foldl_cons, ih, names_addLoaderExtension]
    simp [extensionNames, or_assoc]

/-- The list that is enumerated without a layer name, and the runtime it was taken from. -/
theorem extensionProperties_run {env : Environment} {implicit explicit : List ApiLayerManifestFile}
    {exts : ℕ → List XrExtensionProperties} (hfinds : ApiLayerInterface.Finds env implicit explicit)
    (hreports : RuntimeInterface.Reports env exts) {w w' : World} {result : XrResult}
    {props : List XrExtensionProperties}
    (h : extensionProperties env none w = .ok (result, props) w') (hs : xrSucceeded result) :
    ∃ rt, w'.runtime = some rt ∧
      (RuntimeInterface.Noted exts w →
        rt.supportedExtensions = extensionNames (exts rt.getInstanceProcAddr)) ∧
      props = LoaderInstance.loaderSpecificExtensions.foldl addLoaderExtension
        (RuntimeInterface.mergeExtensions (ApiLayerInterface.collectExtensions
          (ApiLayerInterface.enumeratedManifests implicit explicit
            (ApiLayerInterface.environmentApiLayers env w)) []) (exts rt.getInstanceProcAddr)) := by
  obtain ⟨w₁, hlayers, c, rfl⟩ := ApiLayerInterface.layerExtensionProperties_run hfinds w
  obtain ⟨⟨result', props'⟩, w₂, hcollect, hrest⟩ := bind_eq_ok.mp h
  unfold collectExtensions at hcollect
  rw [bind_of_ok hlayers] at hcollect
  dsimp only at hcollect
  rw [if_neg (by simp)] at hcollect
  obtain ⟨loaded, w₃, hload, hcollect⟩ := bind_eq_ok.mp hcollect
  have hspec := (RuntimeInterface.loadRuntime_spec env _).of_ok rfl hload
  dsimp only at hcollect hrest
  have hresult : ¬ (xrFailed result' ∨ (none : Option StdString).isSome) := by
    intro hfailed
    rw [if_pos hfailed] at hrest
    obtain ⟨⟨⟩, -⟩ := pure_eq_ok.mp hrest
    exact not_xrSucceeded.mpr (by simpa using hfailed) hs
  rw [if_neg hresult] at hrest
  obtain ⟨⟨⟩, rfl⟩ := pure_eq_ok.mp hrest
  by_cases hfailed : xrFailed loaded
  · rw [if_pos hfailed] at hcollect
    obtain ⟨⟨⟩, -⟩ := pure_eq_ok.mp hcollect
    exact absurd (Or.inl hfailed) hresult
  rw [if_neg hfailed] at hcollect
  obtain ⟨rt, hrt⟩ := Option.isSome_iff_exists.mp (hspec.2.mp (not_xrFailed.mp hfailed))
  rw [bind_of_ok (RuntimeInterface.getInstanceExtensionProperties_run hreports hrt _)] at hcollect
  obtain ⟨⟨⟩, rfl⟩ := pure_eq_ok.mp hcollect
  refine ⟨rt, hrt, fun hnoted => ?_, rfl⟩
  exact (RuntimeInterface.loadRuntime_noted hreports).of_ok (s := { w with clock := c }) hnoted hload
    rt hrt

theorem names_extensionProperties (implicit explicit : List ApiLayerManifestFile)
    (names : List StdString) (exts : List XrExtensionProperties) (n : StdString) :
    n ∈ extensionNames (LoaderInstance.loaderSpecificExtensions.foldl addLoaderExtension
      (RuntimeInterface.mergeExtensions (ApiLayerInterface.collectExtensions
        (ApiLayerInterface.enumeratedManifests implicit explicit names) []) exts)) ↔
      (∃ m, (m ∈ implicit ∨ m ∈ explicit ∧ m.layerName ∈ names) ∧ n ∈ m.reportedNames) ∨
        n ∈ extensionNames exts ∨ n ∈ extensionNames LoaderInstance.loaderSpecificExtensions := by
  rw [names_addLoaderExtensions, names_mergeExtensions,
    ApiLayerInterface.names_enumeratedManifests, or_assoc]

theorem isSupported_iff (rt : RuntimeInterface) (layers : List ApiLayerInterface) (n : StdString) :
    LoaderInstance.isSupported rt layers n = true ↔ n ∈ rt.supportedExtensions ∨
      n ∈ extensionNames LoaderInstance.loaderSpecificExtensions ∨
      ∃ iface ∈ layers, iface.supportsExtension n = true := by
  simp [LoaderInstance.isSupported, RuntimeInterface.supportsExtension, extensionNames, or_assoc]

theorem checkExtensions_singleton (layers : List ApiLayerInterface) (n : StdString) {w : World}
    {rt : RuntimeInterface} (hrt : w.runtime = some rt) :
    LoaderInstance.checkExtensions layers [n] w = .ok xrSuccess w ↔
      LoaderInstance.isSupported rt layers n = true := by
  rw [LoaderInstance.checkExtensions_run layers [n] hrt]
  by_cases h : LoaderInstance.isSupported rt layers n = true
  · simp [h]
  · simp [h, xrErrorExtensionNotPresent, xrSuccess]

/-- The layer's library is loaded when the application names no layers. -/
def Enabled (implicit explicit : List ApiLayerManifestFile) (names : List StdString)
    (m : ApiLayerManifestFile) : Prop :=
  m ∈ implicit ∨ m ∈ explicit ∧ m.layerName ∈ names ∧ m.layerName ∉ implicit.map (·.layerName)

/-- An explicit layer that the environment names, and that an implicit layer of the same name
keeps out, reports only what is there without it. -/
def ShadowedCovered (implicit explicit : List ApiLayerManifestFile) (names : List StdString)
    (runtimeExtensions : List XrExtensionProperties) : Prop :=
  ∀ m ∈ explicit, m.layerName ∈ names → m.layerName ∈ implicit.map (·.layerName) →
    ∀ n ∈ m.reportedNames, n ∈ extensionNames runtimeExtensions ∨
      n ∈ extensionNames LoaderInstance.loaderSpecificExtensions ∨
      ∃ m', Enabled implicit explicit names m' ∧ n ∈ m'.reportedNames

/-- What is enumerated is what may be enabled exactly when no layer that is kept out reports
an extension of its own. -/
theorem enumerated_iff_accepted_iff {env : Environment}
    {implicit explicit : List ApiLayerManifestFile} {exts : ℕ → List XrExtensionProperties}
    (hfinds : ApiLayerInterface.Finds env implicit explicit)
    (hreports : RuntimeInterface.Reports env exts) {w w₁ w₂ : World}
    (hnoted : RuntimeInterface.Noted exts w)
    (hall : ApiLayerInterface.AllLoad env w.initData (implicit ++ explicit))
    {result result' : XrResult} {props : List XrExtensionProperties}
    {layers : List ApiLayerInterface}
    (henum : extensionProperties env none w = .ok (result, props) w₁) (hs : xrSucceeded result)
    (hload : ApiLayerInterface.loadApiLayers env 0 none w₁ = .ok (result', layers) w₂)
    (hs' : xrSucceeded result') :
    ∃ rt, w₁.runtime = some rt ∧
      ((∀ n, n ∈ extensionNames props ↔
          LoaderInstance.checkExtensions layers [n] w₂ = .ok xrSuccess w₂) ↔
        ShadowedCovered implicit explicit (ApiLayerInterface.environmentApiLayers env w)
          (exts rt.getInstanceProcAddr)) := by
  obtain ⟨rt, hrt, hrtnames, rfl⟩ := extensionProperties_run hfinds hreports henum hs
  have hrtexts := hrtnames hnoted
  refine ⟨rt, hrt, ?_⟩
  have hloads := (extensionProperties_loads env none).of_ok henum
  have hnames : ApiLayerInterface.environmentApiLayers env w₁ =
      ApiLayerInterface.environmentApiLayers env w := by
    unfold ApiLayerInterface.environmentApiLayers ApiLayerInterface.properties
    rw [hloads.overrides]
  have hlayers := ApiLayerInterface.supports_loadApiLayers hfinds (hloads.initData ▸ hall) hload hs'
  rw [hnames] at hlayers
  have hrt₂ : w₂.runtime = some rt := by
    obtain ⟨c, l, rfl, -⟩ := (ApiLayerInterface.loadApiLayers_spec env 0 none w₁).of_ok
      ⟨w₁.clock, rfl⟩ hload
    exact hrt
  simp only [checkExtensions_singleton layers _ hrt₂, isSupported_iff, hlayers, names_extensionProperties,
    hrtexts]
  constructor
  · intro h m hm hname hshadowed n hn
    exact (h n).mp (Or.inl ⟨m, Or.inr ⟨hm, hname⟩, hn⟩)
  · intro h n
    constructor
    · rintro (⟨m, hm | ⟨hm, hname⟩, hn⟩ | hn | hn)
      · exact Or.inr (Or.inr ⟨m, Or.inl hm, hn⟩)
      · by_cases hshadowed : m.layerName ∈ implicit.map (·.layerName)
        · exact h m hm hname hshadowed n hn
        · exact Or.inr (Or.inr ⟨m, Or.inr ⟨hm, hname, hshadowed⟩, hn⟩)
      · exact Or.inl hn
      · exact Or.inr (Or.inl hn)
    · rintro (hn | hn | ⟨m, hm | ⟨hm, hname, -⟩, hn⟩)
      · exact Or.inr (Or.inl hn)
      · exact Or.inr (Or.inr hn)
      · exact Or.inl ⟨m, Or.inl hm, hn⟩
      · exact Or.inl ⟨m, Or.inr ⟨hm, hname⟩, hn⟩

def explicitLayer (name extension : StdString) : ApiLayerManifestFile :=
  { ApiLayerInterface.implicitLayer name with
    type := .explicitApiLayer
    instanceExtensions := [⟨extension, 1⟩] }

/-- The environment enables the layer a, which is found as an implicit layer of the given name
and as an explicit one. -/
def layersNamed (implicitName : StdString) : Environment :=
  { runtimeAndLayer with
    platform := ⟨fun name => if name = "XR_ENABLE_API_LAYERS".toList then ['a'] else [],
      fun _ => [], fun _ => false⟩
    findLayerManifests := fun _ type => .ok (xrSuccess,
      if type = .implicitApiLayer then [ApiLayerInterface.implicitLayer implicitName]
      else [explicitLayer ['a'] ['x']]) }

theorem finds_layersNamed (implicitName : StdString) :
    ApiLayerInterface.Finds (layersNamed implicitName)
      [ApiLayerInterface.implicitLayer implicitName] [explicitLayer ['a'] ['x']] :=
  ⟨fun _ => rfl, fun _ => rfl⟩

theorem reports_layersNamed (implicitName : StdString) :
    RuntimeInterface.Reports (layersNamed implicitName) fun _ => [] := fun _ _ => rfl

theorem allLoad_layersNamed (implicitName : StdString) (initData : LoaderInitData)
    (manifests : List ApiLayerManifestFile) :
    ApiLayerInterface.AllLoad (layersNamed implicitName) initData manifests := fun _ _ _ =>
  ⟨_, rfl⟩

theorem enumerated_iff_accepted_iff_notShadowed : ∃ result props w₁ result' layers w₂,
    extensionProperties (layersNamed ['b']) none ApiLayerInterface.quietWorld =
      .ok (result, props) w₁ ∧
    ApiLayerInterface.loadApiLayers (layersNamed ['b']) 0 none w₁ = .ok (result', layers) w₂ ∧
    ['x'] ∈ extensionNames props ∧
    ∃ rt, w₁.runtime = some rt ∧
      ((∀ n, n ∈ extensionNames props ↔
          LoaderInstance.checkExtensions layers [n] w₂ = .ok xrSuccess w₂) ↔
        ShadowedCovered [ApiLayerInterface.implicitLayer ['b']] [explicitLayer ['a'] ['x']]
          (ApiLayerInterface.environmentApiLayers (layersNamed ['b']) ApiLayerInterface.quietWorld)
          []) := by
  refine ⟨_, _, _, _, _, _, rfl, rfl, by decide, ?_⟩
  exact enumerated_iff_accepted_iff (finds_layersNamed _) (reports_layersNamed _)
    (by rintro rt ⟨⟩) (allLoad_layersNamed _ _ _) rfl (by decide) rfl (by decide)

/-- The explicit layer's extension is enumerated, but its library is not loaded. -/
theorem shadowedExtension_refused :
    ApiLayerInterface.Finds (layersNamed ['a'])
      [ApiLayerInterface.implicitLayer ['a']] [explicitLayer ['a'] ['x']] ∧
    RuntimeInterface.Reports (layersNamed ['a']) (fun _ => []) ∧
    ApiLayerInterface.AllLoad (layersNamed ['a']) ApiLayerInterface.quietWorld.initData
      [ApiLayerInterface.implicitLayer ['a'], explicitLayer ['a'] ['x']] ∧
    ∃ props w₁ layers w₂,
      extensionProperties (layersNamed ['a']) none ApiLayerInterface.quietWorld =
        .ok (xrSuccess, props) w₁ ∧
      ApiLayerInterface.loadApiLayers (layersNamed ['a']) 0 none w₁ = .ok (xrSuccess, layers) w₂ ∧
      ['x'] ∈ extensionNames props ∧
      LoaderInstance.checkExtensions layers [['x']] w₂ = .ok xrErrorExtensionNotPresent w₂ :=
  ⟨finds_layersNamed _, reports_layersNamed _, allLoad_layersNamed _ _ _,
    _, _, _, _, rfl, rfl, by decide, rfl⟩

end LoaderCore
end OpenXRSdk
