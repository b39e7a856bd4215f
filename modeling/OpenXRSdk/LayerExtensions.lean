import OpenXRSdk.LayerOrder

/-!
# The extensions of a named layer

The list that is reported for a layer against what an instance with that layer accepts.
-/
namespace OpenXRSdk.ApiLayerInterface

open StateProgram

/-- The query for a layer, and what becomes of a name that is the empty string. -/
def namedQuery (env : Environment) (layerName : StdString) : Loader (XrResult × List XrExtensionProperties) :=
  getInstanceExtensionProperties env ((some layerName).filter (!·.isEmpty))

section NamedLayer
variable {env : Environment} {implicit explicit : List ApiLayerManifestFile}
  (hfinds : Finds env implicit explicit) {n : StdString} (hn : n ≠ [])
include hfinds hn

/-- A query that succeeds reports the extensions of the first layer of the name. -/
theorem namedQuery_succeeded {w w' : World} {result : XrResult} {props : List XrExtensionProperties}
    (h : namedQuery env n w = .ok (result, props) w') (hs : xrSucceeded result) :
    ∃ m, (implicit ++ explicit).find? (·.layerName = n) = some m ∧
      props = m.getInstanceExtensionProperties [] := by
  have hname : (some n).filter (!·.isEmpty) = some n := by simp [hn]
  unfold namedQuery at h
  rw [hname] at h
  cases hm : (implicit ++ explicit).find? (·.layerName = n) with
  | some m =>
    rw [getInstanceExtensionProperties_of_found hfinds hm] at h
    cases h
    exact ⟨m, rfl, rfl⟩
  | none =>
    unfold getInstanceExtensionProperties at h
    dsimp only at h
    rw [bind_of_ok (hfinds.run_implicit w)] at h
    dsimp only at h
    rw [if_pos (by decide), bind_of_ok (hfinds.run_explicit w.tick)] at h
    dsimp only at h
    rw [if_neg (by decide), hm] at h
    cases h
    exact absurd hs (by decide)

end NamedLayer

/-- The first layer of a requested name is enabled: an explicit one is kept out only by an
implicit one that comes before it. -/
theorem firstNamed_enabled {implicit explicit : List ApiLayerManifestFile} {n : StdString}
    {m : ApiLayerManifestFile} (hm : (implicit ++ explicit).find? (·.layerName = n) = some m)
    {requested : List StdString} (hn : n ∈ requested) :
    m ∈ (enableLayers implicit explicit requested).enabled := by
  have hname : m.layerName = n := by simpa using List.find?_some hm
  rw [mem_enabled]
  rw [List.find?_append] at hm
  cases himplicit : implicit.find? (·.layerName = n) with
  | some m' =>
    rw [himplicit] at hm
    cases hm
    exact Or.inl (List.mem_of_find?_eq_some himplicit)
  | none =>
    rw [himplicit] at hm
    have hnone : ∀ m' ∈ implicit, m'.layerName ≠ n := by simpa using himplicit
    refine Or.inr ⟨List.mem_of_find?_eq_some hm, hname ▸ hn, fun hmem => ?_⟩
    obtain ⟨m', hm', hname'⟩ := List.mem_map.mp hmem
    exact hnone m' hm' (hname'.trans hname)

end OpenXRSdk.ApiLayerInterface

namespace OpenXRSdk.LoaderInstance

open StateProgram

theorem checkExtensions_of_supported {layers : List ApiLayerInterface} {names : List StdString}
    (h : ∀ n ∈ names, ∃ iface ∈ layers, iface.supportsExtension n = true) {w : World}
    (hruntime : w.runtime.isSome) : checkExtensions layers names w = .ok xrSuccess w := by
  obtain ⟨rt, hrt⟩ := Option.isSome_iff_exists.mp hruntime
  have hall : names.all (isSupported rt layers) = true := by
    rw [List.all_eq_true]
    exact fun n hn => (LoaderCore.isSupported_iff rt layers n).mpr (Or.inr (Or.inr (h n hn)))
  rw [checkExtensions_run layers names hrt, if_pos hall]

open ApiLayerInterface

/-- What is reported for a layer is accepted by an instance that the layer is requested for. -/
theorem namedExtensions_accepted {env : Environment} {implicit explicit : List ApiLayerManifestFile}
    (hfinds : Finds env implicit explicit) {n : StdString} (hn : n ≠ []) {w w₁ : World}
    {result : XrResult} {props : List XrExtensionProperties}
    (hquery : namedQuery env n w = .ok (result, props) w₁) (hs : xrSucceeded result) {w₂ w₃ : World}
    {count : ℕ} {names : Option (List StdString)} {requested : List StdString}
    (hrequested : requestedLayers env w₂ count names = some requested) (hmem : n ∈ requested)
    (hload : EachLoads (enabledAttempts env w₂ implicit explicit requested)) {result' : XrResult}
    {layers : List ApiLayerInterface}
    (hrun : loadApiLayers env count names w₂ = .ok (result', layers) w₃) (hs' : xrSucceeded result') :
    ∀ extensions ⊆ extensionNames props, ∀ w₄ : World, w₄.runtime.isSome →
      checkExtensions layers extensions w₄ = .ok xrSuccess w₄ := by
  obtain ⟨m, hm, rfl⟩ := namedQuery_succeeded hfinds hn hquery hs
  obtain ⟨result'', layers', w', hrun', hfound, hmissed⟩ := loadApiLayers_eachLoads
    (hfinds.implicit _) (hfinds.explicit _) hrequested hload
  rw [hrun'] at hrun
  cases hrun
  have hall : AllFound implicit explicit requested := by
    by_contra hall
    rw [hmissed hall] at hs'
    exact absurd hs' (by decide)
  intro extensions hsub w₄ hruntime
  refine checkExtensions_of_supported (fun e he => ?_) hruntime
  rw [(hfound hall).2.supports]
  refine ⟨m, firstNamed_enabled hm hmem, ?_⟩
  simpa [extensionNames] using (m.names_getInstanceExtensionProperties fit_nil e).mp (hsub he)

def runtimeWorld : World := { quietWorld with runtime := some ⟨0, 1, ∅, ∅, []⟩ }

theorem namedExtensions_accepted_a : ∃ props w₁ layers w₃,
    namedQuery (LoaderCore.layersNamed ['b']) ['a'] quietWorld = .ok (xrSuccess, props) w₁ ∧
    loadApiLayers (LoaderCore.layersNamed ['b']) 0 none quietWorld = .ok (xrSuccess, layers) w₃ ∧
    extensionNames props = [['x']] ∧
    checkExtensions layers [['x']] runtimeWorld = .ok xrSuccess runtimeWorld := by
  refine ⟨_, _, _, _, rfl, rfl, rfl, ?_⟩
  refine namedExtensions_accepted (LoaderCore.finds_layersNamed ['b']) (by decide : ['a'] ≠ [])
    (rfl : namedQuery _ ['a'] quietWorld = _) (by decide)
    (rfl : requestedLayers (LoaderCore.layersNamed ['b']) quietWorld 0 none = _) (by decide) ?_
    rfl (by decide) [['x']] (by decide) runtimeWorld rfl
  exact AllLoad.eachLoads (LoaderCore.allLoad_layersNamed ['b'] _ _) _

def layerWithoutName : Environment :=
  { LoaderCore.layersNamed ['a'] with
    findLayerManifests := fun _ type => .ok (xrSuccess,
      if type = .implicitApiLayer then [implicitLayer ['a'], implicitLayer []]
      else [LoaderCore.explicitLayer ['a'] ['x']]) }

/-- The empty name is not taken for the name of a layer, and what is reported instead is not
what the instance accepts. -/
theorem emptyName_notAccepted :
    Finds layerWithoutName [implicitLayer ['a'], implicitLayer []]
      [LoaderCore.explicitLayer ['a'] ['x']] ∧
    (∀ m ∈ [implicitLayer ['a'], implicitLayer [], LoaderCore.explicitLayer ['a'] ['x']], ∀ t,
      ∃ request, (layerWithoutName.openLayer t m.libraryPath).map
        (negotiateLayer layerWithoutName.requiresPlatformInit quietWorld.initData m) =
          some (.loaded request)) ∧
    ∃ props w₁ layers w₃,
      namedQuery layerWithoutName [] quietWorld = .ok (xrSuccess, props) w₁ ∧
      loadApiLayers layerWithoutName 1 (some [[]]) quietWorld = .ok (xrSuccess, layers) w₃ ∧
      ['x'] ∈ extensionNames props ∧
      checkExtensions layers [['x']] runtimeWorld = .ok xrErrorExtensionNotPresent runtimeWorld :=
  ⟨⟨fun _ => rfl, fun _ => rfl⟩, fun _ _ _ => ⟨_, rfl⟩, _, _, _, _, rfl, rfl, by decide, rfl⟩

end OpenXRSdk.LoaderInstance
