import OpenXRSdk.ExtensionAgreement
import OpenXRSdk.TwoCallEnumeration

/-!
# Names of layers

A layer is reported under a bounded copy of its name and looked for under the name that the
application passes: when what is reported can be requested.
-/
namespace OpenXRSdk.ApiLayerInterface

open StateProgram

/-- Whether all layers are found does not depend on the name being among those requested. -/
def NeverMissed (implicit explicit : List ApiLayerManifestFile) (n : StdString) : Prop :=
  ∀ before after, (enableLayers implicit explicit (before ++ n :: after)).foundAllLayers =
    (enableLayers implicit explicit (before ++ after)).foundAllLayers

/-- With these manifests, LoadApiLayers does not fail for want of the layer `n`, and neither
does GetInstanceExtensionProperties when it is asked for that layer. -/
structure Requestable (implicit explicit : List ApiLayerManifestFile) (n : StdString) : Prop where
  neverMissed : NeverMissed implicit explicit n
  loadApiLayers : ∀ env, Finds env implicit explicit → ∀ w count names,
    AllLoad env w.initData (implicit ++ explicit) →
    AllFound implicit explicit
      ((environmentApiLayers env w ++ names.take count).filter (· ≠ n)) →
    ∀ result layers w', loadApiLayers env count (some names) w = .ok (result, layers) w' →
      result ≠ xrErrorApiLayerNotPresent
  getInstanceExtensionProperties : ∀ env, Finds env implicit explicit → ∀ w result props w',
    getInstanceExtensionProperties env ((some n).filter (!·.isEmpty)) w =
      .ok (result, props) w' → result ≠ xrErrorApiLayerNotPresent

/-- Where every library loads, the call succeeds when every name is found. -/
theorem loadApiLayers_of_allFound {env : Environment} {implicit explicit : List ApiLayerManifestFile}
    (hfinds : Finds env implicit explicit) {w w' : World} {count : ℕ}
    {names : Option (List StdString)} {requested : List StdString}
    (hrequested : requestedLayers env w count names = some requested)
    (hall : AllLoad env w.initData (implicit ++ explicit))
    (hfound : AllFound implicit explicit requested) {result : XrResult}
    {layers : List ApiLayerInterface}
    (h : loadApiLayers env count names w = .ok (result, layers) w') : xrSucceeded result := by
  have hload := (allLoad_enabled hall requested).eachLoads (w.clock + 2)
  obtain ⟨result', layers', w'', hrun, hsucceeded, -⟩ := loadApiLayers_eachLoads
    (hfinds.implicit _) (hfinds.explicit _) hrequested hload
  rw [hrun] at h
  cases h
  rw [(hsucceeded hfound).1]

theorem neverMissed_iff (implicit explicit : List ApiLayerManifestFile) (n : StdString) :
    NeverMissed implicit explicit n ↔ ∃ m ∈ implicit ++ explicit, m.layerName = n := by
  constructor
  · intro h
    have hnone := (enableLayers_found implicit explicit []).mpr (by simp)
    rw [← List.nil_append [], ← h [] [], enableLayers_found] at hnone
    exact hnone n (by simp)
  · intro h before after
    rw [Bool.eq_iff_iff, enableLayers_found, enableLayers_found]
    constructor
    · intro hall n' hn'
      refine hall n' ?_
      rcases List.mem_append.mp hn' with hm | hm
      · exact List.mem_append_left _ hm
      · exact List.mem_append_right _ (List.mem_cons_of_mem _ hm)
    · intro hall n' hn'
      rcases List.mem_append.mp hn' with hm | hm
      · exact hall n' (List.mem_append_left _ hm)
      · rcases List.mem_cons.mp hm with rfl | hm
        · exact h
        · exact hall n' (List.mem_append_right _ hm)

/-- A layer is asked for by name. -/
theorem getInstanceExtensionProperties_of_found {env : Environment}
    {implicit explicit : List ApiLayerManifestFile} (hfinds : Finds env implicit explicit)
    {m : ApiLayerManifestFile} {n : StdString}
    (hm : (implicit ++ explicit).find? (·.layerName = n) = some m) (w : World) :
    getInstanceExtensionProperties env (some n) w =
      .ok (xrSuccess, m.getInstanceExtensionProperties []) w.tick.tick := by
  unfold getInstanceExtensionProperties
  dsimp only
  rw [bind_of_ok (hfinds.run_implicit w)]
  dsimp only
  rw [if_pos (by decide), bind_of_ok (hfinds.run_explicit w.tick)]
  dsimp only
  rw [if_neg (by decide), hm]
  rfl

theorem requestable_iff (implicit explicit : List ApiLayerManifestFile) (n : StdString) :
    Requestable implicit explicit n ↔ ∃ m ∈ implicit ++ explicit, m.layerName = n := by
  refine ⟨fun h => (neverMissed_iff _ _ _).mp h.neverMissed, fun h =>
    ⟨(neverMissed_iff _ _ _).mpr h, ?_, ?_⟩⟩
  · intro env hfinds w count names hall hothers result layers w' hrun
    have hfound : AllFound implicit explicit (environmentApiLayers env w ++ names.take count) := by
      intro n' hn'
      by_cases hn : n' = n
      · exact hn ▸ h
      · exact hothers n' (List.mem_filter.mpr ⟨hn', by simpa using hn⟩)
    have hrequested : requestedLayers env w count (some names) =
        some (environmentApiLayers env w ++ names.take count) := by
      unfold requestedLayers
      split_ifs with hcount
      · simp [hcount]
      · rfl
    rintro rfl
    exact absurd (loadApiLayers_of_allFound hfinds hrequested hall hfound hrun) (by decide)
  · intro env hfinds w result props w' hrun
    by_cases hn : n = []
    · obtain ⟨w'', hrun', -⟩ := layerExtensionProperties_run hfinds w
      subst hn
      change getInstanceExtensionProperties env none w = _ at hrun
      rw [hrun'] at hrun
      cases hrun
      decide
    · have hname : (some n).filter (!·.isEmpty) = some n := by simp [hn]
      obtain ⟨m, hm⟩ : ∃ m, (implicit ++ explicit).find? (·.layerName = n) = some m := by
        rw [← Option.isSome_iff_exists, List.find?_isSome]
        simpa using h
      rw [hname, getInstanceExtensionProperties_of_found hfinds hm] at hrun
      cases hrun
      decide

theorem apiLayerProperties_run {env : Environment} {implicit explicit : List ApiLayerManifestFile}
    (hfinds : Finds env implicit explicit) (w : World) : apiLayerProperties env w =
      .ok (xrSuccess, (implicit ++ explicit).map (·.populateApiLayerProperties)) w.tick.tick := by
  have hall : findAllManifestFiles env w = .ok (xrSuccess, implicit ++ explicit) w.tick.tick := by
    unfold findAllManifestFiles
    rw [bind_of_ok (hfinds.run_implicit w)]
    dsimp only
    rw [if_pos (by decide), bind_of_ok (hfinds.run_explicit w.tick)]
    rfl
  unfold apiLayerProperties
  rw [bind_of_ok hall]
  rfl

/-- A successful query that is not for the count alone reports every layer. -/
theorem getApiLayerProperties_reports {env : Environment}
    {implicit explicit : List ApiLayerManifestFile} (hfinds : Finds env implicit explicit)
    {capacity : ℕ} (hcapacity : 0 < capacity) {types : Option (List ℕ)} {w w' : World}
    {count : Option ℕ} {entries : List XrApiLayerProperties}
    (hrun : getApiLayerProperties env capacity true types w = .ok (xrSuccess, count, entries) w') :
    count = some (implicit ++ explicit).length ∧
      entries = (implicit ++ explicit).map (·.populateApiLayerProperties) := by
  by_cases hbad : 0 < capacity ∧ IllTyped xrTypeApiLayerProperties types
  · rw [getApiLayerProperties_refused env w hbad] at hrun
    cases hrun
  · rw [getApiLayerProperties_eq hbad, searchThen_run (apiLayerProperties_run hfinds w),
      if_neg (by decide)] at hrun
    unfold outputApiLayers at hrun
    rw [List.length_map] at hrun
    split_ifs at hrun with hmany hzero hnull hshort
    · cases hrun
    · exact absurd hzero hcapacity.ne'
    · cases hrun
    · cases hrun
    · cases hrun
      exact ⟨rfl, rfl⟩

/-- The layer's name fits the array it is reported in, or what is left of it there is the name
of a layer. -/
def NameStands (manifests : List ApiLayerManifestFile) (m : ApiLayerManifestFile) : Prop :=
  m.layerName.length < xrMaxApiLayerNameSize ∧ '\x00' ∉ m.layerName ∨
    ∃ m' ∈ manifests, m'.layerName = boundedCopy xrMaxApiLayerNameSize m.layerName

theorem boundedCopy_of_fits {size : ℕ} {s : StdString} (hlength : s.length < size)
    (hnull : '\x00' ∉ s) : boundedCopy size s = s := by
  have hwhole : cString s = s := by
    rw [cString, List.takeWhile_eq_self_iff]
    intro c hc
    simpa using fun h : c = '\x00' => hnull (h ▸ hc)
  rw [boundedCopy, hwhole, List.take_of_length_le (by omega)]

/-- A layer can be requested under the name that is reported for it exactly when that name
stands for a layer. -/
theorem reported_requestable_iff {env : Environment} {implicit explicit : List ApiLayerManifestFile}
    (hfinds : Finds env implicit explicit) {capacity : ℕ} (hcapacity : 0 < capacity)
    {types : Option (List ℕ)} {w w' : World} {count : Option ℕ}
    {entries : List XrApiLayerProperties}
    (hrun : getApiLayerProperties env capacity true types w = .ok (xrSuccess, count, entries) w') :
    count = some (implicit ++ explicit).length ∧
    ∀ i (hi : i < (implicit ++ explicit).length), ∃ entry, entries[i]? = some entry ∧
      (Requestable implicit explicit entry.layerName ↔
        NameStands (implicit ++ explicit) (implicit ++ explicit)[i]) := by
  obtain ⟨rfl, rfl⟩ := getApiLayerProperties_reports hfinds hcapacity hrun
  refine ⟨rfl, fun i hi => ⟨(implicit ++ explicit)[i].populateApiLayerProperties, ?_, ?_⟩⟩
  · rw [List.getElem?_map, List.getElem?_eq_getElem hi]
    rfl
  rw [requestable_iff]
  constructor
  · exact Or.inr
  · rintro (⟨hlength, hnull⟩ | h)
    · exact ⟨_, List.getElem_mem hi, (boundedCopy_of_fits hlength hnull).symm⟩
    · exact h

def explicitLayer (name : StdString) : ApiLayerManifestFile :=
  { implicitLayer name with type := .explicitApiLayer }

def explicitLayerNamed (name : StdString) : Environment :=
  { Environment.bare with
    findLayerManifests := fun _ type =>
      .ok (xrSuccess, if type = .explicitApiLayer then [explicitLayer name] else []) }

theorem finds_explicitLayerNamed (name : StdString) :
    Finds (explicitLayerNamed name) [] [explicitLayer name] := ⟨fun _ => rfl, fun _ => rfl⟩

theorem reported_requestable_iff_a :
    some 1 = some ([] ++ [explicitLayer ['a']]).length ∧
    ∀ i (hi : i < ([] ++ [explicitLayer ['a']]).length), ∃ entry,
      [(explicitLayer ['a']).populateApiLayerProperties][i]? = some entry ∧
        (Requestable [] [explicitLayer ['a']] entry.layerName ↔
          NameStands ([] ++ [explicitLayer ['a']]) ([] ++ [explicitLayer ['a']])[i]) :=
  reported_requestable_iff (finds_explicitLayerNamed ['a']) (by decide : 0 < 1)
    (rfl : getApiLayerProperties (explicitLayerNamed ['a']) 1 true (some [1]) quietWorld =
      .ok _ quietWorld.tick.tick)

set_option maxRecDepth 4000 in
/-- A layer whose name has 256 characters is reported, and what is reported for it is not found
by either call. -/
theorem longName_notRequestable :
    (∃ entry w', getApiLayerProperties (explicitLayerNamed (List.replicate 256 'a')) 1 true
        (some [1]) quietWorld = .ok (xrSuccess, some 1, [entry]) w' ∧
      entry.layerName = List.replicate 255 'a') ∧
    (∃ w', loadApiLayers (explicitLayerNamed (List.replicate 256 'a')) 1
        (some [List.replicate 255 'a']) quietWorld = .ok (xrErrorApiLayerNotPresent, []) w') ∧
    ∃ w', getInstanceExtensionProperties (explicitLayerNamed (List.replicate 256 'a'))
        (some (List.replicate 255 'a')) quietWorld = .ok (xrErrorApiLayerNotPresent, []) w' :=
  ⟨⟨_, _, rfl, by decide +kernel⟩, ⟨_, rfl⟩, ⟨_, rfl⟩⟩

end OpenXRSdk.ApiLayerInterface
