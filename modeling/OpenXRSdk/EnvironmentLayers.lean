import OpenXRSdk.ExtensionAgreement
import OpenXRSdk.SeparatedLists
import OpenXRSdk.SettledSteps

/-!
# Layers named by the environment

Two values of the variable that have the same non-empty components, and when the empty entries
of one of them make a difference.
-/
namespace OpenXRSdk.ApiLayerInterface

open SeparatedLists SettledSteps StateProgram World

/-! ## Empty entries -/

theorem filter_splitPathList {sep : Char} {current : StdString} (h : sep ∉ current) (v : StdString) :
    (splitPathList sep current v).filter (· ≠ []) = components sep (current ++ v) := by
  induction v generalizing current with
  | nil =>
    rw [List.append_nil, components_last h, splitPathList]
    cases current <;> simp
  | cons c v ih =>
    rw [splitPathList]
    by_cases hc : c = sep
    · subst hc
      rw [if_pos rfl, components_cons h, List.filter_cons, ih List.not_mem_nil]
      cases current <;> simp
    · rw [if_neg hc, ih (by simp [h, Ne.symm hc]), List.append_assoc]
      rfl

theorem settled_enableLayer_iff (s : Enabling) (n : StdString) :
    Settled enableLayer s n ↔ n ∈ s.layersAlreadyFound ∨
      s.explicit.filter (·.layerName = n) = [] ∧ s.foundAllLayers = false := by
  unfold Settled enableLayer
  by_cases hfound : n ∈ s.layersAlreadyFound
  · simp [hfound]
  · rw [if_neg hfound]
    by_cases hm : s.explicit.filter (·.layerName = n) = []
    · have hall : { s with foundAllLayers := false } = s ↔ s.foundAllLayers = false := by
        constructor
        · exact fun h => (congrArg (·.foundAllLayers) h).symm
        · intro h
          cases s
          cases h
          rfl
      rw [if_pos hm, hall]
      simp [hfound, hm]
    · rw [if_neg hm]
      refine iff_of_false (fun h => ?_) (by simp [hfound, hm])
      have hlength := congrArg (·.layersAlreadyFound.length) h
      simp at hlength

theorem settling_enableLayer : Settling enableLayer where
  again s n := by
    rw [settled_enableLayer_iff]
    unfold enableLayer
    by_cases hfound : n ∈ s.layersAlreadyFound
    · simp [hfound]
    · by_cases hm : s.explicit.filter (·.layerName = n) = []
      · simp [hfound, hm]
      · simp [hfound, hm]
  keep s n b h := by
    rw [settled_enableLayer_iff] at h ⊢
    unfold enableLayer
    by_cases hfound : b ∈ s.layersAlreadyFound
    · simpa [hfound] using h
    · by_cases hm : s.explicit.filter (·.layerName = b) = []
      · rcases h with h | ⟨h, hall⟩
        · simp [hfound, hm, h]
        · simp [hfound, hm, h]
      · rcases h with h | ⟨h, hall⟩
        · simp [hfound, hm, h]
        · rw [if_neg hfound, if_neg hm]
          refine Or.inr ⟨?_, hall⟩
          rw [List.filter_comm, h, List.filter_nil]

def entriesBefore (sep : Char) (v : StdString) : List StdString :=
  (splitPathList sep [] v).takeWhile (· ≠ [])

/-- Both lists have an empty entry or neither has one, and the same layers are named before
the first one. -/
def SameEntries (sep : Char) (v v' : StdString) : Prop :=
  ([] ∈ splitPathList sep [] v ↔ [] ∈ splitPathList sep [] v') ∧
    ∀ n, n ∈ entriesBefore sep v ↔ n ∈ entriesBefore sep v'

/-! ## Two values of the variable -/

section TwoValues

variable {env : Environment} {platform platform' : PlatformUtils} {w : World} {v v' : StdString}

/-- The list of the environment is the value `v` of the variable, taken apart. -/
theorem environmentApiLayers_eq
    (hv : (properties { env with platform := platform } w).get "XR_ENABLE_API_LAYERS".toList = v) :
    environmentApiLayers { env with platform := platform } w =
      splitPathList env.pathSeparator [] v := by
  rw [environmentApiLayers, hv]

theorem enableLayers_congr {sep : Char} (hcomp : components sep v = components sep v')
    (h : SameEntries sep v v') (implicit explicit : List ApiLayerManifestFile)
    (names : List StdString) :
    enableLayers implicit explicit (splitPathList sep [] v ++ names) =
      enableLayers implicit explicit (splitPathList sep [] v' ++ names) := by
  have hfilter : (splitPathList sep [] v).filter (· ≠ []) =
      (splitPathList sep [] v').filter (· ≠ []) := by
    rw [filter_splitPathList List.not_mem_nil, filter_splitPathList List.not_mem_nil]
    exact hcomp
  unfold enableLayers
  rw [List.foldl_append, List.foldl_append,
    settling_enableLayer.foldl_congr hfilter h.1 h.2]

theorem loadEnabledLayers_platform (enabling : Enabling) :
    loadEnabledLayers { env with platform := platform } enabling =
      loadEnabledLayers { env with platform := platform' } enabling := by
  refine SameLibraries.loadEnabledLayers_eq ?_ enabling
  exact ⟨rfl, rfl⟩

/-- The names of the application come after those of the environment. -/
theorem requestedLayers_eq (env : Environment) (count : ℕ) (names : Option (List StdString)) :
    requestedLayers env w count names =
      (if count = 0 then some [] else names.map (·.take count)).map
        (environmentApiLayers env w ++ ·) := by
  unfold requestedLayers
  split_ifs with hcount
  · simp
  · cases names <;> rfl

theorem findUnlessFailed_later (env : Environment) (result : XrResult) (type : ManifestFileType) :
    Within Later (fun _ => True) (findUnlessFailed env result type) := by
  unfold findUnlessFailed
  split_ifs
  · exact findManifestFiles_later env type
  · exact Within.pure _

theorem environmentApiLayers_later {t : World} (h : Later w t) :
    environmentApiLayers env t = environmentApiLayers env w := by
  obtain ⟨c, rfl⟩ := h
  rfl

/-- The calls that only differ in the value of the variable do the same when the lists enable
the same layers. -/
theorem loadApiLayers_congr
    (henabling : ∀ implicit explicit names,
      enableLayers implicit explicit
          (environmentApiLayers { env with platform := platform } w ++ names) =
        enableLayers implicit explicit
          (environmentApiLayers { env with platform := platform' } w ++ names))
    (count : ℕ) (names : Option (List StdString)) :
    loadApiLayers { env with platform := platform } count names w =
      loadApiLayers { env with platform := platform' } count names w := by
  unfold loadApiLayers
  refine bind_congr_of_ok fun found t ht => ?_
  obtain ⟨result, implicit⟩ := found
  refine bind_congr_of_ok fun found' t' ht' => ?_
  obtain ⟨result', explicit⟩ := found'
  have hlater : Later w t' := by
    obtain ⟨c, rfl⟩ := (findManifestFiles_later _ _).of_ok ht
    obtain ⟨c', rfl⟩ := (findUnlessFailed_later _ _ _).of_ok ht'
    exact ⟨c', rfl⟩
  refine bind_congr_of_ok fun u t'' hu => ?_
  obtain ⟨rfl, rfl⟩ := get_eq_ok.mp hu
  have hrequested (p : PlatformUtils) := requestedLayers_eq (w := t')
    { env with platform := p } count names
  by_cases hfound : xrSucceeded result'
  · rw [if_pos hfound, if_pos hfound, hrequested platform, hrequested platform']
    cases (if count = 0 then some [] else names.map (·.take count)) with
    | none => rfl
    | some rest =>
      have heq := henabling implicit explicit rest
      rw [← environmentApiLayers_later hlater, ← environmentApiLayers_later hlater] at heq
      change loadEnabledLayers { env with platform := platform } (enableLayers implicit explicit
          (environmentApiLayers { env with platform := platform } t' ++ rest)) t' =
        loadEnabledLayers { env with platform := platform' } (enableLayers implicit explicit
          (environmentApiLayers { env with platform := platform' } t' ++ rest)) t'
      rw [heq]
      exact congrFun (loadEnabledLayers_platform _) t'
  · rw [if_neg hfound, if_neg hfound]
    exact congrFun (loadEnabledLayers_platform _) t'

theorem getInstanceExtensionProperties_congr
    (hmem : ∀ n, n ∈ environmentApiLayers { env with platform := platform } w ↔
      n ∈ environmentApiLayers { env with platform := platform' } w) :
    getInstanceExtensionProperties { env with platform := platform } none w =
      getInstanceExtensionProperties { env with platform := platform' } none w := by
  unfold getInstanceExtensionProperties
  refine bind_congr_of_ok fun found t ht => ?_
  obtain ⟨result, implicit⟩ := found
  have hlater : Later w t := (findManifestFiles_later _ _).of_ok ht
  refine bind_congr_of_ok fun u t' hu => ?_
  obtain ⟨rfl, rfl⟩ := get_eq_ok.mp hu
  have hmem' : ∀ n, n ∈ environmentApiLayers { env with platform := platform } t ↔
      n ∈ environmentApiLayers { env with platform := platform' } t := by
    simpa only [environmentApiLayers_later hlater] using hmem
  have hmanifests (explicit : List ApiLayerManifestFile) :
      enumeratedManifests implicit explicit
          (environmentApiLayers { env with platform := platform } t) =
        enumeratedManifests implicit explicit
          (environmentApiLayers { env with platform := platform' } t) := by
    simp only [enumeratedManifests, hmem', List.contains_eq_mem]
  have hnil : environmentApiLayers { env with platform := platform } t = [] ↔
      environmentApiLayers { env with platform := platform' } t = [] := by
    simp only [List.eq_nil_iff_forall_not_mem, hmem']
  by_cases hcond : xrSucceeded result ∧
      environmentApiLayers { env with platform := platform' } t ≠ []
  · rw [if_pos hcond, if_pos ⟨hcond.1, mt hnil.mp hcond.2⟩]
    refine bind_congr_of_ok fun found' t' ht' => ?_
    obtain ⟨result', explicit⟩ := found'
    dsimp only
    rw [hmanifests]
  · rw [if_neg hcond, if_neg fun h => hcond ⟨h.1, mt hnil.mpr h.2⟩]

end TwoValues

/-! ## When empty entries are inert -/

/-- Calls that find `v` or `v'` in the variable enable the same layers, return the same result
and collect the same extensions, whatever manifests there are and whatever the application
requests. -/
def Inert (sep : Char) (v v' : StdString) : Prop :=
  ∀ (env : Environment) (platform platform' : PlatformUtils) (w : World),
    env.pathSeparator = sep →
    (properties { env with platform := platform } w).get "XR_ENABLE_API_LAYERS".toList = v →
    (properties { env with platform := platform' } w).get "XR_ENABLE_API_LAYERS".toList = v' →
    (∀ implicit explicit names,
      (enableLayers implicit explicit
          (environmentApiLayers { env with platform := platform } w ++ names)).enabled =
        (enableLayers implicit explicit
          (environmentApiLayers { env with platform := platform' } w ++ names)).enabled) ∧
    (∀ count names, loadApiLayers { env with platform := platform } count names w =
      loadApiLayers { env with platform := platform' } count names w) ∧
    getInstanceExtensionProperties { env with platform := platform } none w =
      getInstanceExtensionProperties { env with platform := platform' } none w

theorem SameEntries.inert {sep : Char} {v v' : StdString}
    (hcomp : components sep v = components sep v') (h : SameEntries sep v v') : Inert sep v v' := by
  intro env platform platform' w hsep hv hv'
  subst hsep
  have hmem (n : StdString) : n ∈ splitPathList env.pathSeparator [] v ↔
      n ∈ splitPathList env.pathSeparator [] v' := by
    by_cases hn : n = []
    · rw [hn]
      exact h.1
    · have hiff (u : StdString) : n ∈ splitPathList env.pathSeparator [] u ↔
          n ∈ components env.pathSeparator u := by
        have hfilter := filter_splitPathList (List.not_mem_nil (a := env.pathSeparator)) u
        rw [List.nil_append] at hfilter
        rw [← hfilter, List.mem_filter]
        simp [hn]
      rw [hiff, hiff, hcomp]
  have henabling (implicit explicit : List ApiLayerManifestFile) (names : List StdString) :
      enableLayers implicit explicit
          (environmentApiLayers { env with platform := platform } w ++ names) =
        enableLayers implicit explicit
          (environmentApiLayers { env with platform := platform' } w ++ names) := by
    rw [environmentApiLayers_eq hv, environmentApiLayers_eq hv']
    exact enableLayers_congr hcomp h implicit explicit names
  refine ⟨fun implicit explicit names => congrArg (·.enabled) (henabling implicit explicit names),
    loadApiLayers_congr henabling, getInstanceExtensionProperties_congr fun n => ?_⟩
  rw [environmentApiLayers_eq hv, environmentApiLayers_eq hv']
  exact hmem n

theorem Inert.enabled_eq {sep : Char} {v v' : StdString} (h : Inert sep v v')
    (explicit : List ApiLayerManifestFile) :
    (enableLayers [] explicit (splitPathList sep [] v)).enabled =
      (enableLayers [] explicit (splitPathList sep [] v')).enabled := by
  have hrun := (h { Environment.bare with pathSeparator := sep }
    ⟨fun _ => v, fun _ => [], fun _ => false⟩ ⟨fun _ => v', fun _ => [], fun _ => false⟩
    (World.initial (LoaderLogger.new false false [])) rfl rfl rfl).1 [] explicit []
  rwa [List.append_nil, List.append_nil] at hrun

/-- Layers are enabled one after the other. -/
theorem enabled_prefix (s : Enabling) (names : List StdString) :
    s.enabled <+: (names.foldl enableLayer s).enabled := by
  induction names generalizing s with
  | nil => exact List.prefix_rfl
  | cons n names ih =>
    refine List.IsPrefix.trans ?_ (ih (enableLayer s n))
    unfold enableLayer
    dsimp only
    split_ifs
    · exact List.prefix_rfl
    · exact List.prefix_rfl
    · exact List.prefix_append _ _

/-- What is enabled first, when the first names enable one layer. -/
theorem head?_enabled {s : Enabling} {names : List StdString} {m : ApiLayerManifestFile}
    (h : ∀ m', m' ∈ (names.foldl enableLayer s).enabled ↔ m' = m) (rest : List StdString) :
    ((names ++ rest).foldl enableLayer s).enabled.head? = some m := by
  rw [List.foldl_append]
  obtain ⟨more, hmore⟩ := enabled_prefix (names.foldl enableLayer s) rest
  rw [← hmore]
  cases henabled : (names.foldl enableLayer s).enabled with
  | nil => simpa [henabled] using (h m).mpr rfl
  | cons m' ms =>
    have hm : m' = m := (h m').mp (by rw [henabled]; exact List.mem_cons_self)
    rw [hm]
    rfl

theorem Inert.nil_mem {sep : Char} {v v' : StdString} (h : Inert sep v v')
    (hmem : [] ∈ splitPathList sep [] v) : [] ∈ splitPathList sep [] v' := by
  have henabled := (mem_enabled [] [implicitLayer []] _ (implicitLayer [])).mpr
    (Or.inr ⟨by simp, hmem, by simp⟩)
  rw [h.enabled_eq, mem_enabled] at henabled
  rcases henabled with hm | ⟨-, hm, -⟩
  · cases hm
  · exact hm

theorem mem_enabled_pair (n : StdString) (names : List StdString) (m : ApiLayerManifestFile) :
    m ∈ (enableLayers [] [implicitLayer [], implicitLayer n] names).enabled ↔
      (m = implicitLayer [] ∨ m = implicitLayer n) ∧ m.layerName ∈ names := by
  rw [mem_enabled]
  simp

/-- Of two layers only the one is named. -/
theorem named_of_pair {names : List StdString} {a b : StdString} (ha : a ∈ names) (hb : b ∉ names)
    (m : ApiLayerManifestFile) :
    (m = implicitLayer a ∨ m = implicitLayer b) ∧ m.layerName ∈ names ↔ m = implicitLayer a := by
  constructor
  · rintro ⟨rfl | rfl, hm⟩
    · rfl
    · exact absurd hm hb
  · rintro rfl
    exact ⟨Or.inl rfl, ha⟩

theorem nil_not_mem_entriesBefore (sep : Char) (v : StdString) : [] ∉ entriesBefore sep v :=
  fun h => by simpa using List.mem_takeWhile_imp h

/-- A layer named before the first empty entry of one list only would be enabled before the
layer without a name there, and after it in the other list. -/
theorem Inert.before {sep : Char} {v v' : StdString} (h : Inert sep v v')
    (hcomp : components sep v = components sep v') {n : StdString}
    (hn : n ∈ entriesBefore sep v) : n ∈ entriesBefore sep v' := by
  have hne : n ≠ [] := by simpa using List.mem_takeWhile_imp hn
  by_contra hnot
  by_cases hnil : [] ∈ splitPathList sep [] v'
  · obtain ⟨p, q, hsplit, hp⟩ := List.eq_append_cons_of_mem hnil
    have hbefore : entriesBefore sep v' = p := by
      have hpne : ∀ m ∈ p, m ≠ [] := fun m hm hmnil => hp (hmnil ▸ hm)
      rw [entriesBefore, hsplit, List.takeWhile_append_of_pos (by simpa using hpne)]
      simp
    rw [hbefore] at hnot
    have hnameless : ∀ m, m ∈ (enableLayers [] [implicitLayer [], implicitLayer n]
        (p ++ [[]])).enabled ↔ m = implicitLayer [] := fun m =>
      (mem_enabled_pair n _ m).trans (named_of_pair (by simp) (by simp [hnot, hne]) m)
    have hnamed : ∀ m, m ∈ (enableLayers [] [implicitLayer [], implicitLayer n]
        (entriesBefore sep v)).enabled ↔ m = implicitLayer n := by
      intro m
      rw [mem_enabled_pair, or_comm]
      exact named_of_pair hn (nil_not_mem_entriesBefore sep v) m
    have hfirst := head?_enabled hnameless q
    have hfirst' := head?_enabled hnamed ((splitPathList sep [] v).dropWhile (· ≠ []))
    rw [List.append_assoc, List.singleton_append, ← hsplit] at hfirst
    rw [entriesBefore, List.takeWhile_append_dropWhile] at hfirst'
    have heq := h.enabled_eq [implicitLayer [], implicitLayer n]
    unfold enableLayers at heq
    rw [heq, hfirst] at hfirst'
    exact hne (congrArg (·.layerName) (Option.some.inj hfirst')).symm
  · have hall : entriesBefore sep v' = splitPathList sep [] v' :=
      List.takeWhile_eq_self_iff.mpr fun m hm => by
        simpa using fun hmnil : m = [] => hnil (hmnil ▸ hm)
    have hlisted : n ∈ components sep v' := by
      rw [← hcomp, ← List.nil_append v, ← filter_splitPathList List.not_mem_nil]
      exact List.mem_filter.mpr ⟨(List.takeWhile_prefix _).subset hn, by simpa using hne⟩
    rw [← List.nil_append v', ← filter_splitPathList List.not_mem_nil] at hlisted
    exact hnot (hall ▸ List.mem_of_mem_filter hlisted)

/-- Empty entries are inert exactly when both values have one or neither, and the same layers
are named before the first. -/
theorem inert_iff_sameEntries {sep : Char} {v v' : StdString}
    (hcomp : components sep v = components sep v') : Inert sep v v' ↔ SameEntries sep v v' := by
  refine ⟨fun h => ?_, SameEntries.inert hcomp⟩
  have hsymm : Inert sep v' v := by
    intro env platform platform' w hsep hv' hv
    obtain ⟨henabled, hload, hext⟩ := h env platform' platform w hsep hv hv'
    exact ⟨fun implicit explicit names => (henabled implicit explicit names).symm,
      fun count names => (hload count names).symm, hext.symm⟩
  exact ⟨⟨h.nil_mem, hsymm.nil_mem⟩,
    fun n => ⟨h.before hcomp, hsymm.before hcomp.symm⟩⟩

theorem inert_iff_sameEntries_ab : Inert ':' "a::b".toList "a::::b:".toList := by
  have hbefore : entriesBefore ':' "a::b".toList = entriesBefore ':' "a::::b:".toList := by decide
  exact (inert_iff_sameEntries (by decide)).mpr ⟨by decide, fun n => by rw [hbefore]⟩

/-- Surroundings without manifests, in which every variable has this value. -/
def naming (value : StdString) : Environment :=
  { Environment.bare with platform := ⟨fun _ => value, fun _ => [], fun _ => false⟩ }

/-- A lone separator names the layer "", which is not there. -/
theorem emptyEntry_notPresent :
    components ':' [] = components ':' [':'] ∧
      (∃ w, loadApiLayers (naming []) 0 none quietWorld = .ok (xrSuccess, []) w) ∧
      ∃ w, loadApiLayers (naming [':']) 0 none quietWorld = .ok (xrErrorApiLayerNotPresent, []) w :=
  ⟨by decide, ⟨_, rfl⟩, ⟨_, rfl⟩⟩

end OpenXRSdk.ApiLayerInterface
