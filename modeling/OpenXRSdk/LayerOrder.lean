import OpenXRSdk.LayerNames

/-!
# The order of layers

In which order layers are enabled, and when one name is enabled twice.
-/
namespace OpenXRSdk.ApiLayerInterface

open KeyedLists StateProgram

/-! ## The loop over the manifests -/

/-- The loop over the explicit manifests for one requested name: `it` stays where it is when
the manifest there is erased. -/
def transferManifests (layerName : StdString) (it : ℕ) (s : Enabling) (foundThisLayer : Bool) :
    Bool × Enabling :=
  if h : it < s.explicit.length then
    if layerName = s.explicit[it].layerName then
      transferManifests layerName it
        { s with
          layersAlreadyFound := s.layersAlreadyFound.insert layerName
          enabled := s.enabled ++ [s.explicit[it]]
          explicit := s.explicit.eraseIdx it } true
    else transferManifests layerName (it + 1) s foundThisLayer
  else (foundThisLayer, s)
termination_by s.explicit.length - it
decreasing_by
  · simp only [List.length_eraseIdx, h, if_true]
    omega
  · omega

def requestLayer (s : Enabling) (layerName : StdString) : Enabling :=
  if layerName ∈ s.layersAlreadyFound then s
  else
    let (foundThisLayer, s) := transferManifests layerName 0 s false
    if foundThisLayer then s else { s with foundAllLayers := false }

/-- What the loop makes of the manifests from `it` on. -/
theorem transferManifests_eq (name : StdString) (kept rest : List ApiLayerManifestFile)
    (found : List StdString) (enabled : List ApiLayerManifestFile) (all this : Bool) :
    transferManifests name kept.length ⟨found, enabled, kept ++ rest, all⟩ this =
      (this || rest.any (·.layerName = name),
        ⟨if rest.any (·.layerName = name) then found.insert name else found,
          enabled ++ rest.filter (·.layerName = name),
          kept ++ rest.filter (·.layerName ≠ name), all⟩) := by
  induction rest generalizing kept found enabled this with
  | nil =>
    unfold transferManifests
    simp
  | cons m rest ih =>
    have hit : kept.length < (kept ++ m :: rest).length := by simp
    have hget : (kept ++ m :: rest)[kept.length] = m := by simp
    unfold transferManifests
    rw [dif_pos hit]
    dsimp only
    rw [hget]
    by_cases hname : name = m.layerName
    · have herase : (kept ++ m :: rest).eraseIdx kept.length = kept ++ rest := by
        rw [List.eraseIdx_append_of_length_le (le_refl _), Nat.sub_self]
        rfl
      have hinsert : (found.insert name).insert name = found.insert name :=
        List.insert_of_mem List.mem_insert_self
      rw [if_pos hname, herase, ih, hinsert]
      subst hname
      simp
    · have hkept : kept.length + 1 = (kept ++ [m]).length := by simp
      have happend : kept ++ m :: rest = (kept ++ [m]) ++ rest := by simp
      rw [if_neg hname, hkept, happend, ih]
      simp [Ne.symm hname]

theorem requestLayer_eq (s : Enabling) (name : StdString) : requestLayer s name = enableLayer s name := by
  obtain ⟨found, enabled, explicit, all⟩ := s
  have hloop := transferManifests_eq name [] explicit found enabled all false
  unfold requestLayer enableLayer
  by_cases hfound : name ∈ found
  · rw [if_pos hfound, if_pos hfound]
  · rw [if_neg hfound, if_neg hfound]
    dsimp only
    rw [show (0 : ℕ) = ([] : List ApiLayerManifestFile).length from rfl,
      show explicit = [] ++ explicit from rfl, hloop]
    by_cases hmatching : explicit.filter (·.layerName = name) = []
    · have hnone : ∀ m ∈ explicit, m.layerName ≠ name := by simpa using hmatching
      have hany : explicit.any (·.layerName = name) = false := by simpa using hnone
      have hkept : explicit.filter (·.layerName ≠ name) = explicit := by
        rw [List.filter_eq_self]
        simpa using hnone
      simp only [List.nil_append, hany, hmatching, hkept, List.append_nil]
      simp
    · have hany : explicit.any (·.layerName = name) = true := by
        obtain ⟨m, hm⟩ := List.exists_mem_of_ne_nil _ hmatching
        rw [List.any_eq_true]
        exact ⟨m, (List.mem_filter.mp hm).1, (List.mem_filter.mp hm).2⟩
      simp only [List.nil_append, hany, hmatching]
      simp [List.insert_of_not_mem hfound]

theorem enableLayers_eq_foldl (implicit explicit : List ApiLayerManifestFile)
    (names : List StdString) : enableLayers implicit explicit names =
      names.foldl requestLayer ⟨implicit.map (·.layerName), implicit, explicit, true⟩ := by
  have hstep : enableLayer = requestLayer := funext₂ fun s n => (requestLayer_eq s n).symm
  rw [enableLayers, hstep]

/-! ## The order of requests -/

/-- The explicit manifests in the order in which their names first occur among the requests. -/
def requestOrder (explicit : List ApiLayerManifestFile) (requested : List StdString) :
    List ApiLayerManifestFile :=
  select (·.layerName) explicit requested.eraseDups

/-- Some names of the first list are in the second list again, after they were there already. -/
inductive Repeats (names : List StdString) : List StdString → Prop
  | refl : Repeats names names
  | again {before after : List StdString} {n : StdString} (h : Repeats names (before ++ after))
      (hn : n ∈ before) : Repeats names (before ++ n :: after)

theorem Repeats.eraseDups_eq {names names' : List StdString} (h : Repeats names names') :
    names'.eraseDups = names.eraseDups := by
  induction h with
  | refl => rfl
  | again _ hn ih => rw [eraseDups_repeat hn, ih]

theorem Repeats.mem_iff {names names' : List StdString} (h : Repeats names names') {n : StdString} :
    n ∈ names' ↔ n ∈ names := by
  rw [← List.mem_eraseDups, h.eraseDups_eq, List.mem_eraseDups]

/-- The layers enabled when no explicit one bears the name of an implicit one. -/
theorem enabled_of_apart {implicit explicit : List ApiLayerManifestFile}
    (hapart : ∀ m ∈ explicit, m.layerName ∉ implicit.map (·.layerName)) (requested : List StdString) :
    (enableLayers implicit explicit requested).enabled = implicit ++ requestOrder explicit requested := by
  unfold enableLayers requestOrder
  rw [enabled_foldl, eraseDups_filter]
  dsimp only
  rw [select_filter (p := fun n => n ∉ implicit.map (·.layerName)) (by simpa using hapart)]

theorem nodup_requestOrder {explicit : List ApiLayerManifestFile}
    (hdistinct : (explicit.map (·.layerName)).Nodup) (requested : List StdString) :
    ((requestOrder explicit requested).map (·.layerName)).Nodup :=
  (nodup_map_select (nodup_eraseDups requested)).mpr fun n _ =>
    length_filter_key_le_one hdistinct n

/-- The implicit layers come in the order in which they are found, then the explicit ones in
the order in which they are requested. -/
theorem loadApiLayers_requestOrder {env : Environment} {implicit explicit : List ApiLayerManifestFile}
    (hfinds : Finds env implicit explicit) (hdistinct : (explicit.map (·.layerName)).Nodup)
    (hapart : ∀ m ∈ explicit, m.layerName ∉ implicit.map (·.layerName)) {w : World} {count : ℕ}
    {names : Option (List StdString)} {requested : List StdString}
    (hrequested : requestedLayers env w count names = some requested)
    (hload : EachLoads (enabledAttempts env w implicit explicit requested)) :
    ∃ result layers w', loadApiLayers env count names w = .ok (result, layers) w' ∧
      (xrSucceeded result → LayersOf layers (implicit ++ requestOrder explicit requested)) ∧
      ((requestOrder explicit requested).map (·.layerName)).Nodup ∧
      (result = xrErrorApiLayerNotPresent ↔
        ∃ n ∈ requested, ∀ m ∈ implicit ++ explicit, m.layerName ≠ n) ∧
      ∀ env' explicit' count' names' requested', SameLibraries env env' →
        Finds env' implicit explicit' → explicit'.Perm explicit →
        requestedLayers env' w count' names' = some requested' → Repeats requested requested' →
        loadApiLayers env' count' names' w = .ok (result, layers) w' := by
  obtain ⟨result, layers, w', hrun, hfound, hmissed⟩ := loadApiLayers_eachLoads
    (hfinds.implicit _) (hfinds.explicit _) hrequested hload
  have hmissing : (∃ n ∈ requested, ∀ m ∈ implicit ++ explicit, m.layerName ≠ n) ↔
      ¬ AllFound implicit explicit requested := by
    simp [AllFound]
  refine ⟨result, layers, w', hrun, fun hs => ?_, nodup_requestOrder hdistinct requested, ?_, ?_⟩
  · by_cases hall : AllFound implicit explicit requested
    · rw [← enabled_of_apart hapart]
      exact (hfound hall).2
    · rw [hmissed hall] at hs
      exact absurd hs (by decide)
  · rw [hmissing]
    refine ⟨fun h hall => ?_, hmissed⟩
    rw [(hfound hall).1] at h
    exact absurd h (by decide)
  · intro env' explicit' count' names' requested' hsame hfinds' hperm hrequested' hrepeats
    have hapart' : ∀ m ∈ explicit', m.layerName ∉ implicit.map (·.layerName) :=
      fun m hm => hapart m (hperm.mem_iff.mp hm)
    have henabled : (enableLayers implicit explicit' requested').enabled =
        (enableLayers implicit explicit requested).enabled := by
      rw [enabled_of_apart hapart, enabled_of_apart hapart']
      unfold requestOrder
      rw [hrepeats.eraseDups_eq, select_perm hperm.symm hdistinct]
    have hall : (enableLayers implicit explicit' requested').foundAllLayers =
        (enableLayers implicit explicit requested).foundAllLayers := by
      rw [Bool.eq_iff_iff, enableLayers_found, enableLayers_found]
      simp only [List.mem_append, hperm.mem_iff, hrepeats.mem_iff]
    rw [← hrun, loadApiLayers_of_found (hfinds.implicit _) (hfinds.explicit _) hrequested,
      loadApiLayers_of_found (hfinds'.implicit _) (hfinds'.explicit _) hrequested',
      hsame.loadEnabledLayers_eq]
    unfold loadEnabledLayers
    rw [henabled, hall]

def findingLayers (implicit explicit : List ApiLayerManifestFile) : Environment :=
  { Environment.bare with
    findLayerManifests := fun _ type =>
      .ok (xrSuccess, if type = .implicitApiLayer then implicit else explicit)
    openLayer := fun _ _ => some (negotiatingLibrary true) }

theorem finds_findingLayers (implicit explicit : List ApiLayerManifestFile) :
    Finds (findingLayers implicit explicit) implicit explicit := ⟨fun _ => rfl, fun _ => rfl⟩

theorem eachLoads_findingLayers (implicit explicit : List ApiLayerManifestFile)
    (initData : LoaderInitData) (t : ℕ) (ms : List ApiLayerManifestFile) :
    EachLoads (attempts (findingLayers implicit explicit) initData t ms) :=
  AllLoad.eachLoads (fun _ _ _ => ⟨_, rfl⟩) t

theorem loadApiLayers_requestOrder_ba : ∃ result layers w',
    loadApiLayers (findingLayers [implicitLayer ['i']] [explicitLayer ['a'], explicitLayer ['b']]) 3
      (some [['b'], ['a'], ['b']]) quietWorld = .ok (result, layers) w' ∧
    (xrSucceeded result →
      LayersOf layers [implicitLayer ['i'], explicitLayer ['b'], explicitLayer ['a']]) := by
  obtain ⟨result, layers, w', hrun, hlayers, -⟩ := loadApiLayers_requestOrder
    (finds_findingLayers [implicitLayer ['i']] [explicitLayer ['a'], explicitLayer ['b']])
    (by decide) (by decide)
    (rfl : requestedLayers _ quietWorld 3 (some [['b'], ['a'], ['b']]) = some _)
    (eachLoads_findingLayers _ _ _ _ _)
  exact ⟨result, layers, w', hrun, hlayers⟩

/-! ## Names that are enabled twice -/

/-- The manifests that are enabled by what is found and what is requested. -/
def requestedManifests (implicit explicit : List ApiLayerManifestFile) (requested : List StdString) :
    List ApiLayerManifestFile :=
  implicit ++ select (·.layerName) explicit
    (requested.filter (· ∉ implicit.map (·.layerName))).eraseDups

theorem enabled_eq (implicit explicit : List ApiLayerManifestFile) (requested : List StdString) :
    (enableLayers implicit explicit requested).enabled =
      requestedManifests implicit explicit requested :=
  enabled_foldl requested _

/-- No two implicit layers have the same name, and no two explicit ones a name that is
requested and no implicit layer's. -/
structure Unrepeated (implicit explicit : List ApiLayerManifestFile) (requested : List StdString) :
    Prop where
  implicitNames : (implicit.map (·.layerName)).Nodup
  explicitNames : ∀ n ∈ requested, n ∉ implicit.map (·.layerName) →
    (explicit.filter (·.layerName = n)).length ≤ 1

theorem nodup_requestedManifests_iff (implicit explicit : List ApiLayerManifestFile)
    (requested : List StdString) :
    ((requestedManifests implicit explicit requested).map (·.layerName)).Nodup ↔
      Unrepeated implicit explicit requested := by
  have hapart : ∀ n ∈ implicit.map (·.layerName), ∀ n' ∈ (select (·.layerName) explicit
      (requested.filter (· ∉ implicit.map (·.layerName))).eraseDups).map (·.layerName), n ≠ n' := by
    rintro n hn n' hn' rfl
    obtain ⟨m, hm, rfl⟩ := List.mem_map.mp hn'
    have hreq := List.mem_eraseDups.mp (mem_select.mp hm).2
    exact of_decide_eq_true (List.mem_filter.mp hreq).2 hn
  unfold requestedManifests
  rw [List.map_append, List.nodup_append, nodup_map_select (nodup_eraseDups _)]
  simp only [List.mem_eraseDups, List.mem_filter, decide_eq_true_eq, and_imp]
  exact ⟨fun h => ⟨h.1, h.2.1⟩, fun h => ⟨h.implicitNames, h.explicitNames, hapart⟩⟩

theorem LayersOf.layerNames {layers : List ApiLayerInterface} {manifests : List ApiLayerManifestFile}
    (h : LayersOf layers manifests) : layers.map (·.layerName) = manifests.map (·.layerName) := by
  induction h with
  | nil => rfl
  | cons hm _ ih =>
    obtain ⟨library, request, rfl⟩ := hm
    exact congrArg (_ :: ·) ih

/-- What is loaded is among what is tried, and less than all of it after an early return. -/
theorem loaded_tally (outs : List Attempt) (s : Tally) :
    ∃ new, (tally s outs).2.loaded.map (·.1) = s.loaded.map (·.1) ++ new ∧
      new.Sublist (outs.map (·.1)) ∧
      ((tally s outs).1.isSome → new.Sublist (outs.map (·.1)).dropLast) := by
  induction outs generalizing s with
  | nil => exact ⟨[], by simp [tally], .slnil, by simp [tally]⟩
  | cons x rest ih =>
    obtain ⟨m, outcome⟩ := x
    have hlast {t : Tally} (h : (tally t rest).1.isSome) :
        ((m :: rest.map (·.1)).dropLast) = m :: (rest.map (·.1)).dropLast := by
      refine List.dropLast_cons_of_ne_nil fun hnil => ?_
      rw [List.map_eq_nil_iff.mp hnil] at h
      cases h
    have hskip (t : Tally) (ht : t.loaded = s.loaded) : ∃ new,
        (tally t rest).2.loaded.map (·.1) = s.loaded.map (·.1) ++ new ∧
        new.Sublist (m :: rest.map (·.1)) ∧
        ((tally t rest).1.isSome → new.Sublist (m :: rest.map (·.1)).dropLast) := by
      obtain ⟨new, hloaded, hsub, hearly⟩ := ih t
      rw [ht] at hloaded
      refine ⟨new, hloaded, hsub.cons m, fun h => ?_⟩
      rw [hlast h]
      exact (hearly h).cons m
    have hskipped (res : XrResult) : (s.skip res).loaded = s.loaded := by
      unfold Tally.skip
      split_ifs <;> rfl
    cases outcome with
    | none => exact hskip _ (hskipped _)
    | some outcome =>
      cases outcome with
      | notInitialized => exact ⟨[], by simp [tally], List.nil_sublist _, fun _ => List.nil_sublist _⟩
      | initFailed res => exact ⟨[], by simp [tally], List.nil_sublist _, fun _ => List.nil_sublist _⟩
      | negotiateNotFound => exact hskip _ rfl
      | negotiationFailed res => exact hskip _ (hskipped _)
      | loaded request =>
        obtain ⟨new, hloaded, hsub, hearly⟩ := ih ⟨xrSuccess, true, s.loaded ++ [(m, request)]⟩
        refine ⟨m :: new, ?_, hsub.cons_cons m, fun h => ?_⟩
        · simpa [tally] using hloaded
        · rw [List.map_cons, hlast h]
          exact (hearly h).cons_cons m

/-- However the libraries behave, no two of the interfaces that a call leaves have the same
name. -/
def HandsOutDistinct (implicit explicit : List ApiLayerManifestFile) (requested : List StdString) :
    Prop :=
  ∀ env, Finds env implicit explicit → ∀ w count names,
    requestedLayers env w count names = some requested → ∀ result layers w',
      loadApiLayers env count names w = .ok (result, layers) w' → (layers.map (·.layerName)).Nodup

section HandingOut
variable {implicit explicit : List ApiLayerManifestFile} {requested : List StdString}

theorem handsOutDistinct_of_nodup
    (hall : AllFound implicit explicit requested → Unrepeated implicit explicit requested)
    (hlast : ((requestedManifests implicit explicit requested).dropLast.map (·.layerName)).Nodup) :
    HandsOutDistinct implicit explicit requested := by
  intro env hfinds w count names hrequested result layers w' h
  obtain ⟨interfaces, c, l, hrun, -, hlayers⟩ :=
    loadEnabledLayers_spec env (enableLayers implicit explicit requested) w.tick.tick rfl
  rw [loadApiLayers_of_found (hfinds.implicit _) (hfinds.explicit _) hrequested, hrun] at h
  cases h
  rw [hlayers.layersOf.layerNames]
  generalize houts : attempts env w.tick.tick.initData w.tick.tick.clock
    (enableLayers implicit explicit requested).enabled = outs
  obtain ⟨new, hloaded, hsub, hearly⟩ := loaded_tally outs ⟨xrSuccess, false, []⟩
  have hmap : outs.map (·.1) = requestedManifests implicit explicit requested := by
    rw [← houts, map_attempts, enabled_eq]
  rw [hmap] at hsub hearly
  unfold handedOut
  split_ifs with hfail
  · exact List.nodup_nil
  · rw [hloaded, List.map_nil, List.nil_append]
    cases hreturn : (tally ⟨xrSuccess, false, []⟩ outs).1 with
    | some res => exact hlast.sublist ((hearly (by rw [hreturn]; rfl)).map _)
    | none =>
      have hsucceeded : xrSucceeded (resultOf (enableLayers implicit explicit requested).foundAllLayers
        outs) := not_xrFailed.mp fun hf => hfail ⟨hreturn, hf⟩
      have hfound := (enableLayers_found implicit explicit requested).mp
        ((resultOf_of_no_early hreturn).mp hsucceeded).1
      exact ((nodup_requestedManifests_iff _ _ _).mpr (hall hfound)).sublist (hsub.map _)

theorem requestedLayers_of_bare {env : Environment} {w : World} (h : environmentApiLayers env w = [])
    (requested : List StdString) :
    requestedLayers env w requested.length (some requested) = some requested := by
  unfold requestedLayers
  rw [h]
  split_ifs with hzero
  · rw [List.length_eq_zero_iff.mp hzero]
  · simp

/-- Where every library loads, all the requested manifests are handed out. -/
theorem unrepeated_of_handsOutDistinct (h : HandsOutDistinct implicit explicit requested)
    (hall : AllFound implicit explicit requested) : Unrepeated implicit explicit requested := by
  have hfinds := finds_findingLayers implicit explicit
  have hrequested := requestedLayers_of_bare
    (rfl : environmentApiLayers (findingLayers implicit explicit) quietWorld = []) requested
  obtain ⟨result, layers, w', hrun, hfound, -⟩ := loadApiLayers_eachLoads (hfinds.implicit _)
    (hfinds.explicit _) hrequested (eachLoads_findingLayers _ _ _ _ _)
  have hdistinct := h _ hfinds quietWorld _ _ hrequested result layers w' hrun
  rwa [(hfound hall).2.layerNames, enabled_eq, nodup_requestedManifests_iff] at hdistinct

def refusingLibrary : Library XrNegotiateApiLayerRequest :=
  { negotiatingLibrary true with
    exportedInitializeLoader := fun _ => some fun _ => xrErrorRuntimeFailure }

def refusingFrom (implicit explicit : List ApiLayerManifestFile) (time : ℕ) : Environment :=
  { findingLayers implicit explicit with
    requiresPlatformInit := true
    openLayer := fun t _ => some (if t < time then negotiatingLibrary true else refusingLibrary) }

def initializedWorld : World :=
  { quietWorld with initData := { LoaderInitData.new with initialized := true } }

theorem attempts_refusingFrom (time t : ℕ) (m : ApiLayerManifestFile) (ms : List ApiLayerManifestFile) :
    attempts (refusingFrom implicit explicit time) initializedWorld.initData t (m :: ms) =
      (m, some (if t < time then .loaded ⟨1, 0, .foreign 1, .foreign 2⟩
        else .initFailed xrErrorRuntimeFailure)) ::
      attempts (refusingFrom implicit explicit time) initializedWorld.initData (t + 1) ms := by
  have hopen : (refusingFrom implicit explicit time).openLayer t m.libraryPath =
      some (if t < time then negotiatingLibrary true else refusingLibrary) := rfl
  rw [attempts, hopen]
  split_ifs <;> rfl

theorem tally_refusingFrom (m : ApiLayerManifestFile) (ms : List ApiLayerManifestFile) (time t : ℕ)
    (htime : time = t + ms.length) (s : Tally) :
    (tally s (attempts (refusingFrom implicit explicit time) initializedWorld.initData t
      (m :: ms))).1 = some xrErrorRuntimeFailure ∧
    (tally s (attempts (refusingFrom implicit explicit time) initializedWorld.initData t
      (m :: ms))).2.loaded.map (·.1) = s.loaded.map (·.1) ++ (m :: ms).dropLast := by
  induction ms generalizing m t s with
  | nil =>
    rw [attempts_refusingFrom, if_neg (by simp [htime])]
    simp [tally]
  | cons m' ms ih =>
    rw [List.length_cons] at htime
    rw [attempts_refusingFrom, if_pos (by omega)]
    have := ih m' (t + 1) (by omega)
      ⟨xrSuccess, true, s.loaded ++ [(m, ⟨1, 0, .foreign 1, .foreign 2⟩)]⟩
    simpa [tally] using this

/-- Where the library of the last layer refuses, the others are handed out. -/
theorem nodup_dropLast_of_handsOutDistinct (h : HandsOutDistinct implicit explicit requested) :
    ((requestedManifests implicit explicit requested).dropLast.map (·.layerName)).Nodup := by
  cases hms : requestedManifests implicit explicit requested with
  | nil => simp
  | cons m ms =>
    let env := refusingFrom implicit explicit (2 + ms.length)
    have hfinds : Finds env implicit explicit := ⟨fun _ => rfl, fun _ => rfl⟩
    have hrequested := requestedLayers_of_bare
      (rfl : environmentApiLayers env initializedWorld = []) requested
    obtain ⟨layers, c, l, hrun, -, hlayers⟩ := loadEnabledLayers_spec env
      (enableLayers implicit explicit requested) initializedWorld.tick.tick rfl
    rw [← loadApiLayers_of_found (hfinds.implicit _) (hfinds.explicit _) hrequested] at hrun
    have hdistinct := h env hfinds _ _ _ hrequested _ layers _ hrun
    obtain ⟨hearly, hloaded⟩ := @tally_refusingFrom implicit explicit m ms (2 + ms.length) 2 rfl
      ⟨xrSuccess, false, []⟩
    have hnames := hlayers.layersOf.layerNames
    have hattempts : attempts env initializedWorld.tick.tick.initData initializedWorld.tick.tick.clock
        (enableLayers implicit explicit requested).enabled =
        attempts env initializedWorld.initData 2 (m :: ms) := by
      rw [enabled_eq, hms]
      rfl
    have hhanded : ∀ found, (handedOut found (attempts env initializedWorld.initData 2
        (m :: ms))).map (·.1) = (m :: ms).dropLast := by
      intro found
      rw [handedOut, if_neg (by rw [hearly]; simp), hloaded]
      rfl
    rw [hattempts, hhanded] at hnames
    rwa [hnames] at hdistinct

/-- A call can hand out two layers of one name exactly when two of the manifests that are
enabled have one name; the last of them counts only when every requested name is found. -/
theorem handsOutDistinct_iff (implicit explicit : List ApiLayerManifestFile)
    (requested : List StdString) : HandsOutDistinct implicit explicit requested ↔
      (AllFound implicit explicit requested → Unrepeated implicit explicit requested) ∧
        ((requestedManifests implicit explicit requested).dropLast.map (·.layerName)).Nodup :=
  ⟨fun h => ⟨unrepeated_of_handsOutDistinct h, nodup_dropLast_of_handsOutDistinct h⟩,
    fun h => handsOutDistinct_of_nodup h.1 h.2⟩

end HandingOut

/-- Two manifests of the layer a, as of two directories. -/
theorem repeatedName_enabledTwice : ∃ layers w',
    loadApiLayers (findingLayers [] [explicitLayer ['a'], { explicitLayer ['a'] with filename := ['b'] }])
      1 (some [['a']]) quietWorld = .ok (xrSuccess, layers) w' ∧
    layers.map (·.layerName) = [['a'], ['a']] ∧
    ¬ HandsOutDistinct [] [explicitLayer ['a'], { explicitLayer ['a'] with filename := ['b'] }] [['a']] := by
  refine ⟨_, _, rfl, rfl, fun h => ?_⟩
  have := h _ (finds_findingLayers _ _) quietWorld 1 (some [['a']]) rfl _ _ _ rfl
  revert this
  decide

end OpenXRSdk.ApiLayerInterface
