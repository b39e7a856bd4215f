import OpenXRSdk.ApiLayerInterface
import OpenXRSdk.KeyedLists

/-!
# Loading API layers

The loop over the enabled layers as a function of the outcomes alone, what the code's loop
does to the open libraries, and when a broken layer is isolated from the others.
-/
namespace OpenXRSdk.ApiLayerInterface

open KeyedLists StateProgram

/-! ## Requested names -/

theorem enableLayer_names (s : Enabling) (name n : StdString) :
    (n ∈ (enableLayer s name).layersAlreadyFound ∨
        n ∈ (enableLayer s name).explicit.map (·.layerName)) ↔
      n ∈ s.layersAlreadyFound ∨ n ∈ s.explicit.map (·.layerName) := by
  unfold enableLayer
  by_cases hf : name ∈ s.layersAlreadyFound
  · rw [if_pos hf]
  · rw [if_neg hf]
    by_cases hm : s.explicit.filter (·.layerName = name) = []
    · simp only [if_pos hm]
    · simp only [if_neg hm, List.mem_cons, List.mem_map, List.mem_filter, decide_eq_true_eq]
      have hname : ∃ m ∈ s.explicit, m.layerName = name := by
        obtain ⟨m, hmem⟩ := List.exists_mem_of_ne_nil _ hm
        simp only [List.mem_filter, decide_eq_true_eq] at hmem
        exact ⟨m, hmem⟩
      constructor
      · rintro ((rfl | h) | ⟨m, ⟨hm', -⟩, rfl⟩)
        · exact Or.inr hname
        · exact Or.inl h
        · exact Or.inr ⟨m, hm', rfl⟩
      · rintro (h | ⟨m, hm', rfl⟩)
        · exact Or.inl (Or.inr h)
        · by_cases hn : m.layerName = name
          · exact Or.inl (Or.inl hn)
          · exact Or.inr ⟨m, ⟨hm', hn⟩, rfl⟩

theorem enableLayer_found (s : Enabling) (name : StdString) :
    (enableLayer s name).foundAllLayers = true ↔ s.foundAllLayers = true ∧
      (name ∈ s.layersAlreadyFound ∨ name ∈ s.explicit.map (·.layerName)) := by
  unfold enableLayer
  by_cases hf : name ∈ s.layersAlreadyFound
  · simp [hf]
  · rw [if_neg hf]
    by_cases hm : s.explicit.filter (·.layerName = name) = []
    · have hnone : ∀ m ∈ s.explicit, m.layerName ≠ name := by simpa using hm
      simp only [if_pos hm, hf, List.mem_map, false_or]
      constructor
      · simp
      · rintro ⟨-, m, hmem, hn⟩
        exact absurd hn (hnone m hmem)
    · simp only [if_neg hm, hf, List.mem_map, false_or]
      obtain ⟨m, hmem⟩ := List.exists_mem_of_ne_nil _ hm
      simp only [List.mem_filter, decide_eq_true_eq] at hmem
      exact ⟨fun h => ⟨h, m, hmem⟩, fun h => h.1⟩

private theorem foldl_enableLayer_found (names : List StdString) (s : Enabling) :
    (names.foldl enableLayer s).foundAllLayers = true ↔ s.foundAllLayers = true ∧
      ∀ n ∈ names, n ∈ s.layersAlreadyFound ∨ n ∈ s.explicit.map (·.layerName) := by
  induction names generalizing s with
  | nil => simp
  | cons name names ih =>
    rw [List.foldl_cons, ih, enableLayer_found, List.forall_mem_cons, and_assoc]
    simp only [enableLayer_names]

/-- Every requested name was found exactly when each is the name of a manifest. -/
theorem enableLayers_found (implicit explicit : List ApiLayerManifestFile) (names : List StdString) :
    (enableLayers implicit explicit names).foundAllLayers = true ↔
      ∀ n ∈ names, ∃ m ∈ implicit ++ explicit, m.layerName = n := by
  unfold enableLayers
  rw [foldl_enableLayer_found]
  simp only [true_and, List.mem_map, List.mem_append, or_and_right, exists_or]

/-- What is enabled, in order: each new name brings the manifests that have it. -/
theorem enabled_foldl (names : List StdString) (s : Enabling) :
    (names.foldl enableLayer s).enabled = s.enabled ++ select (·.layerName) s.explicit
      (names.filter (· ∉ s.layersAlreadyFound)).eraseDups := by
  induction names generalizing s with
  | nil => simp
  | cons name names ih =>
    rw [List.foldl_cons, ih]
    by_cases hfound : name ∈ s.layersAlreadyFound
    · simp [enableLayer, hfound]
    have hcons : ((name :: names).filter (· ∉ s.layersAlreadyFound)).eraseDups =
        name :: (names.filter (· ∉ s.layersAlreadyFound)).eraseDups.filter (· ≠ name) := by
      rw [List.filter_cons_of_pos (by simpa using hfound), List.eraseDups_cons, eraseDups_filter]
      refine congrArg (name :: ·) (List.filter_congr fun n _ => ?_)
      rw [Bool.eq_iff_iff]
      simp
    rw [hcons, select_cons]
    by_cases hm : s.explicit.filter (·.layerName = name) = []
    · have hnone : ∀ m ∈ s.explicit, decide (m.layerName ≠ name) := by
        simpa using List.filter_eq_nil_iff.mp hm
      have hstep : enableLayer s name = { s with foundAllLayers := false } := by
        simp [enableLayer, hfound, hm]
      rw [hstep, hm, List.nil_append, select_filter (p := fun n => decide (n ≠ name)) hnone]
    · have hstep : enableLayer s name = { s with
          layersAlreadyFound := name :: s.layersAlreadyFound
          enabled := s.enabled ++ s.explicit.filter (·.layerName = name)
          explicit := s.explicit.filter (·.layerName ≠ name) } := by
        simp [enableLayer, hfound, hm]
      have hnew : names.filter (· ∉ name :: s.layersAlreadyFound) =
          (names.filter (· ∉ s.layersAlreadyFound)).filter (· ≠ name) := by
        rw [List.filter_filter]
        refine List.filter_congr fun n _ => ?_
        simp
      rw [hstep]
      dsimp only
      rw [hnew, eraseDups_filter, List.append_assoc]
      congr 2
      refine select_congr fun m _ hmem => ?_
      simpa using (List.mem_filter.mp hmem).2

/-! ## The loop as a function of the outcomes -/

/-- An enabled layer with what comes of it; `none` when its library does not open. -/
abbrev Attempt := ApiLayerManifestFile × Option LayerOutcome

/-- The outcomes of layers whose libraries are opened one after the other from `t` on. -/
def attempts (env : Environment) (initData : LoaderInitData) (t : ℕ) :
    List ApiLayerManifestFile → List Attempt
  | [] => []
  | m :: ms =>
    (m, (env.openLayer t m.libraryPath).map (negotiateLayer env.requiresPlatformInit initData m)) ::
      attempts env initData (t + 1) ms

/-- The variables of the loop, with the layers that were loaded in place of interfaces. -/
structure Tally where
  lastError : XrResult
  anyLoaded : Bool
  loaded : List (ApiLayerManifestFile × XrNegotiateApiLayerRequest)

def Tally.skip (result : XrResult) (s : Tally) : Tally :=
  if s.anyLoaded then s else { s with lastError := result }

def tally (s : Tally) : List Attempt → Option XrResult × Tally
  | [] => (none, s)
  | (m, outcome) :: rest =>
    match outcome with
    | none => tally (s.skip xrErrorFileAccessError) rest
    | some .notInitialized => (some xrErrorValidationFailure, s)
    | some (.initFailed res) => (some res, s)
    | some .negotiateNotFound => tally { s with lastError := xrErrorApiLayerNotPresent } rest
    | some (.negotiationFailed res) => tally (s.skip res) rest
    | some (.loaded request) => tally ⟨xrSuccess, true, s.loaded ++ [(m, request)]⟩ rest

def fullySuccessful (outs : List Attempt) : List (ApiLayerManifestFile × XrNegotiateApiLayerRequest) :=
  outs.filterMap fun x =>
    match x.2 with
    | some (.loaded request) => some (x.1, request)
    | _ => none

def LayerOutcome.Stops : LayerOutcome → Prop
  | .notInitialized => True
  | .initFailed _ => True
  | _ => False

def LayerOutcome.Honest : LayerOutcome → Prop
  | .initFailed res => xrFailed res
  | .negotiationFailed res => xrFailed res
  | _ => True

theorem negotiateLayer_honest (requiresPlatformInit : Bool) (initData : LoaderInitData)
    (m : ApiLayerManifestFile) (library : Library XrNegotiateApiLayerRequest) :
    (negotiateLayer requiresPlatformInit initData m library).Honest := by
  unfold negotiateLayer
  split_ifs with hinit
  · trivial
  · dsimp only
    split
    · rename_i res hres
      exact forwardExported_error hres
    · split
      · trivial
      · rename_i res request hneg
        split_ifs with hfail hnull hfwd
        · exact hfail
        · show xrFailed xrErrorFileContentsInvalid
          decide
        · trivial
        · split
          · rename_i res' hres
            exact forwardQueried_error hres
          · trivial

theorem mem_attempts {env : Environment} {initData : LoaderInitData} {t : ℕ}
    {ms : List ApiLayerManifestFile} {x : Attempt} (hx : x ∈ attempts env initData t ms) :
    ∃ m ∈ ms, ∃ u, x = (m, (env.openLayer u m.libraryPath).map
      (negotiateLayer env.requiresPlatformInit initData m)) := by
  induction ms generalizing t with
  | nil => simp [attempts] at hx
  | cons m ms ih =>
    rcases List.mem_cons.mp hx with rfl | hx
    · exact ⟨m, List.mem_cons_self, t, rfl⟩
    · obtain ⟨m', hm', hx'⟩ := ih hx
      exact ⟨m', List.mem_cons_of_mem _ hm', hx'⟩

theorem honest_of_mem_attempts {env : Environment} {initData : LoaderInitData} {t : ℕ}
    {ms : List ApiLayerManifestFile} {x : Attempt} (hx : x ∈ attempts env initData t ms)
    {outcome : LayerOutcome} (ho : x.2 = some outcome) : outcome.Honest := by
  obtain ⟨m, -, u, rfl⟩ := mem_attempts hx
  obtain ⟨library, -, rfl⟩ := Option.map_eq_some_iff.mp ho
  exact negotiateLayer_honest _ _ m library

/-- Some layer was loaded, and no layer after it lacks its negotiation function. -/
def ClearedLast (outs : List Attempt) : Prop :=
  ∃ before m request after, outs = before ++ (m, some (.loaded request)) :: after ∧
    ∀ x ∈ after, x.2 ≠ some .negotiateNotFound

theorem clearedLast_cons_loaded (m : ApiLayerManifestFile) (request : XrNegotiateApiLayerRequest)
    (rest : List Attempt) : ClearedLast ((m, some (.loaded request)) :: rest) ↔
      ClearedLast rest ∨ ∀ x ∈ rest, x.2 ≠ some .negotiateNotFound := by
  constructor
  · rintro ⟨before, m', request', after, heq, hafter⟩
    cases before with
    | nil =>
      simp only [List.nil_append, List.cons.injEq] at heq
      exact Or.inr (by rw [heq.2]; exact hafter)
    | cons b before =>
      simp only [List.cons_append, List.cons.injEq] at heq
      exact Or.inl ⟨before, m', request', after, heq.2, hafter⟩
  · rintro (⟨before, m', request', after, rfl, hafter⟩ | h)
    · exact ⟨(m, some (.loaded request)) :: before, m', request', after, rfl, hafter⟩
    · exact ⟨[], m, request, rest, rfl, h⟩

theorem clearedLast_cons_of_not_loaded {x : Attempt} (hx : ∀ request, x.2 ≠ some (.loaded request))
    (rest : List Attempt) : ClearedLast (x :: rest) ↔ ClearedLast rest := by
  constructor
  · rintro ⟨before, m, request, after, heq, hafter⟩
    cases before with
    | nil =>
      simp only [List.nil_append, List.cons.injEq] at heq
      exact absurd (by rw [heq.1]) (hx request)
    | cons b before =>
      simp only [List.cons_append, List.cons.injEq] at heq
      exact ⟨before, m, request, after, heq.2, hafter⟩
  · rintro ⟨before, m, request, after, rfl, hafter⟩
    exact ⟨x :: before, m, request, after, rfl, hafter⟩

/-- Without an early return the loop ends in success exactly when the last errors were
cleared, or nothing went wrong after a layer that was loaded before. -/
theorem tally_succeeded (outs : List Attempt) (s : Tally)
    (hh : ∀ x ∈ outs, ∀ o, x.2 = some o → o.Honest) (hs : ∀ x ∈ outs, ∀ o, x.2 = some o → ¬ o.Stops) :
    xrSucceeded (tally s outs).2.lastError ↔ ClearedLast outs ∨
      (xrSucceeded s.lastError ∧ (∀ x ∈ outs, x.2 ≠ some .negotiateNotFound) ∧
        (s.anyLoaded = true ∨ outs = [])) := by
  induction outs generalizing s with
  | nil => simp [tally, ClearedLast]
  | cons x rest ih =>
    obtain ⟨m, outcome⟩ := x
    have ihr := fun s => ih s (fun y hy => hh y (by simp [hy])) (fun y hy => hs y (by simp [hy]))
    have hskip (res : XrResult) (hres : xrFailed res) (hx : ∀ q, outcome ≠ some (.loaded q))
        (hn : outcome ≠ some .negotiateNotFound) :
        xrSucceeded (tally (s.skip res) rest).2.lastError ↔ ClearedLast ((m, outcome) :: rest) ∨
          (xrSucceeded s.lastError ∧ (∀ x ∈ (m, outcome) :: rest, x.2 ≠ some .negotiateNotFound) ∧
            (s.anyLoaded = true ∨ (m, outcome) :: rest = [])) := by
      rw [ihr, clearedLast_cons_of_not_loaded hx]
      unfold Tally.skip
      cases ha : s.anyLoaded with
      | true => simp [ha, hn]
      | false => simp [not_xrSucceeded.mpr hres]
    cases outcome with
    | none => exact hskip _ (by decide) (by simp) (by simp)
    | some outcome =>
      have hhon := hh _ List.mem_cons_self outcome rfl
      have hstop := hs _ List.mem_cons_self outcome rfl
      cases outcome with
      | notInitialized => exact absurd trivial hstop
      | initFailed res => exact absurd trivial hstop
      | negotiateNotFound =>
        unfold tally
        rw [ihr, clearedLast_cons_of_not_loaded (by simp)]
        simp
      | negotiationFailed res => exact hskip res hhon (by simp) (by simp)
      | loaded request =>
        unfold tally
        rw [ihr, clearedLast_cons_loaded]
        simp
        tauto

theorem tally_early_none (outs : List Attempt) (s : Tally)
    (hs : ∀ x ∈ outs, ∀ o, x.2 = some o → ¬ o.Stops) :
    (tally s outs).1 = none ∧ (tally s outs).2.loaded = s.loaded ++ fullySuccessful outs := by
  induction outs generalizing s with
  | nil => simp [tally, fullySuccessful]
  | cons x rest ih =>
    obtain ⟨m, outcome⟩ := x
    have ihr := fun s => ih s (fun y hy => hs y (by simp [hy]))
    have hskip (res : XrResult) : (s.skip res).loaded = s.loaded := by
      unfold Tally.skip
      split_ifs <;> rfl
    cases outcome with
    | none =>
      have := ihr (s.skip xrErrorFileAccessError)
      rw [hskip] at this
      exact this
    | some outcome =>
      have hstop := hs _ List.mem_cons_self outcome rfl
      cases outcome with
      | notInitialized => exact absurd trivial hstop
      | initFailed res => exact absurd trivial hstop
      | negotiateNotFound => exact ihr _
      | negotiationFailed res =>
        have := ihr (s.skip res)
        rw [hskip] at this
        exact this
      | loaded request =>
        have := ihr ⟨xrSuccess, true, s.loaded ++ [(m, request)]⟩
        simpa [tally, fullySuccessful] using this

theorem tally_early_some (outs : List Attempt) (s : Tally)
    (hh : ∀ x ∈ outs, ∀ o, x.2 = some o → o.Honest)
    (hs : ¬ ∀ x ∈ outs, ∀ o, x.2 = some o → ¬ o.Stops) :
    ∃ res, (tally s outs).1 = some res ∧ xrFailed res := by
  induction outs generalizing s with
  | nil => simp at hs
  | cons x rest ih =>
    obtain ⟨m, outcome⟩ := x
    have hrest (hx : ∀ o, outcome = some o → ¬ o.Stops) :
        ∀ s, ∃ res, (tally s rest).1 = some res ∧ xrFailed res :=
      fun s => ih s (fun y hy => hh y (by simp [hy]))
        fun hall => hs (List.forall_mem_cons.mpr ⟨hx, hall⟩)
    cases outcome with
    | none => exact hrest (by simp) _
    | some outcome =>
      have hhon := hh _ List.mem_cons_self outcome rfl
      cases outcome with
      | notInitialized => exact ⟨_, rfl, by decide⟩
      | initFailed res => exact ⟨res, rfl, hhon⟩
      | negotiateNotFound => exact hrest (by simp [LayerOutcome.Stops]) _
      | negotiationFailed res => exact hrest (by simp [LayerOutcome.Stops]) _
      | loaded request => exact hrest (by simp [LayerOutcome.Stops]) _

/-! ## The loop of the code -/

def interfaceLibraries (interfaces : List ApiLayerInterface) : List ℕ :=
  interfaces.map (·.layerLibrary)

/-- The interfaces are those of the listed layers, in the same order. -/
def InterfacesOf (interfaces : List ApiLayerInterface)
    (loaded : List (ApiLayerManifestFile × XrNegotiateApiLayerRequest)) : Prop :=
  List.Forall₂ (fun iface p => ∃ library, iface = makeInterface p.1 library p.2) interfaces loaded

structure LoadState.Represents (s : LoadState) (t : Tally) : Prop where
  lastError : s.lastError = t.lastError
  anyLoaded : s.anyLoaded = t.anyLoaded
  interfaces : InterfacesOf s.interfaces t.loaded

theorem LoadState.Represents.skip {s : LoadState} {t : Tally} (h : s.Represents t) (res : XrResult) :
    (s.skip res).Represents (t.skip res) := by
  unfold LoadState.skip Tally.skip
  rw [h.anyLoaded]
  split_ifs
  · exact h
  · exact ⟨rfl, rfl, h.interfaces⟩

theorem skip_interfaces (s : LoadState) (res : XrResult) : (s.skip res).interfaces = s.interfaces := by
  unfold LoadState.skip
  split_ifs <;> rfl

theorem LoadState.Represents.add {s : LoadState} {t : Tally} (h : s.Represents t)
    (m : ApiLayerManifestFile) (library : ℕ) (request : XrNegotiateApiLayerRequest) :
    (s.add (makeInterface m library request)).Represents ⟨xrSuccess, true, t.loaded ++ [(m, request)]⟩ :=
  ⟨rfl, rfl, List.rel_append h.interfaces (.cons ⟨library, rfl⟩ .nil)⟩

/-- The world after a layer's library was opened, and after it was closed again. -/
def opened (w : World) : World := { w.tick with libraries := w.libraries.opening }

def openedClosed (w : World) : World :=
  { w.tick with libraries := w.libraries.opening.closing w.libraries.fresh }

theorem loadLayer_eq (env : Environment) (s : LoadState) (m : ApiLayerManifestFile) (w : World) :
    loadLayer env s m w =
      match (env.openLayer w.clock m.libraryPath).map
          (negotiateLayer env.requiresPlatformInit w.initData m) with
      | none => .ok (.ok (s.skip xrErrorFileAccessError)) w.tick
      | some .notInitialized => .ok (.error xrErrorValidationFailure) (openedClosed w)
      | some (.initFailed res) => .ok (.error res) (openedClosed w)
      | some .negotiateNotFound =>
        .ok (.ok { s with lastError := xrErrorApiLayerNotPresent }) (openedClosed w)
      | some (.negotiationFailed res) => .ok (.ok (s.skip res)) (openedClosed w)
      | some (.loaded request) =>
        .ok (.ok (s.add (makeInterface m w.libraries.fresh request))) (opened w) := by
  unfold loadLayer
  rw [bind_of_ok ask_run]
  cases env.openLayer w.clock m.libraryPath with
  | none => rfl
  | some library =>
    dsimp only [Option.map_some]
    rw [bind_of_ok openLibrary_run, bind_of_ok get_run]
    dsimp only [World.tick]
    cases negotiateLayer env.requiresPlatformInit w.initData m library <;> rfl

/-- What comes of the layer whose library is opened next. -/
abbrev nextOutcome (env : Environment) (m : ApiLayerManifestFile) (w : World) : Option LayerOutcome :=
  (env.openLayer w.clock m.libraryPath).map (negotiateLayer env.requiresPlatformInit w.initData m)

/-- One round of the code's loop returns, or goes on, as the outcome says, and closes what it does
not hand out. -/
theorem loadLayer_step (env : Environment) {s : LoadState} {t : Tally} {w : World}
    (h : s.Represents t) (m : ApiLayerManifestFile) :
    ∃ l, (∃ res, loadLayer env s m w = .ok (.error res) { w.tick with libraries := l } ∧
        (∀ rest, tally t ((m, nextOutcome env m w) :: rest) = (some res, t)) ∧
        w.libraries.Carries l (interfaceLibraries s.interfaces) (interfaceLibraries s.interfaces)) ∨
      ∃ s' t', loadLayer env s m w = .ok (.ok s') { w.tick with libraries := l } ∧
        (∀ rest, tally t ((m, nextOutcome env m w) :: rest) = tally t' rest) ∧ s'.Represents t' ∧
        w.libraries.Carries l (interfaceLibraries s.interfaces) (interfaceLibraries s'.interfaces) := by
  have hlayer := loadLayer_eq env s m w
  have hclosed := HandleLedger.carries_opening_closing w.libraries (interfaceLibraries s.interfaces)
  have hskip (res : XrResult) :
      interfaceLibraries (s.skip res).interfaces = interfaceLibraries s.interfaces := by
    rw [skip_interfaces]
  unfold nextOutcome
  cases ho : (env.openLayer w.clock m.libraryPath).map
      (negotiateLayer env.requiresPlatformInit w.initData m) with
  | none =>
    rw [ho] at hlayer
    refine ⟨w.libraries, Or.inr ⟨_, _, hlayer, fun _ => rfl, h.skip _, ?_⟩⟩
    rw [hskip]
    exact HandleLedger.Carries.refl _ _
  | some outcome =>
    rw [ho] at hlayer
    cases outcome with
    | notInitialized => exact ⟨_, Or.inl ⟨_, hlayer, fun _ => rfl, hclosed⟩⟩
    | initFailed res => exact ⟨_, Or.inl ⟨_, hlayer, fun _ => rfl, hclosed⟩⟩
    | negotiateNotFound =>
      exact ⟨_, Or.inr ⟨_, { t with lastError := xrErrorApiLayerNotPresent }, hlayer, fun _ => rfl,
        ⟨rfl, h.anyLoaded, h.interfaces⟩, hclosed⟩⟩
    | negotiationFailed res =>
      refine ⟨_, Or.inr ⟨_, _, hlayer, fun _ => rfl, h.skip res, ?_⟩⟩
      rw [hskip]
      exact hclosed
    | loaded request =>
      refine ⟨_, Or.inr ⟨_, _, hlayer, fun _ => rfl, h.add m w.libraries.fresh request, ?_⟩⟩
      have hadd : interfaceLibraries
          (s.add (makeInterface m w.libraries.fresh request)).interfaces =
          interfaceLibraries s.interfaces ++ [w.libraries.fresh] := by
        simp [LoadState.add, interfaceLibraries, makeInterface]
      rw [hadd]
      exact HandleLedger.carries_opening w.libraries (interfaceLibraries s.interfaces)

/-- The code's loop does what the outcomes say, and closes what it does not hand out. -/
theorem loadLayers_spec (env : Environment) (ms : List ApiLayerManifestFile) (s : LoadState)
    (t : Tally) (w : World) (h : s.Represents t) :
    ∃ s' c l, loadLayers env s ms w =
        .ok ((tally t (attempts env w.initData w.clock ms)).1, s')
          { w with clock := c, libraries := l } ∧
      s'.Represents (tally t (attempts env w.initData w.clock ms)).2 ∧
      w.libraries.Carries l (interfaceLibraries s.interfaces) (interfaceLibraries s'.interfaces) := by
  induction ms generalizing s t w with
  | nil => exact ⟨s, w.clock, w.libraries, rfl, h, HandleLedger.Carries.refl _ _⟩
  | cons m ms ih =>
    unfold attempts loadLayers
    obtain ⟨l, ⟨res, hlayer, htally, hcarry⟩ | ⟨s₁, t₁, hlayer, htally, hrep₁, hcarry₁⟩⟩ :=
      loadLayer_step env h m
    · rw [bind_of_ok hlayer, htally]
      exact ⟨s, _, _, rfl, h, hcarry⟩
    · rw [bind_of_ok hlayer, htally]
      obtain ⟨s', c, l', hrun, hrep, hcarry⟩ := ih s₁ t₁ { w.tick with libraries := l } hrep₁
      exact ⟨s', c, l', hrun, hrep, hcarry₁.trans hcarry⟩

theorem destroyInterfaces_run (interfaces : List ApiLayerInterface) (w : World) :
    ∃ l, destroyInterfaces interfaces w = .ok ⟨⟩ { w with libraries := l } ∧
      w.libraries.Carries l (interfaceLibraries interfaces) [] := by
  induction interfaces generalizing w with
  | nil => exact ⟨w.libraries, rfl, HandleLedger.Carries.refl _ _⟩
  | cons iface interfaces ih =>
    obtain ⟨l, hrun, hcarry⟩ :=
      ih { w with libraries := w.libraries.closing iface.layerLibrary }
    exact ⟨l, hrun, (HandleLedger.carries_closing w.libraries iface.layerLibrary _).trans hcarry⟩

/-- The result of loading a set of enabled layers, from their outcomes alone. -/
def resultOf (foundAllLayers : Bool) (outs : List Attempt) : XrResult :=
  match tally ⟨xrSuccess, false, []⟩ outs with
  | (some res, _) => res
  | (none, t) => if foundAllLayers then t.lastError else xrErrorApiLayerNotPresent

/-- The layers whose interfaces the call leaves in its vector: all that were loaded, unless it
comes to its end and fails. -/
def handedOut (foundAllLayers : Bool) (outs : List Attempt) :
    List (ApiLayerManifestFile × XrNegotiateApiLayerRequest) :=
  if (tally ⟨xrSuccess, false, []⟩ outs).1 = none ∧ xrFailed (resultOf foundAllLayers outs) then []
  else (tally ⟨xrSuccess, false, []⟩ outs).2.loaded

theorem handedOut_of_succeeded {found : Bool} {outs : List Attempt}
    (h : xrSucceeded (resultOf found outs)) :
    handedOut found outs = (tally ⟨xrSuccess, false, []⟩ outs).2.loaded :=
  if_neg fun hfail => not_xrFailed.mpr h hfail.2

theorem loadEnabledLayers_spec (env : Environment) (enabling : Enabling) (w : World)
    {outs : List Attempt} (houts : attempts env w.initData w.clock enabling.enabled = outs) :
    ∃ interfaces c l, loadEnabledLayers env enabling w =
        .ok (resultOf enabling.foundAllLayers outs, interfaces)
          { w with clock := c, libraries := l } ∧
      w.libraries.Carries l [] (interfaceLibraries interfaces) ∧
      InterfacesOf interfaces (handedOut enabling.foundAllLayers outs) := by
  obtain ⟨s, c, l, hrun, hrep, hcarry⟩ := loadLayers_spec env enabling.enabled
    ⟨xrSuccess, false, []⟩ ⟨xrSuccess, false, []⟩ w ⟨rfl, rfl, .nil⟩
  rw [houts] at hrun hrep
  unfold loadEnabledLayers
  rw [bind_of_ok hrun]
  rcases hout : tally ⟨xrSuccess, false, []⟩ outs with ⟨early, t⟩
  rw [hout] at hrep
  cases early with
  | some res =>
    have hresult : resultOf enabling.foundAllLayers outs = res := by rw [resultOf, hout]
    have hhanded : handedOut enabling.foundAllLayers outs = t.loaded := by simp [handedOut, hout]
    rw [hresult, hhanded]
    exact ⟨s.interfaces, c, l, rfl, hcarry, hrep.interfaces⟩
  | none =>
    have hresult : resultOf enabling.foundAllLayers outs =
        if enabling.foundAllLayers then t.lastError else xrErrorApiLayerNotPresent := by
      rw [resultOf, hout]
    dsimp only
    rw [hrep.lastError, ← hresult]
    by_cases hfail : xrFailed (resultOf enabling.foundAllLayers outs)
    · have hhanded : handedOut enabling.foundAllLayers outs = [] := by simp [handedOut, hout, hfail]
      obtain ⟨l', hclose, hcarry'⟩ :=
        destroyInterfaces_run s.interfaces { w with clock := c, libraries := l }
      rw [if_pos hfail, bind_of_ok hclose, hhanded]
      exact ⟨[], c, l', rfl, hcarry.trans hcarry', .nil⟩
    · rw [if_neg hfail, handedOut_of_succeeded (not_xrFailed.mp hfail), hout]
      exact ⟨s.interfaces, c, l, rfl, hcarry, hrep.interfaces⟩

theorem findManifestFiles_run (env : Environment) (type : ManifestFileType) (w : World) :
    findManifestFiles env type w =
      match env.findLayerManifests w.clock type with
      | .error fault => .error fault w.tick
      | .ok found => .ok found w.tick := by
  unfold findManifestFiles
  rw [bind_of_ok ask_run]
  cases env.findLayerManifests w.clock type <;> rfl

theorem findUnlessFailed_run (env : Environment) {result : XrResult} (hs : xrSucceeded result)
    (type : ManifestFileType) (w : World) : findUnlessFailed env result type w =
      match env.findLayerManifests w.clock type with
      | .error fault => .error fault w.tick
      | .ok found => .ok found w.tick :=
  (congrFun (if_pos hs) w).trans (findManifestFiles_run env type w)

/-- The libraries of the layers are the same. -/
structure SameLibraries (env env' : Environment) : Prop where
  openLayer : env'.openLayer = env.openLayer
  requiresPlatformInit : env'.requiresPlatformInit = env.requiresPlatformInit

theorem SameLibraries.loadEnabledLayers_eq {env env' : Environment} (h : SameLibraries env env')
    (enabling : Enabling) : loadEnabledLayers env' enabling = loadEnabledLayers env enabling := by
  have hlayer (s : LoadState) (m : ApiLayerManifestFile) : loadLayer env' s m = loadLayer env s m := by
    unfold loadLayer
    rw [h.openLayer, h.requiresPlatformInit]
  have hloop (s : LoadState) (ms : List ApiLayerManifestFile) :
      loadLayers env' s ms = loadLayers env s ms := by
    induction ms generalizing s with
    | nil => rfl
    | cons m ms ih =>
      unfold loadLayers
      rw [hlayer]
      simp only [ih]
  unfold loadEnabledLayers
  rw [hloop]

theorem loadApiLayers_of_found {env : Environment} {count : ℕ} {names : Option (List StdString)}
    {w : World} {implicit explicit : List ApiLayerManifestFile} {requested : List StdString}
    (hi : env.findLayerManifests w.clock .implicitApiLayer = .ok (xrSuccess, implicit))
    (he : env.findLayerManifests (w.clock + 1) .explicitApiLayer = .ok (xrSuccess, explicit))
    (hr : requestedLayers env w count names = some requested) :
    loadApiLayers env count names w =
      loadEnabledLayers env (enableLayers implicit explicit requested) w.tick.tick := by
  have hfi : findManifestFiles env .implicitApiLayer w = .ok (xrSuccess, implicit) w.tick := by
    rw [findManifestFiles_run, hi]
  have hfe : findUnlessFailed env xrSuccess .explicitApiLayer w.tick =
      .ok (xrSuccess, explicit) w.tick.tick := by
    have he' : env.findLayerManifests w.tick.clock .explicitApiLayer = .ok (xrSuccess, explicit) := he
    rw [findUnlessFailed_run env (by decide), he']
  have hr' : (if xrSucceeded xrSuccess then requestedLayers env w.tick.tick count names
      else some []) = some requested := (if_pos (by decide)).trans hr
  unfold loadApiLayers
  rw [bind_of_ok hfi]
  dsimp only
  rw [bind_of_ok hfe]
  dsimp only
  rw [bind_of_ok get_run, hr']

/-! ## Isolation of broken layers -/

def AllFound (implicit explicit : List ApiLayerManifestFile) (requested : List StdString) : Prop :=
  ∀ n ∈ requested, ∃ m ∈ implicit ++ explicit, m.layerName = n

/-- The result depends on whether some layer was loaded and on nothing else about the
others, and what was loaded is handed out. -/
def Isolates (found : Prop) (outs : List Attempt) (result : XrResult)
    (interfaces : List ApiLayerInterface) : Prop :=
  (xrSucceeded result ↔ found ∧ (outs = [] ∨ fullySuccessful outs ≠ [])) ∧
    (xrSucceeded result → InterfacesOf interfaces (fullySuccessful outs))

def NoInitFailure (outs : List Attempt) : Prop :=
  ∀ x ∈ outs, ∀ res, x.2 ≠ some (.initFailed res)

theorem fullySuccessful_ne_nil {outs : List Attempt} :
    fullySuccessful outs ≠ [] ↔ ∃ x ∈ outs, ∃ request, x.2 = some (.loaded request) := by
  constructor
  · intro h
    obtain ⟨p, hp⟩ := List.exists_mem_of_ne_nil _ h
    obtain ⟨x, hx, hxp⟩ := List.mem_filterMap.mp hp
    refine ⟨x, hx, ?_⟩
    split at hxp
    · rename_i request hr
      exact ⟨request, hr⟩
    · cases hxp
  · rintro ⟨x, hx, request, hr⟩
    have hmem : (x.1, request) ∈ fullySuccessful outs :=
      List.mem_filterMap.mpr ⟨x, hx, by rw [hr]⟩
    exact List.ne_nil_of_mem hmem

theorem ClearedLast.fullySuccessful_ne_nil {outs : List Attempt} (h : ClearedLast outs) :
    fullySuccessful outs ≠ [] := by
  obtain ⟨before, m, request, after, rfl, -⟩ := h
  exact ApiLayerInterface.fullySuccessful_ne_nil.mpr ⟨(m, some (.loaded request)), by simp, request, rfl⟩

theorem not_stops_of_initialized {env : Environment} {initData : LoaderInitData} {t : ℕ}
    {ms : List ApiLayerManifestFile}
    (hinit : env.requiresPlatformInit = true → initData.initialized = true) :
    (∀ x ∈ attempts env initData t ms, ∀ o, x.2 = some o → ¬ o.Stops) ↔
      NoInitFailure (attempts env initData t ms) := by
  have hnot : ∀ m library,
      negotiateLayer env.requiresPlatformInit initData m library ≠ .notInitialized := by
    intro m library h
    have hneg : ¬ (env.requiresPlatformInit = true ∧ ¬ initData.initialized = true) :=
      fun hc => hc.2 (hinit hc.1)
    unfold negotiateLayer at h
    rw [if_neg hneg] at h
    dsimp only at h
    split at h
    · cases h
    · split at h
      · cases h
      · split_ifs at h
        split at h <;> cases h
  have hattempt : ∀ x ∈ attempts env initData t ms, x.2 ≠ some .notInitialized := by
    intro x hx hx2
    obtain ⟨m, -, u, rfl⟩ := mem_attempts hx
    obtain ⟨library, -, hlib⟩ := Option.map_eq_some_iff.mp hx2
    exact hnot m library hlib
  constructor
  · intro h x hx res hres
    exact h x hx _ hres trivial
  · intro h x hx o ho hstop
    cases o with
    | notInitialized => exact hattempt x hx ho
    | initFailed res => exact h x hx res ho
    | _ => exact hstop

/-- The enabled layers of a call in the world `w`, with their outcomes. -/
def enabledAttempts (env : Environment) (w : World) (implicit explicit : List ApiLayerManifestFile)
    (requested : List StdString) : List Attempt :=
  attempts env w.initData (w.clock + 2) (enableLayers implicit explicit requested).enabled

theorem tally_start_succeeded {outs : List Attempt}
    (hh : ∀ x ∈ outs, ∀ o, x.2 = some o → o.Honest) (hs : ∀ x ∈ outs, ∀ o, x.2 = some o → ¬ o.Stops) :
    xrSucceeded (tally ⟨xrSuccess, false, []⟩ outs).2.lastError ↔ ClearedLast outs ∨ outs = [] := by
  rw [tally_succeeded outs _ hh hs]
  constructor
  · rintro (h | ⟨-, -, h⟩)
    · exact Or.inl h
    · exact Or.inr (h.resolve_left (by simp))
  · rintro (h | rfl)
    · exact Or.inl h
    · exact Or.inr ⟨by decide, by simp, Or.inr rfl⟩

theorem resultOf_of_early {found : Bool} {outs : List Attempt} {res : XrResult}
    (h : (tally ⟨xrSuccess, false, []⟩ outs).1 = some res) : resultOf found outs = res := by
  unfold resultOf
  rcases ht : tally ⟨xrSuccess, false, []⟩ outs with ⟨early, t⟩
  rw [ht] at h
  dsimp only at h
  rw [h]

theorem resultOf_of_no_early {found : Bool} {outs : List Attempt}
    (h : (tally ⟨xrSuccess, false, []⟩ outs).1 = none) :
    xrSucceeded (resultOf found outs) ↔
      found = true ∧ xrSucceeded (tally ⟨xrSuccess, false, []⟩ outs).2.lastError := by
  unfold resultOf
  rcases ht : tally ⟨xrSuccess, false, []⟩ outs with ⟨early, t⟩
  rw [ht] at h
  dsimp only at h
  rw [h]
  cases found <;> simp

def EachLoads (outs : List Attempt) : Prop :=
  ∀ x ∈ outs, ∃ request, x.2 = some (.loaded request)

theorem map_attempts (env : Environment) (initData : LoaderInitData) (t : ℕ)
    (ms : List ApiLayerManifestFile) : (attempts env initData t ms).map (·.1) = ms := by
  induction ms generalizing t with
  | nil => rfl
  | cons m ms ih => rw [attempts, List.map_cons, ih]

theorem tally_eachLoads {outs : List Attempt} (h : EachLoads outs) {s : Tally}
    (hs : s.lastError = xrSuccess) : (tally s outs).1 = none ∧
      (tally s outs).2.lastError = xrSuccess ∧
      (tally s outs).2.loaded.map (·.1) = s.loaded.map (·.1) ++ outs.map (·.1) := by
  induction outs generalizing s with
  | nil => simp [tally, hs]
  | cons x outs ih =>
    obtain ⟨m, outcome⟩ := x
    obtain ⟨request, rfl⟩ := h _ List.mem_cons_self
    have hrest : EachLoads outs := fun y hy => h y (List.mem_cons_of_mem _ hy)
    have := ih hrest (s := ⟨xrSuccess, true, s.loaded ++ [(m, request)]⟩) rfl
    simpa [tally] using this

theorem resultOf_eachLoads {outs : List Attempt} (h : EachLoads outs) (found : Bool) :
    resultOf found outs = if found then xrSuccess else xrErrorApiLayerNotPresent := by
  obtain ⟨hnone, herror, -⟩ := tally_eachLoads h (s := ⟨xrSuccess, false, []⟩) rfl
  unfold resultOf
  rcases ht : tally ⟨xrSuccess, false, []⟩ outs with ⟨early, t⟩
  rw [ht] at hnone herror
  dsimp only at hnone herror
  rw [hnone, ← herror]

/-- The interfaces are those of the layers of these manifests, in the same order. -/
def LayersOf (interfaces : List ApiLayerInterface) (manifests : List ApiLayerManifestFile) : Prop :=
  List.Forall₂ (fun iface m => ∃ library request, iface = makeInterface m library request)
    interfaces manifests

theorem InterfacesOf.layersOf {interfaces : List ApiLayerInterface}
    {loaded : List (ApiLayerManifestFile × XrNegotiateApiLayerRequest)}
    (h : InterfacesOf interfaces loaded) : LayersOf interfaces (loaded.map (·.1)) := by
  unfold LayersOf
  rw [List.forall₂_map_right_iff]
  exact h.imp fun _ p ⟨library, hp⟩ => ⟨library, p.2, hp⟩

/-- When every enabled layer loads, only the names matter. -/
theorem loadApiLayers_eachLoads {env : Environment} {count : ℕ} {names : Option (List StdString)}
    {w : World} {implicit explicit : List ApiLayerManifestFile} {requested : List StdString}
    (hi : env.findLayerManifests w.clock .implicitApiLayer = .ok (xrSuccess, implicit))
    (he : env.findLayerManifests (w.clock + 1) .explicitApiLayer = .ok (xrSuccess, explicit))
    (hr : requestedLayers env w count names = some requested)
    (hload : EachLoads (enabledAttempts env w implicit explicit requested)) :
    ∃ result layers w', loadApiLayers env count names w = .ok (result, layers) w' ∧
      (AllFound implicit explicit requested → result = xrSuccess ∧
        LayersOf layers (enableLayers implicit explicit requested).enabled) ∧
      (¬ AllFound implicit explicit requested → result = xrErrorApiLayerNotPresent) := by
  obtain ⟨layers, c, l, hrun, -, hlayers⟩ :=
    loadEnabledLayers_spec env (enableLayers implicit explicit requested) w.tick.tick
      (rfl : _ = enabledAttempts env w implicit explicit requested)
  have hfound := enableLayers_found implicit explicit requested
  rw [resultOf_eachLoads hload] at hrun
  refine ⟨_, layers, _, (loadApiLayers_of_found hi he hr).trans hrun, fun hall => ?_, fun hall => ?_⟩
  · rw [hfound.mpr hall] at hlayers ⊢
    refine ⟨rfl, ?_⟩
    have hsucceeded : xrSucceeded (resultOf true (enabledAttempts env w implicit explicit requested)) := by
      rw [resultOf_eachLoads hload]
      exact le_refl _
    obtain ⟨-, -, hmap⟩ := tally_eachLoads hload (s := ⟨xrSuccess, false, []⟩) rfl
    rw [handedOut_of_succeeded hsucceeded] at hlayers
    have := hlayers.layersOf
    rwa [hmap, List.map_nil, List.nil_append, enabledAttempts, map_attempts] at this
  · exact if_neg fun h => hall (hfound.mp h)

theorem isolates_resultOf_iff {found : Bool} {outs : List Attempt}
    {interfaces : List ApiLayerInterface} (hh : ∀ x ∈ outs, ∀ o, x.2 = some o → o.Honest)
    (hs : (∀ x ∈ outs, ∀ o, x.2 = some o → ¬ o.Stops) ↔ NoInitFailure outs)
    (hifaces : InterfacesOf interfaces (handedOut found outs)) :
    Isolates (found = true) outs (resultOf found outs) interfaces ↔
      ¬ found = true ∨ fullySuccessful outs = [] ∨ NoInitFailure outs ∧ ClearedLast outs := by
  by_cases hn : NoInitFailure outs
  · obtain ⟨hnone, hloaded⟩ := tally_early_none outs ⟨xrSuccess, false, []⟩ (hs.mpr hn)
    have hsucc : xrSucceeded (resultOf found outs) ↔
        found = true ∧ (ClearedLast outs ∨ outs = []) := by
      rw [resultOf_of_no_early hnone, tally_start_succeeded hh (hs.mpr hn)]
    have hhand : xrSucceeded (resultOf found outs) →
        InterfacesOf interfaces (fullySuccessful outs) := by
      intro h
      rwa [handedOut_of_succeeded h, hloaded] at hifaces
    have hc : ClearedLast outs → fullySuccessful outs ≠ [] := fun h => h.fullySuccessful_ne_nil
    have ho : outs = [] → fullySuccessful outs = [] := by
      rintro rfl
      rfl
    rw [Isolates, and_iff_left hhand, hsucc]
    by_cases hfull : fullySuccessful outs = []
    · have hcleared : ¬ ClearedLast outs := fun h => hc h hfull
      simp [hfull, hcleared]
    · have houts : outs ≠ [] := fun h => hfull (ho h)
      by_cases hfound : found = true <;> simp [hfound, hfull, houts, hn]
  · obtain ⟨res, hsome, hfail⟩ := tally_early_some outs ⟨xrSuccess, false, []⟩ hh (mt hs.mp hn)
    have hres : ¬ xrSucceeded (resultOf found outs) := by
      rw [resultOf_of_early hsome]
      exact not_xrSucceeded.mpr hfail
    have ho : outs ≠ [] := by
      rintro rfl
      exact hn (by simp [NoInitFailure])
    rw [Isolates, and_iff_left fun h => absurd h hres, iff_false_left hres]
    by_cases hfound : found = true <;> simp [hfound, ho, hn]

/-- A broken layer is isolated exactly when some requested name is unknown, or no layer is
loaded, or no layer fails its exported initialization and none lacks its negotiation
function after a layer that was loaded. -/
theorem loadApiLayers_isolates_iff {env : Environment} {count : ℕ}
    {names : Option (List StdString)} {w : World} {implicit explicit : List ApiLayerManifestFile}
    {requested : List StdString}
    (hi : env.findLayerManifests w.clock .implicitApiLayer = .ok (xrSuccess, implicit))
    (he : env.findLayerManifests (w.clock + 1) .explicitApiLayer = .ok (xrSuccess, explicit))
    (hr : requestedLayers env w count names = some requested)
    (hinit : env.requiresPlatformInit = true → w.initData.initialized = true) :
    ∃ result interfaces w', loadApiLayers env count names w = .ok (result, interfaces) w' ∧
      (Isolates (AllFound implicit explicit requested)
          (enabledAttempts env w implicit explicit requested) result interfaces ↔
        ¬ AllFound implicit explicit requested ∨
        fullySuccessful (enabledAttempts env w implicit explicit requested) = [] ∨
        NoInitFailure (enabledAttempts env w implicit explicit requested) ∧
          ClearedLast (enabledAttempts env w implicit explicit requested)) := by
  obtain ⟨interfaces, c, l, hrun, -, hifaces⟩ :=
    loadEnabledLayers_spec env (enableLayers implicit explicit requested) w.tick.tick
      (rfl : _ = enabledAttempts env w implicit explicit requested)
  have hfound := enableLayers_found implicit explicit requested
  refine ⟨_, interfaces, _, (loadApiLayers_of_found hi he hr).trans hrun, ?_⟩
  rw [show AllFound implicit explicit requested ↔ _ from hfound.symm]
  exact isolates_resultOf_iff (fun x hx o ho => honest_of_mem_attempts hx ho)
    (not_stops_of_initialized hinit) hifaces

def implicitLayer (name : StdString) : ApiLayerManifestFile where
  filename := name
  type := .implicitApiLayer
  libraryPath := name
  instanceExtensions := []
  functionsRenamed := ∅
  apiVersion := ⟨1, 0, 0⟩
  layerName := name
  description := []
  implementationVersion := 1

def negotiatingLibrary (negotiates : Bool) : Library XrNegotiateApiLayerRequest where
  exportedInitializeLoader _ := none
  negotiate _ := if negotiates then some (xrSuccess, ⟨1, 0, .foreign 1, .foreign 2⟩) else none
  queriedInitializeLoader := (xrErrorFunctionUnsupported, none)

def brokenSecondLayer : Environment :=
  { Environment.bare with
    findLayerManifests := fun _ type =>
      .ok (xrSuccess, if type = .implicitApiLayer then
        [implicitLayer "a".toList, implicitLayer "b".toList] else [])
    openLayer := fun _ path => some (negotiatingLibrary (path = "a".toList)) }

/-- The loader before its first call, with a logger that has no recorders. -/
def quietWorld : World := World.initial ⟨[], ∅, DebugUtilsData.new⟩

theorem loadApiLayers_isolates_iff_brokenSecondLayer :
    ∃ result interfaces w', loadApiLayers brokenSecondLayer 0 none quietWorld =
        .ok (result, interfaces) w' ∧
      (Isolates (AllFound [implicitLayer "a".toList, implicitLayer "b".toList] [] [])
          (enabledAttempts brokenSecondLayer quietWorld
            [implicitLayer "a".toList, implicitLayer "b".toList] [] []) result interfaces ↔
        ¬ AllFound [implicitLayer "a".toList, implicitLayer "b".toList] [] [] ∨
        fullySuccessful (enabledAttempts brokenSecondLayer quietWorld
          [implicitLayer "a".toList, implicitLayer "b".toList] [] []) = [] ∨
        NoInitFailure (enabledAttempts brokenSecondLayer quietWorld
          [implicitLayer "a".toList, implicitLayer "b".toList] [] []) ∧
          ClearedLast (enabledAttempts brokenSecondLayer quietWorld
            [implicitLayer "a".toList, implicitLayer "b".toList] [] [])) :=
  loadApiLayers_isolates_iff rfl rfl rfl (by intro h; cases h)

/-- The first layer is loaded, and yet the call fails for want of the second. -/
theorem brokenSecondLayer_not_isolated :
    ∃ interfaces w', loadApiLayers brokenSecondLayer 0 none quietWorld =
        .ok (xrErrorApiLayerNotPresent, interfaces) w' ∧
      ¬ Isolates (AllFound [implicitLayer "a".toList, implicitLayer "b".toList] [] [])
        (enabledAttempts brokenSecondLayer quietWorld
          [implicitLayer "a".toList, implicitLayer "b".toList] [] [])
        xrErrorApiLayerNotPresent interfaces := by
  refine ⟨[], _, rfl, ?_⟩
  rintro ⟨h, -⟩
  have hloaded : fullySuccessful (enabledAttempts brokenSecondLayer quietWorld
      [implicitLayer "a".toList, implicitLayer "b".toList] [] []) ≠ [] := List.cons_ne_nil _ _
  exact absurd (h.mpr ⟨by simp [AllFound], Or.inr hloaded⟩) (by decide)

end OpenXRSdk.ApiLayerInterface
