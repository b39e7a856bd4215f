import OpenXRSdk.RuntimeInterface

/-!
# Loading a runtime

Which of the worlds that a call may leave behind differ from the one it found in nothing
but the runtime that it loaded.
-/
namespace OpenXRSdk

open StateProgram HandleLedger

namespace World

def runtimeLibraries (w : World) : List ℕ := w.runtime.toList.map (·.runtimeLibrary)

/-- A runtime may have been loaded, and some time has passed. -/
structure Loads (w w' : World) : Prop where
  overrides : w'.overrides = w.overrides
  initData : w'.initData = w.initData
  activeInstance : w'.activeInstance = w.activeInstance
  logger : w'.logger = w.logger
  runtime : w'.runtime = w.runtime ∨ w.runtime = none ∧ ∀ rt ∈ w'.runtime,
    rt.dispatchTableMap = ∅ ∧ rt.messengerToInstanceMap = ∅
  libraries : Carries w.libraries w'.libraries w.runtimeLibraries w'.runtimeLibraries

theorem Loads.refl (w : World) : Loads w w :=
  ⟨rfl, rfl, rfl, rfl, Or.inl rfl, Carries.refl _ _⟩

theorem Loads.trans {w w₁ w₂ : World} (h : Loads w w₁) (g : Loads w₁ w₂) : Loads w w₂ where
  overrides := g.overrides.trans h.overrides
  initData := g.initData.trans h.initData
  activeInstance := g.activeInstance.trans h.activeInstance
  logger := g.logger.trans h.logger
  libraries := h.libraries.trans g.libraries
  runtime := by
    rcases h.runtime with hr | ⟨hn, hr⟩ <;> rcases g.runtime with gr | ⟨gn, gr⟩
    · exact Or.inl (gr.trans hr)
    · exact Or.inr ⟨hr ▸ gn, gr⟩
    · exact Or.inr ⟨hn, gr ▸ hr⟩
    · exact Or.inr ⟨hn, gr⟩

instance : IsPreorder World Loads where
  refl := Loads.refl
  trans _ _ _ h g := h.trans g

theorem Loads.of_runtime {w w' : World} (h : Loads w w') {rt : RuntimeInterface}
    (hr : w.runtime = some rt) : w'.runtime = some rt := by
  rcases h.runtime with hs | ⟨hn, -⟩
  · exact hs.trans hr
  · rw [hr] at hn
    cases hn

theorem Later.loads {w w' : World} (h : Later w w') : Loads w w' := by
  obtain ⟨c, rfl⟩ := h
  exact ⟨rfl, rfl, rfl, rfl, Or.inl rfl, Carries.refl _ _⟩

/-- Libraries that were opened and closed again leave no trace. -/
theorem loads_of_carries {w : World} {c : ℕ} {l : HandleLedger} (h : Carries w.libraries l [] []) :
    Loads w { w with
      clock := c
      libraries := l } :=
  ⟨rfl, rfl, rfl, rfl, Or.inl rfl, fun others ho => h (w.runtimeLibraries ++ others) ho⟩

/-- A runtime without instances came with its library. -/
theorem loads_of_runtime {w : World} {rt : RuntimeInterface} {c : ℕ} {l : HandleLedger}
    (h : w.runtime = none) (hd : rt.dispatchTableMap = ∅) (hm : rt.messengerToInstanceMap = ∅)
    (hl : Carries w.libraries l [] [rt.runtimeLibrary]) : Loads w { w with
      clock := c
      libraries := l
      runtime := some rt } where
  overrides := rfl
  initData := rfl
  activeInstance := rfl
  logger := rfl
  runtime := Or.inr ⟨h, by rintro _ ⟨⟩; exact ⟨hd, hm⟩⟩
  libraries := by
    have hw : w.runtimeLibraries = [] := by rw [runtimeLibraries, h]; rfl
    rw [hw]
    exact hl

end World

open World

namespace RuntimeInterface

theorem getRuntime_of_some {w : World} {rt : RuntimeInterface} (h : w.runtime = some rt) :
    getRuntime w = .ok rt w := by
  unfold getRuntime
  rw [bind_of_ok get_run, h]
  rfl

theorem getRuntime_eq_ok {w w' : World} {rt : RuntimeInterface} :
    getRuntime w = .ok rt w' ↔ w.runtime = some rt ∧ w' = w := by
  constructor
  · intro h
    cases hr : w.runtime with
    | none =>
      unfold getRuntime at h
      rw [bind_of_ok get_run, hr] at h
      cases h
    | some rt' =>
      rw [getRuntime_of_some hr] at h
      cases h
      exact ⟨rfl, rfl⟩
  · rintro ⟨h, rfl⟩
    exact getRuntime_of_some h

theorem getRuntime_within {r : World → World → Prop} [IsPreorder World r] :
    Within r isUndefined getRuntime := by
  unfold getRuntime
  refine Within.get.bind fun w => ?_
  cases w.runtime with
  | none => exact undefinedBehaviour_within
  | some rt => exact Within.pure rt

theorem filledExtensions_within {r : World → World → Prop} [IsPreorder World r]
    (query : ExtensionQuery) : Within r isUndefined (filledExtensions query) := by
  unfold filledExtensions
  split
  · exact undefinedBehaviour_within
  · exact undefinedBehaviour_within
  · exact (Within.pure _).ite (undefinedBehaviour_within.ite (Within.pure _))

theorem mergeExtensions_nil (exts : List XrExtensionProperties) : mergeExtensions [] exts = exts := by
  have hfold : exts.foldl (fun ps ext => overrideVersion ext ps) [] = [] := by
    induction exts with
    | nil => rfl
    | cons ext exts ih => exact ih
  simp [mergeExtensions, hfold]

theorem getInstanceExtensionProperties_later (env : Environment) (props : List XrExtensionProperties) :
    Within Later isUndefined (getInstanceExtensionProperties env props) :=
  getRuntime_within.bind fun _ => (ask_later _).bind fun query =>
    (filledExtensions_within query).bind fun _ => Within.pure _

/-! ## One manifest -/

theorem checkRequest_error {request : XrNegotiateRuntimeRequest} {res : XrResult}
    (h : checkRequest request = .error res) : xrFailed res := by
  unfold checkRequest at h
  cases hg : request.getInstanceProcAddr with
  | none =>
    rw [hg] at h
    cases h
    decide
  | some gipa =>
    simp only [hg] at h
    split_ifs at h
    · cases h; decide
    · cases h; decide

def OnlyFailures {α : Type} (x : Except XrResult α) : Prop := ∀ res, x = .error res → xrFailed res

theorem OnlyFailures.ok {α : Type} (a : α) : OnlyFailures (.ok a) := by
  intro res h
  cases h

theorem OnlyFailures.error {α : Type} {res : XrResult} (h : xrFailed res) :
    OnlyFailures (.error res : Except XrResult α) := by
  intro res' he
  cases he
  exact h

theorem OnlyFailures.bind {α β : Type} {x : Except XrResult α} {f : α → Except XrResult β}
    (hx : OnlyFailures x) (hf : ∀ a, OnlyFailures (f a)) : OnlyFailures (x >>= f) := by
  cases x with
  | error res => exact OnlyFailures.error (hx res rfl)
  | ok a => exact hf a

theorem negotiateRuntime_error {requiresPlatformInit : Bool} {initData : LoaderInitData}
    {manifest : RuntimeManifestFile} {library : Library XrNegotiateRuntimeRequest} {res : XrResult}
    (h : negotiateRuntime requiresPlatformInit initData manifest library = .error res) :
    xrFailed res := by
  revert res
  change OnlyFailures _
  unfold negotiateRuntime
  split_ifs
  · exact OnlyFailures.error (by decide)
  refine OnlyFailures.bind (fun _ => forwardExported_error) fun forwarded => ?_
  have hfinish (gipa : ℕ) : OnlyFailures
      (if (!forwarded) = true then do
          forwardQueried (initData.getPlatformParam requiresPlatformInit) library
          pure gipa
        else pure gipa) := by
    split_ifs
    · exact OnlyFailures.bind (fun _ => forwardQueried_error) fun _ => OnlyFailures.ok gipa
    · exact OnlyFailures.ok gipa
  cases library.negotiate
      (manifest.getFunctionName "xrNegotiateLoaderRuntimeInterface".toList) with
  | none => exact OnlyFailures.error (by decide)
  | some p =>
    dsimp only
    by_cases hfail : xrFailed p.1
    · rw [if_pos hfail]
      exact OnlyFailures.error hfail
    · rw [if_neg hfail]
      exact OnlyFailures.bind (fun _ => checkRequest_error) hfinish

theorem tryLoadingSingleRuntime_eq (env : Environment) (manifest : RuntimeManifestFile) (w : World) :
    tryLoadingSingleRuntime env manifest w =
      match (env.openRuntime w.clock manifest.libraryPath).map
          (negotiateRuntime env.requiresPlatformInit w.initData manifest) with
      | none => .ok xrErrorFileAccessError w.tick
      | some (.error res) => .ok res
          { w.tick with libraries := w.libraries.opening.closing w.libraries.fresh }
      | some (.ok gipa) => (noteSupportedExtensions env >>= fun _ => pure xrSuccess)
          { w.tick with
            libraries := w.libraries.opening
            runtime := some ⟨w.libraries.fresh, gipa, ∅, ∅, []⟩ } := by
  unfold tryLoadingSingleRuntime
  rw [bind_of_ok ask_run]
  cases env.openRuntime w.clock manifest.libraryPath with
  | none => rfl
  | some library =>
    dsimp only [Option.map_some]
    rw [bind_of_ok openLibrary_run, bind_of_ok get_run]
    dsimp only [World.tick]
    cases negotiateRuntime env.requiresPlatformInit w.initData manifest library <;> rfl

theorem noteSupportedExtensions_spec (env : Environment) {w : World} {rt : RuntimeInterface}
    (h : w.runtime = some rt) :
    Triple (· = w) (noteSupportedExtensions env)
      (fun _ s => ∃ c names, s = { w with
        clock := c
        runtime := some { rt with supportedExtensions := names } })
      (fun e s => isUndefined e ∧ Later w s) := by
  refine ((getInstanceExtensionProperties_later env []).triple_start w).bind fun props => ?_
  refine Triple.modify ?_
  rintro _ ⟨c, rfl⟩
  exact ⟨c, props.map (·.extensionName), by simp only [h, Option.map_some]⟩

/-- One manifest is tried without a runtime, and leaves one behind or fails. -/
def Attempted (w : World) (result : XrResult) (s : World) : Prop :=
  Loads w s ∧ (xrSucceeded result → s.runtime.isSome) ∧ (xrFailed result → s.runtime = none)

theorem tryLoadingSingleRuntime_spec (env : Environment) (manifest : RuntimeManifestFile) (w : World) :
    Triple (fun s => Loads w s ∧ s.runtime = none) (tryLoadingSingleRuntime env manifest)
      (Attempted w) (fun e s => isUndefined e ∧ Loads w s) := by
  rintro s ⟨hs, hnone⟩
  rw [tryLoadingSingleRuntime_eq]
  cases ho : (env.openRuntime s.clock manifest.libraryPath).map
      (negotiateRuntime env.requiresPlatformInit s.initData manifest) with
  | none =>
    exact ⟨hs.trans (Later.loads ⟨_, rfl⟩), fun h => absurd h (by decide), fun _ => hnone⟩
  | some outcome =>
    cases outcome with
    | error res =>
      obtain ⟨library, -, hneg⟩ := Option.map_eq_some_iff.mp ho
      have hfail := negotiateRuntime_error hneg
      have hclosed := loads_of_carries (c := s.clock + 1)
        (carries_opening_closing s.libraries [])
      exact ⟨hs.trans hclosed, fun h => absurd hfail (not_xrFailed.mpr h), fun _ => hnone⟩
    | ok gipa =>
      have hopen : Carries s.libraries s.libraries.opening [] [s.libraries.fresh] :=
        carries_opening s.libraries []
      have hnote := noteSupportedExtensions_spec env (w := { s.tick with
        libraries := s.libraries.opening
        runtime := some ⟨s.libraries.fresh, gipa, ∅, ∅, []⟩ }) rfl
      refine (hnote.conseq (fun _ h => h) ?_ ?_).bind (fun _ => Triple.pure (a := xrSuccess) fun _ h => h) _ rfl
      · rintro _ _ ⟨c, names, rfl⟩
        exact ⟨hs.trans (loads_of_runtime hnone rfl rfl hopen), fun _ => rfl,
          fun h => absurd h (by decide)⟩
      · rintro e _ ⟨he, c, rfl⟩
        exact ⟨he, hs.trans (loads_of_runtime hnone rfl rfl hopen)⟩

theorem tryManifests_spec (env : Environment) (w : World) (manifests : List RuntimeManifestFile)
    (lastError : XrResult) (h : xrFailed lastError) :
    Triple (fun s => Loads w s ∧ s.runtime = none) (tryManifests env lastError manifests)
      (Attempted w) (fun e s => isUndefined e ∧ Loads w s) := by
  induction manifests generalizing lastError with
  | nil =>
    refine Triple.pure ?_
    rintro s ⟨hs, hnone⟩
    exact ⟨hs, fun hr => absurd h (not_xrFailed.mpr hr), fun _ => hnone⟩
  | cons manifest manifests ih =>
    refine (tryLoadingSingleRuntime_spec env manifest w).bind fun result => ?_
    by_cases hr : xrSucceeded result
    · simp only [if_pos hr]
      exact Triple.pure fun _ hs => hs
    · simp only [if_neg hr]
      exact (ih result (not_xrSucceeded.mp hr)).strengthen
        fun s hs => ⟨hs.1, hs.2.2 (not_xrSucceeded.mp hr)⟩

theorem tryFoundManifests_spec (env : Environment) (result : XrResult)
    (manifests : List RuntimeManifestFile) (w : World) :
    Triple (fun s => Loads w s ∧ s.runtime = none) (tryFoundManifests env result manifests)
      (Attempted w) (fun e s => isUndefined e ∧ Loads w s) := by
  unfold tryFoundManifests
  by_cases h : xrFailed result
  · rw [if_pos h]
    exact Triple.pure fun s hs => ⟨hs.1, fun hr => absurd h (not_xrFailed.mpr hr), fun _ => hs.2⟩
  · rw [if_neg h]
    exact tryManifests_spec env w manifests _ (by decide)

/-- The call succeeds exactly when it leaves a runtime. -/
theorem loadRuntime_spec (env : Environment) (w : World) :
    Triple (· = w) (loadRuntime env)
      (fun result s => Loads w s ∧ (xrSucceeded result ↔ s.runtime.isSome)) (fun _ s => Loads w s) := by
  rintro s rfl
  unfold loadRuntime
  rw [bind_of_ok get_run]
  by_cases hr : s.runtime.isSome
  · rw [if_pos hr]
    exact ⟨Loads.refl s, fun _ => hr, fun _ => le_refl _⟩
  have hnone : s.runtime = none := by simpa using hr
  rw [if_neg hr, bind_of_ok get_run]
  have hfailed {result : XrResult} {t : World} (h : xrFailed result) (ht : t.runtime = none) :
      xrSucceeded result ↔ t.runtime.isSome := by
    simp [ht, not_le.mpr h]
  split_ifs with hinit
  · exact ⟨Loads.refl s, hfailed (by decide) hnone⟩
  rw [bind_of_ok ask_run]
  have htick : Loads s s.tick := Later.loads ⟨_, rfl⟩
  cases env.findRuntimeManifests s.clock with
  | error fault => exact htick
  | ok found =>
    refine ((tryFoundManifests_spec env found.1 found.2 s).conseq (fun _ h => h) (fun _ _ h => h)
      (fun _ _ h => h.2)).bind (fun result => ?_) s.tick ⟨htick, hnone⟩
    by_cases hresult : xrFailed result
    · simp only [if_pos hresult]
      exact Triple.pure fun t ht => ⟨ht.1, hfailed (by decide) (ht.2.2 hresult)⟩
    · simp only [if_neg hresult]
      exact Triple.pure fun t ht => ⟨ht.1, ht.2.1, fun _ => not_xrFailed.mp hresult⟩

theorem unloadRuntime_run (w : World) : ∃ l, unloadRuntime w = .ok ⟨⟩ { w with
      libraries := l
      runtime := none } ∧ Carries w.libraries l w.runtimeLibraries [] := by
  obtain ⟨clock, libraries, overrides, initData, runtime, activeInstance, logger⟩ := w
  cases runtime with
  | none => exact ⟨libraries, rfl, Carries.refl _ _⟩
  | some rt => exact ⟨_, rfl, carries_closing libraries rt.runtimeLibrary []⟩

end RuntimeInterface
end OpenXRSdk
