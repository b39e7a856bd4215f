import OpenXRSdk.ConformingCalls

/-!
# Runs of participants that conform

An application that passes the handles it has been given, on top of layers and a runtime that
keep to the interface, never gets the loader to do anything undefined: every call returns.
-/
namespace OpenXRSdk.LoaderCore

open StateProgram World TransitionSystem

variable {p : Participants} {env : Environment} {w w' : World} {live : Messengers}
  {defaults : List LoaderLogRecorder}

/-! ## One call -/

theorem initializeLoader_returns (env : Environment) (info : List LoaderInitInfo) (w : World) :
    Returns (initializeLoader env info) w := by
  unfold initializeLoader abiTry Returns
  dsimp only
  rw [bind_of_ok (isAvailable_run w)]
  by_cases hactive : w.activeInstance.isSome
  · rw [if_pos hactive]
    exact ⟨_, _, rfl⟩
  · obtain ⟨l, hunload, -⟩ := RuntimeInterface.unloadRuntime_run w
    obtain ⟨overrides, initData, ⟨_, hrun⟩ | hrun⟩ := initializeInitData_run env info
      { w with libraries := l, runtime := none }
    · rw [if_neg hactive, bind_of_ok hunload, hrun]
      exact ⟨_, _, rfl⟩
    · rw [if_neg hactive, bind_of_ok hunload, hrun]
      exact ⟨_, _, rfl⟩

section Call
variable (h : Sound p defaults live w) (hb : Behaves p live w env)
include h hb

/-- Every call returns, and what it leaves conforms. -/
theorem perform_returns {call : Call} (hv : ValidUsage live w call) :
    ∃ reply w', perform env call w = .ok reply w' ∧ Conforming p w' := by
  have hkept {x : Loader Reply} (hx : Returns x w) (hk : Within KeepsLoaded isUndefined x)
      (ht : Within KeepsTables isUndefined x) : ∃ reply w', x w = .ok reply w' ∧ Conforming p w' := by
    obtain ⟨reply, w', hrun⟩ := hx
    exact ⟨reply, w', hrun, h.conforming.of_keeps (hk.of_ok hrun) (ht.of_ok hrun)⟩
  have htables := keepsTables_calls hb.forwardsInstances
  by_cases hannotates : call.annotates = true
  · have ht := triple_perform_annotating (E := fun _ _ => False) h hb hv hannotates
    obtain ⟨reply, w', hrun, c, data, rfl⟩ := ht.returns (refl_of Annotates w)
    exact ⟨reply, _, hrun, h.conforming.runtime, h.conforming.active⟩
  cases call with
  | initializeLoader info =>
    obtain ⟨result, w', hrun⟩ := initializeLoader_returns env info w
    refine ⟨_, w', replyOf_eq_ok.mpr ⟨result, hrun, rfl⟩, ?_⟩
    rcases initializeLoader_cases hrun with ⟨-, -, rfl⟩ | ⟨hnone, c, l, o, d, rfl, -⟩
    · exact h.conforming
    · exact ⟨nofun, h.conforming.active⟩
  | enumerateApiLayerProperties capacity count types =>
    have hlater (s : World) (hs : Later w s) : Later w s.tick := by
      obtain ⟨c, rfl⟩ := hs
      exact ⟨c + 1, rfl⟩
    have ht := triple_enumerateApiLayerProperties hb.conforms hlater (E := fun _ _ => False)
      capacity count types
    obtain ⟨answer, w', hrun, hl⟩ := ht.returns (refl_of Later w)
    exact ⟨_, w', replyOf_eq_ok.mpr ⟨answer, hrun, rfl⟩, h.conforming.of_later hl⟩
  | enumerateInstanceExtensionProperties layerName capacity count types =>
    have ht := triple_enumerateInstanceExtensionProperties hb.conforms (E := fun _ _ => False)
      layerName capacity count types
    obtain ⟨answer, w', hrun, hgood⟩ := ht.returns h.conforming.runtime
    have hl := (enumerateInstanceExtensionProperties_loads env _ _ _ _).of_ok hrun
    exact ⟨_, w', replyOf_eq_ok.mpr ⟨answer, hrun, rfl⟩, hgood,
      hl.activeInstance ▸ h.conforming.active⟩
  | createInstance info inst => exact createInstance_returns h hb hv inst
  | destroyInstance inst =>
    obtain ⟨result, w', hrun⟩ := destroyInstance_returns h hb hv
    refine ⟨_, w', replyOf_eq_ok.mpr ⟨result, hrun, rfl⟩, ?_⟩
    rcases destroyInstance_cases hrun with ⟨-, rfl, -⟩ | ⟨-, -, _, _, _, _, _, -, -, -, rfl, -⟩
    · exact h.conforming
    · exact ⟨nofun, nofun⟩
  | createDebugUtilsMessenger inst createInfo messenger =>
    exact hkept (createDebugUtilsMessenger_returns h hb.wellBehaved.call hb.hands hv _ _)
      ((keepsLoaded_calls env).createDebugUtilsMessenger _ _ _)
      (htables.createDebugUtilsMessenger _ _ _)
  | destroyDebugUtilsMessenger m =>
    have hm : m = xrNullHandle ∨ (live m).isSome := hv.imp_right And.left
    exact hkept (destroyDebugUtilsMessenger_returns h hb.wellBehaved.call hm)
      ((keepsLoaded_calls env).destroyDebugUtilsMessenger _) (htables.destroyDebugUtilsMessenger _)
  | _ => exact absurd rfl hannotates

end Call

/-! ## The invariant -/

/-- The stored names and labels are not looked at. -/
theorem Kept.of_annotates (h : Kept defaults live w) (ha : Annotates w w') : Kept defaults live w' := by
  obtain ⟨c, data, rfl⟩ := ha
  exact ⟨⟨h.logger.nodup, h.logger.mem_ids, h.logger.listed, h.logger.defaults⟩, h.keys, h.null,
    h.owner, h.registered⟩

theorem defaultMessengers_congr (h : w'.activeInstance = w.activeInstance) :
    defaultMessengers w' = defaultMessengers w := by
  unfold defaultMessengers
  rw [h]

/-- A creation that fails leaves no messenger of an instance but the one there was. -/
theorem defaultMessengers_of_failed {info : Option XrInstanceCreateInfo} {inst : Bool} {reply : Reply}
    (hrun : createInstance env info inst w = .ok reply w') (hfailed : xrFailed reply.result)
    {m : XrDebugUtilsMessengerEXT} {owner : XrInstance} (hm : defaultMessengers w' m = some owner) :
    defaultMessengers w m = some owner := by
  have hnot {result : XrResult} (hs : xrSucceeded result) (hf : xrFailed result) : False :=
    absurd hf (not_xrFailed.mpr hs)
  cases createInstance_cases hrun with
  | refused => exact hm
  | caught _ loads => exact defaultMessengers_congr loads.activeInstance ▸ hm
  | carriedOut _ acceptable ending =>
    cases ending with
    | abandoned => simp [defaultMessengers] at hm
    | plain => exact (hnot (le_refl _) hfailed).elim
    | messengerFailed created active _ called =>
      have hkeeps := ((keepsLoaded_calls env).createDebugUtilsMessenger _ _ _).of_ok called
      have hnew := (createActiveInstance_cases acceptable.2.2 created).messenger active
      rw [defaultMessengers_of_null (hkeeps.activeInstance.trans active) hnew] at hm
      cases hm
    | messenger _ _ _ _ succeeded => exact (hnot succeeded hfailed).elim

section Default
variable {reply : Reply}
  (h : ∀ m owner, defaultMessengers w m = some owner → live m = some owner)
include h

theorem default_createInstance {info : Option XrInstanceCreateInfo} {inst : Bool}
    (hrun : perform env (.createInstance info inst) w = .ok reply w') :
    ∀ m owner, defaultMessengers w' m = some owner →
      liveAfter live ⟨env, .createInstance info inst, reply⟩ w' m = some owner := by
  unfold liveAfter
  by_cases hfailed : xrFailed reply.result
  · rw [if_pos hfailed]
    exact fun m owner hm => h m owner (defaultMessengers_of_failed hrun hfailed hm)
  · rw [if_neg hfailed]
    exact fun _ _ hm => hm

theorem default_destroyInstance {inst : XrInstance}
    (hrun : perform env (.destroyInstance inst) w = .ok reply w') :
    ∀ m owner, defaultMessengers w' m = some owner →
      liveAfter live ⟨env, .destroyInstance inst, reply⟩ w' m = some owner := by
  unfold liveAfter
  obtain ⟨result, hcall, rfl⟩ := replyOf_eq_ok.mp hrun
  rcases destroyInstance_cases hcall with ⟨hf, rfl, -⟩ | ⟨rfl, -, _, _, _, _, _, -, -, -, rfl, -⟩
  · dsimp only [id]
    rw [if_pos hf]
    exact h
  · exact fun m owner hm => by simp [unloaded, defaultMessengers] at hm

theorem default_createDebugUtilsMessenger {inst : XrInstance}
    {createInfo : XrDebugUtilsMessengerCreateInfoEXT} {messenger : Bool}
    (hrun : perform env (.createDebugUtilsMessenger inst createInfo messenger) w = .ok reply w')
    (hkept : Kept defaults
      (liveAfter live ⟨env, .createDebugUtilsMessenger inst createInfo messenger, reply⟩ w') w') :
    ∀ m owner, defaultMessengers w' m = some owner →
      liveAfter live ⟨env, .createDebugUtilsMessenger inst createInfo messenger, reply⟩ w' m =
        some owner := by
  have hkeeps := ((keepsLoaded_calls env).createDebugUtilsMessenger _ _ _).of_ok hrun
  intro m owner hm
  have hbefore := h m owner (defaultMessengers_congr hkeeps.activeInstance ▸ hm)
  unfold liveAfter at hkept ⊢
  dsimp only at hkept ⊢
  split_ifs at hkept ⊢ with hfailed
  · exact hbefore
  cases hhandle : reply.handle with
  | none => exact hbefore
  | some created =>
    rw [hhandle] at hkept
    dsimp only at hkept ⊢
    by_cases hsame : m = created
    · -- a handle that came again would still be one of the same instance
      subst hsame
      obtain ⟨li, hli, rfl⟩ := hkept.owner m inst (Function.update_self ..)
      rw [defaultMessengers_of_active hli] at hm
      split_ifs at hm
      rw [Function.update_self]
      exact hm
    · rw [Function.update_of_ne hsame]
      exact hbefore

theorem default_destroyDebugUtilsMessenger {m : XrDebugUtilsMessengerEXT}
    (hrun : perform env (.destroyDebugUtilsMessenger m) w = .ok reply w')
    (hnull : live xrNullHandle = none) (hm : m = xrNullHandle ∨ defaultMessengers w m = none) :
    ∀ x owner, defaultMessengers w' x = some owner →
      liveAfter live ⟨env, .destroyDebugUtilsMessenger m, reply⟩ w' x = some owner := by
  have hkeeps := ((keepsLoaded_calls env).destroyDebugUtilsMessenger _).of_ok hrun
  intro x owner hx
  rw [defaultMessengers_congr hkeeps.activeInstance] at hx
  have hbefore := h x owner hx
  unfold liveAfter
  dsimp only
  split_ifs
  · exact hbefore
  · have hne : x ≠ m := by
      rintro rfl
      rcases hm with rfl | hnone
      · cases hnull.symm.trans hbefore
      · cases hnone.symm.trans hx
    rw [Function.update_of_ne hne]
    exact hbefore

end Default

section Step
variable {s s' : Tracked} {e : Event} (h : Sound p defaults s.live s.world)
  (hb : Behaves p s.live s.world e.env) (hv : ValidUsage s.live s.world e.call)
  (hs : TrackedStep s e s')
include h hb hv hs

theorem conforming_step : Conforming p s'.world := by
  obtain ⟨reply, w', hrun, hconforming⟩ := perform_returns h hb hv
  cases hs.1.symm.trans hrun
  exact hconforming

/-- Nothing has become of the messengers. -/
theorem sound_of_same_live (hlive : liveAfter s.live e s'.world = s.live)
    (hkept : Kept defaults s.live s'.world)
    (hactive : s'.world.activeInstance = s.world.activeInstance) :
    Sound p defaults s'.live s'.world := by
  have hsame : s'.live = s.live := hs.2.trans hlive
  rw [hsame]
  refine ⟨hkept, conforming_step h hb hv hs, ?_⟩
  rw [defaultMessengers_congr hactive]
  exact h.default

/-- The four calls on instances and messengers. -/
theorem sound_of_kept (hkept : Kept defaults s'.live s'.world)
    (hdefault : ∀ m inst, defaultMessengers s'.world m = some inst → s'.live m = some inst) :
    Sound p defaults s'.live s'.world := ⟨hkept, conforming_step h hb hv hs, hdefault⟩

theorem sound_step : Sound p defaults s'.live s'.world := by
  obtain ⟨env, call, reply⟩ := e
  have hrun := hs.1
  have hlive := hs.2
  by_cases hannotates : call.annotates = true
  · have ht := triple_perform_annotating (E := fun _ _ => False) h hb hv hannotates
    have ha : Annotates s.world s'.world := ht.of_ok (refl_of Annotates s.world) hrun
    refine sound_of_same_live h hb hv hs ?_ (h.kept.of_annotates ha) ha.activeInstance
    cases call <;> first | exact ite_self _ | cases hannotates
  cases call with
  | initializeLoader info =>
    obtain ⟨result, hcall, -⟩ := replyOf_eq_ok.mp hrun
    rcases initializeLoader_cases hcall with ⟨-, -, heq⟩ | ⟨hnone, c, l, o, d, heq, -⟩
    · refine sound_of_same_live h hb hv hs (ite_self _) ?_ ?_
      · exact heq ▸ h.kept
      · rw [heq]
    · refine sound_of_same_live h hb hv hs (ite_self _) ?_ ?_
      · have hempty := h.kept.live_of_none hnone
        have hlogger := h.kept.logger
        rw [hempty] at hlogger ⊢
        rw [heq]
        exact kept_of_none hlogger rfl hnone
      · rw [heq]
  | enumerateApiLayerProperties capacity count types =>
    obtain ⟨answer, hcall, -⟩ := replyOf_eq_ok.mp hrun
    have hl := (enumerateApiLayerProperties_loads env _ _ _).of_ok hcall
    exact sound_of_same_live h hb hv hs (ite_self _) (h.kept.of_loads hl) hl.activeInstance
  | enumerateInstanceExtensionProperties layerName capacity count types =>
    obtain ⟨answer, hcall, -⟩ := replyOf_eq_ok.mp hrun
    have hl := (enumerateInstanceExtensionProperties_loads env _ _ _ _).of_ok hcall
    exact sound_of_same_live h hb hv hs (ite_self _) (h.kept.of_loads hl) hl.activeInstance
  | createInstance info inst =>
    refine sound_of_kept h hb hv hs (kept_step hb.wellBehaved trivial h.kept hs) ?_
    rw [hlive]
    exact default_createInstance h.default hrun
  | destroyInstance inst =>
    refine sound_of_kept h hb hv hs (kept_step hb.wellBehaved hv h.kept hs) ?_
    rw [hlive]
    exact default_destroyInstance h.default hrun
  | createDebugUtilsMessenger inst createInfo messenger =>
    have hkept := kept_step hb.wellBehaved hv h.kept hs
    refine sound_of_kept h hb hv hs hkept ?_
    rw [hlive] at hkept ⊢
    exact default_createDebugUtilsMessenger h.default hrun hkept
  | destroyDebugUtilsMessenger m =>
    refine sound_of_kept h hb hv hs (kept_step hb.wellBehaved trivial h.kept hs) ?_
    rw [hlive]
    exact default_destroyDebugUtilsMessenger h.default hrun h.kept.null (hv.imp_right And.right)
  | _ => exact absurd rfl hannotates

end Step

/-! ## Whole runs -/

/-- A runtime that creates the instance 7 and, next, the messenger `m`, below a layer. -/
def layerAndMessenger (m : XrDebugUtilsMessengerEXT) : Environment :=
  { runtimeWithMessenger m with
    findLayerManifests := runtimeAndLayer.findLayerManifests
    openLayer := runtimeAndLayer.openLayer }

theorem conforms_layerAndMessenger (m : XrDebugUtilsMessengerEXT) :
    Conforms ⟨{1}, {1}, {7}⟩ (layerAndMessenger m) where
  layerManifests _ _ := nofun
  runtimeManifests _ := nofun
  runtime t path library hopen symbol result request hnegotiate _ gipa hgipa := by
    cases hopen
    cases hnegotiate
    cases hgipa
    rfl
  layer t path library hopen symbol result request hnegotiate _ := by
    cases hopen
    cases hnegotiate
    exact ⟨⟨1, rfl, rfl⟩, 2, rfl⟩
  extensions t gipa _ := ⟨⟨_, rfl, nofun⟩, le_refl _⟩
  creates t gipa _ := ⟨3, rfl⟩
  created t f info _ := ⟨7, rfl, rfl⟩
  runtimeFunctions t gipa _ inst _ command := ⟨.inr ⟨3, rfl⟩, fun _ => ⟨3, rfl⟩⟩
  layerFunctions t gipa _ inst _ command := by
    split_ifs
    · exact .inr ⟨3, rfl⟩
    · exact ⟨.inr ⟨3, rfl⟩, fun _ => ⟨3, rfl⟩⟩

theorem behaves_layerAndMessenger {m : XrDebugUtilsMessengerEXT} (hnull : m ≠ xrNullHandle)
    (hfresh : live m = none) (hinst : ∀ li ∈ w.activeInstance, li.runtimeInstance = 7) :
    Behaves ⟨{1}, {1}, {7}⟩ live w (layerAndMessenger m) where
  conforms := conforms_layerAndMessenger m
  wellBehaved := by
    have hruntime := wellBehaved_runtimeWithMessenger hnull hfresh
    exact ⟨hruntime.create, hruntime.call, hruntime.fresh, hruntime.freshChar, hruntime.destroys⟩
  hands _ _ _ _ _ := rfl
  remarks := ⟨7, hinst, fun _ _ _ => trivial⟩

end OpenXRSdk.LoaderCore
