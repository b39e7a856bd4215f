import OpenXRSdk.LibraryBalance
import OpenXRSdk.TerminatorEffects

/-!
# The life cycle of the instance

As long as layers pass the creation of an instance on unchanged, the active instance is one
that the loaded runtime knows.
-/
namespace OpenXRSdk.LoaderCore

open StateProgram World TransitionSystem

/-- Layers hand the creation of an instance down unchanged, and neither create nor destroy one
on any other occasion. Nothing is asked of them when their instance is destroyed. -/
structure ForwardsInstances (env : Environment) : Prop where
  create : ∀ t f info nextInfo,
    env.createApiLayerInstance t f info nextInfo = .forward (.createInstance info)
  call : ∀ t f call, call.changesTables = false →
    (env.callLayer t f call).Calls (·.changesTables = false)
  callDown : ∀ t f call, (env.callDown t f call).Calls (·.changesTables = false)

def Registered (w : World) : Prop :=
  ∀ inst ∈ w.activeInstance, ∃ rt ∈ w.runtime, inst.runtimeInstance ∈ rt.dispatchTableMap

/-! ## Calls that leave the dispatch tables alone -/

theorem Registered.of_none {w : World} (h : w.activeInstance = none) : Registered w := by
  intro inst hinst
  rw [h] at hinst
  cases hinst

theorem Registered.of_loads {w w' : World} (h : Registered w) (hl : Loads w w') : Registered w' := by
  intro inst hinst
  rw [hl.activeInstance] at hinst
  obtain ⟨rt, hrt, hmem⟩ := h inst hinst
  exact ⟨rt, hl.of_runtime hrt, hmem⟩

/-- A runtime that an instance needs is not loaded a second time. -/
theorem Registered.runtimeLibraries_of_loads {w w' : World} (h : Registered w) (hl : Loads w w')
    (hactive : w.activeInstance.isSome) : w'.runtimeLibraries = w.runtimeLibraries := by
  obtain ⟨inst, hinst⟩ := Option.isSome_iff_exists.mp hactive
  obtain ⟨rt, hrt, -⟩ := h inst hinst
  unfold World.runtimeLibraries
  rw [hl.of_runtime hrt, Option.mem_def.mp hrt]

theorem Registered.of_keeps {w w' : World} (h : Registered w) (hk : KeepsLoaded w w')
    (ht : KeepsTables w w') : Registered w' := by
  intro inst hinst
  rw [hk.activeInstance] at hinst
  obtain ⟨rt, hrt, hmem⟩ := h inst hinst
  have hmap : w'.runtime.map (·.dispatchTableMap) = some rt.dispatchTableMap := by
    have := ht
    unfold KeepsTables SameOn World.dispatchTables at this
    rw [this, Option.mem_def.mp hrt]
    rfl
  obtain ⟨rt', hrt', heq⟩ := Option.map_eq_some_iff.mp hmap
  exact ⟨rt', hrt', heq ▸ hmem⟩

theorem keepsTables_calls {env : Environment} (h : ForwardsInstances env) :
    CallsWithin KeepsTables env where
  tick := keepsTables_frame.tick
  call f call hc := callFunction_within keepsTables_frame.tick (terminate_keepsTables env) hc
    (fun t f => h.call t f call hc) f
  callDown f call := callDownFunction_within keepsTables_frame.tick (terminate_keepsTables env)
    (fun t f => h.callDown t f call) f

theorem keepsTables_data : AllowsData KeepsTables := fun _ _ => rfl

/-! ## Creation through layers that forward -/

section Forwarding
variable {env : Environment} (hcreate : ∀ t f info nextInfo,
  env.createApiLayerInstance t f info nextInfo = .forward (.createInstance info))
include hcreate

theorem callChain_forwards {layers : List ApiLayerInterface} {info : XrInstanceCreateInfo}
    {w w' : World} {reply : Reply} (h : LoaderInstance.callChain env layers info w = .ok reply w') :
    ∃ w₁, Later w w₁ ∧ termCreateInstance env info w₁ = .ok reply w' := by
  unfold LoaderInstance.callChain at h
  split_ifs at h
  · exact ⟨w, refl_of Later w, h⟩
  generalize (LoaderInstance.linkLayers layers).2.2 = cali at h
  cases cali with
  | term command =>
    cases command with
    | createApiLayerInstance => exact ⟨w, refl_of Later w, h⟩
    | _ => cases h
  | foreign f =>
    obtain ⟨tree, w₁, ha, hrun⟩ := bind_eq_ok.mp h
    obtain ⟨rfl, rfl⟩ := ask_eq_ok.mp ha
    rw [hcreate, CallTree.run_forward] at hrun
    exact ⟨w.tick, ⟨_, rfl⟩, hrun⟩
  | _ => cases h

/-- The chain does what the terminator does, or fails before it is entered. -/
theorem createChained_forwards {layers : List ApiLayerInterface} {info : XrInstanceCreateInfo}
    {names : List StdString} {w w' : World} {reply : Reply}
    (h : LoaderInstance.createChained env layers info names w = .ok reply w') :
    xrFailed reply.result ∧ Later w w' ∨
      ∃ info' w₁, Later w w₁ ∧ termCreateInstance env info' w₁ = .ok reply w' := by
  unfold LoaderInstance.createChained at h
  obtain ⟨result, w₁, hcheck, h⟩ := bind_eq_ok.mp h
  have hcheck : Later w w₁ := (LoaderInstance.checkExtensions_within layers names).of_ok hcheck
  by_cases hf : xrFailed result
  · rw [if_pos hf] at h
    cases h
    exact Or.inl ⟨hf, hcheck⟩
  rw [if_neg hf] at h
  obtain ⟨info', w₂, hinfo, h⟩ := bind_eq_ok.mp h
  have hinfo : Later w₁ w₂ := (LoaderInstance.modifiedCreateInfo_within info names).of_ok hinfo
  obtain ⟨w₃, hlater, h⟩ := callChain_forwards hcreate h
  exact Or.inr ⟨info', w₃, trans_of Later (trans_of Later hcheck hinfo) hlater, h⟩

/-- The instance of a successful creation has a dispatch table. -/
theorem registered_of_creation {info : XrInstanceCreateInfo} {w w' : World}
    {layers : List ApiLayerInterface} (h : Creation env info w xrSuccess layers w') :
    Registered w' := by
  generalize hresult : xrSuccess = result at h
  cases h with
  | notLoaded failed =>
    subst hresult
    exact absurd failed (by decide)
  | chainFailed _ _ _ failed =>
    rw [← hresult] at failed
    exact absurd failed (by decide)
  | @active layers names reply table w₁ w₂ w₃ loads runtime chained succeeded populated =>
    obtain ⟨c, rfl⟩ := (LoaderInstance.populateDispatchTable_later env _ _).of_ok populated
    rintro inst ⟨⟩
    rcases createChained_forwards hcreate chained with ⟨hf, -⟩ | ⟨info', w₀, -, hterm⟩
    · exact absurd hf (not_xrFailed.mpr succeeded)
    rcases termCreateInstance_cases hterm with ⟨hf, -⟩ | ⟨-, rt, t, d, -, rfl⟩
    · exact absurd hf (not_xrFailed.mpr succeeded)
    · exact ⟨_, rfl, AList.mem_insert _ |>.mpr (Or.inl rfl)⟩

end Forwarding

theorem registered_of_ending {env : Environment} (hf : ForwardsInstances env)
    {info : XrInstanceCreateInfo} {w w' : World} {reply : Reply} (hnone : w.activeInstance = none)
    (h : Ending env info w reply w') : Registered w' := by
  have hsuccess {w₁ : World} (hc : createActiveInstance env info w = .ok (xrSuccess, []) w₁) :
      Registered w₁ := registered_of_creation hf.create (createActiveInstance_cases hnone hc)
  have hmessenger {inst : XrInstance} {createInfo : XrDebugUtilsMessengerCreateInfoEXT} {r : Reply}
      {w₁ w₂ : World} (hr : Registered w₁)
      (hcall : createDebugUtilsMessenger env inst createInfo true w₁ = .ok r w₂) : Registered w₂ :=
    hr.of_keeps (((keepsLoaded_calls env).createDebugUtilsMessenger _ _ _).of_ok hcall)
      (((keepsTables_calls hf).createDebugUtilsMessenger _ _ _).of_ok hcall)
  cases h with
  | abandoned => exact Registered.of_none rfl
  | plain created => exact hsuccess created
  | messengerFailed created _ _ called => exact hmessenger (hsuccess created) called
  | messenger created active _ called =>
    have hk := ((keepsLoaded_calls env).createDebugUtilsMessenger _ _ _).of_ok called
    have hknown := hmessenger (hsuccess created) called _ (hk.activeInstance.trans active)
    rintro _ ⟨⟩
    exact hknown

/-- What a call leaves: a registered instance, and the same runtime as long as the instance
stays. -/
theorem registered_step {w w' : World} {e : Event} (hf : ForwardsInstances e.env)
    (h : Registered w) (hs : Step w e w') :
    Registered w' ∧ (w.activeInstance.isSome → w'.activeInstance.isSome →
      w'.runtimeLibraries = w.runtimeLibraries) := by
  have hsame : Registered w ∧ (w.activeInstance.isSome → w.activeInstance.isSome →
      w.runtimeLibraries = w.runtimeLibraries) := ⟨h, fun _ _ => rfl⟩
  have hloads {w' : World} (hl : Loads w w') : Registered w' ∧ (w.activeInstance.isSome →
      w'.activeInstance.isSome → w'.runtimeLibraries = w.runtimeLibraries) :=
    ⟨h.of_loads hl, fun ha _ => h.runtimeLibraries_of_loads hl ha⟩
  obtain ⟨env, call, reply⟩ := e
  by_cases hc : call.isLifecycle = false
  · have hk := ((keepsLoaded_calls env).perform hc fun _ => keepsLoaded_data).of_ok hs
    have ht := ((keepsTables_calls hf).perform hc fun _ => keepsTables_data).of_ok hs
    exact ⟨h.of_keeps hk ht, fun _ _ => hk.runtimeLibraries⟩
  cases call with
  | initializeLoader info =>
    obtain ⟨result, hrun, -⟩ := replyOf_eq_ok.mp hs
    rcases initializeLoader_cases hrun with ⟨-, -, rfl⟩ | ⟨hnone, c, l, o, d, rfl, -⟩
    · exact hsame
    · exact ⟨Registered.of_none hnone, fun ha => by rw [hnone] at ha; cases ha⟩
  | enumerateApiLayerProperties =>
    obtain ⟨a, hrun, -⟩ := replyOf_eq_ok.mp hs
    exact hloads ((enumerateApiLayerProperties_loads env _ _ _).of_ok hrun)
  | enumerateInstanceExtensionProperties =>
    obtain ⟨a, hrun, -⟩ := replyOf_eq_ok.mp hs
    exact hloads ((enumerateInstanceExtensionProperties_loads env _ _ _ _).of_ok hrun)
  | createInstance info inst =>
    cases createInstance_cases hs with
    | refused => exact hsame
    | caught _ loads => exact hloads loads
    | carriedOut _ acceptable ending =>
      refine ⟨registered_of_ending hf acceptable.2.2 ending, fun ha => ?_⟩
      rw [acceptable.2.2] at ha
      cases ha
  | destroyInstance inst =>
    obtain ⟨result, hrun, -⟩ := replyOf_eq_ok.mp hs
    rcases destroyInstance_cases hrun with ⟨-, rfl, -⟩ | ⟨-, -, _, _, _, _, _, -, -, -, rfl, -⟩
    · exact hsame
    · exact ⟨Registered.of_none rfl, fun _ ha => by cases ha⟩
  | _ => exact absurd rfl hc

/-! ## Whole runs -/

/-- The library of the runtime that was there when the last instance was created. -/
def creationLibraries (trace : List (Transition World Event)) : List ℕ :=
  match trace.reverse.find? fun x => x.before.activeInstance.isNone && x.after.activeInstance.isSome with
  | none => []
  | some x => x.after.runtimeLibraries

theorem creationLibraries_snoc (trace : List (Transition World Event)) (x : Transition World Event) :
    creationLibraries (trace ++ [x]) =
      if x.before.activeInstance.isNone && x.after.activeInstance.isSome then
        x.after.runtimeLibraries
      else creationLibraries trace := by
  unfold creationLibraries
  rw [List.reverse_append, List.reverse_singleton, List.singleton_append, List.find?_cons]
  cases x.before.activeInstance.isNone && x.after.activeInstance.isSome <;> rfl

theorem registered_run {logger : LoaderLogger} {trace : List (Transition World Event)} {w : World}
    (h : Run Step (World.initial logger) trace w)
    (hforward : ∀ x ∈ trace, ForwardsInstances x.label.env) :
    Registered w ∧ (w.activeInstance.isSome → w.runtimeLibraries = creationLibraries trace) := by
  induction h with
  | nil => exact ⟨Registered.of_none rfl, fun h => by cases h⟩
  | @snoc trace s t e prior last ih =>
    obtain ⟨hr, hl⟩ := ih fun x hx => hforward x (List.mem_append_left _ hx)
    obtain ⟨hr', hl'⟩ := registered_step (hforward ⟨s, e, t⟩ (by simp)) hr last
    refine ⟨hr', fun ht => ?_⟩
    rw [creationLibraries_snoc]
    cases hs : s.activeInstance with
    | none => simp [ht]
    | some inst =>
      have hsome : s.activeInstance.isSome := by simp [hs]
      simp only [Option.isNone_some, Bool.false_and, Bool.false_eq_true, if_false]
      rw [hl' hsome ht, hl hsome]

/-- While an instance is active, the runtime is the one it was created with and has a dispatch
table for it, and no second instance can be created. -/
theorem lifecycle {logger : LoaderLogger} {trace : List (Transition World Event)} {w : World}
    (h : Run Step (World.initial logger) trace w)
    (hforward : ∀ x ∈ trace, ForwardsInstances x.label.env) {inst : LoaderInstance}
    (hactive : w.activeInstance = some inst) :
    (∃ rt table, w.runtime = some rt ∧ creationLibraries trace = [rt.runtimeLibrary] ∧
      RuntimeInterface.getDispatchTable inst.runtimeInstance w = .ok (some table) w) ∧
    ∀ env info pointer, ∃ result, xrFailed result ∧
      createInstance env info pointer w = .ok ⟨result, none⟩ w ∧
      ∀ i, info = some i → pointer = true →
        isApiVersionUnsupported i.applicationInfo.apiVersion = false → result = xrErrorLimitReached := by
  obtain ⟨hr, hl⟩ := registered_run h hforward
  constructor
  · obtain ⟨rt, hrt, hmem⟩ := hr inst hactive
    obtain ⟨table, htable⟩ := Option.isSome_iff_exists.mp (AList.lookup_isSome.mpr hmem)
    refine ⟨rt, table, hrt, ?_, getDispatchTable_eq_ok.mpr ⟨rt, hrt, htable.symm, rfl⟩⟩
    rw [← hl (by simp [hactive]), World.runtimeLibraries, Option.mem_def.mp hrt]
    rfl
  · intro env info pointer
    refine createInstance_of_not_acceptable fun i _ hacc => ?_
    cases hactive.symm.trans hacc.2.2

theorem runtimeAndLayer_forwards : ForwardsInstances runtimeAndLayer where
  create _ _ _ _ := rfl
  call _ _ _ h := CallTree.calls_forward h
  callDown _ _ _ := trivial

theorem lifecycle_created : ∃ trace w inst, Run Step ApiLayerInterface.quietWorld trace w ∧
    w.activeInstance = some inst ∧
    (∃ rt table, w.runtime = some rt ∧ creationLibraries trace = [rt.runtimeLibrary] ∧
      RuntimeInterface.getDispatchTable inst.runtimeInstance w = .ok (some table) w) ∧
    ∀ env info pointer, ∃ result, xrFailed result ∧
      createInstance env info pointer w = .ok ⟨result, none⟩ w ∧
      ∀ i, info = some i → pointer = true →
        isApiVersionUnsupported i.applicationInfo.apiVersion = false → result = xrErrorLimitReached := by
  have hstep : Step ApiLayerInterface.quietWorld
      ⟨runtimeAndLayer, .createInstance (some (infoWithNext [])) true, ⟨xrSuccess, some 7⟩⟩ _ := rfl
  have hrun := Run.snoc .nil hstep
  refine ⟨_, _, _, hrun, rfl, lifecycle hrun (fun x hx => ?_) rfl⟩
  rw [List.nil_append, List.mem_singleton] at hx
  subst hx
  exact runtimeAndLayer_forwards

end OpenXRSdk.LoaderCore
