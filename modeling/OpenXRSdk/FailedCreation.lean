import OpenXRSdk.ChainAnswers
import OpenXRSdk.CreateInfoValidation

/-!
# Failures that leave an instance

A call of xrCreateInstance that fails may leave an instance active. Whether it does is told from the
`next` chain and from the answers of the layers and of the runtime.
-/
namespace OpenXRSdk

open StateProgram

/-! ## The new instance -/

/-- The interfaces of these layers, whatever the numbers of their libraries. -/
def ApiLayerInterface.interfacesOf (loaded : List (ApiLayerManifestFile × XrNegotiateApiLayerRequest)) :
    List ApiLayerInterface :=
  loaded.map fun p => makeInterface p.1 0 p.2

namespace ChainEnd

variable (env : Environment)

/-- What the topmost function replies to the creation of an instance. -/
inductive RepliesToCreation (s : ChainEnd) (info : XrInstanceCreateInfo) (nextInfo : List XrApiLayerNextInfo) :
    (cali : Pfn) → Reply → ChainEnd → Prop
  | terminator {reply : Reply} {s' : ChainEnd} (answers : Answers env s (.createInstance info) reply s') :
      RepliesToCreation s info nextInfo (.term .createApiLayerInstance) reply s'
  | layer {f : ℕ} {reply : Reply} {s' : ChainEnd}
      (ends : (env.createApiLayerInstance s.clock f info nextInfo).Ends (fun c v => Answers env v c)
        s.tick reply s') : RepliesToCreation s info nextInfo (.foreign f) reply s'

/-- The table of the new instance, from what the topmost `xrGetInstanceProcAddr` answers. -/
inductive Populates (s : ChainEnd) (inst : XrInstance) : (gipa : Pfn) → DispatchTable → Prop
  | terminator : Populates s inst (.term .getInstanceProcAddr) fun command =>
      if hasTerminator command then .term command
      else RuntimeInterface.functionsOf env s.getInstanceProcAddr inst s.clock command
  | layer {f : ℕ} : Populates s inst (.foreign f) (RuntimeInterface.functionsOf env f inst s.clock)

end ChainEnd

namespace LoaderInstance

open ChainEnd

/-- With this runtime and these layers, and question `u` being the next one, all extensions are
supported, the chain creates the instance, and this is its table. -/
def Creates (env : Environment) (info : XrInstanceCreateInfo) (rt : RuntimeInterface)
    (layers : List ApiLayerInterface) (u : ℕ) (inst : XrInstance) (table : DispatchTable) (s' : ChainEnd) :
    Prop :=
  ∃ names reply s, arrayNames info.enabledExtensionCount info.enabledExtensionNames = some names ∧
    names.all (isSupported rt layers) = true ∧
    RepliesToCreation env ⟨u, rt.getInstanceProcAddr, rt.dispatchTableMap, rt.messengerToInstanceMap⟩
      (handedDown rt info names) (linkLayers layers).1 (linkLayers layers).2.2 reply s ∧
    xrSucceeded reply.result ∧ inst = reply.handle.getD xrNullHandle ∧
    Populates env s inst (topmostGipaOf layers) table ∧ s' = s.tick

variable (env : Environment)

theorem callCreateApiLayerInstance_realizes (cali : Pfn) (info : XrInstanceCreateInfo)
    (nextInfo : List XrApiLayerNextInfo) :
    Realizes World.Shows (fun s => RepliesToCreation env s info nextInfo cali)
      (callCreateApiLayerInstance env cali info nextInfo) := by
  unfold callCreateApiLayerInstance
  split
  · refine (terminate_realizes env (.createInstance info)).congr fun s reply s' => ⟨.terminator, fun h => ?_⟩
    cases h with
    | terminator answers => exact answers
  · rename_i f
    refine ((ask_realizes fun t => env.createApiLayerInstance t f info nextInfo).bind fun tree =>
      tree.run_realizes (terminate_realizes env)).congr fun s reply s' => ⟨?_, fun h => ?_⟩
    · rintro ⟨_, _, ⟨rfl, rfl⟩, hends⟩
      exact .layer hends
    · cases h with
      | layer ends => exact ⟨_, _, ⟨rfl, rfl⟩, ends⟩
  · rename_i hterm hforeign
    refine undefinedBehaviour_realizes.congr fun s reply s' => ⟨False.elim, fun h => ?_⟩
    cases h with
    | terminator => exact hterm rfl
    | layer => exact hforeign _ rfl

/-- Without layers the topmost function is the terminator. -/
theorem callChain_eq (layers : List ApiLayerInterface) (info : XrInstanceCreateInfo) :
    callChain env layers info =
      callCreateApiLayerInstance env (linkLayers layers).2.2 info (linkLayers layers).1 := by
  cases layers <;> rfl

theorem populateDispatchTable_realizes (gipa : Pfn) (inst : XrInstance) : Realizes World.Shows
    (fun s table s' => Populates env s inst gipa table ∧ s' = s.tick)
    (populateDispatchTable env gipa inst) := by
  unfold populateDispatchTable
  split
  · refine (Realizes.of_run (fun s command => if hasTerminator command then Pfn.term command
      else RuntimeInterface.functionsOf env s.getInstanceProcAddr inst s.clock command) (·.tick) ?_).congr
      fun s table s' => and_congr_left fun _ => ⟨?_, fun h => ?_⟩
    · rintro w _ ⟨rt, hrt, rfl⟩
      rw [bind_of_ok (RuntimeInterface.getRuntime_of_some hrt)]
      exact ⟨w.tick, bind_of_ok ask_run, rt, hrt, rfl⟩
    · rintro rfl
      exact .terminator
    · cases h
      rfl
  · rename_i f
    refine (ask_realizes _).congr fun s table s' => and_congr_left fun _ => ⟨?_, fun h => ?_⟩
    · rintro rfl
      exact .layer
    · cases h
      rfl
  · rename_i hterm hforeign
    refine undefinedBehaviour_realizes.congr fun s table s' => ⟨False.elim, ?_⟩
    rintro ⟨⟨⟩ | ⟨⟩, -⟩
    · exact hterm rfl
    · exact hforeign _ rfl

variable {env : Environment} {info : XrInstanceCreateInfo} {layers : List ApiLayerInterface}
  {rt : RuntimeInterface} {w w' : World} {inst : XrInstance} {table : DispatchTable} {s : ChainEnd}

theorem createInstance_of_creates (hrt : w.runtime = some rt)
    (h : Creates env info rt layers w.clock inst table s) : ∃ result names w',
    createInstance env layers info w = .ok (result, some (new inst names layers table)) w' ∧
      xrSucceeded result ∧ w'.Shows s := by
  obtain ⟨names, reply, s₁, harray, hsupported, hreplies, hs, rfl, hpopulates, rfl⟩ := h
  obtain ⟨w₁, hchain, hshows₁⟩ := (callCreateApiLayerInstance_realizes env (linkLayers layers).2.2
    (handedDown rt info names) (linkLayers layers).1 w _ ⟨rt, hrt, rfl⟩).2 reply s₁ hreplies
  obtain ⟨w₂, htable, hshows₂⟩ := (populateDispatchTable_realizes env (topmostGipaOf layers)
    (reply.handle.getD xrNullHandle) w₁ s₁ hshows₁).2 table s₁.tick ⟨hpopulates, rfl⟩
  have hchained : createChained env layers info names w = .ok reply w₁ := by
    rw [createChained_run env layers info names hrt, if_pos hsupported, callChain_eq, hchain]
  have hconstruct : construct env (reply.handle.getD xrNullHandle) names layers w₁ =
      .ok (new (reply.handle.getD xrNullHandle) names layers table) w₂ := bind_of_ok htable
  refine ⟨reply.result, names, w₂, ?_, hs, hshows₂⟩
  rw [createInstance_of_names env layers harray]
  unfold createFromNames
  rw [bind_of_ok hchained, if_neg (not_xrFailed.mpr hs), bind_of_ok hconstruct]
  rfl

theorem creates_of_createInstance (hrt : w.runtime = some rt) {result : XrResult} {li : LoaderInstance}
    (h : createInstance env layers info w = .ok (result, some li) w') :
    ∃ s, w'.Shows s ∧ Creates env info rt layers w.clock li.runtimeInstance li.dispatchTable s := by
  obtain ⟨names, reply, w₁, harray, hchained, rfl, ⟨-, hnone, -⟩ | ⟨hs, table, htable, hli⟩⟩ :=
    createInstance_cases h
  · cases hnone
  cases hli
  rw [createChained_run env layers info names hrt] at hchained
  split_ifs at hchained with hsupported
  · rw [callChain_eq] at hchained
    obtain ⟨s₁, hshows₁, hreplies⟩ := (callCreateApiLayerInstance_realizes env (linkLayers layers).2.2
      (handedDown rt info names) (linkLayers layers).1 w _ ⟨rt, hrt, rfl⟩).1 reply w₁ hchained
    obtain ⟨_, hshows₂, hpopulates, rfl⟩ := (populateDispatchTable_realizes env (topmostGipaOf layers)
      (reply.handle.getD xrNullHandle) w₁ s₁ hshows₁).1 table w' htable
    exact ⟨s₁.tick, hshows₂, names, reply, s₁, harray, hsupported, hreplies, hs, rfl, hpopulates, rfl⟩
  · cases hchained
    exact absurd hs (by decide)

/-- The numbers of the libraries make no difference. -/
theorem creates_of_interfacesOf {loaded : List (ApiLayerManifestFile × XrNegotiateApiLayerRequest)}
    (h : ApiLayerInterface.InterfacesOf layers loaded) (u : ℕ) :
    Creates env info rt layers u inst table s ↔
      Creates env info rt (ApiLayerInterface.interfacesOf loaded) u inst table s := by
  have hlink : linkLayers layers = linkLayers (ApiLayerInterface.interfacesOf loaded) := by
    induction h with
    | nil => rfl
    | cons hp _ ih =>
      obtain ⟨library, rfl⟩ := hp
      unfold ApiLayerInterface.interfacesOf at ih ⊢
      rw [List.map_cons, linkLayers, linkLayers, ih]
      rfl
  have hsupports (name : StdString) :
      isSupported rt layers name = isSupported rt (ApiLayerInterface.interfacesOf loaded) name := by
    have hany : layers.any (·.supportsExtension name) =
        (ApiLayerInterface.interfacesOf loaded).any (·.supportsExtension name) := by
      clear hlink
      induction h with
      | nil => rfl
      | cons hp _ ih =>
        obtain ⟨library, rfl⟩ := hp
        unfold ApiLayerInterface.interfacesOf at ih ⊢
        rw [List.map_cons, List.any_cons, List.any_cons, ih]
        rfl
    unfold isSupported
    rw [hany]
  unfold Creates topmostGipaOf
  rw [hlink, funext hsupports]

end LoaderInstance

namespace LoaderCore

open ChainEnd

/-! ## Failing calls -/

/-- A failing call leaves no instance that would be in the way of the next one. -/
def FailureLeavesNone (env : Environment) (info : Option XrInstanceCreateInfo) (inst : Bool)
    (w : World) : Prop :=
  ∀ reply w', createInstance env info inst w = .ok reply w' → xrFailed reply.result →
    ActiveLoaderInstance.isAvailable w' = .ok false w'

/-- The `next` chain asks for a messenger, the answers provide a runtime and layers that create the
instance, and the messenger is refused: the handle of the instance is null, or the function that its
table has for the creation of a messenger replies with a failure. -/
def MessengerFails (env : Environment) (info : Option XrInstanceCreateInfo) (inst : Bool)
    (w : World) : Prop :=
  ∃ i ∈ info, Acceptable i inst w ∧ ∃ createInfo, messengerCreateInfo i.next = some createInfo ∧
    ∃ rt loaded u handle table s, Provides env i w rt loaded u ∧
      LoaderInstance.Creates env i rt (ApiLayerInterface.interfacesOf loaded) u handle table s ∧
      (handle = xrNullHandle ∨ ∃ reply s',
        Replies env s (table .createDebugUtilsMessengerEXT)
          (.createDebugUtilsMessengerEXT handle createInfo true) reply s' ∧ xrFailed reply.result)

section Refusing
variable {env : Environment} {info : XrInstanceCreateInfo} {w w₁ : World} {li : LoaderInstance}
  {rt : RuntimeInterface} {loaded : List (ApiLayerManifestFile × XrNegotiateApiLayerRequest)} {u : ℕ}
  {handle : XrInstance} {table : DispatchTable} {s : ChainEnd}

theorem activeInstance_of_created {layers : List ApiLayerInterface} {result : XrResult}
    (h : LoaderInstance.createInstance env layers info w = .ok (result, some li) w₁) :
    w₁.activeInstance = w.activeInstance := by
  obtain ⟨names, reply, w₂, -, hchained, -, ⟨-, hnone, -⟩ | ⟨-, table, htable, -⟩⟩ :=
    LoaderInstance.createInstance_cases h
  · cases hnone
  · have hk := (LoaderInstance.createChained_keepsLoaded env layers info names).of_ok hchained
    obtain ⟨c, rfl⟩ := (LoaderInstance.populateDispatchTable_later env _ _).of_ok htable
    exact hk.activeInstance

/-- An instance is active after it was created for the layers that were loaded. -/
theorem createActiveInstance_iff (hnone : w.activeInstance = none) :
    createActiveInstance env info w = .ok (xrSuccess, []) w₁ ∧ w₁.activeInstance = some li ↔
      ∃ loaded layers w₂ created w₃, loadRuntimeAndLayers env info w = .ok (loaded, layers) w₂ ∧
        xrSucceeded loaded ∧ LoaderInstance.createInstance env layers info w₂ = .ok (created, some li) w₃ ∧
        w₁ = { w₃ with activeInstance := some li } := by
  have hstill {loaded : XrResult} {layers : List ApiLayerInterface} {w₂ w₃ : World} {created : XrResult}
      {li : LoaderInstance} (hload : loadRuntimeAndLayers env info w = .ok (loaded, layers) w₂)
      (hcreate : LoaderInstance.createInstance env layers info w₂ = .ok (created, some li) w₃) :
      w₃.activeInstance = none :=
    (activeInstance_of_created hcreate).trans
      (((loadRuntimeAndLayers_spec env info w).of_ok rfl hload).1.activeInstance.trans hnone)
  constructor
  · rintro ⟨h, hactive⟩
    obtain ⟨⟨loaded, layers⟩, w₂, hload, h⟩ := bind_eq_ok.mp h
    dsimp only at h
    by_cases hfail : xrFailed loaded
    · rw [if_pos hfail] at h
      cases h
      exact absurd hfail (by decide)
    rw [if_neg hfail] at h
    obtain ⟨⟨created, made⟩, w₃, hcreate, h⟩ := bind_eq_ok.mp h
    cases made with
    | none =>
      cases h
      obtain ⟨names, reply, w₄, -, -, hresult, ⟨hf, -, -⟩ | ⟨-, table, -, hli⟩⟩ :=
        LoaderInstance.createInstance_cases hcreate
      · exact absurd hf (by decide)
      · cases hli
    | some li' =>
      dsimp only at h
      rw [bind_of_ok (set_of_none (hstill hload hcreate) li')] at h
      cases h
      cases hactive
      exact ⟨loaded, layers, w₂, created, w₃, hload, not_xrFailed.mp hfail, hcreate, rfl⟩
  · rintro ⟨loaded, layers, w₂, created, w₃, hload, hs, hcreate, rfl⟩
    refine ⟨?_, rfl⟩
    unfold createActiveInstance
    rw [bind_of_ok hload]
    dsimp only
    rw [if_neg (not_xrFailed.mpr hs), bind_of_ok hcreate]
    dsimp only
    rw [bind_of_ok (set_of_none (hstill hload hcreate) li)]
    rfl

theorem createActiveInstance_of_creates (hnone : w.activeInstance = none)
    (hprovides : Provides env info w rt loaded u)
    (hcreates : LoaderInstance.Creates env info rt (ApiLayerInterface.interfacesOf loaded) u handle table s) :
    ∃ w₁ li, createActiveInstance env info w = .ok (xrSuccess, []) w₁ ∧ w₁.activeInstance = some li ∧
      li.runtimeInstance = handle ∧ li.dispatchTable = table ∧ w₁.Shows s := by
  obtain ⟨result, layers, library, l, hs, hlayers, hload⟩ := loadRuntimeAndLayers_of_provides hprovides
  have hcreates' := (LoaderInstance.creates_of_interfacesOf hlayers u).mpr hcreates
  obtain ⟨created, names, w₃, hcreate, -, hshows⟩ := LoaderInstance.createInstance_of_creates (w := { w with
    clock := u
    libraries := l
    runtime := some { rt with runtimeLibrary := library } }) rfl hcreates'
  obtain ⟨hactivated, hactive⟩ := (createActiveInstance_iff hnone).mpr
    ⟨result, layers, _, created, w₃, hload, hs, hcreate, rfl⟩
  exact ⟨_, _, hactivated, hactive, rfl, rfl, hshows⟩

theorem creates_of_createActiveInstance (hnone : w.activeInstance = none)
    (h : createActiveInstance env info w = .ok (xrSuccess, []) w₁) (hactive : w₁.activeInstance = some li) :
    ∃ rt loaded u s, Provides env info w rt loaded u ∧
      LoaderInstance.Creates env info rt (ApiLayerInterface.interfacesOf loaded) u li.runtimeInstance
        li.dispatchTable s ∧ w₁.Shows s := by
  obtain ⟨result, layers, w₂, created, w₃, hload, hs, hcreate, rfl⟩ :=
    (createActiveInstance_iff hnone).mp ⟨h, hactive⟩
  obtain ⟨rt, loaded, u, hprovides⟩ := exists_provides_iff.mpr ⟨result, layers, w₂, hload, hs⟩
  obtain ⟨result', layers', library, l, -, hlayers, hload'⟩ := loadRuntimeAndLayers_of_provides hprovides
  cases hload.symm.trans hload'
  obtain ⟨s, hshows, hcreates⟩ := LoaderInstance.creates_of_createInstance rfl hcreate
  exact ⟨rt, loaded, u, s, hprovides, (LoaderInstance.creates_of_interfacesOf hlayers u).mp hcreates, hshows⟩

/-- The trampoline refuses a null handle, and hands any other call to the function of the table. -/
theorem createDebugUtilsMessenger_refused_iff (hactive : w.activeInstance = some li) (hshows : w.Shows s)
    (inst : XrInstance) (createInfo : XrDebugUtilsMessengerCreateInfoEXT) :
    (∃ reply w', createDebugUtilsMessenger env inst createInfo true w = .ok reply w' ∧
        xrFailed reply.result) ↔
      inst = xrNullHandle ∨ ∃ reply s', Replies env s (li.dispatchTable .createDebugUtilsMessengerEXT)
        (.createDebugUtilsMessengerEXT inst createInfo true) reply s' ∧ xrFailed reply.result := by
  have hget : ActiveLoaderInstance.active w = .ok (some li) w := by
    rw [← hactive]
    rfl
  obtain ⟨hreplies, hcalls⟩ := callFunction_realizes env (li.dispatchTable .createDebugUtilsMessengerEXT)
    (.createDebugUtilsMessengerEXT inst createInfo true) w s hshows
  unfold createDebugUtilsMessenger
  by_cases hnull : inst = xrNullHandle
  · rw [if_pos hnull]
    exact iff_of_true ⟨_, _, rfl, by decide⟩ (.inl hnull)
  · rw [if_neg hnull, bind_of_ok hget]
    constructor
    · rintro ⟨reply, w', hcall, hfail⟩
      obtain ⟨s', -, hreply⟩ := hreplies reply w' hcall
      exact .inr ⟨reply, s', hreply, hfail⟩
    · intro h
      obtain ⟨reply, s', hreply, hfail⟩ := h.resolve_left hnull
      obtain ⟨w', hcall, -⟩ := hcalls reply s' hreply
      exact ⟨reply, w', hcall, hfail⟩

/-- The messenger that is asked for is refused, in terms of what was created. -/
theorem messengerFails_iff {inst : Bool} :
    MessengerFails env (some info) inst w ↔ Acceptable info inst w ∧
      ∃ createInfo, messengerCreateInfo info.next = some createInfo ∧
        ∃ w₁ li reply w₂, createActiveInstance env info w = .ok (xrSuccess, []) w₁ ∧
          w₁.activeInstance = some li ∧
          createDebugUtilsMessenger env li.runtimeInstance createInfo true w₁ = .ok reply w₂ ∧
          xrFailed reply.result := by
  constructor
  · rintro ⟨_, hi, hacc, createInfo, hm, rt, loaded, u, handle, table, s, hprovides, hcreates, hrefused⟩
    cases hi
    obtain ⟨w₁, li, hactivated, hactive, rfl, rfl, hshows⟩ :=
      createActiveInstance_of_creates hacc.2.2 hprovides hcreates
    obtain ⟨reply, w₂, hcall, hfail⟩ :=
      (createDebugUtilsMessenger_refused_iff hactive hshows li.runtimeInstance createInfo).mpr hrefused
    exact ⟨hacc, createInfo, hm, w₁, li, reply, w₂, hactivated, hactive, hcall, hfail⟩
  · rintro ⟨hacc, createInfo, hm, w₁, li, reply, w₂, hactivated, hactive, hcall, hfail⟩
    obtain ⟨rt, loaded, u, s, hprovides, hcreates, hshows⟩ :=
      creates_of_createActiveInstance hacc.2.2 hactivated hactive
    have hrefused := (createDebugUtilsMessenger_refused_iff hactive hshows li.runtimeInstance createInfo).mp
      ⟨reply, w₂, hcall, hfail⟩
    exact ⟨info, rfl, hacc, createInfo, hm, rt, loaded, u, _, _, s, hprovides, hcreates, hrefused⟩

end Refusing

theorem createInstance_of_messengerFails {env : Environment} {info : Option XrInstanceCreateInfo}
    {inst : Bool} {w : World} (h : MessengerFails env info inst w) :
    ∃ w', createInstance env info inst w = .ok ⟨xrErrorValidationFailure, none⟩ w' ∧
      w'.activeInstance.isSome := by
  have hgiven := h
  obtain ⟨i, rfl, -⟩ := hgiven
  obtain ⟨hacc, createInfo, hm, w₁, loaderInstance, reply, w₂, hc, hactive, hcall, hf⟩ :=
    messengerFails_iff.mp h
  have hk := ((keepsLoaded_calls env).createDebugUtilsMessenger _ _ _).of_ok hcall
  have hdefault : createDefaultMessenger env createInfo loaderInstance.runtimeInstance w₁ =
      .ok ⟨xrErrorValidationFailure, none⟩ w₂ := by
    unfold createDefaultMessenger
    rw [bind_of_ok hcall, if_pos hf]
    rfl
  have hrun : createWithoutActive env i w = .ok ⟨xrErrorValidationFailure, none⟩ w₂ := by
    have hget : ActiveLoaderInstance.active w₁ = .ok (some loaderInstance) w₁ := by
      rw [← hactive]
      rfl
    unfold createWithoutActive
    rw [bind_of_ok hc]
    dsimp only
    rw [if_neg (by decide), bind_of_ok hget]
    simp only [hm]
    exact hdefault
  refine ⟨w₂, ?_, by rw [hk.activeInstance, hactive]; rfl⟩
  rw [createInstance_of_acceptable hacc]
  exact abiTry_eq_ok.mpr (Or.inl hrun)

/-- A failing call leaves no instance, unless its `next` chain asks for a messenger and the
messenger is what fails. -/
theorem createInstance_failureLeavesNone_iff {env : Environment} {info : Option XrInstanceCreateInfo}
    {inst : Bool} {w : World} (hnone : w.activeInstance = none) :
    FailureLeavesNone env info inst w ↔ ¬ MessengerFails env info inst w := by
  constructor
  · intro h hm
    obtain ⟨w', hrun, hsome⟩ := createInstance_of_messengerFails hm
    have := h _ w' hrun (by decide)
    rw [isAvailable_run, hsome] at this
    cases this
  · intro hm reply w' hrun hfail
    have hout : w'.activeInstance = none := by
      cases createInstance_cases hrun with
      | refused => exact hnone
      | caught _ loads => exact loads.activeInstance.trans hnone
      | carriedOut given acceptable ending =>
        cases ending with
        | abandoned => rfl
        | plain => exact absurd hfail (not_xrFailed.mpr (le_refl _))
        | messengerFailed created active messenger called failed =>
          cases given
          exact absurd (messengerFails_iff.mpr
            ⟨acceptable, _, messenger, _, _, _, _, created, active, called, failed⟩) hm
        | messenger _ _ _ _ succeeded => exact absurd hfail (not_xrFailed.mpr succeeded)
    rw [isAvailable_run, hout]
    rfl

def withoutMessengers : Environment := runtimeAnswering fun call =>
  match call with
  | .createInstance _ => ⟨xrSuccess, some 7⟩
  | .createDebugUtilsMessengerEXT _ _ _ => ⟨xrErrorRuntimeFailure, none⟩
  | _ => ⟨xrSuccess, none⟩

example : MessengerFails withoutMessengers (some (infoWithNext [.debugUtilsMessenger ⟨0, 0⟩])) true
    ApiLayerInterface.quietWorld :=
  messengerFails_iff.mpr ⟨⟨by decide, rfl, rfl⟩, _, rfl, _, _, _, _, rfl, rfl, rfl, by decide⟩

theorem createInstance_failureLeavesNone_iff_noMessenger :
    FailureLeavesNone withoutMessengers (some (infoWithNext [])) true ApiLayerInterface.quietWorld ↔
      ¬ MessengerFails withoutMessengers (some (infoWithNext [])) true ApiLayerInterface.quietWorld :=
  createInstance_failureLeavesNone_iff rfl

/-- The call fails, and its instance stays active. -/
theorem refusedMessenger_leavesInstance : ∃ w',
    createInstance withoutMessengers (some (infoWithNext [.debugUtilsMessenger ⟨0, 0⟩])) true
      ApiLayerInterface.quietWorld = .ok ⟨xrErrorValidationFailure, none⟩ w' ∧
    w'.activeInstance.isSome ∧
    createInstance withoutMessengers (some (infoWithNext [])) true w' = .ok ⟨xrErrorLimitReached, none⟩ w' ∧
    ¬ FailureLeavesNone withoutMessengers (some (infoWithNext [.debugUtilsMessenger ⟨0, 0⟩])) true
      ApiLayerInterface.quietWorld := by
  refine ⟨_, rfl, rfl, rfl, fun h => ?_⟩
  have := h _ _ rfl (by decide)
  cases this

end LoaderCore
end OpenXRSdk
