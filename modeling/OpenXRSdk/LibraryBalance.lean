import OpenXRSdk.InstanceCreation
import OpenXRSdk.TransitionSystem

/-!
# Balance of the shared libraries

What each call of the application can do to the loader, and that no library handle is lost
or closed twice on the way.
-/
namespace OpenXRSdk.LoaderCore

open StateProgram HandleLedger World TransitionSystem

/-! ## The effect of one call -/

theorem abiTry_within {r : World → World → Prop} {α : Type} {caught : α} {x : Loader α}
    (h : Within r (fun _ => True) x) : Within r isUndefined (abiTry caught x) := by
  intro w
  have := h w
  unfold abiTry
  cases hx : x w with
  | ok a w' =>
    rw [hx] at this
    exact this
  | error e w' =>
    rw [hx] at this
    cases e with
    | exception => exact this.2
    | undefinedBehaviour => exact ⟨rfl, this.2⟩

/-- The initialization data may have changed, and nothing else. -/
theorem initializeInitData_run (env : Environment) (info : List LoaderInitInfo) (w : World) :
    ∃ overrides initData, (∃ result, initializeInitData env info w = .ok result { w with
        clock := w.clock + 1
        overrides := overrides
        initData := initData }) ∨
      initializeInitData env info w = .error .exception { w with
        clock := w.clock + 1
        overrides := overrides
        initData := initData } := by
  unfold initializeInitData
  rw [bind_of_ok ask_run, bind_of_ok get_run]
  generalize hrun : w.tick.initData.initializeFrom env.requiresPlatformInit (env.android w.clock)
    w.tick.overrides info = outcome
  obtain ⟨result, overrides, initData⟩ := outcome
  refine ⟨overrides, initData, ?_⟩
  cases result with
  | ok result => exact .inl ⟨result, rfl⟩
  | error fault =>
    obtain rfl := LoaderInitData.initializeFrom_fault (congrArg Prod.fst hrun)
    exact .inr rfl

theorem initializeLoader_cases {env : Environment} {info : List LoaderInitInfo} {w w' : World}
    {result : XrResult} (h : initializeLoader env info w = .ok result w') :
    w.activeInstance.isSome ∧ xrFailed result ∧ w' = w ∨
      w.activeInstance = none ∧ ∃ c l overrides initData, w' = { w with
        clock := c
        libraries := l
        overrides := overrides
        initData := initData
        runtime := none } ∧ Carries w.libraries l w.runtimeLibraries [] := by
  unfold initializeLoader abiTry at h
  rw [bind_of_ok (isAvailable_run w)] at h
  by_cases hactive : w.activeInstance.isSome
  · rw [if_pos hactive] at h
    cases h
    exact Or.inl ⟨hactive, by decide, rfl⟩
  · rw [if_neg hactive] at h
    obtain ⟨l, hunload, hcarry⟩ := RuntimeInterface.unloadRuntime_run w
    rw [bind_of_ok hunload] at h
    obtain ⟨overrides, initData, ⟨_, hrun⟩ | hrun⟩ := initializeInitData_run env info
      { w with libraries := l, runtime := none }
    · rw [hrun] at h
      cases h
      exact Or.inr ⟨by simpa using hactive, _, l, _, _, rfl, hcarry⟩
    · rw [hrun] at h
      cases h
      exact Or.inr ⟨by simpa using hactive, _, l, _, _, rfl, hcarry⟩

section Enumerating
variable (env : Environment)

theorem findAllManifestFiles_later :
    Within Later (fun _ => True) (ApiLayerInterface.findAllManifestFiles env) := by
  refine (ApiLayerInterface.findManifestFiles_later env _).bind fun implicit => ?_
  dsimp only
  split_ifs
  · exact (ApiLayerInterface.findManifestFiles_later env _).bind fun explicit => Within.pure _
  · exact Within.pure _

theorem getApiLayerProperties_later (capacity : ℕ) (count : Bool) (types : Option (List ℕ)) :
    Within Later (fun _ => True) (ApiLayerInterface.getApiLayerProperties env capacity count types) := by
  refine (Within.pure _).ite ((Within.pure _).ite ?_)
  refine (findAllManifestFiles_later env).bind fun found => ?_
  dsimp only
  split_ifs <;> exact Within.pure _

theorem layerExtensionProperties_later (layerName : Option StdString) :
    Within Later (fun _ => True) (ApiLayerInterface.getInstanceExtensionProperties env layerName) := by
  have hfind := ApiLayerInterface.findManifestFiles_later env
  unfold ApiLayerInterface.getInstanceExtensionProperties
  cases layerName with
  | none =>
    refine (hfind _).bind fun implicit => Within.get.bind fun w => ?_
    dsimp only
    split_ifs
    · exact (hfind _).bind fun explicit => Within.pure _
    · exact Within.pure _
  | some name =>
    refine (hfind _).bind fun implicit => ?_
    dsimp only
    split_ifs
    · refine (hfind _).bind fun explicit => ?_
      split_ifs
      · exact Within.pure _
      · cases (implicit.2 ++ explicit.2).find? (·.layerName = name) <;> exact Within.pure _
    · exact Within.pure _

theorem loadRuntime_loads : Within Loads (fun _ => True) (RuntimeInterface.loadRuntime env) := by
  intro w
  have := RuntimeInterface.loadRuntime_spec env w w rfl
  cases h : RuntimeInterface.loadRuntime env w with
  | ok result w' =>
    rw [h] at this
    exact this.1
  | error e w' =>
    rw [h] at this
    exact ⟨trivial, this⟩

theorem extensionProperties_loads (layerName : Option StdString) :
    Within Loads (fun _ => True) (extensionProperties env layerName) := by
  have hlayers := (layerExtensionProperties_later env layerName).mono (fun _ _ => Later.loads)
    fun _ h => h
  have hruntime (props : List XrExtensionProperties) :
      Within Loads (fun _ => True) (RuntimeInterface.getInstanceExtensionProperties env props) :=
    (RuntimeInterface.getInstanceExtensionProperties_later env props).mono (fun _ _ => Later.loads)
      fun _ _ => trivial
  refine Within.bind ?_ fun collected => (Within.pure _).ite (Within.pure _)
  refine hlayers.bind fun found => (Within.pure _).ite ?_
  refine (loadRuntime_loads env).bind fun result => (Within.pure _).ite ?_
  exact (hruntime _).bind fun _ => Within.pure _

theorem enumerateInstanceExtensionProperties_loads (layerName : Option StdString) (capacity : ℕ)
    (count : Bool) (types : Option (List ℕ)) : Within Loads isUndefined
      (enumerateInstanceExtensionProperties env layerName capacity count types) := by
  refine abiTry_within ((Within.pure _).ite ?_)
  refine (extensionProperties_loads env _).bind fun found => ?_
  exact (Within.pure _).ite (Within.pure _)

theorem enumerateApiLayerProperties_loads (capacity : ℕ) (count : Bool) (types : Option (List ℕ)) :
    Within Loads isUndefined (enumerateApiLayerProperties env capacity count types) :=
  abiTry_within ((getApiLayerProperties_later env capacity count types).mono (fun _ _ => Later.loads)
    fun _ h => h)

end Enumerating

theorem destroyDefaultMessenger_keepsLoaded (env : Environment) (loaderInstance : LoaderInstance) :
    Within KeepsLoaded isUndefined (destroyDefaultMessenger env loaderInstance) := by
  unfold destroyDefaultMessenger
  split_ifs
  · exact ((keepsLoaded_calls env).destroyDebugUtilsMessenger _).bind fun _ => Within.pure _
  · exact Within.pure _

/-- What is left of an instance and its runtime once they are gone. -/
def unloaded (w : World) (l : HandleLedger) : World :=
  { w with
    libraries := l
    runtime := none
    activeInstance := none }

theorem destroyInstance_cases {env : Environment} {inst : XrInstance} {w w' : World}
    {result : XrResult} (h : destroyInstance env inst w = .ok result w') :
    (xrFailed result ∧ w' = w ∧ (inst = xrNullHandle ∨ w.activeInstance = none)) ∨
      result = xrSuccess ∧ inst ≠ xrNullHandle ∧ ∃ loaderInstance reply w₁ w₂ l, w.activeInstance = some loaderInstance ∧
        destroyDefaultMessenger env loaderInstance w = .ok ⟨⟩ w₁ ∧
        callFunction env (loaderInstance.dispatchTable .destroyInstance) (.destroyInstance inst) w₁ =
          .ok reply w₂ ∧ w' = unloaded w₂ l ∧
        Carries w₂.libraries l (w₂.runtimeLibraries ++ w₂.instanceLibraries) [] := by
  unfold destroyInstance at h
  by_cases hinst : inst = xrNullHandle
  · rw [if_pos hinst] at h
    cases h
    exact Or.inl ⟨by decide, rfl, Or.inl hinst⟩
  rw [if_neg hinst] at h
  obtain ⟨active, _, ha, h⟩ := bind_eq_ok.mp h
  cases ha
  cases hactive : w.activeInstance with
  | none =>
    rw [hactive] at h
    cases h
    exact Or.inl ⟨by decide, rfl, Or.inr rfl⟩
  | some loaderInstance =>
    rw [hactive] at h
    obtain ⟨_, w₁, hm, h⟩ := bind_eq_ok.mp h
    obtain ⟨reply, w₂, hcall, h⟩ := bind_eq_ok.mp h
    obtain ⟨l₁, hremove, hc₁⟩ := ActiveLoaderInstance.remove_run w₂
    obtain ⟨l₂, hunload, hc₂⟩ := RuntimeInterface.unloadRuntime_run
      { w₂ with
        libraries := l₁
        activeInstance := none }
    rw [bind_of_ok hremove, bind_of_ok hunload] at h
    cases h
    refine Or.inr ⟨rfl, hinst, loaderInstance, reply, w₁, w₂, l₂, rfl, hm, hcall, rfl, ?_⟩
    exact ((hc₁.frame w₂.runtimeLibraries).trans hc₂).perm List.perm_append_comm

/-! ## The balance -/

/-- Every open library is that of the runtime or of a layer of the active instance. -/
def Balanced (w : World) : Prop := w.libraries.Owes (w.runtimeLibraries ++ w.instanceLibraries)

theorem balanced_initial (logger : LoaderLogger) : Balanced (World.initial logger) := owes_empty

theorem Balanced.of_keepsLoaded {w w' : World} (hb : Balanced w) (h : KeepsLoaded w w') :
    Balanced w' := by
  unfold Balanced
  rw [h.libraries, h.runtimeLibraries, h.instanceLibraries]
  exact hb

theorem Balanced.of_loads {w w' : World} (hb : Balanced w) (h : Loads w w') : Balanced w' := by
  unfold Balanced
  rw [World.instanceLibraries, h.activeInstance]
  exact h.libraries _ hb

theorem Balanced.of_closed {w : World} {l : HandleLedger} (hb : Balanced w)
    (hc : Carries w.libraries l (w.runtimeLibraries ++ w.instanceLibraries) []) :
    Balanced (unloaded w l) := by
  unfold Balanced at hb
  rw [← List.append_nil (_ ++ _)] at hb
  exact hc [] hb

/-- Layers that wait for their instance are owed too. -/
theorem owes_of_loadsLayers {w w' : World} {layers : List ApiLayerInterface} (hb : Balanced w)
    (hnone : w.activeInstance = none) (h : LoadsLayers w layers w') :
    w'.libraries.Owes (w'.runtimeLibraries ++ ApiLayerInterface.interfaceLibraries layers) := by
  obtain ⟨l, hl, hcarry⟩ := h
  have hinst : w.instanceLibraries = [] := by simp [World.instanceLibraries, hnone]
  have hw : l.Owes (w'.runtimeLibraries ++ w.instanceLibraries) := hl.libraries _ hb
  rw [hinst, List.append_nil] at hw
  exact (hcarry _ hw).perm List.perm_append_comm

theorem owes_of_creation {env : Environment} {info : XrInstanceCreateInfo} {w w' : World}
    {result : XrResult} {layers : List ApiLayerInterface} (hb : Balanced w)
    (hnone : w.activeInstance = none) (h : Creation env info w result layers w') :
    w'.libraries.Owes (w'.runtimeLibraries ++ w'.instanceLibraries ++
      ApiLayerInterface.interfaceLibraries layers) := by
  cases h with
  | notLoaded _ loads =>
    have hl := owes_of_loadsLayers hb hnone loads
    simpa [World.instanceLibraries, loads.activeInstance.trans hnone] using hl
  | @chainFailed layers names reply w₁ w₂ _ loads _ chained _ destroyed =>
    have hl := owes_of_loadsLayers hb hnone loads
    have hk := (LoaderInstance.createChained_keepsLoaded env layers info names).of_ok chained
    obtain ⟨l, hrun, hcarry⟩ := ApiLayerInterface.destroyInterfaces_run layers w₂
    rw [hrun] at destroyed
    cases destroyed
    have hactive := hk.activeInstance.trans (loads.activeInstance.trans hnone)
    rw [← hk.libraries, ← hk.runtimeLibraries] at hl
    have hinst : w₂.instanceLibraries = [] := by simp [World.instanceLibraries, hactive]
    change l.Owes (w₂.runtimeLibraries ++ w₂.instanceLibraries ++ [])
    rw [hinst, List.append_nil, List.append_nil]
    exact hcarry _ (hl.perm List.perm_append_comm)
  | @active layers names reply table w₁ w₂ w₃ loads _ chained _ populated =>
    have hl := owes_of_loadsLayers hb hnone loads
    have hk := (LoaderInstance.createChained_keepsLoaded env layers info names).of_ok chained
    have hk' := ((LoaderInstance.populateDispatchTable_later env _ _).of_ok populated).keepsLoaded
    rw [← hk.libraries, ← hk.runtimeLibraries, ← hk'.libraries, ← hk'.runtimeLibraries] at hl
    change w₃.libraries.Owes (w₃.runtimeLibraries ++
      (ApiLayerInterface.interfaceLibraries layers ++ []) ++ [])
    rwa [List.append_nil, List.append_nil]

theorem balanced_of_ending {env : Environment} {info : XrInstanceCreateInfo} {w w' : World}
    {reply : Reply} (hb : Balanced w) (hnone : w.activeInstance = none)
    (h : Ending env info w reply w') : Balanced w' := by
  have hsuccess {w₁ : World} (hc : createActiveInstance env info w = .ok (xrSuccess, []) w₁) :
      Balanced w₁ := by
    have := owes_of_creation hb hnone (createActiveInstance_cases hnone hc)
    rwa [ApiLayerInterface.interfaceLibraries, List.map_nil, List.append_nil] at this
  cases h with
  | @abandoned result layers w₁ l created failed closed =>
    have hcreation := createActiveInstance_cases hnone created
    have howes := owes_of_creation hb hnone hcreation
    have hactive := hcreation.activeInstance_of_failed hnone failed
    have := closed [] (by simpa [World.instanceLibraries, hactive] using howes)
    exact this
  | plain created => exact hsuccess created
  | messengerFailed created active messenger called failed =>
    exact (hsuccess created).of_keepsLoaded
      (((keepsLoaded_calls env).createDebugUtilsMessenger _ _ _).of_ok called)
  | messenger created active messenger called succeeded =>
    have hk := ((keepsLoaded_calls env).createDebugUtilsMessenger _ _ _).of_ok called
    have := (hsuccess created).of_keepsLoaded hk
    simpa [Balanced, World.instanceLibraries, World.runtimeLibraries, hk.activeInstance, active] using
      this

theorem balanced_step {w w' : World} {e : Event} (hb : Balanced w) (h : Step w e w') :
    Balanced w' := by
  have hloads {α : Type} {result : α → XrResult} {x : Loader α} (hx : Within Loads isUndefined x)
      (h : replyOf result x w = .ok e.reply w') : Balanced w' := by
    obtain ⟨a, hrun, -⟩ := replyOf_eq_ok.mp h
    exact hb.of_loads (hx.of_ok hrun)
  obtain ⟨env, call, reply⟩ := e
  by_cases hc : call.isLifecycle = false
  · exact hb.of_keepsLoaded (((keepsLoaded_calls env).perform hc fun _ => keepsLoaded_data).of_ok h)
  cases call with
  | initializeLoader info =>
    obtain ⟨result, hrun, -⟩ := replyOf_eq_ok.mp h
    rcases initializeLoader_cases hrun with ⟨-, -, rfl⟩ | ⟨hnone, c, l, o, d, rfl, hcarry⟩
    · exact hb
    · exact hcarry _ hb
  | enumerateApiLayerProperties => exact hloads (enumerateApiLayerProperties_loads env _ _ _) h
  | enumerateInstanceExtensionProperties =>
    exact hloads (enumerateInstanceExtensionProperties_loads env _ _ _ _) h
  | createInstance info inst =>
    cases createInstance_cases h with
    | refused => exact hb
    | caught _ loads => exact hb.of_loads loads
    | carriedOut _ acceptable ending => exact balanced_of_ending hb acceptable.2.2 ending
  | destroyInstance inst =>
    obtain ⟨result, hrun, -⟩ := replyOf_eq_ok.mp h
    rcases destroyInstance_cases hrun with
      ⟨-, rfl, -⟩ | ⟨-, -, loaderInstance, _, w₁, w₂, l, -, hmessenger, hcall, rfl, hclosed⟩
    · exact hb
    · have hb₁ := hb.of_keepsLoaded
        ((destroyDefaultMessenger_keepsLoaded env loaderInstance).of_ok hmessenger)
      exact (hb₁.of_keepsLoaded ((callFunction_keepsLoaded env _ _).of_ok hcall)).of_closed hclosed
  | _ => exact absurd rfl hc

/-- After every call, no handle was closed twice, and the open ones are those of the runtime
and of the layers of the active instance, one each. -/
theorem libraries_balanced {logger : LoaderLogger} {trace : List (Transition World Event)} {w : World}
    (h : Run Step (World.initial logger) trace w) :
    w.libraries.closed.Nodup ∧ (w.runtimeLibraries ++ w.instanceLibraries).Nodup ∧
      ∀ handle, w.libraries.IsOpen handle ↔ handle ∈ w.runtimeLibraries ++ w.instanceLibraries := by
  have hb : Balanced w := h.invariant (balanced_initial logger) fun _ _ _ => balanced_step
  exact ⟨hb.closed_nodup, hb.held_nodup, hb.isOpen_iff⟩

def runtimeAndLayer : Environment :=
  { runtimeAnswering fun _ => ⟨xrSuccess, some 7⟩ with
    findLayerManifests := fun _ type => .ok (xrSuccess,
      if type = .implicitApiLayer then [ApiLayerInterface.implicitLayer "a".toList] else [])
    openLayer := fun _ _ => some (ApiLayerInterface.negotiatingLibrary true) }

theorem libraries_balanced_created : ∃ trace w, Run Step ApiLayerInterface.quietWorld trace w ∧
    w.runtimeLibraries ++ w.instanceLibraries = [0, 1] ∧
    w.libraries.closed.Nodup ∧ (w.runtimeLibraries ++ w.instanceLibraries).Nodup ∧
      ∀ handle, w.libraries.IsOpen handle ↔ handle ∈ w.runtimeLibraries ++ w.instanceLibraries := by
  have hstep : Step ApiLayerInterface.quietWorld
      ⟨runtimeAndLayer, .createInstance (some (infoWithNext [])) true, ⟨xrSuccess, some 7⟩⟩ _ := rfl
  have hrun := Run.snoc .nil hstep
  exact ⟨_, _, hrun, rfl, libraries_balanced hrun⟩

end OpenXRSdk.LoaderCore
