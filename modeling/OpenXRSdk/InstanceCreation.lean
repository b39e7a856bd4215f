import OpenXRSdk.LoaderCore

/-!
# Creating an instance

How far a call of xrCreateInstance gets, and what it leaves behind wherever it stops.
-/
namespace OpenXRSdk

open StateProgram HandleLedger World

namespace ApiLayerInterface

variable (env : Environment)

theorem findManifestFiles_later (type : ManifestFileType) :
    Within Later (fun _ => True) (findManifestFiles env type) := by
  refine (ask_later _).bind fun found => ?_
  cases found with
  | error fault => exact Within.throw trivial
  | ok found => exact Within.pure found

/-- What was opened and not closed again belongs to an interface. -/
theorem loadApiLayers_spec (count : ℕ) (names : Option (List StdString)) (w : World) :
    Triple (Later w) (loadApiLayers env count names)
      (fun found s => ∃ c l, s = { w with
          clock := c
          libraries := l } ∧ Carries w.libraries l [] (interfaceLibraries found.2))
      (fun _ s => Later w s) := by
  refine (((findManifestFiles_later env .implicitApiLayer).triple w).conseq (fun _ h => h)
    (fun _ _ h => h) fun _ _ h => h.2).bind fun implicit => ?_
  have hexplicit : Within Later (fun _ => True) (findUnlessFailed env implicit.1 .explicitApiLayer) :=
    (findManifestFiles_later env .explicitApiLayer).ite (Within.pure _)
  refine ((hexplicit.triple w).conseq (fun _ h => h) (fun _ _ h => h) fun _ _ h => h.2).bind
    fun explicit => ?_
  rintro _ ⟨c, rfl⟩
  dsimp only
  rw [bind_of_ok get_run]
  cases hreq : if xrSucceeded explicit.1 then
    requestedLayers env { w with clock := c } count names else some [] with
  | none => exact ⟨c, w.libraries, rfl, Carries.refl _ _⟩
  | some requested =>
    obtain ⟨interfaces, d, l, hrun, hcarry, -⟩ := loadEnabledLayers_spec env
      (enableLayers implicit.2 explicit.2 requested) { w with clock := c } rfl
    dsimp only
    rw [hrun]
    exact ⟨d, l, rfl, hcarry⟩

end ApiLayerInterface

def World.instanceLibraries (w : World) : List ℕ :=
  w.activeInstance.toList.flatMap fun inst =>
    ApiLayerInterface.interfaceLibraries inst.apiLayerInterfaces

theorem World.KeepsLoaded.instanceLibraries {w w' : World} (h : KeepsLoaded w w') :
    w'.instanceLibraries = w.instanceLibraries := by
  rw [World.instanceLibraries, World.instanceLibraries, h.activeInstance]

theorem ActiveLoaderInstance.remove_run (w : World) : ∃ l, ActiveLoaderInstance.remove w = .ok ⟨⟩
      { w with
        libraries := l
        activeInstance := none } ∧ Carries w.libraries l w.instanceLibraries [] := by
  obtain ⟨clock, libraries, overrides, initData, runtime, activeInstance, logger⟩ := w
  cases activeInstance with
  | none => exact ⟨libraries, rfl, Carries.refl _ _⟩
  | some inst =>
    obtain ⟨l, hrun, hcarry⟩ := ApiLayerInterface.destroyInterfaces_run inst.apiLayerInterfaces
      ⟨clock, libraries, overrides, initData, runtime, none, logger⟩
    exact ⟨l, hrun, by simpa [World.instanceLibraries] using hcarry⟩

namespace LoaderCore

/-- A runtime and some layers may have been loaded. -/
def LoadsLayers (w : World) (layers : List ApiLayerInterface) (w' : World) : Prop :=
  ∃ l, Loads w { w' with libraries := l } ∧
    Carries l w'.libraries [] (ApiLayerInterface.interfaceLibraries layers)

theorem loadRuntimeAndLayers_spec (env : Environment) (info : XrInstanceCreateInfo) (w : World) :
    Triple (· = w) (loadRuntimeAndLayers env info)
      (fun loaded s => LoadsLayers w loaded.2 s ∧ (xrSucceeded loaded.1 → s.runtime.isSome))
      (fun _ s => Loads w s) := by
  refine (RuntimeInterface.loadRuntime_spec env w).bind fun result => ?_
  by_cases hr : xrFailed result
  · simp only [if_pos hr]
    refine Triple.pure fun s hs => ⟨⟨s.libraries, hs.1, Carries.refl _ _⟩, fun h => ?_⟩
    exact absurd hr (not_xrFailed.mpr h)
  · simp only [if_neg hr]
    rintro s ⟨hs, hsome⟩
    refine (ApiLayerInterface.loadApiLayers_spec env _ _ s).conseq (fun _ h => h) ?_ ?_ s
      (refl_of Later s)
    · rintro found _ ⟨c, l, rfl, hcarry⟩
      refine ⟨⟨s.libraries, hs.trans (Later.loads ⟨c, rfl⟩), hcarry⟩, fun _ => ?_⟩
      exact hsome.mp (not_xrFailed.mp hr)
    · exact fun _ _ h => hs.trans (Later.loads h)

/-- How far a call gets before it has an active instance. -/
inductive Creation (env : Environment) (info : XrInstanceCreateInfo) (w : World) :
    XrResult → List ApiLayerInterface → World → Prop
  | notLoaded {result : XrResult} {layers : List ApiLayerInterface} {w' : World}
      (failed : xrFailed result) (loads : LoadsLayers w layers w') : Creation env info w result layers w'
  | chainFailed {layers : List ApiLayerInterface} {names : List StdString} {reply : Reply}
      {w₁ w₂ w' : World} (loads : LoadsLayers w layers w₁) (runtime : w₁.runtime.isSome)
      (chained : LoaderInstance.createChained env layers info names w₁ = .ok reply w₂)
      (failed : xrFailed reply.result)
      (destroyed : ApiLayerInterface.destroyInterfaces layers w₂ = .ok ⟨⟩ w') :
      Creation env info w reply.result [] w'
  | active {layers : List ApiLayerInterface} {names : List StdString} {reply : Reply}
      {table : DispatchTable} {w₁ w₂ w₃ : World} (loads : LoadsLayers w layers w₁)
      (runtime : w₁.runtime.isSome)
      (chained : LoaderInstance.createChained env layers info names w₁ = .ok reply w₂)
      (succeeded : xrSucceeded reply.result)
      (populated : LoaderInstance.populateDispatchTable env (LoaderInstance.topmostGipaOf layers)
        (reply.handle.getD xrNullHandle) w₂ = .ok table w₃) :
      Creation env info w xrSuccess [] { w₃ with
        activeInstance := some (LoaderInstance.new (reply.handle.getD xrNullHandle) names layers table) }

theorem LoadsLayers.activeInstance {w w' : World} {layers : List ApiLayerInterface}
    (h : LoadsLayers w layers w') : w'.activeInstance = w.activeInstance := by
  obtain ⟨l, hl, -⟩ := h
  exact hl.activeInstance

theorem set_of_none {w : World} (h : w.activeInstance = none) (inst : LoaderInstance) :
    ActiveLoaderInstance.set inst w = .ok xrSuccess { w with activeInstance := some inst } := by
  unfold ActiveLoaderInstance.set
  rw [bind_of_ok get_run, h]
  rfl

theorem createActiveInstance_cases {env : Environment} {info : XrInstanceCreateInfo} {w w' : World}
    {result : XrResult} {layers : List ApiLayerInterface} (hnone : w.activeInstance = none)
    (h : createActiveInstance env info w = .ok (result, layers) w') :
    Creation env info w result layers w' := by
  obtain ⟨loaded, w₁, hl, h⟩ := bind_eq_ok.mp h
  obtain ⟨hloads, hruntime⟩ := (loadRuntimeAndLayers_spec env info w).of_ok rfl hl
  dsimp only at h
  by_cases hfail : xrFailed loaded.1
  · rw [if_pos hfail] at h
    cases h
    exact .notLoaded hfail hloads
  rw [if_neg hfail] at h
  obtain ⟨⟨result', created⟩, w₂, hc, h⟩ := bind_eq_ok.mp h
  obtain ⟨names, reply, w₃, -, hchain, rfl, hcases⟩ := LoaderInstance.createInstance_cases hc
  have hsome := hruntime (not_xrFailed.mp hfail)
  rcases hcases with ⟨hf, rfl, hd⟩ | ⟨hs, table, ht, rfl⟩
  · cases h
    exact .chainFailed hloads hsome hchain hf hd
  · have hactive : w₂.activeInstance = none := by
      have hk := ((LoaderInstance.createChained_keepsLoaded env loaded.2 info names).of_ok hchain)
      obtain ⟨c, rfl⟩ := (LoaderInstance.populateDispatchTable_later env _ _).of_ok ht
      exact hk.activeInstance.trans (hloads.activeInstance.trans hnone)
    dsimp only at h
    rw [bind_of_ok (set_of_none hactive _)] at h
    cases h
    exact .active hloads hsome hchain hs ht

section Faults
variable (env : Environment)

theorem remove_faults : Within Anything isUndefined ActiveLoaderInstance.remove := by
  refine Within.get.bind fun w => ?_
  cases w.activeInstance with
  | none => exact Within.pure _
  | some inst =>
    exact (Within.modify fun _ => trivial).bind fun _ => LoaderInstance.destroyInterfaces_faults _

theorem unloadRuntime_faults : Within Anything isUndefined RuntimeInterface.unloadRuntime := by
  refine Within.get.bind fun w => ?_
  cases w.runtime with
  | none => exact Within.pure _
  | some rt =>
    exact Within.bind (Within.modify fun _ => trivial) fun _ => Within.modify fun _ => trivial

theorem set_faults (inst : LoaderInstance) : Within Anything isUndefined (ActiveLoaderInstance.set inst) := by
  refine Within.get.bind fun w => ?_
  split_ifs
  · exact (LoaderInstance.destroyInterfaces_faults _).bind fun _ => Within.pure _
  · exact (Within.modify fun _ => trivial).bind fun _ => Within.pure _

theorem createDefaultMessenger_faults (createInfo : XrDebugUtilsMessengerCreateInfoEXT)
    (inst : XrInstance) : Within Anything isUndefined (createDefaultMessenger env createInfo inst) := by
  refine ((keepsLoaded_calls env).createDebugUtilsMessenger inst createInfo true).forget.bind fun reply => ?_
  split_ifs
  · exact Within.pure _
  · cases reply.handle with
    | none => exact undefinedBehaviour_within
    | some messenger => exact (Within.modify fun _ => trivial).bind fun _ => Within.pure _

end Faults

theorem not_exception {r : World → World → Prop} {α : Type} {x : Loader α} {w w' : World}
    (h : Within r isUndefined x) : x w ≠ .error .exception w' := by
  intro hx
  cases (h.of_error hx).1

/-- An exception comes before any layer is loaded. -/
theorem createActiveInstance_exception {env : Environment} {info : XrInstanceCreateInfo} {w w' : World}
    (h : createActiveInstance env info w = .error .exception w') : Loads w w' := by
  rcases bind_eq_error.mp h with h | ⟨loaded, w₁, -, h⟩
  · have := loadRuntimeAndLayers_spec env info w w rfl
    rwa [h] at this
  · refine absurd h (not_exception (r := Anything) ?_)
    dsimp only
    split_ifs
    · exact Within.pure _
    refine (LoaderInstance.createInstance_faults env _ info).bind fun created => ?_
    cases created.2 with
    | none => exact Within.pure _
    | some inst => exact (set_faults inst).bind fun _ => Within.pure _

theorem createWithoutActive_exception {env : Environment} {info : XrInstanceCreateInfo} {w w' : World}
    (h : createWithoutActive env info w = .error .exception w') : Loads w w' := by
  rcases bind_eq_error.mp h with h | ⟨created, w₁, -, h⟩
  · exact createActiveInstance_exception h
  · refine absurd h (not_exception (r := Anything) ?_)
    dsimp only
    split_ifs
    · exact remove_faults.bind fun _ => unloadRuntime_faults.bind fun _ =>
        (LoaderInstance.destroyInterfaces_faults _).bind fun _ => Within.pure _
    refine active_within.bind fun active => ?_
    cases active with
    | none => exact undefinedBehaviour_within
    | some inst =>
      cases messengerCreateInfo info.next with
      | none => exact Within.pure _
      | some createInfo => exact createDefaultMessenger_faults env createInfo _

/-- How a call ends that found no active instance. -/
inductive Ending (env : Environment) (info : XrInstanceCreateInfo) (w : World) : Reply → World → Prop
  | abandoned {result : XrResult} {layers : List ApiLayerInterface} {w₁ : World} {l : HandleLedger}
      (created : createActiveInstance env info w = .ok (result, layers) w₁) (failed : xrFailed result)
      (closed : Carries w₁.libraries l
        (w₁.runtimeLibraries ++ ApiLayerInterface.interfaceLibraries layers) []) :
      Ending env info w ⟨result, none⟩ { w₁ with
        libraries := l
        runtime := none
        activeInstance := none }
  | plain {inst : LoaderInstance} {w₁ : World}
      (created : createActiveInstance env info w = .ok (xrSuccess, []) w₁)
      (active : w₁.activeInstance = some inst) (messenger : messengerCreateInfo info.next = none) :
      Ending env info w ⟨xrSuccess, some inst.runtimeInstance⟩ w₁
  | messengerFailed {inst : LoaderInstance} {createInfo : XrDebugUtilsMessengerCreateInfoEXT}
      {reply : Reply} {w₁ w₂ : World}
      (created : createActiveInstance env info w = .ok (xrSuccess, []) w₁)
      (active : w₁.activeInstance = some inst)
      (messenger : messengerCreateInfo info.next = some createInfo)
      (called : createDebugUtilsMessenger env inst.runtimeInstance createInfo true w₁ = .ok reply w₂)
      (failed : xrFailed reply.result) : Ending env info w ⟨xrErrorValidationFailure, none⟩ w₂
  | messenger {inst : LoaderInstance} {createInfo : XrDebugUtilsMessengerCreateInfoEXT}
      {result : XrResult} {handle : XrDebugUtilsMessengerEXT} {w₁ w₂ : World}
      (created : createActiveInstance env info w = .ok (xrSuccess, []) w₁)
      (active : w₁.activeInstance = some inst)
      (messenger : messengerCreateInfo info.next = some createInfo)
      (called : createDebugUtilsMessenger env inst.runtimeInstance createInfo true w₁ =
        .ok ⟨result, some handle⟩ w₂)
      (succeeded : xrSucceeded result) :
      Ending env info w ⟨result, some inst.runtimeInstance⟩ { w₂ with
        activeInstance := some { inst with messenger := handle } }

theorem Creation.activeInstance_of_failed {env : Environment} {info : XrInstanceCreateInfo}
    {w w' : World} {result : XrResult} {layers : List ApiLayerInterface}
    (h : Creation env info w result layers w') (hnone : w.activeInstance = none)
    (hf : xrFailed result) : w'.activeInstance = none := by
  cases h with
  | notLoaded _ loads => exact loads.activeInstance.trans hnone
  | chainFailed loads _ chained _ destroyed =>
    have hk := (LoaderInstance.createChained_keepsLoaded env _ info _).of_ok chained
    obtain ⟨l, hrun, -⟩ := ApiLayerInterface.destroyInterfaces_run _ _
    rw [hrun] at destroyed
    cases destroyed
    exact hk.activeInstance.trans (loads.activeInstance.trans hnone)
  | active => exact absurd hf (by decide)

/-- What a failing call closes before it returns. -/
theorem cleanUp_run (layers : List ApiLayerInterface) (w : World) : ∃ l,
    (∀ x : Loader Reply, (ActiveLoaderInstance.remove >>= fun _ => RuntimeInterface.unloadRuntime >>=
        fun _ => ApiLayerInterface.destroyInterfaces layers >>= fun _ => x) w =
      x { w with
        libraries := l
        runtime := none
        activeInstance := none }) ∧
    Carries w.libraries l (w.instanceLibraries ++
      (w.runtimeLibraries ++ ApiLayerInterface.interfaceLibraries layers)) [] := by
  obtain ⟨l₁, hremove, hc₁⟩ := ActiveLoaderInstance.remove_run w
  obtain ⟨l₂, hunload, hc₂⟩ := RuntimeInterface.unloadRuntime_run
    { w with
      libraries := l₁
      activeInstance := none }
  obtain ⟨l₃, hdestroy, hc₃⟩ := ApiLayerInterface.destroyInterfaces_run layers
    { w with
      libraries := l₂
      activeInstance := none
      runtime := none }
  refine ⟨l₃, fun x => ?_, (hc₁.frame _).trans ((hc₂.frame _).trans hc₃)⟩
  rw [bind_of_ok hremove, bind_of_ok hunload, bind_of_ok hdestroy]

theorem createWithoutActive_cases {env : Environment} {info : XrInstanceCreateInfo} {w w' : World}
    {reply : Reply} (hnone : w.activeInstance = none)
    (h : createWithoutActive env info w = .ok reply w') : Ending env info w reply w' := by
  obtain ⟨⟨result, layers⟩, w₁, hc, h⟩ := bind_eq_ok.mp h
  have hcreation := createActiveInstance_cases hnone hc
  dsimp only at h
  by_cases hfail : xrFailed result
  · rw [if_pos hfail] at h
    have hinst : w₁.instanceLibraries = [] := by
      simp [World.instanceLibraries, hcreation.activeInstance_of_failed hnone hfail]
    obtain ⟨l, hrun, hclosed⟩ := cleanUp_run layers w₁
    rw [hrun] at h
    cases h
    rw [hinst, List.nil_append] at hclosed
    exact @Ending.abandoned _ _ _ _ _ w₁ l hc hfail hclosed
  · rw [if_neg hfail] at h
    obtain ⟨active, w₂, ha, h⟩ := bind_eq_ok.mp h
    cases ha
    have hresult : result = xrSuccess ∧ layers = [] := by
      cases hcreation with
      | notLoaded failed => exact absurd failed hfail
      | chainFailed _ _ _ failed => exact absurd failed hfail
      | active => exact ⟨rfl, rfl⟩
    obtain ⟨rfl, rfl⟩ := hresult
    cases hactive : w₁.activeInstance with
    | none =>
      rw [hactive] at h
      cases h
    | some inst =>
      rw [hactive] at h
      dsimp only at h
      cases hm : messengerCreateInfo info.next with
      | none =>
        rw [hm] at h
        cases h
        exact .plain hc hactive hm
      | some createInfo =>
        rw [hm] at h
        obtain ⟨⟨result, handle⟩, w₂, hcall, h⟩ := bind_eq_ok.mp h
        by_cases hf : xrFailed result
        · rw [if_pos hf] at h
          cases h
          exact .messengerFailed hc hactive hm hcall hf
        · rw [if_neg hf] at h
          cases handle with
          | none => cases h
          | some handle =>
            cases h
            have hk := ((keepsLoaded_calls env).createDebugUtilsMessenger _ _ _).of_ok hcall
            dsimp only
            rw [hk.activeInstance, hactive]
            exact .messenger hc hactive hm hcall (not_xrFailed.mp hf)

/-- Nothing stands in the way of carrying the call out. -/
def Acceptable (info : XrInstanceCreateInfo) (inst : Bool) (w : World) : Prop :=
  isApiVersionUnsupported info.applicationInfo.apiVersion = false ∧ inst = true ∧
    w.activeInstance = none

/-- How a call of xrCreateInstance ends: it is refused, an exception is caught, or it is
carried out because no instance was active. -/
inductive CreateInstance (env : Environment) (info : Option XrInstanceCreateInfo) (inst : Bool)
    (w : World) : Reply → World → Prop
  | refused {result : XrResult} (failed : xrFailed result) :
      CreateInstance env info inst w ⟨result, none⟩ w
  | caught {w' : World} (available : w.activeInstance = none) (loads : Loads w w') :
      CreateInstance env info inst w ⟨xrErrorRuntimeFailure, none⟩ w'
  | carriedOut {createInfo : XrInstanceCreateInfo} {reply : Reply} {w' : World}
      (given : info = some createInfo) (acceptable : Acceptable createInfo inst w)
      (ending : Ending env createInfo w reply w') : CreateInstance env info inst w reply w'

theorem createInstance_of_acceptable {env : Environment} {info : XrInstanceCreateInfo} {inst : Bool}
    {w : World} (h : Acceptable info inst w) : createInstance env (some info) inst w =
      abiTry ⟨xrErrorRuntimeFailure, none⟩ (createWithoutActive env info) w := by
  obtain ⟨hversion, rfl, hactive⟩ := h
  have hrun : ActiveLoaderInstance.isAvailable w = .ok false w := by
    unfold ActiveLoaderInstance.isAvailable
    rw [bind_of_ok get_run, hactive]
    rfl
  unfold createInstance abiTry
  dsimp only
  rw [if_neg (by simp [hversion]), if_neg (by simp), bind_of_ok hrun]
  rfl

/-- A call that cannot be carried out changes nothing. With good arguments, it is the active
instance that is in the way. -/
theorem createInstance_of_not_acceptable {env : Environment} {info : Option XrInstanceCreateInfo}
    {inst : Bool} {w : World} (h : ∀ i ∈ info, ¬ Acceptable i inst w) :
    ∃ result, xrFailed result ∧ createInstance env info inst w = .ok ⟨result, none⟩ w ∧
      ∀ i, info = some i → inst = true →
        isApiVersionUnsupported i.applicationInfo.apiVersion = false → result = xrErrorLimitReached := by
  cases info with
  | none => exact ⟨xrErrorValidationFailure, by decide, rfl, by simp⟩
  | some info =>
    unfold createInstance abiTry
    dsimp only
    by_cases hversion : isApiVersionUnsupported info.applicationInfo.apiVersion = true
    · rw [if_pos hversion]
      exact ⟨xrErrorApiVersionUnsupported, by decide, rfl, by simp [hversion]⟩
    rw [if_neg hversion]
    cases inst with
    | false => exact ⟨xrErrorValidationFailure, by decide, rfl, by simp⟩
    | true =>
      have hactive : w.activeInstance ≠ none := fun hn =>
        h info rfl ⟨by simpa using hversion, rfl, hn⟩
      have hrun : ActiveLoaderInstance.isAvailable w = .ok true w := by
        unfold ActiveLoaderInstance.isAvailable
        rw [bind_of_ok get_run]
        change EStateM.Result.ok w.activeInstance.isSome w = _
        rw [Option.isSome_iff_ne_none.mpr hactive]
      rw [if_neg (by simp), bind_of_ok hrun]
      exact ⟨xrErrorLimitReached, by decide, rfl, fun _ _ _ _ => rfl⟩

theorem createInstance_cases {env : Environment} {info : Option XrInstanceCreateInfo} {inst : Bool}
    {w w' : World} {reply : Reply} (h : createInstance env info inst w = .ok reply w') :
    CreateInstance env info inst w reply w' := by
  by_cases hacc : ∃ i ∈ info, Acceptable i inst w
  · obtain ⟨i, rfl, hacc⟩ := hacc
    rw [createInstance_of_acceptable hacc] at h
    rcases abiTry_eq_ok.mp h with hrun | ⟨hthrow, rfl⟩
    · exact .carriedOut rfl hacc (createWithoutActive_cases hacc.2.2 hrun)
    · exact .caught hacc.2.2 (createWithoutActive_exception hthrow)
  · have hrefused : ∃ result, xrFailed result ∧ createInstance env info inst w = .ok ⟨result, none⟩ w ∧ _ :=
      createInstance_of_not_acceptable fun i hi hi' => hacc ⟨i, hi, hi'⟩
    obtain ⟨result, hfail, hrun, -⟩ := hrefused
    rw [hrun] at h
    cases h
    exact .refused hfail

theorem isAvailable_run (w : World) :
    ActiveLoaderInstance.isAvailable w = .ok w.activeInstance.isSome w := rfl

/-- One runtime, with every function of the API and no extension. -/
def runtimeAnswering (answer : TermCall → Reply) : Environment :=
  { Environment.bare with
    findRuntimeManifests := fun _ => .ok (xrSuccess, [⟨⟨[], .runtime, "runtime".toList, [], ∅⟩⟩])
    openRuntime := fun _ _ => some
      { exportedInitializeLoader := fun _ => none
        negotiate := fun _ => some (xrSuccess, ⟨1, xrCurrentApiVersion, some 1⟩)
        queriedInitializeLoader := (xrErrorFunctionUnsupported, none) }
    queryExtensions := fun _ _ =>
      ⟨⟨xrSuccess, some (.foreign 2)⟩, ⟨xrSuccess, some 0⟩, fun _ => ⟨xrSuccess, none, []⟩⟩
    getInstanceProcAddr := fun _ _ _ _ => ⟨xrSuccess, some (.foreign 3)⟩
    callRuntime := fun _ _ call => answer call }

def infoWithNext (next : List CreateInfoExtension) : XrInstanceCreateInfo where
  type := xrTypeInstanceCreateInfo
  next := next
  createFlags := 0
  applicationInfo := ⟨['a', '\x00'], ['\x00'], xrMakeVersion 1 0 0⟩
  enabledApiLayerCount := 0
  enabledApiLayerNames := none
  enabledExtensionCount := 0
  enabledExtensionNames := none

end LoaderCore
end OpenXRSdk
