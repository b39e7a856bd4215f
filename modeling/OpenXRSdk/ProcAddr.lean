import OpenXRSdk.Lifecycle

/-!
# Functions that an instance hands out

What xrGetInstanceProcAddr answers depends on the call that created the active instance, however
long ago that was.
-/
namespace OpenXRSdk.LoaderCore

open StateProgram World TransitionSystem

def enabledNames (info : XrInstanceCreateInfo) : Option (List StdString) :=
  arrayNames info.enabledExtensionCount info.enabledExtensionNames

def makesInstance (x : Transition World Event) : Bool :=
  x.before.activeInstance.isNone && x.after.activeInstance.isSome

/-- What the application asked for when the last instance was made. -/
def creationNames (trace : List (Transition World Event)) : Option (List StdString) :=
  (trace.reverse.find? makesInstance).bind fun x =>
    match x.label.call with
    | .createInstance (some info) _ => enabledNames info
    | _ => none

theorem creationNames_snoc (trace : List (Transition World Event)) (x : Transition World Event) :
    creationNames (trace ++ [x]) = if makesInstance x then creationNames [x] else creationNames trace := by
  unfold creationNames
  rw [List.reverse_append, List.reverse_singleton, List.singleton_append, List.find?_cons,
    List.find?_singleton]
  cases makesInstance x <;> rfl

/-! ## What a call does to the extensions -/

theorem enabledNames_of_created {env : Environment} {info : XrInstanceCreateInfo} {w w' : World}
    (hnone : w.activeInstance = none)
    (h : createActiveInstance env info w = .ok (xrSuccess, []) w') :
    ∀ li ∈ w'.activeInstance, enabledNames info = some li.enabledExtensions := by
  obtain ⟨loaded, w₁, hl, h⟩ := bind_eq_ok.mp h
  obtain ⟨hloads, -⟩ := (loadRuntimeAndLayers_spec env info w).of_ok rfl hl
  dsimp only at h
  by_cases hfail : xrFailed loaded.1
  · rw [if_pos hfail, pure_eq_ok] at h
    rw [(Prod.mk.inj h.1).1] at hfail
    exact absurd hfail (by decide)
  rw [if_neg hfail] at h
  obtain ⟨⟨result, created⟩, w₂, hc, h⟩ := bind_eq_ok.mp h
  obtain ⟨names, reply, w₃, hnames, hchain, rfl, hcases⟩ := LoaderInstance.createInstance_cases hc
  rcases hcases with ⟨hf, rfl, -⟩ | ⟨-, table, htable, rfl⟩
  · have hsuccess := (Prod.mk.inj (pure_eq_ok.mp h).1).1
    dsimp only at hsuccess
    rw [hsuccess] at hf
    exact absurd hf (by decide)
  · have hactive : w₂.activeInstance = none := by
      have hk := (LoaderInstance.createChained_keepsLoaded env loaded.2 info names).of_ok hchain
      obtain ⟨c, rfl⟩ := (LoaderInstance.populateDispatchTable_later env _ _).of_ok htable
      exact hk.activeInstance.trans (hloads.activeInstance.trans hnone)
    dsimp only at h
    rw [bind_of_ok (set_of_none hactive _)] at h
    cases h
    rintro li ⟨⟩
    exact hnames

/-- What an instance was created with stays with it. -/
theorem enabledNames_of_ending {env : Environment} {info : XrInstanceCreateInfo} {w w' : World}
    {reply : Reply} (hnone : w.activeInstance = none) (h : Ending env info w reply w') :
    ∀ li ∈ w'.activeInstance, enabledNames info = some li.enabledExtensions := by
  cases h with
  | abandoned => rintro li ⟨⟩
  | plain created => exact enabledNames_of_created hnone created
  | messengerFailed created _ _ called =>
    have hk := ((keepsLoaded_calls env).createDebugUtilsMessenger _ _ _).of_ok called
    rw [hk.activeInstance]
    exact enabledNames_of_created hnone created
  | messenger created active =>
    have hnames := enabledNames_of_created hnone created _ (Option.mem_def.mpr active)
    rintro li ⟨⟩
    exact hnames

/-- A call that makes an instance makes it with what it asks for; no other changes that. -/
theorem enabledExtensions_step {x : Transition World Event} (h : Step x.before x.label x.after) :
    ∀ li' ∈ x.after.activeInstance, makesInstance x ∧ creationNames [x] = some li'.enabledExtensions ∨
      makesInstance x = false ∧
        ∃ li ∈ x.before.activeInstance, li'.enabledExtensions = li.enabledExtensions := by
  obtain ⟨w, ⟨env, call, reply⟩, w'⟩ := x
  dsimp only at h ⊢
  have hsame (heq : w'.activeInstance = w.activeInstance) : ∀ li' ∈ w'.activeInstance,
      makesInstance ⟨w, ⟨env, call, reply⟩, w'⟩ ∧
          creationNames [⟨w, ⟨env, call, reply⟩, w'⟩] = some li'.enabledExtensions ∨
        makesInstance ⟨w, ⟨env, call, reply⟩, w'⟩ = false ∧
          ∃ li ∈ w.activeInstance, li'.enabledExtensions = li.enabledExtensions := by
    intro li' hli'
    refine .inr ⟨?_, li', heq ▸ hli', rfl⟩
    simp [makesInstance, heq]
  by_cases hc : call.isLifecycle = false
  · exact hsame (((keepsLoaded_calls env).perform hc fun _ => keepsLoaded_data).of_ok h).activeInstance
  cases call with
  | initializeLoader info =>
    obtain ⟨result, hrun, -⟩ := replyOf_eq_ok.mp h
    rcases initializeLoader_cases hrun with ⟨-, -, rfl⟩ | ⟨-, c, l, o, d, rfl, -⟩
    · exact hsame rfl
    · exact hsame rfl
  | enumerateApiLayerProperties =>
    obtain ⟨a, hrun, -⟩ := replyOf_eq_ok.mp h
    exact hsame ((enumerateApiLayerProperties_loads env _ _ _).of_ok hrun).activeInstance
  | enumerateInstanceExtensionProperties =>
    obtain ⟨a, hrun, -⟩ := replyOf_eq_ok.mp h
    exact hsame ((enumerateInstanceExtensionProperties_loads env _ _ _ _).of_ok hrun).activeInstance
  | createInstance info inst =>
    cases createInstance_cases h with
    | refused => exact hsame rfl
    | caught _ loads => exact hsame loads.activeInstance
    | @carriedOut createInfo _ _ given acceptable ending =>
      subst given
      intro li' hli'
      have hmakes : makesInstance ⟨w, ⟨env, .createInstance (some createInfo) inst, reply⟩, w'⟩ := by
        simp [makesInstance, acceptable.2.2, Option.mem_def.mp hli']
      refine .inl ⟨hmakes, ?_⟩
      unfold creationNames
      rw [List.reverse_singleton, List.find?_cons_of_pos hmakes]
      exact enabledNames_of_ending acceptable.2.2 ending li' hli'
  | destroyInstance inst =>
    obtain ⟨result, hrun, -⟩ := replyOf_eq_ok.mp h
    rcases destroyInstance_cases hrun with ⟨-, rfl, -⟩ | ⟨-, -, _, _, _, _, _, -, -, -, rfl, -⟩
    · exact hsame rfl
    · rintro li' ⟨⟩
  | _ => exact absurd rfl hc

/-! ## Whole runs -/

theorem enabledExtensions_run {logger : LoaderLogger} {trace : List (Transition World Event)}
    {w : World} (h : Run Step (World.initial logger) trace w) :
    ∀ li ∈ w.activeInstance, creationNames trace = some li.enabledExtensions := by
  induction h with
  | nil => rintro li ⟨⟩
  | @snoc trace s t e prior last ih =>
    intro li' hli'
    rw [creationNames_snoc]
    rcases enabledExtensions_step (x := ⟨s, e, t⟩) last li' hli' with
      ⟨hmakes, hnames⟩ | ⟨hnot, li, hli, heq⟩
    · rw [if_pos hmakes, hnames]
    · rw [if_neg (by simp [hnot]), ih li hli, heq]

/-- Whatever has been called in between, the functions of XR_EXT_debug_utils are handed out if the
application asked for the extension when it created the instance, and in no other case. -/
theorem debugUtils_gated {logger : LoaderLogger} {trace : List (Transition World Event)} {w : World}
    (h : Run Step (World.initial logger) trace w) {li : LoaderInstance}
    (hactive : w.activeInstance = some li) (hhandle : li.runtimeInstance ≠ xrNullHandle)
    {name : Command} (hname : isDebugUtilsCommand name) (env : Environment) :
    ∃ names, creationNames trace = some names ∧
      getInstanceProcAddr env li.runtimeInstance (some name) true w =
        .ok (if "XR_EXT_debug_utils".toList ∈ names then ⟨xrSuccess, some (.trampoline name)⟩
          else ⟨xrErrorFunctionUnsupported, some .null⟩) w := by
  refine ⟨li.enabledExtensions, enabledExtensions_run h li hactive, ?_⟩
  have hnames : isGlobalCommand name = false ∧ name ≠ .getInstanceProcAddr ∧ name ≠ .destroyInstance := by
    cases name <;> simp [isDebugUtilsCommand, isGlobalCommand] at hname ⊢
  obtain ⟨hglobal, hgipa, hdestroy⟩ := hnames
  unfold getInstanceProcAddr
  rw [if_neg (by simp)]
  dsimp only
  rw [bind_of_ok (show ActiveLoaderInstance.active w = .ok w.activeInstance w from rfl), hactive,
    if_neg (by simp), if_neg (by simp [hglobal]), if_neg hhandle]
  dsimp only
  rw [if_neg (by simp [hgipa, hdestroy]), if_pos hname]
  unfold LoaderInstance.extensionIsEnabled
  simp only [List.contains_iff_mem]
  split_ifs <;> rfl

/-- An instance that was created without the extension. -/
theorem debugUtils_gated_created : ∃ trace w li, Run Step ApiLayerInterface.quietWorld trace w ∧
    w.activeInstance = some li ∧
      getInstanceProcAddr runtimeAndLayer li.runtimeInstance (some .createDebugUtilsMessengerEXT) true w =
        .ok ⟨xrErrorFunctionUnsupported, some .null⟩ w := by
  have hcreate : Step ApiLayerInterface.quietWorld
      ⟨runtimeAndLayer, .createInstance (some (infoWithNext [])) true, ⟨xrSuccess, some 7⟩⟩ _ := rfl
  have hname : isDebugUtilsCommand .createDebugUtilsMessengerEXT := rfl
  have hrun := Run.snoc .nil hcreate
  obtain ⟨names, hnames, hanswer⟩ := debugUtils_gated hrun rfl (by decide) hname runtimeAndLayer
  cases hnames
  exact ⟨_, _, _, hrun, rfl, hanswer⟩

end OpenXRSdk.LoaderCore
