import OpenXRSdk.DebugData

/-!
# Handles of other instances

xrGetInstanceProcAddr refuses a handle that is not the active instance's. xrDestroyInstance
destroys the active instance whatever handle it is given.
-/
namespace OpenXRSdk.LoaderCore

open StateProgram TransitionSystem

/-- The call fails with XR_ERROR_HANDLE_INVALID, and the active instance, the runtime and the
recorders are as they were. -/
def RefusesHandle (env : Environment) (inst : XrInstance) (w : World) : Prop :=
  ∃ w', destroyInstance env inst w = .ok xrErrorHandleInvalid w' ∧
    w'.activeInstance = w.activeInstance ∧ w'.runtime = w.runtime ∧
    w'.logger.recorders = w.logger.recorders ∧
    w'.logger.recordersByInstance = w.logger.recordersByInstance

/-- With an active instance, a call that returns has destroyed it and unloaded the runtime. -/
theorem destroyInstance_of_active {env : Environment} {inst : XrInstance} {w w' : World}
    {loaderInstance : LoaderInstance} {result : XrResult}
    (hactive : w.activeInstance = some loaderInstance) (hinst : inst ≠ xrNullHandle)
    (h : destroyInstance env inst w = .ok result w') :
    result = xrSuccess ∧ w'.activeInstance = none ∧ w'.runtime = none := by
  rcases destroyInstance_cases h with
    ⟨-, -, hnone⟩ | ⟨rfl, -, -, -, -, w₂, l, -, -, -, rfl, -⟩
  · rw [hactive] at hnone
    exact absurd hnone (by simp [hinst])
  · exact ⟨rfl, rfl, rfl⟩

theorem getInstanceProcAddr_of_foreign {env : Environment} {inst : XrInstance} {w : World}
    {loaderInstance : LoaderInstance} (hactive : w.activeInstance = some loaderInstance)
    (hinst : inst ≠ xrNullHandle) (hforeign : inst ≠ loaderInstance.runtimeInstance) (name : Command) :
    getInstanceProcAddr env inst (some name) true w = .ok ⟨xrErrorHandleInvalid, some .null⟩ w := by
  unfold getInstanceProcAddr
  have hactive' : ActiveLoaderInstance.active w = .ok (some loaderInstance) w := by
    unfold ActiveLoaderInstance.active
    rw [bind_of_ok get_run, hactive]
    rfl
  have hmismatch : inst ≠ xrNullHandle ∧
      (some loaderInstance).map (·.runtimeInstance) ≠ some inst :=
    ⟨hinst, fun h => hforeign (Option.some.inj h).symm⟩
  dsimp only [Bool.not_true, Bool.false_eq_true, if_false]
  rw [if_neg (by decide), bind_of_ok hactive', if_pos hmismatch]
  rfl

/-- A foreign handle is never refused by xrDestroyInstance, though xrGetInstanceProcAddr refuses
it in the same state. -/
theorem foreignHandle_never_refused {w : World} {loaderInstance : LoaderInstance} {env : Environment}
    {inst : XrInstance} (hactive : w.activeInstance = some loaderInstance)
    (hinst : inst ≠ xrNullHandle) (hforeign : inst ≠ loaderInstance.runtimeInstance) :
    ¬ RefusesHandle env inst w ∧
      (∀ result w', destroyInstance env inst w = .ok result w' →
        result = xrSuccess ∧ w'.activeInstance = none ∧ w'.runtime = none) ∧
      ∀ name, getInstanceProcAddr env inst (some name) true w =
        .ok ⟨xrErrorHandleInvalid, some .null⟩ w := by
  refine ⟨?_, fun result w' h => destroyInstance_of_active hactive hinst h,
    getInstanceProcAddr_of_foreign hactive hinst hforeign⟩
  rintro ⟨w', h, -⟩
  exact absurd (destroyInstance_of_active hactive hinst h).1 (by decide)

theorem foreignHandle_never_refused_nine : ∃ trace w loaderInstance,
    Run Step (World.initial (LoaderLogger.new false false [])) trace w ∧
      w.activeInstance = some loaderInstance ∧ loaderInstance.runtimeInstance = 7 ∧
      ¬ RefusesHandle answeringRuntime 9 w := by
  have hnil : Run Step (World.initial (LoaderLogger.new false false [])) [] _ := .nil
  have hrun := hnil.snoc (l := creating) (step_iff.mpr ⟨by decide +kernel, rfl⟩)
  have hcreated : (worldAfter creating.env creating.call
      (World.initial (LoaderLogger.new false false []))).activeInstance.map (·.runtimeInstance) =
        some 7 := by decide +kernel
  obtain ⟨loaderInstance, hactive, hinst⟩ := Option.map_eq_some_iff.mp hcreated
  exact ⟨_, _, loaderInstance, hrun, hactive, hinst,
    (foreignHandle_never_refused hactive (by decide) (by rw [hinst]; decide)).1⟩

/-- The instance 7 is destroyed by its user's call for the instance 9. -/
theorem foreignHandle_destroys : ∃ trace w w',
    Run Step (World.initial (LoaderLogger.new false false [])) trace w ∧
      w.activeInstance.map (·.runtimeInstance) = some 7 ∧
      Step w (succeeding (.destroyInstance 9)) w' ∧ w'.activeInstance.isNone ∧ w'.runtime.isNone := by
  have hnil : Run Step (World.initial (LoaderLogger.new false false [])) [] _ := .nil
  have hrun := hnil.snoc (l := creating) (step_iff.mpr ⟨by decide +kernel, rfl⟩)
  exact ⟨_, _, _, hrun, by decide +kernel, step_iff.mpr ⟨by decide +kernel, rfl⟩, by decide +kernel,
    by decide +kernel⟩

end OpenXRSdk.LoaderCore
