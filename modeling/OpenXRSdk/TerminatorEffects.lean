import OpenXRSdk.LoaderTerminators

/-!
# Effects of the terminators

What a terminator that returns has done to the dispatch tables, the messengers and the
recorders.
-/
namespace OpenXRSdk

open StateProgram World

variable {env : Environment} {w w' : World} {reply : Reply}

namespace RuntimeInterface

theorem runtimeFunction_later (env : Environment) (inst : XrInstance) (command : Command) :
    Within Later isUndefined (runtimeFunction env inst command) := by
  refine getRuntime_within.bind fun rt => (ask_later _).bind fun reply => ?_
  split
  · exact Within.pure _
  · exact undefinedBehaviour_within

theorem addDispatchTable_eq_ok {inst : XrInstance} {u : PUnit} (h : addDispatchTable env inst w = .ok u w') :
    ∃ rt t, w.runtime = some rt ∧ w' = { w.tick with
      runtime := some { rt with
        dispatchTableMap :=
          rt.dispatchTableMap.insert inst (functionsOf env rt.getInstanceProcAddr inst t) } } := by
  obtain ⟨rt, w₁, hr, hrest⟩ := bind_eq_ok.mp h
  obtain ⟨hrt, rfl⟩ := getRuntime_eq_ok.mp hr
  obtain ⟨table, w₂, hp, hset⟩ := bind_eq_ok.mp hrest
  obtain ⟨rfl, rfl⟩ := ask_eq_ok.mp hp
  refine ⟨rt, w₁.clock, hrt, ?_⟩
  rw [← modify_eq_ok.mp hset]
  simp [World.tick, hrt]

end RuntimeInterface

/-- An instance that was created has a dispatch table, and nothing else has changed. -/
theorem termCreateInstance_cases {info : XrInstanceCreateInfo}
    (h : termCreateInstance env info w = .ok reply w') :
    xrFailed reply.result ∧ Later w w' ∨ xrSucceeded reply.result ∧ ∃ rt t c, w.runtime = some rt ∧
      w' = { w with
        clock := c
        runtime := some { rt with
          dispatchTableMap := rt.dispatchTableMap.insert (reply.handle.getD xrNullHandle)
            (RuntimeInterface.functionsOf env rt.getInstanceProcAddr
              (reply.handle.getD xrNullHandle) t) } } := by
  unfold termCreateInstance at h
  by_cases hv : xrFailed (validateInstanceCreateInfo info)
  · rw [if_pos hv] at h
    cases h
    exact Or.inl ⟨hv, refl_of Later w⟩
  rw [if_neg hv] at h
  obtain ⟨address, w₁, hf, hrest⟩ := bind_eq_ok.mp h
  obtain ⟨c, rfl⟩ := (RuntimeInterface.runtimeFunction_later env _ _).of_ok hf
  obtain ⟨answer, w₂, ha, hend⟩ := bind_eq_ok.mp hrest
  obtain ⟨-, rfl⟩ := ask_eq_ok.mp ha
  by_cases hs : xrSucceeded answer.result
  · rw [if_pos hs] at hend
    obtain ⟨_, w₃, hadd, hreply⟩ := bind_eq_ok.mp hend
    obtain ⟨rt, t, hrt, rfl⟩ := RuntimeInterface.addDispatchTable_eq_ok hadd
    cases hreply
    exact Or.inr ⟨hs, rt, t, _, hrt, rfl⟩
  · rw [if_neg hs] at hend
    cases hend
    exact Or.inl ⟨not_xrSucceeded.mp hs, _, rfl⟩

/-- The recorders of the instance are gone, and its dispatch table. -/
theorem termDestroyInstance_cases {inst : XrInstance} (hinst : inst ≠ xrNullHandle)
    (h : termDestroyInstance env inst w = .ok reply w') :
    ∃ rt c, w.runtime = some rt ∧ w' = { w with
      clock := c
      logger := w.logger.removeLogRecordersForXrInstance inst
      runtime := some { rt with dispatchTableMap := rt.dispatchTableMap.erase inst } } := by
  obtain ⟨_, w₁, hl, hrest⟩ := bind_eq_ok.mp h
  obtain rfl := modify_eq_ok.mp hl
  obtain ⟨rt, w₂, hr, hdestroy⟩ := bind_eq_ok.mp hrest
  obtain ⟨hrt, rfl⟩ := RuntimeInterface.getRuntime_eq_ok.mp hr
  obtain ⟨_, w₃, hd, hreply⟩ := bind_eq_ok.mp hdestroy
  cases hreply
  unfold RuntimeInterface.destroyInstance at hd
  rw [if_pos hinst] at hd
  obtain ⟨_, w₄, hm, hfunction⟩ := bind_eq_ok.mp hd
  obtain rfl := modify_eq_ok.mp hm
  obtain ⟨address, w₅, hf, hcall⟩ := bind_eq_ok.mp hfunction
  obtain ⟨c, rfl⟩ := (RuntimeInterface.runtimeFunction_later env _ _).of_ok hf
  obtain ⟨answer, w₆, ha, hresult⟩ := bind_eq_ok.mp hcall
  obtain ⟨-, rfl⟩ := ask_eq_ok.mp ha
  cases hresult
  dsimp only at hrt
  refine ⟨rt, c + 1, hrt, ?_⟩
  simp [World.tick, hrt]

theorem dispatchTableOf_eq_ok {table : Option DispatchTable} {found : DispatchTable} :
    dispatchTableOf table w = .ok found w' ↔ table = some found ∧ w' = w := by
  cases table with
  | none => simp [dispatchTableOf, undefinedBehaviour_eq_ok]
  | some table =>
    unfold dispatchTableOf
    rw [pure_eq_ok]
    simp [eq_comm]

theorem getDispatchTable_eq_ok {inst : XrInstance} {table : Option DispatchTable} :
    RuntimeInterface.getDispatchTable inst w = .ok table w' ↔
      ∃ rt, w.runtime = some rt ∧ table = rt.dispatchTableMap.lookup inst ∧ w' = w := by
  constructor
  · intro h
    obtain ⟨rt, w₁, hr, htable⟩ := bind_eq_ok.mp h
    obtain ⟨hrt, rfl⟩ := RuntimeInterface.getRuntime_eq_ok.mp hr
    cases htable
    exact ⟨rt, hrt, rfl, rfl⟩
  · rintro ⟨rt, hrt, rfl, rfl⟩
    exact bind_of_ok (RuntimeInterface.getRuntime_of_some hrt)

/-- The handle comes from the runtime, or from the allocator where the runtime has no such
function. -/
def AnswersMessenger (env : Environment) (table : DispatchTable) (inst : XrInstance)
    (createInfo : XrDebugUtilsMessengerCreateInfoEXT) (reply : Reply) : Prop :=
  ∃ t, table .createDebugUtilsMessengerEXT = .null ∧ reply = ⟨xrSuccess, some (env.allocateChar t)⟩ ∨
    ∃ f, table .createDebugUtilsMessengerEXT = .foreign f ∧
      reply = env.callRuntime t f (.createDebugUtilsMessengerEXT inst createInfo true)

theorem runtimeMessenger_eq_ok {table : DispatchTable} {inst : XrInstance}
    {createInfo : XrDebugUtilsMessengerCreateInfoEXT}
    (h : runtimeMessenger env table inst createInfo w = .ok reply w') :
    w' = w.tick ∧ AnswersMessenger env table inst createInfo reply := by
  unfold runtimeMessenger at h
  cases hfunction : table .createDebugUtilsMessengerEXT with
  | null =>
    rw [hfunction] at h
    obtain ⟨handle, w₁, ha, hreply⟩ := bind_eq_ok.mp h
    obtain ⟨rfl, rfl⟩ := ask_eq_ok.mp ha
    cases hreply
    exact ⟨rfl, w.clock, Or.inl ⟨hfunction, rfl⟩⟩
  | foreign f =>
    rw [hfunction] at h
    obtain ⟨rfl, rfl⟩ := ask_eq_ok.mp h
    exact ⟨rfl, w.clock, Or.inr ⟨f, hfunction, rfl⟩⟩
  | _ =>
    rw [hfunction] at h
    cases h

/-- A messenger that was created has a recorder, and is known to belong to its instance. -/
theorem termCreateDebugUtilsMessenger_cases {inst : XrInstance}
    {createInfo : XrDebugUtilsMessengerCreateInfoEXT} {messenger : Bool}
    (h : termCreateDebugUtilsMessenger env inst createInfo messenger w = .ok reply w') :
    xrFailed reply.result ∧ Later w w' ∨ xrSucceeded reply.result ∧ ∃ rt table handle c,
      w.runtime = some rt ∧ rt.dispatchTableMap.lookup inst = some table ∧
      reply.handle = some handle ∧ AnswersMessenger env table inst createInfo reply ∧
      w' = { w with
        clock := c
        logger := w.logger.addLogRecorderForXrInstance inst
          (makeDebugUtilsLoaderLogRecorder createInfo handle)
        runtime := some { rt with
          messengerToInstanceMap := rt.messengerToInstanceMap.insert handle inst } } := by
  unfold termCreateDebugUtilsMessenger at h
  cases messenger with
  | false =>
    cases h
    exact Or.inl ⟨by decide, refl_of Later w⟩
  | true =>
    obtain ⟨found, w₁, hg, hfound⟩ :=
      (bind_eq_ok (x := RuntimeInterface.getDispatchTable inst)).mp h
    obtain ⟨rt, hrt, rfl, rfl⟩ := getDispatchTable_eq_ok.mp hg
    obtain ⟨table, w₂, hd, htable⟩ := bind_eq_ok.mp hfound
    obtain ⟨hlookup, rfl⟩ := dispatchTableOf_eq_ok.mp hd
    obtain ⟨answer, w₃, ha, hend⟩ := bind_eq_ok.mp htable
    obtain ⟨rfl, hanswer⟩ := runtimeMessenger_eq_ok ha
    by_cases hs : xrSucceeded answer.result
    · rw [if_pos hs] at hend
      cases hh : answer.handle with
      | none =>
        simp only [hh] at hend
        cases hend
      | some handle =>
        simp only [hh] at hend
        cases hend
        refine Or.inr ⟨hs, rt, table, handle, w₂.clock + 1, hrt, hlookup, hh, hanswer, ?_⟩
        simp [World.tick, hrt]
    · rw [if_neg hs] at hend
      cases hend
      exact Or.inl ⟨not_xrSucceeded.mp hs, _, rfl⟩

theorem callRuntimeIfPresent_later (inst : XrInstance) (call : TermCall) :
    Within Later isUndefined (callRuntimeIfPresent env inst call) :=
  callRuntimeIfPresent_within env (fun w => ⟨w.clock + 1, rfl⟩) inst call

/-- The runtime's answer to the destruction, or success where it has no such function. -/
def AnswersDestruction (env : Environment) (table : DispatchTable)
    (messenger : XrDebugUtilsMessengerEXT) (result : XrResult) : Prop :=
  table .destroyDebugUtilsMessengerEXT = .null ∧ result = xrSuccess ∨
    ∃ t f, table .destroyDebugUtilsMessengerEXT = .foreign f ∧
      result = (env.callRuntime t f (.destroyDebugUtilsMessengerEXT messenger)).result

/-- The messenger is forgotten, whatever the runtime answers. -/
theorem termDestroyDebugUtilsMessenger_cases {messenger : XrDebugUtilsMessengerEXT}
    (hm : messenger ≠ xrNullHandle)
    (h : termDestroyDebugUtilsMessenger env messenger w = .ok reply w') :
    ∃ rt table c, w.runtime = some rt ∧
      rt.dispatchTableMap.lookup ((rt.messengerToInstanceMap.lookup messenger).getD xrNullHandle) =
        some table ∧ AnswersDestruction env table messenger reply.result ∧
      w' = { w with
        clock := c
        logger := w.logger.removeLogRecorder messenger
        runtime := some { rt with
          messengerToInstanceMap := rt.messengerToInstanceMap.erase messenger } } := by
  obtain ⟨found, w₁, hg, hrest⟩ := bind_eq_ok.mp h
  obtain ⟨rt, w₂, hr, htable⟩ := bind_eq_ok.mp hg
  obtain ⟨hrt, rfl⟩ := RuntimeInterface.getRuntime_eq_ok.mp hr
  obtain ⟨rt', hrt', rfl, rfl⟩ := getDispatchTable_eq_ok.mp htable
  cases hrt.symm.trans hrt'
  obtain ⟨_, w₃, hl, hforget⟩ := bind_eq_ok.mp hrest
  obtain rfl := modify_eq_ok.mp hl
  obtain ⟨_, w₄, hm', hfound⟩ := bind_eq_ok.mp hforget
  unfold RuntimeInterface.forgetDebugMessenger at hm'
  rw [if_pos hm] at hm'
  obtain rfl := modify_eq_ok.mp hm'
  obtain ⟨table, w₅, hd, hend⟩ := bind_eq_ok.mp hfound
  obtain ⟨hlookup, rfl⟩ := dispatchTableOf_eq_ok.mp hd
  refine ⟨rt, table, ?_⟩
  cases hfunction : table .destroyDebugUtilsMessengerEXT with
  | null =>
    rw [hfunction] at hend
    cases hend
    exact ⟨w₁.clock, hrt, hlookup, Or.inl ⟨hfunction, rfl⟩, by simp [hrt]⟩
  | foreign f =>
    rw [hfunction] at hend
    obtain ⟨answer, w₆, ha, hreply⟩ := bind_eq_ok.mp hend
    obtain ⟨rfl, rfl⟩ := ask_eq_ok.mp ha
    cases hreply
    exact ⟨w₁.clock + 1, hrt, hlookup, Or.inr ⟨w₁.clock, f, hfunction, rfl⟩,
      by simp [World.tick, hrt]⟩
  | _ =>
    rw [hfunction] at hend
    cases hend

end OpenXRSdk
