import OpenXRSdk.TerminatorEffects
import OpenXRSdk.LoaderInstance

/-!
# What comes back through the chain

What a call through the chain of layers gets as its reply, told from the answers of the layers and of
the runtime, each known by the number of its question.
-/
namespace OpenXRSdk

open StateProgram

/-- What the replies from the end of the chain depend on: the number of the next question, and what
is known of the runtime. -/
structure ChainEnd where
  clock : ℕ
  getInstanceProcAddr : ℕ
  dispatchTableMap : UnorderedMap XrInstance DispatchTable
  messengerToInstanceMap : UnorderedMap XrDebugUtilsMessengerEXT XrInstance

namespace ChainEnd

def tick (s : ChainEnd) : ChainEnd := { s with clock := s.clock + 1 }

/-- The runtime answers with this function of its own. -/
def Gives (env : Environment) (s : ChainEnd) (inst : XrInstance) (command : Command) (f : ℕ) : Prop :=
  (env.getInstanceProcAddr s.clock s.getInstanceProcAddr inst command).function = some (.foreign f)

/-- The table of an instance takes one more question. -/
def addTable (env : Environment) (inst : XrInstance) (s : ChainEnd) : ChainEnd :=
  { s.tick with
    dispatchTableMap := s.dispatchTableMap.insert inst
      (RuntimeInterface.functionsOf env s.getInstanceProcAddr inst s.clock) }

def afterCreation (env : Environment) (reply : Reply) (s : ChainEnd) : ChainEnd :=
  if xrSucceeded reply.result then s.addTable env (reply.handle.getD xrNullHandle) else s

/-- A messenger that was created is known to belong to its instance. -/
def afterMessenger (inst : XrInstance) (reply : Reply) (s : ChainEnd) : ChainEnd :=
  if xrSucceeded reply.result then
    { s with messengerToInstanceMap :=
        s.messengerToInstanceMap.insert (reply.handle.getD xrNullHandle) inst }
  else s

def forget (messenger : XrDebugUtilsMessengerEXT) (s : ChainEnd) : ChainEnd :=
  if messenger ≠ xrNullHandle then
    { s with messengerToInstanceMap := s.messengerToInstanceMap.erase messenger }
  else s

section Replies
variable (env : Environment)

/-- The handle is the runtime's, or made up where the runtime has no such function. -/
inductive AnswersMessenger (s : ChainEnd) (table : DispatchTable) (inst : XrInstance)
    (createInfo : XrDebugUtilsMessengerCreateInfoEXT) : Reply → Prop
  | absent (null : table .createDebugUtilsMessengerEXT = .null) :
      AnswersMessenger s table inst createInfo ⟨xrSuccess, some (env.allocateChar s.clock)⟩
  | runtime {f : ℕ} (function : table .createDebugUtilsMessengerEXT = .foreign f) :
      AnswersMessenger s table inst createInfo
        (env.callRuntime s.clock f (.createDebugUtilsMessengerEXT inst createInfo true))

/-- The reply is the runtime's, or success where it has no such function. -/
inductive AnswersPassedOn (s : ChainEnd) (table : DispatchTable) (call : TermCall) :
    Reply → ChainEnd → Prop
  | absent (null : table call.command = .null) : AnswersPassedOn s table call ⟨xrSuccess, none⟩ s
  | runtime {f : ℕ} (function : table call.command = .foreign f) :
      AnswersPassedOn s table call ⟨(env.callRuntime s.clock f call).result, none⟩ s.tick

/-- The reply to a call that comes to the end of the chain. -/
inductive Answers (s : ChainEnd) : TermCall → Reply → ChainEnd → Prop
  | invalidCreateInfo {info : XrInstanceCreateInfo} (invalid : xrFailed (validateInstanceCreateInfo info)) :
      Answers s (.createInstance info) ⟨validateInstanceCreateInfo info, none⟩ s
  | createInstance {info : XrInstanceCreateInfo} {f : ℕ} {reply : Reply}
      (valid : ¬ xrFailed (validateInstanceCreateInfo info))
      (function : Gives env s xrNullHandle .createInstance f)
      (answer : env.callRuntime s.tick.clock f (.createInstance info) = reply) :
      Answers s (.createInstance info) reply (s.tick.tick.afterCreation env reply)
  | destroyNull : Answers s (.destroyInstance xrNullHandle) ⟨xrSuccess, none⟩ s
  | destroyInstance {inst : XrInstance} {f : ℕ} (notNull : inst ≠ xrNullHandle)
      (function : Gives env s inst .destroyInstance f) :
      Answers s (.destroyInstance inst) ⟨xrSuccess, none⟩
        { s.tick.tick with dispatchTableMap := s.dispatchTableMap.erase inst }
  | noPointer {inst : XrInstance} {createInfo : XrDebugUtilsMessengerCreateInfoEXT} :
      Answers s (.createDebugUtilsMessengerEXT inst createInfo false) ⟨xrErrorValidationFailure, none⟩ s
  | createMessenger {inst : XrInstance} {createInfo : XrDebugUtilsMessengerCreateInfoEXT}
      {table : DispatchTable} {reply : Reply} (there : s.dispatchTableMap.lookup inst = some table)
      (answer : AnswersMessenger env s table inst createInfo reply)
      (handed : xrSucceeded reply.result → reply.handle.isSome) :
      Answers s (.createDebugUtilsMessengerEXT inst createInfo true) reply
        (s.tick.afterMessenger inst reply)
  | destroyMessenger {messenger : XrDebugUtilsMessengerEXT} {table : DispatchTable} {reply : Reply}
      {s' : ChainEnd} (there : s.dispatchTableMap.lookup
        ((s.messengerToInstanceMap.lookup messenger).getD xrNullHandle) = some table)
      (answer : AnswersPassedOn env (s.forget messenger) table (.destroyDebugUtilsMessengerEXT messenger)
        reply s') : Answers s (.destroyDebugUtilsMessengerEXT messenger) reply s'
  | submitMessage {inst : XrInstance} {severity types : UInt64} {table : DispatchTable} {reply : Reply}
      {s' : ChainEnd} (there : s.dispatchTableMap.lookup inst = some table)
      (answer : AnswersPassedOn env s table (.submitDebugUtilsMessageEXT inst severity types) reply s') :
      Answers s (.submitDebugUtilsMessageEXT inst severity types) reply s'
  | setObjectName {inst : XrInstance} {info : XrDebugUtilsObjectNameInfoEXT} {table : DispatchTable}
      {reply : Reply} {s' : ChainEnd} (there : s.dispatchTableMap.lookup inst = some table)
      (answer : AnswersPassedOn env s table (.setDebugUtilsObjectNameEXT inst info) reply s') :
      Answers s (.setDebugUtilsObjectNameEXT inst info) reply s'

/-- The reply of a function pointer. A layer may make calls of its own before it replies. -/
inductive Replies (s : ChainEnd) : Pfn → TermCall → Reply → ChainEnd → Prop
  | terminator {command : Command} {call : TermCall} {reply : Reply} {s' : ChainEnd}
      (own : command = call.command) (answers : Answers env s call reply s') :
      Replies s (.term command) call reply s'
  | layer {f : ℕ} {call : TermCall} {reply : Reply} {s' : ChainEnd}
      (ends : (env.callLayer s.clock f call).Ends (fun c v => Answers env v c) s.tick reply s') :
      Replies s (.foreign f) call reply s'

end Replies

end ChainEnd

/-- The world as the replies from the end of the chain depend on it. -/
def World.Shows (w : World) (s : ChainEnd) : Prop :=
  ∃ rt, w.runtime = some rt ∧
    s = ⟨w.clock, rt.getInstanceProcAddr, rt.dispatchTableMap, rt.messengerToInstanceMap⟩

/-! ## The terminators -/

section Terminators
variable (env : Environment)

theorem ask_realizes {α : Type} (answer : ℕ → α) :
    Realizes World.Shows (fun s a s' => a = answer s.clock ∧ s' = s.tick) (ask answer) := by
  refine .of_run _ _ ?_
  rintro w _ ⟨rt, hrt, rfl⟩
  exact ⟨w.tick, ask_run, rt, hrt, rfl⟩

theorem undefinedBehaviour_realizes {α : Type} :
    Realizes World.Shows (fun _ _ _ => False) (undefinedBehaviour : Loader α) := .throw _

theorem modifyLogger_realizes (f : LoaderLogger → LoaderLogger) :
    Realizes World.Shows (fun s _ s' => s' = s) (modifyLogger f) := by
  refine (Realizes.of_run (fun _ => PUnit.unit) id ?_).congr fun _ _ _ => and_iff_right rfl
  rintro w s ⟨rt, hrt, rfl⟩
  exact ⟨_, rfl, rt, hrt, rfl⟩

namespace RuntimeInterface

theorem getRuntime_realizes {α : Type} {rel : ChainEnd → α → ChainEnd → Prop} {x : Loader α}
    (h : Realizes World.Shows rel x) : Realizes World.Shows rel (getRuntime >>= fun _ => x) := by
  rintro w _ ⟨rt, hrt, rfl⟩
  rw [bind_of_ok (getRuntime_of_some hrt)]
  exact h w _ ⟨rt, hrt, rfl⟩

theorem modifyRuntime_realizes (f : RuntimeInterface → RuntimeInterface) (g : ChainEnd → ChainEnd)
    (h : ∀ (t : ℕ) (rt : RuntimeInterface), (⟨t, (f rt).getInstanceProcAddr, (f rt).dispatchTableMap,
      (f rt).messengerToInstanceMap⟩ : ChainEnd) =
        g ⟨t, rt.getInstanceProcAddr, rt.dispatchTableMap, rt.messengerToInstanceMap⟩) :
    Realizes World.Shows (fun s _ s' => s' = g s) (modifyRuntime f) := by
  refine (Realizes.of_run (fun _ => PUnit.unit) g ?_).congr fun _ _ _ => and_iff_right rfl
  rintro w _ ⟨rt, hrt, rfl⟩
  refine ⟨_, rfl, f rt, ?_, (h w.clock rt).symm⟩
  dsimp only
  rw [hrt]
  rfl

theorem getDispatchTable_realizes (inst : XrInstance) :
    Realizes World.Shows (fun s table s' => table = s.dispatchTableMap.lookup inst ∧ s' = s)
      (getDispatchTable inst) := by
  refine .of_run _ _ ?_
  rintro w _ ⟨rt, hrt, rfl⟩
  exact ⟨w, bind_of_ok (getRuntime_of_some hrt), rt, hrt, rfl⟩

theorem getDebugUtilsMessengerDispatchTable_realizes (messenger : XrDebugUtilsMessengerEXT) :
    Realizes World.Shows (fun s table s' => table = s.dispatchTableMap.lookup
        ((s.messengerToInstanceMap.lookup messenger).getD xrNullHandle) ∧ s' = s)
      (getDebugUtilsMessengerDispatchTable messenger) := by
  refine .of_run _ _ ?_
  rintro w _ ⟨rt, hrt, rfl⟩
  exact ⟨w, (bind_of_ok (getRuntime_of_some hrt)).trans (bind_of_ok (getRuntime_of_some hrt)), rt, hrt, rfl⟩

theorem forgetDebugMessenger_realizes (messenger : XrDebugUtilsMessengerEXT) :
    Realizes World.Shows (fun s _ s' => s' = s.forget messenger) (forgetDebugMessenger messenger) := by
  have herase := modifyRuntime_realizes
    (fun rt => { rt with messengerToInstanceMap := rt.messengerToInstanceMap.erase messenger })
    (fun s => { s with messengerToInstanceMap := s.messengerToInstanceMap.erase messenger }) fun _ _ => rfl
  refine (Realizes.ite (c := messenger ≠ xrNullHandle) herase (Realizes.pure ⟨⟩)).congr fun s _ s' => ?_
  unfold ChainEnd.forget
  split_ifs
  · exact Iff.rfl
  · exact and_iff_right rfl

theorem trackDebugMessenger_realizes (inst : XrInstance) (messenger : XrDebugUtilsMessengerEXT) :
    Realizes World.Shows (fun s _ s' => s' =
        { s with messengerToInstanceMap := s.messengerToInstanceMap.insert messenger inst })
      (trackDebugMessenger inst messenger) :=
  modifyRuntime_realizes _ (fun s => { s with
    messengerToInstanceMap := s.messengerToInstanceMap.insert messenger inst }) fun _ _ => rfl

theorem runtimeFunction_realizes (inst : XrInstance) (command : Command) :
    Realizes World.Shows (fun s f s' => s.Gives env inst command f ∧ s' = s.tick)
      (runtimeFunction env inst command) := by
  rintro w _ ⟨rt, hrt, rfl⟩
  have hshows : w.tick.Shows (ChainEnd.tick
      ⟨w.clock, rt.getInstanceProcAddr, rt.dispatchTableMap, rt.messengerToInstanceMap⟩) := ⟨rt, hrt, rfl⟩
  unfold runtimeFunction ChainEnd.Gives
  rw [bind_of_ok (getRuntime_of_some hrt), bind_of_ok ask_run]
  constructor
  · intro f w' hrun
    cases hfunction : (env.getInstanceProcAddr w.clock rt.getInstanceProcAddr inst command).function with
    | none =>
      rw [hfunction] at hrun
      cases hrun
    | some function =>
      rw [hfunction] at hrun
      cases function with
      | foreign address =>
        cases hrun
        exact ⟨_, hshows, hfunction, rfl⟩
      | _ => cases hrun
  · rintro f _ ⟨hfunction, rfl⟩
    rw [hfunction]
    exact ⟨w.tick, rfl, hshows⟩

theorem addDispatchTable_realizes (inst : XrInstance) :
    Realizes World.Shows (fun s _ s' => s' = s.addTable env inst) (addDispatchTable env inst) := by
  refine (Realizes.of_run (fun _ => PUnit.unit) (·.addTable env inst) ?_).congr
    fun _ _ _ => and_iff_right rfl
  rintro w _ ⟨rt, hrt, rfl⟩
  unfold addDispatchTable
  rw [bind_of_ok (getRuntime_of_some hrt)]
  have hruntime : w.tick.runtime.map (fun rt' : RuntimeInterface =>
      { rt' with
        dispatchTableMap := rt'.dispatchTableMap.insert inst
          (functionsOf env rt.getInstanceProcAddr inst w.clock) }) =
      some { rt with
        dispatchTableMap := rt.dispatchTableMap.insert inst
          (functionsOf env rt.getInstanceProcAddr inst w.clock) } := by
    simp [World.tick, hrt]
  exact ⟨_, bind_of_ok ask_run, _, hruntime, rfl⟩

end RuntimeInterface

theorem dispatchTableOf_realizes (table : Option DispatchTable) :
    Realizes World.Shows (fun s found s' => table = some found ∧ s' = s) (dispatchTableOf table) := by
  cases table with
  | none => exact undefinedBehaviour_realizes.congr fun _ _ _ => by simp
  | some table => exact (Realizes.pure table).congr fun _ _ _ => by simp [eq_comm]

open ChainEnd RuntimeInterface

theorem termCreateInstance_realizes (info : XrInstanceCreateInfo) :
    Realizes World.Shows (fun s => Answers env s (.createInstance info)) (termCreateInstance env info) := by
  have hcreate : Realizes World.Shows _ (RuntimeInterface.createInstance env info) :=
    (runtimeFunction_realizes env xrNullHandle .createInstance).bind fun f =>
      (ask_realizes fun t => env.callRuntime t f (.createInstance info)).bind fun reply =>
        Realizes.ite (((addDispatchTable_realizes env (reply.handle.getD xrNullHandle)).bind
          fun _ => Realizes.pure reply)) (Realizes.pure reply)
  refine ((Realizes.pure _).ite hcreate).congr fun s reply s' => ?_
  constructor
  · intro h
    by_cases hinvalid : xrFailed (validateInstanceCreateInfo info)
    · rw [if_pos hinvalid] at h
      obtain ⟨rfl, rfl⟩ := h
      exact .invalidCreateInfo hinvalid
    · rw [if_neg hinvalid] at h
      obtain ⟨f, _, ⟨hf, rfl⟩, answer, _, ⟨hanswer, rfl⟩, hend⟩ := h
      have hafter : reply = answer ∧ s' = s.tick.tick.afterCreation env answer := by
        unfold afterCreation
        split_ifs at hend ⊢
        · obtain ⟨_, _, rfl, rfl, rfl⟩ := hend
          exact ⟨rfl, rfl⟩
        · exact hend
      obtain ⟨rfl, rfl⟩ := hafter
      exact .createInstance hinvalid hf hanswer.symm
  · intro h
    cases h with
    | invalidCreateInfo invalid =>
      rw [if_pos invalid]
      exact ⟨rfl, rfl⟩
    | @createInstance _ f _ valid function answer =>
      rw [if_neg valid]
      refine ⟨f, _, ⟨function, rfl⟩, reply, _, ⟨answer.symm, rfl⟩, ?_⟩
      unfold afterCreation
      split_ifs
      · exact ⟨⟨⟩, _, rfl, rfl, rfl⟩
      · exact ⟨rfl, rfl⟩

theorem termDestroyInstance_realizes (inst : XrInstance) :
    Realizes World.Shows (fun s => Answers env s (.destroyInstance inst)) (termDestroyInstance env inst) := by
  have hdestroy : Realizes World.Shows
      (fun s result s' => result = xrSuccess ∧ (inst = xrNullHandle ∧ s' = s ∨ inst ≠ xrNullHandle ∧
        ∃ f, s.Gives env inst .destroyInstance f ∧
          s' = { s.tick.tick with dispatchTableMap := s.dispatchTableMap.erase inst }))
      (RuntimeInterface.destroyInstance env inst) := by
    have herase := modifyRuntime_realizes
      (fun rt => { rt with dispatchTableMap := rt.dispatchTableMap.erase inst })
      (fun s => { s with dispatchTableMap := s.dispatchTableMap.erase inst }) fun _ _ => rfl
    refine (Realizes.ite (herase.bind fun _ =>
      (runtimeFunction_realizes env inst .destroyInstance).bind fun f =>
        (ask_realizes fun t => env.callRuntime t f (.destroyInstance inst)).bind fun _ =>
          Realizes.pure xrSuccess) (Realizes.pure xrSuccess)).congr fun s result s' => ?_
    by_cases hnull : inst = xrNullHandle
    · simp [hnull]
    · rw [if_pos hnull]
      constructor
      · rintro ⟨_, _, rfl, f, _, ⟨hf, rfl⟩, _, _, ⟨-, rfl⟩, rfl, rfl⟩
        exact ⟨rfl, .inr ⟨hnull, f, hf, rfl⟩⟩
      · rintro ⟨rfl, ⟨h, -⟩ | ⟨-, f, hf, rfl⟩⟩
        · exact absurd h hnull
        · exact ⟨⟨⟩, _, rfl, f, _, ⟨hf, rfl⟩, _, _, ⟨rfl, rfl⟩, rfl, rfl⟩
  refine ((modifyLogger_realizes _).bind fun _ => getRuntime_realizes (hdestroy.bind fun result =>
    Realizes.pure (⟨result, none⟩ : Reply))).congr fun s reply s' => ?_
  constructor
  · rintro ⟨_, _, rfl, _, _, ⟨rfl, ⟨rfl, rfl⟩ | ⟨hnull, f, hf, rfl⟩⟩, rfl, rfl⟩
    · exact .destroyNull
    · exact .destroyInstance hnull hf
  · intro h
    cases h with
    | destroyNull => exact ⟨⟨⟩, _, rfl, _, _, ⟨rfl, .inl ⟨rfl, rfl⟩⟩, rfl, rfl⟩
    | destroyInstance notNull function =>
      exact ⟨⟨⟩, _, rfl, _, _, ⟨rfl, .inr ⟨notNull, _, function, rfl⟩⟩, rfl, rfl⟩

theorem runtimeMessenger_realizes (table : DispatchTable) (inst : XrInstance)
    (createInfo : XrDebugUtilsMessengerCreateInfoEXT) : Realizes World.Shows
    (fun s reply s' => ChainEnd.AnswersMessenger env s table inst createInfo reply ∧ s' = s.tick)
    (runtimeMessenger env table inst createInfo) := by
  unfold runtimeMessenger
  split
  · rename_i hnull
    refine ((ask_realizes env.allocateChar).bind fun handle =>
      Realizes.pure (⟨xrSuccess, some handle⟩ : Reply)).congr fun s reply s' => ?_
    constructor
    · rintro ⟨_, _, ⟨rfl, rfl⟩, rfl, rfl⟩
      exact ⟨.absent hnull, rfl⟩
    · rintro ⟨⟨-⟩ | ⟨hfunction⟩, rfl⟩
      · exact ⟨_, _, ⟨rfl, rfl⟩, rfl, rfl⟩
      · cases hnull.symm.trans hfunction
  · rename_i f hf
    refine (ask_realizes _).congr fun s reply s' => and_congr_left fun _ => ?_
    constructor
    · rintro rfl
      exact .runtime hf
    · rintro (⟨hnull⟩ | ⟨hfunction⟩)
      · cases hf.symm.trans hnull
      · cases hf.symm.trans hfunction
        rfl
  · rename_i hnull hforeign
    refine undefinedBehaviour_realizes.congr fun s reply s' => ?_
    constructor
    · exact False.elim
    · rintro ⟨⟨h⟩ | ⟨h⟩, -⟩
      · exact hnull h
      · exact hforeign _ h

/-- What is left to do with the reply of the runtime. -/
theorem keepMessenger_realizes (inst : XrInstance) (createInfo : XrDebugUtilsMessengerCreateInfoEXT)
    (reply : Reply) : Realizes World.Shows
    (fun s reply' s' => reply' = reply ∧ (xrSucceeded reply.result → reply.handle.isSome) ∧
      s' = s.afterMessenger inst reply)
    (if xrSucceeded reply.result then
      match reply.handle with
      | none => undefinedBehaviour
      | some handle => do
        modifyLogger (·.addLogRecorderForXrInstance inst
          (makeDebugUtilsLoaderLogRecorder createInfo handle))
        RuntimeInterface.trackDebugMessenger inst handle
        return reply
    else return reply) := by
  unfold ChainEnd.afterMessenger
  obtain ⟨result, handle⟩ := reply
  by_cases hs : xrSucceeded result
  · simp only [if_pos hs]
    cases handle with
    | none => exact undefinedBehaviour_realizes.congr fun s reply' s' => by simp [hs]
    | some handle =>
      refine ((modifyLogger_realizes _).bind fun _ => (trackDebugMessenger_realizes inst handle).bind
        fun _ => Realizes.pure (⟨result, some handle⟩ : Reply)).congr fun s reply' s' => ?_
      constructor
      · rintro ⟨_, _, rfl, _, _, rfl, rfl, rfl⟩
        exact ⟨rfl, fun _ => rfl, rfl⟩
      · rintro ⟨rfl, -, rfl⟩
        exact ⟨⟨⟩, _, rfl, ⟨⟩, _, rfl, rfl, rfl⟩
  · simp only [if_neg hs]
    exact (Realizes.pure _).congr fun s reply' s' => by simp [hs]

theorem termCreateDebugUtilsMessenger_realizes (inst : XrInstance)
    (createInfo : XrDebugUtilsMessengerCreateInfoEXT) (messenger : Bool) : Realizes World.Shows
    (fun s => Answers env s (.createDebugUtilsMessengerEXT inst createInfo messenger))
    (termCreateDebugUtilsMessenger env inst createInfo messenger) := by
  cases messenger with
  | false =>
    refine (Realizes.pure _).congr fun s reply s' => ⟨?_, fun h => ?_⟩
    · rintro ⟨rfl, rfl⟩
      exact .noPointer
    · cases h
      exact ⟨rfl, rfl⟩
  | true =>
    have hall := (getDispatchTable_realizes inst).bind fun found =>
      (dispatchTableOf_realizes found).bind fun table =>
        (runtimeMessenger_realizes env table inst createInfo).bind (keepMessenger_realizes inst createInfo)
    refine hall.congr fun s reply s' => ?_
    constructor
    · rintro ⟨_, _, ⟨rfl, rfl⟩, table, _, ⟨hthere, rfl⟩, _, _, ⟨hanswer, rfl⟩, rfl, hhanded, rfl⟩
      exact .createMessenger hthere hanswer hhanded
    · intro h
      cases h with
      | createMessenger there answer handed =>
        exact ⟨_, _, ⟨rfl, rfl⟩, _, _, ⟨there, rfl⟩, _, _, ⟨answer, rfl⟩, rfl, handed, rfl⟩

/-- A call that the runtime gets if it has the function. -/
theorem passedOn_realizes (table : DispatchTable) (call : TermCall) : Realizes World.Shows
    (fun s => AnswersPassedOn env s table call)
    (match table call.command with
    | .null => return ⟨xrSuccess, none⟩
    | .foreign f => do
      let reply ← ask fun t => env.callRuntime t f call
      return ⟨reply.result, none⟩
    | _ => undefinedBehaviour) := by
  split
  · rename_i hnull
    refine (Realizes.pure (⟨xrSuccess, none⟩ : Reply)).congr fun s reply s' => ?_
    constructor
    · rintro ⟨rfl, rfl⟩
      exact .absent hnull
    · rintro (⟨-⟩ | ⟨hfunction⟩)
      · exact ⟨rfl, rfl⟩
      · cases hnull.symm.trans hfunction
  · rename_i f hf
    refine ((ask_realizes fun t => env.callRuntime t f call).bind fun reply =>
      Realizes.pure (⟨reply.result, none⟩ : Reply)).congr fun s reply s' => ?_
    constructor
    · rintro ⟨_, _, ⟨rfl, rfl⟩, rfl, rfl⟩
      exact .runtime hf
    · rintro (⟨hnull⟩ | ⟨hfunction⟩)
      · cases hf.symm.trans hnull
      · cases hf.symm.trans hfunction
        exact ⟨_, _, ⟨rfl, rfl⟩, rfl, rfl⟩
  · rename_i hnull hforeign
    refine undefinedBehaviour_realizes.congr fun s reply s' => ⟨False.elim, ?_⟩
    rintro (⟨h⟩ | ⟨h⟩)
    · exact hnull h
    · exact hforeign _ h

theorem callRuntimeIfPresent_realizes (inst : XrInstance) (call : TermCall) : Realizes World.Shows
    (fun s reply s' => ∃ table, s.dispatchTableMap.lookup inst = some table ∧
      AnswersPassedOn env s table call reply s') (callRuntimeIfPresent env inst call) := by
  refine ((getDispatchTable_realizes inst).bind fun found => (dispatchTableOf_realizes found).bind
    fun table => passedOn_realizes env table call).congr fun s reply s' => ?_
  constructor
  · rintro ⟨_, _, ⟨rfl, rfl⟩, table, _, ⟨hthere, rfl⟩, hanswer⟩
    exact ⟨table, hthere, hanswer⟩
  · rintro ⟨table, hthere, hanswer⟩
    exact ⟨_, _, ⟨rfl, rfl⟩, table, _, ⟨hthere, rfl⟩, hanswer⟩

theorem termDestroyDebugUtilsMessenger_realizes (messenger : XrDebugUtilsMessengerEXT) :
    Realizes World.Shows (fun s => Answers env s (.destroyDebugUtilsMessengerEXT messenger))
      (termDestroyDebugUtilsMessenger env messenger) := by
  refine ((getDebugUtilsMessengerDispatchTable_realizes messenger).bind fun found =>
    (modifyLogger_realizes _).bind fun _ => (forgetDebugMessenger_realizes messenger).bind fun _ =>
      (dispatchTableOf_realizes found).bind fun table =>
        passedOn_realizes env table (.destroyDebugUtilsMessengerEXT messenger)).congr fun s reply s' => ?_
  constructor
  · rintro ⟨_, _, ⟨rfl, rfl⟩, _, _, rfl, _, _, rfl, table, _, ⟨hthere, rfl⟩, hanswer⟩
    exact .destroyMessenger hthere hanswer
  · intro h
    cases h with
    | destroyMessenger there answer =>
      exact ⟨_, _, ⟨rfl, rfl⟩, ⟨⟩, _, rfl, ⟨⟩, _, rfl, _, _, ⟨there, rfl⟩, answer⟩

/-- The terminators give the replies that the answers of the runtime allow, and no others. -/
theorem terminate_realizes (call : TermCall) :
    Realizes World.Shows (fun s => Answers env s call) (terminate env call) := by
  cases call with
  | createInstance info => exact termCreateInstance_realizes env info
  | destroyInstance inst => exact termDestroyInstance_realizes env inst
  | createDebugUtilsMessengerEXT inst info messenger =>
    exact termCreateDebugUtilsMessenger_realizes env inst info messenger
  | destroyDebugUtilsMessengerEXT messenger => exact termDestroyDebugUtilsMessenger_realizes env messenger
  | submitDebugUtilsMessageEXT inst severity types =>
    refine (callRuntimeIfPresent_realizes env inst _).congr fun s reply s' => ⟨?_, fun h => ?_⟩
    · rintro ⟨table, hthere, hanswer⟩
      exact .submitMessage hthere hanswer
    · cases h with
      | submitMessage there answer => exact ⟨_, there, answer⟩
  | setDebugUtilsObjectNameEXT inst info =>
    refine ((callRuntimeIfPresent_realizes env inst _).bind fun reply =>
      (modifyLogger_realizes _).bind fun _ => Realizes.pure reply).congr fun s reply s' => ⟨?_, fun h => ?_⟩
    · rintro ⟨_, _, ⟨table, hthere, hanswer⟩, _, _, rfl, rfl, rfl⟩
      exact .setObjectName hthere hanswer
    · cases h with
      | setObjectName there answer => exact ⟨_, _, ⟨_, there, answer⟩, ⟨⟩, _, rfl, rfl, rfl⟩

/-- A function pointer gives the replies that the answers of the layers and the runtime allow. -/
theorem callFunction_realizes (function : Pfn) (call : TermCall) :
    Realizes World.Shows (fun s => Replies env s function call) (callFunction env function call) := by
  unfold callFunction
  split
  · rename_i command
    by_cases hcommand : command = call.command
    · simp only [if_pos hcommand]
      refine (terminate_realizes env call).congr fun s reply s' => ⟨.terminator hcommand, fun h => ?_⟩
      cases h with
      | terminator own answers => exact answers
    · simp only [if_neg hcommand]
      refine undefinedBehaviour_realizes.congr fun s reply s' => ⟨False.elim, fun h => ?_⟩
      cases h with
      | terminator own => exact hcommand own
  · rename_i f
    refine ((ask_realizes fun t => env.callLayer t f call).bind fun tree =>
      tree.run_realizes (terminate_realizes env)).congr fun s reply s' => ⟨?_, fun h => ?_⟩
    · rintro ⟨_, _, ⟨rfl, rfl⟩, hends⟩
      exact .layer hends
    · cases h with
      | layer ends => exact ⟨_, _, ⟨rfl, rfl⟩, ends⟩
  · rename_i hterm hforeign
    refine undefinedBehaviour_realizes.congr fun s reply s' => ⟨False.elim, fun h => ?_⟩
    cases h with
    | terminator => exact hterm _ rfl
    | layer => exact hforeign _ rfl

end Terminators

end OpenXRSdk
