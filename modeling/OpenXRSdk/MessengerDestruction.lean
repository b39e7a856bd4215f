import OpenXRSdk.DebugMessengers

/-!
# The destruction of a messenger

The table of the messenger's instance is used without a look whether there is one, and the
messenger is forgotten before the runtime is asked to destroy it.
-/
namespace OpenXRSdk

open StateProgram World TransitionSystem

/-- The table through which a messenger is destroyed; an unknown one has that of the null instance. -/
def World.messengerTable (w : World) (m : XrDebugUtilsMessengerEXT) : Option DispatchTable :=
  w.runtime.bind fun rt =>
    rt.dispatchTableMap.lookup ((rt.messengerToInstanceMap.lookup m).getD xrNullHandle)

def World.forgetting (w : World) (m : XrDebugUtilsMessengerEXT) : World :=
  { w with
    logger := w.logger.removeLogRecorder m
    runtime := w.runtime.map fun rt =>
      { rt with messengerToInstanceMap := rt.messengerToInstanceMap.erase m } }

/-- What the runtime is asked once the messenger is forgotten. -/
def runtimeDestroy (env : Environment) (m : XrDebugUtilsMessengerEXT) (table : DispatchTable) :
    Loader Reply :=
  match table .destroyDebugUtilsMessengerEXT with
  | .null => return ⟨xrSuccess, none⟩
  | .foreign f => do
    let reply ← ask fun t => env.callRuntime t f (.destroyDebugUtilsMessengerEXT m)
    return ⟨reply.result, none⟩
  | _ => undefinedBehaviour

/-- A messenger that is to be destroyed later on is where it was. -/
structure World.KeepsMessenger (m : XrDebugUtilsMessengerEXT) (w w' : World) : Prop where
  recorder : w'.logger.recorders.filter (·.uniqueId = m) = w.logger.recorders.filter (·.uniqueId = m)
  entry : w'.messengerInstance m = w.messengerInstance m
  reached : w'.messengerTable m = w.messengerTable m

/-- The terminator returns, and a failure leaves the messenger as it was. -/
def DestroysSafely (env : Environment) (w : World) (m : XrDebugUtilsMessengerEXT) : Prop :=
  ∃ reply w', termDestroyDebugUtilsMessenger env m w = .ok reply w' ∧
    (xrFailed reply.result → w.KeepsMessenger m w')

/-- The runtime has no function to destroy the messenger, or that function does not fail. -/
def RuntimeDestroys (env : Environment) (t : ℕ) (m : XrDebugUtilsMessengerEXT)
    (table : DispatchTable) : Prop :=
  table .destroyDebugUtilsMessengerEXT = .null ∨
    ∃ f, table .destroyDebugUtilsMessengerEXT = .foreign f ∧
      xrSucceeded (env.callRuntime t f (.destroyDebugUtilsMessengerEXT m)).result

/-- There is nothing to forget about the messenger. -/
def World.Unrecorded (w : World) (m : XrDebugUtilsMessengerEXT) : Prop :=
  (∀ r ∈ w.logger.recorders, r.uniqueId ≠ m) ∧ w.messengerInstance m = none

/-- There is a table for the messenger, and the runtime does not fail on one that is recorded. -/
def Destroyable (env : Environment) (w : World) (m : XrDebugUtilsMessengerEXT) : Prop :=
  ∃ table, w.messengerTable m = some table ∧
    (RuntimeDestroys env w.clock m table ∨
      w.Unrecorded m ∧ ∃ f, table .destroyDebugUtilsMessengerEXT = .foreign f)

section Destruction
variable {env : Environment} {w w' : World} {m : XrDebugUtilsMessengerEXT} {table : DispatchTable}

/-- Once the messenger is forgotten, only the runtime is left to ask. -/
theorem termDestroy_run (hm : m ≠ xrNullHandle) {rt : RuntimeInterface} (hrt : w.runtime = some rt) :
    termDestroyDebugUtilsMessenger env m w =
      (dispatchTableOf (w.messengerTable m) >>= runtimeDestroy env m) (w.forgetting m) := by
  have hget : RuntimeInterface.getRuntime w = .ok rt w :=
    RuntimeInterface.getRuntime_eq_ok.mpr ⟨hrt, rfl⟩
  have htable : RuntimeInterface.getDebugUtilsMessengerDispatchTable m w =
      .ok (w.messengerTable m) w := by
    unfold RuntimeInterface.getDebugUtilsMessengerDispatchTable
    rw [bind_of_ok hget, World.messengerTable, hrt]
    exact getDispatchTable_eq_ok.mpr ⟨rt, hrt, rfl, rfl⟩
  unfold termDestroyDebugUtilsMessenger
  rw [bind_of_ok htable]
  unfold RuntimeInterface.forgetDebugMessenger
  rw [if_pos hm]
  rfl

/-- Without a table, none is left out: the program ends there. -/
theorem termDestroy_of_missing (hm : m ≠ xrNullHandle) (h : w.messengerTable m = none) :
    ∃ w', termDestroyDebugUtilsMessenger env m w = .error .undefinedBehaviour w' := by
  cases hrt : w.runtime with
  | none =>
    have hget : RuntimeInterface.getDebugUtilsMessengerDispatchTable m w =
        .error .undefinedBehaviour w := by
      refine bind_eq_error.mpr (Or.inl (bind_eq_error.mpr (Or.inr ⟨w, w, rfl, ?_⟩)))
      rw [hrt]
      rfl
    exact ⟨w, bind_eq_error.mpr (Or.inl hget)⟩
  | some rt =>
    refine ⟨w.forgetting m, ?_⟩
    rw [termDestroy_run hm hrt, h]
    rfl

theorem termDestroy_of_table (hm : m ≠ xrNullHandle) (h : w.messengerTable m = some table) :
    termDestroyDebugUtilsMessenger env m w = runtimeDestroy env m table (w.forgetting m) := by
  obtain ⟨rt, hrt, -⟩ := Option.bind_eq_some_iff.mp h
  rw [termDestroy_run hm hrt, h]
  rfl

/-- The terminator succeeds where the runtime does. -/
theorem termDestroy_succeeds {reply : Reply} (hm : m ≠ xrNullHandle)
    (hdestroys : ∀ table ∈ w.messengerTable m, RuntimeDestroys env w.clock m table)
    (h : termDestroyDebugUtilsMessenger env m w = .ok reply w') : xrSucceeded reply.result := by
  cases htable : w.messengerTable m with
  | none =>
    obtain ⟨w₁, hrun⟩ := @termDestroy_of_missing env w m hm htable
    cases h.symm.trans hrun
  | some table =>
    rw [termDestroy_of_table hm htable, runtimeDestroy] at h
    rcases hdestroys table htable with hnull | ⟨f, hforeign, hs⟩
    · rw [hnull] at h
      cases h
      decide
    · rw [hforeign] at h
      cases h
      exact hs

/-- Nothing is left of a messenger that is forgotten. -/
theorem unrecorded_forgetting (w : World) (m : XrDebugUtilsMessengerEXT) :
    (w.forgetting m).Unrecorded m := by
  constructor
  · intro r hr
    exact of_decide_eq_true (List.mem_filter.mp hr).2
  · unfold World.messengerInstance World.forgetting
    cases w.runtime <;> simp

theorem recorder_of_unrecorded (h : w.Unrecorded m) :
    w.logger.recorders.filter (·.uniqueId = m) = [] :=
  List.filter_eq_nil_iff.mpr fun r hr => by simpa using h.1 r hr

/-- Where there was nothing to forget, nothing is forgotten. -/
theorem keepsMessenger_forgetting_iff :
    w.KeepsMessenger m (w.forgetting m) ↔ w.Unrecorded m := by
  have hforgotten := unrecorded_forgetting w m
  constructor
  · rintro ⟨hrecorder, hentry, -⟩
    rw [recorder_of_unrecorded hforgotten, eq_comm, List.filter_eq_nil_iff] at hrecorder
    exact ⟨fun r hr => by simpa using hrecorder r hr, hentry.symm.trans hforgotten.2⟩
  · intro h
    refine ⟨?_, hforgotten.2.trans h.2.symm, ?_⟩
    · rw [recorder_of_unrecorded hforgotten, recorder_of_unrecorded h]
    · have hentry := h.2
      unfold World.messengerInstance at hentry
      unfold World.messengerTable World.forgetting
      cases hrt : w.runtime with
      | none => rfl
      | some rt =>
        rw [hrt, Option.bind_some] at hentry
        exact congrArg (fun found : Option XrInstance =>
          rt.dispatchTableMap.lookup (found.getD xrNullHandle))
          ((AList.lookup_erase m _).trans hentry.symm)

/-- The clock is of no importance. -/
theorem KeepsMessenger.tick_iff : w.KeepsMessenger m w'.tick ↔ w.KeepsMessenger m w' :=
  ⟨fun h => ⟨h.recorder, h.entry, h.reached⟩, fun h => ⟨h.recorder, h.entry, h.reached⟩⟩

theorem destroysSafely_iff (env : Environment) (w : World) (hm : m ≠ xrNullHandle) :
    DestroysSafely env w m ↔ Destroyable env w m := by
  unfold DestroysSafely Destroyable
  cases htable : w.messengerTable m with
  | none =>
    obtain ⟨w₁, hrun⟩ := @termDestroy_of_missing env w m hm htable
    simp [hrun]
  | some table =>
    rw [termDestroy_of_table hm htable]
    simp only [Option.some.injEq, exists_eq_left', RuntimeDestroys]
    unfold runtimeDestroy
    cases hfunction : table .destroyDebugUtilsMessengerEXT with
    | null =>
      refine iff_of_true ⟨_, _, rfl, fun hf => absurd hf (by decide)⟩ (Or.inl (Or.inl rfl))
    | foreign f =>
      have hkeeps : w.KeepsMessenger m (w.forgetting m).tick ↔ w.Unrecorded m :=
        KeepsMessenger.tick_iff.trans keepsMessenger_forgetting_iff
      by_cases hs : xrSucceeded (env.callRuntime w.clock f (.destroyDebugUtilsMessengerEXT m)).result
      · exact iff_of_true ⟨_, _, rfl, fun hf => absurd hs (not_xrSucceeded.mpr hf)⟩
          (Or.inl (Or.inr ⟨f, rfl, hs⟩))
      · constructor
        · rintro ⟨reply, w₁, hrun, hfailed⟩
          cases hrun
          exact Or.inr ⟨hkeeps.mp (hfailed (not_xrSucceeded.mp hs)), f, rfl⟩
        · rintro ((hnull | ⟨g, ⟨⟩, hg⟩) | ⟨hunrecorded, -⟩)
          · cases hnull
          · exact absurd hg hs
          · exact ⟨_, _, rfl, fun _ => hkeeps.mpr hunrecorded⟩
    | _ =>
      refine iff_of_false ?_ ?_
      · rintro ⟨reply, w₁, hrun, -⟩
        cases hrun
      · rintro ((hnull | ⟨g, hforeign, -⟩) | ⟨-, g, hforeign⟩)
        · cases hnull
        · cases hforeign
        · cases hforeign

end Destruction

/-! ## Whole runs -/

structure TermEvent where
  env : Environment
  call : TermCall
  reply : Reply

/-- Those that are alive after a terminator has returned. -/
def Messengers.after (live : Messengers) (reply : Reply) : TermCall → Messengers
  | .createDebugUtilsMessengerEXT inst _ _ =>
    match reply.handle with
    | none => live
    | some m => if xrSucceeded reply.result then Function.update live m (some inst) else live
  | .destroyDebugUtilsMessengerEXT m =>
    if xrSucceeded reply.result then Function.update live m none else live
  | .destroyInstance inst => fun m => if live m = some inst then none else live m
  | _ => live

/-- A messenger that could not be created is not alive. -/
theorem Messengers.after_of_failed (live : Messengers) {reply : Reply} (h : xrFailed reply.result)
    {inst : XrInstance} {info : XrDebugUtilsMessengerCreateInfoEXT} {pointer : Bool} :
    live.after reply (.createDebugUtilsMessengerEXT inst info pointer) = live := by
  unfold Messengers.after
  cases reply.handle with
  | none => rfl
  | some m => exact if_neg (not_xrSucceeded.mpr h)

/-- A terminator is called, by whichever layer; the runtime is loaded or unloaded, and with it
all messengers end; or the loader does anything else. -/
inductive MessengerStep : LoaderCore.Tracked → Option TermEvent → LoaderCore.Tracked → Prop
  | terminated {env : Environment} {call : TermCall} {reply : Reply} {w w' : World}
      {live : Messengers} (called : terminate env call w = .ok reply w') :
    MessengerStep ⟨w, live⟩ (some ⟨env, call, reply⟩) ⟨w', live.after reply call⟩
  | reloaded {w w' : World} {live : Messengers} : MessengerStep ⟨w, live⟩ none ⟨w', fun _ => none⟩
  | other {w w' : World} {live : Messengers} (runtime : w'.runtime = w.runtime) :
    MessengerStep ⟨w, live⟩ none ⟨w', live⟩

/-- A handle that is to be destroyed is not null, and the runtime does not refuse to. -/
def NotRefused (x : Transition LoaderCore.Tracked (Option TermEvent)) : Prop :=
  ∀ e ∈ x.label,
    match e.call with
    | .destroyInstance inst => inst ≠ xrNullHandle
    | .destroyDebugUtilsMessengerEXT m => m ≠ xrNullHandle ∧
        ∀ table ∈ x.before.world.messengerTable m,
          RuntimeDestroys e.env x.before.world.clock m table
    | _ => True

/-- The runtime knows the messengers that are alive and has tables for their instances. -/
def Served (live : Messengers) (runtime : Option RuntimeInterface) : Prop :=
  ∀ m inst, live m = some inst → ∃ rt ∈ runtime,
    rt.messengerToInstanceMap.lookup m = some inst ∧ inst ∈ rt.dispatchTableMap

section Runs
variable {env : Environment} {w w' : World} {reply : Reply} {live : Messengers}
  {rt : RuntimeInterface}

theorem Served.insertTable (h : Served live (some rt)) (inst : XrInstance) (table : DispatchTable) :
    Served live (some { rt with dispatchTableMap := rt.dispatchTableMap.insert inst table }) := by
  intro m i hlive
  obtain ⟨_, ⟨⟩, hentry, htable⟩ := h m i hlive
  exact ⟨_, rfl, hentry, (AList.mem_insert _).mpr (Or.inr htable)⟩

theorem Served.eraseTable (h : Served live (some rt)) (inst : XrInstance) :
    Served (fun m => if live m = some inst then none else live m)
      (some { rt with dispatchTableMap := rt.dispatchTableMap.erase inst }) := by
  intro m i hlive
  dsimp only at hlive
  split_ifs at hlive with hinst
  obtain ⟨_, ⟨⟩, hentry, htable⟩ := h m i hlive
  have hne : i ≠ inst := by
    rintro rfl
    exact hinst hlive
  exact ⟨_, rfl, hentry, AList.mem_erase.mpr ⟨hne, htable⟩⟩

theorem Served.insertMessenger (h : Served live (some rt)) {inst : XrInstance}
    (htable : inst ∈ rt.dispatchTableMap) (m : XrDebugUtilsMessengerEXT) :
    Served (Function.update live m (some inst))
      (some { rt with messengerToInstanceMap := rt.messengerToInstanceMap.insert m inst }) := by
  intro x i hlive
  by_cases hx : x = m
  · subst hx
    rw [Function.update_self] at hlive
    cases hlive
    exact ⟨_, rfl, AList.lookup_insert _, htable⟩
  · rw [Function.update_of_ne hx] at hlive
    obtain ⟨_, ⟨⟩, hentry, hi⟩ := h x i hlive
    exact ⟨_, rfl, (AList.lookup_insert_ne hx).trans hentry, hi⟩

theorem Served.eraseMessenger (h : Served live (some rt)) (m : XrDebugUtilsMessengerEXT) :
    Served (Function.update live m none)
      (some { rt with messengerToInstanceMap := rt.messengerToInstanceMap.erase m }) := by
  intro x i hlive
  by_cases hx : x = m
  · rw [hx, Function.update_self] at hlive
    cases hlive
  · rw [Function.update_of_ne hx] at hlive
    obtain ⟨_, ⟨⟩, hentry, hi⟩ := h x i hlive
    exact ⟨_, rfl, (AList.lookup_erase_ne hx).trans hentry, hi⟩

/-- What a terminator does to the messengers. -/
theorem served_terminate {call : TermCall} (h : Served live w.runtime)
    (hkept : NotRefused ⟨⟨w, live⟩, some ⟨env, call, reply⟩, ⟨w', live.after reply call⟩⟩)
    (hcall : terminate env call w = .ok reply w') : Served (live.after reply call) w'.runtime := by
  have hevent := hkept _ rfl
  have hlater {w₁ : World} (hl : Later w w₁) : Served live w₁.runtime := by
    obtain ⟨c, rfl⟩ := hl
    exact h
  cases call with
  | createInstance info =>
    rcases termCreateInstance_cases hcall with ⟨-, hl⟩ | ⟨-, rt, t, c, hrt, rfl⟩
    · exact hlater hl
    · exact (hrt ▸ h).insertTable _ _
  | destroyInstance inst =>
    obtain ⟨rt, c, hrt, rfl⟩ := termDestroyInstance_cases hevent hcall
    exact (hrt ▸ h).eraseTable inst
  | createDebugUtilsMessengerEXT inst info pointer =>
    rcases termCreateDebugUtilsMessenger_cases hcall with
      ⟨hf, hl⟩ | ⟨hs, rt, table, m, c, hrt, htable, hm, -, rfl⟩
    · rw [live.after_of_failed hf]
      exact hlater hl
    · simp only [Messengers.after, hm, if_pos hs]
      exact (hrt ▸ h).insertMessenger (AList.lookup_isSome.mp (by rw [htable]; rfl)) m
  | destroyDebugUtilsMessengerEXT m =>
    obtain ⟨rt, table, c, hrt, -, -, rfl⟩ := termDestroyDebugUtilsMessenger_cases hevent.1 hcall
    have hs : xrSucceeded reply.result := termDestroy_succeeds hevent.1 hevent.2 hcall
    simp only [Messengers.after, if_pos hs]
    exact (hrt ▸ h).eraseMessenger m
  | submitDebugUtilsMessageEXT inst severity types =>
    exact hlater ((callRuntimeIfPresent_later inst _).of_ok hcall)
  | setDebugUtilsObjectNameEXT inst info =>
    obtain ⟨answer, w₁, ha, hend⟩ := bind_eq_ok.mp hcall
    obtain ⟨_, w₂, hm, hreply⟩ := bind_eq_ok.mp hend
    obtain rfl := modify_eq_ok.mp hm
    cases hreply
    have hserved : Served live w₁.runtime := hlater ((callRuntimeIfPresent_later inst _).of_ok ha)
    exact hserved

theorem served_of_run {logger : LoaderLogger}
    {trace : List (Transition LoaderCore.Tracked (Option TermEvent))} {s : LoaderCore.Tracked}
    (h : Run MessengerStep ⟨World.initial logger, fun _ => none⟩ trace s)
    (hsteps : ∀ x ∈ trace, NotRefused x) : Served s.live s.world.runtime := by
  refine h.invariant_of_steps (I := fun s => Served s.live s.world.runtime) ?_ hsteps ?_
  · intro m inst hlive
    cases hlive
  · rintro _ _ _ hs hkept (called | _ | runtime)
    · exact served_terminate hs hkept called
    · intro m inst hlive
      cases hlive
    · exact runtime ▸ hs

end Runs

/-- In every state reached, a messenger that is alive has its table and is destroyed safely, unless
the runtime refuses; any other handle is destroyed safely where there happens to be a table for it. -/
theorem destroysSafely_of_run {logger : LoaderLogger}
    {trace : List (Transition LoaderCore.Tracked (Option TermEvent))} {s : LoaderCore.Tracked}
    (h : Run MessengerStep ⟨World.initial logger, fun _ => none⟩ trace s)
    (hsteps : ∀ x ∈ trace, NotRefused x) (env : Environment) {m : XrDebugUtilsMessengerEXT}
    (hm : m ≠ xrNullHandle) :
    (DestroysSafely env s.world m ↔ Destroyable env s.world m) ∧
      ∀ inst, s.live m = some inst → ∃ table, s.world.messengerTable m = some table ∧
        (RuntimeDestroys env s.world.clock m table → DestroysSafely env s.world m) := by
  refine ⟨destroysSafely_iff env s.world hm, fun inst hlive => ?_⟩
  obtain ⟨rt, hrt, hentry, hmem⟩ := served_of_run h hsteps m inst hlive
  obtain ⟨table, htable⟩ := Option.isSome_iff_exists.mp (AList.lookup_isSome.mpr hmem)
  have hfound : s.world.messengerTable m = some table := by
    unfold World.messengerTable
    rw [Option.mem_def.mp hrt, Option.bind_some, hentry]
    exact htable
  exact ⟨table, hfound, fun hdestroys =>
    (destroysSafely_iff env s.world hm).mpr ⟨table, hfound, Or.inl hdestroys⟩⟩

def runtimeWithoutDebugUtils : Environment :=
  { LoaderCore.runtimeAnswering fun _ => ⟨xrSuccess, some 7⟩ with
    getInstanceProcAddr := fun _ _ _ command =>
      match command with
      | .createInstance => ⟨xrSuccess, some (.foreign 3)⟩
      | _ => ⟨xrErrorFunctionUnsupported, none⟩ }

theorem destroysSafely_created : ∃ w : World, (w.messengerTable 4).isSome ∧
    DestroysSafely runtimeWithoutDebugUtils w 4 := by
  have hloaded := Run.snoc .nil (@MessengerStep.reloaded
    (World.initial (LoaderLogger.new false false []))
    { World.initial (LoaderLogger.new false false []) with runtime := some ⟨0, 1, ∅, ∅, []⟩ }
    (fun _ => none))
  have hcreated := hloaded.snoc (@MessengerStep.terminated runtimeWithoutDebugUtils
    (.createInstance (LoaderCore.infoWithNext [])) ⟨xrSuccess, some 7⟩ _ _ _ rfl)
  have hrun := hcreated.snoc (@MessengerStep.terminated runtimeWithoutDebugUtils
    (.createDebugUtilsMessengerEXT 7 ⟨0, 0⟩ true) ⟨xrSuccess, some 4⟩ _ _ _ rfl)
  obtain ⟨-, hsafe⟩ := destroysSafely_of_run hrun (fun x hx => by
    simp only [List.nil_append, List.cons_append, List.mem_cons, List.not_mem_nil, or_false] at hx
    rcases hx with rfl | rfl | rfl
    · rintro e ⟨⟩
    · rintro e ⟨⟩
      trivial
    · rintro e ⟨⟩
      trivial) runtimeWithoutDebugUtils (by decide : (4 : ℕ) ≠ xrNullHandle)
  obtain ⟨table, htable, hdestroys⟩ := hsafe 7 rfl
  refine ⟨_, by rw [htable]; rfl, hdestroys (Or.inl ?_)⟩
  cases htable
  rfl

def refusingRuntime : Environment :=
  { Environment.bare with callRuntime := fun _ _ _ => ⟨xrErrorRuntimeFailure, none⟩ }

/-- With an instance and its messenger 100: the handle 999 was never created, and the destruction
of 100 fails, so that a second attempt finds no table. -/
theorem refusedDestruction_forgets : ∃ trace s,
    Run LoaderCore.TrackedStep ⟨World.initial (LoaderLogger.new false false []), fun _ => none⟩
      trace s ∧
    s.world.activeInstance.isSome ∧ s.live 100 = some 7 ∧
    (∃ w', termDestroyDebugUtilsMessenger refusingRuntime 999 s.world =
      .error .undefinedBehaviour w') ∧
    ∃ reply w', termDestroyDebugUtilsMessenger refusingRuntime 100 s.world = .ok reply w' ∧
      xrFailed reply.result ∧ s.world.messengerInstance 100 = some 7 ∧
      w'.messengerInstance 100 = none ∧ w'.logger.messengerIds = [] ∧
      ∃ w'', termDestroyDebugUtilsMessenger refusingRuntime 100 w' =
        .error .undefinedBehaviour w'' := by
  have hcreate : LoaderCore.TrackedStep
      ⟨World.initial (LoaderLogger.new false false []), fun _ => none⟩
      ⟨LoaderCore.runtimeWithMessenger 100, .createInstance
        (some (LoaderCore.infoWithNext [.debugUtilsMessenger ⟨0, 0⟩])) true, ⟨xrSuccess, some 7⟩⟩
      ⟨_, _⟩ := ⟨LoaderCore.step_iff.mpr ⟨by decide +kernel, rfl⟩, rfl⟩
  refine ⟨_, _, Run.snoc .nil hcreate, by decide +kernel, by decide +kernel, ⟨_, rfl⟩, _, _, rfl, ?_⟩
  exact ⟨by decide +kernel, by decide +kernel, by decide +kernel, by decide +kernel, _, rfl⟩

end OpenXRSdk
