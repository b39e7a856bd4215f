import OpenXRSdk.ConformingParticipants
import OpenXRSdk.MessengerDestruction

/-!
# Terminators of participants that conform

With a runtime and layers that keep to the interface, the terminators return, and the functions of
the layers come down to them.
-/
namespace OpenXRSdk.LoaderCore

open StateProgram World

variable {p : Participants} {env : Environment} {w w' : World}

/-- The program stops with a value. -/
def Returns {α : Type} (x : Loader α) (w : World) : Prop := ∃ a w', x w = .ok a w'

theorem Returns.of_eq {α : Type} {x y : Loader α} (h : Returns y w') (heq : x w = y w') : Returns x w := by
  obtain ⟨a, t, ht⟩ := h
  exact ⟨a, t, heq.trans ht⟩

/-! ## Terminators -/

/-- The runtime has the table of this instance. -/
def HasTable (w : World) (inst : XrInstance) : Prop :=
  ∃ rt ∈ w.runtime, ∃ table ∈ rt.dispatchTableMap.lookup inst, OwnTable table

theorem HasTable.of_later {inst : XrInstance} (h : HasTable w inst) (hl : Later w w') :
    HasTable w' inst := by
  obtain ⟨c, rfl⟩ := hl
  exact h

theorem HasTable.dispatchTable {inst : XrInstance} (h : HasTable w inst) :
    ∃ table, OwnTable table ∧ ∀ {α : Type} (f : DispatchTable → Loader α),
      (RuntimeInterface.getDispatchTable inst >>= fun found => dispatchTableOf found >>= f) w =
        f table w := by
  obtain ⟨rt, hrt, table, htable, hown⟩ := h
  refine ⟨table, hown, fun f => ?_⟩
  rw [bind_of_ok (getDispatchTable_eq_ok.mpr ⟨rt, hrt, rfl, rfl⟩), Option.mem_def.mp htable]
  rfl

def HandsMessengers (env : Environment) : Prop :=
  ∀ t f inst info,
    xrSucceeded (env.callRuntime t f (.createDebugUtilsMessengerEXT inst info true)).result →
      (env.callRuntime t f (.createDebugUtilsMessengerEXT inst info true)).handle.isSome

theorem termCreateDebugUtilsMessenger_returns (hands : HandsMessengers env) {inst : XrInstance}
    (h : HasTable w inst) (createInfo : XrDebugUtilsMessengerCreateInfoEXT) (messenger : Bool) :
    Returns (termCreateDebugUtilsMessenger env inst createInfo messenger) w := by
  obtain ⟨table, hown, htable⟩ := h.dispatchTable
  unfold termCreateDebugUtilsMessenger
  cases messenger with
  | false => exact ⟨_, _, rfl⟩
  | true =>
    have hanswer : ∃ reply, runtimeMessenger env table inst createInfo w = .ok reply w.tick ∧
        (xrSucceeded reply.result → reply.handle.isSome) := by
      unfold runtimeMessenger
      rcases (hown .createDebugUtilsMessengerEXT).1 with hnull | ⟨f, hf⟩
      · rw [hnull]
        exact ⟨_, rfl, fun _ => rfl⟩
      · rw [hf]
        exact ⟨_, rfl, hands _ _ _ _⟩
    obtain ⟨reply, hrun, hhandle⟩ := hanswer
    refine Returns.of_eq ?_ (htable _)
    refine Returns.of_eq ?_ (bind_of_ok hrun)
    dsimp only
    split_ifs with hs
    · obtain ⟨handle, hsome⟩ := Option.isSome_iff_exists.mp (hhandle hs)
      rw [hsome]
      exact ⟨_, _, rfl⟩
    · exact ⟨_, _, rfl⟩

theorem termDestroyDebugUtilsMessenger_returns {m : XrDebugUtilsMessengerEXT} (hm : m ≠ xrNullHandle)
    {inst : XrInstance} (hinst : w.messengerInstance m = some inst) (h : HasTable w inst) :
    Returns (termDestroyDebugUtilsMessenger env m) w := by
  obtain ⟨rt, hrt, table, htable, hown⟩ := h
  have hentry : rt.messengerToInstanceMap.lookup m = some inst := by
    rwa [World.messengerInstance, Option.mem_def.mp hrt] at hinst
  have hfound : w.messengerTable m = some table := by
    rw [World.messengerTable, Option.mem_def.mp hrt, Option.bind_some, hentry]
    exact htable
  refine Returns.of_eq ?_ (termDestroy_of_table hm hfound)
  unfold runtimeDestroy
  rcases (hown .destroyDebugUtilsMessengerEXT).1 with hnull | ⟨f, hf⟩
  · rw [hnull]
    exact ⟨_, _, rfl⟩
  · rw [hf]
    exact ⟨_, _, rfl⟩

theorem termDestroyInstance_returns (h : Conforms p env) (hready : Ready p w) {inst : XrInstance}
    (hinst : inst ∈ p.instances) : Returns (termDestroyInstance env inst) w := by
  obtain ⟨rt, hrt, hconforms⟩ := hready
  have hrequired (t : ℕ) (gipa : ℕ) (hgipa : gipa ∈ p.runtimes) : ∃ f,
      (env.getInstanceProcAddr t gipa inst .destroyInstance).function = some (.foreign f) := by
    obtain ⟨f, hf⟩ := (h.runtimeFunctions t gipa hgipa inst hinst .destroyInstance).2 rfl
    unfold RuntimeInterface.functionsOf at hf
    cases hfunction : (env.getInstanceProcAddr t gipa inst .destroyInstance).function with
    | none =>
      rw [hfunction] at hf
      cases hf
    | some function =>
      rw [hfunction] at hf
      exact ⟨f, congrArg some hf⟩
  have hdestroy : Triple (Ready p) (RuntimeInterface.destroyInstance env inst) (fun _ => Ready p)
      (fun _ _ => False) := by
    unfold RuntimeInterface.destroyInstance
    split_ifs
    · refine Triple.bind (Q := fun _ => Ready p) (Triple.modify ?_) fun _ =>
        (triple_runtimeFunction (fun w hw => ⟨hw, hw⟩) hrequired).bind fun address =>
          Triple.bind (triple_ask fun w hw => hw) fun _ => Triple.pure fun w hw => hw
      rintro w ⟨rt, hrt, hconforms⟩
      refine ⟨_, Option.mem_map_of_mem _ hrt, hconforms.gipa, fun other table htable => ?_⟩
      by_cases hother : other = inst
      · rw [hother] at htable
        simp at htable
      · exact hconforms.tables other table (AList.lookup_erase_ne hother ▸ htable)
    · exact Triple.pure fun w hw => hw
  have hterm : Triple (Ready p) (termDestroyInstance env inst) (fun _ => Ready p)
      (fun _ _ => False) := by
    refine Triple.bind (Q := fun _ => Ready p) (Triple.modify fun w hw => hw) fun _ =>
      (triple_getRuntime.conseq (fun _ hw => hw) (fun rt w hw => ⟨rt, hw.1, hw.2⟩)
        fun _ _ he => he).bind fun rt => hdestroy.bind fun _ => Triple.pure fun w hw => hw
  obtain ⟨a, w', hrun, -⟩ := hterm.returns ⟨rt, hrt, hconforms⟩
  exact ⟨a, w', hrun⟩

/-! ## Calls that only annotate -/

/-- Nothing but time, names and labels has changed. -/
def Annotates (w w' : World) : Prop :=
  ∃ c data, w' = { w with
    clock := c
    logger := { w.logger with data := data } }

instance : IsPreorder World Annotates where
  refl w := ⟨w.clock, w.logger.data, rfl⟩
  trans := by
    rintro _ _ _ ⟨c, data, rfl⟩ ⟨c', data', rfl⟩
    exact ⟨c', data', rfl⟩

theorem Annotates.tick (h : Annotates w w') : Annotates w w'.tick := by
  obtain ⟨c, data, rfl⟩ := h
  exact ⟨c + 1, data, rfl⟩

theorem Annotates.activeInstance (h : Annotates w w') : w'.activeInstance = w.activeInstance := by
  obtain ⟨c, data, rfl⟩ := h
  rfl

theorem Annotates.runtime (h : Annotates w w') : w'.runtime = w.runtime := by
  obtain ⟨c, data, rfl⟩ := h
  rfl

def IsRemark (inst : XrInstance) : TermCall → Prop
  | .submitDebugUtilsMessageEXT i _ _ => i = inst
  | .setDebugUtilsObjectNameEXT i _ => i = inst
  | _ => False

section Remarks
variable {E : Fault → World → Prop} {inst : XrInstance} (h : HasTable w inst)
include h

theorem triple_callRuntimeIfPresent (call : TermCall) :
    Triple (Annotates w) (callRuntimeIfPresent env inst call) (fun _ => Annotates w) E := by
  rintro s hs
  have hs' : HasTable s inst := by
    unfold HasTable
    rw [hs.runtime]
    exact h
  obtain ⟨table, hown, htable⟩ := hs'.dispatchTable
  unfold callRuntimeIfPresent
  rw [htable]
  rcases (hown call.command).1 with hnull | ⟨f, hf⟩
  · rw [hnull]
    exact hs
  · rw [hf]
    exact hs.tick

theorem triple_terminate_remark {call : TermCall} (hcall : IsRemark inst call) :
    Triple (Annotates w) (terminate env call) (fun _ => Annotates w) E := by
  cases call with
  | submitDebugUtilsMessageEXT i severity types =>
    obtain rfl : i = inst := hcall
    exact triple_callRuntimeIfPresent h _
  | setDebugUtilsObjectNameEXT i info =>
    obtain rfl : i = inst := hcall
    refine (triple_callRuntimeIfPresent h _).bind fun reply => Triple.bind (Triple.modify ?_)
      fun _ => Triple.pure fun _ hs => hs
    rintro s ⟨c, data, rfl⟩
    exact ⟨c, _, rfl⟩
  | _ => exact hcall.elim

end Remarks

/-- What the code around the loader does in a call that has no terminator: it may make remarks. -/
def RemarksOnly (env : Environment) (inst : XrInstance) : Prop :=
  ∀ t f call, (env.callDown t f call).Calls (IsRemark inst)

section Annotating
variable {E : Fault → World → Prop} {li : LoaderInstance}
  (hinst : InstanceConforms p li) (h : HasTable w li.runtimeInstance)

section Down
variable (hdown : RemarksOnly env li.runtimeInstance)
include h hdown

theorem triple_callDownFunction {function : Pfn} (hf : ∃ f, function = .foreign f) (call : DownCall) :
    Triple (Annotates w) (callDownFunction env function call) (fun _ => Annotates w) E := by
  obtain ⟨f, rfl⟩ := hf
  refine Triple.bind (Q := fun tree s => Annotates w s ∧ tree.Calls (IsRemark li.runtimeInstance))
    (triple_ask fun s hs => ⟨hs.tick, hdown _ _ _⟩)
    fun tree => Triple.known fun htree => ?_
  exact CallTree.run_triple (fun call hcall => triple_terminate_remark h hcall) tree htree

include hinst in
theorem triple_forwardLabel (change : DebugUtilsData → DebugUtilsData) {call : DownCall}
    (hcall : hasTerminator call.command = false) :
    Triple (Annotates w) (forwardLabel env li change call) (fun _ => Annotates w) E := by
  have hown := hinst.table call.command
  rw [hcall, if_neg (by simp)] at hown
  refine Triple.bind (Q := fun _ => Annotates w) (Triple.modify ?_) fun _ => ?_
  · rintro s ⟨c, data, rfl⟩
    exact ⟨c, _, rfl⟩
  rcases hown.1 with hnull | hf
  · rw [if_pos hnull]
    exact Triple.pure fun _ hs => hs
  · obtain ⟨f, hf⟩ := hf
    rw [if_neg (by simp [hf])]
    exact triple_callDownFunction h hdown ⟨f, hf⟩ call

end Down

/-- A call that its layers forward comes to its terminator. -/
theorem triple_callFunction {I : World → Prop} {Q : Reply → World → Prop} (hI : ∀ s, I s → I s.tick)
    (hforward : ∀ t f call, env.callLayer t f call = .forward call) {function : Pfn} {call : TermCall}
    (hf : EndsInTerminator call.command function) (hterm : Triple I (terminate env call) Q E) :
    Triple I (callFunction env function call) Q E := by
  rcases hf with rfl | ⟨f, rfl⟩
  · unfold callFunction
    dsimp only
    rw [if_pos rfl]
    exact hterm
  · refine Triple.bind (Q := fun tree s => I s ∧ tree = .forward call)
      (triple_ask fun s hs => ⟨hI s hs, hforward _ _ _⟩) fun tree => Triple.known fun htree => ?_
    rw [htree, CallTree.run_forward]
    exact hterm

theorem InstanceConforms.endsInTerminator (hinst : InstanceConforms p li) {command : Command}
    (hcommand : hasTerminator command = true) :
    EndsInTerminator command (li.dispatchTable command) := by
  have := hinst.table command
  rwa [hcommand, if_pos rfl] at this

include hinst h

theorem triple_remark (hforward : ∀ t f call, env.callLayer t f call = .forward call)
    {call : TermCall} (hcall : IsRemark li.runtimeInstance call) :
    Triple (Annotates w) (callFunction env (li.dispatchTable call.command) call)
      (fun _ => Annotates w) E := by
  refine triple_callFunction (fun _ hs => hs.tick) hforward (hinst.endsInTerminator ?_)
    (triple_terminate_remark h hcall)
  cases call with
  | submitDebugUtilsMessageEXT => rfl
  | setDebugUtilsObjectNameEXT => rfl
  | _ => exact hcall.elim

/-- The question goes to the topmost layer, or past the terminators to the runtime. -/
theorem triple_getInstanceProcAddr (name : Command) :
    Triple (Annotates w) (li.getInstanceProcAddr env name) (fun _ => Annotates w) E := by
  unfold LoaderInstance.getInstanceProcAddr
  rcases hinst.gipa with hterm | ⟨f, -, hf⟩
  · rw [hterm]
    dsimp only
    unfold LoaderInstance.termGetInstanceProcAddr
    split_ifs
    · exact Triple.pure fun _ hs => hs
    · intro s hs
      obtain ⟨rt, hrt, -⟩ := h
      rw [bind_of_ok (RuntimeInterface.getRuntime_of_some (hs.runtime.trans hrt))]
      exact hs.tick
  · rw [hf]
    exact triple_ask fun _ hs => hs.tick

end Annotating

end OpenXRSdk.LoaderCore
