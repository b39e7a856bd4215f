import OpenXRSdk.Linearization
import OpenXRSdk.RuntimeInUse

/-!
# Calls that take the global mutex

Four entry points do all their work with the global mutex held. However many threads make these
calls, what they get is what they might have got one after the other.
-/
namespace OpenXRSdk.Concurrency

open StateProgram World TransitionSystem RelyGuarantee

/-! ## Steps that leave the mutex alone -/

section Rules
variable {T α : Type}

/-- What runs between taking the mutex and giving it back. -/
def KeepsMutex (p : Thread T α) : Prop := p.Steady Shared.owner

theorem keepsMutex_onWorld (label : Action) (x : Loader α) :
    KeepsMutex (T := T) (.atomic label (onWorld x)) := by
  refine Program.steady_atomic fun s => ?_
  unfold onWorld
  cases x s.world with
  | ok a w => exact rfl
  | error e w => exact rfl

theorem KeepsMutex.use (x : Loader α) : KeepsMutex (T := T) (use x) := keepsMutex_onWorld .use x

theorem KeepsMutex.other (x : Loader α) : KeepsMutex (T := T) (other x) := keepsMutex_onWorld .other x

theorem KeepsMutex.unload : KeepsMutex (T := T) unload := keepsMutex_onWorld .unload _

theorem KeepsMutex.pure (a : α) : KeepsMutex (T := T) (.done a) := trivial

theorem KeepsMutex.bind {β : Type} {p : Thread T α} {f : α → Thread T β} (h : KeepsMutex p)
    (hf : ∀ a, KeepsMutex (f a)) : KeepsMutex (p >>= f) := Program.Steady.bind h hf

theorem KeepsMutex.ite {c : Prop} [Decidable c] {p q : Thread T α} (hp : KeepsMutex p)
    (hq : KeepsMutex q) : KeepsMutex (if c then p else q) := Program.Steady.ite hp hq

theorem KeepsMutex.abiTry {p : Thread T α} (h : KeepsMutex p) (caught : α) :
    KeepsMutex (abiTry caught p) := by
  refine Program.Steady.catching h fun e => ?_
  cases e with
  | exception => trivial
  | undefinedBehaviour => trivial

theorem KeepsMutex.ofTree {A R : Type} {next : A → Thread T R} (h : ∀ a, KeepsMutex (next a))
    (tree : CallTree A R α) : KeepsMutex (.ofTree next tree) := Program.steady_ofTree h tree

theorem KeepsMutex.load [DecidableEq T] (t : T) (env : Environment) : KeepsMutex (load t env) := by
  refine Program.steady_atomic fun s => ?_
  rcases hx : RuntimeInterface.loadRuntime env s.world with ⟨result, w⟩ | ⟨e, w⟩
  · have hload : onWorld (RuntimeInterface.loadRuntime env) s = .ok result { s with world := w } := by
      unfold onWorld
      rw [hx]
    rw [bind_of_ok hload]
    exact rfl
  · have hload : onWorld (RuntimeInterface.loadRuntime env) s = .error e { s with world := w } := by
      unfold onWorld
      rw [hx]
    rw [bind_of_error hload]
    exact rfl

end Rules

section Terminators
variable {T : Type} (env : Environment)

theorem keepsMutex_termCreateInstance (info : XrInstanceCreateInfo) :
    KeepsMutex (T := T) (termCreateInstance env info) := by
  refine .ite (.pure _) (.bind (.use _) fun address => .bind (.use _) fun reply => ?_)
  dsimp only
  split_ifs
  · exact .bind (.use _) fun _ => .pure _
  · exact .pure _

theorem keepsMutex_termDestroyInstance (inst : XrInstance) :
    KeepsMutex (T := T) (termDestroyInstance env inst) := by
  have hdestroy : KeepsMutex (T := T) (runtimeDestroyInstance env inst) := by
    unfold runtimeDestroyInstance
    dsimp only
    split_ifs
    · exact .bind (.use _) fun _ => .bind (.use _) fun _ => .bind (.use _) fun _ => .pure _
    · exact .pure _
  exact .bind (.other _) fun _ => .bind (.use _) fun _ => hdestroy.bind fun _ => .pure _

theorem keepsMutex_termCreateDebugUtilsMessenger (inst : XrInstance)
    (createInfo : XrDebugUtilsMessengerCreateInfoEXT) (messenger : Bool) :
    KeepsMutex (T := T) (termCreateDebugUtilsMessenger env inst createInfo messenger) := by
  unfold termCreateDebugUtilsMessenger
  dsimp only
  split_ifs
  · exact .pure _
  refine .bind (.use _) fun _ => .bind (.use _) fun table => .bind (.use _) fun reply => ?_
  split_ifs
  · cases reply.handle with
    | none => exact .bind (.other _) fun _ => .pure _
    | some handle => exact .bind (.other _) fun _ => .bind (.use _) fun _ => .pure _
  · exact .pure _

theorem keepsMutex_termDestroyDebugUtilsMessenger (messenger : XrDebugUtilsMessengerEXT) :
    KeepsMutex (T := T) (termDestroyDebugUtilsMessenger env messenger) := by
  refine .bind (.use _) fun _ => .bind (.other _) fun _ => .bind (.use _) fun _ =>
    .bind (.use _) fun table => ?_
  cases table .destroyDebugUtilsMessengerEXT with
  | null => exact .pure _
  | foreign f => exact .bind (.use _) fun _ => .pure _
  | _ => exact .other _

theorem keepsMutex_callRuntimeIfPresent (inst : XrInstance) (call : TermCall) :
    KeepsMutex (T := T) (callRuntimeIfPresent env inst call) := by
  refine .bind (.use _) fun _ => .bind (.use _) fun table => ?_
  cases table call.command with
  | null => exact .pure _
  | foreign f => exact .bind (.use _) fun _ => .pure _
  | _ => exact .other _

theorem keepsMutex_terminate (call : TermCall) : KeepsMutex (T := T) (terminate env call) := by
  cases call with
  | createInstance info => exact keepsMutex_termCreateInstance env info
  | destroyInstance inst => exact keepsMutex_termDestroyInstance env inst
  | createDebugUtilsMessengerEXT inst info messenger =>
    exact keepsMutex_termCreateDebugUtilsMessenger env inst info messenger
  | destroyDebugUtilsMessengerEXT messenger => exact keepsMutex_termDestroyDebugUtilsMessenger env _
  | submitDebugUtilsMessageEXT inst severity types => exact keepsMutex_callRuntimeIfPresent env inst _
  | setDebugUtilsObjectNameEXT inst info =>
    exact (keepsMutex_callRuntimeIfPresent env inst _).bind fun _ => .bind (.other _) fun _ => .pure _

theorem keepsMutex_callFunction (function : Pfn) (call : TermCall) :
    KeepsMutex (T := T) (callFunction env function call) := by
  cases function with
  | term command => exact (keepsMutex_terminate env call).ite (.other _)
  | foreign f => exact .bind (.other _) fun tree => .ofTree (keepsMutex_terminate env) tree
  | _ => exact .other _

end Terminators

section Calls
variable {T : Type} (env : Environment)

theorem keepsMutex_initializeLoader (info : List LoaderInitInfo) :
    KeepsMutex (T := T) (initializeLoader env info) :=
  .abiTry (.bind (.other _) fun _ => .ite (.pure _) (.bind .unload fun _ => .other _)) _

theorem keepsMutex_callCreateApiLayerInstance (cali : Pfn) (info : XrInstanceCreateInfo)
    (nextInfo : List XrApiLayerNextInfo) :
    KeepsMutex (T := T) (callCreateApiLayerInstance env cali info nextInfo) := by
  cases cali with
  | term command =>
    cases command with
    | createApiLayerInstance => exact keepsMutex_terminate env (.createInstance info)
    | _ => exact .other _
  | foreign f => exact .bind (.other _) fun tree => .ofTree (keepsMutex_terminate env) tree
  | _ => exact .other _

theorem keepsMutex_createChained (layers : List ApiLayerInterface) (info : XrInstanceCreateInfo)
    (names : List StdString) : KeepsMutex (T := T) (createChained env layers info names) :=
  .bind (.use _) fun _ => .ite (.pure _) (.bind (.use _) fun _ =>
    .ite (keepsMutex_terminate env _) (keepsMutex_callCreateApiLayerInstance env _ _ _))

theorem keepsMutex_createLoaderInstance (layers : List ApiLayerInterface)
    (info : XrInstanceCreateInfo) : KeepsMutex (T := T) (createLoaderInstance env layers info) := by
  unfold createLoaderInstance
  cases arrayNames info.enabledExtensionCount info.enabledExtensionNames with
  | none => exact .other _
  | some names =>
    exact (keepsMutex_createChained env layers info names).bind fun reply =>
      .ite (.bind (.other _) fun _ => .pure _) (.bind (.use _) fun _ => .pure _)

theorem keepsMutex_createDebugUtilsMessenger (inst : XrInstance)
    (createInfo : XrDebugUtilsMessengerCreateInfoEXT) (messenger : Bool) :
    KeepsMutex (T := T) (createDebugUtilsMessenger env inst createInfo messenger) := by
  refine .ite (.pure _) (.bind (.other _) fun active => ?_)
  cases active with
  | none => exact .pure _
  | some loaderInstance => exact keepsMutex_callFunction env _ _

theorem keepsMutex_destroyDebugUtilsMessenger (messenger : XrDebugUtilsMessengerEXT) :
    KeepsMutex (T := T) (destroyDebugUtilsMessenger env messenger) := by
  refine .ite (.pure _) (.bind (.other _) fun active => ?_)
  cases active with
  | none => exact .pure _
  | some loaderInstance => exact keepsMutex_callFunction env _ _

theorem keepsMutex_destroyDefaultMessenger (loaderInstance : LoaderInstance) :
    KeepsMutex (T := T) (destroyDefaultMessenger env loaderInstance) := by
  unfold destroyDefaultMessenger
  split_ifs
  · exact (keepsMutex_destroyDebugUtilsMessenger env _).bind fun _ => .pure _
  · exact .pure _

theorem keepsMutex_createDefaultMessenger (createInfo : XrDebugUtilsMessengerCreateInfoEXT)
    (inst : XrInstance) : KeepsMutex (T := T) (createDefaultMessenger env createInfo inst) := by
  refine (keepsMutex_createDebugUtilsMessenger env inst createInfo true).bind fun reply =>
    .ite (.pure _) ?_
  cases reply.handle with
  | none => exact .other _
  | some messenger => exact .bind (.other _) fun _ => .pure _

variable [DecidableEq T] (t : T)

theorem keepsMutex_collectExtensions (layerName : Option StdString) :
    KeepsMutex (collectExtensions t env layerName) :=
  .bind (.other _) fun _ => .ite (.pure _) (.bind (.load t env) fun _ =>
    .ite (.pure _) (.bind (.use _) fun _ => .pure _))

theorem keepsMutex_createActiveInstance (info : XrInstanceCreateInfo) :
    KeepsMutex (createActiveInstance t env info) := by
  have hload : KeepsMutex (loadRuntimeAndLayers t env info) :=
    .bind (.load t env) fun _ => .ite (.pure _) (.other _)
  refine hload.bind fun loaded => .ite (.pure _) ?_
  refine (keepsMutex_createLoaderInstance env loaded.2 info).bind fun created => ?_
  obtain ⟨result, created⟩ := created
  cases created with
  | none => exact .pure _
  | some loaderInstance => exact .bind (.other _) fun _ => .pure _

theorem keepsMutex_createWithoutActive (info : XrInstanceCreateInfo) :
    KeepsMutex (createWithoutActive t env info) := by
  refine (keepsMutex_createActiveInstance env t info).bind fun created => .ite ?_ ?_
  · exact .bind (.other _) fun _ => .bind .unload fun _ => .bind (.other _) fun _ => .pure _
  refine .bind (.other _) fun active => ?_
  cases active with
  | none => exact .other _
  | some loaderInstance =>
    dsimp only
    cases LoaderCore.messengerCreateInfo info.next with
    | none => exact .pure _
    | some createInfo => exact keepsMutex_createDefaultMessenger env createInfo _

end Calls

/-! ## The calls as sections -/

def enumerateApiLayerProperties {T : Type} [DecidableEq T] (t : T) (env : Environment) (capacity : ℕ)
    (count : Bool) (types : Option (List ℕ)) :
    Thread T (XrResult × Option ℕ × List XrApiLayerProperties) :=
  abiTry (xrErrorRuntimeFailure, none, [])
    (locked t (other (ApiLayerInterface.getApiLayerProperties env capacity count types)))

inductive GuardedCall
  | enumerateApiLayerProperties (capacity : ℕ) (count : Bool) (types : Option (List ℕ))
  | enumerateInstanceExtensionProperties (layerName : Option StdString) (capacity : ℕ) (count : Bool)
      (types : Option (List ℕ))
  | createInstance (info : Option XrInstanceCreateInfo) (inst : Bool)
  | destroyInstance (inst : XrInstance)

def GuardedCall.toLoader : GuardedCall → LoaderCore.Call
  | .enumerateApiLayerProperties capacity count types =>
    .enumerateApiLayerProperties capacity count types
  | .enumerateInstanceExtensionProperties layerName capacity count types =>
    .enumerateInstanceExtensionProperties layerName capacity count types
  | .createInstance info inst => .createInstance info inst
  | .destroyInstance inst => .destroyInstance inst

section Sections
variable {T : Type} [DecidableEq T]

def performGuarded (t : T) : Environment × GuardedCall → Thread T Reply
  | (env, .enumerateApiLayerProperties capacity count types) =>
    replyOf (·.1) (enumerateApiLayerProperties t env capacity count types)
  | (env, .enumerateInstanceExtensionProperties layerName capacity count types) =>
    perform t env (.enumerateInstanceExtensionProperties layerName capacity count types)
  | (env, .createInstance info inst) => perform t env (.createInstance info inst)
  | (env, .destroyInstance inst) => perform t env (.destroyInstance inst)

/-- The call as the loader carries it out when nobody else is there. -/
def guardedOperation (call : Environment × GuardedCall) : Loader Reply :=
  LoaderCore.perform call.1 call.2.toLoader

def GuardedSection {α : Type} (t : T) (p : Thread T α) : Prop :=
  p.Section Shared.owner t Shared.world

variable {t : T} {env : Environment}

omit [DecidableEq T] in
theorem GuardedSection.done {α : Type} (a : α) : GuardedSection (T := T) t (.done a) := trivial

omit [DecidableEq T] in
theorem GuardedSection.ite {α : Type} {c : Prop} [Decidable c] {p q : Thread T α}
    (hp : GuardedSection t p) (hq : GuardedSection t q) : GuardedSection t (if c then p else q) :=
  Program.Section.ite hp hq

omit [DecidableEq T] in
theorem GuardedSection.abiTry {α : Type} {p : Thread T α} (h : GuardedSection t p) (caught : α) :
    GuardedSection t (abiTry caught p) := by
  refine Program.Section.catching h fun e => ?_
  cases e with
  | exception => trivial
  | undefinedBehaviour => trivial

omit [DecidableEq T] in
theorem GuardedSection.replyOf {α : Type} {p : Thread T α} (h : GuardedSection t p)
    (result : α → XrResult) : GuardedSection t (replyOf result p) :=
  Program.Section.bind h fun _ => trivial

theorem KeepsMutex.locked {α : Type} {p : Thread T α} (h : KeepsMutex p) :
    GuardedSection t (locked t p) := by
  intro s
  refine ⟨Option.isNone_iff_eq_none, fun _ => ⟨⟨⟩, _, rfl, rfl, rfl, ?_⟩⟩
  exact Program.Steady.ensuring h fun s => ⟨_, rfl, rfl⟩

theorem section_enumerateInstanceExtensionProperties (layerName : Option StdString) (capacity : ℕ)
    (count : Bool) (types : Option (List ℕ)) : GuardedSection t
      (enumerateInstanceExtensionProperties t env layerName capacity count types) := by
  have hcollect (layerName : Option StdString) :
      GuardedSection t (extensionProperties t env layerName) := by
    refine Program.Section.bind (keepsMutex_collectExtensions env t layerName).locked fun found => ?_
    dsimp only
    split_ifs <;> trivial
  refine .abiTry (.ite (.done _) ?_) _
  refine Program.Section.bind (hcollect _) fun found => ?_
  dsimp only
  split_ifs <;> trivial

theorem section_createInstance (info : Option XrInstanceCreateInfo) (inst : Bool) :
    GuardedSection t (createInstance t env info inst) := by
  refine .abiTry ?_ _
  cases info with
  | none => exact .done _
  | some info =>
    refine .ite (.done _) (.ite (.done _) (KeepsMutex.locked ?_))
    exact .bind (.other _) fun _ => .ite (.pure _) (keepsMutex_createWithoutActive env t info)

theorem section_destroyInstance (inst : XrInstance) :
    GuardedSection t (destroyInstance t env inst) := by
  refine .ite (.done _) (KeepsMutex.locked (.bind (.other _) fun active => ?_))
  cases active with
  | none => exact .pure _
  | some loaderInstance =>
    exact (keepsMutex_destroyDefaultMessenger env loaderInstance).bind fun _ =>
      (keepsMutex_callFunction env _ _).bind fun _ => .bind (.other _) fun _ =>
        .bind .unload fun _ => .pure _

theorem section_performGuarded (t : T) (call : Environment × GuardedCall) :
    GuardedSection t (performGuarded t call) := by
  obtain ⟨env, call⟩ := call
  cases call with
  | enumerateApiLayerProperties capacity count types =>
    exact ((KeepsMutex.other _).locked.abiTry _).replyOf _
  | enumerateInstanceExtensionProperties layerName capacity count types =>
    exact (section_enumerateInstanceExtensionProperties layerName capacity count types).replyOf _
  | createInstance info inst => exact section_createInstance info inst
  | destroyInstance inst => exact (section_destroyInstance inst).replyOf _

theorem implements_performGuarded (t : T) (call : Environment × GuardedCall) :
    Implements (performGuarded t call) (guardedOperation call) := by
  obtain ⟨env, call⟩ := call
  cases call with
  | enumerateApiLayerProperties capacity count types =>
    exact implements_replyOf (.abiTry (.locked (implements_atomic _ _) t) _) _
  | enumerateInstanceExtensionProperties layerName capacity count types =>
    exact implements_perform env (.enumerateInstanceExtensionProperties layerName capacity count types)
  | createInstance info inst => exact implements_perform env (.createInstance info inst)
  | destroyInstance inst => exact implements_perform env (.destroyInstance inst)

theorem oneSection_performGuarded :
    OneSection Shared.owner Shared.world guardedOperation (performGuarded (T := T)) where
  section_ := section_performGuarded
  implements t call s := by
    rw [← implements_performGuarded t call s]
    cases (performGuarded t call).run s <;> rfl

/-- Nobody is in a call, and each call is to be a single step. -/
def alone (w : World) : Config T World Fault Unit Reply := ⟨w, fun _ => .done ⟨xrSuccess, none⟩⟩

omit [DecidableEq T] in
theorem linearized_idle (w : World) :
    Linearized Shared.owner Shared.world guardedOperation (idle w : Threads T) (alone w) where
  linked _ := .ended (.done _) (by simp [idle])
  reached := ⟨(idle w : Threads T).shared, rfl⟩
  shared _ := rfl

end Sections

/-! ## Two threads -/

def hasReturned {α : Type} : Thread Bool α → Bool
  | .done _ => true
  | _ => false

abbrev GuardedTrace (T : Type) := List (Transition (Threads T) (Move T (Environment × GuardedCall)))

/-- The second thread asks for an instance while the first has the mutex for its enumeration. -/
def contending : List (Move Bool (Environment × GuardedCall)) :=
  [.start false (willingRuntime, .enumerateInstanceExtensionProperties none 0 true none), .act false,
    .start true (willingRuntime, .createInstance (some (LoaderCore.infoWithNext [])) true)]

/-- Both calls are carried out. -/
theorem exists_contended : ∃ (s : Threads Bool) (trace : GuardedTrace Bool),
    Run (Step performGuarded) (idle (World.initial (.new false false []))) trace s ∧
      s.shared.owner = none ∧ s.shared.world.activeInstance.isSome ∧ ∀ t e, s.program t ≠ .fail e := by
  have hfollow : ((idle (World.initial (.new false false []))).follow performGuarded (fun _ _ => true)
      (contending ++ List.replicate 4 (.act false) ++ List.replicate 13 (.act true))).any
      fun s => s.shared.owner = none ∧ s.shared.world.activeInstance.isSome ∧
        hasReturned (s.program false) ∧ hasReturned (s.program true) := by
    decide +kernel
  obtain ⟨s, hs, hdone⟩ := (Option.any_eq_true _ _).mp hfollow
  obtain ⟨trace, hrun, -⟩ := exists_run .nil (fun _ h => by cases h) hs
  obtain ⟨howner, hactive, hfalse, htrue⟩ := of_decide_eq_true hdone
  refine ⟨s, trace, hrun, howner, hactive, fun t e he => ?_⟩
  cases t with
  | false => simp [he, hasReturned] at hfalse
  | true => simp [he, hasReturned] at htrue

/-! ## Any number of threads -/

section Interleavings
variable {T : Type} [DecidableEq T] {w : World} {s : Threads T}

/-- The calls that take the mutex, and the one that unloads the runtime without it. -/
inductive EntryCall
  | initializeLoader (info : List LoaderInitInfo)
  | guarded (call : GuardedCall)

def performEntry (t : T) : Environment × EntryCall → Thread T Reply
  | (env, .initializeLoader info) => perform t env (.initializeLoader info)
  | (env, .guarded call) => performGuarded t (env, call)

theorem disciplined_performEntry :
    Disciplined Shared.owner Shared.world (performEntry (T := T)) := by
  rintro t ⟨env, call⟩
  cases call with
  | initializeLoader info => exact .inl ((keepsMutex_initializeLoader env info).bind fun _ => .pure _)
  | guarded call => exact .inr (section_performGuarded t (env, call))

variable {trace : GuardedTrace T}

/-- The four calls that take the mutex are linearizable. -/
theorem guarded_linearizable (hrun : Run (Step performGuarded) (idle w) trace s) :
    ∃ trace' s', Run (Step (atOnce guardedOperation)) (alone w) trace' s' ∧
      history trace' = history trace ∧ (s.shared.owner = none → s'.shared = s.shared.world) := by
  obtain ⟨trace', s', hrun', hhistory, hlinearized⟩ :=
    linearizable oneSection_performGuarded hrun (linearized_idle w)
  exact ⟨trace', s', hrun', hhistory, hlinearized.shared⟩

theorem guarded_linearizable_contended : ∃ (s : Threads Bool) (trace : GuardedTrace Bool),
    s.shared.world.activeInstance.isSome ∧ ∃ trace' s', Run (Step (atOnce guardedOperation))
      (alone (World.initial (.new false false []))) trace' s' ∧ history trace' = history trace ∧
      s'.shared = s.shared.world := by
  obtain ⟨s, trace, hrun, howner, hactive, -⟩ := exists_contended
  obtain ⟨trace', s', hrun', hhistory, hshared⟩ := guarded_linearizable hrun
  exact ⟨s, trace, hactive, trace', s', hrun', hhistory, hshared howner⟩

/-- What the threads have been told is what the loader says to one caller who makes the same calls in
the order in which they returned, and where it then is, it is whenever nobody has the mutex. -/
theorem guarded_inTurn (hrun : Run (Step performGuarded) (idle w) trace s)
    (hfail : ∀ t e, s.program t ≠ .fail e) : ∃ turns w', Run (InTurn guardedOperation) w turns w' ∧
      turns.map (fun x => x.label) = answered (history trace) ∧
      (s.shared.owner = none → w' = s.shared.world) :=
  exists_sequential oneSection_performGuarded hrun (linearized_idle w) (fun _ => trivial) hfail

theorem guarded_inTurn_contended : ∃ (s : Threads Bool) (trace : GuardedTrace Bool),
    s.shared.world.activeInstance.isSome ∧ ∃ turns, Run (InTurn guardedOperation)
      (World.initial (.new false false [])) turns s.shared.world ∧
      turns.map (fun x => x.label) = answered (history trace) := by
  obtain ⟨s, trace, hrun, howner, hactive, hfail⟩ := exists_contended
  obtain ⟨turns, w', hturns, hanswered, hw'⟩ := guarded_inTurn hrun hfail
  exact ⟨s, trace, hactive, turns, hw' howner ▸ hturns, hanswered⟩

/-- Threads that call as they like leave no library open that nobody needs, and close none twice. -/
theorem balanced_interleaved {logger : LoaderLogger}
    (hrun : Run (Step performGuarded) (idle (World.initial logger)) trace s)
    (hfail : ∀ t e, s.program t ≠ .fail e) (hfree : s.shared.owner = none) :
    LoaderCore.Balanced s.shared.world := by
  obtain ⟨turns, w', hturns, -, hw'⟩ := exists_sequential oneSection_performGuarded hrun
    (linearized_idle _) (fun _ => trivial) hfail
  rw [← hw' hfree]
  refine hturns.invariant (I := LoaderCore.Balanced) (LoaderCore.balanced_initial logger) ?_
  rintro w ⟨t, ⟨env, call⟩, reply⟩ w' hw hturn
  exact LoaderCore.balanced_step (e := ⟨env, call.toLoader, reply⟩) hw hturn

theorem balanced_interleaved_contended : ∃ s : Threads Bool,
    s.shared.world.activeInstance.isSome ∧ LoaderCore.Balanced s.shared.world := by
  obtain ⟨s, trace, hrun, howner, hactive, hfail⟩ := exists_contended
  exact ⟨s, hactive, balanced_interleaved hrun hfail howner⟩

end Interleavings
end OpenXRSdk.Concurrency
