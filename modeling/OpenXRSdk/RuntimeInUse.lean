import OpenXRSdk.Concurrency

/-!
# The runtime in use

A thread that holds the global mutex keeps the runtime it loaded, unless a thread that does not
hold it unloads the runtime.
-/
namespace OpenXRSdk.Concurrency

open StateProgram World TransitionSystem RelyGuarantee

/-- A runtime that is loaded stays loaded. -/
def KeepsRuntime (w w' : World) : Prop := w.runtime.isSome → w'.runtime.isSome

instance : IsPreorder World KeepsRuntime where
  refl _ h := h
  trans _ _ _ h g hw := g (h hw)

theorem keepsRuntime_of_eq {w w' : World} (h : w'.runtime = w.runtime) : KeepsRuntime w w' := fun hw => by
  rwa [h]

theorem keepsRuntime_of_loads {w w' : World} (h : Loads w w') : KeepsRuntime w w' := fun hw => by
  obtain ⟨rt, hrt⟩ := Option.isSome_iff_exists.mp hw
  rw [h.of_runtime hrt]
  rfl

theorem keepsRuntime_of_keepsLoaded {w w' : World} (h : KeepsLoaded w w') : KeepsRuntime w w' := by
  have hmap := congrArg Option.isSome h.runtime
  simp only [Option.isSome_map] at hmap
  unfold KeepsRuntime
  rw [hmap]
  exact id

section Contracts
variable {T : Type}

/-- What a thread relies on: nobody else takes or releases the mutex for it, and while it holds
the mutex the runtime it loaded stays. -/
structure Rely (t : T) (s s' : Shared T) : Prop where
  owner : s'.owner = some t ↔ s.owner = some t
  loaded : s'.loaded t = s.loaded t
  runtime : s.owner = some t → s.loaded t → KeepsRuntime s.world s'.world

instance (t : T) : IsPreorder (Shared T) (Rely t) where
  refl _ := ⟨Iff.rfl, rfl, fun _ _ h => h⟩
  trans _ _ _ h g := ⟨g.owner.trans h.owner, g.loaded.trans h.loaded, fun ho hl hw =>
    g.runtime (h.owner.mpr ho) (h.loaded.symm ▸ hl) (h.runtime ho hl hw)⟩

/-- The runtime is not unloaded while another thread that has loaded it holds the mutex. -/
def UnloadPermitted (t : T) (label : Action) (s : Shared T) : Prop :=
  label = .unload → ∀ t', t' ≠ t → s.owner = some t' → s.loaded t' = false

/-- Where the runtime is needed it is there, if LoadRuntime has succeeded. -/
def UseObliged (t : T) (label : Action) (s : Shared T) : Prop :=
  label = .use → s.loaded t → s.world.runtime.isSome

def contract (t : T) : Contract (Shared T) Action where
  rely := Rely t
  guarantee s s' := ∀ t', t' ≠ t → Rely t' s s'
  permitted := UnloadPermitted t
  obliged := UseObliged t
  preorder := inferInstance

def Outside (t : T) (s : Shared T) : Prop := s.owner ≠ some t

def Owning (t : T) (s : Shared T) : Prop := s.owner = some t

/-- With the mutex, and with the runtime if it was loaded. -/
def Inside (t : T) (s : Shared T) : Prop := s.owner = some t ∧ (s.loaded t → s.world.runtime.isSome)

theorem stable_outside (t : T) : Program.Stable (contract t) (Outside t) := fun _ _ h hr =>
  fun ho => h (hr.owner.mp ho)

theorem stable_owning (t : T) : Program.Stable (contract t) (Owning t) := fun _ _ h hr =>
  hr.owner.mpr h

theorem stable_inside (t : T) : Program.Stable (contract t) (Inside t) := fun _ _ h hr =>
  ⟨hr.owner.mpr h.1, fun hl => hr.runtime h.1 (hr.loaded ▸ hl) (h.2 (hr.loaded ▸ hl))⟩

/-- The owner of the mutex may do what it likes with the runtime. -/
theorem guarantee_of_owner {t : T} {s s' : Shared T} (h : s.owner = some t) (h' : s'.owner = some t)
    (hl : ∀ t', t' ≠ t → s'.loaded t' = s.loaded t') : (contract t).guarantee s s' := by
  intro t' ht
  have hne : some t ≠ some t' := fun he => ht (Option.some.inj he).symm
  refine ⟨?_, hl t' ht, fun ho => absurd (h.symm.trans ho) hne⟩
  rw [h, h']

/-- Other threads keep the runtime, or do not use it. -/
theorem guarantee_of_world {t : T} {s : Shared T} {w : World}
    (h : ∀ t', t' ≠ t → s.owner = some t' → s.loaded t' → KeepsRuntime s.world w) :
    (contract t).guarantee s { s with world := w } := fun t' ht => ⟨Iff.rfl, rfl, h t' ht⟩

end Contracts

/-! ## What a thread does with the mutex -/

section Implementing
variable {T α β : Type}

/-- The state of the loader in the end of a program. -/
def view : EStateM.Result Fault (Shared T) α → EStateM.Result Fault World α
  | .ok a s => .ok a s.world
  | .error e s => .error e s.world

/-- The steps of the program do what the loader does when no other thread takes one. -/
def Implements (p : Thread T α) (x : Loader α) : Prop := ∀ s, view (p.run s) = x s.world

theorem view_onWorld (x : Loader α) (s : Shared T) : view (onWorld x s) = x s.world := by
  unfold onWorld
  cases x s.world <;> rfl

theorem implements_atomic (label : Action) (x : Loader α) :
    Implements (T := T) (.atomic label (onWorld x)) x := fun s => by
  rw [Program.run_atomic, view_onWorld]

theorem Implements.bind {p : Thread T α} {f : α → Thread T β} {x : Loader α} {g : α → Loader β}
    (h : Implements p x) (hf : ∀ a, Implements (f a) (g a)) : Implements (p >>= f) (x >>= g) := by
  intro s
  rw [Program.run_bind]
  change view (EStateM.bind p.run (fun a => (f a).run) s) = EStateM.bind x g s.world
  unfold EStateM.bind
  rw [← h s]
  cases p.run s with
  | ok a t => exact hf a t
  | error e t => rfl

theorem implements_done (a : α) : Implements (T := T) (.done a) (pure a) := fun s => by
  rw [Program.run_done]
  rfl

theorem Implements.ite {c : Prop} [Decidable c] {p q : Thread T α} {x y : Loader α}
    (hp : Implements p x) (hq : Implements q y) :
    Implements (if c then p else q) (if c then x else y) := by
  split_ifs
  · exact hp
  · exact hq

theorem Implements.abiTry {p : Thread T α} {x : Loader α} (h : Implements p x) (caught : α) :
    Implements (abiTry caught p) (OpenXRSdk.abiTry caught x) := by
  intro s
  unfold Concurrency.abiTry OpenXRSdk.abiTry
  rw [Program.run_catching, ← h s]
  cases p.run s with
  | ok a t => rfl
  | error e t =>
    cases e with
    | exception => exact congrArg view (Program.run_done caught t)
    | undefinedBehaviour => exact congrArg view (Program.run_fail _ t)

theorem Implements.locked [DecidableEq T] {p : Thread T α} {x : Loader α} (h : Implements p x) (t : T) :
    Implements (locked t p) x := by
  intro s
  change view ((Program.ensuring unlock p).run { s with
    owner := some t
    loaded := Function.update s.loaded t false }) = _
  rw [Program.run_ensuring, ← h { s with
    owner := some t
    loaded := Function.update s.loaded t false }]
  cases p.run { s with
    owner := some t
    loaded := Function.update s.loaded t false } <;> rfl

end Implementing

/-- With the mutex, the program does what the loader does and keeps the runtime that it loaded. -/
structure Sound {T α : Type} (t : T) (p : Thread T α) (x : Loader α) : Prop where
  implements : Implements p x
  keeps : p.Keeps (contract t) (Inside t)

section Rules
variable {T α β : Type} {t : T}

theorem inside_onWorld {x : Loader α} {E : Fault → Prop} (h : Within KeepsRuntime E x) {s : Shared T}
    (hs : Inside t s) :
    Program.EndsIn (fun s' => (contract t).guarantee s s' ∧ Inside t s') (onWorld x s) := by
  have hkept {w : World} (hw : KeepsRuntime s.world w) :
      (contract t).guarantee s { s with world := w } ∧ Inside t { s with world := w } :=
    ⟨guarantee_of_owner hs.1 hs.1 fun _ _ => rfl, hs.1, fun hl => hw (hs.2 hl)⟩
  have := h s.world
  unfold onWorld
  cases hx : x s.world with
  | ok a w =>
    rw [hx] at this
    exact hkept this
  | error e w =>
    rw [hx] at this
    exact hkept this.2

theorem Sound.use {x : Loader α} (h : Within KeepsRuntime isUndefined x) :
    Sound t (use x) x where
  implements := implements_atomic _ x
  keeps _ hs := Program.safe_atomic (stable_inside t) (stable_inside t)
    (fun _ hs _ => hs.2) (fun _ hs _ => inside_onWorld h hs) hs

theorem Sound.other {x : Loader α} {E : Fault → Prop} (h : Within KeepsRuntime E x) :
    Sound t (other x) x where
  implements := implements_atomic _ x
  keeps _ hs := Program.safe_atomic (stable_inside t) (stable_inside t)
    (fun _ hs _ => hs.2) (fun _ hs _ => inside_onWorld h hs) hs

theorem Sound.pure (a : α) : Sound t (.done a) (Pure.pure a) :=
  ⟨implements_done a, Program.keeps_done (stable_inside t) a⟩

theorem Sound.bind {p : Thread T α} {f : α → Thread T β} {x : Loader α} {g : α → Loader β}
    (h : Sound t p x) (hf : ∀ a, Sound t (f a) (g a)) : Sound t (p >>= f) (x >>= g) :=
  ⟨h.implements.bind fun a => (hf a).implements,
    h.keeps.bind (stable_inside t) fun a => (hf a).keeps⟩

theorem Sound.ite {c : Prop} [Decidable c] {p q : Thread T α} {x y : Loader α} (hp : Sound t p x)
    (hq : Sound t q y) : Sound t (if c then p else q) (if c then x else y) := by
  split_ifs
  · exact hp
  · exact hq

theorem Sound.undefinedBehaviour :
    Sound t (Concurrency.other (α := α) OpenXRSdk.undefinedBehaviour) OpenXRSdk.undefinedBehaviour :=
  .other undefinedBehaviour_within

theorem Sound.ofTree {A R : Type} {next : A → Thread T R} {f : A → Loader R}
    (h : ∀ a, Sound t (next a) (f a)) (tree : CallTree A R α) :
    Sound t (.ofTree next tree) (tree.run f) := by
  induction tree with
  | done a => exact Sound.pure a
  | call a k ih => exact (h a).bind ih

theorem Sound.load [DecidableEq T] (env : Environment) :
    Sound t (load t env) (RuntimeInterface.loadRuntime env) := by
  have hset (result : XrResult) (s : Shared T) (w : World) (hs : Inside t s) :
      (contract t).guarantee s { s with
        world := w
        loaded := Function.update s.loaded t (decide (xrSucceeded result)) } :=
    guarantee_of_owner hs.1 hs.1 fun _ ht => Function.update_of_ne ht _ _
  constructor
  · intro s
    unfold Concurrency.load
    rw [Program.run_atomic]
    change view (EStateM.bind (onWorld _) _ s) = _
    unfold EStateM.bind onWorld
    cases RuntimeInterface.loadRuntime env s.world <;> rfl
  · refine fun _ => Program.safe_atomic (stable_inside t) (stable_inside t) (fun _ hs _ => hs.2) ?_
    intro s hs _
    have hspec := RuntimeInterface.loadRuntime_spec env s.world s.world rfl
    change Program.EndsIn _ (EStateM.bind (onWorld _) _ s)
    unfold EStateM.bind onWorld
    cases hx : RuntimeInterface.loadRuntime env s.world with
    | ok result w =>
      rw [hx] at hspec
      refine ⟨hset result s w hs, hs.1, fun hl => hspec.2.mp ?_⟩
      simpa using hl
    | error e w =>
      rw [hx] at hspec
      exact ⟨guarantee_of_owner hs.1 hs.1 fun _ _ => rfl, hs.1, fun hl =>
        keepsRuntime_of_loads hspec (hs.2 hl)⟩

end Rules

/-! ## The functions that run with the mutex -/

theorem keepsRuntime_frame : Frame KeepsRuntime where
  tick _ := keepsRuntime_of_eq rfl
  recorders _ _ _ := keepsRuntime_of_eq rfl
  messengers w f := keepsRuntime_of_keepsLoaded (keepsLoaded_frame.messengers w f)

theorem keepsRuntime_tables : AllowsTables KeepsRuntime := fun w f =>
  keepsRuntime_of_keepsLoaded (keepsLoaded_tables w f)

section Terminators
variable {T : Type} {t : T} (env : Environment)

theorem sound_ask {α : Type} (answer : ℕ → α) :
    Sound t (use (ask answer)) (ask answer) :=
  .use (keepsRuntime_frame.ask answer)

theorem sound_runtimeFunction (inst : XrInstance) (command : Command) :
    Sound t (use (RuntimeInterface.runtimeFunction env inst command))
      (RuntimeInterface.runtimeFunction env inst command) :=
  .use (keepsRuntime_frame.runtimeFunction env inst command)

theorem sound_getDispatchTable (inst : XrInstance) : Sound t (use (RuntimeInterface.getDispatchTable inst))
    (RuntimeInterface.getDispatchTable inst) :=
  .use (getDispatchTable_within inst)

theorem sound_dispatchTableOf (table : Option DispatchTable) :
    Sound t (use (dispatchTableOf table)) (dispatchTableOf table) :=
  .use (dispatchTableOf_within table)

theorem sound_termCreateInstance (info : XrInstanceCreateInfo) :
    Sound t (termCreateInstance env info) (OpenXRSdk.termCreateInstance env info) := by
  refine .ite (.pure _) ((sound_runtimeFunction env _ _).bind fun address =>
    (sound_ask _).bind fun reply => ?_)
  dsimp only
  split_ifs
  · refine Sound.bind (.use ?_) fun _ => .pure _
    exact RuntimeInterface.getRuntime_within.bind fun _ => (keepsRuntime_frame.ask _).bind fun _ =>
      Within.modify fun w => keepsRuntime_tables w _
  · exact .pure _

theorem sound_termDestroyInstance (inst : XrInstance) :
    Sound t (termDestroyInstance env inst) (OpenXRSdk.termDestroyInstance env inst) := by
  have hremove : Sound t (other (modifyLogger (·.removeLogRecordersForXrInstance inst)))
      (modifyLogger (·.removeLogRecordersForXrInstance inst)) :=
    .other (keepsRuntime_frame.modifyRecorders fun logger => logger.data_removeForInstance inst)
  have hdestroy : Sound t (runtimeDestroyInstance env inst) (RuntimeInterface.destroyInstance env inst) := by
    unfold runtimeDestroyInstance RuntimeInterface.destroyInstance
    dsimp only
    split_ifs
    · exact Sound.bind (.use (Within.modify fun w => keepsRuntime_tables w _)) fun _ =>
        (sound_runtimeFunction env _ _).bind fun _ => (sound_ask _).bind fun _ => .pure _
    · exact .pure _
  exact hremove.bind fun _ => Sound.bind (.use RuntimeInterface.getRuntime_within) fun _ =>
    hdestroy.bind fun _ => .pure _

theorem sound_termCreateDebugUtilsMessenger (inst : XrInstance)
    (createInfo : XrDebugUtilsMessengerCreateInfoEXT) (messenger : Bool) :
    Sound t (termCreateDebugUtilsMessenger env inst createInfo messenger)
      (OpenXRSdk.termCreateDebugUtilsMessenger env inst createInfo messenger) := by
  unfold termCreateDebugUtilsMessenger OpenXRSdk.termCreateDebugUtilsMessenger
  dsimp only
  split_ifs
  · exact .pure _
  refine (sound_getDispatchTable inst).bind fun _ => (sound_dispatchTableOf _).bind fun table =>
    Sound.bind (.use (keepsRuntime_frame.runtimeMessenger env table inst createInfo)) fun reply => ?_
  split_ifs
  · cases reply.handle with
    | none => exact Sound.undefinedBehaviour.bind fun _ => .pure _
    | some handle =>
      refine Sound.bind (.other (keepsRuntime_frame.modifyRecorders ?_)) fun _ =>
        Sound.bind (.use (Within.modify fun w => keepsRuntime_frame.messengers w _)) fun _ => .pure _
      exact fun _ => rfl
  · exact .pure _

theorem sound_termDestroyDebugUtilsMessenger (messenger : XrDebugUtilsMessengerEXT) :
    Sound t (termDestroyDebugUtilsMessenger env messenger)
      (OpenXRSdk.termDestroyDebugUtilsMessenger env messenger) := by
  have htable : Sound t (use (RuntimeInterface.getDebugUtilsMessengerDispatchTable messenger))
      (RuntimeInterface.getDebugUtilsMessengerDispatchTable messenger) :=
    .use (RuntimeInterface.getRuntime_within.bind fun _ => getDispatchTable_within _)
  have hremove : Sound t (other (modifyLogger (·.removeLogRecorder messenger)))
      (modifyLogger (·.removeLogRecorder messenger)) :=
    .other (keepsRuntime_frame.modifyRecorders fun _ => rfl)
  have hforget : Sound t (use (RuntimeInterface.forgetDebugMessenger messenger))
      (RuntimeInterface.forgetDebugMessenger messenger) :=
    .use ((Within.modify fun w => keepsRuntime_frame.messengers w _).ite (Within.pure _))
  refine htable.bind fun table => hremove.bind fun _ => hforget.bind fun _ =>
    (sound_dispatchTableOf table).bind fun table => ?_
  cases table .destroyDebugUtilsMessengerEXT with
  | null => exact .pure _
  | foreign f => exact (sound_ask _).bind fun _ => .pure _
  | _ => exact .undefinedBehaviour

theorem sound_callRuntimeIfPresent (inst : XrInstance) (call : TermCall) :
    Sound t (callRuntimeIfPresent env inst call) (OpenXRSdk.callRuntimeIfPresent env inst call) := by
  refine (sound_getDispatchTable inst).bind fun _ => (sound_dispatchTableOf _).bind fun table => ?_
  cases table call.command with
  | null => exact .pure _
  | foreign f => exact (sound_ask _).bind fun _ => .pure _
  | _ => exact .undefinedBehaviour

theorem sound_terminate (call : TermCall) : Sound t (terminate env call) (OpenXRSdk.terminate env call) := by
  cases call with
  | createInstance info => exact sound_termCreateInstance env info
  | destroyInstance inst => exact sound_termDestroyInstance env inst
  | createDebugUtilsMessengerEXT inst info messenger =>
    exact sound_termCreateDebugUtilsMessenger env inst info messenger
  | destroyDebugUtilsMessengerEXT messenger => exact sound_termDestroyDebugUtilsMessenger env messenger
  | submitDebugUtilsMessageEXT inst severity types => exact sound_callRuntimeIfPresent env inst _
  | setDebugUtilsObjectNameEXT inst info =>
    exact (sound_callRuntimeIfPresent env inst _).bind fun _ =>
      Sound.bind (.other (E := isUndefined) (Within.modify fun _ => keepsRuntime_of_eq rfl))
        fun _ => .pure _

/-- Foreign code is asked for, and then run with the terminators. -/
theorem sound_askTree {A : Type} (answer : ℕ → CallTree TermCall Reply A) :
    Sound t (other (ask answer) >>= fun tree => .ofTree (terminate env) tree)
      (ask answer >>= fun tree => tree.run (OpenXRSdk.terminate env)) :=
  Sound.bind (.other (keepsRuntime_frame.ask answer)) fun tree => .ofTree (sound_terminate env) tree

theorem sound_callFunction (function : Pfn) (call : TermCall) :
    Sound t (callFunction env function call) (OpenXRSdk.callFunction env function call) := by
  cases function with
  | term command => exact (sound_terminate env call).ite .undefinedBehaviour
  | foreign f => exact sound_askTree env _
  | _ => exact .undefinedBehaviour

end Terminators

section Calls
variable {T : Type} {t : T} (env : Environment)

theorem later_keepsRuntime {w w' : World} (h : Later w w') : KeepsRuntime w w' :=
  keepsRuntime_of_loads h.loads

theorem sound_collectExtensions [DecidableEq T] (layerName : Option StdString) :
    Sound t (collectExtensions t env layerName) (LoaderCore.collectExtensions env layerName) := by
  have hlayers := (LoaderCore.layerExtensionProperties_later env layerName).mono
    (fun _ _ => later_keepsRuntime) fun _ h => h
  have hruntime (props : List XrExtensionProperties) :
      Sound t (use (RuntimeInterface.getInstanceExtensionProperties env props))
        (RuntimeInterface.getInstanceExtensionProperties env props) :=
    .use ((RuntimeInterface.getInstanceExtensionProperties_later env props).mono
      (fun _ _ => later_keepsRuntime) fun _ h => h)
  refine Sound.bind (.other hlayers) fun found => .ite (.pure _) ?_
  exact (Sound.load env).bind fun result => .ite (.pure _) ((hruntime _).bind fun _ => .pure _)

theorem sound_loadRuntimeAndLayers [DecidableEq T] (info : XrInstanceCreateInfo) :
    Sound t (loadRuntimeAndLayers t env info) (LoaderCore.loadRuntimeAndLayers env info) := by
  have hlayers : Within KeepsRuntime (fun _ => True) (ApiLayerInterface.loadApiLayers env
      info.enabledApiLayerCount info.enabledApiLayerNames) := by
    intro w
    have hspec := ApiLayerInterface.loadApiLayers_spec env info.enabledApiLayerCount
      info.enabledApiLayerNames w w (refl_of Later w)
    cases hx : ApiLayerInterface.loadApiLayers env info.enabledApiLayerCount
        info.enabledApiLayerNames w with
    | ok found w' =>
      rw [hx] at hspec
      obtain ⟨c, l, rfl, -⟩ := hspec
      exact keepsRuntime_of_eq rfl
    | error e w' =>
      rw [hx] at hspec
      exact ⟨trivial, later_keepsRuntime hspec⟩
  exact (Sound.load env).bind fun result => .ite (.pure _) (.other hlayers)

theorem sound_callCreateApiLayerInstance (cali : Pfn) (info : XrInstanceCreateInfo)
    (nextInfo : List XrApiLayerNextInfo) : Sound t (callCreateApiLayerInstance env cali info nextInfo)
      (LoaderInstance.callCreateApiLayerInstance env cali info nextInfo) := by
  cases cali with
  | term command =>
    cases command with
    | createApiLayerInstance => exact sound_terminate env (.createInstance info)
    | _ => exact .undefinedBehaviour
  | foreign f => exact sound_askTree env _
  | _ => exact .undefinedBehaviour

theorem sound_callChain (layers : List ApiLayerInterface) (info : XrInstanceCreateInfo) :
    Sound t (callChain env layers info) (LoaderInstance.callChain env layers info) :=
  .ite (sound_terminate env _) (sound_callCreateApiLayerInstance env _ _ _)

theorem sound_createChained (layers : List ApiLayerInterface) (info : XrInstanceCreateInfo)
    (names : List StdString) : Sound t (createChained env layers info names)
      (LoaderInstance.createChained env layers info names) := by
  refine Sound.bind (.use (LoaderInstance.checkExtensions_within layers names)) fun result =>
    .ite (.pure _) ?_
  exact Sound.bind (.use (LoaderInstance.modifiedCreateInfo_within info names)) fun info =>
    sound_callChain env layers info

theorem destroyInterfaces_keepsRuntime (layers : List ApiLayerInterface) :
    Within KeepsRuntime isUndefined (ApiLayerInterface.destroyInterfaces layers) :=
  Within.forM (x := fun iface => closeLibrary iface.layerLibrary)
    (fun _ => Within.modify fun _ => keepsRuntime_of_eq rfl) layers

theorem sound_createLoaderInstance (layers : List ApiLayerInterface) (info : XrInstanceCreateInfo) :
    Sound t (createLoaderInstance env layers info) (LoaderInstance.createInstance env layers info) := by
  have hconstruct (inst : XrInstance) (names : List StdString) :
      Within KeepsRuntime isUndefined (LoaderInstance.construct env inst names layers) :=
    ((LoaderInstance.populateDispatchTable_later env _ inst).mono (fun _ _ => later_keepsRuntime)
      fun _ h => h).bind fun _ => Within.pure _
  unfold createLoaderInstance LoaderInstance.createInstance
  cases arrayNames info.enabledExtensionCount info.enabledExtensionNames with
  | none => exact .undefinedBehaviour
  | some names =>
    refine (sound_createChained env layers info names).bind fun reply => .ite ?_ ?_
    · exact Sound.bind (.other (destroyInterfaces_keepsRuntime layers)) fun _ => .pure _
    · exact Sound.bind (.use (hconstruct _ names)) fun _ => .pure _

theorem set_keepsRuntime (loaderInstance : LoaderInstance) :
    Within KeepsRuntime isUndefined (ActiveLoaderInstance.set loaderInstance) := by
  refine Within.get.bind fun w => ?_
  split_ifs
  · exact (destroyInterfaces_keepsRuntime _).bind fun _ => Within.pure _
  · exact Within.bind (r := KeepsRuntime) (Within.modify fun _ => keepsRuntime_of_eq rfl)
      fun _ => Within.pure _

theorem sound_createActiveInstance [DecidableEq T] (info : XrInstanceCreateInfo) :
    Sound t (createActiveInstance t env info) (LoaderCore.createActiveInstance env info) := by
  refine (sound_loadRuntimeAndLayers env info).bind fun loaded => .ite (.pure _) ?_
  refine (sound_createLoaderInstance env loaded.2 info).bind fun created => ?_
  obtain ⟨result, created⟩ := created
  cases created with
  | none => exact .pure _
  | some loaderInstance => exact Sound.bind (.other (set_keepsRuntime loaderInstance)) fun _ => .pure _

theorem sound_active : Sound t (other ActiveLoaderInstance.active) ActiveLoaderInstance.active :=
  .other (E := isUndefined) LoaderCore.active_within

theorem sound_createDebugUtilsMessenger (inst : XrInstance)
    (createInfo : XrDebugUtilsMessengerCreateInfoEXT) (messenger : Bool) :
    Sound t (createDebugUtilsMessenger env inst createInfo messenger)
      (LoaderCore.createDebugUtilsMessenger env inst createInfo messenger) := by
  refine .ite (.pure _) (sound_active.bind fun active => ?_)
  cases active with
  | none => exact .pure _
  | some loaderInstance => exact sound_callFunction env _ _

theorem sound_destroyDebugUtilsMessenger (messenger : XrDebugUtilsMessengerEXT) :
    Sound t (destroyDebugUtilsMessenger env messenger)
      (LoaderCore.destroyDebugUtilsMessenger env messenger) := by
  refine .ite (.pure _) (sound_active.bind fun active => ?_)
  cases active with
  | none => exact .pure _
  | some loaderInstance => exact sound_callFunction env _ _

theorem sound_createDefaultMessenger (createInfo : XrDebugUtilsMessengerCreateInfoEXT)
    (inst : XrInstance) : Sound t (createDefaultMessenger env createInfo inst)
      (LoaderCore.createDefaultMessenger env createInfo inst) := by
  refine (sound_createDebugUtilsMessenger env inst createInfo true).bind fun reply => .ite (.pure _) ?_
  cases reply.handle with
  | none => exact .undefinedBehaviour
  | some messenger =>
    exact Sound.bind (.other (E := isUndefined) (Within.modify fun _ => keepsRuntime_of_eq rfl))
      fun _ => .pure _

theorem sound_destroyDefaultMessenger (loaderInstance : LoaderInstance) :
    Sound t (destroyDefaultMessenger env loaderInstance)
      (LoaderCore.destroyDefaultMessenger env loaderInstance) := by
  unfold destroyDefaultMessenger LoaderCore.destroyDefaultMessenger
  split_ifs
  · exact (sound_destroyDebugUtilsMessenger env _).bind fun _ => .pure _
  · exact .pure _

end Calls

/-! ## Whole calls -/

section Performing
variable {T α : Type} {t : T}

theorem keeps_outside_done (a : α) :
    (Program.done a : Thread T α).Keeps (contract t) (Outside t) :=
  Program.keeps_done (stable_outside t) a

/-- A thread without the mutex that leaves the runtime alone. -/
theorem keeps_outside_other {x : Loader α} {E : Fault → Prop} (h : Within KeepsRuntime E x) :
    (other x).Keeps (contract t) (Outside t) := by
  refine fun _ => Program.safe_atomic (stable_outside t) (stable_outside t)
    (fun _ _ hl => by cases hl) fun s hs _ => ?_
  have := h s.world
  unfold onWorld
  cases hx : x s.world with
  | ok a w =>
    rw [hx] at this
    exact ⟨guarantee_of_world fun _ _ _ _ => this, hs⟩
  | error e w =>
    rw [hx] at this
    exact ⟨guarantee_of_world fun _ _ _ _ => this.2, hs⟩

theorem unload_endsIn {P : Shared T → Prop} {s : Shared T} (h : ∀ w, P { s with world := w }) :
    Program.EndsIn P (onWorld RuntimeInterface.unloadRuntime s) := by
  obtain ⟨l, hrun, -⟩ := RuntimeInterface.unloadRuntime_run s.world
  unfold onWorld
  rw [hrun]
  exact h _

/-- Without the mutex, only what is permitted keeps the others safe. -/
theorem keeps_outside_unload : (unload : Thread T PUnit).Keeps (contract t) (Outside t) := by
  intro _ hout
  refine Program.safe_atomic (stable_outside t) (stable_outside t) (fun _ _ hl => by cases hl)
    (fun s hs hpermitted => ?_) hout
  refine unload_endsIn fun w => ⟨?_, hs⟩
  refine guarantee_of_world fun t' ht ho hl => ?_
  rw [hpermitted rfl t' ht ho] at hl
  cases hl

/-- With the mutex, the runtime may be unloaded, and is not needed any more. -/
theorem safe_inside_unload {s : Shared T} (hs : Inside t s) :
    (unload : Thread T PUnit).Safe (contract t) (fun _ => Owning t) (fun _ => Owning t) s := by
  refine Program.safe_atomic (stable_inside t) (stable_owning t) (fun _ _ hl => by cases hl)
    (fun s hs _ => ?_) hs
  refine unload_endsIn fun w => ⟨?_, hs.1⟩
  exact guarantee_of_owner hs.1 hs.1 fun _ _ => rfl

theorem keeps_owning_other (x : Loader α) : (other x).Keeps (contract t) (Owning t) := by
  refine fun _ => Program.safe_atomic (stable_owning t) (stable_owning t)
    (fun _ _ hl => by cases hl) fun s hs _ => ?_
  unfold onWorld
  cases x s.world <;> exact ⟨guarantee_of_owner hs hs fun _ _ => rfl, hs⟩

theorem safe_unlock {s : Shared T} (hs : Owning t s) :
    (unlock : Thread T PUnit).Safe (contract t) (fun _ => Outside t) (fun _ => Outside t) s := by
  refine Program.safe_atomic (stable_owning t) (stable_outside t) (fun _ _ hl => by cases hl)
    (fun s hs _ => ?_) hs
  refine ⟨fun t' ht => ?_, fun h => by cases h⟩
  have hne : s.owner ≠ some t' := fun h => ht (Option.some.inj (h.symm.trans hs))
  exact ⟨⟨fun h => (by cases h), fun h => absurd h hne⟩, rfl, fun h => absurd h hne⟩

theorem keeps_abiTry {p : Thread T α} (h : p.Keeps (contract t) (Outside t)) (caught : α) :
    (abiTry caught p).Keeps (contract t) (Outside t) := by
  intro s hs
  refine (h s hs).catching (fun a s hs => Program.safe_done (stable_outside t) a hs) fun e s hs => ?_
  cases e with
  | exception => exact Program.safe_done (stable_outside t) caught hs
  | undefinedBehaviour => exact Program.safe_fail (stable_outside t) _ hs

theorem safe_weaken {p : Thread T α} (h : p.Keeps (contract t) (Inside t)) (s : Shared T)
    (hs : Inside t s) : p.Safe (contract t) (fun _ => Owning t) (fun _ => Owning t) s :=
  Program.Safe.weaken (h s hs) (fun _ _ h => h.1) fun _ _ h => h.1

variable [DecidableEq T]

theorem safe_lock (s : Shared T) :
    (lock t).Safe (contract t) (fun _ => Inside t) (fun _ => Outside t) s := by
  intro s' _
  refine ⟨fun hl => (by cases hl), fun henabled _ => ?_⟩
  have hnone : s'.owner = none := Option.isNone_iff_eq_none.mp henabled
  have hne (t' : T) : s'.owner ≠ some t' := by
    rw [hnone]
    exact fun h => by cases h
  refine ⟨fun t' ht => ⟨⟨fun h => absurd (Option.some.inj h).symm ht, fun h => absurd h (hne t')⟩,
    Function.update_of_ne ht _ _, fun h => absurd h (hne t')⟩, ?_⟩
  refine Program.safe_done (stable_inside t) _ ⟨rfl, fun hl => ?_⟩
  simp at hl

theorem keeps_locked {p : Thread T α} (h : ∀ s, Inside t s →
    p.Safe (contract t) (fun _ => Owning t) (fun _ => Owning t) s) :
    (locked t p).Keeps (contract t) (Outside t) := by
  intro s _
  refine (safe_lock s).bind (fun _ s hs => ?_) fun e s hs => Program.safe_fail (stable_outside t) e hs
  refine Program.Safe.ensuring (h s hs) (fun a s hs => ?_) fun e s hs => ?_
  · exact (safe_unlock hs).bind (fun _ s hs => Program.safe_done (stable_outside t) a hs)
      fun e s hs => Program.safe_fail (stable_outside t) e hs
  · exact (safe_unlock hs).bind (fun _ s hs => Program.safe_fail (stable_outside t) e hs)
      fun e s hs => Program.safe_fail (stable_outside t) e hs

end Performing

section Performing
variable {T : Type} {t : T} (env : Environment)

theorem implements_initializeLoader (info : List LoaderInitInfo) :
    Implements (T := T) (initializeLoader env info) (LoaderCore.initializeLoader env info) :=
  .abiTry ((implements_atomic _ _).bind fun _ => (implements_done _).ite
    ((implements_atomic _ _).bind fun _ => implements_atomic _ _)) _

theorem keeps_initializeLoader (info : List LoaderInitInfo) :
    (initializeLoader env info).Keeps (contract t) (Outside t) := by
  have havailable : Within KeepsRuntime isUndefined ActiveLoaderInstance.isAvailable :=
    Within.get.bind fun _ => Within.pure _
  have hinit : Within KeepsRuntime (fun _ => True) (LoaderCore.initializeInitData env info) := by
    intro w
    obtain ⟨overrides, initData, ⟨_, hrun⟩ | hrun⟩ := LoaderCore.initializeInitData_run env info w
    · rw [hrun]
      exact keepsRuntime_of_eq rfl
    · rw [hrun]
      exact ⟨trivial, keepsRuntime_of_eq rfl⟩
  refine keeps_abiTry ?_ _
  refine (keeps_outside_other havailable).bind (stable_outside t) fun active => ?_
  split_ifs
  · exact keeps_outside_done _
  · exact keeps_outside_unload.bind (stable_outside t) fun _ => keeps_outside_other hinit

variable [DecidableEq T]

theorem implements_enumerateInstanceExtensionProperties (layerName : Option StdString) (capacity : ℕ)
    (count : Bool) (types : Option (List ℕ)) :
    Implements (enumerateInstanceExtensionProperties t env layerName capacity count types)
      (LoaderCore.enumerateInstanceExtensionProperties env layerName capacity count types) := by
  have hcollect (layerName : Option StdString) :
      Implements (extensionProperties t env layerName) (LoaderCore.extensionProperties env layerName) :=
    ((sound_collectExtensions env layerName).implements.locked t).bind fun found =>
      (implements_done _).ite (implements_done _)
  refine .abiTry (.ite (implements_done _) ?_) _
  exact (hcollect _).bind fun found => (implements_done _).ite (implements_done _)

theorem keeps_enumerateInstanceExtensionProperties (layerName : Option StdString) (capacity : ℕ)
    (count : Bool) (types : Option (List ℕ)) :
    (enumerateInstanceExtensionProperties t env layerName capacity count types).Keeps (contract t)
      (Outside t) := by
  have hcollect (layerName : Option StdString) :
      (extensionProperties t env layerName).Keeps (contract t) (Outside t) := by
    refine (keeps_locked (safe_weaken (sound_collectExtensions env layerName).keeps)).bind
      (stable_outside t) fun found => ?_
    dsimp only
    split_ifs <;> exact keeps_outside_done _
  refine keeps_abiTry ?_ _
  split_ifs
  · exact keeps_outside_done _
  · refine (hcollect _).bind (stable_outside t) fun found => ?_
    dsimp only
    split_ifs <;> exact keeps_outside_done _

omit [DecidableEq T] in
theorem safe_fault {α : Type} (e : Fault) {s : Shared T} (h : Owning t s) :
    (Program.fail e : Thread T α).Safe (contract t) (fun _ => Owning t) (fun _ => Owning t) s :=
  Program.safe_fail (stable_owning t) e h

omit [DecidableEq T] in
/-- Once the active instance is gone the runtime may go too. -/
theorem safe_remove_unload {α : Type} {p : Thread T α} (hp : p.Keeps (contract t) (Owning t))
    {s : Shared T} (hs : Inside t s) :
    (other ActiveLoaderInstance.remove >>= fun _ => unload >>= fun _ => p).Safe (contract t)
      (fun _ => Owning t) (fun _ => Owning t) s := by
  have hremove : Within KeepsRuntime isUndefined ActiveLoaderInstance.remove := by
    refine Within.get.bind fun w => ?_
    cases w.activeInstance with
    | none => exact Within.pure _
    | some loaderInstance =>
      exact Within.bind (r := KeepsRuntime) (Within.modify fun _ => keepsRuntime_of_eq rfl)
        fun _ => destroyInterfaces_keepsRuntime _
  refine ((Sound.other hremove).keeps s hs).bind (fun _ s hs => ?_) fun e _ hs => safe_fault e hs.1
  exact (safe_inside_unload hs).bind (fun _ s hs => hp s hs) fun e _ hs => safe_fault e hs

omit [DecidableEq T] in
/-- The messenger of the next chain, once there is an instance. -/
theorem sound_chainedMessenger (info : XrInstanceCreateInfo) (result : XrResult)
    (active : Option LoaderInstance) : Sound t
      (match active with
        | none => other undefinedBehaviour
        | some loaderInstance =>
          match LoaderCore.messengerCreateInfo info.next with
          | none => .done ⟨result, some loaderInstance.runtimeInstance⟩
          | some createInfo => createDefaultMessenger env createInfo loaderInstance.runtimeInstance)
      (match active with
        | none => undefinedBehaviour
        | some loaderInstance =>
          match LoaderCore.messengerCreateInfo info.next with
          | none => pure ⟨result, some loaderInstance.runtimeInstance⟩
          | some createInfo =>
            LoaderCore.createDefaultMessenger env createInfo loaderInstance.runtimeInstance) := by
  cases active with
  | none => exact .undefinedBehaviour
  | some loaderInstance =>
    dsimp only
    cases LoaderCore.messengerCreateInfo info.next with
    | none => exact .pure _
    | some createInfo => exact sound_createDefaultMessenger env createInfo _

/-- The locked part of xrCreateInstance: after a failure the runtime goes last but for the
interfaces of the layers. -/
theorem sound_createWithoutActive (info : XrInstanceCreateInfo) :
    Implements (createWithoutActive t env info) (LoaderCore.createWithoutActive env info) ∧
      ∀ s, Inside t s → (createWithoutActive t env info).Safe (contract t) (fun _ => Owning t)
        (fun _ => Owning t) s := by
  have hactive := sound_createActiveInstance (t := t) env info
  have hmessenger := sound_chainedMessenger (t := t) env info
  constructor
  · have hget := (sound_active (t := t)).implements
    refine hactive.implements.bind fun created => .ite ?_ ?_
    · exact (implements_atomic _ _).bind fun _ => (implements_atomic _ _).bind fun _ =>
        (implements_atomic _ _).bind fun _ => implements_done _
    · exact hget.bind fun active => (hmessenger created.1 active).implements
  · intro s hs
    refine (hactive.keeps s hs).bind (fun created s hs => ?_) fun e _ hs => safe_fault e hs.1
    dsimp only
    split_ifs
    · exact safe_remove_unload ((keeps_owning_other _).bind (stable_owning t) fun _ =>
        Program.keeps_done (stable_owning t) _) hs
    · exact safe_weaken (sound_active.bind fun active => hmessenger created.1 active).keeps s hs

theorem implements_createInstance (info : Option XrInstanceCreateInfo) (inst : Bool) :
    Implements (createInstance t env info inst) (LoaderCore.createInstance env info inst) := by
  refine .abiTry ?_ _
  cases info with
  | none => exact implements_done _
  | some info =>
    refine .ite (implements_done _) (.ite (implements_done _) (.locked ?_ t))
    exact (implements_atomic _ _).bind fun _ =>
      (implements_done _).ite (sound_createWithoutActive env info).1

theorem keeps_createInstance (info : Option XrInstanceCreateInfo) (inst : Bool) :
    (createInstance t env info inst).Keeps (contract t) (Outside t) := by
  have havailable : Within KeepsRuntime isUndefined ActiveLoaderInstance.isAvailable :=
    Within.get.bind fun _ => Within.pure _
  refine keeps_abiTry ?_ _
  cases info with
  | none => exact keeps_outside_done _
  | some info =>
    dsimp only
    split_ifs
    · exact keeps_outside_done _
    · exact keeps_outside_done _
    · refine keeps_locked fun s hs => ((Sound.other havailable).keeps s hs).bind (fun active s hs => ?_)
        fun e _ hs => safe_fault e hs.1
      split_ifs
      · exact Program.safe_done (stable_owning t) _ hs.1
      · exact (sound_createWithoutActive env info).2 s hs

theorem implements_destroyInstance (inst : XrInstance) :
    Implements (destroyInstance t env inst) (LoaderCore.destroyInstance env inst) := by
  have hactive := (sound_active (t := t)).implements
  unfold LoaderCore.destroyInstance
  refine .ite (implements_done _) (.locked (hactive.bind fun active => ?_) t)
  cases active with
  | none => exact implements_done _
  | some loaderInstance =>
    exact (sound_destroyDefaultMessenger env loaderInstance (t := t)).implements.bind fun _ =>
      (sound_callFunction env _ _ (t := t)).implements.bind fun _ => (implements_atomic _ _).bind fun _ =>
        (implements_atomic _ _).bind fun _ => implements_done _

theorem keeps_destroyInstance (inst : XrInstance) :
    (destroyInstance t env inst).Keeps (contract t) (Outside t) := by
  unfold destroyInstance
  split_ifs
  · exact keeps_outside_done _
  refine keeps_locked fun s hs => (sound_active.keeps s hs).bind (fun active s hs => ?_)
    fun e _ hs => safe_fault e hs.1
  cases active with
  | none => exact Program.safe_done (stable_owning t) _ hs.1
  | some loaderInstance =>
    refine ((sound_destroyDefaultMessenger env loaderInstance).keeps s hs).bind (fun _ s hs => ?_)
      fun e _ hs => safe_fault e hs.1
    refine ((sound_callFunction env _ _).keeps s hs).bind (fun _ s hs => ?_)
      fun e _ hs => safe_fault e hs.1
    exact safe_remove_unload (Program.keeps_done (stable_owning t) _) hs

omit [DecidableEq T] in
theorem implements_replyOf {α : Type} {p : Thread T α} {x : Loader α} (h : Implements p x)
    (result : α → XrResult) : Implements (replyOf result p) (LoaderCore.replyOf result x) :=
  h.bind fun _ => implements_done _

omit [DecidableEq T] in
theorem keeps_replyOf {α : Type} {p : Thread T α} (h : p.Keeps (contract t) (Outside t))
    (result : α → XrResult) : (replyOf result p).Keeps (contract t) (Outside t) :=
  h.bind (stable_outside t) fun _ => keeps_outside_done _

/-- Alone, the steps of a call do what the call does. -/
theorem implements_perform (call : Call) :
    Implements (perform t env call) (LoaderCore.perform env call.toLoader) := by
  cases call with
  | initializeLoader info => exact implements_replyOf (implements_initializeLoader env info) _
  | enumerateInstanceExtensionProperties layerName capacity count types =>
    exact implements_replyOf (implements_enumerateInstanceExtensionProperties env _ _ _ _) _
  | createInstance info inst => exact implements_createInstance env info inst
  | destroyInstance inst => exact implements_replyOf (implements_destroyInstance env inst) _

theorem keeps_perform (call : Call) : (perform t env call).Keeps (contract t) (Outside t) := by
  cases call with
  | initializeLoader info => exact keeps_replyOf (keeps_initializeLoader env info) _
  | enumerateInstanceExtensionProperties layerName capacity count types =>
    exact keeps_replyOf (keeps_enumerateInstanceExtensionProperties env _ _ _ _) _
  | createInstance info inst => exact keeps_createInstance env info inst
  | destroyInstance inst => exact keeps_replyOf (keeps_destroyInstance env inst) _

end Performing

/-! ## Runs -/

section Runs
variable {T : Type} [DecidableEq T]

/-- Where a thread is about to use the runtime, and has loaded it, it is there. -/
def RuntimeThere (s : Threads T) : Prop :=
  ∀ t, (s.program t).label? = some .use → s.shared.loaded t → s.shared.world.runtime.isSome

/-- The step does not unload the runtime while another thread holds the mutex and has loaded it. -/
def UnloadsNobodys (x : Transition (Threads T) (Move T (Environment × Call))) : Prop :=
  match x.label with
  | .start _ _ => True
  | .act t => (x.before.program t).label? = some .unload →
    ∀ t', t' ≠ t → x.before.shared.owner = some t' → x.before.shared.loaded t' = false

theorem runtime_there {w : World} {s : Threads T}
    {trace : List (Transition (Threads T) (Move T (Environment × Call)))}
    (hrun : Run (Step calls) (idle w) trace s) (hunload : ∀ x ∈ trace, UnloadsNobodys x) :
    RuntimeThere s := by
  have hsafe : AllSafe contract Outside (fun t _ => Outside t) s := by
    refine AllSafe.run (c := contract) (Q := Outside) (E := fun t _ => Outside t)
      (fun t t' _ _ ht hg => hg t' (Ne.symm ht)) (fun t call u hu => keeps_perform call.1 call.2 u hu)
      hrun (fun t => Program.safe_done (stable_outside t) _ fun h => by cases h) fun x hx => ?_
    have hperm := hunload x hx
    unfold Permitted
    unfold UnloadsNobodys at hperm
    cases hm : x.label with
    | start t call => trivial
    | act t =>
      rw [hm] at hperm
      rintro label hlabel rfl
      exact hperm hlabel
  exact fun t huse hloaded => (hsafe t).obliged huse rfl hloaded

end Runs

def willingRuntime : Environment := LoaderCore.runtimeAnswering fun _ => ⟨xrSuccess, some 7⟩

/-- The first thread has loaded the runtime and is about to ask it for its extensions. -/
def enumerating : List (Move Bool (Environment × Call)) :=
  [.start false (willingRuntime, .enumerateInstanceExtensionProperties none 0 true none),
    .act false, .act false, .act false]

def reinitializing : List (Move Bool (Environment × Call)) :=
  enumerating ++ [.start true (willingRuntime, .initializeLoader []), .act true, .act true]

def lonely (s : Threads Bool) : Move Bool (Environment × Call) → Bool
  | .start _ _ => true
  | .act t => (s.program t).label? ≠ some .unload

def AboutToUse (s : Threads Bool) (t : Bool) : Prop :=
  (s.program t).label? = some .use ∧ s.shared.loaded t

instance (s : Threads Bool) (t : Bool) : Decidable (AboutToUse s t) :=
  inferInstanceAs (Decidable (_ ∧ _))

theorem runtime_there_enumerating : ∃ (s : Threads Bool) (trace : _),
    Run (Step calls) (idle (World.initial (.new false false []))) trace s ∧ AboutToUse s false ∧
      RuntimeThere s := by
  have hfollow : ((idle (World.initial (.new false false []))).follow calls lonely
      (enumerating ++ [.start true (willingRuntime, .initializeLoader []), .act true])).any
      fun s => decide (AboutToUse s false) := by
    decide +kernel
  obtain ⟨s, hs, huse⟩ := (Option.any_eq_true _ _).mp hfollow
  obtain ⟨trace, hrun, hlonely⟩ := exists_run .nil (fun _ h => by cases h) hs
  refine ⟨s, trace, hrun, of_decide_eq_true huse, runtime_there hrun fun x hx => ?_⟩
  have := hlonely x hx
  unfold UnloadsNobodys
  unfold lonely at this
  split
  · trivial
  · next t hm =>
    rw [hm] at this
    intro hl
    simp [hl] at this

theorem runtime_unloadedInUse : ∃ (s : Threads Bool) (trace : _),
    Run (Step calls) (idle (World.initial (.new false false []))) trace s ∧ AboutToUse s false ∧
      s.shared.world.runtime.isNone := by
  have hfollow : ((idle (World.initial (.new false false []))).follow calls (fun _ _ => true)
      reinitializing).any fun s => decide (AboutToUse s false ∧ s.shared.world.runtime.isNone) := by
    decide +kernel
  obtain ⟨s, hs, huse⟩ := (Option.any_eq_true _ _).mp hfollow
  obtain ⟨trace, hrun, -⟩ := exists_run .nil (fun _ h => by cases h) hs
  exact ⟨s, trace, hrun, of_decide_eq_true huse⟩

end OpenXRSdk.Concurrency
