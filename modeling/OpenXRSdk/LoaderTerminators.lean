import OpenXRSdk.RuntimeLoading

/-!
# Terminators

The end of the call chain: what the loader does with a call that came down through the
layers, before or instead of handing it to the runtime.
-/
namespace OpenXRSdk

open StateProgram

def validateApplicationInfo (info : XrApplicationInfo) : XrResult :=
  if isMissingNullTerminator info.applicationName then xrErrorNameInvalid
  else if isMissingNullTerminator info.engineName then xrErrorNameInvalid
  else if isEmptyCString info.applicationName then xrErrorNameInvalid
  else xrSuccess

def validateInstanceCreateInfo (info : XrInstanceCreateInfo) : XrResult :=
  if info.type ≠ xrTypeInstanceCreateInfo then xrErrorValidationFailure
  else if info.createFlags ≠ 0 then xrErrorValidationFailure
  else if xrFailed (validateApplicationInfo info.applicationInfo) then
    validateApplicationInfo info.applicationInfo
  else if info.enabledExtensionCount ≠ 0 ∧ info.enabledExtensionNames = none then
    xrErrorValidationFailure
  else xrSuccess

def modifyLogger (f : LoaderLogger → LoaderLogger) : Loader PUnit :=
  modify fun w => { w with logger := f w.logger }

/-- `LoaderXrTermCreateInstance`, and `LoaderXrTermCreateApiLayerInstance`. -/
def termCreateInstance (env : Environment) (createInfo : XrInstanceCreateInfo) : Loader Reply :=
  if xrFailed (validateInstanceCreateInfo createInfo) then
    return ⟨validateInstanceCreateInfo createInfo, none⟩
  else RuntimeInterface.createInstance env createInfo

def termDestroyInstance (env : Environment) (inst : XrInstance) : Loader Reply := do
  modifyLogger (·.removeLogRecordersForXrInstance inst)
  let _ ← RuntimeInterface.getRuntime
  return ⟨← RuntimeInterface.destroyInstance env inst, none⟩

/-- The table of an instance, which the code dereferences without looking whether it is
there. -/
def dispatchTableOf (table : Option DispatchTable) : Loader DispatchTable :=
  match table with
  | none => undefinedBehaviour
  | some table => return table

/-- The runtime's answer, or a new character's address where it has no such function. -/
def runtimeMessenger (env : Environment) (table : DispatchTable) (inst : XrInstance)
    (createInfo : XrDebugUtilsMessengerCreateInfoEXT) : Loader Reply :=
  match table .createDebugUtilsMessengerEXT with
  | .null => do return ⟨xrSuccess, some (← ask env.allocateChar)⟩
  | .foreign f => ask fun t =>
      env.callRuntime t f (.createDebugUtilsMessengerEXT inst createInfo true)
  | _ => undefinedBehaviour

def termCreateDebugUtilsMessenger (env : Environment) (inst : XrInstance)
    (createInfo : XrDebugUtilsMessengerCreateInfoEXT) (messenger : Bool) : Loader Reply := do
  if !messenger then return ⟨xrErrorValidationFailure, none⟩
  let table ← dispatchTableOf (← RuntimeInterface.getDispatchTable inst)
  let reply ← runtimeMessenger env table inst createInfo
  if xrSucceeded reply.result then
    match reply.handle with
    | none => undefinedBehaviour
    | some handle =>
      modifyLogger (·.addLogRecorderForXrInstance inst
        (makeDebugUtilsLoaderLogRecorder createInfo handle))
      RuntimeInterface.trackDebugMessenger inst handle
  return reply

/-- The table is fetched before the messenger is forgotten, and used after it. -/
def termDestroyDebugUtilsMessenger (env : Environment) (messenger : XrDebugUtilsMessengerEXT) :
    Loader Reply := do
  let table ← RuntimeInterface.getDebugUtilsMessengerDispatchTable messenger
  modifyLogger (·.removeLogRecorder messenger)
  RuntimeInterface.forgetDebugMessenger messenger
  let table ← dispatchTableOf table
  match table .destroyDebugUtilsMessengerEXT with
  | .null => return ⟨xrSuccess, none⟩
  | .foreign f =>
    let reply ← ask fun t => env.callRuntime t f (.destroyDebugUtilsMessengerEXT messenger)
    return ⟨reply.result, none⟩
  | _ => undefinedBehaviour

/-- The call that the runtime gets if it has the function, else the result `absent`. -/
def callRuntimeIfPresent (env : Environment) (inst : XrInstance) (call : TermCall) : Loader Reply := do
  let table ← dispatchTableOf (← RuntimeInterface.getDispatchTable inst)
  match table call.command with
  | .null => return ⟨xrSuccess, none⟩
  | .foreign f =>
    let reply ← ask fun t => env.callRuntime t f call
    return ⟨reply.result, none⟩
  | _ => undefinedBehaviour

/-- The name is stored whatever the runtime answers. -/
def termSetDebugUtilsObjectName (env : Environment) (inst : XrInstance)
    (nameInfo : XrDebugUtilsObjectNameInfoEXT) : Loader Reply := do
  let reply ← callRuntimeIfPresent env inst (.setDebugUtilsObjectNameEXT inst nameInfo)
  modifyLogger fun logger => { logger with
    data := logger.data.addObjectName nameInfo.objectHandle nameInfo.objectType nameInfo.objectName }
  return reply

/-- Without a runtime function the message goes to the recorders, which keeps no state. -/
def termSubmitDebugUtilsMessage (env : Environment) (inst : XrInstance)
    (messageSeverity messageTypes : UInt64) : Loader Reply :=
  callRuntimeIfPresent env inst (.submitDebugUtilsMessageEXT inst messageSeverity messageTypes)

def terminate (env : Environment) : TermCall → Loader Reply
  | .createInstance info => termCreateInstance env info
  | .destroyInstance inst => termDestroyInstance env inst
  | .createDebugUtilsMessengerEXT inst info messenger =>
    termCreateDebugUtilsMessenger env inst info messenger
  | .destroyDebugUtilsMessengerEXT messenger => termDestroyDebugUtilsMessenger env messenger
  | .submitDebugUtilsMessageEXT inst severity types => termSubmitDebugUtilsMessage env inst severity types
  | .setDebugUtilsObjectNameEXT inst info => termSetDebugUtilsObjectName env inst info

/-- The commands that LoaderXrTermGetInstanceProcAddr answers itself. -/
def hasTerminator : Command → Bool
  | .getInstanceProcAddr => true
  | .createInstance => true
  | .destroyInstance => true
  | .setDebugUtilsObjectNameEXT => true
  | .createDebugUtilsMessengerEXT => true
  | .destroyDebugUtilsMessengerEXT => true
  | .submitDebugUtilsMessageEXT => true
  | .createApiLayerInstance => true
  | _ => false

/-- Call a terminated command through a function pointer. -/
def callFunction (env : Environment) (function : Pfn) (call : TermCall) : Loader Reply :=
  match function with
  | .term command => if command = call.command then terminate env call else undefinedBehaviour
  | .foreign f => do
    let tree ← ask fun t => env.callLayer t f call
    tree.run (terminate env)
  | _ => undefinedBehaviour

/-- Call any other command through a function pointer. -/
def callDownFunction (env : Environment) (function : Pfn) (call : DownCall) : Loader XrResult :=
  match function with
  | .foreign f => do
    let tree ← ask fun t => env.callDown t f call
    tree.run (terminate env)
  | _ => undefinedBehaviour

/-! ## What no terminator changes -/

namespace World

/-- The same runtime is loaded and the same instance is active. -/
structure KeepsLoaded (w w' : World) : Prop where
  libraries : w'.libraries = w.libraries
  overrides : w'.overrides = w.overrides
  initData : w'.initData = w.initData
  activeInstance : w'.activeInstance = w.activeInstance
  runtime : w'.runtime.map (fun rt => (rt.runtimeLibrary, rt.getInstanceProcAddr, rt.supportedExtensions)) =
    w.runtime.map (fun rt => (rt.runtimeLibrary, rt.getInstanceProcAddr, rt.supportedExtensions))

instance : IsPreorder World KeepsLoaded where
  refl _ := ⟨rfl, rfl, rfl, rfl, rfl⟩
  trans _ _ _ h g := ⟨g.libraries.trans h.libraries, g.overrides.trans h.overrides,
    g.initData.trans h.initData, g.activeInstance.trans h.activeInstance, g.runtime.trans h.runtime⟩

theorem Later.keepsLoaded {w w' : World} (h : Later w w') : KeepsLoaded w w' := by
  obtain ⟨c, rfl⟩ := h
  exact ⟨rfl, rfl, rfl, rfl, rfl⟩

theorem KeepsLoaded.runtimeLibraries {w w' : World} (h : KeepsLoaded w w') :
    w'.runtimeLibraries = w.runtimeLibraries := by
  have hmap (v : World) : v.runtimeLibraries = (v.runtime.map fun rt =>
      (rt.runtimeLibrary, rt.getInstanceProcAddr, rt.supportedExtensions)).toList.map (·.1) := by
    unfold World.runtimeLibraries
    cases v.runtime <;> rfl
  rw [hmap, hmap, h.runtime]

end World

open World

/-- A relation that allows what terminators do to the recorders and the messengers. -/
structure Frame (r : World → World → Prop) : Prop where
  tick : ∀ w : World, r w w.tick
  recorders : ∀ (w : World) (f : LoaderLogger → LoaderLogger), (∀ logger, (f logger).data = logger.data) →
    r w { w with logger := f w.logger }
  messengers : ∀ (w : World) (f : UnorderedMap XrDebugUtilsMessengerEXT XrInstance → _),
    r w { w with runtime := w.runtime.map fun rt =>
      { rt with messengerToInstanceMap := f rt.messengerToInstanceMap } }

/-- It also allows changes of the dispatch tables. -/
def AllowsTables (r : World → World → Prop) : Prop :=
  ∀ (w : World) (f : UnorderedMap XrInstance DispatchTable → _),
    r w { w with runtime := w.runtime.map fun rt =>
      { rt with dispatchTableMap := f rt.dispatchTableMap } }

/-- It also allows names to be given to objects. -/
def AllowsNames (r : World → World → Prop) : Prop :=
  ∀ (w : World) handle type name, r w { w with logger := { w.logger with
    data := w.logger.data.addObjectName handle type name } }

def TermCall.changesTables : TermCall → Bool
  | .createInstance _ => true
  | .destroyInstance _ => true
  | _ => false

def TermCall.changesNames : TermCall → Bool
  | .setDebugUtilsObjectNameEXT _ _ => true
  | _ => false

section Framing
variable {r : World → World → Prop} (h : Frame r)
include h

theorem Frame.ask {α : Type} (answer : ℕ → α) : Within r isUndefined (ask answer) := h.tick

theorem Frame.modifyRecorders {f : LoaderLogger → LoaderLogger}
    (hf : ∀ logger, (f logger).data = logger.data) : Within r isUndefined (modifyLogger f) :=
  Within.modify fun w => h.recorders w f hf

variable [IsPreorder World r] (env : Environment)

theorem Frame.runtimeFunction (inst : XrInstance) (command : Command) :
    Within r isUndefined (RuntimeInterface.runtimeFunction env inst command) := by
  refine RuntimeInterface.getRuntime_within.bind fun rt => (h.ask _).bind fun reply => ?_
  split
  · exact Within.pure _
  · exact undefinedBehaviour_within

omit h in
theorem dispatchTableOf_within (table : Option DispatchTable) :
    Within r isUndefined (dispatchTableOf table) := by
  cases table with
  | none => exact undefinedBehaviour_within
  | some table => exact Within.pure table

omit h in
theorem getDispatchTable_within (inst : XrInstance) :
    Within r isUndefined (RuntimeInterface.getDispatchTable inst) :=
  RuntimeInterface.getRuntime_within.bind fun _ => Within.pure _

theorem Frame.termCreateInstance (ht : AllowsTables r) (info : XrInstanceCreateInfo) :
    Within r isUndefined (termCreateInstance env info) := by
  refine (Within.pure _).ite ?_
  refine (h.runtimeFunction env _ _).bind fun address => (h.ask _).bind fun reply => ?_
  dsimp only
  split_ifs
  · refine Within.bind ?_ fun _ => Within.pure _
    exact RuntimeInterface.getRuntime_within.bind fun _ => (h.ask _).bind fun _ =>
      Within.modify fun w => ht w _
  · exact Within.pure _

theorem Frame.termDestroyInstance (ht : AllowsTables r) (inst : XrInstance) :
    Within r isUndefined (termDestroyInstance env inst) := by
  refine (h.modifyRecorders fun logger => logger.data_removeForInstance inst).bind fun _ =>
    RuntimeInterface.getRuntime_within.bind fun _ => Within.bind ?_ fun _ => Within.pure _
  unfold RuntimeInterface.destroyInstance
  dsimp only
  split_ifs
  · exact (Within.modify fun w => ht w _).bind fun _ => (h.runtimeFunction env _ _).bind fun _ =>
      (h.ask _).bind fun _ => Within.pure _
  · exact Within.pure _

theorem Frame.runtimeMessenger (table : DispatchTable) (inst : XrInstance)
    (createInfo : XrDebugUtilsMessengerCreateInfoEXT) :
    Within r isUndefined (runtimeMessenger env table inst createInfo) := by
  unfold OpenXRSdk.runtimeMessenger
  split
  · exact (h.ask _).bind fun _ => Within.pure _
  · exact h.ask _
  · exact undefinedBehaviour_within

theorem Frame.termCreateDebugUtilsMessenger (inst : XrInstance)
    (createInfo : XrDebugUtilsMessengerCreateInfoEXT) (messenger : Bool) :
    Within r isUndefined (termCreateDebugUtilsMessenger env inst createInfo messenger) := by
  unfold OpenXRSdk.termCreateDebugUtilsMessenger
  dsimp only
  split_ifs
  · exact Within.pure _
  refine (getDispatchTable_within inst).bind fun _ => (dispatchTableOf_within _).bind
    fun table => (h.runtimeMessenger env table inst createInfo).bind fun reply => ?_
  split_ifs
  · split
    · exact undefinedBehaviour_within
    · refine Within.bind (h.modifyRecorders ?_) fun _ =>
        Within.bind (Within.modify fun w => h.messengers w _) fun _ => Within.pure _
      exact fun _ => rfl
  · exact Within.pure _

theorem Frame.termDestroyDebugUtilsMessenger (messenger : XrDebugUtilsMessengerEXT) :
    Within r isUndefined (termDestroyDebugUtilsMessenger env messenger) := by
  have hforget : Within r isUndefined (RuntimeInterface.forgetDebugMessenger messenger) :=
    (Within.modify fun w => h.messengers w _).ite (Within.pure _)
  have hremove : Within r isUndefined (modifyLogger (·.removeLogRecorder messenger)) :=
    h.modifyRecorders fun _ => rfl
  refine Within.bind (RuntimeInterface.getRuntime_within.bind fun _ => getDispatchTable_within _)
    fun table => hremove.bind fun _ => hforget.bind fun _ =>
      (dispatchTableOf_within table).bind fun table => ?_
  split
  · exact Within.pure _
  · exact (h.ask _).bind fun _ => Within.pure _
  · exact undefinedBehaviour_within

omit h in
theorem callRuntimeIfPresent_within (htick : ∀ w : World, r w w.tick) (inst : XrInstance)
    (call : TermCall) : Within r isUndefined (callRuntimeIfPresent env inst call) := by
  refine (getDispatchTable_within inst).bind fun _ => (dispatchTableOf_within _).bind
    fun table => ?_
  split
  · exact Within.pure _
  · exact (within_ask htick _).bind fun _ => Within.pure _
  · exact undefinedBehaviour_within

theorem Frame.terminate {call : TermCall} (ht : call.changesTables = true → AllowsTables r)
    (hn : call.changesNames = true → AllowsNames r) : Within r isUndefined (terminate env call) := by
  cases call with
  | createInstance info => exact h.termCreateInstance env (ht rfl) info
  | destroyInstance inst => exact h.termDestroyInstance env (ht rfl) inst
  | createDebugUtilsMessengerEXT inst info messenger =>
    exact h.termCreateDebugUtilsMessenger env inst info messenger
  | destroyDebugUtilsMessengerEXT messenger => exact h.termDestroyDebugUtilsMessenger env messenger
  | submitDebugUtilsMessageEXT inst severity types => exact callRuntimeIfPresent_within env h.tick inst _
  | setDebugUtilsObjectNameEXT inst info =>
    exact (callRuntimeIfPresent_within env h.tick inst _).bind fun _ =>
      (Within.modify fun w => hn rfl w _ _ _).bind fun _ => Within.pure _

end Framing

/-! ## Calls through function pointers

A layer is handed the terminators and nothing else of the loader. -/

section Calling
variable {r : World → World → Prop} [IsPreorder World r] {p : TermCall → Prop} {env : Environment}

theorem callFunction_within {call : TermCall} (htick : ∀ w : World, r w w.tick)
    (hterm : ∀ c, p c → Within r isUndefined (terminate env c)) (hcall : p call)
    (hlayer : ∀ t f, (env.callLayer t f call).Calls p) (function : Pfn) :
    Within r isUndefined (callFunction env function call) := by
  unfold callFunction
  split
  · exact (hterm call hcall).ite undefinedBehaviour_within
  · exact askTree_within htick (hlayer · _) hterm
  · exact undefinedBehaviour_within

theorem callDownFunction_within {call : DownCall} (htick : ∀ w : World, r w w.tick)
    (hterm : ∀ c, p c → Within r isUndefined (terminate env c))
    (hlayer : ∀ t f, (env.callDown t f call).Calls p) (function : Pfn) :
    Within r isUndefined (callDownFunction env function call) := by
  unfold callDownFunction
  split
  · exact askTree_within htick (hlayer · _) hterm
  · exact undefinedBehaviour_within

end Calling

section Keeping
variable (env : Environment)

theorem keepsLoaded_frame : Frame KeepsLoaded where
  tick _ := ⟨rfl, rfl, rfl, rfl, rfl⟩
  recorders _ _ _ := ⟨rfl, rfl, rfl, rfl, rfl⟩
  messengers w f := ⟨rfl, rfl, rfl, rfl, by cases w.runtime <;> rfl⟩

theorem keepsLoaded_tables : AllowsTables KeepsLoaded := fun w f =>
  ⟨rfl, rfl, rfl, rfl, by cases w.runtime <;> rfl⟩

theorem keepsLoaded_names : AllowsNames KeepsLoaded := fun _ _ _ _ => ⟨rfl, rfl, rfl, rfl, rfl⟩

theorem terminate_keepsLoaded (call : TermCall) :
    Within KeepsLoaded isUndefined (terminate env call) :=
  keepsLoaded_frame.terminate env (fun _ => keepsLoaded_tables) fun _ => keepsLoaded_names

theorem callFunction_keepsLoaded (function : Pfn) (call : TermCall) :
    Within KeepsLoaded isUndefined (callFunction env function call) :=
  callFunction_within keepsLoaded_frame.tick (fun c _ => terminate_keepsLoaded env c)
    (p := fun _ => True) trivial (fun _ _ => CallTree.calls_of_forall (fun _ => trivial) _) function

theorem callDownFunction_keepsLoaded (function : Pfn) (call : DownCall) :
    Within KeepsLoaded isUndefined (callDownFunction env function call) :=
  callDownFunction_within keepsLoaded_frame.tick (fun c _ => terminate_keepsLoaded env c)
    (p := fun _ => True) (fun _ _ => CallTree.calls_of_forall (fun _ => trivial) _) function

end Keeping

/-! ## Dispatch tables -/

def World.dispatchTables (w : World) : Option (UnorderedMap XrInstance DispatchTable) :=
  w.runtime.map (·.dispatchTableMap)

abbrev KeepsTables : World → World → Prop := SameOn World.dispatchTables

theorem keepsTables_frame : Frame KeepsTables where
  tick _ := rfl
  recorders _ _ _ := rfl
  messengers w f := by
    change World.dispatchTables _ = World.dispatchTables w
    unfold World.dispatchTables
    cases w.runtime <;> rfl

theorem keepsTables_names : AllowsNames KeepsTables := fun _ _ _ _ => rfl

theorem terminate_keepsTables (env : Environment) (call : TermCall) (h : call.changesTables = false) :
    Within KeepsTables isUndefined (terminate env call) :=
  keepsTables_frame.terminate env (fun ht => absurd ht (by simp [h])) fun _ => keepsTables_names

end OpenXRSdk
