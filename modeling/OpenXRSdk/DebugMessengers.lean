import OpenXRSdk.Lifecycle

/-!
# Messengers

The messengers that are alive, each with its instance, and the containers in which the loader
keeps them: the recorders, their lists below the instances, and the map of the runtime.
-/
namespace OpenXRSdk

open StateProgram World TransitionSystem

/-- The instances of the messengers that are alive. -/
abbrev Messengers := XrDebugUtilsMessengerEXT → Option XrInstance

namespace LoaderLogger

def messengerIds (logger : LoaderLogger) : List ℕ :=
  (logger.recorders.filter (·.type = .debugUtils)).map (·.uniqueId)

/-- The logger knows the messengers that are alive, and still has its own recorders. -/
structure Tracks (defaults : List LoaderLogRecorder) (live : Messengers) (logger : LoaderLogger) :
    Prop where
  nodup : logger.messengerIds.Nodup
  mem_ids : ∀ m, m ∈ logger.messengerIds ↔ (live m).isSome
  listed : ∀ inst m, m ∈ logger.instanceRecorders inst ↔ live m = some inst
  defaults : logger.recorders.filter (·.uniqueId = 0) = defaults

theorem type_of_mem_defaultRecorders {android windows : Bool} {debugString : StdString}
    {r : LoaderLogRecorder} (h : r ∈ defaultRecorders android windows debugString) :
    r.type ≠ .debugUtils := by
  unfold defaultRecorders at h
  simp only [List.mem_append] at h
  rcases h with (h | h) | h <;> split_ifs at h <;>
    simp only [List.mem_cons, List.not_mem_nil, or_false] at h
  · rcases h with rfl | rfl <;> decide
  · subst h; decide
  · subst h; decide
  · subst h
    simp [makeStdOutLoaderLogRecorder, ostreamLoaderLogRecorder]

theorem tracks_new (android windows : Bool) (debugString : StdString) :
    (new android windows debugString).Tracks (defaultRecorders android windows debugString)
      fun _ => none := by
  have hids : (new android windows debugString).messengerIds = [] := by
    unfold messengerIds
    rw [List.map_eq_nil_iff, List.filter_eq_nil_iff]
    intro r hr
    simpa using type_of_mem_defaultRecorders hr
  constructor
  · rw [hids]
    exact List.nodup_nil
  · simp [hids]
  · have hnone (inst : XrInstance) : (new android windows debugString).instanceRecorders inst = ∅ := rfl
    simp [hnone]
  · refine List.filter_eq_self.mpr fun r hr => ?_
    simpa using uniqueId_of_mem_defaultRecorders hr

variable {defaults : List LoaderLogRecorder} {live : Messengers} {logger : LoaderLogger}

theorem Tracks.add (h : logger.Tracks defaults live) (inst : XrInstance)
    (createInfo : XrDebugUtilsMessengerCreateInfoEXT) {m : XrDebugUtilsMessengerEXT}
    (hnull : m ≠ xrNullHandle) (hfresh : live m = none) :
    (logger.addLogRecorderForXrInstance inst (makeDebugUtilsLoaderLogRecorder createInfo m)).Tracks
      defaults (Function.update live m (some inst)) := by
  have hids : (logger.addLogRecorderForXrInstance inst
      (makeDebugUtilsLoaderLogRecorder createInfo m)).messengerIds = logger.messengerIds ++ [m] := by
    simp [messengerIds, addLogRecorderForXrInstance, makeDebugUtilsLoaderLogRecorder]
  have hm : m ∉ logger.messengerIds := by simp [h.mem_ids, hfresh]
  constructor
  · rw [hids, List.nodup_append]
    refine ⟨h.nodup, List.nodup_singleton m, fun a ha b hb => ?_⟩
    rw [List.mem_singleton.mp hb]
    rintro rfl
    exact hm ha
  · intro x
    rw [hids, List.mem_append, List.mem_singleton, h.mem_ids]
    by_cases hx : x = m
    · subst hx
      simp
    · simp [hx]
  · intro i x
    rw [instanceRecorders_addLogRecorder]
    by_cases hx : x = m
    · subst hx
      have hnot : x ∉ logger.instanceRecorders i := by simp [h.listed, hfresh]
      by_cases hi : i = inst
      · subst hi
        simp [makeDebugUtilsLoaderLogRecorder]
      · simp [hi, hnot, Ne.symm hi]
    · by_cases hi : i = inst
      · subst hi
        simp [makeDebugUtilsLoaderLogRecorder, hx, h.listed]
      · simp [hi, hx, h.listed]
  · have hid : (makeDebugUtilsLoaderLogRecorder createInfo m).uniqueId ≠ 0 := hnull
    rw [addLogRecorderForXrInstance, List.filter_append, h.defaults]
    simp [hid]

/-- What is left when the recorders with certain ids are removed. -/
theorem filter_recorders {p : ℕ → Bool} {logger' : LoaderLogger}
    (hr : logger'.recorders = logger.recorders.filter fun r => p r.uniqueId) :
    logger'.messengerIds = logger.messengerIds.filter p := by
  unfold messengerIds
  rw [hr, List.filter_filter, List.filter_map, List.filter_filter]
  congr 1
  refine List.filter_congr fun r _ => ?_
  simp [Bool.and_comm]

theorem filter_defaults {p : ℕ → Bool} {logger' : LoaderLogger} (hp : p 0 = true)
    (hr : logger'.recorders = logger.recorders.filter fun r => p r.uniqueId) :
    logger'.recorders.filter (·.uniqueId = 0) = logger.recorders.filter (·.uniqueId = 0) := by
  rw [hr, List.filter_filter]
  refine List.filter_congr fun r _ => ?_
  by_cases hid : r.uniqueId = 0
  · simp [hid, hp]
  · simp [hid]

theorem Tracks.remove (h : logger.Tracks defaults live) {m : XrDebugUtilsMessengerEXT}
    (hnull : m ≠ xrNullHandle) :
    (logger.removeLogRecorder m).Tracks defaults (Function.update live m none) := by
  have hids := filter_recorders (p := fun x => x ≠ m)
    (rfl : (logger.removeLogRecorder m).recorders = _)
  have hnull' : (0 : ℕ) ≠ m := fun h0 => hnull h0.symm
  constructor
  · rw [hids]
    exact h.nodup.filter _
  · intro x
    rw [hids, List.mem_filter, h.mem_ids]
    by_cases hx : x = m
    · simp [hx]
    · simp [hx]
  · intro i x
    rw [instanceRecorders_removeLogRecorder, Finset.mem_erase, h.listed]
    by_cases hx : x = m
    · simp [hx]
    · simp [hx]
  · rw [← h.defaults]
    exact filter_defaults (p := fun x => x ≠ m) (by simpa using hnull') rfl

theorem Tracks.removeForInstance (h : logger.Tracks defaults live) (hnull : live xrNullHandle = none)
    (inst : XrInstance) : (logger.removeLogRecordersForXrInstance inst).Tracks defaults
      fun m => if live m = some inst then none else live m := by
  have hids := filter_recorders (p := fun x => x ∉ logger.instanceRecorders inst)
    (recorders_removeForInstance logger inst)
  constructor
  · rw [hids]
    exact h.nodup.filter _
  · intro x
    rw [hids, List.mem_filter, h.mem_ids, decide_eq_true_eq, h.listed]
    by_cases hx : live x = some inst
    · simp [hx]
    · simp [hx]
  · intro i x
    rw [instanceRecorders_removeForInstance]
    by_cases hi : i = inst
    · subst hi
      by_cases hx : live x = some i <;> simp [hx]
    · rw [if_neg hi, h.listed]
      by_cases hx : live x = some inst
      · simp [hx, Ne.symm hi]
      · simp [hx]
  · rw [← h.defaults]
    refine filter_defaults (p := fun x => x ∉ logger.instanceRecorders inst) ?_
      (recorders_removeForInstance logger inst)
    have hnot : (0 : ℕ) ∉ logger.instanceRecorders inst := by
      rw [h.listed]
      intro h0
      cases hnull.symm.trans h0
    simpa using hnot

end LoaderLogger

def World.messengerInstance (w : World) (m : XrDebugUtilsMessengerEXT) : Option XrInstance :=
  w.runtime.bind (·.messengerToInstanceMap.lookup m)

/-- What the loader stores about messengers is what is alive. -/
structure Coherent (defaults : List LoaderLogRecorder) (live : Messengers) (w : World) : Prop where
  logger : w.logger.Tracks defaults live
  keys : ∀ m, w.messengerInstance m = live m
  tables : ∀ m inst, live m = some inst → ∃ rt ∈ w.runtime, inst ∈ rt.dispatchTableMap

namespace LoaderCore

/-- Messengers belong to the active instance, which the runtime knows. -/
structure Kept (defaults : List LoaderLogRecorder) (live : Messengers) (w : World) : Prop where
  logger : w.logger.Tracks defaults live
  keys : ∀ m, w.messengerInstance m = live m
  null : live xrNullHandle = none
  owner : ∀ m inst, live m = some inst → ∃ li ∈ w.activeInstance, li.runtimeInstance = inst
  registered : Registered w

variable {defaults : List LoaderLogRecorder} {live : Messengers} {w w' : World}

theorem Kept.coherent (h : Kept defaults live w) : Coherent defaults live w where
  logger := h.logger
  keys := h.keys
  tables m inst hm := by
    obtain ⟨li, hli, rfl⟩ := h.owner m inst hm
    exact h.registered li hli

theorem Kept.live_of_none (h : Kept defaults live w) (hnone : w.activeInstance = none) :
    live = fun _ => none := by
  funext m
  cases hm : live m with
  | none => rfl
  | some inst =>
    obtain ⟨li, hli, -⟩ := h.owner m inst hm
    rw [hnone] at hli
    cases hli

/-- Without an instance and a runtime, no messenger is alive. -/
theorem kept_of_none (hlogger : w.logger.Tracks defaults fun _ => none) (hruntime : w.runtime = none)
    (hactive : w.activeInstance = none) : Kept defaults (fun _ => none) w where
  logger := hlogger
  keys m := by simp [World.messengerInstance, hruntime]
  null := rfl
  owner _ _ h := by cases h
  registered := Registered.of_none hactive

theorem Kept.of_loads (h : Kept defaults live w) (hl : Loads w w') : Kept defaults live w' where
  logger := hl.logger ▸ h.logger
  keys m := by
    rcases hl.runtime with hr | ⟨hnone, hnew⟩
    · rw [← h.keys m, World.messengerInstance, World.messengerInstance, hr]
    · rw [← h.keys m, World.messengerInstance, World.messengerInstance, hnone]
      cases hr : w'.runtime with
      | none => rfl
      | some rt =>
        have := (hnew rt hr).2
        simp [this]
  null := h.null
  owner m inst hm := hl.activeInstance ▸ h.owner m inst hm
  registered := h.registered.of_loads hl

theorem Kept.of_later (h : Kept defaults live w) (hl : Later w w') : Kept defaults live w' :=
  h.of_loads hl.loads

/-- Messengers and recorders do not matter to the instances. -/
theorem Registered.of_messengers (h : Registered w) {rt : RuntimeInterface} (hrt : w.runtime = some rt)
    (messengers : UnorderedMap XrDebugUtilsMessengerEXT XrInstance) (c : ℕ) (logger : LoaderLogger) :
    Registered { w with
      clock := c
      logger := logger
      runtime := some { rt with messengerToInstanceMap := messengers } } := by
  intro i hi
  obtain ⟨rt', hrt', hmem⟩ := h i hi
  cases hrt.symm.trans hrt'
  exact ⟨_, rfl, hmem⟩

/-- A messenger that is added belongs to its instance, and the others to theirs. -/
theorem messengerInstance_insert {rt : RuntimeInterface} (hrt : w.runtime = some rt)
    {m : XrDebugUtilsMessengerEXT} {inst : XrInstance} (hrt' : w'.runtime =
      some { rt with messengerToInstanceMap := rt.messengerToInstanceMap.insert m inst }) :
    w'.messengerInstance = Function.update w.messengerInstance m (some inst) := by
  funext x
  unfold World.messengerInstance
  rw [hrt, hrt']
  by_cases hx : x = m
  · subst hx
    simp
  · rw [Function.update_of_ne hx]
    exact AList.lookup_insert_ne hx

theorem messengerInstance_erase {rt : RuntimeInterface} (hrt : w.runtime = some rt)
    {m : XrDebugUtilsMessengerEXT} (hrt' : w'.runtime =
      some { rt with messengerToInstanceMap := rt.messengerToInstanceMap.erase m }) :
    w'.messengerInstance = Function.update w.messengerInstance m none := by
  funext x
  unfold World.messengerInstance
  rw [hrt, hrt']
  by_cases hx : x = m
  · subst hx
    simp
  · rw [Function.update_of_ne hx]
    exact AList.lookup_erase_ne hx

/-- A messenger is created for the active instance. -/
theorem Kept.add (h : Kept defaults live w) {rt : RuntimeInterface} (hrt : w.runtime = some rt)
    {li : LoaderInstance} (hli : w.activeInstance = some li)
    (createInfo : XrDebugUtilsMessengerCreateInfoEXT) {m : XrDebugUtilsMessengerEXT}
    (hnull : m ≠ xrNullHandle) (hfresh : live m = none) (c : ℕ) :
    Kept defaults (Function.update live m (some li.runtimeInstance)) { w with
      clock := c
      logger := w.logger.addLogRecorderForXrInstance li.runtimeInstance
        (makeDebugUtilsLoaderLogRecorder createInfo m)
      runtime := some { rt with
        messengerToInstanceMap := rt.messengerToInstanceMap.insert m li.runtimeInstance } } where
  logger := h.logger.add _ createInfo hnull hfresh
  keys x := by
    rw [messengerInstance_insert hrt rfl, funext h.keys]
  null := by rw [Function.update_of_ne hnull.symm, h.null]
  owner x inst hx := by
    by_cases hm : x = m
    · subst hm
      rw [Function.update_self] at hx
      cases hx
      exact ⟨li, hli, rfl⟩
    · rw [Function.update_of_ne hm] at hx
      exact h.owner x inst hx
  registered := h.registered.of_messengers hrt _ c _

/-- A messenger is destroyed. -/
theorem Kept.remove (h : Kept defaults live w) {rt : RuntimeInterface} (hrt : w.runtime = some rt)
    {m : XrDebugUtilsMessengerEXT} (hnull : m ≠ xrNullHandle) (c : ℕ) :
    Kept defaults (Function.update live m none) { w with
      clock := c
      logger := w.logger.removeLogRecorder m
      runtime := some { rt with
        messengerToInstanceMap := rt.messengerToInstanceMap.erase m } } where
  logger := h.logger.remove hnull
  keys x := by
    rw [messengerInstance_erase hrt rfl, funext h.keys]
  null := by rw [Function.update_of_ne hnull.symm, h.null]
  owner x inst hx := by
    by_cases hm : x = m
    · rw [hm, Function.update_self] at hx
      cases hx
    · rw [Function.update_of_ne hm] at hx
      exact h.owner x inst hx
  registered := h.registered.of_messengers hrt _ c _

/-! ## Calls through layers that forward -/

/-- Layers forward, and the runtime hands out fresh messengers and destroys what it is given. -/
structure WellBehaved (env : Environment) (live : Messengers) : Prop where
  create : ∀ t f info nextInfo,
    env.createApiLayerInstance t f info nextInfo = .forward (.createInstance info)
  call : ∀ t f call, env.callLayer t f call = .forward call
  fresh : ∀ t f inst info m,
    xrSucceeded (env.callRuntime t f (.createDebugUtilsMessengerEXT inst info true)).result →
    (env.callRuntime t f (.createDebugUtilsMessengerEXT inst info true)).handle = some m →
      m ≠ xrNullHandle ∧ live m = none
  freshChar : ∀ t, env.allocateChar t ≠ xrNullHandle ∧ live (env.allocateChar t) = none
  destroys : ∀ t f m, xrSucceeded (env.callRuntime t f (.destroyDebugUtilsMessengerEXT m)).result

theorem WellBehaved.fresh_of_answers {env : Environment} (hb : WellBehaved env live)
    {table : DispatchTable} {inst : XrInstance} {createInfo : XrDebugUtilsMessengerCreateInfoEXT}
    {reply : Reply} {m : XrDebugUtilsMessengerEXT} (h : AnswersMessenger env table inst createInfo reply)
    (hs : xrSucceeded reply.result) (hm : reply.handle = some m) :
    m ≠ xrNullHandle ∧ live m = none := by
  obtain ⟨t, ⟨-, rfl⟩ | ⟨f, -, rfl⟩⟩ := h
  · cases hm
    exact hb.freshChar t
  · exact hb.fresh t f inst createInfo m hs hm

theorem WellBehaved.destroys_of_answers {env : Environment} (hb : WellBehaved env live)
    {table : DispatchTable} {m : XrDebugUtilsMessengerEXT} {result : XrResult}
    (h : AnswersDestruction env table m result) : xrSucceeded result := by
  rcases h with ⟨-, rfl⟩ | ⟨t, f, -, rfl⟩
  · exact le_refl _
  · exact hb.destroys t f m

/-- What a layer is asked to do, the terminator does. -/
theorem callFunction_forwards {env : Environment} (hb : WellBehaved env live) {function : Pfn}
    {call : TermCall} {reply : Reply} (h : callFunction env function call w = .ok reply w') :
    ∃ w₁, Later w w₁ ∧ terminate env call w₁ = .ok reply w' := by
  cases function with
  | term command =>
    unfold callFunction at h
    dsimp only at h
    split_ifs at h
    · exact ⟨w, refl_of Later w, h⟩
    · cases h
  | foreign f =>
    obtain ⟨tree, w₁, ha, hrun⟩ := bind_eq_ok.mp h
    obtain ⟨rfl, rfl⟩ := ask_eq_ok.mp ha
    rw [hb.call, CallTree.run_forward] at hrun
    exact ⟨w.tick, ⟨_, rfl⟩, hrun⟩
  | _ => cases h

/-- The handle is null, or that of the active instance if there is one. -/
def IsActive (w : World) (inst : XrInstance) : Prop :=
  inst = xrNullHandle ∨ ∀ li ∈ w.activeInstance, li.runtimeInstance = inst

/-- What both trampolines do: the call goes through the table of the active instance. -/
def trampoline (env : Environment) (handle : ℕ) (call : TermCall) : Loader Reply := do
  if handle = xrNullHandle then return ⟨xrErrorHandleInvalid, none⟩
  match ← ActiveLoaderInstance.active with
  | none => return ⟨xrErrorHandleInvalid, none⟩
  | some loaderInstance => callFunction env (loaderInstance.dispatchTable call.command) call

/-- The call is refused, or it comes to its terminator. -/
theorem trampoline_forwards {env : Environment} (hb : WellBehaved env live) {handle : ℕ}
    {call : TermCall} {reply : Reply} (h : trampoline env handle call w = .ok reply w') :
    xrFailed reply.result ∧ w' = w ∨
      handle ≠ xrNullHandle ∧ ∃ li w₁, w.activeInstance = some li ∧ Later w w₁ ∧
        terminate env call w₁ = .ok reply w' := by
  unfold trampoline at h
  by_cases hnull : handle = xrNullHandle
  · rw [if_pos hnull] at h
    cases h
    exact Or.inl ⟨by decide, rfl⟩
  rw [if_neg hnull] at h
  obtain ⟨active, w₁, ha, hcall⟩ := bind_eq_ok.mp h
  cases ha
  cases hactive : w.activeInstance with
  | none =>
    rw [hactive] at hcall
    cases hcall
    exact Or.inl ⟨by decide, rfl⟩
  | some li =>
    rw [hactive] at hcall
    obtain ⟨w₂, hlater, hterm⟩ := callFunction_forwards hb hcall
    exact Or.inr ⟨hnull, li, w₂, rfl, hlater, hterm⟩

theorem kept_createDebugUtilsMessenger {env : Environment} (hb : WellBehaved env live)
    (h : Kept defaults live w) {inst : XrInstance} (hinst : IsActive w inst)
    {createInfo : XrDebugUtilsMessengerCreateInfoEXT} {pointer : Bool} {reply : Reply}
    (hrun : createDebugUtilsMessenger env inst createInfo pointer w = .ok reply w') :
    xrFailed reply.result ∧ Kept defaults live w' ∨
      xrSucceeded reply.result ∧ ∃ m, reply.handle = some m ∧ m ≠ xrNullHandle ∧
        Kept defaults (Function.update live m (some inst)) w' := by
  change trampoline env inst (.createDebugUtilsMessengerEXT inst createInfo pointer) w = _ at hrun
  rcases trampoline_forwards hb hrun with ⟨hf, rfl⟩ | ⟨hnull, li, w₁, hactive, hlater, hterm⟩
  · exact Or.inl ⟨hf, h⟩
  obtain rfl : li.runtimeInstance = inst := (hinst.resolve_left hnull) li hactive
  have h₁ := h.of_later hlater
  obtain ⟨c, rfl⟩ := hlater
  rcases termCreateDebugUtilsMessenger_cases hterm with
    ⟨hf, hl⟩ | ⟨hs, rt, table, m, d, hrt, -, hm, hanswer, rfl⟩
  · exact Or.inl ⟨hf, h₁.of_later hl⟩
  · obtain ⟨hm0, hfresh⟩ := hb.fresh_of_answers hanswer hs hm
    exact Or.inr ⟨hs, m, hm, hm0, h₁.add hrt hactive createInfo hm0 hfresh d⟩

theorem kept_destroyDebugUtilsMessenger {env : Environment} (hb : WellBehaved env live)
    (h : Kept defaults live w) {m : XrDebugUtilsMessengerEXT} {reply : Reply}
    (hrun : destroyDebugUtilsMessenger env m w = .ok reply w') :
    xrFailed reply.result ∧ Kept defaults live w' ∨
      xrSucceeded reply.result ∧ Kept defaults (Function.update live m none) w' := by
  change trampoline env m (.destroyDebugUtilsMessengerEXT m) w = _ at hrun
  rcases trampoline_forwards hb hrun with ⟨hf, rfl⟩ | ⟨hnull, li, w₁, hactive, hlater, hterm⟩
  · exact Or.inl ⟨hf, h⟩
  obtain ⟨rt, table, c, hrt, -, hanswer, rfl⟩ := termDestroyDebugUtilsMessenger_cases hnull hterm
  exact Or.inr ⟨hb.destroys_of_answers hanswer, (h.of_later hlater).remove hrt hnull c⟩

/-- The messenger of the instance goes first, then all that are left. -/
theorem kept_destroyInstance {env : Environment} (hb : WellBehaved env live)
    (h : Kept defaults live w) {inst : XrInstance} (hinst : IsActive w inst) {result : XrResult}
    (hrun : destroyInstance env inst w = .ok result w') :
    xrFailed result ∧ Kept defaults live w' ∨
      xrSucceeded result ∧ Kept defaults (fun _ => none) w' := by
  rcases destroyInstance_cases hrun with
    ⟨hf, rfl, -⟩ | ⟨rfl, hnull, li, reply, w₁, w₂, l, hactive, hdefault, hcall, rfl, -⟩
  · exact Or.inl ⟨hf, h⟩
  refine Or.inr ⟨le_refl _, ?_⟩
  have hfirst : ∃ live₁, Kept defaults live₁ w₁ ∧ ∀ m i, live₁ m = some i → live m = some i := by
    unfold destroyDefaultMessenger at hdefault
    split_ifs at hdefault with hm
    · obtain ⟨r, w₃, hd, hend⟩ := bind_eq_ok.mp hdefault
      cases hend
      rcases kept_destroyDebugUtilsMessenger hb h hd with ⟨-, hk⟩ | ⟨-, hk⟩
      · exact ⟨live, hk, fun _ _ hm => hm⟩
      · refine ⟨_, hk, fun m i hmi => ?_⟩
        by_cases heq : m = li.messenger
        · rw [heq, Function.update_self] at hmi
          cases hmi
        · rwa [Function.update_of_ne heq] at hmi
    · cases hdefault
      exact ⟨live, h, fun _ _ hm => hm⟩
  obtain ⟨live₁, h₁, hsub⟩ := hfirst
  obtain ⟨w₃, hlater, hterm⟩ := callFunction_forwards hb hcall
  obtain ⟨rt, c, -, rfl⟩ := termDestroyInstance_cases hnull hterm
  have hlogger := (h₁.of_later hlater).logger.removeForInstance h₁.null inst
  have hlive : (fun m => if live₁ m = some inst then none else live₁ m) = fun _ => none := by
    funext m
    split_ifs with hm
    · rfl
    · cases hi : live₁ m with
      | none => rfl
      | some i =>
        obtain ⟨li', hli', rfl⟩ := h.owner m i (hsub m i hi)
        exact absurd (hi.trans (congrArg some ((hinst.resolve_left hnull) li' hli'))) hm
  rw [hlive] at hlogger
  exact kept_of_none hlogger rfl rfl

/-! ## Creation -/

/-- The logger is the same, and no messenger has become known. -/
def LeavesMessengers (w w' : World) : Prop :=
  w'.logger = w.logger ∧
    ((∀ m, w.messengerInstance m = none) → ∀ m, w'.messengerInstance m = none)

theorem LeavesMessengers.trans {w₁ w₂ w₃ : World} (h : LeavesMessengers w₁ w₂)
    (h' : LeavesMessengers w₂ w₃) : LeavesMessengers w₁ w₃ :=
  ⟨h'.1.trans h.1, h'.2 ∘ h.2⟩

theorem leavesMessengers_of_loads (h : Loads w w') : LeavesMessengers w w' := by
  refine ⟨h.logger, fun hnone m => ?_⟩
  rcases h.runtime with hr | ⟨-, hnew⟩
  · rw [World.messengerInstance, hr]
    exact hnone m
  · rw [World.messengerInstance]
    cases hr : w'.runtime with
    | none => rfl
    | some rt =>
      have := (hnew rt hr).2
      simp [this]

theorem leavesMessengers_of_loadsLayers {layers : List ApiLayerInterface}
    (h : LoadsLayers w layers w') : LeavesMessengers w w' := by
  obtain ⟨l, hl, -⟩ := h
  obtain ⟨hlogger, hkeys⟩ := leavesMessengers_of_loads hl
  exact ⟨hlogger, hkeys⟩

theorem leavesMessengers_createChained {env : Environment} (hcreate : ∀ t f info nextInfo,
    env.createApiLayerInstance t f info nextInfo = .forward (.createInstance info))
    {layers : List ApiLayerInterface} {info : XrInstanceCreateInfo} {names : List StdString}
    {reply : Reply} (h : LoaderInstance.createChained env layers info names w = .ok reply w') :
    LeavesMessengers w w' := by
  rcases createChained_forwards hcreate h with ⟨-, hl⟩ | ⟨info', w₁, hl, hterm⟩
  · exact leavesMessengers_of_loads hl.loads
  refine (leavesMessengers_of_loads hl.loads).trans ?_
  rcases termCreateInstance_cases hterm with ⟨-, hl'⟩ | ⟨-, rt, t, c, hrt, rfl⟩
  · exact leavesMessengers_of_loads hl'.loads
  · refine ⟨rfl, fun hnone m => ?_⟩
    have := hnone m
    rw [World.messengerInstance, hrt] at this
    exact this

theorem leavesMessengers_of_creation {env : Environment} (hcreate : ∀ t f info nextInfo,
    env.createApiLayerInstance t f info nextInfo = .forward (.createInstance info))
    {info : XrInstanceCreateInfo} {result : XrResult} {layers : List ApiLayerInterface}
    (h : Creation env info w result layers w') : LeavesMessengers w w' := by
  cases h with
  | notLoaded _ loads => exact leavesMessengers_of_loadsLayers loads
  | chainFailed loads _ chained _ destroyed =>
    obtain ⟨l, hrun, -⟩ := ApiLayerInterface.destroyInterfaces_run _ _
    rw [hrun] at destroyed
    cases destroyed
    obtain ⟨hlogger, hkeys⟩ := (leavesMessengers_of_loadsLayers loads).trans
      (leavesMessengers_createChained hcreate chained)
    exact ⟨hlogger, hkeys⟩
  | active loads _ chained _ populated =>
    have hl := (LoaderInstance.populateDispatchTable_later env _ _).of_ok populated
    obtain ⟨hlogger, hkeys⟩ := ((leavesMessengers_of_loadsLayers loads).trans
      (leavesMessengers_createChained hcreate chained)).trans (leavesMessengers_of_loads hl.loads)
    exact ⟨hlogger, hkeys⟩

/-- A new instance has no messenger. -/
theorem kept_of_creation {env : Environment} (hcreate : ∀ t f info nextInfo,
    env.createApiLayerInstance t f info nextInfo = .forward (.createInstance info))
    (hk : Kept defaults (fun _ => none) w) {info : XrInstanceCreateInfo}
    {layers : List ApiLayerInterface} (h : Creation env info w xrSuccess layers w') :
    Kept defaults (fun _ => none) w' where
  logger := (leavesMessengers_of_creation hcreate h).1 ▸ hk.logger
  keys := (leavesMessengers_of_creation hcreate h).2 hk.keys
  null := rfl
  owner _ _ h := by cases h
  registered := registered_of_creation hcreate h

def defaultMessengers (w : World) : Messengers := fun m =>
  w.activeInstance.bind fun li =>
    if m = li.messenger ∧ m ≠ xrNullHandle then some li.runtimeInstance else none

theorem defaultMessengers_of_active {li : LoaderInstance} (h : w.activeInstance = some li)
    (m : XrDebugUtilsMessengerEXT) : defaultMessengers w m =
      if m = li.messenger ∧ m ≠ xrNullHandle then some li.runtimeInstance else none := by
  rw [defaultMessengers, h, Option.bind_some]

/-- Before the instance has its messenger, there is none. -/
theorem defaultMessengers_of_null {li : LoaderInstance} (h : w.activeInstance = some li)
    (hm : li.messenger = xrNullHandle) : defaultMessengers w = fun _ => none := by
  funext m
  rw [defaultMessengers_of_active h, hm]
  exact if_neg fun hm => hm.2 hm.1

/-- The instance has been given its messenger. -/
theorem defaultMessengers_of_set {li : LoaderInstance} {m : XrDebugUtilsMessengerEXT}
    (h : w.activeInstance = some { li with messenger := m }) (hm : m ≠ xrNullHandle) :
    defaultMessengers w = Function.update (fun _ => none) m (some li.runtimeInstance) := by
  funext x
  rw [defaultMessengers_of_active h]
  by_cases hx : x = m
  · subst hx
    rw [Function.update_self]
    exact if_pos ⟨rfl, hm⟩
  · rw [Function.update_of_ne hx]
    exact if_neg fun h' => hx h'.1

theorem Creation.messenger {env : Environment} {info : XrInstanceCreateInfo}
    {layers : List ApiLayerInterface} {li : LoaderInstance}
    (h : Creation env info w xrSuccess layers w') (hli : w'.activeInstance = some li) :
    li.messenger = xrNullHandle := by
  generalize hresult : xrSuccess = result at h
  cases h with
  | notLoaded failed =>
    subst hresult
    exact absurd failed (by decide)
  | chainFailed _ _ _ failed =>
    rw [← hresult] at failed
    exact absurd failed (by decide)
  | active =>
    cases hli
    rfl

/-- The messenger of the active instance is written down. -/
theorem Kept.setMessenger (h : Kept defaults live w) {li : LoaderInstance}
    (hli : w.activeInstance = some li) (m : XrDebugUtilsMessengerEXT) :
    Kept defaults live { w with activeInstance := some { li with messenger := m } } where
  logger := h.logger
  keys := h.keys
  null := h.null
  owner x inst hx := by
    obtain ⟨li', hli', rfl⟩ := h.owner x inst hx
    cases hli.symm.trans hli'
    exact ⟨_, rfl, rfl⟩
  registered := by
    have := h.registered li hli
    rintro _ ⟨⟩
    exact this

theorem kept_createInstance {env : Environment} (hb : WellBehaved env live)
    (h : Kept defaults live w) {info : Option XrInstanceCreateInfo} {pointer : Bool} {reply : Reply}
    (hrun : createInstance env info pointer w = .ok reply w') :
    xrFailed reply.result ∧ Kept defaults live w' ∨
      xrSucceeded reply.result ∧ Kept defaults (defaultMessengers w') w' := by
  cases createInstance_cases hrun with
  | refused failed => exact Or.inl ⟨failed, h⟩
  | caught _ loads => exact Or.inl ⟨by decide, h.of_loads loads⟩
  | @carriedOut i _ _ _ acceptable ending =>
    have hnone := acceptable.2.2
    have hlive := h.live_of_none hnone
    subst hlive
    have hcreated {inst : LoaderInstance} {w₁ : World} (hactive : w₁.activeInstance = some inst)
        (hc : createActiveInstance env i w = .ok (xrSuccess, []) w₁) :
        Kept defaults (fun _ => none) w₁ ∧ IsActive w₁ inst.runtimeInstance := by
      refine ⟨kept_of_creation hb.create h (createActiveInstance_cases hnone hc), Or.inr ?_⟩
      intro li hli
      rw [hactive] at hli
      cases hli
      rfl
    cases ending with
    | abandoned created failed =>
      have hleaves := leavesMessengers_of_creation hb.create (createActiveInstance_cases hnone created)
      exact Or.inl ⟨failed, kept_of_none (hleaves.1 ▸ h.logger) rfl rfl⟩
    | plain created active =>
      have hnew := (createActiveInstance_cases hnone created).messenger active
      rw [defaultMessengers_of_null active hnew]
      exact Or.inr ⟨le_refl _, (hcreated active created).1⟩
    | messengerFailed created active _ called failed =>
      obtain ⟨hk, hinst⟩ := hcreated active created
      rcases kept_createDebugUtilsMessenger hb hk hinst called with ⟨-, hk'⟩ | ⟨hs, -⟩
      · exact Or.inl ⟨by decide, hk'⟩
      · exact absurd failed (not_xrFailed.mpr hs)
    | messenger created active _ called succeeded =>
      obtain ⟨hk, hinst⟩ := hcreated active created
      rcases kept_createDebugUtilsMessenger hb hk hinst called with ⟨hf, -⟩ | ⟨-, m, hm, hm0, hk'⟩
      · exact absurd hf (not_xrFailed.mpr succeeded)
      obtain rfl := (Option.some.inj hm).symm
      have hkeeps := ((keepsLoaded_calls env).createDebugUtilsMessenger _ _ _).of_ok called
      have hset := hk'.setMessenger (hkeeps.activeInstance.trans active) m
      refine Or.inr ⟨succeeded, ?_⟩
      rw [defaultMessengers_of_set rfl hm0]
      exact hset

/-! ## Whole runs -/

structure Tracked where
  world : World
  live : Messengers

/-- A call that fails creates and destroys no messenger. -/
def liveAfter (live : Messengers) (e : Event) (w' : World) : Messengers :=
  if xrFailed e.reply.result then live
  else
    match e.call with
    | .createInstance _ _ => defaultMessengers w'
    | .destroyInstance _ => fun _ => none
    | .createDebugUtilsMessenger inst _ _ =>
      match e.reply.handle with
      | none => live
      | some m => Function.update live m (some inst)
    | .destroyDebugUtilsMessenger m => Function.update live m none
    | _ => live

def TrackedStep (s : Tracked) (e : Event) (s' : Tracked) : Prop :=
  Step s.world e s'.world ∧ s'.live = liveAfter s.live e s'.world

/-- One of the four calls on instances and messengers, on the instance there is. -/
def HandlesValid (w : World) : Call → Prop
  | .createInstance _ _ => True
  | .destroyInstance inst => IsActive w inst
  | .createDebugUtilsMessenger inst _ _ => IsActive w inst
  | .destroyDebugUtilsMessenger _ => True
  | _ => False

theorem kept_step {s s' : Tracked} {e : Event} (hb : WellBehaved e.env s.live)
    (hc : HandlesValid s.world e.call) (h : Kept defaults s.live s.world) (hs : TrackedStep s e s') :
    Kept defaults s'.live s'.world := by
  obtain ⟨hstep, hlive⟩ := hs
  obtain ⟨env, call, reply⟩ := e
  rw [hlive]
  unfold liveAfter
  dsimp only
  cases call with
  | createInstance info pointer =>
    rcases kept_createInstance hb h hstep with ⟨hf, hk⟩ | ⟨hs, hk⟩
    · rwa [if_pos hf]
    · rwa [if_neg (not_xrFailed.mpr hs)]
  | destroyInstance inst =>
    obtain ⟨result, hrun, rfl⟩ := replyOf_eq_ok.mp hstep
    dsimp only [id]
    rcases kept_destroyInstance hb h hc hrun with ⟨hf, hk⟩ | ⟨hs, hk⟩
    · rwa [if_pos hf]
    · rwa [if_neg (not_xrFailed.mpr hs)]
  | createDebugUtilsMessenger inst createInfo pointer =>
    rcases kept_createDebugUtilsMessenger hb h hc hstep with ⟨hf, hk⟩ | ⟨hs, m, hm, -, hk⟩
    · rwa [if_pos hf]
    · rwa [if_neg (not_xrFailed.mpr hs), hm]
  | destroyDebugUtilsMessenger m =>
    rcases kept_destroyDebugUtilsMessenger hb h hstep with ⟨hf, hk⟩ | ⟨hs, hk⟩
    · rwa [if_pos hf]
    · rwa [if_neg (not_xrFailed.mpr hs)]
  | _ => exact hc.elim

/-- After every call, all the containers agree with the messengers that are alive. -/
theorem messengers_coherent {android windows : Bool} {debugString : StdString}
    {trace : List (Transition Tracked Event)} {s : Tracked}
    (h : Run TrackedStep
      ⟨World.initial (LoaderLogger.new android windows debugString), fun _ => none⟩ trace s)
    (hsteps : ∀ x ∈ trace, WellBehaved x.label.env x.before.live ∧
      HandlesValid x.before.world x.label.call) :
    Coherent (LoaderLogger.defaultRecorders android windows debugString) s.live s.world := by
  have hkept : Kept (LoaderLogger.defaultRecorders android windows debugString) s.live s.world := by
    refine h.invariant_of_steps (I := fun s => Kept _ s.live s.world) ?_ hsteps ?_
    · exact kept_of_none (LoaderLogger.tracks_new android windows debugString) rfl rfl
    · exact fun s e s' hk hg hs => kept_step hg.1 hg.2 hk hs
  exact hkept.coherent

def runtimeWithMessenger (m : XrDebugUtilsMessengerEXT) : Environment :=
  { runtimeAnswering fun call =>
      match call with
      | .createInstance _ => ⟨xrSuccess, some 7⟩
      | .createDebugUtilsMessengerEXT _ _ _ => ⟨xrSuccess, some m⟩
      | _ => ⟨xrSuccess, none⟩ with
    allocateChar := fun _ => m }

theorem wellBehaved_runtimeWithMessenger {m : XrDebugUtilsMessengerEXT} (hnull : m ≠ xrNullHandle)
    (hfresh : live m = none) : WellBehaved (runtimeWithMessenger m) live where
  create _ _ _ _ := rfl
  call _ _ _ := rfl
  fresh t f inst info x hs hx := by
    cases hx
    exact ⟨hnull, hfresh⟩
  freshChar _ := ⟨hnull, hfresh⟩
  destroys _ _ _ := le_refl _

theorem messengers_coherent_created : ∃ trace s,
    Run TrackedStep ⟨World.initial (LoaderLogger.new false false []), fun _ => none⟩ trace s ∧
    s.live 100 = some 7 ∧ s.live 101 = some 7 ∧
    Coherent (LoaderLogger.defaultRecorders false false []) s.live s.world := by
  have hcreate : TrackedStep ⟨World.initial (LoaderLogger.new false false []), fun _ => none⟩
      ⟨runtimeWithMessenger 100,
        .createInstance (some (infoWithNext [.debugUtilsMessenger ⟨0, 0⟩])) true, ⟨xrSuccess, some 7⟩⟩
      ⟨_, _⟩ := ⟨step_iff.mpr ⟨by decide +kernel, rfl⟩, rfl⟩
  have hrun := Run.snoc (Run.snoc .nil hcreate) (l := ⟨runtimeWithMessenger 101,
    .createDebugUtilsMessenger 7 ⟨0, 0⟩ true, ⟨xrSuccess, some 101⟩⟩) (t := ⟨_, _⟩)
    ⟨step_iff.mpr ⟨by decide +kernel, rfl⟩, rfl⟩
  refine ⟨_, _, hrun, by decide +kernel, by decide +kernel, messengers_coherent hrun fun x hx => ?_⟩
  simp only [List.nil_append, List.cons_append, List.mem_cons, List.not_mem_nil, or_false] at hx
  rcases hx with rfl | rfl
  · exact ⟨wellBehaved_runtimeWithMessenger (by decide) rfl, trivial⟩
  · refine ⟨wellBehaved_runtimeWithMessenger (by decide) (by decide +kernel), Or.inr ?_⟩
    rintro _ ⟨⟩
    rfl

end LoaderCore
end OpenXRSdk
