import OpenXRSdk.LoggedMessages
import OpenXRSdk.MessengerDestruction

/-!
# Messages of the application

How a message that is submitted reaches the messengers, for a runtime that does not implement
XR_EXT_debug_utils: flags are translated on both sides before they are compared.
-/
namespace OpenXRSdk

open StateProgram World TransitionSystem BitFlags

/-- `DebugUtilsLogRecorder::LogDebugUtilsMessage`; the other recorders do not override it. -/
def LoaderLogRecorder.logDebugUtilsMessage (recorder : LoaderLogRecorder)
    (messageSeverity messageType : UInt64) (callbackData : XrDebugUtilsMessengerCallbackDataEXT) :
    Option UserCall :=
  match recorder.type with
  | .debugUtils => some ⟨recorder.uniqueId, messageSeverity, messageType, callbackData⟩
  | _ => none

/-- `LogDebugUtilsMessage`: whether the application is to exit, and the calls of callbacks. -/
def LoaderLogger.logDebugUtilsMessage (logger : LoaderLogger) (userCallback : UserCall → Bool)
    (messageSeverity messageType : UInt64) (callbackData : XrDebugUtilsMessengerCallbackDataEXT) :
    Bool × List UserCall :=
  let logMessageSeverity := debugUtilsSeveritiesToLoaderLogMessageSeverities messageSeverity
  let logMessageType := debugUtilsMessageTypesToLoaderLogMessageTypes messageType
  let augmentedData := logger.data.wrapCallbackData callbackData
  let calls := logger.recorders.filterMap fun recorder =>
    if recorder.type ≠ .debugUtils ∨ ¬ Contains recorder.messageSeverities logMessageSeverity ∨
        ¬ Contains recorder.messageTypes logMessageType then none
    else recorder.logDebugUtilsMessage messageSeverity messageType augmentedData
  (calls.any userCallback, calls)

/-- `LoaderXrTermSubmitDebugUtilsMessageEXT` with the callbacks that the loader calls. -/
def termSubmitToMessengers (env : Environment) (userCallback : UserCall → Bool) (inst : XrInstance)
    (messageSeverity messageTypes : UInt64) (callbackData : XrDebugUtilsMessengerCallbackDataEXT) :
    Loader (Reply × List UserCall) := do
  let table ← dispatchTableOf (← RuntimeInterface.getDispatchTable inst)
  match table .submitDebugUtilsMessageEXT with
  | .null =>
    let w ← get
    return (⟨xrSuccess, none⟩,
      (w.logger.logDebugUtilsMessage userCallback messageSeverity messageTypes callbackData).2)
  | .foreign f =>
    let reply ← ask fun t =>
      env.callRuntime t f (.submitDebugUtilsMessageEXT inst messageSeverity messageTypes)
    return (⟨reply.result, none⟩, [])
  | _ => undefinedBehaviour

/-- It is the terminator. -/
theorem termSubmitToMessengers_reply (env : Environment) (userCallback : UserCall → Bool)
    (inst : XrInstance) (messageSeverity messageTypes : UInt64)
    (callbackData : XrDebugUtilsMessengerCallbackDataEXT) :
    Prod.fst <$> termSubmitToMessengers env userCallback inst messageSeverity messageTypes
        callbackData =
      termSubmitDebugUtilsMessage env inst messageSeverity messageTypes := by
  unfold termSubmitToMessengers termSubmitDebugUtilsMessage callRuntimeIfPresent
  simp only [map_bind]
  congr 1
  funext found
  congr 1
  funext table
  cases htable : table .submitDebugUtilsMessageEXT <;> simp [TermCall.command, htable] <;> rfl

/-! ## The messengers that are alive -/

/-- The messengers that are alive, with their instances and what they were created for. -/
abbrev Subscribers :=
  XrDebugUtilsMessengerEXT → Option (XrInstance × XrDebugUtilsMessengerCreateInfoEXT)

/-- Those that are alive after a terminator has returned. -/
def Subscribers.after (live : Subscribers) (reply : Reply) : TermCall → Subscribers
  | .createDebugUtilsMessengerEXT inst info _ =>
    match reply.handle with
    | none => live
    | some m => if xrSucceeded reply.result then Function.update live m (some (inst, info)) else live
  | .destroyDebugUtilsMessengerEXT m =>
    if xrSucceeded reply.result then Function.update live m none else live
  | .destroyInstance inst => fun m => if (live m).map (·.1) = some inst then none else live m
  | _ => live

/-- A messenger that could not be created is not alive. -/
theorem Subscribers.after_of_failed (live : Subscribers) {reply : Reply} (h : xrFailed reply.result)
    {inst : XrInstance} {info : XrDebugUtilsMessengerCreateInfoEXT} {pointer : Bool} :
    live.after reply (.createDebugUtilsMessengerEXT inst info pointer) = live := by
  unfold Subscribers.after
  cases reply.handle with
  | none => rfl
  | some m => exact if_neg (not_xrSucceeded.mpr h)

/-- A messenger changes, and with it its instance. -/
theorem Subscribers.map_update (live : Subscribers) (m : XrDebugUtilsMessengerEXT)
    (entry : Option (XrInstance × XrDebugUtilsMessengerCreateInfoEXT)) :
    (fun x => (Function.update live m entry x).map (·.1)) =
      Function.update (fun x => (live x).map (·.1)) m (entry.map (·.1)) :=
  Function.comp_update (Option.map Prod.fst) live m entry

/-- The recorders of messengers are those of the messengers that are alive, each as it was made. -/
structure Subscribes (defaults : List LoaderLogRecorder) (live : Subscribers) (logger : LoaderLogger) :
    Prop where
  tracks : logger.Tracks defaults fun m => (live m).map (·.1)
  null : live xrNullHandle = none
  made : ∀ r ∈ logger.recorders, r.type = .debugUtils →
    ∃ inst info, live r.uniqueId = some (inst, info) ∧
      r = makeDebugUtilsLoaderLogRecorder info r.uniqueId

section Steps
variable {defaults : List LoaderLogRecorder} {live : Subscribers} {logger logger' : LoaderLogger}

theorem subscribes_new (android windows : Bool) (debugString : StdString) :
    Subscribes (LoaderLogger.defaultRecorders android windows debugString) (fun _ => none)
      (LoaderLogger.new android windows debugString) where
  tracks := LoaderLogger.tracks_new android windows debugString
  null := rfl
  made _ hr htype := absurd htype (LoaderLogger.type_of_mem_defaultRecorders hr)

/-- Only the recorders count. -/
theorem Subscribes.of_recorders (h : Subscribes defaults live logger)
    (hrecorders : logger'.recorders = logger.recorders)
    (hinstances : logger'.recordersByInstance = logger.recordersByInstance) :
    Subscribes defaults live logger' := by
  obtain ⟨⟨hnodup, hids, hlisted, hdefaults⟩, hnull, hmade⟩ := h
  have hmessengers : logger'.messengerIds = logger.messengerIds := by
    rw [LoaderLogger.messengerIds, hrecorders]
    rfl
  have hinstance (inst : XrInstance) :
      logger'.instanceRecorders inst = logger.instanceRecorders inst := by
    rw [LoaderLogger.instanceRecorders, hinstances]
    rfl
  constructor
  · constructor
    · rwa [hmessengers]
    · rwa [hmessengers]
    · intro inst m
      rw [hinstance]
      exact hlisted inst m
    · rwa [hrecorders]
  · exact hnull
  · rwa [hrecorders]

theorem Subscribes.add (h : Subscribes defaults live logger) (inst : XrInstance)
    (info : XrDebugUtilsMessengerCreateInfoEXT) {m : XrDebugUtilsMessengerEXT}
    (hnull : m ≠ xrNullHandle) (hfresh : live m = none) :
    Subscribes defaults (Function.update live m (some (inst, info)))
      (logger.addLogRecorderForXrInstance inst (makeDebugUtilsLoaderLogRecorder info m)) where
  tracks := by
    rw [Subscribers.map_update]
    exact h.tracks.add inst info hnull (by simp [hfresh])
  null := by rw [Function.update_of_ne hnull.symm, h.null]
  made r hr htype := by
    rcases List.mem_append.mp hr with hold | hnew
    · obtain ⟨inst', info', hlive, hmade⟩ := h.made r hold htype
      have hne : r.uniqueId ≠ m := by
        rintro rfl
        rw [hfresh] at hlive
        cases hlive
      exact ⟨inst', info', by rw [Function.update_of_ne hne, hlive], hmade⟩
    · obtain rfl := List.mem_singleton.mp hnew
      exact ⟨inst, info, Function.update_self _ _ _, rfl⟩

/-- Some ids go, and with them their messengers. -/
theorem Subscribes.made_filter (h : Subscribes defaults live logger) {p : ℕ → Bool}
    (live' : Subscribers) (hlive : ∀ m, p m = true → live' m = live m)
    (hr : logger'.recorders = logger.recorders.filter fun r => p r.uniqueId) :
    ∀ r ∈ logger'.recorders, r.type = .debugUtils →
      ∃ inst info, live' r.uniqueId = some (inst, info) ∧
        r = makeDebugUtilsLoaderLogRecorder info r.uniqueId := by
  intro r hmem htype
  rw [hr, List.mem_filter] at hmem
  rw [hlive r.uniqueId hmem.2]
  exact h.made r hmem.1 htype

theorem Subscribes.remove (h : Subscribes defaults live logger) {m : XrDebugUtilsMessengerEXT}
    (hnull : m ≠ xrNullHandle) :
    Subscribes defaults (Function.update live m none) (logger.removeLogRecorder m) where
  tracks := by
    rw [Subscribers.map_update]
    exact h.tracks.remove hnull
  null := by rw [Function.update_of_ne hnull.symm, h.null]
  made := by
    refine h.made_filter (p := fun x => x ≠ m) _ (fun x hx => ?_) rfl
    exact Function.update_of_ne (of_decide_eq_true hx) _ _

theorem Subscribes.removeForInstance (h : Subscribes defaults live logger) (inst : XrInstance) :
    Subscribes defaults (fun m => if (live m).map (·.1) = some inst then none else live m)
      (logger.removeLogRecordersForXrInstance inst) where
  tracks := by
    convert h.tracks.removeForInstance (by simp [h.null]) inst using 1
    funext x
    by_cases hx : (live x).map (·.1) = some inst
    · rw [if_pos hx, if_pos hx]
      rfl
    · rw [if_neg hx, if_neg hx]
  null := by simp [h.null]
  made := by
    refine h.made_filter (p := fun x => x ∉ logger.instanceRecorders inst)
      (fun m => if (live m).map (·.1) = some inst then none else live m) (fun x hx => ?_)
      (LoaderLogger.recorders_removeForInstance logger inst)
    have hnot := of_decide_eq_true hx
    rw [h.tracks.listed] at hnot
    exact if_neg hnot

end Steps

/-! ## Whole runs -/

structure Subscribed where
  world : World
  live : Subscribers

/-- A terminator is called, by whichever layer; or the loader does anything else, with the
recorders as they are. -/
inductive SubscribedStep : Subscribed → Option TermEvent → Subscribed → Prop
  | terminated {env : Environment} {call : TermCall} {reply : Reply} {w w' : World}
      {live : Subscribers} (called : terminate env call w = .ok reply w') :
    SubscribedStep ⟨w, live⟩ (some ⟨env, call, reply⟩) ⟨w', live.after reply call⟩
  | other {w w' : World} {live : Subscribers}
      (recorders : w'.logger.recorders = w.logger.recorders)
      (instances : w'.logger.recordersByInstance = w.logger.recordersByInstance) :
    SubscribedStep ⟨w, live⟩ none ⟨w', live⟩

/-- A handle that is handed out is not null and not in use. One that is to be destroyed is not
null, and is destroyed. -/
def HandlesRespected (x : Transition Subscribed (Option TermEvent)) : Prop :=
  ∀ e ∈ x.label,
    match e.call with
    | .createDebugUtilsMessengerEXT _ _ _ => xrSucceeded e.reply.result →
        ∀ m ∈ e.reply.handle, m ≠ xrNullHandle ∧ x.before.live m = none
    | .destroyDebugUtilsMessengerEXT m => m ≠ xrNullHandle ∧ xrSucceeded e.reply.result
    | _ => True

section Runs
variable {env : Environment} {w w' : World} {reply : Reply}

theorem destroyInstance_logger (env : Environment) (inst : XrInstance) :
    Within (SameOn World.logger) isUndefined (RuntimeInterface.destroyInstance env inst) := by
  have htick (w : World) : SameOn World.logger w w.tick := rfl
  unfold RuntimeInterface.destroyInstance
  dsimp only
  split_ifs
  · refine Within.bind (Within.modify fun w => rfl) fun _ => Within.bind ?_ fun address => ?_
    · refine (RuntimeInterface.runtimeFunction_later env _ _).mono ?_ fun _ => id
      rintro w _ ⟨c, rfl⟩
      rfl
    · exact (within_ask htick _).bind fun _ => Within.pure _
  · exact Within.pure _

theorem termDestroyInstance_logger {inst : XrInstance}
    (h : termDestroyInstance env inst w = .ok reply w') :
    w'.logger = w.logger.removeLogRecordersForXrInstance inst := by
  obtain ⟨_, w₁, hl, hrest⟩ := bind_eq_ok.mp h
  obtain rfl := modify_eq_ok.mp hl
  obtain ⟨rt, w₂, hr, hdestroy⟩ := bind_eq_ok.mp hrest
  obtain ⟨-, rfl⟩ := RuntimeInterface.getRuntime_eq_ok.mp hr
  obtain ⟨result, w₃, hd, hreply⟩ := bind_eq_ok.mp hdestroy
  cases hreply
  exact (destroyInstance_logger env inst).of_ok hd

/-- What a terminator does to the recorders. -/
theorem subscribes_terminate {defaults : List LoaderLogRecorder} {live : Subscribers}
    {call : TermCall} (h : Subscribes defaults live w.logger)
    (hrespected : HandlesRespected ⟨⟨w, live⟩, some ⟨env, call, reply⟩, ⟨w', live.after reply call⟩⟩)
    (hcall : terminate env call w = .ok reply w') :
    Subscribes defaults (live.after reply call) w'.logger := by
  have hevent := hrespected _ rfl
  have hlater {w₁ : World} (hl : Later w w₁) : Subscribes defaults live w₁.logger := by
    obtain ⟨c, rfl⟩ := hl
    exact h
  cases call with
  | createInstance info =>
    rcases termCreateInstance_cases hcall with ⟨-, hl⟩ | ⟨-, rt, t, c, -, rfl⟩
    · exact hlater hl
    · exact h
  | destroyInstance inst =>
    rw [termDestroyInstance_logger hcall]
    exact h.removeForInstance inst
  | createDebugUtilsMessengerEXT inst info pointer =>
    rcases termCreateDebugUtilsMessenger_cases hcall with
      ⟨hf, hl⟩ | ⟨hs, rt, table, m, c, -, -, hm, -, rfl⟩
    · rw [live.after_of_failed hf]
      exact hlater hl
    · obtain ⟨hnull, hfresh⟩ := hevent hs m hm
      simp only [Subscribers.after, hm, if_pos hs]
      exact h.add inst info hnull hfresh
  | destroyDebugUtilsMessengerEXT m =>
    obtain ⟨rt, table, c, -, -, -, rfl⟩ := termDestroyDebugUtilsMessenger_cases hevent.1 hcall
    have hs : xrSucceeded reply.result := hevent.2
    simp only [Subscribers.after, if_pos hs]
    exact h.remove hevent.1
  | submitDebugUtilsMessageEXT inst severity types =>
    exact hlater ((callRuntimeIfPresent_later inst _).of_ok hcall)
  | setDebugUtilsObjectNameEXT inst info =>
    obtain ⟨answer, w₁, ha, hend⟩ := bind_eq_ok.mp hcall
    obtain ⟨_, w₂, hm, hreply⟩ := bind_eq_ok.mp hend
    obtain rfl := modify_eq_ok.mp hm
    cases hreply
    exact (hlater ((callRuntimeIfPresent_later inst _).of_ok ha)).of_recorders rfl rfl

/-- In every state reached, the recorders are those of the messengers that are alive. -/
theorem subscribes_of_run {android windows : Bool} {debugString : StdString}
    {trace : List (Transition Subscribed (Option TermEvent))} {s : Subscribed}
    (h : Run SubscribedStep
      ⟨World.initial (LoaderLogger.new android windows debugString), fun _ => none⟩ trace s)
    (hsteps : ∀ x ∈ trace, HandlesRespected x) :
    Subscribes (LoaderLogger.defaultRecorders android windows debugString) s.live s.world.logger := by
  refine h.invariant_of_steps (I := fun s => Subscribes _ s.live s.world.logger)
    (subscribes_new android windows debugString) hsteps ?_
  rintro _ _ _ hs hrespected ⟨⟩
  · exact subscribes_terminate hs hrespected ‹_›
  · exact hs.of_recorders ‹_› ‹_›

end Runs

/-! ## Delivery -/

def severityMask : UInt64 := 0x1111

def typeMask : UInt64 := 0x7

def typeConformance : UInt64 := 0x8

theorem isBit_of_lt {i : ℕ} (h : i < 64) : IsBit ⟨BitVec.twoPow 64 i⟩ := ⟨i, h, rfl⟩

/-- What a translation keeps is what is behind its mask. -/
theorem knownBits_eq {bits : List UInt64} (hbits : ∀ bit ∈ bits, IsBit bit) (flags : UInt64) :
    knownBits bits flags = flags &&& bits.foldl (· ||| ·) 0 := by
  have h := foldl_or_if bits hbits flags 0 0
  simpa [knownBits] using h

theorem debugUtilsSeverities_eq (flags : UInt64) :
    debugUtilsSeveritiesToLoaderLogMessageSeverities flags = flags &&& severityMask := by
  refine knownBits_eq (fun bit hbit => ?_) flags
  fin_cases hbit
  · exact isBit_of_lt (i := 0) (by decide)
  · exact isBit_of_lt (i := 4) (by decide)
  · exact isBit_of_lt (i := 8) (by decide)
  · exact isBit_of_lt (i := 12) (by decide)

theorem debugUtilsTypes_eq (flags : UInt64) :
    debugUtilsMessageTypesToLoaderLogMessageTypes flags = flags &&& typeMask := by
  refine knownBits_eq (fun bit hbit => ?_) flags
  fin_cases hbit
  · exact isBit_of_lt (i := 0) (by decide)
  · exact isBit_of_lt (i := 1) (by decide)
  · exact isBit_of_lt (i := 2) (by decide)

def passing (logger : LoaderLogger) (messageSeverity messageType : UInt64) :
    List XrDebugUtilsMessengerEXT :=
  ((logger.recorders.filter (·.type = .debugUtils)).filter fun r =>
    Contains r.messageSeverities (messageSeverity &&& severityMask) ∧
      Contains r.messageTypes (messageType &&& typeMask)).map (·.uniqueId)

theorem messengers_logDebugUtilsMessage (logger : LoaderLogger) (userCallback : UserCall → Bool)
    (messageSeverity messageType : UInt64) (callbackData : XrDebugUtilsMessengerCallbackDataEXT) :
    (logger.logDebugUtilsMessage userCallback messageSeverity messageType callbackData).2.map
        (·.messenger) = passing logger messageSeverity messageType := by
  unfold LoaderLogger.logDebugUtilsMessage passing
  simp only [debugUtilsSeverities_eq, debugUtilsTypes_eq]
  induction logger.recorders with
  | nil => rfl
  | cons r recorders ih =>
    by_cases htype : r.type = .debugUtils
    · rw [List.filter_cons_of_pos (by simpa using htype)]
      by_cases hpasses : Contains r.messageSeverities (messageSeverity &&& severityMask) ∧
          Contains r.messageTypes (messageType &&& typeMask)
      · rw [List.filter_cons_of_pos (by simpa using hpasses), List.filterMap_cons,
          if_neg (by simp [htype, hpasses.1, hpasses.2]), LoaderLogRecorder.logDebugUtilsMessage, htype,
          List.map_cons, List.map_cons, ih]
      · have hskipped : r.type ≠ .debugUtils ∨
            ¬ Contains r.messageSeverities (messageSeverity &&& severityMask) ∨
              ¬ Contains r.messageTypes (messageType &&& typeMask) :=
          Or.inr (not_and_or.mp hpasses)
        rw [List.filter_cons_of_neg (by simpa using hpasses), List.filterMap_cons,
          if_pos hskipped, ih]
    · rw [List.filter_cons_of_neg (by simpa using htype), List.filterMap_cons,
        if_pos (Or.inl htype), ih]

section Delivery
variable {defaults : List LoaderLogRecorder} {live : Subscribers} {logger : LoaderLogger}
  {messageSeverity messageType : UInt64} {info : XrDebugUtilsMessengerCreateInfoEXT}

/-- The messengers whose callbacks are called, for a message with these flags. -/
structure Delivers (live : Subscribers) (messageSeverity messageType : UInt64)
    (called : List XrDebugUtilsMessengerEXT) : Prop where
  once : called.Nodup
  reaches : ∀ m inst info, live m = some (inst, info) →
    Contains info.messageSeverities messageSeverity → Contains info.messageTypes messageType →
      m ∈ called
  nobodyElse : ∀ m ∈ called, ∃ inst info, live m = some (inst, info) ∧
    ¬ Disjoint info.messageSeverities messageSeverity ∧ ¬ Disjoint info.messageTypes messageType

/-- Of these flags none is translated and none is subscribed. -/
def Unnoticed (mask flags subscribed : UInt64) : Prop := Disjoint mask flags ∧ Disjoint subscribed flags

/-- The severities go unnoticed, or the types, and the rest of the message is subscribed. -/
def Mistaken (info : XrDebugUtilsMessengerCreateInfoEXT) (messageSeverity messageType : UInt64) : Prop :=
  Unnoticed severityMask messageSeverity info.messageSeverities ∧
      Contains info.messageTypes (messageType &&& typeMask) ∨
    Unnoticed typeMask messageType info.messageTypes ∧
      Contains info.messageSeverities (messageSeverity &&& severityMask)

/-- Of the flags that are defined, one goes unnoticed. -/
theorem mistaken_iff_of_defined (hseverity : Contains severityMask messageSeverity)
    (hseverity0 : messageSeverity ≠ 0) (htype : Contains (typeMask ||| typeConformance) messageType)
    (htype0 : messageType ≠ 0) : Mistaken info messageSeverity messageType ↔
      messageType = typeConformance ∧ Disjoint info.messageTypes typeConformance ∧
        Contains info.messageSeverities messageSeverity := by
  have hnoticed : ¬ Disjoint severityMask messageSeverity := fun h =>
    hseverity0 (hseverity.symm.trans h)
  have hkept : messageSeverity &&& severityMask = messageSeverity := by
    rw [UInt64.and_comm, hseverity]
  have hconformance : Disjoint typeMask messageType ↔ messageType = typeConformance := by
    constructor
    · intro h
      have hsplit : typeConformance &&& messageType = messageType := by
        rw [Contains, and_or_distrib_right, h, UInt64.zero_or] at htype
        exact htype
      have hbit : IsBit typeConformance := isBit_of_lt (i := 3) (by decide)
      rw [UInt64.and_comm] at hsplit
      rcases and_bit hbit messageType with h0 | h1
      · exact absurd (hsplit.symm.trans h0) htype0
      · exact hsplit.symm.trans h1
    · rintro rfl
      decide
  unfold Mistaken Unnoticed
  rw [hkept, hconformance]
  constructor
  · rintro (⟨⟨h, -⟩, -⟩ | ⟨⟨rfl, hdisjoint⟩, hcontains⟩)
    · exact absurd h hnoticed
    · exact ⟨rfl, hdisjoint, hcontains⟩
  · rintro ⟨rfl, hdisjoint, hcontains⟩
    exact Or.inr ⟨⟨rfl, hdisjoint⟩, hcontains⟩

theorem nodup_passing (h : Subscribes defaults live logger) :
    (passing logger messageSeverity messageType).Nodup :=
  h.tracks.nodup.sublist (List.filter_sublist.map _)

theorem mem_passing (h : Subscribes defaults live logger) (m : XrDebugUtilsMessengerEXT) :
    m ∈ passing logger messageSeverity messageType ↔ ∃ inst info, live m = some (inst, info) ∧
      Contains info.messageSeverities (messageSeverity &&& severityMask) ∧
        Contains info.messageTypes (messageType &&& typeMask) := by
  have htest (info : XrDebugUtilsMessengerCreateInfoEXT) :
      Contains (makeDebugUtilsLoaderLogRecorder info m).messageSeverities
            (messageSeverity &&& severityMask) ∧
          Contains (makeDebugUtilsLoaderLogRecorder info m).messageTypes (messageType &&& typeMask) ↔
        Contains info.messageSeverities (messageSeverity &&& severityMask) ∧
          Contains info.messageTypes (messageType &&& typeMask) := by
    simp only [makeDebugUtilsLoaderLogRecorder, debugUtilsSeverities_eq, debugUtilsTypes_eq,
      contains_and_iff]
  unfold passing
  simp only [List.mem_map, List.mem_filter, decide_eq_true_eq]
  constructor
  · rintro ⟨r, ⟨⟨hr, htype⟩, hpasses⟩, rfl⟩
    obtain ⟨inst, info, hlive, hmade⟩ := h.made r hr htype
    rw [hmade] at hpasses
    exact ⟨inst, info, hlive, (htest info).mp hpasses⟩
  · rintro ⟨inst, info, hlive, hpasses⟩
    have hid : m ∈ logger.messengerIds := by
      rw [h.tracks.mem_ids, hlive]
      rfl
    obtain ⟨r, hr, rfl⟩ := List.mem_map.mp hid
    obtain ⟨hr, htype⟩ := List.mem_filter.mp hr
    have htype := of_decide_eq_true htype
    obtain ⟨inst', info', hlive', hmade⟩ := h.made r hr htype
    cases hlive.symm.trans hlive'
    refine ⟨r, ⟨⟨hr, htype⟩, ?_⟩, rfl⟩
    rw [hmade]
    exact (htest info).mpr hpasses

/-- The messages are delivered unless one is mistaken for one that is subscribed. -/
theorem delivers_passing_iff (h : Subscribes defaults live logger) :
    Delivers live messageSeverity messageType (passing logger messageSeverity messageType) ↔
      ∀ m inst info, live m = some (inst, info) → ¬ Mistaken info messageSeverity messageType := by
  constructor
  · rintro hdelivers m inst info hlive hmistaken
    have hpasses : Contains info.messageSeverities (messageSeverity &&& severityMask) ∧
        Contains info.messageTypes (messageType &&& typeMask) := by
      rcases hmistaken with ⟨⟨hmask, -⟩, htypes⟩ | ⟨⟨hmask, -⟩, hseverities⟩
      · exact ⟨contains_of_eq_zero (by rw [UInt64.and_comm, hmask]), htypes⟩
      · exact ⟨hseverities, contains_of_eq_zero (by rw [UInt64.and_comm, hmask])⟩
    obtain ⟨inst', info', hlive', hseverities, htypes⟩ :=
      hdelivers.nobodyElse m ((mem_passing h m).mpr ⟨inst, info, hlive, hpasses⟩)
    cases hlive.symm.trans hlive'
    rcases hmistaken with ⟨⟨-, hdisjoint⟩, -⟩ | ⟨⟨-, hdisjoint⟩, -⟩
    · exact hseverities hdisjoint
    · exact htypes hdisjoint
  · intro hnone
    refine ⟨nodup_passing h, fun m inst info hlive hseverities htypes => ?_, fun m hm => ?_⟩
    · exact (mem_passing h m).mpr ⟨inst, info, hlive, hseverities.and _, htypes.and _⟩
    · obtain ⟨inst, info, hlive, hseverities, htypes⟩ := (mem_passing h m).mp hm
      refine ⟨inst, info, hlive, fun hdisjoint => ?_, fun hdisjoint => ?_⟩
      · have hmask := hseverities.eq_zero hdisjoint
        rw [UInt64.and_comm] at hmask
        exact hnone m inst info hlive (Or.inl ⟨⟨hmask, hdisjoint⟩, htypes⟩)
      · have hmask := htypes.eq_zero hdisjoint
        rw [UInt64.and_comm] at hmask
        exact hnone m inst info hlive (Or.inr ⟨⟨hmask, hdisjoint⟩, hseverities⟩)

end Delivery

/-- A runtime without the function leaves the message to the loader. -/
theorem termSubmitToMessengers_run (env : Environment) (userCallback : UserCall → Bool)
    (messageSeverity messageTypes : UInt64) (callbackData : XrDebugUtilsMessengerCallbackDataEXT)
    {w : World} {inst : XrInstance} {rt : RuntimeInterface} {table : DispatchTable}
    (hrt : w.runtime = some rt) (htable : rt.dispatchTableMap.lookup inst = some table)
    (habsent : table .submitDebugUtilsMessageEXT = .null) :
    termSubmitToMessengers env userCallback inst messageSeverity messageTypes callbackData w =
      .ok (⟨xrSuccess, none⟩,
        (w.logger.logDebugUtilsMessage userCallback messageSeverity messageTypes callbackData).2) w := by
  have hfound : RuntimeInterface.getDispatchTable inst w = .ok (some table) w :=
    getDispatchTable_eq_ok.mpr ⟨rt, hrt, htable.symm, rfl⟩
  unfold termSubmitToMessengers
  rw [bind_of_ok hfound, bind_of_ok (dispatchTableOf_eq_ok.mpr ⟨rfl, rfl⟩), habsent]
  rfl

/-- In every state reached, the callbacks are called of the messengers that subscribed to the
message, unless one of them mistakes it. -/
theorem submitted_delivers_iff {android windows : Bool} {debugString : StdString}
    {trace : List (Transition Subscribed (Option TermEvent))} {s : Subscribed}
    (h : Run SubscribedStep
      ⟨World.initial (LoaderLogger.new android windows debugString), fun _ => none⟩ trace s)
    (hsteps : ∀ x ∈ trace, HandlesRespected x) (env : Environment) (userCallback : UserCall → Bool)
    (messageSeverity messageTypes : UInt64) (callbackData : XrDebugUtilsMessengerCallbackDataEXT)
    {inst : XrInstance} {rt : RuntimeInterface} {table : DispatchTable}
    (hrt : s.world.runtime = some rt) (htable : rt.dispatchTableMap.lookup inst = some table)
    (habsent : table .submitDebugUtilsMessageEXT = .null) :
    ∃ calls, termSubmitToMessengers env userCallback inst messageSeverity messageTypes callbackData
        s.world = .ok (⟨xrSuccess, none⟩, calls) s.world ∧
      (Delivers s.live messageSeverity messageTypes (calls.map (·.messenger)) ↔
        ∀ m i info, s.live m = some (i, info) → ¬ Mistaken info messageSeverity messageTypes) := by
  refine ⟨_, termSubmitToMessengers_run env userCallback messageSeverity messageTypes callbackData
    hrt htable habsent, ?_⟩
  rw [messengers_logDebugUtilsMessage]
  exact delivers_passing_iff (subscribes_of_run h hsteps)

def generalErrors : XrDebugUtilsMessengerCreateInfoEXT := ⟨severityError, typeGeneral⟩

/-- It is created once the runtime is loaded and has its instance. -/
theorem generalErrors_reached : ∃ trace w rt table,
    Run SubscribedStep ⟨World.initial (LoaderLogger.new false false []), fun _ => none⟩ trace
      ⟨w, Function.update (fun _ => none) 4 (some (7, generalErrors))⟩ ∧
    (∀ x ∈ trace, HandlesRespected x) ∧ w.runtime = some rt ∧
    rt.dispatchTableMap.lookup 7 = some table ∧ table .submitDebugUtilsMessageEXT = .null ∧
    w.logger.recorders =
      [makeStdErrLoaderLogRecorder, makeDebugUtilsLoaderLogRecorder generalErrors 4] := by
  have hloaded := Run.snoc .nil (@SubscribedStep.other
    (World.initial (LoaderLogger.new false false []))
    { World.initial (LoaderLogger.new false false []) with runtime := some ⟨0, 1, ∅, ∅, []⟩ }
    (fun _ => none) rfl rfl)
  have hcreated := hloaded.snoc (@SubscribedStep.terminated runtimeWithoutDebugUtils
    (.createInstance (LoaderCore.infoWithNext [])) ⟨xrSuccess, some 7⟩ _ _ _ rfl)
  have hrun := hcreated.snoc (@SubscribedStep.terminated runtimeWithoutDebugUtils
    (.createDebugUtilsMessengerEXT 7 generalErrors true) ⟨xrSuccess, some 4⟩ _ _ _ rfl)
  refine ⟨_, _, _, _, hrun, fun x hx => ?_, rfl, rfl, rfl, rfl⟩
  simp only [List.nil_append, List.cons_append, List.mem_cons, List.not_mem_nil, or_false] at hx
  rcases hx with rfl | rfl | rfl
  · rintro e ⟨⟩
  · rintro e ⟨⟩
    trivial
  · rintro e ⟨⟩ - m ⟨⟩
    exact ⟨by decide, rfl⟩

theorem submitted_delivers_generalError : ∃ w calls live,
    live 4 = some (7, generalErrors) ∧
    termSubmitToMessengers runtimeWithoutDebugUtils (fun _ => false) 7 severityError
      typeGeneral ⟨[], [], [], ⟨0, []⟩, ⟨0, []⟩⟩ w = .ok (⟨xrSuccess, none⟩, calls) w ∧
    Delivers live severityError typeGeneral (calls.map (·.messenger)) := by
  obtain ⟨trace, w, rt, table, hrun, hsteps, hrt, htable, habsent, -⟩ := generalErrors_reached
  obtain ⟨calls, hcalled, hdelivers⟩ := submitted_delivers_iff hrun hsteps
    runtimeWithoutDebugUtils (fun _ => false) severityError typeGeneral
    ⟨[], [], [], ⟨0, []⟩, ⟨0, []⟩⟩ hrt htable habsent
  refine ⟨w, calls, _, Function.update_self _ _ _, hcalled, hdelivers.mpr fun m i info hlive => ?_⟩
  rw [mistaken_iff_of_defined (by decide) (by decide) (by decide) (by decide)]
  exact fun h => absurd h.1 (by decide)

/-- It is called for a message about conformance. -/
theorem conformance_mistaken : ∃ trace w calls,
    Run SubscribedStep ⟨World.initial (LoaderLogger.new false false []), fun _ => none⟩ trace
      ⟨w, Function.update (fun _ => none) 4 (some (7, generalErrors))⟩ ∧
    (∀ x ∈ trace, HandlesRespected x) ∧
    termSubmitToMessengers runtimeWithoutDebugUtils (fun _ => false) 7 severityError
      typeConformance ⟨[], [], [], ⟨0, []⟩, ⟨0, []⟩⟩ w = .ok (⟨xrSuccess, none⟩, calls) w ∧
    calls.map (·.messenger) = [4] ∧ Disjoint generalErrors.messageTypes typeConformance ∧
    ¬ Delivers (Function.update (fun _ => none) 4 (some (7, generalErrors))) severityError
      typeConformance (calls.map (·.messenger)) := by
  obtain ⟨trace, w, rt, table, hrun, hsteps, hrt, htable, habsent, hrecorders⟩ :=
    generalErrors_reached
  have hdisjoint : Disjoint generalErrors.messageTypes typeConformance := by decide
  have hcalled : (w.logger.logDebugUtilsMessage (fun _ => false) severityError typeConformance
      ⟨[], [], [], ⟨0, []⟩, ⟨0, []⟩⟩).2.map (·.messenger) = [4] := by
    rw [messengers_logDebugUtilsMessage, passing, hrecorders]
    decide +kernel
  refine ⟨trace, w, _, hrun, hsteps, termSubmitToMessengers_run _ _ _ _ _ hrt htable habsent,
    hcalled, hdisjoint, fun h => ?_⟩
  obtain ⟨inst, info, hlive, -, htypes⟩ := h.nobodyElse 4 (by rw [hcalled]; simp)
  rw [Function.update_self] at hlive
  cases hlive
  exact htypes hdisjoint

end OpenXRSdk
