import OpenXRSdk.LibraryBalance

/-!
# Names and labels

What is stored about sessions and objects in the course of a run. The labels of a session are
the replay of the calls that set them; no other call changes them.
-/
namespace OpenXRSdk

open StateProgram World TransitionSystem

abbrev KeepsLabels : World → World → Prop := SameOn fun w => w.logger.data.sessionLabels

abbrev KeepsNames : World → World → Prop := SameOn fun w => w.logger.data.objectInfo

theorem keepsLabels_of_data {w w' : World} (h : w'.logger.data = w.logger.data) : KeepsLabels w w' :=
  congrArg DebugUtilsData.sessionLabels h

theorem keepsNames_of_data {w w' : World} (h : w'.logger.data = w.logger.data) : KeepsNames w w' :=
  congrArg DebugUtilsData.objectInfo h

theorem keepsLabels_frame : Frame KeepsLabels where
  tick _ := rfl
  recorders w _ hf := keepsLabels_of_data (hf w.logger)
  messengers _ _ := rfl

theorem keepsNames_frame : Frame KeepsNames where
  tick _ := rfl
  recorders w _ hf := keepsNames_of_data (hf w.logger)
  messengers _ _ := rfl

theorem terminate_keepsLabels (env : Environment) (call : TermCall) :
    Within KeepsLabels isUndefined (terminate env call) :=
  keepsLabels_frame.terminate env (fun _ _ _ => rfl) fun _ _ _ _ _ => rfl

theorem terminate_keepsNames (env : Environment) (call : TermCall) (h : call.changesNames = false) :
    Within KeepsNames isUndefined (terminate env call) :=
  keepsNames_frame.terminate env (fun _ _ _ => rfl) fun hn => absurd hn (by simp [h])

def World.labels (w : World) (s : XrSession) : List XrSdkSessionLabel :=
  w.logger.data.sessionLabelList s

def World.objectName (w : World) (handle : ℕ) (type : XrObjectType) : Option StdString :=
  ObjectInfoCollection.lookUpObjectName w.logger.data.objectInfo handle type

theorem KeepsNames.objectName {w w' : World} (h : KeepsNames w w') (handle : ℕ) (type : XrObjectType) :
    w'.objectName handle type = w.objectName handle type :=
  congrArg (ObjectInfoCollection.lookUpObjectName · handle type) h

theorem KeepsLabels.labels {w w' : World} (h : KeepsLabels w w') (s : XrSession) :
    w'.labels s = w.labels s := by
  unfold World.labels DebugUtilsData.sessionLabelList
  exact congrArg (fun m => (AList.lookup s m).getD []) h

namespace LoaderCore

theorem keepsLabels_of_loads {w w' : World} (h : Loads w w') : KeepsLabels w w' :=
  keepsLabels_of_data (congrArg LoaderLogger.data h.logger)

theorem keepsLabels_callFunction (env : Environment) (function : Pfn) (call : TermCall) :
    Within KeepsLabels isUndefined (callFunction env function call) :=
  callFunction_within (p := fun _ => True) keepsLabels_frame.tick
    (fun c _ => terminate_keepsLabels env c) trivial
    (fun _ _ => CallTree.calls_of_forall (fun _ => trivial) _) function

theorem keepsLabels_calls (env : Environment) : CallsWithin KeepsLabels env where
  tick := keepsLabels_frame.tick
  call f call _ := keepsLabels_callFunction env f call
  callDown f _ := callDownFunction_within (p := fun _ => True) keepsLabels_frame.tick
    (fun c _ => terminate_keepsLabels env c)
    (fun _ _ => CallTree.calls_of_forall (fun _ => trivial) _) f

/-! ## The labels in the course of a run -/

/-- What a call on a session makes of its labels, if there is an instance. -/
def Call.relabel (s : XrSession) (labels : List XrSdkSessionLabel) : Call → List XrSdkSessionLabel
  | .beginLabelRegion session (some labelInfo) =>
    if s = session ∧ session ≠ xrNullHandle then
      DebugUtilsData.removeIndividualLabel labels ++ [⟨labelInfo, false⟩]
    else labels
  | .endLabelRegion session =>
    if s = session ∧ session ≠ xrNullHandle then
      (DebugUtilsData.removeIndividualLabel labels).dropLast
    else labels
  | .insertLabel session (some labelInfo) =>
    if s = session ∧ session ≠ xrNullHandle then
      DebugUtilsData.removeIndividualLabel labels ++ [⟨labelInfo, true⟩]
    else labels
  | _ => labels

theorem Call.relabel_of_not_isLabel {call : Call} (h : call.isLabel = false) (s : XrSession)
    (labels : List XrSdkSessionLabel) : call.relabel s labels = labels := by
  cases call with
  | beginLabelRegion => cases h
  | endLabelRegion => cases h
  | insertLabel => cases h
  | _ => rfl

def relabelStep (s : XrSession) (labels : List XrSdkSessionLabel) (x : Transition World Event) :
    List XrSdkSessionLabel :=
  if x.before.activeInstance.isSome then x.label.call.relabel s labels else labels

/-- The labels that the calls of a run leave open on a session. -/
def openLabels (s : XrSession) (trace : List (Transition World Event)) : List XrSdkSessionLabel :=
  trace.foldl (relabelStep s) []

theorem labels_forwardLabel {env : Environment} {li : LoaderInstance}
    {change : DebugUtilsData → DebugUtilsData} {call : DownCall} {result : XrResult} {w w' : World}
    (h : forwardLabel env li change call w = .ok result w') (s : XrSession) :
    w'.labels s = (change w.logger.data).sessionLabelList s := by
  obtain ⟨_, w₁, hm, hrest⟩ := bind_eq_ok.mp h
  obtain rfl := modify_eq_ok.mp hm
  have hdown : Within KeepsLabels isUndefined
      (if li.dispatchTable call.command = .null then pure xrSuccess
        else callDownFunction env (li.dispatchTable call.command) call) :=
    (Within.pure _).ite ((keepsLabels_calls env).callDown _ _)
  exact KeepsLabels.labels (hdown.of_ok hrest) s

theorem labels_forwardLabel_eq {env : Environment} {li : LoaderInstance}
    {change : DebugUtilsData → DebugUtilsData} {call : DownCall} {result : XrResult} {w w' : World}
    {session s : XrSession} (f : List XrSdkSessionLabel → List XrSdkSessionLabel)
    (hnull : session ≠ xrNullHandle)
    (hchange : (change w.logger.data).sessionLabelList s =
      if s = session then f (w.logger.data.sessionLabelList session) else
        w.logger.data.sessionLabelList s)
    (h : forwardLabel env li change call w = .ok result w') :
    w'.labels s = if s = session ∧ session ≠ xrNullHandle then f (w.labels s) else w.labels s := by
  rw [labels_forwardLabel h, hchange]
  by_cases hs : s = session
  · subst hs
    simp [hnull, World.labels]
  · simp [hs, World.labels]

theorem labels_beginLabelRegion {env : Environment} {session : XrSession}
    {labelInfo : Option XrDebugUtilsLabelEXT} {result : XrResult} {w w' : World}
    (h : sessionBeginDebugUtilsLabelRegion env session labelInfo w = .ok result w') (s : XrSession) :
    w'.labels s = if w.activeInstance.isSome then
      (Call.beginLabelRegion session labelInfo).relabel s (w.labels s) else w.labels s := by
  unfold sessionBeginDebugUtilsLabelRegion at h
  by_cases hnull : session = xrNullHandle
  · rw [if_pos hnull] at h
    cases h
    cases labelInfo <;> simp [Call.relabel, hnull]
  rw [if_neg hnull] at h
  cases labelInfo with
  | none =>
    cases h
    simp [Call.relabel]
  | some labelInfo =>
    obtain ⟨active, w₁, ha, hrest⟩ := bind_eq_ok.mp h
    cases ha
    cases hactive : w.activeInstance with
    | none =>
      rw [hactive] at hrest
      cases hrest
      simp
    | some li =>
      rw [hactive] at hrest
      exact labels_forwardLabel_eq
        (fun labels => DebugUtilsData.removeIndividualLabel labels ++ [⟨labelInfo, false⟩]) hnull
        (DebugUtilsData.sessionLabelList_pushLabel session s _ _) hrest

theorem labels_endLabelRegion {env : Environment} {session : XrSession} {result : XrResult}
    {w w' : World} (h : sessionEndDebugUtilsLabelRegion env session w = .ok result w') (s : XrSession) :
    w'.labels s = if w.activeInstance.isSome then
      (Call.endLabelRegion session).relabel s (w.labels s) else w.labels s := by
  unfold sessionEndDebugUtilsLabelRegion at h
  by_cases hnull : session = xrNullHandle
  · rw [if_pos hnull] at h
    cases h
    simp [Call.relabel, hnull]
  rw [if_neg hnull] at h
  obtain ⟨active, w₁, ha, hrest⟩ := bind_eq_ok.mp h
  cases ha
  cases hactive : w.activeInstance with
  | none =>
    rw [hactive] at hrest
    cases hrest
    simp
  | some li =>
    rw [hactive] at hrest
    exact labels_forwardLabel_eq
      (fun labels => (DebugUtilsData.removeIndividualLabel labels).dropLast) hnull
      (DebugUtilsData.sessionLabelList_endLabelRegion session s _) hrest

theorem labels_insertLabel {env : Environment} {session : XrSession}
    {labelInfo : Option XrDebugUtilsLabelEXT} {result : XrResult} {w w' : World}
    (h : sessionInsertDebugUtilsLabel env session labelInfo w = .ok result w') (s : XrSession) :
    w'.labels s = if w.activeInstance.isSome then
      (Call.insertLabel session labelInfo).relabel s (w.labels s) else w.labels s := by
  unfold sessionInsertDebugUtilsLabel at h
  by_cases hnull : session = xrNullHandle
  · rw [if_pos hnull] at h
    cases h
    cases labelInfo <;> simp [Call.relabel, hnull]
  rw [if_neg hnull] at h
  obtain ⟨active, w₁, ha, hrest⟩ := bind_eq_ok.mp h
  cases ha
  cases hactive : w.activeInstance with
  | none =>
    rw [hactive] at hrest
    cases hrest
    simp
  | some li =>
    rw [hactive] at hrest
    cases labelInfo with
    | none =>
      cases hrest
      simp [Call.relabel]
    | some labelInfo =>
      exact labels_forwardLabel_eq
        (fun labels => DebugUtilsData.removeIndividualLabel labels ++ [⟨labelInfo, true⟩]) hnull
        (DebugUtilsData.sessionLabelList_pushLabel session s _ _) hrest

/-! ## Calls that leave the labels alone -/

theorem keepsLabels_of_loadsLayers {w w' : World} {layers : List ApiLayerInterface}
    (h : LoadsLayers w layers w') : KeepsLabels w w' := by
  obtain ⟨l, hl, -⟩ := h
  exact keepsLabels_of_data (congrArg LoaderLogger.data hl.logger)

theorem keepsLabels_of_creation {env : Environment} {info : XrInstanceCreateInfo} {w w' : World}
    {result : XrResult} {layers : List ApiLayerInterface}
    (h : Creation env info w result layers w') : KeepsLabels w w' := by
  have hchained {layers : List ApiLayerInterface} {names : List StdString} {reply : Reply}
      {w₁ w₂ : World} (hloads : LoadsLayers w layers w₁)
      (hrun : LoaderInstance.createChained env layers info names w₁ = .ok reply w₂) :
      KeepsLabels w w₂ := by
    have hwithin := LoaderInstance.createChained_within env keepsLabels_frame.tick
      (terminate_keepsLabels env) layers info names
    exact trans_of KeepsLabels (keepsLabels_of_loadsLayers hloads) (hwithin.of_ok hrun)
  cases h with
  | notLoaded _ loads => exact keepsLabels_of_loadsLayers loads
  | chainFailed loads _ chained _ destroyed =>
    obtain ⟨l, hrun, -⟩ := ApiLayerInterface.destroyInterfaces_run _ _
    rw [hrun] at destroyed
    cases destroyed
    have hkeeps := hchained loads chained
    exact hkeeps
  | active loads _ chained _ populated =>
    obtain ⟨c, rfl⟩ := (LoaderInstance.populateDispatchTable_later env _ _).of_ok populated
    have hkeeps := hchained loads chained
    exact hkeeps

theorem keepsLabels_createInstance {env : Environment} {info : Option XrInstanceCreateInfo}
    {pointer : Bool} {w w' : World} {reply : Reply}
    (h : createInstance env info pointer w = .ok reply w') : KeepsLabels w w' := by
  cases createInstance_cases h with
  | refused => rfl
  | caught _ loads => exact keepsLabels_of_loads loads
  | @carriedOut i _ _ _ acceptable ending =>
    have hcreated {result : XrResult} {layers : List ApiLayerInterface} {w₁ : World}
        (hc : createActiveInstance env i w = .ok (result, layers) w₁) : KeepsLabels w w₁ :=
      keepsLabels_of_creation (createActiveInstance_cases acceptable.2.2 hc)
    have hmessenger := (keepsLabels_calls env).createDebugUtilsMessenger
    cases ending with
    | abandoned created =>
      have hkeeps := hcreated created
      exact hkeeps
    | plain created => exact hcreated created
    | messengerFailed created _ _ called =>
      exact trans_of KeepsLabels (hcreated created) ((hmessenger _ _ _).of_ok called)
    | messenger created _ _ called =>
      have hkeeps := trans_of KeepsLabels (hcreated created) ((hmessenger _ _ _).of_ok called)
      exact hkeeps

/-- The messenger of the instance goes, the instance, and then the runtime. -/
theorem destroyInstance_within {r : World → World → Prop} [IsPreorder World r] {env : Environment}
    (hmessenger : ∀ m, Within r isUndefined (destroyDebugUtilsMessenger env m))
    (hcall : ∀ f inst, Within r isUndefined (callFunction env f (.destroyInstance inst)))
    (hunloaded : ∀ w l, r w (unloaded w l)) {inst : XrInstance} {w w' : World} {result : XrResult}
    (h : destroyInstance env inst w = .ok result w') : r w w' := by
  rcases destroyInstance_cases h with
    ⟨-, rfl, -⟩ | ⟨-, -, li, reply, w₁, w₂, l, -, hdefault, hrun, rfl, -⟩
  · exact refl_of r w'
  have hfirst : Within r isUndefined (destroyDefaultMessenger env li) := by
    unfold destroyDefaultMessenger
    split_ifs
    · exact (hmessenger _).bind fun _ => Within.pure _
    · exact Within.pure _
  exact trans_of r (trans_of r (hfirst.of_ok hdefault) ((hcall _ _).of_ok hrun)) (hunloaded w₂ l)

theorem keepsLabels_destroyInstance {env : Environment} {inst : XrInstance} {w w' : World}
    {result : XrResult} (h : destroyInstance env inst w = .ok result w') : KeepsLabels w w' :=
  destroyInstance_within (keepsLabels_calls env).destroyDebugUtilsMessenger
    (fun f _ => keepsLabels_callFunction env f _) (fun _ _ => rfl) h

/-- Only the three calls that are made for it change a label. -/
theorem labels_step {w w' : World} {e : Event} (h : Step w e w') (s : XrSession) :
    w'.labels s = relabelStep s (w.labels s) ⟨w, e, w'⟩ := by
  obtain ⟨env, call, reply⟩ := e
  by_cases hlabel : call.isLabel = true
  · cases call with
    | beginLabelRegion session labelInfo =>
      obtain ⟨result, hrun, -⟩ := replyOf_eq_ok.mp h
      exact labels_beginLabelRegion hrun s
    | endLabelRegion session =>
      obtain ⟨result, hrun, -⟩ := replyOf_eq_ok.mp h
      exact labels_endLabelRegion hrun s
    | insertLabel session labelInfo =>
      obtain ⟨result, hrun, -⟩ := replyOf_eq_ok.mp h
      exact labels_insertLabel hrun s
    | _ => cases hlabel
  suffices hk : KeepsLabels w w' by
    rw [hk.labels, relabelStep, Call.relabel_of_not_isLabel (by simpa using hlabel), ite_self]
  by_cases hc : call.isLifecycle = false
  · exact ((keepsLabels_calls env).perform hc fun hl => absurd hl hlabel).of_ok h
  cases call with
  | initializeLoader info =>
    obtain ⟨result, hrun, -⟩ := replyOf_eq_ok.mp h
    rcases initializeLoader_cases hrun with ⟨-, -, rfl⟩ | ⟨-, c, l, o, d, rfl, -⟩ <;> rfl
  | enumerateApiLayerProperties =>
    obtain ⟨a, hrun, -⟩ := replyOf_eq_ok.mp h
    exact keepsLabels_of_loads ((enumerateApiLayerProperties_loads env _ _ _).of_ok hrun)
  | enumerateInstanceExtensionProperties =>
    obtain ⟨a, hrun, -⟩ := replyOf_eq_ok.mp h
    exact keepsLabels_of_loads ((enumerateInstanceExtensionProperties_loads env _ _ _ _).of_ok hrun)
  | createInstance info pointer => exact keepsLabels_createInstance h
  | destroyInstance inst =>
    obtain ⟨result, hrun, -⟩ := replyOf_eq_ok.mp h
    exact keepsLabels_destroyInstance hrun
  | _ => exact absurd rfl hc

theorem labels_run {start w : World} {trace : List (Transition World Event)}
    (h : Run Step start trace w) (s : XrSession) :
    w.labels s = trace.foldl (relabelStep s) (start.labels s) := by
  induction h with
  | nil => rfl
  | snoc _ last ih => rw [List.foldl_append, ← ih, labels_step last, List.foldl_cons, List.foldl_nil]

/-! ## Names while something is destroyed -/

/-- Layers name nothing while a session or an instance is being destroyed. -/
structure NamesNothing (env : Environment) : Prop where
  destroySession : ∀ t f s, (env.callDown t f (.destroySession s)).Calls (·.changesNames = false)
  destroyInstance : ∀ t f inst,
    (env.callLayer t f (.destroyInstance inst)).Calls (·.changesNames = false)
  destroyMessenger : ∀ t f m,
    (env.callLayer t f (.destroyDebugUtilsMessengerEXT m)).Calls (·.changesNames = false)

theorem keepsNames_destroyInstance {env : Environment} (hn : NamesNothing env) {inst : XrInstance}
    {w w' : World} {result : XrResult} (h : destroyInstance env inst w = .ok result w') :
    KeepsNames w w' := by
  refine destroyInstance_within (r := KeepsNames) (fun m => ?_) (fun f inst => ?_) (fun _ _ => rfl) h
  · refine (Within.pure _).ite (active_within.bind fun active => ?_)
    cases active with
    | none => exact Within.pure _
    | some li =>
      exact callFunction_within keepsNames_frame.tick (terminate_keepsNames env) rfl
        (fun t f => hn.destroyMessenger t f m) _
  · exact callFunction_within keepsNames_frame.tick (terminate_keepsNames env) rfl
      (fun t f => hn.destroyInstance t f inst) f

theorem keepsNames_destroySession {env : Environment} (hn : NamesNothing env) {session : XrSession}
    {w w' : World} {result : XrResult}
    (h : callGenerated env (.destroySession session) w = .ok result w') : KeepsNames w w' := by
  refine (active_within.bind fun active => ?_ : Within KeepsNames isUndefined _).of_ok h
  cases active with
  | none => exact Within.pure _
  | some li =>
    exact callDownFunction_within keepsNames_frame.tick (terminate_keepsNames env)
      (fun t f => hn.destroySession t f session) _

/-! ## Whole runs -/

/-- Nothing is left open on what the call destroys, and nothing of it has a name. -/
def Settled (earlier : List (Transition World Event)) (x : Transition World Event) : Prop :=
  match x.label.call with
  | .destroySession s => xrSucceeded x.label.reply.result →
    openLabels s earlier = [] ∧ x.before.objectName s xrObjectTypeSession = none ∧
      NamesNothing x.label.env
  | .destroyInstance _ => xrSucceeded x.label.reply.result →
    (∀ s, openLabels s earlier = []) ∧ (∀ handle type, x.before.objectName handle type = none) ∧
      NamesNothing x.label.env
  | _ => True

/-- A name that the object has was given to it on the way. -/
def NamedIn (later : List (Transition World Event)) (w : World) (handle : ℕ) (type : XrObjectType) :
    Prop :=
  ∀ name, w.objectName handle type = some name → ∃ y ∈ later,
    y.before.objectName handle type ≠ some name ∧ y.after.objectName handle type = some name

/-- A destroyed session, or all that belonged to a destroyed instance, has no labels and no
names; what is reported for the same handle later on was set later on. -/
def NoStaleData (x : Transition World Event) (later : List (Transition World Event)) (w : World) :
    Prop :=
  match x.label.call with
  | .destroySession s => xrSucceeded x.label.reply.result →
    x.after.logger.data.lookUpSessionLabels s = [] ∧
      x.after.objectName s xrObjectTypeSession = none ∧
      w.labels s = openLabels s later ∧ NamedIn later w s xrObjectTypeSession
  | .destroyInstance _ => xrSucceeded x.label.reply.result →
    (∀ s, x.after.logger.data.lookUpSessionLabels s = []) ∧
      (∀ handle type, x.after.objectName handle type = none) ∧
      (∀ s, w.labels s = openLabels s later) ∧ ∀ handle type, NamedIn later w handle type
  | _ => True

theorem namedIn_of_none {start w : World} {later : List (Transition World Event)}
    (h : Run Step start later w) {handle : ℕ} {type : XrObjectType}
    (hnone : start.objectName handle type = none) : NamedIn later w handle type := fun name hw =>
  h.exists_change (P := fun v => v.objectName handle type = some name) (by simp [hnone]) hw

/-- In a run in which nothing is destroyed that has open labels or a name, nothing stale is
stored. -/
theorem no_stale_data {android windows : Bool} {debugString : StdString}
    {trace : List (Transition World Event)} {w : World}
    (h : Run Step (World.initial (LoaderLogger.new android windows debugString)) trace w)
    (hsettled : EachStep Settled trace)
    {earlier later : List (Transition World Event)} {x : Transition World Event}
    (htrace : trace = earlier ++ x :: later) : NoStaleData x later w := by
  obtain ⟨hearlier, hx, hlater⟩ := h.split htrace
  have hset := hsettled earlier x later htrace
  have hbefore (s : XrSession) : x.before.labels s = openLabels s earlier := labels_run hearlier s
  have hafter (s : XrSession) (hnone : x.after.labels s = []) : w.labels s = openLabels s later := by
    rw [labels_run hlater s, hnone, openLabels]
  obtain ⟨before, ⟨env, call, reply⟩, after⟩ := x
  unfold NoStaleData
  unfold Settled at hset
  cases call with
  | destroySession session =>
    intro hs
    obtain ⟨hopen, hname, hn⟩ := hset hs
    obtain ⟨result, hrun, -⟩ := replyOf_eq_ok.mp hx
    have hlabels : after.labels session = [] := by
      rw [labels_step hx, relabelStep, Call.relabel_of_not_isLabel rfl, ite_self, hbefore, hopen]
    have hnamed := (keepsNames_destroySession hn hrun).objectName session xrObjectTypeSession
    rw [hname] at hnamed
    exact ⟨DebugUtilsData.lookUpSessionLabels_eq_nil.mpr hlabels, hnamed, hafter session hlabels,
      namedIn_of_none hlater hnamed⟩
  | destroyInstance inst =>
    intro hs
    obtain ⟨hopen, hname, hn⟩ := hset hs
    obtain ⟨result, hrun, -⟩ := replyOf_eq_ok.mp hx
    have hlabels (s : XrSession) : after.labels s = [] := by
      rw [labels_step hx, relabelStep, Call.relabel_of_not_isLabel rfl, ite_self, hbefore, hopen]
    have hnamed (handle : ℕ) (type : XrObjectType) : after.objectName handle type = none := by
      rw [(keepsNames_destroyInstance hn hrun).objectName]
      exact hname handle type
    exact ⟨fun s => DebugUtilsData.lookUpSessionLabels_eq_nil.mpr (hlabels s), hnamed,
      fun s => hafter s (hlabels s), fun handle type => namedIn_of_none hlater (hnamed handle type)⟩
  | _ => trivial

def answeringRuntime : Environment := runtimeAnswering fun _ => ⟨xrSuccess, some 7⟩

theorem namesNothing_answeringRuntime : NamesNothing answeringRuntime where
  destroySession _ _ _ := trivial
  destroyInstance _ _ _ := CallTree.calls_forward rfl
  destroyMessenger _ _ _ := CallTree.calls_forward rfl

def succeeding (call : Call) : Event := ⟨answeringRuntime, call, ⟨xrSuccess, none⟩⟩

def creating : Event :=
  ⟨answeringRuntime, .createInstance (some (infoWithNext [])) true, ⟨xrSuccess, some 7⟩⟩

theorem no_stale_data_endedRegion : ∃ trace w x,
    Run Step (World.initial (LoaderLogger.new false false [])) (trace ++ [x]) w ∧
      x.label = succeeding (.destroySession 5) ∧ NoStaleData x [] w := by
  have hnil : Run Step (World.initial (LoaderLogger.new false false [])) [] _ := .nil
  have hrun := ((hnil.snoc
    (l := creating) (step_iff.mpr ⟨by decide +kernel, rfl⟩)).snoc
    (l := succeeding (.beginLabelRegion 5 (some ⟨['a']⟩))) (step_iff.mpr ⟨by decide +kernel, rfl⟩)).snoc
    (l := succeeding (.endLabelRegion 5)) (step_iff.mpr ⟨by decide +kernel, rfl⟩)
  have hlast := hrun.snoc (l := succeeding (.destroySession 5))
    (step_iff.mpr ⟨by decide +kernel, rfl⟩)
  refine ⟨_, _, _, hlast, rfl, no_stale_data hlast ?_ rfl⟩
  refine (((eachStep_nil.snoc trivial).snoc trivial).snoc trivial).snoc fun _ => ?_
  exact ⟨by decide +kernel, by decide +kernel, namesNothing_answeringRuntime⟩

/-- Labels outlive their session, and names their instance. -/
theorem label_outlivesSession : ∃ trace x y w,
    Run Step (World.initial (LoaderLogger.new false false [])) (trace ++ [x] ++ [y]) w ∧
      x.label = succeeding (.destroySession 5) ∧ y.label = succeeding (.destroyInstance 7) ∧
      x.after.logger.data.lookUpSessionLabels 5 = [⟨['a']⟩] ∧
      w.logger.data.lookUpSessionLabels 5 = [⟨['a']⟩] ∧ w.objectName 9 3 = some ['b'] ∧
      ¬ NoStaleData x [y] w ∧ ¬ NoStaleData y [] w := by
  have hnil : Run Step (World.initial (LoaderLogger.new false false [])) [] _ := .nil
  have hrun := ((hnil.snoc
    (l := creating) (step_iff.mpr ⟨by decide +kernel, rfl⟩)).snoc
    (l := succeeding (.beginLabelRegion 5 (some ⟨['a']⟩))) (step_iff.mpr ⟨by decide +kernel, rfl⟩)).snoc
    (l := succeeding (.setObjectName 7 ⟨3, 9, ['b']⟩)) (step_iff.mpr ⟨by decide +kernel, rfl⟩)
  have hlast := (hrun.snoc (l := succeeding (.destroySession 5))
    (step_iff.mpr ⟨by decide +kernel, rfl⟩)).snoc (l := succeeding (.destroyInstance 7))
    (step_iff.mpr ⟨by decide +kernel, rfl⟩)
  refine ⟨_, _, _, _, hlast, rfl, rfl, by decide +kernel, by decide +kernel, by decide +kernel, ?_, ?_⟩
  · intro h
    exact absurd (h (by decide)).1 (by decide +kernel)
  · intro h
    exact absurd ((h (by decide)).1 5) (by decide +kernel)

end LoaderCore
end OpenXRSdk
