import OpenXRSdk.ConformingTerminators

/-!
# Calls of an application that conforms

What holds between two calls, what an application may pass to the next one, and that each function of
the loader then returns.
-/
namespace OpenXRSdk.LoaderCore

open StateProgram World

variable {p : Participants} {env : Environment} {w w' : World} {live : Messengers}
  {defaults : List LoaderLogRecorder}

/-! ## What holds between two calls -/

/-- The messengers are in order, the participants conform, and the messenger that came with the
instance is alive. -/
structure Sound (p : Participants) (defaults : List LoaderLogRecorder) (live : Messengers) (w : World) :
    Prop where
  kept : Kept defaults live w
  conforming : Conforming p w
  default : ∀ m inst, defaultMessengers w m = some inst → live m = some inst

theorem Sound.hasTable (h : Sound p defaults live w) {li : LoaderInstance}
    (hactive : w.activeInstance = some li) : HasTable w li.runtimeInstance := by
  obtain ⟨rt, hrt, hmem⟩ := h.kept.registered li hactive
  obtain ⟨table, htable⟩ := Option.isSome_iff_exists.mp (AList.lookup_isSome.mpr hmem)
  exact ⟨rt, hrt, table, htable, (h.conforming.runtime rt hrt).tables _ table htable⟩

/-- The code around the loader in one call. -/
structure Behaves (p : Participants) (live : Messengers) (w : World) (env : Environment) : Prop where
  conforms : Conforms p env
  wellBehaved : WellBehaved env live
  hands : HandsMessengers env
  remarks : ∃ inst, (∀ li ∈ w.activeInstance, li.runtimeInstance = inst) ∧ RemarksOnly env inst

theorem Behaves.remarksOnly (h : Behaves p live w env) {li : LoaderInstance}
    (hactive : w.activeInstance = some li) : RemarksOnly env li.runtimeInstance := by
  obtain ⟨inst, hinst, hremarks⟩ := h.remarks
  exact hinst li hactive ▸ hremarks

/-- What the application may pass: the handles that it has been given, while they are alive. The
messenger that came with the instance was never given to it. -/
def ValidUsage (live : Messengers) (w : World) : Call → Prop
  | .createInstance info _ => ∀ i ∈ info, HasNames i
  | .destroyInstance inst => IsActive w inst
  | .createDebugUtilsMessenger inst _ _ => IsActive w inst
  | .destroyDebugUtilsMessenger m =>
    m = xrNullHandle ∨ (live m).isSome ∧ defaultMessengers w m = none
  | .setObjectName inst _ => ∀ li ∈ w.activeInstance, li.runtimeInstance = inst
  | .submitMessage inst _ _ => ∀ li ∈ w.activeInstance, li.runtimeInstance = inst
  | .other number => ∀ li ∈ w.activeInstance, ∃ f, li.dispatchTable (.other number) = .foreign f
  | _ => True

/-! ## Calls on the active instance -/

/-- The calls that pass through the active instance, those on messengers apart. -/
def Call.annotates : Call → Bool
  | .beginLabelRegion _ _ => true
  | .endLabelRegion _ => true
  | .insertLabel _ _ => true
  | .setObjectName _ _ => true
  | .submitMessage _ _ _ => true
  | .destroySession _ => true
  | .other _ => true
  | .getInstanceProcAddr _ _ _ => true
  | _ => false

section Active
variable {E : Fault → World → Prop}

theorem triple_active {α : Type} {f : Option LoaderInstance → Loader α} {Q : α → World → Prop}
    (hnone : w.activeInstance = none → Triple (Annotates w) (f none) Q E)
    (hsome : ∀ li, w.activeInstance = some li → Triple (Annotates w) (f (some li)) Q E) :
    Triple (Annotates w) (ActiveLoaderInstance.active >>= f) Q E := by
  intro s hs
  have hrun : ActiveLoaderInstance.active s = .ok w.activeInstance s := by
    rw [← hs.activeInstance]
    rfl
  rw [bind_of_ok hrun]
  cases hw : w.activeInstance with
  | none => exact hnone hw s hs
  | some li => exact hsome li hw s hs

variable (h : Sound p defaults live w) (hb : Behaves p live w env)
include h hb

theorem triple_callActive {call : TermCall}
    (hcall : ∀ li ∈ w.activeInstance, IsRemark li.runtimeInstance call) :
    Triple (Annotates w) (callActive env call) (fun _ => Annotates w) E := by
  refine triple_active (fun _ => Triple.pure fun _ hs => hs) fun li hli => ?_
  exact (triple_remark (h.conforming.active li hli) (h.hasTable hli) hb.wellBehaved.call
    (hcall li hli)).bind fun _ => Triple.pure fun _ hs => hs

theorem triple_callGenerated {call : DownCall}
    (hcall : ∀ li ∈ w.activeInstance, ∃ f, li.dispatchTable call.command = .foreign f) :
    Triple (Annotates w) (callGenerated env call) (fun _ => Annotates w) E :=
  triple_active (fun _ => Triple.pure fun _ hs => hs) fun li hli =>
    triple_callDownFunction (h.hasTable hli) (hb.remarksOnly hli) (hcall li hli) call

theorem triple_label {li : LoaderInstance} (hli : w.activeInstance = some li)
    (change : DebugUtilsData → DebugUtilsData) {call : DownCall}
    (hcall : hasTerminator call.command = false) :
    Triple (Annotates w) (forwardLabel env li change call) (fun _ => Annotates w) E :=
  triple_forwardLabel (h.conforming.active li hli) (h.hasTable hli) (hb.remarksOnly hli) change hcall

omit hb in
theorem triple_loaderGetInstanceProcAddr (inst : XrInstance) (name : Option Command)
    (function : Bool) :
    Triple (Annotates w) (getInstanceProcAddr env inst name function) (fun _ => Annotates w) E := by
  have hdone {reply : GipaReply} :
      Triple (Annotates w) (pure reply) (fun _ => Annotates w) E := Triple.pure fun _ hs => hs
  unfold getInstanceProcAddr
  refine Triple.ite hdone ?_
  cases name with
  | none => exact hdone
  | some name =>
    refine triple_active (fun _ => Triple.ite hdone (Triple.ite hdone ?_)) fun li hli =>
      Triple.ite hdone (Triple.ite hdone ?_)
    · rw [ite_self]
      exact hdone
    · by_cases hnull : inst = xrNullHandle
      · rw [if_pos hnull]
        exact hdone
      · rw [if_neg hnull]
        exact Triple.ite hdone (Triple.ite (Triple.ite hdone hdone)
          (triple_getInstanceProcAddr (h.conforming.active li hli) (h.hasTable hli) name))

/-- These calls return, and leave a note at most. -/
theorem triple_perform_annotating {call : Call} (hv : ValidUsage live w call)
    (hcall : call.annotates = true) :
    Triple (Annotates w) (perform env call) (fun _ => Annotates w) E := by
  have hreply {α : Type} {result : α → XrResult} {x : Loader α}
      (hx : Triple (Annotates w) x (fun _ => Annotates w) E) :
      Triple (Annotates w) (replyOf result x) (fun _ => Annotates w) E :=
    hx.bind fun _ => Triple.pure fun _ hs => hs
  have hdone {result : XrResult} :
      Triple (Annotates w) (pure result) (fun _ => Annotates w) E := Triple.pure fun _ hs => hs
  cases call with
  | beginLabelRegion session labelInfo =>
    refine hreply ?_
    unfold sessionBeginDebugUtilsLabelRegion
    split_ifs
    · exact hdone
    cases labelInfo with
    | none => exact hdone
    | some labelInfo => exact triple_active (fun _ => hdone) fun li hli => triple_label h hb hli _ rfl
  | endLabelRegion session =>
    refine hreply ?_
    unfold sessionEndDebugUtilsLabelRegion
    split_ifs
    · exact hdone
    · exact triple_active (fun _ => hdone) fun li hli => triple_label h hb hli _ rfl
  | insertLabel session labelInfo =>
    refine hreply ?_
    unfold sessionInsertDebugUtilsLabel
    split_ifs
    · exact hdone
    refine triple_active (fun _ => hdone) fun li hli => ?_
    cases labelInfo with
    | none => exact hdone
    | some labelInfo => exact triple_label h hb hli _ rfl
  | setObjectName inst nameInfo =>
    exact hreply (triple_callActive h hb fun li hli => (hv li hli).symm)
  | submitMessage inst severity types =>
    exact hreply (triple_callActive h hb fun li hli => (hv li hli).symm)
  | destroySession session =>
    refine hreply (triple_callGenerated h hb fun li hli => ?_)
    exact ((h.conforming.active li hli).table .destroySession).2 rfl
  | other number => exact hreply (triple_callGenerated h hb hv)
  | getInstanceProcAddr inst name function =>
    exact hreply (triple_loaderGetInstanceProcAddr h inst name function)
  | _ => cases hcall

end Active

/-! ## Calls on messengers and instances -/

theorem Behaves.forwardsInstances (hb : Behaves p live w env) : ForwardsInstances env where
  create := hb.wellBehaved.create
  call t f call hcall := by
    rw [hb.wellBehaved.call]
    exact CallTree.calls_forward hcall
  callDown t f call := by
    obtain ⟨inst, -, hremarks⟩ := hb.remarks
    refine CallTree.Calls.mono (fun call hcall => ?_) (hremarks t f call)
    cases call with
    | submitDebugUtilsMessageEXT => rfl
    | setDebugUtilsObjectNameEXT => rfl
    | _ => exact hcall.elim

/-- What a call leaves that neither loads nor unloads. -/
theorem Conforming.of_keeps (h : Conforming p w) (hk : KeepsLoaded w w') (ht : KeepsTables w w') :
    Conforming p w' where
  runtime rt' hrt' := by
    have hloaded := hk.runtime
    have htables : w'.dispatchTables = w.dispatchTables := ht
    unfold World.dispatchTables at htables
    rw [Option.mem_def.mp hrt'] at hloaded htables
    obtain ⟨rt, hrt, heq⟩ := Option.map_eq_some_iff.mp hloaded.symm
    rw [hrt] at htables
    have hmap : rt'.dispatchTableMap = rt.dispatchTableMap := Option.some.inj htables
    have hgipa : rt.getInstanceProcAddr = rt'.getInstanceProcAddr := congrArg (·.2.1) heq
    have hconforms := h.runtime rt hrt
    exact ⟨hgipa ▸ hconforms.gipa, hmap ▸ hconforms.tables⟩
  active := hk.activeInstance ▸ h.active

theorem returns_callFunction (hforward : ∀ t f call, env.callLayer t f call = .forward call)
    {function : Pfn} {call : TermCall} (hf : EndsInTerminator call.command function)
    (hterm : ∀ w', Later w w' → Returns (terminate env call) w') :
    Returns (callFunction env function call) w := by
  rcases hf with rfl | ⟨f, rfl⟩
  · obtain ⟨reply, w', hrun⟩ := hterm w (refl_of Later w)
    refine ⟨reply, w', ?_⟩
    unfold callFunction
    dsimp only
    rw [if_pos rfl, hrun]
  · refine Returns.of_eq (hterm w.tick ⟨_, rfl⟩) ?_
    refine (bind_of_ok ask_run).trans ?_
    rw [hforward, CallTree.run_forward]

theorem destroyDefaultMessenger_keepsTables (hf : ForwardsInstances env) (li : LoaderInstance) :
    Within KeepsTables isUndefined (destroyDefaultMessenger env li) := by
  unfold destroyDefaultMessenger
  refine Within.ite ?_ (Within.pure _)
  exact ((keepsTables_calls hf).destroyDebugUtilsMessenger _).bind fun _ => Within.pure _

section Handles
variable (h : Sound p defaults live w)
include h

section Messengers
variable (hforward : ∀ t f call, env.callLayer t f call = .forward call)
include hforward

/-- A call on a handle returns, if its terminator does. -/
theorem trampoline_returns {handle : ℕ} {call : TermCall} (hcommand : hasTerminator call.command = true)
    (hterm : handle ≠ xrNullHandle → ∀ li, w.activeInstance = some li → ∀ w', Later w w' →
      Returns (terminate env call) w') : Returns (trampoline env handle call) w := by
  unfold trampoline
  by_cases hnull : handle = xrNullHandle
  · rw [if_pos hnull]
    exact ⟨_, _, rfl⟩
  rw [if_neg hnull]
  have hrun : ActiveLoaderInstance.active w = .ok w.activeInstance w := rfl
  refine Returns.of_eq ?_ (bind_of_ok hrun)
  cases hactive : w.activeInstance with
  | none => exact ⟨_, _, rfl⟩
  | some li =>
    exact returns_callFunction hforward
      ((h.conforming.active li hactive).endsInTerminator hcommand) (hterm hnull li hactive)

theorem createDebugUtilsMessenger_returns (hands : HandsMessengers env) {inst : XrInstance}
    (hinst : IsActive w inst) (createInfo : XrDebugUtilsMessengerCreateInfoEXT) (messenger : Bool) :
    Returns (createDebugUtilsMessenger env inst createInfo messenger) w := by
  change Returns (trampoline env inst (.createDebugUtilsMessengerEXT inst createInfo messenger)) w
  refine trampoline_returns h hforward rfl fun hnull li hactive w' hlater => ?_
  obtain rfl : li.runtimeInstance = inst := (hinst.resolve_left hnull) li hactive
  exact termCreateDebugUtilsMessenger_returns hands ((h.hasTable hactive).of_later hlater) _ _

/-- A messenger that is alive belongs to the active instance, which has a table. -/
theorem destroyDebugUtilsMessenger_returns {m : XrDebugUtilsMessengerEXT}
    (hm : m = xrNullHandle ∨ (live m).isSome) : Returns (destroyDebugUtilsMessenger env m) w := by
  change Returns (trampoline env m (.destroyDebugUtilsMessengerEXT m)) w
  refine trampoline_returns h hforward rfl fun hnull li hactive w' hlater => ?_
  obtain ⟨inst, hlive⟩ := Option.isSome_iff_exists.mp (hm.resolve_left hnull)
  obtain ⟨owner, howner, rfl⟩ := h.kept.owner m inst hlive
  cases hactive.symm.trans howner
  obtain ⟨c, rfl⟩ := hlater
  exact termDestroyDebugUtilsMessenger_returns hnull ((h.kept.keys m).trans hlive)
    (h.hasTable hactive)

theorem destroyDefaultMessenger_returns {li : LoaderInstance} (hactive : w.activeInstance = some li) :
    Returns (destroyDefaultMessenger env li) w := by
  unfold destroyDefaultMessenger
  by_cases hm : li.messenger = xrNullHandle
  · rw [if_neg (by simp [hm])]
    exact ⟨_, _, rfl⟩
  · rw [if_pos hm]
    have hlive := h.default li.messenger li.runtimeInstance
      ((defaultMessengers_of_active hactive _).trans (if_pos ⟨rfl, hm⟩))
    obtain ⟨reply, w', hrun⟩ := destroyDebugUtilsMessenger_returns h hforward (.inr (Option.isSome_iff_exists.mpr ⟨_, hlive⟩))
    exact ⟨⟨⟩, w', bind_of_ok hrun⟩

end Messengers

section New
variable (hforwards : ForwardsInstances env) (hwell : WellBehaved env live) (hands : HandsMessengers env)
include hforwards hwell hands

/-- The messenger that comes with a new instance. -/
theorem createDefaultMessenger_returns {li : LoaderInstance} (hactive : w.activeInstance = some li)
    (createInfo : XrDebugUtilsMessengerCreateInfoEXT) :
    ∃ reply w', createDefaultMessenger env createInfo li.runtimeInstance w = .ok reply w' ∧
      Conforming p w' := by
  have hinst : IsActive w li.runtimeInstance := by
    refine .inr fun other hother => ?_
    cases hactive.symm.trans hother
    rfl
  obtain ⟨reply, w₁, hcall⟩ :=
    createDebugUtilsMessenger_returns h hwell.call hands hinst createInfo true
  have hkeeps := ((keepsLoaded_calls env).createDebugUtilsMessenger _ _ _).of_ok hcall
  have hconforming : Conforming p w₁ := h.conforming.of_keeps hkeeps
    (((keepsTables_calls hforwards).createDebugUtilsMessenger _ _ _).of_ok hcall)
  unfold createDefaultMessenger
  rw [bind_of_ok hcall]
  rcases kept_createDebugUtilsMessenger hwell h.kept hinst hcall with ⟨hfailed, -⟩ | ⟨hs, m, hm, -⟩
  · rw [if_pos hfailed]
    exact ⟨_, w₁, rfl, hconforming⟩
  · rw [if_neg (not_xrFailed.mpr hs), hm]
    refine ⟨_, _, rfl, hconforming.runtime, fun set hset => ?_⟩
    obtain ⟨old, hold, rfl⟩ := Option.map_eq_some_iff.mp hset
    have hconforms := hconforming.active old hold
    exact ⟨hconforms.handle, hconforms.gipa, hconforms.table⟩

omit h in
/-- Once it is known whether there is an active instance, the call returns. -/
theorem createWithoutActive_returns (hk : Kept defaults live w) (hnone : w.activeInstance = none)
    {info : XrInstanceCreateInfo} {created : XrResult × List ApiLayerInterface} {w₁ : World}
    (hcreate : createActiveInstance env info w = .ok created w₁) (hconforming : Conforming p w₁) :
    ∃ reply w', createWithoutActive env info w = .ok reply w' ∧ Conforming p w' := by
  obtain rfl := hk.live_of_none hnone
  obtain ⟨result, layers⟩ := created
  have hcreation := createActiveInstance_cases hnone hcreate
  unfold createWithoutActive
  rw [bind_of_ok hcreate]
  dsimp only
  by_cases hfailed : xrFailed result
  · obtain ⟨l, hrun, -⟩ := cleanUp_run layers w₁
    rw [if_pos hfailed, hrun]
    exact ⟨_, _, rfl, nofun, nofun⟩
  rw [if_neg hfailed]
  have hresult : result = xrSuccess ∧ layers = [] ∧ ∃ li, w₁.activeInstance = some li := by
    cases hcreation with
    | notLoaded failed => exact absurd failed hfailed
    | chainFailed _ _ _ failed => exact absurd failed hfailed
    | active => exact ⟨rfl, rfl, _, rfl⟩
  obtain ⟨rfl, rfl, li, hactive⟩ := hresult
  have hrun : ActiveLoaderInstance.active w₁ = .ok (some li) w₁ := by
    rw [← hactive]
    rfl
  rw [bind_of_ok hrun]
  dsimp only
  cases hmessenger : messengerCreateInfo info.next with
  | none => exact ⟨_, w₁, rfl, hconforming⟩
  | some createInfo =>
    have hsound : Sound p defaults (fun _ => none) w₁ := by
      refine ⟨kept_of_creation hwell.create hk hcreation, hconforming, ?_⟩
      rw [defaultMessengers_of_null hactive (hcreation.messenger hactive)]
      exact fun _ _ hm => hm
    exact createDefaultMessenger_returns hsound hforwards hwell hands hactive createInfo

end New

variable (hb : Behaves p live w env)
include hb

theorem destroyInstance_returns {inst : XrInstance} (hinst : IsActive w inst) :
    Returns (destroyInstance env inst) w := by
  unfold destroyInstance
  by_cases hnull : inst = xrNullHandle
  · rw [if_pos hnull]
    exact ⟨_, _, rfl⟩
  rw [if_neg hnull]
  have hrun : ActiveLoaderInstance.active w = .ok w.activeInstance w := rfl
  refine Returns.of_eq ?_ (bind_of_ok hrun)
  cases hactive : w.activeInstance with
  | none => exact ⟨_, _, rfl⟩
  | some li =>
    obtain rfl : li.runtimeInstance = inst := (hinst.resolve_left hnull) li hactive
    obtain ⟨_, w₁, hdefault⟩ := destroyDefaultMessenger_returns h hb.wellBehaved.call hactive
    refine Returns.of_eq ?_ (bind_of_ok hdefault)
    have hconforming : Conforming p w₁ := h.conforming.of_keeps
      ((destroyDefaultMessenger_keepsLoaded env li).of_ok hdefault)
      ((destroyDefaultMessenger_keepsTables hb.forwardsInstances li).of_ok hdefault)
    have hsome : w₁.runtime.isSome := by
      obtain ⟨rt, hrt, -⟩ := h.hasTable hactive
      have hruntime := ((destroyDefaultMessenger_keepsLoaded env li).of_ok hdefault).runtime
      rw [Option.mem_def.mp hrt] at hruntime
      simpa using congrArg Option.isSome hruntime
    have hterm (w' : World) (hlater : Later w₁ w') :
        Returns (terminate env (.destroyInstance li.runtimeInstance)) w' := by
      obtain ⟨c, rfl⟩ := hlater
      have hready : Ready p { w₁ with clock := c } := RuntimeGood.ready hconforming.runtime hsome
      exact termDestroyInstance_returns hb.conforms hready (h.conforming.active li hactive).handle
    obtain ⟨_, w₂, hcall⟩ := returns_callFunction hb.wellBehaved.call
      ((h.conforming.active li hactive).endsInTerminator rfl) hterm
    refine Returns.of_eq ?_ (bind_of_ok hcall)
    obtain ⟨l, hremove, -⟩ := ActiveLoaderInstance.remove_run w₂
    refine Returns.of_eq ?_ (bind_of_ok hremove)
    obtain ⟨l', hunload, -⟩ := RuntimeInterface.unloadRuntime_run
      { w₂ with
        libraries := l
        activeInstance := none }
    exact Returns.of_eq ⟨_, _, rfl⟩ (bind_of_ok hunload)

/-- A call of xrCreateInstance returns, and what it leaves conforms. -/
theorem createInstance_returns {info : Option XrInstanceCreateInfo} (hnames : ∀ i ∈ info, HasNames i)
    (inst : Bool) : ∃ reply w', createInstance env info inst w = .ok reply w' ∧ Conforming p w' := by
  by_cases hacc : ∃ i ∈ info, Acceptable i inst w
  · obtain ⟨i, rfl, hacc⟩ := hacc
    have hnone := hacc.2.2
    obtain rfl := h.kept.live_of_none hnone
    rw [createInstance_of_acceptable hacc]
    have hstart := triple_createActiveInstance hb.conforms hb.wellBehaved.create (hnames i rfl) w
      ⟨h.conforming.runtime, hnone⟩
    cases hcreate : createActiveInstance env i w with
    | error fault w₁ =>
      rw [hcreate] at hstart
      obtain ⟨rfl, hconforming⟩ := hstart
      exact ⟨_, w₁, abiTry_eq_ok.mpr (.inr ⟨bind_of_error hcreate, rfl⟩), hconforming⟩
    | ok created w₁ =>
      rw [hcreate] at hstart
      obtain ⟨reply, w', hrun, hconforming⟩ :=
        createWithoutActive_returns hb.forwardsInstances hb.wellBehaved hb.hands h.kept hnone hcreate hstart
      exact ⟨reply, w', abiTry_eq_ok.mpr (.inl hrun), hconforming⟩
  · have hrefused : ∃ result, xrFailed result ∧ createInstance env info inst w = .ok ⟨result, none⟩ w ∧ _ :=
      createInstance_of_not_acceptable fun i hi hi' => hacc ⟨i, hi, hi'⟩
    obtain ⟨result, -, hrun, -⟩ := hrefused
    exact ⟨_, w, hrun, h.conforming⟩

end Handles

/-! ## Enumerations -/

section Enumerating
variable (h : Conforms p env)
include h

theorem triple_findManifestFiles {I : World → Prop} (hI : ∀ s, I s → I s.tick)
    (type : ManifestFileType) :
    Triple I (ApiLayerInterface.findManifestFiles env type) (fun _ => I) (ThrownIn I) := by
  intro s hs
  have hrun := ApiLayerInterface.findManifestFiles_run env type s
  cases hanswer : env.findLayerManifests s.clock type with
  | ok found =>
    rw [hanswer] at hrun
    rw [hrun]
    exact hI s hs
  | error fault =>
    rw [hanswer] at hrun
    rw [hrun]
    exact ⟨(findManifestFiles_error h hrun).1, hI s hs⟩

theorem triple_enumerateApiLayerProperties {I : World → Prop} (hI : ∀ s, I s → I s.tick)
    {E : Fault → World → Prop} (capacity : ℕ) (count : Bool) (types : Option (List ℕ)) :
    Triple I (enumerateApiLayerProperties env capacity count types) (fun _ => I) E := by
  have hfind := triple_findManifestFiles h hI
  have hdone {α : Type} {a : α} : Triple I (pure a) (fun _ => I) (ThrownIn I) :=
    Triple.pure fun _ hs => hs
  have hall : Triple I (ApiLayerInterface.findAllManifestFiles env) (fun _ => I) (ThrownIn I) :=
    (hfind _).bind fun implicit => Triple.ite ((hfind _).bind fun explicit => hdone) hdone
  refine triple_abiTry ?_ fun _ hs => hs
  refine Triple.ite hdone (Triple.ite hdone (hall.bind fun found => ?_))
  exact Triple.ite hdone (Triple.ite hdone (Triple.ite hdone (Triple.ite hdone
    (Triple.ite hdone hdone))))

/-- A runtime that has been loaded is there. -/
theorem triple_loadedRuntime : Triple (RuntimeGood p) (RuntimeInterface.loadRuntime env)
    (fun result s => RuntimeGood p s ∧ (xrSucceeded result → Ready p s)) (ThrownIn (RuntimeGood p)) := by
  intro s hs
  have hgood := triple_loadRuntime h s hs
  have hspec := RuntimeInterface.loadRuntime_spec env s s rfl
  cases hrun : RuntimeInterface.loadRuntime env s with
  | error fault t =>
    rw [hrun] at hgood
    exact hgood
  | ok result t =>
    rw [hrun] at hgood hspec
    exact ⟨hgood, fun hsucceeded => RuntimeGood.ready hgood (hspec.2.mp hsucceeded)⟩

theorem triple_extensionProperties (layerName : Option StdString) :
    Triple (RuntimeGood p) (extensionProperties env layerName) (fun _ => RuntimeGood p)
      (ThrownIn (RuntimeGood p)) := by
  have hfind := triple_findManifestFiles h (I := RuntimeGood p) fun _ hs => hs
  have hdone {α : Type} {a : α} : Triple (RuntimeGood p) (pure a) (fun _ => RuntimeGood p)
      (ThrownIn (RuntimeGood p)) := Triple.pure fun _ hs => hs
  have hlayers : Triple (RuntimeGood p)
      (ApiLayerInterface.getInstanceExtensionProperties env layerName) (fun _ => RuntimeGood p)
      (ThrownIn (RuntimeGood p)) := by
    unfold ApiLayerInterface.getInstanceExtensionProperties
    cases layerName with
    | some name =>
      refine (hfind _).bind fun implicit => Triple.ite ((hfind _).bind fun explicit => ?_) hdone
      refine Triple.ite hdone ?_
      cases (implicit.2 ++ explicit.2).find? (·.layerName = name) with
      | none => exact hdone
      | some m => exact hdone
    | none =>
      refine (hfind _).bind fun implicit => Triple.get.bind fun s => Triple.ite ?_ hdone
      exact (hfind _).bind fun explicit => hdone
  refine Triple.bind (hlayers.bind fun collected => Triple.ite hdone ?_) fun collected =>
    Triple.ite hdone hdone
  refine (triple_loadedRuntime h).bind fun result => ?_
  split_ifs with hfailed
  · exact Triple.pure fun _ hs => hs.1
  · rintro s ⟨-, hready⟩
    have hquery : Triple (Ready p)
        (RuntimeInterface.getInstanceExtensionProperties env collected.2 >>= fun props =>
          pure (result, props)) (fun _ => RuntimeGood p) (ThrownIn (RuntimeGood p)) :=
      (triple_getInstanceExtensionProperties h _).bind fun _ => Triple.pure fun _ hs => hs.good
    exact hquery s (hready (not_xrFailed.mp hfailed))

theorem triple_enumerateInstanceExtensionProperties {E : Fault → World → Prop}
    (layerName : Option StdString) (capacity : ℕ) (count : Bool) (types : Option (List ℕ)) :
    Triple (RuntimeGood p) (enumerateInstanceExtensionProperties env layerName capacity count types)
      (fun _ => RuntimeGood p) E := by
  have hdone {α : Type} {a : α} : Triple (RuntimeGood p) (pure a) (fun _ => RuntimeGood p)
      (ThrownIn (RuntimeGood p)) := Triple.pure fun _ hs => hs
  refine triple_abiTry ?_ fun _ hs => hs
  refine Triple.ite hdone ((triple_extensionProperties h _).bind fun found => ?_)
  exact Triple.ite hdone hdone

end Enumerating

end OpenXRSdk.LoaderCore
