import OpenXRSdk.LoaderCore

/-!
# Loading by the answers

Whether a runtime and the layers are loaded, told from the manifests that are found and from what
their libraries answer. Each answer is known by the number of its question.
-/
namespace OpenXRSdk

open StateProgram

/-- The function is there, and it does not write behind the end of the array. -/
def ExtensionQuery.Readable (query : ExtensionQuery) : Prop :=
  (∃ function, query.function.function = some function ∧ function ≠ .null) ∧
    (query.count.2.getD 0 ≠ 0 →
      (query.fill (query.count.2.getD 0)).2.2.length ≤ query.count.2.getD 0)

def ExtensionQuery.reported (query : ExtensionQuery) : List XrExtensionProperties :=
  let count := query.count.2.getD 0
  let written := (query.fill count).2.2
  if count = 0 then [] else written ++ List.replicate (count - written.length) ⟨[], 0⟩

/-- The call returns a failing result, or ends in an exception. -/
def Fails {α : Type} (result : α → XrResult) : EStateM.Result Fault World α → Prop
  | .ok a _ => xrFailed (result a)
  | .error fault _ => fault = .exception

namespace RuntimeInterface

/-! ## The runtime -/

section Runtime
variable (env : Environment)

/-- The library of the manifest opens at question `t` and agrees to be the runtime. -/
def Agrees (initData : LoaderInitData) (t : ℕ) (manifest : RuntimeManifestFile) (gipa : ℕ) : Prop :=
  (env.openRuntime t manifest.libraryPath).map
    (negotiateRuntime env.requiresPlatformInit initData manifest) = some (.ok gipa)

/-- Of the manifests, tried in turn from question `t` on, number `k` is the first to agree. -/
def FirstAgrees (initData : LoaderInitData) (t : ℕ) (manifests : List RuntimeManifestFile)
    (k gipa : ℕ) : Prop :=
  (∃ m ∈ manifests[k]?, Agrees env initData (t + k) m gipa) ∧
    ∀ j < k, ∀ m ∈ manifests[j]?, ∀ g, ¬ Agrees env initData (t + j) m g

/-- There is no runtime yet, and nothing is in the way of looking for one. -/
def Searches (w : World) : Prop :=
  w.runtime = none ∧ ¬ (env.requiresPlatformInit ∧ ¬ w.initData.initialized)

def Found (w : World) (manifests : List RuntimeManifestFile) : Prop :=
  Searches env w ∧
    ∃ result, env.findRuntimeManifests w.clock = .ok (result, manifests) ∧ xrSucceeded result

/-- The runtime that is there already, or the first that agrees, with the number of the next
question. Which number its library has makes no difference. -/
inductive Provided (w : World) : RuntimeInterface → ℕ → Prop
  | before {rt : RuntimeInterface} (loaded : w.runtime = some rt) : Provided w rt w.clock
  | found {manifests : List RuntimeManifestFile} {k gipa : ℕ} (library : ℕ)
      (manifestsFound : Found env w manifests)
      (first : FirstAgrees env w.initData (w.clock + 1) manifests k gipa)
      (readable : (env.queryExtensions (w.clock + 1 + k + 1) gipa).Readable) :
      Provided w ⟨library, gipa, ∅, ∅, (env.queryExtensions (w.clock + 1 + k + 1) gipa).reported.map
        (·.extensionName)⟩ (w.clock + 1 + k + 2)

/-- The search is undefined, or the first runtime to agree has no readable list of extensions. -/
def Undefined (w : World) : Prop :=
  Searches env w ∧ env.findRuntimeManifests w.clock = .error .undefinedBehaviour ∨
    ∃ manifests k gipa, Found env w manifests ∧
      FirstAgrees env w.initData (w.clock + 1) manifests k gipa ∧
      ¬ (env.queryExtensions (w.clock + 1 + k + 1) gipa).Readable

end Runtime

variable {env : Environment} {initData : LoaderInitData} {t k gipa : ℕ} {w : World}
  {manifests : List RuntimeManifestFile}

theorem firstAgrees_unique {k' gipa' : ℕ} (h : FirstAgrees env initData t manifests k gipa)
    (h' : FirstAgrees env initData t manifests k' gipa') : k = k' ∧ gipa = gipa' := by
  obtain ⟨⟨m, hm, hagrees⟩, hbefore⟩ := h
  obtain ⟨⟨m', hm', hagrees'⟩, hbefore'⟩ := h'
  rcases lt_trichotomy k k' with hlt | rfl | hlt
  · exact absurd hagrees (hbefore' k hlt m hm gipa)
  · cases Option.mem_unique hm hm'
    cases hagrees.symm.trans hagrees'
    exact ⟨rfl, rfl⟩
  · exact absurd hagrees' (hbefore k' hlt m' hm' gipa')

theorem firstAgrees_cons {m : RuntimeManifestFile} (hrefuses : ∀ g, ¬ Agrees env initData t m g) :
    FirstAgrees env initData t (m :: manifests) k gipa ↔
      ∃ j, k = j + 1 ∧ FirstAgrees env initData (t + 1) manifests j gipa := by
  have hshift (j : ℕ) : t + (j + 1) = t + 1 + j := by omega
  constructor
  · rintro ⟨⟨m', hm', hagrees⟩, hbefore⟩
    cases k with
    | zero =>
      cases hm'
      exact absurd hagrees (hrefuses gipa)
    | succ j =>
      refine ⟨j, rfl, ⟨m', hm', hshift j ▸ hagrees⟩, fun i hi n hn g hg => ?_⟩
      exact hbefore (i + 1) (by omega) n hn g (by rwa [hshift])
  · rintro ⟨j, rfl, ⟨m', hm', hagrees⟩, hbefore⟩
    refine ⟨⟨m', hm', by rwa [hshift]⟩, fun i hi n hn g hg => ?_⟩
    cases i with
    | zero =>
      cases hn
      exact hrefuses g hg
    | succ i => exact hbefore i (by omega) n hn g (by rwa [hshift] at hg)

theorem filledExtensions_cases (query : ExtensionQuery) (w : World) :
    (query.Readable → filledExtensions query w = .ok query.reported w) ∧
      (¬ query.Readable → filledExtensions query w = .error .undefinedBehaviour w) := by
  unfold filledExtensions ExtensionQuery.Readable ExtensionQuery.reported
  cases hf : query.function.function with
  | none => exact ⟨fun ⟨⟨f, hf', _⟩, _⟩ => (nomatch hf'), fun _ => rfl⟩
  | some f =>
    by_cases hnull : f = .null
    · subst hnull
      exact ⟨by rintro ⟨⟨f, hf', hne⟩, -⟩; cases hf'; exact absurd rfl hne, fun _ => rfl⟩
    · have hthere : ∃ function, some f = some function ∧ function ≠ .null := ⟨f, rfl, hnull⟩
      cases f with
      | null => exact absurd rfl hnull
      | _ =>
        dsimp only
        by_cases hcount : query.count.2.getD 0 = 0
        · simp only [if_pos hcount]
          exact ⟨fun _ => rfl, fun h => absurd ⟨hthere, fun hne => absurd hcount hne⟩ h⟩
        · simp only [if_neg hcount]
          by_cases hfits : (query.fill (query.count.2.getD 0)).2.2.length ≤ query.count.2.getD 0
          · simp only [if_neg (not_lt.mpr hfits)]
            exact ⟨fun _ => rfl, fun h => absurd ⟨hthere, fun _ => hfits⟩ h⟩
          · simp only [if_pos (not_le.mp hfits)]
            exact ⟨fun h => absurd (h.2 hcount) hfits, fun _ => rfl⟩

theorem noteSupportedExtensions_cases {rt : RuntimeInterface} (hrt : w.runtime = some rt) :
    ((env.queryExtensions w.clock rt.getInstanceProcAddr).Readable → noteSupportedExtensions env w =
      .ok ⟨⟩ { w.tick with runtime := some { rt with supportedExtensions :=
        (env.queryExtensions w.clock rt.getInstanceProcAddr).reported.map (·.extensionName) } }) ∧
      (¬ (env.queryExtensions w.clock rt.getInstanceProcAddr).Readable →
        noteSupportedExtensions env w = .error .undefinedBehaviour w.tick) := by
  obtain ⟨hreadable, hnot⟩ :=
    filledExtensions_cases (env.queryExtensions w.clock rt.getInstanceProcAddr) w.tick
  have hget : getInstanceExtensionProperties env [] w =
      (filledExtensions (env.queryExtensions w.clock rt.getInstanceProcAddr) >>= fun exts =>
        pure (mergeExtensions [] exts)) w.tick := by
    unfold getInstanceExtensionProperties
    rw [bind_of_ok (getRuntime_of_some hrt), bind_of_ok ask_run]
  constructor <;> intro h <;> unfold noteSupportedExtensions
  · rw [bind_of_ok (hget.trans (bind_of_ok (hreadable h))), mergeExtensions_nil]
    unfold modifyRuntime
    change EStateM.Result.ok _ _ = _
    dsimp only [World.tick]
    rw [hrt]
    rfl
  · rw [bind_of_error (hget.trans (bind_of_error (hnot h)))]

/-- How the loop over the manifests ends: with the first that agrees, or with a failure. -/
inductive Tried (env : Environment) (w : World) (manifests : List RuntimeManifestFile) :
    EStateM.Result Fault World XrResult → Prop
  | agreed {k gipa : ℕ} (first : FirstAgrees env w.initData w.clock manifests k gipa) (library : ℕ)
      (l : HandleLedger) : Tried env w manifests
        ((noteSupportedExtensions env >>= fun _ => pure xrSuccess) { w with
          clock := w.clock + k + 1
          libraries := l
          runtime := some ⟨library, gipa, ∅, ∅, []⟩ })
  | refused {result : XrResult} (never : ∀ k gipa, ¬ FirstAgrees env w.initData w.clock manifests k gipa)
      (failed : xrFailed result) (c : ℕ) (l : HandleLedger) : Tried env w manifests
        (.ok result { w with
          clock := c
          libraries := l })

/-- A manifest that does not agree costs one question. -/
theorem Tried.cons {m : RuntimeManifestFile} {l : HandleLedger} {r : EStateM.Result Fault World XrResult}
    (hrefuses : ∀ g, ¬ Agrees env w.initData w.clock m g)
    (h : Tried env { w with
      clock := w.clock + 1
      libraries := l } manifests r) : Tried env w (m :: manifests) r := by
  cases h with
  | @agreed k gipa first library l =>
    have hclock : w.clock + 1 + k + 1 = w.clock + (k + 1) + 1 := by omega
    have hagreed := Tried.agreed ((firstAgrees_cons hrefuses).mpr ⟨k, rfl, first⟩) library l
    rwa [← hclock] at hagreed
  | refused never failed c l =>
    refine .refused (fun k gipa hfirst => ?_) failed c l
    obtain ⟨j, -, hrest⟩ := (firstAgrees_cons hrefuses).mp hfirst
    exact never j gipa hrest

theorem tryManifests_tried (env : Environment) (manifests : List RuntimeManifestFile) (lastError : XrResult)
    (hlast : xrFailed lastError) (w : World) :
    Tried env w manifests (tryManifests env lastError manifests w) := by
  induction manifests generalizing lastError w with
  | nil =>
    refine .refused ?_ hlast w.clock w.libraries
    rintro k gipa ⟨⟨m, hm, -⟩, -⟩
    cases hm
  | cons m ms ih =>
    have hone := tryLoadingSingleRuntime_eq env m w
    have hnext {result : XrResult} {w' : World}
        (hrun : tryLoadingSingleRuntime env m w = .ok result w') (hfail : xrFailed result) :
        tryManifests env lastError (m :: ms) w = tryManifests env result ms w' :=
      (bind_of_ok hrun).trans (congrFun (if_neg (not_xrSucceeded.mpr hfail)) w')
    cases hanswer : (env.openRuntime w.clock m.libraryPath).map
        (negotiateRuntime env.requiresPlatformInit w.initData m) with
    | none =>
      rw [hanswer] at hone
      rw [hnext hone (by decide)]
      refine Tried.cons (fun g hg => ?_) (ih _ (by decide) _)
      cases hanswer.symm.trans hg
    | some answer =>
      rw [hanswer] at hone
      cases answer with
      | error res =>
        obtain ⟨library, -, hneg⟩ := Option.map_eq_some_iff.mp hanswer
        have hfail := negotiateRuntime_error hneg
        rw [hnext hone hfail]
        refine Tried.cons (fun g hg => ?_) (ih _ hfail _)
        cases hanswer.symm.trans hg
      | ok gipa =>
        have hfirst : FirstAgrees env w.initData w.clock (m :: ms) 0 gipa :=
          ⟨⟨m, rfl, hanswer⟩, fun j hj => absurd hj (Nat.not_lt_zero j)⟩
        have hrun : tryManifests env lastError (m :: ms) w =
            (noteSupportedExtensions env >>= fun _ => pure xrSuccess) { w with
              clock := w.clock + 0 + 1
              libraries := w.libraries.opening
              runtime := some ⟨w.libraries.fresh, gipa, ∅, ∅, []⟩ } := by
          cases hnote : noteSupportedExtensions env { w.tick with
              libraries := w.libraries.opening
              runtime := some ⟨w.libraries.fresh, gipa, ∅, ∅, []⟩ } with
          | ok u w' =>
            refine (bind_of_ok (hone.trans (bind_of_ok hnote))).trans ?_
            refine (congrFun (if_pos (le_refl _)) w').trans ?_
            exact (bind_of_ok (f := fun _ => pure xrSuccess) hnote).symm
          | error e w' =>
            refine (bind_of_error (hone.trans (bind_of_error hnote))).trans ?_
            exact (bind_of_error (f := fun _ => pure xrSuccess) hnote).symm
        rw [hrun]
        exact .agreed hfirst _ _

/-- What is left to do with the manifests that were found. -/
theorem loadRuntime_of_searches (h : Searches env w) : loadRuntime env w =
    match env.findRuntimeManifests w.clock with
    | .error fault => .error fault w.tick
    | .ok (result, manifests) =>
      (tryFoundManifests env result manifests >>= fun lastError =>
        if xrFailed lastError then pure xrErrorRuntimeUnavailable else pure lastError) w.tick := by
  unfold loadRuntime
  rw [bind_of_ok get_run, if_neg (by simp [h.1]), bind_of_ok get_run, if_neg h.2, bind_of_ok ask_run]
  cases env.findRuntimeManifests w.clock <;> rfl

theorem loadRuntime_of_found (h : Found env w manifests) : ∃ r, Tried env w.tick manifests r ∧
    loadRuntime env w = match (motive := _ → EStateM.Result Fault World XrResult) r with
      | .ok result s => .ok (if xrFailed result then xrErrorRuntimeUnavailable else result) s
      | .error fault s => .error fault s := by
  obtain ⟨hsearches, result, hfound, hs⟩ := h
  refine ⟨_, tryManifests_tried env manifests xrErrorRuntimeUnavailable (by decide) w.tick, ?_⟩
  rw [loadRuntime_of_searches hsearches, hfound]
  unfold tryFoundManifests
  dsimp only
  rw [if_neg (not_xrFailed.mpr hs)]
  cases hr : tryManifests env xrErrorRuntimeUnavailable manifests w.tick with
  | ok lastError s =>
    rw [bind_of_ok hr]
    dsimp only
    split_ifs <;> rfl
  | error fault s => rw [bind_of_error hr]

theorem loadRuntime_of_provided {rt : RuntimeInterface} (h : Provided env w rt t) : ∃ library l,
    loadRuntime env w = .ok xrSuccess { w with
      clock := t
      libraries := l
      runtime := some { rt with runtimeLibrary := library } } := by
  cases h with
  | before loaded =>
    refine ⟨rt.runtimeLibrary, w.libraries, ?_⟩
    unfold loadRuntime
    rw [bind_of_ok get_run, if_pos (by simp [loaded]), ← loaded]
    rfl
  | @found manifests k gipa library manifestsFound first readable =>
    obtain ⟨r, htried, hrun⟩ := loadRuntime_of_found manifestsFound
    cases htried with
    | refused never => exact absurd first (never k gipa)
    | @agreed k' gipa' first' library' l =>
      obtain ⟨rfl, rfl⟩ := firstAgrees_unique first first'
      refine ⟨library', l, hrun.trans ?_⟩
      rw [bind_of_ok ((noteSupportedExtensions_cases rfl).1 readable)]
      rfl

theorem loadRuntime_of_undefined (h : Undefined env w) :
    ∃ w', loadRuntime env w = .error .undefinedBehaviour w' := by
  rcases h with ⟨hsearches, hfault⟩ | ⟨manifests, k, gipa, hfound', hfirst, hnot⟩
  · refine ⟨w.tick, ?_⟩
    rw [loadRuntime_of_searches hsearches, hfault]
  · obtain ⟨r, htried, hrun⟩ := loadRuntime_of_found hfound'
    cases htried with
    | refused never => exact absurd hfirst (never k gipa)
    | @agreed k' gipa' first' library l =>
      obtain ⟨rfl, rfl⟩ := firstAgrees_unique hfirst first'
      rw [bind_of_error ((noteSupportedExtensions_cases rfl).2 hnot)] at hrun
      exact ⟨_, hrun⟩

/-- A runtime that is not provided is not loaded. -/
theorem loadRuntime_fails (hnot : ∀ rt t, ¬ Provided env w rt t) (hdefined : ¬ Undefined env w) :
    Fails id (loadRuntime env w) := by
  have hnone : w.runtime = none := by
    by_contra hsome
    obtain ⟨rt, hrt⟩ := Option.ne_none_iff_exists'.mp hsome
    exact hnot rt w.clock (.before hrt)
  by_cases hinit : env.requiresPlatformInit ∧ ¬ w.initData.initialized
  · unfold loadRuntime
    rw [bind_of_ok get_run, if_neg (by simp [hnone]), bind_of_ok get_run, if_pos hinit]
    show xrFailed xrErrorInitializationFailed
    decide
  have hsearches : Searches env w := ⟨hnone, hinit⟩
  cases hfound : env.findRuntimeManifests w.clock with
  | error fault =>
    rw [loadRuntime_of_searches hsearches, hfound]
    cases fault with
    | exception => rfl
    | undefinedBehaviour => exact absurd (.inl ⟨hsearches, hfound⟩) hdefined
  | ok found =>
    obtain ⟨result, manifests⟩ := found
    by_cases hfail : xrFailed result
    · rw [loadRuntime_of_searches hsearches, hfound]
      unfold tryFoundManifests
      dsimp only
      rw [if_pos hfail]
      change Fails id ((if xrFailed result then pure xrErrorRuntimeUnavailable else pure result : Loader _) w.tick)
      rw [if_pos hfail]
      show xrFailed xrErrorRuntimeUnavailable
      decide
    · have hfound' : Found env w manifests := ⟨hsearches, result, hfound, not_xrFailed.mp hfail⟩
      obtain ⟨r, htried, hrun⟩ := loadRuntime_of_found hfound'
      rw [hrun]
      cases htried with
      | refused never failed c l =>
        dsimp only
        rw [if_pos failed]
        show xrFailed xrErrorRuntimeUnavailable
        decide
      | @agreed k gipa first library l =>
        by_cases hreadable : (env.queryExtensions (w.clock + 1 + k + 1) gipa).Readable
        · exact absurd (.found library hfound' first hreadable) (hnot _ _)
        · exact absurd (.inr ⟨manifests, k, gipa, hfound', first, hreadable⟩) hdefined

end RuntimeInterface

namespace ApiLayerInterface

/-! ## The layers -/

section Layers
variable (env : Environment) (t : ℕ)

/-- The result of the searches from question `t` on, the implicit and the explicit manifests, and
the number of the next question. -/
inductive Searched : XrResult → List ApiLayerManifestFile → List ApiLayerManifestFile → ℕ → Prop
  | implicitOnly {result : XrResult} {implicit : List ApiLayerManifestFile}
      (found : env.findLayerManifests t .implicitApiLayer = .ok (result, implicit))
      (failed : xrFailed result) : Searched result implicit [] (t + 1)
  | both {before result : XrResult} {implicit explicit : List ApiLayerManifestFile}
      (found : env.findLayerManifests t .implicitApiLayer = .ok (before, implicit))
      (succeeded : xrSucceeded before)
      (more : env.findLayerManifests (t + 1) .explicitApiLayer = .ok (result, explicit)) :
      Searched result implicit explicit (t + 2)

def Undefined : Prop :=
  env.findLayerManifests t .implicitApiLayer = .error .undefinedBehaviour ∨
    ∃ before implicit, env.findLayerManifests t .implicitApiLayer = .ok (before, implicit) ∧
      xrSucceeded before ∧
      env.findLayerManifests (t + 1) .explicitApiLayer = .error .undefinedBehaviour

/-- The layers that are loaded, with the number of the next question: every requested name is that
of a manifest, no enabled layer ends the loop, and a layer that was loaded has cleared the errors. -/
inductive Provided (w : World) (count : ℕ) (names : Option (List StdString)) :
    List (ApiLayerManifestFile × XrNegotiateApiLayerRequest) → ℕ → Prop
  | mk {result : XrResult} {implicit explicit : List ApiLayerManifestFile} {u : ℕ}
      {requested : List StdString} {outs : List Attempt} (searched : Searched env t result implicit explicit u)
      (requests : (if xrSucceeded result then requestedLayers env w count names else some []) =
        some requested)
      (named : AllFound implicit explicit requested)
      (answers : attempts env w.initData u (enableLayers implicit explicit requested).enabled = outs)
      (goesOn : ∀ x ∈ outs, ∀ o, x.2 = some o → ¬ o.Stops) (cleared : ClearedLast outs ∨ outs = []) :
      Provided w count names (fullySuccessful outs) (u + outs.length)

end Layers

variable {env : Environment} {t u : ℕ} {w : World} {result : XrResult}
  {implicit explicit : List ApiLayerManifestFile} {count : ℕ} {names : Option (List StdString)}

theorem length_attempts (env : Environment) (initData : LoaderInitData) (t : ℕ)
    (ms : List ApiLayerManifestFile) : (attempts env initData t ms).length = ms.length := by
  have hlength := congrArg List.length (map_attempts env initData t ms)
  rwa [List.length_map] at hlength

/-- A loop that comes to its end has asked one question for each layer. -/
theorem loadLayers_clock {ms : List ApiLayerManifestFile} {s s' : LoadState} {w w' : World}
    (h : loadLayers env s ms w = .ok (none, s') w') : w'.clock = w.clock + ms.length := by
  induction ms generalizing s w with
  | nil =>
    cases h
    rfl
  | cons m ms ih =>
    obtain ⟨next, w₁, hlayer, h⟩ := bind_eq_ok.mp h
    have hclock : w₁.clock = w.clock + 1 := by
      rw [loadLayer_eq] at hlayer
      revert hlayer
      split <;> rintro ⟨⟩ <;> rfl
    cases next with
    | error res => cases h
    | ok s₁ =>
      rw [ih h, hclock, List.length_cons]
      omega

theorem loadEnabledLayers_clock {enabling : Enabling} {found : XrResult × List ApiLayerInterface} {w' : World}
    (hs : ∀ x ∈ attempts env w.initData w.clock enabling.enabled, ∀ o, x.2 = some o → ¬ o.Stops)
    (h : loadEnabledLayers env enabling w = .ok found w') :
    w'.clock = w.clock + enabling.enabled.length := by
  obtain ⟨s, c, l, hrun, -, -⟩ := loadLayers_spec env enabling.enabled ⟨xrSuccess, false, []⟩
    ⟨xrSuccess, false, []⟩ w ⟨rfl, rfl, .nil⟩
  rw [(tally_early_none _ _ hs).1] at hrun
  have hclock := loadLayers_clock hrun
  unfold loadEnabledLayers at h
  rw [bind_of_ok hrun] at h
  dsimp only at h
  split_ifs at h
  all_goals try cases h; exact hclock
  all_goals
    obtain ⟨l', hdestroy, -⟩ := destroyInterfaces_run s.interfaces { w with
      clock := c
      libraries := l }
    rw [bind_of_ok hdestroy] at h
    cases h
    exact hclock

theorem succeeded_resultOf_iff {found : Bool} {outs : List Attempt}
    (hh : ∀ x ∈ outs, ∀ o, x.2 = some o → o.Honest) : xrSucceeded (resultOf found outs) ↔
      found = true ∧ (∀ x ∈ outs, ∀ o, x.2 = some o → ¬ o.Stops) ∧ (ClearedLast outs ∨ outs = []) := by
  by_cases hs : ∀ x ∈ outs, ∀ o, x.2 = some o → ¬ o.Stops
  · have hnone := (tally_early_none outs ⟨xrSuccess, false, []⟩ hs).1
    rw [resultOf_of_no_early hnone, tally_start_succeeded hh hs]
    exact and_congr_right fun _ => (and_iff_right hs).symm
  · obtain ⟨res, hsome, hfail⟩ := tally_early_some outs ⟨xrSuccess, false, []⟩ hh hs
    rw [resultOf_of_early hsome]
    exact iff_of_false (not_xrSucceeded.mpr hfail) fun h => hs h.2.1

/-- What is left to do with the manifests that were found. -/
theorem loadApiLayers_of_searched (h : Searched env w.clock result implicit explicit u) :
    loadApiLayers env count names w =
      match if xrSucceeded result then requestedLayers env w count names else some [] with
      | none => .ok (xrErrorValidationFailure, []) { w with clock := u }
      | some requested =>
        loadEnabledLayers env (enableLayers implicit explicit requested) { w with clock := u } := by
  unfold loadApiLayers
  cases h with
  | implicitOnly found failed =>
    have hfi := findManifestFiles_run env .implicitApiLayer w
    have hfe : findUnlessFailed env result .explicitApiLayer w.tick = .ok (result, []) w.tick :=
      congrFun (if_neg (not_xrSucceeded.mpr failed)) w.tick
    rw [found] at hfi
    rw [bind_of_ok hfi]
    dsimp only
    rw [bind_of_ok hfe]
    dsimp only
    rw [bind_of_ok get_run, if_neg (not_xrSucceeded.mpr failed), if_neg (not_xrSucceeded.mpr failed)]
    rfl
  | both found succeeded more =>
    have hfi := findManifestFiles_run env .implicitApiLayer w
    have hfe := findUnlessFailed_run env succeeded .explicitApiLayer w.tick
    rw [found] at hfi
    rw [show env.findLayerManifests w.tick.clock .explicitApiLayer = .ok (result, explicit) from more] at hfe
    rw [bind_of_ok hfi]
    dsimp only
    rw [bind_of_ok hfe]
    dsimp only
    have hrequested : requestedLayers env w.tick.tick count names = requestedLayers env w count names := rfl
    rw [bind_of_ok get_run, hrequested]
    cases (if xrSucceeded result then requestedLayers env w count names else some []) <;> rfl

/-- A search that fails to end ends the call. -/
theorem loadApiLayers_of_fault {fault : Fault}
    (h : env.findLayerManifests w.clock .implicitApiLayer = .error fault ∨
      ∃ before implicit, env.findLayerManifests w.clock .implicitApiLayer = .ok (before, implicit) ∧
        xrSucceeded before ∧ env.findLayerManifests (w.clock + 1) .explicitApiLayer = .error fault) :
    ∃ w', loadApiLayers env count names w = .error fault w' := by
  unfold loadApiLayers
  have hfi := findManifestFiles_run env .implicitApiLayer w
  rcases h with hfault | ⟨before, implicit, hfound, hs, hfault⟩
  · rw [hfault] at hfi
    exact ⟨w.tick, bind_of_error hfi⟩
  · have hfe := findUnlessFailed_run env hs .explicitApiLayer w.tick
    rw [hfound] at hfi
    rw [show env.findLayerManifests w.tick.clock .explicitApiLayer = .error fault from hfault] at hfe
    exact ⟨w.tick.tick, (bind_of_ok hfi).trans (bind_of_error hfe)⟩

theorem loadApiLayers_of_provided {loaded : List (ApiLayerManifestFile × XrNegotiateApiLayerRequest)}
    (h : Provided env w.clock w count names loaded u) : ∃ result interfaces l, xrSucceeded result ∧
      InterfacesOf interfaces loaded ∧ loadApiLayers env count names w = .ok (result, interfaces) { w with
        clock := u
        libraries := l } := by
  cases h with
  | @mk _ implicit explicit u requested outs searched requests named answers goesOn cleared =>
    have hh : ∀ x ∈ outs, ∀ o, x.2 = some o → o.Honest := fun x hx o ho =>
      honest_of_mem_attempts (answers ▸ hx) ho
    have hs : xrSucceeded (resultOf (enableLayers implicit explicit requested).foundAllLayers outs) :=
      (succeeded_resultOf_iff hh).mpr ⟨(enableLayers_found implicit explicit requested).mpr named, goesOn,
        cleared⟩
    obtain ⟨interfaces, c, l, hrun, -, hifaces⟩ :=
      loadEnabledLayers_spec env (enableLayers implicit explicit requested) { w with clock := u } answers
    have hnone := (tally_early_none outs ⟨xrSuccess, false, []⟩ goesOn).2
    rw [handedOut_of_succeeded hs, hnone, List.nil_append] at hifaces
    have hclock : c = u + outs.length := by
      rw [← answers, length_attempts]
      exact loadEnabledLayers_clock (w := { w with clock := u }) (answers ▸ goesOn) hrun
    subst hclock
    refine ⟨_, interfaces, l, hs, hifaces, ?_⟩
    rw [loadApiLayers_of_searched searched, requests]
    exact hrun

theorem loadApiLayers_of_undefined (h : Undefined env w.clock) :
    ∃ w', loadApiLayers env count names w = .error .undefinedBehaviour w' := loadApiLayers_of_fault h

/-- A search ends, or it ends the call. -/
theorem exists_searched (hdefined : ¬ Undefined env w.clock) :
    (∃ result implicit explicit u, Searched env w.clock result implicit explicit u) ∨
      ∃ w', loadApiLayers env count names w = .error .exception w' := by
  cases hfound : env.findLayerManifests w.clock .implicitApiLayer with
  | error fault =>
    cases fault with
    | undefinedBehaviour => exact absurd (.inl hfound) hdefined
    | exception => exact .inr (loadApiLayers_of_fault (.inl hfound))
  | ok found =>
    obtain ⟨before, implicit⟩ := found
    by_cases hs : xrSucceeded before
    · cases hmore : env.findLayerManifests (w.clock + 1) .explicitApiLayer with
      | error fault =>
        cases fault with
        | undefinedBehaviour => exact absurd (.inr ⟨before, implicit, hfound, hs, hmore⟩) hdefined
        | exception => exact .inr (loadApiLayers_of_fault (.inr ⟨before, implicit, hfound, hs, hmore⟩))
      | ok more => exact .inl ⟨_, _, _, _, .both hfound hs hmore⟩
    · exact .inl ⟨_, _, _, _, .implicitOnly hfound (not_xrSucceeded.mp hs)⟩

/-- Layers that are not provided are not loaded. -/
theorem loadApiLayers_fails (hnot : ∀ loaded u, ¬ Provided env w.clock w count names loaded u)
    (hdefined : ¬ Undefined env w.clock) : Fails (·.1) (loadApiLayers env count names w) := by
  rcases exists_searched hdefined with ⟨result, implicit, explicit, u, hsearched⟩ | ⟨w', hrun⟩
  · rw [loadApiLayers_of_searched hsearched]
    cases hrequests : if xrSucceeded result then requestedLayers env w count names else some [] with
    | none =>
      show xrFailed xrErrorValidationFailure
      decide
    | some requested =>
      obtain ⟨interfaces, c, l, hrun, -, -⟩ :=
        loadEnabledLayers_spec env (enableLayers implicit explicit requested) { w with clock := u } rfl
      dsimp only
      rw [hrun]
      refine not_xrSucceeded.mp fun hs => ?_
      obtain ⟨hfound, hgoes, hcleared⟩ := (succeeded_resultOf_iff fun x hx o ho =>
        honest_of_mem_attempts hx ho).mp hs
      exact hnot _ _ (.mk hsearched hrequests ((enableLayers_found implicit explicit requested).mp hfound) rfl
        hgoes hcleared)
  · rw [hrun]
    rfl

end ApiLayerInterface

namespace LoaderCore

/-! ## Both -/

section Both
variable (env : Environment) (info : XrInstanceCreateInfo) (w : World)

/-- The runtime and the layers that are loaded for the create info, and the number of the next
question. -/
def Provides (rt : RuntimeInterface)
    (loaded : List (ApiLayerManifestFile × XrNegotiateApiLayerRequest)) (u : ℕ) : Prop :=
  ∃ t, RuntimeInterface.Provided env w rt t ∧
    ApiLayerInterface.Provided env t w info.enabledApiLayerCount info.enabledApiLayerNames loaded u

def LoadsUndefined : Prop :=
  RuntimeInterface.Undefined env w ∨
    ∃ rt t, RuntimeInterface.Provided env w rt t ∧ ApiLayerInterface.Undefined env t

end Both

variable {env : Environment} {info : XrInstanceCreateInfo} {w : World} {rt : RuntimeInterface}
  {loaded : List (ApiLayerManifestFile × XrNegotiateApiLayerRequest)} {t u : ℕ}

/-- The runtime plays no part in the loading of the layers. -/
theorem provided_with_runtime (l : HandleLedger) (runtime : Option RuntimeInterface) {count : ℕ}
    {names : Option (List StdString)} : ApiLayerInterface.Provided env t { w with
      clock := t
      libraries := l
      runtime := runtime } count names loaded u ↔
    ApiLayerInterface.Provided env t w count names loaded u := by
  constructor <;> rintro ⟨searched, requests, named, answers, goesOn, cleared⟩ <;>
    exact .mk searched requests named answers goesOn cleared

theorem loadRuntimeAndLayers_of_loaded {library : ℕ} {l : HandleLedger}
    (h : RuntimeInterface.loadRuntime env w = .ok xrSuccess { w with
      clock := t
      libraries := l
      runtime := some { rt with runtimeLibrary := library } }) : loadRuntimeAndLayers env info w =
    ApiLayerInterface.loadApiLayers env info.enabledApiLayerCount info.enabledApiLayerNames { w with
      clock := t
      libraries := l
      runtime := some { rt with runtimeLibrary := library } } := by
  unfold loadRuntimeAndLayers
  rw [bind_of_ok h]
  rfl

theorem loadRuntimeAndLayers_of_provides (h : Provides env info w rt loaded u) :
    ∃ result interfaces library l, xrSucceeded result ∧
      ApiLayerInterface.InterfacesOf interfaces loaded ∧
      loadRuntimeAndLayers env info w = .ok (result, interfaces) { w with
        clock := u
        libraries := l
        runtime := some { rt with runtimeLibrary := library } } := by
  obtain ⟨t, hrt, hlayers⟩ := h
  obtain ⟨library, l, hrun⟩ := RuntimeInterface.loadRuntime_of_provided hrt
  obtain ⟨result, interfaces, l', hs, hifaces, hrun'⟩ := ApiLayerInterface.loadApiLayers_of_provided
    (w := { w with
      clock := t
      libraries := l
      runtime := some { rt with runtimeLibrary := library } })
    ((provided_with_runtime l _).mpr hlayers)
  exact ⟨result, interfaces, library, l', hs, hifaces, (loadRuntimeAndLayers_of_loaded hrun).trans hrun'⟩

theorem loadRuntimeAndLayers_of_undefined (info : XrInstanceCreateInfo) (h : LoadsUndefined env w) :
    ∃ w', loadRuntimeAndLayers env info w = .error .undefinedBehaviour w' := by
  rcases h with hrt | ⟨rt, t, hrt, hlayers⟩
  · obtain ⟨w', hrun⟩ := RuntimeInterface.loadRuntime_of_undefined hrt
    exact ⟨w', bind_of_error hrun⟩
  · obtain ⟨library, l, hrun⟩ := RuntimeInterface.loadRuntime_of_provided hrt
    rw [loadRuntimeAndLayers_of_loaded hrun]
    exact ApiLayerInterface.loadApiLayers_of_undefined hlayers

theorem loadRuntimeAndLayers_fails (info : XrInstanceCreateInfo)
    (hnot : ∀ rt loaded u, ¬ Provides env info w rt loaded u)
    (hdefined : ¬ LoadsUndefined env w) : Fails (·.1) (loadRuntimeAndLayers env info w) := by
  by_cases hprovided : ∃ rt t, RuntimeInterface.Provided env w rt t
  · obtain ⟨rt, t, hrt⟩ := hprovided
    obtain ⟨library, l, hrun⟩ := RuntimeInterface.loadRuntime_of_provided hrt
    rw [loadRuntimeAndLayers_of_loaded hrun]
    refine ApiLayerInterface.loadApiLayers_fails (fun loaded u hlayers => ?_) fun hundefined => ?_
    · exact hnot rt loaded u ⟨t, hrt, (provided_with_runtime l _).mp hlayers⟩
    · exact hdefined (.inr ⟨rt, t, hrt, hundefined⟩)
  · have hfails := RuntimeInterface.loadRuntime_fails
      (fun rt t h => hprovided ⟨rt, t, h⟩) fun h => hdefined (.inl h)
    unfold loadRuntimeAndLayers
    cases hrun : RuntimeInterface.loadRuntime env w with
    | ok result w' =>
      rw [hrun] at hfails
      have hfail : xrFailed result := hfails
      rw [bind_of_ok hrun]
      change Fails _ ((if xrFailed result then pure (result, []) else _ : Loader _) w')
      rw [if_pos hfail]
      exact hfails
    | error fault w' =>
      rw [hrun] at hfails
      rw [bind_of_error hrun]
      exact hfails

/-- The loading succeeds exactly where the answers provide a runtime and the layers. -/
theorem exists_provides_iff : (∃ rt loaded u, Provides env info w rt loaded u) ↔
    ∃ result layers w', loadRuntimeAndLayers env info w = .ok (result, layers) w' ∧
      xrSucceeded result := by
  constructor
  · rintro ⟨rt, loaded, u, h⟩
    obtain ⟨result, interfaces, library, l, hs, -, hrun⟩ := loadRuntimeAndLayers_of_provides h
    exact ⟨result, interfaces, _, hrun, hs⟩
  · rintro ⟨result, layers, w', hrun, hs⟩
    by_contra hnot
    have hdefined : ¬ LoadsUndefined env w := fun h => by
      obtain ⟨w'', hrun'⟩ := loadRuntimeAndLayers_of_undefined info h
      cases hrun.symm.trans hrun'
    have hfails := loadRuntimeAndLayers_fails info
      (fun rt loaded u h => hnot ⟨rt, loaded, u, h⟩) hdefined
    rw [hrun] at hfails
    exact absurd hfails (not_xrFailed.mpr hs)

theorem loadsUndefined_iff (info : XrInstanceCreateInfo) : LoadsUndefined env w ↔
    ∃ w', loadRuntimeAndLayers env info w = .error .undefinedBehaviour w' := by
  refine ⟨loadRuntimeAndLayers_of_undefined info, fun ⟨w', hrun⟩ => ?_⟩
  by_contra hdefined
  have hfails := loadRuntimeAndLayers_fails info (fun rt loaded u h => ?_) hdefined
  · rw [hrun] at hfails
    cases hfails
  · obtain ⟨result, interfaces, library, l, -, -, hrun'⟩ := loadRuntimeAndLayers_of_provides h
    cases hrun.symm.trans hrun'

end LoaderCore
end OpenXRSdk
