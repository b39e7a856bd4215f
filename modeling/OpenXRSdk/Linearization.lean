import OpenXRSdk.CriticalSections

/-!
# Calls that might be single steps

Threads whose calls do all their work in one critical section. What the callers see, they might
have seen if each call had been carried out in a single step.
-/
namespace OpenXRSdk.RelyGuarantee

open StateProgram TransitionSystem

variable {T C σ τ ε A α : Type}

inductive Observation (T C ε α : Type)
  | called (t : T) (call : C)
  | returned (t : T) (a : α)
  | failed (t : T) (e : ε)

/-- How the call of the thread has ended, if it has. -/
def outcome (t : T) : Program σ ε A α → List (Observation T C ε α)
  | .done a => [.returned t a]
  | .fail e => [.failed t e]
  | .step .. => []

def observe (x : Transition (Config T σ ε A α) (Move T C)) : List (Observation T C ε α) :=
  match x.label with
  | .start t call => .called t call :: outcome t (x.after.program t)
  | .act t => outcome t (x.after.program t)

def history (trace : List (Transition (Config T σ ε A α) (Move T C))) :
    List (Observation T C ε α) := trace.flatMap observe

theorem observe_start {s s' : Config T σ ε A α} {t : T} {call : C} :
    observe ⟨s, .start t call, s'⟩ = .called t call :: outcome t (s'.program t) := rfl

theorem observe_act {s s' : Config T σ ε A α} {t : T} :
    observe ⟨s, (.act t : Move T C), s'⟩ = outcome t (s'.program t) := rfl

theorem history_append (trace trace' : List (Transition (Config T σ ε A α) (Move T C))) :
    history (trace ++ trace') = history trace ++ history trace' := List.flatMap_append

theorem history_single (x : Transition (Config T σ ε A α) (Move T C)) :
    history [x] = observe x := List.flatMap_singleton ..

/-- The result, with what the state stands for. -/
def onData (data : σ → τ) : EStateM.Result ε σ α → EStateM.Result ε τ α
  | .ok a s => .ok a (data s)
  | .error e s => .error e (data s)

def atOnce (op : C → EStateM ε τ α) (_ : T) (call : C) : Program τ ε Unit α := .atomic () (op call)

inductive Agree : Program σ ε A α → Program τ ε Unit α → Prop
  | done (a : α) : Agree (.done a) (.done a)
  | fail (e : ε) : Agree (.fail e) (.fail e)

section Linearization
variable (owner : σ → Option T) (data : σ → τ) (op : C → EStateM ε τ α)

/-- Where a thread is, beside where it is if each call is a single step: that step is the one in
which the thread gives the mutex back. -/
inductive Linked (s : Config T σ ε A α) (s' : Config T τ ε Unit α) (t : T) : Prop
  | ended (agree : Agree (s.program t) (s'.program t)) (outside : owner s.shared ≠ some t)
  | waiting (call : C) (pending : ¬ (s.program t).Ended)
      (section_ : (s.program t).Section owner t data)
      (implements : ∀ u, onData data ((s.program t).run u) = op call (data u))
      (program : s'.program t = atOnce op t call) (outside : owner s.shared ≠ some t)
  | inside (call : C) (inside : (s.program t).Inside owner t)
      (implements : onData data ((s.program t).run s.shared) = op call s'.shared)
      (program : s'.program t = atOnce op t call) (owning : owner s.shared = some t)

structure Linearized (s : Config T σ ε A α) (s' : Config T τ ε Unit α) : Prop where
  linked : ∀ t, Linked owner data op s s' t
  reached : ∃ u, data u = s'.shared
  shared : owner s.shared = none → s'.shared = data s.shared

variable {owner data op} {s s₁ : Config T σ ε A α} {s' s₁' : Config T τ ε Unit α} {t : T}

theorem Agree.outcome {p : Program σ ε A α} {p' : Program τ ε Unit α} (h : Agree p p') :
    (outcome t p : List (Observation T C ε α)) = outcome t p' := by
  cases h with
  | done a => rfl
  | fail e => rfl

theorem Agree.ended {p : Program σ ε A α} {p' : Program τ ε Unit α} (h : Agree p p') : p.Ended := by
  cases h with
  | done a => trivial
  | fail e => trivial

theorem Agree.eq_done {a : α} {p' : Program τ ε Unit α}
    (h : Agree (.done a : Program σ ε A α) p') : p' = .done a := by
  cases h
  rfl

theorem Agree.eq_fail {e : ε} {p : Program σ ε A α}
    (h : Agree p (.fail e : Program τ ε Unit α)) : p = .fail e := by
  cases h
  rfl

theorem outcome_pending {p : Program σ ε A α} (h : ¬ p.Ended) :
    (outcome t p : List (Observation T C ε α)) = [] := by
  cases p with
  | step => rfl
  | _ => exact absurd trivial h

theorem Program.Inside.pending {p : Program σ ε A α} (h : p.Inside owner t) : ¬ p.Ended := by
  cases p with
  | step => exact id
  | _ => cases h

theorem Linked.frame (h : Linked owner data op s s' t) (hp : s₁.program t = s.program t)
    (hp' : s₁'.program t = s'.program t) (ho : owner s₁.shared = some t ↔ owner s.shared = some t)
    (hs : owner s.shared = some t → s₁.shared = s.shared ∧ s₁'.shared = s'.shared) :
    Linked owner data op s₁ s₁' t := by
  cases h with
  | ended agree outside =>
    refine .ended ?_ (mt ho.mp outside)
    rwa [hp, hp']
  | waiting call pending section_ implements program outside =>
    refine .waiting call ?_ ?_ ?_ (hp'.trans program) (mt ho.mp outside)
    · rwa [hp]
    · rwa [hp]
    · rwa [hp]
  | inside call inside implements program owning =>
    obtain ⟨hshared, hshared'⟩ := hs owning
    refine .inside call ?_ ?_ (hp'.trans program) (ho.mpr owning)
    · rwa [hp]
    · rwa [hp, hshared, hshared']

variable [DecidableEq T] {calls : T → C → Program σ ε A α}

/-- The single step of a call that ends as the program does. -/
theorem atOnce_act {call : C} {p : Program σ ε A α} {u : σ} {v : τ} {q : T → Program τ ε Unit α}
    (hq : q t = atOnce op t call) (hended : p.Ended) (hrun : onData data (p.run u) = op call v) :
    ∃ p', Agree p p' ∧ Step (atOnce op) ⟨v, q⟩ (.act t) ⟨data u, Function.update q t p'⟩ := by
  cases p with
  | step => cases hended
  | done a =>
    rw [Program.run_done] at hrun
    exact ⟨_, .done a, Config.act_of_ok (s := ⟨v, q⟩) hq rfl hrun.symm⟩
  | fail e =>
    rw [Program.run_fail] at hrun
    exact ⟨_, .fail e, Config.act_of_error (s := ⟨v, q⟩) hq rfl hrun.symm⟩

/-- Every call is one section, and does in it what the operation does. -/
structure OneSection (owner : σ → Option T) (data : σ → τ) (op : C → EStateM ε τ α)
    (calls : T → C → Program σ ε A α) : Prop where
  section_ : ∀ t call, (calls t call).Section owner t data
  implements : ∀ t call u, onData data ((calls t call).run u) = op call (data u)

theorem linearized_start (hcalls : OneSection owner data op calls) {call : C}
    (h : Linearized owner data op s s') (hstep : Step calls s (.start t call) s₁) :
    ∃ trace s₁', Run (Step (atOnce op)) s' trace s₁' ∧
      history trace = observe ⟨s, .start t call, s₁⟩ ∧ Linearized owner data op s₁ s₁' := by
  obtain ⟨⟨a, ha⟩, rfl⟩ := Config.start_eq_some hstep
  have hended : (s.program t).Ended := ha ▸ trivial
  obtain ⟨houtside, hdone⟩ : owner s.shared ≠ some t ∧ s'.program t = .done a := by
    cases h.linked t with
    | ended agree outside => exact ⟨outside, (ha ▸ agree).eq_done⟩
    | waiting _ pending => exact absurd hended pending
    | inside _ inside => exact absurd hended inside.pending
  have hstart : Step (atOnce op) s' (.start t call)
      { s' with program := Function.update s'.program t (atOnce op t call) } :=
    Config.start_of_done hdone call
  have hothers {p : Program τ ε Unit α} {t' : T} (ht' : t' ≠ t) : Linked owner data op
      { s with program := Function.update s.program t (calls t call) }
      { s' with program := Function.update s'.program t p } t' :=
    (h.linked t').frame (Function.update_of_ne ht' _ _) (Function.update_of_ne ht' _ _) Iff.rfl
      fun _ => ⟨rfl, rfl⟩
  by_cases hended : (calls t call).Ended
  · -- the call is refused before it takes the mutex
    obtain ⟨u, hu⟩ := h.reached
    have hrun : onData data ((calls t call).run u) = op call s'.shared := by
      rw [← hu]
      exact hcalls.implements t call u
    have hp : Function.update s'.program t (atOnce op t call) t = atOnce op t call :=
      Function.update_self _ _ _
    obtain ⟨p', hagree, hact⟩ := atOnce_act hp hended hrun
    refine ⟨_, _, (Run.nil.snoc hstart).snoc hact, ?_, ?_, ⟨u, rfl⟩, ?_⟩
    · rw [List.nil_append, history_append, history_single, history_single, observe_start, observe_act,
        observe_start]
      simp only [Function.update_self, hagree.outcome]
      rfl
    · intro t'
      by_cases ht' : t' = t
      · subst ht'
        refine .ended ?_ houtside
        simpa only [Function.update_self] using hagree
      · rw [Function.update_idem, hu]
        exact hothers ht'
    · exact fun hnone => hu.trans (h.shared hnone)
  · refine ⟨_, _, Run.nil.snoc hstart, ?_, ?_, h.reached, h.shared⟩
    · rw [List.nil_append, history_single, observe_start, observe_start]
      simp only [Function.update_self, outcome_pending hended]
      rfl
    · intro t'
      by_cases ht' : t' = t
      · subst ht'
        refine .waiting call ?_ ?_ ?_ (Function.update_self _ _ _) houtside
        · simpa only [Function.update_self] using hended
        · simpa only [Function.update_self] using hcalls.section_ t' call
        · simpa only [Function.update_self] using hcalls.implements t' call
      · exact hothers ht'

/-- The threads that do not act are where they were. -/
theorem Linearized.others (h : Linearized owner data op s s') {p : Program σ ε A α} {u : σ} {v : τ}
    {q : T → Program τ ε Unit α} (howner : ∀ t' ≠ t, owner s.shared ≠ some t')
    (hpasses : Passes owner t s.shared u) (hq : ∀ t' ≠ t, q t' = s'.program t') :
    ∀ t' ≠ t, Linked owner data op ⟨u, Function.update s.program t p⟩ ⟨v, q⟩ t' := fun t' ht' =>
  (h.linked t').frame (Function.update_of_ne ht' _ _) (hq t' ht') (hpasses.other ht')
    fun ho => absurd ho (howner t' ht')

theorem linearized_act (h : Linearized owner data op s s') (hact : s.act t = some s₁) :
    ∃ trace s₁', Run (Step (atOnce op)) s' trace s₁' ∧
      history trace = outcome t (s₁.program t) ∧ Linearized owner data op s₁ s₁' := by
  obtain ⟨p, u, rfl, -, hrun, -, hinside, hsection⟩ := Config.act_cases owner data hact
  dsimp only
  rw [Function.update_self]
  have hlinked {t' : T} {r : Config T τ ε Unit α}
      (hself : Linked owner data op ⟨u, Function.update s.program t p⟩ r t)
      (hothers : ∀ t' ≠ t, Linked owner data op ⟨u, Function.update s.program t p⟩ r t') :
      Linked owner data op ⟨u, Function.update s.program t p⟩ r t' := by
    by_cases ht' : t' = t
    · exact ht' ▸ hself
    · exact hothers t' ht'
  cases h.linked t with
  | ended agree outside => exact absurd agree.ended (Config.ended_of_act hact)
  | waiting call pending section_ implements program outside =>
    -- the mutex is taken, and nothing has happened yet
    obtain ⟨hfree, hsome, hdata, hnext⟩ := hsection section_
    refine ⟨[], s', .nil, (outcome_pending hnext.pending).symm, ⟨fun t' => ?_, h.reached, ?_⟩⟩
    · refine hlinked (.inside call ?_ ?_ program hsome) ?_
      · simpa only [Function.update_self] using hnext
      · simp only [Function.update_self]
        rw [← hrun, implements, h.shared hfree]
      · exact h.others (fun _ _ => by simp [hfree]) (.takes hfree hsome) fun _ _ => rfl
    · exact fun hnone => nomatch hnone.symm.trans hsome
  | inside call inside implements program owning =>
    have howner : ∀ t' ≠ t, owner s.shared ≠ some t' := fun t' ht' ho =>
      ht' (Option.some.inj (ho.symm.trans owning))
    rw [hrun] at implements
    rcases hinside inside owning with ⟨hsome, hnext⟩ | ⟨hnone, hended⟩
    · refine ⟨[], s', .nil, (outcome_pending hnext.pending).symm, ⟨fun t' => ?_, h.reached, ?_⟩⟩
      · refine hlinked (.inside call ?_ ?_ program hsome) ?_
        · simpa only [Function.update_self] using hnext
        · simpa only [Function.update_self] using implements
        · exact h.others howner (.leaves (hsome.trans owning.symm)) fun _ _ => rfl
      · exact fun hnone => nomatch hnone.symm.trans hsome
    · -- the mutex is given back, and all has happened
      obtain ⟨p', hagree, hstep⟩ := atOnce_act program hended implements
      refine ⟨_, _, Run.nil.snoc hstep, ?_, ⟨fun t' => ?_, ⟨u, rfl⟩, fun _ => rfl⟩⟩
      · rw [List.nil_append, history_single, observe_act]
        simp only [Function.update_self, hagree.outcome]
      · refine hlinked (.ended ?_ ?_) ?_
        · simpa only [Function.update_self] using hagree
        · simp [hnone]
        · exact h.others howner (.releases owning hnone) fun t' ht' => Function.update_of_ne ht' _ _

/-- Whatever the interleaving, the callers see what they might have seen if each call had been a
single step, and between the sections the state is what it would be then. -/
theorem linearizable {start : Config T σ ε A α}
    {trace : List (Transition (Config T σ ε A α) (Move T C))} (hcalls : OneSection owner data op calls)
    (hrun : Run (Step calls) start trace s) {start' : Config T τ ε Unit α}
    (hstart : Linearized owner data op start start') : ∃ trace' s',
      Run (Step (atOnce op)) start' trace' s' ∧ history trace' = history trace ∧
      Linearized owner data op s s' := by
  induction hrun with
  | nil => exact ⟨[], start', .nil, rfl, hstart⟩
  | @snoc trace s s₁ m prior last ih =>
    obtain ⟨trace', s', hrun', hhistory, hlinearized⟩ := ih
    obtain ⟨moves, s₁', hmoves, hobserved, hnext⟩ : ∃ moves s₁', Run (Step (atOnce op)) s' moves s₁' ∧
        history moves = observe ⟨s, m, s₁⟩ ∧ Linearized owner data op s₁ s₁' := by
      cases m with
      | start t call => exact linearized_start hcalls hlinearized last
      | act t => exact linearized_act hlinearized last
    refine ⟨_, s₁', hrun'.append hmoves, ?_, hnext⟩
    rw [history_append, history_append, hhistory, hobserved, history_single]

/-! ### The order of the calls -/

/-- The last call of each thread, and the calls that have returned, in the order of their returns. -/
def answer (asked : (T → Option C) × List (T × C × α)) :
    Observation T C ε α → (T → Option C) × List (T × C × α)
  | .called t call => (Function.update asked.1 t (some call), asked.2)
  | .returned t a => (asked.1, asked.2 ++ (asked.1 t).toList.map fun call => (t, call, a))
  | .failed _ _ => asked

def answers (observations : List (Observation T C ε α)) : (T → Option C) × List (T × C × α) :=
  observations.foldl answer (fun _ => none, [])

/-- Who has called what and been given what, in the order of the returns. -/
def answered (observations : List (Observation T C ε α)) : List (T × C × α) := (answers observations).2

/-- The operations that are carried out one after the other, each for a thread. -/
def InTurn (op : C → EStateM ε τ α) (v : τ) (x : T × C × α) (v' : τ) : Prop :=
  op x.2.1 v = .ok x.2.2 v'

theorem answers_snoc (trace : List (Transition (Config T τ ε Unit α) (Move T C)))
    (x : Transition (Config T τ ε Unit α) (Move T C)) :
    answers (history (trace ++ [x])) = (observe x).foldl answer (answers (history trace)) := by
  rw [history_append, history_single]
  exact List.foldl_append

/-- A call that is a single step has ended, or it is pending and the last one of its thread. -/
def Asked (op : C → EStateM ε τ α) (s : Config T τ ε Unit α) (last : T → Option C) : Prop :=
  ∀ t, (s.program t).Ended ∨ ∃ call, s.program t = atOnce op t call ∧ last t = some call

theorem asked_start {s s' : Config T τ ε Unit α} {t : T} {call : C} {last : T → Option C}
    (h : Asked op s last) (hstep : Step (atOnce op) s (.start t call) s') :
    Asked op s' (Function.update last t (some call)) := by
  obtain ⟨-, rfl⟩ := Config.start_eq_some hstep
  intro t'
  by_cases ht : t' = t
  · subst ht
    exact .inr ⟨call, Function.update_self .., Function.update_self ..⟩
  · simpa only [Function.update_of_ne ht] using h t'

theorem asked_act {s s' : Config T τ ε Unit α} {t : T} {last : T → Option C} (h : Asked op s last)
    (hstep : Step (atOnce op : T → C → Program τ ε Unit α) s (.act t) s') : Asked op s' last := by
  obtain ⟨p, hnext, hp⟩ := Config.act_next hstep
  intro t'
  rw [hp]
  by_cases ht : t' = t
  · subst ht
    rw [Function.update_self]
    obtain ⟨call, hcall, -⟩ := (h t').resolve_left (Config.ended_of_act hstep)
    rw [hcall] at hnext
    unfold atOnce Program.atomic at hnext
    cases hnext with
    | ok b => exact .inl trivial
    | error e => exact .inl trivial
  · simpa only [Function.update_of_ne ht] using h t'

/-- A call that has failed stays as it is. -/
theorem not_failed_of_step {s s₁ : Config T τ ε Unit α} {m : Move T C}
    (hstep : Step (atOnce op : T → C → Program τ ε Unit α) s m s₁)
    (hfail : ∀ t e, s₁.program t ≠ .fail e) (t : T) (e : ε) : s.program t ≠ .fail e := by
  intro he
  cases m with
  | start t' call =>
    obtain ⟨⟨a, ha⟩, rfl⟩ := Config.start_eq_some hstep
    by_cases ht : t = t'
    · subst ht
      cases ha.symm.trans he
    · exact hfail t e ((Function.update_of_ne ht _ _).trans he)
  | act t' =>
    obtain ⟨p, -, hp⟩ := Config.act_next hstep
    by_cases ht : t = t'
    · subst ht
      have hnot := Config.ended_of_act hstep
      rw [he] at hnot
      exact hnot trivial
    · exact hfail t e (by rw [hp, Function.update_of_ne ht, he])

/-- If no call has failed, the calls that have returned did so one after the other. -/
theorem exists_inTurn {start : Config T τ ε Unit α}
    {trace : List (Transition (Config T τ ε Unit α) (Move T C))}
    (hrun : Run (Step (atOnce op)) start trace s') (hstart : ∀ t, (start.program t).Ended)
    (hfail : ∀ t e, s'.program t ≠ .fail e) :
    Asked op s' (answers (history trace)).1 ∧
      ∃ turns : List (Transition τ (T × C × α)), Run (InTurn op) start.shared turns s'.shared ∧
        turns.map (fun x => x.label) = answered (history trace) := by
  induction hrun with
  | nil => exact ⟨fun t => .inl (hstart t), [], .nil, rfl⟩
  | @snoc trace s s₁ m prior last ih =>
    obtain ⟨hasked, turns, hturns, heq⟩ := ih (not_failed_of_step last hfail)
    unfold answered
    rw [answers_snoc]
    cases m with
    | start t call =>
      have hafter := asked_start hasked last
      obtain ⟨-, rfl⟩ := Config.start_eq_some last
      have hpending : (outcome t ((Function.update s.program t (atOnce op t call)) t) :
          List (Observation T C ε α)) = [] := by
        rw [Function.update_self]
        rfl
      rw [observe_start, hpending]
      exact ⟨hafter, turns, hturns, heq⟩
    | act t =>
      have hafter := asked_act hasked last
      obtain ⟨label, enabled, β, x, next, thrown, hp, -, hresult⟩ := Config.act_eq_some last
      obtain ⟨call, hcall, hpending⟩ := (hasked t).resolve_left (Config.ended_of_act last)
      unfold atOnce Program.atomic at hcall
      cases hp.symm.trans hcall
      rcases hresult with ⟨a, u, hx, rfl⟩ | ⟨e, u, hx, rfl⟩
      · have hturn : InTurn op s.shared (t, call, a) u := hx
        have hdone : (outcome t ((Function.update s.program t (.done a)) t) :
            List (Observation T C ε α)) = [.returned t a] := by
          rw [Function.update_self]
          rfl
        rw [observe_act, hdone]
        refine ⟨hafter, _, hturns.snoc hturn, ?_⟩
        rw [List.map_append, heq]
        simp [answered, answer, hpending]
      · exact absurd (Function.update_self _ _ _) (hfail t e)

/-- The calls that have returned might have been carried out one after the other, unless one of them
has failed. -/
theorem exists_sequential {start : Config T σ ε A α}
    {trace : List (Transition (Config T σ ε A α) (Move T C))} (hcalls : OneSection owner data op calls)
    (hrun : Run (Step calls) start trace s) {start' : Config T τ ε Unit α}
    (hstart : Linearized owner data op start start') (hended : ∀ t, (start'.program t).Ended)
    (hfail : ∀ t e, s.program t ≠ .fail e) : ∃ turns v, Run (InTurn op) start'.shared turns v ∧
      turns.map (fun x => x.label) = answered (history trace) ∧
      (owner s.shared = none → v = data s.shared) := by
  obtain ⟨trace', s', hrun', hhistory, hlinearized⟩ := linearizable hcalls hrun hstart
  have hfail' : ∀ t e, s'.program t ≠ .fail e := by
    intro t e he
    cases hlinearized.linked t with
    | ended agree =>
      rw [he] at agree
      exact hfail t e agree.eq_fail
    | waiting call _ _ _ program => cases he.symm.trans program
    | inside call _ _ program => cases he.symm.trans program
  obtain ⟨-, turns, hturns, hanswered⟩ := exists_inTurn hrun' hended hfail'
  exact ⟨turns, s'.shared, hturns, hanswered.trans (congrArg answered hhistory), hlinearized.shared⟩

end Linearization
end OpenXRSdk.RelyGuarantee
