import OpenXRSdk.RelyGuarantee

/-!
# Critical sections

Threads that share one mutex. A call that takes it does all its work before it gives it back, so
there is no deadlock.
-/
namespace OpenXRSdk.RelyGuarantee

open StateProgram TransitionSystem

variable {T C σ τ ε A α β : Type}

namespace Program

def Ended : Program σ ε A α → Prop
  | .step .. => False
  | _ => True

section Mutex
variable (owner : σ → Option T) (t : T)

/-- No step waits, and none takes the mutex or gives it back. -/
def Steady : Program σ ε A α → Prop
  | .done _ => True
  | .fail _ => True
  | .step _ enabled x next thrown => ∀ s, enabled s ∧ match x s with
    | .ok b u => owner u = owner s ∧ (next b).Steady
    | .error e u => owner u = owner s ∧ (thrown e).Steady

/-- The thread has the mutex, and ends with the step that gives it back. -/
def Inside : Program σ ε A α → Prop
  | .done _ => False
  | .fail _ => False
  | .step _ enabled x next thrown => ∀ s, owner s = some t → enabled s ∧ match x s with
    | .ok b u => owner u = some t ∧ (next b).Inside ∨ owner u = none ∧ (next b).Ended
    | .error e u => owner u = some t ∧ (thrown e).Inside ∨ owner u = none ∧ (thrown e).Ended

/-- The first step, if there is one, waits for the mutex and takes it, and does nothing else. -/
def Section (data : σ → τ) : Program σ ε A α → Prop
  | .done _ => True
  | .fail _ => True
  | .step _ enabled x next _ => ∀ s, (enabled s ↔ owner s = none) ∧ (owner s = none →
    ∃ b u, x s = .ok b u ∧ owner u = some t ∧ data u = data s ∧ (next b).Inside owner t)

end Mutex

section Rules
variable {owner : σ → Option T} {t : T} {data : σ → τ}

/-! ## Steps that leave the mutex alone -/

theorem steady_atomic {label : A} {x : EStateM ε σ α}
    (h : ∀ s, EndsIn (fun u => owner u = owner s) (x s)) : (atomic label x).Steady owner := by
  intro s
  have := h s
  refine ⟨rfl, ?_⟩
  cases hx : x s with
  | ok a u =>
    rw [hx] at this
    exact ⟨this, trivial⟩
  | error e u =>
    rw [hx] at this
    exact ⟨this, trivial⟩

/-- The rule that the rules for composed programs come from. -/
theorem Steady.after {p : Program σ ε A α} {q : Program σ ε A α → Program σ ε A β}
    (h : p.Steady owner)
    (hstep : ∀ label enabled {γ : Type} (x : EStateM ε σ γ) next thrown,
      q (.step label enabled x next thrown) =
        .step label enabled x (fun b => q (next b)) fun e => q (thrown e))
    (hdone : ∀ a, (q (.done a)).Steady owner) (hfail : ∀ e, (q (.fail e)).Steady owner) :
    (q p).Steady owner := by
  induction p with
  | done a => exact hdone a
  | fail e => exact hfail e
  | step label enabled x next thrown ihn iht =>
    rw [hstep]
    intro s
    obtain ⟨henabled, hx⟩ := h s
    refine ⟨henabled, ?_⟩
    cases he : x s with
    | ok b u =>
      rw [he] at hx
      exact ⟨hx.1, ihn b hx.2⟩
    | error e u =>
      rw [he] at hx
      exact ⟨hx.1, iht e hx.2⟩

theorem Steady.bind {p : Program σ ε A α} {f : α → Program σ ε A β} (h : p.Steady owner)
    (hf : ∀ a, (f a).Steady owner) : (p >>= f).Steady owner :=
  Steady.after (q := fun p => p.bind f) h (fun _ _ _ _ _ _ => rfl) hf fun _ => trivial

theorem Steady.catching {p : Program σ ε A α} {handler : ε → Program σ ε A α} (h : p.Steady owner)
    (hc : ∀ e, (handler e).Steady owner) : (p.catching handler).Steady owner :=
  Steady.after (q := Program.catching handler) h (fun _ _ _ _ _ _ => rfl) (fun _ => trivial) hc

theorem Steady.ite {c : Prop} [Decidable c] {p q : Program σ ε A α} (hp : p.Steady owner)
    (hq : q.Steady owner) : (if c then p else q).Steady owner := by
  split_ifs
  · exact hp
  · exact hq

theorem steady_ofTree {B R : Type} {next : B → Program σ ε A R} (h : ∀ b, (next b).Steady owner)
    (tree : CallTree B R α) : (ofTree next tree).Steady owner := by
  induction tree with
  | done a => trivial
  | call b k ih => exact (h b).bind ih

/-! ## From the first step to the last -/

/-- What comes after the section is nothing that takes a step. -/
theorem Inside.after {p : Program σ ε A α} {q : Program σ ε A α → Program σ ε A β}
    (h : p.Inside owner t)
    (hstep : ∀ label enabled {γ : Type} (x : EStateM ε σ γ) next thrown,
      q (.step label enabled x next thrown) =
        .step label enabled x (fun b => q (next b)) fun e => q (thrown e))
    (hended : ∀ p : Program σ ε A α, p.Ended → (q p).Ended) : (q p).Inside owner t := by
  induction p with
  | done a => cases h
  | fail e => cases h
  | step label enabled x next thrown ihn iht =>
    rw [hstep]
    intro s hs
    obtain ⟨henabled, hx⟩ := h s hs
    refine ⟨henabled, ?_⟩
    cases he : x s with
    | ok b u =>
      rw [he] at hx
      exact hx.imp (fun h => ⟨h.1, ihn b h.2⟩) fun h => ⟨h.1, hended _ h.2⟩
    | error e u =>
      rw [he] at hx
      exact hx.imp (fun h => ⟨h.1, iht e h.2⟩) fun h => ⟨h.1, hended _ h.2⟩

theorem Ended.section_ {p : Program σ ε A α} (h : p.Ended) : p.Section owner t data := by
  cases p with
  | step => cases h
  | _ => trivial

theorem Section.ite {c : Prop} [Decidable c] {p q : Program σ ε A α} (hp : p.Section owner t data)
    (hq : q.Section owner t data) : (if c then p else q).Section owner t data := by
  split_ifs
  · exact hp
  · exact hq

theorem Section.after {p : Program σ ε A α} {q : Program σ ε A α → Program σ ε A β}
    (h : p.Section owner t data)
    (hstep : ∀ label enabled {γ : Type} (x : EStateM ε σ γ) next thrown,
      q (.step label enabled x next thrown) =
        .step label enabled x (fun b => q (next b)) fun e => q (thrown e))
    (hended : ∀ p : Program σ ε A α, p.Ended → (q p).Ended) : (q p).Section owner t data := by
  cases p with
  | done a => exact (hended (.done a) trivial).section_
  | fail e => exact (hended (.fail e) trivial).section_
  | step label enabled x next thrown =>
    rw [hstep]
    intro s
    obtain ⟨henabled, htakes⟩ := h s
    refine ⟨henabled, fun hs => ?_⟩
    obtain ⟨b, u, hx, ho, hd, hinside⟩ := htakes hs
    exact ⟨b, u, hx, ho, hd, hinside.after hstep hended⟩

theorem Section.bind {p : Program σ ε A α} {f : α → Program σ ε A β} (h : p.Section owner t data)
    (hf : ∀ a, (f a).Ended) : (p >>= f).Section owner t data := by
  refine Section.after (q := fun p => p.bind f) h (fun _ _ _ _ _ _ => rfl) fun p hp => ?_
  cases p with
  | done a => exact hf a
  | fail e => trivial
  | step => cases hp

theorem Section.catching {p : Program σ ε A α} {handler : ε → Program σ ε A α}
    (h : p.Section owner t data) (hc : ∀ e, (handler e).Ended) :
    (p.catching handler).Section owner t data := by
  refine Section.after (q := Program.catching handler) h (fun _ _ _ _ _ _ => rfl) fun p hp => ?_
  cases p with
  | done a => trivial
  | fail e => exact hc e
  | step => cases hp

/-- The scope of a lock: whatever happens, the last step gives the mutex back. -/
theorem Steady.ensuring {p : Program σ ε A α} {label : A} {x : EStateM ε σ PUnit}
    (h : p.Steady owner) (hx : ∀ s, ∃ u, x s = .ok ⟨⟩ u ∧ owner u = none) :
    (Program.ensuring (.atomic label x) p).Inside owner t := by
  have hlast (r : Program σ ε A α) (hr : r.Ended) :
      (Program.bind (.atomic label x) fun _ => r).Inside owner t := by
    intro s _
    obtain ⟨u, hu, ho⟩ := hx s
    refine ⟨rfl, ?_⟩
    rw [hu]
    exact .inr ⟨ho, hr⟩
  induction p with
  | done a => exact hlast _ trivial
  | fail e => exact hlast _ trivial
  | step label enabled x next thrown ihn iht =>
    intro s hs
    obtain ⟨henabled, hx⟩ := h s
    refine ⟨henabled, ?_⟩
    cases he : x s with
    | ok b u =>
      rw [he] at hx
      exact .inl ⟨hx.1.trans hs, ihn b hx.2⟩
    | error e u =>
      rw [he] at hx
      exact .inl ⟨hx.1.trans hs, iht e hx.2⟩

end Rules
end Program

/-! ## Who has the mutex -/

/-- What may be left of a program after its first step. -/
inductive Program.Next : Program σ ε A α → Program σ ε A α → Prop
  | ok {label : A} {enabled : σ → Bool} {β : Type} {x : EStateM ε σ β}
      {next : β → Program σ ε A α} {thrown : ε → Program σ ε A α} (b : β) :
      Next (next b) (.step label enabled x next thrown)
  | error {label : A} {enabled : σ → Bool} {β : Type} {x : EStateM ε σ β}
      {next : β → Program σ ε A α} {thrown : ε → Program σ ε A α} (e : ε) :
      Next (thrown e) (.step label enabled x next thrown)

section Mutex
variable (owner : σ → Option T) (data : σ → τ)

/-- The thread is inside its section and has the mutex, or has not got it. -/
def Located (s : Config T σ ε A α) (t : T) : Prop :=
  (s.program t).Inside owner t ∧ owner s.shared = some t ∨
    ((s.program t).Steady owner ∨ (s.program t).Section owner t data) ∧ owner s.shared ≠ some t

end Mutex

section Located
variable {owner : σ → Option T} {data : σ → τ} {calls : T → C → Program σ ε A α}
  {s s' : Config T σ ε A α} {t : T}

/-- What the step of a thread does with the mutex. -/
inductive Passes (owner : σ → Option T) (t : T) (s u : σ) : Prop
  | leaves (same : owner u = owner s)
  | takes (free : owner s = none) (taken : owner u = some t)
  | releases (taken : owner s = some t) (free : owner u = none)

theorem Passes.other {s u : σ} (h : Passes owner t s u) {t' : T} (hne : t' ≠ t) :
    owner u = some t' ↔ owner s = some t' := by
  cases h with
  | leaves same => rw [same]
  | takes free taken => simp [free, taken, hne.symm]
  | releases taken free => simp [free, taken, hne.symm]

theorem Program.Ended.steady {p : Program σ ε A α} (h : p.Ended) : p.Steady owner := by
  cases p with
  | step => cases h
  | _ => trivial

theorem Located.frame (h : Located owner data s t) (hp : s'.program t = s.program t)
    (ho : owner s'.shared = some t ↔ owner s.shared = some t) : Located owner data s' t := by
  unfold Located
  rw [hp]
  exact h.imp (And.imp_right ho.mpr) (And.imp_right (mt ho.mp))

variable [DecidableEq T]

theorem Config.act_eq_some (h : s.act t = some s') :
    ∃ label enabled, ∃ β : Type, ∃ (x : EStateM ε σ β) (next : β → Program σ ε A α)
      (thrown : ε → Program σ ε A α), s.program t = .step label enabled x next thrown ∧
      enabled s.shared ∧
      ((∃ b u, x s.shared = .ok b u ∧ s' = ⟨u, Function.update s.program t (next b)⟩) ∨
        ∃ e u, x s.shared = .error e u ∧ s' = ⟨u, Function.update s.program t (thrown e)⟩) := by
  unfold Config.act at h
  cases hp : s.program t with
  | done a => simp [hp] at h
  | fail e => simp [hp] at h
  | @step label enabled β x next thrown =>
    rw [hp] at h
    dsimp only at h
    split_ifs at h with henabled
    refine ⟨label, enabled, β, x, next, thrown, rfl, henabled, ?_⟩
    cases hx : x s.shared with
    | ok b u =>
      rw [hx] at h
      exact .inl ⟨b, u, rfl, (Option.some.inj h).symm⟩
    | error e u =>
      rw [hx] at h
      exact .inr ⟨e, u, rfl, (Option.some.inj h).symm⟩

theorem Config.ended_of_act (h : s.act t = some s') : ¬ (s.program t).Ended := by
  obtain ⟨_, _, _, _, _, _, hp, -⟩ := Config.act_eq_some h
  rw [hp]
  exact id

theorem Config.act_next (h : s.act t = some s') : ∃ p, Program.Next p (s.program t) ∧
    s'.program = Function.update s.program t p := by
  obtain ⟨_, _, _, _, _, _, hp, -, ⟨b, u, -, rfl⟩ | ⟨e, u, -, rfl⟩⟩ := Config.act_eq_some h
  · exact ⟨_, hp ▸ .ok b, rfl⟩
  · exact ⟨_, hp ▸ .error e, rfl⟩

variable (owner data) in
/-- All that the step of a thread can do. -/
theorem Config.act_cases (h : s.act t = some s') : ∃ p u,
    s' = ⟨u, Function.update s.program t p⟩ ∧ Program.Next p (s.program t) ∧
    (s.program t).run s.shared = p.run u ∧
    ((s.program t).Steady owner → owner u = owner s.shared ∧ p.Steady owner) ∧
    ((s.program t).Inside owner t → owner s.shared = some t →
      owner u = some t ∧ p.Inside owner t ∨ owner u = none ∧ p.Ended) ∧
    ((s.program t).Section owner t data →
      owner s.shared = none ∧ owner u = some t ∧ data u = data s.shared ∧ p.Inside owner t) := by
  obtain ⟨label, enabled, β, x, next, thrown, hp, henabled, hresult⟩ := Config.act_eq_some h
  rw [hp]
  have htakes (hs : (Program.step label enabled x next thrown).Section owner t data) :=
    (hs s.shared).2 ((hs s.shared).1.mp henabled)
  rcases hresult with ⟨b, u, he, rfl⟩ | ⟨e, u, he, rfl⟩
  · refine ⟨next b, u, rfl, .ok b, ?_, fun hs => ?_, fun hs ho => ?_, fun hs => ?_⟩
    · rw [Program.run_step, he]
    · have := (hs s.shared).2
      rwa [he] at this
    · have := (hs s.shared ho).2
      rwa [he] at this
    · obtain ⟨b', u', hx, htaken⟩ := htakes hs
      cases hx.symm.trans he
      exact ⟨(hs s.shared).1.mp henabled, htaken⟩
  · refine ⟨thrown e, u, rfl, .error e, ?_, fun hs => ?_, fun hs ho => ?_, fun hs => ?_⟩
    · rw [Program.run_step, he]
    · have := (hs s.shared).2
      rwa [he] at this
    · have := (hs s.shared ho).2
      rwa [he] at this
    · obtain ⟨b', u', hx, -⟩ := htakes hs
      cases hx.symm.trans he

theorem Config.start_eq_some {call : C} (h : s.start calls t call = some s') :
    (∃ a, s.program t = .done a) ∧
      s' = { s with program := Function.update s.program t (calls t call) } := by
  unfold Config.start at h
  cases hp : s.program t with
  | step label enabled x next thrown => simp [hp] at h
  | fail e => simp [hp] at h
  | done a =>
    rw [hp] at h
    exact ⟨⟨a, rfl⟩, (Option.some.inj h).symm⟩

theorem Config.start_of_done {a : α} (h : s.program t = .done a) (call : C) :
    s.start calls t call = some { s with program := Function.update s.program t (calls t call) } := by
  unfold Config.start
  simp only [h]

section Taken
variable {label : A} {enabled : σ → Bool} {x : EStateM ε σ β} {next : β → Program σ ε A α}
  {thrown : ε → Program σ ε A α} {u : σ}

theorem Config.act_of_ok (h : s.program t = .step label enabled x next thrown) {b : β}
    (henabled : enabled s.shared) (hx : x s.shared = .ok b u) :
    s.act t = some ⟨u, Function.update s.program t (next b)⟩ := by
  unfold Config.act
  simp only [h, henabled, if_true, hx]

theorem Config.act_of_error (h : s.program t = .step label enabled x next thrown) {e : ε}
    (henabled : enabled s.shared) (hx : x s.shared = .error e u) :
    s.act t = some ⟨u, Function.update s.program t (thrown e)⟩ := by
  unfold Config.act
  simp only [h, henabled, if_true, hx]

end Taken

/-- A step that waits for nothing can be taken. -/
theorem Config.exists_act (h : ∀ label enabled, ∀ {β : Type} (x : EStateM ε σ β) next thrown,
    s.program t = .step label enabled x next thrown → enabled s.shared)
    (hended : ¬ (s.program t).Ended) : ∃ s', s.act t = some s' := by
  cases hp : s.program t with
  | done a => exact absurd (hp ▸ trivial) hended
  | fail e => exact absurd (hp ▸ trivial) hended
  | step label enabled x next thrown =>
    have henabled := h _ _ _ _ _ hp
    cases hx : x s.shared with
    | ok b u => exact ⟨_, Config.act_of_ok hp henabled hx⟩
    | error e u => exact ⟨_, Config.act_of_error hp henabled hx⟩

/-- The thread that takes a step is still where it says, and nobody else has been moved. -/
theorem Located.act (h : Located owner data s t) (hact : s.act t = some s') :
    Located owner data s' t ∧ Passes owner t s.shared s'.shared := by
  obtain ⟨p, u, rfl, -, -, hsteady, hinside, hsection⟩ := Config.act_cases owner data hact
  unfold Located
  dsimp only
  rw [Function.update_self]
  rcases h with ⟨hin, howner⟩ | ⟨hout | hout, howner⟩
  · rcases hinside hin howner with ⟨hsome, hnext⟩ | ⟨hnone, hended⟩
    · exact ⟨.inl ⟨hnext, hsome⟩, .leaves (hsome.trans howner.symm)⟩
    · exact ⟨.inr ⟨.inl hended.steady, by simp [hnone]⟩, .releases howner hnone⟩
  · obtain ⟨hsame, hnext⟩ := hsteady hout
    exact ⟨.inr ⟨.inl hnext, hsame ▸ howner⟩, .leaves hsame⟩
  · obtain ⟨hfree, hsome, -, hnext⟩ := hsection hout
    exact ⟨.inl ⟨hnext, hsome⟩, .takes hfree hsome⟩

/-- Every call does all it does inside one section, or does not touch the mutex. -/
def Disciplined (owner : σ → Option T) (data : σ → τ) (calls : T → C → Program σ ε A α) : Prop :=
  ∀ t call, (calls t call).Steady owner ∨ (calls t call).Section owner t data

theorem located_step (hcalls : Disciplined owner data calls) {m : Move T C}
    (h : ∀ t, Located owner data s t) (hstep : Step calls s m s') : ∀ t, Located owner data s' t := by
  intro t'
  cases m with
  | start t call =>
    obtain ⟨⟨a, ha⟩, rfl⟩ := Config.start_eq_some hstep
    by_cases ht : t' = t
    · subst ht
      refine .inr ⟨?_, ?_⟩
      · simpa only [Function.update_self] using hcalls t' call
      · rcases h t' with ⟨hinside, -⟩ | ⟨-, howner⟩
        · rw [ha] at hinside
          cases hinside
        · exact howner
    · exact (h t').frame (Function.update_of_ne ht _ _) Iff.rfl
  | act t =>
    obtain ⟨hlocated, hpasses⟩ := (h t).act hstep
    by_cases ht : t' = t
    · exact ht ▸ hlocated
    · refine (h t').frame ?_ (hpasses.other ht)
      obtain ⟨p, -, hp⟩ := Config.act_next hstep
      rw [hp, Function.update_of_ne ht]

/-- A call that has not ended can go on, or another thread is in its section and can go on. -/
theorem exists_act (h : ∀ t, Located owner data s t) (ht : ¬ (s.program t).Ended) :
    (∃ s', s.act t = some s') ∨
      ∃ t', t' ≠ t ∧ owner s.shared = some t' ∧ ∃ s', s.act t' = some s' := by
  cases howner : owner s.shared with
  | some t' =>
    have hact : ∃ s', s.act t' = some s' := by
      rcases h t' with ⟨hinside, -⟩ | ⟨-, hne⟩
      · refine Config.exists_act (fun label enabled β x next thrown hp => ?_) fun hended => ?_
        · rw [hp] at hinside
          exact (hinside s.shared howner).1
        · cases hp : s.program t' with
          | step => simp [hp, Program.Ended] at hended
          | _ => simp [hp, Program.Inside] at hinside
      · exact absurd howner hne
    by_cases heq : t' = t
    · exact .inl (heq ▸ hact)
    · exact .inr ⟨t', heq, rfl, hact⟩
  | none =>
    refine .inl (Config.exists_act (fun label enabled β x next thrown hp => ?_) ht)
    rcases h t with ⟨-, hsome⟩ | ⟨hsteady | hsection, -⟩
    · cases howner.symm.trans hsome
    · rw [hp] at hsteady
      exact (hsteady s.shared).1
    · rw [hp] at hsection
      exact (hsection s.shared).1.mpr howner

end Located

/-! ## No call is stuck -/

/-- Wherever the threads have got to, a call that cannot go on waits for another thread's section,
and that thread can go on. -/
theorem progresses [DecidableEq T] {owner : σ → Option T} {data : σ → τ}
    {calls : T → C → Program σ ε A α} {start s : Config T σ ε A α}
    {trace : List (Transition (Config T σ ε A α) (Move T C))}
    (hcalls : Disciplined owner data calls) (hrun : Run (Step calls) start trace s)
    (hended : ∀ t, (start.program t).Ended) (hfree : owner start.shared = none) {t : T}
    (ht : ¬ (s.program t).Ended) : (∃ s', s.act t = some s') ∨
      ∃ t', t' ≠ t ∧ owner s.shared = some t' ∧ ∃ s', s.act t' = some s' := by
  suffices h : ∀ t, Located owner data s t from exists_act h ht
  refine hrun.invariant (I := fun s => ∀ t, Located owner data s t) (fun t => ?_) ?_
  · exact .inr ⟨.inl (hended t).steady, by simp [hfree]⟩
  · exact fun s m s' h hstep => located_step hcalls h hstep

end OpenXRSdk.RelyGuarantee
