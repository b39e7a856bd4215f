import OpenXRSdk.StateProgram
import OpenXRSdk.TransitionSystem

/-!
# Interleaved programs

Threads that take atomic steps on a shared state, in any order. What one thread relies on is
what all the others guarantee in their steps; a program that is safe under what it relies on
is safe wherever the threads may have got to.
-/
namespace OpenXRSdk.RelyGuarantee

open StateProgram TransitionSystem

/-- What is left of a call. A step is atomic, bears a label, and waits until it is enabled. -/
inductive Program (σ ε A α : Type) : Type 1
  | done (a : α)
  | fail (e : ε)
  | step (label : A) (enabled : σ → Bool) {β : Type} (x : EStateM ε σ β)
      (next : β → Program σ ε A α) (thrown : ε → Program σ ε A α)

/-- What a thread relies on, what it guarantees to the others, which of its steps are permitted,
and what it is obliged to when it is about to take one. -/
structure Contract (σ A : Type) where
  rely : σ → σ → Prop
  guarantee : σ → σ → Prop
  permitted : A → σ → Prop
  obliged : A → σ → Prop
  preorder : IsPreorder σ rely

instance {σ A : Type} (c : Contract σ A) : IsPreorder σ c.rely := c.preorder

namespace Program

variable {σ ε A α β γ : Type}

def atomic (label : A) (x : EStateM ε σ α) : Program σ ε A α :=
  .step label (fun _ => true) x .done .fail

def bind : Program σ ε A α → (α → Program σ ε A β) → Program σ ε A β
  | .done a, f => f a
  | .fail e, _ => .fail e
  | .step label enabled x next thrown, f =>
    .step label enabled x (fun b => (next b).bind f) fun e => (thrown e).bind f

instance : Monad (Program σ ε A) where
  pure := .done
  bind := bind

/-- Go on with the handler where the program fails. -/
def catching (handler : ε → Program σ ε A α) : Program σ ε A α → Program σ ε A α
  | .done a => .done a
  | .fail e => handler e
  | .step label enabled x next thrown =>
    .step label enabled x (fun b => (next b).catching handler) fun e =>
      (thrown e).catching handler

/-- Take a last step, however the program ends. -/
def ensuring (last : Program σ ε A PUnit) : Program σ ε A α → Program σ ε A α
  | .done a => last.bind fun _ => .done a
  | .fail e => last.bind fun _ => .fail e
  | .step label enabled x next thrown =>
    .step label enabled x (fun b => ensuring last (next b)) fun e => ensuring last (thrown e)

/-- Foreign code whose calls are programs. -/
def ofTree {R B C : Type} (next : B → Program σ ε A R) : CallTree B R C → Program σ ε A C
  | .done c => .done c
  | .call b k => next b >>= fun r => ofTree next (k r)

def label? : Program σ ε A α → Option A
  | .step label _ _ _ _ => some label
  | _ => none

/-! ## Without other threads -/

/-- The program as it runs alone, when nothing has to be waited for. -/
def run : Program σ ε A α → EStateM ε σ α
  | .done a => pure a
  | .fail e => throw e
  | .step _ _ x next thrown => fun s =>
    match x s with
    | .ok b t => (next b).run t
    | .error e t => (thrown e).run t

theorem run_step (label : A) (enabled : σ → Bool) (x : EStateM ε σ β)
    (next : β → Program σ ε A α) (thrown : ε → Program σ ε A α) (s : σ) :
    (Program.step label enabled x next thrown).run s = match x s with
      | .ok b t => (next b).run t
      | .error e t => (thrown e).run t := by
  rw [run]

theorem run_done (a : α) (s : σ) : (done a : Program σ ε A α).run s = .ok a s := by
  rw [run]
  rfl

theorem run_fail (e : ε) (s : σ) : (fail e : Program σ ε A α).run s = .error e s := by
  rw [run]
  rfl

theorem run_atomic (label : A) (x : EStateM ε σ α) : (atomic label x).run = x := by
  funext s
  unfold atomic
  rw [run_step]
  cases x s with
  | ok a t => exact run_done a t
  | error e t => exact run_fail e t

theorem run_bind (p : Program σ ε A α) (f : α → Program σ ε A β) :
    (p >>= f).run = p.run >>= fun a => (f a).run := by
  funext s
  change (p.bind f).run s = EStateM.bind p.run (fun a => (f a).run) s
  induction p generalizing s with
  | done a => rw [EStateM.bind, run_done, bind]
  | fail e => rw [EStateM.bind, run_fail, bind, run_fail]
  | step label enabled x next thrown ihn iht =>
    rw [EStateM.bind, bind, run_step, run_step]
    cases x s with
    | ok b t => exact ihn b t
    | error e t => exact iht e t

theorem run_catching (handler : ε → Program σ ε A α) (p : Program σ ε A α) (s : σ) :
    (p.catching handler).run s = match p.run s with
      | .ok a t => .ok a t
      | .error e t => (handler e).run t := by
  induction p generalizing s with
  | done a => rw [catching, run_done]
  | fail e => rw [catching, run_fail]
  | step label enabled x next thrown ihn iht =>
    rw [catching, run_step, run_step]
    cases x s with
    | ok b t => exact ihn b t
    | error e t => exact iht e t

theorem run_ensuring (last : Program σ ε A PUnit) (p : Program σ ε A α) (s : σ) :
    (ensuring last p).run s = match p.run s with
      | .ok a t => (last >>= fun _ => done a).run t
      | .error e t => (last >>= fun _ => fail e).run t := by
  induction p generalizing s with
  | done a =>
    rw [ensuring, run_done]
    rfl
  | fail e =>
    rw [ensuring, run_fail]
    rfl
  | step label enabled x next thrown ihn iht =>
    rw [ensuring, run_step, run_step]
    cases x s with
    | ok b t => exact ihn b t
    | error e t => exact iht e t

/-! ## Among other threads -/

/-- Started here, and whatever the others do, the program meets its contract as long as its steps
are permitted, and ends in `Q`, or in `E` with a fault. -/
def Safe (c : Contract σ A) (Q : α → σ → Prop) (E : ε → σ → Prop) : Program σ ε A α → σ → Prop
  | .done a, s => ∀ t, c.rely s t → Q a t
  | .fail e, s => ∀ t, c.rely s t → E e t
  | .step label enabled x next thrown, s => ∀ t, c.rely s t → c.obliged label t ∧
      (enabled t → c.permitted label t → match x t with
        | .ok b u => c.guarantee t u ∧ (next b).Safe c Q E u
        | .error e u => c.guarantee t u ∧ (thrown e).Safe c Q E u)

section Safety
variable {c : Contract σ A} {Q : α → σ → Prop} {E : ε → σ → Prop} {s t : σ}

theorem Safe.obliged {p : Program σ ε A α} (h : p.Safe c Q E s) {label : A}
    (hl : p.label? = some label) : c.obliged label s := by
  cases p with
  | done a => cases hl
  | fail e => cases hl
  | step label enabled x next thrown =>
    cases hl
    exact (h s (refl_of c.rely s)).1

theorem Safe.rely {p : Program σ ε A α} (h : p.Safe c Q E s)
    (hr : c.rely s t) : p.Safe c Q E t := by
  cases p with
  | done a => exact fun u hu => h u (trans_of c.rely hr hu)
  | fail e => exact fun u hu => h u (trans_of c.rely hr hu)
  | step label enabled x next thrown => exact fun u hu => h u (trans_of c.rely hr hu)

/-- A step is safe with other continuations that are safe where its own are. -/
theorem Safe.step_mono {label : A} {enabled : σ → Bool} {γ : Type} {x : EStateM ε σ γ}
    {next : γ → Program σ ε A α} {thrown : ε → Program σ ε A α} {next' : γ → Program σ ε A β}
    {thrown' : ε → Program σ ε A β} {Q' : β → σ → Prop} {E' : ε → σ → Prop}
    (h : (step label enabled x next thrown).Safe c Q E s)
    (hnext : ∀ b t, (next b).Safe c Q E t → (next' b).Safe c Q' E' t)
    (hthrown : ∀ e t, (thrown e).Safe c Q E t → (thrown' e).Safe c Q' E' t) :
    (step label enabled x next' thrown').Safe c Q' E' s := by
  intro t ht
  obtain ⟨hobliged, hrun⟩ := h t ht
  refine ⟨hobliged, fun henabled hpermitted => ?_⟩
  have := hrun henabled hpermitted
  cases hx : x t with
  | ok b u =>
    rw [hx] at this
    exact ⟨this.1, hnext b u this.2⟩
  | error e u =>
    rw [hx] at this
    exact ⟨this.1, hthrown e u this.2⟩

/-- The rule that the rules for composed programs come from: what comes after `p` is safe from
where `p` ends. -/
theorem Safe.after {p : Program σ ε A α} {Q' : β → σ → Prop} {E' : ε → σ → Prop}
    {q : Program σ ε A α → Program σ ε A β} (h : p.Safe c Q E s)
    (hstep : ∀ label enabled {γ : Type} (x : EStateM ε σ γ) next thrown,
      q (.step label enabled x next thrown) =
        .step label enabled x (fun b => q (next b)) fun e => q (thrown e))
    (hdone : ∀ a t, Q a t → (q (.done a)).Safe c Q' E' t)
    (hfail : ∀ e t, E e t → (q (.fail e)).Safe c Q' E' t) : (q p).Safe c Q' E' s := by
  induction p generalizing s with
  | done a => exact hdone a s (h s (refl_of c.rely s))
  | fail e => exact hfail e s (h s (refl_of c.rely s))
  | step label enabled x next thrown ihn iht =>
    rw [hstep]
    exact Safe.step_mono h (fun b _ hb => ihn b hb) fun e _ he => iht e he

theorem Safe.weaken {p : Program σ ε A α} {Q' : α → σ → Prop} {E' : ε → σ → Prop}
    (h : p.Safe c Q E s) (hq : ∀ a t, Q a t → Q' a t) (he : ∀ e t, E e t → E' e t) :
    p.Safe c Q' E' s := by
  induction p generalizing s with
  | done a => exact fun t ht => hq a t (h t ht)
  | fail e => exact fun t ht => he e t (h t ht)
  | step label enabled x next thrown ihn iht =>
    exact Safe.step_mono h (fun b _ hb => ihn b hb) fun e _ hthrown => iht e hthrown

theorem Safe.bind {p : Program σ ε A α} {f : α → Program σ ε A β} {Q' : β → σ → Prop}
    {E' : ε → σ → Prop} (h : p.Safe c Q E s) (hf : ∀ a t, Q a t → (f a).Safe c Q' E' t)
    (he : ∀ e t, E e t → (Program.fail e : Program σ ε A β).Safe c Q' E' t) :
    (p >>= f).Safe c Q' E' s :=
  Safe.after (q := fun p => p.bind f) h (fun _ _ _ _ _ _ => rfl) hf he

theorem Safe.catching {p : Program σ ε A α} {handler : ε → Program σ ε A α} {E' : ε → σ → Prop}
    (h : p.Safe c Q E s) (hd : ∀ a t, Q a t → (Program.done a : Program σ ε A α).Safe c Q E' t)
    (hc : ∀ e t, E e t → (handler e).Safe c Q E' t) : (p.catching handler).Safe c Q E' s :=
  Safe.after (q := Program.catching handler) h (fun _ _ _ _ _ _ => rfl) hd hc

theorem Safe.ensuring {p : Program σ ε A α} {last : Program σ ε A PUnit} {Q' : α → σ → Prop}
    {E' : ε → σ → Prop} (h : p.Safe c Q E s)
    (hd : ∀ a t, Q a t → (last >>= fun _ => done a).Safe c Q' E' t)
    (he : ∀ e t, E e t → (last >>= fun _ => fail e).Safe c Q' E' t) :
    (ensuring last p).Safe c Q' E' s :=
  Safe.after (q := Program.ensuring last) h (fun _ _ _ _ _ _ => rfl) hd he

end Safety

/-- The others cannot make the assertion fail. -/
def Stable (c : Contract σ A) (I : σ → Prop) : Prop := ∀ s t, I s → c.rely s t → I t

def EndsIn (P : σ → Prop) : EStateM.Result ε σ α → Prop
  | .ok _ t => P t
  | .error _ t => P t

/-- Started in `I`, the program ends in `I`, with or without a fault. -/
def Keeps (c : Contract σ A) (I : σ → Prop) (p : Program σ ε A α) : Prop :=
  ∀ s, I s → p.Safe c (fun _ => I) (fun _ => I) s

section Keeping
variable {c : Contract σ A} {I : σ → Prop} (hI : Stable c I)
include hI

theorem safe_done (a : α) {s : σ} (h : I s) {E : ε → σ → Prop} :
    (done a : Program σ ε A α).Safe c (fun _ => I) E s := fun t ht => hI s t h ht

theorem safe_fail (e : ε) {s : σ} (h : I s) {Q : α → σ → Prop} :
    (fail e : Program σ ε A α).Safe c Q (fun _ => I) s := fun t ht => hI s t h ht

theorem keeps_done (a : α) : Keeps c I (done a : Program σ ε A α) := fun _ h => safe_done hI a h

theorem safe_atomic {J : σ → Prop} (hJ : Stable c J) {label : A} {x : EStateM ε σ α}
    (hobliged : ∀ s, I s → c.obliged label s)
    (hx : ∀ s, I s → c.permitted label s → EndsIn (fun t => c.guarantee s t ∧ J t) (x s)) {s : σ}
    (hs : I s) :
    (atomic label x).Safe c (fun _ => J) (fun _ => J) s := by
  intro t ht
  have hIt := hI s t hs ht
  refine ⟨hobliged t hIt, fun _ hpermitted => ?_⟩
  have := hx t hIt hpermitted
  cases he : x t with
  | ok b u =>
    rw [he] at this
    exact ⟨this.1, safe_done hJ b this.2⟩
  | error e u =>
    rw [he] at this
    exact ⟨this.1, safe_fail hJ e this.2⟩

theorem Keeps.bind {p : Program σ ε A α} {f : α → Program σ ε A β}
    (h : Keeps c I p) (hf : ∀ a, Keeps c I (f a)) : Keeps c I (p >>= f) := fun s hs =>
  (h s hs).bind (fun a t ht => hf a t ht) fun e _ ht => safe_fail hI e ht

end Keeping
end Program

/-! ## Threads -/

/-- The shared state, and what is left of the call that each thread is in. -/
structure Config (T σ ε A α : Type) where
  shared : σ
  program : T → Program σ ε A α

/-- A thread makes a call, or takes the next step of its call. -/
inductive Move (T C : Type)
  | start (t : T) (call : C)
  | act (t : T)

namespace Config

variable {T C σ ε A α : Type} [DecidableEq T]

def act (s : Config T σ ε A α) (t : T) : Option (Config T σ ε A α) :=
  match s.program t with
  | .step _ enabled x next thrown =>
    if enabled s.shared then
      match x s.shared with
      | .ok b u => some ⟨u, Function.update s.program t (next b)⟩
      | .error e u => some ⟨u, Function.update s.program t (thrown e)⟩
    else none
  | _ => none

/-- Only a thread whose last call has returned makes another one. -/
def start (calls : T → C → Program σ ε A α) (s : Config T σ ε A α) (t : T) (call : C) :
    Option (Config T σ ε A α) :=
  match s.program t with
  | .done _ => some { s with program := Function.update s.program t (calls t call) }
  | _ => none

def move (calls : T → C → Program σ ε A α) (s : Config T σ ε A α) :
    Move T C → Option (Config T σ ε A α)
  | .start t call => s.start calls t call
  | .act t => s.act t

end Config

section Soundness
variable {T C σ ε A α : Type} [DecidableEq T] {calls : T → C → Program σ ε A α}

def Step (calls : T → C → Program σ ε A α) (s : Config T σ ε A α) (m : Move T C)
    (s' : Config T σ ε A α) : Prop :=
  s.move calls m = some s'

/-- The contract of the thread permits the step. -/
def Permitted (c : T → Contract σ A) (x : Transition (Config T σ ε A α) (Move T C)) : Prop :=
  match x.label with
  | .start _ _ => True
  | .act t => ∀ label, (x.before.program t).label? = some label → (c t).permitted label x.before.shared

/-- Moves in a given order, each of which must pass a test. -/
def Config.follow (calls : T → C → Program σ ε A α) (test : Config T σ ε A α → Move T C → Bool)
    (s : Config T σ ε A α) : List (Move T C) → Option (Config T σ ε A α)
  | [] => some s
  | m :: ms => if test s m then (s.move calls m).bind fun s' => s'.follow calls test ms else none

theorem exists_run {test : Config T σ ε A α → Move T C → Bool} {moves : List (Move T C)}
    {start s s' : Config T σ ε A α} {trace : List (Transition (Config T σ ε A α) (Move T C))}
    (hrun : Run (Step calls) start trace s) (htest : ∀ x ∈ trace, test x.before x.label)
    (h : s.follow calls test moves = some s') : ∃ trace, Run (Step calls) start trace s' ∧
      ∀ x ∈ trace, test x.before x.label := by
  induction moves generalizing s trace with
  | nil =>
    cases h
    exact ⟨trace, hrun, htest⟩
  | cons m ms ih =>
    rw [Config.follow] at h
    split_ifs at h with hm
    obtain ⟨s₁, hstep, h⟩ := Option.bind_eq_some_iff.mp h
    refine ih (hrun.snoc hstep) (fun x hx => ?_) h
    rcases List.mem_append.mp hx with hx | hx
    · exact htest x hx
    · rw [List.mem_singleton] at hx
      subst hx
      exact hm

variable {c : T → Contract σ A} {Q : T → σ → Prop} {E : T → ε → σ → Prop}

/-- Every thread is safe where it is. -/
def AllSafe (c : T → Contract σ A) (Q : T → σ → Prop) (E : T → ε → σ → Prop)
    (s : Config T σ ε A α) : Prop :=
  ∀ t, (s.program t).Safe (c t) (fun _ => Q t) (E t) s.shared

theorem AllSafe.update {s : Config T σ ε A α} (h : AllSafe c Q E s)
    (hothers : ∀ t t' a b, t ≠ t' → (c t).guarantee a b → (c t').rely a b) {t : T} {u : σ}
    {p : Program σ ε A α} (hguarantee : (c t).guarantee s.shared u)
    (hp : p.Safe (c t) (fun _ => Q t) (E t) u) :
    AllSafe c Q E ⟨u, Function.update s.program t p⟩ := by
  intro t'
  by_cases ht : t' = t
  · subst ht
    simpa using hp
  · simp only [Function.update_of_ne ht]
    exact (h t').rely (hothers t t' _ _ (Ne.symm ht) hguarantee)

theorem AllSafe.act {s s' : Config T σ ε A α} (h : AllSafe c Q E s)
    (hothers : ∀ t t' a b, t ≠ t' → (c t).guarantee a b → (c t').rely a b) {t : T}
    (hpermitted : ∀ label, (s.program t).label? = some label → (c t).permitted label s.shared)
    (hact : s.act t = some s') : AllSafe c Q E s' := by
  have hsafe := h t
  unfold Config.act at hact
  cases hp : s.program t with
  | done a => simp [hp] at hact
  | fail e => simp [hp] at hact
  | step label enabled x next thrown =>
    rw [hp] at hact hsafe hpermitted
    dsimp only at hact
    split_ifs at hact with henabled
    have hnext := (hsafe s.shared (refl_of (c t).rely _)).2 henabled (hpermitted label rfl)
    cases hx : x s.shared with
    | ok b u =>
      rw [hx] at hact hnext
      cases hact
      exact h.update hothers hnext.1 hnext.2
    | error e u =>
      rw [hx] at hact hnext
      cases hact
      exact h.update hothers hnext.1 hnext.2

theorem AllSafe.start {s s' : Config T σ ε A α} (h : AllSafe c Q E s)
    (hcalls : ∀ t call u, Q t u → (calls t call).Safe (c t) (fun _ => Q t) (E t) u) {t : T} {call : C}
    (hstart : s.start calls t call = some s') : AllSafe c Q E s' := by
  have hsafe := h t
  unfold Config.start at hstart
  cases hp : s.program t with
  | step label enabled x next thrown => simp [hp] at hstart
  | fail e => simp [hp] at hstart
  | done a =>
    rw [hp] at hstart hsafe
    cases hstart
    intro t'
    by_cases ht : t' = t
    · subst ht
      simpa using hcalls t' call s.shared (hsafe s.shared (refl_of (c t').rely _))
    · simpa only [Function.update_of_ne ht] using h t'

/-- If the guarantee of each thread is what the others rely on, then in a run of permitted steps
every thread stays safe. -/
theorem AllSafe.run {start s : Config T σ ε A α} {trace : List (Transition (Config T σ ε A α) (Move T C))}
    (hothers : ∀ t t' a b, t ≠ t' → (c t).guarantee a b → (c t').rely a b)
    (hcalls : ∀ t call u, Q t u → (calls t call).Safe (c t) (fun _ => Q t) (E t) u)
    (hrun : Run (Step calls) start trace s) (hstart : AllSafe c Q E start)
    (hpermitted : ∀ x ∈ trace, Permitted c x) : AllSafe c Q E s := by
  refine hrun.invariant_of_steps hstart hpermitted fun s m s' h hm hstep => ?_
  cases m with
  | start t call => exact h.start hcalls hstep
  | act t => exact h.act hothers hm hstep

end Soundness
end OpenXRSdk.RelyGuarantee
