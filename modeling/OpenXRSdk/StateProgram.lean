import Mathlib

/-!
# Programs over a state

A program takes a state and stops with a value or with a fault, in a new state.
Two kinds of statement are made about one: a triple speaks about the value and
about both states, and a frame relation about the two states alone. A call tree
is the behaviour of foreign code that is handed a function to call.
-/
namespace OpenXRSdk.StateProgram

variable {ε σ α β A R B : Type}

theorem bind_eq_ok {x : EStateM ε σ α} {f : α → EStateM ε σ β} {s u : σ} {b : β} :
    (x >>= f) s = .ok b u ↔ ∃ a t, x s = .ok a t ∧ f a t = .ok b u := by
  change (match x s with | .ok a t => f a t | .error e t => .error e t) = _ ↔ _
  cases x s with
  | ok a t =>
    constructor
    · intro h; exact ⟨a, t, rfl, h⟩
    · rintro ⟨_, _, he, h⟩; cases he; exact h
  | error e t => simp

theorem bind_eq_error {x : EStateM ε σ α} {f : α → EStateM ε σ β} {s u : σ} {e : ε} :
    (x >>= f) s = .error e u ↔ x s = .error e u ∨ ∃ a t, x s = .ok a t ∧ f a t = .error e u := by
  change (match x s with | .ok a t => f a t | .error e t => .error e t) = _ ↔ _
  cases x s with
  | ok a t =>
    constructor
    · intro h; exact Or.inr ⟨a, t, rfl, h⟩
    · rintro (h | ⟨_, _, he, h⟩)
      · cases h
      · cases he; exact h
  | error e t => simp

theorem pure_eq_ok {a b : α} {s t : σ} :
    (pure a : EStateM ε σ α) s = .ok b t ↔ a = b ∧ s = t := by
  change EStateM.Result.ok a s = .ok b t ↔ _
  simp

theorem get_eq_ok {s t u : σ} : (get : EStateM ε σ σ) s = .ok t u ↔ s = t ∧ s = u := by
  change EStateM.Result.ok s s = .ok t u ↔ _
  simp

theorem modify_eq_ok {g : σ → σ} {s t : σ} {u : PUnit} :
    (modify g : EStateM ε σ PUnit) s = .ok u t ↔ g s = t := by
  change EStateM.Result.ok PUnit.unit (g s) = .ok u t ↔ _
  simp

theorem throw_eq_ok {e : ε} {a : α} {s t : σ} :
    (throw e : EStateM ε σ α) s = .ok a t ↔ False := by
  change EStateM.Result.error e s = .ok a t ↔ False
  simp

theorem bind_of_ok {x : EStateM ε σ α} {f : α → EStateM ε σ β} {s t : σ} {a : α}
    (h : x s = .ok a t) : (x >>= f) s = f a t := by
  change (match x s with | .ok a t => f a t | .error e t => .error e t) = _
  rw [h]

theorem bind_of_error {x : EStateM ε σ α} {f : α → EStateM ε σ β} {s t : σ} {e : ε}
    (h : x s = .error e t) : (x >>= f) s = .error e t := by
  change (match x s with | .ok a t => f a t | .error e t => .error e t) = _
  rw [h]

/-- Programs that begin the same way need to agree only on how that beginning ends. -/
theorem bind_congr_of_ok {x : EStateM ε σ α} {f g : α → EStateM ε σ β} {s : σ}
    (h : ∀ a t, x s = .ok a t → f a t = g a t) : (x >>= f) s = (x >>= g) s := by
  change (match x s with | .ok a t => f a t | .error e t => .error e t) =
    (match x s with | .ok a t => g a t | .error e t => .error e t)
  cases hx : x s with
  | ok a t => exact h a t hx
  | error e t => rfl

/-- Only how the beginning ends matters. -/
theorem bind_congr_left {x y : EStateM ε σ α} {f : α → EStateM ε σ β} {s : σ} (h : x s = y s) :
    (x >>= f) s = (y >>= f) s := by
  change (match x s with | .ok a t => f a t | .error e t => .error e t) =
    (match y s with | .ok a t => f a t | .error e t => .error e t)
  rw [h]

theorem except_bind_eq_ok {x : Except ε α} {f : α → Except ε β} {b : β} :
    x >>= f = .ok b ↔ ∃ a, x = .ok a ∧ f a = .ok b := by
  cases x with
  | error e => exact ⟨fun h => (by cases h), fun ⟨_, h, _⟩ => (by cases h)⟩
  | ok a => exact ⟨fun h => ⟨a, rfl, h⟩, fun ⟨_, h, h'⟩ => (by cases h; exact h')⟩

/-- Started in `P`, the program stops with a value in `Q` or with a fault in `E`. -/
def Triple (P : σ → Prop) (x : EStateM ε σ α) (Q : α → σ → Prop) (E : ε → σ → Prop) : Prop :=
  ∀ s, P s → match x s with
    | .ok a t => Q a t
    | .error e t => E e t

section Triples
variable {P P' : σ → Prop} {Q Q' : α → σ → Prop} {E E' : ε → σ → Prop}

theorem Triple.of_ok {x : EStateM ε σ α} (h : Triple P x Q E) {s t : σ} {a : α}
    (hp : P s) (hx : x s = .ok a t) : Q a t := by
  have := h s hp
  rwa [hx] at this

/-- A program that stops with no fault stops with a value. -/
theorem Triple.returns {x : EStateM ε σ α} (h : Triple P x Q fun _ _ => False) {s : σ} (hp : P s) :
    ∃ a t, x s = .ok a t ∧ Q a t := by
  have := h s hp
  cases hx : x s with
  | ok a t =>
    rw [hx] at this
    exact ⟨a, t, rfl, this⟩
  | error e t =>
    rw [hx] at this
    exact this.elim

theorem Triple.pure {a : α} (h : ∀ s, P s → Q a s) :
    Triple P (pure a : EStateM ε σ α) Q E := fun s hp => h s hp

theorem Triple.modify {g : σ → σ} {Q : PUnit → σ → Prop} (h : ∀ s, P s → Q ⟨⟩ (g s)) :
    Triple P (modify g : EStateM ε σ PUnit) Q E := fun s hp => h s hp

theorem Triple.get : Triple P (get : EStateM ε σ σ) (fun _ => P) E := fun _ hp => hp

theorem Triple.ite {c : Prop} [Decidable c] {x y : EStateM ε σ α} (hx : Triple P x Q E)
    (hy : Triple P y Q E) : Triple P (if c then x else y) Q E := by
  split_ifs
  · exact hx
  · exact hy

/-- What is known besides the state can be used. -/
theorem Triple.known {c : Prop} {x : EStateM ε σ α} (h : c → Triple P x Q E) :
    Triple (fun s => P s ∧ c) x Q E := fun s hs => h hs.2 s hs.1

theorem Triple.bind {x : EStateM ε σ α} {f : α → EStateM ε σ β} {Q' : β → σ → Prop}
    (hx : Triple P x Q E) (hf : ∀ a, Triple (Q a) (f a) Q' E) : Triple P (x >>= f) Q' E := by
  intro s hp
  have h := hx s hp
  change match (match x s with | .ok a t => f a t | .error e t => .error e t) with
    | .ok a t => Q' a t
    | .error e t => E e t
  cases he : x s with
  | ok a t =>
    rw [he] at h
    exact hf a t h
  | error e t =>
    rw [he] at h
    exact h

theorem Triple.conseq {x : EStateM ε σ α} (h : Triple P x Q E) (hp : ∀ s, P' s → P s)
    (hq : ∀ a s, Q a s → Q' a s) (he : ∀ e s, E e s → E' e s) : Triple P' x Q' E' := by
  intro s hs
  have := h s (hp s hs)
  cases hx : x s with
  | ok a t => rw [hx] at this; exact hq a t this
  | error e t => rw [hx] at this; exact he e t this

theorem Triple.strengthen {x : EStateM ε σ α} (h : Triple P x Q E) (hp : ∀ s, P' s → P s) :
    Triple P' x Q E := h.conseq hp (fun _ _ hq => hq) (fun _ _ he => he)

end Triples

/-- However the program stops, the state it stops in is related to the one it started in,
and it stops with no fault outside `E`. -/
def Within (r : σ → σ → Prop) (E : ε → Prop) (x : EStateM ε σ α) : Prop :=
  ∀ s, match x s with
    | .ok _ t => r s t
    | .error e t => E e ∧ r s t

section Frames
variable {r : σ → σ → Prop} {E E' : ε → Prop}

theorem Within.of_ok {x : EStateM ε σ α} (h : Within r E x) {s t : σ} {a : α}
    (hx : x s = .ok a t) : r s t := by
  have := h s
  rwa [hx] at this

theorem Within.of_error {x : EStateM ε σ α} (h : Within r E x) {s t : σ} {e : ε}
    (hx : x s = .error e t) : E e ∧ r s t := by
  have := h s
  rwa [hx] at this

theorem Within.mono {r' : σ → σ → Prop} {x : EStateM ε σ α} (h : Within r E x)
    (hr : ∀ s t, r s t → r' s t) (he : ∀ e, E e → E' e) : Within r' E' x := by
  intro s
  have := h s
  cases hx : x s with
  | ok a t => rw [hx] at this; exact hr s t this
  | error e t => rw [hx] at this; exact ⟨he e this.1, hr s t this.2⟩

theorem Within.modify {g : σ → σ} (h : ∀ s, r s (g s)) :
    Within r E (modify g : EStateM ε σ PUnit) := h

theorem Within.ite {c : Prop} [Decidable c] {x y : EStateM ε σ α} (hx : Within r E x)
    (hy : Within r E y) : Within r E (if c then x else y) := by
  split_ifs
  · exact hx
  · exact hy

variable [IsPreorder σ r]

theorem Within.pure (a : α) : Within r E (pure a : EStateM ε σ α) := fun s => refl_of r s

theorem Within.throw {e : ε} (h : E e) : Within r E (throw e : EStateM ε σ α) :=
  fun s => ⟨h, refl_of r s⟩

theorem Within.get : Within r E (get : EStateM ε σ σ) := fun s => refl_of r s

theorem Within.bind {x : EStateM ε σ α} {f : α → EStateM ε σ β} (hx : Within r E x)
    (hf : ∀ a, Within r E (f a)) : Within r E (x >>= f) := by
  intro s
  have h := hx s
  change match (match x s with | .ok a t => f a t | .error e t => .error e t) with
    | .ok _ t => r s t
    | .error e t => E e ∧ r s t
  cases he : x s with
  | ok a t =>
    rw [he] at h
    have hk := hf a t
    cases hb : f a t with
    | ok b u => simp only [hb] at hk ⊢; exact trans_of r h hk
    | error e u => simp only [hb] at hk ⊢; exact ⟨hk.1, trans_of r h hk.2⟩
  | error e t =>
    rw [he] at h
    exact h

theorem Within.triple {x : EStateM ε σ α} (h : Within r E x) (s : σ) :
    Triple (r s) x (fun _ t => r s t) (fun e t => E e ∧ r s t) := by
  intro t ht
  have := h t
  cases hx : x t with
  | ok a u => rw [hx] at this; exact trans_of r ht this
  | error e u => rw [hx] at this; exact ⟨this.1, trans_of r ht this.2⟩

theorem Within.triple_start {x : EStateM ε σ α} (h : Within r E x) (s : σ) :
    Triple (· = s) x (fun _ t => r s t) (fun e t => E e ∧ r s t) :=
  (h.triple s).strengthen fun _ ht => ht ▸ refl_of r s

theorem Within.forM {x : A → EStateM ε σ PUnit} (h : ∀ a, Within r E (x a)) (as : List A) :
    Within r E (as.forM x) := by
  induction as with
  | nil => exact Within.pure _
  | cons a as ih => exact (h a).bind fun _ => ih

end Frames

/-- The state is unchanged as far as `f` sees it. -/
def SameOn (f : σ → β) (s t : σ) : Prop := f t = f s

instance (f : σ → β) : IsPreorder σ (SameOn f) where
  refl _ := rfl
  trans _ _ _ h g := Eq.trans g h

def Anything (_ _ : σ) : Prop := True

instance : IsPreorder σ Anything where
  refl _ := trivial
  trans _ _ _ _ _ := trivial

theorem Within.forget {r : σ → σ → Prop} {E : ε → Prop} {x : EStateM ε σ α} (h : Within r E x) :
    Within Anything E x := h.mono (fun _ _ _ => trivial) fun _ he => he

/-- What foreign code does with a function it is handed: it calls it some number of
times, each call chosen from the earlier answers, and then returns. -/
inductive CallTree (A R B : Type)
  | done (result : B)
  | call (argument : A) (next : R → CallTree A R B)

namespace CallTree

def run (next : A → EStateM ε σ R) : CallTree A R B → EStateM ε σ B
  | .done b => pure b
  | .call a k => next a >>= fun r => (k r).run next

/-- Code that hands its argument down and the answer up. -/
def forward (a : A) : CallTree A R R := .call a .done

@[simp] theorem run_forward (next : A → EStateM ε σ R) (a : A) :
    (forward a).run next = next a := by
  funext s
  change (match next a s with | .ok b t => .ok b t | .error e t => .error e t) = next a s
  cases next a s <;> rfl

/-- Every call that the code may make meets `p`. -/
def Calls (p : A → Prop) : CallTree A R B → Prop
  | .done _ => True
  | .call a k => p a ∧ ∀ r, (k r).Calls p

theorem run_within {p : A → Prop} {r : σ → σ → Prop} {E : ε → Prop} [IsPreorder σ r]
    {next : A → EStateM ε σ R} (h : ∀ a, p a → Within r E (next a)) (t : CallTree A R B)
    (ht : t.Calls p) : Within r E (t.run next) := by
  induction t with
  | done b => exact Within.pure b
  | call a k ih => exact (h a ht.1).bind fun b => ih b (ht.2 b)

theorem Calls.mono {p q : A → Prop} (h : ∀ a, p a → q a) {t : CallTree A R B} (ht : t.Calls p) :
    t.Calls q := by
  induction t with
  | done b => trivial
  | call a k ih => exact ⟨h a ht.1, fun r => ih r (ht.2 r)⟩

/-- What every call that the code makes preserves, the code preserves. -/
theorem run_triple {p : A → Prop} {I : σ → Prop} {E : ε → σ → Prop} {next : A → EStateM ε σ R}
    (h : ∀ a, p a → Triple I (next a) (fun _ => I) E) (t : CallTree A R B) (ht : t.Calls p) :
    Triple I (t.run next) (fun _ => I) E := by
  induction t with
  | done b => exact Triple.pure fun _ hs => hs
  | call a k ih => exact (h a ht.1).bind fun b => ih b (ht.2 b)

theorem calls_of_forall {p : A → Prop} (h : ∀ a, p a) (t : CallTree A R B) : t.Calls p := by
  induction t with
  | done b => trivial
  | call a k ih => exact ⟨h a, ih⟩

theorem calls_forward {p : A → Prop} {a : A} (h : p a) : (forward a : CallTree A R R).Calls p :=
  ⟨h, fun _ => trivial⟩

/-- What the code may give back when its calls are answered so. -/
inductive Ends {τ : Type} (answers : A → τ → R → τ → Prop) : CallTree A R B → τ → B → τ → Prop
  | done (b : B) (v : τ) : Ends answers (.done b) v b v
  | call {a : A} {k : R → CallTree A R B} {v u w : τ} {r : R} {b : B} (answered : answers a v r u)
      (rest : Ends answers (k r) u b w) : Ends answers (.call a k) v b w

end CallTree

/-- As far as `view` shows the state, the program returns just what the relation allows. -/
def Realizes {τ : Type} (view : σ → τ → Prop) (rel : τ → α → τ → Prop) (x : EStateM ε σ α) : Prop :=
  ∀ s v, view s v → (∀ a t, x s = .ok a t → ∃ u, view t u ∧ rel v a u) ∧
    ∀ a u, rel v a u → ∃ t, x s = .ok a t ∧ view t u

section Views
variable {τ : Type} {view : σ → τ → Prop} {rel rel' : τ → α → τ → Prop}

theorem Realizes.congr {x : EStateM ε σ α} (h : Realizes view rel x)
    (hrel : ∀ v a u, rel v a u ↔ rel' v a u) : Realizes view rel' x := by
  have heq : rel = rel' := by
    funext v a u
    exact propext (hrel v a u)
  exact heq ▸ h

theorem Realizes.of_run {x : EStateM ε σ α} (a : τ → α) (g : τ → τ)
    (h : ∀ s v, view s v → ∃ t, x s = .ok (a v) t ∧ view t (g v)) :
    Realizes view (fun v b u => b = a v ∧ u = g v) x := by
  intro s v hv
  obtain ⟨t, hx, ht⟩ := h s v hv
  constructor
  · intro b t' hrun
    cases hx.symm.trans hrun
    exact ⟨g v, ht, rfl, rfl⟩
  · rintro b u ⟨rfl, rfl⟩
    exact ⟨t, hx, ht⟩

theorem Realizes.pure (a : α) :
    Realizes view (fun v b u => b = a ∧ u = v) (pure a : EStateM ε σ α) :=
  .of_run (fun _ => a) id fun s _ hv => ⟨s, rfl, hv⟩

theorem Realizes.throw (e : ε) : Realizes view (fun _ _ _ => False) (throw e : EStateM ε σ α) :=
  fun _ _ _ => ⟨fun _ _ h => (nomatch h), fun _ _ h => (nomatch h)⟩

theorem Realizes.bind {x : EStateM ε σ α} {f : α → EStateM ε σ β} {rel' : α → τ → β → τ → Prop}
    (hx : Realizes view rel x) (hf : ∀ a, Realizes view (rel' a) (f a)) :
    Realizes view (fun v b u => ∃ a w, rel v a w ∧ rel' a w b u) (x >>= f) := by
  intro s v hv
  constructor
  · intro b t hrun
    obtain ⟨a, s', hxs, hfs⟩ := bind_eq_ok.mp hrun
    obtain ⟨w, hw, hrel⟩ := (hx s v hv).1 a s' hxs
    obtain ⟨u, hu, hrel'⟩ := (hf a s' w hw).1 b t hfs
    exact ⟨u, hu, a, w, hrel, hrel'⟩
  · rintro b u ⟨a, w, hrel, hrel'⟩
    obtain ⟨s', hxs, hw⟩ := (hx s v hv).2 a w hrel
    obtain ⟨t, hfs, hu⟩ := (hf a s' w hw).2 b u hrel'
    exact ⟨t, bind_eq_ok.mpr ⟨a, s', hxs, hfs⟩, hu⟩

theorem Realizes.ite {c : Prop} [Decidable c] {x y : EStateM ε σ α} (hx : Realizes view rel x)
    (hy : Realizes view rel' y) :
    Realizes view (fun v a u => if c then rel v a u else rel' v a u) (if c then x else y) := by
  by_cases h : c
  · simpa only [if_pos h] using hx
  · simpa only [if_neg h] using hy

theorem CallTree.run_realizes {answers : A → τ → R → τ → Prop} {next : A → EStateM ε σ R}
    (h : ∀ a, Realizes view (answers a) (next a)) (t : CallTree A R B) :
    Realizes view (t.Ends answers) (t.run next) := by
  induction t with
  | done b =>
    refine (Realizes.pure b).congr fun v b' u => ⟨?_, fun hends => ?_⟩
    · rintro ⟨rfl, rfl⟩
      exact .done _ _
    · cases hends
      exact ⟨rfl, rfl⟩
  | call a k ih =>
    refine ((h a).bind ih).congr fun v b u => ⟨?_, fun hends => ?_⟩
    · rintro ⟨r, w, hanswered, hrest⟩
      exact .call hanswered hrest
    · cases hends with
      | call answered rest => exact ⟨_, _, answered, rest⟩

end Views

end OpenXRSdk.StateProgram
