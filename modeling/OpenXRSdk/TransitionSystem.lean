import Mathlib

/-!
# Runs of a transition system

A run keeps the list of its steps, so that a statement can speak about every state
reached and about every step taken on the way there.
-/
namespace OpenXRSdk.TransitionSystem

variable {σ ℓ : Type*}

structure Transition (σ ℓ : Type*) where
  before : σ
  label : ℓ
  after : σ

/-- The steps taken from `start`, in order, and the state they end in. -/
inductive Run (step : σ → ℓ → σ → Prop) (start : σ) : List (Transition σ ℓ) → σ → Prop
  | nil : Run step start [] start
  | snoc {trace : List (Transition σ ℓ)} {s t : σ} {l : ℓ} (prior : Run step start trace s)
      (last : step s l t) : Run step start (trace ++ [⟨s, l, t⟩]) t

variable {step : σ → ℓ → σ → Prop} {start s t : σ} {trace : List (Transition σ ℓ)}

/-- What holds at the start and is kept by every step holds wherever a run leads. -/
theorem Run.invariant {I : σ → Prop} (h : Run step start trace s) (hstart : I start)
    (hstep : ∀ s l t, I s → step s l t → I t) : I s := by
  induction h with
  | nil => exact hstart
  | snoc _ hs ih => exact hstep _ _ _ ih hs

/-- An invariant may use a condition that all the steps of the run meet. -/
theorem Run.invariant_of_steps {I : σ → Prop} {G : Transition σ ℓ → Prop}
    (h : Run step start trace s) (hstart : I start) (hG : ∀ x ∈ trace, G x)
    (hstep : ∀ s l t, I s → G ⟨s, l, t⟩ → step s l t → I t) : I s := by
  revert hG
  induction h with
  | nil => intro _; exact hstart
  | @snoc trace s t l hr hs ih =>
    intro hG
    refine hstep s l t (ih fun x hx => hG x ?_) (hG _ ?_) hs
    · exact List.mem_append_left _ hx
    · simp

/-- A run can be cut at any of its steps. -/
theorem Run.split (h : Run step start trace s) {pre post : List (Transition σ ℓ)} {x : Transition σ ℓ}
    (htrace : trace = pre ++ x :: post) : Run step start pre x.before ∧
      step x.before x.label x.after ∧ Run step x.after post s := by
  induction h generalizing post with
  | nil => simp at htrace
  | @snoc trace s t l prior last ih =>
    cases post using List.reverseRecOn with
    | nil =>
      obtain ⟨rfl, hx⟩ := List.append_inj' htrace rfl
      cases hx
      exact ⟨prior, last, .nil⟩
    | append_singleton post y =>
      rw [← List.cons_append, ← List.append_assoc] at htrace
      obtain ⟨rfl, hy⟩ := List.append_inj' htrace rfl
      cases hy
      obtain ⟨hpre, hx, hpost⟩ := ih rfl
      exact ⟨hpre, hx, hpost.snoc last⟩

theorem Run.append {trace' : List (Transition σ ℓ)} (h : Run step start trace s)
    (h' : Run step s trace' t) : Run step start (trace ++ trace') t := by
  induction h' with
  | nil => rwa [List.append_nil]
  | snoc _ last ih =>
    rw [← List.append_assoc]
    exact ih.snoc last

/-- A condition on every step, in view of the steps before it. -/
def EachStep (P : List (Transition σ ℓ) → Transition σ ℓ → Prop) (trace : List (Transition σ ℓ)) :
    Prop :=
  ∀ earlier x later, trace = earlier ++ x :: later → P earlier x

theorem eachStep_nil {P : List (Transition σ ℓ) → Transition σ ℓ → Prop} : EachStep P [] := by
  intro earlier x later h
  simp at h

theorem EachStep.snoc {P : List (Transition σ ℓ) → Transition σ ℓ → Prop} (h : EachStep P trace)
    {x : Transition σ ℓ} (hx : P trace x) : EachStep P (trace ++ [x]) := by
  intro earlier y later htrace
  cases later using List.reverseRecOn with
  | nil =>
    obtain ⟨rfl, hy⟩ := List.append_inj' htrace rfl
    cases hy
    exact hx
  | append_singleton later z =>
    rw [← List.cons_append, ← List.append_assoc] at htrace
    exact h earlier y later (List.append_inj' htrace rfl).1

/-- What does not hold at the start, and holds in the end, came about in some step. -/
theorem Run.exists_change {P : σ → Prop} (h : Run step start trace s) (hstart : ¬ P start)
    (hs : P s) : ∃ x ∈ trace, ¬ P x.before ∧ P x.after := by
  induction h with
  | nil => exact absurd hs hstart
  | @snoc trace s t l prior last ih =>
    by_cases hp : P s
    · obtain ⟨x, hx, hchange⟩ := ih hp
      exact ⟨x, List.mem_append_left _ hx, hchange⟩
    · exact ⟨⟨s, l, t⟩, by simp, hp, hs⟩

end OpenXRSdk.TransitionSystem
