import Mathlib.Data.PFun

/-!
# Loops without a bound

A loop that goes on until its body leaves it is a partial function of the state that it is
entered in. That it ends is a theorem about the body: each turn leaves the loop, or keeps
the invariant and decreases a measure.
-/
namespace OpenXRSdk.UnboundedLoops

variable {σ ρ : Type} {body : σ → Part (ρ ⊕ σ)} {s t : σ} {r : ρ}

/-- `for (;;)`: the body leaves the loop with a result, or goes on in a new state. -/
def forever (body : σ → Part (ρ ⊕ σ)) : σ → Part ρ := PFun.fix body

theorem forever_of_exit (h : body s = Part.some (.inl r)) : forever body s = Part.some r :=
  Part.eq_some_iff.mpr (PFun.fix_stop (Part.eq_some_iff.mp h))

theorem forever_of_next (h : body s = Part.some (.inr t)) : forever body s = forever body t :=
  PFun.fix_fwd_eq (Part.eq_some_iff.mp h)

/-- What a turn does to a state of the invariant, and what the loop is left with. -/
def Turns (body : σ → Part (ρ ⊕ σ)) (I : σ → Prop) (size : σ → ℕ) (Q : ρ → Prop) (s : σ) : Prop :=
  (∃ r, body s = Part.some (.inl r) ∧ Q r) ∨
    ∃ t, body s = Part.some (.inr t) ∧ I t ∧ size t < size s

/-- The rule of total correctness. -/
theorem forever_total {I : σ → Prop} {Q : ρ → Prop} (size : σ → ℕ)
    (hturn : ∀ s, I s → Turns body I size Q s) (h : I s) :
    ∃ r, forever body s = Part.some r ∧ Q r := by
  induction hsize : size s using Nat.strong_induction_on generalizing s with
  | _ n ih =>
    rcases hturn s h with ⟨r, hr, hq⟩ | ⟨t, ht, hit, hlt⟩
    · exact ⟨r, forever_of_exit hr, hq⟩
    · rw [forever_of_next ht]
      exact ih (size t) (hsize ▸ hlt) hit rfl

end OpenXRSdk.UnboundedLoops
