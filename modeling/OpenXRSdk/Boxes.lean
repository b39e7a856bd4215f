import Mathlib

/-!
# Affine forms on boxes

An affine form is greatest on a box at the corner that its coefficients point to. What holds
of the form at every corner therefore holds on the box, and the greatest value is the value
at the centre and the absolute contributions of the extents.
-/
namespace OpenXRSdk.Boxes

variable {ι R : Type*} [Fintype ι] [CommRing R]

abbrev AffineForm (ι R : Type*) := (ι → R) × R

namespace AffineForm

def eval (f : AffineForm ι R) (p : ι → R) : R := f.1 ⬝ᵥ p + f.2

@[simp] theorem eval_add (f g : AffineForm ι R) (p : ι → R) :
    eval (f + g) p = eval f p + eval g p := by
  simp only [eval, Prod.fst_add, Prod.snd_add, add_dotProduct]
  ring

@[simp] theorem eval_neg (f : AffineForm ι R) (p : ι → R) : eval (-f) p = -eval f p := by
  simp only [eval, Prod.fst_neg, Prod.snd_neg, neg_dotProduct]
  ring

@[simp] theorem eval_sub (f g : AffineForm ι R) (p : ι → R) :
    eval (f - g) p = eval f p - eval g p := by
  rw [sub_eq_add_neg, eval_add, eval_neg, sub_eq_add_neg]

end AffineForm

/-- The corner at the upper end of some axes and the lower end of the others. -/
def corner (lo hi : ι → R) (upper : ι → Bool) : ι → R := fun i => if upper i then hi i else lo i

/-- The point halfway between two opposite corners. -/
def IsCenter (lo hi c : ι → R) : Prop := ∀ i, c i + c i = lo i + hi i

variable [LinearOrder R]

/-- The corner that the coefficients point to. -/
def peak (f : AffineForm ι R) (i : ι) : Bool := 0 ≤ f.1 i

def spread (f : AffineForm ι R) (c hi : ι → R) : R := ∑ i, |(hi i - c i) * f.1 i|

theorem spread_neg (f : AffineForm ι R) (c hi : ι → R) : spread (-f) c hi = spread f c hi := by
  simp only [spread, Prod.fst_neg, Pi.neg_apply, mul_neg, abs_neg]

variable [IsStrictOrderedRing R] {f : AffineForm ι R} {lo hi c p : ι → R} {bound : R}

omit [Fintype ι] [CommRing R] [IsStrictOrderedRing R] in
theorem corner_mem (h : lo ≤ hi) (upper : ι → Bool) : corner lo hi upper ∈ Set.Icc lo hi := by
  refine ⟨fun i => ?_, fun i => ?_⟩
  · unfold corner
    split_ifs
    · exact h i
    · exact le_refl _
  · unfold corner
    split_ifs
    · exact le_refl _
    · exact h i

theorem eval_le_peak (h : p ∈ Set.Icc lo hi) : f.eval p ≤ f.eval (corner lo hi (peak f)) := by
  refine add_le_add_left (Finset.sum_le_sum fun i _ => ?_) _
  unfold corner peak
  split_ifs with hcoeff
  · exact mul_le_mul_of_nonneg_left (h.2 i) (of_decide_eq_true hcoeff)
  · refine mul_le_mul_of_nonpos_left (h.1 i) ?_
    exact (not_le.mp fun hle => hcoeff (decide_eq_true hle)).le

/-- A bound at the corners is a bound on the box. -/
theorem forall_corner_le_iff (h : lo ≤ hi) :
    (∀ upper, f.eval (corner lo hi upper) ≤ bound) ↔ ∀ p ∈ Set.Icc lo hi, f.eval p ≤ bound :=
  ⟨fun hcorners _ hp => (eval_le_peak hp).trans (hcorners _),
    fun hbox upper => hbox _ (corner_mem h upper)⟩

theorem eval_peak (h : lo ≤ hi) (hc : IsCenter lo hi c) :
    f.eval (corner lo hi (peak f)) = f.eval c + spread f c hi := by
  have hterm (i : ι) : f.1 i * corner lo hi (peak f) i =
      f.1 i * c i + |(hi i - c i) * f.1 i| := by
    have hextent : 0 ≤ hi i - c i := by linarith [h i, hc i]
    rw [abs_mul, abs_of_nonneg hextent]
    unfold corner peak
    split_ifs with hcoeff
    · rw [abs_of_nonneg (of_decide_eq_true hcoeff)]
      ring
    · rw [abs_of_neg (not_le.mp fun hle => hcoeff (decide_eq_true hle))]
      linear_combination f.1 i * -hc i
  simp only [AffineForm.eval, dotProduct, spread, Finset.sum_congr rfl fun i _ => hterm i,
    Finset.sum_add_distrib]
  ring

/-- The greatest value on the box. -/
theorem eval_le_center_add_spread (hc : IsCenter lo hi c) (h : p ∈ Set.Icc lo hi) :
    f.eval p ≤ f.eval c + spread f c hi :=
  (eval_le_peak h).trans_eq (eval_peak (h.1.trans h.2) hc)

/-- The least value is the greatest of the opposite form. -/
theorem center_sub_spread_le_eval (hc : IsCenter lo hi c) (h : p ∈ Set.Icc lo hi) :
    f.eval c - spread f c hi ≤ f.eval p := by
  have hneg := eval_le_center_add_spread (f := -f) hc h
  rw [AffineForm.eval_neg, AffineForm.eval_neg, spread_neg] at hneg
  linarith

theorem eval_peak_neg (h : lo ≤ hi) (hc : IsCenter lo hi c) :
    f.eval (corner lo hi (peak (-f))) = f.eval c - spread f c hi := by
  have hneg := eval_peak (f := -f) h hc
  rw [AffineForm.eval_neg, AffineForm.eval_neg, spread_neg] at hneg
  linarith

end OpenXRSdk.Boxes
