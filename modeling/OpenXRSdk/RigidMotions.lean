import Mathlib

/-!
# Rigid motions

A rotation given by a unitary element of a star ring, followed by a translation: the group
of these motions, and how it acts. Affine maps as matrices in homogeneous coordinates.
-/
namespace OpenXRSdk.RigidMotions

/-! ## The group of motions -/

@[ext] structure RigidMotion (A : Type*) [Ring A] [StarRing A] where
  rotation : unitary A
  translation : A

namespace RigidMotion

variable {A : Type*} [Ring A] [StarRing A]

def rotate (g : RigidMotion A) (v : A) : A := g.rotation * v * star (g.rotation : A)

instance : SMul (RigidMotion A) A := ⟨fun g v => g.rotate v + g.translation⟩

theorem smul_def (g : RigidMotion A) (v : A) : g • v = g.rotate v + g.translation := rfl

instance : One (RigidMotion A) := ⟨⟨1, 0⟩⟩
instance : Mul (RigidMotion A) := ⟨fun g h => ⟨g.rotation * h.rotation, g • h.translation⟩⟩
instance : Inv (RigidMotion A) :=
  ⟨fun g => ⟨star g.rotation, -(star (g.rotation : A) * g.translation * g.rotation)⟩⟩

@[simp] theorem one_rotation : (1 : RigidMotion A).rotation = 1 := rfl
@[simp] theorem one_translation : (1 : RigidMotion A).translation = 0 := rfl
@[simp] theorem mul_rotation (g h : RigidMotion A) : (g * h).rotation = g.rotation * h.rotation := rfl
@[simp] theorem mul_translation (g h : RigidMotion A) : (g * h).translation = g • h.translation := rfl
@[simp] theorem inv_rotation (g : RigidMotion A) : (g⁻¹).rotation = star g.rotation := rfl
@[simp] theorem inv_translation (g : RigidMotion A) :
    (g⁻¹).translation = -(star (g.rotation : A) * g.translation * g.rotation) := rfl

theorem rotate_add (g : RigidMotion A) (v w : A) : g.rotate (v + w) = g.rotate v + g.rotate w := by
  simp only [rotate, mul_add, add_mul]

theorem mul_rotate (g h : RigidMotion A) (v : A) : (g * h).rotate v = g.rotate (h.rotate v) := by
  simp only [rotate, mul_rotation, Submonoid.coe_mul, star_mul, mul_assoc]

theorem mul_act (g h : RigidMotion A) (v : A) : (g * h) • v = g • h • v := by
  simp only [smul_def, mul_rotate, mul_translation, rotate_add, add_assoc]

instance : Group (RigidMotion A) :=
  Group.ofLeftAxioms
    (by
      intro f g h
      ext
      · simp only [mul_rotation, mul_assoc]
      · simp only [mul_translation, mul_act])
    (by
      intro g
      ext
      · simp only [mul_rotation, one_rotation, one_mul]
      · simp [smul_def, rotate])
    (by
      intro g
      ext
      · simp only [mul_rotation, inv_rotation, Unitary.star_mul_self, one_rotation]
      · simp [smul_def, rotate])

instance : MulAction (RigidMotion A) A where
  one_smul v := by simp [smul_def, rotate]
  mul_smul := mul_act

end RigidMotion

/-! ## Homogeneous coordinates -/

section Homogeneous

open Matrix

variable {R : Type*} [CommRing R] {n : ℕ} {ι : Type*}

/-- A point as the last slice of a space with one more coordinate. -/
def homogeneous (v : Fin n → R) : Fin (n + 1) → R := Fin.snoc v 1

theorem mulVec_homogeneous (M : Matrix ι (Fin (n + 1)) R) (v : Fin n → R) (i : ι) :
    (M *ᵥ homogeneous v) i = ∑ j, M i j.castSucc * v j + M i (Fin.last n) := by
  simp [Matrix.mulVec, dotProduct, homogeneous, Fin.sum_univ_castSucc]

/-- A matrix is known by what it does to the points. -/
theorem eq_of_mulVec_homogeneous {M N : Matrix ι (Fin (n + 1)) R}
    (h : ∀ v : Fin n → R, M *ᵥ homogeneous v = N *ᵥ homogeneous v) : M = N := by
  have hpoint (v : Fin n → R) (i : ι) : ∑ j, M i j.castSucc * v j + M i (Fin.last n) =
      ∑ j, N i j.castSucc * v j + N i (Fin.last n) := by
    rw [← mulVec_homogeneous, ← mulVec_homogeneous, h]
  have hlast (i : ι) : M i (Fin.last n) = N i (Fin.last n) := by simpa using hpoint 0 i
  ext i j
  refine Fin.lastCases (hlast i) (fun j => ?_) j
  have hj := hpoint (Pi.single j 1) i
  rw [hlast i] at hj
  simpa [Pi.single_apply] using add_right_cancel hj

end Homogeneous

end OpenXRSdk.RigidMotions
