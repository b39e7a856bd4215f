import OpenXRSdk.RigidTransforms

/-!
# The inverse of a matrix

The cofactors of the general inverse are those of the adjugate, and the inverse of a rigid
body transform is a shorter way to the same matrix.
-/
namespace OpenXRSdk.XrMatrix4x4f

open Matrix

/-! ## The adjugate -/

section Field

variable {R : Type*} [Field R]

theorem toMatrix_createIdentity : (createIdentity : XrMatrix4x4f R).toMatrix = 1 := by
  ext i j
  fin_cases i <;> fin_cases j <;> rfl

/-- Rows of the source are columns of the matrix. -/
theorem minor_eq (a : XrMatrix4x4f R) (r c : Fin 3 → Fin 4) :
    a.minor (r 0) (r 1) (r 2) (c 0) (c 1) (c 2) = (a.toMatrix.submatrix c r).det := by
  rw [det_fin_three]
  simp only [minor, entry, toMatrix, submatrix_apply, of_apply]
  ring

theorem adjugate_toMatrix (a : XrMatrix4x4f R) (i j : Fin 4) :
    a.toMatrix.adjugate i j =
      (-1) ^ (j + i : ℕ) *
        a.minor (i.succAbove 0) (i.succAbove 1) (i.succAbove 2)
          (j.succAbove 0) (j.succAbove 1) (j.succAbove 2) := by
  rw [adjugate_fin_succ_eq_det_submatrix, minor_eq]

/-- The expansion along the first column. -/
theorem invertDivisor_eq (a : XrMatrix4x4f R) : a.invertDivisor = a.toMatrix.det := by
  rw [det_succ_column a.toMatrix 0, Fin.sum_univ_four]
  simp only [← minor_eq]
  simp [invertDivisor, toMatrix, Fin.succAbove, Fin.lt_def]
  ring

theorem cofactor_of_even {x d : R} {k : ℕ} (h : Even k) : x * (1 / d) = d⁻¹ • ((-1) ^ k * x) := by
  rw [h.neg_one_pow, smul_eq_mul]
  ring

theorem cofactor_of_odd {x d : R} {k : ℕ} (h : Odd k) : -x * (1 / d) = d⁻¹ • ((-1) ^ k * x) := by
  rw [h.neg_one_pow, smul_eq_mul]
  ring

/-- The indices and signs of the cofactors are those of the adjugate. -/
theorem toMatrix_invert (a : XrMatrix4x4f R) :
    a.invert.toMatrix = a.toMatrix.det⁻¹ • a.toMatrix.adjugate := by
  ext i j
  rw [Matrix.smul_apply, adjugate_toMatrix, ← invertDivisor_eq]
  fin_cases i <;> fin_cases j
  all_goals first
    | exact cofactor_of_even (by decide)
    | exact cofactor_of_odd (by decide)

theorem invert_multiply {a : XrMatrix4x4f R} (h : a.toMatrix.det ≠ 0) :
    a.invert.multiply a = createIdentity := by
  apply toMatrix_injective
  rw [toMatrix_multiply, toMatrix_invert, smul_mul, adjugate_mul, smul_smul, inv_mul_cancel₀ h,
    one_smul, toMatrix_createIdentity]

theorem multiply_invert {a : XrMatrix4x4f R} (h : a.toMatrix.det ≠ 0) :
    a.multiply a.invert = createIdentity := by
  apply toMatrix_injective
  rw [toMatrix_multiply, toMatrix_invert, Matrix.mul_smul, mul_adjugate, smul_smul, inv_mul_cancel₀ h,
    one_smul, toMatrix_createIdentity]

/-- A right inverse is the general inverse. -/
theorem invert_eq_of_multiply {a b : XrMatrix4x4f R} (h : a.multiply b = createIdentity) :
    a.invert = b := by
  have hmul : a.toMatrix * b.toMatrix = 1 := by
    rw [← toMatrix_multiply, h, toMatrix_createIdentity]
  have hdet : a.toMatrix.det ≠ 0 := by
    intro hzero
    have hone := congrArg det hmul
    rw [det_mul, hzero, zero_mul, det_one] at hone
    exact zero_ne_one hone
  apply toMatrix_injective
  refine left_inv_eq_right_inv ?_ hmul
  rw [← toMatrix_multiply, invert_multiply hdet, toMatrix_createIdentity]

/-- The divisor is the determinant, and where it is not zero the inverse is one on both
sides. -/
theorem invert_inverse (a : XrMatrix4x4f R) (h : a.toMatrix.det ≠ 0) :
    a.invertDivisor = a.toMatrix.det ∧ a.invert.multiply a = createIdentity ∧
      a.multiply a.invert = createIdentity :=
  ⟨invertDivisor_eq a, invert_multiply h, multiply_invert h⟩

end Field

/-! ## Rigid body transforms -/

section Order

variable {R : Type*} [Field R] [LinearOrder R] [IsStrictOrderedRing R]

theorem affine_of_isAffine {a : XrMatrix4x4f R} (h : a.isAffine 0) : a.Affine := by
  obtain ⟨h3, h7, h11, h15⟩ := of_decide_eq_true h
  rw [abs_nonpos_iff] at h3 h7 h11 h15
  exact ⟨h3, h7, h11, sub_eq_zero.mp h15⟩

theorem isOrthonormal_zero_iff {a : XrMatrix4x4f R} :
    a.isOrthonormal 0 ↔ ∀ i j, a.columnProduct i j = (if i = j then 1 else 0) ∧
      a.rowProduct i j = if i = j then 1 else 0 := by
  have hzero (x y : R) : |x - y| > 0 ↔ ¬y = x := by
    rw [gt_iff_lt, abs_pos, sub_ne_zero, ne_comm, ne_eq]
  simp only [isOrthonormal, List.all_eq_true, List.mem_finRange, true_implies, hzero]
  refine forall_congr' fun i => forall_congr' fun j => ?_
  split_ifs <;> simp_all

/-- With orthonormal rows, what the shorter inverse makes of a vector is carried back to it. -/
theorem transformVector3f_invertRigidBody {a : XrMatrix4x4f R} (h : a.isRigidBody 0)
    (v : XrVector3f R) : a.transformVector3f (a.invertRigidBody.transformVector3f v) = v := by
  obtain ⟨haffine, horthonormal⟩ := Bool.and_eq_true_iff.mp h
  obtain ⟨h3, h7, h11, h15⟩ := affine_of_isAffine haffine
  have hrows (i j : Fin 3) : a.rowProduct i j = if i = j then 1 else 0 :=
    (isOrthonormal_zero_iff.mp horthonormal i j).2
  have hxx := hrows 0 0
  have hxy := hrows 0 1
  have hxz := hrows 0 2
  have hyy := hrows 1 1
  have hyz := hrows 1 2
  have hzz := hrows 2 2
  simp [rowProduct, entry] at hxx hxy hxz hyy hyz hzz
  ext <;> simp [transformVector3f, invertRigidBody, h3, h7, h11, h15]
  -- each component by the row that it is made of
  · linear_combination (v.x - a.m 12) * hxx + (v.y - a.m 13) * hxy + (v.z - a.m 14) * hxz
  · linear_combination (v.x - a.m 12) * hxy + (v.y - a.m 13) * hyy + (v.z - a.m 14) * hyz
  · linear_combination (v.x - a.m 12) * hxz + (v.y - a.m 13) * hyz + (v.z - a.m 14) * hzz

/-- The orthonormal rows make the shorter inverse a right inverse. -/
theorem multiply_invertRigidBody {a : XrMatrix4x4f R} (h : a.isRigidBody 0) :
    a.multiply a.invertRigidBody = createIdentity := by
  have ha : a.Affine := affine_of_isAffine (Bool.and_eq_true_iff.mp h).1
  have hinverse : a.invertRigidBody.Affine := ⟨rfl, rfl, rfl, rfl⟩
  refine eq_of_toMatrix_mulVec fun v => ?_
  rw [toMatrix_multiply, ← Matrix.mulVec_mulVec, hinverse.mulVec_toPoint, ha.mulVec_toPoint,
    transformVector3f_invertRigidBody h, toMatrix_createIdentity, Matrix.one_mulVec]

/-- A rotation or reflection with a translation is inverted alike in both ways. -/
theorem invertRigidBody_eq_invert (a : XrMatrix4x4f R) (h : a.isRigidBody 0) :
    a.invertRigidBody = a.invert :=
  (invert_eq_of_multiply (multiply_invertRigidBody h)).symm

end Order

def shear : XrMatrix4x4f ℚ where
  m := ![
    2, 1, 0, 1,
    0, 3, 0, 0,
    0, 5, 1, 0,
    1, 0, 0, 1]

theorem invert_inverse_shear :
    shear.toMatrix.det ≠ 0 ∧ shear.invertDivisor = shear.toMatrix.det ∧
      shear.invert.multiply shear = createIdentity ∧
      shear.multiply shear.invert = createIdentity := by
  have hdet : shear.toMatrix.det ≠ 0 := by
    rw [← invertDivisor_eq]
    decide +kernel
  exact ⟨hdet, invert_inverse shear hdet⟩

def reflectedTurn : XrMatrix4x4f ℚ where
  m := ![
    3 / 5, 4 / 5, 0, 0,
    4 / 5, -(3 / 5), 0, 0,
    0, 0, 1, 0,
    7, -2, 5, 1]

theorem invertRigidBody_eq_invert_reflectedTurn :
    reflectedTurn.isRigidBody 0 ∧ reflectedTurn.invertRigidBody = reflectedTurn.invert := by
  have h : reflectedTurn.isRigidBody 0 := by decide +kernel
  exact ⟨h, invertRigidBody_eq_invert reflectedTurn h⟩

end OpenXRSdk.XrMatrix4x4f
