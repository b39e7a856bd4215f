import OpenXRSdk.RigidMotions
import OpenXRSdk.XrLinear

/-!
# Poses and matrices as rigid transforms

A pose with a unit orientation is a rigid motion of the quaternions, and its matrix does to
homogeneous coordinates what the pose does to vectors. Composition and inversion on both
sides are those of the group of motions.
-/
namespace OpenXRSdk

open Matrix Quaternion RigidMotions

variable {R : Type*} [Field R]

/-! ## Orientations -/

def XrVector3f.toQuaternion (v : XrVector3f R) : ℍ[R] := ⟨0, v.x, v.y, v.z⟩

def XrQuaternionf.toQuaternion (q : XrQuaternionf R) : ℍ[R] := ⟨q.w, q.x, q.y, q.z⟩

section

variable (v : XrVector3f R) (q : XrQuaternionf R)

@[simp] theorem XrVector3f.toQuaternion_re : v.toQuaternion.re = 0 := rfl
@[simp] theorem XrVector3f.toQuaternion_imI : v.toQuaternion.imI = v.x := rfl
@[simp] theorem XrVector3f.toQuaternion_imJ : v.toQuaternion.imJ = v.y := rfl
@[simp] theorem XrVector3f.toQuaternion_imK : v.toQuaternion.imK = v.z := rfl
@[simp] theorem XrQuaternionf.toQuaternion_re : q.toQuaternion.re = q.w := rfl
@[simp] theorem XrQuaternionf.toQuaternion_imI : q.toQuaternion.imI = q.x := rfl
@[simp] theorem XrQuaternionf.toQuaternion_imJ : q.toQuaternion.imJ = q.y := rfl
@[simp] theorem XrQuaternionf.toQuaternion_imK : q.toQuaternion.imK = q.z := rfl

end

theorem XrVector3f.toQuaternion_injective :
    Function.Injective (XrVector3f.toQuaternion : XrVector3f R → ℍ[R]) := by
  intro v w h
  exact XrVector3f.ext (congrArg (·.imI) h) (congrArg (·.imJ) h) (congrArg (·.imK) h)

theorem XrQuaternionf.toQuaternion_injective :
    Function.Injective (XrQuaternionf.toQuaternion : XrQuaternionf R → ℍ[R]) := by
  intro q r h
  exact XrQuaternionf.ext (congrArg (·.imI) h) (congrArg (·.imJ) h) (congrArg (·.imK) h)
    (congrArg (·.re) h)

theorem XrVector3f.toQuaternion_add (v w : XrVector3f R) :
    (v.add w).toQuaternion = v.toQuaternion + w.toQuaternion := by
  ext <;> simp [XrVector3f.add]

theorem XrVector3f.toQuaternion_scale_neg_one (v : XrVector3f R) :
    (v.scale (-1)).toQuaternion = -v.toQuaternion := by
  ext <;> simp [XrVector3f.scale]

/-- The operands are in the reversed order. -/
theorem XrQuaternionf.toQuaternion_multiply (a b : XrQuaternionf R) :
    (a.multiply b).toQuaternion = b.toQuaternion * a.toQuaternion := by
  ext <;> simp [XrQuaternionf.multiply]

theorem XrQuaternionf.toQuaternion_invert (q : XrQuaternionf R) :
    q.invert.toQuaternion = star q.toQuaternion := by
  ext <;> simp [XrQuaternionf.invert]

theorem XrQuaternionf.toQuaternion_rotateVector3f (a : XrQuaternionf R) (v : XrVector3f R) :
    (a.rotateVector3f v).toQuaternion = a.toQuaternion * v.toQuaternion * star a.toQuaternion := by
  ext
  · simp [XrQuaternionf.rotateVector3f, XrQuaternionf.multiply, XrQuaternionf.invert]
    ring
  all_goals simp [XrQuaternionf.rotateVector3f, XrQuaternionf.multiply, XrQuaternionf.invert]

def XrQuaternionf.Unit (q : XrQuaternionf R) : Prop :=
  q.x * q.x + q.y * q.y + q.z * q.z + q.w * q.w = 1

theorem XrQuaternionf.unit_iff (q : XrQuaternionf R) :
    q.Unit ↔ q.toQuaternion ∈ unitary ℍ[R] := by
  have hnorm : normSq q.toQuaternion = q.x * q.x + q.y * q.y + q.z * q.z + q.w * q.w := by
    simp [normSq_def']
    ring
  rw [Unitary.mem_iff, star_mul_self, self_mul_star, and_self, hnorm, XrQuaternionf.Unit,
    ← Quaternion.coe_one, Quaternion.coe_inj]

theorem XrQuaternionf.Unit.invert {q : XrQuaternionf R} (h : q.Unit) : q.invert.Unit := by
  simpa [XrQuaternionf.Unit, XrQuaternionf.invert] using h

theorem XrQuaternionf.Unit.multiply {a b : XrQuaternionf R} (ha : a.Unit) (hb : b.Unit) :
    (a.multiply b).Unit := by
  rw [XrQuaternionf.unit_iff] at ha hb ⊢
  rw [XrQuaternionf.toQuaternion_multiply]
  exact mul_mem hb ha

/-! ## Poses -/

namespace XrPosef

def toRigidMotion (a : XrPosef R) (h : a.orientation.Unit) : RigidMotion ℍ[R] where
  rotation := ⟨a.orientation.toQuaternion, a.orientation.unit_iff.mp h⟩
  translation := a.position.toQuaternion

theorem eq_of_toRigidMotion_eq {a b : XrPosef R} (ha : a.orientation.Unit)
    (hb : b.orientation.Unit) (h : a.toRigidMotion ha = b.toRigidMotion hb) : a = b := by
  simp only [toRigidMotion, RigidMotion.mk.injEq, Subtype.mk.injEq] at h
  exact XrPosef.ext (XrQuaternionf.toQuaternion_injective h.1)
    (XrVector3f.toQuaternion_injective h.2)

theorem toQuaternion_transformVector3f (a : XrPosef R) (h : a.orientation.Unit)
    (v : XrVector3f R) :
    (a.transformVector3f v).toQuaternion = a.toRigidMotion h • v.toQuaternion := by
  rw [transformVector3f, XrVector3f.toQuaternion_add, XrQuaternionf.toQuaternion_rotateVector3f]
  rfl

theorem createIdentity_unit : (createIdentity : XrPosef R).orientation.Unit := by
  simp [createIdentity, XrQuaternionf.createIdentity, XrQuaternionf.Unit]

theorem toRigidMotion_createIdentity :
    (createIdentity : XrPosef R).toRigidMotion createIdentity_unit = 1 := by
  refine RigidMotion.ext ?_ ?_
  · refine Subtype.ext ?_
    ext <;> simp [toRigidMotion, createIdentity, XrQuaternionf.createIdentity]
  · ext <;> simp [toRigidMotion, createIdentity, XrVector3f.set]

theorem toRigidMotion_multiply (a b : XrPosef R) (ha : a.orientation.Unit)
    (hb : b.orientation.Unit) :
    (a.multiply b).toRigidMotion (hb.multiply ha) = a.toRigidMotion ha * b.toRigidMotion hb := by
  refine RigidMotion.ext ?_ ?_
  · exact Subtype.ext (XrQuaternionf.toQuaternion_multiply b.orientation a.orientation)
  · exact toQuaternion_transformVector3f a ha b.position

theorem toRigidMotion_invert (a : XrPosef R) (h : a.orientation.Unit) :
    a.invert.toRigidMotion h.invert = (a.toRigidMotion h)⁻¹ := by
  refine RigidMotion.ext ?_ ?_
  · exact Subtype.ext (XrQuaternionf.toQuaternion_invert a.orientation)
  · simp [toRigidMotion, invert, XrQuaternionf.toQuaternion_rotateVector3f,
      XrVector3f.toQuaternion_scale_neg_one, XrQuaternionf.toQuaternion_invert]

theorem transformVector3f_multiply (a b : XrPosef R) (ha : a.orientation.Unit)
    (hb : b.orientation.Unit) (v : XrVector3f R) :
    (a.multiply b).transformVector3f v = a.transformVector3f (b.transformVector3f v) := by
  apply XrVector3f.toQuaternion_injective
  rw [toQuaternion_transformVector3f _ (hb.multiply ha), toRigidMotion_multiply,
    toQuaternion_transformVector3f a ha, toQuaternion_transformVector3f b hb, mul_smul]

theorem multiply_invert (a : XrPosef R) (h : a.orientation.Unit) :
    a.multiply a.invert = createIdentity := by
  refine eq_of_toRigidMotion_eq (h.invert.multiply h) createIdentity_unit ?_
  rw [toRigidMotion_multiply a a.invert h h.invert, toRigidMotion_invert a h, mul_inv_cancel,
    toRigidMotion_createIdentity]

theorem invert_multiply (a : XrPosef R) (h : a.orientation.Unit) :
    a.invert.multiply a = createIdentity := by
  refine eq_of_toRigidMotion_eq (h.multiply h.invert) createIdentity_unit ?_
  rw [toRigidMotion_multiply a.invert a h.invert h, toRigidMotion_invert a h, inv_mul_cancel,
    toRigidMotion_createIdentity]

end XrPosef

/-! ## Matrices -/

namespace XrMatrix4x4f

/-- The columns stand one after the other. -/
def toMatrix (a : XrMatrix4x4f R) : Matrix (Fin 4) (Fin 4) R :=
  Matrix.of fun i j => a.m ⟨4 * j + i, by omega⟩

omit [Field R] in
theorem toMatrix_injective : Function.Injective (toMatrix : XrMatrix4x4f R → _) := by
  intro a b h
  have hentry (i j : Fin 4) : a.m ⟨4 * j + i, by omega⟩ = b.m ⟨4 * j + i, by omega⟩ :=
    congrFun (congrFun h i) j
  ext k
  have hk := hentry ⟨k % 4, by omega⟩ ⟨k / 4, by omega⟩
  simpa only [Nat.div_add_mod, Fin.eta] using hk

theorem toMatrix_multiply (a b : XrMatrix4x4f R) :
    (a.multiply b).toMatrix = a.toMatrix * b.toMatrix := by
  ext i j
  rw [Matrix.mul_apply, Fin.sum_univ_four]
  fin_cases i <;> fin_cases j <;> rfl

theorem createFromRigidTransform_eq (s : XrPosef R) :
    createFromRigidTransform s = rigid (createFromQuaternion s.orientation) s.position := by
  ext k
  fin_cases k <;>
    simp [rigid, createFromRigidTransform, createTranslationRotationScale, multiply, createScale,
      createTranslation, createFromQuaternion]

theorem rigid_transformVector3f (r : XrMatrix4x4f R) (position v : XrVector3f R) :
    (rigid r position).transformVector3f v = (r.linear v).add position := by
  simp [transformVector3f, rigid, linear, XrVector3f.add]

theorem rigid_affine (r : XrMatrix4x4f R) (position : XrVector3f R) : (rigid r position).Affine :=
  ⟨rfl, rfl, rfl, rfl⟩

end XrMatrix4x4f

def XrVector3f.toPoint (v : XrVector3f R) : Fin 3 → R := ![v.x, v.y, v.z]

omit [Field R] in
theorem XrVector3f.toPoint_surjective (p : Fin 3 → R) : ∃ v : XrVector3f R, v.toPoint = p :=
  ⟨⟨p 0, p 1, p 2⟩, by ext i; fin_cases i <;> rfl⟩

namespace XrMatrix4x4f

theorem Affine.mulVec_toPoint {a : XrMatrix4x4f R} (h : a.Affine) (v : XrVector3f R) :
    a.toMatrix *ᵥ homogeneous v.toPoint = homogeneous (a.transformVector3f v).toPoint := by
  obtain ⟨h3, h7, h11, h15⟩ := h
  ext i
  rw [mulVec_homogeneous, Fin.sum_univ_three]
  fin_cases i <;>
    simp [toMatrix, XrVector3f.toPoint, homogeneous, transformVector3f, h3, h7, h11, h15]

/-- Two affine maps that do the same to every vector are one matrix. -/
theorem eq_of_toMatrix_mulVec {a b : XrMatrix4x4f R}
    (h : ∀ v : XrVector3f R, a.toMatrix *ᵥ homogeneous v.toPoint = b.toMatrix *ᵥ homogeneous v.toPoint) :
    a = b := by
  refine toMatrix_injective (eq_of_mulVec_homogeneous fun p => ?_)
  obtain ⟨v, rfl⟩ := XrVector3f.toPoint_surjective p
  exact h v

/-- A unit quaternion rotates as its matrix does. -/
theorem linear_createFromQuaternion (q : XrQuaternionf R) (h : q.Unit) (v : XrVector3f R) :
    (createFromQuaternion q).linear v = q.rotateVector3f v := by
  rw [XrQuaternionf.Unit] at h
  ext <;>
    simp [XrQuaternionf.rotateVector3f, XrQuaternionf.multiply, XrQuaternionf.invert, linear,
      createFromQuaternion]
  · linear_combination -v.x * h
  · linear_combination -v.y * h
  · linear_combination -v.z * h

theorem transformVector3f_createFromRigidTransform (s : XrPosef R) (h : s.orientation.Unit)
    (v : XrVector3f R) :
    (createFromRigidTransform s).transformVector3f v = s.transformVector3f v := by
  rw [createFromRigidTransform_eq, rigid_transformVector3f,
    linear_createFromQuaternion s.orientation h, XrPosef.transformVector3f]

theorem createFromRigidTransform_mulVec (s : XrPosef R) (h : s.orientation.Unit)
    (v : XrVector3f R) :
    (createFromRigidTransform s).toMatrix *ᵥ homogeneous v.toPoint =
      homogeneous (s.transformVector3f v).toPoint := by
  have haffine : (createFromRigidTransform s).Affine := by
    rw [createFromRigidTransform_eq]
    exact rigid_affine _ _
  rw [haffine.mulVec_toPoint, transformVector3f_createFromRigidTransform s h]

theorem createFromRigidTransform_multiply (a b : XrPosef R) (ha : a.orientation.Unit)
    (hb : b.orientation.Unit) :
    createFromRigidTransform (a.multiply b) =
      (createFromRigidTransform a).multiply (createFromRigidTransform b) := by
  refine eq_of_toMatrix_mulVec fun v => ?_
  calc (createFromRigidTransform (a.multiply b)).toMatrix *ᵥ homogeneous v.toPoint
      = homogeneous (a.transformVector3f (b.transformVector3f v)).toPoint := by
        rw [createFromRigidTransform_mulVec _ (hb.multiply ha),
          XrPosef.transformVector3f_multiply a b ha hb]
    _ = (createFromRigidTransform a).toMatrix *ᵥ
          (createFromRigidTransform b).toMatrix *ᵥ homogeneous v.toPoint := by
        rw [createFromRigidTransform_mulVec b hb, createFromRigidTransform_mulVec a ha]
    _ = ((createFromRigidTransform a).multiply (createFromRigidTransform b)).toMatrix *ᵥ
          homogeneous v.toPoint := by
        rw [toMatrix_multiply, Matrix.mulVec_mulVec]

theorem createFromQuaternion_invert (q : XrQuaternionf R) :
    createFromQuaternion q.invert = (createFromQuaternion q).transpose := by
  ext k
  fin_cases k <;> simp [createFromQuaternion, transpose, XrQuaternionf.invert]
  all_goals ring

theorem rigid_invertRigidBody (r : XrMatrix4x4f R) (position : XrVector3f R) :
    (rigid r position).invertRigidBody =
      rigid r.transpose (r.transpose.linear (position.scale (-1))) := by
  ext k
  fin_cases k <;> simp [rigid, invertRigidBody, transpose, linear, XrVector3f.scale]
  all_goals ring

theorem createFromRigidTransform_invert (a : XrPosef R) (h : a.orientation.Unit) :
    createFromRigidTransform a.invert = (createFromRigidTransform a).invertRigidBody := by
  rw [createFromRigidTransform_eq, createFromRigidTransform_eq, rigid_invertRigidBody,
    ← createFromQuaternion_invert, linear_createFromQuaternion _ h.invert]
  rfl

end XrMatrix4x4f

/-! ## The two representations agree -/

theorem rigid_transforms (a b : XrPosef R) (ha : a.orientation.Unit) (hb : b.orientation.Unit)
    (v : XrVector3f R) :
    (a.multiply b).transformVector3f v = a.transformVector3f (b.transformVector3f v) ∧
      a.multiply a.invert = XrPosef.createIdentity ∧
      a.invert.multiply a = XrPosef.createIdentity ∧
      XrMatrix4x4f.createFromRigidTransform (a.multiply b) =
        (XrMatrix4x4f.createFromRigidTransform a).multiply
          (XrMatrix4x4f.createFromRigidTransform b) ∧
      XrMatrix4x4f.createFromRigidTransform a.invert =
        (XrMatrix4x4f.createFromRigidTransform a).invertRigidBody ∧
      (XrMatrix4x4f.createFromRigidTransform a).transformVector3f v = a.transformVector3f v :=
  ⟨XrPosef.transformVector3f_multiply a b ha hb v, XrPosef.multiply_invert a ha,
    XrPosef.invert_multiply a ha, XrMatrix4x4f.createFromRigidTransform_multiply a b ha hb,
    XrMatrix4x4f.createFromRigidTransform_invert a ha,
    XrMatrix4x4f.transformVector3f_createFromRigidTransform a ha v⟩

/-- At two turns about different axes. -/
theorem rigid_transforms_turns :
    let a : XrPosef ℚ := ⟨⟨3 / 5, 0, 0, 4 / 5⟩, ⟨1, 2, 3⟩⟩
    let b : XrPosef ℚ := ⟨⟨0, 4 / 5, 0, 3 / 5⟩, ⟨-1, 0, 5⟩⟩
    let v : XrVector3f ℚ := ⟨7, 1, 4⟩
    (a.multiply b).transformVector3f v = a.transformVector3f (b.transformVector3f v) ∧
      XrMatrix4x4f.createFromRigidTransform a.invert =
        (XrMatrix4x4f.createFromRigidTransform a).invertRigidBody := by
  intro a b v
  have h := rigid_transforms a b (by norm_num [a, XrQuaternionf.Unit])
    (by norm_num [b, XrQuaternionf.Unit]) v
  exact ⟨h.1, h.2.2.2.2.1⟩

end OpenXRSdk
