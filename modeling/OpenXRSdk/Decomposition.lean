import OpenXRSdk.RigidTransforms

/-!
# Taking a combined matrix apart

The matrix made of a translation, a rotation and a scale has the rotated axes for columns,
each as long as its scale. The parts are found again; the rows are orthogonal only as far as
the scales agree.
-/
namespace OpenXRSdk

open Matrix

/-! ## The rotated axes -/

namespace XrQuaternionf

variable {R : Type*} [Field R]

/-- The images of the three axes, as columns. -/
def axes (q : XrQuaternionf R) : Matrix (Fin 3) (Fin 3) R :=
  Matrix.of fun i k => (q.rotateVector3f (![⟨1, 0, 0⟩, ⟨0, 1, 0⟩, ⟨0, 0, 1⟩] k)).toPoint i

/-- The rotation of a vector, multiplied out. -/
theorem rotateVector3f_eq (q : XrQuaternionf R) (v : XrVector3f R) :
    q.rotateVector3f v =
      ⟨(q.w * q.w + q.x * q.x - q.y * q.y - q.z * q.z) * v.x +
          2 * (q.x * q.y - q.w * q.z) * v.y + 2 * (q.x * q.z + q.w * q.y) * v.z,
        2 * (q.x * q.y + q.w * q.z) * v.x +
          (q.w * q.w - q.x * q.x + q.y * q.y - q.z * q.z) * v.y +
          2 * (q.y * q.z - q.w * q.x) * v.z,
        2 * (q.x * q.z - q.w * q.y) * v.x + 2 * (q.y * q.z + q.w * q.x) * v.y +
          (q.w * q.w - q.x * q.x - q.y * q.y + q.z * q.z) * v.z⟩ := by
  ext <;> simp only [rotateVector3f, multiply, invert]
  all_goals ring

theorem axes_eq (q : XrQuaternionf R) :
    q.axes = !![
      q.w * q.w + q.x * q.x - q.y * q.y - q.z * q.z, 2 * (q.x * q.y - q.w * q.z),
        2 * (q.x * q.z + q.w * q.y);
      2 * (q.x * q.y + q.w * q.z), q.w * q.w - q.x * q.x + q.y * q.y - q.z * q.z,
        2 * (q.y * q.z - q.w * q.x);
      2 * (q.x * q.z - q.w * q.y), 2 * (q.y * q.z + q.w * q.x),
        q.w * q.w - q.x * q.x - q.y * q.y + q.z * q.z] := by
  ext i k
  rw [axes, of_apply, rotateVector3f_eq]
  fin_cases i <;> fin_cases k <;> simp [XrVector3f.toPoint]

theorem Unit.axes_mul_transpose {q : XrQuaternionf R} (h : q.Unit) : q.axes * q.axesᵀ = 1 := by
  have hnorm : (q.x * q.x + q.y * q.y + q.z * q.z + q.w * q.w) ^ 2 = 1 := by rw [h, one_pow]
  rw [axes_eq]
  ext i j
  fin_cases i <;> fin_cases j <;> simp [Matrix.mul_apply, Fin.sum_univ_three]
  · linear_combination hnorm
  · ring
  · ring
  · ring
  · linear_combination hnorm
  · ring
  · ring
  · ring
  · linear_combination hnorm

theorem Unit.transpose_mul_axes {q : XrQuaternionf R} (h : q.Unit) : q.axesᵀ * q.axes = 1 :=
  mul_eq_one_comm.mp h.axes_mul_transpose

end XrQuaternionf

/-! ## The combined matrix -/

namespace XrMatrix4x4f

section Field

variable {R : Type*} [Field R] (t : XrVector3f R) {q : XrQuaternionf R} (s : XrVector3f R)

theorem entry_createFromQuaternion (h : q.Unit) (k i : Fin 3) :
    (createFromQuaternion q).entry k.castSucc i.castSucc = q.axes i k := by
  rw [XrQuaternionf.axes, Matrix.of_apply, ← linear_createFromQuaternion q h]
  fin_cases k <;> fin_cases i <;> simp [entry, linear, XrVector3f.toPoint]

/-- A column is a rotated axis with the length of its scale. -/
theorem entry_createTranslationRotationScale (h : q.Unit) (k i : Fin 3) :
    (createTranslationRotationScale t q s).entry k.castSucc i.castSucc =
      q.axes i k * s.toPoint k := by
  rw [← entry_createFromQuaternion h]
  fin_cases k <;> fin_cases i <;>
    simp [entry, createTranslationRotationScale, multiply, createScale, createTranslation,
      createFromQuaternion, XrVector3f.toPoint]

theorem createTranslationRotationScale_affine :
    (createTranslationRotationScale t q s).Affine := by
  simp [Affine, createTranslationRotationScale, multiply, createScale, createTranslation,
    createFromQuaternion]

theorem columnProduct_eq (h : q.Unit) (k l : Fin 3) :
    (createTranslationRotationScale t q s).columnProduct k l =
      (if k = l then 1 else 0) * (s.toPoint k * s.toPoint l) := by
  have hunit := congrFun (congrFun h.transpose_mul_axes k) l
  rw [Matrix.one_apply, Matrix.mul_apply, Fin.sum_univ_three] at hunit
  simp only [transpose_apply] at hunit
  have hentry := entry_createTranslationRotationScale t s h
  rw [← hunit, columnProduct]
  calc _ = q.axes 0 k * s.toPoint k * (q.axes 0 l * s.toPoint l) +
        q.axes 1 k * s.toPoint k * (q.axes 1 l * s.toPoint l) +
        q.axes 2 k * s.toPoint k * (q.axes 2 l * s.toPoint l) := by
        rw [← hentry, ← hentry, ← hentry, ← hentry, ← hentry, ← hentry]
        rfl
    _ = _ := by ring

theorem rowProduct_eq (h : q.Unit) (i j : Fin 3) :
    (createTranslationRotationScale t q s).rowProduct i j =
      ∑ k, q.axes i k * q.axes j k * (s.toPoint k * s.toPoint k) := by
  have hentry := entry_createTranslationRotationScale t s h
  rw [rowProduct, Fin.sum_univ_three]
  calc _ = q.axes i 0 * s.toPoint 0 * (q.axes j 0 * s.toPoint 0) +
        q.axes i 1 * s.toPoint 1 * (q.axes j 1 * s.toPoint 1) +
        q.axes i 2 * s.toPoint 2 * (q.axes j 2 * s.toPoint 2) := by
        rw [← hentry, ← hentry, ← hentry, ← hentry, ← hentry, ← hentry]
        rfl
    _ = _ := by ring

end Field

/-! ## What is asserted -/

section Order

variable {R : Type*} [Field R] [LinearOrder R] [IsStrictOrderedRing R]

theorem isAffine_of_affine {a : XrMatrix4x4f R} (h : a.Affine) {epsilon : R} (hpos : 0 ≤ epsilon) :
    a.isAffine epsilon := by
  obtain ⟨h3, h7, h11, h15⟩ := h
  simp [isAffine, h3, h7, h11, h15, hpos]

omit [IsStrictOrderedRing R] in
theorem isOrthogonal_iff {a : XrMatrix4x4f R} {epsilon : R} :
    a.isOrthogonal epsilon ↔
      ∀ i j, i ≠ j → |a.columnProduct i j| ≤ epsilon ∧ |a.rowProduct i j| ≤ epsilon := by
  simp only [isOrthogonal, List.all_eq_true, List.mem_finRange, true_implies]
  refine forall_congr' fun i => forall_congr' fun j => ?_
  split_ifs <;> simp_all

theorem assertTolerance_nonneg : (0 : R) ≤ assertTolerance := by
  unfold assertTolerance
  positivity

/-- How far two rows are from orthogonal: by how much the scales of the axes differ from that
of the third. -/
def rowSkew (q : XrQuaternionf R) (s : XrVector3f R) (i j : Fin 3) : R :=
  ∑ k, (s.toPoint k * s.toPoint k - s.z * s.z) * (q.axes i k * q.axes j k)

variable {q : XrQuaternionf R} {s : XrVector3f R}

theorem rowProduct_eq_rowSkew (t : XrVector3f R) (h : q.Unit) {i j : Fin 3} (hne : i ≠ j) :
    (createTranslationRotationScale t q s).rowProduct i j = rowSkew q s i j := by
  have hunit := congrFun (congrFun h.axes_mul_transpose i) j
  rw [Matrix.one_apply_ne hne, Matrix.mul_apply, Fin.sum_univ_three] at hunit
  simp only [transpose_apply] at hunit
  rw [rowProduct_eq t s h, rowSkew, Fin.sum_univ_three, Fin.sum_univ_three]
  linear_combination s.z * s.z * hunit

/-- A combined matrix passes the assertions exactly if its rows are orthogonal within the
tolerance. -/
theorem assertsDecomposable_iff (t : XrVector3f R) (h : q.Unit) (s : XrVector3f R) :
    (createTranslationRotationScale t q s).assertsDecomposable ↔
      ∀ i j, i ≠ j → |rowSkew q s i j| ≤ assertTolerance := by
  have haffine : (createTranslationRotationScale t q s).isAffine assertTolerance :=
    isAffine_of_affine (createTranslationRotationScale_affine t s) assertTolerance_nonneg
  rw [assertsDecomposable, haffine, Bool.true_and, isOrthogonal_iff]
  refine forall_congr' fun i => forall_congr' fun j => forall_congr' fun hne => ?_
  rw [columnProduct_eq t s h, rowProduct_eq_rowSkew t h hne, if_neg hne, zero_mul, abs_zero]
  exact and_iff_right assertTolerance_nonneg

/-- Equal scales pass. -/
theorem assertsDecomposable_of_uniform (t : XrVector3f R) (h : q.Unit) (c : R) :
    (createTranslationRotationScale t q ⟨c, c, c⟩).assertsDecomposable := by
  refine (assertsDecomposable_iff t h _).mpr fun i j _ => ?_
  simpa [rowSkew, Fin.sum_univ_three, XrVector3f.toPoint] using assertTolerance_nonneg

end Order

def turnZ : XrQuaternionf ℚ := ⟨0, 0, 3 / 5, 4 / 5⟩

theorem turnZ_unit : turnZ.Unit := by norm_num [turnZ, XrQuaternionf.Unit]

/-- The first axis is twice as long as the others. -/
theorem stretchedTurn_fails :
    ¬∀ (t : XrVector3f ℚ) (q : XrQuaternionf ℚ) (s : XrVector3f ℚ), q.Unit →
      0 < s.x → 0 < s.y → 0 < s.z →
        (createTranslationRotationScale t q s).assertsDecomposable := by
  intro h
  have hasserts := h ⟨0, 0, 0⟩ turnZ ⟨2, 1, 1⟩ turnZ_unit (by decide +kernel) (by decide +kernel)
    (by decide +kernel)
  exact absurd hasserts (by decide +kernel)

theorem assertsDecomposable_iff_turnZ :
    (createTranslationRotationScale ⟨1, 2, 3⟩ turnZ ⟨2, 2, 5⟩).assertsDecomposable ↔
      ∀ i j, i ≠ j → |rowSkew turnZ ⟨2, 2, 5⟩ i j| ≤ assertTolerance :=
  assertsDecomposable_iff ⟨1, 2, 3⟩ turnZ_unit ⟨2, 2, 5⟩

end XrMatrix4x4f

/-! ## The parts -/

namespace SquareRoot

variable {R : Type*} [Field R] [LinearOrder R] [IsStrictOrderedRing R] (root : SquareRoot R)

theorem sqrtf_mul_self {c : R} (h : 0 ≤ c) : root.sqrtf (c * c) = c := by
  have hsquare := root.mul_self (c * c) (mul_self_nonneg c)
  exact (mul_self_inj (root.nonneg _ (mul_self_nonneg c)) h).mp hsquare

theorem rcpSqrt_mul_self {c : R} (hc : 0 < c) (hbound : smallestNonDenormal ≤ c * c) :
    root.rcpSqrt (c * c) = 1 / c := by
  rw [rcpSqrt, if_pos hbound, root.sqrtf_mul_self hc.le]

theorem smallestNonDenormal_le_one : (smallestNonDenormal : R) ≤ 1 := by
  unfold smallestNonDenormal
  norm_num

/-- From four times the square of a component the component is had up to its sign, and with
it what is multiplied with it. -/
theorem rcpSqrt_component {c : R} (h : 1 ≤ 4 * (c * c)) :
    ∃ e : R, (e = 1 ∨ e = -1) ∧
      ∀ d, root.rcpSqrt (4 * (c * c)) * (1 / 2) * (4 * (c * d)) = e * d := by
  have hne : c ≠ 0 := by
    rintro rfl
    simp at h
    linarith
  have hsquare : 4 * (c * c) = 2 * |c| * (2 * |c|) := by
    linear_combination -4 * abs_mul_abs_self c
  have hpos : 0 < 2 * |c| := by positivity
  have hroot : root.rcpSqrt (4 * (c * c)) = 1 / (2 * |c|) := by
    rw [hsquare]
    exact root.rcpSqrt_mul_self hpos (smallestNonDenormal_le_one.trans (hsquare ▸ h))
  rw [hroot]
  rcases abs_choice c with habs | habs
  · refine ⟨1, Or.inl rfl, fun d => ?_⟩
    rw [habs]
    field_simp
    norm_num
  · refine ⟨-1, Or.inr rfl, fun d => ?_⟩
    rw [habs]
    field_simp
    norm_num

end SquareRoot

namespace XrQuaternionf

variable {R : Type*} [Field R]

def opposite (q : XrQuaternionf R) : XrQuaternionf R := ⟨-q.x, -q.y, -q.z, -q.w⟩

theorem eq_or_eq_opposite {p q : XrQuaternionf R} {e : R} (he : e = 1 ∨ e = -1)
    (hx : p.x = e * q.x) (hy : p.y = e * q.y) (hz : p.z = e * q.z) (hw : p.w = e * q.w) :
    p = q ∨ p = q.opposite := by
  rcases he with rfl | rfl
  · exact Or.inl (XrQuaternionf.ext (by simpa using hx) (by simpa using hy) (by simpa using hz)
      (by simpa using hw))
  · exact Or.inr (XrQuaternionf.ext (by simpa [opposite] using hx) (by simpa [opposite] using hy)
      (by simpa [opposite] using hz) (by simpa [opposite] using hw))

/-- What the sums and differences of the entries are for the quaternion of a rotation: four
times the products of its components. -/
structure Products (q : XrQuaternionf R) (m : Fin 9 → R) : Prop where
  ww : m 0 + m 4 + m 8 + 1 = 4 * (q.w * q.w)
  xx : m 0 - m 4 - m 8 + 1 = 4 * (q.x * q.x)
  yy : -m 0 + m 4 - m 8 + 1 = 4 * (q.y * q.y)
  zz : -m 0 - m 4 + m 8 + 1 = 4 * (q.z * q.z)
  wx : m 5 - m 7 = 4 * (q.w * q.x)
  wy : m 6 - m 2 = 4 * (q.w * q.y)
  wz : m 1 - m 3 = 4 * (q.w * q.z)
  xy : m 1 + m 3 = 4 * (q.x * q.y)
  xz : m 6 + m 2 = 4 * (q.x * q.z)
  yz : m 5 + m 7 = 4 * (q.y * q.z)

/-- The columns of the rotated axes, one after the other. -/
theorem Unit.products {q : XrQuaternionf R} (h : q.Unit) :
    q.Products ![
      q.axes 0 0, q.axes 1 0, q.axes 2 0,
      q.axes 0 1, q.axes 1 1, q.axes 2 1,
      q.axes 0 2, q.axes 1 2, q.axes 2 2] := by
  rw [XrQuaternionf.Unit] at h
  simp only [axes_eq, of_apply, cons_val]
  constructor <;> simp only [cons_val]
  · linear_combination -h
  · linear_combination -h
  · linear_combination -h
  · linear_combination -h
  all_goals ring

variable [LinearOrder R] [IsStrictOrderedRing R] (root : SquareRoot R)

/-- Whichever branch is taken, its component is not small, and the quaternion is found up to
its sign. -/
theorem Unit.rotationBranches {q : XrQuaternionf R} (h : q.Unit) {m : Fin 9 → R}
    (hm : q.Products m) :
    XrMatrix4x4f.rotationBranches root m = q ∨
      XrMatrix4x4f.rotationBranches root m = q.opposite := by
  obtain ⟨hww, hxx, hyy, hzz, hwx, hwy, hwz, hxy, hxz, hyz⟩ := hm
  rw [XrQuaternionf.Unit] at h
  unfold XrMatrix4x4f.rotationBranches
  split_ifs with hw hx hy
  · obtain ⟨e, he, hd⟩ := root.rcpSqrt_component (c := q.w) (by linarith)
    rw [hww, hwx, hwy, hwz]
    refine eq_or_eq_opposite he ?_ ?_ ?_ (hd q.w)
    · linear_combination hd q.x
    · linear_combination hd q.y
    · linear_combination hd q.z
  · obtain ⟨e, he, hd⟩ := root.rcpSqrt_component (c := q.x) (by linarith)
    rw [hxx, hxy, hxz, hwx]
    refine eq_or_eq_opposite he (hd q.x) ?_ ?_ ?_
    · linear_combination hd q.y
    · linear_combination hd q.z
    · linear_combination hd q.w
  · have hle : m 0 ≤ m 4 := not_lt.mp fun hlt => hx ⟨hlt, hy.trans hlt⟩
    obtain ⟨e, he, hd⟩ := root.rcpSqrt_component (c := q.y) (by linarith)
    rw [hyy, hxy, hwy, hyz]
    refine eq_or_eq_opposite he ?_ (hd q.y) ?_ ?_
    · linear_combination hd q.x
    · linear_combination hd q.z
    · linear_combination hd q.w
  · have hle : m 0 ≤ m 8 :=
      not_lt.mp fun hlt => hx ⟨(not_lt.mp hy).trans_lt hlt, hlt⟩
    obtain ⟨e, he, hd⟩ := root.rcpSqrt_component (c := q.z) (by linarith)
    rw [hzz, hwz, hxz, hyz]
    refine eq_or_eq_opposite he ?_ ?_ (hd q.z) ?_
    · linear_combination hd q.x
    · linear_combination hd q.y
    · linear_combination hd q.w

end XrQuaternionf

namespace XrMatrix4x4f

variable {R : Type*} [Field R] [LinearOrder R] [IsStrictOrderedRing R] (root : SquareRoot R)
  (t : XrVector3f R) {q : XrQuaternionf R} {s : XrVector3f R}

omit [LinearOrder R] [IsStrictOrderedRing R] in
theorem getTranslation_eq (q : XrQuaternionf R) (s : XrVector3f R) :
    (createTranslationRotationScale t q s).getTranslation = t := by
  ext <;>
    simp [getTranslation, createTranslationRotationScale, multiply, createScale, createTranslation,
      createFromQuaternion]

omit [LinearOrder R] [IsStrictOrderedRing R] in
theorem columnProduct_self (h : q.Unit) (s : XrVector3f R) (k : Fin 3) :
    (createTranslationRotationScale t q s).columnProduct k k = s.toPoint k * s.toPoint k := by
  rw [columnProduct_eq t s h, if_pos rfl, one_mul]

theorem getScale_eq (h : q.Unit) (hs : 0 ≤ s.x ∧ 0 ≤ s.y ∧ 0 ≤ s.z) :
    (createTranslationRotationScale t q s).getScale root = s := by
  have hcolumn := columnProduct_self t h s
  obtain ⟨hx, hy, hz⟩ := hs
  refine XrVector3f.ext ?_ ?_ ?_
  · exact (congrArg root.sqrtf (hcolumn 0)).trans (root.sqrtf_mul_self hx)
  · exact (congrArg root.sqrtf (hcolumn 1)).trans (root.sqrtf_mul_self hy)
  · exact (congrArg root.sqrtf (hcolumn 2)).trans (root.sqrtf_mul_self hz)

/-- A scale that the reciprocal root can undo. -/
def Recoverable (c : R) : Prop := 0 < c ∧ smallestNonDenormal ≤ c * c

theorem getRotation_eq (h : q.Unit) (hs : ∀ k, Recoverable (s.toPoint k)) :
    (createTranslationRotationScale t q s).getRotation root = q ∨
      (createTranslationRotationScale t q s).getRotation root = q.opposite := by
  have hrcp (k : Fin 3) : root.rcpSqrt
      ((createTranslationRotationScale t q s).columnProduct k k) = 1 / s.toPoint k := by
    rw [columnProduct_self t h]
    exact root.rcpSqrt_mul_self (hs k).1 (hs k).2
  have hentry (k i : Fin 3) : (createTranslationRotationScale t q s).entry k.castSucc i.castSucc *
      root.rcpSqrt ((createTranslationRotationScale t q s).columnProduct k k) = q.axes i k := by
    rw [hrcp, entry_createTranslationRotationScale t s h, mul_assoc,
      mul_one_div_cancel (hs k).1.ne', mul_one]
  have hcolumns := h.rotationBranches root h.products
  rw [← hentry 0 0, ← hentry 0 1, ← hentry 0 2, ← hentry 1 0, ← hentry 1 1, ← hentry 1 2,
    ← hentry 2 0, ← hentry 2 1, ← hentry 2 2] at hcolumns
  exact hcolumns

/-- The parts that a combined matrix is taken apart to are those it was made of, the rotation
up to the sign of its quaternion. -/
theorem decomposition_undoes_composition (h : q.Unit)
    (hs : Recoverable s.x ∧ Recoverable s.y ∧ Recoverable s.z) :
    (createTranslationRotationScale t q s).getTranslation = t ∧
      (createTranslationRotationScale t q s).getScale root = s ∧
      ((createTranslationRotationScale t q s).getRotation root = q ∨
        (createTranslationRotationScale t q s).getRotation root = q.opposite) := by
  obtain ⟨hx, hy, hz⟩ := hs
  refine ⟨getTranslation_eq t q s, getScale_eq root t h ⟨hx.1.le, hy.1.le, hz.1.le⟩,
    getRotation_eq root t h fun k => ?_⟩
  fin_cases k
  · exact hx
  · exact hy
  · exact hz

end XrMatrix4x4f

noncomputable def realRoot : SquareRoot ℝ where
  sqrtf := Real.sqrt
  nonneg x _ := Real.sqrt_nonneg x
  mul_self _ := Real.mul_self_sqrt

theorem decomposition_undoes_composition_turn :
    let composed := XrMatrix4x4f.createTranslationRotationScale (R := ℝ) ⟨1, 2, 3⟩
      ⟨3 / 5, 0, 4 / 5, 0⟩ ⟨2, 1, 1 / 2⟩
    composed.getTranslation = ⟨1, 2, 3⟩ ∧ composed.getScale realRoot = ⟨2, 1, 1 / 2⟩ ∧
      (composed.getRotation realRoot = ⟨3 / 5, 0, 4 / 5, 0⟩ ∨
        composed.getRotation realRoot = XrQuaternionf.opposite ⟨3 / 5, 0, 4 / 5, 0⟩) := by
  refine XrMatrix4x4f.decomposition_undoes_composition realRoot ⟨1, 2, 3⟩ ?_ ⟨?_, ?_, ?_⟩
  · norm_num [XrQuaternionf.Unit]
  · norm_num [XrMatrix4x4f.Recoverable, smallestNonDenormal]
  · norm_num [XrMatrix4x4f.Recoverable, smallestNonDenormal]
  · norm_num [XrMatrix4x4f.Recoverable, smallestNonDenormal]

end OpenXRSdk
