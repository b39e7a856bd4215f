import OpenXRSdk.Decomposition

/-!
# Rotations from angles, and between rotations

The quaternion of an axis and an angle, the matrix of three angles, and what lies between two
orientations.
-/
namespace OpenXRSdk

variable {R : Type*} [Field R]

namespace Trigonometry

variable (trig : Trigonometry R)

theorem one_sub_cos (x : R) : 1 - trig.cosf x = 2 * (trig.sinf (x / 2) * trig.sinf (x / 2)) := by
  linear_combination -trig.cos_double x - trig.sq_add_sq (x / 2)

end Trigonometry

theorem sin_of_half (x : ℝ) : Real.sin x = 2 * Real.sin (x / 2) * Real.cos (x / 2) := by
  rw [← Real.sin_two_mul, mul_div_cancel₀ x two_ne_zero]

theorem cos_of_half (x : ℝ) : Real.cos x =
    Real.cos (x / 2) * Real.cos (x / 2) - Real.sin (x / 2) * Real.sin (x / 2) := by
  have hdouble := Real.cos_two_mul' (x / 2)
  rw [mul_div_cancel₀ x two_ne_zero] at hdouble
  linear_combination hdouble

theorem sin_mul_self_add_cos_mul_self (x : ℝ) :
    Real.sin x * Real.sin x + Real.cos x * Real.cos x = 1 := by
  linear_combination Real.sin_sq_add_cos_sq x

noncomputable def realTrigonometry : Trigonometry ℝ where
  sinf := Real.sin
  cosf := Real.cos
  sq_add_sq := sin_mul_self_add_cos_mul_self
  sin_double := sin_of_half
  cos_double := cos_of_half

section Order
variable [LinearOrder R] [IsStrictOrderedRing R] (root : SquareRoot R)

/-- What is not too short can be made of length one. -/
theorem SquareRoot.rcpSqrt_sq {x : R} (h : smallestNonDenormal ≤ x) :
    root.rcpSqrt x * root.rcpSqrt x * x = 1 := by
  have hpos : 0 < x := by
    have hsmall : (0 : R) < smallestNonDenormal := by
      unfold smallestNonDenormal
      positivity
    exact hsmall.trans_le h
  have hsquare := root.mul_self x hpos.le
  have hne : root.sqrtf x ≠ 0 := by
    intro hzero
    rw [hzero, mul_zero] at hsquare
    exact hpos.ne hsquare
  rw [SquareRoot.rcpSqrt, if_pos h]
  field_simp
  rw [sq]
  exact hsquare.symm

theorem SquareRoot.rcpSqrt_nonneg {x : R} (h : smallestNonDenormal ≤ x) : 0 ≤ root.rcpSqrt x := by
  have hpos : (0 : R) ≤ smallestNonDenormal := by
    unfold smallestNonDenormal
    positivity
  rw [SquareRoot.rcpSqrt, if_pos h]
  exact one_div_nonneg.mpr (root.nonneg x (hpos.trans h))

theorem SquareRoot.rcpSqrt_one : root.rcpSqrt 1 = 1 := by
  have hone : (smallestNonDenormal : R) ≤ 1 * 1 := by
    rw [mul_one]
    exact SquareRoot.smallestNonDenormal_le_one
  have hroot := root.rcpSqrt_mul_self one_pos hone
  rwa [mul_one, div_one] at hroot

theorem XrVector3f.normalize_unit {v : XrVector3f R} (h : smallestNonDenormal ≤ v.dot v) :
    (v.normalize root).dot (v.normalize root) = 1 := by
  have hsq := root.rcpSqrt_sq h
  unfold dot at hsq ⊢
  unfold normalize
  linear_combination hsq

/-! ## An axis and an angle -/

namespace XrQuaternionf

variable (trig : Trigonometry R)

omit [IsStrictOrderedRing R] in
theorem createFromAxisAngle_eq (axis : XrVector3f R) (angleInRadians : R) :
    createFromAxisAngle root trig axis angleInRadians =
      ⟨trig.sinf (angleInRadians / 2) * (axis.normalize root).x,
        trig.sinf (angleInRadians / 2) * (axis.normalize root).y,
        trig.sinf (angleInRadians / 2) * (axis.normalize root).z,
        trig.cosf (angleInRadians / 2)⟩ := by
  ext <;> simp only [createFromAxisAngle, XrVector3f.normalize]
  · ring
  · ring
  · ring

theorem createFromAxisAngle_unit {axis : XrVector3f R} (h : smallestNonDenormal ≤ axis.dot axis)
    (angleInRadians : R) : (createFromAxisAngle root trig axis angleInRadians).Unit := by
  have hunit := axis.normalize_unit root h
  rw [createFromAxisAngle_eq]
  unfold XrVector3f.dot at hunit
  unfold Unit
  linear_combination
    trig.sinf (angleInRadians / 2) * trig.sinf (angleInRadians / 2) * hunit +
      trig.sq_add_sq (angleInRadians / 2)

/-- The quaternion turns a vector about the axis by the angle, right-handed: the part along the axis
stays, and the rest is turned in its plane. -/
theorem rotateVector3f_createFromAxisAngle {axis : XrVector3f R}
    (h : smallestNonDenormal ≤ axis.dot axis) (angleInRadians : R) (v : XrVector3f R) :
    let u := axis.normalize root
    (createFromAxisAngle root trig axis angleInRadians).Unit ∧
      (createFromAxisAngle root trig axis angleInRadians).rotateVector3f v =
        ((v.scale (trig.cosf angleInRadians)).add
          ((u.cross v).scale (trig.sinf angleInRadians))).add
          (u.scale (u.dot v * (1 - trig.cosf angleInRadians))) := by
  intro u
  refine ⟨createFromAxisAngle_unit root trig h angleInRadians, ?_⟩
  have hunit : u.x * u.x + u.y * u.y + u.z * u.z = 1 := axis.normalize_unit root h
  have hcos := trig.cos_double angleInRadians
  have hsin := trig.sin_double angleInRadians
  have hone := trig.one_sub_cos angleInRadians
  rw [createFromAxisAngle_eq, rotateVector3f_eq, hone, hcos, hsin]
  generalize trig.sinf (angleInRadians / 2) = s
  generalize trig.cosf (angleInRadians / 2) = c
  ext <;> simp only [XrVector3f.add, XrVector3f.scale, XrVector3f.cross, XrVector3f.dot]
  · linear_combination -(s * s * v.x) * hunit
  · linear_combination -(s * s * v.y) * hunit
  · linear_combination -(s * s * v.z) * hunit

/-- A quarter turn about Z. -/
theorem rotateVector3f_createFromAxisAngle_quarter :
    (createFromAxisAngle realRoot realTrigonometry ⟨0, 0, 2⟩ (Real.pi / 2)).rotateVector3f ⟨1, 0, 0⟩ =
      ⟨0, 1, 0⟩ := by
  have hlong : (smallestNonDenormal : ℝ) ≤ XrVector3f.dot ⟨0, 0, 2⟩ ⟨0, 0, 2⟩ := by
    norm_num [XrVector3f.dot, smallestNonDenormal]
  have hroot : realRoot.rcpSqrt (2 * 2) = 1 / 2 :=
    realRoot.rcpSqrt_mul_self (by norm_num) (by norm_num [smallestNonDenormal])
  rw [(rotateVector3f_createFromAxisAngle realRoot realTrigonometry hlong (Real.pi / 2) ⟨1, 0, 0⟩).2]
  simp [XrVector3f.add, XrVector3f.scale, XrVector3f.cross, XrVector3f.dot, XrVector3f.normalize,
    realTrigonometry, hroot]

/-- The axes of the three angles. -/
theorem createFromAxisAngle_axes (angleInRadians : R) :
    createFromAxisAngle root trig ⟨1, 0, 0⟩ angleInRadians =
        ⟨trig.sinf (angleInRadians / 2), 0, 0, trig.cosf (angleInRadians / 2)⟩ ∧
      createFromAxisAngle root trig ⟨0, 1, 0⟩ angleInRadians =
        ⟨0, trig.sinf (angleInRadians / 2), 0, trig.cosf (angleInRadians / 2)⟩ ∧
      createFromAxisAngle root trig ⟨0, 0, 1⟩ angleInRadians =
        ⟨0, 0, trig.sinf (angleInRadians / 2), trig.cosf (angleInRadians / 2)⟩ := by
  have hone := root.rcpSqrt_one
  refine ⟨?_, ?_, ?_⟩ <;> simp [createFromAxisAngle, hone]

end XrQuaternionf

/-! ## Three angles -/

omit [LinearOrder R] [IsStrictOrderedRing R] in
theorem XrQuaternionf.rotateVector3f_multiply (a b : XrQuaternionf R) (v : XrVector3f R) :
    (a.multiply b).rotateVector3f v = b.rotateVector3f (a.rotateVector3f v) := by
  apply XrVector3f.toQuaternion_injective
  simp only [XrQuaternionf.toQuaternion_rotateVector3f, XrQuaternionf.toQuaternion_multiply, star_mul,
    mul_assoc]

namespace XrMatrix4x4f

omit [LinearOrder R] [IsStrictOrderedRing R] in
theorem rigid_createFromQuaternion (q : XrQuaternionf R) :
    rigid (createFromQuaternion q) (XrVector3f.set 0) = createFromQuaternion q := by
  ext k
  fin_cases k <;> rfl

omit [LinearOrder R] [IsStrictOrderedRing R] in
theorem createFromQuaternion_multiply {a b : XrQuaternionf R} (ha : a.Unit) (hb : b.Unit) :
    createFromQuaternion (a.multiply b) = (createFromQuaternion b).multiply (createFromQuaternion a) := by
  have horigin : b.rotateVector3f (XrVector3f.set 0) = XrVector3f.set 0 := by
    rw [XrQuaternionf.rotateVector3f_eq]
    simp [XrVector3f.set]
  have hposition : (⟨b, XrVector3f.set 0⟩ : XrPosef R).multiply ⟨a, XrVector3f.set 0⟩ =
      ⟨a.multiply b, XrVector3f.set 0⟩ := by
    rw [XrPosef.multiply, XrPosef.transformVector3f, horigin]
    simp [XrVector3f.set, XrVector3f.add]
  have hposes := createFromRigidTransform_multiply ⟨b, XrVector3f.set 0⟩ ⟨a, XrVector3f.set 0⟩ hb ha
  rw [hposition] at hposes
  simpa only [createFromRigidTransform_eq, rigid_createFromQuaternion] using hposes

omit [LinearOrder R] [IsStrictOrderedRing R] in
theorem transformVector3f_createFromQuaternion {q : XrQuaternionf R} (h : q.Unit)
    (v : XrVector3f R) : (createFromQuaternion q).transformVector3f v = q.rotateVector3f v := by
  rw [← rigid_createFromQuaternion, rigid_transformVector3f, linear_createFromQuaternion q h]
  simp [XrVector3f.set, XrVector3f.add]

variable (trig : Trigonometry R)

/-- Each of the three rotations is that of a quaternion. -/
theorem rotations_eq (x : R) :
    (⟨![1, 0, 0, 0, 0, trig.cosf x, trig.sinf x, 0, 0, -trig.sinf x, trig.cosf x, 0, 0, 0, 0, 1]⟩ :
        XrMatrix4x4f R) =
        createFromQuaternion (XrQuaternionf.createFromAxisAngle root trig ⟨1, 0, 0⟩ x) ∧
      (⟨![trig.cosf x, 0, -trig.sinf x, 0, 0, 1, 0, 0, trig.sinf x, 0, trig.cosf x, 0, 0, 0, 0, 1]⟩ :
        XrMatrix4x4f R) =
        createFromQuaternion (XrQuaternionf.createFromAxisAngle root trig ⟨0, 1, 0⟩ x) ∧
      (⟨![trig.cosf x, trig.sinf x, 0, 0, -trig.sinf x, trig.cosf x, 0, 0, 0, 0, 1, 0, 0, 0, 0, 1]⟩ :
        XrMatrix4x4f R) =
        createFromQuaternion (XrQuaternionf.createFromAxisAngle root trig ⟨0, 0, 1⟩ x) := by
  obtain ⟨hx, hy, hz⟩ := XrQuaternionf.createFromAxisAngle_axes root trig x
  have hcos : trig.cosf x = 1 - trig.sinf (x / 2) * (trig.sinf (x / 2) + trig.sinf (x / 2)) := by
    linear_combination -trig.one_sub_cos x
  have hsin : trig.sinf x = trig.cosf (x / 2) * (trig.sinf (x / 2) + trig.sinf (x / 2)) := by
    linear_combination trig.sin_double x
  rw [hx, hy, hz]
  refine ⟨?_, ?_, ?_⟩ <;> ext k <;> fin_cases k <;> simp [createFromQuaternion, hcos, hsin]

/-- The matrix of three angles is that of the quaternion that turns by the first about X, then by
the second about Y, then by the third about Z, and it turns vectors like that. -/
theorem createRotationRadians_eq (radiansX radiansY radiansZ : R) (v : XrVector3f R) :
    let qx := XrQuaternionf.createFromAxisAngle root trig ⟨1, 0, 0⟩ radiansX
    let qy := XrQuaternionf.createFromAxisAngle root trig ⟨0, 1, 0⟩ radiansY
    let qz := XrQuaternionf.createFromAxisAngle root trig ⟨0, 0, 1⟩ radiansZ
    ((qx.multiply qy).multiply qz).Unit ∧
      createRotationRadians trig radiansX radiansY radiansZ =
        createFromQuaternion ((qx.multiply qy).multiply qz) ∧
      (createRotationRadians trig radiansX radiansY radiansZ).transformVector3f v =
        qz.rotateVector3f (qy.rotateVector3f (qx.rotateVector3f v)) := by
  intro qx qy qz
  have hlong : (smallestNonDenormal : R) ≤ 1 := SquareRoot.smallestNonDenormal_le_one
  have hqx : qx.Unit :=
    XrQuaternionf.createFromAxisAngle_unit root trig (by simpa [XrVector3f.dot] using hlong) _
  have hqy : qy.Unit :=
    XrQuaternionf.createFromAxisAngle_unit root trig (by simpa [XrVector3f.dot] using hlong) _
  have hqz : qz.Unit :=
    XrQuaternionf.createFromAxisAngle_unit root trig (by simpa [XrVector3f.dot] using hlong) _
  have hunit := (hqx.multiply hqy).multiply hqz
  have hmatrix : createRotationRadians trig radiansX radiansY radiansZ =
      createFromQuaternion ((qx.multiply qy).multiply qz) := by
    unfold createRotationRadians
    dsimp only
    rw [(rotations_eq root trig radiansX).1, (rotations_eq root trig radiansY).2.1,
      (rotations_eq root trig radiansZ).2.2, createFromQuaternion_multiply (hqx.multiply hqy) hqz,
      createFromQuaternion_multiply hqx hqy]
  refine ⟨hunit, hmatrix, ?_⟩
  rw [hmatrix, transformVector3f_createFromQuaternion hunit, XrQuaternionf.rotateVector3f_multiply,
    XrQuaternionf.rotateVector3f_multiply]

theorem createRotationRadians_eq_real :
    let qx := XrQuaternionf.createFromAxisAngle realRoot realTrigonometry ⟨1, 0, 0⟩ 1
    let qy := XrQuaternionf.createFromAxisAngle realRoot realTrigonometry ⟨0, 1, 0⟩ 2
    let qz := XrQuaternionf.createFromAxisAngle realRoot realTrigonometry ⟨0, 0, 1⟩ 3
    createRotationRadians realTrigonometry 1 2 3 =
      createFromQuaternion ((qx.multiply qy).multiply qz) :=
  (createRotationRadians_eq realRoot realTrigonometry 1 2 3 ⟨1, 0, 0⟩).2.1

end XrMatrix4x4f

/-! ## Between two orientations -/

namespace XrQuaternionf

/-- The cosine of half the angle between two orientations, up to its sign. -/
def dot (a b : XrQuaternionf R) : R := a.x * b.x + a.y * b.y + a.z * b.z + a.w * b.w

/-- The one of the two quaternions of an orientation that is nearer. -/
def nearer (a b : XrQuaternionf R) : XrQuaternionf R := if a.dot b < 0 then b.opposite else b

def chord (a b : XrQuaternionf R) (fraction : R) : XrQuaternionf R :=
  ⟨a.x * (1 - fraction) + b.x * fraction, a.y * (1 - fraction) + b.y * fraction,
    a.z * (1 - fraction) + b.z * fraction, a.w * (1 - fraction) + b.w * fraction⟩

variable {a b : XrQuaternionf R} {fraction : R}

omit [IsStrictOrderedRing R] in
theorem lerp_eq : lerp root a b fraction = (chord a (a.nearer b) fraction).normalize root := by
  have hs : a.x * b.x + a.y * b.y + a.z * b.z + a.w * b.w = a.dot b := rfl
  unfold lerp nearer
  rw [hs]
  by_cases hneg : a.dot b < 0
  · simp only [if_pos hneg, normalize, chord, opposite, neg_mul, mul_neg]
  · simp only [if_neg hneg, normalize, chord]

theorem dot_nearer : a.dot (a.nearer b) = |a.dot b| := by
  unfold nearer
  split_ifs with hneg
  · rw [abs_of_neg hneg]
    simp only [dot, opposite]
    ring
  · exact (abs_of_nonneg (not_lt.mp hneg)).symm

omit [IsStrictOrderedRing R] in
theorem Unit.nearer (hb : b.Unit) : (a.nearer b).Unit := by
  unfold XrQuaternionf.nearer
  split_ifs
  · simpa only [Unit, opposite, neg_mul_neg] using hb
  · exact hb

theorem abs_dot_le_one (ha : a.Unit) (hb : b.Unit) : |a.dot b| ≤ 1 := by
  unfold Unit at ha hb
  rw [abs_le]
  unfold dot
  constructor
  · nlinarith [mul_self_nonneg (a.x + b.x), mul_self_nonneg (a.y + b.y),
      mul_self_nonneg (a.z + b.z), mul_self_nonneg (a.w + b.w)]
  · nlinarith [mul_self_nonneg (a.x - b.x), mul_self_nonneg (a.y - b.y),
      mul_self_nonneg (a.z - b.z), mul_self_nonneg (a.w - b.w)]

omit [LinearOrder R] [IsStrictOrderedRing R] in
theorem dot_chord_self (ha : a.Unit) (hb : b.Unit) :
    (chord a b fraction).dot (chord a b fraction) =
      (1 - fraction) ^ 2 + fraction ^ 2 + 2 * fraction * (1 - fraction) * a.dot b := by
  unfold Unit at ha hb
  unfold dot chord
  linear_combination (1 - fraction) ^ 2 * ha + fraction ^ 2 * hb

/-- The chord between orientations that are no more than half a turn apart stays away from zero. -/
theorem chord_long (ha : a.Unit) (hb : b.Unit) (hs : 0 ≤ a.dot b) (h0 : 0 ≤ fraction)
    (h1 : fraction ≤ 1) :
    (smallestNonDenormal : R) ≤ (chord a b fraction).dot (chord a b fraction) := by
  have hsmall : (smallestNonDenormal : R) ≤ 1 / 2 := by
    unfold smallestNonDenormal
    norm_num
  have hcross : 0 ≤ 2 * fraction * (1 - fraction) * a.dot b :=
    mul_nonneg (mul_nonneg (by linarith) (by linarith)) hs
  have hsquares : 1 / 2 ≤ (1 - fraction) ^ 2 + fraction ^ 2 := by
    nlinarith [sq_nonneg (2 * fraction - 1)]
  rw [dot_chord_self ha hb]
  linarith

omit [IsStrictOrderedRing R] in
theorem dot_normalize (a c : XrQuaternionf R) :
    a.dot (c.normalize root) = a.dot c * root.rcpSqrt (c.dot c) := by
  unfold dot normalize
  ring

omit [LinearOrder R] [IsStrictOrderedRing R] in
theorem dot_comm (a b : XrQuaternionf R) : a.dot b = b.dot a := by
  unfold dot
  ring

/-- A product with a point of the chord that is large enough stays so on the arc. -/
theorem le_dot_normalize {c : XrQuaternionf R} (hc : smallestNonDenormal ≤ c.dot c) {d : R}
    (hd : 0 ≤ d) (hpos : 0 ≤ a.dot c) (hle : d ^ 2 * c.dot c ≤ (a.dot c) ^ 2) :
    d ≤ a.dot (c.normalize root) := by
  have hr := root.rcpSqrt_nonneg hc
  have hsq := root.rcpSqrt_sq hc
  rw [dot_normalize]
  refine (pow_le_pow_iff_left₀ hd (mul_nonneg hpos hr) two_ne_zero).mp ?_
  calc d ^ 2 = d ^ 2 * c.dot c * (root.rcpSqrt (c.dot c)) ^ 2 := by
        linear_combination -(d ^ 2) * hsq
    _ ≤ (a.dot c) ^ 2 * (root.rcpSqrt (c.dot c)) ^ 2 :=
        mul_le_mul_of_nonneg_right hle (sq_nonneg _)
    _ = (a.dot c * root.rcpSqrt (c.dot c)) ^ 2 := by ring

/-- The point of the chord is as near to its beginning as its end is. -/
theorem sq_dot_le_chord (ha : a.Unit) (hb : b.Unit) (hs : 0 ≤ a.dot b) (h0 : 0 ≤ fraction)
    (h1 : fraction ≤ 1) : 0 ≤ a.dot (chord a b fraction) ∧
      (a.dot b) ^ 2 * (chord a b fraction).dot (chord a b fraction) ≤
        (a.dot (chord a b fraction)) ^ 2 := by
  have hle : a.dot b ≤ 1 := (le_abs_self _).trans (abs_dot_le_one ha hb)
  have hdot : a.dot (chord a b fraction) = (1 - fraction) + fraction * a.dot b := by
    unfold Unit at ha
    unfold dot chord
    linear_combination (1 - fraction) * ha
  have hf : 0 ≤ 1 - fraction := by linarith
  refine ⟨hdot ▸ add_nonneg hf (mul_nonneg h0 hs), ?_⟩
  have hgap : 0 ≤ (1 - (a.dot b) ^ 2) * ((1 - fraction) * ((1 - fraction) + 2 * fraction * a.dot b)) := by
    refine mul_nonneg (by nlinarith) (mul_nonneg hf (add_nonneg hf ?_))
    exact mul_nonneg (by linarith) hs
  rw [hdot, dot_chord_self ha hb]
  linear_combination hgap

omit [LinearOrder R] [IsStrictOrderedRing R] in
theorem chord_symm : chord a b fraction = chord b a (1 - fraction) := by
  ext <;> simp only [chord] <;> ring

omit [LinearOrder R] [IsStrictOrderedRing R] in
theorem dot_opposite (a b : XrQuaternionf R) : a.dot b.opposite = -a.dot b := by
  simp only [dot, opposite]
  ring

omit [LinearOrder R] [IsStrictOrderedRing R] in
theorem opposite_opposite (b : XrQuaternionf R) : b.opposite.opposite = b := by
  simp only [opposite, neg_neg]

omit [IsStrictOrderedRing R] in
theorem abs_dot_nearer (c : XrQuaternionf R) : |(a.nearer b).dot c| = |c.dot b| := by
  rw [dot_comm]
  unfold nearer
  split_ifs
  · rw [dot_opposite, abs_neg]
  · rfl

theorem nearer_opposite (hne : a.dot b ≠ 0) : a.nearer b.opposite = a.nearer b := by
  unfold nearer
  rw [dot_opposite, opposite_opposite]
  rcases lt_or_gt_of_ne hne with hneg | hpos
  · rw [if_neg (by linarith), if_pos hneg]
  · rw [if_pos (by linarith), if_neg (by linarith)]

/-- Between two orientations there is always one, as near to each of them as they are to each
other, and which of its two quaternions stands for an end does not matter. -/
theorem lerp_between (ha : a.Unit) (hb : b.Unit) (h0 : 0 ≤ fraction) (h1 : fraction ≤ 1) :
    (lerp root a b fraction).Unit ∧ |a.dot b| ≤ a.dot (lerp root a b fraction) ∧
      |a.dot b| ≤ |(lerp root a b fraction).dot b| ∧
      (a.dot b ≠ 0 → lerp root a b.opposite fraction = lerp root a b fraction) := by
  have hn : (a.nearer b).Unit := hb.nearer
  have hs : 0 ≤ a.dot (a.nearer b) := dot_nearer (R := R) ▸ abs_nonneg _
  have hlong := chord_long ha hn hs h0 h1
  refine ⟨?_, ?_, ?_, fun hne => ?_⟩
  · rw [lerp_eq]
    have hsq := root.rcpSqrt_sq hlong
    unfold Unit normalize
    unfold dot at hsq
    linear_combination hsq
  · rw [lerp_eq, ← dot_nearer]
    obtain ⟨hpos, hle⟩ := sq_dot_le_chord ha hn hs h0 h1
    exact le_dot_normalize root hlong hs hpos hle
  · have hback : 0 ≤ (a.nearer b).dot a := dot_comm a _ ▸ hs
    obtain ⟨hpos, hle⟩ := sq_dot_le_chord hn ha hback (by linarith : 0 ≤ 1 - fraction) (by linarith)
    rw [← chord_symm] at hpos hle
    have hend : |(a.nearer b).dot (lerp root a b fraction)| = |(lerp root a b fraction).dot b| :=
      abs_dot_nearer _
    rw [← hend, lerp_eq, ← dot_nearer, dot_comm a]
    exact (le_dot_normalize root hlong hback hpos hle).trans (le_abs_self _)
  · rw [lerp_eq, lerp_eq, nearer_opposite hne]

/-- Half way to an orientation whose quaternion points away. -/
theorem lerp_between_half :
    let a : XrQuaternionf ℝ := ⟨0, 0, 0, 1⟩
    let b : XrQuaternionf ℝ := ⟨0, 0, 3 / 5, -4 / 5⟩
    (lerp realRoot a b (1 / 2)).Unit ∧ 4 / 5 ≤ a.dot (lerp realRoot a b (1 / 2)) := by
  intro a b
  have ha : a.Unit := by norm_num [a, Unit]
  have hb : b.Unit := by norm_num [b, Unit]
  have hdot : |a.dot b| = 4 / 5 := by norm_num [a, b, dot, abs_of_neg]
  have hbetween := lerp_between realRoot ha hb (by norm_num : (0 : ℝ) ≤ 1 / 2) (by norm_num)
  rw [hdot] at hbetween
  exact ⟨hbetween.1, hbetween.2.1⟩

end XrQuaternionf
end Order

end OpenXRSdk
