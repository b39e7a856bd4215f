import OpenXRSdk.Boxes
import OpenXRSdk.RigidTransforms

/-!
# Bounds

A box under a matrix: culling looks at eight corners and speaks for every point, and the
transformed bounds enclose the image as tightly as a box can.
-/
namespace OpenXRSdk

open Boxes Matrix

/-! ## Boxes of vectors -/

namespace XrVector3f

variable {R : Type*}

def InBox [LE R] (mins maxs v : XrVector3f R) : Prop :=
  (mins.x ≤ v.x ∧ v.x ≤ maxs.x) ∧ (mins.y ≤ v.y ∧ v.y ≤ maxs.y) ∧ mins.z ≤ v.z ∧ v.z ≤ maxs.z

/-- The corner with the maxima of some components and the minima of the others. -/
def boxCorner (mins maxs : XrVector3f R) (upper : Fin 3 → Bool) : XrVector3f R where
  x := if upper 0 then maxs.x else mins.x
  y := if upper 1 then maxs.y else mins.y
  z := if upper 2 then maxs.z else mins.z

theorem toPoint_boxCorner (mins maxs : XrVector3f R) (upper : Fin 3 → Bool) :
    (boxCorner mins maxs upper).toPoint = corner mins.toPoint maxs.toPoint upper := by
  funext i
  fin_cases i <;> rfl

theorem toPoint_le_iff [Preorder R] {v w : XrVector3f R} :
    v.toPoint ≤ w.toPoint ↔ v.x ≤ w.x ∧ v.y ≤ w.y ∧ v.z ≤ w.z := by
  rw [Pi.le_def, Fin.forall_fin_succ, Fin.forall_fin_two]
  rfl

theorem inBox_iff [Preorder R] {mins maxs v : XrVector3f R} :
    InBox mins maxs v ↔ v.toPoint ∈ Set.Icc mins.toPoint maxs.toPoint := by
  rw [Set.mem_Icc, toPoint_le_iff, toPoint_le_iff, InBox]
  tauto

end XrVector3f

open XrVector3f

variable {R : Type*} [Field R]

/-- A row of a matrix, as a form of the first three components of a point. -/
def XrMatrix4x4f.rowForm (matrix : XrMatrix4x4f R) (r : Fin 4) : AffineForm (Fin 3) R :=
  (fun i => matrix.entry i.castSucc r, matrix.entry (Fin.last 3) r)

theorem XrMatrix4x4f.eval_rowForm (matrix : XrMatrix4x4f R) (r : Fin 4) (p : Fin 3 → R) :
    (matrix.rowForm r).eval p =
      matrix.entry 0 r * p 0 + matrix.entry 1 r * p 1 + matrix.entry 2 r * p 2 +
        matrix.entry 3 r := by
  simp only [AffineForm.eval, rowForm, dotProduct, Fin.sum_univ_three]
  rfl

/-! ## Culling -/

inductive ClipPlane
  | left
  | right
  | bottom
  | top
  | near
  | far

namespace ClipPlane

def Outside [LE R] : ClipPlane → XrVector4f R → Prop
  | left, c => c.x ≤ -c.w
  | right, c => c.x ≥ c.w
  | bottom, c => c.y ≤ -c.w
  | top, c => c.y ≥ c.w
  | near, c => c.z ≤ -c.w
  | far, c => c.z ≥ c.w

end ClipPlane

def XrMatrix4x4f.clip (mvp : XrMatrix4x4f R) (v : XrVector3f R) : XrVector4f R :=
  mvp.transformVector4f ⟨v.x, v.y, v.z, 1⟩

theorem XrMatrix4x4f.clip_eq (mvp : XrMatrix4x4f R) (v : XrVector3f R) :
    mvp.clip v = ⟨(mvp.rowForm 0).eval v.toPoint, (mvp.rowForm 1).eval v.toPoint,
      (mvp.rowForm 2).eval v.toPoint, (mvp.rowForm 3).eval v.toPoint⟩ := by
  ext <;> simp [clip, transformVector4f, eval_rowForm, entry, toPoint]

section Culling

variable [LinearOrder R] [IsStrictOrderedRing R] (mvp : XrMatrix4x4f R) {mins maxs : XrVector3f R}

/-- A form that is not positive outside of the plane. -/
theorem ClipPlane.exists_form (plane : ClipPlane) :
    ∃ form : AffineForm (Fin 3) R,
      ∀ v, plane.Outside (mvp.clip v) ↔ form.eval v.toPoint ≤ 0 := by
  have hlower (r : Fin 4) (p : Fin 3 → R) : (mvp.rowForm r).eval p ≤ -(mvp.rowForm 3).eval p ↔
      (mvp.rowForm r + mvp.rowForm 3).eval p ≤ 0 := by
    rw [AffineForm.eval_add, le_neg_iff_add_nonpos_right]
  have hupper (r : Fin 4) (p : Fin 3 → R) : (mvp.rowForm r).eval p ≥ (mvp.rowForm 3).eval p ↔
      (mvp.rowForm 3 - mvp.rowForm r).eval p ≤ 0 := by
    rw [AffineForm.eval_sub, sub_nonpos, ge_iff_le]
  simp only [mvp.clip_eq]
  cases plane with
  | left => exact ⟨_, fun v => hlower 0 v.toPoint⟩
  | right => exact ⟨_, fun v => hupper 0 v.toPoint⟩
  | bottom => exact ⟨_, fun v => hlower 1 v.toPoint⟩
  | top => exact ⟨_, fun v => hupper 1 v.toPoint⟩
  | near => exact ⟨_, fun v => hlower 2 v.toPoint⟩
  | far => exact ⟨_, fun v => hupper 2 v.toPoint⟩

/-- What is outside of a plane at every corner is outside of it in the whole box. -/
theorem forall_boxCorner_iff (h : mins.toPoint ≤ maxs.toPoint) (plane : ClipPlane) :
    (∀ upper, plane.Outside (mvp.clip (boxCorner mins maxs upper))) ↔
      ∀ v, InBox mins maxs v → plane.Outside (mvp.clip v) := by
  obtain ⟨form, hform⟩ := plane.exists_form mvp
  simp only [hform, toPoint_boxCorner, forall_corner_le_iff h, inBox_iff]
  constructor
  · intro hbox v hv
    exact hbox v.toPoint hv
  · intro hbox p hp
    obtain ⟨v, rfl⟩ := XrVector3f.toPoint_surjective p
    exact hbox v hp

def cornerBits (i : Fin 8) : Fin 3 → Bool :=
  ![i.val &&& 1 ≠ 0, i.val &&& 2 ≠ 0, i.val &&& 4 ≠ 0]

theorem cornerBits_surjective : Function.Surjective cornerBits := by decide

omit [Field R] [LinearOrder R] [IsStrictOrderedRing R] in
/-- No corner stops the loop. -/
theorem breakIndex_eq_iff {c : Fin 8 → XrVector4f R} {stop : XrVector4f R → Bool} :
    XrMatrix4x4f.breakIndex c stop = 8 ↔ ∀ i, stop (c i) = false := by
  have hlength := @List.findIdx_eq_length _ (fun i => stop (c i)) (List.finRange 8)
  simpa [XrMatrix4x4f.breakIndex] using hlength

omit [LinearOrder R] [IsStrictOrderedRing R] in
theorem cornersOf_eq (i : Fin 8) :
    mvp.cornersOf mins maxs i = mvp.clip (boxCorner mins maxs (cornerBits i)) := by
  simp [XrMatrix4x4f.cornersOf, XrMatrix4x4f.clip, boxCorner, cornerBits]

omit [IsStrictOrderedRing R] in
/-- Each loop looks at one plane. -/
theorem cullBounds_iff_cornersOf (h : ¬(maxs.x ≤ mins.x ∧ maxs.y ≤ mins.y ∧ maxs.z ≤ mins.z)) :
    mvp.cullBounds mins maxs ↔
      ∃ plane : ClipPlane, ∀ i, plane.Outside (mvp.cornersOf mins maxs i) := by
  rw [XrMatrix4x4f.cullBounds, if_neg h]
  simp only [breakIndex_eq_iff, decide_eq_false_iff_not, gt_iff_lt, not_lt]
  constructor
  · intro hloops
    split_ifs at hloops with hleft hright hbottom htop hnear
    · exact ⟨.left, hleft⟩
    · exact ⟨.right, hright⟩
    · exact ⟨.bottom, hbottom⟩
    · exact ⟨.top, htop⟩
    · exact ⟨.near, hnear⟩
    · rw [decide_eq_true_eq] at hloops
      exact ⟨.far, hloops⟩
  · rintro ⟨plane, hplane⟩
    split_ifs with hleft hright hbottom htop hnear
    all_goals try rfl
    cases plane with
    | left => exact absurd hplane hleft
    | right => exact absurd hplane hright
    | bottom => exact absurd hplane hbottom
    | top => exact absurd hplane htop
    | near => exact absurd hplane hnear
    | far =>
      rw [decide_eq_true_eq]
      exact hplane

/-- A box that is more than a point is culled exactly if one plane has all of it outside, and
then no point of it is inside of all six. -/
theorem cullBounds_iff (h : mins.x ≤ maxs.x ∧ mins.y ≤ maxs.y ∧ mins.z ≤ maxs.z)
    (hstrict : mins.x < maxs.x ∨ mins.y < maxs.y ∨ mins.z < maxs.z) :
    (mvp.cullBounds mins maxs ↔
        ∃ plane : ClipPlane, ∀ v, InBox mins maxs v → plane.Outside (mvp.clip v)) ∧
      (mvp.cullBounds mins maxs → ∀ v, InBox mins maxs v →
        ¬((-(mvp.clip v).w < (mvp.clip v).x ∧ (mvp.clip v).x < (mvp.clip v).w) ∧
          (-(mvp.clip v).w < (mvp.clip v).y ∧ (mvp.clip v).y < (mvp.clip v).w) ∧
          -(mvp.clip v).w < (mvp.clip v).z ∧ (mvp.clip v).z < (mvp.clip v).w)) := by
  have hdegenerate : ¬(maxs.x ≤ mins.x ∧ maxs.y ≤ mins.y ∧ maxs.z ≤ mins.z) := by
    rintro ⟨hx, hy, hz⟩
    rcases hstrict with hlt | hlt | hlt
    · exact hlt.not_ge hx
    · exact hlt.not_ge hy
    · exact hlt.not_ge hz
  have hiff : mvp.cullBounds mins maxs ↔
      ∃ plane : ClipPlane, ∀ v, InBox mins maxs v → plane.Outside (mvp.clip v) := by
    rw [cullBounds_iff_cornersOf mvp hdegenerate]
    refine exists_congr fun plane => ?_
    rw [← forall_boxCorner_iff mvp (toPoint_le_iff.mpr h), cornerBits_surjective.forall]
    simp only [cornersOf_eq]
  refine ⟨hiff, fun hculled v hv hinside => ?_⟩
  obtain ⟨plane, hplane⟩ := hiff.mp hculled
  have houtside := hplane v hv
  obtain ⟨⟨hleft, hright⟩, ⟨hbottom, htop⟩, hnear, hfar⟩ := hinside
  cases plane with
  | left => exact hleft.not_ge houtside
  | right => exact hright.not_ge houtside
  | bottom => exact hbottom.not_ge houtside
  | top => exact htop.not_ge houtside
  | near => exact hnear.not_ge houtside
  | far => exact hfar.not_ge houtside

end Culling

/-- A box to the left of what an orthographic projection shows. -/
theorem cullBounds_iff_left :
    let mvp : XrMatrix4x4f ℚ := .createIdentity
    let mins : XrVector3f ℚ := ⟨-3, -1, 0⟩
    let maxs : XrVector3f ℚ := ⟨-2, 1, 0⟩
    mvp.cullBounds mins maxs ∧ (mvp.cullBounds mins maxs ↔
      ∃ plane : ClipPlane, ∀ v, InBox mins maxs v → plane.Outside (mvp.clip v)) := by
  intro mvp mins maxs
  refine ⟨by decide +kernel, (cullBounds_iff mvp ?_ ?_).1⟩
  · decide +kernel
  · decide +kernel

/-! ## Transformed bounds -/

section Transforming

variable [LinearOrder R] [IsStrictOrderedRing R] {matrix : XrMatrix4x4f R}
  {mins maxs : XrVector3f R}

omit [LinearOrder R] [IsStrictOrderedRing R] in
theorem toPoint_transformVector3f (h : matrix.Affine) (v : XrVector3f R) (r : Fin 3) :
    (matrix.transformVector3f v).toPoint r = (matrix.rowForm r.castSucc).eval v.toPoint := by
  obtain ⟨h3, h7, h11, h15⟩ := h
  rw [matrix.eval_rowForm]
  fin_cases r <;>
    simp [XrMatrix4x4f.transformVector3f, XrMatrix4x4f.entry, toPoint, h3, h7, h11, h15]

theorem isCenter_boundsCenter (mins maxs : XrVector3f R) :
    IsCenter mins.toPoint maxs.toPoint (XrMatrix4x4f.boundsCenter mins maxs).toPoint := by
  intro i
  fin_cases i <;> simp [toPoint, XrMatrix4x4f.boundsCenter] <;> ring

omit [IsStrictOrderedRing R] in
theorem toPoint_transformBounds (r : Fin 3) :
    (matrix.transformBounds mins maxs).1.toPoint r =
        (matrix.rowForm r.castSucc).eval (XrMatrix4x4f.boundsCenter mins maxs).toPoint -
          spread (matrix.rowForm r.castSucc) (XrMatrix4x4f.boundsCenter mins maxs).toPoint
            maxs.toPoint ∧
      (matrix.transformBounds mins maxs).2.toPoint r =
        (matrix.rowForm r.castSucc).eval (XrMatrix4x4f.boundsCenter mins maxs).toPoint +
          spread (matrix.rowForm r.castSucc) (XrMatrix4x4f.boundsCenter mins maxs).toPoint
            maxs.toPoint := by
  rw [matrix.eval_rowForm, spread, Fin.sum_univ_three]
  fin_cases r <;>
    exact ⟨rfl, rfl⟩

/-- The transformed bounds contain the image of the box, and on each of their faces lies the
image of a corner. -/
theorem transformBounds_tight (haffine : matrix.Affine)
    (h : mins.x ≤ maxs.x ∧ mins.y ≤ maxs.y ∧ mins.z ≤ maxs.z) :
    (∀ v, InBox mins maxs v →
        InBox (matrix.transformBounds mins maxs).1 (matrix.transformBounds mins maxs).2
          (matrix.transformVector3f v)) ∧
      ∀ r : Fin 3,
        (∃ upper, (matrix.transformVector3f (boxCorner mins maxs upper)).toPoint r =
          (matrix.transformBounds mins maxs).1.toPoint r) ∧
        ∃ upper, (matrix.transformVector3f (boxCorner mins maxs upper)).toPoint r =
          (matrix.transformBounds mins maxs).2.toPoint r := by
  have hle : mins.toPoint ≤ maxs.toPoint := toPoint_le_iff.mpr h
  have hcenter := isCenter_boundsCenter mins maxs
  refine ⟨fun v hv => ?_, fun r => ⟨⟨peak (-matrix.rowForm r.castSucc), ?_⟩,
    ⟨peak (matrix.rowForm r.castSucc), ?_⟩⟩⟩
  · rw [inBox_iff] at hv ⊢
    refine ⟨fun r => ?_, fun r => ?_⟩
    · rw [toPoint_transformVector3f haffine, (toPoint_transformBounds r).1]
      exact center_sub_spread_le_eval hcenter hv
    · rw [toPoint_transformVector3f haffine, (toPoint_transformBounds r).2]
      exact eval_le_center_add_spread hcenter hv
  · rw [toPoint_transformVector3f haffine, (toPoint_transformBounds r).1, toPoint_boxCorner]
    exact eval_peak_neg hle hcenter
  · rw [toPoint_transformVector3f haffine, (toPoint_transformBounds r).2, toPoint_boxCorner]
    exact eval_peak hle hcenter

end Transforming

def shearBounds : XrMatrix4x4f ℚ where
  m := ![
    1, 2, 0, 0,
    -3, 1, 0, 0,
    0, 0, -1, 0,
    5, 0, 0, 1]

theorem transformBounds_tight_shear :
    (∀ v, InBox ⟨0, 0, 0⟩ ⟨1, 2, 3⟩ v →
        InBox (shearBounds.transformBounds ⟨0, 0, 0⟩ ⟨1, 2, 3⟩).1
          (shearBounds.transformBounds ⟨0, 0, 0⟩ ⟨1, 2, 3⟩).2 (shearBounds.transformVector3f v)) ∧
      (shearBounds.transformBounds ⟨0, 0, 0⟩ ⟨1, 2, 3⟩).1 = ⟨-1, 0, -3⟩ := by
  refine ⟨(transformBounds_tight ⟨?_, ?_, ?_, ?_⟩ ?_).1, by decide +kernel⟩
  all_goals decide +kernel

/-! ## Boxes as images of the cube -/

section Covering

variable [LinearOrder R] [IsStrictOrderedRing R]

/-- The point of the box for a point of the cube from -1 to 1. -/
def XrVector3f.ofCube (mins maxs v : XrVector3f R) : XrVector3f R :=
  let center := XrMatrix4x4f.boundsCenter mins maxs
  { x := center.x + (maxs.x - center.x) * v.x
    y := center.y + (maxs.y - center.y) * v.y
    z := center.z + (maxs.z - center.z) * v.z }

/-- The offset and the scale of `createOffsetScaleForBounds`. -/
theorem ofCube_eq (mins maxs v : XrVector3f R) : ofCube mins maxs v =
    ⟨(maxs.x + mins.x) * (1 / 2) + (maxs.x - mins.x) * (1 / 2) * v.x,
      (maxs.y + mins.y) * (1 / 2) + (maxs.y - mins.y) * (1 / 2) * v.y,
      (maxs.z + mins.z) * (1 / 2) + (maxs.z - mins.z) * (1 / 2) * v.z⟩ := by
  ext <;> simp only [ofCube, XrMatrix4x4f.boundsCenter] <;> ring

theorem clip_createOffsetScaleForBounds (matrix : XrMatrix4x4f R) (mins maxs v : XrVector3f R) :
    (matrix.createOffsetScaleForBounds mins maxs).clip v = matrix.clip (ofCube mins maxs v) := by
  rw [ofCube_eq]
  ext <;>
    simp only [XrMatrix4x4f.clip, XrMatrix4x4f.transformVector4f,
      XrMatrix4x4f.createOffsetScaleForBounds]
  all_goals
    simp
    ring

omit [LinearOrder R] [IsStrictOrderedRing R] in
theorem transformVector3f_eq_clip (matrix : XrMatrix4x4f R) (v : XrVector3f R) :
    matrix.transformVector3f v = ⟨(matrix.clip v).x * (1 / (matrix.clip v).w),
      (matrix.clip v).y * (1 / (matrix.clip v).w), (matrix.clip v).z * (1 / (matrix.clip v).w)⟩ := by
  simp [XrMatrix4x4f.transformVector3f, XrMatrix4x4f.clip, XrMatrix4x4f.transformVector4f]

/-- In one dimension the interval from -1 to 1 covers every other. -/
theorem exists_ofUnit {lo hi u : R} (h : lo ≤ u ∧ u ≤ hi) :
    ∃ t, (-1 ≤ t ∧ t ≤ 1) ∧ (lo + hi) * (1 / 2) + (hi - (lo + hi) * (1 / 2)) * t = u := by
  obtain ⟨hlo, hhi⟩ := h
  rcases (hlo.trans hhi).eq_or_lt with heq | hlt
  · -- the interval is a point
    subst heq
    refine ⟨0, ⟨by norm_num, by norm_num⟩, ?_⟩
    linarith
  · have hpos : 0 < hi - lo := sub_pos.mpr hlt
    refine ⟨(2 * u - hi - lo) / (hi - lo), ⟨?_, ?_⟩, ?_⟩
    · rw [le_div_iff₀ hpos]
      linarith
    · rw [div_le_iff₀ hpos]
      linarith
    · field_simp
      ring

theorem ofUnit_mem {lo hi t : R} (h : lo ≤ hi) (ht : -1 ≤ t ∧ t ≤ 1) :
    lo ≤ (lo + hi) * (1 / 2) + (hi - (lo + hi) * (1 / 2)) * t ∧
      (lo + hi) * (1 / 2) + (hi - (lo + hi) * (1 / 2)) * t ≤ hi := by
  constructor
  · nlinarith
  · nlinarith

variable {mins maxs : XrVector3f R}

theorem inBox_iff_exists_ofCube (h : mins.x ≤ maxs.x ∧ mins.y ≤ maxs.y ∧ mins.z ≤ maxs.z)
    (u : XrVector3f R) :
    InBox mins maxs u ↔ ∃ v, InBox (set (-1)) (set 1) v ∧ ofCube mins maxs v = u := by
  constructor
  · rintro ⟨hx, hy, hz⟩
    obtain ⟨x, hx, hux⟩ := exists_ofUnit hx
    obtain ⟨y, hy, huy⟩ := exists_ofUnit hy
    obtain ⟨z, hz, huz⟩ := exists_ofUnit hz
    exact ⟨⟨x, y, z⟩, ⟨hx, hy, hz⟩, XrVector3f.ext hux huy huz⟩
  · rintro ⟨v, ⟨hx, hy, hz⟩, rfl⟩
    exact ⟨ofUnit_mem h.1 hx, ofUnit_mem h.2.1 hy, ofUnit_mem h.2.2 hz⟩

theorem cornersOf_createOffsetScaleForBounds (matrix : XrMatrix4x4f R) (i : Fin 8) :
    (matrix.createOffsetScaleForBounds mins maxs).cornersOf (XrVector3f.set (-1)) (XrVector3f.set 1) i =
      matrix.cornersOf mins maxs i := by
  have hcorner (upper : Fin 3 → Bool) : ofCube mins maxs
      (boxCorner (XrVector3f.set (-1)) (XrVector3f.set 1) upper) = boxCorner mins maxs upper := by
    ext <;> simp only [ofCube, boxCorner, XrVector3f.set, XrMatrix4x4f.boundsCenter] <;> split_ifs <;> ring
  rw [cornersOf_eq, cornersOf_eq, clip_createOffsetScaleForBounds, hcorner]

theorem transformBounds_createOffsetScaleForBounds (matrix : XrMatrix4x4f R) :
    (matrix.createOffsetScaleForBounds mins maxs).transformBounds (XrVector3f.set (-1))
      (XrVector3f.set 1) = matrix.transformBounds mins maxs := by
  have hcenter : XrMatrix4x4f.boundsCenter (XrVector3f.set (-1)) (XrVector3f.set 1) =
      (XrVector3f.set 0 : XrVector3f R) := by
    simp [XrMatrix4x4f.boundsCenter, XrVector3f.set]
  -- half the box, as the one function has it and as the other
  have hextent (lo hi c : R) : |(hi - (hi + lo) * (1 / 2)) * c| = |c * ((hi - lo) * (1 / 2))| := by
    rw [mul_comm c]
    congr 2
    ring
  unfold XrMatrix4x4f.transformBounds
  rw [hcenter]
  dsimp only [XrMatrix4x4f.boundsCenter]
  simp only [hextent, XrVector3f.set, mul_zero, zero_add, sub_zero, one_mul, add_comm mins.x,
    add_comm mins.y, add_comm mins.z, add_comm _ (matrix.m _), ← add_assoc]
  rfl

/-- The matrix does to the cube all that the original one does to the box: it has the same image, the
same bounds and is culled in the same case. -/
theorem createOffsetScaleForBounds_covers (matrix : XrMatrix4x4f R)
    (h : mins.x ≤ maxs.x ∧ mins.y ≤ maxs.y ∧ mins.z ≤ maxs.z)
    (hstrict : mins.x < maxs.x ∨ mins.y < maxs.y ∨ mins.z < maxs.z) :
    let covering := matrix.createOffsetScaleForBounds mins maxs
    (∀ w, (∃ v, InBox (XrVector3f.set (-1)) (XrVector3f.set 1) v ∧ covering.transformVector3f v = w) ↔
        ∃ u, InBox mins maxs u ∧ matrix.transformVector3f u = w) ∧
      covering.transformBounds (XrVector3f.set (-1)) (XrVector3f.set 1) =
        matrix.transformBounds mins maxs ∧
      covering.cullBounds (XrVector3f.set (-1)) (XrVector3f.set 1) = matrix.cullBounds mins maxs := by
  intro covering
  have htransform (v : XrVector3f R) :
      covering.transformVector3f v = matrix.transformVector3f (ofCube mins maxs v) := by
    rw [transformVector3f_eq_clip, transformVector3f_eq_clip, clip_createOffsetScaleForBounds]
  refine ⟨fun w => ?_, transformBounds_createOffsetScaleForBounds matrix, ?_⟩
  · simp only [htransform, inBox_iff_exists_ofCube h]
    constructor
    · rintro ⟨v, hv, hw⟩
      exact ⟨_, ⟨v, hv, rfl⟩, hw⟩
    · rintro ⟨u, ⟨v, hv, rfl⟩, hw⟩
      exact ⟨v, hv, hw⟩
  · have hbox : ¬(maxs.x ≤ mins.x ∧ maxs.y ≤ mins.y ∧ maxs.z ≤ mins.z) := by
      rintro ⟨hx, hy, hz⟩
      rcases hstrict with hlt | hlt | hlt
      · exact hlt.not_ge hx
      · exact hlt.not_ge hy
      · exact hlt.not_ge hz
    have hcube : ¬((1 : R) ≤ -1 ∧ (1 : R) ≤ -1 ∧ (1 : R) ≤ -1) := by norm_num
    rw [Bool.eq_iff_iff, cullBounds_iff_cornersOf _ hcube, cullBounds_iff_cornersOf _ hbox]
    simp only [covering, cornersOf_createOffsetScaleForBounds]

end Covering

theorem createOffsetScaleForBounds_covers_shear :
    let covering := shearBounds.createOffsetScaleForBounds ⟨0, 0, 0⟩ ⟨1, 2, 3⟩
    covering.transformBounds (XrVector3f.set (-1)) (XrVector3f.set 1) =
        shearBounds.transformBounds ⟨0, 0, 0⟩ ⟨1, 2, 3⟩ ∧
      (shearBounds.transformBounds ⟨0, 0, 0⟩ ⟨1, 2, 3⟩).1 = ⟨-1, 0, -3⟩ := by
  refine ⟨(createOffsetScaleForBounds_covers shearBounds ?_ (.inl ?_)).2.1, by decide +kernel⟩
  all_goals decide +kernel

end OpenXRSdk
