import OpenXRSdk.XrLinear

/-!
# The projection matrix

A point satisfies the clip inequalities of a graphics API after the projection exactly if it
lies in the frustum that the projection was asked for: the two planes of each axis, one axis
at a time.
-/
namespace OpenXRSdk

variable {R : Type*} [Field R] [LinearOrder R] [IsStrictOrderedRing R]

/-! ## Clip space -/

def GraphicsAPI.Clips (graphicsApi : GraphicsAPI) (c : XrVector4f R) : Prop :=
  (-c.w ≤ c.x ∧ c.x ≤ c.w) ∧ (-c.w ≤ c.y ∧ c.y ≤ c.w) ∧
    match graphicsApi with
    | .openGL | .openGLES => -c.w ≤ c.z ∧ c.z ≤ c.w
    | .vulkan | .d3d | .metal => 0 ≤ c.z ∧ c.z ≤ c.w

/-- A frustum along the negative third axis, by the tangents of its planes; the far plane
counts if it is beyond the near one. -/
structure Frustum (R : Type*) where
  left : R
  right : R
  up : R
  down : R
  near : R
  far : R

def Frustum.Contains (f : Frustum R) (v : XrVector3f R) : Prop :=
  (f.near ≤ -v.z ∧ (f.near < f.far → -v.z ≤ f.far)) ∧
    (f.left * -v.z ≤ v.x ∧ v.x ≤ f.right * -v.z) ∧ f.down * -v.z ≤ v.y ∧ v.y ≤ f.up * -v.z

/-! ## One axis -/

/-- Between two tangents that are mapped to -1 and 1. -/
theorem clip_axis_iff {low high x d : R} (h : low < high) :
    (-d ≤ 2 / (high - low) * x + (high + low) / (high - low) * -d ∧
        2 / (high - low) * x + (high + low) / (high - low) * -d ≤ d) ↔
      low * d ≤ x ∧ x ≤ high * d := by
  have hpos : 0 < high - low := sub_pos.mpr h
  have hlow : 2 / (high - low) * x + (high + low) / (high - low) * -d - -d =
      2 / (high - low) * (x - low * d) := by
    field_simp
    ring
  have hhigh : d - (2 / (high - low) * x + (high + low) / (high - low) * -d) =
      2 / (high - low) * (high * d - x) := by
    field_simp
    ring
  have hscale : 0 < 2 / (high - low) := by positivity
  refine and_congr ?_ ?_
  · rw [← sub_nonneg, hlow, mul_nonneg_iff_of_pos_left hscale, sub_nonneg]
  · rw [← sub_nonneg, hhigh, mul_nonneg_iff_of_pos_left hscale, sub_nonneg]

/-- Turned over, an interval about zero is the same. -/
theorem clip_neg_iff {c w : R} : (-w ≤ -c ∧ -c ≤ w) ↔ -w ≤ c ∧ c ≤ w := by
  rw [neg_le_neg_iff, neg_le, and_comm]

/-! ## Depth -/

section Depth

variable {near far d k : R} (hnear : 0 < near) (hk : 0 ≤ k)
include hnear hk

/-- The depth of clip space starts at `-k`, and `k * near` is the offset. -/
theorem infinite_depth_iff :
    (-(k * d) ≤ -1 * -d + -(near + k * near) ∧ -1 * -d + -(near + k * near) ≤ d) ↔ near ≤ d := by
  have hlow : -1 * -d + -(near + k * near) - -(k * d) = (1 + k) * (d - near) := by ring
  have hhigh : d - (-1 * -d + -(near + k * near)) = (1 + k) * near := by ring
  have hpos : 0 < 1 + k := by linarith
  rw [← sub_nonneg, hlow, mul_nonneg_iff_of_pos_left hpos, sub_nonneg]
  exact and_iff_left (sub_nonneg.mp (hhigh ▸ (mul_pos hpos hnear).le))

theorem finite_depth_iff (hfar : near < far) :
    (-(k * d) ≤
          -(far + k * near) / (far - near) * -d + -(far * (near + k * near)) / (far - near) ∧
        -(far + k * near) / (far - near) * -d + -(far * (near + k * near)) / (far - near) ≤ d) ↔
      near ≤ d ∧ d ≤ far := by
  have hpos : 0 < far - near := sub_pos.mpr hfar
  have hlow : -(far + k * near) / (far - near) * -d + -(far * (near + k * near)) / (far - near) -
      -(k * d) = (1 + k) * far / (far - near) * (d - near) := by
    field_simp
    ring
  have hhigh : d - (-(far + k * near) / (far - near) * -d +
      -(far * (near + k * near)) / (far - near)) =
      (1 + k) * near / (far - near) * (far - d) := by
    field_simp
    ring
  have hone : 0 < 1 + k := by linarith
  have hfarpos : 0 < (1 + k) * far / (far - near) :=
    div_pos (mul_pos hone (hnear.trans hfar)) hpos
  have hnearpos : 0 < (1 + k) * near / (far - near) := div_pos (mul_pos hone hnear) hpos
  refine and_congr ?_ ?_
  · rw [← sub_nonneg, hlow, mul_nonneg_iff_of_pos_left hfarpos, sub_nonneg]
  · rw [← sub_nonneg, hhigh, mul_nonneg_iff_of_pos_left hnearpos, sub_nonneg]

end Depth

/-! ## The whole matrix -/

def Frustum.clip (f : Frustum R) (graphicsApi : GraphicsAPI) (v : XrVector3f R) : XrVector4f R :=
  (XrMatrix4x4f.createProjection graphicsApi f.left f.right f.up f.down f.near
    f.far).transformVector4f ⟨v.x, v.y, v.z, 1⟩

namespace Frustum

variable (f : Frustum R) (graphicsApi : GraphicsAPI) (v : XrVector3f R)

omit [IsStrictOrderedRing R] in
theorem clip_w : (f.clip graphicsApi v).w = -v.z := by
  simp only [clip, XrMatrix4x4f.createProjection, XrMatrix4x4f.transformVector4f]
  split_ifs <;> simp

omit [IsStrictOrderedRing R] in
theorem clip_x : (f.clip graphicsApi v).x =
    2 / (f.right - f.left) * v.x + (f.right + f.left) / (f.right - f.left) * -(-v.z) := by
  simp only [clip, XrMatrix4x4f.createProjection, XrMatrix4x4f.transformVector4f]
  split_ifs <;> simp

omit [IsStrictOrderedRing R] in
/-- Vulkan's is turned over. -/
theorem clip_y : (f.clip graphicsApi v).y =
    (if graphicsApi = .vulkan then -1 else 1) *
      (2 / (f.up - f.down) * v.y + (f.up + f.down) / (f.up - f.down) * -(-v.z)) := by
  have hdiv (x : R) : x / (f.down - f.up) = -(x / (f.up - f.down)) := by
    rw [← neg_sub f.up, div_neg]
  simp only [clip, XrMatrix4x4f.createProjection, XrMatrix4x4f.transformVector4f]
  split_ifs <;> simp [hdiv] <;> ring

/-- How far below 0 the depth starts. -/
def depthStart (graphicsApi : GraphicsAPI) : R :=
  if graphicsApi = .openGL ∨ graphicsApi = .openGLES then 1 else 0

theorem depthStart_nonneg : (0 : R) ≤ depthStart graphicsApi := by
  unfold depthStart
  split_ifs <;> simp

omit [IsStrictOrderedRing R] in
theorem clip_z : (f.clip graphicsApi v).z =
    if f.far ≤ f.near then -1 * -(-v.z) + -(f.near + depthStart graphicsApi * f.near)
    else -(f.far + depthStart graphicsApi * f.near) / (f.far - f.near) * -(-v.z) +
      -(f.far * (f.near + depthStart graphicsApi * f.near)) / (f.far - f.near) := by
  simp only [clip, XrMatrix4x4f.createProjection, XrMatrix4x4f.transformVector4f, depthStart]
  split_ifs <;> simp

omit [IsStrictOrderedRing R] in
theorem clips_iff (graphicsApi : GraphicsAPI) (c : XrVector4f R) :
    graphicsApi.Clips c ↔ (-c.w ≤ c.x ∧ c.x ≤ c.w) ∧ (-c.w ≤ c.y ∧ c.y ≤ c.w) ∧
      -(depthStart graphicsApi * c.w) ≤ c.z ∧ c.z ≤ c.w := by
  cases graphicsApi <;> simp [GraphicsAPI.Clips, depthStart]

end Frustum

namespace Frustum

variable {f : Frustum R} {graphicsApi : GraphicsAPI} {v : XrVector3f R}

theorem clip_y_iff (hheight : f.down < f.up) :
    (-(-v.z) ≤ (f.clip graphicsApi v).y ∧ (f.clip graphicsApi v).y ≤ -v.z) ↔
      f.down * -v.z ≤ v.y ∧ v.y ≤ f.up * -v.z := by
  rw [clip_y]
  split_ifs
  · rw [neg_one_mul, clip_neg_iff, clip_axis_iff hheight]
  · rw [one_mul, clip_axis_iff hheight]

theorem clip_z_iff (hnear : 0 < f.near) :
    (-(depthStart graphicsApi * -v.z) ≤ (f.clip graphicsApi v).z ∧
        (f.clip graphicsApi v).z ≤ -v.z) ↔
      f.near ≤ -v.z ∧ (f.near < f.far → -v.z ≤ f.far) := by
  have hstart := depthStart_nonneg (R := R) graphicsApi
  rw [clip_z]
  split_ifs with hfar
  · rw [infinite_depth_iff hnear hstart]
    exact (and_iff_left fun hlt => absurd hfar hlt.not_ge).symm
  · rw [finite_depth_iff hnear hstart (not_le.mp hfar)]
    exact and_congr_right fun _ => (imp_iff_right (not_le.mp hfar)).symm

end Frustum

/-- The clip inequalities hold of the projected point exactly if it lies in the frustum. -/
theorem createProjection_clips_iff (graphicsApi : GraphicsAPI) (f : Frustum R)
    (hwidth : f.left < f.right) (hheight : f.down < f.up) (hnear : 0 < f.near)
    (v : XrVector3f R) : graphicsApi.Clips (f.clip graphicsApi v) ↔ f.Contains v := by
  rw [Frustum.clips_iff, f.clip_w, f.clip_x, clip_axis_iff hwidth, Frustum.clip_y_iff hheight,
    Frustum.clip_z_iff hnear, Frustum.Contains]
  tauto

/-- In a frustum that leans to the right. -/
theorem createProjection_clips_iff_leaning :
    let f : Frustum ℚ := ⟨-(1 / 2), 1, 1, -1, 1 / 10, 100⟩
    GraphicsAPI.vulkan.Clips (f.clip .vulkan ⟨3, -2, -5⟩) ↔ f.Contains ⟨3, -2, -5⟩ :=
  createProjection_clips_iff .vulkan ⟨-(1 / 2), 1, 1, -1, 1 / 10, 100⟩ (by norm_num) (by norm_num)
    (by norm_num) ⟨3, -2, -5⟩

end OpenXRSdk
