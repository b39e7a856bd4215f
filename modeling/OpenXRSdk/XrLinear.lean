import Mathlib

/-!
# Vector, matrix and quaternion math

Poses and column-major matrices in exact arithmetic: a field stands in place of `float`. A
result is a value of its own, never the object of an argument.
-/
namespace OpenXRSdk

@[ext] structure XrVector3f (R : Type*) where
  x : R
  y : R
  z : R
  deriving DecidableEq, Repr

@[ext] structure XrVector4f (R : Type*) where
  x : R
  y : R
  z : R
  w : R
  deriving DecidableEq, Repr

@[ext] structure XrQuaternionf (R : Type*) where
  x : R
  y : R
  z : R
  w : R
  deriving DecidableEq, Repr

@[ext] structure XrPosef (R : Type*) where
  orientation : XrQuaternionf R
  position : XrVector3f R
  deriving DecidableEq, Repr

@[ext] structure XrMatrix4x4f (R : Type*) where
  m : Fin 16 → R
  deriving DecidableEq

inductive GraphicsAPI
  | vulkan
  | openGL
  | openGLES
  | d3d
  | metal
  deriving DecidableEq, Repr

variable {R : Type*} [Field R]

/-! ## Square roots -/

/-- `sqrtf` without rounding. -/
structure SquareRoot (R : Type*) [Field R] [LinearOrder R] where
  sqrtf : R → R
  nonneg : ∀ x, 0 ≤ x → 0 ≤ sqrtf x
  mul_self : ∀ x, 0 ≤ x → sqrtf x * sqrtf x = x

/-- `sinf` and `cosf` without rounding. -/
structure Trigonometry (R : Type*) [Field R] where
  sinf : R → R
  cosf : R → R
  sq_add_sq : ∀ x, sinf x * sinf x + cosf x * cosf x = 1
  sin_double : ∀ x, sinf x = 2 * sinf (x / 2) * cosf (x / 2)
  cos_double : ∀ x, cosf x = cosf (x / 2) * cosf (x / 2) - sinf (x / 2) * sinf (x / 2)

def smallestNonDenormal : R := 1 / 2 ^ 126

def SquareRoot.rcpSqrt [LinearOrder R] (root : SquareRoot R) (x : R) : R :=
  if x ≥ smallestNonDenormal then 1 / root.sqrtf x else 1

namespace XrVector3f

def set (value : R) : XrVector3f R := ⟨value, value, value⟩

def add (a b : XrVector3f R) : XrVector3f R := ⟨a.x + b.x, a.y + b.y, a.z + b.z⟩

def sub (a b : XrVector3f R) : XrVector3f R := ⟨a.x - b.x, a.y - b.y, a.z - b.z⟩

def scale (a : XrVector3f R) (scaleFactor : R) : XrVector3f R :=
  ⟨a.x * scaleFactor, a.y * scaleFactor, a.z * scaleFactor⟩

def dot (a b : XrVector3f R) : R := a.x * b.x + a.y * b.y + a.z * b.z

def cross (a b : XrVector3f R) : XrVector3f R where
  x := a.y * b.z - a.z * b.y
  y := a.z * b.x - a.x * b.z
  z := a.x * b.y - a.y * b.x

def normalize [LinearOrder R] (root : SquareRoot R) (v : XrVector3f R) : XrVector3f R :=
  let lengthRcp := root.rcpSqrt (v.x * v.x + v.y * v.y + v.z * v.z)
  ⟨v.x * lengthRcp, v.y * lengthRcp, v.z * lengthRcp⟩

end XrVector3f

namespace XrQuaternionf

def createIdentity : XrQuaternionf R := ⟨0, 0, 0, 1⟩

def multiply (a b : XrQuaternionf R) : XrQuaternionf R where
  x := b.w * a.x + b.x * a.w + b.y * a.z - b.z * a.y
  y := b.w * a.y - b.x * a.z + b.y * a.w + b.z * a.x
  z := b.w * a.z + b.x * a.y - b.y * a.x + b.z * a.w
  w := b.w * a.w - b.x * a.x - b.y * a.y - b.z * a.z

def invert (q : XrQuaternionf R) : XrQuaternionf R := ⟨-q.x, -q.y, -q.z, q.w⟩

def rotateVector3f (a : XrQuaternionf R) (v : XrVector3f R) : XrVector3f R :=
  let q : XrQuaternionf R := ⟨v.x, v.y, v.z, 0⟩
  let aq := multiply q a
  let aInv := invert a
  let aqaInv := multiply aInv aq
  ⟨aqaInv.x, aqaInv.y, aqaInv.z⟩

section Roots
variable [LinearOrder R] (root : SquareRoot R)

def createFromAxisAngle (trig : Trigonometry R) (axis : XrVector3f R) (angleInRadians : R) :
    XrQuaternionf R :=
  let s := trig.sinf (angleInRadians / 2)
  let lengthRcp := root.rcpSqrt (axis.x * axis.x + axis.y * axis.y + axis.z * axis.z)
  { x := s * axis.x * lengthRcp
    y := s * axis.y * lengthRcp
    z := s * axis.z * lengthRcp
    w := trig.cosf (angleInRadians / 2) }

def normalize (q : XrQuaternionf R) : XrQuaternionf R :=
  let lengthRcp := root.rcpSqrt (q.x * q.x + q.y * q.y + q.z * q.z + q.w * q.w)
  ⟨q.x * lengthRcp, q.y * lengthRcp, q.z * lengthRcp, q.w * lengthRcp⟩

def lerp (a b : XrQuaternionf R) (fraction : R) : XrQuaternionf R :=
  let s := a.x * b.x + a.y * b.y + a.z * b.z + a.w * b.w
  let fa := 1 - fraction
  let fb := if s < 0 then -fraction else fraction
  let x := a.x * fa + b.x * fb
  let y := a.y * fa + b.y * fb
  let z := a.z * fa + b.z * fb
  let w := a.w * fa + b.w * fb
  let lengthRcp := root.rcpSqrt (x * x + y * y + z * z + w * w)
  ⟨x * lengthRcp, y * lengthRcp, z * lengthRcp, w * lengthRcp⟩

end Roots

end XrQuaternionf

namespace XrPosef

def createIdentity : XrPosef R := ⟨XrQuaternionf.createIdentity, XrVector3f.set 0⟩

def transformVector3f (a : XrPosef R) (v : XrVector3f R) : XrVector3f R :=
  (a.orientation.rotateVector3f v).add a.position

def multiply (a b : XrPosef R) : XrPosef R where
  orientation := b.orientation.multiply a.orientation
  position := a.transformVector3f b.position

def invert (a : XrPosef R) : XrPosef R :=
  let orientation := a.orientation.invert
  let aPosNeg := a.position.scale (-1)
  ⟨orientation, orientation.rotateVector3f aPosNeg⟩

end XrPosef

namespace XrMatrix4x4f

def multiply (a b : XrMatrix4x4f R) : XrMatrix4x4f R where
  m := ![
    a.m 0 * b.m 0 + a.m 4 * b.m 1 + a.m 8 * b.m 2 + a.m 12 * b.m 3,
    a.m 1 * b.m 0 + a.m 5 * b.m 1 + a.m 9 * b.m 2 + a.m 13 * b.m 3,
    a.m 2 * b.m 0 + a.m 6 * b.m 1 + a.m 10 * b.m 2 + a.m 14 * b.m 3,
    a.m 3 * b.m 0 + a.m 7 * b.m 1 + a.m 11 * b.m 2 + a.m 15 * b.m 3,
    a.m 0 * b.m 4 + a.m 4 * b.m 5 + a.m 8 * b.m 6 + a.m 12 * b.m 7,
    a.m 1 * b.m 4 + a.m 5 * b.m 5 + a.m 9 * b.m 6 + a.m 13 * b.m 7,
    a.m 2 * b.m 4 + a.m 6 * b.m 5 + a.m 10 * b.m 6 + a.m 14 * b.m 7,
    a.m 3 * b.m 4 + a.m 7 * b.m 5 + a.m 11 * b.m 6 + a.m 15 * b.m 7,
    a.m 0 * b.m 8 + a.m 4 * b.m 9 + a.m 8 * b.m 10 + a.m 12 * b.m 11,
    a.m 1 * b.m 8 + a.m 5 * b.m 9 + a.m 9 * b.m 10 + a.m 13 * b.m 11,
    a.m 2 * b.m 8 + a.m 6 * b.m 9 + a.m 10 * b.m 10 + a.m 14 * b.m 11,
    a.m 3 * b.m 8 + a.m 7 * b.m 9 + a.m 11 * b.m 10 + a.m 15 * b.m 11,
    a.m 0 * b.m 12 + a.m 4 * b.m 13 + a.m 8 * b.m 14 + a.m 12 * b.m 15,
    a.m 1 * b.m 12 + a.m 5 * b.m 13 + a.m 9 * b.m 14 + a.m 13 * b.m 15,
    a.m 2 * b.m 12 + a.m 6 * b.m 13 + a.m 10 * b.m 14 + a.m 14 * b.m 15,
    a.m 3 * b.m 12 + a.m 7 * b.m 13 + a.m 11 * b.m 14 + a.m 15 * b.m 15]

def transpose (src : XrMatrix4x4f R) : XrMatrix4x4f R where
  m := ![
    src.m 0, src.m 4, src.m 8, src.m 12,
    src.m 1, src.m 5, src.m 9, src.m 13,
    src.m 2, src.m 6, src.m 10, src.m 14,
    src.m 3, src.m 7, src.m 11, src.m 15]

def invertRigidBody (src : XrMatrix4x4f R) : XrMatrix4x4f R where
  m := ![
    src.m 0, src.m 4, src.m 8, 0,
    src.m 1, src.m 5, src.m 9, 0,
    src.m 2, src.m 6, src.m 10, 0,
    -(src.m 0 * src.m 12 + src.m 1 * src.m 13 + src.m 2 * src.m 14),
    -(src.m 4 * src.m 12 + src.m 5 * src.m 13 + src.m 6 * src.m 14),
    -(src.m 8 * src.m 12 + src.m 9 * src.m 13 + src.m 10 * src.m 14),
    1]

def createTranslation (x y z : R) : XrMatrix4x4f R where
  m := ![
    1, 0, 0, 0,
    0, 1, 0, 0,
    0, 0, 1, 0,
    x, y, z, 1]

def createScale (x y z : R) : XrMatrix4x4f R where
  m := ![
    x, 0, 0, 0,
    0, y, 0, 0,
    0, 0, z, 0,
    0, 0, 0, 1]

def createFromQuaternion (quat : XrQuaternionf R) : XrMatrix4x4f R :=
  let x2 := quat.x + quat.x
  let y2 := quat.y + quat.y
  let z2 := quat.z + quat.z
  let xx2 := quat.x * x2
  let yy2 := quat.y * y2
  let zz2 := quat.z * z2
  let yz2 := quat.y * z2
  let wx2 := quat.w * x2
  let xy2 := quat.x * y2
  let wz2 := quat.w * z2
  let xz2 := quat.x * z2
  let wy2 := quat.w * y2
  ⟨![
    1 - yy2 - zz2, xy2 + wz2, xz2 - wy2, 0,
    xy2 - wz2, 1 - xx2 - zz2, yz2 + wx2, 0,
    xz2 + wy2, yz2 - wx2, 1 - xx2 - yy2, 0,
    0, 0, 0, 1]⟩

/-- With -Z forward, +Y up and +X right the angles are those of pitch, yaw and roll. -/
def createRotationRadians (trig : Trigonometry R) (radiansX radiansY radiansZ : R) :
    XrMatrix4x4f R :=
  let sinX := trig.sinf radiansX
  let cosX := trig.cosf radiansX
  let rotationX : XrMatrix4x4f R :=
    ⟨![1, 0, 0, 0, 0, cosX, sinX, 0, 0, -sinX, cosX, 0, 0, 0, 0, 1]⟩
  let sinY := trig.sinf radiansY
  let cosY := trig.cosf radiansY
  let rotationY : XrMatrix4x4f R :=
    ⟨![cosY, 0, -sinY, 0, 0, 1, 0, 0, sinY, 0, cosY, 0, 0, 0, 0, 1]⟩
  let sinZ := trig.sinf radiansZ
  let cosZ := trig.cosf radiansZ
  let rotationZ : XrMatrix4x4f R :=
    ⟨![cosZ, sinZ, 0, 0, -sinZ, cosZ, 0, 0, 0, 0, 1, 0, 0, 0, 0, 1]⟩
  let rotationXY := rotationY.multiply rotationX
  rotationZ.multiply rotationXY

def createTranslationRotationScale (translation : XrVector3f R) (rotation : XrQuaternionf R)
    (scale : XrVector3f R) : XrMatrix4x4f R :=
  let scaleMatrix := createScale scale.x scale.y scale.z
  let rotationMatrix := createFromQuaternion rotation
  let translationMatrix := createTranslation translation.x translation.y translation.z
  let combinedMatrix := rotationMatrix.multiply scaleMatrix
  translationMatrix.multiply combinedMatrix

def createFromRigidTransform (s : XrPosef R) : XrMatrix4x4f R :=
  createTranslationRotationScale s.position s.orientation ⟨1, 1, 1⟩

/-- The matrix that takes the cube from -1 to 1 to where `matrix` takes the box. -/
def createOffsetScaleForBounds (matrix : XrMatrix4x4f R) (mins maxs : XrVector3f R) :
    XrMatrix4x4f R :=
  let offset : XrVector3f R :=
    ⟨(maxs.x + mins.x) * (1 / 2), (maxs.y + mins.y) * (1 / 2), (maxs.z + mins.z) * (1 / 2)⟩
  let scale : XrVector3f R :=
    ⟨(maxs.x - mins.x) * (1 / 2), (maxs.y - mins.y) * (1 / 2), (maxs.z - mins.z) * (1 / 2)⟩
  ⟨![
    matrix.m 0 * scale.x, matrix.m 1 * scale.x, matrix.m 2 * scale.x, matrix.m 3 * scale.x,
    matrix.m 4 * scale.y, matrix.m 5 * scale.y, matrix.m 6 * scale.y, matrix.m 7 * scale.y,
    matrix.m 8 * scale.z, matrix.m 9 * scale.z, matrix.m 10 * scale.z, matrix.m 11 * scale.z,
    matrix.m 12 + matrix.m 0 * offset.x + matrix.m 4 * offset.y + matrix.m 8 * offset.z,
    matrix.m 13 + matrix.m 1 * offset.x + matrix.m 5 * offset.y + matrix.m 9 * offset.z,
    matrix.m 14 + matrix.m 2 * offset.x + matrix.m 6 * offset.y + matrix.m 10 * offset.z,
    matrix.m 15 + matrix.m 3 * offset.x + matrix.m 7 * offset.y + matrix.m 11 * offset.z]⟩

def transformVector3f (m : XrMatrix4x4f R) (v : XrVector3f R) : XrVector3f R :=
  let w := m.m 3 * v.x + m.m 7 * v.y + m.m 11 * v.z + m.m 15
  let rcpW := 1 / w
  { x := (m.m 0 * v.x + m.m 4 * v.y + m.m 8 * v.z + m.m 12) * rcpW
    y := (m.m 1 * v.x + m.m 5 * v.y + m.m 9 * v.z + m.m 13) * rcpW
    z := (m.m 2 * v.x + m.m 6 * v.y + m.m 10 * v.z + m.m 14) * rcpW }

def transformVector4f (m : XrMatrix4x4f R) (v : XrVector4f R) : XrVector4f R where
  x := m.m 0 * v.x + m.m 4 * v.y + m.m 8 * v.z + m.m 12 * v.w
  y := m.m 1 * v.x + m.m 5 * v.y + m.m 9 * v.z + m.m 13 * v.w
  z := m.m 2 * v.x + m.m 6 * v.y + m.m 10 * v.z + m.m 14 * v.w
  w := m.m 3 * v.x + m.m 7 * v.y + m.m 11 * v.z + m.m 15 * v.w

/-! ## Projections -/

/-- The far plane is at infinity if `farZ` is not beyond `nearZ`. -/
def createProjection [LinearOrder R] (graphicsApi : GraphicsAPI)
    (tanAngleLeft tanAngleRight tanAngleUp tanAngleDown nearZ farZ : R) : XrMatrix4x4f R :=
  let tanAngleWidth := tanAngleRight - tanAngleLeft
  -- the clip space of Vulkan has positive Y down
  let tanAngleHeight :=
    if graphicsApi = .vulkan then tanAngleDown - tanAngleUp else tanAngleUp - tanAngleDown
  -- the depth of OpenGL starts at -1
  let offsetZ := if graphicsApi = .openGL ∨ graphicsApi = .openGLES then nearZ else 0
  if farZ ≤ nearZ then
    ⟨![
      2 / tanAngleWidth, 0, 0, 0,
      0, 2 / tanAngleHeight, 0, 0,
      (tanAngleRight + tanAngleLeft) / tanAngleWidth, (tanAngleUp + tanAngleDown) / tanAngleHeight,
        -1, -1,
      0, 0, -(nearZ + offsetZ), 0]⟩
  else
    ⟨![
      2 / tanAngleWidth, 0, 0, 0,
      0, 2 / tanAngleHeight, 0, 0,
      (tanAngleRight + tanAngleLeft) / tanAngleWidth, (tanAngleUp + tanAngleDown) / tanAngleHeight,
        -(farZ + offsetZ) / (farZ - nearZ), -1,
      0, 0, -(farZ * (nearZ + offsetZ)) / (farZ - nearZ), 0]⟩

/-! ## The general inverse -/

def createIdentity : XrMatrix4x4f R where
  m := ![
    1, 0, 0, 0,
    0, 1, 0, 0,
    0, 0, 1, 0,
    0, 0, 0, 1]

def entry (matrix : XrMatrix4x4f R) (r c : Fin 4) : R := matrix.m ⟨4 * r + c, by omega⟩

def minor (matrix : XrMatrix4x4f R) (r0 r1 r2 c0 c1 c2 : Fin 4) : R :=
  matrix.entry r0 c0 *
      (matrix.entry r1 c1 * matrix.entry r2 c2 - matrix.entry r2 c1 * matrix.entry r1 c2) -
    matrix.entry r0 c1 *
      (matrix.entry r1 c0 * matrix.entry r2 c2 - matrix.entry r2 c0 * matrix.entry r1 c2) +
    matrix.entry r0 c2 *
      (matrix.entry r1 c0 * matrix.entry r2 c1 - matrix.entry r2 c0 * matrix.entry r1 c1)

def invertDivisor (src : XrMatrix4x4f R) : R :=
  src.m 0 * src.minor 1 2 3 1 2 3 - src.m 1 * src.minor 1 2 3 0 2 3 +
    src.m 2 * src.minor 1 2 3 0 1 3 - src.m 3 * src.minor 1 2 3 0 1 2

def invert (src : XrMatrix4x4f R) : XrMatrix4x4f R :=
  let rcpDet := 1 / src.invertDivisor
  ⟨![
    src.minor 1 2 3 1 2 3 * rcpDet,
    -src.minor 0 2 3 1 2 3 * rcpDet,
    src.minor 0 1 3 1 2 3 * rcpDet,
    -src.minor 0 1 2 1 2 3 * rcpDet,
    -src.minor 1 2 3 0 2 3 * rcpDet,
    src.minor 0 2 3 0 2 3 * rcpDet,
    -src.minor 0 1 3 0 2 3 * rcpDet,
    src.minor 0 1 2 0 2 3 * rcpDet,
    src.minor 1 2 3 0 1 3 * rcpDet,
    -src.minor 0 2 3 0 1 3 * rcpDet,
    src.minor 0 1 3 0 1 3 * rcpDet,
    -src.minor 0 1 2 0 1 3 * rcpDet,
    -src.minor 1 2 3 0 1 2 * rcpDet,
    src.minor 0 2 3 0 1 2 * rcpDet,
    -src.minor 0 1 3 0 1 2 * rcpDet,
    src.minor 0 1 2 0 1 2 * rcpDet]⟩

/-! ## Tests of matrices -/

section Tests

variable [LinearOrder R]

def isAffine (matrix : XrMatrix4x4f R) (epsilon : R) : Bool :=
  |matrix.m 3| ≤ epsilon ∧ |matrix.m 7| ≤ epsilon ∧ |matrix.m 11| ≤ epsilon ∧
    |matrix.m 15 - 1| ≤ epsilon

/-- Two of the first three columns, as far as the rotation and scale reach. -/
def columnProduct (matrix : XrMatrix4x4f R) (i j : Fin 3) : R :=
  matrix.entry i.castSucc 0 * matrix.entry j.castSucc 0 +
    matrix.entry i.castSucc 1 * matrix.entry j.castSucc 1 +
    matrix.entry i.castSucc 2 * matrix.entry j.castSucc 2

def rowProduct (matrix : XrMatrix4x4f R) (i j : Fin 3) : R :=
  matrix.entry 0 i.castSucc * matrix.entry 0 j.castSucc +
    matrix.entry 1 i.castSucc * matrix.entry 1 j.castSucc +
    matrix.entry 2 i.castSucc * matrix.entry 2 j.castSucc

def isOrthogonal (matrix : XrMatrix4x4f R) (epsilon : R) : Bool :=
  (List.finRange 3).all fun i => (List.finRange 3).all fun j =>
    if i ≠ j then
      if |matrix.columnProduct i j| > epsilon then false
      else if |matrix.rowProduct i j| > epsilon then false
      else true
    else true

def isOrthonormal (matrix : XrMatrix4x4f R) (epsilon : R) : Bool :=
  (List.finRange 3).all fun i => (List.finRange 3).all fun j =>
    let kd : R := if i = j then 1 else 0
    if |kd - matrix.columnProduct i j| > epsilon then false
    else if |kd - matrix.rowProduct i j| > epsilon then false
    else true

def isRigidBody (matrix : XrMatrix4x4f R) (epsilon : R) : Bool :=
  matrix.isAffine epsilon && matrix.isOrthonormal epsilon

def assertTolerance : R := 13743895 / 2 ^ 37

/-- What `GetTranslation`, `GetRotation` and `GetScale` assert of their argument. -/
def assertsDecomposable (src : XrMatrix4x4f R) : Bool :=
  src.isAffine assertTolerance && src.isOrthogonal assertTolerance

end Tests

/-! ## The parts of a combined matrix, with assertions compiled out -/

section Decomposition

variable [LinearOrder R] (root : SquareRoot R)

def getTranslation (src : XrMatrix4x4f R) : XrVector3f R := ⟨src.m 12, src.m 13, src.m 14⟩

/-- The branches of `getRotation`, by the columns of the rotation. -/
def rotationBranches (m : Fin 9 → R) : XrQuaternionf R :=
  if m 0 + m 4 + m 8 > 0 then
    let t := m 0 + m 4 + m 8 + 1
    let s := root.rcpSqrt t * (1 / 2)
    { w := s * t
      z := (m 1 - m 3) * s
      y := (m 6 - m 2) * s
      x := (m 5 - m 7) * s }
  else if m 0 > m 4 ∧ m 0 > m 8 then
    let t := m 0 - m 4 - m 8 + 1
    let s := root.rcpSqrt t * (1 / 2)
    { x := s * t
      y := (m 1 + m 3) * s
      z := (m 6 + m 2) * s
      w := (m 5 - m 7) * s }
  else if m 4 > m 8 then
    let t := -m 0 + m 4 - m 8 + 1
    let s := root.rcpSqrt t * (1 / 2)
    { y := s * t
      x := (m 1 + m 3) * s
      w := (m 6 - m 2) * s
      z := (m 5 + m 7) * s }
  else
    let t := -m 0 - m 4 + m 8 + 1
    let s := root.rcpSqrt t * (1 / 2)
    { z := s * t
      w := (m 1 - m 3) * s
      x := (m 6 + m 2) * s
      y := (m 5 + m 7) * s }

def getRotation (src : XrMatrix4x4f R) : XrQuaternionf R :=
  let rcpScaleX := root.rcpSqrt (src.m 0 * src.m 0 + src.m 1 * src.m 1 + src.m 2 * src.m 2)
  let rcpScaleY := root.rcpSqrt (src.m 4 * src.m 4 + src.m 5 * src.m 5 + src.m 6 * src.m 6)
  let rcpScaleZ := root.rcpSqrt (src.m 8 * src.m 8 + src.m 9 * src.m 9 + src.m 10 * src.m 10)
  rotationBranches root ![
    src.m 0 * rcpScaleX, src.m 1 * rcpScaleX, src.m 2 * rcpScaleX,
    src.m 4 * rcpScaleY, src.m 5 * rcpScaleY, src.m 6 * rcpScaleY,
    src.m 8 * rcpScaleZ, src.m 9 * rcpScaleZ, src.m 10 * rcpScaleZ]

def getScale (src : XrMatrix4x4f R) : XrVector3f R where
  x := root.sqrtf (src.m 0 * src.m 0 + src.m 1 * src.m 1 + src.m 2 * src.m 2)
  y := root.sqrtf (src.m 4 * src.m 4 + src.m 5 * src.m 5 + src.m 6 * src.m 6)
  z := root.sqrtf (src.m 8 * src.m 8 + src.m 9 * src.m 9 + src.m 10 * src.m 10)

end Decomposition

/-! ## Bounds -/

section Bounds

def boundsCenter (mins maxs : XrVector3f R) : XrVector3f R :=
  ⟨(mins.x + maxs.x) * (1 / 2), (mins.y + maxs.y) * (1 / 2), (mins.z + maxs.z) * (1 / 2)⟩

variable [LinearOrder R]

/-- The transformed minimum and maximum, with the assertion compiled out. -/
def transformBounds (matrix : XrMatrix4x4f R) (mins maxs : XrVector3f R) :
    XrVector3f R × XrVector3f R :=
  let center := boundsCenter mins maxs
  let extents : XrVector3f R := ⟨maxs.x - center.x, maxs.y - center.y, maxs.z - center.z⟩
  let newCenter : XrVector3f R :=
    { x := matrix.m 0 * center.x + matrix.m 4 * center.y + matrix.m 8 * center.z + matrix.m 12
      y := matrix.m 1 * center.x + matrix.m 5 * center.y + matrix.m 9 * center.z + matrix.m 13
      z := matrix.m 2 * center.x + matrix.m 6 * center.y + matrix.m 10 * center.z + matrix.m 14 }
  let newExtents : XrVector3f R :=
    { x := |extents.x * matrix.m 0| + |extents.y * matrix.m 4| + |extents.z * matrix.m 8|
      y := |extents.x * matrix.m 1| + |extents.y * matrix.m 5| + |extents.z * matrix.m 9|
      z := |extents.x * matrix.m 2| + |extents.y * matrix.m 6| + |extents.z * matrix.m 10| }
  (newCenter.sub newExtents, newCenter.add newExtents)

/-- Where a loop over the eight corners breaks. -/
def breakIndex (c : Fin 8 → XrVector4f R) (stop : XrVector4f R → Bool) : ℕ :=
  (List.finRange 8).findIdx fun i => stop (c i)

def cornersOf (mvp : XrMatrix4x4f R) (mins maxs : XrVector3f R) (i : Fin 8) : XrVector4f R :=
  mvp.transformVector4f
    { x := if i.val &&& 1 ≠ 0 then maxs.x else mins.x
      y := if i.val &&& 2 ≠ 0 then maxs.y else mins.y
      z := if i.val &&& 4 ≠ 0 then maxs.z else mins.z
      w := 1 }

def cullBounds (mvp : XrMatrix4x4f R) (mins maxs : XrVector3f R) : Bool :=
  if maxs.x ≤ mins.x ∧ maxs.y ≤ mins.y ∧ maxs.z ≤ mins.z then false
  else
    let c := cornersOf mvp mins maxs
    if breakIndex c (fun c => c.x > -c.w) = 8 then true
    else if breakIndex c (fun c => c.x < c.w) = 8 then true
    else if breakIndex c (fun c => c.y > -c.w) = 8 then true
    else if breakIndex c (fun c => c.y < c.w) = 8 then true
    else if breakIndex c (fun c => c.z > -c.w) = 8 then true
    else breakIndex c (fun c => c.z < c.w) = 8

end Bounds

/-! ## Matrices of affine maps -/

def rigid (r : XrMatrix4x4f R) (position : XrVector3f R) : XrMatrix4x4f R where
  m := ![
    r.m 0, r.m 1, r.m 2, 0,
    r.m 4, r.m 5, r.m 6, 0,
    r.m 8, r.m 9, r.m 10, 0,
    position.x, position.y, position.z, 1]

/-- The upper left part of a matrix, applied to a vector. -/
def linear (r : XrMatrix4x4f R) (v : XrVector3f R) : XrVector3f R :=
  ⟨r.m 0 * v.x + r.m 4 * v.y + r.m 8 * v.z, r.m 1 * v.x + r.m 5 * v.y + r.m 9 * v.z,
    r.m 2 * v.x + r.m 6 * v.y + r.m 10 * v.z⟩

/-- The last row is that of an affine map. -/
def Affine (a : XrMatrix4x4f R) : Prop := a.m 3 = 0 ∧ a.m 7 = 0 ∧ a.m 11 = 0 ∧ a.m 15 = 1

end XrMatrix4x4f
end OpenXRSdk
