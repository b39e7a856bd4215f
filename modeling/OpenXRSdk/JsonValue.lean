import OpenXRSdk.Types

/-!
# JSON values as jsoncpp gives access to them

A member is asked for by name of a null or object value only; of any other value the
library raises `Json::LogicError` (it aborts where it is built without exceptions).
The members of an object are listed once for each key.
-/
namespace OpenXRSdk.Json

/-- `Json::Value`; a real stands for the exact value of a double. -/
inductive Value
  | null
  | int (value : ℤ)
  | uint (value : ℕ)
  | real (value : ℚ)
  | string (value : StdString)
  | boolean (value : Bool)
  | array (elements : List Value)
  | object (members : List (StdString × Value))

namespace Value

def isNull : Value → Bool
  | null => true
  | _ => false

def string? : Value → Option StdString
  | string s => some s
  | _ => none

def maxInt : ℕ := 2 ^ 31 - 1

def maxUInt : ℕ := 2 ^ 32 - 1

/-- The longest string that `duplicateAndPrefixStringValue` takes: its length is kept in four
bytes in front of it. -/
def maxStringLength : ℕ := maxInt - 4 - 1

/-- The constructor from a string, which looks at the low 32 bits of its length. -/
def ofString (s : StdString) : Except Fault Value :=
  if s.length % 2 ^ 32 ≤ maxStringLength then .ok (string (s.take (s.length % 2 ^ 32)))
  else .error .exception

theorem ofString_eq_error {s : StdString} {fault : Fault} (h : ofString s = .error fault) :
    fault = .exception := by
  unfold ofString at h
  split_ifs at h
  cases h
  rfl

def uInt? : Value → Option ℕ
  | int i => if 0 ≤ i ∧ i ≤ maxUInt then some i.toNat else none
  | uint n => if n ≤ maxUInt then some n else none
  | real q => if 0 ≤ q ∧ q ≤ maxUInt ∧ q.den = 1 then some q.num.toNat else none
  | _ => none

/-- The precondition of member access by name. -/
def Accessible : Value → Prop
  | null => True
  | object _ => True
  | _ => False

instance : DecidablePred Accessible := fun v => by
  cases v <;> unfold Accessible <;> infer_instance

/-- What a lookup by key yields where it is allowed: the null singleton for a missing key. -/
def lookup (key : StdString) : Value → Value
  | object ms => ((ms.find? (·.1 = key)).map (·.2)).getD null
  | _ => null

/-- `operator[](key)` on a constant value. -/
def member (key : StdString) (v : Value) : Except Fault Value :=
  if v.Accessible then .ok (v.lookup key) else .error .exception

@[simp] theorem member_of_accessible {key : StdString} {v : Value} (h : v.Accessible) :
    v.member key = .ok (v.lookup key) := by
  simp [member, h]

theorem member_of_not_accessible {key : StdString} {v : Value} (h : ¬ v.Accessible) :
    v.member key = .error .exception := by
  simp [member, h]

theorem accessible_object (members : List (StdString × Value)) : (object members).Accessible := trivial

theorem accessible_of_isNull {v : Value} (h : v.isNull) : v.Accessible := by
  cases v <;> simp_all [isNull, Accessible]

/-- Assign to the member `key`, which is appended when it is missing. -/
def setMember (key : StdString) (x : Value) : List (StdString × Value) → List (StdString × Value)
  | [] => [(key, x)]
  | m :: ms => if m.1 = key then (key, x) :: ms else m :: setMember key x ms

/-- `v[key] = f(v[key])` through the reference that `resolveReference` returns: null turns
into an object and a missing member into a null one. -/
def modifyMember (key : StdString) (f : Value → Except Fault Value) (v : Value) :
    Except Fault Value :=
  match v with
  | null => do return object [(key, ← f null)]
  | object ms => do return object (setMember key (← f (lookup key (object ms))) ms)
  | _ => .error .exception

/-- `v[key] = x`. -/
def assign (key : StdString) (v x : Value) : Except Fault Value :=
  v.modifyMember key fun _ => .ok x

theorem find?_setMember (key : StdString) (x : Value) (k : StdString)
    (ms : List (StdString × Value)) :
    ((setMember key x ms).find? (·.1 = k)) =
      if key = k then some (key, x) else ms.find? (·.1 = k) := by
  induction ms with
  | nil => by_cases h : key = k <;> simp [setMember, h]
  | cons m ms ih =>
    simp only [setMember]
    split_ifs with hm hk hk
    · simp [hk]
    · have : m.1 ≠ k := fun h => hk (hm.symm.trans h)
      simp [hk, this]
    · have : m.1 ≠ k := fun h => hm (h.trans hk.symm)
      rw [List.find?_cons_of_neg (by simpa using this), ih, if_pos hk]
    · by_cases h : m.1 = k
      · simp [h]
      · rw [List.find?_cons_of_neg (by simpa using h), List.find?_cons_of_neg (by simpa using h),
          ih, if_neg hk]

@[simp] theorem lookup_object_setMember (key : StdString) (x : Value) (k : StdString)
    (ms : List (StdString × Value)) :
    (object (setMember key x ms)).lookup k =
      if key = k then x else (object ms).lookup k := by
  simp only [lookup, find?_setMember]
  split_ifs <;> simp

/-- The keys, as strings, and values that iteration from `begin()` to `end()` visits. A key
of an array is its index. -/
def entries : Value → List (StdString × Value)
  | array es => es.mapIdx fun i v => ((toString i).toList, v)
  | object ms => ms
  | _ => []

end Value
end OpenXRSdk.Json
