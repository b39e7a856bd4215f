import Mathlib

/-!
# Digits of a fixed number of places

`Nat.digitsAppend b l n` are the digits of `n` in base `b`, the least significant first and
`l` of them if that many suffice. What they are one by one, and how they are split into the
digits of a smaller base.
-/
namespace OpenXRSdk.PositionalDigits

open Nat

variable {b l n : ℕ} {ds : List ℕ}

theorem ofDigits_digitsAppend (b l n : ℕ) : ofDigits b (digitsAppend b l n) = n := by
  rw [digitsAppend, ofDigits_append_replicate_zero, ofDigits_digits]

/-- Digits are those of the number that they stand for. -/
theorem digitsAppend_ofDigits (hb : 1 < b) (hlength : ds.length = l) (hds : ∀ d ∈ ds, d < b) :
    digitsAppend b l (ofDigits b ds) = ds :=
  (setInvOn_digitsAppend_ofDigits hb l).1 ⟨hlength, hds⟩

/-- The first `l` digits, each by its place. -/
theorem ofDigits_places (b l n : ℕ) :
    ofDigits b ((List.range l).map fun i => n / b ^ i % b) = n % b ^ l := by
  induction l generalizing n with
  | zero => simp [Nat.mod_one]
  | succ l ih =>
    have hrest : (fun i => n / b ^ (i + 1) % b) = fun i => n / b / b ^ i % b := by
      funext i
      rw [pow_succ', Nat.div_div_eq_div_mul]
    rw [List.range_succ_eq_map, List.map_cons, List.map_map, ofDigits_cons, pow_zero, Nat.div_one]
    change n % b + b * ofDigits b ((List.range l).map fun i => n / b ^ (i + 1) % b) = _
    rw [hrest, ih, pow_succ', Nat.mod_mul]

theorem digitsAppend_eq_places (hb : 1 < b) (hn : n < b ^ l) :
    digitsAppend b l n = (List.range l).map fun i => n / b ^ i % b := by
  have hvalue := ofDigits_places b l n
  rw [Nat.mod_eq_of_lt hn] at hvalue
  have hdigit : ∀ d ∈ (List.range l).map fun i => n / b ^ i % b, d < b := by
    intro d hd
    obtain ⟨i, -, rfl⟩ := List.mem_map.mp hd
    exact Nat.mod_lt _ (by omega)
  have hlength : ((List.range l).map fun i => n / b ^ i % b).length = l := by simp
  have h := digitsAppend_ofDigits hb hlength hdigit
  rwa [hvalue] at h

/-! ## Two digits for one -/

def splitDigits (b : ℕ) (ds : List ℕ) : List ℕ := ds.flatMap fun d => [d % b, d / b]

theorem splitDigits_cons (b d : ℕ) (ds : List ℕ) :
    splitDigits b (d :: ds) = d % b :: d / b :: splitDigits b ds := rfl

theorem length_splitDigits (b : ℕ) (ds : List ℕ) : (splitDigits b ds).length = 2 * ds.length := by
  induction ds with
  | nil => rfl
  | cons d ds ih =>
    rw [splitDigits_cons, List.length_cons, List.length_cons, ih, List.length_cons]
    omega

theorem lt_of_mem_splitDigits (hds : ∀ d ∈ ds, d < b * b) : ∀ d ∈ splitDigits b ds, d < b := by
  intro d hd
  obtain ⟨e, he, hmem⟩ := List.mem_flatMap.mp hd
  have hlt := hds e he
  have hb : 0 < b := Nat.pos_of_mul_pos_right (Nat.zero_lt_of_lt hlt)
  simp only [List.mem_cons, List.not_mem_nil, or_false] at hmem
  rcases hmem with rfl | rfl
  · exact Nat.mod_lt e hb
  · exact Nat.div_lt_of_lt_mul hlt

/-- The number stays the same. -/
theorem ofDigits_splitDigits (b : ℕ) (ds : List ℕ) :
    ofDigits b (splitDigits b ds) = ofDigits (b * b) ds := by
  induction ds with
  | nil => rfl
  | cons d ds ih =>
    rw [splitDigits_cons, ofDigits_cons, ofDigits_cons, ofDigits_cons, ih]
    have hd := Nat.mod_add_div d b
    calc d % b + b * (d / b + b * ofDigits (b * b) ds)
        = d % b + b * (d / b) + b * b * ofDigits (b * b) ds := by ring
      _ = d + b * b * ofDigits (b * b) ds := by rw [hd]

theorem splitDigits_digitsAppend (hb : 1 < b) (hn : n < (b * b) ^ l) :
    splitDigits b (digitsAppend (b * b) l n) = digitsAppend b (2 * l) n := by
  have hbb : 1 < b * b := by nlinarith
  have hlength : (splitDigits b (digitsAppend (b * b) l n)).length = 2 * l := by
    rw [length_splitDigits, length_digitsAppend hbb l hn]
  have hdigit : ∀ d ∈ splitDigits b (digitsAppend (b * b) l n), d < b :=
    lt_of_mem_splitDigits fun d hd => lt_of_mem_digitsAppend hbb l d hd
  have h := digitsAppend_ofDigits hb hlength hdigit
  rw [ofDigits_splitDigits, ofDigits_digitsAppend] at h
  exact h.symm

end OpenXRSdk.PositionalDigits
