import Mathlib

/-!
# Counted arrays

Arrays that are handed over as a count and a pointer. A count is kept in a field of some width,
so that it need not be the length of the list that stands behind the pointer.
-/
namespace OpenXRSdk

variable {α β : Type*}

structure CountedArray (α : Type*) where
  count : ℕ
  elements : List α
  deriving DecidableEq, Repr

namespace CountedArray

def empty : CountedArray α := ⟨0, []⟩

/-- The elements that the count lets a reader see. -/
def carried (a : CountedArray α) : List α := a.elements.take a.count

/-- A list whose length is stored in a field of `width` bits. -/
def ofList (width : ℕ) (xs : List α) : CountedArray α := ⟨xs.length % 2 ^ width, xs⟩

@[simp] theorem carried_mk_carried (a : CountedArray α) (f : α → β) :
    (⟨a.count, a.carried.map f⟩ : CountedArray β).carried = a.carried.map f := by
  simp [carried, ← List.map_take, List.take_take]

variable {width : ℕ} {xs : List α}

theorem count_ofList : (ofList width xs).count = xs.length ↔ xs.length < 2 ^ width := by
  constructor
  · intro h
    rw [← h]
    exact Nat.mod_lt _ (Nat.two_pow_pos width)
  · exact Nat.mod_eq_of_lt

theorem carried_ofList : (ofList width xs).carried = xs ↔ xs.length < 2 ^ width := by
  rw [← count_ofList]
  constructor
  · intro h
    have hlength := congrArg List.length h
    have hle : (ofList width xs).count ≤ xs.length := Nat.mod_le _ _
    simp only [carried, List.length_take] at hlength
    change min (ofList width xs).count xs.length = xs.length at hlength
    omega
  · intro h
    rw [carried, h]
    exact List.take_length

end CountedArray
end OpenXRSdk
