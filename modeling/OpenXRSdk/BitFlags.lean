import Mathlib

/-!
# Bit flags

Words of 64 bits as sets of flags.
-/
namespace OpenXRSdk.BitFlags

/-- Every flag of `sub` is in `flags`. -/
abbrev Contains (flags sub : UInt64) : Prop := flags &&& sub = sub

abbrev Disjoint (flags flags' : UInt64) : Prop := flags &&& flags' = 0

def IsBit (bit : UInt64) : Prop := ∃ i < 64, bit = ⟨BitVec.twoPow 64 i⟩

variable {flags flags' sub sub' mask bit : UInt64}

theorem and_or_distrib (a b c : UInt64) : a &&& (b ||| c) = a &&& b ||| a &&& c := by
  apply UInt64.toBitVec_inj.mp
  simp only [UInt64.toBitVec_and, UInt64.toBitVec_or]
  ext i
  simp [Bool.and_or_distrib_left]

theorem and_or_distrib_right (a b c : UInt64) : (a ||| b) &&& c = a &&& c ||| b &&& c := by
  rw [UInt64.and_comm, and_or_distrib, UInt64.and_comm c a, UInt64.and_comm c b]

/-- A word has a flag or it has not. -/
theorem and_bit (h : IsBit bit) (flags : UInt64) : flags &&& bit = 0 ∨ flags &&& bit = bit := by
  obtain ⟨i, -, rfl⟩ := h
  have hand : flags.toBitVec &&& BitVec.twoPow 64 i =
      if flags.toBitVec.getLsbD i then BitVec.twoPow 64 i else 0#64 := BitVec.and_twoPow _ _
  by_cases hi : flags.toBitVec.getLsbD i
  · rw [if_pos hi] at hand
    exact Or.inr (UInt64.toBitVec_inj.mp hand)
  · rw [if_neg hi] at hand
    exact Or.inl (UInt64.toBitVec_inj.mp hand)

theorem or_if_bit (h : IsBit bit) (flags known : UInt64) :
    (if flags &&& bit ≠ 0 then known ||| bit else known) = known ||| flags &&& bit := by
  rcases and_bit h flags with h0 | h1
  · rw [h0]
    simp
  · rw [h1]
    split_ifs with hne
    · rfl
    · rw [not_not.mp hne]
      simp

/-- The flags of a list that are set. -/
theorem foldl_or_if (bits : List UInt64) (hbits : ∀ bit ∈ bits, IsBit bit) (flags known all : UInt64) :
    bits.foldl (fun known bit => if flags &&& bit ≠ 0 then known ||| bit else known)
        (known ||| flags &&& all) =
      known ||| flags &&& bits.foldl (· ||| ·) all := by
  induction bits generalizing all with
  | nil => rfl
  | cons bit bits ih =>
    rw [List.foldl_cons, List.foldl_cons, or_if_bit (hbits bit (by simp)), UInt64.or_assoc,
      ← and_or_distrib]
    exact ih (fun b hb => hbits b (by simp [hb])) (all ||| bit)

/-- Behind a mask, the flags of the mask are compared. -/
theorem contains_and_iff : Contains (flags &&& mask) (sub &&& mask) ↔ Contains flags (sub &&& mask) := by
  unfold Contains
  rw [UInt64.and_assoc, ← UInt64.and_assoc mask, UInt64.and_comm mask sub, UInt64.and_assoc sub,
    UInt64.and_self]

theorem Contains.and (h : Contains flags sub) (mask : UInt64) : Contains flags (sub &&& mask) := by
  unfold Contains
  rw [← UInt64.and_assoc, h]

/-- What is contained and in no flag in common has no flag. -/
theorem Contains.eq_zero (h : Contains flags (sub &&& mask)) (hdisjoint : Disjoint flags sub) :
    sub &&& mask = 0 := by
  rw [← h, ← UInt64.and_assoc, hdisjoint, UInt64.zero_and]

theorem contains_of_eq_zero (h : sub = 0) : Contains flags sub := by
  rw [Contains, h, UInt64.and_zero]

end OpenXRSdk.BitFlags
