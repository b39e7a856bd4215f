import Mathlib.Data.List.Lex
import Mathlib.Tactic

/-!
# Entries in the order of their keys

Insertion into a list of entries that are listed once for each key, in the order of the keys.
-/
namespace OpenXRSdk.OrderedEntries

variable {κ α : Type*} [LinearOrder κ] {key : κ} {a : α} {entries : List (κ × α)}

/-- The entry takes the place of the one that has its key, if there is one. -/
def insertEntry (key : κ) (a : α) : List (κ × α) → List (κ × α)
  | [] => [(key, a)]
  | e :: entries =>
    if key < e.1 then (key, a) :: e :: entries
    else if e.1 = key then (key, a) :: entries
    else e :: insertEntry key a entries

def Ordered (entries : List (κ × α)) : Prop := entries.Pairwise fun e e' => e.1 < e'.1

theorem mem_of_mem_insertEntry {e : κ × α} (h : e ∈ insertEntry key a entries) :
    e = (key, a) ∨ e ∈ entries := by
  induction entries with
  | nil => exact .inl (List.mem_singleton.mp h)
  | cons e' entries ih =>
    rw [insertEntry] at h
    split_ifs at h
    · exact List.mem_cons.mp h
    · exact (List.mem_cons.mp h).imp_right (List.mem_cons_of_mem _)
    · rcases List.mem_cons.mp h with rfl | h
      · exact .inr (by simp)
      · exact (ih h).imp_right (List.mem_cons_of_mem _)

theorem Ordered.insertEntry (h : Ordered entries) (key : κ) (a : α) :
    Ordered (insertEntry key a entries) := by
  induction entries with
  | nil => exact List.pairwise_singleton _ _
  | cons e entries ih =>
    obtain ⟨hhead, htail⟩ := List.pairwise_cons.mp h
    rw [OrderedEntries.insertEntry]
    split_ifs with hlt heq
    · refine List.pairwise_cons.mpr ⟨fun e' he' => ?_, h⟩
      rcases List.mem_cons.mp he' with rfl | he'
      · exact hlt
      · exact hlt.trans (hhead e' he')
    · exact List.pairwise_cons.mpr ⟨fun e' he' => heq ▸ hhead e' he', htail⟩
    · refine List.pairwise_cons.mpr ⟨fun e' he' => ?_, ih htail⟩
      rcases mem_of_mem_insertEntry he' with rfl | he'
      · exact lt_of_le_of_ne (not_lt.mp hlt) heq
      · exact hhead e' he'

/-- A key beyond all others comes last. -/
theorem insertEntry_of_forall_lt (h : ∀ e ∈ entries, e.1 < key) (a : α) :
    insertEntry key a entries = entries ++ [(key, a)] := by
  induction entries with
  | nil => rfl
  | cons e entries ih =>
    have he := h e (by simp)
    rw [insertEntry, if_neg (not_lt_of_gt he), if_neg he.ne, ih fun e' he' => h e' (by simp [he'])]
    rfl

end OpenXRSdk.OrderedEntries
