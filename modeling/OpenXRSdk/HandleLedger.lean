import Mathlib

/-!
# Ledgers of opened and closed handles

Each opening is numbered, so that a number stands for one opening and for nothing
else. A ledger owes a list of handles when every opening is accounted for exactly
once: it was closed, or it is in the list.
-/
namespace OpenXRSdk

structure HandleLedger where
  opened : ℕ
  closed : List ℕ
  deriving DecidableEq, Repr

namespace HandleLedger

def empty : HandleLedger := ⟨0, []⟩

def fresh (l : HandleLedger) : ℕ := l.opened

def opening (l : HandleLedger) : HandleLedger := ⟨l.opened + 1, l.closed⟩

def closing (h : ℕ) (l : HandleLedger) : HandleLedger := ⟨l.opened, h :: l.closed⟩

def IsOpen (l : HandleLedger) (h : ℕ) : Prop := h < l.opened ∧ h ∉ l.closed

/-- Every opening was closed once, or is held, and not both. -/
def Owes (l : HandleLedger) (held : List ℕ) : Prop :=
  (l.closed ++ held).Perm (List.range l.opened)

theorem owes_empty : empty.Owes [] := List.Perm.refl _

theorem Owes.perm {l : HandleLedger} {held held' : List ℕ} (h : l.Owes held)
    (hp : held.Perm held') : l.Owes held' := (hp.symm.append_left _).trans h

theorem Owes.opening {l : HandleLedger} {held : List ℕ} (h : l.Owes held) :
    l.opening.Owes (l.fresh :: held) := by
  have hr : List.range (l.opened + 1) = List.range l.opened ++ [l.opened] := List.range_succ
  unfold Owes HandleLedger.opening fresh
  rw [hr]
  exact (List.perm_middle.trans (h.cons _)).trans (List.perm_append_singleton _ _).symm

theorem Owes.closing {l : HandleLedger} {held : List ℕ} {h : ℕ} (ho : l.Owes (h :: held)) :
    (l.closing h).Owes held := List.perm_middle.symm.trans ho

/-- No handle was closed twice. -/
theorem Owes.closed_nodup {l : HandleLedger} {held : List ℕ} (h : l.Owes held) :
    l.closed.Nodup := (h.nodup_iff.mpr List.nodup_range).of_append_left

theorem Owes.held_nodup {l : HandleLedger} {held : List ℕ} (h : l.Owes held) :
    held.Nodup := (h.nodup_iff.mpr List.nodup_range).of_append_right

/-- The open handles are exactly the held ones. -/
theorem Owes.isOpen_iff {l : HandleLedger} {held : List ℕ} (h : l.Owes held) (n : ℕ) :
    l.IsOpen n ↔ n ∈ held := by
  have hmem : n ∈ l.closed ++ held ↔ n < l.opened := by
    rw [h.mem_iff, List.mem_range]
  have hdisj := List.nodup_append.mp (h.nodup_iff.mpr List.nodup_range)
  rw [List.mem_append] at hmem
  unfold IsOpen
  constructor
  · rintro ⟨hlt, hc⟩
    exact (hmem.mpr hlt).resolve_left hc
  · intro hh
    exact ⟨hmem.mp (Or.inr hh), fun hc => hdisj.2.2 n hc n hh rfl⟩

/-- Whatever else is owed, one list of handles turns into the other. -/
def Carries (l l' : HandleLedger) (held held' : List ℕ) : Prop :=
  ∀ others, l.Owes (held ++ others) → l'.Owes (held' ++ others)

theorem Carries.refl (l : HandleLedger) (held : List ℕ) : Carries l l held held := fun _ h => h

theorem Carries.trans {l l' l'' : HandleLedger} {held held' held'' : List ℕ}
    (h : Carries l l' held held') (g : Carries l' l'' held' held'') : Carries l l'' held held'' :=
  fun others ho => g others (h others ho)

theorem Carries.perm {l l' : HandleLedger} {held₁ held held' : List ℕ}
    (h : Carries l l' held held') (hp : held₁.Perm held) : Carries l l' held₁ held' :=
  fun others ho => h others (ho.perm (hp.append_right others))

theorem Carries.frame {l l' : HandleLedger} {held held' : List ℕ} (h : Carries l l' held held')
    (kept : List ℕ) : Carries l l' (held ++ kept) (held' ++ kept) := by
  intro others ho
  rw [List.append_assoc] at ho ⊢
  exact h (kept ++ others) ho

theorem carries_opening (l : HandleLedger) (held : List ℕ) :
    Carries l l.opening held (held ++ [l.fresh]) := fun others ho =>
  ho.opening.perm (by simpa using List.perm_middle.symm)

theorem carries_opening_closing (l : HandleLedger) (held : List ℕ) :
    Carries l (l.opening.closing l.fresh) held held := fun _ ho => ho.opening.closing

theorem carries_closing (l : HandleLedger) (h : ℕ) (held : List ℕ) :
    Carries l (l.closing h) (h :: held) held := fun _ ho => ho.closing

end HandleLedger
end OpenXRSdk
