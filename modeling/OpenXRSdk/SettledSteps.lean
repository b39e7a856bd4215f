import Mathlib

/-!
# Steps that settle

Folds over a list in which an element has no effect once it has been met: what a fold
depends on when one element may stand in many places.
-/
namespace OpenXRSdk.SettledSteps

variable {σ α : Type*} {f : σ → α → σ} {s : σ} {a : α}

def Settled (f : σ → α → σ) (s : σ) (a : α) : Prop := f s a = s

/-- An element is settled by its first step, and stays so. -/
structure Settling (f : σ → α → σ) : Prop where
  again : ∀ s a, Settled f (f s a) a
  keep : ∀ s a b, Settled f s a → Settled f (f s b) a

theorem foldl_of_settled {l : List α} (h : ∀ a ∈ l, Settled f s a) : l.foldl f s = s := by
  induction l with
  | nil => rfl
  | cons a l ih =>
    rw [List.forall_mem_cons] at h
    rw [List.foldl_cons, h.1, ih h.2]

theorem takeWhile_prefix_filter (p : α → Bool) (l : List α) : l.takeWhile p <+: l.filter p := by
  induction l with
  | nil => exact List.prefix_rfl
  | cons b l ih =>
    by_cases hb : p b
    · simpa [hb] using ih
    · simp [hb]

namespace Settling

theorem foldl_keep (h : Settling f) (hs : Settled f s a) (l : List α) :
    Settled f (l.foldl f s) a := by
  induction l generalizing s with
  | nil => exact hs
  | cons b l ih => exact ih (h.keep s a b hs)

theorem foldl_mem (h : Settling f) {l : List α} (ha : a ∈ l) (s : σ) :
    Settled f (l.foldl f s) a := by
  induction l generalizing s with
  | nil => cases ha
  | cons b l ih =>
    rcases List.mem_cons.mp ha with rfl | hm
    · exact h.foldl_keep (h.again s a) l
    · exact ih hm (f s b)

variable [DecidableEq α]

theorem foldl_filter_ne (h : Settling f) (hs : Settled f s a) (l : List α) :
    (l.filter (· ≠ a)).foldl f s = l.foldl f s := by
  induction l generalizing s with
  | nil => rfl
  | cons b l ih =>
    by_cases hb : b = a
    · subst hb
      simpa [show f s b = s from hs] using ih hs
    · simpa [hb] using ih (h.keep s a b hs)

/-- Only the first place of an element counts: the others may be read after it. -/
theorem foldl_eq_of_mem (h : Settling f) {l : List α} (ha : a ∈ l) (s : σ) :
    l.foldl f s =
      (l.filter (· ≠ a)).foldl f (f ((l.takeWhile (· ≠ a)).foldl f s) a) := by
  obtain ⟨p, q, rfl, hp⟩ := List.eq_append_cons_of_mem ha
  have hne : ∀ b ∈ p, b ≠ a := fun b hb hba => hp (hba ▸ hb)
  have hbefore : (p ++ a :: q).takeWhile (· ≠ a) = p := by
    rw [List.takeWhile_append_of_pos (by simpa using hne)]
    simp
  have hfilter : (p ++ a :: q).filter (· ≠ a) = p ++ q.filter (· ≠ a) := by
    rw [List.filter_append, List.filter_eq_self.mpr (by simpa using hne)]
    simp
  have hsettled : ∀ b ∈ p, Settled f (f (p.foldl f s) a) b :=
    fun b hb => h.keep _ b a (h.foldl_mem hb s)
  rw [hbefore, hfilter, List.foldl_append, List.foldl_cons, List.foldl_append,
    foldl_of_settled hsettled, h.foldl_filter_ne (h.again _ a)]

/-- Lists that agree but for the places of one element are folded to the same state when the
element's first places come after the same elements. -/
theorem foldl_congr (h : Settling f) {l l' : List α}
    (hfilter : l.filter (· ≠ a) = l'.filter (· ≠ a)) (hmem : a ∈ l ↔ a ∈ l')
    (hbefore : ∀ b, b ∈ l.takeWhile (· ≠ a) ↔ b ∈ l'.takeWhile (· ≠ a)) (s : σ) :
    l.foldl f s = l'.foldl f s := by
  by_cases ha : a ∈ l
  · have hextend {p p' : List α} (hp : p <+: p') (hsub : ∀ b ∈ p', b ∈ p) :
        p'.foldl f s = p.foldl f s := by
      obtain ⟨extra, rfl⟩ := hp
      rw [List.foldl_append]
      exact foldl_of_settled fun b hb =>
        h.foldl_mem (hsub b (List.mem_append_right _ hb)) s
    have hp := takeWhile_prefix_filter (· ≠ a) l
    have hp' := takeWhile_prefix_filter (· ≠ a) l'
    rw [← hfilter] at hp'
    have hstart : (l.takeWhile (· ≠ a)).foldl f s = (l'.takeWhile (· ≠ a)).foldl f s := by
      rcases List.prefix_or_prefix_of_prefix hp hp' with hle | hle
      · exact (hextend hle fun b hb => (hbefore b).mpr hb).symm
      · exact hextend hle fun b hb => (hbefore b).mp hb
    rw [h.foldl_eq_of_mem ha, h.foldl_eq_of_mem (hmem.mp ha), hstart, hfilter]
  · have hall {l : List α} (ha : a ∉ l) : l.filter (· ≠ a) = l :=
      List.filter_eq_self.mpr fun b hb => by simpa using fun hba : b = a => ha (hba ▸ hb)
    rw [hall ha, hall (mt hmem.mpr ha)] at hfilter
    rw [hfilter]

end Settling
end OpenXRSdk.SettledSteps
