import Mathlib

/-!
# Lists of keyed elements

First occurrences in a list of keys, the elements that have the keys of a list, and changes to
the first element of a key.
-/
namespace OpenXRSdk.KeyedLists

variable {α κ : Type*}

/-! ## First occurrences -/

section FirstOccurrences
variable [BEq κ] [LawfulBEq κ]

theorem eraseDups_filter (p : κ → Bool) : ∀ l : List κ, (l.filter p).eraseDups = l.eraseDups.filter p
  | [] => rfl
  | a :: l => by
    have hlength : (l.filter fun b => !b == a).length < l.length + 1 :=
      Nat.lt_succ_of_le (List.length_filter_le _ l)
    have hrest := eraseDups_filter p (l.filter fun b => !b == a)
    rw [List.eraseDups_cons, List.filter_cons, List.filter_cons]
    by_cases hp : p a
    · rw [if_pos hp, if_pos hp, List.eraseDups_cons, ← hrest, List.filter_comm]
    · have hne : ∀ b ∈ l.filter p, !b == a := by
        intro b hb
        have : b ≠ a := fun h => hp (h ▸ (List.mem_filter.mp hb).2)
        simpa using this
      rw [if_neg hp, if_neg hp, ← hrest, List.filter_comm, List.filter_eq_self.mpr hne]
termination_by l => l.length

theorem nodup_eraseDups : ∀ l : List κ, l.eraseDups.Nodup
  | [] => by simp
  | a :: l => by
    have hlength : (l.filter fun b => !b == a).length < l.length + 1 :=
      Nat.lt_succ_of_le (List.length_filter_le _ l)
    rw [List.eraseDups_cons, List.nodup_cons]
    exact ⟨by simp, nodup_eraseDups _⟩
termination_by l => l.length

/-- A key that was there before does not count again. -/
theorem eraseDups_repeat {before : List κ} {k : κ} (h : k ∈ before) (after : List κ) :
    (before ++ k :: after).eraseDups = (before ++ after).eraseDups := by
  rw [List.eraseDups_append, List.eraseDups_append]
  simp [List.removeAll, h]

end FirstOccurrences

/-! ## The elements of given keys -/

variable [DecidableEq κ]

def select (key : α → κ) (xs : List α) (keys : List κ) : List α :=
  keys.flatMap fun k => xs.filter (key · = k)

variable {key : α → κ} {xs ys : List α}

@[simp] theorem select_nil : select key xs [] = [] := rfl

@[simp] theorem select_cons (k : κ) (keys : List κ) :
    select key xs (k :: keys) = xs.filter (key · = k) ++ select key xs keys := rfl

theorem mem_select {keys : List κ} {x : α} : x ∈ select key xs keys ↔ x ∈ xs ∧ key x ∈ keys := by
  simp [select, and_comm]

/-- Keys that no element has may be left out. -/
theorem select_filter {p : κ → Bool} {keys : List κ} (h : ∀ x ∈ xs, p (key x)) :
    select key xs (keys.filter p) = select key xs keys := by
  induction keys with
  | nil => rfl
  | cons k keys ih =>
    by_cases hp : p k
    · rw [List.filter_cons_of_pos hp, select_cons, select_cons, ih]
    · have hnone : xs.filter (key · = k) = [] := by
        rw [List.filter_eq_nil_iff]
        intro x hx hk
        exact hp (of_decide_eq_true hk ▸ h x hx)
      rw [List.filter_cons_of_neg hp, select_cons, hnone, ih, List.nil_append]

/-- So may elements whose keys are not asked for. -/
theorem select_congr {keys : List κ} {p : α → Bool} (h : ∀ x ∈ xs, key x ∈ keys → p x) :
    select key (xs.filter p) keys = select key xs keys := by
  refine List.flatMap_congr fun k hk => ?_
  rw [List.filter_filter]
  refine List.filter_congr fun x hx => ?_
  by_cases hkey : key x = k
  · simp [hkey, h x hx (hkey ▸ hk)]
  · simp [hkey]

theorem map_filter_key (k : κ) :
    (xs.filter (key · = k)).map key = List.replicate (xs.filter (key · = k)).length k := by
  rw [List.eq_replicate_iff, List.length_map]
  refine ⟨rfl, fun k' hk' => ?_⟩
  obtain ⟨x, hx, rfl⟩ := List.mem_map.mp hk'
  exact of_decide_eq_true (List.mem_filter.mp hx).2

theorem length_filter_key_le_one (h : (xs.map key).Nodup) (k : κ) :
    (xs.filter (key · = k)).length ≤ 1 := by
  have hsub : ((xs.filter (key · = k)).map key).Nodup := h.sublist (List.filter_sublist.map key)
  rwa [map_filter_key, List.nodup_replicate] at hsub

theorem nodup_map_select {keys : List κ} (hkeys : keys.Nodup) :
    ((select key xs keys).map key).Nodup ↔ ∀ k ∈ keys, (xs.filter (key · = k)).length ≤ 1 := by
  have hmap : (select key xs keys).map key =
      keys.flatMap fun k => List.replicate (xs.filter (key · = k)).length k := by
    simp only [select, List.map_flatMap, map_filter_key]
  rw [hmap, List.nodup_flatMap]
  simp only [List.nodup_replicate]
  refine and_iff_left (hkeys.imp fun hne => ?_)
  intro k hk hk'
  exact hne ((List.eq_of_mem_replicate hk).symm.trans (List.eq_of_mem_replicate hk'))

/-- Among elements of distinct keys, their own order does not matter. -/
theorem select_perm (hperm : xs.Perm ys) (hdistinct : (xs.map key).Nodup) (keys : List κ) :
    select key xs keys = select key ys keys := by
  refine List.flatMap_congr fun k _ => ?_
  have hfilter := hperm.filter (key · = k)
  have hlength := length_filter_key_le_one hdistinct k
  match hxs : xs.filter (key · = k) with
  | [] =>
    rw [hxs] at hfilter
    exact hfilter.nil_eq
  | [x] =>
    rw [hxs] at hfilter
    exact hfilter.singleton_eq
  | x :: x' :: rest =>
    rw [hxs] at hlength
    simp at hlength

/-! ## Changing the first element of a key -/

def updateFirst (key : α → κ) (k : κ) (f : α → α) : List α → List α
  | [] => []
  | x :: xs => if key x = k then f x :: xs else x :: updateFirst key k f xs

section Updating
variable (key) {f : α → α} (hf : ∀ x, key (f x) = key x)
include hf

theorem map_updateFirst (k : κ) (xs : List α) : (updateFirst key k f xs).map key = xs.map key := by
  induction xs with
  | nil => rfl
  | cons x xs ih =>
    unfold updateFirst
    split_ifs
    · rw [List.map_cons, List.map_cons, hf]
    · rw [List.map_cons, List.map_cons, ih]

theorem find?_updateFirst (k k' : κ) (xs : List α) :
    (updateFirst key k f xs).find? (key · = k') =
      if k' = k then (xs.find? (key · = k)).map f else xs.find? (key · = k') := by
  induction xs with
  | nil => simp [updateFirst]
  | cons x xs ih =>
    unfold updateFirst
    by_cases hx : key x = k
    · by_cases hk : k' = k
      · simp [hx, hk, hf]
      · have hne : key x ≠ k' := fun h => hk (h.symm.trans hx)
        have hne' : key (f x) ≠ k' := by rwa [hf]
        rw [if_pos hx, if_neg hk, List.find?_cons_of_neg (by simpa using hne'),
          List.find?_cons_of_neg (by simpa using hne)]
    · rw [if_neg hx]
      by_cases hk' : key x = k'
      · have hne : k' ≠ k := fun h => hx (hk'.trans h)
        simp [hk', hne]
      · rw [List.find?_cons_of_neg (by simpa using hk'), ih, List.find?_cons_of_neg (by simpa using hx),
          List.find?_cons_of_neg (by simpa using hk')]

end Updating

theorem find?_key_eq_none {k : κ} : xs.find? (key · = k) = none ↔ k ∉ xs.map key := by
  simp

/-- Where keys are distinct, an element is found by its key. -/
theorem find?_key_of_mem (hdistinct : (xs.map key).Nodup) {x : α} (hx : x ∈ xs) :
    xs.find? (key · = key x) = some x := by
  induction xs with
  | nil => cases hx
  | cons y xs ih =>
    rw [List.map_cons, List.nodup_cons] at hdistinct
    rcases List.mem_cons.mp hx with rfl | hmem
    · simp
    · have hne : key y ≠ key x := fun h => hdistinct.1 (h ▸ List.mem_map_of_mem hmem)
      rw [List.find?_cons_of_neg (by simpa using hne), ih hdistinct.2 hmem]

/-! ## A list that stands for a map -/

/-- Change the first element of the key, or append an element where there is none. -/
def upsert (key : α → κ) (k : κ) (f : α → α) (new : α) : List α → List α
  | [] => [new]
  | x :: xs => if key x = k then f x :: xs else x :: upsert key k f new xs

def remove (key : α → κ) (k : κ) (xs : List α) : List α := xs.filter (key · ≠ k)

theorem find?_remove (k k' : κ) (xs : List α) :
    (remove key k xs).find? (key · = k') = if k' = k then none else xs.find? (key · = k') := by
  unfold remove
  rw [List.find?_filter]
  split_ifs with h
  · simp [h]
  · congr 1
    funext x
    by_cases hx : key x = k'
    · simp [hx, h]
    · simp [hx]

theorem nodup_map_remove (h : (xs.map key).Nodup) (k : κ) : ((remove key k xs).map key).Nodup :=
  h.sublist (List.filter_sublist.map key)

section Upserting
variable {k : κ} {f : α → α} {new : α}

theorem upsert_of_not_mem (h : k ∉ xs.map key) : upsert key k f new xs = xs ++ [new] := by
  induction xs with
  | nil => rfl
  | cons x xs ih =>
    rw [List.map_cons, List.mem_cons, not_or] at h
    rw [upsert, if_neg (Ne.symm h.1), ih h.2, List.cons_append]

theorem upsert_of_mem (h : k ∈ xs.map key) : upsert key k f new xs = updateFirst key k f xs := by
  induction xs with
  | nil => simp at h
  | cons x xs ih =>
    unfold upsert updateFirst
    by_cases hx : key x = k
    · rw [if_pos hx, if_pos hx]
    · have hmem : k ∈ xs.map key := by
        rw [List.map_cons, List.mem_cons] at h
        exact h.resolve_left (Ne.symm hx)
      rw [if_neg hx, if_neg hx, ih hmem]

theorem mem_upsert {x : α} (h : x ∈ upsert key k f new xs) : x ∈ xs ∨ x = new ∨ ∃ y ∈ xs, x = f y := by
  induction xs with
  | nil => exact Or.inr (Or.inl (List.mem_singleton.mp h))
  | cons y xs ih =>
    unfold upsert at h
    split_ifs at h
    · rcases List.mem_cons.mp h with rfl | hx
      · exact Or.inr (Or.inr ⟨y, by simp, rfl⟩)
      · exact Or.inl (by simp [hx])
    · rcases List.mem_cons.mp h with rfl | hx
      · exact Or.inl (by simp)
      · rcases ih hx with hx | hx | ⟨z, hz, rfl⟩
        · exact Or.inl (by simp [hx])
        · exact Or.inr (Or.inl hx)
        · exact Or.inr (Or.inr ⟨z, by simp [hz], rfl⟩)

variable (hf : ∀ x, key (f x) = key x) (hnew : key new = k)
include hf hnew

theorem nodup_map_upsert (h : (xs.map key).Nodup) : ((upsert key k f new xs).map key).Nodup := by
  by_cases hmem : k ∈ xs.map key
  · rwa [upsert_of_mem hmem, map_updateFirst key hf]
  · have hlast : ∀ k' ∈ xs.map key, ∀ k'' ∈ [k], k' ≠ k'' := by
      intro k' hk' k'' hk''
      rw [List.mem_singleton.mp hk'']
      exact fun heq => hmem (heq ▸ hk')
    rw [upsert_of_not_mem hmem, List.map_append, List.map_singleton, hnew, List.nodup_append]
    exact ⟨h, List.nodup_singleton k, hlast⟩

theorem find?_upsert (k' : κ) (xs : List α) :
    (upsert key k f new xs).find? (key · = k') =
      if k' = k then some (((xs.find? (key · = k)).map f).getD new) else xs.find? (key · = k') := by
  by_cases hmem : k ∈ xs.map key
  · obtain ⟨x, hx⟩ : ∃ x, xs.find? (key · = k) = some x :=
      Option.ne_none_iff_exists'.mp fun hnone => find?_key_eq_none.mp hnone hmem
    rw [upsert_of_mem hmem, find?_updateFirst key hf, hx]
    rfl
  · have hnone := find?_key_eq_none.mpr hmem
    rw [upsert_of_not_mem hmem, List.find?_append]
    split_ifs with hk
    · subst hk
      rw [hnone]
      simp [hnew]
    · have hne : key new ≠ k' := fun h => hk (h.symm.trans hnew)
      simp [hne]

end Upserting

end OpenXRSdk.KeyedLists
