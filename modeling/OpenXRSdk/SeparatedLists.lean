import Mathlib

/-!
# Lists with separators

The components of a list, cut at every separator, and the search for the next separator
by its index.
-/
namespace OpenXRSdk.SeparatedLists

variable {α : Type*} [DecidableEq α] {sep : α} {c s t : List α}

/-- A list is one component, or a component and a separator before another list. -/
@[elab_as_elim] theorem separated_induction (sep : α) {motive : List α → Prop}
    (last : ∀ c, sep ∉ c → motive c)
    (cons : ∀ c t, sep ∉ c → motive t → motive (c ++ sep :: t)) (s : List α) : motive s := by
  induction h : s.length using Nat.strong_induction_on generalizing s with
  | _ n ih =>
    by_cases hsep : sep ∈ s
    · obtain ⟨c, t, rfl, hc⟩ := List.eq_append_cons_of_mem hsep
      refine cons c t hc (ih t.length ?_ t rfl)
      rw [← h, List.length_append, List.length_cons]
      omega
    · exact last s hsep

theorem splitOn_last (h : sep ∉ c) : c.splitOn sep = [c] := List.splitOn_eq_singleton h

theorem splitOn_cons (h : sep ∉ c) : (c ++ sep :: t).splitOn sep = c :: t.splitOn sep :=
  List.splitOn_append_cons_self_of_not_mem h t

theorem exists_splitOn_eq (sep : α) (s : List α) :
    ∃ front last, s.splitOn sep = front ++ [last] := by
  obtain h | ⟨front, last, h⟩ := List.eq_nil_or_concat (s.splitOn sep)
  · exact absurd h (List.splitOn_ne_nil sep s)
  · exact ⟨front, last, by rw [h, List.concat_eq_append]⟩

theorem sep_not_mem_of_mem_splitOn (h : c ∈ s.splitOn sep) : sep ∉ c := by
  induction s using separated_induction sep with
  | last d hd =>
    rw [splitOn_last hd, List.mem_singleton] at h
    exact h ▸ hd
  | cons d t hd ih =>
    rw [splitOn_cons hd, List.mem_cons] at h
    rcases h with rfl | h
    · exact hd
    · exact ih h

/-- No component of the list but the last one is empty exactly when no separator stands at
the start or after another one. -/
theorem nil_mem_dropLast_splitOn (sep : α) (s : List α) :
    [] ∈ (s.splitOn sep).dropLast ↔ s.head? = some sep ∨ [sep, sep] <:+: s := by
  induction s using separated_induction sep with
  | last c hc =>
    have hhead : c.head? ≠ some sep := fun h => hc (List.mem_of_mem_head? h)
    have hinfix : ¬ [sep, sep] <:+: c := fun h => hc (h.subset (by simp))
    simp [splitOn_last hc, hhead, hinfix]
  | cons c t hc ih =>
    have hinfix : [sep, sep] <:+: c ++ sep :: t ↔ t.head? = some sep ∨ [sep, sep] <:+: t := by
      induction c with
      | nil =>
        rw [List.nil_append, List.infix_cons_iff, List.cons_prefix_cons]
        cases t <;> simp [List.cons_prefix_cons, @eq_comm _ sep]
      | cons x c ihc =>
        have hx : sep ≠ x := fun h => hc (by simp [h])
        rw [List.cons_append, List.infix_cons_iff, List.cons_prefix_cons,
          ihc (fun h => hc (List.mem_cons_of_mem _ h))]
        simp [hx]
    rw [splitOn_cons hc, List.dropLast_cons_of_ne_nil (List.splitOn_ne_nil sep t), List.mem_cons, ih,
      hinfix]
    refine or_congr_left ?_
    cases c with
    | nil => simp
    | cons x c => simpa [eq_comm] using fun h : sep = x => hc (by simp [h])

/-- The components, the empty ones left out. -/
def components (sep : α) (s : List α) : List (List α) := (s.splitOn sep).filter (· ≠ [])

theorem components_last (h : sep ∉ c) : components sep c = [c].filter (· ≠ []) := by
  rw [components, splitOn_last h]

theorem components_cons (h : sep ∉ c) :
    components sep (c ++ sep :: t) = [c].filter (· ≠ []) ++ components sep t := by
  rw [components, splitOn_cons h, ← List.singleton_append, List.filter_append, components]

@[simp] theorem components_nil : components sep [] = [] := by simp [components]

@[simp] theorem components_sep_cons : components sep (sep :: t) = components sep t := by
  have h : sep ∉ ([] : List α) := List.not_mem_nil
  simpa using components_cons (t := t) h

/-! ## The next separator -/

/-- The least index of a separator that is not less than `pos`. -/
def findFrom (sep : α) (s : List α) (pos : ℕ) : Option ℕ :=
  ((s.drop pos).findIdx? (· = sep)).map (pos + ·)

theorem findFrom_bounds {pos i : ℕ} (h : findFrom sep s pos = some i) : pos ≤ i ∧ i < s.length := by
  obtain ⟨k, hk, rfl⟩ := Option.map_eq_some_iff.mp h
  have := (List.findIdx?_eq_some_iff_getElem.mp hk).1
  rw [List.length_drop] at this
  omega

theorem findFrom_cons (pre : List α) (h : sep ∉ c) :
    findFrom sep (pre ++ c ++ sep :: t) pre.length = some (pre ++ c).length := by
  have hfind : (c ++ sep :: t).findIdx? (· = sep) = some c.length := by
    rw [List.findIdx?_append, List.findIdx?_eq_none_iff.mpr fun x hx => by
      simpa using fun hxs : x = sep => h (hxs ▸ hx), List.findIdx?_cons]
    simp
  rw [findFrom, List.append_assoc, List.drop_left, hfind]
  simp

theorem findFrom_last (pre : List α) (h : sep ∉ c) : findFrom sep (pre ++ c) pre.length = none := by
  rw [findFrom, List.drop_left, List.findIdx?_eq_none_iff.mpr fun x hx => by
    simpa using fun hxs : x = sep => h (hxs ▸ hx)]
  rfl

theorem findFrom_eq_self (pre : List α) :
    findFrom sep (pre ++ t) pre.length = some pre.length ↔ t.head? = some sep := by
  rw [findFrom, List.drop_left]
  cases t with
  | nil => simp
  | cons x t => by_cases hx : x = sep <;> simp [List.findIdx?_cons, hx]

/-! ## Components with their separators -/

/-- The components behind the separators that stand before them; the first one stands
behind `piece`. -/
def attach (sep : α) (piece : List α) : List (List α) → List (List α)
  | [] => []
  | c :: cs => (piece ++ c) :: attach sep [sep] cs

omit [DecidableEq α] in
theorem attach_cons (piece : List α) (c : List α) (cs : List (List α)) :
    attach sep piece (c :: cs) = (piece ++ c) :: cs.map (sep :: ·) := by
  rw [attach]
  congr 1
  induction cs with
  | nil => rfl
  | cons c cs ih => simp [attach, ih]

theorem attach_splitOn_cons (piece : List α) (h : sep ∉ c) :
    attach sep piece ((c ++ sep :: t).splitOn sep) = (piece ++ c) :: attach sep [sep] (t.splitOn sep) := by
  rw [splitOn_cons h, attach]

omit [DecidableEq α] in
theorem attach_ne_nil (piece : List α) {cs : List (List α)} (h : cs ≠ []) :
    attach sep piece cs ≠ [] := by
  cases cs with
  | nil => exact absurd rfl h
  | cons c cs => simp [attach]

theorem flatten_attach_splitOn (piece : List α) (s : List α) :
    (attach sep piece (s.splitOn sep)).flatten = piece ++ s := by
  induction s using separated_induction sep generalizing piece with
  | last c hc => simp [splitOn_last hc, attach]
  | cons c t hc ih => simp [attach_splitOn_cons piece hc, ih]

/-- The last of them is not empty. -/
theorem exists_attach_splitOn_eq (piece s : List α) (h : piece ++ s ≠ []) :
    ∃ front last, attach sep piece (s.splitOn sep) = front ++ [last] ∧ last ≠ [] := by
  induction s using separated_induction sep generalizing piece with
  | last c hc => exact ⟨[], piece ++ c, by simp [splitOn_last hc, attach], h⟩
  | cons c t hc ih =>
    obtain ⟨front, last, heq, hlast⟩ := ih [sep] (by simp)
    exact ⟨(piece ++ c) :: front, last, by rw [attach_splitOn_cons piece hc, heq]; rfl, hlast⟩

end OpenXRSdk.SeparatedLists
