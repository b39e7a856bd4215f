import OpenXRSdk.SearchPaths

/-!
# Search path expansion

What the two index loops do to a list of paths: what is copied, what is read on the way, and
which directories are searched in the end.
-/
namespace OpenXRSdk

open SeparatedLists StateProgram

/-! ## The paths that are searched -/

section Searching

variable {sep : Char}

theorem skipSeparators_eq (pre t : StdString) :
    skipSeparators sep (pre ++ sep :: t) pre.length =
      (pre ++ [sep]).length + (t.takeWhile (· = sep)).length := by
  induction t generalizing pre with
  | nil =>
    have hend : findFrom sep (pre ++ [sep]) (pre.length + 1) ≠ some (pre.length + 1) := by
      intro h
      have := (findFrom_bounds h).2
      simp at this
    rw [skipSeparators, dif_neg hend]
    simp
  | cons x t ih =>
    have hself : findFrom sep (pre ++ sep :: x :: t) (pre.length + 1) = some (pre.length + 1) ↔
        x = sep := by
      have h : findFrom sep (pre ++ [sep] ++ x :: t) (pre ++ [sep]).length =
          some (pre ++ [sep]).length ↔ (x :: t).head? = some sep := findFrom_eq_self (pre ++ [sep])
      simpa using h
    rw [skipSeparators]
    by_cases hx : x = sep
    · subst hx
      have hnext := ih (pre ++ [x])
      simp only [List.append_assoc, List.singleton_append, List.length_append,
        List.length_singleton] at hnext
      rw [dif_pos (hself.mpr rfl), hnext]
      simp
      omega
    · rw [dif_neg (mt hself.mp hx)]
      simp [hx]

theorem searchLoop_last {c : StdString} (pre : StdString) (hc : sep ∉ c) :
    searchLoop sep (pre ++ c) pre.length = [c].filter (· ≠ []) := by
  rw [searchLoop]
  split
  · rename_i hfound
    rw [findFrom_last pre hc] at hfound
    cases hfound
  · cases c <;> simp

theorem searchLoop_cons {c : StdString} (pre t : StdString) (hc : sep ∉ c) :
    searchLoop sep (pre ++ c ++ sep :: t) pre.length =
      c :: searchLoop sep (pre ++ c ++ [sep] ++ t)
        ((pre ++ c ++ [sep]).length + (t.takeWhile (· = sep)).length) := by
  rw [searchLoop]
  split
  · rename_i found hfound
    rw [findFrom_cons pre hc, Option.some.injEq] at hfound
    subst hfound
    rw [skipSeparators_eq]
    simp
  · rename_i hfound
    rw [findFrom_cons pre hc] at hfound
    cases hfound

/-- From an index on, the separators there being skipped first. -/
theorem searchLoop_eq (pre s : StdString) :
    searchLoop sep (pre ++ s) (pre.length + (s.takeWhile (· = sep)).length) =
      components sep s := by
  induction s using separated_induction sep generalizing pre with
  | last c hc =>
    have hskip : c.takeWhile (· = sep) = [] := by
      cases c with
      | nil => rfl
      | cons x c => simp [show x ≠ sep from fun h => hc (by simp [h])]
    rw [hskip, List.length_nil, Nat.add_zero, searchLoop_last pre hc, components_last hc]
  | cons c t hc ih =>
    cases c with
    | nil =>
      have h := ih (pre ++ [sep])
      rw [List.nil_append, components_sep_cons, ← h]
      simp [Nat.add_assoc, Nat.add_comm 1]
    | cons x c =>
      have hskip : ((x :: c) ++ sep :: t).takeWhile (· = sep) = [] := by
        simp [show x ≠ sep from fun h => hc (by simp [h])]
      rw [hskip, List.length_nil, Nat.add_zero, ← List.append_assoc, searchLoop_cons pre t hc, ih,
        components_cons hc]
      simp

/-- The paths searched are the components of the list, after an empty one where the list
begins with a separator. -/
theorem searchedPaths_eq (syn : PathSyntax) (s : StdString) :
    searchedPaths syn s =
      (if s.head? = some syn.separator then [[]] else []) ++ components syn.separator s := by
  rw [searchedPaths]
  by_cases hhead : s.head? = some syn.separator
  · obtain ⟨t, rfl⟩ := List.head?_eq_some_iff.mp hhead
    have hc : syn.separator ∉ ([] : StdString) := List.not_mem_nil
    have h := searchLoop_cons [] t hc
    rw [searchLoop_eq] at h
    rw [if_pos hhead, components_sep_cons]
    simpa using h
  · have hskip : s.takeWhile (· = syn.separator) = [] := by
      cases s with
      | nil => rfl
      | cons x s => simpa using hhead
    have h : searchLoop syn.separator s (([] : StdString).length +
        (s.takeWhile (· = syn.separator)).length) = components syn.separator s := searchLoop_eq [] s
    rw [hskip] at h
    rw [if_neg hhead]
    exact h

end Searching

/-! ## What is copied -/

/-- A path, the directory symbol unless the path ends in a slash or backslash, and the
relative path. -/
def directory (syn : PathSyntax) (isDirectoryList : Bool) (relativePath path : StdString) :
    StdString :=
  path ++ (if isDirectoryList ∧ path.getLast? ≠ some '\\' ∧ path.getLast? ≠ some '/' then
    [syn.directorySymbol] else []) ++ relativePath

/-- The computation comes to its end with this value, and everything it reads is in range. -/
def Reads {α : Type} (size : ℕ) (x : Reading α) (a : α) : Prop :=
  ∀ reads, ∃ more, x reads = .ok a (reads ++ more) ∧ ∀ access ∈ more, access.InRange size

section Copying

variable {syn : PathSyntax} {isDirectoryList : Bool} {relativePath : StdString} {size : ℕ}

theorem Reads.pure {α : Type} (a : α) : Reads size (Pure.pure a : Reading α) a :=
  fun reads => ⟨[], by rw [List.append_nil]; rfl, by simp⟩

theorem Reads.bind {α β : Type} {x : Reading α} {f : α → Reading β} {a : α} {b : β}
    (hx : Reads size x a) (hf : Reads size (f a) b) : Reads size (x >>= f) b := by
  intro reads
  obtain ⟨first, hfirst, hin⟩ := hx reads
  obtain ⟨second, hsecond, hin'⟩ := hf (reads ++ first)
  refine ⟨first ++ second, ?_, fun access hm => ?_⟩
  · rw [bind_of_ok hfirst, hsecond, List.append_assoc]
  · rcases List.mem_append.mp hm with h | h
    · exact hin access h
    · exact hin' access h

theorem reads_modify {access : Access} (h : access.InRange size) :
    Reads size (modify (· ++ [access]) : Reading PUnit) ⟨⟩ :=
  fun _ => ⟨[access], rfl, by simpa using h⟩

theorem reads_charAt {s : StdString} {k : ℕ} {c : Char} (h : s[k]? = some c) :
    Reads s.length (Reading.charAt s (some k)) c := by
  have hk : k < s.length := (List.getElem?_eq_some_iff.mp h).1
  have hc : (some k).bind ((s ++ ['\x00'])[·]?) = some c := by
    rw [Option.bind_some, List.getElem?_append_left hk, h]
  refine (reads_modify (show (Access.index (some k)).InRange s.length from ⟨k, rfl, hk⟩)).bind ?_
  rw [hc]
  exact Reads.pure c

theorem reads_substr {s : StdString} {start : ℕ} (length : ℕ) (h : start ≤ s.length) :
    Reads s.length (Reading.substr s start length) ((s.drop start).take length) := by
  refine (reads_modify (show (Access.substr start).InRange s.length from h)).bind ?_
  rw [if_pos h]
  exact Reads.pure _

theorem reads_copySymbol {p piece : StdString} {last : Option ℕ}
    (h : isDirectoryList = true → ∃ k ∈ last, ∃ c, p[k]? = some c ∧ piece.getLast? = some c) :
    Reads p.length (copySymbol syn isDirectoryList p last)
      (if isDirectoryList ∧ piece.getLast? ≠ some '\\' ∧ piece.getLast? ≠ some '/' then
        [syn.directorySymbol] else []) := by
  unfold copySymbol
  cases isDirectoryList with
  | false => exact Reads.pure _
  | true =>
    obtain ⟨k, rfl, c, hc, hlast⟩ := h rfl
    refine (reads_charAt hc).bind ?_
    rw [hlast]
    simpa using Reads.pure _

theorem reads_copyPiece {p piece : StdString} {last : Option ℕ}
    (h : isDirectoryList = true → ∃ k ∈ last, ∃ c, p[k]? = some c ∧ piece.getLast? = some c) :
    Reads p.length (copyPiece syn isDirectoryList p piece last relativePath)
      (directory syn isDirectoryList relativePath piece ++ [syn.separator]) :=
  (reads_copySymbol h).bind (Reads.pure _)

/-- The index before the end of a piece is that of its last character. -/
theorem exists_last {piece : StdString} (pre post : StdString) (h : piece ≠ []) :
    ∃ k ∈ sizePred (pre ++ piece).length, ∃ c,
      (pre ++ piece ++ post)[k]? = some c ∧ piece.getLast? = some c := by
  obtain ⟨front, c, rfl⟩ := (List.eq_nil_or_concat piece).resolve_left h
  refine ⟨(pre ++ front).length, ?_, c, by simp, by simp⟩
  rw [List.concat_eq_append, ← List.append_assoc, List.length_append, List.length_singleton]
  rfl

/-- Each piece as it is copied, one after the other. -/
def copied (syn : PathSyntax) (isDirectoryList : Bool) (relativePath : StdString)
    (pieces : List StdString) : StdString :=
  pieces.flatMap fun piece => directory syn isDirectoryList relativePath piece ++ [syn.separator]

theorem copyLoop_none {p outputPath : StdString} {lastFound pos : ℕ}
    (h : findFrom syn.separator p pos = none) :
    copyLoop syn isDirectoryList p relativePath lastFound pos outputPath =
      pure (lastFound, outputPath) := by
  rw [copyLoop]
  split
  · rfl
  · rename_i hfound
    rw [h] at hfound
    cases hfound

theorem copyLoop_some {p outputPath : StdString} {lastFound pos found : ℕ}
    (h : findFrom syn.separator p pos = some found) :
    copyLoop syn isDirectoryList p relativePath lastFound pos outputPath = (do
      let piece ← Reading.substr p lastFound (found - lastFound)
      let copied ← copyPiece syn isDirectoryList p piece (sizePred found) relativePath
      copyLoop syn isDirectoryList p relativePath found (found + 1) (outputPath ++ copied)) := by
  rw [copyLoop]
  split
  · rename_i hfound
    rw [h] at hfound
    cases hfound
  · rename_i hfound
    rw [h, Option.some.injEq] at hfound
    subst hfound
    rfl

/-- The loop copies all pieces but the last, which begins where the loop leaves off. -/
theorem reads_copyLoop (pre piece rest outputPath : StdString)
    (h : isDirectoryList = true → piece ≠ [] ∨ rest.head? ≠ some syn.separator) :
    Reads (pre ++ piece ++ rest).length
      (copyLoop syn isDirectoryList (pre ++ piece ++ rest) relativePath pre.length
        (pre ++ piece).length outputPath)
      ((pre ++ (attach syn.separator piece (rest.splitOn syn.separator)).dropLast.flatten).length,
        outputPath ++ copied syn isDirectoryList relativePath
          (attach syn.separator piece (rest.splitOn syn.separator)).dropLast) := by
  induction rest using separated_induction syn.separator generalizing pre piece outputPath with
  | last c hc =>
    rw [copyLoop_none (findFrom_last (pre ++ piece) hc), splitOn_last hc]
    simpa [attach, copied] using Reads.pure _
  | cons c t hc ih =>
    have hfound := findFrom_cons (t := t) (pre ++ piece) hc
    rw [List.append_assoc _ c] at hfound
    rw [copyLoop_some hfound]
    have happ : pre ++ piece ++ (c ++ syn.separator :: t) =
        pre ++ (piece ++ c) ++ syn.separator :: t := by simp
    have hpiece : ((pre ++ piece ++ (c ++ syn.separator :: t)).drop pre.length).take
        ((pre ++ piece ++ c).length - pre.length) = piece ++ c := by
      simp [List.take_append]
    have hlast : isDirectoryList = true → ∃ k ∈ sizePred (pre ++ piece ++ c).length, ∃ x,
        (pre ++ piece ++ (c ++ syn.separator :: t))[k]? = some x ∧
          (piece ++ c).getLast? = some x := by
      intro hdir
      have hne : piece ++ c ≠ [] := by
        rintro hnil
        obtain ⟨rfl, rfl⟩ := List.append_eq_nil_iff.mp hnil
        simpa using h hdir
      rw [happ, List.append_assoc]
      exact exists_last pre _ hne
    refine (reads_substr _ (by simp)).bind ?_
    rw [hpiece]
    refine (reads_copyPiece hlast).bind ?_
    have hnext := ih (pre ++ piece ++ c) [syn.separator] (outputPath ++
      (directory syn isDirectoryList relativePath (piece ++ c) ++ [syn.separator])) (by simp)
    rw [attach_splitOn_cons piece hc, List.dropLast_cons_of_ne_nil
      (attach_ne_nil _ (List.splitOn_ne_nil _ t))]
    simpa [copied, Nat.add_assoc] using hnext

/-- The pieces that CopyIncludedPaths copies: the last one is left out when it is a single
character. -/
def copiedPieces (syn : PathSyntax) (p : StdString) : List StdString :=
  let pieces := attach syn.separator [] (p.splitOn syn.separator)
  pieces.dropLast ++ pieces.getLast?.toList.filter (·.length ≠ 1)

theorem reads_copyIncludedPaths (p outputPath : StdString) (hp : p ≠ [])
    (h : isDirectoryList = true → p.head? ≠ some syn.separator) :
    Reads p.length (copyIncludedPaths syn isDirectoryList p relativePath outputPath)
      (outputPath ++ copied syn isDirectoryList relativePath (copiedPieces syn p)) := by
  have hloop : Reads p.length (copyLoop syn isDirectoryList p relativePath 0 0 outputPath) _ :=
    reads_copyLoop [] [] p outputPath fun hdir => Or.inr (h hdir)
  have hflat : (attach syn.separator [] (p.splitOn syn.separator)).flatten = p :=
    flatten_attach_splitOn [] p
  obtain ⟨front, last, hpieces, hlast⟩ :
      ∃ front last, attach syn.separator [] (p.splitOn syn.separator) = front ++ [last] ∧
        last ≠ [] := exists_attach_splitOn_eq [] p hp
  rw [hpieces] at hflat hloop
  simp only [List.flatten_append, List.flatten_singleton] at hflat
  subst hflat
  have hcopied : copiedPieces syn (front.flatten ++ last) =
      front ++ [last].filter (·.length ≠ 1) := by
    simp only [copiedPieces, hpieces, List.dropLast_concat, List.getLast?_concat,
      Option.toList_some]
  have hpos : 0 < last.length := List.length_pos_iff.mpr hlast
  have hend : front.flatten.length ≠ (front.flatten ++ last).length - 1 ↔ last.length ≠ 1 := by
    rw [List.length_append]
    omega
  rw [copyIncludedPaths, if_neg hp, hcopied]
  rw [List.dropLast_concat, List.nil_append] at hloop
  refine hloop.bind ?_
  dsimp only
  by_cases hone : last.length = 1
  · rw [if_neg fun hne => hend.mp hne hone]
    simpa [hone] using Reads.pure _
  · rw [if_pos (hend.mpr hone)]
    have hpiece : ((front.flatten ++ last).drop front.flatten.length).take
        (front.flatten ++ last).length = last := by
      simp
    have hindex := exists_last front.flatten [] hlast
    have hpred : sizePred (front.flatten ++ last).length =
        some ((front.flatten ++ last).length - 1) := by
      cases hlen : (front.flatten ++ last).length with
      | zero => rw [List.length_append] at hlen; omega
      | succ n => rfl
    rw [hpred, List.append_nil] at hindex
    refine (reads_substr _ (by simp)).bind ?_
    rw [hpiece]
    refine (reads_copyPiece fun _ => hindex).bind ?_
    simpa [copied, hone] using Reads.pure _

theorem copyIncludedPaths_sep_cons (t outputPath : StdString) (reads : List Access) :
    copyIncludedPaths syn true (syn.separator :: t) relativePath outputPath reads =
      .error .undefinedBehaviour (reads ++ [.substr 0] ++ [.index none]) := by
  have hfound : findFrom syn.separator (syn.separator :: t) 0 = some 0 :=
    findFrom_cons (c := []) [] (List.not_mem_nil)
  have hloop : copyLoop syn true (syn.separator :: t) relativePath 0 0 outputPath reads =
      .error .undefinedBehaviour (reads ++ [.substr 0] ++ [.index none]) := by
    rw [copyLoop_some hfound]
    rfl
  rw [copyIncludedPaths, if_neg (List.cons_ne_nil _ _)]
  exact bind_eq_error.mpr (Or.inl hloop)

/-- Everything is read inside the path list unless a list of directories begins with a
separator. -/
theorem copyIncludedPaths_inRange_iff (syn : PathSyntax) (isDirectoryList : Bool)
    (curPath relativePath outputPath : StdString) :
    (∀ access ∈ (copyIncludedPaths syn isDirectoryList curPath relativePath outputPath).accesses,
      access.InRange curPath.length) ↔
    ¬ (isDirectoryList = true ∧ curPath.head? = some syn.separator) := by
  constructor
  · rintro hin ⟨rfl, hhead⟩
    obtain ⟨t, rfl⟩ := List.head?_eq_some_iff.mp hhead
    unfold Reading.accesses at hin
    rw [copyIncludedPaths_sep_cons] at hin
    obtain ⟨k, hk, -⟩ := hin (.index none) (by simp)
    cases hk
  · intro h
    by_cases hp : curPath = []
    · subst hp
      intro access hm
      cases hm
    · have hreads : Reads curPath.length
          (copyIncludedPaths syn isDirectoryList curPath relativePath outputPath) _ :=
        reads_copyIncludedPaths curPath outputPath hp fun hdir hhead => h ⟨hdir, hhead⟩
      obtain ⟨more, hrun, hin⟩ := hreads []
      unfold Reading.accesses
      rw [hrun]
      exact hin

/-- A leading separator is enough. -/
theorem copyIncludedPaths_readsBefore :
    ¬ ∀ access ∈ (copyIncludedPaths .posix true ":/usr/share".toList "openxr/1".toList []).accesses,
      access.InRange ":/usr/share".toList.length := by
  intro h
  have hrun : copyIncludedPaths .posix true ":/usr/share".toList "openxr/1".toList [] [] = _ :=
    copyIncludedPaths_sep_cons "/usr/share".toList [] []
  unfold Reading.accesses at h
  rw [hrun] at h
  exact absurd (h (.index none) (by simp)) (by simp [Access.InRange])

end Copying

/-! ## From the list of paths to the directories that are searched -/

section Visiting

variable {syn : PathSyntax} {relativePath : StdString}

theorem PathSyntax.separator_ne (syn : PathSyntax) :
    syn.separator ≠ syn.directorySymbol ∧ syn.separator ≠ '\\' ∧ syn.separator ≠ '/' := by
  cases syn <;> decide

theorem directory_sep_cons (c : StdString) :
    directory syn true relativePath (syn.separator :: c) =
      syn.separator :: directory syn true relativePath c := by
  obtain ⟨-, hback, hslash⟩ := syn.separator_ne
  cases c with
  | nil => simp [directory, hback, hslash]
  | cons x c => simp [directory]

theorem directory_ne_nil (c : StdString) : directory syn true relativePath c ≠ [] := by
  cases c with
  | nil => simp [directory]
  | cons x c => simp [directory]

theorem sep_not_mem_directory {c : StdString} (hr : syn.separator ∉ relativePath)
    (hc : syn.separator ∉ c) : syn.separator ∉ directory syn true relativePath c := by
  have hsymbol := syn.separator_ne.1
  unfold directory
  split_ifs <;> simp [hr, hc, hsymbol]

/-- A component copied with the separator in front of it is searched as the component is. -/
theorem components_copied_cons {c : StdString} (hr : syn.separator ∉ relativePath)
    (hc : syn.separator ∉ c) (pieces : List StdString) :
    components syn.separator (directory syn true relativePath c ++ syn.separator ::
        copied syn true relativePath pieces) =
      directory syn true relativePath c ::
        components syn.separator (copied syn true relativePath pieces) := by
  rw [components_cons (sep_not_mem_directory hr hc)]
  simp [directory_ne_nil]

theorem components_copied (hr : syn.separator ∉ relativePath) {cs : List StdString}
    (hcs : ∀ c ∈ cs, syn.separator ∉ c) :
    components syn.separator (copied syn true relativePath (cs.map (syn.separator :: ·))) =
      cs.map (directory syn true relativePath) := by
  induction cs with
  | nil => exact components_nil
  | cons c cs ih =>
    rw [List.forall_mem_cons] at hcs
    have hcopied : copied syn true relativePath ((c :: cs).map (syn.separator :: ·)) =
        syn.separator :: (directory syn true relativePath c ++ syn.separator ::
          copied syn true relativePath (cs.map (syn.separator :: ·))) := by
      simp [copied, directory_sep_cons]
    rw [hcopied, components_sep_cons, components_copied_cons hr hcs.1, ih hcs.2, List.map_cons]

/-- The components that are searched: the empty ones too, but for the last one. -/
def visited (syn : PathSyntax) (p : StdString) : List StdString :=
  (p.splitOn syn.separator).dropLast ++
    (p.splitOn syn.separator).getLast?.toList.filter (· ≠ [])

theorem copiedPieces_cons {c t : StdString} (hc : syn.separator ∉ c) :
    ∃ rest, copiedPieces syn (c ++ syn.separator :: t) = c :: rest.map (syn.separator :: ·) ∧
      visited syn (c ++ syn.separator :: t) = c :: rest ∧
      ∀ d ∈ rest, syn.separator ∉ d := by
  obtain ⟨front, last, hsplit⟩ := exists_splitOn_eq syn.separator t
  refine ⟨front ++ [last].filter (· ≠ []), ?_, ?_, fun d hd => ?_⟩
  · have hcons : (c :: (front ++ [last]).map (syn.separator :: ·)) =
        (c :: front.map (syn.separator :: ·)) ++ [syn.separator :: last] := by simp
    simp only [copiedPieces, splitOn_cons hc, hsplit, attach_cons, List.nil_append, hcons,
      List.dropLast_concat, List.getLast?_concat, Option.toList_some]
    cases last <;> simp
  · have hcons : c :: (front ++ [last]) = (c :: front) ++ [last] := rfl
    rw [visited, splitOn_cons hc, hsplit, hcons, List.dropLast_concat, List.getLast?_concat,
      Option.toList_some, List.cons_append]
  · refine sep_not_mem_of_mem_splitOn (s := t) ?_
    rw [hsplit]
    rcases List.mem_append.mp hd with h | h
    · exact List.mem_append_left _ h
    · exact List.mem_append_right _ (List.mem_of_mem_filter h)

theorem searchedPaths_copied {p : StdString} (hr : syn.separator ∉ relativePath) (hp : p ≠ [])
    (hhead : p.head? ≠ some syn.separator) :
    searchedPaths syn (copied syn true relativePath (copiedPieces syn p)) =
      if p.length = 1 then [] else (visited syn p).map (directory syn true relativePath) := by
  have hfirst {c tail : StdString} (hc : c ≠ []) (hsep : syn.separator ∉ c) :
      (directory syn true relativePath c ++ tail).head? ≠ some syn.separator := by
    obtain ⟨x, c, rfl⟩ := List.exists_cons_of_ne_nil hc
    simpa [directory] using fun h : x = syn.separator => hsep (by simp [h])
  by_cases hsep : syn.separator ∈ p
  · obtain ⟨c, t, rfl, hc⟩ := List.eq_append_cons_of_mem hsep
    have hne : c ≠ [] := by
      rintro rfl
      exact hhead rfl
    have hlength : (c ++ syn.separator :: t).length ≠ 1 := by
      have := List.length_pos_iff.mpr hne
      rw [List.length_append, List.length_cons]
      omega
    obtain ⟨rest, hpieces, hvisited, hrest⟩ := copiedPieces_cons (t := t) hc
    have hcopied : copied syn true relativePath (copiedPieces syn (c ++ syn.separator :: t)) =
        directory syn true relativePath c ++ syn.separator ::
          copied syn true relativePath (rest.map (syn.separator :: ·)) := by
      rw [hpieces]
      simp [copied]
    rw [searchedPaths_eq, hcopied, if_neg (hfirst hne hc), if_neg hlength, hvisited,
      components_copied_cons hr hc, components_copied hr hrest]
    rfl
  · have hpieces : copiedPieces syn p = [p].filter (·.length ≠ 1) := by
      simp [copiedPieces, splitOn_last hsep, attach]
    have hvisited : visited syn p = [p] := by
      simp [visited, splitOn_last hsep, hp]
    rw [hpieces, hvisited]
    by_cases hone : p.length = 1
    · simp [hone, copied, searchedPaths_eq]
    · have hcopied : copied syn true relativePath [p] =
          directory syn true relativePath p ++ syn.separator :: copied syn true relativePath [] := by
        simp [copied]
      have hkept : [p].filter (·.length ≠ 1) = [p] := by simp [hone]
      rw [if_neg hone, hkept, hcopied, searchedPaths_eq, if_neg (hfirst hp hsep),
        components_copied_cons hr hsep]
      simp [copied]

/-! ## The listed directories -/

/-- The directories searched are those that the list names, in order and once per occurrence. -/
def VisitsListed (syn : PathSyntax) (p relativePath : StdString) : Prop :=
  ∃ outputPath reads, copyIncludedPaths syn true p relativePath [] [] = .ok outputPath reads ∧
    searchedPaths syn outputPath =
      (components syn.separator p).map (directory syn true relativePath)

/-- The components that are searched are those that are not empty unless an empty one stands
before the last. -/
theorem visited_eq_iff {p : StdString} :
    (visited syn p).map (directory syn true relativePath) =
        (components syn.separator p).map (directory syn true relativePath) ↔
      [] ∉ (p.splitOn syn.separator).dropLast := by
  obtain ⟨front, last, hsplit⟩ := exists_splitOn_eq syn.separator p
  have hvisited : visited syn p = front ++ [last].filter (· ≠ []) := by
    simp only [visited, hsplit, List.dropLast_concat, List.getLast?_concat, Option.toList_some]
  have hlisted : components syn.separator p =
      front.filter (· ≠ []) ++ [last].filter (· ≠ []) := by
    rw [components, hsplit, List.filter_append]
  rw [hvisited, hlisted, hsplit, List.dropLast_concat]
  constructor
  · intro h hnil
    have hlength := congrArg List.length h
    simp only [List.length_map, List.length_append, Nat.add_right_cancel_iff] at hlength
    have hall := List.length_filter_eq_length_iff.mp hlength.symm [] hnil
    simp at hall
  · intro h
    have hfront : front.filter (· ≠ []) = front :=
      List.filter_eq_self.mpr fun c hc => by simpa using fun hnil : c = [] => h (hnil ▸ hc)
    rw [hfront]

/-- The listed directories are the ones searched exactly when no separator stands at the start
or after another one, and the list is not a single character. -/
theorem visitsListed_iff (syn : PathSyntax) (p relativePath : StdString)
    (hr : syn.separator ∉ relativePath) :
    VisitsListed syn p relativePath ↔
      p = [] ∨ p.head? ≠ some syn.separator ∧ ¬ [syn.separator, syn.separator] <:+: p ∧
        p.length ≠ 1 := by
  by_cases hp : p = []
  · subst hp
    refine iff_of_true ⟨[], [], rfl, ?_⟩ (Or.inl rfl)
    simp [searchedPaths_eq]
  by_cases hhead : p.head? = some syn.separator
  · refine iff_of_false ?_ (by simp [hp, hhead])
    rintro ⟨outputPath, reads, hrun, -⟩
    obtain ⟨t, rfl⟩ := List.head?_eq_some_iff.mp hhead
    rw [copyIncludedPaths_sep_cons] at hrun
    cases hrun
  · have hreads : Reads p.length (copyIncludedPaths syn true p relativePath []) _ :=
      reads_copyIncludedPaths p [] hp fun _ => hhead
    obtain ⟨reads, hrun, -⟩ := hreads []
    have hvisits : VisitsListed syn p relativePath ↔
        searchedPaths syn (copied syn true relativePath (copiedPieces syn p)) =
          (components syn.separator p).map (directory syn true relativePath) := by
      constructor
      · rintro ⟨outputPath, reads', hrun', heq⟩
        rw [hrun] at hrun'
        cases hrun'
        exact heq
      · exact fun heq => ⟨_, _, hrun, heq⟩
    rw [hvisits, searchedPaths_copied hr hp hhead]
    by_cases hone : p.length = 1
    · refine iff_of_false ?_ (by simp [hp, hone])
      obtain ⟨x, rfl⟩ := List.length_eq_one_iff.mp hone
      have hx : syn.separator ∉ [x] := fun h => hhead (by simp [List.mem_singleton.mp h])
      rw [if_pos hone, components_last hx]
      simp
    · rw [if_neg hone, visited_eq_iff, nil_mem_dropLast_splitOn]
      simp [hp, hhead, hone]

theorem visitsListed_shares :
    VisitsListed .posix "/usr/share/:/opt:".toList "openxr/1".toList :=
  (visitsListed_iff .posix _ _ (by decide)).mpr (Or.inr (by decide))

/-- The root as the only entry is lost. -/
theorem not_visitsListed_root : ¬ VisitsListed .posix "/".toList "openxr/1".toList := by
  rintro ⟨outputPath, reads, hrun, heq⟩
  have hreads : Reads _ (copyIncludedPaths .posix true "/".toList "openxr/1".toList []) _ :=
    reads_copyIncludedPaths "/".toList [] (by decide) (fun _ => by decide)
  obtain ⟨reads', hrun', -⟩ := hreads []
  have hpieces : copiedPieces .posix "/".toList = [] := by decide
  rw [hpieces] at hrun'
  rw [hrun'] at hrun
  cases hrun
  rw [searchedPaths_eq] at heq
  exact absurd heq (by decide)

end Visiting
end OpenXRSdk
