import OpenXRSdk.SearchPathExpansion
import OpenXRSdk.UnboundedLoops

/-!
# The loops over a search path

`AddFilesInPath` as it is written, with two indices that the inner loop makes equal on
purpose: the loops end, they read inside the string, and they pass on its components.
-/
namespace OpenXRSdk

open SeparatedLists UnboundedLoops

/-! ## The loops -/

/-- `last_found` and `found`; none is `npos`. -/
structure Indices where
  lastFound : ℕ
  found : Option ℕ

/-- The indices between two turns of the outer loop, the starts of the pieces cut out so
far, and the manifest files. -/
structure Splitting (S : Type) where
  indices : Indices
  starts : List ℕ
  manifestFiles : S

/-- `found - last_found`; a difference below 0 is a length that no string has. -/
def pieceLength (found lastFound : ℕ) : Option ℕ :=
  if lastFound ≤ found then some (found - lastFound) else none

def substr (s : StdString) (start : ℕ) (length : Option ℕ) : Except Fault StdString :=
  if start ≤ s.length then .ok (length.elim (s.drop start) (s.drop start).take)
  else .error .exception

def skipTurn (separator : Char) (searchPath : StdString) (indices : Indices) : Indices ⊕ Indices :=
  if indices.found = some indices.lastFound then
    .inr ⟨indices.lastFound + 1, findFrom separator searchPath (indices.lastFound + 1)⟩
  else .inl indices

section Splitting

variable {S : Type} (separator : Char) (searchPath : StdString)
  (check : StdString → S → Except Fault S)

def checkRemaining (state : Splitting S) : List ℕ × Except Fault S :=
  if state.indices.lastFound < searchPath.length then
    (state.starts ++ [state.indices.lastFound], do
      let curSearch ← substr searchPath state.indices.lastFound none
      check curSearch state.manifestFiles)
  else (state.starts, .ok state.manifestFiles)

def checkPiece (state : Splitting S) (found : ℕ) : Except Fault S := do
  let lastFound := state.indices.lastFound
  let curSearch ← substr searchPath lastFound (pieceLength found lastFound)
  check curSearch state.manifestFiles

/-- The outer loop, and what is done when it ends. -/
def splitTurn (state : Splitting S) : Part ((List ℕ × Except Fault S) ⊕ Splitting S) :=
  match state.indices.found with
  | none => return .inl (checkRemaining searchPath check state)
  | some found =>
    let starts := state.starts ++ [state.indices.lastFound]
    match checkPiece searchPath check state found with
    | .error fault => return .inl (starts, .error fault)
    | .ok manifestFiles => do
      let indices ← forever (fun indices =>
        Part.some (skipTurn separator searchPath indices)) ⟨found, some found⟩
      return .inr ⟨indices, starts, manifestFiles⟩

/-- `AddFilesInPath`: the starts of the pieces cut out, and the manifest files. -/
def addFilesInPathLoops (manifestFiles : S) : Part (List ℕ × Except Fault S) :=
  forever (splitTurn separator searchPath check)
    ⟨⟨0, findFrom separator searchPath 0⟩, [], manifestFiles⟩

/-! ## Their end -/

variable {separator searchPath check}

/-- The inner loop ends after the separators that follow each other. -/
theorem forever_skipTurn (found : ℕ) :
    forever (fun indices => Part.some (skipTurn separator searchPath indices))
        ⟨found, some found⟩ =
      Part.some ⟨skipSeparators separator searchPath found,
        findFrom separator searchPath (skipSeparators separator searchPath found)⟩ := by
  have hnext (found : ℕ) : Part.some (skipTurn separator searchPath ⟨found, some found⟩) =
      Part.some (.inr ⟨found + 1, findFrom separator searchPath (found + 1)⟩) :=
    congrArg Part.some (if_pos rfl)
  fun_induction skipSeparators separator searchPath found with
  | case1 found hfound ih =>
    rw [forever_of_next (hnext found), hfound]
    exact ih
  | case2 found hfound =>
    rw [forever_of_next (hnext found)]
    exact forever_of_exit (congrArg Part.some (if_neg hfound))

theorem skipSeparators_le {found : ℕ} (h : found < searchPath.length) :
    skipSeparators separator searchPath found ≤ searchPath.length := by
  fun_induction skipSeparators separator searchPath found with
  | case1 found hfound ih => exact ih (findFrom_bounds hfound).2
  | case2 found hfound => exact h

theorem searchLoop_of_none {lastFound : ℕ} (h : findFrom separator searchPath lastFound = none) :
    searchLoop separator searchPath lastFound =
      if lastFound < searchPath.length then [searchPath.drop lastFound] else [] := by
  rw [searchLoop]
  split
  · rename_i hfound
    rw [h] at hfound
    cases hfound
  · rfl

theorem searchLoop_of_some {lastFound found : ℕ}
    (h : findFrom separator searchPath lastFound = some found) :
    searchLoop separator searchPath lastFound =
      (searchPath.drop lastFound).take (found - lastFound) ::
        searchLoop separator searchPath (skipSeparators separator searchPath found) := by
  rw [searchLoop]
  split
  · rename_i hfound
    rw [h] at hfound
    cases hfound
    rfl
  · rename_i hfound
    rw [h] at hfound
    cases hfound

theorem substr_of_le {s : StdString} {start : ℕ} (h : start ≤ s.length) (length : Option ℕ) :
    substr s start length = .ok (length.elim (s.drop start) (s.drop start).take) := if_pos h

theorem splitTurn_none {state : Splitting S} (h : state.indices.found = none) :
    splitTurn separator searchPath check state =
      Part.some (.inl (checkRemaining searchPath check state)) := by
  rw [splitTurn, h]
  rfl

theorem splitTurn_some {state : Splitting S} {found : ℕ} (h : state.indices.found = some found) :
    splitTurn separator searchPath check state =
      Part.some (match checkPiece searchPath check state found with
        | .error fault => .inl (state.starts ++ [state.indices.lastFound], .error fault)
        | .ok manifestFiles =>
          .inr ⟨⟨skipSeparators separator searchPath found,
              findFrom separator searchPath (skipSeparators separator searchPath found)⟩,
            state.starts ++ [state.indices.lastFound], manifestFiles⟩) := by
  rw [splitTurn, h]
  cases hcheck : checkPiece searchPath check state found with
  | error fault => simp only [hcheck]; rfl
  | ok manifestFiles =>
    simp only [hcheck, forever_skipTurn]
    exact Part.bind_some _ _

theorem checkPiece_eq {state : Splitting S} {found : ℕ}
    (hle : state.indices.lastFound ≤ found) (hlt : found < searchPath.length) :
    checkPiece searchPath check state found =
      check ((searchPath.drop state.indices.lastFound).take (found - state.indices.lastFound))
        state.manifestFiles := by
  simp only [checkPiece, substr_of_le (hle.trans hlt.le), pieceLength, if_pos hle]
  rfl

/-- Between two turns: `found` is the separator after `last_found`, what has been cut out lies
inside the string, and the pieces that are left lead to the result. -/
structure LeftToSplit (separator : Char) (searchPath : StdString)
    (check : StdString → S → Except Fault S) (result : Except Fault S) (state : Splitting S) :
    Prop where
  found : state.indices.found = findFrom separator searchPath state.indices.lastFound
  lastFound : state.indices.lastFound ≤ searchPath.length
  starts : ∀ start ∈ state.starts, start ≤ searchPath.length
  left : (searchLoop separator searchPath state.indices.lastFound).foldlM
    (fun files path => check path files) state.manifestFiles = result

theorem turns_splitTurn (result : Except Fault S) (state : Splitting S)
    (h : LeftToSplit separator searchPath check result state) :
    Turns (splitTurn separator searchPath check)
      (LeftToSplit separator searchPath check result)
      (fun state => searchPath.length - state.indices.lastFound)
      (fun ended => ended.2 = result ∧ ∀ start ∈ ended.1, start ≤ searchPath.length) state := by
  have hmore : ∀ start ∈ state.starts ++ [state.indices.lastFound], start ≤ searchPath.length := by
    intro start hstart
    rcases List.mem_append.mp hstart with hstart | hstart
    · exact h.starts start hstart
    · exact (List.mem_singleton.mp hstart).le.trans h.lastFound
  cases hfound : state.indices.found with
  | none =>
    refine Or.inl ⟨_, splitTurn_none hfound, ?_⟩
    have hleft := h.left
    rw [searchLoop_of_none (h.found ▸ hfound)] at hleft
    rw [checkRemaining]
    split_ifs at hleft ⊢ with hlt
    · rw [substr_of_le hlt.le]
      simp only [List.foldlM_cons, List.foldlM_nil, bind_pure] at hleft
      exact ⟨hleft, hmore⟩
    · exact ⟨hleft, h.starts⟩
  | some found =>
    have hnext := h.found ▸ hfound
    obtain ⟨hle, hlt⟩ := findFrom_bounds hnext
    have hleft := h.left
    have hpiece : checkPiece searchPath check state found = _ := checkPiece_eq hle hlt
    rw [searchLoop_of_some hnext, List.foldlM_cons, ← hpiece] at hleft
    have hskip := lt_skipSeparators separator searchPath found
    have hend : skipSeparators separator searchPath found ≤ searchPath.length :=
      skipSeparators_le hlt
    rw [Turns, splitTurn_some hfound]
    cases hcheck : checkPiece searchPath check state found with
    | error fault =>
      rw [hcheck] at hleft
      exact Or.inl ⟨_, rfl, hleft, hmore⟩
    | ok manifestFiles =>
      rw [hcheck] at hleft
      exact Or.inr ⟨_, rfl, ⟨rfl, hend, hmore, hleft⟩, by dsimp only; omega⟩

variable (check)

/-- The loops end, every piece is cut out at an index of the string or at its end, and what is
passed on is the components, after one empty string where the path begins with a separator. -/
theorem addFilesInPathLoops_splits (syn : PathSyntax) (searchPath : StdString)
    (manifestFiles : S) :
    ∃ starts,
      addFilesInPathLoops syn.separator searchPath check manifestFiles =
          Part.some (starts,
            ((if searchPath.head? = some syn.separator then [[]] else []) ++
              components syn.separator searchPath).foldlM
                (fun files path => check path files) manifestFiles) ∧
        ∀ start ∈ starts, start ≤ searchPath.length := by
  obtain ⟨⟨starts, result⟩, hrun, hresult, hstarts⟩ := forever_total
    (fun state : Splitting S => searchPath.length - state.indices.lastFound)
    (@turns_splitTurn S syn.separator searchPath check _)
    (s := ⟨⟨0, findFrom syn.separator searchPath 0⟩, [], manifestFiles⟩)
    ⟨rfl, Nat.zero_le _, by simp, rfl⟩
  refine ⟨starts, ?_, hstarts⟩
  rw [addFilesInPathLoops, ← searchedPaths_eq]
  exact hrun.trans (congrArg (fun result => Part.some (starts, result)) hresult)

/-- The loops with the check of the loader are `addFilesInPath`. -/
theorem addFilesInPathLoops_eq (syn : PathSyntax) (fs : DirectoryTree) (searchPath : StdString)
    (isDirectoryList : Bool) (manifestFiles : List StdString) :
    (addFilesInPathLoops syn.separator searchPath
        (fun path files => checkAllFilesInThePath fs isDirectoryList files path)
        manifestFiles).map Prod.snd =
      Part.some (addFilesInPath syn fs searchPath isDirectoryList manifestFiles) := by
  obtain ⟨starts, hrun, -⟩ := addFilesInPathLoops_splits
    (fun path files => checkAllFilesInThePath fs isDirectoryList files path) syn searchPath
    manifestFiles
  rw [hrun, Part.map_some, addFilesInPath, searchedPaths_eq]

end Splitting
end OpenXRSdk
