import OpenXRSdk.SearchPathExpansion

/-!
# Searching directories

What one listed path contributes to the manifest files, and when a path that cannot be
searched keeps the others from being searched.
-/
namespace OpenXRSdk

open SeparatedLists

def jsonFiles (fs : DirectoryTree) (path : StdString) : List StdString :=
  match fs.status path with
  | .directory names =>
    (names.map fun name => fs.absolutePath (fs.combinePaths path name)).filter isJson
  | _ => []

/-- Nothing stands at the path, or a directory that can be opened. -/
def DirectoryTree.Searchable (fs : DirectoryTree) (path : StdString) : Prop :=
  fs.status path = .missing ∨ ∃ names, fs.status path = .directory names

theorem foldl_addIfJson (f : StdString → StdString) (names manifestFiles : List StdString) :
    names.foldl (fun found name => addIfJson (f name) found) manifestFiles =
      manifestFiles ++ (names.map f).filter isJson := by
  induction names generalizing manifestFiles with
  | nil => simp
  | cons name names ih =>
    rw [List.foldl_cons, ih, addIfJson, List.map_cons, List.filter_cons]
    split_ifs <;> simp

theorem checkAllFilesInThePath_of_searchable {fs : DirectoryTree} {path : StdString}
    (h : fs.Searchable path) (manifestFiles : List StdString) :
    checkAllFilesInThePath fs true manifestFiles path =
      .ok (manifestFiles ++ jsonFiles fs path) := by
  rcases h with h | ⟨names, h⟩
  · simp [checkAllFilesInThePath, DirectoryTree.fileSysUtilsPathExists, jsonFiles, h]
    rfl
  · simp only [checkAllFilesInThePath, DirectoryTree.fileSysUtilsPathExists,
      DirectoryTree.fileSysUtilsFindFilesInPath, jsonFiles, h]
    exact congrArg Except.ok (foldl_addIfJson _ _ _)

theorem checkAllFilesInThePath_of_not_searchable {fs : DirectoryTree} {path : StdString}
    (h : ¬ fs.Searchable path) (manifestFiles : List StdString) :
    checkAllFilesInThePath fs true manifestFiles path = .error .exception := by
  unfold checkAllFilesInThePath DirectoryTree.fileSysUtilsPathExists
    DirectoryTree.fileSysUtilsFindFilesInPath
  cases hstatus : fs.status path with
  | missing => exact absurd (Or.inl hstatus) h
  | directory names => exact absurd (Or.inr ⟨names, hstatus⟩) h
  | file regular => rfl
  | unreadableDirectory => rfl
  | inaccessible => rfl

/-- A fold over paths reaches its end exactly when all of them are searchable. -/
theorem foldlM_checkAllFilesInThePath {fs : DirectoryTree} (paths manifestFiles : List StdString) :
    paths.foldlM (checkAllFilesInThePath fs true) manifestFiles =
        .ok (manifestFiles ++ paths.flatMap (jsonFiles fs)) ↔
      ∀ path ∈ paths, fs.Searchable path := by
  induction paths generalizing manifestFiles with
  | nil => simp [pure, Except.pure]
  | cons path paths ih =>
    rw [List.foldlM_cons, List.forall_mem_cons, List.flatMap_cons, ← List.append_assoc]
    by_cases h : fs.Searchable path
    · rw [checkAllFilesInThePath_of_searchable h, ← ih (manifestFiles ++ jsonFiles fs path)]
      exact ⟨fun heq => ⟨h, heq⟩, fun heq => heq.2⟩
    · rw [checkAllFilesInThePath_of_not_searchable h]
      refine iff_of_false ?_ fun hall => h hall.1
      rintro ⟨⟩

/-- What each listed path holds is found, in order. -/
def SearchesEach (syn : PathSyntax) (fs : DirectoryTree) (searchPath : StdString) : Prop :=
  ∀ manifestFiles, addFilesInPath syn fs searchPath true manifestFiles =
    .ok (manifestFiles ++ (components syn.separator searchPath).flatMap (jsonFiles fs))

def fileBesideDirectory : DirectoryTree where
  status path :=
    if path = "/a".toList then .file true
    else if path = "/b".toList then .directory ["x.json".toList]
    else .missing
  combinePaths parent child := parent ++ '/' :: child
  absolutePath path := path
  empty_missing := rfl

end OpenXRSdk
