import OpenXRSdk.EnvironmentLayers
import OpenXRSdk.ManifestSearch

/-!
# The file of the active runtime

The search for it, step by step with its output variable, finds the first of the candidates that
exists.
-/
namespace OpenXRSdk

open SeparatedLists

def DirectoryTree.pathExists (fs : DirectoryTree) (path : StdString) : Bool :=
  match fs.status path with
  | .missing => false
  | _ => true

theorem DirectoryTree.fileSysUtilsPathExists_eq {fs : DirectoryTree} {path : StdString}
    (h : fs.status path ≠ .inaccessible) : fs.fileSysUtilsPathExists path = .ok (fs.pathExists path) := by
  unfold fileSysUtilsPathExists pathExists
  cases hstatus : fs.status path with
  | inaccessible => exact absurd hstatus h
  | _ => rfl

/-- What a step of the search leaves: whether there is a file, and the variable `out`. -/
abbrev Searched := Except Fault (Bool × StdString)

namespace ActiveRuntimeSearch

variable (cfg : SearchConfiguration) (fs : DirectoryTree) (relativeDir : StdString) (major : ℕ)

def decoratedPath (rtDirPrefix : StdString) : StdString :=
  rtDirPrefix ++ (toString major).toList ++ "/active_runtime.".toList ++ cfg.archAbi ++ ".json".toList

def undecoratedPath (rtDirPrefix : StdString) : StdString :=
  rtDirPrefix ++ (toString major).toList ++ "/active_runtime.json".toList

/-- `FindEitherActiveRuntimeFilename`. -/
def findEither (rtDirPrefix out : StdString) : Searched := do
  if ← fs.fileSysUtilsPathExists (decoratedPath cfg major rtDirPrefix) then
    return (true, decoratedPath cfg major rtDirPrefix)
  if ← fs.fileSysUtilsPathExists (undecoratedPath major rtDirPrefix) then
    return (true, undecoratedPath major rtDirPrefix)
  return (false, out)

/-- The loop over the entries of XDG_CONFIG_DIRS. -/
def findInEntries : List StdString → StdString → Searched
  | [], out => return (false, out)
  | path :: paths, out => do
    if path.isEmpty then findInEntries paths out
    else
      let (found, out) ← findEither cfg fs major (path ++ "/".toList ++ relativeDir) out
      if found then return (true, out)
      findInEntries paths out

def findInDirectory : Option StdString → StdString → Searched
  | none, out => return (false, out)
  | some dir, out => findEither cfg fs major (dir ++ "/".toList ++ relativeDir) out

/-- The directory of XDG_CONFIG_HOME, unless it is empty. -/
def homeDirectory (props : LoaderProperty) : Option StdString :=
  let dirPrefix := getXDGEnvHome props "XDG_CONFIG_HOME".toList ".config".toList
  if dirPrefix = [] then none else some dirPrefix

/-- The entries of XDG_CONFIG_DIRS, as `std::getline` reads them. -/
def configEntries (props : LoaderProperty) : List StdString :=
  ApiLayerInterface.splitPathList PathSyntax.posix.separator []
    (getXDGEnvAbsolute props "XDG_CONFIG_DIRS".toList cfg.fallbackConfigDirs)

/-- `FindXDGConfigFile`, with the variable that it writes to. -/
def findXDGConfigFile (props : LoaderProperty) (out : StdString) : Searched := do
  let (found, out) ← findInDirectory cfg fs relativeDir major (homeDirectory props) out
  if found then return (true, out)
  let (found, out) ← findInEntries cfg fs relativeDir major (configEntries cfg props) out
  if found then return (true, out)
  let (found, out) ← findInDirectory cfg fs relativeDir major (some cfg.sysconfdir) out
  if found then return (true, out)
  let (found, out) ← findInDirectory cfg fs relativeDir major cfg.extraSysconfdir out
  if found then return (true, out)
  return (false, [])

/-! ## The candidates -/

def filesIn (dir : StdString) : List StdString :=
  [decoratedPath cfg major (dir ++ "/".toList ++ relativeDir),
    undecoratedPath major (dir ++ "/".toList ++ relativeDir)]

/-- All paths at which the file may be, by precedence. -/
def candidates (props : LoaderProperty) : List StdString :=
  (xdgConfigDirectories cfg props).flatMap (filesIn cfg relativeDir major)

def firstExisting : List StdString → StdString → Searched
  | [], out => return (false, out)
  | path :: paths, out => do
    if ← fs.fileSysUtilsPathExists path then return (true, path)
    firstExisting paths out

/-- Look on, unless something was found. -/
def orElse (first : Searched) (second : StdString → Searched) : Searched := do
  let (found, out) ← first
  if found then return (true, out) else second out

theorem firstExisting_cons (path : StdString) (paths : List StdString) (out : StdString) :
    firstExisting fs (path :: paths) out = (do
      if ← fs.fileSysUtilsPathExists path then return (true, path)
      firstExisting fs paths out) := rfl

theorem firstExisting_append (paths paths' : List StdString) (out : StdString) :
    firstExisting fs (paths ++ paths') out =
      orElse (firstExisting fs paths out) (firstExisting fs paths') := by
  induction paths with
  | nil => rfl
  | cons path paths ih =>
    rw [List.cons_append, firstExisting_cons, firstExisting_cons, ih]
    cases fs.fileSysUtilsPathExists path with
    | error fault => rfl
    | ok found =>
      cases found with
      | false => rfl
      | true => rfl

theorem findEither_eq (dir out : StdString) :
    findEither cfg fs major (dir ++ "/".toList ++ relativeDir) out =
      firstExisting fs (filesIn cfg relativeDir major dir) out := rfl

theorem findInDirectory_eq (dir : Option StdString) (out : StdString) :
    findInDirectory cfg fs relativeDir major dir out =
      firstExisting fs (dir.toList.flatMap (filesIn cfg relativeDir major)) out := by
  cases dir with
  | none => rfl
  | some dir => exact findEither_eq cfg fs relativeDir major dir out

/-- Empty entries are passed over. -/
theorem findInEntries_eq (entries : List StdString) (out : StdString) :
    findInEntries cfg fs relativeDir major entries out =
      firstExisting fs ((entries.filter (· ≠ [])).flatMap (filesIn cfg relativeDir major)) out := by
  induction entries generalizing out with
  | nil => rfl
  | cons path paths ih =>
    unfold findInEntries
    by_cases hpath : path = []
    · rw [if_pos (by simp [hpath]), List.filter_cons_of_neg (by simp [hpath])]
      exact ih out
    · rw [if_neg (by simp [hpath]), List.filter_cons_of_pos (by simp [hpath]), List.flatMap_cons,
        firstExisting_append, ← findEither_eq]
      unfold orElse
      refine bind_congr fun step => ?_
      obtain ⟨found, out'⟩ := step
      cases found with
      | false => exact ih out'
      | true => rfl

theorem orElse_assoc (first : Searched) (second third : StdString → Searched) :
    orElse (orElse first second) third = orElse first fun out => orElse (second out) third := by
  cases first with
  | error fault => rfl
  | ok step =>
    obtain ⟨found, out⟩ := step
    cases found with
    | false => rfl
    | true => rfl

theorem xdgConfigDirectories_eq (props : LoaderProperty) :
    xdgConfigDirectories cfg props = (homeDirectory props).toList ++
      (configEntries cfg props).filter (· ≠ []) ++ [cfg.sysconfdir] ++ cfg.extraSysconfdir.toList := by
  have hhome : (homeDirectory props).toList =
      if getXDGEnvHome props "XDG_CONFIG_HOME".toList ".config".toList = [] then []
      else [getXDGEnvHome props "XDG_CONFIG_HOME".toList ".config".toList] := by
    unfold homeDirectory
    dsimp only
    split_ifs <;> rfl
  rw [hhome, configEntries, ApiLayerInterface.filter_splitPathList List.not_mem_nil]
  rfl

/-- The search goes through the candidates one after the other. -/
theorem findXDGConfigFile_eq (props : LoaderProperty) (out : StdString) :
    findXDGConfigFile cfg fs relativeDir major props out =
      orElse (firstExisting fs (candidates cfg relativeDir major props) out)
        fun _ => return (false, []) := by
  have hsteps : findXDGConfigFile cfg fs relativeDir major props out =
      orElse (findInDirectory cfg fs relativeDir major (homeDirectory props) out) fun out =>
      orElse (findInEntries cfg fs relativeDir major (configEntries cfg props) out) fun out =>
      orElse (findInDirectory cfg fs relativeDir major (some cfg.sysconfdir) out) fun out =>
      orElse (findInDirectory cfg fs relativeDir major cfg.extraSysconfdir out) fun _ =>
        return (false, []) := rfl
  rw [hsteps, candidates, xdgConfigDirectories_eq]
  simp only [List.flatMap_append, firstExisting_append, orElse_assoc, findInDirectory_eq,
    findInEntries_eq]
  rfl

/-! ## The first that exists -/

variable {cfg fs relativeDir major}

theorem firstExisting_of_accessible (haccessible : ∀ path, fs.status path ≠ .inaccessible)
    (paths : List StdString) (out : StdString) : firstExisting fs paths out =
      .ok (match paths.find? fs.pathExists with
        | some path => (true, path)
        | none => (false, out)) := by
  induction paths with
  | nil => rfl
  | cons path paths ih =>
    rw [firstExisting_cons, ih, DirectoryTree.fileSysUtilsPathExists_eq (haccessible path),
      List.find?_cons]
    cases fs.pathExists path with
    | false => rfl
    | true => rfl

/-- The whole search, where every path can be looked at. -/
theorem findXDGConfigFile_of_accessible (haccessible : ∀ path, fs.status path ≠ .inaccessible)
    (props : LoaderProperty) (out : StdString) :
    findXDGConfigFile cfg fs relativeDir major props out =
      .ok (match (candidates cfg relativeDir major props).find? fs.pathExists with
        | some path => (true, path)
        | none => (false, [])) := by
  rw [findXDGConfigFile_eq, firstExisting_of_accessible haccessible]
  cases (candidates cfg relativeDir major props).find? fs.pathExists with
  | none => rfl
  | some path => rfl

def userFiles : DirectoryTree where
  status path :=
    if path = "/u/.config/openxr/1/active_runtime.json".toList then .file true
    else if path = "/etc/xdg/openxr/1/active_runtime.x86_64.json".toList then .file true
    else .missing
  combinePaths parent child := parent ++ '/' :: child
  absolutePath path := path
  empty_missing := rfl

def userProperties : LoaderProperty where
  platform :=
    ⟨fun _ => [], fun name => if name = "HOME".toList then "/u".toList else [], fun _ => false⟩
  overrides := ∅

def fileOf (step : Bool × StdString) : Option StdString := if step.1 then some step.2 else none

variable (cfg fs relativeDir)

theorem findEitherActiveRuntimeFilename_eq (dir out : StdString) :
    findEitherActiveRuntimeFilename cfg fs (dir ++ "/".toList ++ relativeDir) =
      fileOf <$> firstExisting fs (filesIn cfg relativeDir (xrVersionMajor xrCurrentApiVersion) dir)
        out := by
  rw [← findEither_eq]
  unfold findEitherActiveRuntimeFilename findEither
  simp only [map_bind]
  refine bind_congr fun decorated => ?_
  cases decorated with
  | true => rfl
  | false =>
    simp only [Bool.false_eq_true, if_false, map_bind]
    refine bind_congr fun undecorated => ?_
    cases undecorated with
    | true => rfl
    | false => rfl

/-- Steps without the output variable find the same file. -/
theorem findInDirectories_eq (dirs : List StdString) (out : StdString) :
    findInDirectories cfg fs relativeDir dirs = fileOf <$> firstExisting fs
      (dirs.flatMap (filesIn cfg relativeDir (xrVersionMajor xrCurrentApiVersion))) out := by
  induction dirs generalizing out with
  | nil => rfl
  | cons dir dirs ih =>
    unfold findInDirectories
    rw [List.flatMap_cons, firstExisting_append, findEitherActiveRuntimeFilename_eq _ _ _ _ out]
    unfold orElse
    simp only [map_bind, bind_map_left]
    refine bind_congr fun step => ?_
    obtain ⟨found, out'⟩ := step
    cases found with
    | true => rfl
    | false => exact ih out'

theorem findXDGConfigFile_eq_fileOf (props : LoaderProperty) (out : StdString) :
    OpenXRSdk.findXDGConfigFile cfg fs props relativeDir =
      fileOf <$> findXDGConfigFile cfg fs relativeDir (xrVersionMajor xrCurrentApiVersion) props
        out := by
  rw [findXDGConfigFile_eq, OpenXRSdk.findXDGConfigFile, findInDirectories_eq _ _ _ _ out, candidates]
  unfold orElse
  simp only [map_bind]
  rw [← bind_pure_comp]
  refine bind_congr fun step => ?_
  obtain ⟨found, out'⟩ := step
  cases found with
  | true => rfl
  | false => rfl

end ActiveRuntimeSearch
end OpenXRSdk
