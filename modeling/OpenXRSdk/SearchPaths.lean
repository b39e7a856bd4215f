import OpenXRSdk.SeparatedLists
import OpenXRSdk.StateProgram
import OpenXRSdk.Types

/-!
# Search paths

How a list of directories is copied with a relative path after each of them, how it is
taken apart again, and which manifest files are found in the directories.
-/
namespace OpenXRSdk

open SeparatedLists

/-- `PATH_SEPARATOR` and `DIRECTORY_SYMBOL` of `loader_platform.hpp`. -/
inductive PathSyntax
  | posix
  | windows
  deriving DecidableEq, Repr

namespace PathSyntax

def separator : PathSyntax → Char
  | posix => ':'
  | windows => ';'

def directorySymbol : PathSyntax → Char
  | posix => '/'
  | windows => '\\'

end PathSyntax

/-! ## Reading a string by index -/

/-- What `operator[]` and `substr` are asked for. An index is none when it is the greatest
value of `size_t`, which is what 0 - 1 is. -/
inductive Access
  | index (i : Option ℕ)
  | substr (start : ℕ)
  deriving DecidableEq, Repr

def Access.InRange (size : ℕ) : Access → Prop
  | index i => ∃ k ∈ i, k < size
  | substr start => start ≤ size

/-- Computations that keep account of what they read. -/
abbrev Reading (α : Type) := EStateM Fault (List Access) α

namespace Reading

/-- What has been read, also when the computation does not come to its end. -/
def accesses {α : Type} (x : Reading α) : List Access :=
  match x [] with
  | .ok _ reads => reads
  | .error _ reads => reads

def value {α : Type} (x : Reading α) : Except Fault α :=
  match x [] with
  | .ok a _ => .ok a
  | .error fault _ => .error fault

/-- `operator[]`; at the index `size()` there is a NUL. -/
def charAt (s : StdString) (i : Option ℕ) : Reading Char := do
  modify (· ++ [.index i])
  match i.bind ((s ++ ['\x00'])[·]?) with
  | some c => return c
  | none => throw .undefinedBehaviour

def substr (s : StdString) (start length : ℕ) : Reading StdString := do
  modify (· ++ [.substr start])
  if start ≤ s.length then return (s.drop start).take length else throw .exception

end Reading

def sizePred : ℕ → Option ℕ
  | 0 => none
  | n + 1 => some n

/-! ## CopyIncludedPaths -/

/-- What stands between a piece and the relative path; `last` is the index of the piece's last
character. -/
def copySymbol (syn : PathSyntax) (isDirectoryList : Bool) (curPath : StdString)
    (last : Option ℕ) : Reading StdString :=
  if isDirectoryList then do
    let c ← Reading.charAt curPath last
    return if c ≠ '\\' ∧ c ≠ '/' then [syn.directorySymbol] else []
  else return []

/-- The piece is copied together with what follows it. -/
def copyPiece (syn : PathSyntax) (isDirectoryList : Bool) (curPath piece : StdString)
    (last : Option ℕ) (relativePath : StdString) : Reading StdString := do
  let symbol ← copySymbol syn isDirectoryList curPath last
  return piece ++ symbol ++ relativePath ++ [syn.separator]

/-- The loop over the separators from `pos` on: `last_found` and `output_path` after it. -/
def copyLoop (syn : PathSyntax) (isDirectoryList : Bool) (curPath relativePath : StdString)
    (lastFound pos : ℕ) (outputPath : StdString) : Reading (ℕ × StdString) :=
  match _h : findFrom syn.separator curPath pos with
  | none => return (lastFound, outputPath)
  | some found => do
    let piece ← Reading.substr curPath lastFound (found - lastFound)
    let copied ← copyPiece syn isDirectoryList curPath piece (sizePred found) relativePath
    copyLoop syn isDirectoryList curPath relativePath found (found + 1) (outputPath ++ copied)
termination_by curPath.length - pos
decreasing_by
  have := findFrom_bounds _h
  omega

def copyIncludedPaths (syn : PathSyntax) (isDirectoryList : Bool)
    (curPath relativePath outputPath : StdString) : Reading StdString :=
  if curPath = [] then return outputPath
  else do
    let (lastFound, outputPath) ←
      copyLoop syn isDirectoryList curPath relativePath 0 0 outputPath
    let lastChar := curPath.length - 1
    if lastFound ≠ lastChar then
      let piece ← Reading.substr curPath lastFound curPath.length
      let copied ← copyPiece syn isDirectoryList curPath piece (some lastChar) relativePath
      return outputPath ++ copied
    else return outputPath

/-! ## AddFilesInPath -/

/-- The inner loop: the index after the run of separators that `found` belongs to. -/
def skipSeparators (separator : Char) (searchPath : StdString) (found : ℕ) : ℕ :=
  if _h : findFrom separator searchPath (found + 1) = some (found + 1) then
    skipSeparators separator searchPath (found + 1)
  else found + 1
termination_by searchPath.length - found
decreasing_by
  have := findFrom_bounds _h
  omega

theorem lt_skipSeparators (separator : Char) (searchPath : StdString) (found : ℕ) :
    found < skipSeparators separator searchPath found := by
  fun_induction skipSeparators separator searchPath found with
  | case1 _ _ ih => omega
  | case2 => omega

def searchLoop (separator : Char) (searchPath : StdString) (lastFound : ℕ) : List StdString :=
  match _h : findFrom separator searchPath lastFound with
  | some found =>
    (searchPath.drop lastFound).take (found - lastFound) ::
      searchLoop separator searchPath (skipSeparators separator searchPath found)
  | none => if lastFound < searchPath.length then [searchPath.drop lastFound] else []
termination_by searchPath.length - lastFound
decreasing_by
  have := findFrom_bounds _h
  have := lt_skipSeparators separator searchPath found
  omega

def searchedPaths (syn : PathSyntax) (searchPath : StdString) : List StdString :=
  searchLoop syn.separator searchPath 0

/-! ## The file system -/

inductive PathStatus
  | missing
  | file (regular : Bool)
  | directory (names : List StdString)
  | unreadableDirectory
  /-- Not even the status can be had. -/
  | inaccessible

structure DirectoryTree where
  status : StdString → PathStatus
  /-- `operator/` of two paths. -/
  combinePaths : (parent child : StdString) → StdString
  /-- `std::filesystem::absolute`. -/
  absolutePath : StdString → StdString
  empty_missing : status [] = .missing

namespace DirectoryTree

def fileSysUtilsPathExists (fs : DirectoryTree) (path : StdString) : Except Fault Bool :=
  match fs.status path with
  | .missing => .ok false
  | .inaccessible => .error .exception
  | _ => .ok true

def fileSysUtilsIsRegularFile (fs : DirectoryTree) (path : StdString) : Except Fault Bool :=
  match fs.status path with
  | .file regular => .ok regular
  | .inaccessible => .error .exception
  | _ => .ok false

def fileSysUtilsFindFilesInPath (fs : DirectoryTree) (path : StdString) :
    Except Fault (List StdString) :=
  match fs.status path with
  | .directory names => .ok names
  | _ => .error .exception

end DirectoryTree

/-! ## Manifest files -/

def isJson (fullFile : StdString) : Bool := !fullFile.isEmpty && ".json".toList.isSuffixOf fullFile

def addIfJson (fullFile : StdString) (manifestFiles : List StdString) : List StdString :=
  if isJson fullFile then manifestFiles ++ [fullFile] else manifestFiles

def checkAllFilesInThePath (fs : DirectoryTree) (isDirectoryList : Bool)
    (manifestFiles : List StdString) (searchPath : StdString) : Except Fault (List StdString) := do
  if ← fs.fileSysUtilsPathExists searchPath then
    if !isDirectoryList then
      if ← fs.fileSysUtilsIsRegularFile searchPath then
        return addIfJson (fs.absolutePath searchPath) manifestFiles
      else return manifestFiles
    else
      let files ← fs.fileSysUtilsFindFilesInPath searchPath
      return files.foldl (fun found curFile =>
        addIfJson (fs.absolutePath (fs.combinePaths searchPath curFile)) found) manifestFiles
  else return manifestFiles

def addFilesInPath (syn : PathSyntax) (fs : DirectoryTree) (searchPath : StdString)
    (isDirectoryList : Bool) (manifestFiles : List StdString) : Except Fault (List StdString) :=
  (searchedPaths syn searchPath).foldlM (checkAllFilesInThePath fs isDirectoryList) manifestFiles

end OpenXRSdk
