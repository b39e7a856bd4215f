import OpenXRSdk.JsonValue
import OpenXRSdk.LoaderProperties

/-!
# Manifest files

What the loader keeps of the JSON file of a runtime or of an API layer, and how it
reads the file.
-/
namespace OpenXRSdk

inductive ManifestFileType
  | undefined
  | runtime
  | implicitApiLayer
  | explicitApiLayer
  deriving DecidableEq, Repr

structure JsonVersion where
  major : ℕ
  minor : ℕ
  patch : ℕ
  deriving DecidableEq, Repr

structure ExtensionListing where
  name : StdString
  extensionVersion : ℕ
  deriving DecidableEq, Repr

structure ManifestFile where
  filename : StdString
  type : ManifestFileType
  libraryPath : StdString
  instanceExtensions : List ExtensionListing
  functionsRenamed : UnorderedMap StdString StdString
  deriving DecidableEq

structure RuntimeManifestFile extends ManifestFile
  deriving DecidableEq

structure ApiLayerManifestFile extends ManifestFile where
  apiVersion : JsonVersion
  layerName : StdString
  description : StdString
  implementationVersion : ℕ
  deriving DecidableEq

/-! ## Numbers in strings -/

def isSpace (c : Char) : Bool := c = ' ' || (9 ≤ c.toNat && c.toNat ≤ 13)

def decimalValue (digits : StdString) : ℕ := digits.foldl (fun n c => 10 * n + (c.toNat - 48)) 0

/-- The sign, the digits and the rest of a C string that may start with a number. -/
def numberPrefix (s : StdString) : Bool × StdString × StdString :=
  let signed (negative : Bool) (t : StdString) :=
    (negative, t.takeWhile Char.isDigit, t.dropWhile Char.isDigit)
  match (cString s).dropWhile isSpace with
  | '-' :: t => signed true t
  | '+' :: t => signed false t
  | t => signed false t

/-- What a conversion to a 64-bit `unsigned long` makes of a sign and digits. -/
def unsignedLong (negative : Bool) (digits : StdString) : ℕ :=
  if 2 ^ 64 ≤ decimalValue digits then 2 ^ 64 - 1
  else if negative then (2 ^ 64 - decimalValue digits) % 2 ^ 64
  else decimalValue digits

/-- `strtoul(s, &end, 10)`: the value, and the C string that `end` points to. -/
def strtoul (s : StdString) : ℕ × StdString :=
  let (negative, digits, rest) := numberPrefix s
  if digits.isEmpty then (0, cString s) else (unsignedLong negative digits, rest)

/-- One `%u` conversion of `sscanf` to a `uint32_t`. -/
def scanUInt32 (s : StdString) : Option (ℕ × StdString) :=
  let (negative, digits, rest) := numberPrefix s
  if digits.isEmpty then none else some (unsignedLong negative digits % 2 ^ 32, rest)

/-- `sscanf` of `count` conversions with a dot between them: the values that it converts. -/
def scanFields : ℕ → StdString → List ℕ
  | 0, _ => []
  | count + 1, s =>
    match scanUInt32 s with
    | none => []
    | some (v, '.' :: rest) => v :: scanFields count rest
    | some (v, _) => [v]

/-! ## Reading one file -/

/-- The questions put to the file system and to the JSON parser, some of which may have no
answer but an exception. -/
structure FileSystem where
  /-- None where the status of the path cannot be determined. -/
  exists? : StdString → Option Bool
  isAbsolute : StdString → Bool
  parentPath : StdString → StdString
  /-- None for a path that does not resolve. -/
  canonical : StdString → Option StdString
  combine : StdString → StdString → StdString
  /-- The root of the file, if it opens and parses. -/
  readJson : StdString → Except Fault (Option Json.Value)

/-- What a function of the standard library yields, unless it throws. -/
def orThrow {α : Type} : Option α → Except Fault α
  | some a => .ok a
  | none => .error .exception

/-! The functions of `filesystem_utils.cpp` that yield a path never return false. -/

def fileSysUtilsPathExists (fs : FileSystem) (path : StdString) : Except Fault Bool :=
  orThrow (fs.exists? path)

def fileSysUtilsGetParentPath (fs : FileSystem) (path : StdString) : Option StdString :=
  some (fs.parentPath path)

def fileSysUtilsGetCanonicalPath (fs : FileSystem) (path : StdString) :
    Except Fault (Option StdString) := do
  return some (← orThrow (fs.canonical path))

def fileSysUtilsCombinePaths (fs : FileSystem) (parent child : StdString) : Option StdString :=
  some (fs.combine parent child)

def hasDirectorySymbol (path : StdString) : Bool := path.contains '\\' || path.contains '/'

namespace ManifestFile

def isValidJson (rootNode : Json.Value) : Except Fault Bool := do
  match (← rootNode.member "file_format_version".toList).string? with
  | none => return false
  | some fileFormat => return scanFields 3 fileFormat = [1, 0, 0]

def parseExtension (ext : Json.Value) (extensions : List ExtensionListing) :
    Except Fault (List ExtensionListing) := do
  let extName ← ext.member "name".toList
  let extVersion ← ext.member "extension_version".toList
  match extName.string? with
  | none => return extensions
  | some name =>
    match extVersion.uInt?, extVersion.string? with
    | some version, _ => return extensions ++ [⟨name, version⟩]
    | none, some version => return extensions ++ [⟨name, (strtoul version).1 % 2 ^ 32⟩]
    | none, none => return extensions

def renameFunction (renamed : UnorderedMap StdString StdString) (entry : StdString × Json.Value) :
    UnorderedMap StdString StdString :=
  match entry.2.string? with
  | none => renamed
  | some newName => UnorderedMap.emplace entry.1 newName renamed

def parseExtensions (instExts : Json.Value) (extensions : List ExtensionListing) :
    Except Fault (List ExtensionListing) :=
  match instExts with
  | .array exts => exts.foldlM (fun es ext => parseExtension ext es) extensions
  | _ => .ok extensions

def parseCommon (rootNode : Json.Value) (manifest : ManifestFile) : Except Fault ManifestFile := do
  let instExts ← rootNode.member "instance_extensions".toList
  let extensions ← parseExtensions instExts manifest.instanceExtensions
  let funcsRenamed ← rootNode.member "functions".toList
  return { manifest with
    instanceExtensions := extensions
    functionsRenamed := funcsRenamed.entries.foldl renameFunction manifest.functionsRenamed }

def getFunctionName (manifest : ManifestFile) (funcName : StdString) : StdString :=
  (manifest.functionsRenamed.lookup funcName).getD funcName

def addExtension (ext : ExtensionListing) : List XrExtensionProperties → List XrExtensionProperties
  | [] => [⟨boundedCopy xrMaxExtensionNameSize ext.name, ext.extensionVersion⟩]
  | prop :: props =>
    if prop.extensionName = ext.name then
      { prop with extensionVersion := max prop.extensionVersion ext.extensionVersion } :: props
    else prop :: addExtension ext props

def getInstanceExtensionProperties (manifest : ManifestFile) (props : List XrExtensionProperties) :
    List XrExtensionProperties :=
  manifest.instanceExtensions.foldl (fun ps ext => addExtension ext ps) props

end ManifestFile

namespace RuntimeManifestFile

/-- The library path of a runtime, relative to the real manifest file when it is a
relative path with a directory. -/
def locateLibrary (fs : FileSystem) (filename libPath : StdString) :
    Except Fault (Option StdString) := do
  if hasDirectorySymbol libPath ∧ ¬ fs.isAbsolute libPath then
    let canonicalPath := (← fileSysUtilsGetCanonicalPath fs filename).getD filename
    return (fileSysUtilsGetParentPath fs canonicalPath).bind fun fileParent =>
      fileSysUtilsCombinePaths fs fileParent libPath
  else return some libPath

/-- `CreateIfValid(root_node, filename, manifest_files)`. -/
def createIfValid (fs : FileSystem) (rootNode : Json.Value) (filename : StdString)
    (manifestFiles : List RuntimeManifestFile) : Except Fault (List RuntimeManifestFile) := do
  if !(← ManifestFile.isValidJson rootNode) then return manifestFiles
  let runtimeRootNode ← rootNode.member "runtime".toList
  if runtimeRootNode.isNull then return manifestFiles
  match (← runtimeRootNode.member "library_path".toList).string? with
  | none => return manifestFiles
  | some libPath =>
    match ← locateLibrary fs filename libPath with
    | none => return manifestFiles
    | some libPath =>
      let manifest ← ManifestFile.parseCommon runtimeRootNode ⟨filename, .runtime, libPath, [], ∅⟩
      return manifestFiles ++ [⟨manifest⟩]

/-- `CreateIfValid(filename, manifest_files)`. -/
def createFromFile (fs : FileSystem) (filename : StdString)
    (manifestFiles : List RuntimeManifestFile) : Except Fault (List RuntimeManifestFile) := do
  match ← fs.readJson filename with
  | some (.object members) => createIfValid fs (.object members) filename manifestFiles
  | _ => return manifestFiles

end RuntimeManifestFile

/-- `LibraryLocator`: from the JSON file's name and the library path to the combined path. -/
abbrev LibraryLocator := StdString → StdString → Except Fault (Option StdString)

namespace ApiLayerManifestFile

def existing (fs : FileSystem) : Option StdString → Except Fault (Option StdString)
  | none => return none
  | some path => do
    if ← fileSysUtilsPathExists fs path then return some path
    return none

def locateLibraryRelativeToJson (fs : FileSystem) : LibraryLocator := fun jsonFilename libraryPath =>
  existing fs ((fileSysUtilsGetParentPath fs jsonFilename).bind fun fileParent =>
    fileSysUtilsCombinePaths fs fileParent libraryPath)

/-- On Android, against the directory of the native libraries. -/
def locateLibraryInAssets (fs : FileSystem) (nativeLibraryDir : StdString) : LibraryLocator :=
  fun _ libraryPath => existing fs (fileSysUtilsCombinePaths fs nativeLibraryDir libraryPath)

/-- Where the library of a layer is, if it appears to exist. -/
def locateLibrary (fs : FileSystem) (locate : LibraryLocator) (filename libraryPath : StdString) :
    Except Fault (Option StdString) :=
  if hasDirectorySymbol libraryPath then
    if fs.isAbsolute libraryPath then existing fs (some libraryPath)
    else locate filename libraryPath
  else return some libraryPath

/-- The state of an implicit layer: `none` without a disable variable, else whether it is
enabled. The disable variable overrides the enable variable. -/
def implicitEnabled (props : LoaderProperty) (layerRootNode : Json.Value) : Except Fault (Option Bool) := do
  match (← layerRootNode.member "disable_environment".toList).string? with
  | none => return none
  | some disableVar =>
    let enabled := match (← layerRootNode.member "enable_environment".toList).string? with
      | some enableVar => props.isSet enableVar
      | none => true
    return some (enabled && !props.isSet disableVar)

/-- Only implicit layers are enabled and disabled by the environment. -/
def isEnabled (props : LoaderProperty) (type : ManifestFileType) (layerRootNode : Json.Value) :
    Except Fault (Option Bool) :=
  match type with
  | .implicitApiLayer => implicitEnabled props layerRootNode
  | _ => .ok (some true)

/-- `api_version` as major and minor number, unless the loader cannot use it. -/
def parseApiVersion (s : StdString) : Option JsonVersion :=
  match scanFields 2 s with
  | [major, minor] =>
    if (major = 0 ∧ minor = 0) ∨ major > xrVersionMajor xrCurrentApiVersion then none
    else some ⟨major, minor, 0⟩
  | _ => none

def parseImplementationVersion (s : StdString) : Option ℕ :=
  let (value, endPtr) := strtoul s
  if endPtr.isEmpty then some (value % 2 ^ 32) else none

/-- The part of `CreateIfValid` after the check of the required fields. -/
def createFromFields (fs : FileSystem) (locate : LibraryLocator) (type : ManifestFileType)
    (filename : StdString) (layerRootNode : Json.Value)
    (name apiVersion libraryPath implementationVersion : StdString)
    (manifestFiles : List ApiLayerManifestFile) : Except Fault (List ApiLayerManifestFile) := do
  match parseApiVersion apiVersion, parseImplementationVersion implementationVersion with
  | some apiVersion, some implementationVersion =>
    match ← locateLibrary fs locate filename libraryPath with
    | none => return manifestFiles
    | some libraryPath =>
      let description := (← layerRootNode.member "description".toList).string?.getD []
      let manifest ← ManifestFile.parseCommon layerRootNode ⟨filename, type, libraryPath, [], ∅⟩
      return manifestFiles ++ [⟨manifest, apiVersion, name, description, implementationVersion⟩]
  | _, _ => return manifestFiles

/-- The part of `CreateIfValid` after the check that there is a node. -/
def createFromNode (fs : FileSystem) (props : LoaderProperty) (locate : LibraryLocator)
    (type : ManifestFileType) (filename : StdString) (layerRootNode : Json.Value)
    (manifestFiles : List ApiLayerManifestFile) : Except Fault (List ApiLayerManifestFile) := do
  match (← layerRootNode.member "name".toList).string?,
      (← layerRootNode.member "api_version".toList).string?,
      (← layerRootNode.member "library_path".toList).string?,
      (← layerRootNode.member "implementation_version".toList).string? with
  | some name, some apiVersion, some libraryPath, some implementationVersion =>
    let enabled ← isEnabled props type layerRootNode
    if enabled = some true then
      createFromFields fs locate type filename layerRootNode name apiVersion libraryPath
        implementationVersion manifestFiles
    else return manifestFiles
  | _, _, _, _ => return manifestFiles

def createIfValid (fs : FileSystem) (props : LoaderProperty) (locate : LibraryLocator)
    (type : ManifestFileType) (rootNode : Json.Value) (filename : StdString)
    (manifestFiles : List ApiLayerManifestFile) : Except Fault (List ApiLayerManifestFile) := do
  if !(← ManifestFile.isValidJson rootNode) then return manifestFiles
  let layerRootNode ← rootNode.member "api_layer".toList
  if layerRootNode.isNull then return manifestFiles
  createFromNode fs props locate type filename layerRootNode manifestFiles

/-- `CreateIfValid(type, filename, manifest_files)`. -/
def createFromFile (fs : FileSystem) (props : LoaderProperty) (type : ManifestFileType)
    (filename : StdString) (manifestFiles : List ApiLayerManifestFile) :
    Except Fault (List ApiLayerManifestFile) := do
  match ← fs.readJson filename with
  | some (.object members) =>
    createIfValid fs props (locateLibraryRelativeToJson fs) type (.object members) filename manifestFiles
  | _ => return manifestFiles

/-- The loop of `FindManifestFiles` over the files found. -/
def createFromFiles (fs : FileSystem) (props : LoaderProperty) (type : ManifestFileType)
    (filenames : List StdString) (manifestFiles : List ApiLayerManifestFile) :
    Except Fault (List ApiLayerManifestFile) :=
  filenames.foldlM (fun files f => createFromFile fs props type f files) manifestFiles

end ApiLayerManifestFile
end OpenXRSdk
