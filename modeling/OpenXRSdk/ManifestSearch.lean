import OpenXRSdk.ManifestFile
import OpenXRSdk.SearchPaths

/-!
# Locating manifest files on Linux

Which file is the manifest of the active runtime, and which files may be the manifests of
API layers, by the properties and environment variables that name directories.
-/
namespace OpenXRSdk

open SeparatedLists

structure Process where
  getenv : StdString → Option StdString
  secureGetenv : StdString → Option StdString
  uid : ℕ
  euid : ℕ
  gid : ℕ
  egid : ℕ

/-- The Linux functions of `platform_utils.hpp`, built with `secure_getenv`. -/
def Process.platformUtils (process : Process) : PlatformUtils where
  getEnv name := (process.getenv name).getD []
  getSecureEnv name := (process.secureGetenv name).getD []
  getEnvSet name := (process.getenv name).isSome

structure SearchConfiguration where
  fallbackConfigDirs : StdString
  fallbackDataDirs : StdString
  sysconfdir : StdString
  extraSysconfdir : Option StdString
  archAbi : StdString

/-- The macros where the build does not define them. -/
def SearchConfiguration.default : SearchConfiguration where
  fallbackConfigDirs := "/etc/xdg".toList
  fallbackDataDirs := "/usr/local/share:/usr/share".toList
  sysconfdir := "/etc".toList
  extraSysconfdir := none
  archAbi := "x86_64".toList

/-- `XR_VERSION_MAJOR(XR_CURRENT_API_VERSION)` as a string. -/
def majorVersion : StdString := (toString (xrVersionMajor xrCurrentApiVersion)).toList

/-! ## Data files of API layers -/

/-- The uid check: a process with the rights of another user may not use the variable. -/
def Process.permitsOverride (process : Process) : Bool :=
  process.euid = process.uid ∧ process.egid = process.gid

/-- The path lists that are searched when there is no override, each with the relative path
that is appended to it. -/
def searchLocations (cfg : SearchConfiguration) (props : LoaderProperty) (relativePath : StdString) :
    List (StdString × StdString) :=
  let xdgConfDirs := props.getSecure "XDG_CONFIG_DIRS".toList
  let xdgDataDirs := props.getSecure "XDG_DATA_DIRS".toList
  let xdgDataHome := props.getSecure "XDG_DATA_HOME".toList
  let home := props.getSecure "HOME".toList
  [(if xdgConfDirs = [] then cfg.fallbackConfigDirs else xdgConfDirs, relativePath),
    (cfg.sysconfdir, relativePath)] ++
  cfg.extraSysconfdir.toList.map (·, relativePath) ++
  [(if xdgDataDirs = [] then cfg.fallbackDataDirs else xdgDataDirs, relativePath)] ++
  if xdgDataHome ≠ [] then [(xdgDataHome, relativePath)]
  else if home ≠ [] then [(home, ".local/share/".toList ++ relativePath)]
  else []

def copyAllPaths (locations : List (StdString × StdString)) (searchPath : StdString) :
    Except Fault StdString :=
  locations.foldlM (fun path location =>
    (copyIncludedPaths .posix true location.1 location.2 path).value) searchPath

/-- Whether the override is active, and the data files. -/
def readDataFilesInSearchPaths (cfg : SearchConfiguration) (fs : DirectoryTree) (process : Process)
    (overrides : UnorderedMap StdString StdString) (overrideEnvVar relativePath : StdString)
    (manifestFiles : List StdString) : Except Fault (Bool × List StdString) := do
  let props : LoaderProperty := ⟨process.platformUtils, overrides⟩
  let overridePath :=
    if overrideEnvVar ≠ [] ∧ process.permitsOverride then props.getSecure overrideEnvVar else []
  let locations :=
    if overridePath ≠ [] then [(overridePath, [])] else searchLocations cfg props relativePath
  let searchPath ← copyAllPaths locations []
  let files ← addFilesInPath .posix fs searchPath true manifestFiles
  return (overridePath ≠ [], files)

/-! ## The active runtime -/

def getXDGEnvHome (props : LoaderProperty) (name fallbackPath : StdString) : StdString :=
  let result := props.getSecure name
  if result ≠ [] then result
  else
    let home := props.getSecure "HOME".toList
    if home = [] then [] else home ++ "/".toList ++ fallbackPath

def getXDGEnvAbsolute (props : LoaderProperty) (name fallbackPaths : StdString) : StdString :=
  let result := props.getSecure name
  if result ≠ [] then result else fallbackPaths

def findEitherActiveRuntimeFilename (cfg : SearchConfiguration) (fs : DirectoryTree)
    (rtDirPrefix : StdString) : Except Fault (Option StdString) := do
  let decoratedPath :=
    rtDirPrefix ++ majorVersion ++ "/active_runtime.".toList ++ cfg.archAbi ++ ".json".toList
  if ← fs.fileSysUtilsPathExists decoratedPath then return some decoratedPath
  let undecoratedPath := rtDirPrefix ++ majorVersion ++ "/active_runtime.json".toList
  if ← fs.fileSysUtilsPathExists undecoratedPath then return some undecoratedPath
  return none

/-- The first of the directories in which there is an active runtime. -/
def findInDirectories (cfg : SearchConfiguration) (fs : DirectoryTree) (relativeDir : StdString) :
    List StdString → Except Fault (Option StdString)
  | [] => return none
  | dir :: dirs => do
    match ← findEitherActiveRuntimeFilename cfg fs (dir ++ "/".toList ++ relativeDir) with
    | some filename => return some filename
    | none => findInDirectories cfg fs relativeDir dirs

/-- The directories of `FindXDGConfigFile`, by precedence. -/
def xdgConfigDirectories (cfg : SearchConfiguration) (props : LoaderProperty) : List StdString :=
  let home := getXDGEnvHome props "XDG_CONFIG_HOME".toList ".config".toList
  let dirs := getXDGEnvAbsolute props "XDG_CONFIG_DIRS".toList cfg.fallbackConfigDirs
  (if home = [] then [] else [home]) ++ components PathSyntax.posix.separator dirs ++
    [cfg.sysconfdir] ++ cfg.extraSysconfdir.toList

def findXDGConfigFile (cfg : SearchConfiguration) (fs : DirectoryTree) (props : LoaderProperty)
    (relativeDir : StdString) : Except Fault (Option StdString) :=
  findInDirectories cfg fs relativeDir (xdgConfigDirectories cfg props)

namespace RuntimeManifestFile

/-- The file that `FindManifestFiles` selects. -/
def findFilename (cfg : SearchConfiguration) (fs : DirectoryTree) (process : Process)
    (overrides : UnorderedMap StdString StdString) : Except Fault (Option StdString) :=
  let props : LoaderProperty := ⟨process.platformUtils, overrides⟩
  let filename := props.getSecure "XR_RUNTIME_JSON".toList
  if filename ≠ [] then return some filename
  else findXDGConfigFile cfg fs props "openxr/".toList

/-- `FindManifestFiles`; `files` is the file system as the manifest's reader sees it. -/
def findManifestFiles (cfg : SearchConfiguration) (fs : DirectoryTree) (files : FileSystem)
    (process : Process) (overrides : UnorderedMap StdString StdString) :
    Except Fault (XrResult × List RuntimeManifestFile) := do
  match ← findFilename cfg fs process overrides with
  | none => return (xrErrorRuntimeUnavailable, [])
  | some filename => return (xrSuccess, ← createFromFile files filename [])

end RuntimeManifestFile

namespace ApiLayerManifestFile

/-- The relative path and the override variable of a type of layers. -/
def searchParameters : ManifestFileType → Option (StdString × StdString)
  | .implicitApiLayer =>
    some ("openxr/".toList ++ majorVersion ++ "/api_layers/implicit.d".toList, [])
  | .explicitApiLayer =>
    some ("openxr/".toList ++ majorVersion ++ "/api_layers/explicit.d".toList,
      "XR_API_LAYER_PATH".toList)
  | _ => none

def findManifestFiles (cfg : SearchConfiguration) (fs : DirectoryTree) (files : FileSystem)
    (process : Process) (overrides : UnorderedMap StdString StdString) (type : ManifestFileType)
    (manifestFiles : List ApiLayerManifestFile) :
    Except Fault (XrResult × List ApiLayerManifestFile) := do
  match searchParameters type with
  | none => return (xrErrorFileAccessError, manifestFiles)
  | some (relativePath, overrideEnvVar) =>
    let (_, filenames) ←
      readDataFilesInSearchPaths cfg fs process overrides overrideEnvVar relativePath []
    let found ← createFromFiles files ⟨process.platformUtils, overrides⟩ type filenames manifestFiles
    return (xrSuccess, found)

end ApiLayerManifestFile
end OpenXRSdk
