import OpenXRSdk.DirectorySearch
import OpenXRSdk.ManifestSearch

/-!
# Secure execution

A process that runs with the rights of another user finds the same manifest files whatever
its environment holds: the searches read it through `getSecure` alone, and the variable that
overrides the path of explicit layers is not read at all.
-/
namespace OpenXRSdk

/-- `secure_getenv` yields nothing, and the process has the rights of another user or group. -/
structure Process.Secure (process : Process) : Prop where
  getenv_none : ∀ name, process.secureGetenv name = none
  other : process.euid ≠ process.uid ∨ process.egid ≠ process.gid

theorem Process.Secure.not_permitsOverride {process : Process} (h : process.Secure) :
    process.permitsOverride = false := by
  rcases h.other with h | h <;> simp [Process.permitsOverride, h]

/-- Only the overrides count. -/
theorem Process.Secure.getSecure {process : Process} (h : process.Secure)
    (overrides : UnorderedMap StdString StdString) (name : StdString) :
    LoaderProperty.getSecure ⟨process.platformUtils, overrides⟩ name =
      (overrides.lookup name).getD [] := by
  simp [LoaderProperty.getSecure, Process.platformUtils, h.getenv_none]

section Reading

variable {props props' : LoaderProperty} (h : ∀ name, props.getSecure name = props'.getSecure name)
include h

theorem searchLocations_congr (cfg : SearchConfiguration) (relativePath : StdString) :
    searchLocations cfg props relativePath = searchLocations cfg props' relativePath := by
  simp only [searchLocations, h]

theorem xdgConfigDirectories_congr (cfg : SearchConfiguration) :
    xdgConfigDirectories cfg props = xdgConfigDirectories cfg props' := by
  simp only [xdgConfigDirectories, getXDGEnvHome, getXDGEnvAbsolute, h]

theorem findXDGConfigFile_congr (cfg : SearchConfiguration) (fs : DirectoryTree)
    (relativeDir : StdString) :
    findXDGConfigFile cfg fs props relativeDir = findXDGConfigFile cfg fs props' relativeDir := by
  rw [findXDGConfigFile, xdgConfigDirectories_congr h, findXDGConfigFile]

end Reading

section TwoRuns

variable {p q : Process} (hp : p.Secure) (hq : q.Secure)
include hp hq

theorem getSecure_congr (overrides : UnorderedMap StdString StdString) (name : StdString) :
    LoaderProperty.getSecure ⟨p.platformUtils, overrides⟩ name =
      LoaderProperty.getSecure ⟨q.platformUtils, overrides⟩ name := by
  rw [hp.getSecure, hq.getSecure]

theorem findFilename_congr (cfg : SearchConfiguration) (fs : DirectoryTree)
    (overrides : UnorderedMap StdString StdString) :
    RuntimeManifestFile.findFilename cfg fs p overrides =
      RuntimeManifestFile.findFilename cfg fs q overrides := by
  have hprops := getSecure_congr hp hq overrides
  simp only [RuntimeManifestFile.findFilename, hprops, findXDGConfigFile_congr hprops]

/-- They come by the same runtime. -/
theorem findManifestFiles_congr (cfg : SearchConfiguration) (fs : DirectoryTree)
    (files : FileSystem) (overrides : UnorderedMap StdString StdString) :
    RuntimeManifestFile.findManifestFiles cfg fs files p overrides =
      RuntimeManifestFile.findManifestFiles cfg fs files q overrides := by
  rw [RuntimeManifestFile.findManifestFiles, findFilename_congr hp hq,
    RuntimeManifestFile.findManifestFiles]

theorem readDataFilesInSearchPaths_congr (cfg : SearchConfiguration) (fs : DirectoryTree)
    (overrides : UnorderedMap StdString StdString) (overrideEnvVar relativePath : StdString)
    (manifestFiles : List StdString) :
    readDataFilesInSearchPaths cfg fs p overrides overrideEnvVar relativePath manifestFiles =
      readDataFilesInSearchPaths cfg fs q overrides overrideEnvVar relativePath manifestFiles := by
  have hlocations := searchLocations_congr (getSecure_congr hp hq overrides) cfg relativePath
  simp only [readDataFilesInSearchPaths, hp.not_permitsOverride, hq.not_permitsOverride,
    Bool.false_eq_true, and_false, if_false, hlocations]

/-- Two processes under secure execution select the same runtime manifest and find the same
data files, for implicit and for explicit layers, whatever their environments. -/
theorem secureExecution_ignores_environment (cfg : SearchConfiguration) (fs : DirectoryTree)
    (overrides : UnorderedMap StdString StdString) :
    RuntimeManifestFile.findFilename cfg fs p overrides =
        RuntimeManifestFile.findFilename cfg fs q overrides ∧
      ∀ overrideEnvVar relativePath manifestFiles,
        readDataFilesInSearchPaths cfg fs p overrides overrideEnvVar relativePath manifestFiles =
          readDataFilesInSearchPaths cfg fs q overrides overrideEnvVar relativePath manifestFiles :=
  ⟨findFilename_congr hp hq cfg fs overrides,
    readDataFilesInSearchPaths_congr hp hq cfg fs overrides⟩

end TwoRuns

/-- A program with the rights of root that a user started with this environment. -/
def setuidProcess (getenv : StdString → Option StdString) : Process where
  getenv := getenv
  secureGetenv _ := none
  uid := 1000
  euid := 0
  gid := 1000
  egid := 1000

theorem setuidProcess_secure (getenv : StdString → Option StdString) :
    (setuidProcess getenv).Secure where
  getenv_none _ := rfl
  other := Or.inl (show 0 ≠ 1000 by decide)

theorem secureExecution_ignores_environment_setuid :
    let pointing := setuidProcess fun _ => some "/tmp/x.json".toList
    RuntimeManifestFile.findFilename .default fileBesideDirectory pointing ∅ =
        RuntimeManifestFile.findFilename .default fileBesideDirectory (setuidProcess fun _ => none) ∅ ∧
      readDataFilesInSearchPaths .default fileBesideDirectory pointing ∅
          "XR_API_LAYER_PATH".toList "openxr/1/api_layers/explicit.d".toList [] =
        readDataFilesInSearchPaths .default fileBesideDirectory (setuidProcess fun _ => none) ∅
          "XR_API_LAYER_PATH".toList "openxr/1/api_layers/explicit.d".toList [] := by
  have h := secureExecution_ignores_environment
    (setuidProcess_secure fun _ => some "/tmp/x.json".toList) (setuidProcess_secure fun _ => none)
    .default fileBesideDirectory ∅
  exact ⟨h.1, h.2 _ _ _⟩

end OpenXRSdk
