import OpenXRSdk.ApiLayerInterface
import OpenXRSdk.SecureSearch

/-!
# The precedence of overrides

What the loader goes by, for each property that it asks for while it locates and enables
manifests, and where that is not the override that the application has set.
-/
namespace OpenXRSdk

open SeparatedLists StateProgram

/-- What is taken for the value of a property, or for the answer whether it is set. -/
inductive PropertyUse
  | value (name used : StdString)
  | isSet (name : StdString) (used : Bool)
  deriving DecidableEq, Repr

/-- Computations that keep account of the properties they use. -/
abbrev Consulting (α : Type) := EStateM Fault (List PropertyUse) α

namespace Consulting

variable {α β : Type}

/-- What has been used, also when the computation does not come to its end. -/
def uses (x : Consulting α) : List PropertyUse :=
  match x [] with
  | .ok _ used => used
  | .error _ used => used

def value (x : Consulting α) : Except Fault α :=
  match x [] with
  | .ok a _ => .ok a
  | .error fault _ => .error fault

def lift (x : Except Fault α) : Consulting α :=
  match x with
  | .ok a => return a
  | .error fault => throw fault

def useValue (name used : StdString) : Consulting StdString := do
  modify (· ++ [.value name used])
  return used

def getSecure (props : LoaderProperty) (name : StdString) : Consulting StdString :=
  useValue name (props.getSecure name)

def get (props : LoaderProperty) (name : StdString) : Consulting StdString :=
  useValue name (props.get name)

def isSet (props : LoaderProperty) (name : StdString) : Consulting Bool := do
  modify (· ++ [.isSet name (props.isSet name)])
  return props.isSet name

end Consulting

open Consulting

/-! ## The searches, with their accounts -/

/-- What a search depends on beside the properties. -/
structure SearchEnvironment where
  syn : PathSyntax
  cfg : SearchConfiguration
  fs : DirectoryTree
  process : Process
  platform : PlatformUtils
  /-- What `ReadRuntimeDataFilesInRegistry` finds, on Windows. -/
  registryRuntime : Option StdString

/-- Where the loader asks for properties. -/
inductive PropertySite
  | runtime
  | layers (type : ManifestFileType)
  | enabledLayers (separator : Char)
  | implicitLayer (layerRootNode : Json.Value)

namespace SearchEnvironment

/-- The user ids are looked at except on Windows. -/
def permitsOverride (search : SearchEnvironment) : Bool :=
  search.syn = .windows ∨ search.process.permitsOverride

def properties (search : SearchEnvironment) (overrides : UnorderedMap StdString StdString) :
    LoaderProperty := ⟨search.platform, overrides⟩

def overridePath (search : SearchEnvironment) (overrides : UnorderedMap StdString StdString)
    (overrideEnvVar : StdString) : Consulting StdString :=
  if overrideEnvVar = [] then return []
  else useValue overrideEnvVar
    (if search.permitsOverride then (search.properties overrides).getSecure overrideEnvVar else [])

/-- The path lists that are searched, each with the relative path that is appended to it. -/
def locations (search : SearchEnvironment) (overrides : UnorderedMap StdString StdString)
    (overridePath relativePath : StdString) : Consulting (List (StdString × StdString)) :=
  if overridePath ≠ [] then return [(overridePath, [])]
  else if search.syn = .windows then return []
  else do
    let xdgConfDirs ← getSecure (search.properties overrides) "XDG_CONFIG_DIRS".toList
    let xdgDataDirs ← getSecure (search.properties overrides) "XDG_DATA_DIRS".toList
    let xdgDataHome ← getSecure (search.properties overrides) "XDG_DATA_HOME".toList
    let home ← getSecure (search.properties overrides) "HOME".toList
    return [(if xdgConfDirs = [] then search.cfg.fallbackConfigDirs else xdgConfDirs, relativePath),
        (search.cfg.sysconfdir, relativePath)] ++
      search.cfg.extraSysconfdir.toList.map (·, relativePath) ++
      [(if xdgDataDirs = [] then search.cfg.fallbackDataDirs else xdgDataDirs, relativePath)] ++
      if xdgDataHome ≠ [] then [(xdgDataHome, relativePath)]
      else if home ≠ [] then [(home, ".local/share/".toList ++ relativePath)]
      else []

/-- The rest of `ReadDataFilesInSearchPaths`, by the override path. -/
def readLocations (search : SearchEnvironment) (overrides : UnorderedMap StdString StdString)
    (overridePath relativePath : StdString) (manifestFiles : List StdString) :
    Consulting (Bool × List StdString) := do
  let locations ← search.locations overrides overridePath relativePath
  let searchPath ← lift (locations.foldlM (fun path location =>
    (copyIncludedPaths search.syn true location.1 location.2 path).value) [])
  let files ← lift (addFilesInPath search.syn search.fs searchPath true manifestFiles)
  return (overridePath ≠ [], files)

def readDataFiles (search : SearchEnvironment) (overrides : UnorderedMap StdString StdString)
    (overrideEnvVar relativePath : StdString) (manifestFiles : List StdString) :
    Consulting (Bool × List StdString) := do
  let overridePath ← search.overridePath overrides overrideEnvVar
  search.readLocations overrides overridePath relativePath manifestFiles

def getXDGEnvHome (search : SearchEnvironment) (overrides : UnorderedMap StdString StdString)
    (name fallbackPath : StdString) : Consulting StdString := do
  let result ← getSecure (search.properties overrides) name
  if result ≠ [] then return result
  let home ← getSecure (search.properties overrides) "HOME".toList
  if home = [] then return []
  return home ++ "/".toList ++ fallbackPath

def getXDGEnvAbsolute (search : SearchEnvironment) (overrides : UnorderedMap StdString StdString)
    (name fallbackPaths : StdString) : Consulting StdString := do
  let result ← getSecure (search.properties overrides) name
  if result ≠ [] then return result
  return fallbackPaths

def findXDGConfigFile (search : SearchEnvironment) (overrides : UnorderedMap StdString StdString)
    (relativeDir : StdString) : Consulting (Option StdString) := do
  let home ← search.getXDGEnvHome overrides "XDG_CONFIG_HOME".toList ".config".toList
  let found ← lift (findInDirectories search.cfg search.fs relativeDir
    (if home = [] then [] else [home]))
  if found.isSome then return found
  let dirs ← search.getXDGEnvAbsolute overrides "XDG_CONFIG_DIRS".toList search.cfg.fallbackConfigDirs
  lift (findInDirectories search.cfg search.fs relativeDir
    (components PathSyntax.posix.separator dirs ++ [search.cfg.sysconfdir] ++
      search.cfg.extraSysconfdir.toList))

/-- The file that `RuntimeManifestFile::FindManifestFiles` selects. -/
def findFilename (search : SearchEnvironment) (overrides : UnorderedMap StdString StdString) :
    Consulting (Option StdString) := do
  let filename ← getSecure (search.properties overrides) "XR_RUNTIME_JSON".toList
  if filename ≠ [] then return some filename
  if search.syn = .windows then return search.registryRuntime
  search.findXDGConfigFile overrides "openxr/".toList

def environmentApiLayers (search : SearchEnvironment) (overrides : UnorderedMap StdString StdString)
    (separator : Char) : Consulting (List StdString) := do
  let layers ← get (search.properties overrides) "XR_ENABLE_API_LAYERS".toList
  return ApiLayerInterface.splitPathList separator [] layers

def enabledBy (search : SearchEnvironment) (overrides : UnorderedMap StdString StdString)
    (enableEnvNode : Json.Value) : Consulting Bool :=
  match enableEnvNode.string? with
  | some enableVar => isSet (search.properties overrides) enableVar
  | none => return true

def implicitEnabled (search : SearchEnvironment) (overrides : UnorderedMap StdString StdString)
    (layerRootNode : Json.Value) : Consulting (Option Bool) := do
  let disableEnvNode ← lift (layerRootNode.member "disable_environment".toList)
  match disableEnvNode.string? with
  | none => return none
  | some disableVar =>
    let enableEnvNode ← lift (layerRootNode.member "enable_environment".toList)
    let enabled ← search.enabledBy overrides enableEnvNode
    let disabled ← isSet (search.properties overrides) disableVar
    return some (enabled && !disabled)

def usesAt (search : SearchEnvironment) (overrides : UnorderedMap StdString StdString) :
    PropertySite → List PropertyUse
  | .runtime => (search.findFilename overrides).uses
  | .layers type =>
    match ApiLayerManifestFile.searchParameters type with
    | some (relativePath, overrideEnvVar) =>
      (search.readDataFiles overrides overrideEnvVar relativePath []).uses
    | none => []
  | .enabledLayers separator => (search.environmentApiLayers overrides separator).uses
  | .implicitLayer layerRootNode => (search.implicitEnabled overrides layerRootNode).uses

end SearchEnvironment

/-! ## The searches are those of the loader -/

/-- The directories are searched in order. -/
theorem findInDirectories_append (cfg : SearchConfiguration) (fs : DirectoryTree)
    (relativeDir : StdString) (dirs dirs' : List StdString) :
    findInDirectories cfg fs relativeDir (dirs ++ dirs') = (do
      let found ← findInDirectories cfg fs relativeDir dirs
      if found.isSome then return found
      findInDirectories cfg fs relativeDir dirs') := by
  induction dirs with
  | nil => rfl
  | cons dir dirs ih =>
    rw [List.cons_append, findInDirectories, findInDirectories, ih]
    cases findEitherActiveRuntimeFilename cfg fs (dir ++ "/".toList ++ relativeDir) with
    | error fault => rfl
    | ok found =>
      cases found with
      | none => rfl
      | some filename => rfl

namespace Consulting

variable {α β : Type}

/-- Whatever has been used before, the computation comes to this. -/
def Computes (x : Consulting α) (e : Except Fault α) : Prop :=
  ∀ used, (∃ a used', x used = .ok a used' ∧ e = .ok a) ∨
    ∃ fault used', x used = .error fault used' ∧ e = .error fault

theorem Computes.value {x : Consulting α} {e : Except Fault α} (h : Computes x e) : x.value = e := by
  unfold Consulting.value
  rcases h [] with ⟨a, used', hx, rfl⟩ | ⟨fault, used', hx, rfl⟩
  · rw [hx]
  · rw [hx]

theorem computes_pure (a : α) : Computes (pure a) (.ok a) :=
  fun used => Or.inl ⟨a, used, rfl, rfl⟩

theorem computes_lift (e : Except Fault α) : Computes (lift e) e := by
  intro used
  cases e with
  | ok a => exact Or.inl ⟨a, used, rfl, rfl⟩
  | error fault => exact Or.inr ⟨fault, used, rfl, rfl⟩

theorem computes_useValue (name used : StdString) : Computes (useValue name used) (.ok used) :=
  fun before => Or.inl ⟨used, before ++ [.value name used], rfl, rfl⟩

theorem computes_isSet (props : LoaderProperty) (name : StdString) :
    Computes (isSet props name) (.ok (props.isSet name)) :=
  fun before => Or.inl ⟨_, before ++ [.isSet name (props.isSet name)], rfl, rfl⟩

theorem Computes.bind {x : Consulting α} {f : α → Consulting β} {e : Except Fault α}
    {g : α → Except Fault β} (hx : Computes x e) (hf : ∀ a, Computes (f a) (g a)) :
    Computes (x >>= f) (e >>= g) := by
  intro used
  rcases hx used with ⟨a, used', hrun, rfl⟩ | ⟨fault, used', hrun, rfl⟩
  · rw [bind_of_ok hrun]
    exact hf a used'
  · exact Or.inr ⟨fault, used', bind_eq_error.mpr (Or.inl hrun), rfl⟩

/-- After a beginning that comes to a value, what is done with the value. -/
theorem Computes.andThen {x : Consulting α} {f : α → Consulting β} {a : α} {e : Except Fault β}
    (hx : Computes x (.ok a)) (hf : Computes (f a) e) : Computes (x >>= f) e := by
  intro used
  rcases hx used with ⟨b, used', hrun, hb⟩ | ⟨_, _, -, hb⟩
  · cases hb
    rw [bind_of_ok hrun]
    exact hf used'
  · cases hb

end Consulting

namespace SearchEnvironment

section Linux

variable {search : SearchEnvironment} (hsyn : search.syn = .posix)
  (hplatform : search.platform = search.process.platformUtils)
  (overrides : UnorderedMap StdString StdString)

include hplatform in
theorem properties_eq :
    search.properties overrides = ⟨search.process.platformUtils, overrides⟩ := by
  rw [properties, hplatform]

include hsyn in
theorem permitsOverride_eq : search.permitsOverride = search.process.permitsOverride := by
  simp [permitsOverride, hsyn]

include hsyn hplatform

theorem computes_overridePath (overrideEnvVar : StdString) :
    Computes (search.overridePath overrides overrideEnvVar)
      (.ok (if overrideEnvVar ≠ [] ∧ search.process.permitsOverride then
        LoaderProperty.getSecure ⟨search.process.platformUtils, overrides⟩ overrideEnvVar
        else [])) := by
  rw [overridePath, permitsOverride_eq hsyn, properties_eq hplatform]
  by_cases hvar : overrideEnvVar = []
  · rw [if_pos hvar, if_neg (by simp [hvar])]
    exact computes_pure _
  · rw [if_neg hvar]
    simp only [ne_eq, hvar, not_false_eq_true, true_and]
    exact computes_useValue _ _

theorem computes_locations (overridePath relativePath : StdString) :
    Computes (search.locations overrides overridePath relativePath)
      (.ok (if overridePath ≠ [] then [(overridePath, [])]
        else searchLocations search.cfg ⟨search.process.platformUtils, overrides⟩
          relativePath)) := by
  rw [locations, properties_eq hplatform]
  by_cases hpath : overridePath = []
  · rw [if_neg (not_not.mpr hpath), if_neg (not_not.mpr hpath), if_neg (by simp [hsyn])]
    refine (computes_useValue _ _).andThen ((computes_useValue _ _).andThen ?_)
    exact (computes_useValue _ _).andThen ((computes_useValue _ _).andThen (computes_pure _))
  · rw [if_pos hpath, if_pos hpath]
    exact computes_pure _

/-- On Linux the search for data files is `readDataFilesInSearchPaths`. -/
theorem readDataFiles_value (overrideEnvVar relativePath : StdString)
    (manifestFiles : List StdString) :
    (search.readDataFiles overrides overrideEnvVar relativePath manifestFiles).value =
      readDataFilesInSearchPaths search.cfg search.fs search.process overrides overrideEnvVar
        relativePath manifestFiles := by
  refine Computes.value ?_
  refine (computes_overridePath hsyn hplatform overrides _).andThen ?_
  refine (computes_locations hsyn hplatform overrides _ _).andThen ?_
  rw [hsyn]
  exact (computes_lift _).bind fun _ => (computes_lift _).bind fun _ => computes_pure _

omit hsyn in
theorem computes_getXDGEnvHome (name fallbackPath : StdString) :
    Computes (search.getXDGEnvHome overrides name fallbackPath)
      (.ok (OpenXRSdk.getXDGEnvHome ⟨search.process.platformUtils, overrides⟩ name
        fallbackPath)) := by
  rw [getXDGEnvHome, properties_eq hplatform]
  refine (computes_useValue _ _).andThen ?_
  simp only [OpenXRSdk.getXDGEnvHome]
  by_cases hresult : LoaderProperty.getSecure ⟨search.process.platformUtils, overrides⟩ name = []
  · rw [if_neg (not_not.mpr hresult), if_neg (not_not.mpr hresult)]
    refine (computes_useValue _ _).andThen ?_
    split_ifs
    · exact computes_pure _
    · exact computes_pure _
  · rw [if_pos hresult, if_pos hresult]
    exact computes_pure _

omit hsyn in
theorem computes_getXDGEnvAbsolute (name fallbackPaths : StdString) :
    Computes (search.getXDGEnvAbsolute overrides name fallbackPaths)
      (.ok (OpenXRSdk.getXDGEnvAbsolute ⟨search.process.platformUtils, overrides⟩ name
        fallbackPaths)) := by
  rw [getXDGEnvAbsolute, properties_eq hplatform]
  refine (computes_useValue _ _).andThen ?_
  simp only [OpenXRSdk.getXDGEnvAbsolute]
  split_ifs
  · exact computes_pure _
  · exact computes_pure _

omit hsyn in
theorem findXDGConfigFile_value (relativeDir : StdString) :
    Computes (search.findXDGConfigFile overrides relativeDir)
      (OpenXRSdk.findXDGConfigFile search.cfg search.fs
        ⟨search.process.platformUtils, overrides⟩ relativeDir) := by
  unfold findXDGConfigFile
  refine (computes_getXDGEnvHome hplatform overrides _ _).andThen ?_
  rw [OpenXRSdk.findXDGConfigFile, xdgConfigDirectories, List.append_assoc, List.append_assoc,
    findInDirectories_append]
  refine (computes_lift _).bind fun found => ?_
  cases found with
  | some filename => exact computes_pure _
  | none =>
    refine (computes_getXDGEnvAbsolute hplatform overrides _ _).andThen ?_
    rw [List.append_assoc]
    exact computes_lift _

/-- On Linux the runtime manifest is the one that `findFilename` selects. -/
theorem findFilename_value :
    (search.findFilename overrides).value =
      RuntimeManifestFile.findFilename search.cfg search.fs search.process overrides := by
  refine Computes.value ?_
  rw [findFilename, properties_eq hplatform]
  refine (computes_useValue _ _).andThen ?_
  simp only [RuntimeManifestFile.findFilename, hsyn, reduceCtorEq, if_false]
  split_ifs
  · exact computes_pure _
  · exact findXDGConfigFile_value hplatform overrides _

end Linux

variable (search : SearchEnvironment) (overrides : UnorderedMap StdString StdString)

theorem environmentApiLayers_value {env : Environment} (h : env.platform = search.platform)
    (w : World) :
    (search.environmentApiLayers w.overrides env.pathSeparator).value =
      .ok (ApiLayerInterface.environmentApiLayers env w) := by
  refine Computes.value ((computes_useValue _ _).andThen ?_)
  rw [ApiLayerInterface.environmentApiLayers, ApiLayerInterface.properties, h]
  exact computes_pure _

theorem implicitEnabled_value (layerRootNode : Json.Value) :
    (search.implicitEnabled overrides layerRootNode).value =
      ApiLayerManifestFile.implicitEnabled (search.properties overrides) layerRootNode := by
  refine Computes.value ((computes_lift _).bind fun disableEnvNode => ?_)
  cases disableEnvNode.string? with
  | none => exact computes_pure _
  | some disableVar =>
    refine (computes_lift _).bind fun enableEnvNode => ?_
    cases henable : enableEnvNode.string? with
    | none =>
      rw [enabledBy, henable]
      exact (computes_pure _).andThen ((computes_isSet _ _).andThen (computes_pure _))
    | some enableVar =>
      rw [enabledBy, henable]
      exact (computes_isSet _ _).andThen ((computes_isSet _ _).andThen (computes_pure _))

end SearchEnvironment

/-! ## What respects the overrides -/

/-- A non-empty override of the property is what is used. -/
def PropertyUse.Respects (overrides : UnorderedMap StdString StdString) : PropertyUse → Prop
  | .value name used => ∀ v, overrides.lookup name = some v → v ≠ [] → used = v
  | .isSet name used => ∀ v, overrides.lookup name = some v → v ≠ [] → used = true

/-- The account goes on with uses that are in `P`. -/
def AppendsUses (P : PropertyUse → Prop) (s t : List PropertyUse) : Prop :=
  ∃ uses, t = s ++ uses ∧ ∀ use ∈ uses, P use

instance (P : PropertyUse → Prop) : IsPreorder (List PropertyUse) (AppendsUses P) where
  refl s := ⟨[], (List.append_nil s).symm, by simp⟩
  trans := by
    rintro s _ _ ⟨first, rfl, hfirst⟩ ⟨second, rfl, hsecond⟩
    refine ⟨first ++ second, List.append_assoc .., fun use huse => ?_⟩
    rcases List.mem_append.mp huse with huse | huse
    · exact hfirst use huse
    · exact hsecond use huse

namespace Consulting

variable {α : Type} {P : PropertyUse → Prop}

/-- What the computation uses is in `P`. -/
abbrev Uses (P : PropertyUse → Prop) (x : Consulting α) : Prop :=
  Within (AppendsUses P) (fun _ => True) x

theorem Uses.forall_uses {x : Consulting α} (h : Uses P x) : ∀ use ∈ x.uses, P use := by
  unfold Consulting.uses
  have hrun := h []
  cases hx : x [] with
  | ok a used =>
    simp only [hx] at hrun ⊢
    obtain ⟨uses, rfl, huses⟩ := hrun
    exact huses
  | error fault used =>
    simp only [hx] at hrun ⊢
    obtain ⟨-, uses, rfl, huses⟩ := hrun
    exact huses

theorem uses_lift (e : Except Fault α) : Uses P (lift e) := by
  cases e with
  | ok a => exact Within.pure a
  | error fault => exact Within.throw trivial

theorem uses_useValue {name used : StdString} (h : P (.value name used)) :
    Uses P (useValue name used) :=
  (Within.modify fun s => ⟨[.value name used], rfl, by simpa using h⟩).bind fun _ => Within.pure _

theorem uses_isSet {props : LoaderProperty} {name : StdString}
    (h : P (.isSet name (props.isSet name))) : Uses P (isSet props name) :=
  (Within.modify fun s => ⟨[.isSet name (props.isSet name)], rfl, by simpa using h⟩).bind
    fun _ => Within.pure _

/-- What has been used by the beginning of a computation has been used by the computation. -/
theorem mem_uses_bind {β : Type} {x : Consulting α} {f : α → Consulting β} {use : PropertyUse}
    (h : use ∈ x.uses) (hf : ∀ a, Uses (fun _ => True) (f a)) : use ∈ (x >>= f).uses := by
  unfold Consulting.uses at h ⊢
  cases hx : x [] with
  | ok a used =>
    rw [bind_of_ok hx]
    rw [hx] at h
    have hrun := hf a used
    cases hfa : f a used with
    | ok b used' =>
      simp only [hfa] at hrun ⊢
      obtain ⟨uses, rfl, -⟩ := hrun
      exact List.mem_append_left _ h
    | error fault used' =>
      simp only [hfa] at hrun ⊢
      obtain ⟨-, uses, rfl, -⟩ := hrun
      exact List.mem_append_left _ h
  | error fault used =>
    rw [(bind_eq_error (f := f)).mpr (Or.inl hx)]
    rwa [hx] at h

end Consulting

namespace SearchEnvironment

section Sites

variable (search : SearchEnvironment) {overrides : UnorderedMap StdString StdString}
  {P : PropertyUse → Prop}
  (h : ∀ name, P (.value name ((search.properties overrides).getSecure name)))
include h

theorem uses_locations (overridePath relativePath : StdString) :
    Uses P (search.locations overrides overridePath relativePath) := by
  unfold locations
  refine Within.ite (Within.pure _) (Within.ite (Within.pure _) ?_)
  refine (uses_useValue (h _)).bind fun _ => (uses_useValue (h _)).bind fun _ => ?_
  exact (uses_useValue (h _)).bind fun _ => (uses_useValue (h _)).bind fun _ => Within.pure _

theorem uses_readLocations (overridePath relativePath : StdString)
    (manifestFiles : List StdString) :
    Uses P (search.readLocations overrides overridePath relativePath manifestFiles) := by
  refine (search.uses_locations h _ _).bind fun _ => (uses_lift _).bind fun _ => ?_
  exact (uses_lift _).bind fun _ => Within.pure _

theorem uses_getXDGEnvHome (name fallbackPath : StdString) :
    Uses P (search.getXDGEnvHome overrides name fallbackPath) := by
  unfold getXDGEnvHome
  refine (uses_useValue (h _)).bind fun _ => Within.ite (Within.pure _) ?_
  exact (uses_useValue (h _)).bind fun _ => Within.ite (Within.pure _) (Within.pure _)

theorem uses_getXDGEnvAbsolute (name fallbackPaths : StdString) :
    Uses P (search.getXDGEnvAbsolute overrides name fallbackPaths) := by
  unfold getXDGEnvAbsolute
  exact (uses_useValue (h _)).bind fun _ => Within.ite (Within.pure _) (Within.pure _)

theorem uses_findXDGConfigFile (relativeDir : StdString) :
    Uses P (search.findXDGConfigFile overrides relativeDir) := by
  unfold findXDGConfigFile
  refine (search.uses_getXDGEnvHome h _ _).bind fun _ => (uses_lift _).bind fun _ => ?_
  refine Within.ite (Within.pure _) ?_
  exact (search.uses_getXDGEnvAbsolute h _ _).bind fun _ => uses_lift _

theorem uses_findFilename : Uses P (search.findFilename overrides) := by
  unfold findFilename
  refine (uses_useValue (h _)).bind fun _ => Within.ite (Within.pure _) ?_
  exact Within.ite (Within.pure _) (search.uses_findXDGConfigFile h _)

end Sites

section Precedence

variable (search : SearchEnvironment) (overrides : UnorderedMap StdString StdString)

theorem getSecure_respects (name : StdString) :
    (PropertyUse.value name ((search.properties overrides).getSecure name)).Respects overrides := by
  intro v hv _
  simp [LoaderProperty.getSecure, properties, hv]

theorem get_respects (name : StdString) :
    (PropertyUse.value name ((search.properties overrides).get name)).Respects overrides := by
  intro v hv _
  simp [LoaderProperty.get, properties, hv]

theorem isSet_respects (name : StdString) :
    (PropertyUse.isSet name ((search.properties overrides).isSet name)).Respects overrides := by
  intro v hv _
  simp [LoaderProperty.isSet, properties, hv]

theorem uses_environmentApiLayers (separator : Char) :
    Uses (PropertyUse.Respects overrides) (search.environmentApiLayers overrides separator) :=
  (uses_useValue (search.get_respects overrides _)).bind fun _ => Within.pure _

theorem uses_implicitEnabled (layerRootNode : Json.Value) :
    Uses (PropertyUse.Respects overrides) (search.implicitEnabled overrides layerRootNode) := by
  have hset := search.isSet_respects overrides
  refine (uses_lift _).bind fun disableEnvNode => ?_
  cases disableEnvNode.string? with
  | none => exact Within.pure _
  | some disableVar =>
    refine (uses_lift _).bind fun enableEnvNode => Within.bind ?_ fun _ =>
      (uses_isSet (hset _)).bind fun _ => Within.pure _
    unfold enabledBy
    cases enableEnvNode.string? with
    | none => exact Within.pure _
    | some enableVar => exact uses_isSet (hset enableVar)

/-- The variable that overrides the search path of a type of layers respects the overrides
where the process may use it, and where there is nothing to respect. -/
theorem uses_readDataFiles {overrideEnvVar : StdString}
    (h : overrideEnvVar ≠ [] → search.permitsOverride ∨
      ∀ v, overrides.lookup overrideEnvVar = some v → v = [])
    (relativePath : StdString) (manifestFiles : List StdString) :
    Uses (PropertyUse.Respects overrides)
      (search.readDataFiles overrides overrideEnvVar relativePath manifestFiles) := by
  refine Within.bind ?_ fun _ =>
    search.uses_readLocations (search.getSecure_respects overrides) _ _ _
  unfold overridePath
  by_cases hvar : overrideEnvVar = []
  · rw [if_pos hvar]
    exact Within.pure _
  rw [if_neg hvar]
  refine uses_useValue ?_
  by_cases hpermits : search.permitsOverride
  · rw [if_pos hpermits]
    exact search.getSecure_respects overrides overrideEnvVar
  · intro v hv hne
    exact absurd ((h hvar).resolve_left hpermits v hv) hne

theorem mem_uses_readDataFiles {overrideEnvVar : StdString} (hne : overrideEnvVar ≠ [])
    (h : ¬search.permitsOverride) (relativePath : StdString) (manifestFiles : List StdString) :
    PropertyUse.value overrideEnvVar [] ∈
      (search.readDataFiles overrides overrideEnvVar relativePath manifestFiles).uses := by
  refine mem_uses_bind ?_ fun overridePath =>
    search.uses_readLocations (fun _ => trivial) overridePath relativePath manifestFiles
  rw [SearchEnvironment.overridePath, if_neg hne, if_neg h]
  exact List.mem_singleton.mpr rfl

/-- Every override wins, at every site, unless the process runs with the rights of another
user, is not on Windows, and `XR_API_LAYER_PATH` is among the overrides. -/
theorem overrides_win_iff :
    (∀ site, ∀ use ∈ search.usesAt overrides site, use.Respects overrides) ↔
      search.permitsOverride ∨
        ∀ v, overrides.lookup "XR_API_LAYER_PATH".toList = some v → v = [] := by
  constructor
  · intro h
    by_contra hcontra
    push Not at hcontra
    obtain ⟨hpermits, v, hv, hne⟩ := hcontra
    have hmem := search.mem_uses_readDataFiles overrides
      (show "XR_API_LAYER_PATH".toList ≠ [] by decide) hpermits
      ("openxr/".toList ++ majorVersion ++ "/api_layers/explicit.d".toList) []
    exact hne (h (.layers .explicitApiLayer) _ hmem v hv hne).symm
  · intro h site
    cases site with
    | runtime => exact (search.uses_findFilename (search.getSecure_respects overrides)).forall_uses
    | layers type =>
      cases type with
      | explicitApiLayer =>
        exact (search.uses_readDataFiles overrides (fun _ => h) _ _).forall_uses
      | implicitApiLayer =>
        exact (search.uses_readDataFiles overrides (absurd rfl) _ _).forall_uses
      | undefined => simp [usesAt, ApiLayerManifestFile.searchParameters]
      | runtime => simp [usesAt, ApiLayerManifestFile.searchParameters]
    | enabledLayers separator =>
      exact (search.uses_environmentApiLayers overrides separator).forall_uses
    | implicitLayer layerRootNode =>
      exact (search.uses_implicitEnabled overrides layerRootNode).forall_uses

end Precedence

end SearchEnvironment

def setuidSearch : SearchEnvironment where
  syn := .posix
  cfg := .default
  fs := fileBesideDirectory
  process := setuidProcess fun _ => none
  platform := (setuidProcess fun _ => none).platformUtils
  registryRuntime := none

theorem setuidSearch_override_loses :
    let overrides := LoaderProperty.setOverride ∅ "XR_API_LAYER_PATH".toList "/opt/layers".toList
    PropertyUse.value "XR_API_LAYER_PATH".toList [] ∈
        setuidSearch.usesAt overrides (.layers .explicitApiLayer) ∧
      ¬∀ site, ∀ use ∈ setuidSearch.usesAt overrides site, use.Respects overrides := by
  intro overrides
  have hmem := setuidSearch.mem_uses_readDataFiles overrides
    (show "XR_API_LAYER_PATH".toList ≠ [] by decide) (by decide)
    ("openxr/".toList ++ majorVersion ++ "/api_layers/explicit.d".toList) []
  refine ⟨hmem, fun h => ?_⟩
  have hused := h (.layers .explicitApiLayer) _ hmem "/opt/layers".toList (by decide) (by decide)
  exact absurd hused (by decide)
end OpenXRSdk
