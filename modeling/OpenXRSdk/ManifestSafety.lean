import OpenXRSdk.ManifestFile

/-!
# Malformed manifests

When a manifest file is skipped, when it yields a manifest, and when reading it raises an
exception instead. The checks of the reader dominate every member access but two: that of a
member of the `runtime` or `api_layer` value, and that of a member of an element of
`instance_extensions`. Nothing catches what the file system throws when the library is located.
-/
namespace OpenXRSdk

open Json

namespace ManifestFile

/-- The elements that `ParseCommon` hands to `ParseExtension`. -/
def extensionEntries (node : Value) : List Value :=
  match node.lookup "instance_extensions".toList with
  | .array exts => exts
  | _ => []

def listing? (ext : Value) : Option ExtensionListing :=
  match (ext.lookup "name".toList).string?, (ext.lookup "extension_version".toList).uInt?,
      (ext.lookup "extension_version".toList).string? with
  | some name, some version, _ => some ⟨name, version⟩
  | some name, none, some version => some ⟨name, (strtoul version).1 % 2 ^ 32⟩
  | _, _, _ => none

/-- The name that the first usable entry of a `functions` section gives to a function. -/
def renamedTo? (node : Value) (funcName : StdString) : Option StdString :=
  ((node.lookup "functions".toList).entries.find? fun e => e.1 = funcName ∧ e.2.string?.isSome).bind
    (·.2.string?)

/-- Every usable extension and every usable function of the node is in the manifest. -/
structure CompleteFor (node : Value) (manifest : ManifestFile) : Prop where
  instanceExtensions : manifest.instanceExtensions = (extensionEntries node).filterMap listing?
  functionsRenamed : ∀ f, manifest.functionsRenamed.lookup f = renamedTo? node f

def HasSupportedVersion (root : Value) : Prop :=
  ∃ s, (root.lookup "file_format_version".toList).string? = some s ∧ scanFields 3 s = [1, 0, 0]

def ExtensionsAccessible (node : Value) : Prop := ∀ e ∈ extensionEntries node, e.Accessible

theorem isValidJson_of_accessible {root : Value} (h : root.Accessible) :
    ∃ b, isValidJson root = .ok b ∧ (b = true ↔ HasSupportedVersion root) := by
  unfold isValidJson HasSupportedVersion
  rw [Value.member_of_accessible h]
  cases hs : (root.lookup "file_format_version".toList).string? with
  | none =>
    refine ⟨false, ?_, by simp⟩
    simp only [bind, Except.bind, hs]
    rfl
  | some s =>
    refine ⟨decide (scanFields 3 s = [1, 0, 0]), ?_, by simp⟩
    simp only [bind, Except.bind, hs]
    rfl

theorem isValidJson_of_supported {root : Value} (h : root.Accessible) (hs : HasSupportedVersion root) :
    isValidJson root = .ok true := by
  obtain ⟨valid, hvalid, hv⟩ := isValidJson_of_accessible h
  rw [hvalid, hv.mpr hs]

theorem isValidJson_of_not_supported {root : Value} (h : root.Accessible)
    (hs : ¬ HasSupportedVersion root) : isValidJson root = .ok false := by
  obtain ⟨valid, hvalid, hv⟩ := isValidJson_of_accessible h
  cases valid with
  | true => exact absurd (hv.mp rfl) hs
  | false => exact hvalid

theorem parseExtension_of_accessible {ext : Value} (h : ext.Accessible) (es : List ExtensionListing) :
    parseExtension ext es = .ok (es ++ (listing? ext).toList) := by
  unfold parseExtension listing?
  simp only [Value.member_of_accessible h, bind, Except.bind]
  cases (ext.lookup "name".toList).string? with
  | none => simp [pure, Except.pure]
  | some name =>
    cases (ext.lookup "extension_version".toList).uInt? with
    | some version => simp [pure, Except.pure]
    | none =>
      cases (ext.lookup "extension_version".toList).string? <;> simp [pure, Except.pure]

theorem parseExtension_of_not_accessible {ext : Value} (h : ¬ ext.Accessible)
    (es : List ExtensionListing) : parseExtension ext es = .error .exception := by
  simp [parseExtension, Value.member_of_not_accessible h, bind, Except.bind]

private theorem foldlM_parseExtension {exts : List Value} (h : ∀ e ∈ exts, e.Accessible)
    (es : List ExtensionListing) :
    exts.foldlM (fun es ext => parseExtension ext es) es = .ok (es ++ exts.filterMap listing?) := by
  induction exts generalizing es with
  | nil => simp [pure, Except.pure]
  | cons e exts ih =>
    have he := parseExtension_of_accessible (h e (by simp)) es
    have hr := ih (fun e he => h e (by simp [he])) (es ++ (listing? e).toList)
    rw [List.foldlM_cons, he]
    change exts.foldlM (fun es ext => parseExtension ext es) (es ++ (listing? e).toList) = _
    rw [hr]
    cases hl : listing? e <;> simp [hl]

private theorem foldlM_parseExtension_error {exts : List Value} (h : ¬ ∀ e ∈ exts, e.Accessible)
    (es : List ExtensionListing) :
    exts.foldlM (fun es ext => parseExtension ext es) es = .error .exception := by
  induction exts generalizing es with
  | nil => simp at h
  | cons e exts ih =>
    rw [List.foldlM_cons]
    by_cases he : e.Accessible
    · have hr : ¬ ∀ e ∈ exts, e.Accessible := fun hall => h (List.forall_mem_cons.mpr ⟨he, hall⟩)
      rw [parseExtension_of_accessible he]
      exact ih hr _
    · rw [parseExtension_of_not_accessible he]
      rfl

theorem parseExtensions_of_accessible {node : Value} (h : ExtensionsAccessible node) :
    parseExtensions (node.lookup "instance_extensions".toList) [] =
      .ok ((extensionEntries node).filterMap listing?) := by
  unfold ExtensionsAccessible extensionEntries at h
  unfold extensionEntries parseExtensions
  cases hv : node.lookup "instance_extensions".toList with
  | array exts =>
    rw [hv] at h
    exact foldlM_parseExtension h []
  | _ => rfl

theorem parseExtensions_of_not_accessible {node : Value} (h : ¬ ExtensionsAccessible node)
    (es : List ExtensionListing) :
    parseExtensions (node.lookup "instance_extensions".toList) es = .error .exception := by
  unfold ExtensionsAccessible extensionEntries at h
  unfold parseExtensions
  cases hv : node.lookup "instance_extensions".toList with
  | array exts =>
    rw [hv] at h
    exact foldlM_parseExtension_error h es
  | _ =>
    rw [hv] at h
    simp at h

theorem renameFunction_lookup (renamed : UnorderedMap StdString StdString)
    (entry : StdString × Value) (f : StdString) :
    (renameFunction renamed entry).lookup f =
      (renamed.lookup f).or (if entry.1 = f then entry.2.string? else none) := by
  unfold renameFunction
  cases hs : entry.2.string? with
  | none => simp
  | some newName => exact UnorderedMap.lookup_emplace entry.1 newName renamed f

theorem renameFunctions_lookup (entries : List (StdString × Value))
    (renamed : UnorderedMap StdString StdString) (f : StdString) :
    (entries.foldl renameFunction renamed).lookup f =
      (renamed.lookup f).or
        ((entries.find? fun e => e.1 = f ∧ e.2.string?.isSome).bind (·.2.string?)) := by
  induction entries generalizing renamed with
  | nil => simp
  | cons e entries ih =>
    rw [List.foldl_cons, ih, renameFunction_lookup, Option.or_assoc]
    congr 1
    by_cases hf : e.1 = f
    · cases hs : e.2.string? <;> simp [hf, hs]
    · simp [hf]

theorem parseCommon_of_accessible {node : Value} (h : node.Accessible)
    (he : ExtensionsAccessible node) (filename : StdString) (type : ManifestFileType)
    (libraryPath : StdString) :
    ∃ m, parseCommon node ⟨filename, type, libraryPath, [], ∅⟩ = .ok m ∧ CompleteFor node m ∧
      m.filename = filename ∧ m.type = type ∧ m.libraryPath = libraryPath := by
  refine ⟨⟨filename, type, libraryPath, (extensionEntries node).filterMap listing?,
    (node.lookup "functions".toList).entries.foldl renameFunction ∅⟩, ?_, ⟨rfl, fun f => ?_⟩,
    rfl, rfl, rfl⟩
  · unfold parseCommon
    simp only [Value.member_of_accessible h, bind, Except.bind, parseExtensions_of_accessible he]
    rfl
  · rw [renameFunctions_lookup, AList.lookup_empty]
    rfl

theorem parseCommon_of_not_extensionsAccessible {node : Value} (h : node.Accessible)
    (he : ¬ ExtensionsAccessible node) (m : ManifestFile) :
    parseCommon node m = .error .exception := by
  unfold parseCommon
  simp only [Value.member_of_accessible h, bind, Except.bind, parseExtensions_of_not_accessible he]

end ManifestFile

open ManifestFile

/-- Whatever manifests were there before, the call ends and appends `new` to them. -/
def Appends {α : Type} (create : List α → Except Fault (List α)) (new : Option α) : Prop :=
  ∀ before, create before = .ok (before ++ new.toList)

theorem Appends.ok_nil {α : Type} {create : List α → Except Fault (List α)} {new : Option α}
    (h : Appends create new) : create [] = .ok new.toList := h []

theorem appends_none {α : Type} {create : List α → Except Fault (List α)}
    (h : ∀ before, create before = .ok before) : Appends create none :=
  fun before => by rw [h before]; simp

namespace RuntimeManifestFile

def runtimeNode (root : Value) : Value := root.lookup "runtime".toList

structure CompleteFor (fs : FileSystem) (root : Value) (file : StdString)
    (m : RuntimeManifestFile) : Prop where
  supported : HasSupportedVersion root
  filename : m.filename = file
  type : m.type = .runtime
  libraryPath : ∃ p, ((runtimeNode root).lookup "library_path".toList).string? = some p ∧
    locateLibrary fs file p = .ok (some m.libraryPath)
  common : ManifestFile.CompleteFor (runtimeNode root) m.toManifestFile

/-- The manifest file resolves if the library is relative to it. -/
def Resolves (fs : FileSystem) (filename libPath : StdString) : Prop :=
  hasDirectorySymbol libPath ∧ ¬ fs.isAbsolute libPath → (fs.canonical filename).isSome

/-- What the reader takes for granted of a runtime manifest of a supported version. -/
def WellShaped (fs : FileSystem) (root : Value) (filename : StdString) : Prop :=
  HasSupportedVersion root → (runtimeNode root).isNull = false →
    (runtimeNode root).Accessible ∧
      ∀ libPath, ((runtimeNode root).lookup "library_path".toList).string? = some libPath →
        Resolves fs filename libPath ∧ ExtensionsAccessible (runtimeNode root)

theorem locateLibrary_of_resolves {fs : FileSystem} {filename libPath : StdString}
    (h : Resolves fs filename libPath) :
    ∃ path, locateLibrary fs filename libPath = .ok (some path) := by
  unfold locateLibrary
  split_ifs with hrelative
  · obtain ⟨path, hpath⟩ := Option.isSome_iff_exists.mp (h hrelative)
    rw [fileSysUtilsGetCanonicalPath, hpath]
    exact ⟨_, rfl⟩
  · exact ⟨_, rfl⟩

theorem locateLibrary_of_not_resolves {fs : FileSystem} {filename libPath : StdString}
    (h : ¬ Resolves fs filename libPath) :
    locateLibrary fs filename libPath = .error .exception := by
  unfold Resolves at h
  push Not at h
  obtain ⟨hrelative, hpath⟩ := h
  unfold locateLibrary
  rw [if_pos hrelative, fileSysUtilsGetCanonicalPath, Option.not_isSome_iff_eq_none.mp hpath]
  rfl

section Stages
variable {fs : FileSystem} {root : Value} {filename : StdString} {before : List RuntimeManifestFile}

theorem createIfValid_of_not_supported (hr : root.Accessible) (h : ¬ HasSupportedVersion root) :
    createIfValid fs root filename before = .ok before := by
  unfold createIfValid
  rw [isValidJson_of_not_supported hr h]
  rfl

private theorem createIfValid_of_supported (hr : root.Accessible) (hs : HasSupportedVersion root) :
    createIfValid fs root filename before =
      if (runtimeNode root).isNull then .ok before else
        (runtimeNode root).member "library_path".toList >>= fun v =>
          match v.string? with
          | none => .ok before
          | some libPath =>
            locateLibrary fs filename libPath >>= fun path? =>
              match path? with
              | none => .ok before
              | some path => parseCommon (runtimeNode root) ⟨filename, .runtime, path, [], ∅⟩ >>=
                  fun m => .ok (before ++ [⟨m⟩]) := by
  unfold createIfValid
  rw [isValidJson_of_supported hr hs, Value.member_of_accessible hr]
  rfl

theorem createIfValid_of_isNull (hr : root.Accessible) (h : (runtimeNode root).isNull = true) :
    createIfValid fs root filename before = .ok before := by
  by_cases hs : HasSupportedVersion root
  · rw [createIfValid_of_supported hr hs, if_pos h]
  · exact createIfValid_of_not_supported hr hs

theorem createIfValid_of_not_accessible (hr : root.Accessible) (hs : HasSupportedVersion root)
    (h : ¬ (runtimeNode root).Accessible) :
    createIfValid fs root filename before = .error .exception := by
  have hn : ¬ (runtimeNode root).isNull = true := fun hn => h (Value.accessible_of_isNull hn)
  rw [createIfValid_of_supported hr hs, if_neg hn, Value.member_of_not_accessible h]
  rfl

theorem createIfValid_of_no_path (hr : root.Accessible) (h : (runtimeNode root).Accessible)
    (hl : ((runtimeNode root).lookup "library_path".toList).string? = none) :
    createIfValid fs root filename before = .ok before := by
  by_cases hs : HasSupportedVersion root
  · rw [createIfValid_of_supported hr hs, Value.member_of_accessible h]
    simp only [bind, Except.bind, hl, ite_self]
  · exact createIfValid_of_not_supported hr hs

theorem createIfValid_of_not_resolves (hr : root.Accessible) (hs : HasSupportedVersion root)
    (hn : (runtimeNode root).isNull = false) (h : (runtimeNode root).Accessible)
    {libPath : StdString}
    (hl : ((runtimeNode root).lookup "library_path".toList).string? = some libPath)
    (hp : ¬ Resolves fs filename libPath) :
    createIfValid fs root filename before = .error .exception := by
  rw [createIfValid_of_supported hr hs, hn, Value.member_of_accessible h]
  simp only [bind, Except.bind, hl, locateLibrary_of_not_resolves hp]
  rfl

theorem createIfValid_of_path (hr : root.Accessible) (hs : HasSupportedVersion root)
    (hn : (runtimeNode root).isNull = false) (h : (runtimeNode root).Accessible)
    {libPath path : StdString}
    (hl : ((runtimeNode root).lookup "library_path".toList).string? = some libPath)
    (hp : locateLibrary fs filename libPath = .ok (some path)) :
    createIfValid fs root filename before =
      (parseCommon (runtimeNode root) ⟨filename, .runtime, path, [], ∅⟩ >>=
        fun m => .ok (before ++ [⟨m⟩])) := by
  rw [createIfValid_of_supported hr hs, hn, Value.member_of_accessible h]
  simp only [bind, Except.bind, hl, hp]
  rfl

end Stages

theorem createIfValid_appends {fs : FileSystem} {root : Value} {filename : StdString}
    (hr : root.Accessible) (h : WellShaped fs root filename) :
    ∃ new, Appends (createIfValid fs root filename) new ∧
      ∀ m ∈ new, CompleteFor fs root filename m := by
  by_cases hs : HasSupportedVersion root
  · cases hn : (runtimeNode root).isNull with
    | true => exact ⟨none, appends_none fun before => createIfValid_of_isNull hr hn, by simp⟩
    | false =>
      obtain ⟨hacc, hext⟩ := h hs hn
      cases hl : ((runtimeNode root).lookup "library_path".toList).string? with
      | none =>
        exact ⟨none, appends_none fun before => createIfValid_of_no_path hr hacc hl, by simp⟩
      | some libPath =>
        obtain ⟨hresolves, hentries⟩ := hext libPath hl
        obtain ⟨path, hp⟩ := locateLibrary_of_resolves hresolves
        obtain ⟨m, hm, hcomplete, hf, ht, hlib⟩ :=
          parseCommon_of_accessible hacc hentries filename .runtime path
        refine ⟨some ⟨m⟩, fun before => ?_, ?_⟩
        · rw [createIfValid_of_path hr hs hn hacc hl hp, hm]
          rfl
        · intro m' hm'
          cases hm'
          exact ⟨hs, hf, ht, ⟨libPath, hl, by rw [hp, hlib]⟩, hcomplete⟩
  · exact ⟨none, appends_none fun before => createIfValid_of_not_supported hr hs, by simp⟩

theorem createIfValid_error {fs : FileSystem} {root : Value} {filename : StdString}
    (hr : root.Accessible) (h : ¬ WellShaped fs root filename) (before : List RuntimeManifestFile) :
    createIfValid fs root filename before = .error .exception := by
  unfold WellShaped at h
  push Not at h
  obtain ⟨hs, hn, hrest⟩ := h
  by_cases hacc : (runtimeNode root).Accessible
  · obtain ⟨libPath, hl, hext⟩ := hrest hacc
    by_cases hresolves : Resolves fs filename libPath
    · obtain ⟨path, hp⟩ := locateLibrary_of_resolves hresolves
      rw [createIfValid_of_path hr hs hn hacc hl hp,
        parseCommon_of_not_extensionsAccessible hacc (hext hresolves)]
      rfl
    · exact createIfValid_of_not_resolves hr hs hn hacc hl hresolves
  · exact createIfValid_of_not_accessible hr hs hacc

end RuntimeManifestFile

namespace ApiLayerManifestFile

def layerNode (root : Value) : Value := root.lookup "api_layer".toList

/-- The state of a layer, from its disable and its enable variable. -/
def Enabled (props : LoaderProperty) (type : ManifestFileType) (disable enable : Option StdString) :
    Prop :=
  type = .implicitApiLayer →
    (∃ d ∈ disable, props.isSet d = false) ∧ ∀ e ∈ enable, props.isSet e = true

instance (props : LoaderProperty) (type : ManifestFileType) (disable enable : Option StdString) :
    Decidable (Enabled props type disable enable) := by
  unfold Enabled
  infer_instance

def NodeEnabled (props : LoaderProperty) (type : ManifestFileType) (node : Value) : Prop :=
  Enabled props type (node.lookup "disable_environment".toList).string?
    (node.lookup "enable_environment".toList).string?

instance (props : LoaderProperty) (type : ManifestFileType) (node : Value) :
    Decidable (NodeEnabled props type node) :=
  inferInstanceAs (Decidable (Enabled _ _ _ _))

/-- Name, API version, library path and version of a layer that no check of its fields skips. -/
def header? (props : LoaderProperty) (type : ManifestFileType) (node : Value) :
    Option (StdString × JsonVersion × StdString × ℕ) := do
  let name ← (node.lookup "name".toList).string?
  let apiVersion ← (node.lookup "api_version".toList).string?
  let libraryPath ← (node.lookup "library_path".toList).string?
  let implementationVersion ← (node.lookup "implementation_version".toList).string?
  if NodeEnabled props type node then
    return (name, ← parseApiVersion apiVersion, libraryPath,
      ← parseImplementationVersion implementationVersion)
  else none

structure CompleteFor (fs : FileSystem) (props : LoaderProperty) (locate : LibraryLocator)
    (manifestType : ManifestFileType) (root : Value) (file : StdString)
    (m : ApiLayerManifestFile) : Prop where
  supported : HasSupportedVersion root
  filename : m.filename = file
  type : m.type = manifestType
  header : ∃ p, header? props manifestType (layerNode root) =
      some (m.layerName, m.apiVersion, p, m.implementationVersion) ∧
    locateLibrary fs locate file p = .ok (some m.libraryPath)
  description : m.description = ((layerNode root).lookup "description".toList).string?.getD []
  common : ManifestFile.CompleteFor (layerNode root) m.toManifestFile

/-- Whether the library exists can be determined, if that is asked. -/
def Determined (fs : FileSystem) (locate : LibraryLocator) (filename libraryPath : StdString) : Prop :=
  hasDirectorySymbol libraryPath →
    if fs.isAbsolute libraryPath then (fs.exists? libraryPath).isSome
    else ∃ found, locate filename libraryPath = .ok found

def WellShaped (fs : FileSystem) (props : LoaderProperty) (locate : LibraryLocator)
    (type : ManifestFileType) (root : Value) (filename : StdString) : Prop :=
  HasSupportedVersion root → (layerNode root).isNull = false →
    (layerNode root).Accessible ∧
      ∀ name apiVersion libraryPath implementationVersion,
        header? props type (layerNode root) =
          some (name, apiVersion, libraryPath, implementationVersion) →
        Determined fs locate filename libraryPath ∧
          ((∃ path, locateLibrary fs locate filename libraryPath = .ok (some path)) →
            ExtensionsAccessible (layerNode root))

theorem existing_of_isSome {fs : FileSystem} {path : StdString} (h : (fs.exists? path).isSome) :
    ∃ found, existing fs (some path) = .ok found := by
  obtain ⟨exist, hexists⟩ := Option.isSome_iff_exists.mp h
  simp only [existing, fileSysUtilsPathExists, hexists]
  cases exist <;> exact ⟨_, rfl⟩

theorem existing_of_eq_none {fs : FileSystem} {path : StdString} (h : fs.exists? path = none) :
    existing fs (some path) = .error .exception := by
  simp only [existing, fileSysUtilsPathExists, h]
  rfl

theorem locateLibrary_ok_iff {fs : FileSystem} {locate : LibraryLocator}
    {filename libraryPath : StdString} :
    (∃ found, locateLibrary fs locate filename libraryPath = .ok found) ↔
      Determined fs locate filename libraryPath := by
  unfold locateLibrary Determined
  split_ifs with hsymbol habsolute
  · constructor
    · rintro ⟨found, hfound⟩ -
      by_contra hnone
      rw [existing_of_eq_none (Option.not_isSome_iff_eq_none.mp hnone)] at hfound
      cases hfound
    · exact fun h => existing_of_isSome (h hsymbol)
  · exact ⟨fun h _ => h, fun h => h hsymbol⟩
  · exact ⟨fun _ h => absurd h hsymbol, fun _ => ⟨_, rfl⟩⟩
  · exact ⟨fun _ h => absurd h hsymbol, fun _ => ⟨_, rfl⟩⟩

section Stages
variable {fs : FileSystem} {props : LoaderProperty} {locate : LibraryLocator}
  {type : ManifestFileType} {root : Value} {filename : StdString} {before : List ApiLayerManifestFile}

theorem implicitEnabled_of_accessible {node : Value} (h : node.Accessible) :
    ∃ enabled, implicitEnabled props node = .ok enabled ∧
      (enabled = some true ↔ NodeEnabled props .implicitApiLayer node) := by
  unfold implicitEnabled NodeEnabled Enabled
  simp only [Value.member_of_accessible h, bind, Except.bind]
  cases (node.lookup "disable_environment".toList).string? with
  | none => exact ⟨none, rfl, by simp⟩
  | some d =>
    cases (node.lookup "enable_environment".toList).string? with
    | none => exact ⟨some (!props.isSet d), rfl, by simp⟩
    | some e => exact ⟨some (props.isSet e && !props.isSet d), rfl, by simp [and_comm]⟩

theorem isEnabled_of_accessible (props : LoaderProperty) (type : ManifestFileType) {node : Value}
    (h : node.Accessible) :
    ∃ enabled, isEnabled props type node = .ok enabled ∧
      (enabled = some true ↔ NodeEnabled props type node) := by
  cases type with
  | implicitApiLayer => exact implicitEnabled_of_accessible h
  | _ => exact ⟨some true, rfl, by simp [NodeEnabled, Enabled]⟩

theorem createFromNode_of_accessible {node : Value} (h : node.Accessible) :
    createFromNode fs props locate type filename node before =
      match header? props type node with
      | none => .ok before
      | some (name, apiVersion, libraryPath, implementationVersion) =>
        locateLibrary fs locate filename libraryPath >>= fun path? =>
          match path? with
          | none => .ok before
          | some path => parseCommon node ⟨filename, type, path, [], ∅⟩ >>= fun m =>
              .ok (before ++ [⟨m, apiVersion, name,
                (node.lookup "description".toList).string?.getD [], implementationVersion⟩]) := by
  obtain ⟨enabled, he, hen⟩ := isEnabled_of_accessible props type h
  unfold createFromNode header?
  simp only [Value.member_of_accessible h, bind, Except.bind, Option.bind]
  cases (node.lookup "name".toList).string? with
  | none => rfl
  | some name =>
    cases (node.lookup "api_version".toList).string? with
    | none => rfl
    | some apiVersion =>
      cases (node.lookup "library_path".toList).string? with
      | none => rfl
      | some libraryPath =>
        cases (node.lookup "implementation_version".toList).string? with
        | none => rfl
        | some implementationVersion =>
          simp only [he, hen]
          unfold createFromFields
          simp only [Value.member_of_accessible h, bind, Except.bind]
          by_cases hne : NodeEnabled props type node
          · simp only [if_pos hne]
            cases parseApiVersion apiVersion with
            | none => rfl
            | some apiVersion =>
              cases parseImplementationVersion implementationVersion with
              | none => rfl
              | some implementationVersion =>
                simp only [pure]
                cases locateLibrary fs locate filename libraryPath with
                | error fault => rfl
                | ok path? => cases path? <;> rfl
          · simp only [if_neg hne]
            rfl

theorem createIfValid_of_not_supported (hr : root.Accessible) (h : ¬ HasSupportedVersion root) :
    createIfValid fs props locate type root filename before = .ok before := by
  unfold createIfValid
  rw [isValidJson_of_not_supported hr h]
  rfl

private theorem createIfValid_of_supported (hr : root.Accessible) (hs : HasSupportedVersion root) :
    createIfValid fs props locate type root filename before =
      if (layerNode root).isNull then .ok before
      else createFromNode fs props locate type filename (layerNode root) before := by
  unfold createIfValid
  rw [isValidJson_of_supported hr hs, Value.member_of_accessible hr]
  rfl

end Stages

theorem createIfValid_appends {fs : FileSystem} {props : LoaderProperty} {locate : LibraryLocator}
    {type : ManifestFileType} {root : Value} {filename : StdString} (hr : root.Accessible)
    (h : WellShaped fs props locate type root filename) :
    ∃ new, Appends (createIfValid fs props locate type root filename) new ∧
      ∀ m ∈ new, CompleteFor fs props locate type root filename m := by
  by_cases hs : HasSupportedVersion root
  · cases hn : (layerNode root).isNull with
    | true =>
      refine ⟨none, appends_none fun before => ?_, by simp⟩
      rw [createIfValid_of_supported hr hs, if_pos hn]
    | false =>
      obtain ⟨hacc, hext⟩ := h hs hn
      have hc : ∀ before, createIfValid fs props locate type root filename before =
          createFromNode fs props locate type filename (layerNode root) before := by
        intro before
        rw [createIfValid_of_supported hr hs, hn]
        rfl
      cases hh : header? props type (layerNode root) with
      | none =>
        refine ⟨none, appends_none fun before => ?_, by simp⟩
        rw [hc, createFromNode_of_accessible hacc, hh]
      | some fields =>
        obtain ⟨name, apiVersion, libraryPath, implementationVersion⟩ := fields
        obtain ⟨hdetermined, hentries⟩ := hext _ _ _ _ hh
        obtain ⟨path?, hp⟩ := locateLibrary_ok_iff.mpr hdetermined
        cases path? with
        | none =>
          refine ⟨none, appends_none fun before => ?_, by simp⟩
          rw [hc, createFromNode_of_accessible hacc, hh]
          simp only [hp, bind, Except.bind]
        | some path =>
          obtain ⟨m, hm, hcomplete, hf, ht, hlib⟩ :=
            parseCommon_of_accessible hacc (hentries ⟨path, hp⟩) filename type path
          refine ⟨some ⟨m, apiVersion, name,
            ((layerNode root).lookup "description".toList).string?.getD [], implementationVersion⟩,
            fun before => ?_, ?_⟩
          · rw [hc, createFromNode_of_accessible hacc, hh]
            simp only [hp, hm, bind, Except.bind]
            rfl
          · intro m' hm'
            cases hm'
            exact ⟨hs, hf, ht, ⟨libraryPath, hh, by rw [hp, hlib]⟩, rfl, hcomplete⟩
  · exact ⟨none, appends_none fun before => createIfValid_of_not_supported hr hs, by simp⟩

theorem createIfValid_error {fs : FileSystem} {props : LoaderProperty} {locate : LibraryLocator}
    {type : ManifestFileType} {root : Value} {filename : StdString} (hr : root.Accessible)
    (h : ¬ WellShaped fs props locate type root filename) (before : List ApiLayerManifestFile) :
    ∃ fault, createIfValid fs props locate type root filename before = .error fault := by
  unfold WellShaped at h
  push Not at h
  obtain ⟨hs, hn, hrest⟩ := h
  rw [createIfValid_of_supported hr hs, hn]
  change ∃ fault, createFromNode fs props locate type filename (layerNode root) before = _
  by_cases hacc : (layerNode root).Accessible
  · obtain ⟨name, apiVersion, libraryPath, implementationVersion, hh, hext⟩ := hrest hacc
    rw [createFromNode_of_accessible hacc, hh]
    by_cases hdetermined : Determined fs locate filename libraryPath
    · obtain ⟨⟨path, hp⟩, hentries⟩ := hext hdetermined
      simp only [hp, parseCommon_of_not_extensionsAccessible hacc hentries, bind, Except.bind]
      exact ⟨_, rfl⟩
    · cases hp : locateLibrary fs locate filename libraryPath with
      | ok found => exact absurd (locateLibrary_ok_iff.mp ⟨found, hp⟩) hdetermined
      | error fault =>
        simp only [hp, bind, Except.bind]
        exact ⟨fault, rfl⟩
  · unfold createFromNode
    simp only [Value.member_of_not_accessible hacc, bind, Except.bind]
    exact ⟨_, rfl⟩

/-- What a file adds to an empty manifest list. -/
def contribution (fs : FileSystem) (props : LoaderProperty) (type : ManifestFileType)
    (filename : StdString) : List ApiLayerManifestFile :=
  match createFromFile fs props type filename [] with
  | .ok files => files
  | .error _ => []

/-- The file is read without an exception, and holds no JSON object, or one of the expected
shape. -/
def FileWellShaped (fs : FileSystem) (props : LoaderProperty) (type : ManifestFileType)
    (filename : StdString) : Prop :=
  ∃ read, fs.readJson filename = .ok read ∧ ∀ members, read = some (.object members) →
    WellShaped fs props (locateLibraryRelativeToJson fs) type (.object members) filename

section Files
variable {fs : FileSystem} {props : LoaderProperty} {type : ManifestFileType}

theorem createFromFile_appends {filename : StdString}
    (h : FileWellShaped fs props type filename) :
    ∃ new, Appends (createFromFile fs props type filename) new ∧ ∀ m ∈ new, ∃ members,
      fs.readJson filename = .ok (some (.object members)) ∧
        CompleteFor fs props (locateLibraryRelativeToJson fs) type (.object members) filename m := by
  obtain ⟨read, hread, hshape⟩ := h
  unfold createFromFile
  rw [hread]
  by_cases hobject : ∃ members, read = some (.object members)
  · obtain ⟨members, rfl⟩ := hobject
    obtain ⟨new, hnew, hcomplete⟩ :=
      createIfValid_appends (Value.accessible_object members) (hshape members rfl)
    exact ⟨new, hnew, fun m hm => ⟨members, rfl, hcomplete m hm⟩⟩
  · refine ⟨none, appends_none fun _ => ?_, by simp⟩
    simp only [bind, Except.bind]
    split
    · rename_i members
      exact absurd ⟨members, rfl⟩ hobject
    · rfl

/-- A file adds nothing, or the one layer that it describes. -/
theorem contribution_complete {filename : StdString} (h : FileWellShaped fs props type filename) :
    (contribution fs props type filename).length ≤ 1 ∧
      ∀ m ∈ contribution fs props type filename, ∃ members,
        fs.readJson filename = .ok (some (.object members)) ∧
          CompleteFor fs props (locateLibraryRelativeToJson fs) type (.object members) filename m := by
  obtain ⟨new, hnew, hcomplete⟩ := createFromFile_appends h
  unfold contribution
  rw [hnew.ok_nil]
  exact ⟨Option.length_toList_le, fun m hm => hcomplete m (Option.mem_toList.mp hm)⟩

theorem createFromFile_eq {filename : StdString} (h : FileWellShaped fs props type filename)
    (before : List ApiLayerManifestFile) :
    createFromFile fs props type filename before =
      .ok (before ++ contribution fs props type filename) := by
  obtain ⟨new, hnew, -⟩ := createFromFile_appends h
  unfold contribution
  rw [hnew before, hnew.ok_nil]

theorem createFromFile_error {filename : StdString} (h : ¬ FileWellShaped fs props type filename)
    (before : List ApiLayerManifestFile) :
    ∃ fault, createFromFile fs props type filename before = .error fault := by
  unfold FileWellShaped at h
  push Not at h
  unfold createFromFile
  cases hread : fs.readJson filename with
  | error fault => exact ⟨fault, rfl⟩
  | ok read =>
    obtain ⟨members, rfl, hshape⟩ := h read hread
    exact createIfValid_error (Value.accessible_object _) hshape before

theorem createFromFiles_eq {filenames : List StdString}
    (h : ∀ f ∈ filenames, FileWellShaped fs props type f) (before : List ApiLayerManifestFile) :
    createFromFiles fs props type filenames before =
      .ok (before ++ filenames.flatMap (contribution fs props type)) := by
  unfold createFromFiles
  induction filenames generalizing before with
  | nil => simp [pure, Except.pure]
  | cons f filenames ih =>
    rw [List.foldlM_cons, createFromFile_eq (h f (by simp))]
    change filenames.foldlM (fun files f => createFromFile fs props type f files)
      (before ++ contribution fs props type f) = _
    rw [ih fun f hf => h f (by simp [hf])]
    simp

theorem createFromFiles_error {filenames : List StdString}
    (h : ¬ ∀ f ∈ filenames, FileWellShaped fs props type f) (before : List ApiLayerManifestFile) :
    ∃ fault, createFromFiles fs props type filenames before = .error fault := by
  unfold createFromFiles
  induction filenames generalizing before with
  | nil => simp at h
  | cons f filenames ih =>
    rw [List.foldlM_cons]
    by_cases hf : FileWellShaped fs props type f
    · rw [createFromFile_eq hf]
      exact ih (fun hall => h (List.forall_mem_cons.mpr ⟨hf, hall⟩)) _
    · obtain ⟨fault, hfault⟩ := createFromFile_error hf before
      rw [hfault]
      exact ⟨fault, rfl⟩

end Files
end ApiLayerManifestFile

/-- Reading a manifest ends, with nothing or one complete manifest appended, exactly on the
JSON objects of the expected shape whose library can be located, and a list of files is read file
by file exactly when each file is read without an exception and has that shape. -/
theorem createIfValid_safe_iff (fs : FileSystem) (props : LoaderProperty) :
    (∀ members filename,
      (∃ new, Appends (RuntimeManifestFile.createIfValid fs (.object members) filename) new ∧
        ∀ m ∈ new, RuntimeManifestFile.CompleteFor fs (.object members) filename m) ↔
      RuntimeManifestFile.WellShaped fs (.object members) filename) ∧
    (∀ locate type members filename,
      (∃ new, Appends
          (ApiLayerManifestFile.createIfValid fs props locate type (.object members) filename) new ∧
        ∀ m ∈ new,
          ApiLayerManifestFile.CompleteFor fs props locate type (.object members) filename m) ↔
      ApiLayerManifestFile.WellShaped fs props locate type (.object members) filename) ∧
    ∀ type filenames,
      (∀ before, ApiLayerManifestFile.createFromFiles fs props type filenames before =
        .ok (before ++ filenames.flatMap (ApiLayerManifestFile.contribution fs props type))) ↔
      ∀ f ∈ filenames, ApiLayerManifestFile.FileWellShaped fs props type f := by
  refine ⟨fun members filename => ⟨fun h => ?_, RuntimeManifestFile.createIfValid_appends (Value.accessible_object _)⟩,
    fun locate type members filename =>
      ⟨fun h => ?_, ApiLayerManifestFile.createIfValid_appends (Value.accessible_object _)⟩,
    fun type filenames => ⟨fun h => ?_, ApiLayerManifestFile.createFromFiles_eq⟩⟩
  · obtain ⟨new, hnew, -⟩ := h
    by_contra hshape
    have := hnew []
    rw [RuntimeManifestFile.createIfValid_error (Value.accessible_object _) hshape] at this
    cases this
  · obtain ⟨new, hnew, -⟩ := h
    by_contra hshape
    obtain ⟨fault, hfault⟩ :=
      ApiLayerManifestFile.createIfValid_error (Value.accessible_object _) hshape []
    rw [hnew []] at hfault
    cases hfault
  · by_contra hshape
    obtain ⟨fault, hfault⟩ := ApiLayerManifestFile.createFromFiles_error hshape []
    rw [h []] at hfault
    cases hfault

def numberAsRuntime : List (StdString × Value) :=
  [("file_format_version".toList, .string "1.0.0".toList), ("runtime".toList, .int 5)]

def uniformFileSystem (members : List (StdString × Value)) : FileSystem where
  exists? _ := some true
  isAbsolute _ := true
  parentPath p := p
  canonical p := some p
  combine _ child := child
  readJson _ := .ok (some (.object members))

theorem createIfValid_numberAsRuntime :
    ¬ ∃ new, Appends (RuntimeManifestFile.createIfValid (uniformFileSystem numberAsRuntime)
      (.object numberAsRuntime) "openxr.json".toList) new := by
  rintro ⟨new, hnew⟩
  have h : RuntimeManifestFile.createIfValid (uniformFileSystem numberAsRuntime)
      (.object numberAsRuntime) "openxr.json".toList [] = .error .exception := rfl
  have := hnew []
  rw [h] at this
  cases this

end OpenXRSdk
