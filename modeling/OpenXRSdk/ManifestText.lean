import OpenXRSdk.JsonExceptions
import OpenXRSdk.ManifestSafety

/-!
# Manifests from the bytes of their files

What becomes of a manifest file, whatever bytes are in it: the loader hands them to the JSON
reader, and a root that is no object, or a document that is none, is as good as no file. So read,
the files are those of a file system that tells their roots.
-/
namespace OpenXRSdk

open Json

namespace Json

/-- `Json::parseFromStream`, with the features of a new `CharReaderBuilder`, into a null root. -/
def parseFromStream (readDouble : StdString → Option ℚ) (document : Location) :
    Except Fault ((Bool × Value) × List ErrorInfo) :=
  parse .setDefaults readDouble document .null

namespace Value

def isObject : Value → Bool
  | object _ => true
  | _ => false

end Value
end Json

/-- What is done with the bytes of a manifest file of either kind. -/
def readRootNode {α : Type} (readDouble : StdString → Option ℚ) (document : Location)
    (manifestFiles : List α) (createIfValid : Value → Except Fault (List α)) :
    Except Fault (List α) := do
  let read ← parseFromStream readDouble document
  if !read.1.1 || !read.1.2.isObject then return manifestFiles
  createIfValid read.1.2

abbrev FileContents := StdString → Option StdString

namespace RuntimeManifestFile

/-- `CreateIfValid(filename, manifest_files)`, from the bytes of the file. -/
def createFromText (fs : FileSystem) (readDouble : StdString → Option ℚ) (contents : FileContents)
    (filename : StdString) (manifestFiles : List RuntimeManifestFile) :
    Except Fault (List RuntimeManifestFile) :=
  match contents filename with
  | none => .ok manifestFiles
  | some document => readRootNode readDouble document manifestFiles fun rootNode =>
      createIfValid fs rootNode filename manifestFiles

end RuntimeManifestFile

namespace ApiLayerManifestFile

/-- `CreateIfValid(type, filename, manifest_files)`, from the bytes of the file. -/
def createFromText (fs : FileSystem) (props : LoaderProperty) (readDouble : StdString → Option ℚ)
    (contents : FileContents) (type : ManifestFileType) (filename : StdString)
    (manifestFiles : List ApiLayerManifestFile) : Except Fault (List ApiLayerManifestFile) :=
  match contents filename with
  | none => .ok manifestFiles
  | some document => readRootNode readDouble document manifestFiles fun rootNode =>
      createIfValid fs props (locateLibraryRelativeToJson fs) type rootNode filename manifestFiles

/-- The loop of `FindManifestFiles` over the files found. -/
def createFromTexts (fs : FileSystem) (props : LoaderProperty) (readDouble : StdString → Option ℚ)
    (contents : FileContents) (type : ManifestFileType) (filenames : List StdString)
    (manifestFiles : List ApiLayerManifestFile) : Except Fault (List ApiLayerManifestFile) :=
  filenames.foldlM (fun files f => createFromText fs props readDouble contents type f files) manifestFiles

end ApiLayerManifestFile

/-! ## Documents -/

section Documents
variable {readDouble : StdString → Option ℚ} {document : Location}

def DocumentFails (readDouble : StdString → Option ℚ) (document : Location) (fault : Fault) : Prop :=
  Raises .setDefaults readDouble OurFeatures.setDefaults.stackLimit fault
    (skipBom .setDefaults document)

/-- The document is one of an object with those members. -/
def IsObjectText (readDouble : StdString → Option ℚ) (document : Location)
    (members : List (StdString × Value)) : Prop :=
  Accepts .setDefaults readDouble document (.object members)

theorem parseFromStream_eq_error_iff {fault : Fault} :
    parseFromStream readDouble document = .error fault ↔ DocumentFails readDouble document fault :=
  parse_eq_error_iff .setDefaults readDouble document .null fault

def rootNode (readDouble : StdString → Option ℚ) (document : Location) :
    Except Fault (Option Value) := do
  let read ← parseFromStream readDouble document
  return if read.1.1 then some read.1.2 else none

theorem rootNode_eq_error_iff {fault : Fault} :
    rootNode readDouble document = .error fault ↔ DocumentFails readDouble document fault := by
  rw [← parseFromStream_eq_error_iff]
  unfold rootNode
  cases parseFromStream readDouble document with
  | error fault' =>
    simp only [bind, Except.bind]
    rw [Except.error.injEq, Except.error.injEq]
  | ok read => exact ⟨nofun, nofun⟩

theorem rootNode_eq_object_iff {members : List (StdString × Value)} :
    rootNode readDouble document = .ok (some (.object members)) ↔
      IsObjectText readDouble document members := by
  unfold rootNode
  constructor
  · intro h
    cases hread : parseFromStream readDouble document with
    | error fault =>
      rw [hread] at h
      cases h
    | ok read =>
      obtain ⟨⟨successful, root⟩, errors⟩ := read
      rw [hread] at h
      cases successful with
      | false => cases h
      | true =>
        cases h
        exact (accepts_of_parse hread).2
  · intro h
    rw [parseFromStream, parse_of_accepts h]
    rfl

/-- Only the root of the document matters. -/
theorem readRootNode_eq {α : Type} (manifestFiles : List α)
    (createIfValid : Value → Except Fault (List α)) :
    readRootNode readDouble document manifestFiles createIfValid =
      rootNode readDouble document >>= fun root? =>
        match root? with
        | some (.object members) => createIfValid (.object members)
        | _ => .ok manifestFiles := by
  unfold readRootNode rootNode
  cases parseFromStream readDouble document with
  | error fault => rfl
  | ok read =>
    obtain ⟨⟨successful, root⟩, errors⟩ := read
    cases successful with
    | false => rfl
    | true => cases root <;> rfl

end Documents

/-- The file system whose roots are read from the bytes of the files. -/
def FileSystem.withTexts (fs : FileSystem) (readDouble : StdString → Option ℚ)
    (contents : FileContents) : FileSystem :=
  { fs with
    readJson := fun filename =>
      match contents filename with
      | none => .ok none
      | some document => rootNode readDouble document }

section Texts
variable {fs : FileSystem} {readDouble : StdString → Option ℚ} {contents : FileContents}
  {filename : StdString}

theorem readJson_of_none (h : contents filename = none) :
    (fs.withTexts readDouble contents).readJson filename = .ok none := by
  simp [FileSystem.withTexts, h]

theorem readJson_of_some {document : Location} (h : contents filename = some document) :
    (fs.withTexts readDouble contents).readJson filename = rootNode readDouble document := by
  simp [FileSystem.withTexts, h]

theorem readJson_eq_error_iff {fault : Fault} :
    (fs.withTexts readDouble contents).readJson filename = .error fault ↔
      ∃ document, contents filename = some document ∧ DocumentFails readDouble document fault := by
  cases h : contents filename with
  | none => simp [readJson_of_none h]
  | some document => simp [readJson_of_some h, rootNode_eq_error_iff]

theorem readJson_eq_object_iff {members : List (StdString × Value)} :
    (fs.withTexts readDouble contents).readJson filename = .ok (some (.object members)) ↔
      ∃ document, contents filename = some document ∧ IsObjectText readDouble document members := by
  cases h : contents filename with
  | none => simp [readJson_of_none h]
  | some document => simp [readJson_of_some h, rootNode_eq_object_iff]

end Texts

/-! ## Runtime manifests -/

namespace RuntimeManifestFile
variable {fs : FileSystem} {readDouble : StdString → Option ℚ} {contents : FileContents}
  {filename : StdString}

theorem createFromText_eq_createFromFile (before : List RuntimeManifestFile) :
    createFromText fs readDouble contents filename before =
      createFromFile (fs.withTexts readDouble contents) filename before := by
  unfold createFromText createFromFile
  cases h : contents filename with
  | none =>
    rw [readJson_of_none h]
    rfl
  | some document =>
    rw [readJson_of_some h]
    exact readRootNode_eq before _

/-- The file makes the reader fail, or denotes an object that is not of the expected shape. -/
def TextFails (fs : FileSystem) (readDouble : StdString → Option ℚ) (contents : FileContents)
    (filename : StdString) (fault : Fault) : Prop :=
  ∃ document, contents filename = some document ∧
    (DocumentFails readDouble document fault ∨
      fault = .exception ∧ ∃ members, IsObjectText readDouble document members ∧
        ¬ WellShaped fs (.object members) filename)

theorem createFromText_appends (h : ∀ fault, ¬ TextFails fs readDouble contents filename fault) :
    ∃ new, Appends (createFromText fs readDouble contents filename) new ∧ ∀ m ∈ new,
      ∃ document members, contents filename = some document ∧
        IsObjectText readDouble document members ∧ CompleteFor fs (.object members) filename m := by
  have hfile (before : List RuntimeManifestFile) : createFromText fs readDouble contents filename before =
      createFromFile (fs.withTexts readDouble contents) filename before :=
    createFromText_eq_createFromFile before
  unfold createFromFile at hfile
  cases hread : (fs.withTexts readDouble contents).readJson filename with
  | error fault =>
    obtain ⟨document, hdocument, hfails⟩ := readJson_eq_error_iff.mp hread
    exact absurd ⟨document, hdocument, .inl hfails⟩ (h fault)
  | ok root? =>
    simp only [hread, bind, Except.bind] at hfile
    by_cases hobject : ∃ members, root? = some (.object members)
    · obtain ⟨members, rfl⟩ := hobject
      obtain ⟨document, hdocument, hmembers⟩ := readJson_eq_object_iff.mp hread
      have hshape : WellShaped fs (.object members) filename := by
        by_contra hshape
        exact h .exception ⟨document, hdocument, .inr ⟨rfl, members, hmembers, hshape⟩⟩
      obtain ⟨new, hnew, hcomplete⟩ := createIfValid_appends (Value.accessible_object members) hshape
      exact ⟨new, fun before => (hfile before).trans (hnew before), fun m hm =>
        ⟨document, members, hdocument, hmembers, hcomplete m hm⟩⟩
    · refine ⟨none, appends_none fun before => (hfile before).trans ?_, by simp⟩
      split
      · rename_i members
        exact absurd ⟨members, rfl⟩ hobject
      · rfl

theorem createFromText_of_fails {fault : Fault} (h : TextFails fs readDouble contents filename fault)
    (before : List RuntimeManifestFile) :
    createFromText fs readDouble contents filename before = .error fault := by
  obtain ⟨document, hdocument, hfails | ⟨rfl, members, hmembers, hshape⟩⟩ := h
  · rw [createFromText_eq_createFromFile, createFromFile,
      readJson_eq_error_iff.mpr ⟨document, hdocument, hfails⟩]
    rfl
  · rw [createFromText_eq_createFromFile, createFromFile,
      readJson_eq_object_iff.mpr ⟨document, hdocument, hmembers⟩]
    exact createIfValid_error (Value.accessible_object members) hshape before

end RuntimeManifestFile

/-! ## Layer manifests -/

namespace ApiLayerManifestFile
variable {fs : FileSystem} {props : LoaderProperty} {readDouble : StdString → Option ℚ}
  {contents : FileContents} {type : ManifestFileType} {filename : StdString}

theorem createFromText_eq_createFromFile (before : List ApiLayerManifestFile) :
    createFromText fs props readDouble contents type filename before =
      createFromFile (fs.withTexts readDouble contents) props type filename before := by
  unfold createFromText createFromFile
  cases h : contents filename with
  | none =>
    rw [readJson_of_none h]
    rfl
  | some document =>
    rw [readJson_of_some h]
    exact readRootNode_eq before _

theorem createFromTexts_eq_createFromFiles (filenames : List StdString)
    (before : List ApiLayerManifestFile) :
    createFromTexts fs props readDouble contents type filenames before =
      createFromFiles (fs.withTexts readDouble contents) props type filenames before := by
  unfold createFromTexts createFromFiles
  simp only [createFromText_eq_createFromFile]

/-- The file does not open, or what the reader makes of its bytes is of the expected shape. -/
def TextWellShaped (fs : FileSystem) (props : LoaderProperty) (readDouble : StdString → Option ℚ)
    (contents : FileContents) (type : ManifestFileType) (filename : StdString) : Prop :=
  ∀ document, contents filename = some document →
    (∀ fault, ¬ DocumentFails readDouble document fault) ∧
    ∀ members, IsObjectText readDouble document members →
      WellShaped fs props (locateLibraryRelativeToJson fs) type (.object members) filename

theorem fileWellShaped_iff :
    FileWellShaped (fs.withTexts readDouble contents) props type filename ↔
      TextWellShaped fs props readDouble contents type filename := by
  constructor
  · rintro ⟨read, hread, hshape⟩ document hdocument
    refine ⟨fun fault hfails => ?_, fun members hmembers => hshape members ?_⟩
    · rw [readJson_eq_error_iff.mpr ⟨document, hdocument, hfails⟩] at hread
      cases hread
    · rw [readJson_eq_object_iff.mpr ⟨document, hdocument, hmembers⟩] at hread
      exact (Except.ok.inj hread).symm
  · intro h
    cases hread : (fs.withTexts readDouble contents).readJson filename with
    | error fault =>
      obtain ⟨document, hdocument, hfails⟩ := readJson_eq_error_iff.mp hread
      exact absurd hfails ((h document hdocument).1 fault)
    | ok read =>
      refine ⟨read, hread, ?_⟩
      rintro members rfl
      obtain ⟨document, hdocument, hmembers⟩ := readJson_eq_object_iff.mp hread
      exact (h document hdocument).2 members hmembers

end ApiLayerManifestFile

end OpenXRSdk
