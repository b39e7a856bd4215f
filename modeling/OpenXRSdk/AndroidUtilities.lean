import OpenXRSdk.ManifestSafety

/-!
# The virtual runtime manifest of Android

The runtime brokers answer queries with rows, from which the loader builds the JSON of a
runtime manifest that no file holds. The functions are written at the root of that JSON
and read back below its `runtime` member.
-/
namespace OpenXRSdk.AndroidUtilities

open Json

structure RuntimeRecord where
  packageName : StdString
  nativeLibDir : StdString
  soFilename : StdString
  hasFunctions : Bool
  deriving DecidableEq

namespace RuntimeRecord

def libPath (r : RuntimeRecord) : StdString := r.nativeLibDir ++ '/' :: r.soFilename

end RuntimeRecord

/-- The installable and the system broker, and the dynamic linker. A query yields no cursor
when it raises an exception or returns a null one. -/
structure Context where
  queryActiveRuntime : (systemBroker : Bool) → Option (List RuntimeRecord)
  queryFunctions : (systemBroker : Bool) → (packageName : StdString) → Option (List (StdString × StdString))
  dlopens : StdString → Bool

def makeMinimumVirtualRuntimeManifest (libraryPath : StdString) : Value :=
  .object [("file_format_version".toList, .string "1.0.0".toList),
    ("instance_extensions".toList, .array []),
    ("functions".toList, .object []),
    ("runtime".toList, .object [("library_path".toList, .string libraryPath)])]

/-- `getCursor`: a cursor without rows counts as none. -/
def getCursor {α : Type} (query : Option (List α)) : Option (List α) :=
  query.filter fun rows => !rows.isEmpty

/-- `manifest["functions"][name] = symbol`. -/
def populateFunction (manifest : Value) (row : StdString × StdString) : Except Fault Value :=
  manifest.modifyMember "functions".toList fun functions => functions.assign row.1 (.string row.2)

/-- `none` stands for the result -1. -/
def populateRuntimeFunctions (context : Context) (systemBroker : Bool) (packageName : StdString)
    (manifest : Value) : Except Fault (Option Value) :=
  match getCursor (context.queryFunctions systemBroker packageName) with
  | none => .ok none
  | some rows => do return some (← rows.foldlM populateFunction manifest)

def getActiveRuntimeCursor (context : Context) (systemBroker : Bool) : Option (List RuntimeRecord) :=
  getCursor (context.queryActiveRuntime systemBroker)

/-- The manifest that one record yields, or `none` to check for more records. -/
def recordManifest (context : Context) (systemBroker : Bool) (r : RuntimeRecord) :
    Except Fault (Option Value) :=
  if context.dlopens r.libPath then
    let manifest := makeMinimumVirtualRuntimeManifest r.libPath
    if r.hasFunctions then populateRuntimeFunctions context systemBroker r.packageName manifest
    else .ok (some manifest)
  else .ok none

def firstManifest (context : Context) (systemBroker : Bool) : List RuntimeRecord → Except Fault (Option Value)
  | [] => .ok none
  | r :: rs => do
    match ← recordManifest context systemBroker r with
    | some manifest => return some manifest
    | none => firstManifest context systemBroker rs

/-- The broker that has a cursor, and the rows of it; the system broker is the fallback. -/
def activeRuntimeCursor (context : Context) : Option (Bool × List RuntimeRecord) :=
  match getActiveRuntimeCursor context false with
  | some rows => some (false, rows)
  | none => (getActiveRuntimeCursor context true).map fun rows => (true, rows)

def getActiveRuntimeVirtualManifest (context : Context) : Except Fault (Option Value) :=
  match activeRuntimeCursor context with
  | none => .ok none
  | some (systemBroker, rows) => firstManifest context systemBroker rows

/-! ## Which record the manifest comes from -/

/-- The record is the first in the cursor that yields a manifest, and it yields `manifest`. -/
def Selected (context : Context) (systemBroker : Bool) (r : RuntimeRecord) (manifest : Value) : Prop :=
  ∃ before after, activeRuntimeCursor context = some (systemBroker, before ++ r :: after) ∧
    (∀ s ∈ before, recordManifest context systemBroker s = .ok none) ∧
      recordManifest context systemBroker r = .ok (some manifest)

theorem firstManifest_append {context : Context} {systemBroker : Bool} {before : List RuntimeRecord}
    (h : ∀ s ∈ before, recordManifest context systemBroker s = .ok none) (rest : List RuntimeRecord) :
    firstManifest context systemBroker (before ++ rest) = firstManifest context systemBroker rest := by
  induction before with
  | nil => rfl
  | cons s before ih =>
    rw [List.cons_append, firstManifest, h s (by simp)]
    exact ih fun s hs => h s (by simp [hs])

theorem firstManifest_eq_some {context : Context} {systemBroker : Bool} {rows : List RuntimeRecord}
    {manifest : Value} (h : firstManifest context systemBroker rows = .ok (some manifest)) :
    ∃ before r after, rows = before ++ r :: after ∧
      (∀ s ∈ before, recordManifest context systemBroker s = .ok none) ∧
        recordManifest context systemBroker r = .ok (some manifest) := by
  induction rows with
  | nil => simp [firstManifest] at h
  | cons r rows ih =>
    rw [firstManifest] at h
    cases hr : recordManifest context systemBroker r with
    | error e => simp [hr, bind, Except.bind] at h
    | ok answer =>
      cases answer with
      | some m =>
        have hm : m = manifest := by simpa [hr, bind, Except.bind, pure, Except.pure] using h
        exact ⟨[], r, rows, rfl, by simp, by rw [hr, hm]⟩
      | none =>
        obtain ⟨before, s, after, hrows, hbefore, hs⟩ := ih (by simpa [hr, bind, Except.bind] using h)
        refine ⟨r :: before, s, after, by rw [hrows]; rfl, ?_, hs⟩
        exact List.forall_mem_cons.mpr ⟨hr, hbefore⟩

theorem getActiveRuntimeVirtualManifest_eq_some (context : Context) (manifest : Value) :
    getActiveRuntimeVirtualManifest context = .ok (some manifest) ↔
      ∃ systemBroker r, Selected context systemBroker r manifest := by
  unfold getActiveRuntimeVirtualManifest Selected
  constructor
  · intro h
    cases hc : activeRuntimeCursor context with
    | none => simp [hc] at h
    | some cursor =>
      obtain ⟨systemBroker, rows⟩ := cursor
      rw [hc] at h
      obtain ⟨before, r, after, rfl, hbefore, hr⟩ := firstManifest_eq_some h
      exact ⟨systemBroker, r, before, after, rfl, hbefore, hr⟩
  · rintro ⟨systemBroker, r, before, after, hc, hbefore, hr⟩
    rw [hc]
    simp only [firstManifest_append hbefore, firstManifest, hr]
    rfl

/-! ## What a runtime manifest file makes of it -/

/-- The symbol of the last row for the function, or the function's own name. -/
def lastSymbol (rows : List (StdString × StdString)) (funcName : StdString) : StdString :=
  ((rows.reverse.find? (·.1 = funcName)).map (·.2)).getD funcName

/-- An object with the version and the runtime node of a virtual manifest. -/
structure Virtual (libraryPath : StdString) (members : List (StdString × Value)) : Prop where
  version : (Value.object members).lookup "file_format_version".toList = .string "1.0.0".toList
  runtime : (Value.object members).lookup "runtime".toList =
    .object [("library_path".toList, .string libraryPath)]
  functions : ∃ fs, (Value.object members).lookup "functions".toList = .object fs

theorem populateFunction_virtual {libraryPath : StdString} {members : List (StdString × Value)}
    (h : Virtual libraryPath members) (row : StdString × StdString) :
    ∃ members', populateFunction (.object members) row = .ok (.object members') ∧
      Virtual libraryPath members' := by
  obtain ⟨fs, hf⟩ := h.functions
  let fs' := Value.setMember row.1 (.string row.2) fs
  refine ⟨Value.setMember "functions".toList (.object fs') members, ?_, ?_, ?_, fs', ?_⟩
  · change (do return Value.object (Value.setMember "functions".toList
      (← ((Value.object members).lookup "functions".toList).assign row.1 (.string row.2)) members)) = _
    rw [hf]
    rfl
  · rw [Value.lookup_object_setMember, if_neg (by decide)]
    exact h.version
  · rw [Value.lookup_object_setMember, if_neg (by decide)]
    exact h.runtime
  · rw [Value.lookup_object_setMember, if_pos rfl]

theorem populateFunctions_virtual {libraryPath : StdString} (rows : List (StdString × StdString))
    {members : List (StdString × Value)} (h : Virtual libraryPath members) :
    ∃ members', rows.foldlM populateFunction (.object members) = .ok (.object members') ∧
      Virtual libraryPath members' := by
  induction rows generalizing members with
  | nil => exact ⟨members, rfl, h⟩
  | cons row rows ih =>
    obtain ⟨members₁, hrow, h₁⟩ := populateFunction_virtual h row
    obtain ⟨members₂, hrows, h₂⟩ := ih h₁
    refine ⟨members₂, ?_, h₂⟩
    rw [List.foldlM_cons, hrow]
    exact hrows

theorem recordManifest_virtual {context : Context} {systemBroker : Bool} {r : RuntimeRecord}
    {manifest : Value} (h : recordManifest context systemBroker r = .ok (some manifest)) :
    ∃ members, manifest = .object members ∧ Virtual r.libPath members := by
  have hmin : Virtual r.libPath [("file_format_version".toList, .string "1.0.0".toList),
      ("instance_extensions".toList, .array []), ("functions".toList, .object []),
      ("runtime".toList, .object [("library_path".toList, .string r.libPath)])] :=
    ⟨rfl, rfl, [], rfl⟩
  unfold recordManifest at h
  split_ifs at h with hopen hfun
  · unfold populateRuntimeFunctions at h
    cases hc : getCursor (context.queryFunctions systemBroker r.packageName) with
    | none => simp [hc] at h
    | some rows =>
      obtain ⟨members, hrows, hv⟩ := populateFunctions_virtual rows hmin
      rw [hc] at h
      simp only [makeMinimumVirtualRuntimeManifest, hrows, bind, Except.bind, pure, Except.pure,
        Except.ok.injEq, Option.some.injEq] at h
      exact ⟨members, h.symm, hv⟩
  · cases h
    exact ⟨_, rfl, hmin⟩
  · cases h

/-- The reader takes the library path from a virtual manifest, and no function name. -/
theorem createIfValid_virtual {fs : FileSystem} {libraryPath : StdString}
    {members : List (StdString × Value)} (h : Virtual libraryPath members)
    (habs : fs.isAbsolute libraryPath = true) :
    RuntimeManifestFile.createIfValid fs (.object members) [] [] =
      .ok [⟨⟨[], .runtime, libraryPath, [], ∅⟩⟩] := by
  have hacc : (Value.object members).Accessible := Value.accessible_object _
  have hs : ManifestFile.HasSupportedVersion (.object members) :=
    ⟨"1.0.0".toList, by rw [h.version]; rfl, by decide⟩
  have hnode : RuntimeManifestFile.runtimeNode (.object members) =
      .object [("library_path".toList, .string libraryPath)] := h.runtime
  have hloc : RuntimeManifestFile.locateLibrary fs [] libraryPath = .ok (some libraryPath) := by
    unfold RuntimeManifestFile.locateLibrary
    rw [if_neg (by simp [habs])]
    rfl
  rw [RuntimeManifestFile.createIfValid_of_path hacc hs (by rw [hnode]; rfl)
    (by rw [hnode]; trivial) (by rw [hnode]; rfl) hloc, hnode]
  rfl

/-- The rows that the broker has for the functions of a record. -/
def functionRows (context : Context) (systemBroker : Bool) (r : RuntimeRecord) :
    List (StdString × StdString) :=
  if r.hasFunctions then (context.queryFunctions systemBroker r.packageName).getD [] else []

/-- The manifest is read back with the library and the function names of its record. -/
def RoundTrips (fs : FileSystem) (context : Context) (systemBroker : Bool) (r : RuntimeRecord)
    (manifest : Value) : Prop :=
  ∃ m, RuntimeManifestFile.createIfValid fs manifest [] [] = .ok [m] ∧
    m.libraryPath = r.libPath ∧
      ∀ f, m.getFunctionName f = lastSymbol (functionRows context systemBroker r) f

/-- A virtual manifest round-trips exactly when the broker renames no function. -/
theorem virtualManifest_roundTrips_iff (fs : FileSystem) (context : Context) (systemBroker : Bool)
    (r : RuntimeRecord) (manifest : Value) (hsel : Selected context systemBroker r manifest)
    (habs : fs.isAbsolute r.libPath = true) :
    getActiveRuntimeVirtualManifest context = .ok (some manifest) ∧
      (RoundTrips fs context systemBroker r manifest ↔
        ∀ f, lastSymbol (functionRows context systemBroker r) f = f) := by
  refine ⟨(getActiveRuntimeVirtualManifest_eq_some context manifest).mpr ⟨_, _, hsel⟩, ?_⟩
  obtain ⟨-, -, -, -, hrec⟩ := hsel
  obtain ⟨members, rfl, hv⟩ := recordManifest_virtual hrec
  have hread := createIfValid_virtual hv habs
  constructor
  · rintro ⟨m, hm, -, hnames⟩ f
    rw [hread] at hm
    cases hm
    exact (hnames f).symm
  · intro h
    exact ⟨_, hread, rfl, fun f => (h f).symm⟩

def renamingRecord : RuntimeRecord :=
  ⟨"org.example.runtime".toList, "/data/lib".toList, "libruntime.so".toList, true⟩

def renamingContext : Context where
  queryActiveRuntime systemBroker := if systemBroker then none else some [renamingRecord]
  queryFunctions _ _ := some [("xrNegotiateLoaderRuntimeInterface".toList, "negotiate".toList)]
  dlopens _ := true

def renamingManifest : Value :=
  .object [("file_format_version".toList, .string "1.0.0".toList),
    ("instance_extensions".toList, .array []),
    ("functions".toList,
      .object [("xrNegotiateLoaderRuntimeInterface".toList, .string "negotiate".toList)]),
    ("runtime".toList, .object [("library_path".toList, .string renamingRecord.libPath)])]

theorem selected_renamingManifest :
    Selected renamingContext false renamingRecord renamingManifest :=
  ⟨[], [], rfl, by simp, rfl⟩

theorem virtualManifest_roundTrips_iff_renaming :
    getActiveRuntimeVirtualManifest renamingContext = .ok (some renamingManifest) ∧
      (RoundTrips (uniformFileSystem []) renamingContext false renamingRecord renamingManifest ↔
        ∀ f, lastSymbol (functionRows renamingContext false renamingRecord) f = f) :=
  virtualManifest_roundTrips_iff (uniformFileSystem []) renamingContext false renamingRecord
    renamingManifest selected_renamingManifest rfl

theorem renamingManifest_not_roundTrips :
    ¬ RoundTrips (uniformFileSystem []) renamingContext false renamingRecord renamingManifest := by
  rintro ⟨m, hm, -, hnames⟩
  have hread : RuntimeManifestFile.createIfValid (uniformFileSystem []) renamingManifest [] [] =
      .ok [⟨⟨[], .runtime, renamingRecord.libPath, [], ∅⟩⟩] := rfl
  rw [hread] at hm
  cases hm
  have h := hnames "xrNegotiateLoaderRuntimeInterface".toList
  exact absurd h (by decide)

end OpenXRSdk.AndroidUtilities
