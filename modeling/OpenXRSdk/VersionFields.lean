import OpenXRSdk.ApiLayerInterface
import OpenXRSdk.DecimalNumbers
import OpenXRSdk.ManifestSafety

/-!
# Version fields

Versions of extensions and of API layers on their way from the manifest to what is reported:
where they are written as strings, they are converted without a look at what does not fit.
-/
namespace OpenXRSdk

open Json

/-! ## Extensions -/

namespace ManifestFile

/-- What jsoncpp reads for the number `n`: an integer, or a double that is exact below `2 ^ 53`. -/
def IsNumber (n : ℕ) : Value → Prop
  | .int i => i = n
  | .uint m => m = n
  | .real q => (n < 2 ^ 53 → q = n) ∧ (2 ^ 53 ≤ n → 2 ^ 53 ≤ q)
  | _ => False

/-- An entry of `instance_extensions`, with any other members. -/
def extensionEntry (members : List (StdString × Value)) (name : StdString) (version : Value) : Value :=
  .object (Value.setMember "extension_version".toList version
    (Value.setMember "name".toList (.string name) members))

/-- The version is read alike in both spellings: it is listed, or the entry is passed over. -/
def SpellingsAgree (members : List (StdString × Value)) (name : StdString) (n : ℕ) (number : Value)
    (digits : StdString) (extensions : List ExtensionListing) : Prop :=
  ∃ added, (added = [⟨name, n⟩] ∨ added = []) ∧
    parseExtension (extensionEntry members name number) extensions = .ok (extensions ++ added) ∧
    parseExtension (extensionEntry members name (.string digits)) extensions =
      .ok (extensions ++ added)

section Spellings
variable {n : ℕ} {number : Value} {digits : StdString}

theorem uInt?_of_isNumber (h : IsNumber n number) :
    number.uInt? = if n < 2 ^ 32 then some n else none := by
  unfold Value.uInt? Value.maxUInt
  cases number with
  | int i =>
    obtain rfl : i = n := h
    simp only [Int.toNat_natCast]
    split_ifs <;> first | rfl | omega
  | uint m =>
    obtain rfl : m = n := h
    dsimp only
    split_ifs <;> first | rfl | omega
  | real q =>
    obtain ⟨hsmall, hlarge⟩ := h
    dsimp only
    by_cases hn : n < 2 ^ 53
    · obtain rfl := hsmall hn
      have hle : (n : ℚ) ≤ ((2 ^ 32 - 1 : ℕ) : ℚ) ↔ n < 2 ^ 32 := by
        rw [Nat.cast_le]
        omega
      by_cases hlt : n < 2 ^ 32
      · rw [if_pos ⟨Nat.cast_nonneg n, hle.mpr hlt, Rat.den_natCast n⟩, if_pos hlt, Rat.num_natCast,
          Int.toNat_natCast]
      · rw [if_neg fun h => hlt (hle.mp h.2.1), if_neg hlt]
    · have hq := hlarge (not_lt.mp hn)
      have hbig : ¬ q ≤ ((2 ^ 32 - 1 : ℕ) : ℚ) := by
        have hless : ((2 ^ 32 - 1 : ℕ) : ℚ) < 2 ^ 53 := by norm_num
        exact not_le.mpr (lt_of_lt_of_le hless hq)
      rw [if_neg fun h => hbig h.2.1, if_neg (by omega)]
  | _ => cases h

theorem string?_of_isNumber (h : IsNumber n number) : number.string? = none := by
  cases number with
  | string s => cases h
  | _ => rfl

def versionListing (name : StdString) (version : Value) : List ExtensionListing :=
  match version.uInt?, version.string? with
  | some n, _ => [⟨name, n⟩]
  | none, some s => [⟨name, (strtoul s).1 % 2 ^ 32⟩]
  | none, none => []

theorem versionListing_of_isNumber (h : IsNumber n number) (name : StdString) :
    versionListing name number = if n < 2 ^ 32 then [⟨name, n⟩] else [] := by
  unfold versionListing
  rw [uInt?_of_isNumber h, string?_of_isNumber h]
  split_ifs <;> rfl

theorem versionListing_of_isDecimal (h : IsDecimal n digits) (name : StdString) :
    versionListing name (.string digits) =
      [⟨name, (if 2 ^ 64 ≤ n then 2 ^ 64 - 1 else n) % 2 ^ 32⟩] := by
  change [(⟨name, (strtoul digits).1 % 2 ^ 32⟩ : ExtensionListing)] = _
  rw [strtoul_of_isDecimal h]

theorem parseExtension_entry (members : List (StdString × Value)) (name : StdString) (version : Value)
    (extensions : List ExtensionListing) :
    parseExtension (extensionEntry members name version) extensions =
      .ok (extensions ++ versionListing name version) := by
  have hname : (extensionEntry members name version).lookup "name".toList = .string name := by
    rw [extensionEntry, Value.lookup_object_setMember, if_neg (by decide),
      Value.lookup_object_setMember, if_pos rfl]
  have hversion : (extensionEntry members name version).lookup "extension_version".toList =
      version := by
    rw [extensionEntry, Value.lookup_object_setMember, if_pos rfl]
  have haccessible : (extensionEntry members name version).Accessible := Value.accessible_object _
  rw [parseExtension_of_accessible haccessible, listing?, hname, hversion, versionListing]
  cases version.uInt? with
  | some n => rfl
  | none => cases version.string? <;> rfl

/-- A number that does not fit 32 bits is passed over, and its digits are cut to size. -/
theorem spellingsAgree_iff (hnumber : IsNumber n number) (hdigits : IsDecimal n digits)
    (members : List (StdString × Value)) (name : StdString) (extensions : List ExtensionListing) :
    SpellingsAgree members name n number digits extensions ↔ n < 2 ^ 32 := by
  unfold SpellingsAgree
  rw [parseExtension_entry, parseExtension_entry, versionListing_of_isNumber hnumber,
    versionListing_of_isDecimal hdigits]
  simp only [Except.ok.injEq, List.append_cancel_left_eq]
  constructor
  · rintro ⟨added, -, hnumber, hstring⟩
    by_contra hn
    rw [if_neg hn] at hnumber
    rw [← hnumber] at hstring
    cases hstring
  · intro hn
    have hsmall : ¬ 2 ^ 64 ≤ n := by omega
    rw [if_pos hn, if_neg hsmall, Nat.mod_eq_of_lt hn]
    exact ⟨_, Or.inl rfl, rfl, rfl⟩

theorem spellingsAgree_seven :
    SpellingsAgree [] "XR_EXT_a".toList 7 (.int 7) ['7'] [] := by
  have hnumber : IsNumber 7 (.int 7) := rfl
  have hdigits : IsDecimal 7 ['7'] :=
    ⟨by decide, List.all_eq_true.mp (by decide), by decide⟩
  exact (spellingsAgree_iff hnumber hdigits [] _ []).mpr (by decide)

def tooLarge : StdString := ['4', '2', '9', '4', '9', '6', '7', '2', '9', '6']

/-- The number is passed over, and the string lists version 0. -/
theorem spellings_disagree :
    IsNumber (2 ^ 32) (.int 4294967296) ∧ IsDecimal (2 ^ 32) tooLarge ∧
    parseExtension (extensionEntry [] "XR_EXT_a".toList (.int 4294967296)) [] = .ok [] ∧
    parseExtension (extensionEntry [] "XR_EXT_a".toList (.string tooLarge)) [] =
      .ok [⟨"XR_EXT_a".toList, 0⟩] ∧
    ¬ SpellingsAgree [] "XR_EXT_a".toList (2 ^ 32) (.int 4294967296) tooLarge [] := by
  have hnumber : parseExtension (extensionEntry [] "XR_EXT_a".toList (.int 4294967296)) [] =
      .ok [] := rfl
  have hstring : parseExtension
      (extensionEntry [] "XR_EXT_a".toList (.string tooLarge)) [] =
      .ok [⟨"XR_EXT_a".toList, 0⟩] := rfl
  have hvalue : IsNumber (2 ^ 32) (.int 4294967296) := by
    change (4294967296 : ℤ) = ((2 ^ 32 : ℕ) : ℤ)
    norm_num
  refine ⟨hvalue, ⟨by decide, List.all_eq_true.mp (by decide), by decide +kernel⟩, hnumber, hstring, ?_⟩
  rintro ⟨added, -, hnone, hsome⟩
  rw [hnumber] at hnone
  rw [hstring] at hsome
  cases hnone.trans hsome.symm

end Spellings
end ManifestFile

/-! ## API layers -/

namespace ApiLayerManifestFile

/-- What is reported of a layer is what its manifest says, for the strings of the three fields. -/
structure ReportsVersions (fileFormat apiVersion implementationVersion : StdString)
    (props : XrApiLayerProperties) : Prop where
  implementation : ∃ n < 2 ^ 32, IsDecimal n implementationVersion ∧ props.layerVersion = n
  api : ∃ major minor, BeginsWith [major, minor] apiVersion ∧
    xrVersionMajor props.specVersion = major ∧ xrVersionMinor props.specVersion = minor
  format : BeginsWith [1, 0, 0] fileFormat

/-- The fields start with digits, have no white space and no sign in front of their numbers, and
the numbers fit: 32 bits, but 16 for the minor number of the API version. -/
structure PlainVersions (fileFormat apiVersion implementationVersion : StdString) : Prop where
  implementation : StartsWithDigit implementationVersion ∧ '\x00' ∉ implementationVersion ∧
    decimalValue implementationVersion < 2 ^ 32
  api : PlainFields [2 ^ 32, 2 ^ 16] apiVersion
  format : PlainFields [2 ^ 32, 2 ^ 32, 2 ^ 32] fileFormat

section Fields
variable {s : StdString} {version : ℕ} {apiVersion : JsonVersion}

/-- Up to the end of the C string there is nothing but digits. -/
theorem isDecimal_of_parse (h : parseImplementationVersion s = some version)
    (hstart : StartsWithDigit s) (hnul : '\x00' ∉ s) (hlt : decimalValue s < 2 ^ 32) :
    IsDecimal version s := by
  unfold parseImplementationVersion strtoul at h
  rw [numberPrefix_of_startsWithDigit hstart] at h
  simp only [List.isEmpty_eq_false_iff.mpr hstart.takeWhile_ne_nil, Bool.false_eq_true,
    if_false] at h
  split_ifs at h with hend
  cases h
  have hrest : s.dropWhile Char.isDigit = [] := by
    have hnone : '\x00' ∉ s.dropWhile Char.isDigit := fun hmem =>
      hnul ((List.dropWhile_sublist _).subset hmem)
    rw [cString_eq_self hnone] at hend
    exact List.isEmpty_iff.mp hend
  have hdigits := List.dropWhile_eq_nil_iff.mp hrest
  have hsmall : ¬ 2 ^ 64 ≤ decimalValue s := by omega
  rw [List.takeWhile_eq_self_iff.mpr hdigits, unsignedLong, if_neg hsmall, if_neg Bool.false_ne_true,
    Nat.mod_eq_of_lt hlt]
  have hdecimal := hstart.isDecimal
  rwa [List.takeWhile_eq_self_iff.mpr hdigits] at hdecimal

theorem implementation_iff (h : parseImplementationVersion s = some version) :
    (∃ n < 2 ^ 32, IsDecimal n s ∧ version = n) ↔
      StartsWithDigit s ∧ '\x00' ∉ s ∧ decimalValue s < 2 ^ 32 := by
  constructor
  · rintro ⟨n, hn, hdecimal, -⟩
    have hstart := hdecimal.startsWithDigit []
    rw [List.append_nil] at hstart
    refine ⟨hstart, fun hnul => ?_, by rwa [hdecimal.value]⟩
    exact ne_nul_of_isDigit (hdecimal.digit _ hnul) rfl
  · rintro ⟨hstart, hnul, hlt⟩
    have hdecimal := isDecimal_of_parse h hstart hnul hlt
    exact ⟨version, hdecimal.value ▸ hlt, hdecimal, rfl⟩

theorem parseApiVersion_eq_some (h : parseApiVersion s = some apiVersion) :
    scanFields 2 s = [apiVersion.major, apiVersion.minor] ∧ apiVersion.major ≤ 1 := by
  unfold parseApiVersion at h
  split at h
  · next major minor hscan =>
    split_ifs at h with hrefused
    cases h
    refine ⟨hscan, ?_⟩
    have hmajor : ¬ major > xrVersionMajor xrCurrentApiVersion := fun hgt => hrefused (Or.inr hgt)
    exact not_lt.mp hmajor
  · cases h

theorem xrVersionMajor_make (major minor patch : ℕ) :
    xrVersionMajor (xrMakeVersion major minor patch) = major % 2 ^ 16 := by
  unfold xrVersionMajor xrMakeVersion
  omega

theorem xrVersionMinor_make (major minor patch : ℕ) :
    xrVersionMinor (xrMakeVersion major minor patch) = minor % 2 ^ 16 := by
  unfold xrVersionMinor xrMakeVersion
  omega

theorem api_iff (h : parseApiVersion s = some apiVersion) :
    (∃ major minor, BeginsWith [major, minor] s ∧
        xrVersionMajor (xrMakeVersion apiVersion.major apiVersion.minor apiVersion.patch) = major ∧
        xrVersionMinor (xrMakeVersion apiVersion.major apiVersion.minor apiVersion.patch) = minor) ↔
      PlainFields [2 ^ 32, 2 ^ 16] s := by
  obtain ⟨hscan, hmajor⟩ := parseApiVersion_eq_some h
  rw [xrVersionMajor_make, xrVersionMinor_make]
  constructor
  · rintro ⟨major, minor, hbegins, rfl, rfl⟩
    refine plainFields_of_beginsWith (.cons ?_ (.cons ?_ .nil)) hbegins
    · omega
    · omega
  · intro hplain
    obtain ⟨hbegins, hless⟩ := beginsWith_of_plainFields (by simp) hplain hscan rfl
    have hminor : apiVersion.minor < 2 ^ 16 := by
      rcases hless with _ | ⟨-, _ | ⟨hminor, -⟩⟩
      exact hminor
    refine ⟨apiVersion.major, apiVersion.minor, hbegins, ?_, Nat.mod_eq_of_lt hminor⟩
    exact Nat.mod_eq_of_lt (by omega)

theorem format_iff (h : scanFields 3 s = [1, 0, 0]) :
    BeginsWith [1, 0, 0] s ↔ PlainFields [2 ^ 32, 2 ^ 32, 2 ^ 32] s := by
  constructor
  · exact plainFields_of_beginsWith
      (.cons (by decide) (.cons (by decide) (.cons (by decide) .nil)))
  · intro hplain
    exact (beginsWith_of_plainFields (by simp) hplain h rfl).1

theorem eq_string {v : Value} (h : v.string? = some s) : v = .string s := by
  cases v with
  | string t =>
    cases h
    rfl
  | _ => cases h

/-- The strings that the versions of an accepted manifest come from. -/
theorem header_eq_some {props : LoaderProperty} {type : ManifestFileType}
    {name path : StdString} {node : Value}
    (h : header? props type node = some (name, apiVersion, path, version)) :
    ∃ api implementation, node.lookup "api_version".toList = .string api ∧
      node.lookup "implementation_version".toList = .string implementation ∧
      parseApiVersion api = some apiVersion ∧
      parseImplementationVersion implementation = some version := by
  unfold header? at h
  simp only [Option.bind_eq_bind, Option.bind_eq_some_iff] at h
  obtain ⟨_, -, api, hapi, _, -, implementation, himplementation, hrest⟩ := h
  split_ifs at hrest
  simp only [Option.bind_eq_some_iff] at hrest
  obtain ⟨_, hparsed, _, hconverted, heq⟩ := hrest
  cases heq
  exact ⟨api, implementation, eq_string hapi, eq_string himplementation, hparsed, hconverted⟩

theorem completeFor_of_createIfValid {fs : FileSystem} {props : LoaderProperty}
    {locate : LibraryLocator} {type : ManifestFileType} {root : Value} {filename : StdString}
    {before : List ApiLayerManifestFile} {m : ApiLayerManifestFile}
    (h : createIfValid fs props locate type root filename before = .ok (before ++ [m])) :
    CompleteFor fs props locate type root filename m := by
  have hr : root.Accessible := by
    by_contra hr
    unfold createIfValid ManifestFile.isValidJson at h
    rw [Value.member_of_not_accessible hr] at h
    cases h
  have hshape : WellShaped fs props locate type root filename := by
    by_contra hshape
    obtain ⟨fault, hfault⟩ := createIfValid_error hr hshape before
    rw [h] at hfault
    cases hfault
  obtain ⟨new, happends, hcomplete⟩ := createIfValid_appends hr hshape
  rw [happends before] at h
  have hnew := List.append_cancel_left (Except.ok.inj h)
  cases new with
  | none => cases hnew
  | some m' =>
    cases hnew
    exact hcomplete m rfl

end Fields

/-- For every manifest that is accepted, the versions are reported as they are written if and
only if they are plain. -/
theorem reportsVersions_iff {fs : FileSystem} {props : LoaderProperty} {locate : LibraryLocator}
    {type : ManifestFileType} {root : Value} {filename : StdString}
    {before : List ApiLayerManifestFile} {m : ApiLayerManifestFile}
    (h : createIfValid fs props locate type root filename before = .ok (before ++ [m])) :
    ∃ fileFormat apiVersion implementationVersion,
      root.lookup "file_format_version".toList = .string fileFormat ∧
      (layerNode root).lookup "api_version".toList = .string apiVersion ∧
      (layerNode root).lookup "implementation_version".toList = .string implementationVersion ∧
      (ReportsVersions fileFormat apiVersion implementationVersion m.populateApiLayerProperties ↔
        PlainVersions fileFormat apiVersion implementationVersion) := by
  have hcomplete := completeFor_of_createIfValid h
  obtain ⟨fileFormat, hformat, hscan⟩ := hcomplete.supported
  obtain ⟨path, hheader, -⟩ := hcomplete.header
  obtain ⟨api, implementation, hapi, himplementation, hparsed, hconverted⟩ := header_eq_some hheader
  refine ⟨fileFormat, api, implementation, eq_string hformat, hapi, himplementation, ?_⟩
  constructor
  · rintro ⟨hversion, hspec, hbegins⟩
    exact ⟨(implementation_iff hconverted).mp hversion, (api_iff hparsed).mp hspec,
      (format_iff hscan).mp hbegins⟩
  · rintro ⟨hversion, hspec, hbegins⟩
    exact ⟨(implementation_iff hconverted).mpr hversion, (api_iff hparsed).mpr hspec,
      (format_iff hscan).mpr hbegins⟩

def layerManifest (fileFormat apiVersion implementationVersion : StdString) : Value :=
  .object [("file_format_version".toList, .string fileFormat),
    ("api_layer".toList, .object [("name".toList, .string ['a']),
      ("api_version".toList, .string apiVersion), ("library_path".toList, .string ['l']),
      ("implementation_version".toList, .string implementationVersion)])]

/-- An explicit layer, on a file system on which nothing is looked up. -/
def createLayer (root : Value) : Except Fault (List ApiLayerManifestFile) :=
  createIfValid (uniformFileSystem []) ⟨⟨fun _ => [], fun _ => [], fun _ => false⟩, ∅⟩
    (fun _ path => .ok (some path)) .explicitApiLayer root ['f'] []

theorem reportsVersions_plain :
    ∃ m, createLayer (layerManifest "1.0.0".toList "1.1".toList ['7']) = .ok [m] ∧
      ReportsVersions "1.0.0".toList "1.1".toList ['7'] m.populateApiLayerProperties := by
  refine ⟨_, rfl, ?_⟩
  have h : createLayer (layerManifest "1.0.0".toList "1.1".toList ['7']) = .ok ([] ++ [_]) := rfl
  obtain ⟨fileFormat, api, implementation, hformat, hapi, himplementation, hiff⟩ :=
    reportsVersions_iff h
  obtain rfl : "1.0.0".toList = fileFormat := Value.string.inj hformat
  obtain rfl : "1.1".toList = api := Value.string.inj hapi
  obtain rfl : ['7'] = implementation := Value.string.inj himplementation
  exact hiff.mpr ⟨by decide +kernel, by decide +kernel, by decide +kernel⟩

/-- An empty implementation version is read as 0 and a negative one wraps around; the minor number
65537 loses its upper bits. -/
theorem versions_lost :
    (∃ m, createLayer (layerManifest " 1.0.0".toList "1.65537".toList []) = .ok [m] ∧
      m.populateApiLayerProperties.layerVersion = 0 ∧
      xrVersionMinor m.populateApiLayerProperties.specVersion = 1 ∧
      ¬ ReportsVersions " 1.0.0".toList "1.65537".toList [] m.populateApiLayerProperties) ∧
    ∃ m, createLayer (layerManifest "1.0.0".toList "1.1".toList ['-', '1']) = .ok [m] ∧
      m.populateApiLayerProperties.layerVersion = 4294967295 := by
  refine ⟨⟨_, rfl, by decide +kernel, by decide +kernel, ?_⟩, _, rfl, by decide +kernel⟩
  rintro ⟨⟨n, -, hdecimal, -⟩, -, -⟩
  exact hdecimal.nonempty rfl

end ApiLayerManifestFile
end OpenXRSdk
