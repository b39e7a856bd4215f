import OpenXRSdk.LoaderInitData

/-!
# Failed initializations

The property overrides are replaced before the structure of the platform has been looked at, and
this is stored before the Java side of the application has answered.
-/
namespace OpenXRSdk

namespace LoaderInitInfo

def properties? : LoaderInitInfo → Option (List (Option StdString × Option StdString))
  | properties values => some values
  | _ => none

def android? : LoaderInitInfo → Option XrLoaderInitInfoAndroidKHR
  | android info => some info
  | _ => none

end LoaderInitInfo

namespace LoaderInitData

def namedValue (name : StdString) : Option StdString × Option StdString → Option StdString
  | (some n, some value) => if cString n = name then some (cString value) else none
  | _ => none

def firstValue (values : List (Option StdString × Option StdString)) (name : StdString) :
    Option StdString :=
  values.findSome? (namedValue name)

/-- The overrides after a success: the properties of the first structure that has any. -/
def overrideAfter (overrides : UnorderedMap StdString StdString) (info : List LoaderInitInfo)
    (name : StdString) : Option StdString :=
  match info.findSome? LoaderInitInfo.properties? with
  | some values => firstValue values name
  | none => overrides.lookup name

/-- The initialization takes place as a whole, or leaves everything as it was. -/
structure AllOrNothing (answers : AndroidAnswers) (overrides : UnorderedMap StdString StdString)
    (initData : LoaderInitData) (info : List LoaderInitInfo) : Prop where
  failure : (initializeFrom true answers overrides initData info).1 ≠ .ok xrSuccess →
    (∀ name, (initializeFrom true answers overrides initData info).2.1.lookup name =
      overrides.lookup name) ∧ (initializeFrom true answers overrides initData info).2.2 = initData
  success : (initializeFrom true answers overrides initData info).1 = .ok xrSuccess → ∀ name,
    (initializeFrom true answers overrides initData info).2.1.lookup name =
      overrideAfter overrides info name

def PropertiesInvalid (info : List LoaderInitInfo) : Prop :=
  ∃ values ∈ info.findSome? LoaderInitInfo.properties?,
    ∃ entry ∈ values, validProperty entry = none

def Complete (android : XrLoaderInitInfoAndroidKHR) : Prop :=
  android.applicationVM ≠ 0 ∧ android.applicationContext ≠ 0

/-- The first structure of the platform is complete, and the Java side answers. -/
def PlatformAnswers (answers : AndroidAnswers) (info : List LoaderInitInfo) : Prop :=
  (∃ android ∈ info.findSome? LoaderInitInfo.android?, Complete android) ∧
    answers.assetManager.isSome ∧ answers.nativeLibraryDir.isSome

/-- What the properties structure, if there is one, sets is set already, and so is what the
structure of the platform stores, if it is complete. -/
def StoresNothing (answers : AndroidAnswers) (overrides : UnorderedMap StdString StdString)
    (initData : LoaderInitData) (info : List LoaderInitInfo) : Prop :=
  (∀ name, overrideAfter overrides info name = overrides.lookup name) ∧
    ∀ android ∈ info.findSome? LoaderInitInfo.android?, Complete android →
      initData.platformInfo = android ∧
        ∀ assetManager ∈ answers.assetManager, initData.androidAssetManager = assetManager

section Passes
variable {answers : AndroidAnswers} {overrides : UnorderedMap StdString StdString}
  {initData : LoaderInitData} {info : List LoaderInitInfo}

theorem validationFailure_ne_success : xrErrorValidationFailure ≠ xrSuccess := by
  decide

/-- The first value set for a name stays. -/
theorem lookup_setOverrides (pairs : List (StdString × StdString)) (name : StdString) :
    (pairs.foldl (fun o p => LoaderProperty.setOverride o p.1 p.2) overrides).lookup name =
      (overrides.lookup name).or ((pairs.find? (·.1 = name)).map (·.2)) := by
  induction pairs generalizing overrides with
  | nil => simp
  | cons p pairs ih =>
    rw [List.foldl_cons, ih, LoaderProperty.setOverride, UnorderedMap.lookup_emplace, Option.or_assoc]
    by_cases hp : p.1 = name
    · simp [hp]
    · simp [hp]

theorem namedValue_of_valid {entry : Option StdString × Option StdString} {pair : StdString × StdString}
    (h : validProperty entry = some pair) (name : StdString) :
    namedValue name entry = if pair.1 = name then some pair.2 else none := by
  obtain ⟨_ | n, _ | value⟩ := entry
  · cases h
  · cases h
  · cases h
  · unfold validProperty at h
    dsimp only at h
    split_ifs at h
    cases h
    rfl

theorem firstValue_of_mapM {values : List (Option StdString × Option StdString)}
    {pairs : List (StdString × StdString)} (h : values.mapM validProperty = some pairs)
    (name : StdString) : (pairs.find? (·.1 = name)).map (·.2) = firstValue values name := by
  induction values generalizing pairs with
  | nil =>
    cases h
    rfl
  | cons entry values ih =>
    rw [List.mapM_cons] at h
    obtain ⟨pair, hpair, hrest⟩ := Option.bind_eq_some_iff.mp h
    obtain ⟨rest, hmap, heq⟩ := Option.bind_eq_some_iff.mp hrest
    cases heq
    have hnamed := namedValue_of_valid hpair name
    rw [firstValue, List.findSome?_cons, hnamed]
    by_cases hname : pair.1 = name
    · rw [List.find?_cons_of_pos (by simpa using hname), if_pos hname]
      rfl
    · rw [List.find?_cons_of_neg (by simpa using hname), if_neg hname]
      exact ih hmap

/-- All entries are valid, or one is not. -/
theorem mapM_validProperty (values : List (Option StdString × Option StdString)) :
    (values.mapM validProperty).isSome ↔ ∀ entry ∈ values, (validProperty entry).isSome := by
  induction values with
  | nil => simp
  | cons entry values ih =>
    rw [List.mapM_cons, List.forall_mem_cons, ← ih]
    cases validProperty entry with
    | none => simp
    | some pair =>
      cases values.mapM validProperty with
      | none => simp
      | some pairs => simp

/-- The first pass changes nothing but by the first structure that it looks at. -/
theorem initializeProperties_of_none (h : info.findSome? LoaderInitInfo.properties? = none) :
    initializeProperties overrides info = (xrSuccess, overrides) := by
  induction info with
  | nil => rfl
  | cons i rest ih =>
    cases i with
    | properties values => cases h
    | android android => exact ih h
    | other type => exact ih h

theorem initializeProperties_of_some {values : List (Option StdString × Option StdString)}
    (h : info.findSome? LoaderInitInfo.properties? = some values) :
    initializeProperties overrides info = initializeProperties overrides [.properties values] := by
  induction info with
  | nil => cases h
  | cons i rest ih =>
    cases i with
    | properties values =>
      cases h
      rfl
    | android android => exact ih h
    | other type => exact ih h

/-- The second pass looks at the first structure of the platform only. -/
theorem initializePlatform_eq (answers : AndroidAnswers) (initData : LoaderInitData)
    (info : List LoaderInitInfo) :
    (¬ (∃ android ∈ info.findSome? LoaderInitInfo.android?, Complete android) ∧
        initializePlatform answers initData info = (.ok xrErrorValidationFailure, initData)) ∨
      ∃ android, info.findSome? LoaderInitInfo.android? = some android ∧ Complete android ∧
        initializePlatform answers initData info = storePlatform answers initData android := by
  induction info with
  | nil => exact .inl ⟨by simp, rfl⟩
  | cons i rest ih =>
    cases i with
    | android android =>
      have hfirst : (LoaderInitInfo.android android :: rest).findSome? LoaderInitInfo.android? =
        some android := rfl
      rw [hfirst]
      unfold initializePlatform
      by_cases hnull : android.applicationVM = 0 ∨ android.applicationContext = 0
      · rw [if_pos hnull]
        refine .inl ⟨?_, rfl⟩
        rintro ⟨_, ⟨⟩, hvm, hcontext⟩
        exact hnull.elim hvm hcontext
      · rw [if_neg hnull]
        exact .inr ⟨android, rfl, not_or.mp hnull, rfl⟩
    | properties values => exact ih
    | other type => exact ih

/-- What is stored of a structure is stored before the exception. -/
theorem storePlatform_cases (answers : AndroidAnswers) (initData : LoaderInitData)
    (android : XrLoaderInitInfoAndroidKHR) :
    (answers.assetManager.isSome ∧ answers.nativeLibraryDir.isSome ∧
        (storePlatform answers initData android).1 = .ok xrSuccess) ∨
      ¬ (answers.assetManager.isSome ∧ answers.nativeLibraryDir.isSome) ∧
        (storePlatform answers initData android).1 = .error .exception ∧
        ((storePlatform answers initData android).2 = initData ↔
          initData.platformInfo = android ∧
            ∀ assetManager ∈ answers.assetManager, initData.androidAssetManager = assetManager) := by
  obtain ⟨initialized, platformInfo, assetManager, path⟩ := initData
  unfold storePlatform
  cases answers.assetManager with
  | none => exact .inr ⟨by simp, rfl, by simp [eq_comm]⟩
  | some manager =>
    cases answers.nativeLibraryDir with
    | none => exact .inr ⟨by simp, rfl, by simp [eq_comm]⟩
    | some dir => exact .inl ⟨rfl, rfl, rfl⟩

/-- The first pass fails and changes nothing, or leaves what is to be left in the end. -/
theorem initializeProperties_cases (overrides : UnorderedMap StdString StdString)
    (info : List LoaderInitInfo) :
    PropertiesInvalid info ∧ initializeProperties overrides info =
        (xrErrorValidationFailure, overrides) ∨
      ¬ PropertiesInvalid info ∧ (initializeProperties overrides info).1 = xrSuccess ∧
        ∀ name, (initializeProperties overrides info).2.lookup name =
          overrideAfter overrides info name := by
  unfold overrideAfter PropertiesInvalid
  cases hfirst : info.findSome? LoaderInitInfo.properties? with
  | none =>
    rw [initializeProperties_of_none hfirst]
    exact .inr ⟨by simp, rfl, fun name => rfl⟩
  | some values =>
    rw [initializeProperties_of_some hfirst]
    unfold initializeProperties
    have hvalid := mapM_validProperty values
    cases hmap : values.mapM validProperty with
    | none =>
      rw [hmap] at hvalid
      refine .inl ⟨?_, rfl⟩
      have hsome : ∃ entry ∈ values, validProperty entry = none := by
        by_contra hnone
        push Not at hnone
        exact absurd (hvalid.mpr fun entry he => Option.isSome_iff_ne_none.mpr (hnone entry he))
          (by decide)
      simpa using hsome
    | some pairs =>
      rw [hmap] at hvalid
      refine .inr ⟨?_, rfl, fun name => ?_⟩
      · rintro ⟨_, ⟨⟩, entry, hentry, hnone⟩
        have := hvalid.mp rfl entry hentry
        rw [hnone] at this
        cases this
      · dsimp only
        rw [lookup_setOverrides, LoaderProperty.clearOverrides, AList.lookup_empty, Option.none_or]
        exact firstValue_of_mapM hmap name

/-- A failure of the first pass ends the call. -/
theorem initializeFrom_of_properties_failed
    (h : initializeProperties overrides info = (xrErrorValidationFailure, overrides)) :
    initializeFrom true answers overrides initData info =
      (.ok xrErrorValidationFailure, overrides, initData) := by
  unfold initializeFrom
  rw [h]
  exact if_pos validationFailure_ne_success

/-- A failure of the second pass comes after the first one has replaced the overrides. -/
theorem initializeFrom_of_platform_failed
    (hproperties : (initializeProperties overrides info).1 = xrSuccess)
    (hplatform : (initializePlatform answers initData info).1 ≠ .ok xrSuccess) :
    initializeFrom true answers overrides initData info =
      ((initializePlatform answers initData info).1, (initializeProperties overrides info).2,
        (initializePlatform answers initData info).2) := by
  unfold initializeFrom
  generalize initializePlatform answers initData info = platform at hplatform ⊢
  obtain ⟨result, data⟩ := platform
  cases result with
  | error fault => simp [hproperties]
  | ok result =>
    have hresult : result ≠ xrSuccess := fun h => hplatform (congrArg Except.ok h)
    simp [hproperties, hresult]

theorem initializeFrom_of_succeeded
    (hproperties : (initializeProperties overrides info).1 = xrSuccess)
    (hplatform : (initializePlatform answers initData info).1 = .ok xrSuccess) :
    (initializeFrom true answers overrides initData info).1 = .ok xrSuccess ∧
      (initializeFrom true answers overrides initData info).2.1 =
        (initializeProperties overrides info).2 := by
  unfold initializeFrom
  simp [hproperties, hplatform]

/-- Where the second pass fails, what the first one and itself have stored stays. -/
theorem allOrNothing_of_platform_failed
    (hproperties : (initializeProperties overrides info).1 = xrSuccess)
    (hafter : ∀ name, (initializeProperties overrides info).2.lookup name =
      overrideAfter overrides info name)
    (hplatform : (initializePlatform answers initData info).1 ≠ .ok xrSuccess) :
    AllOrNothing answers overrides initData info ↔
      (∀ name, overrideAfter overrides info name = overrides.lookup name) ∧
        (initializePlatform answers initData info).2 = initData := by
  have hrun := initializeFrom_of_platform_failed hproperties hplatform
  constructor
  · rintro ⟨hfailure, -⟩
    rw [hrun] at hfailure
    obtain ⟨hsame, hdata⟩ := hfailure hplatform
    exact ⟨fun name => (hafter name).symm.trans (hsame name), hdata⟩
  · rintro ⟨hsame, hdata⟩
    constructor
    · rw [hrun]
      exact fun _ => ⟨fun name => (hafter name).trans (hsame name), hdata⟩
    · rw [hrun]
      exact fun hs => absurd hs hplatform

/-- The call is all or nothing where the first pass fails, the second one succeeds, or all that
they store is there already. -/
theorem allOrNothing_iff (answers : AndroidAnswers) (overrides : UnorderedMap StdString StdString)
    (initData : LoaderInitData) (info : List LoaderInitInfo) :
    AllOrNothing answers overrides initData info ↔
      PropertiesInvalid info ∨ PlatformAnswers answers info ∨
        StoresNothing answers overrides initData info := by
  rcases initializeProperties_cases overrides info with
    ⟨hinvalid, hfailed⟩ | ⟨hvalid, hdone, hafter⟩
  · have hrun := @initializeFrom_of_properties_failed answers overrides initData info hfailed
    refine iff_of_true ⟨?_, ?_⟩ (.inl hinvalid)
    · rw [hrun]
      exact fun _ => ⟨fun _ => rfl, rfl⟩
    · rw [hrun]
      exact fun hs => absurd (Except.ok.inj hs) validationFailure_ne_success
  rw [or_iff_right hvalid]
  rcases initializePlatform_eq answers initData info with
    ⟨hincomplete, hplatform⟩ | ⟨android, hfirst, hcomplete, hplatform⟩
  · have hne : (initializePlatform answers initData info).1 ≠ .ok xrSuccess := by
      rw [hplatform]
      exact fun h => validationFailure_ne_success (Except.ok.inj h)
    rw [or_iff_right fun h => hincomplete h.1, allOrNothing_of_platform_failed hdone hafter hne,
      hplatform]
    refine and_congr_right fun _ => iff_of_true rfl fun android hmem hcomplete => ?_
    exact absurd ⟨android, hmem, hcomplete⟩ hincomplete
  · rcases storePlatform_cases answers initData android with
      ⟨hmanager, hdir, hok⟩ | ⟨hsilent, herror, hsame⟩
    · obtain ⟨hsucceeded, hleft⟩ := initializeFrom_of_succeeded hdone (hplatform ▸ hok)
      refine iff_of_true ⟨fun hfailed => absurd hsucceeded hfailed, ?_⟩
        (.inl ⟨⟨android, hfirst, hcomplete⟩, hmanager, hdir⟩)
      rw [hleft]
      exact fun _ => hafter
    · have hne : (initializePlatform answers initData info).1 ≠ .ok xrSuccess := by
        rw [hplatform, herror]
        exact fun h => by cases h
      rw [or_iff_right fun h => hsilent h.2, allOrNothing_of_platform_failed hdone hafter hne,
        hplatform, hsame]
      refine and_congr_right fun _ => ⟨fun h other hother _ => ?_, fun h => h android hfirst hcomplete⟩
      obtain rfl : android = other := Option.some.inj (hfirst.symm.trans hother)
      exact h

end Passes

/-- An override that is replaced although the structure of the platform is missing. -/
def onlyProperties : List LoaderInitInfo := [.properties [(some ['a'], some ['2'])]]

def noAnswers : AndroidAnswers := ⟨none, none⟩

theorem failedInitialization_replaces :
    let before : UnorderedMap StdString StdString := UnorderedMap.emplace ['a'] ['1'] ∅
    (initializeFrom true noAnswers before new onlyProperties).1 = .ok xrErrorValidationFailure ∧
      before.lookup ['a'] = some ['1'] ∧
      (initializeFrom true noAnswers before new onlyProperties).2.1.lookup ['a'] = some ['2'] ∧
      ¬ AllOrNothing noAnswers before new onlyProperties := by
  intro before
  have hfailed : (initializeFrom true noAnswers before new onlyProperties).1 =
      .ok xrErrorValidationFailure := by
    decide +kernel
  have hbefore : before.lookup ['a'] = some ['1'] := by decide +kernel
  have hafter : (initializeFrom true noAnswers before new onlyProperties).2.1.lookup ['a'] =
      some ['2'] := by
    decide +kernel
  refine ⟨hfailed, hbefore, hafter, fun h => ?_⟩
  have hkept := (h.failure (by rw [hfailed]; exact fun hs => by cases hs)).1 ['a']
  rw [hafter, hbefore] at hkept
  exact absurd hkept (by decide)

end LoaderInitData
end OpenXRSdk
