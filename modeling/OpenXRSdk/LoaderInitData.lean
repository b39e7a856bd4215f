import OpenXRSdk.LoaderProperties

/-!
# Initialization data

What xrInitializeLoaderKHR keeps: property overrides on every platform and, on Android,
the virtual machine and the context of the application.
-/
namespace OpenXRSdk

/-- `XrLoaderInitInfoAndroidKHR`; 0 stands for a null pointer. -/
structure XrLoaderInitInfoAndroidKHR where
  applicationVM : ℕ
  applicationContext : ℕ
  deriving DecidableEq, Repr

/-- One structure of the chain of init infos. Names and values of properties may be null. -/
inductive LoaderInitInfo
  | properties (values : List (Option StdString × Option StdString))
  | android (info : XrLoaderInitInfoAndroidKHR)
  | other (type : ℕ)
  deriving DecidableEq, Repr

/-- What the Java side of the application answers during the platform initialization; none where
jnipp throws before it has the answer. -/
structure AndroidAnswers where
  assetManager : Option ℕ
  nativeLibraryDir : Option StdString
  deriving DecidableEq, Repr

structure LoaderInitData where
  initialized : Bool
  platformInfo : XrLoaderInitInfoAndroidKHR
  androidAssetManager : ℕ
  androidNativeLibraryPath : StdString
  deriving DecidableEq, Repr

namespace LoaderInitData

def new : LoaderInitData := ⟨false, ⟨0, 0⟩, 0, []⟩

/-- `getPlatformParam`: null on platforms without an init structure of their own. -/
def getPlatformParam (requiresPlatformInit : Bool) (initData : LoaderInitData) :
    Option XrLoaderInitInfoAndroidKHR :=
  if requiresPlatformInit then some initData.platformInfo else none

/-- `name`, `value` and the first character of `name` are there. -/
def validProperty : Option StdString × Option StdString → Option (StdString × StdString)
  | (some name, some value) => if isEmptyCString name then none else some (cString name, cString value)
  | _ => none

/-- The first properties structure of the chain replaces the overrides, or spoils the call. -/
def initializeProperties (overrides : UnorderedMap StdString StdString) :
    List LoaderInitInfo → XrResult × UnorderedMap StdString StdString
  | [] => (xrSuccess, overrides)
  | .properties values :: _ =>
    match values.mapM validProperty with
    | none => (xrErrorValidationFailure, overrides)
    | some pairs =>
      (xrSuccess, pairs.foldl (fun o p => LoaderProperty.setOverride o p.1 p.2)
        LoaderProperty.clearOverrides)
  | _ :: rest => initializeProperties overrides rest

/-- What the chosen structure leaves, as far as the answers go. Each of them is stored before the
next one is asked for. -/
def storePlatform (answers : AndroidAnswers) (initData : LoaderInitData)
    (info : XrLoaderInitInfoAndroidKHR) : Except Fault XrResult × LoaderInitData :=
  let initData := { initData with platformInfo := info }
  match answers.assetManager with
  | none => (.error .exception, initData)
  | some assetManager =>
    let initData := { initData with androidAssetManager := assetManager }
    match answers.nativeLibraryDir with
    | none => (.error .exception, initData)
    | some nativeLibraryDir =>
      (.ok xrSuccess, { initData with androidNativeLibraryPath := nativeLibraryDir })

def initializePlatform (answers : AndroidAnswers) (initData : LoaderInitData) :
    List LoaderInitInfo → Except Fault XrResult × LoaderInitData
  | [] => (.ok xrErrorValidationFailure, initData)
  | .android info :: _ =>
    if info.applicationVM = 0 ∨ info.applicationContext = 0 then
      (.ok xrErrorValidationFailure, initData)
    else storePlatform answers initData info
  | _ :: rest => initializePlatform answers initData rest

/-- The function `initialize` of the source, with the overrides that it changes. -/
def initializeFrom (requiresPlatformInit : Bool) (answers : AndroidAnswers)
    (overrides : UnorderedMap StdString StdString) (initData : LoaderInitData)
    (info : List LoaderInitInfo) :
    Except Fault XrResult × UnorderedMap StdString StdString × LoaderInitData :=
  let (result, overrides) := initializeProperties overrides info
  if result ≠ xrSuccess then (.ok result, overrides, initData)
  else if requiresPlatformInit then
    let (result, initData) := initializePlatform answers initData info
    match result with
    | .error fault => (.error fault, overrides, initData)
    | .ok result =>
      if result ≠ xrSuccess then (.ok result, overrides, initData)
      else (.ok xrSuccess, overrides, { initData with initialized := true })
  else (.ok xrSuccess, overrides, { initData with initialized := true })

/-! Nothing but an exception keeps the initialization from returning. -/

variable {answers : AndroidAnswers} {initData : LoaderInitData} {info : List LoaderInitInfo}
  {fault : Fault}

theorem initializePlatform_fault
    (h : (initializePlatform answers initData info).1 = .error fault) : fault = .exception := by
  induction info with
  | nil => cases h
  | cons i rest ih =>
    cases i with
    | android android =>
      unfold initializePlatform storePlatform at h
      split_ifs at h
      dsimp only at h
      split at h
      · cases h
        rfl
      · split at h <;> cases h
        rfl
    | properties values => exact ih h
    | other type => exact ih h

theorem initializeFrom_fault {requiresPlatformInit : Bool}
    {overrides : UnorderedMap StdString StdString}
    (h : (initializeFrom requiresPlatformInit answers overrides initData info).1 = .error fault) :
    fault = .exception := by
  unfold initializeFrom at h
  dsimp only at h
  split_ifs at h
  split at h
  · rename_i hfault
    cases h
    exact initializePlatform_fault hfault
  · split_ifs at h

end LoaderInitData
end OpenXRSdk
