import Mathlib

/-!
# Vocabulary of the API and of the C++ standard library

Result codes, versions, handles, strings and the structures that pass between the
application, the loader, the API layers and the runtime. A `std::string` is a list of
characters, NUL included; a C string is what stands before its first NUL.
-/
namespace OpenXRSdk

/-- `enum XrResult`; foreign code may return any integer. -/
abbrev XrResult := ℤ

abbrev xrSuccess : XrResult := 0
abbrev xrErrorValidationFailure : XrResult := -1
abbrev xrErrorRuntimeFailure : XrResult := -2
abbrev xrErrorApiVersionUnsupported : XrResult := -4
abbrev xrErrorInitializationFailed : XrResult := -6
abbrev xrErrorFunctionUnsupported : XrResult := -7
abbrev xrErrorExtensionNotPresent : XrResult := -9
abbrev xrErrorLimitReached : XrResult := -10
abbrev xrErrorSizeInsufficient : XrResult := -11
abbrev xrErrorHandleInvalid : XrResult := -12
abbrev xrErrorFileAccessError : XrResult := -32
abbrev xrErrorFileContentsInvalid : XrResult := -33
abbrev xrErrorApiLayerNotPresent : XrResult := -36
abbrev xrErrorNameInvalid : XrResult := -45
abbrev xrErrorRuntimeUnavailable : XrResult := -51

abbrev xrSucceeded (r : XrResult) : Prop := 0 ≤ r

abbrev xrFailed (r : XrResult) : Prop := r < 0

theorem not_xrSucceeded {r : XrResult} : ¬ xrSucceeded r ↔ xrFailed r := not_le

theorem not_xrFailed {r : XrResult} : ¬ xrFailed r ↔ xrSucceeded r := not_lt

/-- Why a call may fail to return: a C++ exception is on its way, or the behaviour is
undefined (a null function called, memory read that nobody wrote). -/
inductive Fault
  | exception
  | undefinedBehaviour
  deriving DecidableEq, Repr

/-- Handles are 64-bit values; 0 is `XR_NULL_HANDLE`. -/
abbrev XrInstance := ℕ
abbrev XrSession := ℕ
abbrev XrDebugUtilsMessengerEXT := ℕ

abbrev xrNullHandle : ℕ := 0

def xrMakeVersion (major minor patch : ℕ) : ℕ :=
  major % 2 ^ 16 * 2 ^ 48 + minor % 2 ^ 16 * 2 ^ 32 + patch % 2 ^ 32

def xrVersionMajor (version : ℕ) : ℕ := version / 2 ^ 48 % 2 ^ 16

def xrVersionMinor (version : ℕ) : ℕ := version / 2 ^ 32 % 2 ^ 16

def xrCurrentApiVersion : ℕ := xrMakeVersion 1 1 65

abbrev StdString := List Char

instance : LawfulBEq StdString := inferInstance

def cString (s : StdString) : StdString := s.takeWhile (· ≠ '\x00')

/-- `strncpy` of `s.c_str()` into a buffer of `size` bytes whose last byte is then set to
NUL, read back as a C string. -/
def boundedCopy (size : ℕ) (s : StdString) : StdString := (cString s).take (size - 1)

/-- `strlen(str) == 0` for a buffer that holds a NUL. -/
def isEmptyCString (buffer : StdString) : Bool := (cString buffer).isEmpty

def isMissingNullTerminator (buffer : StdString) : Bool := !buffer.contains '\x00'

def xrMaxExtensionNameSize : ℕ := 128
def xrMaxApiLayerNameSize : ℕ := 256

abbrev UnorderedMap (K V : Type) := AList (fun _ : K => V)

/-- `emplace` and `insert` keep an entry that is there already. -/
def UnorderedMap.emplace {K V : Type} [DecidableEq K] (k : K) (v : V) (m : UnorderedMap K V) :
    UnorderedMap K V :=
  if k ∈ m then m else AList.insert k v m

theorem UnorderedMap.lookup_emplace {K V : Type} [DecidableEq K] (k : K) (v : V)
    (m : UnorderedMap K V) (n : K) :
    (UnorderedMap.emplace k v m).lookup n = (m.lookup n).or (if k = n then some v else none) := by
  unfold UnorderedMap.emplace
  by_cases hm : k ∈ m
  · rw [if_pos hm]
    by_cases hn : k = n
    · subst hn
      obtain ⟨w, hw⟩ := Option.isSome_iff_exists.mp (AList.lookup_isSome.mpr hm)
      rw [hw, Option.some_or]
    · rw [if_neg hn, Option.or_none]
  · rw [if_neg hm]
    by_cases hn : k = n
    · subst hn
      rw [AList.lookup_insert, AList.lookup_eq_none.mpr hm, if_pos rfl, Option.none_or]
    · rw [AList.lookup_insert_ne (Ne.symm hn), if_neg hn, Option.or_none]

def UnorderedMap.mapValues {K V : Type} (f : V → V) (m : UnorderedMap K V) : UnorderedMap K V where
  entries := m.entries.map fun e => ⟨e.1, f e.2⟩
  nodupKeys := by
    have h := m.nodupKeys
    unfold List.NodupKeys List.keys at h ⊢
    simpa [List.map_map, Function.comp_def] using h

theorem UnorderedMap.lookup_mapValues {K V : Type} [DecidableEq K] (f : V → V)
    (m : UnorderedMap K V) (k : K) :
    (UnorderedMap.mapValues f m).lookup k = (m.lookup k).map f := by
  have h (es : List (Sigma fun _ : K => V)) :
      (es.map fun e => (⟨e.1, f e.2⟩ : Sigma fun _ : K => V)).dlookup k =
        (es.dlookup k).map f := by
    induction es with
    | nil => rfl
    | cons e es ih =>
      obtain ⟨k', v⟩ := e
      by_cases hk : k = k'
      · subst hk
        simp
      · have hcons (w : V) (rest : List (Sigma fun _ : K => V)) :
            List.dlookup k (⟨k', w⟩ :: rest) = rest.dlookup k :=
          List.dlookup_cons_ne rest (⟨k', w⟩ : Sigma fun _ : K => V) hk
        rw [List.map_cons, hcons, hcons, ih]
  exact h m.entries

/-- `XrExtensionProperties`, the name field read as a C string. -/
structure XrExtensionProperties where
  extensionName : StdString
  extensionVersion : ℕ
  deriving DecidableEq, Repr

inductive Command
  | getInstanceProcAddr
  | initializeLoaderKHR
  | enumerateApiLayerProperties
  | enumerateInstanceExtensionProperties
  | createInstance
  | createApiLayerInstance
  | destroyInstance
  | destroySession
  | setDebugUtilsObjectNameEXT
  | createDebugUtilsMessengerEXT
  | destroyDebugUtilsMessengerEXT
  | submitDebugUtilsMessageEXT
  | sessionBeginDebugUtilsLabelRegionEXT
  | sessionEndDebugUtilsLabelRegionEXT
  | sessionInsertDebugUtilsLabelEXT
  /-- Any other command that has a generated trampoline. -/
  | other (number : ℕ)
  deriving DecidableEq, Repr

/-- A function pointer: null, a trampoline or a terminator of the loader, or code outside
the loader. -/
inductive Pfn
  | null
  | trampoline (command : Command)
  | term (command : Command)
  | foreign (address : ℕ)
  deriving DecidableEq, Repr

/-- `XrDebugUtilsMessengerCreateInfoEXT`, less its callback. -/
structure XrDebugUtilsMessengerCreateInfoEXT where
  messageSeverities : UInt64
  messageTypes : UInt64
  deriving DecidableEq, Repr

/-- One structure of the `next` chain of an `XrInstanceCreateInfo`. -/
inductive CreateInfoExtension
  | debugUtilsMessenger (info : XrDebugUtilsMessengerCreateInfoEXT)
  | other (type : ℕ)
  deriving DecidableEq, Repr

structure XrApplicationInfo where
  applicationName : StdString
  engineName : StdString
  apiVersion : ℕ
  deriving DecidableEq, Repr

def xrTypeInstanceCreateInfo : ℕ := 3

/-- `XrInstanceCreateInfo`. The two arrays may be null; their counts are fields of their own. -/
structure XrInstanceCreateInfo where
  type : ℕ
  next : List CreateInfoExtension
  createFlags : ℕ
  applicationInfo : XrApplicationInfo
  enabledApiLayerCount : ℕ
  enabledApiLayerNames : Option (List StdString)
  enabledExtensionCount : ℕ
  enabledExtensionNames : Option (List StdString)
  deriving DecidableEq, Repr

end OpenXRSdk
