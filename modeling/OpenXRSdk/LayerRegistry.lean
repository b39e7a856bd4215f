import OpenXRSdk.SearchPaths
import OpenXRSdk.UnboundedLoops

/-!
# Layers in the registry

On Windows the manifests of API layers are the names of values in the registry: which of them
the enumeration of a key passes on, whatever else the key holds.
-/
namespace OpenXRSdk

open UnboundedLoops

/-! ## The registry -/

def errorSuccess : ℕ := 0
def errorMoreData : ℕ := 234
def errorNoMoreItems : ℕ := 259

def regDword : ℕ := 4

abbrev WChar := UInt16

/-- A value of a key; its name is a string that ends with a null. -/
structure RegistryValue where
  name : List WChar
  type : ℕ
  data : List UInt8
  name_noNul : 0 ∉ name

/-- An open key; the number of its values is a `DWORD`. -/
structure RegistryKey where
  values : List RegistryValue
  length_lt : values.length < 2 ^ 32

/-- What `RegEnumValueW` returns and leaves behind its pointers. -/
structure EnumeratedValue where
  rtnValue : ℕ
  nameW : List WChar
  type : ℕ
  data : List UInt8
  valueSize : ℕ

/-- Whether name and data fit the sizes that are given, the name with its null. -/
def RegistryValue.Fits (value : RegistryValue) (nameSize valueSize : ℕ) : Prop :=
  value.name.length < nameSize ∧ value.data.length ≤ valueSize

/-- `RegEnumValueW`, as it is documented. What stands behind the pointers after an error is
left open. -/
structure RegEnumValueW where
  call : RegistryKey → (index nameSize valueSize : ℕ) → EnumeratedValue
  of_fits : ∀ key index nameSize valueSize value, key.values[index]? = some value →
    value.Fits nameSize valueSize →
    ∃ rest, call key index nameSize valueSize =
      ⟨errorSuccess, value.name ++ 0 :: rest, value.type, value.data, value.data.length⟩
  of_not_fits : ∀ key index nameSize valueSize value, key.values[index]? = some value →
    ¬value.Fits nameSize valueSize →
    (call key index nameSize valueSize).rtnValue = errorMoreData
  of_end : ∀ key index nameSize valueSize, key.values.length ≤ index →
    (call key index nameSize valueSize).rtnValue = errorNoMoreItems

/-- `WideCharToMultiByte` to UTF-8: how long the text gets, and what is written to a buffer. -/
structure WideCharToMultiByte where
  narrowLength : List WChar → ℕ
  written : List WChar → (size : ℕ) → StdString

def wideToUtf8 (convert : WideCharToMultiByte) (wideText : List WChar) : StdString :=
  if wideText = [] then []
  else
    let narrowLength := convert.narrowLength wideText
    if narrowLength = 0 then []
    else
      let narrowText := convert.written wideText narrowLength
      if narrowText.length ≠ narrowLength then [] else narrowText

/-- The characters of a wide buffer before its first null. -/
def wideString (buffer : List WChar) : List WChar := buffer.takeWhile (· ≠ 0)

theorem wideString_append {name : List WChar} (h : 0 ∉ name) (rest : List WChar) :
    wideString (name ++ 0 :: rest) = name := by
  rw [wideString, List.takeWhile_append_of_pos fun c hc => by simpa using ne_of_mem_of_not_mem hc h]
  simp

def dword (data : List UInt8) : ℕ := Nat.ofDigits 256 (data.map UInt8.toNat)

theorem dword_eq_zero_iff {data : List UInt8} (h : data.length = 4) :
    dword data = 0 ↔ data = [0, 0, 0, 0] := by
  constructor
  · intro hzero
    have hall := Nat.digits_zero_of_eq_zero (by decide) hzero
    refine List.eq_replicate_iff.mpr ⟨h, fun b hb => ?_⟩
    exact UInt8.toNat_inj.mp (hall _ (List.mem_map_of_mem hb))
  · rintro rfl
    decide

/-! ## The enumeration -/

section Reading

variable {S : Type} (convert : WideCharToMultiByte) (reg : RegEnumValueW)
  (addFilesInPath : StdString → S → Except Fault S)

/-- A turn of the loop, at a value of `key_index` and with the files found so far. A name goes
to `AddFilesInPath` as one manifest, not as a list of directories. -/
def enumerateValue (key : RegistryKey) (turn : ℕ × S) : Except Fault S ⊕ (ℕ × S) :=
  let (keyIndex, found) := turn
  let answer := reg.call key keyIndex 1023 4
  let next := (keyIndex + 1) % 2 ^ 32
  if answer.rtnValue = errorNoMoreItems then .inl (.ok found)
  else if answer.rtnValue ≠ errorSuccess ∧ answer.rtnValue ≠ errorMoreData then .inl (.ok found)
  else
    let filename := wideToUtf8 convert (wideString answer.nameW)
    if answer.rtnValue = errorSuccess ∧ answer.type = regDword ∧ answer.valueSize = 4 then
      if dword answer.data = 0 then
        match addFilesInPath filename found with
        | .ok found => .inr (next, found)
        | .error fault => .inl (.error fault)
      else .inr (next, found)
    else .inr (next, found)

/-- `ReadLayerDataFilesInHive`: whether the key can be opened, and the files. -/
def readLayerDataFilesInHive (hive : Option RegistryKey) (manifestFiles : S) :
    ExceptT Fault Part (Bool × S) :=
  match hive with
  | none => return (false, manifestFiles)
  | some key => do
    let found ← ExceptT.mk (forever (fun turn =>
      Part.some (enumerateValue convert reg addFilesInPath key turn)) (0, manifestFiles))
    return (true, found)

/-- `ReadLayerDataFilesInRegistry`: whether a key has been found, and the files. -/
def readLayerDataFilesInRegistry (isHighIntegrityLevel : Bool)
    (localMachine currentUser : Option RegistryKey) (manifestFiles : S) :
    ExceptT Fault Part (Bool × S) := do
  let (found, manifestFiles) ←
    readLayerDataFilesInHive convert reg addFilesInPath localMachine manifestFiles
  if isHighIntegrityLevel then return (found, manifestFiles)
  else
    let (foundUser, manifestFiles) ←
      readLayerDataFilesInHive convert reg addFilesInPath currentUser manifestFiles
    return (found || foundUser, manifestFiles)

/-! ## The values that are passed on -/

/-- A `REG_DWORD` that is 0, with a name that fits. -/
def RegistryValue.enabled (value : RegistryValue) : Bool :=
  value.type = regDword ∧ value.data = [0, 0, 0, 0] ∧ value.name.length < 1023

def enabledNames (values : List RegistryValue) : List StdString :=
  (values.filter RegistryValue.enabled).map fun value => wideToUtf8 convert value.name

def RegistryKey.enabledNames (hive : Option RegistryKey) : List StdString :=
  OpenXRSdk.enabledNames convert ((hive.map values).getD [])

variable {convert reg addFilesInPath}

theorem enumerateValue_of_enabled {key : RegistryKey} {keyIndex : ℕ} {value : RegistryValue}
    (h : key.values[keyIndex]? = some value) (henabled : value.enabled) (found : S) :
    enumerateValue convert reg addFilesInPath key (keyIndex, found) =
      match addFilesInPath (wideToUtf8 convert value.name) found with
      | .ok found => .inr ((keyIndex + 1) % 2 ^ 32, found)
      | .error fault => .inl (.error fault) := by
  obtain ⟨htype, hdata, hname⟩ := of_decide_eq_true henabled
  obtain ⟨rest, hcall⟩ := reg.of_fits key keyIndex 1023 4 value h ⟨hname, by simp [hdata]⟩
  have hzero : dword value.data = 0 := (dword_eq_zero_iff (by simp [hdata])).mpr hdata
  simp only [enumerateValue, hcall, wideString_append value.name_noNul, htype, hzero]
  simp [errorSuccess, errorNoMoreItems, hdata]

theorem enumerateValue_of_not_enabled {key : RegistryKey} {keyIndex : ℕ} {value : RegistryValue}
    (h : key.values[keyIndex]? = some value) (henabled : ¬value.enabled) (found : S) :
    enumerateValue convert reg addFilesInPath key (keyIndex, found) =
      .inr ((keyIndex + 1) % 2 ^ 32, found) := by
  by_cases hfits : value.Fits 1023 4
  · obtain ⟨rest, hcall⟩ := reg.of_fits key keyIndex 1023 4 value h hfits
    simp only [enumerateValue, hcall]
    rw [if_neg (by decide), if_neg (by decide)]
    split_ifs with hdword hzero
    · obtain ⟨-, htype, hsize⟩ := hdword
      have hdata := (dword_eq_zero_iff hsize).mp hzero
      exact absurd (decide_eq_true ⟨htype, hdata, hfits.1⟩) henabled
    · rfl
    · rfl
  · have hmore := reg.of_not_fits key keyIndex 1023 4 value h hfits
    simp [enumerateValue, hmore, errorMoreData, errorNoMoreItems, errorSuccess]

theorem enumerateValue_of_end {key : RegistryKey} {keyIndex : ℕ}
    (h : key.values.length ≤ keyIndex) (found : S) :
    enumerateValue convert reg addFilesInPath key (keyIndex, found) = .inl (.ok found) := by
  simp [enumerateValue, reg.of_end key keyIndex 1023 4 h]

variable (convert reg addFilesInPath)

/-- From `key_index` on, the names passed on are those of the values that are left. -/
def LeftToEnumerate (key : RegistryKey) (result : Except Fault S) (turn : ℕ × S) : Prop :=
  turn.1 ≤ key.values.length ∧
    (enabledNames convert (key.values.drop turn.1)).foldlM (fun found name =>
      addFilesInPath name found) turn.2 = result

theorem turns_enumerateValue (key : RegistryKey) (result : Except Fault S) (turn : ℕ × S)
    (h : LeftToEnumerate convert addFilesInPath key result turn) :
    Turns (fun turn => Part.some (enumerateValue convert reg addFilesInPath key turn))
      (LeftToEnumerate convert addFilesInPath key result)
      (fun turn => key.values.length - turn.1) (· = result) turn := by
  obtain ⟨keyIndex, found⟩ := turn
  obtain ⟨hle, hleft⟩ := h
  rcases hle.lt_or_eq with hlt | hend
  · have hvalue : key.values[keyIndex]? = some key.values[keyIndex] :=
      List.getElem?_eq_getElem hlt
    have hnext : (keyIndex + 1) % 2 ^ 32 = keyIndex + 1 :=
      Nat.mod_eq_of_lt (lt_of_le_of_lt hlt key.length_lt)
    have hsize : key.values.length - (keyIndex + 1) < key.values.length - keyIndex := by omega
    simp only [List.drop_eq_getElem_cons hlt, enabledNames, List.filter_cons] at hleft
    by_cases henabled : key.values[keyIndex].enabled
    · rw [if_pos henabled, List.map_cons, List.foldlM_cons] at hleft
      unfold Turns
      simp only [enumerateValue_of_enabled hvalue henabled, hnext]
      cases hadd : addFilesInPath (wideToUtf8 convert key.values[keyIndex].name) found with
      | error fault =>
        rw [hadd] at hleft
        exact Or.inl ⟨_, rfl, hleft⟩
      | ok found' =>
        rw [hadd] at hleft
        exact Or.inr ⟨_, rfl, ⟨hlt, hleft⟩, hsize⟩
    · rw [if_neg henabled] at hleft
      unfold Turns
      simp only [enumerateValue_of_not_enabled hvalue henabled, hnext]
      exact Or.inr ⟨_, rfl, ⟨hlt, hleft⟩, hsize⟩
  · have hdrop : key.values.drop keyIndex = [] := List.drop_eq_nil_of_le hend.ge
    rw [hdrop] at hleft
    exact Or.inl ⟨_, congrArg Part.some (enumerateValue_of_end hend.ge found), hleft⟩

/-- The enumeration of a key ends, and has passed on the names of its enabled values. -/
theorem forever_enumerateValue (key : RegistryKey) (manifestFiles : S) :
    forever (fun turn => Part.some (enumerateValue convert reg addFilesInPath key turn))
        (0, manifestFiles) =
      Part.some ((enabledNames convert key.values).foldlM (fun found name =>
        addFilesInPath name found) manifestFiles) := by
  obtain ⟨result, hresult, rfl⟩ := forever_total (fun turn => key.values.length - turn.1)
    (turns_enumerateValue convert reg addFilesInPath key _) (s := (0, manifestFiles))
    ⟨Nat.zero_le _, rfl⟩
  exact hresult

/-- What a computation that is known to end comes to, after another one. -/
theorem run_bind_of_eq {α β : Type} {x : ExceptT Fault Part α} {e : Except Fault α}
    (hx : x.run = Part.some e) (f : α → ExceptT Fault Part β) (g : α → Except Fault β)
    (hf : ∀ a, (f a).run = Part.some (g a)) : (x >>= f).run = Part.some (e >>= g) := by
  rw [ExceptT.run_bind, hx]
  cases e with
  | error fault => exact Part.bind_some _ _
  | ok a => exact (Part.bind_some _ _).trans (hf a)

def addAll (names : List StdString) (manifestFiles : S) : Except Fault S :=
  names.foldlM (fun found name => addFilesInPath name found) manifestFiles

theorem addAll_append (names names' : List StdString) (manifestFiles : S) :
    addAll addFilesInPath (names ++ names') manifestFiles =
      addAll addFilesInPath names manifestFiles >>= addAll addFilesInPath names' :=
  List.foldlM_append

theorem readLayerDataFilesInHive_eq (hive : Option RegistryKey) (manifestFiles : S) :
    (readLayerDataFilesInHive convert reg addFilesInPath hive manifestFiles).run =
      Part.some (do
        let found ← addAll addFilesInPath (RegistryKey.enabledNames convert hive) manifestFiles
        return (hive.isSome, found)) := by
  cases hive with
  | none => rfl
  | some key =>
    refine run_bind_of_eq ?_ _ _ fun found => rfl
    exact forever_enumerateValue convert reg addFilesInPath key manifestFiles

/-- A process that is not of high integrity passes on the names of the enabled values of both
hives, those of the local machine first, and comes to the end of both. -/
theorem readLayerDataFilesInRegistry_eq (localMachine currentUser : Option RegistryKey)
    (manifestFiles : S) :
    (readLayerDataFilesInRegistry convert reg addFilesInPath false localMachine currentUser
        manifestFiles).run =
      Part.some (do
        let found ← addAll addFilesInPath (RegistryKey.enabledNames convert localMachine ++
          RegistryKey.enabledNames convert currentUser) manifestFiles
        return (localMachine.isSome || currentUser.isSome, found)) := by
  have huser (found : Bool × S) := run_bind_of_eq
    (readLayerDataFilesInHive_eq convert reg addFilesInPath currentUser found.2)
    (fun user => return (found.1 || user.1, user.2))
    (fun user => .ok (found.1 || user.1, user.2)) fun _ => rfl
  refine (run_bind_of_eq
    (readLayerDataFilesInHive_eq convert reg addFilesInPath localMachine manifestFiles)
    _ _ huser).trans ?_
  rw [addAll_append, bind_assoc, bind_assoc]
  simp only [bind_assoc, pure_bind]
  rfl

end Reading

/-- The registry as it answers in fact, with nothing left behind the pointers after an error. -/
def enumeratesInOrder : RegEnumValueW where
  call key index nameSize valueSize :=
    match key.values[index]? with
    | none => ⟨errorNoMoreItems, [], 0, [], 0⟩
    | some value =>
      if value.name.length < nameSize ∧ value.data.length ≤ valueSize then
        ⟨errorSuccess, value.name ++ [0], value.type, value.data, value.data.length⟩
      else ⟨errorMoreData, [], value.type, [], value.data.length⟩
  of_fits key index nameSize valueSize value hvalue hfits := by
    simp only [hvalue]
    exact ⟨[], if_pos hfits⟩
  of_not_fits key index nameSize valueSize value hvalue hfits := by
    simp only [hvalue]
    exact congrArg EnumeratedValue.rtnValue (if_neg hfits)
  of_end key index nameSize valueSize hle := by
    simp only [List.getElem?_eq_none hle]

def narrowAscii : WideCharToMultiByte where
  narrowLength := List.length
  written text size := (text.take size).map fun c => Char.ofNat c.toNat

def mixedKey : RegistryKey where
  values :=
    [⟨[97], 1, [98, 0], by decide⟩, ⟨[98], regDword, [1, 0, 0, 0], by decide⟩,
      ⟨[99], regDword, [0, 0, 0, 0, 0], by decide⟩, ⟨[100], regDword, [0, 0, 0, 0], by decide⟩]
  length_lt := by decide

theorem readLayerDataFilesInRegistry_mixedKey :
    (readLayerDataFilesInRegistry narrowAscii enumeratesInOrder
        (fun name names => .ok (names ++ [name])) false (some mixedKey) (some mixedKey) []).run =
      Part.some (.ok (true, ["d".toList, "d".toList])) := by
  rw [readLayerDataFilesInRegistry_eq]
  exact congrArg Part.some (by decide)

end OpenXRSdk
