import OpenXRSdk.LayerChain
import OpenXRSdk.InstanceCreation
import OpenXRSdk.LayerExtensions

/-!
# What is done with the application's create info

The copy that goes down the chain without the extensions of the loader, and where an invalid
create info is rejected.
-/
namespace OpenXRSdk

open StateProgram

section Erasing
variable {α : Type} [BEq α] [LawfulBEq α]

/-- One occurrence of each listed element goes; that is all of them if none is repeated. -/
theorem diff_eq_filter {l skip : List α} (h : ∀ a ∈ skip, l.count a ≤ 1) :
    l.diff skip = l.filter (!skip.contains ·) := by
  induction l generalizing skip with
  | nil => simp
  | cons b l ih =>
    by_cases hb : b ∈ skip
    · have hnot : b ∉ l := by
        have := h b hb
        rw [List.count_cons_self] at this
        exact List.count_eq_zero.mp (by omega)
      have hrest : ∀ a ∈ skip.erase b, l.count a ≤ 1 := fun a ha =>
        (List.count_le_count_cons).trans (h a (List.mem_of_mem_erase ha))
      rw [List.cons_diff_of_mem hb, ih hrest, List.filter_cons_of_neg (by simpa using hb)]
      refine List.filter_congr fun a ha => ?_
      have hne : a ≠ b := fun he => hnot (he ▸ ha)
      simp [List.mem_erase_of_ne hne]
    · have hrest : ∀ a ∈ skip, l.count a ≤ 1 := fun a ha =>
        (List.count_le_count_cons).trans (h a ha)
      rw [List.cons_diff_of_not_mem hb, ih hrest, List.filter_cons_of_pos (by simpa using hb)]

theorem diff_eq_filter_iff {l skip : List α} (hnodup : skip.Nodup) :
    l.diff skip = l.filter (!skip.contains ·) ↔ ∀ a ∈ skip, l.count a ≤ 1 := by
  refine ⟨fun h a ha => ?_, diff_eq_filter⟩
  have hnone : (l.diff skip).count a = 0 := by
    rw [h, List.count_eq_zero]
    simp [ha]
  rw [List.count_diff, List.count_eq_one_of_mem hnodup ha] at hnone
  omega

end Erasing

/-! ## The modified create info -/

theorem LoaderInstance.filterOutExtensions_eq (names extensionsToSkip : List StdString) :
    filterOutExtensions names extensionsToSkip = names.diff extensionsToSkip :=
  (List.diff_eq_foldl names extensionsToSkip).symm

/-- The names that it points to are those of the vector. -/
structure InstanceCreateInfoManager where
  originalCreateInfo : XrInstanceCreateInfo
  modifiedCreateInfo : XrInstanceCreateInfo
  enabledExtensionsCstr : List StdString

namespace InstanceCreateInfoManager

def update (manager : InstanceCreateInfoManager) : InstanceCreateInfoManager :=
  { manager with
    modifiedCreateInfo := { manager.modifiedCreateInfo with
      enabledExtensionCount := manager.enabledExtensionsCstr.length
      enabledExtensionNames :=
        if manager.enabledExtensionsCstr.isEmpty then none else some manager.enabledExtensionsCstr } }

/-- `none` when a null array would be read. -/
def reset (manager : InstanceCreateInfoManager) : Option InstanceCreateInfoManager :=
  (arrayNames manager.originalCreateInfo.enabledExtensionCount
    manager.originalCreateInfo.enabledExtensionNames).map fun names =>
      { manager with enabledExtensionsCstr := names }.update

def new (info : XrInstanceCreateInfo) : Option InstanceCreateInfoManager := reset ⟨info, info, []⟩

def get (manager : InstanceCreateInfoManager) : XrInstanceCreateInfo := manager.modifiedCreateInfo

def filterOutExtension (manager : InstanceCreateInfoManager) (extensionToSkip : StdString) :
    InstanceCreateInfoManager :=
  if manager.enabledExtensionsCstr.isEmpty then manager
  else
    { manager with
      enabledExtensionsCstr := manager.enabledExtensionsCstr.erase extensionToSkip }.update

def filterOutExtensions (manager : InstanceCreateInfoManager) (extensionsToSkip : List StdString) :
    InstanceCreateInfoManager :=
  if manager.enabledExtensionsCstr.isEmpty then manager
  else if extensionsToSkip.isEmpty then manager
  else (extensionsToSkip.foldl filterOutExtension manager).update

theorem new_eq {info : XrInstanceCreateInfo} {names : List StdString}
    (h : arrayNames info.enabledExtensionCount info.enabledExtensionNames = some names) :
    new info = some (update ⟨info, info, names⟩) := by
  unfold new reset
  rw [h, Option.map_some]

/-- A filter step does not look at the published structure. -/
theorem filterOutExtension_update (info : XrInstanceCreateInfo) (names : List StdString)
    (extensionToSkip : StdString) : (update ⟨info, info, names⟩).filterOutExtension extensionToSkip =
      update ⟨info, info, names.erase extensionToSkip⟩ := by
  cases names with
  | nil => rfl
  | cons name names => rfl

theorem foldl_filterOutExtension (info : XrInstanceCreateInfo) (extensionsToSkip names : List StdString) :
    extensionsToSkip.foldl filterOutExtension (update ⟨info, info, names⟩) =
      update ⟨info, info, LoaderInstance.filterOutExtensions names extensionsToSkip⟩ := by
  induction extensionsToSkip generalizing names with
  | nil => rfl
  | cons ext exts ih =>
    rw [List.foldl_cons, filterOutExtension_update, ih]
    rfl

/-- The early returns change nothing. -/
theorem filterOutExtensions_update (info : XrInstanceCreateInfo) (names extensionsToSkip : List StdString) :
    (update ⟨info, info, names⟩).filterOutExtensions extensionsToSkip =
      update ⟨info, info, LoaderInstance.filterOutExtensions names extensionsToSkip⟩ := by
  have hall := foldl_filterOutExtension info extensionsToSkip names
  unfold filterOutExtensions
  split_ifs with hnames hskip
  · have hnil : names = [] := List.isEmpty_iff.mp hnames
    rw [hnil, LoaderInstance.filterOutExtensions_eq, List.nil_diff]
  · have hnil : extensionsToSkip = [] := List.isEmpty_iff.mp hskip
    rw [hnil]
    rfl
  · rw [hall]
    rfl

theorem get_update (info : XrInstanceCreateInfo) (names : List StdString) :
    (update ⟨info, info, names⟩).get = { info with
      enabledExtensionCount := names.length
      enabledExtensionNames := if names = [] then none else some names } := by
  cases names <;> rfl

end InstanceCreateInfoManager

namespace LoaderInstance

/-- The names without those that are only the loader's, in an array that is null if there
are none. -/
structure HandsDown (rt : RuntimeInterface) (info : XrInstanceCreateInfo) (names : List StdString)
    (handed : XrInstanceCreateInfo) : Prop where
  names : arrayNames handed.enabledExtensionCount handed.enabledExtensionNames =
    some (names.filter (!(extensionsToSkip rt).contains ·))
  consistent : handed.enabledExtensionCount = 0 ↔ handed.enabledExtensionNames = none
  others : { handed with
    enabledExtensionCount := info.enabledExtensionCount
    enabledExtensionNames := info.enabledExtensionNames } = info

theorem nodup_extensionsToSkip (rt : RuntimeInterface) : (extensionsToSkip rt).Nodup :=
  List.Nodup.filter _ (by decide)

theorem handsDown_get_iff (rt : RuntimeInterface) (info : XrInstanceCreateInfo) (names : List StdString) :
    HandsDown rt info names (InstanceCreateInfoManager.update
        ⟨info, info, filterOutExtensions names (extensionsToSkip rt)⟩).get ↔
      ∀ ext ∈ extensionsToSkip rt, names.count ext ≤ 1 := by
  rw [← diff_eq_filter_iff (nodup_extensionsToSkip rt), ← filterOutExtensions_eq,
    InstanceCreateInfoManager.get_update]
  generalize filterOutExtensions names (extensionsToSkip rt) = rest
  have harray : arrayNames rest.length (if rest = [] then none else some rest) = some rest := by
    cases rest with
    | nil => rfl
    | cons name rest => simp [arrayNames]
  constructor
  · intro h
    exact Option.some.inj (harray.symm.trans h.names)
  · intro h
    refine ⟨harray.trans (congrArg some h), ?_, rfl⟩
    cases rest <;> simp

/-- The structure that is handed down, for the names of the application. -/
def handedDown (rt : RuntimeInterface) (info : XrInstanceCreateInfo) (names : List StdString) :
    XrInstanceCreateInfo :=
  if info.enabledExtensionCount = 0 then info
  else (InstanceCreateInfoManager.update
    ⟨info, info, filterOutExtensions names (extensionsToSkip rt)⟩).get

theorem modifiedCreateInfo_run (info : XrInstanceCreateInfo) (names : List StdString) {w : World}
    {rt : RuntimeInterface} (hruntime : w.runtime = some rt) :
    modifiedCreateInfo info names w = .ok (handedDown rt info names) w := by
  unfold modifiedCreateInfo handedDown
  rw [InstanceCreateInfoManager.get_update]
  by_cases hcount : info.enabledExtensionCount = 0
  · rw [if_pos hcount, if_pos hcount]
    rfl
  · rw [if_neg hcount, if_neg hcount, bind_of_ok (RuntimeInterface.getRuntime_of_some hruntime)]
    rfl

theorem createChained_run (env : Environment) (layers : List ApiLayerInterface)
    (info : XrInstanceCreateInfo) (names : List StdString) {w : World} {rt : RuntimeInterface}
    (hruntime : w.runtime = some rt) : createChained env layers info names w =
      if names.all (isSupported rt layers) then callChain env layers (handedDown rt info names) w
      else .ok ⟨xrErrorExtensionNotPresent, none⟩ w := by
  unfold createChained
  rw [bind_of_ok (checkExtensions_run layers names hruntime)]
  split_ifs with h hfailed hfailed
  · exact absurd hfailed (by decide)
  · rw [bind_of_ok (modifiedCreateInfo_run info names hruntime)]
  · rfl
  · exact absurd (by decide) hfailed

/-- With names that are all supported, the call that goes down the chain has the names that it
should exactly when no extension that is to be left out is named twice. -/
theorem handsDown_iff (env : Environment) {layers : List ApiLayerInterface} {info : XrInstanceCreateInfo}
    {names : List StdString} {w : World} {rt : RuntimeInterface}
    (hcount : info.enabledExtensionCount ≠ 0)
    (hnames : arrayNames info.enabledExtensionCount info.enabledExtensionNames = some names)
    (hruntime : w.runtime = some rt) (hsupported : names.all (isSupported rt layers) = true) :
    ∃ manager handed, InstanceCreateInfoManager.new info = some manager ∧
      handed = (manager.filterOutExtensions (extensionsToSkip rt)).get ∧
      createChained env layers info names w = callChain env layers handed w ∧
      (HandsDown rt info names handed ↔ ∀ ext ∈ extensionsToSkip rt, names.count ext ≤ 1) := by
  refine ⟨_, _, InstanceCreateInfoManager.new_eq hnames, rfl, ?_, ?_⟩
  · rw [createChained_run env layers info names hruntime, if_pos hsupported, handedDown, if_neg hcount,
      InstanceCreateInfoManager.filterOutExtensions_update]
  · rw [InstanceCreateInfoManager.filterOutExtensions_update]
    exact handsDown_get_iff rt info names

def infoNaming (names : List StdString) : XrInstanceCreateInfo where
  type := xrTypeInstanceCreateInfo
  next := []
  createFlags := 0
  applicationInfo := ⟨['a', '\x00'], ['\x00'], xrMakeVersion 1 0 0⟩
  enabledApiLayerCount := 0
  enabledApiLayerNames := none
  enabledExtensionCount := names.length
  enabledExtensionNames := some names

def withoutExtensions : Environment :=
  { Environment.bare with
    getInstanceProcAddr := fun _ _ _ _ => ⟨xrSuccess, some (.foreign 2)⟩
    callRuntime := fun _ _ call =>
      match call with
      | .createInstance info =>
        if info.enabledExtensionCount = 0 then ⟨xrSuccess, some 1⟩
        else ⟨xrErrorExtensionNotPresent, none⟩
      | _ => ⟨xrSuccess, none⟩ }

theorem handsDown_iff_debugUtils : ∃ manager handed,
    InstanceCreateInfoManager.new (infoNaming ["XR_EXT_debug_utils".toList]) = some manager ∧
    handed = (manager.filterOutExtensions (extensionsToSkip ⟨0, 1, ∅, ∅, []⟩)).get ∧
    createChained withoutExtensions [] (infoNaming ["XR_EXT_debug_utils".toList])
      ["XR_EXT_debug_utils".toList] runtimeWorld = callChain withoutExtensions [] handed runtimeWorld ∧
    (HandsDown ⟨0, 1, ∅, ∅, []⟩ (infoNaming ["XR_EXT_debug_utils".toList])
      ["XR_EXT_debug_utils".toList] handed ↔
        ∀ ext ∈ extensionsToSkip ⟨0, 1, ∅, ∅, []⟩, ["XR_EXT_debug_utils".toList].count ext ≤ 1) :=
  handsDown_iff withoutExtensions (by decide) rfl rfl (by decide)

/-- The application names the extension twice; one of the two reaches the runtime. -/
theorem repeatedExtension_handedDown : ∃ w',
    createChained withoutExtensions []
      (infoNaming ["XR_EXT_debug_utils".toList, "XR_EXT_debug_utils".toList])
      ["XR_EXT_debug_utils".toList, "XR_EXT_debug_utils".toList] runtimeWorld =
        .ok ⟨xrErrorExtensionNotPresent, none⟩ w' ∧
    handedDown ⟨0, 1, ∅, ∅, []⟩
        (infoNaming ["XR_EXT_debug_utils".toList, "XR_EXT_debug_utils".toList])
        ["XR_EXT_debug_utils".toList, "XR_EXT_debug_utils".toList] =
      infoNaming ["XR_EXT_debug_utils".toList] ∧
    ¬ HandsDown ⟨0, 1, ∅, ∅, []⟩
      (infoNaming ["XR_EXT_debug_utils".toList, "XR_EXT_debug_utils".toList])
      ["XR_EXT_debug_utils".toList, "XR_EXT_debug_utils".toList]
      (infoNaming ["XR_EXT_debug_utils".toList]) := by
  refine ⟨_, rfl, rfl, fun h => ?_⟩
  have := h.names
  revert this
  decide

end LoaderInstance
end OpenXRSdk
