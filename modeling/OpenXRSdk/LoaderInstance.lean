import OpenXRSdk.ApiLayerInterface
import OpenXRSdk.LoaderTerminators

/-!
# The loader instance

Which extensions may be enabled, the chain of create calls through the layers, and the
one instance that can be active.
-/
namespace OpenXRSdk

open StateProgram

/-- The names in an array that may be null; `none` when a null array would be read. -/
def arrayNames (count : ℕ) (names : Option (List StdString)) : Option (List StdString) :=
  if count = 0 then some [] else names.map (·.take count)

namespace LoaderInstance

def loaderSpecificExtensions : List XrExtensionProperties := [⟨"XR_EXT_debug_utils".toList, 5⟩]

def isSupported (rt : RuntimeInterface) (layers : List ApiLayerInterface) (name : StdString) : Bool :=
  rt.supportsExtension name || loaderSpecificExtensions.any (·.extensionName = name) ||
    layers.any (·.supportsExtension name)

/-- The check of the requested extensions. Without any, nothing is asked of the runtime. -/
def checkExtensions (layers : List ApiLayerInterface) (names : List StdString) : Loader XrResult := do
  if names = [] then return xrSuccess
  let rt ← RuntimeInterface.getRuntime
  if names.all (isSupported rt layers) then return xrSuccess else return xrErrorExtensionNotPresent

/-- `InstanceCreateInfoManager::FilterOutExtensions`: one occurrence of each name goes. -/
def filterOutExtensions (names : List StdString) (extensionsToSkip : List StdString) : List StdString :=
  extensionsToSkip.foldl List.erase names

def extensionsToSkip (rt : RuntimeInterface) : List StdString :=
  (loaderSpecificExtensions.map (·.extensionName)).filter fun name => ¬ rt.supportsExtension name

/-- What is handed down the chain in place of the application's structure. -/
def modifiedCreateInfo (info : XrInstanceCreateInfo) (names : List StdString) : Loader XrInstanceCreateInfo := do
  if info.enabledExtensionCount = 0 then return info
  let rt ← RuntimeInterface.getRuntime
  let names := filterOutExtensions names (extensionsToSkip rt)
  return { info with
    enabledExtensionCount := names.length
    enabledExtensionNames := if names = [] then none else some names }

/-- The descriptions of the layers from the topmost down, each with the functions of what
is below it, and the topmost two functions. -/
def linkLayers : List ApiLayerInterface → List XrApiLayerNextInfo × Pfn × Pfn
  | [] => ([], .term .getInstanceProcAddr, .term .createApiLayerInstance)
  | layer :: layers =>
    let (infos, gipa, cali) := linkLayers layers
    (⟨boundedCopy xrMaxApiLayerNameSize layer.layerName, gipa, cali⟩ :: infos,
      layer.getInstanceProcAddr, layer.createApiLayerInstance)

def topmostGipaOf (layers : List ApiLayerInterface) : Pfn := (linkLayers layers).2.1

/-- Call a function of the type `PFN_xrCreateApiLayerInstance`. -/
def callCreateApiLayerInstance (env : Environment) (cali : Pfn) (info : XrInstanceCreateInfo)
    (nextInfo : List XrApiLayerNextInfo) : Loader Reply :=
  match cali with
  | .term .createApiLayerInstance => terminate env (.createInstance info)
  | .foreign f => do
    let tree ← ask fun t => env.createApiLayerInstance t f info nextInfo
    tree.run (terminate env)
  | _ => undefinedBehaviour

def callChain (env : Environment) (layers : List ApiLayerInterface) (info : XrInstanceCreateInfo) :
    Loader Reply :=
  if layers.isEmpty then terminate env (.createInstance info)
  else callCreateApiLayerInstance env (linkLayers layers).2.2 info (linkLayers layers).1

/-- `GeneratedXrPopulateDispatchTableCore` for the topmost function. -/
def populateDispatchTable (env : Environment) (gipa : Pfn) (inst : XrInstance) : Loader DispatchTable :=
  match gipa with
  | .term .getInstanceProcAddr => do
    let rt ← RuntimeInterface.getRuntime
    let table ← RuntimeInterface.populateDispatchTable env rt.getInstanceProcAddr inst
    return fun command => if hasTerminator command then .term command else table command
  | .foreign f => RuntimeInterface.populateDispatchTable env f inst
  | _ => undefinedBehaviour

/-- An instance as it is made, with the extensions of the application's structure. -/
def new (inst : XrInstance) (names : List StdString) (layers : List ApiLayerInterface)
    (table : DispatchTable) : LoaderInstance :=
  ⟨inst, topmostGipaOf layers, layers, table, names, xrNullHandle⟩

def construct (env : Environment) (inst : XrInstance) (names : List StdString)
    (layers : List ApiLayerInterface) : Loader LoaderInstance := do
  let table ← populateDispatchTable env (topmostGipaOf layers) inst
  return new inst names layers table

/-- The check and the chained call; a handle when both succeed. -/
def createChained (env : Environment) (layers : List ApiLayerInterface) (info : XrInstanceCreateInfo)
    (names : List StdString) : Loader Reply := do
  let result ← checkExtensions layers names
  if xrFailed result then return ⟨result, none⟩
  let info ← modifiedCreateInfo info names
  callChain env layers info

/-- `CreateInstance`; without an instance, the interfaces it was given are destroyed. -/
def createInstance (env : Environment) (layers : List ApiLayerInterface) (info : XrInstanceCreateInfo) :
    Loader (XrResult × Option LoaderInstance) :=
  match arrayNames info.enabledExtensionCount info.enabledExtensionNames with
  | none => undefinedBehaviour
  | some names => do
    let reply ← createChained env layers info names
    if xrFailed reply.result then
      ApiLayerInterface.destroyInterfaces layers
      return (reply.result, none)
    let loaderInstance ← construct env (reply.handle.getD xrNullHandle) names layers
    return (reply.result, some loaderInstance)

def extensionIsEnabled (loaderInstance : LoaderInstance) (extension : StdString) : Bool :=
  loaderInstance.enabledExtensions.contains extension

def termGetInstanceProcAddr (env : Environment) (inst : XrInstance) (name : Command) :
    Loader GipaReply := do
  if hasTerminator name then return ⟨xrSuccess, some (.term name)⟩
  let rt ← RuntimeInterface.getRuntime
  let reply ← ask fun t => env.getInstanceProcAddr t rt.getInstanceProcAddr inst name
  return ⟨reply.result, some (reply.function.getD .null)⟩

/-- `GetInstanceProcAddr`: the question goes to the topmost function. -/
def getInstanceProcAddr (loaderInstance : LoaderInstance) (env : Environment) (name : Command) :
    Loader GipaReply :=
  match loaderInstance.topmostGipa with
  | .term .getInstanceProcAddr => termGetInstanceProcAddr env loaderInstance.runtimeInstance name
  | .foreign f => ask fun t => env.getInstanceProcAddr t f loaderInstance.runtimeInstance name
  | _ => undefinedBehaviour

def destroy (loaderInstance : LoaderInstance) : Loader PUnit :=
  ApiLayerInterface.destroyInterfaces loaderInstance.apiLayerInterfaces

end LoaderInstance

/-! ## The active instance -/

namespace ActiveLoaderInstance

def set (loaderInstance : LoaderInstance) : Loader XrResult := do
  if (← get).activeInstance.isSome then
    loaderInstance.destroy
    return xrErrorLimitReached
  modify fun w => { w with activeInstance := some loaderInstance }
  return xrSuccess

/-- `Get`: the instance, or XR_ERROR_HANDLE_INVALID through the caller. -/
def active : Loader (Option LoaderInstance) := do
  return (← get).activeInstance

def isAvailable : Loader Bool := do
  return (← get).activeInstance.isSome

def remove : Loader PUnit := do
  match (← get).activeInstance with
  | none => return ⟨⟩
  | some loaderInstance =>
    modify fun w => { w with activeInstance := none }
    loaderInstance.destroy

def setDefaultDebugUtilsMessenger (messenger : XrDebugUtilsMessengerEXT) : Loader PUnit :=
  modify fun w => { w with
    activeInstance := w.activeInstance.map fun inst => { inst with messenger } }

end ActiveLoaderInstance

/-! ## What the chain of create calls can do -/

namespace LoaderInstance

open World

variable (env : Environment)

theorem checkExtensions_within {r : World → World → Prop} [IsPreorder World r]
    (layers : List ApiLayerInterface) (names : List StdString) :
    Within r isUndefined (checkExtensions layers names) := by
  unfold checkExtensions
  refine (Within.pure _).ite (RuntimeInterface.getRuntime_within.bind fun rt => ?_)
  exact (Within.pure _).ite (Within.pure _)

theorem checkExtensions_run (layers : List ApiLayerInterface) (names : List StdString) {w : World}
    {rt : RuntimeInterface} (hruntime : w.runtime = some rt) : checkExtensions layers names w =
      .ok (if names.all (isSupported rt layers) then xrSuccess else xrErrorExtensionNotPresent) w := by
  unfold checkExtensions
  by_cases hnil : names = []
  · rw [if_pos hnil, hnil]
    rfl
  · rw [if_neg hnil, bind_of_ok (RuntimeInterface.getRuntime_of_some hruntime)]
    split_ifs <;> rfl

theorem modifiedCreateInfo_within {r : World → World → Prop} [IsPreorder World r]
    (info : XrInstanceCreateInfo) (names : List StdString) :
    Within r isUndefined (modifiedCreateInfo info names) := by
  unfold modifiedCreateInfo
  exact (Within.pure _).ite (RuntimeInterface.getRuntime_within.bind fun rt => Within.pure _)

section Chaining
variable {r : World → World → Prop} [IsPreorder World r] (htick : ∀ w : World, r w w.tick)
  (hterm : ∀ call, Within r isUndefined (terminate env call))
include htick hterm

theorem callChain_within (layers : List ApiLayerInterface) (info : XrInstanceCreateInfo) :
    Within r isUndefined (callChain env layers info) := by
  refine (hterm _).ite ?_
  unfold callCreateApiLayerInstance
  split
  · exact hterm _
  · exact askTree_within htick (fun _ => CallTree.calls_of_forall (fun _ => trivial) _)
      fun c _ => hterm c
  · exact undefinedBehaviour_within

theorem createChained_within (layers : List ApiLayerInterface) (info : XrInstanceCreateInfo)
    (names : List StdString) : Within r isUndefined (createChained env layers info names) := by
  unfold createChained
  refine (checkExtensions_within layers names).bind fun result => ?_
  split_ifs
  · exact Within.pure _
  · exact (modifiedCreateInfo_within info names).bind fun info =>
      callChain_within env htick hterm layers info

end Chaining

theorem createChained_keepsLoaded (layers : List ApiLayerInterface) (info : XrInstanceCreateInfo)
    (names : List StdString) : Within KeepsLoaded isUndefined (createChained env layers info names) :=
  createChained_within env keepsLoaded_frame.tick (terminate_keepsLoaded env) layers info names

theorem populateDispatchTable_later (gipa : Pfn) (inst : XrInstance) :
    Within Later isUndefined (populateDispatchTable env gipa inst) := by
  unfold populateDispatchTable
  split
  · exact RuntimeInterface.getRuntime_within.bind fun rt => (ask_later _).bind fun _ =>
      Within.pure _
  · exact ask_later _
  · exact undefinedBehaviour_within

/-- Either the chain fails and the interfaces go, or there is an instance for the handle. -/
theorem createInstance_cases {env : Environment} {layers : List ApiLayerInterface}
    {info : XrInstanceCreateInfo} {w w' : World} {result : XrResult} {created : Option LoaderInstance}
    (h : createInstance env layers info w = .ok (result, created) w') :
    ∃ names reply w₁, arrayNames info.enabledExtensionCount info.enabledExtensionNames = some names ∧
      createChained env layers info names w = .ok reply w₁ ∧ result = reply.result ∧
      (xrFailed result ∧ created = none ∧
          ApiLayerInterface.destroyInterfaces layers w₁ = .ok ⟨⟩ w' ∨
        xrSucceeded result ∧ ∃ table,
          populateDispatchTable env (topmostGipaOf layers) (reply.handle.getD xrNullHandle) w₁ =
            .ok table w' ∧
          created = some (new (reply.handle.getD xrNullHandle) names layers table)) := by
  unfold createInstance at h
  cases hn : arrayNames info.enabledExtensionCount info.enabledExtensionNames with
  | none =>
    simp only [hn] at h
    cases h
  | some names =>
    simp only [hn] at h
    obtain ⟨reply, w₁, hchain, h⟩ := bind_eq_ok.mp h
    refine ⟨names, reply, w₁, rfl, hchain, ?_⟩
    by_cases hfail : xrFailed reply.result
    · rw [if_pos hfail] at h
      obtain ⟨_, w₂, hd, h⟩ := bind_eq_ok.mp h
      cases h
      exact ⟨rfl, Or.inl ⟨hfail, rfl, hd⟩⟩
    · rw [if_neg hfail] at h
      obtain ⟨inst, w₂, hc, h⟩ := bind_eq_ok.mp h
      cases h
      obtain ⟨table, w₃, ht, hc⟩ := bind_eq_ok.mp hc
      cases hc
      exact ⟨rfl, Or.inr ⟨not_xrFailed.mp hfail, table, ht, rfl⟩⟩

theorem destroyInterfaces_faults (layers : List ApiLayerInterface) :
    Within Anything isUndefined (ApiLayerInterface.destroyInterfaces layers) :=
  Within.forM (fun _ => Within.modify fun _ => trivial) layers

theorem createInstance_faults (env : Environment) (layers : List ApiLayerInterface)
    (info : XrInstanceCreateInfo) : Within Anything isUndefined (createInstance env layers info) := by
  unfold createInstance
  split
  · exact undefinedBehaviour_within
  refine (createChained_keepsLoaded env layers info _).forget.bind fun reply => ?_
  split_ifs
  · exact (destroyInterfaces_faults layers).bind fun _ => Within.pure _
  · exact Within.bind ((populateDispatchTable_later env _ _).forget.bind fun _ => Within.pure _)
      fun _ => Within.pure _

end LoaderInstance
end OpenXRSdk
