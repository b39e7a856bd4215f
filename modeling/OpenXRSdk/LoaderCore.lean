import OpenXRSdk.LoaderInstance
import OpenXRSdk.LayerLoading

/-!
# The functions the application calls

The trampolines of the loader. A call of any of them is one step of the loader, taken in
surroundings of its own.
-/
namespace OpenXRSdk.LoaderCore

open StateProgram

/-! ## Before there is an instance -/

/-- `initialize`, and what it changes even where it throws. -/
def initializeInitData (env : Environment) (info : List LoaderInitInfo) : Loader XrResult := do
  let answers ← ask env.android
  let w ← get
  let (result, overrides, initData) :=
    w.initData.initializeFrom env.requiresPlatformInit answers w.overrides info
  modify fun w => { w with
    overrides := overrides
    initData := initData }
  match result with
  | .ok result => return result
  | .error fault => throw fault

/-- `LoaderXrInitializeLoaderKHR`, for a chain of structures that is empty when it is null. -/
def initializeLoader (env : Environment) (info : List LoaderInitInfo) : Loader XrResult :=
  abiTry xrErrorRuntimeFailure do
    if ← ActiveLoaderInstance.isAvailable then return xrErrorInitializationFailed
    RuntimeInterface.unloadRuntime
    initializeInitData env info

def enumerateApiLayerProperties (env : Environment) (capacity : ℕ) (count : Bool)
    (types : Option (List ℕ)) : Loader (XrResult × Option ℕ × List XrApiLayerProperties) :=
  abiTry (xrErrorRuntimeFailure, none, [])
    (ApiLayerInterface.getApiLayerProperties env capacity count types)

/-- The first extension of this name gets the version of the loader if it is newer. -/
def raiseVersion (loaderProp : XrExtensionProperties) :
    List XrExtensionProperties → List XrExtensionProperties
  | [] => []
  | prop :: props =>
    if prop.extensionName = loaderProp.extensionName then
      { prop with extensionVersion := max prop.extensionVersion loaderProp.extensionVersion } :: props
    else prop :: raiseVersion loaderProp props

def addLoaderExtension (props : List XrExtensionProperties) (loaderProp : XrExtensionProperties) :
    List XrExtensionProperties :=
  if props.any (·.extensionName = loaderProp.extensionName) then raiseVersion loaderProp props
  else props ++ [loaderProp]

def collectExtensions (env : Environment) (layerName : Option StdString) :
    Loader (XrResult × List XrExtensionProperties) := do
  let (result, props) ← ApiLayerInterface.getInstanceExtensionProperties env layerName
  if xrFailed result ∨ layerName.isSome then return (result, props)
  let result ← RuntimeInterface.loadRuntime env
  if xrFailed result then return (result, props)
  return (result, ← RuntimeInterface.getInstanceExtensionProperties env props)

/-- The list that xrEnumerateInstanceExtensionProperties reports from. -/
def extensionProperties (env : Environment) (layerName : Option StdString) :
    Loader (XrResult × List XrExtensionProperties) := do
  let (result, props) ← collectExtensions env layerName
  if xrFailed result ∨ layerName.isSome then return (result, props)
  else return (result, LoaderInstance.loaderSpecificExtensions.foldl addLoaderExtension props)

def xrTypeExtensionProperties : ℕ := 2

/-- The second half of a two-call query: the result, the count written and the entries
written. Nothing is written from the first entry of a wrong type on. -/
def outputExtensions (props : List XrExtensionProperties) (capacity : ℕ) (types : Option (List ℕ)) :
    XrResult × Option ℕ × List XrExtensionProperties :=
  let count := props.length % 2 ^ 32
  if capacity = 0 then (xrSuccess, some count, [])
  else
    match types with
    | none => (xrErrorValidationFailure, none, [])
    | some types =>
      if capacity < count then (xrErrorSizeInsufficient, some count, [])
      else
        let valid := (types.take count).takeWhile (· = xrTypeExtensionProperties)
        if valid.length < count then (xrErrorValidationFailure, none, props.take valid.length)
        else (xrSuccess, some count, props.take count)

/-- `LoaderXrEnumerateInstanceExtensionProperties`. The layer name may be null. -/
def enumerateInstanceExtensionProperties (env : Environment) (layerName : Option StdString)
    (capacity : ℕ) (count : Bool) (types : Option (List ℕ)) :
    Loader (XrResult × Option ℕ × List XrExtensionProperties) :=
  abiTry (xrErrorRuntimeFailure, none, []) do
    if !count then return (xrErrorValidationFailure, none, [])
    let (result, props) ← extensionProperties env (layerName.filter (!·.isEmpty))
    if xrFailed result then return (result, none, [])
    return outputExtensions props capacity types

/-! ## Messengers -/

def createDebugUtilsMessenger (env : Environment) (inst : XrInstance)
    (createInfo : XrDebugUtilsMessengerCreateInfoEXT) (messenger : Bool) : Loader Reply := do
  if inst = xrNullHandle then return ⟨xrErrorHandleInvalid, none⟩
  match ← ActiveLoaderInstance.active with
  | none => return ⟨xrErrorHandleInvalid, none⟩
  | some loaderInstance =>
    callFunction env (loaderInstance.dispatchTable .createDebugUtilsMessengerEXT)
      (.createDebugUtilsMessengerEXT inst createInfo messenger)

def destroyDebugUtilsMessenger (env : Environment) (messenger : XrDebugUtilsMessengerEXT) :
    Loader Reply := do
  if messenger = xrNullHandle then return ⟨xrErrorHandleInvalid, none⟩
  match ← ActiveLoaderInstance.active with
  | none => return ⟨xrErrorHandleInvalid, none⟩
  | some loaderInstance =>
    callFunction env (loaderInstance.dispatchTable .destroyDebugUtilsMessengerEXT)
      (.destroyDebugUtilsMessengerEXT messenger)

/-! ## The life of an instance -/

def isApiVersionUnsupported (apiVersion : ℕ) : Bool :=
  xrVersionMajor xrCurrentApiVersion < xrVersionMajor apiVersion ||
    (xrVersionMajor apiVersion = xrVersionMajor xrCurrentApiVersion &&
      xrVersionMinor xrCurrentApiVersion < xrVersionMinor apiVersion)

def loadRuntimeAndLayers (env : Environment) (info : XrInstanceCreateInfo) :
    Loader (XrResult × List ApiLayerInterface) := do
  let result ← RuntimeInterface.loadRuntime env
  if xrFailed result then return (result, [])
  ApiLayerInterface.loadApiLayers env info.enabledApiLayerCount info.enabledApiLayerNames

/-- Create the instance and make it active: the result, and what is left in the vector of
interfaces. -/
def createActiveInstance (env : Environment) (info : XrInstanceCreateInfo) :
    Loader (XrResult × List ApiLayerInterface) := do
  let (result, layers) ← loadRuntimeAndLayers env info
  if xrFailed result then return (result, layers)
  let (result, loaderInstance) ← LoaderInstance.createInstance env layers info
  match loaderInstance with
  | none => return (result, [])
  | some loaderInstance => return (← ActiveLoaderInstance.set loaderInstance, [])

def messengerCreateInfo : List CreateInfoExtension → Option XrDebugUtilsMessengerCreateInfoEXT
  | [] => none
  | .debugUtilsMessenger createInfo :: _ => some createInfo
  | .other _ :: next => messengerCreateInfo next

/-- The messenger of the `next` chain, for the instance that was just made active. -/
def createDefaultMessenger (env : Environment) (createInfo : XrDebugUtilsMessengerCreateInfoEXT)
    (inst : XrInstance) : Loader Reply := do
  let reply ← createDebugUtilsMessenger env inst createInfo true
  if xrFailed reply.result then return ⟨xrErrorValidationFailure, none⟩
  match reply.handle with
  | none => undefinedBehaviour
  | some messenger =>
    ActiveLoaderInstance.setDefaultDebugUtilsMessenger messenger
    return ⟨reply.result, some inst⟩

/-- What happens under the lock, once no instance is active. A messenger that cannot be
created ends the call where it stands. -/
def createWithoutActive (env : Environment) (info : XrInstanceCreateInfo) : Loader Reply := do
  let (result, layers) ← createActiveInstance env info
  if xrFailed result then
    ActiveLoaderInstance.remove
    RuntimeInterface.unloadRuntime
    ApiLayerInterface.destroyInterfaces layers
    return ⟨result, none⟩
  match ← ActiveLoaderInstance.active with
  | none => undefinedBehaviour
  | some loaderInstance =>
    match messengerCreateInfo info.next with
    | none => return ⟨result, some loaderInstance.runtimeInstance⟩
    | some createInfo => createDefaultMessenger env createInfo loaderInstance.runtimeInstance

/-- `LoaderXrCreateInstance`; `inst` is whether the pointer for the handle is not null. -/
def createInstance (env : Environment) (info : Option XrInstanceCreateInfo) (inst : Bool) : Loader Reply :=
  abiTry ⟨xrErrorRuntimeFailure, none⟩
    (match info with
    | none => return ⟨xrErrorValidationFailure, none⟩
    | some info => do
      if isApiVersionUnsupported info.applicationInfo.apiVersion then
        return ⟨xrErrorApiVersionUnsupported, none⟩
      if !inst then return ⟨xrErrorValidationFailure, none⟩
      if ← ActiveLoaderInstance.isAvailable then return ⟨xrErrorLimitReached, none⟩
      createWithoutActive env info)

/-- "If we allocated a default debug utils messenger, free it". -/
def destroyDefaultMessenger (env : Environment) (loaderInstance : LoaderInstance) : Loader PUnit := do
  if loaderInstance.messenger ≠ xrNullHandle then
    let _ ← destroyDebugUtilsMessenger env loaderInstance.messenger

/-- `LoaderXrDestroyInstance`. The handle is only compared with null. -/
def destroyInstance (env : Environment) (inst : XrInstance) : Loader XrResult := do
  if inst = xrNullHandle then return xrErrorHandleInvalid
  match ← ActiveLoaderInstance.active with
  | none => return xrErrorHandleInvalid
  | some loaderInstance =>
    destroyDefaultMessenger env loaderInstance
    let _ ← callFunction env (loaderInstance.dispatchTable .destroyInstance) (.destroyInstance inst)
    ActiveLoaderInstance.remove
    RuntimeInterface.unloadRuntime
    return xrSuccess

/-! ## Labels, names and messages -/

/-- Change the stored labels, and hand the call down if there is a function for it. -/
def forwardLabel (env : Environment) (loaderInstance : LoaderInstance)
    (change : DebugUtilsData → DebugUtilsData) (call : DownCall) : Loader XrResult := do
  modifyLogger fun logger => { logger with data := change logger.data }
  if loaderInstance.dispatchTable call.command = .null then return xrSuccess
  callDownFunction env (loaderInstance.dispatchTable call.command) call

def sessionBeginDebugUtilsLabelRegion (env : Environment) (session : XrSession)
    (labelInfo : Option XrDebugUtilsLabelEXT) : Loader XrResult := do
  if session = xrNullHandle then return xrErrorHandleInvalid
  match labelInfo with
  | none => return xrErrorValidationFailure
  | some labelInfo =>
    match ← ActiveLoaderInstance.active with
    | none => return xrErrorHandleInvalid
    | some loaderInstance =>
      forwardLabel env loaderInstance (DebugUtilsData.beginLabelRegion session labelInfo)
        (.beginDebugUtilsLabelRegionEXT session labelInfo)

def sessionEndDebugUtilsLabelRegion (env : Environment) (session : XrSession) : Loader XrResult := do
  if session = xrNullHandle then return xrErrorHandleInvalid
  match ← ActiveLoaderInstance.active with
  | none => return xrErrorHandleInvalid
  | some loaderInstance =>
    forwardLabel env loaderInstance (DebugUtilsData.endLabelRegion session)
      (.endDebugUtilsLabelRegionEXT session)

/-- `LoaderTrampolineSessionInsertDebugUtilsLabelEXT`, which asks for an instance before it
looks at the label. -/
def sessionInsertDebugUtilsLabel (env : Environment) (session : XrSession)
    (labelInfo : Option XrDebugUtilsLabelEXT) : Loader XrResult := do
  if session = xrNullHandle then return xrErrorHandleInvalid
  match ← ActiveLoaderInstance.active with
  | none => return xrErrorHandleInvalid
  | some loaderInstance =>
    match labelInfo with
    | none => return xrErrorValidationFailure
    | some labelInfo =>
      forwardLabel env loaderInstance (DebugUtilsData.insertLabel session labelInfo)
        (.insertDebugUtilsLabelEXT session labelInfo)

/-- The active instance's function for a command with a terminator. -/
def callActive (env : Environment) (call : TermCall) : Loader XrResult := do
  match ← ActiveLoaderInstance.active with
  | none => return xrErrorHandleInvalid
  | some loaderInstance =>
    let reply ← callFunction env (loaderInstance.dispatchTable call.command) call
    return reply.result

def setDebugUtilsObjectName (env : Environment) (inst : XrInstance)
    (nameInfo : XrDebugUtilsObjectNameInfoEXT) : Loader XrResult :=
  callActive env (.setDebugUtilsObjectNameEXT inst nameInfo)

def submitDebugUtilsMessage (env : Environment) (inst : XrInstance)
    (messageSeverity messageTypes : UInt64) : Loader XrResult :=
  callActive env (.submitDebugUtilsMessageEXT inst messageSeverity messageTypes)

/-- The generated trampolines, xrDestroySession among them. -/
def callGenerated (env : Environment) (call : DownCall) : Loader XrResult := do
  match ← ActiveLoaderInstance.active with
  | none => return xrErrorHandleInvalid
  | some loaderInstance => callDownFunction env (loaderInstance.dispatchTable call.command) call

/-! ## Functions by name -/

def isDebugUtilsCommand : Command → Bool
  | .createDebugUtilsMessengerEXT => true
  | .destroyDebugUtilsMessengerEXT => true
  | .sessionBeginDebugUtilsLabelRegionEXT => true
  | .sessionEndDebugUtilsLabelRegionEXT => true
  | .sessionInsertDebugUtilsLabelEXT => true
  | .setDebugUtilsObjectNameEXT => true
  | .submitDebugUtilsMessageEXT => true
  | _ => false

def isGlobalCommand : Command → Bool
  | .initializeLoaderKHR => true
  | .enumerateApiLayerProperties => true
  | .enumerateInstanceExtensionProperties => true
  | .createInstance => true
  | _ => false

/-- `LoaderXrGetInstanceProcAddr`. The name and the pointer for the function may be null. -/
def getInstanceProcAddr (env : Environment) (inst : XrInstance) (name : Option Command)
    (function : Bool) : Loader GipaReply := do
  if !function then return ⟨xrErrorValidationFailure, none⟩
  match name with
  | none => return ⟨xrErrorValidationFailure, none⟩
  | some name =>
    let active ← ActiveLoaderInstance.active
    if inst ≠ xrNullHandle ∧ active.map (·.runtimeInstance) ≠ some inst then
      return ⟨xrErrorHandleInvalid, some .null⟩
    if isGlobalCommand name then return ⟨xrSuccess, some (.trampoline name)⟩
    match if inst = xrNullHandle then none else active with
    | none => return ⟨xrErrorHandleInvalid, some .null⟩
    | some loaderInstance =>
      if name = .getInstanceProcAddr ∨ name = .destroyInstance then
        return ⟨xrSuccess, some (.trampoline name)⟩
      if isDebugUtilsCommand name then
        if loaderInstance.extensionIsEnabled "XR_EXT_debug_utils".toList then
          return ⟨xrSuccess, some (.trampoline name)⟩
        return ⟨xrErrorFunctionUnsupported, some .null⟩
      loaderInstance.getInstanceProcAddr env name

/-! ## Calls -/

inductive Call
  | initializeLoader (info : List LoaderInitInfo)
  | enumerateApiLayerProperties (capacity : ℕ) (count : Bool) (types : Option (List ℕ))
  | enumerateInstanceExtensionProperties (layerName : Option StdString) (capacity : ℕ) (count : Bool)
      (types : Option (List ℕ))
  | createInstance (info : Option XrInstanceCreateInfo) (inst : Bool)
  | destroyInstance (inst : XrInstance)
  | createDebugUtilsMessenger (inst : XrInstance) (createInfo : XrDebugUtilsMessengerCreateInfoEXT)
      (messenger : Bool)
  | destroyDebugUtilsMessenger (messenger : XrDebugUtilsMessengerEXT)
  | beginLabelRegion (session : XrSession) (labelInfo : Option XrDebugUtilsLabelEXT)
  | endLabelRegion (session : XrSession)
  | insertLabel (session : XrSession) (labelInfo : Option XrDebugUtilsLabelEXT)
  | setObjectName (inst : XrInstance) (nameInfo : XrDebugUtilsObjectNameInfoEXT)
  | submitMessage (inst : XrInstance) (messageSeverity messageTypes : UInt64)
  | destroySession (session : XrSession)
  /-- Any other generated trampoline. -/
  | other (number : ℕ)
  | getInstanceProcAddr (inst : XrInstance) (name : Option Command) (function : Bool)

def replyOf {α : Type} (result : α → XrResult) (x : Loader α) : Loader Reply := do
  return ⟨result (← x), none⟩

def perform (env : Environment) : Call → Loader Reply
  | .initializeLoader info => replyOf id (initializeLoader env info)
  | .enumerateApiLayerProperties capacity count types =>
    replyOf (·.1) (enumerateApiLayerProperties env capacity count types)
  | .enumerateInstanceExtensionProperties layerName capacity count types =>
    replyOf (·.1) (enumerateInstanceExtensionProperties env layerName capacity count types)
  | .createInstance info inst => createInstance env info inst
  | .destroyInstance inst => replyOf id (destroyInstance env inst)
  | .createDebugUtilsMessenger inst createInfo messenger =>
    createDebugUtilsMessenger env inst createInfo messenger
  | .destroyDebugUtilsMessenger messenger => destroyDebugUtilsMessenger env messenger
  | .beginLabelRegion session labelInfo =>
    replyOf id (sessionBeginDebugUtilsLabelRegion env session labelInfo)
  | .endLabelRegion session => replyOf id (sessionEndDebugUtilsLabelRegion env session)
  | .insertLabel session labelInfo => replyOf id (sessionInsertDebugUtilsLabel env session labelInfo)
  | .setObjectName inst nameInfo => replyOf id (setDebugUtilsObjectName env inst nameInfo)
  | .submitMessage inst messageSeverity messageTypes =>
    replyOf id (submitDebugUtilsMessage env inst messageSeverity messageTypes)
  | .destroySession session => replyOf id (callGenerated env (.destroySession session))
  | .other number => replyOf id (callGenerated env (.other number))
  | .getInstanceProcAddr inst name function =>
    replyOf (·.result) (getInstanceProcAddr env inst name function)

/-- A call that returned, with the surroundings it was made in. -/
structure Event where
  env : Environment
  call : Call
  reply : Reply

def Step (w : World) (e : Event) (w' : World) : Prop := perform e.env e.call w = .ok e.reply w'

def replyAfter (env : Environment) (call : Call) (w : World) : Option Reply :=
  match perform env call w with
  | .ok reply _ => some reply
  | .error _ _ => none

def worldAfter (env : Environment) (call : Call) (w : World) : World :=
  match perform env call w with
  | .ok _ w' => w'
  | .error _ w' => w'

theorem step_iff {w w' : World} {e : Event} :
    Step w e w' ↔ replyAfter e.env e.call w = some e.reply ∧ worldAfter e.env e.call w = w' := by
  unfold Step replyAfter worldAfter
  cases perform e.env e.call w with
  | ok reply t => simp
  | error fault t => simp

theorem replyOf_eq_ok {α : Type} {result : α → XrResult} {x : Loader α} {w w' : World} {reply : Reply} :
    replyOf result x w = .ok reply w' ↔ ∃ a, x w = .ok a w' ∧ reply = ⟨result a, none⟩ := by
  unfold replyOf
  rw [bind_eq_ok]
  constructor
  · rintro ⟨a, t, hx, h⟩
    cases h
    exact ⟨a, hx, rfl⟩
  · rintro ⟨a, hx, rfl⟩
    exact ⟨a, w', hx, rfl⟩

/-! ## Calls that only go through the table of the active instance -/

/-- The calls that load a runtime, create an instance or destroy one. -/
def Call.isLifecycle : Call → Bool
  | .initializeLoader _ => true
  | .enumerateApiLayerProperties _ _ _ => true
  | .enumerateInstanceExtensionProperties _ _ _ _ => true
  | .createInstance _ _ => true
  | .destroyInstance _ => true
  | _ => false

theorem active_within {r : World → World → Prop} [IsPreorder World r] :
    Within r isUndefined ActiveLoaderInstance.active := Within.get.bind fun _ => Within.pure _

def Call.isLabel : Call → Bool
  | .beginLabelRegion _ _ => true
  | .endLabelRegion _ => true
  | .insertLabel _ _ => true
  | _ => false

/-- A relation that holds across the calls of a layer, the creation and the destruction of an
instance apart. -/
structure CallsWithin (r : World → World → Prop) (env : Environment) : Prop where
  tick : ∀ w : World, r w w.tick
  call : ∀ f call, call.changesTables = false → Within r isUndefined (callFunction env f call)
  callDown : ∀ f call, Within r isUndefined (callDownFunction env f call)

/-- The relation allows changes of the stored names and labels. -/
def AllowsData (r : World → World → Prop) : Prop :=
  ∀ (w : World) data, r w { w with logger := { w.logger with data := data } }

namespace CallsWithin

variable {r : World → World → Prop} [IsPreorder World r] {env : Environment} (h : CallsWithin r env)
include h

theorem createDebugUtilsMessenger (inst : XrInstance) (createInfo : XrDebugUtilsMessengerCreateInfoEXT)
    (messenger : Bool) :
    Within r isUndefined (createDebugUtilsMessenger env inst createInfo messenger) := by
  refine (Within.pure _).ite (active_within.bind fun active => ?_)
  cases active with
  | none => exact Within.pure _
  | some loaderInstance => exact h.call _ _ rfl

theorem destroyDebugUtilsMessenger (messenger : XrDebugUtilsMessengerEXT) :
    Within r isUndefined (destroyDebugUtilsMessenger env messenger) := by
  refine (Within.pure _).ite (active_within.bind fun active => ?_)
  cases active with
  | none => exact Within.pure _
  | some loaderInstance => exact h.call _ _ rfl

theorem forwardLabel (hd : AllowsData r) (loaderInstance : LoaderInstance)
    (change : DebugUtilsData → DebugUtilsData) (call : DownCall) :
    Within r isUndefined (forwardLabel env loaderInstance change call) :=
  Within.bind (Within.modify fun w => hd w _) fun _ => (Within.pure _).ite (h.callDown _ _)

theorem sessionBeginDebugUtilsLabelRegion (hd : AllowsData r) (session : XrSession)
    (labelInfo : Option XrDebugUtilsLabelEXT) :
    Within r isUndefined (sessionBeginDebugUtilsLabelRegion env session labelInfo) := by
  refine (Within.pure _).ite ?_
  cases labelInfo with
  | none => exact Within.pure _
  | some labelInfo =>
    refine active_within.bind fun active => ?_
    cases active with
    | none => exact Within.pure _
    | some loaderInstance => exact h.forwardLabel hd _ _ _

theorem sessionEndDebugUtilsLabelRegion (hd : AllowsData r) (session : XrSession) :
    Within r isUndefined (sessionEndDebugUtilsLabelRegion env session) := by
  refine (Within.pure _).ite (active_within.bind fun active => ?_)
  cases active with
  | none => exact Within.pure _
  | some loaderInstance => exact h.forwardLabel hd _ _ _

theorem sessionInsertDebugUtilsLabel (hd : AllowsData r) (session : XrSession)
    (labelInfo : Option XrDebugUtilsLabelEXT) :
    Within r isUndefined (sessionInsertDebugUtilsLabel env session labelInfo) := by
  refine (Within.pure _).ite (active_within.bind fun active => ?_)
  cases active with
  | none => exact Within.pure _
  | some loaderInstance =>
    cases labelInfo with
    | none => exact Within.pure _
    | some labelInfo => exact h.forwardLabel hd _ _ _

theorem callActive {call : TermCall} (hc : call.changesTables = false) :
    Within r isUndefined (callActive env call) := by
  refine active_within.bind fun active => ?_
  cases active with
  | none => exact Within.pure _
  | some loaderInstance => exact (h.call _ _ hc).bind fun _ => Within.pure _

theorem callGenerated (call : DownCall) : Within r isUndefined (callGenerated env call) := by
  refine active_within.bind fun active => ?_
  cases active with
  | none => exact Within.pure _
  | some loaderInstance => exact h.callDown _ _

theorem getInstanceProcAddr (inst : XrInstance) (name : Option Command) (function : Bool) :
    Within r isUndefined (getInstanceProcAddr env inst name function) := by
  have hask {α : Type} (answer : ℕ → α) : Within r isUndefined (ask answer) := within_ask h.tick answer
  refine (Within.pure _).ite ?_
  cases name with
  | none => exact Within.pure _
  | some name =>
    refine active_within.bind fun active => (Within.pure _).ite ((Within.pure _).ite ?_)
    cases if inst = xrNullHandle then none else active with
    | none => exact Within.pure _
    | some loaderInstance =>
      refine (Within.pure _).ite ((Within.ite (Within.pure _) (Within.pure _)).ite ?_)
      unfold LoaderInstance.getInstanceProcAddr
      split
      · exact (Within.pure _).ite (RuntimeInterface.getRuntime_within.bind fun rt =>
          (hask _).bind fun _ => Within.pure _)
      · exact hask _
      · exact undefinedBehaviour_within

omit h in
theorem replyOf {α : Type} {result : α → XrResult} {x : Loader α} (hx : Within r isUndefined x) :
    Within r isUndefined (replyOf result x) := hx.bind fun _ => Within.pure _

theorem perform {call : Call} (hc : call.isLifecycle = false)
    (hd : call.isLabel = true → AllowsData r) : Within r isUndefined (perform env call) := by
  cases call with
  | createDebugUtilsMessenger inst info messenger => exact h.createDebugUtilsMessenger inst info messenger
  | destroyDebugUtilsMessenger messenger => exact h.destroyDebugUtilsMessenger messenger
  | beginLabelRegion session label =>
    exact replyOf (h.sessionBeginDebugUtilsLabelRegion (hd rfl) session label)
  | endLabelRegion session => exact replyOf (h.sessionEndDebugUtilsLabelRegion (hd rfl) session)
  | insertLabel session label =>
    exact replyOf (h.sessionInsertDebugUtilsLabel (hd rfl) session label)
  | setObjectName inst info => exact replyOf (h.callActive rfl)
  | submitMessage inst severity types => exact replyOf (h.callActive rfl)
  | destroySession session => exact replyOf (h.callGenerated _)
  | other number => exact replyOf (h.callGenerated _)
  | getInstanceProcAddr inst name function => exact replyOf (h.getInstanceProcAddr inst name function)
  | _ => cases hc

end CallsWithin

theorem keepsLoaded_calls (env : Environment) : CallsWithin World.KeepsLoaded env where
  tick := keepsLoaded_frame.tick
  call f call _ := callFunction_keepsLoaded env f call
  callDown := callDownFunction_keepsLoaded env

theorem keepsLoaded_data : AllowsData World.KeepsLoaded := fun _ _ => ⟨rfl, rfl, rfl, rfl, rfl⟩

end OpenXRSdk.LoaderCore
