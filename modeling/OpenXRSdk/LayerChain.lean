import OpenXRSdk.LayerOrder

/-!
# The array behind the chain of create calls

The loader fills the array of `XrApiLayerNextInfo` from its end, with an index that runs
down and three saved pointers. Against it stands the list of descriptions that the layers
get.
-/
namespace OpenXRSdk

open StateProgram

/-! ## Character arrays -/

structure CharArray (size : ℕ) where
  chars : List Char
  length_eq : chars.length = size

namespace CharArray
variable {size : ℕ}

/-- `strncpy` of `src.c_str()`: NUL characters make up the count. -/
def strncpy (dst : CharArray size) (src : StdString) (count : ℕ) (h : count ≤ size) :
    CharArray size where
  chars := ((cString src).take count).rightpad count '\x00' ++ dst.chars.drop count
  length_eq := by
    rw [List.length_append, List.length_rightpad, List.length_drop, dst.length_eq]
    have := List.length_take_le count (cString src)
    omega

def set (array : CharArray size) (index : ℕ) (c : Char) : CharArray size where
  chars := array.chars.set index c
  length_eq := by rw [List.length_set, array.length_eq]

/-- The copy that is cut off by a NUL character in the last place. -/
def copyName (dst : CharArray size) (src : StdString) : CharArray size :=
  (dst.strncpy src (size - 1) (Nat.sub_le size 1)).set (size - 1) '\x00'

theorem copyName_chars (dst : CharArray size) (src : StdString) (h : 0 < size) :
    ∃ k, (dst.copyName src).chars = boundedCopy size src ++ List.replicate (k + 1) '\x00' ∧
      (boundedCopy size src).length + k = size - 1 := by
  have hlength : (boundedCopy size src).length ≤ size - 1 := List.length_take_le _ _
  obtain ⟨c, hlast⟩ : ∃ c, dst.chars.drop (size - 1) = [c] := by
    rw [← List.length_eq_one_iff, List.length_drop, dst.length_eq]
    omega
  refine ⟨size - 1 - (boundedCopy size src).length, ?_, by omega⟩
  change (((boundedCopy size src).rightpad (size - 1) '\x00' ++ dst.chars.drop (size - 1)).set
    (size - 1) '\x00') = _
  have hpadded : ((boundedCopy size src).rightpad (size - 1) '\x00').length = size - 1 := by
    rw [List.length_rightpad]
    omega
  rw [hlast, List.set_append_right _ _ hpadded.le, hpadded, Nat.sub_self, List.rightpad,
    List.append_assoc, List.replicate_succ']
  rfl

theorem copyName_terminated (dst : CharArray size) (src : StdString) (h : 0 < size) :
    (dst.copyName src).chars[size - 1]? = some '\x00' := by
  obtain ⟨k, hchars, hlength⟩ := dst.copyName_chars src h
  rw [hchars, List.getElem?_append_right (by omega), List.getElem?_replicate]
  exact if_pos (by omega)

theorem cString_copyName (dst : CharArray size) (src : StdString) (h : 0 < size) :
    cString (dst.copyName src).chars = boundedCopy size src := by
  obtain ⟨k, hchars, -⟩ := dst.copyName_chars src h
  have hnul : ∀ c ∈ boundedCopy size src, decide (c ≠ '\x00') = true := by
    intro c hc
    have hmem : c ∈ src.takeWhile (· ≠ '\x00') := List.mem_of_mem_take hc
    exact List.mem_takeWhile_imp (p := fun c => decide (c ≠ '\x00')) hmem
  rw [hchars, cString, List.takeWhile_append_of_pos hnul, List.replicate_succ]
  simp

end CharArray

/-! ## Filling the array -/

/-- `XR_LOADER_INTERFACE_STRUCT_API_LAYER_NEXT_INFO` and its version. -/
def xrLoaderInterfaceStructApiLayerNextInfo : ℕ := 5
def xrApiLayerNextInfoStructVersion : ℕ := 1

/-- `sizeof(XrApiLayerNextInfo)` with pointers of 8 bytes. -/
def sizeofXrApiLayerNextInfo : ℕ := 296

/-- An element of the array; `next` is the index of the element that it points to. -/
structure NextInfoElement where
  structType : ℕ
  structVersion : ℕ
  structSize : ℕ
  layerName : CharArray xrMaxApiLayerNameSize
  nextGetInstanceProcAddr : Pfn
  nextCreateApiLayerInstance : Pfn
  next : Option ℕ

namespace NextInfoElement

def initialise (element : NextInfoElement) : NextInfoElement :=
  { element with
    structType := xrLoaderInterfaceStructApiLayerNextInfo
    structVersion := xrApiLayerNextInfoStructVersion
    structSize := sizeofXrApiLayerNextInfo }

def link (element : NextInfoElement) (layerName : StdString) (next : Option ℕ)
    (nextGetInstanceProcAddr nextCreateApiLayerInstance : Pfn) : NextInfoElement :=
  { element with
    layerName := element.layerName.copyName layerName
    next, nextGetInstanceProcAddr, nextCreateApiLayerInstance }

theorem cString_link (element : NextInfoElement) (layerName : StdString) (next : Option ℕ)
    (gipa cali : Pfn) : cString (element.link layerName next gipa cali).layerName.chars =
      boundedCopy xrMaxApiLayerNameSize layerName :=
  CharArray.cString_copyName _ _ (by decide)

end NextInfoElement

namespace LayerChain

/-- A write through an index; `none` when the index is out of range. -/
def writeAt {α : Type} (array : List α) (index : ℕ) (f : α → α) : Option (List α) :=
  if index < array.length then some (array.modify index f) else none

def decrement (i : ℕ) : ℕ := if i = 0 then 2 ^ 64 - 1 else i - 1

structure LinkState where
  nextInfoList : List NextInfoElement
  niIndex : ℕ
  topmostGipa : Pfn
  topmostCaliFp : Pfn
  topmostNextinfo : Option ℕ

/-- The first loop, over all indices up to `niIndex`. -/
def initialiseAll (nextInfoList : List NextInfoElement) (niIndex : ℕ) : Option (List NextInfoElement) :=
  (List.range (niIndex + 1)).foldlM (fun array i => writeAt array i (·.initialise)) nextInfoList

def linkLayer (s : LinkState) (layer : ApiLayerInterface) : Option LinkState := do
  let nextInfoList ← writeAt s.nextInfoList s.niIndex
    (·.link layer.layerName s.topmostNextinfo s.topmostGipa s.topmostCaliFp)
  return ⟨nextInfoList, decrement s.niIndex, layer.getInstanceProcAddr, layer.createApiLayerInstance,
    some s.niIndex⟩

/-- What CreateInstance makes of the layers, in memory that holds anything. Without layers
there is no array, and the terminators stay the topmost functions. -/
def linkInterfaces (memory : ℕ → NextInfoElement) (layers : List ApiLayerInterface) : Option LinkState :=
  if layers.isEmpty then
    some ⟨[], 0, .term .getInstanceProcAddr, .term .createApiLayerInstance, none⟩
  else do
    let niIndex := layers.length - 1
    let nextInfoList ← initialiseAll ((List.range layers.length).map memory) niIndex
    layers.reverse.foldlM linkLayer
      ⟨nextInfoList, niIndex, .term .getInstanceProcAddr, .term .createApiLayerInstance, none⟩

/-! ## What stands in the array -/

theorem writeAt_eq_some {α : Type} {front back : List α} {a : α} {index : ℕ}
    (h : index = front.length) (f : α → α) :
    writeAt (front ++ a :: back) index f = some (front ++ f a :: back) := by
  subst h
  have hmodify : (front ++ a :: back).modify front.length f = front ++ f a :: back := by
    induction front with
    | nil => rfl
    | cons b front ih => simpa using ih
  unfold writeAt
  rw [if_pos (by simp), hmodify]

theorem initialiseAll_eq (array : List NextInfoElement) :
    ∀ k ≤ array.length, (List.range k).foldlM (fun array i => writeAt array i (·.initialise)) array =
      some ((array.take k).map (·.initialise) ++ array.drop k) := by
  intro k hk
  induction k with
  | zero => simp
  | succ k ih =>
    have hlt : k < array.length := hk
    rw [List.range_succ, List.foldlM_append, ih hlt.le, List.drop_eq_getElem_cons hlt]
    have hlength : k = ((array.take k).map (·.initialise)).length := by simp [hlt.le]
    simp only [Option.bind_eq_bind, Option.bind_some, List.foldlM_cons, List.foldlM_nil]
    rw [writeAt_eq_some hlength, List.take_succ_eq_append_getElem hlt, List.map_append,
      List.append_assoc]
    rfl

/-- The functions that the layer above is linked to, or the caller of the chain calls. -/
def topmostFunctions (layers : List ApiLayerInterface) : Pfn × Pfn :=
  (LoaderInstance.linkLayers layers).2

/-- The elements from `index` on, once they are linked. -/
def linkedFrom (memory : ℕ → NextInfoElement) (index : ℕ) :
    List ApiLayerInterface → List NextInfoElement
  | [] => []
  | layer :: layers =>
    (memory index).initialise.link layer.layerName (if layers = [] then none else some (index + 1))
        (topmostFunctions layers).1 (topmostFunctions layers).2 ::
      linkedFrom memory (index + 1) layers

/-- The variables when the layers from `index` on have been linked. -/
def linkedState (memory : ℕ → NextInfoElement) (index : ℕ) (layers : List ApiLayerInterface) :
    LinkState where
  nextInfoList := (List.range index).map (memory · |>.initialise) ++ linkedFrom memory index layers
  niIndex := decrement index
  topmostGipa := (topmostFunctions layers).1
  topmostCaliFp := (topmostFunctions layers).2
  topmostNextinfo := if layers = [] then none else some index

theorem linkLayer_linkedState (memory : ℕ → NextInfoElement) (index : ℕ) (layer : ApiLayerInterface)
    (layers : List ApiLayerInterface) :
    linkLayer (linkedState memory (index + 1) layers) layer =
      some (linkedState memory index (layer :: layers)) := by
  unfold linkLayer linkedState
  simp only [decrement, Nat.succ_ne_zero, if_false, Nat.add_sub_cancel, List.range_succ, List.map_append,
    List.append_assoc, List.map_cons, List.map_nil, List.singleton_append]
  rw [writeAt_eq_some (by simp)]
  rfl

theorem foldlM_linkLayer (memory : ℕ → NextInfoElement) (layers : List ApiLayerInterface) (index : ℕ) :
    layers.reverse.foldlM linkLayer (linkedState memory (index + layers.length) []) =
      some (linkedState memory index layers) := by
  induction layers generalizing index with
  | nil => rfl
  | cons layer layers ih =>
    have hindex : index + (layer :: layers).length = index + 1 + layers.length := by
      simp only [List.length_cons]
      omega
    rw [List.reverse_cons, List.foldlM_append, hindex, ih, Option.bind_eq_bind, Option.bind_some,
      List.foldlM_cons, linkLayer_linkedState]
    rfl

/-- No index is out of range, and all elements are linked. -/
theorem linkInterfaces_eq (memory : ℕ → NextInfoElement) {layers : List ApiLayerInterface}
    (h : layers ≠ []) : linkInterfaces memory layers = some (linkedState memory 0 layers) := by
  have hpos : 0 < layers.length := List.length_pos_iff.mpr h
  have hinit : initialiseAll ((List.range layers.length).map memory) (layers.length - 1) =
      some ((List.range layers.length).map (memory · |>.initialise)) := by
    unfold initialiseAll
    rw [Nat.sub_add_cancel hpos, initialiseAll_eq _ _ (by simp), List.take_of_length_le (by simp),
      List.drop_of_length_le (by simp), List.map_map, List.append_nil]
    rfl
  have hempty : layers.isEmpty = false := by simpa using h
  have hstart : ⟨(List.range layers.length).map (memory · |>.initialise), layers.length - 1,
      .term .getInstanceProcAddr, .term .createApiLayerInstance, none⟩ =
      linkedState memory (0 + layers.length) [] := by
    simp [linkedState, linkedFrom, decrement, hpos.ne', topmostFunctions, LoaderInstance.linkLayers]
  unfold linkInterfaces
  simp only [hempty, Bool.false_eq_true, if_false, hinit, Option.bind_eq_bind, Option.bind_some, hstart]
  exact foldlM_linkLayer memory layers 0

/-! ## The layers along the chain -/

/-- The entry points of the layer at an index, or the terminators behind the last one. -/
def functionsAt (layers : List ApiLayerInterface) (index : ℕ) : Pfn × Pfn :=
  match layers[index]? with
  | none => (.term .getInstanceProcAddr, .term .createApiLayerInstance)
  | some layer => (layer.getInstanceProcAddr, layer.createApiLayerInstance)

theorem topmostFunctions_drop (layers : List ApiLayerInterface) (index : ℕ) :
    topmostFunctions (layers.drop index) = functionsAt layers index := by
  unfold functionsAt
  cases h : layers[index]? with
  | none => rw [List.drop_eq_nil_of_le (List.getElem?_eq_none_iff.mp h)]; rfl
  | some layer =>
    obtain ⟨hlt, rfl⟩ := List.getElem?_eq_some_iff.mp h
    rw [List.drop_eq_getElem_cons hlt]
    rfl

structure Describes (element : NextInfoElement) (layers : List ApiLayerInterface) (index : ℕ)
    (layer : ApiLayerInterface) : Prop where
  header : element.structType = xrLoaderInterfaceStructApiLayerNextInfo ∧
    element.structVersion = xrApiLayerNextInfoStructVersion ∧
    element.structSize = sizeofXrApiLayerNextInfo
  layerName : cString element.layerName.chars = boundedCopy xrMaxApiLayerNameSize layer.layerName
  terminated : element.layerName.chars[xrMaxApiLayerNameSize - 1]? = some '\x00'
  next : element.next = if index + 1 < layers.length then some (index + 1) else none
  functions : (element.nextGetInstanceProcAddr, element.nextCreateApiLayerInstance) =
    functionsAt layers (index + 1)

theorem linkedFrom_length (memory : ℕ → NextInfoElement) (index : ℕ) (layers : List ApiLayerInterface) :
    (linkedFrom memory index layers).length = layers.length := by
  induction layers generalizing index with
  | nil => rfl
  | cons layer layers ih => simp [linkedFrom, ih]

theorem linkedFrom_getElem? (memory : ℕ → NextInfoElement) (index : ℕ)
    {layers : List ApiLayerInterface} {i : ℕ} {layer : ApiLayerInterface} (h : layers[i]? = some layer) :
    (linkedFrom memory index layers)[i]? = some ((memory (index + i)).initialise.link layer.layerName
      (if layers.drop (i + 1) = [] then none else some (index + i + 1))
      (topmostFunctions (layers.drop (i + 1))).1 (topmostFunctions (layers.drop (i + 1))).2) := by
  induction layers generalizing index i with
  | nil => cases h
  | cons first layers ih =>
    cases i with
    | zero =>
      cases h
      rfl
    | succ i =>
      have := ih (index + 1) (i := i) h
      rw [linkedFrom, List.getElem?_cons_succ, this]
      simp only [List.drop_succ_cons]
      rw [show index + 1 + i = index + (i + 1) by omega]

theorem describes_linkedFrom (memory : ℕ → NextInfoElement) {layers : List ApiLayerInterface} {i : ℕ}
    {layer : ApiLayerInterface} (h : layers[i]? = some layer) :
    ∃ element, (linkedFrom memory 0 layers)[i]? = some element ∧ Describes element layers i layer := by
  refine ⟨_, linkedFrom_getElem? memory 0 h, ⟨rfl, rfl, rfl⟩, ?_, ?_, ?_, ?_⟩
  · exact NextInfoElement.cString_link _ _ _ _ _
  · exact CharArray.copyName_terminated _ _ (by decide)
  · change (if layers.drop (i + 1) = [] then none else some (0 + i + 1)) = _
    simp only [List.drop_eq_nil_iff, Nat.zero_add]
    split_ifs <;> first | rfl | omega
  · exact topmostFunctions_drop layers (i + 1)

/-- A call of a create function with a pointer to an element. Each layer looks up its element
and calls the function that it finds there with the pointer that it finds there; the
calls up to the terminator's are listed. -/
def visits (nextInfoList : List NextInfoElement) : ℕ → Pfn → Option ℕ → Option (List (Pfn × ℕ))
  | 0, _, _ => none
  | fuel + 1, function, nextInfo =>
    match function, nextInfo with
    | .term .createApiLayerInstance, _ => some []
    | .foreign f, some index => do
      let element ← nextInfoList[index]?
      let others ← visits nextInfoList fuel element.nextCreateApiLayerInstance element.next
      return (.foreign f, index) :: others
    | _, _ => none

/-- The layers from `index` on, each with the index of its own element. -/
def inOrder (layers : List ApiLayerInterface) (index : ℕ) : List (Pfn × ℕ) :=
  ((layers.drop index).zipIdx index).map fun p => (p.1.createApiLayerInstance, p.2)

theorem inOrder_cons {layers : List ApiLayerInterface} {index : ℕ} {layer : ApiLayerInterface}
    (h : layers[index]? = some layer) :
    inOrder layers index = (layer.createApiLayerInstance, index) :: inOrder layers (index + 1) := by
  obtain ⟨hlt, rfl⟩ := List.getElem?_eq_some_iff.mp h
  unfold inOrder
  rw [List.drop_eq_getElem_cons hlt, List.zipIdx_cons, List.map_cons]

def Foreign (layers : List ApiLayerInterface) : Prop :=
  ∀ layer ∈ layers, ∃ f, layer.createApiLayerInstance = .foreign f

theorem visits_linkedFrom (memory : ℕ → NextInfoElement) {layers : List ApiLayerInterface}
    (hforeign : Foreign layers) (fuel index : ℕ) (hle : index ≤ layers.length)
    (hfuel : layers.length < index + fuel) {p : Option ℕ}
    (hnext : index < layers.length → p = some index) :
    visits (linkedFrom memory 0 layers) fuel (functionsAt layers index).2 p =
      some (inOrder layers index) := by
  induction fuel generalizing index p with
  | zero => omega
  | succ fuel ih =>
    cases h : layers[index]? with
    | none =>
      have hge : layers.length ≤ index := List.getElem?_eq_none_iff.mp h
      simp only [functionsAt, h, visits, inOrder, List.drop_eq_nil_of_le hge, List.zipIdx_nil,
        List.map_nil]
    | some layer =>
      obtain ⟨hlt, hlayer⟩ := List.getElem?_eq_some_iff.mp h
      obtain ⟨f, hf⟩ := hforeign layer (hlayer ▸ List.getElem_mem hlt)
      obtain ⟨element, helement, hdescribes⟩ := describes_linkedFrom memory h
      have hrest := ih (index + 1) hlt (by omega) (p := element.next)
        (fun hlt' => by rw [hdescribes.next, if_pos hlt'])
      rw [← hdescribes.functions] at hrest
      simp only [functionsAt, h, hf, hnext hlt, visits, helement, Option.bind_eq_bind,
        Option.bind_some, hrest]
      rw [inOrder_cons h, hf]
      rfl

theorem linkInterfaces_nil (memory : ℕ → NextInfoElement) : linkInterfaces memory [] =
    some ⟨[], 0, .term .getInstanceProcAddr, .term .createApiLayerInstance, none⟩ := rfl

/-- The array and the saved functions, whether there are layers or not. -/
theorem linkInterfaces_spec (memory : ℕ → NextInfoElement) (layers : List ApiLayerInterface) :
    ∃ s, linkInterfaces memory layers = some s ∧ s.nextInfoList = linkedFrom memory 0 layers ∧
      (s.topmostGipa, s.topmostCaliFp) = topmostFunctions layers := by
  by_cases h : layers = []
  · subst h
    exact ⟨_, linkInterfaces_nil memory, rfl, rfl⟩
  · exact ⟨_, linkInterfaces_eq memory h, rfl, rfl⟩

/-- What a layer can read of its element without following pointers. -/
def toNextInfo (element : NextInfoElement) : XrApiLayerNextInfo :=
  ⟨cString element.layerName.chars, element.nextGetInstanceProcAddr, element.nextCreateApiLayerInstance⟩

/-- The array holds the descriptions that CreateInstance hands down. -/
theorem linkedFrom_refines (memory : ℕ → NextInfoElement) (index : ℕ)
    (layers : List ApiLayerInterface) :
    (linkedFrom memory index layers).map toNextInfo = (LoaderInstance.linkLayers layers).1 := by
  induction layers generalizing index with
  | nil => rfl
  | cons layer layers ih =>
    rw [linkedFrom, List.map_cons, ih, toNextInfo, NextInfoElement.cString_link]
    rfl

/-- The loop stays inside the array; element i describes layer i and points at the next; the
create call visits the layers in their order, each with its own element, and then the
terminator; and the topmost function is kept with the instance. -/
theorem chain_wired (memory : ℕ → NextInfoElement) (layers : List ApiLayerInterface) :
    ∃ s, linkInterfaces memory layers = some s ∧ s.nextInfoList.length = layers.length ∧
      (∀ i layer, layers[i]? = some layer →
        ∃ element, s.nextInfoList[i]? = some element ∧ Describes element layers i layer) ∧
      (Foreign layers → ∀ fuel, layers.length < fuel →
        visits s.nextInfoList fuel s.topmostCaliFp (some 0) = some (inOrder layers 0)) ∧
      s.nextInfoList.map toNextInfo = (LoaderInstance.linkLayers layers).1 ∧
      s.topmostGipa = (functionsAt layers 0).1 ∧
      ∀ env info w result inst w', LoaderInstance.createInstance env layers info w =
        .ok (result, some inst) w' → inst.topmostGipa = s.topmostGipa := by
  obtain ⟨s, hs, hlist, htop⟩ := linkInterfaces_spec memory layers
  have hfunctions := topmostFunctions_drop layers 0
  rw [List.drop_zero, ← htop] at hfunctions
  refine ⟨s, hs, by rw [hlist, linkedFrom_length], fun i layer h => ?_,
    fun hforeign fuel hfuel => ?_, ?_, ?_, ?_⟩
  · rw [hlist]
    exact describes_linkedFrom memory h
  · rw [hlist, show s.topmostCaliFp = _ from congrArg Prod.snd hfunctions]
    exact visits_linkedFrom memory hforeign fuel 0 (Nat.zero_le _) (by omega) fun _ => rfl
  · rw [hlist, linkedFrom_refines]
  · exact congrArg Prod.fst hfunctions
  · intro env info w result inst w' h
    obtain ⟨names, reply, w₁, -, -, -, ⟨-, hnone, -⟩ | ⟨-, table, -, hsome⟩⟩ :=
      LoaderInstance.createInstance_cases h
    · cases hnone
    · cases hsome
      exact (congrArg Prod.fst htop).symm

def anyMemory (_ : ℕ) : NextInfoElement :=
  ⟨0, 0, 0, ⟨List.replicate xrMaxApiLayerNameSize 'z', List.length_replicate⟩, .null, .null, none⟩

/-- Two layers, of which one has a name that does not fit. -/
theorem chain_wired_two : ∃ s,
    linkInterfaces anyMemory [⟨['a'], 0, [], .foreign 1, .foreign 2⟩,
        ⟨List.replicate 300 'b', 1, [], .foreign 3, .foreign 4⟩] = some s ∧
    visits s.nextInfoList 3 s.topmostCaliFp (some 0) = some [(.foreign 2, 0), (.foreign 4, 1)] := by
  obtain ⟨s, hs, -, -, hvisits, -⟩ := chain_wired anyMemory [⟨['a'], 0, [], .foreign 1, .foreign 2⟩,
    ⟨List.replicate 300 'b', 1, [], .foreign 3, .foreign 4⟩]
  refine ⟨s, hs, hvisits ?_ 3 (by decide)⟩
  intro layer hlayer
  simp only [List.mem_cons, List.not_mem_nil, or_false] at hlayer
  rcases hlayer with rfl | rfl
  · exact ⟨2, rfl⟩
  · exact ⟨4, rfl⟩

end LayerChain

/-! ## Accepted layers -/

namespace ApiLayerInterface

def Callable (layer : ApiLayerInterface) : Prop :=
  layer.getInstanceProcAddr ≠ .null ∧ layer.createApiLayerInstance ≠ .null

/-- The negotiation with a layer's library ends in one of these ways. -/
def RespondsIn (responses : Set (XrResult × XrNegotiateApiLayerRequest)) (env : Environment) : Prop :=
  ∀ t path library, env.openLayer t path = some library →
    ∀ symbol response, library.negotiate symbol = some response → response ∈ responses

theorem negotiateLayer_loaded {requiresPlatformInit : Bool} {initData : LoaderInitData}
    {manifest : ApiLayerManifestFile} {library : Library XrNegotiateApiLayerRequest}
    {request : XrNegotiateApiLayerRequest}
    (h : negotiateLayer requiresPlatformInit initData manifest library = .loaded request) :
    ∃ symbol res, library.negotiate symbol = some (res, request) ∧ xrSucceeded res ∧
      request.getInstanceProcAddr ≠ .null := by
  unfold negotiateLayer at h
  split_ifs at h
  dsimp only at h
  split at h
  · cases h
  · split at h
    · cases h
    · rename_i res request' hnegotiate
      split_ifs at h with hfailed hnull
      · cases h
        exact ⟨_, res, hnegotiate, not_xrFailed.mp hfailed, hnull⟩
      · split at h
        · cases h
        · cases h
          exact ⟨_, res, hnegotiate, not_xrFailed.mp hfailed, hnull⟩

/-- A round of the loop adds the interface of a layer that was loaded, or none. -/
theorem loadLayer_interfaces {env : Environment} {s s' : LoadState} {m : ApiLayerManifestFile}
    {w w' : World} (h : loadLayer env s m w = .ok (.ok s') w') :
    s'.interfaces = s.interfaces ∨ ∃ library request,
      env.openLayer w.clock m.libraryPath = some library ∧
      negotiateLayer env.requiresPlatformInit w.initData m library = .loaded request ∧
      s'.interfaces = s.interfaces ++ [makeInterface m w.libraries.fresh request] := by
  rw [loadLayer_eq] at h
  cases ho : env.openLayer w.clock m.libraryPath with
  | none =>
    rw [ho] at h
    cases h
    exact Or.inl (skip_interfaces _ _)
  | some library =>
    rw [ho, Option.map_some] at h
    cases hn : negotiateLayer env.requiresPlatformInit w.initData m library with
    | notInitialized => rw [hn] at h; cases h
    | initFailed res => rw [hn] at h; cases h
    | negotiateNotFound => rw [hn] at h; cases h; exact Or.inl rfl
    | negotiationFailed res => rw [hn] at h; cases h; exact Or.inl (skip_interfaces _ _)
    | loaded request =>
      rw [hn] at h
      cases h
      exact Or.inr ⟨library, request, rfl, hn, rfl⟩

section Loaded
variable {responses : Set (XrResult × XrNegotiateApiLayerRequest)} {env : Environment}
  {P : ApiLayerInterface → Prop} (hresponds : RespondsIn responses env)
  (hP : ∀ r ∈ responses, xrSucceeded r.1 → r.2.getInstanceProcAddr ≠ .null →
    ∀ m library, P (makeInterface m library r.2))
include hresponds hP

theorem loadLayer_forall {s s' : LoadState} {m : ApiLayerManifestFile} {w w' : World}
    (h : loadLayer env s m w = .ok (.ok s') w') (hs : ∀ layer ∈ s.interfaces, P layer) :
    ∀ layer ∈ s'.interfaces, P layer := by
  rcases loadLayer_interfaces h with he | ⟨library, request, hopen, hloaded, he⟩
  · rw [he]
    exact hs
  obtain ⟨symbol, res, hnegotiate, hsucceeded, hgipa⟩ := negotiateLayer_loaded hloaded
  rw [he, List.forall_mem_append, List.forall_mem_singleton]
  exact ⟨hs, hP _ (hresponds _ _ _ hopen symbol _ hnegotiate) hsucceeded hgipa _ _⟩

theorem loadLayers_forall {ms : List ApiLayerManifestFile} {s s' : LoadState} {w w' : World}
    {early : Option XrResult} (h : loadLayers env s ms w = .ok (early, s') w')
    (hs : ∀ layer ∈ s.interfaces, P layer) : ∀ layer ∈ s'.interfaces, P layer := by
  induction ms generalizing s w with
  | nil =>
    cases h
    exact hs
  | cons m ms ih =>
    obtain ⟨round, w₁, hround, h⟩ := bind_eq_ok.mp h
    cases round with
    | error res =>
      cases h
      exact hs
    | ok s₁ => exact ih h (loadLayer_forall hresponds hP hround hs)

theorem loadEnabledLayers_forall {enabling : Enabling} {w w' : World} {result : XrResult}
    {layers : List ApiLayerInterface} (h : loadEnabledLayers env enabling w = .ok (result, layers) w') :
    ∀ layer ∈ layers, P layer := by
  obtain ⟨⟨early, s⟩, w₁, hrun, h⟩ := bind_eq_ok.mp h
  have hs := loadLayers_forall hresponds hP hrun (by simp)
  cases early with
  | some res =>
    cases h
    exact hs
  | none =>
    dsimp only at h
    generalize (if enabling.foundAllLayers then s.lastError else xrErrorApiLayerNotPresent) =
      lastError at h
    by_cases hfail : xrFailed lastError
    · rw [if_pos hfail] at h
      obtain ⟨_, w₂, -, h⟩ := bind_eq_ok.mp h
      cases h
      simp
    · rw [if_neg hfail] at h
      cases h
      exact hs

theorem loadApiLayers_forall {count : ℕ} {names : Option (List StdString)} {w w' : World}
    {result : XrResult} {layers : List ApiLayerInterface}
    (h : loadApiLayers env count names w = .ok (result, layers) w') :
    ∀ layer ∈ layers, P layer := by
  obtain ⟨⟨_, implicit⟩, w₁, -, h⟩ := bind_eq_ok.mp h
  obtain ⟨⟨found, explicit⟩, w₂, -, h⟩ := bind_eq_ok.mp h
  obtain ⟨w₃, w₄, -, h⟩ := bind_eq_ok.mp h
  cases hr : if xrSucceeded found then requestedLayers env w₃ count names else some [] with
  | none =>
    rw [hr] at h
    cases h
    simp
  | some requested =>
    rw [hr] at h
    exact loadEnabledLayers_forall hresponds hP h

end Loaded

/-- In surroundings whose layer libraries respond in these ways, both functions of every layer
that is accepted are there: neither the first call of the chain nor what the array says of
the next layer is null. -/
structure AcceptedCallable (responses : Set (XrResult × XrNegotiateApiLayerRequest)) : Prop where
  appended : ∀ env, RespondsIn responses env → ∀ manifests w early s w',
    loadLayers env ⟨xrSuccess, false, []⟩ manifests w = .ok (early, s) w' →
      ∀ layer ∈ s.interfaces, layer.Callable
  chained : ∀ env, RespondsIn responses env → ∀ count names w result layers w',
    loadApiLayers env count names w = .ok (result, layers) w' →
      ∀ memory s, LayerChain.linkInterfaces memory layers = some s →
        s.topmostGipa ≠ .null ∧ s.topmostCaliFp ≠ .null ∧ ∀ element ∈ s.nextInfoList,
          element.nextGetInstanceProcAddr ≠ .null ∧ element.nextCreateApiLayerInstance ≠ .null

end ApiLayerInterface

namespace LayerChain

theorem functionsAt_callable {layers : List ApiLayerInterface}
    (h : ∀ layer ∈ layers, layer.Callable) (index : ℕ) :
    (functionsAt layers index).1 ≠ .null ∧ (functionsAt layers index).2 ≠ .null := by
  unfold functionsAt
  cases hi : layers[index]? with
  | none => exact ⟨nofun, nofun⟩
  | some layer => exact h layer (List.mem_of_getElem? hi)

/-- Callable layers are linked without null functions. -/
theorem linkInterfaces_callable {memory : ℕ → NextInfoElement} {layers : List ApiLayerInterface}
    {s : LinkState} (h : ∀ layer ∈ layers, layer.Callable) (hs : linkInterfaces memory layers = some s) :
    s.topmostGipa ≠ .null ∧ s.topmostCaliFp ≠ .null ∧ ∀ element ∈ s.nextInfoList,
      element.nextGetInstanceProcAddr ≠ .null ∧ element.nextCreateApiLayerInstance ≠ .null := by
  obtain ⟨s', hs', hlist, htop⟩ := linkInterfaces_spec memory layers
  obtain rfl : s' = s := Option.some.inj (hs'.symm.trans hs)
  have hfirst := functionsAt_callable h 0
  rw [← topmostFunctions_drop, List.drop_zero, ← htop] at hfirst
  refine ⟨hfirst.1, hfirst.2, fun element helement => ?_⟩
  rw [hlist] at helement
  obtain ⟨i, hi⟩ := List.mem_iff_getElem?.mp helement
  have hlt := (List.getElem?_eq_some_iff.mp hi).1
  rw [linkedFrom_length] at hlt
  obtain ⟨element', helement', hdescribes⟩ :=
    describes_linkedFrom memory (List.getElem?_eq_getElem hlt)
  obtain rfl : element' = element := Option.some.inj (helement'.symm.trans hi)
  have hnext := functionsAt_callable h (i + 1)
  rw [← hdescribes.functions] at hnext
  exact hnext

end LayerChain

namespace ApiLayerInterface

/-- One implicit layer, whose library negotiates with this response. -/
def respondingWith (response : XrResult × XrNegotiateApiLayerRequest) : Environment :=
  { findingLayers [explicitLayer ['a']] [] with
    openLayer := fun _ _ => some ⟨fun _ => none, fun _ => some response, ⟨xrErrorFunctionUnsupported, none⟩⟩ }

theorem loadApiLayers_respondingWith {response : XrResult × XrNegotiateApiLayerRequest}
    (hsucceeded : xrSucceeded response.1) (hgipa : response.2.getInstanceProcAddr ≠ .null) :
    ∃ result library w', loadApiLayers (respondingWith response) 0 none quietWorld =
      .ok (result, [makeInterface (explicitLayer ['a']) library response.2]) w' := by
  have hloaded : negotiateLayer false quietWorld.tick.tick.initData (explicitLayer ['a'])
      ⟨fun _ => none, fun _ => some response, ⟨xrErrorFunctionUnsupported, none⟩⟩ =
      .loaded response.2 := by
    simp [negotiateLayer, forwardExported, forwardQueried, LoaderInitData.getPlatformParam, hgipa,
      not_xrFailed.mpr hsucceeded]
  have houts : attempts (respondingWith response) quietWorld.tick.tick.initData
      quietWorld.tick.tick.clock (enableLayers [explicitLayer ['a']] [] []).enabled =
      [(explicitLayer ['a'], some (.loaded response.2))] :=
    congrArg (fun outcome => [(explicitLayer ['a'], some outcome)]) hloaded
  obtain ⟨interfaces, c, l, hrun, -, hlayers⟩ := loadEnabledLayers_spec (respondingWith response)
    (enableLayers [explicitLayer ['a']] [] []) quietWorld.tick.tick houts
  obtain ⟨library, rfl⟩ : ∃ library, interfaces = [makeInterface (explicitLayer ['a']) library response.2] := by
    change InterfacesOf interfaces [(explicitLayer ['a'], response.2)] at hlayers
    obtain ⟨iface, rest, ⟨library, rfl⟩, hrest, rfl⟩ := List.forall₂_cons_right_iff.mp hlayers
    rw [List.forall₂_nil_right_iff.mp hrest]
    exact ⟨library, rfl⟩
  have hfinds : Finds (respondingWith response) [explicitLayer ['a']] [] := ⟨fun _ => rfl, fun _ => rfl⟩
  exact ⟨_, library, _, (loadApiLayers_of_found (hfinds.implicit _) (hfinds.explicit _)
    (rfl : requestedLayers (respondingWith response) quietWorld 0 none = some [])).trans hrun⟩

/-- The loader checks the one function and not the other. -/
theorem acceptedCallable_iff (responses : Set (XrResult × XrNegotiateApiLayerRequest)) :
    AcceptedCallable responses ↔ ∀ r ∈ responses, xrFailed r.1 ∨ r.2.getInstanceProcAddr = .null ∨
      r.2.createApiLayerInstance ≠ .null := by
  constructor
  · intro h r hr
    by_contra! hc
    obtain ⟨hsucceeded, hgipa, hcali⟩ := hc
    obtain ⟨result, library, w', hrun⟩ := loadApiLayers_respondingWith hsucceeded hgipa
    have hresponds : RespondsIn responses (respondingWith r) := by
      rintro t path _ ⟨⟩ symbol _ ⟨⟩
      exact hr
    obtain ⟨s, hs, -, htop⟩ := LayerChain.linkInterfaces_spec LayerChain.anyMemory
      [makeInterface (explicitLayer ['a']) library r.2]
    have hcallable := (h.chained _ hresponds _ _ _ _ _ _ hrun LayerChain.anyMemory s hs).2.1
    rw [show s.topmostCaliFp = _ from congrArg Prod.snd htop] at hcallable
    exact hcallable hcali
  · intro h
    have hcallable : ∀ r ∈ responses, xrSucceeded r.1 → r.2.getInstanceProcAddr ≠ .null →
        ∀ m library, (makeInterface m library r.2).Callable := by
      intro r hr hsucceeded hgipa m library
      exact ⟨hgipa, ((h r hr).resolve_left (not_xrFailed.mpr hsucceeded)).resolve_left hgipa⟩
    exact ⟨fun env hresponds manifests w early s w' hrun =>
        loadLayers_forall hresponds hcallable hrun (by simp),
      fun env hresponds count names w result layers w' hrun memory s hs =>
        LayerChain.linkInterfaces_callable (loadApiLayers_forall hresponds hcallable hrun) hs⟩

/-- The layer that gives no create function is accepted and called first. -/
theorem missingCreate_called : ∃ layers w' s,
    loadApiLayers (respondingWith (xrSuccess, ⟨1, 0, .foreign 1, .null⟩)) 0 none quietWorld =
      .ok (xrSuccess, layers) w' ∧
    LayerChain.linkInterfaces LayerChain.anyMemory layers = some s ∧ s.topmostCaliFp = .null ∧
    ¬ AcceptedCallable {(xrSuccess, ⟨1, 0, .foreign 1, .null⟩)} := by
  refine ⟨_, _, _, rfl, rfl, rfl, fun h => ?_⟩
  have hresponds : RespondsIn {(xrSuccess, ⟨1, 0, .foreign 1, .null⟩)}
      (respondingWith (xrSuccess, ⟨1, 0, .foreign 1, .null⟩)) := by
    rintro t path _ ⟨⟩ symbol _ ⟨⟩
    rfl
  exact (h.chained _ hresponds 0 none quietWorld _ _ _ rfl LayerChain.anyMemory _ rfl).2.1 rfl

end ApiLayerInterface
end OpenXRSdk
