import OpenXRSdk.LoaderCore

/-!
# Enumeration in two calls

The contract of a query that is asked for a count first and for the entries then, and when
the two queries of the loader keep it.
-/
namespace OpenXRSdk

open StateProgram

section Contract
variable {α : Type}

/-- The array is there, and every element of it has this type. -/
def WellTyped (tag : ℕ) (types : Option (List ℕ)) : Prop := ∃ ts ∈ types, ∀ t ∈ ts, t = tag

/-- An array that is there has an element of another type. -/
def IllTyped (tag : ℕ) (types : Option (List ℕ)) : Prop := ∃ ts ∈ types, ∃ t ∈ ts, t ≠ tag

theorem not_wellTyped_of_illTyped {tag : ℕ} {types : Option (List ℕ)} (h : IllTyped tag types) :
    ¬ WellTyped tag types := by
  rintro ⟨ts, hts, hall⟩
  obtain ⟨ts', hts', t, ht, hne⟩ := h
  cases Option.mem_unique hts hts'
  exact hne (hall t ht)

theorem wellTyped_some {tag : ℕ} {ts : List ℕ} : WellTyped tag (some ts) ↔ ∀ t ∈ ts, t = tag := by
  simp [WellTyped]

theorem not_wellTyped_none {tag : ℕ} : ¬ WellTyped tag none := by simp [WellTyped]

/-- What a query has to answer when these entries are available: the result, the count that
is set, and what is written to the array. -/
structure TwoCall (tag capacity : ℕ) (types : Option (List ℕ)) (entries : List α)
    (out : XrResult × Option ℕ × List α) : Prop where
  count : capacity = 0 → out = (xrSuccess, some entries.length, [])
  fill : entries.length ≤ capacity → WellTyped tag types →
    out = (xrSuccess, some entries.length, entries)
  short : 0 < capacity → capacity < entries.length → WellTyped tag types →
    out = (xrErrorSizeInsufficient, some entries.length, [])
  atomic : xrFailed out.1 → out.2.2 = []

section Answers
variable {tag capacity : ℕ} {types : Option (List ℕ)} {entries : List α}

theorem twoCall_count_iff {count : ℕ} :
    TwoCall tag 0 types entries (xrSuccess, some count, []) ↔ count = entries.length := by
  constructor
  · intro h
    simpa using h.count rfl
  · rintro rfl
    refine ⟨fun _ => rfl, fun hfit _ => ?_, fun h => absurd h (lt_irrefl _), fun _ => rfl⟩
    rw [List.eq_nil_of_length_eq_zero (Nat.le_zero.mp hfit)]

/-- A query that fails for its array must not write. -/
theorem twoCall_refused_iff (hcapacity : 0 < capacity) (hwell : ¬ WellTyped tag types)
    {result : XrResult} (hresult : xrFailed result) {count : Option ℕ} {written : List α} :
    TwoCall tag capacity types entries (result, count, written) ↔ written = [] :=
  ⟨fun h => h.atomic hresult, fun h => ⟨fun h => absurd h hcapacity.ne', fun _ h => absurd h hwell,
    fun _ _ h => absurd h hwell, fun _ => h⟩⟩

theorem twoCall_short_iff (hcapacity : 0 < capacity) {count : ℕ} (hshort : capacity < count)
    (hcount : count ≤ entries.length) :
    TwoCall tag capacity types entries (xrErrorSizeInsufficient, some count, []) ↔
      (WellTyped tag types → count = entries.length) := by
  constructor
  · intro h hwell
    simpa using h.short hcapacity (by omega) hwell
  · intro h
    refine ⟨fun h => absurd h hcapacity.ne', fun hfit => absurd hfit (by omega), fun _ _ hwell => ?_,
      fun _ => rfl⟩
    rw [h hwell]

theorem twoCall_fill_iff (hcapacity : 0 < capacity) {count : ℕ} (hfit : count ≤ capacity) :
    TwoCall tag capacity types entries (xrSuccess, some count, entries.take count) ↔
      (WellTyped tag types → count = entries.length) := by
  constructor
  · intro h hwell
    by_cases hle : entries.length ≤ capacity
    · simpa using congrArg (·.2.1) (h.fill hle hwell)
    · simpa [xrErrorSizeInsufficient] using h.short hcapacity (not_le.mp hle) hwell
  · intro h
    refine ⟨fun h => absurd h hcapacity.ne', fun _ hwell => ?_, fun _ hlt hwell => ?_,
      fun h => absurd h (lt_irrefl _)⟩
    · rw [h hwell, List.take_length]
    · have := h hwell
      omega

end Answers

/-- These entries are what a search turns up that succeeds. -/
def Available (search : Loader (XrResult × List α)) (w : World) (entries : List α) : Prop :=
  ∃ result w', search w = .ok (result, entries) w' ∧ xrSucceeded result

/-- The query returns what the contract demands for the entries that are available, and
writes nothing when it fails for whatever reason. -/
def HonoursTwoCall (search : Loader (XrResult × List α))
    (query : Loader (XrResult × Option ℕ × List α)) (tag capacity : ℕ) (types : Option (List ℕ))
    (w : World) : Prop :=
  (∀ entries, Available search w entries →
    ∃ out w', query w = .ok out w' ∧ TwoCall tag capacity types entries out) ∧
  ∀ out w', query w = .ok out w' → xrFailed out.1 → out.2.2 = []

/-- A query that searches and then answers from what was found. -/
def searchThen (search : Loader (XrResult × List α))
    (output : List α → XrResult × Option ℕ × List α) : Loader (XrResult × Option ℕ × List α) := do
  let (result, entries) ← search
  if xrFailed result then return (result, none, [])
  return output entries

theorem searchThen_run {search : Loader (XrResult × List α)}
    {output : List α → XrResult × Option ℕ × List α} {w w' : World} {result : XrResult}
    {entries : List α} (h : search w = .ok (result, entries) w') :
    searchThen search output w =
      .ok (if xrFailed result then (result, none, []) else output entries) w' := by
  unfold searchThen
  rw [bind_of_ok h]
  dsimp only
  split_ifs <;> rfl

/-- Such a query keeps the contract exactly when its answers do. -/
theorem honours_searchThen_iff {search : Loader (XrResult × List α)}
    {output : List α → XrResult × Option ℕ × List α} {tag capacity : ℕ}
    {types : Option (List ℕ)} {w : World} :
    HonoursTwoCall search (abiTry (xrErrorRuntimeFailure, none, []) (searchThen search output))
        tag capacity types w ↔
      ∀ entries, Available search w entries → TwoCall tag capacity types entries (output entries) := by
  have hquery {entries : List α} (h : Available search w entries) : ∃ w',
      abiTry (xrErrorRuntimeFailure, none, []) (searchThen search output) w =
        .ok (output entries) w' := by
    obtain ⟨result, w', hrun, hs⟩ := h
    refine ⟨w', abiTry_eq_ok.mpr (Or.inl ?_)⟩
    rw [searchThen_run hrun, if_neg (not_xrFailed.mpr hs)]
  constructor
  · rintro ⟨h, -⟩ entries hav
    obtain ⟨out, w', hrun, htwo⟩ := h entries hav
    obtain ⟨w'', hrun'⟩ := hquery hav
    rw [hrun'] at hrun
    cases hrun
    exact htwo
  · intro h
    refine ⟨fun entries hav => ?_, fun out w' hrun hfail => ?_⟩
    · obtain ⟨w', hrun⟩ := hquery hav
      exact ⟨_, w', hrun, h entries hav⟩
    rcases abiTry_eq_ok.mp hrun with hrun' | ⟨-, rfl⟩
    · obtain ⟨⟨result, entries⟩, w'', hsearch, -⟩ := bind_eq_ok.mp hrun'
      rw [searchThen_run hsearch] at hrun'
      by_cases hresult : xrFailed result
      · rw [if_pos hresult] at hrun'
        cases hrun'
        rfl
      · have hav : Available search w entries := ⟨result, w'', hsearch, not_xrFailed.mp hresult⟩
        rw [if_neg hresult] at hrun'
        cases hrun'
        exact (h entries hav).atomic hfail
    · rfl

/-- A query that refuses the array before it searches keeps the contract. -/
theorem honours_of_refused {search : Loader (XrResult × List α)}
    {query : Loader (XrResult × Option ℕ × List α)} {tag capacity : ℕ} {types : Option (List ℕ)}
    {w : World} (hcapacity : 0 < capacity) (htypes : IllTyped tag types) {result : XrResult}
    (hresult : xrFailed result) (hrun : query w = .ok (result, none, []) w) : HonoursTwoCall search query tag capacity types w := by
  refine ⟨fun entries _ => ⟨_, w, hrun, ?_⟩, fun out w' hrun' _ => ?_⟩
  · exact (twoCall_refused_iff hcapacity (not_wellTyped_of_illTyped htypes) hresult).mpr rfl
  · rw [hrun] at hrun'
    cases hrun'
    rfl

end Contract

/-! ## Layers -/

namespace ApiLayerInterface

def apiLayerProperties (env : Environment) : Loader (XrResult × List XrApiLayerProperties) := do
  let (result, manifests) ← findAllManifestFiles env
  return (result, manifests.map (·.populateApiLayerProperties))

/-- What GetApiLayerProperties answers once it has found the layers. -/
def outputApiLayers (capacity : ℕ) (types : Option (List ℕ)) (props : List XrApiLayerProperties) :
    XrResult × Option ℕ × List XrApiLayerProperties :=
  if 2 ^ 32 - 1 ≤ props.length then (xrErrorRuntimeFailure, none, [])
  else if capacity = 0 then (xrSuccess, some props.length, [])
  else if types.isNone then (xrErrorValidationFailure, some props.length, [])
  else if capacity < props.length then (xrErrorSizeInsufficient, some props.length, [])
  else (xrSuccess, some props.length, props)

theorem getApiLayerProperties_refused (env : Environment) {capacity : ℕ}
    {types : Option (List ℕ)} (w : World)
    (h : 0 < capacity ∧ IllTyped xrTypeApiLayerProperties types) :
    getApiLayerProperties env capacity true types w = .ok (xrErrorValidationFailure, none, []) w := by
  unfold IllTyped at h
  unfold getApiLayerProperties
  rw [if_pos h]
  rfl

theorem getApiLayerProperties_eq {env : Environment} {capacity : ℕ} {types : Option (List ℕ)}
    (h : ¬ (0 < capacity ∧ IllTyped xrTypeApiLayerProperties types)) :
    getApiLayerProperties env capacity true types =
      searchThen (apiLayerProperties env) (outputApiLayers capacity types) := by
  unfold IllTyped at h
  funext w
  unfold getApiLayerProperties searchThen apiLayerProperties
  rw [if_neg h, if_neg (by decide), bind_assoc]
  refine bind_congr_of_ok fun found w' _ => ?_
  obtain ⟨result, manifests⟩ := found
  rw [pure_bind]
  dsimp only
  unfold outputApiLayers
  rw [List.length_map]
  split_ifs <;> rfl

/-- Once the layers were found the contract is kept unless there are too many of them. -/
theorem twoCall_outputApiLayers_iff {capacity : ℕ} {types : Option (List ℕ)}
    (h : ¬ (0 < capacity ∧ IllTyped xrTypeApiLayerProperties types))
    (props : List XrApiLayerProperties) :
    TwoCall xrTypeApiLayerProperties capacity types props (outputApiLayers capacity types props) ↔
      (capacity = 0 ∨ WellTyped xrTypeApiLayerProperties types → props.length < 2 ^ 32 - 1) := by
  unfold outputApiLayers
  by_cases hmany : 2 ^ 32 - 1 ≤ props.length
  · rw [if_pos hmany]
    constructor
    · intro hc hor
      by_cases hcap : capacity = 0
      · simpa [xrErrorRuntimeFailure] using hc.count hcap
      have hwell := hor.resolve_left hcap
      by_cases hfit : props.length ≤ capacity
      · simpa [xrErrorRuntimeFailure] using hc.fill hfit hwell
      · simpa [xrErrorRuntimeFailure, xrErrorSizeInsufficient] using
          hc.short (Nat.pos_of_ne_zero hcap) (not_le.mp hfit) hwell
    · intro hc
      exact ⟨fun hcap => absurd (hc (Or.inl hcap)) (by omega),
        fun _ hwell => absurd (hc (Or.inr hwell)) (by omega),
        fun _ _ hwell => absurd (hc (Or.inr hwell)) (by omega), fun _ => rfl⟩
  · rw [if_neg hmany, iff_true_right fun _ => not_le.mp hmany]
    by_cases hcap : capacity = 0
    · subst hcap
      exact twoCall_count_iff.mpr rfl
    rw [if_neg hcap]
    have hpos := Nat.pos_of_ne_zero hcap
    cases types with
    | none => exact (twoCall_refused_iff hpos not_wellTyped_none (by decide)).mpr rfl
    | some types =>
      rw [if_neg (by simp)]
      split_ifs with hshort
      · exact (twoCall_short_iff hpos hshort le_rfl).mpr fun _ => rfl
      · have hall : (xrSuccess, some props.length, props) =
            (xrSuccess, some props.length, props.take props.length) := by rw [List.take_length]
        rw [hall]
        exact (twoCall_fill_iff hpos (not_lt.mp hshort)).mpr fun _ => rfl

end ApiLayerInterface

/-! ## Extensions -/

namespace LoaderCore

/-- Elements of the array have been written when one of another type turns up. -/
def Interrupted (capacity : ℕ) (types : Option (List ℕ)) (count : ℕ) : Prop :=
  0 < capacity ∧ count ≤ capacity ∧ ∃ ts ∈ types, ts.head? = some xrTypeExtensionProperties ∧
    ∃ t ∈ ts.take count, t ≠ xrTypeExtensionProperties

theorem enumerateInstanceExtensionProperties_eq (env : Environment) (layerName : Option StdString)
    (capacity : ℕ) (types : Option (List ℕ)) :
    enumerateInstanceExtensionProperties env layerName capacity true types =
      abiTry (xrErrorRuntimeFailure, none, [])
        (searchThen (extensionProperties env (layerName.filter (!·.isEmpty)))
          (outputExtensions · capacity types)) := rfl

theorem length_takeWhile_lt (p : ℕ → Bool) (ts : List ℕ) :
    (ts.takeWhile p).length < ts.length ↔ ∃ t ∈ ts, ¬ p t = true := by
  rw [← not_iff_not, not_lt]
  push Not
  rw [← List.takeWhile_eq_self_iff]
  exact ⟨(List.takeWhile_sublist p).eq_of_length_le, fun h => by rw [h]⟩

/-- Nothing has been copied when the first element is of the wrong type. -/
theorem copied_eq_nil_iff {props : List XrExtensionProperties} (types : List ℕ) {count : ℕ}
    (hcount : 0 < count) (hprops : props ≠ []) :
    props.take ((types.take count).takeWhile (· = xrTypeExtensionProperties)).length = [] ↔
      ¬ types.head? = some xrTypeExtensionProperties := by
  rw [List.take_eq_nil_iff, List.length_eq_zero_iff, or_iff_left hprops]
  cases types with
  | nil => simp
  | cons t types =>
    rw [List.take_cons hcount]
    by_cases h : t = xrTypeExtensionProperties <;> simp [h]

/-- The copying keeps the contract unless it is interrupted. -/
theorem twoCall_copy_iff {capacity count : ℕ} {types : List ℕ} {props : List XrExtensionProperties}
    (hcapacity : 0 < capacity) (hlength : types.length = capacity) (hfit : count ≤ capacity)
    (hcount : count ≤ props.length) :
    TwoCall xrTypeExtensionProperties capacity (some types) props
        (let valid := (types.take count).takeWhile (· = xrTypeExtensionProperties)
        if valid.length < count then (xrErrorValidationFailure, none, props.take valid.length)
        else (xrSuccess, some count, props.take count)) ↔
      (WellTyped xrTypeExtensionProperties (some types) → count = props.length) ∧
        ¬ Interrupted capacity (some types) count := by
  have htake : (types.take count).length = count := by
    rw [List.length_take]
    omega
  have hstop := length_takeWhile_lt (· = xrTypeExtensionProperties) (types.take count)
  simp only [htake, decide_eq_true_eq] at hstop
  dsimp only
  by_cases hill : ∃ t ∈ types.take count, t ≠ xrTypeExtensionProperties
  · have hwell : ¬ WellTyped xrTypeExtensionProperties (some types) := by
      obtain ⟨t, ht, hne⟩ := hill
      exact fun h => hne (wellTyped_some.mp h t (List.mem_of_mem_take ht))
    have hstopped := hstop.mpr hill
    have hprops : props ≠ [] := by
      rintro rfl
      rw [List.length_nil] at hcount
      omega
    have hinterrupted : Interrupted capacity (some types) count ↔
        types.head? = some xrTypeExtensionProperties := by
      simp [Interrupted, hill, hcapacity, hfit]
    rw [if_pos hstopped, twoCall_refused_iff hcapacity hwell (by decide),
      copied_eq_nil_iff types (by omega) hprops, hinterrupted, and_iff_right fun h => absurd h hwell]
  · have hnot : ¬ Interrupted capacity (some types) count := by
      rintro ⟨-, -, ts, hts, -, hill'⟩
      cases hts
      exact hill hill'
    rw [if_neg (mt hstop.mp hill), and_iff_left hnot, twoCall_fill_iff hcapacity hfit]

/-- Once the extensions were found the contract is kept unless their number overflows or the
copying is interrupted. -/
theorem twoCall_outputExtensions_iff {capacity : ℕ} {types : Option (List ℕ)}
    (htypes : ∀ ts ∈ types, ts.length = capacity) (props : List XrExtensionProperties) :
    TwoCall xrTypeExtensionProperties capacity types props (outputExtensions props capacity types) ↔
      (capacity = 0 ∨ WellTyped xrTypeExtensionProperties types → props.length < 2 ^ 32) ∧
        ¬ Interrupted capacity types (props.length % 2 ^ 32) := by
  have hmod : props.length % 2 ^ 32 = props.length ↔ props.length < 2 ^ 32 :=
    ⟨fun h => h ▸ Nat.mod_lt _ (by decide), Nat.mod_eq_of_lt⟩
  have hle : props.length % 2 ^ 32 ≤ props.length := Nat.mod_le _ _
  unfold outputExtensions
  dsimp only
  generalize props.length % 2 ^ 32 = count at hmod hle
  by_cases hcap : capacity = 0
  · subst hcap
    have hnot : ¬ Interrupted 0 types count := fun h => absurd h.1 (lt_irrefl _)
    rw [if_pos rfl, and_iff_left hnot, ← hmod, twoCall_count_iff]
    simp
  have hpos := Nat.pos_of_ne_zero hcap
  rw [if_neg hcap, or_iff_right hcap, ← hmod]
  cases types with
  | none =>
    rw [twoCall_refused_iff hpos not_wellTyped_none (by decide)]
    simp [Interrupted, WellTyped]
  | some types =>
    dsimp only
    by_cases hshort : capacity < count
    · have hnot : ¬ Interrupted capacity (some types) count := fun h => absurd h.2.1 (by omega)
      rw [if_pos hshort, and_iff_left hnot, twoCall_short_iff hpos hshort hle]
    · rw [if_neg hshort]
      exact twoCall_copy_iff hpos (htypes types rfl) (not_lt.mp hshort) hle

/-- The two queries keep the contract exactly when their entries can be counted, and when
the array of the second has no element of a wrong type behind a first one of the right type. -/
theorem enumerations_honour_iff (env : Environment) (w : World) {capacity : ℕ}
    {types : Option (List ℕ)} (htypes : ∀ ts ∈ types, ts.length = capacity)
    (layerName : Option StdString) :
    (HonoursTwoCall (ApiLayerInterface.apiLayerProperties env)
        (enumerateApiLayerProperties env capacity true types) xrTypeApiLayerProperties capacity
        types w ↔
      ∀ props, Available (ApiLayerInterface.apiLayerProperties env) w props →
        capacity = 0 ∨ WellTyped xrTypeApiLayerProperties types → props.length < 2 ^ 32 - 1) ∧
    (HonoursTwoCall (extensionProperties env (layerName.filter (!·.isEmpty)))
        (enumerateInstanceExtensionProperties env layerName capacity true types)
        xrTypeExtensionProperties capacity types w ↔
      ∀ props, Available (extensionProperties env (layerName.filter (!·.isEmpty))) w props →
        (capacity = 0 ∨ WellTyped xrTypeExtensionProperties types → props.length < 2 ^ 32) ∧
          ¬ Interrupted capacity types (props.length % 2 ^ 32)) := by
  constructor
  · by_cases hbad : 0 < capacity ∧ IllTyped xrTypeApiLayerProperties types
    · have hrefused : enumerateApiLayerProperties env capacity true types w =
          .ok (xrErrorValidationFailure, none, []) w :=
        abiTry_eq_ok.mpr (Or.inl (ApiLayerInterface.getApiLayerProperties_refused env w hbad))
      refine iff_of_true (honours_of_refused hbad.1 hbad.2 (by decide) hrefused) fun props _ h => ?_
      rcases h with h | h
      · exact absurd h hbad.1.ne'
      · exact absurd h (not_wellTyped_of_illTyped hbad.2)
    · unfold enumerateApiLayerProperties
      rw [ApiLayerInterface.getApiLayerProperties_eq hbad, honours_searchThen_iff]
      simp only [ApiLayerInterface.twoCall_outputApiLayers_iff hbad]
  · rw [enumerateInstanceExtensionProperties_eq, honours_searchThen_iff]
    simp only [twoCall_outputExtensions_iff htypes]

def twoExtensionLayer : Environment :=
  { Environment.bare with
    findLayerManifests := fun _ type =>
      .ok (xrSuccess, if type = .explicitApiLayer then
        [{ ApiLayerInterface.implicitLayer "a".toList with
          type := .explicitApiLayer
          instanceExtensions := [⟨"x".toList, 1⟩, ⟨"y".toList, 1⟩] }] else []) }

theorem enumerations_honour_iff_twoExtensions :
    (HonoursTwoCall (ApiLayerInterface.apiLayerProperties twoExtensionLayer)
        (enumerateApiLayerProperties twoExtensionLayer 2 true (some [2, 2]))
        xrTypeApiLayerProperties 2 (some [2, 2]) ApiLayerInterface.quietWorld ↔
      ∀ props, Available (ApiLayerInterface.apiLayerProperties twoExtensionLayer)
          ApiLayerInterface.quietWorld props →
        2 = 0 ∨ WellTyped xrTypeApiLayerProperties (some [2, 2]) → props.length < 2 ^ 32 - 1) ∧
    (HonoursTwoCall (extensionProperties twoExtensionLayer ((some ['a']).filter (!·.isEmpty)))
        (enumerateInstanceExtensionProperties twoExtensionLayer (some ['a']) 2 true (some [2, 2]))
        xrTypeExtensionProperties 2 (some [2, 2]) ApiLayerInterface.quietWorld ↔
      ∀ props, Available (extensionProperties twoExtensionLayer ((some ['a']).filter (!·.isEmpty)))
          ApiLayerInterface.quietWorld props →
        (2 = 0 ∨ WellTyped xrTypeExtensionProperties (some [2, 2]) → props.length < 2 ^ 32) ∧
          ¬ Interrupted 2 (some [2, 2]) (props.length % 2 ^ 32)) :=
  enumerations_honour_iff twoExtensionLayer ApiLayerInterface.quietWorld (by simp) (some ['a'])

/-- The second element has a wrong type, and the first one is written nevertheless. -/
theorem secondElement_interrupts :
    ¬ HonoursTwoCall (extensionProperties twoExtensionLayer (some ['a']))
      (enumerateInstanceExtensionProperties twoExtensionLayer (some ['a']) 2 true (some [2, 99]))
      xrTypeExtensionProperties 2 (some [2, 99]) ApiLayerInterface.quietWorld := by
  have hrun : enumerateInstanceExtensionProperties twoExtensionLayer (some ['a']) 2 true
      (some [2, 99]) ApiLayerInterface.quietWorld =
      .ok (xrErrorValidationFailure, none, [⟨['x'], 1⟩])
        ApiLayerInterface.quietWorld.tick.tick := rfl
  intro h
  exact absurd (h.2 _ _ hrun (show xrFailed xrErrorValidationFailure by decide)) (by simp)

end LoaderCore
end OpenXRSdk
