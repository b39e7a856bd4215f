import OpenXRSdk.ExtensionAgreement

/-!
# Merging extension lists

What three merges in a row make of the names and the versions that are enumerated, and when a
name is enumerated twice.
-/
namespace OpenXRSdk

open KeyedLists StateProgram

def versionOf (props : List XrExtensionProperties) (n : StdString) : Option ℕ :=
  (props.find? (·.extensionName = n)).map (·.extensionVersion)

theorem versionOf_eq_none {props : List XrExtensionProperties} {n : StdString} :
    versionOf props n = none ↔ n ∉ extensionNames props := by
  rw [versionOf, Option.map_eq_none_iff]
  exact find?_key_eq_none

theorem versionOf_append (props exts : List XrExtensionProperties) (n : StdString) :
    versionOf (props ++ exts) n = (versionOf props n).or (versionOf exts n) := by
  rw [versionOf, List.find?_append, Option.map_or]
  rfl

theorem versionOf_singleton (ext : XrExtensionProperties) (n : StdString) :
    versionOf [ext] n = if n = ext.extensionName then some ext.extensionVersion else none := by
  by_cases h : ext.extensionName = n
  · simp [versionOf, h]
  · simp [versionOf, h, Ne.symm h]

theorem versionOf_of_mem {props : List XrExtensionProperties} (hdistinct : (extensionNames props).Nodup)
    {prop : XrExtensionProperties} (h : prop ∈ props) :
    versionOf props prop.extensionName = some prop.extensionVersion := by
  rw [versionOf, find?_key_of_mem hdistinct h]
  rfl

theorem versionOf_changeVersion (k : StdString) (f : ℕ → ℕ) (props : List XrExtensionProperties)
    (n : StdString) : versionOf (changeVersion k f props) n =
      if n = k then (versionOf props k).map f else versionOf props n := by
  unfold versionOf changeVersion
  rw [find?_updateFirst _ (XrExtensionProperties.mapVersion_name f)]
  split_ifs
  · rw [Option.map_map, Option.map_map]
    rfl
  · rfl

/-! ## The extensions of the layers -/

def ExtensionListing.reportedName (ext : ExtensionListing) : StdString :=
  boundedCopy xrMaxExtensionNameSize ext.name

/-- No name that does not fit comes after another one that is reported the same way. -/
def NoLateLongName (exts : List ExtensionListing) : Prop :=
  exts.Pairwise fun ext ext' => ext.reportedName = ext'.reportedName → ext'.reportedName = ext'.name

def listedVersions (exts : List ExtensionListing) (n : StdString) : List ℕ :=
  (exts.filter (·.reportedName = n)).map (·.extensionVersion)

namespace ManifestFile

theorem addExtension_eq (ext : ExtensionListing) (props : List XrExtensionProperties) :
    addExtension ext props = if ext.name ∈ extensionNames props then
        changeVersion ext.name (max · ext.extensionVersion) props
      else props ++ [⟨ext.reportedName, ext.extensionVersion⟩] := by
  induction props with
  | nil => rfl
  | cons prop props ih =>
    unfold addExtension
    by_cases h : prop.extensionName = ext.name
    · simp [extensionNames, changeVersion, updateFirst, XrExtensionProperties.mapVersion, h]
    · rw [if_neg h, ih]
      by_cases hmem : ext.name ∈ extensionNames props
      · have hcons : ext.name ∈ extensionNames (prop :: props) := List.mem_cons_of_mem _ hmem
        rw [if_pos hmem, if_pos hcons]
        simp [changeVersion, updateFirst, h]
      · have hcons : ext.name ∉ extensionNames (prop :: props) := by
          simpa [extensionNames, Ne.symm h] using hmem
        rw [if_neg hmem, if_neg hcons]
        rfl

theorem nodup_addExtension {ext : ExtensionListing} {props : List XrExtensionProperties}
    (hfit : Fit props) : (extensionNames (addExtension ext props)).Nodup ↔
      (extensionNames props).Nodup ∧
        (ext.reportedName ∈ extensionNames props → ext.reportedName = ext.name) := by
  rw [addExtension_eq]
  by_cases hmem : ext.name ∈ extensionNames props
  · have hname : ext.reportedName = ext.name := hfit _ hmem
    rw [if_pos hmem, names_changeVersion, and_iff_left fun _ => hname]
  · have hnew : ext.reportedName ∉ extensionNames props ↔
        (ext.reportedName ∈ extensionNames props → ext.reportedName = ext.name) :=
      ⟨fun h h' => absurd h' h, fun h h' => hmem (h h' ▸ h')⟩
    rw [if_neg hmem, ← hnew, extensionNames, List.map_append, List.map_singleton,
      List.nodup_append_comm, List.singleton_append, List.nodup_cons, and_comm]
    rfl

theorem versionOf_addExtension {ext : ExtensionListing} {props : List XrExtensionProperties}
    (hfit : Fit props)
    (h : ext.reportedName ∈ extensionNames props → ext.reportedName = ext.name) (n : StdString) :
    versionOf (addExtension ext props) n = Option.merge max (versionOf props n)
      (if n = ext.reportedName then some ext.extensionVersion else none) := by
  rw [addExtension_eq]
  by_cases hmem : ext.name ∈ extensionNames props
  · have hname : ext.reportedName = ext.name := hfit _ hmem
    rw [if_pos hmem, versionOf_changeVersion, hname]
    split_ifs with hn
    · rw [hn]
      cases hv : versionOf props ext.name with
      | none => exact absurd hmem (versionOf_eq_none.mp hv)
      | some v => rfl
    · simp
  · have hnone : versionOf props ext.reportedName = none :=
      versionOf_eq_none.mpr fun hmem' => hmem (h hmem' ▸ hmem')
    rw [if_neg hmem, versionOf_append, versionOf_singleton]
    split_ifs with hn
    · subst hn
      rw [hnone]
      rfl
    · simp

theorem addExtensions_append (exts : List ExtensionListing) (ext : ExtensionListing)
    (props : List XrExtensionProperties) :
    addExtensions (exts ++ [ext]) props = addExtension ext (addExtensions exts props) := by
  simp [addExtensions]

theorem mem_names_addExtensions (exts : List ExtensionListing) (n : StdString) :
    n ∈ extensionNames (addExtensions exts []) ↔ ∃ ext ∈ exts, ext.reportedName = n := by
  rw [names_addExtensions _ fit_nil]
  simp [extensionNames, ExtensionListing.reportedName]

/-- Names are reported once exactly when those that do not fit come first. -/
theorem nodup_addExtensions_iff (exts : List ExtensionListing) :
    (extensionNames (addExtensions exts [])).Nodup ↔ NoLateLongName exts := by
  induction exts using List.reverseRecOn with
  | nil => simp [addExtensions, extensionNames, NoLateLongName]
  | append_singleton exts ext ih =>
    rw [addExtensions_append, nodup_addExtension (fit_addExtensions exts fit_nil), ih,
      mem_names_addExtensions]
    unfold NoLateLongName
    simp [List.pairwise_append]

/-- The largest of the versions that the layers list is reported. -/
theorem versionOf_addExtensions {exts : List ExtensionListing} (h : NoLateLongName exts)
    (n : StdString) : versionOf (addExtensions exts []) n = (listedVersions exts n).max? := by
  induction exts using List.reverseRecOn with
  | nil => rfl
  | append_singleton exts ext ih =>
    obtain ⟨hexts, -, hlast⟩ := List.pairwise_append.mp h
    have hname : ext.reportedName ∈ extensionNames (addExtensions exts []) →
        ext.reportedName = ext.name := by
      rw [mem_names_addExtensions]
      rintro ⟨ext', hmem, heq⟩
      exact hlast ext' hmem ext List.mem_cons_self heq
    rw [addExtensions_append, versionOf_addExtension (fit_addExtensions exts fit_nil) hname, ih hexts]
    unfold listedVersions
    rw [List.filter_append, List.map_append]
    by_cases hn : ext.reportedName = n
    · have hlast : (xs : List ℕ) → (xs ++ [ext.extensionVersion]).max? =
          Option.merge max xs.max? (some ext.extensionVersion) := by
        intro xs
        cases xs with
        | nil => rfl
        | cons x xs =>
          rw [List.cons_append, List.max?_cons', List.max?_cons', List.foldl_append]
          rfl
      simp [hn, hlast]
    · simp [hn, Ne.symm hn]

end ManifestFile

/-! ## The extensions of the runtime and of the loader -/

namespace RuntimeInterface

/-- The loop over the runtime's extensions, as far as it changes entries that were there. -/
theorem versionOf_overrideVersions {exts : List XrExtensionProperties}
    (hdistinct : (extensionNames exts).Nodup) (props : List XrExtensionProperties) (n : StdString) :
    versionOf (exts.foldl (fun ps ext => overrideVersion ext ps) props) n =
      (versionOf props n).map fun version => (versionOf exts n).getD version := by
  induction exts generalizing props with
  | nil =>
    rw [List.foldl_nil]
    cases versionOf props n <;> rfl
  | cons ext exts ih =>
    obtain ⟨hnew, hrest⟩ := List.nodup_cons.mp hdistinct
    rw [List.foldl_cons, ih hrest, overrideVersion_eq, versionOf_changeVersion,
      ← List.singleton_append, versionOf_append, versionOf_singleton]
    split_ifs with hn
    · have hnone : versionOf exts n = none := versionOf_eq_none.mpr (hn ▸ hnew)
      rw [hnone, hn]
      cases versionOf props ext.extensionName <;> rfl
    · rfl

/-- Where the runtime lists a name, its version counts. -/
theorem versionOf_mergeExtensions {exts : List XrExtensionProperties}
    (hdistinct : (extensionNames exts).Nodup) (props : List XrExtensionProperties) (n : StdString) :
    versionOf (mergeExtensions props exts) n = (versionOf exts n).or (versionOf props n) := by
  unfold mergeExtensions
  rw [versionOf_append, versionOf_overrideVersions hdistinct]
  cases hv : versionOf props n with
  | some version => cases versionOf exts n <;> rfl
  | none =>
    have hmem : n ∉ extensionNames props := versionOf_eq_none.mp hv
    have hnone : ∀ prop ∈ props, prop.extensionName ≠ n := by simpa [extensionNames] using hmem
    have hfilter : versionOf (exts.filter fun ext =>
        ¬ props.any (·.extensionName = ext.extensionName)) n = versionOf exts n := by
      unfold versionOf
      rw [List.find?_filter]
      congr 2
      funext ext
      by_cases hn : ext.extensionName = n
      · simpa [hn] using hnone
      · simp [hn]
    rw [hfilter]
    cases versionOf exts n <;> rfl

theorem nodup_mergeExtensions {exts : List XrExtensionProperties}
    (hdistinct : (extensionNames exts).Nodup) (props : List XrExtensionProperties) :
    (extensionNames (mergeExtensions props exts)).Nodup ↔ (extensionNames props).Nodup := by
  have hsub : (extensionNames (exts.filter fun ext =>
      ¬ props.any (·.extensionName = ext.extensionName))).Nodup :=
    hdistinct.sublist (List.filter_sublist.map _)
  have hapart : ∀ n ∈ extensionNames props, ∀ n' ∈ extensionNames (exts.filter fun ext =>
      ¬ props.any (·.extensionName = ext.extensionName)), n ≠ n' := by
    rintro n hn n' hn' rfl
    obtain ⟨ext, hext, rfl⟩ := List.mem_map.mp hn'
    obtain ⟨prop, hprop, hname⟩ := List.mem_map.mp hn
    have := (List.mem_filter.mp hext).2
    simp only [List.any_eq_true, decide_eq_true_eq, not_exists, not_and] at this
    exact this prop hprop hname
  have hnames := names_overrideVersions props exts
  unfold mergeExtensions
  unfold extensionNames at hnames hsub hapart ⊢
  rw [List.map_append, hnames, List.nodup_append]
  exact and_iff_left ⟨hsub, hapart⟩

end RuntimeInterface

namespace LoaderCore

theorem versionOf_addLoaderExtension (props : List XrExtensionProperties) (ext : XrExtensionProperties)
    (n : StdString) : versionOf (addLoaderExtension props ext) n =
      Option.merge max (versionOf props n) (versionOf [ext] n) := by
  have hany : props.any (·.extensionName = ext.extensionName) = true ↔
      ext.extensionName ∈ extensionNames props := by
    simp [extensionNames]
  unfold addLoaderExtension
  rw [versionOf_singleton]
  split_ifs with hmem hn hn
  · rw [raiseVersion_eq, versionOf_changeVersion, if_pos hn, hn]
    cases hv : versionOf props ext.extensionName with
    | none => exact absurd (hany.mp hmem) (versionOf_eq_none.mp hv)
    | some version => rfl
  · rw [raiseVersion_eq, versionOf_changeVersion, if_neg hn, Option.merge_none_right]
  · have hnone : versionOf props n = none := versionOf_eq_none.mpr (hn ▸ mt hany.mpr hmem)
    rw [versionOf_append, versionOf_singleton, if_pos hn, hnone]
    rfl
  · rw [versionOf_append, versionOf_singleton, if_neg hn, Option.or_none, Option.merge_none_right]

theorem nodup_addLoaderExtension (props : List XrExtensionProperties) (ext : XrExtensionProperties) :
    (extensionNames (addLoaderExtension props ext)).Nodup ↔ (extensionNames props).Nodup := by
  unfold addLoaderExtension
  split_ifs with hmem
  · rw [raiseVersion_eq, names_changeVersion]
  · have hnew : ext.extensionName ∉ extensionNames props := by simpa [extensionNames] using hmem
    rw [extensionNames, List.map_append, List.map_singleton, List.nodup_append_comm,
      List.singleton_append, List.nodup_cons]
    exact and_iff_right hnew

/-! ## The merged list -/

/-- The runtime's version, or else the largest that a layer lists, raised to the loader's own. -/
def mergedVersion (manifests : List ApiLayerManifestFile) (exts : List XrExtensionProperties)
    (n : StdString) : Option ℕ :=
  Option.merge max
    ((versionOf exts n).or (listedVersions (manifests.flatMap fun m => m.instanceExtensions) n).max?)
    (versionOf LoaderInstance.loaderSpecificExtensions n)

/-- The list has one entry for each name of the layers, the runtime and the loader, with the
version that the name should have. -/
structure Merges (manifests : List ApiLayerManifestFile) (exts props : List XrExtensionProperties) :
    Prop where
  distinct : (extensionNames props).Nodup
  names : ∀ n, n ∈ extensionNames props ↔ (∃ m ∈ manifests, n ∈ m.reportedNames) ∨
    n ∈ extensionNames exts ∨ n ∈ extensionNames LoaderInstance.loaderSpecificExtensions
  versions : ∀ prop ∈ props,
    some prop.extensionVersion = mergedVersion manifests exts prop.extensionName

theorem merges_iff (manifests : List ApiLayerManifestFile) {exts : List XrExtensionProperties}
    (hdistinct : (extensionNames exts).Nodup) :
    Merges manifests exts (LoaderInstance.loaderSpecificExtensions.foldl addLoaderExtension
        (RuntimeInterface.mergeExtensions (ApiLayerInterface.collectExtensions manifests []) exts)) ↔
      NoLateLongName (manifests.flatMap fun m => m.instanceExtensions) := by
  have hnodup : (extensionNames (LoaderInstance.loaderSpecificExtensions.foldl addLoaderExtension
      (RuntimeInterface.mergeExtensions (ApiLayerInterface.collectExtensions manifests []) exts))).Nodup ↔
      NoLateLongName (manifests.flatMap fun m => m.instanceExtensions) := by
    rw [← ManifestFile.nodup_addExtensions_iff, ← ManifestFile.collectExtensions_eq]
    exact (nodup_addLoaderExtension _ _).trans (RuntimeInterface.nodup_mergeExtensions hdistinct _)
  refine ⟨fun h => hnodup.mp h.distinct, fun h => ⟨hnodup.mpr h, fun n => ?_, fun prop hprop => ?_⟩⟩
  · rw [names_addLoaderExtensions, names_mergeExtensions, names_collectExtensions, or_assoc]
  · rw [← versionOf_of_mem (hnodup.mpr h) hprop]
    refine (versionOf_addLoaderExtension _ _ _).trans ?_
    rw [RuntimeInterface.versionOf_mergeExtensions hdistinct, ManifestFile.collectExtensions_eq,
      ManifestFile.versionOf_addExtensions h]
    rfl

/-- What is enumerated without a layer name is merged exactly when no layer lists a name that
does not fit after another one that is reported the same way. -/
theorem extensionProperties_merges_iff {env : Environment}
    {implicit explicit : List ApiLayerManifestFile} {exts : ℕ → List XrExtensionProperties}
    (hfinds : ApiLayerInterface.Finds env implicit explicit)
    (hreports : RuntimeInterface.Reports env exts)
    (hdistinct : ∀ gipa, (extensionNames (exts gipa)).Nodup) {w w' : World} {result : XrResult}
    {props : List XrExtensionProperties}
    (h : extensionProperties env none w = .ok (result, props) w') (hs : xrSucceeded result) :
    ∃ rt, w'.runtime = some rt ∧
      (Merges (ApiLayerInterface.enumeratedManifests implicit explicit
            (ApiLayerInterface.environmentApiLayers env w)) (exts rt.getInstanceProcAddr) props ↔
        NoLateLongName ((ApiLayerInterface.enumeratedManifests implicit explicit
          (ApiLayerInterface.environmentApiLayers env w)).flatMap fun m => m.instanceExtensions)) := by
  obtain ⟨rt, hrt, -, rfl⟩ := extensionProperties_run hfinds hreports h hs
  exact ⟨rt, hrt, merges_iff _ (hdistinct _)⟩

theorem extensionProperties_merges_iff_b : ∃ props w',
    extensionProperties (layersNamed ['b']) none ApiLayerInterface.quietWorld =
      .ok (xrSuccess, props) w' ∧
    Merges [ApiLayerInterface.implicitLayer ['b'], explicitLayer ['a'] ['x']] [] props := by
  refine ⟨_, _, rfl, ?_⟩
  obtain ⟨rt, -, h⟩ := extensionProperties_merges_iff (finds_layersNamed ['b'])
    (reports_layersNamed ['b']) (fun _ => List.nodup_nil)
    (rfl : extensionProperties _ none ApiLayerInterface.quietWorld = .ok (xrSuccess, _) _) (by decide)
  exact h.mpr (List.pairwise_singleton _ _)

def longExtensionName : Environment :=
  { runtimeAndLayer with
    findLayerManifests := fun _ type => .ok (xrSuccess,
      if type = .implicitApiLayer then
        [{ ApiLayerInterface.implicitLayer ['a'] with
            instanceExtensions := [⟨List.replicate 128 'x', 1⟩] },
          { ApiLayerInterface.implicitLayer ['b'] with
            instanceExtensions := [⟨List.replicate 128 'x', 2⟩] }]
      else []) }

set_option maxRecDepth 4000 in
theorem longExtensionName_twice : ∃ props w',
    extensionProperties longExtensionName none ApiLayerInterface.quietWorld =
      .ok (xrSuccess, props) w' ∧
    props = [⟨List.replicate 127 'x', 1⟩, ⟨List.replicate 127 'x', 2⟩,
      ⟨"XR_EXT_debug_utils".toList, 5⟩] ∧
    ¬ (extensionNames props).Nodup := by
  refine ⟨_, _, rfl, by decide +kernel, ?_⟩
  decide +kernel

end LoaderCore

end OpenXRSdk
