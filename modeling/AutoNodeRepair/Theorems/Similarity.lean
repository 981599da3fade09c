import AutoNodeRepair.Model.Similarity
import AutoNodeRepair.Logic.Cluster
import Mathlib.Algebra.Order.Field.Rat
import Mathlib.Tactic.Linarith
import Mathlib.Tactic.NormNum

/-!
# Similarity is mutual, but not of every node to itself

What the comparison of two node infos comes down to, key by key
(`isNodeInfoSimilar_iff`): the larger of two quantities is the larger one from either
side, so neither node info is preferred. But the tolerance is a part of the larger
quantity, and below zero a part of it is less than no difference at all. Quantities are
compared as an `int64` number of thousandths; what is said of a node and itself is said of
quantities that fit (`NodeInfo.MillisFit`).
-/

namespace AutoNodeRepair

open Collect

theorem withinTolerance_comm (ratio : ℚ) (a b : Quantity) :
    withinTolerance ratio a b = withinTolerance ratio b a := by
  simp only [withinTolerance, max_comm, min_comm]

/-- A quantity that fits is within the tolerance of itself unless it is negative. -/
theorem withinTolerance_self {ratio : ℚ} (hratio : 0 < ratio) {q : Quantity}
    (hfits : FitsInt64 q.millis) : withinTolerance ratio q q = true ↔ 0 ≤ q.nanos := by
  have hsign : 0 ≤ q.millis ↔ 0 ≤ q.nanos := by
    unfold Quantity.millis Quantity.units
    split
    case isTrue => omega
    case isFalse => omega
  rw [← hsign]
  simp [withinTolerance, hratio, Quantity.milliValue_of_fits hfits]

/-- The comparison, key by key. -/
structure Similar (n1 n2 : NodeInfo) : Prop where
  capacity : Paired (fun a b => a.nanos = b.nanos) n1.node.capacity n2.node.capacity
  allocatable : Paired
    (fun a b => withinTolerance maxAllocatableDifferenceRatio a b = true)
    n1.node.allocatable n2.node.allocatable
  free : Paired (fun a b => withinTolerance maxFreeDifferenceRatio a b = true) n1.free n2.free
  labels : Paired (fun a b => a = b) n1.comparedLabels n2.comparedLabels

theorem isNodeInfoSimilar_iff (n1 n2 : NodeInfo) :
    isNodeInfoSimilar n1 n2 = true ↔ Similar n1 n2 := by
  have hcapacity := all_columns_iff (fun a b : Quantity => a.nanos == b.nanos)
    n1.node.capacity n2.node.capacity
  have hallocatable := all_columns_iff (withinTolerance maxAllocatableDifferenceRatio)
    n1.node.allocatable n2.node.allocatable
  have hfree := all_columns_iff (withinTolerance maxFreeDifferenceRatio) n1.free n2.free
  have hlabels := all_columns_iff (fun a b : String => a == b) n1.comparedLabels n2.comparedLabels
  simp only [beq_iff_eq] at hcapacity hlabels
  have hguards : ∀ a b c d : Bool, (if (!a) = true then false else if (!b) = true then false
      else if (!c) = true then false else d) = (a && (b && (c && d))) := by decide
  simp only [isNodeInfoSimilar, compareResourceMapsWithTolerance, List.map_cons, List.map_nil,
    hguards]
  rw [Bool.and_eq_true, Bool.and_eq_true, Bool.and_eq_true, hcapacity, hallocatable, hfree,
    hlabels]
  constructor
  · rintro ⟨hc, ha, hf, hl⟩
    exact ⟨hc, ha, hf, hl⟩
  · rintro ⟨hc, ha, hf, hl⟩
    exact ⟨hc, ha, hf, hl⟩

theorem Similar.symm {n1 n2 : NodeInfo} (h : Similar n1 n2) : Similar n2 n1 where
  capacity := h.capacity.symm fun _ _ => Eq.symm
  allocatable := h.allocatable.symm fun a b hab => by rwa [withinTolerance_comm]
  free := h.free.symm fun a b hab => by rwa [withinTolerance_comm]
  labels := h.labels.symm fun _ _ => Eq.symm

theorem isNodeInfoSimilar_comm (n1 n2 : NodeInfo) :
    isNodeInfoSimilar n1 n2 = isNodeInfoSimilar n2 n1 := by
  rw [Bool.eq_iff_iff, isNodeInfoSimilar_iff, isNodeInfoSimilar_iff]
  exact ⟨Similar.symm, Similar.symm⟩

/-! ## Node groups -/

theorem mem_findSimilarNodeGroups {groups : List Asg} {infos : String → Option NodeInfo}
    {g h : Asg} (hmem : h ∈ groups) {gInfo hInfo : NodeInfo} (hgInfo : infos g.id = some gInfo)
    (hhInfo : infos h.id = some hInfo) :
    ∃ similar, findSimilarNodeGroups g groups infos = .ok similar ∧
      (h ∈ similar ↔ h.id ≠ g.id ∧ isNodeInfoSimilar gInfo hInfo = true) := by
  refine ⟨_, by rw [findSimilarNodeGroups, hgInfo], ?_⟩
  by_cases hid : h.id = g.id
  · simp [hid]
  · simp [hid, hmem, hhInfo]

/-- **Similarity is mutual.** Of two groups of a provider that have templates, each is found
similar to the other or neither is. -/
theorem findSimilarNodeGroups_mutual (groups : List Asg) (infos : String → Option NodeInfo)
    (g h : Asg) (hg : g ∈ groups) (hh : h ∈ groups) (hgInfo : (infos g.id).isSome = true)
    (hhInfo : (infos h.id).isSome = true) :
    ∃ similarToG similarToH, findSimilarNodeGroups g groups infos = .ok similarToG ∧
      findSimilarNodeGroups h groups infos = .ok similarToH ∧
      (h ∈ similarToG ↔ g ∈ similarToH) := by
  obtain ⟨gInfo, hgInfo⟩ := Option.isSome_iff_exists.mp hgInfo
  obtain ⟨hInfo, hhInfo⟩ := Option.isSome_iff_exists.mp hhInfo
  obtain ⟨similarToG, hfromG, hmemG⟩ := mem_findSimilarNodeGroups hh hgInfo hhInfo
  obtain ⟨similarToH, hfromH, hmemH⟩ := mem_findSimilarNodeGroups hg hhInfo hgInfo
  refine ⟨similarToG, similarToH, hfromG, hfromH, ?_⟩
  rw [hmemG, hmemH, isNodeInfoSimilar_comm gInfo hInfo, ne_comm]

/-- A node of four cores with an SSD; the host name and what is left for pods vary. -/
def fourCores (host : String) (allocatable : Quantity) : NodeInfo :=
  newNodeInfo
    { name := host, providerID := ""
      labels := ((∅ : LabelMap).insert labelHostname host).insert "disk" "ssd"
      capacity := (∅ : ResourceList).insert resourceCPU (.newQuantity 4)
      allocatable := (∅ : ResourceList).insert resourceCPU allocatable }
    [{ ns := "default", name := "p", nodeName := host
       containers := [{ requests :=
        (∅ : ResourceList).insert resourceCPU (.newMilliQuantity 500) }] }]

/-- The templates of two groups, different and within the tolerance. -/
def twinTemplates (id : String) : Option NodeInfo :=
  if id = "g" then some (fourCores "n1" (.newMilliQuantity 3900))
  else if id = "k" then some (fourCores "n2" (.newMilliQuantity 3800))
  else none

theorem findSimilarNodeGroups_twins :
    (groupG ∈ [groupG, groupK] ∧ groupK ∈ [groupG, groupK] ∧
      (twinTemplates groupG.id).isSome = true ∧ (twinTemplates groupK.id).isSome = true) ∧
    ∃ similarToG similarToK,
      findSimilarNodeGroups groupG [groupG, groupK] twinTemplates = .ok similarToG ∧
      findSimilarNodeGroups groupK [groupG, groupK] twinTemplates = .ok similarToK ∧
      (groupK ∈ similarToG ↔ groupG ∈ similarToK) :=
  ⟨⟨by decide, by decide, rfl, rfl⟩, findSimilarNodeGroups_mutual [groupG, groupK] twinTemplates
    groupG groupK (by decide) (by decide) rfl rfl⟩

example :
    (findSimilarNodeGroups groupG [groupG, groupK] twinTemplates).toOption = some [groupK] := by
  decide +kernel

/-! ## A node and itself -/

/-- What is allocatable and what is free of it fits 64 bits in thousandths. -/
structure NodeInfo.MillisFit (n : NodeInfo) : Prop where
  allocatable : ∀ (res : String) (q : Quantity), n.node.allocatable[res]? = some q →
    FitsInt64 q.millis
  free : ∀ (res : String) (q : Quantity), n.free[res]? = some q → FitsInt64 q.millis

/-- **When a node is similar to itself.** If the quantities that are compared fit, exactly if
nothing that is allocatable is negative, and its pods request no more of any resource than
is allocatable. -/
theorem isNodeInfoSimilar_self_iff (n : NodeInfo) (hfits : n.MillisFit) :
    isNodeInfoSimilar n n = true ↔
      (∀ (res : String) (q : Quantity), n.node.allocatable[res]? = some q → 0 ≤ q.nanos) ∧
      ∀ (res : String) (q : Quantity), n.requestedResource.resourceList[res]? = some q →
        q.nanos ≤ (n.node.allocatable.getD res ⟨0⟩).nanos := by
  have hratio : 0 < maxAllocatableDifferenceRatio := by norm_num [maxAllocatableDifferenceRatio]
  have hratio' : 0 < maxFreeDifferenceRatio := by norm_num [maxFreeDifferenceRatio]
  have hfree : (∀ (res : String) (q : Quantity), n.free[res]? = some q → 0 ≤ q.nanos) ↔
      ∀ (res : String) (q : Quantity), n.requestedResource.resourceList[res]? = some q →
        q.nanos ≤ (n.node.allocatable.getD res ⟨0⟩).nanos := by
    refine forall_congr' fun res => ?_
    rw [NodeInfo.free, Std.ExtTreeMap.getElem?_map]
    cases n.requestedResource.resourceList[res]? with
    | none => simp
    | some q => simp [Quantity.sub]
  rw [isNodeInfoSimilar_iff, ← hfree]
  constructor
  · intro hself
    have hallocatable := paired_self_iff.mp hself.allocatable
    have hfree := paired_self_iff.mp hself.free
    refine ⟨fun res q hq => ?_, fun res q hq => ?_⟩
    · exact (withinTolerance_self hratio (hfits.allocatable res q hq)).mp (hallocatable res q hq)
    · exact (withinTolerance_self hratio' (hfits.free res q hq)).mp (hfree res q hq)
  · rintro ⟨hallocatable, hfree⟩
    exact
      { capacity := paired_self_iff.mpr fun _ _ _ => rfl
        allocatable := paired_self_iff.mpr fun res q hq =>
          (withinTolerance_self hratio (hfits.allocatable res q hq)).mpr (hallocatable res q hq)
        free := paired_self_iff.mpr fun res q hq =>
          (withinTolerance_self hratio' (hfits.free res q hq)).mpr (hfree res q hq)
        labels := paired_self_iff.mpr fun _ _ _ => rfl }

/-- A node of half a core, with a pod that requests so much cpu. -/
def halfCoreNode (cpu : Quantity) : NodeInfo :=
  newNodeInfo
    { name := "n", providerID := ""
      capacity := (∅ : ResourceList).insert resourceCPU (.newMilliQuantity 500)
      allocatable := (∅ : ResourceList).insert resourceCPU (.newMilliQuantity 500) }
    [{ ns := "default", name := "p", nodeName := "n"
       containers := [{ requests := (∅ : ResourceList).insert resourceCPU cpu }] }]

/-- A pod that requests a fifth of it leaves the node similar to itself. -/
theorem isNodeInfoSimilar_self_sample :
    let n := halfCoreNode (.newMilliQuantity 100)
    n.MillisFit ∧ isNodeInfoSimilar n n = true := by
  intro n
  have hall : ∀ {P : String → Quantity → Prop} [∀ res q, Decidable (P res q)]
      (m : ResourceList), (m.toList.all fun entry => P entry.1 entry.2) = true →
      ∀ res q, m[res]? = some q → P res q := by
    intro P _ m hm res q hq
    have hmem := Std.ExtTreeMap.mem_toList_iff_getElem?_eq_some.mpr hq
    simpa using List.all_eq_true.mp hm (res, q) hmem
  have hfits : n.MillisFit := ⟨hall _ (by decide +kernel), hall _ (by decide +kernel)⟩
  refine ⟨hfits, (isNodeInfoSimilar_self_iff n hfits).mpr ⟨?_, ?_⟩⟩
  · exact hall _ (by decide +kernel)
  · exact hall _ (by decide +kernel)

/-- A pod that requests a whole core makes a node of half a core unlike itself. -/
theorem isNodeInfoSimilar_overcommitted :
    isNodeInfoSimilar (halfCoreNode (.newMilliQuantity 1000))
      (halfCoreNode (.newMilliQuantity 1000)) = false := by
  decide +kernel

example :
    isNodeInfoSimilar (halfCoreNode (.newMilliQuantity 100))
      (halfCoreNode (.newMilliQuantity 110)) = true := by
  decide +kernel

end AutoNodeRepair
