import AutoNodeRepair.Collect.Columns
import AutoNodeRepair.Model.Api
import AutoNodeRepair.Model.DeleteNode
import AutoNodeRepair.Model.Template
import Mathlib.Algebra.Order.Ring.Unbundled.Rat

/-!
# Similar node groups

`utils/nodegroupset/compare_nodegroups.go` and `node_group_set.go`: two node infos are
similar if their capacities are the same, what is allocatable and what is free of it are
close, and their labels agree but for those that tell nodes apart. The tolerances are
`float64` in the source and exact here.
-/

namespace AutoNodeRepair

open Collect Std

/-- `MaxAllocatableDifferenceRatio`. -/
def maxAllocatableDifferenceRatio : ℚ := 1 / 20

/-- `MaxFreeDifferenceRatio`. -/
def maxFreeDifferenceRatio : ℚ := 1 / 20

/-- The test of two quantities: the difference is measured by the larger one. -/
def withinTolerance (maxDifferenceRatio : ℚ) (a b : Quantity) : Bool :=
  let larger : ℚ := max a.milliValue b.milliValue
  let smaller : ℚ := min a.milliValue b.milliValue
  !decide (larger - smaller > larger * maxDifferenceRatio)

/-- `compareResourceMapsWithTolerance`. -/
def compareResourceMapsWithTolerance (resources : ExtTreeMap String (List Quantity))
    (maxDifferenceRatio : ℚ) : Bool :=
  resources.toList.all fun entry => testPair (withinTolerance maxDifferenceRatio) entry.2

/-- What is left of the allocatable resources; of a resource that is not allocatable there is
none, and less than that once it is requested. -/
def NodeInfo.free (n : NodeInfo) : ResourceList :=
  n.requestedResource.resourceList.map fun res quantity =>
    (n.node.allocatable.getD res ⟨0⟩).sub quantity

/-- The labels that are not compared. -/
def isNodeLabel (label : String) : Bool :=
  label = labelHostname || label = labelZoneFailureDomain || label = labelZoneRegion

/-- The labels that are compared. -/
def NodeInfo.comparedLabels (n : NodeInfo) : LabelMap :=
  n.node.labels.filter fun label _ => !isNodeLabel label

/-- `IsNodeInfoSimilar`. -/
def isNodeInfoSimilar (n1 n2 : NodeInfo) : Bool :=
  let nodes := [n1, n2]
  let capacity := columns (nodes.map fun n => n.node.capacity)
  let allocatable := columns (nodes.map fun n => n.node.allocatable)
  let free := columns (nodes.map NodeInfo.free)
  if !(capacity.toList.all fun entry => testPair (fun a b => a.nanos == b.nanos) entry.2) then false
  else if !compareResourceMapsWithTolerance allocatable maxAllocatableDifferenceRatio then false
  else if !compareResourceMapsWithTolerance free maxFreeDifferenceRatio then false
  else
    let labels := columns (nodes.map NodeInfo.comparedLabels)
    labels.toList.all fun entry => testPair (· == ·) entry.2

/-- `FindSimilarNodeGroups`, with the groups of the provider. -/
def findSimilarNodeGroups (nodeGroup : Asg) (nodeGroups : List Asg)
    (nodeInfosForGroups : String → Option NodeInfo) : Except AutorepairError (List Asg) :=
  match nodeInfosForGroups nodeGroup.id with
  | none => .error ⟨.internalError,
      s!"failed to find template node for node group {nodeGroup.id}"⟩
  | some nodeInfo =>
      .ok (nodeGroups.filter fun ng =>
        if ng.id = nodeGroup.id then false
        else
          match nodeInfosForGroups ng.id with
          | none => false
          | some ngNodeInfo => isNodeInfoSimilar nodeInfo ngNodeInfo)

end AutoNodeRepair
