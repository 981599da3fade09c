import AutoNodeRepair.Model.DeleteNode
import AutoNodeRepair.Model.NodeInfo
import AutoNodeRepair.Model.Repair

/-!
# The simulator

`simulator/cluster.go` and `simulator/nodes.go`: the nodes that run nothing of their own,
and the pods that a node would run if it had just been created. Both answers are read off
the drain filter.
-/

namespace AutoNodeRepair

open Interact

/-! ## `cluster.go` -/

/-- One round of the loop of `FindEmptyNodesToRemove`. Both flags are set, so that the filter
blocks on all pods. -/
def isEmptyNode (nodeNameToNodeInfo : String → Option (List Pod)) (node : Node) : Ctl Bool := do
  match nodeNameToNodeInfo node.name with
  | none => return true
  | some nodePods =>
      match ← fastGetPodsToMove nodePods true true [] with
      | .error _ => return false
      | .ok podsToRemove => return podsToRemove.isEmpty

/-- The loop of `FindEmptyNodesToRemove`. -/
def findEmptyLoop (nodeNameToNodeInfo : String → Option (List Pod)) : List Node → Ctl (List Node)
  | [] => return []
  | node :: rest => do
      let empty ← isEmptyNode nodeNameToNodeInfo node
      let result ← findEmptyLoop nodeNameToNodeInfo rest
      return if empty then node :: result else result

/-- `FindEmptyNodesToRemove`. -/
def findEmptyNodesToRemove (candidates : List Node) (pods : List Pod) : Ctl (List Node) :=
  findEmptyLoop (createNodeNameToInfoMap pods candidates) candidates

/-! ## `nodes.go` -/

/-- What the API server lists under the field selector `spec.nodeName`. -/
abbrev PodListing := String → Except String (List PodSpec)

/-- `GetRequiredPodsForNode`. -/
def getRequiredPodsForNode (nodename : String) (client : PodListing) :
    Ctl (Except AutorepairError (List PodSpec)) := do
  match client nodename with
  | .error err => return .error ⟨.apiCallError, err⟩
  | .ok allPods =>
      let currentTime ← now
      match ← getPodsForDeletionOnNodeDrain (allPods.map PodSpec.toPod) [] true false false false
        0 currentTime with
      | .error err => return .error ⟨.internalError, err⟩
      | .ok podsToRemoveList =>
          -- pods that are alike in all that the filter reads are returned or left out together
          let podsToRemoveMap :=
            (allPods.filter fun pod => pod.toPod ∈ podsToRemoveList).map PodSpec.selfLink
          return .ok (allPods.filter fun pod =>
            pod.deletionTimestamp.isNone && !podsToRemoveMap.contains pod.selfLink)

end AutoNodeRepair
