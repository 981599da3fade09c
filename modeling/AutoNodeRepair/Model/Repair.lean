import AutoNodeRepair.Model.DeleteNode

/-!
# The repair loop

`core/util.go`, `core/static_autorepair.go` and the loop of `main.go`: find the
nodes that stay `NotReady` over the repair period, sort them by group, and
replace those of each group in batches.

`AsgRepairNodes` recurses on what is left of its list and need not terminate,
so it takes fuel; a slice out of range ends the process (`RepairExit.panicked`).
Where a Go function keeps to itself what a property speaks about (the sizes it
polled, the lists it handed on), the model returns it as a report.
-/

namespace AutoNodeRepair

open Interact

/-- `StaticAutorepair`, reduced to the flags and options its methods read. -/
structure StaticAutorepair where
  skipNodesWithSystemPods : Bool := false
  skipNodesWithLocalStorage : Bool := false
  minReplicaCount : Int := 0
  maxGracefulTerminationSec : Int := 0
  deriving DecidableEq, Repr

/-! ## Node lists -/

/-- `ContainsNode`: nodes are compared by name. -/
def containsNode (node : Node) (nodelist : List Node) : Bool :=
  nodelist.any fun elem => node.name == elem.name

/-- `CommonNodes`: the nodes of the first list whose name is in the second. -/
def commonNodes (nodelist1 nodelist2 : List Node) : List Node :=
  nodelist1.filter fun elem => containsNode elem nodelist2

/-- `ReadyNodeLister.List`, the error dropped as its caller does. -/
def listReadyNodes : Ctl (List Node) := do
  match ← listNodes .ready with
  | .error _ => return []
  | .ok nodes => return nodes.filter isNodeReadyAndSchedulable

/-- `NotReadyNodeLister.List`, the error dropped as its caller does. -/
def listNotReadyNodes : Ctl (List Node) := do
  match ← listNodes .notReady with
  | .error _ => return []
  | .ok nodes => return nodes.filter fun node => !isNodeReadyAndSchedulable node

/-- The loop of `AsgNotReadyNodes` and `AsgReadyNodes`: the nodes of one group;
the first failing lookup ends it. -/
def nodesOfGroup (desiredAsg : Asg) : List Node → Ctl (Except String (List Node))
  | [] => return .ok []
  | node :: rest => do
      match ← nodeGroupForNode node with
      | .error err => return .error err
      | .ok asg =>
          match ← nodesOfGroup desiredAsg rest with
          | .error err => return .error err
          | .ok nodes => return .ok (if asg = some desiredAsg then node :: nodes else nodes)

/-- `AsgNotReadyNodes`. -/
def asgNotReadyNodes (desiredAsg : Asg) (notReadyNodes : List Node) :
    Ctl (List Node × Option String) := do
  match ← nodesOfGroup desiredAsg notReadyNodes with
  | .error err => return ([], some err)
  | .ok nodes => return (nodes, none)

/-- `AsgReadyNodes`. -/
def asgReadyNodes (desiredAsg : Asg) : Ctl (List Node × Option String) := do
  let readyNodes ← listReadyNodes
  match ← nodesOfGroup desiredAsg readyNodes with
  | .error err => return ([], some err)
  | .ok nodes => return (nodes, none)

/-! ## Growing the group -/

/-- `maxSize - desiredSize` in `CalcExpandSize`. Two sizes are less than `2 ^ 63` apart;
the -1 of a failed read and the largest `int` are not, and the difference wraps around. -/
def allowableIncreaseSize (asg : Asg) : Int × Option String → Int
  | (desiredSize, none) => asg.maxSize - desiredSize
  | (desiredSize, some _) => wrapInt64 (asg.maxSize - desiredSize)

/-- `CalcExpandSize`. -/
def calcExpandSize (asg : Asg) (toBeRepairedNodes : List Node) : Ctl Int := do
  let desired ← asg.targetSize
  let desiredIncreaseSize : Int := toBeRepairedNodes.length
  return if allowableIncreaseSize asg desired ≥ desiredIncreaseSize then desiredIncreaseSize
    else allowableIncreaseSize asg desired

/-- The wait of `StaticAutorepair.IncreaseSize` for the new nodes, at most
`left` more polls; the numbers of ready nodes it sees. -/
def pollReady (asg : Asg) (goal : Int) : Nat → Int → Ctl (List Int)
  | 0, _ => return []
  | left + 1, currSize => do
      if currSize ≠ goal then
        sleep (30 * second)
        let (currReadyNodes, _) ← asgReadyNodes asg
        let later ← pollReady asg goal left currReadyNodes.length
        return currReadyNodes.length :: later
      else return []

/-- What `StaticAutorepair.IncreaseSize` learns and does not return. -/
structure IncreaseReport where
  prevSize : Int
  accepted : Bool
  polls : List Int
  deriving DecidableEq, Repr

/-- `StaticAutorepair.IncreaseSize`, with its report. -/
def increaseSizeReport (asg : Asg) (incSize : Int) : Ctl IncreaseReport := do
  let (currReadyNodes, _) ← asgReadyNodes asg
  let prevSize : Int := currReadyNodes.length
  match ← asg.increaseSize incSize with
  | .error _ => return ⟨prevSize, false, []⟩
  | .ok () =>
      let polls ← pollReady asg (prevSize + incSize) 10 prevSize
      return ⟨prevSize, true, polls⟩

/-! ## Shrinking it -/

/-- `AddPod` in the map of `CreateNodeNameToInfoMap`. -/
def addPodInfo (infos : String → Option (List Pod)) (pod : Pod) : String → Option (List Pod) :=
  Function.update infos pod.nodeName (some ((infos pod.nodeName).getD [] ++ [pod]))

/-- `SetNode` in the map of `CreateNodeNameToInfoMap`. -/
def setNodeInfo (infos : String → Option (List Pod)) (node : Node) :
    String → Option (List Pod) :=
  Function.update infos node.name (some ((infos node.name).getD []))

/-- `CreateNodeNameToInfoMap`; of a `NodeInfo` only the pods are read. -/
def createNodeNameToInfoMap (pods : List Pod) (nodes : List Node) :
    String → Option (List Pod) :=
  nodes.foldl setNodeInfo (pods.foldl addPodInfo fun _ => none)

/-- The loop of `StaticAutorepair.DeleteNodes` over the nodes. A node whose pods
cannot be moved is skipped; a failed deletion leaves the loop and the function
(`false`). -/
def StaticAutorepair.deleteLoop (a : StaticAutorepair) (pdbs : List PodDisruptionBudget)
    (nodeNameToNodeInfo : String → Option (List Pod)) : List Node → Ctl Bool
  | [] => return true
  | node :: rest => do
      match nodeNameToNodeInfo node.name with
      | none => a.deleteLoop pdbs nodeNameToNodeInfo rest
      | some nodePods =>
          match ← detailedGetPodsForMove nodePods a.skipNodesWithSystemPods
              a.skipNodesWithLocalStorage a.minReplicaCount pdbs with
          -- `continue` here, `return` after a failed deletion
          | .error _ => a.deleteLoop pdbs nodeNameToNodeInfo rest
          | .ok podsToRemove =>
              match ← deleteNode a.maxGracefulTerminationSec node podsToRemove with
              | .error _ => return false
              | .ok () => a.deleteLoop pdbs nodeNameToNodeInfo rest

/-- The wait of `StaticAutorepair.DeleteNodes` for the smaller target size. -/
def pollDeleted (asg : Asg) (goal : Int) : Nat → Int → Ctl Unit
  | 0, _ => return ()
  | left + 1, currSize => do
      if currSize ≠ goal then
        sleep (30 * second)
        let (size, _) ← asg.targetSize
        pollDeleted asg goal left size
      else return ()

/-- `StaticAutorepair.DeleteNodes`. The two list calls share one error variable,
and it is only logged: the loop goes on with what came back. -/
def StaticAutorepair.deleteNodes (a : StaticAutorepair) (asg : Asg) (nodeList : List Node) :
    Ctl Unit := do
  let (prevSize, _) ← asg.targetSize
  let (currSize, _) ← asg.targetSize
  let (pdbs, _) ← listPodDisruptionBudgets
  let (allScheduledPods, _) ← listScheduledPods
  let nodeNameToNodeInfo := createNodeNameToInfoMap allScheduledPods nodeList
  let completed ← a.deleteLoop pdbs nodeNameToNodeInfo nodeList
  if completed then
    pollDeleted asg (prevSize - nodeList.length) 4 currSize
  else return ()

/-! ## The recursion -/

/-- How a call of `AsgRepairNodes` ends. -/
inductive RepairExit
  | done | panicked | outOfFuel
  deriving DecidableEq, Repr

/-- What one step of `AsgRepairNodes` did with the batch it cut off. -/
inductive BatchReport
  /-- the group was at its maximum: delete one node, then grow -/
  | deletedFirst (increase : IncreaseReport)
  /-- below it: grow by `incSize`, then delete -/
  | increasedFirst (incSize : Int) (increase : IncreaseReport)
  /-- `toBeRepairedNodes[0:incSize]` is out of range -/
  | panicked (incSize : Int)
  deriving DecidableEq, Repr

/-- The `incSize` of a step. -/
def BatchReport.incSize : BatchReport → Int
  | .deletedFirst _ => 1
  | .increasedFirst incSize _ => incSize
  | .panicked incSize => incSize

/-- One step of `AsgRepairNodes` on a non-empty list, up to the recursive call. -/
def StaticAutorepair.repairBatch (a : StaticAutorepair) (asg : Asg)
    (toBeRepairedNodes : List Node) (desiredSize : Int) : Ctl BatchReport := do
  if desiredSize ≥ asg.maxSize then
    a.deleteNodes asg (toBeRepairedNodes.take 1)
    let report ← increaseSizeReport asg 1
    return .deletedFirst report
  else
    -- the size is read again: in between it may have grown beyond the maximum
    let incSize ← calcExpandSize asg toBeRepairedNodes
    if incSize < 0 ∨ incSize > toBeRepairedNodes.length then
      return .panicked incSize
    else
      let report ← increaseSizeReport asg incSize
      a.deleteNodes asg (toBeRepairedNodes.take incSize.toNat)
      return .increasedFirst incSize report

/-- `AsgRepairNodes`. -/
def StaticAutorepair.asgRepairNodes (a : StaticAutorepair) :
    Nat → Asg → List Node → Ctl RepairExit
  | 0, _, _ => return .outOfFuel
  | fuel + 1, asg, toBeRepairedNodes => do
      let (desiredSize, _) ← asg.targetSize
      match toBeRepairedNodes with
      | [] => return .done
      | _ :: _ =>
          match ← a.repairBatch asg toBeRepairedNodes desiredSize with
          | .panicked _ => return .panicked
          | report => a.asgRepairNodes fuel asg (toBeRepairedNodes.drop report.incSize.toNat)

/-! ## The whole repair -/

/-- A repair and the nodes it handed to `AsgRepairNodes`, group by group. -/
structure RepairReport where
  exit : RepairExit
  handed : List (Asg × List Node)
  deriving DecidableEq, Repr

/-- The loop of `RepairNodes` over the groups. -/
def StaticAutorepair.repairLoop (a : StaticAutorepair) (fuel : Nat)
    (toBeRepairedNodes : List Node) : List Asg → Ctl RepairReport
  | [] => return ⟨.done, []⟩
  | asg :: rest => do
      -- one failed lookup leaves the whole group without nodes to repair
      let (asgToBeRepariedNodes, _) ← asgNotReadyNodes asg toBeRepairedNodes
      match ← a.asgRepairNodes fuel asg asgToBeRepariedNodes with
      | .done =>
          let later ← a.repairLoop fuel toBeRepairedNodes rest
          return ⟨later.exit, (asg, asgToBeRepariedNodes) :: later.handed⟩
      | exit => return ⟨exit, [(asg, asgToBeRepariedNodes)]⟩

/-- `RepairNodes`. -/
def StaticAutorepair.repairNodes (a : StaticAutorepair) (fuel : Nat)
    (toBeRepairedNodes : List Node) : Ctl RepairReport := do
  let asgs ← nodeGroups
  a.repairLoop fuel toBeRepairedNodes asgs

/-- `RunOnce`. -/
def StaticAutorepair.runOnce (a : StaticAutorepair) (fuel : Nat) (repairtime : Duration) :
    Ctl RepairReport := do
  let notReadyNodes ← listNotReadyNodes
  if notReadyNodes.length = 0 then
    return ⟨.done, []⟩
  else
    sleep repairtime
    let stillNotReadyNodes ← listNotReadyNodes
    let toBeRepairedNodes := commonNodes notReadyNodes stillNotReadyNodes
    if toBeRepairedNodes.length ≠ 0 then
      let report ← a.repairNodes fuel toBeRepairedNodes
      match report.exit with
      | .done =>
          sleep minute
          return report
      | _ => return report
    else return ⟨.done, []⟩

/-- The first `k` rounds of the loop of `run` in `main.go`, with their reports.
A crashed round is the last one. -/
def StaticAutorepair.rounds (a : StaticAutorepair) (fuel : Nat)
    (scanInterval repairPeriod : Duration) : Nat → Ctl (List RepairReport)
  | 0 => return []
  | k + 1 => do
      sleep scanInterval
      let report ← a.runOnce fuel repairPeriod
      match report.exit with
      | .done =>
          let later ← a.rounds fuel scanInterval repairPeriod k
          return report :: later
      | _ => return [report]

end AutoNodeRepair
