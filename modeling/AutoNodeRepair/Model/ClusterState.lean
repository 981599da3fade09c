import AutoNodeRepair.Model.Aws
import AutoNodeRepair.Model.DeleteNode

/-!
# The cluster state registry

`clusterstate/clusterstate.go`: what the autoscaler knows about the cluster, as
of the last `UpdateNodes`. The registry is passed along explicitly; the cloud
provider it asks is that of `Model.Aws`. A Go map is a function to `Option` here,
and reading an absent key gives the zero value as it does there.
-/

namespace AutoNodeRepair

open Interact

/-! ## Constants -/

def hour : Duration := 60 * minute

/-- `MaxNodeStartupTime`. -/
def maxNodeStartupTime : Duration := 5 * minute

/-- `MaxStatusSettingDelayAfterCreation`. -/
def maxStatusSettingDelayAfterCreation : Duration := 2 * minute

/-- `MaxNodeGroupBackoffDuration`. -/
def maxNodeGroupBackoffDuration : Duration := 30 * minute

/-- `InitialNodeGroupBackoffDuration`. -/
def initialNodeGroupBackoffDuration : Duration := 5 * minute

/-- `NodeGroupBackoffResetTimeout`. -/
def nodeGroupBackoffResetTimeout : Duration := 3 * hour

/-! ## State -/

structure ScaleUpRequest where
  nodeGroupName : String
  time : Time
  expectedAddTime : Time
  increase : Int
  deriving DecidableEq, Repr

structure ScaleDownRequest where
  nodeName : String
  nodeGroupName : String
  time : Time
  expectedDeleteTime : Time
  deriving DecidableEq, Repr

structure IncorrectNodeGroupSize where
  expectedSize : Int
  currentSize : Int
  firstObserved : Time
  deriving DecidableEq, Repr

structure UnregisteredNode where
  node : Node
  unregisteredSince : Time
  deriving DecidableEq, Repr

structure ScaleUpBackoff where
  duration : Duration
  backoffUntil : Time
  lastFailedScaleUp : Time
  deriving DecidableEq, Repr

structure AcceptableRange where
  minNodes : Int := 0
  maxNodes : Int := 0
  currentTarget : Int := 0
  deriving DecidableEq, Repr

structure Readiness where
  ready : Int := 0
  unready : Int := 0
  deleted : Int := 0
  longNotStarted : Int := 0
  notStarted : Int := 0
  registered : Int := 0
  time : Time := 0
  deriving DecidableEq, Repr

/-- `ClusterStateRegistry`, as far as `UpdateNodes` and the backoff read and write it. -/
structure ClusterStateRegistry where
  scaleUpRequests : List ScaleUpRequest := []
  scaleDownRequests : List ScaleDownRequest := []
  nodes : List Node := []
  perNodeGroupReadiness : String → Option Readiness := fun _ => none
  totalReadiness : Readiness := {}
  acceptableRanges : String → Option AcceptableRange := fun _ => none
  incorrectNodeGroupSizes : String → Option IncorrectNodeGroupSize := fun _ => none
  unregisteredNodes : String → Option UnregisteredNode := fun _ => none
  nodeGroupBackoffInfo : String → Option ScaleUpBackoff := fun _ => none

/-- The order in which a loop over a map visits its keys. Go leaves it open, but each key
comes once. -/
structure RangeOrder {β : Type} (entries : String → Option β) where
  keys : List String
  nodup : keys.Nodup
  mem_keys : ∀ key, key ∈ keys ↔ (entries key).isSome = true

/-- `ClusterStateRegistryConfig`. It never changes, so the functions that read it take it
as an argument. -/
structure ClusterStateRegistryConfig where
  maxTotalUnreadyPercentage : Float
  okTotalUnreadyCount : Int

/-- `NewClusterStateRegistry`. -/
def newClusterStateRegistry : ClusterStateRegistry := {}

/-! ## Readiness -/

/-- One condition of `isNodeNotStarted`. -/
def NodeCondition.notStarted (created : Time) (condition : NodeCondition) : Bool :=
  (condition.type == .ready && condition.status == .false ||
    condition.type == .outOfDisk && condition.status == .true ||
    condition.type == .networkUnavailable && condition.status == .true) &&
  decide (condition.lastTransitionTime - created < maxStatusSettingDelayAfterCreation)

/-- `isNodeNotStarted`. -/
def isNodeNotStarted (node : Node) : Bool :=
  node.conditions.any fun condition => condition.notStarted node.creationTimestamp

/-- The closure `update` of `updateReadinessStats`. -/
def Readiness.update (currentTime : Time) (current : Readiness) (node : Node) (ready : Bool) :
    Readiness :=
  let current := { current with registered := current.registered + 1 }
  -- the first test that succeeds decides, so a tainted node counts as deleted only
  if hasToBeDeletedTaint node then
    { current with deleted := current.deleted + 1 }
  else if isNodeNotStarted node &&
      decide (node.creationTimestamp + maxNodeStartupTime < currentTime) then
    { current with longNotStarted := current.longNotStarted + 1 }
  else if isNodeNotStarted node then
    { current with notStarted := current.notStarted + 1 }
  else if ready then
    { current with ready := current.ready + 1 }
  else
    { current with unready := current.unready + 1 }

/-- The loop of `updateReadinessStats`. A node without a group counts in the total only,
whether the lookup found none or failed. -/
def readinessLoop (currentTime : Time) :
    List Node → (String → Option Readiness) → Readiness →
      Ctl ((String → Option Readiness) × Readiness)
  | [], perNodeGroup, total => return (perNodeGroup, total)
  | node :: rest, perNodeGroup, total => do
      let nodeGroup ← nodeGroupForNode node
      let ready := (getReadinessState node).1
      let perNodeGroup := match nodeGroup with
        | .ok (some asg) =>
            let current := (perNodeGroup asg.id).getD {}
            Function.update perNodeGroup asg.id (some (current.update currentTime node ready))
        | _ => perNodeGroup
      readinessLoop currentTime rest perNodeGroup (total.update currentTime node ready)

namespace ClusterStateRegistry

/-- `updateReadinessStats`. -/
def updateReadinessStats (csr : ClusterStateRegistry) (currentTime : Time) :
    Ctl ClusterStateRegistry := do
  let (perNodeGroup, total) ← readinessLoop currentTime csr.nodes (fun _ => none)
    { time := currentTime }
  return { csr with
    perNodeGroupReadiness := fun id =>
      (perNodeGroup id).map fun readiness => { readiness with time := currentTime }
    totalReadiness := total }

/-! ## Scale requests -/

/-- `RegisterScaleUp`. -/
def registerScaleUp (csr : ClusterStateRegistry) (request : ScaleUpRequest) :
    ClusterStateRegistry :=
  { csr with scaleUpRequests := csr.scaleUpRequests ++ [request] }

/-- `RegisterScaleDown`. -/
def registerScaleDown (csr : ClusterStateRegistry) (request : ScaleDownRequest) :
    ClusterStateRegistry :=
  { csr with scaleDownRequests := csr.scaleDownRequests ++ [request] }

/-- `areThereUpcomingNodesInNodeGroup`. -/
def areThereUpcomingNodesInNodeGroup (csr : ClusterStateRegistry) (nodeGroupName : String) :
    Bool :=
  match csr.acceptableRanges nodeGroupName with
  | none => false
  | some acceptable =>
      match csr.perNodeGroupReadiness nodeGroupName with
      | none => decide (acceptable.currentTarget > 0)
      | some readiness =>
          let provisioned := readiness.registered - readiness.notStarted - readiness.longNotStarted
          decide (acceptable.currentTarget > provisioned)

/-- `IsNodeGroupScalingUp`. -/
def isNodeGroupScalingUp (csr : ClusterStateRegistry) (nodeGroupName : String) : Bool :=
  if !csr.areThereUpcomingNodesInNodeGroup nodeGroupName then false
  else csr.scaleUpRequests.any fun request => request.nodeGroupName == nodeGroupName

/-- The duration `backoffNodeGroup` chooses. -/
def backoffDuration (csr : ClusterStateRegistry) (nodeGroupName : String) (currentTime : Time) :
    Duration :=
  match csr.nodeGroupBackoffInfo nodeGroupName with
  | none => initialNodeGroupBackoffDuration
  | some backoffInfo =>
      if backoffInfo.backoffUntil < currentTime then
        if 2 * backoffInfo.duration > maxNodeGroupBackoffDuration then maxNodeGroupBackoffDuration
        else 2 * backoffInfo.duration
      -- still in backoff: the source means not to increase the duration, and starts over
      else initialNodeGroupBackoffDuration

/-- `backoffNodeGroup`. -/
def backoffNodeGroup (csr : ClusterStateRegistry) (nodeGroupName : String) (currentTime : Time) :
    ClusterStateRegistry :=
  let duration := csr.backoffDuration nodeGroupName currentTime
  let backoffInfo : ScaleUpBackoff := ⟨duration, currentTime + duration, currentTime⟩
  { csr with nodeGroupBackoffInfo :=
      Function.update csr.nodeGroupBackoffInfo nodeGroupName (some backoffInfo) }

/-- `delete(csr.nodeGroupBackoffInfo, nodeGroupName)`. -/
def resetBackoff (csr : ClusterStateRegistry) (nodeGroupName : String) : ClusterStateRegistry :=
  { csr with nodeGroupBackoffInfo :=
      Function.update csr.nodeGroupBackoffInfo nodeGroupName none }

/-- The first loop of `updateScaleRequests`: stale backoff info goes. -/
def cleanBackoff (csr : ClusterStateRegistry) (currentTime : Time) : ClusterStateRegistry :=
  { csr with nodeGroupBackoffInfo := fun id =>
      (csr.nodeGroupBackoffInfo id).filter fun backoffInfo =>
        !decide (backoffInfo.lastFailedScaleUp + nodeGroupBackoffResetTimeout < currentTime) }

/-- The state of the second loop of `updateScaleRequests`. -/
structure RequestSort where
  csr : ClusterStateRegistry
  timedOutSur : List ScaleUpRequest := []
  newSur : List ScaleUpRequest := []

/-- One turn of it: a finished scale-up resets the backoff, the others are kept or have
timed out. -/
def RequestSort.see (currentTime : Time) (s : RequestSort) (sur : ScaleUpRequest) :
    RequestSort :=
  if !s.csr.areThereUpcomingNodesInNodeGroup sur.nodeGroupName then
    { s with csr := s.csr.resetBackoff sur.nodeGroupName }
  else if sur.expectedAddTime > currentTime then
    { s with newSur := s.newSur ++ [sur] }
  else
    { s with timedOutSur := s.timedOutSur ++ [sur] }

/-- The third loop: a timed out scale-up has failed, unless another one of the group is
still going on. -/
def backoffTimedOut (currentTime : Time) :
    List ScaleUpRequest → ClusterStateRegistry → ClusterStateRegistry
  | [], csr => csr
  | sur :: rest, csr =>
      if !csr.isNodeGroupScalingUp sur.nodeGroupName then
        backoffTimedOut currentTime rest (csr.backoffNodeGroup sur.nodeGroupName currentTime)
      else backoffTimedOut currentTime rest csr

/-- The first two loops of `updateScaleRequests`, and the assignment after them. -/
def sortScaleUps (csr : ClusterStateRegistry) (currentTime : Time) : RequestSort :=
  let s := csr.scaleUpRequests.foldl (RequestSort.see currentTime)
    { csr := csr.cleanBackoff currentTime }
  { s with csr := { s.csr with scaleUpRequests := s.newSur } }

/-- `updateScaleRequests`. -/
def updateScaleRequests (csr : ClusterStateRegistry) (currentTime : Time) :
    ClusterStateRegistry :=
  let s := csr.sortScaleUps currentTime
  let csr := backoffTimedOut currentTime s.timedOutSur s.csr
  { csr with scaleDownRequests :=
      csr.scaleDownRequests.filter fun sdr => decide (sdr.expectedDeleteTime > currentTime) }

/-! ## Health -/

/-- `IsNodeGroupHealthy`. -/
def isNodeGroupHealthy (csr : ClusterStateRegistry) (config : ClusterStateRegistryConfig)
    (nodeGroupName : String) : Bool :=
  match csr.acceptableRanges nodeGroupName with
  | none => false
  | some acceptable =>
      match csr.perNodeGroupReadiness nodeGroupName with
      | none =>
          -- no nodes, but the target is 0 or the group is just scaling up
          acceptable.currentTarget == 0 ||
            (acceptable.minNodes == 0 && decide (acceptable.currentTarget > 0))
      | some readiness =>
          let unjustifiedUnready :=
            if readiness.ready < acceptable.minNodes then acceptable.minNodes - readiness.ready
            else 0
          !(decide (unjustifiedUnready > config.okTotalUnreadyCount) &&
            decide (Float.ofInt unjustifiedUnready > config.maxTotalUnreadyPercentage / 100.0 *
              Float.ofInt (readiness.ready + readiness.unready + readiness.notStarted +
                readiness.longNotStarted)))

/-- `IsNodeGroupSafeToScaleUp`. -/
def isNodeGroupSafeToScaleUp (csr : ClusterStateRegistry) (config : ClusterStateRegistryConfig)
    (nodeGroupName : String) (now : Time) : Bool :=
  if !csr.isNodeGroupHealthy config nodeGroupName then false
  else
    match csr.nodeGroupBackoffInfo nodeGroupName with
    | none => true
    | some backoffInfo => decide (backoffInfo.backoffUntil < now)

/-! ## Failures -/

/-- `RegisterFailedScaleUp`. -/
def registerFailedScaleUp (csr : ClusterStateRegistry) (nodeGroupName : String) :
    Ctl ClusterStateRegistry := do
  let currentTime ← now
  return csr.backoffNodeGroup nodeGroupName currentTime

end ClusterStateRegistry

/-! ## Sizes -/

/-- The loop of `getTargetSizes`. -/
def targetSizesLoop :
    List Asg → (String → Option Int) → Ctl (Except String (String → Option Int))
  | [], result => return .ok result
  | ng :: rest, result => do
      match ← ng.targetSize with
      | (_, some err) => return .error err
      | (size, none) => targetSizesLoop rest (Function.update result ng.id (some size))

/-- `getTargetSizes`. -/
def getTargetSizes : Ctl (Except String (String → Option Int)) := do
  targetSizesLoop (← nodeGroups) fun _ => none

/-- The loop of `getNotRegisteredNodes`. -/
def notRegisteredLoop (registered : List String) (time : Time) :
    List Asg → List UnregisteredNode → Ctl (Except String (List UnregisteredNode))
  | [], notRegistered => return .ok notRegistered
  | nodeGroup :: rest, notRegistered => do
      match ← getAsgNodes nodeGroup with
      | .error err => return .error err
      | .ok nodes =>
          let missing := nodes.filter fun node => !registered.contains node
          notRegisteredLoop registered time rest
            (notRegistered ++ missing.map fun node => ⟨{ name := node, providerID := node }, time⟩)

/-- `getNotRegisteredNodes`. -/
def getNotRegisteredNodes (allNodes : List Node) (time : Time) :
    Ctl (Except String (List UnregisteredNode)) := do
  notRegisteredLoop (allNodes.map Node.providerID) time (← nodeGroups) []

/-- The ranges by group. -/
abbrev Ranges := String → Option AcceptableRange

/-- The first loop of `updateAcceptableRanges`, one group. -/
def Ranges.setTarget (targetSize : String → Option Int) (result : Ranges) (nodeGroup : Asg) :
    Ranges :=
  let size := (targetSize nodeGroup.id).getD 0
  Function.update result nodeGroup.id (some ⟨size, size, size⟩)

/-- The second loop, one request. A request for an unknown group starts from the zero
range. -/
def Ranges.scaleUp (result : Ranges) (sur : ScaleUpRequest) : Ranges :=
  let val := (result sur.nodeGroupName).getD {}
  Function.update result sur.nodeGroupName
    (some { val with minNodes := val.minNodes - sur.increase })

/-- The third loop, one request. -/
def Ranges.scaleDown (result : Ranges) (sdr : ScaleDownRequest) : Ranges :=
  let val := (result sdr.nodeGroupName).getD {}
  Function.update result sdr.nodeGroupName (some { val with maxNodes := val.maxNodes + 1 })

/-- The ranges `updateAcceptableRanges` computes: the target sizes, widened downwards by the
scale-ups and upwards by the scale-downs that go on. -/
def acceptableRangesOf (groups : List Asg) (targetSize : String → Option Int)
    (scaleUpRequests : List ScaleUpRequest) (scaleDownRequests : List ScaleDownRequest) :
    Ranges :=
  let result := groups.foldl (Ranges.setTarget targetSize) fun _ => none
  let result := scaleUpRequests.foldl Ranges.scaleUp result
  scaleDownRequests.foldl Ranges.scaleDown result

namespace ClusterStateRegistry

/-- `updateAcceptableRanges`. -/
def updateAcceptableRanges (csr : ClusterStateRegistry) (targetSize : String → Option Int) :
    Ctl ClusterStateRegistry := do
  return { csr with acceptableRanges :=
    acceptableRangesOf (← nodeGroups) targetSize csr.scaleUpRequests csr.scaleDownRequests }

/-- One group of `updateIncorrectNodeGroupSizes`; a mismatch that persists keeps the time it
was first seen. -/
def incorrectSize (csr : ClusterStateRegistry) (currentTime : Time) (id : String) :
    Option IncorrectNodeGroupSize :=
  match csr.acceptableRanges id, csr.perNodeGroupReadiness id with
  | some acceptableRange, some readiness =>
      if readiness.registered > acceptableRange.maxNodes ∨
          readiness.registered < acceptableRange.minNodes then
        let incorrect : IncorrectNodeGroupSize :=
          ⟨acceptableRange.currentTarget, readiness.registered, currentTime⟩
        match csr.incorrectNodeGroupSizes id with
        | some existing =>
            if incorrect.currentSize = existing.currentSize ∧
                incorrect.expectedSize = existing.expectedSize then some existing
            else some incorrect
        | none => some incorrect
      else none
  | _, _ => none

/-- `updateIncorrectNodeGroupSizes`. -/
def updateIncorrectNodeGroupSizes (csr : ClusterStateRegistry) (currentTime : Time) :
    Ctl ClusterStateRegistry := do
  let result := (← nodeGroups).foldl (fun result nodeGroup =>
    match csr.incorrectSize currentTime nodeGroup.id with
    | some incorrect => Function.update result nodeGroup.id (some incorrect)
    | none => result) fun _ => none
  return { csr with incorrectNodeGroupSizes := result }

/-- `updateUnregisteredNodes`. -/
def updateUnregisteredNodes (csr : ClusterStateRegistry)
    (unregisteredNodes : List UnregisteredNode) : ClusterStateRegistry :=
  { csr with unregisteredNodes := unregisteredNodes.foldl (fun result unregistered =>
      match csr.unregisteredNodes unregistered.node.name with
      | some prev => Function.update result unregistered.node.name (some prev)
      | none => Function.update result unregistered.node.name (some unregistered)) fun _ => none }

/-- `GetUnregisteredNodes`. -/
def getUnregisteredNodes (csr : ClusterStateRegistry)
    (order : RangeOrder csr.unregisteredNodes) : List UnregisteredNode :=
  order.keys.filterMap csr.unregisteredNodes

/-- The nodes a group is waiting for, in `GetUpcomingNodes`. -/
def upcomingNodes (csr : ClusterStateRegistry) (id : String) : Int :=
  let readiness := (csr.perNodeGroupReadiness id).getD {}
  let ar := (csr.acceptableRanges id).getD {}
  ar.currentTarget - (readiness.ready + readiness.unready + readiness.longNotStarted)

/-- The loop of it, one group. -/
def addUpcoming (csr : ClusterStateRegistry) (result : String → Option Int) (nodeGroup : Asg) :
    String → Option Int :=
  let newNodes := csr.upcomingNodes nodeGroup.id
  if newNodes ≤ 0 then result else Function.update result nodeGroup.id (some newNodes)

/-- `GetUpcomingNodes`. -/
def getUpcomingNodes (csr : ClusterStateRegistry) : Ctl (String → Option Int) := do
  return (← nodeGroups).foldl csr.addUpcoming fun _ => none

/-! ## UpdateNodes -/

/-- `UpdateNodes` up to `updateScaleRequests`: everything the cloud provider can refuse, and
the statistics and ranges from before this update's pruning. -/
def observe (csr : ClusterStateRegistry) (nodes : List Node) (currentTime : Time) :
    Ctl (Except String ((String → Option Int) × List UnregisteredNode × ClusterStateRegistry)) := do
  match ← getTargetSizes with
  | .error err => return .error err
  | .ok targetSizes =>
      match ← getNotRegisteredNodes nodes currentTime with
      | .error err => return .error err
      | .ok notRegistered =>
          -- from here on the registry is locked and written
          let csr := { csr with nodes := nodes }
          let csr ← csr.updateReadinessStats currentTime
          let csr ← csr.updateAcceptableRanges targetSizes
          return .ok (targetSizes, notRegistered, csr)

/-- `UpdateNodes`: the registry afterwards and the error. -/
def updateNodes (csr : ClusterStateRegistry) (nodes : List Node) (currentTime : Time) :
    Ctl (ClusterStateRegistry × Option String) := do
  match ← csr.observe nodes currentTime with
  | .error err => return (csr, some err)
  | .ok (targetSizes, notRegistered, csr) =>
      let csr := csr.updateScaleRequests currentTime
      -- the ranges again, from the requests that are left
      let csr ← csr.updateAcceptableRanges targetSizes
      let csr ← csr.updateIncorrectNodeGroupSizes currentTime
      let csr := csr.updateUnregisteredNodes notRegistered
      return (csr, none)

end ClusterStateRegistry

end AutoNodeRepair
