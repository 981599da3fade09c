import AutoNodeRepair.Model.ClusterState

/-!
# The status of the autoscaler

The part of `clusterstate/clusterstate.go` that reports: for the cluster and for
every node group a condition on its health, its scale-ups and its scale-downs
(`clusterstate/api/types.go`). A condition says when it was probed and since when
it has its status; the second time is carried over from the status reported before.
The field `Reason` is never set.
-/

namespace AutoNodeRepair

open Interact Std

/-! ## Statuses -/

/-- `ClusterAutoscalerConditionType`. -/
inductive ClusterAutoscalerConditionType
  | health | scaleDown | scaleUp
  deriving DecidableEq, Repr

/-- `ClusterAutoscalerConditionStatus`. -/
inductive ClusterAutoscalerConditionStatus
  | healthy | unhealthy
  | candidatesPresent | noCandidates
  | needed | notNeeded | inProgress | noActivity | backoff
  deriving DecidableEq, Repr

/-- `ClusterAutoscalerCondition`. -/
structure ClusterAutoscalerCondition where
  type : ClusterAutoscalerConditionType
  status : ClusterAutoscalerConditionStatus
  message : String
  lastProbeTime : Time
  lastTransitionTime : Time := 0
  deriving DecidableEq, Repr

/-- `NodeGroupStatus`. -/
structure NodeGroupStatus where
  providerID : String
  conditions : List ClusterAutoscalerCondition
  deriving DecidableEq, Repr

/-- `ClusterAutoscalerStatus`. -/
structure ClusterAutoscalerStatus where
  nodeGroupStatuses : List NodeGroupStatus := []
  clusterwideConditions : List ClusterAutoscalerCondition := []
  deriving DecidableEq, Repr

/-- `ClusterStateRegistry` with the fields that the reports read and write. -/
structure StatusRegistry extends ClusterStateRegistry where
  candidatesForScaleDown : ExtTreeMap String (List String) := ∅
  lastStatus : ClusterAutoscalerStatus := {}
  lastScaleDownUpdateTime : Time := 0

/-- `NewClusterStateRegistry`. -/
def newStatusRegistry : StatusRegistry := {}

/-! ## Conditions -/

/-- `buildHealthStatusNodeGroup`. -/
def buildHealthStatusNodeGroup (isReady : Bool) (readiness : Readiness)
    (acceptable : AcceptableRange) (minSize maxSize : Int) : ClusterAutoscalerCondition where
  type := .health
  status := if isReady then .healthy else .unhealthy
  message := s!"ready={readiness.ready} unready={readiness.unready} " ++
    s!"notStarted={readiness.notStarted} longNotStarted={readiness.longNotStarted} " ++
    s!"registered={readiness.registered} cloudProviderTarget={acceptable.currentTarget} " ++
    s!"(minSize={minSize}, maxSize={maxSize})"
  lastProbeTime := readiness.time

/-- `buildScaleUpStatusNodeGroup`. -/
def buildScaleUpStatusNodeGroup (isScaleUpInProgress isSafeToScaleUp : Bool)
    (readiness : Readiness) (acceptable : AcceptableRange) : ClusterAutoscalerCondition where
  type := .scaleUp
  status := if isScaleUpInProgress then .inProgress
    else if !isSafeToScaleUp then .backoff
    else .noActivity
  message := s!"ready={readiness.ready} cloudProviderTarget={acceptable.currentTarget}"
  lastProbeTime := readiness.time

/-- The two scale-down conditions, for so many candidates. -/
def scaleDownCondition (candidates : Nat) (lastProbed : Time) : ClusterAutoscalerCondition where
  type := .scaleDown
  status := if candidates > 0 then .candidatesPresent else .noCandidates
  message := s!"candidates={candidates}"
  lastProbeTime := lastProbed

/-- `buildScaleDownStatusNodeGroup`. -/
def buildScaleDownStatusNodeGroup (candidates : List String) (lastProbed : Time) :
    ClusterAutoscalerCondition :=
  scaleDownCondition candidates.length lastProbed

/-- `buildHealthStatusClusterwide`. -/
def buildHealthStatusClusterwide (isReady : Bool) (readiness : Readiness) :
    ClusterAutoscalerCondition where
  type := .health
  status := if isReady then .healthy else .unhealthy
  message := s!"ready={readiness.ready} unready={readiness.unready} " ++
    s!"notStarted={readiness.notStarted} longNotStarted={readiness.longNotStarted} " ++
    s!"registered={readiness.registered}"
  lastProbeTime := readiness.time

/-- `buildScaleUpStatusClusterwide`. -/
def buildScaleUpStatusClusterwide (nodeGroupStatuses : List NodeGroupStatus)
    (readiness : Readiness) : ClusterAutoscalerCondition where
  type := .scaleUp
  status :=
    let isScaleUpInProgress := nodeGroupStatuses.any fun nodeGroupStatus =>
      nodeGroupStatus.conditions.any fun condition =>
        condition.type == .scaleUp && condition.status == .inProgress
    if isScaleUpInProgress then .inProgress else .noActivity
  message := s!"ready={readiness.ready} registered={readiness.registered}"
  lastProbeTime := readiness.time

/-- `buildScaleDownStatusClusterwide`. -/
def buildScaleDownStatusClusterwide (candidates : ExtTreeMap String (List String))
    (lastProbed : Time) : ClusterAutoscalerCondition :=
  scaleDownCondition (candidates.foldl (fun total _ val => total + val.length) 0) lastProbed

/-! ## Transitions -/

/-- One turn of `updateLastTransitionSingleList`: the first old condition of the type decides. -/
def ClusterAutoscalerCondition.withTransition (oldConds : List ClusterAutoscalerCondition)
    (condition : ClusterAutoscalerCondition) : ClusterAutoscalerCondition :=
  let condition := { condition with lastTransitionTime := condition.lastProbeTime }
  match oldConds.find? fun oldCondition => condition.type == oldCondition.type with
  | some oldCondition =>
      if condition.status = oldCondition.status then
        { condition with lastTransitionTime := oldCondition.lastTransitionTime }
      else condition
  | none => condition

/-- `updateLastTransitionSingleList`. -/
def updateLastTransitionSingleList (oldConds newConds : List ClusterAutoscalerCondition) :
    List ClusterAutoscalerCondition :=
  newConds.map (.withTransition oldConds)

/-- `updateLastTransition`; the new status is returned. -/
def updateLastTransition (oldStatus newStatus : ClusterAutoscalerStatus) :
    ClusterAutoscalerStatus where
  clusterwideConditions := updateLastTransitionSingleList oldStatus.clusterwideConditions
    newStatus.clusterwideConditions
  nodeGroupStatuses := newStatus.nodeGroupStatuses.map fun ngStatus =>
    let oldConds :=
      match oldStatus.nodeGroupStatuses.find? fun oldNgStatus =>
        ngStatus.providerID == oldNgStatus.providerID with
      | some oldNgStatus => oldNgStatus.conditions
      | none => []
    { ngStatus with conditions := updateLastTransitionSingleList oldConds ngStatus.conditions }

/-! ## The registry -/

/-- `IsClusterHealthy`. -/
def ClusterStateRegistry.isClusterHealthy (csr : ClusterStateRegistry)
    (config : ClusterStateRegistryConfig) : Bool :=
  let totalUnready := csr.totalReadiness.unready + csr.totalReadiness.longNotStarted
  !(decide (totalUnready > config.okTotalUnreadyCount) &&
    decide (Float.ofInt totalUnready > config.maxTotalUnreadyPercentage / 100.0 *
      Float.ofInt csr.nodes.length))

/-- The loop of `UpdateScaleDownCandidates`. -/
def candidatesLoop :
    List Node → ExtTreeMap String (List String) → Ctl (ExtTreeMap String (List String))
  | [], result => return result
  | node :: rest, result => do
      match ← nodeGroupForNode node with
      | .ok (some group) =>
          candidatesLoop rest (result.insert group.id (result.getD group.id [] ++ [node.name]))
      | _ => candidatesLoop rest result

namespace StatusRegistry

/-- `UpdateScaleDownCandidates`. -/
def updateScaleDownCandidates (csr : StatusRegistry) (nodes : List Node) (now : Time) :
    Ctl StatusRegistry := do
  let result ← candidatesLoop nodes ∅
  return { csr with candidatesForScaleDown := result, lastScaleDownUpdateTime := now }

/-- The status of one group in `GetStatus`, before its transition times. -/
def nodeGroupStatus (csr : StatusRegistry) (config : ClusterStateRegistryConfig) (now : Time)
    (nodeGroup : Asg) : NodeGroupStatus :=
  let readiness := (csr.perNodeGroupReadiness nodeGroup.id).getD {}
  let acceptable := (csr.acceptableRanges nodeGroup.id).getD {}
  { providerID := nodeGroup.id
    conditions :=
      [buildHealthStatusNodeGroup (csr.isNodeGroupHealthy config nodeGroup.id) readiness acceptable
          nodeGroup.minSize nodeGroup.maxSize,
        buildScaleUpStatusNodeGroup (csr.isNodeGroupScalingUp nodeGroup.id)
          (csr.isNodeGroupSafeToScaleUp config nodeGroup.id now) readiness acceptable,
        buildScaleDownStatusNodeGroup (csr.candidatesForScaleDown.getD nodeGroup.id [])
          csr.lastScaleDownUpdateTime] }

/-- The status `GetStatus` puts together, before its transition times. -/
def currentStatus (csr : StatusRegistry) (config : ClusterStateRegistryConfig) (now : Time)
    (groups : List Asg) : ClusterAutoscalerStatus :=
  let nodeGroupStatuses := groups.map (csr.nodeGroupStatus config now)
  { nodeGroupStatuses
    clusterwideConditions :=
      [buildHealthStatusClusterwide (csr.isClusterHealthy config) csr.totalReadiness,
        buildScaleUpStatusClusterwide nodeGroupStatuses csr.totalReadiness,
        buildScaleDownStatusClusterwide csr.candidatesForScaleDown
          csr.lastScaleDownUpdateTime] }

/-- `GetStatus`: the registry afterwards and the status. -/
def getStatus (csr : StatusRegistry) (config : ClusterStateRegistryConfig) (now : Time) :
    Ctl (StatusRegistry × ClusterAutoscalerStatus) := do
  let result := updateLastTransition csr.lastStatus
    (csr.currentStatus config now (← nodeGroups))
  return ({ csr with lastStatus := result }, result)

end StatusRegistry

end AutoNodeRepair
