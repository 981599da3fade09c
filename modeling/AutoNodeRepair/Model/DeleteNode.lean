import AutoNodeRepair.Model.Aws
import AutoNodeRepair.Model.Drain
import AutoNodeRepair.Text.Number

/-!
# Deleting one node

`utils/deletetaint/delete.go` and `core/delete_nodes.go`: cordon the node by a
taint, evict its pods, wait for them to disappear, and have its group terminate
the machine. A failure after the taint was set takes it off again (the deferred
closure of `deleteNode`).

The eviction goroutines interleave in any order: `collectConfirmations` lets
the outside pick the one that moves next, or fire the timer of the waiting
`select`. The retry and sweep loops are bounded by what the sleeps between two
iterations allow within their deadlines.
-/

namespace AutoNodeRepair

open Interact

/-! ## Errors -/

inductive AutorepairErrorType
  | cloudProviderError | apiCallError | internalError | transientError
  deriving DecidableEq, Repr

structure AutorepairError where
  errorType : AutorepairErrorType
  msg : String
  deriving DecidableEq, Repr

/-! ## The `ToBeDeleted` taint -/

/-- `ToBeDeletedTaint`. -/
def toBeDeletedTaint : String := "ToBeDeletedByClusterAutoscaler"

/-- `HasToBeDeletedTaint`. -/
def hasToBeDeletedTaint (node : Node) : Bool :=
  node.taints.any fun taint => taint.key == toBeDeletedTaint

/-- `strconv.NumError` of a number that cannot be read. -/
structure NumError where
  num : String
  deriving DecidableEq, Repr

/-- `time.Unix` of whole seconds. -/
def timeUnix (sec : Int) : Time := (sec + 62135596800) * second

/-- `GetToBeDeletedTime`: the first taint decides. -/
def getToBeDeletedTime (node : Node) : Except NumError (Option Time) :=
  match node.taints.find? fun taint => taint.key == toBeDeletedTaint with
  | none => .ok none
  | some taint =>
      match Text.atoi taint.value with
      | none => .error ⟨taint.value⟩
      | some resultTimestamp => .ok (some (timeUnix resultTimestamp.toInt))

/-- `addToBeDeletedTaint`: whether the taint was added, and the node with it. -/
def addToBeDeletedTaint (node : Node) : Ctl (Bool × Node) := do
  if hasToBeDeletedTaint node then
    return (false, node)
  else
    let t ← now
    return (true, { node with
      taints := node.taints ++ [⟨toBeDeletedTaint, toString (unix t), "NoSchedule"⟩] })

/-- `MarkToBeDeleted`. It works on the newest version of the node, found by
name. -/
def markToBeDeleted (node : Node) : Ctl (Except String Unit) := do
  match ← getNode node.name with
  | .error err => return .error s!"failed to get node {node.name}: {err.msg}"
  | .ok none => return .error s!"failed to get node {node.name}: <nil>"
  | .ok (some freshNode) =>
      let (added, tainted) ← addToBeDeletedTaint freshNode
      if !added then
        return .ok ()
      else
        match ← updateNode tainted with
        | .error err => return .error err.msg
        | .ok () => return .ok ()

/-- `CleanToBeDeleted`. -/
def cleanToBeDeleted (node : Node) : Ctl (Except String Bool) := do
  match ← getNode node.name with
  | .error err => return .error s!"failed to get node {node.name}: {err.msg}"
  | .ok none => return .error s!"failed to get node {node.name}: <nil>"
  | .ok (some freshNode) =>
      let newTaints := freshNode.taints.filter fun taint => taint.key != toBeDeletedTaint
      if newTaints.length ≠ freshNode.taints.length then
        match ← updateNode { freshNode with taints := newTaints } with
        | .error err => return .error err.msg
        | .ok () => return .ok true
      else return .ok false

/-! ## Eviction -/

/-- `MaxCloudProviderNodeDeletionTime`. -/
def maxCloudProviderNodeDeletionTime : Duration := 5 * minute

/-- `MaxPodEvictionTime`. -/
def maxPodEvictionTime : Duration := 2 * minute

/-- `EvictionRetryTime`. -/
def evictionRetryTime : Duration := 10 * second

/-- `PodEvictionHeadroom`. -/
def podEvictionHeadroom : Duration := 30 * second

/-- A goroutine running `evictPod`: `first` is its loop variable, `retries`
bounds the attempts that fit between the sleeps. -/
structure Evictor where
  pod : Pod
  first : Bool
  retries : Nat
  lastError : String
  deriving DecidableEq, Repr

/-- What one turn of a goroutine leads to: it sleeps until the next attempt, or
it delivers its confirmation (`none` on success). -/
inductive EvictTurn
  | running (e : Evictor)
  | confirmed (err : Option String)
  deriving DecidableEq, Repr

/-- One eviction request of `evictPod`. -/
def evictAttempt (waitBetweenRetries : Duration) (e : Evictor) : Ctl EvictTurn := do
  match ← evict e.pod with
  | .ok () => return .confirmed none
  | .error err =>
      if err.notFound then
        return .confirmed none
      else
        sleep waitBetweenRetries
        return .running ⟨e.pod, false, e.retries - 1, err.msg⟩

/-- One iteration of the loop of `evictPod`. -/
def evictTurn (retryUntil : Time) (waitBetweenRetries : Duration) (e : Evictor) :
    Ctl EvictTurn := do
  if e.first then
    evictAttempt waitBetweenRetries e
  else
    let t ← now
    if t < retryUntil ∧ 0 < e.retries then
      evictAttempt waitBetweenRetries e
    else
      return .confirmed (some s!"Failed to evict pod {e.pod.ns}/{e.pod.name} within allowed timeout (last error: {e.lastError})")

/-- The confirmation loop of `drainNode`, interleaved with the goroutines:
the eviction errors received, or `none` when the timer fired. -/
def collectConfirmations (retryUntil : Time) (waitBetweenRetries : Duration) :
    Nat → List Evictor → List String → Ctl (Option (List String))
  | _, [], evictionErrs => return some evictionErrs
  | 0, _ :: _, _ => return none
  | fuel + 1, es, evictionErrs => do
      match ← schedule es.length with
      -- the timer of the `select`
      | none => return none
      | some i =>
          match es[i % es.length]? with
          | none => return none
          | some e =>
              match ← evictTurn retryUntil waitBetweenRetries e with
              | .running e' =>
                  collectConfirmations retryUntil waitBetweenRetries fuel
                    (es.set (i % es.length) e') evictionErrs
              | .confirmed none =>
                  collectConfirmations retryUntil waitBetweenRetries fuel
                    (es.eraseIdx (i % es.length)) evictionErrs
              | .confirmed (some err) =>
                  collectConfirmations retryUntil waitBetweenRetries fuel
                    (es.eraseIdx (i % es.length)) (evictionErrs ++ [err])

/-- One sweep of `drainNode` over the pods: are they all gone? -/
def sweepPods : List Pod → Bool → Ctl Bool
  | [], allGone => return allGone
  | pod :: rest, allGone => do
      match ← getPod pod.ns pod.name with
      -- a pod that is found ends the sweep, an error that is not `NotFound` does not
      | .ok _ => return false
      | .error err => if err.notFound then sweepPods rest allGone else sweepPods rest false

/-- The sweeps of `drainNode`, five seconds apart. -/
def awaitGone (start : Time) (limit : Duration) (pods : List Pod) : Nat → Ctl Bool
  | 0 => return false
  | fuel + 1 => do
      let t ← now
      if t - start < limit then
        let allGone ← sweepPods pods true
        if allGone then
          return true
        else
          sleep (5 * second)
          awaitGone start limit pods fuel
      else return false

/-- `drainNode`. -/
def drainNode (node : Node) (pods : List Pod) (maxGracefulTerminationSec : Int)
    (maxPodEvictionTime waitBetweenRetries : Duration) :
    Ctl (Except AutorepairError Unit) := do
  let t ← now
  let retryUntil := t + maxPodEvictionTime
  let retries := (maxPodEvictionTime / waitBetweenRetries).toNat + 1
  let evictors := pods.map fun pod => (⟨pod, true, retries, ""⟩ : Evictor)
  match ← collectConfirmations retryUntil waitBetweenRetries
      (pods.length * (retries + 2)) evictors [] with
  | none =>
      return .error ⟨.apiCallError,
        s!"Failed to drain node {node.ns}/{node.name}: timeout when waiting for creating evictions"⟩
  | some (err :: errs) =>
      let evictionErrs := " ".intercalate (err :: errs)
      return .error ⟨.apiCallError,
        s!"Failed to drain node {node.ns}/{node.name}, due to following errors: [{evictionErrs}]"⟩
  | some [] =>
      let limit := maxGracefulTerminationSec * second + podEvictionHeadroom
      let start ← now
      let allGone ← awaitGone start limit pods ((limit / (5 * second)).toNat + 1)
      if allGone then
        return .ok ()
      else
        return .error ⟨.transientError,
          s!"Failed to drain node {node.ns}/{node.name}: pods remaining after timeout"⟩

/-! ## Deletion -/

/-- `deleteNodeFromCloudProvider`. -/
def deleteNodeFromCloudProvider (node : Node) : Ctl (Except AutorepairError Unit) := do
  match ← nodeGroupForNode node with
  | .error err =>
      return .error ⟨.cloudProviderError, s!"failed to find node group for {node.name}: {err}"⟩
  | .ok none =>
      return .error ⟨.internalError,
        s!"picked node that doesn't belong to a node group: {node.name}"⟩
  | .ok (some nodeGroup) =>
      match ← nodeGroup.deleteNodes [node] with
      | .error err =>
          return .error ⟨.cloudProviderError, s!"failed to delete {node.name}: {err}"⟩
      | .ok () =>
          let t ← now
          let t' ← now
          registerScaleDown nodeGroup.id node.name t (t' + maxCloudProviderNodeDeletionTime)
          return .ok ()

/-- `deleteNode` between the taint and the deferred closure. -/
def drainAndDelete (maxGracefulTerminationSec : Int) (node : Node) (pods : List Pod) :
    Ctl (Except AutorepairError Unit) := do
  match ← drainNode node pods maxGracefulTerminationSec maxPodEvictionTime
      evictionRetryTime with
  | .error err => return .error err
  | .ok () => deleteNodeFromCloudProvider node

/-- `deleteNode`. -/
def deleteNode (maxGracefulTerminationSec : Int) (node : Node) (pods : List Pod) :
    Ctl (Except AutorepairError Unit) := do
  match ← markToBeDeleted node with
  | .error err => return .error ⟨.apiCallError, err⟩
  | .ok () =>
      match ← drainAndDelete maxGracefulTerminationSec node pods with
      | .error err =>
          -- the deferred closure: no deletion, so the taint goes
          let _ ← cleanToBeDeleted node
          return .error err
      | .ok () => return .ok ()

end AutoNodeRepair
