import AutoNodeRepair.Interact.Prog

/-!
# Kubernetes objects

The parts of the API objects that the controller reads: nodes with their
taints and conditions, pods with their owners and volumes, disruption budgets.
A Go map is an association list here, a nil pointer `none`.
-/

namespace AutoNodeRepair

/-- `time.Time`: nanoseconds since Go's zero time. -/
abbrev Time := Int

/-- `time.Duration`: nanoseconds. -/
abbrev Duration := Int

def second : Duration := 1000000000

def minute : Duration := 60 * second

/-- `Time.Unix`: whole seconds since 1970. -/
def unix (t : Time) : Int := t / second - 62135596800

/-! ## Machine integers -/

/-- Go's `int64`, and `int` on 64 bits: a result that does not fit wraps around. -/
def wrapInt64 (n : Int) : Int := (Int64.ofInt n).toInt

/-- The number fits into 64 bits: `math.MinInt64` and `math.MaxInt64`. -/
def FitsInt64 (n : Int) : Prop := -9223372036854775808 ≤ n ∧ n ≤ 9223372036854775807

instance (n : Int) : Decidable (FitsInt64 n) := inferInstanceAs (Decidable (_ ∧ _))

theorem wrapInt64_of_fits {n : Int} (hfits : FitsInt64 n) : wrapInt64 n = n :=
  Int64.toInt_ofInt_of_le hfits.1 (Int.lt_add_one_of_le hfits.2)

/-- An error of the Kubernetes client; `IsNotFound` reads the flag. -/
structure KubeError where
  msg : String
  notFound : Bool := false
  deriving DecidableEq, Repr

/-! ## Nodes -/

structure Taint where
  key : String
  value : String
  effect : String
  deriving DecidableEq, Repr

inductive NodeConditionType
  | ready | outOfDisk | networkUnavailable | diskPressure
  | other (name : String)
  deriving DecidableEq, Repr

inductive ConditionStatus
  | true | false | unknown
  deriving DecidableEq, Repr

structure NodeCondition where
  type : NodeConditionType
  status : ConditionStatus
  lastTransitionTime : Time := 0
  deriving DecidableEq, Repr

structure Node where
  name : String
  ns : String := ""
  providerID : String
  taints : List Taint := []
  unschedulable : Bool := false
  conditions : List NodeCondition := []
  creationTimestamp : Time := 0
  deriving DecidableEq, Repr

/-- What `GetReadinessState` has gathered so far from the conditions. -/
structure ReadinessScan where
  canNodeBeReady : Bool
  readyFound : Bool
  lastTransitionTime : Time

/-- One condition. Only the four listed types move the transition time. -/
def ReadinessScan.see (s : ReadinessScan) (cond : NodeCondition) : ReadinessScan :=
  let last := if s.lastTransitionTime < cond.lastTransitionTime
    then cond.lastTransitionTime else s.lastTransitionTime
  match cond.type with
  | .ready =>
      { canNodeBeReady := s.canNodeBeReady && cond.status == .true
        readyFound := true, lastTransitionTime := last }
  | .outOfDisk | .networkUnavailable | .diskPressure =>
      { s with canNodeBeReady := s.canNodeBeReady && cond.status != .true
               lastTransitionTime := last }
  | .other _ => s

/-- `GetReadinessState`. -/
def getReadinessState (node : Node) : Bool × Time × Option String :=
  let s := node.conditions.foldl ReadinessScan.see ⟨true, false, 0⟩
  if !s.readyFound then (false, 0, some "readiness information not found")
  else (s.canNodeBeReady, s.lastTransitionTime, none)

/-- `IsNodeReadyAndSchedulable`. Unschedulable nodes count as healthy, so that
cordoned nodes are not repaired. -/
def isNodeReadyAndSchedulable (node : Node) : Bool :=
  if !(getReadinessState node).1 then false
  else if node.unschedulable then true
  else true

/-! ## Pods -/

/-- The controller kinds the drain logic knows. -/
inductive ControllerKind
  | replicationController | daemonSet | job | replicaSet | statefulSet
  | other (kind : String)
  deriving DecidableEq, Repr

structure OwnerReference where
  kind : ControllerKind
  name : String
  controller : Option Bool := none
  deriving DecidableEq, Repr

structure Volume where
  hostPath : Bool := false
  emptyDir : Bool := false
  deriving DecidableEq, Repr

inductive PodPhase
  | pending | running | succeeded | failed | unknown
  deriving DecidableEq, Repr

abbrev Labels := List (String × String)

structure Pod where
  ns : String
  name : String
  nodeName : String
  labels : Labels := []
  annotations : List (String × String) := []
  deletionTimestamp : Option Time := none
  ownerReferences : List OwnerReference := []
  volumes : List Volume := []
  phase : PodPhase := .running
  deriving DecidableEq, Repr

/-- Namespace and name: the identity under which the API server knows a pod. -/
def Pod.key (pod : Pod) : String × String := (pod.ns, pod.name)

/-- A disruption budget. The selector is what `LabelSelectorAsSelector` makes
of `Spec.Selector`: an error, or the predicate `Matches`. -/
structure PodDisruptionBudget where
  ns : String
  selector : Except String (Labels → Bool)
  podDisruptionsAllowed : Int

end AutoNodeRepair
