import AutoNodeRepair.Model.Kube

/-!
# What the controller asks of the outside

Everything the process does not compute itself: the clock, the AWS
autoscaling service, the Kubernetes API server with the informer stores behind
the listers, and the two schedulers it is at the mercy of (the Go runtime and
the hourly background job). `Ctl` is the monad of the modelled code: its
private store is the ASG cache of the `AwsManager`.
-/

namespace AutoNodeRepair

open Interact

/-! ## AWS objects -/

/-- `AwsRef`: a reference to an EC2 instance (or a group) by name. -/
structure AwsRef where
  name : String
  deriving DecidableEq, Repr

/-- `Asg`, a registered node group. Go compares `*Asg` values as pointers;
`addr` is the identity of the object.

The sizes are Go's `int` there and unbounded here: the sizes AWS reports, which are
not negative, and what is added to them are taken to stay far below `2 ^ 63`, where
nothing wraps around. The -1 of a failed read is no such size (`CalcExpandSize`). -/
structure Asg where
  addr : Nat
  name : String
  minSize : Int
  maxSize : Int
  deriving DecidableEq, Repr

/-- `Asg.Id`. -/
def Asg.id (asg : Asg) : String := asg.name

/-- `autoscaling.Instance`. -/
structure Instance where
  instanceId : String
  availabilityZone : String
  deriving DecidableEq, Repr

/-- `autoscaling.Group`, as `DescribeAutoScalingGroups` reports it. -/
structure Group where
  desiredCapacity : Int
  instances : List Instance
  deriving DecidableEq, Repr

/-- `autoScalingGroups`: the registered groups and the two caches. Every group
is registered when it is added to the provider, so `registeredAsgs` is also
what `NodeGroups` returns. -/
structure AutoScalingGroups where
  registeredAsgs : List Asg
  instanceToAsg : AwsRef → Option Asg
  instancesNotInManagedAsg : AwsRef → Bool

/-- `newAutoScalingGroups`. -/
def newAutoScalingGroups : AutoScalingGroups where
  registeredAsgs := []
  instanceToAsg := fun _ => none
  instancesNotInManagedAsg := fun _ => false

/-- `Register`. -/
def AutoScalingGroups.register (m : AutoScalingGroups) (asg : Asg) : AutoScalingGroups :=
  { m with registeredAsgs := m.registeredAsgs ++ [asg] }

/-! ## The questions -/

/-- The informer stores behind the node listers; each lister has its own. -/
inductive NodeStore
  | ready | notReady
  deriving DecidableEq, Repr

/-- The fetched object of a pod's controller. -/
structure ControllerObject where
  replicas : Option Int := none
  deriving DecidableEq, Repr

inductive ApiCall
  /-- `time.Now` -/
  | now
  /-- `time.Sleep` -/
  | sleep (d : Duration)
  /-- Has the hourly cache regeneration run since the lock was last released? -/
  | hourElapsed
  /-- Which of the running eviction goroutines moves next (`none`: the timer
  of the waiting `select` fires instead). -/
  | schedule (running : Nat)
  /-- `DescribeAutoScalingGroups` for one name, one record. -/
  | describeAutoScalingGroups (name : String)
  | setDesiredCapacity (name : String) (desiredCapacity : Int)
  | terminateInstance (instanceId : String) (shouldDecrementDesiredCapacity : Bool)
  | listNodes (store : NodeStore)
  | listScheduledPods
  | listPodDisruptionBudgets
  | getNode (name : String)
  | updateNode (node : Node)
  /-- An `Eviction` with the pod's namespace and name. -/
  | evict (pod : Pod)
  | getPod (ns name : String)
  | getController (kind : ControllerKind) (ns name : String)
  /-- `ClusterStateRegistry.RegisterScaleDown` -/
  | registerScaleDown (nodeGroupName nodeName : String) (time expectedDeleteTime : Time)

@[reducible] def ApiCall.Ans : ApiCall → Type
  | .now => Time
  | .sleep _ => Unit
  | .hourElapsed => Bool
  | .schedule _ => Option Nat
  | .describeAutoScalingGroups _ => Except String (List Group)
  | .setDesiredCapacity .. => Except String Unit
  | .terminateInstance .. => Except String Unit
  | .listNodes _ => Except KubeError (List Node)
  -- `ListAll` returns what it has collected next to the error
  | .listScheduledPods => List Pod × Option KubeError
  | .listPodDisruptionBudgets => List PodDisruptionBudget × Option KubeError
  | .getNode _ => Except KubeError (Option Node)
  | .updateNode _ => Except KubeError Unit
  | .evict _ => Except KubeError Unit
  | .getPod .. => Except KubeError Pod
  | .getController .. => Except KubeError (Option ControllerObject)
  | .registerScaleDown .. => Unit

/-- The signature of the outside. -/
abbrev Api : Sig := ⟨ApiCall, ApiCall.Ans⟩

/-- The modelled code: it keeps the ASG cache and asks the outside. -/
abbrev Ctl := Prog AutoScalingGroups Api

/-- One exchange with the outside, whose state is a `W`. -/
abbrev ApiEvent (W : Type) := Event W Api

/-- The service the code runs against. -/
abbrev ApiService (W : Type) := Service W Api

/-- The process and its outside. -/
abbrev Machine (W : Type) := Mach AutoScalingGroups W

/-! ## The client calls, typed -/

def now : Ctl Time := Prog.call (E := Api) .now

def sleep (d : Duration) : Ctl Unit := Prog.call (E := Api) (.sleep d)

def hourElapsed : Ctl Bool := Prog.call (E := Api) .hourElapsed

def schedule (running : Nat) : Ctl (Option Nat) := Prog.call (E := Api) (.schedule running)

def describeAutoScalingGroups (name : String) : Ctl (Except String (List Group)) :=
  Prog.call (E := Api) (.describeAutoScalingGroups name)

def setDesiredCapacity (name : String) (desiredCapacity : Int) : Ctl (Except String Unit) :=
  Prog.call (E := Api) (.setDesiredCapacity name desiredCapacity)

def terminateInstance (instanceId : String) (shouldDecrement : Bool) :
    Ctl (Except String Unit) :=
  Prog.call (E := Api) (.terminateInstance instanceId shouldDecrement)

def listNodes (store : NodeStore) : Ctl (Except KubeError (List Node)) :=
  Prog.call (E := Api) (.listNodes store)

def listScheduledPods : Ctl (List Pod × Option KubeError) :=
  Prog.call (E := Api) .listScheduledPods

def listPodDisruptionBudgets : Ctl (List PodDisruptionBudget × Option KubeError) :=
  Prog.call (E := Api) .listPodDisruptionBudgets

def getNode (name : String) : Ctl (Except KubeError (Option Node)) :=
  Prog.call (E := Api) (.getNode name)

def updateNode (node : Node) : Ctl (Except KubeError Unit) :=
  Prog.call (E := Api) (.updateNode node)

def evict (pod : Pod) : Ctl (Except KubeError Unit) := Prog.call (E := Api) (.evict pod)

def getPod (ns name : String) : Ctl (Except KubeError Pod) :=
  Prog.call (E := Api) (.getPod ns name)

def getController (kind : ControllerKind) (ns name : String) :
    Ctl (Except KubeError (Option ControllerObject)) :=
  Prog.call (E := Api) (.getController kind ns name)

def registerScaleDown (nodeGroupName nodeName : String) (time expectedDeleteTime : Time) :
    Ctl Unit :=
  Prog.call (E := Api) (.registerScaleDown nodeGroupName nodeName time expectedDeleteTime)

end AutoNodeRepair
