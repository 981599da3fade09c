import Mathlib.Logic.Function.Basic
import AutoNodeRepair.Model.Api

/-!
# The AWS cloud provider

`cloudprovider/aws`: the ASG cache (`auto_scaling_groups.go`), the manager
talking to the autoscaling service (`aws_manager.go`, `auto_scaling.go`) and
the node groups built on it (`aws_cloud_provider.go`). A Go function returning
`(value, error)` whose callers drop the error returns both here; elsewhere the
pair is an `Except`.
-/

namespace AutoNodeRepair

open Interact

/-! ## `auto_scaling.go`, `auto_scaling_groups.go` -/

/-- `getAutoscalingGroupByName`. -/
def getAutoscalingGroupByName (name : String) : Ctl (Except String Group) := do
  match ← describeAutoScalingGroups name with
  | .error err => return .error err
  | .ok [] => return .error s!"Unable to get first autoscaling.Group for {name}"
  | .ok (group :: _) => return .ok group

/-- One group of `regenerateCache`: its instances are filed under it. -/
def fileInstances (asg : Asg) (instances : List Instance)
    (newCache : AwsRef → Option Asg) : AwsRef → Option Asg :=
  instances.foldl (fun cache inst => Function.update cache ⟨inst.instanceId⟩ (some asg))
    newCache

/-- The loop of `regenerateCache` over the registered groups. -/
def regenerateLoop :
    List Asg → (AwsRef → Option Asg) → Ctl (Except String (AwsRef → Option Asg))
  | [], newCache => return .ok newCache
  | asg :: rest, newCache => do
      match ← getAutoscalingGroupByName asg.name with
      | .error err => return .error err
      | .ok group => regenerateLoop rest (fileInstances asg group.instances newCache)

/-- `regenerateCache`. -/
def regenerateCache : Ctl (Except String Unit) := do
  let m ← Prog.getStore
  match ← regenerateLoop m.registeredAsgs (fun _ => none) with
  | .error err => return .error err
  | .ok newCache =>
      Prog.setStore { m with instanceToAsg := newCache }
      return .ok ()

/-- `cacheMutex.Lock`. The background goroutine of `newAutoScalingGroups` may
have regenerated the cache since the lock was last released. -/
def lockCache : Ctl Unit := do
  if ← hourElapsed then
    let _ ← regenerateCache
    return ()
  else return ()

/-- `FindForInstance`. -/
def findForInstance (inst : AwsRef) : Ctl (Except String (Option Asg)) := do
  lockCache
  let m ← Prog.getStore
  match m.instanceToAsg inst with
  | some config => return .ok (some config)
  | none =>
      -- memorized by an earlier lookup; a registration later does not clear it
      if m.instancesNotInManagedAsg inst then
        return .ok none
      else
        match ← regenerateCache with
        | .error err =>
            return .error ("Error while looking for ASG for instance \x7bName:" ++
              inst.name ++ "\x7d, error: " ++ err)
        | .ok () =>
            let m ← Prog.getStore
            match m.instanceToAsg inst with
            | some config => return .ok (some config)
            | none =>
                -- the instance does not belong to any configured ASG: memorized
                Prog.setStore { m with
                  instancesNotInManagedAsg :=
                    Function.update m.instancesNotInManagedAsg inst true }
                return .ok none

/-! ## `aws_manager.go` -/

/-- `GetAsgSize`. -/
def getAsgSize (asgConfig : Asg) : Ctl (Int × Option String) := do
  match ← describeAutoScalingGroups asgConfig.name with
  | .error err => return (-1, some err)
  | .ok [] => return (-1, some s!"Unable to get first autoscaling.Group for {asgConfig.name}")
  | .ok (asg :: _) => return (asg.desiredCapacity, none)

/-- `SetAsgSize`. -/
def setAsgSize (asg : Asg) (size : Int) : Ctl (Except String Unit) :=
  setDesiredCapacity asg.name size

/-- The check that all instances are found in one group. -/
def checkCommonAsg (commonAsg : Option Asg) : List AwsRef → Ctl (Except String Unit)
  | [] => return .ok ()
  | inst :: rest => do
      match ← findForInstance inst with
      | .error err => return .error err
      | .ok asg =>
          if asg ≠ commonAsg then
            return .error "Connot delete instances which don't belong to the same ASG."
          else checkCommonAsg commonAsg rest

/-- The loop issuing the termination requests, up to the first rejected one. An accepted answer
is taken to carry `Activity.Description`, which the source dereferences for its log. -/
def terminateLoop (shouldDecrement : Bool) : List AwsRef → Ctl (Except String Unit)
  | [] => return .ok ()
  | inst :: rest => do
      match ← terminateInstance inst.name shouldDecrement with
      | .error err => return .error err
      | .ok () => terminateLoop shouldDecrement rest

/-- The common body of `DeleteInstances` and `RestartInstances`. -/
def terminateInstances (shouldDecrement : Bool) (instances : List AwsRef) :
    Ctl (Except String Unit) := do
  match instances with
  | [] => return .ok ()
  | first :: _ =>
      match ← findForInstance first with
      | .error err => return .error err
      | .ok commonAsg =>
          match ← checkCommonAsg commonAsg instances with
          | .error err => return .error err
          | .ok () => terminateLoop shouldDecrement instances

/-- `DeleteInstances`: each termination lowers the desired capacity. -/
def deleteInstances (instances : List AwsRef) : Ctl (Except String Unit) :=
  terminateInstances true instances

/-- `RestartInstances`: the group recreates what it loses. -/
def restartInstances (instances : List AwsRef) : Ctl (Except String Unit) :=
  terminateInstances false instances

/-- `GetAsgNodes`. -/
def getAsgNodes (asg : Asg) : Ctl (Except String (List String)) := do
  match ← getAutoscalingGroupByName asg.name with
  | .error err => return .error err
  | .ok group =>
      return .ok (group.instances.map fun inst =>
        s!"aws:///{inst.availabilityZone}/{inst.instanceId}")

/-! ## `aws_cloud_provider.go` -/

/-- The character class `[-0-9a-z]` of the provider id pattern. -/
def isRefChar (c : Char) : Bool := c == '-' || c.isDigit || c.isLower

/-- `validAwsRefIdRegex`: `aws:///` zone `/` name, both over `[-0-9a-z]`. -/
def validAwsRefId (id : String) : Bool :=
  id.toList.take 7 == "aws:///".toList &&
    match (id.toList.drop 7).dropWhile isRefChar with
    | [] => false
    | c :: name => c == '/' && name.all isRefChar

/-- The name in a provider id, `splitted[1]`; `none` is a panic. -/
def splitAwsRef (id : String) : Option AwsRef :=
  ((id.toList.drop 7).splitOn '/')[1]?.map fun name => ⟨String.ofList name⟩

/-- `AwsRefFromProviderId`. -/
def awsRefFromProviderId (id : String) : Except String AwsRef :=
  if !validAwsRefId id then
    .error s!"Wrong id: expected format aws:///<zone>/<name>, got {id}"
  else
    match splitAwsRef id with
    | some ref => .ok ref
    -- the pattern excludes the panic (`splitAwsRef_isSome`), so the callers have no case for it
    | none => .error "runtime error: index out of range"

/-- `NodeGroupForNode`: a nil group is a node no registered group owns. -/
def nodeGroupForNode (node : Node) : Ctl (Except String (Option Asg)) := do
  match awsRefFromProviderId node.providerID with
  | .error err => return .error err
  | .ok ref => findForInstance ref

/-- `NodeGroups`. -/
def nodeGroups : Ctl (List Asg) := do
  let m ← Prog.getStore
  return m.registeredAsgs

/-- `Asg.Nodes`. -/
def Asg.nodes (asg : Asg) : Ctl (Except String (List String)) := getAsgNodes asg

/-- `TargetSize`; a failed lookup yields `-1` next to the error. -/
def Asg.targetSize (asg : Asg) : Ctl (Int × Option String) := getAsgSize asg

/-- `Asg.IncreaseSize`. -/
def Asg.increaseSize (asg : Asg) (delta : Int) : Ctl (Except String Unit) := do
  if delta ≤ 0 then
    return .error "size increase must be positive"
  else
    match ← getAsgSize asg with
    | (_, some err) => return .error err
    | (size, none) =>
        if size + delta > asg.maxSize then
          return .error s!"size increase too large - desired:{size + delta} max:{asg.maxSize}"
        else setAsgSize asg (size + delta)

/-- `DecreaseTargetSize`. -/
def Asg.decreaseTargetSize (asg : Asg) (delta : Int) : Ctl (Except String Unit) := do
  if delta ≥ 0 then
    return .error "size decrease size must be negative"
  else
    match ← getAsgSize asg with
    | (_, some err) => return .error err
    | (size, none) =>
        match ← getAsgNodes asg with
        | .error err => return .error err
        | .ok nodes =>
            if size + delta < nodes.length then
              return .error
                s!"attempt to delete existing nodes targetSize:{size} delta:{delta} existingNodes: {nodes.length}"
            else setAsgSize asg (size + delta)

/-- `Belongs`. -/
def Asg.belongs (asg : Asg) (node : Node) : Ctl (Except String Bool) := do
  match awsRefFromProviderId node.providerID with
  | .error err => return .error err
  | .ok ref =>
      match ← findForInstance ref with
      | .error err => return .error err
      | .ok none => return .error s!"{node.name} doesn't belong to a known asg"
      | .ok (some targetAsg) =>
          if targetAsg.id ≠ asg.id then return .ok false else return .ok true

/-- The loop of `Asg.DeleteNodes` turning nodes into instance references. -/
def Asg.collectRefs (asg : Asg) : List Node → Ctl (Except String (List AwsRef))
  | [] => return .ok []
  | node :: rest => do
      match ← asg.belongs node with
      | .error err => return .error err
      | .ok false =>
          return .error s!"{node.name} belongs to a different asg than {asg.id}"
      | .ok true =>
          match awsRefFromProviderId node.providerID with
          | .error err => return .error err
          | .ok ref =>
              match ← asg.collectRefs rest with
              | .error err => return .error err
              | .ok refs => return .ok (ref :: refs)

/-- `Asg.DeleteNodes`: at (or below) the minimum the instances are restarted. -/
def Asg.deleteNodes (asg : Asg) (nodes : List Node) : Ctl (Except String Unit) := do
  match ← getAsgSize asg with
  | (_, some err) => return .error err
  | (size, none) =>
      match ← asg.collectRefs nodes with
      | .error err => return .error err
      | .ok refs =>
          if size ≤ asg.minSize then restartInstances refs
          else deleteInstances refs

end AutoNodeRepair
