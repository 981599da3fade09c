import AutoNodeRepair.Model.ClusterState
import AutoNodeRepair.Model.NodeGroupSpec
import AutoNodeRepair.Model.Repair

/-!
# From the command line to the main loop

`run` of `main.go` from the client on up to its loop: the options are made from the flags
(`createAutorepairOptions`), and `NewAutorepair` makes the context that the loop works
with, the cloud provider above all (`cloud_provider_builder.go`). `glog.Fatalf` ends the
process.

The files are a parameter: whether a configuration file can be opened, and what reading it
comes to. The event recorder of the context is that of `Model.ConfigMaps`; without
`WriteStatusConfigMap` it asks nothing and records nothing. Two things are left out:
`createKubeClient`, which is called before and may end the process itself, and the refresh of
the cache that `newAutoScalingGroups` starts in the background, which asks AWS as a
lookup does.
-/

namespace AutoNodeRepair

open Interact

/-! ## `main.go` -/

/-- The flags that `run` reads, with their defaults. -/
structure Flags where
  nodeGroupsFlag : List String := []
  clusterName : String := ""
  cloudConfig : String := ""
  configNamespace : String := "kube-system"
  scanInterval : Duration := 10 * second
  cloudProviderFlag : String := "gce"
  repairPeriod : Duration := 10 * minute
  startUpDelay : Duration := 10 * minute

/-- `AutorepairingOptions`, the fields that are read. -/
structure AutorepairingOptions where
  maxTotalUnreadyPercentage : Float := 0
  okTotalUnreadyCount : Int := 0
  cloudConfig : String := ""
  cloudProviderName : String := ""
  nodeGroups : List String := []
  nodeGroupAutoDiscovery : String := ""
  writeStatusConfigMap : Bool := false
  configNamespace : String := ""
  clusterName : String := ""

/-- `createAutorepairOptions`: no flag sets the other options. -/
def createAutorepairOptions (flags : Flags) : AutorepairingOptions where
  cloudConfig := flags.cloudConfig
  cloudProviderName := flags.cloudProviderFlag
  nodeGroups := flags.nodeGroupsFlag
  configNamespace := flags.configNamespace
  clusterName := flags.clusterName

/-! ## `cloud_provider_builder.go` -/

/-- The end of a part of the start: the process ends with a message, or panics, or goes on. -/
inductive Started (α : Type)
  | fatal (msg : String)
  | panicked
  | done (a : α)

/-- The configuration files: `none` cannot be opened, and the content of another is read
into the configuration or is not. -/
abbrev Files := String → Option (Except String Unit)

/-- `CreateAwsManager`, given what reading its file comes to. -/
def createAwsManager : Option (Except String Unit) → Except String AutoScalingGroups
  | some (.error err) => .error err
  | some (.ok ()) => .ok newAutoScalingGroups
  | none => .ok newAutoScalingGroups

/-- The manager of `Build`. The two messages are given `err`, which nothing has set, and
not the error there is. -/
def openAwsManager (files : Files) (cloudConfig : String) : Started AutoScalingGroups :=
  let created := fun configReader =>
    match createAwsManager configReader with
    | .error _ => .fatal "Failed to create AWS Manager: <nil>"
    | .ok awsManager => .done awsManager
  if cloudConfig ≠ "" then
    match files cloudConfig with
    | none => .fatal s!"Couldn't open cloud provider configuration {cloudConfig}: <nil>"
    | some content => created (some content)
  else created none

/-- `CloudProviderBuilder`. -/
structure CloudProviderBuilder where
  cloudProviderFlag : String
  cloudConfig : String
  clusterName : String

/-- `Build`. For any other cloud provider than AWS it returns nil. -/
def CloudProviderBuilder.build (b : CloudProviderBuilder) (files : Files) (order : NameOrder)
    (discoveryOpts : NodeGroupDiscoveryOptions) :
    Discovery (Started (Option AwsCloudProvider)) := do
  if b.cloudProviderFlag = "aws" then
    match openAwsManager files b.cloudConfig with
    | .fatal msg => return .fatal msg
    | .panicked => return .panicked
    | .done awsManager =>
        Prog.setStore awsManager
        match ← buildAwsCloudProvider order discoveryOpts with
        | none => return .panicked
        | some (.error err) => return .fatal s!"Failed to create AWS cloud provider: {err}"
        | some (.ok cloudProvider) => return .done (some cloudProvider)
  else return .done none

/-! ## `core` -/

/-- `AutorepairingContext`, as far as it is not the same for all options. -/
structure AutorepairingContext where
  options : AutorepairingOptions
  cloudProvider : Option AwsCloudProvider
  clusterStateConfig : ClusterStateRegistryConfig

/-- `NewAutorepairContext`. -/
def newAutorepairContext (files : Files) (order : NameOrder) (options : AutorepairingOptions) :
    Discovery (Started AutorepairingContext) := do
  let builder : CloudProviderBuilder :=
    ⟨options.cloudProviderName, options.cloudConfig, options.clusterName⟩
  match ← builder.build files order ⟨options.nodeGroups, options.nodeGroupAutoDiscovery⟩ with
  | .fatal msg => return .fatal msg
  | .panicked => return .panicked
  | .done cloudProvider =>
      return .done ⟨options, cloudProvider,
        ⟨options.maxTotalUnreadyPercentage, options.okTotalUnreadyCount⟩⟩

/-- `NewAutorepair`, by way of the builder, `NewDynamicAutorepair` and `NewStaticAutorepair`,
which hand on what they get. -/
def newAutorepair (files : Files) (order : NameOrder) (opts : AutorepairingOptions) :
    Discovery (Started AutorepairingContext) :=
  newAutorepairContext files order opts

/-- `run` from `createKubeClient` on, once that has returned, up to the loop. -/
def startUp (files : Files) (order : NameOrder) (flags : Flags) :
    Discovery (Started AutorepairingContext) :=
  newAutorepair files order (createAutorepairOptions flags)

/-! ## The loop -/

/-- `RunOnce` with a nil cloud provider: `RepairNodes` panics in its first line. -/
def StaticAutorepair.runOnceNil (repairtime : Duration) : Ctl RepairReport := do
  let notReadyNodes ← listNotReadyNodes
  if notReadyNodes.length = 0 then
    return ⟨.done, []⟩
  else
    sleep repairtime
    let stillNotReadyNodes ← listNotReadyNodes
    let toBeRepairedNodes := commonNodes notReadyNodes stillNotReadyNodes
    if toBeRepairedNodes.length ≠ 0 then return ⟨.panicked, []⟩
    else return ⟨.done, []⟩

/-- The first `k` rounds of the loop of `run` with a nil cloud provider. -/
def StaticAutorepair.roundsNil (scanInterval repairPeriod : Duration) :
    Nat → Ctl (List RepairReport)
  | 0 => return []
  | k + 1 => do
      sleep scanInterval
      let report ← StaticAutorepair.runOnceNil repairPeriod
      match report.exit with
      | .done =>
          let later ← StaticAutorepair.roundsNil scanInterval repairPeriod k
          return report :: later
      | _ => return [report]

/-- `run` from its loop on, for `k` rounds. -/
def AutorepairingContext.loop (context : AutorepairingContext) (a : StaticAutorepair)
    (fuel : Nat) (flags : Flags) (k : Nat) : Ctl (List RepairReport) :=
  match context.cloudProvider with
  | none => StaticAutorepair.roundsNil flags.scanInterval flags.repairPeriod k
  | some _ => a.rounds fuel flags.scanInterval flags.repairPeriod k

end AutoNodeRepair
