import AutoNodeRepair.Model.Api
import AutoNodeRepair.Model.Drain
import AutoNodeRepair.Model.InstanceTypes
import AutoNodeRepair.Model.NodeInfo

/-!
# Node templates

What a node of a group would look like if there was one: `TemplateNodeInfo` of
`aws_cloud_provider.go`, with `getAsgTemplate` and `buildNodeFromTemplate` of
`aws_manager.go`, `getInstanceTypeByLCName` of `auto_scaling.go` and the helpers of
`cloudprovider/utils.go`. The template reads other things of a group than the
controller does, and asks for launch configurations and random numbers, so its
questions have a signature of their own. Where the code panics the result is `none`.
-/

namespace AutoNodeRepair

open Interact Std Text

/-! ## The questions -/

/-- `autoscaling.TagDescription` as a group comes with it. -/
structure AsgTag where
  key : String
  value : String
  deriving DecidableEq, Repr

/-- `autoscaling.Group`, the fields a template is made of. -/
structure TemplateGroup where
  launchConfigurationName : String
  availabilityZones : List String
  tags : List AsgTag
  deriving DecidableEq, Repr

/-- `autoscaling.LaunchConfiguration`. -/
structure LaunchConfiguration where
  instanceType : String
  deriving DecidableEq, Repr

inductive TemplateCall
  | describeAutoScalingGroups (name : String)
  | describeLaunchConfigurations (name : String)
  /-- `rand.Int63`. -/
  | int63
  | now

@[reducible] def TemplateCall.Ans : TemplateCall → Type
  | .describeAutoScalingGroups _ => Except String (List TemplateGroup)
  | .describeLaunchConfigurations _ => Except String (List LaunchConfiguration)
  | .int63 => Nat
  | .now => Time

abbrev TemplateApi : Sig := ⟨TemplateCall, TemplateCall.Ans⟩

/-- The code of the templates. -/
abbrev Templating := Prog AutoScalingGroups TemplateApi

/-- `time.Now`. -/
def timeNow : Templating Time := Prog.call (E := TemplateApi) .now

/-- `rand.Int63`. -/
def randInt63 : Templating Nat := Prog.call (E := TemplateApi) .int63

/-! ## `auto_scaling.go` -/

/-- The first one of what is described. -/
def firstOf {α : Type} (missing : String) : Except String (List α) → Except String α
  | .error err => .error err
  | .ok [] => .error missing
  | .ok (a :: _) => .ok a

/-- `getAutoscalingGroupByName`, for the fields of a template. -/
def getTemplateGroupByName (name : String) : Templating (Except String TemplateGroup) := do
  let groups ← Prog.call (E := TemplateApi) (.describeAutoScalingGroups name)
  return firstOf s!"Unable to get first autoscaling.Group for {name}" groups

/-- `getInstanceTypeByLCName`. -/
def getInstanceTypeByLCName (name : String) : Templating (Except String String) := do
  let launchConfigurations ← Prog.call (E := TemplateApi) (.describeLaunchConfigurations name)
  return (firstOf s!"Unable to get first LaunchConfiguration for {name}"
    launchConfigurations).map LaunchConfiguration.instanceType

/-! ## `cloudprovider/utils.go` -/

/-- `JoinStringMaps` of two maps: the second one wins. -/
def joinStringMaps (first second : LabelMap) : LabelMap :=
  first ∪ second

/-- `BuildReadyConditions`. -/
def buildReadyConditions : Templating (List NodeCondition) := do
  let lastTransition := (← timeNow) - minute
  return [⟨.ready, .true, lastTransition⟩, ⟨.networkUnavailable, .false, lastTransition⟩,
    ⟨.outOfDisk, .false, lastTransition⟩, ⟨.other "MemoryPressure", .false, lastTransition⟩]

/-- `KubeProxyCpuRequestMillis`. -/
def kubeProxyCpuRequestMillis : Int := 100

/-- `BuildKubeProxy`. -/
def buildKubeProxy (name : String) : Templating PodSpec := do
  let number ← randInt63
  return {
    name := s!"kube-proxy-{name}-{number}"
    ns := "kube-system"
    nodeName := ""
    annotations := [("kubernetes.io/config.source", "file"),
      ("scheduler.alpha.kubernetes.io/critical-pod", "true"),
      (configMirrorAnnotationKey, "1234567890abcdef")]
    labels := [("component", "kube-proxy"), ("tier", "node")]
    phase := .running
    containers :=
      [{ requests := (∅ : ResourceList).insert resourceCPU
          (.newMilliQuantity kubeProxyCpuRequestMillis) }] }

/-! ## `aws_manager.go` -/

/-- `asgTemplate`; the instance type may be the nil pointer. -/
structure AsgTemplate where
  instanceType : Option InstanceType
  region : String
  zone : String
  tags : List AsgTag

/-- `getAsgTemplate`. The instance type is looked up and not looked at. -/
def getAsgTemplate (name : String) : Templating (Option (Except String AsgTemplate)) := do
  match ← getTemplateGroupByName name with
  | .error err => return some (.error err)
  | .ok asg =>
      match ← getInstanceTypeByLCName asg.launchConfigurationName with
      | .error err => return some (.error err)
      | .ok instanceTypeName =>
          match asg.availabilityZones with
          | [] => return some (.error s!"Unable to get first AvailabilityZone for {name}")
          | az :: _ =>
              -- `az[0 : len(az)-1]` is out of range for an empty name
              if az = "" then return none
              else
                return some (.ok {
                  instanceType := lookUpInstanceType instanceTypeName
                  region := String.ofList az.toList.dropLast
                  zone := az
                  tags := asg.tags })

/-- The labels of the well-known names. -/
def labelArch : String := "beta.kubernetes.io/arch"

@[inherit_doc labelArch]
def labelOS : String := "beta.kubernetes.io/os"

@[inherit_doc labelArch]
def labelInstanceType : String := "beta.kubernetes.io/instance-type"

@[inherit_doc labelArch]
def labelZoneRegion : String := "failure-domain.beta.kubernetes.io/region"

@[inherit_doc labelArch]
def labelZoneFailureDomain : String := "failure-domain.beta.kubernetes.io/zone"

@[inherit_doc labelArch]
def labelHostname : String := "kubernetes.io/hostname"

/-- `buildGenericLabels`, for the instance type that the template points to. -/
def buildGenericLabels (template : AsgTemplate) (instanceType : InstanceType)
    (nodeName : String) : LabelMap :=
  let result : LabelMap := ∅
  let result := result.insert labelArch "amd64"
  let result := result.insert labelOS "linux"
  let result := result.insert labelInstanceType instanceType.instanceType
  let result := result.insert labelZoneRegion template.region
  let result := result.insert labelZoneFailureDomain template.zone
  result.insert labelHostname nodeName

/-- What a tag is named after that is to become a label, and a taint. -/
def labelTag : String := "k8s.io/cluster-autorepair/node-template/label/"

@[inherit_doc labelTag]
def taintTag : String := "k8s.io/cluster-autorepair/node-template/taint/"

/-- One round of the loop of `extractLabelsFromAsg`. -/
def addTagLabel (result : LabelMap) (tag : AsgTag) : LabelMap :=
  match (splitAt labelTag tag.key)[1]? with
  | none => result
  | some label => if label ≠ "" then result.insert label tag.value else result

/-- `extractLabelsFromAsg`. -/
def extractLabelsFromAsg (tags : List AsgTag) : LabelMap :=
  tags.foldl addTagLabel ∅

/-- `extractTaintsFromAsg`. The number of values is not looked at: a value without a `:` has
no `values[1]`. -/
def extractTaintsFromAsg : List AsgTag → Option (List Taint)
  | [] => some []
  | tag :: rest =>
      match (splitAt taintTag tag.key)[1]? with
      | none => extractTaintsFromAsg rest
      | some key => do
          let values := splitN ':' 2 tag.value
          let taint : Taint := { key, value := ← values[0]?, effect := ← values[1]? }
          return taint :: (← extractTaintsFromAsg rest)

/-- `buildNodeFromTemplate`; it never returns an error. -/
def buildNodeFromTemplate (asg : Asg) (template : AsgTemplate) :
    Templating (Option NodeStatus) := do
  let number ← randInt63
  let nodeName := s!"{asg.name}-asg-{number}"
  match template.instanceType with
  | none => return none
  | some instanceType =>
      let capacity : ResourceList := ∅
      let capacity := capacity.insert resourcePods (.newQuantity 110)
      let capacity := capacity.insert resourceCPU (.newQuantity instanceType.vcpu)
      let capacity := capacity.insert resourceNvidiaGPU (.newQuantity instanceType.gpu)
      let capacity := capacity.insert resourceMemory
        (.newQuantity (instanceType.memoryMb * 1024 * 1024))
      let labels := joinStringMaps ∅ (extractLabelsFromAsg template.tags)
      let labels := joinStringMaps labels (buildGenericLabels template instanceType nodeName)
      match extractTaintsFromAsg template.tags with
      | none => return none
      | some taints =>
          let conditions ← buildReadyConditions
          return some {
            name := nodeName
            providerID := ""
            selfLink := s!"/api/v1/nodes/{nodeName}"
            labels, taints, conditions, capacity
            allocatable := capacity }

/-! ## `aws_cloud_provider.go` -/

/-- `TemplateNodeInfo`. -/
def Asg.templateNodeInfo (asg : Asg) : Templating (Option (Except String NodeInfo)) := do
  match ← getAsgTemplate asg.name with
  | none => return none
  | some (.error err) => return some (.error err)
  | some (.ok template) =>
      match ← buildNodeFromTemplate asg template with
      | none => return none
      | some node =>
          let kubeProxy ← buildKubeProxy asg.name
          return some (.ok (newNodeInfo node [kubeProxy]))

end AutoNodeRepair
