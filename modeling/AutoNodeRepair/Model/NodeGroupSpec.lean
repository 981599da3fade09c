import AutoNodeRepair.Model.Discovery
import AutoNodeRepair.Text.Number

/-!
# Node group specifications

`config/dynamic`: a node group given as `<minSize>:<maxSize>:<name>`, on the command
line or in the dynamic configuration, and the provider built from such specifications
(`aws_cloud_provider.go`). The sizes are Go's `int`, of 64 bits.
-/

namespace AutoNodeRepair

open Interact Text

/-! ## `node_group_spec.go` -/

/-- `NodeGroupSpec`. -/
structure NodeGroupSpec where
  name : String
  minSize : Int64
  maxSize : Int64
  supportScaleToZero : Bool := false
  deriving DecidableEq

namespace NodeGroupSpec

/-- `Validate`. -/
def validate (s : NodeGroupSpec) : Except String Unit :=
  if s.supportScaleToZero && s.minSize < 0 then .error "min size must be >= 0"
  else if !s.supportScaleToZero && s.minSize ≤ 0 then .error "min size must be >= 1"
  else if s.maxSize < s.minSize then .error "max size must be greater or equal to min size"
  else if s.name = "" then .error "name must not be blank"
  else .ok ()

/-- `String`. -/
def toString (s : NodeGroupSpec) : String :=
  s!"{s.minSize.toInt}:{s.maxSize.toInt}:{s.name}"

end NodeGroupSpec

/-- `SpecFromString`. -/
def specFromString (value : String) (supportScaleToZero : Bool) : Except String NodeGroupSpec :=
  match splitN ':' 3 value with
  | [minSize, maxSize, name] =>
      match atoi minSize with
      | none => .error s!"failed to set min size: {minSize}, expected integer"
      | some min =>
          match atoi maxSize with
          | none => .error s!"failed to set max size: {maxSize}, expected integer"
          | some max =>
              let spec : NodeGroupSpec := ⟨name, min, max, supportScaleToZero⟩
              match spec.validate with
              | .error err => .error s!"invalid node group spec: {err}"
              | .ok () => .ok spec
  | _ => .error s!"wrong nodes configuration: {value}"

/-! ## `config.go` -/

/-- `Config`, the settings. -/
structure Config where
  nodeGroups : List NodeGroupSpec

/-- The loop of `validate`. -/
def validateNodeGroups : List NodeGroupSpec → Except String Unit
  | [] => .ok ()
  | g :: rest =>
      match g.validate with
      | .error err => .error s!"invalid node group: {err}"
      | .ok () => validateNodeGroups rest

/-- `validate`. -/
def Config.validate (c : Config) : Except String Unit := validateNodeGroups c.nodeGroups

/-- `NodeGroupSpecStrings`. -/
def Config.nodeGroupSpecStrings (c : Config) : List String :=
  c.nodeGroups.map NodeGroupSpec.toString

/-! ## `aws_cloud_provider.go` -/

/-- `buildAsgFromSpec`. -/
def buildAsgFromSpec (value : String) (awsManager : AutoScalingGroups) : Except String Asg :=
  match specFromString value true with
  | .error err => .error s!"failed to parse node group spec: {err}"
  | .ok spec => .ok (buildAsg awsManager spec.minSize.toInt spec.maxSize.toInt spec.name)

/-- `addNodeGroup`. -/
def AwsCloudProvider.addNodeGroup (aws : AwsCloudProvider) (spec : String) :
    Discovery (Except String AwsCloudProvider) := do
  let m ← Prog.getStore
  match buildAsgFromSpec spec m with
  | .error err => return .error err
  | .ok asg =>
      let aws ← aws.addAsg asg
      return .ok aws

/-- The loop of `buildStaticallyDiscoveringProvider`. -/
def addNodeGroups : AwsCloudProvider → List String → Discovery (Except String AwsCloudProvider)
  | aws, [] => return .ok aws
  | aws, spec :: rest => do
      match ← aws.addNodeGroup spec with
      | .error err => return .error err
      | .ok aws => addNodeGroups aws rest

/-- `buildStaticallyDiscoveringProvider`. -/
def buildStaticallyDiscoveringProvider (specs : List String) :
    Discovery (Except String AwsCloudProvider) :=
  addNodeGroups ⟨[]⟩ specs

/-- `NodeGroupDiscoveryOptions`. -/
structure NodeGroupDiscoveryOptions where
  nodeGroupSpecs : List String
  nodeGroupAutoDiscoverySpec : String

namespace NodeGroupDiscoveryOptions

/-- `StaticDiscoverySpecified`. -/
def staticDiscoverySpecified (o : NodeGroupDiscoveryOptions) : Bool :=
  o.nodeGroupSpecs.length > 0

/-- `AutoDiscoverySpecified`. -/
def autoDiscoverySpecified (o : NodeGroupDiscoveryOptions) : Bool :=
  o.nodeGroupAutoDiscoverySpec ≠ ""

/-- `Validate`. -/
def validate (o : NodeGroupDiscoveryOptions) : Except String Unit :=
  if o.staticDiscoverySpecified && o.autoDiscoverySpecified then
    .error ("Either node group specs([" ++ " ".intercalate o.nodeGroupSpecs ++
      "]) or node group auto discovery spec(" ++ o.nodeGroupAutoDiscoverySpec ++
      ") can be specified but not both")
  else .ok ()

end NodeGroupDiscoveryOptions

/-- `BuildAwsCloudProvider`; `none` is a panic. -/
def buildAwsCloudProvider (order : NameOrder) (discoveryOpts : NodeGroupDiscoveryOptions) :
    Discovery (Option (Except String AwsCloudProvider)) := do
  match discoveryOpts.validate with
  | .error err => return some (.error s!"Failed to build an aws cloud provider: {err}")
  | .ok () =>
      if discoveryOpts.staticDiscoverySpecified then
        let provider ← buildStaticallyDiscoveringProvider discoveryOpts.nodeGroupSpecs
        return some provider
      else if discoveryOpts.autoDiscoverySpecified then
        buildAutoDiscoveringProvider order discoveryOpts.nodeGroupAutoDiscoverySpec
      else
        return some (.error "Failed to build an aws cloud provider: Either node group specs or node group auto discovery spec must be specified")

end AutoNodeRepair
