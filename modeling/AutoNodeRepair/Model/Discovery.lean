import AutoNodeRepair.Model.Aws
import AutoNodeRepair.Model.ClusterState
import AutoNodeRepair.Text.Split

/-!
# Auto discovery of the node groups

`--node-group-auto-discovery`: the specification is taken apart and the groups that
carry all the tags it names become the node groups of the provider
(`buildAutoDiscoveringProvider` in `aws_cloud_provider.go`, with
`getAutoscalingGroupsByTags` and `getAutoscalingGroupsByNames` of
`auto_scaling.go`).

This runs once, before the controller does, and asks AWS two questions that the
controller never asks. AWS answers in pages: an answer here is the first page with
the answers to the requests for the following ones, up to one without a
`NextToken`.
-/

namespace AutoNodeRepair

open Interact Text

/-! ## The questions -/

/-- `autoscaling.TagDescription`: a group and a key that it is tagged with. -/
structure TagDescription where
  resourceId : String
  key : String
  deriving DecidableEq, Repr

/-- `autoscaling.Group`, the fields a provider is built from. -/
structure GroupDescription where
  autoScalingGroupName : String
  minSize : Int
  maxSize : Int
  deriving DecidableEq, Repr

/-- A page, and what the requests with a `NextToken` are answered from there on. -/
structure Description (α : Type) where
  items : List α
  following : List (Except String (List α))

inductive DiscoveryCall
  /-- `DescribeTags` with one filter per key. -/
  | describeTags (keys : List String)
  | describeAutoScalingGroups (names : List String)

@[reducible] def DiscoveryCall.Ans : DiscoveryCall → Type
  | .describeTags _ => Except String (Description TagDescription)
  | .describeAutoScalingGroups _ => Except String (Description GroupDescription)

/-- The signature of the outside during the discovery. -/
abbrev DiscoveryApi : Sig := ⟨DiscoveryCall, DiscoveryCall.Ans⟩

/-- The code of the discovery. -/
abbrev Discovery := Prog AutoScalingGroups DiscoveryApi

/-! ## `auto_scaling.go` -/

/-- The loop over the following pages. -/
def readPages {α : Type} : List α → List (Except String (List α)) → Except String (List α)
  | items, [] => .ok items
  | _, .error err :: _ => .error err
  | items, .ok page :: rest => readPages (items ++ page) rest

/-- `getAutoscalingGroupsByNames`. -/
def getAutoscalingGroupsByNames (names : List String) :
    Discovery (Except String (List GroupDescription)) := do
  if names.length < 1 then
    return .error "List of ASG names was empty. Must specify at least one ASG name"
  else
    match ← Prog.call (E := DiscoveryApi) (.describeAutoScalingGroups names) with
    | .error err => return .error err
    | .ok description =>
        if description.items.length < 1 then return .error "No ASGs found"
        else return readPages description.items description.following

/-- One round of the loop filling `asgNameOccurrences`. -/
def countOccurrence (occurrences : String → Option Nat) (tag : TagDescription) :
    String → Option Nat :=
  match occurrences tag.resourceId with
  | some n => Function.update occurrences tag.resourceId (some (n + 1))
  | none => Function.update occurrences tag.resourceId (some 1)

/-- `asgNameOccurrences`. -/
def asgNameOccurrences (tags : List TagDescription) : String → Option Nat :=
  tags.foldl countOccurrence fun _ => none

/-- The order in which the names are visited, for each map there may be. -/
abbrev NameOrder := (tags : List TagDescription) → RangeOrder (asgNameOccurrences tags)

/-- `getAutoscalingGroupsByTags`: a group with all the keys has been described once for each
of them. -/
def getAutoscalingGroupsByTags (order : NameOrder) (keys : List String) :
    Discovery (Except String (List GroupDescription)) := do
  let numKeys := keys.length
  match ← Prog.call (E := DiscoveryApi) (.describeTags keys) with
  | .error err => return .error err
  | .ok description =>
      if description.items.length < 1 then
        return .error ("Unable to find ASGs for tag keys [" ++ " ".intercalate keys ++ "]")
      else
        match readPages description.items description.following with
        | .error err => return .error err
        | .ok tags =>
            let asgNames := (order tags).keys.filter fun asgName =>
              asgNameOccurrences tags asgName = some numKeys
            getAutoscalingGroupsByNames asgNames

/-! ## `aws_cloud_provider.go` -/

/-- `awsCloudProvider`; its manager is the store. -/
structure AwsCloudProvider where
  asgs : List Asg

/-- `buildAsg`, at a new address. -/
def buildAsg (m : AutoScalingGroups) (minSize maxSize : Int) (name : String) : Asg where
  addr := m.registeredAsgs.foldl (fun next asg => max next (asg.addr + 1)) 0
  name := name
  minSize := minSize
  maxSize := maxSize

/-- `addAsg`. -/
def AwsCloudProvider.addAsg (aws : AwsCloudProvider) (asg : Asg) : Discovery AwsCloudProvider := do
  let m ← Prog.getStore
  Prog.setStore (m.register asg)
  return { aws with asgs := aws.asgs ++ [asg] }

/-- The loop of `buildAutoDiscoveringProvider`. -/
def addAsgs : AwsCloudProvider → List GroupDescription → Discovery AwsCloudProvider
  | aws, [] => return aws
  | aws, asg :: rest => do
      let m ← Prog.getStore
      let aws ← aws.addAsg (buildAsg m asg.minSize asg.maxSize asg.autoScalingGroupName)
      addAsgs aws rest

/-- Code that returns an error, or does not return (`none`): it has panicked. -/
abbrev Checked := ExceptT String Option

/-- `tokens[i]`. -/
def index (tokens : List String) (i : Nat) : Checked String :=
  (tokens[i]? : Option String)

/-- The tags that a specification names: `buildAutoDiscoveringProvider` up to the call of
AWS. -/
def discoveryTags (spec : String) : Checked (List String) := do
  let tokens := split ':' spec
  if tokens.length ≠ 2 then
    throw s!"Invalid node group auto discovery spec specified via --node-group-auto-discovery: {spec}"
  let discoverer ← index tokens 0
  if discoverer ≠ "asg" then
    throw s!"Unsupported discoverer specified: {discoverer}"
  let param ← index tokens 1
  let paramTokens := split '=' param
  let parameterKey ← index paramTokens 0
  if parameterKey ≠ "tag" then
    throw s!"Unsupported parameter key \"{parameterKey}\" is specified for discoverer \"{discoverer}\". The only supported key is \"tag\""
  -- the number of these tokens has not been looked at
  let tag ← index paramTokens 1
  if tag = "" then
    throw "Invalid ASG tag for auto discovery specified: ASG tag must not be empty"
  return split ',' tag

/-- `buildAutoDiscoveringProvider`; `none` is a panic. -/
def buildAutoDiscoveringProvider (order : NameOrder) (spec : String) :
    Discovery (Option (Except String AwsCloudProvider)) := do
  match (discoveryTags spec).run with
  | none => return none
  | some (.error err) => return some (.error err)
  | some (.ok tags) =>
      match ← getAutoscalingGroupsByTags order tags with
      | .error err => return some (.error s!"Failed to get ASGs: {err}")
      | .ok asgs =>
          let aws ← addAsgs ⟨[]⟩ asgs
          return some (.ok aws)

end AutoNodeRepair
