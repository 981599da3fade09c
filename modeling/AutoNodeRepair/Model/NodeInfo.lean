import Std.Data.ExtTreeMap
import AutoNodeRepair.Model.Kube
import AutoNodeRepair.Text.Split

/-!
# Nodes as the scheduler sees them

Quantities, resource lists and `NodeInfo` of the scheduler cache
(`schedulercache/node_info.go`): a node with its pods and what they request together.
The templates of the cloud provider, the comparison of node groups and the label sets
are about these; the controller itself reads nothing of it, so nodes and pods get here
what they have besides the parts in `Kube`.

A quantity is an exact number of nano units, the finest that can be written down. It is
rounded away from zero where it is read as a whole number of 64 bits. The sums in the
`int64` fields of `Resource` do not overflow here.
-/

namespace AutoNodeRepair

open Std Text

/-! ## Quantities -/

/-- `resource.Quantity`. -/
structure Quantity where
  nanos : Int
  deriving DecidableEq, Repr

namespace Quantity

/-- `NewQuantity`. -/
def newQuantity (value : Int) : Quantity := ⟨value * 1000000000⟩

/-- `NewMilliQuantity`. -/
def newMilliQuantity (value : Int) : Quantity := ⟨value * 1000000⟩

/-- `Add`. -/
def add (q y : Quantity) : Quantity := ⟨q.nanos + y.nanos⟩

/-- `Sub`. -/
def sub (q y : Quantity) : Quantity := ⟨q.nanos - y.nanos⟩

/-- How many units it is, a part of one counting as a whole. -/
def units (q : Quantity) (unit : Int) : Int :=
  if 0 ≤ q.nanos then -(-q.nanos / unit) else q.nanos / unit

/-- How many thousandths it is. -/
def millis (q : Quantity) : Int := q.units 1000000

/-- `ScaledValue`, for a scale of so many nano units: an `int64`. What does not fit wraps
around, as the multiplication does for amounts that are stored in units, thousands or
millions; one that is stored in larger units is read as 0 then. -/
def scaledValue (q : Quantity) (unit : Int) : Int := wrapInt64 (q.units unit)

/-- `Value`. -/
def value (q : Quantity) : Int := q.scaledValue 1000000000

/-- `MilliValue`. -/
def milliValue (q : Quantity) : Int := q.scaledValue 1000000

theorem milliValue_of_fits {q : Quantity} (hfits : FitsInt64 q.millis) :
    q.milliValue = q.millis :=
  wrapInt64_of_fits hfits

end Quantity

/-- `v1.ResourceList`. -/
abbrev ResourceList := ExtTreeMap String Quantity

/-- A map of labels. -/
abbrev LabelMap := ExtTreeMap String String

/-! ## The names of resources -/

def resourceCPU : String := "cpu"

def resourceMemory : String := "memory"

def resourceNvidiaGPU : String := "alpha.kubernetes.io/nvidia-gpu"

def resourcePods : String := "pods"

def resourceEphemeralStorage : String := "ephemeral-storage"

/-- `IsDefaultNamespaceResource`. -/
def isDefaultNamespaceResource (name : String) : Bool :=
  !contains name "/" || contains name "kubernetes.io/"

/-- `IsOpaqueIntResourceName`. -/
def isOpaqueIntResourceName (name : String) : Bool :=
  "pod.alpha.kubernetes.io/opaque-int-resource-".toList.isPrefixOf name.toList

/-- `IsExtendedResourceName`. -/
def isExtendedResourceName (name : String) : Bool :=
  !isDefaultNamespaceResource name || isOpaqueIntResourceName name

/-- `IsHugePageResourceName`. -/
def isHugePageResourceName (name : String) : Bool :=
  "hugepages-".toList.isPrefixOf name.toList

/-! ## Requests -/

/-- `schedulercache.Resource`. -/
structure Resource where
  milliCPU : Int := 0
  memory : Int := 0
  nvidiaGPU : Int := 0
  ephemeralStorage : Int := 0
  allowedPodNumber : Int := 0
  extendedResources : ExtTreeMap String Int := ∅
  hugePages : ExtTreeMap String Int := ∅

/-- An amount is added to what a map has for the name. -/
def addAmount (amounts : ExtTreeMap String Int) (name : String) (amount : Int) :
    ExtTreeMap String Int :=
  amounts.insert name (amounts.getD name 0 + amount)

namespace Resource

/-- `AddExtended`. -/
def addExtended (r : Resource) (name : String) (amount : Int) : Resource :=
  { r with extendedResources := addAmount r.extendedResources name amount }

/-- `AddHugePages`. -/
def addHugePages (r : Resource) (name : String) (amount : Int) : Resource :=
  { r with hugePages := addAmount r.hugePages name amount }

/-- One round of the loop of `Add`. -/
def addEntry (r : Resource) (rName : String) (rQuant : Quantity) : Resource :=
  if rName = resourceCPU then { r with milliCPU := r.milliCPU + rQuant.milliValue }
  else if rName = resourceMemory then { r with memory := r.memory + rQuant.value }
  else if rName = resourceNvidiaGPU then { r with nvidiaGPU := r.nvidiaGPU + rQuant.value }
  else if rName = resourcePods then
    { r with allowedPodNumber := r.allowedPodNumber + rQuant.value }
  else if rName = resourceEphemeralStorage then
    { r with ephemeralStorage := r.ephemeralStorage + rQuant.value }
  else
    let r := if isExtendedResourceName rName then r.addExtended rName rQuant.value else r
    if isHugePageResourceName rName then r.addHugePages rName rQuant.value else r

/-- `Add`. -/
def add (r : Resource) (rl : ResourceList) : Resource :=
  rl.toList.foldl (fun r entry => r.addEntry entry.1 entry.2) r

/-- `ResourceList`: the five resources of every node, zero or not, and the requested ones of
the other kinds. -/
def resourceList (r : Resource) : ResourceList :=
  let result : ResourceList := ∅
  let result := result.insert resourceCPU (.newMilliQuantity r.milliCPU)
  let result := result.insert resourceMemory (.newQuantity r.memory)
  let result := result.insert resourceNvidiaGPU (.newQuantity r.nvidiaGPU)
  let result := result.insert resourcePods (.newQuantity r.allowedPodNumber)
  let result := result.insert resourceEphemeralStorage (.newQuantity r.ephemeralStorage)
  let result := r.extendedResources.toList.foldl
    (fun result entry => result.insert entry.1 (.newQuantity entry.2)) result
  r.hugePages.toList.foldl
    (fun result entry => result.insert entry.1 (.newQuantity entry.2)) result

end Resource

/-! ## Nodes and pods -/

/-- `v1.Container`, what it requests. -/
structure Container where
  requests : ResourceList := ∅

/-- A pod with the parts of it that the scheduler reads. -/
structure PodSpec extends Pod where
  selfLink : String := ""
  nodeSelector : Option LabelMap := none
  containers : List Container := []

/-- A node with its labels and resources. -/
structure NodeStatus extends Node where
  selfLink : String := ""
  labels : LabelMap := ∅
  capacity : ResourceList := ∅
  allocatable : ResourceList := ∅

/-- `schedulercache.NodeInfo`, with its node set. -/
structure NodeInfo where
  node : NodeStatus
  requestedResource : Resource := {}
  pods : List PodSpec := []

/-- `calculateResource`. -/
def calculateResource (pod : PodSpec) : Resource :=
  pod.containers.foldl (fun res c => res.add c.requests) {}

/-- `AddPod`: the number of allowed pods is not a request. -/
def NodeInfo.addPod (n : NodeInfo) (pod : PodSpec) : NodeInfo :=
  let res := calculateResource pod
  let requested := n.requestedResource
  { n with
    requestedResource :=
      { requested with
        milliCPU := requested.milliCPU + res.milliCPU
        memory := requested.memory + res.memory
        nvidiaGPU := requested.nvidiaGPU + res.nvidiaGPU
        ephemeralStorage := requested.ephemeralStorage + res.ephemeralStorage
        extendedResources := res.extendedResources.toList.foldl
          (fun amounts entry => addAmount amounts entry.1 entry.2) requested.extendedResources
        hugePages := res.hugePages.toList.foldl
          (fun amounts entry => addAmount amounts entry.1 entry.2) requested.hugePages }
    pods := n.pods ++ [pod] }

/-- `NewNodeInfo` and, as always after it, `SetNode`. -/
def newNodeInfo (node : NodeStatus) (pods : List PodSpec) : NodeInfo :=
  pods.foldl NodeInfo.addPod { node }

end AutoNodeRepair
