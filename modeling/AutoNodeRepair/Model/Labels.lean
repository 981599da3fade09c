import AutoNodeRepair.Collect.Merge
import AutoNodeRepair.Model.NodeInfo

/-!
# The best label set

`utils/labels/labels.go`: the labels that a node should have for the pods that request
the most cpu, and for as many others as can be had with them. The result is the selector
map of a pod, grown in place; what the other pods ask for is read before that, and no
other class shares the map.
-/

namespace AutoNodeRepair

open Collect Std Text

/-- `defaultMinCPU`. -/
def defaultMinCPU : Quantity := .newMilliQuantity 50

/-- `infrastructureLabels`. -/
def infrastructureLabels : List String := ["kubernetes.io", "cloud.google.com"]

/-- One of the infrastructure labels occurs in the key. -/
def isInfrastructureLabel (key : String) : Bool :=
  infrastructureLabels.any fun infraLabel => contains key infraLabel

/-- `nodeSelectorStats`. -/
structure NodeSelectorStats where
  nodeSelector : LabelMap
  totalCpu : Quantity
  deriving DecidableEq

/-- What the containers of a pod request. -/
def PodSpec.requestedCpu (pod : PodSpec) : Quantity :=
  pod.containers.foldl
    (fun podCpu container => podCpu.add (container.requests.getD resourceCPU ⟨0⟩)) ⟨0⟩

/-- What a pod is counted with; for one that requests nothing this is `defaultMinCPU`. -/
def PodSpec.cpu (pod : PodSpec) : Quantity :=
  if pod.requestedCpu.milliValue = 0 then defaultMinCPU else pod.requestedCpu

/-- The selector of a pod, the nil map read as the empty one. -/
def PodSpec.selector (pod : PodSpec) : LabelMap := pod.nodeSelector.getD ∅

/-- The search for the stats of the selector; they are made if there are none. -/
def addToStats (nodeSelector : LabelMap) (podCpu : Quantity) :
    List NodeSelectorStats → List NodeSelectorStats
  | [] => [⟨nodeSelector, podCpu⟩]
  | stats :: rest =>
      if stats.nodeSelector = nodeSelector then
        { stats with totalCpu := stats.totalCpu.add podCpu } :: rest
      else stats :: addToStats nodeSelector podCpu rest

/-- `calculateNodeSelectorStats`. -/
def calculateNodeSelectorStats (pods : List PodSpec) : List NodeSelectorStats :=
  pods.foldl (fun stats pod => addToStats pod.selector pod.cpu stats) []

/-- What `sort.Slice` may leave behind: the order of equal elements is open. -/
structure SortedStats (stats : List NodeSelectorStats) where
  sorted : List NodeSelectorStats
  perm : sorted.Perm stats
  descending : sorted.Pairwise fun a b => b.totalCpu.milliValue ≤ a.totalCpu.milliValue

/-- `sortNodeSelectorStats`. -/
abbrev SortNodeSelectorStats := (stats : List NodeSelectorStats) → SortedStats stats

/-- `BestLabelSet`; `none` is the panic on `nodeSelectors[0]`. -/
def bestLabelSet (sortNodeSelectorStats : SortNodeSelectorStats) (pods : List PodSpec) :
    Option LabelMap :=
  match (sortNodeSelectorStats (calculateNodeSelectorStats pods)).sorted with
  | [] => none
  | first :: rest =>
      some (mergeAll isInfrastructureLabel first.nodeSelector
        (rest.map NodeSelectorStats.nodeSelector))

end AutoNodeRepair
