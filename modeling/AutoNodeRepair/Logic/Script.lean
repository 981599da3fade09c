import AutoNodeRepair.Logic.Drained

/-!
# An outside that follows a script

To show that something can happen whatever certain answers are, those answers are
written down and the outside reads them off one after the other; to everything else
it says yes. The controller in front of it knows every instance as one of its group, so
that no lookup asks AWS. There a node whose pods may be moved is tainted
(`deleteNode_taints`), and one with an instance is terminated (`Script.deleteNode_terminates`).
-/

namespace AutoNodeRepair

open Interact

/-- How far the script has been read. -/
structure Tape where
  sizes : Nat := 0
  listings : Nat := 0
  looks : Nat := 0

/-- The answers that are written down: group sizes (`none` is an error), numbers of ready
nodes, times, the answer to a resize, and what the two listers return. -/
structure Script where
  sizes : Nat → Option Int
  ready : Nat → Nat
  times : Nat → Time
  resize : Except String Unit
  pods : List Pod × Option KubeError
  pdbs : List PodDisruptionBudget × Option KubeError

/-- A ready node with an instance. -/
def readyNode : Node :=
  { name := "ready", providerID := "aws:///z/i-0", conditions := [⟨.ready, .true, 0⟩] }

namespace Script

/-- The answer to `DescribeAutoScalingGroups`. -/
def describe (s : Script) (i : Nat) : Except String (List Group) :=
  match s.sizes i with
  | some size => .ok [⟨size, []⟩]
  | none => .error "Throttling: Rate exceeded"

/-- The outside of the script. -/
def service (s : Script) : ApiService Tape := fun w call =>
  match call with
  | .now => (s.times w.looks, { w with looks := w.looks + 1 })
  | .sleep _ => ((), w)
  | .hourElapsed => (false, w)
  | .schedule _ => (some 0, w)
  | .describeAutoScalingGroups _ => (s.describe w.sizes, { w with sizes := w.sizes + 1 })
  | .setDesiredCapacity _ _ => (s.resize, w)
  | .terminateInstance _ _ => (.ok (), w)
  | .listNodes _ =>
      (.ok (List.replicate (s.ready w.listings) readyNode), { w with listings := w.listings + 1 })
  | .listScheduledPods => (s.pods, w)
  | .listPodDisruptionBudgets => (s.pdbs, w)
  | .getNode name => (.ok (some { name := name, providerID := "" }), w)
  | .updateNode _ => (.ok (), w)
  | .evict _ => (.ok (), w)
  | .getPod _ _ => (.error ⟨"not found", true⟩, w)
  | .getController _ _ _ => (.ok none, w)
  | .registerScaleDown _ _ _ _ => ((), w)

/-- If the times do not run backwards, the clock does not. -/
theorem clockRuns (s : Script) (htimes : ∀ i, s.times i ≤ s.times (i + 1)) :
    ClockRuns s.service fun w => s.times w.looks where
  forward w call := by
    cases call with
    | now => exact htimes w.looks
    | _ => exact Int.le_refl _
  reads w := ⟨Int.le_refl _, htimes w.looks⟩

/-- A controller that has every instance in its cache, as one of the group. -/
def knownBy (asg : Asg) (w : Tape) : Machine Tape :=
  ⟨{ newAutoScalingGroups with registeredAsgs := [asg], instanceToAsg := fun _ => some asg }, w⟩

variable (s : Script) (asg : Asg) (w : Tape)

theorem findForInstance_exec (ref : AwsRef) :
    (findForInstance ref).exec s.service (knownBy asg w) =
      ⟨.ok (some asg), [⟨.hourElapsed, false, w, w⟩], knownBy asg w⟩ := rfl

/-- What a size reads as. -/
def sizeRead : Option Int → Int × Option String
  | some size => (size, none)
  | none => (-1, some "Throttling: Rate exceeded")

theorem targetSize_exec :
    (asg.targetSize).exec s.service (knownBy asg w) =
      ⟨sizeRead (s.sizes w.sizes),
        [⟨.describeAutoScalingGroups asg.name, s.describe w.sizes, w,
          { w with sizes := w.sizes + 1 }⟩], knownBy asg { w with sizes := w.sizes + 1 }⟩ := by
  have hask : (describeAutoScalingGroups asg.name).exec s.service (knownBy asg w) =
      ⟨s.describe w.sizes, [⟨.describeAutoScalingGroups asg.name, s.describe w.sizes, w,
        { w with sizes := w.sizes + 1 }⟩], knownBy asg { w with sizes := w.sizes + 1 }⟩ := rfl
  simp only [Asg.targetSize, getAsgSize, exec_bind, hask]
  cases hsize : s.sizes w.sizes <;> simp [describe, sizeRead, hsize, Outcome.after]

/-- Nodes with instances are all in the group. -/
theorem nodesOfGroup_exec (n : Nat) :
    ((nodesOfGroup asg (List.replicate n readyNode)).exec s.service (knownBy asg w)).val =
        .ok (List.replicate n readyNode) ∧
      ((nodesOfGroup asg (List.replicate n readyNode)).exec s.service (knownBy asg w)).mach =
        knownBy asg w := by
  have hparse : awsRefFromProviderId readyNode.providerID = .ok ⟨"i-0"⟩ := by decide
  induction n with
  | zero => exact ⟨rfl, rfl⟩
  | succ n ih =>
      simp [List.replicate_succ, nodesOfGroup, nodeGroupForNode, hparse, findForInstance_exec,
        ih.1, ih.2]

/-- The ready nodes of the group are as many as the script says. -/
theorem asgReadyNodes_exec :
    ((asgReadyNodes asg).exec s.service (knownBy asg w)).val.1.length = s.ready w.listings ∧
      ((asgReadyNodes asg).exec s.service (knownBy asg w)).mach =
        knownBy asg { w with listings := w.listings + 1 } := by
  have hlist : (listReadyNodes).exec s.service (knownBy asg w) =
      ⟨(List.replicate (s.ready w.listings) readyNode).filter isNodeReadyAndSchedulable,
        [⟨.listNodes .ready, .ok (List.replicate (s.ready w.listings) readyNode), w,
          { w with listings := w.listings + 1 }⟩],
        knownBy asg { w with listings := w.listings + 1 }⟩ := rfl
  have hready : isNodeReadyAndSchedulable readyNode = true := by decide
  have hgroup := nodesOfGroup_exec s asg { w with listings := w.listings + 1 }
    (s.ready w.listings)
  simp [asgReadyNodes, hlist, hready, hgroup.1, hgroup.2]

/-- The wait for ready nodes only moves the listings on. -/
theorem pollReady_mach (goal : Int) (left : Nat) (curr : Int) :
    ∃ n, ((pollReady asg goal left curr).exec s.service (knownBy asg w)).mach =
      knownBy asg { w with listings := n } := by
  induction left generalizing curr w with
  | zero => exact ⟨w.listings, rfl⟩
  | succ left ih =>
      unfold pollReady
      split
      · have hsleep : ((sleep (30 * second)).exec s.service (knownBy asg w)).mach =
            knownBy asg w := rfl
        simp only [exec_bind, Outcome.after_mach, exec_pure, hsleep, asgReadyNodes_exec]
        exact ih { w with listings := w.listings + 1 } _
      · exact ⟨w.listings, rfl⟩

end Script

/-! ## Deleting a node -/

/-- `deleteNode` starts by tainting the node it fetches, unless it is tainted. -/
theorem deleteNode_taints {W : Type} {h : ApiService W} (maxGrace : Int) (node : Node)
    (pods : List Pod) {m : Machine W} {fresh : Node}
    (hget : (h m.world (.getNode node.name)).1 = .ok (some fresh))
    (hclean : hasToBeDeletedTaint fresh = false) :
    ∃ e ∈ ((deleteNode maxGrace node pods).exec h m).log, ∃ n, e.call = .updateNode n := by
  have hfetched : ((getNode node.name).exec h m).val = .ok (some fresh) := hget
  have hmark : ∃ e ∈ ((markToBeDeleted node).exec h m).log, ∃ n, e.call = .updateNode n := by
    simp only [markToBeDeleted, exec_bind, hfetched, addToBeDeletedTaint, hclean,
      Bool.false_eq_true, if_false, Outcome.after_log, Outcome.after_val, exec_pure, Bool.not_true]
    exact ⟨_, List.mem_append_right _ (List.mem_append_right _ (List.mem_append_left _
      List.mem_cons_self)), _, rfl⟩
  obtain ⟨e, he, hcall⟩ := hmark
  refine ⟨e, ?_, hcall⟩
  simp only [deleteNode, exec_bind, Outcome.after_log]
  exact List.mem_append_left _ he

namespace Script

variable (s : Script) (asg : Asg) (w : Tape)

/-- A node without pods is drained if there is any time to wait. -/
theorem drainNode_exec (node : Node) {maxGrace : Int}
    (hgrace : 0 < maxGrace * second + podEvictionHeadroom)
    (htimes : s.times (w.looks + 2) = s.times (w.looks + 1)) :
    ((drainNode node [] maxGrace maxPodEvictionTime evictionRetryTime).exec s.service
        (knownBy asg w)).val = .ok () ∧
      ((drainNode node [] maxGrace maxPodEvictionTime evictionRetryTime).exec s.service
        (knownBy asg w)).mach = knownBy asg { w with looks := w.looks + 3 } := by
  have hnow : ∀ w : Tape, (now).exec s.service (knownBy asg w) =
      ⟨s.times w.looks, [⟨.now, s.times w.looks, w, { w with looks := w.looks + 1 }⟩],
        knownBy asg { w with looks := w.looks + 1 }⟩ := fun _ => rfl
  have hin : s.times (w.looks + 1 + 1) - s.times (w.looks + 1) <
      maxGrace * second + podEvictionHeadroom := by
    rw [htimes, Int.sub_self]
    exact hgrace
  simp [drainNode, hnow, collectConfirmations, awaitGone, hin, sweepPods]

/-- Both ways to delete an instance ask for its termination. -/
theorem terminateInstances_exec (dec : Bool) (ref : AwsRef) :
    (terminateInstances dec [ref]).exec s.service (knownBy asg w) =
      ⟨.ok (), [⟨.hourElapsed, false, w, w⟩, ⟨.hourElapsed, false, w, w⟩,
        ⟨.terminateInstance ref.name dec, .ok (), w, w⟩], knownBy asg w⟩ := by
  have hask : (terminateInstance ref.name dec).exec s.service (knownBy asg w) =
      ⟨.ok (), [⟨.terminateInstance ref.name dec, .ok (), w, w⟩], knownBy asg w⟩ := rfl
  simp [terminateInstances, checkCommonAsg, terminateLoop, findForInstance_exec, hask,
    Outcome.after]

/-- The group terminates the instance of a node if its size can be read. -/
theorem deleteNodeFromCloudProvider_terminates {node : Node} {ref : AwsRef}
    (href : awsRefFromProviderId node.providerID = .ok ref) {size : Int}
    (hsize : s.sizes w.sizes = some size) :
    ∃ e ∈ ((deleteNodeFromCloudProvider node).exec s.service (knownBy asg w)).log,
      ∃ dec, e.call = .terminateInstance ref.name dec := by
  have hread := targetSize_exec s asg w
  rw [Asg.targetSize, hsize] at hread
  have hdeletion : ∃ e ∈ ((asg.deleteNodes [node]).exec s.service (knownBy asg w)).log,
      ∃ dec, e.call = .terminateInstance ref.name dec := by
    let later : Tape := { w with sizes := w.sizes + 1 }
    refine ⟨⟨.terminateInstance ref.name (!decide (size ≤ asg.minSize)), .ok (), later, later⟩,
      ?_, _, rfl⟩
    by_cases hmin : size ≤ asg.minSize
    · simp [Asg.deleteNodes, hread, sizeRead, Asg.collectRefs, Asg.belongs, href,
        findForInstance_exec, hmin, restartInstances, terminateInstances_exec, later]
    · simp [Asg.deleteNodes, hread, sizeRead, Asg.collectRefs, Asg.belongs, href,
        findForInstance_exec, hmin, deleteInstances, terminateInstances_exec, later]
  obtain ⟨e, he, hcall⟩ := hdeletion
  refine ⟨e, ?_, hcall⟩
  simp only [deleteNodeFromCloudProvider, nodeGroupForNode, href, exec_bind, findForInstance_exec,
    Outcome.after_log, List.mem_append]
  exact .inr (.inl he)

/-- The instance of a node that is deleted is terminated. -/
theorem deleteNode_terminates {node : Node} {ref : AwsRef}
    (href : awsRefFromProviderId node.providerID = .ok ref) {maxGrace : Int}
    (hgrace : 0 < maxGrace * second + podEvictionHeadroom)
    (htimes : s.times (w.looks + 3) = s.times (w.looks + 2)) {size : Int}
    (hsize : s.sizes w.sizes = some size) :
    ∃ e ∈ ((deleteNode maxGrace node []).exec s.service (knownBy asg w)).log,
      ∃ dec, e.call = .terminateInstance ref.name dec := by
  have hmark : ((markToBeDeleted node).exec s.service (knownBy asg w)).val = .ok () ∧
      ((markToBeDeleted node).exec s.service (knownBy asg w)).mach =
        knownBy asg { w with looks := w.looks + 1 } := ⟨rfl, rfl⟩
  obtain ⟨hdrained, hmach⟩ := drainNode_exec s asg { w with looks := w.looks + 1 } node hgrace
    htimes
  obtain ⟨e, he, hcall⟩ := deleteNodeFromCloudProvider_terminates s asg
    { w with looks := w.looks + 4 } href hsize
  refine ⟨e, ?_, hcall⟩
  simp only [deleteNode, drainAndDelete, exec_bind, hmark, hdrained, hmach, Outcome.after_log,
    List.mem_append]
  exact .inr (.inl (.inr he))

end Script

end AutoNodeRepair
