import AutoNodeRepair.Model.Simulator
import AutoNodeRepair.Theorems.DrainFilter
import Mathlib.Data.List.Nodup

/-!
# Empty nodes and fresh nodes

Two questions that are answered through the drain filter. A node is empty if the filter,
with everything it can object to switched on, neither objects nor keeps a pod: that is,
if all its pods are exempt. The pods of a fresh node are those that a forced drain would
leave behind, as long as they are not being deleted.
-/

namespace AutoNodeRepair

open Interact

/-! ## The filter without references -/

/-- Without reference checks the filter asks nothing. -/
theorem drainFilter_unchecked (kubeSystemPDBs : List PodDisruptionBudget)
    (deleteAll skipSystem skipLocal : Bool) (minReplica : Int) (t : Time) (pods : List Pod) :
    ∃ result, drainFilter kubeSystemPDBs deleteAll skipSystem skipLocal false minReplica t pods =
      pure result := by
  induction pods with
  | nil => exact ⟨_, rfl⟩
  | cons pod rest ih =>
      obtain ⟨result, hresult⟩ := ih
      obtain ⟨verdict, hverdict, -⟩ := controllerVerdict_unchecked pod minReplica
      unfold drainFilter
      rw [hresult, hverdict]
      by_cases hskip : (isMirrorPod pod || longUnderDeletion pod t) = true
      · exact ⟨result, if_pos hskip⟩
      · rw [if_neg hskip]
        -- the verdict is known, so the bind with it reduces
        show ∃ r, (if verdict.daemonsetPod = true then _ else _) = (pure r : Ctl _)
        by_cases hds : verdict.daemonsetPod = true
        · exact ⟨result, if_pos hds⟩
        · rw [if_neg hds]
          cases (if deleteAll then .ok () else deletionObjection pod verdict.replicated
            kubeSystemPDBs skipSystem skipLocal : Except String Unit) with
          | error err => exact ⟨_, rfl⟩
          | ok _ =>
              cases result with
              | error err => exact ⟨_, rfl⟩
              | ok found => exact ⟨_, rfl⟩

section

variable {W : Type} (h : ApiService W) (m : Machine W)

/-- The fast check is one look at the clock. -/
theorem fastGetPodsToMove_exec (nodePods : List Pod) (skipSystem skipLocal : Bool)
    (pdbs : List PodDisruptionBudget) :
    ((fastGetPodsToMove nodePods skipSystem skipLocal pdbs).exec h m).log =
        [Service.event h m.world .now] ∧
      ((fastGetPodsToMove nodePods skipSystem skipLocal pdbs).exec h m).mach =
        { m with world := (h m.world .now).2 } := by
  obtain ⟨result, hresult⟩ := drainFilter_unchecked
    (pdbs.filter fun pdb => pdb.ns == "kube-system") false skipSystem skipLocal 0
    (h m.world .now).1 nodePods
  simp only [fastGetPodsToMove, exec_bind, now_exec, getPodsThenCheckPdbs,
    getPodsForDeletionOnNodeDrain, hresult, exec_pure]
  cases result with
  | error err => exact ⟨rfl, rfl⟩
  | ok pods =>
      cases hcheck : checkPdbs pods pdbs with
      | error err => simp [hcheck]
      | ok _ => simp [hcheck]

/-- Without budgets, nothing is left to move exactly if all the pods are exempt. -/
theorem fastGetPodsToMove_nil_iff (nodePods : List Pod) (skipSystem skipLocal : Bool) :
    ((fastGetPodsToMove nodePods skipSystem skipLocal []).exec h m).val = .ok [] ↔
      ∀ pod ∈ nodePods, exemptPod (h m.world .now).1 pod = true := by
  constructor
  · intro hok pod hpod
    have hmovable := movablePods_ok (fastGetPodsToMove_ok hok)
    simpa using List.filter_eq_nil_iff.mp hmovable.symm pod hpod
  · intro hexempt
    simp only [fastGetPodsToMove, exec_bind, now_exec, Outcome.after_val, getPodsThenCheckPdbs_ok]
    refine ⟨?_, rfl⟩
    let flags : DrainFlags := ⟨false, skipSystem, skipLocal, false, 0⟩
    let m' : Machine W := { m with world := (h m.world .now).2 }
    have hfilter : nodePods.filter (fun pod => !exemptPod (h m.world .now).1 pod) = [] :=
      List.filter_eq_nil_iff.mpr fun pod hpod => by simp [hexempt pod hpod]
    cases hval : ((getPodsForDeletionOnNodeDrain nodePods [] flags.deleteAll flags.skipSystem
        flags.skipLocal flags.checkReferences flags.minReplica (h m.world .now).1).exec h
          m').val with
    | ok pods => rw [flags.getPodsForDeletion_ok [] _ hval, hfilter]
    | error err =>
        -- only a pod that is neither skipped nor of a DaemonSet can block
        obtain ⟨p, hp, hblocked⟩ := (getPodsForDeletion_error_iff h nodePods (by simp) flags
          (h m.world .now).1 m').mp ⟨err, hval⟩
        have hasked := List.mem_map_of_mem (f := Prod.fst) hp
        rw [flags.fetchControllers_fst, List.mem_filter, Bool.not_eq_true'] at hasked
        have hds : isDaemonSetPod p.1 = true := by
          have hex := hexempt p.1 hasked.1
          rw [exemptPod, ← skippedPod, hasked.2, Bool.false_or] at hex
          exact hex
        rcases hblocked with ⟨hchecked, -⟩ | ⟨hother, -⟩
        · cases hchecked
        · rw [hds] at hother
          cases hother

/-! ## Empty nodes -/

/-- A candidate of which all pods are exempt at that time. -/
def holdsOnlyExempt (pods : List Pod) (node : Node) (t : Time) : Bool :=
  (pods.filter fun pod => pod.nodeName == node.name).all (exemptPod t)

theorem holdsOnlyExempt_eq (pods : List Pod) (node : Node) (t : Time) :
    holdsOnlyExempt pods node t = pods.all fun pod => pod.nodeName != node.name ||
      isMirrorPod pod || isDaemonSetPod pod || longUnderDeletion pod t := by
  rw [holdsOnlyExempt, List.all_filter]
  congr 1
  funext pod
  rw [exemptPod, bne]
  cases pod.nodeName == node.name with
  | false => simp
  | true =>
      simp only [Bool.not_true, Bool.false_or, Bool.or_assoc,
        Bool.or_comm (longUnderDeletion pod t)]

/-- The clock, as it was read in the run. -/
def clockReading : ApiEvent W → Option Time
  | ⟨.now, t, _, _⟩ => some t
  | _ => none

/-- One candidate: the clock is read once, and its answer decides. -/
theorem isEmptyNode_exec {pods : List Pod} {candidates : List Node} {node : Node}
    (hmem : node ∈ candidates) :
    (isEmptyNode (createNodeNameToInfoMap pods candidates) node).exec h m =
      ⟨holdsOnlyExempt pods node (h m.world .now).1, [Service.event h m.world .now],
        { m with world := (h m.world .now).2 }⟩ := by
  obtain ⟨hlog, hmach⟩ := fastGetPodsToMove_exec h m
    (pods.filter fun pod => pod.nodeName == node.name) true true []
  have hempty := fastGetPodsToMove_nil_iff h m
    (pods.filter fun pod => pod.nodeName == node.name) true true
  unfold isEmptyNode
  simp only [createNodeNameToInfoMap_of_mem hmem, exec_bind, hlog, hmach]
  have hall : holdsOnlyExempt pods node (h m.world .now).1 = true ↔
      ((fastGetPodsToMove (pods.filter fun pod => pod.nodeName == node.name) true true []).exec
        h m).val = .ok [] := by
    rw [hempty, holdsOnlyExempt, List.all_eq_true]
  cases hval : ((fastGetPodsToMove (pods.filter fun pod => pod.nodeName == node.name) true true
      []).exec h m).val with
  | error err =>
      have hnot : holdsOnlyExempt pods node (h m.world .now).1 = false := by
        rw [← Bool.not_eq_true, hall, hval]
        simp
      rw [hnot]
      rfl
  | ok found =>
      have hfound : holdsOnlyExempt pods node (h m.world .now).1 = found.isEmpty := by
        rw [Bool.eq_iff_iff, hall, hval]
        simp
      rw [hfound]
      rfl

/-- The loop, from any candidate on: one reading each, in order. -/
theorem findEmptyLoop_exec (pods : List Pod) {candidates : List Node} (nodes : List Node)
    (hnodes : ∀ node ∈ nodes, node ∈ candidates) (m : Machine W) :
    let out := (findEmptyLoop (createNodeNameToInfoMap pods candidates) nodes).exec h m
    (out.log.filterMap clockReading).length = nodes.length ∧
      (∀ t ∈ out.log.filterMap clockReading, ∃ w, t = (h w .now).1) ∧
      out.val = ((nodes.zip (out.log.filterMap clockReading)).filter fun reading =>
        holdsOnlyExempt pods reading.1 reading.2).map Prod.fst := by
  induction nodes generalizing m with
  | nil => exact ⟨rfl, by simp [findEmptyLoop], rfl⟩
  | cons node rest ih =>
      obtain ⟨hlength, hclock, hval⟩ := ih
        (fun other hother => hnodes other (List.mem_cons_of_mem _ hother))
        { m with world := (h m.world .now).2 }
      have hreading : clockReading (Service.event h m.world .now) = some (h m.world .now).1 := rfl
      simp only [findEmptyLoop, exec_bind, isEmptyNode_exec h m (hnodes node List.mem_cons_self),
        exec_pure, Outcome.after_val, Outcome.after_log, List.append_nil, List.singleton_append,
        List.filterMap_cons, hreading, List.length_cons, hlength, List.zip_cons_cons,
        List.filter_cons, true_and]
      refine ⟨List.forall_mem_cons.mpr ⟨⟨m.world, rfl⟩, hclock⟩, ?_⟩
      cases holdsOnlyExempt pods node (h m.world .now).1 with
      | true => simpa using hval
      | false => simpa using hval

/-- Candidates judged at one and the same time. -/
theorem filter_zip_const {α β : Type} (p : α × β → Bool) {b : β} (l : List α) {r : List β}
    (hlength : r.length = l.length) (hr : ∀ b' ∈ r, b' = b) :
    ((l.zip r).filter p).map Prod.fst = l.filter fun a => p (a, b) := by
  induction l generalizing r with
  | nil => rfl
  | cons a l ih =>
      cases r with
      | nil => simp at hlength
      | cons b' r =>
          obtain ⟨rfl, hr⟩ := List.forall_mem_cons.mp hr
          have hrest := ih (Nat.succ.inj hlength) hr
          rw [List.zip_cons_cons, List.filter_cons, List.filter_cons]
          cases p (a, b') with
          | true => simpa using hrest
          | false => simpa using hrest

/-- **Empty nodes.** Each candidate is judged once, by the clock as it stands then; returned
are, in their order, the candidates of which every pod is a mirror pod, a DaemonSet's or has
been under deletion for too long. A clock that stands still gives one answer for all. -/
theorem findEmptyNodesToRemove_exact (candidates : List Node) (pods : List Pod) :
    let out := (findEmptyNodesToRemove candidates pods).exec h m
    let readings := out.log.filterMap clockReading
    (readings.length = candidates.length ∧
      out.val = ((candidates.zip readings).filter fun reading =>
        pods.all fun pod => pod.nodeName != reading.1.name || isMirrorPod pod ||
          isDaemonSetPod pod || longUnderDeletion pod reading.2).map Prod.fst) ∧
    ∀ t, (∀ w, (h w .now).1 = t) →
      out.val = candidates.filter fun node => pods.all fun pod => pod.nodeName != node.name ||
        isMirrorPod pod || isDaemonSetPod pod || longUnderDeletion pod t := by
  obtain ⟨hlength, hclock, hval⟩ := findEmptyLoop_exec h pods candidates
    (fun _ hnode => hnode) m
  simp only [holdsOnlyExempt_eq] at hval
  refine ⟨⟨hlength, hval⟩, fun t hstill => hval.trans ?_⟩
  refine filter_zip_const _ candidates hlength fun reading hreading => ?_
  obtain ⟨w, hw⟩ := hclock reading hreading
  exact hw.trans (hstill w)

example :
    ((findEmptyNodesToRemove [node1, node2] [webPod "web-1", agentPod]).exec
      Cluster.sample.service sampleMachine).val = [node2] := by
  decide

/-! ## Fresh nodes -/

/-- A self link is that of a removed pod exactly if its own pod is removed. -/
theorem selfLink_contains_iff {allPods : List PodSpec}
    (hdistinct : (allPods.map PodSpec.selfLink).Nodup) (removed : PodSpec → Bool)
    {pod : PodSpec} (hpod : pod ∈ allPods) :
    ((allPods.filter removed).map PodSpec.selfLink).contains pod.selfLink = removed pod := by
  rw [Bool.eq_iff_iff, List.contains_iff_mem, List.mem_map]
  constructor
  · rintro ⟨other, hother, hlink⟩
    obtain ⟨hmem, hremoved⟩ := List.mem_filter.mp hother
    exact List.inj_on_of_nodup_map hdistinct hmem hpod hlink ▸ hremoved
  · intro hremoved
    exact ⟨pod, List.mem_filter.mpr ⟨hpod, hremoved⟩, rfl⟩

/-- Mirror pods and DaemonSet pods that are not being deleted. -/
def requiredPods (allPods : List PodSpec) : List PodSpec :=
  allPods.filter fun pod => pod.deletionTimestamp.isNone &&
    (isMirrorPod pod.toPod || isDaemonSetPod pod.toPod)

/-- What is left by the two filters of the source: of a pod that is not being deleted, the
time does not matter. -/
theorem requiredPods_eq {allPods : List PodSpec}
    (hdistinct : (allPods.map PodSpec.selfLink).Nodup) (t : Time) :
    (allPods.filter fun pod => pod.deletionTimestamp.isNone &&
      !((allPods.filter fun pod => pod.toPod ∈
        (allPods.map PodSpec.toPod).filter fun pod => !exemptPod t pod).map
          PodSpec.selfLink).contains pod.selfLink) = requiredPods allPods := by
  refine List.filter_congr fun pod hpod => ?_
  rw [selfLink_contains_iff hdistinct _ hpod]
  cases hdeletion : pod.deletionTimestamp with
  | some t => rfl
  | none =>
      have hlong : longUnderDeletion pod.toPod t = false := by
        simp [longUnderDeletion, hdeletion]
      have hmem : pod.toPod ∈ allPods.map PodSpec.toPod := List.mem_map_of_mem hpod
      simp [List.mem_filter, hmem, exemptPod, hlong]

/-- **The pods of a fresh node.** Once the listing has succeeded nothing fails, and the mirror
pods and DaemonSet pods that are not being deleted come back in their order. -/
theorem getRequiredPodsForNode_exact (nodename : String) (client : PodListing)
    (allPods : List PodSpec) (hlisted : client nodename = .ok allPods)
    (hdistinct : (allPods.map PodSpec.selfLink).Nodup) :
    ((getRequiredPodsForNode nodename client).exec h m).val =
      .ok (allPods.filter fun pod => pod.deletionTimestamp.isNone &&
        (isMirrorPod pod.toPod || isDaemonSetPod pod.toPod)) := by
  simp only [getRequiredPodsForNode, hlisted, getPodsForDeletionOnNodeDrain,
    drainFilter_deleteAll, exec_bind, exec_pure, Outcome.after_val, Except.ok.injEq]
  exact requiredPods_eq hdistinct _

end

/-- A web pod, an agent and an agent under deletion. -/
def podsOfNode : List PodSpec :=
  [{ webPod "web-1" with selfLink := "/pods/web-1" },
    { agentPod with selfLink := "/pods/agent" },
    { agentPod with name := "agent-2", deletionTimestamp := some 0, selfLink := "/pods/agent-2" }]

theorem getRequiredPodsForNode_sample :
    (podsOfNode.map PodSpec.selfLink).Nodup ∧
    ((getRequiredPodsForNode "n1" fun _ => .ok podsOfNode).exec Cluster.sample.service
        sampleMachine).val =
      .ok (podsOfNode.filter fun pod => pod.deletionTimestamp.isNone &&
        (isMirrorPod pod.toPod || isDaemonSetPod pod.toPod)) :=
  ⟨by decide, getRequiredPodsForNode_exact Cluster.sample.service sampleMachine "n1"
    (fun _ => .ok podsOfNode) podsOfNode rfl (by decide)⟩

example :
    (podsOfNode.filter fun pod => pod.deletionTimestamp.isNone &&
      (isMirrorPod pod.toPod || isDaemonSetPod pod.toPod)).map (·.name) = ["agent"] := by
  decide

end AutoNodeRepair
