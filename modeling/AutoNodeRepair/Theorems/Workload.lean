import AutoNodeRepair.Logic.Covered
import AutoNodeRepair.Logic.Cluster

/-!
# No workload on a terminated machine

`StaticAutorepair.DeleteNodes` lists the scheduled pods once and drains every
node of its batch of what that listing showed. A pod bound to a node between
the listing and the node's taint is overlooked; if there is none
(`snapshotInTime`), an instance is terminated only when its node carries
nothing but exempt pods.
-/

namespace AutoNodeRepair

open Interact

section

variable {W : Type} {h : ApiService W} {bound : W → List Pod} {tainted : W → String → Prop}
  {clock : W → Time}

/-- If this exchange terminates an instance, it is that of a node in `nodeList`
to which no pods are bound but exempt ones. -/
def Unburdened (bound : W → List Pod) (clock : W → Time) (nodeList : List Node)
    (e : ApiEvent W) : Prop :=
  ∀ id dec, e.call = .terminateInstance id dec →
    ∃ node ∈ nodeList, awsRefFromProviderId node.providerID = .ok ⟨id⟩ ∧
      ∀ pod ∈ bound e.before, pod.nodeName = node.name → exemptPod (clock e.before) pod = true

theorem unburdened_of_call {nodeList : List Node} {e : ApiEvent W}
    (hcall : ∀ id dec, e.call ≠ .terminateInstance id dec) : Unburdened bound clock nodeList e :=
  fun id dec hterm => absurd hterm (hcall id dec)

theorem unburdened_of_quiet {nodeList : List Node} {e : ApiEvent W}
    (hquiet : e.call.quiet = true) : Unburdened bound clock nodeList e := by
  refine unburdened_of_call fun id dec hcall => ?_
  rw [hcall] at hquiet
  simp [ApiCall.quiet] at hquiet

/-- Tainting, untainting and evicting terminate nothing. -/
theorem drains_unburdened (nodeList : List Node) :
    Drains h (fun _ => True) (Unburdened bound clock nodeList) (fun _ => True) := by
  have hquiet := Looks.quiet_only h
  refine Looks.drains ⟨fun c hc _ _ => ⟨trivial, unburdened_of_quiet hc⟩,
    fun ref => (hquiet.find ref).weaken_events fun e he => unburdened_of_quiet he⟩ ?_ ?_ ?_
  · exact fun node _ => Keeps.call fun _ _ => ⟨trivial, unburdened_of_call (by simp)⟩
  · exact fun n => Keeps.call fun _ _ => ⟨trivial, unburdened_of_call (by simp)⟩
  · exact fun pod => Keeps.call fun _ _ => ⟨trivial, unburdened_of_call (by simp)⟩

variable {nodeList : List Node} {node : Node}

/-- The machine of a node without workload is terminated without workload. -/
theorem deleteNodeFromCloudProvider_unburdened (laws : SchedulerLaws h bound tainted clock)
    (hnode : node ∈ nodeList) :
    Keeps h (fun m => Covered bound tainted clock node.name (fun _ => False) m.world)
      (Unburdened bound clock nodeList) (deleteNodeFromCloudProvider node) := by
  have hlooks : Looks h (fun m => Covered bound tainted clock node.name (fun _ => False) m.world)
      (Unburdened bound clock nodeList) :=
    (evicts_covered laws (fun _ hcall => unburdened_of_call hcall) node.name _).toLooks
  refine Keeps.bind (hlooks.nodeGroupForNode node) fun r => ?_
  split
  · exact Keeps.pure _
  · exact Keeps.pure _
  · rename_i nodeGroup
    have hdelete : Keeps h (fun m => Covered bound tainted clock node.name (fun _ => False) m.world)
        (Unburdened bound clock nodeList) (nodeGroup.deleteNodes [node]) := by
      refine (Asg.deleteNodes_closed (Covered.lookupClosed laws)
        (fun w hw id dec => hw.frame laws (by simp)) nodeGroup node).weaken_events ?_
      rintro e (⟨w, c, -, hc, rfl⟩ | ⟨w, ref, dec, hcov, hparsed, rfl⟩)
      · exact unburdened_of_quiet (ApiCall.quiet_of_looksUp hc)
      · rintro id dec' hcall
        obtain ⟨rfl, -⟩ := ApiCall.terminateInstance.inj hcall
        exact ⟨node, hnode, hparsed,
          fun pod hpod hname => (hcov.pods pod hpod hname).resolve_right id⟩
    refine Keeps.bind hdelete fun r => ?_
    split
    · exact Keeps.pure _
    · refine Keeps.bind (hlooks.ask .now rfl) fun t => ?_
      refine Keeps.bind (hlooks.ask .now rfl) fun t' => ?_
      refine Keeps.bind (hlooks.ask (.registerScaleDown ..) rfl) fun _ => ?_
      exact Keeps.pure _

/-- `deleteNode`, if the pods bound to the node when it is tainted are exempt or
among those to be removed. -/
theorem deleteNode_unburdened (laws : SchedulerLaws h bound tainted clock) (hnode : node ∈ nodeList)
    {pods : List Pod} (hpods : ∀ pod ∈ pods, pod.nodeName = node.name) (maxGrace : Int)
    (m : Machine W)
    (hcov : ((markToBeDeleted node).exec h m).val = .ok () →
      Covered bound tainted clock node.name (· ∈ pods.map Pod.key)
        ((markToBeDeleted node).exec h m).mach.world) :
    ∀ e ∈ ((deleteNode maxGrace node pods).exec h m).log, Unburdened bound clock nodeList e := by
  have hdrains : Drains h (fun _ => True) (Unburdened bound clock nodeList) (fun _ => True) :=
    drains_unburdened nodeList
  have hdelete : Triple h
      (fun m => Covered bound tainted clock node.name (· ∈ pods.map Pod.key) m.world)
      (Unburdened bound clock nodeList) (drainAndDelete maxGrace node pods) fun _ _ => True := by
    refine Triple.bind (drainNode_covered laws (fun _ hcall => unburdened_of_call hcall) node hpods
      _ _ _) fun r => ?_
    split
    · exact Triple.pure _ fun _ _ => trivial
    · exact (deleteNodeFromCloudProvider_unburdened laws hnode).conseq (fun m hm => hm rfl)
        fun _ _ _ => trivial
  intro e he
  simp only [deleteNode, exec_bind, Outcome.after_log, List.mem_append] at he
  rcases he with he | he
  · exact (hdrains.mark node trivial m trivial).2 e he
  cases hmark : ((markToBeDeleted node).exec h m).val with
  | error err => simp [hmark] at he
  | ok _ =>
      rw [hmark] at he
      simp only [exec_bind, Outcome.after_log, List.mem_append] at he
      rcases he with he | he
      · exact (hdelete _ (hcov hmark)).2 e he
      · split at he
        · simp only [exec_bind, exec_pure, Outcome.after_log, List.append_nil] at he
          exact (hdrains.clean node trivial _ trivial).2 e he
        · simp at he

/-! ## The batch -/

/-- Every pod bound to the node is exempt or was listed. -/
def ListedOrExempt (bound : W → List Pod) (clock : W → Time) (snapshot : List Pod) (node : Node)
    (w : W) : Prop :=
  ∀ pod ∈ bound w, pod.nodeName = node.name →
    exemptPod (clock w) pod = true ∨ ∃ old ∈ snapshot, SamePod old pod

instance (snapshot : List Pod) (node : Node) (w : W) :
    Decidable (ListedOrExempt bound clock snapshot node w) :=
  inferInstanceAs (Decidable (∀ pod ∈ bound w, _))

/-- Follow the loop of `StaticAutorepair.DeleteNodes`: whenever it has set the
taint of a node, nothing was bound to the node that the listing missed. -/
def loopInTime (h : ApiService W) (bound : W → List Pod) (clock : W → Time)
    (a : StaticAutorepair) (pdbs : List PodDisruptionBudget) (snapshot : List Pod)
    (nodeNameToNodeInfo : String → Option (List Pod)) : List Node → Machine W → Bool
  | [], _ => true
  | node :: rest, m =>
      match nodeNameToNodeInfo node.name with
      | none => loopInTime h bound clock a pdbs snapshot nodeNameToNodeInfo rest m
      | some nodePods =>
          let moved := (detailedGetPodsForMove nodePods a.skipNodesWithSystemPods
            a.skipNodesWithLocalStorage a.minReplicaCount pdbs).exec h m
          match moved.val with
          | .error _ =>
              loopInTime h bound clock a pdbs snapshot nodeNameToNodeInfo rest moved.mach
          | .ok podsToRemove =>
              let marked := (markToBeDeleted node).exec h moved.mach
              let deleted :=
                (deleteNode a.maxGracefulTerminationSec node podsToRemove).exec h moved.mach
              (!marked.val.isOk || decide (ListedOrExempt bound clock snapshot node
                  marked.mach.world)) &&
                (!deleted.val.isOk ||
                  loopInTime h bound clock a pdbs snapshot nodeNameToNodeInfo rest deleted.mach)

/-- A node tainted in time is covered by the pods to be removed from it. -/
theorem covered_of_inTime {snapshot pods : List Pod} {t : Time}
    (hpods : pods = (snapshot.filter fun pod => pod.nodeName == node.name).filter
      fun pod => !exemptPod t pod) {w : W} (htime : t ≤ clock w) (htainted : tainted w node.name)
    (hlisted : ListedOrExempt bound clock snapshot node w) :
    Covered bound tainted clock node.name (· ∈ pods.map Pod.key) w := by
  refine ⟨htainted, fun pod hpod hname => ?_⟩
  rcases hlisted pod hpod hname with hexempt | ⟨old, hold, hsame⟩
  · exact .inl hexempt
  · by_cases hexempt : exemptPod t old = true
    · exact .inl (hsame.exempt htime hexempt)
    · refine .inr (hsame.1 ▸ List.mem_map_of_mem ?_)
      have hon : old.nodeName = node.name := hsame.2.1.trans hname
      rw [hpods]
      simp [hold, hon, hexempt]

/-- The loop, by induction on the nodes it has left. -/
theorem deleteLoop_unburdened (laws : SchedulerLaws h bound tainted clock) (a : StaticAutorepair)
    (pdbs : List PodDisruptionBudget) (snapshot : List Pod) :
    ∀ (l : List Node), (∀ node ∈ l, node ∈ nodeList) → ∀ m : Machine W,
    loopInTime h bound clock a pdbs snapshot (createNodeNameToInfoMap snapshot nodeList) l m =
      true →
    ∀ e ∈ ((a.deleteLoop pdbs (createNodeNameToInfoMap snapshot nodeList) l).exec h m).log,
      Unburdened bound clock nodeList e := by
  intro l
  induction l with
  | nil =>
      intro _ m _ e he
      simp [StaticAutorepair.deleteLoop] at he
  | cons node rest ih =>
      intro hl m htime e he
      have hnode : node ∈ nodeList := hl node List.mem_cons_self
      have hrest : ∀ node ∈ rest, node ∈ nodeList := fun x hx => hl x (List.mem_cons_of_mem _ hx)
      simp only [StaticAutorepair.deleteLoop, loopInTime, createNodeNameToInfoMap_of_mem hnode,
        exec_bind, detailedGetPodsForMove_exec, Outcome.after_log, List.mem_append,
        List.mem_singleton] at htime he
      rcases he with rfl | he
      · exact unburdened_of_quiet rfl
      cases hpods : movablePods pdbs (h m.world .now).1
          (snapshot.filter fun pod => pod.nodeName == node.name) with
      | error err =>
          simp only [hpods] at htime he
          exact ih hrest _ htime e he
      | ok pods =>
          simp only [hpods, Bool.and_eq_true, Bool.or_eq_true, exec_bind, Outcome.after_log,
            List.mem_append] at htime he
          have hmovable := movablePods_ok hpods
          rcases he with he | he
          · -- the pods moved are the node's, and they cover it when the taint is set
            refine deleteNode_unburdened laws hnode ?_ _ _ ?_ e he
            · intro pod hpod
              simpa using (List.mem_filter.mp (movablePods_subset hpods hpod)).2
            · intro hmark
              have hclock := Keeps.of_closed (h := h)
                (fun w (hw : (h m.world .now).1 ≤ clock w) c => Int.le_trans hw (laws.clock_le w c))
                (markToBeDeleted node) { m with world := (h m.world .now).2 } (laws.now_le m.world)
              have hlisted := htime.1
              simp only [hmark, Except.isOk, Except.toBool, Bool.not_true, Bool.false_eq_true,
                false_or, decide_eq_true_eq] at hlisted
              exact covered_of_inTime hmovable hclock.1
                ((markToBeDeleted_tainted laws node _ trivial).1 hmark) hlisted
          · cases hdelete : ((deleteNode a.maxGracefulTerminationSec node pods).exec h
                { m with world := (h m.world .now).2 }).val with
            | error err => simp [hdelete] at he
            | ok _ =>
                simp only [hdelete] at htime he
                exact ih hrest _ (by simpa [Except.isOk, Except.toBool] using htime.2) e he

/-- The pods `StaticAutorepair.DeleteNodes` lists cover each node of the batch at
the moment it is tainted. -/
def snapshotInTime (h : ApiService W) (bound : W → List Pod) (clock : W → Time)
    (a : StaticAutorepair) (asg : Asg) (nodeList : List Node) (m : Machine W) : Bool :=
  let sized := asg.targetSize.exec h (asg.targetSize.exec h m).mach
  let pdbs := listPodDisruptionBudgets.exec h sized.mach
  let pods := listScheduledPods.exec h pdbs.mach
  loopInTime h bound clock a pdbs.val.1 pods.val.1
    (createNodeNameToInfoMap pods.val.1 nodeList) nodeList pods.mach

/-- **A machine is terminated only when it carries no workload**, if no pod was
bound to its node between the listing and the taint: at the termination the
node's pods are exempt. -/
theorem deleteNodes_unburdened (laws : SchedulerLaws h bound tainted clock) (a : StaticAutorepair)
    (asg : Asg) (nodeList : List Node) (m : Machine W)
    (htime : snapshotInTime h bound clock a asg nodeList m = true) :
    ∀ e ∈ ((a.deleteNodes asg nodeList).exec h m).log, Unburdened bound clock nodeList e := by
  have hlooks := Looks.quiet_only h
  intro e he
  simp only [StaticAutorepair.deleteNodes, exec_bind, Outcome.after_log, List.mem_append] at he
  rcases he with he | he | he | he | he | he
  · exact unburdened_of_quiet ((hlooks.getAsgSize asg _ trivial).2 e he)
  · exact unburdened_of_quiet ((hlooks.getAsgSize asg _ trivial).2 e he)
  · exact unburdened_of_quiet ((hlooks.ask .listPodDisruptionBudgets rfl _ trivial).2 e he)
  · exact unburdened_of_quiet ((hlooks.ask .listScheduledPods rfl _ trivial).2 e he)
  · exact deleteLoop_unburdened laws a _ _ nodeList (fun _ hnode => hnode) _ htime e he
  · split at he
    · exact unburdened_of_quiet ((hlooks.pollDeleted asg _ 4 _ _ trivial).2 e he)
    · simp at he

end

/-! ## A scheduler -/

/-- The pods bound in the sample cluster: those not evicted and, once the
counter has moved, those of `late`. -/
def boundPods (late : List Pod) (w : ClusterState × Nat) : List Pod :=
  (Cluster.sample.pods.filter fun pod => !w.1.evicted.contains pod.key) ++
    if 0 < w.2 then late else []

/-- The sample cluster with a scheduler that, right after a listing, binds the
pods of `late` unless one of their nodes is tainted. -/
def bindingAfterListing (late : List Pod) : ApiService (ClusterState × Nat) :=
  Cluster.sample.variant fun w call =>
    match call with
    | .listScheduledPods =>
        some ((boundPods late w, none),
          (w.1, if late.any fun pod => w.1.tainted.contains pod.nodeName then w.2 else w.2 + 1))
    | .getPod ns name =>
        some (match (boundPods late w).find? fun pod => pod.key == (ns, name) with
          | some pod => .ok pod
          | none => .error ⟨"not found", true⟩, w)
    | _ => none

theorem bindingAfterListing_frame (late : List Pod) (w : ClusterState × Nat) (c : ApiCall)
    (hc : ∀ node, c ≠ .updateNode node) :
    (bindingAfterListing late w c).2.1.tainted = w.1.tainted ∧
      ∀ pod ∈ boundPods late (bindingAfterListing late w c).2,
        pod.nodeName ∈ w.1.tainted → pod ∈ boundPods late w := by
  cases c with
  | updateNode node => exact absurd rfl (hc node)
  | listNodes store => cases store <;> exact ⟨rfl, fun _ hpod _ => hpod⟩
  | listScheduledPods =>
      refine ⟨rfl, fun pod hpod htainted => ?_⟩
      rcases List.mem_append.mp hpod with hpod | hpod
      · exact List.mem_append_left _ hpod
      · refine List.mem_append_right _ ?_
        -- a late pod on a tainted node was bound before
        have hlate : pod ∈ late := by
          split at hpod
          · exact hpod
          · simp at hpod
        have hstays : (late.any fun pod => w.1.tainted.contains pod.nodeName) = true :=
          List.any_eq_true.mpr ⟨pod, hlate, List.contains_iff_mem.mpr htainted⟩
        have hcount : (bindingAfterListing late w .listScheduledPods).2.2 = w.2 := if_pos hstays
        rwa [hcount] at hpod
  | evict evicted =>
      refine ⟨rfl, fun pod hpod _ => ?_⟩
      rcases List.mem_append.mp hpod with hpod | hpod
      · refine List.mem_append_left _ ?_
        obtain ⟨hmem, hkey⟩ := List.mem_filter.mp hpod
        refine List.mem_filter.mpr ⟨hmem, ?_⟩
        have hout : (!(w.1.evicted ++ [evicted.key]).contains pod.key) = true := hkey
        simp only [List.contains_append, Bool.not_or, Bool.and_eq_true] at hout
        exact hout.1
      · exact List.mem_append_right _ hpod
  | _ => exact ⟨rfl, fun _ hpod _ => hpod⟩

/-- It keeps the scheduler's side of the bargain. -/
theorem bindingAfterListing_laws (late : List Pod) :
    SchedulerLaws (bindingAfterListing late) (boundPods late) (fun w name => name ∈ w.1.tainted)
      (fun _ => 0) where
  fetched := by
    intro w name fresh hfresh
    obtain ⟨node, hfind, rfl⟩ := Option.map_eq_some_iff.mp (Except.ok.inj hfresh)
    have hname : node.name = name := by simpa using List.find?_some hfind
    have hclean : ∀ node ∈ Cluster.sample.nodes, hasToBeDeletedTaint node = false := by
      decide
    by_cases htainted : w.1.tainted.contains name = true
    · rw [if_pos htainted]
      exact ⟨hname, fun _ => List.contains_iff_mem.mp htainted⟩
    · rw [if_neg htainted, hclean node (List.mem_of_find?_eq_some hfind)]
      exact ⟨hname, by simp⟩
  updated := by
    intro w node _ htaint
    show node.name ∈ (if hasToBeDeletedTaint node then w.1.tainted ++ [node.name]
      else w.1.tainted.filter fun name => name != node.name)
    simp [htaint]
  stays := fun w c hc name htainted => (bindingAfterListing_frame late w c hc).1 ▸ htainted
  no_binding := fun w c hc pod hpod htainted =>
    ⟨pod, (bindingAfterListing_frame late w c hc).2 pod hpod htainted, .refl pod⟩
  gone := by
    intro w ns name err herr _ pod hpod _ hkey
    have hfound : ∃ found, (boundPods late w).find? (fun pod => pod.key == (ns, name)) =
        some found := Option.isSome_iff_exists.mp
      (List.find?_isSome.mpr ⟨pod, hpod, by simpa using hkey⟩)
    obtain ⟨found, hfind⟩ := hfound
    simp only [bindingAfterListing, Cluster.variant, Option.getD_some, hfind] at herr
    exact nomatch herr
  clock_le := fun _ _ => Int.le_refl 0
  now_le := fun _ => Int.le_refl 0

/-- With nothing to bind late. -/
theorem deleteNodes_unburdened_sample :
    snapshotInTime (bindingAfterListing []) (boundPods []) (fun _ => 0) {} groupG [node1, node2]
        ⟨freshStore [groupG, groupK], sampleState, 0⟩ = true ∧
      ∀ e ∈ ((({} : StaticAutorepair).deleteNodes groupG [node1, node2]).exec
          (bindingAfterListing []) ⟨freshStore [groupG, groupK], sampleState, 0⟩).log,
        Unburdened (boundPods []) (fun _ => 0) [node1, node2] e := by
  have htime : snapshotInTime (bindingAfterListing []) (boundPods []) (fun _ => 0) {} groupG
      [node1, node2] ⟨freshStore [groupG, groupK], sampleState, 0⟩ = true := by
    decide +kernel
  exact ⟨htime, deleteNodes_unburdened (bindingAfterListing_laws []) {} groupG [node1, node2]
    ⟨freshStore [groupG, groupK], sampleState, 0⟩ htime⟩

/-- A pod bound to `n1` right after the listing. -/
def latePod : Pod := { ns := "default", name := "p9", nodeName := "n1" }

/-- It is still there, and not exempt, when the machine of `n1` is terminated. -/
theorem deleteNodes_terminates_workload :
    SchedulerLaws (bindingAfterListing [latePod]) (boundPods [latePod])
        (fun w name => name ∈ w.1.tainted) (fun _ => 0) ∧
      exemptPod 0 latePod = false ∧
      ∃ e ∈ ((({} : StaticAutorepair).deleteNodes groupG [node1]).exec
          (bindingAfterListing [latePod]) ⟨freshStore [groupG, groupK], sampleState, 0⟩).log,
        e.call = .terminateInstance "i-1" true ∧ latePod ∈ boundPods [latePod] e.before := by
  refine ⟨bindingAfterListing_laws [latePod], by decide, ?_⟩
  have hany : ((({} : StaticAutorepair).deleteNodes groupG [node1]).exec
      (bindingAfterListing [latePod]) ⟨freshStore [groupG, groupK], sampleState, 0⟩).log.any
      (fun e => e.call.termination == some ("i-1", true) &&
        decide (latePod ∈ boundPods [latePod] e.before)) = true := by
    decide +kernel
  obtain ⟨e, he, hterm⟩ := List.any_eq_true.mp hany
  simp only [Bool.and_eq_true, beq_iff_eq, decide_eq_true_eq] at hterm
  exact ⟨e, he, ApiCall.termination_eq_some hterm.1, hterm.2⟩

end AutoNodeRepair
