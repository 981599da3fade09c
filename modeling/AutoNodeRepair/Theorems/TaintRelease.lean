import AutoNodeRepair.Logic.Cluster

/-!
# The taints after a failed deletion

`deleteNode` taints the node, and if it fails after that, its deferred closure
takes the `ToBeDeleted` taint off again. It takes off every taint of that key,
also one the node carried before: what a failed deletion leaves is the earlier
list without them, everything else in its place.
-/

namespace AutoNodeRepair

open Interact

/-- The API server as far as one node is concerned: `stored` are its taints, and
nobody but the caller writes them. -/
structure TaintLaws {W : Type} (h : ApiService W) (name : String) (stored : W → List Taint) :
    Prop where
  fetched : ∀ w fresh, (h w (.getNode name)).1 = .ok (some fresh) →
    fresh.name = name ∧ fresh.taints = stored w
  updated : ∀ w node, node.name = name → (h w (.updateNode node)).1 = .ok () →
    stored (h w (.updateNode node)).2 = node.taints
  frame : ∀ w c, (∀ node : Node, node.name = name → c ≠ .updateNode node) →
    stored (h w c).2 = stored w

/-- In these exchanges every fetch of the node and every update succeeded. -/
structure NodeCallsSucceed {W : Type} (h : ApiService W) (name : String)
    (log : List (ApiEvent W)) : Prop where
  fetch : ∀ w, Service.event h w (.getNode name) ∈ log →
    ∃ fresh, (h w (.getNode name)).1 = .ok (some fresh)
  update : ∀ w node, Service.event h w (.updateNode node) ∈ log →
    (h w (.updateNode node)).1 = .ok ()

/-- The taints that are left when the `ToBeDeleted` ones are released. -/
def releaseTaints (taints : List Taint) : List Taint :=
  taints.filter fun taint => taint.key != toBeDeletedTaint

theorem releaseTaints_of_length {taints : List Taint}
    (hlen : (releaseTaints taints).length = taints.length) : releaseTaints taints = taints :=
  List.filter_eq_self.mpr (List.length_filter_eq_length_iff.mp hlen)

section

variable {W : Type} {h : ApiService W}

theorem NodeCallsSucceed.subset {name : String} {log log' : List (ApiEvent W)}
    (hcalls : NodeCallsSucceed h name log') (hsub : log ⊆ log') : NodeCallsSucceed h name log :=
  ⟨fun w he => hcalls.fetch w (hsub he), fun w node he => hcalls.update w node (hsub he)⟩

variable {node : Node} {stored : W → List Taint} (laws : TaintLaws h node.name stored)
include laws

/-- The node written back with other taints. -/
theorem TaintLaws.retainted {w : W} {fresh : Node} {taints : List Taint}
    (hname : fresh.name = node.name)
    (hok : (h w (.updateNode { fresh with taints := taints })).1 = .ok ()) :
    stored (h w (.updateNode { fresh with taints := taints })).2 = taints :=
  laws.updated w { fresh with taints := taints } hname hok

/-- Nothing but an update of the node changes its taints. -/
theorem TaintLaws.looks (taints : List Taint) :
    Looks h (fun m => stored m.world = taints) (fun _ => True) where
  quiet := by
    intro c hc m hm
    refine ⟨(laws.frame m.world c ?_).trans hm, trivial⟩
    rintro n - rfl
    simp [ApiCall.quiet] at hc
  find := by
    intro ref
    have hclosed : LookupClosed h fun w => stored w = taints := by
      intro w hw c hc
      refine (laws.frame w c ?_).trans hw
      rintro n - rfl
      simp [ApiCall.looksUp] at hc
    exact (findForInstance_closed hclosed ref).weaken_events fun _ _ => trivial

/-- `MarkToBeDeleted` adds nothing but a taint of its own key. -/
theorem markToBeDeleted_taints {m : Machine W}
    (hcalls : NodeCallsSucceed h node.name ((markToBeDeleted node).exec h m).log) :
    ((markToBeDeleted node).exec h m).val = .ok () ∧
      releaseTaints (stored ((markToBeDeleted node).exec h m).mach.world) =
        releaseTaints (stored m.world) := by
  obtain ⟨fresh, hfresh⟩ := hcalls.fetch m.world (by
    simp only [markToBeDeleted, exec_bind, getNode_exec, Outcome.after_log]
    exact List.mem_append_left _ List.mem_cons_self)
  obtain ⟨hname, htaints⟩ := laws.fetched m.world fresh hfresh
  have hfetched : stored (h m.world (.getNode node.name)).2 = stored m.world :=
    laws.frame m.world _ (by simp)
  simp only [markToBeDeleted, addToBeDeletedTaint, exec_bind, getNode_exec, hfresh] at hcalls ⊢
  by_cases hhas : hasToBeDeletedTaint fresh = true
  · -- nothing is written over a taint that is there
    simp [hhas, hfetched]
  · simp only [hhas, Bool.false_eq_true, if_false, exec_bind, now_exec, exec_pure,
      Outcome.after_val, Outcome.after_mach, Outcome.after_log, Bool.not_true, updateNode_exec]
      at hcalls ⊢
    have hok := hcalls.update _ _ (List.mem_append_right _ (List.mem_append_right _
      (List.mem_append_left _ List.mem_cons_self)))
    rw [hok]
    refine ⟨rfl, ?_⟩
    have hstored := laws.retainted hname hok
    simp only [exec_pure]
    rw [hstored]
    simp [releaseTaints, htaints]

/-- `CleanToBeDeleted` releases them all. -/
theorem cleanToBeDeleted_taints {m : Machine W}
    (hcalls : NodeCallsSucceed h node.name ((cleanToBeDeleted node).exec h m).log) :
    stored ((cleanToBeDeleted node).exec h m).mach.world = releaseTaints (stored m.world) := by
  obtain ⟨fresh, hfresh⟩ := hcalls.fetch m.world (by
    simp only [cleanToBeDeleted, exec_bind, getNode_exec, Outcome.after_log]
    exact List.mem_append_left _ List.mem_cons_self)
  obtain ⟨hname, htaints⟩ := laws.fetched m.world fresh hfresh
  have hfetched : stored (h m.world (.getNode node.name)).2 = stored m.world :=
    laws.frame m.world _ (by simp)
  simp only [cleanToBeDeleted, exec_bind, getNode_exec, hfresh] at hcalls ⊢
  split at hcalls
  · rename_i hlen
    rw [if_pos hlen]
    simp only [exec_bind, updateNode_exec, Outcome.after_mach, Outcome.after_log] at hcalls ⊢
    have hok := hcalls.update _ _ (List.mem_append_right _ (List.mem_append_left _
      List.mem_cons_self))
    rw [hok]
    have hstored := laws.retainted hname hok
    rw [← htaints]
    exact hstored
  · -- the source compares the lengths: equal ones mean that no taint was dropped
    rename_i hlen
    rw [if_neg hlen]
    rw [htaints, not_not] at hlen
    exact hfetched.trans (releaseTaints_of_length hlen).symm

/-- Draining and deleting write no node. -/
theorem drainAndDelete_taints (maxGrace : Int) (pods : List Pod) (m : Machine W) :
    stored ((drainAndDelete maxGrace node pods).exec h m).mach.world = stored m.world := by
  have hlooks := laws.looks (stored m.world)
  have hevicts : Evicts h (fun m' => stored m'.world = stored m.world) (fun _ => True)
      (fun _ => True) :=
    ⟨hlooks, fun _ pod _ _ => Keeps.call fun m' hm =>
      ⟨(laws.frame m'.world (.evict pod) (by simp)).trans hm, trivial⟩⟩
  have hclosed : LookupClosed h fun w => stored w = stored m.world := by
    intro w hw c hc
    exact (hlooks.quiet c (ApiCall.quiet_of_looksUp hc) ⟨m.store, w⟩ hw).1
  have hdelete : Keeps h (fun m' => stored m'.world = stored m.world) (fun _ => True)
      (deleteNodeFromCloudProvider node) := by
    refine Keeps.bind (hlooks.nodeGroupForNode node) fun r => ?_
    split
    · exact Keeps.pure _
    · exact Keeps.pure _
    · rename_i asg
      refine Keeps.bind ((Asg.deleteNodes_closed hclosed (fun w hw id dec =>
        (laws.frame w (.terminateInstance id dec) (by simp)).trans hw) asg node).weaken_events
        fun _ _ => trivial) fun r => ?_
      split
      · exact Keeps.pure _
      · refine Keeps.bind (hlooks.ask _ rfl) fun t => ?_
        refine Keeps.bind (hlooks.ask _ rfl) fun t' => ?_
        exact Keeps.bind (hlooks.ask _ rfl) fun _ => Keeps.pure _
  have hall : Keeps h (fun m' => stored m'.world = stored m.world) (fun _ => True)
      (drainAndDelete maxGrace node pods) := by
    refine Keeps.bind (hevicts.drainNode node (fun pod _ =>
      ⟨{ name := pod.nodeName, providerID := "" }, trivial, rfl⟩) _ _ _) fun r => ?_
    split
    · exact Keeps.pure _
    · exact hdelete
  exact (hall m rfl).1

/-- **Release.** If `deleteNode` fails although the API server answered it, the node
has the taints it had before, in their order, without the `ToBeDeleted` ones. -/
theorem deleteNode_failure_taints (maxGrace : Int) (pods : List Pod) (m : Machine W)
    (hcalls : NodeCallsSucceed h node.name ((deleteNode maxGrace node pods).exec h m).log)
    {err : AutorepairError} (herr : ((deleteNode maxGrace node pods).exec h m).val = .error err) :
    stored ((deleteNode maxGrace node pods).exec h m).mach.world =
      (stored m.world).filter fun taint => taint.key != toBeDeletedTaint := by
  simp only [deleteNode, exec_bind, Outcome.after_val, Outcome.after_mach, Outcome.after_log]
    at hcalls herr ⊢
  obtain ⟨hmarked, htaints⟩ := markToBeDeleted_taints laws
    (hcalls.subset (List.subset_append_left _ _))
  rw [hmarked] at hcalls herr ⊢
  simp only [exec_bind, Outcome.after_val, Outcome.after_mach, Outcome.after_log] at hcalls herr ⊢
  have hkept := drainAndDelete_taints laws maxGrace pods ((markToBeDeleted node).exec h m).mach
  cases hval : ((drainAndDelete maxGrace node pods).exec h
      ((markToBeDeleted node).exec h m).mach).val with
  | ok _ => simp [hval] at herr
  | error err' =>
      -- tainted, left alone by the drain, then released by the deferred closure
      rw [hval] at hcalls
      simp only [exec_bind, Outcome.after_mach, Outcome.after_log, exec_pure, List.append_nil]
        at hcalls ⊢
      rw [cleanToBeDeleted_taints laws (hcalls.subset fun e he =>
        List.mem_append_right _ (List.mem_append_right _ he)), hkept, htaints]
      rfl

end

/-- The sample cluster with the taints of the first node next to its state, and no
group to terminate it in. -/
def taintStore : ApiService (ClusterState × List Taint) := fun w call =>
  match call with
  | .getNode name => (.ok (some { node1 with name := name, taints := w.2 }), w)
  | .updateNode node => (.ok (), (w.1, if node.name = node1.name then node.taints else w.2))
  | .describeAutoScalingGroups _ => (.error "no report", w)
  | call => ((Cluster.sample.service w.1 call).1, ((Cluster.sample.service w.1 call).2, w.2))

theorem taintStore_laws : TaintLaws taintStore node1.name Prod.snd where
  fetched := by
    intro w fresh hans
    simp only [taintStore, Except.ok.injEq, Option.some.injEq] at hans
    rw [← hans]
    exact ⟨rfl, rfl⟩
  updated := by
    intro w node hname _
    simp [taintStore, hname]
  frame := by
    intro w c hc
    cases c with
    | updateNode node =>
        have hname : node.name ≠ node1.name := fun hname => hc node hname rfl
        simp [taintStore, hname]
    | _ => rfl

theorem taintStore_calls (log : List (ApiEvent (ClusterState × List Taint))) :
    NodeCallsSucceed taintStore node1.name log :=
  ⟨fun _ _ => ⟨_, rfl⟩, fun _ _ _ => rfl⟩

/-- The controller before it deletes the first node, which carries these taints. -/
def taintedMachine (taints : List Taint) : Machine (ClusterState × List Taint) :=
  ⟨freshStore [groupG], sampleState, taints⟩

/-- A node without the taint gets its list back. -/
theorem deleteNode_failure_taints_sample :
    let taints := [(⟨"dedicated", "db", "NoSchedule"⟩ : Taint)]
    let run := (deleteNode 60 node1 []).exec taintStore (taintedMachine taints)
    run.mach.world.2 = taints.filter fun taint => taint.key != toBeDeletedTaint := by
  have hval : ∃ err, ((deleteNode 60 node1 []).exec taintStore
      (taintedMachine [⟨"dedicated", "db", "NoSchedule"⟩])).val = .error err := ⟨_, rfl⟩
  obtain ⟨err, herr⟩ := hval
  exact deleteNode_failure_taints taintStore_laws 60 [] _ (taintStore_calls _) herr

/-- A node that carried the taint before, say from an earlier scale down, has lost it
after the failed deletion. -/
theorem deleteNode_failure_drops_earlier_taint :
    let taints := [(⟨toBeDeletedTaint, "1500000000", "NoSchedule"⟩ : Taint),
      ⟨"dedicated", "db", "NoSchedule"⟩]
    let run := (deleteNode 60 node1 []).exec taintStore (taintedMachine taints)
    run.val.isOk = false ∧ NodeCallsSucceed taintStore node1.name run.log ∧
      run.mach.world.2 = [⟨"dedicated", "db", "NoSchedule"⟩] ∧ run.mach.world.2 ≠ taints :=
  ⟨by decide, taintStore_calls _, by decide, by decide⟩

end AutoNodeRepair
