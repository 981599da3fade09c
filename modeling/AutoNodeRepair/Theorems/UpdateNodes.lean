import AutoNodeRepair.Logic.Cluster
import AutoNodeRepair.Logic.Registry

/-!
# UpdateNodes takes a snapshot, or nothing

`UpdateNodes` computes the ranges, lets them decide which requests are finished
and computes them again from those that are left. What matters for the decision
are the target sizes alone, which the requests do not change, so that the
decision also stands in the registry that comes out.
-/

namespace AutoNodeRepair

open Interact

namespace ClusterStateRegistry

section

variable {W : Type} {h : ApiService W}

/-- What the first part of `UpdateNodes` sees: the readiness of the nodes, and the ranges from
the sizes and the requests there were. -/
structure Observed (csr : ClusterStateRegistry) (nodes : List Node) (groups : List Asg)
    (targets : String → Option Int) (seen : ClusterStateRegistry) : Prop where
  nodes : seen.nodes = nodes
  balanced : AllBalanced seen.perNodeGroupReadiness
  ranges : seen.acceptableRanges =
    acceptableRangesOf groups targets csr.scaleUpRequests csr.scaleDownRequests
  scaleUps : seen.scaleUpRequests = csr.scaleUpRequests
  scaleDowns : seen.scaleDownRequests = csr.scaleDownRequests
  backoff : seen.nodeGroupBackoffInfo = csr.nodeGroupBackoffInfo

theorem updateReadinessStats_spec (asgs : List Asg) (csr : ClusterStateRegistry)
    (currentTime : Time) :
    Triple h (fun m => m.store.registeredAsgs = asgs) (fun _ => True)
      (csr.updateReadinessStats currentTime)
      fun seen m => m.store.registeredAsgs = asgs ∧ AllBalanced seen.perNodeGroupReadiness ∧
        ∃ perNodeGroup total, seen = { csr with
          perNodeGroupReadiness := perNodeGroup
          totalReadiness := total } := by
  have hnone : AllBalanced fun _ => none := by
    intro id r hentry
    simp at hentry
  refine Triple.bind (readinessLoop_spec asgs currentTime csr.nodes _ _ hnone) fun r => ?_
  refine Triple.pure _ fun m hm => ⟨hm.1, ?_, _, _, rfl⟩
  intro id readiness hentry
  obtain ⟨before, hbefore, rfl⟩ := Option.map_eq_some_iff.mp hentry
  obtain ⟨hready, hunready, hdeleted, hregistered⟩ := hm.2 id before hbefore
  exact ⟨hready, hunready, hdeleted, hregistered⟩

theorem getTargetSizes_store (m : Machine W) :
    (getTargetSizes.exec h m).mach.store = m.store :=
  (targetSizesLoop_spec m.store.registeredAsgs (fun _ => none) m).1

theorem getNotRegisteredNodes_store (nodes : List Node) (currentTime : Time) (m : Machine W) :
    ((getNotRegisteredNodes nodes currentTime).exec h m).mach.store = m.store :=
  notRegisteredLoop_store _ _ m.store.registeredAsgs [] m

theorem updateAcceptableRanges_exec (csr : ClusterStateRegistry)
    (targets : String → Option Int) (m : Machine W) :
    (csr.updateAcceptableRanges targets).exec h m =
      ⟨{ csr with
          acceptableRanges := acceptableRangesOf m.store.registeredAsgs targets
            csr.scaleUpRequests csr.scaleDownRequests }, [], m⟩ := rfl

/-- The first part sees the cluster once both listings have come back. -/
theorem observe_ok (csr : ClusterStateRegistry) (nodes : List Node) (currentTime : Time)
    (m : Machine W) {targets : String → Option Int} {missing : List UnregisteredNode}
    (hsizes : (getTargetSizes.exec h m).val = .ok targets)
    (hlisting : ((getNotRegisteredNodes nodes currentTime).exec h
      (getTargetSizes.exec h m).mach).val = .ok missing) :
    let run := (csr.observe nodes currentTime).exec h m
    run.mach.store.registeredAsgs = m.store.registeredAsgs ∧
      ∃ seen, run.val = .ok (targets, missing, seen) ∧
        Observed csr nodes m.store.registeredAsgs targets seen := by
  intro run
  have hgroups : ((getNotRegisteredNodes nodes currentTime).exec h
      (getTargetSizes.exec h m).mach).mach.store.registeredAsgs = m.store.registeredAsgs := by
    rw [getNotRegisteredNodes_store, getTargetSizes_store]
  obtain ⟨⟨hstore, hbalanced, hseen⟩, -⟩ := updateReadinessStats_spec (h := h)
    m.store.registeredAsgs { csr with nodes := nodes } currentTime _ hgroups
  have hrun : run = (csr.observe nodes currentTime).exec h m := rfl
  simp only [observe, exec_bind, hsizes, hlisting, updateAcceptableRanges_exec, hstore,
    exec_pure] at hrun
  refine ⟨by rw [hrun]; exact hstore, _, by rw [hrun]; rfl, ?_⟩
  generalize (({ csr with nodes := nodes }).updateReadinessStats currentTime).exec h
    ((getNotRegisteredNodes nodes currentTime).exec h
      (getTargetSizes.exec h m).mach).mach = out at hstore hbalanced hseen ⊢
  obtain ⟨seen, log, mach⟩ := out
  obtain ⟨perNodeGroup, total, rfl⟩ := hseen
  exact ⟨rfl, hbalanced, rfl, rfl, rfl, rfl⟩

/-- Until then an error of theirs is its own. -/
theorem observe_sizes_error (csr : ClusterStateRegistry) (nodes : List Node) (currentTime : Time)
    (m : Machine W) {err : String} (hsizes : (getTargetSizes.exec h m).val = .error err) :
    ((csr.observe nodes currentTime).exec h m).val = .error err := by
  simp only [observe, exec_bind, hsizes]
  rfl

@[inherit_doc observe_sizes_error]
theorem observe_listing_error (csr : ClusterStateRegistry) (nodes : List Node)
    (currentTime : Time) (m : Machine W) {targets : String → Option Int} {err : String}
    (hsizes : (getTargetSizes.exec h m).val = .ok targets)
    (hlisting : ((getNotRegisteredNodes nodes currentTime).exec h
      (getTargetSizes.exec h m).mach).val = .error err) :
    ((csr.observe nodes currentTime).exec h m).val = .error err := by
  simp only [observe, exec_bind, hsizes, hlisting]
  rfl

/-- The first part fails, or it has seen the cluster. -/
theorem observe_cases (csr : ClusterStateRegistry) (nodes : List Node) (currentTime : Time)
    (m : Machine W) :
    let run := (csr.observe nodes currentTime).exec h m
    (∃ err, run.val = .error err) ∨
      ∃ targets missing seen, run.val = .ok (targets, missing, seen) ∧
        (getTargetSizes.exec h m).val = .ok targets ∧
        ((getNotRegisteredNodes nodes currentTime).exec h
          (getTargetSizes.exec h m).mach).val = .ok missing ∧
        run.mach.store.registeredAsgs = m.store.registeredAsgs ∧
        Observed csr nodes m.store.registeredAsgs targets seen := by
  intro run
  cases hsizes : (getTargetSizes.exec h m).val with
  | error err => exact .inl ⟨err, observe_sizes_error csr nodes currentTime m hsizes⟩
  | ok targets =>
      cases hlisting : ((getNotRegisteredNodes nodes currentTime).exec h
          (getTargetSizes.exec h m).mach).val with
      | error err =>
          exact .inl ⟨err, observe_listing_error csr nodes currentTime m hsizes hlisting⟩
      | ok missing =>
          obtain ⟨hgroups, seen, hseen, hobserved⟩ :=
            observe_ok csr nodes currentTime m hsizes hlisting
          exact .inr ⟨targets, missing, seen, hseen, rfl, rfl, hgroups, hobserved⟩

theorem observe_backoff (csr : ClusterStateRegistry) (nodes : List Node) (currentTime : Time)
    (m : Machine W) {targets : String → Option Int} {missing : List UnregisteredNode}
    {seen : ClusterStateRegistry}
    (hobserve : ((csr.observe nodes currentTime).exec h m).val = .ok (targets, missing, seen)) :
    seen.nodeGroupBackoffInfo = csr.nodeGroupBackoffInfo := by
  rcases csr.observe_cases (h := h) nodes currentTime m with
    ⟨err, herr⟩ | ⟨_, _, seen', hseen', -, -, -, hobserved⟩
  · simp [hobserve] at herr
  · rw [hobserve] at hseen'
    simp only [Except.ok.injEq, Prod.mk.injEq] at hseen'
    rw [hseen'.2.2, hobserved.backoff]

theorem updateNodes_error (csr : ClusterStateRegistry) (nodes : List Node) (currentTime : Time)
    (m : Machine W) {err : String}
    (hobserve : ((csr.observe nodes currentTime).exec h m).val = .error err) :
    ((csr.updateNodes nodes currentTime).exec h m).val = (csr, some err) := by
  simp only [updateNodes, exec_bind, hobserve]
  rfl

/-- The second part, from what the first has seen. -/
structure Settled (seen : ClusterStateRegistry) (currentTime : Time) (groups : List Asg)
    (targets : String → Option Int) (after : ClusterStateRegistry) : Prop where
  scaleUps : after.scaleUpRequests = (seen.updateScaleRequests currentTime).scaleUpRequests
  scaleDowns : after.scaleDownRequests = (seen.updateScaleRequests currentTime).scaleDownRequests
  readiness : after.perNodeGroupReadiness = seen.perNodeGroupReadiness
  ranges : after.acceptableRanges =
    acceptableRangesOf groups targets after.scaleUpRequests after.scaleDownRequests
  backoff : after.nodeGroupBackoffInfo =
    (seen.updateScaleRequests currentTime).nodeGroupBackoffInfo

theorem updateNodes_ok (csr : ClusterStateRegistry) (nodes : List Node) (currentTime : Time)
    (m : Machine W) {targets : String → Option Int} {missing : List UnregisteredNode}
    {seen : ClusterStateRegistry}
    (hobserve : ((csr.observe nodes currentTime).exec h m).val = .ok (targets, missing, seen)) :
    let run := (csr.updateNodes nodes currentTime).exec h m
    run.val.2 = none ∧ Settled seen currentTime
      ((csr.observe nodes currentTime).exec h m).mach.store.registeredAsgs targets run.val.1 := by
  obtain ⟨info, hscale⟩ := seen.updateScaleRequests_eq currentTime
  have hreadiness : (seen.updateScaleRequests currentTime).perNodeGroupReadiness =
      seen.perNodeGroupReadiness := by rw [hscale]
  simp only [updateNodes, exec_bind, hobserve]
  exact ⟨rfl, rfl, rfl, hreadiness, rfl, rfl⟩

/-- An update fails and leaves the registry as it was, or it settles what it has seen. -/
theorem updateNodes_cases (csr : ClusterStateRegistry) (nodes : List Node) (currentTime : Time)
    (m : Machine W) :
    let run := (csr.updateNodes nodes currentTime).exec h m
    (∃ err, run.val = (csr, some err)) ∨
      ∃ targets missing seen,
        ((csr.observe nodes currentTime).exec h m).val = .ok (targets, missing, seen) ∧
        (getTargetSizes.exec h m).val = .ok targets ∧
        ((getNotRegisteredNodes nodes currentTime).exec h
          (getTargetSizes.exec h m).mach).val = .ok missing ∧
        Observed csr nodes m.store.registeredAsgs targets seen ∧
        run.val.2 = none ∧ Settled seen currentTime m.store.registeredAsgs targets run.val.1 := by
  intro run
  rcases csr.observe_cases (h := h) nodes currentTime m with
    ⟨err, herr⟩ | ⟨targets, missing, seen, hseen, hsizes, hlisting, hgroups, hobserved⟩
  · exact .inl ⟨err, updateNodes_error csr nodes currentTime m herr⟩
  · obtain ⟨hnone, hsettled⟩ := updateNodes_ok csr nodes currentTime m hseen
    rw [hgroups] at hsettled
    exact .inr ⟨targets, missing, seen, hseen, hsizes, hlisting, hobserved, hnone, hsettled⟩

/-- The groups with upcoming nodes are the same before and after the requests are pruned. -/
theorem Settled.areThereUpcoming {csr seen after : ClusterStateRegistry} {nodes : List Node}
    {currentTime : Time} {groups : List Asg} {targets : String → Option Int}
    (hseen : Observed csr nodes groups targets seen)
    (hafter : Settled seen currentTime groups targets after) (id : String) :
    after.areThereUpcomingNodesInNodeGroup id = seen.areThereUpcomingNodesInNodeGroup id := by
  have hbalanced : AllBalanced after.perNodeGroupReadiness := hafter.readiness ▸ hseen.balanced
  rw [areThereUpcoming_eq hbalanced, areThereUpcoming_eq hseen.balanced, hafter.ranges,
    hseen.ranges, acceptableRangesOf_target, acceptableRangesOf_target, provisioned, provisioned,
    hafter.readiness]

end

end ClusterStateRegistry

/-- **UpdateNodes is all or nothing.** If the cloud provider fails to report the sizes
or the instances, the registry stays as it was. Otherwise the scale requests left
are those not yet due (and, for scale-ups, of a group that still has upcoming
nodes), and the ranges of the managed groups follow from them and from the sizes
reported. -/
theorem updateNodes_snapshot {W : Type} (h : ApiService W) (csr : ClusterStateRegistry)
    (nodes : List Node) (currentTime : Time) (m : Machine W) :
    let sizes := getTargetSizes.exec h m
    let listing := (getNotRegisteredNodes nodes currentTime).exec h sizes.mach
    let run := (csr.updateNodes nodes currentTime).exec h m
    let after := run.val.1
    (∀ err, sizes.val = .error err → run.val = (csr, some err)) ∧
    ∀ targets, sizes.val = .ok targets →
      (∀ err, listing.val = .error err → run.val = (csr, some err)) ∧
      ∀ missing, listing.val = .ok missing →
        run.val.2 = none ∧
        after.scaleUpRequests = csr.scaleUpRequests.filter (fun sur =>
          after.areThereUpcomingNodesInNodeGroup sur.nodeGroupName &&
            decide (currentTime < sur.expectedAddTime)) ∧
        after.scaleDownRequests = csr.scaleDownRequests.filter (fun sdr =>
          decide (currentTime < sdr.expectedDeleteTime)) ∧
        ((m.store.registeredAsgs.map Asg.id).Nodup → ∀ asg ∈ m.store.registeredAsgs,
          ∃ size, AnsweredSize h sizes.log asg size ∧
            after.acceptableRanges asg.id = some
              { currentTarget := size
                minNodes := size - totalIncrease after.scaleUpRequests asg.id
                maxNodes := size + countScaleDowns after.scaleDownRequests asg.id }) := by
  intro sizes listing run after
  refine ⟨fun err hsizes => ClusterStateRegistry.updateNodes_error csr nodes currentTime m
    (ClusterStateRegistry.observe_sizes_error csr nodes currentTime m hsizes), ?_⟩
  intro targets hsizes
  refine ⟨fun err hlisting => ClusterStateRegistry.updateNodes_error csr nodes currentTime m
    (ClusterStateRegistry.observe_listing_error csr nodes currentTime m hsizes hlisting), ?_⟩
  intro missing hlisting
  obtain ⟨hgroups, seen, hobserve, hseen⟩ :=
    ClusterStateRegistry.observe_ok csr nodes currentTime m hsizes hlisting
  obtain ⟨hnone, hafter⟩ := ClusterStateRegistry.updateNodes_ok csr nodes currentTime m hobserve
  rw [hgroups] at hafter
  obtain ⟨info, hscale⟩ := seen.updateScaleRequests_eq currentTime
  refine ⟨hnone, ?_, ?_, ?_⟩
  · -- the requests were sorted by the earlier ranges, whose targets are the final ones
    have hupcoming : ∀ id, after.areThereUpcomingNodesInNodeGroup id =
        seen.areThereUpcomingNodesInNodeGroup id :=
      ClusterStateRegistry.Settled.areThereUpcoming hseen hafter
    simp only [hupcoming]
    rw [hafter.scaleUps, hscale, hseen.scaleUps]
  · rw [hafter.scaleDowns, hscale, hseen.scaleDowns]
  · intro hnodup asg hasg
    obtain ⟨size, htarget, hanswered⟩ :=
      ((targetSizesLoop_spec m.store.registeredAsgs (fun _ => none) m).2 targets hsizes).2
        hnodup asg hasg
    refine ⟨size, hanswered, ?_⟩
    rw [hafter.ranges, acceptableRangesOf_managed _ _ _ _ (List.mem_map_of_mem hasg), htarget]
    rfl

theorem exists_of_isOk {ε α : Type} {r : Except ε α} (hok : r.isOk = true) : ∃ a, r = .ok a := by
  cases r with
  | error err => simp [Except.isOk, Except.toBool] at hok
  | ok a => exact ⟨a, rfl⟩

/-- Three scale-ups, one of them of an unknown group, and two scale-downs. -/
def sampleRegistry : ClusterStateRegistry where
  scaleUpRequests := [⟨"g", 0, 10 * minute, 1⟩, ⟨"g", 0, minute, 1⟩, ⟨"nowhere", 0, 10 * minute, 1⟩]
  scaleDownRequests := [⟨"n1", "g", 0, 10 * minute⟩, ⟨"n2", "g", 0, minute⟩]

/-- Those of the known group that are due later are left. -/
theorem updateNodes_snapshot_sample :
    ∃ run, ((sampleRegistry.updateNodes [node1] (5 * minute)).exec Cluster.sample.service
        sampleMachine).val = run ∧
      run.2 = none ∧ run.1.scaleUpRequests = [⟨"g", 0, 10 * minute, 1⟩] ∧
      run.1.scaleDownRequests = [⟨"n1", "g", 0, 10 * minute⟩] ∧
      ∃ size, run.1.acceptableRanges groupG.id = some
        { currentTarget := size
          minNodes := size - totalIncrease run.1.scaleUpRequests groupG.id
          maxNodes := size + countScaleDowns run.1.scaleDownRequests groupG.id } := by
  have hanswers : (getTargetSizes.exec Cluster.sample.service sampleMachine).val.isOk = true ∧
      ((getNotRegisteredNodes [node1] (5 * minute)).exec Cluster.sample.service
        (getTargetSizes.exec Cluster.sample.service sampleMachine).mach).val.isOk = true := by
    decide
  obtain ⟨targets, hsizes⟩ := exists_of_isOk hanswers.1
  obtain ⟨missing, hlisting⟩ := exists_of_isOk hanswers.2
  obtain ⟨hnone, hups, hdowns, hranges⟩ := ((updateNodes_snapshot Cluster.sample.service
    sampleRegistry [node1] (5 * minute) sampleMachine).2 targets hsizes).2 missing hlisting
  obtain ⟨size, -, hrange⟩ := hranges (by decide) groupG (by simp [sampleMachine, freshStore])
  refine ⟨_, rfl, hnone, hups.trans ?_, hdowns.trans ?_, size, hrange⟩
  · decide +kernel
  · decide

end AutoNodeRepair
