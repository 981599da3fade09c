import AutoNodeRepair.Theorems.FailedScaleUps
import AutoNodeRepair.Theorems.ReadinessStats

/-!
# What UpdateNodes says about the size of a group

Two verdicts compare the nodes of a group with its target size, and both have a gap.
A scale-up counts as finished when enough nodes are registered and started, and
nodes that are being deleted are among them. A wrong size is looked for only in the
groups that have a readiness record, that is, at least one node.
-/

namespace AutoNodeRepair

open Interact Retry

namespace ClusterStateRegistry

section

variable {W : Type} {h : ApiService W}

/-! ## Scale-ups that count as finished -/

/-- The readiness of a group, zero if there is no record. -/
def readiness (csr : ClusterStateRegistry) (id : String) : Readiness :=
  (csr.perNodeGroupReadiness id).getD {}

/-- A group has upcoming nodes if its target is above the nodes that have started, the
deleted ones included. -/
theorem Observed.areThereUpcoming_iff {csr seen : ClusterStateRegistry} {nodes : List Node}
    {groups : List Asg} {targets : String → Option Int}
    (hseen : Observed csr nodes groups targets seen) {id : String}
    (hid : id ∈ groups.map Asg.id) :
    seen.areThereUpcomingNodesInNodeGroup id = true ↔
      (seen.readiness id).ready + (seen.readiness id).unready + (seen.readiness id).deleted <
        (targets id).getD 0 := by
  have hstarted : seen.provisioned id =
      (seen.readiness id).ready + (seen.readiness id).unready + (seen.readiness id).deleted := by
    unfold provisioned readiness
    cases hentry : seen.perNodeGroupReadiness id with
    | none => rfl
    | some r =>
        have hsum := (hseen.balanced id r hentry).registered
        dsimp only [Option.getD_some]
        omega
  rw [areThereUpcoming_eq hseen.balanced, hstarted, hseen.ranges, acceptableRangesOf_target,
    if_pos hid, decide_eq_true_iff]

/-- The request of a managed group is gone, although it is due later. -/
def DroppedEarly (csr after : ClusterStateRegistry) (groups : List Asg) (currentTime : Time)
    (sur : ScaleUpRequest) : Prop :=
  sur ∈ csr.scaleUpRequests ∧ sur ∉ after.scaleUpRequests ∧
    sur.nodeGroupName ∈ groups.map Asg.id ∧ currentTime < sur.expectedAddTime

theorem Settled.droppedEarly_iff {csr seen after : ClusterStateRegistry} {nodes : List Node}
    {currentTime : Time} {groups : List Asg} {targets : String → Option Int}
    (hseen : Observed csr nodes groups targets seen)
    (hafter : Settled seen currentTime groups targets after) (sur : ScaleUpRequest) :
    DroppedEarly csr after groups currentTime sur ↔
      (sur ∈ csr.scaleUpRequests ∧ sur.nodeGroupName ∈ groups.map Asg.id ∧
        currentTime < sur.expectedAddTime) ∧
      seen.areThereUpcomingNodesInNodeGroup sur.nodeGroupName = false := by
  obtain ⟨info, hscale⟩ := seen.updateScaleRequests_eq currentTime
  have hleft : after.scaleUpRequests = csr.scaleUpRequests.filter fun sur =>
      seen.areThereUpcomingNodesInNodeGroup sur.nodeGroupName &&
        decide (currentTime < sur.expectedAddTime) := by
    rw [hafter.scaleUps, hscale, hseen.scaleUps]
  rw [DroppedEarly, hleft, List.mem_filter]
  constructor
  · rintro ⟨hsur, hgone, hid, hlater⟩
    refine ⟨⟨hsur, hid, hlater⟩, ?_⟩
    simpa [hsur, hlater] using hgone
  · rintro ⟨⟨hsur, hid, hlater⟩, hup⟩
    exact ⟨hsur, by simp [hup], hid, hlater⟩

/-- The backoff goes with it. -/
theorem Settled.backoff_of_droppedEarly {csr seen after : ClusterStateRegistry}
    {nodes : List Node} {currentTime : Time} {groups : List Asg} {targets : String → Option Int}
    (hseen : Observed csr nodes groups targets seen)
    (hafter : Settled seen currentTime groups targets after) {sur : ScaleUpRequest}
    (hdropped : DroppedEarly csr after groups currentTime sur) :
    after.nodeGroupBackoffInfo sur.nodeGroupName = none := by
  obtain ⟨⟨hsur, -, -⟩, hup⟩ := (hafter.droppedEarly_iff hseen sur).mp hdropped
  have hunfailed : ¬seen.ScaleUpFailed currentTime sur.nodeGroupName := by
    rintro ⟨hupcoming, -⟩
    simp [hup] at hupcoming
  have hfinished : seen.scaleUpFinished sur.nodeGroupName = true :=
    (seen.scaleUpFinished_iff _).mpr ⟨⟨sur, hseen.scaleUps ▸ hsur, rfl⟩, hup⟩
  rw [hafter.backoff, ← record_eq_none, record_of_not_failed _ _ _ hunfailed, if_pos hfinished]

end

end ClusterStateRegistry

/-- **Scale-ups that count as finished.** An update that fails drops no request. One that
succeeds takes the backoff of a group with a request it drops early. Each time it does so
the group has as many nodes that have started and are not being deleted as its target
says, if and only if no target of a group with a request lies above these nodes but
not above them and the deleted ones. -/
theorem updateNodes_finishes_started_iff {W : Type} (h : ApiService W)
    (csr : ClusterStateRegistry) (nodes : List Node) (currentTime : Time) (m : Machine W) :
    let run := (csr.updateNodes nodes currentTime).exec h m
    let after := run.val.1
    let groups := m.store.registeredAsgs
    (∀ err, run.val.2 = some err → ∀ sur, ¬csr.DroppedEarly after groups currentTime sur) ∧
    ∀ targets, (getTargetSizes.exec h m).val = .ok targets → run.val.2 = none →
      (∀ sur, csr.DroppedEarly after groups currentTime sur →
        after.nodeGroupBackoffInfo sur.nodeGroupName = none) ∧
      ((∀ sur, csr.DroppedEarly after groups currentTime sur →
          (targets sur.nodeGroupName).getD 0 ≤
            (after.readiness sur.nodeGroupName).ready +
              (after.readiness sur.nodeGroupName).unready) ↔
        ∀ sur ∈ csr.scaleUpRequests, sur.nodeGroupName ∈ groups.map Asg.id →
          currentTime < sur.expectedAddTime →
          let started := (after.readiness sur.nodeGroupName).ready +
            (after.readiness sur.nodeGroupName).unready
          ¬(started < (targets sur.nodeGroupName).getD 0 ∧
            (targets sur.nodeGroupName).getD 0 ≤
              started + (after.readiness sur.nodeGroupName).deleted)) := by
  intro run after groups
  rcases csr.updateNodes_cases (h := h) nodes currentTime m with
    ⟨err, herr⟩ | ⟨targets, missing, seen, -, hsizes, -, hseen, hnone, hsettled⟩
  · have hafter : after = csr := congrArg Prod.fst herr
    have hfails : run.val.2 = some err := congrArg Prod.snd herr
    refine ⟨?_, fun _ _ hnone => by simp [hfails] at hnone⟩
    rintro _ _ sur ⟨hsur, hgone, -, -⟩
    exact hgone (hafter ▸ hsur)
  refine ⟨fun err herr => absurd (hnone.symm.trans herr) (by simp), ?_⟩
  intro targets' hsizes' _
  obtain rfl : targets = targets' := by simpa [hsizes] using hsizes'
  refine ⟨fun sur hdropped => hsettled.backoff_of_droppedEarly hseen hdropped, ?_⟩
  have hreadiness : ∀ id, after.readiness id = seen.readiness id := by
    intro id
    rw [ClusterStateRegistry.readiness, hsettled.readiness, ClusterStateRegistry.readiness]
  simp only [hreadiness]
  constructor
  · rintro hall sur hsur hid hlater ⟨habove, hbelow⟩
    have hdropped : csr.DroppedEarly after groups currentTime sur := by
      refine (hsettled.droppedEarly_iff hseen sur).mpr ⟨⟨hsur, hid, hlater⟩, ?_⟩
      rw [← Bool.not_eq_true, hseen.areThereUpcoming_iff hid]
      exact Int.not_lt.mpr hbelow
    exact absurd (hall sur hdropped) (Int.not_le.mpr habove)
  · intro hgap sur hdropped
    obtain ⟨⟨hsur, hid, hlater⟩, hup⟩ := (hsettled.droppedEarly_iff hseen sur).mp hdropped
    rw [← Bool.not_eq_true, hseen.areThereUpcoming_iff hid] at hup
    by_contra habove
    exact hgap sur hsur hid hlater ⟨Int.not_le.mp habove, Int.not_lt.mp hup⟩

/-- A scale-up of `g` goes on, after an earlier one has failed. -/
def scalingRegistry : ClusterStateRegistry where
  scaleUpRequests := [⟨"g", 0, 10 * minute, 1⟩]
  nodeGroupBackoffInfo := fun id =>
    if id = "g" then some ⟨5 * minute, 5 * minute, 0⟩ else none

/-- What an update at six minutes makes of it. -/
def scalingRun (nodes : List Node) : ClusterStateRegistry × Option String :=
  ((scalingRegistry.updateNodes nodes (6 * minute)).exec Cluster.sample.service
    sampleMachine).val

/-- The target of `g` is two. -/
theorem sample_targets : ∃ targets,
    (getTargetSizes.exec Cluster.sample.service sampleMachine).val = .ok targets ∧
      targets "g" = some 2 := by
  have hsizes : (getTargetSizes.exec Cluster.sample.service sampleMachine).val.toOption.map
      (· "g") = some (some 2) := by decide
  cases hval : (getTargetSizes.exec Cluster.sample.service sampleMachine).val with
  | error err => simp [hval, Except.toOption] at hsizes
  | ok targets => exact ⟨targets, rfl, by simpa [hval, Except.toOption] using hsizes⟩

/-- If its scale-up is gone, it was dropped early. -/
theorem scalingRun_droppedEarly {nodes : List Node}
    (hgone : (scalingRun nodes).1.scaleUpRequests = []) :
    scalingRegistry.DroppedEarly (scalingRun nodes).1 sampleMachine.store.registeredAsgs
      (6 * minute) ⟨"g", 0, 10 * minute, 1⟩ :=
  ⟨by decide, by simp [hgone], by decide, by decide⟩

/-- Both nodes have started: the scale-up is finished, and rightly so. -/
theorem updateNodes_finishes_started_sample :
    ∃ run, ((scalingRegistry.updateNodes [node1, node2] (6 * minute)).exec
        Cluster.sample.service sampleMachine).val = run ∧
      run.2 = none ∧ run.1.nodeGroupBackoffInfo "g" = none ∧
      (2 : Int) ≤ (run.1.readiness "g").ready + (run.1.readiness "g").unready := by
  obtain ⟨targets, hsizes, htarget⟩ := sample_targets
  have hrun : (scalingRun [node1, node2]).2 = none ∧
      (scalingRun [node1, node2]).1.scaleUpRequests = [] ∧
      ((scalingRun [node1, node2]).1.readiness "g").deleted = 0 := by decide +kernel
  obtain ⟨hnone, hgone, hdeleted⟩ := hrun
  have hdropped := scalingRun_droppedEarly hgone
  unfold scalingRun at hnone hdeleted hdropped
  obtain ⟨hbackoff, hiff⟩ := (updateNodes_finishes_started_iff Cluster.sample.service
    scalingRegistry [node1, node2] (6 * minute) sampleMachine).2 targets hsizes hnone
  generalize ((scalingRegistry.updateNodes [node1, node2] (6 * minute)).exec
    Cluster.sample.service sampleMachine).val = run at hnone hdeleted hdropped hbackoff hiff ⊢
  refine ⟨run, rfl, hnone, hbackoff _ hdropped, ?_⟩
  have hstarted := hiff.mpr (fun sur hsur _ _ => ?_) _ hdropped
  · simpa only [htarget, Option.getD_some] using hstarted
  · -- no node is being deleted
    obtain rfl : sur = ⟨"g", 0, 10 * minute, 1⟩ := by simpa [scalingRegistry] using hsur
    rintro started ⟨habove, hbelow⟩
    rw [hdeleted, Int.add_zero] at hbelow
    exact absurd hbelow (Int.not_le.mpr habove)

/-- The second node, tainted by the autoscaler. -/
def retiringNode : Node := { node2 with taints := [⟨toBeDeletedTaint, "0", "NoSchedule"⟩] }

/-- The other node is being deleted and not part of the target of two: the scale-up counts
as finished with one node, and the backoff is reset. -/
theorem updateNodes_finishes_early :
    ∃ run, ((scalingRegistry.updateNodes [node1, retiringNode] (6 * minute)).exec
        Cluster.sample.service sampleMachine).val = run ∧
      run.2 = none ∧
      scalingRegistry.DroppedEarly run.1 sampleMachine.store.registeredAsgs (6 * minute)
        ⟨"g", 0, 10 * minute, 1⟩ ∧
      (∃ targets, (getTargetSizes.exec Cluster.sample.service sampleMachine).val = .ok targets ∧
        targets "g" = some 2) ∧
      run.1.readiness "g" =
        { unready := 1, deleted := 1, registered := 2, time := 6 * minute } ∧
      run.1.nodeGroupBackoffInfo "g" = none := by
  have hrun : (scalingRun [node1, retiringNode]).2 = none ∧
      (scalingRun [node1, retiringNode]).1.scaleUpRequests = [] ∧
      (scalingRun [node1, retiringNode]).1.readiness "g" =
        { unready := 1, deleted := 1, registered := 2, time := 6 * minute } ∧
      (scalingRun [node1, retiringNode]).1.nodeGroupBackoffInfo "g" = none := by decide +kernel
  obtain ⟨hnone, hgone, hreadiness, hbackoff⟩ := hrun
  have hdropped := scalingRun_droppedEarly hgone
  unfold scalingRun at hnone hreadiness hbackoff hdropped
  exact ⟨_, rfl, hnone, hdropped, sample_targets, hreadiness, hbackoff⟩

/-! ## Groups of a wrong size -/

namespace ClusterStateRegistry

section

variable {W : Type} {h : ApiService W}

/-- The group has a range and a readiness record, and the one does not fit the other. -/
def Mismatched (csr : ClusterStateRegistry) (id : String) : Prop :=
  ∃ range readiness, csr.acceptableRanges id = some range ∧
    csr.perNodeGroupReadiness id = some readiness ∧
    (readiness.registered > range.maxNodes ∨ readiness.registered < range.minNodes)

theorem incorrectSize_isSome (csr : ClusterStateRegistry) (currentTime : Time) (id : String) :
    (csr.incorrectSize currentTime id).isSome = true ↔ csr.Mismatched id := by
  unfold incorrectSize Mismatched
  cases csr.acceptableRanges id with
  | none => simp
  | some range =>
      cases csr.perNodeGroupReadiness id with
      | none => simp
      | some readiness =>
          by_cases houtside : readiness.registered > range.maxNodes ∨
              readiness.registered < range.minNodes
          · refine iff_of_true ?_ ⟨range, readiness, rfl, rfl, houtside⟩
            simp only [houtside, if_true]
            split
            · split <;> rfl
            · rfl
          · simp [houtside]

/-- The loop of `updateIncorrectNodeGroupSizes`, read at a group. -/
theorem foldl_report (report : String → Option IncorrectNodeGroupSize) (id : String)
    (groups : List Asg) (result : String → Option IncorrectNodeGroupSize) :
    groups.foldl (fun result nodeGroup =>
        match report nodeGroup.id with
        | some incorrect => Function.update result nodeGroup.id (some incorrect)
        | none => result) result id =
      if id ∈ groups.map Asg.id then (report id).or (result id) else result id := by
  induction groups generalizing result with
  | nil => simp
  | cons group rest ih =>
      rw [List.foldl_cons, ih]
      by_cases hid : id = group.id
      · subst hid
        cases report group.id <;> simp
      · cases report group.id <;> simp [hid]

theorem updateIncorrectNodeGroupSizes_apply (csr : ClusterStateRegistry) (currentTime : Time)
    (m : Machine W) {id : String} (hid : id ∈ m.store.registeredAsgs.map Asg.id) :
    ((csr.updateIncorrectNodeGroupSizes currentTime).exec h m).val.incorrectNodeGroupSizes id =
      csr.incorrectSize currentTime id := by
  refine (foldl_report (csr.incorrectSize currentTime) id m.store.registeredAsgs
    fun _ => none).trans ?_
  rw [if_pos hid, Option.or_none]

/-- A managed group is reported if it has a record that does not fit its range. -/
theorem updateNodes_reported (csr : ClusterStateRegistry) (nodes : List Node)
    (currentTime : Time) (m : Machine W) {targets : String → Option Int}
    {missing : List UnregisteredNode} {seen : ClusterStateRegistry}
    (hobserve : ((csr.observe nodes currentTime).exec h m).val = .ok (targets, missing, seen))
    {id : String} (hid : id ∈ m.store.registeredAsgs.map Asg.id) :
    let after := ((csr.updateNodes nodes currentTime).exec h m).val.1
    (after.incorrectNodeGroupSizes id).isSome = true ↔ after.Mismatched id := by
  intro after
  have hid' : id ∈
      ((csr.observe nodes currentTime).exec h m).mach.store.registeredAsgs.map Asg.id := by
    rcases csr.observe_cases (h := h) nodes currentTime m with
      ⟨err, herr⟩ | ⟨_, _, _, -, -, -, hgroups, -⟩
    · simp [hobserve] at herr
    · rwa [hgroups]
  -- the ranges and the readiness are no longer changed when the sizes are compared
  obtain ⟨last, hlast, hranges, hreadiness⟩ : ∃ last : ClusterStateRegistry,
      after.incorrectNodeGroupSizes id = last.incorrectSize currentTime id ∧
        after.acceptableRanges = last.acceptableRanges ∧
        after.perNodeGroupReadiness = last.perNodeGroupReadiness := by
    have hafter : after = ((csr.updateNodes nodes currentTime).exec h m).val.1 := rfl
    simp only [updateNodes, exec_bind, hobserve] at hafter
    rw [hafter]
    exact ⟨_, updateIncorrectNodeGroupSizes_apply (h := h) _ currentTime _ hid', rfl, rfl⟩
  rw [hlast, incorrectSize_isSome, Mismatched, Mismatched, hranges, hreadiness]

/-- The record of a group says how many nodes are assigned to it, and is there if there are
any. -/
theorem observe_readiness (csr : ClusterStateRegistry) (nodes : List Node) (currentTime : Time)
    (m : Machine W) {targets : String → Option Int} {missing : List UnregisteredNode}
    {seen : ClusterStateRegistry}
    (hobserve : ((csr.observe nodes currentTime).exec h m).val = .ok (targets, missing, seen))
    (hsizes : (getTargetSizes.exec h m).val = .ok targets)
    (hlisting : ((getNotRegisteredNodes nodes currentTime).exec h
      (getTargetSizes.exec h m).mach).val = .ok missing) (id : String) :
    let assigned := nodesIn h nodes ((getNotRegisteredNodes nodes currentTime).exec h
      (getTargetSizes.exec h m).mach).mach (some id)
    (seen.perNodeGroupReadiness id = none ↔ assigned = []) ∧
      (seen.readiness id).registered = assigned.length := by
  intro assigned
  have hseen : seen.perNodeGroupReadiness id = ((({ csr with nodes := nodes } :
      ClusterStateRegistry).updateReadinessStats currentTime).exec h
      ((getNotRegisteredNodes nodes currentTime).exec h
        (getTargetSizes.exec h m).mach).mach).val.perNodeGroupReadiness id := by
    simp only [observe, exec_bind, hsizes, hlisting, updateAcceptableRanges_exec, exec_pure,
      Outcome.after_val, Except.ok.injEq, Prod.mk.injEq, true_and] at hobserve
    rw [← hobserve]
  have hcount := Counter.registered.read_group (h := h) { csr with nodes := nodes } currentTime
    ((getNotRegisteredNodes nodes currentTime).exec h (getTargetSizes.exec h m).mach).mach id
  have hall : assigned.countP (Counter.registered.counts currentTime) = assigned.length :=
    List.countP_eq_length.mpr fun node _ => by simp [Counter.counts]
  rw [← hseen] at hcount
  constructor
  · rw [hseen, updateReadinessStats_group]
    split
    · simpa
    · simpa
  · exact hcount.trans (congrArg _ hall)

end

end ClusterStateRegistry

/-- **Groups of a wrong size.** After an update, a managed group is reported exactly if its
registered nodes are too few or too many for its range, if and only if it has a
registered node or needs none. -/
theorem updateNodes_reports_mismatch_iff {W : Type} (h : ApiService W)
    (csr : ClusterStateRegistry) (nodes : List Node) (currentTime : Time) (m : Machine W)
    (hok : ((csr.updateNodes nodes currentTime).exec h m).val.2 = none) :
    let listing := (getNotRegisteredNodes nodes currentTime).exec h (getTargetSizes.exec h m).mach
    let after := ((csr.updateNodes nodes currentTime).exec h m).val.1
    ∀ asg ∈ m.store.registeredAsgs,
      let registered : Int := (nodesIn h nodes listing.mach (some asg.id)).length
      ∃ range, after.acceptableRanges asg.id = some range ∧
        (((after.incorrectNodeGroupSizes asg.id).isSome = true ↔
            registered < range.minNodes ∨ range.maxNodes < registered) ↔
          registered ≠ 0 ∨ range.minNodes ≤ 0 ∧ 0 ≤ range.maxNodes) := by
  intro listing after asg hasg registered
  rcases csr.updateNodes_cases (h := h) nodes currentTime m with
    ⟨err, herr⟩ | ⟨targets, missing, seen, hobserve, hsizes, hlisting, -, -, hsettled⟩
  · rw [herr] at hok
    simp at hok
  have hid : asg.id ∈ m.store.registeredAsgs.map Asg.id := List.mem_map_of_mem hasg
  obtain ⟨range, hrange⟩ : ∃ range, after.acceptableRanges asg.id = some range :=
    ⟨_, (congrFun hsettled.ranges asg.id).trans (acceptableRangesOf_managed _ _ _ _ hid)⟩
  refine ⟨range, hrange, ?_⟩
  obtain ⟨hnone, hcount⟩ :=
    csr.observe_readiness nodes currentTime m hobserve hsizes hlisting asg.id
  have hreported : (after.incorrectNodeGroupSizes asg.id).isSome = true ↔
      after.Mismatched asg.id := csr.updateNodes_reported nodes currentTime m hobserve hid
  have hreadiness : after.perNodeGroupReadiness asg.id = seen.perNodeGroupReadiness asg.id :=
    congrFun hsettled.readiness asg.id
  rw [hreported, ClusterStateRegistry.Mismatched, hrange, hreadiness]
  rw [ClusterStateRegistry.readiness] at hcount
  cases hentry : seen.perNodeGroupReadiness asg.id with
  | none =>
      -- nothing is reported, whatever the range
      have hzero : registered = 0 := by simp [registered, listing, hnone.mp hentry]
      simp only [hzero, reduceCtorEq, false_and, and_false, exists_false, false_iff]
      omega
  | some readiness =>
      have hregistered : readiness.registered = registered := by
        rw [hentry, Option.getD_some] at hcount
        exact hcount
      have hsome : registered ≠ 0 := by
        intro hzero
        have hempty := hnone.mpr (List.eq_nil_of_length_eq_zero (Int.ofNat_eq_zero.mp hzero))
        simp [hentry] at hempty
      refine iff_of_true ?_ (.inl hsome)
      constructor
      · rintro ⟨_, _, ⟨⟩, ⟨⟩, houtside⟩
        omega
      · intro houtside
        exact ⟨range, readiness, rfl, rfl, by omega⟩

/-- One node of two: `g` is reported. -/
theorem updateNodes_reports_mismatch_sample :
    ∃ run, ((newClusterStateRegistry.updateNodes [node1] minute).exec Cluster.sample.service
        sampleMachine).val = run ∧
      run.2 = none ∧ run.1.acceptableRanges groupG.id = some ⟨2, 2, 2⟩ ∧
      (run.1.incorrectNodeGroupSizes groupG.id).isSome = true := by
  have hrun : ((newClusterStateRegistry.updateNodes [node1] minute).exec Cluster.sample.service
        sampleMachine).val.2 = none ∧
      ((newClusterStateRegistry.updateNodes [node1] minute).exec Cluster.sample.service
        sampleMachine).val.1.acceptableRanges groupG.id = some ⟨2, 2, 2⟩ := by decide +kernel
  have hone : (nodesIn Cluster.sample.service [node1]
      ((getNotRegisteredNodes [node1] minute).exec Cluster.sample.service
        (getTargetSizes.exec Cluster.sample.service sampleMachine).mach).mach
      (some groupG.id)).length = 1 := by decide +kernel
  obtain ⟨hnone, hranges⟩ := hrun
  obtain ⟨range, hrange, hiff⟩ := updateNodes_reports_mismatch_iff Cluster.sample.service
    newClusterStateRegistry [node1] minute sampleMachine hnone groupG
    (by simp [sampleMachine, freshStore])
  refine ⟨_, rfl, hnone, hranges, ?_⟩
  obtain rfl : range = ⟨2, 2, 2⟩ := Option.some.inj (hrange.symm.trans hranges)
  rw [hone] at hiff
  exact (hiff.mpr (.inl (by decide))).mpr (.inl (by decide))

/-- No node of two: `g` is not reported. -/
theorem updateNodes_misses_empty_group :
    ∃ run, ((newClusterStateRegistry.updateNodes [] minute).exec Cluster.sample.service
        sampleMachine).val = run ∧
      run.2 = none ∧ groupG ∈ sampleMachine.store.registeredAsgs ∧
      nodesIn Cluster.sample.service [] ((getNotRegisteredNodes [] minute).exec
        Cluster.sample.service (getTargetSizes.exec Cluster.sample.service
          sampleMachine).mach).mach (some groupG.id) = [] ∧
      run.1.acceptableRanges groupG.id = some ⟨2, 2, 2⟩ ∧
      run.1.incorrectNodeGroupSizes groupG.id = none := by
  have hrun : ((newClusterStateRegistry.updateNodes [] minute).exec Cluster.sample.service
        sampleMachine).val.2 = none ∧
      ((newClusterStateRegistry.updateNodes [] minute).exec Cluster.sample.service
        sampleMachine).val.1.acceptableRanges groupG.id = some ⟨2, 2, 2⟩ ∧
      ((newClusterStateRegistry.updateNodes [] minute).exec Cluster.sample.service
        sampleMachine).val.1.incorrectNodeGroupSizes groupG.id = none := by decide
  obtain ⟨hnone, hrange, hunreported⟩ := hrun
  exact ⟨_, rfl, hnone, by simp [sampleMachine, freshStore], rfl, hrange, hunreported⟩

end AutoNodeRepair
