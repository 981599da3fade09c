import AutoNodeRepair.Theorems.FailedScaleUps

/-!
# The nodes that are said to come

`GetUpcomingNodes` "may overestimate the number of nodes". In every registry that can be
reached it does so by exactly the nodes that are being deleted. `IsNodeGroupScalingUp` and
the pruning of the scale-ups ask another function whether there are any such nodes, and
that one counts the nodes being deleted as started, and those that did not start for
long as still to come.
-/

namespace AutoNodeRepair

open Interact

namespace ClusterStateRegistry

theorem foldl_addUpcoming (csr : ClusterStateRegistry) (id : String) (groups : List Asg)
    (result : String → Option Int) :
    groups.foldl csr.addUpcoming result id =
      if id ∈ groups.map Asg.id ∧ 0 < csr.upcomingNodes id then some (csr.upcomingNodes id)
      else result id := by
  induction groups generalizing result with
  | nil => simp
  | cons group rest ih =>
      have hhead : csr.addUpcoming result group id =
          if id = group.id ∧ 0 < csr.upcomingNodes id then some (csr.upcomingNodes id)
          else result id := by
        unfold addUpcoming
        by_cases hid : id = group.id
        · subst hid
          by_cases hpos : 0 < csr.upcomingNodes group.id
          · simp [hpos, Int.not_le.mpr hpos]
          · simp [hpos, Int.not_lt.mp hpos]
        · by_cases hle : csr.upcomingNodes group.id ≤ 0 <;> simp [hid, hle]
      rw [List.foldl_cons, ih, hhead]
      by_cases hpos : 0 < csr.upcomingNodes id
      · by_cases hrest : id ∈ rest.map Asg.id
        · simp [hpos, hrest]
        · simp [hpos, hrest]
      · simp [hpos]

theorem getUpcomingNodes_val {W : Type} (h : ApiService W) (csr : ClusterStateRegistry)
    (m : Machine W) (id : String) :
    (csr.getUpcomingNodes.exec h m).val id =
      if id ∈ m.store.registeredAsgs.map Asg.id ∧ 0 < csr.upcomingNodes id
      then some (csr.upcomingNodes id) else none :=
  csr.foldl_addUpcoming id m.store.registeredAsgs fun _ => none

end ClusterStateRegistry

/-- The counters of the groups add up in every registry that can be reached. -/
theorem runAll_balanced {W : Type} (h : ApiService W) (ops : List RegistryOp)
    {csr : ClusterStateRegistry} (hcsr : AllBalanced csr.perNodeGroupReadiness) (m : Machine W) :
    AllBalanced ((RegistryOp.runAll csr ops).exec h m).val.perNodeGroupReadiness := by
  induction ops generalizing csr m with
  | nil => exact hcsr
  | cons op rest ih =>
      have hop : AllBalanced ((op.run csr).exec h m).val.perNodeGroupReadiness := by
        cases op with
        | registerScaleUp request => exact hcsr
        | registerScaleDown request => exact hcsr
        | registerFailedScaleUp name => exact hcsr
        | updateNodes nodes currentTime =>
            have hval : ((RegistryOp.run csr (.updateNodes nodes currentTime)).exec h m).val =
                ((csr.updateNodes nodes currentTime).exec h m).val.1 := by
              simp [RegistryOp.run]
            rw [hval]
            rcases csr.updateNodes_cases (h := h) nodes currentTime m with
              ⟨err, herr⟩ | ⟨_, _, seen, -, -, -, hobserved, -, hsettled⟩
            · rw [herr]
              exact hcsr
            · rw [hsettled.readiness]
              exact hobserved.balanced
      have hrest := ih hop ((op.run csr).exec h m).mach
      simpa [RegistryOp.runAll] using hrest

/-- **By how much it overestimates.** In every registry that a run leads to, a managed group
has as many upcoming nodes as it is short of its target, and its nodes that have not
started yet, and those that are being deleted. Asked for the same registry,
`areThereUpcomingNodesInNodeGroup` can only differ where more nodes are being deleted than
have not started for long (it then finds none), or fewer (it then finds some). -/
theorem getUpcomingNodes_reachable {W : Type} (h : ApiService W) (ops : List RegistryOp)
    (m m' : Machine W) (id : String) :
    let csr := ((RegistryOp.runAll newClusterStateRegistry ops).exec h m).val
    let readiness := (csr.perNodeGroupReadiness id).getD {}
    let target := ((csr.acceptableRanges id).getD {}).currentTarget
    let expected := target - readiness.registered + readiness.notStarted + readiness.deleted
    let upcoming := (csr.getUpcomingNodes.exec h m').val id
    upcoming = (if id ∈ m'.store.registeredAsgs.map Asg.id ∧ 0 < expected then some expected
      else none) ∧
    (upcoming.isSome → csr.areThereUpcomingNodesInNodeGroup id = false →
      readiness.longNotStarted < readiness.deleted) ∧
    (id ∈ m'.store.registeredAsgs.map Asg.id → upcoming = none →
      csr.areThereUpcomingNodesInNodeGroup id = true →
      readiness.deleted < readiness.longNotStarted) := by
  intro csr readiness target expected upcoming
  have hall : AllBalanced csr.perNodeGroupReadiness :=
    runAll_balanced h ops (by intro id r hr; simp [newClusterStateRegistry] at hr) m
  have hbalanced : readiness.Balanced := by
    cases hentry : csr.perNodeGroupReadiness id with
    | none =>
        have hzero : readiness = {} := by simp [readiness, hentry]
        exact hzero ▸ Readiness.balanced_zero
    | some r =>
        have hr : readiness = r := by simp [readiness, hentry]
        exact hr ▸ hall id r hentry
  have hsum := hbalanced.registered
  have hexpected : csr.upcomingNodes id = expected := by
    show target - (readiness.ready + readiness.unready + readiness.longNotStarted) = _
    omega
  have hprovisioned : csr.provisioned id =
      readiness.registered - readiness.notStarted - readiness.longNotStarted := by
    unfold ClusterStateRegistry.provisioned
    cases hentry : csr.perNodeGroupReadiness id with
    | none => simp [readiness, hentry]
    | some r => simp [readiness, hentry]
  have hupcoming : upcoming = if id ∈ m'.store.registeredAsgs.map Asg.id ∧ 0 < expected then
      some expected else none := by
    rw [← hexpected]
    exact csr.getUpcomingNodes_val h m' id
  have hare : csr.areThereUpcomingNodesInNodeGroup id =
      decide (readiness.registered - readiness.notStarted - readiness.longNotStarted < target) := by
    rw [ClusterStateRegistry.areThereUpcoming_eq hall, hprovisioned]
    rfl
  refine ⟨hupcoming, ?_, ?_⟩
  · intro hsome hnone
    rw [hare, decide_eq_false_iff_not] at hnone
    have hpos : 0 < expected := by
      by_contra hle
      simp [hupcoming, hle] at hsome
    omega
  · intro hmanaged hnone hsome
    rw [hare, decide_eq_true_iff] at hsome
    have hle : ¬0 < expected := by
      intro hpos
      rw [hupcoming, if_pos ⟨hmanaged, hpos⟩] at hnone
      cases hnone
    omega

end AutoNodeRepair
