import AutoNodeRepair.Logic.Cache
import AutoNodeRepair.Model.ClusterState

/-!
# The steps of UpdateNodes

One lemma for each of the updates, in the terms the results need: which requests
survive, what the ranges of a group are, and that none of this touches the groups
of the cloud provider. The backoff information is the business of
`Theorems.Backoff`; here it is only said that nothing else depends on it.
-/

namespace AutoNodeRepair

open Interact

/-! ## Ranges -/

/-- The range of a group, the zero range if there is none. -/
def Ranges.read (ranges : Ranges) (id : String) : AcceptableRange :=
  (ranges id).getD {}

/-- By how much the scale-ups going on increase a group. -/
def totalIncrease (scaleUpRequests : List ScaleUpRequest) (id : String) : Int :=
  (scaleUpRequests.filter fun sur => sur.nodeGroupName == id).foldr
    (fun sur total => sur.increase + total) 0

/-- How many scale-downs of a group go on. -/
def countScaleDowns (scaleDownRequests : List ScaleDownRequest) (id : String) : Nat :=
  (scaleDownRequests.filter fun sdr => sdr.nodeGroupName == id).length

namespace Ranges

theorem foldl_setTarget (targetSize : String → Option Int) (id : String) :
    ∀ (groups : List Asg) (ranges : Ranges),
    groups.foldl (setTarget targetSize) ranges id =
      if id ∈ groups.map Asg.id
      then some ⟨(targetSize id).getD 0, (targetSize id).getD 0, (targetSize id).getD 0⟩
      else ranges id := by
  intro groups
  induction groups with
  | nil => intro ranges; rfl
  | cons group rest ih =>
      intro ranges
      rw [List.foldl_cons, ih]
      by_cases hrest : id ∈ rest.map Asg.id
      · simp [hrest]
      · by_cases heq : id = group.id
        · simp [heq, setTarget]
        · simp [hrest, heq, setTarget]

/-- A loop that changes for each request the range of the group it names: a group sees the
changes of its own requests in their order, and a range that is there stays. -/
theorem foldl_change {Request : Type} (group : Request → String)
    (change : AcceptableRange → Request → AcceptableRange) {step : Ranges → Request → Ranges}
    (hstep : ∀ ranges request, step ranges request = Function.update ranges (group request)
      (some (change (ranges.read (group request)) request))) (id : String) :
    ∀ (requests : List Request) (ranges : Ranges),
    (requests.foldl step ranges).read id =
        (requests.filter fun request => group request == id).foldl change (ranges.read id) ∧
      ((ranges id).isSome → (requests.foldl step ranges id).isSome) := by
  intro requests
  induction requests with
  | nil => intro ranges; simp
  | cons request rest ih =>
      intro ranges
      obtain ⟨hread, hsome⟩ := ih (step ranges request)
      rw [List.foldl_cons, hread]
      by_cases heq : id = group request
      · subst heq
        refine ⟨?_, fun _ => hsome (by simp [hstep])⟩
        simp [hstep, Ranges.read]
      · have hne : ¬group request = id := fun h => heq h.symm
        refine ⟨?_, fun h => hsome (by simpa [hstep, heq] using h)⟩
        simp [hstep, Ranges.read, heq, hne]

theorem foldl_scaleUp (id : String) (scaleUpRequests : List ScaleUpRequest) (ranges : Ranges) :
    (scaleUpRequests.foldl scaleUp ranges).read id =
        { ranges.read id with
          minNodes := (ranges.read id).minNodes - totalIncrease scaleUpRequests id } ∧
      ((ranges id).isSome → (scaleUpRequests.foldl scaleUp ranges id).isSome) := by
  have hown : ∀ (surs : List ScaleUpRequest) (val : AcceptableRange),
      surs.foldl (fun val sur => { val with minNodes := val.minNodes - sur.increase }) val =
        { val with minNodes :=
            val.minNodes - surs.foldr (fun sur total => sur.increase + total) 0 } := by
    intro surs
    induction surs with
    | nil => intro val; simp
    | cons sur rest ih => intro val; simp [ih, Int.sub_sub]
  obtain ⟨hread, hsome⟩ := foldl_change ScaleUpRequest.nodeGroupName
    (fun val sur => { val with minNodes := val.minNodes - sur.increase })
    (fun _ _ => rfl) id scaleUpRequests ranges
  exact ⟨hread.trans (hown _ _), hsome⟩

theorem foldl_scaleDown (id : String) (scaleDownRequests : List ScaleDownRequest)
    (ranges : Ranges) :
    (scaleDownRequests.foldl scaleDown ranges).read id =
        { ranges.read id with
          maxNodes := (ranges.read id).maxNodes + countScaleDowns scaleDownRequests id } ∧
      ((ranges id).isSome → (scaleDownRequests.foldl scaleDown ranges id).isSome) := by
  have hown : ∀ (sdrs : List ScaleDownRequest) (val : AcceptableRange),
      sdrs.foldl (fun val _ => { val with maxNodes := val.maxNodes + 1 }) val =
        { val with maxNodes := val.maxNodes + sdrs.length } := by
    intro sdrs
    induction sdrs with
    | nil => intro val; simp
    | cons sdr rest ih =>
        intro val
        simp only [List.foldl_cons, ih, List.length_cons, AcceptableRange.mk.injEq, and_true,
          true_and]
        omega
  obtain ⟨hread, hsome⟩ := foldl_change ScaleDownRequest.nodeGroupName
    (fun val _ => { val with maxNodes := val.maxNodes + 1 })
    (fun _ _ => rfl) id scaleDownRequests ranges
  exact ⟨hread.trans (hown _ _), hsome⟩

end Ranges

section

variable (groups : List Asg) (targetSize : String → Option Int)
  (scaleUpRequests : List ScaleUpRequest) (scaleDownRequests : List ScaleDownRequest)

/-- The range of a managed group. -/
theorem acceptableRangesOf_managed {id : String} (hid : id ∈ groups.map Asg.id) :
    acceptableRangesOf groups targetSize scaleUpRequests scaleDownRequests id =
      some { minNodes := (targetSize id).getD 0 - totalIncrease scaleUpRequests id
             maxNodes := (targetSize id).getD 0 + countScaleDowns scaleDownRequests id
             currentTarget := (targetSize id).getD 0 } := by
  have hbase := Ranges.foldl_setTarget targetSize id groups fun _ => none
  rw [if_pos hid] at hbase
  obtain ⟨hup, hupSome⟩ := Ranges.foldl_scaleUp id scaleUpRequests
    (groups.foldl (Ranges.setTarget targetSize) fun _ => none)
  obtain ⟨hdown, hdownSome⟩ := Ranges.foldl_scaleDown id scaleDownRequests
    (scaleUpRequests.foldl Ranges.scaleUp
      (groups.foldl (Ranges.setTarget targetSize) fun _ => none))
  obtain ⟨range, hrange⟩ := Option.isSome_iff_exists.mp (hdownSome (hupSome (by simp [hbase])))
  rw [hup, Ranges.read, hrange, Option.getD_some] at hdown
  rw [acceptableRangesOf, hrange, hdown, Ranges.read, hbase, Option.getD_some]

/-- The target of a group does not depend on the requests; a group that is not managed has
none. -/
theorem acceptableRangesOf_target (id : String) :
    (Ranges.read (acceptableRangesOf groups targetSize scaleUpRequests scaleDownRequests)
      id).currentTarget =
      if id ∈ groups.map Asg.id then (targetSize id).getD 0 else 0 := by
  rw [acceptableRangesOf, (Ranges.foldl_scaleDown ..).1, (Ranges.foldl_scaleUp ..).1, Ranges.read,
    Ranges.foldl_setTarget]
  by_cases hid : id ∈ groups.map Asg.id
  · simp [hid]
  · simp [hid]

end

/-! ## Readiness -/

/-- The counts are counts, and they add up. -/
structure Readiness.Balanced (r : Readiness) : Prop where
  ready : 0 ≤ r.ready
  unready : 0 ≤ r.unready
  deleted : 0 ≤ r.deleted
  registered : r.registered = r.ready + r.unready + r.deleted + r.longNotStarted + r.notStarted

theorem Readiness.Balanced.update {r : Readiness} (hr : r.Balanced) (currentTime : Time)
    (node : Node) (ready : Bool) : (r.update currentTime node ready).Balanced := by
  obtain ⟨hready, hunready, hdeleted, hregistered⟩ := hr
  unfold Readiness.update
  split
  · exact ⟨hready, hunready, by dsimp only; omega, by dsimp only; omega⟩
  split
  · exact ⟨hready, hunready, hdeleted, by dsimp only; omega⟩
  split
  · exact ⟨hready, hunready, hdeleted, by dsimp only; omega⟩
  split
  · exact ⟨by dsimp only; omega, hunready, hdeleted, by dsimp only; omega⟩
  · exact ⟨hready, by dsimp only; omega, hdeleted, by dsimp only; omega⟩

theorem Readiness.balanced_zero : ({} : Readiness).Balanced :=
  ⟨by decide, by decide, by decide, by decide⟩

/-- Every group's readiness is balanced. -/
def AllBalanced (perNodeGroup : String → Option Readiness) : Prop :=
  ∀ id r, perNodeGroup id = some r → r.Balanced

theorem AllBalanced.update {perNodeGroup : String → Option Readiness}
    (hall : AllBalanced perNodeGroup) (currentTime : Time) (node : Node) (ready : Bool)
    (id : String) :
    AllBalanced (Function.update perNodeGroup id
      (some (((perNodeGroup id).getD {}).update currentTime node ready))) := by
  intro other r hentry
  by_cases heq : other = id
  · subst heq
    simp only [Function.update_self, Option.some.injEq] at hentry
    rw [← hentry]
    cases hbefore : perNodeGroup other with
    | none => exact Readiness.balanced_zero.update currentTime node ready
    | some before => exact (hall other before hbefore).update currentTime node ready
  · rw [Function.update_of_ne heq] at hentry
    exact hall other r hentry

section

variable {W : Type} {h : ApiService W}

/-- A lookup leaves the registered groups alone. -/
theorem nodeGroupForNode_registered (asgs : List Asg) (node : Node) :
    Keeps h (fun m => m.store.registeredAsgs = asgs) (fun _ => True) (nodeGroupForNode node) := by
  unfold nodeGroupForNode
  split
  · exact Keeps.pure _
  · rename_i ref _
    rintro m rfl
    obtain ⟨⟨⟨hinv, -⟩, -⟩, -⟩ := findForInstance_spec (everywhere_closed h) (fun _ _ _ => trivial)
      (fun _ _ => trivial) ref m ⟨.anything m.store, trivial⟩
    exact ⟨hinv.registered, fun _ _ => trivial⟩

theorem readinessLoop_spec (asgs : List Asg) (currentTime : Time) :
    ∀ (nodes : List Node) (perNodeGroup : String → Option Readiness) (total : Readiness),
    AllBalanced perNodeGroup →
    Triple h (fun m => m.store.registeredAsgs = asgs) (fun _ => True)
      (readinessLoop currentTime nodes perNodeGroup total)
      fun r m => m.store.registeredAsgs = asgs ∧ AllBalanced r.1 := by
  intro nodes
  induction nodes with
  | nil => intro perNodeGroup total hall; exact Triple.pure _ fun m hm => ⟨hm, hall⟩
  | cons node rest ih =>
      intro perNodeGroup total hall
      refine Triple.bind (nodeGroupForNode_registered asgs node) fun nodeGroup => ?_
      refine ih _ _ ?_
      split
      · exact hall.update currentTime node _ _
      · exact hall

end

/-! ## Requests -/

namespace ClusterStateRegistry

/-- The nodes of a group that have started. -/
def provisioned (csr : ClusterStateRegistry) (id : String) : Int :=
  match csr.perNodeGroupReadiness id with
  | none => 0
  | some r => r.registered - r.notStarted - r.longNotStarted

/-- Nodes are upcoming where the target exceeds what has started; a missing range counts as
the zero one. -/
theorem areThereUpcoming_eq {csr : ClusterStateRegistry}
    (hall : AllBalanced csr.perNodeGroupReadiness) (id : String) :
    csr.areThereUpcomingNodesInNodeGroup id =
      decide (csr.provisioned id < (Ranges.read csr.acceptableRanges id).currentTarget) := by
  -- never negative, so the target 0 of a missing range does not exceed it
  have hstarted : 0 ≤ csr.provisioned id := by
    unfold provisioned
    cases hentry : csr.perNodeGroupReadiness id with
    | none => exact Int.le_refl 0
    | some r =>
        obtain ⟨hready, hunready, hdeleted, hregistered⟩ := hall id r hentry
        dsimp only
        omega
  unfold areThereUpcomingNodesInNodeGroup
  cases hrange : csr.acceptableRanges id with
  | none =>
      have hzero : (Ranges.read csr.acceptableRanges id).currentTarget = 0 := by
        simp [Ranges.read, hrange]
      rw [hzero, decide_eq_false (by omega)]
  | some range =>
      have hread : Ranges.read csr.acceptableRanges id = range := by simp [Ranges.read, hrange]
      rw [hread]
      unfold provisioned
      cases csr.perNodeGroupReadiness id with
      | none => rfl
      | some r => rfl

/-- The same registry with other backoff information. -/
def withBackoff (csr : ClusterStateRegistry) (info : String → Option ScaleUpBackoff) :
    ClusterStateRegistry :=
  { csr with nodeGroupBackoffInfo := info }

@[simp] theorem withBackoff_withBackoff (csr : ClusterStateRegistry)
    (info info' : String → Option ScaleUpBackoff) :
    (csr.withBackoff info).withBackoff info' = csr.withBackoff info' := rfl

@[simp] theorem areThereUpcoming_withBackoff (csr : ClusterStateRegistry)
    (info : String → Option ScaleUpBackoff) (id : String) :
    (csr.withBackoff info).areThereUpcomingNodesInNodeGroup id =
      csr.areThereUpcomingNodesInNodeGroup id := rfl

/-- The loop over the scale-ups changes nothing in the registry but the backoff, and sorts
the requests as the registry it started from says. -/
theorem foldl_see (currentTime : Time) :
    ∀ (surs : List ScaleUpRequest) (s : RequestSort),
    ∃ info, surs.foldl (RequestSort.see currentTime) s =
      { csr := s.csr.withBackoff info
        timedOutSur := s.timedOutSur ++ surs.filter fun sur =>
          s.csr.areThereUpcomingNodesInNodeGroup sur.nodeGroupName &&
            !decide (currentTime < sur.expectedAddTime)
        newSur := s.newSur ++ surs.filter fun sur =>
          s.csr.areThereUpcomingNodesInNodeGroup sur.nodeGroupName &&
            decide (currentTime < sur.expectedAddTime) } := by
  intro surs
  induction surs with
  | nil => intro s; exact ⟨s.csr.nodeGroupBackoffInfo, by simp [withBackoff]⟩
  | cons sur rest ih =>
      intro s
      rw [List.foldl_cons]
      -- the question is the same for the rest: resetting a backoff does not change it
      cases hup : s.csr.areThereUpcomingNodesInNodeGroup sur.nodeGroupName with
      | false =>
          have hreset : s.see currentTime sur = { s with
              csr := s.csr.withBackoff (s.csr.resetBackoff
                sur.nodeGroupName).nodeGroupBackoffInfo } := by
            simp [RequestSort.see, hup, resetBackoff, withBackoff]
          obtain ⟨info, hrest⟩ := ih (s.see currentTime sur)
          exact ⟨info, by rw [hrest, hreset]; simp [hup]⟩
      | true =>
          obtain ⟨info, hrest⟩ := ih (s.see currentTime sur)
          refine ⟨info, ?_⟩
          rw [hrest]
          by_cases hlater : currentTime < sur.expectedAddTime
          · simp [RequestSort.see, hup, hlater]
          · simp [RequestSort.see, hup, hlater]

theorem backoffTimedOut_eq (currentTime : Time) :
    ∀ (surs : List ScaleUpRequest) (csr : ClusterStateRegistry),
    ∃ info, backoffTimedOut currentTime surs csr = csr.withBackoff info := by
  intro surs
  induction surs with
  | nil => intro csr; exact ⟨csr.nodeGroupBackoffInfo, rfl⟩
  | cons sur rest ih =>
      intro csr
      unfold backoffTimedOut
      split
      · exact ih (csr.backoffNodeGroup sur.nodeGroupName currentTime)
      · exact ih csr

/-- `updateScaleRequests` keeps the scale-ups that are due later and whose group has
upcoming nodes, and the scale-downs that are due later. -/
theorem updateScaleRequests_eq (csr : ClusterStateRegistry) (currentTime : Time) :
    ∃ info, csr.updateScaleRequests currentTime =
      { csr with
        scaleUpRequests := csr.scaleUpRequests.filter fun sur =>
          csr.areThereUpcomingNodesInNodeGroup sur.nodeGroupName &&
            decide (currentTime < sur.expectedAddTime)
        scaleDownRequests := csr.scaleDownRequests.filter fun sdr =>
          decide (currentTime < sdr.expectedDeleteTime)
        nodeGroupBackoffInfo := info } := by
  obtain ⟨info, hsort⟩ := foldl_see currentTime csr.scaleUpRequests
    { csr := csr.cleanBackoff currentTime }
  obtain ⟨info', htimedOut⟩ := backoffTimedOut_eq currentTime
    (csr.sortScaleUps currentTime).timedOutSur (csr.sortScaleUps currentTime).csr
  refine ⟨info', ?_⟩
  rw [updateScaleRequests, htimedOut, sortScaleUps, hsort]
  rfl

end ClusterStateRegistry

/-! ## What the cloud provider answers -/

section

variable {W : Type} {h : ApiService W}

/-- In one of these exchanges the cloud reported the group at this size. -/
def AnsweredSize (h : ApiService W) (log : List (ApiEvent W)) (asg : Asg) (size : Int) : Prop :=
  ∃ w g rest, Service.event h w (.describeAutoScalingGroups asg.name) ∈ log ∧
    (h w (.describeAutoScalingGroups asg.name)).1 = .ok (g :: rest) ∧ g.desiredCapacity = size

/-- `TargetSize` is one question, and answers with the size reported. -/
theorem targetSize_exec (asg : Asg) (m : Machine W) :
    ∃ r, asg.targetSize.exec h m =
        ⟨r, [Service.event h m.world (.describeAutoScalingGroups asg.name)],
          { m with world := (h m.world (.describeAutoScalingGroups asg.name)).2 }⟩ ∧
      ∀ size, r = (size, none) → ∃ g rest,
        (h m.world (.describeAutoScalingGroups asg.name)).1 = .ok (g :: rest) ∧
          g.desiredCapacity = size := by
  have hcall : (describeAutoScalingGroups asg.name).exec h m =
      ⟨(h m.world (.describeAutoScalingGroups asg.name)).1, [Service.event h m.world _],
        { m with world := (h m.world (.describeAutoScalingGroups asg.name)).2 }⟩ := rfl
  unfold Asg.targetSize getAsgSize
  rw [exec_bind, hcall]
  cases hans : (h m.world (.describeAutoScalingGroups asg.name)).1 with
  | error err => exact ⟨_, rfl, by simp⟩
  | ok groups =>
      cases groups with
      | nil => exact ⟨_, rfl, by simp⟩
      | cons g rest => exact ⟨_, rfl, by simp⟩

/-- The sizes collected are those reported for the groups. -/
theorem targetSizesLoop_spec :
    ∀ (groups : List Asg) (result : String → Option Int) (m : Machine W),
    ((targetSizesLoop groups result).exec h m).mach.store = m.store ∧
    ∀ targets, ((targetSizesLoop groups result).exec h m).val = .ok targets →
      (∀ id, id ∉ groups.map Asg.id → targets id = result id) ∧
      ((groups.map Asg.id).Nodup → ∀ asg ∈ groups, ∃ size, targets asg.id = some size ∧
        AnsweredSize h ((targetSizesLoop groups result).exec h m).log asg size) := by
  intro groups
  induction groups with
  | nil =>
      intro result m
      refine ⟨rfl, ?_⟩
      rintro targets ⟨⟩
      exact ⟨fun _ _ => rfl, by simp⟩
  | cons asg rest ih =>
      intro result m
      obtain ⟨r, hexec, hsize⟩ := targetSize_exec (h := h) asg m
      unfold targetSizesLoop
      rw [exec_bind, hexec]
      obtain ⟨size, err⟩ := r
      cases err with
      | some err => exact ⟨rfl, by rintro targets ⟨⟩⟩
      | none =>
          obtain ⟨hstore, hok⟩ := ih (Function.update result asg.id (some size))
            { m with world := (h m.world (.describeAutoScalingGroups asg.name)).2 }
          refine ⟨hstore, ?_⟩
          intro targets hval
          obtain ⟨hother, hreported⟩ := hok targets hval
          refine ⟨?_, ?_⟩
          · intro id hid
            simp only [List.map_cons, List.mem_cons, not_or] at hid
            rw [hother id hid.2, Function.update_of_ne hid.1]
          · intro hnodup asg' hasg'
            obtain ⟨hfresh, hnodup⟩ := List.nodup_cons.mp hnodup
            rcases List.mem_cons.mp hasg' with rfl | hasg'
            · -- no later group overwrites it
              obtain ⟨g, more, hans, hcap⟩ := hsize size rfl
              refine ⟨size, by rw [hother _ hfresh, Function.update_self], ?_⟩
              exact ⟨m.world, g, more, by simp, hans, hcap⟩
            · obtain ⟨size', htarget, w, g, more, hmem, hans⟩ := hreported hnodup asg' hasg'
              exact ⟨size', htarget, w, g, more, by simp [hmem], hans⟩

theorem notRegisteredLoop_store (registered : List String) (time : Time) :
    ∀ (groups : List Asg) (notRegistered : List UnregisteredNode) (m : Machine W),
    ((notRegisteredLoop registered time groups notRegistered).exec h m).mach.store =
      m.store := by
  intro groups
  induction groups with
  | nil => intro notRegistered m; rfl
  | cons asg rest ih =>
      intro notRegistered m
      have hnodes : ((getAsgNodes asg).exec h m).mach.store = m.store := by
        obtain ⟨⟨⟨hstore, -⟩, -⟩, -⟩ :=
          getAutoscalingGroupByName_spec (everywhere_closed h) m.store asg.name m ⟨rfl, trivial⟩
        simp only [getAsgNodes, exec_bind, Outcome.after_mach]
        cases ((getAutoscalingGroupByName asg.name).exec h m).val with
        | error err => exact hstore
        | ok group => exact hstore
      simp only [notRegisteredLoop, exec_bind, Outcome.after_mach]
      cases ((getAsgNodes asg).exec h m).val with
      | error err => exact hnodes
      | ok nodes => exact (ih _ _).trans hnodes

end

end AutoNodeRepair
