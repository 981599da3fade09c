import AutoNodeRepair.Theorems.UpdateNodes

/-!
# Failures during a backoff

Every failed scale-up of a group ends in `backoffNodeGroup`. For a group that is not
in backoff it doubles the duration; for one that still is, it starts over from
the initial duration, so that a failure during a longer backoff cuts it short.
-/

namespace AutoNodeRepair

open Interact

/-! ## The applications of backoffNodeGroup in a run -/

/-- `backoffNodeGroup`, called with these arguments. -/
structure BackoffCall where
  csr : ClusterStateRegistry
  nodeGroupName : String
  currentTime : Time

namespace BackoffCall

/-- The registry afterwards. -/
def result (call : BackoffCall) : ClusterStateRegistry :=
  call.csr.backoffNodeGroup call.nodeGroupName call.currentTime

/-- The group's backoff before and after. -/
def before (call : BackoffCall) : Option ScaleUpBackoff :=
  call.csr.nodeGroupBackoffInfo call.nodeGroupName

@[inherit_doc before]
def after (call : BackoffCall) : Option ScaleUpBackoff :=
  call.result.nodeGroupBackoffInfo call.nodeGroupName

/-- If the group is still in backoff, neither the duration nor the end of it gets smaller. -/
def NotWeaker (call : BackoffCall) : Prop :=
  ∀ old, call.before = some old → ¬old.backoffUntil < call.currentTime →
    ∃ new, call.after = some new ∧ old.duration ≤ new.duration ∧
      old.backoffUntil ≤ new.backoffUntil

/-- If the group is still in backoff, it is in its first one. -/
def FirstBackoff (call : BackoffCall) : Prop :=
  ∀ old, call.before = some old → ¬old.backoffUntil < call.currentTime →
    old.duration = initialNodeGroupBackoffDuration

end BackoffCall

/-- The calls made by the loop over the timed out scale-ups. -/
def timedOutCalls (currentTime : Time) :
    List ScaleUpRequest → ClusterStateRegistry → List BackoffCall
  | [], _ => []
  | sur :: rest, csr =>
      if !csr.isNodeGroupScalingUp sur.nodeGroupName then
        ⟨csr, sur.nodeGroupName, currentTime⟩ ::
          timedOutCalls currentTime rest (csr.backoffNodeGroup sur.nodeGroupName currentTime)
      else timedOutCalls currentTime rest csr

/-- A call of the registry's interface that changes the backoff or the requests. -/
inductive RegistryOp
  | registerScaleUp (request : ScaleUpRequest)
  | registerScaleDown (request : ScaleDownRequest)
  | registerFailedScaleUp (nodeGroupName : String)
  | updateNodes (nodes : List Node) (currentTime : Time)

namespace RegistryOp

/-- The operation, run. -/
def run (csr : ClusterStateRegistry) : RegistryOp → Ctl ClusterStateRegistry
  | .registerScaleUp request => return csr.registerScaleUp request
  | .registerScaleDown request => return csr.registerScaleDown request
  | .registerFailedScaleUp nodeGroupName => csr.registerFailedScaleUp nodeGroupName
  | .updateNodes nodes currentTime => do
      let (csr, _) ← csr.updateNodes nodes currentTime
      return csr

/-- The calls of `backoffNodeGroup` it makes. -/
def calls {W : Type} (h : ApiService W) (csr : ClusterStateRegistry) (m : Machine W) :
    RegistryOp → List BackoffCall
  | .registerScaleUp _ | .registerScaleDown _ => []
  | .registerFailedScaleUp nodeGroupName => [⟨csr, nodeGroupName, (h m.world .now).1⟩]
  | .updateNodes nodes currentTime =>
      match ((csr.observe nodes currentTime).exec h m).val with
      | .error _ => []
      | .ok (_, _, seen) =>
          timedOutCalls currentTime (seen.sortScaleUps currentTime).timedOutSur
            (seen.sortScaleUps currentTime).csr

end RegistryOp

/-- All calls of `backoffNodeGroup` in a run, in order. -/
def backoffCalls {W : Type} (h : ApiService W) :
    ClusterStateRegistry → List RegistryOp → Machine W → List BackoffCall
  | _, [], _ => []
  | csr, op :: rest, m =>
      op.calls h csr m ++
        backoffCalls h ((op.run csr).exec h m).val rest ((op.run csr).exec h m).mach

/-! ## The backoff a registry can have -/

/-- It lasts at least the initial duration from the failure it starts with, and that was
before all of `later`. -/
def BackoffSane (later : List Time) (csr : ClusterStateRegistry) : Prop :=
  ∀ id info, csr.nodeGroupBackoffInfo id = some info →
    initialNodeGroupBackoffDuration ≤ info.duration ∧
      info.backoffUntil = info.lastFailedScaleUp + info.duration ∧
      ∀ t ∈ later, info.lastFailedScaleUp ≤ t

/-- Nothing is added to the backoff. -/
def BackoffWithin (csr csr' : ClusterStateRegistry) : Prop :=
  ∀ id info, csr.nodeGroupBackoffInfo id = some info → csr'.nodeGroupBackoffInfo id = some info

theorem BackoffSane.mono {later later' : List Time} {csr csr' : ClusterStateRegistry}
    (hsane : BackoffSane later csr') (hwithin : BackoffWithin csr csr')
    (hlater : ∀ t ∈ later', t ∈ later) : BackoffSane later' csr := by
  intro id info hentry
  obtain ⟨hduration, huntil, hlast⟩ := hsane id info (hwithin id info hentry)
  exact ⟨hduration, huntil, fun t ht => hlast t (hlater t ht)⟩

theorem backoffSane_new (later : List Time) : BackoffSane later newClusterStateRegistry := by
  intro id info hentry
  simp [newClusterStateRegistry] at hentry

namespace ClusterStateRegistry

theorem backoffNodeGroup_self (csr : ClusterStateRegistry) (name : String) (t : Time) :
    (csr.backoffNodeGroup name t).nodeGroupBackoffInfo name =
      some ⟨csr.backoffDuration name t, t + csr.backoffDuration name t, t⟩ := by
  simp [backoffNodeGroup]

theorem backoffNodeGroup_of_ne (csr : ClusterStateRegistry) {name id : String} (hne : id ≠ name)
    (t : Time) :
    (csr.backoffNodeGroup name t).nodeGroupBackoffInfo id = csr.nodeGroupBackoffInfo id := by
  simp [backoffNodeGroup, hne]

end ClusterStateRegistry

/-- The duration chosen is never below the initial one. -/
theorem BackoffSane.le_backoffDuration {later : List Time} {csr : ClusterStateRegistry}
    (hsane : BackoffSane later csr) (name : String) (t : Time) :
    initialNodeGroupBackoffDuration ≤ csr.backoffDuration name t := by
  unfold ClusterStateRegistry.backoffDuration
  cases hold : csr.nodeGroupBackoffInfo name with
  | none => exact Int.le_refl _
  | some old =>
      obtain ⟨hduration, -, -⟩ := hsane name old hold
      have hpos : (0 : Int) ≤ initialNodeGroupBackoffDuration := by decide
      have hmax : initialNodeGroupBackoffDuration ≤ maxNodeGroupBackoffDuration := by decide
      simp only [Duration] at hduration hmax ⊢
      split
      · split <;> omega
      · exact Int.le_refl _

/-- What `backoffNodeGroup` leaves. -/
theorem BackoffSane.backoffNodeGroup {later : List Time} {csr : ClusterStateRegistry} {t : Time}
    (hsane : BackoffSane (t :: later) csr) (hlater : ∀ t' ∈ later, t ≤ t') (name : String) :
    BackoffSane later (csr.backoffNodeGroup name t) := by
  intro id info hentry
  by_cases heq : id = name
  · rw [heq, csr.backoffNodeGroup_self, Option.some.injEq] at hentry
    rw [← hentry]
    exact ⟨hsane.le_backoffDuration name t, rfl, hlater⟩
  · rw [csr.backoffNodeGroup_of_ne heq] at hentry
    obtain ⟨hduration, huntil, hlast⟩ := hsane id info hentry
    exact ⟨hduration, huntil, fun t' ht' => hlast t' (List.mem_cons_of_mem _ ht')⟩

/-- These calls lead from one registry to the other. -/
inductive Applied : ClusterStateRegistry → List BackoffCall → ClusterStateRegistry → Prop
  | done (csr : ClusterStateRegistry) : Applied csr [] csr
  | call (csr : ClusterStateRegistry) (name : String) (t : Time) {rest : List BackoffCall}
      {csr' : ClusterStateRegistry} (hrest : Applied (csr.backoffNodeGroup name t) rest csr') :
      Applied csr (⟨csr, name, t⟩ :: rest) csr'

theorem timedOutCalls_applied (currentTime : Time) :
    ∀ (surs : List ScaleUpRequest) (csr : ClusterStateRegistry),
    Applied csr (timedOutCalls currentTime surs csr)
      (ClusterStateRegistry.backoffTimedOut currentTime surs csr) := by
  intro surs
  induction surs with
  | nil => intro csr; exact .done csr
  | cons sur rest ih =>
      intro csr
      unfold timedOutCalls ClusterStateRegistry.backoffTimedOut
      split
      · exact .call csr sur.nodeGroupName currentTime (ih _)
      · exact ih csr

/-- Along calls at times that do not decrease, each finds a sane backoff. -/
theorem Applied.sane {csr csr' : ClusterStateRegistry} {calls : List BackoffCall}
    (happlied : Applied csr calls csr') {later : List Time}
    (hsane : BackoffSane (calls.map BackoffCall.currentTime ++ later) csr)
    (htimes : (calls.map BackoffCall.currentTime ++ later).Pairwise (· ≤ ·)) :
    (∀ call ∈ calls, BackoffSane [call.currentTime] call.csr) ∧ BackoffSane later csr' := by
  -- `later` are the calls still to come, after those of the induction
  induction happlied with
  | done csr => exact ⟨by simp, hsane⟩
  | call csr name t hrest ih =>
      obtain ⟨hfirst, htimes⟩ := List.pairwise_cons.mp htimes
      obtain ⟨hcalls, hafter⟩ := ih (hsane.backoffNodeGroup hfirst name) htimes
      refine ⟨?_, hafter⟩
      intro call hcall
      rcases List.mem_cons.mp hcall with rfl | hcall
      · exact hsane.mono (fun _ _ hentry => hentry) (by simp)
      · exact hcalls call hcall

/-! ## Runs -/

namespace ClusterStateRegistry

theorem cleanBackoff_within (csr : ClusterStateRegistry) (currentTime : Time) :
    BackoffWithin (csr.cleanBackoff currentTime) csr := by
  intro id info hentry
  exact (Option.filter_eq_some_iff.mp hentry).1

theorem resetBackoff_within (csr : ClusterStateRegistry) (name : String) :
    BackoffWithin (csr.resetBackoff name) csr := by
  intro id info hentry
  by_cases heq : id = name
  · simp [resetBackoff, heq] at hentry
  · simpa [resetBackoff, heq] using hentry

theorem foldl_see_within (currentTime : Time) :
    ∀ (surs : List ScaleUpRequest) (s : RequestSort),
    BackoffWithin (surs.foldl (RequestSort.see currentTime) s).csr s.csr := by
  intro surs
  induction surs with
  | nil => intro s id info hentry; exact hentry
  | cons sur rest ih =>
      intro s id info hentry
      have hstep := ih (s.see currentTime sur) id info hentry
      unfold RequestSort.see at hstep
      split at hstep
      · exact resetBackoff_within s.csr sur.nodeGroupName id info hstep
      split at hstep
      · exact hstep
      · exact hstep

/-- Before the calls an update only drops backoff information. -/
theorem sortScaleUps_within (csr : ClusterStateRegistry) (currentTime : Time) :
    BackoffWithin (csr.sortScaleUps currentTime).csr csr := by
  intro id info hentry
  exact cleanBackoff_within csr currentTime id info
    (foldl_see_within currentTime csr.scaleUpRequests _ id info hentry)

end ClusterStateRegistry

section

variable {W : Type} {h : ApiService W}

/-- An update that observes the cluster: its calls are those of the timed-out requests, from
a registry that has at most the backoff information of before, and nothing follows them. -/
theorem RegistryOp.updateNodes_applied (csr : ClusterStateRegistry) (nodes : List Node)
    (currentTime : Time) (m : Machine W) {targets : String → Option Int}
    {missing : List UnregisteredNode} {seen : ClusterStateRegistry}
    (hobserve : ((csr.observe nodes currentTime).exec h m).val = .ok (targets, missing, seen)) :
    ∃ first last, BackoffWithin first csr ∧
      Applied first (calls h csr m (.updateNodes nodes currentTime)) last ∧
      BackoffWithin ((run csr (.updateNodes nodes currentTime)).exec h m).val last := by
  have hcalls : calls h csr m (.updateNodes nodes currentTime) =
      timedOutCalls currentTime (seen.sortScaleUps currentTime).timedOutSur
        (seen.sortScaleUps currentTime).csr := by
    simp [calls, hobserve]
  rw [hcalls]
  refine ⟨_, _, ?_, timedOutCalls_applied currentTime _ _, ?_⟩
  · intro id info hentry
    rw [← ClusterStateRegistry.observe_backoff csr nodes currentTime m hobserve]
    exact seen.sortScaleUps_within currentTime id info hentry
  · have hval : ((run csr (.updateNodes nodes currentTime)).exec h m).val =
        ((csr.updateNodes nodes currentTime).exec h m).val.1 := by
      simp [run]
    obtain ⟨-, hafter⟩ := ClusterStateRegistry.updateNodes_ok csr nodes currentTime m hobserve
    intro id info hentry
    rw [hval, hafter.backoff] at hentry
    exact hentry

/-- One operation. -/
theorem RegistryOp.calls_sane (op : RegistryOp) (csr : ClusterStateRegistry) (m : Machine W)
    {later : List Time}
    (hsane : BackoffSane ((op.calls h csr m).map BackoffCall.currentTime ++ later) csr)
    (htimes : ((op.calls h csr m).map BackoffCall.currentTime ++ later).Pairwise (· ≤ ·)) :
    (∀ call ∈ op.calls h csr m, BackoffSane [call.currentTime] call.csr) ∧
      BackoffSane later ((op.run csr).exec h m).val := by
  cases op with
  | registerScaleUp request => exact ⟨by simp [calls], hsane⟩
  | registerScaleDown request => exact ⟨by simp [calls], hsane⟩
  | registerFailedScaleUp name =>
      have happlied : Applied csr [⟨csr, name, (h m.world .now).1⟩]
          ((csr.registerFailedScaleUp name).exec h m).val := .call csr name _ (.done _)
      exact happlied.sane hsane htimes
  | updateNodes nodes currentTime =>
      cases hobserve : ((csr.observe nodes currentTime).exec h m).val with
      | error err =>
          -- the observation failed: no call, and the registry is as it was
          have hcalls : calls h csr m (.updateNodes nodes currentTime) = [] := by
            simp [calls, hobserve]
          have hval : ((run csr (.updateNodes nodes currentTime)).exec h m).val = csr := by
            simp [run, ClusterStateRegistry.updateNodes_error csr nodes currentTime m hobserve]
          rw [hcalls] at hsane ⊢
          rw [hval]
          exact ⟨by simp, hsane⟩
      | ok seeing =>
          obtain ⟨first, last, hfirst, happlied, hlast⟩ :=
            updateNodes_applied csr nodes currentTime m hobserve
          obtain ⟨hcalls, hdone⟩ :=
            happlied.sane (hsane.mono hfirst fun _ ht => ht) htimes
          exact ⟨hcalls, hdone.mono hlast fun _ ht => ht⟩

/-- A whole run. -/
theorem backoffCalls_sane :
    ∀ (ops : List RegistryOp) (csr : ClusterStateRegistry) (m : Machine W),
    BackoffSane ((backoffCalls h csr ops m).map BackoffCall.currentTime) csr →
    ((backoffCalls h csr ops m).map BackoffCall.currentTime).Pairwise (· ≤ ·) →
    ∀ call ∈ backoffCalls h csr ops m, BackoffSane [call.currentTime] call.csr := by
  intro ops
  induction ops with
  | nil => intro csr m _ _ call hcall; simp [backoffCalls] at hcall
  | cons op rest ih =>
      intro csr m hsane htimes call hcall
      rw [backoffCalls, List.map_append] at hsane htimes
      obtain ⟨hcalls, hafter⟩ := op.calls_sane csr m hsane htimes
      rcases List.mem_append.mp hcall with hcall | hcall
      · exact hcalls call hcall
      · exact ih _ _ hafter (List.pairwise_append.mp htimes).2.1 call hcall

end

/-! ## The result -/

/-- A sane backoff that has not ended is not weakened exactly if it is the first. -/
theorem BackoffCall.notWeaker_iff {call : BackoffCall}
    (hsane : BackoffSane [call.currentTime] call.csr) : call.NotWeaker ↔ call.FirstBackoff := by
  refine forall_congr' fun old => forall_congr' fun hold => forall_congr' fun hstill => ?_
  obtain ⟨hduration, huntil, hlast⟩ := hsane call.nodeGroupName old hold
  have hbefore : call.csr.nodeGroupBackoffInfo call.nodeGroupName = some old := hold
  -- still in backoff: the duration starts over
  have hafter : call.after = some ⟨initialNodeGroupBackoffDuration,
      call.currentTime + initialNodeGroupBackoffDuration, call.currentTime⟩ := by
    rw [after, result, ClusterStateRegistry.backoffNodeGroup_self,
      ClusterStateRegistry.backoffDuration, hbefore]
    simp [hstill]
  have hlast' : old.lastFailedScaleUp ≤ call.currentTime := hlast _ (by simp)
  constructor
  · -- not shorter than the old duration, which is never below the initial one
    rintro ⟨new, hnew, hlonger, -⟩
    rw [hafter, Option.some.injEq] at hnew
    rw [← hnew] at hlonger
    exact Int.le_antisymm hlonger hduration
  · -- the same duration, counted from a later failure
    intro hfirst
    refine ⟨_, hafter, Int.le_of_eq hfirst, ?_⟩
    rw [huntil, hfirst]
    exact Int.add_le_add_right hlast' _

/-- In a run from the new registry, with times that do not decrease, no failure weakens a
backoff exactly if every failure during a backoff falls into the first one, whose
duration has not been raised. -/
theorem backoff_never_weakens_iff {W : Type} (h : ApiService W) (ops : List RegistryOp)
    (m : Machine W)
    (htimes : ((backoffCalls h newClusterStateRegistry ops m).map
      BackoffCall.currentTime).Pairwise (· ≤ ·)) :
    (∀ call ∈ backoffCalls h newClusterStateRegistry ops m, call.NotWeaker) ↔
      ∀ call ∈ backoffCalls h newClusterStateRegistry ops m, call.FirstBackoff := by
  have hsane := backoffCalls_sane ops newClusterStateRegistry m (backoffSane_new _) htimes
  constructor
  · intro hall call hcall
    exact (BackoffCall.notWeaker_iff (hsane call hcall)).mp (hall call hcall)
  · intro hall call hcall
    exact (BackoffCall.notWeaker_iff (hsane call hcall)).mpr (hall call hcall)

/-- Two failures at once, in a group that had none before. -/
theorem backoff_never_weakens_sample :
    let calls := backoffCalls Cluster.sample.service newClusterStateRegistry
      [.registerFailedScaleUp "g", .registerFailedScaleUp "g"] sampleMachine
    calls.map BackoffCall.after =
        [some ⟨5 * minute, 5 * minute, 0⟩, some ⟨5 * minute, 5 * minute, 0⟩] ∧
      ∀ call ∈ calls, call.NotWeaker := by
  intro calls
  refine ⟨by decide, ?_⟩
  refine (backoff_never_weakens_iff Cluster.sample.service
    [.registerFailedScaleUp "g", .registerFailedScaleUp "g"] sampleMachine
    (by decide)).mpr ?_
  intro call hcall old hold hstill
  have hshort : ∀ call ∈ calls, ∀ old ∈ call.before.toList,
      old.duration = initialNodeGroupBackoffDuration := by decide
  exact hshort call hcall old (by simp [hold])

/-- A failure at 0 and, six minutes later, two scale-ups that time out. -/
def overlappingFailures (timedOut : List ScaleUpRequest) : List RegistryOp :=
  .registerFailedScaleUp "g" :: timedOut.map .registerScaleUp ++ [.updateNodes [] (6 * minute)]

/-- The first of the two scale-ups that time out together doubles the backoff to ten
minutes, the second cuts it back to five: the group is released at minute 11, and
not at minute 16 as after the first alone. -/
theorem backoff_weakened_by_second_failure :
    let request : ScaleUpRequest := ⟨"g", 0, minute, 1⟩
    let both := backoffCalls Cluster.sample.service newClusterStateRegistry
      (overlappingFailures [request, request]) sampleMachine
    let one := backoffCalls Cluster.sample.service newClusterStateRegistry
      (overlappingFailures [request]) sampleMachine
    (both.map BackoffCall.currentTime).Pairwise (· ≤ ·) ∧
      both.map BackoffCall.before = [none, some ⟨5 * minute, 5 * minute, 0⟩,
        some ⟨10 * minute, 16 * minute, 6 * minute⟩] ∧
      both.map BackoffCall.after = [some ⟨5 * minute, 5 * minute, 0⟩,
        some ⟨10 * minute, 16 * minute, 6 * minute⟩, some ⟨5 * minute, 11 * minute, 6 * minute⟩] ∧
      one.map BackoffCall.after = [some ⟨5 * minute, 5 * minute, 0⟩,
        some ⟨10 * minute, 16 * minute, 6 * minute⟩] ∧
      ¬∀ call ∈ both, call.NotWeaker := by
  intro request both one
  refine ⟨by decide, by decide, by decide, by decide, ?_⟩
  intro hall
  have hsecond : ∃ call ∈ both, call.before = some ⟨10 * minute, 16 * minute, 6 * minute⟩ ∧
      call.after = some ⟨5 * minute, 11 * minute, 6 * minute⟩ ∧
      call.currentTime = 6 * minute := by decide
  obtain ⟨call, hcall, hbefore, hafter, htime⟩ := hsecond
  obtain ⟨new, hnew, hduration, -⟩ := hall call hcall _ hbefore (by rw [htime]; decide)
  rw [hafter, Option.some.injEq] at hnew
  rw [← hnew] at hduration
  exact absurd hduration (by decide)

end AutoNodeRepair
