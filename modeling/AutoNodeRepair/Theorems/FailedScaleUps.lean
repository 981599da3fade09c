import AutoNodeRepair.Logic.BackoffRecord
import AutoNodeRepair.Theorems.Backoff

/-!
# Which groups back off, and for how long

One `updateScaleRequests` backs off exactly the groups whose scale-ups have all timed
out, in whatever order the requests were made. Over a run, the backoff of a group is
that of `Retry`: what the operations do to it is a list of events (`groupEvents`),
and the calls of `backoffNodeGroup` for the group are the failures among them.
-/

namespace AutoNodeRepair

open Interact Retry

/-! ## Calls as failures -/

/-- The record the call leaves. -/
def BackoffCall.record (call : BackoffCall) : Record :=
  backoffPolicy.fail call.currentTime (call.csr.record call.nodeGroupName)

theorem BackoffCall.after_eq (call : BackoffCall) :
    call.after = some (ScaleUpBackoff.ofRecord call.record) := by
  refine ClusterStateRegistry.record_eq_some.mp ?_
  rw [result, ClusterStateRegistry.record_backoffNodeGroup, if_pos rfl]
  rfl

/-- The calls for one group. -/
def callsFor (id : String) (calls : List BackoffCall) : List BackoffCall :=
  calls.filter fun call => call.nodeGroupName == id

theorem timedOutCalls_record (currentTime : Time) (id : String) (surs : List ScaleUpRequest)
    (csr : ClusterStateRegistry) :
    (callsFor id (timedOutCalls currentTime surs csr)).map BackoffCall.record =
      backoffPolicy.failed (csr.record id) (List.replicate
        (if csr.isNodeGroupScalingUp id then 0
          else surs.countP fun sur => sur.nodeGroupName == id) (.failure currentTime)) := by
  induction surs generalizing csr with
  | nil => simp [timedOutCalls, callsFor, Policy.failed]
  | cons sur rest ih =>
      have hscaling : ∀ name, (csr.backoffNodeGroup sur.nodeGroupName
          currentTime).isNodeGroupScalingUp name = csr.isNodeGroupScalingUp name := fun _ => rfl
      simp only [timedOutCalls, List.countP_cons]
      by_cases hid : sur.nodeGroupName = id
      · subst hid
        cases hup : csr.isNodeGroupScalingUp sur.nodeGroupName with
        | true => simpa [hup] using ih csr
        | false =>
            have hrest := ih (csr.backoffNodeGroup sur.nodeGroupName currentTime)
            rw [hscaling, hup, ClusterStateRegistry.record_backoffNodeGroup, if_pos rfl] at hrest
            simpa [callsFor, List.replicate_succ, Policy.failed, BackoffCall.record] using hrest
      · have hne : (sur.nodeGroupName == id) = false := beq_eq_false_iff_ne.mpr hid
        simp only [hne, Bool.false_eq_true, if_false, Nat.add_zero]
        split
        · rw [callsFor, List.filter_cons_of_neg (by simpa using hid)]
          refine (ih _).trans ?_
          rw [hscaling, ClusterStateRegistry.record_backoffNodeGroup, if_neg (Ne.symm hid)]
        · exact ih csr

namespace ClusterStateRegistry

section

variable (csr : ClusterStateRegistry) (currentTime : Time) (id : String)

/-- The calls of one update for the group are its failures. -/
theorem sortScaleUps_calls_record :
    (callsFor id (timedOutCalls currentTime (csr.sortScaleUps currentTime).timedOutSur
      (csr.sortScaleUps currentTime).csr)).map BackoffCall.record =
      backoffPolicy.failed (csr.record id) (csr.updateEvents currentTime id) := by
  have hbefore : backoffPolicy.failed (csr.record id) (.sweep currentTime ::
      if csr.scaleUpFinished id then [.success] else []) = [] := by
    cases csr.scaleUpFinished id <;> rfl
  rw [timedOutCalls_record, failedScaleUps_eq, record_sortScaleUps, updateEvents,
    ← List.cons_append, Policy.failed_append, hbefore, List.nil_append]

/-! ## One update -/

/-- The group still has upcoming nodes, it has requests, and all of them have timed out. -/
def ScaleUpFailed : Prop :=
  csr.areThereUpcomingNodesInNodeGroup id = true ∧
    (∃ sur ∈ csr.scaleUpRequests,
      sur.nodeGroupName = id ∧ ¬currentTime < sur.expectedAddTime) ∧
    ∀ sur ∈ csr.scaleUpRequests, sur.nodeGroupName = id → ¬currentTime < sur.expectedAddTime

theorem failedScaleUps_pos :
    0 < csr.failedScaleUps currentTime id ↔ csr.ScaleUpFailed currentTime id := by
  unfold failedScaleUps ScaleUpFailed
  cases csr.areThereUpcomingNodesInNodeGroup id with
  | false => simp
  | true =>
      cases hpending : csr.scaleUpRequests.any fun sur =>
          sur.nodeGroupName == id && decide (currentTime < sur.expectedAddTime) with
      | true =>
          obtain ⟨sur, hsur, hlater⟩ := List.any_eq_true.mp hpending
          simp only [Bool.and_eq_true, beq_iff_eq, decide_eq_true_eq] at hlater
          simp only [Bool.not_true, Bool.and_false, Bool.false_eq_true, if_false, Nat.lt_irrefl,
            true_and, false_iff]
          exact fun hfailed => hfailed.2 sur hsur hlater.1 hlater.2
      | false =>
          have hdue : ∀ sur ∈ csr.scaleUpRequests, sur.nodeGroupName = id →
              ¬currentTime < sur.expectedAddTime := by
            intro sur hsur hid
            simpa [hid] using List.any_eq_false.mp hpending sur hsur
          simp only [Bool.not_false, Bool.and_true, if_true, List.countP_pos_iff, beq_iff_eq,
            true_and]
          constructor
          · rintro ⟨sur, hsur, hid⟩
            exact ⟨⟨sur, hsur, hid, hdue sur hsur hid⟩, hdue⟩
          · rintro ⟨⟨sur, hsur, hid, -⟩, -⟩
            exact ⟨sur, hsur, hid⟩

/-- An update makes a call for the group. -/
def RecordsFailure : Prop :=
  ∃ call ∈ timedOutCalls currentTime (csr.sortScaleUps currentTime).timedOutSur
    (csr.sortScaleUps currentTime).csr, call.nodeGroupName = id

theorem recordsFailure_iff :
    csr.RecordsFailure currentTime id ↔ csr.ScaleUpFailed currentTime id := by
  have hcalls := csr.sortScaleUps_calls_record currentTime id
  rw [← failedScaleUps_pos]
  constructor
  · rintro ⟨call, hcall, hid⟩
    have hmem : call ∈ callsFor id (timedOutCalls currentTime
        (csr.sortScaleUps currentTime).timedOutSur (csr.sortScaleUps currentTime).csr) :=
      List.mem_filter.mpr ⟨hcall, by simpa using hid⟩
    have hfailed := List.mem_map_of_mem (f := BackoffCall.record) hmem
    rw [hcalls] at hfailed
    have hevent := Policy.last_of_mem_failed _ _ hfailed
    have hn : csr.failedScaleUps currentTime id ≠ 0 := by
      intro hzero
      cases hfin : csr.scaleUpFinished id <;> simp [updateEvents, hzero, hfin] at hevent
    exact Nat.pos_of_ne_zero hn
  · intro hn
    by_contra hnone
    have hempty : callsFor id (timedOutCalls currentTime
        (csr.sortScaleUps currentTime).timedOutSur (csr.sortScaleUps currentTime).csr) = [] := by
      refine List.filter_eq_nil_iff.mpr fun call hcall hid => hnone ⟨call, hcall, ?_⟩
      simpa using hid
    rw [hempty, List.map_nil, updateEvents, ← List.cons_append, Policy.failed_append] at hcalls
    obtain ⟨k, hk⟩ := Nat.exists_eq_succ_of_ne_zero (Nat.ne_of_gt hn)
    simp [hk, List.replicate_succ, Policy.failed] at hcalls

/-- The record of a group whose scale-up has failed. -/
theorem record_of_failed (hfailed : csr.ScaleUpFailed currentTime id) :
    ∃ r, (csr.updateScaleRequests currentTime).record id = some r ∧ r.last = currentTime := by
  rw [record_updateScaleRequests, updateEvents, ← List.cons_append, Policy.run_append]
  exact Policy.run_replicate_failure _ ((csr.failedScaleUps_pos currentTime id).mpr hfailed) _

/-- And of one whose scale-up has not. -/
theorem record_of_not_failed (hfailed : ¬csr.ScaleUpFailed currentTime id) :
    (csr.updateScaleRequests currentTime).record id =
      if csr.scaleUpFinished id then none
      else backoffPolicy.step (csr.record id) (.sweep currentTime) := by
  have hn : csr.failedScaleUps currentTime id = 0 :=
    Nat.eq_zero_of_not_pos fun hpos => hfailed ((csr.failedScaleUps_pos currentTime id).mp hpos)
  rw [record_updateScaleRequests, updateEvents, hn]
  cases csr.scaleUpFinished id <;> rfl

theorem scaleUpFinished_iff : csr.scaleUpFinished id = true ↔
    (∃ sur ∈ csr.scaleUpRequests, sur.nodeGroupName = id) ∧
      csr.areThereUpcomingNodesInNodeGroup id = false := by
  simp [scaleUpFinished]

end

/-- A record is dropped as stale, if no failure is recorded in its place, or because the
scale-up has finished. -/
theorem record_dropped_iff {csr : ClusterStateRegistry} {id : String} {old : ScaleUpBackoff}
    (hold : csr.nodeGroupBackoffInfo id = some old) (currentTime : Time) :
    (csr.updateScaleRequests currentTime).record id = none ↔
      (old.lastFailedScaleUp + nodeGroupBackoffResetTimeout < currentTime ∧
          ¬csr.ScaleUpFailed currentTime id) ∨
        csr.scaleUpFinished id = true := by
  by_cases hfailed : csr.ScaleUpFailed currentTime id
  · -- the group has upcoming nodes, so its scale-up has not finished either
    obtain ⟨r, hrecord, -⟩ := csr.record_of_failed currentTime id hfailed
    have hunfinished : csr.scaleUpFinished id = false := by simp [scaleUpFinished, hfailed.1]
    simp [hrecord, hfailed, hunfinished]
  · have hbefore : csr.record id = some old.record := by simp [record, hold]
    rw [csr.record_of_not_failed currentTime id hfailed, hbefore]
    cases csr.scaleUpFinished id with
    | true => simp
    | false => simp [hfailed, Policy.step_sweep, ScaleUpBackoff.record, backoffPolicy]

/-- The requests make a list of events, but their order does not. -/
theorem updateEvents_perm (csr : ClusterStateRegistry) (currentTime : Time)
    {surs : List ScaleUpRequest} (hperm : surs.Perm csr.scaleUpRequests) (id : String) :
    ({ csr with scaleUpRequests := surs } : ClusterStateRegistry).updateEvents currentTime id =
      csr.updateEvents currentTime id := by
  have hfinished : ({ csr with scaleUpRequests := surs } :
      ClusterStateRegistry).scaleUpFinished id = csr.scaleUpFinished id :=
    congrArg (· && !csr.areThereUpcomingNodesInNodeGroup id) hperm.any_eq
  have hfailed : ({ csr with scaleUpRequests := surs } :
      ClusterStateRegistry).failedScaleUps currentTime id = csr.failedScaleUps currentTime id := by
    unfold failedScaleUps
    rw [hperm.any_eq, hperm.countP_eq]
    rfl
  rw [updateEvents, hfinished, hfailed, updateEvents]

/-- So the order does not matter for the records; the requests that stay, stay in theirs. -/
theorem updateScaleRequests_perm (csr : ClusterStateRegistry) (currentTime : Time)
    {surs : List ScaleUpRequest} (hperm : surs.Perm csr.scaleUpRequests) :
    let after := csr.updateScaleRequests currentTime
    let after' := ({ csr with scaleUpRequests := surs } :
      ClusterStateRegistry).updateScaleRequests currentTime
    after'.nodeGroupBackoffInfo = after.nodeGroupBackoffInfo ∧
      after'.scaleDownRequests = after.scaleDownRequests ∧
      ∃ keep, after.scaleUpRequests = csr.scaleUpRequests.filter keep ∧
        after'.scaleUpRequests = surs.filter keep := by
  intro after after'
  obtain ⟨info, hafter⟩ := csr.updateScaleRequests_eq currentTime
  obtain ⟨info', hafter'⟩ :=
    ({ csr with scaleUpRequests := surs } : ClusterStateRegistry).updateScaleRequests_eq currentTime
  refine ⟨?_, ?_, _, congrArg _ hafter, congrArg _ hafter'⟩
  · funext id
    rw [nodeGroupBackoffInfo_eq_iff, record_updateScaleRequests, record_updateScaleRequests,
      csr.updateEvents_perm currentTime hperm]
    rfl
  · exact (congrArg ClusterStateRegistry.scaleDownRequests hafter').trans
      (congrArg ClusterStateRegistry.scaleDownRequests hafter).symm

end ClusterStateRegistry

/-- **Exactly the failed groups back off.** An update records a failure for a group
iff the group has upcoming nodes and requests, all of them timed out; it drops the record
of a group iff the record is stale and no failure is recorded, or if the group's scale-up
has finished. The order of the requests does not matter. -/
theorem updateScaleRequests_backs_off (csr : ClusterStateRegistry) (now : Time) (id : String) :
    let after := csr.updateScaleRequests now
    (csr.RecordsFailure now id ↔ csr.ScaleUpFailed now id) ∧
    (csr.RecordsFailure now id →
      ∃ info, after.nodeGroupBackoffInfo id = some info ∧ info.lastFailedScaleUp = now) ∧
    (¬csr.RecordsFailure now id →
      after.nodeGroupBackoffInfo id = csr.nodeGroupBackoffInfo id ∨
        after.nodeGroupBackoffInfo id = none) ∧
    (∀ old, csr.nodeGroupBackoffInfo id = some old →
      (after.nodeGroupBackoffInfo id = none ↔
        (old.lastFailedScaleUp + nodeGroupBackoffResetTimeout < now ∧
            ¬csr.RecordsFailure now id) ∨
          ((∃ sur ∈ csr.scaleUpRequests, sur.nodeGroupName = id) ∧
            csr.areThereUpcomingNodesInNodeGroup id = false))) ∧
    ∀ surs, surs.Perm csr.scaleUpRequests →
      let after' := ({ csr with scaleUpRequests := surs } :
        ClusterStateRegistry).updateScaleRequests now
      after'.nodeGroupBackoffInfo = after.nodeGroupBackoffInfo ∧
        after'.scaleDownRequests = after.scaleDownRequests ∧
        ∃ keep, after.scaleUpRequests = csr.scaleUpRequests.filter keep ∧
          after'.scaleUpRequests = surs.filter keep := by
  intro after
  rw [ClusterStateRegistry.recordsFailure_iff]
  refine ⟨Iff.rfl, ?_, ?_, ?_, ?_⟩
  · intro hfailed
    obtain ⟨r, hrecord, hlast⟩ := csr.record_of_failed now id hfailed
    exact ⟨_, ClusterStateRegistry.record_eq_some.mp hrecord, hlast⟩
  · intro hfailed
    have hrecord := csr.record_of_not_failed now id hfailed
    rw [ClusterStateRegistry.nodeGroupBackoffInfo_eq_iff, ← ClusterStateRegistry.record_eq_none,
      hrecord]
    split
    · exact .inr rfl
    cases csr.record id with
    | none => exact .inl rfl
    | some r =>
        rw [Policy.step_sweep]
        split
        · exact .inr rfl
        · exact .inl rfl
  · intro old hold
    rw [← csr.scaleUpFinished_iff, ← ClusterStateRegistry.record_eq_none]
    exact ClusterStateRegistry.record_dropped_iff hold now
  · exact fun surs hperm => csr.updateScaleRequests_perm now hperm

/-- Two groups wait for nodes; for `k` another scale-up goes on. -/
def waitingRegistry : ClusterStateRegistry where
  scaleUpRequests := [⟨"g", 0, minute, 1⟩, ⟨"k", 0, minute, 1⟩, ⟨"k", 0, 10 * minute, 1⟩]
  acceptableRanges := fun id => if id ∈ ["g", "k"] then some ⟨1, 2, 2⟩ else none
  nodeGroupBackoffInfo := fun id =>
    if id ∈ ["g", "k"] then some ⟨5 * minute, 5 * minute, 0⟩ else none

/-- The backoff of `g` starts anew, that of `k` stays, also if the requests come the other
way round. -/
theorem updateScaleRequests_backs_off_sample :
    let after := waitingRegistry.updateScaleRequests (6 * minute)
    (∃ info, after.nodeGroupBackoffInfo "g" = some info ∧ info.lastFailedScaleUp = 6 * minute) ∧
      after.nodeGroupBackoffInfo "k" = some ⟨5 * minute, 5 * minute, 0⟩ ∧
      (({ waitingRegistry with scaleUpRequests := waitingRegistry.scaleUpRequests.reverse } :
        ClusterStateRegistry).updateScaleRequests (6 * minute)).nodeGroupBackoffInfo =
          after.nodeGroupBackoffInfo := by
  intro after
  obtain ⟨hg, hrecorded, -, -, hperm⟩ :=
    updateScaleRequests_backs_off waitingRegistry (6 * minute) "g"
  obtain ⟨hk, -, hkept, hdropped, -⟩ :=
    updateScaleRequests_backs_off waitingRegistry (6 * minute) "k"
  have hfailed : waitingRegistry.ScaleUpFailed (6 * minute) "g" := by
    unfold ClusterStateRegistry.ScaleUpFailed
    decide
  have hpending : ¬waitingRegistry.ScaleUpFailed (6 * minute) "k" := by
    unfold ClusterStateRegistry.ScaleUpFailed
    decide
  have hbefore : waitingRegistry.nodeGroupBackoffInfo "k" = some ⟨5 * minute, 5 * minute, 0⟩ := by
    decide
  refine ⟨hrecorded (hg.mpr hfailed), ?_, (hperm _ (List.reverse_perm _)).1⟩
  rcases hkept fun hk' => hpending (hk.mp hk') with hsame | hnone
  · exact hsame.trans hbefore
  · -- neither stale nor finished
    rcases (hdropped _ hbefore).mp hnone with ⟨hstale, -⟩ | ⟨-, hdone⟩
    · exact absurd hstale (by decide)
    · exact absurd hdone (by decide)

/-! ## Runs -/

/-- The operations of a run, one after the other. -/
def RegistryOp.runAll (csr : ClusterStateRegistry) : List RegistryOp → Ctl ClusterStateRegistry
  | [] => return csr
  | op :: rest => do
      let csr ← op.run csr
      runAll csr rest

section

variable {W : Type} (h : ApiService W)

/-- What an operation does to the record of a group. -/
def RegistryOp.events (csr : ClusterStateRegistry) (m : Machine W) (id : String) :
    RegistryOp → List Event
  | .registerScaleUp _ | .registerScaleDown _ => []
  | .registerFailedScaleUp nodeGroupName =>
      if nodeGroupName = id then [.failure (h m.world .now).1] else []
  | .updateNodes nodes currentTime =>
      match ((csr.observe nodes currentTime).exec h m).val with
      | .error _ => []
      | .ok (_, _, seen) => seen.updateEvents currentTime id

/-- What a run does to it. -/
def groupEvents (id : String) : ClusterStateRegistry → List RegistryOp → Machine W → List Event
  | _, [], _ => []
  | csr, op :: rest, m =>
      op.events h csr m id ++
        groupEvents id ((op.run csr).exec h m).val rest ((op.run csr).exec h m).mach

variable {h}

/-- One operation is its events. -/
theorem RegistryOp.events_refine (op : RegistryOp) (csr : ClusterStateRegistry) (m : Machine W)
    (id : String) :
    ((op.run csr).exec h m).val.record id =
        backoffPolicy.run (csr.record id) (op.events h csr m id) ∧
      (callsFor id (op.calls h csr m)).map BackoffCall.record =
        backoffPolicy.failed (csr.record id) (op.events h csr m id) := by
  cases op with
  | registerScaleUp request => exact ⟨rfl, rfl⟩
  | registerScaleDown request => exact ⟨rfl, rfl⟩
  | registerFailedScaleUp name =>
      have hval : ((run csr (.registerFailedScaleUp name)).exec h m).val =
          csr.backoffNodeGroup name (h m.world .now).1 := rfl
      rw [hval, ClusterStateRegistry.record_backoffNodeGroup]
      by_cases hid : name = id
      · subst hid
        simp [events, calls, callsFor, Policy.failed, BackoffCall.record]
      · simp [events, calls, callsFor, Policy.failed, hid, Ne.symm hid]
  | updateNodes nodes currentTime =>
      cases hobserve : ((csr.observe nodes currentTime).exec h m).val with
      | error err =>
          -- the registry is as it was
          have hval : ((run csr (.updateNodes nodes currentTime)).exec h m).val = csr := by
            simp [run, ClusterStateRegistry.updateNodes_error csr nodes currentTime m hobserve]
          simp [events, calls, hobserve, hval, callsFor, Policy.failed]
      | ok seeing =>
          obtain ⟨targets, missing, seen⟩ := seeing
          obtain ⟨-, hafter⟩ :=
            ClusterStateRegistry.updateNodes_ok csr nodes currentTime m hobserve
          -- the observation leaves the records alone, and so does what follows the requests
          have hbefore : csr.record id = seen.record id := by
            rw [ClusterStateRegistry.record, ClusterStateRegistry.record,
              ClusterStateRegistry.observe_backoff csr nodes currentTime m hobserve]
          have hval : ((run csr (.updateNodes nodes currentTime)).exec h m).val.record id =
              (seen.updateScaleRequests currentTime).record id := by
            simp only [run, exec_bind, Outcome.after_val, exec_pure]
            rw [ClusterStateRegistry.record, hafter.backoff, ClusterStateRegistry.record]
          rw [hval, hbefore]
          simp only [events, calls, hobserve]
          exact ⟨seen.record_updateScaleRequests currentTime id,
            seen.sortScaleUps_calls_record currentTime id⟩

/-- And a run is those of its operations. -/
theorem groupEvents_refine (id : String) (ops : List RegistryOp) (csr : ClusterStateRegistry)
    (m : Machine W) :
    ((RegistryOp.runAll csr ops).exec h m).val.record id =
        backoffPolicy.run (csr.record id) (groupEvents h id csr ops m) ∧
      (callsFor id (backoffCalls h csr ops m)).map BackoffCall.record =
        backoffPolicy.failed (csr.record id) (groupEvents h id csr ops m) := by
  induction ops generalizing csr m with
  | nil => exact ⟨rfl, rfl⟩
  | cons op rest ih =>
      obtain ⟨hrecord, hcalls⟩ := op.events_refine (h := h) csr m id
      obtain ⟨hrestRecord, hrestCalls⟩ :=
        ih ((op.run csr).exec h m).val ((op.run csr).exec h m).mach
      constructor
      · rw [groupEvents, Policy.run_append, ← hrecord, ← hrestRecord]
        simp [RegistryOp.runAll]
      · rw [groupEvents, Policy.failed_append, ← hrecord, ← hcalls, ← hrestCalls, ← List.map_append]
        simp [backoffCalls, callsFor]

end

/-- The second failure comes after the backoff of the first has ended, but before the
record is stale. -/
def BackoffCall.Follows (call call' : BackoffCall) : Prop :=
  ∃ info ∈ call.after, info.backoffUntil < call'.currentTime ∧
    call'.currentTime ≤ call.currentTime + nodeGroupBackoffResetTimeout

instance : DecidableRel BackoffCall.Follows := fun call call' =>
  inferInstanceAs (Decidable (∃ info ∈ call.after, info.backoffUntil < call'.currentTime ∧
    call'.currentTime ≤ call.currentTime + nodeGroupBackoffResetTimeout))

theorem BackoffCall.follows_iff (call call' : BackoffCall) :
    call.Follows call' ↔ backoffPolicy.Follows call.record call'.record := by
  unfold Follows
  rw [call.after_eq]
  simp only [Option.mem_def, Option.some.injEq, exists_eq_left']
  rfl

/-- **The backoff law.** A group without a record fails `k` times, each time after the
last backoff has ended and before its record is stale, and no scale-up of it finishes
from its first failure on. Then, until the record may be dropped as stale, the group has the
backoff of its last failure, whose duration has doubled with every failure but the first,
and is not safe to scale up before that has ended. -/
theorem backoff_doubles {W : Type} (h : ApiService W) (csr : ClusterStateRegistry)
    (ops : List RegistryOp) (m : Machine W) (id : String)
    (hnone : csr.nodeGroupBackoffInfo id = none)
    (hspaced : (callsFor id (backoffCalls h csr ops m)).IsChain BackoffCall.Follows)
    (htimes : ((groupEvents h id csr ops m).filterMap Event.time).Pairwise (· ≤ ·))
    (hunfinished : ∀ before after, groupEvents h id csr ops m = before ++ .success :: after →
      ∀ t, .failure t ∉ before)
    {last : BackoffCall} (hlast : (callsFor id (backoffCalls h csr ops m)).getLast? = some last)
    (hkept : ∀ t ∈ (groupEvents h id csr ops m).filterMap Event.time,
      t ≤ last.currentTime + nodeGroupBackoffResetTimeout) :
    let k := (callsFor id (backoffCalls h csr ops m)).length
    let duration := min (initialNodeGroupBackoffDuration * 2 ^ (k - 1)) maxNodeGroupBackoffDuration
    let final := ((RegistryOp.runAll csr ops).exec h m).val
    final.nodeGroupBackoffInfo id =
        some ⟨duration, last.currentTime + duration, last.currentTime⟩ ∧
      ∀ config t, t ≤ last.currentTime + duration →
        final.isNodeGroupSafeToScaleUp config id t = false := by
  intro k duration final
  obtain ⟨hrecord, hcalls⟩ := groupEvents_refine (h := h) id ops csr m
  rw [ClusterStateRegistry.record_eq_none.mpr hnone] at hrecord hcalls
  -- the calls, seen as failures, meet the conditions of the law
  have hchain : (backoffPolicy.failed none (groupEvents h id csr ops m)).IsChain
      backoffPolicy.Follows := by
    rw [← hcalls, List.isChain_map]
    exact hspaced.imp fun call call' hfollows => (call.follows_iff call').mp hfollows
  have hlast' : (backoffPolicy.failed none (groupEvents h id csr ops m)).getLast? =
      some last.record := by
    rw [← hcalls, List.getLast?_map, hlast]
    rfl
  obtain ⟨hrun, hclosed⟩ := Policy.run_of_spaced (by decide) (by decide) _ hchain htimes
    hunfinished hlast' hkept
  rw [← hcalls, List.length_map] at hclosed
  have hinfo : final.nodeGroupBackoffInfo id =
      some ⟨duration, last.currentTime + duration, last.currentTime⟩ := by
    rw [hrun, hclosed] at hrecord
    exact ClusterStateRegistry.record_eq_some.mp hrecord
  refine ⟨hinfo, ?_⟩
  intro config t ht
  unfold ClusterStateRegistry.isNodeGroupSafeToScaleUp
  rw [hinfo]
  split
  · rfl
  · exact decide_eq_false (Int.not_lt.mpr ht)

/-- A failure at 0 and a scale-up that times out at six minutes, when the first backoff has
ended; updates before and after change nothing. -/
def spacedFailures : List RegistryOp :=
  [.registerFailedScaleUp "g", .updateNodes [] (3 * minute), .registerScaleUp ⟨"g", 0, minute, 1⟩,
    .updateNodes [] (6 * minute), .updateNodes [] (10 * minute)]

/-- The second backoff is twice as long as the first. -/
theorem backoff_doubles_sample :
    ∃ final, ((RegistryOp.runAll newClusterStateRegistry spacedFailures).exec
        Cluster.sample.service sampleMachine).val = final ∧
      final.nodeGroupBackoffInfo "g" = some ⟨10 * minute, 16 * minute, 6 * minute⟩ ∧
      ∀ config, final.isNodeGroupSafeToScaleUp config "g" (16 * minute) = false := by
  have hlast : (callsFor "g" (backoffCalls Cluster.sample.service newClusterStateRegistry
      spacedFailures sampleMachine)).getLast?.map BackoffCall.currentTime = some (6 * minute) := by
    decide
  obtain ⟨last, hlast, htime⟩ := Option.map_eq_some_iff.mp hlast
  have hevents : groupEvents Cluster.sample.service "g" newClusterStateRegistry spacedFailures
      sampleMachine = [.failure 0, .sweep (3 * minute), .sweep (6 * minute),
        .failure (6 * minute), .sweep (10 * minute)] := by decide
  have hunfinished : .success ∉ groupEvents Cluster.sample.service "g" newClusterStateRegistry
      spacedFailures sampleMachine := by
    rw [hevents]
    decide
  obtain ⟨hinfo, hunsafe⟩ := backoff_doubles Cluster.sample.service newClusterStateRegistry
    spacedFailures sampleMachine "g" rfl (by decide) (by rw [hevents]; decide)
    (fun before after hsplit => absurd (by simp [hsplit]) hunfinished) hlast
    (by rw [hevents, htime]; decide)
  have htwo : (callsFor "g" (backoffCalls Cluster.sample.service newClusterStateRegistry
      spacedFailures sampleMachine)).length = 2 := by decide
  rw [htwo, htime] at hinfo hunsafe
  exact ⟨_, rfl, hinfo, fun config => hunsafe config _ (by decide)⟩

end AutoNodeRepair
