import AutoNodeRepair.Logic.Registry
import AutoNodeRepair.Retry.Backoff

/-!
# The backoff record of a group

Each group's entry of `nodeGroupBackoffInfo` is a `Retry.Record`, and what the
registry does to it is a sequence of `Retry.Event`s: `backoffNodeGroup` is a
failure, the loop that drops stale entries a sweep, a finished scale-up a success.
`updateEvents` says which of them one `updateScaleRequests` amounts to, group by
group, and `record_updateScaleRequests` that it amounts to nothing else.
-/

namespace AutoNodeRepair

open Retry

/-- The constants of the registry. -/
def backoffPolicy : Policy where
  initial := initialNodeGroupBackoffDuration
  cap := maxNodeGroupBackoffDuration
  reset := nodeGroupBackoffResetTimeout

/-- The entry as a record. -/
def ScaleUpBackoff.record (info : ScaleUpBackoff) : Record :=
  ⟨info.duration, info.backoffUntil, info.lastFailedScaleUp⟩

/-- And back. -/
def ScaleUpBackoff.ofRecord (r : Record) : ScaleUpBackoff :=
  ⟨r.duration, r.ends, r.last⟩

theorem ScaleUpBackoff.record_injective : Function.Injective ScaleUpBackoff.record := by
  rintro ⟨d, u, l⟩ ⟨d', u', l'⟩ heq
  simpa [ScaleUpBackoff.record] using heq

namespace ClusterStateRegistry

variable (csr : ClusterStateRegistry) (currentTime : Time)

/-- The record of a group. -/
def record (id : String) : Option Record :=
  (csr.nodeGroupBackoffInfo id).map ScaleUpBackoff.record

theorem nodeGroupBackoffInfo_eq_iff {csr csr' : ClusterStateRegistry} {id : String} :
    csr.nodeGroupBackoffInfo id = csr'.nodeGroupBackoffInfo id ↔ csr.record id = csr'.record id :=
  ⟨fun heq => congrArg _ heq, fun heq =>
    Option.map_injective ScaleUpBackoff.record_injective heq⟩

theorem record_eq_some {csr : ClusterStateRegistry} {id : String} {r : Record} :
    csr.record id = some r ↔
      csr.nodeGroupBackoffInfo id = some (ScaleUpBackoff.ofRecord r) := by
  unfold record
  cases csr.nodeGroupBackoffInfo id with
  | none => simp
  | some info =>
      obtain ⟨d, u, l⟩ := info
      obtain ⟨d', u', l'⟩ := r
      simp [ScaleUpBackoff.record, ScaleUpBackoff.ofRecord]

theorem record_eq_none {csr : ClusterStateRegistry} {id : String} :
    csr.record id = none ↔ csr.nodeGroupBackoffInfo id = none :=
  Option.map_eq_none_iff

theorem record_backoffNodeGroup (name id : String) :
    (csr.backoffNodeGroup name currentTime).record id =
      if id = name then backoffPolicy.step (csr.record id) (.failure currentTime)
      else csr.record id := by
  unfold record backoffNodeGroup
  by_cases hid : id = name
  · subst hid
    simp only [Function.update_self, if_true, Option.map_some, Policy.step, Policy.fail,
      ScaleUpBackoff.record, backoffDuration]
    cases csr.nodeGroupBackoffInfo id with
    | none => rfl
    | some info =>
        have hcap : (if 2 * info.duration > maxNodeGroupBackoffDuration then
            maxNodeGroupBackoffDuration else 2 * info.duration) =
            min (2 * info.duration) maxNodeGroupBackoffDuration := by
          simp only [Duration] at *
          split <;> omega
        simp only [Option.map_some, hcap]
        rfl
  · simp [hid]

theorem record_cleanBackoff (id : String) :
    (csr.cleanBackoff currentTime).record id =
      backoffPolicy.step (csr.record id) (.sweep currentTime) := by
  simp only [record, cleanBackoff]
  cases csr.nodeGroupBackoffInfo id with
  | none => rfl
  | some info =>
      by_cases hstale : info.lastFailedScaleUp + nodeGroupBackoffResetTimeout < currentTime
      · simp [Option.filter, Policy.step, ScaleUpBackoff.record, backoffPolicy, hstale]
      · simp [Option.filter, Policy.step, ScaleUpBackoff.record, backoffPolicy, hstale]

theorem record_resetBackoff (name id : String) :
    (csr.resetBackoff name).record id = if id = name then none else csr.record id := by
  unfold record resetBackoff
  by_cases hid : id = name
  · simp [hid]
  · simp [hid]

/-! ## One update -/

/-- The group has a scale-up and no upcoming nodes: it has finished. -/
def scaleUpFinished (id : String) : Bool :=
  (csr.scaleUpRequests.any fun sur => sur.nodeGroupName == id) &&
    !csr.areThereUpcomingNodesInNodeGroup id

/-- The scale-ups of the group that have failed at this time, if none of its scale-ups is
still going on. -/
def failedScaleUps (id : String) : Nat :=
  if csr.areThereUpcomingNodesInNodeGroup id && !csr.scaleUpRequests.any fun sur =>
      sur.nodeGroupName == id && decide (currentTime < sur.expectedAddTime) then
    csr.scaleUpRequests.countP fun sur => sur.nodeGroupName == id
  else 0

/-- What happens to the record of a group in `updateScaleRequests`. -/
def updateEvents (id : String) : List Event :=
  .sweep currentTime :: ((if csr.scaleUpFinished id then [.success] else []) ++
    List.replicate (csr.failedScaleUps currentTime id) (.failure currentTime))

/-- The loop over the scale-ups drops the records of those that have finished. -/
theorem record_foldl_see (id : String) (surs : List ScaleUpRequest) (s : RequestSort) :
    (surs.foldl (RequestSort.see currentTime) s).csr.record id =
      if (surs.any fun sur => sur.nodeGroupName == id) &&
          !s.csr.areThereUpcomingNodesInNodeGroup id then none
      else s.csr.record id := by
  induction surs generalizing s with
  | nil => simp
  | cons sur rest ih =>
      -- the answer is the same for the rest of the loop: only backoff information changes
      have hup : (s.see currentTime sur).csr.areThereUpcomingNodesInNodeGroup id =
          s.csr.areThereUpcomingNodesInNodeGroup id := by
        unfold RequestSort.see
        split
        · rfl
        split <;> rfl
      have hrecord : (s.see currentTime sur).csr.record id =
          if sur.nodeGroupName == id && !s.csr.areThereUpcomingNodesInNodeGroup id then none
          else s.csr.record id := by
        unfold RequestSort.see
        by_cases hid : sur.nodeGroupName = id
        · subst hid
          cases s.csr.areThereUpcomingNodesInNodeGroup sur.nodeGroupName with
          | false => simp [record_resetBackoff]
          | true =>
              simp only [Bool.not_true, Bool.false_eq_true, if_false, Bool.and_false]
              split <;> rfl
        · split
          · simp [record_resetBackoff, Ne.symm hid, hid]
          split <;> simp [hid]
      rw [List.foldl_cons, ih, hup, hrecord, List.any_cons]
      cases s.csr.areThereUpcomingNodesInNodeGroup id <;> cases sur.nodeGroupName == id <;>
        cases rest.any fun sur => sur.nodeGroupName == id <;> simp

/-- A timed out scale-up is a failure of its group, unless the group is scaling up. -/
theorem record_backoffTimedOut (id : String) (surs : List ScaleUpRequest)
    (csr : ClusterStateRegistry) :
    (backoffTimedOut currentTime surs csr).record id =
      backoffPolicy.run (csr.record id) (List.replicate
        (if csr.isNodeGroupScalingUp id then 0
          else surs.countP fun sur => sur.nodeGroupName == id) (.failure currentTime)) := by
  induction surs generalizing csr with
  | nil => simp [backoffTimedOut]
  | cons sur rest ih =>
      -- a backoff does not end the scale-ups that go on
      have hscaling : ∀ name, (csr.backoffNodeGroup sur.nodeGroupName
          currentTime).isNodeGroupScalingUp name = csr.isNodeGroupScalingUp name := fun _ => rfl
      simp only [backoffTimedOut, List.countP_cons]
      by_cases hid : sur.nodeGroupName = id
      · subst hid
        cases hup : csr.isNodeGroupScalingUp sur.nodeGroupName with
        | true => simp [ih, hup]
        | false =>
            simp only [Bool.not_false, if_true, ih, hscaling, hup, Bool.false_eq_true, if_false,
              record_backoffNodeGroup, beq_self_eq_true, List.replicate_succ, Policy.run_cons]
      · have hne : (sur.nodeGroupName == id) = false := beq_eq_false_iff_ne.mpr hid
        simp only [hne, Bool.false_eq_true, if_false, Nat.add_zero]
        split
        · rw [ih, hscaling, record_backoffNodeGroup, if_neg (Ne.symm hid)]
        · exact ih csr

/-- The requests that have timed out and are still there, sorted. -/
theorem sortScaleUps_eq :
    (csr.sortScaleUps currentTime).timedOutSur = csr.scaleUpRequests.filter (fun sur =>
        csr.areThereUpcomingNodesInNodeGroup sur.nodeGroupName &&
          !decide (currentTime < sur.expectedAddTime)) ∧
      (csr.sortScaleUps currentTime).csr.scaleUpRequests = csr.scaleUpRequests.filter (fun sur =>
        csr.areThereUpcomingNodesInNodeGroup sur.nodeGroupName &&
          decide (currentTime < sur.expectedAddTime)) ∧
      ∀ id, (csr.sortScaleUps currentTime).csr.areThereUpcomingNodesInNodeGroup id =
        csr.areThereUpcomingNodesInNodeGroup id := by
  obtain ⟨info, hsort⟩ := foldl_see currentTime csr.scaleUpRequests
    { csr := csr.cleanBackoff currentTime }
  unfold sortScaleUps
  rw [hsort]
  exact ⟨rfl, rfl, fun _ => rfl⟩

/-- The timed out scale-ups of a group count as failures unless another one goes on. -/
theorem failedScaleUps_eq (id : String) :
    (if (csr.sortScaleUps currentTime).csr.isNodeGroupScalingUp id then 0
      else (csr.sortScaleUps currentTime).timedOutSur.countP fun sur => sur.nodeGroupName == id) =
      csr.failedScaleUps currentTime id := by
  obtain ⟨htimedOut, hnew, hup⟩ := csr.sortScaleUps_eq currentTime
  have hscaling : (csr.sortScaleUps currentTime).csr.isNodeGroupScalingUp id =
      (csr.areThereUpcomingNodesInNodeGroup id && csr.scaleUpRequests.any fun sur =>
        sur.nodeGroupName == id && decide (currentTime < sur.expectedAddTime)) := by
    unfold isNodeGroupScalingUp
    rw [hup, hnew, List.any_filter]
    cases hupcoming : csr.areThereUpcomingNodesInNodeGroup id with
    | false => simp
    | true =>
        simp only [Bool.not_true, Bool.false_eq_true, if_false, Bool.true_and]
        refine congrArg (List.any csr.scaleUpRequests) (funext fun sur => ?_)
        by_cases hid : sur.nodeGroupName = id
        · simp [hid, hupcoming]
        · rw [beq_eq_false_iff_ne.mpr hid, Bool.and_false, Bool.false_and]
  rw [hscaling, htimedOut, List.countP_filter]
  unfold failedScaleUps
  -- where none goes on, all requests of the group have timed out
  cases hupcoming : csr.areThereUpcomingNodesInNodeGroup id with
  | false =>
      simp only [Bool.false_and, Bool.false_eq_true, if_false, List.countP_eq_zero]
      intro sur _
      by_cases hid : sur.nodeGroupName = id
      · simp [hid, hupcoming]
      · simp [hid]
  | true =>
      cases hpending : csr.scaleUpRequests.any fun sur =>
          sur.nodeGroupName == id && decide (currentTime < sur.expectedAddTime) with
      | true => simp
      | false =>
          simp only [Bool.and_false, Bool.false_eq_true, if_false, Bool.not_false, Bool.and_true,
            if_true]
          refine List.countP_congr fun sur hsur => ?_
          have hdue := List.any_eq_false.mp hpending sur hsur
          by_cases hid : sur.nodeGroupName = id
          · simpa [hid, hupcoming] using hdue
          · simp [hid]

/-- What the first two loops do to the record. -/
theorem record_sortScaleUps (id : String) :
    (csr.sortScaleUps currentTime).csr.record id =
      backoffPolicy.run (csr.record id) (.sweep currentTime ::
        if csr.scaleUpFinished id then [.success] else []) := by
  have hloop := record_foldl_see currentTime id csr.scaleUpRequests
    { csr := csr.cleanBackoff currentTime }
  have hup : (csr.cleanBackoff currentTime).areThereUpcomingNodesInNodeGroup id =
    csr.areThereUpcomingNodesInNodeGroup id := rfl
  rw [hup, ← scaleUpFinished, record_cleanBackoff] at hloop
  refine hloop.trans ?_
  cases csr.scaleUpFinished id <;> rfl

/-- **One update, group by group.** -/
theorem record_updateScaleRequests (id : String) :
    (csr.updateScaleRequests currentTime).record id =
      backoffPolicy.run (csr.record id) (csr.updateEvents currentTime id) := by
  have hlast : (csr.updateScaleRequests currentTime).record id =
      (backoffTimedOut currentTime (csr.sortScaleUps currentTime).timedOutSur
        (csr.sortScaleUps currentTime).csr).record id := rfl
  rw [hlast, record_backoffTimedOut, failedScaleUps_eq, record_sortScaleUps, ← Policy.run_append]
  rfl

end ClusterStateRegistry

end AutoNodeRepair
