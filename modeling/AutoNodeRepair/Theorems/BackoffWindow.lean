import AutoNodeRepair.Logic.Cluster
import AutoNodeRepair.Theorems.FailedScaleUps

/-!
# How long a failed scale-up blocks its group

For every run of the registry, however its operations follow each other and whatever the
cloud provider reports: after a failure the group is not safe to scale up for the initial
duration, unless an update finds a scale-up of it finished, a later failure is of an earlier
time, or the record is swept away as stale; and it is never held back for longer than the
maximal duration after the last failure.
-/

namespace AutoNodeRepair

open Interact Retry

namespace ClusterStateRegistry

variable {csr : ClusterStateRegistry} {id : String}

/-- The backoff holds a group back up to its end. -/
theorem not_safe_of_record {r : Record} (hr : csr.record id = some r) {now : Time}
    (hnow : now ≤ r.ends) (config : ClusterStateRegistryConfig) :
    csr.isNodeGroupSafeToScaleUp config id now = false := by
  unfold isNodeGroupSafeToScaleUp
  rw [record_eq_some.mp hr]
  split
  · rfl
  · exact decide_eq_false (Int.not_lt.mpr hnow)

/-- And no further. -/
theorem safe_of_record {now : Time} (hended : ∀ r, csr.record id = some r → r.ends < now)
    (config : ClusterStateRegistryConfig) :
    csr.isNodeGroupSafeToScaleUp config id now = csr.isNodeGroupHealthy config id := by
  unfold isNodeGroupSafeToScaleUp
  cases hhealthy : csr.isNodeGroupHealthy config id with
  | false => rfl
  | true =>
      cases hinfo : csr.nodeGroupBackoffInfo id with
      | none => rfl
      | some info =>
          have hr : csr.record id = some info.record := by rw [record, hinfo, Option.map_some]
          exact decide_eq_true (hended _ hr)

end ClusterStateRegistry

/-- **The window of a backoff.** In any run from the new registry, let `events` be what
happens to the backoff of a group. If all its failures are longer ago than the maximal
duration, the group is safe to scale up exactly if it is healthy. If it has failed at `t`,
and since then no update has found a scale-up of it finished (nor dropped the record as
stale, nor did the clock go back), it is not safe up to `t` plus the initial duration. -/
theorem backoff_window {W : Type} (h : ApiService W) (ops : List RegistryOp) (m : Machine W)
    (id : String) (config : ClusterStateRegistryConfig) (now : Time) :
    let events := groupEvents h id newClusterStateRegistry ops m
    let final := ((RegistryOp.runAll newClusterStateRegistry ops).exec h m).val
    ((∀ t, .failure t ∈ events → t + maxNodeGroupBackoffDuration < now) →
      final.isNodeGroupSafeToScaleUp config id now = final.isNodeGroupHealthy config id) ∧
    ∀ before after t, events = before ++ .failure t :: after → .success ∉ after →
      (∀ t', .failure t' ∈ after → t ≤ t') →
      (∀ t', .sweep t' ∈ after → t' ≤ t + nodeGroupBackoffResetTimeout) →
      now ≤ t + initialNodeGroupBackoffDuration →
      final.isNodeGroupSafeToScaleUp config id now = false := by
  intro events final
  obtain ⟨hrecord, -⟩ := groupEvents_refine (h := h) id ops newClusterStateRegistry m
  have hfair : ∀ r, final.record id = some r → backoffPolicy.Fair r ∧ .failure r.last ∈ events := by
    intro r hr
    have hrun : backoffPolicy.run none events = some r := hrecord ▸ hr
    have hinitial : 0 ≤ backoffPolicy.initial := by decide
    have hcap : backoffPolicy.initial ≤ backoffPolicy.cap := by decide
    have hfresh : ∀ r, (none : Option Record) = some r → backoffPolicy.Fair r :=
      fun _ hnone => nomatch hnone
    obtain ⟨hfair, hfrom⟩ := Policy.run_fair hinitial hcap events hfresh hrun
    exact ⟨hfair, hfrom.resolve_left fun hnone => nomatch hnone⟩
  constructor
  · intro hlong
    refine ClusterStateRegistry.safe_of_record (fun r hr => ?_) config
    obtain ⟨hfair, hfailure⟩ := hfair r hr
    have hcap : r.duration ≤ maxNodeGroupBackoffDuration := hfair.cap
    have hlong := hlong r.last hfailure
    have hends := hfair.ends
    simp only [Duration] at *
    omega
  · intro before after t hsplit hsuccess hfailure hsweep hnow
    obtain ⟨r, hr, hlast⟩ := Policy.run_held (p := backoffPolicy) after hsuccess hfailure hsweep
      (r := backoffPolicy.fail t (backoffPolicy.run none before)) (Int.le_refl t)
    have hfinal : final.record id = some r := by
      rw [hrecord, ← hr]
      show backoffPolicy.run none events = _
      rw [hsplit, Policy.run_append]
      rfl
    refine ClusterStateRegistry.not_safe_of_record hfinal ?_ config
    obtain ⟨hfair, -⟩ := hfair r hfinal
    have hinitial : initialNodeGroupBackoffDuration ≤ r.duration := hfair.initial
    have hends := hfair.ends
    simp only [Time, Duration] at *
    omega

/-- The sample cluster with a clock that moves on a minute with every look. -/
def tickingSample : ApiService (ClusterState × Nat) :=
  Cluster.sample.variant fun w call =>
    match call with
    | .now => some (w.2 * minute, (w.1, w.2 + 1))
    | _ => none

/-- `g` fails now and again after a minute, and the registry is updated in between. It is held
back for the five minutes after the first failure, and after an hour only its health counts. -/
theorem backoff_window_sample :
    let ops : List RegistryOp := [.registerFailedScaleUp "g", .updateNodes [node1] (30 * second),
      .registerFailedScaleUp "g"]
    let m : Machine (ClusterState × Nat) := ⟨freshStore [groupG], (sampleState, 0)⟩
    let final := ((RegistryOp.runAll newClusterStateRegistry ops).exec tickingSample m).val
    final.isNodeGroupSafeToScaleUp ⟨45, 3⟩ "g" (5 * minute) = false ∧
      final.isNodeGroupSafeToScaleUp ⟨45, 3⟩ "g" hour = final.isNodeGroupHealthy ⟨45, 3⟩ "g" := by
  intro ops m final
  have hevents : groupEvents tickingSample "g" newClusterStateRegistry ops m =
      [.failure 0, .sweep (30 * second), .failure minute] := by
    decide +kernel
  constructor
  · refine (backoff_window tickingSample ops m "g" ⟨45, 3⟩ (5 * minute)).2 []
      [.sweep (30 * second), .failure minute] 0 hevents ?_ ?_ ?_ ?_
    · simp
    · simp [minute, second]
    · simp [nodeGroupBackoffResetTimeout, hour, minute, second]
    · decide
  · refine (backoff_window tickingSample ops m "g" ⟨45, 3⟩ hour).1 ?_
    rw [hevents]
    simp [maxNodeGroupBackoffDuration, hour, minute, second]

end AutoNodeRepair
