import AutoNodeRepair.Logic.Cluster
import AutoNodeRepair.Logic.Drained

/-!
# When a drain succeeds

Soundness: a drain reported as done has a granted eviction for every pod, and
after the last of them one sweep that found none of the pods.

Completeness holds only under a condition. The sweeps look pods up by namespace
and name, so a pod that left the node and was recreated elsewhere under the same
name, as a StatefulSet does it, still counts as remaining. With every eviction
accepted, a drain succeeds exactly when some sweep finds no pod of these names
at all.
-/

namespace AutoNodeRepair

open Interact

variable {W : Type} {h : ApiService W}

/-- The confirmation loop of a drain from `m`. -/
def confirming (h : ApiService W) (pods : List Pod) (maxEviction wait : Duration)
    (m : Machine W) : Outcome AutoScalingGroups W Api (Option (List String)) :=
  let retries := (maxEviction / wait).toNat + 1
  (collectConfirmations (((now).exec h m).val + maxEviction) wait (pods.length * (retries + 2))
    (pods.map fun pod => (⟨pod, true, retries, ""⟩ : Evictor)) []).exec h ((now).exec h m).mach

/-- How long it waits for the pods to disappear. -/
def waitLimit (maxGrace : Int) : Duration := maxGrace * second + podEvictionHeadroom

/-- The waiting loop after it. -/
def waiting (h : ApiService W) (pods : List Pod) (maxGrace : Int) (maxEviction wait : Duration)
    (m : Machine W) : Outcome AutoScalingGroups W Api Bool :=
  let begun := (now).exec h (confirming h pods maxEviction wait m).mach
  (awaitGone begun.val (waitLimit maxGrace) pods
    ((waitLimit maxGrace / (5 * second)).toNat + 1)).exec h begun.mach

section

variable (node : Node) (pods : List Pod) (maxGrace : Int) (maxEviction wait : Duration)
  (m : Machine W)

/-- A drain asks for the evictions, and after good confirmations only it waits. -/
theorem drainNode_exec :
    ∃ rest, ((drainNode node pods maxGrace maxEviction wait).exec h m).log =
        ((now).exec h m).log ++ (confirming h pods maxEviction wait m).log ++ rest ∧
      (((drainNode node pods maxGrace maxEviction wait).exec h m).val = .ok () ↔
        (confirming h pods maxEviction wait m).val = some [] ∧
          (waiting h pods maxGrace maxEviction wait m).val = true) ∧
      ((confirming h pods maxEviction wait m).val = some [] → rest =
        ((now).exec h (confirming h pods maxEviction wait m).mach).log ++
          (waiting h pods maxGrace maxEviction wait m).log) := by
  have hconf : (collectConfirmations (((now).exec h m).val + maxEviction) wait
      (pods.length * ((maxEviction / wait).toNat + 1 + 2)) (pods.map fun pod =>
        (⟨pod, true, (maxEviction / wait).toNat + 1, ""⟩ : Evictor)) []).exec h
      ((now).exec h m).mach = confirming h pods maxEviction wait m := rfl
  simp only [drainNode, exec_bind, hconf, Outcome.after_val, Outcome.after_log,
    ← List.append_assoc]
  refine ⟨_, rfl, ?_⟩
  cases hval : (confirming h pods maxEviction wait m).val with
  | none => simp
  | some errs =>
      cases errs with
      | cons err errs => simp
      | nil =>
          have hwait : (awaitGone ((now).exec h (confirming h pods maxEviction wait m).mach).val
              (maxGrace * second + podEvictionHeadroom) pods
              (((maxGrace * second + podEvictionHeadroom) / (5 * second)).toNat + 1)).exec h
              ((now).exec h (confirming h pods maxEviction wait m).mach).mach =
            waiting h pods maxGrace maxEviction wait m := rfl
          simp only [exec_bind, hwait, Outcome.after_val, Outcome.after_log]
          cases (waiting h pods maxGrace maxEviction wait m).val <;> simp

/-! ## Soundness -/

/-- What a successful drain has seen: a granted eviction for every pod, and after
the last eviction request one sweep that found them all gone. -/
theorem drainNode_sound
    (hok : ((drainNode node pods maxGrace maxEviction wait).exec h m).val = .ok ()) :
    ∃ evictions sweeps,
      ((drainNode node pods maxGrace maxEviction wait).exec h m).log = evictions ++ sweeps ∧
      (∀ pod ∈ pods, ∃ e ∈ evictions, EvictionGranted pod e) ∧
      (∀ e ∈ sweeps, ∀ pod, e.call ≠ .evict pod) ∧
      ∃ sweep, sweep <:+: sweeps ∧ List.Forall₂ FoundGone pods sweep := by
  obtain ⟨rest, hlog, hiff, hrest⟩ := drainNode_exec (h := h) node pods maxGrace maxEviction wait m
  obtain ⟨hconf, hgone⟩ := hiff.mp hok
  have hgranted := (collectConfirmations_granted _ _ _ _ _ _ hconf).2
  obtain ⟨m', -, hswept, hinfix⟩ := awaitGone_sound hgone
  refine ⟨_, rest, hlog, ?_, ?_, _, ?_, sweepPods_log hswept⟩
  · intro pod hpod
    obtain ⟨e, he, hgranted⟩ := hgranted _ (List.mem_map_of_mem hpod)
    exact ⟨e, List.mem_append_right _ he, hgranted⟩
  · -- waiting only looks
    have hlooks : Evicts h (fun _ => True) (fun e => e.call.quiet = true) (fun _ => False) :=
      ⟨Looks.quiet_only h, fun _ _ hnone => hnone.elim⟩
    have hquiet : ∀ e ∈ rest, e.call.quiet = true := by
      intro e he
      rw [hrest hconf] at he
      rcases List.mem_append.mp he with he | he
      · rw [List.mem_singleton.mp he]
        rfl
      · exact (hlooks.awaitGone _ _ _ _ _ trivial).2 e he
    intro e he pod hcall
    have := hquiet e he
    rw [hcall] at this
    simp [ApiCall.quiet] at this
  · rw [hrest hconf]
    exact hinfix.trans (List.suffix_append _ _).isInfix

end

/-- Two pods of the first node of the sample cluster. -/
def twoPods : List Pod :=
  [{ ns := "default", name := "p1", nodeName := "n1" },
   { ns := "default", name := "p2", nodeName := "n1" }]

/-- The drain of the node is such a success. -/
theorem drainNode_sound_sample :
    let run := (drainNode node1 twoPods 60 maxPodEvictionTime evictionRetryTime).exec
      Cluster.sample.service sampleMachine
    run.val = .ok () ∧ ∃ evictions sweeps, run.log = evictions ++ sweeps ∧
      (∀ pod ∈ twoPods, ∃ e ∈ evictions, EvictionGranted pod e) ∧
      (∀ e ∈ sweeps, ∀ pod, e.call ≠ .evict pod) ∧
      ∃ sweep, sweep <:+: sweeps ∧ List.Forall₂ FoundGone twoPods sweep := by
  have hgrace : (0 : Int) ≤ 60 := by decide
  have hok := Cluster.sample.drainNode node1 twoPods hgrace sampleMachine
  exact ⟨hok, drainNode_sound _ _ _ _ _ _ hok⟩

/-! ## Completeness -/

section

variable (node : Node) (pods : List Pod) (maxGrace : Int) (maxEviction wait : Duration)
  (m : Machine W)

/-- The pod found, if any, is not on the node: it is gone, or the name belongs to
a pod of another node. -/
def OffNode (node : Node) (ans : Except KubeError Pod) : Prop :=
  Gone ans ∨ ∃ pod, ans = .ok pod ∧ pod.nodeName ≠ node.name

/-- In the drain from `m`, some sweep within the waiting time is answered only as `P`
says. -/
def SomeSweep (h : ApiService W) (pods : List Pod) (maxGrace : Int) (maxEviction wait : Duration)
    (m : Machine W) (P : Except KubeError Pod → Prop) : Prop :=
  let begun := (now).exec h (confirming h pods maxEviction wait m).mach
  ∃ m', SweepAt h begun.val (waitLimit maxGrace) pods begun.mach m' ∧
    ∀ ans ∈ podAnswers h pods m', P ans

/-- The waiting loop succeeds when some sweep within its time finds all pods gone. -/
theorem waiting_iff {clock : W → Time} (laws : ClockLaws h clock) :
    (waiting h pods maxGrace maxEviction wait m).val = true ↔
      SomeSweep h pods maxGrace maxEviction wait m Gone := by
  constructor
  · intro hgone
    obtain ⟨m', hreach, hswept, -⟩ := awaitGone_sound hgone
    exact ⟨m', hreach, (sweepPods_iff pods m').mp hswept⟩
  · rintro ⟨m', hreach, hgone⟩
    refine awaitGone_complete laws hreach ((sweepPods_iff pods m').mpr hgone) _ ?_
    have hread : ((now).exec h (confirming h pods maxEviction wait m).mach).val ≤
        clock ((now).exec h (confirming h pods maxEviction wait m).mach).mach.world :=
      (laws.reads _).2
    -- a sweep each five seconds: the fuel lasts as long as the limit
    generalize waitLimit maxGrace = limit at *
    simp only [second, Time, Duration] at hread ⊢
    omega

/-- With every eviction accepted no error comes: every goroutine needs one turn only, so the
fuel is enough. -/
theorem confirming_accepted {pods : List Pod} {maxEviction wait : Duration} {m : Machine W}
    (hacc : EvictionsAccepted h (confirming h pods maxEviction wait m).log) :
    (confirming h pods maxEviction wait m).val = some [] := by
  refine collectConfirmations_accepted _ _ _ _ _ _ ?_ ?_ hacc
  · rw [List.length_map]
    exact Nat.le_mul_of_pos_right _ (by omega)
  · intro e he
    obtain ⟨pod, -, rfl⟩ := List.mem_map.mp he
    rfl

/-- With every eviction accepted, the drain of a node that its pods leave succeeds
exactly when the pods also vanish by name. -/
theorem drainNode_completes_iff {clock : W → Time} (laws : ClockLaws h clock)
    (hacc : EvictionsAccepted h
      ((drainNode node pods maxGrace maxEviction wait).exec h m).log) :
    (SomeSweep h pods maxGrace maxEviction wait m (OffNode node) →
      ((drainNode node pods maxGrace maxEviction wait).exec h m).val = .ok ()) ↔
    (SomeSweep h pods maxGrace maxEviction wait m (OffNode node) →
      SomeSweep h pods maxGrace maxEviction wait m Gone) := by
  obtain ⟨rest, hlog, hiff, -⟩ := drainNode_exec (h := h) node pods maxGrace maxEviction wait m
  have hconf : (confirming h pods maxEviction wait m).val = some [] := by
    refine confirming_accepted (hacc.subset ?_)
    rw [hlog]
    exact List.subset_append_of_subset_left _ (List.subset_append_right _ _)
  rw [hiff, waiting_iff pods maxGrace maxEviction wait m laws]
  simp only [hconf, true_and]

end

/-- The sample cluster with a clock, in nanoseconds, that only the sleeps move, and
with these answers to the lookups of pods. -/
def Cluster.timed (lookup : String → String → Except KubeError Pod) :
    ApiService (ClusterState × Nat) :=
  Cluster.sample.variant fun w call =>
    match call with
    | .now => some (w.2, w)
    | .sleep d => some ((), w.1, w.2 + d.toNat)
    | .getPod ns name => some (lookup ns name, w)
    | _ => none

theorem Cluster.timed_clockLaws (lookup : String → String → Except KubeError Pod) :
    ClockLaws (Cluster.timed lookup) fun w => (w.2 : Int) where
  forward := by
    intro w c
    cases c with
    | sleep d => exact Int.ofNat_le.mpr (Nat.le_add_right _ _)
    | _ => exact Int.le_refl _
  reads := fun w => ⟨Int.le_refl _, Int.le_refl _⟩
  sleeps := by
    intro w d
    show (w.2 : Int) + d ≤ ((w.2 + d.toNat : Nat) : Int)
    simp only [Duration] at d
    omega

theorem Cluster.timed_accepts (lookup : String → String → Except KubeError Pod)
    (log : List (ApiEvent (ClusterState × Nat))) : EvictionsAccepted (Cluster.timed lookup) log :=
  ⟨fun _ _ _ => rfl, fun _ _ _ => Option.some_ne_none _⟩

/-- The controller of the sample cluster at time zero of that clock. -/
def timedMachine : Machine (ClusterState × Nat) := ⟨freshStore [groupG, groupK], sampleState, 0⟩

/-- Where the pods vanish by name, the drain completes. -/
theorem drainNode_completes_sample :
    let h := Cluster.timed fun _ _ => .error ⟨"not found", true⟩
    let run := (drainNode node1 twoPods 60 maxPodEvictionTime evictionRetryTime).exec h
      timedMachine
    EvictionsAccepted h run.log ∧
      SomeSweep h twoPods 60 maxPodEvictionTime evictionRetryTime timedMachine Gone ∧
      run.val = .ok () := by
  intro h run
  have hgone : SomeSweep h twoPods 60 maxPodEvictionTime evictionRetryTime timedMachine Gone := by
    refine ⟨_, .first (by decide), ?_⟩
    intro ans hans
    rcases List.mem_pair.mp hans with rfl | rfl <;> exact ⟨_, rfl, rfl⟩
  have hoff : SomeSweep h twoPods 60 maxPodEvictionTime evictionRetryTime timedMachine
      (OffNode node1) := by
    obtain ⟨m', hsweep, hanswers⟩ := hgone
    exact ⟨m', hsweep, fun ans hans => .inl (hanswers ans hans)⟩
  exact ⟨Cluster.timed_accepts _ _, hgone, (drainNode_completes_iff _ _ _ _ _ _
    (Cluster.timed_clockLaws _) (Cluster.timed_accepts _ _)).mpr (fun _ => hgone) hoff⟩

/-- A StatefulSet recreates its pod on another node under the old name. Every
eviction is accepted, and already the first sweep is told that the pod found is
elsewhere; the drain of the node it left fails all the same. -/
theorem drainNode_waits_for_recreated :
    let h := Cluster.timed fun ns name => .ok { ns := ns, name := name, nodeName := "n2" }
    let run := (drainNode node1 Cluster.sample.pods 0 maxPodEvictionTime evictionRetryTime).exec
      h timedMachine
    EvictionsAccepted h run.log ∧
      SomeSweep h Cluster.sample.pods 0 maxPodEvictionTime evictionRetryTime timedMachine
        (OffNode node1) ∧
      run.val = .error ⟨.transientError,
        "Failed to drain node /n1: pods remaining after timeout"⟩ := by
  refine ⟨Cluster.timed_accepts _ _, ⟨_, .first (by decide), ?_⟩, by decide⟩
  intro ans hans
  obtain rfl := List.mem_singleton.mp hans
  exact .inr ⟨_, rfl, by decide⟩

end AutoNodeRepair
