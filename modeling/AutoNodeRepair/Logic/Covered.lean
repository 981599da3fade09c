import AutoNodeRepair.Logic.Kept

/-!
# A node under its taint

While a node carries the `ToBeDeleted` taint the scheduler binds nothing new to
it. So from then on the pods bound to it are, at every moment, exempt from the
drain or among those still to be confirmed gone: `Covered`, which every step of
a drain keeps and whose sweeps empty the second part (`drainNode_covered`).
-/

namespace AutoNodeRepair

open Interact

/-- One pod at two moments: its node and what exempts it from a drain stay. -/
def SamePod (old pod : Pod) : Prop :=
  old.key = pod.key ∧ old.nodeName = pod.nodeName ∧ isMirrorPod old = isMirrorPod pod ∧
    controllerRef old = controllerRef pod ∧
    (old.deletionTimestamp = none ∨ old.deletionTimestamp = pod.deletionTimestamp)

instance (old pod : Pod) : Decidable (SamePod old pod) :=
  inferInstanceAs (Decidable (_ ∧ _))

theorem SamePod.refl (pod : Pod) : SamePod pod pod := ⟨rfl, rfl, rfl, rfl, .inr rfl⟩

/-- A pod once exempt stays so. -/
theorem SamePod.exempt {old pod : Pod} (hsame : SamePod old pod) {t t' : Time} (hle : t ≤ t')
    (hexempt : exemptPod t old = true) : exemptPod t' pod = true := by
  obtain ⟨-, -, hmirror, hcontroller, hdeletion⟩ := hsame
  have hdaemon : isDaemonSetPod old = isDaemonSetPod pod := by
    unfold isDaemonSetPod
    rw [hcontroller]
  have hlong : longUnderDeletion old t = true → longUnderDeletion pod t' = true := by
    unfold longUnderDeletion
    rcases hdeletion with hnone | hkept
    · simp [hnone]
    · rw [hkept]
      cases pod.deletionTimestamp with
      | none => simp
      | some deleted =>
          simp only [decide_eq_true_eq]
          exact fun hlt => Int.lt_of_lt_of_le hlt (Int.add_le_add_right hle _)
  simp only [exemptPod, Bool.or_eq_true, hmirror, hdaemon] at hexempt ⊢
  rcases hexempt with (hexempt | hexempt) | hexempt
  · exact .inl (.inl hexempt)
  · exact .inl (.inr (hlong hexempt))
  · exact .inr hexempt

/-- The scheduler and the API server: `bound` are the pods bound to nodes,
`tainted` the nodes carrying the `ToBeDeleted` taint, `clock` the time. Only a
node without the taint gets new pods; only the controller's own update takes a
taint off. -/
structure SchedulerLaws {W : Type} (h : ApiService W) (bound : W → List Pod)
    (tainted : W → String → Prop) (clock : W → Time) : Prop where
  fetched : ∀ w name fresh, (h w (.getNode name)).1 = .ok (some fresh) →
    fresh.name = name ∧
      (hasToBeDeletedTaint fresh = true → tainted (h w (.getNode name)).2 name)
  updated : ∀ w node, (h w (.updateNode node)).1 = .ok () → hasToBeDeletedTaint node = true →
    tainted (h w (.updateNode node)).2 node.name
  stays : ∀ w c, (∀ node, c ≠ .updateNode node) → ∀ name, tainted w name → tainted (h w c).2 name
  no_binding : ∀ w c, (∀ node, c ≠ .updateNode node) → ∀ pod ∈ bound (h w c).2,
    tainted w pod.nodeName → ∃ old ∈ bound w, SamePod old pod
  gone : ∀ w ns name err, (h w (.getPod ns name)).1 = .error err → err.notFound = true →
    ∀ pod ∈ bound (h w (.getPod ns name)).2, tainted w pod.nodeName → pod.key ≠ (ns, name)
  clock_le : ∀ w c, clock w ≤ clock (h w c).2
  now_le : ∀ w, (h w .now).1 ≤ clock (h w .now).2

section

variable {W : Type} {h : ApiService W} {bound : W → List Pod} {tainted : W → String → Prop}
  {clock : W → Time}

/-- The node `name` is tainted, and every pod bound to it is exempt or has a
pending key. -/
structure Covered (bound : W → List Pod) (tainted : W → String → Prop) (clock : W → Time)
    (name : String) (pending : String × String → Prop) (w : W) : Prop where
  tainted : tainted w name
  pods : ∀ pod ∈ bound w, pod.nodeName = name →
    exemptPod (clock w) pod = true ∨ pending pod.key

theorem Covered.mono {name : String} {pending pending' : String × String → Prop} {w : W}
    (hcov : Covered bound tainted clock name pending w) (himp : ∀ key, pending key → pending' key) :
    Covered bound tainted clock name pending' w :=
  ⟨hcov.tainted, fun pod hpod hname => (hcov.pods pod hpod hname).imp_right (himp _)⟩

variable {name : String} {pending : String × String → Prop} {Ok : ApiEvent W → Prop}

/-- Nothing but an update of a node ends it. -/
theorem Covered.frame (laws : SchedulerLaws h bound tainted clock) {w : W}
    (hcov : Covered bound tainted clock name pending w) {c : ApiCall}
    (hc : ∀ node, c ≠ .updateNode node) : Covered bound tainted clock name pending (h w c).2 where
  tainted := laws.stays w c hc name hcov.tainted
  pods := by
    intro pod hpod hname
    obtain ⟨old, hold, hsame⟩ := laws.no_binding w c hc pod hpod (hname ▸ hcov.tainted)
    rcases hcov.pods old hold (hsame.2.1.trans hname) with hexempt | hpending
    · exact .inl (hsame.exempt (laws.clock_le w c) hexempt)
    · exact .inr (hsame.1 ▸ hpending)

theorem Covered.lookupClosed (laws : SchedulerLaws h bound tainted clock) :
    LookupClosed h (Covered bound tainted clock name pending) := by
  intro w hw c hc
  refine hw.frame laws ?_
  rintro node rfl
  simp [ApiCall.looksUp] at hc

/-- A pod that is not found is not bound to it. -/
theorem Covered.not_found (laws : SchedulerLaws h bound tainted clock) {w : W}
    (hcov : Covered bound tainted clock name pending w) (pod : Pod) {err : KubeError}
    (herr : (h w (.getPod pod.ns pod.name)).1 = .error err) (hnot : err.notFound = true) :
    Covered bound tainted clock name (fun key => pending key ∧ key ≠ pod.key)
      (h w (.getPod pod.ns pod.name)).2 := by
  have hframe := hcov.frame laws (c := .getPod pod.ns pod.name) (by simp)
  refine ⟨hframe.tainted, fun other hother hname => ?_⟩
  refine (hframe.pods other hother hname).imp_right fun hpending => ⟨hpending, ?_⟩
  exact laws.gone w pod.ns pod.name err herr hnot other hother (hname ▸ hcov.tainted)

/-- Looking and evicting go on under it. -/
theorem evicts_covered (laws : SchedulerLaws h bound tainted clock)
    (hok : ∀ e : ApiEvent W, (∀ id dec, e.call ≠ .terminateInstance id dec) → Ok e)
    (name : String) (pending : String × String → Prop) :
    Evicts h (fun m => Covered bound tainted clock name pending m.world) Ok (fun _ => True) where
  quiet := by
    intro c hc m hm
    refine ⟨hm.frame laws ?_, hok _ ?_⟩
    · rintro node rfl
      simp [ApiCall.quiet] at hc
    · rintro id dec rfl
      simp [ApiCall.quiet] at hc
  find := by
    intro ref
    refine (findForInstance_closed (Covered.lookupClosed laws) ref).weaken_events ?_
    rintro e ⟨w, c, -, hc, rfl⟩
    refine hok _ ?_
    rintro id dec rfl
    simp [ApiCall.looksUp] at hc
  evict := by
    intro node pod _ _
    exact Keeps.call fun m hm => ⟨hm.frame laws (by simp), hok _ (by simp)⟩

/-! ## The sweeps -/

/-- A sweep that met a failure does not report that all are gone. -/
theorem sweepPods_false (pods : List Pod) (m : Machine W) :
    ((sweepPods pods false).exec h m).val = false := by
  induction pods generalizing m with
  | nil => rfl
  | cons pod rest ih =>
      simp only [sweepPods, exec_bind, Outcome.after_val]
      split
      · rfl
      · split <;> exact ih _

/-- What a sweep reports gone is not bound any more. -/
theorem sweepPods_covered (laws : SchedulerLaws h bound tainted clock)
    (hok : ∀ e : ApiEvent W, (∀ id dec, e.call ≠ .terminateInstance id dec) → Ok e)
    (pods : List Pod) :
    Triple h (fun m => Covered bound tainted clock name pending m.world) Ok (sweepPods pods true)
      fun allGone m => Covered bound tainted clock name pending m.world ∧
        (allGone = true → Covered bound tainted clock name
          (fun key => pending key ∧ key ∉ pods.map Pod.key) m.world) := by
  induction pods generalizing pending with
  | nil =>
      exact Triple.pure _ fun m hm => ⟨hm, fun _ => hm.mono fun key hkey => ⟨hkey, by simp⟩⟩
  | cons pod rest ih =>
      refine Triple.bind (Q := fun r m => Covered bound tainted clock name pending m.world ∧
        ∀ err, r = .error err → err.notFound = true →
          Covered bound tainted clock name (fun key => pending key ∧ key ≠ pod.key) m.world)
        (Triple.call fun m hm => ⟨⟨hm.frame laws (by simp), ?_⟩, hok _ (by simp)⟩) fun r => ?_
      · exact fun err herr hnot => hm.not_found laws pod herr hnot
      · cases r with
        | ok found => exact Triple.pure _ fun m hm => ⟨hm.1, by simp⟩
        | error err =>
            by_cases hnot : err.notFound = true
            · simp only [if_pos hnot]
              refine Triple.conseq ih (fun m hm => hm.2 err rfl hnot) ?_
              rintro allGone m ⟨hcov, hgone⟩
              refine ⟨hcov.mono fun key hkey => hkey.1, fun htrue => (hgone htrue).mono ?_⟩
              rintro key ⟨⟨hpending, hne⟩, hrest⟩
              exact ⟨hpending, by simp [hne, hrest]⟩
            · -- the pod may be there: this sweep ends with `false`
              simp only [if_neg hnot]
              refine Triple.conseq (Keeps.with_val (Q := fun allGone => allGone = false)
                ((evicts_covered laws hok name pending).sweepPods rest false)
                fun m _ => sweepPods_false rest m) (fun m hm => hm.1) ?_
              rintro allGone m ⟨hcov, rfl⟩
              exact ⟨hcov, by simp⟩

theorem awaitGone_covered (laws : SchedulerLaws h bound tainted clock)
    (hok : ∀ e : ApiEvent W, (∀ id dec, e.call ≠ .terminateInstance id dec) → Ok e)
    (start : Time) (limit : Duration) (pods : List Pod) (fuel : Nat) :
    Triple h (fun m => Covered bound tainted clock name pending m.world) Ok
      (awaitGone start limit pods fuel)
      fun allGone m => allGone = true → Covered bound tainted clock name
        (fun key => pending key ∧ key ∉ pods.map Pod.key) m.world := by
  have hlooks := (evicts_covered laws hok name pending).toLooks
  induction fuel with
  | zero => exact Triple.pure _ fun m _ => by simp
  | succ fuel ih =>
      refine Triple.bind (hlooks.ask .now rfl) fun t => ?_
      split
      · refine Triple.bind (sweepPods_covered laws hok pods) fun allGone => ?_
        split
        · rename_i htrue
          exact Triple.pure _ fun m hm _ => hm.2 htrue
        · refine Triple.conseq (Triple.bind (hlooks.ask (.sleep (5 * second)) rfl) fun _ => ih)
            (fun m hm => hm.1) fun _ _ hq => hq
      · exact Triple.pure _ fun m _ => by simp

/-- A successful drain of the pending pods leaves only exempt ones. -/
theorem drainNode_covered (laws : SchedulerLaws h bound tainted clock)
    (hok : ∀ e : ApiEvent W, (∀ id dec, e.call ≠ .terminateInstance id dec) → Ok e)
    (node : Node) {pods : List Pod} (hpods : ∀ pod ∈ pods, pod.nodeName = node.name)
    (maxGrace : Int) (maxEviction wait : Duration) :
    Triple h (fun m => Covered bound tainted clock name (· ∈ pods.map Pod.key) m.world) Ok
      (drainNode node pods maxGrace maxEviction wait)
      fun r m => r = .ok () → Covered bound tainted clock name (fun _ => False) m.world := by
  have hevicts := evicts_covered laws hok name (· ∈ pods.map Pod.key)
  have hevictors : ∀ e ∈ pods.map fun pod =>
      (⟨pod, true, (maxEviction / wait).toNat + 1, ""⟩ : Evictor),
      ∃ n, True ∧ e.pod.nodeName = Node.name n := by
    intro e he
    obtain ⟨pod, hpod, rfl⟩ := List.mem_map.mp he
    exact ⟨node, trivial, hpods pod hpod⟩
  refine Triple.bind (hevicts.ask .now rfl) fun t => ?_
  refine Triple.bind (hevicts.collectConfirmations _ _ _ _ _ hevictors) fun r => ?_
  split
  · exact Triple.pure _ fun m _ => by simp
  · exact Triple.pure _ fun m _ => by simp
  · refine Triple.bind (hevicts.ask .now rfl) fun start => ?_
    refine Triple.bind (awaitGone_covered laws hok _ _ _ _) fun allGone => ?_
    split
    · rename_i htrue
      refine Triple.pure _ fun m hm _ => (hm htrue).mono ?_
      exact fun key hkey => hkey.2 hkey.1
    · exact Triple.pure _ fun m _ => by simp

/-! ## The taint -/

/-- A successful `MarkToBeDeleted` leaves the node with the taint. -/
theorem markToBeDeleted_tainted (laws : SchedulerLaws h bound tainted clock) (node : Node) :
    Triple h (fun _ => True) (fun _ => True) (markToBeDeleted node)
      fun r m => r = .ok () → tainted m.world node.name := by
  refine Triple.bind (Q := fun r m => ∀ fresh, r = .ok (some fresh) → fresh.name = node.name ∧
      (hasToBeDeletedTaint fresh = true → tainted m.world node.name))
    (Triple.call fun m _ => ⟨fun fresh hfresh => laws.fetched _ _ fresh hfresh, trivial⟩)
    fun r => ?_
  split
  · exact Triple.pure _ fun m _ => by simp
  · exact Triple.pure _ fun m _ => by simp
  · rename_i fresh
    refine Triple.of_pre (fun m hm => (hm fresh rfl).1) fun hname => ?_
    unfold addToBeDeletedTaint
    split
    · rename_i htaint
      exact Triple.pure _ fun m hm _ => (hm fresh rfl).2 htaint
    · refine Triple.bind (Q := fun r _ => r.1 = true ∧ r.2.name = node.name ∧
          hasToBeDeletedTaint r.2 = true) ?_ fun r => ?_
      · refine Triple.bind (Q := fun _ _ => True) (Triple.call fun _ _ => ⟨trivial, trivial⟩)
          fun t => Triple.pure _ fun m _ => ⟨rfl, hname, ?_⟩
        simp [hasToBeDeletedTaint]
      · obtain ⟨added, marked⟩ := r
        refine Triple.of_pre (fun m hm => hm) ?_
        rintro ⟨hadded, hmarked, htaint⟩
        simp only at hadded hmarked htaint
        subst hadded
        refine Triple.bind (Q := fun r m => r = .ok () → tainted m.world node.name)
          (Triple.call fun m _ => ⟨fun hans => ?_, trivial⟩) fun r => ?_
        · exact hmarked ▸ laws.updated m.world marked hans htaint
        · split
          · exact Triple.pure _ fun m _ => by simp
          · exact Triple.pure _ fun m hm _ => hm rfl

end

end AutoNodeRepair
