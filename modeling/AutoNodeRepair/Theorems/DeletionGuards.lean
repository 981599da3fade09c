import AutoNodeRepair.Logic.Script
import AutoNodeRepair.Theorems.Conservation
import AutoNodeRepair.Theorems.DeletionIsolation
import AutoNodeRepair.Theorems.DrainOutcome

/-!
# What keeps `DeleteNodes` from a node

Two guards that are not there. `StaticAutorepair.DeleteNodes` logs the errors of
its two list calls and goes on with the lists that came with them, so a node is worked
on although nothing may be known of its pods or budgets. And the skip flags are handed to
`DetailedGetPodsForMove`, whose `deleteAll` keeps the filter from looking at
them, so a protected node is deleted like any other. Both results say exactly
what stops the deletion instead: a disruption budget that refuses it.
-/

namespace AutoNodeRepair

open Interact

/-! ## What a run of `DeleteNodes` asks -/

section

variable {W : Type} {h : ApiService W} {a : StaticAutorepair}

/-- The loop asks what the deletions of its movable nodes ask, and looks otherwise. -/
theorem deleteLoop_events {Ok : ApiEvent W → Prop} (hquiet : ∀ e, e.call.quiet = true → Ok e)
    (pdbs : List PodDisruptionBudget) (pods : List Pod) {infos : String → Option (List Pod)} :
    ∀ (l : List Node) (m : Machine W),
    (∀ node ∈ l, infos node.name = some (pods.filter fun pod => pod.nodeName == node.name)) →
    (∀ t ∈ turns h a pdbs pods l m, t.movable h a = true → ∀ e ∈ (t.deletion h a).log, Ok e) →
    ∀ e ∈ ((a.deleteLoop pdbs infos l).exec h m).log, Ok e := by
  intro l
  induction l with
  | nil => intro m _ _ e he; simp [StaticAutorepair.deleteLoop] at he
  | cons node rest ih =>
      intro m hinfos hturns e he
      rw [deleteLoop_cons pdbs (hinfos node List.mem_cons_self) rest m] at he
      rw [turns] at hturns
      generalize ht :
        (⟨node, pods.filter fun pod => pod.nodeName == node.name, pdbs, m⟩ : Turn W) = t
        at he hturns
      have hlog : ∀ e ∈ t.log h a, Ok e := by
        intro e he
        rcases List.mem_append.mp he with he | he
        · rw [Turn.moved, detailedGetPodsForMove_exec, List.mem_singleton] at he
          exact hquiet e (by rw [he]; rfl)
        · split at he
          · rename_i hmovable
            exact hturns t List.mem_cons_self hmovable e he
          · simp at he
      split at he
      · exact hlog e he
      · rename_i hgoes
        simp only [if_neg hgoes] at hturns
        rcases List.mem_append.mp he with he | he
        · exact hlog e he
        · exact ih _ (fun n hn => hinfos n (List.mem_cons_of_mem _ hn))
            (fun t' ht' => hturns t' (List.mem_cons_of_mem _ ht')) e he

/-- So does `StaticAutorepair.DeleteNodes`. -/
theorem deleteNodes_events {Ok : ApiEvent W → Prop} (hquiet : ∀ e, e.call.quiet = true → Ok e)
    {asg : Asg} {l : List Node} {m : Machine W}
    (hturns : ∀ t ∈ deleteTurns h a asg l m, t.movable h a = true →
      ∀ e ∈ (t.deletion h a).log, Ok e) :
    ∀ e ∈ ((a.deleteNodes asg l).exec h m).log, Ok e := by
  have hlooks := Looks.quiet_only h
  have hsize : ∀ m : Machine W, ∀ e ∈ ((asg.targetSize).exec h m).log, Ok e :=
    fun m e he => hquiet e ((hlooks.getAsgSize asg m trivial).2 e he)
  have hpoll : ∀ (goal curr : Int) (left : Nat) (m : Machine W),
      ∀ e ∈ ((pollDeleted asg goal left curr).exec h m).log, Ok e :=
    fun goal curr left m e he => hquiet e ((hlooks.pollDeleted asg goal left curr m trivial).2 e he)
  have hask : ∀ (c : ApiCall), c.quiet = true → ∀ m : Machine W,
      Ok (Service.event h m.world c) := fun c hc m => hquiet _ hc
  intro e he
  simp only [StaticAutorepair.deleteNodes, exec_bind, Outcome.after_log, List.mem_append] at he
  rcases he with he | he | he | he | he | he
  · exact hsize _ e he
  · exact hsize _ e he
  · rw [List.mem_singleton.mp he]
    exact hask .listPodDisruptionBudgets rfl _
  · rw [List.mem_singleton.mp he]
    exact hask .listScheduledPods rfl _
  · exact deleteLoop_events hquiet _ _ l _ (fun node hnode => createNodeNameToInfoMap_of_mem hnode)
      hturns e he
  · split at he
    · exact hpoll _ _ _ _ e he
    · simp at he

/-- What the loop gets to is worked on. -/
theorem deletion_subset_deleteLoop (pdbs : List PodDisruptionBudget) (pods : List Pod)
    {infos : String → Option (List Pod)} :
    ∀ (l : List Node) (m : Machine W),
    (∀ node ∈ l, infos node.name = some (pods.filter fun pod => pod.nodeName == node.name)) →
    ∀ t ∈ attempted (Turn.movable h a) (Turn.deleted h a) (turns h a pdbs pods l m),
      (t.deletion h a).log ⊆ ((a.deleteLoop pdbs infos l).exec h m).log := by
  intro l
  induction l with
  | nil => intro m _ t ht; simp [turns, attempted] at ht
  | cons node rest ih =>
      intro m hinfos t' ht'
      have hrest := fun m => ih m fun n hn => hinfos n (List.mem_cons_of_mem _ hn)
      rw [deleteLoop_cons pdbs (hinfos node List.mem_cons_self) rest m]
      rw [turns] at ht'
      generalize
        (⟨node, pods.filter fun pod => pod.nodeName == node.name, pdbs, m⟩ : Turn W) = t at ht' ⊢
      cases hmovable : t.movable h a with
      | false =>
          simp only [hmovable, Bool.false_and, Bool.false_eq_true, if_false, attempted] at ht' ⊢
          exact List.subset_append_of_subset_right _ (hrest _ t' ht')
      | true =>
          have hlog : (t.deletion h a).log ⊆ t.log h a := by
            rw [Turn.log, if_pos hmovable]
            exact List.subset_append_right _ _
          cases hdeleted : t.deleted h a with
          | false =>
              simp only [hmovable, hdeleted, Bool.not_false, Bool.and_self, if_true, attempted,
                Bool.false_eq_true, if_false, List.mem_singleton] at ht' ⊢
              rwa [ht']
          | true =>
              simp only [hmovable, hdeleted, Bool.not_true, Bool.and_false, Bool.false_eq_true,
                if_false, if_true, attempted, List.mem_cons] at ht' ⊢
              rcases ht' with rfl | ht'
              · exact List.subset_append_of_subset_left _ hlog
              · exact List.subset_append_of_subset_right _ (hrest _ t' ht')

/-- So it is in a run of `DeleteNodes`. -/
theorem deletion_subset_deleteNodes {asg : Asg} {l : List Node} {m : Machine W} {t : Turn W}
    (ht : t ∈ attempted (Turn.movable h a) (Turn.deleted h a) (deleteTurns h a asg l m)) :
    (t.deletion h a).log ⊆ ((a.deleteNodes asg l).exec h m).log := by
  intro e he
  simp only [StaticAutorepair.deleteNodes, exec_bind, Outcome.after_log, List.mem_append]
  exact .inr (.inr (.inr (.inr (.inl (deletion_subset_deleteLoop _ _ l _
    (fun node hnode => createNodeNameToInfoMap_of_mem hnode) t ht he)))))

/-- What the two listers answer in the run of `DeleteNodes` from `m`. -/
structure Listing (h : ApiService W) (asg : Asg) (m : Machine W)
    (pods : List Pod × Option KubeError) (pdbs : List PodDisruptionBudget × Option KubeError) :
    Prop where
  budgets : (listPodDisruptionBudgets.exec h (growStart h asg m)).val = pdbs
  pods : (listScheduledPods.exec h
    (listPodDisruptionBudgets.exec h (growStart h asg m)).mach).val = pods

/-- The turns then know these lists, whether or not errors came with them. -/
theorem Listing.of_mem_turns {asg : Asg} {l : List Node} {m : Machine W}
    {pods : List Pod × Option KubeError} {pdbs : List PodDisruptionBudget × Option KubeError}
    (hlists : Listing h asg m pods pdbs) {t : Turn W} (ht : t ∈ deleteTurns h a asg l m) :
    t.node ∈ l ∧ t.pdbs = pdbs.1 ∧
      t.nodePods = pods.1.filter fun pod => pod.nodeName == t.node.name := by
  obtain ⟨hmem, hpdbs, hpods⟩ := lists_of_mem_turns ht
  rw [hlists.budgets] at hpdbs
  rw [hlists.pods] at hpods
  exact ⟨hmem, hpdbs, hpods⟩

/-- What is to be moved in a turn is on the node. -/
theorem moved_of_mem_turns {asg : Asg} {l : List Node} {m : Machine W} {t : Turn W}
    (ht : t ∈ deleteTurns h a asg l m) :
    ∀ pod ∈ (t.moved h a).val.toOption.getD [], pod.nodeName = t.node.name := by
  obtain ⟨-, -, hpods⟩ := lists_of_mem_turns ht
  apply Turn.moved_pods
  intro pod hpod
  rw [hpods] at hpod
  simpa using (List.mem_filter.mp hpod).2

end

/-! ## A cluster with given lists and a given time -/

/-- The cluster at the time `t`, with these answers of the two listers; evicted pods
are gone at once. -/
def Cluster.scripted (c : Cluster) (t : Time) (pods : List Pod × Option KubeError)
    (pdbs : List PodDisruptionBudget × Option KubeError) : ApiService ClusterState :=
  fun w call =>
    match call with
    | .now => (t, w)
    | .listScheduledPods => (pods, w)
    | .listPodDisruptionBudgets => (pdbs, w)
    | .getPod .. => (.error ⟨"not found", true⟩, w)
    | call => c.service w call

namespace Cluster

variable (c : Cluster) (t : Time) (pods : List Pod × Option KubeError)
  (pdbs : List PodDisruptionBudget × Option KubeError)

theorem scripted_clock : ClockRuns (c.scripted t pods pdbs) fun _ => t :=
  ⟨fun _ _ => Int.le_refl _, fun _ => ⟨Int.le_refl _, Int.le_refl _⟩⟩

/-- It grants what the cluster grants. -/
theorem scripted_calm (asgs : List Asg) {ns : List Node} (hns : ∀ node ∈ ns, node ∈ c.nodes) :
    Calm (c.scripted t pods pdbs) ClusterState.desired c.owner (fun w id => id ∉ w.terminated)
      asgs ns where
  describe := c.awsLaws.describe
  set_ok := c.awsLaws.set_ok
  set_error := c.awsLaws.set_error
  terminate_ok := c.awsLaws.terminate_ok
  terminate_error := c.awsLaws.terminate_error
  other := by
    intro w call hcall
    cases call with
    | now | listScheduledPods | listPodDisruptionBudgets | getPod ns name => rfl
    | _ => exact c.awsLaws.other w _ hcall
  reports := (c.calm asgs hns).reports
  stays := by
    intro w call id hcall hup
    cases call with
    | now | listScheduledPods | listPodDisruptionBudgets | getPod ns name => exact hup
    | _ => exact (c.calm asgs hns).stays w _ id hcall hup
  set_succeeds := (c.calm asgs hns).set_succeeds
  terminate_succeeds := (c.calm asgs hns).terminate_succeeds
  getNode_succeeds := (c.calm asgs hns).getNode_succeeds
  updateNode_succeeds := (c.calm asgs hns).updateNode_succeeds

theorem scripted_counts : Counts (c.scripted t pods pdbs) ClusterState.terminated where
  terminate := c.counts.terminate
  other := by
    intro w call hcall
    cases call with
    | now | listScheduledPods | listPodDisruptionBudgets | getPod ns name => rfl
    | _ => exact c.counts.other w _ hcall

/-- Every drain that waits at all succeeds. -/
theorem scripted_drainNode (node : Node) (podsToRemove : List Pod) {maxGrace : Int}
    (hgrace : 0 < waitLimit maxGrace) (m : Machine ClusterState) :
    ((AutoNodeRepair.drainNode node podsToRemove maxGrace maxPodEvictionTime
      evictionRetryTime).exec (c.scripted t pods pdbs) m).val = .ok () := by
  obtain ⟨rest, hlog, hiff, -⟩ := drainNode_exec (h := c.scripted t pods pdbs) node podsToRemove
    maxGrace maxPodEvictionTime evictionRetryTime m
  rw [hiff]
  constructor
  · exact confirming_accepted ⟨fun _ _ _ => rfl, fun _ _ _ => Option.some_ne_none _⟩
  · have hgone : ∀ m : Machine ClusterState,
        ((AutoNodeRepair.sweepPods podsToRemove true).exec (c.scripted t pods pdbs) m).val =
          true := by
      intro m
      rw [sweepPods_iff]
      clear hlog hiff
      induction podsToRemove generalizing m with
      | nil => simp [podAnswers]
      | cons pod rest ih =>
          intro ans hans
          rcases List.mem_cons.mp hans with rfl | hans
          · exact ⟨_, rfl, rfl⟩
          · exact ih _ ans hans
    have hnow : ∀ m : Machine ClusterState, ((now).exec (c.scripted t pods pdbs) m).val = t :=
      fun _ => rfl
    unfold waiting
    simp only [awaitGone, exec_bind, Outcome.after_val, hnow, Int.sub_self, if_pos hgrace, hgone,
      if_true, exec_pure]

end Cluster

/-! ## Failed lists -/

/-- The requests that taint a node, evict a pod or terminate a machine. -/
def ApiCall.touches : ApiCall → Bool
  | .updateNode _ | .evict _ | .terminateInstance .. => true
  | _ => false

theorem ApiCall.not_touches_of_quiet {c : ApiCall} (hc : c.quiet = true) : c.touches = false := by
  cases c <;> simp_all [quiet, touches]

/-- The outside at the time `t` with these answers of the two listers. -/
def listingScript (t : Time) (pods : List Pod × Option KubeError)
    (pdbs : List PodDisruptionBudget × Option KubeError) : Script where
  sizes _ := none
  ready _ := 0
  times _ := t
  resize := .ok ()
  pods := pods
  pdbs := pdbs

/-- There a node is tainted as soon as the pods of one of them may be moved. -/
theorem listingScript_touches (a : StaticAutorepair) {l : List Node} {node : Node}
    (hnode : node ∈ l) {t : Time} {pods : List Pod × Option KubeError}
    {pdbs : List PodDisruptionBudget × Option KubeError} {moved : List Pod}
    (hmove : movablePods pdbs.1 t (pods.1.filter fun pod => pod.nodeName == node.name) =
      .ok moved) :
    ∃ e ∈ ((a.deleteNodes groupG l).exec (listingScript t pods pdbs).service
      (Script.knownBy groupG {})).log, e.call.touches = true := by
  generalize hservice : (listingScript t pods pdbs).service = h
  generalize hstart : Script.knownBy groupG {} = m
  -- the node has a turn, and in it its pods may be moved
  have hturn : ∃ turn ∈ deleteTurns h a groupG l m, turn.node = node := by
    have hmap : (deleteTurns h a groupG l m).map Turn.node = l := turns_map_node _ _ _ _
    exact List.mem_map.mp (hmap.symm ▸ hnode)
  obtain ⟨turn, hturn, rfl⟩ := hturn
  have hlists : Listing h groupG m pods pdbs := by
    rw [← hservice, ← hstart]
    exact ⟨rfl, rfl⟩
  obtain ⟨-, hpdbs, hpods⟩ := hlists.of_mem_turns hturn
  have hmovable : turn.movable h a = true := by
    rw [Turn.movable_iff, hpdbs, hpods, ← hservice]
    exact ⟨moved, hmove⟩
  -- so the loop gets to some node, and taints it
  obtain ⟨first, hfirst⟩ := exists_attempted (Turn.deleted h a) hturn hmovable
  have hget : (h (first.moved h a).mach.world (.getNode first.node.name)).1 =
      .ok (some { name := first.node.name, providerID := "" }) := by
    rw [← hservice]
    rfl
  obtain ⟨e, he, n, hcall⟩ := deleteNode_taints a.maxGracefulTerminationSec first.node
    ((first.moved h a).val.toOption.getD []) hget rfl
  exact ⟨e, deletion_subset_deleteNodes hfirst he, by rw [hcall]; rfl⟩

/-- **Failed lists.** Whatever lists and errors the two listers return, `DeleteNodes` touches
no node in any outside exactly if on the lists that came back every node is refused by a
budget at all times; the errors are not looked at. -/
theorem deleteNodes_untouched_iff (a : StaticAutorepair) (l : List Node)
    (pods : List Pod × Option KubeError) (pdbs : List PodDisruptionBudget × Option KubeError) :
    (∀ (W : Type) (h : ApiService W) (asg : Asg) (m : Machine W), Listing h asg m pods pdbs →
      ∀ e ∈ ((a.deleteNodes asg l).exec h m).log, e.call.touches = false) ↔
      ∀ node ∈ l, ∀ t, ∃ pdb ∈ pdbs.1, pdb.Refuses
        ((pods.1.filter fun pod => pod.nodeName == node.name).filter
          fun pod => !exemptPod t pod) := by
  constructor
  · intro huntouched node hnode t
    rw [← movablePods_error_iff]
    cases hmove : movablePods pdbs.1 t (pods.1.filter fun pod => pod.nodeName == node.name) with
    | error err => exact ⟨err, rfl⟩
    | ok moved =>
        obtain ⟨e, he, htouches⟩ := listingScript_touches a hnode hmove
        have huntouched := huntouched _ _ groupG (Script.knownBy groupG {}) ⟨rfl, rfl⟩ e he
        simp [huntouched] at htouches
  · intro hrefused W h asg m hlists
    refine deleteNodes_events (fun e he => ApiCall.not_touches_of_quiet he) ?_
    intro t ht hmovable
    obtain ⟨hmem, hpdbs, hpods⟩ := hlists.of_mem_turns ht
    obtain ⟨moved, hmoved⟩ := Turn.movable_iff.mp hmovable
    obtain ⟨err, herr⟩ := movablePods_error_iff.mpr (hrefused t.node hmem (h t.mach.world .now).1)
    rw [hpdbs, hpods, herr] at hmoved
    simp at hmoved

/-- The list of pods fails, and a node with a running pod is terminated. -/
theorem deleteNodes_goes_blind :
    let pods : List Pod × Option KubeError := ([], some ⟨"timeout", false⟩)
    let h := Cluster.sample.scripted 0 pods ([], none)
    let log := ((({} : StaticAutorepair).deleteNodes groupG [node1]).exec h sampleMachine).log
    Listing h groupG sampleMachine pods ([], none) ∧
      (log.any fun e => e.call.touches) = true ∧ terminations log = ["i-1"] :=
  ⟨⟨rfl, rfl⟩, by decide, by decide +kernel⟩

/-! ## The skip flags -/

/-- Matched by a disruption budget of `kube-system`. -/
def systemPdbMatches (pdbs : List PodDisruptionBudget) (pod : Pod) : Bool :=
  pdbs.any fun pdb => pdb.ns == "kube-system" &&
    match pdb.selector with
    | .ok selector => selector pod.labels
    | .error _ => false

/-- A pod for whose sake the flags promise to leave its node alone at the time `t`. -/
def protectedPod (a : StaticAutorepair) (pdbs : List PodDisruptionBudget) (t : Time)
    (pod : Pod) : Bool :=
  !exemptPod t pod &&
    ((a.skipNodesWithSystemPods && pod.ns == "kube-system" && !systemPdbMatches pdbs pod) ||
      (a.skipNodesWithLocalStorage && hasLocalStorage pod))

section

variable {W : Type} {h : ApiService W} {a : StaticAutorepair}

/-- No machine is terminated but those of the nodes worked on. -/
theorem terminations_kept (h : ApiService W) (nodes : Node → Prop) :
    Kept h (fun _ => True) (fun e => ∀ id dec, e.call = .terminateInstance id dec →
      ∃ node, nodes node ∧ awsRefFromProviderId node.providerID = .ok ⟨id⟩) (fun _ => True)
      nodes := by
  refine Kept.of_closed (fun _ => True) (fun _ _ _ => trivial) ?_ ?_ ?_ ?_ ?_ ?_
  · rintro w - c hc id dec hcall
    rw [Service.event_call] at hcall
    simp [hcall, ApiCall.quiet] at hc
  · intro w _ n _ id dec hcall
    simp at hcall
  · intro w _ n _ w' _ fresh _ taints id dec hcall
    simp at hcall
  · intro w _ n _ pod _ id dec hcall
    simp at hcall
  · intro w _ name size id dec hcall
    simp at hcall
  · rintro w - n hn ref dec hparse id dec' hcall
    simp only [Service.event_call, ApiCall.terminateInstance.injEq] at hcall
    exact ⟨n, hn, by rw [hparse, ← hcall.1]⟩

/-- `deleteNode` terminates no machine but the node's own. -/
theorem deleteNode_terminates_own (maxGrace : Int) (node : Node) {pods : List Pod}
    (hpods : ∀ pod ∈ pods, pod.nodeName = node.name) (m : Machine W) :
    ∀ e ∈ ((deleteNode maxGrace node pods).exec h m).log, ∀ id dec,
      e.call = .terminateInstance id dec →
      awsRefFromProviderId node.providerID = .ok ⟨id⟩ := by
  intro e he id dec hcall
  obtain ⟨n, rfl, hparse⟩ := ((terminations_kept h (· = node)).deleteNode rfl hpods maxGrace m
    trivial).2 e he id dec hcall
  exact hparse

/-- Without time to wait no drain succeeds. -/
theorem drainNode_fails {clock : W → Time} (hclock : ClockRuns h clock) (node : Node)
    (pods : List Pod) {maxGrace : Int} (hgrace : waitLimit maxGrace ≤ 0)
    (maxEviction wait : Duration) (m : Machine W) :
    ((drainNode node pods maxGrace maxEviction wait).exec h m).val ≠ .ok () := by
  intro hok
  obtain ⟨-, -, hiff, -⟩ := drainNode_exec (h := h) node pods maxGrace maxEviction wait m
  obtain ⟨m', hsweep, -⟩ := awaitGone_sound (hiff.mp hok).2
  generalize (confirming h pods maxEviction wait m).mach = m at hsweep
  have hlater : ((now).exec h m).val ≤ ((now).exec h ((now).exec h m).mach).val :=
    Int.le_trans (hclock.reads m.world).2 (hclock.reads _).1
  have hin : ((now).exec h ((now).exec h m).mach).val - ((now).exec h m).val <
      waitLimit maxGrace := by
    cases hsweep with
    | first hin => exact hin
    | later hin _ _ => exact hin
  simp only [Time, Duration] at hlater hin hgrace
  omega

/-- And nothing is terminated without a drain. -/
theorem deleteNode_spares {maxGrace : Int} {node : Node} {pods : List Pod}
    (hpods : ∀ pod ∈ pods, pod.nodeName = node.name)
    (hdrain : ∀ m : Machine W, ((drainNode node pods maxGrace maxPodEvictionTime
      evictionRetryTime).exec h m).val ≠ .ok ()) (m : Machine W) :
    ∀ e ∈ ((deleteNode maxGrace node pods).exec h m).log, ∀ id dec,
      e.call ≠ .terminateInstance id dec := by
  have hdrains : Drains h (fun _ => True)
      (fun e => ∀ id dec, e.call ≠ .terminateInstance id dec) (fun _ => True) := by
    refine drains_of_frame ?_ fun ref => ?_
    · rintro c hc m - 
      refine ⟨trivial, ?_⟩
      rintro id dec hcall
      rw [Service.event_call] at hcall
      simp [hcall, ApiCall.resizes] at hc
    · refine ((Looks.quiet_only h).find ref).weaken_events ?_
      intro e he id dec hcall
      simp [hcall, ApiCall.quiet] at he
  have hmark := hdrains.mark node trivial
  have hclean := hdrains.clean node trivial
  have hdrained := hdrains.drainNode node (fun pod hpod => ⟨node, trivial, hpods pod hpod⟩) maxGrace
    maxPodEvictionTime evictionRetryTime
  intro e he
  simp only [deleteNode, exec_bind, Outcome.after_log] at he
  rcases List.mem_append.mp he with he | he
  · exact (hmark m trivial).2 e he
  · split at he
    · simp at he
    · cases hval : ((drainNode node pods maxGrace maxPodEvictionTime evictionRetryTime).exec h
        ((markToBeDeleted node).exec h m).mach).val with
      | ok _ => exact absurd hval (hdrain _)
      | error err =>
          simp only [drainAndDelete, exec_bind, hval, Outcome.after_log, Outcome.after_val,
            Outcome.after_mach, exec_pure, List.append_nil, List.mem_append] at he
          rcases he with he | he
          · exact (hdrained _ trivial).2 e he
          · exact (hclean _ trivial).2 e he

theorem mem_terminations {log : List (ApiEvent W)} {id : String} :
    id ∈ terminations log ↔ ∃ e ∈ log, ∃ dec, e.call = .terminateInstance id dec := by
  simp only [terminations, List.mem_filterMap]
  refine exists_congr fun e => and_congr_right fun _ => ?_
  split
  · rename_i id' dec hcall
    simp [hcall, eq_comm]
  · rename_i hother
    simp only [reduceCtorEq, false_iff, not_exists]
    exact fun dec => hother id dec

/-- The list of terminations grows by those of the log. -/
theorem Counts.exec_eq {terms : W → List String} (counts : Counts h terms) {α : Type} (p : Ctl α)
    (m : Machine W) :
    terms (p.exec h m).mach.world = terms m.world ++ terminations (p.exec h m).log := by
  induction p generalizing m with
  | ret x => simp [Prog.exec, terminations]
  | load k ih => exact ih _ m
  | save s k ih => exact ih _
  | ask c k ih =>
      have hcall : terms (h m.world c).2 =
          terms m.world ++ terminations [Service.event h m.world c] := by
        by_cases hterm : ∃ id dec, c = .terminateInstance id dec
        · obtain ⟨id, dec, rfl⟩ := hterm
          exact counts.terminate m.world id dec
        · have hnone : terminations [Service.event h m.world c] = [] := by
            rw [List.eq_nil_iff_forall_not_mem]
            intro id hid
            obtain ⟨e, he, dec, hcall⟩ := mem_terminations.mp hid
            rw [List.mem_singleton.mp he] at hcall
            exact hterm ⟨id, dec, hcall⟩
          rw [counts.other m.world c fun id dec heq => hterm ⟨id, dec, heq⟩, hnone,
            List.append_nil]
      have hsplit : ∀ log : List (ApiEvent W), terminations (Service.event h m.world c :: log) =
          terminations [Service.event h m.world c] ++ terminations log :=
        fun log => List.filterMap_append (l := [_])
      simp only [Prog.exec, ih, hcall, List.append_assoc]
      rw [← hsplit]
      rfl

end

/-- A node with its machine in the sample group. -/
def Cluster.single (id : String) (node : Node) : Cluster where
  machines := [(id, groupG.name)]
  distinct := by simp
  nodes := [node]

/-- There the node is terminated if its pods may be moved, whatever the flags. -/
theorem Cluster.single_terminates (a : StaticAutorepair) {node : Node} {ref : AwsRef}
    (href : awsRefFromProviderId node.providerID = .ok ref)
    (hgrace : 0 < waitLimit a.maxGracefulTerminationSec) {t : Time} {pods moved : List Pod}
    {pdbs : List PodDisruptionBudget}
    (hmove : movablePods pdbs t (pods.filter fun pod => pod.nodeName == node.name) = .ok moved) :
    ∃ e ∈ ((a.deleteNodes groupG [node]).exec
      ((Cluster.single ref.name node).scripted t (pods, none) (pdbs, none))
      ⟨freshStore [groupG], sampleState⟩).log,
      ∃ dec, e.call = .terminateInstance ref.name dec := by
  generalize hc : Cluster.single ref.name node = c
  have hname : instanceName node = ref.name := by simp [instanceName, href]
  have howner : c.owner ref.name = some groupG.name := by
    rw [← hc]
    exact Cluster.owner_of_mem _ List.mem_cons_self
  have S : AtStage.Setting (c.scripted t (pods, none) (pdbs, none)) ClusterState.desired c.owner
      (fun w id => id ∉ w.terminated) [groupG] [node] ClusterState.terminated
      (fun id => id = ref.name) :=
    { calm := c.scripted_calm t _ _ _ (by simp [← hc, Cluster.single])
      counts := c.scripted_counts t _ _
      names := by simp
      work := by
        rintro id rfl
        exact ⟨groupG, by simp, howner⟩ }
  have hdrain : DrainableNow (c.scripted t (pods, none) (pdbs, none)) a node :=
    fun _ _ _ => ⟨moved, hmove, c.scripted_drainNode t _ _ node moved hgrace⟩
  have htodo : Todo c.owner (fun id => id = ref.name) groupG [] node :=
    ⟨by rw [hname, href], hname, by simp, hname ▸ howner⟩
  have hgroup : groupG ∈ [groupG] := List.mem_singleton.mpr rfl
  have hmin : groupG.minSize ≤ 2 := by decide
  have hnodes : ∀ n ∈ [node], n ∈ [node] ∧ Todo c.owner (fun id => id = ref.name) groupG [] n := by
    simpa using htodo
  have hstart : AtStage ClusterState.desired ClusterState.terminated
      (fun w id => id ∉ w.terminated) (fun id => id = ref.name) c.owner [groupG]
      (Function.update (fun _ => 1) groupG.name 2) [] ⟨freshStore [groupG], sampleState⟩ :=
    ⟨freshStore_cacheInv _ _ _, rfl, rfl, by simp [sampleState]⟩
  have hafter := (AtStage.deleteNodes S (fun _ => 1) hgroup a hmin hnodes (by simp)
    (by simpa using hdrain) _ hstart).1.stage.terminated
  rw [S.counts.exec_eq] at hafter
  have hterm : ref.name ∈ terminations ((a.deleteNodes groupG [node]).exec
      (c.scripted t (pods, none) (pdbs, none)) ⟨freshStore [groupG], sampleState⟩).log := by
    simpa [sampleState, hname] using congrArg (ref.name ∈ ·) hafter
  exact mem_terminations.mp hterm

section

variable {W : Type} {h : ApiService W} {a : StaticAutorepair}

/-- If no drain has time to succeed, no machine is terminated. -/
theorem deleteNodes_spares_all {clock : W → Time} (hclock : ClockRuns h clock)
    (hgrace : waitLimit a.maxGracefulTerminationSec ≤ 0) (asg : Asg) (l : List Node)
    (m : Machine W) :
    ∀ e ∈ ((a.deleteNodes asg l).exec h m).log, ∀ id dec, e.call ≠ .terminateInstance id dec := by
  apply deleteNodes_events
  · intro e he id dec hcall
    simp [hcall, ApiCall.quiet] at he
  · intro t ht _
    exact deleteNode_spares (moved_of_mem_turns ht)
      (fun m' => drainNode_fails hclock _ _ hgrace _ _ m') _

/-- A machine is terminated only in a movable turn of a node that has it. -/
theorem deleteNodes_spares_unmovable {asg : Asg} {l : List Node} {m : Machine W} {ref : AwsRef}
    (hunmovable : ∀ t ∈ deleteTurns h a asg l m,
      awsRefFromProviderId t.node.providerID = .ok ref → t.movable h a ≠ true) :
    ∀ e ∈ ((a.deleteNodes asg l).exec h m).log, ∀ dec,
      e.call ≠ .terminateInstance ref.name dec := by
  apply deleteNodes_events
  · intro e he dec hcall
    simp [hcall, ApiCall.quiet] at he
  · intro t ht hmovable e he dec hcall
    have href := deleteNode_terminates_own _ t.node (moved_of_mem_turns ht) _ e he ref.name dec
      hcall
    exact hunmovable t ht href hmovable

end

/-- The flags protect the node in every outside exactly when something else does: the
node has no machine to terminate, no drain has time to succeed, or whenever the
node hosts a protected pod its budgets refuse to move its pods. -/
theorem deleteNodes_spares_iff (a : StaticAutorepair) (node : Node) (pods : List Pod)
    (pdbs : List PodDisruptionBudget) :
    (∀ (W : Type) (h : ApiService W) (clock : W → Time), ClockRuns h clock →
      ∀ (asg : Asg) (l : List Node) (m : Machine W), Listing h asg m (pods, none) (pdbs, none) →
      ∀ ref, awsRefFromProviderId node.providerID = .ok ref →
      (∀ other ∈ l, awsRefFromProviderId other.providerID = .ok ref → other = node) →
      (∀ t ∈ deleteTurns h a asg l m, t.node = node →
        ∃ pod ∈ t.nodePods, protectedPod a pdbs (h t.mach.world .now).1 pod = true) →
      ∀ e ∈ ((a.deleteNodes asg l).exec h m).log, ∀ dec,
        e.call ≠ .terminateInstance ref.name dec) ↔
    (∀ ref, awsRefFromProviderId node.providerID ≠ .ok ref) ∨
      waitLimit a.maxGracefulTerminationSec ≤ 0 ∨
      ∀ t, (∃ pod ∈ pods.filter fun pod => pod.nodeName == node.name,
          protectedPod a pdbs t pod = true) →
        ∃ err, movablePods pdbs t (pods.filter fun pod => pod.nodeName == node.name) =
          .error err := by
  constructor
  · intro hspares
    by_contra hcond
    simp only [not_or, not_forall, not_exists, ne_eq, not_not] at hcond
    obtain ⟨⟨ref, href⟩, hgrace, t, hhosts, hmove⟩ := hcond
    cases hmoved : movablePods pdbs t (pods.filter fun pod => pod.nodeName == node.name) with
    | error err => exact hmove err hmoved
    | ok moved =>
        -- the cluster of this node alone: nothing there stops the deletion
        obtain ⟨e, he, dec, hcall⟩ :=
          Cluster.single_terminates a href (Int.not_le.mp hgrace) hmoved
        refine hspares _ _ _ (Cluster.scripted_clock _ t _ _) groupG [node] _ ⟨rfl, rfl⟩ ref href
          (by simp) ?_ e he dec hcall
        intro turn hturn hnode
        obtain ⟨-, -, hpods⟩ := Listing.of_mem_turns ⟨rfl, rfl⟩ hturn
        rw [hpods, hnode]
        exact hhosts
  · rintro (hmalformed | hgrace | hrefused) W h clock hclock asg l m hlists ref href hown hprotected
    · exact absurd href (hmalformed ref)
    · intro e he dec
      exact deleteNodes_spares_all hclock hgrace asg l m e he ref.name dec
    · apply deleteNodes_spares_unmovable
      -- the node's turn: it hosts a protected pod, so its budgets refuse
      intro t ht hturn hmovable
      obtain ⟨hmem, hpdbs, hpods⟩ := hlists.of_mem_turns ht
      have hself : t.node = node := hown t.node hmem hturn
      have hhosts := hprotected t ht hself
      obtain ⟨moved, hmoved⟩ := Turn.movable_iff.mp hmovable
      rw [hpods, hself] at hhosts hmoved
      obtain ⟨err, herr⟩ := hrefused _ hhosts
      rw [hpdbs] at hmoved
      exact absurd (herr.symm.trans hmoved) (by simp)

/-- Both flags are set, and the machine of a node with a system pod that has local
storage is terminated. -/
theorem deleteNodes_ignores_skip_flags :
    let a : StaticAutorepair :=
      { skipNodesWithSystemPods := true, skipNodesWithLocalStorage := true }
    let dns : Pod := { ns := "kube-system", name := "dns", nodeName := "n1",
                       volumes := [{ emptyDir := true }] }
    let h := Cluster.sample.scripted 0 ([dns], none) ([], none)
    protectedPod a [] 0 dns = true ∧ Listing h groupG sampleMachine ([dns], none) ([], none) ∧
      terminations ((a.deleteNodes groupG [node1]).exec h sampleMachine).log = ["i-1"] :=
  ⟨by decide, ⟨rfl, rfl⟩, by decide +kernel⟩

end AutoNodeRepair
