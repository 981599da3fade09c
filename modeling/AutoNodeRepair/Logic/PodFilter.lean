import AutoNodeRepair.Model.Repair

/-!
# What the drain filter lets through

`DetailedGetPodsForMove` passes `deleteAll = true` and `checkReferences = false`,
so of the whole filter only the exemptions remain (`exemptPod`), and of the
objections only the disruption budgets (`detailedGetPodsForMove_eq`). The map
of `CreateNodeNameToInfoMap` files each pod under its node.
-/

namespace AutoNodeRepair

open Interact

/-- Controlled by a DaemonSet. -/
def isDaemonSetPod (pod : Pod) : Bool :=
  match controllerRef pod with
  | some ref => ref.kind == .daemonSet
  | none => false

/-- The pods a drain leaves alone: mirror pods, DaemonSet pods and pods that
have been under deletion for too long. -/
def exemptPod (t : Time) (pod : Pod) : Bool :=
  isMirrorPod pod || longUnderDeletion pod t || isDaemonSetPod pod

/-- Without reference checks the controller's kind alone decides. -/
theorem controllerVerdict_unchecked (pod : Pod) (minReplica : Int) :
    ∃ verdict, controllerVerdict pod false minReplica = pure (.ok verdict) ∧
      verdict.daemonsetPod = isDaemonSetPod pod := by
  unfold controllerVerdict isDaemonSetPod
  cases controllerRef pod with
  | none => exact ⟨_, rfl, rfl⟩
  | some ref =>
      obtain ⟨kind, name, controller⟩ := ref
      cases kind <;> exact ⟨_, rfl, rfl⟩

/-- With `deleteAll` and without reference checks the filter asks nothing and
drops exactly the exempt pods. -/
theorem drainFilter_deleteAll (kubeSystemPDBs : List PodDisruptionBudget)
    (skipSystem skipLocal : Bool) (minReplica : Int) (t : Time) (pods : List Pod) :
    drainFilter kubeSystemPDBs true skipSystem skipLocal false minReplica t pods =
      pure (.ok (pods.filter fun pod => !exemptPod t pod)) := by
  induction pods with
  | nil => rfl
  | cons pod rest ih =>
      obtain ⟨verdict, hverdict, hds⟩ := controllerVerdict_unchecked pod minReplica
      unfold drainFilter
      rw [ih, hverdict]
      by_cases hskip : (isMirrorPod pod || longUnderDeletion pod t) = true
      · have hexempt : exemptPod t pod = true := by simp [exemptPod, hskip]
        rw [if_pos hskip, List.filter_cons, hexempt]
        rfl
      · have hexempt : exemptPod t pod = isDaemonSetPod pod := by
          rw [Bool.not_eq_true] at hskip
          simp [exemptPod, hskip]
        rw [if_neg hskip, List.filter_cons, hexempt]
        -- the verdict is known, so the bind with it reduces
        show (if verdict.daemonsetPod = true then _ else _) = _
        rw [hds]
        cases isDaemonSetPod pod <;> rfl

/-- The pod is in the namespace of the budget and its selector matches. -/
def PodDisruptionBudget.covers (pdb : PodDisruptionBudget) (pod : Pod) : Bool :=
  pod.ns == pdb.ns &&
    match pdb.selector with
    | .ok selector => selector pod.labels
    | .error _ => false

theorem checkPdb_ok_iff {pdb : PodDisruptionBudget} {selector : Labels → Bool}
    (hselector : pdb.selector = .ok selector) (pods : List Pod) :
    checkPdb pdb selector pods = .ok () ↔
      ∀ pod ∈ pods, pdb.covers pod = true → 1 ≤ pdb.podDisruptionsAllowed := by
  induction pods with
  | nil => simp [checkPdb]
  | cons pod rest ih =>
      have hcovers : (pod.ns == pdb.ns && selector pod.labels) = pdb.covers pod := by
        simp [PodDisruptionBudget.covers, hselector]
      simp only [checkPdb, hcovers, List.forall_mem_cons]
      split
      · rename_i hrefused
        simp only [Bool.and_eq_true, decide_eq_true_eq] at hrefused
        simp only [reduceCtorEq, false_iff, not_and]
        intro hallowed
        have := hallowed hrefused.1
        omega
      · rename_i hpasses
        rw [ih]
        refine ⟨fun hrest => ⟨fun hcovered => ?_, hrest⟩, And.right⟩
        simp only [hcovered, Bool.true_and, decide_eq_true_eq] at hpasses
        omega

/-- The budgets let pods go if their selectors parse and none that covers a pod is used up. -/
theorem checkPdbs_ok_iff (pods : List Pod) (pdbs : List PodDisruptionBudget) :
    checkPdbs pods pdbs = .ok () ↔
      ∀ pdb ∈ pdbs, (∃ selector, pdb.selector = .ok selector) ∧
        ∀ pod ∈ pods, pdb.covers pod = true → 1 ≤ pdb.podDisruptionsAllowed := by
  induction pdbs with
  | nil => simp [checkPdbs]
  | cons pdb rest ih =>
      simp only [checkPdbs, List.forall_mem_cons, ← ih]
      cases hselector : pdb.selector with
      | error err => simp
      | ok selector =>
          rw [← checkPdb_ok_iff hselector]
          cases hcheck : checkPdb pdb selector pods with
          | error err => simp [hcheck]
          | ok _ => simp [hcheck]

/-- The budget refuses: its selector does not parse, or it is used up and covers one. -/
def PodDisruptionBudget.Refuses (pdb : PodDisruptionBudget) (pods : List Pod) : Prop :=
  (∃ err, pdb.selector = .error err) ∨
    (pdb.podDisruptionsAllowed < 1 ∧ ∃ pod ∈ pods, pdb.covers pod = true)

theorem checkPdbs_ok_iff_refuses (pods : List Pod) (pdbs : List PodDisruptionBudget) :
    checkPdbs pods pdbs = .ok () ↔ ¬ ∃ pdb ∈ pdbs, pdb.Refuses pods := by
  rw [checkPdbs_ok_iff]
  simp only [not_exists, not_and]
  refine forall₂_congr fun pdb _ => ?_
  unfold PodDisruptionBudget.Refuses
  cases pdb.selector with
  | error err => simp
  | ok selector =>
      simp only [Except.ok.injEq, exists_eq', true_and, reduceCtorEq, exists_false, false_or,
        not_and, not_exists]
      constructor
      · intro hallowed hused pod hpod hcovers
        have := hallowed pod hpod hcovers
        omega
      · intro hfree pod hpod hcovers
        by_contra hused
        exact hfree (by omega) pod hpod hcovers

/-- `checkPdbs` as the verdict of `DetailedGetPodsForMove` on the pods left. -/
def movablePods (pdbs : List PodDisruptionBudget) (t : Time) (nodePods : List Pod) :
    Except String (List Pod) :=
  let pods := nodePods.filter fun pod => !exemptPod t pod
  match checkPdbs pods pdbs with
  | .error err => .error err
  | .ok () => .ok pods

/-- `DetailedGetPodsForMove` looks at the clock and at the budgets only. -/
theorem detailedGetPodsForMove_eq (nodePods : List Pod) (skipSystem skipLocal : Bool)
    (minReplicaCount : Int) (pdbs : List PodDisruptionBudget) :
    detailedGetPodsForMove nodePods skipSystem skipLocal minReplicaCount pdbs =
      (now >>= fun t => pure (movablePods pdbs t nodePods)) := by
  unfold detailedGetPodsForMove getPodsForDeletionOnNodeDrain getPodsThenCheckPdbs movablePods
  simp only [drainFilter_deleteAll]
  congr 1
  funext t
  show (match checkPdbs (nodePods.filter fun pod => !exemptPod t pod) pdbs with
      | .error err => _ | .ok () => _) = _
  cases checkPdbs (nodePods.filter fun pod => !exemptPod t pod) pdbs <;> rfl

/-- Its run is one look at the clock. -/
theorem detailedGetPodsForMove_exec {W : Type} (h : ApiService W) (nodePods : List Pod)
    (skipSystem skipLocal : Bool) (minReplicaCount : Int) (pdbs : List PodDisruptionBudget)
    (m : Machine W) :
    (detailedGetPodsForMove nodePods skipSystem skipLocal minReplicaCount pdbs).exec h m =
      ⟨movablePods pdbs (h m.world .now).1 nodePods,
        [⟨.now, (h m.world .now).1, m.world, (h m.world .now).2⟩],
        { m with world := (h m.world .now).2 }⟩ := by
  rw [detailedGetPodsForMove_eq]
  rfl

/-- A node's pods may not be moved exactly if a budget refuses it. -/
theorem movablePods_error_iff {pdbs : List PodDisruptionBudget} {t : Time} {nodePods : List Pod} :
    (∃ err, movablePods pdbs t nodePods = .error err) ↔
      ∃ pdb ∈ pdbs, pdb.Refuses (nodePods.filter fun pod => !exemptPod t pod) := by
  have hcheck := checkPdbs_ok_iff_refuses (nodePods.filter fun pod => !exemptPod t pod) pdbs
  rw [← not_iff_not, ← hcheck]
  cases hc : checkPdbs (nodePods.filter fun pod => !exemptPod t pod) pdbs with
  | error err => simp [movablePods, hc]
  | ok _ => simp [movablePods, hc]

theorem movablePods_ok {pdbs : List PodDisruptionBudget} {t : Time} {nodePods pods : List Pod}
    (h : movablePods pdbs t nodePods = .ok pods) :
    pods = nodePods.filter fun pod => !exemptPod t pod := by
  unfold movablePods at h
  cases hc : checkPdbs (nodePods.filter fun pod => !exemptPod t pod) pdbs with
  | error err => simp [hc] at h
  | ok _ =>
      simp only [hc, Except.ok.injEq] at h
      exact h.symm

/-- The pods to be moved are among those of the node. -/
theorem movablePods_subset {pdbs : List PodDisruptionBudget} {t : Time}
    {nodePods pods : List Pod} (h : movablePods pdbs t nodePods = .ok pods) : pods ⊆ nodePods := by
  rw [movablePods_ok h]
  exact List.filter_subset_self _

theorem movablePods_eq_ok {pdbs : List PodDisruptionBudget} {t : Time} {nodePods pods : List Pod} :
    movablePods pdbs t nodePods = .ok pods ↔
      pods = nodePods.filter (fun pod => !exemptPod t pod) ∧ checkPdbs pods pdbs = .ok () := by
  constructor
  · intro hok
    have hpods := movablePods_ok hok
    unfold movablePods at hok
    rw [← hpods] at hok
    cases hcheck : checkPdbs pods pdbs with
    | error err => simp [hcheck] at hok
    | ok _ => exact ⟨hpods, rfl⟩
  · rintro ⟨rfl, hcheck⟩
    simp [movablePods, hcheck]

/-! ## The pods of a node -/

theorem addPodInfo_getD (pods : List Pod) (infos : String → Option (List Pod)) (name : String) :
    ((pods.foldl addPodInfo infos) name).getD [] =
      (infos name).getD [] ++ pods.filter fun pod => pod.nodeName == name := by
  induction pods generalizing infos with
  | nil => simp
  | cons pod rest ih =>
      rw [List.foldl_cons, ih, List.filter_cons]
      by_cases hname : pod.nodeName = name
      · subst hname
        simp [addPodInfo]
      · have hne : name ≠ pod.nodeName := fun heq => hname heq.symm
        simp [addPodInfo, hname, hne]

theorem setNodeInfo_foldl (nodes : List Node) (infos : String → Option (List Pod))
    (name : String) :
    (nodes.foldl setNodeInfo infos) name =
      if ∃ node ∈ nodes, node.name = name then some ((infos name).getD []) else infos name := by
  induction nodes generalizing infos with
  | nil => simp
  | cons node rest ih =>
      rw [List.foldl_cons, ih]
      by_cases hname : node.name = name
      · subst hname
        simp [setNodeInfo]
      · have hne : name ≠ node.name := fun heq => hname heq.symm
        simp [setNodeInfo, hname, hne]

/-- A listed node is found in the map, with exactly the pods bound to it. -/
theorem createNodeNameToInfoMap_of_mem {pods : List Pod} {nodes : List Node} {node : Node}
    (hmem : node ∈ nodes) :
    createNodeNameToInfoMap pods nodes node.name =
      some (pods.filter fun pod => pod.nodeName == node.name) := by
  unfold createNodeNameToInfoMap
  rw [setNodeInfo_foldl, if_pos ⟨node, hmem, rfl⟩, addPodInfo_getD]
  simp

/-- The map of `CreateNodeNameToInfoMap` files only a node's own pods under it. -/
theorem createNodeNameToInfoMap_pods (pods : List Pod) (l : List Node) (name : String)
    (nodePods : List Pod) (hinfo : createNodeNameToInfoMap pods l name = some nodePods) :
    ∀ pod ∈ nodePods, pod.nodeName = name := by
  intro pod hpod
  have hgetD : (createNodeNameToInfoMap pods l name).getD [] =
      pods.filter fun pod => pod.nodeName == name := by
    unfold createNodeNameToInfoMap
    rw [setNodeInfo_foldl]
    split <;> simp [addPodInfo_getD]
  rw [hinfo] at hgetD
  have hmem : pod ∈ pods.filter fun pod => pod.nodeName == name := hgetD ▸ hpod
  simpa using (List.mem_filter.mp hmem).2

end AutoNodeRepair
