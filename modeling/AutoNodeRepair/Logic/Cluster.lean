import AutoNodeRepair.Logic.Calm

/-!
# A cooperative cluster

An outside in which every request succeeds and nobody but the controller acts:
groups with fixed machines, nodes, pods and budgets. It shows that the laws
assumed of the outside can be met (`Cluster.awsLaws`), and concrete runs take
place in it, or in a variation of it that overrides a few answers.
-/

namespace AutoNodeRepair

open Interact

/-- What does not change: the machines with their groups, the nodes that are not
ready, the ready ones a group gets when it grows, the pods and the budgets. -/
structure Cluster where
  machines : List (String × String)
  distinct : (machines.map Prod.fst).Nodup
  nodes : List Node := []
  spares : List Node := []
  pods : List Pod := []
  pdbs : List PodDisruptionBudget := []

/-- What does: the desired capacities, how many spares were launched, the names
of the nodes carrying the taint, the instances terminated, the pods evicted. -/
structure ClusterState where
  desired : String → Int
  launched : Nat := 0
  tainted : List String := []
  terminated : List String := []
  evicted : List (String × String) := []

namespace Cluster

/-- The group of a machine. -/
def owner (c : Cluster) (id : String) : Option String :=
  (c.machines.find? fun machine => machine.1 == id).map Prod.snd

/-- The machines of a group that were not terminated. -/
def members (c : Cluster) (w : ClusterState) (name : String) : List Instance :=
  (c.machines.filter fun machine => machine.2 == name && !w.terminated.contains machine.1).map
    fun machine => ⟨machine.1, "z"⟩

/-- The node object of a name. -/
def lookupNode (c : Cluster) (w : ClusterState) (name : String) : Option Node :=
  (c.nodes.find? fun node => node.name == name).map fun node =>
    if w.tainted.contains name then
      { node with taints := node.taints ++ [⟨toBeDeletedTaint, "0", "NoSchedule"⟩] }
    else node

/-- The pod of a key, unless it was evicted. -/
def lookupPod (c : Cluster) (w : ClusterState) (key : String × String) : Except KubeError Pod :=
  match c.pods.find? fun pod => pod.key == key && !w.evicted.contains pod.key with
  | some pod => .ok pod
  | none => .error ⟨"not found", true⟩

/-- The desired capacities after a termination. -/
def shrink (c : Cluster) (w : ClusterState) (id : String) (dec : Bool) : String → Int :=
  match c.owner id with
  | some name =>
      if dec then Function.update w.desired name (w.desired name - 1) else w.desired
  | none => w.desired

/-- The outside: it grants everything. -/
def service (c : Cluster) : ApiService ClusterState := fun w call =>
  match call with
  | .now => (0, w)
  | .sleep _ => ((), w)
  | .hourElapsed => (false, w)
  | .schedule _ => (some 0, w)
  | .describeAutoScalingGroups name => (.ok [⟨w.desired name, c.members w name⟩], w)
  | .setDesiredCapacity name size =>
      (.ok (), { w with
        desired := Function.update w.desired name size
        launched := w.launched + (size - w.desired name).toNat })
  | .terminateInstance id dec =>
      (.ok (), { w with desired := c.shrink w id dec, terminated := w.terminated ++ [id] })
  | .listNodes .ready => (.ok (c.spares.take w.launched), w)
  | .listNodes .notReady => (.ok c.nodes, w)
  | .listScheduledPods =>
      ((c.pods.filter fun pod => !w.evicted.contains pod.key, none), w)
  | .listPodDisruptionBudgets => ((c.pdbs, none), w)
  | .getNode name => (.ok (c.lookupNode w name), w)
  | .updateNode node =>
      (.ok (), { w with
        tainted := if hasToBeDeletedTaint node then w.tainted ++ [node.name]
          else w.tainted.filter fun name => name != node.name })
  | .evict pod => (.ok (), { w with evicted := w.evicted ++ [pod.key] })
  | .getPod ns name => (c.lookupPod w (ns, name), w)
  | .getController .. => (.ok none, w)
  | .registerScaleDown .. => ((), w)

theorem owner_of_mem (c : Cluster) {id name : String} (hmem : (id, name) ∈ c.machines) :
    c.owner id = some name := by
  have hdistinct := c.distinct
  unfold owner
  generalize c.machines = machines at hmem hdistinct
  induction machines with
  | nil => simp at hmem
  | cons machine rest ih =>
      simp only [List.map_cons, List.nodup_cons] at hdistinct
      rw [List.find?_cons]
      rcases List.mem_cons.mp hmem with rfl | hrest
      · simp
      · have hne : machine.1 ≠ id := by
          rintro rfl
          exact hdistinct.1 (List.mem_map.mpr ⟨_, hrest, rfl⟩)
        simp only [beq_eq_false_iff_ne.mpr hne]
        exact ih hrest hdistinct.2

theorem owner_of_member (c : Cluster) (w : ClusterState) (name : String) :
    ∀ inst ∈ c.members w name, c.owner inst.instanceId = some name := by
  intro inst hinst
  obtain ⟨⟨id, group⟩, hmem, rfl⟩ := List.mem_map.mp hinst
  obtain ⟨hmachine, hgroup⟩ := List.mem_filter.mp hmem
  simp only [Bool.and_eq_true, beq_iff_eq] at hgroup
  exact c.owner_of_mem (hgroup.1 ▸ hmachine)

/-- The cluster is a service as the capacity results assume it. -/
theorem awsLaws (c : Cluster) : AwsLaws c.service ClusterState.desired c.owner where
  describe := by
    intro w name g rest hans
    simp only [service, Except.ok.injEq, List.cons.injEq] at hans
    rw [← hans.1]
    exact ⟨rfl, c.owner_of_member w name⟩
  set_ok := fun _ _ _ _ => rfl
  set_error := by intro w name size err hans; simp [service] at hans
  terminate_ok := by
    intro w id dec name howner _
    simp only [service, shrink, howner]
  terminate_error := by intro w id dec err hans; simp [service] at hans
  other := by
    intro w call hcall
    cases call with
    | setDesiredCapacity name size => simp [ApiCall.resizes] at hcall
    | terminateInstance id dec => simp [ApiCall.resizes] at hcall
    | listNodes store => cases store <;> rfl
    | _ => rfl

/-- Nobody interferes with a repair either. -/
theorem calm (c : Cluster) (asgs : List Asg) {ns : List Node} (hns : ∀ node ∈ ns, node ∈ c.nodes) :
    Calm c.service ClusterState.desired c.owner (fun w id => id ∉ w.terminated) asgs ns where
  toAwsLaws := c.awsLaws
  reports := by
    intro w asg _
    refine ⟨_, [], rfl, ?_⟩
    intro id howner hup
    unfold owner at howner
    obtain ⟨⟨id', name⟩, hfind, rfl⟩ := Option.map_eq_some_iff.mp howner
    have hid : id' = id := by simpa using List.find?_some hfind
    subst hid
    refine ⟨⟨id', "z"⟩, List.mem_map.mpr ⟨_, List.mem_filter.mpr
      ⟨List.mem_of_find?_eq_some hfind, ?_⟩, rfl⟩, rfl⟩
    simpa using hup
  stays := by
    intro w call id hcall hup
    cases call with
    | terminateInstance id' dec =>
        have hne : id ≠ id' := by rintro rfl; exact hcall dec rfl
        simpa [service, hne] using hup
    | listNodes store => cases store <;> exact hup
    | _ => exact hup
  set_succeeds := fun _ _ _ _ _ _ => rfl
  terminate_succeeds := fun _ _ _ _ => rfl
  getNode_succeeds := by
    intro w node hnode
    cases hfind : c.nodes.find? fun known => known.name == node.name with
    | none => simpa using List.find?_eq_none.mp hfind node (hns node hnode)
    | some known => exact ⟨_, by simp [service, lookupNode, hfind]; rfl⟩
  updateNode_succeeds := fun _ _ => rfl

/-- The cluster lists its terminations. -/
theorem counts (c : Cluster) : Counts c.service ClusterState.terminated where
  terminate := fun _ _ _ => rfl
  other := by
    intro w call hcall
    cases call with
    | terminateInstance id dec => exact absurd rfl (hcall id dec)
    | listNodes store => cases store <;> rfl
    | _ => rfl

/-- The cluster with a counter next to its state and some answers of its own. -/
def variant (c : Cluster)
    (special : ClusterState × Nat → (call : ApiCall) →
      Option (ApiCall.Ans call × ClusterState × Nat)) : ApiService (ClusterState × Nat) :=
  fun w call =>
    (special w call).getD ((c.service w.1 call).1, ((c.service w.1 call).2, w.2))

/-! ## Draining -/

/-- The goroutines deliver their confirmations one after the other. -/
theorem collectConfirmations (c : Cluster) (retryUntil : Time) (wait : Duration) (retries : Nat) :
    ∀ (pods : List Pod) (fuel : Nat) (m : Machine ClusterState), pods.length ≤ fuel →
    let out := (collectConfirmations retryUntil wait fuel
      (pods.map fun pod => (⟨pod, true, retries, ""⟩ : Evictor)) []).exec c.service m
    out.val = some [] ∧
      out.mach.world.evicted = m.world.evicted ++ pods.map Pod.key := by
  intro pods
  induction pods with
  | nil =>
      intro fuel m _
      cases fuel <;> simp [AutoNodeRepair.collectConfirmations]
  | cons pod rest ih =>
      intro fuel m hfuel
      obtain ⟨fuel, rfl⟩ : ∃ k, fuel = k + 1 := ⟨fuel - 1, by simp at hfuel; omega⟩
      -- the first goroutine moves, and its eviction is granted
      let m' : Machine ClusterState :=
        { m with world := { m.world with evicted := m.world.evicted ++ [pod.key] } }
      obtain ⟨hval, hevicted⟩ := ih fuel m' (by simpa using hfuel)
      have hturn : ((evictTurn retryUntil wait ⟨pod, true, retries, ""⟩).exec c.service m) =
          ⟨.confirmed none, [Service.event c.service m.world (.evict pod)], m'⟩ := rfl
      have hschedule : ∀ n, (schedule n).exec c.service m =
          ⟨some 0, [Service.event c.service m.world (.schedule n)], m⟩ := fun _ => rfl
      simp only [AutoNodeRepair.collectConfirmations, List.map_cons, exec_bind, hschedule,
        Outcome.after_val, Outcome.after_mach, Nat.zero_mod, List.getElem?_cons_zero, hturn,
        List.eraseIdx_zero, List.tail_cons, hval, hevicted]
      simp [m']

/-- Evicted pods are gone at the first sweep. -/
theorem sweepPods (c : Cluster) :
    ∀ (pods : List Pod) (m : Machine ClusterState),
    (∀ pod ∈ pods, pod.key ∈ m.world.evicted) →
    (sweepPods pods true).exec c.service m =
      { (sweepPods pods true).exec c.service m with val := true, mach := m } := by
  intro pods
  induction pods with
  | nil => intro m _; rfl
  | cons pod rest ih =>
      intro m hgone
      have hget : c.lookupPod m.world (pod.ns, pod.name) = .error ⟨"not found", true⟩ := by
        unfold lookupPod
        rw [List.find?_eq_none.mpr]
        intro other _
        have hmem : pod.key ∈ m.world.evicted := hgone pod List.mem_cons_self
        by_cases hkey : other.key = pod.key
        · simp [hkey, hmem]
        · have hne : (other.key == (pod.ns, pod.name)) = false := beq_eq_false_iff_ne.mpr hkey
          simp [hne]
      have hrun : (AutoNodeRepair.getPod pod.ns pod.name).exec c.service m =
          ⟨.error ⟨"not found", true⟩, [⟨.getPod pod.ns pod.name,
            c.lookupPod m.world (pod.ns, pod.name), m.world, m.world⟩], m⟩ := by
        rw [← hget]
        rfl
      have hrest := ih m fun other hother => hgone other (List.mem_cons_of_mem _ hother)
      simp only [AutoNodeRepair.sweepPods, exec_bind, hrun, if_true]
      rw [hrest]
      rfl

/-- Every drain succeeds. -/
theorem drainNode (c : Cluster) (node : Node) (pods : List Pod) {maxGrace : Int}
    (hgrace : 0 ≤ maxGrace) (m : Machine ClusterState) :
    ((drainNode node pods maxGrace maxPodEvictionTime evictionRetryTime).exec c.service m).val =
      .ok () := by
  have hnow : ∀ m : Machine ClusterState, (now).exec c.service m =
      ⟨0, [Service.event c.service m.world .now], m⟩ := fun _ => rfl
  have hlimit : 0 < maxGrace * second + podEvictionHeadroom :=
    Int.add_pos_of_nonneg_of_pos (Int.mul_nonneg hgrace (by decide)) (by decide)
  obtain ⟨hconfirmed, hevicted⟩ := c.collectConfirmations (0 + maxPodEvictionTime)
    evictionRetryTime ((maxPodEvictionTime / evictionRetryTime).toNat + 1) pods
    (pods.length * ((maxPodEvictionTime / evictionRetryTime).toNat + 1 + 2)) m
    (Nat.le_mul_of_pos_right _ (by omega))
  have hsweep := c.sweepPods pods _ fun pod hpod => by
    rw [hevicted]
    exact List.mem_append_right _ (List.mem_map_of_mem hpod)
  simp only [AutoNodeRepair.drainNode, exec_bind, hnow, Outcome.after_val, Outcome.after_mach,
    hconfirmed, awaitGone, Int.sub_self, hlimit, if_true]
  rw [hsweep]
  rfl

/-- A cluster without budgets lets every node be drained. -/
theorem drainable (c : Cluster) (hpdbs : c.pdbs = []) (a : StaticAutorepair)
    (hgrace : 0 ≤ a.maxGracefulTerminationSec) (node : Node) : Drainable c.service a node := by
  intro w w' t
  have hbudgets : (c.service w .listPodDisruptionBudgets).1.1 = [] := hpdbs
  rw [hbudgets]
  exact ⟨_, rfl, fun m => c.drainNode node _ hgrace m⟩

end Cluster

/-- The groups and nodes of `Cluster.sample`. -/
def groupG : Asg := ⟨0, "g", 0, 4⟩

@[inherit_doc groupG]
def groupK : Asg := ⟨1, "k", 1, 1⟩

@[inherit_doc groupG]
def node1 : Node := { name := "n1", providerID := "aws:///z/i-1" }

@[inherit_doc groupG]
def node2 : Node := { name := "n2", providerID := "aws:///z/i-2" }

@[inherit_doc groupG]
def node5 : Node := { name := "n5", providerID := "aws:///z/i-5" }

/-- Two machines and two spares in the group `g`, a machine of the group `k`, and a
pod on the first of them. -/
def Cluster.sample : Cluster where
  machines := [("i-1", "g"), ("i-2", "g"), ("i-3", "g"), ("i-4", "g"), ("i-5", "k")]
  distinct := by decide
  nodes := [node1, node2, node5]
  spares :=
    [{ name := "n3", providerID := "aws:///z/i-3", conditions := [⟨.ready, .true, 0⟩] },
     { name := "n4", providerID := "aws:///z/i-4", conditions := [⟨.ready, .true, 0⟩] }]
  pods := [{ ns := "default", name := "p1", nodeName := "n1" }]

/-- A controller with these groups, before its first lookup. -/
def freshStore (asgs : List Asg) : AutoScalingGroups :=
  { newAutoScalingGroups with registeredAsgs := asgs }

theorem freshStore_cacheInv (asgs : List Asg) (pos : AwsRef → Asg → Prop)
    (neg : AwsRef → Prop) : CacheInv asgs pos neg (freshStore asgs) where
  registered := rfl
  positive := by intro ref asg hentry; simp [freshStore, newAutoScalingGroups] at hentry
  negative := by intro ref hentry; simp [freshStore, newAutoScalingGroups] at hentry

/-- `g` has two machines running, `k` one; all their nodes are not ready. -/
def sampleState : ClusterState where
  desired := Function.update (fun _ => 1) "g" 2

/-- The controller of both groups in front of the sample cluster. -/
def sampleMachine : Machine ClusterState := ⟨freshStore [groupG, groupK], sampleState⟩

end AutoNodeRepair
