import Mathlib.Data.List.Dedup
import Mathlib.Data.List.Perm.Subperm
import AutoNodeRepair.Logic.Cluster
import AutoNodeRepair.Logic.Slack

/-!
# Repeated rounds

Every round grows a group for the nodes confirmed in it, and forgets them: a
node that could not be deleted is confirmed, and paid for, again. A round leaves
the group larger by at most the nodes it handed over and did not release
(`runOnce_leftover`), so the surplus stays within the number of distinct nodes
as long as no node is left over twice.
-/

namespace AutoNodeRepair

open Interact

/-- The nodes a round handed over for a group and did not terminate with a
decrement. -/
def leftover {W : Type} (name : String)
    (out : Outcome AutoScalingGroups W Api RepairReport) : List Node :=
  (handedTo name out.val).filter fun node => !(released out.log).contains (instanceName node)

/-- The names of the nodes some rounds handed over for a group. -/
def confirmedNames (name : String) (reports : List RepairReport) : List String :=
  (reports.flatMap (handedTo name)).map Node.name

/-- Within a listing names are distinct, and so are the machines. -/
def ListsDistinct {W : Type} (h : ApiService W) : Prop :=
  ∀ w nodes, (h w (.listNodes .notReady)).1 = .ok nodes →
    (nodes.map Node.name).Nodup ∧ (nodes.map instanceName).Nodup

/-- The rounds of `StaticAutorepair.rounds` one by one, each with its log. -/
def StaticAutorepair.roundOutcomes {W : Type} (a : StaticAutorepair) (h : ApiService W)
    (fuel : Nat) (scanInterval repairPeriod : Duration) :
    Nat → Machine W → List (Outcome AutoScalingGroups W Api RepairReport)
  | 0, _ => []
  | k + 1, m =>
      let out := (a.runOnce fuel repairPeriod).exec h ((sleep scanInterval).exec h m).mach
      match out.val.exit with
      | .done => out :: a.roundOutcomes h fuel scanInterval repairPeriod k out.mach
      | _ => [out]

section

variable {W : Type} {h : ApiService W} {desired : W → String → Int}
  {owner : String → Option String} {asgs : List Asg} {name : String}

/-! ## One round -/

theorem listNotReadyNodes_distinct (hdistinct : ListsDistinct h) (m : Machine W) :
    ((listNotReadyNodes.exec h m).val.map Node.name).Nodup ∧
      ((listNotReadyNodes.exec h m).val.map instanceName).Nodup := by
  have hcall : (listNodes .notReady).exec h m = ⟨(h m.world (.listNodes .notReady)).1,
      [Service.event h m.world (.listNodes .notReady)],
      { m with world := (h m.world (.listNodes .notReady)).2 }⟩ := rfl
  simp only [listNotReadyNodes, exec_bind, hcall, Outcome.after_val]
  cases hans : (h m.world (.listNodes .notReady)).1 with
  | error err => simp
  | ok nodes =>
      obtain ⟨hnames, hinstances⟩ := hdistinct m.world nodes hans
      exact ⟨hnames.sublist (List.filter_sublist.map _),
        hinstances.sublist (List.filter_sublist.map _)⟩

/-- A round as a repair of distinct nodes. -/
theorem runOnce_slack (laws : AwsLaws h desired owner) (hdistinct : ListsDistinct h)
    (hnames : (asgs.map Asg.name).Nodup) (a : StaticAutorepair) (fuel : Nat)
    (repairtime : Duration) (s : Int) :
    Triple (Service.recorded h) (SlackAtMost desired owner asgs name s) (fun _ => True)
      (a.runOnce fuel repairtime)
      fun r m => ∃ l : List Node, (l.map Node.name).Nodup ∧ (l.map instanceName).Nodup ∧
        RepairCharges desired owner asgs name l s r m := by
  have hlooks : Looks (Service.recorded h) (SlackAtMost desired owner asgs name s)
      (fun _ => True) := (removes_slack laws s).toLooks
  have hnothing : ∀ m, SlackAtMost desired owner asgs name s m →
      ∃ l : List Node, (l.map Node.name).Nodup ∧ (l.map instanceName).Nodup ∧
        RepairCharges desired owner asgs name l s ⟨.done, []⟩ m :=
    fun m hm => ⟨[], List.nodup_nil, List.nodup_nil, .nil hm .done⟩
  have hrecorded : ListsDistinct (Service.recorded h) := fun w => hdistinct w.1
  refine Triple.bind_val (hlooks.listNotReadyNodes.with_val
    (Q := fun l => (l.map Node.name).Nodup ∧ (l.map instanceName).Nodup)
    fun m _ => listNotReadyNodes_distinct hrecorded m) ?_
  rintro l1 ⟨hl1, hl1'⟩
  split
  · exact Triple.pure _ hnothing
  refine Triple.bind (hlooks.ask (.sleep repairtime) rfl) fun _ => ?_
  refine Triple.bind hlooks.listNotReadyNodes fun l2 => ?_
  show Triple _ _ _ (if (commonNodes l1 l2).length ≠ 0 then _ else _) _
  split
  · have hcommon : (commonNodes l1 l2).Sublist l1 := List.filter_sublist
    refine Triple.bind (repairNodes_slack laws hnames a fuel (commonNodes l1 l2) s) fun r => ?_
    have hdone : ∀ m, RepairCharges desired owner asgs name (commonNodes l1 l2) s r m →
        ∃ l : List Node, (l.map Node.name).Nodup ∧ (l.map instanceName).Nodup ∧
          RepairCharges desired owner asgs name l s r m :=
      fun m hm => ⟨commonNodes l1 l2, hl1.sublist (hcommon.map _), hl1'.sublist (hcommon.map _), hm⟩
    split
    · -- the last pause changes nothing
      refine Triple.bind (Q := fun _ => RepairCharges desired owner asgs name
        (commonNodes l1 l2) s r) ?_ fun _ => Triple.pure _ hdone
      rintro m ⟨hslack, hrest⟩
      obtain ⟨hpaused, -⟩ := (removes_slack laws _).ask (.sleep minute) rfl m hslack
      exact ⟨⟨hpaused, hrest⟩, fun _ _ => trivial⟩
    · exact Triple.pure _ hdone
  · exact Triple.pure _ hnothing

/-- Distinct machines of a group are released by distinct decrements. -/
theorem length_le_leftover {nodes : List Node} (log : List (ApiEvent W))
    (hinstances : (nodes.map instanceName).Nodup)
    (howned : ∀ node ∈ nodes, owner (instanceName node) = some name) :
    nodes.length ≤
      (nodes.filter fun node => !(released log).contains (instanceName node)).length +
        ((released log).filter fun id => owner id == some name).length := by
  let gone := nodes.filter fun node => (released log).contains (instanceName node)
  have hsplit : nodes.length = gone.length +
      (nodes.filter fun node => !(released log).contains (instanceName node)).length :=
    List.length_eq_length_filter_add _
  have hgone : (gone.map instanceName).Nodup :=
    hinstances.sublist (List.filter_sublist.map _)
  have hsubset : gone.map instanceName ⊆
      (released log).filter fun id => owner id == some name := by
    intro id hid
    obtain ⟨node, hnode, rfl⟩ := List.mem_map.mp hid
    obtain ⟨hmem, hreleased⟩ := List.mem_filter.mp hnode
    simp [howned node hmem, List.contains_iff_mem.mp hreleased]
  have hle := (hgone.subperm hsubset).length_le
  rw [List.length_map] at hle
  omega

/-- A round leaves a group larger by its leftovers at most. -/
theorem runOnce_leftover (laws : AwsLaws h desired owner) (hdistinct : ListsDistinct h)
    (hnames : (asgs.map Asg.name).Nodup) (name : String) (a : StaticAutorepair) (fuel : Nat)
    (repairtime : Duration) (m : Machine W)
    (hcache : CacheInv asgs (OwnedBy asgs owner) (fun _ => True) m.store) :
    CacheInv asgs (OwnedBy asgs owner) (fun _ => True)
        ((a.runOnce fuel repairtime).exec h m).mach.store ∧
      desired ((a.runOnce fuel repairtime).exec h m).mach.world name ≤
        desired m.world name + (leftover name ((a.runOnce fuel repairtime).exec h m)).length ∧
      ((handedTo name ((a.runOnce fuel repairtime).exec h m).val).map Node.name).Nodup := by
  have hstart : SlackAtMost desired owner asgs name (desired m.world name)
      ⟨m.store, (m.world, [])⟩ := ⟨hcache, by simp [slack, released]⟩
  obtain ⟨⟨l, hl, hl', ⟨hcache', hslack⟩, hsublist, howned⟩, -⟩ := Triple.of_recorded
    (runOnce_slack laws hdistinct hnames a fuel repairtime (desired m.world name)) m hstart
  refine ⟨hcache', ?_, hl.sublist (hsublist.map _)⟩
  have hcount := length_le_leftover ((a.runOnce fuel repairtime).exec h m).log
    (hl'.sublist (hsublist.map _)) howned
  simp only [slack] at hslack
  unfold leftover
  omega

/-! ## The run -/

/-- The outcomes of the rounds are what `StaticAutorepair.rounds` reports. -/
theorem rounds_val (a : StaticAutorepair) (fuel : Nat) (scanInterval repairPeriod : Duration) :
    ∀ (k : Nat) (m : Machine W),
    ((a.rounds fuel scanInterval repairPeriod k).exec h m).val =
      (a.roundOutcomes h fuel scanInterval repairPeriod k m).map Outcome.val := by
  intro k
  induction k with
  | zero => intro m; rfl
  | succ k ih =>
      intro m
      simp only [StaticAutorepair.rounds, StaticAutorepair.roundOutcomes, exec_bind,
        Outcome.after_val]
      cases hexit : ((a.runOnce fuel repairPeriod).exec h
          ((sleep scanInterval).exec h m).mach).val.exit with
      | done => simp [ih]
      | panicked => simp
      | outOfFuel => simp

/-- The leftovers of all rounds bound the growth of the group. -/
theorem rounds_leftover (laws : AwsLaws h desired owner) (hdistinct : ListsDistinct h)
    (hnames : (asgs.map Asg.name).Nodup) (name : String) (a : StaticAutorepair) (fuel : Nat)
    (scanInterval repairPeriod : Duration) :
    ∀ (k : Nat) (m : Machine W),
    CacheInv asgs (OwnedBy asgs owner) (fun _ => True) m.store →
    desired ((a.rounds fuel scanInterval repairPeriod k).exec h m).mach.world name ≤
        desired m.world name + ((a.roundOutcomes h fuel scanInterval repairPeriod k m).flatMap
          (leftover name)).length ∧
      ∀ out ∈ a.roundOutcomes h fuel scanInterval repairPeriod k m,
        ((handedTo name out.val).map Node.name).Nodup := by
  intro k
  induction k with
  | zero => intro m _; simp [StaticAutorepair.rounds, StaticAutorepair.roundOutcomes]
  | succ k ih =>
      intro m hcache
      have hslept : desired ((sleep scanInterval).exec h m).mach.world = desired m.world :=
        laws.other m.world (.sleep scanInterval) rfl
      obtain ⟨hcache', hround, hnodup⟩ := runOnce_leftover laws hdistinct hnames name a fuel
        repairPeriod ((sleep scanInterval).exec h m).mach hcache
      rw [hslept] at hround
      simp only [StaticAutorepair.rounds, StaticAutorepair.roundOutcomes, exec_bind,
        Outcome.after_mach]
      cases hexit : ((a.runOnce fuel repairPeriod).exec h
          ((sleep scanInterval).exec h m).mach).val.exit with
      | done =>
          obtain ⟨hrest, hnodups⟩ := ih _ hcache'
          simp only [exec_bind, exec_pure, Outcome.after_mach, List.flatMap_cons,
            List.length_append, List.forall_mem_cons]
          exact ⟨by omega, hnodup, hnodups⟩
      | panicked => simpa using ⟨hround, hnodup⟩
      | outOfFuel => simpa using ⟨hround, hnodup⟩

/-- **No inflation over repeated rounds**, if no node of the group is left over
in two of them: the desired capacity ends at most the number of distinct
confirmed nodes above where it started. -/
theorem rounds_no_inflation (laws : AwsLaws h desired owner) (hdistinct : ListsDistinct h)
    (hnames : (asgs.map Asg.name).Nodup) (a : StaticAutorepair) (fuel : Nat)
    (scanInterval repairPeriod : Duration) (k : Nat) (m : Machine W)
    (hcache : CacheInv asgs (OwnedBy asgs owner) (fun _ => True) m.store)
    (honce : (a.roundOutcomes h fuel scanInterval repairPeriod k m).Pairwise fun out out' =>
      ∀ node ∈ leftover name out, ∀ node' ∈ leftover name out', node.name ≠ node'.name) :
    desired ((a.rounds fuel scanInterval repairPeriod k).exec h m).mach.world name ≤
      desired m.world name + (confirmedNames name
        ((a.rounds fuel scanInterval repairPeriod k).exec h m).val).dedup.length := by
  obtain ⟨hle, hnodups⟩ := rounds_leftover laws hdistinct hnames name a fuel scanInterval
    repairPeriod k m hcache
  rw [rounds_val]
  generalize a.roundOutcomes h fuel scanInterval repairPeriod k m = outs at *
  -- the leftovers have distinct names, all of them confirmed
  have hnodup : ((outs.flatMap (leftover name)).map Node.name).Nodup := by
    rw [List.map_flatMap, List.nodup_flatMap]
    refine ⟨fun out hout => (hnodups out hout).sublist (List.filter_sublist.map _), ?_⟩
    refine honce.imp fun hapart x hx hx' => ?_
    obtain ⟨node, hnode, rfl⟩ := List.mem_map.mp hx
    obtain ⟨node', hnode', hname⟩ := List.mem_map.mp hx'
    exact hapart node hnode node' hnode' hname.symm
  have hsubset : (outs.flatMap (leftover name)).map Node.name ⊆
      (confirmedNames name (outs.map Outcome.val)).dedup := by
    intro x hx
    obtain ⟨node, hnode, rfl⟩ := List.mem_map.mp hx
    obtain ⟨out, hout, hleft⟩ := List.mem_flatMap.mp hnode
    refine List.mem_dedup.mpr (List.mem_map_of_mem (List.mem_flatMap.mpr ?_))
    exact ⟨out.val, List.mem_map_of_mem hout, List.mem_of_mem_filter hleft⟩
  have hcount := (hnodup.subperm hsubset).length_le
  rw [List.length_map] at hcount
  omega

end

/-- The sample cluster with one node to repair. -/
def oneNodeCluster : Cluster := { Cluster.sample with nodes := [node1] }

/-- A budget that leaves no disruption to any pod. -/
def exhaustedBudget : PodDisruptionBudget := ⟨"default", .ok fun _ => true, 0⟩

/-- The cluster in which the budget is exhausted when it is first listed, and gone later. -/
def exhaustedOnce : ApiService (ClusterState × Nat) :=
  oneNodeCluster.variant fun w call =>
    match call with
    | .listPodDisruptionBudgets =>
        some ((if w.2 = 0 then [exhaustedBudget] else [], none), (w.1, w.2 + 1))
    | _ => none

theorem exhaustedOnce_awsLaws :
    AwsLaws exhaustedOnce (fun w => w.1.desired) oneNodeCluster.owner where
  describe w := oneNodeCluster.awsLaws.describe w.1
  set_ok w := oneNodeCluster.awsLaws.set_ok w.1
  set_error w := oneNodeCluster.awsLaws.set_error w.1
  terminate_ok w := oneNodeCluster.awsLaws.terminate_ok w.1
  terminate_error w := oneNodeCluster.awsLaws.terminate_error w.1
  other := by
    intro w call hcall
    cases call with
    | listPodDisruptionBudgets => rfl
    | _ => exact oneNodeCluster.awsLaws.other w.1 _ hcall

/-- The node is left over in the first of two rounds and released in the second: the group ends
one node larger. -/
theorem rounds_no_inflation_sample :
    let m : Machine (ClusterState × Nat) := ⟨freshStore [groupG, groupK], (sampleState, 0)⟩
    let rounds := ({} : StaticAutorepair).rounds 5 minute minute 2
    (({} : StaticAutorepair).roundOutcomes exhaustedOnce 5 minute minute 2 m).map
        (fun out => (leftover "g" out).map Node.name) = [["n1"], []] ∧
      (rounds.exec exhaustedOnce m).mach.world.1.desired "g" ≤
        m.world.1.desired "g" +
          (confirmedNames "g" (rounds.exec exhaustedOnce m).val).dedup.length :=
  ⟨by decide +kernel, rounds_no_inflation exhaustedOnce_awsLaws
    (by
      rintro w nodes ⟨⟩
      exact ⟨List.nodup_singleton _, List.nodup_singleton _⟩)
    (show ([groupG, groupK].map Asg.name).Nodup by decide) {} 5 minute minute 2 _
    (freshStore_cacheInv _ _ _) (by decide +kernel)⟩

/-- The pod of the node may not be evicted, so the node stays and the group grows
by one in each of two rounds. -/
theorem rounds_inflate :
    let c : Cluster := { oneNodeCluster with pdbs := [exhaustedBudget] }
    let out := (({} : StaticAutorepair).rounds 5 minute minute 2).exec c.service sampleMachine
    (confirmedNames "g" out.val).dedup = ["n1"] ∧ sampleMachine.world.desired "g" = 2 ∧
      out.mach.world.desired "g" = 4 := by
  decide +kernel

end AutoNodeRepair
