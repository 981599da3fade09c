import Mathlib.Data.List.Dedup
import AutoNodeRepair.Logic.Cluster

/-!
# Deleting several nodes of a group

`Asg.DeleteNodes` compares the size of the group with its minimum once, before
the first termination, and then either restarts or deletes the whole list. With
one node, as `deleteNode` calls it, that keeps the minimum. For a longer list it
does exactly when the group is at its minimum already (everything is restarted)
or stays above it after losing one machine per node.
-/

namespace AutoNodeRepair

open Interact

section

variable {W : Type} {h : ApiService W} {Wd : W → Prop}

/-- A check of membership only looks. -/
theorem Asg.belongs_closed (hclosed : LookupClosed h Wd) (asg : Asg) (node : Node) :
    Keeps h (fun m => Wd m.world) (LookupEvent h Wd) (asg.belongs node) := by
  unfold Asg.belongs
  split
  · exact Keeps.pure _
  · refine Keeps.bind (findForInstance_closed hclosed _) fun r => ?_
    split
    · exact Keeps.pure _
    · exact Keeps.pure _
    · exact Keeps.ite (Keeps.pure _) (Keeps.pure _)

/-- The references collected are those of the nodes, in order. -/
theorem Asg.collectRefs_closed (hclosed : LookupClosed h Wd) (asg : Asg) (nodes : List Node) :
    Triple h (fun m => Wd m.world) (LookupEvent h Wd) (asg.collectRefs nodes)
      fun r m => Wd m.world ∧
        ∀ refs, r = .ok refs → refs.map AwsRef.name = nodes.map instanceName := by
  induction nodes with
  | nil =>
      refine Triple.pure _ fun m hm => ⟨hm, ?_⟩
      rintro refs ⟨⟩
      rfl
  | cons node rest ih =>
      refine Triple.bind (Asg.belongs_closed hclosed asg node) fun r => ?_
      split
      · exact Triple.pure _ fun m hm => ⟨hm, by simp⟩
      · exact Triple.pure _ fun m hm => ⟨hm, by simp⟩
      · split
        · exact Triple.pure _ fun m hm => ⟨hm, by simp⟩
        · rename_i ref href
          refine Triple.bind ih fun r => ?_
          split
          · exact Triple.pure _ fun m hm => ⟨hm.1, by simp⟩
          · rename_i refs
            refine Triple.pure _ fun m hm => ⟨hm.1, ?_⟩
            rintro refs' ⟨⟩
            simp [hm.2 refs rfl, instanceName, href]

theorem checkCommonAsg_closed (hclosed : LookupClosed h Wd) (common : Option Asg)
    (refs : List AwsRef) :
    Keeps h (fun m => Wd m.world) (LookupEvent h Wd) (checkCommonAsg common refs) := by
  induction refs with
  | nil => exact Keeps.pure _
  | cons ref rest ih =>
      refine Keeps.bind (findForInstance_closed hclosed ref) fun r => ?_
      split
      · exact Keeps.pure _
      · exact Keeps.ite (Keeps.pure _) ih

end

namespace AwsLaws

variable {W : Type} {h : ApiService W} {desired : W → String → Int}
  {owner : String → Option String} {name : String}

/-- What a list of termination requests with the flag `dec` can do to the table, `r`
being the answer: one machine less per accepted request, if at all. -/
def Lowered (name : String) (dec : Bool) (requests : Nat) (table : String → Int)
    (r : Except String Unit) (after : String → Int) : Prop :=
  ∃ k : Nat, k ≤ requests ∧ (r = .ok () → k = requests) ∧
    after = Function.update table name (table name - if dec then (k : Int) else 0)

theorem Lowered.refused {dec : Bool} {requests : Nat} {table : String → Int} {err : String} :
    Lowered name dec requests table (.error err) table :=
  ⟨0, Nat.zero_le _, by simp, by simp⟩

/-- The loop of terminations, up to the first rejected one. -/
theorem terminateLoop (laws : AwsLaws h desired owner) (dec : Bool) :
    ∀ (refs : List AwsRef) (table : String → Int),
    (∀ ref ∈ refs, owner ref.name = some name) →
    Triple h (fun m => desired m.world = table) (fun _ => True) (terminateLoop dec refs)
      fun r m => Lowered name dec refs.length table r (desired m.world) := by
  intro refs
  induction refs with
  | nil =>
      intro table _
      exact Triple.pure _ fun m hm => ⟨0, Nat.le_refl _, by simp, by simp [hm]⟩
  | cons ref rest ih =>
      intro table howned
      have howner := howned ref List.mem_cons_self
      refine Triple.bind (Q := fun r m => if r = .ok () then
          desired m.world = Function.update table name (table name - if dec then 1 else 0)
        else desired m.world = table) ?_ fun r => ?_
      · refine Triple.call fun m hm => ⟨?_, trivial⟩
        cases hans : (h m.world (.terminateInstance ref.name dec)).1 with
        | ok _ =>
            rw [if_pos rfl, laws.terminate_ok _ _ _ _ howner hans, hm]
            cases dec <;> simp
        | error err =>
            rw [if_neg (by simp), laws.terminate_error _ _ _ _ hans, hm]
      · cases r with
        | error err =>
            -- the loop ends here, with what was taken so far
            refine Triple.pure _ fun m hm => ?_
            rw [if_neg (by simp)] at hm
            rw [hm]
            exact .refused
        | ok _ =>
            refine Triple.conseq (ih _ fun ref' href' => howned ref' (List.mem_cons_of_mem _ href'))
              (fun m hm => by simpa using hm) ?_
            rintro r m ⟨k, hk, hall, hsize⟩
            refine ⟨k + 1, by simpa using hk, fun hr => by simp [hall hr], ?_⟩
            rw [hsize, Function.update_idem, Function.update_self]
            cases dec
            · simp
            · simp only [if_true]
              congr 1
              omega

/-- `DeleteInstances` or `RestartInstances`. -/
theorem terminateInstances (laws : AwsLaws h desired owner) (dec : Bool) (refs : List AwsRef)
    (table : String → Int) (howned : ∀ ref ∈ refs, owner ref.name = some name) :
    Triple h (fun m => desired m.world = table) (fun _ => True) (terminateInstances dec refs)
      fun r m => Lowered name dec refs.length table r (desired m.world) := by
  unfold AutoNodeRepair.terminateInstances
  split
  · exact Triple.pure _ fun m hm => ⟨0, Nat.le_refl _, by simp, by simp [hm]⟩
  · rename_i first rest
    refine Triple.bind ((findForInstance_closed (laws.lookupClosed table) first).weaken_events
      fun _ _ => trivial) fun r => ?_
    split
    · exact Triple.pure _ fun m hm => hm ▸ .refused
    · refine Triple.bind ((checkCommonAsg_closed (laws.lookupClosed table) _ _).weaken_events
        fun _ _ => trivial) fun r => ?_
      split
      · exact Triple.pure _ fun m hm => hm ▸ .refused
      · exact laws.terminateLoop dec _ table howned

/-- `Asg.DeleteNodes` on any list of its nodes: the size before decides whether the
requests lower it. -/
theorem deleteNodes_list (laws : AwsLaws h desired owner) (asg : Asg) (nodes : List Node)
    (table : String → Int) (howned : ∀ node ∈ nodes, owner (instanceName node) = some asg.name) :
    Triple h (fun m => desired m.world = table) (fun _ => True) (asg.deleteNodes nodes)
      fun r m => Lowered asg.name (!decide (table asg.name ≤ asg.minSize)) nodes.length table r
        (desired m.world) := by
  have hclosed := laws.lookupClosed table
  have hread : Triple h (fun m => desired m.world = table) (fun _ => True) (getAsgSize asg)
      fun r m => desired m.world = table ∧
        ((∃ err, r.2 = some err) ∨ r = (table asg.name, none)) := by
    refine Triple.weaken_events (Triple.conseq (getAsgSize_spec (P := fun _ => True) hclosed asg)
      (fun m hm => ⟨trivial, hm⟩) ?_) fun _ _ => trivial
    rintro ⟨size, err⟩ m ⟨hm, ⟨-, -, herr⟩ | ⟨herr, g, hreport, hsize⟩⟩
    · exact ⟨hm.2, .inl herr⟩
    · exact ⟨hm.2, .inr (Prod.ext (hsize.symm.trans (laws.size_of_reports hreport)) herr)⟩
  refine Triple.bind_val hread ?_
  rintro ⟨_, _⟩ (⟨err, rfl⟩ | hsize)
  · exact Triple.pure _ fun m hm => hm ▸ .refused
  cases hsize
  refine Triple.bind_val ((Asg.collectRefs_closed hclosed asg nodes).weaken_events
    fun _ _ => trivial) fun r hrefs => ?_
  split
  · exact Triple.pure _ fun m hm => hm ▸ .refused
  · rename_i refs
    have hnames := hrefs refs rfl
    have hlen : refs.length = nodes.length := by simpa using congrArg List.length hnames
    have howned' : ∀ ref ∈ refs, owner ref.name = some asg.name := by
      intro ref href
      have hmem : ref.name ∈ nodes.map instanceName := hnames ▸ List.mem_map_of_mem href
      obtain ⟨node, hnode, hname⟩ := List.mem_map.mp hmem
      exact hname ▸ howned node hnode
    -- one decision for the whole list, by the size before the first request
    show Triple h _ _ (if table asg.name ≤ asg.minSize then _ else _) _
    rw [← hlen]
    split
    · rename_i hle
      rw [decide_eq_true hle]
      exact laws.terminateInstances false refs table howned'
    · rename_i hle
      rw [decide_eq_false hle]
      exact laws.terminateInstances true refs table howned'

end AwsLaws

/-! ## A cluster that grants them all -/

namespace AtStage

variable {W : Type} {h : ApiService W} {desired : W → String → Int}
  {owner : String → Option String} {present : W → String → Prop} {asgs : List Asg}
  {ns : List Node} {terms : W → List String} {work : String → Prop}
  {table : String → Int} {done : List String} {asg : Asg}
  (S : Setting h desired owner present asgs ns terms work)
include S

/-- The lookup of a machine still to be replaced finds its group. -/
theorem find_todo (hasg : asg ∈ asgs) {node : Node} (htodo : Todo owner work asg done node) :
    Triple h (AtStage desired terms present work owner asgs table done) (fun _ => True)
      (findForInstance ⟨instanceName node⟩)
      fun r m => AtStage desired terms present work owner asgs table done m ∧
        r = .ok (some asg) := by
  refine Triple.weaken_events ((find_group S hasg
    fun _ => ⟨htodo.inWork, htodo.notDone⟩).conseq (fun _ hm => hm) ?_) fun _ _ => trivial
  rintro r m ⟨hm, found, rfl, hfound⟩
  exact ⟨hm, by rw [hfound.mpr htodo.owned]⟩

theorem collectRefs (hasg : asg ∈ asgs) (nodes : List Node)
    (htodo : ∀ node ∈ nodes, Todo owner work asg done node) :
    Triple h (AtStage desired terms present work owner asgs table done) (fun _ => True)
      (asg.collectRefs nodes)
      fun r m => AtStage desired terms present work owner asgs table done m ∧
        r = .ok (nodes.map fun node => ⟨instanceName node⟩) := by
  induction nodes with
  | nil => exact Triple.pure _ fun m hm => ⟨hm, rfl⟩
  | cons node rest ih =>
      have hnode := htodo node List.mem_cons_self
      refine Triple.bind_val (R := AtStage desired terms present work owner asgs table done)
        (Q := fun r => r = .ok true) ?_ ?_
      · unfold Asg.belongs
        rw [hnode.parses]
        refine Triple.bind_val (find_todo S hasg hnode) ?_
        rintro _ rfl
        simp only [ne_eq, not_true_eq_false, if_false]
        exact Triple.pure _ fun m hm => ⟨hm, rfl⟩
      · rintro _ rfl
        simp only [hnode.parses]
        refine Triple.bind_val (ih fun n hn => htodo n (List.mem_cons_of_mem _ hn)) ?_
        rintro _ rfl
        exact Triple.pure _ fun m hm => ⟨hm, rfl⟩

theorem checkCommonAsg (hasg : asg ∈ asgs) (nodes : List Node)
    (htodo : ∀ node ∈ nodes, Todo owner work asg done node) :
    Triple h (AtStage desired terms present work owner asgs table done) (fun _ => True)
      (checkCommonAsg (some asg) (nodes.map fun node => ⟨instanceName node⟩))
      fun r m => AtStage desired terms present work owner asgs table done m ∧ r = .ok () := by
  induction nodes with
  | nil => exact Triple.pure _ fun m hm => ⟨hm, rfl⟩
  | cons node rest ih =>
      refine Triple.bind_val (find_todo S hasg (htodo node List.mem_cons_self)) ?_
      rintro _ rfl
      simp only [ne_eq, not_true_eq_false, if_false]
      exact ih fun n hn => htodo n (List.mem_cons_of_mem _ hn)

/-- Where every termination is accepted, so is the deletion of any list of nodes. -/
theorem deleteNodes_accepted (hasg : asg ∈ asgs) (nodes : List Node)
    (htodo : ∀ node ∈ nodes, Todo owner work asg done node)
    (hterminate : ∀ w id dec, (h w (.terminateInstance id dec)).1 = .ok ()) {m : Machine W}
    (hm : AtStage desired terms present work owner asgs table done m) :
    ((asg.deleteNodes nodes).exec h m).val = .ok () := by
  have hloop : ∀ (dec : Bool) (refs : List AwsRef) (m : Machine W),
      ((terminateLoop dec refs).exec h m).val = .ok () := by
    intro dec refs
    induction refs with
    | nil => exact fun _ => rfl
    | cons ref rest ih =>
        intro m
        have hans : ((terminateInstance ref.name dec).exec h m).val = .ok () :=
          hterminate m.world ref.name dec
        simp only [terminateLoop, exec_bind, Outcome.after_val, hans]
        exact ih _
  have hterm : ∀ dec, Triple h (AtStage desired terms present work owner asgs table done)
      (fun _ => True) (terminateInstances dec (nodes.map fun node => ⟨instanceName node⟩))
      fun r _ => r = .ok () := by
    intro dec
    cases nodes with
    | nil => exact Triple.pure _ fun m hm => rfl
    | cons node rest =>
        refine Triple.bind_val (find_todo S hasg (htodo node List.mem_cons_self)) ?_
        rintro _ rfl
        refine Triple.bind_val (checkCommonAsg S hasg (node :: rest) htodo) ?_
        rintro _ rfl
        exact fun m _ => ⟨hloop dec _ m, fun _ _ => trivial⟩
  have hall : Triple h (AtStage desired terms present work owner asgs table done)
      (fun _ => True) (asg.deleteNodes nodes) fun r _ => r = .ok () := by
    refine Triple.bind_val ((getAsgSize S hasg).weaken_events fun _ _ => trivial) ?_
    rintro _ rfl
    refine Triple.bind_val (collectRefs S hasg nodes htodo) ?_
    rintro _ rfl
    show Triple h _ _ (if table asg.name ≤ asg.minSize then _ else _) _
    split
    · exact hterm false
    · exact hterm true
  exact (hall m hm).1

end AtStage

/-- The machines of these nodes, all in one group. -/
def Cluster.ofGroup (asg : Asg) (nodes : List Node) : Cluster where
  machines := (nodes.map instanceName).dedup.map fun id => (id, asg.name)
  distinct := by simpa [Function.comp_def] using List.nodup_dedup (nodes.map instanceName)

/-- The controller of that group alone, at the given size. -/
def groupMachine (asg : Asg) (size : Int) : Machine ClusterState :=
  ⟨freshStore [asg], { desired := fun _ => size }⟩

/-- In such a cluster the deletion of all the nodes goes through. -/
theorem Cluster.ofGroup_deleteNodes {asg : Asg} {nodes : List Node} (size : Int)
    (hparse : ∀ node ∈ nodes, awsRefFromProviderId node.providerID = .ok ⟨instanceName node⟩) :
    (∀ node ∈ nodes, (Cluster.ofGroup asg nodes).owner (instanceName node) = some asg.name) ∧
      ((asg.deleteNodes nodes).exec (Cluster.ofGroup asg nodes).service
        (groupMachine asg size)).val = .ok () := by
  have howner : ∀ node ∈ nodes,
      (Cluster.ofGroup asg nodes).owner (instanceName node) = some asg.name := by
    intro node hnode
    refine Cluster.owner_of_mem _ (List.mem_map.mpr ⟨_, List.mem_dedup.mpr ?_, rfl⟩)
    exact List.mem_map_of_mem hnode
  refine ⟨howner, ?_⟩
  have S : AtStage.Setting (Cluster.ofGroup asg nodes).service ClusterState.desired
      (Cluster.ofGroup asg nodes).owner (fun w id => id ∉ w.terminated) [asg] []
      ClusterState.terminated (fun id => id ∈ nodes.map instanceName) :=
    { calm := Cluster.calm _ _ (by simp)
      counts := Cluster.counts _
      names := by simp
      work := by
        intro id hid
        obtain ⟨node, hnode, rfl⟩ := List.mem_map.mp hid
        exact ⟨asg, by simp, howner node hnode⟩ }
  have hstage : AtStage ClusterState.desired ClusterState.terminated
      (fun w id => id ∉ w.terminated) (fun id => id ∈ nodes.map instanceName)
      (Cluster.ofGroup asg nodes).owner [asg] (fun _ => size) [] (groupMachine asg size) :=
    ⟨freshStore_cacheInv _ _ _, rfl, rfl, by simp [groupMachine]⟩
  refine AtStage.deleteNodes_accepted S (by simp) nodes ?_ (fun _ _ _ => rfl) hstage
  exact fun node hnode =>
    ⟨hparse node hnode, List.mem_map_of_mem hnode, by simp, howner node hnode⟩

/-! ## The result -/

/-- `Asg.DeleteNodes` keeps the minimum in every outside exactly when the group is at
its minimum already or the whole list fits above it. -/
theorem deleteNodes_keeps_min_iff (asg : Asg) (nodes : List Node) {size : Int}
    (hmin : asg.minSize ≤ size)
    (hparse : ∀ node ∈ nodes, awsRefFromProviderId node.providerID = .ok ⟨instanceName node⟩) :
    (∀ (W : Type) (h : ApiService W) (desired : W → String → Int)
        (owner : String → Option String), AwsLaws h desired owner →
      (∀ node ∈ nodes, owner (instanceName node) = some asg.name) →
      ∀ m : Machine W, desired m.world asg.name = size →
        asg.minSize ≤ desired ((asg.deleteNodes nodes).exec h m).mach.world asg.name) ↔
      size = asg.minSize ∨ asg.minSize + nodes.length ≤ size := by
  constructor
  · intro hkeeps
    obtain ⟨howner, hok⟩ := Cluster.ofGroup_deleteNodes size hparse
    have hkept := hkeeps _ _ _ _ (Cluster.ofGroup asg nodes).awsLaws howner
      (groupMachine asg size) rfl
    obtain ⟨⟨k, -, hall, hsize⟩, -⟩ := (Cluster.ofGroup asg nodes).awsLaws.deleteNodes_list asg
      nodes _ howner (groupMachine asg size) rfl
    by_cases hle : size ≤ asg.minSize
    · exact .inl (Int.le_antisymm hle hmin)
    · -- every request was accepted with its decrement
      have hsize' : (groupMachine asg size).world.desired asg.name = size := rfl
      rw [hsize, Function.update_self, hall hok, hsize'] at hkept
      simp only [hle, decide_false, Bool.not_false, if_true] at hkept
      exact .inr (by omega)
  · intro hfits W h desired owner laws howned m hsize
    obtain ⟨⟨k, hk, -, hafter⟩, -⟩ := laws.deleteNodes_list asg nodes _ howned m rfl
    rw [hafter, Function.update_self, hsize]
    rcases hfits with rfl | hfits
    · simp
    · split <;> omega

/-- Two nodes of a group two above its minimum. -/
theorem deleteNodes_keeps_min_sample :
    (∀ (W : Type) (h : ApiService W) (desired : W → String → Int)
        (owner : String → Option String), AwsLaws h desired owner →
      (∀ node ∈ [node1, node2], owner (instanceName node) = some groupG.name) →
      ∀ m : Machine W, desired m.world groupG.name = 2 →
        groupG.minSize ≤
          desired ((groupG.deleteNodes [node1, node2]).exec h m).mach.world groupG.name) ↔
      (2 : Int) = groupG.minSize ∨ groupG.minSize + ([node1, node2].length : Nat) ≤ 2 :=
  deleteNodes_keeps_min_iff groupG [node1, node2] (by decide) (by decide)

/-- A group with minimum 2 and size 3 of which two nodes are deleted ends at 1. -/
theorem deleteNodes_undershoots :
    let asg : Asg := ⟨0, "g", 2, 4⟩
    let start : Machine ClusterState :=
      ⟨freshStore [asg], { sampleState with desired := fun _ => 3 }⟩
    let after := (asg.deleteNodes [node1, node2]).exec Cluster.sample.service start
    asg.minSize ≤ start.world.desired asg.name ∧
      (∀ node ∈ [node1, node2], Cluster.sample.owner (instanceName node) = some asg.name) ∧
      after.val = .ok () ∧ after.mach.world.desired asg.name = 1 ∧ 1 < asg.minSize := by
  decide +kernel

end AutoNodeRepair
