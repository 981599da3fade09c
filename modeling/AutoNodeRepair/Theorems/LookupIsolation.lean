import AutoNodeRepair.Logic.Cluster

/-!
# A node that cannot be looked up

`AsgNotReadyNodes` gives up at the first node whose lookup fails, and
`RepairNodes` drops the error: one malformed provider id among the confirmed
nodes and no group is handed anything. So inserting such a node is harmless
exactly when nothing would have been handed over without it (`Unclaimed`).
With lookups whose answers do not change (`Steady`) that is the case when
another lookup fails already, or no node belongs to a registered group.
-/

namespace AutoNodeRepair

open Interact

section

variable {W : Type} {h : ApiService W}

/-- A malformed node in the list fails the search, wherever it stands. -/
theorem nodesOfGroup_malformed {bad : Node} (hbad : validAwsRefId bad.providerID = false)
    (asg : Asg) (after : List Node) :
    ∀ (before : List Node) (m : Machine W), ∃ err',
      ((nodesOfGroup asg (before ++ bad :: after)).exec h m).val = .error err' := by
  intro before
  induction before with
  | nil =>
      intro m
      obtain ⟨err, hlookup⟩ : ∃ err, nodeGroupForNode bad = (pure (.error err) : Ctl _) :=
        ⟨_, by simp [nodeGroupForNode, awsRefFromProviderId, hbad]; rfl⟩
      exact ⟨err, by simp [nodesOfGroup, hlookup]⟩
  | cons node before ih =>
      intro m
      simp only [List.cons_append, nodesOfGroup, exec_bind, Outcome.after_val]
      cases ((nodeGroupForNode node).exec h m).val with
      | error err' => exact ⟨err', rfl⟩
      | ok found =>
          obtain ⟨err', herr⟩ := ih ((nodeGroupForNode node).exec h m).mach
          exact ⟨err', by simp [herr]⟩

/-- Handed an empty list, `AsgRepairNodes` reads the size and is done. -/
theorem asgRepairNodes_empty (a : StaticAutorepair) (fuel : Nat) (asg : Asg) (m : Machine W) :
    (a.asgRepairNodes (fuel + 1) asg []).exec h m =
      ⟨.done, ((asg.targetSize).exec h m).log, ((asg.targetSize).exec h m).mach⟩ := by
  simp [StaticAutorepair.asgRepairNodes, Outcome.after]

/-- Where every search fails, every group is handed the empty list. -/
theorem repairLoop_nothing (a : StaticAutorepair) (fuel : Nat) {l : List Node}
    (hfails : ∀ asg, ∀ m : Machine W, ((asgNotReadyNodes asg l).exec h m).val.1 = []) :
    ∀ (asgs : List Asg) (m : Machine W),
    ((a.repairLoop (fuel + 1) l asgs).exec h m).val =
      ⟨.done, asgs.map fun asg => (asg, [])⟩ := by
  intro asgs
  induction asgs with
  | nil => intro m; rfl
  | cons asg rest ih =>
      intro m
      simp only [StaticAutorepair.repairLoop, exec_bind, Outcome.after_val, hfails,
        asgRepairNodes_empty, ih, exec_pure, List.map_cons]

/-- One malformed node, and no group is handed anything. -/
theorem repairNodes_malformed (a : StaticAutorepair) (fuel : Nat) {bad : Node}
    (hbad : validAwsRefId bad.providerID = false) (before after : List Node)
    (m : Machine W) :
    ((a.repairNodes (fuel + 1) (before ++ bad :: after)).exec h m).val =
      ⟨.done, m.store.registeredAsgs.map fun asg => (asg, [])⟩ := by
  refine repairLoop_nothing a fuel (fun asg m => ?_) m.store.registeredAsgs m
  obtain ⟨err', herr⟩ := nodesOfGroup_malformed (h := h) hbad asg after before m
  simp [asgNotReadyNodes, herr]

/-! ## What is handed over without it -/

variable (h) in
/-- The answers a search gets: one node after the other, up to the first lookup
that fails. -/
def lookups : List Node → Machine W → List (Except String (Option Asg))
  | [], _ => []
  | node :: rest, m =>
      match ((nodeGroupForNode node).exec h m).val with
      | .error err => [.error err]
      | .ok found => .ok found :: lookups rest ((nodeGroupForNode node).exec h m).mach

variable (h) in
/-- A search for the nodes of `asg` that ends in a failing lookup or does not
meet the group. -/
def FindsNothing (ns : List Node) (asg : Asg) (m : Machine W) : Prop :=
  (∃ err, .error err ∈ lookups h ns m) ∨ .ok (some asg) ∉ lookups h ns m

variable (h) in
/-- For each of the groups in turn the search finds nothing, so that next to the
searches only the sizes of the groups are read. -/
def Unclaimed (ns : List Node) : List Asg → Machine W → Prop
  | [], _ => True
  | asg :: rest, m =>
      FindsNothing h ns asg m ∧
        Unclaimed ns rest ((asg.targetSize).exec h ((asgNotReadyNodes asg ns).exec h m).mach).mach

/-- The search as its lookups decide it. -/
theorem nodesOfGroup_lookups (asg : Asg) :
    ∀ (l : List Node) (m : Machine W),
    (∃ err, .error err ∈ lookups h l m) ∧
        (∃ err, ((nodesOfGroup asg l).exec h m).val = .error err) ∨
      (∀ err, .error err ∉ lookups h l m) ∧
        ∃ found, ((nodesOfGroup asg l).exec h m).val = .ok found ∧
          (found = [] ↔ .ok (some asg) ∉ lookups h l m) := by
  intro l
  induction l with
  | nil => intro m; exact .inr ⟨by simp [lookups], [], rfl, by simp [lookups]⟩
  | cons node rest ih =>
      intro m
      simp only [nodesOfGroup, lookups, exec_bind, Outcome.after_val]
      cases ((nodeGroupForNode node).exec h m).val with
      | error err => exact .inl ⟨⟨err, by simp⟩, err, rfl⟩
      | ok owner =>
          rcases ih ((nodeGroupForNode node).exec h m).mach with
            ⟨⟨err, herr⟩, err', hval⟩ | ⟨hok, found, hval, hfound⟩
          · exact .inl ⟨⟨err, by simp [herr]⟩, err', by simp [hval]⟩
          · refine .inr ⟨by simpa using hok, ?_⟩
            by_cases howner : owner = some asg
            · exact ⟨node :: found, by simp [hval, howner], by simp [howner]⟩
            · refine ⟨found, by simp [hval, howner], ?_⟩
              rw [hfound]
              simp [Ne.symm howner]

/-- A group is handed the empty list exactly if its search finds nothing. -/
theorem asgNotReadyNodes_nothing_iff (ns : List Node) (asg : Asg) (m : Machine W) :
    ((asgNotReadyNodes asg ns).exec h m).val.1 = [] ↔ FindsNothing h ns asg m := by
  simp only [asgNotReadyNodes, exec_bind, Outcome.after_val, FindsNothing]
  rcases nodesOfGroup_lookups (h := h) asg ns m with
    ⟨hfails, err, hval⟩ | ⟨hok, found, hval, hfound⟩
  · simp [hval, hfails]
  · simp [hval, hfound, hok]

/-- Every group is handed the empty list exactly if none is claimed. -/
theorem repairLoop_nothing_iff (a : StaticAutorepair) (fuel : Nat) (ns : List Node) :
    ∀ (todo : List Asg) (m : Machine W),
    (((a.repairLoop (fuel + 1) ns todo).exec h m).val.handed =
        todo.map fun asg => (asg, [])) ↔ Unclaimed h ns todo m := by
  intro todo
  induction todo with
  | nil => intro m; simp [StaticAutorepair.repairLoop, Unclaimed]
  | cons asg rest ih =>
      intro m
      have hnone := asgNotReadyNodes_nothing_iff (h := h) ns asg m
      simp only [StaticAutorepair.repairLoop, Unclaimed, exec_bind, Outcome.after_val,
        List.map_cons]
      by_cases hempty : ((asgNotReadyNodes asg ns).exec h m).val.1 = []
      · -- this group gets nothing: it is up to the others
        simp only [hempty, asgRepairNodes_empty, exec_bind, Outcome.after_val, exec_pure,
          List.cons.injEq, true_and, ih, hnone.mp hempty]
      · -- this group gets something, however its repair ends
        have hleft : ∀ more : List (Asg × List Node),
            (asg, ((asgNotReadyNodes asg ns).exec h m).val.1) :: more ≠
              (asg, []) :: rest.map fun asg => (asg, []) := by
          intro more heq
          simp only [List.cons.injEq, Prod.mk.injEq, true_and] at heq
          exact hempty heq.1
        simp only [hnone.not.mp hempty, false_and, iff_false]
        split
        · simpa only [exec_bind, Outcome.after_val, exec_pure] using hleft _
        · simpa only [exec_pure] using hleft _

/-- **Isolation of lookup failures.** Inserting a node with a malformed provider
id leaves what the groups are handed unchanged exactly if without it no group
is claimed: the search for each of them fails already, or does not meet it. -/
theorem repairNodes_isolates_iff (a : StaticAutorepair) {fuel : Nat} (hfuel : 1 ≤ fuel)
    {bad : Node} (hbad : validAwsRefId bad.providerID = false) (before after : List Node)
    (m : Machine W) :
    ((a.repairNodes fuel (before ++ bad :: after)).exec h m).val.handed =
        ((a.repairNodes fuel (before ++ after)).exec h m).val.handed ↔
      Unclaimed h (before ++ after) m.store.registeredAsgs m := by
  obtain ⟨fuel, rfl⟩ : ∃ k, fuel = k + 1 := ⟨fuel - 1, by omega⟩
  have hloop : ((a.repairNodes (fuel + 1) (before ++ after)).exec h m).val =
      ((a.repairLoop (fuel + 1) (before ++ after) m.store.registeredAsgs).exec h m).val := rfl
  rw [repairNodes_malformed a fuel hbad before after m, hloop, eq_comm]
  exact repairLoop_nothing_iff a fuel _ _ m

end

/-! ## Lookups that do not change their mind -/

/-- From every machine in `M` the node `node` is looked up with the answer
`lookup node`, and looking around does not leave `M`. -/
structure Steady {W : Type} (h : ApiService W) (asgs : List Asg) (ns : List Node)
    (M : Machine W → Prop) (lookup : Node → Except String (Option Asg)) : Prop where
  registered : ∀ m, M m → m.store.registeredAsgs = asgs
  answers : ∀ node ∈ ns, ∀ m, M m → ((nodeGroupForNode node).exec h m).val = lookup node
  looked : ∀ node ∈ ns, ∀ m, M m → M ((nodeGroupForNode node).exec h m).mach
  sized : ∀ asg ∈ asgs, ∀ m, M m → M ((asg.targetSize).exec h m).mach

namespace Steady

variable {W : Type} {h : ApiService W} {asgs : List Asg} {ns : List Node}
  {M : Machine W → Prop} {lookup : Node → Except String (Option Asg)}

/-- The answers of a search under steady lookups. -/
theorem lookups (hs : Steady h asgs ns M lookup) :
    ∀ (l : List Node), (∀ node ∈ l, node ∈ ns) → ∀ m, M m →
    ((∃ err, .error err ∈ lookups h l m) ↔ ∃ node ∈ l, ∃ err, lookup node = .error err) ∧
      ((∀ node ∈ l, ∀ err, lookup node ≠ .error err) → lookups h l m = l.map lookup) := by
  intro l
  induction l with
  | nil => intro _ m _; simp [AutoNodeRepair.lookups]
  | cons node rest ih =>
      intro hl m hm
      have hnode := hl node List.mem_cons_self
      obtain ⟨hfails, hall⟩ := ih (fun n hn => hl n (List.mem_cons_of_mem _ hn)) _
        (hs.looked node hnode m hm)
      simp only [AutoNodeRepair.lookups, hs.answers node hnode m hm]
      cases hlook : lookup node with
      | error err =>
          refine ⟨⟨fun _ => ⟨node, List.mem_cons_self, err, hlook⟩, fun _ => ⟨err, by simp⟩⟩, ?_⟩
          intro hok
          exact absurd hlook (hok node List.mem_cons_self err)
      | ok found =>
          refine ⟨by simp [hlook, hfails], fun hok => ?_⟩
          rw [hall fun n hn => hok n (List.mem_cons_of_mem _ hn), List.map_cons, hlook]

/-- The machine of a search stays in `M`. -/
theorem nodesOfGroup (hs : Steady h asgs ns M lookup) (asg : Asg) :
    ∀ (l : List Node), (∀ node ∈ l, node ∈ ns) → ∀ m, M m →
    M ((nodesOfGroup asg l).exec h m).mach := by
  intro l
  induction l with
  | nil => exact fun _ m hm => hm
  | cons node rest ih =>
      intro hl m hm
      have hm' := hs.looked node (hl node List.mem_cons_self) m hm
      have hrest := ih (fun n hn => hl n (List.mem_cons_of_mem _ hn)) _ hm'
      simp only [AutoNodeRepair.nodesOfGroup, exec_bind, Outcome.after_mach]
      cases ((nodeGroupForNode node).exec h m).val with
      | error err => exact hm'
      | ok found =>
          simp only [exec_bind, Outcome.after_mach]
          split <;> exact hrest

/-- Under steady lookups a search finds nothing exactly if some lookup fails or
no node belongs to the group. -/
theorem findsNothing_iff (hs : Steady h asgs ns M lookup) (asg : Asg) {m : Machine W}
    (hm : M m) : FindsNothing h ns asg m ↔
      (∃ node ∈ ns, ∃ err, lookup node = .error err) ∨
        ∀ node ∈ ns, lookup node ≠ .ok (some asg) := by
  obtain ⟨hfails, hall⟩ := hs.lookups ns (fun _ hn => hn) m hm
  unfold FindsNothing
  rw [hfails]
  by_cases herr : ∃ node ∈ ns, ∃ err, lookup node = .error err
  · simp [herr]
  · rw [hall fun node hnode err hlook => herr ⟨node, hnode, err, hlook⟩]
    simp [herr]

/-- Under steady lookups no group is claimed exactly if some lookup fails, or no
node belongs to any of them. -/
theorem unclaimed_iff (hs : Steady h asgs ns M lookup) :
    ∀ (todo : List Asg) (m : Machine W), (∀ asg ∈ todo, asg ∈ asgs) → M m →
    (Unclaimed h ns todo m ↔ (∃ node ∈ ns, ∃ err, lookup node = .error err) ∨
      ∀ node ∈ ns, ∀ asg ∈ todo, lookup node ≠ .ok (some asg)) := by
  intro todo
  induction todo with
  | nil => intro m _ _; simp [Unclaimed]
  | cons asg rest ih =>
      intro m htodo hm
      have hM : M ((AutoNodeRepair.asgNotReadyNodes asg ns).exec h m).mach := by
        have hsearch := hs.nodesOfGroup asg ns (fun _ hn => hn) m hm
        simp only [AutoNodeRepair.asgNotReadyNodes, exec_bind, Outcome.after_mach]
        split <;> exact hsearch
      rw [Unclaimed, hs.findsNothing_iff asg hm,
        ih _ (fun b hb => htodo b (List.mem_cons_of_mem _ hb))
          (hs.sized asg (htodo asg List.mem_cons_self) _ hM), ← or_and_left]
      refine or_congr_right ?_
      simp only [List.forall_mem_cons, forall_and]

end Steady

/-- The registered group a node's machine belongs to. -/
def registeredOwner (asgs : List Asg) (owner : String → Option String) (node : Node) :
    Except String (Option Asg) :=
  match awsRefFromProviderId node.providerID with
  | .error err => .error err
  | .ok ref => .ok (asgs.find? fun asg => owner ref.name == some asg.name)

/-- Before the first termination of a calm repair the lookups are steady. -/
theorem AtStage.steady {W : Type} {h : ApiService W} {desired : W → String → Int}
    {owner : String → Option String} {present : W → String → Prop} {asgs : List Asg}
    {ns : List Node} {terms : W → List String} {work : String → Prop}
    (S : AtStage.Setting h desired owner present asgs ns terms work)
    (hwork : ∀ id, ∀ asg ∈ asgs, owner id = some asg.name → work id) (table : String → Int) :
    Steady h asgs ns (AtStage desired terms present work owner asgs table [])
      (registeredOwner asgs owner) where
  registered := fun m hm => hm.cache.registered
  looked := fun node _ m hm => ((AtStage.drains S table [] fun _ => True).nodeGroupForNode
    node m hm).1
  sized := fun asg _ m hm => ((AtStage.drains S table [] fun _ => True).getAsgSize asg m hm).1
  answers := by
    intro node _ m hm
    unfold AutoNodeRepair.nodeGroupForNode registeredOwner
    cases awsRefFromProviderId node.providerID with
    | error err => rfl
    | ok ref =>
        obtain ⟨⟨-, found, hval, hsome, hnone⟩, -⟩ := AtStage.find S ref m hm
        show ((findForInstance ref).exec h m).val = _
        rw [hval]
        congr 1
        cases hfound : found with
        | none =>
            refine (List.find?_eq_none.mpr fun asg hasg howner => ?_).symm
            have hdone := hnone hfound (hwork _ asg hasg (by simpa using howner))
            simp at hdone
        | some b =>
            obtain ⟨hb, howner⟩ := hsome b hfound
            cases hfirst : asgs.find? fun asg => owner ref.name == some asg.name with
            | none => exact absurd howner (by simpa using List.find?_eq_none.mp hfirst b hb)
            | some b' =>
                have howner' : owner ref.name = some b'.name := by
                  simpa using List.find?_some hfirst
                have hname : b.name = b'.name := by simpa using howner.symm.trans howner'
                rw [S.names b' (List.mem_of_find?_eq_some hfirst) b hb hname]

/-- A node of some other provider. -/
def foreignNode : Node := { name := "n9", providerID := "gce://project/zone/n9" }

/-- The sample cluster, asked about a node no registered group owns. -/
theorem repairNodes_isolates_sample :
    ((({} : StaticAutorepair).repairNodes 1 ([node5] ++ [foreignNode])).exec
        Cluster.sample.service ⟨freshStore [groupG], sampleState⟩).val.handed =
      ((({} : StaticAutorepair).repairNodes 1 ([node5] ++ [])).exec
        Cluster.sample.service ⟨freshStore [groupG], sampleState⟩).val.handed := by
  let work : String → Prop := fun id => ∃ asg ∈ [groupG], Cluster.sample.owner id = some asg.name
  have S : AtStage.Setting Cluster.sample.service ClusterState.desired Cluster.sample.owner
      (fun w id => id ∉ w.terminated) [groupG] ([node5] ++ []) ClusterState.terminated work :=
    ⟨Cluster.sample.calm [groupG] (by decide), Cluster.sample.counts, by decide, fun _ hid => hid⟩
  have hstart : AtStage ClusterState.desired ClusterState.terminated (fun w id => id ∉ w.terminated)
      work Cluster.sample.owner [groupG] sampleState.desired []
      ⟨freshStore [groupG], sampleState⟩ :=
    ⟨freshStore_cacheInv _ _ _, rfl, rfl, fun _ _ _ => List.not_mem_nil⟩
  have hsteady := AtStage.steady S (fun id asg hasg howner => ⟨asg, hasg, howner⟩)
    sampleState.desired
  refine (repairNodes_isolates_iff {} (show 1 ≤ 1 by decide)
    (show validAwsRefId foreignNode.providerID = false by decide) [node5] [] _).mpr ?_
  exact (hsteady.unclaimed_iff [groupG] _ (fun _ hasg => hasg) hstart).mpr
    (.inr (by decide))

/-- The same cluster with a node of `g`: alone it is handed over, next to the
foreign node it is not. -/
theorem repairNodes_stops_at_foreign :
    let m : Machine ClusterState := ⟨freshStore [groupG], sampleState⟩
    ((({} : StaticAutorepair).repairNodes 2 [node1]).exec Cluster.sample.service m).val.handed =
        [(groupG, [node1])] ∧
      ((({} : StaticAutorepair).repairNodes 2 [node1, foreignNode]).exec
        Cluster.sample.service m).val.handed = [(groupG, [])] := by
  decide +kernel

end AutoNodeRepair
