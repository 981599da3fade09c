import AutoNodeRepair.Logic.Cluster

/-!
# Machines seen twice

A node has three identities in `RunOnce`: the two listings are matched by name,
tainting and draining go by name to the live node, and the termination goes by
the provider ID of the first listing. They mean one machine as long as no name
changed hands between the listings.
-/

namespace AutoNodeRepair

open Interact

section

variable {W : Type}

/-- The first `NotReady` listing of `RunOnce`. -/
def firstListing (h : ApiService W) (m : Machine W) :
    Outcome AutoScalingGroups W Api (List Node) :=
  listNotReadyNodes.exec h m

/-- The second one, after the repair period. -/
def secondListing (h : ApiService W) (repairtime : Duration) (m : Machine W) :
    Outcome AutoScalingGroups W Api (List Node) :=
  listNotReadyNodes.exec h ((sleep repairtime).exec h (firstListing h m).mach).mach

/-- The machine with this provider ID is in both lists. -/
def ListedTwice (l1 l2 : List Node) (providerID : String) : Prop :=
  (∃ node ∈ l1, node.providerID = providerID) ∧ ∃ node ∈ l2, node.providerID = providerID

/-- The machine an exchange terminates, taints or drains is in both lists;
`live` is the provider ID of the node that has a name at the time. -/
def TouchesListed (live : W → String → Option String) (l1 l2 : List Node)
    (e : ApiEvent W) : Prop :=
  match e.call with
  | .terminateInstance id _ =>
      ∃ pid, ListedTwice l1 l2 pid ∧ awsRefFromProviderId pid = .ok ⟨id⟩
  | .updateNode node => ListedTwice l1 l2 node.providerID
  | .evict pod => ∀ pid, live e.before pod.nodeName = some pid → ListedTwice l1 l2 pid
  | _ => True

variable {h : ApiService W} {live : W → String → Option String} {l1 l2 : List Node}

theorem touchesListed_of_quiet {e : ApiEvent W} (hquiet : e.call.quiet = true) :
    TouchesListed live l1 l2 e := by
  obtain ⟨c, ans, before, after⟩ := e
  cases c with
  | terminateInstance id dec => simp [ApiCall.quiet] at hquiet
  | updateNode node => simp [ApiCall.quiet] at hquiet
  | evict pod => simp [ApiCall.quiet] at hquiet
  | _ => exact trivial

theorem mem_commonNodes {node : Node} :
    node ∈ commonNodes l1 l2 ↔ node ∈ l1 ∧ ∃ other ∈ l2, node.name = other.name := by
  simp [commonNodes, containsNode]

/-- No name of the second list has come to mean another machine. -/
def NamesSettled (live : W → String → Option String) (l2 : List Node) (w : W) : Prop :=
  ∀ node ∈ l2, ∀ pid, live w node.name = some pid → pid = node.providerID

/-- A node in both lists under one name is one machine. -/
def SameMachines (l1 l2 : List Node) : Prop :=
  ∀ n1 ∈ l1, ∀ n2 ∈ l2, n1.name = n2.name → n1.providerID = n2.providerID

/-- Whatever carries the name of a common node was listed twice. -/
theorem listedTwice_of_live (hsame : SameMachines l1 l2) {w : W}
    (hsettled : NamesSettled live l2 w) {node : Node} (hnode : node ∈ commonNodes l1 l2)
    {pid : String} (hlive : live w node.name = some pid) : ListedTwice l1 l2 pid := by
  obtain ⟨h1, other, h2, hname⟩ := mem_commonNodes.mp hnode
  have hpid : pid = other.providerID := hsettled other h2 pid (hname ▸ hlive)
  subst hpid
  exact ⟨⟨node, h1, hsame node h1 other h2 hname⟩, other, h2, rfl⟩

/-- So was the common node itself. -/
theorem listedTwice_of_common (hsame : SameMachines l1 l2) {node : Node}
    (hnode : node ∈ commonNodes l1 l2) : ListedTwice l1 l2 node.providerID := by
  obtain ⟨h1, other, h2, hname⟩ := mem_commonNodes.mp hnode
  exact ⟨⟨node, h1, rfl⟩, other, h2, (hsame node h1 other h2 hname).symm⟩

/-- Work on the common nodes, from a state after the listings, touches only
machines listed twice. -/
theorem kept_listed {w₀ : W}
    (hfetched : ∀ w name fresh, (h w (.getNode name)).1 = .ok (some fresh) →
      live w name = some fresh.providerID)
    (hsettled : ∀ w, Service.Reachable h w₀ w → NamesSettled live l2 w)
    (hsame : SameMachines l1 l2) :
    Kept h (fun m => Service.Reachable h w₀ m.world) (TouchesListed live l1 l2)
      (fun _ => True) (fun node => node ∈ commonNodes l1 l2) := by
  refine Kept.of_closed (Service.Reachable h w₀) (fun w hw c => hw.step c)
    (fun _ _ _ hc => touchesListed_of_quiet hc) (fun _ _ _ _ => trivial) ?_ ?_
    (fun _ _ _ _ => trivial) ?_
  · intro w _ node hnode w' hw' fresh hfresh taints
    exact listedTwice_of_live hsame (hsettled w' hw') hnode (hfetched w' node.name fresh hfresh)
  · intro w hw node hnode pod hpod pid hlive
    exact listedTwice_of_live hsame (hsettled w hw) hnode (hpod ▸ hlive)
  · intro w _ node hnode ref dec hparsed
    exact ⟨node.providerID, listedTwice_of_common hsame hnode, hparsed⟩

/-- **Only doubly confirmed machines are touched**, if no name changed hands
between the two listings: every instance terminated and every machine tainted
or drained was `NotReady` in both, under its own provider ID. -/
theorem runOnce_touches_listed (a : StaticAutorepair) (fuel : Nat) (repairtime : Duration)
    (m : Machine W)
    (hfetched : ∀ w name fresh, (h w (.getNode name)).1 = .ok (some fresh) →
      live w name = some fresh.providerID)
    (hsettled : ∀ w, Service.Reachable h (secondListing h repairtime m).mach.world w →
      NamesSettled live (secondListing h repairtime m).val w)
    (hsame : SameMachines (firstListing h m).val (secondListing h repairtime m).val) :
    ∀ e ∈ ((a.runOnce fuel repairtime).exec h m).log,
      TouchesListed live (firstListing h m).val (secondListing h repairtime m).val e := by
  have hkept := kept_listed hfetched hsettled hsame
  have hlooks := Looks.quiet_only h
  intro e he
  simp only [StaticAutorepair.runOnce, exec_bind, Outcome.after_log, List.mem_append] at he
  rcases he with he | he
  · exact touchesListed_of_quiet ((hlooks.listNotReadyNodes m trivial).2 e he)
  split at he
  · simp at he
  simp only [exec_bind, Outcome.after_log, List.mem_append] at he
  rcases he with he | he | he
  · exact touchesListed_of_quiet ((hlooks.ask (.sleep repairtime) rfl _ trivial).2 e he)
  · exact touchesListed_of_quiet ((hlooks.listNotReadyNodes _ trivial).2 e he)
  split at he
  · simp only [exec_bind, Outcome.after_log, List.mem_append] at he
    rcases he with he | he
    · exact (hkept.repairNodes a fuel (fun _ hnode => hnode)
        (secondListing h repairtime m).mach .refl).2 e he
    · split at he
      · simp only [exec_bind, exec_pure, Outcome.after_log, List.append_nil] at he
        exact touchesListed_of_quiet ((hlooks.ask (.sleep minute) rfl _ trivial).2 e he)
      · simp at he
  · simp at he

end

/-- The provider IDs of the nodes of the sample cluster, which never change. -/
def sampleLive (_ : ClusterState) (name : String) : Option String :=
  (Cluster.sample.nodes.find? fun node => node.name == name).map Node.providerID

/-- The sample cluster: its names never change hands. -/
theorem runOnce_touches_listed_sample :
    SameMachines (firstListing Cluster.sample.service sampleMachine).val
        (secondListing Cluster.sample.service minute sampleMachine).val ∧
      ∀ e ∈ ((({} : StaticAutorepair).runOnce 5 minute).exec Cluster.sample.service
          sampleMachine).log,
        TouchesListed sampleLive (firstListing Cluster.sample.service sampleMachine).val
          (secondListing Cluster.sample.service minute sampleMachine).val e := by
  have hsame : SameMachines (firstListing Cluster.sample.service sampleMachine).val
      (secondListing Cluster.sample.service minute sampleMachine).val := by
    unfold SameMachines
    decide
  have hfetched : ∀ w name fresh, (Cluster.sample.service w (.getNode name)).1 =
      .ok (some fresh) → sampleLive w name = some fresh.providerID := by
    intro w name fresh hfresh
    obtain ⟨node, hfind, rfl⟩ := Option.map_eq_some_iff.mp (Except.ok.inj hfresh)
    simp only [sampleLive, hfind, Option.map_some]
    split <;> rfl
  have hshown : ∀ node ∈ (secondListing Cluster.sample.service minute sampleMachine).val,
      sampleLive sampleState node.name = some node.providerID := by
    decide
  exact ⟨hsame, runOnce_touches_listed {} 5 minute sampleMachine hfetched
    (fun w _ node hnode pid hlive => Option.some.inj (hlive.symm.trans (hshown node hnode)))
    hsame⟩

/-- Between the listings the name `n1` goes to the machine `i-2`. -/
def renamedBetweenListings : ApiService (ClusterState × Nat) :=
  Cluster.sample.variant fun w call =>
    match call with
    | .sleep _ => some ((), (w.1, w.2 + 1))
    | .listNodes .notReady =>
        some (.ok [if w.2 = 0 then node1 else { node1 with providerID := "aws:///z/i-2" }], w)
    | .getNode "n1" => some (.ok (some { node1 with providerID := "aws:///z/i-2" }), w)
    | _ => none

/-- Then `i-1` is terminated, which the second listing does not show. -/
theorem runOnce_terminates_unlisted :
    let m : Machine (ClusterState × Nat) := ⟨freshStore [groupG, groupK], sampleState, 0⟩
    (firstListing renamedBetweenListings m).val.map Node.providerID = ["aws:///z/i-1"] ∧
      (secondListing renamedBetweenListings minute m).val.map Node.providerID =
        ["aws:///z/i-2"] ∧
      ((({} : StaticAutorepair).runOnce 5 minute).exec
        renamedBetweenListings m).mach.world.1.terminated = ["i-1"] := by
  decide +kernel

end AutoNodeRepair
