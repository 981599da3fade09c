import Mathlib.Data.List.Nodup
import AutoNodeRepair.Logic.Cluster

/-!
# Capacity conservation

When every request succeeds, a repair replaces each listed node of a registered
group exactly once, touches nothing else, and leaves every group at the size it
had. The three ways of a batch (grow then delete, delete then grow at the
maximum, restart at the minimum) all return to the size they started from
(`AtStage.repairBatch`); the recursion and the loop over the groups repeat that.
-/

namespace AutoNodeRepair

open Interact

/-- The instances of the listed nodes of a group. -/
def instancesIn (owner : String → Option String) (ns : List Node) (asg : Asg) : List String :=
  (ns.filter (ownedNode owner asg)).map instanceName

theorem mem_instancesIn {owner : String → Option String} {ns : List Node} {asg : Asg}
    {id : String} : id ∈ instancesIn owner ns asg ↔
      (∃ node ∈ ns, instanceName node = id) ∧ owner id = some asg.name := by
  simp only [instancesIn, List.mem_map, List.mem_filter, ownedNode, beq_iff_eq]
  constructor
  · rintro ⟨node, ⟨hnode, howned⟩, rfl⟩
    exact ⟨⟨node, hnode, rfl⟩, howned⟩
  · rintro ⟨⟨node, hnode, rfl⟩, howned⟩
    exact ⟨node, ⟨hnode, howned⟩, rfl⟩

/-- A machine is in one group at most. -/
theorem nodup_instancesIn {owner : String → Option String} {asgs : List Asg} {ns : List Node}
    (hnames : (asgs.map Asg.name).Nodup) (hdistinct : (ns.map instanceName).Nodup) :
    (asgs.flatMap (instancesIn owner ns)).Nodup := by
  rw [List.nodup_flatMap]
  refine ⟨fun asg _ => hdistinct.sublist (List.filter_sublist.map instanceName), ?_⟩
  refine (List.pairwise_map.mp hnames).imp fun {asg b} hne => ?_
  intro id hid hid'
  have howner := (mem_instancesIn.mp hid).2.symm.trans (mem_instancesIn.mp hid').2
  injection howner with hname
  exact hne hname

namespace AtStage

variable {W : Type} {h : ApiService W} {desired : W → String → Int}
  {owner : String → Option String} {present : W → String → Prop} {asgs : List Asg}
  {ns : List Node} {terms : W → List String} {work : String → Prop}
  {done : List String} {asg : Asg} {size : Int}

variable (S : Setting h desired owner present asgs ns terms work) (base : String → Int)
include S

/-! ## One batch -/

/-- `DeleteNodes` on a batch still to be replaced. -/
theorem deleteNodes (hasg : asg ∈ asgs) (a : StaticAutorepair) (hmin : asg.minSize ≤ size)
    {l : List Node} (hl : ∀ node ∈ l, node ∈ ns ∧ Todo owner work asg done node)
    (hdistinct : (l.map instanceName).Nodup) (hdrain : ∀ node ∈ ns, DrainableNow h a node) :
    Triple h (AtStage desired terms present work owner asgs
        (Function.update base asg.name size) done)
      (Between desired base asg (max (size - l.length) asg.minSize) size)
      (a.deleteNodes asg l)
      fun _ => AtStage desired terms present work owner asgs
        (Function.update base asg.name (max (size - l.length) asg.minSize))
        (done ++ l.map instanceName) := by
  have hframe : ∀ e : ApiEvent W, desired e.after = Function.update base asg.name size →
      Between desired base asg (max (size - l.length) asg.minSize) size e :=
    fun e he => ⟨size, by omega, by omega, he⟩
  have hlooks := (drains S (Function.update base asg.name size) done fun _ => True).toLooks
  refine Triple.bind ((hlooks.getAsgSize asg).weaken_events hframe) fun prev => ?_
  refine Triple.bind ((hlooks.getAsgSize asg).weaken_events hframe) fun curr => ?_
  refine Triple.bind_val (Keeps.with_val (Q := fun r => ∃ w, r = (h w .listPodDisruptionBudgets).1)
    ((hlooks.ask .listPodDisruptionBudgets rfl).weaken_events hframe)
    fun m _ => ⟨m.world, rfl⟩) ?_
  rintro _ ⟨w, rfl⟩
  refine Triple.bind_val (Keeps.with_val (Q := fun r => ∃ w', r = (h w' .listScheduledPods).1)
    ((hlooks.ask .listScheduledPods rfl).weaken_events hframe) fun m _ => ⟨m.world, rfl⟩) ?_
  rintro _ ⟨w', rfl⟩
  refine Triple.bind_val (deleteLoop S hasg a (createNodeNameToInfoMap_pods _ l) l done size
    hmin hl hdistinct ?_) fun completed _ => ?_
  · intro node hnode
    exact ⟨_, createNodeNameToInfoMap_of_mem hnode,
      fun v => hdrain node (hl node hnode).1 w w' v⟩
  · -- the wait for the smaller size only looks
    have hpoll := (drains S (Function.update base asg.name (max (size - l.length) asg.minSize))
      (done ++ l.map instanceName) fun _ => True).pollDeleted asg (prev.1 - l.length) 4 curr.1
    refine Keeps.ite ?_ (Keeps.pure _)
    exact hpoll.weaken_events fun e he => ⟨_, Int.le_refl _, by omega, he⟩

/-- `StaticAutorepair.IncreaseSize` with an increase that fits. -/
theorem increaseSizeReport (hasg : asg ∈ asgs) (inc : Int) (hinc : 0 < inc)
    (hmin : asg.minSize ≤ size) (hmax : size + inc ≤ asg.maxSize) :
    Triple h (AtStage desired terms present work owner asgs
        (Function.update base asg.name size) done)
      (Between desired base asg size (size + inc)) (increaseSizeReport asg inc)
      fun _ => AtStage desired terms present work owner asgs
        (Function.update base asg.name (size + inc)) done := by
  refine Triple.bind (((drains S _ _ fun _ => True).asgReadyNodes asg).weaken_events
    fun e he => ⟨size, by omega, by omega, he⟩) fun ready => ?_
  refine Triple.bind_val (grow S hasg hinc hmin hmax) ?_
  rintro _ rfl
  refine Triple.bind (((drains S _ _ fun _ => True).pollReady asg _ _ _).weaken_events
    fun e he => ⟨size + inc, by omega, by omega, he⟩) fun polls => ?_
  exact Triple.pure _ fun _ hm => hm

/-- And with one that does not. -/
theorem increaseSizeReport_refused {inc : Int} (hmax : asg.maxSize < size + inc) :
    Triple h (AtStage desired terms present work owner asgs
        (Function.update base asg.name size) done)
      (Between desired base asg size size) (AutoNodeRepair.increaseSizeReport asg inc)
      fun _ => AtStage desired terms present work owner asgs
        (Function.update base asg.name size) done := by
  refine Triple.bind (((drains S _ _ fun _ => True).asgReadyNodes asg).weaken_events
    fun e he => ⟨size, by omega, by omega, he⟩) fun ready => ?_
  refine Triple.bind_val (grow_refused S hmax) ?_
  rintro _ ⟨err, rfl⟩
  exact Triple.pure _ fun _ hm => hm

/-- After one deletion at the maximum: the machine taken is added again, unless
the minimum had kept the size as it was. -/
theorem increaseSizeReport_back (hasg : asg ∈ asgs) (hmin : asg.minSize ≤ size)
    (hmax : size ≤ asg.maxSize) (hfull : size ≥ asg.maxSize) {ids : List String} :
    Triple h (AtStage desired terms present work owner asgs
        (Function.update base asg.name (max (size - 1) asg.minSize)) ids)
      (Between desired base asg (max (size - 1) asg.minSize) asg.maxSize)
      (AutoNodeRepair.increaseSizeReport asg 1)
      fun _ => AtStage desired terms present work owner asgs
        (Function.update base asg.name size) ids := by
  by_cases hroom : asg.minSize < asg.maxSize
  · have hsize : max (size - 1) asg.minSize + 1 = size := by omega
    refine Triple.weaken_events (Triple.conseq (increaseSizeReport S base hasg 1 (by omega)
      (show asg.minSize ≤ max (size - 1) asg.minSize by omega) (by omega))
      (fun _ hm => hm) ?_) fun e he => he.widen (by omega) (by omega)
    intro _ m hm
    rwa [hsize] at hm
  · have hsize : max (size - 1) asg.minSize = size := by omega
    rw [hsize]
    exact (increaseSizeReport_refused S base (by omega)).weaken_events
      fun e he => he.widen (by omega) (by omega)

/-- A batch: each of its nodes is replaced, and the group is back at its size. -/
theorem repairBatch (hasg : asg ∈ asgs) (a : StaticAutorepair) (hmin : asg.minSize ≤ size)
    (hmax : size ≤ asg.maxSize) {l : List Node} (hne : l ≠ [])
    (hl : ∀ node ∈ l, node ∈ ns ∧ Todo owner work asg done node)
    (hdistinct : (l.map instanceName).Nodup) (hdrain : ∀ node ∈ ns, Drainable h a node) :
    Triple h (AtStage desired terms present work owner asgs
        (Function.update base asg.name size) done)
      (Between desired base asg (max (size - 1) asg.minSize) asg.maxSize)
      (a.repairBatch asg l size)
      fun r m => (∃ n : Nat, r.incSize = n ∧ 1 ≤ n ∧ n ≤ l.length ∧
          AtStage desired terms present work owner asgs (Function.update base asg.name size)
            (done ++ (l.take n).map instanceName) m) ∧ ∀ n, r ≠ .panicked n := by
  have hlen : 1 ≤ l.length := List.length_pos_iff.mpr hne
  have htake : ∀ n, (∀ node ∈ l.take n, node ∈ ns ∧ Todo owner work asg done node) ∧
      ((l.take n).map instanceName).Nodup :=
    fun n => ⟨fun node hnode => hl node (List.mem_of_mem_take hnode),
      hdistinct.sublist ((List.take_sublist n l).map instanceName)⟩
  unfold StaticAutorepair.repairBatch
  split
  · -- at the maximum: one node goes, then one machine is added if that left room
    rename_i hfull
    have hone : ((l.take 1).length : Int) = 1 := by simp; omega
    have hdelete := deleteNodes S base hasg a hmin (htake 1).1 (htake 1).2
      fun node hnode => (hdrain node hnode).atNow
    rw [hone] at hdelete
    refine Triple.bind (hdelete.weaken_events fun e he => he.widen (by omega) hmax) fun _ => ?_
    refine Triple.bind (increaseSizeReport_back S base hasg hmin hmax hfull) fun report => ?_
    exact Triple.pure _ fun m hm => ⟨⟨1, rfl, by omega, hlen, hm⟩, by simp⟩
  · -- below it: the batch fits into the room above
    rename_i hbelow
    refine Triple.bind_val (R := AtStage desired terms present work owner asgs
      (Function.update base asg.name size) done)
      (Q := fun inc : Int => 1 ≤ inc ∧ inc ≤ l.length ∧ size + inc ≤ asg.maxSize) ?_ ?_
    · refine Triple.bind_val ((getAsgSize S hasg).weaken_events
        fun e he => ⟨size, by omega, hmax, he⟩) ?_
      rintro _ rfl
      refine Triple.pure _ fun m hm => ⟨hm, ?_⟩
      simp only [Function.update_self, allowableIncreaseSize]
      split <;> omega
    rintro inc ⟨hinc, hfits, hroom⟩
    rw [if_neg (by omega)]
    have hbatch : ((l.take inc.toNat).length : Int) = inc := by
      rw [List.length_take]
      omega
    refine Triple.bind ((increaseSizeReport S base hasg inc (by omega) hmin hroom).weaken_events
      fun e he => he.widen (by omega) hroom) fun report => ?_
    have hdelete := deleteNodes S base hasg a (show asg.minSize ≤ size + inc by omega)
      (htake inc.toNat).1 (htake inc.toNat).2 fun node hnode => (hdrain node hnode).atNow
    have hback : max (size + inc - inc) asg.minSize = size := by omega
    rw [hbatch, hback] at hdelete
    refine Triple.bind (hdelete.weaken_events fun e he => he.widen (by omega) hroom) fun _ => ?_
    exact Triple.pure _ fun m hm =>
      ⟨⟨inc.toNat, by simp [BatchReport.incSize]; omega, by omega, by omega, hm⟩, by simp⟩

/-! ## The recursion and the loop over the groups -/

/-- `AsgRepairNodes` replaces its whole list, batch after batch. -/
theorem asgRepairNodes (hasg : asg ∈ asgs) (a : StaticAutorepair) (hmin : asg.minSize ≤ size)
    (hmax : size ≤ asg.maxSize) (hdrain : ∀ node ∈ ns, Drainable h a node) :
    ∀ (fuel : Nat) (l : List Node) (done : List String), l.length + 1 ≤ fuel →
    (∀ node ∈ l, node ∈ ns ∧ Todo owner work asg done node) →
    (l.map instanceName).Nodup →
    Triple h (AtStage desired terms present work owner asgs
        (Function.update base asg.name size) done)
      (Between desired base asg (max (size - 1) asg.minSize) asg.maxSize)
      (a.asgRepairNodes fuel asg l)
      fun r m => AtStage desired terms present work owner asgs
        (Function.update base asg.name size) (done ++ l.map instanceName) m ∧ r = .done := by
  -- every batch takes a node at least, so the fuel outlasts the list
  intro fuel
  induction fuel with
  | zero => intro l done hfuel; omega
  | succ fuel ih =>
      intro l done hfuel hl hdistinct
      refine Triple.bind_val ((getAsgSize S hasg).weaken_events
        fun e he => ⟨size, by omega, hmax, he⟩) ?_
      rintro _ rfl
      simp only [Function.update_self]
      cases l with
      | nil => exact Triple.pure _ fun m hm => ⟨by simpa using hm, rfl⟩
      | cons node rest =>
          refine Triple.bind (repairBatch S base hasg a hmin hmax (List.cons_ne_nil node rest) hl
            hdistinct hdrain) fun report => ?_
          refine Triple.of_pre (φ := (∃ n : Nat, report.incSize = n ∧ 1 ≤ n ∧
            n ≤ (node :: rest).length) ∧ ∀ n, report ≠ .panicked n) ?_ ?_
          · rintro m ⟨⟨n, hinc, hpos, hle, -⟩, hnot⟩
            exact ⟨⟨n, hinc, hpos, hle⟩, hnot⟩
          rintro ⟨⟨n, hinc, hpos, hle⟩, hnot⟩
          have hdrop := ih ((node :: rest).drop n)
            (done ++ ((node :: rest).take n).map instanceName)
            (by rw [List.length_drop]; omega) ?_
            (hdistinct.sublist ((List.drop_sublist n (node :: rest)).map instanceName))
          · rw [List.append_assoc, ← List.map_append, List.take_append_drop] at hdrop
            have hpre : ∀ m, (∃ k : Nat, report.incSize = k ∧ 1 ≤ k ∧ k ≤ (node :: rest).length ∧
                AtStage desired terms present work owner asgs
                  (Function.update base asg.name size)
                  (done ++ ((node :: rest).take k).map instanceName) m) ∧
                (∀ n, report ≠ .panicked n) →
                AtStage desired terms present work owner asgs (Function.update base asg.name size)
                  (done ++ ((node :: rest).take n).map instanceName) m := by
              rintro m ⟨⟨k, hk, -, -, hm⟩, -⟩
              have hkn : k = n := by omega
              exact hkn ▸ hm
            have hn : report.incSize.toNat = n := by omega
            rw [← hn] at hdrop hpre
            cases report with
            | panicked inc => exact absurd rfl (hnot inc)
            | deletedFirst increase => exact hdrop.conseq hpre fun _ _ hq => hq
            | increasedFirst inc increase => exact hdrop.conseq hpre fun _ _ hq => hq
          · -- the rest of the list is other machines than the batch
            intro x hx
            obtain ⟨hxns, htodo⟩ := hl x (List.mem_of_mem_drop hx)
            refine ⟨hxns, htodo.append fun hbatch => ?_⟩
            rw [← List.take_append_drop n (node :: rest), List.map_append,
              List.nodup_append] at hdistinct
            exact hdistinct.2.2 _ hbatch _ (List.mem_map_of_mem hx) rfl

/-- The loop of `RepairNodes` replaces the nodes of one group after the other. -/
theorem repairLoop (a : StaticAutorepair) (hdrain : ∀ node ∈ ns, Drainable h a node)
    (hparse : ∀ node ∈ ns, awsRefFromProviderId node.providerID = .ok ⟨instanceName node⟩)
    (hdistinct : (ns.map instanceName).Nodup)
    (hwork : ∀ node ∈ ns, ∀ asg ∈ asgs, ownedNode owner asg node = true →
      work (instanceName node))
    (hbounds : ∀ asg ∈ asgs, InBounds asg base) {fuel : Nat} (hfuel : ns.length + 1 ≤ fuel) :
    ∀ (todo : List Asg) (done : List String), (∀ asg ∈ todo, asg ∈ asgs) →
    (todo.map Asg.name).Nodup →
    (∀ asg ∈ todo, ∀ id ∈ done, owner id ≠ some asg.name) →
    Triple h (AtStage desired terms present work owner asgs base done)
      (fun e => ∃ asg ∈ asgs, Between desired base asg
        (max (base asg.name - 1) asg.minSize) asg.maxSize e)
      (a.repairLoop fuel ns todo)
      fun r m => AtStage desired terms present work owner asgs base
        (done ++ todo.flatMap (instancesIn owner ns)) m ∧ r.exit = .done := by
  intro todo
  induction todo with
  | nil =>
      intro done _ _ _
      exact Triple.pure _ fun m hm => ⟨by simpa using hm, rfl⟩
  | cons asg rest ih =>
      intro done hsub hnames hdone
      have hasg := hsub asg List.mem_cons_self
      obtain ⟨hmin, hmax⟩ := hbounds asg hasg
      rw [List.map_cons, List.nodup_cons] at hnames
      have hfresh : ∀ node, ownedNode owner asg node = true → instanceName node ∉ done := by
        intro node howned hmem
        exact hdone asg List.mem_cons_self _ hmem (by simpa [ownedNode] using howned)
      have hself : Function.update base asg.name (base asg.name) = base :=
        Function.update_eq_self asg.name base
      -- the group's nodes, as the lookups find them
      refine Triple.bind_val (R := AtStage desired terms present work owner asgs base done)
        (Q := fun r => r.1 = ns.filter (ownedNode owner asg)) ?_ fun r hr => ?_
      · refine Triple.bind_val ((nodesOfGroup S hasg ns hparse fun node hnode howned =>
          ⟨hwork node hnode asg hasg howned, hfresh node howned⟩).weaken_events
          fun e he => ⟨asg, hasg, base asg.name, by omega, hmax, by rw [hself]; exact he⟩) ?_
        rintro _ rfl
        exact Triple.pure _ fun m hm => ⟨hm, rfl⟩
      have hrepair := asgRepairNodes S base hasg a hmin hmax hdrain fuel r.1 done ?_
        ?_ ?_
      · rw [hself] at hrepair
        refine Triple.bind_val (hrepair.weaken_events fun e he => ⟨asg, hasg, he⟩) ?_
        rintro _ rfl
        have hrest := ih (done ++ r.1.map instanceName)
          (fun b hb => hsub b (List.mem_cons_of_mem _ hb)) hnames.2 ?_
        · refine Triple.bind hrest fun later => ?_
          refine Triple.pure _ fun m hm => ⟨?_, hm.2⟩
          have hm1 := hm.1
          rw [hr, List.append_assoc] at hm1
          exact hm1
        · -- what was just replaced belongs to this group only
          intro b hb id hid
          rcases List.mem_append.mp hid with hid | hid
          · exact hdone b (List.mem_cons_of_mem _ hb) id hid
          · rw [hr] at hid
            have howner := (mem_instancesIn.mp hid).2
            rw [howner]
            intro heq
            injection heq with hname
            exact hnames.1 (hname ▸ List.mem_map_of_mem hb)
      · have hlen : r.1.length ≤ ns.length := hr ▸ List.length_filter_le _ _
        omega
      · intro node hnode
        rw [hr, List.mem_filter] at hnode
        exact ⟨hnode.1, ⟨hparse node hnode.1, hwork node hnode.1 asg hasg hnode.2,
          hfresh node hnode.2, by simpa [ownedNode] using hnode.2⟩⟩
      · rw [hr]
        exact hdistinct.sublist (List.filter_sublist.map instanceName)

end AtStage

/-! ## The whole repair -/

/-- The instances a log asks to terminate, in order. -/
def terminations {W : Type} (log : List (ApiEvent W)) : List String :=
  log.filterMap fun e =>
    match e.call with
    | .terminateInstance id _ => some id
    | _ => none

section

variable {W : Type} {h : ApiService W} {desired : W → String → Int}
  {owner : String → Option String} {present : W → String → Prop} {asgs : List Asg}
  {ns : List Node}

theorem Calm.recorded (calm : Calm h desired owner present asgs ns) :
    Calm (Service.recorded h) (fun w => desired w.1) owner (fun w => present w.1) asgs ns where
  toAwsLaws := calm.toAwsLaws.recorded
  reports := fun w => calm.reports w.1
  stays := fun w => calm.stays w.1
  set_succeeds := fun w => calm.set_succeeds w.1
  terminate_succeeds := fun w => calm.terminate_succeeds w.1
  getNode_succeeds := fun w => calm.getNode_succeeds w.1
  updateNode_succeeds := fun w => calm.updateNode_succeeds w.1

theorem Drainable.recorded {a : StaticAutorepair} {node : Node} (hd : Drainable h a node) :
    Drainable (Service.recorded h) a node := by
  intro w w' t
  obtain ⟨pods, hmove, hdrain⟩ := hd w.1 w'.1 t
  refine ⟨pods, hmove, fun m => ?_⟩
  have hexec := exec_recorded h (drainNode node pods a.maxGracefulTerminationSec
    maxPodEvictionTime evictionRetryTime) ⟨m.store, m.world.1⟩ m.world.2
  exact (congrArg Outcome.val hexec).trans (hdrain _)

/-- The ghost history knows the terminations so far. -/
theorem counts_recorded (h : ApiService W) :
    Counts (Service.recorded h) (fun w => terminations w.2) where
  terminate := by
    intro w id dec
    simp [Service.recorded, terminations, Service.event]
  other := by
    intro w c hc
    cases c with
    | terminateInstance id dec => exact absurd rfl (hc id dec)
    | _ => simp [Service.recorded, terminations, Service.event]

/-- A size between the bounds of one group, seen by all the groups. -/
theorem Between.bounds {base : String → Int} {asg : Asg} {e : ApiEvent W}
    (hb : Between desired base asg (max (base asg.name - 1) asg.minSize) asg.maxSize e)
    {b : Asg} (hsame : b.name = asg.name → b = asg) (hbase : InBounds b base) :
    b.minSize ≤ desired e.after b.name ∧ desired e.after b.name ≤ b.maxSize ∧
      base b.name - 1 ≤ desired e.after b.name := by
  obtain ⟨size, hlo, hhi, hsize⟩ := hb
  obtain ⟨hmin, hmax⟩ := hbase
  rw [hsize]
  by_cases hname : b.name = asg.name
  · rw [hsame hname, Function.update_self]
    omega
  · rw [Function.update_of_ne hname]
    omega

/-- **Capacity conservation.** Every request succeeding and every node being
drainable, a repair ends, terminates each listed node of a registered group
exactly once and no other instance, leaves all desired capacities as they were,
and on the way keeps each group within its bounds and at most one below its
initial size. -/
theorem repairNodes_conserves (calm : Calm h desired owner present asgs ns)
    (a : StaticAutorepair) (hdrain : ∀ node ∈ ns, Drainable h a node)
    (hnames : (asgs.map Asg.name).Nodup)
    (hparse : ∀ node ∈ ns, ∃ ref, awsRefFromProviderId node.providerID = .ok ref)
    (hdistinct : (ns.map instanceName).Nodup) (m : Machine W)
    (hcache : CacheInv asgs (OwnedBy asgs owner)
      (fun ref => ∀ asg ∈ asgs, owner ref.name ≠ some asg.name) m.store)
    (hup : ∀ node ∈ ns, ∀ asg ∈ asgs, owner (instanceName node) = some asg.name →
      present m.world (instanceName node))
    (hbounds : ∀ asg ∈ asgs, InBounds asg (desired m.world))
    {fuel : Nat} (hfuel : ns.length + 1 ≤ fuel) :
    let out := (a.repairNodes fuel ns).exec h m
    out.val.exit = .done ∧
    (terminations out.log).Nodup ∧
    (∀ id, id ∈ terminations out.log ↔ ∃ node ∈ ns, ∃ asg ∈ asgs,
      awsRefFromProviderId node.providerID = .ok ⟨id⟩ ∧ owner id = some asg.name) ∧
    desired out.mach.world = desired m.world ∧
    ∀ e ∈ out.log, ∀ asg ∈ asgs, asg.minSize ≤ desired e.after asg.name ∧
      desired e.after asg.name ≤ asg.maxSize ∧
      desired m.world asg.name - 1 ≤ desired e.after asg.name := by
  intro out
  have hparse' : ∀ node ∈ ns,
      awsRefFromProviderId node.providerID = .ok ⟨instanceName node⟩ := by
    intro node hnode
    obtain ⟨ref, href⟩ := hparse node hnode
    simp [instanceName, href]
  have hsame : ∀ asg ∈ asgs, ∀ b ∈ asgs, b.name = asg.name → b = asg :=
    fun asg hasg b hb => List.inj_on_of_nodup_map hnames hb hasg
  -- the work: the listed instances of registered groups
  let work : String → Prop := fun id =>
    (∃ node ∈ ns, instanceName node = id) ∧ ∃ asg ∈ asgs, owner id = some asg.name
  have S : AtStage.Setting (Service.recorded h) (fun w => desired w.1) owner
      (fun w => present w.1) asgs ns (fun w => terminations w.2) work :=
    ⟨calm.recorded, counts_recorded h, hsame, fun id hid => hid.2⟩
  have hloop := AtStage.repairLoop S (desired m.world) a
    (fun node hnode => (hdrain node hnode).recorded) hparse' hdistinct
    (fun node hnode asg hasg howned =>
      ⟨⟨node, hnode, rfl⟩, asg, hasg, by simpa [ownedNode] using howned⟩)
    hbounds hfuel asgs [] (fun _ hasg => hasg) hnames (by simp)
  have hstart : AtStage (fun w => desired w.1) (fun w => terminations w.2)
      (fun w => present w.1) work owner asgs (desired m.world) []
      (⟨m.store, (m.world, [])⟩ : Machine (W × List (ApiEvent W))) := by
    refine ⟨hcache.mono ?_, rfl, rfl, ?_⟩
    · rintro ref hnone ⟨-, asg, hasg, howner⟩
      exact absurd howner (hnone asg hasg)
    · rintro id ⟨⟨node, hnode, rfl⟩, asg, hasg, howner⟩ -
      exact hup node hnode asg hasg howner
  have hrun : (a.repairNodes fuel ns).exec h m = (a.repairLoop fuel ns asgs).exec h m := by
    rw [← hcache.registered]
    rfl
  obtain ⟨⟨hend, hexit⟩, hlog⟩ := hloop.of_recorded m hstart
  rw [← hrun] at hend hexit hlog
  have hterms : terminations out.log = asgs.flatMap (instancesIn owner ns) :=
    hend.stage.terminated
  refine ⟨hexit, ?_, ?_, hend.stage.size, ?_⟩
  · rw [hterms]
    exact nodup_instancesIn hnames hdistinct
  · intro id
    simp only [hterms, List.mem_flatMap, mem_instancesIn]
    constructor
    · rintro ⟨asg, hasg, ⟨node, hnode, rfl⟩, howner⟩
      exact ⟨node, hnode, asg, hasg, hparse' node hnode, howner⟩
    · rintro ⟨node, hnode, asg, hasg, href, howner⟩
      rw [hparse' node hnode] at href
      simp only [Except.ok.injEq, AwsRef.mk.injEq] at href
      exact ⟨asg, hasg, ⟨node, hnode, href⟩, howner⟩
  · intro e he b hb
    obtain ⟨past, rest, hsplit⟩ := List.append_of_mem he
    obtain ⟨asg, hasg, hbetween⟩ := hlog past e rest hsplit
    exact hbetween.bounds (hsame asg hasg b hb) (hbounds b hb)

end

/-- Both groups of the sample cluster: one with room above, one of fixed size. -/
theorem repairNodes_conserves_sample :
    let out := (({} : StaticAutorepair).repairNodes 4 [node1, node5, node2]).exec
      Cluster.sample.service sampleMachine
    out.val.exit = .done ∧ (terminations out.log).Nodup ∧
    (∀ id, id ∈ terminations out.log ↔ ∃ node ∈ [node1, node5, node2],
      ∃ asg ∈ [groupG, groupK], awsRefFromProviderId node.providerID = .ok ⟨id⟩ ∧
        Cluster.sample.owner id = some asg.name) ∧
    out.mach.world.desired = sampleMachine.world.desired ∧
    ∀ e ∈ out.log, ∀ asg ∈ [groupG, groupK], asg.minSize ≤ e.after.desired asg.name ∧
      e.after.desired asg.name ≤ asg.maxSize ∧
      sampleMachine.world.desired asg.name - 1 ≤ e.after.desired asg.name :=
  repairNodes_conserves
    (Cluster.sample.calm [groupG, groupK] (by decide)) {}
    (fun node _ => Cluster.sample.drainable rfl {} (by decide) node) (by decide)
    (fun node hnode => ⟨⟨instanceName node⟩, by revert node; decide⟩)
    (by decide) sampleMachine (freshStore_cacheInv _ _ _)
    (fun _ _ _ _ _ => List.not_mem_nil)
    (fun asg hasg => by revert asg; unfold InBounds; decide) (by decide)

end AutoNodeRepair
