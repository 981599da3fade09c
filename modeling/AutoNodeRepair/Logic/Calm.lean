import AutoNodeRepair.Interact.History
import AutoNodeRepair.Logic.Capacity

/-!
# Repairing when everything succeeds

Total specifications of the group operations and of the repair loops for an
outside in which every request is granted (`Calm`) and every node can be
drained (`Drainable`). The state of such a run is a *stage*: the table of
desired capacities, the instances terminated so far, and the promise that the
instances still to be replaced are there.

* `AtStage.nodesOfGroup` — the lookups sort the nodes by their true group;
* `AtStage.grow`, `AtStage.remove` — what the two operations do to a stage;
* `AtStage.repairBatch` — a batch leaves the group at its old size.
-/

namespace AutoNodeRepair

open Interact

/-! ## The assumptions -/

/-- Every request of a repair of `ns` succeeds. `present` tells the instances
that are up: they are reported with their group until they are terminated. -/
structure Calm {W : Type} (h : ApiService W) (desired : W → String → Int)
    (owner : String → Option String) (present : W → String → Prop) (asgs : List Asg)
    (ns : List Node) : Prop extends AwsLaws h desired owner where
  reports : ∀ w, ∀ asg ∈ asgs, ∃ g rest,
    (h w (.describeAutoScalingGroups asg.name)).1 = .ok (g :: rest) ∧
      ∀ id, owner id = some asg.name → present w id →
        ∃ inst ∈ g.instances, inst.instanceId = id
  stays : ∀ w c id, (∀ dec, c ≠ ApiCall.terminateInstance id dec) →
    present w id → present (h w c).2 id
  set_succeeds : ∀ w, ∀ asg ∈ asgs, ∀ size, asg.minSize ≤ size → size ≤ asg.maxSize →
    (h w (.setDesiredCapacity asg.name size)).1 = .ok ()
  terminate_succeeds : ∀ w id dec, present w id → (h w (.terminateInstance id dec)).1 = .ok ()
  getNode_succeeds : ∀ w, ∀ node ∈ ns, ∃ fresh, (h w (.getNode node.name)).1 = .ok (some fresh)
  updateNode_succeeds : ∀ w node, (h w (.updateNode node)).1 = .ok ()

/-- The node's pods may be moved, and draining it of them succeeds. -/
def Drainable {W : Type} (h : ApiService W) (a : StaticAutorepair) (node : Node) : Prop :=
  ∀ w w' t, ∃ pods,
    movablePods (h w .listPodDisruptionBudgets).1.1 t
      ((h w' .listScheduledPods).1.1.filter
        fun pod => pod.nodeName == node.name) = .ok pods ∧
    ∀ m : Machine W, ((drainNode node pods a.maxGracefulTerminationSec maxPodEvictionTime
      evictionRetryTime).exec h m).val = .ok ()

/-- The same at the times the clock shows. -/
def DrainableNow {W : Type} (h : ApiService W) (a : StaticAutorepair) (node : Node) : Prop :=
  ∀ w w' v, ∃ pods,
    movablePods (h w .listPodDisruptionBudgets).1.1 (h v .now).1
      ((h w' .listScheduledPods).1.1.filter
        fun pod => pod.nodeName == node.name) = .ok pods ∧
    ∀ m : Machine W, ((drainNode node pods a.maxGracefulTerminationSec maxPodEvictionTime
      evictionRetryTime).exec h m).val = .ok ()

theorem Drainable.atNow {W : Type} {h : ApiService W} {a : StaticAutorepair} {node : Node}
    (hd : Drainable h a node) : DrainableNow h a node :=
  fun w w' _ => hd w w' _

/-- The node's machine belongs to the group. -/
def ownedNode (owner : String → Option String) (asg : Asg) (node : Node) : Bool :=
  owner (instanceName node) == some asg.name

/-- `terms` lists the termination requests so far. -/
structure Counts {W : Type} (h : ApiService W) (terms : W → List String) : Prop where
  terminate : ∀ w id dec, terms (h w (.terminateInstance id dec)).2 = terms w ++ [id]
  other : ∀ w c, (∀ id dec, c ≠ ApiCall.terminateInstance id dec) → terms (h w c).2 = terms w

/-! ## Stages -/

section

variable {W : Type} (desired : W → String → Int) (terms : W → List String)
  (present : W → String → Prop) (work : String → Prop)

/-- The capacities are `table`, `done` was terminated, the rest of the work is up. -/
structure Stage (table : String → Int) (done : List String) (w : W) : Prop where
  size : desired w = table
  terminated : terms w = done
  rest : ∀ id, work id → id ∉ done → present w id

variable (owner : String → Option String) (asgs : List Asg)

/-- A stage with a justified cache: work is filed as unmanaged only when done. -/
structure AtStage (table : String → Int) (done : List String) (m : Machine W) : Prop where
  cache : CacheInv asgs (OwnedBy asgs owner) (fun ref => work ref.name → ref.name ∈ done) m.store
  stage : Stage desired terms present work table done m.world

end

/-- A node of `asg` that is still to be replaced. -/
structure Todo (owner : String → Option String) (work : String → Prop) (asg : Asg)
    (done : List String) (node : Node) : Prop where
  parses : awsRefFromProviderId node.providerID = .ok ⟨instanceName node⟩
  inWork : work (instanceName node)
  notDone : instanceName node ∉ done
  owned : owner (instanceName node) = some asg.name

/-- Other machines being replaced in the meantime. -/
theorem Todo.append {owner : String → Option String} {work : String → Prop} {asg : Asg}
    {done ids : List String} {node : Node} (htodo : Todo owner work asg done node)
    (hother : instanceName node ∉ ids) : Todo owner work asg (done ++ ids) node := by
  refine { htodo with notDone := ?_ }
  rw [List.mem_append, not_or]
  exact ⟨htodo.notDone, hother⟩

/-- The size of the group after an exchange, the other capacities being `base`. -/
def Between {W : Type} (desired : W → String → Int) (base : String → Int) (asg : Asg)
    (lo hi : Int) (e : ApiEvent W) : Prop :=
  ∃ size, lo ≤ size ∧ size ≤ hi ∧ desired e.after = Function.update base asg.name size

theorem Between.widen {W : Type} {desired : W → String → Int} {base : String → Int} {asg : Asg}
    {lo hi lo' hi' : Int} {e : ApiEvent W} (hlo : lo' ≤ lo) (hhi : hi ≤ hi')
    (hb : Between desired base asg lo hi e) : Between desired base asg lo' hi' e := by
  obtain ⟨size, hlo1, hhi1, hsize⟩ := hb
  exact ⟨size, by omega, by omega, hsize⟩

section Specs

variable {W : Type} {h : ApiService W} {desired : W → String → Int}
  {owner : String → Option String} {present : W → String → Prop} {asgs : List Asg}
  {ns : List Node} {terms : W → List String} {work : String → Prop}
  {table : String → Int} {done : List String}

theorem Stage.frame (calm : Calm h desired owner present asgs ns) (counts : Counts h terms)
    {w : W} (hw : Stage desired terms present work table done w) (c : ApiCall)
    (hc : c.resizes = false) : Stage desired terms present work table done (h w c).2 where
  size := by rw [calm.other w c hc, hw.size]
  terminated := by
    rw [counts.other w c (by rintro id dec rfl; simp [ApiCall.resizes] at hc), hw.terminated]
  rest := by
    intro id hid hdone
    exact calm.stays w c id (by rintro dec rfl; simp [ApiCall.resizes] at hc)
      (hw.rest id hid hdone)

theorem Stage.lookupClosed (work : String → Prop) (calm : Calm h desired owner present asgs ns)
    (counts : Counts h terms) :
    LookupClosed h (Stage desired terms present work table done) := by
  intro w hw c hc
  exact hw.frame calm counts c (ApiCall.resizes_of_quiet (ApiCall.quiet_of_looksUp hc))

theorem Stage.size_of_reports (calm : Calm h desired owner present asgs ns) {name : String}
    {g : Group} (hg : Reports h (Stage desired terms present work table done) name g) :
    g.desiredCapacity = table name := by
  obtain ⟨w, rest, hw, hans⟩ := hg
  rw [(calm.describe w name g rest hans).1, hw.size]

theorem Stage.ownedBy_of_listed (calm : Calm h desired owner present asgs ns) (ref : AwsRef)
    (asg : Asg)
    (hlisted : ListedUnder h (Stage desired terms present work table done) asgs ref asg) :
    OwnedBy asgs owner ref asg := by
  obtain ⟨hmem, g, ⟨w, rest, -, hans⟩, inst, hinst, hid⟩ := hlisted
  exact ⟨hmem, hid ▸ (calm.describe w _ g rest hans).2 inst hinst⟩

/-- Work that no group lists has been done. -/
theorem Stage.done_of_nowhere (calm : Calm h desired owner present asgs ns)
    (hwork : ∀ id, work id → ∃ asg ∈ asgs, owner id = some asg.name) (ref : AwsRef)
    (hnowhere : NowhereListed h (Stage desired terms present work table done) asgs ref)
    (href : work ref.name) : ref.name ∈ done := by
  by_contra hdone
  obtain ⟨asg, hasg, howner⟩ := hwork _ href
  obtain ⟨g, ⟨w, rest, hw, hans⟩, hmiss⟩ := hnowhere asg hasg
  obtain ⟨g', rest', hans', hlists⟩ := calm.reports w asg hasg
  rw [hans, Except.ok.injEq, List.cons.injEq] at hans'
  obtain ⟨inst, hinst, hid⟩ := hlists ref.name howner (hw.rest _ href hdone)
  exact hmiss inst (hans'.1 ▸ hinst) hid

theorem Stage.report_succeeds (calm : Calm h desired owner present asgs ns) {asg : Asg}
    (hasg : asg ∈ asgs) :
    ¬ ReportFails h (Stage desired terms present work table done) asg.name := by
  rintro ⟨w, -, hfails⟩
  obtain ⟨g, rest, hans, -⟩ := calm.reports w asg hasg
  exact hfails g rest hans

namespace AtStage

/-- What is shared by all the specifications below. -/
structure Setting (h : ApiService W) (desired : W → String → Int)
    (owner : String → Option String) (present : W → String → Prop) (asgs : List Asg)
    (ns : List Node) (terms : W → List String) (work : String → Prop) : Prop where
  calm : Calm h desired owner present asgs ns
  counts : Counts h terms
  names : ∀ asg ∈ asgs, ∀ b ∈ asgs, b.name = asg.name → b = asg
  work : ∀ id, work id → ∃ asg ∈ asgs, owner id = some asg.name

variable (S : Setting h desired owner present asgs ns terms work)
include S

theorem Setting.group_eq {asg b : Asg} (hasg : asg ∈ asgs) {ref : AwsRef}
    (hb : OwnedBy asgs owner ref b) (howner : owner ref.name = some asg.name) : b = asg := by
  have hname : b.name = asg.name := by simpa using hb.2.symm.trans howner
  exact S.names asg hasg b hb.1 hname

/-- The lookup under a stage. -/
theorem find (ref : AwsRef) :
    Triple h (AtStage desired terms present work owner asgs table done)
      (fun e => desired e.after = table) (findForInstance ref)
      fun r m => AtStage desired terms present work owner asgs table done m ∧
        ∃ found, r = .ok found ∧ (∀ asg, found = some asg → OwnedBy asgs owner ref asg) ∧
          (found = none → work ref.name → ref.name ∈ done) := by
  refine Triple.weaken_events (Triple.conseq (findForInstance_spec
    (Stage.lookupClosed work S.calm S.counts) (Stage.ownedBy_of_listed S.calm)
    (Stage.done_of_nowhere S.calm S.work) ref) (fun m hm => ⟨hm.cache, hm.stage⟩) ?_) ?_
  · rintro r m ⟨⟨hcache, hstage⟩, hsome, hnone, herror⟩
    refine ⟨⟨hcache, hstage⟩, ?_⟩
    cases r with
    | error err =>
        obtain ⟨asg, hasg, hfails⟩ := herror err rfl
        exact absurd hfails (Stage.report_succeeds S.calm hasg)
    | ok found =>
        exact ⟨found, rfl, fun asg hasg => hsome asg (by rw [hasg]),
          fun hfound => hnone (by rw [hfound])⟩
  · rintro e ⟨w, c, hw, hc, rfl⟩
    exact (Stage.lookupClosed work S.calm S.counts w hw c hc).size

/-- Neither looking nor draining moves to another stage. -/
theorem drains (table : String → Int) (done : List String) (nodes : Node → Prop) :
    Drains h (AtStage desired terms present work owner asgs table done)
      (fun e => desired e.after = table) nodes := by
  have hask : ∀ c : ApiCall, c.resizes = false → ∀ m,
      AtStage desired terms present work owner asgs table done m →
      AtStage desired terms present work owner asgs table done
        { m with world := (h m.world c).2 } ∧ desired (h m.world c).2 = table := by
    intro c hc m hm
    have hstage := hm.stage.frame S.calm S.counts c hc
    exact ⟨⟨hm.cache, hstage⟩, hstage.size⟩
  refine Looks.drains ⟨?_, ?_⟩ (fun node _ => Keeps.call (hask (.getNode node.name) rfl))
    (fun n => Keeps.call (hask (.updateNode n) rfl))
    (fun pod => Keeps.call (hask (.evict pod) rfl))
  · intro c hc m hm
    exact hask c (ApiCall.resizes_of_quiet hc) m hm
  · intro ref
    exact (find S ref).conseq (fun _ hm => hm) fun _ _ hq => hq.1

/-- The lookup finds the owner of a machine that is still up. -/
theorem find_group {asg : Asg} (hasg : asg ∈ asgs) {ref : AwsRef}
    (hup : owner ref.name = some asg.name → work ref.name ∧ ref.name ∉ done) :
    Triple h (AtStage desired terms present work owner asgs table done)
      (fun e => desired e.after = table) (findForInstance ref)
      fun r m => AtStage desired terms present work owner asgs table done m ∧
        ∃ found, r = .ok found ∧ (found = some asg ↔ owner ref.name = some asg.name) := by
  refine (find S ref).conseq (fun _ hm => hm) ?_
  rintro r m ⟨hm, found, hr, hsome, hnone⟩
  refine ⟨hm, found, hr, fun hfound => (hsome asg hfound).2, ?_⟩
  intro howner
  obtain ⟨hwork, hdone⟩ := hup howner
  cases hfound : found with
  | none => exact absurd (hnone hfound hwork) hdone
  | some b => rw [S.group_eq hasg (hsome b hfound) howner]

/-- `NodeGroupForNode` finds the owner of a node that is still up. -/
theorem nodeGroupForNode {asg : Asg} (hasg : asg ∈ asgs) {node : Node}
    (hparse : awsRefFromProviderId node.providerID = .ok ⟨instanceName node⟩)
    (hup : ownedNode owner asg node = true → work (instanceName node) ∧ instanceName node ∉ done) :
    Triple h (AtStage desired terms present work owner asgs table done)
      (fun e => desired e.after = table) (nodeGroupForNode node)
      fun r m => AtStage desired terms present work owner asgs table done m ∧
        ∃ found, r = .ok found ∧ (found = some asg ↔ ownedNode owner asg node = true) := by
  unfold AutoNodeRepair.nodeGroupForNode
  rw [hparse]
  have howned : ownedNode owner asg node = true ↔ owner (instanceName node) = some asg.name := by
    simp [ownedNode]
  rw [howned] at hup ⊢
  exact find_group S hasg hup

/-- The lookups sort the nodes by their true group. -/
theorem nodesOfGroup {asg : Asg} (hasg : asg ∈ asgs) :
    ∀ l : List Node,
    (∀ node ∈ l, awsRefFromProviderId node.providerID = .ok ⟨instanceName node⟩) →
    (∀ node ∈ l, ownedNode owner asg node = true →
      work (instanceName node) ∧ instanceName node ∉ done) →
    Triple h (AtStage desired terms present work owner asgs table done)
      (fun e => desired e.after = table) (nodesOfGroup asg l)
      fun r m => AtStage desired terms present work owner asgs table done m ∧
        r = .ok (l.filter (ownedNode owner asg)) := by
  intro l
  induction l with
  | nil => intro _ _; exact Triple.pure _ fun m hm => ⟨hm, rfl⟩
  | cons node rest ih =>
      intro hparse hup
      have hrest := ih (fun n hn => hparse n (List.mem_cons_of_mem _ hn))
        (fun n hn => hup n (List.mem_cons_of_mem _ hn))
      refine Triple.bind_val (nodeGroupForNode S hasg (hparse node List.mem_cons_self)
        (hup node List.mem_cons_self)) ?_
      rintro _ ⟨found, rfl, hfound⟩
      refine Triple.bind_val hrest ?_
      rintro _ rfl
      refine Triple.pure _ fun m hm => ⟨hm, ?_⟩
      rw [List.filter_cons]
      by_cases howned : ownedNode owner asg node = true
      · rw [if_pos (hfound.mpr howned), if_pos howned]
      · rw [if_neg (fun heq => howned (hfound.mp heq)), if_neg howned]

/-- `GetAsgSize` reads the size off the stage. -/
theorem getAsgSize {asg : Asg} (hasg : asg ∈ asgs) :
    Triple h (AtStage desired terms present work owner asgs table done)
      (fun e => desired e.after = table) (getAsgSize asg)
      fun r m => AtStage desired terms present work owner asgs table done m ∧
        r = (table asg.name, none) := by
  refine Triple.weaken_events (Triple.conseq (getAsgSize_spec
    (Stage.lookupClosed work S.calm S.counts) asg)
    (fun m hm => ⟨hm.cache, hm.stage⟩) ?_) ?_
  · rintro ⟨size, err⟩ m ⟨⟨hcache, hstage⟩, ⟨-, hfails, -⟩ | ⟨herr, g, hg, hsize⟩⟩
    · exact absurd hfails (Stage.report_succeeds S.calm hasg)
    · rw [Stage.size_of_reports S.calm hg] at hsize
      exact ⟨⟨hcache, hstage⟩, by simp_all⟩
  · rintro e ⟨w, c, hw, hc, rfl⟩
    exact (Stage.lookupClosed work S.calm S.counts w hw c hc).size

/-! ### Growing -/

variable {base : String → Int} {asg : Asg} {size : Int}

/-- An increase that fits is granted. -/
theorem grow (hasg : asg ∈ asgs) {inc : Int} (hinc : 0 < inc) (hmin : asg.minSize ≤ size)
    (hmax : size + inc ≤ asg.maxSize) :
    Triple h (AtStage desired terms present work owner asgs
        (Function.update base asg.name size) done)
      (Between desired base asg size (size + inc)) (asg.increaseSize inc)
      fun r m => AtStage desired terms present work owner asgs
        (Function.update base asg.name (size + inc)) done m ∧ r = .ok () := by
  have hgranted : ∀ w, Stage desired terms present work
      (Function.update base asg.name size) done w →
      Stage desired terms present work (Function.update base asg.name (size + inc)) done
        (h w (.setDesiredCapacity asg.name (size + inc))).2 := by
    intro w hw
    have hok := S.calm.set_succeeds w asg hasg (size + inc) (by omega) hmax
    refine ⟨?_, ?_, ?_⟩
    · rw [S.calm.set_ok w _ _ hok, hw.size, Function.update_idem]
    · rw [S.counts.other w _ (by simp), hw.terminated]
    · exact fun id hid hdone => S.calm.stays w _ id (by simp) (hw.rest id hid hdone)
  have hread : ∀ g, Reports h (Stage desired terms present work
      (Function.update base asg.name size) done) asg.name g → g.desiredCapacity = size := by
    intro g hg
    rw [Stage.size_of_reports S.calm hg, Function.update_self]
  refine Triple.weaken_events (Triple.conseq (Asg.increaseSize_spec
    (Stage.lookupClosed work S.calm S.counts) asg inc)
    (fun m hm => ⟨hm.cache, hm.stage⟩) ?_) ?_
  · rintro r m ⟨hcache, ⟨-, -, hwhy⟩ | ⟨w, size', hr, hworld, hans⟩⟩
    · obtain hle | hfails | ⟨g, hg, hlarge⟩ := hwhy
      · omega
      · exact absurd hfails (Stage.report_succeeds S.calm hasg)
      · have := hread g hg
        omega
    · obtain ⟨g, hg, rfl⟩ := hr.reported
      rw [hread g hg] at hworld hans
      refine ⟨⟨hcache, hworld ▸ hgranted w hr.world⟩, ?_⟩
      rw [hans]
      exact S.calm.set_succeeds w asg hasg (size + inc) (by omega) hmax
  · rintro e (⟨w, c, hw, hc, rfl⟩ | ⟨w, size', hr, rfl⟩)
    · exact ⟨size, by omega, by omega, (Stage.lookupClosed work S.calm S.counts w hw c hc).size⟩
    · obtain ⟨g, hg, rfl⟩ := hr.reported
      rw [hread g hg]
      exact ⟨size + inc, by omega, by omega, (hgranted w hr.world).size⟩

/-- An increase beyond the maximum is refused. -/
theorem grow_refused {inc : Int} (hmax : asg.maxSize < size + inc) :
    Triple h (AtStage desired terms present work owner asgs
        (Function.update base asg.name size) done)
      (Between desired base asg size size) (asg.increaseSize inc)
      fun r m => AtStage desired terms present work owner asgs
        (Function.update base asg.name size) done m ∧ ∃ err, r = .error err := by
  have hnot : ∀ w size', ¬ Resize h (Stage desired terms present work
      (Function.update base asg.name size) done) asg inc w size' := by
    intro w size' hr
    obtain ⟨g, hg, rfl⟩ := hr.reported
    have hfits := hr.fits
    rw [Stage.size_of_reports S.calm hg, Function.update_self] at hfits
    omega
  refine Triple.weaken_events (Triple.conseq (Asg.increaseSize_spec
    (Stage.lookupClosed work S.calm S.counts) asg inc)
    (fun m hm => ⟨hm.cache, hm.stage⟩) ?_) ?_
  · rintro r m ⟨hcache, ⟨hstage, herr, -⟩ | ⟨w, size', hr, -⟩⟩
    · exact ⟨⟨hcache, hstage⟩, herr⟩
    · exact absurd hr (hnot w size')
  · rintro e (⟨w, c, hw, hc, rfl⟩ | ⟨w, size', hr, -⟩)
    · exact ⟨size, by omega, by omega, (Stage.lookupClosed work S.calm S.counts w hw c hc).size⟩
    · exact absurd hr (hnot w size')

/-! ### Shrinking -/

/-- The termination of a machine still to be replaced. -/
theorem termination {node : Node} (htodo : Todo owner work asg done node)
    (hmin : asg.minSize ≤ size) {w : W} {ref : AwsRef} {dec : Bool}
    (ht : Termination h (Stage desired terms present work (Function.update base asg.name size) done)
      (OwnedBy asgs owner) asg node w ref dec) :
    Stage desired terms present work
        (Function.update base asg.name (max (size - 1) asg.minSize))
        (done ++ [instanceName node]) (h w (.terminateInstance ref.name dec)).2 ∧
      (h w (.terminateInstance ref.name dec)).1 = .ok () := by
  have href : ref = ⟨instanceName node⟩ := by
    have := ht.parsed.symm.trans htodo.parses
    simpa using this
  subst href
  obtain ⟨g, hg, hdec⟩ := ht.flag
  rw [Stage.size_of_reports S.calm hg, Function.update_self] at hdec
  have hok := S.calm.terminate_succeeds w (instanceName node) dec
    (ht.world.rest _ htodo.inWork htodo.notDone)
  refine ⟨⟨?_, ?_, ?_⟩, hok⟩
  · -- the flag was set by the size: at the minimum the size stays
    rw [S.calm.terminate_ok w _ _ _ htodo.owned hok, ht.world.size, hdec]
    by_cases hle : size ≤ asg.minSize
    · have hmaxeq : max (size - 1) asg.minSize = size := by omega
      simp [hle, hmaxeq]
    · have hmaxeq : max (size - 1) asg.minSize = size - 1 := by omega
      simp [hle, hmaxeq]
  · rw [S.counts.terminate, ht.world.terminated]
  · intro id hid hdone
    rw [List.mem_append, not_or, List.mem_singleton] at hdone
    exact S.calm.stays w _ id (by rintro dec' heq; injection heq; simp_all)
      (ht.world.rest id hid hdone.1)

/-- None of the reasons to give up applies to it. -/
theorem not_refused (hasg : asg ∈ asgs) {node : Node} (htodo : Todo owner work asg done node) :
    ¬ Refusal h (Stage desired terms present work table done) asgs (OwnedBy asgs owner)
      (fun ref => work ref.name → ref.name ∈ done) asg node := by
  have howned : ∀ ref b, awsRefFromProviderId node.providerID = .ok ref →
      OwnedBy asgs owner ref b → b = asg := by
    intro ref b hparse hfiled
    rw [htodo.parses, Except.ok.injEq] at hparse
    subst hparse
    exact S.group_eq hasg hfiled htodo.owned
  intro hwhy
  cases hwhy with
  | noSize hfails => exact Stage.report_succeeds S.calm hasg hfails
  | noReport b hb hfails => exact Stage.report_succeeds S.calm hb hfails
  | malformed err hparse => simp [htodo.parses] at hparse
  | unfiled ref hparse hmiss =>
      rw [htodo.parses, Except.ok.injEq] at hparse
      subst hparse
      exact htodo.notDone (hmiss htodo.inWork)
  | otherGroup ref hparse b hfiled hname => exact hname (by rw [howned ref b hparse hfiled])
  | ambiguous ref hparse b b' hfiled hfiled' hne =>
      exact hne ((howned ref b hparse hfiled).trans (howned ref b' hparse hfiled').symm)

/-- A node still to be replaced is terminated; at the minimum its group keeps
its size. -/
theorem remove (hasg : asg ∈ asgs) {node : Node} (htodo : Todo owner work asg done node)
    (hmin : asg.minSize ≤ size) :
    Triple h (AtStage desired terms present work owner asgs
        (Function.update base asg.name size) done)
      (Between desired base asg (max (size - 1) asg.minSize) size) (asg.deleteNodes [node])
      fun r m => AtStage desired terms present work owner asgs
        (Function.update base asg.name (max (size - 1) asg.minSize))
        (done ++ [instanceName node]) m ∧ r = .ok () := by
  refine Triple.weaken_events (Triple.conseq (Asg.deleteNodes_single
    (Stage.lookupClosed work S.calm S.counts) (Stage.ownedBy_of_listed S.calm)
    (Stage.done_of_nowhere S.calm S.work) asg node) (fun m hm => ⟨hm.cache, hm.stage⟩) ?_) ?_
  · rintro r m ⟨hcache, ⟨-, -, hwhy⟩ | ⟨w, ref, dec, ht, hworld, hans⟩⟩
    · exact absurd hwhy (not_refused S hasg htodo)
    · obtain ⟨hstage, hok⟩ := termination S htodo hmin ht
      refine ⟨⟨hcache.mono ?_, hworld ▸ hstage⟩, hans.trans hok⟩
      exact fun ref hneg hwork => List.mem_append_left _ (hneg hwork)
  · rintro e (⟨w, c, hw, hc, rfl⟩ | ⟨w, ref, dec, ht, rfl⟩)
    · exact ⟨size, by omega, by omega, (Stage.lookupClosed work S.calm S.counts w hw c hc).size⟩
    · exact ⟨_, Int.le_refl _, by omega, (termination S htodo hmin ht).1.size⟩

/-- Tainting succeeds. -/
theorem mark {node : Node} (hnode : node ∈ ns) :
    Triple h (AtStage desired terms present work owner asgs table done)
      (fun e => desired e.after = table) (markToBeDeleted node)
      fun r m => AtStage desired terms present work owner asgs table done m ∧ r = .ok () := by
  refine Keeps.with_val ((drains S _ _ fun _ => True).mark node trivial) fun m _ => ?_
  obtain ⟨fresh, hfresh⟩ := S.calm.getNode_succeeds m.world node hnode
  have hget : ((AutoNodeRepair.getNode node.name).exec h m).val = .ok (some fresh) := hfresh
  have hupdate : ∀ (n : Node) (m' : Machine W),
      ((AutoNodeRepair.updateNode n).exec h m').val = .ok () :=
    fun n m' => S.calm.updateNode_succeeds m'.world n
  simp only [markToBeDeleted, exec_bind, Outcome.after_val, hget, addToBeDeletedTaint]
  split
  · rfl
  · simp [hupdate]

/-- `deleteNode` replaces a node that can be drained. -/
theorem deleteNode (hasg : asg ∈ asgs) {node : Node} (hnode : node ∈ ns)
    (htodo : Todo owner work asg done node) (hmin : asg.minSize ≤ size) {maxGrace : Int}
    {pods : List Pod} (hpods : ∀ pod ∈ pods, pod.nodeName = node.name)
    (hdrain : ∀ m : Machine W, ((drainNode node pods maxGrace maxPodEvictionTime
      evictionRetryTime).exec h m).val = .ok ()) :
    Triple h (AtStage desired terms present work owner asgs
        (Function.update base asg.name size) done)
      (Between desired base asg (max (size - 1) asg.minSize) size)
      (deleteNode maxGrace node pods)
      fun r m => AtStage desired terms present work owner asgs
        (Function.update base asg.name (max (size - 1) asg.minSize))
        (done ++ [instanceName node]) m ∧ r = .ok () := by
  have hbefore : ∀ e : ApiEvent W, desired e.after = Function.update base asg.name size →
      Between desired base asg (max (size - 1) asg.minSize) size e :=
    fun e he => ⟨size, by omega, by omega, he⟩
  have hafter : ∀ e : ApiEvent W,
      desired e.after = Function.update base asg.name (max (size - 1) asg.minSize) →
      Between desired base asg (max (size - 1) asg.minSize) size e :=
    fun e he => ⟨_, Int.le_refl _, by omega, he⟩
  refine Triple.bind_val ((mark S hnode).weaken_events hbefore) ?_
  rintro _ rfl
  refine Triple.bind_val (R := AtStage desired terms present work owner asgs
      (Function.update base asg.name (max (size - 1) asg.minSize))
      (done ++ [instanceName node])) (Q := fun r => r = .ok ()) ?_ ?_
  · -- drain, then delete from the cloud provider
    have hdrained := (drains S (Function.update base asg.name size) done fun _ => True).drainNode
      node (fun pod hpod => ⟨node, trivial, hpods pod hpod⟩) maxGrace maxPodEvictionTime
      evictionRetryTime
    refine Triple.bind_val ((hdrained.with_val (Q := fun r => r = .ok ())
      fun m _ => hdrain m).weaken_events hbefore) ?_
    rintro _ rfl
    refine Triple.bind_val ((nodeGroupForNode S hasg htodo.parses
      fun _ => ⟨htodo.inWork, htodo.notDone⟩).weaken_events hbefore) ?_
    rintro _ ⟨found, rfl, hfound⟩
    rw [hfound.mpr (by simp [ownedNode, htodo.owned])]
    refine Triple.bind_val (remove S hasg htodo hmin) ?_
    rintro _ rfl
    have hask : ∀ c : ApiCall, c.quiet = true → Keeps h
        (AtStage desired terms present work owner asgs
          (Function.update base asg.name (max (size - 1) asg.minSize))
          (done ++ [instanceName node]))
        (Between desired base asg (max (size - 1) asg.minSize) size)
        (Prog.call (E := Api) c : Ctl (ApiCall.Ans c)) :=
      fun c hc => ((drains S _ _ fun _ => True).ask c hc).weaken_events hafter
    refine Triple.bind (hask _ rfl) fun t => ?_
    refine Triple.bind (hask _ rfl) fun t' => ?_
    exact Triple.bind (hask _ rfl) fun _ => Triple.pure _ fun m hm => ⟨hm, rfl⟩
  · rintro _ rfl
    exact Triple.pure _ fun m hm => ⟨hm, rfl⟩

/-- Asking for the pods to be moved is one look at the clock. -/
theorem podsToMove (nodePods : List Pod) (skipSystem skipLocal : Bool) (minReplicaCount : Int)
    (pdbs : List PodDisruptionBudget) :
    Triple h (AtStage desired terms present work owner asgs base done)
      (fun e => desired e.after = base)
      (detailedGetPodsForMove nodePods skipSystem skipLocal minReplicaCount pdbs)
      fun r m => AtStage desired terms present work owner asgs base done m ∧
        ∃ w, r = movablePods pdbs (h w .now).1 nodePods := by
  rw [detailedGetPodsForMove_eq]
  refine Triple.bind_val (((drains S base done fun _ => True).ask .now rfl).with_val
    (Q := fun t => ∃ w, t = (h w .now).1) fun m _ => ⟨m.world, rfl⟩) ?_
  rintro _ ⟨w, rfl⟩
  exact Triple.pure _ fun m hm => ⟨hm, w, rfl⟩

/-- The batch loop replaces every node, and gives back a machine per node down
to the minimum. -/
theorem deleteLoop (hasg : asg ∈ asgs) (a : StaticAutorepair) {pdbs : List PodDisruptionBudget}
    {infos : String → Option (List Pod)}
    (hinfos : ∀ name nodePods, infos name = some nodePods →
      ∀ pod ∈ nodePods, pod.nodeName = name) :
    ∀ (l : List Node) (done : List String) (size : Int), asg.minSize ≤ size →
    (∀ node ∈ l, node ∈ ns ∧ Todo owner work asg done node) →
    (l.map instanceName).Nodup →
    (∀ node ∈ l, ∃ nodePods, infos node.name = some nodePods ∧ ∀ w, ∃ pods,
      movablePods pdbs (h w .now).1 nodePods = .ok pods ∧ ∀ m : Machine W,
        ((drainNode node pods a.maxGracefulTerminationSec maxPodEvictionTime
          evictionRetryTime).exec h m).val = .ok ()) →
    Triple h (AtStage desired terms present work owner asgs
        (Function.update base asg.name size) done)
      (Between desired base asg (max (size - l.length) asg.minSize) size)
      (a.deleteLoop pdbs infos l)
      fun r m => AtStage desired terms present work owner asgs
        (Function.update base asg.name (max (size - l.length) asg.minSize))
        (done ++ l.map instanceName) m ∧ r = true := by
  -- on the nodes left; each takes one off the size until the minimum is reached
  intro l
  induction l with
  | nil =>
      intro done size hmin _ _ _
      have hsize : max (size - ([] : List Node).length) asg.minSize = size := by simp; omega
      refine Triple.pure _ fun m hm => ⟨?_, rfl⟩
      rw [hsize, List.map_nil, List.append_nil]
      exact hm
  | cons node rest ih =>
      intro done size hmin hl hdistinct hmovable
      obtain ⟨hnode, htodo⟩ := hl node List.mem_cons_self
      obtain ⟨nodePods, hinfo, hpods⟩ := hmovable node List.mem_cons_self
      rw [List.map_cons, List.nodup_cons] at hdistinct
      have hlen : ((node :: rest).length : Int) = rest.length + 1 := by simp
      unfold StaticAutorepair.deleteLoop
      rw [hinfo]
      refine Triple.bind_val ((podsToMove S nodePods _ _ _ pdbs).weaken_events
        fun e he => ⟨size, by omega, by omega, he⟩) ?_
      rintro _ ⟨w, rfl⟩
      obtain ⟨pods, hmove, hdrain⟩ := hpods w
      have hown : ∀ pod ∈ pods, pod.nodeName = node.name :=
        fun pod hpod => hinfos _ _ hinfo pod (movablePods_subset hmove hpod)
      rw [hmove]
      refine Triple.bind_val ((deleteNode S hasg hnode htodo hmin hown hdrain).weaken_events
        fun e he => he.widen (by omega) (by omega)) ?_
      rintro _ rfl
      have hrest := ih (done ++ [instanceName node]) (max (size - 1) asg.minSize) (by omega)
        (fun n hn => ?_) hdistinct.2 fun n hn => hmovable n (List.mem_cons_of_mem _ hn)
      · have hsize : max (max (size - 1) asg.minSize - rest.length) asg.minSize =
            max (size - (node :: rest).length) asg.minSize := by omega
        rw [hsize] at hrest
        refine Triple.weaken_events (Triple.conseq hrest (fun m hm => hm) ?_)
          fun e he => he.widen (by omega) (by omega)
        rintro r m ⟨hm, hr⟩
        exact ⟨by simpa using hm, hr⟩
      · -- the nodes after this one are other machines
        obtain ⟨hn', htodo'⟩ := hl n (List.mem_cons_of_mem _ hn)
        refine ⟨hn', htodo'.append ?_⟩
        intro heq
        exact hdistinct.1 (List.mem_singleton.mp heq ▸ List.mem_map_of_mem hn)

end AtStage

end Specs

end AutoNodeRepair
