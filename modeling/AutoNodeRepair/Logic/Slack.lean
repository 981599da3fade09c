import AutoNodeRepair.Logic.Capacity

/-!
# Capacity still owed

A repair grows a group for the nodes it is about to delete and shrinks it again
as it deletes them. `slack` adds to the desired capacity of a group the
decrements it has had: deletions do not change it, and a repair raises it by at
most the number of nodes handed over for the group (`repairNodes_slack`).
The decrements are read off the ghost history.
-/

namespace AutoNodeRepair

open Interact

/-- The instances a log shows terminated with a decrement, in order. -/
def released {W : Type} (log : List (ApiEvent W)) : List String :=
  log.filterMap fun e =>
    match e with
    | ⟨.terminateInstance id true, .ok _, _, _⟩ => some id
    | _ => none

theorem released_append {W : Type} (log log' : List (ApiEvent W)) :
    released (log ++ log') = released log ++ released log' := by
  simp [released]

theorem released_of_not_resizes {W : Type} {h : ApiService W} {w : W} {c : ApiCall}
    (hc : c.resizes = false) : released [Service.event h w c] = [] := by
  cases c with
  | terminateInstance id dec => simp [ApiCall.resizes] at hc
  | _ => rfl

theorem released_terminate {W : Type} (h : ApiService W) (w : W) (id : String) (dec : Bool) :
    released [Service.event h w (.terminateInstance id dec)] =
      if dec ∧ (h w (.terminateInstance id dec)).1 = .ok () then [id] else [] := by
  unfold released Service.event
  cases hans : (h w (.terminateInstance id dec)).1 <;> cases dec <;> simp

/-- The desired capacity of a group and the decrements it has had. -/
def slack {W : Type} (desired : W → String → Int) (owner : String → Option String)
    (name : String) (w : W × List (ApiEvent W)) : Int :=
  desired w.1 name + ((released w.2).filter fun id => owner id == some name).length

section

variable {W : Type} {h : ApiService W} {desired : W → String → Int}
  {owner : String → Option String} {name : String} {w : W × List (ApiEvent W)}

theorem slack_other (laws : AwsLaws h desired owner) {c : ApiCall} (hc : c.resizes = false) :
    slack desired owner name (Service.recorded h w c).2 = slack desired owner name w := by
  simp only [slack, Service.recorded, released_append, released_of_not_resizes hc,
    laws.other w.1 c hc, List.append_nil]

/-- An accepted decrement moves from one summand to the other. -/
theorem slack_terminate (laws : AwsLaws h desired owner) {id group : String}
    (howner : owner id = some group) (dec : Bool) :
    slack desired owner name (Service.recorded h w (.terminateInstance id dec)).2 =
      slack desired owner name w := by
  simp only [slack, Service.recorded, released_append, released_terminate]
  cases hans : (h w.1 (.terminateInstance id dec)).1 with
  | error err =>
      rw [laws.terminate_error w.1 id dec err hans]
      simp
  | ok _ =>
      rw [laws.terminate_ok w.1 id dec group howner hans]
      cases dec with
      | false => simp
      | true =>
          by_cases hname : name = group
          · subst hname
            have hcount : ((released w.2 ++ [id]).filter fun id => owner id == some name).length =
                ((released w.2).filter fun id => owner id == some name).length + 1 := by
              simp [howner]
            rw [if_pos rfl, if_pos ⟨rfl, rfl⟩, hcount, Function.update_self]
            omega
          · have hne : ¬ group = name := fun heq => hname heq.symm
            simp [howner, hne, Function.update_of_ne hname]

/-- A resize of the group itself, to its size plus `delta`, or of another. -/
theorem slack_set (laws : AwsLaws h desired owner) (group : String) {delta : Int}
    (hdelta : 0 ≤ delta) :
    slack desired owner name
        (Service.recorded h w (.setDesiredCapacity group (desired w.1 group + delta))).2 ≤
      slack desired owner name w + if group = name then delta else 0 := by
  have hlog : released [Service.event h w.1
      (.setDesiredCapacity group (desired w.1 group + delta))] = [] := rfl
  simp only [slack, Service.recorded, released_append, hlog, List.append_nil]
  cases hans : (h w.1 (.setDesiredCapacity group (desired w.1 group + delta))).1 with
  | error err =>
      rw [laws.set_error w.1 _ _ err hans]
      split <;> omega
  | ok _ =>
      rw [laws.set_ok w.1 _ _ hans]
      by_cases hgroup : group = name
      · subst hgroup
        simp only [Function.update_self, if_true]
        omega
      · have hne : name ≠ group := fun heq => hgroup heq.symm
        simp only [Function.update_of_ne hne, if_neg hgroup]
        omega

end

/-! ## Through the repair -/

section

variable {W : Type} {h : ApiService W} {desired : W → String → Int}
  {owner : String → Option String} {asgs : List Asg} {name : String}

/-- The caches are justified and the slack of the group is at most `s`. -/
def SlackAtMost (desired : W → String → Int) (owner : String → Option String) (asgs : List Asg)
    (name : String) (s : Int) (m : Machine (W × List (ApiEvent W))) : Prop :=
  CacheInv asgs (OwnedBy asgs owner) (fun _ => True) m.store ∧
    slack desired owner name m.world ≤ s

theorem SlackAtMost.mono {s s' : Int} {m : Machine (W × List (ApiEvent W))}
    (hm : SlackAtMost desired owner asgs name s m) (hle : s ≤ s') :
    SlackAtMost desired owner asgs name s' m :=
  ⟨hm.1, Int.le_trans hm.2 hle⟩

theorem slack_lookupClosed (laws : AwsLaws h desired owner) (s : Int) :
    LookupClosed (Service.recorded h) fun w => slack desired owner name w ≤ s := by
  intro w hw c hc
  rw [slack_other laws (ApiCall.resizes_of_quiet (ApiCall.quiet_of_looksUp hc))]
  exact hw

/-- Nothing but a resize raises the slack. -/
theorem removes_slack (laws : AwsLaws h desired owner) (s : Int) :
    Removes (Service.recorded h) (SlackAtMost desired owner asgs name s) (fun _ => True)
      (fun b => b ∈ asgs) (fun _ => True) where
  toDrains := by
    refine drains_of_frame ?_ fun ref => ?_
    · rintro c hc m ⟨hcache, hslack⟩
      refine ⟨⟨hcache, ?_⟩, trivial⟩
      rw [slack_other laws hc]
      exact hslack
    · exact Triple.weaken_events (Triple.conseq (findForInstance_spec (slack_lookupClosed laws s)
        laws.recorded.ownedBy_of_listed (fun _ _ => trivial) ref) (fun _ hm => hm)
        fun _ _ hq => hq.1) fun _ _ => trivial
  found := by
    rintro ref m ⟨hcache, hslack⟩ b hval
    obtain ⟨⟨-, hfound, -⟩, -⟩ := findForInstance_spec (slack_lookupClosed laws s)
      laws.recorded.ownedBy_of_listed (fun _ _ => trivial) ref m ⟨hcache, hslack⟩
    exact (hfound b hval).1
  remove := by
    rintro b node hb - m ⟨hcache, hslack⟩
    obtain ⟨⟨hcache', hq⟩, -⟩ := Asg.deleteNodes_single (slack_lookupClosed laws s)
      laws.recorded.ownedBy_of_listed (fun _ _ => trivial) b node m ⟨hcache, hslack⟩
    refine ⟨⟨hcache', ?_⟩, fun _ _ => trivial⟩
    rcases hq with ⟨hworld, -, -⟩ | ⟨w, ref, dec, hterm, hworld, -⟩
    · exact hworld
    · obtain ⟨target, ⟨-, howner⟩, -⟩ := hterm.owned
      rw [hworld, slack_terminate laws howner]
      exact hterm.world

/-- What a growth by `n` of the group `b` may add. -/
def charge (b : Asg) (name : String) (n : Int) : Int := if b.name = name then n else 0

theorem charge_add (b : Asg) (name : String) (n n' : Int) :
    charge b name n + charge b name n' = charge b name (n + n') := by
  unfold charge
  split <;> omega

theorem charge_nonneg (b : Asg) (name : String) {n : Int} (hn : 0 ≤ n) : 0 ≤ charge b name n := by
  unfold charge
  split <;> omega

/-- `Asg.IncreaseSize` adds its delta at most, and that to its own group. -/
theorem increaseSize_slack (laws : AwsLaws h desired owner) (b : Asg) {delta : Int}
    (hdelta : 0 ≤ delta) (s : Int) :
    Triple (Service.recorded h) (SlackAtMost desired owner asgs name s) (fun _ => True)
      (b.increaseSize delta)
      fun _ => SlackAtMost desired owner asgs name (s + charge b name delta) := by
  rintro m ⟨hcache, hslack⟩
  -- while it looks, the table stays as it is, so the size read is the size
  have hclosed : LookupClosed (Service.recorded h) fun w =>
      desired w.1 = desired m.world.1 ∧ slack desired owner name w ≤ s := by
    rintro w ⟨htable, hw⟩ c hc
    have hres := ApiCall.resizes_of_quiet (ApiCall.quiet_of_looksUp hc)
    exact ⟨(laws.other w.1 c hres).trans htable, slack_lookupClosed laws s w hw c hc⟩
  obtain ⟨⟨hcache', hq⟩, -⟩ := Asg.increaseSize_spec hclosed b delta m ⟨hcache, rfl, hslack⟩
  refine ⟨⟨hcache', ?_⟩, fun _ _ => trivial⟩
  rcases hq with ⟨⟨-, hworld⟩, -, -⟩ | ⟨w, size, hresize, hworld, -⟩
  · have hcharge := charge_nonneg b name hdelta
    omega
  · obtain ⟨g, ⟨w', rest, ⟨htable', -⟩, hans⟩, hsize⟩ := hresize.reported
    have hsame : size = desired w.1 b.name := by
      rw [← hsize, (laws.recorded.describe w' b.name g rest hans).1, htable', hresize.world.1]
    subst hsame
    rw [hworld]
    have hset : slack desired owner name _ ≤ slack desired owner name w + charge b name delta :=
      slack_set laws b.name hdelta
    have hbefore := hresize.world.2
    omega

theorem increaseSizeReport_slack (laws : AwsLaws h desired owner) (b : Asg) {inc : Int}
    (hinc : 0 ≤ inc) (s : Int) :
    Triple (Service.recorded h) (SlackAtMost desired owner asgs name s) (fun _ => True)
      (increaseSizeReport b inc)
      fun _ => SlackAtMost desired owner asgs name (s + charge b name inc) := by
  refine Triple.bind ((removes_slack laws s).asgReadyNodes b) fun ready => ?_
  refine Triple.bind (increaseSize_slack laws b hinc s) fun r => ?_
  split
  · exact Triple.pure _ fun _ hm => hm
  · exact Keeps.bind ((removes_slack laws _).pollReady b _ _ _) fun _ => Keeps.pure _

/-- One batch: its growth is charged, its deletions are free. -/
theorem repairBatch_slack (laws : AwsLaws h desired owner) (a : StaticAutorepair) (b : Asg)
    {l : List Node} (hne : l ≠ []) (size s : Int) :
    Triple (Service.recorded h) (SlackAtMost desired owner asgs name s) (fun _ => True)
      (a.repairBatch b l size)
      fun report m => (∃ inc, report = .panicked inc ∧ SlackAtMost desired owner asgs name s m) ∨
        (∀ inc, report ≠ .panicked inc) ∧ 0 ≤ report.incSize ∧ report.incSize ≤ l.length ∧
          SlackAtMost desired owner asgs name (s + charge b name report.incSize) m := by
  have hlength : 0 < l.length := List.length_pos_iff.mpr hne
  unfold StaticAutorepair.repairBatch
  split
  · refine Triple.bind ((removes_slack laws s).deleteNodes a b fun _ _ => trivial) fun _ => ?_
    refine Triple.bind (increaseSizeReport_slack laws b (show (0 : Int) ≤ 1 by omega) s)
      fun report => ?_
    refine Triple.pure _ fun m hm => .inr ⟨by simp, ?_, ?_, hm⟩ <;>
      simp only [BatchReport.incSize] <;> omega
  · refine Triple.bind ((removes_slack laws s).calcExpandSize b l) fun inc => ?_
    split
    · exact Triple.pure _ fun m hm => .inl ⟨inc, rfl, hm⟩
    · rename_i hrange
      refine Triple.bind (increaseSizeReport_slack laws b (by omega) s) fun report => ?_
      refine Triple.bind ((removes_slack laws _).deleteNodes a b fun _ _ => trivial) fun _ => ?_
      refine Triple.pure _ fun m hm => .inr ⟨by simp, ?_, ?_, hm⟩ <;>
        simp only [BatchReport.incSize] <;> omega

/-- The recursion: each node handed over is charged once. -/
theorem asgRepairNodes_slack (laws : AwsLaws h desired owner) (a : StaticAutorepair) (b : Asg) :
    ∀ (fuel : Nat) (l : List Node) (s : Int),
    Triple (Service.recorded h) (SlackAtMost desired owner asgs name s) (fun _ => True)
      (a.asgRepairNodes fuel b l)
      fun _ => SlackAtMost desired owner asgs name (s + charge b name l.length) := by
  have hspare : ∀ (l : List Node) (s : Int) (m : Machine (W × List (ApiEvent W))),
      SlackAtMost desired owner asgs name s m →
      SlackAtMost desired owner asgs name (s + charge b name l.length) m := by
    intro l s m hm
    have hcharge := charge_nonneg b name (Int.natCast_nonneg l.length)
    exact hm.mono (by omega)
  intro fuel
  induction fuel with
  | zero => exact fun l s => Triple.pure _ (hspare l s)
  | succ fuel ih =>
      intro l s
      refine Triple.bind ((removes_slack laws s).getAsgSize b) fun size => ?_
      cases l with
      | nil => exact Triple.pure _ (hspare [] s)
      | cons node rest =>
          refine Triple.bind (repairBatch_slack laws a b (List.cons_ne_nil node rest) size.1 s)
            fun report => ?_
          have hrec : Triple (Service.recorded h)
              (fun m => 0 ≤ report.incSize ∧ report.incSize ≤ (node :: rest).length ∧
                SlackAtMost desired owner asgs name (s + charge b name report.incSize) m)
              (fun _ => True)
              (a.asgRepairNodes fuel b ((node :: rest).drop report.incSize.toNat))
              fun _ => SlackAtMost desired owner asgs name
                (s + charge b name (node :: rest).length) := by
            refine Triple.of_pre (φ := 0 ≤ report.incSize ∧
              report.incSize ≤ (node :: rest).length) (fun m hm => ⟨hm.1, hm.2.1⟩) ?_
            rintro ⟨hpos, hle⟩
            -- the charges of the batch and of the rest add up to that of the list
            refine Triple.conseq (ih _ _) (fun m hm => hm.2.2) fun _ m hm => hm.mono ?_
            have hadd := charge_add b name report.incSize
              ((node :: rest).drop report.incSize.toNat).length
            have hsum : report.incSize + ((node :: rest).drop report.incSize.toNat).length =
                (node :: rest).length := by
              rw [List.length_drop]
              omega
            rw [hsum] at hadd
            omega
          cases report with
          | panicked inc =>
              refine Triple.pure _ ?_
              rintro m (⟨-, -, hm⟩ | ⟨hgoes, -⟩)
              · exact hspare _ s m hm
              · exact absurd rfl (hgoes inc)
          | deletedFirst increase =>
              refine hrec.conseq ?_ fun _ _ hq => hq
              rintro m (⟨inc, hpanic, -⟩ | ⟨-, hm⟩)
              · exact nomatch hpanic
              · exact hm
          | increasedFirst inc increase =>
              refine hrec.conseq ?_ fun _ _ hq => hq
              rintro m (⟨inc', hpanic, -⟩ | ⟨-, hm⟩)
              · exact nomatch hpanic
              · exact hm

/-! ## The nodes handed over -/

/-- The nodes a repair handed over for the groups called `name`. -/
def handedTo (name : String) (r : RepairReport) : List Node :=
  (r.handed.filter fun entry => entry.1.name == name).flatMap Prod.snd

theorem handedTo_cons (name : String) (exit : RepairExit) (b : Asg) (l : List Node)
    (later : RepairReport) :
    handedTo name ⟨exit, (b, l) :: later.handed⟩ =
      (if b.name = name then l else []) ++ handedTo name later := by
  by_cases hname : b.name = name <;> simp [handedTo, hname]

/-- The nodes found in a group are machines of it. -/
theorem nodesOfGroup_owned (laws : AwsLaws h desired owner) (b : Asg) (l : List Node) :
    Triple h (fun m => CacheInv asgs (OwnedBy asgs owner) (fun _ => True) m.store) (fun _ => True)
      (nodesOfGroup b l)
      fun r m => CacheInv asgs (OwnedBy asgs owner) (fun _ => True) m.store ∧
        ∀ nodes, r = .ok nodes → ∀ node ∈ nodes, owner (instanceName node) = some b.name := by
  induction l with
  | nil =>
      refine Triple.pure _ fun m hm => ⟨hm, ?_⟩
      rintro nodes ⟨⟩ node hnode
      simp at hnode
  | cons node rest ih =>
      refine Triple.bind_val
        (R := fun m => CacheInv asgs (OwnedBy asgs owner) (fun _ => True) m.store)
        (Q := fun r => ∀ asg, r = .ok (some asg) → owner (instanceName node) = some asg.name)
        ?_ fun r hfound => ?_
      · unfold nodeGroupForNode
        split
        · exact Triple.pure _ fun m hm => ⟨hm, by simp⟩
        · rename_i ref hparse
          have hname : instanceName node = ref.name := by simp [instanceName, hparse]
          rw [hname]
          exact Triple.weaken_events (Triple.conseq
            (findForInstance_spec (everywhere_closed h) laws.ownedBy_of_listed
              (fun _ _ => trivial) ref)
            (fun m hm => ⟨hm, trivial⟩)
            fun r m hq => ⟨hq.1.1, fun asg hasg => (hq.2.1 asg hasg).2⟩) fun _ _ => trivial
      · cases r with
        | error err => exact Triple.pure _ fun m hm => ⟨hm, by simp⟩
        | ok found =>
            refine Triple.bind_val ih fun r hrest => ?_
            cases r with
            | error err => exact Triple.pure _ fun m hm => ⟨hm, by simp⟩
            | ok nodes =>
                refine Triple.pure _ fun m hm => ⟨hm, ?_⟩
                rintro all ⟨⟩ x hx
                split at hx
                · rename_i hmine
                  rcases List.mem_cons.mp hx with rfl | hx
                  · exact hfound b (congrArg Except.ok hmine)
                  · exact hrest nodes rfl x hx
                · exact hrest nodes rfl x hx

/-- What `AsgNotReadyNodes` hands over, at no charge. -/
theorem asgNotReadyNodes_slack (laws : AwsLaws h desired owner) (b : Asg) (l : List Node)
    (s : Int) :
    Triple (Service.recorded h) (SlackAtMost desired owner asgs name s) (fun _ => True)
      (asgNotReadyNodes b l)
      fun r m => SlackAtMost desired owner asgs name s m ∧ r.1.Sublist l ∧
        ∀ node ∈ r.1, owner (instanceName node) = some b.name := by
  have howned : Triple (Service.recorded h) (SlackAtMost desired owner asgs name s)
      (fun _ => True) (asgNotReadyNodes b l)
      fun r _ => ∀ node ∈ r.1, owner (instanceName node) = some b.name := by
    refine Triple.bind ((nodesOfGroup_owned laws.recorded b l).conseq (fun m hm => hm.1)
      fun _ _ hq => hq) fun r => ?_
    split
    · exact Triple.pure _ fun _ _ => by simp
    · exact Triple.pure _ fun m hm => hm.2 _ rfl
  have hkept : Keeps (Service.recorded h) (SlackAtMost desired owner asgs name s)
      (fun _ => True) (asgNotReadyNodes b l) := (removes_slack laws s).asgNotReadyNodes b l
  have hsublist := hkept.with_val (Q := fun r => r.1.Sublist l)
    fun m _ => asgNotReadyNodes_sublist _ b l m
  exact (hsublist.and howned).conseq (fun _ hm => hm) fun _ _ hq => ⟨hq.1.1, hq.1.2, hq.2⟩

/-- A repair raises the slack of a group by the nodes it hands over at most;
they are machines of the group, each listed once. -/
def RepairCharges (desired : W → String → Int) (owner : String → Option String) (asgs : List Asg)
    (name : String) (l : List Node) (s : Int) (r : RepairReport)
    (m : Machine (W × List (ApiEvent W))) : Prop :=
  SlackAtMost desired owner asgs name (s + (handedTo name r).length) m ∧
    (handedTo name r).Sublist l ∧ ∀ node ∈ handedTo name r, owner (instanceName node) = some name

section

variable {l nodes : List Node} {s : Int} {m : Machine (W × List (ApiEvent W))}

theorem RepairCharges.nil (hm : SlackAtMost desired owner asgs name s m) (exit : RepairExit) :
    RepairCharges desired owner asgs name l s ⟨exit, []⟩ m := by
  refine ⟨?_, by simp [handedTo], by simp [handedTo]⟩
  simpa [handedTo] using hm

/-- One more group in front: it is charged for its own nodes, and no later one
has its name. -/
theorem RepairCharges.cons {b : Asg} {later : RepairReport}
    (hm : RepairCharges desired owner asgs name l (s + charge b name nodes.length) later m)
    (hsublist : nodes.Sublist l) (howned : ∀ node ∈ nodes, owner (instanceName node) = some b.name)
    (hlater : b.name = name → handedTo name later = []) (exit : RepairExit) :
    RepairCharges desired owner asgs name l s ⟨exit, (b, nodes) :: later.handed⟩ m := by
  obtain ⟨hslack, hsub, hown⟩ := hm
  unfold RepairCharges
  rw [handedTo_cons]
  by_cases hname : b.name = name
  · rw [hlater hname] at hslack ⊢
    subst hname
    simp only [charge, if_true, List.append_nil, List.length_nil, Int.natCast_zero,
      Int.add_zero] at hslack ⊢
    exact ⟨hslack, hsublist, howned⟩
  · simp only [charge, if_neg hname, List.nil_append, Int.add_zero] at hslack ⊢
    exact ⟨hslack, hsub, hown⟩

end

theorem repairLoop_slack (laws : AwsLaws h desired owner) (a : StaticAutorepair) (fuel : Nat)
    (l : List Node) :
    ∀ (bs : List Asg) (s : Int), (bs.map Asg.name).Nodup →
    Triple (Service.recorded h) (SlackAtMost desired owner asgs name s) (fun _ => True)
      (a.repairLoop fuel l bs)
      fun r m => RepairCharges desired owner asgs name l s r m ∧
        (name ∉ bs.map Asg.name → handedTo name r = []) := by
  intro bs
  induction bs with
  | nil => exact fun s _ => Triple.pure _ fun m hm => ⟨.nil hm _, fun _ => rfl⟩
  | cons b rest ih =>
      intro s hnames
      obtain ⟨hfresh, hrest⟩ := List.nodup_cons.mp hnames
      refine Triple.bind_val (asgNotReadyNodes_slack laws b l s) ?_
      rintro r ⟨hsublist, howned⟩
      refine Triple.bind (asgRepairNodes_slack laws a b fuel r.1 s) fun exit => ?_
      -- a group of another name brings nothing of its own
      have hskip : ∀ (exit : RepairExit) (later : RepairReport),
          (name ∉ rest.map Asg.name → handedTo name later = []) →
          name ∉ (b :: rest).map Asg.name →
          handedTo name ⟨exit, (b, r.1) :: later.handed⟩ = [] := by
        intro exit later hnone hnot
        simp only [List.map_cons, List.mem_cons, not_or] at hnot
        rw [handedTo_cons, if_neg fun heq => hnot.1 heq.symm, hnone hnot.2, List.nil_append]
      cases exit with
      | done =>
          refine Triple.bind (ih _ hrest) fun later => ?_
          refine Triple.pure _ fun m hm => ⟨hm.1.cons hsublist howned ?_ _, hskip _ _ hm.2⟩
          exact fun hname => hm.2 (hname ▸ hfresh)
      | panicked =>
          exact Triple.pure _ fun m hm =>
            ⟨(RepairCharges.nil hm .panicked).cons hsublist howned (fun _ => rfl) _,
              hskip .panicked ⟨.panicked, []⟩ fun _ => rfl⟩
      | outOfFuel =>
          exact Triple.pure _ fun m hm =>
            ⟨(RepairCharges.nil hm .outOfFuel).cons hsublist howned (fun _ => rfl) _,
              hskip .outOfFuel ⟨.outOfFuel, []⟩ fun _ => rfl⟩

/-- `RepairNodes` on the registered groups, whose names are distinct. -/
theorem repairNodes_slack (laws : AwsLaws h desired owner) (hnames : (asgs.map Asg.name).Nodup)
    (a : StaticAutorepair) (fuel : Nat) (l : List Node) (s : Int) :
    Triple (Service.recorded h) (SlackAtMost desired owner asgs name s) (fun _ => True)
      (a.repairNodes fuel l) (RepairCharges desired owner asgs name l s) := by
  refine Triple.bind_val (R := SlackAtMost desired owner asgs name s)
    (Q := fun bs => bs = asgs) ?_ ?_
  · refine Triple.bind Triple.getStore fun store => Triple.pure _ ?_
    rintro m ⟨hm, rfl⟩
    exact ⟨hm, hm.1.registered⟩
  · rintro bs rfl
    exact (repairLoop_slack laws a fuel l bs s hnames).conseq (fun m hm => hm)
      fun _ _ hq => hq.1

end

end AutoNodeRepair
