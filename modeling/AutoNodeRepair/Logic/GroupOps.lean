import AutoNodeRepair.Logic.Cache

/-!
# What the group operations can do

Inversion lemmas for the two operations of a node group that have an effect,
`Asg.IncreaseSize` and `Asg.DeleteNodes` on one node. Each is a few lookups
from outside states in `Wd`, followed by at most one request that changes
something: `Resize` and `Termination` say when that request is made and with
which arguments. All invariants about capacities are derived from these.
-/

namespace AutoNodeRepair

open Interact

section

variable {W : Type} (h : ApiService W) (Wd : W → Prop)

/-- The request ending an accepted `Asg.IncreaseSize(delta)`, sent from `w`. -/
structure Resize (asg : Asg) (delta : Int) (w : W) (size : Int) : Prop where
  world : Wd w
  reported : ∃ g, Reports h Wd asg.name g ∧ g.desiredCapacity = size
  positive : 0 < delta
  fits : size + delta ≤ asg.maxSize

/-- The request ending an `Asg.DeleteNodes([node])` that found nothing to object
to, sent from `w`: `dec` is its decrement flag. -/
structure Termination (pos : AwsRef → Asg → Prop) (asg : Asg) (node : Node) (w : W)
    (ref : AwsRef) (dec : Bool) : Prop where
  world : Wd w
  parsed : awsRefFromProviderId node.providerID = .ok ref
  owned : ∃ target, pos ref target ∧ target.name = asg.name
  flag : ∃ g, Reports h Wd asg.name g ∧ dec = !decide (g.desiredCapacity ≤ asg.minSize)

/-- Why `Asg.DeleteNodes([node])` gives up before its request. -/
inductive Refusal (asgs : List Asg) (pos : AwsRef → Asg → Prop) (neg : AwsRef → Prop)
    (asg : Asg) (node : Node) : Prop
  | noSize (hfails : ReportFails h Wd asg.name)
  | noReport (b : Asg) (hb : b ∈ asgs) (hfails : ReportFails h Wd b.name)
  | malformed (err : String) (hparse : awsRefFromProviderId node.providerID = .error err)
  | unfiled (ref : AwsRef) (hparse : awsRefFromProviderId node.providerID = .ok ref)
      (hmiss : neg ref)
  | otherGroup (ref : AwsRef) (hparse : awsRefFromProviderId node.providerID = .ok ref)
      (b : Asg) (hfiled : pos ref b) (hname : b.name ≠ asg.name)
  | ambiguous (ref : AwsRef) (hparse : awsRefFromProviderId node.providerID = .ok ref)
      (b b' : Asg) (hfiled : pos ref b) (hfiled' : pos ref b') (hne : b ≠ b')

variable {h Wd}

/-- `GetAsgSize` reports a size, or `-1` with an error. -/
theorem getAsgSize_spec (hclosed : LookupClosed h Wd) {P : AutoScalingGroups → Prop}
    (asg : Asg) :
    Triple h (fun m => P m.store ∧ Wd m.world) (LookupEvent h Wd) (getAsgSize asg)
      fun r m => (P m.store ∧ Wd m.world) ∧
        ((r.1 = -1 ∧ ReportFails h Wd asg.name ∧ ∃ err, r.2 = some err) ∨
          (r.2 = none ∧ ∃ g, Reports h Wd asg.name g ∧ g.desiredCapacity = r.1)) := by
  refine Triple.bind (Q := fun r m => (P m.store ∧ Wd m.world) ∧
    ∃ w, Wd w ∧ r = (h w (.describeAutoScalingGroups asg.name)).1) ?_ fun r => ?_
  · refine Triple.call fun m hm => ⟨⟨⟨hm.1, hclosed _ hm.2 _ rfl⟩, m.world, hm.2, rfl⟩, ?_⟩
    exact ⟨m.world, _, hm.2, rfl, rfl⟩
  · split
    · refine Triple.pure _ ?_
      rintro m ⟨hm, w, hw, hr⟩
      exact ⟨hm, .inl ⟨rfl, ⟨w, hw, by simp [← hr]⟩, _, rfl⟩⟩
    · refine Triple.pure _ ?_
      rintro m ⟨hm, w, hw, hr⟩
      exact ⟨hm, .inl ⟨rfl, ⟨w, hw, by simp [← hr]⟩, _, rfl⟩⟩
    · rename_i g rest
      refine Triple.pure _ ?_
      rintro m ⟨hm, w, hw, hr⟩
      exact ⟨hm, .inr ⟨rfl, g, ⟨w, rest, hw, hr.symm⟩, rfl⟩⟩

/-- `Asg.IncreaseSize`: refused with nothing changed, or one resize request. -/
theorem Asg.increaseSize_spec (hclosed : LookupClosed h Wd) {P : AutoScalingGroups → Prop}
    (asg : Asg) (delta : Int) :
    Triple h (fun m => P m.store ∧ Wd m.world)
      (fun e => LookupEvent h Wd e ∨ ∃ w size, Resize h Wd asg delta w size ∧
        e = Service.event h w (.setDesiredCapacity asg.name (size + delta)))
      (asg.increaseSize delta)
      fun r m => P m.store ∧
        ((Wd m.world ∧ (∃ err, r = .error err) ∧
            (delta ≤ 0 ∨ ReportFails h Wd asg.name ∨
              ∃ g, Reports h Wd asg.name g ∧ asg.maxSize < g.desiredCapacity + delta)) ∨
          ∃ w size, Resize h Wd asg delta w size ∧
            m.world = (h w (.setDesiredCapacity asg.name (size + delta))).2 ∧
            r = (h w (.setDesiredCapacity asg.name (size + delta))).1) := by
  unfold Asg.increaseSize
  split
  · rename_i hdelta
    exact Triple.pure _ fun m hm => ⟨hm.1, .inl ⟨hm.2, ⟨_, rfl⟩, .inl hdelta⟩⟩
  · rename_i hdelta
    refine Triple.bind_val ((getAsgSize_spec hclosed asg).weaken_events fun e he => .inl he) ?_
    rintro ⟨_, _⟩ (⟨-, hfails, err, rfl⟩ | ⟨rfl, g, hreport, rfl⟩)
    · exact Triple.pure _ fun m hm => ⟨hm.1, .inl ⟨hm.2, ⟨_, rfl⟩, .inr (.inl hfails)⟩⟩
    show Triple h _ _ (if g.desiredCapacity + delta > asg.maxSize then _ else _) _
    split
    · rename_i hlarge
      exact Triple.pure _ fun m hm =>
        ⟨hm.1, .inl ⟨hm.2, ⟨_, rfl⟩, .inr (.inr ⟨g, hreport, by omega⟩)⟩⟩
    · rename_i hfits
      refine Triple.call fun m hm => ?_
      have hresize : Resize h Wd asg delta m.world g.desiredCapacity :=
        ⟨hm.2, ⟨g, hreport, rfl⟩, by omega, by omega⟩
      exact ⟨⟨hm.1, .inr ⟨m.world, _, hresize, rfl, rfl⟩⟩, .inr ⟨m.world, _, hresize, rfl⟩⟩

variable {asgs : List Asg} {pos : AwsRef → Asg → Prop} {neg : AwsRef → Prop}

/-- `Belongs` lets a node pass exactly if it is filed under a group of this name. -/
theorem Asg.belongs_spec (hclosed : LookupClosed h Wd)
    (hpos : ∀ ref asg, ListedUnder h Wd asgs ref asg → pos ref asg)
    (hneg : ∀ ref, NowhereListed h Wd asgs ref → neg ref) (asg : Asg) (node : Node) :
    Triple h (fun m => CacheInv asgs pos neg m.store ∧ Wd m.world) (LookupEvent h Wd)
      (asg.belongs node)
      fun r m => (CacheInv asgs pos neg m.store ∧ Wd m.world) ∧
        (r = .ok true → ∃ ref target, awsRefFromProviderId node.providerID = .ok ref ∧
          pos ref target ∧ target.name = asg.name) ∧
        (r ≠ .ok true → Refusal h Wd asgs pos neg asg node) := by
  unfold Asg.belongs
  cases href : awsRefFromProviderId node.providerID with
  | error err => exact Triple.pure _ fun m hm => ⟨hm, by simp, fun _ => .malformed err href⟩
  | ok ref =>
      refine Triple.bind_val (findForInstance_spec hclosed hpos hneg ref) ?_
      rintro r ⟨hsome, hnone, herror⟩
      split
      · obtain ⟨b, hb, hfails⟩ := herror _ rfl
        exact Triple.pure _ fun m hm => ⟨hm, by simp, fun _ => .noReport b hb hfails⟩
      · exact Triple.pure _ fun m hm => ⟨hm, by simp, fun _ => .unfiled ref href (hnone rfl)⟩
      · rename_i target
        have hfiled := hsome target rfl
        split
        · rename_i hid
          exact Triple.pure _ fun m hm =>
            ⟨hm, by simp, fun _ => .otherGroup ref href target hfiled hid⟩
        · rename_i hid
          have hname : target.name = asg.name := by simpa [Asg.id] using hid
          exact Triple.pure _ fun m hm =>
            ⟨hm, fun _ => ⟨ref, target, rfl, hfiled, hname⟩, by simp⟩

theorem Asg.collectRefs_single (hclosed : LookupClosed h Wd)
    (hpos : ∀ ref asg, ListedUnder h Wd asgs ref asg → pos ref asg)
    (hneg : ∀ ref, NowhereListed h Wd asgs ref → neg ref) (asg : Asg) (node : Node) :
    Triple h (fun m => CacheInv asgs pos neg m.store ∧ Wd m.world) (LookupEvent h Wd)
      (asg.collectRefs [node])
      fun r m => (CacheInv asgs pos neg m.store ∧ Wd m.world) ∧
        (∀ refs, r = .ok refs → ∃ ref target, refs = [ref] ∧
          awsRefFromProviderId node.providerID = .ok ref ∧
          pos ref target ∧ target.name = asg.name) ∧
        (∀ err, r = .error err → Refusal h Wd asgs pos neg asg node) := by
  refine Triple.bind_val (Asg.belongs_spec hclosed hpos hneg asg node) ?_
  rintro r ⟨hbelongs, hrefused⟩
  split
  · exact Triple.pure _ fun m hm => ⟨hm, by simp, fun _ _ => hrefused (by simp)⟩
  · exact Triple.pure _ fun m hm => ⟨hm, by simp, fun _ _ => hrefused (by simp)⟩
  · split
    · rename_i err href
      exact Triple.pure _ fun m hm => ⟨hm, by simp, fun _ _ => .malformed err href⟩
    · rename_i ref href
      obtain ⟨ref', target, href', hfiled⟩ := hbelongs rfl
      rw [href] at href'
      injection href' with hsame
      refine Triple.pure _ fun m hm => ⟨hm, ?_, by simp⟩
      rintro refs ⟨⟩
      exact ⟨ref, target, rfl, href, hsame ▸ hfiled⟩

/-- The manager terminates a single instance, or gives up because a lookup fails
or two lookups disagree. -/
theorem terminateInstances_single (hclosed : LookupClosed h Wd)
    (hpos : ∀ ref asg, ListedUnder h Wd asgs ref asg → pos ref asg)
    (hneg : ∀ ref, NowhereListed h Wd asgs ref → neg ref) (dec : Bool) (ref : AwsRef) :
    Triple h (fun m => CacheInv asgs pos neg m.store ∧ Wd m.world)
      (fun e => LookupEvent h Wd e ∨
        ∃ w, Wd w ∧ e = Service.event h w (.terminateInstance ref.name dec))
      (terminateInstances dec [ref])
      fun r m => CacheInv asgs pos neg m.store ∧
        ((Wd m.world ∧ (∃ err, r = .error err) ∧
            ((∃ b ∈ asgs, ReportFails h Wd b.name) ∨ neg ref ∨
              ∃ b b', pos ref b ∧ pos ref b' ∧ b ≠ b')) ∨
          ∃ w, Wd w ∧ m.world = (h w (.terminateInstance ref.name dec)).2 ∧
            r = (h w (.terminateInstance ref.name dec)).1) := by
  have hfind : Triple h _ (fun e => LookupEvent h Wd e ∨
      ∃ w, Wd w ∧ e = Service.event h w (.terminateInstance ref.name dec))
      (findForInstance ref) _ :=
    (findForInstance_spec hclosed hpos hneg ref).weaken_events fun e he => .inl he
  refine Triple.bind_val hfind ?_
  rintro r ⟨hsome, hnone, herror⟩
  split
  · exact Triple.pure _ fun m hm => ⟨hm.1, .inl ⟨hm.2, ⟨_, rfl⟩, .inl (herror _ rfl)⟩⟩
  · rename_i commonAsg
    refine Triple.bind_val (R := fun m => CacheInv asgs pos neg m.store ∧ Wd m.world)
      (Q := fun r => ∀ err, r = .error err → (∃ b ∈ asgs, ReportFails h Wd b.name) ∨ neg ref ∨
        ∃ b b', pos ref b ∧ pos ref b' ∧ b ≠ b') ?_ ?_
    · refine Triple.bind_val hfind ?_
      rintro r ⟨hsome', hnone', herror'⟩
      split
      · exact Triple.pure _ fun m hm => ⟨hm, fun _ _ => .inl (herror' _ rfl)⟩
      · rename_i again
        split
        · rename_i hne
          refine Triple.pure _ fun m hm => ⟨hm, fun _ _ => .inr ?_⟩
          -- the two lookups disagree: one of them missed, or they found two objects
          cases again with
          | none => exact .inl (hnone' rfl)
          | some b' =>
              cases commonAsg with
              | none => exact .inl (hnone rfl)
              | some b =>
                  refine .inr ⟨b, b', hsome b rfl, hsome' b' rfl, ?_⟩
                  rintro rfl
                  exact hne rfl
        · exact Triple.pure _ fun m hm => ⟨hm, by simp⟩
    · intro r hdiffer
      split
      · exact Triple.pure _ fun m hm => ⟨hm.1, .inl ⟨hm.2, ⟨_, rfl⟩, hdiffer _ rfl⟩⟩
      · refine Triple.bind (Q := fun r m => CacheInv asgs pos neg m.store ∧
          ∃ w, Wd w ∧ m.world = (h w (.terminateInstance ref.name dec)).2 ∧
            r = (h w (.terminateInstance ref.name dec)).1) ?_ fun r => ?_
        · exact Triple.call fun m hm =>
            ⟨⟨hm.1, m.world, hm.2, rfl, rfl⟩, .inr ⟨m.world, hm.2, rfl⟩⟩
        · split
          · exact Triple.pure _ fun m hm => ⟨hm.1, .inr hm.2⟩
          · exact Triple.pure _ fun m hm => ⟨hm.1, .inr hm.2⟩

/-- `Asg.DeleteNodes` on one node: refused with nothing changed, or one
termination request. -/
theorem Asg.deleteNodes_single (hclosed : LookupClosed h Wd)
    (hpos : ∀ ref asg, ListedUnder h Wd asgs ref asg → pos ref asg)
    (hneg : ∀ ref, NowhereListed h Wd asgs ref → neg ref) (asg : Asg) (node : Node) :
    Triple h (fun m => CacheInv asgs pos neg m.store ∧ Wd m.world)
      (fun e => LookupEvent h Wd e ∨ ∃ w ref dec, Termination h Wd pos asg node w ref dec ∧
        e = Service.event h w (.terminateInstance ref.name dec))
      (asg.deleteNodes [node])
      fun r m => CacheInv asgs pos neg m.store ∧
        ((Wd m.world ∧ (∃ err, r = .error err) ∧ Refusal h Wd asgs pos neg asg node) ∨
          ∃ w ref dec, Termination h Wd pos asg node w ref dec ∧
            m.world = (h w (.terminateInstance ref.name dec)).2 ∧
            r = (h w (.terminateInstance ref.name dec)).1) := by
  refine Triple.bind_val ((getAsgSize_spec hclosed asg).weaken_events fun e he => .inl he) ?_
  rintro ⟨_, _⟩ (⟨-, hfails, err, rfl⟩ | ⟨rfl, g, hreport, rfl⟩)
  · exact Triple.pure _ fun m hm => ⟨hm.1, .inl ⟨hm.2, ⟨_, rfl⟩, .noSize hfails⟩⟩
  refine Triple.bind_val ((Asg.collectRefs_single hclosed hpos hneg asg node).weaken_events
    fun e he => .inl he) ?_
  rintro r ⟨hcollected, hrefused⟩
  cases r with
  | error err =>
      exact Triple.pure _ fun m hm => ⟨hm.1, .inl ⟨hm.2, ⟨_, rfl⟩, hrefused err rfl⟩⟩
  | ok refs =>
      obtain ⟨ref, target, rfl, hparsed, howned⟩ := hcollected refs rfl
      -- the size read decides between restarting and deleting
      have hflag : (if g.desiredCapacity ≤ asg.minSize then restartInstances [ref]
          else deleteInstances [ref]) =
          terminateInstances (!decide (g.desiredCapacity ≤ asg.minSize)) [ref] := by
        by_cases hle : g.desiredCapacity ≤ asg.minSize <;>
          simp [hle, restartInstances, deleteInstances]
      have hterm : ∀ w, Wd w → Termination h Wd pos asg node w ref
          (!decide (g.desiredCapacity ≤ asg.minSize)) :=
        fun w hw => ⟨hw, hparsed, ⟨target, howned⟩, g, hreport, rfl⟩
      show Triple h _ _ (if g.desiredCapacity ≤ asg.minSize then restartInstances [ref]
          else deleteInstances [ref]) _
      rw [hflag]
      refine Triple.weaken_events (Triple.conseq
        (terminateInstances_single hclosed hpos hneg _ ref) (fun m hm => hm) ?_) ?_
      · rintro r m ⟨hcache, ⟨hworld, herr, hwhy⟩ | ⟨w, hw, hworld, hr⟩⟩
        · refine ⟨hcache, .inl ⟨hworld, herr, ?_⟩⟩
          obtain ⟨b, hb, hfails⟩ | hmiss | ⟨b, b', hfiled, hfiled', hne⟩ := hwhy
          · exact .noReport b hb hfails
          · exact .unfiled ref hparsed hmiss
          · exact .ambiguous ref hparsed b b' hfiled hfiled' hne
        · exact ⟨hcache, .inr ⟨w, ref, _, hterm w hw, hworld, hr⟩⟩
      · rintro e (he | ⟨w, hw, he⟩)
        · exact .inl he
        · exact .inr ⟨w, ref, _, hterm w hw, he⟩

/-- A deletion of which only the outside states matter. -/
theorem Asg.deleteNodes_closed (hclosed : LookupClosed h Wd)
    (hterminate : ∀ w, Wd w → ∀ id dec, Wd (h w (.terminateInstance id dec)).2) (asg : Asg)
    (node : Node) :
    Triple h (fun m => Wd m.world)
      (fun e => LookupEvent h Wd e ∨ ∃ w ref dec, Wd w ∧
        awsRefFromProviderId node.providerID = .ok ref ∧
        e = Service.event h w (.terminateInstance ref.name dec))
      (asg.deleteNodes [node]) fun _ m => Wd m.world := by
  intro m hm
  obtain ⟨⟨-, hq⟩, hlog⟩ := Asg.deleteNodes_single hclosed
    (fun _ _ _ => trivial) (fun _ _ => trivial) asg node m ⟨.anything m.store, hm⟩
  constructor
  · rcases hq with ⟨hworld, -, -⟩ | ⟨w, ref, dec, hterm, hworld, -⟩
    · exact hworld
    · rw [hworld]
      exact hterminate w hterm.world _ _
  · intro e he
    rcases hlog e he with hlook | ⟨w, ref, dec, hterm, rfl⟩
    · exact .inl hlook
    · exact .inr ⟨w, ref, dec, hterm.world, hterm.parsed, rfl⟩

/-- A resize of which only the outside states matter. -/
theorem Asg.increaseSize_closed (hclosed : ∀ w, Wd w → ∀ c, Wd (h w c).2) (asg : Asg)
    (delta : Int) :
    Triple h (fun m => Wd m.world)
      (fun e => LookupEvent h Wd e ∨ ∃ w size, Wd w ∧
        e = Service.event h w (.setDesiredCapacity asg.name size))
      (asg.increaseSize delta) fun _ m => Wd m.world := by
  intro m hm
  obtain ⟨⟨-, hq⟩, hlog⟩ := Asg.increaseSize_spec (P := fun _ => True)
    (fun w hw c _ => hclosed w hw c) asg delta m ⟨trivial, hm⟩
  constructor
  · rcases hq with ⟨hworld, -, -⟩ | ⟨w, size, hresize, hworld, -⟩
    · exact hworld
    · rw [hworld]
      exact hclosed w hresize.world _
  · intro e he
    rcases hlog e he with hlook | ⟨w, size, hresize, rfl⟩
    · exact .inl hlook
    · exact .inr ⟨w, _, hresize.world, rfl⟩

end

end AutoNodeRepair
