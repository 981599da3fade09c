import AutoNodeRepair.Interact.Hoare
import AutoNodeRepair.Model.Aws

/-!
# The ASG cache

What a lookup returns, and what it leaves in the two caches, in terms of what
the autoscaling service reports while the outside stays within a set `Wd` of
states closed under the lookup's own questions. `pos` and `neg` say what a
positive and a negative entry stand for; `CacheInv` is the invariant that every
entry is justified, and `findForInstance_spec` the one fact later proofs use.
-/

namespace AutoNodeRepair

open Interact

/-! ## The client calls, run -/

section Calls

variable {W : Type} {h : ApiService W} (m : Machine W)

theorem now_exec : (now).exec h m = ⟨(h m.world .now).1, [Service.event h m.world .now],
    { m with world := (h m.world .now).2 }⟩ := rfl

theorem evict_exec (pod : Pod) : (evict pod).exec h m =
    ⟨(h m.world (.evict pod)).1, [Service.event h m.world (.evict pod)],
      { m with world := (h m.world (.evict pod)).2 }⟩ := rfl

theorem getNode_exec (name : String) : (getNode name).exec h m =
    ⟨(h m.world (.getNode name)).1, [Service.event h m.world (.getNode name)],
      { m with world := (h m.world (.getNode name)).2 }⟩ := rfl

theorem updateNode_exec (node : Node) : (updateNode node).exec h m =
    ⟨(h m.world (.updateNode node)).1, [Service.event h m.world (.updateNode node)],
      { m with world := (h m.world (.updateNode node)).2 }⟩ := rfl

end Calls

/-! ## Entries -/

/-- The questions a lookup asks. -/
def ApiCall.looksUp : ApiCall → Bool
  | .hourElapsed | .describeAutoScalingGroups _ => true
  | _ => false

/-- Every entry of the two caches is justified. -/
structure CacheInv (asgs : List Asg) (pos : AwsRef → Asg → Prop) (neg : AwsRef → Prop)
    (s : AutoScalingGroups) : Prop where
  registered : s.registeredAsgs = asgs
  positive : ∀ ref asg, s.instanceToAsg ref = some asg → pos ref asg
  negative : ∀ ref, s.instancesNotInManagedAsg ref = true → neg ref

theorem CacheInv.mono {asgs : List Asg} {pos : AwsRef → Asg → Prop} {neg neg' : AwsRef → Prop}
    {s : AutoScalingGroups} (hs : CacheInv asgs pos neg s) (hneg : ∀ ref, neg ref → neg' ref) :
    CacheInv asgs pos neg' s :=
  ⟨hs.registered, hs.positive, fun ref hentry => hneg ref (hs.negative ref hentry)⟩

/-- Nothing need be known of the entries. -/
theorem CacheInv.anything (s : AutoScalingGroups) :
    CacheInv s.registeredAsgs (fun _ _ => True) (fun _ => True) s :=
  ⟨rfl, fun _ _ _ => trivial, fun _ _ => trivial⟩

theorem fileInstances_apply (asg : Asg) (instances : List Instance)
    (cache : AwsRef → Option Asg) (ref : AwsRef) :
    fileInstances asg instances cache ref =
      if ∃ inst ∈ instances, inst.instanceId = ref.name then some asg else cache ref := by
  induction instances generalizing cache with
  | nil => simp [fileInstances]
  | cons inst rest ih =>
      have hstep : fileInstances asg (inst :: rest) cache ref =
          fileInstances asg rest (Function.update cache ⟨inst.instanceId⟩ (some asg)) ref := rfl
      rw [hstep, ih]
      by_cases hid : inst.instanceId = ref.name
      · have href : ref = ⟨inst.instanceId⟩ := by cases ref; simp_all
        simp [href]
      · have href : ref ≠ ⟨inst.instanceId⟩ := by rintro rfl; exact hid rfl
        simp [hid, Function.update_of_ne href]

section Lookup

variable {W : Type} (h : ApiService W) (Wd : W → Prop)

/-- `Wd` is closed under the questions of a lookup. -/
def LookupClosed : Prop :=
  ∀ w, Wd w → ∀ c : ApiCall, c.looksUp = true → Wd (h w c).2

theorem everywhere_closed (h : ApiService W) : LookupClosed h fun _ => True :=
  fun _ _ _ _ => trivial

/-- In some state of `Wd` the service reports the group `name` as `g`. -/
def Reports (name : String) (g : Group) : Prop :=
  ∃ w rest, Wd w ∧ (h w (.describeAutoScalingGroups name)).1 = .ok (g :: rest)

/-- In some state of `Wd` the service has no report of the group `name`. -/
def ReportFails (name : String) : Prop :=
  ∃ w, Wd w ∧ ∀ g rest, (h w (.describeAutoScalingGroups name)).1 ≠ .ok (g :: rest)

/-- An exchange a lookup may show. -/
def LookupEvent (e : ApiEvent W) : Prop :=
  ∃ w c, Wd w ∧ ApiCall.looksUp c = true ∧ e = Service.event h w c

/-- Some group of `asgs` was reported with the instance `ref`, respectively all
were reported without it. -/
def ListedUnder (asgs : List Asg) (ref : AwsRef) (asg : Asg) : Prop :=
  asg ∈ asgs ∧ ∃ g, Reports h Wd asg.name g ∧ ∃ inst ∈ g.instances, inst.instanceId = ref.name

@[inherit_doc ListedUnder]
def NowhereListed (asgs : List Asg) (ref : AwsRef) : Prop :=
  ∀ asg ∈ asgs, ∃ g, Reports h Wd asg.name g ∧ ∀ inst ∈ g.instances, inst.instanceId ≠ ref.name

variable {h Wd}

/-- A question of the lookup, answered from `Wd`, in a machine whose store is `s`. -/
theorem lookup_ask (hclosed : LookupClosed h Wd) (s : AutoScalingGroups) (c : ApiCall)
    (hc : c.looksUp = true) :
    Triple h (fun m => m.store = s ∧ Wd m.world) (LookupEvent h Wd)
      (Prog.call (E := Api) c : Ctl (ApiCall.Ans c))
      fun r m => (m.store = s ∧ Wd m.world) ∧ ∃ w, Wd w ∧ r = (h w c).1 := by
  refine Triple.call fun m hm => ⟨⟨⟨hm.1, hclosed _ hm.2 c hc⟩, m.world, hm.2, rfl⟩, ?_⟩
  exact ⟨m.world, c, hm.2, hc, rfl⟩

theorem getAutoscalingGroupByName_spec (hclosed : LookupClosed h Wd) (s : AutoScalingGroups)
    (name : String) :
    Triple h (fun m => m.store = s ∧ Wd m.world) (LookupEvent h Wd)
      (getAutoscalingGroupByName name)
      fun r m => (m.store = s ∧ Wd m.world) ∧
        (∀ g, r = .ok g → Reports h Wd name g) ∧
        (∀ err, r = .error err → ReportFails h Wd name) := by
  refine Triple.bind (lookup_ask hclosed s (.describeAutoScalingGroups name) rfl) fun r => ?_
  split
  · rename_i err
    refine Triple.pure _ ?_
    rintro m ⟨hm, w, hw, hr⟩
    exact ⟨hm, by simp, fun _ _ => ⟨w, hw, by simp [← hr]⟩⟩
  · refine Triple.pure _ ?_
    rintro m ⟨hm, w, hw, hr⟩
    exact ⟨hm, by simp, fun _ _ => ⟨w, hw, by simp [← hr]⟩⟩
  · rename_i g rest
    refine Triple.pure _ ?_
    rintro m ⟨hm, w, hw, hr⟩
    refine ⟨hm, ?_, by simp⟩
    rintro g' ⟨⟩
    exact ⟨w, rest, hw, hr.symm⟩

/-- One group more: what is filed now was there before, or the group reports it. -/
theorem ListedUnder.of_filed {asg asg' : Asg} {rest : List Asg} {group : Group}
    (hreport : Reports h Wd asg.name group) {cache : AwsRef → Option Asg} {ref : AwsRef}
    (hfiled : fileInstances asg group.instances cache ref = some asg') :
    cache ref = some asg' ∨ ListedUnder h Wd (asg :: rest) ref asg' := by
  rw [fileInstances_apply] at hfiled
  split at hfiled
  · rename_i hinst
    injection hfiled with hasg
    subst hasg
    exact .inr ⟨List.mem_cons_self, group, hreport, hinst⟩
  · exact .inl hfiled

/-- And what is not was not, and the group does not report it. -/
theorem NowhereListed.of_not_filed {asg : Asg} {rest : List Asg} {group : Group}
    (hreport : Reports h Wd asg.name group) {cache : AwsRef → Option Asg} {ref : AwsRef}
    (hfiled : fileInstances asg group.instances cache ref = none)
    (hrest : NowhereListed h Wd rest ref) :
    cache ref = none ∧ NowhereListed h Wd (asg :: rest) ref := by
  rw [fileInstances_apply] at hfiled
  split at hfiled
  · simp at hfiled
  · rename_i hinst
    refine ⟨hfiled, ?_⟩
    intro asg' hasg'
    rcases List.mem_cons.mp hasg' with rfl | hasg'
    · exact ⟨group, hreport, fun inst hmem heq => hinst ⟨inst, hmem, heq⟩⟩
    · exact hrest asg' hasg'

/-- The loop of `regenerateCache`: what is filed was reported, and what is not
filed was reported by none. -/
theorem regenerateLoop_spec (hclosed : LookupClosed h Wd) (s : AutoScalingGroups) :
    ∀ (asgs : List Asg) (cache : AwsRef → Option Asg),
    Triple h (fun m => m.store = s ∧ Wd m.world) (LookupEvent h Wd)
      (regenerateLoop asgs cache)
      fun r m => (m.store = s ∧ Wd m.world) ∧
        (∀ newCache, r = .ok newCache →
          (∀ ref asg, newCache ref = some asg →
            cache ref = some asg ∨ ListedUnder h Wd asgs ref asg) ∧
          (∀ ref, newCache ref = none → cache ref = none ∧ NowhereListed h Wd asgs ref)) ∧
        (∀ err, r = .error err → ∃ asg ∈ asgs, ReportFails h Wd asg.name) := by
  intro asgs
  induction asgs with
  | nil =>
      intro cache m hm
      refine ⟨⟨hm, ?_, ?_⟩, by simp [regenerateLoop]⟩
      · rintro newCache ⟨⟩
        exact ⟨fun ref asg hentry => .inl hentry,
          fun ref hentry => ⟨hentry, fun asg hasg => absurd hasg (by simp)⟩⟩
      · intro err herr
        simp [regenerateLoop] at herr
  | cons asg rest ih =>
      intro cache
      refine Triple.bind (getAutoscalingGroupByName_spec hclosed s asg.name) fun r => ?_
      cases r with
      | error err =>
          rintro m ⟨hm, -, hfails⟩
          refine ⟨⟨hm, by simp, ?_⟩, by simp⟩
          intro err' _
          exact ⟨asg, List.mem_cons_self, hfails err rfl⟩
      | ok group =>
          rintro m ⟨hm, hreports, -⟩
          obtain ⟨⟨hm', hok, herror⟩, hlog⟩ :=
            ih (fileInstances asg group.instances cache) m hm
          refine ⟨⟨hm', ?_, ?_⟩, hlog⟩
          · intro newCache hval
            obtain ⟨hsome, hnone⟩ := hok newCache hval
            refine ⟨?_, ?_⟩
            · intro ref asg' hentry
              rcases hsome ref asg' hentry with hfiled | hlisted
              · exact ListedUnder.of_filed (hreports group rfl) hfiled
              · exact .inr ⟨List.mem_cons_of_mem _ hlisted.1, hlisted.2⟩
            · intro ref hentry
              obtain ⟨hfiled, hrest⟩ := hnone ref hentry
              exact hrest.of_not_filed (hreports group rfl) hfiled
          · intro err hval
            obtain ⟨asg', hasg', hfails⟩ := herror err hval
            exact ⟨asg', List.mem_cons_of_mem _ hasg', hfails⟩

variable {asgs : List Asg} {pos : AwsRef → Asg → Prop} {neg : AwsRef → Prop}

/-- `regenerateCache` replaces the positive entries by reported ones, or fails
and leaves the caches as they were. -/
theorem regenerateCache_spec (hclosed : LookupClosed h Wd)
    (hpos : ∀ ref asg, ListedUnder h Wd asgs ref asg → pos ref asg)
    (hneg : ∀ ref, NowhereListed h Wd asgs ref → neg ref) :
    Triple h (fun m => CacheInv asgs pos neg m.store ∧ Wd m.world) (LookupEvent h Wd)
      regenerateCache
      fun r m => (CacheInv asgs pos neg m.store ∧ Wd m.world) ∧
        (r = .ok () → ∀ ref, m.store.instanceToAsg ref = none → neg ref) ∧
        (∀ err, r = .error err → ∃ asg ∈ asgs, ReportFails h Wd asg.name) := by
  refine Triple.bind Triple.getStore fun s => ?_
  refine Triple.of_pre (φ := CacheInv asgs pos neg s) (fun m hm => hm.2 ▸ hm.1.1) fun hs => ?_
  rw [hs.registered]
  refine Triple.bind ((regenerateLoop_spec hclosed s asgs fun _ => none).conseq
    (fun m hm => ⟨hm.2.symm, hm.1.2⟩) fun _ _ hq => hq) fun r => ?_
  cases r with
  | error err =>
      refine Triple.pure _ ?_
      rintro m ⟨hm, -, hfails⟩
      exact ⟨⟨hm.1 ▸ hs, hm.2⟩, by simp, fun _ _ => hfails err rfl⟩
  | ok newCache =>
      refine Triple.bind (Q := fun _ m => (CacheInv asgs pos neg m.store ∧ Wd m.world) ∧
        ∀ ref, m.store.instanceToAsg ref = none → neg ref) ?_ fun _ => ?_
      · refine Triple.setStore _ ?_
        rintro m ⟨hm, hok, -⟩
        obtain ⟨hsome, hnone⟩ := hok newCache rfl
        refine ⟨⟨⟨rfl, ?_, hs.negative⟩, hm.2⟩, fun ref hentry => hneg ref (hnone ref hentry).2⟩
        intro ref asg hentry
        rcases hsome ref asg hentry with hold | hlisted
        · simp at hold
        · exact hpos ref asg hlisted
      · exact Triple.pure _ fun m hm => ⟨hm.1, fun _ => hm.2, by simp⟩

theorem lockCache_keeps (hclosed : LookupClosed h Wd)
    (hpos : ∀ ref asg, ListedUnder h Wd asgs ref asg → pos ref asg)
    (hneg : ∀ ref, NowhereListed h Wd asgs ref → neg ref) :
    Keeps h (fun m => CacheInv asgs pos neg m.store ∧ Wd m.world) (LookupEvent h Wd)
      lockCache := by
  refine Keeps.bind ?_ fun elapsed => ?_
  · exact Keeps.call fun m hm => ⟨⟨hm.1, hclosed _ hm.2 _ rfl⟩, m.world, _, hm.2, rfl, rfl⟩
  · refine Keeps.ite ?_ (Keeps.pure _)
    refine Keeps.bind ?_ fun _ => Keeps.pure _
    exact (regenerateCache_spec hclosed hpos hneg).conseq (fun _ hm => hm) fun _ _ hq => hq.1

/-- What `FindForInstance` returns: a group the instance was listed under, nil
for an instance listed nowhere, an error only if some group has no report. -/
theorem findForInstance_spec (hclosed : LookupClosed h Wd)
    (hpos : ∀ ref asg, ListedUnder h Wd asgs ref asg → pos ref asg)
    (hneg : ∀ ref, NowhereListed h Wd asgs ref → neg ref) (ref : AwsRef) :
    Triple h (fun m => CacheInv asgs pos neg m.store ∧ Wd m.world) (LookupEvent h Wd)
      (findForInstance ref)
      fun r m => (CacheInv asgs pos neg m.store ∧ Wd m.world) ∧
        (∀ asg, r = .ok (some asg) → pos ref asg) ∧ (r = .ok none → neg ref) ∧
        (∀ err, r = .error err → ∃ asg ∈ asgs, ReportFails h Wd asg.name) := by
  refine Triple.bind (lockCache_keeps hclosed hpos hneg) fun _ => ?_
  refine Triple.bind Triple.getStore fun s => ?_
  cases hentry : s.instanceToAsg ref with
  | some config =>
      -- a positive entry answers at once
      refine Triple.pure _ ?_
      rintro m ⟨hm, rfl⟩
      refine ⟨hm, ?_, by simp, by simp⟩
      rintro asg ⟨⟩
      exact hm.1.positive ref _ hentry
  | none =>
      by_cases hknown : s.instancesNotInManagedAsg ref = true
      · simp only [if_pos hknown]
        refine Triple.pure _ ?_
        rintro m ⟨hm, rfl⟩
        exact ⟨hm, by simp, fun _ => hm.1.negative ref hknown, by simp⟩
      · simp only [if_neg hknown]
        refine Triple.bind ((regenerateCache_spec hclosed hpos hneg).conseq
          (fun _ hm => hm.1) fun _ _ hq => hq) fun r => ?_
        cases r with
        | error err =>
            refine Triple.pure _ ?_
            rintro m ⟨hm, -, hfails⟩
            exact ⟨hm, by simp, by simp, fun _ _ => hfails err rfl⟩
        | ok _ =>
            refine Triple.bind Triple.getStore fun s' => ?_
            cases hentry' : s'.instanceToAsg ref with
            | some config =>
                refine Triple.pure _ ?_
                rintro m ⟨⟨hm, -, -⟩, rfl⟩
                refine ⟨hm, ?_, by simp, by simp⟩
                rintro asg ⟨⟩
                exact hm.1.positive ref _ hentry'
            | none =>
                -- the fresh cache misses it too: memorized as unmanaged
                refine Triple.bind (Q := fun _ m =>
                  (CacheInv asgs pos neg m.store ∧ Wd m.world) ∧ neg ref) ?_ fun _ => ?_
                · refine Triple.setStore _ ?_
                  rintro m ⟨⟨hm, hfresh, -⟩, rfl⟩
                  have hmiss : neg ref := hfresh rfl ref hentry'
                  refine ⟨⟨⟨hm.1.registered, hm.1.positive, ?_⟩, hm.2⟩, hmiss⟩
                  intro ref' hmarked
                  by_cases href : ref' = ref
                  · exact href ▸ hmiss
                  · simp only [Function.update_of_ne href] at hmarked
                    exact hm.1.negative ref' hmarked
                · exact Triple.pure _ fun m hm => ⟨hm.1, by simp, fun _ => hm.2, by simp⟩

/-- A lookup of which only the outside states matter. -/
theorem findForInstance_closed (hclosed : LookupClosed h Wd) (ref : AwsRef) :
    Triple h (fun m => Wd m.world) (LookupEvent h Wd) (findForInstance ref)
      fun _ m => Wd m.world := by
  intro m hm
  obtain ⟨hq, hlog⟩ := findForInstance_spec hclosed (fun _ _ _ => trivial) (fun _ _ => trivial)
    ref m ⟨.anything m.store, hm⟩
  exact ⟨hq.1.2, hlog⟩

end Lookup

/-- What `NodeGroupForNode` answers, asked for one node after the other. -/
def lookUpNodes : List Node → Ctl (List (Except String (Option Asg)))
  | [] => return []
  | node :: rest => do
      let answer ← nodeGroupForNode node
      let answers ← lookUpNodes rest
      return answer :: answers

end AutoNodeRepair
