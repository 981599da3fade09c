import AutoNodeRepair.Logic.Cluster

/-!
# The cache is transparent

As long as the groups keep their instances, the two caches cannot be seen: a
lookup that succeeds returns what a scan over the registered groups would,
whatever lookups, failures and background regenerations came before. Groups may
be registered while the background job is already at work; only a lookup made
too early could put a wrong entry into the negative cache.
-/

namespace AutoNodeRepair

open Interact

/-! ## Operations -/

/-- What happens to the registry, one operation under its lock after the other. -/
inductive CacheOp
  | register (asg : Asg)
  | regenerate
  | find (ref : AwsRef)
  deriving DecidableEq, Repr

/-- `Register`. -/
def registerAsg (asg : Asg) : Ctl Unit := do
  let m ← Prog.getStore
  Prog.setStore (m.register asg)

/-- A sequence of operations; the lookups with their results. -/
def runCacheOps : List CacheOp → Ctl (List (AwsRef × Except String (Option Asg)))
  | [] => return []
  | .register asg :: rest => do
      registerAsg asg
      runCacheOps rest
  | .regenerate :: rest => do
      let _ ← regenerateCache
      runCacheOps rest
  | .find ref :: rest => do
      let found ← findForInstance ref
      let later ← runCacheOps rest
      return (ref, found) :: later

/-- The groups registered by a sequence, in order. -/
def CacheOp.registered (ops : List CacheOp) : List Asg :=
  ops.filterMap fun op =>
    match op with
    | .register asg => some asg
    | _ => none

/-- Nothing is looked up, respectively registered. -/
def CacheOp.noFind (ops : List CacheOp) : Prop := ∀ ref, CacheOp.find ref ∉ ops

@[inherit_doc CacheOp.noFind]
def CacheOp.noRegister (ops : List CacheOp) : Prop := ∀ asg, CacheOp.register asg ∉ ops

/-! ## The truth -/

/-- A report, if there is one, lists the group's instances. -/
def ReportsMembers {W : Type} (h : ApiService W) (members : String → List String) : Prop :=
  ∀ w name g rest, (h w (.describeAutoScalingGroups name)).1 = .ok (g :: rest) →
    ∀ id, (∃ inst ∈ g.instances, inst.instanceId = id) ↔ id ∈ members name

/-- The uncached scan. -/
def scan (members : String → List String) (asgs : List Asg) (ref : AwsRef) : Option Asg :=
  asgs.find? fun asg => ref.name ∈ members asg.name

/-- No instance is in two of the groups. -/
def DisjointGroups (members : String → List String) (asgs : List Asg) : Prop :=
  asgs.Pairwise fun a b => ∀ id ∈ members a.name, id ∉ members b.name

theorem scan_eq_some {members : String → List String} {asgs : List Asg} {ref : AwsRef} {asg : Asg}
    (hdisjoint : DisjointGroups members asgs) (hasg : asg ∈ asgs)
    (hmem : ref.name ∈ members asg.name) : scan members asgs ref = some asg := by
  unfold scan
  induction asgs with
  | nil => simp at hasg
  | cons first rest ih =>
      obtain ⟨hfirst, hrest⟩ := List.pairwise_cons.mp hdisjoint
      rcases List.mem_cons.mp hasg with rfl | hasg
      · simp [hmem]
      · have hother : ref.name ∉ members first.name :=
          fun hin => hfirst asg hasg ref.name hin hmem
        rw [List.find?_cons_of_neg (by simpa using hother)]
        exact ih hrest hasg

theorem scan_eq_none {members : String → List String} {asgs : List Asg} {ref : AwsRef}
    (hnone : ∀ asg ∈ asgs, ref.name ∉ members asg.name) : scan members asgs ref = none := by
  simpa [scan] using hnone

/-! ## Every sequence keeps the caches right -/

section

variable {W : Type} {h : ApiService W} {members : String → List String}

/-- A positive entry stands for a registered group with that instance. -/
def MemberOf (members : String → List String) (asgs : List Asg) (ref : AwsRef) (asg : Asg) :
    Prop :=
  asg ∈ asgs ∧ ref.name ∈ members asg.name

theorem memberOf_of_listed (hreports : ReportsMembers h members) {asgs : List Asg} (ref : AwsRef)
    (asg : Asg) (hlisted : ListedUnder h (fun _ => True) asgs ref asg) :
    MemberOf members asgs ref asg := by
  obtain ⟨hasg, g, ⟨w, rest, -, hans⟩, hinst⟩ := hlisted
  exact ⟨hasg, (hreports w asg.name g rest hans ref.name).mp hinst⟩

theorem foreign_of_nowhere (hreports : ReportsMembers h members) {asgs : List Asg} (ref : AwsRef)
    (hnowhere : NowhereListed h (fun _ => True) asgs ref) :
    ∀ asg ∈ asgs, ref.name ∉ members asg.name := by
  intro asg hasg hmem
  obtain ⟨g, ⟨w, rest, -, hans⟩, hmiss⟩ := hnowhere asg hasg
  obtain ⟨inst, hinst, hid⟩ := (hreports w asg.name g rest hans ref.name).mpr hmem
  exact hmiss inst hinst hid

/-- A regeneration replaces the positive cache, or fails and changes nothing. -/
theorem regenerateCache_store (m : Machine W) :
    ((regenerateCache.exec h m).val = .ok () ∧
      ∃ cache, (regenerateCache.exec h m).mach.store = { m.store with instanceToAsg := cache }) ∨
    ((∃ err, (regenerateCache.exec h m).val = .error err) ∧
      (regenerateCache.exec h m).mach.store = m.store) := by
  obtain ⟨⟨⟨hstore, -⟩, -⟩, -⟩ := regenerateLoop_spec (everywhere_closed h) m.store
    m.store.registeredAsgs (fun _ => none) m ⟨rfl, trivial⟩
  simp only [regenerateCache, exec_bind, exec_getStore, Outcome.after_val, Outcome.after_mach]
  cases ((regenerateLoop m.store.registeredAsgs fun _ => none).exec h m).val with
  | error err => exact .inr ⟨⟨err, rfl⟩, hstore⟩
  | ok cache => exact .inl ⟨rfl, cache, rfl⟩

/-- Before the first lookup: the positive entries are right for the groups so far, and
there are no negative ones. -/
structure Fresh (members : String → List String) (asgs : List Asg) (s : AutoScalingGroups) :
    Prop where
  registered : s.registeredAsgs = asgs
  positive : ∀ ref asg, s.instanceToAsg ref = some asg → MemberOf members asgs ref asg
  negative : ∀ ref, s.instancesNotInManagedAsg ref = false

theorem Fresh.register {asgs : List Asg} {s : AutoScalingGroups} (hs : Fresh members asgs s)
    (asg : Asg) : Fresh members (asgs ++ [asg]) (s.register asg) where
  registered := by rw [AutoScalingGroups.register, hs.registered]
  positive := by
    intro ref b hentry
    obtain ⟨hb, hmem⟩ := hs.positive ref b hentry
    exact ⟨List.mem_append_left _ hb, hmem⟩
  negative := hs.negative

theorem Fresh.regenerate (hreports : ReportsMembers h members) {asgs : List Asg} {m : Machine W}
    (hm : Fresh members asgs m.store) :
    Fresh members asgs (regenerateCache.exec h m).mach.store := by
  have hbefore : CacheInv asgs (MemberOf members asgs) (fun _ => True) m.store :=
    ⟨hm.registered, hm.positive, fun _ _ => trivial⟩
  obtain ⟨⟨⟨hinv, -⟩, -⟩, -⟩ := regenerateCache_spec (everywhere_closed h)
    (memberOf_of_listed hreports) (fun _ _ => trivial) m ⟨hbefore, trivial⟩
  refine ⟨hinv.registered, hinv.positive, ?_⟩
  -- the negative entries are not touched, neither by a success nor by a failure
  rcases regenerateCache_store (h := h) m with ⟨-, cache, hstore⟩ | ⟨-, hstore⟩
  · rw [hstore]
    exact hm.negative
  · rw [hstore]
    exact hm.negative

/-- Registering and regenerating, in any order. -/
theorem runCacheOps_fresh (hreports : ReportsMembers h members) :
    ∀ (ops : List CacheOp) (asgs : List Asg) (m : Machine W), CacheOp.noFind ops →
    Fresh members asgs m.store →
    Fresh members (asgs ++ CacheOp.registered ops) ((runCacheOps ops).exec h m).mach.store := by
  intro ops
  induction ops with
  | nil => intro asgs m _ hm; simpa [CacheOp.registered, runCacheOps] using hm
  | cons op rest ih =>
      intro asgs m hops hm
      have hrest : CacheOp.noFind rest := fun ref href => hops ref (List.mem_cons_of_mem _ href)
      cases op with
      | find ref => exact absurd List.mem_cons_self (hops ref)
      | register asg =>
          have hafter := ih (asgs ++ [asg]) ⟨m.store.register asg, m.world⟩ hrest (hm.register asg)
          rw [List.append_assoc] at hafter
          exact hafter
      | regenerate =>
          have hafter := ih asgs (regenerateCache.exec h m).mach hrest (hm.regenerate hreports)
          simpa [runCacheOps, CacheOp.registered] using hafter

/-- Looking up and regenerating, in any order: what is found is what a scan finds. -/
theorem runCacheOps_scan (hreports : ReportsMembers h members) {asgs : List Asg}
    (hdisjoint : DisjointGroups members asgs) :
    ∀ ops : List CacheOp, CacheOp.noRegister ops →
    Triple h (fun m => CacheInv asgs (MemberOf members asgs)
        (fun ref => ∀ asg ∈ asgs, ref.name ∉ members asg.name) m.store ∧ True)
      (fun _ => True) (runCacheOps ops)
      fun results _ => ∀ ref found, (ref, Except.ok found) ∈ results →
        found = scan members asgs ref := by
  intro ops
  induction ops with
  | nil => intro _; exact Triple.pure _ fun m hm => by simp
  | cons op rest ih =>
      intro hops
      have hlater := ih fun asg hasg => hops asg (List.mem_cons_of_mem _ hasg)
      cases op with
      | register asg => exact absurd List.mem_cons_self (hops asg)
      | regenerate =>
          -- also a failed one keeps the entries right
          refine Triple.bind (((regenerateCache_spec (everywhere_closed h)
            (memberOf_of_listed hreports) (foreign_of_nowhere hreports)).conseq
            (fun _ hm => hm) fun _ _ hq => hq.1).weaken_events fun _ _ => trivial) fun _ => ?_
          exact hlater
      | find ref =>
          refine Triple.bind_val ((findForInstance_spec (everywhere_closed h)
            (memberOf_of_listed hreports) (foreign_of_nowhere hreports) ref).weaken_events
            fun _ _ => trivial) ?_
          rintro r ⟨hsome, hnone, -⟩
          have hfound : ∀ found, r = .ok found → found = scan members asgs ref := by
            rintro (_ | asg) hr
            · exact (scan_eq_none (hnone hr)).symm
            · obtain ⟨hasg, hmem⟩ := hsome asg hr
              exact (scan_eq_some hdisjoint hasg hmem).symm
          refine Triple.bind hlater fun later => ?_
          refine Triple.pure _ fun m hm => ?_
          intro ref' found hmem
          rcases List.mem_cons.mp hmem with heq | hmem
          · injection heq with href hr
            rw [href]
            exact hfound found hr.symm
          · exact hm ref' found hmem

/-- **Transparency.** The groups are registered while regenerations go on, then
lookups and regenerations follow in any order. Every lookup that succeeds
returns what the uncached scan would, and a failed regeneration, wherever it
happens, leaves both caches as they were. -/
theorem findForInstance_transparent (hreports : ReportsMembers h members)
    (setup ops : List CacheOp) (hsetup : CacheOp.noFind setup) (hops : CacheOp.noRegister ops)
    (hdisjoint : DisjointGroups members (CacheOp.registered setup)) (w : W) :
    let ready := ((runCacheOps setup).exec h ⟨newAutoScalingGroups, w⟩).mach
    (∀ ref found, (ref, Except.ok found) ∈ ((runCacheOps ops).exec h ready).val →
      found = scan members (CacheOp.registered setup) ref) ∧
    ∀ (m : Machine W) (err : String), (regenerateCache.exec h m).val = .error err →
      (regenerateCache.exec h m).mach.store = m.store := by
  intro ready
  have hfresh : Fresh members (CacheOp.registered setup) ready.store := by
    have hnew : Fresh members [] newAutoScalingGroups :=
      ⟨rfl, by simp [newAutoScalingGroups], fun _ => rfl⟩
    simpa using runCacheOps_fresh hreports setup [] ⟨newAutoScalingGroups, w⟩ hsetup hnew
  refine ⟨?_, ?_⟩
  · refine (runCacheOps_scan hreports hdisjoint ops hops ready ⟨⟨hfresh.registered,
      hfresh.positive, ?_⟩, trivial⟩).1
    intro ref hentry
    simp [hfresh.negative ref] at hentry
  · intro m err hfailed
    rcases regenerateCache_store (h := h) m with ⟨hok, -⟩ | ⟨-, hstore⟩
    · simp [hok] at hfailed
    · exact hstore

end

/-! ## A cloud that fails every third time -/

/-- The sample cluster, with groups of their own of which every third report fails. -/
def flakyGroups (members : String → List String) : ApiService (ClusterState × Nat) :=
  fun w call =>
    match call with
    | .describeAutoScalingGroups name =>
        (if w.2 % 3 = 2 then .error "throttled"
          else .ok [⟨0, (members name).map fun id => ⟨id, "z"⟩⟩], (w.1, w.2 + 1))
    | call => ((Cluster.sample.service w.1 call).1, ((Cluster.sample.service w.1 call).2, w.2))

theorem flakyGroups_reports (members : String → List String) :
    ReportsMembers (flakyGroups members) members := by
  intro w name g rest hans id
  by_cases hfails : w.2 % 3 = 2
  · simp [flakyGroups, hfails] at hans
  · simp only [flakyGroups, hfails, if_false, Except.ok.injEq, List.cons.injEq] at hans
    simp [← hans.1]

/-- Two groups of one instance each; the first is already cached when the second is
registered, and two of the lookups have to be repeated. -/
theorem findForInstance_transparent_sample :
    let members := fun name => if name = "g" then ["i-1"] else if name = "b" then ["i-2"] else []
    let groupB : Asg := ⟨1, "b", 0, 4⟩
    let ready := ((runCacheOps [.register groupG, .regenerate, .register groupB]).exec
      (flakyGroups members) ⟨newAutoScalingGroups, sampleState, 0⟩).mach
    let results := ((runCacheOps [.find ⟨"i-2"⟩, .find ⟨"i-1"⟩, .regenerate, .find ⟨"i-2"⟩,
      .find ⟨"i-9"⟩, .find ⟨"i-9"⟩]).exec (flakyGroups members) ready).val
    results.map (fun r => r.2.toOption) =
        [none, some (some groupG), some (some groupB), none, some none] ∧
      ∀ ref found, (ref, Except.ok found) ∈ results →
        found = scan members [groupG, groupB] ref := by
  intro members groupB ready results
  have hdisjoint : DisjointGroups members [groupG, groupB] := by
    simp [DisjointGroups, members, groupG, groupB]
  refine ⟨by decide, ?_⟩
  exact (findForInstance_transparent (flakyGroups_reports members)
    [.register groupG, .regenerate, .register groupB]
    [.find ⟨"i-2"⟩, .find ⟨"i-1"⟩, .regenerate, .find ⟨"i-2"⟩, .find ⟨"i-9"⟩, .find ⟨"i-9"⟩]
    (by simp [CacheOp.noFind]) (by simp [CacheOp.noRegister]) hdisjoint (sampleState, 0)).1

end AutoNodeRepair
