import AutoNodeRepair.Interact.Writes
import AutoNodeRepair.Theorems.DeletionGuards
import AutoNodeRepair.Theorems.GroupMinimum

/-!
# Which instances are terminated

`DeleteInstances` and `RestartInstances` look every listed instance up before
the first termination request, and compare what they find as pointers. The
comparison accepts nil: instances that no registered group owns all have the
same group, none. `Asg.DeleteNodes` stands in front with a check of its own,
by group id, which refuses those; with a cache that keeps its entries during
the call the two checks together come before every effect.
-/

namespace AutoNodeRepair

open Interact

section

variable {W : Type} {h : ApiService W}

/-! ## The lookups of one call -/

/-- The lookups of these references, made one after the other, all answer `answer`. -/
def LookedUp (h : ApiService W) (answer : Option Asg) : List AwsRef → Machine W → Prop
  | [], _ => True
  | ref :: rest, m =>
      ((findForInstance ref).exec h m).val = .ok answer ∧
        LookedUp h answer rest ((findForInstance ref).exec h m).mach

theorem checkCommonAsg_ok_iff (common : Option Asg) (refs : List AwsRef) (m : Machine W) :
    ((checkCommonAsg common refs).exec h m).val = .ok () ↔ LookedUp h common refs m := by
  induction refs generalizing m with
  | nil => simp [checkCommonAsg, LookedUp]
  | cons ref rest ih =>
      simp only [checkCommonAsg, exec_bind, Outcome.after_val, LookedUp]
      cases ((findForInstance ref).exec h m).val with
      | error err => simp
      | ok answer =>
          by_cases hsame : answer = common
          · simp [hsame, ih]
          · simp [hsame]

/-- A log of lookups terminates nothing. -/
theorem terminations_of_lookups {Wd : W → Prop} {log : List (ApiEvent W)}
    (hlog : ∀ e ∈ log, LookupEvent h Wd e) : terminations log = [] := by
  refine List.eq_nil_iff_forall_not_mem.mpr fun id hid => ?_
  obtain ⟨e, he, dec, hcall⟩ := mem_terminations.mp hid
  obtain ⟨w, c, -, hlooks, rfl⟩ := hlog e he
  rw [Service.event_call] at hcall
  simp [hcall, ApiCall.looksUp] at hlooks

theorem terminations_append (log log' : List (ApiEvent W)) :
    terminations (log ++ log') = terminations log ++ terminations log' :=
  List.filterMap_append

/-! ## The requests of one call -/

/-- Termination requests for the references in their order, up to and including the
first one rejected; the result is a success if none is. -/
inductive Requests (dec : Bool) : List AwsRef → List (ApiEvent W) → Except String Unit → Prop
  | done : Requests dec [] [] (.ok ())
  | rejected (ref : AwsRef) (rest : List AwsRef) (err : String) (before after : W) :
      Requests dec (ref :: rest)
        [⟨.terminateInstance ref.name dec, .error err, before, after⟩] (.error err)
  | accepted (ref : AwsRef) {rest : List AwsRef} {log : List (ApiEvent W)}
      {r : Except String Unit} (before after : W) (hrest : Requests dec rest log r) :
      Requests dec (ref :: rest)
        (⟨.terminateInstance ref.name dec, .ok (), before, after⟩ :: log) r

theorem terminateLoop_requests (dec : Bool) (refs : List AwsRef) (m : Machine W) :
    Requests dec refs ((terminateLoop dec refs).exec h m).log
      ((terminateLoop dec refs).exec h m).val := by
  induction refs generalizing m with
  | nil => exact .done
  | cons ref rest ih =>
      have hask : (terminateInstance ref.name dec).exec h m =
          ⟨(h m.world (.terminateInstance ref.name dec)).1,
            [Service.event h m.world (.terminateInstance ref.name dec)],
            { m with world := (h m.world (.terminateInstance ref.name dec)).2 }⟩ := rfl
      simp only [terminateLoop, exec_bind, hask, Outcome.after_val, Outcome.after_log,
        Service.event]
      cases (h m.world (.terminateInstance ref.name dec)).1 with
      | error err => exact .rejected ref rest err _ _
      | ok _ => exact .accepted ref _ _ (ih _)

/-- The first request is sent whatever is answered. -/
theorem Requests.issued {dec : Bool} {ref : AwsRef} {rest : List AwsRef}
    {log : List (ApiEvent W)} {r : Except String Unit} (hlog : Requests dec (ref :: rest) log r) :
    terminations log ≠ [] := by
  cases hlog <;> simp [terminations]

/-- Either every lookup gave the same answer, and the requests follow; or the call
is refused before the first of them. -/
theorem terminateInstances_cases (dec : Bool) (first : AwsRef) (rest : List AwsRef)
    (m : Machine W) :
    let run := (terminateInstances dec (first :: rest)).exec h m
    (∃ common checks requests, LookedUp h common (first :: first :: rest) m ∧
        run.log = checks ++ requests ∧ terminations checks = [] ∧
        Requests dec (first :: rest) requests run.val) ∨
      ((∀ common, ¬ LookedUp h common (first :: first :: rest) m) ∧
        (∃ err, run.val = .error err) ∧ terminations run.log = []) := by
  have hfirst := terminations_of_lookups
    (findForInstance_closed (everywhere_closed h) first m trivial).2
  simp only [terminateInstances, exec_bind, LookedUp]
  cases hval : ((findForInstance first).exec h m).val with
  | error err =>
      refine .inr ⟨by simp, ⟨err, rfl⟩, ?_⟩
      simpa using hfirst
  | ok common =>
      set m₁ := ((findForInstance first).exec h m).mach
      have hrest := terminations_of_lookups
        (checkCommonAsg_closed (everywhere_closed h) common (first :: rest) m₁ trivial).2
      simp only [exec_bind]
      cases hcheck : ((checkCommonAsg common (first :: rest)).exec h m₁).val with
      | error err =>
          refine .inr ⟨?_, ⟨err, rfl⟩, ?_⟩
          · rintro common' ⟨hcommon, hall⟩
            cases hcommon
            rw [← LookedUp, ← checkCommonAsg_ok_iff, hcheck] at hall
            simp at hall
          · simp [terminations_append, hfirst, hrest]
      | ok _ =>
          refine .inl ⟨common, _, _, ⟨rfl, (checkCommonAsg_ok_iff _ _ _).mp hcheck⟩,
            (List.append_assoc ..).symm, ?_, terminateLoop_requests dec _ _⟩
          rw [terminations_append, hfirst, hrest, List.nil_append]

/-! ## One registered group -/

/-- Every lookup of the call finds the same registered group. -/
def FoundTogether (h : ApiService W) (refs : List AwsRef) (m : Machine W) : Prop :=
  ∃ asg ∈ m.store.registeredAsgs, LookedUp h (some asg) (refs.take 1 ++ refs) m

/-- The call terminates only instances found in one registered group; anything else
it refuses without a request. -/
structure TerminatesManaged (h : ApiService W) (call : List AwsRef → Ctl (Except String Unit))
    (refs : List AwsRef) (m : Machine W) : Prop where
  found : terminations ((call refs).exec h m).log ≠ [] → FoundTogether h refs m
  refused : ¬ FoundTogether h refs m →
    (∃ err, ((call refs).exec h m).val = .error err) ∧
      terminations ((call refs).exec h m).log = []

/-- Every lookup of the call gives the same answer, which is no registered group. -/
def FoundNowhere (h : ApiService W) (refs : List AwsRef) (m : Machine W) : Prop :=
  ∃ answer, LookedUp h answer (refs.take 1 ++ refs) m ∧
    ∀ asg, answer = some asg → asg ∉ m.store.registeredAsgs

theorem terminatesManaged_iff (dec : Bool) (first : AwsRef) (rest : List AwsRef)
    (m : Machine W) :
    TerminatesManaged h (terminateInstances dec) (first :: rest) m ↔
      ¬ FoundNowhere h (first :: rest) m := by
  rcases terminateInstances_cases dec first rest m with
    ⟨common, checks, requests, hlooked, hlog, -, hrequests⟩ | ⟨hdiffer, herr, hnone⟩
  · -- the requests went out, so the common answer decides
    have hissued : terminations ((terminateInstances dec (first :: rest)).exec h m).log ≠ [] := by
      rw [hlog, terminations_append]
      exact List.append_ne_nil_of_right_ne_nil _ hrequests.issued
    constructor
    · rintro hmanaged ⟨answer, hanswer, hforeign⟩
      obtain ⟨asg, hasg, hfound⟩ := hmanaged.found hissued
      have hsame := hanswer.1.symm.trans hfound.1
      injection hsame with hsame
      exact hforeign asg hsame hasg
    · intro hsomewhere
      have hfound : FoundTogether h (first :: rest) m := by
        by_contra hnot
        refine hsomewhere ⟨common, hlooked, ?_⟩
        rintro asg rfl hasg
        exact hnot ⟨asg, hasg, hlooked⟩
      exact ⟨fun _ => hfound, fun hnot => absurd hfound hnot⟩
  · constructor
    · rintro - ⟨answer, hanswer, -⟩
      exact hdiffer answer hanswer
    · exact fun _ => ⟨fun hissued => absurd hnone hissued, fun _ => ⟨herr, hnone⟩⟩

/-- Where the cache holds registered groups only, a lookup finds no other. -/
theorem LookedUp.registered {asg : Asg} {ref : AwsRef} {rest : List AwsRef} {m : Machine W}
    (hcache : ∀ ref asg, m.store.instanceToAsg ref = some asg → asg ∈ m.store.registeredAsgs)
    (hlooked : LookedUp h (some asg) (ref :: rest) m) : asg ∈ m.store.registeredAsgs := by
  have hinv : CacheInv m.store.registeredAsgs (fun _ asg => asg ∈ m.store.registeredAsgs)
      (fun _ => True) m.store := ⟨rfl, hcache, fun _ _ => trivial⟩
  obtain ⟨⟨-, hsome, -⟩, -⟩ := findForInstance_spec (everywhere_closed h)
    (fun _ _ hlisted => hlisted.1) (fun _ _ => trivial) ref m ⟨hinv, trivial⟩
  exact hsome asg hlooked.1

/-- `DeleteInstances` and `RestartInstances` terminate only what they found in one
registered group exactly when their lookups do not all answer one and the same
thing that is no registered group; with registered groups in the cache, nil. -/
theorem terminateInstances_managed_iff (h : ApiService W) (first : AwsRef) (rest : List AwsRef)
    (m : Machine W) :
    (TerminatesManaged h deleteInstances (first :: rest) m ↔
        ¬ FoundNowhere h (first :: rest) m) ∧
      (TerminatesManaged h restartInstances (first :: rest) m ↔
        ¬ FoundNowhere h (first :: rest) m) ∧
      ((∀ ref asg, m.store.instanceToAsg ref = some asg → asg ∈ m.store.registeredAsgs) →
        (FoundNowhere h (first :: rest) m ↔ LookedUp h none (first :: first :: rest) m)) := by
  refine ⟨terminatesManaged_iff true first rest m, terminatesManaged_iff false first rest m, ?_⟩
  intro hcache
  constructor
  · rintro ⟨answer, hanswer, hforeign⟩
    cases answer with
    | none => exact hanswer
    | some asg => exact absurd (LookedUp.registered hcache hanswer) (hforeign asg rfl)
  · exact fun hanswer => ⟨none, hanswer, by simp⟩

end

/-- An instance no group owns is terminated all the same. -/
theorem deleteInstances_terminates_unmanaged :
    let refs : List AwsRef := [⟨"i-9"⟩]
    let run := (deleteInstances refs).exec Cluster.sample.service sampleMachine
    run.val = .ok () ∧ terminations run.log = ["i-9"] ∧
      ((findForInstance ⟨"i-9"⟩).exec Cluster.sample.service sampleMachine).val = .ok none ∧
      ¬ TerminatesManaged Cluster.sample.service deleteInstances refs sampleMachine := by
  have hrun : ((deleteInstances [⟨"i-9"⟩]).exec Cluster.sample.service sampleMachine).val =
      .ok () ∧
      terminations ((deleteInstances [⟨"i-9"⟩]).exec Cluster.sample.service sampleMachine).log =
        ["i-9"] ∧
      ((findForInstance ⟨"i-9"⟩).exec Cluster.sample.service sampleMachine).val = .ok none := by
    decide
  refine ⟨hrun.1, hrun.2.1, hrun.2.2, fun hmanaged => ?_⟩
  obtain ⟨asg, -, hfound, -⟩ := hmanaged.found (by rw [hrun.2.1]; simp)
  rw [hrun.2.2] at hfound
  simp at hfound

/-! ## Validation in `Asg.DeleteNodes` -/

/-- No positive cache entry changes or goes. -/
def CacheKept (s s' : AutoScalingGroups) : Prop :=
  ∀ ref asg, s.instanceToAsg ref = some asg → s'.instanceToAsg ref = some asg

/-- The answer is no group of this id: the provider id is malformed or the lookup
failed, no registered group has the instance, or another one has. -/
def Asg.Misplaces (asg : Asg) : Except String (Option Asg) → Prop
  | .error _ => True
  | .ok none => True
  | .ok (some found) => found.id ≠ asg.id

section

variable {W : Type} {h : ApiService W}

theorem cacheKept_of_writes {α : Type} {p : Ctl α} {m : Machine W}
    (hp : p.Writes CacheKept h m) : CacheKept m.store (p.exec h m).mach.store :=
  hp.stores (fun _ _ _ hentry => hentry)
    fun _ _ _ hfirst hsecond ref asg hentry => hsecond ref asg (hfirst ref asg hentry)

/-- A group found is in the cache afterwards. -/
theorem findForInstance_filed (ref : AwsRef) :
    Triple h (fun _ => True) (fun _ => True) (findForInstance ref)
      fun r m => ∀ asg, r = .ok (some asg) → m.store.instanceToAsg ref = some asg := by
  have hany : ∀ {α : Type} (p : Ctl α), Keeps h (fun _ => True) (fun _ => True) p :=
    fun p _ _ => ⟨trivial, fun _ _ => trivial⟩
  refine Triple.bind (hany lockCache) fun _ => Triple.bind Triple.getStore fun s => ?_
  cases hentry : s.instanceToAsg ref with
  | some config =>
      refine Triple.pure _ ?_
      rintro m ⟨-, rfl⟩ asg ⟨⟩
      exact hentry
  | none =>
      by_cases hknown : s.instancesNotInManagedAsg ref = true
      · simp only [if_pos hknown]
        exact Triple.pure _ fun m _ => by simp
      · simp only [if_neg hknown]
        refine Triple.bind ((hany regenerateCache).conseq (fun _ _ => trivial)
          fun _ _ hq => hq) fun r => ?_
        cases r with
        | error err => exact Triple.pure _ fun m _ => by simp
        | ok _ =>
            refine Triple.bind Triple.getStore fun s' => ?_
            cases hentry' : s'.instanceToAsg ref with
            | some config =>
                refine Triple.pure _ ?_
                rintro m ⟨-, rfl⟩ asg ⟨⟩
                exact hentry'
            | none =>
                refine Triple.bind (Triple.setStore (Q := fun _ => True) _ fun _ _ => trivial)
                  fun _ => ?_
                exact Triple.pure _ fun m _ => by simp

/-- An entry that is kept is found. -/
theorem findForInstance_kept {ref : AwsRef} {asg : Asg} {m : Machine W}
    (hkept : (findForInstance ref).Writes CacheKept h m)
    (hentry : m.store.instanceToAsg ref = some asg) :
    ((findForInstance ref).exec h m).val = .ok (some asg) := by
  have hlock : lockCache.Writes CacheKept h m := ((writes_bind _ _ _).mp hkept).1
  simp [findForInstance, cacheKept_of_writes hlock ref asg hentry]

/-- With entries that are kept, the comparison is one of entries. -/
theorem checkCommonAsg_kept (common : Option Asg) {refs : List AwsRef} {m : Machine W}
    (hkept : (checkCommonAsg common refs).Writes CacheKept h m)
    (hentries : ∀ ref ∈ refs, ∃ asg, m.store.instanceToAsg ref = some asg) :
    LookedUp h common refs m ↔ ∀ ref ∈ refs, m.store.instanceToAsg ref = common := by
  induction refs generalizing m with
  | nil => simp [LookedUp]
  | cons ref rest ih =>
      obtain ⟨asg, hentry⟩ := hentries ref List.mem_cons_self
      obtain ⟨hfind, hrest⟩ := (writes_bind _ _ _).mp hkept
      have hval := findForInstance_kept hfind hentry
      simp only [LookedUp, List.forall_mem_cons, hval, hentry, Except.ok.injEq]
      refine and_congr_right fun hsame => ?_
      simp only [hval, hsame, ne_eq, not_true_eq_false, if_false] at hrest
      have hstay : ∀ ref' ∈ rest, ∃ asg, m.store.instanceToAsg ref' = some asg ∧
          ((findForInstance ref).exec h m).mach.store.instanceToAsg ref' = some asg := by
        intro ref' href'
        obtain ⟨asg', hentry'⟩ := hentries ref' (List.mem_cons_of_mem _ href')
        exact ⟨asg', hentry', cacheKept_of_writes hfind ref' asg' hentry'⟩
      rw [ih hrest fun ref' href' => (hstay ref' href').imp fun _ => And.right]
      refine forall₂_congr fun ref' href' => ?_
      obtain ⟨asg', hbefore, hafter⟩ := hstay ref' href'
      rw [hbefore, hafter]

/-- What `Belongs` makes of the answer. -/
def Asg.verdict (asg : Asg) (node : Node) : Except String (Option Asg) → Except String Bool
  | .error err => .error err
  | .ok none => .error s!"{node.name} doesn't belong to a known asg"
  | .ok (some found) => .ok (decide (found.id = asg.id))

theorem Asg.belongs_exec (asg : Asg) (node : Node) (m : Machine W) :
    (asg.belongs node).exec h m =
      let looked := (nodeGroupForNode node).exec h m
      ⟨asg.verdict node looked.val, looked.log, looked.mach⟩ := by
  simp only [Asg.belongs, nodeGroupForNode]
  cases awsRefFromProviderId node.providerID with
  | error err => rfl
  | ok ref =>
      simp only [exec_bind]
      rcases ((findForInstance ref).exec h m).val with err | _ | found
      · simp [Outcome.after, Asg.verdict]
      · simp [Outcome.after, Asg.verdict]
      · by_cases hid : found.id = asg.id
        · simp [Outcome.after, Asg.verdict, hid]
        · simp [Outcome.after, Asg.verdict, hid]

theorem Asg.verdict_of_misplaces {asg : Asg} {node : Node} {answer : Except String (Option Asg)}
    (hbad : asg.Misplaces answer) : asg.verdict node answer ≠ .ok true := by
  rcases answer with err | _ | found
  · simp [Asg.verdict]
  · simp [Asg.verdict]
  · simpa [Asg.verdict, Asg.Misplaces] using hbad

theorem Asg.found_of_not_misplaces {asg : Asg} {answer : Except String (Option Asg)}
    (hgood : ¬ asg.Misplaces answer) : ∃ found, answer = .ok (some found) ∧ found.id = asg.id := by
  rcases answer with err | _ | found
  · exact absurd trivial hgood
  · exact absurd trivial hgood
  · exact ⟨found, rfl, not_not.mp hgood⟩

/-- One misplaced node anywhere, and no references are collected. -/
theorem Asg.collectRefs_misplaced {asg : Asg} {nodes : List Node} {m : Machine W}
    (hbad : ∃ answer ∈ ((lookUpNodes nodes).exec h m).val, asg.Misplaces answer) :
    ∃ err, ((asg.collectRefs nodes).exec h m).val = .error err := by
  induction nodes generalizing m with
  | nil => simp [lookUpNodes] at hbad
  | cons node rest ih =>
      simp only [lookUpNodes, exec_bind, exec_pure, Outcome.after_val,
        List.exists_mem_cons_iff] at hbad
      simp only [Asg.collectRefs, exec_bind, Asg.belongs_exec, Outcome.after_val]
      cases hverdict : asg.verdict node ((nodeGroupForNode node).exec h m).val with
      | error err => exact ⟨err, rfl⟩
      | ok own =>
          cases own with
          | false => exact ⟨_, rfl⟩
          | true =>
              -- this one passes, so the misplaced one is among the rest
              obtain ⟨err, herr⟩ := ih (hbad.resolve_left fun hhere =>
                Asg.verdict_of_misplaces hhere hverdict)
              cases awsRefFromProviderId node.providerID with
              | error err => exact ⟨err, rfl⟩
              | ok ref =>
                  refine ⟨err, ?_⟩
                  simp [herr]

/-- A node whose group is found has a well-formed provider id, and is in the cache. -/
theorem nodeGroupForNode_filed {node : Node} {found : Asg} {m : Machine W}
    (hfound : ((nodeGroupForNode node).exec h m).val = .ok (some found)) :
    awsRefFromProviderId node.providerID = .ok ⟨instanceName node⟩ ∧
      ((nodeGroupForNode node).exec h m).mach.store.instanceToAsg ⟨instanceName node⟩ =
        some found := by
  cases hparse : awsRefFromProviderId node.providerID with
  | error err => simp [nodeGroupForNode, hparse] at hfound
  | ok ref =>
      have hname : ref = ⟨instanceName node⟩ := by simp [instanceName, hparse]
      simp only [nodeGroupForNode, hparse] at hfound ⊢
      rw [← hname]
      exact ⟨rfl, (findForInstance_filed ref m trivial).1 found hfound⟩

/-- With none misplaced, the references are those of the nodes, and with entries that
are kept the cache ends with what was found. -/
theorem Asg.collectRefs_placed {asg : Asg} {nodes : List Node} {m : Machine W}
    (hkept : (asg.collectRefs nodes).Writes CacheKept h m)
    (hplaced : ∀ answer ∈ ((lookUpNodes nodes).exec h m).val, ¬ asg.Misplaces answer) :
    ((asg.collectRefs nodes).exec h m).val = .ok (nodes.map fun node => ⟨instanceName node⟩) ∧
      ((lookUpNodes nodes).exec h m).val = nodes.map fun node => .ok
        (((asg.collectRefs nodes).exec h m).mach.store.instanceToAsg ⟨instanceName node⟩) := by
  induction nodes generalizing m with
  | nil => exact ⟨rfl, rfl⟩
  | cons node rest ih =>
      simp only [lookUpNodes, exec_bind, exec_pure, Outcome.after_val, List.forall_mem_cons]
        at hplaced
      obtain ⟨found, hfound, hid⟩ := Asg.found_of_not_misplaces hplaced.1
      obtain ⟨hparse, hentry⟩ := nodeGroupForNode_filed hfound
      have hverdict : asg.verdict node ((nodeGroupForNode node).exec h m).val = .ok true := by
        simp [hfound, Asg.verdict, hid]
      simp only [Asg.collectRefs, writes_bind, Asg.belongs_exec, hverdict, hparse] at hkept
      obtain ⟨hval, hanswers⟩ := ih hkept.2.1 hplaced.2
      simp only [Asg.collectRefs, lookUpNodes, exec_bind, exec_pure, Asg.belongs_exec,
        Outcome.after_val, Outcome.after_mach, hverdict, hparse, hval, List.map_cons]
      refine ⟨trivial, ?_⟩
      rw [hanswers, hfound, cacheKept_of_writes hkept.2.1 _ found hentry]

/-- With entries that are kept, the lookups of a call agree exactly if the entries do. -/
theorem terminateInstances_lookedUp {dec : Bool} {first : AwsRef} {rest : List AwsRef}
    {m : Machine W} (hkept : (terminateInstances dec (first :: rest)).Writes CacheKept h m)
    (hentries : ∀ ref ∈ first :: rest, ∃ asg, m.store.instanceToAsg ref = some asg)
    (common : Option Asg) :
    LookedUp h common (first :: first :: rest) m ↔
      ∀ ref ∈ first :: rest, m.store.instanceToAsg ref = common := by
  obtain ⟨asg, hentry⟩ := hentries first List.mem_cons_self
  simp only [terminateInstances, writes_bind] at hkept
  obtain ⟨hfind, hrest⟩ := hkept
  have hval := findForInstance_kept hfind hentry
  rw [hval] at hrest
  have hcheck := ((writes_bind _ _ _).mp hrest).1
  have hstay : ∀ ref ∈ first :: rest, ∃ asg, m.store.instanceToAsg ref = some asg ∧
      ((findForInstance first).exec h m).mach.store.instanceToAsg ref = some asg := by
    intro ref href
    obtain ⟨asg', hentry'⟩ := hentries ref href
    exact ⟨asg', hentry', cacheKept_of_writes hfind ref asg' hentry'⟩
  by_cases hsame : common = some asg
  · subst hsame
    rw [LookedUp, hval, checkCommonAsg_kept (some asg) hcheck
      fun ref href => (hstay ref href).imp fun _ => And.right]
    simp only [true_and]
    refine forall₂_congr fun ref href => ?_
    obtain ⟨asg', hbefore, hafter⟩ := hstay ref href
    rw [hbefore, hafter]
  · constructor
    · intro hlooked
      have hfirst := hval.symm.trans hlooked.1
      injection hfirst with hfirst
      exact absurd hfirst.symm hsame
    · intro hall
      exact absurd ((hall first List.mem_cons_self).symm.trans hentry) hsame

/-- So the call goes through with all entries equal, and is refused otherwise. -/
theorem terminateInstances_kept {dec : Bool} {refs : List AwsRef} {m : Machine W}
    (hkept : (terminateInstances dec refs).Writes CacheKept h m)
    (hentries : ∀ ref ∈ refs, ∃ asg, m.store.instanceToAsg ref = some asg) :
    let run := (terminateInstances dec refs).exec h m
    let agree := ∀ ref ∈ refs, ∀ ref' ∈ refs,
      m.store.instanceToAsg ref = m.store.instanceToAsg ref'
    (agree → ∃ checks requests, run.log = checks ++ requests ∧ terminations checks = [] ∧
        Requests dec refs requests run.val) ∧
      (¬ agree → (∃ err, run.val = .error err) ∧ terminations run.log = []) := by
  cases refs with
  | nil => exact ⟨fun _ => ⟨[], [], rfl, rfl, .done⟩, fun hdiffer => absurd (by simp) hdiffer⟩
  | cons first rest =>
      have hlooked := terminateInstances_lookedUp hkept hentries
      rcases terminateInstances_cases dec first rest m with
        ⟨common, checks, requests, hsame, hlog, hchecks, hrequests⟩ | ⟨hdiffer, hrefused⟩
      · refine ⟨fun _ => ⟨checks, requests, hlog, hchecks, hrequests⟩, fun hnot => absurd ?_ hnot⟩
        have hall := (hlooked common).mp hsame
        exact fun ref href ref' href' => (hall ref href).trans (hall ref' href').symm
      · refine ⟨fun hagree => absurd ?_ (hdiffer (m.store.instanceToAsg first)),
          fun _ => hrefused⟩
        exact (hlooked _).mpr fun ref href => hagree ref href first List.mem_cons_self

/-- What keeps `Asg.DeleteNodes` from its first request: the group's size cannot be
read, some node is misplaced, or two nodes are found in two groups, registered as
different objects under the same name. -/
inductive Asg.Objection (h : ApiService W) (asg : Asg) (nodes : List Node) (m : Machine W) : Prop
  | size (err : String) (hfails : ((getAsgSize asg).exec h m).val.2 = some err)
  | node (answer : Except String (Option Asg))
      (hanswer : answer ∈ ((lookUpNodes nodes).exec h ((getAsgSize asg).exec h m).mach).val)
      (hbad : asg.Misplaces answer)
  | twoObjects (answer answer' : Except String (Option Asg))
      (hanswer : answer ∈ ((lookUpNodes nodes).exec h ((getAsgSize asg).exec h m).mach).val)
      (hanswer' : answer' ∈ ((lookUpNodes nodes).exec h ((getAsgSize asg).exec h m).mach).val)
      (hdiffer : answer ≠ answer')

/-- The decrement flag is the comparison with the minimum. -/
theorem Asg.deleteNodes_flag (asg : Asg) (size : Int) (refs : List AwsRef) :
    (if size ≤ asg.minSize then restartInstances refs else deleteInstances refs) =
      terminateInstances (decide (asg.minSize < size)) refs := by
  split
  · rw [decide_eq_false (by omega)]
    rfl
  · rw [decide_eq_true (by omega)]
    rfl

section Placed

variable {asg : Asg} {nodes : List Node} {m : Machine W} {cache : AwsRef → Option Asg}
  (hplaced : ∀ answer ∈ ((lookUpNodes nodes).exec h ((getAsgSize asg).exec h m).mach).val,
    ¬ asg.Misplaces answer)
  (hanswers : ((lookUpNodes nodes).exec h ((getAsgSize asg).exec h m).mach).val =
    nodes.map fun node => .ok (cache ⟨instanceName node⟩))
include hplaced hanswers

theorem Asg.entries_of_placed :
    ∀ ref ∈ nodes.map fun node => (⟨instanceName node⟩ : AwsRef),
      ∃ found, cache ref = some found := by
  intro ref href
  obtain ⟨node, hnode, rfl⟩ := List.mem_map.mp href
  obtain ⟨found, hfound, -⟩ := Asg.found_of_not_misplaces
    (hplaced (.ok (cache ⟨instanceName node⟩)) (hanswers ▸ List.mem_map_of_mem hnode))
  injection hfound with hfound
  exact ⟨found, hfound⟩

/-- With every node placed, only the comparison of the objects is left. -/
theorem Asg.not_objection_iff (hsize : ((getAsgSize asg).exec h m).val.2 = none) :
    ¬ asg.Objection h nodes m ↔
      ∀ ref ∈ nodes.map fun node => (⟨instanceName node⟩ : AwsRef),
        ∀ ref' ∈ nodes.map fun node => (⟨instanceName node⟩ : AwsRef), cache ref = cache ref' := by
  constructor
  · intro hnot ref href ref' href'
    obtain ⟨node, hnode, rfl⟩ := List.mem_map.mp href
    obtain ⟨node', hnode', rfl⟩ := List.mem_map.mp href'
    by_contra hdiffer
    refine hnot (.twoObjects (.ok (cache ⟨instanceName node⟩)) (.ok (cache ⟨instanceName node'⟩))
      (hanswers ▸ List.mem_map_of_mem hnode) (hanswers ▸ List.mem_map_of_mem hnode') ?_)
    exact fun hsame => hdiffer (by injection hsame)
  · rintro hall (⟨err, hfails⟩ | ⟨answer, hanswer, hmisplaced⟩ |
      ⟨answer, answer', hanswer, hanswer', hdiffer⟩)
    · simp [hsize] at hfails
    · exact hplaced answer hanswer hmisplaced
    · rw [hanswers] at hanswer hanswer'
      obtain ⟨node, hnode, rfl⟩ := List.mem_map.mp hanswer
      obtain ⟨node', hnode', rfl⟩ := List.mem_map.mp hanswer'
      exact hdiffer (congrArg _ (hall _ (List.mem_map_of_mem hnode) _
        (List.mem_map_of_mem hnode')))

end Placed

/-- All of `Asg.DeleteNodes`' checks come before its first termination request: with an
objection it fails without one, otherwise it sends them in the order of the nodes, all
with the same flag, up to the first one rejected. -/
theorem Asg.deleteNodes_validates {h : ApiService W} {asg : Asg} {nodes : List Node}
    {m : Machine W} (hkept : (asg.deleteNodes nodes).Writes CacheKept h m) :
    let run := (asg.deleteNodes nodes).exec h m
    (asg.Objection h nodes m → (∃ err, run.val = .error err) ∧ terminations run.log = []) ∧
      (¬ asg.Objection h nodes m →
        ∃ checks requests, run.log = checks ++ requests ∧ terminations checks = [] ∧
          Requests (decide (asg.minSize < ((getAsgSize asg).exec h m).val.1))
            (nodes.map fun node => ⟨instanceName node⟩) requests run.val) := by
  have hsizeLog : terminations ((getAsgSize asg).exec h m).log = [] :=
    terminations_of_lookups (getAsgSize_spec (P := fun _ => True) (everywhere_closed h) asg m
      ⟨trivial, trivial⟩).2
  have hrefsLog := fun m' => terminations_of_lookups
    (Asg.collectRefs_closed (everywhere_closed h) asg nodes m' trivial).2
  simp only [Asg.deleteNodes, Asg.deleteNodes_flag, exec_bind, writes_bind] at hkept ⊢
  obtain ⟨size, err, hsize⟩ : ∃ size err, ((getAsgSize asg).exec h m).val = (size, err) :=
    ⟨_, _, rfl⟩
  rw [hsize] at hkept ⊢
  cases err with
  | some err =>
      have hobjection : asg.Objection h nodes m := .size err (by rw [hsize])
      exact ⟨fun _ => ⟨⟨err, rfl⟩, by simpa using hsizeLog⟩, fun hnot => absurd hobjection hnot⟩
  | none =>
      simp only [exec_bind, writes_bind] at hkept ⊢
      obtain ⟨-, hkeptRefs, hkeptCall⟩ := hkept
      by_cases hbad : ∃ answer ∈ ((lookUpNodes nodes).exec h ((getAsgSize asg).exec h m).mach).val,
          asg.Misplaces answer
      · -- refused by `Belongs`, before anything is compared
        obtain ⟨err, herr⟩ := Asg.collectRefs_misplaced hbad
        obtain ⟨answer, hanswer, hmisplaced⟩ := hbad
        have hobjection : asg.Objection h nodes m := .node answer hanswer hmisplaced
        refine ⟨fun _ => ⟨⟨err, by simp [herr]⟩, ?_⟩, fun hnot => absurd hobjection hnot⟩
        simp [herr, terminations_append, hsizeLog, hrefsLog]
      · have hplaced := fun answer hanswer hmisplaced => hbad ⟨answer, hanswer, hmisplaced⟩
        obtain ⟨hval, hanswers⟩ := Asg.collectRefs_placed hkeptRefs hplaced
        simp only [hval] at hkeptCall ⊢
        have hagree := Asg.not_objection_iff hplaced hanswers (by rw [hsize])
        obtain ⟨hsent, hrefused⟩ := terminateInstances_kept hkeptCall
          (Asg.entries_of_placed hplaced hanswers)
        constructor
        · intro hobjection
          obtain ⟨herr, hnone⟩ := hrefused fun hall => hagree.mpr hall hobjection
          refine ⟨herr, ?_⟩
          simp only [Outcome.after_log, terminations_append, hsizeLog, hrefsLog,
            List.nil_append, hnone]
        · intro hnot
          obtain ⟨checks, requests, hlog, hchecks, hrequests⟩ := hsent (hagree.mp hnot)
          refine ⟨((getAsgSize asg).exec h m).log ++ (((asg.collectRefs nodes).exec h
            ((getAsgSize asg).exec h m).mach).log ++ checks), requests, ?_, ?_, hrequests⟩
          · simp only [Outcome.after_log, hlog, List.append_assoc]
          · simp only [terminations_append, hsizeLog, hrefsLog, hchecks, List.append_nil]

end

/-- A second object registered for the group `g`. -/
def twinG : Asg := { groupG with addr := 7 }

/-- The controller of the sample cluster with the first two instances looked up before,
each filed under the given object. -/
def cachedMachine (first second : Asg) : Machine ClusterState :=
  ⟨{ freshStore [groupG, twinG, groupK] with
      instanceToAsg := fun ref =>
        if ref.name = "i-1" then some first else if ref.name = "i-2" then some second else none },
    sampleState⟩

/-- Two nodes of the sample cluster, found in the cache: both instances are deleted. -/
theorem Asg.deleteNodes_validates_sample :
    let run := (groupG.deleteNodes [node1, node2]).exec Cluster.sample.service
      (cachedMachine groupG groupG)
    run.val = .ok () ∧ terminations run.log = ["i-1", "i-2"] ∧
      ∃ checks requests, run.log = checks ++ requests ∧ terminations checks = [] ∧
        Requests (decide (groupG.minSize < ((getAsgSize groupG).exec Cluster.sample.service
            (cachedMachine groupG groupG)).val.1))
          ([node1, node2].map fun node => ⟨instanceName node⟩) requests run.val := by
  have hnothing : (groupG.deleteNodes [node1, node2]).Writes (fun _ _ => False)
      Cluster.sample.service (cachedMachine groupG groupG) := by
    decide
  have hok : ((groupG.deleteNodes [node1, node2]).exec Cluster.sample.service
      (cachedMachine groupG groupG)).val = .ok () := by
    decide
  obtain ⟨hrefused, hsent⟩ := Asg.deleteNodes_validates (hnothing.mono fun _ _ => False.elim)
  refine ⟨hok, by decide, hsent fun hobjection => ?_⟩
  obtain ⟨⟨err, herr⟩, -⟩ := hrefused hobjection
  simp [hok] at herr

/-- A cloud that reports no groups. -/
def noReports : ApiService (ClusterState × Nat) :=
  Cluster.sample.variant fun w call =>
    match call with
    | .describeAutoScalingGroups _ => some (.error "throttled", w)
    | _ => none

/-- Every node is found in a group of the right id, the cache does not change, and yet
nothing is terminated: the nodes are filed under two objects of the same name, or the
size of the group cannot be read. -/
theorem Asg.deleteNodes_refuses_placed :
    (let m := cachedMachine groupG twinG
     let run := (groupG.deleteNodes [node1, node2]).exec Cluster.sample.service m
     ((lookUpNodes [node1, node2]).exec Cluster.sample.service m).val =
        [.ok (some groupG), .ok (some twinG)] ∧ twinG.id = groupG.id ∧
      (groupG.deleteNodes [node1, node2]).Writes (fun _ _ => False) Cluster.sample.service m ∧
      run.val.isOk = false ∧ terminations run.log = []) ∧
    (let m : Machine (ClusterState × Nat) :=
       ⟨(cachedMachine groupG groupG).store, (cachedMachine groupG groupG).world, 0⟩
     let run := (groupG.deleteNodes [node1, node2]).exec noReports m
     ((lookUpNodes [node1, node2]).exec noReports m).val =
        [.ok (some groupG), .ok (some groupG)] ∧
      (groupG.deleteNodes [node1, node2]).Writes (fun _ _ => False) noReports m ∧
      run.val.isOk = false ∧ terminations run.log = []) := by
  decide

end AutoNodeRepair
