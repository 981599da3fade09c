import AutoNodeRepair.Interact.History
import AutoNodeRepair.Logic.GroupOps
import AutoNodeRepair.Logic.Kept

/-!
# Desired capacities

The autoscaling service as a table of desired capacities written by this
controller only (`AwsLaws`): a report gives the true size, an accepted resize
sets it, an accepted termination lowers it exactly when asked to decrement, and
a failed request changes nothing. `Grown` and `Shrunk` say what the two group
operations can do to the table.
-/

namespace AutoNodeRepair

open Interact

/-- The questions that change a desired capacity when they succeed. -/
def ApiCall.resizes : ApiCall → Bool
  | .setDesiredCapacity .. | .terminateInstance .. => true
  | _ => false

theorem ApiCall.resizes_of_quiet {c : ApiCall} (hc : c.quiet = true) : c.resizes = false := by
  cases c <;> simp_all [quiet, resizes]

/-- Everything up to the terminations keeps what the questions without a resize
and the cache lookup keep. -/
theorem drains_of_frame {W : Type} {h : ApiService W} {Inv : Machine W → Prop}
    {Ok : ApiEvent W → Prop} {nodes : Node → Prop}
    (hframe : ∀ c : ApiCall, c.resizes = false → ∀ m, Inv m →
      Inv { m with world := (h m.world c).2 } ∧ Ok (Service.event h m.world c))
    (hfind : ∀ ref, Keeps h Inv Ok (findForInstance ref)) : Drains h Inv Ok nodes :=
  Looks.drains ⟨fun c hc => hframe c (ApiCall.resizes_of_quiet hc), hfind⟩
    (fun node _ => Keeps.call (hframe (.getNode node.name) rfl))
    (fun n => Keeps.call (hframe (.updateNode n) rfl))
    (fun pod => Keeps.call (hframe (.evict pod) rfl))

/-- The instance a question asks to terminate, and its decrement flag. -/
def ApiCall.termination : ApiCall → Option (String × Bool)
  | .terminateInstance id dec => some (id, dec)
  | _ => none

theorem ApiCall.termination_eq_some {c : ApiCall} {id : String} {dec : Bool}
    (hc : c.termination = some (id, dec)) : c = .terminateInstance id dec := by
  cases c with
  | terminateInstance id' dec' =>
      simp only [termination, Option.some.injEq, Prod.mk.injEq] at hc
      rw [hc.1, hc.2]
  | _ => simp [termination] at hc

/-- The autoscaling service, as long as nobody else writes to it. `desired` is
its table of desired capacities, `owner` the group an instance belongs to. -/
structure AwsLaws {W : Type} (h : ApiService W) (desired : W → String → Int)
    (owner : String → Option String) : Prop where
  describe : ∀ w name g rest, (h w (.describeAutoScalingGroups name)).1 = .ok (g :: rest) →
    g.desiredCapacity = desired w name ∧ ∀ inst ∈ g.instances, owner inst.instanceId = some name
  set_ok : ∀ w name size, (h w (.setDesiredCapacity name size)).1 = .ok () →
    desired (h w (.setDesiredCapacity name size)).2 = Function.update (desired w) name size
  set_error : ∀ w name size err, (h w (.setDesiredCapacity name size)).1 = .error err →
    desired (h w (.setDesiredCapacity name size)).2 = desired w
  terminate_ok : ∀ w id dec name, owner id = some name →
    (h w (.terminateInstance id dec)).1 = .ok () →
    desired (h w (.terminateInstance id dec)).2 =
      if dec then Function.update (desired w) name (desired w name - 1) else desired w
  terminate_error : ∀ w id dec err, (h w (.terminateInstance id dec)).1 = .error err →
    desired (h w (.terminateInstance id dec)).2 = desired w
  other : ∀ w c, ApiCall.resizes c = false → desired (h w c).2 = desired w

/-- The instance a provider id names. -/
def instanceName (node : Node) : String :=
  match awsRefFromProviderId node.providerID with
  | .ok ref => ref.name
  | .error _ => ""

/-- A positive cache entry: a registered group owning the instance. -/
def OwnedBy (asgs : List Asg) (owner : String → Option String) (ref : AwsRef) (asg : Asg) :
    Prop :=
  asg ∈ asgs ∧ owner ref.name = some asg.name

/-- What `Asg.IncreaseSize(delta)` can do to the table. -/
def Grown (asg : Asg) (delta : Int) (before after : String → Int) : Prop :=
  after = before ∨
    (0 < delta ∧ before asg.name + delta ≤ asg.maxSize ∧
      after = Function.update before asg.name (before asg.name + delta))

/-- What `Asg.DeleteNodes` on one node can do to the table. -/
def Shrunk (asg : Asg) (before after : String → Int) : Prop :=
  after = before ∨
    (asg.minSize < before asg.name ∧
      after = Function.update before asg.name (before asg.name - 1))

/-- The size of `asg` is within its bounds. -/
def InBounds (asg : Asg) (table : String → Int) : Prop :=
  asg.minSize ≤ table asg.name ∧ table asg.name ≤ asg.maxSize

section

variable {asg b : Asg} {before after : String → Int}

/-- Growing any group keeps `asg` in bounds, if its name has one object only. -/
theorem InBounds.of_grown {delta : Int} (hsame : b.name = asg.name → b = asg)
    (hb : InBounds asg before) (hg : Grown b delta before after) : InBounds asg after := by
  obtain rfl | ⟨hpos, hfits, rfl⟩ := hg
  · exact hb
  · by_cases hname : b.name = asg.name
    · obtain rfl := hsame hname
      have hmin := hb.1
      simp only [InBounds, Function.update_self]
      omega
    · have hne : asg.name ≠ b.name := fun heq => hname heq.symm
      simpa [InBounds, Function.update_of_ne hne] using hb

theorem InBounds.of_shrunk (hsame : b.name = asg.name → b = asg)
    (hb : InBounds asg before) (hs : Shrunk b before after) : InBounds asg after := by
  obtain rfl | ⟨hmin, rfl⟩ := hs
  · exact hb
  · by_cases hname : b.name = asg.name
    · obtain rfl := hsame hname
      have hmax := hb.2
      simp only [InBounds, Function.update_self]
      omega
    · have hne : asg.name ≠ b.name := fun heq => hname heq.symm
      simpa [InBounds, Function.update_of_ne hne] using hb

end

namespace AwsLaws

variable {W : Type} {h : ApiService W} {desired : W → String → Int}
  {owner : String → Option String} {asgs : List Asg} {neg : AwsRef → Prop}
  {table : String → Int}

/-- Writing the exchanges down changes nothing about the table. -/
theorem recorded (laws : AwsLaws h desired owner) :
    AwsLaws (Service.recorded h) (fun w => desired w.1) owner where
  describe := fun w => laws.describe w.1
  set_ok := fun w => laws.set_ok w.1
  set_error := fun w => laws.set_error w.1
  terminate_ok := fun w => laws.terminate_ok w.1
  terminate_error := fun w => laws.terminate_error w.1
  other := fun w => laws.other w.1

theorem lookupClosed (laws : AwsLaws h desired owner) (table : String → Int) :
    LookupClosed h fun w => desired w = table := by
  intro w hw c hc
  rw [laws.other w c (ApiCall.resizes_of_quiet (ApiCall.quiet_of_looksUp hc))]
  exact hw

theorem size_of_reports (laws : AwsLaws h desired owner) {name : String} {g : Group}
    (hg : Reports h (fun w => desired w = table) name g) :
    g.desiredCapacity = table name := by
  obtain ⟨w, rest, rfl, hans⟩ := hg
  exact (laws.describe w name g rest hans).1

theorem ownedBy_of_listed (laws : AwsLaws h desired owner) {Wd : W → Prop} (ref : AwsRef)
    (asg : Asg) (hlisted : ListedUnder h Wd asgs ref asg) :
    OwnedBy asgs owner ref asg := by
  obtain ⟨hmem, g, ⟨w, rest, -, hans⟩, inst, hinst, hid⟩ := hlisted
  exact ⟨hmem, hid ▸ (laws.describe w _ g rest hans).2 inst hinst⟩

/-- `SetDesiredCapacity` with the sum `IncreaseSize` computed. -/
theorem grown_set (laws : AwsLaws h desired owner) {asg : Asg} {delta size : Int} {w : W}
    (hr : Resize h (fun w => desired w = table) asg delta w size) :
    Grown asg delta table (desired (h w (.setDesiredCapacity asg.name (size + delta))).2) := by
  obtain ⟨g, hg, hsize⟩ := hr.reported
  rw [laws.size_of_reports hg] at hsize
  subst hsize
  cases hans : (h w (.setDesiredCapacity asg.name (table asg.name + delta))).1 with
  | error err =>
      rw [laws.set_error w _ _ err hans, hr.world]
      exact .inl rfl
  | ok _ =>
      rw [laws.set_ok w _ _ hans, hr.world]
      exact .inr ⟨hr.positive, hr.fits, rfl⟩

/-- `TerminateInstanceInAutoScalingGroup` with the flag `DeleteNodes` computed. -/
theorem shrunk_terminate (laws : AwsLaws h desired owner) {asg : Asg} {node : Node} {w : W}
    {ref : AwsRef} {dec : Bool}
    (ht : Termination h (fun w => desired w = table) (OwnedBy asgs owner) asg node w ref dec) :
    Shrunk asg table (desired (h w (.terminateInstance ref.name dec)).2) := by
  obtain ⟨g, hg, hdec⟩ := ht.flag
  rw [laws.size_of_reports hg] at hdec
  obtain ⟨target, ⟨-, howner⟩, hname⟩ := ht.owned
  rw [hname] at howner
  cases hans : (h w (.terminateInstance ref.name dec)).1 with
  | error err =>
      rw [laws.terminate_error w _ _ err hans, ht.world]
      exact .inl rfl
  | ok _ =>
      rw [laws.terminate_ok w _ _ _ howner hans, ht.world]
      by_cases hmin : table asg.name ≤ asg.minSize
      · simp [hdec, hmin, Shrunk]
      · simp only [hdec, hmin, decide_false, Bool.not_false, if_true]
        exact .inr ⟨by omega, rfl⟩

/-- `Asg.IncreaseSize` under the laws of the service. -/
theorem increaseSize (laws : AwsLaws h desired owner) (asg : Asg) (delta : Int) :
    Triple h (fun m => CacheInv asgs (OwnedBy asgs owner) neg m.store ∧ desired m.world = table)
      (fun e => Grown asg delta table (desired e.after)) (asg.increaseSize delta)
      fun _ m => CacheInv asgs (OwnedBy asgs owner) neg m.store ∧
        Grown asg delta table (desired m.world) := by
  refine Triple.weaken_events (Triple.conseq (Asg.increaseSize_spec (laws.lookupClosed table)
    asg delta)
    (fun _ hm => hm) ?_) ?_
  · rintro r m ⟨hcache, ⟨hworld, -⟩ | ⟨w, size, hr, hworld, -⟩⟩
    · exact ⟨hcache, .inl hworld⟩
    · exact ⟨hcache, hworld ▸ laws.grown_set hr⟩
  · rintro e (⟨w, c, hw, hc, rfl⟩ | ⟨w, size, hr, rfl⟩)
    · exact .inl (laws.lookupClosed table w hw c hc)
    · exact laws.grown_set hr

/-- `Asg.DeleteNodes` on one node under the laws of the service. -/
theorem deleteNodes (laws : AwsLaws h desired owner)
    (hneg : ∀ ref, NowhereListed h (fun w => desired w = table) asgs ref → neg ref)
    (asg : Asg) (node : Node) :
    Triple h (fun m => CacheInv asgs (OwnedBy asgs owner) neg m.store ∧ desired m.world = table)
      (fun e => Shrunk asg table (desired e.after)) (asg.deleteNodes [node])
      fun _ m => CacheInv asgs (OwnedBy asgs owner) neg m.store ∧
        Shrunk asg table (desired m.world) := by
  refine Triple.weaken_events (Triple.conseq (Asg.deleteNodes_single (laws.lookupClosed table)
    laws.ownedBy_of_listed hneg asg node) (fun _ hm => hm) ?_) ?_
  · rintro r m ⟨hcache, ⟨hworld, -⟩ | ⟨w, ref, dec, ht, hworld, -⟩⟩
    · exact ⟨hcache, .inl hworld⟩
    · exact ⟨hcache, hworld ▸ laws.shrunk_terminate ht⟩
  · rintro e (⟨w, c, hw, hc, rfl⟩ | ⟨w, ref, dec, ht, rfl⟩)
    · exact .inl (laws.lookupClosed table w hw c hc)
    · exact laws.shrunk_terminate ht

end AwsLaws

end AutoNodeRepair
