import AutoNodeRepair.Interact.Replay
import AutoNodeRepair.Logic.Capacity

/-!
# Every request to AWS has its reason in the log

AWS may be anything here, and may change between any two questions. What the controller
asks of it is grounded in what it was told before: a resize is of a registered group, to a
size above one that AWS gave for the group and not above its maximum; a termination is of
an instance that AWS has listed in a registered group, and keeps the size of the group
only if AWS gave one that is not above the minimum (`rounds_grounded`).

Of a service as such this is a matter of the states it may get to (`kept_grounded`). The
service that repeats a log gets to no other than those of the log.
-/

namespace AutoNodeRepair

open Interact

/-- What a request to AWS rests on, `told` being what AWS has said of its groups. -/
def Grounded (asgs : List Asg) (told : String → Group → Prop) : ApiCall → Prop
  | .setDesiredCapacity name size =>
      ∃ asg ∈ asgs, asg.name = name ∧ size ≤ asg.maxSize ∧
        ∃ g, told name g ∧ g.desiredCapacity < size
  | .terminateInstance id dec =>
      ∃ asg ∈ asgs,
        (∃ g, told asg.name g ∧ ∃ inst ∈ g.instances, inst.instanceId = id) ∧
        ∃ g, told asg.name g ∧ dec = !decide (g.desiredCapacity ≤ asg.minSize)
  | _ => True

theorem Grounded.of_not_resizes {asgs : List Asg} {told : String → Group → Prop} {c : ApiCall}
    (hc : c.resizes = false) : Grounded asgs told c := by
  cases c <;> trivial

theorem Grounded.mono {asgs : List Asg} {told told' : String → Group → Prop} {c : ApiCall}
    (hc : Grounded asgs told c)
    (htold : c.resizes = true → ∀ name g, told name g → told' name g) :
    Grounded asgs told' c := by
  cases c with
  | setDesiredCapacity name size =>
      obtain ⟨asg, hasg, hname, hmax, g, hg, hless⟩ := hc
      exact ⟨asg, hasg, hname, hmax, g, htold rfl _ g hg, hless⟩
  | terminateInstance id dec =>
      obtain ⟨asg, hasg, ⟨g, hg, hlisted⟩, g', hg', hdec⟩ := hc
      exact ⟨asg, hasg, ⟨g, htold rfl _ g hg, hlisted⟩, g', htold rfl _ g' hg', hdec⟩
  | _ => trivial

section

variable {W : Type} {h : ApiService W} {Wd : W → Prop} {asgs : List Asg}

theorem LookupEvent.grounded {told : String → Group → Prop} {e : ApiEvent W}
    (he : LookupEvent h Wd e) : Grounded asgs told e.call := by
  obtain ⟨w, c, -, hc, rfl⟩ := he
  exact Grounded.of_not_resizes (ApiCall.resizes_of_quiet (ApiCall.quiet_of_looksUp hc))

/-- All that the controller does is grounded in what the service may say. -/
theorem kept_grounded (asgs : List Asg) (hclosed : ∀ w, Wd w → ∀ c, Wd (h w c).2) :
    Kept h (fun m => CacheInv asgs (ListedUnder h Wd asgs) (fun _ => True) m.store ∧ Wd m.world)
      (fun e => Grounded asgs (Reports h Wd) e.call) (· ∈ asgs) (fun _ => True) := by
  have hlookup : LookupClosed h Wd := fun w hw c _ => hclosed w hw c
  have hfind : ∀ ref, Triple h (fun m => CacheInv asgs (ListedUnder h Wd asgs) (fun _ => True)
      m.store ∧ Wd m.world) (LookupEvent h Wd) (findForInstance ref) _ := fun ref =>
    findForInstance_spec hlookup (fun _ _ hlisted => hlisted) (fun _ _ => trivial) ref
  refine ⟨⟨drains_of_frame ?_ ?_, ?_, ?_⟩, ?_, ?_⟩
  · intro c hc m hm
    exact ⟨⟨hm.1, hclosed _ hm.2 c⟩, Grounded.of_not_resizes hc⟩
  · intro ref m hm
    exact ⟨(hfind ref m hm).1.1, fun e he => ((hfind ref m hm).2 e he).grounded⟩
  · intro ref m hm asg hval
    exact ((hfind ref m hm).1.2.1 asg hval).1
  · intro asg node hasg _ m hm
    obtain ⟨⟨hcache, hend⟩, hlog⟩ := Asg.deleteNodes_single hlookup
      (fun _ _ hlisted => hlisted) (fun _ _ => trivial) asg node m hm
    refine ⟨⟨hcache, ?_⟩, ?_⟩
    · rcases hend with ⟨hw, -⟩ | ⟨w, ref, dec, hterm, hw, -⟩
      · exact hw
      · exact hw ▸ hclosed w hterm.world _
    · intro e he
      rcases hlog e he with hlook | ⟨w, ref, dec, hterm, rfl⟩
      · exact hlook.grounded
      · obtain ⟨target, ⟨-, g, hreport, hlisted⟩, hname⟩ := hterm.owned
        exact ⟨asg, hasg, ⟨g, hname ▸ hreport, hlisted⟩, hterm.flag⟩
  · intro m hm asg hasg
    exact hm.1.registered ▸ hasg
  · intro asg delta hasg m hm
    obtain ⟨⟨hcache, hend⟩, hlog⟩ := Asg.increaseSize_spec hlookup asg delta m hm
    refine ⟨⟨hcache, ?_⟩, ?_⟩
    · rcases hend with ⟨hw, -⟩ | ⟨w, size, hresize, hw, -⟩
      · exact hw
      · exact hw ▸ hclosed w hresize.world _
    · intro e he
      rcases hlog e he with hlook | ⟨w, size, hresize, rfl⟩
      · exact hlook.grounded
      · obtain ⟨g, hreport, hsize⟩ := hresize.reported
        have hless : g.desiredCapacity < size + delta := by
          have := hresize.positive
          omega
        exact ⟨asg, hasg, rfl, hresize.fits, g, hreport, hless⟩

end

/-! ## The log instead of the states -/

/-- AWS has given `g` as the group `name` in one of the exchanges. -/
def Told (past : List (Exchange Api)) (name : String) (g : Group) : Prop :=
  ∃ rest, ⟨.describeAutoScalingGroups name, .ok (g :: rest)⟩ ∈ past

/-- No news: among others, no group. -/
def noAnswer : (c : ApiCall) → ApiCall.Ans c
  | .now => (0 : Int)
  | .sleep _ => ()
  | .hourElapsed => false
  | .schedule _ => none
  | .describeAutoScalingGroups _ => .error ""
  | .setDesiredCapacity .. => .error ""
  | .terminateInstance .. => .error ""
  | .listNodes _ => .error { msg := "" }
  | .listScheduledPods => ([], some { msg := "" })
  | .listPodDisruptionBudgets => ([], some { msg := "" })
  | .getNode _ => .error { msg := "" }
  | .updateNode _ => .error { msg := "" }
  | .evict _ => .error { msg := "" }
  | .getPod .. => .error { msg := "" }
  | .getController .. => .error { msg := "" }
  | .registerScaleDown .. => ()

theorem told_of_reports {log : List (Exchange Api)} {name : String} {g : Group}
    (hreports : Reports (Service.replay noAnswer) (Service.Reachable (Service.replay noAnswer) log)
      name g) : Told log name g := by
  obtain ⟨later, rest, hlater, hans⟩ := hreports
  have hsaid := hlater.said (c := .describeAutoScalingGroups name) (by simp [hans, noAnswer])
  rw [hans] at hsaid
  exact ⟨rest, hsaid⟩

/-- In every run of rounds that starts with empty caches, against any outside, each request
is grounded in the exchanges before it. -/
theorem rounds_grounded {W : Type} (h : ApiService W) (a : StaticAutorepair) (fuel : Nat)
    (scanInterval repairPeriod : Duration) (k : Nat) {s : AutoScalingGroups}
    (hpositive : ∀ ref, s.instanceToAsg ref = none) (w : W)
    {past rest : List (ApiEvent W)} {e : ApiEvent W}
    (hlog : ((a.rounds fuel scanInterval repairPeriod k).exec h ⟨s, w⟩).log = past ++ e :: rest) :
    Grounded s.registeredAsgs (Told (past.map Event.exchange)) e.call := by
  have hreplayed : ∀ log, ∀ e ∈ ((a.rounds fuel scanInterval repairPeriod k).exec
      (Service.replay noAnswer) ⟨s, log⟩).log,
      Grounded s.registeredAsgs (Told log) e.exchange.1 := by
    intro log e he
    have hkept := kept_grounded s.registeredAsgs fun w
      (hw : Service.Reachable (Service.replay noAnswer) log w) c => hw.step c
    have hs : CacheInv s.registeredAsgs (ListedUnder (Service.replay noAnswer)
        (Service.Reachable (Service.replay noAnswer) log) s.registeredAsgs) (fun _ => True) s :=
      ⟨rfl, fun ref asg hentry => by simp [hpositive] at hentry, fun _ _ => trivial⟩
    exact ((hkept.rounds a fuel scanInterval repairPeriod k ⟨s, log⟩ ⟨hs, .refl⟩).2 e he).mono
      fun _ _ _ hreports => told_of_reports hreports
  have hself := exec_replayed (fun log x => Grounded s.registeredAsgs (Told log) x.1)
    hreplayed h w hlog
  refine hself.mono ?_
  -- the request itself tells nothing
  rintro hresizes name g ⟨more, hmem⟩
  simp only [List.map_append, List.map_cons, List.map_nil, List.mem_append,
    List.mem_singleton] at hmem
  rcases hmem with hpast | hitself
  · exact ⟨more, hpast⟩
  · rw [← hitself] at hresizes
    simp [ApiCall.resizes] at hresizes

end AutoNodeRepair
