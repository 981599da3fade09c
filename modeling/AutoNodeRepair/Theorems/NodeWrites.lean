import AutoNodeRepair.Interact.Replay
import AutoNodeRepair.Theorems.DeletionProtocol

/-!
# What is written to a node

The controller writes nodes in two places, to set the taint and to release it. Whatever
the API server answers and whoever else writes there, each node written is one that was
fetched before, with nothing changed but the taint; and the time in the taint is that of
the clock when it was set, as `GetToBeDeletedTime` reads it (`rounds_write_nodes`).
-/

namespace AutoNodeRepair

open Interact

/-! ## The time of the taint -/

/-- Go keeps the seconds in 64 bits. -/
def Datable (t : Time) : Prop := -2 ^ 63 ≤ unix t ∧ unix t < 2 ^ 63

/-- The time is cut to whole seconds. -/
theorem timeUnix_unix (t : Time) : timeUnix (unix t) = t / second * second := by
  simp [timeUnix, unix]

/-- A mark reads back as the time it was set. -/
theorem getToBeDeletedTime_marked {node : Node} (hnode : hasToBeDeletedTaint node = false)
    {t : Time} (ht : Datable t) :
    getToBeDeletedTime (node.marked t) = .ok (some (t / second * second)) := by
  have hnone : node.taints.find? (fun taint => taint.key == toBeDeletedTaint) = none := by
    simpa [hasToBeDeletedTaint] using hnode
  obtain ⟨read, hread, hvalue⟩ := Text.atoi_toString_of_fits ht
  have hfound : (node.marked t).taints.find? (fun taint => taint.key == toBeDeletedTaint) =
      some ⟨toBeDeletedTaint, toString (unix t), "NoSchedule"⟩ := by
    rw [Node.marked, List.find?_append, hnone]
    simp
  simp only [getToBeDeletedTime, hfound, hread, hvalue, timeUnix_unix]

theorem getToBeDeletedTime_released (node : Node) :
    getToBeDeletedTime node.released = .ok none := by
  have hnone : node.released.taints.find? (fun taint => taint.key == toBeDeletedTaint) = none := by
    simp [Node.released]
  simp only [getToBeDeletedTime, hnone]

/-! ## What a write rests on -/

/-- A node is written as it was fetched, but for the taint. -/
def WrittenFrom (past : List (Exchange Api)) (node : Node) : Prop :=
  ∃ name fresh, ⟨.getNode name, .ok (some fresh)⟩ ∈ past ∧
    ((hasToBeDeletedTaint fresh = false ∧ ∃ t, ⟨.now, t⟩ ∈ past ∧ node = fresh.marked t ∧
        (Datable t → getToBeDeletedTime node = .ok (some (t / second * second)))) ∨
      (hasToBeDeletedTaint fresh = true ∧ node = fresh.released ∧
        getToBeDeletedTime node = .ok none))

namespace DeletionPhase

variable {phase phase' : DeletionPhase} {past : List (Exchange Api)}

/-- What the controller has heard where it is. -/
def Heard (past : List (Exchange Api)) : DeletionPhase → Prop
  | .untainted name fresh =>
      ⟨.getNode name, .ok (some fresh)⟩ ∈ past ∧ hasToBeDeletedTaint fresh = false
  | .marking name fresh t =>
      ⟨.getNode name, .ok (some fresh)⟩ ∈ past ∧ hasToBeDeletedTaint fresh = false ∧
        ⟨.now, t⟩ ∈ past
  | .releasing name fresh =>
      ⟨.getNode name, .ok (some fresh)⟩ ∈ past ∧ hasToBeDeletedTaint fresh = true
  | _ => True

theorem Heard.append (hphase : phase.Heard past) (more : List (Exchange Api)) :
    phase.Heard (past ++ more) := by
  cases phase with
  | untainted name fresh => exact ⟨List.mem_append_left _ hphase.1, hphase.2⟩
  | marking name fresh t =>
      exact ⟨List.mem_append_left _ hphase.1, hphase.2.1, List.mem_append_left _ hphase.2.2⟩
  | releasing name fresh => exact ⟨List.mem_append_left _ hphase.1, hphase.2⟩
  | _ => trivial

theorem Heard.tell (hphase : phase.Heard past) (t : Time) :
    (phase.tell t).Heard (past ++ [⟨.now, t⟩]) := by
  cases phase with
  | untainted name fresh =>
      exact ⟨List.mem_append_left _ hphase.1, hphase.2, List.mem_append_right _ (by simp)⟩
  | _ => exact hphase.append _

/-- A write is accepted only as the phase has it. -/
theorem Heard.writes (hphase : phase.Heard past) {node : Node} {r : Except KubeError Unit}
    (hstep : phase.update node r = some phase') : WrittenFrom past node := by
  rcases update_cases hstep with ⟨name, fresh, t, rfl, rfl, -⟩ | ⟨name, fresh, rfl, rfl, -⟩
  · obtain ⟨hfetched, hnone, hclock⟩ := hphase
    exact ⟨name, fresh, hfetched, .inl ⟨hnone, t, hclock, rfl, getToBeDeletedTime_marked hnone⟩⟩
  · obtain ⟨hfetched, htaint⟩ := hphase
    exact ⟨name, fresh, hfetched, .inr ⟨htaint, rfl, getToBeDeletedTime_released fresh⟩⟩

theorem Heard.step (hphase : phase.Heard past) {c : ApiCall} {r : c.Ans}
    (hstep : phase.step c r = some phase') : phase'.Heard (past ++ [⟨c, r⟩]) := by
  cases c with
  | now =>
      cases Option.some.inj hstep
      exact hphase.tell r
  | getNode name =>
      have hlast : ∀ x : Exchange Api, x ∈ past ++ [x] := by simp
      rcases fetch_cases hstep with ⟨-, rfl | rfl | ⟨fresh, rfl, htaint, rfl⟩⟩ |
        ⟨-, rfl | ⟨fresh, rfl, htaint, rfl⟩⟩
      · trivial
      · trivial
      · exact ⟨hlast _, htaint⟩
      · trivial
      · exact ⟨hlast _, htaint⟩
  | updateNode node =>
      rcases update_cases hstep with ⟨-, -, -, -, -, rfl | rfl⟩ | ⟨-, -, -, -, rfl⟩ <;> trivial
  | evict pod =>
      obtain ⟨name, -, rfl⟩ := evict_cases hstep
      trivial
  | terminateInstance id dec =>
      obtain ⟨name, rfl, ⟨-, rfl⟩ | ⟨-, rfl⟩⟩ := terminate_cases hstep <;> trivial
  | registerScaleDown group name t t' =>
      obtain ⟨-, rfl⟩ := register_cases hstep
      trivial
  | setDesiredCapacity name size =>
      obtain ⟨-, rfl⟩ := resize_cases hstep
      trivial
  | _ =>
      cases Option.some.inj hstep
      exact hphase.append _

/-- And so along a log that the protocol accepts. -/
theorem Heard.run {W : Type} :
    ∀ (log : List (ApiEvent W)) (phase phase' : DeletionPhase) (past : List (Exchange Api)),
    phase.Heard past → deletionMonitor.run phase log = some phase' →
      phase'.Heard (past ++ log.map Event.exchange) := by
  intro log
  induction log with
  | nil =>
      intro phase phase' past hphase hrun
      cases Option.some.inj hrun
      exact hphase.append []
  | cons e rest ih =>
      intro phase phase' past hphase hrun
      obtain ⟨next, hstep, hrest⟩ := Option.bind_eq_some_iff.mp hrun
      have hnext := ih next phase' _ (hphase.step hstep) hrest
      simpa [Event.exchange] using hnext

end DeletionPhase

/-! ## The main loop -/

/-- All the nodes written in a log are written from what was heard before. -/
def WritesTaintsOnly {W : Type} (log : List (ApiEvent W)) : Prop :=
  ∀ past node r w w' rest, log = past ++ ⟨.updateNode node, r, w, w'⟩ :: rest →
    WrittenFrom (past.map Event.exchange) node

/-- **Nothing but the taint is written.** In every run of the main loop, whatever the API
server answers, each node written was fetched before and has only its taint changed: it is
released, or it is marked with the time of the clock, cut to whole seconds. -/
theorem rounds_write_nodes {W : Type} (h : ApiService W) (a : StaticAutorepair) (fuel : Nat)
    (scanInterval repairPeriod : Duration) (k : Nat) (m : Machine W) :
    WritesTaintsOnly ((a.rounds fuel scanInterval repairPeriod k).exec h m).log := by
  intro past node r w w' rest hlog
  obtain ⟨phase, hrun, -⟩ :=
    (deletes_idle.rounds a fuel scanInterval repairPeriod k).accepted h m
  rw [hlog, Monitor.run_append] at hrun
  obtain ⟨mid, hpast, hrest⟩ := Option.bind_eq_some_iff.mp hrun
  obtain ⟨next, hstep, -⟩ := Option.bind_eq_some_iff.mp hrest
  have hheard : mid.Heard ([] ++ past.map Event.exchange) :=
    DeletionPhase.Heard.run past .idle mid [] trivial hpast
  exact hheard.writes hstep

end AutoNodeRepair
