import AutoNodeRepair.Interact.Hoare

/-!
# Ghost history

A property of a whole log (how often something was asked, what came before an
exchange) becomes a property of the outside state once the service writes the
log down. `Service.recorded` does that and changes nothing else
(`exec_recorded`), so a triple about the recording service is a statement about
the log of the original run (`Triple.of_recorded`).
-/

namespace Interact

variable {S W : Type} {E : Sig} {α : Type}

/-- The same service, writing down every exchange. -/
def Service.recorded (h : Service W E) : Service (W × List (Event W E)) E := fun w c =>
  ((h w.1 c).1, ((h w.1 c).2, w.2 ++ [h.event w.1 c]))

/-- An exchange as the recording service shows it, `past` having been before it. -/
def Event.recorded (past : List (Event W E)) (e : Event W E) :
    Event (W × List (Event W E)) E :=
  ⟨e.call, e.ans, (e.before, past), (e.after, past ++ [e])⟩

/-- A log as the recording service shows it. -/
def recordedLog : List (Event W E) → List (Event W E) → List (Event (W × List (Event W E)) E)
  | _, [] => []
  | past, e :: rest => e.recorded past :: recordedLog (past ++ [e]) rest

theorem mem_recordedLog (past earlier : List (Event W E)) (e : Event W E)
    (rest : List (Event W E)) :
    e.recorded (past ++ earlier) ∈ recordedLog past (earlier ++ e :: rest) := by
  induction earlier generalizing past with
  | nil => simp [recordedLog]
  | cons first earlier ih =>
      refine List.mem_cons_of_mem _ ?_
      have happend : past ++ first :: earlier = past ++ [first] ++ earlier := by simp
      rw [happend]
      exact ih (past ++ [first])

/-- Recording changes nothing but the record. -/
theorem exec_recorded (h : Service W E) (p : Prog S E α) (m : Mach S W)
    (past : List (Event W E)) :
    p.exec h.recorded ⟨m.store, (m.world, past)⟩ =
      ⟨(p.exec h m).val, recordedLog past (p.exec h m).log,
        ⟨(p.exec h m).mach.store, ((p.exec h m).mach.world, past ++ (p.exec h m).log)⟩⟩ := by
  induction p generalizing m past with
  | ret a => simp [Prog.exec, recordedLog]
  | load k ih => exact ih m.store m past
  | save s k ih => exact ih { m with store := s } past
  | ask c k ih =>
      have hrest := ih (h m.world c).1 { m with world := (h m.world c).2 }
        (past ++ [h.event m.world c])
      have hcons : ∀ log : List (Event W E),
          past ++ [h.event m.world c] ++ log = past ++ h.event m.world c :: log := by simp
      simp only [hcons] at hrest
      simp only [Prog.exec]
      rw [show (h.recorded (m.world, past) c).1 = (h m.world c).1 from rfl,
        show (h.recorded (m.world, past) c).2 =
          ((h m.world c).2, past ++ [h.event m.world c]) from rfl, hrest]
      rfl

/-- A triple about the recording service, read as a statement about a run. -/
theorem Triple.of_recorded {h : Service W E} {P : Mach S (W × List (Event W E)) → Prop}
    {Ok : Event (W × List (Event W E)) E → Prop} {p : Prog S E α}
    {Q : α → Mach S (W × List (Event W E)) → Prop} (ht : Triple h.recorded P Ok p Q)
    (m : Mach S W) (hm : P ⟨m.store, (m.world, [])⟩) :
    Q (p.exec h m).val
        ⟨(p.exec h m).mach.store, ((p.exec h m).mach.world, (p.exec h m).log)⟩ ∧
      ∀ past e rest, (p.exec h m).log = past ++ e :: rest → Ok (e.recorded past) := by
  obtain ⟨hq, hlog⟩ := ht _ hm
  rw [exec_recorded] at hq hlog
  refine ⟨by simpa using hq, ?_⟩
  intro past e rest hsplit
  refine hlog _ ?_
  rw [hsplit]
  simpa using mem_recordedLog [] past e rest

end Interact
