import AutoNodeRepair.Interact.Hoare
import Mathlib.Data.List.Infix

/-!
# Replay

What a program knows of the outside is what it was told. A result about every service says
what the service *may* say in some state; applied to the service that only repeats a given
log (`Service.replay`) it says what was in fact said. And since the log may be cut off
anywhere, it was said before (`exec_replayed`).
-/

namespace Interact

variable {S W : Type} {E : Sig} {α : Type}

/-- A question and its answer. -/
abbrev Exchange (E : Sig) := Σ c : E.Call, E.Ans c

/-- An event without the states around it. -/
def Event.exchange (e : Event W E) : Exchange E := ⟨e.call, e.ans⟩

open Classical in
/-- The service that repeats a log, and once it is asked something else, or more, has
nothing to say. -/
noncomputable def Service.replay (silence : (c : E.Call) → E.Ans c) :
    Service (List (Exchange E)) E
  | [], c => (silence c, [])
  | said :: later, c => if hc : said.1 = c then (hc ▸ said.2, later) else (silence c, [])

variable {silence : (c : E.Call) → E.Ans c}

theorem replay_cons (c : E.Call) (r : E.Ans c) (later : List (Exchange E)) :
    Service.replay silence (⟨c, r⟩ :: later) c = (r, later) := by
  simp [Service.replay]

theorem replay_suffix (log : List (Exchange E)) (c : E.Call) :
    (Service.replay silence log c).2 <:+ log := by
  cases log with
  | nil => exact List.suffix_rfl
  | cons said later =>
      obtain ⟨c', r⟩ := said
      by_cases hc : c' = c
      · subst hc
        rw [replay_cons]
        exact List.suffix_cons _ later
      · simp [Service.replay, hc]

theorem replay_said {log : List (Exchange E)} {c : E.Call}
    (hsaid : (Service.replay silence log c).1 ≠ silence c) :
    ⟨c, (Service.replay silence log c).1⟩ ∈ log := by
  cases log with
  | nil => exact absurd rfl hsaid
  | cons said later =>
      obtain ⟨c', r⟩ := said
      by_cases hc : c' = c
      · subst hc
        rw [replay_cons]
        exact List.mem_cons_self
      · simp [Service.replay, hc] at hsaid

/-- Whatever the service may come to say is in the log. -/
theorem Service.Reachable.said {log later : List (Exchange E)}
    (hlater : Service.Reachable (Service.replay silence) log later) {c : E.Call}
    (hsaid : (Service.replay silence later c).1 ≠ silence c) :
    ⟨c, (Service.replay silence later c).1⟩ ∈ log := by
  have hsuffix : later <:+ log := by
    clear hsaid
    induction hlater with
    | refl => exact List.suffix_rfl
    | step _ c ih => exact (replay_suffix _ c).trans ih
  exact hsuffix.subset (replay_said hsaid)

/-- A run against the repetition of what was said in another one begins like that. -/
theorem exec_replay (silence : (c : E.Call) → E.Ans c) (h : Service W E) (p : Prog S E α)
    (m : Mach S W) {past rest : List (Event W E)} (hlog : (p.exec h m).log = past ++ rest) :
    past.map Event.exchange <+:
      (p.exec (Service.replay silence) ⟨m.store, past.map Event.exchange⟩).log.map
        Event.exchange := by
  induction p generalizing m past with
  | ret a =>
      obtain ⟨rfl, -⟩ := List.append_eq_nil_iff.mp hlog.symm
      exact List.nil_prefix
  | load k ih => exact ih m.store m hlog
  | save s k ih => exact ih { m with store := s } hlog
  | ask c k ih =>
      cases past with
      | nil => exact List.nil_prefix
      | cons e past =>
          obtain ⟨hhead, htail⟩ := List.cons_eq_cons.mp hlog
          have hrest := ih (h m.world c).1 { m with world := (h m.world c).2 } htail
          subst hhead
          simp only [Prog.exec, List.map_cons, Event.exchange, replay_cons]
          exact List.cons_prefix_cons.mpr ⟨rfl, hrest⟩

/-- What every replayed run says of its exchanges in terms of the whole log holds in every
run in terms of the log up to them. -/
theorem exec_replayed (Ok : List (Exchange E) → Exchange E → Prop) {p : Prog S E α} {s : S}
    (hok : ∀ log, ∀ e ∈ (p.exec (Service.replay silence) ⟨s, log⟩).log, Ok log e.exchange)
    (h : Service W E) (w : W) {past rest : List (Event W E)} {e : Event W E}
    (hlog : (p.exec h ⟨s, w⟩).log = past ++ e :: rest) :
    Ok ((past ++ [e]).map Event.exchange) e.exchange := by
  have hcut : (p.exec h ⟨s, w⟩).log = past ++ [e] ++ rest := by simp [hlog]
  have hbegins := exec_replay silence h p ⟨s, w⟩ hcut
  have hmem : e.exchange ∈ (past ++ [e]).map Event.exchange :=
    List.mem_map_of_mem (by simp)
  obtain ⟨e', he', hsame⟩ := List.mem_map.mp (hbegins.subset hmem)
  exact hsame ▸ hok _ e' he'

end Interact
