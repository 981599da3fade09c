import AutoNodeRepair.Interact.Interleave
import AutoNodeRepair.Interact.Monitor

/-!
# Many programs sharing an outside

Any number of parties, each with a program under way, and an outside that they share and
that also moves by itself. A party may be started over at any time. Time is part of the
outside, and a run is required to be `punctual`: in every state that it passes through,
none of the parties is late with its next question.

`Setting.Reaches.guided` is the rule for invariants. What has become of a party is the
state of a monitor that its program follows, so an invariant speaks of the monitors and the
outside alone. It has to be kept by each exchange that the monitor of one party accepts, by
a new start, and by what the outside does by itself.
-/

namespace Interact

variable {R S W : Type} {E : Sig} {α σ : Type}

/-! ## One party -/

/-- The question a program asks next. -/
def Prog.pending : Prog S E α → S → Option E.Call
  | .ret _, _ => none
  | .load k, s => (k s).pending s
  | .save s k, _ => k.pending s
  | .ask c _, _ => some c

namespace Prog.Follows

variable {mon : Monitor E σ} {Q : α → σ → Prop} {h : Service W E} {w : W} {p : Prog S E α}
  {s : S} {phase : σ}

/-- The monitor is ready for every answer to it. -/
theorem accepts (hp : p.Follows mon phase Q) {c : E.Call} (hc : p.pending s = some c)
    (r : E.Ans c) : ∃ phase', mon.step phase c r = some phase' := by
  induction p generalizing s with
  | ret a => simp [pending] at hc
  | load next ih => exact ih s (hp s) hc
  | save s' next ih => exact ih hp hc
  | ask call next ih =>
      obtain rfl : call = c := Option.some.inj hc
      obtain ⟨phase', hstep, -⟩ := hp r
      exact ⟨phase', hstep⟩

/-- A program with a question moves on to what follows the answer. -/
theorem advance (hp : p.Follows mon phase Q) {c : E.Call} (hc : p.pending s = some c) :
    (p.advance h s w).2 = (h w c).2 ∧ ∃ phase', mon.step phase c (h w c).1 = some phase' ∧
      (p.advance h s w).1.prog.Follows mon phase' Q := by
  induction p generalizing s with
  | ret a => simp [pending] at hc
  | load next ih => exact ih s (hp s) hc
  | save s' next ih => exact ih hp hc
  | ask call next ih =>
      obtain rfl : call = c := Option.some.inj hc
      exact ⟨rfl, hp _⟩

/-- A program without one stays where it is. -/
theorem advance_none (hp : p.Follows mon phase Q) (hnone : p.pending s = none) :
    (p.advance h s w).2 = w ∧ (p.advance h s w).1.prog.Follows mon phase Q := by
  induction p generalizing s with
  | ret a => exact ⟨rfl, hp⟩
  | load next ih => exact ih s (hp s) hnone
  | save s' next ih => exact ih hp hnone
  | ask call next ih => simp [pending] at hnone

end Prog.Follows

/-! ## All of them -/

/-- The parties and the outside. -/
structure Crew (R S W : Type) (E : Sig) (α : Type) where
  party : R → Party S E α
  world : W

def Crew.pending (c : Crew R S W E α) (i : R) : Option E.Call :=
  (c.party i).prog.pending (c.party i).store

/-- How parties are started and served, what happens by itself, and which states of the
outside are in time for a party with its next question. -/
structure Setting (R S W : Type) (E : Sig) (α : Type) where
  start : R → Party S E α
  restart : R → W → W
  serve : R → Service W E
  drift : W → W → Prop
  punctual : W → R → Option E.Call → Prop

namespace Setting

variable [DecidableEq R] (e : Setting R S W E α)

/-- Nobody is late. -/
def Timely (c : Crew R S W E α) : Prop := ∀ i, e.punctual c.world i (c.pending i)

/-- The next exchange of one party. -/
def act (c : Crew R S W E α) (i : R) : Crew R S W E α :=
  let next := (c.party i).prog.advance (e.serve i) (c.party i).store c.world
  ⟨Function.update c.party i next.1, next.2⟩

/-- One party is started over. -/
def startOver (c : Crew R S W E α) (i : R) : Crew R S W E α :=
  ⟨Function.update c.party i (e.start i), e.restart i c.world⟩

/-- The states of the timely runs from one state of the outside. -/
inductive Reaches (w : W) : Crew R S W E α → Prop
  | start : e.Timely ⟨e.start, w⟩ → Reaches w ⟨e.start, w⟩
  | act {c : Crew R S W E α} (i : R) : Reaches w c → e.Timely (e.act c i) → Reaches w (e.act c i)
  | startOver {c : Crew R S W E α} (i : R) : Reaches w c → e.Timely (e.startOver c i) →
      Reaches w (e.startOver c i)
  | drift {c : Crew R S W E α} {w' : W} : Reaches w c → e.drift c.world w' →
      e.Timely { c with world := w' } → Reaches w { c with world := w' }

variable {e}

theorem Reaches.timely {w : W} {c : Crew R S W E α} (hreach : e.Reaches w c) : e.Timely c := by
  cases hreach with
  | start htimely => exact htimely
  | act i _ htimely => exact htimely
  | startOver i _ htimely => exact htimely
  | drift _ _ htimely => exact htimely

/-- Every program follows its monitor. -/
def Guided (mon : R → Monitor E σ) (phases : R → σ) (c : Crew R S W E α) : Prop :=
  ∀ i, (c.party i).prog.Follows (mon i) (phases i) fun _ _ => True

/-- After a move of one party the others are where they were. -/
theorem Guided.update {mon : R → Monitor E σ} {phases : R → σ} {c d : Crew R S W E α}
    (hguided : Guided mon phases c) {i : R} {party : Party S E α} {phase : σ}
    (hd : d.party = Function.update c.party i party)
    (hparty : party.prog.Follows (mon i) phase fun _ _ => True) :
    Guided mon (Function.update phases i phase) d := by
  intro j
  by_cases hj : j = i
  · subst hj
    simpa [hd] using hparty
  · simpa [hd, hj] using hguided j

/-- The invariant rule. -/
theorem Reaches.guided (mon : R → Monitor E σ) (first : R → σ) (inv : (R → σ) → W → Prop)
    {w : W} {c : Crew R S W E α} (hreach : e.Reaches w c)
    (hfollows : ∀ i, (e.start i).prog.Follows (mon i) (first i) fun _ _ => True)
    (hinv : inv first w)
    (hact : ∀ phases w i call phase', inv phases w → e.punctual w i (some call) →
      (mon i).step (phases i) call (e.serve i w call).1 = some phase' →
      inv (Function.update phases i phase') (e.serve i w call).2)
    (hrestart : ∀ phases w i, inv phases w →
      inv (Function.update phases i (first i)) (e.restart i w))
    (hdrift : ∀ phases w w', inv phases w → e.drift w w' → inv phases w') :
    ∃ phases, Guided mon phases c ∧ inv phases c.world := by
  induction hreach with
  | start _ => exact ⟨first, hfollows, hinv⟩
  | @act c i hbefore _ ih =>
      obtain ⟨phases, hguided, hinv⟩ := ih
      cases hcall : c.pending i with
      | none =>
          obtain ⟨hworld, hnext⟩ :=
            (hguided i).advance_none (h := e.serve i) (w := c.world) hcall
          refine ⟨phases, ?_, ?_⟩
          · rw [← Function.update_eq_self i phases]
            exact hguided.update rfl hnext
          · show inv phases (e.act c i).world
            rw [show (e.act c i).world = c.world from hworld]
            exact hinv
      | some call =>
          obtain ⟨hworld, phase', hstep, hnext⟩ :=
            (hguided i).advance (h := e.serve i) (w := c.world) hcall
          have hpunctual := hbefore.timely i
          rw [hcall] at hpunctual
          refine ⟨Function.update phases i phase', hguided.update rfl hnext, ?_⟩
          show inv _ (e.act c i).world
          rw [show (e.act c i).world = (e.serve i c.world call).2 from hworld]
          exact hact phases c.world i call phase' hinv hpunctual hstep
  | startOver i _ _ ih =>
      obtain ⟨phases, hguided, hinv⟩ := ih
      exact ⟨_, hguided.update rfl (hfollows i), hrestart phases _ i hinv⟩
  | drift _ hmoves _ ih =>
      obtain ⟨phases, hguided, hinv⟩ := ih
      exact ⟨phases, hguided, hdrift _ _ _ hinv hmoves⟩

end Setting

end Interact
