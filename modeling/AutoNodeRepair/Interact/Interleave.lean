import Mathlib.Data.Bool.Count
import AutoNodeRepair.Interact.Prog

/-!
# Two programs sharing an outside

Two programs, each with a store of its own, take turns at one service: a
schedule says whose exchange comes next, so the theorems about all schedules
are about all interleavings of the exchanges.

The pattern that goes wrong under interleaving is the update of a shared
register by a read and a later write. `Race` is two such clients by themselves,
and `Race.run_reg` says what becomes of the register: both updates, one after
the other, if one client is done before the other begins, and only that of the
last writer otherwise.
-/

namespace Interact

variable {S W : Type} {E : Sig} {α β : Type}

/-- A program under way, with its store. -/
structure Party (S : Type) (E : Sig) (α : Type) where
  prog : Prog S E α
  store : S

/-- Run a program up to and including its next exchange. -/
def Prog.advance (h : Service W E) : Prog S E α → S → W → Party S E α × W
  | .ret a, s, w => (⟨.ret a, s⟩, w)
  | .load k, s, w => (k s).advance h s w
  | .save s' k, _, w => k.advance h s' w
  | .ask c k, s, w => (⟨k (h w c).1, s⟩, (h w c).2)

/-- The value of a program that has nothing left to ask. -/
def Prog.value : Prog S E α → S → Option α
  | .ret a, _ => some a
  | .load k, s => (k s).value s
  | .save s' k, _ => k.value s'
  | .ask _ _, _ => none

@[simp] theorem Prog.pure_bind (a : α) (k : α → Prog S E β) :
    (pure a >>= k : Prog S E β) = k a := rfl

/-- The next exchange of a program that has one left belongs to its first part. -/
theorem Prog.advance_bind (h : Service W E) (p : Prog S E α) (k : α → Prog S E β) (s : S)
    (w : W) (hopen : p.value s = none) :
    (p >>= k).advance h s w =
      (⟨(p.advance h s w).1.prog >>= k, (p.advance h s w).1.store⟩, (p.advance h s w).2) := by
  show (p.bind k).advance h s w = _
  induction p generalizing s with
  | ret a => simp [Prog.value] at hopen
  | load next ih => exact ih s s hopen
  | save s' next ih => exact ih s' hopen
  | ask c next ih => rfl

/-- The value a party has arrived at. -/
def Party.value (p : Party S E α) : Option α := p.prog.value p.store

/-- Two parties and the outside they share. -/
structure Duo (S W : Type) (E : Sig) (α β : Type) where
  left : Party S E α
  right : Party S E β
  world : W

/-- The next exchange of the left party (`true`) or of the right one. -/
def Duo.step (h : Service W E) (d : Duo S W E α β) : Bool → Duo S W E α β
  | true =>
      let next := d.left.prog.advance h d.left.store d.world
      { d with left := next.1, world := next.2 }
  | false =>
      let next := d.right.prog.advance h d.right.store d.world
      { d with right := next.1, world := next.2 }

/-- The run along a schedule. -/
def Duo.run (h : Service W E) (d : Duo S W E α β) : List Bool → Duo S W E α β
  | [] => d
  | turn :: rest => Duo.run h (d.step h turn) rest

/-- A program that has nothing left to ask stays as it is. -/
theorem Prog.advance_of_value {h : Service W E} {p : Prog S E α} {s : S} {w : W} {a : α}
    (hp : p.value s = some a) : (p.advance h s w).1.value = some a := by
  induction p generalizing s with
  | ret b => exact hp
  | load next ih => exact ih s hp
  | save s' next ih => exact ih hp
  | ask c next ih => simp [Prog.value] at hp

theorem Duo.run_left_value {h : Service W E} (sched : List Bool) {d : Duo S W E α β} {a : α}
    (hd : d.left.value = some a) : (d.run h sched).left.value = some a := by
  induction sched generalizing d with
  | nil => exact hd
  | cons turn rest ih =>
      cases turn with
      | true => exact ih (Prog.advance_of_value hd)
      | false => exact ih hd

theorem Duo.run_right_value {h : Service W E} (sched : List Bool) {d : Duo S W E α β} {b : β}
    (hd : d.right.value = some b) : (d.run h sched).right.value = some b := by
  induction sched generalizing d with
  | nil => exact hd
  | cons turn rest ih =>
      cases turn with
      | true => exact ih hd
      | false => exact ih (Prog.advance_of_value hd)

/-! ## A register and two clients -/

/-- How far a client updating the register has got. -/
inductive Update (α : Type)
  | fresh
  | holding (a : α)
  | done
  deriving DecidableEq, Repr

/-- The next move of a client with the update `f`, and the register after it. -/
def Update.move (f : α → α) : Update α → α → Update α × α
  | .fresh, reg => (.holding reg, reg)
  | .holding a, _ => (.done, f a)
  | .done, reg => (.done, reg)

/-- The moves a client has left. -/
def Update.left : Update α → Nat
  | .fresh => 2
  | .holding _ => 1
  | .done => 0

@[simp] theorem Update.move_left (f : α → α) (s : Update α) (reg : α) :
    (s.move f reg).1.left = s.left - 1 := by
  cases s <;> rfl

theorem Update.move_of_left_zero {f : α → α} {s : Update α} {reg : α} (hs : s.left = 0) :
    s.move f reg = (s, reg) := by
  cases s with
  | fresh => simp [Update.left] at hs
  | holding a => simp [Update.left] at hs
  | done => rfl

/-- The register and its two clients. -/
structure Race (α : Type) where
  left : Update α
  right : Update α
  reg : α
  deriving DecidableEq, Repr

/-- A move of the client with the update `f` (`true`) or of that with `g`. -/
def Race.step (f g : α → α) (r : Race α) : Bool → Race α
  | true => { r with left := (r.left.move f r.reg).1, reg := (r.left.move f r.reg).2 }
  | false => { r with right := (r.right.move g r.reg).1, reg := (r.right.move g r.reg).2 }

/-- The run along a schedule. -/
def Race.run (f g : α → α) (r : Race α) : List Bool → Race α
  | [] => r
  | turn :: rest => Race.run f g (r.step f g turn) rest

/-- The turns of a schedule that are used, when the clients have `l` and `r`
moves left. -/
def moves : Nat → Nat → List Bool → List Bool
  | _, _, [] => []
  | 0, r, true :: rest => moves 0 r rest
  | l + 1, r, true :: rest => true :: moves l r rest
  | l, 0, false :: rest => moves l 0 rest
  | l, r + 1, false :: rest => false :: moves l r rest

@[simp] theorem moves_false_zero (l : Nat) (rest : List Bool) :
    moves l 0 (false :: rest) = moves l 0 rest := by
  cases l <;> rfl

@[simp] theorem moves_false_succ (l r : Nat) (rest : List Bool) :
    moves l (r + 1) (false :: rest) = false :: moves l r rest := by
  cases l <;> rfl

namespace Race

variable {f g : α → α}

/-- Unused turns change nothing. -/
theorem run_moves (sched : List Bool) (r : Race α) :
    run f g r (moves r.left.left r.right.left sched) = run f g r sched := by
  induction sched generalizing r with
  | nil => rfl
  | cons turn rest ih =>
      have hnext := ih (r.step f g turn)
      cases turn with
      | true =>
          cases hleft : r.left.left with
          | zero =>
              have hstay : r.step f g true = r := by
                simp [step, Update.move_of_left_zero hleft]
              rw [hstay, hleft] at hnext
              simpa [moves, run, hstay] using hnext
          | succ l => simpa [moves, run, step, hleft] using hnext
      | false =>
          cases hright : r.right.left with
          | zero =>
              have hstay : r.step f g false = r := by
                simp [step, Update.move_of_left_zero hright]
              rw [hstay, hright] at hnext
              simpa [run, hstay] using hnext
          | succ k => simpa [run, step, hright] using hnext

/-- Each used turn is one move of its client. -/
theorem left_run (sched : List Bool) (r : Race α) :
    (run f g r sched).left.left = r.left.left - sched.count true := by
  induction sched generalizing r with
  | nil => simp [run]
  | cons turn rest ih =>
      cases turn with
      | true => simp only [run, ih, step, Update.move_left, List.count_cons_self]; omega
      | false => simp [run, ih, step]

@[inherit_doc left_run]
theorem right_run (sched : List Bool) (r : Race α) :
    (run f g r sched).right.left = r.right.left - sched.count false := by
  induction sched generalizing r with
  | nil => simp [run]
  | cons turn rest ih =>
      cases turn with
      | true => simp [run, ih, step]
      | false => simp only [run, ih, step, Update.move_left, List.count_cons_self]; omega

end Race

/-- No more turns are used than there are moves. -/
theorem count_moves (l r : Nat) (sched : List Bool) :
    (moves l r sched).count true ≤ l ∧ (moves l r sched).count false ≤ r := by
  fun_induction moves l r sched <;> simp_all

/-- One client makes both its moves before the other makes its first. -/
def Serial (sched : List Bool) : Prop :=
  moves 2 2 sched = [true, true, false, false] ∨ moves 2 2 sched = [false, false, true, true]

instance (sched : List Bool) : Decidable (Serial sched) :=
  inferInstanceAs (Decidable (_ ∨ _))

/-- The client with the last move is the left one. -/
def lastIsLeft (sched : List Bool) : Bool := (moves 2 2 sched).getLast? == some true

/-- What two clients make of the register: both updates if they come one after
the other, and the last writer's alone if they overlap. -/
theorem Race.run_reg {f g : α → α} (a : α) (sched : List Bool)
    (hleft : (run f g ⟨.fresh, .fresh, a⟩ sched).left.left = 0)
    (hright : (run f g ⟨.fresh, .fresh, a⟩ sched).right.left = 0) :
    (run f g ⟨.fresh, .fresh, a⟩ sched).reg =
      if Serial sched then if lastIsLeft sched then f (g a) else g (f a)
      else if lastIsLeft sched then f a else g a := by
  have hmoves := run_moves (f := f) (g := g) sched ⟨.fresh, .fresh, a⟩
  obtain ⟨htrue, hfalse⟩ := count_moves 2 2 sched
  simp only [Update.left] at hmoves
  rw [← hmoves, left_run] at hleft
  rw [← hmoves, right_run] at hright
  simp only [Update.left] at hleft hright
  -- each client has made both its moves: six orders are left
  have hlength : (moves 2 2 sched).length = 4 := by
    rw [← List.count_true_add_count_false]
    omega
  obtain ⟨b1, b2, b3, b4, horder⟩ := List.length_eq_four.mp hlength
  rw [← hmoves]
  simp only [Serial, lastIsLeft, horder] at htrue hfalse ⊢
  clear hmoves horder hleft hright hlength
  cases b1 <;> cases b2 <;> cases b3 <;> cases b4 <;>
    simp_all [run, step, Update.move]

end Interact
