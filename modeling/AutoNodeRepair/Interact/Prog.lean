import Mathlib.Data.List.Basic

/-!
# Interactive programs

A program with a private store, for which everything else is *outside*: each
question it asks is answered by a service it cannot see into. The tree is
inductive, so a program asks finitely many questions on every path; loops of
the modelled code are bounded by their own counters or by explicit fuel.

* `Prog` — the programs, a monad over the signature `Sig` of the questions;
* `Service` — the outside: an arbitrary state machine answering one question
  at a time. Failures, concurrent actors and changes of mind all live in its
  state, so a theorem about every service covers all of them;
* `Prog.exec` — the run of a program against a service, with the log of every
  exchange and the outside state around it.
-/

namespace Interact

/-- What can be asked, and the type of the answer to each question. -/
structure Sig where
  Call : Type
  Ans : Call → Type

/-- Programs over a private store `S` asking the questions of `E`. -/
inductive Prog (S : Type) (E : Sig) (α : Type) : Type
  | ret (a : α)
  | load (k : S → Prog S E α)
  | save (s : S) (k : Prog S E α)
  | ask (c : E.Call) (k : E.Ans c → Prog S E α)

/-- The outside: the answer to a question, and the state it leaves behind. -/
abbrev Service (W : Type) (E : Sig) := W → (c : E.Call) → E.Ans c × W

/-- The program's store together with the outside state. -/
structure Mach (S W : Type) where
  store : S
  world : W

/-- One exchange, with the outside state before and after it. -/
structure Event (W : Type) (E : Sig) where
  call : E.Call
  ans : E.Ans call
  before : W
  after : W

/-- A completed run: the value returned, the log and the final machine. -/
structure Outcome (S W : Type) (E : Sig) (α : Type) where
  val : α
  log : List (Event W E)
  mach : Mach S W

namespace Prog

variable {S W : Type} {E : Sig} {α β γ : Type}

/-- Sequencing: graft `k` onto the leaves. -/
protected def bind : Prog S E α → (α → Prog S E β) → Prog S E β
  | .ret a, f => f a
  | .load k, f => .load fun s => (k s).bind f
  | .save s k, f => .save s (k.bind f)
  | .ask c k, f => .ask c fun r => (k r).bind f

instance : Monad (Prog S E) where
  pure := .ret
  bind := Prog.bind

/-- Read the private store. -/
def getStore : Prog S E S := .load .ret

/-- Replace the private store. -/
def setStore (s : S) : Prog S E Unit := .save s (.ret ())

/-- Ask one question. -/
def call (c : E.Call) : Prog S E (E.Ans c) := .ask c .ret

/-- The run of a program against a service. -/
def exec (h : Service W E) : Prog S E α → Mach S W → Outcome S W E α
  | .ret a, m => ⟨a, [], m⟩
  | .load k, m => (k m.store).exec h m
  | .save s k, m => k.exec h { m with store := s }
  | .ask c k, m =>
      let out := (k (h m.world c).1).exec h { m with world := (h m.world c).2 }
      { out with log := ⟨c, (h m.world c).1, m.world, (h m.world c).2⟩ :: out.log }

end Prog

/-- The same outcome with an earlier log in front. -/
def Outcome.after {S W : Type} {E : Sig} {α : Type} (log : List (Event W E))
    (out : Outcome S W E α) : Outcome S W E α :=
  { out with log := log ++ out.log }

section Equations

variable {S W : Type} {E : Sig} {α β : Type}

@[simp] theorem Outcome.after_val (log : List (Event W E)) (out : Outcome S W E α) :
    (out.after log).val = out.val := rfl

@[simp] theorem Outcome.after_log (log : List (Event W E)) (out : Outcome S W E α) :
    (out.after log).log = log ++ out.log := rfl

@[simp] theorem Outcome.after_mach (log : List (Event W E)) (out : Outcome S W E α) :
    (out.after log).mach = out.mach := rfl

variable (h : Service W E) (m : Mach S W)

@[simp] theorem exec_pure (a : α) : (pure a : Prog S E α).exec h m = ⟨a, [], m⟩ := rfl

@[simp] theorem exec_getStore :
    (Prog.getStore : Prog S E S).exec h m = ⟨m.store, [], m⟩ := rfl

@[simp] theorem exec_setStore (s : S) :
    (Prog.setStore s : Prog S E Unit).exec h m = ⟨(), [], { m with store := s }⟩ := rfl

@[simp] theorem exec_call (c : E.Call) :
    (Prog.call c : Prog S E (E.Ans c)).exec h m =
      ⟨(h m.world c).1, [⟨c, (h m.world c).1, m.world, (h m.world c).2⟩],
        { m with world := (h m.world c).2 }⟩ := rfl

/-- A sequence runs its first part, then its second from where that left. -/
@[simp] theorem exec_bind (p : Prog S E α) (k : α → Prog S E β) :
    (p >>= k).exec h m =
      ((k (p.exec h m).val).exec h (p.exec h m).mach).after (p.exec h m).log := by
  show (p.bind k).exec h m = _
  induction p generalizing m with
  | ret a => rfl
  | load next ih => exact ih m.store m
  | save s next ih => exact ih { m with store := s }
  | ask c next ih =>
      simp only [Prog.bind, Prog.exec]
      rw [ih (h m.world c).1 { m with world := (h m.world c).2 }]
      rfl

end Equations

end Interact
