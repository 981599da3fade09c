import AutoNodeRepair.Interact.Prog

/-!
# Hoare rules for interactive programs

`Triple h P Ok p Q`: run against the service `h` from a machine satisfying `P`,
the program `p` ends with a value and a machine satisfying `Q`, and every
exchange on the way satisfies `Ok`. Programs always end, so this is total
correctness.

`Keeps h Inv Ok p` is the special case by which most safety results below are
proved: `p` re-establishes the invariant `Inv`. It composes along `bind`, so a
property of a whole program follows from the property of the few operations
that matter and of the questions the rest of the code asks.
-/

namespace Interact

variable {S W : Type} {E : Sig} {α β : Type}

/-- The exchange in which `h` answers `c` from the outside state `w`. -/
def Service.event (h : Service W E) (w : W) (c : E.Call) : Event W E :=
  ⟨c, (h w c).1, w, (h w c).2⟩

@[simp] theorem Service.event_call (h : Service W E) (w : W) (c : E.Call) :
    (h.event w c).call = c := rfl

/-- The outside states `h` can get to from `w`, whatever it is asked. -/
inductive Service.Reachable (h : Service W E) (w : W) : W → Prop
  | refl : Reachable h w w
  | step {v : W} (hv : Reachable h w v) (c : E.Call) : Reachable h w (h v c).2

/-- From `P`, `p` ends in `Q`, and all its exchanges satisfy `Ok`. -/
def Triple (h : Service W E) (P : Mach S W → Prop) (Ok : Event W E → Prop)
    (p : Prog S E α) (Q : α → Mach S W → Prop) : Prop :=
  ∀ m, P m → Q (p.exec h m).val (p.exec h m).mach ∧ ∀ e ∈ (p.exec h m).log, Ok e

namespace Triple

variable {h : Service W E} {Ok : Event W E → Prop}

theorem pure {P : Mach S W → Prop} {Q : α → Mach S W → Prop} (a : α)
    (hq : ∀ m, P m → Q a m) : Triple h P Ok (Pure.pure a : Prog S E α) Q := by
  intro m hm
  simp [hq m hm]

theorem bind {P : Mach S W → Prop} {p : Prog S E α} {k : α → Prog S E β}
    {Q : α → Mach S W → Prop} {R : β → Mach S W → Prop} (hp : Triple h P Ok p Q)
    (hk : ∀ a, Triple h (Q a) Ok (k a) R) : Triple h P Ok (p >>= k) R := by
  intro m hm
  obtain ⟨hq, hlog1⟩ := hp m hm
  obtain ⟨hr, hlog2⟩ := hk (p.exec h m).val _ hq
  refine ⟨by simpa using hr, ?_⟩
  intro e he
  simp only [exec_bind, Outcome.after_log, List.mem_append] at he
  exact he.elim (hlog1 e) (hlog2 e)

/-- Where the first part says something of its value alone, the continuation may use it. -/
theorem bind_val {P R : Mach S W → Prop} {p : Prog S E α} {k : α → Prog S E β} {Q : α → Prop}
    {T : β → Mach S W → Prop} (hp : Triple h P Ok p fun a m => R m ∧ Q a)
    (hk : ∀ a, Q a → Triple h R Ok (k a) T) : Triple h P Ok (p >>= k) T :=
  bind hp fun a m hm => hk a hm.2 m hm.1

theorem conseq {P P' : Mach S W → Prop} {p : Prog S E α} {Q Q' : α → Mach S W → Prop}
    (ht : Triple h P Ok p Q) (hP : ∀ m, P' m → P m) (hQ : ∀ a m, Q a m → Q' a m) :
    Triple h P' Ok p Q' := by
  intro m hm
  obtain ⟨hq, hlog⟩ := ht m (hP m hm)
  exact ⟨hQ _ _ hq, hlog⟩

theorem weaken_events {P : Mach S W → Prop} {p : Prog S E α} {Q : α → Mach S W → Prop}
    {Ok' : Event W E → Prop} (ht : Triple h P Ok p Q) (hok : ∀ e, Ok e → Ok' e) :
    Triple h P Ok' p Q := by
  intro m hm
  obtain ⟨hq, hlog⟩ := ht m hm
  exact ⟨hq, fun e he => hok e (hlog e he)⟩

theorem and {P : Mach S W → Prop} {p : Prog S E α} {Q Q' : α → Mach S W → Prop}
    (ht : Triple h P Ok p Q) (ht' : Triple h P Ok p Q') :
    Triple h P Ok p fun a m => Q a m ∧ Q' a m :=
  fun m hm => ⟨⟨(ht m hm).1, (ht' m hm).1⟩, (ht m hm).2⟩

/-- What the precondition says of the context may be used to prove the triple. -/
theorem of_pre {P : Mach S W → Prop} {p : Prog S E α} {Q : α → Mach S W → Prop} {φ : Prop}
    (hφ : ∀ m, P m → φ) (ht : φ → Triple h P Ok p Q) : Triple h P Ok p Q :=
  fun m hm => ht (hφ m hm) m hm

theorem getStore {P : Mach S W → Prop} :
    Triple h P Ok (Prog.getStore : Prog S E S) fun s m => P m ∧ s = m.store := by
  intro m hm
  simp [hm]

theorem setStore {P : Mach S W → Prop} (s : S) {Q : Mach S W → Prop}
    (hs : ∀ m, P m → Q { m with store := s }) :
    Triple h P Ok (Prog.setStore s : Prog S E Unit) fun _ m => Q m := by
  intro m hm
  simp [hs m hm]

/-- A single question, answered by the service. -/
theorem call {P : Mach S W → Prop} {c : E.Call} {Q : E.Ans c → Mach S W → Prop}
    (hc : ∀ m, P m →
      Q (h m.world c).1 { m with world := (h m.world c).2 } ∧ Ok (h.event m.world c)) :
    Triple h P Ok (Prog.call c : Prog S E (E.Ans c)) Q := by
  intro m hm
  obtain ⟨hq, hok⟩ := hc m hm
  refine ⟨by simpa using hq, ?_⟩
  intro e he
  simp only [exec_call, List.mem_singleton] at he
  exact he ▸ hok

end Triple

/-- `p` re-establishes `Inv`, and all its exchanges satisfy `Ok`. -/
def Keeps (h : Service W E) (Inv : Mach S W → Prop) (Ok : Event W E → Prop)
    (p : Prog S E α) : Prop :=
  Triple h Inv Ok p fun _ => Inv

namespace Keeps

variable {h : Service W E} {Inv : Mach S W → Prop} {Ok : Event W E → Prop}

theorem pure (a : α) : Keeps h Inv Ok (Pure.pure a : Prog S E α) :=
  Triple.pure a fun _ hm => hm

theorem bind {p : Prog S E α} {k : α → Prog S E β} (hp : Keeps h Inv Ok p)
    (hk : ∀ a, Keeps h Inv Ok (k a)) : Keeps h Inv Ok (p >>= k) :=
  Triple.bind hp hk

/-- What is known of the value returned, next to the invariant. -/
theorem with_val {p : Prog S E α} {Q : α → Prop} (hp : Keeps h Inv Ok p)
    (hval : ∀ m, Inv m → Q (p.exec h m).val) :
    Triple h Inv Ok p fun a m => Inv m ∧ Q a :=
  fun m hm => ⟨⟨(hp m hm).1, hval m hm⟩, (hp m hm).2⟩

/-- The continuation need only be kept for the values the first part returns. -/
theorem bind_of {p : Prog S E α} {k : α → Prog S E β} {Q : α → Prop}
    (hp : Keeps h Inv Ok p) (hval : ∀ m, Inv m → Q (p.exec h m).val)
    (hk : ∀ a, Q a → Keeps h Inv Ok (k a)) : Keeps h Inv Ok (p >>= k) :=
  Triple.bind_val (hp.with_val hval) hk

theorem getStore : Keeps h Inv Ok (Prog.getStore : Prog S E S) :=
  Triple.getStore.conseq (fun _ hm => hm) fun _ _ hq => hq.1

/-- A single question keeps `Inv` when the service's answer to it does. -/
theorem call {c : E.Call}
    (hc : ∀ m, Inv m → Inv { m with world := (h m.world c).2 } ∧ Ok (h.event m.world c)) :
    Keeps h Inv Ok (Prog.call c : Prog S E (E.Ans c)) :=
  Triple.call hc

theorem ite {c : Prop} [Decidable c] {p q : Prog S E α} (hp : Keeps h Inv Ok p)
    (hq : Keeps h Inv Ok q) : Keeps h Inv Ok (if c then p else q) := by
  split
  · exact hp
  · exact hq

/-- An invariant of the outside that no question can end is kept by every
program. -/
theorem of_closed {Wd : W → Prop} (hclosed : ∀ w, Wd w → ∀ c, Wd (h w c).2) (p : Prog S E α) :
    Keeps h (fun m => Wd m.world) (fun _ => True) p := by
  intro m hm
  refine ⟨?_, fun _ _ => trivial⟩
  induction p generalizing m with
  | ret a => exact hm
  | load k ih => exact ih m.store m hm
  | save s k ih => exact ih { m with store := s } hm
  | ask c k ih => exact ih _ { m with world := (h m.world c).2 } (hclosed _ hm c)

end Keeps

end Interact
