import AutoNodeRepair.Interact.Prog

/-!
# Monitors

A protocol is an order in which things happen, so it is about the log as a whole and not
about single exchanges. A `Monitor` states one: an automaton that reads the log from its
start and refuses the exchange that is out of order.

* `Prog.Asks P p` — `p` asks only questions that satisfy `P`;
* `Prog.Follows mon p s Q` — read from the state `s`, every run of `p` is accepted, and
  the monitor ends in a state that `Q` allows for the value returned;
* `Follows.accepted` — what that says of the run against a service.

Both are properties of the program alone: they hold for every store it may load and every
answer it may get.
-/

namespace Interact

variable {S W : Type} {E : Sig} {α β σ : Type}

/-- An automaton over exchanges; `none` refuses one. -/
structure Monitor (E : Sig) (σ : Type) where
  step : σ → (c : E.Call) → E.Ans c → Option σ

/-- The state after a log. -/
def Monitor.run (mon : Monitor E σ) : σ → List (Event W E) → Option σ
  | s, [] => some s
  | s, e :: rest => (mon.step s e.call e.ans).bind fun s' => mon.run s' rest

/-- A log that is accepted is accepted up to every point of it. -/
theorem Monitor.run_append (mon : Monitor E σ) (s : σ) (log more : List (Event W E)) :
    mon.run s (log ++ more) = (mon.run s log).bind fun s' => mon.run s' more := by
  induction log generalizing s with
  | nil => rfl
  | cons e rest ih =>
      simp only [List.cons_append, Monitor.run]
      cases mon.step s e.call e.ans with
      | none => rfl
      | some s' => exact ih s'

/-! ## Which questions a program asks -/

/-- Every question `p` may ask satisfies `P`. -/
def Prog.Asks (P : E.Call → Prop) : Prog S E α → Prop
  | .ret _ => True
  | .load k => ∀ s, (k s).Asks P
  | .save _ k => k.Asks P
  | .ask c k => P c ∧ ∀ r, (k r).Asks P

namespace Prog.Asks

variable {P : E.Call → Prop}

theorem pure (a : α) : (Pure.pure a : Prog S E α).Asks P := trivial

theorem call {c : E.Call} (hc : P c) : (Prog.call c : Prog S E (E.Ans c)).Asks P :=
  ⟨hc, fun _ => trivial⟩

theorem getStore : (Prog.getStore : Prog S E S).Asks P := fun _ => trivial

theorem setStore (s : S) : (Prog.setStore s : Prog S E Unit).Asks P := trivial

theorem bind {p : Prog S E α} {k : α → Prog S E β} (hp : p.Asks P) (hk : ∀ a, (k a).Asks P) :
    (p >>= k).Asks P := by
  show (p.bind k).Asks P
  induction p with
  | ret a => exact hk a
  | load next ih => exact fun s => ih s (hp s)
  | save s next ih => exact ih hp
  | ask c next ih => exact ⟨hp.1, fun r => ih r (hp.2 r)⟩

theorem ite {c : Prop} [Decidable c] {p q : Prog S E α} (hp : p.Asks P) (hq : q.Asks P) :
    (if c then p else q).Asks P := by
  split
  · exact hp
  · exact hq

/-- A run asks nothing else. -/
theorem asked {p : Prog S E α} (hp : p.Asks P) (h : Service W E) (m : Mach S W) :
    ∀ e ∈ (p.exec h m).log, P e.call := by
  induction p generalizing m with
  | ret a => simp [Prog.exec]
  | load next ih => exact ih m.store (hp m.store) m
  | save s next ih => exact ih hp { m with store := s }
  | ask c next ih =>
      intro e he
      rcases List.mem_cons.mp he with rfl | hlater
      · exact hp.1
      · exact ih _ (hp.2 _) _ e hlater

end Prog.Asks

/-! ## Following a protocol -/

/-- Read from `s`, every run of `p` is accepted, and ends as `Q` allows. -/
def Prog.Follows (mon : Monitor E σ) : Prog S E α → σ → (α → σ → Prop) → Prop
  | .ret a, s, Q => Q a s
  | .load k, s, Q => ∀ store, (k store).Follows mon s Q
  | .save _ k, s, Q => k.Follows mon s Q
  | .ask c k, s, Q => ∀ r, ∃ s', mon.step s c r = some s' ∧ (k r).Follows mon s' Q

namespace Prog.Follows

variable {mon : Monitor E σ} {s : σ}

theorem pure {Q : α → σ → Prop} {a : α} (hq : Q a s) :
    (Pure.pure a : Prog S E α).Follows mon s Q := hq

theorem call {c : E.Call} {Q : E.Ans c → σ → Prop}
    (hc : ∀ r, ∃ s', mon.step s c r = some s' ∧ Q r s') :
    (Prog.call c : Prog S E (E.Ans c)).Follows mon s Q := hc

theorem bind {p : Prog S E α} {k : α → Prog S E β} {Q : α → σ → Prop} {R : β → σ → Prop}
    (hp : p.Follows mon s Q) (hk : ∀ a s', Q a s' → (k a).Follows mon s' R) :
    (p >>= k).Follows mon s R := by
  show (p.bind k).Follows mon s R
  induction p generalizing s with
  | ret a => exact hk a s hp
  | load next ih => exact fun store => ih store (hp store)
  | save store next ih => exact ih hp
  | ask c next ih =>
      intro r
      obtain ⟨s', hstep, hnext⟩ := hp r
      exact ⟨s', hstep, ih r hnext⟩

/-- A question first. -/
theorem bind_call {c : E.Call} {k : E.Ans c → Prog S E β} {R : β → σ → Prop}
    (hk : ∀ r, ∃ s', mon.step s c r = some s' ∧ (k r).Follows mon s' R) :
    (Prog.call c >>= k).Follows mon s R := hk

/-- A first part that leaves the monitor where it was. -/
theorem bind_same {p : Prog S E α} {k : α → Prog S E β} {R : β → σ → Prop}
    (hp : p.Follows mon s fun _ s' => s' = s) (hk : ∀ a, (k a).Follows mon s R) :
    (p >>= k).Follows mon s R :=
  bind hp fun a _ hs => hs ▸ hk a

theorem ite {c : Prop} [Decidable c] {p q : Prog S E α} {Q : α → σ → Prop}
    (hp : p.Follows mon s Q) (hq : q.Follows mon s Q) :
    (if c then p else q).Follows mon s Q := by
  split
  · exact hp
  · exact hq

/-- A program whose questions the monitor does not mind in `s` leaves it there. -/
theorem of_asks {P : E.Call → Prop} {p : Prog S E α} (hp : p.Asks P)
    (hsilent : ∀ c, P c → ∀ r, mon.step s c r = some s) :
    p.Follows mon s fun _ s' => s' = s := by
  induction p with
  | ret a => rfl
  | load next ih => exact fun store => ih store (hp store)
  | save store next ih => exact ih hp
  | ask c next ih => exact fun r => ⟨s, hsilent c hp.1 r, ih r (hp.2 r)⟩

/-- The run against a service is accepted. -/
theorem accepted {p : Prog S E α} {Q : α → σ → Prop} (hp : p.Follows mon s Q)
    (h : Service W E) (m : Mach S W) :
    ∃ s', mon.run s (p.exec h m).log = some s' ∧ Q (p.exec h m).val s' := by
  induction p generalizing s m with
  | ret a => exact ⟨s, rfl, hp⟩
  | load next ih => exact ih m.store (hp m.store) m
  | save store next ih => exact ih hp { m with store := store }
  | ask c next ih =>
      obtain ⟨s', hstep, hnext⟩ := hp (h m.world c).1
      obtain ⟨final, hrun, hq⟩ :=
        ih (h m.world c).1 hnext { m with world := (h m.world c).2 }
      refine ⟨final, ?_, hq⟩
      show (mon.step s c (h m.world c).1).bind _ = some final
      rw [hstep]
      exact hrun

end Prog.Follows

end Interact
