import AutoNodeRepair.Interact.Prog

/-!
# What a run writes

`p.Writes R h m`: along the run of `p` from `m`, every write to the store takes
it to one that is `R`-related. A run that writes nothing satisfies it for every
`R`; with an order for `R` it says that the store only grows. Sequencing splits
it (`writes_bind`), and for a preorder it relates the stores at the two ends
(`Writes.stores`).
-/

namespace Interact

variable {S W : Type} {E : Sig} {α β : Type}

/-- Every write of the run takes the store to an `R`-related one. -/
def Prog.Writes (R : S → S → Prop) (h : Service W E) : Prog S E α → Mach S W → Prop
  | .ret _, _ => True
  | .load k, m => (k m.store).Writes R h m
  | .save s k, m => R m.store s ∧ k.Writes R h { m with store := s }
  | .ask c k, m => (k (h m.world c).1).Writes R h { m with world := (h m.world c).2 }

/-- A run is finite, so what it writes can be checked. -/
instance Prog.decidableWrites (R : S → S → Prop) [DecidableRel R] (h : Service W E) :
    (p : Prog S E α) → (m : Mach S W) → Decidable (p.Writes R h m)
  | .ret _, _ => .isTrue trivial
  | .load k, m => decidableWrites R h (k m.store) m
  | .save s k, m => @instDecidableAnd _ _ _ (decidableWrites R h k { m with store := s })
  | .ask c k, m => decidableWrites R h (k (h m.world c).1) { m with world := (h m.world c).2 }

variable {R R' : S → S → Prop} {h : Service W E}

@[simp] theorem writes_pure (a : α) (m : Mach S W) : (pure a : Prog S E α).Writes R h m :=
  trivial

/-- A sequence writes what its parts write. -/
theorem writes_bind (p : Prog S E α) (k : α → Prog S E β) (m : Mach S W) :
    (p >>= k).Writes R h m ↔
      p.Writes R h m ∧ (k (p.exec h m).val).Writes R h (p.exec h m).mach := by
  show (p.bind k).Writes R h m ↔ _
  induction p generalizing m with
  | ret a => exact ⟨fun hk => ⟨trivial, hk⟩, And.right⟩
  | load next ih => exact ih m.store m
  | save s next ih =>
      simp only [Prog.bind, Prog.Writes, Prog.exec, ih, and_assoc]
  | ask c next ih => exact ih (h m.world c).1 { m with world := (h m.world c).2 }

theorem Prog.Writes.mono {p : Prog S E α} {m : Mach S W} (hp : p.Writes R h m)
    (hR : ∀ s s', R s s' → R' s s') : p.Writes R' h m := by
  induction p generalizing m with
  | ret a => trivial
  | load next ih => exact ih m.store hp
  | save s next ih => exact ⟨hR _ _ hp.1, ih hp.2⟩
  | ask c next ih => exact ih _ hp

/-- What the writes preserve, the run preserves. -/
theorem Prog.Writes.stores (hrefl : ∀ s, R s s) (htrans : ∀ s s' s'', R s s' → R s' s'' → R s s'')
    {p : Prog S E α} {m : Mach S W} (hp : p.Writes R h m) :
    R m.store (p.exec h m).mach.store := by
  induction p generalizing m with
  | ret a => exact hrefl _
  | load next ih => exact ih m.store hp
  | save s next ih => exact htrans _ _ _ hp.1 (ih hp.2)
  | ask c next ih => exact ih _ hp

end Interact
