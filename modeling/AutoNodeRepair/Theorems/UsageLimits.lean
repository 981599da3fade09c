import AutoNodeRepair.Theorems.UsageTracking

/-!
# Where the usage tracker reaches its limits

The halves of the records hold fifty entries each. A node is taken out of the other
records by way of its own one, so what the caps have kept out of that stays in the
others. And a half with fifty entries raises its flag at the next call, even if that
only renews one of them.
-/

namespace AutoNodeRepair

open Std Collect

/-! ## Registrations only -/

/-- Calls of `RegisterUsage`. -/
def registrations (uses : List (String × String × Time)) : List UsageOp :=
  uses.map fun (nodeA, nodeB, timestamp) => .registerUsage nodeA nodeB timestamp

/-- What the calls have for one half of a node's record. -/
def entriesFor (side : Half) (node : String) (uses : List (String × String × Time)) :
    List (String × Time) :=
  uses.filterMap fun (nodeA, nodeB, timestamp) =>
    if node = (side.pair nodeA nodeB).1 then some ((side.pair nodeA nodeB).2, timestamp) else none

/-- The nodes registered as used by the node, or as using it. -/
def registered (side : Half) (node : String) (uses : List (String × String × Time)) :
    List String :=
  (entriesFor side node uses).map Prod.fst

/-- The half has been through the cap, and nothing else. -/
theorem half_registrations (side : Half) (node : String) (uses : List (String × String × Time)) :
    (trackerAfter (registrations uses)).half side node =
      .putAll maxUsageRecorded (entriesFor side node uses) := by
  induction uses using List.reverseRecOn with
  | nil => simp [trackerAfter, registrations, entriesFor, CappedMap.putAll]
  | append_singleton uses use ih =>
      obtain ⟨nodeA, nodeB, timestamp⟩ := use
      have hsnoc : registrations (uses ++ [(nodeA, nodeB, timestamp)]) =
          registrations uses ++ [.registerUsage nodeA nodeB timestamp] := by
        simp [registrations]
      rw [hsnoc, trackerAfter_snoc, UsageTracker.apply, UsageTracker.half_registerUsage, ih]
      simp only [entriesFor, List.filterMap_append, List.filterMap_cons, List.filterMap_nil]
      split
      · rw [CappedMap.putAll_snoc]
      · rw [List.append_nil]

theorem exists_eq_snoc_iff {α : Type} (l : List α) (a : α) {P : List α → α → Prop} :
    (∃ before last, l ++ [a] = before ++ [last] ∧ P before last) ↔ P l a := by
  constructor
  · rintro ⟨before, last, heq, hP⟩
    obtain ⟨rfl, hlast⟩ := List.append_inj' heq rfl
    rwa [List.singleton_inj.mp hlast]
  · exact fun hP => ⟨l, a, rfl, hP⟩

/-- The flag is up if the last registration found fifty nodes in the half. -/
theorem tooMany_registrations (side : Half) (node : String)
    (uses : List (String × String × Time)) :
    ((trackerAfter (registrations uses)).half side node).tooMany = true ↔
      ∃ before last, registered side node uses = before ++ [last] ∧
        maxUsageRecorded ≤ before.toFinset.card := by
  rw [half_registrations]
  rcases List.eq_nil_or_concat (entriesFor side node uses) with hnil | ⟨before, last, hsnoc⟩
  · simp [registered, hnil, CappedMap.putAll]
  · rw [List.concat_eq_append] at hsnoc
    rw [registered, hsnoc, CappedMap.tooMany_putAll_snoc, List.map_append, List.map_singleton]
    exact (exists_eq_snoc_iff _ _ (P := fun before _ =>
      maxUsageRecorded ≤ before.toFinset.card)).symm

/-- **What the flags say.** After any calls of `RegisterUsage`, for each half of each node's
record: its flag is up exactly if there are more than `maxUsageRecorded` nodes for it, unless
there are just as many and the last call for it was about one of them again. -/
theorem tooMany_iff_distinct_iff (uses : List (String × String × Time)) (side : Half)
    (node : String) :
    (((trackerAfter (registrations uses)).half side node).tooMany = true ↔
        maxUsageRecorded < (registered side node uses).toFinset.card) ↔
      ¬((registered side node uses).toFinset.card = maxUsageRecorded ∧
        ∃ before last, registered side node uses = before ++ [last] ∧ last ∈ before) := by
  rw [tooMany_registrations]
  generalize registered side node uses = nodes
  rcases List.eq_nil_or_concat nodes with rfl | ⟨before, last, rfl⟩
  · simp
  rw [List.concat_eq_append]
  have hall : (before ++ [last]).toFinset = insert last before.toFinset := by
    ext other
    simp
  rw [exists_eq_snoc_iff (P := fun before _ => maxUsageRecorded ≤ before.toFinset.card),
    exists_eq_snoc_iff (P := fun before last => last ∈ before), hall]
  by_cases hagain : last ∈ before
  · rw [Finset.insert_eq_of_mem (List.mem_toFinset.mpr hagain)]
    simp only [hagain, and_true]
    omega
  · rw [Finset.card_insert_of_notMem fun hmem => hagain (List.mem_toFinset.mp hmem)]
    simp only [hagain, and_false, not_false_eq_true, iff_true]
    omega

/-- As many nodes as a half takes. -/
def crowd : List String :=
  (List.range maxUsageRecorded).map fun i => String.ofList (List.replicate i 'x')

theorem card_crowd : crowd.toFinset.card = maxUsageRecorded := by
  have hnodup : crowd.Nodup := by
    refine List.nodup_range.map fun i j heq => ?_
    simpa using congrArg List.length (String.ofList_injective heq)
  rw [List.toFinset_card_of_nodup hnodup]
  simp [crowd]

theorem not_mem_crowd {name : String} (hname : ∃ c ∈ name.toList, c ≠ 'x') : name ∉ crowd := by
  intro hmem
  obtain ⟨i, -, rfl⟩ := List.mem_map.mp hmem
  obtain ⟨c, hc, hne⟩ := hname
  rw [String.toList_ofList] at hc
  exact hne (List.eq_of_mem_replicate hc)

/-- `a` uses fifty nodes, and then the first of them again. -/
def renewedUses : List (String × String × Time) :=
  crowd.map (fun node => ("a", node, 0)) ++ [("a", "", 0)]

/-- Fifty nodes, not more, and the flag is up. -/
theorem tooMany_renewed :
    ((trackerAfter (registrations renewedUses)).half .uses "a").tooMany = true ∧
      (registered .uses "a" renewedUses).toFinset.card = maxUsageRecorded := by
  have hnodes : registered .uses "a" renewedUses = crowd ++ [""] := by
    simp [registered, entriesFor, renewedUses, Half.pair, List.filterMap_map, Function.comp_def]
  have hagain : "" ∈ crowd.toFinset := List.mem_toFinset.mpr (List.mem_map.mpr ⟨0, by decide, rfl⟩)
  refine ⟨(tooMany_registrations _ _ _).mpr ⟨crowd, "", hnodes, card_crowd.ge⟩, ?_⟩
  rw [hnodes, List.toFinset_append, Finset.union_eq_left.mpr (by simpa using hagain), card_crowd]

/-! ## Taking a node out -/

/-- The half has overflown at some time. -/
def Overflown (history : List UsageOp) (side : Half) (node : String) : Prop :=
  ∃ before after, history = before ++ after ∧
    ((trackerAfter before).half side node).tooMany = true

theorem Overflown.snoc {history : List UsageOp} {side : Half} {node : String}
    (hover : Overflown history side node) (op : UsageOp) :
    Overflown (history ++ [op]) side node := by
  obtain ⟨before, after, rfl, hflag⟩ := hover
  exact ⟨before, after ++ [op], by simp, hflag⟩

theorem tooMany_of_not_overflown {history : List UsageOp} {side : Half} {node : String}
    (hnever : ¬Overflown history side node) :
    ((trackerAfter history).half side node).tooMany = false := by
  rw [← Bool.not_eq_true]
  exact fun hflag => hnever ⟨history, [], by simp, hflag⟩

namespace UsageTracker

/-- The two entries for one use agree. -/
def Agree (tracker : UsageTracker) (side : Half) (owner key : String) : Prop :=
  (tracker.half side owner).entries[key]? = (tracker.half side.flip key).entries[owner]?

section

variable {tracker : UsageTracker} {side : Half} {owner key : String}

/-- A registration enters a use in both halves, or in none. -/
theorem Agree.registerUsage (hagree : tracker.Agree side owner key) (nodeA nodeB : String)
    (timestamp : Time)
    (howner : ((tracker.registerUsage nodeA nodeB timestamp).half side owner).tooMany = false)
    (hkey : ((tracker.registerUsage nodeA nodeB timestamp).half side.flip key).tooMany = false) :
    (tracker.registerUsage nodeA nodeB timestamp).Agree side owner key := by
  have hpair : side.flip.pair nodeA nodeB = (key, owner) ↔
      side.pair nodeA nodeB = (owner, key) := by
    cases side <;> simp [Half.pair, Half.flip, and_comm]
  rw [Agree, getElem?_half_registerUsage _ _ _ _ howner, getElem?_half_registerUsage _ _ _ _ hkey]
  simp only [hpair]
  rw [hagree]

theorem Agree.cleanUp (hagree : tracker.Agree side owner key)
    (howner : (tracker.half side owner).tooMany = false)
    (hkey : (tracker.half side.flip key).tooMany = false) (cutoff : Time) :
    (tracker.cleanUp cutoff).Agree side owner key := by
  rw [Agree, getElem?_half_cleanUp howner, getElem?_half_cleanUp hkey, hagree]

/-- Entries that agree go together. -/
theorem Agree.unregister (hagree : tracker.Agree side owner key) (node : String) :
    (tracker.unregister node).Agree side owner key := by
  have hgone (side : Half) (key : String) :
      ((tracker.unregister node).half side node).entries[key]? = none := by
    simp [half_unregister]
  unfold Agree at hagree ⊢
  by_cases howner : owner = node
  · subst howner
    rw [hgone]
    by_cases hkey : key = owner
    · rw [hkey, hgone]
    · rw [getElem?_half_unregister_self hkey, ← hagree, Half.flip_flip]
      split
      case isTrue => rfl
      case isFalse hpoints => exact (ExtTreeMap.getElem?_eq_none hpoints).symm
  by_cases hkey : key = node
  · subst hkey
    rw [hgone, getElem?_half_unregister_self howner, hagree]
    split
    case isTrue => rfl
    case isFalse hpoints => exact ExtTreeMap.getElem?_eq_none hpoints
  · rw [getElem?_half_unregister howner hkey, getElem?_half_unregister hkey howner, hagree]

end

end UsageTracker

/-- As long as neither of the two halves has overflown, they agree. -/
theorem trackerAfter_agree (history : List UsageOp) (side : Half) (owner key : String)
    (howner : ¬Overflown history side owner) (hkey : ¬Overflown history side.flip key) :
    (trackerAfter history).Agree side owner key := by
  induction history using List.reverseRecOn with
  | nil => simp [UsageTracker.Agree, trackerAfter]
  | append_singleton history op ih =>
      have howner' : ¬Overflown history side owner := fun hover => howner (hover.snoc op)
      have hkey' : ¬Overflown history side.flip key := fun hover => hkey (hover.snoc op)
      have hbefore := ih howner' hkey'
      have hflag := tooMany_of_not_overflown howner
      have hflag' := tooMany_of_not_overflown hkey
      rw [trackerAfter_snoc] at hflag hflag' ⊢
      cases op with
      | registerUsage nodeA nodeB timestamp =>
          exact hbefore.registerUsage nodeA nodeB timestamp hflag hflag'
      | cleanUp cutoff =>
          exact hbefore.cleanUp (tooMany_of_not_overflown howner')
            (tooMany_of_not_overflown hkey') cutoff
      | unregister node => exact hbefore.unregister node
      | removeNode node utilization => exact hbefore.unregister node

/-- **Taking a node out.** After any history `Unregister(n)` leaves no record of `n`. It leaves
no record that names `n` either, if and only if all records that name it are named in its
own; and a record that still does has overflown at some time, or `n`'s own one has. -/
theorem unregister_forgets_iff (history : List UsageOp) (n : String) :
    let before := trackerAfter history
    let after := before.unregister n
    after.get n = none ∧
      ((∀ side other, n ∉ (after.half side other).entries) ↔
        ∀ side other, other ≠ n → n ∈ (before.half side other).entries →
          other ∈ (before.half side.flip n).entries) ∧
      ∀ side other, n ∈ (after.half side other).entries →
        Overflown history side other ∨ Overflown history side.flip n := by
  intro before after
  have hself : ∀ side, n ∉ (after.half side n).entries := by
    intro side
    simp [after, UsageTracker.half_unregister]
  have hother : ∀ side other, other ≠ n → (n ∈ (after.half side other).entries ↔
      n ∈ (before.half side other).entries ∧
        other ∉ (before.half side.flip n).entries) := by
    intro side other hne
    rw [ExtTreeMap.mem_iff_isSome_getElem?, UsageTracker.getElem?_half_unregister_self hne]
    split
    case isTrue hpoints => simp [hpoints]
    case isFalse hpoints => simp [hpoints]
  refine ⟨?_, ⟨?_, ?_⟩, ?_⟩
  · simp only [after, UsageTracker.unregister]
    cases hget : before.get n with
    | none => exact hget
    | some found => simp [UsageTracker.get]
  · intro hnone side other hne hnamed
    by_contra hpoints
    exact hnone side other ((hother side other hne).mpr ⟨hnamed, hpoints⟩)
  · intro hall side other hnamed
    by_cases hne : other = n
    · exact hself side (hne ▸ hnamed)
    · obtain ⟨hbefore, hpoints⟩ := (hother side other hne).mp hnamed
      exact hpoints (hall side other hne hbefore)
  · intro side other hnamed
    by_contra hnever
    obtain ⟨howner, hkey⟩ := not_or.mp hnever
    have hne : other ≠ n := fun heq => hself side (heq ▸ hnamed)
    obtain ⟨hbefore, hpoints⟩ := (hother side other hne).mp hnamed
    have hagree := trackerAfter_agree history side other n howner hkey
    refine hpoints (CappedMap.mem_entries_iff.mpr ?_)
    rw [← show (before.half side other).entries[n]? = _ from hagree]
    exact CappedMap.mem_entries_iff.mp hbefore

/-- Fifty nodes use `b`, and then `a` does. -/
def lateUses : List (String × String × Time) :=
  crowd.map (fun node => (node, "b", 0)) ++ [("a", "b", 0)]

/-- The record of `b` has no room for `a`, so that `a` still uses `b` when `b` is gone. -/
theorem unregister_late :
    "b" ∈ (((trackerAfter (registrations lateUses)).unregister "b").half .uses "a").entries := by
  have hA : entriesFor .uses "a" lateUses = [("b", 0)] := by
    have hnone : ∀ node ∈ crowd, "a" ≠ node := by
      rintro node hnode rfl
      exact not_mem_crowd ⟨'a', by decide, by decide⟩ hnode
    simpa [entriesFor, lateUses, Half.pair, List.filterMap_map, Function.comp_def] using hnone
  have hB : entriesFor .usedBy "b" lateUses = crowd.map (·, 0) ++ [("a", 0)] := by
    simp [entriesFor, lateUses, Half.pair, List.filterMap_map]
  have hfull : "a" ∉ ((trackerAfter (registrations lateUses)).half .usedBy "b").entries := by
    have hkeys : (crowd.map fun node => (node, (0 : Time))).map Prod.fst = crowd := by
      simp [Function.comp_def]
    rw [half_registrations, hB, CappedMap.entries_putAll_snoc (by rw [hkeys, card_crowd])]
    intro hmem
    have hcrowd := (CappedMap.mem_putAll _ _).1 "a" hmem
    rw [hkeys] at hcrowd
    exact not_mem_crowd ⟨'a', by decide, by decide⟩ hcrowd
  rw [CappedMap.mem_entries_iff]
  refine ⟨0, ?_⟩
  rw [UsageTracker.getElem?_half_unregister_self (by decide), Half.flip, if_neg hfull,
    half_registrations, hA]
  decide

end AutoNodeRepair
