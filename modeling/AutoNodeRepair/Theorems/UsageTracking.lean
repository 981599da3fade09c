import Mathlib.Data.List.Induction
import AutoNodeRepair.Logic.Usage

/-!
# The usage tracker over whole histories

The two halves of the records are two copies of one relation, "A uses B since
t", each with its own cap, expiry and deletion. Whatever the history, a pair that
should be related is in each copy, or that copy has overflown; as long as nothing
has overflown, both copies are that relation exactly.
-/

namespace AutoNodeRepair

open Std Collect

/-! ## Histories -/

/-- A call that changes the tracker. -/
inductive UsageOp
  | registerUsage (nodeA nodeB : String) (timestamp : Time)
  | cleanUp (cutoff : Time)
  | unregister (node : String)
  | removeNode (node : String) (utilization : Timestamps)

/-- The tracker after a call. -/
def UsageTracker.apply (tracker : UsageTracker) : UsageOp → UsageTracker
  | .registerUsage nodeA nodeB timestamp => tracker.registerUsage nodeA nodeB timestamp
  | .cleanUp cutoff => tracker.cleanUp cutoff
  | .unregister node => tracker.unregister node
  | .removeNode node utilization => (removeNodeFromTracker tracker node utilization).1

/-- The tracker after a history, from the empty one. -/
def trackerAfter (history : List UsageOp) : UsageTracker :=
  history.foldl UsageTracker.apply newUsageTracker

theorem trackerAfter_snoc (history : List UsageOp) (op : UsageOp) :
    trackerAfter (history ++ [op]) = (trackerAfter history).apply op := by
  simp [trackerAfter]

/-- The call neither renews a use since `t` nor ends it. -/
def UsageOp.spares (use : String × String) (t : Time) : UsageOp → Prop
  | .registerUsage nodeA nodeB _ => (nodeA, nodeB) ≠ use
  | .cleanUp cutoff => ¬t < cutoff
  | .unregister node | .removeNode node _ => node ≠ use.1 ∧ node ≠ use.2

/-- The first node uses the second since `t`: that is the timestamp of the latest
registration, and nothing has ended it since. -/
def LiveSince (history : List UsageOp) (use : String × String) (t : Time) : Prop :=
  ∃ before after, history = before ++ .registerUsage use.1 use.2 t :: after ∧
    ∀ op ∈ after, op.spares use t

/-- `A -> B` is live. -/
def Live (history : List UsageOp) (A B : String) : Prop :=
  ∃ t, LiveSince history (A, B) t

/-- No flag was up at any time. -/
def NeverTooMany (history : List UsageOp) : Prop :=
  ∀ before after, history = before ++ after → ∀ side node,
    ((trackerAfter before).half side node).tooMany = false

theorem not_liveSince_nil (use : String × String) (t : Time) : ¬LiveSince [] use t := by
  rintro ⟨before, after, heq, -⟩
  simp at heq

/-- What is in use after one more call. -/
theorem liveSince_snoc (history : List UsageOp) (op : UsageOp) (use : String × String) (t : Time) :
    LiveSince (history ++ [op]) use t ↔
      op = .registerUsage use.1 use.2 t ∨ LiveSince history use t ∧ op.spares use t := by
  constructor
  · rintro ⟨before, after, heq, hspares⟩
    rcases List.eq_nil_or_concat after with rfl | ⟨earlier, last, rfl⟩
    · obtain ⟨-, hop⟩ := List.append_inj' heq rfl
      exact .inl (List.singleton_inj.mp hop)
    · rw [List.concat_eq_append, ← List.cons_append, ← List.append_assoc] at heq
      obtain ⟨rfl, hop⟩ := List.append_inj' heq rfl
      obtain rfl := List.singleton_inj.mp hop
      rw [List.concat_eq_append] at hspares
      exact .inr ⟨⟨before, earlier, rfl, fun op hop => hspares op (by simp [hop])⟩,
        hspares op (by simp)⟩
  · rintro (rfl | ⟨⟨before, after, rfl, hspares⟩, hop⟩)
    · exact ⟨history, [], rfl, by simp⟩
    · refine ⟨before, after ++ [op], by simp, ?_⟩
      intro other hother
      rcases List.mem_append.mp hother with hother | hother
      · exact hspares other hother
      · exact List.mem_singleton.mp hother ▸ hop

theorem liveSince_cleanUp (history : List UsageOp) (cutoff : Time) (use : String × String)
    (t : Time) :
    LiveSince (history ++ [.cleanUp cutoff]) use t ↔ LiveSince history use t ∧ ¬t < cutoff := by
  simp [liveSince_snoc, UsageOp.spares]

/-- The calls that take a node out. -/
def UsageOp.takesOut (node : String) : UsageOp → Prop
  | .unregister other | .removeNode other _ => other = node
  | _ => False

theorem liveSince_takesOut (history : List UsageOp) {op : UsageOp} {node : String}
    (hop : op.takesOut node) (side : Half) (owner key : String) (t : Time) :
    LiveSince (history ++ [op]) (side.pair owner key) t ↔
      LiveSince history (side.pair owner key) t ∧ node ≠ owner ∧ node ≠ key := by
  rw [liveSince_snoc, ← side.ne_pair_iff]
  cases op with
  | registerUsage nodeA nodeB timestamp => exact hop.elim
  | cleanUp cutoff => exact hop.elim
  | unregister other =>
      obtain rfl : other = node := hop
      simp [UsageOp.spares]
  | removeNode other utilization =>
      obtain rfl : other = node := hop
      simp [UsageOp.spares]

theorem liveSince_registerUsage (history : List UsageOp) (nodeA nodeB : String) (timestamp : Time)
    (side : Half) (owner key : String) (t : Time) :
    LiveSince (history ++ [.registerUsage nodeA nodeB timestamp]) (side.pair owner key) t ↔
      if side.pair nodeA nodeB = (owner, key) then timestamp = t
      else LiveSince history (side.pair owner key) t := by
  rw [liveSince_snoc]
  by_cases hsame : (nodeA, nodeB) = side.pair owner key
  · rw [if_pos ((side.pair_eq_iff ..).mpr hsame), ← hsame]
    simp [UsageOp.spares]
  · have hother : ¬UsageOp.registerUsage nodeA nodeB timestamp =
        .registerUsage (side.pair owner key).1 (side.pair owner key).2 t := by
      intro hop
      obtain ⟨hA, hB, -⟩ := UsageOp.registerUsage.inj hop
      exact hsame (Prod.ext hA hB)
    rw [if_neg (mt (side.pair_eq_iff ..).mp hsame)]
    simp [UsageOp.spares, hsame, hother]

/-! ## Nothing in use is missed -/

/-- A use that is live is in both halves, as far as they have not overflown. -/
def Recorded (history : List UsageOp) (tracker : UsageTracker) : Prop :=
  ∀ side owner key t, LiveSince history (side.pair owner key) t →
    (tracker.half side owner).Holds key t

section

variable {history : List UsageOp} {tracker : UsageTracker}

theorem Recorded.registerUsage (hrec : Recorded history tracker) (nodeA nodeB : String)
    (timestamp : Time) :
    Recorded (history ++ [.registerUsage nodeA nodeB timestamp])
      (tracker.registerUsage nodeA nodeB timestamp) := by
  intro side owner key t hlive
  rw [liveSince_registerUsage] at hlive
  rcases tracker.half_registerUsage_cases nodeA nodeB timestamp side owner key with
    ⟨hsame, hhalf⟩ | ⟨hother, ⟨key', hkey, hhalf⟩ | hhalf⟩
  · rw [if_pos hsame] at hlive
    rw [hhalf, hlive]
    exact CappedMap.holds_put_self _ _ _ _
  · rw [if_neg hother] at hlive
    rw [hhalf]
    exact (hrec side owner key t hlive).put maxUsageRecorded hkey timestamp
  · rw [if_neg hother] at hlive
    rw [hhalf]
    exact hrec side owner key t hlive

theorem Recorded.cleanUp (hrec : Recorded history tracker) (cutoff : Time) :
    Recorded (history ++ [.cleanUp cutoff]) (tracker.cleanUp cutoff) := by
  intro side owner key t hlive
  obtain ⟨hold, hfresh⟩ := (liveSince_cleanUp ..).mp hlive
  rw [UsageTracker.half_cleanUp]
  exact (hrec side owner key t hold).retain (by simpa using hfresh)

theorem Recorded.unregister (hrec : Recorded history tracker) {op : UsageOp} {node : String}
    (hop : op.takesOut node) : Recorded (history ++ [op]) (tracker.unregister node) := by
  intro side owner key t hlive
  obtain ⟨hold, howner, hkey⟩ := (liveSince_takesOut history hop side owner key t).mp hlive
  rw [UsageTracker.half_unregister, if_neg howner.symm]
  split
  · exact (hrec side owner key t hold).drop hkey
  · exact hrec side owner key t hold

/-- One call. -/
theorem Recorded.apply (hrec : Recorded history tracker) (op : UsageOp) :
    Recorded (history ++ [op]) (tracker.apply op) := by
  cases op with
  | registerUsage nodeA nodeB timestamp => exact hrec.registerUsage nodeA nodeB timestamp
  | cleanUp cutoff => exact hrec.cleanUp cutoff
  | unregister node => exact hrec.unregister rfl
  | removeNode node utilization => exact hrec.unregister rfl

end

theorem trackerAfter_recorded (history : List UsageOp) :
    Recorded history (trackerAfter history) := by
  -- from the end: liveness looks at the calls that follow
  induction history using List.reverseRecOn with
  | nil => exact fun side owner key t hlive => absurd hlive (not_liveSince_nil _ t)
  | append_singleton history op ih =>
      rw [trackerAfter_snoc]
      exact ih.apply op

/-! ## Without an overflow nothing else is recorded -/

/-- Both halves are the relation. -/
def Exact (history : List UsageOp) (tracker : UsageTracker) : Prop :=
  ∀ side owner key t, (tracker.half side owner).entries[key]? = some t ↔
    LiveSince history (side.pair owner key) t

section

variable {history : List UsageOp} {tracker : UsageTracker}

theorem Exact.registerUsage (hexact : Exact history tracker) (nodeA nodeB : String)
    (timestamp : Time)
    (hflags : ∀ side node,
      ((tracker.registerUsage nodeA nodeB timestamp).half side node).tooMany = false) :
    Exact (history ++ [.registerUsage nodeA nodeB timestamp])
      (tracker.registerUsage nodeA nodeB timestamp) := by
  intro side owner key t
  rw [liveSince_registerUsage, ← hexact,
    tracker.getElem?_half_registerUsage nodeA nodeB timestamp (hflags side owner)]
  by_cases hsame : side.pair nodeA nodeB = (owner, key)
  · simp [hsame]
  · simp [hsame]

theorem Exact.cleanUp (hexact : Exact history tracker) (cutoff : Time)
    (hflags : ∀ side node, (tracker.half side node).tooMany = false) :
    Exact (history ++ [.cleanUp cutoff]) (tracker.cleanUp cutoff) := by
  intro side owner key t
  rw [liveSince_cleanUp, ← hexact, UsageTracker.getElem?_half_cleanUp (hflags side owner)]
  simp [Option.filter_eq_some_iff]

/-- The node is struck from every record that names it, since its own record names
those. -/
theorem Exact.unregister (hexact : Exact history tracker) {op : UsageOp} {node : String}
    (hop : op.takesOut node) : Exact (history ++ [op]) (tracker.unregister node) := by
  intro side owner key t
  rw [liveSince_takesOut history hop, ← hexact]
  by_cases howner : owner = node
  · -- its own record is gone
    simp [UsageTracker.half_unregister, howner]
  by_cases hkey : key = node
  · subst hkey
    rw [UsageTracker.getElem?_half_unregister_self howner]
    refine iff_of_false ?_ fun h => h.2.2 rfl
    split
    case isTrue => simp
    case isFalse hpoints =>
      -- an entry for the node would also stand in the node's other half
      intro hentry
      refine hpoints (CappedMap.mem_entries_iff.mpr ⟨t, ?_⟩)
      rwa [hexact, side.pair_flip, ← hexact]
  · rw [UsageTracker.getElem?_half_unregister howner hkey]
    exact ⟨fun hentry => ⟨hentry, Ne.symm howner, Ne.symm hkey⟩, And.left⟩

theorem Exact.apply (hexact : Exact history tracker) (op : UsageOp)
    (hbefore : ∀ side node, (tracker.half side node).tooMany = false)
    (hafter : ∀ side node, ((tracker.apply op).half side node).tooMany = false) :
    Exact (history ++ [op]) (tracker.apply op) := by
  cases op with
  | registerUsage nodeA nodeB timestamp =>
      exact hexact.registerUsage nodeA nodeB timestamp hafter
  | cleanUp cutoff => exact hexact.cleanUp cutoff hbefore
  | unregister node => exact hexact.unregister rfl
  | removeNode node utilization => exact hexact.unregister rfl

end

theorem NeverTooMany.before {history : List UsageOp} {op : UsageOp}
    (hnever : NeverTooMany (history ++ [op])) : NeverTooMany history := by
  intro before after heq
  exact hnever before (after ++ [op]) (by simp [heq])

theorem trackerAfter_exact (history : List UsageOp) (hnever : NeverTooMany history) :
    Exact history (trackerAfter history) := by
  induction history using List.reverseRecOn with
  | nil =>
      intro side owner key t
      simp [trackerAfter, not_liveSince_nil]
  | append_singleton history op ih =>
      have hafter := hnever (history ++ [op]) [] (by simp)
      rw [trackerAfter_snoc] at hafter ⊢
      exact (ih hnever.before).apply op (hnever.before history [] (by simp)) hafter

/-! ## Short histories do not overflow -/

/-- A half with room for `room` more entries. -/
def HasRoom (room : Nat) (half : CappedMap String Time) : Prop :=
  half.tooMany = false ∧ half.entries.size + room ≤ maxUsageRecorded

theorem hasRoom_apply {room : Nat} {tracker : UsageTracker}
    (hroom : ∀ side node, HasRoom (room + 1) (tracker.half side node)) (op : UsageOp)
    (side : Half) (node : String) : HasRoom room ((tracker.apply op).half side node) := by
  have hempty : HasRoom room {} := by
    obtain ⟨-, hsize⟩ := hroom side node
    exact ⟨rfl, by simp; omega⟩
  have hkept : HasRoom room (tracker.half side node) := by
    obtain ⟨hflag, hsize⟩ := hroom side node
    exact ⟨hflag, by omega⟩
  have hdropped : ∀ gone, HasRoom room ((tracker.unregister gone).half side node) := by
    intro gone
    rw [UsageTracker.half_unregister]
    split
    · exact hempty
    split
    · have hle := (tracker.half side node).entries.size_erase_le (k := gone)
      exact ⟨hkept.1, Nat.le_trans (Nat.add_le_add_right hle room) hkept.2⟩
    · exact hkept
  cases op with
  | registerUsage nodeA nodeB timestamp =>
      simp only [UsageTracker.apply, UsageTracker.half_registerUsage]
      split
      · -- one entry more at most, and the flag stays down
        obtain ⟨hflag, hsize⟩ := hroom side node
        rw [CappedMap.put_of_lt (by omega)]
        have hle := (tracker.half side node).entries.size_insert_le
          (k := (side.pair nodeA nodeB).2) (v := timestamp)
        exact ⟨hflag, by dsimp only; omega⟩
      · exact hkept
  | cleanUp cutoff =>
      simp only [UsageTracker.apply, UsageTracker.half_cleanUp, filterOutOld]
      refine ⟨by rw [CappedMap.retain_tooMany, hkept.1], ?_⟩
      rw [CappedMap.retain_entries hkept.1]
      exact Nat.le_trans (Nat.add_le_add_right ExtTreeMap.size_filter_le_size room) hkept.2
  | unregister gone => exact hdropped gone
  | removeNode gone utilization => exact hdropped gone

theorem hasRoom_trackerAfter (history : List UsageOp) (room : Nat)
    (hshort : history.length + room ≤ maxUsageRecorded) (side : Half) (node : String) :
    HasRoom room ((trackerAfter history).half side node) := by
  induction history using List.reverseRecOn generalizing room side node with
  | nil => exact ⟨by simp [trackerAfter], by simpa [trackerAfter] using hshort⟩
  | append_singleton history op ih =>
      rw [trackerAfter_snoc]
      refine hasRoom_apply (ih (room + 1) ?_) op side node
      simp only [List.length_append, List.length_singleton] at hshort
      omega

theorem neverTooMany_of_short {history : List UsageOp}
    (hshort : history.length ≤ maxUsageRecorded) : NeverTooMany history := by
  rintro before after rfl side node
  refine (hasRoom_trackerAfter before 0 ?_ side node).1
  rw [List.length_append] at hshort
  omega

/-! ## Removing a node -/

/-- A node that shares a used node with the one removed, as far as the halves tell. -/
theorem not_mem_of_holds {tracker : UsageTracker} {n X C : String} {t t' : Time}
    (huses : (tracker.half .uses n).Holds C t) (husedBy : (tracker.half .usedBy C).Holds X t')
    (utilization : Timestamps) : X ∉ (removeNodeFromTracker tracker n utilization).2 := by
  intro hmem
  rw [ExtTreeMap.mem_iff_isSome_getElem?, getElem?_removeNodeFromTracker] at hmem
  split at hmem
  case isTrue => simp at hmem
  case isFalse hkept =>
    have hX : X ∈ utilization := ExtTreeMap.mem_iff_isSome_getElem?.mpr hmem
    refine hkept (.inr ((mem_keysToRemove hX n).mpr (huses.imp id fun hC => ⟨C, ?_, ?_⟩)))
    · exact CappedMap.mem_entries_iff.mpr ⟨t, hC⟩
    · exact husedBy.imp id fun hX' => CappedMap.mem_entries_iff.mpr ⟨t', hX'⟩

/-- With exact halves, nothing else is taken out. -/
theorem Exact.getElem?_removeNode {history : List UsageOp} {tracker : UsageTracker}
    (hexact : Exact history tracker)
    (hflags : ∀ side node, (tracker.half side node).tooMany = false) {n X : String}
    (hother : ¬(X = n ∨ ∃ C, Live history n C ∧ Live history X C)) (utilization : Timestamps) :
    (removeNodeFromTracker tracker n utilization).2[X]? = utilization[X]? := by
  rw [getElem?_removeNodeFromTracker]
  by_cases hX : X ∈ utilization
  · refine if_neg ?_
    rintro (heq | hkey)
    · exact hother (.inl heq)
    rcases (mem_keysToRemove hX n).mp hkey with hflag | ⟨C, hC, hflag | hused⟩
    · simp [hflags] at hflag
    · simp [hflags] at hflag
    · -- without a flag it was taken out for a used node they share
      obtain ⟨t, ht⟩ := CappedMap.mem_entries_iff.mp hC
      obtain ⟨t', ht'⟩ := CappedMap.mem_entries_iff.mp hused
      exact hother (.inr ⟨C, ⟨t, (hexact .uses n C t).mp ht⟩, t', (hexact .usedBy C X t').mp ht'⟩)
  · rw [ExtTreeMap.getElem?_eq_none hX, ite_self]

/-- After any history, removing a node takes it out of the utilization map together
with every node that shares a used node with it; as long as nothing has
overflown, it takes out no other and leaves the rest as it was. -/
theorem removeNodeFromTracker_sound (history : List UsageOp) (n : String)
    (utilization : Timestamps) :
    let after := (removeNodeFromTracker (trackerAfter history) n utilization).2
    (n ∉ after ∧ ∀ X C, Live history n C → Live history X C → X ∉ after) ∧
      (NeverTooMany history → ∀ X,
        ((X = n ∨ ∃ C, Live history n C ∧ Live history X C) → X ∉ after) ∧
        (¬(X = n ∨ ∃ C, Live history n C ∧ Live history X C) →
          after[X]? = utilization[X]?)) := by
  intro after
  have hself : n ∉ after := by
    rw [ExtTreeMap.mem_iff_isSome_getElem?, getElem?_removeNodeFromTracker]
    simp
  have hshared : ∀ X C, Live history n C → Live history X C → X ∉ after := by
    rintro X C ⟨t, hn⟩ ⟨t', hX⟩
    have hrec := trackerAfter_recorded history
    exact not_mem_of_holds (hrec .uses n C t hn) (hrec .usedBy C X t' hX) utilization
  refine ⟨⟨hself, hshared⟩, fun hnever X => ⟨?_, fun hother => ?_⟩⟩
  · rintro (rfl | ⟨C, hn, hX⟩)
    · exact hself
    · exact hshared X C hn hX
  · exact (trackerAfter_exact history hnever).getElem?_removeNode
      (hnever history [] (by simp)) hother utilization

/-- A uses B and C, X uses C and C uses Z: with A goes X, but neither C nor M. -/
theorem removeNodeFromTracker_sound_sample :
    let history : List UsageOp := [.registerUsage "A" "B" 0, .registerUsage "A" "C" 0,
      .registerUsage "X" "C" 0, .registerUsage "C" "Z" 0, .registerUsage "M" "N" 0]
    let utilization : Timestamps :=
      ((((∅ : Timestamps).insert "A" 0).insert "C" 1).insert "X" 2).insert "M" 3
    let after := (removeNodeFromTracker (trackerAfter history) "A" utilization).2
    "A" ∉ after ∧ "X" ∉ after ∧ after["C"]? = some 1 ∧ after["M"]? = some 3 := by
  intro history utilization after
  obtain ⟨⟨hself, hshared⟩, hexact⟩ := removeNodeFromTracker_sound history "A" utilization
  have hlive : ∀ {A B}, Live history A B → ∃ t, UsageOp.registerUsage A B t ∈ history := by
    rintro A B ⟨t, before, rest, heq, -⟩
    exact ⟨t, by simp [heq]⟩
  have hA : Live history "A" "C" :=
    ⟨0, [.registerUsage "A" "B" 0], _, rfl, by simp [UsageOp.spares]⟩
  have hX : Live history "X" "C" :=
    ⟨0, [.registerUsage "A" "B" 0, .registerUsage "A" "C" 0], _, rfl, by simp [UsageOp.spares]⟩
  have hkept : ∀ Y, (Y = "C" ∨ Y = "M") → after[Y]? = utilization[Y]? := by
    intro Y hY
    refine (hexact (neverTooMany_of_short (by decide)) Y).2 ?_
    rintro (rfl | ⟨C, hAC, hYC⟩)
    · simp at hY
    · obtain ⟨t, ht⟩ := hlive hAC
      obtain ⟨t', ht'⟩ := hlive hYC
      simp only [history, List.mem_cons, UsageOp.registerUsage.injEq, List.not_mem_nil] at ht ht'
      rcases hY with rfl | rfl <;> simp_all
  refine ⟨hself, hshared "X" "C" hA hX, ?_, ?_⟩
  · rw [hkept "C" (.inl rfl)]
    decide
  · rw [hkept "M" (.inr rfl)]
    decide

end AutoNodeRepair
