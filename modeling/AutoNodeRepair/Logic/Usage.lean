import AutoNodeRepair.Model.Tracker

/-!
# What the tracker's operations do to a record

A node without a record counts as one with an empty record: nothing the tracker
computes tells the two apart. With that, each operation is a function of the
halves of the records, one equation per operation for both halves.
-/

namespace AutoNodeRepair

open Std Collect

namespace UsageTracker

/-- The record of a node, empty if there is none. -/
def record (tracker : UsageTracker) (node : String) : UsageRecord :=
  (tracker.get node).getD {}

@[simp] theorem record_new (node : String) : newUsageTracker.record node = {} := by
  simp [record, get, newUsageTracker]

/-! ## RegisterUsage -/

theorem record_of_get {tracker : UsageTracker} {node : String} {found : Option UsageRecord}
    (hget : tracker.get node = found) : tracker.record node = found.getD {} := by
  rw [record, hget]

theorem record_upsert (tracker : UsageTracker) (node : String) (update : UsageRecord → UsageRecord)
    (other : String) :
    (tracker.upsert node update (update {})).record other =
      if other = node then update (tracker.record other) else tracker.record other := by
  unfold upsert
  by_cases heq : other = node
  · subst heq
    cases hget : tracker.get other with
    | none => rw [record_of_get hget]; simp [record, get]
    | some found => rw [record_of_get hget]; simp [record, get]
  · have hne : ¬node = other := fun h => heq h.symm
    cases tracker.get node with
    | none => simp [record, get, ExtTreeMap.getElem?_insert, hne, heq]
    | some found => simp [record, get, ExtTreeMap.getElem?_insert, hne, heq]

/-- A fresh record has room, so that it is what the update makes of an empty one. -/
theorem put_fresh (node : String) (timestamp : Time) :
    ({} : CappedMap String Time).put maxUsageRecorded node timestamp =
      { entries := (∅ : Timestamps).insert node timestamp } :=
  CappedMap.put_of_lt (by simp [maxUsageRecorded]) node timestamp

/-- One half of each of the two records takes the entry. -/
theorem record_registerUsage (tracker : UsageTracker) (nodeA nodeB : String) (timestamp : Time)
    (node : String) :
    (tracker.registerUsage nodeA nodeB timestamp).record node =
      { uses := if node = nodeA
          then (tracker.record node).uses.put maxUsageRecorded nodeB timestamp
          else (tracker.record node).uses
        usedBy := if node = nodeB
          then (tracker.record node).usedBy.put maxUsageRecorded nodeA timestamp
          else (tracker.record node).usedBy } := by
  simp only [registerUsage, ← put_fresh]
  have hA := tracker.record_upsert nodeA
    (.onUses fun half => half.put maxUsageRecorded nodeB timestamp) node
  have hB := (tracker.upsert nodeA
      (.onUses fun half => half.put maxUsageRecorded nodeB timestamp)
      { uses := ({} : CappedMap String Time).put maxUsageRecorded nodeB timestamp }).record_upsert
    nodeB (.onUsedBy fun half => half.put maxUsageRecorded nodeA timestamp) node
  simp only [UsageRecord.onUses, UsageRecord.onUsedBy] at hA hB ⊢
  rw [hB, hA]
  split <;> split <;> rfl

/-! ## Unregister -/

theorem get_updateAll (update : UsageRecord → UsageRecord) (other : String) :
    ∀ (nodes : List String) (tracker : UsageTracker), nodes.Nodup →
    (tracker.updateAll update nodes).get other =
      if other ∈ nodes then (tracker.get other).map update else tracker.get other := by
  intro nodes
  induction nodes with
  | nil => intro tracker _; rfl
  | cons node rest ih =>
      intro tracker hnodup
      obtain ⟨hnode, hrest⟩ := List.nodup_cons.mp hnodup
      have hstep := ih ⟨tracker.usage.modify node update⟩ hrest
      rw [show tracker.updateAll update (node :: rest) =
        updateAll ⟨tracker.usage.modify node update⟩ update rest from rfl, hstep]
      by_cases heq : other = node
      · subst heq
        simp [get, hnode]
      · have hne : ¬node = other := fun h => heq h.symm
        simp [get, ExtTreeMap.getElem?_modify, hne, heq]

theorem nodup_keys (m : Timestamps) : m.keys.Nodup := by
  simpa [List.Nodup] using m.distinct_keys

/-- A loop over the keys of a half, with an update that makes nothing out of nothing. -/
theorem record_updateAll (tracker : UsageTracker) {update : UsageRecord → UsageRecord}
    (hblank : update {} = {}) (m : Timestamps) (other : String) :
    (tracker.updateAll update m.keys).record other =
      if other ∈ m then update (tracker.record other) else tracker.record other := by
  rw [record, get_updateAll update other _ tracker (nodup_keys m), record]
  simp only [ExtTreeMap.mem_keys]
  cases tracker.get other with
  | none => split <;> simp [hblank]
  | some found => split <;> rfl

theorem record_erase (tracker : UsageTracker) (node other : String) :
    record ⟨tracker.usage.erase node⟩ other =
      if other = node then {} else tracker.record other := by
  by_cases heq : other = node
  · simp [heq, record, get]
  · have hne : ¬node = other := fun h => heq h.symm
    simp [heq, hne, record, get, ExtTreeMap.getElem?_erase]

@[simp] theorem drop_blank (node : String) :
    ({} : CappedMap String Time).drop node = {} := by
  simp [CappedMap.drop]

/-- The second loop of `Unregister` visits the nodes that the record found has, except
maybe the node itself. -/
theorem mem_usedBy_afterUses {tracker : UsageTracker} {node other : String} {found : UsageRecord}
    (hget : tracker.get node = some found) (hne : other ≠ node) :
    other ∈ (((tracker.updateAll (.onUsedBy fun half => half.drop node)
      found.uses.entries.keys).get node).getD found).usedBy.entries ↔
      other ∈ found.usedBy.entries := by
  rw [get_updateAll _ _ _ _ (nodup_keys _), hget]
  split <;> simp [UsageRecord.onUsedBy, CappedMap.drop, hne.symm]

/-- The node's own record goes. Another one loses the node from a half, but only if the
node's record points at it. -/
theorem record_unregister (tracker : UsageTracker) (node other : String) :
    (tracker.unregister node).record other =
      if other = node then {} else
        { uses := if other ∈ (tracker.record node).usedBy.entries
            then (tracker.record other).uses.drop node else (tracker.record other).uses
          usedBy := if other ∈ (tracker.record node).uses.entries
            then (tracker.record other).usedBy.drop node else (tracker.record other).usedBy } := by
  unfold unregister
  cases hget : tracker.get node with
  | none =>
      by_cases heq : other = node
      · simp [heq, record, hget]
      · simp [heq, record_of_get hget]
  | some found =>
      simp only [record_of_get hget, Option.getD_some]
      rw [record_erase]
      by_cases heq : other = node
      · rw [if_pos heq, if_pos heq]
      -- the two loops, from the last one
      rw [if_neg heq, if_neg heq, record_updateAll _ (by simp [UsageRecord.onUses]),
        record_updateAll _ (by simp [UsageRecord.onUsedBy])]
      simp only [mem_usedBy_afterUses hget heq]
      split <;> split <;> rfl

/-! ## CleanUp -/

@[simp] theorem filterOutOld_blank (cutoff : Time) : filterOutOld cutoff {} = {} := by
  have hempty : (∅ : Timestamps).filter (fun _ v => !decide (v < cutoff)) = ∅ :=
    ExtTreeMap.ext_getElem? fun k => by simp
  simp [filterOutOld, CappedMap.retain, hempty]

/-- A record that is deleted had become empty. -/
theorem record_cleanUp (tracker : UsageTracker) (cutoff : Time) (node : String) :
    (tracker.cleanUp cutoff).record node =
      { uses := filterOutOld cutoff (tracker.record node).uses
        usedBy := filterOutOld cutoff (tracker.record node).usedBy } := by
  cases hget : tracker.get node with
  | none =>
      have hnone : tracker.usage[node]? = none := hget
      simp [record, get, cleanUp, hnone]
  | some found =>
      have hfound : tracker.usage[node]? = some found := hget
      rw [record_of_get hget]
      simp only [record, get, cleanUp, ExtTreeMap.getElem?_filter', ExtTreeMap.getElem?_map,
        hfound, Option.map_some, Option.getD_some, Option.filter_some]
      split
      case isTrue => rfl
      case isFalse hblank =>
        simp only [Bool.not_eq_true, Bool.not_eq_false', Bool.and_eq_true] at hblank
        have huses := CappedMap.eq_of_isBlank hblank.1
        have husedBy := CappedMap.eq_of_isBlank hblank.2
        simp only [UsageRecord.onUses, UsageRecord.onUsedBy] at huses husedBy
        simp [huses, husedBy]

end UsageTracker

/-! ## One half of the records -/

/-- Which half of the records. -/
inductive Half
  | uses
  | usedBy
  deriving DecidableEq, Repr

namespace Half

/-- The use that the entry `key` in the record of `owner` stands for; also the owner and
the key of the entry for a use. -/
def pair : Half → String → String → String × String
  | .uses, owner, key => (owner, key)
  | .usedBy, owner, key => (key, owner)

/-- The other half. -/
def flip : Half → Half
  | .uses => .usedBy
  | .usedBy => .uses

theorem pair_eq_iff (half : Half) (a b owner key : String) :
    half.pair a b = (owner, key) ↔ (a, b) = half.pair owner key := by
  cases half <;> simp [pair, and_comm]

theorem pair_flip (half : Half) (owner key : String) :
    half.flip.pair owner key = half.pair key owner := by
  cases half <;> rfl

theorem flip_flip (half : Half) : half.flip.flip = half := by
  cases half <;> rfl

theorem ne_pair_iff (half : Half) (node owner key : String) :
    node ≠ (half.pair owner key).1 ∧ node ≠ (half.pair owner key).2 ↔
      node ≠ owner ∧ node ≠ key := by
  cases half <;> simp [pair, and_comm]

end Half

namespace UsageTracker

/-- A half of a node's record. -/
def half (tracker : UsageTracker) : Half → String → CappedMap String Time
  | .uses, node => (tracker.record node).uses
  | .usedBy, node => (tracker.record node).usedBy

@[simp] theorem half_new (side : Half) (node : String) : newUsageTracker.half side node = {} := by
  cases side <;> simp [half]

theorem half_registerUsage (tracker : UsageTracker) (nodeA nodeB : String) (timestamp : Time)
    (side : Half) (node : String) :
    (tracker.registerUsage nodeA nodeB timestamp).half side node =
      if node = (side.pair nodeA nodeB).1
      then (tracker.half side node).put maxUsageRecorded (side.pair nodeA nodeB).2 timestamp
      else tracker.half side node := by
  cases side <;> simp only [half, record_registerUsage] <;> rfl

/-- Seen from one entry: a call puts it, or another one into the same half, or leaves the
half alone. -/
theorem half_registerUsage_cases (tracker : UsageTracker) (nodeA nodeB : String)
    (timestamp : Time) (side : Half) (owner key : String) :
    side.pair nodeA nodeB = (owner, key) ∧
        (tracker.registerUsage nodeA nodeB timestamp).half side owner =
          (tracker.half side owner).put maxUsageRecorded key timestamp ∨
      side.pair nodeA nodeB ≠ (owner, key) ∧
        ((∃ key', key' ≠ key ∧ (tracker.registerUsage nodeA nodeB timestamp).half side owner =
            (tracker.half side owner).put maxUsageRecorded key' timestamp) ∨
          (tracker.registerUsage nodeA nodeB timestamp).half side owner =
            tracker.half side owner) := by
  rw [half_registerUsage]
  obtain ⟨owner', key'⟩ := side.pair nodeA nodeB
  by_cases howner : owner = owner'
  · subst howner
    rw [if_pos rfl]
    by_cases hkey : key' = key
    · exact .inl ⟨by rw [hkey], by rw [hkey]⟩
    · exact .inr ⟨by simpa using hkey, .inl ⟨key', hkey, rfl⟩⟩
  · rw [if_neg howner]
    exact .inr ⟨fun heq => howner (Prod.mk.inj heq).1.symm, .inr rfl⟩

theorem half_unregister (tracker : UsageTracker) (node : String) (side : Half) (other : String) :
    (tracker.unregister node).half side other =
      if other = node then {}
      else if other ∈ (tracker.half side.flip node).entries
        then (tracker.half side other).drop node
      else tracker.half side other := by
  cases side <;> simp only [half, record_unregister, Half.flip] <;> split <;> rfl

theorem half_cleanUp (tracker : UsageTracker) (cutoff : Time) (side : Half) (node : String) :
    (tracker.cleanUp cutoff).half side node = filterOutOld cutoff (tracker.half side node) := by
  cases side <;> simp only [half, record_cleanUp]

/-! ## One entry -/

/-- Without the flag afterwards, a registration has made or renewed its own entry only. -/
theorem getElem?_half_registerUsage (tracker : UsageTracker) (nodeA nodeB : String)
    (timestamp : Time) {side : Half} {owner : String}
    (hflag : ((tracker.registerUsage nodeA nodeB timestamp).half side owner).tooMany = false)
    (key : String) :
    ((tracker.registerUsage nodeA nodeB timestamp).half side owner).entries[key]? =
      if side.pair nodeA nodeB = (owner, key) then some timestamp
      else (tracker.half side owner).entries[key]? := by
  rcases tracker.half_registerUsage_cases nodeA nodeB timestamp side owner key with
    ⟨hsame, hhalf⟩ | ⟨hother, ⟨key', hkey, hhalf⟩ | hhalf⟩
  · rw [hhalf] at hflag ⊢
    rw [if_pos hsame, CappedMap.put_entries hflag]
    simp
  · rw [hhalf] at hflag ⊢
    rw [if_neg hother, CappedMap.put_entries hflag, ExtTreeMap.getElem?_insert]
    simp [hkey]
  · rw [if_neg hother, hhalf]

theorem getElem?_half_cleanUp {tracker : UsageTracker} {side : Half} {owner : String}
    (hflag : (tracker.half side owner).tooMany = false) (cutoff : Time) (key : String) :
    ((tracker.cleanUp cutoff).half side owner).entries[key]? =
      (tracker.half side owner).entries[key]?.filter fun timestamp =>
        !decide (timestamp < cutoff) := by
  rw [half_cleanUp, filterOutOld, CappedMap.retain_entries hflag, ExtTreeMap.getElem?_filter']

/-- The entries of other nodes stay. -/
theorem getElem?_half_unregister {tracker : UsageTracker} {node owner key : String}
    (howner : owner ≠ node) (hkey : key ≠ node) (side : Half) :
    ((tracker.unregister node).half side owner).entries[key]? =
      (tracker.half side owner).entries[key]? := by
  rw [half_unregister, if_neg howner]
  split
  · simp [CappedMap.drop, ExtTreeMap.getElem?_erase, hkey.symm]
  · rfl

/-- The entry of the node goes from the records that its own one points at. -/
theorem getElem?_half_unregister_self {tracker : UsageTracker} {node owner : String}
    (howner : owner ≠ node) (side : Half) :
    ((tracker.unregister node).half side owner).entries[node]? =
      if owner ∈ (tracker.half side.flip node).entries then none
      else (tracker.half side owner).entries[node]? := by
  rw [half_unregister, if_neg howner]
  split
  · simp [CappedMap.drop]
  · rfl

end UsageTracker

/-! ## RemoveNodeFromTracker -/

section

variable {tracker : UsageTracker} {utilization : Timestamps}

/-- Among the keys of the map, the loop collects those that some used node may be used
by; the order of the visits does not show. -/
theorem mem_usingLoop {key : String} (hkey : key ∈ utilization) :
    ∀ nodes collected : List String,
    key ∈ usingLoop tracker utilization collected nodes ↔
      key ∈ collected ∨ ∃ used ∈ nodes, (tracker.half .usedBy used).tooMany = true ∨
        key ∈ (tracker.half .usedBy used).entries := by
  intro nodes
  induction nodes with
  | nil => intro collected; simp [usingLoop]
  | cons used rest ih =>
      intro collected
      cases hget : tracker.get used with
      | none =>
          rw [usingLoop, hget]
          simp [ih, UsageTracker.half, UsageTracker.record_of_get hget]
      | some found =>
          rw [usingLoop, hget]
          cases hflag : found.usedBy.tooMany with
          | true =>
              simp [UsageTracker.half, UsageTracker.record_of_get hget, hflag, getAllKeys, hkey]
          | false =>
              simp [ih, UsageTracker.half, UsageTracker.record_of_get hget, hflag, or_assoc]

theorem mem_keysToRemove {key : String} (hkey : key ∈ utilization) (node : String) :
    key ∈ keysToRemove tracker node utilization ↔
      (tracker.half .uses node).tooMany = true ∨
        ∃ used ∈ (tracker.half .uses node).entries, (tracker.half .usedBy used).tooMany = true ∨
          key ∈ (tracker.half .usedBy used).entries := by
  unfold keysToRemove
  cases hget : tracker.get node with
  | none => simp [UsageTracker.half, UsageTracker.record_of_get hget]
  | some found =>
      have hhalf : tracker.half .uses node = found.uses := by
        rw [UsageTracker.half, UsageTracker.record_of_get hget, Option.getD_some]
      rw [hhalf]
      cases hflag : found.uses.tooMany with
      | true => simp [hflag, getAllKeys, hkey]
      | false => simp [hflag, mem_usingLoop hkey]

theorem getElem?_eraseAll (key : String) :
    ∀ (keys : List String) (utilization : Timestamps),
    (keys.foldl (fun utilization key => utilization.erase key) utilization)[key]? =
      if key ∈ keys then none else utilization[key]? := by
  intro keys
  induction keys with
  | nil => intro utilization; rfl
  | cons first rest ih =>
      intro utilization
      rw [List.foldl_cons, ih]
      by_cases heq : first = key
      · simp [heq]
      · have hne : ¬key = first := fun h => heq h.symm
        simp [ExtTreeMap.getElem?_erase, heq, hne]

theorem getElem?_removeNodeFromTracker (tracker : UsageTracker) (node : String)
    (utilization : Timestamps) (key : String) :
    (removeNodeFromTracker tracker node utilization).2[key]? =
      if key = node ∨ key ∈ keysToRemove tracker node utilization then none
      else utilization[key]? := by
  simp only [removeNodeFromTracker, getElem?_eraseAll, ExtTreeMap.getElem?_erase]
  by_cases heq : key = node
  · simp [heq]
  · have hne : ¬node = key := fun h => heq h.symm
    simp [heq, hne]

end

end AutoNodeRepair
