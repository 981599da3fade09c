import AutoNodeRepair.Collect.CappedMap
import AutoNodeRepair.Model.Kube

/-!
# The usage tracker

`simulator/tracker.go`: which node was found helpful to which when the pods of a
node were moved in the simulation. A record keeps both directions, each as a map
of at most `maxUsageRecorded` entries with an overflow flag.

A record is reached through the map of the tracker only, so updating it in place
is replacing it there. Go visits the keys of a map in no fixed order; here it is
their own, and no result below depends on it.
-/

namespace AutoNodeRepair

open Std Collect

/-- `map[string]time.Time`. -/
abbrev Timestamps := ExtTreeMap String Time

/-- `maxUsageRecorded`. -/
def maxUsageRecorded : Nat := 50

/-- `UsageRecord`: `uses` holds `using` and `usingTooMany`, `usedBy` the other two. -/
structure UsageRecord where
  uses : CappedMap String Time := {}
  usedBy : CappedMap String Time := {}

/-- Changes one half of a record. -/
def UsageRecord.onUses (f : CappedMap String Time → CappedMap String Time) (record : UsageRecord) :
    UsageRecord :=
  { record with uses := f record.uses }

@[inherit_doc UsageRecord.onUses]
def UsageRecord.onUsedBy (f : CappedMap String Time → CappedMap String Time)
    (record : UsageRecord) : UsageRecord :=
  { record with usedBy := f record.usedBy }

/-- `UsageTracker`. -/
structure UsageTracker where
  usage : ExtTreeMap String UsageRecord

/-- `NewUsageTracker`. -/
def newUsageTracker : UsageTracker := ⟨∅⟩

namespace UsageTracker

/-- `Get`. -/
def get (tracker : UsageTracker) (node : String) : Option UsageRecord :=
  tracker.usage[node]?

/-- The record of a node is updated, or a fresh one put in its place. -/
def upsert (tracker : UsageTracker) (node : String) (update : UsageRecord → UsageRecord)
    (fresh : UsageRecord) : UsageTracker :=
  match tracker.get node with
  | some record => ⟨tracker.usage.insert node (update record)⟩
  | none => ⟨tracker.usage.insert node fresh⟩

/-- `RegisterUsage`. -/
def registerUsage (tracker : UsageTracker) (nodeA nodeB : String) (timestamp : Time) :
    UsageTracker :=
  let tracker := tracker.upsert nodeA
    (.onUses fun half => half.put maxUsageRecorded nodeB timestamp)
    { uses := { entries := (∅ : Timestamps).insert nodeB timestamp } }
  tracker.upsert nodeB
    (.onUsedBy fun half => half.put maxUsageRecorded nodeA timestamp)
    { usedBy := { entries := (∅ : Timestamps).insert nodeA timestamp } }

/-- Updates the records of the given nodes, where there are any. -/
def updateAll (tracker : UsageTracker) (update : UsageRecord → UsageRecord)
    (nodes : List String) : UsageTracker :=
  ⟨nodes.foldl (fun usage node => usage.modify node update) tracker.usage⟩

/-- `Unregister`. -/
def unregister (tracker : UsageTracker) (node : String) : UsageTracker :=
  match tracker.get node with
  | none => tracker
  | some record =>
      let tracker := tracker.updateAll (.onUsedBy fun half => half.drop node)
        record.uses.entries.keys
      -- a node that uses itself has lost an entry of its own record by now
      let record := (tracker.get node).getD record
      let tracker := tracker.updateAll (.onUses fun half => half.drop node)
        record.usedBy.entries.keys
      ⟨tracker.usage.erase node⟩

end UsageTracker

/-- `filterOutOld`, for a half whose flag is down. -/
def filterOutOld (cutoff : Time) (half : CappedMap String Time) : CappedMap String Time :=
  half.retain fun timestamp => !decide (timestamp < cutoff)

/-- `CleanUp`: records left without an entry go too. -/
def UsageTracker.cleanUp (tracker : UsageTracker) (cutoff : Time) : UsageTracker :=
  let cleaned := tracker.usage.map fun _ record =>
    (record.onUses (filterOutOld cutoff)).onUsedBy (filterOutOld cutoff)
  ⟨cleaned.filter fun _ record => !(record.uses.isBlank && record.usedBy.isBlank)⟩

/-- `getAllKeys`. -/
def getAllKeys (m : Timestamps) : List String := m.keys

/-- The loop `usingloop` of `RemoveNodeFromTracker`: an overflown half takes all keys
and ends it. -/
def usingLoop (tracker : UsageTracker) (utilization : Timestamps) :
    List String → List String → List String
  | keysToRemove, [] => keysToRemove
  | keysToRemove, usedNode :: rest =>
      match tracker.get usedNode with
      | none => usingLoop tracker utilization keysToRemove rest
      | some usedNodeRecord =>
          if usedNodeRecord.usedBy.tooMany then getAllKeys utilization
          else usingLoop tracker utilization
            (keysToRemove ++ usedNodeRecord.usedBy.entries.keys) rest

/-- The keys `RemoveNodeFromTracker` collects. -/
def keysToRemove (tracker : UsageTracker) (node : String) (utilization : Timestamps) :
    List String :=
  match tracker.get node with
  | none => []
  | some mainRecord =>
      if mainRecord.uses.tooMany then getAllKeys utilization
      else usingLoop tracker utilization [] mainRecord.uses.entries.keys

/-- `RemoveNodeFromTracker`; the utilization map is returned. -/
def removeNodeFromTracker (tracker : UsageTracker) (node : String) (utilization : Timestamps) :
    UsageTracker × Timestamps :=
  let keys := keysToRemove tracker node utilization
  (tracker.unregister node,
    keys.foldl (fun utilization key => utilization.erase key) (utilization.erase node))

end AutoNodeRepair
