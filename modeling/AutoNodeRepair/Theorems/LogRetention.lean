import AutoNodeRepair.Collect.Window
import AutoNodeRepair.Model.LogCollector
import Mathlib.Data.Int.Order.Basic

/-!
# Which log items are kept

Compaction discards items for good, at every access. Over a whole run this cannot be seen:
each answer is what would be read off the complete history.
-/

namespace AutoNodeRepair

open Collect

/-- A call of the collector. -/
inductive LogCall
  | log (msg : String) (level : LogLevel)
  | getLogs
  deriving DecidableEq, Repr

namespace LogCollector

/-- The collector after a call at that time. -/
def step (lc : LogCollector) : Time × LogCall → LogCollector
  | (now, .log msg level) => lc.log now msg level
  | (now, .getLogs) => (lc.getLogs now).2

/-- The collector after a sequence of calls. -/
def run (lc : LogCollector) (calls : List (Time × LogCall)) : LogCollector :=
  calls.foldl step lc

end LogCollector

/-- The item that a call logs. -/
def loggedItem : Time × LogCall → Option LogItem
  | (now, .log msg level) => some ⟨msg, level, now⟩
  | (_, .getLogs) => none

/-- The complete history. -/
def logged (calls : List (Time × LogCall)) : List LogItem := calls.filterMap loggedItem

/-- The calls are made one after the other. -/
def Chronological (calls : List (Time × LogCall)) : Prop :=
  calls.Pairwise fun a b => a.1 ≤ b.1

theorem LogCollector.compact_store (lc : LogCollector) (now : Time) :
    (lc.compact now).store =
      shorten LogItem.timestamp lc.maxItems (now - lc.itemLifetime) lc.store := by
  have hfirst : (if lc.maxItems < lc.store.length then lc.store.length - lc.maxItems else 0) =
      lc.store.length - lc.maxItems := by
    split
    case isTrue => rfl
    case isFalse => omega
  simp only [compact, hfirst, shorten, List.rtake, Int.sub_eq_add_neg]

/-! ## Runs -/

/-- After a run: the settings are those of the beginning, the store is a late part of the
history, and stands for it. -/
structure Retained (lc : LogCollector) (now : Time) (history : List LogItem)
    (after : LogCollector) : Prop where
  maxItems : after.maxItems = lc.maxItems
  itemLifetime : after.itemLifetime = lc.itemLifetime
  suffix : after.store <:+ history
  standsFor : StandsFor LogItem.timestamp lc.maxItems (now - lc.itemLifetime) after.store history

theorem Retained.compact {lc after : LogCollector} {now later : Time} {history : List LogItem}
    (h : Retained lc now history after) (hlater : now ≤ later) :
    Retained lc later history (after.compact later) where
  maxItems := h.maxItems
  itemLifetime := h.itemLifetime
  suffix := by
    rw [LogCollector.compact_store]
    exact (shorten_suffix _ _ _ _).trans h.suffix
  standsFor := by
    rw [LogCollector.compact_store, h.maxItems, h.itemLifetime]
    exact h.standsFor.shorten (Int.sub_le_sub_right hlater _)

theorem Retained.append {lc after : LogCollector} {now : Time} {history : List LogItem}
    (h : Retained lc now history after) (item : LogItem) :
    Retained lc now (history ++ [item]) { after with store := after.store ++ [item] } where
  maxItems := h.maxItems
  itemLifetime := h.itemLifetime
  suffix := by
    obtain ⟨cut, hcut⟩ := h.suffix
    exact ⟨cut, by rw [← List.append_assoc, hcut]⟩
  standsFor := h.standsFor.append [item]

theorem Retained.step {lc after : LogCollector} {now : Time} {history : List LogItem}
    (h : Retained lc now history after) {call : Time × LogCall} (hlater : now ≤ call.1) :
    Retained lc call.1 (history ++ (loggedItem call).toList) (after.step call) := by
  obtain ⟨later, call⟩ := call
  cases call with
  | log msg level => exact (h.append ⟨msg, level, later⟩).compact hlater
  | getLogs =>
      have hsame : history ++ (loggedItem (later, .getLogs)).toList = history := by
        simp [loggedItem]
      rw [hsame]
      exact h.compact hlater

/-- A run of calls from some time on; the last one is the latest. -/
theorem Retained.run {lc : LogCollector} {calls : List (Time × LogCall)}
    (hcalls : Chronological calls) {after : LogCollector} {now : Time} {history : List LogItem}
    (h : Retained lc now history after) (hnow : ∀ call ∈ calls, now ≤ call.1) {later : Time}
    (hnowLater : now ≤ later) (hlater : ∀ call ∈ calls, call.1 ≤ later) :
    ∃ last ≤ later, Retained lc last (history ++ logged calls) (after.run calls) := by
  induction calls generalizing after now history with
  | nil => exact ⟨now, hnowLater, (List.append_nil history).symm ▸ h⟩
  | cons call calls ih =>
      obtain ⟨hfirst, hrest⟩ := List.pairwise_cons.mp hcalls
      obtain ⟨hcall, hothers⟩ := List.forall_mem_cons.mp hlater
      obtain ⟨last, hlast, hretained⟩ := ih hrest (h.step (hnow call List.mem_cons_self)) hfirst
        hcall hothers
      refine ⟨last, hlast, ?_⟩
      have hlogged : logged (call :: calls) = (loggedItem call).toList ++ logged calls := by
        cases hitem : loggedItem call with
        | none => simp [logged, hitem]
        | some item => simp [logged, hitem]
      rw [hlogged, ← List.append_assoc]
      exact hretained

/-- The run of a new collector. -/
theorem retained_run (maxItems : Nat) (itemLifetime : Duration) {calls : List (Time × LogCall)}
    (hcalls : Chronological calls) {now : Time} (hnow : ∀ call ∈ calls, call.1 ≤ now) :
    ∃ last ≤ now, Retained ⟨maxItems, itemLifetime, []⟩ last (logged calls)
      (LogCollector.run ⟨maxItems, itemLifetime, []⟩ calls) := by
  have hstart : ∀ first, Retained ⟨maxItems, itemLifetime, []⟩ first []
      ⟨maxItems, itemLifetime, []⟩ := fun first =>
    ⟨rfl, rfl, List.suffix_refl _, .refl _ _ _⟩
  cases calls with
  | nil => exact ⟨now, Int.le_refl _, hstart now⟩
  | cons call calls =>
      have hfirst : ∀ other ∈ call :: calls, call.1 ≤ other.1 :=
        List.forall_mem_cons.mpr ⟨Int.le_refl _, (List.pairwise_cons.mp hcalls).1⟩
      exact (hstart call.1).run hcalls hfirst (hnow call List.mem_cons_self) hnow

theorem logged_chronological {calls : List (Time × LogCall)} (hcalls : Chronological calls) :
    (logged calls).Pairwise fun a b => a.timestamp ≤ b.timestamp := by
  refine List.pairwise_filterMap.mpr (hcalls.imp ?_)
  rintro ⟨now, call⟩ ⟨later, call'⟩ hle item hitem item' hitem'
  cases call with
  | getLogs => cases hitem
  | log msg level =>
      cases call' with
      | getLogs => cases hitem'
      | log msg' level' =>
          cases hitem
          cases hitem'
          exact hle

/-- **Log retention.** However often the collector was accessed before, `GetLogs` returns the
items among the last `maxItems` logged ones that are younger than the lifetime, in the order
in which they were logged; and what has been dropped by then would not be due at any later
time either. -/
theorem getLogs_exact (maxItems : Nat) (itemLifetime : Duration)
    (calls : List (Time × LogCall)) (now : Time)
    (hcalls : Chronological (calls ++ [(now, .getLogs)])) :
    let lc := LogCollector.run ⟨maxItems, itemLifetime, []⟩ calls
    (lc.getLogs now).1 = ((logged calls).rtake maxItems).filter
        (fun item => now - itemLifetime < item.timestamp) ∧
      ∀ later, now ≤ later →
        ((lc.getLogs now).2.store.rtake maxItems).filter
            (fun item => later - itemLifetime < item.timestamp) =
          ((logged calls).rtake maxItems).filter
            fun item => later - itemLifetime < item.timestamp := by
  intro lc
  obtain ⟨hbefore, -, hlast⟩ := List.pairwise_append.mp hcalls
  have hlater : ∀ call ∈ calls, call.1 ≤ now := fun call hcall =>
    hlast call hcall _ (List.mem_singleton.mpr rfl)
  obtain ⟨last, hlastNow, hretained⟩ := retained_run maxItems itemLifetime hbefore hlater
  have hcompact := hretained.compact hlastNow
  have hchronological := (logged_chronological hbefore).sublist hretained.suffix.sublist
  refine ⟨?_, fun later hlater => hcompact.standsFor.due_eq (Int.sub_le_sub_right hlater _)⟩
  calc (lc.getLogs now).1
      = shorten LogItem.timestamp lc.maxItems (now - lc.itemLifetime) lc.store :=
        lc.compact_store now
    _ = due LogItem.timestamp lc.maxItems (now - lc.itemLifetime) lc.store :=
        shorten_eq_due hchronological
    _ = due LogItem.timestamp maxItems (now - itemLifetime) lc.store := by
        rw [hretained.maxItems, hretained.itemLifetime]
    _ = due LogItem.timestamp maxItems (now - itemLifetime) (logged calls) :=
        hretained.standsFor.due_eq (Int.sub_le_sub_right hlastNow _)

theorem getLogs_sample :
    let calls : List (Time × LogCall) :=
      [(1, .log "a" .info), (2, .log "b" .info), (2, .getLogs), (5, .log "c" .error)]
    Chronological (calls ++ [(6, .getLogs)]) ∧
    let lc := LogCollector.run ⟨2, 4, []⟩ calls
    (lc.getLogs 6).1 = ((logged calls).rtake 2).filter (fun item => 6 - 4 < item.timestamp) ∧
      ∀ later, 6 ≤ later →
        ((lc.getLogs 6).2.store.rtake 2).filter (fun item => later - 4 < item.timestamp) =
          ((logged calls).rtake 2).filter fun item => later - 4 < item.timestamp :=
  ⟨by unfold Chronological; decide, getLogs_exact 2 4 _ 6 (by unfold Chronological; decide)⟩

example :
    ((newLogCollector.run [(0, .log "a" .info), (minute, .log "b" .error)]).getLogs
      (15 * minute)).1 = [⟨"b", .error, minute⟩] := by
  decide

end AutoNodeRepair
