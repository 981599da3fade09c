import Mathlib.Data.List.Chain
import Mathlib.Tactic.Positivity
import Mathlib.Tactic.Ring

/-!
# Exponential backoff

The record of one party that may fail: how long its current backoff lasts, when
it ends and which failure it started with. Three things happen to it (`Event`):
a failure, which doubles the duration up to a cap if the last backoff has ended
and starts over otherwise; a sweep, which drops a record whose failure is too long
ago; a success, which drops it at once.

The law is `run_of_spaced`: failures that each come after the end of the last
backoff, but before a sweep may drop the record, are given durations that double
up to the cap.
-/

namespace Retry

/-- The first duration, the longest one, and how long a record is kept. -/
structure Policy where
  initial : Int
  cap : Int
  reset : Int

structure Record where
  duration : Int
  ends : Int
  last : Int
  deriving DecidableEq, Repr

inductive Event
  | failure (t : Int)
  | sweep (t : Int)
  | success
  deriving DecidableEq, Repr

/-- When it happens; a success needs no clock. -/
def Event.time : Event → Option Int
  | .failure t | .sweep t => some t
  | .success => none

namespace Policy

variable (p : Policy)

/-- The record a failure leaves. -/
def fail (t : Int) (info : Option Record) : Record :=
  let duration := match info with
    | none => p.initial
    | some r => if r.ends < t then min (2 * r.duration) p.cap else p.initial
  ⟨duration, t + duration, t⟩

/-- One event. -/
def step (info : Option Record) : Event → Option Record
  | .failure t => some (p.fail t info)
  | .sweep t => info.filter fun r => !decide (r.last + p.reset < t)
  | .success => none

/-- All events, in order. -/
def run (info : Option Record) (events : List Event) : Option Record :=
  events.foldl p.step info

/-- The records the failures leave, in order. -/
def failed : Option Record → List Event → List Record
  | _, [] => []
  | info, .failure t :: rest => p.fail t info :: failed (p.step info (.failure t)) rest
  | info, .sweep t :: rest => failed (p.step info (.sweep t)) rest
  | info, .success :: rest => failed (p.step info .success) rest

/-- The second failure comes after the backoff of the first, and in time to find its
record. -/
def Follows (r r' : Record) : Prop :=
  r.ends < r'.last ∧ r'.last ≤ r.last + p.reset

/-- The duration after `k` failures more than one. -/
def delay (k : Nat) : Int := min (p.initial * 2 ^ k) p.cap

variable {p}

/-- A sweep drops the record or leaves it. -/
theorem step_sweep (r : Record) (t : Int) :
    p.step (some r) (.sweep t) = if r.last + p.reset < t then none else some r := by
  by_cases hstale : r.last + p.reset < t <;> simp [step, Option.filter, hstale]

@[simp] theorem run_nil (info : Option Record) : p.run info [] = info := rfl

@[simp] theorem run_cons (info : Option Record) (e : Event) (rest : List Event) :
    p.run info (e :: rest) = p.run (p.step info e) rest := rfl

theorem run_append (info : Option Record) (events more : List Event) :
    p.run info (events ++ more) = p.run (p.run info events) more :=
  List.foldl_append

theorem failed_append (info : Option Record) (events more : List Event) :
    p.failed info (events ++ more) = p.failed info events ++ p.failed (p.run info events) more := by
  induction events generalizing info with
  | nil => rfl
  | cons e rest ih => cases e <;> simp [failed, ih]

/-- The last of some failures is the one recorded. -/
theorem run_replicate_failure (info : Option Record) {n : Nat} (hn : 0 < n) (t : Int) :
    ∃ r, p.run info (List.replicate n (.failure t)) = some r ∧ r.last = t := by
  obtain ⟨k, rfl⟩ := Nat.exists_eq_succ_of_ne_zero (Nat.ne_of_gt hn)
  rw [List.replicate_succ', run_append]
  exact ⟨_, rfl, rfl⟩

/-- The last failure of a record is one of the events. -/
theorem last_of_mem_failed {r : Record} (events : List Event) (info : Option Record)
    (hr : r ∈ p.failed info events) : .failure r.last ∈ events := by
  induction events generalizing info with
  | nil => simp [failed] at hr
  | cons e rest ih =>
      cases e with
      | failure t =>
          rcases List.mem_cons.mp hr with rfl | hr
          · exact List.mem_cons_self
          · exact List.mem_cons_of_mem _ (ih _ hr)
      | sweep t => exact List.mem_cons_of_mem _ (ih _ hr)
      | success => exact List.mem_cons_of_mem _ (ih _ hr)

theorem delay_zero (hcap : p.initial ≤ p.cap) : p.delay 0 = p.initial := by
  simp [delay, hcap]

/-- Doubling and capping commute. -/
theorem delay_succ (hinitial : 0 ≤ p.initial) (hcap : p.initial ≤ p.cap) (k : Nat) :
    min (2 * p.delay k) p.cap = p.delay (k + 1) := by
  have hpow : p.initial * 2 ^ (k + 1) = 2 * (p.initial * 2 ^ k) := by ring
  have hpos : 0 ≤ p.initial * 2 ^ k := Int.mul_nonneg hinitial (by positivity)
  unfold delay
  rw [hpow]
  omega

/-- From a record of the closed form on, spaced failures keep it. -/
theorem run_of_record (hinitial : 0 ≤ p.initial) (hcap : p.initial ≤ p.cap) (events : List Event)
    (k : Nat) (r : Record) (hr : r = ⟨p.delay k, r.last + p.delay k, r.last⟩)
    (hspaced : (r :: p.failed (some r) events).IsChain p.Follows)
    (htimes : (events.filterMap Event.time).Pairwise (· ≤ ·))
    (hsuccess : .success ∉ events)
    (hkept : ∀ t ∈ events.filterMap Event.time,
      t ≤ ((p.failed (some r) events).getLastD r).last + p.reset) :
    let last := (p.failed (some r) events).getLastD r
    let n := k + (p.failed (some r) events).length
    p.run (some r) events = some last ∧ last = ⟨p.delay n, last.last + p.delay n, last.last⟩ := by
  induction events generalizing k r with
  | nil => exact ⟨rfl, hr⟩
  | cons e rest ih =>
      cases e with
      | success => simp at hsuccess
      | failure t =>
          -- the backoff has ended, so the duration doubles
          obtain ⟨hfollows, hspaced⟩ := List.isChain_cons_cons.mp hspaced
          have hends : r.ends < t := hfollows.1
          have hnext : p.fail t (some r) = ⟨p.delay (k + 1), t + p.delay (k + 1), t⟩ := by
            have hduration : r.duration = p.delay k := congrArg Record.duration hr
            simp [fail, hends, hduration, delay_succ hinitial hcap]
          have hrest := ih (k + 1) (p.fail t (some r)) (by rw [hnext]) hspaced
            (List.pairwise_cons.mp htimes).2 (by simpa using hsuccess) fun t' ht' => by
              have hlate := hkept t' (List.mem_cons_of_mem _ ht')
              simpa only [failed, step, List.getLastD_cons] using hlate
          simpa only [failed, step, run_cons, List.getLastD_cons, List.length_cons, Nat.add_assoc,
            Nat.add_comm 1] using hrest
      | sweep t =>
          obtain ⟨hbefore, htimes⟩ := List.pairwise_cons.mp htimes
          -- too early to drop the record: the next failure, if any, still finds it
          have hearly : t ≤ r.last + p.reset := by
            have hlate := hkept t List.mem_cons_self
            simp only [failed] at hspaced hlate
            cases hnext : p.failed (p.step (some r) (.sweep t)) rest with
            | nil => simpa [hnext] using hlate
            | cons r' more =>
                rw [hnext] at hspaced
                have hmem : .failure r'.last ∈ rest :=
                  last_of_mem_failed rest _ (hnext ▸ List.mem_cons_self)
                have hle := hbefore r'.last (List.mem_filterMap.mpr ⟨_, hmem, rfl⟩)
                exact Int.le_trans hle (List.isChain_cons_cons.mp hspaced).1.2
          have hstep : p.step (some r) (.sweep t) = some r := by
            rw [step_sweep, if_neg (Int.not_lt.mpr hearly)]
          simp only [failed, hstep, run_cons] at hspaced hkept ⊢
          exact ih k r hr hspaced htimes (by simpa using hsuccess)
            fun t' ht' => hkept t' (List.mem_cons_of_mem _ ht')

/-- **The law.** Without a record at first, with times that do not decrease, no success
after a failure, and no event so late after the last failure that it drops the record,
`n` spaced failures leave the duration `delay (n - 1)`, from the last of them on. -/
theorem run_of_spaced (hinitial : 0 ≤ p.initial) (hcap : p.initial ≤ p.cap) (events : List Event)
    (hspaced : (p.failed none events).IsChain p.Follows)
    (htimes : (events.filterMap Event.time).Pairwise (· ≤ ·))
    (hsuccess : ∀ before after, events = before ++ .success :: after → ∀ t, .failure t ∉ before)
    {last : Record} (hlast : (p.failed none events).getLast? = some last)
    (hkept : ∀ t ∈ events.filterMap Event.time, t ≤ last.last + p.reset) :
    let n := (p.failed none events).length - 1
    p.run none events = some last ∧ last = ⟨p.delay n, last.last + p.delay n, last.last⟩ := by
  induction events with
  | nil => simp [failed] at hlast
  | cons e rest ih =>
      have hrest : ∀ before after, rest = before ++ .success :: after →
          ∀ t, .failure t ∉ before := by
        intro before after hsplit t ht
        exact hsuccess (e :: before) after (by rw [hsplit, List.cons_append]) t
          (List.mem_cons_of_mem _ ht)
      cases e with
      | failure t =>
          -- the first failure; no success can follow it
          have hfirst : p.fail t none = ⟨p.delay 0, t + p.delay 0, t⟩ := by
            simp [fail, delay_zero hcap]
          have hno : .success ∉ rest := by
            intro hmem
            obtain ⟨before, after, hsplit⟩ := List.append_of_mem hmem
            exact hsuccess (.failure t :: before) after (by rw [hsplit, List.cons_append]) t
              List.mem_cons_self
          have heq : (p.failed (some (p.fail t none)) rest).getLastD (p.fail t none) = last := by
            simpa [failed, step, List.getLast?_cons] using hlast
          have hlaw := run_of_record hinitial hcap rest 0 (p.fail t none) (by rw [hfirst]) hspaced
            (List.pairwise_cons.mp htimes).2 hno (fun t' ht' => by
              rw [heq]
              exact hkept t' (List.mem_cons_of_mem _ ht'))
          simp only [heq, Nat.zero_add] at hlaw
          simpa only [failed, step, run_cons, List.length_cons, Nat.add_sub_cancel] using hlaw
      | sweep t =>
          exact ih hspaced (List.pairwise_cons.mp htimes).2 hrest hlast
            fun t' ht' => hkept t' (List.mem_cons_of_mem _ ht')
      | success => exact ih hspaced htimes hrest hlast hkept

/-! ## The window

Without any spacing of the failures: a record lasts between the initial duration and the
cap, and after a failure there is one until a success, or a sweep that comes too late for
it. -/

/-- A record as a failure leaves it. -/
structure Fair (p : Policy) (r : Record) : Prop where
  initial : p.initial ≤ r.duration
  cap : r.duration ≤ p.cap
  ends : r.ends = r.last + r.duration

theorem fail_fair (hinitial : 0 ≤ p.initial) (hcap : p.initial ≤ p.cap) (t : Int)
    {info : Option Record} (hinfo : ∀ r, info = some r → p.Fair r) : p.Fair (p.fail t info) := by
  cases info with
  | none => exact ⟨Int.le_refl _, hcap, rfl⟩
  | some r =>
      have hr := (hinfo r rfl).initial
      refine ⟨?_, ?_, rfl⟩
      · simp only [fail]
        split <;> omega
      · simp only [fail]
        split <;> omega

/-- What a record at the end of a run says: it is fair, and was there at first or is of one of
the failures. -/
theorem run_fair (hinitial : 0 ≤ p.initial) (hcap : p.initial ≤ p.cap) (events : List Event)
    {info : Option Record} (hinfo : ∀ r, info = some r → p.Fair r) {r : Record}
    (hr : p.run info events = some r) :
    p.Fair r ∧ (info = some r ∨ .failure r.last ∈ events) := by
  induction events generalizing info with
  | nil => exact ⟨hinfo r hr, .inl hr⟩
  | cons e rest ih =>
      have hstep : ∀ r, p.step info e = some r →
          p.Fair r ∧ (info = some r ∨ e = .failure r.last) := by
        intro r hr
        cases e with
        | failure t =>
            cases hr
            exact ⟨fail_fair hinitial hcap t hinfo, .inr rfl⟩
        | sweep t =>
            have hsame := (Option.filter_eq_some_iff.mp hr).1
            exact ⟨hinfo r hsame, .inl hsame⟩
        | success => cases hr
      obtain ⟨hfair, hfrom⟩ := ih (fun r hr => (hstep r hr).1) hr
      refine ⟨hfair, ?_⟩
      rcases hfrom with hfirst | hlater
      · rcases (hstep r hfirst).2 with hsame | rfl
        · exact .inl hsame
        · exact .inr List.mem_cons_self
      · exact .inr (List.mem_cons_of_mem _ hlater)

/-- A record of `t` or later stays one while nothing succeeds, nothing fails before `t` and no
sweep comes too late for `t`. -/
theorem run_held {t : Int} (events : List Event) (hsuccess : .success ∉ events)
    (hfailure : ∀ t', .failure t' ∈ events → t ≤ t')
    (hsweep : ∀ t', .sweep t' ∈ events → t' ≤ t + p.reset) {r : Record} (hr : t ≤ r.last) :
    ∃ r', p.run (some r) events = some r' ∧ t ≤ r'.last := by
  induction events generalizing r with
  | nil => exact ⟨r, rfl, hr⟩
  | cons e rest ih =>
      have hrest := fun {r : Record} => @ih (fun h => hsuccess (List.mem_cons_of_mem _ h))
        (fun t' h => hfailure t' (List.mem_cons_of_mem _ h))
        (fun t' h => hsweep t' (List.mem_cons_of_mem _ h)) r
      cases e with
      | failure t' => exact hrest (r := p.fail t' (some r)) (hfailure t' List.mem_cons_self)
      | sweep t' =>
          have hearly : ¬r.last + p.reset < t' := by
            have := hsweep t' List.mem_cons_self
            omega
          rw [run_cons, step_sweep, if_neg hearly]
          exact hrest hr
      | success => exact absurd List.mem_cons_self hsuccess

end Policy

end Retry
