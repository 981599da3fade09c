import Mathlib.Tactic.Linarith
import AutoNodeRepair.Logic.ElectionSite

/-!
# The lock of an election

What is kept of the lock object and of the requests under way to it, given the attempt that
each leader leads by (`Site.Orderly`). The lock is with the leader, and its record has the
time of the attempt or a later one, unless a lease has gone by since. A request that might
take the lock from somebody else is accepted only if nobody has written to the lock since
it was looked at, and so it is in order whenever it arrives.
-/

namespace AutoNodeRepair

open Interact

theorem wholeSeconds_le (t : Time) : wholeSeconds t ≤ t :=
  Int.ediv_mul_le t (by decide)

theorem lt_wholeSeconds_add (t : Time) : t < wholeSeconds t + second := by
  have hlt := Int.lt_ediv_add_one_mul_self t (b := second) (by decide)
  rwa [Int.add_mul, Int.one_mul] at hlt

theorem wholeSeconds_mono {t t' : Time} (hle : t ≤ t') : wholeSeconds t ≤ wholeSeconds t' :=
  Int.mul_le_mul_of_nonneg_right (Int.ediv_le_ediv (by decide) hle) (by decide)

/-- The attempt of a leader. -/
def Mode.won : Mode → Option Time
  | .candidate => none
  | .leader won _ => some won

/-- The attempt by which a process leads or is about to. -/
def Phase.won : Phase → Option Time
  | .starting => none
  | .idle _ => none
  | .read mode _ _ => mode.won
  | .observing mode _ _ _ => mode.won
  | .ready mode _ _ _ _ => mode.won
  | .absent mode _ _ => mode.won
  | .wrote _ t _ => some t
  | .elected _ won => some won
  | .announced _ won => some won
  | .leading _ won => some won
  | .polling _ won => some won
  | .ticked _ won _ => some won
  | .lost won => some won
  | .leaving won => some won
  | .gone => none

@[simp] theorem Mode.failed_won (mode : Mode) (le : LeaderElector) :
    (mode.failed le).won = mode.won := by
  cases mode with
  | candidate => rfl
  | leader won opened => cases opened <;> rfl

@[simp] theorem Mode.succeeded_won (mode : Mode) (le : LeaderElector) (t : Time) :
    (mode.succeeded le t).won = some t := by
  cases mode <;> rfl

/-! ## The lock -/

section

variable {R : Type} (stamps : Stamps) (id : R → String) (lease : Duration)

/-- The record of the lock. -/
def Site.Has (w : Site R) (record : LeaderElectionRecord) : Prop :=
  w.cell.content = some (some (.json record))

/-- The lock is with `i` since the attempt `won`, or the lease of that is over. -/
def Site.Held (w : Site R) (i : R) (won : Time) : Prop :=
  (∃ record, w.Has record ∧ record.holderIdentity = id i ∧ wholeSeconds won ≤ record.renewTime) ∨
    wholeSeconds won + lease ≤ w.clock

/-- If `i` may write the record: it is not older than the attempt that `i` leads by, and a
lock that is with somebody else was not renewed for a lease. -/
def Site.Open (w : Site R) (leads : R → Option Time) (i : R) (record : LeaderElectionRecord) :
    Prop :=
  (∀ won, leads i = some won → wholeSeconds won ≤ record.renewTime) ∧
    ∀ current, w.Has current →
      current.holderIdentity = id i ∨ current.renewTime + lease ≤ w.clock

/-- A request that does no harm, whenever it arrives. -/
def Site.Lawful (w : Site R) (leads : R → Option Time) : LockRequest → Prop
  | .create object =>
      ∃ record, object.leader = some (.json record) ∧ record.renewTime ≤ w.clock
  | .update object =>
      ∃ i revision record, object = ⟨stamps.stamp revision, some (.json record)⟩ ∧
        record.holderIdentity = id i ∧ record.renewTime ≤ w.clock ∧
        revision ≤ w.cell.revision ∧
        (revision = w.cell.revision → w.Open id lease leads i record)

/-- The lock is in order. -/
structure Site.Orderly (w : Site R) (leads : R → Option Time) : Prop where
  current : ∀ record, w.Has record → record.renewTime ≤ w.clock
  held : ∀ i won, leads i = some won → w.Held id lease i won
  inFlight : ∀ request ∈ w.inFlight, w.Lawful stamps id lease leads request

variable {stamps id lease} {w w' : Site R} {leads leads' : R → Option Time}

/-- Fewer leaders, and time: the lock stays in order. -/
theorem Site.Lawful.later {request : LockRequest}
    (hlawful : w.Lawful stamps id lease leads request) (hcell : w'.cell = w.cell)
    (hclock : w.clock ≤ w'.clock) (hleads : ∀ i won, leads' i = some won → leads i = some won) :
    w'.Lawful stamps id lease leads' request := by
  cases request with
  | create object =>
      obtain ⟨record, hobject, htime⟩ := hlawful
      exact ⟨record, hobject, htime.trans hclock⟩
  | update object =>
      obtain ⟨i, revision, record, hobject, hholder, htime, hrevision, hopen⟩ := hlawful
      refine ⟨i, revision, record, hobject, hholder, htime.trans hclock, hcell ▸ hrevision, ?_⟩
      intro hsame
      obtain ⟨hown, hothers⟩ := hopen (hcell ▸ hsame)
      refine ⟨fun won hwon => hown won (hleads i won hwon), fun current hcurrent => ?_⟩
      rcases hothers current (by rwa [Site.Has, ← hcell]) with hmine | hover
      · exact .inl hmine
      · exact .inr (hover.trans hclock)

theorem Site.Orderly.later (horderly : w.Orderly stamps id lease leads)
    (hcell : w'.cell = w.cell) (hinFlight : w'.inFlight = w.inFlight)
    (hclock : w.clock ≤ w'.clock) (hleads : ∀ i won, leads' i = some won → leads i = some won) :
    w'.Orderly stamps id lease leads' where
  current record hrecord :=
    (horderly.current record (by rwa [Site.Has, ← hcell])).trans hclock
  held i won hwon := by
    rcases horderly.held i won (hleads i won hwon) with ⟨record, hrecord, hholder⟩ | hover
    · exact .inl ⟨record, by rwa [Site.Has, hcell], hholder⟩
    · exact .inr (hover.trans hclock)
  inFlight request hrequest :=
    (horderly.inFlight request (hinFlight ▸ hrequest)).later hcell hclock hleads

/-- A request of an older revision is as good as refused. -/
theorem Site.Lawful.outdated {request : LockRequest}
    (hlawful : w.Lawful stamps id lease leads request) (hclock : w'.clock = w.clock)
    (hrevision : w'.cell.revision = w.cell.revision + 1) :
    w'.Lawful stamps id lease leads' request := by
  cases request with
  | create object =>
      obtain ⟨record, hobject, htime⟩ := hlawful
      exact ⟨record, hobject, hclock ▸ htime⟩
  | update object =>
      obtain ⟨i, revision, record, hobject, hholder, htime, hle, -⟩ := hlawful
      refine ⟨i, revision, record, hobject, hholder, hclock ▸ htime, by omega, ?_⟩
      intro hsame
      omega

/-- Whoever the record is of may have become a leader by it. -/
def LockRequest.Elects (id : R → String) (request : LockRequest) (i : R) (won : Time) : Prop :=
  ∃ record, request.object.leader = some (.json record) ∧ record.holderIdentity = id i ∧
    wholeSeconds won ≤ record.renewTime

/-- A lawful request that is accepted. -/
theorem Site.Orderly.accept (hid : Function.Injective id)
    (horderly : w.Orderly stamps id lease leads) {request : LockRequest}
    (hlawful : w.Lawful stamps id lease leads request) (haccepts : w.accepts stamps request = true)
    (hleads : ∀ i won, leads' i = some won →
      leads i = some won ∨ request.Elects id i won) :
    (w.arrive stamps request).Orderly stamps id lease leads' := by
  have harrive : w.arrive stamps request =
      { w with cell := w.cell.put (some request.object.leader) } := if_pos haccepts
  obtain ⟨record, hobject, htime, hothers⟩ : ∃ record,
      request.object.leader = some (.json record) ∧ record.renewTime ≤ w.clock ∧
      ∀ j won, leads j = some won →
        wholeSeconds won + lease ≤ w.clock ∨
          (record.holderIdentity = id j ∧ wholeSeconds won ≤ record.renewTime) := by
    cases request with
    | create object =>
        obtain ⟨record, hobject, htime⟩ := hlawful
        refine ⟨record, hobject, htime, fun j won hwon => .inl ?_⟩
        -- nobody has a lock that does not exist
        rcases horderly.held j won hwon with ⟨current, hcurrent, -⟩ | hover
        · rw [Site.accepts, hcurrent] at haccepts
          cases haccepts
        · exact hover
    | update object =>
        obtain ⟨i, revision, record, rfl, hholder, htime, -, hopen⟩ := hlawful
        refine ⟨record, rfl, htime, fun j won hwon => ?_⟩
        have hrevision : revision = w.cell.revision := by
          simp only [Site.accepts, Bool.and_eq_true, Bool.or_eq_true, beq_iff_eq] at haccepts
          rcases haccepts.2 with hempty | hstamp
          · exact absurd hempty (stamps.ne_empty revision)
          · exact stamps.injective hstamp
        obtain ⟨hown, hcurrent⟩ := hopen hrevision
        by_cases hj : j = i
        · subst hj
          exact .inr ⟨hholder, hown won hwon⟩
        rcases horderly.held j won hwon with ⟨current, hhas, hholds, hle⟩ | hover
        · rcases hcurrent current hhas with hsame | hover
          · exact absurd (hid (hholds.symm.trans hsame)) hj
          · exact .inl (by linarith)
        · exact .inl hover
  rw [harrive]
  refine ⟨?_, ?_, ?_⟩
  · intro current hcurrent
    have heq : current = record := by
      simpa [Site.Has, hobject, eq_comm] using hcurrent
    exact heq ▸ htime
  · intro j won hwon
    have hhas : Site.Has { w with cell := w.cell.put (some request.object.leader) } record := by
      simp [Site.Has, hobject]
    rcases hleads j won hwon with hbefore | ⟨record', hobject', hholder, hle⟩
    · rcases hothers j won hbefore with hover | hmine
      · exact .inr hover
      · exact .inl ⟨record, hhas, hmine⟩
    · obtain rfl : record' = record := by simpa [hobject] using hobject'.symm
      exact .inl ⟨record', hhas, hholder, hle⟩
  · intro other hother
    exact (horderly.inFlight other hother).outdated rfl rfl

/-- A lawful request that arrives, accepted or not. -/
theorem Site.Orderly.arrive (hid : Function.Injective id)
    (horderly : w.Orderly stamps id lease leads) {request : LockRequest}
    (hlawful : w.Lawful stamps id lease leads request) :
    (w.arrive stamps request).Orderly stamps id lease leads := by
  by_cases haccepts : w.accepts stamps request = true
  · exact horderly.accept hid hlawful haccepts fun i won hwon => .inl hwon
  · rwa [Site.arrive, if_neg haccepts]

/-- A lawful request is sent in an attempt of `i`, and `i` goes on as it is answered. -/
theorem Site.Orderly.sent [DecidableEq R] (hid : Function.Injective id)
    (horderly : w.Orderly stamps id lease leads) {request : LockRequest}
    (hlawful : w.Lawful stamps id lease leads request) {i : R} {mode : Mode} (le : LeaderElector)
    (t : Time) (record : LeaderElectionRecord) (hmode : leads i = mode.won)
    (helects : request.Elects id i t)
    (hleads : ∀ j won, leads' j = some won → leads j = some won ∨
      (j = i ∧ (mode.sent le t record (w.send stamps request).1).won = some won)) :
    (w.send stamps request).2.Orderly stamps id lease leads' := by
  -- unless the request is accepted, `i` leads by the same attempt as before
  have hsame : (∃ err, (w.send stamps request).1 = .error err) →
      ∀ j won, leads' j = some won → leads j = some won := by
    rintro ⟨err, herr⟩ j won hwon
    rcases hleads j won hwon with hbefore | ⟨rfl, hfailed⟩
    · exact hbefore
    · rwa [herr, Mode.sent, Mode.failed_won, ← hmode] at hfailed
  cases hfate : w.fate with
  | served =>
      by_cases haccepts : w.accepts stamps request = true
      · have hsend : (w.send stamps request).2 = w.arrive stamps request := by
          rw [Site.send, hfate]
        rw [hsend]
        refine horderly.accept hid hlawful haccepts fun j won hwon => ?_
        rcases hleads j won hwon with hbefore | ⟨rfl, hwrote⟩
        · exact .inl hbefore
        · rw [Site.send, hfate, Site.answer, if_pos haccepts] at hwrote
          obtain rfl := Option.some.inj hwrote
          exact .inr helects
      · have hrefused := hsame ⟨_, by rw [Site.send, hfate]; exact if_neg haccepts⟩
        have hsend : (w.send stamps request).2 = w := by
          rw [Site.send, hfate]
          exact if_neg haccepts
        rw [hsend]
        exact horderly.later rfl rfl le_rfl hrefused
  | refused err =>
      have hrefused := hsame ⟨err, by rw [Site.send, hfate]⟩
      rw [Site.send, hfate]
      exact horderly.later rfl rfl le_rfl hrefused
  | answerLost err =>
      have hrefused := hsame ⟨err, by rw [Site.send, hfate]⟩
      rw [Site.send, hfate]
      exact (horderly.arrive hid hlawful).later rfl rfl le_rfl hrefused
  | late err =>
      have hrefused := hsame ⟨err, by rw [Site.send, hfate]⟩
      rw [Site.send, hfate]
      have hlater : w.Orderly stamps id lease leads' := horderly.later rfl rfl le_rfl hrefused
      refine ⟨hlater.current, hlater.held, ?_⟩
      exact List.forall_mem_cons.mpr ⟨hlawful.later rfl le_rfl hrefused, hlater.inFlight⟩

/-- What happens by itself. -/
theorem Site.Orderly.drift [DecidableEq R] (hid : Function.Injective id)
    (horderly : w.Orderly stamps id lease leads) (hdrift : Site.Drift stamps w w') :
    w'.Orderly stamps id lease leads := by
  cases hdrift with
  | pass t fate tick hclock => exact horderly.later rfl rfl hclock fun _ _ hwon => hwon
  | arrive request hrequest => exact horderly.arrive hid (horderly.inFlight request hrequest)
  | touch =>
      exact ⟨horderly.current, horderly.held,
        fun request hrequest => (horderly.inFlight request hrequest).outdated rfl rfl⟩

end

end AutoNodeRepair
