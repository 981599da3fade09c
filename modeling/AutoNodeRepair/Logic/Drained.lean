import AutoNodeRepair.Logic.Covered

/-!
# What a drain has seen

The two halves of `drainNode`. First the goroutines evict, and the loop takes
their confirmations in whatever order they come: when all of them are good,
every pod has a granted eviction in the log (`collectConfirmations_granted`),
and when every eviction is accepted in time, all of them are good
(`collectConfirmations_accepted`). Then the loop sweeps over the pods until one
sweep finds nothing: it succeeds exactly when some sweep it gets to in time does
(`awaitGone_iff`), the clock bounding the number of sweeps.
-/

namespace AutoNodeRepair

open Interact

variable {W : Type} {h : ApiService W}

/-! ## Exchanges -/

/-- In this exchange the eviction of `pod` was accepted, or answered `NotFound`. -/
def EvictionGranted (pod : Pod) (e : ApiEvent W) : Prop :=
  ∃ ans before after, e = ⟨.evict pod, ans, before, after⟩ ∧
    (ans = .ok () ∨ ∃ err, ans = .error err ∧ err.notFound = true)

/-- In this exchange the lookup of `pod` was answered `NotFound`. -/
def FoundGone (pod : Pod) (e : ApiEvent W) : Prop :=
  ∃ err before after, e = ⟨.getPod pod.ns pod.name, .error err, before, after⟩ ∧
    err.notFound = true

/-! ## The confirmations -/

theorem evictAttempt_granted {wait : Duration} {e : Evictor} {m : Machine W}
    (hval : ((evictAttempt wait e).exec h m).val = .confirmed none) :
    ∃ ev ∈ ((evictAttempt wait e).exec h m).log, EvictionGranted e.pod ev := by
  refine ⟨Service.event h m.world (.evict e.pod), by simp [evictAttempt, evict_exec],
    _, _, _, rfl, ?_⟩
  simp only [evictAttempt, exec_bind, evict_exec, Outcome.after_val] at hval
  cases hans : (h m.world (.evict e.pod)).1 with
  | ok granted => exact .inl rfl
  | error err =>
      rw [hans] at hval
      by_cases hnot : err.notFound = true
      · exact .inr ⟨err, rfl, hnot⟩
      · simp [hnot] at hval

/-- A goroutine confirms without an error only what was granted. -/
theorem evictTurn_granted {retryUntil : Time} {wait : Duration} {e : Evictor} {m : Machine W}
    (hval : ((evictTurn retryUntil wait e).exec h m).val = .confirmed none) :
    ∃ ev ∈ ((evictTurn retryUntil wait e).exec h m).log, EvictionGranted e.pod ev := by
  unfold evictTurn at hval ⊢
  split at hval
  · rename_i hfirst
    rw [if_pos hfirst]
    exact evictAttempt_granted hval
  · rename_i hfirst
    rw [if_neg hfirst]
    simp only [exec_bind, Outcome.after_val, Outcome.after_log] at hval ⊢
    split at hval
    · rename_i htime
      rw [if_pos htime]
      obtain ⟨ev, hev, hgranted⟩ := evictAttempt_granted hval
      exact ⟨ev, List.mem_append_right _ hev, hgranted⟩
    · simp at hval

/-- The goroutines left after a turn of the one at `i`. -/
def EvictTurn.left (turn : EvictTurn) (es : List Evictor) (i : Nat) : List Evictor :=
  match turn with
  | .running e' => es.set i e'
  | .confirmed _ => es.eraseIdx i

/-- The errors received after it. -/
def EvictTurn.received (turn : EvictTurn) (errs : List String) : List String :=
  match turn with
  | .confirmed (some err) => errs ++ [err]
  | _ => errs

/-- One round of the loop: the timer fires, or some goroutine makes its turn. -/
theorem collectConfirmations_round (retryUntil : Time) (wait : Duration) (fuel : Nat)
    {es : List Evictor} (hes : es ≠ []) (errs : List String) (m : Machine W) :
    let next := (schedule es.length).exec h m
    let out := (collectConfirmations retryUntil wait (fuel + 1) es errs).exec h m
    (next.val = none ∧ out.val = none ∧ out.log = next.log) ∨
      ∃ i e, next.val = some i ∧ es[i % es.length]? = some e ∧
        let turn := (evictTurn retryUntil wait e).exec h next.mach
        out = ((collectConfirmations retryUntil wait fuel
          (turn.val.left es (i % es.length)) (turn.val.received errs)).exec h turn.mach).after
            (next.log ++ turn.log) := by
  obtain ⟨e0, rest, rfl⟩ := List.exists_cons_of_ne_nil hes
  simp only [collectConfirmations, exec_bind]
  generalize hes' : e0 :: rest = es
  cases hnext : ((schedule es.length).exec h m).val with
  | none => exact .inl ⟨rfl, rfl, by simp⟩
  | some i =>
      have hlt : i % es.length < es.length := Nat.mod_lt _ (by simp [← hes'])
      refine .inr ⟨i, es[i % es.length], rfl, List.getElem?_eq_getElem hlt, ?_⟩
      simp only [List.getElem?_eq_getElem hlt, exec_bind]
      cases ((evictTurn retryUntil wait es[i % es.length]).exec h
          ((schedule es.length).exec h m).mach).val with
      | running e' => simp [EvictTurn.left, EvictTurn.received, Outcome.after]
      | confirmed err => cases err <;> simp [EvictTurn.left, EvictTurn.received, Outcome.after]

/-- After a turn every goroutine still works on its pod, unless it has just
confirmed the eviction. -/
theorem mem_left {turn : EvictTurn} {es : List Evictor} {i : Nat} {e x : Evictor}
    (hget : es[i]? = some e) (hpod : ∀ e', turn = .running e' → e'.pod = e.pod) (hx : x ∈ es) :
    (∃ err, turn = .confirmed err ∧ x = e) ∨ ∃ y ∈ turn.left es i, y.pod = x.pod := by
  -- by position, since two goroutines may be equal
  obtain ⟨j, hj⟩ := List.mem_iff_getElem?.mp hx
  by_cases hij : i = j
  · subst hij
    obtain rfl : x = e := Option.some.inj (hj.symm.trans hget)
    cases turn with
    | running e' =>
        have hlt := (List.getElem?_eq_some_iff.mp hget).1
        exact .inr ⟨e', List.mem_set hlt e', hpod e' rfl⟩
    | confirmed err => exact .inl ⟨err, rfl, rfl⟩
  · refine .inr ⟨x, ?_, rfl⟩
    cases turn with
    | running e' =>
        refine List.mem_iff_getElem?.mpr ⟨j, ?_⟩
        rw [EvictTurn.left, List.getElem?_set_ne hij, hj]
    | confirmed err => exact List.mem_eraseIdx_iff_getElem?.mpr ⟨j, Ne.symm hij, hj⟩

/-- Without an error received, every goroutine still running ends with a granted
eviction. -/
theorem collectConfirmations_granted (retryUntil : Time) (wait : Duration) :
    ∀ (fuel : Nat) (es : List Evictor) (errs : List String) (m : Machine W),
    ((collectConfirmations retryUntil wait fuel es errs).exec h m).val = some [] →
    errs = [] ∧ ∀ e ∈ es,
      ∃ ev ∈ ((collectConfirmations retryUntil wait fuel es errs).exec h m).log,
        EvictionGranted e.pod ev := by
  intro fuel
  induction fuel with
  | zero =>
      intro es errs m hval
      cases es with
      | nil => simpa [collectConfirmations] using hval
      | cons e0 rest => simp [collectConfirmations] at hval
  | succ fuel ih =>
      intro es errs m hval
      by_cases hes : es = []
      · subst hes
        simpa [collectConfirmations] using hval
      rcases collectConfirmations_round retryUntil wait fuel hes errs m with
        ⟨-, hnone, -⟩ | ⟨i, e, -, hget, hout⟩
      · rw [hnone] at hval
        simp at hval
      · rw [hout] at hval ⊢
        obtain ⟨herrs, hgranted⟩ := ih _ _ _ hval
        generalize hturn : ((evictTurn retryUntil wait e).exec h
          ((schedule es.length).exec h m).mach).val = turn at herrs hgranted ⊢
        -- an error received is never forgotten
        have hgood : errs = [] ∧ ∀ err, turn = .confirmed err → err = none := by
          cases turn with
          | running e' => exact ⟨herrs, by simp⟩
          | confirmed err =>
              cases err with
              | none => exact ⟨herrs, by simp⟩
              | some err => simp [EvictTurn.received] at herrs
        refine ⟨hgood.1, fun x hx => ?_⟩
        rcases mem_left hget (fun e' he' => Evicts.evictTurn_pod retryUntil wait e _ e'
          (hturn.trans he')) hx with ⟨err, herr, rfl⟩ | ⟨y, hy, hyx⟩
        · obtain ⟨ev, hev, hev'⟩ := evictTurn_granted (hturn.trans (hgood.2 err herr ▸ herr))
          exact ⟨ev, List.mem_append_left _ (List.mem_append_right _ hev), hev'⟩
        · obtain ⟨ev, hev, hev'⟩ := hgranted y hy
          exact ⟨ev, List.mem_append_right _ hev, hyx ▸ hev'⟩

/-- In these exchanges every eviction was accepted, and the timer of the waiting
`select` never fired. -/
structure EvictionsAccepted (h : ApiService W) (log : List (ApiEvent W)) : Prop where
  evict : ∀ w pod, Service.event h w (.evict pod) ∈ log → (h w (.evict pod)).1 = .ok ()
  schedule : ∀ w n, Service.event h w (.schedule n) ∈ log → (h w (.schedule n)).1 ≠ none

theorem EvictionsAccepted.subset {log log' : List (ApiEvent W)} (hacc : EvictionsAccepted h log')
    (hsub : log ⊆ log') : EvictionsAccepted h log :=
  ⟨fun w pod he => hacc.evict w pod (hsub he), fun w n he => hacc.schedule w n (hsub he)⟩

/-- The first turn of a goroutine whose request is accepted. -/
theorem evictTurn_accepted {retryUntil : Time} {wait : Duration} {e : Evictor} {m : Machine W}
    (hfirst : e.first = true)
    (hacc : EvictionsAccepted h ((evictTurn retryUntil wait e).exec h m).log) :
    ((evictTurn retryUntil wait e).exec h m).val = .confirmed none := by
  simp only [evictTurn, hfirst, if_true, evictAttempt, exec_bind, evict_exec, Outcome.after_val,
    Outcome.after_log] at hacc ⊢
  rw [hacc.evict m.world e.pod (List.mem_append_left _ List.mem_cons_self)]
  rfl

/-- Goroutines whose requests are all accepted confirm one after the other. -/
theorem collectConfirmations_accepted (retryUntil : Time) (wait : Duration) :
    ∀ (fuel : Nat) (es : List Evictor) (errs : List String) (m : Machine W),
    es.length ≤ fuel → (∀ e ∈ es, e.first = true) →
    EvictionsAccepted h ((collectConfirmations retryUntil wait fuel es errs).exec h m).log →
    ((collectConfirmations retryUntil wait fuel es errs).exec h m).val = some errs := by
  intro fuel
  induction fuel with
  | zero =>
      intro es errs m hfuel _ _
      obtain rfl : es = [] := List.length_eq_zero_iff.mp (Nat.le_zero.mp hfuel)
      rfl
  | succ fuel ih =>
      intro es errs m hfuel hfirst hacc
      by_cases hes : es = []
      · subst hes
        rfl
      rcases collectConfirmations_round retryUntil wait fuel hes errs m with
        ⟨hnext, -, hlog⟩ | ⟨i, e, -, hget, hout⟩
      · refine absurd hnext (hacc.schedule m.world es.length ?_)
        rw [hlog]
        exact List.mem_cons_self
      · have he : e ∈ es := List.mem_of_getElem? hget
        have hlt : i % es.length < es.length := (List.getElem?_eq_some_iff.mp hget).1
        rw [hout] at hacc ⊢
        have hturn := evictTurn_accepted (hfirst e he) (hacc.subset
          (List.subset_append_of_subset_left _ (List.subset_append_right _ _)))
        rw [hturn] at hacc ⊢
        refine ih _ _ _ ?_ ?_ (hacc.subset (List.subset_append_right _ _))
        · simp only [EvictTurn.left, List.length_eraseIdx, hlt, if_true]
          omega
        · exact fun x hx => hfirst x (List.mem_of_mem_eraseIdx hx)

/-! ## The sweeps -/

/-- The lookup was answered `NotFound`. -/
def Gone (ans : Except KubeError Pod) : Prop := ∃ err, ans = .error err ∧ err.notFound = true

/-- The answers to the lookups of a sweep, if it went over all the pods. -/
def podAnswers (h : ApiService W) : List Pod → Machine W → List (Except KubeError Pod)
  | [], _ => []
  | pod :: rest, m =>
      let got := (getPod pod.ns pod.name).exec h m
      got.val :: podAnswers h rest got.mach

/-- A sweep reports that all are gone when every lookup was answered `NotFound`. -/
theorem sweepPods_iff (pods : List Pod) (m : Machine W) :
    ((sweepPods pods true).exec h m).val = true ↔ ∀ ans ∈ podAnswers h pods m, Gone ans := by
  induction pods generalizing m with
  | nil => simp [sweepPods, podAnswers]
  | cons pod rest ih =>
      simp only [sweepPods, podAnswers, exec_bind, Outcome.after_val, List.forall_mem_cons]
      cases ((getPod pod.ns pod.name).exec h m).val with
      | ok found => simp [Gone]
      | error err =>
          by_cases hnot : err.notFound = true
          · simp [hnot, ih, Gone]
          · simp [hnot, sweepPods_false, Gone]

/-- It then looked up one pod after the other and found none of them. -/
theorem sweepPods_log {pods : List Pod} {m : Machine W}
    (hval : ((sweepPods pods true).exec h m).val = true) :
    List.Forall₂ FoundGone pods ((sweepPods pods true).exec h m).log := by
  induction pods generalizing m with
  | nil => exact List.Forall₂.nil
  | cons pod rest ih =>
      simp only [sweepPods, exec_bind, Outcome.after_val, Outcome.after_log] at hval ⊢
      cases hans : ((getPod pod.ns pod.name).exec h m).val with
      | ok found => simp [hans] at hval
      | error err =>
          rw [hans] at hval
          by_cases hnot : err.notFound = true
          · simp only [if_pos hnot] at hval ⊢
            have hlog : ((getPod pod.ns pod.name).exec h m).log =
                [Service.event h m.world (.getPod pod.ns pod.name)] := rfl
            rw [hlog]
            refine List.Forall₂.cons
              ⟨err, m.world, (h m.world (.getPod pod.ns pod.name)).2, ?_, hnot⟩ (ih hval)
            rw [← hans]
            rfl
          · simp [hnot, sweepPods_false] at hval

/-- `m'` is where the waiting loop, now at `m`, starts a sweep in time. -/
inductive SweepAt (h : ApiService W) (start : Time) (limit : Duration) (pods : List Pod) :
    Machine W → Machine W → Prop
  | first {m : Machine W} (hin : ((now).exec h m).val - start < limit) :
      SweepAt h start limit pods m ((now).exec h m).mach
  | later {m m' : Machine W} (hin : ((now).exec h m).val - start < limit)
      (hleft : ((sweepPods pods true).exec h ((now).exec h m).mach).val = false)
      (hlater : SweepAt h start limit pods ((sleep (5 * second)).exec h
        ((sweepPods pods true).exec h ((now).exec h m).mach).mach).mach m') :
      SweepAt h start limit pods m m'

/-- The clock never goes back, and `now` reads it. -/
structure ClockRuns (h : ApiService W) (clock : W → Time) : Prop where
  forward : ∀ w c, clock w ≤ clock (h w c).2
  reads : ∀ w, clock w ≤ (h w .now).1 ∧ (h w .now).1 ≤ clock (h w .now).2

/-- Moreover a sleep takes its time. -/
structure ClockLaws (h : ApiService W) (clock : W → Time) : Prop extends ClockRuns h clock where
  sleeps : ∀ w d, clock w + d ≤ clock (h w (.sleep d)).2

theorem ClockRuns.exec_le {clock : W → Time} (laws : ClockRuns h clock) {α : Type} (p : Ctl α)
    (m : Machine W) : clock m.world ≤ clock (p.exec h m).mach.world := by
  induction p generalizing m with
  | ret a => exact Int.le_refl _
  | load k ih => exact ih _ m
  | save s k ih => exact ih _
  | ask c k ih => exact Int.le_trans (laws.forward m.world c) (ih _ _)

/-- The waiting loop stops at the first sweep that finds all pods gone, so it
needs one to succeed. -/
theorem awaitGone_sound {start : Time} {limit : Duration} {pods : List Pod} {fuel : Nat}
    {m : Machine W} (hval : ((awaitGone start limit pods fuel).exec h m).val = true) :
    ∃ m', SweepAt h start limit pods m m' ∧ ((sweepPods pods true).exec h m').val = true ∧
      ((sweepPods pods true).exec h m').log <:+:
        ((awaitGone start limit pods fuel).exec h m).log := by
  induction fuel generalizing m with
  | zero => simp [awaitGone] at hval
  | succ fuel ih =>
      simp only [awaitGone, exec_bind, Outcome.after_val, Outcome.after_log] at hval ⊢
      split at hval
      · rename_i hin
        rw [if_pos hin]
        simp only [exec_bind, Outcome.after_val, Outcome.after_log] at hval ⊢
        cases hswept : ((sweepPods pods true).exec h ((now).exec h m).mach).val with
        | true =>
            refine ⟨_, .first hin, hswept, ?_⟩
            simpa using List.infix_append _ _ []
        | false =>
            simp only [hswept, Bool.false_eq_true, if_false, exec_bind, Outcome.after_val,
              Outcome.after_log] at hval ⊢
            obtain ⟨m', hreach, hgone, hlog⟩ := ih hval
            refine ⟨m', .later hin hswept hreach, hgone, ?_⟩
            exact hlog.trans ((List.suffix_append _ _).trans ((List.suffix_append _ _).trans
              (List.suffix_append _ _))).isInfix
      · simp at hval

/-- In time there is fuel left, if there was enough of it. -/
theorem fuel_of_inTime {clock : W → Time} (laws : ClockLaws h clock) {start : Time}
    {limit : Duration} {m : Machine W} (hin : ((now).exec h m).val - start < limit) {fuel : Nat}
    (hfuel : limit ≤ clock m.world - start + 5 * second * fuel) : ∃ k, fuel = k + 1 := by
  have hread : clock m.world ≤ ((now).exec h m).val := (laws.reads m.world).1
  refine Nat.exists_eq_add_one.mpr (Nat.pos_of_ne_zero ?_)
  rintro rfl
  simp only [Time, Duration] at hin hfuel hread
  omega

/-- With fuel for every sweep the sleeps leave time for, one is also enough. -/
theorem awaitGone_complete {clock : W → Time} (laws : ClockLaws h clock) {start : Time}
    {limit : Duration} {pods : List Pod} {m m' : Machine W}
    (hreach : SweepAt h start limit pods m m')
    (hgone : ((sweepPods pods true).exec h m').val = true) :
    ∀ fuel : Nat, limit ≤ clock m.world - start + 5 * second * fuel →
    ((awaitGone start limit pods fuel).exec h m).val = true := by
  induction hreach with
  | @first m hin =>
      intro fuel hfuel
      obtain ⟨k, rfl⟩ := fuel_of_inTime laws hin hfuel
      simp only [awaitGone, exec_bind, Outcome.after_val, if_pos hin, hgone, if_true, exec_pure]
  | @later m m' hin hleft _ ih =>
      intro fuel hfuel
      obtain ⟨k, rfl⟩ := fuel_of_inTime laws hin hfuel
      simp only [awaitGone, exec_bind, Outcome.after_val, if_pos hin, hleft, Bool.false_eq_true,
        if_false]
      refine ih hgone k ?_
      -- the sleep has used up the time of one unit of fuel
      have hnow := laws.exec_le now m
      have hswept := laws.exec_le (sweepPods pods true) ((now).exec h m).mach
      have hslept := laws.sleeps ((sweepPods pods true).exec h ((now).exec h m).mach).mach.world
        (5 * second)
      have hworld : ((sleep (5 * second)).exec h ((sweepPods pods true).exec h
          ((now).exec h m).mach).mach).mach.world = (h ((sweepPods pods true).exec h
          ((now).exec h m).mach).mach.world (.sleep (5 * second))).2 := rfl
      rw [hworld]
      simp only [second, Time, Duration] at hfuel hnow hswept hslept ⊢
      omega

end AutoNodeRepair
