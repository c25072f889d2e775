import KeyedPool.Proofs.Refusal
import Mathlib.Algebra.Order.Floor.Div

/-!
# The schedule of an acquire

An acquire that is not admitted tries at its call, after every pause until its time is over, and
once more as soon as that is so. Its time may end between two milliseconds, and the clock shows
whole ones only; so the last pause is cut short, and the last try comes with the first reading of
the clock that is not too early. Pauses are never shorter than a millisecond, so the tries come to
an end.

When the tries were made depends on those who poll. Each is taken to be made with the first reading
of the clock at which it is due; what the others do meanwhile is left open.

* `KeyedPool.Instant.nextReading`: the first reading of the clock not before an instant.
* `KeyedPool.Acquisition.schedule`: when an acquire tries.
* `KeyedPool.Acquisition.Patient`: an acquire pauses only in its time, gives up only after it, and
  tells the reason of its last refusal.
* `KeyedPool.Acquisition.KeepsTime`: an acquire keeps to its schedule.
* `KeyedPool.World.IsReachable.patience_exact`: every acquire that is refused does so.
-/

namespace KeyedPool

open Custody

/-! ### Readings of the clock -/

namespace Instant

/-- **The first reading of the clock that does not come before an instant.** The clock stands at
whole milliseconds. -/
def nextReading (t : Instant) : Instant := .ofMillis (t.nanos ⌈/⌉ nanosPerMilli)

variable {t : Instant} {ms : Nat}

theorem nextReading_le_ofMillis_iff : t.nextReading ≤ ofMillis ms ↔ t ≤ ofMillis ms := by
  have hpos : 0 < nanosPerMilli := by decide
  rw [nextReading, le_def, nanos_ofMillis, nanos_ofMillis, Nat.mul_le_mul_right_iff hpos,
    ceilDiv_le_iff_le_mul hpos, Nat.mul_comm, le_def, nanos_ofMillis]

theorem le_nextReading (t : Instant) : t ≤ t.nextReading :=
  nextReading_le_ofMillis_iff.mp (Nat.le_refl _)

/-- At a reading of the clock there is nothing to wait for. -/
theorem nextReading_ofMillis (ms : Nat) : (ofMillis ms).nextReading = ofMillis ms := by
  have hle : (ofMillis ms).nextReading ≤ ofMillis ms :=
    nextReading_le_ofMillis_iff.mpr (Nat.le_refl _)
  exact congrArg Instant.mk (Nat.le_antisymm hle (le_nextReading _))

end Instant

/-! ### Schedules -/

namespace PoolSettings

variable {s : PoolSettings} {r : Request} {i : Nat}

theorem retryPause_pos (s : PoolSettings) : 0 < s.retryPause.nanos :=
  Nat.mul_pos (Nat.lt_of_lt_of_le Nat.one_pos (Nat.le_max_right ..)) (by decide)

/-- How many tries an acquire has before its time is over. -/
def triesInTime (s : PoolSettings) (r : Request) : Nat :=
  (s.patience r).nanos ⌈/⌉ s.retryPause.nanos

/-- A try is made in time if and only if the pauses before it take less than that. -/
theorem lt_triesInTime_iff :
    i < s.triesInTime r ↔ i * s.retryPause.nanos < (s.patience r).nanos := by
  rw [← Nat.not_le, triesInTime, ceilDiv_le_iff_le_mul s.retryPause_pos, Nat.not_le, Nat.mul_comm]

/-- When a try is due, a number of pauses after the call: no later than the time is over. -/
def dueAt (s : PoolSettings) (r : Request) (since : Instant) (i : Nat) : Instant :=
  since.plus (Duration.min ⟨i * s.retryPause.nanos⟩ (s.patience r))

end PoolSettings

namespace Acquisition

/-- **When an acquire tries** that is never admitted: a whole number of pauses after its call while
that is in its time, and once more with the first reading of the clock that is not. -/
def schedule (s : PoolSettings) (r : Request) (since : Instant) : List Instant :=
  (List.range (s.triesInTime r)).map (fun i => since.plus ⟨i * s.retryPause.nanos⟩) ++
    [(since.plus (s.patience r)).nextReading]

/-- **An acquire is patient.** It has always paused in its time, so that there was time left for a
pause. If it has given up, it has tried once more when its time was over, and the reason of this
refusal alone is that of its error: the pool is full, which has a limit then, or others are using
its database. -/
inductive Patient (s : PoolSettings) (r : Request) (since : Instant) :
    List Try → Progress Acquisition Acquired → Prop
  /-- It pauses. -/
  | pauses {tries a} (hearly : ∀ t ∈ tries, t.time < since.plus (s.patience r)) :
    Patient s r since tries (.waiting a)
  /-- It has given up since there was no room. -/
  | full {t earlier limit} (hearly : ∀ u ∈ earlier, u.time < since.plus (s.patience r))
      (hlate : since.plus (s.patience r) ≤ t.time) (hwhy : t.why = .full)
      (hlimit : s.maxConnections = some limit) :
    Patient s r since (t :: earlier) (.finished (.failed (.full limit (s.patience r))))
  /-- It has given up since others were using its database. -/
  | busy {t earlier} (hearly : ∀ u ∈ earlier, u.time < since.plus (s.patience r))
      (hlate : since.plus (s.patience r) ≤ t.time) (hwhy : t.why = .busy) :
    Patient s r since (t :: earlier) (.finished (.failed (.busy r.database (s.patience r))))

/-- **Tries are punctual** if each is made with the first reading of the clock at which it is due.
-/
def Punctual (tries : List Try) : Prop := ∀ t ∈ tries, t.time = t.due.nextReading

/-- **An acquire keeps to its schedule.** -/
structure KeepsTime (s : PoolSettings) (r : Request) (since : Instant) (tries : List Try)
    (x : Progress Acquisition Acquired) : Prop where
  /-- While it waits, its tries and the one that is due next are the first ones of the schedule. -/
  waits : ∀ a, x = .waiting a →
    (tries.map Try.time).reverse ++ [a.wake.nextReading] <+: schedule s r since
  /-- Once it has given up, its tries are those of the schedule. -/
  ends : ∀ result, x = .finished result → (tries.map Try.time).reverse = schedule s r since
  /-- There are no more of them than pauses in its time, and one. -/
  few : tries.length ≤ (s.patience r).nanos ⌈/⌉ s.retryPause.nanos + 1

/-- **Where a refusal leads an acquire**: it gives up if its time is over, and else it pauses until
it is to try again. -/
inductive Verdict (s : PoolSettings) (r : Request) (since : Instant) (times : List Instant)
    (why : Refusal) (now : Instant) : Progress Acquisition Acquired → Prop
  /-- It gives up. -/
  | givesUp (hpatience : s.patience r ≤ now.since since) :
    Verdict s r since times why now (.finished (.failed (refusalError s r why)))
  /-- It pauses. -/
  | pauses (hpatience : now.since since < s.patience r) :
    Verdict s r since times why now (.waiting ⟨r, since, .queued (now :: times)
      (now.plus (s.retryPause.min ((s.patience r).minus (now.since since))))⟩)

open PoolSettings

variable {s : PoolSettings} {r : Request} {since : Instant} {i : Nat} {tries earlier : List Try}
  {x : Progress Acquisition Acquired} {w : World} {p q : Pool} {now : Instant} {t : Try}
  {times : List Instant} {why : Refusal}

/-! #### When tries are due -/

/-- A try in time is due a whole number of pauses after the call. -/
theorem dueAt_of_lt (hi : i < s.triesInTime r) :
    s.dueAt r since i = since.plus ⟨i * s.retryPause.nanos⟩ := by
  have hlt := lt_triesInTime_iff.mp hi
  exact congrArg (fun n => since.plus ⟨n⟩) (Nat.min_eq_left hlt.le)

/-- The first try is due at the call. -/
theorem dueAt_zero : s.dueAt r since 0 = since := by
  refine congrArg Instant.mk ?_
  show since.nanos + min (0 * s.retryPause.nanos) (s.patience r).nanos = since.nanos
  omega

/-- The next try is due after a pause, which does not go beyond the time that is left. -/
theorem dueAt_succ (hi : i < s.triesInTime r) :
    s.dueAt r since (i + 1) = (since.plus ⟨i * s.retryPause.nanos⟩).plus
      (s.retryPause.min ((s.patience r).minus ⟨i * s.retryPause.nanos⟩)) := by
  have htime := lt_triesInTime_iff.mp hi
  refine congrArg Instant.mk ?_
  show since.nanos + min ((i + 1) * s.retryPause.nanos) (s.patience r).nanos =
    since.nanos + i * s.retryPause.nanos +
      min s.retryPause.nanos ((s.patience r).nanos - i * s.retryPause.nanos)
  rw [Nat.succ_mul]
  omega

/-- The last try is due when the time is over. -/
theorem dueAt_triesInTime : s.dueAt r since (s.triesInTime r) = since.plus (s.patience r) := by
  have hle := Nat.not_lt.mp (mt lt_triesInTime_iff.mpr (Nat.lt_irrefl (s.triesInTime r)))
  exact congrArg (fun n => since.plus ⟨n⟩) (Nat.min_eq_right hle)

/-- An acquire is called at a reading of the clock, and a pause takes whole milliseconds. -/
theorem nextReading_dueAt_of_lt {ms : Nat} (hsince : since = .ofMillis ms)
    (hi : i < s.triesInTime r) : (s.dueAt r since i).nextReading = s.dueAt r since i := by
  have hwhole : s.dueAt r since i = .ofMillis (ms + i * max s.pollInterval 1) := by
    rw [dueAt_of_lt hi, hsince]
    refine congrArg Instant.mk ?_
    rw [Instant.nanos_ofMillis, retryPause, Duration.nanos_ofMillis, Nat.add_mul, Nat.mul_assoc]
  rw [hwhole, Instant.nextReading_ofMillis]

theorem schedule_eq {ms : Nat} (hsince : since = .ofMillis ms) :
    schedule s r since =
      (List.range (s.triesInTime r + 1)).map fun i => (s.dueAt r since i).nextReading := by
  rw [schedule, List.range_succ, List.map_append, List.map_singleton, dueAt_triesInTime]
  refine congrArg (· ++ _) (List.map_congr_left fun i hi => ?_)
  have hlt : i < s.triesInTime r := List.mem_range.mp hi
  rw [nextReading_dueAt_of_lt hsince hlt, dueAt_of_lt hlt]

/-! ### What follows from a refusal -/

theorem verdict_of_refuse (h : resume r since (refuse p now r since times why) = (x, q)) :
    Verdict p.settings r since times why now x := by
  rw [refuse] at h
  dsimp only at h
  split at h <;> rename_i hpatience <;> cases h
  · exact .givesUp hpatience
  · exact .pauses (Nat.lt_of_not_le hpatience)

/-- **Where the latest try has led an acquire.** -/
theorem Refused.verdict (h : Refused r since tries w x) :
    ∃ t earlier, tries = t :: earlier ∧ t.time = w.now ∧
      Verdict w.pool.settings r since (earlier.map Try.time) t.why t.time x ∧
      (t.why = .full → ∃ limit, w.pool.settings.maxConnections = some limit) := by
  obtain ⟨t, earlier, htries, ht, ⟨L, O, hs⟩, hwhy, hlatest⟩ := h.latest
  have hsettings : (t.faced earlier).settings = w.pool.settings := hs.settings_eq
  have hverdict := verdict_of_refuse hlatest
  obtain ⟨n, hn⟩ := Pool.isWalked_attempt hs.capped hwhy
  have hkept : ((t.faced earlier).attempt r.database r.ttl w.now).2.settings =
      w.pool.settings := by
    rw [hn, ← hsettings]
  rw [hkept, ← ht] at hverdict
  refine ⟨t, earlier, htries, ht, hverdict, fun hfull => ?_⟩
  rw [hfull] at hwhy
  rw [← hsettings]
  exact Pool.exists_limit_of_full hwhy

/-! ### Patience -/

/-- No try comes before the call. -/
theorem Refused.since_le (h : Refused r since tries w x) : since ≤ w.now := by
  induction h with
  | called hs hsince hwhy h => exact hsince ▸ Nat.le_refl _
  | @polled tries v a w plans p L O why x q before events hw hs hwake hwhy h ih =>
    obtain ⟨t, earlier, -, ht, hverdict, -⟩ := before.verdict
    cases hverdict
    rw [ht] at hwake
    exact ih.trans ((Nat.le_add_right _ _).trans hwake)

/-- An acquire is called at a reading of the clock. -/
theorem Refused.exists_since_eq (h : Refused r since tries w x) : ∃ ms, since = .ofMillis ms := by
  induction h with
  | @called w _ _ _ _ _ _ _ hs hsince hwhy h => exact ⟨w.clock, hsince⟩
  | polled before events hw hs hwake hwhy h ih => exact ih

/-- An acquire that was patient up to its latest try stays so. -/
theorem Verdict.patient (h : Verdict s r since (earlier.map Try.time) t.why t.time x)
    (hearly : ∀ u ∈ earlier, u.time < since.plus (s.patience r)) (hsince : since ≤ t.time)
    (hfull : t.why = .full → ∃ limit, s.maxConnections = some limit) :
    Patient s r since (t :: earlier) x := by
  have hsince : since.nanos ≤ t.time.nanos := hsince
  cases h with
  | givesUp hpatience =>
    have hlate : since.plus (s.patience r) ≤ t.time := by
      rw [Duration.le_def, Instant.nanos_since] at hpatience
      rw [Instant.le_def, Instant.nanos_plus]
      omega
    cases hwhy : t.why with
    | full =>
      obtain ⟨limit, hlimit⟩ := hfull hwhy
      rw [refusalError, hlimit]
      exact .full hearly hlate hwhy hlimit
    | busy => exact .busy hearly hlate hwhy
  | pauses hpatience =>
    have hnow : t.time < since.plus (s.patience r) := by
      rw [Duration.lt_def, Instant.nanos_since] at hpatience
      rw [Instant.lt_def, Instant.nanos_plus]
      omega
    exact .pauses (List.forall_mem_cons.mpr ⟨hnow, hearly⟩)

theorem Refused.patient_of_early (h : Refused r since (t :: earlier) w x)
    (hearly : ∀ u ∈ earlier, u.time < since.plus (w.pool.settings.patience r)) :
    Patient w.pool.settings r since (t :: earlier) x := by
  obtain ⟨t', earlier', htries, ht, hverdict, hfull⟩ := h.verdict
  cases htries
  exact hverdict.patient hearly (ht ▸ h.since_le) hfull

/-- **Every acquire that is refused is patient.** -/
theorem Refused.patient (h : Refused r since tries w x) :
    Patient w.pool.settings r since tries x := by
  induction h with
  | called hs hsince hwhy h =>
    exact (Refused.called hs hsince hwhy h).patient_of_early (List.forall_mem_nil _)
  | @polled tries v a w plans p L O why x q before events hw hs hwake hwhy h ih =>
    have hsettings : w.pool.settings = v.pool.settings :=
      hw ▸ before.isReachable.settings_after events
    refine (Refused.polled before events hw hs hwake hwhy h).patient_of_early ?_
    cases ih with
    | pauses hearly => exact hsettings ▸ hearly

/-! ### Punctuality -/

/-- Where a refusal leads an acquire whose latest try was made in time for its place in the
schedule. -/
theorem Verdict.of_time {ms : Nat}
    (h : Verdict s r since (earlier.map Try.time) why now x) (hsince : since = .ofMillis ms)
    (hi : i ≤ s.triesInTime r) (hnow : now = (s.dueAt r since i).nextReading) :
    (i < s.triesInTime r ∧ ∃ a, x = .waiting a ∧ a.wake = s.dueAt r since (i + 1)) ∨
      i = s.triesInTime r ∧ ∃ result, x = .finished result := by
  rcases Nat.lt_or_eq_of_le hi with hlt | rfl
  · -- the try was made when it was due, and there is time left
    rw [nextReading_dueAt_of_lt hsince hlt, dueAt_of_lt hlt] at hnow
    have htime : i * s.retryPause.nanos < (s.patience r).nanos := lt_triesInTime_iff.mp hlt
    have helapsed : now.since since = ⟨i * s.retryPause.nanos⟩ := by
      rw [hnow]
      exact congrArg Duration.mk (Nat.add_sub_cancel_left ..)
    cases h with
    | givesUp hpatience =>
      rw [helapsed] at hpatience
      exact absurd htime (Nat.not_lt.mpr hpatience)
    | pauses hpatience =>
      refine .inl ⟨hlt, _, rfl, ?_⟩
      rw [dueAt_succ hlt, ← hnow, ← helapsed]
      rfl
  · -- the time is over, whatever the clock has skipped
    have hlate : since.plus (s.patience r) ≤ now := by
      rw [hnow, dueAt_triesInTime]
      exact Instant.le_nextReading _
    have hpatience : s.patience r ≤ now.since since := by
      rw [Instant.le_def, Instant.nanos_plus] at hlate
      rw [Duration.le_def, Instant.nanos_since]
      omega
    cases h with
    | givesUp _ => exact .inr ⟨rfl, _, rfl⟩
    | pauses hearly => exact absurd hpatience (Nat.not_le.mpr hearly)

/-- **Punctual tries are those of the schedule**, from the first to the latest. -/
theorem Refused.on_time (h : Refused r since tries w x) (hpunctual : Punctual tries) :
    ∃ i ≤ w.pool.settings.triesInTime r,
      (tries.map Try.time).reverse =
        (List.range (i + 1)).map (fun i => (w.pool.settings.dueAt r since i).nextReading) ∧
      ((i < w.pool.settings.triesInTime r ∧
          ∃ a, x = .waiting a ∧ a.wake = w.pool.settings.dueAt r since (i + 1)) ∨
        i = w.pool.settings.triesInTime r ∧ ∃ result, x = .finished result) := by
  obtain ⟨ms, hms⟩ := h.exists_since_eq
  induction h with
  | @called w plans p L O why x q hs hsince hwhy h =>
    obtain ⟨t, earlier, htries, -, hverdict, -⟩ := (Refused.called hs hsince hwhy h).verdict
    cases htries
    have hfirst : w.now = (w.pool.settings.dueAt r since 0).nextReading := by
      rw [dueAt_zero, hsince]
      exact (Instant.nextReading_ofMillis _).symm
    refine ⟨0, Nat.zero_le _, ?_, hverdict.of_time hms (Nat.zero_le _) hfirst⟩
    simpa using hfirst
  | @polled tries v a w plans p L O why x q before events hw hs hwake hwhy h ih =>
    obtain ⟨t, earlier, htries, -, hverdict, -⟩ :=
      (Refused.polled before events hw hs hwake hwhy h).verdict
    cases htries
    have hsettings : w.pool.settings = v.pool.settings :=
      hw ▸ before.isReachable.settings_after events
    obtain ⟨i, hi, htimes, hwaits | ⟨-, result, hx⟩⟩ := ih fun u hu =>
      hpunctual u (List.mem_cons_of_mem _ hu)
    · obtain ⟨hlt, a', ha, hwake⟩ := hwaits
      cases ha
      rw [← hsettings] at htimes hlt hwake
      have hnow : w.now = (w.pool.settings.dueAt r since (i + 1)).nextReading :=
        hwake ▸ hpunctual _ List.mem_cons_self
      refine ⟨i + 1, hlt, ?_, hverdict.of_time hms hlt hnow⟩
      rw [List.map_cons, List.reverse_cons, htimes, List.range_succ (n := i + 1), List.map_append,
        List.map_singleton, ← hnow]
    · cases hx

/-- **Punctual acquires keep to their schedule.** -/
theorem Refused.keepsTime (h : Refused r since tries w x) (hpunctual : Punctual tries) :
    KeepsTime w.pool.settings r since tries x := by
  obtain ⟨ms, hms⟩ := h.exists_since_eq
  obtain ⟨i, hi, htimes, hpoint⟩ := h.on_time hpunctual
  have hlength : tries.length = i + 1 := by
    have hcount := congrArg List.length htimes
    simpa using hcount
  refine ⟨fun a ha => ?_, fun result hresult => ?_, hlength ▸ Nat.succ_le_succ hi⟩
  · rcases hpoint with ⟨hlt, a', hx, hwake⟩ | ⟨-, result, hx⟩
    · cases ha.symm.trans hx
      have hprefix : List.range (i + 1 + 1) <+: List.range (w.pool.settings.triesInTime r + 1) := by
        have htake := List.take_prefix (i + 1 + 1) (List.range (w.pool.settings.triesInTime r + 1))
        rwa [List.take_range, Nat.min_eq_left (Nat.succ_le_succ hlt)] at htake
      have hmore := hprefix.map fun i => (w.pool.settings.dueAt r since i).nextReading
      rwa [List.range_succ (n := i + 1), List.map_append, List.map_singleton, ← htimes, ← hwake,
        ← schedule_eq hms] at hmore
    · cases ha.symm.trans hx
  · rcases hpoint with ⟨-, a, hx, -⟩ | ⟨rfl, -⟩
    · cases hresult.symm.trans hx
    · rw [htimes, schedule_eq hms]

end Acquisition

/-! ### Runs -/

namespace World

variable {w : World}

/-- **The schedule of an acquire.** Take any settings, any acquire, and whatever others do
meanwhile. An acquire that waits for admission was refused whenever it tried, and so was one that
has given up.

An acquire that is refused pauses only while its time is not over, so a pause is never cut to less
than nothing. It gives up only after a try that was made when its time was over, and its error is
decided by this last refusal alone, whatever it waited for before: the pool is full, and then it has
this limit, or others are using the database.

If each of its tries is made with the first reading of the clock at which it is due, it tries
exactly at its call, after every number of pauses that take less than its time, and with the first
reading at which its time is over; and there it ends. -/
theorem IsReachable.patience_exact (hw : w.IsReachable) :
    (∀ a ∈ w.acquisitions, Progress.isRefused (.waiting a.stage) = true →
      ∃ tries, w.HasRefused a.request a.since tries (.waiting a)) ∧
    (∀ r since e p q, w.Fails r since e p q → e.isRefusal = true →
      ∃ tries, w.HasRefused r since tries (.finished (.failed e))) ∧
    ∀ r since tries x, w.HasRefused r since tries x →
      Acquisition.Patient w.pool.settings r since tries x ∧
        (Acquisition.Punctual tries →
          Acquisition.KeepsTime w.pool.settings r since tries x) := by
  refine ⟨fun a ha => hw.hasRefused_of_waiting ha, fun r since e p q hfails he => ?_, ?_⟩
  · obtain ⟨due, why, earlier, htries⟩ := hw.hasRefused_of_fails hfails he
    exact ⟨_, htries⟩
  · rintro r since tries x ⟨v, events, rfl, hrefused⟩
    rw [hrefused.isReachable.settings_after events]
    exact ⟨hrefused.patient, hrefused.keepsTime⟩

/-- An acquire with a time of one and a half milliseconds and pauses of one. When it is called the
pool is full; then there is room, but another acquire has opened a connection to its database. It
gives up in the second millisecond, since the database is in use. -/
theorem IsReachable.patience_exact_busy :
    let r : Request := { database := "b", ttl := ⟨5⟩, timeout := some ⟨1500000⟩ }
    let u := (World.init { maxConnections := some 1, pollInterval := 1 } false).after
      [.start (.lease { database := "a", ttl := ⟨5⟩ } "first")]
    let v := u.after [.start (.lease r "second"), .tick, .settle "first" .cancel,
      .start (.lease { database := "b", ttl := ⟨5⟩ } "third")]
    let w := v.after [.poll 1, .tick]
    ∃ tries, w.HasRefused r ⟨0⟩ tries (.finished (.failed (.busy "b" ⟨1500000⟩))) ∧
      tries.map Acquisition.Try.why = [.busy, .busy, .full] ∧
      (tries.map Acquisition.Try.time).reverse = Acquisition.schedule w.pool.settings r ⟨0⟩ ∧
      Acquisition.schedule w.pool.settings r ⟨0⟩ = [⟨0⟩, ⟨1000000⟩, ⟨2000000⟩] := by
  intro r u v w
  have hu : u.IsReachable := ⟨_, _, _, _, rfl⟩
  have hv : v.IsReachable := hu.after _
  have hw : w.IsReachable := hv.after _
  have hunow : u.now = ⟨0⟩ := by dsimp only [u]; rfl
  have hvnow : v.now = ⟨1000000⟩ := by dsimp only [v, u, r]; rfl
  have hwnow : w.now = ⟨2000000⟩ := by dsimp only [w, v, u, r]; rfl
  -- it is refused for want of room, since its database is in use, and for this again
  have hfull : ((u.pool.prune u.now).2.attempt r.database r.ttl u.now).1 = .refused .full := by
    dsimp only [u, r]; rfl
  have hbusy : (v.pool.attempt r.database r.ttl v.now).1 = .refused .busy := by
    dsimp only [v, u, r]; rfl
  have hstill : (w.pool.attempt r.database r.ttl w.now).1 = .refused .busy := by
    dsimp only [w, v, u, r]; rfl
  obtain ⟨q, hcall⟩ : ∃ q, Acquisition.start u.planFor u.pool u.now r =
      (.waiting ⟨r, ⟨0⟩, .queued [⟨0⟩] ⟨1000000⟩⟩, q) := by
    dsimp only [u, r]; exact ⟨_, rfl⟩
  obtain ⟨q', hpoll⟩ : ∃ q, Acquisition.poll v.planFor v.pool v.now
      ⟨r, ⟨0⟩, .queued [⟨0⟩] ⟨1000000⟩⟩ =
        (.waiting ⟨r, ⟨0⟩, .queued [⟨1000000⟩, ⟨0⟩] ⟨1500000⟩⟩, q) := by
    dsimp only [v, u, r]; exact ⟨_, rfl⟩
  obtain ⟨q'', hlast⟩ : ∃ q, Acquisition.poll w.planFor w.pool w.now
      ⟨r, ⟨0⟩, .queued [⟨1000000⟩, ⟨0⟩] ⟨1500000⟩⟩ =
        (.finished (.failed (.busy "b" ⟨1500000⟩)), q) := by
    dsimp only [w, v, u, r]; exact ⟨_, rfl⟩
  have hcalled : Acquisition.Refused r ⟨0⟩ [⟨⟨0⟩, u.now, .full, u.pool, q⟩] u _ :=
    .called (Passes.rest hu) hunow.symm hfull hcall
  have hpolled : Acquisition.Refused r ⟨0⟩ _ v _ :=
    .polled hcalled _ rfl (Passes.rest hv) (hvnow ▸ Nat.le_refl _) hbusy hpoll
  have hended : Acquisition.Refused r ⟨0⟩ _ w _ :=
    .polled hpolled _ rfl (Passes.rest hw) (hwnow ▸ by decide) hstill hlast
  have hpunctual : Acquisition.Punctual [⟨⟨1500000⟩, w.now, .busy, w.pool, q''⟩,
      ⟨⟨1000000⟩, v.now, .busy, v.pool, q'⟩, ⟨⟨0⟩, u.now, .full, u.pool, q⟩] := by
    simp only [Acquisition.Punctual, List.forall_mem_cons, hunow, hvnow, hwnow]
    exact ⟨rfl, rfl, rfl, List.forall_mem_nil _⟩
  obtain ⟨-, -, hexact⟩ := hw.patience_exact
  obtain ⟨-, hkeeps⟩ := hexact r ⟨0⟩ _ _ hended.hasRefused
  have htimes := (hkeeps hpunctual).ends _ rfl
  refine ⟨_, hended.hasRefused, rfl, htimes, ?_⟩
  rw [← htimes]
  simp [hunow, hvnow, hwnow]

end World

end KeyedPool
