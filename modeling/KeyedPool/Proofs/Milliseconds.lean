import KeyedPool.World
import Mathlib.Algebra.Group.Nat.Defs
import Mathlib.Order.Bounds.Defs

/-!
# Durations in whole milliseconds

The settings of a pool keep a duration as a number of milliseconds in a 64-bit word. What is below a
millisecond is cut off, and a duration with more milliseconds than a word can count is kept as the
greatest number that it can. So there are three ranges: of a duration below a millisecond nothing
is left, up to `2 ^ 64` milliseconds less than a millisecond is lost, and beyond that all durations
are kept as the same one.

One law holds in all three: a number that fits a word is at most the number that is kept if and only
if so many milliseconds are at most the duration. So what is read back is the greatest duration that
can be kept and is not above the one that was put in, and to put it in again changes nothing.

Where no time at all would do harm there is none. A waiting acquire pauses for a millisecond at
least, whatever is set, and a period of zero for pruning in the background is no period, so that no
pruner is started; one that the settings start is never torn down for want of a period.

* `KeyedPool.Duration.le_wholeMillis_iff`: the law.
* `KeyedPool.Duration.isGreatest_ofMillis_wholeMillis`: the greatest duration that can be kept.
* `KeyedPool.PoolSettings.ReadsBack`: what is read back after a duration was put in.
* `KeyedPool.PoolSettings.durations_kept`: every duration is kept as exactly as it can be.
-/

namespace KeyedPool

/-! ### Whole milliseconds -/

namespace Duration

variable {d e : Duration} {m ms : Nat}

theorem ofMillis_le_iff : ofMillis ms ≤ d ↔ ms ≤ d.nanos / nanosPerMilli :=
  (Nat.le_div_iff_mul_le (by decide)).symm

theorem ofMillis_le_ofMillis_iff : ofMillis m ≤ ofMillis ms ↔ m ≤ ms :=
  Nat.mul_le_mul_right_iff (by decide)

theorem ofMillis_inj : ofMillis m = ofMillis ms ↔ m = ms :=
  ⟨fun h => Nat.mul_right_cancel (by decide) (congrArg nanos h), congrArg _⟩

theorem wholeMillis_le (d : Duration) : d.wholeMillis ≤ wordMax := Nat.min_le_right _ _

/-- **The law of whole milliseconds.** A number that fits a word is at most that of a duration if
and only if so many milliseconds are at most the duration. -/
theorem le_wholeMillis_iff (h : ms ≤ wordMax) : ms ≤ d.wholeMillis ↔ ofMillis ms ≤ d := by
  rw [wholeMillis, Nat.le_min, ofMillis_le_iff, and_iff_left h]

theorem ofMillis_wholeMillis_le (d : Duration) : ofMillis d.wholeMillis ≤ d :=
  (le_wholeMillis_iff d.wholeMillis_le).mp (Nat.le_refl _)

theorem wholeMillis_mono (h : d ≤ e) : d.wholeMillis ≤ e.wholeMillis :=
  (le_wholeMillis_iff d.wholeMillis_le).mpr (Nat.le_trans d.ofMillis_wholeMillis_le h)

/-- A number that fits a word is kept. -/
theorem wholeMillis_ofMillis (h : ms ≤ wordMax) : (ofMillis ms).wholeMillis = ms :=
  Nat.le_antisymm (ofMillis_le_ofMillis_iff.mp (ofMillis_wholeMillis_le _))
    ((le_wholeMillis_iff h).mpr (Nat.le_refl _))

/-- **The greatest duration that can be kept** and is not above a duration is that of its whole
milliseconds. -/
theorem isGreatest_ofMillis_wholeMillis (d : Duration) :
    IsGreatest {e | (∃ ms < 2 ^ 64, e = ofMillis ms) ∧ e ≤ d} (ofMillis d.wholeMillis) := by
  refine ⟨⟨⟨_, Nat.lt_succ_of_le d.wholeMillis_le, rfl⟩, d.ofMillis_wholeMillis_le⟩, ?_⟩
  rintro e ⟨⟨ms, hms, rfl⟩, hle⟩
  exact ofMillis_le_ofMillis_iff.mpr ((le_wholeMillis_iff (Nat.le_of_lt_succ hms)).mpr hle)

/-- Nothing is kept of a duration exactly if it is below a millisecond. -/
theorem wholeMillis_eq_zero_iff : d.wholeMillis = 0 ↔ d < ofMillis 1 := by
  rw [← Nat.lt_one_iff, ← Nat.not_le, le_wholeMillis_iff (by decide)]
  exact Nat.not_le

/-- The greatest number of a word is kept exactly from so many milliseconds on. -/
theorem wholeMillis_eq_wordMax_iff : d.wholeMillis = wordMax ↔ ofMillis wordMax ≤ d := by
  rw [← le_wholeMillis_iff (Nat.le_refl _)]
  exact ⟨Nat.le_of_eq ∘ Eq.symm, Nat.le_antisymm d.wholeMillis_le⟩

/-- Less than a millisecond is lost exactly if a word can count the milliseconds. -/
theorem minus_ofMillis_wholeMillis_lt_iff :
    d.minus (ofMillis d.wholeMillis) < ofMillis 1 ↔ d < ofMillis (2 ^ 64) := by
  have hword : wordMax = 2 ^ 64 - 1 := rfl
  simp only [lt_def, nanos_minus, nanos_ofMillis, wholeMillis, hword, nanosPerMilli]
  omega

/-- Whole milliseconds, counted from seconds and nanoseconds. -/
theorem div_nanosPerMilli (d : Duration) :
    d.nanos / nanosPerMilli = d.seconds * 1000 + d.subsecond / 1000000 := by
  simp only [seconds, subsecond, nanosPerMilli, nanosPerSecond]
  omega

end Duration

/-! ### Putting a duration in and reading it back -/

namespace PoolSettings

variable {s : PoolSettings} {d : Duration}

/-- **What is read back after a duration was put in**, with the functions that read and change one
setting. -/
structure ReadsBack (get : PoolSettings → Duration) (set : PoolSettings → Duration → PoolSettings)
    (s : PoolSettings) (d : Duration) : Prop where
  /-- It is the greatest duration not above it that is a number of milliseconds in a word. -/
  greatest : IsGreatest {e | (∃ ms < 2 ^ 64, e = .ofMillis ms) ∧ e ≤ d} (get (set s d))
  /-- It is never longer. -/
  le : get (set s d) ≤ d
  /-- What is read back after a longer duration was put in is not shorter. -/
  mono : ∀ e, d ≤ e → get (set s d) ≤ get (set s e)
  /-- It is less than a millisecond short exactly if a word can count the milliseconds. -/
  near : d.minus (get (set s d)) < .ofMillis 1 ↔ d < .ofMillis (2 ^ 64)
  /-- It is the longest that can be read back exactly from that duration on. -/
  saturated : get (set s d) = .ofMillis (2 ^ 64 - 1) ↔ .ofMillis (2 ^ 64 - 1) ≤ d
  /-- To put it in again changes nothing. -/
  again : set (set s d) (get (set s d)) = set s d
  /-- To put it into any settings does what the duration itself does. -/
  same : ∀ t, set t (get (set s d)) = set t d

/-- A duration is read back as it should be if whole milliseconds are kept: `put` changes their
number, and of two changes the last one counts. -/
theorem ReadsBack.of_put {get : PoolSettings → Duration}
    {set : PoolSettings → Duration → PoolSettings} (put : PoolSettings → Nat → PoolSettings)
    (hset : ∀ s d, set s d = put s d.wholeMillis) (hget : ∀ s ms, get (put s ms) = .ofMillis ms)
    (hput : ∀ s m ms, put (put s m) ms = put s ms) (s : PoolSettings) (d : Duration) :
    ReadsBack get set s d := by
  have hread (e : Duration) : get (set s e) = .ofMillis e.wholeMillis := by rw [hset, hget]
  have hsame (t : PoolSettings) : set t (get (set s d)) = set t d := by
    rw [hread, hset, hset, Duration.wholeMillis_ofMillis d.wholeMillis_le]
  constructor
  case greatest =>
    rw [hread]
    exact d.isGreatest_ofMillis_wholeMillis
  case le =>
    rw [hread]
    exact d.ofMillis_wholeMillis_le
  case mono =>
    intro e hle
    rw [hread, hread]
    exact Duration.ofMillis_le_ofMillis_iff.mpr (Duration.wholeMillis_mono hle)
  case near =>
    rw [hread]
    exact Duration.minus_ofMillis_wholeMillis_lt_iff
  case saturated =>
    rw [hread, Duration.ofMillis_inj]
    exact Duration.wholeMillis_eq_wordMax_iff
  case again => rw [hsame, hset, hset, hput]
  case same => exact hsame

/-! ### Settings that must not be zero -/

theorem ofMillis_one_le_retryPause (s : PoolSettings) : .ofMillis 1 ≤ s.retryPause :=
  Duration.ofMillis_le_ofMillis_iff.mpr (Nat.le_max_right _ _)

theorem prunePeriod?_eq_some_iff :
    s.prunePeriod? = some d ↔ ∃ ms, s.pruneInterval = some ms ∧ 0 < ms ∧ .ofMillis ms = d := by
  simp [prunePeriod?, Option.filter_eq_some_iff, and_assoc]

theorem prunePeriod?_eq_none_iff :
    s.prunePeriod? = none ↔ s.pruneInterval = none ∨ s.pruneInterval = some 0 := by
  cases h : s.pruneInterval <;> simp [prunePeriod?, h]

/-- A period is never zero. -/
theorem prunePeriod?_ne_zero : s.prunePeriod? ≠ some .zero := by
  intro h
  obtain ⟨ms, -, hpos, hzero⟩ := prunePeriod?_eq_some_iff.mp h
  have hnanos : 0 < (Duration.ofMillis ms).nanos := Nat.mul_pos hpos (by decide)
  rw [hzero] at hnanos
  exact Nat.lt_irrefl 0 hnanos

/-- There is no pruning in the background exactly if it is to come more often than every
millisecond. -/
theorem prunePeriod?_withPruneInterval_eq_none_iff :
    (s.withPruneInterval d).prunePeriod? = none ↔ d < .ofMillis 1 := by
  rw [prunePeriod?_eq_none_iff, ← Duration.wholeMillis_eq_zero_iff]
  simp [withPruneInterval]

end PoolSettings

namespace World

variable {s : PoolSettings} {driven : Bool} {enumeration : Enumeration}

/-- The settings start a pruner exactly if they have a period and there is anything that could drive
it. -/
theorem pruners_init_eq_nil_iff :
    (init s driven enumeration).pruners = [] ↔ driven = false ∨ s.prunePeriod? = none := by
  rw [init]
  cases s.prunePeriod? with
  | none => simp
  | some every => cases driven <;> simp

/-- A pruner that the settings start runs. -/
theorem running_of_mem_pruners_init {r : Pruner} (hr : r ∈ (init s driven enumeration).pruners) :
    r.state = .running := by
  rw [init] at hr
  cases hperiod : s.prunePeriod? with
  | none => simp [hperiod] at hr
  | some every =>
    cases driven with
    | false => simp [hperiod] at hr
    | true =>
      simp only [hperiod, if_true, List.mem_singleton] at hr
      have hevery : every ≠ .zero := by
        rintro rfl
        exact PoolSettings.prunePeriod?_ne_zero hperiod
      rw [hr, Pruner.start, if_neg hevery]

end World

namespace PoolSettings

/-- **Durations are kept as exactly as whole milliseconds in a word can keep them**: every duration,
and by any settings, whether a pool can run with them or not.

Each of the four settings of time holds the whole milliseconds of the duration that was put in,
counted from its seconds and nanoseconds and cut off at the greatest number of a word, and no other
setting changes. How long an acquire waits and how long the pool's own connection lives are read
back as the greatest duration that can be kept and is not above it: so the order is respected, less
than a millisecond is lost unless a word cannot count so many, and putting it in again changes
nothing.

A pause is a millisecond at least, and a period of pruning is never zero: there is none exactly if
none is set or it is set to zero, so exactly if a duration below a millisecond was put in. Only then
is no pruner started with a pool that can be driven; and a pruner that is started with it runs. -/
theorem durations_kept (s : PoolSettings) (d : Duration) :
    let ms := min (d.seconds * 1000 + d.subsecond / 1000000) (2 ^ 64 - 1)
    (∀ m < 2 ^ 64, m ≤ ms ↔ .ofMillis m ≤ d) ∧
    (s.withConnectionTimeout d = { s with connectionTimeout := ms } ∧
      s.withIdleTimeout d = { s with idleTimeout := ms } ∧
      s.withPollInterval d = { s with pollInterval := ms } ∧
      s.withPruneInterval d = { s with pruneInterval := some ms }) ∧
    ReadsBack acquireTimeout withConnectionTimeout s d ∧
    ReadsBack mainTimeToLive withIdleTimeout s d ∧
    .ofMillis 1 ≤ s.retryPause ∧
    s.prunePeriod? ≠ some .zero ∧
    (s.prunePeriod? = none ↔ s.pruneInterval = none ∨ s.pruneInterval = some 0) ∧
    ((s.withPruneInterval d).prunePeriod? = none ↔ d < .ofMillis 1) ∧
    ∀ driven enumeration,
      ((World.init (s.withPruneInterval d) driven enumeration).pruners = [] ↔
        driven = false ∨ d < .ofMillis 1) ∧
      ∀ r ∈ (World.init s driven enumeration).pruners, r.state = .running := by
  intro ms
  have hms : d.wholeMillis = ms := by
    rw [Duration.wholeMillis, d.div_nanosPerMilli]
    rfl
  refine ⟨fun m hm => ?_, ?_, ?_, ?_, s.ofMillis_one_le_retryPause, prunePeriod?_ne_zero,
    prunePeriod?_eq_none_iff, prunePeriod?_withPruneInterval_eq_none_iff,
    fun driven enumeration => ⟨?_, fun r => World.running_of_mem_pruners_init⟩⟩
  · rw [← hms]
    exact Duration.le_wholeMillis_iff (Nat.le_of_lt_succ hm)
  · rw [← hms]
    exact ⟨rfl, rfl, rfl, rfl⟩
  · exact .of_put (fun s ms => { s with connectionTimeout := ms }) (fun _ _ => rfl) (fun _ _ => rfl)
      (fun _ _ _ => rfl) s d
  · exact .of_put (fun s ms => { s with idleTimeout := ms }) (fun _ _ => rfl) (fun _ _ => rfl)
      (fun _ _ _ => rfl) s d
  · rw [World.pruners_init_eq_nil_iff, prunePeriod?_withPruneInterval_eq_none_iff]

/-- The longest duration with its seconds in a word is cut down to the greatest number that a word
holds, and of a nanosecond less than a millisecond nothing is left. -/
theorem durations_kept_longest :
    let s : PoolSettings := {}
    let longest : Duration := .ofParts (2 ^ 64 - 1) 999999999
    let short : Duration := ⟨999999⟩
    2 ^ 64 - 1 < 2 ^ 64 ∧ short ≤ longest ∧ .ofMillis (2 ^ 64 - 1) ≤ longest ∧
      (s.withConnectionTimeout longest).connectionTimeout = 2 ^ 64 - 1 ∧
      (s.withIdleTimeout longest).mainTimeToLive = .ofMillis (2 ^ 64 - 1) ∧
      (s.withConnectionTimeout short).acquireTimeout ≤
        (s.withConnectionTimeout longest).acquireTimeout ∧
      (s.withPruneInterval short).prunePeriod? = none ∧
      (World.init (s.withPruneInterval longest) true).pruners ≠ [] ∧
      ∀ r ∈ (World.init (s.withPruneInterval longest) true).pruners, r.state = .running := by
  intro s longest short
  have hword : 2 ^ 64 - 1 < 2 ^ 64 := by decide
  have hle : short ≤ longest := by decide
  obtain ⟨hlaw, ⟨htimeout, -⟩, -, hidle, -, -, -, -, hstart⟩ := durations_kept s longest
  obtain ⟨-, -, htime, -, -, -, -, hprune, -⟩ := durations_kept s short
  obtain ⟨-, -, -, -, -, -, -, -, hinit⟩ := durations_kept (s.withPruneInterval longest) longest
  have hlong : .ofMillis (2 ^ 64 - 1) ≤ longest := (hlaw _ hword).mp (by decide)
  have hkept : (s.withConnectionTimeout longest).connectionTimeout = 2 ^ 64 - 1 := by
    rw [htimeout]
    decide
  exact ⟨hword, hle, hlong, hkept, hidle.saturated.mpr hlong, htime.mono longest hle,
    hprune.mpr (by decide), (not_congr (hstart true .stored).1).mpr (by decide),
    (hinit true .stored).2⟩

end PoolSettings

end KeyedPool
