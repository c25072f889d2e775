/-!
# Durations and instants

Time is counted in whole nanoseconds, so that deadlines compare exactly. The clock a pool reads
stands at whole milliseconds only; durations are as fine as a nanosecond.

* `KeyedPool.Duration`: a length of time.
* `KeyedPool.Duration.wholeMillis`: the whole milliseconds in a duration, as many as a 64-bit word
  holds.
* `KeyedPool.Instant`: a reading of the clock.
* `KeyedPool.Instant.after?`: the instant a duration later, if the clock can show it.
-/

namespace KeyedPool

/-- A length of time. -/
structure Duration where
  /-- Its length in nanoseconds. -/
  nanos : Nat
deriving DecidableEq, Inhabited

/-- A reading of the clock. -/
structure Instant where
  /-- Nanoseconds since the clock started. -/
  nanos : Nat
deriving DecidableEq, Inhabited

/-- Nanoseconds in a millisecond. -/
def nanosPerMilli : Nat := 1000000

/-- Nanoseconds in a second. -/
def nanosPerSecond : Nat := 1000000000

/-- The greatest number that an unsigned 64-bit word holds. -/
def wordMax : Nat := UInt64.size - 1

/-! ### Durations -/

namespace Duration

instance : LE Duration := ⟨fun a b => a.nanos ≤ b.nanos⟩

instance : LT Duration := ⟨fun a b => a.nanos < b.nanos⟩

instance (a b : Duration) : Decidable (a ≤ b) := inferInstanceAs (Decidable (a.nanos ≤ b.nanos))

instance (a b : Duration) : Decidable (a < b) := inferInstanceAs (Decidable (a.nanos < b.nanos))

theorem le_def {a b : Duration} : a ≤ b ↔ a.nanos ≤ b.nanos := Iff.rfl

theorem lt_def {a b : Duration} : a < b ↔ a.nanos < b.nanos := Iff.rfl

/-- No time at all. -/
def zero : Duration := ⟨0⟩

/-- The duration of `ms` milliseconds. -/
def ofMillis (ms : Nat) : Duration := ⟨ms * nanosPerMilli⟩

/-- The duration of `seconds` seconds and `nanos` nanoseconds. -/
def ofParts (seconds nanos : Nat) : Duration := ⟨seconds * nanosPerSecond + nanos⟩

/-- The whole seconds of a duration. -/
def seconds (d : Duration) : Nat := d.nanos / nanosPerSecond

/-- What a duration has beyond its whole seconds, in nanoseconds. -/
def subsecond (d : Duration) : Nat := d.nanos % nanosPerSecond

/-- **The whole milliseconds in a duration**, cut off at what a 64-bit word holds. -/
def wholeMillis (d : Duration) : Nat := min (d.nanos / nanosPerMilli) wordMax

/-- The shorter of two durations. -/
def min (a b : Duration) : Duration := ⟨Nat.min a.nanos b.nanos⟩

/-- What remains of `a` after `b`; nothing when `b` is the longer. -/
def minus (a b : Duration) : Duration := ⟨a.nanos - b.nanos⟩

@[simp] theorem nanos_zero : zero.nanos = 0 := rfl

@[simp] theorem nanos_ofMillis (ms : Nat) : (ofMillis ms).nanos = ms * nanosPerMilli := rfl

@[simp] theorem nanos_min (a b : Duration) : (min a b).nanos = Nat.min a.nanos b.nanos := rfl

@[simp] theorem nanos_minus (a b : Duration) : (minus a b).nanos = a.nanos - b.nanos := rfl

end Duration

/-! ### Instants -/

namespace Instant

instance : LE Instant := ⟨fun a b => a.nanos ≤ b.nanos⟩

instance : LT Instant := ⟨fun a b => a.nanos < b.nanos⟩

instance (a b : Instant) : Decidable (a ≤ b) := inferInstanceAs (Decidable (a.nanos ≤ b.nanos))

instance (a b : Instant) : Decidable (a < b) := inferInstanceAs (Decidable (a.nanos < b.nanos))

theorem le_def {a b : Instant} : a ≤ b ↔ a.nanos ≤ b.nanos := Iff.rfl

theorem lt_def {a b : Instant} : a < b ↔ a.nanos < b.nanos := Iff.rfl

/-- The instant at which the clock shows `ms` milliseconds. -/
def ofMillis (ms : Nat) : Instant := ⟨ms * nanosPerMilli⟩

/-- The instant a duration after `t`. -/
def plus (t : Instant) (d : Duration) : Instant := ⟨t.nanos + d.nanos⟩

/-- The time from `earlier` to `t`; nothing when `t` is not the later. -/
def since (t earlier : Instant) : Duration := ⟨t.nanos - earlier.nanos⟩

/-- The first instant that the clock cannot show: its seconds fill a signed 64-bit word. -/
def horizon : Instant := ⟨(1 <<< 63) * nanosPerSecond⟩

/-- **The instant a duration after `t`**, or nothing when it lies at or beyond the horizon. -/
def after? (t : Instant) (d : Duration) : Option Instant :=
  if t.plus d < horizon then some (t.plus d) else none

@[simp] theorem nanos_ofMillis (ms : Nat) : (ofMillis ms).nanos = ms * nanosPerMilli := rfl

@[simp] theorem nanos_plus (t : Instant) (d : Duration) : (t.plus d).nanos = t.nanos + d.nanos :=
  rfl

@[simp] theorem nanos_since (t s : Instant) : (t.since s).nanos = t.nanos - s.nanos := rfl

/-- An instant that `after?` gives is the sum, and lies before the horizon. -/
theorem after?_eq_some_iff {t u : Instant} {d : Duration} :
    t.after? d = some u ↔ u = t.plus d ∧ u < horizon := by
  unfold after?
  split <;> rename_i h
  · exact ⟨fun e => Option.some.inj e ▸ ⟨rfl, h⟩, fun e => e.1 ▸ rfl⟩
  · exact ⟨(nomatch ·), fun e => absurd (e.1 ▸ e.2) h⟩

/-- `after?` gives nothing exactly at and beyond the horizon. -/
theorem after?_eq_none_iff {t : Instant} {d : Duration} :
    t.after? d = none ↔ horizon ≤ t.plus d := by
  unfold after?
  split <;> rename_i h
  · exact ⟨(nomatch ·), fun e => absurd e (Nat.not_le_of_lt h)⟩
  · exact ⟨fun _ => Nat.le_of_not_lt h, fun _ => rfl⟩

end Instant

end KeyedPool
