import KeyedPool.Time

/-!
# Pruning in the background

A pruner prunes a pool again and again, one period after it was started, two periods, and so on. It
gets its turn at whole milliseconds only: what became due in between is done at the next one, once.

* `KeyedPool.Pruner`: a pruner, and whether it still runs.
* `KeyedPool.Pruner.isDue`: whether it has to prune.
* `KeyedPool.Pruner.next`: when it will have to prune next.
-/

namespace KeyedPool

/-- How it stands with a pruner. -/
inductive PrunerState where
  /-- It runs. -/
  | running
  /-- It ended with the pool. -/
  | finished
  /-- It was stopped. -/
  | aborted
  /-- It was torn down. -/
  | crashed (text : String)
deriving DecidableEq

/-- A pruner in the background. -/
structure Pruner where
  /-- The label under which one asks for it, if anyone does. -/
  label : Option String
  /-- When it was started. -/
  since : Instant
  /-- Its period. -/
  every : Duration
  /-- When it prunes next. -/
  due : Instant
  /-- How it stands. -/
  state : PrunerState

namespace Pruner

/-- The text with which a pruner without a period is torn down. -/
def noPeriodText : String := "\x60period\x60 must be non-zero."

/-- A pruner that is started now. One without a period is torn down at once. -/
def start (label : Option String) (now : Instant) (every : Duration) : Pruner where
  label := label
  since := now
  every := every
  due := now.plus every
  state := if every = .zero then .crashed noPeriodText else .running

/-- Whether a pruner has to prune. -/
def isDue (r : Pruner) (now : Instant) : Bool := r.state == .running && r.due ≤ now

/-- A pruner after its turn: it is due again at the first whole number of periods that has not
passed. -/
def next (r : Pruner) (now : Instant) : Pruner :=
  -- Periods that passed unseen are left out: pruning again at the same time removes nothing more.
  let periods := (now.since r.since).nanos / r.every.nanos + 1
  { r with due := r.since.plus ⟨periods * r.every.nanos⟩ }

end Pruner

end KeyedPool
