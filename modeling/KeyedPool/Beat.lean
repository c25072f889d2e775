import KeyedPool.World

/-!
# The beat of the clock

When nobody acts, time passes in beats of a millisecond. On a beat the clock moves on, then
every pruner and then every task that waits gets its turn, in the order in which they were
started. A beat is a run like any other.

* `KeyedPool.World.beatEvents`: the events of the next beat.
* `KeyedPool.World.beat`: the next beat, with the tasks that end in it.
* `KeyedPool.World.wait`: beats until a task has ended.
-/

namespace KeyedPool.World

/-- The events of the next beat. -/
def beatEvents (w : World) : List Event :=
  .tick :: (List.range w.pruners.length).map .sweep ++ w.tasks.map fun t => .poll t.ticket

/-- The task that has ended according to an answer, with its result. -/
def ended? : Response → Option (Nat × JobResult)
  | .finished ticket r => some (ticket, r)
  | _ => none

/-- **The next beat**, with the tasks that end in it. -/
def beat (w : World) : List (Nat × JobResult) × World :=
  let done := w.run w.beatEvents
  (done.1.filterMap ended?, done.2)

/-- A number of beats, with the tasks that end in them after those that ended before. -/
def beatsFrom (ended : List (Nat × JobResult)) (w : World) : Nat → List (Nat × JobResult) × World
  | 0 => (ended, w)
  | n + 1 =>
    let next := w.beat
    beatsFrom (ended ++ next.1) next.2 n

/-- A number of beats, with the tasks that end in them. -/
def beats (w : World) (n : Nat) : List (Nat × JobResult) × World := beatsFrom [] w n

/-- Beats until a task has ended, at most so many, with the tasks that end in them after those that
ended before. -/
def waitFrom (ended : List (Nat × JobResult)) (w : World) (ticket : Nat) :
    Nat → List (Nat × JobResult) × World
  | 0 => (ended, w)
  | n + 1 =>
    let next := w.beat
    if next.1.any (·.1 == ticket) then (ended ++ next.1, next.2)
    else waitFrom (ended ++ next.1) next.2 ticket n

/-- Beats until a task has ended, at most so many, with all the tasks that end in them. -/
def wait (w : World) (ticket : Nat) (n : Nat) : List (Nat × JobResult) × World :=
  waitFrom [] w ticket n

end KeyedPool.World
