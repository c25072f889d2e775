import KeyedPool.Proofs.Twins.Tasks
import KeyedPool.World

/-!
# The order of walks cannot be seen

A pool walks over its table in an order that nobody knows, and that may change from one walk to the
next. Take the same program with two pools that walk in different orders. As long as there is never
a doubt which record is the oldest when one is to be evicted, nobody can tell the two runs apart:
every event is answered in the same way, and after every event the pools have the same table,
connections, counters and meters, and everything around them is the same. What the outside has seen
is the same too, but for the order of closings that follow each other directly.

The argument is a simulation. Two worlds are twins when their pools are and nothing else in them
differs; an event leads from twins to twins and is answered in the same way; and a run is an
induction. The premise is told of one of the runs alone, for the other looks for the oldest record
in the same tables.

* `KeyedPool.World.searchesIn`: the tables in which a run looks for the oldest record.
* `KeyedPool.World.Twin`, `KeyedPool.World.twins_step`: two worlds, and the simulation.
* `KeyedPool.World.twin_run`: a run.
* `KeyedPool.World.walks_unseen`: two runs of a program.
-/

namespace KeyedPool

namespace World

/-! ### Where the oldest record is looked for -/

/-- The tables in which the oldest record is looked for in an event. -/
def searches (w : World) : Event → List Table
  | .start job => if w.held then job.startSearches w.planFor w.pool w.now else []
  | .poll ticket =>
    match w.task? ticket with
    | none => []
    | some t => t.job.pollSearches w.planFor w.pool w.now
  | .command c => if w.held then w.pool.commandSearches c else []
  | _ => []

/-- **The tables in which the oldest record is looked for in a run**, to be evicted. -/
def searchesIn (w : World) : List Event → List Table
  | [] => []
  | e :: es => w.searches e ++ (w.step e).2.searchesIn es

theorem searchesIn_append (w : World) (xs ys : List Event) :
    w.searchesIn (xs ++ ys) = w.searchesIn xs ++ (w.after xs).searchesIn ys := by
  induction xs generalizing w with
  | nil => rfl
  | cons e xs ih => rw [List.cons_append, searchesIn, ih, searchesIn, List.append_assoc, after_cons]

/-! ### The simulation -/

/-- **Two worlds are twins**: nothing differs but their pools, which are twins. -/
inductive Twin : World → World → Prop
  /-- One has the pool of the other in place of its own. -/
  | mk (w : World) {q : Pool} (h : w.pool.Twin q) : Twin w { w with pool := q }

/-- **The same was answered in two worlds** that are twins afterwards. -/
inductive Twins : Response × World → Response × World → Prop
  /-- It was answered in both. -/
  | same (a : Response) {v v' : World} (h : v.Twin v') : Twins (a, v) (a, v')

variable {w w' : World} {q : Pool}

section Events

variable (h : w.pool.Twin q)
include h

theorem twins_conclude (ticket : Nat) (r : JobResult) :
    Twins (w.conclude ticket r) ({ w with pool := q }.conclude ticket r) := by
  cases r with
  | leased l label =>
    have hkept := w.leases.twins_keep h label l
    simp only [conclude, keepLease]
    generalize w.leases.keep label l w.pool = x at hkept ⊢
    generalize w.leases.keep label l q = y at hkept ⊢
    cases hkept with
    | same book htwin => exact .same _ (.mk { w with leases := book, pool := _ } htwin)
  | failed e => exact .same _ (.mk w h)
  | concluded c => exact .same _ (.mk w h)
  | crashed text => exact .same _ (.mk w h)

/-- **A task is started** in both worlds. -/
theorem twins_startTask (job : Job)
    (hlone : ∀ t ∈ job.startSearches w.planFor w.pool w.now, t.HasLoneOldest) :
    Twins (w.startTask job) ({ w with pool := q }.startTask job) := by
  have hjob : Pool.Twins (job.start w.planFor w.pool w.now) (job.start w.planFor q w.now) :=
    Job.twins_start h hlone
  -- the plans and the clock are not the pool's
  have hsame : job.start (planFor { w with pool := q }) q (now { w with pool := q }) =
      job.start w.planFor q w.now := rfl
  simp only [startTask, hsame]
  generalize job.start w.planFor w.pool w.now = x at hjob ⊢
  generalize job.start w.planFor q w.now = y at hjob ⊢
  cases hjob with
  | @same a p' q' htwin =>
    cases a with
    | waiting job =>
      exact .same _ (.mk { w with
        nextTicket := w.nextTicket + 1, pool := p', tasks := w.tasks ++ [⟨w.nextTicket, job⟩] }
        htwin)
    | finished r =>
      exact twins_conclude (w := { w with nextTicket := w.nextTicket + 1, pool := p' }) htwin _ r

/-- **A task gets its turn** in both worlds. -/
theorem twins_pollTask (ticket : Nat)
    (hlone : ∀ t ∈ w.searches (.poll ticket), t.HasLoneOldest) :
    Twins (w.pollTask ticket) ({ w with pool := q }.pollTask ticket) := by
  have htask : task? { w with pool := q } ticket = w.task? ticket := rfl
  simp only [pollTask, htask]
  rw [searches] at hlone
  cases ht : w.task? ticket with
  | none => exact .same _ (.mk w h)
  | some t =>
    rw [ht] at hlone
    have hjob : Pool.Twins (t.job.poll w.planFor w.pool w.now) (t.job.poll w.planFor q w.now) :=
      PendingJob.twins_poll h hlone
    have hsame : t.job.poll (planFor { w with pool := q }) q (now { w with pool := q }) =
        t.job.poll w.planFor q w.now := rfl
    simp only [hsame]
    generalize t.job.poll w.planFor w.pool w.now = x at hjob ⊢
    generalize t.job.poll w.planFor q w.now = y at hjob ⊢
    cases hjob with
    | @same a p' q' htwin =>
      cases a with
      | waiting job =>
        exact .same _ (.mk { w with
          pool := p'
          tasks := w.tasks.map fun u => if u.ticket = ticket then ⟨ticket, job⟩ else u } htwin)
      | finished r =>
        exact twins_conclude (w := { w with pool := p' }.withoutTask ticket) htwin _ r

/-- **A task is torn down** in both worlds. -/
theorem twins_abortTask (ticket : Nat) :
    Twins (w.abortTask ticket) ({ w with pool := q }.abortTask ticket) := by
  have htask : task? { w with pool := q } ticket = w.task? ticket := rfl
  simp only [abortTask, htask]
  cases w.task? ticket with
  | none => exact .same _ (.mk w h)
  | some t =>
    exact .same _ (.mk ({ w with pool := t.job.abandon w.pool }.withoutTask ticket)
      (t.job.twin_abandon h))

/-- A lease that a caller keeps is ended in both worlds. -/
theorem twins_settleLease (label : String) (how : Disposal) :
    Twins (w.settleLease label how) ({ w with pool := q }.settleLease label how) := by
  simp only [settleLease]
  obtain ⟨hp, hq⟩ | ⟨book, p', q', hp, hq, htwin⟩ := w.leases.twins_settle? h label how
  · rw [hp, hq]
    exact .same _ (.mk w h)
  · rw [hp, hq]
    exact .same _ (.mk { w with leases := book, pool := p' } htwin)

/-- A pruner gets its turn in both worlds. -/
theorem twin_sweep (position : Nat) :
    (w.sweep position).Twin ({ w with pool := q }.sweep position) := by
  have hnow : now { w with pool := q } = w.now := rfl
  have halive : isAlive { w with pool := q } = w.isAlive := rfl
  simp only [sweep, hnow, halive]
  cases w.pruners[position]? with
  | none => exact .mk w h
  | some r =>
    dsimp only
    split
    · split
      · exact .mk { w with pool := _, pruners := _ } (h.prune w.now).snd
      · exact .mk { w with pool := _, pruners := _ } (h.note .prunerStopped)
    · exact .mk w h

/-- The flags of a connection change in both worlds. -/
theorem twins_setFlags (c : Nat) (closed broken failClose : Option Bool) :
    Twins (w.setFlags c closed broken failClose)
      ({ w with pool := q }.setFlags c closed broken failClose) := by
  simp only [setFlags, ← h.handles]
  cases w.pool.handles[c]? with
  | none => exact .same _ (.mk w h)
  | some x => exact .same _ (.mk { w with pool := _ } (h.modifyHandle c _))

/-- What needs the pool is done in both worlds, or in none. -/
theorem twins_ifHeld {act act' : Response × World} (hact : w.held = true → Twins act act') :
    Twins (w.ifHeld act) ({ w with pool := q }.ifHeld act') := by
  simp only [ifHeld]
  split
  · rename_i hheld
    exact hact hheld
  · exact .same _ (.mk w h)

/-- **An event** does the same in two worlds that are twins. -/
theorem twins_step (e : Event) (hlone : ∀ t ∈ w.searches e, t.HasLoneOldest) :
    Twins (w.step e) ({ w with pool := q }.step e) := by
  cases e with
  | tick => exact .same _ (.mk { w with clock := w.clock + 1 } h)
  | sweep position => exact .same _ (twin_sweep h position)
  | poll ticket => exact twins_pollTask h ticket hlone
  | start job =>
    refine twins_ifHeld h fun hheld => twins_startTask h job ?_
    rw [searches, if_pos hheld] at hlone
    exact hlone
  | abort ticket => exact twins_abortTask h ticket
  | settle label disposal => exact twins_settleLease h label disposal
  | command c =>
    refine twins_ifHeld h fun hheld => ?_
    rw [searches, if_pos hheld] at hlone
    have hanswer := h.execute w.now c hlone
    have hsame : q.execute (now { w with pool := q }) c = q.execute w.now c := rfl
    simp only [hsame, hanswer.fst]
    exact .same _ (.mk { w with pool := _ } hanswer.snd)
  | plan database plan => exact .same _ (.mk { w with plans := (database, plan) :: w.plans } h)
  | flags c closed broken failClose => exact twins_setFlags h c closed broken failClose
  | spawnPruner label every =>
    exact twins_ifHeld h fun _ => .same _ (.mk (w.spawnPruner label every) h)
  | abortPruner label =>
    have hpruner : pruner? { w with pool := q } label = w.pruner? label := rfl
    simp only [step, abortPruner, hpruner]
    cases w.pruner? label with
    | none => exact .same _ (.mk w h)
    | some r => exact .same _ (.mk { w with pruners := _ } h)
  | askPruner label =>
    have hpruner : pruner? { w with pool := q } label = w.pruner? label := rfl
    simp only [step, askPruner, hpruner]
    cases w.pruner? label with
    | none => exact .same _ (.mk w h)
    | some r =>
      dsimp only
      split
      · exact .same _ (.mk w h)
      · exact .same _ (.mk { w with pruners := _ } h)
  | letGo => exact twins_ifHeld h fun _ => .same _ (.mk { w with held := false } h)

end Events

/-- **A run** does the same in two worlds that are twins, and is answered in the same way. -/
theorem twin_run (h : w.Twin w') (es : List Event)
    (hlone : ∀ t ∈ w.searchesIn es, t.HasLoneOldest) :
    (w.run es).1 = (w'.run es).1 ∧ (w.after es).Twin (w'.after es) := by
  induction es generalizing w w' with
  | nil => exact ⟨rfl, h⟩
  | cons e es ih =>
    obtain ⟨hhere, hrest⟩ := List.forall_mem_append.mp hlone
    cases h with
    | mk h =>
      have hstep := twins_step h e hhere
      simp only [run, after_cons]
      generalize w.step e = x at hstep hrest ⊢
      generalize step _ e = y at hstep ⊢
      cases hstep with
      | same a h =>
        obtain ⟨hanswers, hend⟩ := ih h hrest
        exact ⟨congrArg (a :: ·) hanswers, hend⟩

/-- Fresh worlds are twins, in whatever orders their pools will walk. -/
theorem twin_init (settings : PoolSettings) (driven : Bool) (E E' : Enumeration) :
    (init settings driven E).Twin (init settings driven E') := by
  have hfresh (P : List Entry) : Pool.Twin { settings, enumeration := E, history := P }
      { settings, enumeration := E', history := P } := ⟨rfl, rfl, rfl, rfl, rfl, .refl P⟩
  rw [init, init]
  cases settings.prunePeriod? with
  | none => exact .mk { pool := _ } (hfresh [])
  | some every =>
    cases driven with
    | false => exact .mk { pool := _ } (hfresh [.noScheduler])
    | true => exact .mk { pool := _, pruners := _ } (hfresh [])

/-- **The order of walks cannot be seen.** Take two runs of the same events from a fresh pool, which
walks over its table in some orders in one run and in others in the other, each time in any order.
Suppose that wherever a record is looked for to be evicted, there are no two of those that may be
taken which have both been unused for the longest time.

Then every event is answered in the same way. After every event the pools have the same table, down
to the slot of every database, and the same connections, counters and meters; and everything around
them is the same, with the leases that are held and the tasks that wait.

Cut what the outside has seen into blocks, each of as many closings as follow each other directly,
with everything else alone: how connections were asked for, came, and had their hooks started. Both
runs have the same blocks, up to the order within each of them. So it is with everything that is
written down, where a block is of entries that tell how connections left and were closed. -/
theorem walks_unseen (settings : PoolSettings) (driven : Bool) (E E' : Enumeration)
    (events : List Event)
    (hlone : ∀ t ∈ (init settings driven E).searchesIn events, t.HasLoneOldest) :
    let w := init settings driven E
    let w' := init settings driven E'
    (w.run events).1 = (w'.run events).1 ∧
    ∀ n, let v := w.after (events.take n)
      let v' := w'.after (events.take n)
      v.pool.table = v'.pool.table ∧ v.pool.handles = v'.pool.handles ∧
      v.pool.counters = v'.pool.counters ∧ v.pool.meters = v'.pool.meters ∧
      v' = { v with pool := v'.pool } ∧
      blocks OutsideEvent.isClose (v.pool.history.filterMap Entry.event?) =
        blocks OutsideEvent.isClose (v'.pool.history.filterMap Entry.event?) ∧
      blocks Entry.isParting v.pool.history = blocks Entry.isParting v'.pool.history := by
  intro w w'
  have htwin : w.Twin w' := twin_init settings driven E E'
  refine ⟨(twin_run htwin events hlone).1, fun n => ?_⟩
  intro v v'
  -- what a part of the run looks for is looked for in the whole run
  have hearlier : ∀ t ∈ w.searchesIn (events.take n), t.HasLoneOldest := by
    rw [← List.take_append_drop n events, searchesIn_append] at hlone
    exact (List.forall_mem_append.mp hlone).1
  have hend : v.Twin v' := (twin_run htwin _ hearlier).2
  generalize v = v, v' = v' at hend ⊢
  cases hend with
  | mk h =>
    exact ⟨h.table, h.handles, h.counters, h.meters, rfl,
      (h.history.filterMap Entry.isClose_of_event?).blocks_eq, h.history.blocks_eq⟩

/-- One pool walks over its table backwards. A connection is evicted, and two others are pruned in
one walk, which are closed in one order and in the other. -/
theorem walks_unseen_reversed :
    let reversed : Enumeration := ⟨fun _ keys => keys.reverse, fun _ keys => keys.reverse_perm⟩
    let lease (k : String) : Event := .start (.lease { database := k, ttl := .ofMillis 3 } k)
    let events : List Event := [lease "a", .settle "a" .release, .tick, lease "b",
      .settle "b" .release, lease "c", .settle "c" .release, .tick, .tick, .tick, .command .prune]
    let w := init { maxConnections := some 2 } false
    let w' := init { maxConnections := some 2 } false reversed
    let seen (w : World) : List OutsideEvent :=
      (w.after events).pool.history.filterMap Entry.event?
    (w.searchesIn events).length = 1 ∧ (w.after events).pool.table.size = 0 ∧
      (w'.after events).pool.table = (w.after events).pool.table ∧
      seen w ≠ seen w' ∧ blocks OutsideEvent.isClose (seen w) =
        blocks OutsideEvent.isClose (seen w') := by
  intro reversed lease events w w' seen
  have hlone : ∀ t ∈ w.searchesIn events, t.HasLoneOldest := by
    decide +kernel +zetaReduce
  obtain ⟨-, hsame⟩ := walks_unseen { maxConnections := some 2 } false .stored reversed events hlone
  have hw : init { maxConnections := some 2 } false = w := rfl
  have hw' : init { maxConnections := some 2 } false reversed = w' := rfl
  obtain ⟨htable, -, -, -, -, hblocks, -⟩ := hsame events.length
  rw [List.take_length, hw, hw'] at htable hblocks
  refine ⟨?_, ?_, htable.symm, ?_, hblocks⟩
  · decide +kernel +zetaReduce
  · decide +kernel +zetaReduce
  · decide +kernel +zetaReduce

end World

end KeyedPool
