import KeyedPool.Proofs.Veil.Abreast

/-!
# Close failures do not interfere

Two runs of a program may differ in nothing but which connections resist to be closed. A connection
that resists stays open, so that from then on its flag differs, and so may what the pool finds when
it looks at the connection again – after everything was closed under a lease, when that lease is
released. All the same, the two runs stay together: after every event the tables are equal, and
every acquire, scope, pruning and eviction has come to the same end.

The argument is a simulation. Worlds are alike when their pools are the same under the veil and
everything else in them is the same, or waits at the same point; an event that is the same but for
the resistance of connections leads from worlds that are alike to worlds that are alike, and is
answered alike. A run is then an induction.

* `KeyedPool.Event.Alike`: two events that differ in the resistance of connections only.
* `KeyedPool.Response.Alike`: two answers that differ in how closings went only.
* `KeyedPool.Pool.Agree`: what two pools have in common, and what may differ.
* `KeyedPool.World.Alike.step`: the simulation.
* `KeyedPool.World.close_failures_harmless`: two runs.
-/

namespace KeyedPool

variable {w w' : World} {p q : Pool}

/-! ### What is compared -/

/-- **Two events are the same**, but for which connections resist to be closed. -/
inductive Event.Alike : Event → Event → Prop
  /-- They are equal. -/
  | same (e : Event) : Alike e e
  /-- Connections to a database will be opened that resist, or do not. -/
  | plan (database : String) (delay : Nat) (closed broken failClose failClose' : Bool) :
    Alike (.plan database ⟨delay, .connected closed broken failClose⟩)
      (.plan database ⟨delay, .connected closed broken failClose'⟩)
  /-- A connection resists from now on, or does not, or stays as it is. -/
  | flags (connection : Nat) (closed broken failClose failClose' : Option Bool) :
    Alike (.flags connection closed broken failClose)
      (.flags connection closed broken failClose')

/-- **Two answers are the same**, but for how closings went. -/
inductive Response.Alike : Response → Response → Prop
  /-- They are equal. -/
  | same (r : Response) : Alike r r
  /-- They answer a command alike. -/
  | reply {r r' : Reply} (h : r.Alike r') : Alike (.reply r) (.reply r')
  /-- They tell of the end of a task, which has come to the same. -/
  | finished (ticket : Nat) {r r' : JobResult} (h : r.Alike r') :
    Alike (.finished ticket r) (.finished ticket r')
  /-- They show a connection that is the same under the veil. -/
  | handle {h h' : Handle} (hveil : h.veil = h'.veil) : Alike (.handle h) (.handle h')

/-- **Two pools agree** in everything but how closings went. -/
structure Pool.Agree (p q : Pool) : Prop where
  /-- They track the same, down to connections, generations, deadlines and flags of records. -/
  table : p.table = q.table
  /-- They have opened as many connections. -/
  opened : p.counters.opened = q.counters.opened
  /-- They have pruned as many. -/
  pruned : p.counters.pruned = q.counters.pruned
  /-- They have evicted as many. -/
  evicted : p.counters.evicted = q.counters.evicted
  /-- They have closed as many, with success or without. -/
  closings : p.counters.closed + p.counters.closeFailed =
    q.counters.closed + q.counters.closeFailed
  /-- The same holds of the meters, and as many connections are open. -/
  meters : p.meters.veil = q.meters.veil
  /-- They have the same connections, each closed by the pool as often. Only a connection that the
  pool has closed may look closed in one and open in the other. -/
  handles : List.Forall₂ (fun h h' : Handle => h.database = h'.database ∧ h.broken = h'.broken ∧
    h.closeCalls = h'.closeCalls ∧ (h.closeCalls = 0 → h.closed = h'.closed)) p.handles q.handles
  /-- They have the same history, but for failures to close, the success of closing everything, and
  the remark that a lease has ended whose connection had left. -/
  history : p.history.filterMap Entry.veil? = q.history.filterMap Entry.veil?

/-- Pools that are the same under the veil agree. -/
theorem Pool.agree_of_veil (h : p.veil = q.veil) : p.Agree q := by
  obtain ⟨-, -, -, htable, hhandles, hcounters, hmeters, hhistory⟩ := Pool.mk.inj h
  obtain ⟨hopened, hpruned, hevicted, hclosings, -⟩ := Counters.mk.inj hcounters
  refine ⟨htable, hopened, hpruned, hevicted, hclosings, hmeters, ?_, hhistory⟩
  rw [← List.forall₂_eq_eq_eq, List.forall₂_map_left_iff, List.forall₂_map_right_iff] at hhandles
  refine hhandles.imp fun x y hxy => ?_
  obtain ⟨hdatabase, hclosed, hbroken, -, hcalls⟩ := Handle.mk.inj hxy
  exact ⟨hdatabase, hbroken, hcalls, fun hnever => by simpa [← hcalls, hnever] using hclosed⟩

/-- Jobs that wait at the same point hold the same leases. -/
theorem PendingJob.Alike.leases_eq {j j' : PendingJob} (h : j.Alike j') : j.leases = j'.leases := by
  cases h with
  | leasing ha label => rfl
  | entering ha errors body => rfl
  | inside hs => exact congrArg₂ (fun l kept => l :: LeaseBook.leases kept) hs.lease hs.kept

/-- Two tasks wait at the same point. -/
structure Task.Alike (t t' : Task) : Prop where
  ticket : t.ticket = t'.ticket
  job : t.job.Alike t'.job

/-- **Two worlds are alike**: their pools are the same under the veil, and everything else is the
same or waits at the same point. -/
structure World.Alike (w w' : World) : Prop where
  pool : w.pool.veil = w'.pool.veil
  clock : w.clock = w'.clock
  /-- Connections are opened in the same way, but for their resistance. -/
  plans : ∀ k, (w.planFor k).veil = (w'.planFor k).veil
  leases : w.leases = w'.leases
  /-- The same tasks wait, each of them at the same point. -/
  tasks : List.Forall₂ Task.Alike w.tasks w'.tasks
  nextTicket : w.nextTicket = w'.nextTicket
  pruners : w.pruners = w'.pruners
  held : w.held = w'.held

namespace World.Alike

/-- The same has been done in two worlds: they have answered alike, and what is left is alike. -/
abbrev Follows (x y : Response × World) : Prop := x.1.Alike y.1 ∧ x.2.Alike y.2

theorem now_eq (h : w.Alike w') : w'.now = w.now := by rw [World.now, World.now, h.clock]

/-- Two worlds that are alike are two runs abreast. -/
theorem abreast (h : w.Alike w') (hw : w.IsReachable) (hw' : w'.IsReachable) :
    Abreast w.now w w' w.custody w'.custody where
  left := .rest hw
  right := .rest hw'
  now_left := rfl
  now_right := h.now_eq
  veil := h.pool

/-! ### Tasks -/

/-- A task is found in both worlds or in none. -/
theorem task? (h : w.Alike w') (ticket : Nat) :
    (w.task? ticket = none ∧ w'.task? ticket = none) ∨
    ∃ t t', w.task? ticket = some t ∧ w'.task? ticket = some t' ∧ t.Alike t' := by
  rw [World.task?, World.task?]
  have htasks := h.tasks
  generalize w.tasks = ts, w'.tasks = ts' at htasks ⊢
  induction htasks with
  | nil => exact .inl ⟨rfl, rfl⟩
  | @cons t t' ts ts' ht hts ih =>
    rw [List.find?_cons, List.find?_cons, ← ht.ticket]
    cases t.ticket == ticket with
    | true => exact .inr ⟨t, t', rfl, rfl, ht⟩
    | false => exact ih

/-- The tasks that are left stay as they are when one goes. -/
theorem withoutTask (h : w.Alike w') (ticket : Nat) :
    (w.withoutTask ticket).Alike (w'.withoutTask ticket) :=
  { h with tasks := List.rel_filter (fun t t' ht => by simp only [ht.ticket]) h.tasks }

/-- An operation of the pool changes nothing else. -/
theorem withPool (h : w.Alike w') (hveil : p.veil = q.veil) :
    World.Alike { w with pool := p } { w' with pool := q } :=
  { h with pool := hveil }

section Runs

variable {now : Instant} {v v' : World} {L L' : Multiset Lease} {O O' : Multiset Opening}

/-- What comes of a job is kept if it is a lease. -/
theorem conclude (h : w.Alike w') {r r' : JobResult} (hr : r.Alike r')
    (hruns : Abreast now v v' (r.holding.beside w.pool (↑w.leases.leases + L) O)
      (r'.holding.beside w'.pool (↑w'.leases.leases + L') O')) (ticket : Nat) :
    Follows (w.conclude ticket r) (w'.conclude ticket r') := by
  cases hr with
  | concluded hc => exact ⟨.finished ticket (.concluded hc), h⟩
  | same r =>
    cases r with
    | leased l label =>
      simp only [JobResult.holding, Holding.beside_lease, ← h.leases] at hruns
      simp only [World.conclude, World.keepLease, ← h.leases]
      exact ⟨.same _, { h with pool := (hruns.keep label).veil, leases := rfl }⟩
    | failed e => exact ⟨.same _, h⟩
    | concluded c => exact ⟨.same _, h⟩
    | crashed text => exact ⟨.same _, h⟩

end Runs

/-- **A task is started** in both runs. -/
theorem startTask (h : w.Alike w') (hw : w.IsReachable) (hw' : w'.IsReachable) (j : Job) :
    Follows (w.startTask j) (w'.startTask j) := by
  have hruns := h.abreast hw hw'
  rw [custody_eq, custody_eq] at hruns
  have hstart := hruns.start h.plans j
  have hafter := hruns.moves (Job.moves_start w.planFor j) (Job.moves_start w'.planFor j)
    hstart.veil_custody
  simp only [World.startTask, h.now_eq, ← h.nextTicket]
  generalize j.start w.planFor w.pool w.now = x at hstart hafter ⊢
  generalize j.start w'.planFor w'.pool w.now = y at hstart hafter ⊢
  cases hstart with
  | waiting hj hveil =>
    exact ⟨.same _, { h with
      pool := hveil, nextTicket := rfl, tasks := List.rel_append h.tasks (.cons ⟨rfl, hj⟩ .nil) }⟩
  | @finished r r' p q hr hveil =>
    have hnext : World.Alike { w with nextTicket := w.nextTicket + 1, pool := p }
      { w' with nextTicket := w.nextTicket + 1, pool := q } :=
        { h with pool := hveil, nextTicket := rfl }
    exact hnext.conclude hr hafter w.nextTicket

/-- **A task gets its turn** in both runs. -/
theorem pollTask (h : w.Alike w') (hw : w.IsReachable) (hw' : w'.IsReachable) (ticket : Nat) :
    Follows (w.pollTask ticket) (w'.pollTask ticket) := by
  rw [World.pollTask, World.pollTask]
  obtain ⟨ht, ht'⟩ | ⟨t, t', ht, ht', halike⟩ := h.task? ticket
  · rw [ht, ht']
    exact ⟨.same _, h⟩
  · have hruns := h.abreast hw hw'
    rw [custody_of_perm (hw.tidy.tasks_perm ht), custody_of_perm (hw'.tidy.tasks_perm ht')] at hruns
    have hpoll := hruns.poll h.plans halike.job
    have hafter := hruns.moves (PendingJob.moves_poll w.planFor t.job)
      (PendingJob.moves_poll w'.planFor t'.job) hpoll.veil_custody
    simp only [ht, ht', h.now_eq]
    generalize t.job.poll w.planFor w.pool w.now = x at hpoll hafter ⊢
    generalize t'.job.poll w'.planFor w'.pool w.now = y at hpoll hafter ⊢
    cases hpoll with
    | waiting hj hveil =>
      refine ⟨.same _, { h with pool := hveil, tasks := ?_ }⟩
      refine List.rel_map (fun u u' hu => ?_) h.tasks
      rw [← hu.ticket]
      split
      · exact ⟨rfl, hj⟩
      · exact hu
    | finished hr hveil => exact ((h.withPool hveil).withoutTask ticket).conclude hr hafter ticket

/-- **A task is torn down** in both runs. -/
theorem abortTask (h : w.Alike w') (hw : w.IsReachable) (hw' : w'.IsReachable) (ticket : Nat) :
    Follows (w.abortTask ticket) (w'.abortTask ticket) := by
  rw [World.abortTask, World.abortTask]
  obtain ⟨ht, ht'⟩ | ⟨t, t', ht, ht', halike⟩ := h.task? ticket
  · rw [ht, ht']
    exact ⟨.same _, h⟩
  · have hruns := h.abreast hw hw'
    rw [custody_of_perm (hw.tidy.tasks_perm ht), custody_of_perm (hw'.tidy.tasks_perm ht')] at hruns
    simp only [ht, ht']
    exact ⟨.same _, (h.withPool (hruns.abandon halike.job).veil).withoutTask ticket⟩

/-! ### The other events -/

/-- A lease that a caller keeps is ended in both runs. -/
theorem settleLease (h : w.Alike w') (hw : w.IsReachable) (hw' : w'.IsReachable) (label : String)
    (how : Disposal) : Follows (w.settleLease label how) (w'.settleLease label how) := by
  have hruns := h.abreast hw hw'
  rw [custody_eq, custody_eq, ← h.leases] at hruns
  rw [World.settleLease, World.settleLease, ← h.leases]
  obtain ⟨hp, hq⟩ | ⟨kept, p, q, hp, hq, hsettled⟩ := hruns.settle? label how
  · rw [hp, hq]
    exact ⟨.same _, h⟩
  · rw [hp, hq]
    exact ⟨.same _, { h with pool := hsettled.veil, leases := rfl }⟩

/-- A command is carried out in both runs. -/
theorem command (h : w.Alike w') (c : Command) :
    Follows (.reply (w.pool.execute w.now c).1, { w with pool := (w.pool.execute w.now c).2 })
      (.reply (w'.pool.execute w'.now c).1, { w' with pool := (w'.pool.execute w'.now c).2 }) := by
  rw [h.now_eq]
  refine ⟨.reply (Pool.execute_alike h.pool c), h.withPool ?_⟩
  rw [Pool.veil_execute, h.pool, ← Pool.veil_execute]

/-- A pruner gets its turn in both runs. -/
theorem sweep (h : w.Alike w') (position : Nat) : (w.sweep position).Alike (w'.sweep position) := by
  have halive : w'.isAlive = w.isAlive := by
    have hempty : w'.tasks.isEmpty = w.tasks.isEmpty := by
      rw [Bool.eq_iff_iff, List.isEmpty_iff_length_eq_zero, List.isEmpty_iff_length_eq_zero,
        h.tasks.length_eq]
    rw [isAlive, isAlive, ← h.held, ← h.leases, hempty]
  simp only [World.sweep, ← h.pruners, h.now_eq, halive]
  split
  · exact h
  · split
    · split
      · refine { h with pool := ?_, pruners := rfl }
        have hprune : w.pool.veil.prune w.now = w'.pool.veil.prune w.now := by rw [h.pool]
        rw [Pool.veil_prune, Pool.veil_prune] at hprune
        exact congrArg Prod.snd hprune
      · refine { h with pool := ?_, pruners := rfl }
        rw [Pool.veil_note, h.pool, ← Pool.veil_note]
    · exact h

/-- The flags of a connection change in both runs, but for its resistance. -/
theorem setFlags (h : w.Alike w') (c : Nat) (closed broken failClose failClose' : Option Bool) :
    Follows (w.setFlags c closed broken failClose) (w'.setFlags c closed broken failClose') := by
  rw [World.setFlags, World.setFlags]
  obtain ⟨hp, hq⟩ | ⟨x, y, hp, hq, hveil⟩ := Pool.handles_of_veil h.pool c
  · rw [hp, hq]
    exact ⟨.same _, h⟩
  · simp only [hp, hq]
    refine ⟨.handle ?_, h.withPool ?_⟩
    · rw [Handle.veil_setFlags, hveil, ← Handle.veil_setFlags]
    · -- whatever becomes of the resistance, the flags change as they do under the veil
      have hflags (f : Option Bool) (p : Pool) :
          (p.modifyHandle c (·.setFlags closed broken f)).veil =
            p.veil.modifyHandle c fun z => (z.setFlags closed broken none).veil :=
        p.veil_modifyHandle c fun z => z.veil_setFlags closed broken f
      rw [hflags, h.pool, ← hflags failClose']

/-- What needs the pool is done in both runs, or in none. -/
theorem ifHeld (h : w.Alike w') {act act' : Response × World} (hact : Follows act act') :
    Follows (w.ifHeld act) (w'.ifHeld act') := by
  rw [World.ifHeld, World.ifHeld, ← h.held]
  split
  · exact hact
  · exact ⟨.same _, h⟩

/-- The plans for a database are the same under the veil once the latest are. -/
theorem withPlan (h : w.Alike w') (database : String) {plan plan' : ConnectPlan}
    (hplan : plan.veil = plan'.veil) :
    World.Alike { w with plans := (database, plan) :: w.plans }
      { w' with plans := (database, plan') :: w'.plans } := by
  refine { h with plans := fun k => ?_ }
  have hplans := h.plans k
  simp only [planFor, List.lookup_cons] at hplans ⊢
  split
  · exact hplan
  · exact hplans

/-- **An event that is the same but for the resistance of connections** leads from worlds that are
alike to worlds that are alike, and is answered alike. -/
theorem step (h : w.Alike w') (hw : w.IsReachable) (hw' : w'.IsReachable) {e e' : Event}
    (he : e.Alike e') : Follows (w.step e) (w'.step e') := by
  cases he with
  | plan database delay closed broken failClose failClose' =>
    exact ⟨.same _, h.withPlan database rfl⟩
  | flags c closed broken failClose failClose' => exact h.setFlags c closed broken _ _
  | same e =>
    cases e with
    | tick => exact ⟨.same _, { h with clock := congrArg (· + 1) h.clock }⟩
    | sweep position => exact ⟨.same _, h.sweep position⟩
    | poll ticket => exact h.pollTask hw hw' ticket
    | start job => exact h.ifHeld (h.startTask hw hw' job)
    | abort ticket => exact h.abortTask hw hw' ticket
    | settle label disposal => exact h.settleLease hw hw' label disposal
    | command c => exact h.ifHeld (h.command c)
    | plan database plan => exact ⟨.same _, h.withPlan database rfl⟩
    | flags c closed broken failClose => exact h.setFlags c closed broken _ _
    | spawnPruner label every =>
      refine h.ifHeld ⟨.same _, { h with pruners := ?_ }⟩
      simp only [spawnPruner, h.pruners, h.now_eq]
    | abortPruner label =>
      simp only [World.step, abortPruner, pruner?, ← h.pruners]
      split
      · exact ⟨.same _, h⟩
      · exact ⟨.same _, { h with pruners := rfl }⟩
    | askPruner label =>
      simp only [World.step, askPruner, pruner?, ← h.pruners]
      split
      · exact ⟨.same _, h⟩
      · refine ⟨.same _, ?_⟩
        split
        · exact h
        · exact { h with pruners := rfl }
    | letGo => exact h.ifHeld ⟨.same _, { h with held := rfl }⟩

/-- **A run keeps worlds alike**, and is answered alike. -/
theorem run (h : w.Alike w') (hw : w.IsReachable) (hw' : w'.IsReachable) {es es' : List Event}
    (hes : List.Forall₂ Event.Alike es es') :
    List.Forall₂ Response.Alike (w.run es).1 (w'.run es').1 ∧
      (w.after es).Alike (w'.after es') := by
  induction hes generalizing w w' with
  | nil => exact ⟨.nil, h⟩
  | @cons e e' es es' he _ ih =>
    obtain ⟨hanswer, hnext⟩ := h.step hw hw' he
    obtain ⟨hanswers, hend⟩ := ih hnext (hw.after [e]) (hw'.after [e'])
    exact ⟨.cons hanswer hanswers, hend⟩

/-- The same leases are held. -/
theorem heldLeases_eq (h : w.Alike w') : w.heldLeases = w'.heldLeases := by
  have hjobs : List.Forall₂ Eq (w.tasks.flatMap fun t => t.job.leases)
      (w'.tasks.flatMap fun t => t.job.leases) :=
    List.rel_flatMap h.tasks fun t t' ht => by
      rw [ht.job.leases_eq, List.forall₂_eq_eq_eq]
  rw [List.forall₂_eq_eq_eq] at hjobs
  rw [heldLeases, heldLeases, h.leases, hjobs]

end World.Alike

/-! ### Two runs -/

namespace World

/-- Without tasks, a world is like itself. -/
theorem Alike.of_tasks_eq_nil (h : w.tasks = []) : w.Alike w :=
  ⟨rfl, rfl, fun _ => rfl, rfl, h ▸ .nil, rfl, rfl, rfl⟩

/-- **Close failures do not interfere.** Take two runs of a program from the same fresh pool, whose
events are the same but for which connections resist to be closed. Then everything that is answered
in them is the same, but for how closings went: every acquire and every scope ends in the same way,
and every pruning and eviction removes the same. And after every event the pools agree: they track
the same under every database, down to connection, generation, deadlines and flags; their counters
differ at most in how closings are divided into successes and failures; a connection may look closed
in one of them only if it has been closed by the pool in both, in which case it is not on record any
more; and the same leases are held. -/
theorem close_failures_harmless {es es' : List Event} (hes : List.Forall₂ Event.Alike es es')
    (settings : PoolSettings) (driven : Bool) (enumeration : Enumeration) :
    let w := init settings driven enumeration
    List.Forall₂ Response.Alike (w.run es).1 (w.run es').1 ∧
    ∀ n, let v := w.after (es.take n)
      let v' := w.after (es'.take n)
      v.pool.Agree v'.pool ∧
      (∀ k r, v.pool.table.find? k = some (.live r) →
        v.pool.Unclosed r.connection ∧ v'.pool.Unclosed r.connection) ∧
      v.heldLeases = v'.heldLeases := by
  intro w
  have hw : w.IsReachable := ⟨settings, driven, enumeration, [], rfl⟩
  have halike : w.Alike w := .of_tasks_eq_nil (tasks_init settings driven enumeration)
  refine ⟨(halike.run hw hw hes).1, ?_⟩
  intro n v v'
  have hend : v.Alike v' := (halike.run hw hw (List.forall₂_take n hes)).2
  have hagree := Pool.agree_of_veil hend.pool
  refine ⟨hagree, fun k r hr => ⟨?_, ?_⟩, hend.heldLeases_eq⟩
  · exact (Passes.rest (hw.after _)).isIntact k r hr
  · exact (Passes.rest (hw.after _)).isIntact k r (hagree.table ▸ hr)

/-- Everything is closed while a connection is leased, which resists in one run and not in the
other. When the lease is released, the pool of the one finds a connection that is alive, and that of
the other a dead one; but both have the same on record after the next acquire. -/
theorem close_failures_harmless_drained :
    let events (resists : Bool) : List Event :=
      [.plan "a" ⟨0, .connected false false resists⟩,
        .start (.lease { database := "a", ttl := ⟨5⟩ } "x"), .command .closeAll,
        .settle "x" .release, .start (.lease { database := "a", ttl := ⟨5⟩ } "y")]
    let w := init {} false
    let drained (resists : Bool) := w.after ((events resists).take 3)
    let v (resists : Bool) := w.after ((events resists).take 5)
    List.Forall₂ Event.Alike (events true) (events false) ∧
    (drained true).pool.isHealthy 0 = true ∧ (drained false).pool.isHealthy 0 = false ∧
    (v true).pool.table = (v false).pool.table ∧
    (v true).pool.counters ≠ (v false).pool.counters := by
  intro events w drained v
  have hevents : List.Forall₂ Event.Alike (events true) (events false) :=
    .cons (.plan ..) (.cons (.same _) (.cons (.same _) (.cons (.same _) (.cons (.same _) .nil))))
  have hharmless : (v true).pool.Agree (v false).pool :=
    ((close_failures_harmless hevents {} false .stored).2 5).1
  refine ⟨hevents, ?_, ?_, hharmless.table, ?_⟩
  · decide +kernel +zetaReduce
  · decide +kernel +zetaReduce
  · decide +kernel +zetaReduce

end World

end KeyedPool
