import KeyedPool.World

/-!
# Who drains a pool

A connection leaves a pool as drained when everything is closed, and in no other way. So nothing is
drained by an event unless somebody says so: as a command, or as a step of a body that gets its
turn in it.

* `KeyedPool.Pool.drained`: the connections that were closed with all others.
* `KeyedPool.Pool.drained_closeAll`: all of them are, when everything is closed.
* `KeyedPool.World.mayDrain`: whether everything may be closed in an event.
* `KeyedPool.World.drained_step`: nothing is drained otherwise.
-/

namespace KeyedPool

/-- The connection that leaves the pool with all others, with its database. -/
def Entry.drains? : Entry → Option (String × Nat)
  | .removed .drained database connection => some (database, connection)
  | _ => none

/-- The connections that were closed with all others, the latest first. -/
def Pool.drained (p : Pool) : List (String × Nat) := p.history.filterMap Entry.drains?

/-! ### Operations of a pool -/

namespace Pool

variable {p : Pool} {now : Instant} {k : String} {c : Nat}

/-- What has left with all others can be read from the history. -/
theorem mem_drained :
    (k, c) ∈ p.drained ↔ .removed .drained k c ∈ p.history := by
  simp only [drained, List.mem_filterMap]
  constructor
  · rintro ⟨e, he, hdrains⟩
    rcases e with _ | _ | _ | _ | _ | _ | _ | _ | _ | _ | _ | _ | _ | _ | ⟨_ | _, _, _⟩ | _ <;>
      cases hdrains
    exact he
  · exact fun he => ⟨_, he, rfl⟩

variable (p now k c)

theorem drained_note {e : Entry} (he : e.drains? = none) : (p.note e).drained = p.drained := by
  rw [drained, history_note, List.filterMap_cons, he]
  rfl

@[simp] theorem drained_withTable (t : Table) : (p.withTable t).drained = p.drained := rfl

@[simp] theorem drained_walked : p.walked.drained = p.drained := rfl

@[simp] theorem drained_tally (t : Tally) : (p.tally t).drained = p.drained := rfl

@[simp] theorem drained_addHandle (h : Handle) : (p.addHandle h).drained = p.drained := rfl

@[simp] theorem drained_modifyHandle (f : Handle → Handle) :
    (p.modifyHandle c f).drained = p.drained := rfl

@[simp] theorem drained_close : (p.close k c).2.drained = p.drained := by
  unfold close
  split
  · rfl
  · dsimp only
    split <;> exact drained_note _ rfl

/-- A connection that leaves for another reason is not drained. -/
theorem drained_retire {why : Removal} (hwhy : why ≠ .drained) :
    (p.retire ⟨why, k, c⟩).2.drained = p.drained := by
  have hnote : (p.note (.removed why k c)).drained = p.drained := by
    refine drained_note p ?_
    cases why <;> first | rfl | exact absurd rfl hwhy
  rw [retire, drained_close, ← hnote]
  cases why <;> rfl

/-- None of some connections leaves with all others. -/
def NotDrained (ds : List Departure) : Prop := ∀ d ∈ ds, d.why ≠ .drained

theorem drained_retireAll {ds : List Departure} (hds : NotDrained ds) :
    (p.retireAll ds).2.drained = p.drained := by
  induction ds generalizing p with
  | nil => rfl
  | cons d ds ih =>
    obtain ⟨hd, hds⟩ := List.forall_mem_cons.mp hds
    exact (ih _ hds).trans (drained_retire p d.database d.connection hd)

/-- Whatever leaves with all others is written down so. -/
theorem drained_retireAll_of_drained {ds : List Departure} (hds : ∀ d ∈ ds, d.why = .drained) :
    (p.retireAll ds).2.drained =
      (ds.map fun d => (d.database, d.connection)).reverse ++ p.drained := by
  induction ds generalizing p with
  | nil => rfl
  | cons d ds ih =>
    obtain ⟨hd, hrest⟩ := List.forall_mem_cons.mp hds
    obtain ⟨why, k, c⟩ := d
    obtain rfl : why = .drained := hd
    have hretired : (p.retire ⟨.drained, k, c⟩).2.drained = (k, c) :: p.drained := by
      rw [retire, drained_close]
      rfl
    rw [retireAll, ih _ hrest, hretired, List.map_cons, List.reverse_cons, List.append_assoc]
    rfl

/-- **When everything is closed** every connection on record leaves with all others. -/
theorem drained_closeAll :
    p.closeAll.2.drained =
      ((p.takeLive .drained fun _ => true).1.map fun d => (d.database, d.connection)).reverse ++
        p.drained := by
  have hwhy : ∀ d ∈ (p.takeLive .drained fun _ => true).1, d.why = .drained := by
    intro d hd
    obtain ⟨e, -, rfl⟩ := List.mem_map.mp hd
    rfl
  exact (drained_note _ rfl).trans (drained_retireAll_of_drained _ hwhy)

/-! #### What leaves without being asked for -/

theorem notDrained_takeLive {why : Removal} (which : Record → Bool) (hwhy : why ≠ .drained) :
    NotDrained (p.takeLive why which).1 := by
  intro d hd
  obtain ⟨e, -, rfl⟩ := List.mem_map.mp hd
  exact hwhy

theorem notDrained_takeOldest : NotDrained p.takeOldest.1.toList := by
  intro d hd
  rw [takeOldest] at hd
  split at hd
  · cases hd
  · rw [List.mem_singleton.mp hd]
    nofun

@[simp] theorem drained_takeOldest : p.takeOldest.2.drained = p.drained := by
  rw [takeOldest]
  split <;> rfl

@[simp] theorem drained_prune : (p.prune now).2.drained = p.drained := by
  have hexpired : NotDrained (p.takeLive .pruned (Record.isPrunable now)).1 :=
    notDrained_takeLive p _ (by decide)
  have hclosed := drained_retireAll (p.takeLive .pruned (Record.isPrunable now)).2 hexpired
  rw [prune]
  dsimp only
  split
  · exact hclosed
  · exact (drained_note _ rfl).trans hclosed

@[simp] theorem drained_evict : p.evict.2.drained = p.drained := by
  have htake := drained_takeOldest p
  have hwhy := notDrained_takeOldest p
  rw [evict]
  split <;> rename_i hq <;> rw [hq] at htake hwhy
  · exact htake
  · exact (drained_retire _ _ _ (hwhy _ (List.mem_singleton_self _))).trans htake

/-- Room is made, and a place is kept, without anything being drained. -/
theorem makeRoom_notDrained (limit : Nat) :
    NotDrained (p.makeRoom limit now).1 ∧ (p.makeRoom limit now).2.drained = p.drained := by
  have hexpired : NotDrained (p.takeLive .pruned (Record.isPrunable now)).1 :=
    notDrained_takeLive p _ (by decide)
  rw [makeRoom]
  split
  · exact ⟨fun d hd => (nomatch hd), rfl⟩
  · dsimp only
    split
    · exact ⟨hexpired, rfl⟩
    · refine ⟨fun d hd => ?_, drained_takeOldest _⟩
      rcases List.mem_append.mp hd with hd | hd
      · exact hexpired d hd
      · exact notDrained_takeOldest _ d hd

theorem reserve_notDrained :
    NotDrained (p.reserve k now).2.1 ∧ (p.reserve k now).2.2.drained = p.drained := by
  rw [reserve]
  dsimp only
  split
  · exact ⟨fun d hd => (nomatch hd), rfl⟩
  · rename_i limit _
    split <;> exact makeRoom_notDrained p now limit

theorem admission_notDrained (ttl : Duration) :
    NotDrained (p.admission k ttl now).2.1 ∧ (p.admission k ttl now).2.2.drained = p.drained := by
  have hnone : NotDrained [] := fun d hd => (nomatch hd)
  rw [admission]
  split
  · exact reserve_notDrained p now k
  · exact ⟨hnone, rfl⟩
  · rename_i r _
    split
    · exact ⟨hnone, rfl⟩
    · split
      · split <;> exact ⟨hnone, rfl⟩
      · -- the dead connection leaves before the others
        obtain ⟨hdeps, hpool⟩ := reserve_notDrained (p.withTable (p.table.erase k)) now k
        exact ⟨List.forall_mem_cons.mpr ⟨nofun, hdeps⟩, hpool⟩

@[simp] theorem drained_attempt (ttl : Duration) :
    (p.attempt k ttl now).2.drained = p.drained := by
  obtain ⟨hdeps, hpool⟩ := admission_notDrained p now k ttl
  exact (drained_retireAll _ hdeps).trans hpool

/-! #### Leases -/

@[simp] theorem drained_giveUpOpening : (p.giveUpOpening k).drained = p.drained := by
  rw [giveUpOpening]
  split <;> rfl

@[simp] theorem drained_publish (ttl : Duration) (persistent : Bool) :
    (p.publish k c ttl persistent now).2.drained = p.drained := by
  rw [publish]
  split
  · exact drained_note _ rfl
  · dsimp only
    split
    · exact drained_note _ rfl
    · exact (drained_retire _ _ _ (by decide)).trans (drained_note _ rfl)

theorem drained_discard (l : Lease) {why : Removal} (hwhy : why ≠ .drained) :
    (p.discard l why).drained = p.drained := by
  rw [discard]
  split
  · exact drained_retire _ _ _ hwhy
  · rfl

@[simp] theorem drained_settle (l : Lease) (how : Disposal) :
    (p.settle l how).drained = p.drained := by
  have hended : (p.note (.leaseEnded l how)).drained = p.drained := drained_note p rfl
  have hdiscard (why : Removal) (hwhy : why ≠ .drained) :
      ((p.note (.leaseEnded l how)).discard l why).drained = p.drained :=
    (drained_discard _ l hwhy).trans hended
  cases how with
  | release =>
    rw [settle]
    split
    · rw [returnIdle]
      split <;> exact (drained_note _ rfl).trans hended
    · exact hdiscard .broken (by decide)
  | cancel => exact hdiscard .cancelled (by decide)
  | drop => exact hdiscard .cancelled (by decide)

end Pool

/-- Whether a command closes everything. -/
def Command.drains : Command → Bool
  | .closeAll => true
  | _ => false

theorem Pool.drained_execute (p : Pool) (now : Instant) {c : Command} (hc : c.drains = false) :
    (p.execute now c).2.drained = p.drained := by
  cases c with
  | prune => exact drained_prune p now
  | evict => exact drained_evict p
  | closeAll => cases hc
  | resetCounters => exact drained_note _ rfl
  | _ => rfl

namespace LeaseBook

variable (b : LeaseBook) (p : Pool)

@[simp] theorem drained_keep (label : String) (l : Lease) :
    (b.keep label l p).2.drained = p.drained := by
  rw [keep]
  cases b.find? label with
  | none => rfl
  | some old => exact Pool.drained_settle p old .drop

theorem drained_settle? {label : String} {how : Disposal} {b' : LeaseBook} {p' : Pool}
    (h : b.settle? label how p = some (b', p')) : p'.drained = p.drained := by
  obtain ⟨l, -, he⟩ := Option.map_eq_some_iff.mp h
  cases he
  exact Pool.drained_settle p l how

@[simp] theorem drained_dropAll : (b.dropAll p).drained = p.drained := by
  rw [dropAll]
  induction b.leases with
  | nil => rfl
  | cons l ls ih => exact (Pool.drained_settle _ l .drop).trans ih

end LeaseBook

/-! ### Acquires -/

namespace Acquisition

variable (plans : String → ConnectPlan) (p : Pool) (now : Instant) (r : Request) (c : Nat)

@[simp] theorem drained_publish : (publish p now r c).2.drained = p.drained := by
  have hpublish := Pool.drained_publish p now r.database c r.ttl r.persistent
  rw [publish]
  split <;> rename_i hq <;> rw [hq] at hpublish <;> exact hpublish

@[simp] theorem drained_dropUnopened : (dropUnopened p r).drained = p.drained :=
  (Pool.drained_giveUpOpening _ _).trans (Pool.drained_note p rfl)

@[simp] theorem drained_dropOpened : (dropOpened p r c).drained = p.drained :=
  (Pool.drained_retire _ _ _ (by decide)).trans (Pool.drained_giveUpOpening _ _)

@[simp] theorem drained_endHook (hook : HookPlan) :
    (endHook p now r c hook).2.drained = p.drained := by
  rw [endHook]
  split
  · exact drained_dropOpened _ r c
  · exact drained_dropOpened _ r c
  · exact (drained_publish _ now r c).trans (Pool.drained_note _ rfl)

@[simp] theorem drained_endConnect (plan : ConnectPlan) :
    (endConnect p now r plan).2.drained = p.drained := by
  rw [endConnect]
  split
  · exact drained_dropUnopened p r
  · exact drained_dropUnopened p r
  · rename_i closed broken failClose _
    let fresh : Handle := { database := r.database, closed, broken, failClose }
    have hconnected : (((p.addHandle fresh).note
        (.connected r.database p.handles.length)).tally .opened).drained = p.drained :=
      Pool.drained_note (p.addHandle fresh) rfl
    dsimp only
    split
    · exact (drained_publish _ now r _).trans hconnected
    · have hstarted := (Pool.drained_note _ (e := .hookStarted p.handles.length) rfl).trans
        hconnected
      split
      · exact (drained_endHook _ now r _ _).trans hstarted
      · exact hstarted

@[simp] theorem drained_beginConnect : (beginConnect plans p now r).2.drained = p.drained := by
  have hasked : ((p.note (.opening r.database)).note (.connecting r.database)).drained =
      p.drained := rfl
  rw [beginConnect]
  split
  · exact (drained_endConnect _ now r _).trans hasked
  · exact hasked

@[simp] theorem drained_refuse (since : Instant) (refusals : List Instant) (why : Refusal) :
    (refuse p now r since refusals why).2.drained = p.drained := by
  rw [refuse]
  dsimp only
  split <;> dsimp only <;> split <;> rfl

@[simp] theorem drained_attempt (since : Instant) (refusals : List Instant) :
    (attempt plans p now r since refusals).2.drained = p.drained := by
  have hattempt := Pool.drained_attempt p now r.database r.ttl
  rw [attempt]
  split <;> rename_i hq <;> rw [hq] at hattempt
  · exact (Pool.drained_note _ rfl).trans hattempt
  · exact (drained_beginConnect plans _ now r).trans hattempt
  · exact (drained_refuse _ now r since refusals _).trans hattempt
  · exact hattempt

@[simp] theorem drained_resume (since : Instant) (x : Progress Stage Acquired × Pool) :
    (resume r since x).2.drained = x.2.drained := by
  rcases x with ⟨_ | _, q⟩ <;> rfl

@[simp] theorem drained_start : (start plans p now r).2.drained = p.drained := by
  simp [start]

@[simp] theorem drained_poll (a : Acquisition) : (poll plans p now a).2.drained = p.drained := by
  rw [poll]
  split
  · rfl
  · split <;> simp

@[simp] theorem drained_abandon (a : Acquisition) : (abandon p a).drained = p.drained := by
  rw [abandon]
  split <;> simp

end Acquisition

/-! ### Bodies -/

/-- Whether a step of a body closes everything. -/
def BodyStep.drains : BodyStep → Bool
  | .command c => c.drains
  | _ => false

/-- Whether a body closes everything at some point. -/
def Body.drains (b : Body) : Bool := b.steps.any BodyStep.drains

namespace Scope

variable (plans : String → ConnectPlan) (p : Pool) (now : Instant)

@[simp] theorem drained_conclude (l : Lease) (kept : LeaseBook) (told : List Reply)
    (ending : Ending) : (conclude p l kept told ending).2.drained = p.drained := by
  cases ending <;> simp [conclude]

@[simp] theorem drained_nested (kept : LeaseBook) (use : LeaseUse) (acquired : Acquired) :
    (nested p kept use acquired).2.drained = p.drained := by
  cases acquired with
  | lease l => cases use <;> simp [nested]
  | failed e => rfl
  | crashed text => rfl

/-- The steps of a body drain nothing unless one of them closes everything. -/
theorem drained_run (l : Lease) (ending : Ending) {steps : List BodyStep} (kept : LeaseBook)
    (told : List Reply) (hsteps : steps.any BodyStep.drains = false) :
    (run plans now l ending steps kept told p).2.drained = p.drained := by
  induction steps generalizing kept told p with
  | nil => exact drained_conclude p l kept told ending
  | cons step rest ih =>
    obtain ⟨hstep, hrest⟩ := Bool.or_eq_false_iff.mp hsteps
    cases step with
    | sleep ms => rfl
    | breakConnection => exact ih _ kept _ hrest
    | hangUp => exact ih _ kept _ hrest
    | inspect => exact ih _ kept _ hrest
    | command c => exact (ih _ kept _ hrest).trans (Pool.drained_execute p now hstep)
    | settle label disposal =>
      rw [run]
      split
      · exact ih _ kept _ hrest
      · rename_i hsettle
        exact (ih _ _ _ hrest).trans (LeaseBook.drained_settle? kept p hsettle)
    | acquire r use =>
      have hstart := Acquisition.drained_start plans p now r
      rw [run]
      split <;> rename_i hs <;> rw [hs] at hstart
      · exact hstart
      · rename_i acquired p'
        have hnested := (drained_nested p' kept use acquired).trans hstart
        split <;> rename_i hn <;> rw [hn] at hnested
        · exact (ih _ _ _ hrest).trans hnested
        · simpa using hnested

theorem drained_poll {s : Scope} (hs : s.rest.drains = false) :
    (poll plans p now s).2.drained = p.drained := by
  rw [poll]
  split
  · split
    · rfl
    · exact drained_run plans p now s.lease _ _ _ hs
  · rename_i a use _
    have hpoll := Acquisition.drained_poll plans p now a
    split <;> rename_i hq <;> rw [hq] at hpoll
    · exact hpoll
    · rename_i acquired p'
      have hnested := (drained_nested p' s.kept use acquired).trans hpoll
      split <;> rename_i hn <;> rw [hn] at hnested
      · exact (drained_run plans _ now s.lease _ _ _ hs).trans hnested
      · simpa using hnested

@[simp] theorem drained_abandon (s : Scope) : (abandon p s).drained = p.drained := by
  rw [abandon]
  split <;> simp

end Scope

/-! ### Jobs and events -/

/-- Whether the body of a job closes everything at some point. -/
def Job.drains : Job → Bool
  | .lease .. => false
  | .scope _ _ body => body.drains

/-- Whether what remains of a job closes everything at some point. -/
def PendingJob.drains : PendingJob → Bool
  | .leasing .. => false
  | .entering _ _ body => body.drains
  | .inside s => s.rest.drains

namespace Job

variable (plans : String → ConnectPlan) (now : Instant)

theorem drained_keep (label : String) (x : Progress Acquisition Acquired × Pool) :
    (keep label x).2.drained = x.2.drained := by
  rcases x with ⟨a | _ | _ | _, p⟩ <;> rfl

theorem drained_proceed (x : Progress Scope Concluded × Pool) :
    (enter.proceed x).2.drained = x.2.drained := by
  rcases x with ⟨s | c, p⟩ <;> rfl

theorem drained_enter (errors : ErrorKind) {body : Body} (hbody : body.drains = false)
    (x : Progress Acquisition Acquired × Pool) :
    (enter plans now errors body x).2.drained = x.2.drained := by
  rcases x with ⟨a | l | e | text, p⟩
  · rfl
  · exact (drained_proceed _).trans (Scope.drained_run plans p now l body.ending {} [] hbody)
  · rfl
  · rfl

theorem drained_start (p : Pool) {j : Job} (hj : j.drains = false) :
    (j.start plans p now).2.drained = p.drained := by
  cases j with
  | lease r label => exact (drained_keep label _).trans (Acquisition.drained_start plans p now r)
  | scope r errors body =>
    exact (drained_enter plans now errors hj _).trans (Acquisition.drained_start plans p now r)

end Job

namespace PendingJob

variable (p : Pool)

theorem drained_poll (plans : String → ConnectPlan) (now : Instant) {j : PendingJob}
    (hj : j.drains = false) : (j.poll plans p now).2.drained = p.drained := by
  cases j with
  | leasing a label =>
    exact (Job.drained_keep label _).trans (Acquisition.drained_poll plans p now a)
  | entering a errors body =>
    exact (Job.drained_enter plans now errors hj _).trans (Acquisition.drained_poll plans p now a)
  | inside s => exact (Job.drained_proceed _).trans (Scope.drained_poll plans p now hj)

@[simp] theorem drained_abandon (j : PendingJob) : (j.abandon p).drained = p.drained := by
  cases j with
  | leasing a label => exact Acquisition.drained_abandon p a
  | entering a errors body => exact Acquisition.drained_abandon p a
  | inside s => exact Scope.drained_abandon p s

end PendingJob

namespace World

variable (w : World)

/-- **Whether everything may be closed in an event**: as a command, or by the body of a task that
gets its turn. -/
def mayDrain : Event → Bool
  | .poll ticket => (w.task? ticket).any (·.job.drains)
  | .start job => job.drains
  | .command c => c.drains
  | _ => false

@[simp] theorem drained_conclude (ticket : Nat) (r : JobResult) :
    (w.conclude ticket r).2.pool.drained = w.pool.drained := by
  cases r with
  | leased l label => exact LeaseBook.drained_keep w.leases w.pool label l
  | _ => rfl

theorem drained_startTask {j : Job} (hj : j.drains = false) :
    (w.startTask j).2.pool.drained = w.pool.drained := by
  have hstart := Job.drained_start w.planFor w.now w.pool hj
  rw [startTask]
  dsimp only
  split <;> rename_i hq <;> rw [hq] at hstart
  · exact hstart
  · exact (drained_conclude _ _ _).trans hstart

theorem drained_pollTask {ticket : Nat} (h : (w.task? ticket).any (·.job.drains) = false) :
    (w.pollTask ticket).2.pool.drained = w.pool.drained := by
  rw [pollTask]
  split
  · rfl
  · rename_i t ht
    rw [ht] at h
    have hpoll := PendingJob.drained_poll w.pool w.planFor w.now (j := t.job) h
    split <;> rename_i hq <;> rw [hq] at hpoll
    · exact hpoll
    · exact (drained_conclude _ _ _).trans hpoll

theorem drained_ifHeld {act : Response × World} (h : act.2.pool.drained = w.pool.drained) :
    (w.ifHeld act).2.pool.drained = w.pool.drained := by
  rw [ifHeld]
  split
  · exact h
  · rfl

/-- **Nothing is drained unless everything is closed.** -/
theorem drained_step {e : Event} (he : w.mayDrain e = false) :
    (w.step e).2.pool.drained = w.pool.drained := by
  cases e with
  | sweep position =>
    simp only [step, sweep]
    split
    · rfl
    · split
      · split
        · exact Pool.drained_prune w.pool w.now
        · exact Pool.drained_note w.pool rfl
      · rfl
  | poll ticket => exact drained_pollTask w he
  | start job => exact drained_ifHeld w (drained_startTask w he)
  | abort ticket =>
    simp only [step, abortTask]
    split
    · rfl
    · exact PendingJob.drained_abandon w.pool _
  | settle label disposal =>
    simp only [step, settleLease]
    split
    · rfl
    · rename_i hbook
      exact LeaseBook.drained_settle? w.leases w.pool hbook
  | command c => exact drained_ifHeld w (Pool.drained_execute w.pool w.now he)
  | flags connection closed broken failClose =>
    simp only [step, setFlags]
    split <;> rfl
  | spawnPruner label every => exact drained_ifHeld w rfl
  | abortPruner label =>
    simp only [step, abortPruner]
    split <;> rfl
  | askPruner label =>
    simp only [step, askPruner]
    split
    · rfl
    · split <;> rfl
  | letGo => exact drained_ifHeld w rfl
  | _ => rfl

end World

end KeyedPool
