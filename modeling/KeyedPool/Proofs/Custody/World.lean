import KeyedPool.Proofs.Custody.Scope

/-!
# Runs as deeds

Every event of a world is a sequence of deeds, and so of moves, at the time of the clock. So what
holds of a fresh pool and is kept by every move holds in every world that can come about, whatever
the tasks did and in whatever order they had their turns.

A task is found by its number, so numbers have to tell tasks apart; they do since every task gets a
new one (`KeyedPool.World.Tidy`).

* `KeyedPool.World.custody`: the pool of a world, and who has what.
* `KeyedPool.World.connects`, `KeyedPool.World.startups`: the connects in flight, and the
  connections whose startup hooks run.
* `KeyedPool.World.deeds_step`: an event is a sequence of deeds.
* `KeyedPool.World.IsReachable.custody`: what the moves keep holds in every reachable world.
* `KeyedPool.World.IsReachable.custody_after`: what holds in one of them and is kept by the moves
  holds ever after.
-/

namespace KeyedPool

open Custody

/-! ### Who has what -/

/-- The database to which an acquire asks for a connection that has not come. -/
def Acquisition.connects? (a : Acquisition) : Option String :=
  match a.stage with
  | .connecting .. => some a.request.database
  | _ => none

/-- The connection whose startup hook runs for an acquire, with its database. -/
def Acquisition.starts? (a : Acquisition) : Option (String × Nat) :=
  match a.stage with
  | .starting connection .. => some (a.request.database, connection)
  | _ => none

/-- The leases of some tasks. -/
def Task.leasesOf (ts : List Task) : Multiset Lease := ↑(ts.flatMap fun t => t.job.leases)

/-- The places that are kept for some tasks. -/
def Task.openingsOf (ts : List Task) : Multiset Opening :=
  ↑(ts.filterMap fun t => t.job.opening?)

namespace World

variable {w : World} {ticket : Nat} {ts : List Task} {t : Task}

/-- The places that are kept for acquires. -/
def openings (w : World) : List Opening := w.acquisitions.filterMap Acquisition.opening?

/-- **The pool of a world, and who has what.** -/
def custody (w : World) : Custody := ⟨w.pool, ↑w.heldLeases, ↑w.openings, 0⟩

theorem openings_eq (w : World) : (↑w.openings : Multiset Opening) = Task.openingsOf w.tasks := by
  simp only [openings, acquisitions, List.filterMap_filterMap]
  rfl

theorem custody_eq (w : World) :
    w.custody = ⟨w.pool, ↑w.leases.leases + Task.leasesOf w.tasks, Task.openingsOf w.tasks, 0⟩ := by
  rw [custody, openings_eq, heldLeases, ← Multiset.coe_add]
  rfl

/-- The databases to which acquires ask for connections, one for each connect in flight. -/
def connects (w : World) : List String := w.acquisitions.filterMap Acquisition.connects?

/-- The connections whose startup hooks run, with their databases. -/
def startups (w : World) : List (String × Nat) := w.acquisitions.filterMap Acquisition.starts?

theorem coe_connects (w : World) :
    (↑w.connects : Multiset String) = Opening.asked w.custody.openings := by
  refine congrArg Multiset.ofList (Eq.trans ?_ List.filterMap_filterMap.symm)
  refine List.filterMap_congr fun a _ => ?_
  rcases a with ⟨r, since, _ | _ | _⟩ <;> rfl

theorem coe_startups (w : World) :
    (↑w.startups : Multiset (String × Nat)) = Opening.connections w.custody.openings := by
  refine congrArg Multiset.ofList (Eq.trans ?_ List.filterMap_filterMap.symm)
  refine List.filterMap_congr fun a _ => ?_
  rcases a with ⟨r, since, _ | _ | _⟩ <;> rfl

/-- What one task has stands beside what the others have. -/
theorem custody_of_perm {others : List Task} (h : w.tasks.Perm (t :: others)) :
    w.custody = t.job.holding.beside w.pool (↑w.leases.leases + Task.leasesOf others)
      (Task.openingsOf others) := by
  have hleases : Task.leasesOf w.tasks = ↑t.job.leases + Task.leasesOf others :=
    Multiset.coe_eq_coe.mpr (h.flatMap_right _)
  have hopenings : Task.openingsOf w.tasks = ↑t.job.opening?.toList + Task.openingsOf others := by
    refine (Multiset.coe_eq_coe.mpr (h.filterMap _)).trans ?_
    rw [List.filterMap_cons]
    cases t.job.opening? <;> simp [Task.openingsOf]
  rw [custody_eq, hleases, hopenings, Holding.beside, add_left_comm]
  rfl

/-! ### Numbers of tasks -/

/-- Numbers tell tasks apart, and the next one is new. -/
structure Tidy (w : World) : Prop where
  /-- No number occurs twice. -/
  nodup : (w.tasks.map Task.ticket).Nodup
  /-- The next number is larger than all of them. -/
  fresh : ∀ t ∈ w.tasks, t.ticket < w.nextTicket

theorem task?_eq_some (h : w.task? ticket = some t) : t ∈ w.tasks ∧ t.ticket = ticket :=
  ⟨List.mem_of_find?_eq_some h, by simpa using List.find?_some h⟩

/-- A task that waits is found by its number. -/
theorem Tidy.task?_of_mem (hw : w.Tidy) (ht : t ∈ w.tasks) : w.task? t.ticket = some t := by
  obtain ⟨u, hu⟩ := Option.isSome_iff_exists.mp
    (List.find?_isSome (p := (·.ticket == t.ticket)).mpr ⟨t, ht, beq_self_eq_true _⟩)
  obtain ⟨hmem, hticket⟩ := task?_eq_some hu
  rwa [List.inj_on_of_nodup_map hw.nodup hmem ht hticket] at hu

/-- A task that was found stands beside the others. -/
theorem Tidy.tasks_perm (hw : w.Tidy) (h : w.task? ticket = some t) :
    w.tasks.Perm (t :: w.tasks.filter (·.ticket != ticket)) := by
  obtain ⟨hmem, rfl⟩ := task?_eq_some h
  exact perm_cons_filter_ne Task.ticket hw.nodup hmem

/-- A task that goes on stands beside the others. -/
theorem Tidy.tasks_perm_replace (hw : w.Tidy) (h : w.task? ticket = some t) (job : PendingJob) :
    (w.tasks.map fun u => if u.ticket = ticket then ⟨ticket, job⟩ else u).Perm
      (⟨ticket, job⟩ :: w.tasks.filter (·.ticket != ticket)) := by
  obtain ⟨-, rfl⟩ := task?_eq_some h
  refine ((hw.tasks_perm h).map _).trans ?_
  rw [List.map_cons, if_pos rfl]
  refine List.Perm.of_eq (congrArg _ ((List.map_congr_left fun u hu => ?_).trans (List.map_id _)))
  have hne : u.ticket ≠ t.ticket := by simpa using (List.mem_filter.mp hu).2
  exact if_neg hne

/-! ### Events -/

/-- What becomes of the result of a job is a sequence of deeds. -/
theorem deeds_conclude (w : World) (ticket : Nat) (r : JobResult) :
    Deeds w.now (r.holding.beside w.pool (↑w.leases.leases + Task.leasesOf w.tasks)
      (Task.openingsOf w.tasks)) (w.conclude ticket r).2.custody := by
  cases r with
  | leased l label =>
    refine .of_eq (Holding.beside_lease l) ?_
    exact (w.leases.deeds_keep label l).congr (custody_eq (w.keepLease label l)).symm
  | failed e => exact .of_eq Holding.beside_none (Deeds.refl.congr (custody_eq w).symm)
  | concluded c => exact .of_eq Holding.beside_none (Deeds.refl.congr (custody_eq w).symm)
  | crashed text => exact .of_eq Holding.beside_none (Deeds.refl.congr (custody_eq w).symm)

/-- The start of a task is a sequence of deeds. -/
theorem deeds_startTask (w : World) (j : Job) :
    Deeds w.now w.custody (w.startTask j).2.custody := by
  have hstart : Deeds w.now w.custody _ := .of_eq (custody_eq w) (Job.deeds_start w.planFor j)
  rw [startTask]
  dsimp only
  split <;> rename_i q hs <;> rw [hs] at hstart
  · rename_i job
    -- the task waits beside the others
    let next : World := { w with
      nextTicket := w.nextTicket + 1, pool := q, tasks := w.tasks ++ [⟨w.nextTicket, job⟩] }
    have htasks : next.tasks.Perm (⟨w.nextTicket, job⟩ :: w.tasks) := List.perm_append_comm
    exact hstart.congr (custody_of_perm htasks).symm
  · exact hstart.trans
      (deeds_conclude { w with nextTicket := w.nextTicket + 1, pool := q } w.nextTicket _)

/-- A turn of a task is a sequence of deeds. -/
theorem deeds_pollTask (hw : w.Tidy) (ticket : Nat) :
    Deeds w.now w.custody (w.pollTask ticket).2.custody := by
  rw [pollTask]
  split
  · exact .refl
  · rename_i t ht
    have hpoll : Deeds w.now w.custody _ :=
      .of_eq (custody_of_perm (hw.tasks_perm ht)) (PendingJob.deeds_poll w.planFor t.job)
    split <;> rename_i q hs <;> rw [hs] at hpoll
    · rename_i job
      let next : World := { w with
        pool := q
        tasks := w.tasks.map fun u => if u.ticket = ticket then ⟨ticket, job⟩ else u }
      have htasks : next.tasks.Perm _ := hw.tasks_perm_replace ht job
      exact hpoll.congr (custody_of_perm htasks).symm
    · exact hpoll.trans (deeds_conclude (withoutTask { w with pool := q } ticket) ticket _)

/-- To tear a task down is a sequence of deeds. -/
theorem deeds_abortTask (hw : w.Tidy) (ticket : Nat) :
    Deeds w.now w.custody (w.abortTask ticket).2.custody := by
  rw [abortTask]
  split
  · exact .refl
  · rename_i t ht
    refine .of_eq (custody_of_perm (hw.tasks_perm ht)) ?_
    exact (PendingJob.deeds_abandon t.job).congr
      (custody_eq (withoutTask { w with pool := t.job.abandon w.pool } ticket)).symm

/-- To end a lease under a label is a sequence of deeds. -/
theorem deeds_settleLease (w : World) (label : String) (disposal : Disposal) :
    Deeds w.now w.custody (w.settleLease label disposal).2.custody := by
  rw [settleLease]
  split
  · exact .refl
  · rename_i book hbook
    refine .of_eq (custody_eq w) ?_
    exact (LeaseBook.deeds_settle? hbook).congr
      (custody_eq { w with leases := book.1, pool := book.2 }).symm

/-- **What a turn of a pruner does to the pool**: it prunes, or writes down that the pruner stops,
or does nothing. -/
theorem pool_sweep (w : World) (position : Nat) :
    (w.sweep position).pool = w.pool ∨ (w.sweep position).pool = (w.pool.prune w.now).2 ∨
      (w.sweep position).pool = w.pool.note .prunerStopped := by
  rw [sweep]
  split
  · exact .inl rfl
  · split
    · split
      · exact .inr (.inl rfl)
      · exact .inr (.inr rfl)
    · exact .inl rfl

/-- A turn of a pruner is a sequence of deeds. -/
theorem deeds_sweep (w : World) (position : Nat) :
    Deeds w.now w.custody (w.sweep position).custody := by
  rw [sweep]
  split
  · exact .refl
  · split
    · split
      · exact .single (.command .prune)
      · exact .single .stop
    · exact .refl

/-- To change the flags of a connection is a sequence of deeds. -/
theorem deeds_setFlags (w : World) (connection : Nat) (closed broken failClose : Option Bool) :
    Deeds w.now w.custody (w.setFlags connection closed broken failClose).2.custody := by
  rw [setFlags]
  split
  · exact .refl
  · exact .single (.flags connection (·.setFlags closed broken failClose) fun _ => ⟨rfl, rfl⟩)

/-- To ask for a pruner concerns nobody's claims. -/
theorem custody_askPruner (w : World) (label : String) :
    (w.askPruner label).2.custody = w.custody := by
  rw [askPruner]
  split
  · rfl
  · dsimp only
    split <;> rfl

theorem custody_abortPruner (w : World) (label : String) :
    (w.abortPruner label).2.custody = w.custody := by
  rw [abortPruner]
  split <;> rfl

/-- What is done only while the program holds the pool is done, or nothing is. -/
theorem deeds_ifHeld (act : Response × World) (h : Deeds w.now w.custody act.2.custody) :
    Deeds w.now w.custody (w.ifHeld act).2.custody := by
  rw [ifHeld]
  split
  · exact h
  · exact .refl

/-- **An event is a sequence of deeds**, at the time of the clock. -/
theorem deeds_step (hw : w.Tidy) (e : Event) : Deeds w.now w.custody (w.step e).2.custody := by
  cases e with
  | tick => exact .refl
  | sweep position => exact deeds_sweep w position
  | poll ticket => exact deeds_pollTask hw ticket
  | start job => exact deeds_ifHeld _ (deeds_startTask w job)
  | abort ticket => exact deeds_abortTask hw ticket
  | settle label disposal => exact deeds_settleLease w label disposal
  | command c => exact deeds_ifHeld _ (.single (.command c))
  | plan database plan => exact .refl
  | flags connection closed broken failClose => exact deeds_setFlags w connection _ _ _
  | spawnPruner label every => exact deeds_ifHeld _ .refl
  | abortPruner label => exact Deeds.refl.congr (custody_abortPruner w label).symm
  | askPruner label => exact Deeds.refl.congr (custody_askPruner w label).symm
  | letGo => exact deeds_ifHeld _ .refl

/-- An event is a sequence of moves. -/
theorem moves_step (hw : w.Tidy) (e : Event) : Moves w.now w.custody (w.step e).2.custody :=
  (deeds_step hw e).moves

/-! ### Tidiness along a run -/

/-- A fresh pool has no tasks. -/
theorem tasks_init (settings : PoolSettings) (driven : Bool) (enumeration : Enumeration) :
    (init settings driven enumeration).tasks = [] := by
  rw [init]
  split
  · rfl
  · split <;> rfl

theorem tidy_init (settings : PoolSettings) (driven : Bool) (enumeration : Enumeration) :
    (init settings driven enumeration).Tidy := by
  have hempty : ∀ v : World, v.tasks = [] → v.Tidy := fun v h =>
    ⟨h ▸ List.nodup_nil, fun t ht => by rw [h] at ht; cases ht⟩
  exact hempty _ (tasks_init settings driven enumeration)

/-- Fewer tasks are as tidy, whatever they do. -/
theorem Tidy.of_sublist (hw : w.Tidy) {v : World}
    (htasks : (v.tasks.map Task.ticket).Sublist (w.tasks.map Task.ticket))
    (hnext : w.nextTicket ≤ v.nextTicket) : v.Tidy := by
  refine ⟨hw.nodup.sublist htasks, fun t ht => ?_⟩
  obtain ⟨u, hu, he⟩ := List.mem_map.mp (htasks.subset (List.mem_map_of_mem ht))
  rw [← he]
  exact (hw.fresh u hu).trans_le hnext

/-- The same tasks are as tidy. -/
theorem Tidy.of_eq (hw : w.Tidy) {v : World} (htasks : v.tasks = w.tasks)
    (hnext : v.nextTicket = w.nextTicket) : v.Tidy :=
  hw.of_sublist (htasks ▸ List.Sublist.refl _) hnext.ge

theorem Tidy.conclude (hw : w.Tidy) (ticket : Nat) (r : JobResult) :
    (w.conclude ticket r).2.Tidy := by
  cases r <;> exact hw.of_eq rfl rfl

theorem Tidy.startTask (hw : w.Tidy) (j : Job) : (w.startTask j).2.Tidy := by
  have hlater : w.nextTicket ≤ w.nextTicket + 1 := Nat.le_succ _
  rw [World.startTask]
  dsimp only
  split
  · refine ⟨?_, fun t ht => ?_⟩
    · rw [List.map_append, List.nodup_append]
      refine ⟨hw.nodup, List.nodup_singleton _, fun a ha b hb => ?_⟩
      obtain ⟨t, ht, rfl⟩ := List.mem_map.mp ha
      rw [List.map_singleton, List.mem_singleton] at hb
      exact hb ▸ (hw.fresh t ht).ne
    · rcases List.mem_append.mp ht with ht | ht
      · exact (hw.fresh t ht).trans_le hlater
      · rw [List.mem_singleton.mp ht]
        exact Nat.lt_succ_self _
  · refine Tidy.conclude ?_ _ _
    exact hw.of_sublist (List.Sublist.refl _) hlater

theorem Tidy.withoutTask (hw : w.Tidy) (ticket : Nat) : (w.withoutTask ticket).Tidy :=
  hw.of_sublist (List.filter_sublist.map _) le_rfl

theorem Tidy.pollTask (hw : w.Tidy) (ticket : Nat) : (w.pollTask ticket).2.Tidy := by
  rw [World.pollTask]
  split
  · exact hw
  · split
    · have hsame (job : PendingJob) : (w.tasks.map fun u =>
          if u.ticket = ticket then (⟨ticket, job⟩ : Task) else u).map Task.ticket =
            w.tasks.map Task.ticket := by
        rw [List.map_map]
        refine List.map_congr_left fun u _ => ?_
        by_cases hu : u.ticket = ticket <;> simp [hu]
      exact hw.of_sublist (hsame _ ▸ List.Sublist.refl _) le_rfl
    · refine Tidy.conclude ?_ _ _
      exact (hw.withoutTask ticket).of_eq rfl rfl

/-- Every event keeps a world tidy. -/
theorem Tidy.step (hw : w.Tidy) (e : Event) : (w.step e).2.Tidy := by
  have hheld : ∀ act : Response × World, act.2.Tidy → (w.ifHeld act).2.Tidy := by
    intro act hact
    rw [ifHeld]
    split
    · exact hact
    · exact hw
  cases e with
  | tick => exact hw.of_eq rfl rfl
  | sweep position =>
    simp only [World.step, sweep]
    split
    · exact hw
    · split
      · split <;> exact hw.of_eq rfl rfl
      · exact hw
  | poll ticket => exact hw.pollTask ticket
  | start job => exact hheld _ (hw.startTask job)
  | abort ticket =>
    simp only [World.step, abortTask]
    split
    · exact hw
    · exact (hw.withoutTask ticket).of_eq rfl rfl
  | settle label disposal =>
    simp only [World.step, settleLease]
    split
    · exact hw
    · exact hw.of_eq rfl rfl
  | command c => exact hheld _ (hw.of_eq rfl rfl)
  | plan database plan => exact hw.of_eq rfl rfl
  | flags connection closed broken failClose =>
    simp only [World.step, setFlags]
    split
    · exact hw
    · exact hw.of_eq rfl rfl
  | spawnPruner label every => exact hheld _ (hw.of_eq rfl rfl)
  | abortPruner label =>
    simp only [World.step, abortPruner]
    split
    · exact hw
    · exact hw.of_eq rfl rfl
  | askPruner label =>
    simp only [World.step, askPruner]
    split
    · exact hw
    · split
      · exact hw
      · exact hw.of_eq rfl rfl
  | letGo => exact hheld _ (hw.of_eq rfl rfl)

theorem Tidy.after (hw : w.Tidy) (events : List Event) : (w.after events).Tidy := by
  induction events generalizing w with
  | nil => exact hw
  | cons e es ih => exact ih (hw.step e)

theorem IsReachable.tidy (h : w.IsReachable) : w.Tidy := by
  obtain ⟨settings, driven, enumeration, events, rfl⟩ := h
  exact (tidy_init settings driven enumeration).after events

/-! ### What the moves keep -/

section Keeps

variable {P : Custody → Prop} (hmove : ∀ now s t, Move now s t → P s → P t)
include hmove

theorem Tidy.custody_after (hw : w.Tidy) (h : P w.custody) (events : List Event) :
    P (w.after events).custody := by
  induction events generalizing w with
  | nil => exact h
  | cons e es ih => exact ih (hw.step e) ((moves_step hw e).keeps (hmove _ _ _) h)

/-- **What holds in a world and is kept by every move holds ever after.** -/
theorem IsReachable.custody_after (hw : w.IsReachable) (h : P w.custody) (events : List Event) :
    P (w.after events).custody :=
  hw.tidy.custody_after hmove h events

/-- **What holds of a fresh pool and is kept by every move holds in every reachable world.** -/
theorem IsReachable.custody (hw : w.IsReachable)
    (hfresh : ∀ settings enumeration, P ⟨{ settings, enumeration }, 0, 0, 0⟩) : P w.custody := by
  obtain ⟨settings, driven, enumeration, events, rfl⟩ := hw
  refine (tidy_init settings driven enumeration).custody_after hmove ?_ events
  have hpool : P ⟨{ settings, enumeration }, 0, 0, 0⟩ := hfresh settings enumeration
  simp only [init]
  split
  · exact hpool
  · split
    · exact hpool
    · exact hmove (.ofMillis 0) _ _ (.remark .noScheduler rfl) hpool

end Keeps

end World

end KeyedPool
