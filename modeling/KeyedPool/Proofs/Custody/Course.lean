import KeyedPool.Proofs.Custody.Moment
import KeyedPool.Proofs.Milestones

/-!
# Following the acquires of a run

An acquire may be called in the middle of an event, from the body of a scope, and it is polled in
events of its own; in between anything may happen to the pool. So what holds of every acquire that
waits is a matter of all the ways in which a task may run. It is enough, though, to look at a single
call, at a single poll, and at what happens while no acquire has its turn: this is gone through here
once and for all.

* `KeyedPool.World.Course`: something is kept by a call, by a poll, and by everything else.
* `KeyedPool.World.Follows`: it holds of a pool and of the acquires that wait.
* `KeyedPool.World.Course.follows`: then it does so in every reachable world.
-/

namespace KeyedPool

open Custody History

/-- What takes time leaves a pool of which something holds, and waits with an acquire of which
something holds. -/
def Progress.Keeps {σ α : Type} (J : Pool → Prop) (I : Pool → Acquisition → Prop)
    (waits : σ → Option Acquisition) : Progress σ α × Pool → Prop
  | (.waiting s, p) => J p ∧ ∀ a, waits s = some a → I p a
  | (.finished _, p) => J p

/-- The acquire for which a body waits. -/
def Scope.acquisition? (s : Scope) : Option Acquisition :=
  match s.pause with
  | .asleep _ => none
  | .acquiring a _ => some a

theorem Scope.milestones_abandon (p : Pool) (s : Scope) :
    milestones (s.abandon p).history = milestones p.history := by
  simp only [abandon, Pool.milestones_settle, LeaseBook.milestones_dropAll]
  split
  · rfl
  · exact Acquisition.milestones_abandon _

/-- To tear a job down leaves no milestone. -/
theorem PendingJob.milestones_abandon (p : Pool) (j : PendingJob) :
    milestones (j.abandon p).history = milestones p.history := by
  cases j with
  | leasing a label => exact Acquisition.milestones_abandon a
  | entering a errors body => exact Acquisition.milestones_abandon a
  | inside s => exact Scope.milestones_abandon p s

namespace World

/-- **Something is kept in the course of a run**, of the pool in a world and of the acquires that
wait there: by the call of an acquire, by a poll, and by all that happens meanwhile. -/
structure Course (J : World → Pool → Prop) (I : World → Pool → Acquisition → Prop) : Prop where
  /-- It holds of a fresh pool. -/
  fresh : ∀ settings driven enumeration, J (init settings driven enumeration)
    (init settings driven enumeration).pool
  /-- It is kept for the pool by what leaves no milestone. -/
  quiet : ∀ {w : World} {s t : Custody}, w.Passes s → Moves w.now s t →
    milestones t.pool.history = milestones s.pool.history → J w s.pool → J w t.pool
  /-- It is kept for an acquire by what others do. -/
  later : ∀ {w : World} {s t : Custody} {a : Acquisition}, w.Passes s → Moves w.now s t →
    I w s.pool a → I w t.pool a
  /-- It is kept by the call of an acquire. -/
  call : ∀ {w : World} {p q : Pool} {L : Multiset Lease} {O : Multiset Opening}
    {plans : String → ConnectPlan} {r : Request} {x : Progress Acquisition Acquired},
    w.Passes ⟨p, L, O, 0⟩ → J w p → Acquisition.start plans p w.now r = (x, q) →
    J w q ∧ ∀ a, x = .waiting a → I w q a
  /-- It is kept by a poll. -/
  poll : ∀ {w : World} {p q : Pool} {L : Multiset Lease} {O : Multiset Opening} {a : Acquisition}
    {plans : String → ConnectPlan} {x : Progress Acquisition Acquired},
    w.Passes (a.holding.beside p L O) → J w p → I w p a →
    Acquisition.poll plans p w.now a = (x, q) → J w q ∧ ∀ b, x = .waiting b → I w q b
  /-- It is kept for the pool when an event is over. -/
  eventOver : ∀ {w : World} {p : Pool} (e : Event), w.IsReachable → J w p → J (w.step e).2 p
  /-- It is kept for an acquire when an event is over. -/
  goesOn : ∀ {w : World} {p : Pool} {a : Acquisition} (e : Event), w.IsReachable → I w p a →
    I (w.step e).2 p a

/-- **Something holds of a pool and of the acquires that wait**, as seen from a world in which an
event is under way. -/
structure Follows (J : World → Pool → Prop) (I : World → Pool → Acquisition → Prop)
    (w v : World) : Prop where
  /-- It holds of the pool. -/
  pool : J w v.pool
  /-- It holds of the acquires. -/
  waits : ∀ t ∈ v.tasks, ∀ a, t.job.acquisition? = some a → I w v.pool a

namespace Course

variable {J : World → Pool → Prop} {I : World → Pool → Acquisition → Prop} {w v : World}
  {p q : Pool} {L : Multiset Lease} {O : Multiset Opening} {plans : String → ConnectPlan}
  {l : Lease} {kept : LeaseBook} {told : List Reply} {s t : Custody}

section Bodies

variable (hc : Course J I)
include hc

/-! ### Acquires -/

omit hc in
theorem keeps_of {x : Progress Acquisition Acquired} (hp : J w p)
    (ha : ∀ a, x = .waiting a → I w p a) : Progress.Keeps (J w) (I w) some (x, p) := by
  cases x with
  | waiting a =>
    refine ⟨hp, fun b hb => ?_⟩
    cases hb
    exact ha a rfl
  | finished result => exact hp

theorem keeps_start (hs : w.Passes ⟨p, L, O, 0⟩) (hp : J w p) (r : Request) :
    Progress.Keeps (J w) (I w) some (Acquisition.start plans p w.now r) := by
  rcases h : Acquisition.start plans p w.now r with ⟨x, q⟩
  obtain ⟨hq, hwaits⟩ := hc.call hs hp h
  exact keeps_of hq hwaits

theorem keeps_poll {a : Acquisition} (hs : w.Passes (a.holding.beside p L O)) (hp : J w p)
    (ha : I w p a) : Progress.Keeps (J w) (I w) some (Acquisition.poll plans p w.now a) := by
  rcases h : Acquisition.poll plans p w.now a with ⟨x, q⟩
  obtain ⟨hq, hwaits⟩ := hc.poll hs hp ha h
  exact keeps_of hq hwaits

/-! ### Bodies and jobs -/

theorem keeps_conclude (hs : w.Passes ⟨p, ↑kept.leases + l ::ₘ L, O, 0⟩) (hp : J w p)
    (ending : Ending) : J w (Scope.conclude p l kept told ending).2 := by
  refine hc.quiet hs (Scope.deeds_conclude l kept told ending).moves ?_ hp
  cases ending <;> simp [Scope.conclude]

theorem keeps_leave (hs : w.Passes ⟨p, ↑kept.leases + l ::ₘ L, O, 0⟩) (hp : J w p) :
    J w ((kept.dropAll p).settle l .drop) :=
  hc.quiet hs (Scope.deeds_leave l kept .drop).moves (by simp) hp

/-- What becomes of the lease of a nested acquire leaves no milestone. -/
theorem keeps_nested {use : LeaseUse} {acquired : Acquired}
    (hs : w.Passes (acquired.holding.beside p (↑kept.leases + L) O)) (hp : J w p) :
    J w (Scope.nested p kept use acquired).2 := by
  refine hc.quiet hs (Scope.moves_nested kept use acquired) ?_ hp
  cases acquired with
  | lease l => cases use <;> simp [Scope.nested, Holding.beside]
  | failed e => rfl
  | crashed text => rfl

/-- **The steps of a body** are calls of acquires and what leaves no milestone. -/
theorem keeps_run {ending : Ending} {steps : List BodyStep}
    (hs : w.Passes ⟨p, ↑kept.leases + l ::ₘ L, O, 0⟩) (hp : J w p) :
    Progress.Keeps (J w) (I w) Scope.acquisition?
      (Scope.run plans w.now l ending steps kept told p) := by
  induction steps generalizing kept told p with
  | nil => exact hc.keeps_conclude hs hp ending
  | cons step rest ih =>
    have hflags (f : Handle → Handle)
        (hf : ∀ h, (f h).database = h.database ∧ (f h).closeCalls = h.closeCalls) :
        w.Passes ⟨p.modifyHandle l.connection f, ↑kept.leases + l ::ₘ L, O, 0⟩ ∧
          J w (p.modifyHandle l.connection f) :=
      ⟨hs.move (.flags l.connection f hf), hc.quiet hs (.single (.flags l.connection f hf)) rfl hp⟩
    rw [Scope.run.eq_def]
    cases step with
    | sleep ms =>
      have hasleep (wake : Instant) (rest : Body) :
          Scope.acquisition? ⟨l, kept, .asleep wake, rest, told⟩ = none := rfl
      exact ⟨hp, fun a ha => absurd ((hasleep _ _).symm.trans ha) (Option.some_ne_none a).symm⟩
    | breakConnection =>
      have hbroken := hflags (fun h => { h with broken := true }) fun _ => ⟨rfl, rfl⟩
      exact ih hbroken.1 hbroken.2
    | hangUp =>
      have hclosed := hflags (fun h => { h with closed := true }) fun _ => ⟨rfl, rfl⟩
      exact ih hclosed.1 hclosed.2
    | inspect => exact ih hs hp
    | command c =>
      exact ih (hs.moves (Pool.moves_execute c))
        (hc.quiet hs (Pool.moves_execute c) (Pool.milestones_execute c) hp)
    | settle label disposal =>
      dsimp only
      split
      · exact ih hs hp
      · rename_i hsettle
        have hmoves : Moves w.now ⟨p, ↑kept.leases + l ::ₘ L, O, 0⟩ _ :=
          LeaseBook.moves_settle? hsettle
        exact ih (hs.moves hmoves) (hc.quiet hs hmoves (LeaseBook.milestones_settle? hsettle) hp)
    | acquire r use =>
      have hstart : w.Passes _ := hs.moves (Acquisition.moves_start plans r)
      have hcalled : Progress.Keeps (J w) (I w) some (Acquisition.start plans p w.now r) :=
        hc.keeps_start hs hp r
      dsimp only
      split <;> rename_i hcall <;> rw [hcall] at hstart hcalled
      · exact hcalled
      · have hnested := hstart.moves (Scope.moves_nested kept use _)
        have hp' : J w (Scope.nested _ kept use _).2 := hc.keeps_nested hstart hcalled
        split <;> rename_i heq <;> rw [heq] at hnested hp'
        · exact ih hnested hp'
        · exact hc.keeps_leave hnested hp'

/-- **A body that waits** goes on with a poll, if it waits for an acquire. The time has a name of
its own, so that nobody multiplies the milliseconds of the clock out. -/
theorem keeps_turnOfBody {now : Instant} (hnow : w.now = now) {sc : Scope}
    (hs : w.Passes (sc.holding.beside p L O)) (hp : J w p)
    (ha : ∀ a, sc.acquisition? = some a → I w p a) :
    Progress.Keeps (J w) (I w) Scope.acquisition? (Scope.poll plans p now sc) := by
  rcases sc with ⟨l, kept, pause, rest, told⟩
  rw [Scope.beside_holding] at hs
  rw [Scope.poll]
  cases pause with
  | asleep wake =>
    have hs : w.Passes ⟨p, ↑kept.leases + l ::ₘ L, 0 + O, 0⟩ := hs
    rw [zero_add] at hs
    dsimp only
    split
    · exact ⟨hp, ha⟩
    · exact hnow ▸ hc.keeps_run hs hp
  | acquiring a use =>
    have hacquire : w.Passes (a.holding.beside p (↑kept.leases + l ::ₘ L) O) := by
      simpa [Scope.opening?, Holding.beside, Acquisition.holding] using hs
    have hpoll : w.Passes _ := hacquire.moves (Acquisition.moves_poll plans a)
    have hpolled : Progress.Keeps (J w) (I w) some (Acquisition.poll plans p w.now a) :=
      hc.keeps_poll hacquire hp (ha a rfl)
    dsimp only
    split <;> rename_i hcall <;> rw [hnow, hcall] at hpoll hpolled
    · exact hpolled
    · have hnested := hpoll.moves (Scope.moves_nested kept use _)
      have hp' : J w (Scope.nested _ kept use _).2 := hc.keeps_nested hpoll hpolled
      split <;> rename_i heq <;> rw [heq] at hnested hp'
      · exact hnow ▸ hc.keeps_run hnested hp'
      · exact hc.keeps_leave hnested hp'

omit hc in
theorem keeps_keep {label : String} {x : Progress Acquisition Acquired × Pool}
    (hx : Progress.Keeps (J w) (I w) some x) :
    Progress.Keeps (J w) (I w) PendingJob.acquisition? (Job.keep label x) := by
  rcases x with ⟨a | _ | _ | _, p⟩ <;> exact hx

omit hc in
theorem keeps_proceed {x : Progress Scope Concluded × Pool}
    (hx : Progress.Keeps (J w) (I w) Scope.acquisition? x) :
    Progress.Keeps (J w) (I w) PendingJob.acquisition? (Job.enter.proceed x) := by
  rcases x with ⟨s | c, p⟩ <;> exact hx

theorem keeps_enter {errors : ErrorKind} {body : Body}
    {x : Progress Acquisition Acquired × Pool}
    (hs : w.Passes (Progress.custody Acquisition.holding Acquired.holding L O x))
    (hx : Progress.Keeps (J w) (I w) some x) :
    Progress.Keeps (J w) (I w) PendingJob.acquisition? (Job.enter plans w.now errors body x) := by
  rcases x with ⟨a | l | e | text, p⟩
  · exact hx
  · have hs : w.Passes ⟨p, l ::ₘ L, O, 0⟩ := Holding.beside_lease l ▸ hs
    have hbook : w.Passes ⟨p, ↑({} : LeaseBook).leases + l ::ₘ L, O, 0⟩ :=
      (zero_add (l ::ₘ L)).symm ▸ hs
    exact keeps_proceed (hc.keeps_run hbook hx)
  · exact hx
  · exact hx

/-- **The start of a job** calls an acquire, and goes on with a body. -/
theorem keeps_job (hs : w.Passes ⟨p, L, O, 0⟩) (hp : J w p) (j : Job) :
    Progress.Keeps (J w) (I w) PendingJob.acquisition? (j.start plans p w.now) := by
  cases j with
  | lease r label => exact keeps_keep (hc.keeps_start hs hp r)
  | scope r errors body =>
    exact hc.keeps_enter (hs.moves (Acquisition.moves_start plans r)) (hc.keeps_start hs hp r)

/-- **A turn of a job that waits** polls an acquire, and goes on with a body. -/
theorem keeps_turnOfJob {j : PendingJob} (hs : w.Passes (j.holding.beside p L O))
    (hp : J w p) (ha : ∀ a, j.acquisition? = some a → I w p a) :
    Progress.Keeps (J w) (I w) PendingJob.acquisition? (j.poll plans p w.now) := by
  cases j with
  | leasing a label => exact keeps_keep (hc.keeps_poll hs hp (ha a rfl))
  | entering a errors body =>
    exact hc.keeps_enter (hs.moves (Acquisition.moves_poll plans a))
      (hc.keeps_poll hs hp (ha a rfl))
  | inside sc =>
    rw [PendingJob.holding_inside] at hs
    exact keeps_proceed (hc.keeps_turnOfBody rfl hs hp ha)

end Bodies

end Course

/-! ### Events -/

variable {w v : World}

/-- A world in which no task goes on, and no milestone is left. -/
def IsQuiet (w v : World) : Prop :=
  milestones v.pool.history = milestones w.pool.history ∧ v.tasks ⊆ w.tasks

theorem isQuiet_of_pool (hm : milestones v.pool.history = milestones w.pool.history)
    (htasks : v.tasks = w.tasks) : w.IsQuiet v :=
  ⟨hm, htasks ▸ List.Subset.refl _⟩

/-- What becomes of the result of a job leaves no milestone. -/
theorem milestones_conclude (w : World) (ticket : Nat) (r : JobResult) :
    milestones (w.conclude ticket r).2.pool.history = milestones w.pool.history := by
  cases r with
  | leased l label => exact LeaseBook.milestones_keep label l
  | _ => rfl

theorem tasks_conclude (w : World) (ticket : Nat) (r : JobResult) :
    (w.conclude ticket r).2.tasks = w.tasks := by
  cases r <;> rfl

/-- An event that gives no task a turn leaves no milestone. -/
theorem isQuiet_step (w : World) {e : Event} (hstart : ∀ job, e ≠ .start job)
    (hpoll : ∀ ticket, e ≠ .poll ticket) : w.IsQuiet (w.step e).2 := by
  have hsame : w.IsQuiet w := isQuiet_of_pool rfl rfl
  have hheld : ∀ act : Response × World, w.IsQuiet act.2 → w.IsQuiet (w.ifHeld act).2 := by
    intro act hact
    rw [ifHeld]
    split
    · exact hact
    · exact hsame
  cases e with
  | start job => exact absurd rfl (hstart job)
  | poll ticket => exact absurd rfl (hpoll ticket)
  | sweep position =>
    simp only [World.step, sweep]
    split
    · exact hsame
    · split
      · split
        · exact isQuiet_of_pool Pool.milestones_prune rfl
        · exact isQuiet_of_pool (milestones_cons_of_not rfl _) rfl
      · exact hsame
  | abort ticket =>
    simp only [World.step, abortTask]
    split
    · exact hsame
    · rename_i t _
      exact ⟨PendingJob.milestones_abandon w.pool t.job, List.filter_subset_self _⟩
  | settle label disposal =>
    simp only [World.step, settleLease]
    split
    · exact hsame
    · rename_i hbook
      exact isQuiet_of_pool (LeaseBook.milestones_settle? hbook) rfl
  | command c => exact hheld _ (isQuiet_of_pool (Pool.milestones_execute c) rfl)
  | flags connection closed broken failClose =>
    simp only [World.step, setFlags]
    split <;> exact isQuiet_of_pool rfl rfl
  | abortPruner label =>
    simp only [World.step, World.abortPruner]
    split <;> exact isQuiet_of_pool rfl rfl
  | askPruner label =>
    simp only [World.step, World.askPruner]
    split
    · exact hsame
    · dsimp only
      split <;> exact isQuiet_of_pool rfl rfl
  | tick => exact isQuiet_of_pool rfl rfl
  | plan database plan => exact isQuiet_of_pool rfl rfl
  | spawnPruner label every => exact hheld _ (isQuiet_of_pool rfl rfl)
  | letGo => exact hheld _ (isQuiet_of_pool rfl rfl)

namespace Course

variable {J : World → Pool → Prop} {I : World → Pool → Acquisition → Prop} {s : Custody}
  (hc : Course J I)
include hc

/-- What leaves no milestone and gives no task a turn is followed. -/
theorem follows_of_isQuiet (hs : w.Passes s) (hpool : s.pool = v.pool) (hv : Follows J I w v)
    {u : World} {t : Custody} (hquiet : v.IsQuiet u) (hmoves : Moves w.now s t)
    (ht : t.pool = u.pool) : Follows J I w u := by
  obtain ⟨hm, htasks⟩ := hquiet
  rw [← hpool, ← ht] at hm
  have hpoolv : J w s.pool := hpool ▸ hv.pool
  refine ⟨ht ▸ hc.quiet hs hmoves hm hpoolv, fun x hx a ha => ?_⟩
  have hwaits : I w s.pool a := hpool ▸ hv.waits x (htasks hx) a ha
  exact ht ▸ hc.later hs hmoves hwaits

theorem follows_conclude {ticket : Nat} {r : JobResult} (hv : Follows J I w v)
    (hnow : w.now = v.now)
    (hs : w.Passes (r.holding.beside v.pool (↑v.leases.leases + Task.leasesOf v.tasks)
      (Task.openingsOf v.tasks))) : Follows J I w (v.conclude ticket r).2 := by
  have hmoves := (deeds_conclude v ticket r).moves
  rw [← hnow] at hmoves
  exact hc.follows_of_isQuiet hs rfl hv
    (isQuiet_of_pool (milestones_conclude v ticket r) (tasks_conclude v ticket r)) hmoves rfl

/-- A task that is started is followed. -/
theorem follows_startTask (hw : Follows J I w w) (hr : w.IsReachable) (j : Job) :
    Follows J I w (w.startTask j).2 := by
  have hs := Passes.rest hr
  rw [custody_eq] at hs
  have hjob : Progress.Keeps (J w) (I w) PendingJob.acquisition? (j.start w.planFor w.pool w.now) :=
    hc.keeps_job hs hw.pool j
  have hwaits (a : Acquisition) (ha : I w w.pool a) : I w (j.start w.planFor w.pool w.now).2 a := by
    have hlater := hc.later hs (Job.moves_start w.planFor j) ha
    rwa [Progress.pool_custody] at hlater
  have hmoves := hs.moves (Job.moves_start w.planFor j)
  rw [World.startTask]
  dsimp only
  split <;> rename_i q heq <;> rw [heq] at hjob hmoves hwaits
  · refine ⟨hjob.1, fun t ht a ha => ?_⟩
    rcases List.mem_append.mp ht with ht | ht
    · exact hwaits a (hw.waits t ht a ha)
    · cases List.mem_singleton.mp ht
      exact hjob.2 a ha
  · let v : World := { w with nextTicket := w.nextTicket + 1, pool := q }
    have hv : Follows J I w v := ⟨hjob, fun t ht a ha => hwaits a (hw.waits t ht a ha)⟩
    exact hc.follows_conclude hv rfl hmoves

/-- So is one that has its turn. -/
theorem follows_pollTask (hw : Follows J I w w) (hr : w.IsReachable) (ticket : Nat) :
    Follows J I w (w.pollTask ticket).2 := by
  rw [World.pollTask]
  split
  · exact hw
  · rename_i t ht
    have hs := Passes.rest hr
    rw [custody_of_perm (hr.tidy.tasks_perm ht)] at hs
    have hjob : Progress.Keeps (J w) (I w) PendingJob.acquisition?
        (t.job.poll w.planFor w.pool w.now) :=
      hc.keeps_turnOfJob hs hw.pool (hw.waits t (task?_eq_some ht).1)
    have hwaits (a : Acquisition) (ha : I w w.pool a) :
        I w (t.job.poll w.planFor w.pool w.now).2 a := by
      have hlater := hc.later hs (PendingJob.moves_poll w.planFor t.job) ha
      rwa [Progress.pool_custody] at hlater
    have hmoves := hs.moves (PendingJob.moves_poll w.planFor t.job)
    split <;> rename_i q heq <;> rw [heq] at hjob hmoves hwaits
    · refine ⟨hjob.1, fun u hu a ha => ?_⟩
      obtain ⟨u', hu', rfl⟩ := List.mem_map.mp hu
      split at ha
      · exact hjob.2 a ha
      · exact hwaits a (hw.waits u' hu' a ha)
    · let v : World := withoutTask { w with pool := q } ticket
      have hv : Follows J I w v := ⟨hjob, fun u hu a ha =>
        hwaits a (hw.waits u (List.mem_of_mem_filter hu) a ha)⟩
      exact hc.follows_conclude hv rfl hmoves

/-- **Every event is followed.** -/
theorem follows_step (hw : Follows J I w w) (hr : w.IsReachable) (e : Event) :
    Follows J I (w.step e).2 (w.step e).2 := by
  have hmoves : Moves w.now w.custody (w.step e).2.custody := moves_step hr.tidy e
  have hstep : Follows J I w (w.step e).2 := by
    cases e with
    | start job =>
      simp only [World.step, ifHeld]
      split
      · exact hc.follows_startTask hw hr job
      · exact hw
    | poll ticket => exact hc.follows_pollTask hw hr ticket
    | _ =>
      exact hc.follows_of_isQuiet (Passes.rest hr) rfl hw
        (w.isQuiet_step (by rintro job ⟨⟩) (by rintro ticket ⟨⟩)) hmoves rfl
  exact ⟨hc.eventOver e hr hstep.pool, fun t ht a ha => hc.goesOn e hr (hstep.waits t ht a ha)⟩

/-- **What is kept in the course of a run holds in every reachable world.** -/
theorem follows (hr : w.IsReachable) : Follows J I w w := by
  obtain ⟨settings, driven, enumeration, events, rfl⟩ := hr
  have hinit : Follows J I (init settings driven enumeration)
      (init settings driven enumeration) := by
    refine ⟨hc.fresh settings driven enumeration, fun t ht => ?_⟩
    rw [tasks_init] at ht
    cases ht
  have hfresh : (init settings driven enumeration).IsReachable := ⟨_, _, _, [], rfl⟩
  generalize init settings driven enumeration = u at hinit hfresh
  induction events generalizing u with
  | nil => exact hinit
  | cons e es ih => exact ih (u.step e).2 (hc.follows_step hinit hfresh e) (hfresh.after [e])

end Course

end World

end KeyedPool
