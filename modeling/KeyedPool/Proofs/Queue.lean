import KeyedPool.Proofs.Custody.Course

/-!
# Waiting for admission

An acquire that is not admitted tries again, until it is admitted or its time is over. Meanwhile the
others have their turns, so every try finds a pool of its own. What such an acquire has been through
is told by its tries: when each was due and when it was made, why it was refused, and what it found
and left.

Every acquire of every run that waits for admission has such tries, and so has every acquire that
gives up: an acquire ends with the error of a refusal only if it was refused from its call on.

* `KeyedPool.Acquisition.Try`: one attempt that was refused.
* `KeyedPool.Acquisition.Refused`: all attempts of an acquire so far were refused.
* `KeyedPool.World.HasRefused`: they were so in the course of a run.
* `KeyedPool.World.Fails`: an acquire ends with an error.
* `KeyedPool.World.IsReachable.hasRefused_of_waiting`: an acquire that waits for admission was
  refused whenever it tried.
* `KeyedPool.World.IsReachable.hasRefused_of_fails`: so was one that gives up.
-/

namespace KeyedPool

open Custody

/-! ### Refusals -/

/-- Whether an error is that of a refusal: no room, or a database that others are using. -/
def PoolError.isRefusal : PoolError → Bool
  | .full .. => true
  | .busy .. => true
  | _ => false

/-- Whether a point is one to which a refusal leads: the acquire waits for admission, or it gives
up. -/
def Progress.isRefused : Progress Stage Acquired → Bool
  | .waiting (.queued ..) => true
  | .finished (.failed e) => e.isRefusal
  | _ => false

/-! ### Tries -/

namespace Acquisition

/-- **One attempt that was refused.** -/
structure Try where
  /-- When it was due: at the call of the acquire, or at the end of its latest pause. -/
  due : Instant
  /-- When it was made. -/
  time : Instant
  /-- Why it was refused. -/
  why : Refusal
  /-- The pool that the turn found. -/
  found : Pool
  /-- The pool that the turn left. -/
  left : Pool

/-- **All attempts of an acquire so far were refused**, the latest of which is listed first. They
were made in the course of one run, the latest in an event of the given world, and it has led the
acquire to some point. -/
inductive Refused (r : Request) (since : Instant) :
    List Try → World → Progress Acquisition Acquired → Prop
  /-- It is called, prunes what has expired, and is refused. -/
  | called {w plans p L O why x q} (hs : w.Passes ⟨p, L, O, 0⟩) (hsince : since = w.now)
      (hwhy : ((p.prune w.now).2.attempt r.database r.ttl w.now).1 = .refused why)
      (h : start plans p w.now r = (x, q)) : Refused r since [⟨since, w.now, why, p, q⟩] w x
  /-- It is polled after its pause, some events later, and is refused again. -/
  | polled {tries v a w plans p L O why x q} (before : Refused r since tries v (.waiting a))
      (events : List Event) (hw : w = v.after events) (hs : w.Passes ⟨p, L, O, 0⟩)
      (hwake : a.wake ≤ w.now) (hwhy : (p.attempt r.database r.ttl w.now).1 = .refused why)
      (h : poll plans p w.now a = (x, q)) :
    Refused r since (⟨a.wake, w.now, why, p, q⟩ :: tries) w x

/-- The pool at which a try was made. Before the first one, what had expired was pruned. -/
def Try.faced (t : Try) : List Try → Pool
  | [] => (t.found.prune t.time).2
  | _ :: _ => t.found

end Acquisition

/-- **An acquire was refused whenever it tried**, in the course of the run that has led to a
world. -/
def World.HasRefused (w : World) (r : Request) (since : Instant) (tries : List Acquisition.Try)
    (x : Progress Acquisition Acquired) : Prop :=
  ∃ v events, w = v.after events ∧ Acquisition.Refused r since tries v x

/-- **An acquire ends with an error** in an event of a world: it is called in some state of the
event, or it waits and is polled. In this turn it finds a pool and leaves another one. -/
inductive World.Fails (w : World) : Request → Instant → PoolError → Pool → Pool → Prop
  /-- It is called. -/
  | called {p L O r e q} (hs : w.Passes ⟨p, L, O, 0⟩)
      (h : Acquisition.start w.planFor p w.now r = (.finished (.failed e), q)) :
      w.Fails r w.now e p q
  /-- It is polled. -/
  | polled {a e q} (ha : a ∈ w.acquisitions)
      (h : Acquisition.poll w.planFor w.pool w.now a = (.finished (.failed e), q)) :
      w.Fails a.request a.since e w.pool q

namespace Acquisition

/-! ### Admission and refusal -/

variable {w : World} {p q : Pool} {r : Request} {now since : Instant} {refusals : List Instant}
  {plans : String → ConnectPlan} {L : Multiset Lease} {O : Multiset Opening} {a : Acquisition}
  {x : Progress Acquisition Acquired} {why : Refusal} {tries : List Try}

theorem isRefused_publish {c : Nat} :
    Progress.isRefused (.finished (publish p now r c).1) = false := by
  rw [publish]
  split <;> rfl

theorem isRefused_endHook {c : Nat} {hook : HookPlan} :
    Progress.isRefused (.finished (endHook p now r c hook).1) = false := by
  rw [endHook]
  split
  · rfl
  · rfl
  · exact isRefused_publish

/-- An acquire that has been admitted is not refused any more. -/
theorem isRefused_endConnect {plan : ConnectPlan} :
    (endConnect p now r plan).1.isRefused = false := by
  rw [endConnect]
  split
  · rfl
  · rfl
  · split
    · exact isRefused_publish
    · dsimp only
      split
      · exact isRefused_endHook
      · rfl

theorem isRefused_beginConnect : (beginConnect plans p now r).1.isRefused = false := by
  rw [beginConnect]
  split
  · exact isRefused_endConnect
  · rfl

/-- An attempt that is refused changes the pool no further, unless for the log. -/
theorem attempt_of_refused (hwhy : (p.attempt r.database r.ttl now).1 = .refused why) :
    attempt plans p now r since refusals =
      refuse (p.attempt r.database r.ttl now).2 now r since refusals why := by
  rw [attempt]
  split <;> rename_i heq <;> rw [heq] at hwhy ⊢ <;> cases hwhy
  rfl

/-- An attempt leads where a refusal leads only if it is refused. -/
theorem exists_refused_of_attempt {y : Progress Stage Acquired}
    (h : attempt plans p now r since refusals = (y, q)) (hy : y.isRefused = true) :
    ∃ why, (p.attempt r.database r.ttl now).1 = .refused why := by
  have hrefused : (attempt plans p now r since refusals).1.isRefused = true := h ▸ hy
  rw [attempt] at hrefused
  split at hrefused <;> rename_i heq
  · cases hrefused
  · exact absurd hrefused (isRefused_beginConnect ▸ Bool.false_ne_true)
  · exact ⟨_, congrArg Prod.fst heq⟩
  · cases hrefused

theorem Refused.hasRefused (h : Refused r since tries w x) : w.HasRefused r since tries x :=
  ⟨w, [], rfl, h⟩

/-! ### The latest try -/

/-- An acquire that waits for admission tries again once its pause is over. -/
theorem poll_of_queued {times : List Instant} {wake : Instant}
    (hstage : a.stage = .queued times wake) (hwake : a.wake ≤ now) :
    poll plans p now a =
      resume a.request a.since (attempt plans p now a.request a.since times) := by
  have hdue : ¬now < a.wake := Nat.not_lt.mpr hwake
  rw [poll, if_neg hdue, hstage]

/-- An acquire that is refused and goes on waiting remembers when it was refused. -/
theorem eq_of_refuse_waiting {times : List Instant}
    (h : resume r since (refuse p now r since times why) = (.waiting a, q)) :
    ∃ wake, a = ⟨r, since, .queued (now :: times) wake⟩ := by
  rw [refuse] at h
  dsimp only at h
  split at h
  · cases h
  · cases h
    exact ⟨_, rfl⟩

/-- **What the latest try was**: an attempt to be admitted that was refused, and what follows. -/
theorem Refused.latest (h : Refused r since tries w x) :
    ∃ t earlier, tries = t :: earlier ∧ t.time = w.now ∧
      (∃ L O, w.Passes ⟨t.faced earlier, L, O, 0⟩) ∧
      ((t.faced earlier).attempt r.database r.ttl w.now).1 = .refused t.why ∧
      resume r since (refuse ((t.faced earlier).attempt r.database r.ttl w.now).2 w.now r since
        (earlier.map Try.time) t.why) = (x, t.left) := by
  induction h with
  | @called w plans p L O why x q hs hsince hwhy h =>
    subst hsince
    rw [start, attempt_of_refused hwhy] at h
    exact ⟨_, [], rfl, rfl, ⟨L, O, hs.moves Pool.moves_prune⟩, hwhy, h⟩
  | @polled tries v a w plans p L O why x q before events hw hs hwake hwhy h ih =>
    obtain ⟨t, earlier, rfl, ht, -, -, hbefore⟩ := ih
    obtain ⟨wake, rfl⟩ := eq_of_refuse_waiting hbefore
    rw [poll_of_queued rfl hwake, attempt_of_refused hwhy, ← ht] at h
    exact ⟨_, _, rfl, rfl, ⟨L, O, hs⟩, hwhy, h⟩

/-- The world is one of a run. -/
theorem Refused.isReachable (h : Refused r since tries w x) : w.IsReachable := by
  obtain ⟨t, earlier, -, -, ⟨L, O, hs⟩, -⟩ := h.latest
  exact hs.1

/-- **An acquire that waits for admission** remembers all its tries. -/
theorem Refused.waiting (h : Refused r since tries w (.waiting a)) :
    ∃ wake, a = ⟨r, since, .queued (tries.map Try.time) wake⟩ := by
  obtain ⟨t, earlier, rfl, ht, -, -, hlatest⟩ := h.latest
  rw [← ht] at hlatest
  exact eq_of_refuse_waiting hlatest

/-! ### Turns that are refused -/

/-- **An acquire that is refused when it is called** has made its first try. -/
theorem exists_refused_of_start (hs : w.Passes ⟨p, L, O, 0⟩) (h : start plans p w.now r = (x, q))
    (hx : (point x).isRefused = true) :
    ∃ why, Refused r w.now [⟨w.now, w.now, why, p, q⟩] w x := by
  obtain ⟨why, hwhy⟩ := exists_refused_of_attempt (point_resume h) hx
  exact ⟨why, .called hs rfl hwhy h⟩

/-- **An acquire that is refused when it is polled** has been refused whenever it tried. If its
pause was not over, nothing has happened. -/
theorem exists_refused_of_poll (hs : w.Passes (a.holding.beside p L O))
    (ha : Progress.isRefused (.waiting a.stage) = true →
      ∃ tries, w.HasRefused a.request a.since tries (.waiting a))
    (h : poll plans p w.now a = (x, q)) (hx : (point x).isRefused = true) :
    (x = .waiting a ∧ q = p) ∨
      ∃ due why tries, Refused a.request a.since (⟨due, w.now, why, p, q⟩ :: tries) w x := by
  have hpoll : poll plans p w.now a = (x, q) := h
  rw [poll] at h
  split at h
  · cases h
    exact .inl ⟨rfl, rfl⟩
  · rename_i hwake
    refine .inr ?_
    cases hstage : a.stage with
    | queued refusals wake =>
      rw [hstage] at h ha
      obtain ⟨tries, v, events, hw, htries⟩ := ha rfl
      obtain ⟨why, hwhy⟩ := exists_refused_of_attempt (point_resume h) hx
      have hnone : a.opening? = none := by rw [opening?, hstage, Stage.opening?]
      rw [holding, hnone, Holding.beside_none] at hs
      exact ⟨_, why, tries, .polled htries events hw hs (Nat.le_of_not_lt hwake) hwhy hpoll⟩
    | connecting plan wake =>
      rw [hstage] at h
      have hadmitted : (endConnect p w.now a.request plan).1.isRefused = false :=
        isRefused_endConnect
      rw [point_resume h, hx] at hadmitted
      cases hadmitted
    | starting c hook wake =>
      rw [hstage] at h
      cases h
      exact absurd hx (isRefused_endHook ▸ Bool.false_ne_true)

end Acquisition

namespace World

variable {w : World} {r : Request} {since : Instant} {tries : List Acquisition.Try}
  {x : Progress Acquisition Acquired} {a : Acquisition} {e : PoolError} {p q : Pool}

/-! ### Every acquire that is refused -/

theorem HasRefused.after (h : w.HasRefused r since tries x) (events : List Event) :
    (w.after events).HasRefused r since tries x := by
  obtain ⟨v, before, rfl, htries⟩ := h
  exact ⟨v, before ++ events, (after_append v before events).symm, htries⟩

/-- **The acquires that wait for admission are followed** through the run with all their tries. -/
theorem course_refused : Course (fun _ _ => True) fun w _ a =>
    Progress.isRefused (.waiting a.stage) = true →
      ∃ tries, w.HasRefused a.request a.since tries (.waiting a) where
  fresh _ _ _ := trivial
  quiet _ _ _ _ := trivial
  later _ _ ha := ha
  call {w p q L O plans r x} hs _ h := by
    refine ⟨trivial, fun a hx ha => ?_⟩
    subst hx
    obtain ⟨why, htries⟩ := Acquisition.exists_refused_of_start hs h ha
    obtain ⟨rfl, hsince⟩ := Acquisition.eq_of_resume_waiting h
    exact ⟨_, hsince.symm ▸ htries.hasRefused⟩
  poll {w p q L O a plans x} hs _ ha h := by
    refine ⟨trivial, fun b hx hb => ?_⟩
    subst hx
    obtain ⟨hrequest, hsince⟩ := Acquisition.eq_of_poll h
    rw [hrequest, hsince]
    rcases Acquisition.exists_refused_of_poll hs ha h hb with ⟨hsame, -⟩ | ⟨_, _, _, htries⟩
    · cases hsame
      exact ha hb
    · exact ⟨_, htries.hasRefused⟩
  eventOver _ _ _ := trivial
  goesOn e _ ha hqueued := by
    obtain ⟨tries, htries⟩ := ha hqueued
    exact ⟨tries, htries.after [e]⟩

/-- **An acquire that waits for admission** was refused whenever it tried. -/
theorem IsReachable.hasRefused_of_waiting (hw : w.IsReachable) (ha : a ∈ w.acquisitions)
    (hqueued : Progress.isRefused (.waiting a.stage) = true) :
    ∃ tries, w.HasRefused a.request a.since tries (.waiting a) := by
  obtain ⟨t, ht, hta⟩ := List.mem_filterMap.mp ha
  exact (course_refused.follows hw).waits t ht a hta hqueued

/-- **An acquire that gives up** was refused whenever it tried, and at last when it gave up. -/
theorem IsReachable.hasRefused_of_fails (hw : w.IsReachable) (h : w.Fails r since e p q)
    (he : e.isRefusal = true) : ∃ due why tries,
      w.HasRefused r since (⟨due, w.now, why, p, q⟩ :: tries) (.finished (.failed e)) := by
  cases h with
  | called hs h =>
    obtain ⟨why, htries⟩ := Acquisition.exists_refused_of_start hs h he
    exact ⟨_, why, [], htries.hasRefused⟩
  | polled ha h =>
    obtain ⟨O, hs⟩ := Passes.waiting hw ha
    rcases Acquisition.exists_refused_of_poll hs (hw.hasRefused_of_waiting ha) h he with
      ⟨hsame, -⟩ | ⟨due, why, tries, htries⟩
    · cases hsame
    · exact ⟨due, why, tries, htries.hasRefused⟩

end World

end KeyedPool
