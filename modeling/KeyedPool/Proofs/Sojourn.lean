import KeyedPool.Proofs.Cancellation
import KeyedPool.Proofs.Lasting
import Mathlib.Data.List.Induction

/-!
# A scope ends its lease once

A scope acquires a lease, runs a body with it, and ends the lease when the body has ended. The body
may do whatever a caller can do: it may wait, so that others act; it may lease other connections,
prune, evict, and close everything, its own connection included. None of this ends the lease of the
scope, which is not in its hands, so the lease lasts until the body is over. Then it ends once: as
the end of the body demands, and on what its beginning left or on nothing.

What holds of the lease is kept by whatever the body does, step by step, and by whatever happens
while the body waits. Along the whole run it is a matter of the job that waits under the number of
the call.

* `KeyedPool.World.HasTurn`, `KeyedPool.World.Enters`: a turn of a call, and the end of its acquire.
* `KeyedPool.World.Turned`: what comes of a turn of a call.
* `KeyedPool.World.Stands`: how a call stands between two events.
* `KeyedPool.World.Outcome`: how a call ends.
* `KeyedPool.World.IsReachable.scope_settled`: every call has one outcome.
-/

namespace KeyedPool

open Custody

namespace World

/-! ### Calls -/

/-- **A task has a turn** that is started from a world: after what has happened since then, in an
event. -/
inductive HasTurn (w : World) (job : Job) : List Event → Event → Prop
  /-- It is started. -/
  | called : HasTurn w job [] (.start job)
  /-- It is polled. -/
  | polled (es : List Event) : HasTurn w job (.start job :: es) (.poll w.nextTicket)

/-- **The acquire of a scope ends** in a turn of its call, with a result, and leaves a pool. -/
inductive Enters (w : World) (r : Request) (errors : ErrorKind) (body : Body) :
    List Event → Acquired → Pool → Prop
  /-- It ends as soon as the scope is called. -/
  | called {result p} (h : Acquisition.start w.planFor w.pool w.now r = (.finished result, p)) :
    Enters w r errors body [] result p
  /-- It ends when it is polled. -/
  | polled {es v a result p} (hv : v = w.after (.start (.scope r errors body) :: es))
    (ht : v.task? w.nextTicket = some ⟨w.nextTicket, .entering a errors body⟩)
    (h : Acquisition.poll v.planFor v.pool v.now a = (.finished result, p)) :
    Enters w r errors body (.start (.scope r errors body) :: es) result p

/-- **What comes of a turn of a call**: its acquire waits, fails or crashes, or its body has a
turn with the lease that the acquire has got, then or before. -/
inductive Turned (w : World) (r : Request) (errors : ErrorKind) (body : Body) (past : List Event)
    (v : World) (e : Event) (L : Multiset Lease) (O : Multiset Opening) :
    Progress PendingJob JobResult × Pool → Prop
  /-- Its acquire waits. -/
  | queues {a p} (h : a.request = r) :
    Turned w r errors body past v e L O (.waiting (.entering a errors body), p)
  /-- Its acquire fails. -/
  | failed {err p} (h : w.Enters r errors body past (.failed err) p) :
    Turned w r errors body past v e L O
      (.finished (.concluded (.error (errors.ofPoolError err) [])), p)
  /-- Its acquire crashes. -/
  | crashed {text p} (h : w.Enters r errors body past (.crashed text) p) :
    Turned w r errors body past v e L O (.finished (.crashed text), p)
  /-- Its body has a turn. -/
  | sojourn {past₀ l p₀ x} (hpast : past₀ <+: past)
    (henters : w.Enters r errors body past₀ (.lease l) p₀)
    (h : v.Sojourn e l body.ending (v.Holds l p₀) L O x) : Turned w r errors body past v e L O x

/-- **How a call stands** between two events, as long as it waits: its acquire is under way, or its
body, whose lease has lasted. -/
inductive Stands (w : World) (r : Request) (errors : ErrorKind) (body : Body)
    (past : List Event) : PendingJob → Prop
  /-- Its acquire is under way. -/
  | queued {a} (h : a.request = r) : Stands w r errors body past (.entering a errors body)
  /-- Its body is under way. -/
  | inside {s past₀ p₀} (hpast : past₀ <+: past)
    (henters : w.Enters r errors body past₀ (.lease s.lease) p₀)
    (hending : s.rest.ending = body.ending) (h : s.lease.Lasts p₀ (w.after past).pool) :
    Stands w r errors body past (.inside s)

/-- **How a call ends**, in an event that leads from one world to another. -/
inductive Outcome (w : World) (r : Request) (errors : ErrorKind) (body : Body)
    (past : List Event) (v : World) (e : Event) (u : World) : JobResult → Prop
  /-- Its acquire has failed. The body has not run, and the caller gets the error. -/
  | failed {err} (h : w.Enters r errors body past (.failed err) u.pool) :
    Outcome w r errors body past v e u (.concluded (.error (errors.ofPoolError err) []))
  /-- Its acquire has crashed, and the task with it. -/
  | crashed {text} (h : w.Enters r errors body past (.crashed text) u.pool) :
    Outcome w r errors body past v e u (.crashed text)
  /-- The event has led its body to the end, and the caller gets what it ended with. The pool at the
  end loses the leases that the body keeps, and nothing else, before the lease ends. -/
  | completed {past₀ l p₀ kept told p} (hpast : past₀ <+: past)
    (henters : w.Enters r errors body past₀ (.lease l) p₀)
    (hat : v.BodyAt e l ⟨[], body.ending⟩ kept told p)
    (hpasses : v.Passes ⟨p, l ::ₘ (↑kept.leases + ↑u.heldLeases), ↑u.openings, 0⟩)
    (hkept : Pool.Relinquished ↑kept.leases 0 p (kept.dropAll p))
    (h : Pool.Settles l body.ending.disposal p₀ (kept.dropAll p) u.pool) :
    Outcome w r errors body past v e u (.concluded (body.ending.result told.reverse))
  /-- An acquire in its body has crashed, and the task with it. The pool that the acquire leaves
  loses the leases that the body keeps, and nothing else, before the lease ends. -/
  | broken {past₀ l p₀ r' text kept brink p} (hpast : past₀ <+: past)
    (henters : w.Enters r errors body past₀ (.lease l) p₀)
    (hbreaks : v.Breaks e l r' text kept brink p)
    (hpasses : v.Passes ⟨p, l ::ₘ (↑kept.leases + ↑u.heldLeases), ↑u.openings, 0⟩)
    (hkept : Pool.Relinquished ↑kept.leases 0 p (kept.dropAll p))
    (h : Pool.Settles l .drop p₀ (kept.dropAll p) u.pool) :
    Outcome w r errors body past v e u (.concluded (.crashed text))

section Calls

variable {w v u : World} {r : Request} {errors : ErrorKind} {body : Body} {past : List Event}
  {e : Event} {t : Task} {p q : Pool} {L : Multiset Lease} {O : Multiset Opening}
  {x : Progress Acquisition Acquired × Pool} {result : JobResult} {job : PendingJob}
  {response : Response}

/-- Once its acquire has come to a point, a call goes on with its body, or ends. -/
theorem turned_enter
    (hs : v.Passes (Progress.custody Acquisition.holding Acquired.holding L O x))
    (hwaits : ∀ a q, x = (.waiting a, q) → a.request = r)
    (hends : ∀ result q, x = (.finished result, q) → w.Enters r errors body past result q)
    (hresumes : ∀ l q, x = (.finished (.lease l), q) → v.Resumes e l body {} [] q) :
    w.Turned r errors body past v e L O (Job.enter v.planFor v.now errors body x) := by
  rcases x with ⟨a | l | err | text, q⟩
  · exact .queues (hwaits a q rfl)
  · have hs : v.Passes ⟨q, l ::ₘ L, O, 0⟩ := Holding.beside_lease l ▸ hs
    have hbegins : v.Holds l q ⟨q, ↑({} : LeaseBook).leases + L, O, 0⟩ :=
      ⟨(zero_add L).symm ▸ hs, .refl l q⟩
    have hturn : v.Sojourn e l body.ending (v.Holds l q) L O _ :=
      sojourn_run (fun hm h => h.moves hm) (.resumes (hresumes l q rfl)) hbegins
    exact .sojourn List.prefix_rfl (hends _ q rfl) hturn
  · exact .failed (hends _ q rfl)
  · exact .crashed (hends _ q rfl)

/-- **The first turn of a call.** -/
theorem IsReachable.turned_called (hw : w.IsReachable) (hheld : w.held = true) :
    w.Turned r errors body [] w (.start (.scope r errors body)) ↑w.heldLeases ↑w.openings
      ((Job.scope r errors body).start w.planFor w.pool w.now) := by
  refine turned_enter ((Passes.rest hw).moves (Acquisition.moves_start w.planFor r)) ?_ ?_ ?_
  · exact fun a q h => (Acquisition.eq_of_resume_waiting h).1
  · exact fun result q h => .called h
  · exact fun l q h => .called hheld h

/-- **A body that waits holds the lease of its scope**, beside what it keeps and what the others
have. -/
theorem IsReachable.holds {n : Nat} {s : Scope} {p₀ : Pool} (hv : v.IsReachable)
    (ht : v.task? n = some ⟨n, .inside s⟩) (h : s.lease.Lasts p₀ v.pool) :
    v.Holds s.lease p₀
      ((v.withoutTask n).custody.beside ↑s.kept.leases ↑s.opening?.toList) :=
  ⟨hv.passes_inside ht, h⟩

/-- **Another turn of a call.** -/
theorem Stands.turned {es : List Event} (hv : v = w.after (.start (.scope r errors body) :: es))
    (hr : v.IsReachable) (ht : v.task? w.nextTicket = some t)
    (h : w.Stands r errors body (.start (.scope r errors body) :: es) t.job) :
    w.Turned r errors body (.start (.scope r errors body) :: es) v (.poll w.nextTicket)
      (v.withoutTask w.nextTicket).custody.leases
      (v.withoutTask w.nextTicket).custody.openings (t.job.poll v.planFor v.pool v.now) := by
  obtain ⟨n, job⟩ := t
  obtain rfl : n = w.nextTicket := (task?_eq_some ht).2
  cases h with
  | @queued a ha =>
    have hrest := Passes.rest hr
    rw [custody_beside hr.tidy ht] at hrest
    refine turned_enter (hrest.moves (Acquisition.moves_poll v.planFor a)) ?_ ?_ ?_
    · exact fun b q h => (Acquisition.eq_of_poll h).1.trans ha
    · exact fun result q h => .polled hv ht h
    · exact fun l q h => .entered ht h
  | @inside s past₀ p₀ hpast henters hending hlasts =>
    have hholds := hr.holds ht (hv ▸ hlasts)
    have hturn := sojourn_poll (fun hm h => h.moves hm) rfl ht hholds
    exact .sojourn hpast henters (hending ▸ hturn)

/-- The leases that a body keeps are lost before its own one ends. -/
theorem Holds.leaves {l : Lease} {p₀ : Pool} {kept : LeaseBook}
    (h : v.Holds l p₀ ⟨p, ↑kept.leases + L, O, 0⟩) (how : Disposal) :
    Pool.Relinquished ↑kept.leases 0 p (kept.dropAll p) ∧
      Pool.Settles l how p₀ (kept.dropAll p) ((kept.dropAll p).settle l how) := by
  refine ⟨?_, (h.moves kept.deeds_dropAll.moves).settles how⟩
  have hs : v.Passes ⟨p, ↑kept.leases + l ::ₘ L, O, 0⟩ := Multiset.add_cons l _ L ▸ h.passes
  exact hs.relinquished_foldr

/-- A call that has ended has had its outcome. -/
theorem Turned.outcome (h : w.Turned r errors body past v e L O (.finished result, q))
    (hu : u.custody = ⟨q, L, O, 0⟩) : w.Outcome r errors body past v e u result := by
  obtain ⟨hpool, hleases, hopenings⟩ : u.pool = q ∧ (↑u.heldLeases : Multiset Lease) = L ∧
      (↑u.openings : Multiset Opening) = O :=
    ⟨congrArg Custody.pool hu, congrArg Custody.leases hu, congrArg Custody.openings hu⟩
  subst hleases hopenings
  cases h with
  | failed h => exact .failed (hpool ▸ h)
  | crashed h => exact .crashed (hpool ▸ h)
  | sojourn hpast henters h =>
    cases h with
    | ends hat h =>
      obtain ⟨hkept, hsettles⟩ := h.leaves body.ending.disposal
      exact .completed hpast henters hat h.passes hkept (hpool ▸ hsettles)
    | breaks hbreaks h =>
      obtain ⟨hkept, hsettles⟩ := h.leaves .drop
      exact .broken hpast henters hbreaks h.passes hkept (hpool ▸ hsettles)

/-- A call that waits stands so. -/
theorem Turned.stands (h : w.Turned r errors body past v e L O (.waiting job, q))
    (hu : (w.after (past ++ [e])).pool = q) : w.Stands r errors body (past ++ [e]) job := by
  cases h with
  | queues h => exact .queued h
  | sojourn hpast henters h =>
    cases h with
    | waits hlease hending h =>
      subst hlease
      exact .inside (hpast.trans (List.prefix_append past [e])) henters hending (hu ▸ h.lasts)

/-- A call that has ended leaves no lease to keep. -/
theorem Turned.conclude_eq (h : w.Turned r errors body past v e L O (.finished result, q))
    (u : World) (n : Nat) : u.conclude n result = (.finished n result, u) := by
  cases h with
  | failed h => rfl
  | crashed h => rfl
  | sojourn hpast henters h => cases h <;> rfl

/-! ### Runs -/

/-- **What a turn of a call leaves behind**: the call is over, with an outcome, or it stands. -/
structure Comes (w : World) (r : Request) (errors : ErrorKind) (body : Body) (past : List Event)
    (e : Event) : Prop where
  /-- If it is over, it has had its outcome. -/
  outcome : ∀ result, ((w.after past).step e).1 = .finished w.nextTicket result →
    w.Outcome r errors body past (w.after past) e (w.after (past ++ [e])) result ∧
      (w.after (past ++ [e])).task? w.nextTicket = none
  /-- If it waits, it stands. -/
  stands : ∀ t, (w.after (past ++ [e])).task? w.nextTicket = some t →
    w.Stands r errors body (past ++ [e]) t.job

theorem after_append_singleton (hv : v = w.after past) (hstep : v.step e = (response, u)) :
    w.after (past ++ [e]) = u := by
  rw [after_append, ← hv, after_cons, hstep, after_nil]

/-- A turn after which the call waits. -/
theorem Turned.comes_waiting (h : w.Turned r errors body past v e L O (.waiting job, q))
    (hv : v = w.after past) (hstep : v.step e = (.pending w.nextTicket, u)) (hpool : u.pool = q)
    (htask : u.task? w.nextTicket = some ⟨w.nextTicket, job⟩) : w.Comes r errors body past e := by
  have hnext := after_append_singleton hv hstep
  refine ⟨fun result hresult => ?_, fun t ht => ?_⟩
  · rw [← hv, hstep] at hresult
    cases hresult
  · rw [hnext, htask] at ht
    cases ht
    exact h.stands (hnext ▸ hpool)

/-- A turn after which the call is over. -/
theorem Turned.comes_finished (h : w.Turned r errors body past v e L O (.finished result, q))
    (hv : v = w.after past) (hstep : v.step e = (.finished w.nextTicket result, u))
    (hu : u.custody = ⟨q, L, O, 0⟩) (hnone : u.task? w.nextTicket = none) :
    w.Comes r errors body past e := by
  have hnext := after_append_singleton hv hstep
  refine ⟨fun result' hresult => ?_, fun t ht => ?_⟩
  · rw [← hv, hstep] at hresult
    cases hresult
    rw [hnext, ← hv]
    exact ⟨h.outcome hu, hnone⟩
  · rw [hnext, hnone] at ht
    cases ht

/-- **The first turn of a call.** -/
theorem IsReachable.comes_called (hw : w.IsReachable) (hheld : w.held = true) :
    w.Comes r errors body [] (.start (.scope r errors body)) := by
  have hx : w.Turned r errors body [] w (.start (.scope r errors body)) ↑w.heldLeases ↑w.openings
      ((Job.scope r errors body).start w.planFor w.pool w.now) := hw.turned_called hheld
  rcases hstart : (Job.scope r errors body).start w.planFor w.pool w.now with ⟨job | result, q⟩ <;>
    rw [hstart] at hx
  · have hstep := step_start_waiting hheld hstart
    have htidy : (w.step (.start (.scope r errors body))).2.Tidy :=
      (hw.after [.start (.scope r errors body)]).tidy
    rw [hstep] at htidy
    refine hx.comes_waiting rfl hstep rfl ?_
    exact htidy.task?_of_mem (List.mem_append_right _ (List.mem_singleton_self _))
  · have hstep := (step_start_finished hheld hstart).trans (hx.conclude_eq _ _)
    refine hx.comes_finished rfl hstep rfl ?_
    -- the number of the call is a new one
    refine List.find?_eq_none.mpr fun t ht => ?_
    simpa using (hw.tidy.fresh t ht).ne

/-- **Another turn of a call.** -/
theorem IsReachable.comes_polled (hw : w.IsReachable) {es : List Event}
    (h : ∀ t, (w.after (.start (.scope r errors body) :: es)).task? w.nextTicket = some t →
      w.Stands r errors body (.start (.scope r errors body) :: es) t.job) :
    w.Comes r errors body (.start (.scope r errors body) :: es) (.poll w.nextTicket) := by
  obtain ⟨v, hv⟩ : ∃ v, v = w.after (.start (.scope r errors body) :: es) := ⟨_, rfl⟩
  have hr : v.IsReachable := hv ▸ hw.after _
  rw [← hv] at h
  cases ht : v.task? w.nextTicket with
  | none =>
    have hstep : v.step (.poll w.nextTicket) = (.noTask, v) := by
      rw [step, pollTask, ht]
    have hnext := after_append_singleton hv hstep
    refine ⟨fun result hresult => ?_, fun t ht' => ?_⟩
    · rw [← hv, hstep] at hresult
      cases hresult
    · rw [hnext, ht] at ht'
      cases ht'
  | some t =>
    have hx := (h t ht).turned hv hr ht
    rcases hpoll : t.job.poll v.planFor v.pool v.now with ⟨job | result, q⟩ <;> rw [hpoll] at hx
    · exact hx.comes_waiting hv (step_poll_waiting ht hpoll) rfl (task?_withJob hr.tidy ht job)
    · have hstep := (step_poll_finished ht hpoll).trans (hx.conclude_eq _ _)
      exact hx.comes_finished hv hstep rfl (task?_withoutTask _ _)

/-- **A call stands as long as it waits**, whatever happens meanwhile. -/
theorem IsReachable.stands (hw : w.IsReachable) (hheld : w.held = true) (es : List Event) :
    ∀ t, (w.after (.start (.scope r errors body) :: es)).task? w.nextTicket = some t →
      w.Stands r errors body (.start (.scope r errors body) :: es) t.job := by
  induction es using List.reverseRec with
  | nil => exact (hw.comes_called hheld).stands
  | append_singleton es e ih =>
    by_cases hpoll : e = .poll w.nextTicket
    · subst hpoll
      exact (hw.comes_polled ih).stands
    · intro t ht
      have hr : (w.after (.start (.scope r errors body) :: es)).IsReachable := hw.after _
      have hold := lt_nextTicket_after hheld (.scope r errors body) es
      have hnext : w.after (.start (.scope r errors body) :: (es ++ [e])) =
          ((w.after (.start (.scope r errors body) :: es)).step e).2 :=
        after_append w (.start (.scope r errors body) :: es) [e]
      rw [hnext] at ht
      have habort : e ≠ .abort w.nextTicket := by
        rintro rfl
        rw [task?_abort] at ht
        cases ht
      have hbefore := task?_of_step hr.tidy hold hpoll ht
      obtain ⟨n, job⟩ := t
      obtain rfl : n = w.nextTicket := (task?_eq_some hbefore).2
      have hlater : .start (.scope r errors body) :: es <+:
          .start (.scope r errors body) :: (es ++ [e]) := ⟨[e], rfl⟩
      cases ih _ hbefore with
      | queued h => exact .queued h
      | @inside s past₀ p₀ hpast henters hending hlasts =>
        have hmoves := (moves_step_beside hr.tidy hold hpoll habort).beside
          ↑s.kept.leases ↑s.opening?.toList
        have hholds := (hr.holds hbefore hlasts).moves hmoves
        exact .inside (hpast.trans hlater) henters hending (hnext ▸ hholds.lasts)

/-- A turn in which the acquire of a call fails is the last one, and the body has no part in it. -/
theorem Enters.answer {err : PoolError} (hheld : w.held = true)
    (h : w.Enters r errors body past (.failed err) p)
    (hturn : w.HasTurn (.scope r errors body) past e) :
    ((w.after past).step e).1 =
        .finished w.nextTicket (.concluded (.error (errors.ofPoolError err) [])) ∧
      ((w.after past).step e).2.pool = p := by
  cases h with
  | called h =>
    cases hturn
    have hstart : (Job.scope r errors body).start w.planFor w.pool w.now =
        (.finished (.concluded (.error (errors.ofPoolError err) [])), p) := by
      rw [Job.start, h, Job.enter]
    rw [after_nil, step_start_finished hheld hstart]
    exact ⟨rfl, rfl⟩
  | @polled es v a _ _ hv ht h =>
    cases hturn
    have hpoll : (PendingJob.entering a errors body).poll v.planFor v.pool v.now =
        (.finished (.concluded (.error (errors.ofPoolError err) [])), p) := by
      rw [PendingJob.poll, h, Job.enter]
    rw [← hv, step_poll_finished ht hpoll]
    exact ⟨rfl, rfl⟩

theorem HasTurn.ticketIn_eq {j : Job} (h : w.HasTurn j past e) :
    (w.after past).ticketIn e = w.nextTicket := by
  cases h <;> rfl

/-- **A call that is over is over for good.** -/
theorem HasTurn.over (hw : w.IsReachable) (hheld : w.held = true) {j : Job}
    (hturn : w.HasTurn j past e) (hnone : (w.after (past ++ [e])).task? w.nextTicket = none)
    (es : List Event) :
    (((w.after (past ++ [e])).after es).step (.poll w.nextTicket)).1 = .noTask := by
  have hold : w.nextTicket < (w.after (past ++ [e])).nextTicket := by
    cases hturn with
    | called => exact lt_nextTicket_after hheld j []
    | polled others => exact lt_nextTicket_after hheld j (others ++ [.poll w.nextTicket])
  have hnone := task?_after_eq_none (hw.after (past ++ [e])).tidy hold hnone es
  rw [step, pollTask, hnone]

/-- What is left behind by a turn of a call. -/
theorem HasTurn.comes (hw : w.IsReachable) (hheld : w.held = true)
    (hturn : w.HasTurn (.scope r errors body) past e) : w.Comes r errors body past e := by
  cases hturn with
  | called => exact hw.comes_called hheld
  | polled es => exact hw.comes_polled (hw.stands hheld es)

/-- **Wherever a turn of a call leads its body**, the lease that the call has got has lasted, and
the body is to end as it was to. -/
theorem HasTurn.holds (hw : w.IsReachable) (hheld : w.held = true)
    (hturn : w.HasTurn (.scope r errors body) past e) {l : Lease} {rest : Body} {kept : LeaseBook}
    {told : List Reply} (h : (w.after past).BodyAt e l rest kept told p) :
    rest.ending = body.ending ∧ ∃ past₀ p₀, past₀ <+: past ∧
      w.Enters r errors body past₀ (.lease l) p₀ ∧
      (w.after past).Holds l p₀ ⟨p, ↑kept.leases + ((w.after past).others e).custody.leases,
        ((w.after past).others e).custody.openings, 0⟩ := by
  obtain ⟨body₀, kept₀, told₀, p₁, hresumes, hsame, hmoves⟩ := h.exists_resumes
  suffices body₀.ending = body.ending ∧ ∃ past₀ p₀, past₀ <+: past ∧
      w.Enters r errors body past₀ (.lease l) p₀ ∧
      (w.after past).Holds l p₀ ⟨p₁, ↑kept₀.leases + ((w.after past).others e).custody.leases,
        ((w.after past).others e).custody.openings, 0⟩ by
    obtain ⟨hending, past₀, p₀, hpast, henters, hholds⟩ := this
    exact ⟨hsame.symm.trans hending, past₀, p₀, hpast, henters, hholds.moves (hmoves _ _)⟩
  have hr : (w.after past).IsReachable := hw.after past
  have hpasses := hresumes.passes hr
  cases hturn with
  | called =>
    cases hresumes with
    | called hheld h => exact ⟨rfl, [], p₁, List.prefix_rfl, .called h, hpasses, .refl l p₁⟩
  | polled es =>
    obtain ⟨v, hv⟩ : ∃ v, v = w.after (.start (.scope r errors body) :: es) := ⟨_, rfl⟩
    have hstands : ∀ t, v.task? w.nextTicket = some t →
        w.Stands r errors body (.start (.scope r errors body) :: es) t.job :=
      hv ▸ hw.stands hheld es
    rw [← hv] at hr hpasses hresumes ⊢
    have hinside {s : Scope} (ht : v.task? w.nextTicket = some ⟨w.nextTicket, .inside s⟩) :
        body₀.ending = body.ending ∧ ∃ past₀ p₀,
          past₀ <+: .start (.scope r errors body) :: es ∧
          w.Enters r errors body past₀ (.lease l) p₀ ∧
          v.Holds l p₀ ⟨p₁, ↑kept₀.leases + (v.withoutTask w.nextTicket).custody.leases,
            (v.withoutTask w.nextTicket).custody.openings, 0⟩ := by
      obtain ⟨rfl, rfl, hmoves⟩ := hresumes.of_inside ht
      cases hstands _ ht with
      | inside hpast henters hending hlasts =>
        exact ⟨hending, _, _, hpast, henters, (hr.holds ht (hv ▸ hlasts)).moves (hmoves _ _)⟩
    cases hresumes with
    | entered ht h =>
      cases hstands _ ht with
      | queued ha => exact ⟨rfl, _, p₁, List.prefix_rfl, .polled hv ht h, hpasses, .refl l p₁⟩
    | awoken ht hwake => exact hinside ht
    | answered ht h huse => exact hinside ht

/-- **A scope ends its lease once.** A program calls a scope, at any time at which it holds the
pool, with any request – the one for the pool's own connection among them – and any body. In
whichever turn of the call it gets its answer, and whatever the others have done since the call,
this is the only answer, and it is one of the following.

The acquire of the scope has failed in this turn. Then the answer is its error, as an error of the
scope, and the pool is as the acquire has left it: the body has not run. Conversely this is the
answer whenever the acquire fails. Or the acquire has crashed, in this turn as well.

Or the acquire has got its lease, in this turn or before, and this turn has led the body to its end.
Then the answer is what the body has ended with, be it a value or an error, with what its steps have
told; and conversely it is answered whenever a turn leads its body to an end. The leases that the
body keeps are lost at its end, and the pool at that point changes in nothing else; then the lease
of the scope ends, and not before. It is cancelled if the body ended with an interruption, and
released if it ended with a value or another error. If it is cancelled, or the connection is closed
or broken at that moment, the record of the lease is gone afterwards, and its connection has been
closed once in all. Else, if its record is still there, it is the one that the acquire had left but
idle, its connection has not been closed, and nothing else changes; and if its record has left
meanwhile, nothing changes.

Or an acquire in the body has crashed, and all leases are lost in the pool that this has left. -/
theorem IsReachable.scope_settled (hw : w.IsReachable) (hheld : w.held = true) (r : Request)
    (errors : ErrorKind) (body : Body) :
    (∀ past e result, w.HasTurn (.scope r errors body) past e →
      ((w.after past).step e).1 = .finished w.nextTicket result →
        w.Outcome r errors body past (w.after past) e (w.after (past ++ [e])) result ∧
        ∀ es, (((w.after (past ++ [e])).after es).step (.poll w.nextTicket)).1 = .noTask) ∧
    (∀ past e err p, w.HasTurn (.scope r errors body) past e →
      w.Enters r errors body past (.failed err) p →
        ((w.after past).step e).1 =
            .finished w.nextTicket (.concluded (.error (errors.ofPoolError err) [])) ∧
          (w.after (past ++ [e])).pool = p) ∧
    ∀ past e l ending kept told p, w.HasTurn (.scope r errors body) past e →
      (w.after past).BodyAt e l ⟨[], ending⟩ kept told p →
        ending = body.ending ∧
        ((w.after past).step e).1 =
          .finished w.nextTicket (.concluded (ending.result told.reverse)) ∧
        Pool.Relinquished ↑kept.leases 0 p (kept.dropAll p) ∧
        ∃ past₀ p₀, past₀ <+: past ∧ w.Enters r errors body past₀ (.lease l) p₀ ∧
          Pool.Settles l ending.disposal p₀ (kept.dropAll p) (w.after (past ++ [e])).pool := by
  refine ⟨fun past e result hturn hresult => ?_, fun past e err p hturn h => ?_,
    fun past e l ending kept told p hturn hat => ?_⟩
  · obtain ⟨houtcome, hnone⟩ := (hturn.comes hw hheld).outcome result hresult
    exact ⟨houtcome, hturn.over hw hheld hnone⟩
  · rw [after_append_singleton rfl rfl]
    exact h.answer hheld hturn
  · obtain ⟨hending, past₀, p₀, hpast, henters, hholds⟩ := hturn.holds hw hheld hat
    obtain ⟨hkept, hsettles⟩ := hholds.leaves ending.disposal
    have hconcludes := hat.concludes
    have hnext : w.after (past ++ [e]) = ((w.after past).step e).2 := after_append_singleton rfl rfl
    rw [hnext, hconcludes.pool, hconcludes.answer, hturn.ticketIn_eq]
    exact ⟨hending, rfl, hkept, past₀, p₀, hpast, henters, hsettles⟩

/-- The body closes everything before it is interrupted: its connection is closed, and not once
more when the lease is cancelled. -/
theorem IsReachable.scope_settled_drained :
    let w := World.init {} false
    let r : Request := { database := "a", ttl := ⟨5⟩ }
    let body : Body := ⟨[.command .closeAll], .error (.pool (.cancelled "a"))⟩
    let call := Event.start (.scope r .pool body)
    (w.step call).1 =
        .finished 0 (.concluded (.error (.pool (.cancelled "a")) [.drained true])) ∧
      ∃ h, (w.after [call]).pool.handles[0]? = some h ∧ h.closeCalls = 1 := by
  obtain ⟨p, hacquire, hclose⟩ : ∃ p,
      Acquisition.start (init {} false).planFor (init {} false).pool (init {} false).now
          { database := "a", ttl := ⟨5⟩ } = (.finished (.lease ⟨"a", 1, 0⟩), p) ∧
        p.closeAll.1 = true := ⟨_, rfl, rfl⟩
  intro w r body call
  have hw : w.IsReachable := ⟨{}, false, .stored, [], rfl⟩
  have hheld : w.held = true := rfl
  have hacquire : Acquisition.start w.planFor w.pool w.now r =
      (.finished (.lease ⟨"a", 1, 0⟩), p) := hacquire
  have hticket : w.nextTicket = 0 := rfl
  clear_value w
  have hrun : (Job.scope r .pool body).start w.planFor w.pool w.now =
      (.finished (.concluded (.error (.pool (.cancelled "a")) [.drained true])),
        p.closeAll.2.settle ⟨"a", 1, 0⟩ .cancel) := by
    rw [Job.start, hacquire, Job.enter, ← hclose]
    rfl
  have hanswer := congrArg Prod.fst (step_start_finished hheld hrun)
  refine ⟨hticket ▸ hanswer, ?_⟩
  obtain ⟨houtcome, -⟩ := (hw.scope_settled hheld r .pool body).1 [] call _ .called hanswer
  generalize hr : JobResult.concluded (.error (.pool (.cancelled "a")) [.drained true]) = result
    at houtcome
  cases houtcome with
  | failed henters =>
    cases henters with
    | called h => cases hacquire.symm.trans h
  | crashed => cases hr
  | completed hpast henters hat hpasses hkept h =>
    cases List.prefix_nil.mp hpast
    cases henters with
    | called hcall =>
      cases hacquire.symm.trans hcall
      exact (h.discarded (.inl (by decide))).2
  | broken => cases hr

end Calls

end World

end KeyedPool
