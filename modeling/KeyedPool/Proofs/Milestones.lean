import KeyedPool.Proofs.Custody.Balance

/-!
# The milestones of an acquire

Some entries of the history tell how far an acquire has come: a connection is asked for, is there,
its startup hook begins and ends well, and at last a lease begins or the connection is lost. Nobody
but an acquire writes them down, and an acquire writes them in their order, so the milestones of
an acquire are settled by the point at which it stands.

An acquire that gives up its connection leaves no milestone behind. So the milestones also tell
where it stopped: a startup hook that began and did not end well belongs to a connection that will
not be leased.

* `KeyedPool.Entry.isMilestone`, `KeyedPool.History.milestones`: the milestones in a history.
* `KeyedPool.Pool.milestones_settle` and the like: what else happens to a pool leaves none.
* `KeyedPool.Acquisition.Trail`: the milestones of an acquire by the point at which it stands.
* `KeyedPool.Acquisition.advances_start`, `KeyedPool.Acquisition.advances_poll`: an acquire leaves
  them.
-/

namespace KeyedPool

/-- Whether an entry is a milestone of an acquire. -/
def Entry.isMilestone : Entry → Bool
  | .connecting .. => true
  | .connected .. => true
  | .hookStarted .. => true
  | .hookFinished .. => true
  | .published .. => true
  | .lost .. => true
  | .reused .. => true
  | _ => false

namespace History

/-- The milestones in a history, the latest first. -/
def milestones (h : List Entry) : List Entry := h.filter Entry.isMilestone

variable {e : Entry} {h : List Entry}

theorem milestones_cons (he : e.isMilestone = true) (h : List Entry) :
    milestones (e :: h) = e :: milestones h :=
  List.filter_cons_of_pos he

theorem milestones_cons_of_not (he : e.isMilestone = false) (h : List Entry) :
    milestones (e :: h) = milestones h :=
  List.filter_cons_of_neg (by simp [he])

theorem milestones_append (h h' : List Entry) :
    milestones (h ++ h') = milestones h ++ milestones h' :=
  List.filter_append h h'

theorem mem_milestones : e ∈ milestones h ↔ e ∈ h ∧ e.isMilestone = true := List.mem_filter

end History

open History

/-! ### Operations of a pool -/

namespace Pool

variable {p : Pool} {now : Instant} {k : String} {c : Nat}

theorem milestones_note_of_not {e : Entry} (he : e.isMilestone = false) :
    milestones (p.note e).history = milestones p.history :=
  milestones_cons_of_not he _

@[simp] theorem milestones_close :
    milestones (p.close k c).2.history = milestones p.history := by
  rw [close]
  split
  · rfl
  · dsimp only
    split <;> exact milestones_cons_of_not rfl _

@[simp] theorem milestones_retire (d : Departure) :
    milestones (p.retire d).2.history = milestones p.history := by
  rw [retire, milestones_close]
  cases d.why.tally? <;> exact milestones_cons_of_not rfl _

@[simp] theorem milestones_retireAll (ds : List Departure) :
    milestones (p.retireAll ds).2.history = milestones p.history := by
  induction ds generalizing p with
  | nil => rfl
  | cons d ds ih => exact ih.trans (milestones_retire d)

@[simp] theorem history_takeOldest : p.takeOldest.2.history = p.history := by
  rw [takeOldest]
  split <;> rfl

@[simp] theorem history_makeRoom (limit : Nat) :
    (p.makeRoom limit now).2.history = p.history := by
  rw [makeRoom]
  split
  · rfl
  · dsimp only
    split
    · rfl
    · exact history_takeOldest

@[simp] theorem history_reserve : (p.reserve k now).2.2.history = p.history := by
  rw [reserve]
  dsimp only
  split
  · rfl
  · split <;> exact history_makeRoom _

@[simp] theorem history_admission (ttl : Duration) :
    (p.admission k ttl now).2.2.history = p.history := by
  rw [admission]
  split
  · exact history_reserve
  · rfl
  · split
    · rfl
    · split
      · split <;> rfl
      · exact history_reserve

/-- An attempt leaves no milestone by itself. -/
@[simp] theorem milestones_attempt (ttl : Duration) :
    milestones (p.attempt k ttl now).2.history = milestones p.history := by
  rw [attempt]
  simp

/-- Pruning leaves none. -/
@[simp] theorem milestones_prune : milestones (p.prune now).2.history = milestones p.history := by
  rw [prune]
  dsimp only
  split
  · simp [takeLive]
  · rw [milestones_note_of_not rfl]
    simp [takeLive]

/-- Evicting leaves none. -/
@[simp] theorem milestones_evict : milestones p.evict.2.history = milestones p.history := by
  have htake : p.takeOldest.2.history = p.history := history_takeOldest
  rw [evict]
  split <;> rename_i heq <;> rw [heq] at htake
  · exact congrArg milestones htake
  · exact (milestones_retire _).trans (congrArg milestones htake)

/-- To close everything leaves none. -/
@[simp] theorem milestones_closeAll :
    milestones p.closeAll.2.history = milestones p.history := by
  rw [closeAll]
  dsimp only
  rw [milestones_note_of_not rfl, milestones_retireAll]
  rfl

/-- No command leaves one. -/
@[simp] theorem milestones_execute (command : Command) :
    milestones (p.execute now command).2.history = milestones p.history := by
  cases command with
  | prune => exact milestones_prune
  | evict => exact milestones_evict
  | closeAll => exact milestones_closeAll
  | resetCounters => exact milestones_cons_of_not rfl _
  | _ => rfl

@[simp] theorem milestones_discard (l : Lease) (why : Removal) :
    milestones (p.discard l why).history = milestones p.history := by
  rw [discard]
  split
  · exact milestones_retire _
  · rfl

/-- The end of a lease leaves none. -/
@[simp] theorem milestones_settle (l : Lease) (how : Disposal) :
    milestones (p.settle l how).history = milestones p.history := by
  have hended : milestones (p.note (.leaseEnded l how)).history = milestones p.history :=
    milestones_note_of_not rfl
  cases how with
  | release =>
    rw [settle]
    split
    · rw [returnIdle]
      split <;> rw [milestones_note_of_not rfl] <;> exact hended
    · exact (milestones_discard l .broken).trans hended
  | cancel => exact (milestones_discard l .cancelled).trans hended
  | drop => exact (milestones_discard l .cancelled).trans hended

end Pool

namespace LeaseBook

variable {b : LeaseBook} {p : Pool}

@[simp] theorem milestones_keep (label : String) (l : Lease) :
    milestones (b.keep label l p).2.history = milestones p.history := by
  rw [keep]
  cases b.find? label with
  | none => rfl
  | some old => exact Pool.milestones_settle old .drop

theorem milestones_settle? {label : String} {how : Disposal} {b' : LeaseBook} {p' : Pool}
    (h : b.settle? label how p = some (b', p')) :
    milestones p'.history = milestones p.history := by
  obtain ⟨l, -, he⟩ := Option.map_eq_some_iff.mp h
  cases he
  exact Pool.milestones_settle l how

@[simp] theorem milestones_dropAll (b : LeaseBook) (p : Pool) :
    milestones (b.dropAll p).history = milestones p.history := by
  rw [dropAll]
  induction b.leases with
  | nil => rfl
  | cons l ls ih => exact (Pool.milestones_settle l .drop).trans ih

end LeaseBook

/-! ### The trail of an acquire -/

namespace Acquisition

/-- The milestones of an acquire whose connection is there. -/
def connectedTrail (r : Request) (c : Nat) : List Entry :=
  [.connected r.database c, .connecting r.database]

/-- The milestones of an acquire whose startup hook has begun. -/
def startedTrail (r : Request) (c : Nat) : List Entry := .hookStarted c :: connectedTrail r c

/-- The milestones of an acquire whose connection is fit for use: its startup hook has ended well,
if it has one. -/
def fitTrail (r : Request) (c : Nat) : List Entry :=
  if r.startup.isSome then .hookFinished c :: startedTrail r c else connectedTrail r c

section Members

variable {r : Request} {c c' : Nat} {k : String}

@[simp] theorem connected_mem_connectedTrail :
    .connected k c' ∈ connectedTrail r c ↔ k = r.database ∧ c' = c := by
  simp [connectedTrail]

@[simp] theorem connected_mem_startedTrail :
    .connected k c' ∈ startedTrail r c ↔ k = r.database ∧ c' = c := by
  simp [startedTrail]

@[simp] theorem hookStarted_mem_startedTrail : .hookStarted c' ∈ startedTrail r c ↔ c' = c := by
  simp [startedTrail, connectedTrail]

@[simp] theorem hookFinished_not_mem_startedTrail : .hookFinished c' ∉ startedTrail r c := by
  simp [startedTrail, connectedTrail]

@[simp] theorem connected_mem_fitTrail :
    .connected k c' ∈ fitTrail r c ↔ k = r.database ∧ c' = c := by
  rw [fitTrail]
  split <;> simp

@[simp] theorem hookStarted_mem_fitTrail :
    .hookStarted c' ∈ fitTrail r c ↔ c' = c ∧ r.startup.isSome = true := by
  rw [fitTrail]
  split <;> simp_all [connectedTrail]

@[simp] theorem hookFinished_mem_fitTrail :
    .hookFinished c' ∈ fitTrail r c ↔ c' = c ∧ r.startup.isSome = true := by
  rw [fitTrail]
  split <;> simp_all [connectedTrail]

end Members

/-- **The trail of an acquire**: its milestones, the latest first, by the point to which it came at
some time. -/
inductive Trail (r : Request) (now : Instant) : Progress Stage Acquired → List Entry → Prop
  /-- It waits to be admitted. -/
  | queued {refusals wake} : Trail r now (.waiting (.queued refusals wake)) []
  /-- Its connection is being opened. -/
  | connecting {plan wake} :
    Trail r now (.waiting (.connecting plan wake)) [.connecting r.database]
  /-- The startup hook that it was given runs on its connection. -/
  | starting {c hook wake} (hs : r.startup = some hook) :
    Trail r now (.waiting (.starting c hook wake)) (startedTrail r c)
  /-- It ended without being admitted. -/
  | refused {result} (hfail : ∀ l, result ≠ .lease l) : Trail r now (.finished result) []
  /-- It leases an idle connection. -/
  | reused {generation c} :
    Trail r now (.finished (.lease ⟨r.database, generation, c⟩))
      [.reused ⟨r.database, generation, c⟩ now r.ttl]
  /-- Its connection did not come. -/
  | unconnected {result} (hfail : ∀ l, result ≠ .lease l) :
    Trail r now (.finished result) [.connecting r.database]
  /-- The startup hook that it was given failed. -/
  | failed {c hook failure} (hs : r.startup = some hook) (hend : hook.result = .fail failure) :
    Trail r now (.finished (.failed (.startup r.database failure))) (startedTrail r c)
  /-- The startup hook that it was given tore down its task. -/
  | crashed {c hook text} (hs : r.startup = some hook) (hend : hook.result = .crash text) :
    Trail r now (.finished (.crashed text)) (startedTrail r c)
  /-- Its connection is fit for use, and it leases it. -/
  | published {generation c} (hs : ∀ hook, r.startup = some hook → hook.result = .done) :
    Trail r now (.finished (.lease ⟨r.database, generation, c⟩))
      (.published ⟨r.database, generation, c⟩ now r.ttl r.persistent :: fitTrail r c)
  /-- Its connection is fit for use, but the deadline lies beyond the horizon. -/
  | lost {c} (hs : ∀ hook, r.startup = some hook → hook.result = .done) :
    Trail r now (.finished (.crashed beyondHorizonText))
      (.lost r.database c now r.ttl :: fitTrail r c)

/-- **A connection whose startup hook did not end well is given up** when its acquire ends. -/
def Drops (r : Request) (x : Progress Stage Acquired) (trail : List Entry) (q : Pool) : Prop :=
  ∀ c result, x = .finished result → .hookStarted c ∈ trail → .hookFinished c ∉ trail →
    .removed .abandoned r.database c ∈ q.history

/-- **An acquire that has left a trail comes to a point**, and adds the milestones that it leaves in
a pool on its way. -/
def Advances (r : Request) (now : Instant) (trail : List Entry) (p : Pool)
    (x : Progress Stage Acquired) (q : Pool) : Prop :=
  ∃ new, milestones q.history = new ++ milestones p.history ∧ Trail r now x (new ++ trail) ∧
    Drops r x (new ++ trail) q

variable {plans : String → ConnectPlan} {now : Instant} {r : Request} {p p' q : Pool} {c : Nat}
  {result : Acquired} {x : Progress Stage Acquired} {trail : List Entry}

/-- Without a startup hook there is nothing of it to give up. -/
theorem Drops.of_not_started (h : ∀ c, .hookStarted c ∉ trail) : Drops r x trail q :=
  fun c _ _ hstarted _ => absurd hstarted (h c)

/-- A hook that runs has not ended. -/
theorem Drops.of_waiting {stage : Stage} : Drops r (.waiting stage) trail q := by
  rintro c result ⟨⟩

/-- Nor is there if its connection is fit for use, for then the hook has ended well. -/
theorem Drops.of_fit {e : Entry} (he : ∀ c, e ≠ .hookStarted c) :
    Drops r x (e :: fitTrail r c) q := by
  intro c' result hx hstarted hfinished
  have hfit := hookStarted_mem_fitTrail.mp (List.mem_of_ne_of_mem (he c').symm hstarted)
  exact absurd (List.mem_cons_of_mem e (hookFinished_mem_fitTrail.mpr hfit)) hfinished

/-- It is on its way from a pool with the same milestones. -/
theorem Advances.of_milestones (h : Advances r now trail p' x q)
    (hp : milestones p'.history = milestones p.history) : Advances r now trail p x q := by
  rw [Advances, hp] at h
  exact h

/-- It is on its way with the milestone that it has just left. -/
theorem Advances.of_cons {e : Entry} (h : Advances r now (e :: trail) p' x q)
    (hp : milestones p'.history = e :: milestones p.history) : Advances r now trail p x q := by
  obtain ⟨new, hq, htrail⟩ := h
  refine ⟨new ++ [e], ?_, ?_⟩
  · rw [hq, hp, List.append_assoc, List.singleton_append]
  · rwa [List.append_assoc, List.singleton_append]

/-- It stands where it is, if that is where its trail leads. -/
theorem Advances.of_trail (h : Trail r now x trail) (hdrops : Drops r x trail q)
    (hq : milestones q.history = milestones p.history) : Advances r now trail p x q :=
  ⟨[], hq, h, hdrops⟩

theorem advances_publish (hs : ∀ hook, r.startup = some hook → hook.result = .done)
    (h : publish p now r c = (result, q)) :
    Advances r now (fitTrail r c) p (.finished result) q := by
  rw [publish, Pool.publish] at h
  cases ht : now.after? r.ttl with
  | none =>
    rw [ht] at h
    cases h
    exact .of_cons (.of_trail (.lost hs) (.of_fit (by rintro c ⟨⟩)) rfl) (milestones_cons rfl _)
  | some deadline =>
    rw [ht] at h
    cases h
    refine .of_cons (.of_trail (.published hs) (.of_fit (by rintro c ⟨⟩)) rfl) ?_
    -- what is displaced leaves no milestone
    cases p.table.record? r.database with
    | none => exact milestones_cons rfl _
    | some old => exact (Pool.milestones_retire _).trans (milestones_cons rfl _)

theorem milestones_dropOpened : milestones (dropOpened p r c).history = milestones p.history := by
  rw [dropOpened, Pool.milestones_retire, Pool.history_giveUpOpening]

/-- A connection that is dropped leaves as abandoned. -/
theorem removed_dropOpened (p : Pool) (r : Request) (c : Nat) :
    .removed .abandoned r.database c ∈ (dropOpened p r c).history := by
  rw [dropOpened, Pool.retire, Pool.close]
  split
  · exact List.mem_cons_self
  · dsimp only
    split <;> exact List.mem_cons_of_mem _ List.mem_cons_self

theorem milestones_dropUnopened : milestones (dropUnopened p r).history = milestones p.history := by
  rw [dropUnopened, Pool.history_giveUpOpening, Pool.milestones_note_of_not rfl]

theorem advances_endHook {hook : HookPlan} (hs : r.startup = some hook)
    (h : endHook p now r c hook = (result, q)) :
    Advances r now (startedTrail r c) p (.finished result) q := by
  have hdrops (q : Pool) : Drops r (.finished result) (startedTrail r c) (dropOpened q r c) := by
    intro c' _ _ hstarted _
    obtain rfl : c' = c := hookStarted_mem_startedTrail.mp hstarted
    exact removed_dropOpened q r c'
  rw [endHook] at h
  split at h <;> rename_i hend
  · cases h
    exact .of_trail (.crashed hs hend) (hdrops _) milestones_dropOpened
  · cases h
    exact .of_trail (.failed hs hend) (hdrops _) milestones_dropOpened
  · have hfit : fitTrail r c = .hookFinished c :: startedTrail r c := by
      rw [fitTrail, hs]
      rfl
    have hdone : ∀ hook', r.startup = some hook' → hook'.result = .done := by
      intro hook' hs'
      cases hs.symm.trans hs'
      exact hend
    exact .of_cons (hfit ▸ advances_publish hdone h) (milestones_cons rfl _)

theorem advances_endConnect {plan : ConnectPlan} (h : endConnect p now r plan = (x, q)) :
    Advances r now [.connecting r.database] p x q := by
  rw [endConnect] at h
  split at h
  · cases h
    exact .of_trail (.unconnected (by rintro l ⟨⟩)) (.of_not_started (by simp))
      milestones_dropUnopened
  · cases h
    exact .of_trail (.unconnected (by rintro l ⟨⟩)) (.of_not_started (by simp))
      milestones_dropUnopened
  · rename_i closed broken failClose _
    let fresh : Handle := { database := r.database, closed, broken, failClose }
    let opened : Pool :=
      ((p.addHandle fresh).note (.connected r.database p.handles.length)).tally .opened
    have hopened : milestones opened.history = _ := milestones_cons rfl _
    refine .of_cons ?_ hopened
    dsimp only at h
    split at h <;> rename_i hs
    · have hfit : fitTrail r p.handles.length = connectedTrail r p.handles.length := by
        rw [fitTrail, hs]
        rfl
      have hpublish : Advances r now (fitTrail r p.handles.length) opened _ _ :=
        advances_publish (by simp [hs]) rfl
      cases h
      rwa [hfit] at hpublish
    · have hstarted : milestones (opened.note (.hookStarted p.handles.length)).history = _ :=
        milestones_cons rfl _
      refine .of_cons ?_ hstarted
      split at h <;> cases h
      · exact advances_endHook hs rfl
      · exact .of_trail (.starting hs) .of_waiting rfl

theorem advances_beginConnect (h : beginConnect plans p now r = (x, q)) :
    Advances r now [] p x q := by
  rw [beginConnect] at h
  have hasked : milestones ((p.note (.opening r.database)).note (.connecting r.database)).history =
      .connecting r.database :: milestones p.history :=
    (milestones_cons rfl _).trans (congrArg _ (milestones_cons_of_not rfl _))
  refine .of_cons ?_ hasked
  split at h
  · exact advances_endConnect h
  · cases h
    exact .of_trail .connecting .of_waiting rfl

theorem advances_refuse {since : Instant} {refusals : List Instant} {why : Refusal}
    (h : refuse p now r since refusals why = (x, q)) : Advances r now [] p x q := by
  have hnote (e : Entry) (he : e.isMilestone = false) (noted : Prop) [Decidable noted] :
      milestones (if noted then p.note e else p).history = milestones p.history := by
    split
    · exact Pool.milestones_note_of_not he
    · rfl
  rw [refuse] at h
  dsimp only at h
  split at h <;> cases h
  · exact .of_trail (.refused (by rintro l ⟨⟩)) (.of_not_started (by simp)) (hnote _ rfl _)
  · exact .of_trail .queued .of_waiting (hnote _ rfl _)

theorem advances_attempt {since : Instant} {refusals : List Instant}
    (h : attempt plans p now r since refusals = (x, q)) : Advances r now [] p x q := by
  have hattempt : milestones (p.attempt r.database r.ttl now).2.history = milestones p.history :=
    Pool.milestones_attempt r.ttl
  rw [attempt] at h
  split at h <;> rename_i p' hp <;> rw [hp] at hattempt
  · cases h
    exact .of_cons (.of_trail .reused (.of_not_started (by simp)) rfl)
      ((milestones_cons rfl _).trans (congrArg _ hattempt))
  · exact (advances_beginConnect h).of_milestones hattempt
  · exact (advances_refuse h).of_milestones hattempt
  · cases h
    exact .of_trail (.refused (by rintro l ⟨⟩)) (.of_not_started (by simp)) hattempt

/-- The point at which an acquire stands. -/
def point : Progress Acquisition Acquired → Progress Stage Acquired
  | .waiting a => .waiting a.stage
  | .finished result => .finished result

theorem point_resume {since : Instant} {x : Progress Stage Acquired × Pool}
    {y : Progress Acquisition Acquired} (h : resume r since x = (y, q)) : x = (point y, q) := by
  rcases x with ⟨_ | _, p⟩ <;> cases h <;> rfl

/-- **An acquire that is called** leaves its first milestones. -/
theorem advances_start {x : Progress Acquisition Acquired} (h : start plans p now r = (x, q)) :
    Advances r now [] p (point x) q :=
  (advances_attempt (point_resume h)).of_milestones Pool.milestones_prune

/-- The trail of an acquire that waits does not depend on the time. -/
theorem Trail.of_waiting {stage : Stage} {t : Instant} (h : Trail r t (.waiting stage) trail) :
    Trail r now (.waiting stage) trail := by
  cases h with
  | queued => exact .queued
  | connecting => exact .connecting
  | starting hs => exact .starting hs

/-- **An acquire that is polled** goes on with its trail. -/
theorem advances_poll {a : Acquisition} {x : Progress Acquisition Acquired} {t : Instant}
    (ht : Trail a.request t (.waiting a.stage) trail) (h : poll plans p now a = (x, q)) :
    Advances a.request now trail p (point x) q := by
  obtain ⟨r, since, stage⟩ := a
  rw [poll] at h
  split at h
  · cases h
    exact .of_trail ht.of_waiting .of_waiting rfl
  · cases ht with
    | queued => exact advances_attempt (point_resume h)
    | connecting => exact advances_endConnect (point_resume h)
    | starting hs =>
      cases h
      exact advances_endHook hs rfl

theorem milestones_abandon (a : Acquisition) :
    milestones (abandon p a).history = milestones p.history := by
  rw [abandon]
  split
  · rfl
  · exact milestones_dropUnopened
  · exact milestones_dropOpened

end Acquisition

end KeyedPool
