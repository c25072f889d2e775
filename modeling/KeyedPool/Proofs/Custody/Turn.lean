import KeyedPool.Proofs.Custody.Course

/-!
# The turns of an acquire

An acquire has a turn when it is called, and one whenever it is polled, until it ends or is given
up. Between two of its turns anything may happen to the pool, so what an acquire finds in a later
turn need not be what it left in the one before. What it has done itself is in what was written down
in its own turns, and its milestones among them are its trail.

A turn is described by what the acquire finds and leaves in it and by its turns before. This covers
every acquire of every run: one that waits is at the end of a turn, and every milestone in the
history of a pool was left in the turn of an acquire.

* `KeyedPool.Acquisition.Call`, `KeyedPool.Acquisition.Turn`: the call of an acquire, and a turn.
* `KeyedPool.Acquisition.Turn.trail`: the milestones of its turns are its trail.
* `KeyedPool.World.Accounted`: every acquire that waits had a turn, and every milestone was left in
  one.
* `KeyedPool.World.IsReachable.accounted`: so it is in every reachable world.
-/

namespace KeyedPool

open Custody History

/-! ### Turns -/

/-- **The call of an acquire.** -/
structure Acquisition.Call where
  /-- What it asks for. -/
  request : Request
  /-- When it is called. -/
  since : Instant
  /-- What has been written down by then. -/
  past : List Entry

namespace Acquisition

/-- **The latest turn of an acquire**, with all that was written down in its turns so far. In this
turn, which is part of a run, it finds a pool, comes to a point and leaves another pool. -/
inductive Turn (call : Call) :
    List Entry → World → Pool → Progress Acquisition Acquired → Pool → Prop
  /-- It is called. -/
  | called {w plans p L O x q own} (hs : w.Passes ⟨p, L, O, 0⟩) (hsince : call.since = w.now)
      (hpast : call.past = p.history) (h : start plans p w.now call.request = (x, q))
      (hown : q.history = own ++ p.history) : Turn call own w p x q
  /-- It is polled, some time after it had its turn before. -/
  | polled {own w p a q new w' plans p' L O x q'} (before : Turn call own w p (.waiting a) q)
      (hlater : q.history <:+ p'.history) (hs : w'.Passes (a.holding.beside p' L O))
      (h : poll plans p' w'.now a = (x, q')) (hown : q'.history = new ++ p'.history) :
    Turn call (new ++ own) w' p' x q'

variable {call : Call} {own : List Entry} {w : World} {p q : Pool} {a : Acquisition}
  {x : Progress Acquisition Acquired}

namespace Turn

/-- While it waits it waits for what it was called for. -/
theorem waits (h : Turn call own w p (.waiting a) q) :
    a.request = call.request ∧ a.since = call.since := by
  generalize hx : (.waiting a : Progress Acquisition Acquired) = x at h
  induction h generalizing a with
  | called hs hsince hpast h hown =>
    subst hx
    obtain ⟨hrequest, hnow⟩ := eq_of_resume_waiting h
    exact ⟨hrequest, hnow.trans hsince.symm⟩
  | polled before hlater hs h hown ih =>
    subst hx
    obtain ⟨hrequest, hsince⟩ := eq_of_poll h
    obtain ⟨hrequest', hsince'⟩ := ih rfl
    exact ⟨hrequest.trans hrequest', hsince.trans hsince'⟩

/-- **A turn is a sequence of moves**, from a state of a run. -/
theorem moves (h : Turn call own w p x q) :
    ∃ kept? L O, w.Passes (Holding.beside { opening? := kept? } p L O) ∧
      Moves w.now (Holding.beside { opening? := kept? } p L O)
        (Progress.custody holding Acquired.holding L O (x, q)) := by
  cases h with
  | @called _ plans _ L O _ _ _ hs hsince hpast h hown =>
    rw [← Holding.beside_none] at hs
    refine ⟨none, L, O, hs, ?_⟩
    rw [Holding.beside_none]
    exact h ▸ moves_start plans call.request
  | @polled _ _ _ a _ _ _ plans _ L O _ _ before hlater hs h hown =>
    exact ⟨a.opening?, L, O, hs, h ▸ moves_poll plans a⟩

/-- The run goes on after a turn. -/
theorem passes (h : Turn call own w p x q) :
    ∃ L O, w.Passes (Progress.custody holding Acquired.holding L O (x, q)) := by
  obtain ⟨kept?, L, O, hs, hmoves⟩ := h.moves
  exact ⟨L, O, hs.moves hmoves⟩

/-- What is written down in a turn comes after what had been by then. -/
theorem suffix (h : Turn call own w p x q) : p.history <:+ q.history := by
  cases h with
  | called hs hsince hpast h hown => exact ⟨_, hown.symm⟩
  | polled before hlater hs h hown => exact ⟨_, hown.symm⟩

/-- Every turn comes after the call. -/
theorem past_suffix (h : Turn call own w p x q) : call.past <:+ p.history := by
  induction h with
  | called hs hsince hpast h hown => exact hpast ▸ List.suffix_rfl
  | polled before hlater hs h hown ih => exact (ih.trans before.suffix).trans hlater

/-- What was written down in the turns of an acquire is in the history. -/
theorem own_subset (h : Turn call own w p x q) : own ⊆ q.history := by
  induction h with
  | called hs hsince hpast h hown => exact hown ▸ List.subset_append_left _ _
  | polled before hlater hs h hown ih =>
    intro e he
    rw [hown, List.mem_append]
    exact (List.mem_append.mp he).imp_right fun he => hlater.subset (ih he)

theorem trail_and_drops (h : Turn call own w p x q) :
    Trail call.request w.now (point x) (milestones own) ∧
      Drops call.request (point x) (milestones own) q := by
  have hnew {trail : List Entry} {now : Instant} {p q : Pool} {y : Progress Stage Acquired}
      {new : List Entry} (h : Advances call.request now trail p y q)
      (hown : q.history = new ++ p.history) :
      Trail call.request now y (milestones new ++ trail) ∧
        Drops call.request y (milestones new ++ trail) q := by
    obtain ⟨added, hadded, htrail⟩ := h
    rw [hown, milestones_append] at hadded
    rwa [List.append_cancel_right hadded]
  induction h with
  | called hs hsince hpast h hown =>
    have htrail := hnew (advances_start h) hown
    rwa [List.append_nil] at htrail
  | polled before hlater hs h hown ih =>
    rw [milestones_append]
    have hrequest := before.waits.1
    exact hnew (hrequest ▸ advances_poll (hrequest ▸ ih.1) h) hown

/-- **The milestones of its turns are its trail.** -/
theorem trail (h : Turn call own w p x q) :
    Trail call.request w.now (point x) (milestones own) :=
  h.trail_and_drops.1

/-- A connection whose startup hook did not end well is given up in its last turn. -/
theorem drops (h : Turn call own w p x q) : Drops call.request (point x) (milestones own) q :=
  h.trail_and_drops.2

end Turn

/-! ### Every acquire has its turns -/

/-- An acquire that waits had a turn before. -/
def HadTurn (p : Pool) (a : Acquisition) : Prop :=
  ∃ call own w p' q, Turn call own w p' (.waiting a) q ∧ q.history <:+ p.history

theorem HadTurn.later (h : a.HadTurn p) (hsuffix : p.history <:+ q.history) : a.HadTurn q := by
  obtain ⟨call, own, w, p', q', hturn, hlater⟩ := h
  exact ⟨call, own, w, p', q', hturn, hlater.trans hsuffix⟩

end Acquisition

/-- **Every milestone was left in the turn of an acquire.** -/
def Pool.Accounted (p : Pool) : Prop :=
  ∀ e ∈ milestones p.history, ∃ call own w p' x q,
    Acquisition.Turn call own w p' x q ∧ e ∈ own ∧ q.history <:+ p.history

/-- What takes time leaves a pool so, and waits with an acquire that had a turn. -/
def Progress.Accounted {σ α : Type} (waits : σ → Option Acquisition) :
    Progress σ α × Pool → Prop
  | (.waiting s, p) => p.Accounted ∧ ∀ a, waits s = some a → a.HadTurn p
  | (.finished _, p) => p.Accounted

/-- An acquire leaves a pool so, and had a turn if it waits. -/
theorem Progress.Accounted.of_point {x : Progress Acquisition Acquired} {q : Pool}
    (h : Progress.Accounted some (x, q)) :
    q.Accounted ∧ ∀ a, x = .waiting a → a.HadTurn q := by
  cases x with
  | waiting a =>
    obtain ⟨hq, ha⟩ := h
    exact ⟨hq, fun b hb => ha b (congrArg some (Progress.waiting.inj hb))⟩
  | finished result =>
    refine ⟨h, fun a ha => ?_⟩
    cases ha

namespace World.Passes

variable {w : World} {s t : Custody} {p : Pool} {L : Multiset Lease} {O : Multiset Opening}
  {plans : String → ConnectPlan}

/-- What leaves no milestone leaves none without a turn. -/
theorem accounted (hs : w.Passes s) (hp : s.pool.Accounted) (h : Moves w.now s t)
    (hm : milestones t.pool.history = milestones s.pool.history) : t.pool.Accounted := by
  intro e he
  obtain ⟨call, own, w', p', x, q, hturn, hown, hlater⟩ := hp e (hm ▸ he)
  exact ⟨call, own, w', p', x, q, hturn, hown, hlater.trans (hs.suffix h)⟩

/-- A turn accounts for its own milestones. -/
theorem accounted_turn {call : Acquisition.Call} {own new : List Entry} {q : Pool}
    {x : Progress Acquisition Acquired} (hp : p.Accounted)
    (h : Acquisition.Turn call own w p x q) (hq : q.history = new ++ p.history) (hnew : new ⊆ own) :
    Progress.Accounted some (x, q) := by
  have hq : q.Accounted := by
    intro e he
    rw [hq, milestones_append, List.mem_append] at he
    rcases he with he | he
    · exact ⟨_, _, _, _, _, _, h, hnew (mem_milestones.mp he).1, List.suffix_rfl⟩
    · obtain ⟨call', own', w', p', x', q', hturn, hown, hlater⟩ := hp e he
      exact ⟨call', own', w', p', x', q', hturn, hown, hlater.trans h.suffix⟩
  cases x with
  | finished result => exact hq
  | waiting a =>
    refine ⟨hq, fun b hb => ?_⟩
    cases hb
    exact ⟨_, _, _, _, _, h, List.suffix_rfl⟩

/-- **An acquire that is called** has its first turn. -/
theorem accounted_start (hs : w.Passes ⟨p, L, O, 0⟩) (hp : p.Accounted) (r : Request) :
    Progress.Accounted some (Acquisition.start plans p w.now r) := by
  have hmoves : Moves w.now ⟨p, L, O, 0⟩ _ := Acquisition.moves_start plans r
  rcases h : Acquisition.start plans p w.now r with ⟨x, q⟩
  rw [h] at hmoves
  obtain ⟨own, hown⟩ : ∃ own, q.history = own ++ p.history := by
    obtain ⟨own, hown⟩ := hs.suffix hmoves
    exact ⟨own, by simpa using hown.symm⟩
  have hturn : Acquisition.Turn ⟨r, w.now, p.history⟩ own w p x q := .called hs rfl rfl h hown
  exact accounted_turn hp hturn hown fun _ he => he

/-- **An acquire that is polled** has its next turn. -/
theorem accounted_poll {a : Acquisition} (hs : w.Passes (a.holding.beside p L O))
    (hp : p.Accounted) (ha : a.HadTurn p) :
    Progress.Accounted some (Acquisition.poll plans p w.now a) := by
  have hmoves : Moves w.now (a.holding.beside p L O) _ := Acquisition.moves_poll plans a
  rcases h : Acquisition.poll plans p w.now a with ⟨x, q⟩
  rw [h] at hmoves
  obtain ⟨new, hnew⟩ : ∃ new, q.history = new ++ p.history := by
    obtain ⟨new, hnew⟩ := hs.suffix hmoves
    exact ⟨new, by simpa [Holding.beside] using hnew.symm⟩
  obtain ⟨call, own, w', p', q', hturn, hlater⟩ := ha
  exact accounted_turn hp (.polled hturn hlater hs h hnew) hnew (List.subset_append_left _ _)

end World.Passes

/-! ### Runs -/

namespace World

variable {w : World}

/-- **Every acquire that waits had a turn**, and every milestone was left in the turn of one. -/
structure Accounted (w : World) : Prop where
  /-- Every milestone was left in a turn. -/
  pool : w.pool.Accounted
  /-- Every acquire that waits had a turn. -/
  waits : ∀ t ∈ w.tasks, ∀ a, t.job.acquisition? = some a → a.HadTurn w.pool

/-- A fresh pool has no milestones. -/
theorem milestones_init (settings : PoolSettings) (driven : Bool) (enumeration : Enumeration) :
    milestones (init settings driven enumeration).pool.history = [] := by
  rw [init]
  split
  · rfl
  · split <;> rfl

/-- A call and a poll are turns, and whatever else happens leaves no milestone. -/
theorem course_accounted : Course (fun _ p => p.Accounted) fun _ p a => a.HadTurn p where
  fresh settings driven enumeration := by
    intro e he
    rw [milestones_init] at he
    cases he
  quiet hs h hm hp := hs.accounted hp h hm
  later hs h ha := ha.later (hs.suffix h)
  call {w p q L O plans r x} hs hp h := by
    have hcalled : Progress.Accounted some (Acquisition.start plans p w.now r) :=
      hs.accounted_start hp r
    rw [h] at hcalled
    exact hcalled.of_point
  poll {w p q L O a plans x} hs hp ha h := by
    have hpolled : Progress.Accounted some (Acquisition.poll plans p w.now a) :=
      hs.accounted_poll hp ha
    rw [h] at hpolled
    exact hpolled.of_point
  eventOver _ _ hp := hp
  goesOn _ _ ha := ha

/-- **In every reachable world every acquire has its turns**, and every milestone was left in the
turn of an acquire. -/
theorem IsReachable.accounted (hr : w.IsReachable) : w.Accounted :=
  ⟨(course_accounted.follows hr).pool, (course_accounted.follows hr).waits⟩

end World

end KeyedPool
