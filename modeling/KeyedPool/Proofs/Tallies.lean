import KeyedPool.Proofs.Custody.Moment
import KeyedPool.Proofs.Shedding

/-!
# Counters and meters agree

A pool counts everything twice, in counters that its users may set back to zero and in meters that
nobody can. Each of the two could miss an event on one of the many ways in which connections come
and go. Neither does: the meters tell what is in the whole history, and the counters tell what is in
the history since it last says that they were set back. So the counters are what the meters have
gained since then.

* `KeyedPool.Entry.tally?`, `KeyedPool.History.tallies`: what is to be counted in a history.
* `KeyedPool.Pool.Tallied`: counters and meters tell it.
* `KeyedPool.Custody.Tallied.move`: every move keeps it so.
* `KeyedPool.Custody.LastReset`: the state in which the counters were last set back.
* `KeyedPool.World.IsReachable.counters_agree`: counters and meters agree.
-/

namespace KeyedPool

open Custody History

/-- What is counted when something is written down. -/
def Entry.tally? : Entry → Option Tally
  | .connected .. => some .opened
  | .removed why .. => why.tally?
  | .closed .. => some .closed
  | .closeFailed .. => some .closeFailed
  | _ => none

theorem Entry.tally?_of_isRemark {e : Entry} (he : e.isRemark = true) : e.tally? = none := by
  cases e <;> first | rfl | cases he

theorem Handle.tally?_closing (h : Handle) (k : String) (c : Nat) :
    (h.closing k c).tally? = some h.closingTally := by
  rw [closing, closingTally]
  split <;> rfl

/-- Whether the counters are set back. -/
def Entry.isReset : Entry → Bool
  | .countersReset => true
  | _ => false

theorem Entry.isReset_of_isRemark {e : Entry} (he : e.isRemark = true) : e.isReset = false := by
  cases e <;> first | rfl | cases he

theorem Entry.isReset_of_tally? {e : Entry} {t : Tally} (he : e.tally? = some t) :
    e.isReset = false := by
  cases e <;> first | rfl | cases he

namespace History

/-- **How often something is to be counted in a history.** -/
def tallies (h : List Entry) (t : Tally) : Nat := (h.filterMap Entry.tally?).count t

/-- What was written down since the counters were last set back. -/
def sinceReset (h : List Entry) : List Entry := h.takeWhile fun e => !e.isReset

variable {e : Entry} {h h' : List Entry} {t : Tally}

@[simp] theorem tallies_nil (t : Tally) : tallies [] t = 0 := rfl

theorem tallies_cons_none (he : e.tally? = none) (t : Tally) :
    tallies (e :: h) t = tallies h t := by
  rw [tallies, List.filterMap_cons_none he, tallies]

theorem tallies_cons_some {u : Tally} (he : e.tally? = some u) (t : Tally) :
    tallies (e :: h) t = tallies h t + if t = u then 1 else 0 := by
  rw [tallies, List.filterMap_cons_some he, List.count_cons, tallies]
  exact congrArg (_ + ·) (if_congr (beq_iff_eq.trans eq_comm) rfl rfl)

theorem tallies_append (h h' : List Entry) (t : Tally) :
    tallies (h ++ h') t = tallies h t + tallies h' t := by
  simp [tallies]

/-- What is to be counted only becomes more. -/
theorem tallies_mono (hsuffix : h <:+ h') (t : Tally) : tallies h t ≤ tallies h' t := by
  obtain ⟨since, rfl⟩ := hsuffix
  rw [tallies_append]
  exact Nat.le_add_left _ _

theorem sinceReset_cons (he : e.isReset = false) (h : List Entry) :
    sinceReset (e :: h) = e :: sinceReset h := by
  rw [sinceReset, List.takeWhile_cons_of_pos (by simp [he]), sinceReset]

@[simp] theorem sinceReset_reset (h : List Entry) : sinceReset (.countersReset :: h) = [] := rfl

theorem sinceReset_append (hnone : .countersReset ∉ h) (past : List Entry) :
    sinceReset (h ++ past) = h ++ sinceReset past := by
  refine List.takeWhile_append_of_pos fun e he => ?_
  cases e <;> first | rfl | exact absurd he hnone

theorem sinceReset_eq_self (hnone : .countersReset ∉ h) : sinceReset h = h := by
  simpa [sinceReset] using sinceReset_append hnone []

end History

/-! ### What is counted -/

/-- **Counters and meters tell what is in the history**: the meters all of it, the counters what was
written down since they were set back. -/
structure Pool.Tallied (p : Pool) : Prop where
  /-- The meters tell all of it. -/
  meters : ∀ t, p.meters.totals.count t = tallies p.history t
  /-- The counters tell what came since they were set back. -/
  counters : ∀ t, p.counters.count t = tallies (sinceReset p.history) t

@[simp] theorem Pool.counters_giveUpOpening (p : Pool) (database : String) :
    (p.giveUpOpening database).counters = p.counters := by
  unfold giveUpOpening
  split <;> rfl

namespace Pool.Tallied

variable {p q : Pool} {e : Entry} {t : Tally}

theorem congr (hp : p.Tallied) (hm : q.meters = p.meters) (hc : q.counters = p.counters)
    (hh : q.history = p.history) : q.Tallied := by
  refine ⟨?_, ?_⟩
  · rw [hm, hh]
    exact hp.meters
  · rw [hc, hh]
    exact hp.counters

/-- What is of no account need not be counted. -/
theorem note (hp : p.Tallied) (he : e.tally? = none) (hr : e.isReset = false) :
    (p.note e).Tallied := by
  refine ⟨fun t => ?_, fun t => ?_⟩
  · rw [history_note, tallies_cons_none he]
    exact hp.meters t
  · rw [history_note, sinceReset_cons hr, tallies_cons_none he]
    exact hp.counters t

/-- What is of account is counted by both. -/
theorem tally (hp : p.Tallied) (he : e.tally? = some t) : ((p.tally t).note e).Tallied := by
  refine ⟨fun u => ?_, fun u => ?_⟩
  · rw [history_note, tallies_cons_some he]
    exact (Counters.count_record _ t u).trans (congrArg (· + _) (hp.meters u))
  · rw [history_note, sinceReset_cons (Entry.isReset_of_tally? he), tallies_cons_some he]
    exact (Counters.count_record _ t u).trans (congrArg (· + _) (hp.counters u))

/-- So is the reason for which a connection leaves, if it is of account. -/
theorem removed (hp : p.Tallied) (d : Departure) :
    (d.why.tally?.elim (p.note (.removed d.why d.database d.connection))
      (p.note (.removed d.why d.database d.connection)).tally).Tallied := by
  cases hwhy : d.why.tally? with
  | none => exact hp.note (e := .removed d.why _ _) hwhy rfl
  | some t => exact hp.tally (e := .removed d.why _ _) hwhy

/-- A connection that leaves is counted under its cause, and counted as closed. -/
theorem retire {d : Departure} {h : Handle} (hp : p.Tallied)
    (hd : p.handles[d.connection]? = some h) : (p.retire d).2.Tallied := by
  have hclosed (q : Pool) (hq : q.Tallied) : ((q.tally h.closingTally).note
      (h.closing d.database d.connection)).Tallied := hq.tally (h.tally?_closing _ _)
  have hleft := hp.removed d
  rw [retire_eq hd]
  refine hclosed _ (hleft.congr ?_ ?_ ?_)
  all_goals cases d.why.tally? <;> rfl

end Pool.Tallied

namespace Custody

variable {now : Instant} {s t u : Custody}

/-- **Every move keeps counters and meters true.** -/
theorem tallied_move (hp : s.pool.Tallied) (h : Move now s t) (hb : s.Balanced) :
    t.pool.Tallied := by
  cases h with
  | remark e he => exact hp.note (Entry.tally?_of_isRemark he) (Entry.isReset_of_isRemark he)
  | reset => exact ⟨hp.meters, fun t => by cases t <;> rfl⟩
  | close d =>
    obtain ⟨h, hh⟩ := hb.exists_handle_leaving
    exact hp.retire hh
  | @connect p L O D r fresh hd hc =>
    have hadded : (p.addHandle fresh).Tallied := hp.congr rfl rfl rfl
    exact hadded.tally (e := .connected r.database p.handles.length) rfl
  | ask r => exact hp.note (e := .connecting _) rfl rfl
  | unanswered r =>
    exact (hp.note (e := .unconnected _) rfl rfl).congr (Pool.meters_giveUpOpening _ _)
      (Pool.counters_giveUpOpening _ _) (Pool.history_giveUpOpening _ _)
  | startHook r c hr => exact hp.note (e := .hookStarted c) rfl rfl
  | finishHook r c => exact hp.note (e := .hookFinished c) rfl rfl
  | abandon r c =>
    exact hp.congr (Pool.meters_giveUpOpening _ _) (Pool.counters_giveUpOpening _ _)
      (Pool.history_giveUpOpening _ _)
  | publish o c deadline ho hd hr =>
    exact (hp.note (e := .published _ _ _ _) rfl rfl).congr rfl rfl rfl
  | lose o c ho hd => exact (hp.note (e := .lost _ _ _ _) rfl rfl).congr rfl rfl rfl
  | reuse k r ttl deadline hr hidle hh hd =>
    exact (hp.note (e := .reused _ _ _) rfl rfl).congr rfl rfl rfl
  | rest l hh hm =>
    exact ((hp.note (e := .leaseEnded l _) rfl rfl).note (e := .released l) rfl rfl).congr rfl rfl
      rfl
  | depart l hh hm => exact (hp.note (e := .leaseEnded l _) rfl rfl).note (e := .departed l) rfl rfl
  | discard l how why r hw hr hg =>
    exact (hp.note (e := .leaseEnded l how) rfl rfl).congr rfl rfl rfl
  | forget l how hw hm => exact hp.note (e := .leaseEnded l how) rfl rfl
  | _ => exact hp.congr rfl rfl rfl

/-- **The counters were last set back in a state**, and other things have happened since. -/
def LastReset (s t : Custody) : Prop :=
  ∃ since, t.pool.history = since ++ .countersReset :: s.pool.history ∧ .countersReset ∉ since

end Custody

/-! ### Runs -/

namespace World

variable {w v : World} {s t : Custody}

theorem Passes.tallied (hs : w.Passes s) : s.pool.Tallied :=
  hs.sound (P := fun s => s.pool.Tallied) (fun _ _ _ h hb _ hp => tallied_move hp h hb) fun _ _ =>
    ⟨fun t => by cases t <;> rfl, fun t => by cases t <;> rfl⟩

/-- What the meters have counted only becomes more. -/
theorem Passes.totals_mono (hs : w.Passes s) (ht : v.Passes t)
    (hsuffix : s.pool.history <:+ t.pool.history) (x : Tally) :
    s.pool.meters.totals.count x ≤ t.pool.meters.totals.count x := by
  rw [hs.tallied.meters, ht.tallied.meters]
  exact tallies_mono hsuffix x

/-- The counters are the meters while nobody has set them back. -/
theorem Passes.count_of_not_mem (hs : w.Passes s) (hnone : .countersReset ∉ s.pool.history)
    (x : Tally) : s.pool.counters.count x = s.pool.meters.totals.count x := by
  rw [hs.tallied.meters, hs.tallied.counters, sinceReset_eq_self hnone]

/-- **The counters are what the meters have gained** since the counters were last set back. -/
theorem Passes.count_of_lastReset (ht : w.Passes t) (hs : v.Passes s) (hlast : s.LastReset t)
    (x : Tally) :
    t.pool.meters.totals.count x = s.pool.meters.totals.count x + t.pool.counters.count x := by
  obtain ⟨since, hhistory, hnone⟩ := hlast
  rw [hs.tallied.meters, ht.tallied.meters, ht.tallied.counters, hhistory, tallies_append,
    sinceReset_append hnone, sinceReset_reset, List.append_nil, tallies_cons_none rfl, add_comm]

/-- The meters show the connections that were opened and not closed. -/
theorem Passes.counted (hs : w.Passes s) : s.Counted :=
  hs.sound (fun _ _ _ h hb _ hc => hc.move h hb) fun _ _ => ⟨rfl, rfl, rfl⟩

/-- **If the counters were ever set back, there was a last time**, and it was by command. -/
theorem IsReachable.exists_lastReset (hw : w.IsReachable)
    (hreset : .countersReset ∈ w.pool.history) :
    ∃ v s t, w.HasDone v s t ∧ Executes v.now .resetCounters s t ∧ s.LastReset w.custody := by
  obtain ⟨since, past, hhistory, hnone⟩ := List.eq_append_cons_of_mem hreset
  obtain ⟨v, s, t, hdone, hs, ht⟩ := hw.exists_deed
    (P := fun s => ¬.countersReset :: past <:+ s.pool.history)
    (fun _ _ _ hfresh => Entry.noConfusion (mem_history_init (hfresh.subset List.mem_cons_self)))
    (not_not.mpr ⟨since, hhistory.symm⟩)
  rw [not_not] at ht
  refine ⟨v, s, t, hdone, ?_⟩
  rcases hdone.found.sheds hdone.deed with hexec | ⟨new, hnew, hobeys⟩
  · -- the deed sets the counters back, so it does so for the last time
    obtain hnow | hbefore := List.suffix_cons_iff.mp (hexec ▸ ht)
    · cases hnow
      exact ⟨hexec, since, hhistory, hnone⟩
    · exact absurd hbefore hs
  · -- no other deed does
    have hbefore : s.pool.history <:+ past := by
      rcases List.suffix_or_suffix_of_suffix ht ⟨new, hnew.symm⟩ with hafter | hbefore
      · exact absurd hafter hs
      · rcases List.suffix_cons_iff.mp hbefore with heq | hbefore
        · exact absurd (heq ▸ List.suffix_rfl) hs
        · exact hbefore
    obtain ⟨later, earlier, rfl, -⟩ := split_of_suffix (hnew ▸ ht) hbefore
    exact absurd rfl (hobeys _ (List.mem_append_right _ List.mem_cons_self)).unreset

/-- **Counters and meters agree**, in every state of every run. If the counters were ever set back
there is a last time, at which this was done by command. Whatever state that was, the counters are
what the meters have gained since then, and they are the meters themselves if there was no such
time. The meters never decrease, neither from one event to the next nor inside of one, and to set
the counters back leaves them alone. And the gauge is what was opened less what was closed, with or
without success; there are never more of these. -/
theorem IsReachable.counters_agree (hw : w.IsReachable) :
    (.countersReset ∈ w.pool.history → ∃ v s t, w.HasDone v s t ∧
      Executes v.now .resetCounters s t ∧ s.LastReset w.custody) ∧
    (∀ events x, w.pool.meters.totals.count x ≤ (w.after events).pool.meters.totals.count x) ∧
    ∀ t, w.Passes t →
      (.countersReset ∉ t.pool.history → ∀ x,
        t.pool.counters.count x = t.pool.meters.totals.count x) ∧
      (∀ (v : World) (s : Custody), v.Passes s → s.LastReset t → ∀ x,
        s.pool.meters.totals.count x ≤ t.pool.meters.totals.count x ∧
        t.pool.counters.count x =
          t.pool.meters.totals.count x - s.pool.meters.totals.count x) ∧
      (∀ u, Moves w.now t u → ∀ x,
        t.pool.meters.totals.count x ≤ u.pool.meters.totals.count x) ∧
      (t.pool.execute w.now .resetCounters).2.counters = {} ∧
      (t.pool.execute w.now .resetCounters).2.meters = t.pool.meters ∧
      t.pool.meters.openConnections = (t.pool.meters.totals.opened : Int) -
        t.pool.meters.totals.closed - t.pool.meters.totals.closeFailed ∧
      0 ≤ t.pool.meters.openConnections := by
  refine ⟨hw.exists_lastReset, fun events x => ?_, fun t ht =>
    ⟨ht.count_of_not_mem, ?_, ?_, rfl, rfl, ?_⟩⟩
  · exact (Passes.rest hw).totals_mono (Passes.rest (hw.after events)) (hw.history_suffix events) x
  · intro v s hs hlast x
    have hcount := ht.count_of_lastReset hs hlast x
    omega
  · exact fun u hmoves x => ht.totals_mono (ht.moves hmoves) (ht.suffix hmoves) x
  · obtain ⟨hopened, hclosed, hgauge⟩ := ht.counted
    have hle : (closed t.pool.history).card ≤ (opened t.pool.history).card := by
      rw [← ht.balanced.connections]
      simp
    omega

/-- A connection was opened before the counters were set back, and closed after. -/
theorem IsReachable.counters_agree_reset :
    let w := (World.init {} false).after
      [.start (.lease { database := "a", ttl := ⟨5⟩ } "lease"), .command .resetCounters,
        .settle "lease" .cancel]
    ∃ v s t, w.HasDone v s t ∧ Executes v.now .resetCounters s t ∧
      s.pool.meters.totals.opened = 1 ∧ s.pool.meters.totals.closed = 0 := by
  intro w
  have hw : w.IsReachable := ⟨_, _, _, _, rfl⟩
  obtain ⟨hlast, -, hagree⟩ := hw.counters_agree
  obtain ⟨v, s, t, hdone, hexec, hlast⟩ := hlast (List.mem_of_getElem? (i := 3) rfl)
  have hcounts := (hagree _ (Passes.rest hw)).2.1 v s hdone.found hlast
  have hopened : 0 = 1 - s.pool.meters.totals.opened ∧ s.pool.meters.totals.opened ≤ 1 :=
    ⟨(hcounts .opened).2, (hcounts .opened).1⟩
  have hclosed : 1 = 1 - s.pool.meters.totals.closed := (hcounts .closed).2
  exact ⟨v, s, t, hdone, hexec, by omega, by omega⟩

end World

end KeyedPool
