import KeyedPool.Proofs.Places
import KeyedPool.Proofs.Tallies

/-!
# Every removal has its cause

A connection is closed because its time has come, because room was needed, because it was found
dead, because its lease ended badly, because everything was closed, or because the acquire that had
opened it failed. Which of these it was is decided when it leaves the table, and counted later and
elsewhere, when it is closed. What ties the two together is the history: it names every connection
that left, once, and for each of them there is a moment in the run at which just this connection
left for just the reason that is given.

* `KeyedPool.History.departures`: the connections that left, with their reasons.
* `KeyedPool.World.IsReachable.exists_removal`: the moment at which one of them left.
* `KeyedPool.Custody.Balanced.nodup_departures`: no connection left twice.
* `KeyedPool.World.IsReachable.removals_accounted`: the counters tell how many left for which
  reason.
-/

namespace KeyedPool

open Custody History

/-- The connection that leaves, with the reason for it. -/
def Entry.departs? : Entry → Option Departure
  | .removed why database connection => some ⟨why, database, connection⟩
  | _ => none

/-- How many connections leave for a reason. -/
def Departure.countFor (ds : List Departure) (why : Removal) : Nat := ds.countP (·.why = why)

/-- **Every departure has one reason.** -/
theorem Departure.length_eq (ds : List Departure) :
    ds.length = countFor ds .pruned + countFor ds .evicted + countFor ds .replaced +
      (countFor ds .cancelled + countFor ds .broken) + countFor ds .drained +
      countFor ds .abandoned + countFor ds .displaced := by
  induction ds with
  | nil => rfl
  | cons d ds ih =>
    simp only [countFor, List.length_cons, List.countP_cons] at ih ⊢
    cases d.why <;> simp <;> omega

namespace History

variable {h : List Entry} {d : Departure}

/-- **The connections that left**, the latest first. -/
def departures (h : List Entry) : List Departure := h.filterMap Entry.departs?

theorem mem_departures : d ∈ departures h ↔ .removed d.why d.database d.connection ∈ h := by
  rw [departures, List.mem_filterMap]
  constructor
  · rintro ⟨e, he, hd⟩
    cases e <;> cases hd
    exact he
  · exact fun he => ⟨_, he, rfl⟩

theorem removed_eq (h : List Entry) : removed h = ↑((departures h).map Departure.left) := by
  rw [removed, account, departures, List.map_filterMap]
  refine congrArg Multiset.ofList (List.filterMap_congr fun e _ => ?_)
  cases e <;> rfl

/-- What is counted under a reason is the number of connections that left for it. -/
theorem tallies_eq_countFor {why : Removal} {t : Tally} (hwhy : why.tally? = some t)
    (h : List Entry) : tallies h t = Departure.countFor (departures h) why := by
  rw [tallies, Departure.countFor, departures, List.count_filterMap, List.countP_filterMap]
  refine List.countP_congr fun e _ => ?_
  have hiff : ∀ why' : Removal, why'.tally? = some t ↔ why' = why := by
    intro why'
    cases why <;> cases hwhy <;> cases why' <;> simp [Removal.tally?]
  have hother : t ≠ .opened ∧ t ≠ .closed ∧ t ≠ .closeFailed := by
    cases why <;> cases hwhy <;> simp
  cases e <;> simp [Entry.tally?, Entry.departs?, hiff, hother.1.symm, hother.2.1.symm,
    hother.2.2.symm]

end History

namespace Custody

variable {s : Custody}

/-- **No connection left twice.** -/
theorem Balanced.nodup_departures (hb : s.Balanced) (ht : s.Told) :
    ((departures s.pool.history).map Departure.connection).Nodup := by
  have hclosed : ((closed s.pool.history).map Prod.snd).Nodup := by
    have hnodup := hb.nodup_opened
    rw [← hb.connections, Multiset.map_add, Multiset.nodup_add] at hnodup
    exact hnodup.2.1
  rw [← ht.removed, removed_eq, Multiset.map_coe, List.map_map] at hclosed
  exact Multiset.coe_nodup.mp hclosed

/-- What was closed is what left. -/
theorem Told.card_closed (ht : s.Told) :
    (closed s.pool.history).card = (departures s.pool.history).length := by
  rw [← ht.removed, removed_eq, Multiset.coe_card, List.length_map]

/-- While nothing was displaced, no connection left for this reason. -/
theorem Undisplaced.countFor (hu : s.Undisplaced) :
    Departure.countFor (departures s.pool.history) .displaced = 0 := by
  refine List.countP_eq_zero.mpr fun d hd => ?_
  simpa using hu d (.inr (mem_departures.mp hd))

end Custody

namespace World

variable {w : World} {d : Departure} {k : String} {c : Nat}

/-- **A connection that left did so in a deed of the run**, which is why it left: it was in use when
the deed began, and out of use when the deed was done. -/
theorem IsReachable.exists_removal (hw : w.IsReachable) (hd : d ∈ departures w.pool.history) :
    ∃ v s t, w.HasDone v s t ∧ d ∉ departures s.pool.history ∧ d ∈ departures t.pool.history ∧
      d.left ∉ t.pool.table.connections ∧ Removes v.now s t d := by
  obtain ⟨v, s, t, hdone, hs, ht⟩ :=
    hw.exists_deed_of_mem (mem_departures.mp hd) Entry.noConfusion
  have hgone := hdone.left.told.mem_gone (.inl ht)
  refine ⟨v, s, t, hdone, fun h => hs (mem_departures.mp h), mem_departures.mpr ht,
    fun hrecord => ?_, ?_⟩
  · exact hdone.left.balanced.apart_gone (Multiset.mem_add.mpr (.inl hrecord)) hgone rfl
  · rcases hdone.found.sheds hdone.deed with hexec | hsheds
    · -- to set the counters back writes nothing else down
      rw [hexec] at ht
      rcases List.mem_cons.mp ht with heq | ht
      · cases heq
      · exact absurd ht hs
    · exact (hsheds.of_mem ht hs).resolve_left (hdone.left.undisplaced d (.inr ht))

/-- A connection that was opened is on record, or its startup hook runs, or it was lost to a
deadline beyond the horizon, or it left for a reason. -/
theorem IsReachable.whereabouts (hw : w.IsReachable)
    (hconnected : .connected k c ∈ w.pool.history) :
    (k, c) ∈ w.pool.table.connections ∨ (k, c) ∈ w.startups ∨
      (∃ now ttl, now.after? ttl = none ∧ .lost k c now ttl ∈ w.pool.history) ∨
      ∃ why, ⟨why, k, c⟩ ∈ departures w.pool.history := by
  have hopened : (k, c) ∈ w.pool.table.connections + ↑w.startups + 0 + lost w.pool.history +
      closed w.pool.history :=
    coe_startups w ▸ hw.balanced.connections ▸ mem_opened.mpr hconnected
  rw [add_zero, Multiset.mem_add, Multiset.mem_add, Multiset.mem_add] at hopened
  rcases hopened with ((hrecord | hstart) | hlost) | hclosed
  · exact .inl hrecord
  · exact .inr (.inl (Multiset.mem_coe.mp hstart))
  · obtain ⟨now, ttl, hlost⟩ := mem_lost.mp hlost
    obtain ⟨later, past, heq⟩ := List.append_of_mem hlost
    exact .inr (.inr (.inl ⟨now, ttl, hw.orderly _ past ⟨later, heq.symm⟩, hlost⟩))
  · obtain ⟨why, hremoved⟩ := mem_removed.mp (hw.told.removed.symm ▸ hclosed)
    exact .inr (.inr (.inr ⟨why, mem_departures.mpr hremoved⟩))

/-- **Every removal is accounted to its cause**, while nobody has set the counters back. Every
connection that left did so in a deed of the run which is a reason for it, and left once; and a
connection that was opened has left unless it is on record, its startup hook runs, or it was lost to
a deadline beyond the horizon. The counters tell how many were opened, how many left since their
time had come and how many to make room; and as many were closed, with or without success, as left
for any reason: these two, or found dead and replaced, or discarded with a lease that was cancelled,
dropped or broken, or drained, or abandoned by the acquire that had opened them. -/
theorem IsReachable.removals_accounted (hw : w.IsReachable)
    (hreset : .countersReset ∉ w.pool.history) :
    let gone := departures w.pool.history
    (∀ d ∈ gone, ∃ v s t, w.HasDone v s t ∧ d ∉ departures s.pool.history ∧
      d ∈ departures t.pool.history ∧ d.left ∉ t.pool.table.connections ∧
      Removes v.now s t d) ∧
    (gone.map Departure.connection).Nodup ∧
    (∀ k c, .connected k c ∈ w.pool.history →
      (k, c) ∈ w.pool.table.connections ∨ (k, c) ∈ w.startups ∨
      (∃ now ttl, now.after? ttl = none ∧ .lost k c now ttl ∈ w.pool.history) ∨
      ∃ why, ⟨why, k, c⟩ ∈ gone) ∧
    w.pool.counters.opened = w.pool.handles.length ∧
    w.pool.counters.pruned = Departure.countFor gone .pruned ∧
    w.pool.counters.evicted = Departure.countFor gone .evicted ∧
    w.pool.counters.closed + w.pool.counters.closeFailed =
      Departure.countFor gone .pruned + Departure.countFor gone .evicted +
        Departure.countFor gone .replaced +
        (Departure.countFor gone .cancelled + Departure.countFor gone .broken) +
        Departure.countFor gone .drained + Departure.countFor gone .abandoned := by
  intro gone
  have hs : w.Passes w.custody := Passes.rest hw
  have hcounts (x : Tally) : w.pool.counters.count x = w.pool.meters.totals.count x :=
    hs.count_of_not_mem hreset x
  have hreads : w.pool.meters.Reads (opened w.pool.history).card (closed w.pool.history).card :=
    hw.counted
  have hreason (x : Tally) : w.pool.counters.count x = tallies w.pool.history x :=
    (hcounts x).trans (hs.tallied.meters x)
  refine ⟨fun d => hw.exists_removal, hw.balanced.nodup_departures hw.told,
    fun k c => hw.whereabouts, ?_, ?_, ?_, ?_⟩
  · have hnumbers := congrArg Multiset.card hw.balanced.numbers
    rw [Multiset.card_map, Multiset.card_range] at hnumbers
    exact (hcounts .opened).trans (hreads.opened.trans hnumbers)
  · exact (hreason .pruned).trans (tallies_eq_countFor rfl _)
  · exact (hreason .evicted).trans (tallies_eq_countFor rfl _)
  · have hclosed : w.pool.counters.closed = w.pool.meters.totals.closed := hcounts .closed
    have hfailed : w.pool.counters.closeFailed = w.pool.meters.totals.closeFailed :=
      hcounts .closeFailed
    have hgone : (closed w.pool.history).card = gone.length := hw.told.card_closed
    have hdisplaced : Departure.countFor gone .displaced = 0 := hs.undisplaced.countFor
    rw [hclosed, hfailed, hreads.closed, hgone, Departure.length_eq, hdisplaced, add_zero]

/-- A connection makes room for another, whose time comes later. -/
theorem IsReachable.removals_accounted_evicting :
    let w := (World.init { maxConnections := some 1 } false).after
      [.start (.lease { database := "a", ttl := ⟨5⟩ } "first"), .settle "first" .release,
        .start (.lease { database := "b", ttl := ⟨5⟩ } "second"), .settle "second" .release, .tick,
        .command .prune]
    w.pool.counters.opened = 2 ∧ w.pool.counters.pruned = 1 ∧ w.pool.counters.evicted = 1 ∧
      ∃ v s t, w.HasDone v s t ∧ Removes v.now s t ⟨.evicted, "a", 0⟩ := by
  intro w
  have hw : w.IsReachable := ⟨_, _, _, _, rfl⟩
  have hall : w.pool.history.all (fun e => !e.isReset) = true := rfl
  have hreset : .countersReset ∉ w.pool.history :=
    fun h => Bool.noConfusion (List.all_eq_true.mp hall _ h)
  obtain ⟨hcause, -, -, hopened, hpruned, hevicted, -⟩ := hw.removals_accounted hreset
  have hgone : departures w.pool.history = [⟨.pruned, "b", 1⟩, ⟨.evicted, "a", 0⟩] := rfl
  have hmem : ⟨.evicted, "a", 0⟩ ∈ departures w.pool.history :=
    hgone ▸ List.mem_cons_of_mem _ (List.mem_singleton_self _)
  rw [hgone] at hpruned hevicted
  obtain ⟨v, s, t, hdone, -, -, -, hremoves⟩ := hcause _ hmem
  exact ⟨hopened, hpruned, hevicted, v, s, t, hdone, hremoves⟩

end World

end KeyedPool
