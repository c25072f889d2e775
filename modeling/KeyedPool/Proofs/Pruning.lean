import KeyedPool.Proofs.Closing
import KeyedPool.Proofs.Refusal
import KeyedPool.Proofs.Shedding

/-!
# Pruning is exact

To prune a pool is to walk its table and to collect what has expired, then to take that out of the
table, and then to close it, one connection after the other. Between the first and the last of these
nothing may be lost, taken twice or taken in another's place, whatever the order of the walk and
however the closings turn out. So this is told of the records as a whole: what is taken out is
what was idle, not persistent and expired when the walk began, and everything else is as it was.

It follows that pruning again finds nothing until time has gone by, and that pruning twice comes to
the same as pruning once at the later time. For a record that has expired stays expired.

* `KeyedPool.Counters.HasPruned`: what counters gain when connections are pruned.
* `KeyedPool.Pool.prune_fst`, `KeyedPool.Pool.history_prune` and others: what pruning does.
* `KeyedPool.Pool.prune_exact`: pruning is exact, in every pool.
-/

namespace KeyedPool

open Custody History

variable {now later : Instant}

/-- What has expired stays so. -/
theorem Record.isPrunable_mono (h : now ≤ later) {r : Record} (hr : r.isPrunable now = true) :
    r.isPrunable later = true := by
  simp only [isPrunable, isExpired, Bool.and_eq_true, decide_eq_true_eq] at hr ⊢
  exact ⟨hr.1, Nat.le_trans hr.2 h⟩

theorem Record.isPrunable_iff {r : Record} :
    r.isPrunable now = true ↔ r.busy = false ∧ r.persistent = false ∧ r.expiresAt ≤ now := by
  simp [isPrunable, isReclaimable, isExpired, and_assoc]

/-- A table that has lost some records, and then loses more, has lost all of these. -/
theorem Table.without_without {t : Table} {which which' : Record → Bool}
    (h : ∀ r, which r = true → which' r = true) :
    (t.without which).without which' = t.without which' := by
  refine Table.ext ?_ rfl
  simp only [without, List.filter_filter]
  refine List.filter_congr fun e _ => ?_
  rcases e with ⟨k, _ | r⟩
  · rfl
  · cases hw : which r with
    | false => simp [Slot.holds, Slot.record?, hw]
    | true => simp [Slot.holds, Slot.record?, hw, h r hw]

/-- **What counters gain when some connections are pruned**: all of them count as pruned, and each
as closed or not closed. -/
structure Counters.HasPruned (c c' : Counters) (n : Nat) : Prop where
  /-- They were pruned. -/
  pruned : c'.pruned = c.pruned + n
  /-- They were closed, with or without success. -/
  closings : c'.closed + c'.closeFailed = c.closed + c.closeFailed + n
  /-- None was opened. -/
  opened : c'.opened = c.opened
  /-- None was evicted. -/
  evicted : c'.evicted = c.evicted

theorem Counters.hasPruned_closing (c : Counters) (stuck : Nat → Bool) {ds : List Departure}
    (hds : ∀ d ∈ ds, d.why = .pruned) : c.HasPruned (c.closing stuck ds) ds.length := by
  have hall : ds.countP (·.why = .pruned) = ds.length :=
    List.countP_eq_length.mpr fun d hd => decide_eq_true (hds d hd)
  have hnone : ds.countP (·.why = .evicted) = 0 :=
    List.countP_eq_zero.mpr fun d hd => by simp [hds d hd]
  have hsum := List.length_eq_countP_add_countP (fun d : Departure => stuck d.connection) (l := ds)
  refine ⟨congrArg (_ + ·) hall, ?_, rfl, congrArg (_ + ·) hnone⟩
  simp only [closing, decide_not, Bool.decide_eq_true] at hsum ⊢
  omega

namespace Pool

variable {p : Pool}

/-! ### What pruning does -/

/-- Pruning tells how many records are taken out of the table. -/
theorem prune_fst : (p.prune now).1 = (p.table.having (Record.isPrunable now)).card := by
  have h := congrArg Multiset.card (p.coe_takeLive .pruned (Record.isPrunable now))
  rw [Multiset.card_map] at h
  exact h

/-- Every connection is closed as often as a record of it is taken out. -/
theorem getElem?_handles_prune (c : Nat) :
    (p.prune now).2.handles[c]? = p.handles[c]?.map
      (·.closings (((p.table.having (Record.isPrunable now)).map (·.2.connection)).count c)) := by
  have hcount :
      (((p.takeLive .pruned (Record.isPrunable now)).1).map Departure.connection).count c =
        ((p.table.having (Record.isPrunable now)).map (·.2.connection)).count c := by
    have h := congrArg (Multiset.map Departure.connection)
      (p.coe_takeLive .pruned (Record.isPrunable now))
    rw [Multiset.map_map, Multiset.map_coe] at h
    rw [← Multiset.coe_count, h]
    rfl
  rw [← hcount, prune]
  dsimp only
  split <;> exact getElem?_handles_retireAll c

/-- That they are closed is written down once for each record. -/
theorem history_prune (hp : p.IsStocked) :
    ∃ since, (p.prune now).2.history = since ++ p.history ∧
      closed since =
        (p.table.having (Record.isPrunable now)).map fun e => (e.1, e.2.connection) := by
  obtain ⟨since, hsince, hclosed⟩ :=
    history_retireAll (hp.takeLive .pruned (Record.isPrunable now))
  have hgone : closed since =
      (p.table.having (Record.isPrunable now)).map fun e => (e.1, e.2.connection) := by
    have h := congrArg (Multiset.map Departure.left)
      (p.coe_takeLive .pruned (Record.isPrunable now))
    rw [Multiset.map_map, Multiset.map_coe] at h
    exact hclosed.trans h
  rw [prune]
  dsimp only
  split
  · exact ⟨since, hsince, hgone⟩
  · refine ⟨.pruned _ :: since, congrArg _ hsince, ?_⟩
    rw [closed_cons, hgone]
    exact zero_add _

/-- Counters and meters count them. -/
theorem counters_prune (hp : p.IsStocked) :
    p.counters.HasPruned (p.prune now).2.counters (p.prune now).1 ∧
      p.meters.totals.HasPruned (p.prune now).2.meters.totals (p.prune now).1 := by
  have hwhy : ∀ d ∈ (p.takeLive .pruned (Record.isPrunable now)).1, d.why = .pruned :=
    fun d hd => (mem_takeLive hd).1
  obtain ⟨hcounters, hmeters⟩ := counters_retireAll (hp.takeLive .pruned (Record.isPrunable now))
  have hboth := And.intro (Counters.hasPruned_closing p.counters p.isStuck hwhy)
    (Counters.hasPruned_closing p.meters.totals p.isStuck hwhy)
  rw [prune]
  dsimp only
  split
  · rw [hcounters, hmeters]
    exact hboth
  · rw [counters_note, meters_note, hcounters, hmeters]
    exact hboth

/-- **Pruning again at the same time finds nothing.** -/
theorem prune_prune : (p.prune now).2.prune now = (0, (p.prune now).2.walked) := by
  have hnone : ∀ k r, (p.prune now).2.table.find? k = some (.live r) →
      r.isPrunable now = false := by
    intro k r hr
    rw [table_prune, Table.find?_without, Option.filter_eq_some_iff] at hr
    simpa [Slot.holds, Slot.record?] using hr.2
  have htake : (p.prune now).2.takeLive .pruned (Record.isPrunable now) =
      ([], (p.prune now).2.walked) := by
    rw [takeLive, Table.recordsAlong_eq_nil hnone, Table.without_eq_self hnone]
    rfl
  rw [prune, htake]
  rfl

/-- **Pruning twice comes to the same as pruning once**, at the later time. -/
theorem prune_later (h : now ≤ later) :
    ((p.prune now).2.prune later).2.table = (p.prune later).2.table ∧
      (p.prune now).1 + ((p.prune now).2.prune later).1 = (p.prune later).1 := by
  have htable : ((p.prune now).2.prune later).2.table = (p.prune later).2.table := by
    rw [table_prune, table_prune, table_prune]
    exact Table.without_without fun r => Record.isPrunable_mono h
  refine ⟨htable, ?_⟩
  -- the records that are taken out are those by which the table becomes smaller
  have hsize (q : Pool) (t : Instant) :
      (q.prune t).2.table.size + (q.prune t).1 = q.table.size := by
    rw [table_prune, prune_fst, Table.size_without_add]
  have hfirst := hsize p now
  have hsecond := hsize (p.prune now).2 later
  have hboth := hsize p later
  rw [htable] at hsecond
  omega

/-- **Pruning is exact**, in every pool whose records have connections, at any time and whatever
connections cannot be closed.

A slot is taken out of the table if and only if it is the record of a connection that is idle, not
persistent and expired, be it at this very instant; every other slot is as it was. The connections
of these records are closed, once for each record, and no others are: so once, unless two records
share a connection. As many connections as leave the table are reported, counted as pruned, and
counted as closed or not closed.

Whoever prunes again at the same time finds nothing and changes nothing. And to prune at two times
with nothing in between leaves the table that pruning at the later time alone would leave, and
reports as many connections altogether. -/
theorem prune_exact (hp : p.IsStocked) (now : Instant) :
    let n := (p.prune now).1
    let q := (p.prune now).2
    let gone := p.table.having (Record.isPrunable now)
    (∀ k s, q.table.find? k = some s ↔ p.table.find? k = some s ∧
      ¬∃ r, s = .live r ∧ r.busy = false ∧ r.persistent = false ∧ r.expiresAt ≤ now) ∧
    q.table.nextGeneration = p.table.nextGeneration ∧
    (∀ k r, (k, r) ∈ gone →
      (∀ k' r', p.table.find? k' = some (.live r') → r'.connection = r.connection → k' = k) →
      ∃ h, p.handles[r.connection]? = some h ∧ q.handles[r.connection]? = some h.close.2) ∧
    (∀ c : Nat, q.handles[c]? =
      p.handles[c]?.map (·.closings ((gone.map (·.2.connection)).count c))) ∧
    (∃ since, q.history = since ++ p.history ∧
      closed since = gone.map fun e => (e.1, e.2.connection)) ∧
    n = gone.card ∧ q.table.size + n = p.table.size ∧
    p.counters.HasPruned q.counters n ∧ p.meters.totals.HasPruned q.meters.totals n ∧
    q.prune now = (0, q.walked) ∧
    ∀ later, now ≤ later → (q.prune later).2.table = (p.prune later).2.table ∧
      n + (q.prune later).1 = (p.prune later).1 := by
  intro n q gone
  refine ⟨fun k s => ?_, ?_, fun k r hr halone => ?_, getElem?_handles_prune, history_prune hp,
    prune_fst, ?_, (counters_prune hp).1, (counters_prune hp).2, prune_prune,
    fun later => prune_later⟩
  · simp only [q, table_prune, Table.find?_without, Option.filter_eq_some_iff]
    refine and_congr_right fun _ => ?_
    cases s with
    | opening => simp [Slot.holds, Slot.record?]
    | live r => simp [Slot.holds, Slot.record?, ← Record.isPrunable_iff]
  · simp only [q, table_prune, Table.nextGeneration_without]
  · obtain ⟨hlive, -⟩ := Table.mem_having.mp hr
    have hone : (gone.map (·.2.connection)).count r.connection = 1 := Table.count_having hr halone
    refine ⟨_, List.getElem?_eq_getElem (hp k r hlive), ?_⟩
    rw [getElem?_handles_prune, hone, List.getElem?_eq_getElem (hp k r hlive)]
    rfl
  · simp only [q, n, table_prune, prune_fst]
    exact Table.size_without_add _ _

/-- One connection is idle and expired and cannot be closed, the other is persistent. -/
theorem prune_exact_stuck :
    let w := (World.init {} false).after
      [.start (.lease { database := "a", ttl := ⟨5⟩ } "first"), .settle "first" .release,
        .start (.lease { database := "b", ttl := ⟨5⟩, persistent := true } "second"),
        .settle "second" .release, .flags 0 none none (some true), .tick]
    (w.pool.prune w.now).1 = 1 ∧ (w.pool.prune w.now).2.table.size = 1 ∧
      (w.pool.prune w.now).2.counters.closeFailed = 1 := by
  intro w
  have hw : w.IsReachable := ⟨_, _, _, _, rfl⟩
  have hp : w.pool.IsStocked := World.Passes.isStocked (.rest hw)
  obtain ⟨-, -, -, -, -, hn, hsize, hcounters, -⟩ := prune_exact hp w.now
  have hone : (w.pool.prune w.now).1 = 1 := hn.trans rfl
  have htotal : w.pool.table.size = 2 := rfl
  have hclosed : (w.pool.prune w.now).2.counters.closed = 0 := rfl
  have hboth := hcounters.closings
  rw [hone, hclosed, Nat.zero_add] at hboth
  exact ⟨hone, by omega, hboth⟩

end Pool

end KeyedPool
