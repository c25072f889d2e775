import KeyedPool.Proofs.Pruning

/-!
# Eviction is exact

To evict is to look through the whole table for what may be taken, to choose, and then to take out
of the table what was chosen, by its name. The choice is a minimum over the walk, and a walk goes in
any order. So what an eviction does is told of the table: it takes one record, which nothing that
may be taken has been unused for longer than, and when it takes none then there was none to take.

As long as nothing else happens, one eviction leaves to the next what it has not taken itself, and
so evictions in a row take everything that may be taken, each record once, in the order in which the
records were last used. It is a sort by selection, and is proved like one. Records that were last
used at the same time may come in either order.

* `KeyedPool.Pool.evictions`: evictions in a row.
* `KeyedPool.Pool.HasEvicted`: some records were evicted, and nothing else was done.
* `KeyedPool.Pool.evict_cases`: what an eviction does.
* `KeyedPool.Pool.exists_evictions`: what evictions in a row do.
* `KeyedPool.Pool.evict_exact`: eviction is exact, in every pool.
-/

namespace KeyedPool

open Custody History

theorem Record.isReclaimable_iff {r : Record} :
    r.isReclaimable = true ↔ r.busy = false ∧ r.persistent = false := by
  simp [isReclaimable]

/-- What a table has without one of its records is what it had, less the record. -/
theorem Table.having_erase {t : Table} {which : Record → Bool} {e : String × Record}
    (he : e ∈ t.having which) : (t.erase e.1).having which = (t.having which).erase e := by
  have hnodup := (nodup_having t which).of_map
  refine (Multiset.Nodup.ext (nodup_having _ which).of_map (hnodup.erase e)).mpr ?_
  rintro ⟨k, r⟩
  rw [hnodup.mem_erase_iff, mem_having, mem_having, find?_erase]
  by_cases hk : k = e.1
  · have hsame : t.find? k = some (.live r) → (k, r) = e := by
      intro hr
      obtain ⟨hr', -⟩ := mem_having.mp he
      rw [← hk, hr] at hr'
      cases hr'
      exact Prod.ext hk rfl
    simp only [if_pos hk, reduceCtorEq, false_and, false_iff]
    exact fun h => h.1 (hsame h.2.1)
  · have hother : (k, r) ≠ e := fun h => hk (congrArg Prod.fst h)
    rw [if_neg hk, and_iff_right hother]

/-- **What counters gain when some connections are evicted**: all of them count as evicted, and each
as closed or not closed. -/
structure Counters.HasEvicted (c c' : Counters) (n : Nat) : Prop where
  /-- They were evicted. -/
  evicted : c'.evicted = c.evicted + n
  /-- They were closed, with or without success. -/
  closings : c'.closed + c'.closeFailed = c.closed + c.closeFailed + n
  /-- None was opened. -/
  opened : c'.opened = c.opened
  /-- None was pruned. -/
  pruned : c'.pruned = c.pruned

namespace Counters

variable {c c' c'' : Counters} {m n : Nat}

theorem HasEvicted.refl (c : Counters) : c.HasEvicted c 0 := ⟨rfl, rfl, rfl, rfl⟩

theorem HasEvicted.trans (h : c.HasEvicted c' m) (h' : c'.HasEvicted c'' n) :
    c.HasEvicted c'' (m + n) where
  evicted := by rw [h'.evicted, h.evicted, Nat.add_assoc]
  closings := by rw [h'.closings, h.closings, Nat.add_assoc]
  opened := h'.opened.trans h.opened
  pruned := h'.pruned.trans h.pruned

theorem hasEvicted_closing (c : Counters) (stuck : Nat → Bool) {d : Departure}
    (hd : d.why = .evicted) : c.HasEvicted (c.closing stuck [d]) 1 := by
  refine ⟨?_, ?_, rfl, ?_⟩
  · simp [closing, hd]
  · cases hs : stuck d.connection <;> simp [closing, hs] <;> omega
  · simp [closing, hd]

end Counters

namespace Pool

variable {p q u : Pool} {e : String × Record} {es es' : List (String × Record)}

/-- Evictions in a row, with the databases that they tell. -/
def evictions (p : Pool) : Nat → List (Option String) × Pool
  | 0 => ([], p)
  | n + 1 =>
    let first := p.evict
    let others := first.2.evictions n
    (first.1 :: others.1, others.2)

/-- **Some records were evicted**, and nothing else was done. -/
structure HasEvicted (p : Pool) (es : List (String × Record)) (q : Pool) : Prop where
  /-- Their slots are gone, the others are as they were. -/
  slots : ∀ k, q.table.find? k = if k ∈ es.map Prod.fst then none else p.table.find? k
  /-- No generation was used up. -/
  generation : q.table.nextGeneration = p.table.nextGeneration
  /-- Every connection was closed as often as it was on one of these records. -/
  handles : ∀ c : Nat, q.handles[c]? =
    p.handles[c]?.map (·.closings ((es.map (·.2.connection)).count c))
  /-- That they were closed is written down. -/
  history : ∃ since, q.history = since ++ p.history ∧
    closed since = ↑(es.map fun e => (e.1, e.2.connection))
  /-- The counters count them. -/
  counters : p.counters.HasEvicted q.counters es.length
  /-- The meters count them. -/
  meters : p.meters.totals.HasEvicted q.meters.totals es.length
  /-- The settings are as they were. -/
  settings : q.settings = p.settings

namespace HasEvicted

theorem refl (p : Pool) : p.HasEvicted [] p where
  slots _ := rfl
  generation := rfl
  handles _ := by simp
  history := ⟨[], rfl, rfl⟩
  counters := .refl _
  meters := .refl _
  settings := rfl

theorem trans (h : p.HasEvicted es q) (h' : q.HasEvicted es' u) : p.HasEvicted (es ++ es') u where
  slots k := by
    rw [h'.slots, h.slots, List.map_append]
    by_cases hk : k ∈ es.map Prod.fst <;> by_cases hk' : k ∈ es'.map Prod.fst <;> simp [hk, hk']
  generation := h'.generation.trans h.generation
  handles c := by
    rw [h'.handles, h.handles, Option.map_map, List.map_append, List.count_append]
    refine congrFun (congrArg _ (funext fun x => ?_)) _
    rw [Function.comp_apply, Handle.closings, Handle.closings, Handle.closings, Nat.add_comm,
      Function.iterate_add_apply]
  history := by
    obtain ⟨since, hsince, hclosed⟩ := h.history
    obtain ⟨since', hsince', hclosed'⟩ := h'.history
    refine ⟨since' ++ since, by rw [hsince', hsince, List.append_assoc], ?_⟩
    rw [closed_append, hclosed, hclosed', List.map_append, ← Multiset.coe_add, add_comm]
  counters := by
    rw [List.length_append]
    exact h.counters.trans h'.counters
  meters := by
    rw [List.length_append]
    exact h.meters.trans h'.meters
  settings := h'.settings.trans h.settings

/-- A pool can still close what it has. -/
theorem isStocked (h : p.HasEvicted es q) (hp : p.IsStocked) : q.IsStocked := by
  intro k r hr
  rw [h.slots] at hr
  split at hr
  · cases hr
  · have hopen := h.handles r.connection
    rw [List.getElem?_eq_getElem (hp k r hr)] at hopen
    exact (List.getElem?_eq_some_iff.mp hopen).1

end HasEvicted

/-! ### One eviction -/

/-- The record that is taken is one of those that may be, and none of these has been unused for
longer. -/
theorem takeOldest_cases (p : Pool) :
    (p.table.having Record.isReclaimable = 0 ∧ p.takeOldest = (none, p.walked)) ∨
      ∃ e ∈ p.table.having Record.isReclaimable,
        (∀ x ∈ p.table.having Record.isReclaimable, e.2.lastUsedAt ≤ x.2.lastUsedAt) ∧
        p.takeOldest =
          (some ⟨.evicted, e.1, e.2.connection⟩, p.walked.withTable (p.table.erase e.1)) := by
  have hwalk : ↑(p.table.recordsAlong p.order Record.isReclaimable) =
      p.table.having Record.isReclaimable := Table.coe_recordsAlong p.order_perm
  rw [takeOldest]
  split
  · rename_i hnone
    rw [Table.oldest?_eq_none_iff.mp hnone] at hwalk
    exact .inl ⟨hwalk.symm, rfl⟩
  · rename_i e he
    rw [← hwalk]
    exact .inr ⟨e, Table.mem_of_oldest? he, fun x hx => Table.lastUsedAt_oldest?_le he hx, rfl⟩

/-- To close a record that has left the table is all that remains of its eviction. -/
theorem hasEvicted_retire (hp : p.IsStocked) (he : e ∈ p.table.having Record.isReclaimable) :
    p.HasEvicted [e]
      ((p.walked.withTable (p.table.erase e.1)).retire ⟨.evicted, e.1, e.2.connection⟩).2 := by
  have hopen : ∀ d ∈ [(⟨.evicted, e.1, e.2.connection⟩ : Departure)],
      d.connection < (p.walked.withTable (p.table.erase e.1)).handles.length := by
    intro d hd
    cases List.mem_singleton.mp hd
    exact hp e.1 e.2 (Table.mem_having.mp he).1
  obtain ⟨hcounters, hmeters⟩ := counters_retireAll hopen
  refine ⟨fun k => ?_, ?_, fun c => ?_, history_retireAll hopen, ?_, ?_, ?_⟩
  · simp only [table_retire, table_withTable, Table.find?_erase, List.map_singleton,
      List.mem_singleton]
  · rw [table_retire]
    rfl
  · rw [getElem?_handles_retire, List.map_singleton, List.count_singleton]
    by_cases hc : e.2.connection = c <;> simp [hc]
  · exact hcounters ▸ Counters.hasEvicted_closing p.counters _ rfl
  · exact congrArg Meters.totals hmeters ▸ Counters.hasEvicted_closing p.meters.totals _ rfl
  · rw [settings_retire]
    rfl

/-- **What an eviction does**: nothing when no record may be taken, else it takes the one that has
been unused for the longest time. -/
theorem evict_cases (hp : p.IsStocked) :
    (p.table.having Record.isReclaimable = 0 ∧ p.evict = (none, p.walked)) ∨
      ∃ e ∈ p.table.having Record.isReclaimable,
        (∀ x ∈ p.table.having Record.isReclaimable, e.2.lastUsedAt ≤ x.2.lastUsedAt) ∧
        p.evict.1 = some e.1 ∧ p.HasEvicted [e] p.evict.2 := by
  rcases p.takeOldest_cases with ⟨hnone, htake⟩ | ⟨e, he, holdest, htake⟩
  · exact .inl ⟨hnone, by rw [evict, htake]⟩
  · refine .inr ⟨e, he, holdest, ?_⟩
    rw [evict, htake]
    exact ⟨rfl, hasEvicted_retire hp he⟩

/-- Nobody may be taken if and only if everybody is in use or persistent. -/
theorem having_isReclaimable_eq_zero_iff :
    p.table.having Record.isReclaimable = 0 ↔
      ∀ k r, p.table.find? k = some (.live r) → r.busy = true ∨ r.persistent = true := by
  rw [Multiset.eq_zero_iff_forall_notMem]
  constructor
  · intro h k r hr
    have hout : r.isReclaimable ≠ true := fun hw => h (k, r) (Table.mem_having.mpr ⟨hr, hw⟩)
    rw [Ne, Record.isReclaimable_iff, not_and_or, Bool.not_eq_false, Bool.not_eq_false] at hout
    exact hout
  · rintro h ⟨k, r⟩ hmem
    obtain ⟨hr, hw⟩ := Table.mem_having.mp hmem
    obtain ⟨hidle, htransient⟩ := Record.isReclaimable_iff.mp hw
    rcases h k r hr with hbusy | hpersistent
    · exact Bool.false_ne_true (hidle.symm.trans hbusy)
    · exact Bool.false_ne_true (htransient.symm.trans hpersistent)

/-! ### Evictions in a row -/

/-- An eviction leaves to the next what it has not taken itself. -/
theorem HasEvicted.having (h : p.HasEvicted [e] q)
    (he : e ∈ p.table.having Record.isReclaimable) :
    q.table.having Record.isReclaimable = (p.table.having Record.isReclaimable).erase e := by
  rw [← Table.having_erase he]
  refine (Multiset.Nodup.ext (Table.nodup_having _ _).of_map (Table.nodup_having _ _).of_map).mpr ?_
  rintro ⟨k, r⟩
  simp only [Table.mem_having, h.slots, Table.find?_erase, List.map_singleton, List.mem_singleton]

/-- **Evictions in a row take everything that may be taken**, in the order of last use. -/
theorem exists_evictions (hp : p.IsStocked) :
    ∃ es : List (String × Record), ↑es = p.table.having Record.isReclaimable ∧
      es.Pairwise (·.2.lastUsedAt ≤ ·.2.lastUsedAt) ∧
      (p.evictions es.length).1 = es.map (some ·.1) ∧
      p.HasEvicted es (p.evictions es.length).2 := by
  induction hn : (p.table.having Record.isReclaimable).card generalizing p with
  | zero => exact ⟨[], (Multiset.card_eq_zero.mp hn).symm, .nil, rfl, .refl p⟩
  | succ n ih =>
    rcases evict_cases hp with ⟨hnone, -⟩ | ⟨e, he, holdest, hname, hevicted⟩
    · rw [hnone] at hn
      cases hn
    · have hleft := hevicted.having he
      obtain ⟨es, hes, hsorted, hnames, hall⟩ := ih (hevicted.isStocked hp) (by
        rw [hleft, Multiset.card_erase_of_mem he, hn, Nat.pred_succ])
      refine ⟨e :: es, ?_, List.pairwise_cons.mpr ⟨fun x hx => ?_, hsorted⟩, ?_, ?_⟩
      · rw [← Multiset.cons_coe, hes, hleft, Multiset.cons_erase he]
      · have hx : x ∈ p.evict.2.table.having Record.isReclaimable := by
          rw [← hes]
          exact hx
        exact holdest x (Multiset.mem_of_mem_erase (hleft ▸ hx))
      · rw [List.length_cons, evictions, List.map_cons, ← hnames, ← hname]
      · exact hevicted.trans hall

/-- When everything was evicted that may be, nothing is left to take. -/
theorem HasEvicted.evict_eq (h : p.HasEvicted es q) (hp : p.IsStocked)
    (hes : ↑es = p.table.having Record.isReclaimable) : q.evict = (none, q.walked) := by
  rcases evict_cases (h.isStocked hp) with ⟨-, hnone⟩ | ⟨⟨k, r⟩, he, -⟩
  · exact hnone
  · obtain ⟨hr, hw⟩ := Table.mem_having.mp he
    rw [h.slots] at hr
    split at hr
    · cases hr
    · rename_i hout
      have hmem : (k, r) ∈ es := by
        rw [← Multiset.mem_coe, hes]
        exact Table.mem_having.mpr ⟨hr, hw⟩
      exact absurd (List.mem_map_of_mem hmem) hout

/-- **Eviction is exact**, in every pool whose records have connections, and whatever connections
cannot be closed.

It tells no database if and only if every record is in use or persistent, and then it does nothing
but walk over the table. Else it tells the database of a record that is idle and not persistent, and
that none of these has been unused for longer than. This record leaves the table, every other slot
is as it was, its connection is closed once and no other is, and one eviction is counted.

So evictions in a row, with nothing in between, tell the databases of all records that are idle and
not persistent, each of them once, and in the order in which these were last used. When all are
gone, the slots in use, persistent or being opened are as they were, and one more eviction does
nothing. -/
theorem evict_exact (hp : p.IsStocked) :
    (p.evict.1 = none ↔
      ∀ k r, p.table.find? k = some (.live r) → r.busy = true ∨ r.persistent = true) ∧
    (p.evict.1 = none → p.evict.2 = p.walked) ∧
    (∀ k, p.evict.1 = some k → ∃ r, p.table.find? k = some (.live r) ∧
      r.busy = false ∧ r.persistent = false ∧
      (∀ k' r', p.table.find? k' = some (.live r') → r'.busy = false → r'.persistent = false →
        r.lastUsedAt ≤ r'.lastUsedAt) ∧
      p.HasEvicted [(k, r)] p.evict.2) ∧
    ∃ es : List (String × Record),
      let n := es.length
      let q := (p.evictions n).2
      (∀ k r, (k, r) ∈ es ↔
        p.table.find? k = some (.live r) ∧ r.busy = false ∧ r.persistent = false) ∧
      (es.map Prod.fst).Nodup ∧
      es.Pairwise (·.2.lastUsedAt ≤ ·.2.lastUsedAt) ∧
      (p.evictions n).1 = es.map (some ·.1) ∧
      p.HasEvicted es q ∧
      (∀ k s, q.table.find? k = some s ↔ p.table.find? k = some s ∧
        ¬∃ r, s = .live r ∧ r.busy = false ∧ r.persistent = false) ∧
      q.evict = (none, q.walked) := by
  refine ⟨?_, fun hnone => ?_, fun k hk => ?_, ?_⟩
  · rw [← having_isReclaimable_eq_zero_iff]
    rcases evict_cases hp with ⟨hzero, hevict⟩ | ⟨e, he, -, hname, -⟩
    · simp [hzero, hevict]
    · have hsome : p.table.having Record.isReclaimable ≠ 0 := fun h =>
        Multiset.notMem_zero e (h ▸ he)
      simp [hname, hsome]
  · rcases evict_cases hp with ⟨-, hevict⟩ | ⟨e, -, -, hname, -⟩
    · rw [hevict]
    · rw [hnone] at hname
      cases hname
  · rcases evict_cases hp with ⟨-, hevict⟩ | ⟨⟨k', r⟩, he, holdest, hname, hevicted⟩
    · rw [hevict] at hk
      cases hk
    · cases hname.symm.trans hk
      obtain ⟨hr, hw⟩ := Table.mem_having.mp he
      obtain ⟨hidle, htransient⟩ := Record.isReclaimable_iff.mp hw
      refine ⟨r, hr, hidle, htransient, fun k' r' hr' hidle' htransient' => ?_, hevicted⟩
      exact holdest (k', r') (Table.mem_having.mpr
        ⟨hr', Record.isReclaimable_iff.mpr ⟨hidle', htransient'⟩⟩)
  · obtain ⟨es, hes, hsorted, hnames, hall⟩ := exists_evictions hp
    have hmem (k : String) (r : Record) : (k, r) ∈ es ↔
        p.table.find? k = some (.live r) ∧ r.busy = false ∧ r.persistent = false := by
      rw [← Multiset.mem_coe, hes, Table.mem_having, Record.isReclaimable_iff]
    have hnodup : (es.map Prod.fst).Nodup := by
      rw [← Multiset.coe_nodup, ← Multiset.map_coe, hes]
      exact Table.nodup_having _ _
    refine ⟨es, hmem, hnodup, hsorted, hnames, hall, fun k s => ?_, hall.evict_eq hp hes⟩
    rw [hall.slots]
    split
    · rename_i hk
      obtain ⟨⟨_, r⟩, hr, rfl⟩ := List.mem_map.mp hk
      obtain ⟨hlive, hwhich⟩ := (hmem _ r).mp hr
      simp only [reduceCtorEq, false_iff, not_and, not_not]
      intro hs
      cases hlive.symm.trans hs
      exact ⟨r, rfl, hwhich⟩
    · rename_i hk
      refine (and_iff_left_of_imp fun hs => ?_).symm
      rintro ⟨r, rfl, hwhich⟩
      exact hk (List.mem_map_of_mem (f := Prod.fst) ((hmem k r).mpr ⟨hs, hwhich⟩))

/-- Two connections are idle, of which one cannot be closed; the others are leased, persistent, and
being opened. -/
theorem evict_exact_stuck :
    let w := (World.init {} false).after
      [.start (.lease { database := "a", ttl := .ofMillis 5 } "first"),
        .tick, .start (.lease { database := "b", ttl := .ofMillis 5 } "second"),
        .settle "second" .release, .settle "first" .release, .flags 0 none none (some true),
        .start (.lease { database := "c", ttl := .ofMillis 5 } "third"),
        .start (.lease { database := "d", ttl := .ofMillis 5, persistent := true } "fourth"),
        .settle "fourth" .release, .plan "e" { delay := 1 },
        .start (.lease { database := "e", ttl := .ofMillis 5 } "fifth")]
    w.pool.evict.1 = some "a" ∧ w.pool.evict.2.table.find? "a" = none ∧
      w.pool.evict.2.counters.evicted = 1 ∧ w.pool.evict.2.counters.closeFailed = 1 ∧
      ∃ n, (w.pool.evictions n).2.evict.1 = none := by
  intro w
  have hw : w.IsReachable := ⟨_, _, _, _, rfl⟩
  have hp : w.pool.IsStocked := World.Passes.isStocked (.rest hw)
  obtain ⟨-, -, hsome, es, -, -, -, -, -, -, hnone⟩ := evict_exact hp
  have hname : w.pool.evict.1 = some "a" := rfl
  obtain ⟨r, -, -, -, -, hevicted⟩ := hsome "a" hname
  have hclosed : w.pool.evict.2.counters.closed = 0 := rfl
  have hboth := hevicted.counters.closings
  rw [hclosed, Nat.zero_add] at hboth
  exact ⟨hname, hevicted.slots "a", hevicted.counters.evicted, hboth, es.length,
    congrArg Prod.fst hnone⟩

end Pool

end KeyedPool
