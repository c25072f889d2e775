import KeyedPool.Proofs.Custody.Frame
import KeyedPool.Proofs.Emptying
import KeyedPool.Proofs.Generations
import KeyedPool.Proofs.Reuse

/-!
# Leases that last

A lease is a value, and others can have the same one after each other: when an idle connection is
leased again, its record keeps its generation, so nothing tells the new lease from the old one. So
that a lease lasts is not a matter of the leases that are held before and after. It is a matter of
the moves in between: they are made beside the lease, by those who do not have it.

While it lasts the lease is not ended, and no lease like it begins. Its record is left alone, flags
and dates included, unless the record leaves for good. What the end of the lease finds is therefore
what its beginning left, or nothing.

* `KeyedPool.Lease.Lasts`: a lease lasts from one pool to another.
* `KeyedPool.World.Holds`: so it does up to a state of a run, beside what the others have.
* `KeyedPool.World.Holds.moves`: others do not end it.
* `KeyedPool.Pool.Settles`: the lease ends, and what becomes of its connection.
* `KeyedPool.World.Holds.settles`: so it ends when it has lasted until then.
-/

namespace KeyedPool

open Custody History

namespace History

/-- The leases that began are those that have terms. -/
theorem begun_eq (h : List Entry) : begun h = ↑((terms h).map Term.lease) := by
  rw [begun, account, terms, List.map_filterMap]
  refine congrArg Multiset.ofList (List.filterMap_congr fun e _ => ?_)
  cases e <;> rfl

end History

/-! ### Others act -/

/-- **A lease lasts** from one pool to another: it has not ended since then, and if it has a record
this is the one that it had then. -/
structure Lease.Lasts (l : Lease) (p₀ p : Pool) : Prop where
  /-- The lease has not ended. -/
  unended : ∃ since, p.history = since ++ p₀.history ∧ l ∉ ended since
  /-- Its record is the same. -/
  record : ∀ r, p.table.find? l.database = some (.live r) → r.generation = l.generation →
    p₀.table.find? l.database = some (.live r)

/-- A lease lasts when nothing happens. -/
theorem Lease.Lasts.refl (l : Lease) (p : Pool) : l.Lasts p p :=
  ⟨⟨[], rfl, Multiset.notMem_zero l⟩, fun _ hr _ => hr⟩

/-- **Somebody holds a lease** that has lasted since some pool, beside what the others have. -/
structure World.Holds (w : World) (l : Lease) (p₀ : Pool) (s : Custody) : Prop where
  /-- The state is one of a run. -/
  passes : w.Passes { s with leases := l ::ₘ s.leases }
  /-- The lease has lasted. -/
  lasts : l.Lasts p₀ s.pool

/-- Nobody else has a lease that somebody has. -/
theorem World.Passes.notMem_leases {w : World} {l : Lease} {s : Custody}
    (hs : w.Passes { s with leases := l ::ₘ s.leases }) : l ∉ s.leases := by
  have honce : (Multiset.map Lease.connection (l ::ₘ s.leases)).Nodup := hs.exclusive.once
  rw [Multiset.map_cons, Multiset.nodup_cons] at honce
  exact fun hl => honce.1 (Multiset.mem_map_of_mem _ hl)

namespace World.Holds

variable {w : World} {l : Lease} {p₀ p : Pool} {s t : Custody} {L : Multiset Lease}
  {O : Multiset Opening} {r : Record}

theorem balanced (h : w.Holds l p₀ s) : s.Balanced :=
  ⟨h.passes.balanced.places, h.passes.balanced.connections, h.passes.balanced.numbers⟩

/-- The record of the lease is leased. -/
theorem busy (h : w.Holds l p₀ s) (hr : s.pool.table.find? l.database = some (.live r))
    (hg : r.generation = l.generation) : r.busy = true ∧ l.connection = r.connection :=
  h.passes.exclusive.of_mem (Multiset.mem_cons_self l _) hr hg

/-- A move of others is one beside the lease. -/
theorem passes_move (h : w.Holds l p₀ s) (hm : Move w.now s t) :
    w.Passes { t with leases := l ::ₘ t.leases } := by
  have hbeside := hm.beside {l} 0
  simp only [Custody.beside, Multiset.singleton_add, zero_add] at hbeside
  exact h.passes.move hbeside

/-- **No lease like it begins**, since one more would have to end. -/
theorem not_begun (h : w.Holds l p₀ s) (hm : Move w.now s t) :
    (begun t.pool.history).count l = (begun s.pool.history).count l := by
  have hbefore : l ∉ s.leases := h.passes.notMem_leases
  have hafter : l ∉ t.leases := (h.passes_move hm).notMem_leases
  obtain ⟨since, hsince, hended⟩ := hm.ends h.balanced
  have hbooked : begun s.pool.history = ended s.pool.history + l ::ₘ s.leases :=
    h.passes.booked_and_paid.1
  have hbooked' : begun t.pool.history = ended t.pool.history + l ::ₘ t.leases :=
    (h.passes_move hm).booked_and_paid.1
  have hnone : (ended since).count l = 0 :=
    Multiset.count_eq_zero.mpr fun hl => hbefore (Multiset.mem_of_le hended hl)
  rw [hbooked, hbooked', hsince, ended_append]
  simp only [Multiset.count_add, Multiset.count_cons_self, hnone, zero_add,
    Multiset.count_eq_zero.mpr hbefore, Multiset.count_eq_zero.mpr hafter]

/-- **A move of others leaves the record of the lease alone**, unless it leaves. -/
theorem record_before (h : w.Holds l p₀ s) (hm : Move w.now s t)
    (hr : t.pool.table.find? l.database = some (.live r)) (hg : r.generation = l.generation) :
    s.pool.table.find? l.database = some (.live r) := by
  have ht := h.passes_move hm
  have hbusy : r.busy = true ∧ l.connection = r.connection :=
    ht.exclusive.of_mem (Multiset.mem_cons_self l _) hr hg
  obtain ⟨r₁, hr₁, hg₁⟩ : l.IsMatched s.pool.table := by
    refine (hm.isMatched_before h.balanced ⟨r, hr, hg⟩).resolve_right fun hnew => ?_
    exact (h.passes.exclusive.leases l (Multiset.mem_cons_self l _)).ne hnew
  have hinherited (hinherits : t.pool.table.Inherits s.pool.table l.database) :
      s.pool.table.find? l.database = some (.live r) := by
    obtain ⟨r', hr', hsame⟩ := hinherits r hr
    cases hr'.symm.trans hr₁
    rw [Record.eq_of_rest hsame, hbusy.1, ← (h.busy hr₁ hg₁).1]
    exact hr₁
  rcases hm.terms h.balanced with ⟨-, hinherits⟩ | ⟨k, x, ttl, hx, -, -, hterms, hothers⟩
  · exact hinherited (hinherits _)
  · by_cases hk : l.database = k
    · -- a lease on its own record would be the same lease
      subst hk
      cases hx.symm.trans hr
      have hsame : (r.grant l.database).lease = l := by
        rw [Record.grant, hg, ← hbusy.2]
      have hcount := h.not_begun hm
      rw [begun_eq, begun_eq, hterms, List.map_cons, hsame, ← Multiset.cons_coe,
        Multiset.count_cons_self] at hcount
      exact absurd hcount (Nat.succ_ne_self _)
    · exact hinherited (hothers _ hk)

/-- **Others do not end the lease.** -/
theorem move (h : w.Holds l p₀ s) (hm : Move w.now s t) : w.Holds l p₀ t := by
  obtain ⟨since, hsince, hlasts⟩ := h.lasts.unended
  obtain ⟨new, hnew, hended⟩ := hm.ends h.balanced
  refine ⟨h.passes_move hm, ⟨⟨new ++ since, ?_, ?_⟩, fun r hr hg => ?_⟩⟩
  · rw [hnew, hsince, List.append_assoc]
  · rw [ended_append, Multiset.mem_add, not_or]
    exact ⟨fun hl => h.passes.notMem_leases (Multiset.mem_of_le hended hl), hlasts⟩
  · exact h.lasts.record r (h.record_before hm hr hg) hg

/-- **A lease lasts whatever others do.** -/
theorem moves (h : w.Holds l p₀ s) (hm : Moves w.now s t) : w.Holds l p₀ t := by
  induction hm with
  | refl => exact h
  | tail _ hmove ih => exact ih.move hmove

end World.Holds

/-! ### The lease ends -/

/-- **A lease ends that has lasted since a pool**, in another one, which is left as a third. -/
structure Pool.Settles (l : Lease) (how : Disposal) (p₀ p q : Pool) : Prop where
  /-- It ends so. -/
  settled : q = p.settle l how
  /-- It ends once. -/
  once : ∃ since, q.history = since ++ p₀.history ∧ (ended since).count l = 1
  /-- If it is not released or its connection is dead, its record is gone then, and the connection
  was closed, once in all. -/
  discarded : how ≠ .release ∨ p.isHealthy l.connection = false →
    ¬l.IsMatched q.table ∧ ∃ h, q.handles[l.connection]? = some h ∧ h.closeCalls = 1
  /-- Else its record is idle, if it is still there, and is otherwise as it was when the lease
  began; its connection was not closed. Nothing else changes. -/
  returned : how = .release → p.isHealthy l.connection = true → l.IsMatched p.table →
    (∃ r, p₀.table.find? l.database = some (.live r) ∧ r.generation = l.generation ∧
      q.table.find? l.database = some (.live r.rest)) ∧
    (∃ h, q.handles[l.connection]? = some h ∧ h.closeCalls = 0) ∧
    ∃ noted, q = { p with
      table := p.table.modify l.database Record.rest, history := noted ++ p.history }
  /-- If its record has left meanwhile, nothing changes at all, and the outside sees nothing. -/
  departed : ¬l.IsMatched p.table →
    ∃ noted, q = { p with history := noted ++ p.history } ∧ ∀ e ∈ noted, e.event? = none

namespace Pool

variable {p : Pool} {l : Lease}

/-- A lease that is released on a healthy connection leaves its record idle. -/
theorem settle_of_isMatched (hm : l.IsMatched p.table) (hh : p.isHealthy l.connection = true) :
    p.settle l .release = { p with
      table := p.table.modify l.database Record.rest
      history := [.released l, .leaseEnded l .release] ++ p.history } := by
  have hhealthy : (p.note (.leaseEnded l .release)).isHealthy l.connection = true := hh
  simp only [settle, hhealthy, if_true, returnIdle, table_note, Lease.isMatched_iff.mp hm]
  rfl

/-- A lease that ends otherwise takes its record with it. -/
theorem settle_of_discarded {how : Disposal}
    (h : how ≠ .release ∨ p.isHealthy l.connection = false) :
    ∃ why, p.settle l how = (p.note (.leaseEnded l how)).discard l why := by
  cases how with
  | release =>
    have hdead : (p.note (.leaseEnded l .release)).isHealthy l.connection = false :=
      h.resolve_left fun h => h rfl
    exact ⟨.broken, by simp only [settle, hdead]; rfl⟩
  | cancel => exact ⟨.cancelled, rfl⟩
  | drop => exact ⟨.cancelled, rfl⟩

end Pool

namespace World

variable {w : World} {l : Lease} {p₀ p : Pool} {L : Multiset Lease} {O : Multiset Opening}
  {how : Disposal}

/-- **The end of a lease is written down once.** -/
theorem Passes.ended_settle (hs : w.Passes ⟨p, l ::ₘ L, O, 0⟩) (how : Disposal) :
    ∃ new, (p.settle l how).history = new ++ p.history ∧ ended new = {l} := by
  have hmoves : Moves w.now ⟨p, l ::ₘ L, O, 0⟩ ⟨p.settle l how, L, O, 0⟩ := Pool.moves_settle l how
  obtain ⟨new, hnew⟩ := hs.suffix hmoves
  refine ⟨new, hnew.symm, ?_⟩
  have hbegun : begun (p.settle l how).history = begun p.history := by
    rw [begun_eq, begun_eq, terms_congr (Pool.milestones_settle l how)]
  have hbooked : begun p.history = ended p.history + l ::ₘ L := hs.booked_and_paid.1
  have hbooked' : begun (p.settle l how).history = ended (p.settle l how).history + L :=
    (hs.moves hmoves).booked_and_paid.1
  rw [hbegun, hbooked, ← hnew, ended_append, add_comm (ended new), add_assoc,
    ← Multiset.singleton_add] at hbooked'
  exact (add_right_cancel (add_left_cancel hbooked')).symm

/-- A lease that ends otherwise than by release on a healthy connection leaves no record behind,
and its connection is closed. -/
theorem Passes.settle_discarded (hs : w.Passes ⟨p, l ::ₘ L, O, 0⟩)
    (h : how ≠ .release ∨ p.isHealthy l.connection = false) :
    ¬l.IsMatched (p.settle l how).table ∧
      ∃ h, (p.settle l how).handles[l.connection]? = some h ∧ h.closeCalls = 1 := by
  have hq : w.Passes ⟨p.settle l how, L, O, 0⟩ := hs.moves (Pool.moves_settle l how)
  obtain ⟨why, heq⟩ := Pool.settle_of_discarded h
  have hgone : ¬l.IsMatched (p.settle l how).table ∧
      ∃ why, .removed why l.database l.connection ∈ (p.settle l how).history := by
    by_cases hm : l.IsMatched p.table
    · -- the record leaves now
      obtain ⟨r, hr, hg⟩ := hm
      have hc : l.connection = r.connection :=
        (hs.exclusive.of_mem (Multiset.mem_cons_self l L) hr hg).2
      have hrecord : (l.database, r.connection) ∈ p.table.connections :=
        Table.mem_connections.mpr ⟨r, hr, rfl⟩
      obtain ⟨handle, hh, -⟩ :=
        hs.told.exists_open_handle hs.balanced (Multiset.mem_add.mpr (.inl hrecord))
      rw [heq, Pool.discard_of_find? (p := p.note _) hr hg]
      refine ⟨?_, why, ?_⟩
      · rintro ⟨r', hr', -⟩
        simp at hr'
      · rw [Pool.history_retire hh, hc]
        exact List.mem_cons_of_mem _ List.mem_cons_self
    · -- it has left with all others
      rw [heq, Pool.discard_of_not_isMatched (p := p.note _) hm]
      refine ⟨hm, .drained, List.mem_cons_of_mem _ ?_⟩
      have hstray := (hs.exclusive.stray l (Multiset.mem_cons_self l L)).resolve_left hm
      exact hstray.resolve_right (Multiset.notMem_zero _)
  obtain ⟨hunmatched, why', hremoved⟩ := hgone
  have hclosed : (l.database, l.connection) ∈ closed (p.settle l how).history :=
    hq.told.removed ▸ mem_removed.mpr ⟨why', hremoved⟩
  exact ⟨hunmatched, (hq.closed_once (.within .refl) hclosed).1⟩

/-- **A lease that has lasted ends once**, and what it finds is what its beginning left. -/
theorem Holds.settles (h : w.Holds l p₀ ⟨p, L, O, 0⟩) (how : Disposal) :
    Pool.Settles l how p₀ p (p.settle l how) := by
  obtain ⟨since, hsince, hlasts⟩ := h.lasts.unended
  obtain ⟨new, hnew, hended⟩ := h.passes.ended_settle how
  refine ⟨rfl, ⟨new ++ since, ?_, ?_⟩, h.passes.settle_discarded, ?_, fun hm => ?_⟩
  · rw [hnew, hsince, List.append_assoc]
  · rw [ended_append, hended, Multiset.count_add, Multiset.count_singleton_self,
      Multiset.count_eq_zero.mpr hlasts]
  · rintro rfl hh hm
    rw [Pool.settle_of_isMatched hm hh]
    obtain ⟨r, hr, hg⟩ := hm
    have hc : l.connection = r.connection := (h.busy hr hg).2
    refine ⟨⟨r, h.lasts.record r hr hg, hg, ?_⟩, ?_, ⟨_, rfl⟩⟩
    · simp [hr, Slot.modify]
    · have hrecord : (l.database, l.connection) ∈ p.table.connections :=
        Table.mem_connections.mpr ⟨r, hr, hc.symm⟩
      exact h.passes.told.exists_open_handle h.passes.balanced
        (Multiset.mem_add.mpr (.inl hrecord))
  · obtain ⟨noted, hq, hquiet⟩ := Pool.settle_of_not_isMatched hm how
    exact ⟨noted, hq, fun e he => (hquiet e he).1⟩

end World

end KeyedPool
