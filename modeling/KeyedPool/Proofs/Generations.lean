import KeyedPool.Proofs.Custody.Ending
import KeyedPool.Proofs.Custody.Grant

/-!
# Generations

After everything was closed, leases may be left over whose records are gone. Meanwhile the database
may be opened again, closed again, and so on, so that any number of leases for it are around, at
most one of which is on the connection of the day. What tells them apart is the generation: every
record has its own, so a lease that has lost its record never matches another one. It can be ended
in any way, and nothing happens but that the end is written down.

Generations are numbers of a 64-bit word, but a run that opens fewer connections than there are such
numbers never comes to the end of them.

* `KeyedPool.Custody.Numbered`: at most one generation is used up for every connection.
* `KeyedPool.Custody.Fresh`: no generation is used twice.
* `KeyedPool.Custody.Stale.move`: a lease that has lost its record matches none ever after.
* `KeyedPool.World.IsReachable.stray_for_good`: so it is in every later world.
* `KeyedPool.Pool.settle_of_not_isMatched`: the end of such a lease.
* `KeyedPool.World.Passes.strays_harmless`: all of this in every state of a run.
-/

namespace KeyedPool

open History

/-- A lease is matched by a record that shows a grant under its generation. -/
theorem Lease.isMatched_iff_shows {l : Lease} {t : Table} :
    l.IsMatched t ↔ ∃ c persistent, t.Shows ⟨⟨l.database, l.generation, c⟩, persistent⟩ := by
  constructor
  · rintro ⟨r, hr, hg⟩
    exact ⟨r.connection, r.persistent, r, hr, by rw [Record.grant, hg]⟩
  · rintro ⟨c, persistent, hshows⟩
    obtain ⟨r, hr, hg, -⟩ := hshows.exists_record
    exact ⟨r, hr, hg⟩

theorem Opening.card_connections_cons {o : Opening} {c : Nat} (h : o.connection? = some c)
    (O : Multiset Opening) : (connections (o ::ₘ O)).card = (connections O).card + 1 := by
  simp [opened?_of_connection? h, add_comm]

namespace Pool

variable {p : Pool} {l : Lease}

@[simp] theorem nextGeneration_giveUpOpening (p : Pool) (k : String) :
    (p.giveUpOpening k).table.nextGeneration = p.table.nextGeneration := by
  rw [giveUpOpening]
  split <;> rfl

/-- **The end of a lease that has lost its record** is written down, and that is all: no slot and no
connection changes, nothing is counted, and the outside sees nothing of it. -/
theorem settle_of_not_isMatched (h : ¬l.IsMatched p.table) (how : Disposal) :
    ∃ noted, p.settle l how = { p with history := noted ++ p.history } ∧
      ∀ e ∈ noted, e.event? = none ∧ e.closes? = none ∧ e.removes? = none := by
  rcases settle_eq_of_not_isMatched h how with heq | heq <;> rw [heq]
  · refine ⟨[.leaseEnded l how], rfl, fun e he => ?_⟩
    rw [List.mem_singleton.mp he]
    exact ⟨rfl, rfl, rfl⟩
  · refine ⟨[.departed l, .leaseEnded l how], rfl, fun e he => ?_⟩
    rcases List.mem_pair.mp he with rfl | rfl <;> exact ⟨rfl, rfl, rfl⟩

end Pool

namespace Custody

variable {now : Instant} {s t : Custody} {l : Lease} {g : Grant}

/-! ### How many generations are used up -/

/-- **At most one generation is used up for every connection**, and none yet for those that are in
the hands of acquires. -/
def Numbered (s : Custody) : Prop :=
  s.pool.table.nextGeneration + (Opening.connections s.openings).card ≤ s.pool.handles.length + 1

/-- The next generation is never a smaller one. -/
theorem Move.nextGeneration_le (h : Move now s t) :
    s.pool.table.nextGeneration ≤ t.pool.table.nextGeneration := by
  cases h with
  | close d => rw [Pool.table_retire]
  | unanswered r => simp
  | abandon r c => simp
  | publish o c deadline ho ht hr => exact Nat.le_succ _
  | lose o c ho ht => exact Nat.le_succ _
  | _ => exact le_rfl

/-- **Every move keeps to it:** a generation is used up only as a connection leaves the hands of its
acquire. -/
theorem Numbered.move (hn : Numbered s) (h : Move now s t) : Numbered t := by
  simp only [Numbered] at hn ⊢
  cases h with
  | flags c f hf => simpa [Pool.modifyHandle] using hn
  | close d => simpa using hn
  | reserve r hr hroom => simpa using hn
  | ask r => simpa using hn
  | unanswered r => simpa using hn
  | connect r fresh hd hc =>
    rw [Opening.card_connections_cons rfl]
    simpa [add_assoc] using Nat.succ_le_succ hn
  | startHook r c hr => simpa using hn
  | finishHook r c => simpa using hn
  | abandon r c =>
    rw [Opening.card_connections_cons rfl] at hn
    simpa using (Nat.le_succ _).trans hn
  | publish o c deadline ho ht hr =>
    rw [Opening.card_connections_cons (Opening.connection?_of_fit ho)] at hn
    simpa [Pool.enroll, add_assoc, add_comm 1] using hn
  | lose o c ho ht =>
    rw [Opening.card_connections_cons ho] at hn
    simpa [Pool.skipGeneration, add_assoc, add_comm 1] using hn
  | _ => exact hn

/-! ### No generation is used twice -/

/-- **No generation is used twice**, and those that were used lie below the next one. -/
structure Fresh (s : Custody) : Prop where
  /-- Every record had a generation of its own. -/
  distinct : ((granted s.pool.history).map (·.lease.generation)).Nodup
  /-- The next generation is larger than all of them. -/
  below : ∀ g ∈ granted s.pool.history, g.lease.generation < s.pool.table.nextGeneration

/-- **Every move keeps generations apart.** -/
theorem Fresh.move (hf : Fresh s) (h : Move now s t) (hb : s.Balanced) (he : t.Exclusive) :
    Fresh t := by
  have hmono := h.nextGeneration_le
  rcases h.grants hb with heq | ⟨o, ho, c, hc, heq, hshows⟩
  · refine ⟨heq ▸ hf.distinct, fun g hg => ?_⟩
    exact (hf.below g (heq ▸ hg)).trans_le hmono
  · -- the new record has the generation that was the next one, and uses it up
    obtain ⟨r, hr, hg, -⟩ := hshows.exists_record
    have hused : s.pool.table.nextGeneration < t.pool.table.nextGeneration :=
      hg.symm.trans_lt (he.records _ r hr)
    refine ⟨?_, fun g hg => ?_⟩
    · rw [heq, Multiset.map_cons, Multiset.nodup_cons]
      refine ⟨fun hmem => ?_, hf.distinct⟩
      obtain ⟨g, hg, hsame⟩ := Multiset.mem_map.mp hmem
      exact (hf.below g hg).ne hsame
    · rw [heq] at hg
      rcases Multiset.mem_cons.mp hg with rfl | hg
      · exact hused
      · exact (hf.below g hg).trans_le hmono

/-! ### Leases that have lost their records -/

/-- **A lease has lost its record**: that is not in the table, and its generation is used up. -/
structure Stale (s : Custody) (l : Lease) : Prop where
  /-- No record is that of the lease. -/
  unmatched : ¬l.IsMatched s.pool.table
  /-- No record will have the generation of the lease. -/
  used : l.generation < s.pool.table.nextGeneration

/-- What is on record after a move was so before, or has the generation that was the next one. -/
theorem Move.isMatched_before (h : Move now s t) (hb : s.Balanced) (hl : l.IsMatched t.pool.table) :
    l.IsMatched s.pool.table ∨ l.generation = s.pool.table.nextGeneration := by
  obtain ⟨c, persistent, hshows⟩ := Lease.isMatched_iff_shows.mp hl
  rcases h.shown_before hb hshows with hbefore | ⟨-, hnew⟩
  · exact .inl (Lease.isMatched_iff_shows.mpr ⟨c, persistent, hbefore⟩)
  · exact .inr hnew

/-- **A lease that has lost its record matches none ever after.** -/
theorem Stale.move (hl : s.Stale l) (h : Move now s t) (hb : s.Balanced) : t.Stale l := by
  refine ⟨fun hmatch => ?_, hl.used.trans_le h.nextGeneration_le⟩
  rcases h.isMatched_before hb hmatch with hbefore | hnew
  · exact hl.unmatched hbefore
  · exact hl.used.ne hnew

/-- A lease without a record has lost it. -/
theorem Exclusive.stale (he : s.Exclusive) (hl : l ∈ s.leases)
    (hstray : ¬l.IsMatched s.pool.table) : s.Stale l :=
  ⟨hstray, he.leases l hl⟩

end Custody

/-! ### Runs -/

namespace World

variable {w : World} {s : Custody} {l : Lease}

theorem Passes.numbered (hs : w.Passes s) : s.Numbered :=
  hs.sound (fun _ _ _ h _ _ hn => hn.move h) fun _ _ => le_rfl

theorem Passes.fresh (hs : w.Passes s) : s.Fresh := by
  have hsound := hs.sound (P := fun s => s.Exclusive ∧ s.Fresh) ?_ ?_
  · exact hsound.2
  · rintro now s t h hb ht ⟨he, hf⟩
    have he' := he.move h hb ht
    exact ⟨he', hf.move h hb he'⟩
  · intro settings enumeration
    exact ⟨Custody.exclusive_fresh settings enumeration, Multiset.nodup_zero,
      fun _ hg => nomatch hg⟩

/-- **A lease that has lost its record never finds one again**, however often its database is
opened. -/
theorem IsReachable.stray_for_good (hw : w.IsReachable) (hl : l ∈ w.heldLeases)
    (hstray : ¬l.IsMatched w.pool.table) (events : List Event) :
    ¬l.IsMatched (w.after events).pool.table := by
  have hstale : w.custody.Stale l := hw.exclusive.stale (Multiset.mem_coe.mpr hl) hstray
  exact (hw.sound_after (P := (·.Stale l)) (fun _ _ _ h hb _ hs => hs.move h hb) hstale
    events).unmatched

/-- **A lease that has lost its record is harmless**, in every state of a run that opens fewer
connections than there are generations. All generations that records ever had are distinct and lie
below the next one, which a word can hold. And when a lease without a record ends, in whichever way
and whatever has become of its connection, the pool writes this down and is otherwise the same: no
slot, no connection and no counter changes, and nothing is closed. Such a lease never finds a record
again, however often its database is opened by others. -/
theorem Passes.strays_harmless (hs : w.Passes s) (hopens : s.pool.handles.length < wordMax) :
    s.pool.table.nextGeneration ≤ wordMax ∧
    ((granted s.pool.history).map (·.lease.generation)).Nodup ∧
    (∀ g ∈ granted s.pool.history, g.lease.generation < s.pool.table.nextGeneration) ∧
    (∀ l ∈ s.leases, ¬l.IsMatched s.pool.table → ∀ how closed broken,
      let p := s.pool.modifyHandle l.connection (·.setFlags (some closed) (some broken) none)
      ∃ noted, p.settle l how = { p with history := noted ++ p.history } ∧
        ∀ e ∈ noted, e.event? = none ∧ e.closes? = none ∧ e.removes? = none) ∧
    ∀ l ∈ w.heldLeases, ¬l.IsMatched w.pool.table →
      ∀ events, (w.after events).pool.handles.length < wordMax →
        ¬l.IsMatched (w.after events).pool.table := by
  have hnumbered : s.pool.table.nextGeneration + _ ≤ s.pool.handles.length + 1 := hs.numbered
  refine ⟨?_, hs.fresh.distinct, hs.fresh.below, fun l hl hstray how closed broken => ?_,
    fun l hl hstray events _ => hs.1.stray_for_good hl hstray events⟩
  · omega
  · exact Pool.settle_of_not_isMatched (p := s.pool.modifyHandle _ _) hstray how

/-- Two leases for one database: the older one has lost its record, and its connection seems to be
in order. -/
theorem Passes.strays_harmless_reopened :
    let w := (World.init {} false).after
      [.start (.lease { database := "a", ttl := ⟨5⟩ } "first"), .command .closeAll,
        .start (.lease { database := "a", ttl := ⟨5⟩ } "second")]
    let p := w.pool.modifyHandle 0 (·.setFlags (some false) (some false) none)
    w.heldLeases = [⟨"a", 1, 0⟩, ⟨"a", 2, 1⟩] ∧ p.isHealthy 0 = true ∧
      ∃ noted, p.settle ⟨"a", 1, 0⟩ .release = { p with history := noted ++ p.history } ∧
        ∀ e ∈ noted, e.event? = none ∧ e.closes? = none ∧ e.removes? = none := by
  intro w p
  have hs : w.Passes w.custody := .rest ⟨_, _, _, _, rfl⟩
  obtain ⟨-, -, -, hstray, -⟩ := hs.strays_harmless (by decide)
  refine ⟨rfl, rfl, hstray ⟨"a", 1, 0⟩ (Multiset.mem_coe.mpr (List.mem_cons_self ..)) ?_
    .release false false⟩
  rintro ⟨r, hr, hg⟩
  cases hr
  cases hg

end World

end KeyedPool
