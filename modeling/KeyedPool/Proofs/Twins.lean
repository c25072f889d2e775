import KeyedPool.Proofs.Evicting
import KeyedPool.Proofs.Reordering

/-!
# Pools that walk in different orders

Two pools may have the same table and walk over it in different orders. Whatever is done to both of
them has the same result, and leaves them with the same table again, although connections that leave
in one walk are closed in different orders. There is one exception: when several records have been
unused for the longest time, it is up to the order which of them is evicted. So wherever the oldest
record is looked for, it has to be alone.

* `KeyedPool.Table.oldest`, `KeyedPool.Table.HasLoneOldest`: the records that have been unused for
  the longest time, and that there are not two of them.
* `KeyedPool.Table.roomSearches`, `KeyedPool.Pool.attemptSearches` and others: the tables in which
  an operation looks for the oldest record.
* `KeyedPool.Pool.Twin`: two pools are the same, but for the order of walks.
* `KeyedPool.Pool.Twins`: the same came of something in both.
* `KeyedPool.Pool.Twin.retireAll`, `KeyedPool.Pool.Twin.takeLive`, `KeyedPool.Pool.Twin.takeOldest`:
  the three places where the order matters.
* `KeyedPool.Pool.Twin.execute`, `KeyedPool.Pool.Twin.attempt`, `KeyedPool.Pool.Twin.settle`: what
  is done to a pool.
-/

namespace KeyedPool

/-! ### Where the oldest record is looked for -/

/-- The records that have been unused for the longest time, of those that may be taken. -/
def Table.oldest (t : Table) : Multiset (String × Record) :=
  (t.having Record.isReclaimable).filter fun e =>
    ∀ x ∈ t.having Record.isReclaimable, e.2.lastUsedAt ≤ x.2.lastUsedAt

/-- **One record alone is the oldest** of those that may be taken, if there are any. -/
def Table.HasLoneOldest (t : Table) : Prop := ∀ e ∈ t.oldest, ∀ e' ∈ t.oldest, e = e'

instance (t : Table) : Decidable t.HasLoneOldest :=
  inferInstanceAs (Decidable (∀ e ∈ t.oldest, ∀ e' ∈ t.oldest, e = e'))

/-- The tables in which the oldest record is looked for when room is made: what is left when all
that has expired is gone, unless that is enough. -/
def Table.roomSearches (t : Table) (limit : Nat) (now : Instant) : List Table :=
  if t.size < limit then []
  else
    let left := t.without (Record.isPrunable now)
    if left.size < limit then [] else [left]

namespace Pool

/-- The tables in which it is looked for when a place is to be kept. -/
def reserveSearches (p : Pool) (now : Instant) : List Table :=
  match p.settings.maxConnections with
  | none => []
  | some limit => p.table.roomSearches limit now

/-- The tables in which it is looked for in an attempt to be admitted. -/
def attemptSearches (p : Pool) (database : String) (now : Instant) : List Table :=
  match p.table.find? database with
  | none => p.reserveSearches now
  | some .opening => []
  | some (.live r) =>
    if r.busy then []
    else if p.isHealthy r.connection then []
    else (p.withTable (p.table.erase database)).reserveSearches now

/-- The tables in which it is looked for by a command. -/
def commandSearches (p : Pool) : Command → List Table
  | .evict => [p.table]
  | _ => []

end Pool

/-! ### Twins -/

namespace Pool

variable {p q : Pool} {ds ds' : List Departure}

/-- **Two pools are twins**: they are the same, but for the order in which they walk over their
tables, and for the order in which their connections have left in one walk. -/
structure Twin (p q : Pool) : Prop where
  settings : p.settings = q.settings
  table : p.table = q.table
  handles : p.handles = q.handles
  counters : p.counters = q.counters
  meters : p.meters = q.meters
  history : Reordered Entry.isParting p.history q.history

/-- **The same came of something in two pools** that are twins afterwards. -/
inductive Twins {α : Type} : α × Pool → α × Pool → Prop
  /-- It came of it in both. -/
  | same (a : α) {p q : Pool} (h : p.Twin q) : Twins (a, p) (a, q)

theorem Twins.of_eq {α : Type} {x y : α × Pool} (h : x.1 = y.1) (h' : x.2.Twin y.2) :
    Twins x y := by
  rcases x with ⟨a, p⟩
  rcases y with ⟨b, q⟩
  obtain rfl : a = b := h
  exact .same a h'

theorem Twins.fst {α : Type} {x y : α × Pool} (h : Twins x y) : x.1 = y.1 := by
  cases h with
  | same a h => rfl

theorem Twins.snd {α : Type} {x y : α × Pool} (h : Twins x y) : x.2.Twin y.2 := by
  cases h with
  | same a h => exact h

namespace Twin

section Congruence

variable (h : p.Twin q)
include h

theorem note (e : Entry) : (p.note e).Twin (q.note e) := { h with history := h.history.cons e }

theorem tally (t : Tally) : (p.tally t).Twin (q.tally t) :=
  { h with
    counters := congrArg (·.record t) h.counters
    meters := congrArg (·.record t) h.meters }

theorem withTable (t : Table) : (p.withTable t).Twin (q.withTable t) := { h with table := rfl }

theorem walked : p.walked.Twin q.walked := { h with }

theorem addHandle (x : Handle) : (p.addHandle x).Twin (q.addHandle x) :=
  { h with handles := congrArg (· ++ [x]) h.handles }

theorem modifyHandle (c : Nat) (f : Handle → Handle) :
    (p.modifyHandle c f).Twin (q.modifyHandle c f) :=
  { h with handles := congrArg (·.modify c f) h.handles }

theorem resetCounters : p.resetCounters.Twin q.resetCounters := by
  refine { h with counters := rfl, history := ?_ }
  rw [history_resetCounters, history_resetCounters]
  exact h.history.cons _

theorem isHealthy_eq (c : Nat) : p.isHealthy c = q.isHealthy c := by
  rw [isHealthy, isHealthy, h.handles]

/-- **Connections leave in any order.** -/
theorem retireAll (hds : ds.Perm ds') : Twins (p.retireAll ds) (q.retireAll ds') := by
  have hstuck : p.isStuck = q.isStuck := by
    funext c
    rw [isStuck, isStuck, h.handles]
  have htallies : p.partingTallies = q.partingTallies := by
    funext d
    rw [partingTallies, partingTallies, h.handles]
  have hpartings : p.partingEntries = q.partingEntries := by
    funext d
    rw [partingEntries, partingEntries, h.handles]
  obtain ⟨hcounters, hmeters, hhistory⟩ := retireAll_accounts p ds
  obtain ⟨hcounters', hmeters', hhistory'⟩ := retireAll_accounts q ds'
  refine .of_eq ?_ ⟨?_, ?_, ?_, ?_, ?_, ?_⟩
  · rw [retireAll_fst, retireAll_fst, hstuck]
    exact hds.all_eq
  · rw [settings_retireAll, settings_retireAll, h.settings]
  · rw [table_retireAll, table_retireAll, h.table]
  · refine List.ext_getElem? fun c => ?_
    rw [getElem?_handles_retireAll, getElem?_handles_retireAll, h.handles,
      (hds.map Departure.connection).count_eq]
  · rw [hcounters, hcounters', h.counters, htallies]
    exact (hds.flatMap_right q.partingTallies).foldl_eq _
  · rw [hmeters, hmeters', h.meters, htallies]
    exact (hds.flatMap_right q.partingTallies).foldl_eq _
  · rw [hhistory, hhistory', hpartings]
    have hperm : ds.reverse.Perm ds'.reverse :=
      (List.reverse_perm ds).trans (hds.trans (List.reverse_perm ds').symm)
    -- the new entries are all of one block, on top of histories that are reordered already
    refine .trans (.of_perm (hperm.flatMap_right q.partingEntries) (fun e he => ?_) _)
      (h.history.append_left _)
    obtain ⟨d, -, he⟩ := List.mem_flatMap.mp he
    exact isParting_of_mem_partingEntries he

theorem retire (d : Departure) : Twins (p.retire d) (q.retire d) := by
  have hone : Twins (p.retireAll [d]) (q.retireAll [d]) := h.retireAll (.refl [d])
  simpa [Pool.retireAll] using hone

/-! ### Leases -/

theorem giveUpOpening (k : String) : (p.giveUpOpening k).Twin (q.giveUpOpening k) := by
  rw [Pool.giveUpOpening, Pool.giveUpOpening, h.table]
  split
  · exact h.withTable _
  · exact h

theorem publish (k : String) (c : Nat) (ttl : Duration) (persistent : Bool) (now : Instant) :
    Twins (p.publish k c ttl persistent now) (q.publish k c ttl persistent now) := by
  simp only [Pool.publish, Pool.skipGeneration, Pool.enroll, h.table]
  split
  · exact .same _ ((h.withTable _).note _)
  · have hpublished (deadline : Instant) :=
      (h.withTable (q.table.useGeneration.put k (.live
        ⟨c, deadline, now, true, persistent, q.table.nextGeneration⟩))).note
          (.published ⟨k, q.table.nextGeneration, c⟩ now ttl persistent)
    split
    · exact .same _ (hpublished _)
    · exact .same _ ((hpublished _).retire _).snd

theorem returnIdle (l : Lease) : (p.returnIdle l).Twin (q.returnIdle l) := by
  rw [Pool.returnIdle, Pool.returnIdle, h.table]
  split
  · exact (h.withTable _).note _
  · exact h.note _

theorem discard (l : Lease) (why : Removal) : (p.discard l why).Twin (q.discard l why) := by
  rw [Pool.discard, Pool.discard, h.table]
  split
  · exact ((h.withTable _).retire _).snd
  · exact h

/-- **A lease ends.** -/
theorem settle (l : Lease) (how : Disposal) : (p.settle l how).Twin (q.settle l how) := by
  have hended := h.note (.leaseEnded l how)
  cases how with
  | release =>
    simp only [Pool.settle, hended.isHealthy_eq]
    split
    · exact hended.returnIdle l
    · exact hended.discard l .broken
  | cancel => exact hended.discard l .cancelled
  | drop => exact hended.discard l .cancelled

/-! ### Walks -/

theorem takeLive (why : Removal) (which : Record → Bool) :
    (p.takeLive why which).1.Perm (q.takeLive why which).1 ∧
      (p.takeLive why which).2.Twin (q.takeLive why which).2 := by
  refine ⟨Multiset.coe_eq_coe.mp ?_, ?_⟩
  · rw [coe_takeLive, coe_takeLive, h.table]
  · rw [Pool.takeLive, Pool.takeLive, h.table]
    exact h.walked.withTable _

theorem prune (now : Instant) : Twins (p.prune now) (q.prune now) := by
  obtain ⟨hgone, hleft⟩ := h.takeLive .pruned (Record.isPrunable now)
  have hclosed := (hleft.retireAll hgone).snd
  rw [Pool.prune, Pool.prune]
  refine .of_eq hgone.length_eq ?_
  simp only [hgone.isEmpty_eq, hgone.length_eq]
  split
  · exact hclosed
  · exact hclosed.note _

theorem closeAll : Twins p.closeAll q.closeAll := by
  obtain ⟨hgone, hleft⟩ := h.takeLive .drained fun _ => true
  have hclosed := hleft.retireAll hgone
  simp only [Pool.closeAll, hgone.length_eq, hclosed.fst]
  exact .same _ (hclosed.snd.note _)

/-- **The oldest record is the same**, in whatever order it is looked for. -/
theorem takeOldest (hlone : p.table.HasLoneOldest) : Twins p.takeOldest q.takeOldest := by
  have htable := h.table
  -- both walks are over the same records, so that both find one or neither does
  rcases p.takeOldest_cases with ⟨hnone, hp⟩ | ⟨e, he, holdest, hp⟩ <;>
    rcases q.takeOldest_cases with ⟨hnone', hq⟩ | ⟨e', he', holdest', hq⟩ <;>
    rw [hp, hq]
  · exact .same none h.walked
  · rw [← htable, hnone] at he'
    exact absurd he' (Multiset.notMem_zero _)
  · rw [htable, hnone'] at he
    exact absurd he (Multiset.notMem_zero _)
  · rw [← htable] at he' holdest'
    obtain rfl : e = e' := hlone e (Multiset.mem_filter.mpr ⟨he, holdest⟩) e'
      (Multiset.mem_filter.mpr ⟨he', holdest'⟩)
    rw [htable]
    exact .same _ (h.walked.withTable _)

theorem evict (hlone : p.table.HasLoneOldest) : Twins p.evict q.evict := by
  have htaken := h.takeOldest hlone
  rw [Pool.evict, Pool.evict]
  generalize p.takeOldest = x at htaken ⊢
  generalize q.takeOldest = y at htaken ⊢
  cases htaken with
  | same d htwin =>
    cases d with
    | none => exact .same none htwin
    | some d => exact .same _ (htwin.retire d).snd

/-- **A command** is answered in the same way. -/
theorem execute (now : Instant) (c : Command) (hlone : ∀ t ∈ p.commandSearches c, t.HasLoneOldest) :
    Twins (p.execute now c) (q.execute now c) := by
  cases c with
  | prune =>
    simp only [Pool.execute, (h.prune now).fst]
    exact .same _ (h.prune now).snd
  | evict =>
    have hevicted := h.evict (hlone p.table (List.mem_singleton_self _))
    simp only [Pool.execute, hevicted.fst]
    exact .same _ hevicted.snd
  | closeAll =>
    simp only [Pool.execute, h.closeAll.fst]
    exact .same _ h.closeAll.snd
  | resetCounters => exact .same _ h.resetCounters
  | counters =>
    rw [Pool.execute, Pool.execute, h.counters]
    exact .same _ h
  | meters =>
    rw [Pool.execute, Pool.execute, h.meters]
    exact .same _ h
  | size =>
    rw [Pool.execute, Pool.execute, h.table]
    exact .same _ h
  | probe k =>
    rw [Pool.execute, Pool.execute, isBusy?, isBusy?, isPersistent?, isPersistent?, h.table]
    exact .same _ h

/-! ### Admission -/

theorem makeRoom (limit : Nat) (now : Instant)
    (hlone : ∀ t ∈ p.table.roomSearches limit now, t.HasLoneOldest) :
    (p.makeRoom limit now).1.Perm (q.makeRoom limit now).1 ∧
      (p.makeRoom limit now).2.Twin (q.makeRoom limit now).2 := by
  obtain ⟨hgone, hleft⟩ := h.takeLive .pruned (Record.isPrunable now)
  have hsize := congrArg Table.size h.table
  have hsize' := congrArg Table.size hleft.table
  by_cases hroom : q.table.size < limit
  · simp only [Pool.makeRoom, hsize, if_pos hroom]
    exact ⟨.refl _, h⟩
  · simp only [Pool.makeRoom, hsize, hsize', if_neg hroom]
    split
    · exact ⟨hgone, hleft⟩
    · rename_i hfull
      -- the oldest is looked for in what is left when all that has expired is gone
      have hsearch : (p.takeLive .pruned (Record.isPrunable now)).2.table ∈
          p.table.roomSearches limit now := by
        rw [Table.roomSearches, if_neg (hsize ▸ hroom)]
        exact (if_neg (hsize' ▸ hfull)).symm ▸ List.mem_singleton_self _
      have holdest := hleft.takeOldest (hlone _ hsearch)
      rw [holdest.fst]
      exact ⟨hgone.append_right _, holdest.snd⟩

theorem reserve (k : String) (now : Instant)
    (hlone : ∀ t ∈ p.reserveSearches now, t.HasLoneOldest) :
    (p.reserve k now).1 = (q.reserve k now).1 ∧
      (p.reserve k now).2.1.Perm (q.reserve k now).2.1 ∧
      (p.reserve k now).2.2.Twin (q.reserve k now).2.2 := by
  have hsettings := h.settings
  rw [Pool.reserve, Pool.reserve, ← hsettings]
  rw [reserveSearches] at hlone
  cases hlimit : p.settings.maxConnections with
  | none =>
    dsimp only
    rw [h.table]
    exact ⟨rfl, .refl _, h.withTable _⟩
  | some limit =>
    rw [hlimit] at hlone
    obtain ⟨hgone, hleft⟩ := h.makeRoom limit now hlone
    dsimp only
    rw [hleft.table]
    split
    · exact ⟨rfl, hgone, hleft.withTable _⟩
    · exact ⟨rfl, hgone, hleft⟩

theorem admission (k : String) (ttl : Duration) (now : Instant)
    (hlone : ∀ t ∈ p.attemptSearches k now, t.HasLoneOldest) :
    (p.admission k ttl now).1 = (q.admission k ttl now).1 ∧
      (p.admission k ttl now).2.1.Perm (q.admission k ttl now).2.1 ∧
      (p.admission k ttl now).2.2.Twin (q.admission k ttl now).2.2 := by
  have htable := h.table
  rw [Pool.admission, Pool.admission, ← htable]
  rw [attemptSearches] at hlone
  cases hslot : p.table.find? k with
  | none =>
    rw [hslot] at hlone
    exact h.reserve k now hlone
  | some slot =>
    rw [hslot] at hlone
    cases slot with
    | opening => exact ⟨rfl, .refl _, h⟩
    | live r =>
      dsimp only at hlone ⊢
      rw [← h.isHealthy_eq]
      split
      · exact ⟨rfl, .refl _, h⟩
      · rename_i hbusy
        rw [if_neg hbusy] at hlone
        split
        · split
          · exact ⟨rfl, .refl _, h⟩
          · exact ⟨rfl, .refl _, h.withTable _⟩
        · rename_i hdead
          rw [if_neg hdead] at hlone
          obtain ⟨hanswer, hgone, hleft⟩ := (h.withTable (p.table.erase k)).reserve k now hlone
          exact ⟨hanswer, hgone.cons _, hleft⟩

/-- **The answer to an acquire is the same.** -/
theorem attempt (k : String) (ttl : Duration) (now : Instant)
    (hlone : ∀ t ∈ p.attemptSearches k now, t.HasLoneOldest) :
    Twins (p.attempt k ttl now) (q.attempt k ttl now) := by
  obtain ⟨hanswer, hgone, hleft⟩ := h.admission k ttl now hlone
  exact .of_eq hanswer (hleft.retireAll hgone).snd

end Congruence

end Twin

end Pool

end KeyedPool
