import KeyedPool.Proofs.Closing
import KeyedPool.Proofs.Shedding

/-!
# What gives way to an acquire

An acquire that is admitted to a full pool takes somebody's place, and it should take as little as
it can: a connection that is dead anyway, else what has expired, else a single connection that is
still good, the one that has been unused for the longest time. The code goes through these stages
one after the other, and looks at the size of the table before each of them. What it takes in the
end is one of four lists, and everything else is as it was.

* `KeyedPool.Pool.Reclaims`: what an acquire takes that is admitted.
* `KeyedPool.Pool.Takes`: some connections are taken out of the table, and nothing else is done.
* `KeyedPool.Pool.Admits`: a place is kept, and some connections have given way to it.
* `KeyedPool.Pool.reclaims_makeRoom`: room is made with as little as possible.
* `KeyedPool.World.Passes.admission_reclaims`: an acquire that is admitted takes no more than it
  needs.
-/

namespace KeyedPool

open Custody History

namespace Pool

variable {p q u : Pool} {k : String} {now : Instant} {limit : Nat} {ds ds' : List Departure}

/-- **What an acquire takes that is admitted.** -/
inductive Reclaims (p : Pool) (k : String) (now : Instant) : List Departure → Prop
  /-- The connection of its own database, which has died. -/
  | replaced {d : Departure} (hd : p.Replaces k d) : Reclaims p k now [d]
  /-- Nothing, for there is room. -/
  | spare (hk : p.table.find? k = none)
      (hroom : ∀ limit, p.settings.maxConnections = some limit → p.table.size < limit) :
    Reclaims p k now []
  /-- All that has expired, for there is no room. -/
  | pruned {limit : Nat} {ds : List Departure} (hk : p.table.find? k = none)
      (hmax : p.settings.maxConnections = some limit) (hfull : p.table.size = limit)
      (hne : ds ≠ []) (hds : ∀ d, d ∈ ds ↔ p.Prunes now d) :
    Reclaims p k now ds
  /-- The one that has been unused for the longest time, for there is no room, and nothing has
  expired. -/
  | evicted {limit : Nat} {d : Departure} (hk : p.table.find? k = none)
      (hmax : p.settings.maxConnections = some limit) (hfull : p.table.size = limit)
      (hnone : ∀ d, ¬p.Prunes now d) (hd : p.Evicts d) :
    Reclaims p k now [d]

/-! ### Taking connections out of the table -/

/-- **Some connections are taken out of the table**, and nothing else is done. -/
structure Takes (p : Pool) (ds : List Departure) (q : Pool) : Prop where
  /-- Their slots are gone, the others are as they were. -/
  slots : ∀ k, q.table.find? k = if k ∈ ds.map Departure.database then none else p.table.find? k
  /-- No database is named twice. -/
  nodup : (ds.map Departure.database).Nodup
  /-- All were on record. -/
  records : ∀ d ∈ ds, ∃ r, p.table.find? d.database = some (.live r) ∧ r.connection = d.connection
  /-- Nothing else is done, but that the table was walked. -/
  rest : ∃ t n, q = { p with table := t, walks := n } ∧
    t.nextGeneration = p.table.nextGeneration

namespace Takes

theorem refl (p : Pool) : p.Takes [] p :=
  ⟨fun _ => rfl, List.nodup_nil, nofun, p.table, p.walks, rfl, rfl⟩

theorem trans (h : p.Takes ds q) (h' : q.Takes ds' u) : p.Takes (ds ++ ds') u := by
  obtain ⟨t, n, rfl, hgeneration⟩ := h.rest
  obtain ⟨t', n', rfl, hgeneration'⟩ := h'.rest
  have hbefore : ∀ d ∈ ds', d.database ∉ ds.map Departure.database ∧
      ∃ r, p.table.find? d.database = some (.live r) ∧ r.connection = d.connection := by
    intro d hd
    obtain ⟨r, hr, hc⟩ := h'.records d hd
    rw [h.slots] at hr
    split at hr
    · cases hr
    · exact ⟨‹_›, r, hr, hc⟩
  refine ⟨fun k => ?_, ?_, fun d hd => ?_, t', n', rfl, hgeneration'.trans hgeneration⟩
  · simp only [h'.slots, h.slots, List.map_append, List.mem_append]
    by_cases hk : k ∈ ds.map Departure.database <;> simp [hk]
  · rw [List.map_append]
    refine List.nodup_append.mpr ⟨h.nodup, h'.nodup, ?_⟩
    rintro k hk k' hk' rfl
    obtain ⟨d, hd, rfl⟩ := List.mem_map.mp hk'
    exact (hbefore d hd).1 hk
  · exact (List.mem_append.mp hd).elim (h.records d) fun hd => (hbefore d hd).2

end Takes

theorem nodup_takeLive (why : Removal) (which : Record → Bool) :
    (((p.takeLive why which).1).map Departure.database).Nodup := by
  have h := congrArg (Multiset.map Departure.database) (p.coe_takeLive why which)
  rw [Multiset.map_map, Multiset.map_coe] at h
  rw [← Multiset.coe_nodup, h]
  exact p.table.nodup_having which

/-- A connection leaves on a walk if and only if it is on record with the property. -/
theorem mem_takeLive_iff {why : Removal} {which : Record → Bool} {d : Departure} :
    d ∈ (p.takeLive why which).1 ↔ d.why = why ∧ p.HasRecord d fun r => which r = true := by
  refine ⟨mem_takeLive, ?_⟩
  rintro ⟨rfl, r, hr, hc, hwhich⟩
  rw [← Multiset.mem_coe, coe_takeLive, Multiset.mem_map]
  exact ⟨(d.database, r), Table.mem_having.mpr ⟨hr, hwhich⟩, by rw [hc]⟩

theorem takes_takeLive (why : Removal) (which : Record → Bool) :
    p.Takes (p.takeLive why which).1 (p.takeLive why which).2 := by
  refine ⟨fun k => ?_, nodup_takeLive why which, fun d hd => ?_, _, _, rfl, rfl⟩
  · have hmem : k ∈ (p.takeLive why which).1.map Departure.database ↔
        ∃ r, p.table.find? k = some (.live r) ∧ which r = true := by
      rw [List.mem_map]
      constructor
      · rintro ⟨d, hd, rfl⟩
        obtain ⟨-, r, hr, -, hwhich⟩ := mem_takeLive hd
        exact ⟨r, hr, hwhich⟩
      · rintro ⟨r, hr, hwhich⟩
        exact ⟨⟨why, k, r.connection⟩, mem_takeLive_iff.mpr ⟨rfl, r, hr, rfl, hwhich⟩, rfl⟩
    have hfind : (p.takeLive why which).2.table.find? k =
        (p.table.find? k).filter fun s => !s.holds which := Table.find?_without _ _ _
    rw [hfind]
    split
    · obtain ⟨r, hr, hwhich⟩ := hmem.mp ‹_›
      simp [hr, Slot.holds, Slot.record?, hwhich]
    · rename_i hout
      cases hs : p.table.find? k with
      | none => rfl
      | some s =>
        cases s with
        | opening => rfl
        | live r =>
          have hkept : which r ≠ true := fun hwhich => hout (hmem.mpr ⟨r, hs, hwhich⟩)
          simp [Option.filter, Slot.holds, Slot.record?, hkept]
  · obtain ⟨-, r, hr, hc, -⟩ := mem_takeLive hd
    exact ⟨r, hr, hc⟩

theorem takes_takeOldest : p.Takes p.takeOldest.1.toList p.takeOldest.2 := by
  rw [takeOldest]
  cases he : Table.oldest? (p.table.recordsAlong p.order Record.isReclaimable) with
  | none =>
    exact ⟨fun _ => rfl, List.nodup_nil, fun _ hd => (List.not_mem_nil hd).elim, _, _, rfl, rfl⟩
  | some e =>
    obtain ⟨-, hr, -⟩ := Table.mem_recordsAlong.mp (Table.mem_of_oldest? he)
    refine ⟨fun k => ?_, List.nodup_singleton _, fun d hd => ?_, _, _, rfl, rfl⟩
    · simp
    · obtain rfl := List.mem_singleton.mp hd
      exact ⟨e.2, hr, rfl⟩

/-- To make room is to take connections out of the table. -/
theorem takes_makeRoom : p.Takes (p.makeRoom limit now).1 (p.makeRoom limit now).2 := by
  rw [makeRoom]
  split
  · exact .refl p
  · dsimp only
    split
    · exact takes_takeLive .pruned _
    · exact (takes_takeLive .pruned _).trans takes_takeOldest

/-! ### Making room -/

/-- If the table has become smaller, a connection has left. -/
theorem exists_of_size_takeOldest_lt (h : p.takeOldest.2.table.size < p.table.size) :
    ∃ d, p.takeOldest.1 = some d := by
  rw [takeOldest] at h ⊢
  split
  · rename_i hnone
    rw [hnone] at h
    exact absurd h (Nat.lt_irrefl _)
  · exact ⟨_, rfl⟩

/-- **Room is made with as little as possible**, if it can be made. -/
theorem reclaims_makeRoom (hk : p.table.find? k = none)
    (hmax : p.settings.maxConnections = some limit) (hcap : p.table.size ≤ limit)
    (hroom : (p.makeRoom limit now).2.table.size < limit) :
    p.Reclaims k now (p.makeRoom limit now).1 := by
  rw [makeRoom] at hroom ⊢
  split
  · rename_i hlt
    refine .spare hk fun limit' hmax' => ?_
    cases hmax.symm.trans hmax'
    exact hlt
  · rename_i hge
    have hfull : p.table.size = limit := le_antisymm hcap (Nat.not_lt.mp hge)
    rw [if_neg hge] at hroom
    dsimp only at hroom ⊢
    split
    · -- something has expired
      rename_i hlt
      refine .pruned hk hmax hfull (fun hnil => ?_) fun d => mem_takeLive_iff
      obtain ⟨k, r, hr, hprune⟩ := Table.size_without_lt_iff.mp (hfull ▸ hlt)
      have hmem : ⟨.pruned, k, r.connection⟩ ∈ (p.takeLive .pruned (Record.isPrunable now)).1 :=
        mem_takeLive_iff.mpr ⟨rfl, r, hr, rfl, hprune⟩
      rw [hnil] at hmem
      cases hmem
    · -- nothing has expired, so there is room since the oldest record has left
      rename_i hstill
      have hsize : p.table.size ≤ (p.table.without (Record.isPrunable now)).size :=
        hcap.trans (Nat.not_lt.mp hstill)
      have hnone (d : Departure) : ¬p.Prunes now d := by
        rintro ⟨-, r, hr, -, hprune⟩
        exact Nat.not_lt.mpr hsize (Table.size_without_lt_iff.mpr ⟨_, r, hr, hprune⟩)
      have hnil : (p.takeLive .pruned (Record.isPrunable now)).1 = [] :=
        List.eq_nil_iff_forall_not_mem.mpr fun d hd => hnone d (mem_takeLive hd)
      rw [if_neg hstill] at hroom
      rw [hnil, List.nil_append]
      obtain ⟨d, hd⟩ := exists_of_size_takeOldest_lt (hroom.trans_le (Nat.not_lt.mp hstill))
      rw [hd]
      refine .evicted hk hmax hfull hnone ?_
      have hmem : d ∈ (p.makeRoom limit now).1 := by simp [makeRoom, hge, hstill, hd]
      exact (mem_makeRoom hcap hmem).resolve_left (hnone d)

/-! ### Keeping a place -/

/-- **A place is kept for a database, and some connections have given way to it.** -/
structure Admits (p : Pool) (k : String) (ds : List Departure) (q : Pool) : Prop where
  /-- The place is in the table, the slots of these connections are not, and all other slots are as
  they were. -/
  slots : ∀ other, q.table.find? other =
    if other = k then some .opening
    else if other ∈ ds.map Departure.database then none else p.table.find? other
  /-- They were on record before, each of them once, with those that are on record now. -/
  account : q.table.connections + ↑(ds.map Departure.left) = p.table.connections
  /-- Nothing else is done, but that the table was walked. -/
  rest : ∃ t n, q = { p with table := t, walks := n } ∧
    t.nextGeneration = p.table.nextGeneration

/-- A place may be kept where there is none, or where one was taken. -/
theorem Takes.admits (h : p.Takes ds q)
    (hk : p.table.find? k = none ∨ k ∈ ds.map Departure.database) :
    p.Admits k ds (q.withTable (q.table.put k .opening)) := by
  have hslots : ∀ other, (q.table.put k .opening).find? other =
      if other = k then some .opening
      else if other ∈ ds.map Departure.database then none else p.table.find? other := by
    intro other
    rw [Table.find?_put, h.slots]
  have hleft : (ds.map Departure.left).Nodup := by
    refine List.Nodup.of_map Prod.fst ?_
    rw [List.map_map]
    exact h.nodup
  refine ⟨hslots, ?_, ?_⟩
  · refine (Multiset.Nodup.ext ?_ (Table.nodup_connections _)).mpr ?_
    · refine Multiset.nodup_add.mpr ⟨Table.nodup_connections _, Multiset.coe_nodup.mpr hleft, ?_⟩
      refine Multiset.disjoint_left.mpr ?_
      rintro ⟨k', c⟩ hrecord hmem
      obtain ⟨r, hr, -⟩ := Table.mem_connections.mp hrecord
      obtain ⟨d, hd, hleft⟩ := List.mem_map.mp (Multiset.mem_coe.mp hmem)
      have hk' : k' ∈ ds.map Departure.database :=
        List.mem_map.mpr ⟨d, hd, congrArg Prod.fst hleft⟩
      rw [table_withTable, hslots, if_pos hk'] at hr
      split at hr <;> cases hr
    · rintro ⟨k', c⟩
      rw [Multiset.mem_add, Table.mem_connections, Table.mem_connections, Multiset.mem_coe,
        List.mem_map, table_withTable, hslots]
      constructor
      · rintro (⟨r, hr, hc⟩ | ⟨d, hd, heq⟩)
        · split at hr
          · cases hr
          · split at hr
            · cases hr
            · exact ⟨r, hr, hc⟩
        · cases heq
          obtain ⟨r, hr, hc⟩ := h.records d hd
          exact ⟨r, hr, hc⟩
      · rintro ⟨r, hr, hc⟩
        by_cases hout : k' ∈ ds.map Departure.database
        · obtain ⟨d, hd, rfl⟩ := List.mem_map.mp hout
          obtain ⟨r', hr', hc'⟩ := h.records d hd
          cases hr.symm.trans hr'
          exact .inr ⟨d, hd, Prod.ext rfl (hc'.symm.trans hc)⟩
        · have hne : k' ≠ k := by
            rintro rfl
            rcases hk with hnone | hk
            · cases hnone.symm.trans hr
            · exact hout hk
          exact .inl ⟨r, by rw [if_neg hne, if_neg hout]; exact hr, hc⟩
  · obtain ⟨t, n, rfl, hgeneration⟩ := h.rest
    exact ⟨t.put k .opening, n, rfl, hgeneration⟩

theorem takes_reserve (h : (p.reserve k now).1 = .reserved) :
    ∃ q, p.Takes (p.reserve k now).2.1 q ∧
      (p.reserve k now).2.2 = q.withTable (q.table.put k .opening) := by
  rw [reserve] at h ⊢
  dsimp only at h ⊢
  split
  · exact ⟨p, .refl p, rfl⟩
  · rename_i limit hmax
    split
    · exact ⟨_, takes_makeRoom, rfl⟩
    · rename_i hfull
      simp [hmax, hfull] at h

theorem reclaims_reserve (hk : p.table.find? k = none)
    (hcap : ∀ limit, p.settings.maxConnections = some limit → p.table.size ≤ limit)
    (h : (p.reserve k now).1 = .reserved) : p.Reclaims k now (p.reserve k now).2.1 := by
  rw [reserve] at h ⊢
  dsimp only at h ⊢
  split
  · rename_i hmax
    exact .spare hk fun limit hlimit => by simp [hmax] at hlimit
  · rename_i limit hmax
    split
    · exact reclaims_makeRoom hk hmax (hcap limit hmax) ‹_›
    · rename_i hfull
      simp [hmax, hfull] at h

/-- **A place is kept for as little as possible.** -/
theorem admits_admission {ttl : Duration}
    (hcap : ∀ limit, p.settings.maxConnections = some limit → p.table.size ≤ limit)
    (h : (p.admission k ttl now).1 = .reserved) :
    p.Reclaims k now (p.admission k ttl now).2.1 ∧
      p.Admits k (p.admission k ttl now).2.1 (p.admission k ttl now).2.2 := by
  rw [admission] at h ⊢
  split at h
  · rename_i hk
    obtain ⟨q, htakes, hq⟩ := takes_reserve h
    simp only [hq]
    exact ⟨reclaims_reserve hk hcap h, htakes.admits (.inl hk)⟩
  · cases h
  · rename_i r hr
    split at h
    · cases h
    · rename_i hbusy
      split at h
      · split at h <;> cases h
      · rename_i hdead
        obtain ⟨q, htakes, hq⟩ := takes_reserve h
        rw [reserve_erase_eq_nil hcap hr] at htakes
        have hfirst : p.Takes [⟨.replaced, k, r.connection⟩] (p.withTable (p.table.erase k)) := by
          refine ⟨fun other => ?_, List.nodup_singleton _, fun d hd => ?_, _, _, rfl, rfl⟩
          · simp
          · obtain rfl := List.mem_singleton.mp hd
            exact ⟨r, hr, rfl⟩
        simp only [if_neg hbusy, if_neg hdead, hq, reserve_erase_eq_nil hcap hr]
        refine ⟨.replaced ⟨rfl, rfl, r, hr, rfl, ?_, ?_⟩, ?_⟩
        · exact Bool.eq_false_iff.mpr hbusy
        · exact Bool.eq_false_iff.mpr hdead
        · exact (hfirst.trans htakes).admits (.inr (List.mem_singleton_self k))

/-- **A connection that has not expired goes alone**: it has died and makes room for its successor,
or there is no room and nothing that has expired. -/
theorem Reclaims.of_unexpired {d : Departure} {r : Record} (h : p.Reclaims k now ds) (hd : d ∈ ds)
    (hr : p.table.find? d.database = some (.live r)) (hlater : now < r.expiresAt) :
    ds = [d] ∧ (p.Replaces k d ∨ p.Evicts d ∧ (∀ d', ¬p.Prunes now d') ∧
      ∃ limit, p.settings.maxConnections = some limit ∧ p.table.size = limit) := by
  cases h with
  | replaced hd' =>
    obtain rfl := List.mem_singleton.mp hd
    exact ⟨rfl, .inl hd'⟩
  | spare => cases hd
  | pruned hk hmax hfull hne hds =>
    obtain ⟨-, r', hr', -, hprune⟩ := (hds d).mp hd
    cases hr.symm.trans hr'
    simp only [Record.isPrunable, Record.isExpired, Bool.and_eq_true, decide_eq_true_eq] at hprune
    exact absurd hprune.2 (Nat.not_le.mpr hlater)
  | evicted hk hmax hfull hnone hd' =>
    obtain rfl := List.mem_singleton.mp hd
    exact ⟨rfl, .inr ⟨hd', hnone, _, hmax, hfull⟩⟩

/-- **A lease on an idle connection dates its record**, and does nothing else. -/
theorem admission_of_leased {ttl : Duration} {c g : Nat}
    (h : (p.admission k ttl now).1 = .leased c g) :
    ∃ r deadline, p.table.find? k = some (.live r) ∧ r.connection = c ∧ r.generation = g ∧
      now.after? ttl = some deadline ∧ p.admission k ttl now =
        (.leased c g, [], p.withTable (p.table.modify k (Record.lease deadline now))) := by
  have hreserve (q : Pool) : (q.reserve k now).1 ≠ .leased c g := by
    rw [reserve]
    dsimp only
    split
    · exact Admission.noConfusion
    · split <;> exact Admission.noConfusion
  rw [admission] at h ⊢
  split at h
  · exact absurd h (hreserve p)
  · cases h
  · rename_i r hr
    split at h
    · cases h
    · rename_i hbusy
      split at h
      · rename_i hhealthy
        split at h
        · cases h
        · rename_i deadline ht
          cases h
          exact ⟨r, deadline, hr, rfl, rfl, ht, by simp only [if_neg hbusy, if_pos hhealthy]⟩
      · exact absurd h (hreserve _)

end Pool

namespace World.Passes

variable {w : World} {s : Custody}

/-- **An acquire that is admitted takes no more than it needs**, at any time of a run.

If a place is kept for it, the table is as it was but for this place and for the connections that
gave way: the connection of its own database, if one was on record, which had died; else nothing, if
there is room; else all that has expired, if anything has; else the one that has been unused for the
longest time. Each of them is named once, with the reason for which it leaves, and what was on
record before is what is on record now and what is named. So a connection that has not expired goes
alone, and one that has not died goes only if there is no room and nothing has expired.

If the acquire gets an idle connection, its record is dated and marked as leased, and that is
all. -/
theorem admission_reclaims (hs : w.Passes s) (k : String) (ttl : Duration) (now : Instant) :
    let p := s.pool
    let answer := p.admission k ttl now
    (answer.1 = .reserved →
      p.Reclaims k now answer.2.1 ∧ p.Admits k answer.2.1 answer.2.2 ∧
      (answer.2.1.map Departure.connection).Nodup ∧
      ∀ d ∈ answer.2.1, ∀ r, p.table.find? d.database = some (.live r) → now < r.expiresAt →
        answer.2.1 = [d] ∧ (p.Replaces k d ∨ p.Evicts d ∧ (∀ d', ¬p.Prunes now d') ∧
          ∃ limit, p.settings.maxConnections = some limit ∧ p.table.size = limit)) ∧
    ∀ c g, answer.1 = .leased c g → answer.2.1 = [] ∧
      ∃ r deadline, p.table.find? k = some (.live r) ∧ r.connection = c ∧ r.generation = g ∧
        now.after? ttl = some deadline ∧
        answer.2.2 = p.withTable answer.2.2.table ∧
        answer.2.2.table.nextGeneration = p.table.nextGeneration ∧
        ∀ other, answer.2.2.table.find? other =
          if other = k then
            some (.live { r with expiresAt := deadline, lastUsedAt := now, busy := true })
          else p.table.find? other := by
  intro p answer
  refine ⟨fun h => ?_, fun c g h => ?_⟩
  · obtain ⟨hreclaims, hadmits⟩ := Pool.admits_admission hs.capped h
    refine ⟨hreclaims, hadmits, ?_, fun d hd r hr hlater => hreclaims.of_unexpired hd hr hlater⟩
    have hle : (↑(answer.2.1.map Departure.left) : Multiset (String × Nat)) ≤
        opened s.pool.history := by
      rw [← hs.balanced.connections, add_assoc, add_assoc, add_assoc, ← hadmits.account]
      exact (Multiset.le_add_left _ _).trans (Multiset.le_add_right _ _)
    have hnodup := Multiset.nodup_of_le (Multiset.map_le_map hle) hs.balanced.nodup_opened
    rw [Multiset.map_coe, List.map_map] at hnodup
    exact Multiset.coe_nodup.mp hnodup
  · obtain ⟨r, deadline, hr, hc, hg, ht, hanswer⟩ := Pool.admission_of_leased h
    have hanswer : answer =
        (.leased c g, [], p.withTable (p.table.modify k (Record.lease deadline now))) := hanswer
    rw [hanswer]
    refine ⟨rfl, r, deadline, hr, hc, hg, ht, rfl, rfl, fun other => ?_⟩
    rw [Pool.table_withTable, Table.find?_modify]
    split
    · rename_i hk
      rw [hk, hr]
      rfl
    · rfl

/-- A pool is full, one of its connections has expired, and the other has not. -/
theorem admission_reclaims_full :
    let w := (World.init { maxConnections := some 2 } false).after
      [.start (.lease { database := "a", ttl := ⟨0⟩ } "first"),
        .start (.lease { database := "b", ttl := ⟨5⟩ } "second"),
        .settle "first" .release, .settle "second" .release]
    let q := (w.pool.admission "c" ⟨5⟩ w.now).2.2
    q.table.find? "a" = none ∧ q.table.find? "b" = w.pool.table.find? "b" ∧
      q.table.find? "c" = some .opening := by
  intro w q
  have hw : w.IsReachable := ⟨_, _, _, _, rfl⟩
  have hs : w.Passes ⟨w.pool, ↑w.heldLeases, ↑w.openings, 0⟩ := rest hw
  have hreserved : (w.pool.admission "c" ⟨5⟩ w.now).1 = .reserved := by decide
  have htaken : (w.pool.admission "c" ⟨5⟩ w.now).2.1 = [⟨.pruned, "a", 0⟩] := by decide
  obtain ⟨-, hadmits, -⟩ := (hs.admission_reclaims "c" ⟨5⟩ w.now).1 hreserved
  have hslots := hadmits.slots
  simp only [htaken, List.map_cons, List.map_nil, List.mem_singleton] at hslots
  exact ⟨hslots "a", hslots "b", hslots "c"⟩

end World.Passes

end KeyedPool
