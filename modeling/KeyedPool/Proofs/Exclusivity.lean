import KeyedPool.Proofs.Custody.Balance

/-!
# Leases are exclusive

A record is busy exactly as long as somebody has a lease on it, and then nobody else has one. A
lease does not carry its connection's word for this: when an idle connection is leased again, its
record keeps the generation that it always had, so the flag of the record is all there is to tell
whether an older lease with this generation is still around. The invariant ties the flag to the
leases themselves.

A lease can outlive its record in one way only: everything was closed while it was held. Its
connection is closed from then on, and the lease matches no record any more, for no later record
has its generation.

* `KeyedPool.Custody.Exclusive`: the invariant.
* `KeyedPool.Custody.Exclusive.move`: every move keeps it.
* `KeyedPool.World.IsReachable.leases_exclusive`: what it says of every reachable world.
-/

namespace KeyedPool

open History

/-- Whether the record of a lease is in a table. -/
def Lease.IsMatched (l : Lease) (t : Table) : Prop :=
  ∃ r, t.find? l.database = some (.live r) ∧ r.generation = l.generation

/-- The record of a lease is found by its generation. -/
theorem Lease.isMatched_iff {l : Lease} {t : Table} :
    l.IsMatched t ↔ (t.find? l.database).any (Pool.isGeneration l.generation) = true :=
  Pool.any_isGeneration_iff.symm

theorem Lease.not_isMatched_iff {l : Lease} {t : Table} :
    ¬l.IsMatched t ↔ (t.find? l.database).any (Pool.isGeneration l.generation) = false := by
  rw [isMatched_iff, Bool.not_eq_true]

namespace Pool

variable {p : Pool} {l : Lease}

/-- A lease without a record has nothing to give up. -/
theorem discard_of_not_isMatched (h : ¬l.IsMatched p.table) (why : Removal) :
    p.discard l why = p :=
  discard_eq_self (Lease.not_isMatched_iff.mp h) why

/-- **The end of a lease without a record** is written down, and perhaps that its connection had
left. -/
theorem settle_eq_of_not_isMatched (h : ¬l.IsMatched p.table) (how : Disposal) :
    p.settle l how = p.note (.leaseEnded l how) ∨
      p.settle l how = (p.note (.leaseEnded l how)).note (.departed l) := by
  have hdiscard (why : Removal) : (p.note (.leaseEnded l how)).discard l why =
      p.note (.leaseEnded l how) :=
    discard_of_not_isMatched (p := p.note _) h why
  cases how with
  | release =>
    simp only [settle]
    split
    · refine .inr ?_
      simp only [returnIdle, table_note, Lease.not_isMatched_iff.mp h, Bool.false_eq_true, if_false]
    · exact .inl (hdiscard .broken)
  | cancel => exact .inl (hdiscard .cancelled)
  | drop => exact .inl (hdiscard .cancelled)

end Pool

namespace Custody

/-- The leases on the record of a generation. -/
def leasesOn (L : Multiset Lease) (k : String) (generation : Nat) : Multiset Lease :=
  L.filter fun l => l.database = k ∧ l.generation = generation

/-- **A record is busy as long as there is a lease on it, and then there is just one.** -/
structure Exclusive (s : Custody) : Prop where
  /-- The leases on a record: the only one if it is busy, else none. -/
  held : ∀ k r, s.pool.table.find? k = some (.live r) →
    leasesOn s.leases k r.generation = if r.busy then {⟨k, r.generation, r.connection⟩} else 0
  /-- A lease without a record is one whose connection was closed with all others. -/
  stray : ∀ l ∈ s.leases, l.IsMatched s.pool.table ∨
    .removed .drained l.database l.connection ∈ s.pool.history ∨
      ⟨.drained, l.database, l.connection⟩ ∈ s.leaving
  /-- The generations of records are used up. -/
  records : ∀ k r, s.pool.table.find? k = some (.live r) →
    r.generation < s.pool.table.nextGeneration
  /-- So are the generations of leases. -/
  leases : ∀ l ∈ s.leases, l.generation < s.pool.table.nextGeneration
  /-- No connection is leased twice. -/
  once : (s.leases.map Lease.connection).Nodup

variable {now : Instant} {s t : Custody} {p q : Pool} {L : Multiset Lease}
  {O O' : Multiset Opening} {D D' : Multiset Departure} {l : Lease} {k : String} {r : Record}

/-! ### Leases on a record -/

theorem mem_leasesOn {g : Nat} :
    l ∈ leasesOn L k g ↔ l ∈ L ∧ l.database = k ∧ l.generation = g :=
  Multiset.mem_filter

theorem leasesOn_cons_self (l : Lease) :
    leasesOn (l ::ₘ L) l.database l.generation = l ::ₘ leasesOn L l.database l.generation :=
  Multiset.filter_cons_of_pos _ ⟨rfl, rfl⟩

theorem leasesOn_cons_of_ne {g : Nat} (h : ¬(l.database = k ∧ l.generation = g)) :
    leasesOn (l ::ₘ L) k g = leasesOn L k g :=
  Multiset.filter_cons_of_neg _ h

namespace Exclusive

/-- A lease on a record is held while the record is busy, and holds the connection of the record. -/
theorem of_mem (he : Exclusive s) (hl : l ∈ s.leases)
    (hr : s.pool.table.find? l.database = some (.live r)) (hg : r.generation = l.generation) :
    r.busy = true ∧ l.connection = r.connection := by
  have hmem : l ∈ leasesOn s.leases l.database r.generation := mem_leasesOn.mpr ⟨hl, rfl, hg.symm⟩
  rw [he.held _ r hr] at hmem
  split at hmem
  · rename_i hbusy
    exact ⟨hbusy, congrArg Lease.connection (Multiset.mem_singleton.mp hmem)⟩
  · cases hmem

/-- The connection of a lease is on record, or has left. -/
theorem mem_connections (he : Exclusive s) (ht : Told s) (hl : l ∈ s.leases) :
    (l.database, l.connection) ∈ s.pool.table.connections ∨
      (l.database, l.connection) ∈ s.leaving.map Departure.left + closed s.pool.history := by
  rcases he.stray l hl with ⟨r, hr, hg⟩ | hgone
  · exact .inl (Table.mem_connections.mpr ⟨r, hr, (he.of_mem hl hr hg).2.symm⟩)
  · exact .inr (ht.mem_gone hgone)

/-- A connection that was opened for an acquire is not leased yet. -/
theorem not_leased_of_opening (he : Exclusive s) (hb : Balanced s) (ht : Told s) {x : String × Nat}
    (hx : x ∈ Opening.connections s.openings) : x.2 ∉ s.leases.map Lease.connection := by
  intro hmem
  obtain ⟨l, hl, hc⟩ := Multiset.mem_map.mp hmem
  rcases he.mem_connections ht hl with hy | hy
  · exact hb.apart_opening hy hx hc
  · exact hb.apart_gone (Multiset.mem_add.mpr (.inr hx)) hy hc.symm

/-- The connection of an idle record is not leased. -/
theorem not_leased_of_idle (he : Exclusive s) (hb : Balanced s) (ht : Told s)
    (hr : s.pool.table.find? k = some (.live r)) (hidle : r.busy = false) :
    r.connection ∉ s.leases.map Lease.connection := by
  intro hmem
  obtain ⟨l, hl, hc⟩ := Multiset.mem_map.mp hmem
  have hx : (k, r.connection) ∈ s.pool.table.connections := Table.mem_connections.mpr ⟨r, hr, rfl⟩
  rcases he.stray l hl with ⟨r', hr', hg⟩ | hgone
  · obtain ⟨hbusy, hc'⟩ := he.of_mem hl hr' hg
    obtain ⟨-, rfl⟩ := hb.eq_of_connection hr' hr (hc'.symm.trans hc)
    rw [hidle] at hbusy
    cases hbusy
  · exact hb.apart_gone (Multiset.mem_add.mpr (.inl hx)) (ht.mem_gone hgone) hc.symm

/-! ### Moves that leave records and leases alone -/

/-- Exclusiveness is a matter of records and leases only, and of what was closed with all others. -/
theorem congr (he : Exclusive ⟨p, L, O, D⟩)
    (hfind : ∀ k r, q.table.find? k = some (.live r) ↔ p.table.find? k = some (.live r))
    (hgen : p.table.nextGeneration ≤ q.table.nextGeneration) (hh : p.history ⊆ q.history)
    (hD : D ⊆ D') : Exclusive ⟨q, L, O', D'⟩ := by
  refine ⟨?_, ?_, ?_, ?_, he.once⟩
  · intro k r hr
    exact he.held k r ((hfind k r).mp hr)
  · intro l hl
    rcases he.stray l hl with ⟨r, hr, hg⟩ | hgone | hleaves
    · exact .inl ⟨r, (hfind _ r).mpr hr, hg⟩
    · exact .inr (.inl (hh hgone))
    · exact .inr (.inr (hD hleaves))
  · intro k r hr
    exact (he.records k r ((hfind k r).mp hr)).trans_le hgen
  · intro l hl
    exact (he.leases l hl).trans_le hgen

theorem note (he : Exclusive ⟨p, L, O, D⟩) (e : Entry) : Exclusive ⟨p.note e, L, O', D⟩ :=
  he.congr (fun _ _ => Iff.rfl) le_rfl (List.subset_cons_self _ _) (fun _ h => h)

/-- A connection that left is closed, and the history tells why. -/
theorem close {d : Departure} {h : Handle} (he : Exclusive ⟨p, L, O, d ::ₘ D⟩)
    (hd : p.handles[d.connection]? = some h) : Exclusive ⟨(p.retire d).2, L, O, D⟩ := by
  have hhistory := Pool.history_retire hd
  have htable : (p.retire d).2.table = p.table := Pool.table_retire p d
  refine ⟨?_, ?_, ?_, ?_, he.once⟩
  · rw [htable]
    exact he.held
  · intro l hl
    rw [htable, hhistory]
    rcases he.stray l hl with hmatch | hgone | hleaves
    · exact .inl hmatch
    · exact .inr (.inl (List.mem_cons_of_mem _ (List.mem_cons_of_mem _ hgone)))
    · rcases Multiset.mem_cons.mp hleaves with rfl | hleaves
      · exact .inr (.inl (List.mem_cons_of_mem _ List.mem_cons_self))
      · exact .inr (.inr hleaves)
  · rw [htable]
    exact he.records
  · rw [htable]
    exact he.leases

/-- A place that was kept is given back. -/
theorem giveUp (he : Exclusive ⟨p, L, O, D⟩) (hk : p.table.find? k = some .opening) (hD : D ⊆ D') :
    Exclusive ⟨p.giveUpOpening k, L, O', D'⟩ := by
  rw [Pool.giveUpOpening_eq hk]
  refine he.congr (fun other r => ?_) le_rfl (fun _ h => h) hD
  rw [Pool.table_withTable, Table.find?_erase]
  split
  · rename_i ho
    subst ho
    simp [hk]
  · rfl

/-! ### Moves that concern one database -/

/-- **What happens to one database does not concern the others.** So it has to be looked at for this
database only. -/
theorem update (he : Exclusive ⟨p, L, O, D⟩) (k : String) {u : Table} {L' : Multiset Lease}
    (hu : ∀ other, other ≠ k → u.find? other = p.table.find? other)
    (hL : ∀ other g, other ≠ k → leasesOn L' other g = leasesOn L other g)
    (hheld : ∀ r, u.find? k = some (.live r) → r.generation < u.nextGeneration ∧
      leasesOn L' k r.generation = if r.busy then {⟨k, r.generation, r.connection⟩} else 0)
    (hstray : ∀ l ∈ L', l.database = k → l.generation < u.nextGeneration ∧ (l.IsMatched u ∨
      .removed .drained k l.connection ∈ p.history ∨ ⟨.drained, k, l.connection⟩ ∈ D'))
    (hgen : p.table.nextGeneration ≤ u.nextGeneration)
    (honce : (L'.map Lease.connection).Nodup) (hD : D ⊆ D') :
    Exclusive ⟨p.withTable u, L', O', D'⟩ := by
  have hback : ∀ l ∈ L', l.database ≠ k → l ∈ L := by
    intro l hl hk
    have hmem : l ∈ leasesOn L' l.database l.generation := mem_leasesOn.mpr ⟨hl, rfl, rfl⟩
    rw [hL _ _ hk] at hmem
    exact (mem_leasesOn.mp hmem).1
  refine ⟨?_, ?_, ?_, ?_, honce⟩
  · intro other r hr
    by_cases ho : other = k
    · subst ho
      exact (hheld r hr).2
    · rw [hL _ _ ho]
      exact he.held other r ((hu other ho).symm.trans hr)
  · intro l hl
    by_cases hk : l.database = k
    · subst hk
      exact (hstray l hl rfl).2
    · rcases he.stray l (hback l hl hk) with ⟨r, hr, hg⟩ | hgone | hleaves
      · exact .inl ⟨r, (hu _ hk).trans hr, hg⟩
      · exact .inr (.inl hgone)
      · exact .inr (.inr (hD hleaves))
  · intro other r hr
    by_cases ho : other = k
    · subst ho
      exact (hheld r hr).1
    · exact (he.records other r ((hu other ho).symm.trans hr)).trans_le hgen
  · intro l hl
    by_cases hk : l.database = k
    · exact (hstray l hl hk).1
    · exact (he.leases l (hback l hl hk)).trans_le hgen

/-- A lease that ends without a record leaves the others alone. -/
theorem forget (he : Exclusive ⟨p, l ::ₘ L, O, D⟩) (hl : ¬l.IsMatched p.table) :
    Exclusive ⟨p, L, O, D⟩ := by
  refine ⟨?_, ?_, he.records, ?_, ?_⟩
  · intro k r hr
    have hne : ¬(l.database = k ∧ l.generation = r.generation) := by
      rintro ⟨rfl, hg⟩
      exact hl ⟨r, hr, hg.symm⟩
    rw [← he.held k r hr]
    exact (leasesOn_cons_of_ne hne).symm
  · exact fun l' hl' => he.stray l' (Multiset.mem_cons_of_mem hl')
  · exact fun l' hl' => he.leases l' (Multiset.mem_cons_of_mem hl')
  · exact (Multiset.nodup_cons.mp ((Multiset.map_cons Lease.connection l L) ▸ he.once)).2

/-- A lease on a record is the only one. -/
theorem only (he : Exclusive ⟨p, l ::ₘ L, O, D⟩)
    (hr : p.table.find? l.database = some (.live r)) (hg : r.generation = l.generation) :
    leasesOn L l.database r.generation = 0 := by
  have hbusy := (he.of_mem (Multiset.mem_cons_self l L) hr hg).1
  have hheld := he.held _ r hr
  rw [if_pos hbusy, hg] at hheld
  have hcard := congrArg Multiset.card (hheld.symm.trans (leasesOn_cons_self l)).symm
  rw [Multiset.card_cons, Multiset.card_singleton, Nat.add_eq_right] at hcard
  rw [hg]
  exact Multiset.card_eq_zero.mp hcard

/-- The record of a lease leaves the table, or is idle, as the lease ends. -/
theorem settle (he : Exclusive ⟨p, l ::ₘ L, O, D⟩)
    (hr : p.table.find? l.database = some (.live r)) (hg : r.generation = l.generation) {u : Table}
    (hu : ∀ other, other ≠ l.database → u.find? other = p.table.find? other)
    (hrest : ∀ r', u.find? l.database = some (.live r') → r' = r.rest)
    (hgen : u.nextGeneration = p.table.nextGeneration) (hD : D ⊆ D') :
    Exclusive ⟨p.withTable u, L, O, D'⟩ := by
  have honly := he.only hr hg
  have hother : ∀ l' ∈ L, l'.database = l.database → l'.generation ≠ r.generation := by
    intro l' hl' hk hg'
    have hmem : l' ∈ leasesOn L l.database r.generation := mem_leasesOn.mpr ⟨hl', hk, hg'⟩
    rw [honly] at hmem
    cases hmem
  refine he.update l.database hu ?_ ?_ ?_ hgen.ge ?_ hD
  · intro other g ho
    exact (leasesOn_cons_of_ne fun h => ho h.1.symm).symm
  · intro r' hr'
    rw [hrest r' hr', hgen]
    exact ⟨he.records _ r hr, honly⟩
  · intro l' hl' hk
    rw [hgen]
    refine ⟨he.leases l' (Multiset.mem_cons_of_mem hl'), ?_⟩
    rcases he.stray l' (Multiset.mem_cons_of_mem hl') with ⟨r', hr', hg'⟩ | hgone | hleaves
    · rw [hk, hr] at hr'
      cases hr'
      exact absurd hg'.symm (hother l' hl' hk)
    · exact .inr (.inl (hk ▸ hgone))
    · exact .inr (.inr (hD (hk ▸ hleaves)))
  · exact (Multiset.nodup_cons.mp ((Multiset.map_cons Lease.connection l L) ▸ he.once)).2

/-- A record that leaves the table takes no lease with it, unless everything is closed. -/
theorem leave (he : Exclusive ⟨p, L, O, D⟩) (hr : p.table.find? k = some (.live r)) {why : Removal}
    (hwhy : why = .drained ∨ r.busy = false) :
    Exclusive ⟨p.withTable (p.table.erase k), L, O, ⟨why, k, r.connection⟩ ::ₘ D⟩ := by
  have hfind : (p.table.erase k).find? k = none := by simp
  refine he.update k (fun other ho => by simp [ho]) (fun _ _ _ => rfl) ?_ ?_ le_rfl he.once
    (Multiset.subset_cons D _)
  · intro r' hr'
    rw [hfind] at hr'
    cases hr'
  · intro l hl hk
    subst hk
    refine ⟨he.leases l hl, .inr ?_⟩
    -- a lease on the record becomes a stray one, and only if all is closed can there be any
    rcases he.stray l hl with ⟨r', hr', hg⟩ | hgone | hleaves
    · rw [hr] at hr'
      cases hr'
      obtain ⟨hbusy, hc⟩ := he.of_mem hl hr hg
      rcases hwhy with rfl | hidle
      · exact .inr (hc ▸ Multiset.mem_cons_self _ D)
      · rw [hidle] at hbusy
        cases hbusy
    · exact .inl hgone
    · exact .inr (Multiset.mem_cons_of_mem hleaves)

/-- A lease begins on a record that has none. -/
theorem begin (he : Exclusive ⟨p, L, O, D⟩) (k : String) (r : Record) {u : Table}
    (hu : ∀ other, other ≠ k → u.find? other = p.table.find? other)
    (hr : u.find? k = some (.live r)) (hbusy : r.busy = true)
    (hnone : leasesOn L k r.generation = 0) (hgen : p.table.nextGeneration ≤ u.nextGeneration)
    (hlt : r.generation < u.nextGeneration)
    (hkept : ∀ r', p.table.find? k = some (.live r') → r'.generation = r.generation)
    (hc : r.connection ∉ L.map Lease.connection) :
    Exclusive ⟨p.withTable u, ⟨k, r.generation, r.connection⟩ ::ₘ L, O', D⟩ := by
  refine he.update k hu ?_ ?_ ?_ hgen ?_ (fun _ h => h)
  · intro other g ho
    exact leasesOn_cons_of_ne fun h => ho h.1.symm
  · intro r' hr'
    rw [hr] at hr'
    cases hr'
    refine ⟨hlt, ?_⟩
    rw [if_pos hbusy]
    exact (leasesOn_cons_self (L := L) ⟨k, r.generation, r.connection⟩).trans
      (congrArg (Multiset.cons _) hnone)
  · intro l hl hk
    rcases Multiset.mem_cons.mp hl with rfl | hl
    · exact ⟨hlt, .inl ⟨r, hr, rfl⟩⟩
    · refine ⟨(he.leases l hl).trans_le hgen, ?_⟩
      rcases he.stray l hl with ⟨r', hr', hg⟩ | hgone
      · exact .inl ⟨r, hk ▸ hr, (hkept r' (hk ▸ hr')).symm.trans hg⟩
      · exact .inr (hk ▸ hgone)
  · rw [Multiset.map_cons, Multiset.nodup_cons]
    exact ⟨hc, he.once⟩

end Exclusive

/-- A record that may leave while it is in the table is idle, unless everything is closed. -/
theorem Balanced.drained_or_idle (hb : Balanced ⟨p, L, O, D⟩)
    (hr : p.table.find? k = some (.live r)) {why : Removal} (hw : why.Allows now p O k r) :
    why = .drained ∨ r.busy = false := by
  cases why with
  | pruned =>
    have hprune : r.isPrunable now = true := hw
    simp only [Record.isPrunable, Record.isReclaimable, Bool.and_eq_true,
      Bool.not_eq_true'] at hprune
    exact .inr hprune.1.1
  | evicted =>
    have hevict : r.isReclaimable = true := hw
    simp only [Record.isReclaimable, Bool.and_eq_true, Bool.not_eq_true'] at hevict
    exact .inr hevict.1
  | replaced => exact .inr hw.1
  | drained => exact .inl rfl
  | displaced => exact absurd rfl (hb.not_displaced hr hw)
  | _ => exact absurd hw id

/-- **Every move keeps leases exclusive.** -/
theorem Exclusive.move (he : Exclusive s) (h : Move now s t) (hb : Balanced s) (ht : Told s) :
    Exclusive t := by
  cases h with
  | remark e _ => exact he.note e
  | walk => exact he.congr (fun _ _ => Iff.rfl) le_rfl (fun _ h => h) (fun _ h => h)
  | reset =>
    exact he.congr (fun _ _ => Iff.rfl) le_rfl (List.subset_cons_self _ _) (fun _ h => h)
  | flags connection f hf =>
    exact he.congr (fun _ _ => Iff.rfl) le_rfl (fun _ h => h) (fun _ h => h)
  | leave why k r hr hw => exact he.leave hr (hb.drained_or_idle hr hw)
  | close d =>
    obtain ⟨hd, hh⟩ := hb.exists_handle_leaving
    exact he.close hh
  | reserve r hr hroom =>
    refine he.congr (fun other r' => ?_) le_rfl (fun _ h => h) (fun _ h => h)
    rw [Pool.table_withTable, Table.find?_put]
    split
    · rename_i ho
      subst ho
      simp [hr]
    · rfl
  | ask r => exact he.note _
  | @unanswered p L O D r =>
    have hopen : p.table.find? r.database = some .opening :=
      hb.find?_opening (Multiset.mem_cons_self _ O)
    exact Exclusive.giveUp (O := 0) (he.note (.unconnected r.database)) hopen fun _ h => h
  | connect r fresh hd hc =>
    exact he.congr (fun _ _ => Iff.rfl) le_rfl (List.subset_cons_self _ _) (fun _ h => h)
  | startHook r connection hr => exact he.note _
  | finishHook r connection => exact he.note _
  | @abandon p L O D r connection =>
    have hopen : p.table.find? r.database = some .opening :=
      hb.find?_opening (Multiset.mem_cons_self _ O)
    exact he.giveUp hopen (Multiset.subset_cons D _)
  | @publish p L O D o connection deadline ho hd hr =>
    have hopen : p.table.find? o.database = some .opening :=
      hb.find?_opening (Multiset.mem_cons_self o O)
    have hc := Opening.connection?_of_fit ho
    have hmem : (o.database, connection) ∈ Opening.connections (o ::ₘ O) := by
      simp [Opening.opened?_of_connection? hc]
    -- no lease has a generation that is not used up
    have hnone : leasesOn L o.database p.table.nextGeneration = 0 := by
      refine Multiset.filter_eq_nil.mpr fun l hl => ?_
      rintro ⟨-, hg⟩
      exact (he.leases l hl).ne hg
    refine Exclusive.note (O := 0) ?_ _
    exact he.begin o.database
      { connection, expiresAt := deadline, lastUsedAt := now, busy := true
        persistent := o.request.persistent, generation := p.table.nextGeneration }
      (fun other hne => by simp [hne]) (by simp) rfl hnone (Nat.le_succ _) (Nat.lt_succ_self _)
      (fun r' hr' => by rw [hopen] at hr'; cases hr')
      (he.not_leased_of_opening hb ht hmem)
  | lose o connection ho hd =>
    exact he.congr (fun _ _ => Iff.rfl) (Nat.le_succ _) (List.subset_cons_self _ _) (fun _ h => h)
  | reuse k r ttl deadline hr hidle hh hd =>
    have hheld := he.held k r hr
    rw [hidle] at hheld
    have hnot := he.not_leased_of_idle hb ht hr hidle
    refine Exclusive.note (O := 0) ?_ _
    refine he.begin k (r.lease deadline now) (fun other hne => by simp [hne])
      (by simp [hr, Slot.modify]) rfl hheld le_rfl (he.records k r hr) ?_ hnot
    intro r' hr'
    rw [hr] at hr'
    cases hr'
    rfl
  | rest l hh hm =>
    obtain ⟨r, hr, hg⟩ := Lease.isMatched_iff.mpr hm
    refine Exclusive.note (O := 0) ?_ _
    refine (he.note (.leaseEnded l .release)).settle hr hg (fun other hne => by simp [hne]) ?_ rfl
      fun _ h => h
    intro r' hr'
    simp only [Table.find?_modify, hr] at hr'
    cases hr'
    rfl
  | depart l hh hm =>
    exact Exclusive.note (O := 0)
      (Exclusive.forget (l := l) (he.note _) (Lease.not_isMatched_iff.mpr hm)) _
  | discard l how why r hw hr hg =>
    refine (he.note (.leaseEnded l how)).settle hr hg (fun other hne => by simp [hne]) ?_ rfl
      (Multiset.subset_cons _ _)
    intro r' hr'
    simp at hr'
  | forget l how hw hm =>
    exact Exclusive.forget (l := l) (he.note _) (Lease.not_isMatched_iff.mpr hm)

theorem exclusive_fresh (settings : PoolSettings) (enumeration : Enumeration) :
    Exclusive ⟨{ settings, enumeration }, 0, 0, 0⟩ := by
  refine ⟨?_, ?_, ?_, ?_, Multiset.nodup_zero⟩
  · rintro k r ⟨⟩
  · rintro l ⟨⟩
  · rintro k r ⟨⟩
  · rintro l ⟨⟩

end Custody

/-! ### Reachable worlds -/

namespace World

variable {w : World}

/-- The leases with a database and a generation that have not ended. -/
def leasesOn (w : World) (database : String) (generation : Nat) : List Lease :=
  w.heldLeases.filter fun l => l.database = database ∧ l.generation = generation

theorem coe_leasesOn (w : World) (k : String) (g : Nat) :
    (↑(w.leasesOn k g) : Multiset Lease) = Custody.leasesOn w.custody.leases k g :=
  (Multiset.filter_coe _ _).symm

/-- In every reachable world every lease is exclusive. -/
theorem IsReachable.exclusive (hw : w.IsReachable) : w.custody.Exclusive := by
  refine hw.sound (P := Custody.Exclusive) ?_ Custody.exclusive_fresh
  intro now s t h hb ht he
  exact he.move h hb ht

/-- **Leases are exclusive in every reachable world.** A record is busy if and only if there is
exactly one lease on it, and that lease holds its very connection; no connection is leased twice;
and a lease without a record is one whose record left when everything was closed. -/
theorem IsReachable.leases_exclusive (hw : w.IsReachable) :
    (∀ k r, w.pool.table.find? k = some (.live r) →
      (r.busy = true ↔ (w.leasesOn k r.generation).length = 1) ∧
      (∀ l ∈ w.leasesOn k r.generation, l.connection = r.connection) ∧
      (r.busy = false → w.leasesOn k r.generation = [])) ∧
    (w.heldLeases.map Lease.connection).Nodup ∧
    (∀ l ∈ w.heldLeases, ¬l.IsMatched w.pool.table ↔
      .removed .drained l.database l.connection ∈ w.pool.history) := by
  have he := hw.exclusive
  refine ⟨fun k r hr => ?_, Multiset.coe_nodup.mp he.once, fun l hl => ⟨?_, ?_⟩⟩
  · have hheld : (↑(w.leasesOn k r.generation) : Multiset Lease) = _ :=
      (coe_leasesOn w k _).trans (he.held k r hr)
    cases hbusy : r.busy with
    | false =>
      rw [hbusy] at hheld
      have hnil : w.leasesOn k r.generation = [] := (Multiset.coe_eq_zero _).mp hheld
      simp [hnil]
    | true =>
      rw [hbusy] at hheld
      have hone : w.leasesOn k r.generation = [⟨k, r.generation, r.connection⟩] :=
        Multiset.coe_eq_singleton.mp hheld
      simp [hone]
  · intro hstray
    rcases he.stray l hl with hmatch | hgone | hleaves
    · exact absurd hmatch hstray
    · exact hgone
    · cases hleaves
  · rintro hgone ⟨r, hr, hg⟩
    -- a connection on record has not been closed
    have hx : (l.database, r.connection) ∈ w.pool.table.connections :=
      Table.mem_connections.mpr ⟨r, hr, rfl⟩
    have hc := (he.of_mem hl hr hg).2
    exact hw.balanced.apart_gone (Multiset.mem_add.mpr (.inl hx)) (hw.told.mem_gone (.inl hgone))
      hc.symm

/-- A lease that outlives its record: everything was closed while it was held, and the database was
leased again. -/
theorem IsReachable.leases_exclusive_after_drain :
    let w := (World.init {} false).after
      [.start (.lease { database := "a", ttl := ⟨5⟩ } "first"), .command .closeAll,
        .start (.lease { database := "a", ttl := ⟨5⟩ } "second")]
    w.heldLeases = [⟨"a", 1, 0⟩, ⟨"a", 2, 1⟩] ∧ (w.leasesOn "a" 2).length = 1 ∧
      .removed .drained "a" 0 ∈ w.pool.history := by
  intro w
  have hw : w.IsReachable := ⟨_, _, _, _, rfl⟩
  obtain ⟨hrecords, -, hstray⟩ := hw.leases_exclusive
  refine ⟨rfl, ?_, ?_⟩
  · exact (hrecords "a" ⟨1, ⟨5⟩, ⟨0⟩, true, false, 2⟩ rfl).1.mp rfl
  · refine (hstray ⟨"a", 1, 0⟩ (List.mem_cons_self ..)).mp ?_
    rintro ⟨r, hr, hg⟩
    cases hr
    cases hg

end World

end KeyedPool
