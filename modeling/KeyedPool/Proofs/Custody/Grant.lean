import KeyedPool.Proofs.Custody.Departure

/-!
# What a connection was granted as

A fresh connection comes into the table under its first lease. Its generation is settled then, and
so is whether it is persistent: no later lease changes either. Until the connection departs, its
record shows what it was granted as, and nothing else is on record.

* `KeyedPool.Grant`: the first lease of a connection, and whether the connection is persistent.
* `KeyedPool.History.granted`: the grants in a history.
* `KeyedPool.Table.Shows`: a record shows what its connection was granted as.
* `KeyedPool.Custody.Move.keeps_record`, `KeyedPool.Custody.Move.shown_before`: what a move does to
  the records.
* `KeyedPool.Custody.Shown.move`: every grant is on record until its connection departs, and there
  are no other records.
-/

namespace KeyedPool

/-- What a connection is granted as when it comes into the table. -/
structure Grant where
  /-- The first lease of the connection. -/
  lease : Lease
  /-- Whether the connection is persistent. -/
  persistent : Bool

/-- What a connection is granted as with an entry. -/
def Entry.grants? : Entry → Option Grant
  | .published l _ _ persistent => some ⟨l, persistent⟩
  | _ => none

theorem Entry.grants?_of_isRemark {e : Entry} (he : e.isRemark = true) : e.grants? = none := by
  cases e <;> first | rfl | cases he

namespace History

/-- The grants in a history. -/
def granted (h : List Entry) : Multiset Grant := account Entry.grants? h

@[simp] theorem granted_cons (e : Entry) (h : List Entry) :
    granted (e :: h) = ↑e.grants?.toList + granted h :=
  account_cons _ e h

theorem mem_granted {h : List Entry} {g : Grant} :
    g ∈ granted h ↔ ∃ now ttl, Entry.published g.lease now ttl g.persistent ∈ h := by
  simp only [granted, account, Multiset.mem_coe, List.mem_filterMap]
  constructor
  · rintro ⟨e, he, hg⟩
    cases e <;> cases hg
    exact ⟨_, _, he⟩
  · rintro ⟨now, ttl, he⟩
    exact ⟨_, he, rfl⟩

theorem granted_mono {h h' : List Entry} (hsuffix : h <:+ h') : granted h ⊆ granted h' := by
  intro g hg
  obtain ⟨now, ttl, he⟩ := mem_granted.mp hg
  exact mem_granted.mpr ⟨now, ttl, hsuffix.subset he⟩

end History

open History

/-! ### Records -/

/-- What the connection of a record was granted as. -/
def Record.grant (database : String) (r : Record) : Grant :=
  ⟨⟨database, r.generation, r.connection⟩, r.persistent⟩

namespace Table

variable {t : Table} {g : Grant} {k : String} {r : Record}

/-- **A record shows what its connection was granted as.** -/
def Shows (t : Table) (g : Grant) : Prop :=
  ∃ r, t.find? g.lease.database = some (.live r) ∧ r.grant g.lease.database = g

theorem Shows.exists_record (h : t.Shows g) :
    ∃ r, t.find? g.lease.database = some (.live r) ∧ r.generation = g.lease.generation ∧
      r.connection = g.lease.connection ∧ r.persistent = g.persistent := by
  obtain ⟨r, hr, hg⟩ := h
  exact ⟨r, hr, congrArg (·.lease.generation) hg, congrArg (·.lease.connection) hg,
    congrArg Grant.persistent hg⟩

theorem shows_erase : (t.erase k).Shows g ↔ g.lease.database ≠ k ∧ t.Shows g := by
  rw [Shows, find?_erase]
  split
  · rename_i hk
    simp [hk]
  · rename_i hk
    simp [hk, Shows]

theorem shows_put_live :
    (t.put k (.live r)).Shows g ↔ g = r.grant k ∨ g.lease.database ≠ k ∧ t.Shows g := by
  rw [Shows, find?_put]
  split
  · rename_i hk
    subst hk
    simp [eq_comm]
  · rename_i hk
    have hne : g ≠ r.grant k := by
      rintro rfl
      exact hk rfl
    simp [hk, hne, Shows]

theorem shows_put_opening :
    (t.put k .opening).Shows g ↔ g.lease.database ≠ k ∧ t.Shows g := by
  rw [Shows, find?_put]
  split
  · rename_i hk
    simp [hk]
  · rename_i hk
    simp [hk, Shows]

/-- A slot without a record shows nothing. -/
theorem Shows.ne (h : t.Shows g) (hk : ∀ r, t.find? k ≠ some (.live r)) :
    g.lease.database ≠ k := by
  obtain ⟨r, hr, -⟩ := h
  rintro rfl
  exact hk r hr

theorem shows_modify {f : Record → Record} (hf : ∀ k r, (f r).grant k = r.grant k) :
    (t.modify k f).Shows g ↔ t.Shows g := by
  rw [Shows, find?_modify]
  split
  · rename_i hk
    subst hk
    constructor
    · rintro ⟨r, hr, hg⟩
      obtain ⟨slot, hslot, hmod⟩ := Option.map_eq_some_iff.mp hr
      cases slot with
      | opening => cases hmod
      | live r' =>
        cases hmod
        exact ⟨r', hslot, (hf _ r').symm.trans hg⟩
    · rintro ⟨r, hr, hg⟩
      exact ⟨f r, by rw [hr]; rfl, (hf _ r).trans hg⟩
  · exact Iff.rfl

@[simp] theorem shows_lease {deadline now : Instant} :
    (t.modify k (Record.lease deadline now)).Shows g ↔ t.Shows g :=
  shows_modify fun _ _ => rfl

@[simp] theorem shows_rest : (t.modify k Record.rest).Shows g ↔ t.Shows g :=
  shows_modify fun _ _ => rfl

end Table

namespace Custody

variable {now : Instant} {s t : Custody} {p : Pool} {L : Multiset Lease} {O : Multiset Opening}
  {D : Multiset Departure} {g : Grant} {d : Departure}

/-! ### Moves -/

/-- A place that is given back shows nothing. -/
theorem Balanced.shows_giveUp {o : Opening} (hb : Balanced ⟨p, L, o ::ₘ O, D⟩) (q : Pool)
    (hq : q.table = p.table) :
    (q.giveUpOpening o.database).table.Shows g ↔ p.table.Shows g := by
  have hopen : p.table.find? o.database = some .opening :=
    hb.find?_opening (Multiset.mem_cons_self o O)
  rw [Pool.giveUpOpening_eq (hq ▸ hopen), Pool.table_withTable, hq, Table.shows_erase]
  refine and_iff_right_of_imp fun hg => hg.ne fun r hr => ?_
  rw [hopen] at hr
  cases hr

/-- A record that is erased leaves with its connection. -/
theorem shows_or_departs {k : String} {r : Record} {why : Removal}
    (hr : p.table.find? k = some (.live r)) (hg : p.table.Shows g) {q : Pool}
    (hq : q.table = p.table.erase k) :
    q.table.Shows g ∨
      ∃ why', Departs ⟨q, L, O, ⟨why, k, r.connection⟩ ::ₘ D⟩
        ⟨why', g.lease.database, g.lease.connection⟩ := by
  by_cases hk : g.lease.database = k
  · obtain ⟨r', hr', hgrant⟩ := hg
    rw [hk] at hr' hgrant
    rw [hr] at hr'
    cases hr'
    exact .inr ⟨why, .inl (hgrant ▸ Multiset.mem_cons_self _ D)⟩
  · rw [hq, Table.shows_erase]
    exact .inl ⟨hk, hg⟩

/-- **A record stays until its connection departs**, and shows what it was granted as. -/
theorem Move.keeps_record (h : Move now s t) (hb : s.Balanced) (hg : s.pool.table.Shows g) :
    t.pool.table.Shows g ∨ ∃ why, t.Departs ⟨why, g.lease.database, g.lease.connection⟩ := by
  cases h with
  | leave why k r hr hw => exact shows_or_departs hr hg rfl
  | close d =>
    rw [Pool.table_retire]
    exact .inl hg
  | reserve r hr hroom =>
    refine .inl (Table.shows_put_opening.mpr ⟨hg.ne fun r' hr' => ?_, hg⟩)
    rw [hr] at hr'
    cases hr'
  | unanswered r => exact .inl ((hb.shows_giveUp (Pool.note _ _) rfl).mpr hg)
  | abandon r c => exact .inl ((hb.shows_giveUp _ rfl).mpr hg)
  | publish o c deadline ho ht hr =>
    refine .inl (Table.shows_put_live.mpr (.inr ⟨hg.ne fun r' hr' => ?_, hg⟩))
    simp [Table.record?, hr', Slot.record?] at hr
  | reuse k r ttl deadline hr hidle hh ht => exact .inl (Table.shows_lease.mpr hg)
  | rest l hh hm => exact .inl (Table.shows_rest.mpr hg)
  | discard l how why r hw hr hg' => exact shows_or_departs hr hg rfl
  | _ => exact .inl hg

/-- **There are no other records** than those that were granted, each under the next generation. -/
theorem Move.shown_before (h : Move now s t) (hb : s.Balanced) (hg : t.pool.table.Shows g) :
    s.pool.table.Shows g ∨
      g ∈ granted t.pool.history ∧ g.lease.generation = s.pool.table.nextGeneration := by
  cases h with
  | leave why k r hr hw => exact .inl (Table.shows_erase.mp hg).2
  | close d =>
    rw [Pool.table_retire] at hg
    exact .inl hg
  | reserve r hr hroom => exact .inl (Table.shows_put_opening.mp hg).2
  | unanswered r => exact .inl ((hb.shows_giveUp (Pool.note _ _) rfl).mp hg)
  | abandon r c => exact .inl ((hb.shows_giveUp _ rfl).mp hg)
  | publish o c deadline ho ht hr =>
    rcases Table.shows_put_live.mp hg with rfl | ⟨-, hg⟩
    · refine .inr ⟨mem_granted.mpr ⟨now, o.request.ttl, ?_⟩, rfl⟩
      exact List.mem_cons_self
    · exact .inl hg
  | reuse k r ttl deadline hr hidle hh ht => exact .inl (Table.shows_lease.mp hg)
  | rest l hh hm => exact .inl (Table.shows_rest.mp hg)
  | discard l how why r hw hr hg' => exact .inl (Table.shows_erase.mp hg).2
  | _ => exact .inl hg

/-- **What a move grants**: the connection of an acquire under the next generation, or nothing. -/
theorem Move.grants (h : Move now s t) (hb : s.Balanced) :
    granted t.pool.history = granted s.pool.history ∨
      ∃ o ∈ s.openings, ∃ c, o.connection? = some c ∧
        let g : Grant := ⟨⟨o.database, s.pool.table.nextGeneration, c⟩, o.request.persistent⟩
        granted t.pool.history = g ::ₘ granted s.pool.history ∧ t.pool.table.Shows g := by
  cases h with
  | remark e he => exact .inl (by simp [Entry.grants?_of_isRemark he])
  | close d =>
    obtain ⟨h, hh⟩ := hb.exists_handle_leaving
    refine .inl ?_
    rw [Pool.history_retire hh, Handle.closing]
    split <;> simp [Entry.grants?]
  | unanswered r =>
    refine .inl ?_
    rw [Pool.history_giveUpOpening]
    simp [Entry.grants?]
  | abandon r c =>
    rw [Pool.history_giveUpOpening]
    exact .inl rfl
  | @publish p L O D o c deadline ho ht hr =>
    refine .inr ⟨o, Multiset.mem_cons_self o O, c, Opening.connection?_of_fit ho, ?_, ?_⟩
    · exact granted_cons _ _
    · exact Table.shows_put_live.mpr (.inl rfl)
  | _ => exact .inl (by simp [Entry.grants?, Pool.modifyHandle, Pool.skipGeneration])

/-! ### Runs -/

/-- **Every grant is on record** until its connection departs, and there are no other records. -/
structure Shown (s : Custody) : Prop where
  /-- A record shows what its connection was granted as. -/
  granted : ∀ g, s.pool.table.Shows g → g ∈ granted s.pool.history
  /-- What was granted is on record, or has departed. -/
  kept : ∀ g ∈ History.granted s.pool.history, s.pool.table.Shows g ∨
    ∃ why, s.Departs ⟨why, g.lease.database, g.lease.connection⟩

/-- **Every move keeps it so.** -/
theorem Shown.move (hs : s.Shown) (h : Move now s t) (hb : s.Balanced) : t.Shown := by
  refine ⟨fun g hg => ?_, fun g hg => ?_⟩
  · rcases h.shown_before hb hg with hg | ⟨hg, -⟩
    · exact granted_mono (h.suffix hb) (hs.granted g hg)
    · exact hg
  · have hold (hg : g ∈ History.granted s.pool.history) : t.pool.table.Shows g ∨
        ∃ why, t.Departs ⟨why, g.lease.database, g.lease.connection⟩ := by
      rcases hs.kept g hg with hshows | ⟨why, hd⟩
      · exact h.keeps_record hb hshows
      · exact .inr ⟨why, hd.move h hb⟩
    rcases h.grants hb with heq | ⟨o, ho, c, hc, heq, hshows⟩
    · exact hold (heq ▸ hg)
    · rw [heq] at hg
      rcases Multiset.mem_cons.mp hg with rfl | hg
      · exact .inl hshows
      · exact hold hg

/-- What is on record has not departed. -/
theorem Departs.ne_of_shows (hd : s.Departs d) (hb : s.Balanced) (ht : s.Told)
    (hg : s.pool.table.Shows g) : d.connection ≠ g.lease.connection := by
  obtain ⟨r, hr, -, hc, -⟩ := hg.exists_record
  have hrecord := Table.mem_connections.mpr ⟨r, hr, hc⟩
  exact (hb.apart_gone (Multiset.mem_add.mpr (.inl hrecord)) (hd.mem_gone ht)).symm

/-- **A connection was granted as its record shows**, and in no other way. -/
theorem Shown.granted_iff {l : Lease} {persistent persistent' : Bool} (hs : s.Shown)
    (hb : s.Balanced) (ht : s.Told) (hshows : s.pool.table.Shows ⟨l, persistent⟩) :
    ⟨l, persistent'⟩ ∈ History.granted s.pool.history ↔ persistent' = persistent := by
  refine ⟨fun hg => ?_, fun heq => heq ▸ hs.granted _ hshows⟩
  rcases hs.kept _ hg with hshows' | ⟨why, hd⟩
  · obtain ⟨r, hr, -, -, hpersistent⟩ := hshows.exists_record
    obtain ⟨r', hr', -, -, hpersistent'⟩ := hshows'.exists_record
    rw [hr] at hr'
    cases hr'
    exact hpersistent'.symm.trans hpersistent
  · exact (hd.ne_of_shows (g := ⟨l, persistent⟩) hb ht hshows rfl).elim

theorem shown_fresh (settings : PoolSettings) (enumeration : Enumeration) :
    Shown ⟨{ settings, enumeration }, 0, 0, 0⟩ := by
  refine ⟨?_, ?_⟩
  · rintro g ⟨r, hr, -⟩
    cases hr
  · rintro g hg
    cases hg

end Custody

end KeyedPool
