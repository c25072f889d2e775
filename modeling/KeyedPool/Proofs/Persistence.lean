import KeyedPool.Proofs.Conservation
import KeyedPool.Proofs.Custody.Ending
import KeyedPool.Proofs.Custody.Grant
import KeyedPool.Proofs.Draining

/-!
# Persistent connections

Neither pruning nor eviction takes a persistent connection, nor does the admission of another
database. It leaves the pool only if it is found dead, if its lease is cancelled, or if everything
is closed, which does not happen in an event that does not ask for it.

Whether a connection is persistent is settled by the acquire that opened it. An acquire that leases
it later gets it as it is, whatever it asks for. So the connection of the pool itself is persistent
when its own acquire opened it, and else if the acquire that did so asked for it.

* `KeyedPool.Removal.isForced`: why a persistent connection may leave.
* `KeyedPool.Pool.Spares`: a pool spares a record.
* `KeyedPool.Custody.Sparing.move`: persistent connections leave for no other reason.
* `KeyedPool.World.Guards`: what the next event does not do to a connection.
* `KeyedPool.World.Passes.leased_record`: the record of a lease, and what it is granted as.
* `KeyedPool.World.Passes.main_connection_kept`: the connection of the pool itself.
* `KeyedPool.World.main_connection_evicted`: it need not be persistent.
-/

namespace KeyedPool

open History

/-- Whether a connection leaves since it is of no use any more, or since everything is closed, and
not to save room. -/
def Removal.isForced : Removal → Bool
  | .replaced => true
  | .cancelled => true
  | .broken => true
  | .drained => true
  | _ => false

/-! ### Upkeep -/

namespace Pool

variable {p q : Pool} {now : Instant} {k other : String} {r : Record}

/-- A persistent record is in the table. -/
def HasPersistent (p : Pool) (k : String) (r : Record) : Prop :=
  p.table.find? k = some (.live r) ∧ r.persistent = true

namespace HasPersistent

theorem congr (h : p.HasPersistent k r) (htable : q.table = p.table) : q.HasPersistent k r := by
  rw [HasPersistent, htable]
  exact h

theorem takeLive (h : p.HasPersistent k r) (why : Removal) :
    (p.takeLive why (Record.isPrunable now)).2.HasPersistent k r := by
  obtain ⟨hr, hp⟩ := h
  refine ⟨?_, hp⟩
  simp [Pool.takeLive, hr, Option.filter, Slot.holds, Slot.record?, Record.isPrunable,
    Record.isReclaimable, hp]

/-- The oldest record is one that may be taken. -/
theorem takeOldest (h : p.HasPersistent k r) : p.takeOldest.2.HasPersistent k r := by
  obtain ⟨hr, hp⟩ := h
  rw [Pool.takeOldest]
  split
  · exact ⟨hr, hp⟩
  · rename_i e holdest
    obtain ⟨-, he, hreclaim⟩ := Table.mem_recordsAlong.mp (Table.mem_of_oldest? holdest)
    have hne : k ≠ e.1 := by
      rintro rfl
      rw [hr] at he
      cases he
      simp [Record.isReclaimable, hp] at hreclaim
    refine ⟨?_, hp⟩
    simpa [hne] using hr

theorem prune (h : p.HasPersistent k r) : (p.prune now).2.HasPersistent k r := by
  have htaken : (p.takeLive .pruned (Record.isPrunable now)).2.HasPersistent k r :=
    h.takeLive .pruned
  refine htaken.congr ?_
  rw [Pool.prune]
  dsimp only
  split <;> simp

theorem evict (h : p.HasPersistent k r) : p.evict.2.HasPersistent k r := by
  refine h.takeOldest.congr ?_
  rw [Pool.evict]
  split <;> simp [*]

theorem makeRoom (h : p.HasPersistent k r) (limit : Nat) :
    (p.makeRoom limit now).2.HasPersistent k r := by
  rw [Pool.makeRoom]
  split
  · exact h
  · dsimp only
    split
    · exact h.takeLive .pruned
    · exact (h.takeLive .pruned).takeOldest

/-- What happens to another database does not concern it. -/
theorem withTable {t : Table} (h : p.HasPersistent k r) (ht : t.find? k = p.table.find? k) :
    (p.withTable t).HasPersistent k r :=
  ⟨ht.trans h.1, h.2⟩

theorem reserve (h : p.HasPersistent k r) (hk : other ≠ k) :
    (p.reserve other now).2.2.HasPersistent k r := by
  rw [Pool.reserve]
  dsimp only
  split
  · exact h.withTable (by simp [hk.symm])
  · split
    · exact (h.makeRoom _).withTable (by simp [hk.symm])
    · exact h.makeRoom _

theorem attempt (h : p.HasPersistent k r) (ttl : Duration) (hk : other ≠ k) :
    (p.attempt other ttl now).2.HasPersistent k r := by
  suffices hadmission : (p.admission other ttl now).2.2.HasPersistent k r from
    hadmission.congr (table_retireAll _ _)
  rw [admission]
  split
  · exact h.reserve hk
  · exact h
  · split
    · exact h
    · split
      · split
        · exact h
        · exact h.withTable (by simp [hk.symm])
      · have herased : (p.withTable (p.table.erase other)).HasPersistent k r :=
          h.withTable (by simp [hk.symm])
        exact herased.reserve hk

end HasPersistent

/-- The record of a connection that was not closed is in the table. -/
def HasOpen (p : Pool) (k : String) (r : Record) : Prop :=
  p.table.find? k = some (.live r) ∧ ∃ h, p.handles[r.connection]? = some h ∧ h.closeCalls = 0

/-- What is written down of an attempt concerns no record. -/
theorem table_noted {a : Admission} {request : Request} :
    (a.noted now request p).table = p.table := by
  cases a <;> rfl

theorem hasOpen_noted {a : Admission} {request : Request} :
    (a.noted now request p).HasOpen k r ↔ p.HasOpen k r := by
  cases a <;> rfl

/-- **A pool spares a record**: pruning at any time, evicting and an acquire for another database
leave it as it is and do not close its connection. -/
structure Spares (p : Pool) (k : String) (r : Record) : Prop where
  /-- The record is in the table. -/
  here : p.HasOpen k r
  /-- It is not pruned. -/
  pruned : ∀ now, (p.prune now).2.HasOpen k r
  /-- It is not evicted. -/
  evicted : p.evict.2.HasOpen k r
  /-- It does not give way to another database. -/
  admitted : ∀ other ttl now, other ≠ k → (p.attempt other ttl now).2.HasOpen k r

end Pool

namespace Custody

variable {now : Instant} {s t : Custody} {g : Grant} {d : Departure} {k : String} {r : Record}

/-- A record that is in the table is that of a connection that was not closed. -/
theorem Balanced.hasOpen (hb : s.Balanced) (ht : s.Told)
    (hr : s.pool.table.find? k = some (.live r)) : s.pool.HasOpen k r := by
  have hrecord : (k, r.connection) ∈ s.pool.table.connections :=
    Table.mem_connections.mpr ⟨r, hr, rfl⟩
  exact ⟨hr, ht.exists_open_handle hb (Multiset.mem_add.mpr (.inl hrecord))⟩

/-- Nothing that happens to a pool closes the connection of a record that stays. -/
theorem Moves.hasOpen (h : Moves now s t) (hb : s.Balanced) (ht : s.Told)
    (hr : t.pool.table.find? k = some (.live r)) : t.pool.HasOpen k r := by
  have hkept : t.Balanced ∧ t.Told := by
    refine h.keeps (P := fun s => s.Balanced ∧ s.Told) ?_ ⟨hb, ht⟩
    rintro s t h ⟨hb, ht⟩
    exact ⟨hb.move h, ht.move h hb⟩
  exact hkept.1.hasOpen hkept.2 hr

/-- **A persistent record is spared.** -/
theorem Balanced.spares {p : Pool} {L : Multiset Lease} {O : Multiset Opening}
    {D : Multiset Departure} (hb : Balanced ⟨p, L, O, D⟩) (ht : Told ⟨p, L, O, D⟩)
    (h : p.HasPersistent k r) : p.Spares k r := by
  refine ⟨hb.hasOpen ht h.1, fun now => ?_, ?_, fun other ttl now hk => ?_⟩
  · have hmoves : Moves now ⟨p, L, O, D⟩ ⟨(p.prune now).2, L, O, D⟩ := Pool.moves_prune
    exact hmoves.hasOpen hb ht h.prune.1
  · have hmoves : Moves ⟨0⟩ ⟨p, L, O, D⟩ ⟨p.evict.2, L, O, D⟩ := Pool.moves_evict
    exact hmoves.hasOpen hb ht h.evict.1
  · have hmoves : Moves now ⟨p, L, O, D⟩ _ := Pool.moves_attempt { database := other, ttl }
    refine Pool.hasOpen_noted.mp (hmoves.hasOpen hb ht ?_)
    rw [Pool.table_noted]
    exact (h.attempt ttl hk).1

/-! ### Departures -/

/-- **Why a persistent record may leave the table.** -/
theorem Balanced.isForced_of_allows {why : Removal} (hb : s.Balanced)
    (hr : s.pool.table.find? k = some (.live r)) (hp : r.persistent = true)
    (hw : why.Allows now s.pool s.openings k r) : why.isForced = true := by
  cases why with
  | pruned => simp [Removal.Allows, Record.isPrunable, Record.isReclaimable, hp] at hw
  | evicted => simp [Removal.Allows, Record.isReclaimable, hp] at hw
  | displaced => exact absurd rfl (hb.not_displaced hr hw)
  | abandoned => exact hw.elim
  | _ => rfl

/-- **Persistent connections are spared**: they depart for no reason of upkeep. -/
def Sparing (s : Custody) : Prop :=
  ∀ g ∈ granted s.pool.history, g.persistent = true →
    ∀ d, s.Departs d → d.connection = g.lease.connection → d.why.isForced = true

/-- **Every move spares them.** -/
theorem Sparing.move (hs : s.Sparing) (hk : s.Shown) (h : Move now s t) (hb : s.Balanced)
    (ht : s.Told) : t.Sparing := by
  intro g hg hp d hd hc
  have hold (hg : g ∈ granted s.pool.history) : d.why.isForced = true := by
    rcases h.departs hb hd with hd | hl
    · exact hs g hg hp d hd hc
    · rcases hk.kept g hg with hshows | ⟨why, hgone⟩
      · -- its record is in the table, so it is the one that leaves
        obtain ⟨r, hr, -, hrc, hrp⟩ := hshows.exists_record
        cases hl with
        | taken why k r' hr' hw =>
          obtain ⟨-, rfl⟩ := hb.eq_of_connection hr' hr (hc.trans hrc.symm)
          exact hb.isForced_of_allows hr' (hrp.trans hp) hw
        | discarded l why r' hl hw hr' hg' => rcases hw with rfl | rfl <;> rfl
        | abandoned request c ho =>
          have hrecord := Table.mem_connections.mpr ⟨r, hr, hrc⟩
          have hopening := (Multiset.mem_filterMap Opening.opened? _).mpr ⟨_, ho, rfl⟩
          exact absurd hc.symm (hb.apart_opening hrecord hopening)
      · exact absurd hc (hb.departs_once ht hgone hl)
  rcases h.grants hb with heq | ⟨o, ho, c, hconn, heq, hshows⟩
  · exact hold (heq ▸ hg)
  · rw [heq] at hg
    rcases Multiset.mem_cons.mp hg with rfl | hg
    · exact absurd hc (hd.ne_of_shows (hb.move h) (ht.move h hb) hshows)
    · exact hold hg

theorem sparing_fresh (settings : PoolSettings) (enumeration : Enumeration) :
    Sparing ⟨{ settings, enumeration }, 0, 0, 0⟩ := by
  intro g hg
  cases hg

/-- **A persistent connection is protected.** -/
structure Protects (s : Custody) (l : Lease) : Prop where
  /-- Its record is in the table, is persistent and is spared, or the connection departed for a
  reason that is no matter of upkeep. -/
  stays : (∃ r, r.generation = l.generation ∧ r.connection = l.connection ∧ r.persistent = true ∧
      s.pool.Spares l.database r) ∨
    ∃ why, s.Departs ⟨why, l.database, l.connection⟩ ∧ why.isForced = true
  /-- It departs for no other reason. -/
  spared : ∀ why k, .removed why k l.connection ∈ s.pool.history → why.isForced = true
  /-- It is closed only when it has departed. -/
  closed : ∀ k, (k, l.connection) ∈ closed s.pool.history →
    ∃ why, .removed why k l.connection ∈ s.pool.history ∧ why.isForced = true

/-- **What was granted as persistent is protected.** -/
theorem Sparing.protects (hs : s.Sparing) (hk : s.Shown) (hb : s.Balanced) (ht : s.Told)
    (hg : g ∈ granted s.pool.history) (hp : g.persistent = true) : s.Protects g.lease := by
  have hspared : ∀ why k, .removed why k g.lease.connection ∈ s.pool.history →
      why.isForced = true :=
    fun why k hgone => hs g hg hp ⟨why, k, g.lease.connection⟩ (.inr hgone) rfl
  refine ⟨?_, hspared, fun k hclosed => ?_⟩
  · rcases hk.kept g hg with hshows | ⟨why, hd⟩
    · obtain ⟨r, hr, hgeneration, hc, hrp⟩ := hshows.exists_record
      have hpersistent := hrp.trans hp
      exact .inl ⟨r, hgeneration, hc, hpersistent, hb.spares ht ⟨hr, hpersistent⟩⟩
    · exact .inr ⟨why, hd, hs g hg hp _ hd rfl⟩
  · obtain ⟨why, hgone⟩ := mem_removed.mp (ht.removed ▸ hclosed)
    exact ⟨why, hgone, hspared why k hgone⟩

end Custody

/-! ### Leases -/

namespace Acquisition

variable {w : World} {L : Multiset Lease} {O : Multiset Opening} {r : Request}
  {kept? : Option Opening} {p q : Pool} {l : Lease}

/-- **What is written down last of an acquire that gets a lease**: that its own connection was
published, as it asked for it, or that an idle one is leased again. -/
theorem LastStep.head?_history (h : LastStep w L O r kept? p (.lease l) q) :
    l.database = r.database ∧
      (q.history.head? = some (.published l w.now r.ttl r.persistent) ∨
        q.history.head? = some (.reused l w.now r.ttl)) := by
  cases h with
  | @publishes p' stage c _ _ hs hstage hobtains h =>
    have hopen : p'.table.find? r.database = some .opening :=
      hs.balanced.find?_opening (Multiset.mem_cons_self _ O)
    have hnone : p'.table.record? r.database = none := by
      simp [Table.record?, hopen, Slot.record?]
    rw [publish, Pool.publish] at h
    cases hlate : w.now.after? r.ttl with
    | none =>
      simp only [hlate] at h
      cases h
    | some deadline =>
      simp only [hlate, hnone] at h
      cases h
      exact ⟨rfl, .inl rfl⟩
  | dropsOpened hs hobtains hfail => exact absurd rfl (hfail l)
  | dropsUnopened hs hobtains hfail => exact absurd rfl (hfail l)
  | reuses => exact ⟨rfl, .inr rfl⟩
  | refused hkept hplace hlength hfail => exact absurd rfl (hfail l)

end Acquisition

/-! ### Runs -/

namespace World

variable {w : World} {s : Custody} {p q : Pool} {L : Multiset Lease} {O : Multiset Opening}
  {r : Request} {kept? : Option Opening} {plans : String → ConnectPlan} {l : Lease}

/-- Persistent connections are spared at any time of a run. -/
theorem Passes.shown_and_sparing (hs : w.Passes s) : s.Shown ∧ s.Sparing := by
  refine hs.sound (P := fun s => s.Shown ∧ s.Sparing) ?_ ?_
  · rintro now s t h hb ht ⟨hk, hs⟩
    exact ⟨hk.move h hb, hs.move hk h hb ht⟩
  · exact fun settings enumeration =>
      ⟨Custody.shown_fresh settings enumeration, Custody.sparing_fresh settings enumeration⟩

/-- **A turn of a pruner spares a persistent record**, and does not close its connection. -/
theorem IsReachable.hasOpen_sweep {k : String} {x : Record} (hw : w.IsReachable)
    (h : w.pool.HasPersistent k x) (i : Nat) : (w.sweep i).pool.HasOpen k x := by
  have hnext : (w.after [.sweep i]).Passes (w.sweep i).custody := Passes.rest (hw.after [.sweep i])
  have hkept : (w.sweep i).pool.HasPersistent k x := by
    rcases w.pool_sweep i with heq | heq | heq <;> rw [heq]
    · exact h
    · exact h.prune
    · exact h.congr rfl
  exact hnext.balanced.hasOpen hnext.told hkept.1

/-- **The next event of a run spares a connection**, whatever it is. -/
structure Guards (w : World) (l : Lease) : Prop where
  /-- A turn of a pruner leaves its record as it is and does not close it. -/
  swept : ∀ i x, w.pool.HasOpen l.database x → x.connection = l.connection →
    (w.sweep i).pool.HasOpen l.database x
  /-- If the event does not ask for everything to be closed, the connection leaves in it only since
  it is found dead or a lease on it is cancelled. -/
  left : ∀ e, w.mayDrain e = false →
    ∀ why k, .removed why k l.connection ∈ (w.step e).2.pool.history →
      .removed why k l.connection ∈ w.pool.history ∨
        why = .replaced ∨ why = .cancelled ∨ why = .broken

/-- **What was granted as persistent is guarded** between any two events. -/
theorem IsReachable.guards (hw : w.IsReachable) (hg : ⟨l, true⟩ ∈ granted w.pool.history) :
    w.Guards l := by
  have hrest : w.Passes w.custody := Passes.rest hw
  refine ⟨fun i x hx hc => hw.hasOpen_sweep ⟨hx.1, ?_⟩ i, fun e hdrain why k hleft => ?_⟩
  · -- the record in the table is the one that was granted
    rcases hrest.shown_and_sparing.1.kept _ hg with hshows | ⟨why, hd⟩
    · obtain ⟨y, hy, -, -, hpersistent⟩ := hshows.exists_record
      obtain rfl : x = y := Slot.live.inj (Option.some.inj (hx.1.symm.trans hy))
      exact hpersistent
    · have hshows : w.pool.table.Shows (x.grant l.database) := ⟨x, hx.1, rfl⟩
      exact absurd hc.symm (hd.ne_of_shows hrest.balanced hrest.told hshows)
  · have hnext : (w.after [e]).Passes (w.step e).2.custody := Passes.rest (hw.after [e])
    have hlater : ⟨l, true⟩ ∈ granted (w.step e).2.pool.history :=
      granted_mono (hw.history_suffix [e]) hg
    have hforced : why.isForced = true :=
      hnext.shown_and_sparing.2 _ hlater rfl ⟨why, k, l.connection⟩ (.inr hleft) rfl
    cases why with
    | drained =>
      refine .inl (Pool.mem_drained.mp ?_)
      rw [← drained_step w hdrain]
      exact Pool.mem_drained.mpr hleft
    | replaced => exact .inr (.inl rfl)
    | cancelled => exact .inr (.inr (.inl rfl))
    | broken => exact .inr (.inr (.inr rfl))
    | _ => cases hforced

/-- A lease that has just begun has its record. -/
theorem Passes.record_of_begun {e : Entry} (hs : w.Passes s) (hl : l ∈ s.leases)
    (hleaving : s.leaving = 0) (hhead : s.pool.history.head? = some e)
    (hbegins : e.begins? = some l) :
    ∃ x, s.pool.table.find? l.database = some (.live x) ∧ x.generation = l.generation ∧
      x.connection = l.connection := by
  have hunclosed : (l.database, l.connection) ∉ closed s.pool.history := fun hclosed =>
    hs.orderly.not_closed_of_head? hhead hbegins (Multiset.mem_map_of_mem _ hclosed)
  rcases hs.exclusive.stray l hl with ⟨x, hx, hgeneration⟩ | hgone | hleaves
  · exact ⟨x, hx, hgeneration, (hs.exclusive.of_mem hl hx hgeneration).2.symm⟩
  · exact absurd (hs.told.removed ▸ mem_removed.mpr ⟨_, hgone⟩) hunclosed
  · rw [hleaving] at hleaves
    cases hleaves

/-- **The record of a lease**, as it stands when an acquire gets the lease: it is that of a
connection which is open, and whether it is persistent was settled when the connection came into the
table. -/
theorem Passes.leased_record (hs : w.Passes (Holding.beside { opening? := kept? } p L O))
    (h : Acquisition.EndsWith plans w.now r kept? p (.lease l) q) :
    ∃ x, q.table.find? r.database = some (.live x) ∧
      l = ⟨r.database, x.generation, x.connection⟩ ∧
      (∀ persistent, ⟨l, persistent⟩ ∈ granted q.history ↔ persistent = x.persistent) ∧
      (q.history.head? = some (.published l w.now r.ttl r.persistent) ∧
          x.persistent = r.persistent ∨
        q.history.head? = some (.reused l w.now r.ttl)) := by
  obtain ⟨hdatabase, hhead⟩ := (h.lastStep hs).head?_history
  have ht : w.Passes ⟨q, l ::ₘ L, O, 0⟩ := hs.moves (h.moves.congr (Holding.beside_lease l))
  obtain ⟨e, he, hbegins⟩ : ∃ e, q.history.head? = some e ∧ e.begins? = some l :=
    hhead.elim (fun hhead => ⟨_, hhead, rfl⟩) fun hhead => ⟨_, hhead, rfl⟩
  obtain ⟨x, hx, hgeneration, hc⟩ := ht.record_of_begun (Multiset.mem_cons_self l L) rfl he hbegins
  have hl : l = ⟨r.database, x.generation, x.connection⟩ := by
    rw [← hdatabase, hgeneration, hc]
  have hshows : q.table.Shows ⟨l, x.persistent⟩ := ⟨x, hx, by rw [Record.grant, hdatabase, hl]⟩
  have hgranted : ∀ persistent, ⟨l, persistent⟩ ∈ granted q.history ↔ persistent = x.persistent :=
    fun _ => ht.shown_and_sparing.1.granted_iff ht.balanced ht.told hshows
  refine ⟨x, hdatabase ▸ hx, hl, hgranted, hhead.imp_left fun hhead => ⟨hhead, ?_⟩⟩
  have hpublished : ⟨l, r.persistent⟩ ∈ granted q.history :=
    mem_granted.mpr ⟨w.now, r.ttl, List.mem_of_mem_head? hhead⟩
  exact ((hgranted _).mp hpublished).symm

/-- **The connection of the pool itself is kept as it was granted.** Whenever the acquire for it
gets a lease, at any time of a run, the record of the lease is persistent if this acquire has opened
the connection, and else if the one that did so asked for it. And if it is persistent, it is
protected from then on: at all later times of the run its record is in the table and is spared by
pruning, eviction and the admission of other databases, or it has left because it was found dead, a
lease on it was cancelled, or everything was closed; and its connection is closed for no other
reason. Between any two later events it is guarded, too: a turn of a pruner leaves its record and
its connection alone, and it leaves with all others only in an event that asks for everything to be
closed. -/
theorem Passes.main_connection_kept
    (hs : w.Passes (Holding.beside { opening? := kept? } p L O))
    (h : Acquisition.EndsWith plans w.now p.settings.mainRequest kept? p (.lease l) q) :
    ∃ x, q.table.find? p.settings.database = some (.live x) ∧
      l = ⟨p.settings.database, x.generation, x.connection⟩ ∧
      (∀ persistent, ⟨l, persistent⟩ ∈ granted q.history ↔ persistent = x.persistent) ∧
      (q.history.head? = some (.published l w.now p.settings.mainTimeToLive true) ∧
          x.persistent = true ∨
        q.history.head? = some (.reused l w.now p.settings.mainTimeToLive)) ∧
      (x.persistent = true →
        (∀ v s, World.Passes v s → q.history <:+ s.pool.history → s.Protects l) ∧
        ∀ v : World, v.IsReachable → q.history <:+ v.pool.history → v.Guards l) := by
  obtain ⟨x, hx, hl, hgranted, hhead⟩ := hs.leased_record h
  refine ⟨x, hx, hl, hgranted, hhead, fun hpersistent => ?_⟩
  have hg : ⟨l, true⟩ ∈ granted q.history := (hgranted true).mpr hpersistent.symm
  refine ⟨fun v s hv hsuffix => ?_, fun v hv hsuffix => hv.guards (granted_mono hsuffix hg)⟩
  obtain ⟨hshown, hsparing⟩ := hv.shown_and_sparing
  exact hsparing.protects hshown hv.balanced hv.told (granted_mono hsuffix hg) rfl

/-- The pool's own acquire opens its connection. While it is idle, neither evicting nor an acquire
for another database in a full pool takes it away, nor does a pruner that is due when its time is
over. -/
theorem Passes.main_connection_kept_idle :
    let w := (World.init { maxConnections := some 1, idleTimeout := 1 } false).after
      [.start (.lease (PoolSettings.mainRequest { idleTimeout := 1 }) "main")]
    let v := w.after [.settle "main" .release, .command .evict,
      .start (.lease { database := "a", ttl := ⟨5⟩ } "other"), .spawnPruner "pruner" ⟨1⟩, .tick]
    v.tasks.length = 1 ∧ v.pruners.any (·.isDue v.now) = true ∧
      ∃ r, r.persistent = true ∧ r.isExpired v.now = true ∧ v.pool.Spares "postgres" r ∧
        (v.sweep 0).pool.HasOpen "postgres" r := by
  intro w v
  have hinit : (World.init { maxConnections := some 1, idleTimeout := 1 } false).IsReachable :=
    ⟨{ maxConnections := some 1, idleTimeout := 1 }, false, .stored, [], rfl⟩
  have hends : Acquisition.EndsWith
      (World.init { maxConnections := some 1, idleTimeout := 1 } false).planFor ⟨0⟩
      (PoolSettings.mainRequest { idleTimeout := 1 }) none
      (World.init { maxConnections := some 1, idleTimeout := 1 } false).pool
      (.lease ⟨"postgres", 1, 0⟩) w.pool := .called rfl
  obtain ⟨x, hx, hl, -, hhead, hkept⟩ := (Passes.called hinit).main_connection_kept hends
  have hw : w.IsReachable := ⟨_, _, _, _, rfl⟩
  have hpersistent : x.persistent = true := by
    rcases hhead with ⟨-, hpersistent⟩ | hreused
    · exact hpersistent
    · cases hreused
  have hdue : v.pruners.any (·.isDue v.now) = true := by decide +kernel +zetaReduce
  have hover : (v.pool.table.record? "postgres").all (·.isExpired v.now) = true := by
    decide +kernel +zetaReduce
  have heq : v = w.after _ := rfl
  clear_value v
  have hv : v.IsReachable := heq ▸ hw.after _
  have hlater : w.pool.history <:+ v.pool.history := heq ▸ hw.history_suffix _
  have hwaits : v.tasks.length = 1 := by
    simp only [heq, w]
    rfl
  have hnone : removed v.pool.history = 0 := by
    simp only [heq, w]
    rfl
  obtain ⟨hprotects, hguards⟩ := hkept hpersistent
  refine ⟨hwaits, hdue, ?_⟩
  rcases (hprotects v v.custody (Passes.rest hv) hlater).stays with
    ⟨r, -, hc, hr, hspares⟩ | ⟨why, hleaves | hgone, -⟩
  · have hrecord : v.pool.table.find? "postgres" = some (.live r) := hspares.here.1
    have hexpired : r.isExpired v.now = true := by
      simpa [Table.record?, hrecord, Slot.record?] using hover
    exact ⟨r, hr, hexpired, hspares, (hguards v hv hlater).swept 0 r hspares.here hc⟩
  · cases hleaves
  · have hmem := mem_removed.mpr ⟨why, hgone⟩
    rw [World.custody, hnone] at hmem
    cases hmem

/-- **It need not be persistent.** The database of the pool itself is leased like any other first,
and then as the pool's own connection. This lease gets the connection as it was granted, not
persistent, and as soon as it has ended the connection is evicted. -/
theorem main_connection_evicted :
    let before := (World.init {} false).after
      [.start (.lease { database := "postgres", ttl := ⟨5⟩ } "first"), .settle "first" .release]
    let w := before.after [.start (.lease before.pool.settings.mainRequest "main")]
    let v := w.after [.settle "main" .release, .command .evict]
    before.pool.settings.database = "postgres" ∧
      Acquisition.EndsWith before.planFor before.now before.pool.settings.mainRequest none
        before.pool (.lease ⟨"postgres", 1, 0⟩) w.pool ∧
      w.pool.isPersistent? "postgres" = some false ∧
      v.pool.table.find? "postgres" = none ∧
      .removed .evicted "postgres" 0 ∈ v.pool.history ∧
      ∃ h, v.pool.handles[0]? = some h ∧ h.closeCalls = 1 := by
  refine ⟨rfl, .called rfl, rfl, rfl, ?_, _, rfl, rfl⟩
  exact List.mem_of_getElem? (i := 1) rfl

end World

end KeyedPool
