import KeyedPool.Proofs.Custody.World

/-!
# The balance of a pool

Two accounts that always balance: every place that is taken in the table is kept for somebody, and
every connection that was ever opened is in one place – on record, in the hands of the acquire that
opened it, on its way out, lost, or closed. The second account is an equation between multisets with
the numbers `0, 1, …` of the connections on the other side, each of them once. So it says at one
stroke that no connection is forgotten, that none is in two places, and that none is closed twice.

A deadline beyond the horizon is the one way to lose a place and a connection, and both accounts
have a line for what is lost.

* `KeyedPool.Custody.Balanced`: both accounts balance.
* `KeyedPool.Custody.Told`: the history tells what happened to the connections.
* `KeyedPool.Custody.Balanced.move`, `KeyedPool.Custody.Told.move`: every move keeps it so.
* `KeyedPool.World.IsReachable.balanced`, `KeyedPool.World.IsReachable.told`: so it is in every
  reachable world.
* `KeyedPool.World.IsReachable.sound`: other invariants may rest on both.
-/

namespace KeyedPool

open History

/-! ### A connection is closed -/

/-- What is written down when a connection is closed. -/
def Handle.closing (h : Handle) (database : String) (connection : Nat) : Entry :=
  if h.failClose then .closeFailed database connection (h.closeFailure connection)
  else .closed database connection

/-- What is counted when a connection is closed. -/
def Handle.closingTally (h : Handle) : Tally := if h.failClose then .closeFailed else .closed

namespace Handle

variable (h : Handle) (database : String) (connection : Nat)

@[simp] theorem asks?_closing : (h.closing database connection).asks? = none := by
  unfold closing
  split <;> rfl

@[simp] theorem answers?_closing : (h.closing database connection).answers? = none := by
  unfold closing
  split <;> rfl

@[simp] theorem opens?_closing : (h.closing database connection).opens? = none := by
  unfold closing
  split <;> rfl

@[simp] theorem closes?_closing : (h.closing database connection).closes? =
    some (database, connection) := by
  unfold closing
  split <;> rfl

@[simp] theorem removes?_closing : (h.closing database connection).removes? = none := by
  unfold closing
  split <;> rfl

@[simp] theorem loses?_closing : (h.closing database connection).loses? = none := by
  unfold closing
  split <;> rfl

end Handle

namespace Pool

variable {p : Pool} {d : Departure} {h : Handle}

/-- **What becomes of a pool when a connection leaves it** that was opened before. -/
theorem retire_eq (hd : p.handles[d.connection]? = some h) :
    (p.retire d).2 =
      (({ p.note (.removed d.why d.database d.connection) with
            handles := p.handles.set d.connection h.close.2
            counters := (d.why.tally?.elim p.counters p.counters.record)
            meters := d.why.tally?.elim p.meters p.meters.record : Pool }).tally
          h.closingTally).note (h.closing d.database d.connection) := by
  have hclose (q : Pool) (hq : q.handles[d.connection]? = some h) :
      (q.close d.database d.connection).2 =
        (({ q with handles := q.handles.set d.connection h.close.2 } : Pool).tally
          h.closingTally).note (h.closing d.database d.connection) := by
    simp only [close, hq, Handle.closing, Handle.closingTally]
    cases hf : h.failClose <;> simp [Handle.close, hf]
  rw [retire, hclose]
  · cases d.why.tally? <;> rfl
  · cases d.why.tally? <;> exact hd

theorem history_retire (hd : p.handles[d.connection]? = some h) :
    (p.retire d).2.history =
      h.closing d.database d.connection :: .removed d.why d.database d.connection :: p.history := by
  rw [retire_eq hd]
  rfl

theorem handles_retire (hd : p.handles[d.connection]? = some h) :
    (p.retire d).2.handles = p.handles.set d.connection h.close.2 := by
  rw [retire_eq hd]
  rfl

theorem meters_retire (hd : p.handles[d.connection]? = some h) :
    (p.retire d).2.meters =
      (d.why.tally?.elim p.meters p.meters.record).record h.closingTally := by
  rw [retire_eq hd]
  rfl

section Accounts

variable (hd : p.handles[d.connection]? = some h)
include hd

theorem asked_retire : asked (p.retire d).2.history = asked p.history := by
  rw [history_retire hd, asked_cons, Handle.asks?_closing]
  exact zero_add _

theorem answered_retire : answered (p.retire d).2.history = answered p.history := by
  rw [history_retire hd, answered_cons, Handle.answers?_closing]
  exact zero_add _

theorem opened_retire : opened (p.retire d).2.history = opened p.history := by
  rw [history_retire hd, opened_cons, Handle.opens?_closing]
  exact zero_add _

theorem lost_retire : lost (p.retire d).2.history = lost p.history := by
  rw [history_retire hd, lost_cons, Handle.loses?_closing]
  exact zero_add _

theorem closed_retire :
    closed (p.retire d).2.history = d.left ::ₘ closed p.history := by
  rw [history_retire hd, closed_cons, Handle.closes?_closing]
  rfl

theorem removed_retire :
    removed (p.retire d).2.history = d.left ::ₘ removed p.history := by
  rw [history_retire hd, removed_cons, Handle.removes?_closing]
  exact zero_add _

end Accounts

/-- A place that was kept is given back. -/
theorem giveUpOpening_eq {database : String} (h : p.table.find? database = some .opening) :
    p.giveUpOpening database = p.withTable (p.table.erase database) :=
  if_pos h

@[simp] theorem handles_giveUpOpening (p : Pool) (database : String) :
    (p.giveUpOpening database).handles = p.handles := by
  unfold giveUpOpening
  split <;> rfl

@[simp] theorem settings_giveUpOpening (p : Pool) (database : String) :
    (p.giveUpOpening database).settings = p.settings := by
  unfold giveUpOpening
  split <;> rfl

@[simp] theorem meters_giveUpOpening (p : Pool) (database : String) :
    (p.giveUpOpening database).meters = p.meters := by
  unfold giveUpOpening
  split <;> rfl

@[simp] theorem history_giveUpOpening (p : Pool) (database : String) :
    (p.giveUpOpening database).history = p.history := by
  unfold giveUpOpening
  split <;> rfl

end Pool

namespace Custody

variable {now : Instant} {s t : Custody}

/-! ### The accounts -/

/-- **Both accounts balance.** -/
structure Balanced (s : Custody) : Prop where
  /-- Every place is kept for an acquire, or lost. -/
  places : s.pool.table.openingKeys =
    Opening.databases s.openings + (lost s.pool.history).map Prod.fst
  /-- Every connection is on record, opened for an acquire, leaving, lost, or closed. -/
  connections :
    s.pool.table.connections + Opening.connections s.openings +
        s.leaving.map Departure.left + lost s.pool.history + closed s.pool.history =
      opened s.pool.history
  /-- The numbers of the connections are those of their handles. -/
  numbers : (opened s.pool.history).map Prod.snd = Multiset.range s.pool.handles.length

namespace Balanced

variable {p : Pool} {L L' : Multiset Lease} {O : Multiset Opening} {D : Multiset Departure}
  {o : Opening} {d : Departure} {e : Entry} {k : String}

theorem find?_opening {s : Custody} (hb : Balanced s) (ho : o ∈ s.openings) :
    s.pool.table.find? o.database = some .opening := by
  refine Table.mem_openingKeys.mp ?_
  rw [hb.places]
  exact Multiset.mem_add.mpr (.inl (Multiset.mem_map_of_mem _ ho))

/-- A connection that was opened has a handle. -/
theorem exists_handle {s : Custody} (hb : Balanced s) {x : String × Nat}
    (hx : x ∈ opened s.pool.history) : ∃ h, s.pool.handles[x.2]? = some h := by
  have hmem : x.2 ∈ Multiset.range s.pool.handles.length :=
    hb.numbers ▸ Multiset.mem_map_of_mem Prod.snd hx
  exact ⟨_, List.getElem?_eq_getElem (Multiset.mem_range.mp hmem)⟩

/-- A connection that leaves was opened before. -/
theorem exists_handle_leaving (hb : Balanced ⟨p, L, O, d ::ₘ D⟩) :
    ∃ h, p.handles[d.connection]? = some h := by
  refine hb.exists_handle (x := d.left) ?_
  rw [← hb.connections]
  simp

/-- The balance does not depend on who has a lease. -/
theorem leases (hb : Balanced ⟨p, L, O, D⟩) : Balanced ⟨p, L', O, D⟩ :=
  ⟨hb.places, hb.connections, hb.numbers⟩

/-- What is written down of other matters does not change the balance. -/
theorem note (hb : Balanced ⟨p, L, O, D⟩) (hl : e.loses? = none) (hc : e.closes? = none)
    (ho : e.opens? = none) : Balanced ⟨p.note e, L, O, D⟩ := by
  refine ⟨?_, ?_, ?_⟩
  · simpa [hl] using hb.places
  · simpa [hl, hc, ho] using hb.connections
  · simpa [ho] using hb.numbers

/-- Neither does a change of a record that keeps its connection. -/
theorem modify (hb : Balanced ⟨p, L, O, D⟩) (k : String) (f : Record → Record)
    (hf : ∀ r, (f r).connection = r.connection) :
    Balanced ⟨p.withTable (p.table.modify k f), L, O, D⟩ := by
  have hconns : (p.table.modify k f).connections = p.table.connections :=
    Table.connections_modify hf
  exact ⟨by simpa using hb.places, by simpa [hconns] using hb.connections, hb.numbers⟩

/-- Neither does the progress of an acquire that gets no connection by it. -/
theorem progress (hb : Balanced ⟨p, L, o ::ₘ O, D⟩) (o' : Opening) (hk : o'.database = o.database)
    (hc : o'.opened? = o.opened?) : Balanced ⟨p, L, o' ::ₘ O, D⟩ := by
  refine ⟨?_, ?_, hb.numbers⟩
  · simpa [hk] using hb.places
  · simpa [hc] using hb.connections

/-- A record that leaves the table is in other hands. -/
theorem leave (hb : Balanced ⟨p, L, O, D⟩) {r : Record} (hr : p.table.find? k = some (.live r))
    (why : Removal) :
    Balanced ⟨p.withTable (p.table.erase k), L, O, ⟨why, k, r.connection⟩ ::ₘ D⟩ := by
  refine ⟨?_, ?_, hb.numbers⟩
  · simpa [Table.openingKeys_of_live hr] using hb.places
  · have hconns := hb.connections
    simp only [Table.connections_of_live hr] at hconns
    simpa [Departure.left] using hconns

/-- A place that is given back was kept for somebody. -/
theorem giveUp (hb : Balanced ⟨p, L, o ::ₘ O, D⟩) :
    (p.table.erase o.database).openingKeys =
        Opening.databases O + (lost p.history).map Prod.fst ∧
      (p.table.erase o.database).connections = p.table.connections := by
  have hfind : p.table.find? o.database = some .opening :=
    hb.find?_opening (Multiset.mem_cons_self o O)
  refine ⟨?_, Table.connections_of_opening hfind⟩
  have hplaces := hb.places
  rw [Table.openingKeys_of_opening hfind, Opening.databases_cons, Multiset.cons_add] at hplaces
  exact (Multiset.cons_inj_right _).mp hplaces

end Balanced

/-- **Every move keeps the balance.** -/
theorem Balanced.move (hb : Balanced s) (h : Move now s t) : Balanced t := by
  cases h with
  | remark e he =>
    have hquiet := Entry.quiet_of_isRemark he
    exact hb.note (Entry.loses?_of_isRemark he) hquiet.closes hquiet.opens
  | walk => exact ⟨hb.places, hb.connections, hb.numbers⟩
  | reset => exact ⟨hb.places, hb.connections, hb.numbers⟩
  | flags connection f hf =>
    exact ⟨hb.places, hb.connections, by simpa [Pool.modifyHandle] using hb.numbers⟩
  | leave why k r hr hw => exact hb.leave hr why
  | close d =>
    obtain ⟨hd, hh⟩ := hb.exists_handle_leaving
    refine ⟨?_, ?_, ?_⟩
    · simpa [Pool.lost_retire hh] using hb.places
    · have hconns := hb.connections
      rw [Multiset.map_cons] at hconns
      simpa [Pool.lost_retire hh, Pool.closed_retire hh, Pool.opened_retire hh] using hconns
    · simpa [Pool.opened_retire hh, Pool.handles_retire hh] using hb.numbers
  | reserve r hr hroom =>
    refine ⟨?_, ?_, hb.numbers⟩
    · simpa [Table.erase_eq_self hr] using hb.places
    · simpa [Table.erase_eq_self hr] using hb.connections
  | ask r => exact (hb.progress ⟨r, .asked⟩ rfl rfl).note (e := .connecting r.database) rfl rfl rfl
  | @unanswered p L O D r =>
    have hopen : p.table.find? r.database = some .opening :=
      hb.find?_opening (Multiset.mem_cons_self _ O)
    obtain ⟨hkeys, hconns⟩ := hb.giveUp
    rw [Pool.giveUpOpening_eq (p := p.note _) hopen]
    refine ⟨hkeys, ?_, hb.numbers⟩
    have hbefore := hb.connections
    simp only [Opening.connections_cons, Opening.opened?_asked, ← hconns] at hbefore
    simpa [Entry.loses?, Entry.closes?, Entry.opens?] using hbefore
  | connect r fresh hd hc =>
    refine ⟨?_, ?_, ?_⟩
    · simpa [Entry.loses?] using hb.places
    · simpa [Entry.loses?, Entry.closes?, Entry.opens?] using hb.connections
    · simpa [Entry.opens?] using hb.numbers
  | startHook r connection hr =>
    exact (hb.progress ⟨r, .starting _⟩ rfl rfl).note (e := .hookStarted connection) rfl rfl rfl
  | finishHook r connection =>
    exact (hb.progress ⟨r, .fit _⟩ rfl rfl).note (e := .hookFinished connection) rfl rfl rfl
  | @abandon p L O D r connection =>
    have hopen : p.table.find? r.database = some .opening :=
      hb.find?_opening (Multiset.mem_cons_self _ O)
    obtain ⟨hkeys, hconns⟩ := hb.giveUp
    rw [Pool.giveUpOpening_eq hopen]
    refine ⟨hkeys, ?_, hb.numbers⟩
    have hbefore := hb.connections
    simp only [Opening.connections_cons, Opening.opened?_starting, ← hconns] at hbefore
    simpa [Departure.left] using hbefore
  | publish o connection deadline ho ht hr =>
    -- the connection goes from the hands of the acquire to the place that was kept for it
    obtain ⟨hkeys, hconns⟩ := hb.giveUp
    have hc := Opening.connection?_of_fit ho
    refine ⟨Table.openingKeys_put_live.trans hkeys, ?_, hb.numbers⟩
    have hbefore := hb.connections
    simp only [Opening.connections_cons, Opening.opened?_of_connection? hc, ← hconns] at hbefore
    simpa [Pool.enroll, Entry.loses?, Entry.closes?, Entry.opens?] using hbefore
  | lose o connection ho ht =>
    -- the place and the connection are written down as lost
    refine ⟨?_, ?_, hb.numbers⟩
    · simpa [Pool.skipGeneration, Entry.loses?] using hb.places
    · have hbefore := hb.connections
      simp only [Opening.connections_cons, Opening.opened?_of_connection? ho] at hbefore
      simpa [Pool.skipGeneration, Entry.loses?, Entry.closes?, Entry.opens?] using hbefore
  | reuse k r ttl deadline hr hbusy hh ht =>
    exact (hb.leases.modify k (Record.lease deadline now) fun _ => rfl).note
      (e := .reused _ now ttl) rfl rfl rfl
  | rest l hh hm =>
    exact ((hb.leases.note (e := .leaseEnded l .release) rfl rfl rfl).modify l.database Record.rest
      fun _ => rfl).note (e := .released l) rfl rfl rfl
  | depart l hh hm =>
    exact (hb.leases.note (e := .leaseEnded l _) rfl rfl rfl).note (e := .departed l) rfl rfl rfl
  | discard l how why r hw hr hg =>
    exact (hb.leases.note (e := .leaseEnded l how) rfl rfl rfl).leave hr why
  | forget l how hw hm => exact hb.leases.note (e := .leaseEnded l how) rfl rfl rfl

/-! ### No connection is in two places -/

/-- What is told apart by its numbers in a sum is told apart by them across it. -/
theorem ne_of_nodup_add {A B : Multiset (String × Nat)} (h : ((A + B).map Prod.snd).Nodup)
    {x y : String × Nat} (hx : x ∈ A) (hy : y ∈ B) : x.2 ≠ y.2 := by
  intro he
  rw [Multiset.map_add, Multiset.nodup_add] at h
  exact Multiset.disjoint_left.mp h.2.2 (Multiset.mem_map_of_mem Prod.snd hx)
    (he ▸ Multiset.mem_map_of_mem Prod.snd hy)

namespace Balanced

variable {x y : String × Nat}

theorem nodup_opened (hb : Balanced s) : ((opened s.pool.history).map Prod.snd).Nodup :=
  hb.numbers ▸ Multiset.nodup_range _

/-- A connection that is in use neither leaves nor is closed. -/
theorem apart_gone (hb : Balanced s)
    (hx : x ∈ s.pool.table.connections + Opening.connections s.openings)
    (hy : y ∈ s.leaving.map Departure.left + closed s.pool.history) : x.2 ≠ y.2 := by
  have hnodup := hb.nodup_opened
  rw [← hb.connections, add_assoc (_ + _), add_assoc (_ + _)] at hnodup
  refine ne_of_nodup_add hnodup hx ?_
  rcases Multiset.mem_add.mp hy with hy | hy
  · exact Multiset.mem_add.mpr (.inl hy)
  · exact Multiset.mem_add.mpr (.inr (Multiset.mem_add.mpr (.inr hy)))

/-- A connection on record is in the hands of no acquire. -/
theorem apart_opening (hb : Balanced s) (hx : x ∈ s.pool.table.connections)
    (hy : y ∈ Opening.connections s.openings) : x.2 ≠ y.2 := by
  have hnodup := hb.nodup_opened
  rw [← hb.connections, add_assoc (_ + _), add_assoc (_ + _), Multiset.map_add,
    Multiset.nodup_add] at hnodup
  exact ne_of_nodup_add hnodup.1 hx hy

/-- A connection tells the database of its record. -/
theorem eq_of_connection {k k' : String} {r r' : Record} (hb : Balanced s)
    (hr : s.pool.table.find? k = some (.live r)) (hr' : s.pool.table.find? k' = some (.live r'))
    (hc : r.connection = r'.connection) : k = k' ∧ r = r' := by
  have hnodup := hb.nodup_opened
  simp only [← hb.connections, Multiset.map_add, Multiset.nodup_add] at hnodup
  have hx := Table.mem_connections.mpr ⟨r, hr, rfl⟩
  have hy := Table.mem_connections.mpr ⟨r', hr', rfl⟩
  have hk : k = k' := congrArg Prod.fst
    (Multiset.inj_on_of_nodup_map hnodup.1.1.1.1 _ hx _ hy hc)
  subst hk
  rw [hr] at hr'
  cases hr'
  exact ⟨rfl, rfl⟩

/-- A place holds no connection, so no record is taken out of the table for another connection. -/
theorem not_displaced {k : String} {r : Record} {why : Removal} (hb : s.Balanced)
    (hr : s.pool.table.find? k = some (.live r))
    (hw : why.Allows now s.pool s.openings k r) : why ≠ .displaced := by
  rintro rfl
  obtain ⟨o, ho, rfl⟩ := hw
  have hopen := hb.find?_opening ho
  rw [hr] at hopen
  cases hopen

end Balanced

/-! ### What the history tells -/

/-- **The history tells what happened to the connections.** -/
structure Told (s : Custody) : Prop where
  /-- Which connections are being opened. -/
  asked : asked s.pool.history = answered s.pool.history + Opening.asked s.openings
  /-- What has left was closed. -/
  removed : removed s.pool.history = closed s.pool.history
  /-- How often each connection was closed. -/
  closeCalls : ∀ c h, s.pool.handles[c]? = some h →
    h.closeCalls = ((closed s.pool.history).map Prod.snd).count c

namespace Told

variable {p q : Pool} {L L' : Multiset Lease} {O O' : Multiset Opening} {D D' : Multiset Departure}
  {e : Entry}

/-- Nothing is told of the table, of leases and of what is about to be closed. -/
theorem congr (ht : Told ⟨p, L, O, D⟩) (hh : q.handles = p.handles) (he : q.history = p.history)
    (hO : Opening.asked O' = Opening.asked O) : Told ⟨q, L', O', D'⟩ := by
  obtain ⟨hasked, hremoved, hcalls⟩ := ht
  refine ⟨?_, ?_, ?_⟩
  · rw [he, hO, hasked]
  · rw [he, hremoved]
  · rw [hh, he]
    exact hcalls

/-- A quiet entry changes nothing. -/
theorem note (ht : Told ⟨p, L, O, D⟩) (he : e.Quiet) : Told ⟨p.note e, L, O, D⟩ := by
  obtain ⟨hasked, hremoved, hcalls⟩ := ht
  refine ⟨?_, ?_, ?_⟩
  · simpa [he.asks, he.answers] using hasked
  · simpa [he.removes, he.closes] using hremoved
  · simpa [he.closes] using hcalls

end Told

/-- What is closed with the others, now or before, is out of use. -/
theorem Told.mem_gone (ht : Told s) {why : Removal} {k : String} {c : Nat}
    (h : .removed why k c ∈ s.pool.history ∨ ⟨why, k, c⟩ ∈ s.leaving) :
    (k, c) ∈ s.leaving.map Departure.left + closed s.pool.history := by
  rcases h with hgone | hleaves
  · refine Multiset.mem_add.mpr (.inr ?_)
    rw [← ht.removed]
    exact mem_removed.mpr ⟨why, hgone⟩
  · exact Multiset.mem_add.mpr (.inl (Multiset.mem_map_of_mem Departure.left hleaves))

/-- A connection that is in use has a handle, and was not closed. -/
theorem Told.exists_open_handle (ht : Told s) (hb : Balanced s) {x : String × Nat}
    (hx : x ∈ s.pool.table.connections + Opening.connections s.openings) :
    ∃ h, s.pool.handles[x.2]? = some h ∧ h.closeCalls = 0 := by
  have hopened : x ∈ opened s.pool.history := by
    rw [← hb.connections, add_assoc (_ + _), add_assoc (_ + _)]
    exact Multiset.mem_add.mpr (.inl hx)
  obtain ⟨h, hh⟩ := hb.exists_handle hopened
  refine ⟨h, hh, (ht.closeCalls x.2 h hh).trans (Multiset.count_eq_zero_of_notMem fun hmem => ?_)⟩
  obtain ⟨y, hy, heq⟩ := Multiset.mem_map.mp hmem
  exact hb.apart_gone hx (Multiset.mem_add.mpr (.inr hy)) heq.symm

/-- **Every move keeps the history true.** -/
theorem Told.move (ht : Told s) (h : Move now s t) (hb : Balanced s) : Told t := by
  cases h with
  | remark e he => exact ht.note (Entry.quiet_of_isRemark he)
  | walk => exact ht.congr rfl rfl rfl
  | reset =>
    exact Told.note (e := .countersReset) (ht.congr rfl rfl rfl) ⟨rfl, rfl, rfl, rfl, rfl⟩
  | flags connection f hf =>
    refine ⟨ht.asked, ht.removed, fun c h hc => ?_⟩
    simp only [Pool.modifyHandle, List.getElem?_modify, Option.map_eq_map,
      Option.map_eq_some_iff] at hc
    obtain ⟨h', hh', rfl⟩ := hc
    refine Eq.trans ?_ (ht.closeCalls c h' hh')
    split
    · exact (hf h').2
    · rfl
  | leave why k r hr hw => exact ht.congr rfl rfl rfl
  | @close p L O D d =>
    obtain ⟨hd, hh⟩ := hb.exists_handle_leaving
    refine ⟨?_, ?_, fun c h hc => ?_⟩
    · simpa [Pool.asked_retire hh, Pool.answered_retire hh] using ht.asked
    · simpa [Pool.removed_retire hh, Pool.closed_retire hh] using ht.removed
    · rw [Pool.closed_retire hh, Multiset.map_cons]
      simp only [Pool.handles_retire hh] at hc
      -- the count of this connection goes up with its number of calls, the others stay
      by_cases hcd : d.connection = c
      · subst hcd
        have hlt : d.connection < p.handles.length := (List.getElem?_eq_some_iff.mp hh).1
        rw [List.getElem?_set_self hlt] at hc
        cases hc
        exact (congrArg (· + 1) (ht.closeCalls d.connection hd hh)).trans
          (Multiset.count_cons_self _ _).symm
      · rw [List.getElem?_set_ne hcd] at hc
        exact (ht.closeCalls c h hc).trans (Multiset.count_cons_of_ne (Ne.symm hcd) _).symm
  | reserve r hr hroom => exact ht.congr rfl rfl (by simp)
  | ask r =>
    refine ⟨?_, ht.removed, ht.closeCalls⟩
    have hasked := ht.asked
    simp only [Opening.asked_cons, Opening.asks?_kept] at hasked
    simpa [Entry.asks?, Entry.answers?] using hasked
  | unanswered r =>
    refine ⟨?_, ?_, ?_⟩
    · simpa [Entry.asks?, Entry.answers?] using ht.asked
    · simpa [Entry.removes?, Entry.closes?] using ht.removed
    · simpa [Entry.closes?] using ht.closeCalls
  | @connect p L O D r fresh hd hc =>
    refine ⟨?_, ?_, fun c h hch => ?_⟩
    · simpa [Entry.asks?, Entry.answers?] using ht.asked
    · simpa [Entry.removes?, Entry.closes?] using ht.removed
    · have hclosed : closed ((p.addHandle fresh).note
          (.connected r.database p.handles.length)).history = closed p.history := by
        simp [Entry.closes?]
      refine Eq.trans ?_ (congrArg (fun m => (Multiset.map Prod.snd m).count c) hclosed).symm
      rcases Nat.lt_or_ge c p.handles.length with hlt | hge
      · exact ht.closeCalls c h ((List.getElem?_append_left hlt).symm.trans hch)
      · -- a connection that is new has not been closed yet
        have hnew : c ∉ (closed p.history).map Prod.snd := by
          intro hmem
          obtain ⟨x, hx, rfl⟩ := Multiset.mem_map.mp hmem
          obtain ⟨h', hh'⟩ := hb.exists_handle (hb.connections ▸ Multiset.mem_add.mpr (.inr hx))
          exact absurd (List.getElem?_eq_some_iff.mp hh').1 (Nat.not_lt.mpr hge)
        have hfresh : h = fresh := by
          have hlast := (List.getElem?_append_right hge).symm.trans hch
          exact (List.mem_singleton.mp (List.mem_of_getElem? hlast))
        rw [Multiset.count_eq_zero_of_notMem hnew, hfresh, hc]
  | startHook r connection hr =>
    exact Told.note (e := .hookStarted connection) (ht.congr rfl rfl (by simp))
      ⟨rfl, rfl, rfl, rfl, rfl⟩
  | finishHook r connection =>
    exact Told.note (e := .hookFinished connection) (ht.congr rfl rfl (by simp))
      ⟨rfl, rfl, rfl, rfl, rfl⟩
  | abandon r connection => exact ht.congr (by simp) (by simp) (by simp)
  | publish o connection deadline ho hd hr =>
    have hasks := Opening.asks?_of_connection? (Opening.connection?_of_fit ho)
    exact Told.note (e := .published _ _ _ _) (ht.congr rfl rfl (by simp [hasks]))
      ⟨rfl, rfl, rfl, rfl, rfl⟩
  | lose o connection ho hd =>
    exact Told.note (e := .lost _ connection _ _)
      (ht.congr rfl rfl (by simp [Opening.asks?_of_connection? ho])) ⟨rfl, rfl, rfl, rfl, rfl⟩
  | reuse k r ttl deadline hr hbusy hh hd =>
    exact Told.note (e := .reused _ _ _) (ht.congr rfl rfl rfl) ⟨rfl, rfl, rfl, rfl, rfl⟩
  | rest l hh hm =>
    refine Told.note (e := .released l) ?_ ⟨rfl, rfl, rfl, rfl, rfl⟩
    exact (ht.note (e := .leaseEnded l .release) ⟨rfl, rfl, rfl, rfl, rfl⟩).congr rfl rfl rfl
  | depart l hh hm =>
    refine Told.note (e := .departed l) ?_ ⟨rfl, rfl, rfl, rfl, rfl⟩
    exact (ht.note (e := .leaseEnded l .release) ⟨rfl, rfl, rfl, rfl, rfl⟩).congr rfl rfl rfl
  | discard l how why r hw hr hg =>
    exact (ht.note (e := .leaseEnded l how) ⟨rfl, rfl, rfl, rfl, rfl⟩).congr rfl rfl rfl
  | forget l how hw hm =>
    exact (ht.note (e := .leaseEnded l how) ⟨rfl, rfl, rfl, rfl, rfl⟩).congr rfl rfl rfl

/-! ### A fresh pool -/

theorem balanced_fresh (settings : PoolSettings) (enumeration : Enumeration) :
    Balanced ⟨{ settings, enumeration }, 0, 0, 0⟩ := ⟨rfl, rfl, rfl⟩

theorem told_fresh (settings : PoolSettings) (enumeration : Enumeration) :
    Told ⟨{ settings, enumeration }, 0, 0, 0⟩ := ⟨rfl, rfl, fun _ _ hc => nomatch hc⟩

end Custody

/-! ### Reachable worlds -/

namespace World

variable {w : World}

theorem IsReachable.balanced_and_told (hw : w.IsReachable) :
    w.custody.Balanced ∧ w.custody.Told := by
  refine hw.custody (P := fun s => s.Balanced ∧ s.Told) ?_ ?_
  · rintro now s t h ⟨hb, ht⟩
    exact ⟨hb.move h, ht.move h hb⟩
  · intro settings enumeration
    exact ⟨Custody.balanced_fresh settings enumeration, Custody.told_fresh settings enumeration⟩

/-- **In every reachable world every place and every connection is accounted for.** -/
theorem IsReachable.balanced (hw : w.IsReachable) : w.custody.Balanced := hw.balanced_and_told.1

/-- **In every reachable world the history tells what happened to the connections.** -/
theorem IsReachable.told (hw : w.IsReachable) : w.custody.Told := hw.balanced_and_told.2

section Keeps

variable {P : Custody → Prop}
  (hmove : ∀ now s t, Custody.Move now s t → s.Balanced → s.Told → P s → P t)
include hmove

/-- What the moves keep may rest on the balance and on what the history tells. -/
theorem IsReachable.sound_after (hw : w.IsReachable) (h : P w.custody) (events : List Event) :
    P (w.after events).custody := by
  have hkept := hw.custody_after (P := fun s => s.Balanced ∧ s.Told ∧ P s) ?_
    ⟨hw.balanced, hw.told, h⟩ events
  · exact hkept.2.2
  · rintro now s t h ⟨hb, ht, hs⟩
    exact ⟨hb.move h, ht.move h hb, hmove now s t h hb ht hs⟩

/-- So may what holds in every reachable world. -/
theorem IsReachable.sound (hw : w.IsReachable)
    (hfresh : ∀ settings enumeration, P ⟨{ settings, enumeration }, 0, 0, 0⟩) : P w.custody := by
  have hsound := hw.custody (P := fun s => s.Balanced ∧ s.Told ∧ P s) ?_ ?_
  · exact hsound.2.2
  · rintro now s t h ⟨hb, ht, hs⟩
    exact ⟨hb.move h, ht.move h hb, hmove now s t h hb ht hs⟩
  · intro settings enumeration
    exact ⟨Custody.balanced_fresh settings enumeration, Custody.told_fresh settings enumeration,
      hfresh settings enumeration⟩

end Keeps

end World

end KeyedPool
