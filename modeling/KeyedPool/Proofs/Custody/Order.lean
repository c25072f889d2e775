import KeyedPool.Proofs.Custody.Balance

/-!
# What happens before what

The history of a pool is in order: a connection is asked for only while no other is asked for or
open for the same database, while there is room for one more, and after everything that left has
been closed; and what is leased has not been closed. Each of these is a condition on an entry and on
what was written down before it, so the whole history satisfies it as soon as every new entry does.

The table bounds what is open. A place that is kept holds the room of its connection from before the
connection is asked for until it is on record, given back or lost, and a record holds it until its
connection is about to be closed.

* `KeyedPool.History.AllowsConnect`: when a connection may be asked for.
* `KeyedPool.Entry.Lawful`: what must have happened before an entry.
* `KeyedPool.Custody.Capped`: the table is within its limit.
* `KeyedPool.Custody.Orderly`: every entry of the history is lawful.
* `KeyedPool.Custody.Balanced.open_le_size`: the table bounds what is open.
* `KeyedPool.World.IsReachable.capped`, `KeyedPool.World.IsReachable.orderly`: so it is in every
  reachable world.
-/

namespace KeyedPool

open History

/-- **When a connection may be asked for** after a history, under a limit if there is one. -/
structure History.AllowsConnect (limit : Option Nat) (past : List Entry) (k : String) : Prop where
  /-- Nothing came to an end or was closed that had not begun. -/
  begun : answered past ≤ asked past ∧ History.closed past ≤ opened past
  /-- No other connection is in flight for the same database. -/
  alone : k ∉ inFlight past
  /-- Every connection that was opened for this database has been closed. -/
  closed : ∀ c, .connected k c ∈ past → (k, c) ∈ closed past
  /-- There is room for one more. -/
  room : ∀ max, limit = some max → (inFlight past).card + (unclosed past).card < max
  /-- What has left has been closed. -/
  reclaimed : ∀ why other c, .removed why other c ∈ past → (other, c) ∈ History.closed past

/-- What must have happened before an entry is written down: a connection is asked for when it may
be, what is leased has not been closed, and a connection is lost only to a deadline beyond the
horizon. -/
def Entry.Lawful (limit : Option Nat) (past : List Entry) : Entry → Prop
  | .connecting k => AllowsConnect limit past k
  | .published l .. => l.connection ∉ (History.closed past).map Prod.snd
  | .reused l .. => l.connection ∉ (History.closed past).map Prod.snd
  | .lost _ _ now ttl => now.after? ttl = none
  | _ => True

namespace Custody

variable {now : Instant} {s t : Custody} {p q : Pool} {L L' : Multiset Lease}
  {O O' : Multiset Opening} {D D' : Multiset Departure} {k : String}

/-! ### The limit -/

/-- No move changes how a pool is set up. -/
theorem Move.settings_eq (h : Move now s t) : t.pool.settings = s.pool.settings := by
  cases h with
  | close d => exact Pool.settings_retire _ d
  | unanswered r => exact Pool.settings_giveUpOpening _ _
  | abandon r connection => exact Pool.settings_giveUpOpening _ _
  | _ => rfl

/-- The table is within its limit, if it has one. -/
def Capped (s : Custody) : Prop :=
  ∀ limit, s.pool.settings.maxConnections = some limit → s.pool.table.size ≤ limit

theorem Capped.of_le (hc : Capped s) (h : Move now s t)
    (hsize : t.pool.table.size ≤ s.pool.table.size) : Capped t := by
  intro limit hl
  rw [h.settings_eq] at hl
  exact hsize.trans (hc limit hl)

/-- **Every move keeps the table within its limit.** -/
theorem Capped.move (hc : Capped s) (h : Move now s t) (hb : Balanced s) : Capped t := by
  have hgive : ∀ (p : Pool) k, (p.giveUpOpening k).table.size ≤ p.table.size := by
    intro p k
    rw [Pool.giveUpOpening]
    split
    · exact Table.size_erase_le
    · exact le_rfl
  have hsame := hc.of_le h
  cases h with
  | leave why k r hr hw => exact hsame Table.size_erase_le
  | close d => exact hsame (by rw [Pool.table_retire])
  | @reserve p L O D r hr hroom =>
    intro limit hl
    have hlt : p.table.size < limit := hroom limit hl
    rw [Pool.table_withTable, Table.size_put, Table.erase_eq_self hr]
    exact hlt
  | unanswered r => exact hsame (hgive _ _)
  | abandon r connection => exact hsame (hgive _ _)
  | @publish p L O D o connection deadline ho hd hr =>
    have hopen : p.table.find? o.database = some .opening :=
      hb.find?_opening (Multiset.mem_cons_self o O)
    refine hsame ?_
    -- the record takes the place that was kept for it
    rw [Table.size_eq_of_find? hopen]
    exact le_rfl
  | reuse k r ttl deadline hr hidle hh hd => exact hsame (Table.size_modify ..).le
  | rest l hh hm => exact hsame (Table.size_modify ..).le
  | discard l how why r hw hr hg => exact hsame Table.size_erase_le
  | _ => exact hsame le_rfl

/-! ### What is open -/

/-- An acquire asks for a connection or has one, but not both. -/
theorem card_asked_add_card_connections_le (O : Multiset Opening) :
    (Opening.asked O).card + (Opening.connections O).card ≤ O.card := by
  induction O using Multiset.induction_on with
  | empty => simp [Opening.asked, Opening.connections]
  | cons o O ih =>
    rcases o with ⟨r, _ | _ | c | c | c⟩ <;> simp <;> omega

/-- The connects in flight are those of the acquires that wait for one. -/
theorem Told.inFlight_eq (ht : Told s) : inFlight s.pool.history = Opening.asked s.openings := by
  rw [inFlight, ht.asked, add_tsub_cancel_left]

/-- A connection that is open is on record, opened for an acquire, leaving, or lost. -/
theorem Balanced.unclosed_eq (hb : Balanced s) :
    unclosed s.pool.history = s.pool.table.connections + Opening.connections s.openings +
      s.leaving.map Departure.left + lost s.pool.history := by
  rw [unclosed, ← hb.connections, add_tsub_cancel_right]

/-- Every place in the table is a record, kept for an acquire, or lost. -/
theorem Balanced.size_eq (hb : Balanced s) :
    s.pool.table.size =
      s.pool.table.connections.card + s.openings.card + (lost s.pool.history).card := by
  rw [Table.size_eq, hb.places, Multiset.card_add, Opening.databases, Multiset.card_map,
    Multiset.card_map, add_assoc]

/-- **The table bounds what is open**, as long as nothing is on its way out. -/
theorem Balanced.open_le_size (hb : Balanced ⟨p, L, O, 0⟩) (ht : Told ⟨p, L, O, 0⟩) :
    (inFlight p.history).card + (unclosed p.history).card ≤ p.table.size := by
  have hflight : inFlight p.history = Opening.asked O := ht.inFlight_eq
  have hopen : unclosed p.history = p.table.connections + Opening.connections O +
      Multiset.map Departure.left 0 + lost p.history := hb.unclosed_eq
  have hsize : p.table.size = p.table.connections.card + O.card + (lost p.history).card :=
    hb.size_eq
  have hO := card_asked_add_card_connections_le O
  rw [hflight, hopen, hsize]
  simp only [Multiset.map_zero, add_zero, Multiset.card_add]
  omega

/-! ### The order of the history -/

/-- **Every entry of the history is lawful** after those before it. -/
def Orderly (s : Custody) : Prop :=
  ∀ e past, e :: past <:+ s.pool.history → e.Lawful s.pool.settings.maxConnections past

theorem Orderly.congr (ho : Orderly s) (hsettings : t.pool.settings = s.pool.settings)
    (hhistory : t.pool.history = s.pool.history) : Orderly t := by
  intro e past h
  rw [hsettings]
  exact ho e past (hhistory ▸ h)

/-- A history stays in order when a lawful entry is written down. -/
theorem Orderly.cons (ho : Orderly s) {e : Entry}
    (he : e.Lawful s.pool.settings.maxConnections s.pool.history)
    (hsettings : t.pool.settings = s.pool.settings)
    (hhistory : t.pool.history = e :: s.pool.history) : Orderly t := by
  intro e' past h
  rw [hsettings]
  rw [hhistory] at h
  rcases List.suffix_cons_iff.mp h with heq | hsuffix
  · cases heq
    exact he
  · exact ho e' past hsuffix

/-- A place that is kept for an acquire is kept for no other, and is not lost. -/
theorem Balanced.place_unique {o : Opening} (hb : Balanced ⟨p, L, o ::ₘ O, D⟩) :
    o.database ∉ Opening.databases O ∧ o.database ∉ (lost p.history).map Prod.fst := by
  have hnodup : p.table.openingKeys.Nodup := Table.nodup_openingKeys
  have hplaces : p.table.openingKeys = _ := hb.places
  rw [hplaces, Opening.databases_cons, Multiset.cons_add, Multiset.nodup_cons] at hnodup
  exact ⟨fun h => hnodup.1 (Multiset.mem_add.mpr (.inl h)),
    fun h => hnodup.1 (Multiset.mem_add.mpr (.inr h))⟩

/-- **A connection is asked for when it may be.** -/
theorem allowsConnect {r : Request} (hb : Balanced ⟨p, L, ⟨r, .kept⟩ ::ₘ O, 0⟩)
    (ht : Told ⟨p, L, ⟨r, .kept⟩ ::ₘ O, 0⟩) (hc : Capped ⟨p, L, ⟨r, .kept⟩ ::ₘ O, 0⟩) :
    AllowsConnect p.settings.maxConnections p.history r.database := by
  obtain ⟨hothers, hlost⟩ := hb.place_unique
  have hopen : p.table.find? r.database = some .opening :=
    hb.find?_opening (Multiset.mem_cons_self _ O)
  have hflight : inFlight p.history = Opening.asked O := by
    refine ht.inFlight_eq.trans ?_
    simp
  refine ⟨⟨?_, ?_⟩, ?_, ?_, ?_, ?_⟩
  · exact ht.asked.symm ▸ Multiset.le_add_right _ _
  · exact hb.connections ▸ Multiset.le_add_left _ _
  · intro hmem
    rw [hflight] at hmem
    exact hothers (Opening.mem_databases_of_asked hmem)
  · intro c hconn
    have hmem : (r.database, c) ∈ opened p.history := mem_opened.mpr hconn
    rw [← hb.connections] at hmem
    simp only [Multiset.mem_add, Opening.connections_cons, Opening.opened?_kept] at hmem
    -- the place is kept for this acquire, so it is no record, no other's and not lost
    rcases hmem with (((hrec | hnone | hopening) | hleaves) | hgone) | hclosed
    · obtain ⟨r', hr', -⟩ := Table.mem_connections.mp hrec
      rw [hopen] at hr'
      cases hr'
    · cases hnone
    · exact absurd (Opening.mem_databases_of_connection hopening) hothers
    · cases hleaves
    · exact absurd (Multiset.mem_map_of_mem Prod.fst hgone) hlost
    · exact hclosed
  · intro max hmax
    -- the place itself is in the table but has no connection yet
    have hsize : p.table.size = p.table.connections.card + (O.card + 1) +
        (lost p.history).card := by
      rw [← Multiset.card_cons (⟨r, .kept⟩ : Opening) O]
      exact hb.size_eq
    have hunclosed : unclosed p.history = p.table.connections + Opening.connections O +
        lost p.history := by
      refine hb.unclosed_eq.trans ?_
      simp
    have hO := card_asked_add_card_connections_le O
    have hcap : p.table.size ≤ max := hc max hmax
    rw [hflight, hunclosed, Multiset.card_add, Multiset.card_add]
    omega
  · intro why other c hremoved
    rw [← ht.removed]
    exact mem_removed.mpr ⟨why, hremoved⟩

/-- A connection that is in use has not been closed. -/
theorem Balanced.not_closed {x : String × Nat} (hb : Balanced s)
    (hx : x ∈ s.pool.table.connections + Opening.connections s.openings) :
    x.2 ∉ (closed s.pool.history).map Prod.snd := by
  intro hmem
  obtain ⟨y, hy, he⟩ := Multiset.mem_map.mp hmem
  exact hb.apart_gone hx (Multiset.mem_add.mpr (.inr hy)) he.symm

/-- **Every move keeps the history in order.** -/
theorem Orderly.move (ho : Orderly s) (h : Move now s t) (hb : Balanced s) (ht : Told s)
    (hc : Capped s) : Orderly t := by
  cases h with
  | remark e he => exact ho.cons (by cases e <;> first | exact trivial | cases he) rfl rfl
  | walk => exact ho.congr rfl rfl
  | reset => exact ho.cons (e := .countersReset) trivial rfl rfl
  | flags connection f hf => exact ho.congr rfl rfl
  | leave why k r hr hw => exact ho.congr rfl rfl
  | @close p L O D d =>
    obtain ⟨hd, hh⟩ := hb.exists_handle_leaving
    -- two entries at once: the connection leaves, and is closed
    have hremoved : Orderly ⟨p.note (.removed d.why d.database d.connection), L, O, D⟩ :=
      ho.cons (e := .removed d.why d.database d.connection) trivial rfl rfl
    refine hremoved.cons (e := hd.closing d.database d.connection) ?_ (Pool.settings_retire p d)
      (Pool.history_retire hh)
    rw [Handle.closing]
    split <;> exact trivial
  | reserve r hr hroom => exact ho.congr rfl rfl
  | ask r => exact ho.cons (e := .connecting r.database) (allowsConnect hb ht hc) rfl rfl
  | unanswered r =>
    refine ho.cons (e := .unconnected r.database) trivial ?_ (Pool.history_giveUpOpening _ _)
    exact Pool.settings_giveUpOpening _ _
  | connect r fresh hd hcalls => exact ho.cons (e := .connected _ _) trivial rfl rfl
  | startHook r connection hr => exact ho.cons (e := .hookStarted _) trivial rfl rfl
  | finishHook r connection => exact ho.cons (e := .hookFinished _) trivial rfl rfl
  | abandon r connection =>
    exact ho.congr (Pool.settings_giveUpOpening _ _) (Pool.history_giveUpOpening _ _)
  | @publish p L O D o connection deadline hs hd hr =>
    have hconn := Opening.connection?_of_fit hs
    have hmem : (o.database, connection) ∈ p.table.connections + Opening.connections (o ::ₘ O) := by
      simp [Opening.opened?_of_connection? hconn]
    exact ho.cons (e := .published ⟨o.database, p.table.nextGeneration, connection⟩ now
      o.request.ttl o.request.persistent) (hb.not_closed hmem) rfl rfl
  | lose o connection hs hd => exact ho.cons (e := .lost _ _ now o.request.ttl) hd rfl rfl
  | @reuse p L O D k r ttl deadline hr hidle hh hd =>
    have hmem : (k, r.connection) ∈ p.table.connections + Opening.connections O :=
      Multiset.mem_add.mpr (.inl (Table.mem_connections.mpr ⟨r, hr, rfl⟩))
    exact ho.cons (e := .reused ⟨k, r.generation, r.connection⟩ now ttl) (hb.not_closed hmem)
      rfl rfl
  | @rest p L O D l hh hm =>
    have hended : Orderly ⟨p.note (.leaseEnded l .release), L, O, D⟩ :=
      ho.cons (e := .leaseEnded l .release) trivial rfl rfl
    exact hended.cons (e := .released l) trivial rfl rfl
  | @depart p L O D l hh hm =>
    have hended : Orderly ⟨p.note (.leaseEnded l .release), L, O, D⟩ :=
      ho.cons (e := .leaseEnded l .release) trivial rfl rfl
    exact hended.cons (e := .departed l) trivial rfl rfl
  | discard l how why r hw hr hg => exact ho.cons (e := .leaseEnded _ _) trivial rfl rfl
  | forget l how hw hm => exact ho.cons (e := .leaseEnded _ _) trivial rfl rfl

end Custody

/-! ### Reachable worlds -/

namespace World

variable {w : World}

/-- A pool stays set up as it was. -/
theorem settings_after (settings : PoolSettings) (driven : Bool) (enumeration : Enumeration)
    (events : List Event) :
    ((init settings driven enumeration).after events).pool.settings = settings := by
  refine (tidy_init settings driven enumeration).custody_after
    (P := fun s => s.pool.settings = settings) ?_ ?_ events
  · intro now s t h hs
    exact h.settings_eq.trans hs
  · simp only [init, custody]
    split
    · rfl
    · split <;> rfl

/-- A pool stays set up as it is. -/
theorem IsReachable.settings_after (hw : w.IsReachable) (events : List Event) :
    (w.after events).pool.settings = w.pool.settings := by
  obtain ⟨settings, driven, enumeration, before, rfl⟩ := hw
  rw [← after_append, World.settings_after, World.settings_after]

/-- In every reachable world the table is within its limit. -/
theorem IsReachable.capped (hw : w.IsReachable) : w.custody.Capped := by
  refine hw.sound (P := Custody.Capped) ?_ ?_
  · intro now s t h hb _ hc
    exact hc.move h hb
  · intro settings enumeration limit _
    exact Nat.zero_le limit

/-- **In every reachable world the history is in order.** -/
theorem IsReachable.orderly (hw : w.IsReachable) : w.custody.Orderly := by
  -- a connection is asked for only within the limit, so the two hold together
  have hsound := hw.sound (P := fun s => s.Capped ∧ s.Orderly) ?_ ?_
  · exact hsound.2
  · rintro now s t h hb ht ⟨hc, ho⟩
    exact ⟨hc.move h hb, ho.move h hb ht hc⟩
  · intro settings enumeration
    refine ⟨fun limit _ => Nat.zero_le limit, fun e past h => ?_⟩
    exact absurd (List.suffix_nil.mp h) (List.cons_ne_nil e past)

end World

end KeyedPool
