import KeyedPool.Proofs.Custody.Passage

/-!
# Admission is exact

An acquire is refused room only if there is none to be had: the pool is as large as it may be, and
every one of its slots is taken for good – a connection is being opened, is leased, or is
persistent. The code looks for room in three places and takes at most one connection that has not
expired, so this is not plain from its text. It is so because the table never exceeds its limit, and
one slot is all that an acquire needs.

In the same way the other answers are told from the slot of the database alone. An idle connection
that has died gives its own place to its successor, so it is replaced in a full pool, too.

* `KeyedPool.Slot.IsPinned`: a slot that gives no room.
* `KeyedPool.Pool.Offers`, `KeyedPool.Pool.IsEngaged`, `KeyedPool.Pool.IsExhausted`: what the answer
  depends on.
* `KeyedPool.Pool.size_makeRoom_lt_iff`: room is made if and only if it can be made.
* `KeyedPool.World.Passes.admission_exact`: the answer to every acquire.
-/

namespace KeyedPool

open Custody

variable {p : Pool} {k : String} {limit : Nat} {now : Instant}

/-! ### What gives no room -/

/-- **A slot gives no room** if a connection is being opened for it, or one is on record that is
leased or persistent. -/
def Slot.IsPinned (s : Slot) : Prop :=
  s = .opening ∨ ∃ r, s = .live r ∧ (r.busy = true ∨ r.persistent = true)

/-- What may be taken away is what is not pinned. -/
theorem Slot.isPinned_live {r : Record} : IsPinned (.live r) ↔ r.isReclaimable = false := by
  cases hb : r.busy <;> cases hp : r.persistent <;>
    simp [IsPinned, Record.isReclaimable, hb, hp]

theorem Record.isReclaimable_of_isPrunable {r : Record} (h : r.isPrunable now = true) :
    r.isReclaimable = true := by
  simp only [isPrunable, Bool.and_eq_true] at h
  exact h.1

namespace Table

variable {t : Table} {which : Record → Bool}

/-- Every slot of a table gives no room. -/
def IsPinned (t : Table) : Prop := ∀ k s, t.find? k = some s → s.IsPinned

/-- A table has a slot to give if and only if it has a record that may be taken away. -/
theorem not_isPinned_iff :
    ¬t.IsPinned ↔ ∃ k r, t.find? k = some (.live r) ∧ r.isReclaimable = true := by
  constructor
  · intro h
    simp only [IsPinned, not_forall] at h
    obtain ⟨k, s, hs, hpinned⟩ := h
    cases s with
    | opening => exact absurd (.inl rfl) hpinned
    | live r => exact ⟨k, r, hs, by simpa [Slot.isPinned_live] using hpinned⟩
  · rintro ⟨k, r, hr, hreclaim⟩ hpinned
    have hfalse := Slot.isPinned_live.mp (hpinned k _ hr)
    rw [hreclaim] at hfalse
    cases hfalse

/-- A table shrinks when some records leave it, if there are any. -/
theorem size_without_lt_iff :
    (t.without which).size < t.size ↔
      ∃ k r, t.find? k = some (.live r) ∧ which r = true := by
  simp only [size, without, List.length_filter_lt_length_iff_exists, Bool.not_eq_true',
    Bool.not_eq_false]
  constructor
  · rintro ⟨⟨k, s⟩, hmem, hs⟩
    cases s with
    | opening => cases hs
    | live r => exact ⟨k, r, find?_eq_some_iff.mpr hmem, hs⟩
  · rintro ⟨k, r, hr, hw⟩
    exact ⟨(k, .live r), find?_eq_some_iff.mp hr, hw⟩

theorem size_without_le : (t.without which).size ≤ t.size := List.length_filter_le ..

/-- A table from which nothing leaves stays as it is. -/
theorem find?_without_of_size (h : t.size ≤ (t.without which).size) (k : String) :
    (t.without which).find? k = t.find? k := by
  rw [find?_without]
  cases hs : t.find? k with
  | none => rfl
  | some s =>
    cases s with
    | opening => rfl
    | live r =>
      have hkept : which r ≠ true := fun hw =>
        Nat.not_lt.mpr h (size_without_lt_iff.mpr ⟨k, r, hs, hw⟩)
      simp [Option.filter, Slot.holds, Slot.record?, hkept]

end Table

namespace Pool

/-- The connection that has been unused for the longest time leaves, if any connection may. -/
theorem size_takeOldest_lt_iff : p.takeOldest.2.table.size < p.table.size ↔ ¬p.table.IsPinned := by
  rw [takeOldest]
  split
  · rename_i hnone
    refine ⟨fun h => absurd h (Nat.lt_irrefl _), fun h => ?_⟩
    obtain ⟨k, r, hr, hreclaim⟩ := Table.not_isPinned_iff.mp h
    have hkey : k ∈ p.order := by
      rw [p.order_perm.mem_iff]
      by_contra hout
      rw [Table.find?_eq_none_iff.mpr hout] at hr
      cases hr
    have hmem : (k, r) ∈ p.table.recordsAlong p.order Record.isReclaimable :=
      Table.mem_recordsAlong.mpr ⟨hkey, hr, hreclaim⟩
    rw [Table.oldest?_eq_none_iff.mp hnone] at hmem
    cases hmem
  · rename_i e he
    obtain ⟨-, hr, hreclaim⟩ := Table.mem_recordsAlong.mp (Table.mem_of_oldest? he)
    refine ⟨fun _ => Table.not_isPinned_iff.mpr ⟨_, _, hr, hreclaim⟩, fun _ => ?_⟩
    rw [table_withTable, Table.size_eq_of_find? hr]
    exact Nat.lt_succ_self _

/-- **Room is made if and only if it can be made.** In a pool within its limit one slot is enough,
whether it has expired or has only been unused for long. -/
theorem size_makeRoom_lt_iff (now : Instant) (hcap : p.table.size ≤ limit) :
    (p.makeRoom limit now).2.table.size < limit ↔ ¬(p.table.size = limit ∧ p.table.IsPinned) := by
  rw [makeRoom]
  split
  · rename_i hlt
    exact ⟨fun _ h => hlt.ne h.1, fun _ => hlt⟩
  · rename_i hge
    obtain rfl : p.table.size = limit := le_antisymm hcap (Nat.not_lt.mp hge)
    rw [and_iff_right rfl]
    dsimp only
    split
    · -- what has expired was reclaimable
      rename_i hlt
      refine ⟨fun _ => ?_, fun _ => hlt⟩
      obtain ⟨k, r, hr, hprune⟩ := Table.size_without_lt_iff.mp hlt
      exact Table.not_isPinned_iff.mpr ⟨k, r, hr, Record.isReclaimable_of_isPrunable hprune⟩
    · -- nothing has expired, so the table is the one that was there before
      rename_i hge
      have hsize := Nat.not_lt.mp hge
      have hfind := Table.find?_without_of_size hsize
      have hsame : (p.takeLive .pruned (Record.isPrunable now)).2.table.size = p.table.size :=
        le_antisymm Table.size_without_le hsize
      have hpinned : (p.takeLive .pruned (Record.isPrunable now)).2.table.IsPinned ↔
          p.table.IsPinned :=
        forall₂_congr fun k s => imp_congr_left (by rw [← hfind k]; rfl)
      rw [← hpinned, ← size_takeOldest_lt_iff, hsame]

/-! ### What the answer depends on -/

/-- **A pool offers its connection to a database** if that is on record, idle, and neither closed
nor broken. -/
def Offers (p : Pool) (k : String) (connection generation : Nat) : Prop :=
  ∃ r h, p.table.find? k = some (.live r) ∧ r.connection = connection ∧
    r.generation = generation ∧ r.busy = false ∧ p.handles[r.connection]? = some h ∧
    h.closed = false ∧ h.broken = false

/-- **A database is engaged** if a connection to it is being opened or is leased. -/
def IsEngaged (p : Pool) (k : String) : Prop :=
  p.table.find? k = some .opening ∨ ∃ r, p.table.find? k = some (.live r) ∧ r.busy = true

/-- **A pool has no room for a database** that it does not track if it is as large as it may be and
has no slot to give. -/
def IsExhausted (p : Pool) (k : String) : Prop :=
  p.table.find? k = none ∧
    ∃ limit, p.settings.maxConnections = some limit ∧ p.table.size = limit ∧ p.table.IsPinned

theorem isHealthy_iff {c : Nat} :
    p.isHealthy c = true ↔ ∃ h, p.handles[c]? = some h ∧ h.closed = false ∧ h.broken = false := by
  simp [isHealthy, Option.any_eq_true_iff_get, Option.eq_some_iff_get_eq, Handle.isHealthy]

theorem offers_of_find? {r : Record} (hr : p.table.find? k = some (.live r)) {c g : Nat} :
    p.Offers k c g ↔
      r.connection = c ∧ r.generation = g ∧ r.busy = false ∧ p.isHealthy r.connection = true := by
  rw [isHealthy_iff]
  constructor
  · rintro ⟨r', h, hr', hc, hg, hb, hh⟩
    rw [hr] at hr'
    cases hr'
    exact ⟨hc, hg, hb, h, hh⟩
  · rintro ⟨hc, hg, hb, h, hh⟩
    exact ⟨r, h, hr, hc, hg, hb, hh⟩

/-- **A place is kept for a database without one** unless the pool is exhausted. -/
theorem reserve_fst (now : Instant)
    (hcap : ∀ limit, p.settings.maxConnections = some limit → p.table.size ≤ limit)
    (hk : p.table.find? k = none) :
    p.IsExhausted k ∧ (p.reserve k now).1 = .refused .full ∨
      ¬p.IsExhausted k ∧ (p.reserve k now).1 = .reserved := by
  rw [reserve]
  cases hmax : p.settings.maxConnections with
  | none => exact .inr ⟨fun h => by simp [IsExhausted, hmax] at h, rfl⟩
  | some limit =>
    have hexhausted : p.IsExhausted k ↔ p.table.size = limit ∧ p.table.IsPinned := by
      simp [IsExhausted, hk, hmax, eq_comm]
    have hroom := size_makeRoom_lt_iff now (hcap limit hmax)
    rw [← hexhausted] at hroom
    dsimp only
    split
    · rename_i hlt
      exact .inr ⟨hroom.mp hlt, rfl⟩
    · rename_i hge
      exact .inl ⟨by_contra fun h => hge (hroom.mpr h), rfl⟩

/-- A slot that is given back makes room, whatever the others are. -/
theorem reserve_erase (now : Instant) {s : Slot}
    (hcap : ∀ limit, p.settings.maxConnections = some limit → p.table.size ≤ limit)
    (hk : p.table.find? k = some s) :
    ((p.withTable (p.table.erase k)).reserve k now).1 = .reserved := by
  have hlt : (p.table.erase k).size < p.table.size := by
    rw [Table.size_eq_of_find? hk]
    exact Nat.lt_succ_self _
  have hcap' : ∀ limit, (p.withTable (p.table.erase k)).settings.maxConnections = some limit →
      (p.withTable (p.table.erase k)).table.size ≤ limit :=
    fun limit hmax => hlt.le.trans (hcap limit hmax)
  rcases reserve_fst (k := k) now hcap' (by simp) with ⟨⟨-, limit, hmax, hsize, -⟩, -⟩ | ⟨-, h⟩
  · exact absurd (hsize ▸ hcap limit hmax) (Nat.not_le.mpr hlt)
  · exact h

/-- A place that is kept is in the table. -/
theorem find?_of_reserved (h : (p.reserve k now).1 = .reserved) :
    (p.reserve k now).2.2.table.find? k = some .opening := by
  rw [reserve] at h ⊢
  split
  · simp
  · dsimp only
    split
    · simp
    · rename_i hmax hge
      simp [hmax, hge] at h

/-! ### The answer by the slot of the database -/

section Attempt

variable {x : Record} {ttl : Duration}

theorem attempt_opening (hk : p.table.find? k = some .opening) :
    p.attempt k ttl now = (.refused .busy, p) := by
  simp [attempt, admission, hk, retireAll]

theorem attempt_busy (hx : p.table.find? k = some (.live x)) (hb : x.busy = true) :
    p.attempt k ttl now = (.refused .busy, p) := by
  simp [attempt, admission, hx, hb, retireAll]

/-- An idle connection is leased again while it is healthy, and nothing is closed for it. -/
theorem attempt_idle (hx : p.table.find? k = some (.live x)) (hb : x.busy = false)
    (hh : p.isHealthy x.connection = true) :
    p.attempt k ttl now =
      match now.after? ttl with
      | none => (.beyondHorizon, p)
      | some deadline =>
        (.leased x.connection x.generation,
          p.withTable (p.table.modify k (Record.lease deadline now))) := by
  cases ht : now.after? ttl <;> simp [attempt, admission, hx, hb, hh, ht, retireAll]

/-- A dead one gives its place away, be the pool full or not. -/
theorem attempt_dead (now : Instant) (ttl : Duration)
    (hcap : ∀ limit, p.settings.maxConnections = some limit → p.table.size ≤ limit)
    (hx : p.table.find? k = some (.live x)) (hb : x.busy = false)
    (hh : p.isHealthy x.connection = false) : (p.attempt k ttl now).1 = .reserved := by
  simp [attempt, admission, hx, hb, hh, reserve_erase now hcap hx]

end Attempt

end Pool

/-! ### The answer to every acquire -/

namespace World.Passes

variable {w : World} {s : Custody} {ttl : Duration} {deadline : Instant}

/-- **Admission is exact** in every state of a run, at any time and for any deadline that the clock
can show. An acquire is given the connection of its database if and only if the pool offers it,
whatever the limit; it waits for the database if and only if that is engaged, and for room if and
only if the pool is exhausted; else a place is kept for it. So an idle connection that has died
leaves for a new one, be the pool full or not. -/
theorem admission_exact (hs : w.Passes s) (ht : now.after? ttl = some deadline) (k : String) :
    let answer := s.pool.admission k ttl now
    (∀ c g, answer.1 = .leased c g ↔ s.pool.Offers k c g) ∧
    (answer.1 = .refused .busy ↔ s.pool.IsEngaged k) ∧
    (answer.1 = .refused .full ↔ s.pool.IsExhausted k) ∧
    (answer.1 = .reserved ↔
      (∀ c g, ¬s.pool.Offers k c g) ∧ ¬s.pool.IsEngaged k ∧ ¬s.pool.IsExhausted k) ∧
    (∀ r, s.pool.table.find? k = some (.live r) → r.busy = false →
      s.pool.isHealthy r.connection = false →
        answer.1 = .reserved ∧ answer.2.2.table.find? k = some .opening ∧
          ⟨.replaced, k, r.connection⟩ ∈ answer.2.1) := by
  have hcap : ∀ limit, s.pool.settings.maxConnections = some limit →
      s.pool.table.size ≤ limit := hs.capped
  generalize s.pool = p at hcap
  simp only [Pool.admission]
  cases hfind : p.table.find? k with
  | none =>
    have hoffers : ∀ c g, ¬p.Offers k c g := by
      rintro c g ⟨r, h, hr, -⟩
      rw [hfind] at hr
      cases hr
    have hengaged : ¬p.IsEngaged k := by simp [Pool.IsEngaged, hfind]
    rcases Pool.reserve_fst now hcap hfind with ⟨hex, h⟩ | ⟨hex, h⟩
    · simp [h, hoffers, hengaged, hex]
    · simp [h, hoffers, hengaged, hex]
  | some slot =>
    have hex : ¬p.IsExhausted k := by simp [Pool.IsExhausted, hfind]
    cases slot with
    | opening =>
      have hengaged : p.IsEngaged k := .inl hfind
      have hoffers : ∀ c g, ¬p.Offers k c g := by
        rintro c g ⟨r, h, hr, -⟩
        rw [hfind] at hr
        cases hr
      simp [hoffers, hengaged, hex]
    | live r =>
      have hengaged : p.IsEngaged k ↔ r.busy = true := by simp [Pool.IsEngaged, hfind]
      simp only [Pool.offers_of_find? hfind, hengaged]
      cases hb : r.busy with
      | true => simp [hex, hb]
      | false =>
        cases hh : p.isHealthy r.connection with
        | true => simp [hex, hb, hh, ht]
        | false =>
          have hreserved := Pool.reserve_erase now hcap hfind
          have hslot := Pool.find?_of_reserved hreserved
          simp [hex, hb, hh, hreserved, hslot]

/-- A full pool whose only connection is persistent and idle, and has died: there is no room for
another database, but for its own there is. -/
theorem admission_exact_full :
    let w := (World.init { maxConnections := some 1 } false).after
      [.start (.lease { database := "a", ttl := ⟨5⟩, persistent := true } "lease"),
        .settle "lease" .release, .flags 0 (some true) none none]
    (w.pool.admission "b" ⟨5⟩ w.now).1 = .refused .full ∧
      (w.pool.admission "a" ⟨5⟩ w.now).1 = .reserved := by
  intro w
  have hw : w.IsReachable := ⟨_, _, _, _, rfl⟩
  have ht : w.now.after? ⟨5⟩ = some ⟨5⟩ := by decide
  obtain ⟨-, -, hfull, -, -⟩ := (rest hw).admission_exact ht "b"
  obtain ⟨-, -, -, -, hdead⟩ := (rest hw).admission_exact ht "a"
  have hentries : w.pool.table.entries = [("a", .live ⟨0, ⟨5⟩, ⟨0⟩, false, true, 1⟩)] := rfl
  refine ⟨hfull.mpr ⟨rfl, 1, rfl, rfl, fun k s hs => ?_⟩, ?_⟩
  · have hmem : (k, s) ∈ w.pool.table.entries := Table.find?_eq_some_iff.mp hs
    rw [hentries] at hmem
    cases List.mem_singleton.mp hmem
    exact .inr ⟨_, rfl, .inr rfl⟩
  · exact (hdead ⟨0, ⟨5⟩, ⟨0⟩, false, true, 1⟩ rfl rfl rfl).1

end World.Passes

end KeyedPool
