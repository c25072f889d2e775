import KeyedPool.Proofs.Conservation
import KeyedPool.Proofs.Custody.Passage

/-!
# A batch is closed

To prune, to make room and to empty a pool are the same in their second half: some connections have
left the table, and are closed one after the other. No matter in which order this is done and which
of the closings fail, none of them is left out and none is closed for another. So what becomes of a
pool can be told from the batch as a whole.

* `KeyedPool.Table.having`: the records of a table that have some property, in no order.
* `KeyedPool.Pool.coe_takeLive`: these are what a walk takes out of the table.
* `KeyedPool.Pool.isStuck`: whether closing a connection fails.
* `KeyedPool.Pool.IsStocked`: every record has a connection, so what leaves the table can be closed.
* `KeyedPool.Pool.getElem?_handles_retireAll`, `KeyedPool.Pool.history_retireAll`,
  `KeyedPool.Pool.counters_retireAll`: what becomes of the connections of a pool, of its history and
  of its counters, when a batch is closed.
-/

namespace KeyedPool

open Custody History

/-! ### What is taken out of a table -/

namespace Table

variable {t : Table} {which : Record → Bool} {k : String} {r : Record}

/-- **The records of a table that have some property**, with their databases. -/
def having (t : Table) (which : Record → Bool) : Multiset (String × Record) :=
  t.gather fun e => (e.2.record?.filter which).map (e.1, ·)

theorem mem_having :
    (k, r) ∈ t.having which ↔ t.find? k = some (.live r) ∧ which r = true := by
  simp only [having, gather, Multiset.mem_coe, List.mem_filterMap, Option.map_eq_some_iff,
    Option.filter_eq_some_iff]
  constructor
  · rintro ⟨⟨k', s⟩, he, r', ⟨hr, hw⟩, heq⟩
    cases heq
    cases s <;> cases hr
    exact ⟨find?_eq_some_iff.mpr he, hw⟩
  · rintro ⟨hr, hw⟩
    exact ⟨(k, .live r), find?_eq_some_iff.mp hr, r, ⟨rfl, hw⟩, rfl⟩

/-- No database has two records. -/
theorem nodup_having (t : Table) (which : Record → Bool) :
    ((t.having which).map Prod.fst).Nodup := by
  refine Multiset.coe_nodup.mpr (t.nodup.sublist ?_)
  induction t.entries with
  | nil => exact .slnil
  | cons e es ih =>
    rw [List.filterMap_cons, List.map_cons]
    cases e.2.record?.filter which with
    | none => exact ih.cons e.1
    | some r => exact ih.cons_cons e.1

/-- A walk over all names finds all records that have the property. -/
theorem coe_recordsAlong {order : List String} (horder : order.Perm t.keys) :
    (↑(t.recordsAlong order which) : Multiset (String × Record)) = t.having which := by
  have hnodup : (t.recordsAlong order which).Nodup :=
    ((horder.nodup_iff.mpr t.nodup).sublist names_recordsAlong_sublist).of_map Prod.fst
  refine (Multiset.Nodup.ext (Multiset.coe_nodup.mpr hnodup) (nodup_having t which).of_map).mpr ?_
  rintro ⟨k, r⟩
  rw [Multiset.mem_coe, mem_recordsAlong, mem_having, and_iff_right_iff_imp]
  rintro ⟨hr, -⟩
  refine horder.mem_iff.mpr (by_contra fun hout => ?_)
  rw [find?_eq_none_iff.mpr hout] at hr
  cases hr

/-- A connection that only one of them has is there once. -/
theorem count_having (hr : (k, r) ∈ t.having which)
    (halone : ∀ k' r', t.find? k' = some (.live r') → r'.connection = r.connection → k' = k) :
    ((t.having which).map (·.2.connection)).count r.connection = 1 := by
  have hsame : ∀ e ∈ t.having which, r.connection = e.2.connection ↔ e = (k, r) := by
    rintro ⟨k', r'⟩ he
    refine ⟨fun hc => ?_, fun heq => by rw [heq]⟩
    obtain ⟨hr', -⟩ := mem_having.mp he
    obtain rfl := halone k' r' hr' hc.symm
    cases hr'.symm.trans (mem_having.mp hr).1
    rfl
  rw [Multiset.count_map, Multiset.filter_congr hsame, Multiset.filter_eq', Multiset.card_replicate]
  exact Multiset.count_eq_one_of_mem (nodup_having t which).of_map hr

/-- What is taken out of a table and what stays are the whole table. -/
theorem size_without_add (t : Table) (which : Record → Bool) :
    (t.without which).size + (t.having which).card = t.size := by
  simp only [size, without, having, gather, Multiset.coe_card]
  induction t.entries with
  | nil => rfl
  | cons e es ih =>
    rcases e with ⟨k, _ | r⟩
    · simp [Slot.holds, Slot.record?, ← ih]
      omega
    · by_cases hr : which r = true <;> simp [Slot.holds, Slot.record?, Option.filter, hr, ← ih] <;>
        omega

/-- The connections on record are those of all records. -/
theorem connections_eq (t : Table) :
    t.connections = (t.having fun _ => true).map fun e => (e.1, e.2.connection) := by
  simp only [connections, having, gather, Multiset.map_coe, List.map_filterMap]
  refine congrArg Multiset.ofList (List.filterMap_congr fun e _ => ?_)
  cases e.2.record? <;> rfl

theorem nodup_connections (t : Table) : t.connections.Nodup := by
  refine Multiset.Nodup.of_map Prod.fst ?_
  rw [connections_eq, Multiset.map_map]
  exact t.nodup_having _

end Table

/-! ### A connection is closed once more -/

namespace Handle

/-- A connection after it was closed so many times. -/
def closings (h : Handle) (n : Nat) : Handle := (fun h : Handle => h.close.2)^[n] h

variable (h : Handle) (n : Nat)

@[simp] theorem closings_zero : h.closings 0 = h := rfl

@[simp] theorem closings_one : h.closings 1 = h.close.2 := rfl

theorem closings_succ : h.closings (n + 1) = h.close.2.closings n := rfl

@[simp] theorem closeCalls_closings : (h.closings n).closeCalls = h.closeCalls + n := by
  induction n generalizing h with
  | zero => rfl
  | succ n ih =>
    rw [closings_succ, ih, Nat.add_comm n 1, ← Nat.add_assoc]
    rfl

end Handle

namespace Counters

/-- **The counters after a batch was closed**: every connection counts under its cause, and as
closed or not. -/
def closing (c : Counters) (stuck : Nat → Bool) (ds : List Departure) : Counters where
  opened := c.opened
  pruned := c.pruned + ds.countP (·.why = .pruned)
  evicted := c.evicted + ds.countP (·.why = .evicted)
  closed := c.closed + ds.countP (!stuck ·.connection)
  closeFailed := c.closeFailed + ds.countP (stuck ·.connection)

variable (c : Counters) (stuck : Nat → Bool)

@[simp] theorem closing_nil : c.closing stuck [] = c := rfl

theorem closing_cons (d : Departure) (ds : List Departure) :
    c.closing stuck (d :: ds) = (c.closing stuck [d]).closing stuck ds := by
  simp only [closing, List.countP_cons, List.countP_nil, Nat.zero_add, mk.injEq, true_and]
  omega

/-- A connection that is closed counts under its cause, and then with its outcome. -/
theorem closing_singleton {c : Counters} {stuck : Nat → Bool} {d : Departure} {h : Handle}
    (hd : stuck d.connection = h.failClose) :
    c.closing stuck [d] = (d.why.tally?.elim c c.record).record h.closingTally := by
  rcases d with ⟨why, database, connection⟩
  simp only [closing, List.countP_singleton, hd, Handle.closingTally]
  cases why <;> cases h.failClose <;> rfl

end Counters

namespace Pool

variable {p : Pool} {d : Departure} {ds : List Departure}

/-- **Whether closing a connection fails.** -/
def isStuck (p : Pool) (connection : Nat) : Bool := p.handles[connection]?.any Handle.failClose

/-- What a walk takes out of the table are the records that have the property. -/
theorem coe_takeLive (why : Removal) (which : Record → Bool) :
    (↑(p.takeLive why which).1 : Multiset Departure) =
      (p.table.having which).map fun e => ⟨why, e.1, e.2.connection⟩ := by
  rw [takeLive, ← Multiset.map_coe, Table.coe_recordsAlong p.order_perm]

/-! #### One connection -/

theorem getElem?_handles_retire (c : Nat) :
    (p.retire d).2.handles[c]? =
      if d.connection = c then p.handles[c]?.map fun h => h.close.2 else p.handles[c]? := by
  cases hd : p.handles[d.connection]? with
  | some h =>
    rw [handles_retire hd, List.getElem?_set]
    split
    · rename_i hc
      subst hc
      rw [hd, if_pos (List.getElem?_eq_some_iff.mp hd).1]
      rfl
    · rfl
  | none =>
    have hsame : (p.retire d).2.handles = p.handles := by
      rw [retire, close]
      cases d.why.tally? <;> simp [hd]
    rw [hsame]
    split
    · rename_i hc
      subst hc
      rw [hd]
      rfl
    · rfl

@[simp] theorem isStuck_retire (c : Nat) : (p.retire d).2.isStuck c = p.isStuck c := by
  rw [isStuck, getElem?_handles_retire, isStuck]
  split
  · cases p.handles[c]? <;> rfl
  · rfl

theorem isStuck_of_getElem? {h : Handle} {c : Nat} (hc : p.handles[c]? = some h) :
    p.isStuck c = h.failClose := by
  rw [isStuck, hc]
  rfl

theorem retire_fst : (p.retire d).1 = !p.isStuck d.connection := by
  have hclose (q : Pool) (hq : q.handles = p.handles) :
      (q.close d.database d.connection).1 = !p.isStuck d.connection := by
    rw [close, isStuck, ← hq]
    cases q.handles[d.connection]? with
    | none => rfl
    | some h => cases hf : h.failClose <;> simp [Handle.close, hf]
  rw [retire]
  cases d.why.tally? <;> exact hclose _ rfl

theorem counters_retire (hd : d.connection < p.handles.length) :
    (p.retire d).2.counters = p.counters.closing p.isStuck [d] ∧
      (p.retire d).2.meters =
        ⟨p.meters.totals.closing p.isStuck [d], p.meters.openConnections - 1⟩ := by
  obtain ⟨h, hh⟩ : ∃ h, p.handles[d.connection]? = some h := ⟨_, List.getElem?_eq_getElem hd⟩
  have hstuck := isStuck_of_getElem? hh
  rw [retire_eq hh, Counters.closing_singleton hstuck, Counters.closing_singleton hstuck]
  refine ⟨rfl, ?_⟩
  have hout : Meters.openChange h.closingTally = -1 := by
    rw [Handle.closingTally]
    split <;> rfl
  -- a removal has no part in the number of open connections, the closing has
  have hcause : d.why.tally?.elim p.meters p.meters.record =
      ⟨d.why.tally?.elim p.meters.totals p.meters.totals.record, p.meters.openConnections⟩ := by
    cases d.why <;> simp [Removal.tally?, Meters.record, Meters.openChange]
  change (d.why.tally?.elim p.meters p.meters.record).record h.closingTally = _
  rw [hcause, Meters.record, hout]
  rfl

/-! #### All of them -/

/-- **Every connection is closed as often as it is in the batch**, and no other is. -/
theorem getElem?_handles_retireAll (c : Nat) :
    (p.retireAll ds).2.handles[c]? =
      p.handles[c]?.map (·.closings ((ds.map Departure.connection).count c)) := by
  induction ds generalizing p with
  | nil => simp [retireAll]
  | cons d ds ih =>
    rw [retireAll, ih, getElem?_handles_retire, List.map_cons, List.count_cons]
    by_cases hc : d.connection = c
    · simp [hc, Handle.closings_succ, Function.comp_def]
    · simp [hc]

/-- A batch is closed with success if every connection of it is. -/
theorem retireAll_fst : (p.retireAll ds).1 = ds.all fun d => !p.isStuck d.connection := by
  induction ds generalizing p with
  | nil => rfl
  | cons d ds ih => simp [retireAll, ih, retire_fst]

section Batch

variable (hds : ∀ d ∈ ds, d.connection < p.handles.length)
include hds

/-- **That they are closed is written down** for each of them once, and for no other. -/
theorem history_retireAll :
    ∃ since, (p.retireAll ds).2.history = since ++ p.history ∧
      closed since = ↑(ds.map Departure.left) := by
  induction ds generalizing p with
  | nil => exact ⟨[], rfl, rfl⟩
  | cons d ds ih =>
    obtain ⟨h, hd⟩ : ∃ h, p.handles[d.connection]? = some h :=
      ⟨_, List.getElem?_eq_getElem (hds d List.mem_cons_self)⟩
    have hlength : (p.retire d).2.handles.length = p.handles.length := by
      rw [handles_retire hd, List.length_set]
    obtain ⟨since, hsince, hclosed⟩ := ih (p := (p.retire d).2) fun d' hd' =>
      hlength ▸ hds d' (List.mem_cons_of_mem _ hd')
    refine ⟨since ++ [h.closing d.database d.connection,
      .removed d.why d.database d.connection], ?_, ?_⟩
    · rw [retireAll, hsince, history_retire hd, List.append_assoc]
      rfl
    · rw [closed_append, hclosed, closed_cons, Handle.closes?_closing, List.map_cons,
        ← Multiset.cons_coe, add_comm]
      rfl

/-- **They are counted**, each under its cause and with its outcome, and nothing else is. -/
theorem counters_retireAll :
    (p.retireAll ds).2.counters = p.counters.closing p.isStuck ds ∧
      (p.retireAll ds).2.meters =
        ⟨p.meters.totals.closing p.isStuck ds, p.meters.openConnections - ds.length⟩ := by
  induction ds generalizing p with
  | nil => simp [retireAll]
  | cons d ds ih =>
    have hd : d.connection < p.handles.length := hds d List.mem_cons_self
    have hlength : (p.retire d).2.handles.length = p.handles.length := by
      rw [handles_retire (List.getElem?_eq_getElem hd), List.length_set]
    have hstuck : (p.retire d).2.isStuck = p.isStuck := funext fun c => isStuck_retire c
    obtain ⟨hcounters, hmeters⟩ := counters_retire hd
    obtain ⟨hcounters', hmeters'⟩ := ih (p := (p.retire d).2) fun d' hd' =>
      hlength ▸ hds d' (List.mem_cons_of_mem _ hd')
    rw [hcounters, hstuck, ← Counters.closing_cons] at hcounters'
    rw [hmeters, hstuck, ← Counters.closing_cons] at hmeters'
    refine ⟨hcounters', hmeters'.trans (congrArg (Meters.mk _) ?_)⟩
    change p.meters.openConnections - 1 - ds.length =
      p.meters.openConnections - (ds.length + 1 : Nat)
    omega

end Batch

/-! #### Pools that can close what they have -/

/-- **Every record has a connection**, which was opened before. -/
def IsStocked (p : Pool) : Prop :=
  ∀ k r, p.table.find? k = some (.live r) → r.connection < p.handles.length

/-- What a walk takes out of the table can be closed. -/
theorem IsStocked.takeLive (hp : p.IsStocked) (why : Removal) (which : Record → Bool) :
    ∀ d ∈ (p.takeLive why which).1, d.connection < (p.takeLive why which).2.handles.length := by
  intro d hd
  obtain ⟨e, he, rfl⟩ := List.mem_map.mp hd
  obtain ⟨-, hr, -⟩ := Table.mem_recordsAlong.mp he
  exact hp e.1 e.2 hr

end Pool

/-- So it is throughout a run. -/
theorem World.Passes.isStocked {w : World} {s : Custody} (hs : w.Passes s) : s.pool.IsStocked := by
  intro k r hr
  have hrecord : (k, r.connection) ∈ s.pool.table.connections :=
    Table.mem_connections.mpr ⟨r, hr, rfl⟩
  have hopened : (k, r.connection) ∈ opened s.pool.history := by
    rw [← hs.balanced.connections]
    simp only [Multiset.mem_add, hrecord, true_or]
  obtain ⟨h, hh⟩ := hs.balanced.exists_handle hopened
  exact (List.getElem?_eq_some_iff.mp hh).1

end KeyedPool
