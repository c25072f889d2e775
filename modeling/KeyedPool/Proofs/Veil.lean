import KeyedPool.Proofs.Exclusivity

/-!
# A veil over closings

Whether a connection lets itself be closed is its own affair. The veil hides it: a pool under the
veil looks as it would if every connection that was ever closed had given in. All connections that
the pool has closed are closed, none of them resists, and a failure is counted and told as a
success.

The operations of a pool and the veil commute: it makes no difference whether an operation is
carried out and then veiled, or carried out under the veil. For most of them this is so in every
state. Only where a pool asks whether a connection is alive may the veil change the answer, namely
for a connection that the pool has closed in vain. So an admission needs to know that no such
connection is on record (`KeyedPool.Pool.IsIntact`), and the end of a lease that its own is not one.

When a lease ends whose record is gone, the branch that is taken does depend on the flags of its
connection, and the veil may change it. But then no branch does anything, and the veil hides the
line in which one of them says so.

* `KeyedPool.Pool.veil`: a pool under the veil.
* `KeyedPool.Pool.veil_retire`: a connection leaves, and is closed or not.
* `KeyedPool.Pool.veil_execute`, `KeyedPool.Pool.veil_attempt`: commands and admission.
* `KeyedPool.Pool.settle_alike`: the end of a lease.
-/

namespace KeyedPool

/-! ### What the veil hides -/

/-- A connection under the veil: it is closed if the pool has ever closed it. -/
def Handle.veil (h : Handle) : Handle :=
  { h with closed := h.closed || h.closeCalls != 0, failClose := false }

/-- Flags may change under the veil, which hides whether the connection resists. -/
theorem Handle.veil_setFlags (h : Handle) (closed broken failClose : Option Bool) :
    (h.setFlags closed broken failClose).veil = (h.veil.setFlags closed broken none).veil := by
  cases closed <;> simp [veil, setFlags]

/-- What is counted, under the veil. -/
def Tally.veil : Tally → Tally
  | .closeFailed => .closed
  | t => t

/-- Counters under the veil: all closings are counted together. -/
def Counters.veil (c : Counters) : Counters :=
  { c with closed := c.closed + c.closeFailed, closeFailed := 0 }

/-- Meters under the veil. -/
def Meters.veil (m : Meters) : Meters := { m with totals := m.totals.veil }

/-- An entry of the history under the veil. That a lease ended in vain is not told. -/
def Entry.veil? : Entry → Option Entry
  | .closeFailed database connection _ => some (.closed database connection)
  | .drained count _ => some (.drained count true)
  | .departed _ => none
  | e => some e

/-- **A pool under the veil.** Its table is untouched. -/
def Pool.veil (p : Pool) : Pool :=
  { p with
    handles := p.handles.map Handle.veil
    counters := p.counters.veil
    meters := p.meters.veil
    history := p.history.filterMap Entry.veil? }

theorem Counters.veil_record (c : Counters) (t : Tally) :
    (c.record t).veil = c.veil.record t.veil := by
  cases t <;> simp [record, veil, Tally.veil, Nat.add_right_comm, Nat.add_assoc]

theorem Meters.veil_record (m : Meters) (t : Tally) :
    (m.record t).veil = m.veil.record t.veil := by
  have hchange : openChange t.veil = openChange t := by cases t <;> rfl
  simp [record, veil, Counters.veil_record, hchange]

/-- The pool has not closed a connection. -/
def Pool.Unclosed (p : Pool) (connection : Nat) : Prop :=
  ∀ h, p.handles[connection]? = some h → h.closeCalls = 0

/-- **A pool is intact** if it has closed no connection that is on record. -/
def Pool.IsIntact (p : Pool) : Prop :=
  ∀ k r, p.table.find? k = some (.live r) → p.Unclosed r.connection

namespace Pool

variable (p : Pool) (now : Instant) (k : String) (c : Nat)

/-! ### Small steps -/

@[simp] theorem table_veil : p.veil.table = p.table := rfl

@[simp] theorem settings_veil : p.veil.settings = p.settings := rfl

@[simp] theorem order_veil : p.veil.order = p.order := rfl

@[simp] theorem length_handles_veil : p.veil.handles.length = p.handles.length :=
  List.length_map _

theorem getElem?_handles_veil : p.veil.handles[c]? = p.handles[c]?.map Handle.veil :=
  List.getElem?_map

theorem veil_note (e : Entry) : (p.note e).veil = e.veil?.elim p.veil p.veil.note := by
  simp only [note, veil, List.filterMap_cons]
  cases e.veil? <;> rfl

@[simp] theorem veil_withTable (t : Table) : (p.withTable t).veil = p.veil.withTable t := rfl

@[simp] theorem veil_tally (t : Tally) : (p.tally t).veil = p.veil.tally t.veil := by
  simp [tally, veil, Counters.veil_record, Meters.veil_record]

@[simp] theorem veil_addHandle (h : Handle) : (p.addHandle h).veil = p.veil.addHandle h.veil := by
  simp [addHandle, veil]

/-- A change of a connection and the veil commute if they do for the connection. -/
theorem veil_modifyHandle {f g : Handle → Handle} (hfg : ∀ h, (f h).veil = g h.veil) :
    (p.modifyHandle c f).veil = p.veil.modifyHandle c g := by
  have hmodify : (p.handles.modify c f).map Handle.veil =
      (p.handles.map Handle.veil).modify c g := by
    refine List.ext_getElem? fun i => ?_
    rw [List.getElem?_map, List.getElem?_modify, List.getElem?_modify, List.getElem?_map]
    cases p.handles[i]? with
    | none => rfl
    | some h =>
      by_cases hi : c = i
      · simp [hi, hfg]
      · simp [hi]
  simp only [modifyHandle, veil, hmodify]

/-- What the veil does not hide of a connection that the pool has not closed. -/
theorem isHealthy_veil {c : Nat} (hc : p.Unclosed c) : p.veil.isHealthy c = p.isHealthy c := by
  rw [isHealthy, isHealthy, getElem?_handles_veil]
  cases hh : p.handles[c]? with
  | none => rfl
  | some h => simp [Handle.veil, Handle.isHealthy, hc h hh]

/-! ### Closing -/

/-- **Under the veil, every attempt to close a connection is a success**, and does what the attempt
does that may fail. -/
theorem veil_close : p.veil.close k c = (true, (p.close k c).2.veil) := by
  simp only [close, getElem?_handles_veil]
  cases p.handles[c]? with
  | none => rfl
  | some h =>
    have hset : p.veil.handles.set c h.veil.close.2 =
        (p.handles.set c h.close.2).map Handle.veil := by
      simp [veil, List.map_set, Handle.close, Handle.veil]
    have hpool : ({ p.veil with handles := p.veil.handles.set c h.veil.close.2 } : Pool) =
        Pool.veil { p with handles := p.handles.set c h.close.2 } := by
      rw [hset]
      rfl
    simp only [Option.map_some, hpool]
    cases hf : h.failClose <;>
      simp [Handle.close, Handle.veil, hf, veil_note, Entry.veil?, Tally.veil]

theorem veil_retire (d : Departure) : p.veil.retire d = (true, (p.retire d).2.veil) := by
  simp only [retire]
  cases hwhy : d.why.tally? with
  | none => exact veil_close (p.note (.removed d.why d.database d.connection)) _ _
  | some t =>
    have ht : t.veil = t := by
      cases hd : d.why <;> rw [hd] at hwhy <;> cases hwhy <;> rfl
    have hcount : ((p.note (.removed d.why d.database d.connection)).tally t).veil =
        (p.veil.note (.removed d.why d.database d.connection)).tally t := by
      rw [veil_tally, ht]
      rfl
    simp only [Option.elim_some, ← hcount, veil_close]

theorem veil_retireAll (ds : List Departure) :
    p.veil.retireAll ds = (true, (p.retireAll ds).2.veil) := by
  induction ds generalizing p with
  | nil => rfl
  | cons d ds ih => simp [retireAll, veil_retire, ih]

/-! ### What leaves the table -/

theorem veil_takeLive (why : Removal) (which : Record → Bool) :
    p.veil.takeLive why which = (p.takeLive why which).map id veil := rfl

theorem veil_takeOldest : p.veil.takeOldest = p.takeOldest.map id veil := by
  simp only [takeOldest, table_veil, order_veil]
  split <;> rfl

theorem veil_prune : p.veil.prune now = (p.prune now).map id veil := by
  simp only [prune, veil_takeLive, Prod.map_fst, Prod.map_snd, id, veil_retireAll]
  split <;> rfl

theorem veil_evict : p.veil.evict = p.evict.map id veil := by
  simp only [evict, veil_takeOldest]
  rcases p.takeOldest with ⟨_ | d, q⟩
  · rfl
  · simp [veil_retire]

/-- Under the veil, everything can be closed. -/
theorem veil_closeAll : p.veil.closeAll = (true, p.closeAll.2.veil) := by
  simp only [closeAll, veil_takeLive, Prod.map_fst, Prod.map_snd, id, veil_retireAll]
  rfl

/-- What a command does. -/
theorem veil_execute (cmd : Command) : (p.execute now cmd).2.veil = (p.veil.execute now cmd).2 := by
  cases cmd with
  | prune => simp [execute, veil_prune]
  | evict => simp [execute, veil_evict]
  | closeAll => simp [execute, veil_closeAll]
  | _ => rfl

/-! ### Admission -/

theorem veil_makeRoom (limit : Nat) :
    p.veil.makeRoom limit now = (p.makeRoom limit now).map id veil := by
  simp only [makeRoom, table_veil, veil_takeLive, Prod.map_fst, Prod.map_snd, id, veil_takeOldest]
  split
  · rfl
  · split <;> rfl

theorem veil_reserve :
    p.veil.reserve k now = (p.reserve k now).map id (Prod.map id veil) := by
  simp only [reserve, settings_veil, veil_makeRoom]
  cases p.settings.maxConnections with
  | none => rfl
  | some limit =>
    dsimp only
    generalize p.makeRoom limit now = room
    have hsize : (room.map id veil).2.table.size = room.2.table.size := rfl
    by_cases hroom : room.2.table.size < limit
    · rw [if_pos hroom, if_pos (hsize ▸ hroom)]
      rfl
    · rw [if_neg hroom, if_neg (hsize ▸ hroom)]
      rfl

theorem veil_admission (hp : p.IsIntact) (ttl : Duration) :
    p.veil.admission k ttl now = (p.admission k ttl now).map id (Prod.map id veil) := by
  simp only [admission, table_veil]
  split
  · exact veil_reserve p now k
  · rfl
  · rename_i r hr
    rw [isHealthy_veil p (hp k r hr)]
    split
    · rfl
    · split
      · split <;> rfl
      · rw [← veil_withTable, veil_reserve]
        rfl

/-- **The veil does not change the answer to an acquire.** -/
theorem veil_attempt (hp : p.IsIntact) (ttl : Duration) :
    p.veil.attempt k ttl now = (p.attempt k ttl now).map id veil := by
  simp [attempt, veil_admission p now k hp, veil_retireAll]

/-! ### Leases -/

theorem veil_giveUpOpening : (p.giveUpOpening k).veil = p.veil.giveUpOpening k :=
  apply_ite veil _ _ _

theorem veil_publish (ttl : Duration) (persistent : Bool) :
    p.veil.publish k c ttl persistent now = (p.publish k c ttl persistent now).map id veil := by
  simp only [publish, table_veil]
  split
  · rfl
  · rename_i deadline _
    have hpublished : (p.veil.enroll k c deadline now persistent).note
        (.published ⟨k, p.table.nextGeneration, c⟩ now ttl persistent) =
          ((p.enroll k c deadline now persistent).note
            (.published ⟨k, p.table.nextGeneration, c⟩ now ttl persistent)).veil := rfl
    simp only [hpublished, veil_retire]
    split <;> rfl

theorem veil_discard (l : Lease) (why : Removal) :
    (p.discard l why).veil = p.veil.discard l why := by
  simp only [discard, table_veil]
  split
  · rw [← veil_withTable, veil_retire]
  · rfl

theorem table_eq_of_veil {p q : Pool} (h : p.veil = q.veil) : p.table = q.table := by
  rw [← table_veil, h, table_veil]

/-- Pools that are the same under the veil have the same connections, under the veil. -/
theorem handles_of_veil {p q : Pool} (h : p.veil = q.veil) (c : Nat) :
    (p.handles[c]? = none ∧ q.handles[c]? = none) ∨
    ∃ x y, p.handles[c]? = some x ∧ q.handles[c]? = some y ∧ x.veil = y.veil := by
  have hhandle : p.handles[c]?.map Handle.veil = q.handles[c]?.map Handle.veil := by
    rw [← getElem?_handles_veil, h, getElem?_handles_veil]
  cases hp : p.handles[c]? <;> cases hq : q.handles[c]? <;> rw [hp, hq] at hhandle
  · exact .inl ⟨rfl, rfl⟩
  · cases hhandle
  · cases hhandle
  · exact .inr ⟨_, _, rfl, rfl, Option.some.inj hhandle⟩

/-- The end of a lease whose record is gone says nothing under the veil. -/
theorem veil_settle_of_not_isMatched {l : Lease} (hl : ¬l.IsMatched p.table) (how : Disposal) :
    (p.settle l how).veil = p.veil.note (.leaseEnded l how) := by
  rcases settle_eq_of_not_isMatched hl how with heq | heq <;> rw [heq] <;> rfl

/-- The end of a lease and the veil commute if its connection has not been closed. -/
theorem veil_settle {l : Lease} (hl : l.IsMatched p.table) (hc : p.Unclosed l.connection)
    (how : Disposal) : (p.settle l how).veil = p.veil.settle l how := by
  have hended : (p.note (.leaseEnded l how)).veil = p.veil.note (.leaseEnded l how) := rfl
  cases how with
  | release =>
    have hhealthy : (p.veil.note (.leaseEnded l .release)).isHealthy l.connection =
        (p.note (.leaseEnded l .release)).isHealthy l.connection := isHealthy_veil p hc
    simp only [settle, hhealthy, apply_ite veil, veil_discard, hended]
    congr 1
    simp only [returnIdle, table_note, table_veil, Lease.isMatched_iff.mp hl, if_true]
    rfl
  | cancel => exact veil_discard _ l _
  | drop => exact veil_discard _ l _

/-- **The end of a lease** in two pools that are alike under the veil. Each of them may take another
branch when the record of the lease is gone. -/
theorem settle_alike {p q : Pool} (h : p.veil = q.veil) {l : Lease} (how : Disposal)
    (hp : l.IsMatched p.table → p.Unclosed l.connection)
    (hq : l.IsMatched q.table → q.Unclosed l.connection) :
    (p.settle l how).veil = (q.settle l how).veil := by
  have htable : p.table = q.table := table_eq_of_veil h
  by_cases hl : l.IsMatched p.table
  · rw [veil_settle p hl (hp hl), h]
    rw [htable] at hl
    exact (veil_settle q hl (hq hl) how).symm
  · rw [veil_settle_of_not_isMatched p hl, h]
    rw [htable] at hl
    exact (veil_settle_of_not_isMatched q hl how).symm

end Pool

end KeyedPool
