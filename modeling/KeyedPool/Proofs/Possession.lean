import KeyedPool.Proofs.Conservation
import KeyedPool.Proofs.Custody.Departure
import KeyedPool.Proofs.Draining
import KeyedPool.Proofs.Exclusivity

/-!
# Whoever has a lease keeps its connection

While a lease lasts, its connection is neither taken from the table nor closed, unless everything is
closed. It does not matter how long its time has been over, how full the pool is, or what the
connection reports of itself.

The law is about every moment at which a connection leaves or is closed, and what is held at such a
moment can be read from the history up to it: the leases that began and have not ended.

* `KeyedPool.History.held`: the leases that are held after a history.
* `KeyedPool.Custody.Booked`: they are the leases that have not ended.
* `KeyedPool.Entry.Respects`: the connection of a lease leaves and is closed only with all others.
* `KeyedPool.Custody.Respectful.move`: every move keeps it so.
* `KeyedPool.World.IsReachable.holders_undisturbed`: so it is in every run.
-/

namespace KeyedPool

/-! ### What is held -/

/-- The lease that ends with an entry. -/
def Entry.ends? : Entry → Option Lease
  | .leaseEnded l _ => some l
  | _ => none

namespace History

/-- The leases that began. -/
def begun (h : List Entry) : Multiset Lease := account Entry.begins? h

/-- The leases that ended. -/
def ended (h : List Entry) : Multiset Lease := account Entry.ends? h

/-- **The leases that are held after a history**: those that began and have not ended. -/
def held (h : List Entry) : Multiset Lease := begun h - ended h

@[simp] theorem begun_cons (e : Entry) (h : List Entry) :
    begun (e :: h) = ↑e.begins?.toList + begun h :=
  account_cons _ e h

@[simp] theorem ended_cons (e : Entry) (h : List Entry) :
    ended (e :: h) = ↑e.ends?.toList + ended h :=
  account_cons _ e h

/-- An entry with which no lease begins or ends changes nothing in what is held. -/
theorem held_cons {e : Entry} (hb : e.begins? = none) (he : e.ends? = none) (h : List Entry) :
    held (e :: h) = held h := by
  simp [held, hb, he]

end History

open History

namespace Custody

variable {now : Instant} {s t : Custody} {p : Pool} {L : Multiset Lease} {O : Multiset Opening}
  {D : Multiset Departure} {e : Entry} {l : Lease}

/-- The history tells which leases have not ended. -/
def Booked (s : Custody) : Prop := begun s.pool.history = ended s.pool.history + s.leases

theorem Booked.held_eq (hk : s.Booked) : held s.pool.history = s.leases := by
  rw [held, hk, add_tsub_cancel_left]

/-- An entry of other matters changes nothing. -/
theorem Booked.note (hk : s.Booked) (hb : e.begins? = none) (he : e.ends? = none)
    (hh : t.pool.history = e :: s.pool.history) (hL : t.leases = s.leases) : t.Booked := by
  rw [Booked, hh, hL, begun_cons, ended_cons, hb, he]
  simpa [Booked] using hk

/-- A lease begins. -/
theorem Booked.begin (hk : s.Booked) (hb : e.begins? = some l) (he : e.ends? = none)
    (hh : t.pool.history = e :: s.pool.history) (hL : t.leases = l ::ₘ s.leases) : t.Booked := by
  rw [Booked, hh, hL, begun_cons, ended_cons, hb, he]
  simpa [Booked] using hk

/-- A lease ends. -/
theorem Booked.finish (hk : s.Booked) (hb : e.begins? = none) (he : e.ends? = some l)
    (hh : t.pool.history = e :: s.pool.history) (hL : s.leases = l ::ₘ t.leases) : t.Booked := by
  rw [Booked, hh, begun_cons, ended_cons, hb, he]
  rw [Booked, hL] at hk
  simpa using hk

/-- **Every move keeps it so.** -/
theorem Booked.move (hk : s.Booked) (h : Move now s t) (hb : s.Balanced) : t.Booked := by
  cases h with
  | remark e he =>
    have hquiet : e.begins? = none ∧ e.ends? = none := by
      cases e <;> first | exact ⟨rfl, rfl⟩ | cases he
    exact hk.note hquiet.1 hquiet.2 rfl rfl
  | reset => exact hk.note (e := .countersReset) rfl rfl rfl rfl
  | @close p L O D d =>
    obtain ⟨h, hh⟩ := hb.exists_handle_leaving
    have hremoved : Booked ⟨p.note (.removed d.why d.database d.connection), L, O, D⟩ :=
      hk.note (e := .removed _ _ _) rfl rfl rfl rfl
    have hclosing : (h.closing d.database d.connection).begins? = none ∧
        (h.closing d.database d.connection).ends? = none := by
      rw [Handle.closing]
      split <;> exact ⟨rfl, rfl⟩
    exact hremoved.note hclosing.1 hclosing.2 (Pool.history_retire hh) rfl
  | ask r => exact hk.note (e := .connecting _) rfl rfl rfl rfl
  | unanswered r =>
    exact hk.note (e := .unconnected _) rfl rfl (Pool.history_giveUpOpening _ _) rfl
  | connect r h hd hc => exact hk.note (e := .connected _ _) rfl rfl rfl rfl
  | startHook r c hr => exact hk.note (e := .hookStarted c) rfl rfl rfl rfl
  | finishHook r c => exact hk.note (e := .hookFinished c) rfl rfl rfl rfl
  | @abandon p L O D r c =>
    have hhistory : (p.giveUpOpening r.database).history = p.history :=
      Pool.history_giveUpOpening _ _
    rw [Booked, hhistory]
    exact hk
  | publish o c deadline ho ht hr => exact hk.begin (e := .published _ _ _ _) rfl rfl rfl rfl
  | lose o c ho ht => exact hk.note (e := .lost _ _ _ _) rfl rfl rfl rfl
  | reuse k r ttl deadline hr hidle hh ht => exact hk.begin (e := .reused _ _ _) rfl rfl rfl rfl
  | @rest p L O D l hh hm =>
    have hended : Booked ⟨p.note (.leaseEnded l .release), L, O, D⟩ :=
      hk.finish (e := .leaseEnded l _) rfl rfl rfl rfl
    exact hended.note (e := .released l) rfl rfl rfl rfl
  | @depart p L O D l hh hm =>
    have hended : Booked ⟨p.note (.leaseEnded l .release), L, O, D⟩ :=
      hk.finish (e := .leaseEnded l _) rfl rfl rfl rfl
    exact hended.note (e := .departed l) rfl rfl rfl rfl
  | discard l how why r hw hr hg => exact hk.finish (e := .leaseEnded l how) rfl rfl rfl rfl
  | forget l how hw hm => exact hk.finish (e := .leaseEnded l how) rfl rfl rfl rfl
  | _ => exact hk

/-! ### What is held is left alone -/

/-- **A connection that is leased is about to be closed only with all others.** -/
theorem Exclusive.drained_of_leaving (he : s.Exclusive) (hb : s.Balanced) (ht : s.Told)
    {d : Departure} (hd : d ∈ s.leaving) (hl : l ∈ s.leases) (hc : l.connection = d.connection) :
    d.why = .drained := by
  rcases he.stray l hl with ⟨r, hr, hg⟩ | hstray
  · -- a connection on record is not on its way out
    have hrecord : (l.database, l.connection) ∈ s.pool.table.connections :=
      Table.mem_connections.mpr ⟨r, hr, (he.of_mem hl hr hg).2.symm⟩
    have hgone := Departs.mem_gone (.inl hd) ht
    exact absurd hc (hb.apart_gone (Multiset.mem_add.mpr (.inl hrecord)) hgone)
  · have hdeparts : s.Departs ⟨.drained, l.database, l.connection⟩ := hstray.symm
    exact congrArg Departure.why (hb.eq_of_leaving ht hd hdeparts hc.symm)

end Custody

/-- Whether a connection is held by a lease after a history. -/
def History.IsHeld (h : List Entry) (c : Nat) : Prop := c ∈ (held h).map Lease.connection

/-- **What respects the holders of leases:** a connection that is held leaves the pool only with all
others, and to close it is part of this. -/
def Entry.Respects (past : List Entry) : Entry → Prop
  | .removed why _ c => IsHeld past c → why = .drained
  | .closed k c => IsHeld past c → past.head? = some (.removed .drained k c)
  | .closeFailed k c _ => IsHeld past c → past.head? = some (.removed .drained k c)
  | _ => True

/-- An entry that neither removes nor closes a connection respects everybody. -/
theorem Entry.respects_of_none {e : Entry} (hr : e.removes? = none) (hc : e.closes? = none)
    (past : List Entry) : e.Respects past := by
  cases e <;> trivial

theorem Handle.respects_closing {h : Handle} {past : List Entry} {k : String} {c : Nat}
    (hpast : IsHeld past c → past.head? = some (.removed .drained k c)) :
    (h.closing k c).Respects past := by
  rw [Handle.closing]
  split <;> exact hpast

namespace History

/-- **Every entry of a history respects the holders of leases.** -/
def Respectful (h : List Entry) : Prop := ∀ e past, e :: past <:+ h → e.Respects past

variable {h : List Entry} {e : Entry}

theorem Respectful.cons (hr : Respectful h) (he : e.Respects h) : Respectful (e :: h) := by
  intro e' past hsuffix
  rcases List.suffix_cons_iff.mp hsuffix with heq | hsuffix
  · cases heq
    exact he
  · exact hr e' past hsuffix

theorem Respectful.append (hr : Respectful h) {since : List Entry}
    (hsince : ∀ e ∈ since, e.removes? = none ∧ e.closes? = none) : Respectful (since ++ h) := by
  induction since with
  | nil => exact hr
  | cons e es ih =>
    obtain ⟨he, hes⟩ := List.forall_mem_cons.mp hsince
    exact (ih hes).cons (Entry.respects_of_none he.1 he.2 _)

end History

namespace Custody

variable {now : Instant} {s t : Custody}

/-- **Every move respects the holders of leases.** -/
theorem respectful_move (hr : Respectful s.pool.history) (h : Move now s t) (hb : s.Balanced)
    (ht : s.Told) (he : s.Exclusive) (hk : s.Booked) : Respectful t.pool.history := by
  rcases h.writes hb with ⟨d, h, hleaving, -, hhistory⟩ | ⟨since, hhistory, hquiet⟩
  · have hdrained : IsHeld s.pool.history d.connection → d.why = .drained := by
      intro hheld
      rw [IsHeld, hk.held_eq] at hheld
      obtain ⟨l, hl, hc⟩ := Multiset.mem_map.mp hheld
      exact he.drained_of_leaving hb ht (hleaving ▸ Multiset.mem_cons_self d _) hl hc
    rw [hhistory]
    refine (hr.cons (e := .removed d.why d.database d.connection) hdrained).cons
      (Handle.respects_closing fun hheld => ?_)
    -- that the connection leaves ends no lease
    rw [IsHeld, held_cons rfl rfl] at hheld
    rw [hdrained hheld]
    rfl
  · exact hhistory ▸ hr.append hquiet

end Custody

/-! ### Runs -/

namespace World

variable {w : World} {l : Lease}

theorem IsReachable.booked_and_respectful (hw : w.IsReachable) :
    w.custody.Booked ∧ Respectful w.pool.history := by
  have hsound := hw.sound
    (P := fun s => s.Exclusive ∧ s.Booked ∧ Respectful s.pool.history) ?_ ?_
  · exact hsound.2
  · rintro now s t h hb ht ⟨he, hk, hr⟩
    exact ⟨he.move h hb ht, hk.move h hb, Custody.respectful_move hr h hb ht he hk⟩
  · intro settings enumeration
    refine ⟨Custody.exclusive_fresh settings enumeration, rfl, fun e past h => ?_⟩
    exact absurd (List.suffix_nil.mp h) (List.cons_ne_nil e past)

/-- A lease that is held has its record, unless its connection was closed with all others. -/
theorem IsReachable.record_of_held (hw : w.IsReachable) (hl : l ∈ w.heldLeases) :
    .removed .drained l.database l.connection ∈ w.pool.history ∨
      ∃ r h, w.pool.table.find? l.database = some (.live r) ∧ r.generation = l.generation ∧
        r.connection = l.connection ∧ r.busy = true ∧
        w.pool.handles[l.connection]? = some h ∧ h.closeCalls = 0 := by
  rcases hw.exclusive.stray l hl with ⟨r, hr, hg⟩ | hgone | hleaves
  · obtain ⟨hbusy, hc⟩ := hw.exclusive.of_mem hl hr hg
    have hrecord : (l.database, l.connection) ∈ w.pool.table.connections :=
      Table.mem_connections.mpr ⟨r, hr, hc.symm⟩
    obtain ⟨h, hh, hcalls⟩ :=
      hw.told.exists_open_handle hw.balanced (Multiset.mem_add.mpr (.inl hrecord))
    exact .inr ⟨r, h, hr, hg, hc.symm, hbusy, hh, hcalls⟩
  · exact .inl hgone
  · cases hleaves

/-- A connection that left has been closed for good between two events. -/
theorem IsReachable.closed_of_removed (hw : w.IsReachable) {why : Removal} {k : String} {c : Nat}
    (h : .removed why k c ∈ w.pool.history) : w.ClosedForGood c := by
  have hclosed : (k, c) ∈ closed w.pool.history := hw.told.removed ▸ mem_removed.mpr ⟨why, h⟩
  obtain ⟨handle, hh⟩ := hw.exists_handle (hw.opened_of_closed hclosed)
  have hpos : 0 < handle.closeCalls := by
    rw [hw.closeCalls_eq hh]
    exact Multiset.count_pos.mpr (Multiset.mem_map_of_mem _ hclosed)
  have hplaces := hw.places hh
  exact hw.closed_for_good hh (by omega)

/-- **An event in which nothing may be drained leaves alone whatever is held** at the time. -/
theorem IsReachable.held_untouched (hw : w.IsReachable) {event : Event}
    (hdrain : w.mayDrain event = false) {e : Entry} {past : List Entry}
    (h : e :: past <:+ (w.step event).2.pool.history) (hpast : w.pool.history <:+ past)
    (hl : l ∈ History.held past) (k : String) :
    e.removes? ≠ some (k, l.connection) ∧ e.closes? ≠ some (k, l.connection) := by
  have hnext : (w.after [event]).IsReachable := hw.after [event]
  have hrespects : e.Respects past := hnext.booked_and_respectful.2 e past h
  have hheld : IsHeld past l.connection := Multiset.mem_map_of_mem _ hl
  obtain ⟨since, hsince⟩ := hw.history_suffix [event]
  obtain ⟨later, earlier, heq, rfl⟩ := split_of_suffix (hsince ▸ h) hpast
  have hnew : ∀ e' ∈ since, e'.drains? = none := by
    have hdrained : (w.after [event]).pool.drained = w.pool.drained := drained_step w hdrain
    simp only [Pool.drained, ← hsince, List.filterMap_append] at hdrained
    exact List.filterMap_eq_nil_iff.mp (List.append_left_eq_self.mp hdrained)
  have he : e ∈ since := heq ▸ List.mem_append_right _ List.mem_cons_self
  constructor
  · intro hremoves
    -- the connection would leave with all others
    cases e <;> cases hremoves
    rename_i why
    have hwhy : why = .drained := hrespects hheld
    have hnone := hnew _ he
    rw [hwhy] at hnone
    cases hnone
  · intro hcloses
    have hhead : (earlier ++ w.pool.history).head? = some (.removed .drained k l.connection) := by
      cases e <;> cases hcloses <;> exact hrespects hheld
    cases earlier with
    | nil =>
      -- it would have left before the event, and been closed by then
      have hgone := hw.closed_of_removed (List.mem_of_mem_head? hhead)
      obtain ⟨-, -, -, since', hsince', hquiet⟩ := hgone [event]
      rw [← hsince] at hsince'
      exact (hquiet e (List.append_cancel_right hsince' ▸ he)).2 k hcloses
    | cons e' es =>
      -- it would have left in the event
      have he' : e' ∈ since :=
        heq ▸ List.mem_append_right _ (List.mem_cons_of_mem _ List.mem_cons_self)
      have hnone := hnew e' he'
      cases hhead
      cases hnone

/-- **Whoever has a lease keeps its connection**, in every run. Whenever a connection leaves the
pool that is held at this moment, everything is closed; and whenever one is closed that is held, it
is because it left just before for this reason. What is held can be read from the history: between
two events it is what callers and bodies have, and each of these leases has its record and an
untouched connection, or everything was closed meanwhile. And an event in which nobody asks for
everything to be closed takes nothing away that is held at the time, neither a record nor a
connection. -/
theorem IsReachable.holders_undisturbed (hw : w.IsReachable) :
    (∀ e past, e :: past <:+ w.pool.history → ∀ l ∈ History.held past, ∀ k,
      (∀ why, e = .removed why k l.connection → why = .drained) ∧
      (e.closes? = some (k, l.connection) →
        past.head? = some (.removed .drained k l.connection))) ∧
    (↑w.heldLeases : Multiset Lease) = History.held w.pool.history ∧
    (∀ l ∈ w.heldLeases, .removed .drained l.database l.connection ∈ w.pool.history ∨
      ∃ r h, w.pool.table.find? l.database = some (.live r) ∧ r.generation = l.generation ∧
        r.connection = l.connection ∧ r.busy = true ∧
        w.pool.handles[l.connection]? = some h ∧ h.closeCalls = 0) ∧
    ∀ event, w.mayDrain event = false → ∀ e past,
      e :: past <:+ (w.step event).2.pool.history → w.pool.history <:+ past →
        ∀ l ∈ History.held past, ∀ k,
          e.removes? ≠ some (k, l.connection) ∧ e.closes? ≠ some (k, l.connection) := by
  obtain ⟨hbooked, hrespectful⟩ := hw.booked_and_respectful
  refine ⟨fun e past h l hl k => ⟨?_, ?_⟩, hbooked.held_eq.symm, fun l hl => hw.record_of_held hl,
    fun event hdrain e past h hpast l hl k => hw.held_untouched hdrain h hpast hl k⟩
  · rintro why rfl
    exact hrespectful _ past h (Multiset.mem_map_of_mem _ hl)
  · intro hcloses
    have hrespects := hrespectful e past h
    cases e <;> cases hcloses <;> exact hrespects (Multiset.mem_map_of_mem _ hl)

/-- A lease that has outlived its time in a full pool, on a connection that reports itself broken:
neither pruning nor evicting nor an acquire that waits for room takes the connection away. -/
theorem IsReachable.holders_undisturbed_overdue :
    let w := (World.init { maxConnections := some 1 } false).after
      [.start (.lease { database := "a", ttl := ⟨5⟩ } "first"), .flags 0 none (some true) none,
        .tick, .command .prune, .command .evict,
        .start (.lease { database := "b", ttl := ⟨5⟩ } "second")]
    w.tasks.length = 1 ∧
      ∃ r h, w.pool.table.find? "a" = some (.live r) ∧ r.isExpired w.now = true ∧
        w.pool.handles[0]? = some h ∧ h.closeCalls = 0 := by
  intro w
  have hw : w.IsReachable := ⟨_, _, _, _, rfl⟩
  obtain ⟨-, -, hrecords, -⟩ := hw.holders_undisturbed
  have hheld : (⟨"a", 1, 0⟩ : Lease) ∈ w.heldLeases := List.mem_singleton_self _
  refine ⟨rfl, ?_⟩
  rcases hrecords _ hheld with hdrained | ⟨r, h, hr, -, -, -, hh, hcalls⟩
  · have hnone : w.pool.drained = [] := rfl
    have hmem := Pool.mem_drained.mpr hdrained
    rw [hnone] at hmem
    cases hmem
  · refine ⟨r, h, hr, ?_, hh, hcalls⟩
    cases hr
    rfl

end World

end KeyedPool
