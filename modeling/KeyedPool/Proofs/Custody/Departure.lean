import KeyedPool.Proofs.Custody.Balance

/-!
# How connections leave

A connection departs once. Until then it is on record or opened for an acquire, and there are three
ways in which it comes to depart: its record is taken out of the table for a reason that allows it,
its lease ends and leaves it unfit for use, or the acquire that opened it gives it up.

What departs is closed, but not at once: other connections may be taken from the table first. So a
departure is either still to be closed or written down, and its reason is the same in both cases.

* `KeyedPool.Custody.Departs`: a connection has departed.
* `KeyedPool.Custody.Leaves`: a connection may depart.
* `KeyedPool.Custody.Move.departs`: there is no other way to depart.
* `KeyedPool.Custody.Move.writes`: what is written down of connections that leave.
* `KeyedPool.Custody.Departs.move`: what has departed stays so.
* `KeyedPool.Custody.Leaves.mem_inUse`, `KeyedPool.Custody.Balanced.departs_once`: what departs was
  in use until then, so it departs once.
-/

namespace KeyedPool

open History

namespace Custody

variable {now : Instant} {s t : Custody} {d d' : Departure}

/-- A connection has departed: it is about to be closed, or it was closed. -/
def Departs (s : Custody) (d : Departure) : Prop :=
  d ∈ s.leaving ∨ .removed d.why d.database d.connection ∈ s.pool.history

/-- **How a connection comes to depart.** -/
inductive Leaves (now : Instant) (s : Custody) : Departure → Prop
  /-- Its record is taken out of the table. -/
  | taken (why : Removal) (k : String) (r : Record)
      (hr : s.pool.table.find? k = some (.live r))
      (hw : why.Allows now s.pool s.openings k r) : Leaves now s ⟨why, k, r.connection⟩
  /-- Its lease ends, and it cannot be trusted. -/
  | discarded (l : Lease) (why : Removal) (r : Record) (hl : l ∈ s.leases)
      (hw : why = .broken ∨ why = .cancelled)
      (hr : s.pool.table.find? l.database = some (.live r)) (hg : r.generation = l.generation) :
    Leaves now s ⟨why, l.database, r.connection⟩
  /-- The acquire that opened it gives it up. -/
  | abandoned (r : Request) (c : Nat) (ho : ⟨r, .starting c⟩ ∈ s.openings) :
    Leaves now s ⟨.abandoned, r.database, c⟩

/-- What departed had departed before something else was written down. -/
theorem Departs.of_note {e : Entry} (h : t.Departs d) (he : e.removes? = none)
    (hD : t.leaving = s.leaving) (hh : t.pool.history = e :: s.pool.history) : s.Departs d := by
  rw [Departs, hD, hh] at h
  refine h.imp_right fun hmem => ?_
  rcases List.mem_cons.mp hmem with rfl | hmem
  · cases he
  · exact hmem

/-- What departed had departed before another connection did, if it is not this one. -/
theorem Departs.of_cons (h : t.Departs d) (hD : t.leaving = d' ::ₘ s.leaving)
    (hh : t.pool.history = s.pool.history) : s.Departs d ∨ d = d' := by
  rw [Departs, hD, hh] at h
  rcases h with hmem | hmem
  · exact (Multiset.mem_cons.mp hmem).symm.imp_left .inl
  · exact .inl (.inr hmem)

/-- What is closed had departed before. -/
theorem Departs.of_retire {p : Pool} {L : Multiset Lease} {O : Multiset Opening}
    {D : Multiset Departure} {h : Handle} (hh : p.handles[d'.connection]? = some h)
    (hd : Departs ⟨(p.retire d').2, L, O, D⟩ d) : Departs ⟨p, L, O, d' ::ₘ D⟩ d := by
  rw [Departs, Pool.history_retire hh, List.mem_cons, List.mem_cons] at hd
  rcases hd with hmem | hclosing | heq | hmem
  · exact .inl (Multiset.mem_cons_of_mem hmem)
  · have hremoves := congrArg Entry.removes? hclosing
    rw [Handle.removes?_closing] at hremoves
    cases hremoves
  · cases d
    cases d'
    cases heq
    exact .inl (Multiset.mem_cons_self _ _)
  · exact .inr hmem

/-- **There is no other way to depart.** -/
theorem Move.departs (h : Move now s t) (hb : Balanced s) (hd : t.Departs d) :
    s.Departs d ∨ s.Leaves now d := by
  cases h with
  | remark e he => exact .inl (hd.of_note (Entry.quiet_of_isRemark he).removes rfl rfl)
  | reset => exact .inl (hd.of_note (e := .countersReset) rfl rfl rfl)
  | @leave p L O D why k r hr hw =>
    rcases hd.of_cons (s := ⟨p, L, O, D⟩) rfl rfl with hd | rfl
    · exact .inl hd
    · exact .inr (.taken why k r hr hw)
  | close d' =>
    obtain ⟨h, hh⟩ := hb.exists_handle_leaving
    exact .inl (hd.of_retire hh)
  | ask r => exact .inl (hd.of_note (e := .connecting _) rfl rfl rfl)
  | unanswered r =>
    exact .inl (hd.of_note (e := .unconnected _) rfl rfl (Pool.history_giveUpOpening _ _))
  | connect r h hd' hc => exact .inl (hd.of_note (e := .connected _ _) rfl rfl rfl)
  | startHook r c hr => exact .inl (hd.of_note (e := .hookStarted c) rfl rfl rfl)
  | finishHook r c => exact .inl (hd.of_note (e := .hookFinished c) rfl rfl rfl)
  | @abandon p L O D r c =>
    have hhistory : (p.giveUpOpening r.database).history = p.history :=
      Pool.history_giveUpOpening _ _
    rcases hd.of_cons (s := ⟨p, L, ⟨r, .starting c⟩ ::ₘ O, D⟩) rfl hhistory with hd | rfl
    · exact .inl hd
    · exact .inr (.abandoned r c (Multiset.mem_cons_self _ O))
  | publish o c deadline ho ht hr => exact .inl (hd.of_note (e := .published _ _ _ _) rfl rfl rfl)
  | lose o c ho ht => exact .inl (hd.of_note (e := .lost _ _ _ _) rfl rfl rfl)
  | reuse k r ttl deadline hr hidle hh ht =>
    exact .inl (hd.of_note (e := .reused _ _ _) rfl rfl rfl)
  | @rest p L O D l hh hm =>
    have hended : Departs ⟨p.note (.leaseEnded l .release), L, O, D⟩ d :=
      hd.of_note (e := .released l) rfl rfl rfl
    exact .inl (hended.of_note (e := .leaseEnded l _) rfl rfl rfl)
  | @depart p L O D l hh hm =>
    have hended : Departs ⟨p.note (.leaseEnded l .release), L, O, D⟩ d :=
      hd.of_note (e := .departed l) rfl rfl rfl
    exact .inl (hended.of_note (e := .leaseEnded l _) rfl rfl rfl)
  | @discard p L O D l how why r hw hr hg =>
    have hwhy : why = .broken ∨ why = .cancelled := hw.imp (fun h => h.2.2) And.right
    rcases hd.of_cons (s := ⟨p.note (.leaseEnded l how), L, O, D⟩) rfl rfl with hd | rfl
    · exact .inl (hd.of_note (e := .leaseEnded l how) rfl rfl rfl)
    · exact .inr (.discarded l why r (Multiset.mem_cons_self _ _) hwhy hr hg)
  | forget l how hw hm => exact .inl (hd.of_note (e := .leaseEnded l how) rfl rfl rfl)
  | _ => exact .inl hd

/-- **What a move writes down**: that a connection which has departed is closed, or nothing of
connections that leave and are closed. -/
theorem Move.writes (h : Move now s t) (hb : Balanced s) :
    (∃ d h, s.leaving = d ::ₘ t.leaving ∧ t.leases = s.leases ∧
      t.pool.history = Handle.closing h d.database d.connection ::
        .removed d.why d.database d.connection :: s.pool.history) ∨
    ∃ since, t.pool.history = since ++ s.pool.history ∧
      ∀ e ∈ since, e.removes? = none ∧ e.closes? = none := by
  have hone (e : Entry) (hr : e.removes? = none) (hc : e.closes? = none) :
      ∀ e' ∈ [e], e'.removes? = none ∧ e'.closes? = none := by
    intro e' he'
    rw [List.mem_singleton.mp he']
    exact ⟨hr, hc⟩
  cases h with
  | remark e he =>
    have hquiet := Entry.quiet_of_isRemark he
    exact .inr ⟨[e], rfl, hone e hquiet.removes hquiet.closes⟩
  | reset => exact .inr ⟨[_], rfl, hone .countersReset rfl rfl⟩
  | close d =>
    obtain ⟨h, hh⟩ := hb.exists_handle_leaving
    exact .inl ⟨d, h, rfl, rfl, Pool.history_retire hh⟩
  | ask r => exact .inr ⟨[_], rfl, hone (.connecting _) rfl rfl⟩
  | unanswered r =>
    exact .inr ⟨[_], Pool.history_giveUpOpening _ _, hone (.unconnected _) rfl rfl⟩
  | connect r h hd hc => exact .inr ⟨[_], rfl, hone (.connected _ _) rfl rfl⟩
  | startHook r c hr => exact .inr ⟨[_], rfl, hone (.hookStarted c) rfl rfl⟩
  | finishHook r c => exact .inr ⟨[_], rfl, hone (.hookFinished c) rfl rfl⟩
  | abandon r c => exact .inr ⟨[], Pool.history_giveUpOpening _ _, nofun⟩
  | publish o c deadline ho ht hr => exact .inr ⟨[_], rfl, hone (.published _ _ _ _) rfl rfl⟩
  | lose o c ho ht => exact .inr ⟨[_], rfl, hone (.lost _ _ _ _) rfl rfl⟩
  | reuse k r ttl deadline hr hidle hh ht =>
    exact .inr ⟨[_], rfl, hone (.reused _ _ _) rfl rfl⟩
  | rest l hh hm =>
    refine .inr ⟨[.released l, .leaseEnded l .release], rfl, ?_⟩
    exact List.forall_mem_cons.mpr ⟨⟨rfl, rfl⟩, hone _ rfl rfl⟩
  | depart l hh hm =>
    refine .inr ⟨[.departed l, .leaseEnded l .release], rfl, ?_⟩
    exact List.forall_mem_cons.mpr ⟨⟨rfl, rfl⟩, hone _ rfl rfl⟩
  | discard l how why r hw hr hg => exact .inr ⟨[_], rfl, hone (.leaseEnded l how) rfl rfl⟩
  | forget l how hw hm => exact .inr ⟨[_], rfl, hone (.leaseEnded l how) rfl rfl⟩
  | _ => exact .inr ⟨[], rfl, nofun⟩

/-- No move takes back what was written down. -/
theorem Move.suffix (h : Move now s t) (hb : Balanced s) :
    s.pool.history <:+ t.pool.history := by
  rcases h.writes hb with ⟨d, h, -, -, hhistory⟩ | ⟨since, hhistory, -⟩
  · exact ⟨[_, _], hhistory.symm⟩
  · exact ⟨since, hhistory.symm⟩

/-- What has departed stays so. -/
theorem Departs.move (hd : s.Departs d) (h : Move now s t) (hb : s.Balanced) : t.Departs d := by
  have hsuffix := h.suffix hb
  rcases hd with hleaves | hgone
  · cases h with
    | leave why k r hr hw => exact .inl (Multiset.mem_cons_of_mem hleaves)
    | close d' =>
      obtain ⟨h, hh⟩ := hb.exists_handle_leaving
      rcases Multiset.mem_cons.mp hleaves with rfl | hleaves
      · refine .inr ?_
        rw [Pool.history_retire hh]
        exact List.mem_cons_of_mem _ List.mem_cons_self
      · exact .inl hleaves
    | ask r => cases hleaves
    | abandon r c => exact .inl (Multiset.mem_cons_of_mem hleaves)
    | discard l how why r hw hr hg => exact .inl (Multiset.mem_cons_of_mem hleaves)
    | _ => exact .inl hleaves
  · exact .inr (hsuffix.subset hgone)

/-- What may depart is in use. -/
theorem Leaves.mem_inUse (h : s.Leaves now d) :
    d.left ∈ s.pool.table.connections + Opening.connections s.openings := by
  cases h with
  | taken why k r hr hw =>
    exact Multiset.mem_add.mpr (.inl (Table.mem_connections.mpr ⟨r, hr, rfl⟩))
  | discarded l why r hl hw hr hg =>
    exact Multiset.mem_add.mpr (.inl (Table.mem_connections.mpr ⟨r, hr, rfl⟩))
  | abandoned r c ho =>
    exact Multiset.mem_add.mpr (.inr ((Multiset.mem_filterMap _ _).mpr ⟨_, ho, rfl⟩))

/-- What departed is out of use. -/
theorem Departs.mem_gone (hd : s.Departs d) (ht : s.Told) :
    d.left ∈ s.leaving.map Departure.left + closed s.pool.history := by
  rcases hd with hleaves | hgone
  · exact ht.mem_gone (.inr hleaves)
  · exact ht.mem_gone (.inl hgone)

/-- A connection that is about to be closed departed once. -/
theorem Balanced.eq_of_leaving (hb : s.Balanced) (ht : s.Told) (hd : d ∈ s.leaving)
    (hd' : s.Departs d') (hc : d.connection = d'.connection) : d = d' := by
  have hnodup := hb.nodup_opened
  rw [← hb.connections] at hnodup
  rcases hd' with hleaves | hgone
  · -- both are about to be closed, and their numbers tell them apart
    simp only [Multiset.map_add, Multiset.nodup_add, Multiset.map_map] at hnodup
    exact Multiset.inj_on_of_nodup_map hnodup.1.1.2.1 _ hd _ hleaves hc
  · have hclosed : d'.left ∈ closed s.pool.history := ht.removed ▸ mem_removed.mpr ⟨_, hgone⟩
    have hleft : d.left ∈ s.pool.table.connections + Opening.connections s.openings +
        s.leaving.map Departure.left + lost s.pool.history :=
      Multiset.mem_add.mpr (.inl (Multiset.mem_add.mpr (.inr (Multiset.mem_map_of_mem _ hd))))
    exact absurd hc (ne_of_nodup_add hnodup hleft hclosed)

/-- **A connection departs once.** -/
theorem Balanced.departs_once (hb : s.Balanced) (ht : s.Told) (hd : s.Departs d)
    (hl : s.Leaves now d') : d'.connection ≠ d.connection :=
  hb.apart_gone hl.mem_inUse (hd.mem_gone ht)

end Custody

end KeyedPool
