import KeyedPool.Proofs.Custody.Departure
import KeyedPool.Proofs.Custody.Order

/-!
# Connections are conserved

A connection that was opened is in exactly one place at a time: it is on record under its database,
or its startup hook runs, or it has been closed, once and for good. The numbers of the connections
make this a matter of counting: each of them occurs once among all that are on record, in the hands
of acquires, lost, or closed.

Between events nothing is on its way out, so the places are those that a reader of the world sees.
A connection is lost only to a deadline beyond the horizon, and the law is about runs in which no
lease was granted up to such a deadline. What was closed stays closed in every run.

* `KeyedPool.History.WithinHorizon`: the clock can show the deadlines of all leases.
* `KeyedPool.Meters.Reads`: what the meters show after so many openings and closings.
* `KeyedPool.Custody.Counted`: the meters show what is in the history.
* `KeyedPool.World.recordsOf`, `KeyedPool.World.startupsOf`: how often a connection is in a place.
* `KeyedPool.World.IsReachable.places`: a connection is in one place.
* `KeyedPool.World.IsReachable.closed_for_good`: a connection that was closed is never used again.
* `KeyedPool.World.IsReachable.connections_conserved`: all of this, and what the meters show.
-/

namespace KeyedPool

open History

/-! ### Leases in a history -/

/-- The lease that begins with an entry. -/
def Entry.begins? : Entry → Option Lease
  | .published l .. => some l
  | .reused l .. => some l
  | _ => none

/-- Whether the clock can show the deadline of a lease that is granted, whatever becomes of it. -/
def Entry.inHorizon : Entry → Bool
  | .published _ now ttl _ => (now.after? ttl).isSome
  | .reused _ now ttl => (now.after? ttl).isSome
  | .lost _ _ now ttl => (now.after? ttl).isSome
  | _ => true

/-- No lease begins on a connection that has been closed. -/
theorem Entry.Lawful.not_closed {limit : Option Nat} {past : List Entry} {e : Entry} {l : Lease}
    (he : e.Lawful limit past) (hl : e.begins? = some l) :
    l.connection ∉ (History.closed past).map Prod.snd := by
  cases e <;> cases hl <;> exact he

namespace History

/-- **The clock can show the deadlines of all leases** that were granted. -/
def WithinHorizon (h : List Entry) : Prop := ∀ e ∈ h, e.inHorizon = true

/-- The number of a connection comes with a database. -/
theorem exists_database {m : Multiset (String × Nat)} {c : Nat} (h : c ∈ m.map Prod.snd) :
    ∃ k, (k, c) ∈ m := by
  obtain ⟨⟨k, _⟩, hx, rfl⟩ := Multiset.mem_map.mp h
  exact ⟨k, hx⟩

theorem closed_append (h h' : List Entry) : closed (h ++ h') = closed h + closed h' := by
  simp [closed, account]

theorem closed_mono {h h' : List Entry} (hsuffix : h <:+ h') : closed h ⊆ closed h' := by
  obtain ⟨since, rfl⟩ := hsuffix
  rw [closed_append]
  exact Multiset.subset_of_le (Multiset.le_add_left _ _)

/-- What is after an entry in a suffix is a history by itself. -/
theorem suffix_of_append {since : List Entry} (before : List Entry) {e : Entry} (he : e ∈ since) :
    ∃ past, e :: past <:+ since ++ before ∧ before <:+ past := by
  obtain ⟨later, earlier, rfl⟩ := List.append_of_mem he
  refine ⟨earlier ++ before, ⟨later, ?_⟩, List.suffix_append _ _⟩
  rw [List.append_assoc, List.cons_append]

/-- An entry that was written down after some history stands among what was. -/
theorem split_of_suffix {since before past : List Entry} {e : Entry}
    (h : e :: past <:+ since ++ before) (hp : before <:+ past) :
    ∃ later earlier, since = later ++ e :: earlier ∧ past = earlier ++ before := by
  obtain ⟨earlier, rfl⟩ := hp
  obtain ⟨later, heq⟩ := h
  refine ⟨later, earlier, List.append_cancel_right (heq.symm.trans ?_), rfl⟩
  rw [List.append_assoc, List.cons_append]

end History

/-! ### What the meters show -/

/-- **What the meters show** after so many openings and closings, successful or not. -/
structure Meters.Reads (m : Meters) (openings closings : Nat) : Prop where
  /-- Every opening was counted. -/
  opened : m.totals.opened = openings
  /-- So was every closing, as a success or as a failure. -/
  closed : m.totals.closed + m.totals.closeFailed = closings
  /-- The gauge is what remains open. -/
  gauge : m.openConnections = openings - closings

namespace Meters.Reads

variable {m : Meters} {o c : Nat}

theorem record_opened (hm : m.Reads o c) : (m.record .opened).Reads (o + 1) c := by
  obtain ⟨hopened, hclosed, hgauge⟩ := hm
  refine ⟨?_, hclosed, ?_⟩
  · simp [Meters.record, Counters.record, hopened]
  · simp only [Meters.record, openChange, hgauge]
    omega

theorem record_closing (hm : m.Reads o c) (h : Handle) :
    (m.record h.closingTally).Reads o (c + 1) := by
  obtain ⟨hopened, hclosed, hgauge⟩ := hm
  rw [Handle.closingTally]
  split <;> refine ⟨hopened, ?_, ?_⟩ <;>
    simp only [Meters.record, Counters.record, openChange, hgauge] <;> omega

/-- The reason for which a connection leaves is neither an opening nor a closing. -/
theorem record_reason (hm : m.Reads o c) (why : Removal) :
    (why.tally?.elim m m.record).Reads o c := by
  obtain ⟨hopened, hclosed, hgauge⟩ := hm
  cases why <;> refine ⟨hopened, hclosed, ?_⟩ <;>
    simp [Removal.tally?, Meters.record, openChange, hgauge]

end Meters.Reads

namespace Custody

variable {now : Instant} {s t : Custody}

/-- The meters show what was opened and closed. -/
def Counted (s : Custody) : Prop :=
  s.pool.meters.Reads (opened s.pool.history).card (closed s.pool.history).card

theorem Counted.congr (hc : Counted s) (hm : t.pool.meters = s.pool.meters)
    (ho : opened t.pool.history = opened s.pool.history)
    (hh : closed t.pool.history = closed s.pool.history) : Counted t := by
  rw [Counted, hm, ho, hh]
  exact hc

/-- **Every move keeps the meters true.** -/
theorem Counted.move (hc : Counted s) (h : Move now s t) (hb : Balanced s) : Counted t := by
  cases h with
  | remark e he =>
    have hquiet := Entry.quiet_of_isRemark he
    exact hc.congr rfl (by simp [hquiet.opens]) (by simp [hquiet.closes])
  | close d =>
    obtain ⟨hd, hh⟩ := hb.exists_handle_leaving
    rw [Counted, Pool.meters_retire hh, Pool.opened_retire hh, Pool.closed_retire hh,
      Multiset.card_cons]
    exact (hc.record_reason d.why).record_closing hd
  | connect r fresh hd hcalls =>
    have hreads := Meters.Reads.record_opened hc
    rw [← Multiset.card_cons] at hreads
    exact hreads
  | @unanswered p L O D r =>
    have hhistory := Pool.history_giveUpOpening (p.note (.unconnected r.database)) r.database
    have hquiet : Counted ⟨p.note (.unconnected r.database), L, O, D⟩ := hc.congr rfl rfl rfl
    exact hquiet.congr (Pool.meters_giveUpOpening _ _) (congrArg opened hhistory)
      (congrArg closed hhistory)
  | @abandon p L O D r connection =>
    have hhistory := p.history_giveUpOpening r.database
    exact hc.congr (Pool.meters_giveUpOpening _ _) (congrArg opened hhistory)
      (congrArg closed hhistory)
  | _ => exact hc.congr rfl rfl rfl

/-- The connection of a lease that has just begun is not closed. -/
theorem Orderly.not_closed_of_head? {e : Entry} {l : Lease} (ho : s.Orderly)
    (hhead : s.pool.history.head? = some e) (hl : e.begins? = some l) :
    l.connection ∉ (closed s.pool.history).map Prod.snd := by
  obtain ⟨past, hpast⟩ := List.head?_eq_some_iff.mp hhead
  have hcloses : e.closes? = none := by
    cases e <;> first | rfl | cases hl
  have hlawful := ho e past (hpast ▸ List.suffix_rfl)
  rw [hpast, closed_cons, hcloses]
  simpa using hlawful.not_closed hl

/-- **While the clock can show all deadlines, nothing is lost.** -/
theorem Orderly.lost_eq_zero (ho : Orderly s) (hgrants : WithinHorizon s.pool.history) :
    lost s.pool.history = 0 := by
  refine Multiset.eq_zero_of_forall_notMem fun x hx => ?_
  obtain ⟨now, ttl, he⟩ := mem_lost.mp hx
  obtain ⟨later, past, heq⟩ := List.append_of_mem he
  have hlost : now.after? ttl = none := ho _ past ⟨later, heq.symm⟩
  have hsome : (now.after? ttl).isSome = true := hgrants _ he
  rw [hlost] at hsome
  cases hsome

end Custody

namespace World

variable {w : World} {k : String} {c : Nat} {h : Handle}

/-- Events only add to what was written down. -/
theorem IsReachable.history_suffix (hw : w.IsReachable) (events : List Event) :
    w.pool.history <:+ (w.after events).pool.history := by
  refine hw.sound_after (P := fun s => w.pool.history <:+ s.pool.history) ?_ List.suffix_rfl events
  intro now s t h hb _ hsuffix
  exact hsuffix.trans (h.suffix hb)

/-- **In every reachable world the meters show what was opened and closed.** -/
theorem IsReachable.counted (hw : w.IsReachable) : w.custody.Counted := by
  refine hw.sound (P := Custody.Counted) ?_ ?_
  · intro now s t h hb _ hc
    exact hc.move h hb
  · intro settings enumeration
    exact ⟨rfl, rfl, rfl⟩

/-- How often a connection was closed is written down. -/
theorem IsReachable.closeCalls_eq (hw : w.IsReachable) (hh : w.pool.handles[c]? = some h) :
    h.closeCalls = ((closed w.pool.history).map Prod.snd).count c :=
  hw.told.closeCalls c h hh

/-- A connection that was opened has a handle ever after. -/
theorem IsReachable.exists_handle (hw : w.IsReachable) (hc : (k, c) ∈ opened w.pool.history) :
    ∃ h, w.pool.handles[c]? = some h :=
  hw.balanced.exists_handle hc

/-- What was closed was opened before. -/
theorem IsReachable.opened_of_closed (hw : w.IsReachable) {x : String × Nat}
    (hx : x ∈ closed w.pool.history) : x ∈ opened w.pool.history :=
  hw.balanced.connections ▸ Multiset.mem_add.mpr (.inr hx)

/-! ### Places -/

/-- How many records have a connection. -/
def recordsOf (w : World) (connection : Nat) : Nat :=
  (w.pool.table.connections.map Prod.snd).count connection

/-- For how many acquires the startup hook of a connection runs. -/
def startupsOf (w : World) (connection : Nat) : Nat := (w.startups.map Prod.snd).count connection

theorem startupsOf_eq (w : World) (c : Nat) :
    w.startupsOf c = ((Opening.connections w.custody.openings).map Prod.snd).count c := by
  rw [← coe_startups, Multiset.map_coe, Multiset.coe_count, startupsOf]

/-- **A connection is in one place**: on record, with its startup hook running, lost, or closed. -/
theorem IsReachable.places (hw : w.IsReachable) (hh : w.pool.handles[c]? = some h) :
    w.recordsOf c + w.startupsOf c + ((lost w.pool.history).map Prod.snd).count c +
      h.closeCalls = 1 := by
  have hb := hw.balanced
  have hlt : c < w.pool.handles.length := (List.getElem?_eq_some_iff.mp hh).1
  have hone : (Multiset.range w.pool.handles.length).count c = 1 :=
    Multiset.count_eq_one_of_mem (Multiset.nodup_range _) (Multiset.mem_range.mpr hlt)
  have hsum : (Multiset.range w.pool.handles.length) =
      (w.pool.table.connections + Opening.connections w.custody.openings + 0 +
        lost w.pool.history + closed w.pool.history).map Prod.snd :=
    hb.numbers.symm.trans (congrArg (Multiset.map Prod.snd) hb.connections.symm)
  rw [hsum] at hone
  simp only [add_zero, Multiset.map_add, Multiset.count_add] at hone
  rw [hw.closeCalls_eq hh, startupsOf_eq, recordsOf]
  exact hone

/-- A connection that was closed stays so: it is closed once and not again, has no record, runs no
startup hook, and what is written down from now on neither leases nor closes it. -/
def ClosedForGood (w : World) (connection : Nat) : Prop :=
  ∀ events, let v := w.after events
    (∃ h, v.pool.handles[connection]? = some h ∧ h.closeCalls = 1) ∧
    v.recordsOf connection = 0 ∧ v.startupsOf connection = 0 ∧
    ∃ since, v.pool.history = since ++ w.pool.history ∧
      ∀ e ∈ since, (∀ l, e.begins? = some l → l.connection ≠ connection) ∧
        ∀ k, e.closes? ≠ some (k, connection)

/-- **A connection that was closed is never used again**, whatever happens. -/
theorem IsReachable.closed_for_good (hw : w.IsReachable) (hh : w.pool.handles[c]? = some h)
    (hc : h.closeCalls = 1) : w.ClosedForGood c := by
  intro events v
  have hv : v.IsReachable := hw.after events
  obtain ⟨since, hsince⟩ := hw.history_suffix events
  have hclosed : closed v.pool.history = closed since + closed w.pool.history := by
    rw [← hsince, closed_append]
  have hcount : ((closed w.pool.history).map Prod.snd).count c = 1 :=
    (hw.closeCalls_eq hh).symm.trans hc
  obtain ⟨k, hx⟩ := exists_database (Multiset.count_pos.mp (hcount.symm ▸ Nat.one_pos))
  obtain ⟨h', hh'⟩ := hv.exists_handle
    (hv.opened_of_closed (hclosed ▸ Multiset.mem_add.mpr (.inr hx)))
  -- it is in one place, and that is where it was before
  have hplaces := hv.places hh'
  have hcalls := hv.closeCalls_eq hh'
  rw [hclosed, Multiset.map_add, Multiset.count_add, hcount] at hcalls
  refine ⟨⟨h', hh', by omega⟩, by omega, by omega, since, hsince.symm, fun e he => ⟨?_, ?_⟩⟩
  · intro l hl heq
    -- the lease would have begun on a connection that was closed before
    obtain ⟨past, hpast, hsuffix⟩ := suffix_of_append w.pool.history he
    have hlawful : e.Lawful v.pool.settings.maxConnections past :=
      hv.orderly e past (hsince ▸ hpast)
    refine hlawful.not_closed hl ?_
    rw [heq]
    exact Multiset.mem_map_of_mem _ (closed_mono hsuffix hx)
  · intro k hk
    have hagain : c ∈ (closed since).map Prod.snd :=
      Multiset.mem_map.mpr ⟨(k, c), List.mem_filterMap.mpr ⟨e, he, hk⟩, rfl⟩
    have hpos := Multiset.count_pos.mpr hagain
    omega

/-- A connection that is nowhere else is on record, if it was opened and not lost. -/
theorem IsReachable.place_of_opened (hw : w.IsReachable) (hlost : lost w.pool.history = 0)
    (hk : (k, c) ∈ opened w.pool.history) :
    (k, c) ∈ w.pool.table.connections ∨ (k, c) ∈ w.startups ∨ (k, c) ∈ closed w.pool.history := by
  have hmem : (k, c) ∈ w.pool.table.connections + Opening.connections w.custody.openings + 0 +
      lost w.pool.history + closed w.pool.history := hw.balanced.connections ▸ hk
  rw [hlost, add_zero, add_zero] at hmem
  rcases Multiset.mem_add.mp hmem with huse | hgone
  · rcases Multiset.mem_add.mp huse with hrec | hstart
    · exact .inl hrec
    · exact .inr (.inl (Multiset.mem_coe.mp (coe_startups w ▸ hstart)))
  · exact .inr (.inr hgone)

/-- **Connections are conserved**, as long as the clock can show the deadlines of all leases. Every
connection that was opened is on one record, under the database for which it was opened, or its
startup hook runs for one acquire, and in both cases it was never closed; or it was closed once, is
nowhere else, and stays closed for good. And the meters show this: the gauge is what was opened less
what was closed, and it counts the records and the running startup hooks. -/
theorem IsReachable.connections_conserved (hw : w.IsReachable)
    (hgrants : WithinHorizon w.pool.history) :
    (∀ k c, .connected k c ∈ w.pool.history → ∃ h, w.pool.handles[c]? = some h ∧
      ((k, c) ∈ w.pool.table.connections ∧ w.recordsOf c = 1 ∧ w.startupsOf c = 0 ∧
          h.closeCalls = 0 ∨
        (k, c) ∈ w.startups ∧ w.recordsOf c = 0 ∧ w.startupsOf c = 1 ∧ h.closeCalls = 0 ∨
        w.recordsOf c = 0 ∧ w.startupsOf c = 0 ∧ h.closeCalls = 1 ∧ w.ClosedForGood c)) ∧
    (w.pool.meters.totals.opened : Int) - w.pool.meters.totals.closed -
      w.pool.meters.totals.closeFailed = w.pool.meters.openConnections ∧
    w.pool.meters.openConnections = w.pool.table.connections.card + w.startups.length := by
  have hlost : lost w.pool.history = 0 := hw.orderly.lost_eq_zero hgrants
  have hreads : w.pool.meters.Reads (opened w.pool.history).card (closed w.pool.history).card :=
    hw.counted
  refine ⟨fun k c hk => ?_, ?_, ?_⟩
  · have hopened : (k, c) ∈ opened w.pool.history := mem_opened.mpr hk
    obtain ⟨h, hh⟩ := hw.exists_handle hopened
    have hplaces := hw.places hh
    refine ⟨h, hh, ?_⟩
    rcases hw.place_of_opened hlost hopened with hrec | hstart | hclosed
    · have hone : 0 < w.recordsOf c := Multiset.count_pos.mpr (Multiset.mem_map_of_mem _ hrec)
      exact .inl ⟨hrec, by omega, by omega, by omega⟩
    · have hone : 0 < w.startupsOf c := List.count_pos_iff.mpr (List.mem_map_of_mem hstart)
      exact .inr (.inl ⟨hstart, by omega, by omega, by omega⟩)
    · have hone : 0 < h.closeCalls := by
        rw [hw.closeCalls_eq hh]
        exact Multiset.count_pos.mpr (Multiset.mem_map_of_mem _ hclosed)
      have hcalls : h.closeCalls = 1 := by omega
      exact .inr (.inr ⟨by omega, by omega, hcalls, hw.closed_for_good hh hcalls⟩)
  · obtain ⟨hopened, hclosed, hgauge⟩ := hreads
    omega
  · have hconns : w.pool.table.connections + ↑w.startups + 0 + lost w.pool.history +
        closed w.pool.history = opened w.pool.history :=
      coe_startups w ▸ hw.balanced.connections
    have hcard := congrArg Multiset.card hconns
    simp only [hlost, add_zero, Multiset.card_add, Multiset.coe_card] at hcard
    rw [hreads.gauge]
    omega

/-- A connection whose lease was cancelled is closed for good, and another takes its place. -/
theorem IsReachable.connections_conserved_cancelled :
    let w := (World.init {} false).after
      [.start (.lease { database := "a", ttl := ⟨5⟩ } "first"), .settle "first" .cancel,
        .start (.lease { database := "a", ttl := ⟨5⟩ } "second")]
    w.ClosedForGood 0 ∧ w.pool.meters.openConnections = 1 := by
  intro w
  have hw : w.IsReachable := ⟨_, _, _, _, rfl⟩
  have hgrants : WithinHorizon w.pool.history := List.all_eq_true.mp rfl
  obtain ⟨hplaces, -, hgauge⟩ := hw.connections_conserved hgrants
  refine ⟨?_, hgauge⟩
  have hconnected : .connected "a" 0 ∈ w.pool.history := List.mem_of_getElem? (i := 8) rfl
  have hnone : w.recordsOf 0 = 0 ∧ w.startupsOf 0 = 0 := ⟨rfl, rfl⟩
  obtain ⟨h, -, hrec | hstart | hclosed⟩ := hplaces "a" 0 hconnected
  · omega
  · omega
  · exact hclosed.2.2.2

end World

end KeyedPool
