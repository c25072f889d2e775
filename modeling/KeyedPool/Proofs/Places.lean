import KeyedPool.Proofs.Conservation
import KeyedPool.Proofs.Exclusivity
import KeyedPool.Proofs.Custody.Departure
import KeyedPool.Proofs.Custody.Passage

/-!
# Every place has one owner

A place that is kept in the table carries no name. It is given back under the name of its database,
and a connection is published under this name, whoever does so. That nobody gives back the place of
another, and that no connection is put in place of another, is due to the run as a whole: at any
time there is just one acquire for each place.

The places are those of the acquires, one for one, as long as the clock can show the deadlines of
all leases. What an acquire does with its own place is as it should be in every run.

* `KeyedPool.Pool.KeptFor`: a place is kept for an acquire, which may give it back or take it.
* `KeyedPool.Custody.Undisplaced`: no connection was put in place of another.
* `KeyedPool.World.Passes.kept_for`: a place is kept for the one acquire that owns it.
* `KeyedPool.World.IsReachable.places_owned`: the places are owned, one for one.
-/

namespace KeyedPool

open History

/-! ### A place and its owner -/

namespace Pool

variable {p : Pool} {o : Opening} {k : String}

/-- Only what is open is closed with all others. -/
theorem find?_closeAll_eq_opening_iff :
    p.closeAll.2.table.find? k = some .opening ↔ p.table.find? k = some .opening := by
  have htable : p.closeAll.2.table = p.table.without fun _ => true := by simp [closeAll, takeLive]
  rw [htable, Table.find?_without, Option.filter_eq_some_iff]
  exact and_iff_left rfl

/-- **A place is kept for an acquire.** When it is given back, before or after the connection came,
it is just this place that leaves the table; when the connection is published it takes this place,
and nothing else happens; and when everything is closed the place remains. -/
structure KeptFor (p : Pool) (o : Opening) : Prop where
  /-- The place is in the table. -/
  slot : p.table.find? o.database = some .opening
  /-- It is given back when the connection does not come. -/
  unopened : (Acquisition.dropUnopened p o.request).table = p.table.erase o.database
  /-- It is given back when the connection is not used. -/
  opened : ∀ c, (Acquisition.dropOpened p o.request c).table = p.table.erase o.database
  /-- It becomes the record of the connection, and there is no other that would have to go. -/
  published : ∀ c ttl persistent now deadline, now.after? ttl = some deadline →
    p.table.record? o.database = none ∧
      (p.publish o.database c ttl persistent now).2 =
        (p.enroll o.database c deadline now persistent).note
          (.published ⟨o.database, p.table.nextGeneration, c⟩ now ttl persistent)
  /-- It remains when everything is closed. -/
  drained : p.closeAll.2.table.find? o.database = some .opening

/-- A place that is in the table may be given back and taken. -/
theorem KeptFor.of_find? (h : p.table.find? o.database = some .opening) : p.KeptFor o := by
  have hrecord : p.table.record? o.database = none := by simp [Table.record?, h, Slot.record?]
  refine ⟨h, ?_, fun c => ?_, fun c ttl persistent now deadline ht => ⟨hrecord, ?_⟩,
    find?_closeAll_eq_opening_iff.mpr h⟩
  · exact congrArg Pool.table (giveUpOpening_eq (p := p.note (.unconnected o.database)) h)
  · exact (table_retire _ _).trans (congrArg Pool.table (giveUpOpening_eq h))
  · simp only [publish, ht, hrecord]

end Pool

namespace Custody

variable {now : Instant} {s t : Custody}

/-! ### Nothing is displaced -/

/-- **No connection was put in place of another.** -/
def Undisplaced (s : Custody) : Prop := ∀ d, s.Departs d → d.why ≠ .displaced

/-- **Every move keeps it so.** -/
theorem Undisplaced.move (hu : s.Undisplaced) (h : Move now s t) (hb : s.Balanced) :
    t.Undisplaced := by
  intro d hd
  rcases h.departs hb hd with hd | hl
  · exact hu d hd
  · cases hl with
    | taken why k r hr hw => exact hb.not_displaced hr hw
    | discarded l why r hl hw hr hg =>
      rintro rfl
      rcases hw with hw | hw <;> cases hw
    | abandoned r c ho => exact Removal.noConfusion

/-- While nothing is lost, the places in the table are those that are kept for acquires. -/
theorem Balanced.openingKeys_eq (hb : s.Balanced) (hlost : lost s.pool.history = 0) :
    s.pool.table.openingKeys = Opening.databases s.openings := by
  rw [hb.places, hlost]
  exact add_zero _

/-- No two acquires keep a place for the same database. -/
theorem Balanced.nodup_databases (hb : s.Balanced) : (Opening.databases s.openings).Nodup := by
  have hnodup : s.pool.table.openingKeys.Nodup := Table.nodup_openingKeys
  rw [hb.places, Multiset.nodup_add] at hnodup
  exact hnodup.1

end Custody

/-! ### Runs -/

namespace World

variable {w : World} {s : Custody}

/-- Nothing is ever displaced. -/
theorem Passes.undisplaced (hs : w.Passes s) : s.Undisplaced := by
  refine hs.sound (fun _ _ _ h hb _ hu => hu.move h hb) ?_
  rintro settings enumeration d (hd | hd) <;> cases hd

/-- **A place is kept for the one acquire that owns it**, at any time of a run. -/
theorem Passes.kept_for (hs : w.Passes s) {o : Opening} (ho : o ∈ s.openings) :
    (Opening.databases s.openings).count o.database = 1 ∧ s.pool.KeptFor o := by
  have hmem : o.database ∈ Opening.databases s.openings := Multiset.mem_map_of_mem _ ho
  exact ⟨Multiset.count_eq_one_of_mem hs.balanced.nodup_databases hmem,
    .of_find? (hs.balanced.find?_opening ho)⟩

theorem databases_openings (w : World) :
    Opening.databases w.custody.openings = ↑(w.openings.map Opening.database) := rfl

/-- **Places are owned, one for one**, as long as the clock can show the deadlines of all leases.
Between two events the places in the table are those of the acquires past their admission, one for
each database; and when no task waits and no lease is held, every slot is an idle connection. Inside
an event it is the same, and every acquire that has a place may rely on it: giving it back, or
publishing a connection in it, concerns this place alone. So no connection was ever displaced, and
to close everything leaves all places alone. -/
theorem IsReachable.places_owned (hw : w.IsReachable) (hgrants : WithinHorizon w.pool.history) :
    (w.openings.map Opening.database).Nodup ∧
    (∀ k, w.pool.table.find? k = some .opening ↔ k ∈ w.openings.map Opening.database) ∧
    (w.tasks = [] → w.heldLeases = [] → ∀ k slot, w.pool.table.find? k = some slot →
      ∃ r, slot = .live r ∧ r.busy = false) ∧
    (∀ k c, .removed .displaced k c ∉ w.pool.history) ∧
    ∀ s, Custody.Moves w.now w.custody s →
      (WithinHorizon s.pool.history →
        s.pool.table.openingKeys = Opening.databases s.openings) ∧
      (∀ o ∈ s.openings,
        (Opening.databases s.openings).count o.database = 1 ∧ s.pool.KeptFor o) ∧
      ∀ k, s.pool.closeAll.2.table.find? k = some .opening ↔
        s.pool.table.find? k = some .opening := by
  have hplaces := hw.balanced.openingKeys_eq (hw.orderly.lost_eq_zero hgrants)
  have hiff : ∀ k, w.pool.table.find? k = some .opening ↔
      k ∈ w.openings.map Opening.database := by
    intro k
    rw [← Multiset.mem_coe, ← databases_openings, ← hplaces]
    exact Table.mem_openingKeys.symm
  refine ⟨?_, hiff, ?_, fun k c hmem => ?_, fun s hmoves => ⟨?_, ?_, ?_⟩⟩
  · exact Multiset.coe_nodup.mp (databases_openings w ▸ hw.balanced.nodup_databases)
  · intro htasks hleases k slot hslot
    cases slot with
    | opening =>
      -- a place would be that of a task
      have hmem := (hiff k).mp hslot
      simp [openings, acquisitions, htasks] at hmem
    | live r =>
      -- a busy record would be leased
      refine ⟨r, rfl, Bool.eq_false_iff.mpr fun hbusy => ?_⟩
      have hheld := hw.exclusive.held k r hslot
      have hnone : w.custody.leases = 0 := congrArg Multiset.ofList hleases
      rw [if_pos hbusy, hnone] at hheld
      exact absurd hheld.symm (Multiset.singleton_ne_zero _)
  · exact (Passes.rest hw).undisplaced ⟨.displaced, k, c⟩ (.inr hmem) rfl
  · have hs : w.Passes s := ⟨hw, hmoves⟩
    exact fun hgrants => hs.balanced.openingKeys_eq (hs.orderly.lost_eq_zero hgrants)
  · have hs : w.Passes s := ⟨hw, hmoves⟩
    exact fun o ho => hs.kept_for ho
  · exact fun k => Pool.find?_closeAll_eq_opening_iff

/-- While a connection is opened its place is kept, although everything was closed meanwhile and
another acquire waits for the same database. -/
theorem IsReachable.places_owned_connecting :
    let w := (World.init {} false).after
      [.plan "a" { delay := 3 }, .start (.lease { database := "a", ttl := ⟨5⟩ } "first"),
        .start (.lease { database := "a", ttl := ⟨5⟩ } "second"), .command .closeAll]
    w.openings.map Opening.database = ["a"] ∧ w.pool.table.find? "a" = some .opening ∧
      w.pool.closeAll.2.table.find? "a" = some .opening := by
  intro w
  have hw : w.IsReachable := ⟨_, _, _, _, rfl⟩
  have hgrants : WithinHorizon w.pool.history := List.all_eq_true.mp rfl
  have howners : w.openings.map Opening.database = ["a"] := rfl
  obtain ⟨-, hplaces, -, -, hinside⟩ := hw.places_owned hgrants
  have hslot : w.pool.table.find? "a" = some .opening :=
    (hplaces "a").mpr (howners ▸ List.mem_singleton_self "a")
  exact ⟨howners, hslot, ((hinside _ .refl).2.2 "a").mpr hslot⟩

end World

end KeyedPool
