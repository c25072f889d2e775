import KeyedPool.Proofs.Custody.Order

/-!
# How many connections are open

A pool with a limit never has more connections than the limit allows, and never more than one for a
database. Both are true of the connections themselves and not only of the table: a connection counts
from the moment at which it is asked for until it is closed.

The limit holds at two kinds of moments. Between events it is the table that bounds what is open,
and the limit that bounds the table. Inside an event it matters most when a connection is asked for,
so this is said about every such place in the history.

* `KeyedPool.Pool.openHandles`: the connections that the pool has not closed.
* `KeyedPool.World.open_within_limit`: the limit bounds what is open.
* `KeyedPool.World.IsReachable.connects_alone`: a connection is asked for only when there is no
  other for its database.
-/

namespace KeyedPool

open History

/-- The connections that the pool has not closed. -/
def Pool.openHandles (p : Pool) : List Handle := p.handles.filter (·.closeCalls = 0)

namespace Custody

variable {s : Custody}

/-- The numbers that no closing has are those of the connections that are open. -/
theorem Balanced.filter_range (hb : Balanced s) :
    (Multiset.range s.pool.handles.length).filter
        (fun c => ((closed s.pool.history).map Prod.snd).count c = 0) =
      (unclosed s.pool.history).map Prod.snd := by
  have hsplit : Multiset.range s.pool.handles.length =
      (unclosed s.pool.history).map Prod.snd + (closed s.pool.history).map Prod.snd := by
    rw [← hb.numbers, ← Multiset.map_add, hb.unclosed_eq]
    exact congrArg _ hb.connections.symm
  -- no number is on both sides of the split
  have hnodup := hb.nodup_opened
  rw [hb.numbers, hsplit, Multiset.nodup_add] at hnodup
  rw [hsplit, Multiset.filter_add]
  refine (congrArg₂ (· + ·) (Multiset.filter_eq_self.mpr fun c hc => ?_)
    (Multiset.filter_eq_nil.mpr fun c hc hcount => ?_)).trans (add_zero _)
  · exact Multiset.count_eq_zero.mpr (Multiset.disjoint_left.mp hnodup.2.2 hc)
  · exact Multiset.count_eq_zero.mp hcount hc

/-- The handles that were never closed are those of the connections that are open. -/
theorem length_openHandles (hb : Balanced s) (ht : Told s) :
    s.pool.openHandles.length = (unclosed s.pool.history).card := by
  have hcalls : s.pool.handles.map Handle.closeCalls = (List.range s.pool.handles.length).map
      fun c => ((closed s.pool.history).map Prod.snd).count c := by
    refine List.ext_getElem (by simp) fun c hc _ => ?_
    have hlt : c < s.pool.handles.length := by simpa using hc
    have hcount := ht.closeCalls c _ (List.getElem?_eq_getElem hlt)
    simpa using hcount
  have hlength : s.pool.openHandles.length = ((List.range s.pool.handles.length).filter
      fun c => ((closed s.pool.history).map Prod.snd).count c = 0).length := by
    have hzero := congrArg (fun l => (l.filter (· = 0)).length) hcalls
    simpa [Pool.openHandles, List.filter_map, Function.comp_def] using hzero
  have hcard := congrArg Multiset.card hb.filter_range
  rw [Multiset.card_map] at hcard
  rw [hlength, ← hcard]
  rfl

end Custody

namespace World

variable {w : World} {k : String} {past : List Entry} {limit : Nat}

/-- **The limit bounds what is open**, for any settings and in every run. The table is within the
limit, and it bounds the connects in flight together with the connections that were opened and not
closed. Whenever a connection is asked for there is room for one more, and everything that left to
make room has been closed. -/
theorem open_within_limit (settings : PoolSettings) (driven : Bool) (enumeration : Enumeration)
    (events : List Event) (hlimit : settings.maxConnections = some limit) :
    let w := (World.init settings driven enumeration).after events
    w.pool.table.size ≤ limit ∧
      w.connects.length + w.pool.openHandles.length ≤ w.pool.table.size ∧
      ∀ k past, .connecting k :: past <:+ w.pool.history →
        (inFlight past).card + (unclosed past).card < limit ∧
          ∀ why other c, .removed why other c ∈ past →
            .closed other c ∈ past ∨ ∃ failure, .closeFailed other c failure ∈ past := by
  intro w
  have hw : w.IsReachable := ⟨settings, driven, enumeration, events, rfl⟩
  have hsettings : w.pool.settings.maxConnections = some limit := by
    rw [settings_after, hlimit]
  refine ⟨hw.capped limit hsettings, ?_, fun k past h => ?_⟩
  · have hopen := hw.balanced.open_le_size hw.told
    have hconnects : w.connects.length = (inFlight w.pool.history).card := by
      rw [← Multiset.coe_card, coe_connects]
      exact congrArg Multiset.card hw.told.inFlight_eq.symm
    have hhandles : w.pool.openHandles.length = (unclosed w.pool.history).card :=
      Custody.length_openHandles hw.balanced hw.told
    rw [hconnects, hhandles]
    exact hopen
  · have hallows : AllowsConnect w.pool.settings.maxConnections past k := hw.orderly _ past h
    exact ⟨hallows.room limit hsettings, fun why other c hc =>
      mem_closed.mp (hallows.reclaimed why other c hc)⟩

/-- Room is made by closing what is idle before the next connection is asked for. -/
theorem open_within_limit_evicting :
    let w := (World.init { maxConnections := some 1 } false).after
      [.start (.lease { database := "a", ttl := ⟨5⟩ } "first"), .settle "first" .release,
        .start (.lease { database := "b", ttl := ⟨5⟩ } "second")]
    w.pool.openHandles.length = 1 ∧
      ∃ past, .connecting "b" :: past <:+ w.pool.history ∧ .removed .evicted "a" 0 ∈ past ∧
        (.closed "a" 0 ∈ past ∨ ∃ failure, .closeFailed "a" 0 failure ∈ past) := by
  intro w
  obtain ⟨hsize, hopen, hroom⟩ := open_within_limit { maxConnections := some 1 } false .stored
    [.start (.lease { database := "a", ttl := ⟨5⟩ } "first"), .settle "first" .release,
      .start (.lease { database := "b", ttl := ⟨5⟩ } "second")] rfl
  have hpast : .connecting "b" :: w.pool.history.drop 3 <:+ w.pool.history :=
    ⟨w.pool.history.take 2, rfl⟩
  have hgone : .removed .evicted "a" 0 ∈ w.pool.history.drop 3 :=
    List.mem_of_getElem? (i := 2) rfl
  exact ⟨rfl, _, hpast, hgone, (hroom _ _ hpast).2 _ _ _ hgone⟩

/-- **A connection is asked for only when there is no other for its database.** As many connects for
the database have come to an end as have begun, and every connection that was opened for it has been
closed. -/
theorem IsReachable.connects_alone (hw : w.IsReachable)
    (h : .connecting k :: past <:+ w.pool.history) :
    (asked past).count k = (answered past).count k ∧
      ∀ c, .connected k c ∈ past →
        .closed k c ∈ past ∨ ∃ failure, .closeFailed k c failure ∈ past := by
  have hallows : AllowsConnect w.pool.settings.maxConnections past k := hw.orderly _ past h
  -- none is in flight, and no more have come to an end than have begun
  refine ⟨?_, fun c hc => mem_closed.mp (hallows.closed c hc)⟩
  have hle := Multiset.count_le_of_le k hallows.begun.1
  have halone := Multiset.count_eq_zero_of_notMem hallows.alone
  rw [inFlight, Multiset.count_sub] at halone
  omega

/-- A connection that was found dead is closed before another is asked for. -/
theorem IsReachable.connects_alone_replacing :
    let w := (World.init {} false).after
      [.start (.lease { database := "a", ttl := ⟨5⟩ } "first"), .settle "first" .release,
        .flags 0 (some true) none none, .start (.lease { database := "a", ttl := ⟨5⟩ } "second")]
    ∃ past, .connecting "a" :: past <:+ w.pool.history ∧ .connected "a" 0 ∈ past ∧
      (.closed "a" 0 ∈ past ∨ ∃ failure, .closeFailed "a" 0 failure ∈ past) := by
  intro w
  have hw : w.IsReachable := ⟨_, _, _, _, rfl⟩
  have hpast : .connecting "a" :: w.pool.history.drop 3 <:+ w.pool.history :=
    ⟨w.pool.history.take 2, rfl⟩
  have hconn : .connected "a" 0 ∈ w.pool.history.drop 3 := List.mem_of_getElem? (i := 6) rfl
  exact ⟨_, hpast, hconn, (hw.connects_alone hpast).2 0 hconn⟩

end World

end KeyedPool
