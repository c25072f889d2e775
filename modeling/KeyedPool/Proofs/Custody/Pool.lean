import KeyedPool.Proofs.Custody

/-!
# The operations of a pool as moves

Pruning, evicting, closing everything, an attempt of an acquire and the end of a lease, each as a
sequence of moves. An operation that takes several records at once takes them one after the other,
and closes what it took when the table is as it should be.

* `KeyedPool.Table.without_eq_foldl`: records leave the table one after the other.
* `KeyedPool.Pool.moves_execute`: a command is a sequence of moves.
* `KeyedPool.Pool.moves_attempt`: an attempt is one, with what the acquire gets.
* `KeyedPool.Pool.moves_settle`: so is the end of a lease.
-/

namespace KeyedPool

open Custody

variable {now : Instant} {p : Pool} {L : Multiset Lease} {O : Multiset Opening}
  {D : Multiset Departure}

/-! ### Records that leave together -/

namespace Table

variable {t : Table} {order : List String} {which : Record → Bool}

theorem entries_foldl_erase (t : Table) (names : List String) :
    (names.foldl erase t).entries = t.entries.filter fun e => !names.contains e.1 := by
  induction names generalizing t with
  | nil => simp
  | cons k ks ih =>
    rw [List.foldl_cons, ih, erase, List.filter_filter]
    refine List.filter_congr fun e _ => ?_
    by_cases hk : e.1 = k <;> simp [hk]

theorem nextGeneration_foldl_erase (t : Table) (names : List String) :
    (names.foldl erase t).nextGeneration = t.nextGeneration := by
  induction names generalizing t with
  | nil => rfl
  | cons k ks ih => rw [List.foldl_cons, ih, nextGeneration_erase]

/-- A walk that finds records visits their names in its own order. -/
theorem names_recordsAlong_sublist :
    ((t.recordsAlong order which).map Prod.fst).Sublist order := by
  induction order with
  | nil => exact .slnil
  | cons k ks ih =>
    rw [recordsAlong, List.filterMap_cons]
    cases (t.record? k).filter which with
    | none => exact ih.cons k
    | some r => exact ih.cons_cons k

/-- **Records leave the table one after the other**, in the order of any walk over it. -/
theorem without_eq_foldl (horder : order.Perm t.keys) :
    t.without which = ((t.recordsAlong order which).map Prod.fst).foldl erase t := by
  refine Table.ext ?_ (nextGeneration_foldl_erase t _).symm
  rw [entries_foldl_erase]
  -- a slot goes if its record is one of those that the walk finds
  refine List.filter_congr fun e he => congrArg (!·) ?_
  have hfind : t.find? e.1 = some e.2 := find?_eq_some_iff.mpr he
  have hmem : e.1 ∈ order := horder.mem_iff.mpr (List.mem_map.mpr ⟨e, he, rfl⟩)
  rw [Bool.eq_iff_iff, List.contains_iff_mem, List.mem_map]
  constructor
  · intro h
    rcases hs : e.2 with _ | r
    · rw [hs] at h
      cases h
    · rw [hs] at hfind h
      exact ⟨(e.1, r), mem_recordsAlong.mpr ⟨hmem, hfind, h⟩, rfl⟩
  · rintro ⟨⟨k, r⟩, hr, rfl⟩
    obtain ⟨-, hlive, hwhich⟩ := mem_recordsAlong.mp hr
    rw [hfind] at hlive
    rw [Option.some.inj hlive]
    exact hwhich

end Table

namespace Pool

/-- What has left is closed, one connection after the other. -/
theorem moves_retireAll (ds : List Departure) :
    Moves now ⟨p, L, O, ↑ds + D⟩ ⟨(p.retireAll ds).2, L, O, D⟩ := by
  induction ds generalizing p with
  | nil => exact Moves.refl.congr (congrArg _ (zero_add D))
  | cons d ds ih =>
    rw [← Multiset.cons_coe, Multiset.cons_add]
    exact .head (.close d) ih

/-- Records leave the table one after the other for the same reason. -/
theorem moves_leave (why : Removal) (es : List (String × Record))
    (hnodup : (es.map Prod.fst).Nodup)
    (hes : ∀ e ∈ es, p.table.find? e.1 = some (.live e.2) ∧ ∀ q, why.Allows now q O e.1 e.2) :
    Moves now ⟨p, L, O, D⟩
      ⟨p.withTable ((es.map Prod.fst).foldl Table.erase p.table), L, O,
        ↑(es.map fun e => (⟨why, e.1, e.2.connection⟩ : Departure)) + D⟩ := by
  induction es generalizing p D with
  | nil => exact Moves.refl.congr (by simp [withTable])
  | cons e es ih =>
    rw [List.map_cons, List.nodup_cons] at hnodup
    obtain ⟨hlive, hallow⟩ := hes e List.mem_cons_self
    have hrest : ∀ x ∈ es, (p.table.erase e.1).find? x.1 = some (.live x.2) ∧
        ∀ q, why.Allows now q O x.1 x.2 := by
      intro x hx
      obtain ⟨hxlive, hxallow⟩ := hes x (List.mem_cons_of_mem _ hx)
      have hne : x.1 ≠ e.1 := fun he => hnodup.1 (he ▸ List.mem_map.mpr ⟨x, hx, rfl⟩)
      exact ⟨by simp [hxlive, hne], hxallow⟩
    -- the first record leaves, and the others are still there
    refine (Moves.head (.leave why e.1 e.2 hlive (hallow p)) (ih hnodup.2 hrest)).congr ?_
    refine congrArg (Custody.mk _ L O) ?_
    rw [List.map_cons, ← Multiset.cons_coe, Multiset.cons_add, Multiset.add_cons]

theorem order_perm (p : Pool) : p.order.Perm p.table.keys := p.enumeration.perm _ _

theorem moves_takeLive (why : Removal) (which : Record → Bool)
    (hwhy : ∀ q key r, which r = true → why.Allows now q O key r) :
    Moves now ⟨p, L, O, D⟩ ⟨(p.takeLive why which).2, L, O, ↑(p.takeLive why which).1 + D⟩ := by
  have hnodup : ((p.table.recordsAlong p.order which).map Prod.fst).Nodup :=
    (p.order_perm.nodup_iff.mpr p.table.nodup).sublist Table.names_recordsAlong_sublist
  refine .head .walk ?_
  rw [takeLive, Table.without_eq_foldl p.order_perm]
  refine moves_leave (p := p.walked) why _ hnodup fun e he => ?_
  obtain ⟨-, hlive, hwhich⟩ := Table.mem_recordsAlong.mp he
  exact ⟨hlive, fun q => hwhy q _ _ hwhich⟩

theorem moves_takeOldest :
    Moves now ⟨p, L, O, D⟩ ⟨p.takeOldest.2, L, O, ↑p.takeOldest.1.toList + D⟩ := by
  refine .head .walk ?_
  rw [takeOldest]
  split
  · exact Moves.refl.congr (by simp)
  · rename_i e he
    obtain ⟨-, hlive, hwhich⟩ := Table.mem_recordsAlong.mp (Table.mem_of_oldest? he)
    exact .single (.leave .evicted e.1 e.2 hlive hwhich)

/-! ### Commands -/

/-- Pruning is a sequence of moves. -/
theorem moves_prune : Moves now ⟨p, L, O, D⟩ ⟨(p.prune now).2, L, O, D⟩ := by
  refine (moves_takeLive .pruned (Record.isPrunable now) fun _ _ _ h => h).trans ?_
  refine (moves_retireAll _).trans ?_
  simp only [prune]
  split
  · exact .refl
  · exact .single (.remark _ rfl)

/-- Evicting is a sequence of moves. -/
theorem moves_evict : Moves now ⟨p, L, O, D⟩ ⟨p.evict.2, L, O, D⟩ := by
  have htake : Moves now ⟨p, L, O, D⟩ _ := moves_takeOldest
  rw [evict]
  split <;> rename_i q hq <;> rw [hq] at htake
  · simpa using htake
  · exact htake.trans (moves_retireAll (p := q) [_])

/-- Closing everything is a sequence of moves. -/
theorem moves_closeAll : Moves now ⟨p, L, O, D⟩ ⟨p.closeAll.2, L, O, D⟩ := by
  refine (moves_takeLive .drained (fun _ => true) fun _ _ _ _ => trivial).trans ?_
  exact (moves_retireAll _).trans (.single (.remark _ rfl))

/-- **A command is a sequence of moves.** -/
theorem moves_execute (c : Command) :
    Moves now ⟨p, L, O, D⟩ ⟨(p.execute now c).2, L, O, D⟩ := by
  cases c with
  | prune => exact moves_prune
  | evict => exact moves_evict
  | closeAll => exact moves_closeAll
  | resetCounters => exact .single .reset
  | _ => exact .refl

/-! ### Attempts -/

theorem moves_makeRoom (limit : Nat) :
    Moves now ⟨p, L, O, D⟩ ⟨(p.makeRoom limit now).2, L, O, ↑(p.makeRoom limit now).1 + D⟩ := by
  have hexpired : Moves now ⟨p, L, O, D⟩ _ :=
    moves_takeLive .pruned (Record.isPrunable now) fun _ _ _ h => h
  simp only [makeRoom]
  split
  · exact Moves.refl.congr (by simp)
  · split
    · exact hexpired
    · refine (hexpired.trans moves_takeOldest).congr (congrArg (Custody.mk _ L O) ?_)
      rw [← Multiset.coe_add, add_left_comm, add_assoc]

theorem find?_takeOldest_eq_none {key : String} (h : p.table.find? key = none) :
    p.takeOldest.2.table.find? key = none := by
  rw [takeOldest]
  split <;> simp [h]

theorem settings_takeOldest : p.takeOldest.2.settings = p.settings := by
  rw [takeOldest]
  split <;> rfl

/-- Room is made without a slot being added. -/
theorem find?_makeRoom_eq_none {key : String} (limit : Nat) (h : p.table.find? key = none) :
    (p.makeRoom limit now).2.table.find? key = none := by
  have hexpired : (p.takeLive .pruned (Record.isPrunable now)).2.table.find? key = none := by
    simp [takeLive, h]
  rw [makeRoom]
  split
  · exact h
  · dsimp only
    split
    · exact hexpired
    · exact find?_takeOldest_eq_none hexpired

theorem settings_makeRoom (limit : Nat) :
    (p.makeRoom limit now).2.settings = p.settings := by
  rw [makeRoom]
  split
  · rfl
  · dsimp only
    split
    · rfl
    · exact settings_takeOldest

end Pool

/-- The place that an answer keeps for an acquire. -/
@[simp] def Admission.openings (r : Request) : Admission → Multiset Opening
  | .reserved => {⟨r, .kept⟩}
  | _ => 0

/-- The lease that an answer gives to an acquire. -/
@[simp] def Admission.leases (r : Request) : Admission → Multiset Lease
  | .leased connection generation => {⟨r.database, generation, connection⟩}
  | _ => 0

/-- A pool that has written down the lease that an answer gives. -/
@[simp] def Admission.noted (now : Instant) (r : Request) (p : Pool) : Admission → Pool
  | .leased connection generation =>
    p.note (.reused ⟨r.database, generation, connection⟩ now r.ttl)
  | _ => p

namespace Pool

/-- A place that may be kept is kept. -/
theorem moves_reserve (r : Request) (hr : p.table.find? r.database = none) :
    Moves now ⟨p, L, O, D⟩
      ⟨(p.reserve r.database now).2.2, L, (p.reserve r.database now).1.openings r + O,
        ↑(p.reserve r.database now).2.1 + D⟩ := by
  simp only [reserve]
  split
  · rename_i hmax
    have hroom : ∀ limit, p.settings.maxConnections = some limit → p.table.size < limit :=
      fun limit hl => by simp [hmax] at hl
    refine (Moves.single (.reserve r hr hroom)).congr ?_
    simp
  · rename_i limit hmax
    have hroom : Moves now ⟨p, L, O, D⟩ _ := moves_makeRoom limit
    split
    · rename_i hlt
      -- the place is kept in the table as it is after room was made
      have hnone : (p.makeRoom limit now).2.table.find? r.database = none :=
        find?_makeRoom_eq_none limit hr
      refine (hroom.tail (.reserve r hnone fun limit' hl => ?_)).congr ?_
      · rw [settings_makeRoom, hmax] at hl
        exact Option.some.inj hl ▸ hlt
      · simp
    · simpa using hroom

/-- **An attempt is a sequence of moves**, with what the acquire gets. -/
theorem moves_attempt (r : Request) :
    Moves now ⟨p, L, O, D⟩
      ⟨(p.attempt r.database r.ttl now).1.noted now r (p.attempt r.database r.ttl now).2,
        (p.attempt r.database r.ttl now).1.leases r + L,
        (p.attempt r.database r.ttl now).1.openings r + O, D⟩ := by
  have hnoted : ∀ q q' : Pool, (q.reserve r.database now).1.noted now r q' = q' := by
    intro q q'
    simp only [reserve]
    split
    · rfl
    · split <;> rfl
  have hleases : ∀ q : Pool, (q.reserve r.database now).1.leases r = 0 := by
    intro q
    simp only [reserve]
    split
    · rfl
    · split <;> rfl
  simp only [attempt, admission]
  split
  · rename_i hnone
    have hreserve : Moves now ⟨p, L, O, D⟩ _ := moves_reserve r hnone
    rw [hnoted, hleases, zero_add]
    exact hreserve.trans (moves_retireAll _)
  · exact Moves.refl.congr (by simp [retireAll])
  · rename_i old hlive
    split
    · exact Moves.refl.congr (by simp [retireAll])
    · rename_i hbusy
      have hidle : old.busy = false := by simpa using hbusy
      split
      · rename_i hhealthy
        split
        · exact Moves.refl.congr (by simp [retireAll])
        · rename_i deadline ht
          have hreuse : Move now ⟨p, L, O, D⟩ _ :=
            .reuse r.database old r.ttl deadline hlive hidle hhealthy ht
          refine (Moves.single hreuse).congr ?_
          simp [retireAll]
      · rename_i hdead
        -- the dead connection leaves first, and is closed with what made room
        have hleave : Move now ⟨p, L, O, D⟩ ⟨p.withTable (p.table.erase r.database), L, O,
            ⟨.replaced, r.database, old.connection⟩ ::ₘ D⟩ :=
          .leave .replaced r.database old hlive ⟨hidle, by simpa using hdead⟩
        have hreserve : Moves now ⟨p.withTable (p.table.erase r.database), L, O,
            ⟨.replaced, r.database, old.connection⟩ ::ₘ D⟩ _ := moves_reserve r (by simp)
        have hlist (ds : List Departure) : (↑ds : Multiset Departure) +
            ⟨.replaced, r.database, old.connection⟩ ::ₘ D =
              ↑((⟨.replaced, r.database, old.connection⟩ : Departure) :: ds) + D := by
          rw [← Multiset.cons_coe, Multiset.add_cons, Multiset.cons_add]
        rw [hnoted, hleases, zero_add]
        rw [hlist] at hreserve
        exact (Moves.head hleave hreserve).trans (moves_retireAll _)

/-! ### The end of a lease -/

theorem any_isGeneration_iff {s : Option Slot} {generation : Nat} :
    s.any (isGeneration generation) = true ↔
      ∃ r, s = some (.live r) ∧ r.generation = generation := by
  rcases s with _ | _ | r <;> simp [isGeneration, Slot.holds, Slot.record?]

/-- The record of a lease leaves the table, and its connection is closed. -/
theorem discard_of_find? {l : Lease} {r : Record} (hr : p.table.find? l.database = some (.live r))
    (hg : r.generation = l.generation) (why : Removal) :
    p.discard l why =
      ((p.withTable (p.table.erase l.database)).retire ⟨why, l.database, r.connection⟩).2 := by
  simp [discard, hr, hg, isGeneration, Slot.holds, Slot.record?, Option.filter]

/-- A record that has left before is not looked for elsewhere. -/
theorem discard_eq_self {l : Lease}
    (hm : (p.table.find? l.database).any (isGeneration l.generation) = false) (why : Removal) :
    p.discard l why = p := by
  rw [discard]
  split
  · rename_i r hr
    obtain ⟨hr, hg⟩ := Option.filter_eq_some_iff.mp hr
    rw [hr, Option.any_some, hg] at hm
    cases hm
  · rfl

/-- A record that is to leave the table with its lease does so, if it is there. -/
theorem moves_discard (l : Lease) (how : Disposal) (why : Removal)
    (hw : how = .release ∧ p.isHealthy l.connection = false ∧ why = .broken ∨
      how ≠ .release ∧ why = .cancelled) :
    Moves now ⟨p, l ::ₘ L, O, D⟩ ⟨(p.note (.leaseEnded l how)).discard l why, L, O, D⟩ := by
  by_cases hm : (p.table.find? l.database).any (isGeneration l.generation) = true
  · obtain ⟨r, hr, hg⟩ := any_isGeneration_iff.mp hm
    rw [discard_of_find? (p := p.note _) hr hg]
    exact .head (.discard l how why r hw hr hg) (.single (.close _))
  · -- the record of the lease has left before
    have hnone := Bool.eq_false_iff.mpr hm
    rw [discard_eq_self (p := p.note _) hnone]
    exact .single (.forget l how (hw.imp (fun h => ⟨h.1, h.2.1⟩) And.left) hnone)

/-- **The end of a lease is a sequence of moves.** -/
theorem moves_settle (l : Lease) (how : Disposal) :
    Moves now ⟨p, l ::ₘ L, O, D⟩ ⟨p.settle l how, L, O, D⟩ := by
  cases how with
  | release =>
    simp only [settle]
    split
    · rename_i hh
      have hh : p.isHealthy l.connection = true := hh
      simp only [returnIdle]
      split
      · rename_i hm
        exact .single (.rest l hh hm)
      · rename_i hm
        exact .single (.depart l hh (by simpa using hm))
    · rename_i hh
      have hh : p.isHealthy l.connection = false := Bool.eq_false_iff.mpr hh
      exact moves_discard l .release .broken (.inl ⟨rfl, hh, rfl⟩)
  | cancel => exact moves_discard l .cancel .cancelled (.inr ⟨by decide, rfl⟩)
  | drop => exact moves_discard l .drop .cancelled (.inr ⟨by decide, rfl⟩)

end Pool

namespace LeaseBook

variable {b : LeaseBook} {label : String}

/-- A lease that is under a label stands beside the others. -/
theorem leases_perm {l : Lease} (h : b.find? label = some l) :
    b.leases.Perm (l :: (b.erase label).leases) := by
  have hmem : (label, l) ∈ b.entries := by
    obtain ⟨before, after, heq, -⟩ := List.lookup_eq_some_iff.mp h
    exact heq ▸ List.mem_append_right _ List.mem_cons_self
  exact (perm_cons_filter_ne Prod.fst b.nodup hmem).map Prod.snd

theorem leases_put (l : Lease) : (b.put label l).leases = (b.erase label).leases ++ [l] := by
  simp [leases, put]

theorem erase_eq_self (h : b.find? label = none) : (b.erase label).leases = b.leases := by
  have hkeep : b.entries.filter (·.1 != label) = b.entries := by
    refine List.filter_eq_self.mpr fun e he => bne_iff_ne.mpr ?_
    have hne := List.lookup_eq_none_iff.mp h e he
    exact fun hk => by simp [hk] at hne
  simp only [leases, erase, hkeep]

end LeaseBook

end KeyedPool
