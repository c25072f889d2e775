import KeyedPool.Pool
import Mathlib.Algebra.Order.Group.Multiset
import Mathlib.Data.Multiset.Range

/-!
# Accounts

What a table holds and what a history tells, as multisets. In this form "exactly one" and "nothing
is lost" are equations between sums, and an operation moves an item from one summand to another.

* `KeyedPool.Table.connections`, `KeyedPool.Table.openingKeys`: what a table holds.
* `KeyedPool.Table.gather_eq`: a slot of a table beside the others, from which the accounts of
  every operation follow.
* `KeyedPool.History.account`: what a history tells of one kind of event.
* `KeyedPool.History.inFlight`, `KeyedPool.History.unclosed`: the connects that were asked for and
  not answered, and the connections that were opened and not closed.
-/

namespace KeyedPool

/-- In a list in which no two elements have the same key, an element stands beside those with
another key. -/
theorem perm_cons_filter_ne {α κ : Type} [BEq κ] [LawfulBEq κ] (key : α → κ) {l : List α}
    (hl : (l.map key).Nodup) {a : α} (ha : a ∈ l) :
    l.Perm (a :: l.filter fun b => key b != key a) := by
  induction l with
  | nil => cases ha
  | cons x xs ih =>
    rw [List.map_cons, List.nodup_cons] at hl
    rcases List.mem_cons.mp ha with rfl | hxs
    · -- the element is the first, and no other has its key
      have hkeep : (xs.filter fun b => key b != key a) = xs := by
        refine List.filter_eq_self.mpr fun b hb => bne_iff_ne.mpr fun he => ?_
        exact hl.1 (List.mem_map.mpr ⟨b, hb, he⟩)
      rw [List.filter_cons_of_neg (by simp), hkeep]
    · have hne : key x ≠ key a := fun he => hl.1 (List.mem_map.mpr ⟨a, hxs, he.symm⟩)
      rw [List.filter_cons_of_pos (by simp [hne])]
      exact ((ih hl.2 hxs).cons x).trans (List.Perm.swap a x _)

/-! ### What a table holds -/

namespace Table

variable {β : Type} {t : Table} {key other : String} {s : Slot} {r : Record}

/-- What the entries of a table have of some kind. -/
def gather (t : Table) (f : String × Slot → Option β) : Multiset β := ↑(t.entries.filterMap f)

/-- The connections on record, with their databases. -/
def connections (t : Table) : Multiset (String × Nat) :=
  t.gather fun e => e.2.record?.map fun r => (e.1, r.connection)

/-- The databases for which a connection is being opened. -/
def openingKeys (t : Table) : Multiset String :=
  t.gather fun e => if e.2 = .opening then some e.1 else none

/-- A slot that was found stands beside the rest of the table. -/
theorem entries_perm (h : t.find? key = some s) :
    t.entries.Perm ((key, s) :: (t.erase key).entries) :=
  perm_cons_filter_ne Prod.fst t.nodup (find?_eq_some_iff.mp h)

/-- **What a table holds is what one slot has and what the others have.** -/
theorem gather_eq (f : String × Slot → Option β) (h : t.find? key = some s) :
    t.gather f = ↑(f (key, s)).toList + (t.erase key).gather f := by
  have hp := Multiset.coe_eq_coe.mpr ((entries_perm h).filterMap f)
  rw [gather, hp, List.filterMap_cons]
  cases f (key, s) <;> simp [gather]

theorem erase_eq_self (h : t.find? key = none) : t.erase key = t := by
  have hkeep : t.entries.filter (·.1 != key) = t.entries := by
    refine List.filter_eq_self.mpr fun e he => bne_iff_ne.mpr fun hk => ?_
    exact find?_eq_none_iff.mp h (List.mem_map.mpr ⟨e, he, hk⟩)
  simp only [erase, hkeep]

theorem gather_put (f : String × Slot → Option β) :
    (t.put key s).gather f = ↑(f (key, s)).toList + (t.erase key).gather f := by
  simp only [gather, put, erase, List.filterMap_cons]
  cases f (key, s) <;> simp

theorem erase_modify (g : Record → Record) : (t.modify key g).erase key = t.erase key := by
  simp only [erase, modify, List.filter_map, mk.injEq, and_true]
  refine (List.map_congr_left fun e he => ?_).trans (List.map_id _)
  have hne : e.1 ≠ key := by simpa using (List.mem_filter.mp he).2
  simp [hne]

theorem put_erase : (t.erase key).put key s = t.put key s := by
  simp [erase, put]

theorem size_eq_of_find? (h : t.find? key = some s) : t.size = (t.erase key).size + 1 := by
  simpa [size] using (entries_perm h).length_eq

@[simp] theorem size_put : (t.put key s).size = (t.erase key).size + 1 := rfl

theorem size_erase_le : (t.erase key).size ≤ t.size := List.length_filter_le ..

/-! #### The accounts of the operations -/

theorem connections_of_live (h : t.find? key = some (.live r)) :
    t.connections = (key, r.connection) ::ₘ (t.erase key).connections := by
  rw [connections, gather_eq _ h]
  simp [Slot.record?, connections]

theorem connections_of_opening (h : t.find? key = some .opening) :
    (t.erase key).connections = t.connections := by
  rw [connections, connections, gather_eq _ h]
  simp [Slot.record?]

theorem openingKeys_of_live (h : t.find? key = some (.live r)) :
    (t.erase key).openingKeys = t.openingKeys := by
  rw [openingKeys, openingKeys, gather_eq _ h]
  simp

theorem openingKeys_of_opening (h : t.find? key = some .opening) :
    t.openingKeys = key ::ₘ (t.erase key).openingKeys := by
  rw [openingKeys, gather_eq _ h]
  simp [openingKeys]

@[simp] theorem connections_put_live :
    (t.put key (.live r)).connections = (key, r.connection) ::ₘ (t.erase key).connections := by
  rw [connections, gather_put]
  simp [Slot.record?, connections]

@[simp] theorem connections_put_opening :
    (t.put key .opening).connections = (t.erase key).connections := by
  rw [connections, gather_put]
  simp [Slot.record?, connections]

@[simp] theorem openingKeys_put_live :
    (t.put key (.live r)).openingKeys = (t.erase key).openingKeys := by
  rw [openingKeys, gather_put]
  simp [openingKeys]

@[simp] theorem openingKeys_put_opening :
    (t.put key .opening).openingKeys = key ::ₘ (t.erase key).openingKeys := by
  rw [openingKeys, gather_put]
  simp [openingKeys]

/-- A change of a record that keeps its connection changes no account. -/
theorem gather_modify (f : String × Slot → Option β) {g : Record → Record}
    (hg : ∀ s, f (key, s.modify g) = f (key, s)) : (t.modify key g).gather f = t.gather f := by
  cases h : t.find? key with
  | none =>
    -- nothing is under the key, before or after
    have hm : (t.modify key g).find? key = none := by simp [h]
    rw [← erase_eq_self hm, erase_modify, erase_eq_self h]
  | some s =>
    have hm : (t.modify key g).find? key = some (s.modify g) := by simp [h]
    rw [gather_eq f hm, gather_eq f h, erase_modify, hg]

theorem connections_modify {g : Record → Record} (hg : ∀ r, (g r).connection = r.connection) :
    (t.modify key g).connections = t.connections :=
  gather_modify _ fun s => by cases s <;> simp [Slot.modify, Slot.record?, hg]

@[simp] theorem openingKeys_modify (g : Record → Record) :
    (t.modify key g).openingKeys = t.openingKeys :=
  gather_modify _ fun s => by cases s <;> simp [Slot.modify]

/-- A generation is used up without any change of the slots. -/
@[simp] theorem connections_useGeneration : t.useGeneration.connections = t.connections := rfl

@[simp] theorem openingKeys_useGeneration : t.useGeneration.openingKeys = t.openingKeys := rfl

@[simp] theorem erase_useGeneration : t.useGeneration.erase key = (t.erase key).useGeneration := rfl

/-! #### Reading an account -/

/-- A connection is on record exactly where a slot has it. -/
theorem mem_connections {c : Nat} :
    (key, c) ∈ t.connections ↔ ∃ r, t.find? key = some (.live r) ∧ r.connection = c := by
  simp only [connections, gather, Multiset.mem_coe, List.mem_filterMap, Option.map_eq_some_iff]
  constructor
  · rintro ⟨⟨k, s⟩, he, r, hr, hc⟩
    cases hc
    cases s <;> cases hr
    exact ⟨r, find?_eq_some_iff.mpr he, rfl⟩
  · rintro ⟨r, h, rfl⟩
    exact ⟨(key, .live r), find?_eq_some_iff.mp h, r, rfl, rfl⟩

theorem mem_openingKeys : key ∈ t.openingKeys ↔ t.find? key = some .opening := by
  simp only [openingKeys, gather, Multiset.mem_coe, List.mem_filterMap]
  constructor
  · rintro ⟨⟨k, s⟩, he, hk⟩
    split at hk
    · rename_i hs
      cases hk
      exact find?_eq_some_iff.mpr (hs ▸ he)
    · cases hk
  · intro h
    exact ⟨(key, .opening), find?_eq_some_iff.mp h, by simp⟩

/-- No database has two places. -/
theorem nodup_openingKeys : t.openingKeys.Nodup := by
  refine Multiset.coe_nodup.mpr (t.nodup.sublist ?_)
  induction t.entries with
  | nil => exact .slnil
  | cons e es ih =>
    rw [List.filterMap_cons, List.map_cons]
    split
    · exact ih.cons e.1
    · rename_i key hkey
      split at hkey <;> cases hkey
      exact ih.cons_cons e.1

/-- **Every slot is either a connection on record or one that is being opened.** -/
theorem size_eq : t.size = t.connections.card + t.openingKeys.card := by
  simp only [size, connections, openingKeys, gather, Multiset.coe_card]
  induction t.entries with
  | nil => rfl
  | cons e es ih =>
    rcases e with ⟨k, _ | r⟩ <;> simp [Slot.record?, ih] <;> omega

end Table

/-! ### What a history tells -/

namespace Entry

/-- The database to which a connection is asked for. -/
def asks? : Entry → Option String
  | .connecting database => some database
  | _ => none

/-- The database for which asking for a connection has come to an end. -/
def answers? : Entry → Option String
  | .connected database _ => some database
  | .unconnected database => some database
  | _ => none

/-- The connection that was opened, with its database. -/
def opens? : Entry → Option (String × Nat)
  | .connected database connection => some (database, connection)
  | _ => none

/-- The connection that was closed, with or without success, and its database. -/
def closes? : Entry → Option (String × Nat)
  | .closed database connection => some (database, connection)
  | .closeFailed database connection _ => some (database, connection)
  | _ => none

/-- The connection that left the pool, with its database. -/
def removes? : Entry → Option (String × Nat)
  | .removed _ database connection => some (database, connection)
  | _ => none

/-- The connection that was lost, with its database. -/
def loses? : Entry → Option (String × Nat)
  | .lost database connection .. => some (database, connection)
  | _ => none

end Entry

namespace History

variable {α : Type}

/-- What a history tells of one kind of event. -/
def account (f : Entry → Option α) (h : List Entry) : Multiset α := ↑(h.filterMap f)

@[simp] theorem account_cons (f : Entry → Option α) (e : Entry) (h : List Entry) :
    account f (e :: h) = ↑(f e).toList + account f h := by
  simp only [account, List.filterMap_cons]
  cases f e <;> simp

/-- The databases to which a connection was asked for. -/
def asked (h : List Entry) : Multiset String := account Entry.asks? h

/-- The databases for which asking for a connection came to an end. -/
def answered (h : List Entry) : Multiset String := account Entry.answers? h

/-- The connections that were opened. -/
def opened (h : List Entry) : Multiset (String × Nat) := account Entry.opens? h

/-- The connections that were closed, as often as they were. -/
def closed (h : List Entry) : Multiset (String × Nat) := account Entry.closes? h

/-- The connections that left the pool, as often as they did. -/
def removed (h : List Entry) : Multiset (String × Nat) := account Entry.removes? h

/-- The connections that were lost. -/
def lost (h : List Entry) : Multiset (String × Nat) := account Entry.loses? h

section Cons

variable (e : Entry) (h : List Entry)

@[simp] theorem asked_cons : asked (e :: h) = ↑e.asks?.toList + asked h := account_cons _ e h

@[simp] theorem answered_cons : answered (e :: h) = ↑e.answers?.toList + answered h :=
  account_cons _ e h

@[simp] theorem opened_cons : opened (e :: h) = ↑e.opens?.toList + opened h := account_cons _ e h

@[simp] theorem closed_cons : closed (e :: h) = ↑e.closes?.toList + closed h := account_cons _ e h

@[simp] theorem removed_cons : removed (e :: h) = ↑e.removes?.toList + removed h :=
  account_cons _ e h

@[simp] theorem lost_cons : lost (e :: h) = ↑e.loses?.toList + lost h := account_cons _ e h

end Cons

/-- **The connects in flight**, by database: asked for and not answered. -/
def inFlight (h : List Entry) : Multiset String := asked h - answered h

/-- **The connections that are open** as far as the pool goes: opened and not closed. -/
def unclosed (h : List Entry) : Multiset (String × Nat) := opened h - closed h

theorem mem_opened {h : List Entry} {k : String} {c : Nat} :
    (k, c) ∈ opened h ↔ Entry.connected k c ∈ h := by
  simp only [opened, account, Multiset.mem_coe, List.mem_filterMap]
  constructor
  · rintro ⟨e, he, hc⟩
    cases e <;> cases hc
    exact he
  · intro he
    exact ⟨_, he, rfl⟩

theorem mem_closed {h : List Entry} {k : String} {c : Nat} :
    (k, c) ∈ closed h ↔ Entry.closed k c ∈ h ∨ ∃ f, Entry.closeFailed k c f ∈ h := by
  simp only [closed, account, Multiset.mem_coe, List.mem_filterMap]
  constructor
  · rintro ⟨e, he, hc⟩
    cases e <;> cases hc
    · exact .inl he
    · exact .inr ⟨_, he⟩
  · rintro (he | ⟨f, he⟩)
    · exact ⟨_, he, rfl⟩
    · exact ⟨_, he, rfl⟩

theorem mem_lost {h : List Entry} {k : String} {c : Nat} :
    (k, c) ∈ lost h ↔ ∃ now ttl, Entry.lost k c now ttl ∈ h := by
  simp only [lost, account, Multiset.mem_coe, List.mem_filterMap]
  constructor
  · rintro ⟨e, he, hc⟩
    cases e <;> cases hc
    exact ⟨_, _, he⟩
  · rintro ⟨now, ttl, he⟩
    exact ⟨_, he, rfl⟩

theorem mem_removed {h : List Entry} {k : String} {c : Nat} :
    (k, c) ∈ removed h ↔ ∃ why, Entry.removed why k c ∈ h := by
  simp only [removed, account, Multiset.mem_coe, List.mem_filterMap]
  constructor
  · rintro ⟨e, he, hc⟩
    cases e <;> cases hc
    exact ⟨_, he⟩
  · rintro ⟨why, he⟩
    exact ⟨_, he, rfl⟩

end History

end KeyedPool
