import KeyedPool.Time

/-!
# The table of tracked connections

A pool tracks at most one connection per database. The table has one slot for every database that
is tracked: either a connection is being opened for it, or an open one is on record.

* `KeyedPool.Record`: what is known of an open connection.
* `KeyedPool.Slot`: an opening in progress, or a record.
* `KeyedPool.Table`: slots by database name, no name twice, and the generation that the next record
  gets.
* `KeyedPool.Table.find?`: the view through which the operations are described.
* `KeyedPool.Enumeration`: the order in which a table is walked, which nothing else may depend on.
-/

namespace KeyedPool

/-- What a table knows of an open connection. -/
structure Record where
  /-- The connection, by its number. -/
  connection : Nat
  /-- When it may be pruned, once it is idle. -/
  expiresAt : Instant
  /-- When it was last leased. -/
  lastUsedAt : Instant
  /-- Whether it is leased now. -/
  busy : Bool
  /-- Whether neither pruning nor eviction may take it. -/
  persistent : Bool
  /-- Tells this record from every other that the table ever had. -/
  generation : Nat
deriving DecidableEq

/-- What a table has under the name of a database. -/
inductive Slot where
  /-- A connection is being opened. -/
  | opening
  /-- A connection is open. -/
  | live (record : Record)
deriving DecidableEq

namespace Record

/-- Whether the time of a record has come. -/
def isExpired (r : Record) (now : Instant) : Bool := r.expiresAt ≤ now

/-- Whether the pool may take the connection away: nobody holds it, and it is not persistent. -/
def isReclaimable (r : Record) : Bool := !r.busy && !r.persistent

/-- Whether pruning takes the connection. -/
def isPrunable (now : Instant) (r : Record) : Bool := r.isReclaimable && r.isExpired now

/-- The record after its connection was leased at `now` with a new deadline. -/
def lease (deadline now : Instant) (r : Record) : Record :=
  { r with expiresAt := deadline, lastUsedAt := now, busy := true }

/-- The record after its lease ended. -/
def rest (r : Record) : Record := { r with busy := false }

end Record

namespace Slot

/-- The record in a slot, if its connection is open. -/
def record? : Slot → Option Record
  | opening => none
  | live r => some r

/-- Whether a slot holds a record with some property. -/
def holds (which : Record → Bool) (s : Slot) : Bool := s.record?.any which

/-- A slot with its record changed, if it has one. -/
def modify (f : Record → Record) : Slot → Slot
  | opening => opening
  | live r => live (f r)

end Slot

/-! ### The order of a walk -/

/-- **The order in which a table is walked.** The order may change from one walk to the next; all
that is known is that every key is visited once. -/
structure Enumeration where
  /-- The keys as the walk of a given number visits them. -/
  visit : Nat → List String → List String
  /-- Every key is visited, and none twice. -/
  perm : ∀ walk keys, (visit walk keys).Perm keys

/-- The walk that takes the keys as they are stored. -/
def Enumeration.stored : Enumeration := ⟨fun _ keys => keys, fun _ _ => .refl _⟩

instance : Inhabited Enumeration := ⟨.stored⟩

/-! ### Tables -/

/-- The slots of a pool by database name, and the generation of the next record. -/
@[ext] structure Table where
  /-- Name and slot of every tracked database. -/
  entries : List (String × Slot) := []
  /-- No name occurs twice. -/
  nodup : (entries.map Prod.fst).Nodup := by exact List.nodup_nil
  /-- The generation of the next record. -/
  nextGeneration : Nat := 1

namespace Table

instance : Inhabited Table := ⟨{}⟩

/-- The tracked names. -/
def keys (t : Table) : List String := t.entries.map Prod.fst

/-- How many names are tracked, those being opened included. -/
def size (t : Table) : Nat := t.entries.length

/-- The slot of a database. -/
def find? (t : Table) (key : String) : Option Slot := t.entries.lookup key

/-- Whether a database is tracked. -/
def contains (t : Table) (key : String) : Bool := (t.find? key).isSome

/-- The record of a database, if its connection is open. -/
def record? (t : Table) (key : String) : Option Record := (t.find? key).bind Slot.record?

/-- A table keeps distinct names when some entries leave it. -/
theorem nodup_filter (t : Table) (p : String × Slot → Bool) :
    ((t.entries.filter p).map Prod.fst).Nodup :=
  t.nodup.sublist (List.filter_sublist.map Prod.fst)

/-- The table without a name. -/
def erase (t : Table) (key : String) : Table :=
  { t with entries := t.entries.filter (·.1 != key), nodup := t.nodup_filter _ }

/-- The table with a slot under a name, in place of what was there. -/
def put (t : Table) (key : String) (slot : Slot) : Table where
  entries := (key, slot) :: t.entries.filter (·.1 != key)
  nodup := by
    simp only [List.map_cons, List.nodup_cons]
    exact ⟨by simp, t.nodup_filter _⟩
  nextGeneration := t.nextGeneration

/-- The table with the record of a name changed, if it has one. -/
def modify (t : Table) (key : String) (f : Record → Record) : Table where
  entries := t.entries.map fun e => (e.1, if e.1 = key then e.2.modify f else e.2)
  nodup := by
    rw [List.map_map]
    exact t.nodup
  nextGeneration := t.nextGeneration

/-- The table without every record that has some property. -/
def without (t : Table) (which : Record → Bool) : Table :=
  { t with entries := t.entries.filter fun e => !e.2.holds which, nodup := t.nodup_filter _ }

/-- The table with a generation used up. -/
def useGeneration (t : Table) : Table := { t with nextGeneration := t.nextGeneration + 1 }

/-- The records that have some property, in the order of a walk over the names. -/
def recordsAlong (t : Table) (order : List String) (which : Record → Bool) :
    List (String × Record) :=
  order.filterMap fun key => ((t.record? key).filter which).map (key, ·)

/-- The first record of a list that has been unused for the longest time. -/
def oldest? : List (String × Record) → Option (String × Record)
  | [] => none
  | e :: es =>
    match oldest? es with
    | none => some e
    | some o => if o.2.lastUsedAt < e.2.lastUsedAt then some o else some e

/-! ### The operations through the view -/

theorem lookup_cons_eq (l : List (String × Slot)) (key other : String) (slot : Slot) :
    ((key, slot) :: l).lookup other = if other = key then some slot else l.lookup other := by
  rw [List.lookup_cons]
  by_cases h : other = key
  · simp [h]
  · simp [h, beq_false_of_ne h]

theorem lookup_filter_ne (l : List (String × Slot)) (key other : String) :
    (l.filter (·.1 != key)).lookup other = if other = key then none else l.lookup other := by
  induction l with
  | nil => simp
  | cons e es ih =>
    rcases e with ⟨k, s⟩
    by_cases hk : k = key
    · rw [List.filter_cons_of_neg (by simp [hk]), ih, lookup_cons_eq]
      by_cases ho : other = key <;> simp [ho, hk]
    · rw [List.filter_cons_of_pos (by simp [hk]), lookup_cons_eq, lookup_cons_eq, ih]
      by_cases ho : other = k
      · simp [ho, hk]
      · simp [ho]

@[simp] theorem find?_erase (t : Table) (key other : String) :
    (t.erase key).find? other = if other = key then none else t.find? other :=
  lookup_filter_ne _ _ _

@[simp] theorem find?_put (t : Table) (key other : String) (slot : Slot) :
    (t.put key slot).find? other = if other = key then some slot else t.find? other := by
  simp only [find?, put, lookup_cons_eq, lookup_filter_ne]
  by_cases h : other = key <;> simp [h]

@[simp] theorem find?_modify (t : Table) (key other : String) (f : Record → Record) :
    (t.modify key f).find? other =
      if other = key then (t.find? other).map (Slot.modify f) else t.find? other := by
  simp only [find?, modify]
  induction t.entries with
  | nil => simp
  | cons e es ih =>
    rcases e with ⟨k, s⟩
    rw [List.map_cons, lookup_cons_eq, lookup_cons_eq, ih]
    by_cases hk : other = k
    · by_cases ho : k = key <;> simp [hk, ho]
    · simp [hk]

/-- A slot is found exactly where an entry has it. -/
theorem find?_eq_some_iff {t : Table} {key : String} {slot : Slot} :
    t.find? key = some slot ↔ (key, slot) ∈ t.entries := by
  rcases t with ⟨entries, nodup, next⟩
  simp only [find?]
  induction entries with
  | nil => simp
  | cons e es ih =>
    rcases e with ⟨k, s⟩
    rw [List.map_cons, List.nodup_cons] at nodup
    rw [lookup_cons_eq, List.mem_cons, Prod.mk.injEq]
    by_cases hk : key = k
    · have hout : (k, slot) ∉ es := fun h => nodup.1 (List.mem_map.2 ⟨_, h, rfl⟩)
      simp [hout, hk, eq_comm]
    · simp [hk, ih nodup.2]

/-- Nothing is found exactly where no entry has the name. -/
theorem find?_eq_none_iff {t : Table} {key : String} : t.find? key = none ↔ key ∉ t.keys := by
  simp only [find?, keys]
  induction t.entries with
  | nil => simp
  | cons e es ih =>
    rcases e with ⟨k, s⟩
    rw [lookup_cons_eq, List.map_cons, List.mem_cons]
    by_cases hk : key = k
    · simp [hk]
    · simp [hk, ih]

/-- Taking records out leaves every other slot as it was. -/
@[simp] theorem find?_without (t : Table) (which : Record → Bool) (key : String) :
    (t.without which).find? key = (t.find? key).filter fun s => !s.holds which := by
  rcases t with ⟨entries, nodup, next⟩
  simp only [find?, without]
  clear next
  induction entries with
  | nil => simp
  | cons e es ih =>
    rcases e with ⟨k, s⟩
    rw [List.map_cons, List.nodup_cons] at nodup
    have ih := ih nodup.2
    by_cases hs : s.holds which
    · rw [List.filter_cons_of_neg (by simp [hs]), lookup_cons_eq, ih]
      by_cases hk : key = k
      · have hnone : es.lookup key = none :=
          find?_eq_none_iff (t := ⟨es, nodup.2, 1⟩).2 (hk ▸ nodup.1)
        simp [hk ▸ hnone, hk, hs, Option.filter]
      · simp [hk]
    · rw [List.filter_cons_of_pos (by simp [hs]), lookup_cons_eq, lookup_cons_eq, ih]
      by_cases hk : key = k <;> simp [hk, hs, Option.filter]

@[simp] theorem nextGeneration_without (t : Table) (which : Record → Bool) :
    (t.without which).nextGeneration = t.nextGeneration := rfl

@[simp] theorem nextGeneration_erase (t : Table) (key : String) :
    (t.erase key).nextGeneration = t.nextGeneration := rfl

@[simp] theorem nextGeneration_put (t : Table) (key : String) (slot : Slot) :
    (t.put key slot).nextGeneration = t.nextGeneration := rfl

@[simp] theorem nextGeneration_modify (t : Table) (key : String) (f : Record → Record) :
    (t.modify key f).nextGeneration = t.nextGeneration := rfl

@[simp] theorem find?_useGeneration (t : Table) (key : String) :
    t.useGeneration.find? key = t.find? key := rfl

@[simp] theorem nextGeneration_useGeneration (t : Table) :
    t.useGeneration.nextGeneration = t.nextGeneration + 1 := rfl

@[simp] theorem size_useGeneration (t : Table) : t.useGeneration.size = t.size := rfl

@[simp] theorem size_modify (t : Table) (key : String) (f : Record → Record) :
    (t.modify key f).size = t.size := by
  simp [size, modify]

/-- A walk finds exactly the records with the property that are under the names it visits. -/
theorem mem_recordsAlong {t : Table} {order : List String} {which : Record → Bool}
    {e : String × Record} :
    e ∈ t.recordsAlong order which ↔
      e.1 ∈ order ∧ t.find? e.1 = some (.live e.2) ∧ which e.2 = true := by
  rcases e with ⟨key, r⟩
  simp only [recordsAlong, List.mem_filterMap, Option.map_eq_some_iff, Option.filter_eq_some_iff,
    record?, Option.bind_eq_some_iff]
  constructor
  · rintro ⟨k, hk, r', ⟨⟨s, hs, hr⟩, hw⟩, he⟩
    cases he
    cases s <;> cases hr
    exact ⟨hk, hs, hw⟩
  · rintro ⟨hk, hs, hw⟩
    exact ⟨key, hk, r, ⟨⟨_, hs, rfl⟩, hw⟩, rfl⟩

/-! ### The oldest record -/

/-- The oldest record is one of the list. -/
theorem mem_of_oldest? {l : List (String × Record)} {e : String × Record}
    (h : oldest? l = some e) : e ∈ l := by
  induction l generalizing e with
  | nil => cases h
  | cons x xs ih =>
    rw [oldest?] at h
    split at h
    · cases h
      exact List.mem_cons_self
    · rename_i o ho
      split at h <;> cases h
      · exact List.mem_cons_of_mem _ (ih ho)
      · exact List.mem_cons_self

/-- There is an oldest record unless the list is empty. -/
theorem oldest?_eq_none_iff {l : List (String × Record)} : oldest? l = none ↔ l = [] := by
  cases l with
  | nil => simp [oldest?]
  | cons x xs =>
    rw [oldest?]
    split
    · simp
    · split <;> simp

/-- No record of the list has been unused for longer than the oldest. -/
theorem lastUsedAt_oldest?_le {l : List (String × Record)} {e x : String × Record}
    (h : oldest? l = some e) (hx : x ∈ l) : e.2.lastUsedAt ≤ x.2.lastUsedAt := by
  induction l generalizing e x with
  | nil => cases hx
  | cons y ys ih =>
    rw [oldest?] at h
    split at h
    · rename_i hnone
      cases h
      cases oldest?_eq_none_iff.1 hnone
      cases List.mem_singleton.1 hx
      exact Nat.le_refl _
    · rename_i o ho
      split at h <;> rename_i hlt <;> cases h
      · rcases List.mem_cons.1 hx with rfl | hx
        · exact Nat.le_of_lt hlt
        · exact ih ho hx
      · rcases List.mem_cons.1 hx with rfl | hx
        · exact Nat.le_refl _
        · exact Nat.le_trans (Nat.le_of_not_lt hlt) (ih ho hx)

end Table

end KeyedPool
