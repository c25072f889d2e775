import KeyedPool.Proofs.Account
import KeyedPool.World
import Mathlib.Logic.Relation

/-!
# Custody

Every place in the table and every connection is in somebody's hands: an acquire keeps a place and
opens a connection for it, the table has connections on record, callers hold leases on them, and
some connections are on their way out, taken from the table but not closed yet. A state of custody
is a pool with all these claims on it.

Whatever happens to a pool is a sequence of small moves between such states, each of which hands one
thing over. The moves carry everything that is known when they happen – which record leaves and
why it may, for which request a connection is published – so that an invariant need only be checked
against them, and never against the code of an acquire or a scope.

* `KeyedPool.Opening`: an acquire that keeps a place, and how far it has come.
* `KeyedPool.Custody`: a pool and the claims on it.
* `KeyedPool.Custody.Move`: one thing is handed over.
* `KeyedPool.Custody.Moves`: any number of moves at one time of the clock.
-/

namespace KeyedPool

/-- How far an acquire that keeps a place has come. -/
inductive Opening.Stage where
  /-- It has asked for nothing yet. -/
  | kept
  /-- It has asked for a connection. -/
  | asked
  /-- Its connection is there. -/
  | opened (connection : Nat)
  /-- The startup hook of its connection runs. -/
  | starting (connection : Nat)
  /-- The startup hook of its connection has ended well. -/
  | fit (connection : Nat)

/-- An acquire that keeps a place. -/
structure Opening where
  /-- What it asks for. -/
  request : Request
  /-- How far it has come. -/
  stage : Opening.Stage

namespace Opening

/-- The database for which a place is kept. -/
def database (o : Opening) : String := o.request.database

/-- The connection that was opened for the place. -/
def connection? (o : Opening) : Option Nat :=
  match o.stage with
  | .kept => none
  | .asked => none
  | .opened connection => some connection
  | .starting connection => some connection
  | .fit connection => some connection

/-- The database to which a connection was asked for and has not come. -/
def asks? (o : Opening) : Option String :=
  match o.stage with
  | .asked => some o.database
  | _ => none

/-- The connection that was opened for the place, with its database. -/
def opened? (o : Opening) : Option (String × Nat) := o.connection?.map fun c => (o.database, c)

section Stages

variable (r : Request) (c : Nat)

@[simp] theorem database_mk (stage : Stage) : database ⟨r, stage⟩ = r.database := rfl

@[simp] theorem opened?_kept : opened? ⟨r, .kept⟩ = none := rfl

@[simp] theorem opened?_asked : opened? ⟨r, .asked⟩ = none := rfl

@[simp] theorem opened?_opened : opened? ⟨r, .opened c⟩ = some (r.database, c) := rfl

@[simp] theorem opened?_starting : opened? ⟨r, .starting c⟩ = some (r.database, c) := rfl

@[simp] theorem opened?_fit : opened? ⟨r, .fit c⟩ = some (r.database, c) := rfl

@[simp] theorem asks?_kept : asks? ⟨r, .kept⟩ = none := rfl

@[simp] theorem asks?_asked : asks? ⟨r, .asked⟩ = some r.database := rfl

@[simp] theorem asks?_opened : asks? ⟨r, .opened c⟩ = none := rfl

@[simp] theorem asks?_starting : asks? ⟨r, .starting c⟩ = none := rfl

@[simp] theorem asks?_fit : asks? ⟨r, .fit c⟩ = none := rfl

end Stages

theorem opened?_of_connection? {o : Opening} {c : Nat} (h : o.connection? = some c) :
    o.opened? = some (o.database, c) := by
  rw [opened?, h]
  rfl

/-- An acquire that has a connection asks for none. -/
theorem asks?_of_connection? {o : Opening} {c : Nat} (h : o.connection? = some c) :
    o.asks? = none := by
  rcases o with ⟨r, _ | _ | _ | _ | _⟩ <;> first | rfl | cases h

/-- An acquire that may publish its connection has one. -/
theorem connection?_of_fit {o : Opening} {c : Nat}
    (h : o.stage = .opened c ∧ o.request.startup = none ∨ o.stage = .fit c) :
    o.connection? = some c := by
  rcases h with ⟨hs, -⟩ | hs <;> rw [connection?, hs]

/-- The connections that were opened for acquires, with their databases. -/
def connections (O : Multiset Opening) : Multiset (String × Nat) := O.filterMap opened?

/-- The databases to which acquires ask for connections. -/
def asked (O : Multiset Opening) : Multiset String := O.filterMap asks?

/-- The databases for which places are kept. -/
def databases (O : Multiset Opening) : Multiset String := O.map database

section Cons

variable (o : Opening) (O : Multiset Opening)

@[simp] theorem connections_cons :
    connections (o ::ₘ O) = ↑o.opened?.toList + connections O := by
  rw [connections]
  cases h : o.opened? with
  | none => rw [Multiset.filterMap_cons_none _ _ h]; exact (zero_add _).symm
  | some c => rw [Multiset.filterMap_cons_some _ _ _ h]; exact (Multiset.singleton_add _ _).symm

@[simp] theorem asked_cons : asked (o ::ₘ O) = ↑o.asks?.toList + asked O := by
  rw [asked]
  cases h : o.asks? with
  | none => rw [Multiset.filterMap_cons_none _ _ h]; exact (zero_add _).symm
  | some k => rw [Multiset.filterMap_cons_some _ _ _ h]; exact (Multiset.singleton_add _ _).symm

@[simp] theorem databases_cons : databases (o ::ₘ O) = o.database ::ₘ databases O :=
  Multiset.map_cons ..

end Cons

theorem mem_databases_of_asked {O : Multiset Opening} {k : String} (h : k ∈ asked O) :
    k ∈ databases O := by
  obtain ⟨o, ho, hasks⟩ := (Multiset.mem_filterMap _ _).mp h
  refine Multiset.mem_map.mpr ⟨o, ho, ?_⟩
  rw [asks?] at hasks
  split at hasks
  · exact Option.some.inj hasks
  · cases hasks

theorem mem_databases_of_connection {O : Multiset Opening} {k : String} {c : Nat}
    (h : (k, c) ∈ connections O) : k ∈ databases O := by
  obtain ⟨o, ho, hopened⟩ := (Multiset.mem_filterMap _ _).mp h
  obtain ⟨c', -, heq⟩ := Option.map_eq_some_iff.mp hopened
  exact Multiset.mem_map.mpr ⟨o, ho, congrArg Prod.fst heq⟩

end Opening

/-- A connection that leaves, with its database. -/
def Departure.left (d : Departure) : String × Nat := (d.database, d.connection)

/-- A pool and the claims on it. -/
structure Custody where
  /-- The pool. -/
  pool : Pool
  /-- The leases that have not ended. -/
  leases : Multiset Lease
  /-- The acquires that keep a place. -/
  openings : Multiset Opening
  /-- The connections that have left the table and are not closed yet. -/
  leaving : Multiset Departure

/-- Whether an entry of the history concerns nobody's claims. -/
def Entry.isRemark : Entry → Bool
  | .opening .. => true
  | .waiting .. => true
  | .gaveUp .. => true
  | .pruned .. => true
  | .drained .. => true
  | .noScheduler => true
  | .prunerStopped => true
  | _ => false

/-- An entry of which no account takes notice but that of what is lost. -/
structure Entry.Quiet (e : Entry) : Prop where
  asks : e.asks? = none
  answers : e.answers? = none
  opens : e.opens? = none
  closes : e.closes? = none
  removes : e.removes? = none

theorem Entry.quiet_of_isRemark {e : Entry} (he : e.isRemark = true) : e.Quiet := by
  cases e <;> first | exact ⟨rfl, rfl, rfl, rfl, rfl⟩ | cases he

theorem Entry.loses?_of_isRemark {e : Entry} (he : e.isRemark = true) : e.loses? = none := by
  cases e <;> first | rfl | cases he

/-- Whether a record may leave the table for a reason, its lease apart. -/
def Removal.Allows (why : Removal) (now : Instant) (p : Pool) (openings : Multiset Opening)
    (database : String) (r : Record) : Prop :=
  match why with
  | .pruned => r.isPrunable now = true
  | .evicted => r.isReclaimable = true
  | .replaced => r.busy = false ∧ p.isHealthy r.connection = false
  | .drained => True
  | .displaced => ∃ o ∈ openings, o.database = database
  | _ => False

namespace Custody

/-- **One thing is handed over.** -/
inductive Move (now : Instant) : Custody → Custody → Prop
  /-- Something is written down that concerns no claim. -/
  | remark {p L O D} (e : Entry) (he : e.isRemark = true) :
    Move now ⟨p, L, O, D⟩ ⟨p.note e, L, O, D⟩
  /-- The table is walked. -/
  | walk {p L O D} : Move now ⟨p, L, O, D⟩ ⟨p.walked, L, O, D⟩
  /-- The counters go back to zero. -/
  | reset {p L O D} : Move now ⟨p, L, O, D⟩ ⟨p.resetCounters, L, O, D⟩
  /-- The flags of a connection change. -/
  | flags {p L O D} (connection : Nat) (f : Handle → Handle)
      (hf : ∀ h, (f h).database = h.database ∧ (f h).closeCalls = h.closeCalls) :
    Move now ⟨p, L, O, D⟩ ⟨p.modifyHandle connection f, L, O, D⟩
  /-- A record leaves the table, and its connection has to be closed. -/
  | leave {p L O D} (why : Removal) (database : String) (r : Record)
      (hr : p.table.find? database = some (.live r)) (hw : why.Allows now p O database r) :
    Move now ⟨p, L, O, D⟩
      ⟨p.withTable (p.table.erase database), L, O, ⟨why, database, r.connection⟩ ::ₘ D⟩
  /-- A connection that has left is closed. -/
  | close {p L O D} (d : Departure) : Move now ⟨p, L, O, d ::ₘ D⟩ ⟨(p.retire d).2, L, O, D⟩
  /-- A place is kept, if there is room for one more. -/
  | reserve {p L O D} (r : Request) (hr : p.table.find? r.database = none)
      (hroom : ∀ limit, p.settings.maxConnections = some limit → p.table.size < limit) :
    Move now ⟨p, L, O, D⟩
      ⟨p.withTable (p.table.put r.database .opening), L, ⟨r, .kept⟩ ::ₘ O, D⟩
  /-- A connection is asked for. By then everything that has left is closed. -/
  | ask {p L O} (r : Request) :
    Move now ⟨p, L, ⟨r, .kept⟩ ::ₘ O, 0⟩
      ⟨p.note (.connecting r.database), L, ⟨r, .asked⟩ ::ₘ O, 0⟩
  /-- The connection that was asked for will not come, and the place is given back. -/
  | unanswered {p L O D} (r : Request) :
    Move now ⟨p, L, ⟨r, .asked⟩ ::ₘ O, D⟩
      ⟨(p.note (.unconnected r.database)).giveUpOpening r.database, L, O, D⟩
  /-- The connection that was asked for is there. -/
  | connect {p L O D} (r : Request) (h : Handle) (hd : h.database = r.database)
      (hc : h.closeCalls = 0) :
    Move now ⟨p, L, ⟨r, .asked⟩ ::ₘ O, D⟩
      ⟨((p.addHandle h).note (.connected r.database p.handles.length)).tally .opened,
        L, ⟨r, .opened p.handles.length⟩ ::ₘ O, D⟩
  /-- The startup hook of a connection begins. -/
  | startHook {p L O D} (r : Request) (connection : Nat) (hr : r.startup.isSome = true) :
    Move now ⟨p, L, ⟨r, .opened connection⟩ ::ₘ O, D⟩
      ⟨p.note (.hookStarted connection), L, ⟨r, .starting connection⟩ ::ₘ O, D⟩
  /-- The startup hook of a connection ends well. -/
  | finishHook {p L O D} (r : Request) (connection : Nat) :
    Move now ⟨p, L, ⟨r, .starting connection⟩ ::ₘ O, D⟩
      ⟨p.note (.hookFinished connection), L, ⟨r, .fit connection⟩ ::ₘ O, D⟩
  /-- The place is given back, and the connection that was opened for it has to be closed. -/
  | abandon {p L O D} (r : Request) (connection : Nat) :
    Move now ⟨p, L, ⟨r, .starting connection⟩ ::ₘ O, D⟩
      ⟨p.giveUpOpening r.database, L, O, ⟨.abandoned, r.database, connection⟩ ::ₘ D⟩
  /-- A place becomes the record of its connection, under a new lease. -/
  | publish {p L O D} (o : Opening) (connection : Nat) (deadline : Instant)
      (ho : o.stage = .opened connection ∧ o.request.startup = none ∨ o.stage = .fit connection)
      (ht : now.after? o.request.ttl = some deadline)
      (hr : p.table.record? o.database = none) :
    Move now ⟨p, L, o ::ₘ O, D⟩
      ⟨(p.enroll o.database connection deadline now o.request.persistent).note
          (.published ⟨o.database, p.table.nextGeneration, connection⟩ now o.request.ttl
            o.request.persistent),
        ⟨o.database, p.table.nextGeneration, connection⟩ ::ₘ L, O, D⟩
  /-- A place and its connection are lost, since the deadline lies beyond the horizon. -/
  | lose {p L O D} (o : Opening) (connection : Nat) (ho : o.connection? = some connection)
      (ht : now.after? o.request.ttl = none) :
    Move now ⟨p, L, o ::ₘ O, D⟩
      ⟨p.skipGeneration.note (.lost o.database connection now o.request.ttl), L, O, D⟩
  /-- An idle, healthy connection is leased again. -/
  | reuse {p L O D} (database : String) (r : Record) (ttl : Duration) (deadline : Instant)
      (hr : p.table.find? database = some (.live r)) (hb : r.busy = false)
      (hh : p.isHealthy r.connection = true) (ht : now.after? ttl = some deadline) :
    Move now ⟨p, L, O, D⟩
      ⟨(p.withTable (p.table.modify database (Record.lease deadline now))).note
          (.reused ⟨database, r.generation, r.connection⟩ now ttl),
        ⟨database, r.generation, r.connection⟩ ::ₘ L, O, D⟩
  /-- A lease ends, and the healthy connection of its record is idle. -/
  | rest {p L O D} (l : Lease) (hh : p.isHealthy l.connection = true)
      (hm : (p.table.find? l.database).any (Pool.isGeneration l.generation) = true) :
    Move now ⟨p, l ::ₘ L, O, D⟩
      ⟨((p.note (.leaseEnded l .release)).withTable
            (p.table.modify l.database Record.rest)).note (.released l),
        L, O, D⟩
  /-- A lease ends whose healthy connection has left the table before. -/
  | depart {p L O D} (l : Lease) (hh : p.isHealthy l.connection = true)
      (hm : (p.table.find? l.database).any (Pool.isGeneration l.generation) = false) :
    Move now ⟨p, l ::ₘ L, O, D⟩ ⟨(p.note (.leaseEnded l .release)).note (.departed l), L, O, D⟩
  /-- A lease ends, and its record leaves the table. -/
  | discard {p L O D} (l : Lease) (how : Disposal) (why : Removal) (r : Record)
      (hw : how = .release ∧ p.isHealthy l.connection = false ∧ why = .broken ∨
        how ≠ .release ∧ why = .cancelled)
      (hr : p.table.find? l.database = some (.live r)) (hg : r.generation = l.generation) :
    Move now ⟨p, l ::ₘ L, O, D⟩
      ⟨(p.note (.leaseEnded l how)).withTable (p.table.erase l.database), L, O,
        ⟨why, l.database, r.connection⟩ ::ₘ D⟩
  /-- A lease ends that would have its record leave the table, but it is not there. -/
  | forget {p L O D} (l : Lease) (how : Disposal)
      (hw : how = .release ∧ p.isHealthy l.connection = false ∨ how ≠ .release)
      (hm : (p.table.find? l.database).any (Pool.isGeneration l.generation) = false) :
    Move now ⟨p, l ::ₘ L, O, D⟩ ⟨p.note (.leaseEnded l how), L, O, D⟩

/-- Any number of moves at one time of the clock. -/
def Moves (now : Instant) : Custody → Custody → Prop := Relation.ReflTransGen (Move now)

namespace Moves

variable {now : Instant} {s s' t t' u : Custody}

theorem refl : Moves now s s := Relation.ReflTransGen.refl

theorem single (h : Move now s t) : Moves now s t := Relation.ReflTransGen.single h

theorem trans (h : Moves now s t) (h' : Moves now t u) : Moves now s u :=
  Relation.ReflTransGen.trans h h'

theorem head (h : Move now s t) (h' : Moves now t u) : Moves now s u :=
  Relation.ReflTransGen.head h h'

theorem tail (h : Moves now s t) (h' : Move now t u) : Moves now s u :=
  Relation.ReflTransGen.tail h h'

/-- Moves to a state that may be written in another way. -/
theorem congr (h : Moves now s t) (ht : t = t') : Moves now s t' := ht ▸ h

/-- Moves from a state that may be written in another way. -/
theorem of_eq (hs : s' = s) (h : Moves now s t) : Moves now s' t := hs ▸ h

/-- What every move keeps, any number of them keeps. -/
theorem keeps {P : Custody → Prop} (hmove : ∀ {s t}, Move now s t → P s → P t)
    (h : Moves now s t) (hs : P s) : P t := by
  induction h with
  | refl => exact hs
  | tail _ hstep ih => exact hmove hstep ih

end Moves

end Custody

end KeyedPool
