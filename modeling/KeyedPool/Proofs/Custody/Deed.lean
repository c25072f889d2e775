import KeyedPool.Proofs.Custody.Acquire

/-!
# Deeds

What is done to a pool from outside is one of a few things: a command is carried out, a lease ends,
an acquire is called, polled or given up, a connection changes under the hands of whoever uses it,
or a pruner writes down that it stops. Such a deed is a sequence of moves, but it says more than its
moves do: a record that is found dead leaves in a deed of an acquire of its own database, and the
move with which it leaves does not tell which acquire that is.

Between two deeds everything that has left the table is closed.

* `KeyedPool.Custody.Deed`: one thing is done.
* `KeyedPool.Custody.Deeds`: any number of deeds at one time of the clock.
* `KeyedPool.Custody.Deeds.moves`: a sequence of deeds is a sequence of moves.
* `KeyedPool.LeaseBook.deeds_keep`, `KeyedPool.LeaseBook.deeds_settle?`,
  `KeyedPool.LeaseBook.deeds_dropAll`: what is done to a book of leases.
-/

namespace KeyedPool

open Custody

namespace Custody

/-- **One thing is done to a pool.** -/
inductive Deed (now : Instant) : Custody → Custody → Prop
  /-- A command is carried out. A pruner in the background does what the command does. -/
  | command {p L O} (c : Command) : Deed now ⟨p, L, O, 0⟩ ⟨(p.execute now c).2, L, O, 0⟩
  /-- A lease ends. -/
  | settle {p L O} (l : Lease) (how : Disposal) :
    Deed now ⟨p, l ::ₘ L, O, 0⟩ ⟨p.settle l how, L, O, 0⟩
  /-- An acquire is called. -/
  | call {p L O} (plans : String → ConnectPlan) (r : Request) :
    Deed now ⟨p, L, O, 0⟩
      (Progress.custody Acquisition.holding Acquired.holding L O
        (Acquisition.start plans p now r))
  /-- An acquire that waits is polled. -/
  | poll {p L O} (plans : String → ConnectPlan) (a : Acquisition) :
    Deed now (a.holding.beside p L O)
      (Progress.custody Acquisition.holding Acquired.holding L O
        (Acquisition.poll plans p now a))
  /-- An acquire that waits is given up. -/
  | abandon {p L O} (a : Acquisition) :
    Deed now (a.holding.beside p L O) ⟨Acquisition.abandon p a, L, O, 0⟩
  /-- The flags of a connection change. -/
  | flags {p L O} (connection : Nat) (f : Handle → Handle)
      (hf : ∀ h, (f h).database = h.database ∧ (f h).closeCalls = h.closeCalls) :
    Deed now ⟨p, L, O, 0⟩ ⟨p.modifyHandle connection f, L, O, 0⟩
  /-- A pruner stops. -/
  | stop {p L O} : Deed now ⟨p, L, O, 0⟩ ⟨p.note .prunerStopped, L, O, 0⟩

variable {now : Instant} {s s' t t' u : Custody}

/-- A deed is a sequence of moves. -/
theorem Deed.moves (h : Deed now s t) : Moves now s t := by
  cases h with
  | command c => exact Pool.moves_execute c
  | settle l how => exact Pool.moves_settle l how
  | call plans r => exact Acquisition.moves_start plans r
  | poll plans a => exact Acquisition.moves_poll plans a
  | abandon a => exact Acquisition.moves_abandon a
  | flags connection f hf => exact .single (.flags connection f hf)
  | stop => exact .single (.remark .prunerStopped rfl)

/-- Any number of deeds at one time of the clock. -/
def Deeds (now : Instant) : Custody → Custody → Prop := Relation.ReflTransGen (Deed now)

namespace Deeds

theorem refl : Deeds now s s := Relation.ReflTransGen.refl

theorem single (h : Deed now s t) : Deeds now s t := Relation.ReflTransGen.single h

theorem trans (h : Deeds now s t) (h' : Deeds now t u) : Deeds now s u :=
  Relation.ReflTransGen.trans h h'

theorem head (h : Deed now s t) (h' : Deeds now t u) : Deeds now s u :=
  Relation.ReflTransGen.head h h'

/-- Deeds that lead to a state that may be written in another way. -/
theorem congr (h : Deeds now s t) (ht : t = t') : Deeds now s t' := ht ▸ h

/-- Deeds that start from a state that may be written in another way. -/
theorem of_eq (hs : s' = s) (h : Deeds now s t) : Deeds now s' t := hs ▸ h

/-- **A sequence of deeds is a sequence of moves.** -/
theorem moves (h : Deeds now s t) : Moves now s t := by
  induction h with
  | refl => exact .refl
  | tail _ hdeed ih => exact ih.trans hdeed.moves

/-- What holds before some deeds and not after them is lost in one of them. -/
theorem exists_deed {P : Custody → Prop} (h : Deeds now s t) (hs : P s) (ht : ¬P t) :
    ∃ u v, Deeds now s u ∧ Deed now u v ∧ Deeds now v t ∧ P u ∧ ¬P v := by
  induction h using Relation.ReflTransGen.head_induction_on with
  | refl => exact absurd hs ht
  | @head s u hdeed hdeeds ih =>
    by_cases hu : P u
    · obtain ⟨v, v', hv, hlast, hrest⟩ := ih hu
      exact ⟨v, v', hv.head hdeed, hlast, hrest⟩
    · exact ⟨s, u, .refl, hdeed, hdeeds, hs, hu⟩

end Deeds

end Custody

namespace LeaseBook

variable {now : Instant} {p : Pool} {L : Multiset Lease} {O : Multiset Opening} {b : LeaseBook}
  {label : String}

/-- To keep a lease ends the one that was kept under its label. -/
theorem deeds_keep (b : LeaseBook) (label : String) (l : Lease) :
    Deeds now ⟨p, l ::ₘ (↑b.leases + L), O, 0⟩
      ⟨(b.keep label l p).2, ↑(b.keep label l p).1.leases + L, O, 0⟩ := by
  have hput : (↑(b.put label l).leases : Multiset Lease) = l ::ₘ ↑(b.erase label).leases := by
    rw [leases_put, ← Multiset.coe_add, add_comm, Multiset.coe_singleton, Multiset.singleton_add]
  simp only [keep, hput]
  cases h : b.find? label with
  | none =>
    rw [erase_eq_self h, Multiset.cons_add]
    exact .refl
  | some old =>
    rw [Multiset.coe_eq_coe.mpr (leases_perm h), ← Multiset.cons_coe, Multiset.cons_add,
      Multiset.cons_swap, Multiset.cons_add]
    exact .single (.settle old .drop)

theorem moves_keep (b : LeaseBook) (label : String) (l : Lease) :
    Moves now ⟨p, l ::ₘ (↑b.leases + L), O, 0⟩
      ⟨(b.keep label l p).2, ↑(b.keep label l p).1.leases + L, O, 0⟩ :=
  (b.deeds_keep label l).moves

/-- To end a lease under a label is one deed. -/
theorem deeds_settle? {how : Disposal} {b' : LeaseBook} {p' : Pool}
    (h : b.settle? label how p = some (b', p')) :
    Deeds now ⟨p, ↑b.leases + L, O, 0⟩ ⟨p', ↑b'.leases + L, O, 0⟩ := by
  obtain ⟨l, hl, he⟩ := Option.map_eq_some_iff.mp h
  cases he
  rw [Multiset.coe_eq_coe.mpr (leases_perm hl), ← Multiset.cons_coe, Multiset.cons_add]
  exact .single (.settle l how)

theorem moves_settle? {how : Disposal} {b' : LeaseBook} {p' : Pool}
    (h : b.settle? label how p = some (b', p')) :
    Moves now ⟨p, ↑b.leases + L, O, 0⟩ ⟨p', ↑b'.leases + L, O, 0⟩ :=
  (deeds_settle? h).moves

/-- Leases are lost one after the other. -/
theorem deeds_foldr (ls : List Lease) :
    Deeds now ⟨p, ↑ls + L, O, 0⟩ ⟨ls.foldr (fun l p => p.settle l .drop) p, L, O, 0⟩ := by
  induction ls generalizing L with
  | nil => exact Deeds.refl.congr (congrArg (Custody.mk p · O 0) (zero_add L))
  | cons l ls ih =>
    rw [← Multiset.cons_coe, Multiset.cons_add, ← Multiset.add_cons]
    exact ih.trans (.single (.settle l .drop))

theorem moves_foldr (ls : List Lease) :
    Moves now ⟨p, ↑ls + L, O, 0⟩ ⟨ls.foldr (fun l p => p.settle l .drop) p, L, O, 0⟩ :=
  (deeds_foldr ls).moves

/-- To lose every lease of a book is to lose one after the other. -/
theorem deeds_dropAll (b : LeaseBook) :
    Deeds now ⟨p, ↑b.leases + L, O, 0⟩ ⟨b.dropAll p, L, O, 0⟩ :=
  deeds_foldr b.leases

end LeaseBook

end KeyedPool
