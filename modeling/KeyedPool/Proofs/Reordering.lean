import KeyedPool.Proofs.Closing
import Mathlib.Data.List.SplitBy

/-!
# Connections leave in any order

A walk over the table finds what has to leave the pool in an order that nobody knows, and closes it
in that order. Nothing depends on it but the order in which the closings are seen and written down.
For what is counted are numbers, to which it is the same in which order they grow, and a connection
is closed without a look at any other.

So two histories can be the same up to the order of closings that follow each other directly. This
is a relation between lists, generated by exchanging two neighbours, and it comes to the same as to
cut both lists into blocks of neighbours and to compare the blocks, each without its order.

* `KeyedPool.Reordered`: lists that are the same up to the order of neighbours.
* `KeyedPool.blocks`, `KeyedPool.Reordered.blocks_eq`: the blocks of a list, and that reordered
  lists have the same.
* `KeyedPool.Pool.partingTallies`, `KeyedPool.Pool.partingEntries`: what is counted and written down
  when a connection leaves.
* `KeyedPool.Pool.retireAll_accounts`: the same for connections that leave one after the other.
-/

namespace KeyedPool

section Lists

variable {α β : Type} {P : α → Bool} {Q : β → Bool} {l l' : List α}

/-- **Two lists are the same up to the order of neighbours** that have some property. -/
inductive Reordered (P : α → Bool) : List α → List α → Prop
  /-- They are equal. -/
  | refl (l : List α) : Reordered P l l
  /-- They are so after the same first element. -/
  | cons (a : α) {l l' : List α} (h : Reordered P l l') : Reordered P (a :: l) (a :: l')
  /-- Two neighbours have changed places. -/
  | swap {a b : α} (ha : P a = true) (hb : P b = true) (l : List α) :
    Reordered P (a :: b :: l) (b :: a :: l)
  /-- One is reordered after the other. -/
  | trans {l m n : List α} (h : Reordered P l m) (h' : Reordered P m n) : Reordered P l n

/-- **The blocks of a list**: neighbours that have some property, as many as there are in a row, in
no order; and everything else alone. -/
def blocks (P : α → Bool) (l : List α) : List (Multiset α) :=
  (l.splitBy fun a b => P a && P b).map Multiset.ofList

namespace Reordered

theorem append_left (m : List α) (h : Reordered P l l') : Reordered P (m ++ l) (m ++ l') := by
  induction m with
  | nil => exact h
  | cons a m ih => exact ih.cons a

/-- A block may be in any order. -/
theorem of_perm (h : l.Perm l') (hl : ∀ a ∈ l, P a = true) (m : List α) :
    Reordered P (l ++ m) (l' ++ m) := by
  induction h with
  | nil => exact .refl m
  | cons a _ ih => exact (ih fun b hb => hl b (List.mem_cons_of_mem a hb)).cons a
  | swap a b l => exact .swap (hl b (by simp)) (hl a (by simp)) (l ++ m)
  | trans h _ ih ih' => exact (ih hl).trans (ih' fun a ha => hl a (h.mem_iff.mpr ha))

/-- What is told of reordered lists is reordered, if what is told of neighbours may be. -/
theorem filterMap {f : α → Option β} (hf : ∀ a b, P a = true → f a = some b → Q b = true)
    (h : Reordered P l l') : Reordered Q (l.filterMap f) (l'.filterMap f) := by
  induction h with
  | refl l => exact .refl _
  | cons a _ ih =>
    rw [List.filterMap_cons, List.filterMap_cons]
    cases f a with
    | none => exact ih
    | some b => exact ih.cons b
  | @swap a b ha hb l =>
    simp only [List.filterMap_cons]
    cases hfa : f a <;> cases hfb : f b
    case some.some x y => exact .swap (hf a x ha hfa) (hf b y hb hfb) _
    all_goals exact .refl _
  | trans _ _ ih ih' => exact ih.trans ih'

/-- Reordered lists begin with neighbours, or neither does. -/
theorem any_head? (h : Reordered P l l') : l.head?.any P = l'.head?.any P := by
  induction h with
  | refl l => rfl
  | cons a _ _ => rfl
  | swap ha hb l => exact ha.trans hb.symm
  | trans _ _ ih ih' => exact ih.trans ih'

end Reordered

/-- The runs of a list that is longer by one. -/
theorem splitBy_cons_cons (r : α → α → Bool) (a b : α) (l : List α) :
    (a :: b :: l).splitBy r =
      if r a b then ((b :: l).splitBy r).modifyHead (a :: ·) else [a] :: (b :: l).splitBy r := by
  split
  · rename_i hab
    -- the runs of the shorter list stay as they are, but for the first, which begins with `b`
    obtain ⟨hflat, hne, hruns, hgaps⟩ := List.splitBy_eq_iff.mp (rfl : (b :: l).splitBy r = _)
    generalize (b :: l).splitBy r = gs at hflat hne hruns hgaps ⊢
    rcases gs with _ | ⟨_ | ⟨c, g⟩, gs⟩
    · cases hflat
    · exact absurd List.mem_cons_self hne
    · obtain ⟨rfl, -⟩ := List.cons.inj hflat
      refine List.splitBy_eq_iff.mpr ⟨congrArg (a :: ·) hflat, ?_, ?_, ?_⟩
      · simpa using hne
      · rintro m hm
        rcases List.mem_cons.mp hm with rfl | hm
        · exact List.isChain_cons_cons.mpr ⟨hab, hruns _ List.mem_cons_self⟩
        · exact hruns m (List.mem_cons_of_mem _ hm)
      · refine List.isChain_cons.mpr ⟨fun y hy => ?_, (List.isChain_cons.mp hgaps).2⟩
        obtain ⟨_, hy', hgap⟩ := (List.isChain_cons.mp hgaps).1 y hy
        exact ⟨List.cons_ne_nil _ _, hy', hgap⟩
  · rename_i hab
    exact List.splitBy_append_cons (l := [a]) l (by simpa using hab)

theorem blocks_cons (a : α) (l : List α) :
    blocks P (a :: l) =
      if P a && l.head?.any P then (blocks P l).modifyHead (a ::ₘ ·) else {a} :: blocks P l := by
  cases l with
  | nil => simp [blocks, List.splitBy_of_isChain]
  | cons b l =>
    rw [blocks, blocks, splitBy_cons_cons, List.head?_cons, Option.any_some]
    by_cases hab : (P a && P b) = true
    · rw [if_pos hab, if_pos hab]
      cases (b :: l).splitBy _ <;> rfl
    · rw [if_neg hab, if_neg hab]
      rfl

/-- **Reordered lists have the same blocks.** -/
theorem Reordered.blocks_eq (h : Reordered P l l') : blocks P l = blocks P l' := by
  induction h with
  | refl l => rfl
  | cons a h ih => rw [blocks_cons, blocks_cons, ih, h.any_head?]
  | @swap a b ha hb l =>
    simp only [blocks_cons, List.head?_cons, Option.any_some, ha, hb, Bool.and_self, if_true,
      Bool.true_and]
    split
    · cases blocks P l with
      | nil => rfl
      | cons g gs => exact congrArg (· :: gs) (Multiset.cons_swap a b g)
    · exact congrArg (· :: blocks P l) (Multiset.cons_swap a b 0)
  | trans _ _ ih ih' => exact ih.trans ih'

end Lists

/-! ### Connections leave in any order -/

/-- Whether an entry tells of a connection that leaves the pool. -/
def Entry.isParting : Entry → Bool
  | .removed .. => true
  | .closed .. => true
  | .closeFailed .. => true
  | _ => false

/-- Whether the outside sees that a connection is closed. -/
def OutsideEvent.isClose : OutsideEvent → Bool
  | .close .. => true
  | _ => false

theorem Entry.isClose_of_event? (e : Entry) (o : OutsideEvent) (he : e.isParting = true)
    (ho : e.event? = some o) : o.isClose = true := by
  cases e <;> cases he <;> cases ho <;> rfl

theorem Counters.record_comm (c : Counters) (t u : Tally) :
    (c.record t).record u = (c.record u).record t := by
  cases t <;> cases u <;> rfl

theorem Meters.record_comm (m : Meters) (t u : Tally) :
    (m.record t).record u = (m.record u).record t := by
  simp only [record, Counters.record_comm m.totals t u, Int.add_right_comm]

instance : RightCommutative Counters.record := ⟨Counters.record_comm⟩

instance : RightCommutative Meters.record := ⟨Meters.record_comm⟩

namespace Pool

variable {p : Pool} {d : Departure}

/-- What is counted when a connection leaves. -/
def partingTallies (p : Pool) (d : Departure) : List Tally :=
  d.why.tally?.toList ++ (p.handles[d.connection]?.map Handle.closingTally).toList

/-- What is written down when a connection leaves, the latest first. -/
def partingEntries (p : Pool) (d : Departure) : List Entry :=
  (p.handles[d.connection]?.map (·.closing d.database d.connection)).toList ++
    [.removed d.why d.database d.connection]

theorem retire_accounts (p : Pool) (d : Departure) :
    (p.retire d).2.counters = (p.partingTallies d).foldl Counters.record p.counters ∧
      (p.retire d).2.meters = (p.partingTallies d).foldl Meters.record p.meters ∧
      (p.retire d).2.history = p.partingEntries d ++ p.history := by
  cases hd : p.handles[d.connection]? with
  | some h =>
    rw [retire_eq hd, partingTallies, partingEntries, hd]
    cases d.why.tally? <;> exact ⟨rfl, rfl, rfl⟩
  | none =>
    -- nobody closes a connection that was never opened, but its removal is counted and told
    rw [retire, partingTallies, partingEntries, hd]
    cases d.why.tally? <;> simp [close, hd]

/-- A connection that leaves changes nothing for others that leave after it. -/
theorem closing_retire (c : Nat) {β : Type} {f : Handle → β} (hf : ∀ h, f h.close.2 = f h) :
    (p.retire d).2.handles[c]?.map f = p.handles[c]?.map f := by
  rw [getElem?_handles_retire]
  split
  · rw [Option.map_map]
    exact congrFun (congrArg _ (funext hf)) _
  · rfl

theorem partingTallies_retire (d' : Departure) :
    (p.retire d).2.partingTallies d' = p.partingTallies d' := by
  rw [partingTallies, closing_retire _ fun _ => rfl]
  rfl

theorem partingEntries_retire (d' : Departure) :
    (p.retire d).2.partingEntries d' = p.partingEntries d' := by
  rw [partingEntries, closing_retire _ fun _ => rfl]
  rfl

/-- **What is counted and written down** when connections leave one after the other. -/
theorem retireAll_accounts (p : Pool) (ds : List Departure) :
    (p.retireAll ds).2.counters = (ds.flatMap p.partingTallies).foldl Counters.record p.counters ∧
      (p.retireAll ds).2.meters = (ds.flatMap p.partingTallies).foldl Meters.record p.meters ∧
      (p.retireAll ds).2.history = ds.reverse.flatMap p.partingEntries ++ p.history := by
  induction ds generalizing p with
  | nil => exact ⟨rfl, rfl, rfl⟩
  | cons d ds ih =>
    obtain ⟨hcounters, hmeters, hhistory⟩ := retire_accounts p d
    obtain ⟨hcounters', hmeters', hhistory'⟩ := ih (p.retire d).2
    rw [funext partingTallies_retire] at hcounters' hmeters'
    rw [funext partingEntries_retire] at hhistory'
    refine ⟨?_, ?_, ?_⟩
    · rw [retireAll, hcounters', hcounters, List.flatMap_cons, List.foldl_append]
    · rw [retireAll, hmeters', hmeters, List.flatMap_cons, List.foldl_append]
    · rw [retireAll, hhistory', hhistory, List.reverse_cons, List.flatMap_append,
        List.flatMap_singleton, List.append_assoc]

theorem isParting_of_mem_partingEntries {e : Entry} (he : e ∈ p.partingEntries d) :
    e.isParting = true := by
  rcases List.mem_append.mp he with he | he
  · obtain ⟨h, -, rfl⟩ := by simpa using he
    rw [Handle.closing]
    split <;> rfl
  · cases List.mem_singleton.mp he
    rfl

end Pool

end KeyedPool
