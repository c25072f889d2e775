import KeyedPool.Proofs.Custody.Passage
import KeyedPool.Proofs.Veil.Acquire

/-!
# Two runs abreast

Two runs go abreast when they pass, at one time of the clock, through pools that are the same under
the veil. Whatever is done to both pools keeps them abreast, although one of them may close a
connection in vain that the other has closed. And the same is told in both of them, but for what the
veil hides: whether a connection is closed, whether everything could be closed, and how the closings
are divided into successes and failures.

The pools have to be those of two runs, and not just any, since the veil may spoil the answer to an
acquire or the end of a lease where a connection is in use that was closed before. In a run there is
no such connection (`KeyedPool.World.Passes.isIntact`,
`KeyedPool.World.Passes.unclosed_of_isMatched`).

* `KeyedPool.World.Abreast`: two runs on the way.
* `KeyedPool.Reply.Alike`: two replies that tell the same.
* `KeyedPool.World.Abreast.run`: a body does the same in both runs, by induction on its steps.
* `KeyedPool.World.Abreast.start`, `KeyedPool.World.Abreast.poll`,
  `KeyedPool.World.Abreast.abandon`: the jobs of tasks.
-/

namespace KeyedPool

open Custody

variable {now : Instant} {w w' : World} {s t s' t' : Custody} {p q : Pool}
  {L L' : Multiset Lease} {O O' : Multiset Opening} {l : Lease}

/-! ### What a run passes through is intact -/

namespace World.Passes

/-- **No connection on record was ever closed**, wherever a run is. -/
theorem isIntact (hs : w.Passes s) : s.pool.IsIntact := by
  intro k r hr h hh
  have huse : (k, r.connection) ∈ s.pool.table.connections + Opening.connections s.openings :=
    Multiset.mem_add.mpr (.inl (Table.mem_connections.mpr ⟨r, hr, rfl⟩))
  obtain ⟨h', hh', hcalls⟩ := hs.told.exists_open_handle hs.balanced huse
  rw [Option.some.inj (hh.symm.trans hh')]
  exact hcalls

/-- Nor was that of a lease whose record is still there. -/
theorem unclosed_of_isMatched (hs : w.Passes s) (hl : l ∈ s.leases)
    (hm : l.IsMatched s.pool.table) : s.pool.Unclosed l.connection := by
  obtain ⟨r, hr, hg⟩ := hm
  rw [(hs.exclusive.of_mem hl hr hg).2]
  exact hs.isIntact l.database r hr

end World.Passes

/-- **Two runs are abreast**: they pass through pools that are the same under the veil, at the same
time. -/
structure World.Abreast (now : Instant) (w w' : World) (s t : Custody) : Prop where
  /-- One run is there. -/
  left : w.Passes s
  /-- The other run is there. -/
  right : w'.Passes t
  /-- The time of the one. -/
  now_left : w.now = now
  /-- The time of the other. -/
  now_right : w'.now = now
  /-- The pools are the same under the veil. -/
  veil : s.pool.veil = t.pool.veil

/-! ### What is told -/

/-- **Two replies tell the same**, but for how closings went. -/
inductive Reply.Alike : Reply → Reply → Prop
  /-- They are equal. -/
  | same (r : Reply) : Alike r r
  /-- They tell of everything that was closed whether all of it gave in. -/
  | drained (success success' : Bool) : Alike (.drained success) (.drained success')
  /-- They tell counters that are the same under the veil. -/
  | counters {c c' : Counters} (h : c.veil = c'.veil) : Alike (.counters c) (.counters c')
  /-- They tell meters that are the same under the veil. -/
  | meters {m m' : Meters} (h : m.veil = m'.veil) :
    Alike (.meters m.exposition) (.meters m'.exposition)
  /-- They tell of a connection whether it is closed. -/
  | connection (number : Nat) (closed closed' broken : Bool) :
    Alike (.connection number closed broken) (.connection number closed' broken)

/-- A command is answered alike. -/
theorem Pool.execute_alike (h : p.veil = q.veil) (c : Command) :
    Reply.Alike (p.execute now c).1 (q.execute now c).1 := by
  have htable : p.table = q.table := table_eq_of_veil h
  cases c with
  | prune =>
    have hcount : (p.veil.prune now).1 = (q.veil.prune now).1 := by rw [h]
    rw [veil_prune, veil_prune] at hcount
    have hcount : (p.prune now).1 = (q.prune now).1 := hcount
    rw [execute, execute, hcount]
    exact .same _
  | evict =>
    have hname : p.veil.evict.1 = q.veil.evict.1 := by rw [h]
    rw [veil_evict, veil_evict] at hname
    have hname : p.evict.1 = q.evict.1 := hname
    rw [execute, execute, hname]
    exact .same _
  | closeAll => exact .drained _ _
  | resetCounters => exact .same _
  | counters =>
    have hcounters : p.veil.counters = q.veil.counters := by rw [h]
    exact .counters hcounters
  | meters =>
    have hmeters : p.veil.meters = q.veil.meters := by rw [h]
    exact .meters hmeters
  | size =>
    rw [execute, execute, htable]
    exact .same _
  | probe database =>
    rw [execute, execute, isBusy?, isBusy?, isPersistent?, isPersistent?, htable]
    exact .same _

/-- So is a look at a connection. -/
theorem Scope.inspection_alike (h : p.veil = q.veil) (c : Nat) :
    Reply.Alike (inspection p c) (inspection q c) := by
  rw [inspection, inspection]
  obtain ⟨hp, hq⟩ | ⟨x, y, hp, hq, hveil⟩ := Pool.handles_of_veil h c
  · rw [hp, hq]
    exact .same _
  · have hbroken : x.veil.broken = y.veil.broken := by rw [hveil]
    have hbroken : x.broken = y.broken := hbroken
    simp only [hp, hq, hbroken]
    exact .connection _ _ _ _

/-! ### Operations of a pool -/

namespace World.Abreast

/-- What is done in both runs leaves them abreast if the veil does not tell it apart. -/
theorem moves (h : Abreast now w w' s t) (hs : Moves now s s') (ht : Moves now t t')
    (hveil : s'.pool.veil = t'.pool.veil) : Abreast now w w' s' t' where
  left := h.left.moves (h.now_left ▸ hs)
  right := h.right.moves (h.now_right ▸ ht)
  now_left := h.now_left
  now_right := h.now_right
  veil := hveil

/-- A command is carried out. -/
theorem execute (h : Abreast now w w' ⟨p, L, O, 0⟩ ⟨q, L', O', 0⟩) (c : Command) :
    Abreast now w w' ⟨(p.execute now c).2, L, O, 0⟩ ⟨(q.execute now c).2, L', O', 0⟩ := by
  refine h.moves (Pool.moves_execute c) (Pool.moves_execute c) ?_
  have hveil : p.veil = q.veil := h.veil
  rw [Pool.veil_execute, hveil, ← Pool.veil_execute]

/-- The flags of a connection change, as they do under the veil. -/
theorem modifyHandle (h : Abreast now w w' ⟨p, L, O, 0⟩ ⟨q, L', O', 0⟩) (c : Nat)
    {f : Handle → Handle} (hf : ∀ x, (f x).database = x.database ∧ (f x).closeCalls = x.closeCalls)
    (hfveil : ∀ x, (f x).veil = f x.veil) :
    Abreast now w w' ⟨p.modifyHandle c f, L, O, 0⟩ ⟨q.modifyHandle c f, L', O', 0⟩ := by
  refine h.moves (.single (.flags c f hf)) (.single (.flags c f hf)) ?_
  have hveil : p.veil = q.veil := h.veil
  rw [Pool.veil_modifyHandle p c hfveil, hveil, ← Pool.veil_modifyHandle q c hfveil]

/-- **A lease ends.** -/
theorem settle (h : Abreast now w w' ⟨p, l ::ₘ L, O, 0⟩ ⟨q, l ::ₘ L', O', 0⟩) (how : Disposal) :
    Abreast now w w' ⟨p.settle l how, L, O, 0⟩ ⟨q.settle l how, L', O', 0⟩ :=
  h.moves (Pool.moves_settle l how) (Pool.moves_settle l how)
    (Pool.settle_alike h.veil how (h.left.unclosed_of_isMatched (Multiset.mem_cons_self l L))
      (h.right.unclosed_of_isMatched (Multiset.mem_cons_self l L')))

/-- Leases are lost one after the other. -/
theorem foldr {ls : List Lease} (h : Abreast now w w' ⟨p, ↑ls + L, O, 0⟩ ⟨q, ↑ls + L', O', 0⟩) :
    Abreast now w w' ⟨ls.foldr (fun l p => p.settle l .drop) p, L, O, 0⟩
      ⟨ls.foldr (fun l p => p.settle l .drop) q, L', O', 0⟩ := by
  induction ls generalizing L L' with
  | nil =>
    rw [Multiset.coe_nil, zero_add, zero_add] at h
    exact h
  | cons l ls ih =>
    rw [← Multiset.cons_coe, Multiset.cons_add, ← Multiset.add_cons, Multiset.cons_add,
      ← Multiset.add_cons] at h
    exact (ih h).settle .drop

variable {kept : LeaseBook}

/-- Every lease of a body ends. -/
theorem leave (h : Abreast now w w' ⟨p, ↑kept.leases + l ::ₘ L, O, 0⟩
      ⟨q, ↑kept.leases + l ::ₘ L', O', 0⟩) (how : Disposal) :
    Abreast now w w' ⟨(kept.dropAll p).settle l how, L, O, 0⟩
      ⟨(kept.dropAll q).settle l how, L', O', 0⟩ :=
  (foldr h).settle how

/-- A lease is kept, and one that was kept before may be lost. -/
theorem keep (h : Abreast now w w' ⟨p, l ::ₘ (↑kept.leases + L), O, 0⟩
      ⟨q, l ::ₘ (↑kept.leases + L'), O', 0⟩) (label : String) :
    Abreast now w w' ⟨(kept.keep label l p).2, ↑(kept.put label l).leases + L, O, 0⟩
      ⟨(kept.keep label l q).2, ↑(kept.put label l).leases + L', O', 0⟩ := by
  refine h.moves (kept.moves_keep label l) (kept.moves_keep label l) ?_
  simp only [LeaseBook.keep]
  cases hfind : kept.find? label with
  | none => exact h.veil
  | some old =>
    have hold {L : Multiset Lease} : old ∈ l ::ₘ (↑kept.leases + L) := by
      rw [Multiset.coe_eq_coe.mpr (LeaseBook.leases_perm hfind), ← Multiset.cons_coe]
      simp
    exact Pool.settle_alike h.veil .drop (h.left.unclosed_of_isMatched hold)
      (h.right.unclosed_of_isMatched hold)

/-- The lease under a label ends, if there is one. -/
theorem settle? (h : Abreast now w w' ⟨p, ↑kept.leases + L, O, 0⟩
      ⟨q, ↑kept.leases + L', O', 0⟩) (label : String) (how : Disposal) :
    (kept.settle? label how p = none ∧ kept.settle? label how q = none) ∨
    ∃ kept' p' q', kept.settle? label how p = some (kept', p') ∧
      kept.settle? label how q = some (kept', q') ∧
      Abreast now w w' ⟨p', ↑kept'.leases + L, O, 0⟩ ⟨q', ↑kept'.leases + L', O', 0⟩ := by
  rw [LeaseBook.settle?, LeaseBook.settle?]
  cases hfind : kept.find? label with
  | none => exact .inl ⟨rfl, rfl⟩
  | some l =>
    refine .inr ⟨_, _, _, rfl, rfl, ?_⟩
    rw [Multiset.coe_eq_coe.mpr (LeaseBook.leases_perm hfind), ← Multiset.cons_coe,
      Multiset.cons_add, Multiset.cons_add] at h
    exact h.settle how

end World.Abreast

/-! ### What takes time -/

/-- **Something that takes time is as far in one pool as in another**, and leaves them the same
under the veil. -/
inductive Progress.Alike {σ α : Type} (waits : σ → σ → Prop) (ends : α → α → Prop) :
    Progress σ α × Pool → Progress σ α × Pool → Prop
  /-- It waits in both. -/
  | waiting {s s' : σ} {p q : Pool} (hs : waits s s') (h : p.veil = q.veil) :
    Alike waits ends (.waiting s, p) (.waiting s', q)
  /-- It has ended in both. -/
  | finished {a a' : α} {p q : Pool} (ha : ends a a') (h : p.veil = q.veil) :
    Alike waits ends (.finished a, p) (.finished a', q)

/-- What is as far in both pools leaves them the same under the veil, whoever has what. -/
theorem Progress.Alike.veil_custody {σ α : Type} {R : σ → σ → Prop} {S : α → α → Prop}
    {x y : Progress σ α × Pool} {waits : σ → Holding} {ends : α → Holding} (h : Alike R S x y) :
    (Progress.custody waits ends L O x).pool.veil =
      (Progress.custody waits ends L' O' y).pool.veil := by
  cases h with
  | waiting _ hveil => exact hveil
  | finished _ hveil => exact hveil

/-- Two acquires that wait are alike if they are the same under the veil. -/
def Acquisition.Alike (a a' : Acquisition) : Prop := a.veil = a'.veil

/-- What is the same under the veil is as far. -/
theorem Acquisition.alike_of_map {x y : Progress Acquisition Acquired × Pool}
    (h : x.map (Progress.map veil) Pool.veil = y.map (Progress.map veil) Pool.veil) :
    Progress.Alike Alike Eq x y := by
  rcases x with ⟨a | a, p⟩ <;> rcases y with ⟨a' | a', q⟩ <;>
    obtain ⟨hfst, hsnd⟩ := Prod.mk.inj h
  · exact .waiting (Progress.waiting.inj hfst) hsnd
  · cases hfst
  · cases hfst
  · exact .finished (Progress.finished.inj hfst) hsnd

namespace World.Abreast

section Acquires

variable {plans plans' : String → ConnectPlan}

/-- **An acquire is called** in both runs. -/
theorem acquire (h : Abreast now w w' ⟨p, L, O, 0⟩ ⟨q, L', O', 0⟩)
    (hplans : ∀ k, (plans k).veil = (plans' k).veil) (r : Request) :
    Progress.Alike Acquisition.Alike Eq (Acquisition.start plans p now r)
      (Acquisition.start plans' q now r) ∧
    Abreast now w w'
      (Progress.custody Acquisition.holding Acquired.holding L O (Acquisition.start plans p now r))
      (Progress.custody Acquisition.holding Acquired.holding L' O'
        (Acquisition.start plans' q now r)) := by
  have hveil : p.veil = q.veil := h.veil
  -- what has expired is pruned first, by which the pools stay intact
  have hpruned := h.execute .prune
  have hp : (p.prune now).2.IsIntact := hpruned.left.isIntact
  have hq : (q.prune now).2.IsIntact := hpruned.right.isIntact
  have halike : Progress.Alike Acquisition.Alike Eq (Acquisition.start plans p now r)
      (Acquisition.start plans' q now r) := by
    refine Acquisition.alike_of_map ?_
    rw [← Acquisition.veil_start plans p now r hp, ← Acquisition.veil_start plans' q now r hq,
      hveil, funext hplans]
  exact ⟨halike, h.moves (Acquisition.moves_start plans r) (Acquisition.moves_start plans' r)
    halike.veil_custody⟩

/-- **An acquire that waits is polled** in both runs. -/
theorem pollAcquire {a a' : Acquisition}
    (h : Abreast now w w' (a.holding.beside p L O) (a'.holding.beside q L' O'))
    (hplans : ∀ k, (plans k).veil = (plans' k).veil) (ha : a.Alike a') :
    Progress.Alike Acquisition.Alike Eq (Acquisition.poll plans p now a)
      (Acquisition.poll plans' q now a') ∧
    Abreast now w w'
      (Progress.custody Acquisition.holding Acquired.holding L O (Acquisition.poll plans p now a))
      (Progress.custody Acquisition.holding Acquired.holding L' O'
        (Acquisition.poll plans' q now a')) := by
  have hveil : p.veil = q.veil := h.veil
  have hstage : a.veil = a'.veil := ha
  have hp : p.IsIntact := h.left.isIntact
  have hq : q.IsIntact := h.right.isIntact
  have halike : Progress.Alike Acquisition.Alike Eq (Acquisition.poll plans p now a)
      (Acquisition.poll plans' q now a') := by
    refine Acquisition.alike_of_map ?_
    rw [← Acquisition.veil_poll plans p now hp, ← Acquisition.veil_poll plans' q now hq, hveil,
      hstage, funext hplans]
  exact ⟨halike, h.moves (Acquisition.moves_poll plans a) (Acquisition.moves_poll plans' a')
    halike.veil_custody⟩

end Acquires

end World.Abreast

/-! ### Bodies -/

/-- What two bodies wait for. -/
inductive Pause.Alike : Pause → Pause → Prop
  /-- Both wait for the same instant. -/
  | asleep (wake : Instant) : Alike (.asleep wake) (.asleep wake)
  /-- Both wait for the same connection. -/
  | acquiring {a a' : Acquisition} (h : a.Alike a') (use : LeaseUse) :
    Alike (.acquiring a use) (.acquiring a' use)

/-- **Two bodies wait at the same point**, and have told the same. -/
structure Scope.Alike (s s' : Scope) : Prop where
  lease : s.lease = s'.lease
  kept : s.kept = s'.kept
  pause : s.pause.Alike s'.pause
  rest : s.rest = s'.rest
  told : List.Forall₂ Reply.Alike s.told s'.told

/-- **Two scopes have ended in the same way**, and have told the same. -/
inductive Concluded.Alike : Concluded → Concluded → Prop
  /-- Both ended with the same value. -/
  | value (value : Document) {told told' : List Reply} (h : List.Forall₂ Reply.Alike told told') :
    Alike (.value value told) (.value value told')
  /-- Both ended with the same error. -/
  | error (e : ScopeError) {told told' : List Reply} (h : List.Forall₂ Reply.Alike told told') :
    Alike (.error e told) (.error e told')
  /-- Both were torn down. -/
  | crashed (text : String) : Alike (.crashed text) (.crashed text)

namespace World.Abreast

section Bodies

variable {plans plans' : String → ConnectPlan} {kept : LeaseBook} {told told' : List Reply}

/-- The lease of a nested acquire ends or is kept, and the same is told of it; or the acquire tears
the body down. -/
theorem nested {acquired : Acquired}
    (h : Abreast now w w' (acquired.holding.beside p (↑kept.leases + L) O)
      (acquired.holding.beside q (↑kept.leases + L') O')) (use : LeaseUse) :
    (∃ reply kept' p' q', Scope.nested p kept use acquired = (.ok (reply, kept'), p') ∧
      Scope.nested q kept use acquired = (.ok (reply, kept'), q') ∧
      Abreast now w w' ⟨p', ↑kept'.leases + L, O, 0⟩ ⟨q', ↑kept'.leases + L', O', 0⟩) ∨
    ∃ text p' q', Scope.nested p kept use acquired = (.error text, p') ∧
      Scope.nested q kept use acquired = (.error text, q') ∧
      Abreast now w w' ⟨p', ↑kept.leases + L, O, 0⟩ ⟨q', ↑kept.leases + L', O', 0⟩ := by
  cases acquired with
  | lease l =>
    simp only [Acquired.holding, Holding.beside_lease] at h
    cases use with
    | ended disposal => exact .inl ⟨_, _, _, _, rfl, rfl, h.settle disposal⟩
    | kept label => exact .inl ⟨_, _, _, _, rfl, rfl, h.keep label⟩
  | failed e =>
    simp only [Acquired.holding, Holding.beside_none] at h
    exact .inl ⟨_, _, _, _, rfl, rfl, h⟩
  | crashed text =>
    simp only [Acquired.holding, Holding.beside_none] at h
    exact .inr ⟨_, _, _, rfl, rfl, h⟩

/-- **A body runs in both runs**, to the same point, and tells the same. -/
theorem run (hplans : ∀ k, (plans k).veil = (plans' k).veil) {ending : Ending}
    {steps : List BodyStep}
    (h : Abreast now w w' ⟨p, ↑kept.leases + l ::ₘ L, O, 0⟩ ⟨q, ↑kept.leases + l ::ₘ L', O', 0⟩)
    (htold : List.Forall₂ Reply.Alike told told') :
    Progress.Alike Scope.Alike Concluded.Alike (Scope.run plans now l ending steps kept told p)
      (Scope.run plans' now l ending steps kept told' q) := by
  induction steps generalizing kept told told' p q with
  | nil =>
    have hreverse := List.rel_reverse htold
    cases ending with
    | value value => exact .finished (.value value hreverse) (h.leave .release).veil
    | error e => exact .finished (.error e hreverse) (h.leave _).veil
    | crash text => exact .finished (.crashed text) (h.leave .drop).veil
  | cons step rest ih =>
    have hdone : List.Forall₂ Reply.Alike (.done :: told) (.done :: told') := .cons (.same _) htold
    cases step with
    | sleep ms => exact .waiting ⟨rfl, rfl, .asleep _, rfl, htold⟩ h.veil
    | breakConnection =>
      exact ih (h.modifyHandle l.connection (fun _ => ⟨rfl, rfl⟩) fun _ => rfl) hdone
    | hangUp =>
      exact ih (h.modifyHandle l.connection (fun _ => ⟨rfl, rfl⟩) fun _ => rfl) hdone
    | inspect => exact ih h (.cons (Scope.inspection_alike h.veil _) htold)
    | command c => exact ih (h.execute c) (.cons (Pool.execute_alike h.veil c) htold)
    | settle label disposal =>
      rw [Scope.run, Scope.run]
      obtain ⟨hp, hq⟩ | ⟨kept', p', q', hp, hq, h'⟩ := h.settle? label disposal
      · rw [hp, hq]
        exact ih h hdone
      · rw [hp, hq]
        exact ih h' hdone
    | acquire r use =>
      obtain ⟨halike, hafter⟩ := h.acquire hplans r
      rw [Scope.run, Scope.run]
      generalize Acquisition.start plans p now r = x at halike hafter ⊢
      generalize Acquisition.start plans' q now r = y at halike hafter ⊢
      cases halike with
      | waiting ha hveil => exact .waiting ⟨rfl, rfl, .acquiring ha use, rfl, htold⟩ hveil
      | finished ha hveil =>
        subst ha
        dsimp only
        obtain ⟨reply, kept', p', q', hp, hq, h'⟩ | ⟨text, p', q', hp, hq, h'⟩ := hafter.nested use
        · rw [hp, hq]
          exact ih h' (.cons (.same _) htold)
        · rw [hp, hq]
          exact .finished (.crashed text) (h'.leave .drop).veil

/-- **A body that waits is polled** in both runs. -/
theorem pollScope (hplans : ∀ k, (plans k).veil = (plans' k).veil) {sc sc' : Scope}
    (h : Abreast now w w' (sc.holding.beside p L O) (sc'.holding.beside q L' O'))
    (hsc : sc.Alike sc') :
    Progress.Alike Scope.Alike Concluded.Alike (Scope.poll plans p now sc)
      (Scope.poll plans' q now sc') := by
  rcases sc with ⟨l, kept, pause, rest, told⟩
  rcases sc' with ⟨l', kept', pause', rest', told'⟩
  obtain ⟨hl, hkept, hpause, hrest, htold⟩ := hsc
  cases hl
  cases hkept
  cases hrest
  rw [Scope.beside_holding, Scope.beside_holding] at h
  rw [Scope.poll, Scope.poll]
  cases hpause with
  | asleep wake =>
    have h : Abreast now w w' ⟨p, ↑kept.leases + l ::ₘ L, 0 + O, 0⟩
        ⟨q, ↑kept.leases + l ::ₘ L', 0 + O', 0⟩ := h
    dsimp only
    split
    · exact .waiting ⟨rfl, rfl, .asleep wake, rfl, htold⟩ h.veil
    · exact run hplans h (.cons (.same _) htold)
  | @acquiring a a' ha use =>
    have hacquire : Abreast now w w' (a.holding.beside p (↑kept.leases + l ::ₘ L) O)
        (a'.holding.beside q (↑kept.leases + l ::ₘ L') O') := by
      simpa [Scope.opening?, Holding.beside, Acquisition.holding] using h
    obtain ⟨halike, hafter⟩ := hacquire.pollAcquire hplans ha
    dsimp only
    generalize Acquisition.poll plans p now a = x at halike hafter ⊢
    generalize Acquisition.poll plans' q now a' = y at halike hafter ⊢
    cases halike with
    | waiting ha hveil => exact .waiting ⟨rfl, rfl, .acquiring ha use, rfl, htold⟩ hveil
    | finished ha hveil =>
      subst ha
      dsimp only
      obtain ⟨reply, kept', p', q', hp, hq, h'⟩ | ⟨text, p', q', hp, hq, h'⟩ := hafter.nested use
      · rw [hp, hq]
        exact run hplans h' (.cons (.same _) htold)
      · rw [hp, hq]
        exact .finished (.crashed text) (h'.leave .drop).veil

/-- An acquire that waits is given up in both runs. -/
theorem abandonAcquire {a a' : Acquisition}
    (h : Abreast now w w' (a.holding.beside p L O) (a'.holding.beside q L' O'))
    (ha : a.Alike a') :
    Abreast now w w' ⟨a.abandon p, L, O, 0⟩ ⟨a'.abandon q, L', O', 0⟩ := by
  refine h.moves (Acquisition.moves_abandon a) (Acquisition.moves_abandon a') ?_
  have hveil : p.veil = q.veil := h.veil
  have ha : a.veil = a'.veil := ha
  rw [Acquisition.veil_abandon, hveil, ha, ← Acquisition.veil_abandon]

/-- **A body is torn down** in both runs while it waits. -/
theorem abandonScope {sc sc' : Scope}
    (h : Abreast now w w' (sc.holding.beside p L O) (sc'.holding.beside q L' O'))
    (hsc : sc.Alike sc') :
    Abreast now w w' ⟨sc.abandon p, L, O, 0⟩ ⟨sc'.abandon q, L', O', 0⟩ := by
  rcases sc with ⟨l, kept, pause, rest, told⟩
  rcases sc' with ⟨l', kept', pause', rest', told'⟩
  obtain ⟨hl, hkept, hpause, hrest, htold⟩ := hsc
  cases hl
  cases hkept
  rw [Scope.beside_holding, Scope.beside_holding] at h
  cases hpause with
  | asleep wake =>
    have h : Abreast now w w' ⟨p, ↑kept.leases + l ::ₘ L, 0 + O, 0⟩
        ⟨q, ↑kept.leases + l ::ₘ L', 0 + O', 0⟩ := h
    rw [zero_add, zero_add] at h
    exact h.leave .drop
  | @acquiring a a' ha use =>
    have hacquire : Abreast now w w' (a.holding.beside p (↑kept.leases + l ::ₘ L) O)
        (a'.holding.beside q (↑kept.leases + l ::ₘ L') O') := by
      simpa [Scope.opening?, Holding.beside, Acquisition.holding] using h
    exact (hacquire.abandonAcquire ha).leave .drop

end Bodies

end World.Abreast

/-! ### Jobs -/

/-- Two tasks wait at the same point. -/
inductive PendingJob.Alike : PendingJob → PendingJob → Prop
  /-- Both acquire a lease to keep. -/
  | leasing {a a' : Acquisition} (h : a.Alike a') (label : String) :
    Alike (.leasing a label) (.leasing a' label)
  /-- Both acquire the lease of a scope. -/
  | entering {a a' : Acquisition} (h : a.Alike a') (errors : ErrorKind) (body : Body) :
    Alike (.entering a errors body) (.entering a' errors body)
  /-- Both are inside the body of a scope. -/
  | inside {sc sc' : Scope} (h : sc.Alike sc') : Alike (.inside sc) (.inside sc')

/-- **The same has come of two jobs.** -/
inductive JobResult.Alike : JobResult → JobResult → Prop
  /-- Their results are equal. -/
  | same (r : JobResult) : Alike r r
  /-- Their scopes have ended in the same way. -/
  | concluded {c c' : Concluded} (h : c.Alike c') : Alike (.concluded c) (.concluded c')

section Jobs

variable {plans plans' : String → ConnectPlan} {x y : Progress Acquisition Acquired × Pool}

/-- A lease to keep is kept in both pools. -/
theorem Job.keep_alike (h : Progress.Alike Acquisition.Alike Eq x y) (label : String) :
    Progress.Alike PendingJob.Alike JobResult.Alike (keep label x) (keep label y) := by
  cases h with
  | waiting ha hveil => exact .waiting (.leasing ha label) hveil
  | finished ha hveil =>
    rename_i acquired _ p q
    subst ha
    cases acquired with
    | lease l => exact .finished (.same _) hveil
    | failed e => exact .finished (.same _) hveil
    | crashed text => exact .finished (.same _) hveil

/-- A scope goes on as its body does. -/
theorem Job.proceed_alike {x y : Progress Scope Concluded × Pool}
    (h : Progress.Alike Scope.Alike Concluded.Alike x y) :
    Progress.Alike PendingJob.Alike JobResult.Alike (enter.proceed x) (enter.proceed y) := by
  cases h with
  | waiting hs hveil => exact .waiting (.inside hs) hveil
  | finished hc hveil => exact .finished (.concluded hc) hveil

namespace World.Abreast

/-- A scope begins in both runs once its acquire has ended. -/
theorem enter (hplans : ∀ k, (plans k).veil = (plans' k).veil)
    (h : Abreast now w w' (Progress.custody Acquisition.holding Acquired.holding L O x)
      (Progress.custody Acquisition.holding Acquired.holding L' O' y))
    (hxy : Progress.Alike Acquisition.Alike Eq x y) (errors : ErrorKind) (body : Body) :
    Progress.Alike PendingJob.Alike JobResult.Alike (Job.enter plans now errors body x)
      (Job.enter plans' now errors body y) := by
  cases hxy with
  | waiting ha hveil => exact .waiting (.entering ha errors body) hveil
  | finished ha hveil =>
    rename_i acquired _ p q
    subst ha
    cases acquired with
    | lease l =>
      simp only [Progress.custody, Acquired.holding, Holding.beside_lease] at h
      -- the body begins with an empty book
      have hbook : Abreast now w w' ⟨p, ↑({} : LeaseBook).leases + l ::ₘ L, O, 0⟩
          ⟨q, ↑({} : LeaseBook).leases + l ::ₘ L', O', 0⟩ := by
        rw [← zero_add (l ::ₘ L), ← zero_add (l ::ₘ L')] at h
        exact h
      exact Job.proceed_alike (run hplans hbook .nil)
    | failed e => exact .finished (.concluded (.error _ .nil)) hveil
    | crashed text => exact .finished (.same _) hveil

/-- **A job begins** in both runs. -/
theorem start (hplans : ∀ k, (plans k).veil = (plans' k).veil)
    (h : Abreast now w w' ⟨p, L, O, 0⟩ ⟨q, L', O', 0⟩) (j : Job) :
    Progress.Alike PendingJob.Alike JobResult.Alike (j.start plans p now)
      (j.start plans' q now) := by
  cases j with
  | lease r label => exact Job.keep_alike (h.acquire hplans r).1 label
  | scope r errors body =>
    obtain ⟨halike, hafter⟩ := h.acquire hplans r
    exact enter hplans hafter halike errors body

/-- **A job that waits is polled** in both runs. -/
theorem poll (hplans : ∀ k, (plans k).veil = (plans' k).veil) {j j' : PendingJob}
    (h : Abreast now w w' (j.holding.beside p L O) (j'.holding.beside q L' O'))
    (hj : j.Alike j') :
    Progress.Alike PendingJob.Alike JobResult.Alike (j.poll plans p now)
      (j'.poll plans' q now) := by
  cases hj with
  | leasing ha label => exact Job.keep_alike (pollAcquire h hplans ha).1 label
  | entering ha errors body =>
    obtain ⟨halike, hafter⟩ := pollAcquire h hplans ha
    exact enter hplans hafter halike errors body
  | inside hs =>
    rw [PendingJob.holding_inside, PendingJob.holding_inside] at h
    exact Job.proceed_alike (h.pollScope hplans hs)

/-- **A job is torn down** in both runs while it waits. -/
theorem abandon {j j' : PendingJob}
    (h : Abreast now w w' (j.holding.beside p L O) (j'.holding.beside q L' O'))
    (hj : j.Alike j') :
    Abreast now w w' ⟨j.abandon p, L, O, 0⟩ ⟨j'.abandon q, L', O', 0⟩ := by
  cases hj with
  | leasing ha label => exact h.abandonAcquire ha
  | entering ha errors body => exact h.abandonAcquire ha
  | inside hs =>
    rw [PendingJob.holding_inside, PendingJob.holding_inside] at h
    exact h.abandonScope hs

end World.Abreast

end Jobs

end KeyedPool
