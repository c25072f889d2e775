import KeyedPool.Proofs.Custody.Body
import KeyedPool.Proofs.Custody.Ending

/-!
# Cancellation is exact

A task may be torn down whenever it waits, and its body may crash at any step. What it has then goes
with it: the place that is kept for its acquire, the records of its leases, and the connections that
belong to them, each of which is closed once. Nothing else changes. A lease whose record is gone –
everything was closed in the meantime – has nothing to give up, whatever has been put in the place
of its record.

A task has things at several depths: the lease of its scope, the leases that the body keeps, and
the acquire for which the body waits. They are given up one after the other, and what is given up
first is no longer in the way of the rest (`KeyedPool.Pool.Relinquished.trans`).

* `KeyedPool.Slot.IsOwned`, `KeyedPool.Table.IsOwned`: what belongs to some leases and places.
* `KeyedPool.Pool.Relinquished`: just this is given up.
* `KeyedPool.World.Passes.relinquished_abandon`: a job that waits is torn down.
* `KeyedPool.World.Concludes.relinquished`: the leases of a body that crashes are lost, and nothing
  else goes, from the pool that the body leaves.
* `KeyedPool.World.Breaks.relinquished`: so it is with what an acquire has that crashes in a body.
* `KeyedPool.World.IsReachable.cancellation_exact`: what an event of either kind does to a world.
-/

namespace KeyedPool

open Custody

variable {w : World} {p p' q : Pool} {L L' : Multiset Lease} {O O' : Multiset Opening}
  {D : Multiset Departure} {l : Lease} {o : Opening} {t : Table} {k : String} {c : Nat}

/-! ### What is owned -/

/-- **A slot is owned** by whoever has some leases and some places, if it is one of the places or
the record of one of the leases. -/
def Slot.IsOwned (L : Multiset Lease) (O : Multiset Opening) (k : String) : Slot → Prop
  | .opening => ∃ o ∈ O, o.database = k
  | .live r => ∃ l ∈ L, l.database = k ∧ l.generation = r.generation

/-- **A connection is owned** with some leases and some places, if it was opened for one of the
places or is on record under one of the leases. -/
def Table.IsOwned (t : Table) (L : Multiset Lease) (O : Multiset Opening) (c : Nat) : Prop :=
  (∃ o ∈ O, o.connection? = some c) ∨
    ∃ k r, t.find? k = some (.live r) ∧ Slot.IsOwned L O k (.live r) ∧ r.connection = c

namespace Slot

variable {s : Slot}

theorem isOwned_add : s.IsOwned (L + L') (O + O') k ↔ s.IsOwned L O k ∨ s.IsOwned L' O' k := by
  cases s <;> simp [IsOwned, or_and_right, exists_or]

theorem not_isOwned_zero : ¬s.IsOwned 0 0 k := by
  cases s <;> simp [IsOwned]

theorem isOwned_lease :
    s.IsOwned {l} 0 k ↔ ∃ r, s = .live r ∧ l.database = k ∧ r.generation = l.generation := by
  cases s <;> simp [IsOwned, eq_comm]

theorem isOwned_opening : s.IsOwned 0 {o} k ↔ s = .opening ∧ o.database = k := by
  cases s <;> simp [IsOwned]

end Slot

namespace Table

theorem not_isOwned_zero : ¬t.IsOwned 0 0 c := by
  simp [IsOwned, Slot.not_isOwned_zero]

theorem isOwned_lease : t.IsOwned {l} 0 c ↔
    ∃ r, t.find? l.database = some (.live r) ∧ r.generation = l.generation ∧
      r.connection = c := by
  constructor
  · rintro (⟨o, ho, -⟩ | ⟨k, r, hr, howned, hc⟩)
    · cases ho
    · obtain ⟨_, heq, rfl, hg⟩ := Slot.isOwned_lease.mp howned
      cases heq
      exact ⟨r, hr, hg, hc⟩
  · rintro ⟨r, hr, hg, hc⟩
    exact .inr ⟨_, r, hr, Slot.isOwned_lease.mpr ⟨r, rfl, rfl, hg⟩, hc⟩

theorem isOwned_opening : t.IsOwned 0 {o} c ↔ o.connection? = some c := by
  simp [IsOwned, Slot.isOwned_opening]

end Table

namespace Pool

/-! ### What is given up -/

/-- **Some leases and some places are given up**, and just what belongs to them: their slots leave
the table, their connections are closed once, and everything else is as it was. -/
structure Relinquished (L : Multiset Lease) (O : Multiset Opening) (p q : Pool) : Prop where
  /-- The slots that are left are those that were not owned. -/
  slots : ∀ k s, q.table.find? k = some s ↔ p.table.find? k = some s ∧ ¬s.IsOwned L O k
  /-- The connections that were owned had not been closed, and are closed once. -/
  closed : ∀ c, p.table.IsOwned L O c →
    ∃ h, p.handles[c]? = some h ∧ h.closeCalls = 0 ∧ q.handles[c]? = some h.close.2
  /-- No other connection changes. -/
  spared : ∀ c, ¬p.table.IsOwned L O c → q.handles[c]? = p.handles[c]?

namespace Relinquished

/-- Who has nothing gives nothing up. -/
theorem of_none (htable : q.table = p.table) (hhandles : q.handles = p.handles) :
    Relinquished 0 0 p q := by
  refine ⟨fun k s => ?_, fun c hc => absurd hc Table.not_isOwned_zero, fun c _ => ?_⟩
  · rw [htable, and_iff_left Slot.not_isOwned_zero]
  · rw [hhandles]

/-- A slot that was owned is gone. -/
theorem find?_eq_none (h : Relinquished L O p q)
    (howned : ∀ s, p.table.find? k = some s → s.IsOwned L O k) : q.table.find? k = none := by
  refine Option.eq_none_iff_forall_ne_some.mpr fun s hs => ?_
  obtain ⟨hslot, hnot⟩ := (h.slots k s).mp hs
  exact hnot (howned s hslot)

/-- The connection of a record that was owned has been closed once. -/
theorem exists_closed {r : Record} (h : Relinquished L O p q)
    (hr : p.table.find? k = some (.live r)) (howned : Slot.IsOwned L O k (.live r)) :
    ∃ x, q.handles[r.connection]? = some x ∧ x.closeCalls = 1 := by
  obtain ⟨x, -, hcalls, hclosed⟩ := h.closed r.connection (.inr ⟨k, r, hr, howned, rfl⟩)
  exact ⟨x.close.2, hclosed, congrArg (· + 1) hcalls⟩

/-- What is owned in two parts belongs to the first, or to the second when the first is gone. -/
theorem isOwned_add (h : Relinquished L O p p') :
    p.table.IsOwned (L + L') (O + O') c ↔
      p.table.IsOwned L O c ∨ p'.table.IsOwned L' O' c := by
  constructor
  · rintro (⟨o, ho, hc⟩ | ⟨k, r, hr, howned, hc⟩)
    · exact (Multiset.mem_add.mp ho).imp (fun ho => .inl ⟨o, ho, hc⟩) fun ho => .inl ⟨o, ho, hc⟩
    · by_cases hfirst : Slot.IsOwned L O k (.live r)
      · exact .inl (.inr ⟨k, r, hr, hfirst, hc⟩)
      · exact .inr (.inr ⟨k, r, (h.slots k _).mpr ⟨hr, hfirst⟩,
          (Slot.isOwned_add.mp howned).resolve_left hfirst, hc⟩)
  · rintro ((⟨o, ho, hc⟩ | ⟨k, r, hr, howned, hc⟩) | (⟨o, ho, hc⟩ | ⟨k, r, hr, howned, hc⟩))
    · exact .inl ⟨o, Multiset.mem_add.mpr (.inl ho), hc⟩
    · exact .inr ⟨k, r, hr, Slot.isOwned_add.mpr (.inl howned), hc⟩
    · exact .inl ⟨o, Multiset.mem_add.mpr (.inr ho), hc⟩
    · exact .inr ⟨k, r, ((h.slots k _).mp hr).1, Slot.isOwned_add.mpr (.inr howned), hc⟩

/-- **What is given up in two steps is given up.** A connection that the first step closes is not
owned in the second, since that closes only what has never been closed. -/
theorem trans (h : Relinquished L O p p') (h' : Relinquished L' O' p' q) :
    Relinquished (L + L') (O + O') p q := by
  have hapart (c : Nat) (hc : p.table.IsOwned L O c) : ¬p'.table.IsOwned L' O' c := by
    intro hc'
    obtain ⟨x, -, -, hclosed⟩ := h.closed c hc
    obtain ⟨y, hy, hcalls, -⟩ := h'.closed c hc'
    rw [hclosed] at hy
    cases hy
    cases hcalls
  refine ⟨fun k s => ?_, fun c hc => ?_, fun c hc => ?_⟩
  · rw [h'.slots, h.slots, Slot.isOwned_add, not_or, and_assoc]
  · rcases h.isOwned_add.mp hc with hc | hc
    · obtain ⟨x, hx, hcalls, hclosed⟩ := h.closed c hc
      exact ⟨x, hx, hcalls, (h'.spared c (hapart c hc)).trans hclosed⟩
    · obtain ⟨x, hx, hcalls, hclosed⟩ := h'.closed c hc
      refine ⟨x, ?_, hcalls, hclosed⟩
      rw [← h.spared c fun hfirst => hapart c hfirst hc]
      exact hx
  · rw [h.isOwned_add, not_or] at hc
    rw [h'.spared c hc.2, h.spared c hc.1]

/-- What is left when one slot is erased that is all that is owned. -/
theorem slots_of_erase (howned : ∀ k' s, p.table.find? k' = some s → (s.IsOwned L O k' ↔ k' = k))
    (k' : String) (s : Slot) : (p.table.erase k).find? k' = some s ↔
      p.table.find? k' = some s ∧ ¬s.IsOwned L O k' := by
  rw [Table.find?_erase]
  split
  · rename_i heq
    exact ⟨nofun, fun h => absurd ((howned k' s h.1).mpr heq) h.2⟩
  · rename_i hne
    exact ⟨fun h => ⟨h, fun ho => hne ((howned k' s h).mp ho)⟩, And.left⟩

/-- **One slot is given up with its connection**, which has not been closed before. -/
theorem of_retire {d : Departure} {h : Handle} (hh : p.handles[d.connection]? = some h)
    (hcalls : h.closeCalls = 0)
    (howned : ∀ k s, p.table.find? k = some s → (s.IsOwned L O k ↔ k = d.database))
    (hconn : ∀ c, p.table.IsOwned L O c ↔ d.connection = c)
    (htable : p'.table = p.table.erase d.database) (hhandles : p'.handles = p.handles) :
    Relinquished L O p (p'.retire d).2 := by
  have hlt : d.connection < p.handles.length := (List.getElem?_eq_some_iff.mp hh).1
  have hclose : (p'.retire d).2.handles = p.handles.set d.connection h.close.2 := by
    rw [handles_retire (hhandles ▸ hh), hhandles]
  refine ⟨fun k s => ?_, fun c hc => ?_, fun c hc => ?_⟩
  · rw [table_retire, htable]
    exact slots_of_erase howned k s
  · obtain rfl := (hconn c).mp hc
    exact ⟨h, hh, hcalls, by rw [hclose, List.getElem?_set_self hlt]⟩
  · rw [hclose, List.getElem?_set_ne fun heq => hc ((hconn c).mpr heq)]

end Relinquished

end Pool

namespace World.Passes

/-! ### One thing is given up -/

/-- **A lease is lost:** its record leaves the table, if it is there. -/
theorem relinquished_settle (hs : w.Passes ⟨p, l ::ₘ L, O, D⟩) :
    Pool.Relinquished {l} 0 p (p.settle l .drop) := by
  simp only [Pool.settle]
  by_cases hm : l.IsMatched p.table
  · obtain ⟨r, hr, hg⟩ := hm
    have huse : (l.database, r.connection) ∈ p.table.connections + Opening.connections O :=
      Multiset.mem_add.mpr (.inl (Table.mem_connections.mpr ⟨r, hr, rfl⟩))
    obtain ⟨h, hh, hcalls⟩ := hs.told.exists_open_handle hs.balanced huse
    rw [Pool.discard_of_find? (p := p.note _) hr hg]
    refine .of_retire hh hcalls (fun k s hk => ?_) (fun c => ?_) rfl rfl
    · rw [Slot.isOwned_lease]
      constructor
      · rintro ⟨r', -, hl, -⟩
        exact hl.symm
      · rintro rfl
        exact ⟨r, Option.some.inj (hk.symm.trans hr), rfl, hg⟩
    · rw [Table.isOwned_lease]
      constructor
      · rintro ⟨r', hr', -, hc⟩
        cases hr.symm.trans hr'
        exact hc
      · intro hc
        exact ⟨r, hr, hg, hc⟩
  · rw [Pool.discard_of_not_isMatched (p := p.note _) hm]
    refine ⟨fun k s => (and_iff_left_of_imp fun hk howned => hm ?_).symm, fun c hc => ?_,
      fun c _ => rfl⟩
    · obtain ⟨r, rfl, rfl, hg⟩ := Slot.isOwned_lease.mp howned
      exact ⟨r, hk, hg⟩
    · obtain ⟨r, hr, hg, -⟩ := Table.isOwned_lease.mp hc
      exact absurd ⟨r, hr, hg⟩ hm

/-- **Leases are lost one after the other.** -/
theorem relinquished_foldr {ls : List Lease} (hs : w.Passes ⟨p, ↑ls + L, O, 0⟩) :
    Pool.Relinquished ↑ls 0 p (ls.foldr (fun l p => p.settle l .drop) p) := by
  induction ls generalizing L with
  | nil => exact .of_none rfl rfl
  | cons l ls ih =>
    have hfirst : (↑(l :: ls) : Multiset Lease) + L = ↑ls + (l ::ₘ L) := by
      rw [← Multiset.cons_coe, Multiset.cons_add, Multiset.add_cons]
    have hboth : (↑(l :: ls) : Multiset Lease) = ↑ls + {l} := by
      rw [← Multiset.cons_coe, add_comm, Multiset.singleton_add]
    rw [hfirst] at hs
    rw [hboth]
    exact (ih hs).trans (relinquished_settle (hs.moves (LeaseBook.moves_foldr ls)))

/-- The place of an acquire is the one slot that it owns. -/
theorem isOwned_opening_iff (hs : w.Passes ⟨p, L, o ::ₘ O, D⟩) {s : Slot}
    (hk : p.table.find? k = some s) : s.IsOwned 0 {o} k ↔ k = o.database := by
  have hopen : p.table.find? o.database = some .opening :=
    hs.balanced.find?_opening (Multiset.mem_cons_self o O)
  rw [Slot.isOwned_opening]
  constructor
  · rintro ⟨-, hd⟩
    exact hd.symm
  · rintro rfl
    exact ⟨Option.some.inj (hk.symm.trans hopen), rfl⟩

/-- **An acquire is given up:** its place leaves the table, and its connection is closed. -/
theorem relinquished_acquisition {a : Acquisition} (hs : w.Passes (a.holding.beside p L O)) :
    Pool.Relinquished 0 ↑a.opening?.toList p (a.abandon p) := by
  rcases a with ⟨r, since, stage⟩
  cases stage with
  | queued refusals wake => exact .of_none rfl rfl
  | connecting plan wake =>
    have hs : w.Passes ⟨p, L, ⟨r, .asked⟩ ::ₘ O, 0⟩ := Holding.beside_opening _ ▸ hs
    have hopen : p.table.find? r.database = some .opening :=
      hs.balanced.find?_opening (Multiset.mem_cons_self _ O)
    have hdropped : Acquisition.dropUnopened p r = _ :=
      Pool.giveUpOpening_eq (p := p.note (.unconnected r.database)) hopen
    refine ⟨fun k s => ?_, fun c hc => ?_, fun c _ => ?_⟩
    · simp only [Acquisition.abandon, hdropped]
      exact Pool.Relinquished.slots_of_erase (fun k s hk => hs.isOwned_opening_iff hk) k s
    · cases Table.isOwned_opening.mp hc
    · simp only [Acquisition.abandon, hdropped]
      rfl
  | starting connection hook wake =>
    have hs : w.Passes ⟨p, L, ⟨r, .starting connection⟩ ::ₘ O, 0⟩ := Holding.beside_opening _ ▸ hs
    have hopen : p.table.find? r.database = some .opening :=
      hs.balanced.find?_opening (Multiset.mem_cons_self _ O)
    have huse : (r.database, connection) ∈
        p.table.connections + Opening.connections (⟨r, .starting connection⟩ ::ₘ O) := by
      simp
    obtain ⟨h, hh, hcalls⟩ := hs.told.exists_open_handle hs.balanced huse
    simp only [Acquisition.abandon, Acquisition.dropOpened, Pool.giveUpOpening_eq hopen]
    exact .of_retire hh hcalls (fun k s hk => hs.isOwned_opening_iff hk)
      (fun c => Table.isOwned_opening.trans Option.some_inj) rfl rfl

/-! ### A body and a job are given up -/

/-- **A body is torn down:** what it waits for first, then the leases that it keeps, and its own one
last. -/
theorem relinquished_scope {sc : Scope} (hs : w.Passes (sc.holding.beside p L O)) :
    Pool.Relinquished ↑sc.leases ↑sc.opening?.toList p (sc.abandon p) := by
  rcases sc with ⟨l, kept, pause, rest, told⟩
  cases pause with
  | asleep wake =>
    have hs : w.Passes ⟨p, ↑(l :: kept.leases) + L, 0 + O, 0⟩ := hs
    exact relinquished_foldr hs
  | acquiring a use =>
    have hs : w.Passes ⟨p, ↑(l :: kept.leases) + L, ↑a.opening?.toList + O, 0⟩ := hs
    -- the leases of the body are beside its acquire until that is given up
    have hacquire : w.Passes (a.holding.beside p (↑(l :: kept.leases) + L) O) := by
      simpa [Holding.beside, Acquisition.holding] using hs
    have hleases : w.Passes ⟨a.abandon p, ↑(l :: kept.leases) + L, O, 0⟩ :=
      hacquire.moves (Acquisition.moves_abandon a)
    have hboth := (relinquished_acquisition hacquire).trans (relinquished_foldr hleases)
    rw [zero_add, add_zero] at hboth
    exact hboth

/-- **A job is torn down.** -/
theorem relinquished_abandon {j : PendingJob} (hs : w.Passes (j.holding.beside p L O)) :
    Pool.Relinquished ↑j.leases ↑j.opening?.toList p (j.abandon p) := by
  cases j with
  | leasing a label => exact relinquished_acquisition hs
  | entering a errors body => exact relinquished_acquisition hs
  | inside sc =>
    have hopening : PendingJob.opening? (.inside sc) = sc.opening? :=
      congrArg Holding.opening? (PendingJob.holding_inside sc)
    rw [PendingJob.holding_inside] at hs
    rw [hopening]
    exact relinquished_scope hs

end World.Passes

/-- An acquire without a place is given up without a trace. -/
theorem Acquisition.abandon_eq_self {a : Acquisition} (h : a.opening? = none) :
    a.abandon p = p := by
  rcases a with ⟨r, since, _ | _ | _⟩
  · rfl
  · cases h
  · cases h

/-- So is a job that has nothing. -/
theorem PendingJob.abandon_eq_self {j : PendingJob} (hleases : j.leases = [])
    (hnone : j.opening? = none) : j.abandon p = p := by
  cases j with
  | leasing a label => exact Acquisition.abandon_eq_self hnone
  | entering a errors body => exact Acquisition.abandon_eq_self hnone
  | inside sc => cases hleases

/-! ### An acquire crashes -/

/-- Only a deadline beyond the horizon keeps a connection from being published. -/
theorem Acquisition.after?_eq_none_of_publish {now : Instant} {r : Request} {text : String}
    (h : publish p now r c = (.crashed text, q)) : now.after? r.ttl = none := by
  rw [publish, Pool.publish] at h
  cases hlate : now.after? r.ttl with
  | none => rfl
  | some deadline =>
    simp only [hlate] at h
    cases h

namespace World.Passes

variable {plans : String → ConnectPlan} {r : Request} {text : String}

/-- **A startup hook crashes:** the place of its acquire leaves the table, and its connection is
closed. -/
theorem relinquished_hook {hook : HookPlan} (hs : w.Passes ⟨p, L, ⟨r, .starting c⟩ ::ₘ O, 0⟩)
    (hshown : w.now.after? r.ttl ≠ none)
    (h : Acquisition.endHook p w.now r c hook = (.crashed text, q)) :
    Pool.Relinquished 0 {⟨r, .starting c⟩} (Acquisition.hookBrink p c hook) q := by
  have hflags : w.Passes ⟨Acquisition.hookBrink p c hook, L, ⟨r, .starting c⟩ ::ₘ O, 0⟩ :=
    hs.move (.flags c _ fun _ => ⟨rfl, rfl⟩)
  rw [Acquisition.endHook] at h
  split at h
  · cases h
    let a : Acquisition := ⟨r, w.now, .starting c hook w.now⟩
    have hacquire : w.Passes (a.holding.beside (Acquisition.hookBrink p c hook) L O) :=
      Holding.beside_opening _ ▸ hflags
    exact relinquished_acquisition hacquire
  · cases h
  · exact absurd (Acquisition.after?_eq_none_of_publish h) hshown

/-- **Opening a connection crashes**, or the hook on it does. -/
theorem relinquished_connect {plan : ConnectPlan} (hs : w.Passes ⟨p, L, ⟨r, .asked⟩ ::ₘ O, 0⟩)
    (hshown : w.now.after? r.ttl ≠ none)
    (h : Acquisition.endConnect p w.now r plan = (.finished (.crashed text), q)) :
    Pool.Relinquished 0 ↑(Acquisition.connectBrink p r plan).1.toList
      (Acquisition.connectBrink p r plan).2 q := by
  have hpair {x : Acquired × Pool}
      (hx : ((.finished x.1, x.2) : Progress Stage Acquired × Pool) =
        (.finished (.crashed text), q)) : x = (.crashed text, q) := by
    obtain ⟨hresult, hpool⟩ := Prod.ext_iff.mp hx
    exact Prod.ext (Progress.finished.inj hresult) hpool
  rw [Acquisition.endConnect] at h
  split at h
  · rename_i hplan
    cases h
    let a : Acquisition := ⟨r, w.now, .connecting plan w.now⟩
    have hacquire : w.Passes (a.holding.beside p L O) := Holding.beside_opening _ ▸ hs
    simp only [Acquisition.connectBrink, hplan]
    exact relinquished_acquisition hacquire
  · cases h
  · rename_i closed broken failClose hplan
    let fresh : Handle := { database := r.database, closed, broken, failClose }
    have hconnected := hs.move (.connect r fresh rfl rfl)
    dsimp only at h
    split at h
    · exact absurd (Acquisition.after?_eq_none_of_publish (hpair h)) hshown
    · rename_i hook hsome
      have hstarted := hconnected.move (.startHook r _ (hsome ▸ rfl))
      split at h
      · simp only [Acquisition.connectBrink, hplan, hsome]
        exact relinquished_hook hstarted hshown (hpair h)
      · cases h

/-- **An attempt crashes**, with all that follows from it at the same time. -/
theorem relinquished_attempt {since : Instant} {refusals : List Instant}
    (hs : w.Passes ⟨p, L, O, 0⟩) (hshown : w.now.after? r.ttl ≠ none)
    (h : Acquisition.attempt plans p w.now r since refusals = (.finished (.crashed text), q)) :
    Pool.Relinquished 0 ↑(Acquisition.attemptBrink plans p w.now r).1.toList
      (Acquisition.attemptBrink plans p w.now r).2 q := by
  have hattempt : Moves w.now ⟨p, L, O, 0⟩ _ := Pool.moves_attempt r
  rw [Acquisition.attempt] at h
  rw [Acquisition.attemptBrink]
  split at h <;> rename_i heq <;> rw [heq] at hattempt ⊢
  · cases h
  · rename_i p'
    have hkept : w.Passes ⟨p', L, ⟨r, .kept⟩ ::ₘ O, 0⟩ := hs.moves (hattempt.congr (by simp))
    have hasked := (hkept.move (.remark (.opening r.database) rfl)).move (.ask r)
    rw [Acquisition.beginConnect] at h
    split at h
    · exact relinquished_connect hasked hshown h
    · cases h
  · rw [Acquisition.refuse] at h
    dsimp only at h
    split at h <;> cases h
  · cases h
    exact .of_none rfl rfl

/-- **An acquire that crashes as soon as it is called** gives up what it has on its brink. -/
theorem relinquished_start (hs : w.Passes ⟨p, L, O, 0⟩) (hshown : w.now.after? r.ttl ≠ none)
    (h : Acquisition.start plans p w.now r = (.finished (.crashed text), q)) :
    Pool.Relinquished 0 ↑(Acquisition.startBrink plans p w.now r).1.toList
      (Acquisition.startBrink plans p w.now r).2 q :=
  relinquished_attempt (hs.moves Pool.moves_prune) hshown (Acquisition.eq_of_resume h)

/-- **An acquire that crashes when it is polled** gives up what it has on its brink. -/
theorem relinquished_poll {a : Acquisition} (hs : w.Passes (a.holding.beside p L O))
    (hshown : w.now.after? a.request.ttl ≠ none)
    (h : Acquisition.poll plans p w.now a = (.finished (.crashed text), q)) :
    Pool.Relinquished 0 ↑(Acquisition.pollBrink plans p w.now a).1.toList
      (Acquisition.pollBrink plans p w.now a).2 q := by
  rcases a with ⟨r, since, stage⟩
  rw [Acquisition.poll] at h
  split at h
  · cases h
  · cases stage with
    | queued refusals wake =>
      have hs : w.Passes ⟨p, L, O, 0⟩ := Holding.beside_none ▸ hs
      exact relinquished_attempt hs hshown (Acquisition.eq_of_resume h)
    | connecting plan wake =>
      have hs : w.Passes ⟨p, L, ⟨r, .asked⟩ ::ₘ O, 0⟩ := Holding.beside_opening _ ▸ hs
      exact relinquished_connect hs hshown (Acquisition.eq_of_resume h)
    | starting connection hook wake =>
      have hs : w.Passes ⟨p, L, ⟨r, .starting connection⟩ ::ₘ O, 0⟩ :=
        Holding.beside_opening _ ▸ hs
      obtain ⟨hresult, hpool⟩ := Prod.ext_iff.mp h
      exact relinquished_hook hs hshown (Prod.ext (Progress.finished.inj hresult) hpool)

/-- **Every lease of a body is lost:** those that it keeps, and then its own one. -/
theorem relinquished_leases {kept : LeaseBook} (hs : w.Passes ⟨p, l ::ₘ (↑kept.leases + L), O, 0⟩) :
    Pool.Relinquished ↑(l :: kept.leases) 0 p ((kept.dropAll p).settle l .drop) := by
  have hs : w.Passes ⟨p, ↑(l :: kept.leases) + L, O, 0⟩ := by
    rwa [← Multiset.cons_coe, Multiset.cons_add]
  exact relinquished_foldr hs

end World.Passes

/-! ### Events -/

namespace World

/-- An acquire that crashes in a body gives up what it has on its brink. -/
theorem Breaks.relinquished {e : Event} {r : Request} {text : String} {kept : LeaseBook}
    {brink : Option Opening × Pool} (hw : w.IsReachable)
    (h : w.Breaks e l r text kept brink q) (hshown : w.now.after? r.ttl ≠ none) :
    Pool.Relinquished 0 ↑brink.1.toList brink.2 q := by
  cases h with
  | called hat h =>
    exact (hat.passes hw).relinquished_start hshown h
  | polled he ht h =>
    have hacquire := hw.passes_acquiring ht
    simp only [Holding.beside, ← Multiset.add_cons] at hacquire
    exact hacquire.relinquished_poll hshown h

/-- A scope that crashes in a pool gives up the leases that it has there. -/
theorem Concludes.relinquished {e : Event} {c : Concluded} {kept : LeaseBook}
    (h : w.Concludes e c ((kept.dropAll p).settle l .drop))
    (hs : w.Passes ⟨p, l ::ₘ (↑kept.leases + (w.others e).custody.leases),
      (w.others e).custody.openings, 0⟩) :
    let v := (w.step e).2
    w.Concludes e c v.pool ∧
      w.Passes ⟨p, ↑(l :: kept.leases) + v.custody.leases, v.custody.openings, 0⟩ ∧
      Pool.Relinquished ↑(l :: kept.leases) 0 p v.pool := by
  intro v
  have hpool : v.pool = (kept.dropAll p).settle l .drop := h.pool
  rw [hpool, ← Multiset.cons_coe, Multiset.cons_add, show v.custody = _ from h.custody_eq]
  exact ⟨h, hs, hs.relinquished_leases⟩

/-- **Cancellation is exact** in every reachable world.

A task that waits may be torn down, wherever it waits. Its place leaves the table, and so do the
records of the leases that it holds; every connection that belongs to them is closed once and no
other; and all other slots, connections, leases and tasks are as they were. A task that only waits
to be admitted leaves the whole pool as it was.

A body that crashes does the same in the pool in which it crashes. It may crash at its end: then it
gives up the leases that it has there. Or an acquire in it may crash, when its connection cannot be
opened or its startup hook has run: then what the acquire has on its brink is given up as well. If
the clock cannot show the deadline of the acquire, this need not be so, and only the leases are
given up. Nothing else brings the body of a task to a crash. -/
theorem IsReachable.cancellation_exact (hw : w.IsReachable) :
    (∀ t ∈ w.tasks, let v := (w.step (.abort t.ticket)).2
      Pool.Relinquished ↑t.job.leases ↑t.job.opening?.toList w.pool v.pool ∧
      v.leases = w.leases ∧ v.tasks = w.tasks.filter (·.ticket != t.ticket) ∧
      (t.job.leases = [] → t.job.opening? = none → v.pool = w.pool)) ∧
    (∀ e l text kept told p, w.BodyAt e l ⟨[], .crash text⟩ kept told p →
      let v := (w.step e).2
      w.Concludes e (.crashed text) v.pool ∧
      w.Passes ⟨p, ↑(l :: kept.leases) + v.custody.leases, v.custody.openings, 0⟩ ∧
      Pool.Relinquished ↑(l :: kept.leases) 0 p v.pool) ∧
    (∀ e l r text kept brink p, w.Breaks e l r text kept brink p →
      let v := (w.step e).2
      w.Concludes e (.crashed text) v.pool ∧
      w.Passes ⟨p, ↑(l :: kept.leases) + v.custody.leases, v.custody.openings, 0⟩ ∧
      Pool.Relinquished ↑(l :: kept.leases) 0 p v.pool ∧
      (w.now.after? r.ttl ≠ none →
        Pool.Relinquished ↑(l :: kept.leases) ↑brink.1.toList brink.2 v.pool)) ∧
    ∀ e n text, (w.step e).1 = .finished n (.concluded (.crashed text)) →
      ∃ l, (∃ kept told p, w.BodyAt e l ⟨[], .crash text⟩ kept told p) ∨
        ∃ r kept brink p, w.Breaks e l r text kept brink p := by
  refine ⟨?_, fun e l text kept told p hat => ?_, fun e l r text kept brink p hbreaks => ?_,
    fun e n text => crashed_of_answer⟩
  · intro t ht v
    have hfind : w.task? t.ticket = some t := hw.tidy.task?_of_mem ht
    have hv : v = { w with pool := t.job.abandon w.pool }.withoutTask t.ticket := by
      simp only [v, step, abortTask, hfind]
    have hs : w.Passes w.custody := .rest hw
    rw [custody_of_perm (hw.tidy.tasks_perm hfind)] at hs
    clear_value v
    subst hv
    exact ⟨hs.relinquished_abandon, rfl, rfl, PendingJob.abandon_eq_self⟩
  · exact hat.concludes.relinquished (hat.passes hw)
  · obtain ⟨hconcludes, hpasses, hgiven⟩ := hbreaks.concludes.relinquished (hbreaks.passes hw)
    refine ⟨hconcludes, hpasses, hgiven, fun hshown => ?_⟩
    -- first the acquire gives up what it has, then the body its leases
    have hboth := (hbreaks.relinquished hw hshown).trans hgiven
    rwa [zero_add, add_zero] at hboth

/-- A task is torn down while its body holds a lease and waits for another connection: both slots
leave the table, and the connection of the lease is closed. So it is with the lease of a body that
crashes when its connection is no longer in order. -/
theorem IsReachable.cancellation_exact_nested :
    let r (k : String) : Request := { database := k, ttl := ⟨5⟩ }
    let w := (World.init {} false).after
      [.plan "b" { delay := 3 },
        .start (.scope (r "a") .any ⟨[.acquire (r "b") (.kept "inner")], .value .null⟩)]
    let v := (w.step (.abort 0)).2
    let crash := (World.init {} false).step
      (.start (.scope (r "a") .any ⟨[.hangUp], .crash "lost"⟩))
    ((∃ t, w.tasks = [t] ∧ t.job.leases = [⟨"a", 1, 0⟩] ∧
        t.job.opening? = some ⟨r "b", .asked⟩) ∧
      (∀ k, v.pool.table.find? k = none) ∧
      ∃ h, v.pool.handles[0]? = some h ∧ h.closeCalls = 1) ∧
    crash.1 = .finished 0 (.concluded (.crashed "lost")) ∧
      (∀ k, crash.2.pool.table.find? k = none) ∧
      ∃ h, crash.2.pool.handles[0]? = some h ∧ h.closeCalls = 1 := by
  intro r w v crash
  constructor
  · have hw : w.IsReachable := ⟨_, _, _, _, rfl⟩
    obtain ⟨t, htasks, hticket, hleases, hopening⟩ : ∃ t, w.tasks = [t] ∧ t.ticket = 0 ∧
        t.job.leases = [⟨"a", 1, 0⟩] ∧ t.job.opening? = some ⟨r "b", .asked⟩ :=
      ⟨_, rfl, rfl, rfl, rfl⟩
    have hentries : w.pool.table.entries =
        [("b", .opening), ("a", .live ⟨0, ⟨5⟩, ⟨0⟩, true, false, 1⟩)] := by
      decide +kernel +zetaReduce
    have hgone : Pool.Relinquished {⟨"a", 1, 0⟩} {⟨r "b", .asked⟩} w.pool v.pool := by
      have habort := (hw.cancellation_exact.1 t (htasks ▸ List.mem_singleton_self t)).1
      rwa [hticket, hleases, hopening] at habort
    clear_value w v
    refine ⟨⟨t, htasks, hleases, hopening⟩, fun k => hgone.find?_eq_none fun s hs => ?_, ?_⟩
    · rw [Table.find?_eq_some_iff, hentries] at hs
      rcases List.mem_pair.mp hs with heq | heq <;> cases heq
      · exact ⟨_, Multiset.mem_singleton_self _, rfl⟩
      · exact ⟨_, Multiset.mem_singleton_self _, rfl, rfl⟩
    · have hfind : w.pool.table.find? "a" = some (.live ⟨0, ⟨5⟩, ⟨0⟩, true, false, 1⟩) :=
        Table.find?_eq_some_iff.mpr (hentries ▸ List.mem_cons_of_mem _ (List.mem_singleton_self _))
      exact hgone.exists_closed hfind ⟨_, Multiset.mem_singleton_self _, rfl, rfl⟩
  · have hfresh : (World.init {} false).IsReachable := ⟨{}, false, .stored, [], rfl⟩
    obtain ⟨told, p, hat, hentries⟩ : ∃ told p, (World.init {} false).BodyAt
          (.start (.scope (r "a") .any ⟨[.hangUp], .crash "lost"⟩)) ⟨"a", 1, 0⟩
          ⟨[], .crash "lost"⟩ {} told p ∧
        p.table.entries = [("a", .live ⟨0, ⟨5⟩, ⟨0⟩, true, false, 1⟩)] :=
      ⟨_, _, .does (.resumes (.called rfl rfl)) .hangUp, rfl⟩
    obtain ⟨hconcludes, -, hgone⟩ := hfresh.cancellation_exact.2.1 _ _ _ _ _ _ hat
    have hgone : Pool.Relinquished {⟨"a", 1, 0⟩} 0 p crash.2.pool := hgone
    refine ⟨hconcludes.answer, fun k => hgone.find?_eq_none fun s hs => ?_, ?_⟩
    · rw [Table.find?_eq_some_iff, hentries] at hs
      cases List.mem_singleton.mp hs
      exact ⟨_, Multiset.mem_singleton_self _, rfl, rfl⟩
    · have hfind : p.table.find? "a" = some (.live ⟨0, ⟨5⟩, ⟨0⟩, true, false, 1⟩) :=
        Table.find?_eq_some_iff.mpr (hentries ▸ List.mem_singleton_self _)
      exact hgone.exists_closed hfind ⟨_, Multiset.mem_singleton_self _, rfl, rfl⟩

end World

end KeyedPool
