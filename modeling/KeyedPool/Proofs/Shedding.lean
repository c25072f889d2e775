import KeyedPool.Proofs.Admission
import KeyedPool.Proofs.Custody.Ending
import KeyedPool.Proofs.Milestones

/-!
# What leaves a pool, and why

Every operation of a pool lets connections go for reasons of its own. What these reasons are is read
off the pool as the operation finds it: which record was there, and in what condition. So here each
operation is described by the departures that it may write down. Nothing but the command for it sets
the counters back, and this is said in the same breath.

An acquire lets go of what gives way to it, before it has a connection of its own, and of its own
connection when it fails. In a pool within its limit it takes one connection at most, so what it
finds to prune or to evict is found in the pool as it was.

* `KeyedPool.Pool.HasRecord`: a connection is on record in some condition.
* `KeyedPool.Pool.Prunes`, `KeyedPool.Pool.Evicts`, `KeyedPool.Pool.Replaces`,
  `KeyedPool.Pool.Drains`, `KeyedPool.Pool.Discards`: the reasons for which a record leaves.
* `KeyedPool.Acquisition.GivesUp`: the reason for which an acquire lets go of its connection.
* `KeyedPool.Pool.Sheds`: an operation lets go of nothing but some connections.
* `KeyedPool.Pool.sheds_prune` and the like: what each operation lets go of.
-/

namespace KeyedPool

open Custody History

/-! ### Reasons -/

/-- **A record has been unused for the longest time** among those of a table that may be taken. -/
def Table.IsOldest (t : Table) (r : Record) : Prop :=
  r.isReclaimable = true ∧ ∀ k x, t.find? k = some (.live x) → x.isReclaimable = true →
    r.lastUsedAt ≤ x.lastUsedAt

namespace Pool

/-- A connection that departs is on record, in some condition. -/
def HasRecord (p : Pool) (d : Departure) (which : Record → Prop) : Prop :=
  ∃ r, p.table.find? d.database = some (.live r) ∧ r.connection = d.connection ∧ which r

/-- **Its time has come**: it is idle, not persistent, and expired. -/
def Prunes (p : Pool) (now : Instant) (d : Departure) : Prop :=
  d.why = .pruned ∧ p.HasRecord d fun r => r.isPrunable now = true

/-- **It has been unused for the longest time** of all that are idle and not persistent. -/
def Evicts (p : Pool) (d : Departure) : Prop := d.why = .evicted ∧ p.HasRecord d p.table.IsOldest

/-- **It was found dead** when a database was asked for. -/
def Replaces (p : Pool) (database : String) (d : Departure) : Prop :=
  d.why = .replaced ∧ d.database = database ∧
    p.HasRecord d fun r => r.busy = false ∧ p.isHealthy r.connection = false

/-- **Everything is closed.** -/
def Drains (p : Pool) (d : Departure) : Prop := d.why = .drained ∧ p.HasRecord d fun _ => True

/-- **Its lease ends**: it is found dead, or the lease is cancelled or dropped. -/
def Discards (p : Pool) (l : Lease) (how : Disposal) (d : Departure) : Prop :=
  (how = .release ∧ p.isHealthy l.connection = false ∧ d.why = .broken ∨
      how ≠ .release ∧ d.why = .cancelled) ∧
    d.database = l.database ∧ p.HasRecord d fun r => r.generation = l.generation

end Pool

/-- **An acquire lets go of its connection**, since it ends without a lease. -/
def Acquisition.GivesUp {σ : Type} (r : Request) (connection : Nat) (x : Progress σ Acquired)
    (d : Departure) : Prop :=
  d = ⟨.abandoned, r.database, connection⟩ ∧
    ∃ result, x = .finished result ∧ ∀ l, result ≠ .lease l

/-! ### What is written down -/

/-- An entry sets no counter back, and if a connection leaves it is one of some. -/
structure Entry.Obeys (C : Departure → Prop) (e : Entry) : Prop where
  /-- It does not set the counters back. -/
  unreset : e ≠ .countersReset
  /-- If a connection leaves, it may. -/
  allowed : ∀ why k c, e = .removed why k c → C ⟨why, k, c⟩

/-- Whether an entry neither sets the counters back nor has a connection leave. -/
def Entry.isPlain : Entry → Bool
  | .countersReset => false
  | .removed .. => false
  | _ => true

theorem Entry.obeys_of_isPlain {C : Departure → Prop} {e : Entry} (he : e.isPlain = true) :
    e.Obeys C := by
  refine ⟨?_, fun why k c h => ?_⟩
  · rintro rfl
    cases he
  · subst h
    cases he

/-- **An operation lets go of nothing but some connections**, and does not set the counters back. -/
def Pool.Sheds (p : Pool) (C : Departure → Prop) (q : Pool) : Prop :=
  ∃ since, q.history = since ++ p.history ∧ ∀ e ∈ since, e.Obeys C

namespace Pool

variable {p q u : Pool} {C C' : Departure → Prop} {now : Instant} {k : String} {c : Nat}
  {d : Departure} {ttl : Duration}

namespace Sheds

/-- Nothing is written down. -/
theorem of_history (h : q.history = p.history) : p.Sheds C q := ⟨[], h, nofun⟩

theorem refl (p : Pool) : p.Sheds C p := of_history rfl

theorem trans (h : p.Sheds C q) (h' : q.Sheds C u) : p.Sheds C u := by
  obtain ⟨since, hq, hsince⟩ := h
  obtain ⟨later, hu, hlater⟩ := h'
  refine ⟨later ++ since, by rw [hu, hq, List.append_assoc], fun e he => ?_⟩
  exact (List.mem_append.mp he).elim (hlater e) (hsince e)

theorem mono (h : p.Sheds C q) (hC : ∀ d, C d → C' d) : p.Sheds C' q := by
  obtain ⟨since, hq, hsince⟩ := h
  refine ⟨since, hq, fun e he => ?_⟩
  exact ⟨(hsince e he).unreset, fun why k c h => hC _ ((hsince e he).allowed why k c h)⟩

theorem note (h : p.Sheds C q) (e : Entry) (he : e.isPlain = true) : p.Sheds C (q.note e) :=
  h.trans ⟨[e], rfl, fun _ hmem => List.mem_singleton.mp hmem ▸ Entry.obeys_of_isPlain he⟩

/-- What leaves in an operation is one of those that may. -/
theorem of_mem (h : p.Sheds C q) (hq : .removed d.why d.database d.connection ∈ q.history)
    (hp : .removed d.why d.database d.connection ∉ p.history) : C d := by
  obtain ⟨since, hsince, hobeys⟩ := h
  rw [hsince] at hq
  exact (hobeys _ ((List.mem_append.mp hq).resolve_right hp)).allowed _ _ _ rfl

end Sheds

/-! #### Connections that leave -/

theorem sheds_close : p.Sheds C (p.close k c).2 := by
  rw [close]
  split
  · exact .refl p
  · dsimp only
    split
    · exact Sheds.note (.of_history rfl) (.closed k c) rfl
    · exact Sheds.note (.of_history rfl) (.closeFailed k c _) rfl

theorem sheds_retire (hd : C d) : p.Sheds C (p.retire d).2 := by
  have hobeys : (Entry.removed d.why d.database d.connection).Obeys C := by
    refine ⟨Entry.noConfusion, ?_⟩
    rintro why k c ⟨⟩
    exact hd
  have hremoved : p.Sheds C (p.note (.removed d.why d.database d.connection)) :=
    ⟨[_], rfl, fun _ hmem => List.mem_singleton.mp hmem ▸ hobeys⟩
  rw [retire]
  refine Sheds.trans ?_ sheds_close
  cases d.why.tally? with
  | none => exact hremoved
  | some t => exact hremoved

/-- To close what has left is to let go of it. -/
theorem sheds_retireAll (ds : List Departure) : p.Sheds (· ∈ ds) (p.retireAll ds).2 := by
  have hall (ds' : List Departure) (hsub : ds' ⊆ ds) : p.Sheds (· ∈ ds) (p.retireAll ds').2 := by
    induction ds' generalizing p with
    | nil => exact .refl p
    | cons d ds' ih =>
      obtain ⟨hd, hrest⟩ := List.cons_subset.mp hsub
      exact (sheds_retire hd).trans (ih hrest)
  exact hall ds (List.Subset.refl ds)

theorem mem_takeLive {why : Removal} {which : Record → Bool}
    (hd : d ∈ (p.takeLive why which).1) :
    d.why = why ∧ p.HasRecord d fun r => which r = true := by
  obtain ⟨e, he, rfl⟩ := List.mem_map.mp hd
  obtain ⟨-, hlive, hwhich⟩ := Table.mem_recordsAlong.mp he
  exact ⟨rfl, e.2, hlive, rfl, hwhich⟩

/-- The record that has been unused for the longest time is found wherever the walk begins. -/
theorem mem_takeOldest (hd : d ∈ p.takeOldest.1.toList) : p.Evicts d := by
  rw [takeOldest] at hd
  split at hd
  · cases hd
  · rename_i e he
    obtain rfl := List.mem_singleton.mp hd
    obtain ⟨-, hlive, hreclaim⟩ := Table.mem_recordsAlong.mp (Table.mem_of_oldest? he)
    refine ⟨rfl, e.2, hlive, rfl, hreclaim, fun k x hx hreclaim => ?_⟩
    have hkey : k ∈ p.order := by
      rw [p.order_perm.mem_iff]
      by_contra hout
      rw [Table.find?_eq_none_iff.mpr hout] at hx
      cases hx
    have hmem : (k, x) ∈ p.table.recordsAlong p.order Record.isReclaimable :=
      Table.mem_recordsAlong.mpr ⟨hkey, hx, hreclaim⟩
    exact Table.lastUsedAt_oldest?_le he hmem

/-! #### Commands -/

theorem sheds_prune : p.Sheds (p.Prunes now) (p.prune now).2 := by
  have htaken : p.Sheds (p.Prunes now) (p.takeLive .pruned (Record.isPrunable now)).2 :=
    .of_history rfl
  have hclosed := htaken.trans ((sheds_retireAll _).mono fun d hd => mem_takeLive hd)
  rw [prune]
  dsimp only
  split
  · exact hclosed
  · exact hclosed.note (.pruned _) rfl

theorem sheds_evict : p.Sheds p.Evicts p.evict.2 := by
  have htake : p.takeOldest.2.history = p.history := history_takeOldest
  have hevicts : ∀ d ∈ p.takeOldest.1.toList, p.Evicts d := fun d => mem_takeOldest
  rw [evict]
  split <;> rename_i heq <;> rw [heq] at htake hevicts
  · exact .of_history htake
  · exact (Sheds.of_history htake).trans (sheds_retire (hevicts _ (List.mem_singleton_self _)))

theorem sheds_closeAll : p.Sheds p.Drains p.closeAll.2 := by
  have htaken : p.Sheds p.Drains (p.takeLive .drained fun _ => true).2 := .of_history rfl
  have hdrains : ∀ d ∈ (p.takeLive .drained fun _ => true).1, p.Drains d := by
    intro d hd
    obtain ⟨hwhy, r, hr, hc, -⟩ := mem_takeLive hd
    exact ⟨hwhy, r, hr, hc, trivial⟩
  exact (htaken.trans ((sheds_retireAll _).mono hdrains)).note (.drained _ _) rfl

/-! #### The end of a lease -/

theorem sheds_discard (l : Lease) (why : Removal) :
    p.Sheds (fun d => d.why = why ∧ d.database = l.database ∧
      p.HasRecord d fun r => r.generation = l.generation) (p.discard l why) := by
  by_cases hm : (p.table.find? l.database).any (isGeneration l.generation) = true
  · obtain ⟨r, hr, hg⟩ := any_isGeneration_iff.mp hm
    rw [discard_of_find? hr hg]
    exact Sheds.trans (.of_history rfl) (sheds_retire ⟨rfl, rfl, r, hr, rfl, hg⟩)
  · rw [discard_eq_self (Bool.eq_false_iff.mpr hm)]
    exact .refl p

theorem sheds_settle (l : Lease) (how : Disposal) :
    p.Sheds (p.Discards l how) (p.settle l how) := by
  have hended : p.Sheds (p.Discards l how) (p.note (.leaseEnded l how)) :=
    (Sheds.refl p).note (.leaseEnded l how) rfl
  have hdiscard (why : Removal) (hwhy : how = .release ∧ p.isHealthy l.connection = false ∧
      why = .broken ∨ how ≠ .release ∧ why = .cancelled) :
      p.Sheds (p.Discards l how) ((p.note (.leaseEnded l how)).discard l why) := by
    refine hended.trans ((sheds_discard l why).mono ?_)
    rintro d ⟨rfl, hk, hr⟩
    exact ⟨hwhy, hk, hr⟩
  cases how with
  | release =>
    rw [settle]
    split
    · rw [returnIdle]
      split
      · exact (hended.trans (.of_history rfl)).note (.released l) rfl
      · exact hended.note (.departed l) rfl
    · rename_i hdead
      exact hdiscard .broken (.inl ⟨rfl, Bool.eq_false_iff.mpr hdead, rfl⟩)
  | cancel => exact hdiscard .cancelled (.inr ⟨by decide, rfl⟩)
  | drop => exact hdiscard .cancelled (.inr ⟨by decide, rfl⟩)

/-! #### Admission -/

section Room

variable {limit : Nat}

/-- What makes room was there to be taken. -/
theorem mem_makeRoom (hcap : p.table.size ≤ limit) (hd : d ∈ (p.makeRoom limit now).1) :
    p.Prunes now d ∨ p.Evicts d := by
  rw [makeRoom] at hd
  split at hd
  · cases hd
  · rename_i hge
    dsimp only at hd
    split at hd
    · exact .inl (mem_takeLive hd)
    · rename_i hfull
      rcases List.mem_append.mp hd with hd | hd
      · exact .inl (mem_takeLive hd)
      · -- the pool was full and nothing had expired, so the record is the oldest of all
        have hsize : p.table.size ≤ (p.table.without (Record.isPrunable now)).size :=
          hcap.trans (Nat.not_lt.mp hfull)
        have hfind := Table.find?_without_of_size hsize
        obtain ⟨hwhy, r, hr, hc, hreclaim, holdest⟩ := mem_takeOldest hd
        refine .inr ⟨hwhy, r, (hfind _).symm.trans hr, hc, hreclaim, fun k x hx => ?_⟩
        exact holdest k x ((hfind k).trans hx)

theorem mem_reserve
    (hcap : ∀ limit, p.settings.maxConnections = some limit → p.table.size ≤ limit)
    (hd : d ∈ (p.reserve k now).2.1) : p.Prunes now d ∨ p.Evicts d := by
  rw [reserve] at hd
  dsimp only at hd
  split at hd
  · cases hd
  · rename_i limit hmax
    split at hd
    · exact mem_makeRoom (hcap limit hmax) hd
    · exact mem_makeRoom (hcap limit hmax) hd

/-- Nothing but itself has to give way to the connection that takes the place of a dead one. -/
theorem reserve_erase_eq_nil {s : Slot}
    (hcap : ∀ limit, p.settings.maxConnections = some limit → p.table.size ≤ limit)
    (hk : p.table.find? k = some s) :
    ((p.withTable (p.table.erase k)).reserve k now).2.1 = [] := by
  rw [reserve]
  dsimp only
  split
  · rfl
  · rename_i limit hmax
    have hlt : (p.table.erase k).size < limit := by
      have hsize := Table.size_eq_of_find? hk
      have hle := hcap limit hmax
      omega
    have hroom : (p.withTable (p.table.erase k)).makeRoom limit now =
        ([], p.withTable (p.table.erase k)) := if_pos hlt
    rw [hroom]
    split <;> rfl

/-- **What gives way to an acquire**: what has expired, what has been unused for the longest time,
or a dead connection of the same database. -/
theorem mem_admission
    (hcap : ∀ limit, p.settings.maxConnections = some limit → p.table.size ≤ limit)
    (hd : d ∈ (p.admission k ttl now).2.1) : p.Prunes now d ∨ p.Evicts d ∨ p.Replaces k d := by
  rw [admission] at hd
  split at hd
  · exact (mem_reserve hcap hd).imp_right .inl
  · cases hd
  · rename_i r hr
    split at hd
    · cases hd
    · rename_i hbusy
      split at hd
      · split at hd <;> cases hd
      · rename_i hdead
        dsimp only at hd
        rw [reserve_erase_eq_nil hcap hr] at hd
        obtain rfl := List.mem_singleton.mp hd
        exact .inr (.inr ⟨rfl, rfl, r, hr, rfl, Bool.eq_false_iff.mpr hbusy,
          Bool.eq_false_iff.mpr hdead⟩)

theorem sheds_attempt
    (hcap : ∀ limit, p.settings.maxConnections = some limit → p.table.size ≤ limit) :
    p.Sheds (fun d => p.Prunes now d ∨ p.Evicts d ∨ p.Replaces k d) (p.attempt k ttl now).2 :=
  Sheds.trans (.of_history (history_admission ttl))
    ((sheds_retireAll _).mono fun _ => mem_admission hcap)

end Room

/-- A connection that is published may only displace another. -/
theorem sheds_publish (persistent : Bool) :
    p.Sheds (·.why = .displaced) (p.publish k c ttl persistent now).2 := by
  rw [publish]
  split
  · exact Sheds.note (.of_history rfl) (.lost k c now ttl) rfl
  · rename_i deadline _
    have hpublished (C : Departure → Prop) : p.Sheds C ((p.enroll k c deadline now persistent).note
        (.published ⟨k, p.table.nextGeneration, c⟩ now ttl persistent)) :=
      Sheds.note (.of_history rfl) (.published _ _ _ _) rfl
    dsimp only
    split
    · exact hpublished _
    · exact (hpublished _).trans (sheds_retire rfl)

end Pool

/-! ### Acquires -/

namespace Acquisition

open Pool

variable {plans : String → ConnectPlan} {p : Pool} {now : Instant} {r : Request} {c : Nat}
  {C : Departure → Prop}

theorem sheds_publish : p.Sheds (·.why = .displaced) (publish p now r c).2 := by
  have hpublish : p.Sheds (·.why = .displaced) (p.publish r.database c r.ttl r.persistent now).2 :=
    Pool.sheds_publish r.persistent
  rw [publish]
  split <;> rename_i heq <;> rw [heq] at hpublish
  · exact hpublish
  · exact hpublish

theorem sheds_dropUnopened (r : Request) : p.Sheds C (dropUnopened p r) :=
  ((Sheds.refl p).note (.unconnected r.database) rfl).trans
    (.of_history (history_giveUpOpening _ _))

theorem sheds_dropOpened (hC : C ⟨.abandoned, r.database, c⟩) : p.Sheds C (dropOpened p r c) :=
  Sheds.trans (.of_history (history_giveUpOpening _ _)) (sheds_retire hC)

/-- **What an acquire lets go of once it has been admitted**: its own connection, if it fails. -/
def Yields {σ : Type} (r : Request) (connection : Nat) (x : Progress σ Acquired)
    (d : Departure) : Prop :=
  d.why = .displaced ∨ GivesUp r connection x d

theorem sheds_endHook (hook : HookPlan) :
    p.Sheds (Yields r c (.finished (endHook p now r c hook).1 : Progress Stage Acquired))
      (endHook p now r c hook).2 := by
  rw [endHook]
  split
  · exact Sheds.trans (.of_history rfl)
      (sheds_dropOpened (.inr ⟨rfl, _, rfl, by rintro l ⟨⟩⟩))
  · exact Sheds.trans (.of_history rfl)
      (sheds_dropOpened (.inr ⟨rfl, _, rfl, by rintro l ⟨⟩⟩))
  · refine Sheds.mono ?_ fun d => Or.inl
    exact (Sheds.note (.of_history rfl) (.hookFinished c) rfl).trans sheds_publish

theorem sheds_endConnect (plan : ConnectPlan) :
    p.Sheds (Yields r p.handles.length (endConnect p now r plan).1)
      (endConnect p now r plan).2 := by
  rw [endConnect]
  split
  · exact sheds_dropUnopened r
  · exact sheds_dropUnopened r
  · rename_i closed broken failClose _
    let fresh : Handle := { database := r.database, closed, broken, failClose }
    have hconnected (C : Departure → Prop) : p.Sheds C (((p.addHandle fresh).note
        (.connected r.database p.handles.length)).tally .opened) :=
      Sheds.note (.of_history rfl) (.connected _ _) rfl
    dsimp only
    split
    · exact ((hconnected _).trans sheds_publish).mono fun d => Or.inl
    · have hstarted (C : Departure → Prop) :=
        (hconnected C).note (.hookStarted p.handles.length) rfl
      split
      · exact (hstarted _).trans (sheds_endHook _)
      · exact hstarted _

theorem sheds_beginConnect :
    p.Sheds (Yields r p.handles.length (beginConnect plans p now r).1)
      (beginConnect plans p now r).2 := by
  have hasked (C : Departure → Prop) :
      p.Sheds C ((p.note (.opening r.database)).note (.connecting r.database)) :=
    ((Sheds.refl p).note (.opening _) rfl).note (.connecting _) rfl
  rw [beginConnect]
  split
  · exact (hasked _).trans (sheds_endConnect _)
  · exact hasked _

theorem sheds_refuse (since : Instant) (refusals : List Instant) (why : Refusal) :
    p.Sheds C (refuse p now r since refusals why).2 := by
  rw [refuse]
  dsimp only
  split <;> split
  · exact (Sheds.refl p).note (.gaveUp _ _ _) rfl
  · exact .refl p
  · exact (Sheds.refl p).note (.waiting _ _) rfl
  · exact .refl p

/-- **What an attempt lets go of**: what gives way to the acquire, and its own connection if it is
admitted and fails. -/
theorem sheds_attempt (since : Instant) (refusals : List Instant)
    (hcap : ∀ limit, p.settings.maxConnections = some limit → p.table.size ≤ limit) :
    p.Sheds (fun d => (p.Prunes now d ∨ p.Evicts d ∨ p.Replaces r.database d) ∨
        Yields r p.handles.length (attempt plans p now r since refusals).1 d)
      (attempt plans p now r since refusals).2 := by
  have hattempt : p.Sheds _ (p.attempt r.database r.ttl now).2 := Pool.sheds_attempt hcap
  have hlength : (p.attempt r.database r.ttl now).2.handles.length = p.handles.length :=
    Pool.length_handles_attempt
  rw [attempt]
  split <;> rename_i heq <;> rw [heq] at hattempt hlength
  · exact (hattempt.mono fun d => Or.inl).note (.reused _ _ _) rfl
  · refine (hattempt.mono fun d => Or.inl).trans (sheds_beginConnect.mono fun d hd => Or.inr ?_)
    rw [← hlength]
    exact hd
  · exact (hattempt.mono fun d => Or.inl).trans (sheds_refuse since refusals _)
  · exact hattempt.mono fun d => Or.inl

end Acquisition

/-! ### Deeds -/

namespace Custody

/-- A command is carried out. -/
def Executes (now : Instant) (c : Command) (s t : Custody) : Prop :=
  t = ⟨(s.pool.execute now c).2, s.leases, s.openings, 0⟩

/-- **An acquire asks to be admitted**, and finds a pool. What has expired is pruned before, when it
is called. -/
inductive Asks (now : Instant) : Request → Custody → Pool → Custody → Prop
  /-- It is called. -/
  | called {p L O} (plans : String → ConnectPlan) (r : Request) :
    Asks now r ⟨p, L, O, 0⟩ (p.prune now).2
      (Progress.custody Acquisition.holding Acquired.holding L O
        (Acquisition.start plans p now r))
  /-- It is polled, and was not admitted before. -/
  | polled {p L O} (plans : String → ConnectPlan) (a : Acquisition) {refusals wake}
      (ha : a.stage = .queued refusals wake) (hwake : a.wake ≤ now) :
    Asks now a.request (a.holding.beside p L O) p
      (Progress.custody Acquisition.holding Acquired.holding L O
        (Acquisition.poll plans p now a))

/-- **A deed has a connection leave the pool**, and this is why. -/
inductive Removes (now : Instant) (s t : Custody) : Departure → Prop
  /-- Its time had come, when somebody pruned or asked to be admitted. -/
  | pruned {d} (hd : s.pool.Prunes now d)
      (h : Executes now .prune s t ∨ ∃ r found, Asks now r s found t) : Removes now s t d
  /-- It had been unused for the longest time, when somebody evicted or asked to be admitted. -/
  | evicted {d found} (hd : found.Evicts d)
      (h : found = s.pool ∧ Executes now .evict s t ∨ ∃ r, Asks now r s found t) :
    Removes now s t d
  /-- It was found dead when somebody asked for its database. -/
  | replaced {d found r} (hd : found.Replaces r.database d) (h : Asks now r s found t) :
    Removes now s t d
  /-- Everything was closed. -/
  | drained {d} (hd : s.pool.Drains d) (h : Executes now .closeAll s t) : Removes now s t d
  /-- Its lease ended. -/
  | discarded {d l how L} (hd : s.pool.Discards l how d) (hs : s.leases = l ::ₘ L)
      (ht : t = ⟨s.pool.settle l how, L, s.openings, 0⟩) : Removes now s t d
  /-- The acquire that had opened it, before or in this deed, ended without a lease. -/
  | failed {plans r kept? result c}
      (h : Acquisition.EndsWith plans now r kept? s.pool result t.pool)
      (hfail : ∀ l, result ≠ .lease l)
      (hc : ⟨r, .starting c⟩ ∈ s.openings ∨ s.pool.handles.length ≤ c) :
    Removes now s t ⟨.abandoned, r.database, c⟩
  /-- The acquire that had opened it was given up. -/
  | aborted {a c hook wake} (ha : a.stage = .starting c hook wake)
      (hc : ⟨a.request, .starting c⟩ ∈ s.openings)
      (ht : t.pool = Acquisition.abandon s.pool a) :
    Removes now s t ⟨.abandoned, a.request.database, c⟩

end Custody

namespace World.Passes

variable {w : World} {s t : Custody} {p : Pool} {L : Multiset Lease} {O : Multiset Opening}

/-- **What an acquire lets go of that asks to be admitted**, from the pool that it finds on. -/
theorem sheds_asked {plans : String → ConnectPlan} {r : Request} {since : Instant}
    {refusals : List Instant} {found : Pool} (hs : w.Passes ⟨found, L, O, 0⟩)
    (hasks : Asks w.now r s found t)
    (ht : t.pool = (Acquisition.attempt plans found w.now r since refusals).2)
    (hends : ∀ result, (Acquisition.attempt plans found w.now r since refusals).1 =
      .finished result → Acquisition.EndsWith plans w.now r none s.pool result t.pool)
    (hprunes : ∀ d, found.Prunes w.now d → s.pool.Prunes w.now d)
    (hlength : found.handles.length = s.pool.handles.length) :
    found.Sheds (fun d => d.why = .displaced ∨ Removes w.now s t d) t.pool := by
  have hattempt : found.Sheds _ (Acquisition.attempt plans found w.now r since refusals).2 :=
    Acquisition.sheds_attempt since refusals hs.capped
  rw [← ht] at hattempt
  refine hattempt.mono ?_
  rintro d ((hd | hd | hd) | hd | ⟨rfl, result, hx, hfail⟩)
  · exact .inr (.pruned (hprunes d hd) (.inr ⟨r, found, hasks⟩))
  · exact .inr (.evicted hd (.inr ⟨r, hasks⟩))
  · exact .inr (.replaced hd hasks)
  · exact .inl hd
  · exact .inr (.failed (hends result hx) hfail (.inr hlength.ge))

theorem sheds_call (hs : w.Passes ⟨p, L, O, 0⟩) (plans : String → ConnectPlan) (r : Request)
    (ht : t = Progress.custody Acquisition.holding Acquired.holding L O
      (Acquisition.start plans p w.now r)) :
    p.Sheds (fun d => d.why = .displaced ∨ Removes w.now ⟨p, L, O, 0⟩ t d) t.pool := by
  have hasks : Asks w.now r ⟨p, L, O, 0⟩ (p.prune w.now).2 t := ht ▸ .called plans r
  have hpool : t.pool = (Acquisition.start plans p w.now r).2 := by simp [ht]
  have hentry : p.Sheds (fun d => d.why = .displaced ∨ Removes w.now ⟨p, L, O, 0⟩ t d)
      (p.prune w.now).2 :=
    Pool.sheds_prune.mono fun d hd => .inr (.pruned hd (.inr ⟨r, _, hasks⟩))
  refine hentry.trans (sheds_asked (hs.moves Pool.moves_prune) hasks
    (hpool.trans (Acquisition.resume_snd _ _ _)) ?_ ?_ Pool.length_handles_prune)
  · intro result hx
    refine .called (Prod.ext ?_ hpool.symm)
    rw [Acquisition.start, Acquisition.resume_of_finished hx]
  · rintro d ⟨hwhy, x, hx, hc, hexpired⟩
    rw [Pool.table_prune, Table.find?_without, Option.filter_eq_some_iff] at hx
    exact ⟨hwhy, x, hx.1, hc, hexpired⟩

theorem sheds_poll (plans : String → ConnectPlan) (a : Acquisition)
    (hs : w.Passes (a.holding.beside p L O))
    (ht : t = Progress.custody Acquisition.holding Acquired.holding L O
      (Acquisition.poll plans p w.now a)) :
    p.Sheds (fun d => d.why = .displaced ∨ Removes w.now (a.holding.beside p L O) t d) t.pool := by
  have hpool : t.pool = (Acquisition.poll plans p w.now a).2 := by simp [ht]
  by_cases hwake : w.now < a.wake
  · rw [hpool, Acquisition.poll, if_pos hwake]
    exact .refl p
  · have hends (result : Acquired) (hx : (Acquisition.poll plans p w.now a).1 = .finished result) :
        Acquisition.EndsWith plans w.now a.request a.opening? p result t.pool :=
      .polled (Prod.ext hx hpool.symm)
    cases ha : a.stage with
    | queued refusals wake =>
      have hnone : a.opening? = none := by rw [Acquisition.opening?, ha, Stage.opening?]
      have hfound : w.Passes ⟨p, L, O, 0⟩ := by
        rw [Acquisition.holding, hnone, Holding.beside_none] at hs
        exact hs
      have hasks : Asks w.now a.request (a.holding.beside p L O) p t := by
        rw [ht]
        exact .polled plans a ha (Nat.le_of_not_lt hwake)
      simp only [Acquisition.poll, if_neg hwake, ha, hnone] at hpool hends
      rw [Acquisition.resume_snd] at hpool
      refine sheds_asked hfound hasks hpool (fun result hx => ?_) (fun d => id) rfl
      exact hends result (Acquisition.resume_of_finished hx)
    | connecting plan wake =>
      simp only [Acquisition.poll, if_neg hwake, ha] at hpool hends
      rw [Acquisition.resume_snd] at hpool
      rw [hpool]
      refine (Acquisition.sheds_endConnect plan).mono ?_
      rintro d (hd | ⟨rfl, result, hx, hfail⟩)
      · exact .inl hd
      · exact .inr (.failed (hends result (Acquisition.resume_of_finished hx)) hfail (.inr le_rfl))
    | starting c hook wake =>
      have hkept : ⟨a.request, .starting c⟩ ∈ (a.holding.beside p L O).openings := by
        simp [Holding.beside, Acquisition.holding, Acquisition.opening?, ha, Stage.opening?]
      simp only [Acquisition.poll, if_neg hwake, ha] at hpool hends
      rw [hpool]
      refine (Acquisition.sheds_endHook hook).mono ?_
      rintro d (hd | ⟨rfl, result, hx, hfail⟩)
      · exact .inl hd
      · exact .inr (.failed (hends result (congrArg _ (Progress.finished.inj hx))) hfail
          (.inl hkept))

theorem sheds_abandon (a : Acquisition) (ht : t = ⟨Acquisition.abandon p a, L, O, 0⟩) :
    p.Sheds (Removes w.now (a.holding.beside p L O) t) t.pool := by
  have hpool : t.pool = Acquisition.abandon p a := by rw [ht]
  have haborted {c : Nat} {hook : HookPlan} {wake : Instant}
      (ha : a.stage = .starting c hook wake) :
      Removes w.now (a.holding.beside p L O) t ⟨.abandoned, a.request.database, c⟩ := by
    refine .aborted ha ?_ hpool
    simp [Holding.beside, Acquisition.holding, Acquisition.opening?, ha, Stage.opening?]
  rw [hpool, Acquisition.abandon]
  split
  · exact .refl p
  · exact Acquisition.sheds_dropUnopened _
  · exact Acquisition.sheds_dropOpened (haborted ‹_›)

/-- **What a deed lets go of**, unless it is to set the counters back. -/
theorem sheds (hs : w.Passes s) (h : Deed w.now s t) :
    Executes w.now .resetCounters s t ∨
      s.pool.Sheds (fun d => d.why = .displaced ∨ Removes w.now s t d) t.pool := by
  cases h with
  | command c =>
    cases c with
    | prune => exact .inr (Pool.sheds_prune.mono fun d hd => .inr (.pruned hd (.inl rfl)))
    | evict => exact .inr (Pool.sheds_evict.mono fun d hd => .inr (.evicted hd (.inl ⟨rfl, rfl⟩)))
    | closeAll => exact .inr (Pool.sheds_closeAll.mono fun d hd => .inr (.drained hd rfl))
    | resetCounters => exact .inl rfl
    | _ => exact .inr (.of_history rfl)
  | settle l how =>
    exact .inr ((Pool.sheds_settle l how).mono fun d hd => .inr (.discarded hd rfl rfl))
  | call plans r => exact .inr (sheds_call hs plans r rfl)
  | poll plans a => exact .inr (sheds_poll plans a hs rfl)
  | abandon a => exact .inr ((sheds_abandon a rfl).mono fun d => Or.inr)
  | flags connection f hf => exact .inr (.of_history rfl)
  | stop => exact .inr ((Pool.Sheds.refl _).note .prunerStopped rfl)

end World.Passes

end KeyedPool
