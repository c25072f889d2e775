import KeyedPool.Proofs.Closing
import KeyedPool.Proofs.Custody.Moment
import KeyedPool.Proofs.Shedding

/-!
# A pool is emptied once

To close everything takes every record away, whoever uses it, and asks nobody. Two parties learn of
it later: those who hold leases, and will end them, and those who are opening connections, and will
publish them. Neither may do any harm. A lease that ends later finds its record gone, and closes
nothing, be its database open again or not; and an acquire that opens a connection still has its
place, and puts its connection there. In the other direction, one connection that cannot be closed
must not save the others.

* `KeyedPool.World.GoesOn`: a run goes on from a state inside an event.
* `KeyedPool.World.Passes.closed_once`: what was closed is not closed again, as long as a run goes
  on.
* `KeyedPool.Acquisition.Completes`: an acquire has its connection, which is fit for use.
* `KeyedPool.World.Passes.publishes_of_completes`: it publishes this connection.
* `KeyedPool.World.Passes.closeAll_exact`: a pool is emptied once.
-/

namespace KeyedPool

open Custody History

/-! ### What follows -/

/-- **A run goes on** from a state through which it passes, in the same event or in later ones. -/
inductive World.GoesOn (w : World) (s : Custody) : World → Custody → Prop
  /-- The event is not over. -/
  | within {t} (h : Moves w.now s t) : GoesOn w s w t
  /-- The event comes to its end, and others follow. -/
  | beyond {e events t} (h : Moves w.now s (w.step e).2.custody)
      (h' : Moves ((w.step e).2.after events).now ((w.step e).2.after events).custody t) :
    GoesOn w s ((w.step e).2.after events) t

/-- It does so when a command was carried out in an event of its own. -/
theorem World.goes_on_command {w : World} (hheld : w.held = true) (c : Command)
    (events : List Event) :
    w.GoesOn ⟨(w.pool.execute w.now c).2, ↑w.heldLeases, ↑w.openings, 0⟩
      (w.after (.command c :: events)) (w.after (.command c :: events)).custody := by
  rw [after_cons]
  refine .beyond ?_ .refl
  simp only [step, ifHeld, hheld]
  exact .refl

namespace World.Passes

variable {w v : World} {s t : Custody}

/-- A run that goes on is a run. -/
theorem goes_on (hs : w.Passes s) (h : w.GoesOn s v t) :
    v.Passes t ∧ s.pool.history <:+ t.pool.history := by
  cases h with
  | within h => exact ⟨hs.moves h, hs.suffix h⟩
  | @beyond e events t h h' =>
    have hstep : (w.step e).2.IsReachable := hs.1.after [e]
    have ht : World.Passes _ t := ⟨hstep.after events, h'⟩
    exact ⟨ht, (hs.suffix h).trans ((hstep.history_suffix events).trans
      (Passes.suffix (.rest (hstep.after events)) h'))⟩

/-- **What was closed is not closed again**, whatever happens. -/
theorem closed_once (hs : w.Passes s) (h : w.GoesOn s v t) {k : String} {c : Nat}
    (hx : (k, c) ∈ closed s.pool.history) :
    (∃ h, t.pool.handles[c]? = some h ∧ h.closeCalls = 1) ∧
      ∃ since, t.pool.history = since ++ s.pool.history ∧ c ∉ (closed since).map Prod.snd := by
  obtain ⟨ht, since, hsince⟩ := hs.goes_on h
  have hclosed : closed t.pool.history = closed since + closed s.pool.history := by
    rw [← hsince, closed_append]
  have hmem : (k, c) ∈ closed t.pool.history := hclosed ▸ Multiset.mem_add.mpr (.inr hx)
  have hle : closed t.pool.history ≤ opened t.pool.history := by
    rw [← ht.balanced.connections]
    exact Multiset.le_add_left _ _
  -- no connection was opened twice, so none was closed twice
  have hone : ((closed t.pool.history).map Prod.snd).count c = 1 :=
    Multiset.count_eq_one_of_mem
      (Multiset.nodup_of_le (Multiset.map_le_map hle) ht.balanced.nodup_opened)
      (Multiset.mem_map_of_mem Prod.snd hmem)
  obtain ⟨handle, hh⟩ := ht.balanced.exists_handle (Multiset.mem_of_le hle hmem)
  refine ⟨⟨handle, hh, (ht.told.closeCalls c handle hh).trans hone⟩, since, hsince.symm, ?_⟩
  have hbefore : 0 < ((closed s.pool.history).map Prod.snd).count c :=
    Multiset.count_pos.mpr (Multiset.mem_map_of_mem Prod.snd hx)
  rw [hclosed, Multiset.map_add, Multiset.count_add] at hone
  exact Multiset.count_eq_zero.mp (by omega)

end World.Passes

/-! ### Connections that are being opened -/

namespace Acquisition

/-- **An acquire has its connection, and it is fit for use**: it was being opened and the time for
this is over, with success and without a startup hook that takes time or fails, or its startup hook
was running and ends well. -/
inductive Completes (now : Instant) (p : Pool) : Acquisition → Nat → Prop
  /-- The connection is there, and its hook takes no time. -/
  | connected {r since plan wake closed broken failClose} (hwake : wake ≤ now)
      (hplan : plan.result = .connected closed broken failClose)
      (hhook : ∀ hook, r.startup = some hook → hook.delay = 0 ∧ hook.result = .done) :
    Completes now p ⟨r, since, .connecting plan wake⟩ p.handles.length
  /-- The hook has ended. -/
  | started {r since c hook wake} (hwake : wake ≤ now) (hdone : hook.result = .done) :
    Completes now p ⟨r, since, .starting c hook wake⟩ c

/-- **A poll of an acquire publishes a connection**: the acquire ends with a lease on it, and it is
on record for its database, leased, and was never closed. -/
def Publishes (now : Instant) (p : Pool) (a : Acquisition) (c : Nat) : Prop :=
  ∀ plans, ∃ l q r h, poll plans p now a = (.finished (.lease l), q) ∧
    l.database = a.request.database ∧ l.connection = c ∧
    q.table.find? l.database = some (.live r) ∧ r.connection = c ∧ r.busy = true ∧
    r.generation = l.generation ∧ q.handles[c]? = some h ∧ h.closeCalls = 0

variable {p : Pool} {now deadline : Instant} {a : Acquisition} {r : Request} {c : Nat}

/-- A connection that is published takes the place that was kept for it. -/
theorem publish_of_find? (hslot : p.table.find? r.database = some .opening)
    (ht : now.after? r.ttl = some deadline) :
    (publish p now r c).1 = .lease ⟨r.database, p.table.nextGeneration, c⟩ ∧
      (publish p now r c).2.table.find? r.database = some (.live
        { connection := c, expiresAt := deadline, lastUsedAt := now, busy := true
          persistent := r.persistent, generation := p.table.nextGeneration }) := by
  have hrecord : p.table.record? r.database = none := by
    simp [Table.record?, hslot, Slot.record?]
  simp [publish, Pool.publish, ht, hrecord, Pool.enroll]

theorem endHook_of_find? {hook : HookPlan} (hdone : hook.result = .done)
    (hslot : p.table.find? r.database = some .opening) (ht : now.after? r.ttl = some deadline) :
    (endHook p now r c hook).1 = .lease ⟨r.database, p.table.nextGeneration, c⟩ ∧
      (endHook p now r c hook).2.table.find? r.database = some (.live
        { connection := c, expiresAt := deadline, lastUsedAt := now, busy := true
          persistent := r.persistent, generation := p.table.nextGeneration }) := by
  simp only [endHook, hdone]
  exact publish_of_find? (p := (p.modifyHandle c _).note _) hslot ht

/-- **Such an acquire publishes its connection.** -/
theorem poll_of_completes (plans : String → ConnectPlan) (hc : a.Completes now p c)
    (hslot : p.table.find? a.request.database = some .opening)
    (ht : now.after? a.request.ttl = some deadline) :
    (poll plans p now a).1 = .finished (.lease ⟨a.request.database, p.table.nextGeneration, c⟩) ∧
      (poll plans p now a).2.table.find? a.request.database = some (.live
        { connection := c, expiresAt := deadline, lastUsedAt := now, busy := true
          persistent := a.request.persistent, generation := p.table.nextGeneration }) := by
  cases hc with
  | @connected r since plan wake closed broken failClose hwake hplan hhook =>
    have hdue : ¬now < wake := Nat.not_lt.mpr hwake
    simp only [poll, Acquisition.wake, if_neg hdue, endConnect, hplan]
    cases hstartup : r.startup with
    | none =>
      obtain ⟨hlease, hlive⟩ := publish_of_find?
        (p := ((p.addHandle { database := r.database, closed, broken, failClose }).note
          (.connected r.database p.handles.length)).tally .opened) (c := p.handles.length) hslot ht
      simp only [resume, hlease, hlive]
      exact ⟨rfl, rfl⟩
    | some hook =>
      obtain ⟨hdelay, hdone⟩ := hhook hook hstartup
      obtain ⟨hlease, hlive⟩ := endHook_of_find?
        (p := (((p.addHandle { database := r.database, closed, broken, failClose }).note
          (.connected r.database p.handles.length)).tally .opened).note
          (.hookStarted p.handles.length)) (c := p.handles.length) hdone hslot ht
      simp [hdelay, resume, hlease, hlive]
  | @started r since c hook wake hwake hdone =>
    have hdue : ¬now < wake := Nat.not_lt.mpr hwake
    obtain ⟨hlease, hlive⟩ := endHook_of_find? (p := p) (c := c) hdone hslot ht
    simp [poll, Acquisition.wake, hdue, hlease, hlive]

end Acquisition

namespace World.Passes

variable {w : World} {p : Pool} {L : Multiset Lease} {O : Multiset Opening}

/-- The place of an acquire is kept as long as it waits for its connection. -/
theorem find?_of_opening? {a : Acquisition} (hs : w.Passes (a.holding.beside p L O))
    (ha : a.opening?.isSome = true) : p.table.find? a.request.database = some .opening := by
  obtain ⟨o, ho⟩ := Option.isSome_iff_exists.mp ha
  have hdatabase : o.database = a.request.database := by
    rcases a with ⟨r, since, _ | _ | _⟩ <;> cases ho <;> rfl
  have hmem : o ∈ (a.holding.beside p L O).openings := by
    simp [Holding.beside, Acquisition.holding, ho]
  rw [← hdatabase]
  exact hs.balanced.find?_opening hmem

/-- **An acquire whose connection is fit for use publishes it**, and gets a lease on it. -/
theorem publishes_of_completes {a : Acquisition} {c : Nat} {deadline : Instant}
    (hs : w.Passes (a.holding.beside p L O)) (hc : a.Completes w.now p c)
    (ht : w.now.after? a.request.ttl = some deadline) : a.Publishes w.now p c := by
  intro plans
  have hopening : a.opening?.isSome = true := by
    cases hc <;> rfl
  obtain ⟨hlease, hlive⟩ :=
    Acquisition.poll_of_completes plans hc (hs.find?_of_opening? hopening) ht
  have hpoll : w.Passes _ := hs.moves (Acquisition.moves_poll plans a)
  generalize Acquisition.poll plans p w.now a = x at hlease hlive hpoll
  obtain ⟨result, q⟩ := x
  cases hlease
  have hrecord : (a.request.database, c) ∈ q.table.connections :=
    Table.mem_connections.mpr ⟨_, hlive, rfl⟩
  obtain ⟨h, hh, hcalls⟩ :=
    hpoll.told.exists_open_handle hpoll.balanced (Multiset.mem_add.mpr (.inl hrecord))
  exact ⟨_, q, _, h, rfl, rfl, rfl, hlive, rfl, rfl, rfl, hh, hcalls⟩

end World.Passes

/-! ### Everything is closed -/

/-- **The counters after everything was closed**: they have counted the connections that could be
closed, and those that could not. -/
def Counters.drained (c : Counters) (stuck : Nat → Bool) (connections : Multiset (String × Nat)) :
    Counters :=
  { c with
    closed := c.closed + connections.countP (stuck ·.2 = false)
    closeFailed := c.closeFailed + connections.countP (stuck ·.2 = true) }

theorem Counters.closing_of_drained (c : Counters) (stuck : Nat → Bool) {ds : List Departure}
    (hds : ∀ d ∈ ds, d.why = .drained) :
    c.closing stuck ds = c.drained stuck ↑(ds.map Departure.left) := by
  have hnone (why : Removal) (hne : why ≠ .drained) : ds.countP (·.why = why) = 0 :=
    List.countP_eq_zero.mpr fun d hd => by simpa [hds d hd] using hne.symm
  have hclosed : (fun x : String × Nat => decide (stuck x.2 = false)) ∘ Departure.left =
      fun d => !stuck d.connection := funext fun d => by simp [Departure.left]
  have hfailed : (fun x : String × Nat => decide (stuck x.2 = true)) ∘ Departure.left =
      fun d => stuck d.connection := funext fun d => by simp [Departure.left]
  simp only [closing, drained, hnone .pruned (by decide), hnone .evicted (by decide),
    Multiset.coe_countP, List.countP_map, hclosed, hfailed, Nat.add_zero]

namespace Pool

variable {p : Pool} {k : String} {s : Slot}

theorem table_closeAll : p.closeAll.2.table = p.table.without fun _ => true := by
  simp [closeAll, takeLive]

/-- What is being opened stays, and nothing else. -/
theorem find?_closeAll :
    p.closeAll.2.table.find? k = some s ↔ p.table.find? k = some s ∧ s = .opening := by
  rw [table_closeAll, Table.find?_without, Option.filter_eq_some_iff]
  refine and_congr_right fun _ => ?_
  cases s <;> simp [Slot.holds, Slot.record?]

/-- What leaves is every connection on record. -/
theorem left_takeLive (why : Removal) :
    (↑((p.takeLive why fun _ => true).1.map Departure.left) : Multiset (String × Nat)) =
      p.table.connections := by
  rw [← Multiset.map_coe, coe_takeLive, Multiset.map_map, Table.connections_eq]
  rfl

theorem closeAll_fst :
    p.closeAll.1 = true ↔
      ∀ k r, p.table.find? k = some (.live r) → p.isStuck r.connection = false := by
  have hfst : p.closeAll.1 = (p.takeLive .drained fun _ => true).1.all fun d =>
      !p.isStuck d.connection := retireAll_fst
  rw [hfst, List.all_eq_true]
  constructor
  · intro h k r hr
    have hmem : (k, r.connection) ∈ p.table.connections := Table.mem_connections.mpr ⟨r, hr, rfl⟩
    rw [← left_takeLive .drained] at hmem
    obtain ⟨d, hd, hleft⟩ := List.mem_map.mp (Multiset.mem_coe.mp hmem)
    have hc : d.connection = r.connection := congrArg Prod.snd hleft
    simpa [hc] using h d hd
  · intro h d hd
    obtain ⟨-, r, hr, hc, -⟩ := mem_takeLive hd
    rw [← hc, h d.database r hr]
    rfl

theorem getElem?_handles_closeAll (c : Nat) :
    p.closeAll.2.handles[c]? =
      p.handles[c]?.map (·.closings ((p.table.connections.map Prod.snd).count c)) := by
  have hcount : ((p.takeLive .drained fun _ => true).1.map Departure.connection).count c =
      (p.table.connections.map Prod.snd).count c := by
    rw [← left_takeLive .drained, Multiset.map_coe, List.map_map, Multiset.coe_count]
    rfl
  rw [← hcount]
  exact getElem?_handles_retireAll c

section Stocked

variable (hp : p.IsStocked)
include hp

theorem history_closeAll :
    ∃ since, p.closeAll.2.history = since ++ p.history ∧ closed since = p.table.connections := by
  obtain ⟨since, hsince, hclosed⟩ := history_retireAll (hp.takeLive .drained fun _ => true)
  refine ⟨.drained _ _ :: since, congrArg _ hsince, ?_⟩
  rw [closed_cons, hclosed, left_takeLive]
  exact zero_add _

/-- They are counted as closed or not closed, and as nothing else. -/
theorem counters_closeAll :
    p.closeAll.2.counters = p.counters.drained p.isStuck p.table.connections ∧
      p.closeAll.2.meters.totals = p.meters.totals.drained p.isStuck p.table.connections := by
  have hwhy : ∀ d ∈ (p.takeLive .drained fun _ => true).1, d.why = .drained :=
    fun d hd => (mem_takeLive hd).1
  have hdrained (c : Counters) : c.closing p.isStuck (p.takeLive .drained fun _ => true).1 =
      c.drained p.isStuck p.table.connections := by
    rw [← left_takeLive .drained]
    exact Counters.closing_of_drained c p.isStuck hwhy
  obtain ⟨hcounters, hmeters⟩ := counters_retireAll (hp.takeLive .drained fun _ => true)
  exact ⟨hcounters.trans (hdrained p.counters),
    (congrArg Meters.totals hmeters).trans (hdrained p.meters.totals)⟩

end Stocked

end Pool

namespace World.Passes

variable {w : World} {p : Pool} {L : Multiset Lease} {O : Multiset Opening}

/-- **A pool is emptied once.** At any time of a run, whatever is on record and whatever connections
cannot be closed, to close everything leaves the slots of the databases for which a connection is
being opened, and no others. Every connection on record is closed, which is the first time for it,
and no other is; the closings that succeed and those that fail are counted, and nothing else is; and
success is reported if and only if none of them fails.

However the run goes on from there, be it that the leases on these connections end or that their
databases are opened again, these connections are not closed a second time. And an acquire that
waits for its connection keeps its place, and publishes the connection once it is fit for use: it is
on record then, leased, and was never closed. -/
theorem closeAll_exact (hs : w.Passes ⟨p, L, O, 0⟩) :
    let q := p.closeAll.2
    (∀ k s, q.table.find? k = some s ↔ p.table.find? k = some s ∧ s = .opening) ∧
    (∃ since, q.history = since ++ p.history ∧ closed since = p.table.connections) ∧
    (∀ k r, p.table.find? k = some (.live r) → ∃ h, p.handles[r.connection]? = some h ∧
      h.closeCalls = 0 ∧ q.handles[r.connection]? = some h.close.2) ∧
    (∀ c : Nat, (∀ k, (k, c) ∉ p.table.connections) → q.handles[c]? = p.handles[c]?) ∧
    q.counters = p.counters.drained p.isStuck p.table.connections ∧
    q.meters.totals = p.meters.totals.drained p.isStuck p.table.connections ∧
    (p.closeAll.1 = true ↔
      ∀ k r, p.table.find? k = some (.live r) → p.isStuck r.connection = false) ∧
    ∀ v t, w.GoesOn ⟨q, L, O, 0⟩ v t →
      (∀ k r, p.table.find? k = some (.live r) →
        (∃ h, t.pool.handles[r.connection]? = some h ∧ h.closeCalls = 1) ∧
        ∃ since, t.pool.history = since ++ q.history ∧
          r.connection ∉ (closed since).map Prod.snd) ∧
      ∀ (a : Acquisition) p' L' O', t = a.holding.beside p' L' O' → a.opening?.isSome = true →
        p'.table.find? a.request.database = some .opening ∧
        ∀ c deadline, a.Completes v.now p' c → v.now.after? a.request.ttl = some deadline →
          a.Publishes v.now p' c := by
  intro q
  have hp : p.IsStocked := hs.isStocked
  have hq : w.Passes ⟨q, L, O, 0⟩ := hs.moves Pool.moves_closeAll
  obtain ⟨hcounters, htotals⟩ := Pool.counters_closeAll hp
  obtain ⟨since, hsince, hclosed⟩ := Pool.history_closeAll hp
  have hone (k : String) (r : Record) (hr : p.table.find? k = some (.live r)) :
      (p.table.connections.map Prod.snd).count r.connection = 1 := by
    rw [Table.connections_eq, Multiset.map_map]
    exact Table.count_having (Table.mem_having.mpr ⟨hr, rfl⟩) fun k' r' hr' hc =>
      (hs.balanced.eq_of_connection hr' hr hc).1
  refine ⟨fun k s => Pool.find?_closeAll, ⟨since, hsince, hclosed⟩, fun k r hr => ?_,
    fun c hc => ?_, hcounters, htotals, Pool.closeAll_fst, fun v t hon => ⟨fun k r hr => ?_, ?_⟩⟩
  · have hrecord : (k, r.connection) ∈ p.table.connections := Table.mem_connections.mpr ⟨r, hr, rfl⟩
    obtain ⟨h, hh, hcalls⟩ :=
      hs.told.exists_open_handle hs.balanced (Multiset.mem_add.mpr (.inl hrecord))
    refine ⟨h, hh, hcalls, ?_⟩
    rw [Pool.getElem?_handles_closeAll, hone k r hr, hh]
    rfl
  · have hnone : (p.table.connections.map Prod.snd).count c = 0 := by
      refine Multiset.count_eq_zero.mpr fun hmem => ?_
      obtain ⟨k, hk⟩ := exists_database hmem
      exact hc k hk
    rw [Pool.getElem?_handles_closeAll, hnone]
    exact congrFun Option.map_id _
  · refine hq.closed_once hon (k := k) ?_
    change _ ∈ closed q.history
    rw [hsince, closed_append, hclosed]
    exact Multiset.mem_add.mpr (.inl (Table.mem_connections.mpr ⟨r, hr, rfl⟩))
  · rintro a p' L' O' rfl ha
    have ht : v.Passes (a.holding.beside p' L' O') := (hq.goes_on hon).1
    exact ⟨ht.find?_of_opening? ha, fun c deadline => ht.publishes_of_completes⟩

/-- One connection is leased, one is persistent and cannot be closed, and one is being opened. -/
theorem closeAll_exact_opening :
    let w := (World.init {} false).after
      [.start (.lease { database := "a", ttl := ⟨5⟩ } "first"),
        .start (.lease { database := "b", ttl := ⟨5⟩, persistent := true } "second"),
        .settle "second" .release, .flags 1 none none (some true), .plan "c" { delay := 1 },
        .start (.lease { database := "c", ttl := ⟨5⟩ } "third")]
    let v := w.after [.command .closeAll, .settle "first" .release, .tick]
    let a : Acquisition := ⟨{ database := "c", ttl := ⟨5⟩ }, ⟨0⟩, .connecting { delay := 1 } v.now⟩
    w.pool.closeAll.1 = false ∧ (∃ h, v.pool.handles[0]? = some h ∧ h.closeCalls = 1) ∧
      a.Publishes v.now v.pool 2 := by
  intro w v a
  have hw : w.IsReachable := ⟨_, _, _, _, rfl⟩
  have hs : w.Passes ⟨w.pool, ↑w.heldLeases, ↑w.openings, 0⟩ := rest hw
  obtain ⟨-, -, -, -, -, -, hsuccess, hlater⟩ := hs.closeAll_exact
  have hheld : w.held = true := rfl
  obtain ⟨honce, hopening⟩ := hlater v v.custody (goes_on_command hheld .closeAll _)
  have hdeadline : v.now.after? ⟨5⟩ = some ⟨1000005⟩ := by decide
  have hcompletes : a.Completes v.now v.pool 2 :=
    .connected (Nat.le_refl _) rfl fun _ h => nomatch h
  have hleased : w.pool.table.find? "a" = some (.live ⟨0, ⟨5⟩, ⟨0⟩, true, false, 1⟩) := rfl
  have hstuck : w.pool.table.find? "b" = some (.live ⟨1, ⟨5⟩, ⟨0⟩, false, true, 2⟩) := rfl
  obtain ⟨hclosed, -⟩ := honce "a" _ hleased
  refine ⟨Bool.eq_false_iff.mpr fun h => ?_, hclosed, ?_⟩
  · cases hsuccess.mp h "b" _ hstuck
  · exact (hopening a v.pool 0 0 rfl rfl).2 2 _ hcompletes hdeadline

end World.Passes

end KeyedPool
