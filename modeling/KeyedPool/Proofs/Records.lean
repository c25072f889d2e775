import KeyedPool.Proofs.Custody.Turn
import KeyedPool.Proofs.Persistence

/-!
# Records tell what happened

Whether an idle connection may be pruned, and which of them is evicted first, is read off its
record: when it was last leased, until when it may be idle, whether it is persistent. All of this
is history. The dates of a record are those of the latest lease on its connection, in the words of
the acquire that asked for it; everything else was settled when the connection came into the table,
by the acquire that opened it.

Only a lease that begins changes a record, and only that of its own database, but for the flag that
tells whether it is leased. So while a lease lasts its deadline may go by, and then its connection
can be pruned as soon as the lease has ended.

* `KeyedPool.Term`, `KeyedPool.History.terms`: the leases that began, with their dates.
* `KeyedPool.Record.Tells`: a record tells what happened to its connection.
* `KeyedPool.Custody.Move.terms`: what a move does to records, and with which term.
* `KeyedPool.Custody.Keeps`: the record of a database is as it was, unless a lease on it has begun.
* `KeyedPool.World.IsReachable.records_tell`: all of this in every run.
-/

namespace KeyedPool

open Custody

/-! ### Terms -/

/-- **The term of a lease**, as it is when the lease begins. -/
structure Term where
  /-- The lease. -/
  lease : Lease
  /-- When it begins. -/
  since : Instant
  /-- How long from then on its connection may be idle. -/
  ttl : Duration

/-- The term of the lease that begins with an entry. -/
def Entry.term? : Entry → Option Term
  | .published l now ttl _ => some ⟨l, now, ttl⟩
  | .reused l now ttl => some ⟨l, now, ttl⟩
  | _ => none

theorem Entry.term?_of_isMilestone {e : Entry} (he : e.isMilestone = false) : e.term? = none := by
  cases e <;> first | rfl | cases he

namespace History

/-- The terms of the leases that began, the latest first. -/
def terms (h : List Entry) : List Term := h.filterMap Entry.term?

/-- The term of the latest lease on a connection. -/
def latest? (h : List Entry) (c : Nat) : Option Term :=
  (terms h).find? fun t => t.lease.connection == c

variable {h h' : List Entry} {e : Entry} {t : Term} {c : Nat}

theorem terms_cons_some (he : e.term? = some t) (h : List Entry) :
    terms (e :: h) = t :: terms h :=
  List.filterMap_cons_some he

theorem terms_cons_none (he : e.term? = none) (h : List Entry) : terms (e :: h) = terms h :=
  List.filterMap_cons_none he

theorem terms_append (h h' : List Entry) : terms (h ++ h') = terms h ++ terms h' :=
  List.filterMap_append

theorem mem_terms : t ∈ terms h ↔ ∃ e ∈ h, e.term? = some t := List.mem_filterMap

/-- A lease begins only with a milestone. -/
theorem terms_eq_milestones (h : List Entry) : terms h = terms (milestones h) := by
  rw [terms, terms, milestones, List.filterMap_filter]
  refine List.filterMap_congr fun e _ => ?_
  split
  · rfl
  · exact Entry.term?_of_isMilestone (Bool.eq_false_iff.mpr ‹_›)

theorem terms_congr (hm : milestones h = milestones h') : terms h = terms h' := by
  rw [terms_eq_milestones, hm, ← terms_eq_milestones]

theorem latest?_of_cons (hterms : terms h' = t :: terms h) (c : Nat) :
    latest? h' c = if t.lease.connection = c then some t else latest? h c := by
  rw [latest?, hterms, List.find?_cons]
  by_cases hc : t.lease.connection = c
  · simp [hc]
  · simp [beq_false_of_ne hc, hc, latest?]

end History

open History

/-! ### Records that stay as they are -/

/-- Records that are the same but for the flag that tells whether they are leased. -/
theorem Record.eq_of_rest {r r' : Record} (h : r'.rest = r.rest) :
    r = { r' with busy := r.busy } := by
  obtain ⟨c, expires, used, busy, persistent, generation⟩ := r
  simp only [rest, mk.injEq] at h
  obtain ⟨rfl, rfl, rfl, -, rfl, rfl⟩ := h
  rfl

/-- **The records of a table are inherited** from another: they are the same, but for the flag that
tells whether they are leased. -/
def Table.Inherits (u t : Table) (k : String) : Prop :=
  ∀ r, u.find? k = some (.live r) → ∃ r', t.find? k = some (.live r') ∧ r'.rest = r.rest

namespace Table

variable {t u v : Table} {k : String}

theorem inherits_of_find? (h : ∀ r, u.find? k = some (.live r) → t.find? k = some (.live r)) :
    u.Inherits t k :=
  fun r hr => ⟨r, h r hr, rfl⟩

theorem Inherits.refl : t.Inherits t k := inherits_of_find? fun _ h => h

theorem Inherits.trans (h : v.Inherits u k) (h' : u.Inherits t k) : v.Inherits t k := by
  intro r hr
  obtain ⟨r', hr', hsame⟩ := h r hr
  obtain ⟨r'', hr'', hsame'⟩ := h' r' hr'
  exact ⟨r'', hr'', hsame'.trans hsame⟩

theorem inherits_erase (other : String) : (t.erase other).Inherits t k := by
  refine inherits_of_find? fun r hr => ?_
  rw [find?_erase] at hr
  split at hr
  · cases hr
  · exact hr

theorem inherits_put_opening (other : String) : (t.put other .opening).Inherits t k := by
  refine inherits_of_find? fun r hr => ?_
  rw [find?_put] at hr
  split at hr
  · cases hr
  · exact hr

theorem inherits_rest (other : String) : (t.modify other Record.rest).Inherits t k := by
  intro r hr
  rw [find?_modify] at hr
  split at hr
  · obtain ⟨slot, hslot, hmod⟩ := Option.map_eq_some_iff.mp hr
    cases slot <;> cases hmod
    exact ⟨_, hslot, rfl⟩
  · exact ⟨r, hr, rfl⟩

theorem inherits_giveUp (p : Pool) (other : String) :
    (p.giveUpOpening other).table.Inherits p.table k := by
  rw [Pool.giveUpOpening]
  split
  · exact inherits_erase other
  · exact .refl

end Table

namespace Custody

variable {now : Instant} {s t : Custody} {k : String} {r : Record}

/-- **What a move does to records**: it lets them be, or a lease begins on one of them, and dates
it. -/
theorem Move.terms (h : Move now s t) (hb : s.Balanced) :
    History.terms t.pool.history = History.terms s.pool.history ∧
        (∀ k, t.pool.table.Inherits s.pool.table k) ∨
      ∃ k r ttl, t.pool.table.find? k = some (.live r) ∧ r.lastUsedAt = now ∧
        now.after? ttl = some r.expiresAt ∧
        History.terms t.pool.history =
          ⟨(r.grant k).lease, now, ttl⟩ :: History.terms s.pool.history ∧
        ∀ other, other ≠ k → t.pool.table.Inherits s.pool.table other := by
  cases h with
  | remark e he =>
    refine .inl ⟨terms_cons_none ?_ _, fun k => .refl⟩
    cases e <;> first | rfl | cases he
  | reset => exact .inl ⟨terms_cons_none rfl _, fun k => .refl⟩
  | leave why k r hr hw => exact .inl ⟨rfl, fun _ => Table.inherits_erase k⟩
  | close d =>
    refine .inl ⟨terms_congr (Pool.milestones_retire d), fun k => ?_⟩
    rw [Pool.table_retire]
    exact .refl
  | reserve r hr hroom => exact .inl ⟨rfl, fun _ => Table.inherits_put_opening _⟩
  | ask r => exact .inl ⟨terms_cons_none rfl _, fun k => .refl⟩
  | @unanswered p L O D r =>
    refine .inl ⟨?_, fun k => Table.inherits_giveUp (p.note _) _⟩
    rw [Pool.history_giveUpOpening]
    exact terms_cons_none rfl _
  | connect r h hd hc => exact .inl ⟨terms_cons_none rfl _, fun k => .refl⟩
  | startHook r c hr => exact .inl ⟨terms_cons_none rfl _, fun k => .refl⟩
  | finishHook r c => exact .inl ⟨terms_cons_none rfl _, fun k => .refl⟩
  | abandon r c =>
    refine .inl ⟨?_, fun k => Table.inherits_giveUp _ _⟩
    rw [Pool.history_giveUpOpening]
  | @publish p L O D o c deadline ho ht hr =>
    let fresh : Record :=
      { connection := c, expiresAt := deadline, lastUsedAt := now, busy := true
        persistent := o.request.persistent, generation := p.table.nextGeneration }
    refine .inr ⟨o.database, fresh, o.request.ttl, by simp [Pool.enroll, fresh], rfl, ht,
      terms_cons_some rfl _, fun other hne => Table.inherits_of_find? fun r' hr' => ?_⟩
    simpa [Pool.enroll, hne] using hr'
  | lose o c ho ht => exact .inl ⟨terms_cons_none rfl _, fun k => .refl⟩
  | reuse k r ttl deadline hr hidle hh ht =>
    refine .inr ⟨k, r.lease deadline now, ttl, by simp [hr, Slot.modify], rfl, ht,
      terms_cons_some rfl _, fun other hne => Table.inherits_of_find? fun r' hr' => ?_⟩
    simpa [hne] using hr'
  | rest l hh hm =>
    refine .inl ⟨?_, fun k => Table.inherits_rest l.database⟩
    exact (terms_cons_none rfl _).trans (terms_cons_none rfl _)
  | depart l hh hm =>
    exact .inl ⟨(terms_cons_none rfl _).trans (terms_cons_none rfl _), fun k => .refl⟩
  | discard l how why r hw hr hg =>
    exact .inl ⟨terms_cons_none rfl _, fun k => Table.inherits_erase _⟩
  | forget l how hw hm => exact .inl ⟨terms_cons_none rfl _, fun k => .refl⟩
  | _ => exact .inl ⟨rfl, fun k => .refl⟩

/-- **The record of a database is kept** from one state to another: a lease for the database has
begun, or whatever is on record for it was so before, with the same dates. -/
def Keeps (s t : Custody) (k : String) : Prop :=
  ∃ new, History.terms t.pool.history = new ++ History.terms s.pool.history ∧
    ((∃ term ∈ new, term.lease.database = k) ∨ t.pool.table.Inherits s.pool.table k)

theorem Keeps.refl : s.Keeps s k := ⟨[], rfl, .inr .refl⟩

theorem Keeps.trans {u : Custody} (h : s.Keeps t k) (h' : t.Keeps u k) : s.Keeps u k := by
  obtain ⟨new, hnew, hkept⟩ := h
  obtain ⟨new', hnew', hkept'⟩ := h'
  refine ⟨new' ++ new, by rw [hnew', hnew, List.append_assoc], ?_⟩
  rcases hkept' with ⟨term, hterm, hk⟩ | hinherits
  · exact .inl ⟨term, List.mem_append_left _ hterm, hk⟩
  · refine hkept.imp ?_ hinherits.trans
    rintro ⟨term, hterm, hk⟩
    exact ⟨term, List.mem_append_right _ hterm, hk⟩

theorem Move.keeps (h : Move now s t) (hb : s.Balanced) (k : String) : s.Keeps t k := by
  rcases h.terms hb with ⟨hsame, hinherits⟩ | ⟨k', r, ttl, -, -, -, hterms, hothers⟩
  · exact ⟨[], hsame, .inr (hinherits k)⟩
  · refine ⟨[_], hterms, ?_⟩
    by_cases hk : k' = k
    · exact .inl ⟨_, List.mem_singleton_self _, hk⟩
    · exact .inr (hothers k (Ne.symm hk))

/-- **Records are kept**, whatever happens. -/
theorem Moves.keeps_record (h : Moves now s t) (hb : s.Balanced) (k : String) : s.Keeps t k := by
  have hkept : t.Balanced ∧ s.Keeps t k := by
    refine h.keeps (P := fun t => t.Balanced ∧ s.Keeps t k) ?_ ⟨hb, .refl⟩
    rintro u v h ⟨hb, hkept⟩
    exact ⟨hb.move h, hkept.trans (h.keeps hb k)⟩
  exact hkept.2

/-! ### Dates -/

/-- **The dates of records are those of the latest leases** on their connections. -/
def Dated (s : Custody) : Prop :=
  ∀ k r, s.pool.table.find? k = some (.live r) → ∃ ttl,
    latest? s.pool.history r.connection = some ⟨(r.grant k).lease, r.lastUsedAt, ttl⟩ ∧
      r.lastUsedAt.after? ttl = some r.expiresAt

/-- **Every move keeps the dates.** -/
theorem Dated.move (hd : s.Dated) (h : Move now s t) (hb : s.Balanced) : t.Dated := by
  intro k r hr
  -- a record that is inherited has kept its dates, if no lease began on its connection
  have hkept (hinherits : t.pool.table.Inherits s.pool.table k)
      (hlatest : latest? t.pool.history r.connection = latest? s.pool.history r.connection) :
      ∃ ttl, latest? t.pool.history r.connection = some ⟨(r.grant k).lease, r.lastUsedAt, ttl⟩ ∧
        r.lastUsedAt.after? ttl = some r.expiresAt := by
    obtain ⟨r', hr', hsame⟩ := hinherits r hr
    rw [hlatest, Record.eq_of_rest hsame]
    exact hd k r' hr'
  rcases h.terms hb with ⟨hterms, hinherits⟩ | ⟨k', r', ttl, hr', huse, hdeadline, hterms, hothers⟩
  · exact hkept (hinherits k) (by rw [latest?, latest?, hterms])
  · by_cases hk : k = k'
    · subst hk
      cases hr.symm.trans hr'
      refine ⟨ttl, ?_, huse ▸ hdeadline⟩
      rw [latest?_of_cons hterms, huse]
      exact if_pos rfl
    · refine hkept (hothers k hk) ?_
      rw [latest?_of_cons hterms, if_neg fun hc => hk ?_]
      exact ((hb.move h).eq_of_connection hr' hr hc).1.symm

/-- **Every lease is one on a connection as it was granted** when it came into the table. -/
def Grounded (s : Custody) : Prop :=
  ∀ term ∈ History.terms s.pool.history,
    ∃ persistent, ⟨term.lease, persistent⟩ ∈ granted s.pool.history

/-- **Every move keeps it so.** -/
theorem Grounded.move (hg : s.Grounded) (h : Move now s t) (hb : s.Balanced) (hk : t.Shown) :
    t.Grounded := by
  have hold : ∀ term ∈ History.terms s.pool.history,
      ∃ persistent, ⟨term.lease, persistent⟩ ∈ granted t.pool.history := by
    intro term hterm
    obtain ⟨persistent, hgranted⟩ := hg term hterm
    exact ⟨persistent, granted_mono (h.suffix hb) hgranted⟩
  intro term hterm
  rcases h.terms hb with ⟨hterms, -⟩ | ⟨k, r, ttl, hr, -, -, hterms, -⟩
  · exact hold term (hterms ▸ hterm)
  · rw [hterms] at hterm
    rcases List.mem_cons.mp hterm with rfl | hterm
    · exact ⟨r.persistent, hk.granted _ ⟨r, hr, rfl⟩⟩
    · exact hold term hterm

end Custody

/-- **A record tells what happened** to its connection, by some history. -/
structure Record.Tells (r : Record) (h : List Entry) (k : String) : Prop where
  /-- Its dates are those of the latest lease on its connection. -/
  dates : ∃ ttl, latest? h r.connection = some ⟨(r.grant k).lease, r.lastUsedAt, ttl⟩ ∧
    r.lastUsedAt.after? ttl = some r.expiresAt
  /-- Its connection was opened for its database. -/
  connected : .connected k r.connection ∈ h
  /-- Its connection came into the table with its generation, and persistent or not as it is. -/
  granted : r.grant k ∈ History.granted h
  /-- It did so in no other way. -/
  once : ∀ g ∈ History.granted h, g.lease.connection = r.connection → g = r.grant k
  /-- Every lease on its connection was one on this generation. -/
  leased : ∀ term ∈ terms h, term.lease.connection = r.connection → term.lease = (r.grant k).lease

namespace World

variable {w : World} {s : Custody} {k : String} {r : Record}

theorem Passes.dated (hs : w.Passes s) : s.Dated :=
  hs.sound (fun _ _ _ h hb _ hd => hd.move h hb) (by rintro settings enumeration k r ⟨⟩)

theorem Passes.grounded (hs : w.Passes s) : s.Grounded := by
  have hsound := hs.sound (P := fun s => s.Shown ∧ s.Grounded) ?_ ?_
  · exact hsound.2
  · rintro now s t h hb ht ⟨hk, hg⟩
    have hk' := hk.move h hb
    exact ⟨hk', hg.move h hb hk'⟩
  · exact fun settings enumeration => ⟨Custody.shown_fresh settings enumeration, by rintro term ⟨⟩⟩

/-- **Every record tells what happened**, at any time of a run. -/
theorem Passes.tells (hs : w.Passes s) (hr : s.pool.table.find? k = some (.live r)) :
    r.Tells s.pool.history k := by
  have hshown := hs.shown_and_sparing.1
  have hshows : s.pool.table.Shows (r.grant k) := ⟨r, hr, rfl⟩
  have hgranted : ∀ g ∈ granted s.pool.history, g.lease.connection = r.connection →
      g = r.grant k := by
    intro g hg hc
    rcases hshown.kept g hg with ⟨r', hr', heq⟩ | ⟨why, hd⟩
    · have hc' : r'.connection = r.connection :=
        (congrArg (·.lease.connection) heq).trans hc
      obtain ⟨hk, rfl⟩ := hs.balanced.eq_of_connection hr' hr hc'
      rw [← heq, hk]
    · exact absurd hc (hd.ne_of_shows hs.balanced hs.told hshows)
  refine ⟨hs.dated k r hr, ?_, hshown.granted _ hshows, hgranted, ?_⟩
  · refine mem_opened.mp ?_
    have hrecord : (k, r.connection) ∈ s.pool.table.connections :=
      Table.mem_connections.mpr ⟨r, hr, rfl⟩
    rw [← hs.balanced.connections]
    simp only [Multiset.mem_add, hrecord, true_or]
  · intro term hterm hc
    obtain ⟨persistent, hg⟩ := hs.grounded term hterm
    exact congrArg Grant.lease (hgranted _ hg hc)

end World

/-! ### Who dated a record -/

namespace Acquisition

variable {r : Request} {now : Instant} {trail own : List Entry} {call : Call} {w : World}
  {p q : Pool} {k : String}

theorem terms_fitTrail (r : Request) (c : Nat) : terms (fitTrail r c) = [] := by
  rw [fitTrail]
  split <;> rfl

/-- No lease begins before the connection is fit for use. -/
theorem not_mem_fitTrail {e : Entry} {t : Term} (he : e.term? = some t) (r : Request) (c : Nat) :
    e ∉ fitTrail r c := by
  intro hmem
  have hterm : t ∈ terms (fitTrail r c) := mem_terms.mpr ⟨e, hmem, he⟩
  rw [terms_fitTrail] at hterm
  cases hterm

/-- **An acquire begins a lease only as it ends with it**, for its own database and with its own
time to live. -/
theorem Trail.terms_eq {x : Progress Stage Acquired} (h : Trail r now x trail) :
    terms trail = [] ∧ (∀ l, x ≠ .finished (.lease l)) ∨
      ∃ l, x = .finished (.lease l) ∧ l.database = r.database ∧
        terms trail = [⟨l, now, r.ttl⟩] := by
  cases h with
  | queued => exact .inl ⟨rfl, by rintro l ⟨⟩⟩
  | connecting => exact .inl ⟨rfl, by rintro l ⟨⟩⟩
  | starting hs => exact .inl ⟨rfl, by rintro l ⟨⟩⟩
  | refused hfail => exact .inl ⟨rfl, fun l h => hfail l (Progress.finished.inj h)⟩
  | reused => exact .inr ⟨_, rfl, rfl, rfl⟩
  | unconnected hfail => exact .inl ⟨rfl, fun l h => hfail l (Progress.finished.inj h)⟩
  | failed hs hend => exact .inl ⟨rfl, by rintro l ⟨⟩⟩
  | crashed hs hend => exact .inl ⟨rfl, by rintro l ⟨⟩⟩
  | published hs =>
    refine .inr ⟨_, rfl, rfl, ?_⟩
    rw [terms_cons_some rfl, terms_fitTrail]
  | lost hs =>
    exact .inl ⟨(terms_cons_none rfl _).trans (terms_fitTrail r _), by rintro l ⟨⟩⟩

/-- A connection that an acquire publishes is one that it has opened, and is persistent if it asked
for this. -/
theorem Trail.of_published {x : Progress Stage Acquired} {l : Lease} {t : Instant} {ttl : Duration}
    {persistent : Bool} (h : Trail r now x trail)
    (hmem : .published l t ttl persistent ∈ trail) :
    x = .finished (.lease l) ∧ l.database = r.database ∧ persistent = r.persistent ∧
      .connected r.database l.connection ∈ trail := by
  have hfit (c : Nat) : .published l t ttl persistent ∉ fitTrail r c := not_mem_fitTrail rfl r c
  cases h with
  | published hs =>
    rcases List.mem_cons.mp hmem with heq | hmem
    · cases heq
      exact ⟨rfl, rfl, rfl, List.mem_cons_of_mem _ (connected_mem_fitTrail.mpr ⟨rfl, rfl⟩)⟩
    · exact absurd hmem (hfit _)
  | lost hs =>
    rcases List.mem_cons.mp hmem with heq | hmem
    · cases heq
    · exact absurd hmem (hfit _)
  | _ => simp [startedTrail, connectedTrail] at hmem

/-- **A connection is leased again** with the only milestone of an acquire. -/
theorem Trail.of_reused {x : Progress Stage Acquired} {l : Lease} {t : Instant} {ttl : Duration}
    (h : Trail r now x trail) (hmem : .reused l t ttl ∈ trail) :
    x = .finished (.lease l) ∧ l.database = r.database ∧ t = now ∧ ttl = r.ttl ∧
      trail = [.reused l now r.ttl] := by
  have hfit (c : Nat) : .reused l t ttl ∉ fitTrail r c := not_mem_fitTrail rfl r c
  cases h with
  | reused =>
    obtain ⟨rfl, rfl, rfl⟩ : l = _ ∧ t = now ∧ ttl = r.ttl := by simpa using hmem
    exact ⟨rfl, rfl, rfl, rfl, rfl⟩
  | published hs =>
    rcases List.mem_cons.mp hmem with heq | hmem
    · cases heq
    · exact absurd hmem (hfit _)
  | lost hs =>
    rcases List.mem_cons.mp hmem with heq | hmem
    · cases heq
    · exact absurd hmem (hfit _)
  | _ => simp [startedTrail, connectedTrail] at hmem

theorem eq_of_point {x : Progress Acquisition Acquired} {result : Acquired}
    (h : point x = .finished result) : x = .finished result := by
  cases x <;> cases h
  rfl

namespace Turn

variable {x : Progress Acquisition Acquired}

/-- What an acquire has begun in its latest turn is all that it has begun. -/
theorem terms_eq (h : Turn call own w p x q) :
    terms q.history = terms own ++ terms p.history := by
  cases h with
  | called hs hsince hpast h hown => rw [hown, terms_append]
  | polled before hlater hs h hown =>
    -- while it waited it had begun nothing
    rcases before.trail.terms_eq with ⟨hnone, -⟩ | ⟨l, hx, -⟩
    · rw [← terms_eq_milestones] at hnone
      rw [hown, terms_append, terms_append, hnone, List.append_nil]
    · cases hx

/-- **A turn of an acquire begins no lease but that with which the acquire ends.** -/
theorem begins (h : Turn call own w p x q) :
    terms q.history = terms p.history ∧ (∀ l, x ≠ .finished (.lease l)) ∨
      ∃ l, x = .finished (.lease l) ∧ l.database = call.request.database ∧
        terms q.history = ⟨l, w.now, call.request.ttl⟩ :: terms p.history := by
  have hterms := h.terms_eq
  rw [terms_eq_milestones own] at hterms
  rcases h.trail.terms_eq with ⟨hnone, hfail⟩ | ⟨l, hx, hdatabase, hone⟩
  · refine .inl ⟨by rw [hterms, hnone, List.nil_append], ?_⟩
    rintro l rfl
    exact hfail l rfl
  · exact .inr ⟨l, eq_of_point hx, hdatabase, by rw [hterms, hone, List.singleton_append]⟩

end Turn

end Acquisition

namespace World

variable {w : World} {s : Custody} {p q : Pool} {L : Multiset Lease} {O : Multiset Opening}
  {D : Multiset Departure} {k : String} {r : Record} {l : Lease}

/-- **An acquire has got a lease** at some time before, with all that was written down in its turns.
-/
def Got (w : World) (call : Acquisition.Call) (own : List Entry) (t : Instant) (l : Lease) : Prop :=
  ∃ w' p q, Acquisition.Turn call own w' p (.finished (.lease l)) q ∧ w'.now = t ∧
    q.history <:+ w.pool.history

/-- **A lease was begun by an acquire** that got it. -/
theorem IsReachable.got (hw : w.IsReachable) {e : Entry} {term : Term}
    (he : e ∈ w.pool.history) (hterm : e.term? = some term) :
    ∃ call own, w.Got call own term.since term.lease ∧ e ∈ milestones own ∧
      term.lease.database = call.request.database ∧ term.ttl = call.request.ttl := by
  have hmilestone : e.isMilestone = true := by
    refine Bool.not_eq_false _ ▸ fun hnot => ?_
    rw [Entry.term?_of_isMilestone hnot] at hterm
    cases hterm
  obtain ⟨call, own, w', p, x, q, hturn, hown, hlater⟩ :=
    hw.accounted.pool e (mem_milestones.mpr ⟨he, hmilestone⟩)
  have hmem : term ∈ terms (milestones own) :=
    mem_terms.mpr ⟨e, mem_milestones.mpr ⟨hown, hmilestone⟩, hterm⟩
  rcases hturn.trail.terms_eq with ⟨hnone, -⟩ | ⟨l, hx, hdatabase, hone⟩
  · rw [hnone] at hmem
    cases hmem
  · rw [hone] at hmem
    cases List.mem_singleton.mp hmem
    cases Acquisition.eq_of_point hx
    exact ⟨call, own, ⟨w', p, q, hturn, rfl, hlater⟩, mem_milestones.mpr ⟨hown, hmilestone⟩,
      hdatabase, rfl⟩

/-- **A record tells who opened its connection**, and who leased it last. -/
structure Attributes (w : World) (k : String) (r : Record) : Prop where
  /-- The acquire that opened the connection published it as persistent or not. -/
  opener : ∃ call own t, w.Got call own t (r.grant k).lease ∧ .connected k r.connection ∈ own ∧
    call.request.database = k ∧ call.request.persistent = r.persistent
  /-- The acquire that leased it last dated the record. -/
  holder : ∃ call own, w.Got call own r.lastUsedAt (r.grant k).lease ∧
    call.request.database = k ∧ r.lastUsedAt.after? call.request.ttl = some r.expiresAt

/-- Every record does so between two events. -/
theorem IsReachable.attributes (hw : w.IsReachable)
    (hr : w.pool.table.find? k = some (.live r)) : w.Attributes k r := by
  have htells : r.Tells w.pool.history k := Passes.tells (.rest hw) hr
  refine ⟨?_, ?_⟩
  · obtain ⟨t, ttl, he⟩ := mem_granted.mp htells.granted
    obtain ⟨call, own, hgot, hown, hdatabase, -⟩ := hw.got he rfl
    obtain ⟨w', p, q, hturn, -⟩ := id hgot
    obtain ⟨-, -, hpersistent, hconnected⟩ := hturn.trail.of_published hown
    rw [← hdatabase] at hconnected
    exact ⟨call, own, t, hgot, (mem_milestones.mp hconnected).1, hdatabase.symm,
      hpersistent.symm⟩
  · obtain ⟨ttl, hlatest, hdeadline⟩ := htells.dates
    obtain ⟨e, he, hterm⟩ := mem_terms.mp (List.mem_of_find?_eq_some hlatest)
    obtain ⟨call, own, hgot, -, hdatabase, httl⟩ := hw.got he hterm
    exact ⟨call, own, hgot, hdatabase.symm, httl ▸ hdeadline⟩

/-- What begins no lease for a database keeps its record. -/
theorem Passes.inherits {t : Custody} (new : List Term) (hs : w.Passes s) (h : Moves w.now s t)
    (hnew : terms t.pool.history = new ++ terms s.pool.history)
    (hother : ∀ term ∈ new, term.lease.database ≠ k) :
    t.pool.table.Inherits s.pool.table k := by
  obtain ⟨new', hnew', hkept⟩ := h.keeps_record hs.balanced k
  cases List.append_cancel_right (hnew'.symm.trans hnew)
  refine hkept.resolve_left ?_
  rintro ⟨term, hmem, hk⟩
  exact hother term hmem hk

/-- What leaves no milestone keeps every record. -/
theorem Passes.inherits_of_milestones {t : Custody} (hs : w.Passes s) (h : Moves w.now s t)
    (hm : milestones t.pool.history = milestones s.pool.history) (k : String) :
    t.pool.table.Inherits s.pool.table k :=
  hs.inherits [] h (terms_congr hm) (by rintro term ⟨⟩)

/-- **Nothing but a lease that begins alters a record**, its flag that tells whether it is leased
apart. -/
structure Steady (w : World) : Prop where
  /-- No command does. -/
  commands : ∀ s, w.Passes s → ∀ c k, (s.pool.execute w.now c).2.table.Inherits s.pool.table k
  /-- The end of a lease does not. -/
  ends : ∀ s, w.Passes s → ∀ l ∈ s.leases, ∀ how k,
    (s.pool.settle l how).table.Inherits s.pool.table k
  /-- To give an acquire up does not. -/
  abandons : ∀ (a : Acquisition) p L O, w.Passes (a.holding.beside p L O) →
    ∀ k, (a.abandon p).table.Inherits p.table k
  /-- A turn of an acquire does not, for any other database and unless it gets its lease. -/
  turns : ∀ call own p x q, Acquisition.Turn call own w p x q → ∀ k,
    (call.request.database = k → ∀ l, x ≠ .finished (.lease l)) → q.table.Inherits p.table k
  /-- Nothing does as time goes by. -/
  events : ∀ es k, w.custody.Keeps (w.after es).custody k

theorem IsReachable.keeps_after (hw : w.IsReachable) (es : List Event) (k : String) :
    w.custody.Keeps (w.after es).custody k := by
  induction es generalizing w with
  | nil => exact .refl
  | cons e es ih =>
    have hstep : w.custody.Keeps (w.after [e]).custody k :=
      (moves_step hw.tidy e).keeps_record hw.balanced k
    exact hstep.trans (ih (hw.after [e]))

theorem IsReachable.steady (hw : w.IsReachable) : w.Steady := by
  refine ⟨fun s hs c k => ?_, fun s hs l hl how k => ?_, fun a p L O hs k => ?_,
    fun call own p x q h k hfail => ?_, hw.keeps_after⟩
  · exact hs.inherits_of_milestones (Pool.moves_execute c) (Pool.milestones_execute c) k
  · obtain ⟨p, L, O, D⟩ := s
    obtain ⟨L, rfl⟩ := Multiset.exists_cons_of_mem hl
    exact hs.inherits_of_milestones (Pool.moves_settle l how) (Pool.milestones_settle l how) k
  · exact hs.inherits_of_milestones (Acquisition.moves_abandon a)
      (Acquisition.milestones_abandon a) k
  · obtain ⟨kept?, L, O, hs, hmoves⟩ := h.moves
    suffices hnew : ∃ new, terms q.history = new ++ terms p.history ∧
        ∀ term ∈ new, term.lease.database ≠ k by
      obtain ⟨new, hnew, hother⟩ := hnew
      have hinherits := hs.inherits new hmoves (by simpa [Holding.beside] using hnew) hother
      simpa [Holding.beside] using hinherits
    rcases h.begins with ⟨hsame, -⟩ | ⟨l, hx, hdatabase, hterms⟩
    · exact ⟨[], hsame, by rintro term ⟨⟩⟩
    · refine ⟨[_], hterms, fun term hmem => ?_⟩
      rw [List.mem_singleton.mp hmem]
      exact fun hk => hfail (hdatabase.symm.trans hk) l hx

/-- **A lease that has outlived its time** leaves a connection that can be pruned at once. -/
theorem Passes.prunable_of_release (hs : w.Passes s) (hl : l ∈ s.leases)
    (hr : s.pool.table.find? l.database = some (.live r)) (hg : r.generation = l.generation)
    (hpersistent : r.persistent = false) (hexpired : r.expiresAt ≤ w.now)
    (hhealthy : s.pool.isHealthy r.connection = true) :
    let q := s.pool.settle l .release
    q.table.find? l.database = some (.live r.rest) ∧ r.rest.isPrunable w.now = true ∧
      (q.prune w.now).2.table.find? l.database = none := by
  intro q
  have hc : l.connection = r.connection := (hs.exclusive.of_mem hl hr hg).2
  have hmatched : (s.pool.table.find? l.database).any (Pool.isGeneration l.generation) = true :=
    Pool.any_isGeneration_iff.mpr ⟨r, hr, hg⟩
  have hq : q.table = s.pool.table.modify l.database Record.rest := by
    have hhealthy' : (s.pool.note (.leaseEnded l .release)).isHealthy l.connection = true :=
      hc ▸ hhealthy
    simp only [q, Pool.settle, hhealthy', if_true, Pool.returnIdle, Pool.table_note, hmatched]
    rfl
  have hidle : q.table.find? l.database = some (.live r.rest) := by
    rw [hq, Table.find?_modify, if_pos rfl, hr]
    rfl
  have hprunable : r.rest.isPrunable w.now = true := by
    simp [Record.isPrunable, Record.isReclaimable, Record.isExpired, Record.rest, hpersistent,
      hexpired]
  refine ⟨hidle, hprunable, ?_⟩
  rw [Pool.table_prune, Table.find?_without, hidle]
  simp [Option.filter, Slot.holds, Slot.record?, hprunable]

/-- **Records tell what happened**, in every run.

At any time, between two events or inside one, the dates of a record are those of the latest lease
on its connection: it was last used when that lease began, and its deadline lies the time to live of
that lease later. Its connection was opened for its database, and came into the table once, with the
generation of the record and persistent or not as the record is; every lease on it was one on this
generation. Between two events all of this can be told by whom: the acquire that published the
connection had opened it and asked for it to be persistent or not, and the acquire that leased it
last had asked for its time to live.

Nothing alters any of this but a lease that begins: no command, no end of a lease, no acquire that
is given up, that is for another database or that has not got its lease yet, and nothing else that
happens as time goes by. So a connection that is not persistent and whose lease has outlived its
deadline can be pruned from the moment at which the lease is released. -/
theorem IsReachable.records_tell (hw : w.IsReachable) :
    (∀ s, w.Passes s → ∀ k r, s.pool.table.find? k = some (.live r) →
      r.Tells s.pool.history k) ∧
    (∀ k r, w.pool.table.find? k = some (.live r) → w.Attributes k r) ∧
    w.Steady ∧
    ∀ s, w.Passes s → ∀ l ∈ s.leases, ∀ r,
      s.pool.table.find? l.database = some (.live r) → r.generation = l.generation →
      r.persistent = false → r.expiresAt ≤ w.now → s.pool.isHealthy r.connection = true →
      let q := s.pool.settle l .release
      q.table.find? l.database = some (.live r.rest) ∧ r.rest.isPrunable w.now = true ∧
        (q.prune w.now).2.table.find? l.database = none :=
  ⟨fun _ hs _ _ hr => hs.tells hr, fun _ _ hr => hw.attributes hr, hw.steady,
    fun _ hs _ hl _ hr hg hpersistent hexpired hhealthy =>
      hs.prunable_of_release hl hr hg hpersistent hexpired hhealthy⟩

/-- A connection that was opened without being persistent, and is leased again with another time to
live by an acquire that asks for a persistent one. Its record has the dates of the second lease and
is not persistent, and since the lease has outlived its deadline the connection is pruned as soon as
it is released. -/
theorem IsReachable.records_tell_overdue :
    let w := (World.init {} false).after
      [.start (.lease { database := "a", ttl := ⟨2000000⟩ } "first"), .settle "first" .release,
        .tick, .start (.lease { database := "a", ttl := ⟨3⟩, persistent := true } "second"), .tick]
    ∃ r, w.pool.table.find? "a" = some (.live r) ∧ r.lastUsedAt = ⟨1000000⟩ ∧
      r.expiresAt = ⟨1000003⟩ ∧ r.persistent = false ∧
      (∃ call own t, w.Got call own t ⟨"a", 1, 0⟩ ∧ .connected "a" 0 ∈ own ∧
        call.request.persistent = false) ∧
      ((w.pool.settle ⟨"a", 1, 0⟩ .release).prune w.now).2.table.find? "a" = none := by
  intro w
  have hw : w.IsReachable := ⟨_, _, _, _, rfl⟩
  obtain ⟨-, hattributes, -, hprunable⟩ := hw.records_tell
  let r : Record := ⟨0, ⟨1000003⟩, ⟨1000000⟩, true, false, 1⟩
  have hr : w.pool.table.find? "a" = some (.live r) := by decide +kernel +zetaReduce
  have hheld : (⟨"a", 1, 0⟩ : Lease) ∈ w.custody.leases := by decide +kernel +zetaReduce
  obtain ⟨call, own, t, hgot, hown, -, hpersistent⟩ := (hattributes "a" r hr).opener
  have hlate := hprunable w.custody (.rest hw) _ hheld r hr rfl rfl (by decide +kernel +zetaReduce)
    (by decide +kernel +zetaReduce)
  exact ⟨r, hr, rfl, rfl, rfl, ⟨call, own, t, hgot, hown, hpersistent⟩, hlate.2.2⟩

end World

end KeyedPool
