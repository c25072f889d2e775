import KeyedPool.Proofs.Admission
import KeyedPool.Proofs.Queue

/-!
# A refusal changes nothing

To look for room may take connections out of the table before it turns out that there is none. Still
an acquire that is refused takes nothing: a pool within its limit has room as soon as one connection
leaves it, so whoever finds none has found nothing to take. What remains is that the table was
walked. An idle connection whose lease would end beyond the horizon is left as it is, too.

So an acquire that gives up, however often it has tried, has changed nothing but what the log says,
apart from what it pruned when it was called.

* `KeyedPool.Pool.IsWalked`: the table was walked, and nothing else.
* `KeyedPool.Pool.admission_of_isTurnedDown`: whoever is turned down takes nothing.
* `KeyedPool.Pool.IsLogged`: something was said in the log, and nothing else.
* `KeyedPool.Acquisition.Harmless`: the tries of an acquire change nothing but what they prune.
* `KeyedPool.World.IsReachable.refusals_harmless`: an acquire that gives up is harmless.
-/

namespace KeyedPool

open Custody

/-! ### A search in vain -/

namespace Table

variable {t : Table} {which : Record → Bool} {order : List String}

/-- A table from which nothing is taken is the same table. -/
theorem without_eq_self (h : ∀ k r, t.find? k = some (.live r) → which r = false) :
    t.without which = t := by
  have hkept : t.entries.filter (fun e => !e.2.holds which) = t.entries := by
    refine List.filter_eq_self.mpr ?_
    rintro ⟨k, s⟩ hmem
    cases s with
    | opening => rfl
    | live r => simp [Slot.holds, Slot.record?, h k r (find?_eq_some_iff.mpr hmem)]
  ext1
  · exact hkept
  · rfl

theorem recordsAlong_eq_nil (h : ∀ k r, t.find? k = some (.live r) → which r = false) :
    t.recordsAlong order which = [] := by
  refine List.eq_nil_iff_forall_not_mem.mpr ?_
  rintro ⟨k, r⟩ hmem
  obtain ⟨-, hr, hw⟩ := mem_recordsAlong.mp hmem
  exact Bool.false_ne_true ((h k r hr).symm.trans hw)

/-- None of the records of a pinned table may be taken. -/
theorem IsPinned.isReclaimable_eq_false (ht : t.IsPinned) (k : String) (r : Record)
    (hr : t.find? k = some (.live r)) : r.isReclaimable = false :=
  Slot.isPinned_live.mp (ht k _ hr)

theorem IsPinned.isPrunable_eq_false (ht : t.IsPinned) (now : Instant) (k : String) (r : Record)
    (hr : t.find? k = some (.live r)) : r.isPrunable now = false := by
  rw [Record.isPrunable, ht.isReclaimable_eq_false k r hr, Bool.false_and]

end Table

/-- Whether an answer turns an acquire down: it has to wait, or it asks for too much time. -/
def Admission.isTurnedDown : Admission → Bool
  | .refused _ => true
  | .beyondHorizon => true
  | _ => false

namespace Pool

variable {p : Pool} {k : String} {ttl : Duration} {now : Instant} {limit : Nat} {why : Refusal}

/-- **The table of a pool was walked**, and nothing else has changed. -/
def IsWalked (p q : Pool) : Prop := ∃ n, q = { p with walks := n }

theorem isWalked_rfl : p.IsWalked p := ⟨p.walks, rfl⟩

theorem takeLive_of_isPinned (hpinned : p.table.IsPinned) (why : Removal) (now : Instant) :
    p.takeLive why (Record.isPrunable now) = ([], p.walked) := by
  have hnone := hpinned.isPrunable_eq_false now
  rw [takeLive, Table.recordsAlong_eq_nil hnone, Table.without_eq_self hnone]
  rfl

theorem takeOldest_of_isPinned (hpinned : p.table.IsPinned) : p.takeOldest = (none, p.walked) := by
  rw [takeOldest, Table.recordsAlong_eq_nil hpinned.isReclaimable_eq_false]
  rfl

/-- **Whoever finds no room takes nothing.** Were there anything to take, there would be room. -/
theorem makeRoom_of_full (hcap : p.table.size ≤ limit)
    (hfull : ¬(p.makeRoom limit now).2.table.size < limit) :
    (p.makeRoom limit now).1 = [] ∧ p.IsWalked (p.makeRoom limit now).2 := by
  obtain ⟨hsize, hpinned⟩ := not_not.mp (mt (size_makeRoom_lt_iff now hcap).mpr hfull)
  have hlive := takeLive_of_isPinned hpinned .pruned now
  have hfull : ¬p.table.size < limit := Nat.not_lt.mpr hsize.ge
  have hwalked : ¬p.walked.table.size < limit := hfull
  have hpinned' : p.walked.table.IsPinned := hpinned
  simp only [makeRoom, if_neg hfull, hlive, if_neg hwalked, takeOldest_of_isPinned hpinned']
  exact ⟨rfl, _, rfl⟩

theorem reserve_of_isTurnedDown
    (hcap : ∀ limit, p.settings.maxConnections = some limit → p.table.size ≤ limit) :
    (p.reserve k now).1.isTurnedDown = true →
      (p.reserve k now).2.1 = [] ∧ p.IsWalked (p.reserve k now).2.2 := by
  rw [reserve]
  dsimp only
  split <;> rename_i hmax
  · exact (absurd · Bool.false_ne_true)
  · split <;> rename_i hfull
    · exact (absurd · Bool.false_ne_true)
    · exact fun _ => makeRoom_of_full (hcap _ hmax) hfull

/-- **Whoever is turned down takes nothing.** -/
theorem admission_of_isTurnedDown
    (hcap : ∀ limit, p.settings.maxConnections = some limit → p.table.size ≤ limit) :
    (p.admission k ttl now).1.isTurnedDown = true →
      (p.admission k ttl now).2.1 = [] ∧ p.IsWalked (p.admission k ttl now).2.2 := by
  have hwalked : ([] : List Departure) = [] ∧ p.IsWalked p := ⟨rfl, isWalked_rfl⟩
  rw [admission]
  split <;> rename_i hk
  · exact reserve_of_isTurnedDown hcap
  · exact fun _ => hwalked
  · split
    · exact fun _ => hwalked
    · split
      · split
        · exact fun _ => hwalked
        · exact (absurd · Bool.false_ne_true)
      · -- a dead connection gives its own place away, so nobody is turned down for it
        rw [reserve_erase now hcap hk]
        exact (absurd · Bool.false_ne_true)

theorem isWalked_attempt
    (hcap : ∀ limit, p.settings.maxConnections = some limit → p.table.size ≤ limit)
    (h : (p.attempt k ttl now).1 = .refused why) : p.IsWalked (p.attempt k ttl now).2 := by
  obtain ⟨hnone, hwalked⟩ := admission_of_isTurnedDown hcap (congrArg Admission.isTurnedDown h)
  rw [attempt, hnone]
  exact hwalked

/-- Only a pool with a limit is ever full. -/
theorem exists_limit_of_full (h : (p.attempt k ttl now).1 = .refused .full) :
    ∃ limit, p.settings.maxConnections = some limit := by
  cases hmax : p.settings.maxConnections with
  | some limit => exact ⟨limit, rfl⟩
  | none =>
    have hreserve (t : Table) (now : Instant) : ((p.withTable t).reserve k now).1 = .reserved := by
      simp [reserve, hmax]
    have h : (p.admission k ttl now).1 = .refused .full := h
    rw [admission] at h
    split at h
    · cases (hreserve p.table now).symm.trans h
    · cases h
    · split at h
      · cases h
      · split at h
        · split at h <;> cases h
        · cases (hreserve _ now).symm.trans h

end Pool

/-! ### What the log says of waiting -/

/-- Whether an entry says that an acquire waits for admission, or has given up. -/
def Entry.isComplaint : Entry → Bool
  | .waiting .. => true
  | .gaveUp .. => true
  | _ => false

/-- **Nothing has changed in a pool** but that its table was walked and the log says that somebody
waits or has given up. -/
def Pool.IsLogged (p q : Pool) : Prop :=
  ∃ n lines, q = { p with walks := n, history := lines ++ p.history } ∧
    ∀ e ∈ lines, e.isComplaint = true

namespace Acquisition

variable {w : World} {p q : Pool} {r : Request} {now since : Instant} {refusals : List Instant}
  {plans : String → ConnectPlan} {L : Multiset Lease} {O : Multiset Opening} {a : Acquisition}
  {x : Progress Acquisition Acquired} {why : Refusal} {tries : List Try}

theorem isLogged_refuse (h : p.IsWalked q) (now : Instant) (r : Request) (since : Instant)
    (refusals : List Instant) (why : Refusal) :
    p.IsLogged (refuse q now r since refusals why).2 := by
  obtain ⟨n, rfl⟩ := h
  have hsilent : p.IsLogged { p with walks := n } := ⟨n, [], rfl, List.forall_mem_nil _⟩
  have hsays {e : Entry} (he : e.isComplaint = true) :
      p.IsLogged (Pool.note { p with walks := n } e) :=
    ⟨n, [e], rfl, fun _ hmem => List.mem_singleton.mp hmem ▸ he⟩
  rw [refuse]
  dsimp only
  split <;> dsimp only <;> split
  · exact hsays rfl
  · exact hsilent
  · exact hsays rfl
  · exact hsilent

/-- An attempt that is refused says so in the log, or says nothing. -/
theorem isLogged_attempt {y : Progress Stage Acquired} (hs : w.Passes ⟨p, L, O, 0⟩)
    (hwhy : (p.attempt r.database r.ttl w.now).1 = .refused why)
    (h : attempt plans p w.now r since refusals = (y, q)) : p.IsLogged q := by
  have hq : (refuse (p.attempt r.database r.ttl w.now).2 w.now r since refusals why).2 = q := by
    rw [← attempt_of_refused hwhy, h]
  exact hq ▸ isLogged_refuse (Pool.isWalked_attempt hs.capped hwhy) w.now r since refusals why

/-- **The tries of an acquire are harmless**: when it is called it prunes what has expired, and
apart from that no turn has changed anything but what the log says. -/
def Harmless (since : Instant) (tries : List Try) : Prop :=
  ∃ later first, tries = later ++ [first] ∧
    (first.found.prune since).2.IsLogged first.left ∧ ∀ t ∈ later, t.found.IsLogged t.left

/-- **An acquire that is refused whenever it tries is harmless.** -/
theorem Refused.harmless (h : Refused r since tries w x) : Harmless since tries := by
  induction h with
  | @called w plans p L O why x q hs hsince hwhy h =>
    subst hsince
    have hpruned : w.Passes ⟨(p.prune w.now).2, L, O, 0⟩ := hs.moves Pool.moves_prune
    exact ⟨[], _, rfl, isLogged_attempt hpruned hwhy (point_resume h),
      List.forall_mem_nil _⟩
  | @polled tries v a w plans p L O why x q before events hw hs hwake hwhy h ih =>
    obtain ⟨later, first, rfl, hfirst, hlater⟩ := ih
    obtain ⟨wake, rfl⟩ := before.waiting
    rw [poll_of_queued rfl hwake] at h
    refine ⟨_ :: later, first, rfl, hfirst, fun t ht => ?_⟩
    rcases List.mem_cons.mp ht with rfl | ht
    · exact isLogged_attempt hs hwhy (point_resume h)
    · exact hlater t ht

end Acquisition

/-! ### Runs -/

namespace World

variable {w : World}

theorem HasRefused.harmless {r : Request} {since : Instant} {tries : List Acquisition.Try}
    {x : Progress Acquisition Acquired} (h : w.HasRefused r since tries x) :
    Acquisition.Harmless since tries := by
  obtain ⟨v, events, -, hrefused⟩ := h
  exact hrefused.harmless

/-- **A refusal changes nothing.** In every state of a run, for every database, at any time and for
any time to live: an acquire that is refused, or whose lease of an idle connection would end beyond
the horizon, takes nothing away. Nothing leaves the pool for it, and all that has changed is how
often the table was walked.

So an acquire that waits for admission, and one that gives up, was refused whenever it tried. And
whenever an acquire is refused in all its tries, whatever the others do meanwhile, it changes
nothing in any of these turns but what the log says of its waiting, apart from what has expired and
is pruned when it is called. A turn that comes before the end of its pause changes nothing at
all. -/
theorem IsReachable.refusals_harmless (hw : w.IsReachable) :
    (∀ s, w.Passes s → ∀ k ttl now,
      let answer := s.pool.admission k ttl now
      answer.1.isTurnedDown = true → answer.2.1 = [] ∧ s.pool.IsWalked answer.2.2) ∧
    (∀ a ∈ w.acquisitions, Progress.isRefused (.waiting a.stage) = true →
      ∃ tries, w.HasRefused a.request a.since tries (.waiting a)) ∧
    (∀ r since e p q, w.Fails r since e p q → e.isRefusal = true → ∃ due why earlier,
      w.HasRefused r since (⟨due, w.now, why, p, q⟩ :: earlier) (.finished (.failed e))) ∧
    (∀ r since tries x, w.HasRefused r since tries x → Acquisition.Harmless since tries) ∧
    ∀ (plans : String → ConnectPlan) (p : Pool) (a : Acquisition), w.now < a.wake →
      a.poll plans p w.now = (.waiting a, p) := by
  refine ⟨fun s hs k ttl now => Pool.admission_of_isTurnedDown hs.capped,
    fun a ha => hw.hasRefused_of_waiting ha, fun r since e p q => hw.hasRefused_of_fails,
    fun r since tries x => HasRefused.harmless, fun plans p a hearly => ?_⟩
  rw [Acquisition.poll, if_pos hearly]

/-- Two acquires for one database: the second prunes an idle connection when it is called, has to
wait, and gives up a millisecond later. -/
theorem IsReachable.refusals_harmless_busy :
    let r : Request := { database := "a", ttl := ⟨5⟩, timeout := some ⟨1⟩ }
    let w := (World.init {} false).after
      [.start (.lease { database := "b", ttl := ⟨0⟩ } "idle"), .settle "idle" .release,
        .start (.lease { database := "a", ttl := ⟨5⟩ } "first"), .start (.lease r "second"), .tick]
    (w.pool.admission "a" ⟨5⟩ w.now).2.1 = [] ∧ ∃ tries,
      w.HasRefused r ⟨0⟩ tries (.finished (.failed (.busy "a" ⟨1⟩))) ∧
        Acquisition.Harmless ⟨0⟩ tries := by
  intro r w
  have hw : w.IsReachable := ⟨_, _, _, _, rfl⟩
  have hqueue : w.acquisitions = [⟨r, ⟨0⟩, .queued [⟨0⟩] ⟨1⟩⟩] := rfl
  have hleased : w.pool.table.find? "a" = some (.live ⟨1, ⟨5⟩, ⟨0⟩, true, false, 2⟩) := rfl
  have hdown : (w.pool.admission "a" ⟨5⟩ w.now).1.isTurnedDown = true := by
    rw [Pool.admission, hleased]
    rfl
  have hfails : w.Fails r ⟨0⟩ (.busy "a" ⟨1⟩) w.pool _ :=
    .polled (hqueue ▸ List.mem_singleton_self _) rfl
  obtain ⟨hnothing, -, htried, hharmless, -⟩ := hw.refusals_harmless
  obtain ⟨hnone, -⟩ := hnothing w.custody (Passes.rest hw) "a" ⟨5⟩ w.now hdown
  obtain ⟨due, why, earlier, htries⟩ := htried r ⟨0⟩ _ _ _ hfails rfl
  exact ⟨hnone, _, htries, hharmless r ⟨0⟩ _ _ htries⟩

end World

end KeyedPool
