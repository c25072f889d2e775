import KeyedPool.Proofs.Custody.Order
import KeyedPool.Proofs.Exclusivity

/-!
# What a run passes through

Between two events a pool is at rest; inside an event it passes through other states, and what an
operation finds or leaves behind is a matter of these. Since every event is a sequence of moves,
they are among the states to which moves lead from a world at rest, at the time of its clock.

An acquire ends in the turn in which it is called, or in one in which it is polled. Which place it
had kept until then tells how far it had come, and so what may have happened in its last turn.

* `KeyedPool.World.Passes`: a state between two events or inside one.
* `KeyedPool.World.Passes.called`, `KeyedPool.World.Passes.waiting`: the acquires of a run find the
  pool in such states.
* `KeyedPool.World.Passes.sound`: what the moves keep holds there, too.
* `KeyedPool.Acquisition.EndsWith`: how an acquire ends.
* `KeyedPool.Acquisition.EndsWith.cases_stage`: what its last turn was.
-/

namespace KeyedPool

open Custody

/-- **A state through which a run passes**: a reachable world at rest, or one of its events on the
way. -/
def World.Passes (w : World) (s : Custody) : Prop := w.IsReachable ∧ Moves w.now w.custody s

namespace World.Passes

variable {w : World} {s t : Custody}

/-- A run passes through a world at rest. -/
theorem rest (hw : w.IsReachable) : w.Passes w.custody := ⟨hw, .refl⟩

/-- An acquire that is called between two events has nothing yet, beside what the others have. -/
theorem called (hw : w.IsReachable) :
    w.Passes (Holding.beside {} w.pool w.custody.leases w.custody.openings) := by
  rw [Holding.beside_none]
  exact rest hw

/-- **An acquire that waits** is polled and given up in such a state, be it that of a task or that
of the body of a scope. -/
theorem waiting (hw : w.IsReachable) {a : Acquisition} (ha : a ∈ w.acquisitions) :
    ∃ O, w.Passes (a.holding.beside w.pool w.custody.leases O) := by
  rw [Acquisition.holding]
  cases ho : a.opening? with
  | none => exact ⟨_, called hw⟩
  | some o =>
    have hmem : o ∈ w.custody.openings := Multiset.mem_coe.mpr (List.mem_filterMap.mpr ⟨a, ha, ho⟩)
    obtain ⟨O, hO⟩ := Multiset.exists_cons_of_mem hmem
    refine ⟨O, ?_⟩
    rw [Holding.beside_opening, ← hO]
    exact rest hw

/-- Moves lead from one state of a run to another. -/
theorem moves (hs : w.Passes s) (h : Moves w.now s t) : w.Passes t := ⟨hs.1, hs.2.trans h⟩

theorem move (hs : w.Passes s) (h : Move w.now s t) : w.Passes t := hs.moves (.single h)

/-- **What holds of a fresh pool and is kept by every move holds throughout a run.** -/
theorem sound {P : Custody → Prop}
    (hmove : ∀ now s t, Move now s t → s.Balanced → s.Told → P s → P t) (hs : w.Passes s)
    (hfresh : ∀ settings enumeration, P ⟨{ settings, enumeration }, 0, 0, 0⟩) : P s := by
  obtain ⟨hw, hmoves⟩ := hs
  have hkept : s.Balanced ∧ s.Told ∧ P s := by
    refine hmoves.keeps (P := fun s => s.Balanced ∧ s.Told ∧ P s) ?_
      ⟨hw.balanced, hw.told, hw.sound hmove hfresh⟩
    rintro s t h ⟨hb, ht, hp⟩
    exact ⟨hb.move h, ht.move h hb, hmove w.now s t h hb ht hp⟩
  exact hkept.2.2

theorem balanced (hs : w.Passes s) : s.Balanced :=
  hs.sound (fun _ _ _ h hb _ _ => hb.move h) balanced_fresh

theorem told (hs : w.Passes s) : s.Told :=
  hs.sound (fun _ _ _ h hb ht _ => ht.move h hb) told_fresh

theorem capped (hs : w.Passes s) : s.Capped :=
  hs.sound (fun _ _ _ h hb _ hc => hc.move h hb) fun _ _ limit _ => Nat.zero_le limit

/-- A pool stays set up as it is. -/
theorem settings_eq (hs : w.Passes s) : s.pool.settings = w.pool.settings := by
  refine hs.2.keeps (P := fun s => s.pool.settings = w.pool.settings) ?_ rfl
  intro s t h hs
  exact h.settings_eq.trans hs

theorem orderly (hs : w.Passes s) : s.Orderly := by
  have hsound := hs.sound (P := fun s => s.Capped ∧ s.Orderly) ?_ ?_
  · exact hsound.2
  · rintro now s t h hb ht ⟨hc, ho⟩
    exact ⟨hc.move h hb, ho.move h hb ht hc⟩
  · intro settings enumeration
    refine ⟨fun limit _ => Nat.zero_le limit, fun e past h => ?_⟩
    exact absurd (List.suffix_nil.mp h) (List.cons_ne_nil e past)

theorem exclusive (hs : w.Passes s) : s.Exclusive :=
  hs.sound (fun _ _ _ h hb ht he => he.move h hb ht) exclusive_fresh

end World.Passes

/-! ### The last turn of an acquire -/

namespace Acquisition

/-- **An acquire ends** with a result, in the turn in which it is called or polled, and leaves a
pool as another. Until then it has kept a place or none. -/
inductive EndsWith (plans : String → ConnectPlan) (now : Instant) :
    Request → Option Opening → Pool → Acquired → Pool → Prop
  /-- It ends as soon as it is called. -/
  | called {r p result q} (h : start plans p now r = (.finished result, q)) :
    EndsWith plans now r none p result q
  /-- It ends when it is polled. -/
  | polled {a p result q} (h : poll plans p now a = (.finished result, q)) :
    EndsWith plans now a.request a.opening? p result q

variable {plans : String → ConnectPlan} {now : Instant} {r : Request} {kept? : Option Opening}
  {p q : Pool} {result : Acquired} {L : Multiset Lease} {O : Multiset Opening}

theorem resume_snd (r : Request) (since : Instant) (y : Progress Stage Acquired × Pool) :
    (resume r since y).2 = y.2 := by
  rcases y with ⟨_ | _, q⟩ <;> rfl

theorem resume_of_finished {r : Request} {since : Instant} {y : Progress Stage Acquired × Pool}
    {result : Acquired} (h : y.1 = .finished result) : (resume r since y).1 = .finished result := by
  rcases y with ⟨_ | _, q⟩ <;> cases h
  rfl

theorem eq_of_resume {since : Instant} {x : Progress Stage Acquired × Pool}
    (h : resume r since x = (.finished result, q)) : x = (.finished result, q) := by
  rcases x with ⟨_ | _, p⟩ <;> cases h
  rfl

theorem eq_of_resume_waiting {a : Acquisition} {since : Instant}
    {y : Progress Stage Acquired × Pool}
    (h : resume r since y = (.waiting a, q)) : a.request = r ∧ a.since = since := by
  rcases y with ⟨_ | _, p⟩ <;> cases h
  exact ⟨rfl, rfl⟩

/-- An acquire goes on waiting for what it asked for. -/
theorem eq_of_poll {a b : Acquisition} (h : poll plans p now a = (.waiting b, q)) :
    b.request = a.request ∧ b.since = a.since := by
  rw [poll] at h
  split at h
  · cases h
    exact ⟨rfl, rfl⟩
  · split at h
    · exact eq_of_resume_waiting h
    · exact eq_of_resume_waiting h
    · cases h

namespace EndsWith

/-- The last turn of an acquire is a sequence of moves. -/
theorem moves (h : EndsWith plans now r kept? p result q) :
    Moves now (Holding.beside { opening? := kept? } p L O) (result.holding.beside q L O) := by
  cases h with
  | @called r p result q h =>
    have hstart : Moves now ⟨p, L, O, 0⟩ _ := moves_start plans r
    rw [h] at hstart
    exact .of_eq Holding.beside_none hstart
  | @polled a p result q h =>
    have hpoll : Moves now (a.holding.beside p L O) _ := moves_poll plans a
    rw [h] at hpoll
    exact hpoll

/-- **What the last turn of an acquire was**: an attempt to be admitted, with all that follows from
it, the end of opening its connection, or the end of the startup hook. -/
theorem cases_stage (h : EndsWith plans now r kept? p result q) :
    (kept? = none ∧ ∃ p' since refusals, (p' = p ∨ p' = (p.prune now).2) ∧
      attempt plans p' now r since refusals = (.finished result, q)) ∨
    (kept? = some ⟨r, .asked⟩ ∧ ∃ plan, endConnect p now r plan = (.finished result, q)) ∨
    ∃ connection hook, kept? = some ⟨r, .starting connection⟩ ∧
      endHook p now r connection hook = (result, q) := by
  cases h with
  | called h => exact .inl ⟨rfl, _, _, _, .inr rfl, eq_of_resume h⟩
  | @polled a p result q h =>
    rcases a with ⟨r, since, stage⟩
    rw [poll] at h
    split at h
    · cases h
    · cases stage with
      | queued refusals wake => exact .inl ⟨rfl, _, _, _, .inl rfl, eq_of_resume h⟩
      | connecting plan wake => exact .inr (.inl ⟨rfl, _, eq_of_resume h⟩)
      | starting connection hook wake =>
        dsimp only at h
        refine .inr (.inr ⟨connection, hook, rfl, ?_⟩)
        simpa [Prod.ext_iff] using h

end EndsWith

end Acquisition

end KeyedPool
