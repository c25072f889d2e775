import KeyedPool.Proofs.Conservation
import KeyedPool.Proofs.Custody.Passage

/-!
# The moments of a run

What holds in a world and did not hold of the fresh pool began to hold at some moment: in one of the
events of the run, and in one of the deeds of this event. So a law about what is in the history is
proved by looking at the deed in which it was written down, and at the pool as this deed found and
left it.

* `KeyedPool.World.IsReachable.exists_event`: the event in which something ceases to hold.
* `KeyedPool.World.HasDone`: a deed was done in a run.
* `KeyedPool.World.IsReachable.exists_deed`: the deed in which something ceases to hold.
* `KeyedPool.World.IsReachable.exists_deed_of_mem`: the deed in which something is written down.
-/

namespace KeyedPool

open Custody

namespace World

variable {w v : World} {s t : Custody} {e : Entry}

/-! ### Events -/

/-- What holds of every fresh world and not after a run is lost in one of its events. -/
theorem IsReachable.exists_event {P : World → Prop} (hw : w.IsReachable)
    (hinit : ∀ settings driven enumeration, P (init settings driven enumeration)) (hnot : ¬P w) :
    ∃ v e events, v.IsReachable ∧ w = (v.step e).2.after events ∧ P v ∧ ¬P (v.step e).2 := by
  obtain ⟨settings, driven, enumeration, events, rfl⟩ := hw
  have hfresh : (init settings driven enumeration).IsReachable := ⟨_, _, _, [], rfl⟩
  have hP : P (init settings driven enumeration) := hinit settings driven enumeration
  generalize init settings driven enumeration = u at hfresh hP hnot
  induction events generalizing u with
  | nil => exact absurd hP hnot
  | cons e es ih =>
    by_cases hstep : P (u.step e).2
    · exact ih (u.step e).2 (hfresh.after [e]) hstep hnot
    · exact ⟨u, e, es, hfresh, rfl, hP, hstep⟩

/-- A pool that is fresh has written down nothing but that there is nothing that could prune. -/
theorem mem_history_init {settings : PoolSettings} {driven : Bool} {enumeration : Enumeration}
    (he : e ∈ (init settings driven enumeration).pool.history) : e = .noScheduler := by
  rw [init] at he
  split at he
  · cases he
  · split at he
    · cases he
    · exact List.mem_singleton.mp he

/-! ### Deeds -/

/-- No move of a run takes back what was written down. -/
theorem Passes.suffix (hs : w.Passes s) (h : Moves w.now s t) :
    s.pool.history <:+ t.pool.history := by
  have hkept : t.Balanced ∧ s.pool.history <:+ t.pool.history := by
    refine h.keeps (P := fun u => u.Balanced ∧ s.pool.history <:+ u.pool.history) ?_
      ⟨hs.balanced, List.suffix_rfl⟩
    rintro u v h ⟨hb, hsuffix⟩
    exact ⟨hb.move h, hsuffix.trans (h.suffix hb)⟩
  exact hkept.2

/-- **A deed was done in a run**: in an event, from which the run went on to some world. -/
def HasDone (w v : World) (s t : Custody) : Prop :=
  v.IsReachable ∧ ∃ e events, w = (v.step e).2.after events ∧
    Deeds v.now v.custody s ∧ Deed v.now s t ∧ Deeds v.now t (v.step e).2.custody

namespace HasDone

theorem deed (h : w.HasDone v s t) : Deed v.now s t := by
  obtain ⟨-, -, -, -, -, hdeed, -⟩ := h
  exact hdeed

/-- The run passed through what the deed found. -/
theorem found (h : w.HasDone v s t) : v.Passes s := by
  obtain ⟨hv, -, -, -, hbefore, -, -⟩ := h
  exact ⟨hv, hbefore.moves⟩

/-- It passed through what the deed left, too. -/
theorem left (h : w.HasDone v s t) : v.Passes t := h.found.moves h.deed.moves

end HasDone

/-- **What holds of a fresh pool and not after a run is lost in one of the deeds of the run.** -/
theorem IsReachable.exists_deed {P : Custody → Prop} (hw : w.IsReachable)
    (hinit : ∀ settings driven enumeration, P (init settings driven enumeration).custody)
    (hnot : ¬P w.custody) : ∃ v s t, w.HasDone v s t ∧ P s ∧ ¬P t := by
  obtain ⟨v, e, events, hv, hw, hP, hlost⟩ := hw.exists_event (P := fun w => P w.custody) hinit hnot
  obtain ⟨s, t, hbefore, hdeed, hafter, hs, ht⟩ := (deeds_step hv.tidy e).exists_deed hP hlost
  exact ⟨v, s, t, ⟨hv, e, events, hw, hbefore, hdeed, hafter⟩, hs, ht⟩

/-- **What is in the history was written down in one of the deeds of the run**, but for what a fresh
pool says of itself. -/
theorem IsReachable.exists_deed_of_mem (hw : w.IsReachable) (he : e ∈ w.pool.history)
    (hne : e ≠ .noScheduler) :
    ∃ v s t, w.HasDone v s t ∧ e ∉ s.pool.history ∧ e ∈ t.pool.history := by
  obtain ⟨v, s, t, hdone, hs, ht⟩ := hw.exists_deed (P := fun s => e ∉ s.pool.history)
    (fun _ _ _ hfresh => hne (mem_history_init hfresh)) (not_not.mpr he)
  exact ⟨v, s, t, hdone, hs, not_not.mp ht⟩

end World

end KeyedPool
