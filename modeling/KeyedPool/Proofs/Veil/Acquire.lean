import KeyedPool.Proofs.Custody.Acquire
import KeyedPool.Proofs.Veil

/-!
# Acquires under the veil

An acquire opens connections, and how they will let themselves be closed is laid down in the plans
for opening them. So plans have a veil too, and with them what waits for one to be carried out.
Nothing else in an acquire looks at closings: it commutes with the veil, stage by stage.

* `KeyedPool.ConnectPlan.veil`, `KeyedPool.Acquisition.veil`: a plan, and an acquire that waits.
* `KeyedPool.Acquisition.veil_start`, `KeyedPool.Acquisition.veil_poll`: an acquire is called, and
  polled.
* `KeyedPool.Acquisition.veil_abandon`: it is given up.
-/

namespace KeyedPool

/-- The end of opening a connection under the veil: a connection does not resist to be closed. -/
def ConnectResult.veil : ConnectResult → ConnectResult
  | .connected closed broken _ => .connected closed broken false
  | r => r

/-- A plan under the veil. -/
def ConnectPlan.veil (plan : ConnectPlan) : ConnectPlan := { plan with result := plan.result.veil }

/-- A stage of an acquire under the veil. -/
def Stage.veil : Stage → Stage
  | .connecting plan wake => .connecting plan.veil wake
  | s => s

/-- An acquire that waits, under the veil. -/
def Acquisition.veil (a : Acquisition) : Acquisition := { a with stage := a.stage.veil }

/-- Something that takes time, with what waits changed. -/
def Progress.map {σ σ' α : Type} (f : σ → σ') : Progress σ α → Progress σ' α
  | .waiting s => .waiting (f s)
  | .finished a => .finished a

namespace Acquisition

variable (plans : String → ConnectPlan) (p : Pool) (now : Instant) (r : Request) (c : Nat)

/-! ### Opening a connection -/

theorem veil_publish : publish p.veil now r c = (publish p now r c).map id Pool.veil := by
  simp only [publish, Pool.veil_publish]
  rcases p.publish r.database c r.ttl r.persistent now with ⟨_ | l, q⟩ <;> rfl

theorem veil_dropUnopened : (dropUnopened p r).veil = dropUnopened p.veil r :=
  Pool.veil_giveUpOpening (p.note (.unconnected r.database)) r.database

theorem veil_dropOpened : (dropOpened p r c).veil = dropOpened p.veil r c := by
  rw [dropOpened, dropOpened, ← Pool.veil_giveUpOpening, Pool.veil_retire]

/-- The startup hook of a connection may close it, which the veil does not hide. -/
theorem veil_endHook (hook : HookPlan) :
    endHook p.veil now r c hook = (endHook p now r c hook).map id Pool.veil := by
  have hflags : (p.modifyHandle c fun h =>
        { h with broken := h.broken || hook.breaks, closed := h.closed || hook.hangsUp }).veil =
      p.veil.modifyHandle c fun h =>
        { h with broken := h.broken || hook.breaks, closed := h.closed || hook.hangsUp } :=
    p.veil_modifyHandle c fun h => by simp [Handle.veil, Bool.or_right_comm]
  simp only [endHook, ← hflags]
  cases hook.result with
  | crash text => simp only [← veil_dropOpened, Prod.map, id]
  | fail failure => simp only [← veil_dropOpened, Prod.map, id]
  | done =>
    have hfinished (q : Pool) : q.veil.note (.hookFinished c) =
        (q.note (.hookFinished c)).veil := rfl
    simp only [hfinished, veil_publish]

theorem veil_endConnect (plan : ConnectPlan) :
    endConnect p.veil now r plan.veil =
      (endConnect p now r plan).map (Progress.map Stage.veil) Pool.veil := by
  rcases plan with ⟨delay, result⟩
  cases result with
  | crash text =>
    simp only [endConnect, ConnectPlan.veil, ConnectResult.veil, ← veil_dropUnopened]
    rfl
  | fail failure =>
    simp only [endConnect, ConnectPlan.veil, ConnectResult.veil, ← veil_dropUnopened]
    rfl
  | connected closed broken failClose =>
    have hconnected : ((p.veil.addHandle { database := r.database, closed, broken }).note
        (.connected r.database p.handles.length)).tally .opened =
          (((p.addHandle { database := r.database, closed, broken, failClose }).note
            (.connected r.database p.handles.length)).tally .opened).veil := by
      rw [Pool.veil_tally, Pool.veil_note, Pool.veil_addHandle]
      simp [Handle.veil, Entry.veil?, Tally.veil]
    simp only [endConnect, ConnectPlan.veil, ConnectResult.veil, Pool.length_handles_veil,
      hconnected]
    cases r.startup with
    | none =>
      simp only [veil_publish]
      rfl
    | some hook =>
      have hstarted (q : Pool) : q.veil.note (.hookStarted p.handles.length) =
          (q.note (.hookStarted p.handles.length)).veil := rfl
      simp only [hstarted, veil_endHook]
      split <;> rfl

theorem veil_beginConnect :
    beginConnect (fun k => (plans k).veil) p.veil now r =
      (beginConnect plans p now r).map (Progress.map Stage.veil) Pool.veil := by
  have hasked : (p.veil.note (.opening r.database)).note (.connecting r.database) =
      ((p.note (.opening r.database)).note (.connecting r.database)).veil := rfl
  have hdelay : (plans r.database).veil.delay = (plans r.database).delay := rfl
  simp only [beginConnect, hasked, hdelay, veil_endConnect]
  split <;> rfl

/-! ### Asking for admission -/

theorem veil_refuse (since : Instant) (refusals : List Instant) (why : Refusal) :
    refuse p.veil now r since refusals why =
      (refuse p now r since refusals why).map (Progress.map Stage.veil) Pool.veil := by
  have hnote (e : Entry) (he : e.veil? = some e) (noted : Prop) [Decidable noted] :
      (if noted then p.veil.note e else p.veil) = (if noted then p.note e else p).veil := by
    rw [apply_ite Pool.veil, Pool.veil_note, he]
    rfl
  simp only [refuse, Pool.settings_veil]
  by_cases hover : p.settings.patience r ≤ now.since since
  · simp only [hover, if_true]
    rw [hnote _ rfl]
    rfl
  · simp only [hover, if_false]
    rw [hnote _ rfl]
    rfl

/-- **An attempt to be admitted**, and all that follows from it. -/
theorem veil_attempt (hp : p.IsIntact) (since : Instant) (refusals : List Instant) :
    attempt (fun k => (plans k).veil) p.veil now r since refusals =
      (attempt plans p now r since refusals).map (Progress.map Stage.veil) Pool.veil := by
  simp only [attempt, Pool.veil_attempt p now r.database hp]
  rcases p.attempt r.database r.ttl now with ⟨_ | _ | _ | _, q⟩
  · rfl
  · exact veil_beginConnect plans q now r
  · exact veil_refuse q now r since refusals _
  · rfl

/-! ### Driving an acquire -/

theorem veil_resume (since : Instant) (x : Progress Stage Acquired × Pool) :
    resume r since (x.map (Progress.map Stage.veil) Pool.veil) =
      (resume r since x).map (Progress.map veil) Pool.veil := by
  rcases x with ⟨_ | _, p⟩ <;> rfl

/-- **An acquire is called** under the veil. -/
theorem veil_start (hp : (p.prune now).2.IsIntact) :
    start (fun k => (plans k).veil) p.veil now r =
      (start plans p now r).map (Progress.map veil) Pool.veil := by
  rw [start, start, ← veil_resume, ← veil_attempt plans _ now r hp, Pool.veil_prune]
  rfl

/-- **An acquire that waits is polled** under the veil. -/
theorem veil_poll (hp : p.IsIntact) (a : Acquisition) :
    poll (fun k => (plans k).veil) p.veil now a.veil =
      (poll plans p now a).map (Progress.map veil) Pool.veil := by
  rcases a with ⟨r, since, stage⟩
  have hwake : (veil ⟨r, since, stage⟩).wake = wake ⟨r, since, stage⟩ := by cases stage <;> rfl
  rw [poll, poll, hwake]
  split
  · rfl
  · cases stage with
    | queued refusals wake =>
      exact (congrArg _ (veil_attempt plans p now r hp since refusals)).trans
        (veil_resume r since _)
    | connecting plan wake =>
      exact (congrArg _ (veil_endConnect p now r plan)).trans (veil_resume r since _)
    | starting connection hook wake =>
      simp only [veil, Stage.veil, veil_endHook]
      rfl

theorem veil_abandon (a : Acquisition) : (abandon p a).veil = abandon p.veil a.veil := by
  rcases a with ⟨r, since, stage⟩
  cases stage with
  | queued refusals wake => rfl
  | connecting plan wake => exact veil_dropUnopened p r
  | starting connection hook wake => exact veil_dropOpened p r connection

end Acquisition

end KeyedPool
