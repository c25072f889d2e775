import KeyedPool.Proofs.Custody.Passage

/-!
# How an acquire ends

Whatever an acquire went through, the last thing that it does is one of five: it publishes its
connection, gives up a connection that it has or one that has not come, leases an idle connection,
or is not admitted. Each of them is done in a state through which the run passes and in which the
acquire still owns what it has, so the laws of such states can be used for what is left afterwards.

* `KeyedPool.Pool.find?_of_attempt`, `KeyedPool.Pool.length_handles_attempt`: what an attempt leaves
  alone.
* `KeyedPool.Acquisition.Obtains`: the connections that an acquire has obtained.
* `KeyedPool.Acquisition.LastStep`: the last thing that an acquire does.
* `KeyedPool.Acquisition.EndsWith.lastStep`: it ends with one of these.
-/

namespace KeyedPool

open Custody

/-! ### What an attempt leaves alone -/

namespace Pool

variable {p : Pool} {now : Instant} {k : String} {c : Nat} {ttl : Duration}

@[simp] theorem length_handles_close : (p.close k c).2.handles.length = p.handles.length := by
  unfold close
  split
  · rfl
  · dsimp only
    split <;> exact List.length_set

@[simp] theorem length_handles_retire (d : Departure) :
    (p.retire d).2.handles.length = p.handles.length := by
  unfold retire
  cases d.why.tally? <;> simp

@[simp] theorem length_handles_retireAll (ds : List Departure) :
    (p.retireAll ds).2.handles.length = p.handles.length := by
  induction ds generalizing p with
  | nil => rfl
  | cons d ds ih => exact ih.trans (length_handles_retire d)

@[simp] theorem handles_takeOldest : p.takeOldest.2.handles = p.handles := by
  rw [takeOldest]
  split <;> rfl

@[simp] theorem handles_makeRoom (limit : Nat) :
    (p.makeRoom limit now).2.handles = p.handles := by
  rw [makeRoom]
  split
  · rfl
  · dsimp only
    split
    · rfl
    · exact handles_takeOldest

@[simp] theorem handles_reserve : (p.reserve k now).2.2.handles = p.handles := by
  rw [reserve]
  dsimp only
  split
  · rfl
  · split <;> exact handles_makeRoom _

@[simp] theorem handles_admission : (p.admission k ttl now).2.2.handles = p.handles := by
  rw [admission]
  split
  · exact handles_reserve
  · rfl
  · split
    · rfl
    · split
      · split <;> rfl
      · exact handles_reserve

/-- Pruning opens no connection. -/
@[simp] theorem length_handles_prune : (p.prune now).2.handles.length = p.handles.length := by
  rw [prune]
  dsimp only
  split <;> exact length_handles_retireAll _

/-- Neither does an attempt. -/
@[simp] theorem length_handles_attempt :
    (p.attempt k ttl now).2.handles.length = p.handles.length := by
  rw [attempt]
  simp

/-- Pruning takes the records away that it may take, and no others. -/
theorem table_prune : (p.prune now).2.table = p.table.without (Record.isPrunable now) := by
  rw [prune]
  dsimp only
  split <;> simp [takeLive]

/-- Pruning leaves the places alone. -/
theorem find?_prune_eq_opening_iff :
    (p.prune now).2.table.find? k = some .opening ↔ p.table.find? k = some .opening := by
  rw [table_prune, Table.find?_without, Option.filter_eq_some_iff]
  exact and_iff_left rfl

/-- A place that could not be kept is not in the table. -/
theorem find?_reserve_eq_none (hk : p.table.find? k = none)
    (h : (p.reserve k now).1 ≠ .reserved) : (p.reserve k now).2.2.table.find? k = none := by
  simp only [reserve] at h ⊢
  split
  · rename_i hmax
    simp [hmax] at h
  · rename_i limit hmax
    split
    · rename_i hroom
      simp [hmax, hroom] at h
    · exact find?_makeRoom_eq_none limit hk

/-- An attempt that keeps no place finds those that there are. -/
theorem find?_of_attempt (h : (p.attempt k ttl now).1 ≠ .reserved)
    (hk : (p.attempt k ttl now).2.table.find? k = some .opening) :
    p.table.find? k = some .opening := by
  simp only [attempt, table_retireAll, admission] at h hk
  split at hk
  · rename_i hnone
    simp only [hnone] at h
    rw [find?_reserve_eq_none hnone h] at hk
    cases hk
  · assumption
  · -- a record is in the way, and stays one or gives its place away
    rename_i r hlive
    simp only [hlive] at h
    split at hk
    · exact hk
    · rename_i hidle
      rw [if_neg hidle] at h
      split at hk
      · split at hk
        · exact hk
        · simp [hlive, Slot.modify] at hk
      · rename_i hdead
        rw [if_neg hdead] at h
        rw [find?_reserve_eq_none (by simp) h] at hk
        cases hk

/-! ### Connections that are not closed -/

variable {h : Handle} {c c' : Nat}

/-- To close a connection counts, so one that was never closed is as it was. -/
theorem getElem?_close (hc : (p.close k c').2.handles[c]? = some h) (hopen : h.closeCalls = 0) :
    p.handles[c]? = some h := by
  rw [close] at hc
  split at hc
  · exact hc
  · rename_i h' hh'
    have hset : (p.handles.set c' h'.close.2)[c]? = some h := by
      dsimp only at hc
      split at hc <;> exact hc
    rw [List.getElem?_set] at hset
    split at hset
    · -- it was closed just now
      split at hset
      · cases hset
        exact absurd hopen (Nat.succ_ne_zero _)
      · cases hset
    · exact hset

theorem getElem?_retire {d : Departure} (hc : (p.retire d).2.handles[c]? = some h)
    (hopen : h.closeCalls = 0) : p.handles[c]? = some h := by
  have hbefore := getElem?_close hc hopen
  revert hbefore
  cases d.why.tally? <;> exact id

theorem getElem?_retireAll {ds : List Departure} (hc : (p.retireAll ds).2.handles[c]? = some h)
    (hopen : h.closeCalls = 0) : p.handles[c]? = some h := by
  induction ds generalizing p with
  | nil => exact hc
  | cons d ds ih => exact getElem?_retire (ih hc) hopen

/-- Pruning leaves a connection alone that it does not close. -/
theorem getElem?_prune (hc : (p.prune now).2.handles[c]? = some h) (hopen : h.closeCalls = 0) :
    p.handles[c]? = some h := by
  have hretired : ((p.takeLive .pruned (Record.isPrunable now)).2.retireAll
      (p.takeLive .pruned (Record.isPrunable now)).1).2.handles[c]? = some h := by
    rw [prune] at hc
    dsimp only at hc
    split at hc <;> exact hc
  have htaken := getElem?_retireAll hretired hopen
  exact htaken

end Pool

/-- Pruning leaves the connection of a record as it is that stays. -/
theorem World.Passes.isHealthy_prune {w : World} {p : Pool} {L : Multiset Lease}
    {O : Multiset Opening} {k : String} {x : Record} (hs : w.Passes ⟨p, L, O, 0⟩)
    (hx : (p.prune w.now).2.table.find? k = some (.live x)) :
    (p.prune w.now).2.isHealthy x.connection = p.isHealthy x.connection := by
  have hpruned : w.Passes ⟨(p.prune w.now).2, L, O, 0⟩ := hs.moves Pool.moves_prune
  have hrecord : (k, x.connection) ∈ (p.prune w.now).2.table.connections :=
    Table.mem_connections.mpr ⟨x, hx, rfl⟩
  obtain ⟨handle, hc, hopen⟩ :=
    hpruned.told.exists_open_handle hpruned.balanced (Multiset.mem_add.mpr (.inl hrecord))
  have hbefore : p.handles[x.connection]? = some handle := Pool.getElem?_prune hc hopen
  have hafter : (p.prune w.now).2.handles[x.connection]? = some handle := hc
  rw [Pool.isHealthy, Pool.isHealthy, hbefore, hafter]

namespace Acquisition

/-! ### The last step of an acquire -/

/-- The connections that an acquire has obtained by the time that it leaves a pool as another: the
one whose startup hook ran until then, or one that was opened meanwhile. -/
def Obtains (kept? : Option Opening) (p q : Pool) (c : Nat) : Prop :=
  kept?.bind Opening.connection? = some c ∨ p.handles.length ≤ c ∧ c < q.handles.length

/-- **The last thing that an acquire does** which found a pool `p` in its last turn, beside the
leases and the places of others. -/
inductive LastStep (w : World) (L : Multiset Lease) (O : Multiset Opening) (r : Request)
    (kept? : Option Opening) (p : Pool) : Acquired → Pool → Prop
  /-- It publishes its connection, the only one that it has obtained. -/
  | publishes {p' : Pool} {stage : Opening.Stage} {c : Nat} {result : Acquired} {q : Pool}
      (hs : w.Passes ⟨p', L, ⟨r, stage⟩ ::ₘ O, 0⟩)
      (hstage : stage = .opened c ∧ r.startup = none ∨ stage = .fit c)
      (hobtains : ∀ c', Obtains kept? p p' c' ↔ c' = c)
      (h : publish p' w.now r c = (result, q)) : LastStep w L O r kept? p result q
  /-- It gives up its connection, the only one that it has obtained. -/
  | dropsOpened {p' : Pool} {c : Nat} {result : Acquired}
      (hs : w.Passes ⟨p', L, ⟨r, .starting c⟩ ::ₘ O, 0⟩)
      (hobtains : ∀ c', Obtains kept? p p' c' ↔ c' = c) (hfail : ∀ l, result ≠ .lease l) :
    LastStep w L O r kept? p result (dropOpened p' r c)
  /-- It gives up the connection that has not come. -/
  | dropsUnopened {p' : Pool} {result : Acquired}
      (hs : w.Passes ⟨p', L, ⟨r, .asked⟩ ::ₘ O, 0⟩)
      (hobtains : ∀ c', ¬Obtains kept? p p' c') (hfail : ∀ l, result ≠ .lease l) :
    LastStep w L O r kept? p result (dropUnopened p' r)
  /-- It leases an idle connection. -/
  | reuses {p' : Pool} {generation c : Nat} (hkept : kept? = none) :
    LastStep w L O r kept? p (.lease ⟨r.database, generation, c⟩)
      (p'.note (.reused ⟨r.database, generation, c⟩ w.now r.ttl))
  /-- It is not admitted, and has no place of its own. -/
  | refused {result : Acquired} {q : Pool} (hkept : kept? = none)
      (hplace : q.table.find? r.database = some .opening →
        p.table.find? r.database = some .opening)
      (hlength : q.handles.length = p.handles.length) (hfail : ∀ l, result ≠ .lease l) :
    LastStep w L O r kept? p result q

variable {w : World} {plans : String → ConnectPlan} {r : Request} {kept? : Option Opening}
  {p p' q : Pool} {result : Acquired} {L : Multiset Lease} {O : Multiset Opening} {c : Nat}

/-- The startup hook has ended. -/
theorem lastStep_endHook {hook : HookPlan} (hs : w.Passes ⟨p', L, ⟨r, .starting c⟩ ::ₘ O, 0⟩)
    (hobtains : ∀ c', Obtains kept? p p' c' ↔ c' = c)
    (h : endHook p' w.now r c hook = (result, q)) : LastStep w L O r kept? p result q := by
  let f (h : Handle) : Handle :=
    { h with broken := h.broken || hook.breaks, closed := h.closed || hook.hangsUp }
  -- the hook may have changed the flags of the connection
  have hflags : w.Passes ⟨p'.modifyHandle c f, L, ⟨r, .starting c⟩ ::ₘ O, 0⟩ :=
    hs.move (.flags c f fun _ => ⟨rfl, rfl⟩)
  have hlength : (p'.modifyHandle c f).handles.length = p'.handles.length := List.length_modify ..
  have hobtains : ∀ c', Obtains kept? p (p'.modifyHandle c f) c' ↔ c' = c := by
    intro c'
    rw [Obtains, hlength]
    exact hobtains c'
  rw [endHook] at h
  split at h
  · cases h
    exact .dropsOpened hflags hobtains (by rintro l ⟨⟩)
  · cases h
    exact .dropsOpened hflags hobtains (by rintro l ⟨⟩)
  · exact .publishes (hflags.move (.finishHook r c)) (.inr rfl) hobtains h

/-- Opening the connection has ended. -/
theorem lastStep_endConnect {plan : ConnectPlan} (hs : w.Passes ⟨p', L, ⟨r, .asked⟩ ::ₘ O, 0⟩)
    (hnone : kept?.bind Opening.connection? = none)
    (hlength : p'.handles.length = p.handles.length)
    (h : endConnect p' w.now r plan = (.finished result, q)) :
    LastStep w L O r kept? p result q := by
  have hobtains (n : Nat) (p'' : Pool) (hn : p''.handles.length = p'.handles.length + n) (c : Nat) :
      Obtains kept? p p'' c ↔ p'.handles.length ≤ c ∧ c < p'.handles.length + n := by
    simp [Obtains, hnone, hn, hlength]
  have hpair {x : Acquired × Pool}
      (hx : ((.finished x.1, x.2) : Progress Stage Acquired × Pool) = (.finished result, q)) :
      x = (result, q) := by
    obtain ⟨hresult, hpool⟩ := Prod.ext_iff.mp hx
    exact Prod.ext (Progress.finished.inj hresult) hpool
  have hunopened : ∀ c, ¬Obtains kept? p p' c := by
    intro c hc
    have hbounds := (hobtains 0 p' rfl c).mp hc
    omega
  rw [endConnect] at h
  split at h
  · cases h
    exact .dropsUnopened hs hunopened (by rintro l ⟨⟩)
  · cases h
    exact .dropsUnopened hs hunopened (by rintro l ⟨⟩)
  · rename_i closed broken failClose _
    let fresh : Handle := { database := r.database, closed, broken, failClose }
    have hconnected := hs.move (.connect r fresh rfl rfl)
    have hopened : ∀ p'' : Pool, p''.handles = p'.handles ++ [fresh] →
        ∀ c, Obtains kept? p p'' c ↔ c = p'.handles.length := by
      intro p'' hp c
      have hn : p''.handles.length = p'.handles.length + 1 := by simp [hp]
      rw [hobtains 1 p'' hn c]
      omega
    dsimp only at h
    split at h
    · rename_i hnone
      exact .publishes hconnected (.inl ⟨rfl, hnone⟩) (hopened _ rfl) (hpair h)
    · rename_i hook hsome
      have hstarted := hconnected.move (.startHook r _ (hsome ▸ rfl))
      split at h
      · exact lastStep_endHook hstarted (hopened _ rfl) (hpair h)
      · cases h

/-- A connection was asked for, and it has ended at once. -/
theorem lastStep_beginConnect (hs : w.Passes ⟨p', L, ⟨r, .kept⟩ ::ₘ O, 0⟩)
    (hlength : p'.handles.length = p.handles.length)
    (h : beginConnect plans p' w.now r = (.finished result, q)) :
    LastStep w L O r none p result q := by
  have hasked := (hs.move (.remark (.opening r.database) rfl)).move (.ask r)
  rw [beginConnect] at h
  split at h
  · exact lastStep_endConnect hasked rfl hlength h
  · cases h

/-- An acquire that was refused has changed neither table nor connections. -/
theorem refuse_eq {now since : Instant} {refusals : List Instant} {why : Refusal}
    (h : refuse p now r since refusals why = (.finished result, q)) :
    q.table = p.table ∧ q.handles = p.handles ∧ ∀ l, result ≠ .lease l := by
  rw [refuse] at h
  dsimp only at h
  split at h
  · cases h
    split <;> exact ⟨rfl, rfl, by rintro l ⟨⟩⟩
  · cases h

/-- An attempt of an acquire has ended it. -/
theorem lastStep_attempt {since : Instant} {refusals : List Instant}
    (hs : w.Passes ⟨p', L, O, 0⟩) (hlength : p'.handles.length = p.handles.length)
    (hplace : p'.table.find? r.database = some .opening →
      p.table.find? r.database = some .opening)
    (h : attempt plans p' w.now r since refusals = (.finished result, q)) :
    LastStep w L O r none p result q := by
  have hattempt : Moves w.now ⟨p', L, O, 0⟩ _ := Pool.moves_attempt r
  have hsame : (p'.attempt r.database r.ttl w.now).2.handles.length = p.handles.length :=
    Pool.length_handles_attempt.trans hlength
  have hfind (hne : (p'.attempt r.database r.ttl w.now).1 ≠ .reserved) :=
    fun hopen => hplace (Pool.find?_of_attempt hne hopen)
  rw [attempt] at h
  split at h <;> rename_i heq <;> rw [heq] at hattempt hsame hfind
  · cases h
    exact .reuses rfl
  · rename_i p''
    have hkept : w.Passes ⟨p'', L, ⟨r, .kept⟩ ::ₘ O, 0⟩ := hs.moves (hattempt.congr (by simp))
    exact lastStep_beginConnect hkept hsame h
  · obtain ⟨htable, hhandles, hfail⟩ := refuse_eq h
    refine .refused rfl ?_ (hhandles ▸ hsame) hfail
    rw [htable]
    exact hfind (by rintro ⟨⟩)
  · cases h
    exact .refused rfl (hfind (by rintro ⟨⟩)) hsame (by rintro l ⟨⟩)

/-- **An acquire ends with its last step**, at any time of a run. -/
theorem EndsWith.lastStep (h : EndsWith plans w.now r kept? p result q)
    (hs : w.Passes (Holding.beside { opening? := kept? } p L O)) :
    LastStep w L O r kept? p result q := by
  rcases h.cases_stage with ⟨rfl, p', since, refusals, hp, hend⟩ | ⟨rfl, plan, hend⟩ |
    ⟨c, hook, rfl, hend⟩
  · have hs : w.Passes ⟨p, L, O, 0⟩ := Holding.beside_none ▸ hs
    rcases hp with hp | hp <;> rw [hp] at hend
    · exact lastStep_attempt hs rfl id hend
    · exact lastStep_attempt (hs.moves Pool.moves_prune) Pool.length_handles_prune
        Pool.find?_prune_eq_opening_iff.mp hend
  · have hs : w.Passes ⟨p, L, ⟨r, .asked⟩ ::ₘ O, 0⟩ := Holding.beside_opening _ ▸ hs
    exact lastStep_endConnect hs rfl rfl hend
  · have hs : w.Passes ⟨p, L, ⟨r, .starting c⟩ ::ₘ O, 0⟩ := Holding.beside_opening _ ▸ hs
    refine lastStep_endHook hs (fun c' => ?_) hend
    simp only [Obtains, Option.bind_some, Opening.connection?, Option.some.injEq]
    omega

end Acquisition

end KeyedPool
