import KeyedPool.Proofs.Records

/-!
# Startup hooks

An acquire that opens a connection runs its startup hook on it, if it was given one, before anybody
can lease the connection. The hook of an acquire runs on nothing else: whoever is refused, gets an
idle connection or gets none leaves no trace of its hook.

The history tells when a hook starts and when it ends well. One law says in which order these
entries stand among the leases on the same connection, and it is kept by every move since an acquire
holds its connection alone until it is fit for use. What comes of a hook that fails, or that is torn
down with its acquire, is not in these entries; but then the connection leaves the pool as
abandoned, and what was abandoned is never leased.

* `KeyedPool.Entry.IsTimely`: an entry stands in its order.
* `KeyedPool.Custody.Hooked`: all of them do, and how far the acquires have come fits in.
* `KeyedPool.Custody.Shunned`: what was abandoned is not leased.
* `KeyedPool.Acquisition.RunsHook`: what an acquire does with its startup hook.
* `KeyedPool.World.IsReachable.startup_first`: so it is in every run.
-/

namespace KeyedPool

open Custody History

/-! ### The order of entries -/

/-- **An entry stands in its order**: a connection is opened but once; a startup hook starts but
once on it, after it was opened and before any lease on it; it ends after it has started; and once
it has started a lease on the connection begins only after it has ended well. -/
def Entry.IsTimely (past : List Entry) : Entry → Prop
  | .connected _ c => ∀ k, .connected k c ∉ past
  | .hookStarted c => (∃ k, .connected k c ∈ past) ∧ .hookStarted c ∉ past ∧
      ∀ t ∈ terms past, t.lease.connection ≠ c
  | .hookFinished c => .hookStarted c ∈ past
  | .published l _ _ _ => .hookStarted l.connection ∈ past → .hookFinished l.connection ∈ past
  | .reused l _ _ => .hookStarted l.connection ∈ past → .hookFinished l.connection ∈ past
  | _ => True

/-- **The startup hook comes first**, for every connection of which a history tells. -/
structure History.HooksFirst (h : List Entry) : Prop where
  /-- A connection is opened but once. -/
  opened : ∀ k c past, .connected k c :: past <:+ h → ∀ k', .connected k' c ∉ past
  /-- A hook starts but once on a connection. -/
  once : ∀ c past, .hookStarted c :: past <:+ h → .hookStarted c ∉ past
  /-- A hook has started before it ends. -/
  ends : ∀ c past, .hookFinished c :: past <:+ h → .hookStarted c ∈ past
  /-- Where a hook has started, before or after, a lease begins only when it has ended well. -/
  leases : ∀ e past l, e :: past <:+ h → e.begins? = some l →
    .hookStarted l.connection ∈ h → .hookFinished l.connection ∈ past

namespace History

variable {h past : List Entry} {e : Entry} {l : Lease} {t : Term} {c : Nat}

/-- **Every entry stands in its order.** -/
def Timely (h : List Entry) : Prop := ∀ e past, e :: past <:+ h → e.IsTimely past

theorem Timely.cons (hh : Timely h) (he : e.IsTimely h) : Timely (e :: h) := by
  intro e' past hsuffix
  rcases List.suffix_cons_iff.mp hsuffix with heq | hsuffix
  · cases heq
    exact he
  · exact hh e' past hsuffix

/-- A startup hook has started on a connection that was opened. -/
theorem Timely.exists_connected (hh : Timely h) (hstarted : .hookStarted c ∈ h) :
    ∃ k, .connected k c ∈ h := by
  obtain ⟨later, past, rfl⟩ := List.append_of_mem hstarted
  obtain ⟨⟨k, hopened⟩, -⟩ := hh _ past (List.suffix_append later _)
  exact ⟨k, List.mem_append_right _ (List.mem_cons_of_mem _ hopened)⟩

/-- **Where a startup hook has started, a lease begins only after it has ended well**, since none
starts after a lease. -/
theorem Timely.hookFinished_mem (hh : Timely h) (hsuffix : e :: past <:+ h)
    (ht : e.term? = some t) (hstarted : .hookStarted t.lease.connection ∈ h) :
    .hookFinished t.lease.connection ∈ past := by
  have htimely : e.IsTimely past := hh e past hsuffix
  obtain ⟨later, rfl⟩ := hsuffix
  rcases List.mem_append.mp hstarted with hafter | hbefore
  · obtain ⟨latest, after, rfl⟩ := List.append_of_mem hafter
    have hlate : .hookStarted t.lease.connection :: (after ++ e :: past) <:+
        latest ++ .hookStarted t.lease.connection :: after ++ e :: past := ⟨latest, by simp⟩
    have hterm : t ∈ terms (after ++ e :: past) :=
      mem_terms.mpr ⟨e, List.mem_append_right _ List.mem_cons_self, ht⟩
    exact absurd rfl ((hh _ _ hlate).2.2 t hterm)
  · have hpast : .hookStarted t.lease.connection ∈ past := by
      refine (List.mem_cons.mp hbefore).resolve_left ?_
      rintro rfl
      cases ht
    cases e <;> cases ht
    · exact htimely hpast
    · exact htimely hpast

/-- A suffix keeps its milestones. -/
theorem milestones_suffix (hsuffix : past <:+ h) : milestones past <:+ milestones h := by
  obtain ⟨since, rfl⟩ := hsuffix
  exact ⟨milestones since, (milestones_append _ _).symm⟩

/-- What begins a lease dates it. -/
theorem exists_term (hb : e.begins? = some l) : ∃ t, e.term? = some t ∧ t.lease = l := by
  cases e <;> cases hb
  · exact ⟨_, rfl, rfl⟩
  · exact ⟨_, rfl, rfl⟩

/-- **Where the milestones stand in their order, the startup hook comes first.** -/
theorem Timely.hooksFirst (hh : Timely (milestones h)) : HooksFirst h := by
  have hat (e : Entry) (past : List Entry) (he : e.isMilestone = true) (hsuffix : e :: past <:+ h) :
      e :: milestones past <:+ milestones h :=
    milestones_cons he past ▸ milestones_suffix hsuffix
  refine ⟨fun k c past hsuffix k' hmem => ?_, fun c past hsuffix hmem => ?_,
    fun c past hsuffix => ?_, fun e past l hsuffix hb hmem => ?_⟩
  · have htimely : ∀ k, .connected k c ∉ milestones past := hh _ _ (hat _ _ rfl hsuffix)
    exact htimely k' (mem_milestones.mpr ⟨hmem, rfl⟩)
  · have htimely : .hookStarted c ∉ milestones past := (hh _ _ (hat _ _ rfl hsuffix)).2.1
    exact htimely (mem_milestones.mpr ⟨hmem, rfl⟩)
  · have htimely : .hookStarted c ∈ milestones past := hh _ _ (hat _ _ rfl hsuffix)
    exact (mem_milestones.mp htimely).1
  · have he : e.isMilestone = true := by
      cases e <;> first | rfl | cases hb
    obtain ⟨t, ht, rfl⟩ := exists_term hb
    have hfinished := hh.hookFinished_mem (hat e past he hsuffix) ht
      (mem_milestones.mpr ⟨hmem, rfl⟩)
    exact (mem_milestones.mp hfinished).1

end History

/-! ### What is kept -/

/-- **How far an acquire has come fits in with a history.** -/
def Opening.Stage.Fits (h : List Entry) : Opening.Stage → Prop
  | .opened c => .hookStarted c ∉ h
  | .starting c => .hookStarted c ∈ h
  | .fit c => .hookFinished c ∈ h
  | _ => True

/-- It still fits in when another startup hook starts. -/
theorem Opening.Stage.Fits.cons {h : List Entry} {stage : Opening.Stage} {e : Entry}
    (hfits : stage.Fits h) (he : ∀ c, stage = .opened c → e ≠ .hookStarted c) :
    stage.Fits (e :: h) := by
  cases stage with
  | kept => trivial
  | asked => trivial
  | opened c => exact List.not_mem_cons_of_ne_of_not_mem (he c rfl).symm hfits
  | starting c => exact List.mem_cons_of_mem _ hfits
  | fit c => exact List.mem_cons_of_mem _ hfits

namespace Custody

variable {now : Instant} {s t : Custody} {e : Entry} {k : String} {c : Nat} {term : Term}

/-- **The milestones stand in their order**, and how far the acquires have come fits in. -/
structure Hooked (s : Custody) : Prop where
  /-- Every milestone stands in its order. -/
  timely : Timely (milestones s.pool.history)
  /-- The acquires that keep a place stand where they have come. -/
  openings : ∀ o ∈ s.openings, o.stage.Fits (milestones s.pool.history)

/-- Nobody has leased a connection that is in the hands of an acquire. -/
theorem Grounded.ne_of_opening (hg : s.Grounded) (hk : s.Shown) (hb : s.Balanced) (ht : s.Told)
    (hterm : term ∈ terms s.pool.history) (hc : (k, c) ∈ Opening.connections s.openings) :
    term.lease.connection ≠ c := by
  obtain ⟨persistent, hgranted⟩ := hg term hterm
  rcases hk.kept _ hgranted with hshows | ⟨why, hd⟩
  · obtain ⟨r, hr, -, hrc, -⟩ := hshows.exists_record
    exact hb.apart_opening (Table.mem_connections.mpr ⟨r, hr, hrc⟩) hc
  · exact (hb.apart_gone (Multiset.mem_add.mpr (.inr hc)) (hd.mem_gone ht)).symm

/-- No two acquires have the same connection. -/
theorem Balanced.apart_openings {p : Pool} {L : Multiset Lease} {o o' : Opening}
    {O : Multiset Opening} {D : Multiset Departure} (hb : Balanced ⟨p, L, o ::ₘ O, D⟩)
    (hc : o.connection? = some c) (ho' : o' ∈ O) : o'.connection? ≠ some c := by
  intro hc'
  have hnodup := hb.nodup_opened
  simp only [← hb.connections, Multiset.map_add, Multiset.nodup_add] at hnodup
  have hconns := hnodup.1.1.1.2.1
  rw [Opening.connections_cons, Opening.opened?_of_connection? hc] at hconns
  have hmem : (o'.database, c) ∈ Opening.connections O :=
    (Multiset.mem_filterMap _ _).mpr ⟨o', ho', Opening.opened?_of_connection? hc'⟩
  exact ne_of_nodup_add hconns (Multiset.mem_singleton_self _) hmem rfl

/-- What leaves no milestone changes nothing. -/
theorem Hooked.of_quiet (hh : s.Hooked)
    (hm : milestones t.pool.history = milestones s.pool.history)
    (hO : ∀ o ∈ t.openings, o.stage.Fits (milestones s.pool.history)) : t.Hooked := by
  refine ⟨?_, ?_⟩
  · rw [hm]
    exact hh.timely
  · rw [hm]
    exact hO

/-- A milestone that stands in its order is added to the others. -/
theorem Hooked.of_cons (hh : s.Hooked)
    (hm : milestones t.pool.history = e :: milestones s.pool.history)
    (he : e.IsTimely (milestones s.pool.history))
    (hO : ∀ o ∈ t.openings, o.stage.Fits (e :: milestones s.pool.history)) : t.Hooked := by
  refine ⟨?_, ?_⟩
  · rw [hm]
    exact hh.timely.cons he
  · rw [hm]
    exact hO

/-- The acquires stand where they stood, unless a startup hook starts. -/
theorem Hooked.fits_cons (hh : s.Hooked) (he : ∀ c, e ≠ .hookStarted c) {O : Multiset Opening}
    (hO : O ⊆ s.openings) : ∀ o ∈ O, o.stage.Fits (e :: milestones s.pool.history) :=
  fun o ho => (hh.openings o (hO ho)).cons fun c _ => he c

/-- **Every move keeps the order.** -/
theorem Hooked.move (hh : s.Hooked) (h : Move now s t) (hb : s.Balanced) (ht : s.Told)
    (hk : s.Shown) (hg : s.Grounded) : t.Hooked := by
  have hsame := hh.of_quiet (t := t)
  cases h with
  | remark e he =>
    refine hsame (milestones_cons_of_not ?_ _) hh.openings
    cases e <;> first | rfl | cases he
  | reset => exact hsame (milestones_cons_of_not rfl _) hh.openings
  | close d => exact hsame (Pool.milestones_retire d) hh.openings
  | reserve r hr hroom => exact hsame rfl (Multiset.forall_mem_cons.mpr ⟨trivial, hh.openings⟩)
  | ask r =>
    refine hh.of_cons (milestones_cons rfl _) trivial (Multiset.forall_mem_cons.mpr ⟨trivial, ?_⟩)
    exact hh.fits_cons (by rintro _ ⟨⟩) (Multiset.subset_cons _ _)
  | unanswered r =>
    refine hsame ?_ (Multiset.forall_mem_cons.mp hh.openings).2
    rw [Pool.history_giveUpOpening]
    exact milestones_cons_of_not rfl _
  | @connect p L O D r fresh hd hc =>
    have hnew (k : String) : .connected k p.handles.length ∉ milestones p.history := by
      intro hopened
      obtain ⟨h, hhandle⟩ := hb.exists_handle (mem_opened.mpr (mem_milestones.mp hopened).1)
      exact absurd (List.getElem?_eq_some_iff.mp hhandle).1 (lt_irrefl _)
    have hunhooked : .hookStarted p.handles.length ∉ milestones p.history := by
      intro hstarted
      obtain ⟨k, hopened⟩ := hh.timely.exists_connected hstarted
      exact hnew k hopened
    refine hh.of_cons (milestones_cons rfl _) hnew (Multiset.forall_mem_cons.mpr ⟨?_, ?_⟩)
    · exact List.not_mem_cons_of_ne_of_not_mem (by rintro ⟨⟩) hunhooked
    · exact hh.fits_cons (by rintro _ ⟨⟩) (Multiset.subset_cons _ _)
  | @startHook p L O D r c hr =>
    have hopening : (r.database, c) ∈ Opening.connections (⟨r, .opened c⟩ ::ₘ O) := by simp
    have hopened : .connected r.database c ∈ p.history := by
      refine mem_opened.mp ?_
      rw [← hb.connections]
      simp
    refine hh.of_cons (milestones_cons rfl _) ?_ (Multiset.forall_mem_cons.mpr ⟨?_, ?_⟩)
    · have hfits := (Multiset.forall_mem_cons.mp hh.openings).1
      refine ⟨⟨_, mem_milestones.mpr ⟨hopened, rfl⟩⟩, hfits, fun term hterm => ?_⟩
      rw [← terms_eq_milestones] at hterm
      exact hg.ne_of_opening hk hb ht hterm hopening
    · exact List.mem_cons_self
    · -- every other acquire has another connection
      intro o ho
      refine ((Multiset.forall_mem_cons.mp hh.openings).2 o ho).cons fun c' hstage heq => ?_
      cases heq
      exact hb.apart_openings rfl ho (by rw [Opening.connection?, hstage])
  | finishHook r c =>
    refine hh.of_cons (milestones_cons rfl _) (Multiset.forall_mem_cons.mp hh.openings).1
      (Multiset.forall_mem_cons.mpr ⟨List.mem_cons_self, ?_⟩)
    exact hh.fits_cons (by rintro _ ⟨⟩) (Multiset.subset_cons _ _)
  | abandon r c =>
    refine hsame ?_ (Multiset.forall_mem_cons.mp hh.openings).2
    rw [Pool.history_giveUpOpening]
  | @publish p L O D o c deadline ho hd hr =>
    have hfits : o.stage.Fits (milestones p.history) :=
      (Multiset.forall_mem_cons.mp hh.openings).1
    refine hh.of_cons (milestones_cons rfl _) (fun hstarted => ?_)
      (hh.fits_cons (by rintro _ ⟨⟩) (Multiset.subset_cons _ _))
    rcases ho with ⟨hstage, -⟩ | hstage
    · rw [hstage] at hfits
      exact absurd hstarted hfits
    · rw [hstage] at hfits
      exact hfits
  | lose o c ho hd =>
    exact hh.of_cons (milestones_cons rfl _) trivial
      (hh.fits_cons (by rintro _ ⟨⟩) (Multiset.subset_cons _ _))
  | @reuse p L O D k r ttl deadline hr hidle hhealthy hd =>
    refine hh.of_cons (milestones_cons rfl _) (fun hstarted => ?_)
      (hh.fits_cons (by rintro _ ⟨⟩) (Multiset.Subset.refl _))
    -- the connection was leased before
    obtain ⟨since, ttl', hpublished⟩ := mem_granted.mp (hk.granted (r.grant k) ⟨r, hr, rfl⟩)
    obtain ⟨later, past, heq⟩ := List.append_of_mem (mem_milestones.mpr ⟨hpublished, rfl⟩)
    have hfinished : .hookFinished r.connection ∈ past :=
      hh.timely.hookFinished_mem ⟨later, heq.symm⟩ rfl hstarted
    rw [heq]
    exact List.mem_append_right _ (List.mem_cons_of_mem _ hfinished)
  | rest l hhealthy hm =>
    exact hsame ((milestones_cons_of_not rfl _).trans (milestones_cons_of_not rfl _)) hh.openings
  | depart l hhealthy hm =>
    exact hsame ((milestones_cons_of_not rfl _).trans (milestones_cons_of_not rfl _)) hh.openings
  | discard l how why r hw hr hg => exact hsame (milestones_cons_of_not rfl _) hh.openings
  | forget l how hw hm => exact hsame (milestones_cons_of_not rfl _) hh.openings
  | _ => exact hsame rfl hh.openings

/-- **What was abandoned is not leased.** -/
def Shunned (s : Custody) : Prop :=
  ∀ k c, s.Departs ⟨.abandoned, k, c⟩ → ∀ term ∈ terms s.pool.history, term.lease.connection ≠ c

/-- **Every move keeps it so.** -/
theorem Shunned.move (hs : s.Shunned) (h : Move now s t) (hb : s.Balanced) (ht : s.Told)
    (hk : s.Shown) (hg : s.Grounded) : t.Shunned := by
  intro k c hd term hterm
  have hold (hterm : term ∈ terms s.pool.history) : term.lease.connection ≠ c := by
    rcases h.departs hb hd with hd | hleaves
    · exact hs k c hd term hterm
    · cases hleaves with
      | taken why k r hr hw => exact hw.elim
      | discarded l why r hl hw hr hg => rcases hw with hw | hw <;> cases hw
      | abandoned r c ho =>
        exact hg.ne_of_opening hk hb ht hterm ((Multiset.mem_filterMap _ _).mpr ⟨_, ho, rfl⟩)
  rcases h.terms hb with ⟨hterms, -⟩ | ⟨k', r, ttl, hr, -, -, hterms, -⟩
  · exact hold (hterms ▸ hterm)
  · rw [hterms] at hterm
    rcases List.mem_cons.mp hterm with rfl | hterm
    · -- what is on record has not departed
      exact (hd.ne_of_shows (hb.move h) (ht.move h hb) (g := r.grant k') ⟨r, hr, rfl⟩).symm
    · exact hold hterm

end Custody

/-- **A history forsakes a connection**: whatever happens from then on, no lease on it ever begins,
and none has begun before. -/
def History.Forsakes (h : List Entry) (c : Nat) : Prop :=
  ∀ w s, World.Passes w s → h <:+ s.pool.history →
    ∀ e ∈ s.pool.history, ∀ l, e.begins? = some l → l.connection ≠ c

namespace World.Passes

variable {w : World} {s : Custody} {h : List Entry} {k : String} {c : Nat}

theorem hooked_and_shunned (hs : w.Passes s) : s.Hooked ∧ s.Shunned := by
  have hsound := hs.sound (P := fun s => s.Shown ∧ s.Grounded ∧ s.Hooked ∧ s.Shunned) ?_ ?_
  · exact hsound.2.2
  · rintro now s t h hb ht ⟨hk, hg, hh, hn⟩
    have hk' := hk.move h hb
    exact ⟨hk', hg.move h hb hk', hh.move h hb ht hk hg, hn.move h hb ht hk hg⟩
  · intro settings enumeration
    refine ⟨Custody.shown_fresh settings enumeration, by rintro term ⟨⟩, ⟨fun e past h => ?_, ?_⟩,
      by rintro k c - term ⟨⟩⟩
    · exact absurd (List.suffix_nil.mp h) (List.cons_ne_nil e past)
    · rintro o ⟨⟩

/-- **The startup hook comes first**, at any time of a run. -/
theorem hooksFirst (hs : w.Passes s) : HooksFirst s.pool.history :=
  hs.hooked_and_shunned.1.timely.hooksFirst

end World.Passes

/-- **What was abandoned is forsaken.** -/
theorem History.forsakes_of_abandoned {h : List Entry} {k : String} {c : Nat}
    (hgone : .removed .abandoned k c ∈ h) : Forsakes h c := by
  intro w s hs hsuffix e he l hb
  obtain ⟨term, hterm, rfl⟩ := exists_term hb
  exact hs.hooked_and_shunned.2 k c (.inr (hsuffix.subset hgone)) term
    (mem_terms.mpr ⟨e, he, hterm⟩)

/-! ### Acquires -/

namespace Acquisition

variable {r : Request} {now : Instant} {c : Nat} {trail own : List Entry}
  {x : Progress Stage Acquired} {call : Call} {w : World} {p q : Pool}

/-- **A startup hook runs for an acquire, or has run**, on the connection that the acquire has
opened. -/
structure Runs (r : Request) (x : Progress Stage Acquired) (trail : List Entry) (c : Nat)
    (hook : HookPlan) : Prop where
  /-- The acquire was given the hook. -/
  given : r.startup = some hook
  /-- The acquire has opened the connection. -/
  connected : .connected r.database c ∈ trail
  /-- If the acquire waits, it does so for this hook. -/
  waits : ∀ stage, x = .waiting stage →
    (∃ wake, stage = .starting c hook wake) ∧ .hookFinished c ∉ trail
  /-- If the acquire has ended, the hook has ended well if it was to do so. -/
  ends : ∀ result, x = .finished result → (.hookFinished c ∈ trail ↔ hook.result = .done)
  /-- The acquire gets no lease but on this connection, and only if the hook has ended well. -/
  leases : ∀ l, x = .finished (.lease l) → l.connection = c ∧ hook.result = .done
  /-- The acquire fails only with the hook. -/
  fails : ∀ e, x = .finished (.failed e) → ∃ failure, hook.result = .fail failure ∧
    e = .startup r.database failure

/-- **The startup hook of an acquire is the one that it was given.** -/
theorem Trail.runs (h : Trail r now x trail) (hmem : .hookStarted c ∈ trail) :
    ∃ hook, Runs r x trail c hook := by
  cases h with
  | queued => cases hmem
  | connecting => simp at hmem
  | refused hfail => cases hmem
  | reused => simp at hmem
  | unconnected hfail => simp at hmem
  | @starting c' hook wake hs =>
    obtain rfl : c = c' := by simpa using hmem
    refine ⟨hook, hs, by simp, ?_, by simp, by simp, by simp⟩
    rintro _ ⟨⟩
    exact ⟨⟨wake, rfl⟩, by simp⟩
  | @failed c' hook failure hs hend =>
    obtain rfl : c = c' := by simpa using hmem
    refine ⟨hook, hs, by simp, by simp, by simp [hend], by simp, ?_⟩
    rintro _ ⟨⟩
    exact ⟨failure, hend, rfl⟩
  | @crashed c' hook text hs hend =>
    obtain rfl : c = c' := by simpa using hmem
    exact ⟨hook, hs, by simp, by simp, by simp [hend], by simp, by simp⟩
  | @published generation c' hdone =>
    obtain ⟨rfl, hsome⟩ : c = c' ∧ r.startup.isSome = true := by simpa using hmem
    obtain ⟨hook, hs⟩ := Option.isSome_iff_exists.mp hsome
    refine ⟨hook, hs, by simp, by simp, by simp [hs, hdone hook hs], ?_, by simp⟩
    rintro _ ⟨⟩
    exact ⟨rfl, hdone hook hs⟩
  | @lost c' hdone =>
    obtain ⟨rfl, hsome⟩ : c = c' ∧ r.startup.isSome = true := by simpa using hmem
    obtain ⟨hook, hs⟩ := Option.isSome_iff_exists.mp hsome
    exact ⟨hook, hs, by simp, by simp, by simp [hs, hdone hook hs], by simp, by simp⟩

/-- **A startup hook starts as soon as the connection is there.** -/
theorem Trail.hookStarted_of_connected {k : String} (h : Trail r now x trail)
    (hmem : .connected k c ∈ trail) (hs : r.startup.isSome = true) : .hookStarted c ∈ trail := by
  cases h <;> simp_all

/-- **What an acquire does with its startup hook**, as far as it has come. -/
structure RunsHook (call : Call) (own : List Entry) (x : Progress Acquisition Acquired)
    (q : Pool) : Prop where
  /-- No hook runs but that which the acquire was given, on the connection that it has opened. -/
  runs : ∀ c, .hookStarted c ∈ own → ∃ hook, Runs call.request (point x) (milestones own) c hook
  /-- It starts as soon as the connection is there. -/
  starts : ∀ k c, .connected k c ∈ own → call.request.startup.isSome = true → .hookStarted c ∈ own
  /-- It does not run for an acquire that leases a connection again. -/
  reuses : ∀ l t ttl, .reused l t ttl ∈ own → ∀ c, .hookStarted c ∉ own
  /-- It does not run for one that fails otherwise, being refused or getting no connection. -/
  fails : ∀ e, x = .finished (.failed e) → (∀ k failure, e ≠ .startup k failure) →
    ∀ c, .hookStarted c ∉ own
  /-- It does not run while the acquire waits to be admitted, or for its connection. -/
  waits : ∀ a, x = .waiting a → (∀ c hook wake, a.stage ≠ .starting c hook wake) →
    ∀ c, .hookStarted c ∉ own
  /-- Whatever happens next, nobody leases the connection before the hook has ended well. -/
  guards : ∀ k c, .connected k c ∈ own → call.request.startup.isSome = true →
    ∀ v s, World.Passes v s → q.history <:+ s.pool.history →
      ∀ e past l, e :: past <:+ s.pool.history → e.begins? = some l → l.connection = c →
        .hookFinished c ∈ past
  /-- If the hook has failed or has torn down its task, nobody ever does. -/
  forsakes : ∀ c result, x = .finished result → .hookStarted c ∈ own → .hookFinished c ∉ own →
    Forsakes q.history c

/-- **Every acquire does so with its startup hook.** -/
theorem Turn.runsHook {x : Progress Acquisition Acquired} (h : Turn call own w p x q) :
    RunsHook call own x q := by
  have hruns (c : Nat) (hmem : .hookStarted c ∈ own) :
      ∃ hook, Runs call.request (point x) (milestones own) c hook :=
    h.trail.runs (mem_milestones.mpr ⟨hmem, rfl⟩)
  have hstarts (k : String) (c : Nat) (hmem : .connected k c ∈ own)
      (hs : call.request.startup.isSome = true) : .hookStarted c ∈ own := by
    have hconnected := mem_milestones.mpr ⟨hmem, rfl⟩
    exact (mem_milestones.mp (h.trail.hookStarted_of_connected hconnected hs)).1
  refine ⟨hruns, hstarts, ?_, ?_, ?_, ?_, ?_⟩
  · intro l t ttl hmem c hstarted
    obtain ⟨-, -, -, -, halone⟩ := h.trail.of_reused (mem_milestones.mpr ⟨hmem, rfl⟩)
    have hstarted := mem_milestones.mpr ⟨hstarted, rfl⟩
    simp [halone] at hstarted
  · rintro e rfl hother c hstarted
    obtain ⟨hook, hrun⟩ := hruns c hstarted
    obtain ⟨failure, -, heq⟩ := hrun.fails e rfl
    exact hother _ _ heq
  · rintro a rfl hother c hstarted
    obtain ⟨hook, hrun⟩ := hruns c hstarted
    obtain ⟨⟨wake, heq⟩, -⟩ := hrun.waits a.stage rfl
    exact hother c hook wake heq
  · rintro k c hmem hs v s hv hsuffix e past l hpast hb rfl
    have hstarted := hsuffix.subset (h.own_subset (hstarts k _ hmem hs))
    exact hv.hooksFirst.leases e past l hpast hb hstarted
  · rintro c result rfl hstarted hfinished
    exact forsakes_of_abandoned (h.drops c result rfl (mem_milestones.mpr ⟨hstarted, rfl⟩)
      fun hmem => hfinished (mem_milestones.mp hmem).1)

end Acquisition

namespace World

variable {w : World} {p : Pool} {L : Multiset Lease} {O : Multiset Opening} {a : Acquisition}

/-- Whoever tears a job down gives up the acquire for which it waits. -/
theorem Passes.suffix_abandon {j : PendingJob} (hs : w.Passes (j.holding.beside p L O))
    (ha : j.acquisition? = some a) : (a.abandon p).history <:+ (j.abandon p).history := by
  cases j with
  | leasing b label =>
    cases ha
    exact List.suffix_rfl
  | entering b errors body =>
    cases ha
    exact List.suffix_rfl
  | inside sc =>
    -- what the body has is given up after the acquire
    rcases sc with ⟨l, kept, _ | ⟨b, use⟩, rest, told⟩
    · cases ha
    · cases ha
      rw [PendingJob.holding_inside, Scope.beside_holding] at hs
      have hs : w.Passes (a.holding.beside p (↑kept.leases + l ::ₘ L) O) := by
        simpa [Scope.opening?, Holding.beside, Acquisition.holding] using hs
      exact (hs.moves (Acquisition.moves_abandon a)).suffix (Scope.deeds_leave l kept .drop).moves

/-- **A task that is torn down** leaves no milestone, and forsakes the connection whose startup hook
runs. -/
theorem IsReachable.forsakes_aborted (hw : w.IsReachable) {t : Task} (ht : t ∈ w.tasks)
    (ha : t.job.acquisition? = some a) :
    let v := (w.step (.abort t.ticket)).2
    milestones v.pool.history = milestones w.pool.history ∧
      ∀ c hook wake, a.stage = .starting c hook wake → Forsakes v.pool.history c := by
  intro v
  have hfind : w.task? t.ticket = some t := hw.tidy.task?_of_mem ht
  have hv : v.pool = t.job.abandon w.pool := by
    simp only [v, step, abortTask, hfind]
    rfl
  rw [hv]
  refine ⟨PendingJob.milestones_abandon w.pool t.job, fun c hook wake hstage => ?_⟩
  have hs : w.Passes w.custody := .rest hw
  rw [custody_of_perm (hw.tidy.tasks_perm hfind)] at hs
  -- its connection leaves as abandoned
  have hgone : .removed .abandoned a.request.database c ∈ (a.abandon w.pool).history := by
    rw [Acquisition.abandon, hstage]
    exact Acquisition.removed_dropOpened w.pool a.request c
  exact forsakes_of_abandoned ((hs.suffix_abandon ha).subset hgone)

/-- **A startup hook runs once, first, and only for the acquire that opened the connection.**

At any time of a run, between two events or inside one, a connection was opened but once and a
startup hook has started but once on it, and where one has started every lease on the connection
began after it had ended well.

Every hook has started in a turn of the acquire that opened the connection. It is the hook that this
acquire was given, and it starts as soon as the connection is there: so it does not run for an
acquire that leases a connection again, is refused, fails to get its connection, or waits for it. If
an acquire that was given a hook opens a connection, nobody ever leases it before the hook has ended
well, and nobody at all if the hook has failed or torn down its task.

A task that is torn down starts no hook any more. If it waits for a hook, nobody ever leases the
connection on which the hook was running. -/
theorem IsReachable.startup_first (hw : w.IsReachable) :
    (∀ s, w.Passes s → HooksFirst s.pool.history) ∧
    (∀ c, .hookStarted c ∈ w.pool.history → ∃ call own v p x q,
      Acquisition.Turn call own v p x q ∧ q.history <:+ w.pool.history ∧ .hookStarted c ∈ own ∧
        .connected call.request.database c ∈ own ∧ call.request.startup.isSome = true) ∧
    (∀ call own v p x q, Acquisition.Turn call own v p x q →
      Acquisition.RunsHook call own x q) ∧
    ∀ t ∈ w.tasks, ∀ a, t.job.acquisition? = some a →
      a.HadTurn w.pool ∧ let v := (w.step (.abort t.ticket)).2
        milestones v.pool.history = milestones w.pool.history ∧
          ∀ c hook wake, a.stage = .starting c hook wake → Forsakes v.pool.history c := by
  refine ⟨fun _ hs => hs.hooksFirst, fun c hstarted => ?_, fun _ _ _ _ _ _ h => h.runsHook,
    fun t ht a ha => ⟨hw.accounted.waits t ht a ha, hw.forsakes_aborted ht ha⟩⟩
  obtain ⟨call, own, v, p, x, q, hturn, hown, hlater⟩ :=
    hw.accounted.pool _ (mem_milestones.mpr ⟨hstarted, rfl⟩)
  obtain ⟨hook, hrun⟩ := hturn.runsHook.runs c hown
  exact ⟨call, own, v, p, x, q, hturn, hlater, hown, (mem_milestones.mp hrun.connected).1,
    Option.isSome_iff_exists.mpr ⟨hook, hrun.given⟩⟩

/-- An acquire is given up while its startup hook runs, and another one for the same database gets a
connection of its own. Nobody ever leases that of the first. -/
theorem IsReachable.startup_first_aborted :
    let r : Request := { database := "a", ttl := ⟨5⟩ }
    let v := (World.init {} false).after
      [.start (.lease { r with startup := some { delay := 1 } } "first")]
    let w := (v.step (.abort 0)).2
    .hookStarted 0 ∈ v.pool.history ∧ Forsakes w.pool.history 0 ∧
      ((w.after [.start (.lease r "second")]).heldLeases = [⟨"a", 1, 1⟩]) := by
  intro r v w
  have hv : v.IsReachable := ⟨_, _, _, _, rfl⟩
  obtain ⟨t, a, htasks, hticket, ha, hstage⟩ : ∃ t a, v.tasks = [t] ∧ t.ticket = 0 ∧
      t.job.acquisition? = some a ∧ a.stage = .starting 0 { delay := 1 } ⟨1000000⟩ :=
    ⟨_, _, rfl, rfl, rfl, rfl⟩
  obtain ⟨-, -, -, habort⟩ := hv.startup_first
  obtain ⟨-, -, hforsaken⟩ := habort t (htasks ▸ List.mem_singleton_self t) a ha
  rw [hticket] at hforsaken
  have hstarted : v.pool.history.head? = some (.hookStarted 0) := rfl
  refine ⟨List.mem_of_mem_head? hstarted, hforsaken 0 _ _ hstage, ?_⟩
  decide +kernel +zetaReduce

end World

end KeyedPool
