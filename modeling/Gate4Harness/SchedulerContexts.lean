-- The contexts that the threads saved, and where a yield switches to. A yield first
-- queues the thread that yields, so the scan over all slots always finds a thread:
-- another one if there is one, and else the thread itself.
import Gate4Harness.SchedulerPages

namespace Gate4Harness.Scheduler

variable {s s' : State} {t c : ThreadSlot} {saved : ThreadSlot → Option ContextPtr}

/-! ## The last context of a thread -/

/-- The context that each thread saved last. A switch saves the context of the thread that
it leaves; a new thread, and a boot thread that adopts an environment, start from the
context inside the TCB. -/
def noteSaved (s : State) (op : Op) (saved : ThreadSlot → Option ContextPtr) :
    ThreadSlot → Option ContextPtr :=
  match op with
  | .contextSwitch plan frame =>
    match plan.oldContext with
    | some old => Function.update saved old (some (.frame frame))
    | none => saved
  | .createSuspendedThread p e a h o w =>
    match (createSuspendedThread s p e a h o w).1.thread with
    | some t => Function.update saved t (some (.initial t))
    | none => saved
  | .adoptBootEnvironment p b =>
    match (adoptBootEnvironment s p b).1, s.bootThread with
    | true, some boot => Function.update saved boot (some (.initial boot))
    | _, _ => saved
  | _ => saved

/-- At the start the boot thread has its initial context. -/
def firstSaved (_ : State) (t : ThreadSlot) : Option ContextPtr :=
  if t = 0 then some (.initial 0) else none

/-- A run, and the context that each thread saved last. -/
def SavedRun : State → (ThreadSlot → Option ContextPtr) → Prop :=
  Runs.ReachNoting Started step (fun _ _ => True) firstSaved noteSaved

/-- The TCB of each live thread points at the context that the thread saved last. -/
def Remembers (s : State) (saved : ThreadSlot → Option ContextPtr) : Prop :=
  ∀ t, (s.threads t).live = true → (s.threads t).savedContext = saved t ∧ saved t ≠ none

/-! ## One step -/

theorem Remembers.kept (h : Remembers s saved) (hk : Kept s s') : Remembers s' saved := by
  intro t ht
  have hv := hk.threads t
  simp only [Tcb.keepView, Prod.mk.injEq] at hv
  rw [hv.1] at ht
  rw [hv.2.1]
  exact h t ht

/-- Slots that are cleared have nothing to remember. -/
theorem Remembers.clear (h : Remembers s saved)
    (hthreads : ∀ u, s'.threads u = s.threads u ∨ s'.threads u = {}) : Remembers s' saved := by
  intro u hu
  rcases hthreads u with heq | heq
  · rw [heq] at hu ⊢
    exact h u hu
  · rw [heq] at hu
    cases hu

theorem Remembers.reclaim (h : Remembers s saved) (hc : Core s) (t : ThreadSlot)
    (unregistered : Bool) : Remembers (maybeReclaimThread s t unregistered) saved := by
  rcases maybeReclaimThread_pages hc t unregistered with heq | ⟨hthreads, _⟩
  · rw [heq]
    exact h
  · apply h.clear
    intro u
    by_cases hu : u = t
    · subst hu
      exact Or.inr (by simp [hthreads])
    · exact Or.inl (by simp [hthreads, hu])

theorem Remembers.collect (h : Remembers s saved) (hinv : Inv s) (scheduler : SchedulerPtr)
    (unregistered : ThreadSlot → Bool) : Remembers (collect s scheduler unregistered).2 saved := by
  have hboth : Inv (Scheduler.collect s scheduler unregistered).2 ∧
      Remembers (Scheduler.collect s scheduler unregistered).2 saved := by
    apply collect_induction (P := fun s' => Inv s' ∧ Remembers s' saved)
    · rintro s' t ⟨h1, h2⟩
      exact ⟨maybeReclaimThread_inv h1 t _, h2.reclaim h1.toCore t _⟩
    · exact ⟨hinv, h⟩
  exact hboth.2

theorem Remembers.teardown (h : Remembers s saved) (hinv : Inv s) (scheduler : SchedulerPtr)
    (unregistered : ThreadSlot → Bool) :
    Remembers (teardown s scheduler unregistered).2 saved := by
  rcases teardown_cases hinv scheduler unregistered with heq | heq | ⟨_, _, _, heq⟩
  · rw [heq]
    exact h
  · rw [heq]
    exact h.collect hinv scheduler unregistered
  · -- No slot is in use after a teardown.
    have hgone : (Scheduler.teardown s scheduler unregistered).2.installed = false := by
      rw [heq]
      rfl
    intro t ht
    rw [(teardown_inv hinv scheduler unregistered).current.vacant hgone] at ht
    cases ht

theorem Remembers.set (h : Remembers s saved) {context : ContextPtr}
    (hothers : ∀ u, u ≠ t → (s'.threads u).keepView = (s.threads u).keepView)
    (hself : (s'.threads t).savedContext = some context) :
    Remembers s' (Function.update saved t (some context)) := by
  intro u hu
  by_cases hut : u = t
  · subst hut
    simp [hself]
  · have hv := hothers u hut
    simp only [Tcb.keepView, Prod.mk.injEq] at hv
    rw [hv.1] at hu
    rw [hv.2.1, Function.update_of_ne hut]
    exact h u hu

theorem createSuspendedThread_remembers (h : Remembers s saved) (p : SchedulerPtr) (e a : Nat)
    (b d : Bool) (w : CreateAnswers) :
    Remembers (createSuspendedThread s p e a b d w).2
      (noteSaved s (.createSuspendedThread p e a b d w) saved) := by
  cases hi : s.installed with
  | false =>
    have heq : createSuspendedThread s p e a b d w = ({}, s) := by
      simp [createSuspendedThread, State.accepts, hi]
    simpa [noteSaved, heq] using h
  | true =>
    rcases createSuspendedThread_ends hi p e a b d w with ⟨heq, _⟩ | ⟨t, ht, hends⟩
    · simpa [noteSaved, heq] using h
    · rcases hends.ends with ⟨hreply, hself, _⟩ | ⟨hreply, _, hself, _⟩
      · simp only [noteSaved, hreply]
        apply h.clear
        intro u
        by_cases hu : u = t
        · subst hu
          exact Or.inr hself
        · exact Or.inl (hends.others u hu)
      · simp only [noteSaved, hreply]
        apply h.set _ hself
        intro u hu
        rw [hends.others u hu]

theorem adoptBootEnvironment_remembers (h : Remembers s saved) (p : SchedulerPtr)
    (b : BootEnvironment) :
    Remembers (adoptBootEnvironment s p b).2 (noteSaved s (.adoptBootEnvironment p b) saved) := by
  cases hok : (adoptBootEnvironment s p b).1 with
  | false =>
    rw [adoptBootEnvironment_refused hok]
    simpa [noteSaved, hok] using h
  | true =>
    cases hboot : s.bootThread with
    | none => simp [adoptBootEnvironment, hboot] at hok
    | some boot =>
      simp only [noteSaved, hok, hboot]
      have hi : s.installed = true := by
        unfold adoptBootEnvironment at hok
        split at hok
        · cases hok
        · rename_i hg
          simp only [State.accepts, not_or] at hg
          have := hg.1
          simp only [Bool.and_eq_true, not_not] at this
          exact this.2
      have hfree := (freeThreadEnvironment_pages hi boot).1
      unfold adoptBootEnvironment at hok ⊢
      split at hok
      · cases hok
      · rename_i hg
        rw [if_neg hg]
        simp only [hboot]
        apply h.set
        · intro u hu
          simp [hfree, hu]
        · simp

theorem step_remembers (hinv : Inv s) (h : Remembers s saved) (op : Op) :
    Remembers (step s op) (noteSaved s op saved) := by
  cases htouch : touchesPages op with
  | false =>
    have hsame : noteSaved s op saved = saved := by
      cases op <;> first | rfl | cases htouch
    rw [hsame]
    exact h.kept (step_kept s htouch)
  | true =>
    cases op with
    | adoptBootEnvironment p b => exact adoptBootEnvironment_remembers h p b
    | createSuspendedThread p e a b d w => exact createSuspendedThread_remembers h p e a b d w
    | closeHandle handle u =>
      change Remembers (closeHandle s handle u).2 saved
      rcases closeHandle_cases hinv.objects handle u with
        heq | ⟨o, e, _, heq⟩ | ⟨o, t, _, ho, heq⟩
      · rw [heq]
        exact h
      · rw [heq]
        exact h.kept ⟨rfl, fun _ => rfl⟩
      · rw [heq]
        exact (h.kept (closedThread_rescheduled s o t).kept).reclaim
          (closedThread_inv hinv ho).toCore t u
    | contextSwitch p f =>
      change Remembers (contextSwitch s p f) _
      unfold contextSwitch noteSaved
      cases hold : p.oldContext with
      | none => simpa [hold] using h
      | some old =>
        simp only [hold]
        apply h.set
        · intro u hu
          simp [hu]
        · simp
    | tryReclaimThread t u =>
      change Remembers (tryReclaimThread s t u).2 saved
      unfold tryReclaimThread
      cases t with
      | none => exact h
      | some t =>
        simp only
        split
        · exact h
        · exact h.reclaim hinv.toCore t u
    | discardCreatedThread t u =>
      change Remembers (discardCreatedThread s t u).2 saved
      rcases discardCreatedThread_cases hinv.toCore t u with heq | ⟨v, _, hd, heq⟩
      · rw [heq]
        exact h
      · rw [heq]
        exact (h.kept (withdrawn_rescheduled hinv.toCore hd).kept).reclaim
          (withdrawn_inv hinv hd).toCore v u
    | collect p u => exact h.collect hinv p u
    | teardown p u => exact h.teardown hinv p u
    | _ => cases htouch

theorem savedRun_remembers (h : SavedRun s saved) : Remembers s saved := by
  apply h.invariant (P := Remembers)
  · rintro s ⟨i, hi⟩ t ht
    obtain ⟨hothers, _, hcontext, _⟩ := started_boot hi
    by_cases h0 : t = 0
    · subst h0
      simp [hcontext, firstSaved]
    · rw [hothers t h0] at ht
      cases ht
  · intro s saved op hreach hr _
    exact step_remembers (reachableBy_inv hreach) hr op

/-! ## The yield -/

/-- What a yield is for: if it succeeds, it selects another thread and plans the switch to
the context which that thread saved last; with no other thread to run it fails and changes
nothing. -/
def YieldsToAnother (s : State) (saved : ThreadSlot → Option ContextPtr) (planOut : Bool) : Prop :=
  ((prepareYield s planOut).1.ok = true → ∃ c next context, s.current = some c ∧
    (prepareYield s planOut).2.current = some next ∧ next ≠ c ∧ saved next = some context ∧
    (prepareYield s planOut).1.plan = some ⟨some c, some context⟩) ∧
  ((∀ u, s.current ≠ some u → eligible s u = false) →
    (prepareYield s planOut).1.ok = false ∧
    (∀ t, ((prepareYield s planOut).2.threads t).state = (s.threads t).state) ∧
    (prepareYield s planOut).2.runnableQueue = s.runnableQueue ∧
    (prepareYield s planOut).2.runnableCount = s.runnableCount ∧
    (prepareYield s planOut).2.current = s.current)

/-- The checks at the start of `prepare_yield` pass. -/
def YieldProceeds (s : State) (planOut : Bool) : Prop :=
  s.installed = true ∧ planOut = true ∧ ∃ c, s.current = some c ∧ (s.threads c).state = .running

/-- A yield does what it is for exactly when it stops at its checks or another thread is
live, runnable and queued. -/
theorem yield_switches_iff_another_thread_is_ready (h : SavedRun s saved) (planOut : Bool) :
    YieldsToAnother s saved planOut ↔
      (YieldProceeds s planOut → ∃ u, s.current ≠ some u ∧ eligible s u = true) := by
  have hinv := reachableBy_inv h.reach
  by_cases hp : YieldProceeds s planOut
  · obtain ⟨hi, rfl, c, hc, hr⟩ := hp
    obtain ⟨next, hreply, hcur, hother, hstate⟩ := prepareYield_spec hinv hi hc hr
    have hready : (∃ u, s.current ≠ some u ∧ eligible s u = true) ↔ next ≠ c := by
      rw [hother, hc]
      simp only [ne_eq, Option.some.injEq, eq_comm]
    constructor
    · rintro ⟨hswitch, _⟩ _
      obtain ⟨d, n, _, hd, hn, hne, _⟩ := hswitch (by rw [hreply])
      rw [hc] at hd
      rw [hcur] at hn
      cases hd
      cases hn
      exact hready.mpr hne
    · intro hcond
      have hex := hcond ⟨hi, rfl, c, hc, hr⟩
      have hne := hready.mp hex
      refine ⟨?_, ?_⟩
      · intro _
        rcases hstate with ⟨heq, _⟩ | ⟨_, he, _⟩
        · exact absurd heq hne
        · obtain ⟨hsaved, hsome⟩ := savedRun_remembers h next (eligible_facts he).1
          obtain ⟨context, hcontext⟩ := Option.ne_none_iff_exists'.mp hsome
          refine ⟨c, next, context, hc, hcur, hne, hcontext, ?_⟩
          rw [hreply, hsaved, hcontext]
      · intro hnone
        obtain ⟨u, hu, he⟩ := hex
        rw [hnone u hu] at he
        cases he
  · have hrefused := prepareYield_refused hp
    constructor
    · intro _ hproceeds
      exact absurd hproceeds hp
    · intro _
      unfold YieldsToAnother
      rw [hrefused]
      refine ⟨?_, ?_⟩
      · intro hok
        cases hok
      · intro _
        exact ⟨rfl, fun _ => rfl, rfl, rfl, rfl⟩

theorem readyState_saved : ∃ saved, SavedRun readyState saved :=
  Runs.Reach.noting readyState_reached firstSaved noteSaved

/-- With two workers ready, the yield of the boot thread switches away. -/
theorem yield_switches_after_sampleReady :
    ∃ saved, SavedRun readyState saved ∧ YieldsToAnother readyState saved true := by
  obtain ⟨saved, hs⟩ := readyState_saved
  refine ⟨saved, hs, (yield_switches_iff_another_thread_is_ready hs true).mpr fun _ => ⟨1, ?_, ?_⟩⟩
  · decide +kernel
  · decide +kernel

/-- Right after the initialization the boot thread is alone. Its yield succeeds and plans
a switch to its own initial context. -/
theorem lone_yield_switches_to_itself :
    SavedRun sampleStart (firstSaved sampleStart) ∧
    (prepareYield sampleStart true).1 =
      { ok := true, plan := some ⟨some 0, some (.initial 0)⟩ } ∧
    ¬ YieldsToAnother sampleStart (firstSaved sampleStart) true := by
  refine ⟨.start ⟨sampleStart_started, rfl⟩, by decide +kernel, ?_⟩
  rintro ⟨_, halone⟩
  have hfail := (halone (by decide +kernel)).1
  revert hfail
  decide +kernel

end Gate4Harness.Scheduler
