-- Failed transitions. A wait, a yield and a resume that fail put back all that
-- they changed. A terminate that finds no other thread, and a discard that cannot
-- free its thread, do not: the thread stays terminated.
import Gate4Harness.SchedulerConservation

namespace Gate4Harness.Scheduler

variable {s s' : State} {t c : ThreadSlot} {op : Op}

/-! ## What a failure must leave alone -/

/-- What a transition changes in a thread. -/
def Tcb.transitionView (x : Tcb) : ThreadState × Nat × Nat × Nat × Option RecordSlot × Bool :=
  (x.state, x.suspendCount, x.publicHandleRefs, x.executionRefs, x.waitRecord, x.runnableQueued)

/-- The threads, the queue, the waiter lists and flags of the events, the counts of
references and of waits and the current thread are as before. -/
structure NoTrace (s s' : State) : Prop where
  threads : ∀ t, (s'.threads t).transitionView = (s.threads t).transitionView
  queue : s'.runnableQueue = s.runnableQueue ∧ s'.runnableCount = s.runnableCount
  events : ∀ e, (s'.events e).waiters = (s.events e).waiters ∧
    (s'.events e).waiterCount = (s.events e).waiterCount ∧
    (s'.events e).signaled = (s.events e).signaled
  objects : ∀ o, (s'.objects o).publicHandleRefs = (s.objects o).publicHandleRefs ∧
    (s'.objects o).internalRefs = (s.objects o).internalRefs
  activeWaitCount : s'.activeWaitCount = s.activeWaitCount
  current : s'.current = s.current

theorem NoTrace.refl (s : State) : NoTrace s s :=
  ⟨fun _ => rfl, ⟨rfl, rfl⟩, fun _ => ⟨rfl, rfl, rfl⟩, fun _ => ⟨rfl, rfl⟩, rfl, rfl⟩

/-- The call is one of the five transitions, and it reports a failure. -/
def failed (s : State) : Op → Prop
  | .prepareWaitRecord handle planOut => (prepareWaitRecord s handle planOut).1.result = .failure
  | .prepareYield planOut => (prepareYield s planOut).1.ok = false
  | .prepareTerminate value planOut => (prepareTerminate s value planOut).1.ok = false
  | .resumeThread handle => (resumeThread s handle).1.ok = false
  | .discardCreatedThread thread unregistered =>
    (discardCreatedThread s thread unregistered).1 = false
  | _ => False

/-! ## Waits, yields and resumes -/

theorem registerWait_noTrace (h : Inv s) (hi : s.installed = true)
    (hc : (s.threads c).state = .running) (hw : (s.threads c).waitRecord = none)
    {o : ObjectSlot} {e : EventSlot} (ho : StandsFor s o .event (.event e))
    (hs : (s.events e).signaled = false) (handle : Nat) (timeoutArmed : Bool) (deadlineMs : Nat)
    (hfail : (registerWait s c o e handle timeoutArmed deadlineMs).1.result = .failure) :
    NoTrace s (registerWait s c o e handle timeoutArmed deadlineMs).2 := by
  rw [registerWait_eq h hc ho hs] at hfail ⊢
  cases hf : freeWaitRecord? s with
  | none => exact NoTrace.refl s
  | some r =>
    have hr := freeWaitRecord?_fresh hf
    simp only [hf] at hfail ⊢
    cases hp : pickNextRunnable (waiting s c o e r handle timeoutArmed deadlineMs) c with
    | some next => simp [hp] at hfail
    | none =>
      simp only
      rw [unblockThread_eq h.waits hi hr]
      refine ⟨?_, ⟨rfl, rfl⟩, fun _ => ⟨rfl, rfl, rfl⟩, fun _ => ⟨rfl, rfl⟩, rfl, rfl⟩
      apply view_modThread Tcb.transitionView
      simp [Tcb.transitionView, hc, hw]

theorem prepareWaitRecord_noTrace (h : Inv s) (handle : Nat) (planOut : Bool)
    (hfail : (prepareWaitRecord s handle planOut).1.result = .failure) :
    NoTrace s (prepareWaitRecord s handle planOut).2 := by
  have htaken : NoTrace s (timeoutTaken s) :=
    ⟨fun _ => rfl, ⟨rfl, rfl⟩, fun _ => ⟨rfl, rfl, rfl⟩, fun _ => ⟨rfl, rfl⟩, rfl, rfl⟩
  have h1 := h.unseen (timeoutTaken_unseen s)
  unfold prepareWaitRecord at hfail ⊢
  split
  · exact NoTrace.refl s
  · rename_i hg
    rw [if_neg hg] at hfail
    simp only [not_or, Decidable.not_not] at hg
    simp only at hfail ⊢
    cases hcur : (timeoutTaken s).current with
    | none => exact htaken
    | some c =>
      simp only [hcur] at hfail ⊢
      split
      · exact htaken
      · rename_i hready
        rw [if_neg hready] at hfail
        simp only [not_or, ne_eq, Decidable.not_not] at hready
        obtain ⟨hrun, hfree⟩ := hready
        cases hv : validateOpenEventHandle (timeoutTaken s) handle with
        | none =>
          simp only [hv] at hfail ⊢
          rcases legacyWait_cases h1 hfree handle with ⟨_, hsame⟩ | ⟨e, _, _, hreply, _⟩
          · rw [hsame]
            exact htaken
          · simp [hreply] at hfail
        | some pair =>
          obtain ⟨o, e⟩ := pair
          simp only [hv] at hfail ⊢
          obtain ⟨ho, _⟩ := validateOpenEventHandle_facts hg.1 hv
          split
          · rename_i hset
            simp [hset] at hfail
          · rename_i hset
            rw [if_neg hset] at hfail
            have hquiet : ((timeoutTaken s).events e).signaled = false := by simpa using hset
            have htrace := registerWait_noTrace h1 hg.1 hrun hfree ho hquiet handle
              s.pendingWaitTimeoutArmed s.pendingWaitDeadlineMs hfail
            exact ⟨htrace.threads, htrace.queue, htrace.events, htrace.objects,
              htrace.activeWaitCount, htrace.current⟩

/-- Once the guard of a yield is passed, the yield cannot fail. -/
theorem prepareYield_noTrace (h : Inv s) (planOut : Bool)
    (hfail : (prepareYield s planOut).1.ok = false) : NoTrace s (prepareYield s planOut).2 := by
  by_cases hg : s.installed = true ∧ planOut = true ∧
      ∃ c, s.current = some c ∧ (s.threads c).state = .running
  · obtain ⟨hi, rfl, c, hc, hr⟩ := hg
    obtain ⟨next, hreply, _⟩ := prepareYield_spec h hi hc hr
    rw [hreply] at hfail
    cases hfail
  · rw [prepareYield_refused hg]
    exact NoTrace.refl s

theorem resumeThread_noTrace (h : Inv s) (handle : Nat)
    (hfail : (resumeThread s handle).1.ok = false) : NoTrace s (resumeThread s handle).2 := by
  rcases resumeThread_cases h handle with hsame | ⟨t, _, _, _, heq, _⟩
  · rw [hsame]
    exact NoTrace.refl s
  · rw [heq] at hfail
    cases hfail

/-! ## Terminate -/

/-- A terminate that passes its guard succeeds exactly when a thread is queued to run. -/
theorem prepareTerminate_next (h : Inv s) {planOut : Bool} (value : Nat)
    (hg : terminatesCurrent s planOut c = true) :
    ((prepareTerminate s value planOut).1.ok = true ∧ ∃ t, eligible s t = true) ∨
    (prepareTerminate s value planOut = ({}, s.modThread c (endedThread value)) ∧
      ∀ t, eligible s t = false) := by
  obtain ⟨_, hc, hr, _⟩ := terminatesCurrent_facts hg
  obtain ⟨l, hl⟩ := h.queue
  have hcl := hl.running_not_mem hr
  have hq1 : QueueUpTo (s.modThread c (endedThread value)) none l := by
    apply QueueUpTo.settle (t := c)
    · exact (hl.setAside hcl).modThread rfl
    · simp [endedThread]
  unfold prepareTerminate
  rw [hc]
  simp only
  rw [if_neg (by simp [hg])]
  cases hp : pickNextRunnable (s.modThread c (endedThread value)) c with
  | some next =>
    exact Or.inl ⟨rfl, next, (hl.eligible_iff next).mpr (pickNextRunnable_mem hq1 hp)⟩
  | none =>
    refine Or.inr ⟨rfl, ?_⟩
    intro t
    have hnil := (pickNextRunnable_none hq1).mp hp
    rw [Bool.eq_false_iff, ne_eq, hl.eligible_iff, hnil]
    simp

theorem prepareTerminate_noTrace_iff (h : Inv s) (value : Nat) (planOut : Bool) :
    ((prepareTerminate s value planOut).1.ok = false →
      NoTrace s (prepareTerminate s value planOut).2) ↔
    ∀ c, terminatesCurrent s planOut c = true → ∃ t, eligible s t = true := by
  constructor
  · intro hclaim c hg
    rcases prepareTerminate_next h value hg with ⟨_, hnext⟩ | ⟨heq, _⟩
    · exact hnext
    · -- the thread that called is left terminated
      rw [heq] at hclaim
      have hthread := (hclaim rfl).threads c
      have hstate := (terminatesCurrent_facts hg).2.2.1
      simp [Tcb.transitionView, endedThread, hstate] at hthread
  · intro hcond hfail
    rcases prepareTerminate_cases h value planOut with heq | ⟨c, _, hg, _⟩
    · rw [heq]
      exact NoTrace.refl s
    · rcases prepareTerminate_next h value hg with ⟨hok, _⟩ | ⟨_, hnone⟩
      · rw [hok] at hfail
        cases hfail
      · obtain ⟨t, ht⟩ := hcond c hg
        rw [hnone t] at ht
        cases ht

/-! ## Discard -/

/-- A thread that is taken out can be freed: its canaries are intact, and its stack, if it
has one, is registered and the callback takes it back. -/
def Freeable (s : State) (t : ThreadSlot) (unregistered : Bool) : Prop :=
  checkCanaries s t = true ∧ ((s.threads t).stackPagesMemory = 0 ∨
    ((s.threads t).stackVmIdentity ≠ 0 ∧ s.config.unregisterStackVm = true ∧ unregistered = true))

instance (s : State) (t : ThreadSlot) (unregistered : Bool) :
    Decidable (Freeable s t unregistered) :=
  inferInstanceAs (Decidable (_ ∧ (_ ∨ (_ ∧ _ ∧ _))))

theorem discardCreatedThread_eq (h : Core s) (hd : discardable s t = true) (unregistered : Bool) :
    discardCreatedThread s (some t) unregistered =
      (!((maybeReclaimThread (withdrawn s t) t unregistered).threads t).live,
        maybeReclaimThread (withdrawn s t) t unregistered) := by
  obtain ⟨_, _, _, _, hremoved⟩ := withdrawn_spec h hd
  unfold discardCreatedThread
  simp only
  rw [if_neg (by simp [hd])]
  unfold withdrawn
  by_cases hq : (s.threads t).runnableQueued = true
  · simp only [hq, if_true] at hremoved ⊢
    simp [hremoved]
  · simp [hq]

theorem withdrawn_reclaimable (h : Inv s) (hd : discardable s t = true) :
    reclaimable (withdrawn s t) t = checkCanaries s t := by
  obtain ⟨hl, _, hc, _⟩ := discardable_facts h.toCore hd
  obtain ⟨q, n, hw, _⟩ := withdrawn_spec h.toCore hd
  have hrefs : (s.threads t).publicHandleRefs = 0 := by
    unfold discardable at hd
    simp only [Bool.and_eq_true, decide_eq_true_eq] at hd
    exact hd.2
  obtain ⟨hol, htype, _⟩ := h.objects.thread t hl
  rw [hw]
  simp [reclaimable, checkCanaries, hl, hc, hrefs, hol, htype]

theorem withdrawn_freed (h : Inv s) (hd : discardable s t = true) {unregistered : Bool}
    (hf : Freeable s t unregistered) :
    ((maybeReclaimThread (withdrawn s t) t unregistered).threads t).live = false := by
  obtain ⟨q, n, hw, _⟩ := withdrawn_spec h.toCore hd
  have hr := withdrawn_reclaimable h hd
  rw [hf.1] at hr
  have hgone : ∀ s1, ((reclaimThread s1 t).threads t).live = false := by
    intro s1
    simp [reclaimThread]
  unfold maybeReclaimThread
  rw [if_neg (by simp [hr])]
  split
  · rename_i hpages
    rw [if_neg, hgone]
    rw [hw] at hpages ⊢
    rcases hf.2 with hzero | ⟨h1, h2, h3⟩
    · simp [hzero] at hpages
    · simp [h1, h2, h3]
  · exact hgone _

theorem withdrawn_kept_of_not_freeable (h : Inv s) (hd : discardable s t = true)
    {unregistered : Bool} (hf : ¬ Freeable s t unregistered) :
    maybeReclaimThread (withdrawn s t) t unregistered = withdrawn s t := by
  obtain ⟨q, n, hw, _⟩ := withdrawn_spec h.toCore hd
  unfold maybeReclaimThread
  rw [withdrawn_reclaimable h hd]
  split
  · rfl
  · rename_i hcheck
    simp only [Decidable.not_not] at hcheck
    have hstack : ¬ ((s.threads t).stackPagesMemory = 0 ∨ ((s.threads t).stackVmIdentity ≠ 0 ∧
        s.config.unregisterStackVm = true ∧ unregistered = true)) := fun hs => hf ⟨hcheck, hs⟩
    simp only [not_or, not_and] at hstack
    rw [if_pos, if_pos]
    · rw [hw]
      by_cases h1 : (s.threads t).stackVmIdentity = 0
      · simp [h1]
      · by_cases h2 : s.config.unregisterStackVm = true
        · exact Or.inr (Or.inr (hstack.2 h1 h2))
        · exact Or.inr (Or.inl h2)
    · rw [hw]
      simpa using hstack.1

theorem discardCreatedThread_noTrace_iff (h : Inv s) (t : ThreadSlot) (unregistered : Bool) :
    ((discardCreatedThread s (some t) unregistered).1 = false →
      NoTrace s (discardCreatedThread s (some t) unregistered).2) ↔
    (discardable s t = true → Freeable s t unregistered) := by
  constructor
  · intro hclaim hd
    by_contra hf
    obtain ⟨q, n, hw, _⟩ := withdrawn_spec h.toCore hd
    obtain ⟨hl, _, _, hstate⟩ := discardable_facts h.toCore hd
    rw [discardCreatedThread_eq h.toCore hd, withdrawn_kept_of_not_freeable h hd hf, hw] at hclaim
    -- the thread is out of the queue and terminated, but it is still there
    have hthread := (hclaim (by simp [hl])).threads t
    rcases hstate with hstate | hstate <;> simp [Tcb.transitionView, hstate] at hthread
  · intro hcond hfail
    by_cases hd : discardable s t = true
    · rw [discardCreatedThread_eq h.toCore hd, withdrawn_freed h hd (hcond hd)] at hfail
      cases hfail
    · have hsame : discardCreatedThread s (some t) unregistered = (false, s) := by
        simp [discardCreatedThread, hd]
      rw [hsame]
      exact NoTrace.refl s

/-! ## All five transitions -/

/-- What keeps a failure of the call from leaving a trace: a terminate finds a thread that is
queued to run, and a thread that passes the guard of a discard can be freed. -/
def CanUndo (s : State) : Op → Prop
  | .prepareTerminate _ planOut =>
    ∀ c, terminatesCurrent s planOut c = true → ∃ t, eligible s t = true
  | .discardCreatedThread (some t) unregistered =>
    discardable s t = true → Freeable s t unregistered
  | _ => True

theorem failures_leave_no_trace_iff (h : Reachable s) (op : Op) :
    (failed s op → NoTrace s (step s op)) ↔ CanUndo s op := by
  have hinv := reachableBy_inv h
  cases op with
  | prepareWaitRecord handle planOut =>
    exact iff_of_true (prepareWaitRecord_noTrace hinv handle planOut) trivial
  | prepareYield planOut => exact iff_of_true (prepareYield_noTrace hinv planOut) trivial
  | resumeThread handle => exact iff_of_true (resumeThread_noTrace hinv handle) trivial
  | prepareTerminate value planOut => exact prepareTerminate_noTrace_iff hinv value planOut
  | discardCreatedThread thread unregistered =>
    cases thread with
    | none => exact iff_of_true (fun _ => NoTrace.refl s) trivial
    | some t => exact discardCreatedThread_noTrace_iff hinv t unregistered
  | _ => exact iff_of_true (fun hfail => hfail.elim) trivial

/-- The boot thread waits for the event, and the worker is the only thread left to run. -/
def lastThreadState : State :=
  Runs.run step sampleStart
    [.configureStackVm .this true true, .createEvent .this 0 0 true, sampleCreate 0x200000,
      .resumeThread (sampleThread 2), .prepareWaitRecord sampleEvent true]

theorem lastThreadState_reached : Reachable lastThreadState :=
  Runs.Reach.run (.start sampleStart_started) _ fun _ _ _ => trivial

/-- The worker cannot wait for the event as well, and its attempt leaves no trace. -/
theorem last_wait_leaves_no_trace :
    failed lastThreadState (.prepareWaitRecord sampleEvent true) ∧
    NoTrace lastThreadState (step lastThreadState (.prepareWaitRecord sampleEvent true)) := by
  have hfail : failed lastThreadState (.prepareWaitRecord sampleEvent true) := by
    change (prepareWaitRecord lastThreadState sampleEvent true).1.result = .failure
    decide +kernel
  exact ⟨hfail, (failures_leave_no_trace_iff lastThreadState_reached _).mpr trivial hfail⟩

/-- The worker has started, and the boot thread waits in the queue. -/
def startedWorkerState : State :=
  Runs.run step sampleStart
    [.configureStackVm .this true true, sampleCreate 0x200000, .resumeThread (sampleThread 1),
      .prepareYield true]

/-- A terminate of the last thread, and a discard of the boot thread, fail and leave the
thread terminated. -/
theorem failed_terminate_and_discard_leave_a_trace :
    (Reachable lastThreadState ∧ failed lastThreadState (.prepareTerminate 0 true) ∧
      ¬ NoTrace lastThreadState (step lastThreadState (.prepareTerminate 0 true))) ∧
    Reachable startedWorkerState ∧
    failed startedWorkerState (.discardCreatedThread (some 0) true) ∧
    ¬ NoTrace startedWorkerState
      (step startedWorkerState (.discardCreatedThread (some 0) true)) := by
  refine ⟨⟨lastThreadState_reached, ?_, ?_⟩, ?_, ?_, ?_⟩
  · change (prepareTerminate lastThreadState 0 true).1.ok = false
    decide +kernel
  · intro h
    have hthread := h.threads 1
    revert hthread
    decide +kernel
  · exact Runs.Reach.run (.start sampleStart_started) _ fun _ _ _ => trivial
  · change (discardCreatedThread startedWorkerState (some 0) true).1 = false
    decide +kernel
  · intro h
    have hthread := h.threads 0
    revert hthread
    decide +kernel

end Gate4Harness.Scheduler
