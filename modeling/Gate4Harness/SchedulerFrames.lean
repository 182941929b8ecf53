-- What the operations leave alone. Most of them do not touch the waits, and only
-- a yield, a wait, a terminate and a teardown change the thread that runs.
import Gate4Harness.SchedulerReachable

namespace Gate4Harness.Scheduler

variable {s s' s'' : State} {t : ThreadSlot} {o : ObjectSlot} {e : EventSlot}

/-! ## The waits -/

/-- The wait records and all that counts of the events are as before. -/
structure Still (s s' : State) : Prop where
  records : s'.waitRecords = s.waitRecords
  events : ∀ e, (s'.events e).view = (s.events e).view

theorem Still.refl (s : State) : Still s s := ⟨rfl, fun _ => rfl⟩

theorem Still.trans (h : Still s s') (h' : Still s' s'') : Still s s'' :=
  ⟨h'.records.trans h.records, fun e => (h'.events e).trans (h.events e)⟩

theorem Unseen.still (h : Unseen s s') : Still s s' := ⟨h.waitRecords, h.events⟩

theorem maybeReclaimThread_still (s : State) (t : ThreadSlot) (unregistered : Bool) :
    Still s (maybeReclaimThread s t unregistered) := by
  rcases maybeReclaimThread_cases s t unregistered with heq | ⟨_, hu⟩
  · rw [heq]
    exact Still.refl s
  · exact ⟨hu.waitRecords, hu.events⟩

theorem collect_still (s : State) (scheduler : SchedulerPtr) (unregistered : ThreadSlot → Bool) :
    Still s (collect s scheduler unregistered).2 := by
  apply collect_induction (P := Still s)
  · intro s' t h
    exact h.trans (maybeReclaimThread_still s' t _)
  · exact Still.refl s

theorem releaseStream_still (s : State) : Still s (releaseStream s) := by
  unfold releaseStream
  split <;> exact ⟨rfl, fun _ => rfl⟩

theorem teardown_still (h : Inv s) (scheduler : SchedulerPtr) (unregistered : ThreadSlot → Bool) :
    Still s (teardown s scheduler unregistered).2 := by
  have hcollect := collect_still s scheduler unregistered
  rcases teardown_cases h scheduler unregistered with heq | heq | ⟨_, _, _, heq⟩
  · rw [heq]
    exact Still.refl s
  · rw [heq]
    exact hcollect
  · rw [heq]
    have h1 := hcollect.trans
      ((releaseStream_still _).trans (freeThreadEnvironment_unseen _ 0).still)
    exact ⟨h1.records, h1.events⟩

/-- The operations that can change a wait or an event. -/
def touchesWaits : Op → Bool
  | .createEvent .. | .signalEvent .. | .resetEvent .. | .serviceTimeouts .. | .pollTimeouts ..
  | .prepareWaitRecord .. | .finishWait .. | .tryDestroyEvent .. | .waitOne ..
  | .setEventContract .. | .resetEventContract .. => true
  | _ => false

theorem step_still (h : Inv s) {op : Op} (hop : touchesWaits op = false) : Still s (step s op) := by
  cases op with
  | configureStackVm p a b => exact (configureStackVm_unseen s p a b).still
  | configureClock p a => exact (configureClock_unseen s p a).still
  | adoptBootEnvironment p b => exact (adoptBootEnvironment_unseen s p b).still
  | createMemoryResourceNotification p n a =>
    change Still s (createMemoryResourceNotification s p n a).2
    unfold createMemoryResourceNotification
    split
    · exact Still.refl s
    · split
      · exact Still.refl s
      · rcases allocateObject_cases s .memoryResourceNotification .notification with
          heq | ⟨o, g, _, _, _, heq⟩
        · rw [heq]
          exact Still.refl s
        · rw [heq]
          exact ⟨rfl, fun _ => rfl⟩
  | installStandardStream p r b k =>
    change Still s (installStandardStream s p r b k).2
    unfold installStandardStream
    split
    · exact Still.refl s
    · split
      · split
        · exact Still.refl s
        · exact ⟨rfl, fun _ => rfl⟩
      · rcases allocateObject_cases { s with standardStream := {} } .standardStream .stream with
          heq | ⟨o, g, _, _, _, heq⟩
        · rw [heq]
          exact ⟨rfl, fun _ => rfl⟩
        · rw [heq]
          exact ⟨rfl, fun _ => rfl⟩
  | createSuspendedThread p e a b d w =>
    rcases createSuspendedThread_cases h p e a b d w with
      ⟨_, hu⟩ | ⟨t, o, thread, _, _, _, _, _, hu⟩
    · exact hu.still
    · exact ⟨hu.waitRecords, hu.events⟩
  | resumeThread handle =>
    change Still s (resumeThread s handle).2
    rcases resumeThread_cases h handle with heq | ⟨t, _, _, _, heq, _⟩
    · rw [heq]
      exact Still.refl s
    · rw [heq]
      exact ⟨rfl, fun _ => rfl⟩
  | closeHandle handle u =>
    change Still s (closeHandle s handle u).2
    rcases closeHandle_cases h.objects handle u with heq | ⟨o, e, _, heq⟩ | ⟨o, t, _, _, heq⟩
    · rw [heq]
      exact Still.refl s
    · rw [heq]
      exact ⟨rfl, fun _ => rfl⟩
    · rw [heq]
      have hclosed : Still s (closedThread s o t) := ⟨rfl, fun _ => rfl⟩
      exact hclosed.trans (maybeReclaimThread_still _ t u)
  | armWaitTimeout d => exact (armWaitTimeout_unseen s d).still
  | prepareYield p =>
    change Still s (prepareYield s p).2
    by_cases hg : s.installed = true ∧ p = true ∧
        ∃ c, s.current = some c ∧ (s.threads c).state = .running
    · obtain ⟨hi, rfl, c, hc, hr⟩ := hg
      obtain ⟨next, _, _, _, ⟨rfl, heq⟩ | ⟨_, _, _, queue, count, heq, _⟩⟩ :=
        prepareYield_spec h hi hc hr
      · rw [heq]
        exact ⟨rfl, fun _ => rfl⟩
      · rw [heq]
        exact ⟨rfl, fun _ => rfl⟩
    · rw [prepareYield_refused hg]
      exact Still.refl s
  | prepareTerminate v p =>
    change Still s (prepareTerminate s v p).2
    rcases prepareTerminate_cases h v p with
      heq | ⟨c, _, _, heq | ⟨next, queue, count, _, _, _, _, heq, _⟩⟩
    · rw [heq]
      exact Still.refl s
    · rw [heq]
      exact ⟨rfl, fun _ => rfl⟩
    · rw [heq]
      exact ⟨rfl, fun _ => rfl⟩
  | contextSwitch p f => exact (contextSwitch_unseen s p f).still
  | tryDestroyMemoryResourceNotification handle =>
    change Still s (tryDestroyMemoryResourceNotification s handle).2
    unfold tryDestroyMemoryResourceNotification
    split
    · exact Still.refl s
    · split <;> exact ⟨rfl, fun _ => rfl⟩
  | tryReclaimThread t u =>
    change Still s (tryReclaimThread s t u).2
    unfold tryReclaimThread
    cases t with
    | none => exact Still.refl s
    | some t =>
      simp only
      split
      · exact Still.refl s
      · exact maybeReclaimThread_still s t u
  | discardCreatedThread t u =>
    change Still s (discardCreatedThread s t u).2
    rcases discardCreatedThread_cases h.toCore t u with heq | ⟨v, _, hd, heq⟩
    · rw [heq]
      exact Still.refl s
    · rw [heq]
      obtain ⟨q, n, hw, _⟩ := withdrawn_spec h.toCore hd
      have hstill : Still s (withdrawn s v) := by
        rw [hw]
        exact ⟨rfl, fun _ => rfl⟩
      exact hstill.trans (maybeReclaimThread_still _ v u)
  | collect p u => exact collect_still s p u
  | teardown p u => exact teardown_still h p u
  | noteWorkerStarted => exact (noteWorkerStarted_unseen s).still
  | setFls i v => exact (setFls_unseen s i v).still
  | setLastError v => exact (setLastError_unseen s v).still
  | store memory => exact ⟨rfl, fun _ => rfl⟩
  | createEvent p m i a => cases hop
  | signalEvent handle => cases hop
  | resetEvent handle => cases hop
  | serviceTimeouts now => cases hop
  | pollTimeouts k => cases hop
  | prepareWaitRecord handle p => cases hop
  | finishWait handle => cases hop
  | tryDestroyEvent handle => cases hop
  | waitOne a handle m b k l => cases hop
  | setEventContract a handle => cases hop
  | resetEventContract a handle => cases hop

/-! ## The thread that runs -/

/-- The scheduler is installed and its current thread runs. -/
def Running (s : State) : Prop :=
  s.installed = true ∧ ∃ c, s.current = some c ∧ (s.threads c).state = .running

/-- The current thread stays, and it runs on if it ran. -/
structure RunsOn (s s' : State) : Prop where
  installed : s'.installed = s.installed
  current : s'.current = s.current
  state : ∀ c, s.current = some c → (s.threads c).state = .running →
    (s'.threads c).state = .running

theorem RunsOn.refl (s : State) : RunsOn s s := ⟨rfl, rfl, fun _ _ h => h⟩

theorem RunsOn.trans (h : RunsOn s s') (h' : RunsOn s' s'') : RunsOn s s'' :=
  ⟨h'.installed.trans h.installed, h'.current.trans h.current,
    fun c hc hr => h'.state c (by rw [h.current]; exact hc) (h.state c hc hr)⟩

theorem RunsOn.running (h : RunsOn s s') (hr : Running s) : Running s' := by
  obtain ⟨hi, c, hc, hs⟩ := hr
  exact ⟨by rw [h.installed]; exact hi, c, by rw [h.current]; exact hc, h.state c hc hs⟩

theorem Unseen.runsOn (h : Unseen s s') : RunsOn s s' := by
  refine ⟨h.installed, h.current, ?_⟩
  intro c _ hs
  have hv := h.threads c
  simp only [Tcb.view, Prod.mk.injEq] at hv
  rw [hv.1.2.1]
  exact hs

/-- A change of a thread that is not the current one. -/
theorem RunsOn.modThread (hc : s.current ≠ some t) (f : Tcb → Tcb) :
    RunsOn s (s.modThread t f) := by
  refine ⟨rfl, rfl, ?_⟩
  intro c hcur hs
  have hne : c ≠ t := by
    rintro rfl
    exact hc hcur
  simpa [hne] using hs

theorem maybeReclaimThread_runsOn (h : Core s) (t : ThreadSlot) (unregistered : Bool) :
    RunsOn s (maybeReclaimThread s t unregistered) := by
  rcases maybeReclaimThread_cases s t unregistered with heq | ⟨hr, hu⟩
  · rw [heq]
    exact RunsOn.refl s
  · obtain ⟨_, hc, _⟩ := reclaimable_facts h hr
    have hgone : RunsOn s (withoutThread s t) := by
      have := RunsOn.modThread (t := t) (s := releaseObjectRecord s (s.threads t).objectSlot)
        hc fun _ => {}
      exact ⟨this.installed, this.current, this.state⟩
    exact hgone.trans hu.runsOn

theorem collect_runsOn (h : Inv s) (scheduler : SchedulerPtr) (unregistered : ThreadSlot → Bool) :
    RunsOn s (collect s scheduler unregistered).2 := by
  have hboth : Inv (collect s scheduler unregistered).2 ∧
      RunsOn s (collect s scheduler unregistered).2 := by
    apply collect_induction (P := fun s' => Inv s' ∧ RunsOn s s')
    · rintro s' t ⟨h', hr⟩
      exact ⟨maybeReclaimThread_inv h' t _, hr.trans (maybeReclaimThread_runsOn h'.toCore t _)⟩
    · exact ⟨h, RunsOn.refl s⟩
  exact hboth.2

/-- The waits that end are not those of the current thread. -/
theorem Ended.runsOn {ended : RecordSlot → Prop} {completionResult : Nat} {waitResult : WaitResult}
    (h : Core s) (he : Ended s s' ended completionResult waitResult) : RunsOn s s' := by
  refine ⟨(congrArg State.installed he.rest :), (congrArg State.current he.rest :), ?_⟩
  intro c _ hs
  rw [he.other_threads c]
  · exact hs
  · intro q hq hqc
    obtain ⟨u, _, hu, _, _, _, hub, _⟩ := h.waits.pending q (he.was_pending q hq)
    rw [hqc] at hu
    cases hu
    rw [hs] at hub
    cases hub

theorem Woken.ended {i completionResult : Nat} {r : RecordSlot} {waitResult : WaitResult}
    (hinv : WaitInv s) (hr : (s.events e).waiters i = some r)
    (ht : (s.waitRecords r).thread = some t)
    (hw : Woken s s' e i r t completionResult waitResult) :
    Ended s s' (fun q => q = r) completionResult waitResult := by
  have hnone : Ended s' s' (fun _ => False) completionResult waitResult := Ended.none (by simp)
  exact (hw.andThen hinv hr ht hnone).congr (by simp)

theorem signalEvent_runsOn (h : Inv s) (handle : Nat) : RunsOn s (signalEvent s handle).2 := by
  cases he : eventFromHandle s handle with
  | none =>
    have : signalEvent s handle = (false, s) := by simp [signalEvent, he]
    rw [this]
    exact RunsOn.refl s
  | some e =>
    obtain ⟨hi, hl, _⟩ := eventFromHandle_eq_some h.objects he
    cases hm : (s.events e).manualReset with
    | true =>
      obtain ⟨_, _, hended, _⟩ := signalEvent_manual h hi he hl hm
      have := hended.runsOn (h.toCore.setSignaled e true)
      exact ⟨this.installed, this.current, this.state⟩
    | false =>
      by_cases hc : (s.events e).waiterCount = 0
      · rw [(signalEvent_idle h he hl hm hc).1]
        exact ⟨rfl, rfl, fun _ _ hs => hs⟩
      · obtain ⟨_, _, r, t, hr, ht, hw⟩ := signalEvent_auto h hi he hl hm hc
        exact (hw.ended h.waits hr ht).runsOn h.toCore

theorem resetEvent_runsOn (h : Inv s) (handle : Nat) : RunsOn s (resetEvent s handle).2 := by
  rcases resetEvent_eq h handle with ⟨heq, _⟩ | ⟨e, _, heq⟩
  · rw [heq]
    exact RunsOn.refl s
  · rw [heq]
    exact ⟨rfl, rfl, fun _ _ hs => hs⟩

theorem pollTimeouts_runsOn (h : Inv s) (clock : Option Nat) :
    RunsOn s (pollTimeouts s clock).2 := by
  unfold pollTimeouts
  cases clock with
  | none => exact RunsOn.refl s
  | some now =>
    simp only
    split
    · exact RunsOn.refl s
    · exact (serviceTimeouts_spec h now).2.2.runsOn h.toCore

theorem tokenTaken_runsOn (s : State) (e : EventSlot) : RunsOn s (tokenTaken s e) := by
  unfold tokenTaken
  split
  · exact RunsOn.refl s
  · exact ⟨rfl, rfl, fun _ _ hs => hs⟩

theorem finishWait_runsOn (h : Inv s) (handle : Nat) : RunsOn s (finishWait s handle).2 := by
  rcases finishWait_cases h handle with heq | ⟨_, _, _, _, hu⟩ | ⟨c, r, o, _, _, _, _, _, heq⟩
  · rw [heq]
    exact RunsOn.refl s
  · exact hu.runsOn
  · rw [heq]
    refine ⟨rfl, rfl, ?_⟩
    intro d _ hs
    by_cases hd : d = c
    · subst hd
      simpa [waitFinished] using hs
    · simpa [waitFinished, hd] using hs

/-- What a step must not do for the current thread to go on: end the last thread, or tear
the scheduler down. -/
def GoesOn (s : State) : Op → Prop
  | .prepareTerminate v p => (prepareTerminate s v p).1.ok = true
  | .teardown p u => (teardown s p u).1 = false
  | _ => True

/-! ## The thread that a step selects -/

/-- The thread that takes the processor, when the step is one that switches. -/
def selected (s : State) : Op → Option ThreadSlot
  | .prepareYield planOut =>
    if (prepareYield s planOut).1.ok then (prepareYield s planOut).2.current else none
  | .prepareWaitRecord handle planOut =>
    if (prepareWaitRecord s handle planOut).1.result = .blocked then
      (prepareWaitRecord s handle planOut).2.current
    else none
  | .prepareTerminate value planOut =>
    if (prepareTerminate s value planOut).1.ok then (prepareTerminate s value planOut).2.current
    else none
  | .waitOne contextGiven handle milliseconds alertable clock pollClock =>
    match waitOne s contextGiven handle milliseconds alertable clock pollClock with
    | (.switched _, s1) => s1.current
    | _ => none
  | _ => none

/-- The thread `next` has the processor, and the scan behind the thread that had it comes
to no other ready thread first. -/
structure Picked (s s' : State) (next : ThreadSlot) : Prop where
  installed : s'.installed = true
  current : s'.current = some next
  state : (s'.threads next).state = .running
  closest : ∀ c, s.current = some c → Closest s c next

/-- A call that says whether it switched: a thread was picked, or the current one runs on. -/
def Turns (s s' : State) (switched : Prop) : Prop :=
  (switched ∧ ∃ next, Picked s s' next) ∨ (¬ switched ∧ RunsOn s s')

/-- The threads that are ready stay ready. -/
def StayReady (s s' : State) : Prop := ∀ u, eligible s u = true → eligible s' u = true

theorem Picked.after {s1 : State} {next : ThreadSlot} (h : Picked s1 s' next) (hr : RunsOn s s1)
    (hready : StayReady s s1) : Picked s s' next := by
  refine ⟨h.installed, h.current, h.state, ?_⟩
  intro c hc u hu he
  exact h.closest c (by rw [hr.current]; exact hc) u hu (hready u he)

theorem StayReady.of_threads (h : s'.threads = s.threads) : StayReady s s' := by
  intro u hu
  rw [eligible_congr (congrFun h u)]
  exact hu

theorem StayReady.trans (h : StayReady s s') (h' : StayReady s' s'') : StayReady s s'' :=
  fun u hu => h' u (h u hu)

/-- A wait that ends was the wait of a thread that is not ready. -/
theorem Ended.stayReady {ended : RecordSlot → Prop} {completionResult : Nat}
    {waitResult : WaitResult} (h : Core s) (he : Ended s s' ended completionResult waitResult) :
    StayReady s s' := by
  intro u hu
  rw [eligible_congr, hu]
  apply he.other_threads u
  intro q hq hqu
  obtain ⟨v, _, hv, _, _, _, hvb, _⟩ := h.waits.pending q (he.was_pending q hq)
  rw [hqu] at hv
  cases hv
  rw [(eligible_facts hu).2.1] at hvb
  cases hvb

theorem pollTimeouts_stayReady (h : Inv s) (clock : Option Nat) :
    StayReady s (pollTimeouts s clock).2 := by
  unfold pollTimeouts
  cases clock with
  | none => exact .of_threads rfl
  | some now =>
    simp only
    split
    · exact .of_threads rfl
    · exact (serviceTimeouts_spec h now).2.2.stayReady h.toCore

theorem tokenTaken_stayReady (s : State) (e : EventSlot) : StayReady s (tokenTaken s e) := by
  unfold tokenTaken
  split <;> exact .of_threads rfl

theorem armWaitTimeout_stayReady (s : State) (deadlineMs : Nat) :
    StayReady s (armWaitTimeout s deadlineMs).2 := by
  unfold armWaitTimeout
  split
  · exact .of_threads rfl
  · split <;> exact .of_threads rfl

theorem setLastError_stayReady (s : State) (error : Nat) : StayReady s (setLastError s error) := by
  unfold setLastError
  cases s.current with
  | none => exact .of_threads rfl
  | some c =>
    simp only
    split
    · intro u hu
      rw [← hu]
      by_cases huc : u = c
      · subst huc
        simp [eligible]
      · exact eligible_congr (by simp [huc])
    · exact .of_threads rfl

theorem prepareYield_turns (h : Inv s) (planOut : Bool) :
    Turns s (prepareYield s planOut).2 ((prepareYield s planOut).1.ok = true) := by
  by_cases hg : s.installed = true ∧ planOut = true ∧
      ∃ c, s.current = some c ∧ (s.threads c).state = .running
  · obtain ⟨hi, rfl, c, hc, hr⟩ := hg
    obtain ⟨next, hreply, _, hother, hcases⟩ := prepareYield_spec h hi hc hr
    refine Or.inl ⟨by rw [hreply], next, ?_⟩
    rcases hcases with ⟨rfl, heq⟩ | ⟨_, _, hclosest, queue, count, heq, _⟩
    · rw [heq]
      refine ⟨hi, hc, hr, ?_⟩
      -- the thread goes on because no other one is ready
      intro d hd u hu he
      rw [hc] at hd
      cases hd
      exact absurd rfl (hother.mpr ⟨u, hu, he⟩)
    · rw [heq]
      refine ⟨hi, rfl, by simp [yielded], ?_⟩
      intro d hd
      rw [hc] at hd
      cases hd
      exact hclosest
  · rw [prepareYield_refused hg]
    exact Or.inr ⟨by simp, RunsOn.refl s⟩

theorem prepareWaitRecord_turns (h : Inv s) (handle : Nat) (planOut : Bool) :
    Turns s (prepareWaitRecord s handle planOut).2
      ((prepareWaitRecord s handle planOut).1.result = .blocked) := by
  rcases prepareWaitRecord_cases h handle planOut with ⟨hreply, hu⟩ | ⟨e, _, _, hreply, hu⟩ |
    ⟨c, o, e, r, next, queue, count, hi, hc, _, _, _, _, _, _, _, _, _, hclosest, hreply, heq, _⟩
  · exact Or.inr ⟨by rw [hreply]; simp, hu.runsOn⟩
  · exact Or.inr ⟨by rw [hreply]; simp, (tokenTaken_runsOn s e).trans hu.runsOn⟩
  · refine Or.inl ⟨by rw [hreply], next, ?_⟩
    rw [heq]
    refine ⟨hi, rfl, by simp [blockedFor], ?_⟩
    intro d hd
    rw [hc] at hd
    cases hd
    exact hclosest

/-- A wait through the assembly switches when its `prepare_wait` blocks, and only then. -/
theorem blockCurrent_turns (h : Inv s) (handle : Nat) :
    Turns s (blockCurrent s handle).2 (∃ record, (blockCurrent s handle).1 = .switched record) := by
  have hturns := prepareWaitRecord_turns h handle true
  have hinv := prepareWaitRecord_inv h handle true
  unfold blockCurrent
  generalize prepareWaitRecord s handle true = prepared at hturns hinv ⊢
  obtain ⟨⟨result, plan, record⟩, s1⟩ := prepared
  have hdone : result ≠ .blocked →
      (∀ code, Turns s (finishWait s1 handle).2
        (∃ record, WaitOneOutcome.returned code = .switched record)) ∧
      Turns s (waitFailure (finishWait s1 handle).2 errorNotEnoughMemory).2
        (∃ record, (waitFailure (finishWait s1 handle).2 errorNotEnoughMemory).1 =
          .switched record) := by
    intro hno
    rcases hturns with ⟨hblocked, _⟩ | ⟨_, hrun⟩
    · exact absurd hblocked hno
    · have h2 := hrun.trans (finishWait_runsOn hinv handle)
      have herror := h2.trans (setLastError_unseen _ errorNotEnoughMemory).runsOn
      exact ⟨fun _ => Or.inr ⟨by simp, h2⟩, Or.inr ⟨by simp [waitFailure], herror⟩⟩
  cases result with
  | failure =>
    rcases hturns with ⟨hblocked, _⟩ | ⟨_, hrun⟩
    · cases hblocked
    · exact Or.inr ⟨by simp, hrun⟩
  | blocked =>
    rcases hturns with ⟨_, hpicked⟩ | ⟨hno, _⟩
    · exact Or.inl ⟨⟨record, rfl⟩, hpicked⟩
    · exact absurd rfl hno
  | signaled =>
    obtain ⟨hreturned, hfailed⟩ := hdone (by simp)
    exact unblocked_ends (Q := fun p => Turns s p.2 (∃ record, p.1 = .switched record)) hreturned
      hfailed
  | timedOut =>
    obtain ⟨hreturned, hfailed⟩ := hdone (by simp)
    exact unblocked_ends (Q := fun p => Turns s p.2 (∃ record, p.1 = .switched record)) hreturned
      hfailed

theorem waitOne_turns (h : Inv s) (contextGiven : Bool) (handle milliseconds alertable : Nat)
    (clock pollClock : Option Nat) :
    Turns s (waitOne s contextGiven handle milliseconds alertable clock pollClock).2
      (∃ record, (waitOne s contextGiven handle milliseconds alertable clock pollClock).1 =
        .switched record) := by
  refine waitOne_ends (P := fun s1 => Inv s1 ∧ RunsOn s s1 ∧ StayReady s s1)
    (Q := fun p => Turns s p.2 (∃ record, p.1 = .switched record))
    ⟨h, RunsOn.refl s, .of_threads rfl⟩ ?_ ?_ ?_ ?_ ?_ ?_
  · intro e
    exact ⟨tokenTaken_inv h e, tokenTaken_runsOn s e, tokenTaken_stayReady s e⟩
  · exact ⟨pollTimeouts_inv h pollClock, pollTimeouts_runsOn h pollClock,
      pollTimeouts_stayReady h pollClock⟩
  · rintro s1 deadline ⟨h1, hr1, he1⟩
    have hu := armWaitTimeout_unseen s1 deadline
    exact ⟨h1.unseen hu, hr1.trans hu.runsOn, he1.trans (armWaitTimeout_stayReady s1 deadline)⟩
  · rintro s1 error ⟨h1, hr1, he1⟩
    have hu := setLastError_unseen s1 error
    exact ⟨h1.unseen hu, hr1.trans hu.runsOn, he1.trans (setLastError_stayReady s1 error)⟩
  · rintro code s1 ⟨_, hr1, _⟩
    exact Or.inr ⟨by simp, hr1⟩
  · rintro s1 ⟨h1, hr1, he1⟩
    rcases blockCurrent_turns h1 handle with ⟨hout, next, hpicked⟩ | ⟨hno, hrun⟩
    · exact Or.inl ⟨hout, next, hpicked.after hr1 he1⟩
    · exact Or.inr ⟨hno, hr1.trans hrun⟩

/-! ## The thread that runs after a step -/

/-- What a step does to the processor: the current thread keeps it, a thread is picked, or
the last thread ends or the scheduler goes away. -/
inductive TurnEffect (s : State) (op : Op) (s' : State) : Prop
  | runsOn (h : RunsOn s s') (hnone : selected s op = none)
  | picked (next : ThreadSlot) (h : Picked s s' next) (hsome : selected s op = some next)
  | stopped (hstop : ¬ GoesOn s op) (hnone : selected s op = none)
      (hleft : s'.current = s.current ∨ s'.installed = false)

theorem Unseen.turn {op : Op} (h : Unseen s s') (hnone : selected s op = none) :
    TurnEffect s op s' := .runsOn h.runsOn hnone

theorem createEvent_runsOn (h : Inv s) (p : SchedulerPtr) (m i : Nat) (handleOut : Bool) :
    RunsOn s (createEvent s p m i handleOut).2 := by
  rcases createEvent_cases h p m i handleOut with ⟨_, hu⟩ | ⟨e, o, g, _, _, _, _, heq⟩
  · exact hu.runsOn
  · rw [heq]
    exact ⟨rfl, rfl, fun _ _ hs => hs⟩

theorem createMemoryResourceNotification_runsOn (s : State) (p : SchedulerPtr) (n : Nat)
    (handleOut : Bool) : RunsOn s (createMemoryResourceNotification s p n handleOut).2 := by
  unfold createMemoryResourceNotification
  split
  · exact RunsOn.refl s
  · split
    · exact RunsOn.refl s
    · rcases allocateObject_cases s .memoryResourceNotification .notification with
        heq | ⟨o, g, _, _, _, heq⟩ <;> rw [heq] <;> exact ⟨rfl, rfl, fun _ _ hs => hs⟩

theorem installStandardStream_runsOn (s : State) (p : SchedulerPtr) (roles backend caps : Nat) :
    RunsOn s (installStandardStream s p roles backend caps).2 := by
  unfold installStandardStream
  split
  · exact RunsOn.refl s
  · split
    · split <;> exact ⟨rfl, rfl, fun _ _ hs => hs⟩
    · rcases allocateObject_cases { s with standardStream := {} } .standardStream .stream with
        heq | ⟨o, g, _, _, _, heq⟩ <;> rw [heq] <;> exact ⟨rfl, rfl, fun _ _ hs => hs⟩

theorem createSuspendedThread_runsOn (h : Inv s) (p : SchedulerPtr) (entry argument : Nat)
    (handleOut threadOut : Bool) (answers : CreateAnswers) :
    RunsOn s (createSuspendedThread s p entry argument handleOut threadOut answers).2 := by
  rcases createSuspendedThread_cases h p entry argument handleOut threadOut answers with
    ⟨_, hu⟩ | ⟨t, o, thread, hi, ht, _, _, _, hu⟩
  · exact hu.runsOn
  · obtain ⟨hc, _⟩ := h.current.live_ne hi ht
    have hnew := RunsOn.modThread (t := t) (s := s.modObject o fun _ =>
      newObject .thread o thread.generation (.thread t)) hc fun _ => thread
    have hplaced : RunsOn s _ := ⟨hnew.installed, hnew.current, hnew.state⟩
    exact hplaced.trans hu.runsOn

theorem resumeThread_runsOn (h : Inv s) (handle : Nat) : RunsOn s (resumeThread s handle).2 := by
  rcases resumeThread_cases h handle with heq | ⟨t, _, _, hs, heq, _⟩
  · rw [heq]
    exact RunsOn.refl s
  · rw [heq]
    refine ⟨rfl, rfl, ?_⟩
    intro c _ hrun
    have hne : c ≠ t := by
      rintro rfl
      rw [hs] at hrun
      cases hrun
    simpa [resumed, hne] using hrun

theorem closeHandle_runsOn (h : Inv s) (handle : Nat) (unregistered : Bool) :
    RunsOn s (closeHandle s handle unregistered).2 := by
  rcases closeHandle_cases h.objects handle unregistered with
    heq | ⟨o, e, _, heq⟩ | ⟨o, t, _, ho, heq⟩
  · rw [heq]
    exact RunsOn.refl s
  · rw [heq]
    exact ⟨rfl, rfl, fun _ _ hs => hs⟩
  · rw [heq]
    have hclosed : RunsOn s (closedThread s o t) := by
      refine ⟨rfl, rfl, ?_⟩
      intro c _ hrun
      rw [← hrun]
      exact view_modThread Tcb.state (closedObject s o) t (by rfl) c
    exact hclosed.trans (maybeReclaimThread_runsOn (closedThread_inv h ho).toCore t unregistered)

theorem tryDestroyEvent_runsOn (s : State) (handle : Nat) :
    RunsOn s (tryDestroyEvent s handle).2 := by
  rcases tryDestroyEvent_cases s handle with heq | ⟨o, e, _, _, _, _, heq⟩ <;> rw [heq] <;>
    exact ⟨rfl, rfl, fun _ _ hs => hs⟩

theorem tryDestroyMemoryResourceNotification_runsOn (s : State) (handle : Nat) :
    RunsOn s (tryDestroyMemoryResourceNotification s handle).2 := by
  unfold tryDestroyMemoryResourceNotification
  split
  · exact RunsOn.refl s
  · split <;> exact ⟨rfl, rfl, fun _ _ hs => hs⟩

theorem tryReclaimThread_runsOn (h : Inv s) (t : Option ThreadSlot) (unregistered : Bool) :
    RunsOn s (tryReclaimThread s t unregistered).2 := by
  unfold tryReclaimThread
  cases t with
  | none => exact RunsOn.refl s
  | some t =>
    simp only
    split
    · exact RunsOn.refl s
    · exact maybeReclaimThread_runsOn h.toCore t unregistered

theorem discardCreatedThread_runsOn (h : Inv s) (t : Option ThreadSlot) (unregistered : Bool) :
    RunsOn s (discardCreatedThread s t unregistered).2 := by
  rcases discardCreatedThread_cases h.toCore t unregistered with heq | ⟨v, _, hd, heq⟩
  · rw [heq]
    exact RunsOn.refl s
  · rw [heq]
    obtain ⟨_, _, hc, _⟩ := discardable_facts h.toCore hd
    obtain ⟨q, n, hw, _⟩ := withdrawn_spec h.toCore hd
    have hwithdrawn : RunsOn s (withdrawn s v) := by
      rw [hw]
      have hgone := RunsOn.modThread (t := v)
        (s := { s with runnableQueue := q, runnableCount := n }) hc fun thread =>
          { thread with runnableQueued := false, state := .terminated, executionRefs := 0 }
      exact ⟨hgone.installed, hgone.current, hgone.state⟩
    exact hwithdrawn.trans (maybeReclaimThread_runsOn (withdrawn_inv h hd).toCore v unregistered)

theorem Turns.effect {op : Op} {switched : Prop} (h : Turns s s' switched)
    (hsome : switched → selected s op = s'.current) (hnone : ¬ switched → selected s op = none) :
    TurnEffect s op s' := by
  rcases h with ⟨hsw, next, hpicked⟩ | ⟨hno, hrun⟩
  · exact .picked next hpicked ((hsome hsw).trans hpicked.current)
  · exact .runsOn hrun (hnone hno)

theorem prepareTerminate_turn (h : Inv s) (value : Nat) (planOut : Bool) :
    TurnEffect s (.prepareTerminate value planOut) (prepareTerminate s value planOut).2 := by
  rcases prepareTerminate_cases h value planOut with
    heq | ⟨c, hc, hg, heq | ⟨next, queue, count, _, _, hclosest, hok, heq, _⟩⟩
  · rw [heq]
    exact .runsOn (RunsOn.refl s) (by simp [selected, heq])
  · refine .stopped ?_ (by simp [selected, heq]) (Or.inl ?_)
    · simp [GoesOn, heq]
    · rw [heq]
      rfl
  · obtain ⟨hi, _⟩ := terminatesCurrent_facts hg
    refine .picked next ?_ ?_
    · rw [heq]
      refine ⟨hi, rfl, by simp [exited], ?_⟩
      intro d hd
      rw [hc] at hd
      cases hd
      exact hclosest
    · simp only [selected, hok, if_true, heq]
      rfl

theorem teardown_turn (h : Inv s) (p : SchedulerPtr) (unregistered : ThreadSlot → Bool) :
    TurnEffect s (.teardown p unregistered) (teardown s p unregistered).2 := by
  rcases teardown_cases h p unregistered with heq | heq | ⟨_, _, _, heq⟩
  · rw [heq]
    exact .runsOn (RunsOn.refl s) rfl
  · rw [heq]
    exact .runsOn (collect_runsOn h p unregistered) rfl
  · refine .stopped ?_ rfl (Or.inr ?_)
    · simp [GoesOn, heq]
    · rw [heq]
      rfl

theorem waitOne_turn (h : Inv s) (contextGiven : Bool) (handle milliseconds alertable : Nat)
    (clock pollClock : Option Nat) :
    TurnEffect s (.waitOne contextGiven handle milliseconds alertable clock pollClock)
      (waitOne s contextGiven handle milliseconds alertable clock pollClock).2 := by
  have hturns := waitOne_turns h contextGiven handle milliseconds alertable clock pollClock
  have hselected :
      selected s (.waitOne contextGiven handle milliseconds alertable clock pollClock) =
      match waitOne s contextGiven handle milliseconds alertable clock pollClock with
      | (.switched _, s1) => s1.current
      | _ => none := rfl
  generalize waitOne s contextGiven handle milliseconds alertable clock pollClock = waited
    at hturns hselected ⊢
  obtain ⟨outcome, s1⟩ := waited
  apply hturns.effect
  · rintro ⟨record, rfl⟩
    exact hselected
  · intro hno
    rw [hselected]
    cases outcome with
    | switched record => exact absurd ⟨record, rfl⟩ hno
    | returned code => rfl
    | trapped => rfl

theorem step_turn (h : Inv s) (op : Op) : TurnEffect s op (step s op) := by
  have hcontract : ∀ (call : State → Nat → Bool × State) (contextGiven : Bool) (handle : Nat),
      RunsOn s (call s handle).2 → RunsOn s (eventContract call s contextGiven handle).2 :=
    fun call _ _ hcall => eventContract_rule (RunsOn.refl s) hcall
      fun s1 error h1 => h1.trans (setLastError_unseen s1 error).runsOn
  cases op with
  | configureStackVm p a b => exact (configureStackVm_unseen s p a b).turn rfl
  | configureClock p a => exact (configureClock_unseen s p a).turn rfl
  | adoptBootEnvironment p b => exact (adoptBootEnvironment_unseen s p b).turn rfl
  | createEvent p m i a => exact .runsOn (createEvent_runsOn h p m i a) rfl
  | createMemoryResourceNotification p n a =>
    exact .runsOn (createMemoryResourceNotification_runsOn s p n a) rfl
  | installStandardStream p r b k => exact .runsOn (installStandardStream_runsOn s p r b k) rfl
  | createSuspendedThread p e a b d w =>
    exact .runsOn (createSuspendedThread_runsOn h p e a b d w) rfl
  | resumeThread handle => exact .runsOn (resumeThread_runsOn h handle) rfl
  | closeHandle handle u => exact .runsOn (closeHandle_runsOn h handle u) rfl
  | signalEvent handle => exact .runsOn (signalEvent_runsOn h handle) rfl
  | resetEvent handle => exact .runsOn (resetEvent_runsOn h handle) rfl
  | armWaitTimeout d => exact (armWaitTimeout_unseen s d).turn rfl
  | serviceTimeouts now => exact .runsOn ((serviceTimeouts_spec h now).2.2.runsOn h.toCore) rfl
  | pollTimeouts k => exact .runsOn (pollTimeouts_runsOn h k) rfl
  | prepareWaitRecord handle p =>
    exact (prepareWaitRecord_turns h handle p).effect (fun hsw => if_pos hsw) fun hno => if_neg hno
  | finishWait handle => exact .runsOn (finishWait_runsOn h handle) rfl
  | prepareYield p =>
    exact (prepareYield_turns h p).effect (fun hsw => if_pos hsw) fun hno => if_neg hno
  | prepareTerminate v p => exact prepareTerminate_turn h v p
  | contextSwitch p f => exact (contextSwitch_unseen s p f).turn rfl
  | tryDestroyEvent handle => exact .runsOn (tryDestroyEvent_runsOn s handle) rfl
  | tryDestroyMemoryResourceNotification handle =>
    exact .runsOn (tryDestroyMemoryResourceNotification_runsOn s handle) rfl
  | tryReclaimThread t u => exact .runsOn (tryReclaimThread_runsOn h t u) rfl
  | discardCreatedThread t u => exact .runsOn (discardCreatedThread_runsOn h t u) rfl
  | collect p u => exact .runsOn (collect_runsOn h p u) rfl
  | teardown p u => exact teardown_turn h p u
  | noteWorkerStarted => exact (noteWorkerStarted_unseen s).turn rfl
  | setFls i v => exact (setFls_unseen s i v).turn rfl
  | setLastError v => exact (setLastError_unseen s v).turn rfl
  | waitOne a handle m b k l => exact waitOne_turn h a handle m b k l
  | setEventContract a handle =>
    exact .runsOn (hcontract signalEvent a handle (signalEvent_runsOn h handle)) rfl
  | resetEventContract a handle =>
    exact .runsOn (hcontract resetEvent a handle (resetEvent_runsOn h handle)) rfl
  | store memory => exact .runsOn ⟨rfl, rfl, fun _ _ hs => hs⟩ rfl

theorem step_running (h : Inv s) (hr : Running s) {op : Op} (hop : GoesOn s op) :
    Running (step s op) := by
  cases step_turn h op with
  | runsOn hrun _ => exact hrun.running hr
  | picked next hpicked _ => exact ⟨hpicked.installed, next, hpicked.current, hpicked.state⟩
  | stopped hstop _ _ => exact absurd hop hstop

theorem Inv.installed_of_running (h : Inv s) {c : ThreadSlot}
    (hr : (s.threads c).state = .running) :
    s.installed = true := by
  rw [← Bool.not_eq_false]
  intro hi
  have hblank := h.blank c (h.current.vacant hi c)
  simp only [Tcb.view, Prod.mk.injEq] at hblank
  rw [hblank.1.2.1] at hr
  cases hr

theorem started_running (h : Started s) : Running s := by
  obtain ⟨i, hi⟩ := h
  apply (started_unseen hi).runsOn.running
  exact ⟨rfl, 0, rfl, by simp [bootBase_boot]⟩

end Gate4Harness.Scheduler
