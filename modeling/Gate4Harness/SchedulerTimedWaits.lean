-- Waits with a timeout. A wait blocks when another thread is ready to run, and then
-- it ends with a signal or a timeout. When no thread is ready the wait fails, whatever
-- its timeout, and the assembly around it stops the machine.
import Gate4Harness.SchedulerCompletion
import Gate4Harness.SchedulerTurns

namespace Gate4Harness.Scheduler

variable {s s' : State} {t c : ThreadSlot} {o : ObjectSlot} {e : EventSlot} {r : RecordSlot}
  {handle : Nat} {op : Op}

/-! ## Registration -/

theorem freeWaitRecord?_some (hi : s.installed = true) (hr : (s.waitRecords r).valid = false) :
    ∃ q, freeWaitRecord? s = some q := by
  rw [← Option.isSome_iff_exists]
  unfold freeWaitRecord?
  rw [if_neg (by simp [hi]), List.find?_isSome]
  exact ⟨r, List.mem_finRange r, by simp [hr]⟩

theorem ready_iff_mem {l : List ThreadSlot} (hl : QueueUpTo s none l) : Ready s t ↔ t ∈ l :=
  (hl.mem_iff t (by simp)).symm

/-- With a free record, a wait on an event that is not set blocks if a thread is ready, and
else it fails. -/
theorem registerWait_result (h : Inv s) (hc : (s.threads c).state = .running)
    (ho : StandsFor s o .event (.event e)) (hs : (s.events e).signaled = false)
    (hr : (s.waitRecords r).valid = false) (handle : Nat) (timeoutArmed : Bool) (deadlineMs : Nat) :
    (registerWait s c o e handle timeoutArmed deadlineMs).1.result =
      if ∃ t, Ready s t then .blocked else .failure := by
  obtain ⟨q, hq⟩ := freeWaitRecord?_some (h.installed_of_running hc) hr
  obtain ⟨l, hl⟩ := h.queue
  have hwaiting : QueueUpTo (waiting s c o e q handle timeoutArmed deadlineMs) none l :=
    waiting_queue hl hc
  rw [registerWait_eq h hc ho hs, hq]
  simp only
  cases hp : pickNextRunnable (waiting s c o e q handle timeoutArmed deadlineMs) c with
  | none =>
    have hnil := (pickNextRunnable_none hwaiting).mp hp
    rw [if_neg]
    rintro ⟨t, ht⟩
    have hmem := (ready_iff_mem hl).mp ht
    rw [hnil] at hmem
    cases hmem
  | some next =>
    rw [if_pos ⟨next, (ready_iff_mem hl).mpr (pickNextRunnable_mem hwaiting hp)⟩]

/-! ## The wait of the current thread -/

theorem openEvent_validates (h : Inv s) (ho : openEvent s handle = some e) :
    ∃ o, validateOpenEventHandle s handle = some (o, e) := by
  unfold openEvent at ho
  cases hobject : objectFromHandle s handle with
  | none => simp [hobject] at ho
  | some o =>
    simp only [hobject] at ho
    split at ho
    · cases ho
    · rename_i hg
      simp only [not_or, ne_eq, Decidable.not_not] at hg
      obtain ⟨htype, hpublic, hclosed, hinternal⟩ := hg
      obtain ⟨_, hlive, _, hdecode⟩ := lookupObject_eq_some (objectFromHandle_event hobject htype)
      cases htarget : targetEvent s o with
      | none => simp [htarget] at ho
      | some d =>
        simp only [htarget] at ho
        split at ho
        · cases ho
        · rename_i hevent
          cases ho
          rw [(h.objects.slot o hlive).1] at hevent
          refine ⟨o, ?_⟩
          unfold validateOpenEventHandle decodeEventIdentity
          simp only [hdecode]
          rw [if_neg (by simp [hlive, htype, hclosed, hpublic, hinternal]), htarget]
          simp only
          rw [if_neg hevent]

/-- The running thread waits for nothing yet, a wait record is free, the clock is configured,
and the event behind the open handle is not set. -/
structure CanWait (s : State) (handle : Nat) : Prop where
  running : ∃ c, s.current = some c ∧ (s.threads c).state = .running ∧
    (s.threads c).waitRecord = none
  record : ∃ r, (s.waitRecords r).valid = false
  clock : s.config.nowMs = true
  event : ∃ e, openEvent s handle = some e ∧ (s.events e).signaled = false

theorem CanWait.arms (hcan : CanWait s handle) (h : Inv s) (deadlineMs : Nat) :
    armWaitTimeout s deadlineMs =
      (true, { s with pendingWaitTimeoutArmed := true, pendingWaitDeadlineMs := deadlineMs }) := by
  obtain ⟨c, hc, hrun, hfree⟩ := hcan.running
  have hi := h.installed_of_running hrun
  unfold armWaitTimeout
  rw [hc]
  simp only
  rw [if_neg (by simp [hi, h.current.active, hrun, hfree])]

/-- A wait with the timeout armed or not. -/
theorem CanWait.prepares (hcan : CanWait s handle) (h : Inv s) :
    (prepareWaitRecord s handle true).1.result =
      if ∃ t, Ready s t then .blocked else .failure := by
  obtain ⟨c, hc, hrun, hfree⟩ := hcan.running
  obtain ⟨r, hr⟩ := hcan.record
  obtain ⟨e, he, hset⟩ := hcan.event
  have hi := h.installed_of_running hrun
  obtain ⟨o, hv⟩ := openEvent_validates h he
  have hv1 : validateOpenEventHandle (timeoutTaken s) handle = some (o, e) := hv
  have hc1 : (timeoutTaken s).current = some c := hc
  have hset1 : ((timeoutTaken s).events e).signaled = false := hset
  unfold prepareWaitRecord
  rw [if_neg (by simp [hi, h.current.active])]
  simp only [hc1, hv1]
  rw [if_neg (by simp [timeoutTaken, hrun, hfree]), if_neg (by simp [hset1])]
  exact registerWait_result (h.unseen (timeoutTaken_unseen s)) hrun
    (validateOpenEventHandle_facts hi hv).1 hset1 hr handle _ _

/-! ## The end of the wait -/

/-- Whenever `c` is current again and still has the record `r`, its wait ends with a signal
or with a timeout. -/
def EndsInTime (s : State) (handle : Nat) (c : ThreadSlot) (r : RecordSlot) : Prop :=
  ∀ s', Runs.Steps step (fun s op => ((step s op).threads c).waitRecord = some r) s s' →
    s'.current = some c →
    (finishWait s' handle).1 = .signaled ∨ (finishWait s' handle).1 = .timedOut

/-- The record `r` of the thread `c` is about the object that the handle names. -/
structure WaitsFor (s : State) (handle : Nat) (c : ThreadSlot) (r : RecordSlot) : Prop where
  inv : Inv s
  owner : (s.threads c).waitRecord = some r
  identity : decodeEventIdentity handle =
    some ((s.waitRecords r).objectSlot, (s.waitRecords r).objectGeneration)

theorem WaitsFor.step (h : WaitsFor s handle c r)
    (hkeeps : ((step s op).threads c).waitRecord = some r) : WaitsFor (step s op) handle c r := by
  have hinv := step_inv h.inv op
  have hvalid := (h.inv.waits.owner c r h.owner).2.1
  have hvalid' := (hinv.waits.owner c r hkeeps).2.1
  refine ⟨hinv, hkeeps, ?_⟩
  rw [h.identity]
  cases (step_effect h.inv op).record h.inv r with
  | kept k hrecord => rw [hrecord]
  | signaled k _ _ hrecord => rw [hrecord]
  | timedOut k now _ _ _ hrecord => rw [hrecord]
  | registered _ hfresh _ _ _ =>
    rw [hvalid] at hfresh
    cases hfresh
  | finished _ _ _ _ _ _ hblank =>
    rw [hblank] at hvalid'
    cases hvalid'

/-- A thread that is current is not blocked, so its wait is completed. -/
theorem WaitsFor.finishes (h : WaitsFor s handle c r) (hc : s.current = some c) :
    (finishWait s handle).1 = .signaled ∨ (finishWait s handle).1 = .timedOut := by
  obtain ⟨hlive, hvalid, hthread⟩ := h.inv.waits.owner c r h.owner
  obtain ⟨d, hd, _, hstate⟩ := h.inv.current.current (h.inv.current.installed_of_live hlive)
  rw [hc] at hd
  cases hd
  have hdone : (s.waitRecords r).completed = true := by
    rw [← Bool.not_eq_false]
    intro hopen
    obtain ⟨u, _, hu, _, _, _, hblocked, _⟩ := h.inv.waits.pending r ⟨hvalid, hopen⟩
    rw [hthread] at hu
    cases hu
    rw [hblocked] at hstate
    simp at hstate
  rw [finishWait_completed h.inv hc h.owner hdone (Or.inr h.identity)]
  rcases (h.inv.waits.result c r h.owner hdone).2 with ⟨hsignaled, _⟩ | ⟨htimed, _⟩
  · exact Or.inl hsignaled
  · exact Or.inr htimed

theorem WaitsFor.endsInTime (h : WaitsFor s handle c r) : EndsInTime s handle c r := by
  intro s' hsteps hc
  have hlater : WaitsFor s' handle c r := by
    apply Runs.Steps.invariant (P := fun s' => WaitsFor s' handle c r) hsteps h
    intro _ _ h1 hkeeps
    exact h1.step hkeeps
  exact hlater.finishes hc

/-! ## Waits through `wait_one` -/

theorem openEvent_congr (hi : s'.installed = s.installed) (ho : s'.objects = s.objects)
    (hl : ∀ e, (s'.events e).live = (s.events e).live)
    (hs : ∀ e, (s'.events e).objectSlot = (s.events e).objectSlot)
    (hg : ∀ e, (s'.events e).generation = (s.events e).generation) (handle : Nat) :
    openEvent s' handle = openEvent s handle := by
  simp only [openEvent, objectFromHandle, lookupObject, targetEvent, hi, ho, hl, hs, hg]

/-- Timeouts that are serviced end other waits than that of the thread that runs. -/
theorem CanWait.polled (hcan : CanWait s handle) (h : Inv s) (pollClock : Option Nat) :
    CanWait (pollTimeouts s pollClock).2 handle := by
  rcases pollTimeouts_serviced s pollClock with heq | ⟨now, _, _, heq⟩
  · rw [heq]
    exact hcan
  · rw [heq]
    obtain ⟨_, _, hended⟩ := serviceTimeouts_spec h now
    have hruns := hended.runsOn h.toCore
    obtain ⟨c, hc, hrun, hfree⟩ := hcan.running
    obtain ⟨r, hr⟩ := hcan.record
    obtain ⟨e, he, hset⟩ := hcan.event
    refine ⟨⟨c, hruns.current.trans hc, hruns.state c hc hrun, ?_⟩, ⟨r, ?_⟩, ?_, e, ?_, ?_⟩
    · rw [hended.waitRecord_eq]
      exact hfree
    · rw [hended.valid_eq]
      exact hr
    · rw [(congrArg State.config hended.rest :)]
      exact hcan.clock
    · rw [openEvent_congr hruns.installed (congrArg State.objects hended.rest :)]
      · exact he
      all_goals
        intro d
        obtain ⟨w, n, hevent, _⟩ := hended.events d
        rw [hevent]
    · obtain ⟨w, n, hevent, _⟩ := hended.events e
      rw [hevent]
      exact hset

/-- A thread that may wait gets through all the checks of `wait_one`. -/
theorem CanWait.waitOne_eq (hcan : CanWait s handle) (h : Inv s) {milliseconds now : Nat}
    (hzero : milliseconds ≠ 0) (hinfinite : milliseconds ≠ infinite) (pollClock : Option Nat) :
    waitOne s true handle milliseconds 0 (some now) pollClock =
      blockCurrent (armWaitTimeout (pollTimeouts s pollClock).2 (deadlineOf now milliseconds)).2
        handle := by
  obtain ⟨c, hc, hrun, hfree⟩ := hcan.running
  obtain ⟨e, he, hset⟩ := hcan.event
  have hi := h.installed_of_running hrun
  have hopen := he
  unfold openEvent at hopen
  cases hobject : objectFromHandle s handle with
  | none => simp [hobject] at hopen
  | some o =>
    simp only [hobject] at hopen
    split at hopen
    · cases hopen
    · rename_i hg
      simp only [not_or, ne_eq, Decidable.not_not] at hg
      obtain ⟨htype, hpublic, hclosed, hinternal⟩ := hg
      unfold waitOne
      rw [if_neg (by simp [h.current.active, hi]), if_neg (by simp), hobject]
      simp only
      rw [if_neg (by simp [hpublic, hclosed, hinternal]), if_neg (by simp [htype]), he]
      simp only
      rw [if_neg (by simp [hset]), if_neg hzero, if_neg hinfinite, if_neg (by simp [hcan.clock]),
        (hcan.polled h pollClock).arms (pollTimeouts_inv h pollClock)]

/-- A thread that blocks in `wait_one` gets a record for its wait. -/
theorem CanWait.blocks (hcan : CanWait s handle) (h : Inv s) (hready : ∃ t, Ready s t) :
    ∃ c r, s.current = some c ∧ (blockCurrent s handle).1 = .switched (some r) ∧
      EndsInTime (blockCurrent s handle).2 handle c r := by
  have hresult := hcan.prepares h
  rw [if_pos hready] at hresult
  have hcases := prepareWaitRecord_cases h handle true
  unfold blockCurrent
  generalize prepareWaitRecord s handle true = prepared at hresult hcases ⊢
  obtain ⟨⟨result, plan, record⟩, s1⟩ := prepared
  simp only at hresult hcases ⊢
  subst hresult
  rcases hcases with ⟨hreply, _⟩ | ⟨_, _, _, hreply, _⟩ |
    ⟨c, o, e, r, next, queue, count, _, hc, _, _, ho, _, hdec, _, _, hn, _, _, hreply, heq, hinv⟩
  · cases hreply
  · cases hreply
  · cases hreply
    refine ⟨c, r, hc, rfl, ?_⟩
    apply WaitsFor.endsInTime
    refine ⟨hinv, ?_, ?_⟩
    · rw [heq]
      simp [blockedFor, waiting, hn.symm]
    · rw [heq, hdec]
      simp [blockedFor, waiting, linkedRecord, timeoutTaken, (h.objects.slot o ho.1).1]

/-- A timed wait blocks exactly when another thread is ready to run, and then `wait_one` ends
with a signal or with a timeout. -/
theorem a_timed_wait_blocks_iff_a_thread_is_ready (h : Reachable s) (hcan : CanWait s handle) :
    (∀ deadline, (armWaitTimeout s deadline).1 = true →
      ((prepareWaitRecord (armWaitTimeout s deadline).2 handle true).1.result ≠ .failure ↔
        ∃ t, Ready s t)) ∧
    ∀ milliseconds now pollClock, milliseconds ≠ 0 → milliseconds ≠ infinite →
      (∃ t, Ready (pollTimeouts s pollClock).2 t) →
      ∃ c r, s.current = some c ∧
        (waitOne s true handle milliseconds 0 (some now) pollClock).1 = .switched (some r) ∧
        EndsInTime (waitOne s true handle milliseconds 0 (some now) pollClock).2 handle c r := by
  have hinv := reachableBy_inv h
  have harmed : ∀ {s1 : State}, CanWait s1 handle → ∀ deadline,
      CanWait
        { s1 with pendingWaitTimeoutArmed := true, pendingWaitDeadlineMs := deadline } handle :=
    fun hcan1 _ => ⟨hcan1.running, hcan1.record, hcan1.clock, hcan1.event⟩
  refine ⟨?_, ?_⟩
  · intro deadline _
    have hu := armWaitTimeout_unseen s deadline
    rw [hcan.arms hinv] at hu ⊢
    rw [(harmed hcan deadline).prepares (hinv.unseen hu)]
    split
    · rename_i hready
      exact iff_of_true (by simp) hready
    · rename_i hready
      exact iff_of_false (by simp) hready
  · intro milliseconds now pollClock hzero hinfinite hready
    have hpolled := hcan.polled hinv pollClock
    have hinv1 := pollTimeouts_inv hinv pollClock
    rw [hcan.waitOne_eq hinv hzero hinfinite]
    have hu := armWaitTimeout_unseen (pollTimeouts s pollClock).2 (deadlineOf now milliseconds)
    rw [hpolled.arms hinv1] at hu ⊢
    obtain ⟨c, r, hc, hout, hends⟩ := (harmed hpolled _).blocks (hinv1.unseen hu) hready
    exact ⟨c, r, (pollTimeouts_runsOn hinv pollClock).current.symm.trans hc, hout, hends⟩

/-- The boot thread may wait for an event, and a worker is ready. -/
def readyWorkerState : State :=
  Runs.run step sampleStart
    [.configureStackVm .this true true, .configureClock .this true, .createEvent .this 0 0 true,
      sampleCreate 0x200000, .resumeThread (sampleThread 2)]

theorem readyWorkerState_canWait : CanWait readyWorkerState sampleEvent :=
  ⟨⟨0, by decide +kernel⟩, ⟨0, by decide +kernel⟩, by decide +kernel, 0, by decide +kernel⟩

/-- While the worker is ready, a wait of 100 milliseconds from time 5 on blocks. -/
theorem the_boot_thread_waits_while_a_worker_is_ready :
    (prepareWaitRecord (armWaitTimeout readyWorkerState 100).2 sampleEvent true).1.result ≠
      .failure ∧
    ∃ c r, readyWorkerState.current = some c ∧
      (waitOne readyWorkerState true sampleEvent 100 0 (some 5) (some 5)).1 = .switched (some r) ∧
      EndsInTime (waitOne readyWorkerState true sampleEvent 100 0 (some 5) (some 5)).2
        sampleEvent c r := by
  have hreach : Reachable readyWorkerState :=
    Runs.Reach.run (.start sampleStart_started) _ fun _ _ _ => trivial
  have hlaw := a_timed_wait_blocks_iff_a_thread_is_ready hreach readyWorkerState_canWait
  exact ⟨(hlaw.1 100 (by decide +kernel)).mpr ⟨1, by decide +kernel⟩,
    hlaw.2 100 5 (some 5) (by decide) (by decide) ⟨1, by decide +kernel⟩⟩

/-- The boot thread may wait for an event, and it is the only thread. -/
def loneState : State :=
  Runs.run step sampleStart [.configureClock .this true, .createEvent .this 0 0 true]

/-- A thread that is alone cannot wait, although its timeout was armed. -/
theorem a_timed_wait_of_the_only_thread_fails :
    Reachable loneState ∧ CanWait loneState sampleEvent ∧
    (armWaitTimeout loneState 100).1 = true ∧
    (prepareWaitRecord (armWaitTimeout loneState 100).2 sampleEvent true).1.result = .failure := by
  refine ⟨Runs.Reach.run (.start sampleStart_started) _ fun _ _ _ => trivial, ?_,
    by decide +kernel, by decide +kernel⟩
  exact ⟨⟨0, by decide +kernel⟩, ⟨0, by decide +kernel⟩, by decide +kernel, 0, by decide +kernel⟩

end Gate4Harness.Scheduler
