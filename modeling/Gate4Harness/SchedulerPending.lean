-- The timeout that is armed for the next wait. One field of the scheduler holds it between
-- `arm_wait_timeout` and `prepare_wait_record`, and nothing else touches that field. A call of
-- `wait_one` arms it and takes it again.
import Gate4Harness.SchedulerTimedWaits

namespace Gate4Harness.Scheduler

variable {s : State} {e : EventSlot} {handle : Nat} {op : Op}

/-! ## What leaves it alone -/

/-- The timeout that is armed for the next wait. -/
def State.pendingTimeout (s : State) : Option Nat :=
  if s.pendingWaitTimeoutArmed then some s.pendingWaitDeadlineMs else none

@[simp] theorem modThread_pending (s : State) (t : ThreadSlot) (f : Tcb → Tcb) :
    (s.modThread t f).pendingTimeout = s.pendingTimeout := rfl

@[simp] theorem modEvent_pending (s : State) (e : EventSlot) (f : Waitable → Waitable) :
    (s.modEvent e f).pendingTimeout = s.pendingTimeout := rfl

@[simp] theorem modObject_pending (s : State) (o : ObjectSlot) (f : Object → Object) :
    (s.modObject o f).pendingTimeout = s.pendingTimeout := rfl

@[simp] theorem modRecord_pending (s : State) (r : RecordSlot) (f : WaitRecord → WaitRecord) :
    (s.modRecord r f).pendingTimeout = s.pendingTimeout := rfl

@[simp] theorem modMachine_pending (s : State) (f : Machine → Machine) :
    (s.modMachine f).pendingTimeout = s.pendingTimeout := rfl

@[simp] theorem enqueueRunnable_pending (s : State) (t : ThreadSlot) :
    (enqueueRunnable s t).2.pendingTimeout = s.pendingTimeout := by
  unfold enqueueRunnable
  repeat' split
  all_goals rfl

@[simp] theorem removeRunnable_pending (s : State) (t : ThreadSlot) :
    (removeRunnable s t).2.pendingTimeout = s.pendingTimeout := by
  unfold removeRunnable
  repeat' split
  all_goals rfl

@[simp] theorem chooseNext_pending (s : State) (t : ThreadSlot) :
    (chooseNext s t).2.pendingTimeout = s.pendingTimeout :=
  removeRunnable_pending s t

@[simp] theorem addWaiter_pending (s : State) (e : EventSlot) (r : RecordSlot) :
    (addWaiter s e r).2.pendingTimeout = s.pendingTimeout := by
  unfold addWaiter
  repeat' split
  all_goals rfl

@[simp] theorem removeWaiter_pending (s : State) (e : EventSlot) (index : Nat) :
    (removeWaiter s e index).pendingTimeout = s.pendingTimeout := by
  unfold removeWaiter
  dsimp only
  repeat' split
  all_goals rfl

@[simp] theorem completeWaiter_pending (s : State) (e : EventSlot) (index completionResult : Nat)
    (waitResult : WaitResult) :
    (completeWaiter s e index completionResult waitResult).pendingTimeout =
      s.pendingTimeout := by
  unfold completeWaiter
  dsimp only
  repeat' split
  all_goals simp

@[simp] theorem timeoutWaiter_pending (s : State) (r : RecordSlot) :
    (timeoutWaiter s r).pendingTimeout = s.pendingTimeout := by
  unfold timeoutWaiter
  repeat' split
  all_goals simp

@[simp] theorem unpinWaitRecord_pending (s : State) (r : RecordSlot) :
    (unpinWaitRecord s r).pendingTimeout = s.pendingTimeout := by
  unfold unpinWaitRecord
  dsimp only
  repeat' split
  all_goals rfl

@[simp] theorem releaseWaitRecord_pending (s : State) (r : RecordSlot) :
    (releaseWaitRecord s r).pendingTimeout = s.pendingTimeout := by
  unfold releaseWaitRecord
  dsimp only
  repeat' split
  all_goals simp
  rfl

@[simp] theorem fillRecord_pending (s : State) (c : ThreadSlot) (o : ObjectSlot) (e : EventSlot)
    (r : RecordSlot) (timeoutArmed : Bool) (deadlineMs : Nat) :
    (fillRecord s c o e r timeoutArmed deadlineMs).pendingTimeout = s.pendingTimeout := rfl

@[simp] theorem blockThread_pending (s : State) (c : ThreadSlot) (r : RecordSlot) (handle : Nat) :
    (blockThread s c r handle).pendingTimeout = s.pendingTimeout := rfl

@[simp] theorem unblockThread_pending (s : State) (c : ThreadSlot) (e : EventSlot)
    (r : RecordSlot) : (unblockThread s c e r).pendingTimeout = s.pendingTimeout := by
  simp [unblockThread]

@[simp] theorem pinObject_pending (s : State) (o : ObjectSlot) :
    (pinObject s o).2.pendingTimeout = s.pendingTimeout := by
  unfold pinObject
  split <;> rfl

@[simp] theorem allocateWaitRecord_pending (s : State) :
    (allocateWaitRecord s).2.pendingTimeout = s.pendingTimeout := by
  unfold allocateWaitRecord
  split <;> rfl

theorem registerWait_pending (s : State) (c : ThreadSlot) (o : ObjectSlot) (e : EventSlot)
    (handle : Nat) (timeoutArmed : Bool) (deadlineMs : Nat) :
    (registerWait s c o e handle timeoutArmed deadlineMs).2.pendingTimeout = s.pendingTimeout := by
  have hpin := pinObject_pending s o
  unfold registerWait
  generalize pinObject s o = p at hpin ⊢
  obtain ⟨pinned, s1⟩ := p
  cases pinned with
  | false => exact hpin
  | true =>
    have halloc := (allocateWaitRecord_pending s1).trans hpin
    dsimp only
    generalize allocateWaitRecord s1 = q at halloc ⊢
    obtain ⟨record, s2⟩ := q
    cases record with
    | none => exact halloc
    | some r =>
      dsimp only at halloc ⊢
      repeat' split
      all_goals simp [halloc]

theorem legacyWait_pending (s : State) (c : ThreadSlot) (handle : Nat) :
    (legacyWait s c handle).2.pendingTimeout = s.pendingTimeout := by
  unfold legacyWait tokenTaken
  dsimp only
  repeat' split
  all_goals simp
  all_goals rfl

@[simp] theorem tokenTaken_pending (s : State) (e : EventSlot) :
    (tokenTaken s e).pendingTimeout = s.pendingTimeout := by
  unfold tokenTaken
  split <;> rfl

/-- A wait that is prepared takes the armed timeout, however it goes on. -/
theorem prepareWaitRecord_pending (hi : s.installed = true) (ha : s.active = true)
    (handle : Nat) : (prepareWaitRecord s handle true).2.pendingTimeout = none := by
  have htaken : (timeoutTaken s).pendingTimeout = none := rfl
  unfold prepareWaitRecord
  rw [if_neg (by simp [hi, ha])]
  dsimp only
  repeat' split
  all_goals simp [htaken, registerWait_pending, legacyWait_pending]

@[simp] theorem finishWait_pending (s : State) (handle : Nat) :
    (finishWait s handle).2.pendingTimeout = s.pendingTimeout := by
  unfold finishWait
  dsimp only
  repeat' split
  all_goals simp

@[simp] theorem setLastError_pending (s : State) (error : Nat) :
    (setLastError s error).pendingTimeout = s.pendingTimeout := by
  unfold setLastError
  repeat' split
  all_goals rfl

@[simp] theorem wakeAll_pending (e : EventSlot) (turns : Nat) (s : State) :
    (wakeAll e turns s).pendingTimeout = s.pendingTimeout := by
  induction turns generalizing s with
  | zero => rfl
  | succ turns ih =>
    unfold wakeAll
    split
    · rfl
    · rw [ih]
      exact completeWaiter_pending s e 0 _ _

@[simp] theorem signalEvent_pending (s : State) (handle : Nat) :
    (signalEvent s handle).2.pendingTimeout = s.pendingTimeout := by
  unfold signalEvent wakeWaiter
  dsimp only
  repeat' split
  all_goals simp

@[simp] theorem resetEvent_pending (s : State) (handle : Nat) :
    (resetEvent s handle).2.pendingTimeout = s.pendingTimeout := by
  unfold resetEvent
  repeat' split
  all_goals rfl

@[simp] theorem serviceTimeouts_pending (s : State) (now : Nat) :
    (serviceTimeouts s now).2.pendingTimeout = s.pendingTimeout := by
  have hfold : ∀ (l : List RecordSlot) (k : Nat) (s : State),
      (l.foldl (serviceRecord now) (k, s)).2.pendingTimeout = s.pendingTimeout := by
    intro l
    induction l with
    | nil => exact fun _ _ => rfl
    | cons r rest ih =>
      intro k s
      have hone : (serviceRecord now (k, s) r).2.pendingTimeout = s.pendingTimeout := by
        unfold serviceRecord
        split
        · exact timeoutWaiter_pending s r
        · rfl
      exact (ih _ _).trans hone
  unfold serviceTimeouts
  split
  · rfl
  · exact hfold _ 0 s

@[simp] theorem pollTimeouts_pending (s : State) (clock : Option Nat) :
    (pollTimeouts s clock).2.pendingTimeout = s.pendingTimeout := by
  unfold pollTimeouts
  repeat' split
  all_goals simp

@[simp] theorem releaseObjectRecord_pending (s : State) (o : ObjectSlot) :
    (releaseObjectRecord s o).pendingTimeout = s.pendingTimeout := rfl

@[simp] theorem allocateObject_pending (s : State) (type : ObjectType) (target : Target) :
    (allocateObject s type target).2.pendingTimeout = s.pendingTimeout := by
  unfold allocateObject
  repeat' split
  all_goals rfl

@[simp] theorem pageAllocate_pending (s : State) (a : PageAnswer) :
    (pageAllocate s a).2.pendingTimeout = s.pendingTimeout := by
  unfold pageAllocate
  split <;> rfl

@[simp] theorem pageFree_pending (s : State) (memory : Nat) :
    (pageFree s memory).pendingTimeout = s.pendingTimeout := by
  unfold pageFree
  split <;> rfl

@[simp] theorem freeEnvironmentPages_pending (s : State) (a b k d : Nat) :
    (freeEnvironmentPages s a b k d).pendingTimeout = s.pendingTimeout := by
  simp [freeEnvironmentPages]

@[simp] theorem freeThreadEnvironment_pending (s : State) (t : ThreadSlot) :
    (freeThreadEnvironment s t).pendingTimeout = s.pendingTimeout := by
  unfold freeThreadEnvironment
  dsimp only
  repeat' split
  all_goals simp

@[simp] theorem allocateThreadEnvironment_pending (s : State) (t : ThreadSlot)
    (a : EnvironmentAnswers) :
    (allocateThreadEnvironment s t a).2.pendingTimeout = s.pendingTimeout := by
  unfold allocateThreadEnvironment environmentPages writeEnvironment
  dsimp only
  repeat' split
  all_goals simp

@[simp] theorem abandonThread_pending (s : State) (t : ThreadSlot) (o : ObjectSlot) :
    (abandonThread s t o).pendingTimeout = s.pendingTimeout := rfl

theorem createSuspendedThread_pending (s : State) (scheduler : SchedulerPtr)
    (entry argument : Nat) (handleOut threadOut : Bool) (a : CreateAnswers) :
    (createSuspendedThread s scheduler entry argument handleOut threadOut a).2.pendingTimeout =
      s.pendingTimeout := by
  have hequip : ∀ s t o handle stack canary,
      (equipThread s t o handle stack canary a).2.pendingTimeout = s.pendingTimeout := by
    intro s t o handle stack canary
    unfold equipThread finishCreation
    dsimp only
    repeat' split
    all_goals simp
  have hfurnish : ∀ s t o handle stack,
      (furnishThread s t o handle stack a).2.pendingTimeout = s.pendingTimeout := by
    intro s t o handle stack
    unfold furnishThread setCanaries
    dsimp only
    split <;> simp [hequip]
  unfold createSuspendedThread
  split
  · rfl
  · split
    · rfl
    · rename_i t _
      have halloc := allocateObject_pending (s.modThread t fun _ => newThread entry argument)
        .thread (.thread t)
      generalize allocateObject _ _ _ = p at halloc ⊢
      obtain ⟨found, s1⟩ := p
      cases found with
      | none => exact halloc
      | some pair =>
        dsimp only at halloc ⊢
        split
        · exact halloc
        · rw [hfurnish]
          exact halloc

@[simp] theorem maybeReclaimThread_pending (s : State) (t : ThreadSlot) (unregistered : Bool) :
    (maybeReclaimThread s t unregistered).pendingTimeout = s.pendingTimeout := by
  unfold maybeReclaimThread reclaimThread
  dsimp only
  repeat' split
  all_goals simp

@[simp] theorem collect_pending (s : State) (scheduler : SchedulerPtr)
    (unregistered : ThreadSlot → Bool) :
    (collect s scheduler unregistered).2.pendingTimeout = s.pendingTimeout :=
  collect_induction (P := fun s' => s'.pendingTimeout = s.pendingTimeout) unregistered
    (fun s1 t h1 => (maybeReclaimThread_pending s1 t _).trans h1) rfl scheduler

theorem installStandardStream_pending (s : State) (scheduler : SchedulerPtr)
    (roleMask backend capabilities : Nat) :
    (installStandardStream s scheduler roleMask backend capabilities).2.pendingTimeout =
      s.pendingTimeout := by
  unfold installStandardStream installHandles
  split
  · rfl
  · split
    · split <;> rfl
    · have halloc := allocateObject_pending { s with standardStream := {} } .standardStream .stream
      generalize allocateObject _ _ _ = q at halloc ⊢
      obtain ⟨found, s1⟩ := q
      cases found <;> exact halloc

theorem resumeThread_pending (s : State) (handle : Nat) :
    (resumeThread s handle).2.pendingTimeout = s.pendingTimeout := by
  unfold resumeThread
  dsimp only
  repeat' split
  all_goals simp

theorem prepareYield_pending (s : State) (planOut : Bool) :
    (prepareYield s planOut).2.pendingTimeout = s.pendingTimeout := by
  unfold prepareYield
  split
  · rfl
  · split
    · rfl
    · rename_i c _
      split
      · rfl
      · have hqueue := enqueueRunnable_pending
          (s.modThread c fun thread => { thread with state := .runnable }) c
        dsimp only
        generalize enqueueRunnable _ c = q at hqueue ⊢
        obtain ⟨queued, s2⟩ := q
        dsimp only at hqueue ⊢
        split
        · exact hqueue
        · split
          · rw [modThread_pending, removeRunnable_pending]
            exact hqueue
          · exact (chooseNext_pending s2 _).trans hqueue

theorem teardown_pending (s : State) (scheduler : SchedulerPtr)
    (unregistered : ThreadSlot → Bool) :
    (teardown s scheduler unregistered).2.pendingTimeout = s.pendingTimeout := by
  have hstream : ∀ s, (releaseStream s).pendingTimeout = s.pendingTimeout := by
    intro s
    unfold releaseStream
    split <;> rfl
  have hcollect := collect_pending s scheduler unregistered
  unfold teardown
  split
  · rfl
  · split
    · rfl
    · split
      · rfl
      · generalize (collect s scheduler unregistered).2 = s1 at hcollect ⊢
        dsimp only
        split
        · exact hcollect
        · split
          · exact hcollect
          · rename_i boot _ _ _ _
            exact (freeThreadEnvironment_pending _ boot).trans ((hstream s1).trans hcollect)

/-- The operations that a thread that waits through `wait_one` leaves to it. -/
def waitsDirectly : Op → Bool
  | .armWaitTimeout .. | .prepareWaitRecord .. => true
  | _ => false

/-- Only a wait touches the armed timeout. -/
theorem step_pending (s : State) {op : Op} (hdirect : waitsDirectly op = false)
    (hwait : waitHandle op = none) : (step s op).pendingTimeout = s.pendingTimeout := by
  have hcontract : ∀ {call : State → Nat → Bool × State} {a : Bool} {handle : Nat},
      (call s handle).2.pendingTimeout = s.pendingTimeout →
      (eventContract call s a handle).2.pendingTimeout = s.pendingTimeout := by
    intro call a handle hcall
    exact eventContract_rule (P := fun s' => s'.pendingTimeout = s.pendingTimeout) rfl hcall
      fun s1 error h1 => (setLastError_pending s1 error).trans h1
  cases op with
  | armWaitTimeout _ => cases hdirect
  | prepareWaitRecord _ _ => cases hdirect
  | waitOne _ _ _ _ _ _ => cases hwait
  | createSuspendedThread p e a b d w => exact createSuspendedThread_pending s p e a b d w
  | signalEvent handle => exact signalEvent_pending s handle
  | resetEvent handle => exact resetEvent_pending s handle
  | serviceTimeouts now => exact serviceTimeouts_pending s now
  | pollTimeouts k => exact pollTimeouts_pending s k
  | finishWait handle => exact finishWait_pending s handle
  | collect p u => exact collect_pending s p u
  | setLastError v => exact setLastError_pending s v
  | setEventContract a handle => exact hcontract (signalEvent_pending s handle)
  | resetEventContract a handle => exact hcontract (resetEvent_pending s handle)
  | store memory => rfl
  | setFls i v =>
    simp only [step, setFls]
    repeat' split
    all_goals rfl
  | noteWorkerStarted =>
    simp only [step, noteWorkerStarted]
    repeat' split
    all_goals rfl
  | contextSwitch p f =>
    simp only [step, contextSwitch]
    split <;> rfl
  | configureStackVm p a b =>
    simp only [step, configureStackVm]
    repeat' split
    all_goals rfl
  | configureClock p a =>
    simp only [step, configureClock]
    split <;> rfl
  | adoptBootEnvironment p b =>
    simp only [step, adoptBootEnvironment]
    repeat' split
    all_goals first | rfl | exact freeThreadEnvironment_pending s _
  | createEvent p m i a =>
    simp only [step, createEvent]
    split
    · rfl
    · split
      · rfl
      · rename_i e _
        have halloc := allocateObject_pending (s.modEvent e fun _ => {}) .event (.event e)
        generalize allocateObject _ _ _ = q at halloc ⊢
        obtain ⟨found, s1⟩ := q
        cases found <;> exact halloc
  | createMemoryResourceNotification p n a =>
    simp only [step, createMemoryResourceNotification]
    split
    · rfl
    · split
      · rfl
      · have halloc := allocateObject_pending s .memoryResourceNotification .notification
        generalize allocateObject _ _ _ = q at halloc ⊢
        obtain ⟨found, s1⟩ := q
        cases found <;> exact halloc
  | installStandardStream p r b k => exact installStandardStream_pending s p r b k
  | resumeThread handle => exact resumeThread_pending s handle
  | closeHandle handle u =>
    simp only [step, closeHandle]
    repeat' split
    all_goals simp
  | prepareYield p => exact prepareYield_pending s p
  | prepareTerminate v p =>
    simp only [step, prepareTerminate]
    repeat' split
    all_goals simp
  | tryDestroyEvent handle =>
    simp only [step, tryDestroyEvent]
    repeat' split
    all_goals rfl
  | tryDestroyMemoryResourceNotification handle =>
    simp only [step, tryDestroyMemoryResourceNotification]
    repeat' split
    all_goals rfl
  | tryReclaimThread t u =>
    simp only [step, tryReclaimThread]
    repeat' split
    all_goals simp
  | discardCreatedThread t u =>
    simp only [step, discardCreatedThread]
    repeat' split
    all_goals simp
  | teardown p u => exact teardown_pending s p u

/-! ## What a wait does with its timeout -/

/-- The record has this timeout, or it has none. -/
def Fits (timeout : Option Nat) (record : WaitRecord) : Prop :=
  match timeout with
  | none => record.timeoutArmed = false
  | some deadline => record.timeoutArmed = true ∧ record.deadlineMs = deadline

theorem blockCurrent_pending (hi : s.installed = true) (ha : s.active = true) (handle : Nat) :
    (blockCurrent s handle).2.pendingTimeout = none :=
  blockCurrent_rule (P := fun s' => s'.pendingTimeout = none)
    (prepareWaitRecord_pending hi ha handle)
    (fun s1 h1 => (finishWait_pending s1 handle).trans h1)
    fun s1 error h1 => (setLastError_pending s1 error).trans h1

/-- A wait on an event that is not set traps or switches. A record that it registers gets the
armed timeout. -/
theorem blockCurrent_registers (h : Inv s) (he : eventFromHandle s handle = some e)
    (hset : (s.events e).signaled = false) :
    (∀ code, (blockCurrent s handle).1 ≠ .returned code) ∧
    ∀ r, (s.waitRecords r).valid = false →
      ((blockCurrent s handle).2.waitRecords r).valid = true →
      Fits s.pendingTimeout ((blockCurrent s handle).2.waitRecords r) := by
  have hcases := prepareWaitRecord_cases h handle true
  unfold blockCurrent
  generalize prepareWaitRecord s handle true = q at hcases
  obtain ⟨reply, s1⟩ := q
  dsimp only at hcases
  rcases hcases with ⟨rfl, hu⟩ | ⟨d, hd, hd', _⟩ |
    ⟨c, o, d, q, next, queue, count, _, _, _, _, _, _, _, _, _, _, _, _, rfl, rfl, _⟩
  · refine ⟨by simp, fun r hfresh hvalid => ?_⟩
    dsimp only at hvalid
    rw [hu.waitRecords, hfresh] at hvalid
    cases hvalid
  · rw [he] at hd
    cases hd
    rw [hset] at hd'
    cases hd'
  · refine ⟨by simp, fun r hfresh hvalid => ?_⟩
    have hrecords : (blockedFor (timeoutTaken s) c o d q handle s.pendingWaitTimeoutArmed
        s.pendingWaitDeadlineMs next queue count).waitRecords =
        Function.update s.waitRecords q (linkedRecord (timeoutTaken s) c o d
          (takeWaitGeneration s.nextWaitGeneration).1 s.pendingWaitTimeoutArmed
          s.pendingWaitDeadlineMs) := rfl
    dsimp only at hvalid ⊢
    rw [hrecords] at hvalid ⊢
    by_cases hr : r = q
    · subst hr
      rw [Function.update_self]
      unfold Fits State.pendingTimeout
      cases harmed : s.pendingWaitTimeoutArmed with
      | false => rfl
      | true => exact ⟨rfl, rfl⟩
    · rw [Function.update_of_ne hr, hfresh] at hvalid
      cases hvalid

/-- The ways through `wait_one`. -/
inductive WaitPath (s : State) (handle milliseconds : Nat) (clock pollClock : Option Nat) :
    WaitOneOutcome × State → Prop
  | token (e : EventSlot) :
      WaitPath s handle milliseconds clock pollClock (.returned waitObject0, tokenTaken s e)
  | elapsed (hzero : milliseconds = 0) :
      WaitPath s handle milliseconds clock pollClock (.returned waitTimeout, s)
  | failed (s1 : State) (error : Nat) (hs : s1 = s ∨ s1 = (pollTimeouts s pollClock).2) :
      WaitPath s handle milliseconds clock pollClock (waitFailure s1 error)
  | endless (e : EventSlot) (hactive : s.active = true) (hinfinite : milliseconds = infinite)
      (he : eventFromHandle s handle = some e) (hset : (s.events e).signaled = false) :
      WaitPath s handle milliseconds clock pollClock (blockCurrent s handle)
  | timed (e : EventSlot) (now : Nat) (s1 : State) (hactive : s.active = true)
      (hfinite : milliseconds ≠ infinite) (hclock : clock = some now)
      (hs : s1 = (pollTimeouts s pollClock).2)
      (he : eventFromHandle s1 handle = some e) (hset : (s1.events e).signaled = false) :
      WaitPath s handle milliseconds clock pollClock
        (blockCurrent
          { s1 with pendingWaitTimeoutArmed := true
                    pendingWaitDeadlineMs := deadlineOf now milliseconds } handle)

theorem waitOne_path (h : Inv s) (contextGiven : Bool) (handle milliseconds alertable : Nat)
    (clock pollClock : Option Nat) :
    WaitPath s handle milliseconds clock pollClock
      (waitOne s contextGiven handle milliseconds alertable clock pollClock) := by
  have hfail : ∀ error, WaitPath s handle milliseconds clock pollClock (waitFailure s error) :=
    fun error => .failed s error (.inl rfl)
  unfold waitOne
  split
  · exact hfail _
  · rename_i hcontext
    simp only [not_or, Decidable.not_not] at hcontext
    split
    · exact hfail _
    · cases objectFromHandle s handle with
      | none => exact hfail _
      | some o =>
        dsimp only
        split
        · exact hfail _
        · split
          · exact hfail _
          · cases hopen : openEvent s handle with
            | none => exact hfail _
            | some e =>
              have he := openEvent_eq_some hopen
              dsimp only
              split
              · exact .token e
              · rename_i hset
                have hset : (s.events e).signaled = false := by simpa using hset
                split
                · rename_i hzero
                  exact .elapsed hzero
                · split
                  · rename_i hinfinite
                    exact .endless e hcontext.2 hinfinite he hset
                  · rename_i hfinite
                    cases clock with
                    | none => exact hfail _
                    | some now =>
                      dsimp only
                      split
                      · exact hfail _
                      · obtain ⟨he', hset'⟩ := pollTimeouts_event h pollClock he
                        rw [hset] at hset'
                        rcases armWaitTimeout_eq (pollTimeouts s pollClock).2
                          (deadlineOf now milliseconds) with heq | heq
                        · rw [heq]
                          exact .failed _ _ (.inr rfl)
                        · rw [heq]
                          exact .timed e now _ hcontext.2 hfinite rfl rfl he' hset'

end Gate4Harness.Scheduler
