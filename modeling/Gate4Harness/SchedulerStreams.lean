-- The standard stream and the handles that `GetStdHandle` answers with. Only the installation
-- of the stream and a teardown that goes through touch them. The object of the stream is
-- neither closed nor released in between.
import Gate4Harness.SchedulerShutdown

namespace Gate4Harness.Scheduler

variable {s₀ s s' : State} {o : ObjectSlot} {op : Op}

/-! ## What leaves the stream alone -/

/-- The standard stream with the handles of its roles. -/
def State.streams (s : State) : StandardStream × Nat × Nat × Nat :=
  (s.standardStream, s.standardInputHandle, s.standardOutputHandle, s.standardErrorHandle)

@[simp] theorem modThread_streams (s : State) (t : ThreadSlot) (f : Tcb → Tcb) :
    (s.modThread t f).streams = s.streams := rfl

@[simp] theorem modEvent_streams (s : State) (e : EventSlot) (f : Waitable → Waitable) :
    (s.modEvent e f).streams = s.streams := rfl

@[simp] theorem modObject_streams (s : State) (o : ObjectSlot) (f : Object → Object) :
    (s.modObject o f).streams = s.streams := rfl

@[simp] theorem modRecord_streams (s : State) (r : RecordSlot) (f : WaitRecord → WaitRecord) :
    (s.modRecord r f).streams = s.streams := rfl

@[simp] theorem modMachine_streams (s : State) (f : Machine → Machine) :
    (s.modMachine f).streams = s.streams := rfl

@[simp] theorem enqueueRunnable_streams (s : State) (t : ThreadSlot) :
    (enqueueRunnable s t).2.streams = s.streams := by
  unfold enqueueRunnable
  repeat' split
  all_goals rfl

@[simp] theorem removeRunnable_streams (s : State) (t : ThreadSlot) :
    (removeRunnable s t).2.streams = s.streams := by
  unfold removeRunnable
  repeat' split
  all_goals rfl

@[simp] theorem chooseNext_streams (s : State) (t : ThreadSlot) :
    (chooseNext s t).2.streams = s.streams :=
  removeRunnable_streams s t

@[simp] theorem addWaiter_streams (s : State) (e : EventSlot) (r : RecordSlot) :
    (addWaiter s e r).2.streams = s.streams := by
  unfold addWaiter
  repeat' split
  all_goals rfl

@[simp] theorem removeWaiter_streams (s : State) (e : EventSlot) (index : Nat) :
    (removeWaiter s e index).streams = s.streams := by
  unfold removeWaiter
  dsimp only
  repeat' split
  all_goals rfl

@[simp] theorem completeWaiter_streams (s : State) (e : EventSlot) (index completionResult : Nat)
    (waitResult : WaitResult) :
    (completeWaiter s e index completionResult waitResult).streams =
      s.streams := by
  unfold completeWaiter
  dsimp only
  repeat' split
  all_goals simp

@[simp] theorem timeoutWaiter_streams (s : State) (r : RecordSlot) :
    (timeoutWaiter s r).streams = s.streams := by
  unfold timeoutWaiter
  repeat' split
  all_goals simp

@[simp] theorem unpinWaitRecord_streams (s : State) (r : RecordSlot) :
    (unpinWaitRecord s r).streams = s.streams := by
  unfold unpinWaitRecord
  dsimp only
  repeat' split
  all_goals rfl

@[simp] theorem releaseWaitRecord_streams (s : State) (r : RecordSlot) :
    (releaseWaitRecord s r).streams = s.streams := by
  unfold releaseWaitRecord
  dsimp only
  repeat' split
  all_goals simp
  rfl

@[simp] theorem fillRecord_streams (s : State) (c : ThreadSlot) (o : ObjectSlot) (e : EventSlot)
    (r : RecordSlot) (timeoutArmed : Bool) (deadlineMs : Nat) :
    (fillRecord s c o e r timeoutArmed deadlineMs).streams = s.streams := rfl

@[simp] theorem blockThread_streams (s : State) (c : ThreadSlot) (r : RecordSlot) (handle : Nat) :
    (blockThread s c r handle).streams = s.streams := rfl

@[simp] theorem unblockThread_streams (s : State) (c : ThreadSlot) (e : EventSlot)
    (r : RecordSlot) : (unblockThread s c e r).streams = s.streams := by
  simp [unblockThread]

@[simp] theorem pinObject_streams (s : State) (o : ObjectSlot) :
    (pinObject s o).2.streams = s.streams := by
  unfold pinObject
  split <;> rfl

@[simp] theorem allocateWaitRecord_streams (s : State) :
    (allocateWaitRecord s).2.streams = s.streams := by
  unfold allocateWaitRecord
  split <;> rfl

theorem registerWait_streams (s : State) (c : ThreadSlot) (o : ObjectSlot) (e : EventSlot)
    (handle : Nat) (timeoutArmed : Bool) (deadlineMs : Nat) :
    (registerWait s c o e handle timeoutArmed deadlineMs).2.streams = s.streams := by
  have hpin := pinObject_streams s o
  unfold registerWait
  generalize pinObject s o = p at hpin ⊢
  obtain ⟨pinned, s1⟩ := p
  cases pinned with
  | false => exact hpin
  | true =>
    have halloc := (allocateWaitRecord_streams s1).trans hpin
    dsimp only
    generalize allocateWaitRecord s1 = q at halloc ⊢
    obtain ⟨record, s2⟩ := q
    cases record with
    | none => exact halloc
    | some r =>
      dsimp only at halloc ⊢
      repeat' split
      all_goals simp [halloc]

theorem legacyWait_streams (s : State) (c : ThreadSlot) (handle : Nat) :
    (legacyWait s c handle).2.streams = s.streams := by
  unfold legacyWait tokenTaken
  dsimp only
  repeat' split
  all_goals simp
  all_goals rfl

@[simp] theorem tokenTaken_streams (s : State) (e : EventSlot) :
    (tokenTaken s e).streams = s.streams := by
  unfold tokenTaken
  split <;> rfl

@[simp] theorem timeoutTaken_streams (s : State) :
    (timeoutTaken s).streams = s.streams := rfl

@[simp] theorem armWaitTimeout_streams (s : State) (deadlineMs : Nat) :
    (armWaitTimeout s deadlineMs).2.streams = s.streams := by
  unfold armWaitTimeout
  repeat' split
  all_goals rfl

@[simp] theorem prepareWaitRecord_streams (s : State) (handle : Nat) (planOut : Bool) :
    (prepareWaitRecord s handle planOut).2.streams = s.streams := by
  unfold prepareWaitRecord
  dsimp only
  repeat' split
  all_goals simp [registerWait_streams, legacyWait_streams]

@[simp] theorem finishWait_streams (s : State) (handle : Nat) :
    (finishWait s handle).2.streams = s.streams := by
  unfold finishWait
  dsimp only
  repeat' split
  all_goals simp

@[simp] theorem setLastError_streams (s : State) (error : Nat) :
    (setLastError s error).streams = s.streams := by
  unfold setLastError
  repeat' split
  all_goals rfl

@[simp] theorem wakeAll_streams (e : EventSlot) (turns : Nat) (s : State) :
    (wakeAll e turns s).streams = s.streams := by
  induction turns generalizing s with
  | zero => rfl
  | succ turns ih =>
    unfold wakeAll
    split
    · rfl
    · rw [ih]
      exact completeWaiter_streams s e 0 _ _

@[simp] theorem signalEvent_streams (s : State) (handle : Nat) :
    (signalEvent s handle).2.streams = s.streams := by
  unfold signalEvent wakeWaiter
  dsimp only
  repeat' split
  all_goals simp

@[simp] theorem resetEvent_streams (s : State) (handle : Nat) :
    (resetEvent s handle).2.streams = s.streams := by
  unfold resetEvent
  repeat' split
  all_goals rfl

@[simp] theorem serviceTimeouts_streams (s : State) (now : Nat) :
    (serviceTimeouts s now).2.streams = s.streams := by
  have hfold : ∀ (l : List RecordSlot) (k : Nat) (s : State),
      (l.foldl (serviceRecord now) (k, s)).2.streams = s.streams := by
    intro l
    induction l with
    | nil => exact fun _ _ => rfl
    | cons r rest ih =>
      intro k s
      have hone : (serviceRecord now (k, s) r).2.streams = s.streams := by
        unfold serviceRecord
        split
        · exact timeoutWaiter_streams s r
        · rfl
      exact (ih _ _).trans hone
  unfold serviceTimeouts
  split
  · rfl
  · exact hfold _ 0 s

@[simp] theorem pollTimeouts_streams (s : State) (clock : Option Nat) :
    (pollTimeouts s clock).2.streams = s.streams := by
  unfold pollTimeouts
  repeat' split
  all_goals simp

@[simp] theorem releaseObjectRecord_streams (s : State) (o : ObjectSlot) :
    (releaseObjectRecord s o).streams = s.streams := rfl

@[simp] theorem allocateObject_streams (s : State) (type : ObjectType) (target : Target) :
    (allocateObject s type target).2.streams = s.streams := by
  unfold allocateObject
  repeat' split
  all_goals rfl

@[simp] theorem pageAllocate_streams (s : State) (a : PageAnswer) :
    (pageAllocate s a).2.streams = s.streams := by
  unfold pageAllocate
  split <;> rfl

@[simp] theorem pageFree_streams (s : State) (memory : Nat) :
    (pageFree s memory).streams = s.streams := by
  unfold pageFree
  split <;> rfl

@[simp] theorem freeEnvironmentPages_streams (s : State) (a b k d : Nat) :
    (freeEnvironmentPages s a b k d).streams = s.streams := by
  simp [freeEnvironmentPages]

@[simp] theorem freeThreadEnvironment_streams (s : State) (t : ThreadSlot) :
    (freeThreadEnvironment s t).streams = s.streams := by
  unfold freeThreadEnvironment
  dsimp only
  repeat' split
  all_goals simp

@[simp] theorem allocateThreadEnvironment_streams (s : State) (t : ThreadSlot)
    (a : EnvironmentAnswers) :
    (allocateThreadEnvironment s t a).2.streams = s.streams := by
  unfold allocateThreadEnvironment environmentPages writeEnvironment
  dsimp only
  repeat' split
  all_goals simp

@[simp] theorem abandonThread_streams (s : State) (t : ThreadSlot) (o : ObjectSlot) :
    (abandonThread s t o).streams = s.streams := rfl

theorem createSuspendedThread_streams (s : State) (scheduler : SchedulerPtr)
    (entry argument : Nat) (handleOut threadOut : Bool) (a : CreateAnswers) :
    (createSuspendedThread s scheduler entry argument handleOut threadOut a).2.streams =
      s.streams := by
  have hequip : ∀ s t o handle stack canary,
      (equipThread s t o handle stack canary a).2.streams = s.streams := by
    intro s t o handle stack canary
    unfold equipThread finishCreation
    dsimp only
    repeat' split
    all_goals simp
  have hfurnish : ∀ s t o handle stack,
      (furnishThread s t o handle stack a).2.streams = s.streams := by
    intro s t o handle stack
    unfold furnishThread setCanaries
    dsimp only
    split <;> simp [hequip]
  unfold createSuspendedThread
  split
  · rfl
  · split
    · rfl
    · rename_i t _
      have halloc := allocateObject_streams (s.modThread t fun _ => newThread entry argument)
        .thread (.thread t)
      generalize allocateObject _ _ _ = p at halloc ⊢
      obtain ⟨found, s1⟩ := p
      cases found with
      | none => exact halloc
      | some pair =>
        dsimp only at halloc ⊢
        split
        · exact halloc
        · rw [hfurnish]
          exact halloc

@[simp] theorem maybeReclaimThread_streams (s : State) (t : ThreadSlot) (unregistered : Bool) :
    (maybeReclaimThread s t unregistered).streams = s.streams := by
  unfold maybeReclaimThread reclaimThread
  dsimp only
  repeat' split
  all_goals simp

@[simp] theorem collect_streams (s : State) (scheduler : SchedulerPtr)
    (unregistered : ThreadSlot → Bool) :
    (collect s scheduler unregistered).2.streams = s.streams :=
  collect_induction (P := fun s' => s'.streams = s.streams) unregistered
    (fun s1 t h1 => (maybeReclaimThread_streams s1 t _).trans h1) rfl scheduler

theorem resumeThread_streams (s : State) (handle : Nat) :
    (resumeThread s handle).2.streams = s.streams := by
  unfold resumeThread
  dsimp only
  repeat' split
  all_goals simp

theorem prepareYield_streams (s : State) (planOut : Bool) :
    (prepareYield s planOut).2.streams = s.streams := by
  unfold prepareYield
  split
  · rfl
  · split
    · rfl
    · rename_i c _
      split
      · rfl
      · have hqueue := enqueueRunnable_streams
          (s.modThread c fun thread => { thread with state := .runnable }) c
        dsimp only
        generalize enqueueRunnable _ c = q at hqueue ⊢
        obtain ⟨queued, s2⟩ := q
        dsimp only at hqueue ⊢
        split
        · exact hqueue
        · split
          · rw [modThread_streams, removeRunnable_streams]
            exact hqueue
          · exact (chooseNext_streams s2 _).trans hqueue

/-- The calls that may touch the standard stream. -/
def touchesStream : Op → Bool
  | .installStandardStream .. | .teardown .. => true
  | _ => false

/-- Every other call leaves the stream and its handles alone. -/
theorem step_streams (s : State) (hop : touchesStream op = false) :
    (step s op).streams = s.streams := by
  have herror : ∀ s1 error, s1.streams = s.streams →
      (setLastError s1 error).streams = s.streams :=
    fun s1 error h1 => (setLastError_streams s1 error).trans h1
  have hcontract : ∀ {call : State → Nat → Bool × State} {a : Bool} {handle : Nat},
      (call s handle).2.streams = s.streams →
      (eventContract call s a handle).2.streams = s.streams := by
    intro call a handle hcall
    exact eventContract_rule (P := fun s' => s'.streams = s.streams) rfl hcall herror
  cases op with
  | armWaitTimeout d => exact armWaitTimeout_streams s d
  | prepareWaitRecord handle p => exact prepareWaitRecord_streams s handle p
  | waitOne a handle m b k l =>
    exact waitOne_rule (P := fun s' => s'.streams = s.streams) rfl (tokenTaken_streams s)
      (pollTimeouts_streams s l) (fun s1 d h1 => (armWaitTimeout_streams s1 d).trans h1)
      (fun s1 h1 => (prepareWaitRecord_streams s1 handle true).trans h1)
      (fun s1 h1 => (finishWait_streams s1 handle).trans h1) herror
  | createSuspendedThread p e a b d w => exact createSuspendedThread_streams s p e a b d w
  | signalEvent handle => exact signalEvent_streams s handle
  | resetEvent handle => exact resetEvent_streams s handle
  | serviceTimeouts now => exact serviceTimeouts_streams s now
  | pollTimeouts k => exact pollTimeouts_streams s k
  | finishWait handle => exact finishWait_streams s handle
  | collect p u => exact collect_streams s p u
  | setLastError v => exact setLastError_streams s v
  | setEventContract a handle => exact hcontract (signalEvent_streams s handle)
  | resetEventContract a handle => exact hcontract (resetEvent_streams s handle)
  | store memory => rfl
  | setFls i v =>
    simp only [step, setFls]
    repeat' split
    all_goals rfl
  | noteWorkerStarted =>
    simp only [step, noteWorkerStarted]
    repeat' split
    all_goals rfl
  | contextSwitch p f =>
    simp only [step, contextSwitch]
    split <;> rfl
  | configureStackVm p a b =>
    simp only [step, configureStackVm]
    repeat' split
    all_goals rfl
  | configureClock p a =>
    simp only [step, configureClock]
    split <;> rfl
  | adoptBootEnvironment p b =>
    simp only [step, adoptBootEnvironment]
    repeat' split
    all_goals first | rfl | exact freeThreadEnvironment_streams s _
  | createEvent p m i a =>
    simp only [step, createEvent]
    split
    · rfl
    · split
      · rfl
      · rename_i e _
        have halloc := allocateObject_streams (s.modEvent e fun _ => {}) .event (.event e)
        generalize allocateObject _ _ _ = q at halloc ⊢
        obtain ⟨found, s1⟩ := q
        cases found <;> exact halloc
  | createMemoryResourceNotification p n a =>
    simp only [step, createMemoryResourceNotification]
    split
    · rfl
    · split
      · rfl
      · have halloc := allocateObject_streams s .memoryResourceNotification .notification
        generalize allocateObject _ _ _ = q at halloc ⊢
        obtain ⟨found, s1⟩ := q
        cases found <;> exact halloc
  | installStandardStream _ _ _ _ => cases hop
  | resumeThread handle => exact resumeThread_streams s handle
  | closeHandle handle u =>
    simp only [step, closeHandle]
    repeat' split
    all_goals simp
  | prepareYield p => exact prepareYield_streams s p
  | prepareTerminate v p =>
    simp only [step, prepareTerminate]
    repeat' split
    all_goals simp
  | tryDestroyEvent handle =>
    simp only [step, tryDestroyEvent]
    repeat' split
    all_goals rfl
  | tryDestroyMemoryResourceNotification handle =>
    simp only [step, tryDestroyMemoryResourceNotification]
    repeat' split
    all_goals rfl
  | tryReclaimThread t u =>
    simp only [step, tryReclaimThread]
    repeat' split
    all_goals simp
  | discardCreatedThread t u =>
    simp only [step, discardCreatedThread]
    repeat' split
    all_goals simp
  | teardown _ _ => cases hop

/-! ## The stream stays open -/

/-- The object in slot `o` is as it was in `s₀`, or it is new. -/
def AsBefore (s₀ s : State) (o : ObjectSlot) : Prop :=
  s.objects o = s₀.objects o ∨ ∃ type g x, s.objects o = newObject type o g x

/-- Since `s₀`, an object that is no thread and no event can only have come or gone. -/
def Steady (s₀ s : State) : Prop :=
  ∀ o, (s.objects o).live = true → (s.objects o).type ≠ .thread → (s.objects o).type ≠ .event →
    AsBefore s₀ s o

theorem Steady.refl (s : State) : Steady s s := fun _ _ _ _ => Or.inl rfl

theorem Steady.of_table (h : Steady s₀ s) (htable : s'.table = s.table) :
    Steady s₀ s' := by
  simp only [State.table, Prod.mk.injEq] at htable
  unfold Steady AsBefore
  rw [htable.1]
  exact h

theorem Steady.unseen (h : Steady s₀ s) (hu : Unseen s s') : Steady s₀ s' := by
  intro o hl
  obtain ⟨hlive, hsame⟩ := Object.view_eq (hu.objects o)
  rw [hlive] at hl
  unfold AsBefore
  rw [hsame hl]
  exact h o hl

/-- A change of one object, to one that fits. -/
theorem Steady.update (h : Steady s₀ s) (hother : ∀ p, p ≠ o → s'.objects p = s.objects p)
    (ho : (s'.objects o).live = true → (s'.objects o).type ≠ .thread →
      (s'.objects o).type ≠ .event → AsBefore s₀ s' o) : Steady s₀ s' := by
  intro p
  by_cases hp : p = o
  · subst hp
    exact ho
  · unfold AsBefore
    rw [hother p hp]
    exact h p

theorem Steady.release (h : Steady s₀ s) (o : ObjectSlot) :
    Steady s₀ (releaseObjectRecord s o) :=
  h.update (o := o) (fun p hp => by simp [releaseObjectRecord, hp]) (by simp [releaseObjectRecord])

theorem Steady.allocate (h : Steady s₀ s) (type : ObjectType) (target : Target) :
    Steady s₀ (allocateObject s type target).2 := by
  rcases allocateObject_cases s type target with heq | ⟨o, g, _, _, _, heq⟩
  · rw [heq]
    exact h
  · rw [heq]
    exact h.update (o := o) (fun p hp => by simp [hp])
      fun _ _ _ => Or.inr ⟨type, g, target, by simp⟩

theorem Steady.reclaim (h : Steady s₀ s) (t : ThreadSlot) (unregistered : Bool) :
    Steady s₀ (maybeReclaimThread s t unregistered) := by
  rcases maybeReclaimThread_cases s t unregistered with heq | ⟨_, hu⟩
  · rw [heq]
    exact h
  · have hwithout : Steady s₀ (withoutThread s t) :=
      (h.release (s.threads t).objectSlot).of_table rfl
    exact hwithout.unseen hu

theorem Steady.collect (h : Steady s₀ s) (scheduler : SchedulerPtr)
    (unregistered : ThreadSlot → Bool) : Steady s₀ (collect s scheduler unregistered).2 := by
  apply collect_induction (P := Steady s₀) unregistered _ h scheduler
  intro s t h
  exact h.reclaim t _

theorem Steady.create (h : Steady s₀ s) (hinv : Inv s) (scheduler : SchedulerPtr)
    (entry argument : Nat) (handleOut threadOut : Bool) (answers : CreateAnswers) :
    Steady s₀
      (createSuspendedThread s scheduler entry argument handleOut threadOut answers).2 := by
  rcases createSuspendedThread_cases hinv scheduler entry argument handleOut threadOut answers with
    ⟨_, hu⟩ | ⟨t, o, thread, _, _, _, _, _, hu⟩
  · exact h.unseen hu
  · have hnew : Steady s₀ (withThread s t o thread) :=
      h.update (o := o) (fun p hp => by simp [withThread, hp])
        fun _ _ _ => Or.inr ⟨_, _, _, by simp [withThread]; rfl⟩
    exact hnew.unseen hu

theorem Steady.stream (h : Steady s₀ s) (scheduler : SchedulerPtr)
    (roles backend caps : Nat) :
    Steady s₀ (installStandardStream s scheduler roles backend caps).2 := by
  unfold installStandardStream
  split
  · exact h
  · split
    · split
      · exact h
      · exact h.of_table rfl
    · have hblank : Steady s₀ { s with standardStream := {} } := h.of_table rfl
      have hnew := hblank.allocate .standardStream .stream
      generalize allocateObject { s with standardStream := {} } .standardStream .stream = allocated
        at hnew ⊢
      obtain ⟨answer, s1⟩ := allocated
      cases answer with
      | none => exact hnew
      | some pair => exact hnew.of_table rfl

theorem Steady.notification (h : Steady s₀ s) (scheduler : SchedulerPtr) (n : Nat)
    (handleOut : Bool) :
    Steady s₀ (createMemoryResourceNotification s scheduler n handleOut).2 := by
  unfold createMemoryResourceNotification
  split
  · exact h
  · split
    · exact h
    · have hnew := h.allocate .memoryResourceNotification .notification
      generalize allocateObject s .memoryResourceNotification .notification = allocated at hnew ⊢
      obtain ⟨answer, s1⟩ := allocated
      cases answer with
      | none => exact hnew
      | some pair => exact hnew.of_table rfl

/-- Only threads and events can be closed. -/
theorem Steady.close (h : Steady s₀ s) (hinv : Inv s) (handle : Nat) (unregistered : Bool) :
    Steady s₀ (closeHandle s handle unregistered).2 := by
  rcases closeHandle_cases hinv.objects handle unregistered with
    heq | ⟨o, e, ho, heq⟩ | ⟨o, t, _, ho, heq⟩
  · rw [heq]
    exact h
  · rw [heq]
    refine h.update (o := o) (fun p hp => by simp [closedObject, hp]) ?_
    intro _ _ hevent
    simp [closedObject, ho.2.1] at hevent
  · rw [heq]
    apply Steady.reclaim
    refine h.update (o := o) (fun p hp => by simp [closedThread, closedObject, hp]) ?_
    intro _ hthread
    simp [closedThread, closedObject, ho.2.1] at hthread

/-- A pin changes only the internal references of an event. -/
theorem Steady.wait (h : Steady s₀ s) (hinv : Inv s) (handle : Nat) (planOut : Bool) :
    Steady s₀ (prepareWaitRecord s handle planOut).2 := by
  rcases prepareWaitRecord_cases hinv handle planOut with ⟨_, hu⟩ | ⟨e, _, _, _, hu⟩ |
    ⟨c, o, e, r, next, queue, count, _, _, _, _, ho, _, _, _, _, _, _, _, _, heq, _⟩
  · exact h.unseen hu
  · exact (h.of_table (tokenTaken_table s e)).unseen hu
  · rw [heq]
    refine h.update (o := o) (fun p hp => by simp [blockedFor, waiting, timeoutTaken, hp]) ?_
    intro _ _ hevent
    simp [blockedFor, waiting, timeoutTaken, ho.2.1] at hevent

theorem Steady.finish (h : Steady s₀ s) (hinv : Inv s) (handle : Nat) :
    Steady s₀ (finishWait s handle).2 := by
  rcases finishWait_cases hinv handle with
    heq | ⟨_, _, _, _, hu⟩ | ⟨c, r, o, _, _, hrec, _, ho, heq⟩
  · rw [heq]
    exact h
  · exact h.unseen hu
  · obtain ⟨_, _, hpin, _, hst, _⟩ := hinv.objects.record r (hinv.waits.owner c r hrec).2.1
    rw [ho, Option.some.injEq] at hpin
    have htype : (s.objects o).type = .event := by
      rw [hpin]
      exact hst.2.1
    rw [heq]
    refine h.update (o := o) (fun p hp => by simp [waitFinished, hp]) ?_
    intro _ _ hevent
    simp [waitFinished, htype] at hevent

theorem Steady.discard (h : Steady s₀ s) (hinv : Inv s) (t : Option ThreadSlot)
    (unregistered : Bool) : Steady s₀ (discardCreatedThread s t unregistered).2 := by
  rcases discardCreatedThread_cases hinv.toCore t unregistered with heq | ⟨v, _, hd, heq⟩
  · rw [heq]
    exact h
  · rw [heq]
    obtain ⟨q, n, hw, _⟩ := withdrawn_spec hinv.toCore hd
    have hwithdrawn : Steady s₀ (withdrawn s v) := by
      rw [hw]
      exact h.of_table rfl
    exact hwithdrawn.reclaim v unregistered

theorem Steady.teardown (h : Steady s₀ s) (hinv : Inv s) (scheduler : SchedulerPtr)
    (unregistered : ThreadSlot → Bool) :
    Steady s₀ (teardown s scheduler unregistered).2 := by
  by_cases hok : (Scheduler.teardown s scheduler unregistered).1 = true
  · intro o hl
    rw [((teardown_vacates hinv hok).objects o).1] at hl
    cases hl
  · rcases teardown_cases hinv scheduler unregistered with heq | heq | ⟨_, _, _, heq⟩
    · rw [heq]
      exact h
    · rw [heq]
      exact h.collect scheduler unregistered
    · rw [heq] at hok
      exact absurd rfl hok

theorem step_steady (hinv : Inv s) (h : Steady s₀ s) (op : Op) :
    Steady s₀ (step s op) := by
  have herror : ∀ s1 error, Steady s₀ s1 → Steady s₀ (setLastError s1 error) :=
    fun s1 error h1 => h1.unseen (setLastError_unseen s1 error)
  cases op with
  | configureStackVm p a b => exact h.unseen (configureStackVm_unseen s p a b)
  | configureClock p a => exact h.unseen (configureClock_unseen s p a)
  | adoptBootEnvironment p b => exact h.unseen (adoptBootEnvironment_unseen s p b)
  | createEvent p m i a =>
    change Steady s₀ (createEvent s p m i a).2
    rcases createEvent_cases hinv p m i a with ⟨_, hu⟩ | ⟨e, o, g, _, _, _, _, heq⟩
    · exact h.unseen hu
    · rw [heq]
      exact h.update (o := o) (fun p hp => by simp [withEvent, hp])
        fun _ _ _ => Or.inr ⟨.event, g, .event e, by simp [withEvent]⟩
  | createMemoryResourceNotification p n a => exact h.notification p n a
  | installStandardStream p r b k => exact h.stream p r b k
  | createSuspendedThread p e a b d w => exact h.create hinv p e a b d w
  | resumeThread handle => exact h.of_table (resumeThread_table s handle)
  | closeHandle handle u => exact h.close hinv handle u
  | signalEvent handle => exact h.of_table (signalEvent_table s handle)
  | resetEvent handle => exact h.of_table (resetEvent_table s handle)
  | armWaitTimeout d => exact h.of_table (armWaitTimeout_table s d)
  | serviceTimeouts now => exact h.of_table (serviceTimeouts_table s now)
  | pollTimeouts k => exact h.of_table (pollTimeouts_table s k)
  | prepareWaitRecord handle p => exact h.wait hinv handle p
  | finishWait handle => exact h.finish hinv handle
  | prepareYield p => exact h.of_table (prepareYield_table s p)
  | prepareTerminate v p => exact h.of_table (prepareTerminate_table s v p)
  | contextSwitch p f => exact h.unseen (contextSwitch_unseen s p f)
  | tryDestroyEvent handle =>
    change Steady s₀ (tryDestroyEvent s handle).2
    rcases tryDestroyEvent_cases s handle with heq | ⟨o, e, _, _, _, _, heq⟩
    · rw [heq]
      exact h
    · rw [heq]
      have hended : Steady s₀ (s.modEvent e fun event => { event with live := false }) :=
        h.of_table rfl
      exact hended.release o
  | tryDestroyMemoryResourceNotification handle =>
    change Steady s₀ (tryDestroyMemoryResourceNotification s handle).2
    unfold tryDestroyMemoryResourceNotification
    split
    · exact h
    · split
      · exact h
      · exact Steady.release (h.of_table rfl) _
  | tryReclaimThread t u =>
    change Steady s₀ (tryReclaimThread s t u).2
    unfold tryReclaimThread
    cases t with
    | none => exact h
    | some t =>
      simp only
      split
      · exact h
      · exact h.reclaim t u
  | discardCreatedThread t u => exact h.discard hinv t u
  | collect p u => exact h.collect p u
  | teardown p u => exact h.teardown hinv p u
  | noteWorkerStarted => exact h.unseen (noteWorkerStarted_unseen s)
  | setFls i v => exact h.unseen (setFls_unseen s i v)
  | setLastError v => exact h.unseen (setLastError_unseen s v)
  | waitOne a handle m b k l =>
    refine (waitOne_rule (P := fun s1 => Inv s1 ∧ Steady s₀ s1) ⟨hinv, h⟩ ?_ ?_ ?_ ?_ ?_ ?_).2
    · intro e
      exact ⟨tokenTaken_inv hinv e, h.of_table (tokenTaken_table s e)⟩
    · exact ⟨pollTimeouts_inv hinv l, h.of_table (pollTimeouts_table s l)⟩
    · rintro s1 deadline ⟨h1, hs1⟩
      exact ⟨h1.unseen (armWaitTimeout_unseen s1 deadline),
        hs1.of_table (armWaitTimeout_table s1 deadline)⟩
    · rintro s1 ⟨h1, hs1⟩
      exact ⟨prepareWaitRecord_inv h1 handle true, hs1.wait h1 handle true⟩
    · rintro s1 ⟨h1, hs1⟩
      exact ⟨finishWait_inv h1 handle, hs1.finish h1 handle⟩
    · rintro s1 error ⟨h1, hs1⟩
      exact ⟨h1.unseen (setLastError_unseen s1 error), herror s1 error hs1⟩
  | setEventContract a handle =>
    exact eventContract_rule h (h.of_table (signalEvent_table s handle)) herror
  | resetEventContract a handle =>
    exact eventContract_rule h (h.of_table (resetEvent_table s handle)) herror
  | store memory => exact h.of_table rfl

/-- Only a close sets `close_state`, and it closes threads and events. -/
def OpenStays (s : State) : Prop :=
  ∀ o, (s.objects o).live = true → (s.objects o).type ≠ .thread → (s.objects o).type ≠ .event →
    (s.objects o).closeState = false

theorem OpenStays.steady (h : OpenStays s₀) (hs : Steady s₀ s) : OpenStays s := by
  intro o hl ht he
  rcases hs o hl ht he with heq | ⟨type, g, x, heq⟩
  · rw [heq] at hl ht he ⊢
    exact h o hl ht he
  · simp [heq, newObject]

theorem reachable_openStays (h : Reachable s) : OpenStays s := by
  apply Runs.Reach.invariant h
  · rintro s ⟨i, hi⟩
    have hboot : OpenStays (bootBase i) := by
      intro o hl hthread
      by_cases ho : o = 0
      · subst ho
        simp [bootBase, newObject] at hthread
      · rw [bootBase_object i ho] at hl
        cases hl
    exact hboot.steady ((Steady.refl _).unseen (started_unseen hi))
  · intro s op hreach h _
    exact h.steady (step_steady (reachableBy_inv hreach) (Steady.refl s) op)

theorem reachable_vacant (h : Reachable s) : Vacant s := by
  apply Runs.Reach.invariant h
  · exact fun _ => started_vacant
  · exact fun _ op hreach hv _ => step_vacant (reachableBy_inv hreach) hv op

/-! ## The calls that touch it -/

theorem started_streams (h : Started s) : s.streams = ({}, 0, 0, 0) := by
  obtain ⟨i, hi⟩ := h
  unfold initializeScheduler at hi
  split at hi
  · cases hi
  · have halloc := allocateObject_streams (bootState i) .thread (.thread 0)
    generalize allocateObject (bootState i) .thread (.thread 0) = q at hi halloc
    obtain ⟨found, s1⟩ := q
    cases found with
    | none => cases hi
    | some pair =>
      have hpages := allocateThreadEnvironment_streams s1 0 i.pages
      dsimp only at hi halloc
      split at hi
      · cases hi
      · cases hi
        exact hpages.trans halloc

/-- A teardown that goes through clears the stream and the handles, and another leaves them. -/
theorem teardown_streams (h : Inv s) (hvacant : s.standardStream.live = false →
      s.streams = ({}, 0, 0, 0)) (scheduler : SchedulerPtr) (unregistered : ThreadSlot → Bool) :
    (teardown s scheduler unregistered).2.streams =
      if (teardown s scheduler unregistered).1 then ({}, 0, 0, 0) else s.streams := by
  rcases teardown_cases h scheduler unregistered with heq | heq | ⟨_, _, _, heq⟩
  · rw [heq]
    rfl
  · rw [heq]
    exact collect_streams s scheduler unregistered
  · have hsame := collect_streams s scheduler unregistered
    rw [heq]
    generalize (collect s scheduler unregistered).2 = s1 at hsame ⊢
    have hreleased : (releaseStream s1).streams = ({}, 0, 0, 0) := by
      unfold releaseStream
      split
      · rfl
      · rename_i hl
        have hlive : s.standardStream.live = s1.standardStream.live :=
          (congrArg (·.1.live) hsame).symm
        simp only [Bool.not_eq_true] at hl
        rw [hl] at hlive
        exact hsame.trans (hvacant hlive)
    exact (freeThreadEnvironment_streams (releaseStream s1) 0).trans hreleased

end Gate4Harness.Scheduler
