-- Every operation keeps the invariant, so it holds in every state that a run
-- from a successful initialization reaches.
import Gate4Harness.SchedulerBlocking

namespace Gate4Harness.Scheduler

variable {s s' : State}

/-! ## The start -/

theorem allocateObject_boot (i : BootInput) :
    allocateObject (bootState i) .thread (.thread 0) =
      (some (0, makeHandle .thread 0 1),
        (bootState i).modObject 0 fun _ => newObject .thread 0 1 (.thread 0)) := rfl

/-- The state that an initialization reaches, up to what the invariant does not read. -/
def bootBase (i : BootInput) : State :=
  { bootState i with
    active := true, current := some 0, bootThread := some 0
    objects := Function.update (fun _ => {}) 0
      { newObject .thread 0 1 (.thread 0) with publicHandleRefs := 0 } }

theorem started_unseen {i : BootInput} (h : initializeScheduler i = (true, s)) :
    Unseen (bootBase i) s := by
  unfold initializeScheduler at h
  split at h
  · simp at h
  · rw [allocateObject_boot] at h
    simp only at h
    have hu := allocateThreadEnvironment_unseen
      ((bootState i).modObject 0 fun _ => newObject .thread 0 1 (.thread 0)) 0 i.pages
    generalize allocateThreadEnvironment _ 0 i.pages = furnished at h hu
    obtain ⟨furnished, s2⟩ := furnished
    simp only at h hu
    split at h
    · simp at h
    · simp only [Prod.mk.injEq, true_and] at h
      subst h
      refine ⟨hu.installed, rfl, rfl, rfl, hu.runnableQueue, hu.runnableCount, hu.queueRefusals,
        hu.waitRecords, hu.events, hu.activeWaitCount, ?_, hu.notification, hu.standardStream, ?_⟩
      · intro o
        have ho := hu.objects
        by_cases h0 : o = 0
        · subst h0
          have h1 := (Object.view_eq (ho 0)).2 (by simp [newObject])
          simp [h1, bootBase, newObject]
        · simpa [bootBase, bootState, h0] using ho o
      · intro t
        have ht := hu.threads
        by_cases h0 : t = 0
        · subst h0
          have h1 := ht 0
          simp only [Tcb.view, Prod.mk.injEq] at h1
          simp only [Tcb.view, Prod.mk.injEq]
          simp_all [bootBase, bootState]
        · simpa [bootBase, bootState, h0] using ht t

theorem bootBase_thread (i : BootInput) {t : ThreadSlot} (h : t ≠ 0) :
    (bootBase i).threads t = {} := by
  simp [bootBase, bootState, h]

theorem bootBase_boot (i : BootInput) : (bootBase i).threads 0 =
    { live := true, isBootThread := true, identity := 1, generation := 1, state := .running,
      executionRefs := 1 } := by
  simp [bootBase, bootState]

theorem bootBase_object (i : BootInput) {o : ObjectSlot} (h : o ≠ 0) :
    (bootBase i).objects o = {} := by
  simp [bootBase, h]

theorem bootBase_current (i : BootInput) : CurrentInv (bootBase i) := by
  have hlive : ∀ t, ((bootBase i).threads t).live = true → t = 0 := by
    intro t ht
    by_contra h0
    simp [bootBase_thread i h0] at ht
  refine ⟨rfl, ?_, ?_, ?_, ?_, ?_⟩
  · intro _
    exact ⟨rfl, by simp [bootBase_boot], by simp [bootBase_boot]⟩
  · intro t ht
    by_cases h0 : t = 0
    · subst h0
      exact ⟨rfl, by simp [bootBase_boot]⟩
    · simp [bootBase_thread i h0] at ht
  · intro _
    exact ⟨0, rfl, by simp [bootBase_boot], Or.inl (by simp [bootBase_boot])⟩
  · intro t ht _
    rw [hlive t ht]
    rfl
  · intro hi
    cases hi

theorem bootBase_waits (i : BootInput) : WaitInv (bootBase i) := by
  have hrec : ∀ r, (bootBase i).waitRecords r = {} := fun _ => rfl
  have hev : ∀ e, (bootBase i).events e = {} := fun _ => rfl
  have hpend : ∀ r, ¬ Pending (bootBase i) r := by
    rintro r ⟨hv, _⟩
    rw [hrec] at hv
    cases hv
  have hwait : ∀ t, ((bootBase i).threads t).waitRecord = none := by
    intro t
    by_cases h0 : t = 0
    · subst h0
      simp [bootBase_boot]
    · simp [bootBase_thread i h0]
  refine ⟨fun r _ => hrec r, ?_, fun r hr => absurd hr (hpend r), ?_, ?_, ?_, ?_, ?_, ?_, ?_⟩
  · intro r hr
    rw [hrec] at hr
    cases hr
  · intro r hr
    rw [hrec] at hr
    cases hr
  · intro e j r hr
    rw [hev] at hr
    cases hr
  · intro e
    exact ⟨[], SlotList.Holds.empty fun _ => rfl⟩
  · intro t _ hs
    by_cases h0 : t = 0
    · subst h0
      simp [bootBase_boot] at hs
    · simp [bootBase_thread i h0] at hs
  · intro t r htr
    rw [hwait] at htr
    cases htr
  · intro t r htr
    rw [hwait] at htr
    cases htr
  · simp only [hrec]
    rfl

theorem bootBase_objects (i : BootInput) : ObjectInv (bootBase i) := by
  have hlive : ∀ o, ((bootBase i).objects o).live = true → o = 0 := by
    intro o ho
    by_contra h0
    simp [bootBase_object i h0] at ho
  have hstands : StandsFor (bootBase i) 0 .thread (.thread 0) := by
    simp [StandsFor, bootBase, newObject]
  refine ⟨?_, ?_, ?_, ?_, ?_, rfl, ?_, ?_, ?_⟩
  · intro o ho
    rw [hlive o ho]
    simp [bootBase, newObject, ValidGeneration]
  · intro o ho
    rw [hlive o ho]
    simp [TargetFits, bootBase, newObject, bootState]
  · intro t ht
    by_cases h0 : t = 0
    · subst h0
      simpa [bootBase_boot] using hstands
    · simp [bootBase_thread i h0] at ht
  · intro e he
    cases he
  · intro hn
    cases hn
  · intro hs
    cases hs
  · intro r hr
    cases hr
  · intro o ho
    rw [hlive o ho]
    simp [bootBase, newObject, pins, bootState]

theorem bootBase_inv (i : BootInput) : Inv (bootBase i) := by
  refine ⟨⟨⟨[], ?_⟩, bootBase_current i, bootBase_waits i, bootBase_objects i, ?_⟩, ?_⟩
  · refine ⟨SlotList.Holds.empty fun _ => rfl, by simp, ?_, by simp, ?_, rfl⟩
    · intro t _
      by_cases h0 : t = 0
      · subst h0
        simp [bootBase_boot]
      · simp [bootBase_thread i h0]
    · intro t
      by_cases h0 : t = 0
      · subst h0
        simp [bootBase_boot]
      · simp [bootBase_thread i h0]
  · intro t ht
    by_cases h0 : t = 0
    · subst h0
      simp [bootBase_boot] at ht
    · rw [bootBase_thread i h0]
  · intro e he
    cases he

theorem started_inv (h : Started s) : Inv s := by
  obtain ⟨i, hi⟩ := h
  exact (bootBase_inv i).unseen (started_unseen hi)

/-! ## Operations outside the invariant -/

theorem Unseen.ofConfig (s : State) (config : Config) : Unseen s { s with config } :=
  ⟨rfl, rfl, rfl, rfl, rfl, rfl, rfl, rfl, fun _ => rfl, rfl, fun _ => rfl, rfl, rfl, fun _ => rfl⟩

theorem configureStackVm_unseen (s : State) (scheduler : SchedulerPtr) (a b : Bool) :
    Unseen s (configureStackVm s scheduler a b).2 := by
  unfold configureStackVm
  split
  · exact Unseen.refl s
  · split
    · exact Unseen.refl s
    · exact Unseen.ofConfig s _

theorem configureClock_unseen (s : State) (scheduler : SchedulerPtr) (a : Bool) :
    Unseen s (configureClock s scheduler a).2 := by
  unfold configureClock
  split
  · exact Unseen.refl s
  · exact Unseen.ofConfig s _

theorem adoptBootEnvironment_unseen (s : State) (scheduler : SchedulerPtr) (b : BootEnvironment) :
    Unseen s (adoptBootEnvironment s scheduler b).2 := by
  unfold adoptBootEnvironment
  split
  · exact Unseen.refl s
  · cases s.bootThread with
    | none => exact Unseen.refl s
    | some boot =>
      simp only
      apply Unseen.thenThread
      · apply Unseen.thenMachine
        refine Unseen.trans ?_ (Unseen.ofConfig _ _)
        exact (freeThreadEnvironment_unseen s boot).thenThread boot rfl
      · rfl

theorem armWaitTimeout_unseen (s : State) (deadlineMs : Nat) :
    Unseen s (armWaitTimeout s deadlineMs).2 := by
  unfold armWaitTimeout
  split
  · exact Unseen.refl s
  · split
    · exact Unseen.refl s
    · exact ⟨rfl, rfl, rfl, rfl, rfl, rfl, rfl, rfl, fun _ => rfl, rfl, fun _ => rfl, rfl, rfl,
        fun _ => rfl⟩

theorem contextSwitch_unseen (s : State) (plan : SwitchPlan) (frame : Nat) :
    Unseen s (contextSwitch s plan frame) := by
  unfold contextSwitch
  cases plan.oldContext with
  | none => exact Unseen.refl s
  | some old => exact Unseen.modThread s old rfl

theorem noteWorkerStarted_unseen (s : State) : Unseen s (noteWorkerStarted s) := by
  unfold noteWorkerStarted
  cases s.current with
  | none => exact Unseen.refl s
  | some c =>
    simp only
    split
    · exact Unseen.modThread s c rfl
    · exact Unseen.refl s

theorem setFls_unseen (s : State) (slot value : Nat) : Unseen s (setFls s slot value) := by
  unfold setFls
  cases s.current with
  | none => exact Unseen.refl s
  | some c =>
    simp only
    split
    · exact Unseen.modThread s c rfl
    · exact Unseen.refl s

theorem setLastError_unseen (s : State) (value : Nat) : Unseen s (setLastError s value) := by
  unfold setLastError
  cases s.current with
  | none => exact Unseen.refl s
  | some c =>
    simp only
    split
    · exact Unseen.modThread s c rfl
    · exact Unseen.refl s

/-! ## Compositions -/

theorem finishWait_inv (h : Inv s) (handle : Nat) : Inv (finishWait s handle).2 := by
  rcases finishWait_cases h handle with heq | ⟨c, _, _, _, hu⟩ | ⟨c, r, o, _, _, hr, hc, ho, heq⟩
  · rw [heq]
    exact h
  · exact h.unseen hu
  · rw [heq]
    exact waitFinished_inv h hr hc ho

theorem pollTimeouts_inv (h : Inv s) (clock : Option Nat) : Inv (pollTimeouts s clock).2 := by
  unfold pollTimeouts
  cases clock with
  | none => exact h
  | some now =>
    simp only
    split
    · exact h
    · exact (serviceTimeouts_spec h now).2.1

/-- How `block_current` ends when it did not block. -/
theorem unblocked_ends {Q : WaitOneOutcome × State → Prop} {handle : Nat}
    (hreturned : ∀ code, Q (.returned code, (finishWait s handle).2))
    (hfailed : Q (waitFailure (finishWait s handle).2 errorNotEnoughMemory)) :
    Q (match finishWait s handle with
      | (.signaled, s2) => (.returned waitObject0, s2)
      | (.timedOut, s2) => (.returned waitTimeout, s2)
      | (_, s2) => waitFailure s2 errorNotEnoughMemory) := by
  generalize finishWait s handle = finished at hreturned hfailed
  obtain ⟨result, s2⟩ := finished
  cases result with
  | signaled => exact hreturned waitObject0
  | timedOut => exact hreturned waitTimeout
  | failure => exact hfailed
  | blocked => exact hfailed

/-- What the parts of `block_current` keep, the whole keeps. -/
theorem blockCurrent_rule {P : State → Prop} {handle : Nat}
    (hprep : P (prepareWaitRecord s handle true).2)
    (hfinish : ∀ s1, P s1 → P (finishWait s1 handle).2)
    (herror : ∀ s1 error, P s1 → P (setLastError s1 error)) : P (blockCurrent s handle).2 := by
  unfold blockCurrent
  generalize prepareWaitRecord s handle true = prepared at hprep ⊢
  obtain ⟨⟨result, plan, record⟩, s1⟩ := prepared
  have h2 := hfinish s1 hprep
  have hfailed := herror _ errorNotEnoughMemory h2
  cases result with
  | failure => exact hprep
  | blocked => exact hprep
  | signaled => exact unblocked_ends (Q := fun p => P p.2) (fun _ => h2) hfailed
  | timedOut => exact unblocked_ends (Q := fun p => P p.2) (fun _ => h2) hfailed

/-- A call of `wait_one` takes a token, polls, arms a timeout or sets the last error. Then it
returns, or it goes on in the assembly. -/
theorem waitOne_ends {P : State → Prop} {Q : WaitOneOutcome × State → Prop} {contextGiven : Bool}
    {handle milliseconds alertable : Nat} {clock pollClock : Option Nat} (h : P s)
    (htake : ∀ e, P (tokenTaken s e)) (hpoll : P (pollTimeouts s pollClock).2)
    (harm : ∀ s1 deadline, P s1 → P (armWaitTimeout s1 deadline).2)
    (herror : ∀ s1 error, P s1 → P (setLastError s1 error))
    (hreturned : ∀ code s1, P s1 → Q (.returned code, s1))
    (hblock : ∀ s1, P s1 → Q (blockCurrent s1 handle)) :
    Q (waitOne s contextGiven handle milliseconds alertable clock pollClock) := by
  have hfail : ∀ s1 error, P s1 → Q (waitFailure s1 error) :=
    fun s1 error h1 => hreturned _ _ (herror s1 error h1)
  unfold waitOne
  split
  · exact hfail s _ h
  · split
    · exact hfail s _ h
    · cases objectFromHandle s handle with
      | none => exact hfail s _ h
      | some o =>
        simp only
        split
        · exact hfail s _ h
        · split
          · exact hfail s _ h
          · cases openEvent s handle with
            | none => exact hfail s _ h
            | some e =>
              simp only
              split
              · exact hreturned _ _ (htake e)
              · split
                · exact hreturned _ _ h
                · split
                  · exact hblock s h
                  · cases clock with
                    | none => exact hfail s _ h
                    | some now =>
                      simp only
                      split
                      · exact hfail s _ h
                      · have h1 := harm _ (deadlineOf now milliseconds) hpoll
                        generalize armWaitTimeout _ _ = armed at h1 ⊢
                        obtain ⟨armed, s1⟩ := armed
                        cases armed with
                        | false => exact hfail s1 _ h1
                        | true => exact hblock s1 h1

/-- What the parts of `wait_one` keep, the whole keeps. -/
theorem waitOne_rule {P : State → Prop} {contextGiven : Bool} {handle milliseconds alertable : Nat}
    {clock pollClock : Option Nat} (h : P s) (htake : ∀ e, P (tokenTaken s e))
    (hpoll : P (pollTimeouts s pollClock).2)
    (harm : ∀ s1 deadline, P s1 → P (armWaitTimeout s1 deadline).2)
    (hprep : ∀ s1, P s1 → P (prepareWaitRecord s1 handle true).2)
    (hfinish : ∀ s1, P s1 → P (finishWait s1 handle).2)
    (herror : ∀ s1 error, P s1 → P (setLastError s1 error)) :
    P (waitOne s contextGiven handle milliseconds alertable clock pollClock).2 :=
  waitOne_ends (Q := fun p => P p.2) h htake hpoll harm herror (fun _ _ h1 => h1)
    fun s1 h1 => blockCurrent_rule (hprep s1 h1) hfinish herror

theorem waitOne_inv (h : Inv s) (contextGiven : Bool) (handle milliseconds alertable : Nat)
    (clock pollClock : Option Nat) :
    Inv (waitOne s contextGiven handle milliseconds alertable clock pollClock).2 :=
  waitOne_rule h (tokenTaken_inv h) (pollTimeouts_inv h pollClock)
    (fun s1 deadline h1 => h1.unseen (armWaitTimeout_unseen s1 deadline))
    (fun _ h1 => prepareWaitRecord_inv h1 handle true) (fun _ h1 => finishWait_inv h1 handle)
    fun s1 error h1 => h1.unseen (setLastError_unseen s1 error)

/-- What the call of an event contract keeps, the contract keeps. -/
theorem eventContract_rule {P : State → Prop} {call : State → Nat → Bool × State}
    {contextGiven : Bool} {handle : Nat} (h : P s) (hcall : P (call s handle).2)
    (herror : ∀ s1 error, P s1 → P (setLastError s1 error)) :
    P (eventContract call s contextGiven handle).2 := by
  unfold eventContract
  split
  · exact herror s _ h
  · generalize call s handle = called at hcall ⊢
    obtain ⟨done, s1⟩ := called
    cases done with
    | false => exact herror s1 _ hcall
    | true => exact hcall

/-! ## Every step and every run -/

theorem step_inv (h : Inv s) (op : Op) : Inv (step s op) := by
  cases op with
  | configureStackVm p a b => exact h.unseen (configureStackVm_unseen s p a b)
  | configureClock p a => exact h.unseen (configureClock_unseen s p a)
  | adoptBootEnvironment p b => exact h.unseen (adoptBootEnvironment_unseen s p b)
  | createEvent p m i a => exact createEvent_inv h p m i a
  | createMemoryResourceNotification p n a =>
    exact createMemoryResourceNotification_inv h p n a
  | installStandardStream p r b k => exact installStandardStream_inv h p r b k
  | createSuspendedThread p e a b d w => exact createSuspendedThread_inv h p e a b d w
  | resumeThread handle => exact resumeThread_inv h handle
  | closeHandle handle u => exact closeHandle_inv h handle u
  | signalEvent handle => exact signalEvent_inv h handle
  | resetEvent handle => exact resetEvent_inv h handle
  | armWaitTimeout d => exact h.unseen (armWaitTimeout_unseen s d)
  | serviceTimeouts now => exact (serviceTimeouts_spec h now).2.1
  | pollTimeouts k => exact pollTimeouts_inv h k
  | prepareWaitRecord handle p => exact prepareWaitRecord_inv h handle p
  | finishWait handle => exact finishWait_inv h handle
  | prepareYield p => exact prepareYield_inv h p
  | prepareTerminate v p => exact prepareTerminate_inv h v p
  | contextSwitch p f => exact h.unseen (contextSwitch_unseen s p f)
  | tryDestroyEvent handle => exact tryDestroyEvent_inv h handle
  | tryDestroyMemoryResourceNotification handle =>
    exact tryDestroyMemoryResourceNotification_inv h handle
  | tryReclaimThread t u => exact tryReclaimThread_inv h t u
  | discardCreatedThread t u => exact discardCreatedThread_inv h t u
  | collect p u => exact collect_inv h p u
  | teardown p u => exact teardown_inv h p u
  | noteWorkerStarted => exact h.unseen (noteWorkerStarted_unseen s)
  | setFls i v => exact h.unseen (setFls_unseen s i v)
  | setLastError v => exact h.unseen (setLastError_unseen s v)
  | waitOne a handle m b k l => exact waitOne_inv h a handle m b k l
  | setEventContract a handle =>
    exact eventContract_rule h (signalEvent_inv h handle)
      fun s1 error h1 => h1.unseen (setLastError_unseen s1 error)
  | resetEventContract a handle =>
    exact eventContract_rule h (resetEvent_inv h handle)
      fun s1 error h1 => h1.unseen (setLastError_unseen s1 error)
  | store memory => exact h.unseen (Unseen.modMachine s fun m => { m with memory })

theorem reachableBy_inv {ok : State → Op → Prop} (h : ReachableBy ok s) : Inv s :=
  Runs.Reach.invariant h (fun _ => started_inv) fun _ op _ h _ => step_inv h op

end Gate4Harness.Scheduler
