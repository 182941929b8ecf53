-- The way to a teardown: the open handles are closed, the events and the notification
-- are destroyed, and then `teardown` clears the rest. The handle of a notification
-- cannot be closed, so a live notification keeps the scheduler alive.
import Gate4Harness.SchedulerHandles

namespace Gate4Harness.Scheduler

variable {s s' : State} {c t : ThreadSlot} {o p : ObjectSlot} {e : EventSlot} {handle : Nat}
  {op : Op}

/-! ## Handles that are never closed -/

/-- An object that is no thread and no event has its one public handle while it lives. -/
def HandleStays (s : State) : Prop :=
  ∀ o, (s.objects o).live = true → (s.objects o).type ≠ .thread → (s.objects o).type ≠ .event →
    (s.objects o).publicHandleRefs = 1

theorem HandleStays.of_table (h : HandleStays s) (htable : s'.table = s.table) :
    HandleStays s' := by
  simp only [State.table, Prod.mk.injEq] at htable
  unfold HandleStays
  rw [htable.1]
  exact h

theorem HandleStays.unseen (h : HandleStays s) (hu : Unseen s s') : HandleStays s' := by
  intro o hl
  obtain ⟨hlive, hsame⟩ := Object.view_eq (hu.objects o)
  rw [hlive] at hl
  rw [hsame hl]
  exact h o hl

/-- A change of one object, to one that fits. -/
theorem HandleStays.update (h : HandleStays s) (hother : ∀ p, p ≠ o → s'.objects p = s.objects p)
    (ho : (s'.objects o).live = true → (s'.objects o).type ≠ .thread →
      (s'.objects o).type ≠ .event → (s'.objects o).publicHandleRefs = 1) : HandleStays s' := by
  intro p
  by_cases hp : p = o
  · subst hp
    exact ho
  · rw [hother p hp]
    exact h p

theorem HandleStays.release (h : HandleStays s) (o : ObjectSlot) :
    HandleStays (releaseObjectRecord s o) :=
  h.update (o := o) (fun p hp => by simp [releaseObjectRecord, hp]) (by simp [releaseObjectRecord])

theorem HandleStays.allocate (h : HandleStays s) (type : ObjectType) (target : Target) :
    HandleStays (allocateObject s type target).2 := by
  rcases allocateObject_cases s type target with heq | ⟨o, g, _, _, _, heq⟩
  · rw [heq]
    exact h
  · rw [heq]
    exact h.update (o := o) (fun p hp => by simp [hp]) (by simp [newObject])

theorem HandleStays.reclaim (h : HandleStays s) (t : ThreadSlot) (unregistered : Bool) :
    HandleStays (maybeReclaimThread s t unregistered) := by
  rcases maybeReclaimThread_cases s t unregistered with heq | ⟨_, hu⟩
  · rw [heq]
    exact h
  · have hwithout : HandleStays (withoutThread s t) :=
      (h.release (s.threads t).objectSlot).of_table rfl
    exact hwithout.unseen hu

theorem HandleStays.collect (h : HandleStays s) (scheduler : SchedulerPtr)
    (unregistered : ThreadSlot → Bool) : HandleStays (collect s scheduler unregistered).2 := by
  apply collect_induction (P := HandleStays) unregistered _ h scheduler
  intro s t h
  exact h.reclaim t _

theorem HandleStays.create (h : HandleStays s) (hinv : Inv s) (scheduler : SchedulerPtr)
    (entry argument : Nat) (handleOut threadOut : Bool) (answers : CreateAnswers) :
    HandleStays
      (createSuspendedThread s scheduler entry argument handleOut threadOut answers).2 := by
  rcases createSuspendedThread_cases hinv scheduler entry argument handleOut threadOut answers with
    ⟨_, hu⟩ | ⟨t, o, thread, _, _, _, _, _, hu⟩
  · exact h.unseen hu
  · have hnew : HandleStays (withThread s t o thread) :=
      h.update (o := o) (fun p hp => by simp [withThread, hp]) (by simp [withThread, newObject])
    exact hnew.unseen hu

theorem HandleStays.stream (h : HandleStays s) (scheduler : SchedulerPtr)
    (roles backend caps : Nat) :
    HandleStays (installStandardStream s scheduler roles backend caps).2 := by
  unfold installStandardStream
  split
  · exact h
  · split
    · split
      · exact h
      · exact h.of_table rfl
    · have hblank : HandleStays { s with standardStream := {} } := h.of_table rfl
      have hnew := hblank.allocate .standardStream .stream
      generalize allocateObject { s with standardStream := {} } .standardStream .stream = allocated
        at hnew ⊢
      obtain ⟨answer, s1⟩ := allocated
      cases answer with
      | none => exact hnew
      | some pair => exact hnew.of_table rfl

theorem HandleStays.notification (h : HandleStays s) (scheduler : SchedulerPtr) (n : Nat)
    (handleOut : Bool) :
    HandleStays (createMemoryResourceNotification s scheduler n handleOut).2 := by
  unfold createMemoryResourceNotification
  split
  · exact h
  · split
    · exact h
    · have hnew := h.allocate .memoryResourceNotification .notification
      generalize allocateObject s .memoryResourceNotification .notification = allocated at hnew ⊢
      obtain ⟨answer, s1⟩ := allocated
      cases answer with
      | none => exact hnew
      | some pair => exact hnew.of_table rfl

/-- Only threads and events can be closed. -/
theorem HandleStays.close (h : HandleStays s) (hinv : Inv s) (handle : Nat) (unregistered : Bool) :
    HandleStays (closeHandle s handle unregistered).2 := by
  rcases closeHandle_cases hinv.objects handle unregistered with
    heq | ⟨o, e, ho, heq⟩ | ⟨o, t, _, ho, heq⟩
  · rw [heq]
    exact h
  · rw [heq]
    refine h.update (o := o) (fun p hp => by simp [closedObject, hp]) ?_
    intro _ _ hevent
    simp [closedObject, ho.2.1] at hevent
  · rw [heq]
    apply HandleStays.reclaim
    refine h.update (o := o) (fun p hp => by simp [closedThread, closedObject, hp]) ?_
    intro _ hthread
    simp [closedThread, closedObject, ho.2.1] at hthread

/-- A pin changes only the internal references of an event. -/
theorem HandleStays.wait (h : HandleStays s) (hinv : Inv s) (handle : Nat) (planOut : Bool) :
    HandleStays (prepareWaitRecord s handle planOut).2 := by
  rcases prepareWaitRecord_cases hinv handle planOut with ⟨_, hu⟩ | ⟨e, _, _, _, hu⟩ |
    ⟨c, o, e, r, next, queue, count, _, _, _, _, ho, _, _, _, _, _, _, _, _, heq, _⟩
  · exact h.unseen hu
  · exact (h.of_table (tokenTaken_table s e)).unseen hu
  · rw [heq]
    refine h.update (o := o) (fun p hp => by simp [blockedFor, waiting, timeoutTaken, hp]) ?_
    intro _ _ hevent
    simp [blockedFor, waiting, timeoutTaken, ho.2.1] at hevent

theorem HandleStays.finish (h : HandleStays s) (hinv : Inv s) (handle : Nat) :
    HandleStays (finishWait s handle).2 := by
  rcases finishWait_cases hinv handle with heq | ⟨_, _, _, _, hu⟩ | ⟨c, r, o, _, _, _, _, ho, heq⟩
  · rw [heq]
    exact h
  · exact h.unseen hu
  · rw [heq]
    refine h.update (o := o) (fun p hp => by simp [waitFinished, hp]) ?_
    intro hl ht he
    simp only [waitFinished, Function.update_self] at hl ht he ⊢
    exact h o hl ht he

theorem HandleStays.discard (h : HandleStays s) (hinv : Inv s) (t : Option ThreadSlot)
    (unregistered : Bool) : HandleStays (discardCreatedThread s t unregistered).2 := by
  rcases discardCreatedThread_cases hinv.toCore t unregistered with heq | ⟨v, _, hd, heq⟩
  · rw [heq]
    exact h
  · rw [heq]
    obtain ⟨q, n, hw, _⟩ := withdrawn_spec hinv.toCore hd
    have hwithdrawn : HandleStays (withdrawn s v) := by
      rw [hw]
      exact h.of_table rfl
    exact hwithdrawn.reclaim v unregistered

theorem teardown_vacates (hinv : Inv s) {scheduler : SchedulerPtr}
    {unregistered : ThreadSlot → Bool}
    (hok : (teardown s scheduler unregistered).1 = true) :
    Vacated s (teardown s scheduler unregistered).2 := by
  rcases teardown_fading hinv scheduler unregistered with hfading | hvacated
  · have hinstalled := hfading.installed
    rcases teardown_cases hinv scheduler unregistered with heq | heq | ⟨hi, _, _, heq⟩
    · rw [heq] at hok
      cases hok
    · rw [heq] at hok
      cases hok
    · rw [heq, hi] at hinstalled
      cases hinstalled
  · exact hvacated

theorem HandleStays.teardown (h : HandleStays s) (hinv : Inv s) (scheduler : SchedulerPtr)
    (unregistered : ThreadSlot → Bool) :
    HandleStays (teardown s scheduler unregistered).2 := by
  by_cases hok : (Scheduler.teardown s scheduler unregistered).1 = true
  · intro o hl
    rw [((teardown_vacates hinv hok).objects o).1] at hl
    cases hl
  · rcases teardown_cases hinv scheduler unregistered with heq | heq | ⟨_, _, _, heq⟩
    · rw [heq]
      exact h
    · rw [heq]
      exact h.collect scheduler unregistered
    · rw [heq] at hok
      exact absurd rfl hok

theorem step_handleStays (hinv : Inv s) (h : HandleStays s) (op : Op) :
    HandleStays (step s op) := by
  have herror : ∀ s1 error, HandleStays s1 → HandleStays (setLastError s1 error) :=
    fun s1 error h1 => h1.unseen (setLastError_unseen s1 error)
  cases op with
  | configureStackVm p a b => exact h.unseen (configureStackVm_unseen s p a b)
  | configureClock p a => exact h.unseen (configureClock_unseen s p a)
  | adoptBootEnvironment p b => exact h.unseen (adoptBootEnvironment_unseen s p b)
  | createEvent p m i a =>
    change HandleStays (createEvent s p m i a).2
    rcases createEvent_cases hinv p m i a with ⟨_, hu⟩ | ⟨e, o, g, _, _, _, _, heq⟩
    · exact h.unseen hu
    · rw [heq]
      exact h.update (o := o) (fun p hp => by simp [withEvent, hp]) (by simp [withEvent, newObject])
  | createMemoryResourceNotification p n a => exact h.notification p n a
  | installStandardStream p r b k => exact h.stream p r b k
  | createSuspendedThread p e a b d w => exact h.create hinv p e a b d w
  | resumeThread handle => exact h.of_table (resumeThread_table s handle)
  | closeHandle handle u => exact h.close hinv handle u
  | signalEvent handle => exact h.of_table (signalEvent_table s handle)
  | resetEvent handle => exact h.of_table (resetEvent_table s handle)
  | armWaitTimeout d => exact h.of_table (armWaitTimeout_table s d)
  | serviceTimeouts now => exact h.of_table (serviceTimeouts_table s now)
  | pollTimeouts k => exact h.of_table (pollTimeouts_table s k)
  | prepareWaitRecord handle p => exact h.wait hinv handle p
  | finishWait handle => exact h.finish hinv handle
  | prepareYield p => exact h.of_table (prepareYield_table s p)
  | prepareTerminate v p => exact h.of_table (prepareTerminate_table s v p)
  | contextSwitch p f => exact h.unseen (contextSwitch_unseen s p f)
  | tryDestroyEvent handle =>
    change HandleStays (tryDestroyEvent s handle).2
    rcases tryDestroyEvent_cases s handle with heq | ⟨o, e, _, _, _, _, heq⟩
    · rw [heq]
      exact h
    · rw [heq]
      have hended : HandleStays (s.modEvent e fun event => { event with live := false }) :=
        h.of_table rfl
      exact hended.release o
  | tryDestroyMemoryResourceNotification handle =>
    change HandleStays (tryDestroyMemoryResourceNotification s handle).2
    unfold tryDestroyMemoryResourceNotification
    split
    · exact h
    · split
      · exact h
      · exact HandleStays.release (h.of_table rfl) _
  | tryReclaimThread t u =>
    change HandleStays (tryReclaimThread s t u).2
    unfold tryReclaimThread
    cases t with
    | none => exact h
    | some t =>
      simp only
      split
      · exact h
      · exact h.reclaim t u
  | discardCreatedThread t u => exact h.discard hinv t u
  | collect p u => exact h.collect p u
  | teardown p u => exact h.teardown hinv p u
  | noteWorkerStarted => exact h.unseen (noteWorkerStarted_unseen s)
  | setFls i v => exact h.unseen (setFls_unseen s i v)
  | setLastError v => exact h.unseen (setLastError_unseen s v)
  | waitOne a handle m b k l =>
    refine (waitOne_rule (P := fun s1 => Inv s1 ∧ HandleStays s1) ⟨hinv, h⟩ ?_ ?_ ?_ ?_ ?_ ?_).2
    · intro e
      exact ⟨tokenTaken_inv hinv e, h.of_table (tokenTaken_table s e)⟩
    · exact ⟨pollTimeouts_inv hinv l, h.of_table (pollTimeouts_table s l)⟩
    · rintro s1 deadline ⟨h1, hs1⟩
      exact ⟨h1.unseen (armWaitTimeout_unseen s1 deadline),
        hs1.of_table (armWaitTimeout_table s1 deadline)⟩
    · rintro s1 ⟨h1, hs1⟩
      exact ⟨prepareWaitRecord_inv h1 handle true, hs1.wait h1 handle true⟩
    · rintro s1 ⟨h1, hs1⟩
      exact ⟨finishWait_inv h1 handle, hs1.finish h1 handle⟩
    · rintro s1 error ⟨h1, hs1⟩
      exact ⟨h1.unseen (setLastError_unseen s1 error), herror s1 error hs1⟩
  | setEventContract a handle =>
    exact eventContract_rule h (h.of_table (signalEvent_table s handle)) herror
  | resetEventContract a handle =>
    exact eventContract_rule h (h.of_table (resetEvent_table s handle)) herror
  | store memory => exact h.of_table rfl

theorem reachable_handleStays (h : Reachable s) : HandleStays s := by
  apply Runs.Reach.invariant h
  · rintro s ⟨i, hi⟩
    have hboot : HandleStays (bootBase i) := by
      intro o hl hthread
      by_cases ho : o = 0
      · subst ho
        simp [bootBase, newObject] at hthread
      · rw [bootBase_object i ho] at hl
        cases hl
    exact hboot.unseen (started_unseen hi)
  · intro s op hreach h _
    exact step_handleStays (reachableBy_inv hreach) h op

/-! ## Closing and destroying -/

/-- The boot thread is current and runs, no other thread is live, and no wait is under way. -/
structure OnlyBootLeft (s : State) : Prop where
  boot : ∃ b, s.bootThread = some b ∧ s.current = some b ∧ (s.threads b).state = .running ∧
    ∀ t, t ≠ b → (s.threads t).live = false
  unwaited : ∀ r, (s.waitRecords r).valid = false

/-- The calls that close handles and destroy events and notifications. -/
def windsDown : Op → Bool
  | .closeHandle .. | .tryDestroyEvent .. | .tryDestroyMemoryResourceNotification .. => true
  | _ => false

/-- Objects may go and public handles may be closed. The threads, the waits and the notification
are as before. -/
structure Winding (s s' : State) : Prop where
  boot : s'.bootThread = s.bootThread
  current : s'.current = s.current
  threads : ∀ t, (s'.threads t).live = (s.threads t).live ∧
    (s'.threads t).state = (s.threads t).state
  records : s'.waitRecords = s.waitRecords
  notification : s'.notification = s.notification
  objects : ∀ o, (s'.objects o).live = true → (s.objects o).live = true ∧
    (s'.objects o).type = (s.objects o).type ∧
    (s'.objects o).generation = (s.objects o).generation ∧
    (s'.objects o).publicHandleRefs ≤ (s.objects o).publicHandleRefs

theorem Winding.refl (s : State) : Winding s s :=
  ⟨rfl, rfl, fun _ => ⟨rfl, rfl⟩, rfl, rfl, fun _ hl => ⟨hl, rfl, rfl, Nat.le_refl _⟩⟩

theorem Winding.trans {s'' : State} (h : Winding s s') (h' : Winding s' s'') : Winding s s'' := by
  refine ⟨h'.boot.trans h.boot, h'.current.trans h.current,
    fun t => ⟨(h'.threads t).1.trans (h.threads t).1, (h'.threads t).2.trans (h.threads t).2⟩,
    h'.records.trans h.records, h'.notification.trans h.notification, ?_⟩
  intro o hl
  obtain ⟨hl', htype', hgen', hle'⟩ := h'.objects o hl
  obtain ⟨hl, htype, hgen, hle⟩ := h.objects o hl'
  exact ⟨hl, htype'.trans htype, hgen'.trans hgen, Nat.le_trans hle' hle⟩

theorem Winding.handleOf_eq (h : Winding s s') (hl : (s'.objects o).live = true) :
    handleOf s' o = handleOf s o := by
  obtain ⟨_, htype, hgen, _⟩ := h.objects o hl
  simp only [handleOf, htype, hgen]

theorem OnlyBootLeft.winding (h : OnlyBootLeft s) (hw : Winding s s') : OnlyBootLeft s' := by
  obtain ⟨b, hboot, hcurrent, hstate, hother⟩ := h.boot
  refine ⟨⟨b, hw.boot.trans hboot, hw.current.trans hcurrent, ?_, ?_⟩, ?_⟩
  · rw [(hw.threads b).2]
    exact hstate
  · intro t ht
    rw [(hw.threads t).1]
    exact hother t ht
  · rw [hw.records]
    exact h.unwaited

theorem OnlyBootLeft.installed (h : OnlyBootLeft s) (hinv : Inv s) : s.installed = true := by
  obtain ⟨b, _, _, hstate, _⟩ := h.boot
  exact hinv.installed_of_running hstate

/-- The only live thread is the current one, which is not reclaimed. -/
theorem OnlyBootLeft.keeps (h : OnlyBootLeft s) (hinv : Inv s) (t : ThreadSlot)
    (unregistered : Bool) : maybeReclaimThread s t unregistered = s := by
  rcases maybeReclaimThread_cases s t unregistered with heq | ⟨hr, _⟩
  · exact heq
  · obtain ⟨hlive, hnot, _⟩ := reclaimable_facts hinv.toCore hr
    obtain ⟨b, _, hcurrent, _, hother⟩ := h.boot
    have htb : t ≠ b := by
      rintro rfl
      exact hnot hcurrent
    rw [hother t htb] at hlive
    cases hlive

theorem closedObject_winding (s : State) (o : ObjectSlot) : Winding s (closedObject s o) := by
  refine ⟨rfl, rfl, fun _ => ⟨rfl, rfl⟩, rfl, rfl, ?_⟩
  intro p hl
  by_cases hp : p = o
  · subst hp
    simpa [closedObject] using hl
  · simpa [closedObject, hp] using hl

theorem closedThread_winding (s : State) (o : ObjectSlot) (t : ThreadSlot) :
    Winding s (closedThread s o t) := by
  have hw := closedObject_winding s o
  refine ⟨hw.boot, hw.current, ?_, hw.records, hw.notification, hw.objects⟩
  intro u
  exact ⟨view_modThread Tcb.live (closedObject s o) t (by rfl) u,
    view_modThread Tcb.state (closedObject s o) t (by rfl) u⟩

theorem closeHandle_winding (hinv : Inv s) (h : OnlyBootLeft s) (handle : Nat)
    (unregistered : Bool) : Winding s (closeHandle s handle unregistered).2 := by
  rcases closeHandle_cases hinv.objects handle unregistered with
    heq | ⟨o, e, _, heq⟩ | ⟨o, t, _, ho, heq⟩
  · rw [heq]
    exact Winding.refl s
  · rw [heq]
    exact closedObject_winding s o
  · have hw := closedThread_winding s o t
    rw [heq, (h.winding hw).keeps (closedThread_inv hinv ho)]
    exact hw

theorem tryDestroyEvent_winding (s : State) (handle : Nat) :
    Winding s (tryDestroyEvent s handle).2 := by
  rcases tryDestroyEvent_cases s handle with heq | ⟨o, e, _, _, _, _, heq⟩
  · rw [heq]
    exact Winding.refl s
  · rw [heq]
    refine ⟨rfl, rfl, fun _ => ⟨rfl, rfl⟩, rfl, rfl, ?_⟩
    intro p hl
    by_cases hp : p = o
    · subst hp
      simp [withoutEvent, releaseObjectRecord] at hl
    · simpa [withoutEvent, releaseObjectRecord, hp] using hl

/-- A notification cannot be destroyed, because its handle cannot be closed. -/
theorem tryDestroyMemoryResourceNotification_refused (h : HandleStays s) (handle : Nat) :
    tryDestroyMemoryResourceNotification s handle = (false, s) := by
  unfold tryDestroyMemoryResourceNotification
  cases ho : lookupObject s handle .memoryResourceNotification with
  | none => rfl
  | some o =>
    obtain ⟨_, hl, htype, _⟩ := lookupObject_eq_some ho
    have hrefs := h o hl (by simp [htype]) (by simp [htype])
    simp [hrefs]

theorem step_winding (hinv : Inv s) (hstays : HandleStays s) (h : OnlyBootLeft s)
    (hop : windsDown op = true) : Winding s (step s op) := by
  cases op with
  | closeHandle handle unregistered => exact closeHandle_winding hinv h handle unregistered
  | tryDestroyEvent handle => exact tryDestroyEvent_winding s handle
  | tryDestroyMemoryResourceNotification handle =>
    change Winding s (tryDestroyMemoryResourceNotification s handle).2
    rw [tryDestroyMemoryResourceNotification_refused hstays]
    exact Winding.refl s
  | _ => cases hop

theorem run_winding {ops : List Op} (hinv : Inv s) (hstays : HandleStays s) (h : OnlyBootLeft s)
    (hops : ∀ op ∈ ops, windsDown op = true) :
    Winding s (Runs.run step s ops) ∧ Inv (Runs.run step s ops) ∧
      HandleStays (Runs.run step s ops) := by
  induction ops generalizing s with
  | nil => exact ⟨Winding.refl s, hinv, hstays⟩
  | cons op rest ih =>
    have hw := step_winding hinv hstays h (hops op (by simp))
    obtain ⟨hrest, hafter⟩ := ih (step_inv hinv op) (step_handleStays hinv hstays op)
      (h.winding hw) fun op' hin => hops op' (by simp [hin])
    exact ⟨hw.trans hrest, hafter⟩

/-! ## What the calls achieve -/

theorem lookupObject_handleOf (hinv : Inv s) (hi : s.installed = true)
    (hl : (s.objects o).live = true) :
    lookupObject s (handleOf s o) (s.objects o).type = some o := by
  have hv := (hinv.objects.slot o hl).2.1
  have hsame := clearDropped_of_zero (droppedBits_makeHandle hv.2 (s.objects o).type o)
  have hw : handleOf s o < 2 ^ 64 := by
    have ho : o.val < 16 := o.isLt
    have hc := (s.objects o).type.code_lt
    have hg := hv.2
    unfold handleOf
    rw [makeHandle_eq hv.2]
    omega
  exact (lookupObject_iff hw _).mpr ⟨hi, hl, rfl, hv, hsame⟩

/-- The close of an event leaves it without a public handle. -/
theorem closeHandle_closes (hinv : Inv s) (hi : s.installed = true)
    (hl : (s.objects o).live = true) (htype : (s.objects o).type = .event) (unregistered : Bool) :
    ((closeHandle s (handleOf s o) unregistered).2.objects o).publicHandleRefs = 0 := by
  obtain ⟨_, hv, hle⟩ := hinv.objects.slot o hl
  have hlookup := lookupObject_handleOf hinv hi hl
  have hhandle : handleType (handleOf s o) = some .event := by
    rw [← htype]
    exact handleType_of_clear hv.2 (hinv.objects.target o hl).not_free
      (clearDropped_of_zero (droppedBits_makeHandle hv.2 _ _))
  rw [htype] at hlookup
  unfold closeHandle
  simp only [hhandle, hlookup]
  split
  · assumption
  · simp only [State.modObject_objects, Function.update_self]
    omega

/-- An event that has no public handle is destroyed when no wait is under way. -/
theorem tryDestroyEvent_destroys (hinv : Inv s) (h : OnlyBootLeft s)
    (hl : (s.objects o).live = true) (htype : (s.objects o).type = .event)
    (hrefs : (s.objects o).publicHandleRefs = 0) :
    ((tryDestroyEvent s (handleOf s o)).2.objects o).live = false := by
  have hlookup := lookupObject_handleOf hinv (h.installed hinv) hl
  rw [htype] at hlookup
  have hfit := hinv.objects.target o hl
  unfold TargetFits at hfit
  rw [htype] at hfit
  obtain ⟨e, he, _⟩ := hfit
  have hcount : (s.events e).waiterCount = 0 := by
    rw [hinv.waits.waiting_iff e]
    rintro r ⟨⟨hv, _⟩, _⟩
    rw [h.unwaited r] at hv
    cases hv
  have hpins : pins s o = 0 := by
    unfold pins
    rw [Finset.card_eq_zero, Finset.filter_eq_empty_iff]
    rintro r _ ⟨hv, _⟩
    rw [h.unwaited r] at hv
    cases hv
  have hinternal := hinv.objects.refs o hl
  unfold tryDestroyEvent
  simp only [hlookup, targetEvent, he]
  rw [if_neg (by simp [hcount, hrefs, hinternal, hpins])]
  simp [releaseObjectRecord]

/-- An operation of the run works on a state that the run came to, and the rest of the run goes
on from there. -/
theorem run_through {ops : List Op} (hinv : Inv s) (hstays : HandleStays s) (h : OnlyBootLeft s)
    (hops : ∀ op ∈ ops, windsDown op = true) (hin : op ∈ ops) :
    ∃ s1, Inv s1 ∧ OnlyBootLeft s1 ∧ Winding s s1 ∧ Winding s1 (step s1 op) ∧
      Winding (step s1 op) (Runs.run step s ops) := by
  induction ops generalizing s with
  | nil => cases hin
  | cons first rest ih =>
    have hw := step_winding hinv hstays h (hops first (by simp))
    have hrest : ∀ op' ∈ rest, windsDown op' = true := fun op' hmem => hops op' (by simp [hmem])
    have hinv1 := step_inv hinv first
    have hstays1 := step_handleStays hinv hstays first
    rcases List.mem_cons.mp hin with rfl | hmem
    · exact ⟨s, hinv, h, Winding.refl s, hw, (run_winding hinv1 hstays1 (h.winding hw) hrest).1⟩
    · obtain ⟨s1, hinv2, hleft, hto, hstep, hfrom⟩ :=
        ih hinv1 hstays1 (h.winding hw) hrest hmem
      exact ⟨s1, hinv2, hleft, hw.trans hto, hstep, hfrom⟩

/-- An event object whose handle is closed in the run has no public handle at its end. -/
theorem run_closes {ops : List Op} {unregistered : Bool} (hinv : Inv s) (hstays : HandleStays s)
    (h : OnlyBootLeft s) (hops : ∀ op ∈ ops, windsDown op = true)
    (htype : (s.objects o).type = .event)
    (hin : Op.closeHandle (handleOf s o) unregistered ∈ ops)
    (hl : ((Runs.run step s ops).objects o).live = true) :
    ((Runs.run step s ops).objects o).publicHandleRefs = 0 := by
  obtain ⟨s1, hinv1, hleft, hto, hstep, hfrom⟩ := run_through hinv hstays h hops hin
  obtain ⟨hl2, _, _, hle⟩ := hfrom.objects o hl
  obtain ⟨hl1, _⟩ := hstep.objects o hl2
  obtain ⟨_, htype1, _⟩ := hto.objects o hl1
  have hzero := closeHandle_closes hinv1 (hleft.installed hinv1) hl1 (htype1.trans htype)
    unregistered
  rw [hto.handleOf_eq hl1] at hzero
  exact Nat.eq_zero_of_le_zero (hle.trans (Nat.le_of_eq hzero))

/-- An event object without a public handle that is destroyed in the run is gone at its end. -/
theorem run_destroys {ops : List Op} (hinv : Inv s) (hstays : HandleStays s)
    (h : OnlyBootLeft s) (hops : ∀ op ∈ ops, windsDown op = true)
    (htype : (s.objects o).type = .event) (hrefs : (s.objects o).publicHandleRefs = 0)
    (hin : Op.tryDestroyEvent (handleOf s o) ∈ ops) :
    ((Runs.run step s ops).objects o).live = false := by
  obtain ⟨s1, hinv1, hleft, hto, hstep, hfrom⟩ := run_through hinv hstays h hops hin
  rw [← Bool.not_eq_true]
  intro hl
  obtain ⟨hl2, _⟩ := hfrom.objects o hl
  obtain ⟨hl1, _⟩ := hstep.objects o hl2
  obtain ⟨_, htype1, _, hle⟩ := hto.objects o hl1
  have hgone := tryDestroyEvent_destroys hinv1 hleft hl1 (htype1.trans htype)
    (Nat.eq_zero_of_le_zero (hle.trans (Nat.le_of_eq hrefs)))
  rw [hto.handleOf_eq hl1] at hgone
  change ((tryDestroyEvent s1 (handleOf s o)).2.objects o).live = true at hl2
  rw [hgone] at hl2
  cases hl2

/-! ## The teardown -/

theorem collect_onlyBootLeft (hinv : Inv s) (h : OnlyBootLeft s) (scheduler : SchedulerPtr)
    (unregistered : ThreadSlot → Bool) : (collect s scheduler unregistered).2 = s := by
  apply collect_induction (P := fun s' => s' = s) unregistered _ rfl scheduler
  rintro s' t rfl
  exact h.keeps hinv t _

/-- The standard stream, which keeps its handle, passes the check of `teardown`. -/
theorem streamObjectGood_of_live (hinv : Inv s) (hstays : HandleStays s)
    (hl : s.standardStream.live = true) : streamObjectGood s = true := by
  obtain ⟨hlive, htype, _⟩ := hinv.objects.stream hl
  have hfit := hinv.objects.target _ hlive
  unfold TargetFits at hfit
  rw [htype] at hfit
  have hrefs := hstays _ hlive (by simp [htype]) (by simp [htype])
  simp [streamObjectGood, hlive, htype, hfit.2.2.2, hrefs]

theorem teardown_iff (hinv : Inv s) (hstays : HandleStays s) (h : OnlyBootLeft s)
    (hevents : ∀ e, (s.events e).live = false) (unregistered : ThreadSlot → Bool) :
    (teardown s .this unregistered).1 = true ↔ s.notification.live = false := by
  have hi := h.installed hinv
  obtain ⟨b, hboot, hcurrent, hstate, hother⟩ := h.boot
  have hb : b = 0 := Option.some.inj (hboot.symm.trans (hinv.current.boot hi).1)
  subst hb
  have honly : onlyBootLive s = true ↔ s.notification.live = false := by
    rw [onlyBootLive_iff]
    exact ⟨fun hall => hall.2.1, fun hn => ⟨hevents, hn, hother⟩⟩
  unfold teardown
  rw [if_neg (by simp [State.accepts, hi, hinv.current.active, hcurrent, hboot]), hboot]
  simp only
  rw [if_neg (by simp [hstate]), collect_onlyBootLeft hinv h]
  split
  · rename_i hlive
    rw [honly] at hlive
    simp [hlive]
  · rename_i hlive
    rw [Decidable.not_not, honly] at hlive
    rw [if_neg]
    · simp [hlive]
    · rintro ⟨hl, hbad⟩
      exact hbad (streamObjectGood_of_live hinv hstays hl)

/-- The calls before a teardown: handles are closed, each with the answer of the stack
callback, and then events and notifications are destroyed. -/
def windDown (closes : List (Nat × Bool)) (destroys : List Nat) : List Op :=
  closes.map (fun call => .closeHandle call.1 call.2) ++
    destroys.flatMap fun handle =>
      [.tryDestroyEvent handle, .tryDestroyMemoryResourceNotification handle]

theorem windDown_windsDown {closes : List (Nat × Bool)} {destroys : List Nat} (op : Op)
    (hin : op ∈ windDown closes destroys) : windsDown op = true := by
  unfold windDown at hin
  simp only [List.mem_append, List.mem_map, List.mem_flatMap, List.mem_cons, List.not_mem_nil,
    or_false] at hin
  rcases hin with ⟨_, _, rfl⟩ | ⟨_, _, rfl | rfl⟩ <;> rfl

/-- After its handles are closed, each event is gone. -/
theorem windDown_events (hinv : Inv s) (hstays : HandleStays s) (h : OnlyBootLeft s)
    {closes : List (Nat × Bool)} {destroys : List Nat}
    (hcloses : ∀ o, (s.objects o).live = true → (s.objects o).type = .event →
      (s.objects o).publicHandleRefs ≠ 0 → handleOf s o ∈ closes.map Prod.fst)
    (hdestroys : ∀ o, (s.objects o).live = true → (s.objects o).type = .event →
      handleOf s o ∈ destroys) (e : EventSlot) :
    ((Runs.run step s (windDown closes destroys)).events e).live = false := by
  set closing : List Op := closes.map fun call => .closeHandle call.1 call.2 with hclosing
  set destroying : List Op := destroys.flatMap fun handle =>
    [.tryDestroyEvent handle, .tryDestroyMemoryResourceNotification handle] with hdestroying
  have hall : ∀ op ∈ closing ++ destroying, windsDown op = true := windDown_windsDown
  have hfirst : ∀ op ∈ closing, windsDown op = true := fun op hin => hall op (by simp [hin])
  have hsecond : ∀ op ∈ destroying, windsDown op = true := fun op hin => hall op (by simp [hin])
  change ((Runs.run step s (closing ++ destroying)).events e).live = false
  rw [Runs.run_append]
  obtain ⟨hw1, hinv1, hstays1⟩ := run_winding hinv hstays h hfirst
  obtain ⟨hw2, hinv2, _⟩ := run_winding hinv1 hstays1 (h.winding hw1) hsecond
  rw [← Bool.not_eq_true]
  intro hlive
  -- The object of a live event was live all the time, and its handle was closed.
  obtain ⟨hl2, htype2, _⟩ := hinv2.objects.event e hlive
  set o := ((Runs.run step (Runs.run step s closing) destroying).events e).objectSlot
  obtain ⟨hl1, htype1, _, _⟩ := hw2.objects o hl2
  obtain ⟨hl, htype, _, hle⟩ := hw1.objects o hl1
  rw [htype2] at htype1
  rw [← htype1] at htype
  have hrefs : ((Runs.run step s closing).objects o).publicHandleRefs = 0 := by
    by_cases hopen : (s.objects o).publicHandleRefs = 0
    · omega
    · obtain ⟨call, hcall, hhandle⟩ := List.mem_map.mp (hcloses o hl htype.symm hopen)
      have hin : Op.closeHandle (handleOf s o) call.2 ∈ closing := by
        rw [← hhandle, hclosing]
        exact List.mem_map.mpr ⟨call, hcall, rfl⟩
      exact run_closes hinv hstays h hfirst htype.symm hin hl1
  have hgone := run_destroys hinv1 hstays1 (h.winding hw1) hsecond htype1.symm hrefs (by
    rw [hw1.handleOf_eq hl1, hdestroying]
    exact List.mem_flatMap.mpr ⟨_, hdestroys o hl htype.symm, by simp⟩)
  rw [hgone] at hl2
  cases hl2

/-- When only the boot thread is left, the scheduler can be torn down after the open events
are closed and all events destroyed, unless a notification is live. No object is live then. -/
theorem a_scheduler_without_notification_can_be_torn_down (h : Reachable s)
    (hend : OnlyBootLeft s) {closes : List (Nat × Bool)} {destroys : List Nat}
    (hcloses : ∀ o, (s.objects o).live = true → (s.objects o).type = .event →
      (s.objects o).publicHandleRefs ≠ 0 → handleOf s o ∈ closes.map Prod.fst)
    (hdestroys : ∀ o, (s.objects o).live = true → (s.objects o).type = .event →
      handleOf s o ∈ destroys) (unregistered : ThreadSlot → Bool) :
    ((teardown (Runs.run step s (windDown closes destroys)) .this unregistered).1 = true ↔
      s.notification.live = false) ∧
    (s.notification.live = false → ∀ o,
      ((teardown (Runs.run step s (windDown closes destroys)) .this
        unregistered).2.objects o).live = false) := by
  have hinv := reachableBy_inv h
  have hstays := reachable_handleStays h
  have hevents := windDown_events hinv hstays hend hcloses hdestroys
  have hall : ∀ op ∈ windDown closes destroys, windsDown op = true := windDown_windsDown
  obtain ⟨hw, hinv', hstays'⟩ := run_winding hinv hstays hend hall
  have hiff := teardown_iff hinv' hstays' (hend.winding hw) hevents unregistered
  rw [hw.notification] at hiff
  exact ⟨hiff, fun hn o => ((teardown_vacates hinv' (hiff.mpr hn)).objects o).1⟩

/-- A run that opens two events and closes one of them. -/
def twoEventsState : State :=
  Runs.run step sampleStart
    [.createEvent .this 1 0 true, .createEvent .this 0 1 true, .installStandardStream .this 2 1 1,
      .closeHandle sampleEvent true]

/-- The other event is closed, both are destroyed, and the scheduler is torn down. -/
theorem the_two_events_can_be_ended :
    ((teardown (Runs.run step twoEventsState (windDown [(makeHandle .event 2 1, true)]
      [sampleEvent, makeHandle .event 2 1])) .this fun _ => true).1 = true ↔
      twoEventsState.notification.live = false) ∧
    (twoEventsState.notification.live = false → ∀ o,
      ((teardown (Runs.run step twoEventsState (windDown [(makeHandle .event 2 1, true)]
        [sampleEvent, makeHandle .event 2 1])) .this fun _ => true).2.objects o).live = false) :=
  a_scheduler_without_notification_can_be_torn_down
    (Runs.Reach.run (.start sampleStart_started) _ fun _ _ _ => trivial)
    ⟨⟨0, by decide +kernel⟩, by decide +kernel⟩ (by decide +kernel) (by decide +kernel) _

/-- A run that creates the notification, and its handle. -/
def notifiedState : State :=
  Runs.run step sampleStart [.createMemoryResourceNotification .this 0 true]

def notifiedHandle : Nat := makeHandle .memoryResourceNotification 1 1

/-- The handle of the notification is the only open one. It is not closed, the notification is
not destroyed, and the teardown fails. -/
theorem a_notification_keeps_the_scheduler :
    Reachable notifiedState ∧ OnlyBootLeft notifiedState ∧
    (∀ o, (notifiedState.objects o).live = true → (notifiedState.objects o).publicHandleRefs ≠ 0 →
      handleOf notifiedState o = notifiedHandle) ∧
    (closeHandle notifiedState notifiedHandle true).1 = false ∧
    (tryDestroyMemoryResourceNotification
      (Runs.run step notifiedState (windDown [(notifiedHandle, true)] [])) notifiedHandle).1 =
        false ∧
    (teardown (Runs.run step notifiedState (windDown [(notifiedHandle, true)] [notifiedHandle]))
      .this fun _ => true).1 = false := by
  refine ⟨Runs.Reach.run (.start sampleStart_started) _ fun _ _ _ => trivial,
    ⟨⟨0, by decide +kernel⟩, by decide +kernel⟩, by decide +kernel, by decide +kernel,
    by decide +kernel, by decide +kernel⟩

end Gate4Harness.Scheduler
