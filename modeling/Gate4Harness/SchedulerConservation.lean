-- The wait records, the pins on the events and the threads that wait. They agree
-- as long as no thread is freed with a wait that it has not finished: only
-- `finish_wait` gives a record back, and only the thread itself calls it.
import Gate4Harness.SchedulerLaws

namespace Gate4Harness.Scheduler

variable {s s' : State} {t : ThreadSlot} {o : ObjectSlot} {e : EventSlot} {r : RecordSlot}

/-! ## Records and their threads -/

/-- The thread of each wait record in use holds that record. -/
def Held (s : State) : Prop :=
  ∀ r, (s.waitRecords r).valid = true →
    ∃ t, (s.waitRecords r).thread = some t ∧ (s.threads t).waitRecord = some r

/-- A step that takes no new record, and no record away from its thread. -/
theorem Held.keep (h : Held s)
    (hr : ∀ r, (s'.waitRecords r).valid = true →
      (s.waitRecords r).valid = true ∧ (s'.waitRecords r).thread = (s.waitRecords r).thread)
    (ht : ∀ t r, (s.threads t).waitRecord = some r → (s'.waitRecords r).valid = true →
      (s'.threads t).waitRecord = some r) : Held s' := by
  intro r hv
  obtain ⟨hv', hsame⟩ := hr r hv
  obtain ⟨t, h1, h2⟩ := h r hv'
  exact ⟨t, by rw [hsame]; exact h1, ht t r h2 hv⟩

theorem Tcb.waitRecord_of_view {x y : Tcb} (h : x.view = y.view) : x.waitRecord = y.waitRecord :=
  (Tcb.waitView_eq (Tcb.view_eq h).2.2.1).2.1

theorem Held.still (h : Held s) (s' : State) (hs : s'.waitRecords = s.waitRecords)
    (ht : ∀ t, (s'.threads t).waitRecord = (s.threads t).waitRecord) : Held s' := by
  apply h.keep
  · intro r hv
    rw [hs] at hv ⊢
    exact ⟨hv, rfl⟩
  · intro t r hr _
    rw [ht]
    exact hr

theorem Held.unseen (h : Held s) (hu : Unseen s s') : Held s' :=
  h.still _ hu.waitRecords fun t => Tcb.waitRecord_of_view (hu.threads t)

theorem Ended.waitRecord_eq {ended : RecordSlot → Prop} {completionResult : Nat}
    {waitResult : WaitResult} (he : Ended s s' ended completionResult waitResult) (t : ThreadSlot) :
    (s'.threads t).waitRecord = (s.threads t).waitRecord := by
  by_cases h : ∃ q, ended q ∧ (s.waitRecords q).thread = some t
  · obtain ⟨q, hq, ht⟩ := h
    rw [he.threads t q hq ht]
  · rw [he.other_threads t]
    intro q hq ht
    exact h ⟨q, hq, ht⟩

theorem Ended.valid_eq {ended : RecordSlot → Prop} {completionResult : Nat}
    {waitResult : WaitResult} (he : Ended s s' ended completionResult waitResult) (q : RecordSlot) :
    (s'.waitRecords q).valid = (s.waitRecords q).valid := by
  by_cases hq : ended q
  · obtain ⟨n, hn⟩ := he.records q hq
    rw [hn]
  · obtain ⟨n, hn⟩ := he.other_records q hq
    rw [hn]

theorem Held.ended {ended : RecordSlot → Prop} {completionResult : Nat} {waitResult : WaitResult}
    (h : Held s) (he : Ended s s' ended completionResult waitResult) : Held s' := by
  apply h.keep
  · intro r hv
    rw [he.valid_eq] at hv
    exact ⟨hv, he.thread_eq r⟩
  · intro t r hr _
    rw [he.waitRecord_eq]
    exact hr

/-! ## Freeing a thread -/

/-- The TCB of a thread that holds no record can go. -/
theorem Held.reclaim (h : Held s) {unregistered : Bool}
    (hw : reclaimable s t = true → (s.threads t).waitRecord = none) :
    Held (maybeReclaimThread s t unregistered) := by
  rcases maybeReclaimThread_cases s t unregistered with heq | ⟨hr, hu⟩
  · rw [heq]
    exact h
  · refine Held.unseen ?_ hu
    refine Held.still h (withoutThread s t) rfl fun u => ?_
    by_cases hut : u = t
    · subst hut
      simp [withoutThread, hw hr]
    · simp [withoutThread, releaseObjectRecord, hut]

/-- No thread that has ended, and that another thread could free, holds a wait record. -/
def EndedFinished (s : State) : Prop :=
  ∀ t, (s.threads t).live = true → (s.threads t).state = .terminated → s.current ≠ some t →
    (s.threads t).waitRecord = none

theorem EndedFinished.reclaimable (h : EndedFinished s) (hc : Core s)
    (hr : reclaimable s t = true) : (s.threads t).waitRecord = none := by
  obtain ⟨hl, hcur, hs, _⟩ := reclaimable_facts hc hr
  exact h t hl hs hcur

theorem EndedFinished.reclaim (h : EndedFinished s) (unregistered : Bool) :
    EndedFinished (maybeReclaimThread s t unregistered) := by
  rcases maybeReclaimThread_cases s t unregistered with heq | ⟨_, hu⟩
  · rw [heq]
    exact h
  · intro u hl hs hcur
    have hv := Tcb.view_eq (hu.threads u)
    rw [(Tcb.bootView_eq hv.2.1.2).1] at hl
    rw [hv.2.1.1] at hs
    rw [hu.current] at hcur
    rw [Tcb.waitRecord_of_view (hu.threads u)]
    by_cases hut : u = t
    · subst hut
      simp [withoutThread]
    · simp only [withoutThread, releaseObjectRecord, State.modThread_threads,
        State.modObject_threads, Function.update_of_ne hut] at hl hs ⊢
      exact h u hl hs hcur

theorem Held.collect (hinv : Inv s) (h : Held s) (hf : EndedFinished s)
    (scheduler : SchedulerPtr) (unregistered : ThreadSlot → Bool) :
    Held (collect s scheduler unregistered).2 := by
  have hall : Inv (Scheduler.collect s scheduler unregistered).2 ∧
      Held (Scheduler.collect s scheduler unregistered).2 ∧
      EndedFinished (Scheduler.collect s scheduler unregistered).2 := by
    apply collect_induction (P := fun s' => Inv s' ∧ Held s' ∧ EndedFinished s')
    · rintro s' t ⟨h1, h2, h3⟩
      exact ⟨maybeReclaimThread_inv h1 t _, h2.reclaim (h3.reclaimable h1.toCore), h3.reclaim _⟩
    · exact ⟨hinv, h, hf⟩
  exact hall.2.1

/-- Without a live event no wait record is in use, because a record pins its event. -/
theorem Inv.no_event_no_record (h : Inv s) (he : ∀ e, (s.events e).live = false) (r : RecordSlot) :
    (s.waitRecords r).valid = false := by
  rw [← Bool.not_eq_true]
  intro hv
  obtain ⟨o, e, _, _, hstands, _⟩ := h.objects.record r hv
  have hfit := h.objects.target o hstands.1
  simp only [TargetFits, hstands.2.1] at hfit
  obtain ⟨d, _, hd, _⟩ := hfit
  rw [he] at hd
  cases hd

/-! ## The steps -/

/-- The step frees no thread that still holds a wait record. `discard_created_thread` and
the operations that reclaim are the only ones that free a thread. -/
def FreesNoWaiter (s : State) : Op → Prop
  | .discardCreatedThread (some t) _ => discardable s t = true → (s.threads t).waitRecord = none
  | .closeHandle handle _ => handleType handle = some .thread → EndedFinished s
  | .tryReclaimThread .. | .collect .. | .teardown .. => EndedFinished s
  | _ => True

theorem closeHandle_held (hinv : Inv s) (h : Held s) {handle : Nat} {unregistered : Bool}
    (hop : handleType handle = some .thread → EndedFinished s) :
    Held (closeHandle s handle unregistered).2 := by
  rcases closeHandle_cases hinv.objects handle unregistered with
    heq | ⟨o, e, _, heq⟩ | ⟨o, t, htype, ho, heq⟩
  · rw [heq]
    exact h
  · rw [heq]
    exact Held.still h (closedObject s o) rfl fun _ => rfl
  · rw [heq]
    have hsame : ∀ u, ((closedThread s o t).threads u).waitRecord = (s.threads u).waitRecord :=
      view_modThread Tcb.waitRecord (closedObject s o) t (by rfl)
    have hclosed : Held (closedThread s o t) := Held.still h _ rfl hsame
    apply hclosed.reclaim
    intro hr
    obtain ⟨hl, hcur, hs, _⟩ := reclaimable_facts (closedThread_inv hinv ho).toCore hr
    rw [hsame]
    simp only [closedThread, closedObject, State.modThread_threads, State.modObject_threads,
      Function.update_self] at hl hs
    exact hop htype t hl hs hcur

theorem discardCreatedThread_held (hinv : Inv s) (h : Held s) {unregistered : Bool}
    {t : Option ThreadSlot} (hop : FreesNoWaiter s (.discardCreatedThread t unregistered)) :
    Held (discardCreatedThread s t unregistered).2 := by
  rcases discardCreatedThread_cases hinv.toCore t unregistered with heq | ⟨u, rfl, hd, heq⟩
  · rw [heq]
    exact h
  · rw [heq]
    obtain ⟨q, n, hw, _⟩ := withdrawn_spec hinv.toCore hd
    have hsame : ∀ v, ((withdrawn s u).threads v).waitRecord = (s.threads v).waitRecord := by
      rw [hw]
      exact view_modThread Tcb.waitRecord { s with runnableQueue := q, runnableCount := n } u
        (by rfl)
    have hrec : (withdrawn s u).waitRecords = s.waitRecords := by
      rw [hw]
      rfl
    refine (h.still _ hrec hsame).reclaim fun _ => ?_
    rw [hsame]
    exact hop hd

theorem teardown_held (hinv : Inv s) (h : Held s) (hf : EndedFinished s)
    (scheduler : SchedulerPtr) (unregistered : ThreadSlot → Bool) :
    Held (teardown s scheduler unregistered).2 := by
  rcases teardown_cases hinv scheduler unregistered with heq | heq | ⟨_, _, hboot, heq⟩
  · rw [heq]
    exact h
  · rw [heq]
    exact h.collect hinv hf scheduler unregistered
  · -- The events are gone, and with them the records.
    have hcollect := collect_inv hinv scheduler unregistered
    have hnone := hcollect.no_event_no_record ((onlyBootLive_iff _).mp hboot).1
    rw [(collect_still s scheduler unregistered).records] at hnone
    intro r hv
    rw [(teardown_still hinv scheduler unregistered).records, hnone] at hv
    cases hv

theorem signalEvent_ended (h : Inv s) (handle : Nat) :
    ∃ s0 ended, Ended s0 (signalEvent s handle).2 ended waitObject0 .signaled ∧
      s0.waitRecords = s.waitRecords ∧ s0.threads = s.threads := by
  cases he : eventFromHandle s handle with
  | none =>
    have : signalEvent s handle = (false, s) := by simp [signalEvent, he]
    rw [this]
    exact ⟨s, fun _ => False, Ended.none (by simp), rfl, rfl⟩
  | some e =>
    obtain ⟨hi, hl, _⟩ := eventFromHandle_eq_some h.objects he
    cases hm : (s.events e).manualReset with
    | true =>
      obtain ⟨_, _, hended, _⟩ := signalEvent_manual h hi he hl hm
      exact ⟨_, _, hended, rfl, rfl⟩
    | false =>
      by_cases hc : (s.events e).waiterCount = 0
      · rw [(signalEvent_idle h he hl hm hc).1]
        exact ⟨_, fun _ => False, Ended.none (by simp), rfl, rfl⟩
      · obtain ⟨_, _, r, t, hr, ht, hw⟩ := signalEvent_auto h hi he hl hm hc
        exact ⟨_, _, hw.ended h.waits hr ht, rfl, rfl⟩

theorem signalEvent_held (hinv : Inv s) (h : Held s) (handle : Nat) :
    Held (signalEvent s handle).2 := by
  obtain ⟨s0, ended, he, hr, ht⟩ := signalEvent_ended hinv handle
  have h0 : Held s0 := h.still _ hr fun t => by rw [ht]
  exact h0.ended he

theorem resetEvent_held (hinv : Inv s) (h : Held s) (handle : Nat) :
    Held (resetEvent s handle).2 := by
  rcases resetEvent_eq hinv handle with ⟨heq, _⟩ | ⟨e, _, heq⟩ <;> rw [heq]
  · exact h
  · exact Held.still h _ rfl fun _ => rfl

theorem pollTimeouts_held (hinv : Inv s) (h : Held s) (clock : Option Nat) :
    Held (pollTimeouts s clock).2 := by
  unfold pollTimeouts
  cases clock with
  | none => exact h
  | some now =>
    simp only
    split
    · exact h
    · exact h.ended (serviceTimeouts_spec hinv now).2.2

theorem tokenTaken_held (h : Held s) (e : EventSlot) : Held (tokenTaken s e) := by
  unfold tokenTaken
  split
  · exact h
  · exact Held.still h _ rfl fun _ => rfl

theorem prepareWaitRecord_held (hinv : Inv s) (h : Held s) (handle : Nat) (planOut : Bool) :
    Held (prepareWaitRecord s handle planOut).2 := by
  rcases prepareWaitRecord_cases hinv handle planOut with ⟨_, hu⟩ | ⟨e, _, _, _, hu⟩ |
    ⟨c, o, e, r, next, queue, count, _, _, hc, hw, _, _, _, _, hr, hn, _, _, _, heq, _⟩
  · exact h.unseen hu
  · exact (tokenTaken_held h e).unseen hu
  · rw [heq]
    -- The new record and the thread that blocks name each other.
    intro q hv
    by_cases hq : q = r
    · subst hq
      refine ⟨c, by simp [blockedFor, waiting, linkedRecord], ?_⟩
      simp [blockedFor, waiting, Ne.symm hn]
    · obtain ⟨t, ht, hwt⟩ := h q (by simpa [blockedFor, waiting, timeoutTaken, hq] using hv)
      have htc : t ≠ c := by
        rintro rfl
        rw [hw] at hwt
        cases hwt
      refine ⟨t, by simpa [blockedFor, waiting, timeoutTaken, hq] using ht, ?_⟩
      by_cases htn : t = next
      · subst htn
        simpa [blockedFor, waiting, timeoutTaken, htc] using hwt
      · simpa [blockedFor, waiting, timeoutTaken, htc, htn] using hwt

theorem finishWait_held (hinv : Inv s) (h : Held s) (handle : Nat) :
    Held (finishWait s handle).2 := by
  rcases finishWait_cases hinv handle with heq | ⟨_, _, _, _, hu⟩ | ⟨c, r, o, _, _, hr, _, _, heq⟩
  · rw [heq]
    exact h
  · exact h.unseen hu
  · rw [heq]
    apply h.keep
    · intro q hv
      have hq : q ≠ r := by
        rintro rfl
        simp [waitFinished] at hv
      simpa [waitFinished, hq] using hv
    · intro t q ht hv
      have htc : t ≠ c := by
        rintro rfl
        rw [hr] at ht
        cases ht
        simp [waitFinished] at hv
      simpa [waitFinished, htc] using ht

theorem step_held (hinv : Inv s) (h : Held s) {op : Op} (hop : FreesNoWaiter s op) :
    Held (step s op) := by
  have herror : ∀ s1 error, Inv s1 ∧ Held s1 →
      Inv (setLastError s1 error) ∧ Held (setLastError s1 error) := fun s1 error h1 =>
    ⟨h1.1.unseen (setLastError_unseen s1 error), h1.2.unseen (setLastError_unseen s1 error)⟩
  cases op with
  | configureStackVm p a b => exact h.unseen (configureStackVm_unseen s p a b)
  | configureClock p a => exact h.unseen (configureClock_unseen s p a)
  | adoptBootEnvironment p b => exact h.unseen (adoptBootEnvironment_unseen s p b)
  | createEvent p m i a =>
    change Held (createEvent s p m i a).2
    rcases createEvent_cases hinv p m i a with ⟨_, hu⟩ | ⟨e, o, g, _, _, _, _, heq⟩
    · exact h.unseen hu
    · rw [heq]
      exact h
  | createMemoryResourceNotification p n a =>
    change Held (createMemoryResourceNotification s p n a).2
    unfold createMemoryResourceNotification
    split
    · exact h
    · split
      · exact h
      · rcases allocateObject_cases s .memoryResourceNotification .notification with
          heq | ⟨o, g, _, _, _, heq⟩ <;> rw [heq] <;> exact h
  | installStandardStream p r b k =>
    change Held (installStandardStream s p r b k).2
    unfold installStandardStream
    split
    · exact h
    · split
      · split <;> exact h
      · rcases allocateObject_cases { s with standardStream := {} } .standardStream .stream with
          heq | ⟨o, g, _, _, _, heq⟩ <;> rw [heq] <;> exact h
  | createSuspendedThread p e a b d w =>
    rcases createSuspendedThread_cases hinv p e a b d w with
      ⟨_, hu⟩ | ⟨t, o, thread, hi, ht, _, hf, _, hu⟩
    · exact h.unseen hu
    · refine Held.unseen (Held.still h (withThread s t o thread) rfl fun u => ?_) hu
      by_cases hut : u = t
      · subst hut
        simp [withThread, hf.unwaiting, (hinv.toCore.blank_thread ht).2]
      · simp [withThread, hut]
  | resumeThread handle =>
    change Held (resumeThread s handle).2
    rcases resumeThread_cases hinv handle with heq | ⟨t, _, _, _, heq, _⟩
    · rw [heq]
      exact h
    · rw [heq]
      exact Held.still h (resumed s t) rfl
        (view_modThread Tcb.waitRecord _ t (by rfl))
  | closeHandle handle u => exact closeHandle_held hinv h hop
  | signalEvent handle => exact signalEvent_held hinv h handle
  | resetEvent handle => exact resetEvent_held hinv h handle
  | armWaitTimeout d => exact h.unseen (armWaitTimeout_unseen s d)
  | serviceTimeouts now => exact h.ended (serviceTimeouts_spec hinv now).2.2
  | pollTimeouts k => exact pollTimeouts_held hinv h k
  | prepareWaitRecord handle p => exact prepareWaitRecord_held hinv h handle p
  | finishWait handle => exact finishWait_held hinv h handle
  | prepareYield p =>
    change Held (prepareYield s p).2
    by_cases hg : s.installed = true ∧ p = true ∧
        ∃ c, s.current = some c ∧ (s.threads c).state = .running
    · obtain ⟨hi, rfl, c, hc, hrun⟩ := hg
      obtain ⟨next, _, _, _, ⟨rfl, heq⟩ | ⟨_, _, _, queue, count, heq, _⟩⟩ :=
        prepareYield_spec hinv hi hc hrun
      · rw [heq]
        exact h
      · rw [heq]
        refine Held.still h (yielded s c next queue count) rfl fun u => ?_
        exact (view_modThread Tcb.waitRecord _ next (by rfl) u).trans
          (view_modThread Tcb.waitRecord _ c (by rfl) u)
    · rw [prepareYield_refused hg]
      exact h
  | prepareTerminate v p =>
    change Held (prepareTerminate s v p).2
    rcases prepareTerminate_cases hinv v p with
      heq | ⟨c, _, _, heq | ⟨next, queue, count, _, _, _, _, heq, _⟩⟩
    · rw [heq]
      exact h
    · rw [heq]
      exact Held.still h _ rfl (view_modThread Tcb.waitRecord s c (by rfl))
    · rw [heq]
      refine Held.still h (exited s c next v queue count) rfl fun u => ?_
      exact (view_modThread Tcb.waitRecord _ next (by rfl) u).trans
        (view_modThread Tcb.waitRecord _ c (by rfl) u)
  | contextSwitch p f => exact h.unseen (contextSwitch_unseen s p f)
  | tryDestroyEvent handle =>
    change Held (tryDestroyEvent s handle).2
    rcases tryDestroyEvent_cases s handle with heq | ⟨o, e, _, _, _, _, heq⟩ <;> rw [heq] <;>
      exact h
  | tryDestroyMemoryResourceNotification handle =>
    change Held (tryDestroyMemoryResourceNotification s handle).2
    unfold tryDestroyMemoryResourceNotification
    split
    · exact h
    · split <;> exact h
  | tryReclaimThread t u =>
    change Held (tryReclaimThread s t u).2
    have hf : EndedFinished s := hop
    unfold tryReclaimThread
    cases t with
    | none => exact h
    | some t =>
      simp only
      split
      · exact h
      · exact h.reclaim (hf.reclaimable hinv.toCore)
  | discardCreatedThread t u => exact discardCreatedThread_held hinv h hop
  | collect p u => exact h.collect hinv hop p u
  | teardown p u => exact teardown_held hinv h hop p u
  | noteWorkerStarted => exact h.unseen (noteWorkerStarted_unseen s)
  | setFls i v => exact h.unseen (setFls_unseen s i v)
  | setLastError v => exact h.unseen (setLastError_unseen s v)
  | waitOne a handle m b k l =>
    refine (waitOne_rule (P := fun s1 => Inv s1 ∧ Held s1) ⟨hinv, h⟩ ?_ ?_ ?_ ?_ ?_ herror).2
    · intro e
      exact ⟨tokenTaken_inv hinv e, tokenTaken_held h e⟩
    · exact ⟨pollTimeouts_inv hinv l, pollTimeouts_held hinv h l⟩
    · rintro s1 deadline ⟨h1, hh⟩
      have hu := armWaitTimeout_unseen s1 deadline
      exact ⟨h1.unseen hu, hh.unseen hu⟩
    · rintro s1 ⟨h1, hh⟩
      exact ⟨prepareWaitRecord_inv h1 handle true, prepareWaitRecord_held h1 hh handle true⟩
    · rintro s1 ⟨h1, hh⟩
      exact ⟨finishWait_inv h1 handle, finishWait_held h1 hh handle⟩
  | setEventContract a handle =>
    exact (eventContract_rule (P := fun s1 => Inv s1 ∧ Held s1) ⟨hinv, h⟩
      ⟨signalEvent_inv hinv handle, signalEvent_held hinv h handle⟩ herror).2
  | resetEventContract a handle =>
    exact (eventContract_rule (P := fun s1 => Inv s1 ∧ Held s1) ⟨hinv, h⟩
      ⟨resetEvent_inv hinv handle, resetEvent_held hinv h handle⟩ herror).2
  | store memory => exact h

/-! ## The handle of an event -/

theorem makeHandle_event_eq {generation : Nat} (hg : generation < 2 ^ 16) (o : ObjectSlot) :
    makeHandle .event o generation = 0xA702 * 2 ^ 48 + (generation * 2 ^ 16 + (o.val + 1)) := by
  have ho : o.val < 16 := o.isLt
  have h1 : generation <<< 16 ||| (o.val + 1) = generation * 2 ^ 16 + (o.val + 1) := by
    rw [← Nat.shiftLeft_add_eq_or_of_lt (by omega), Nat.shiftLeft_eq]
  have h2 : 0xA702 <<< 48 ||| (generation * 2 ^ 16 + (o.val + 1)) =
      0xA702 * 2 ^ 48 + (generation * 2 ^ 16 + (o.val + 1)) := by
    rw [← Nat.shiftLeft_add_eq_or_of_lt (by omega), Nat.shiftLeft_eq]
  have h3 : handleMagic <<< 56 ||| ObjectType.event.code <<< 48 = 0xA702 <<< 48 := by decide
  unfold makeHandle
  rw [h3, Nat.or_assoc, h1, h2]

/-- The handle of an event names its slot and its generation. -/
theorem decodeHandle_makeHandle {generation : Nat} (hg : ValidGeneration generation)
    (o : ObjectSlot) :
    decodeHandle (makeHandle .event o generation) .event = some (o, generation) := by
  obtain ⟨h0, hlt⟩ := hg
  have ho : o.val < 16 := o.isLt
  unfold decodeHandle
  simp only [makeHandle_event_eq hlt, Nat.shiftRight_eq_div_pow]
  have h1 : (0xA702 * 2 ^ 48 + (generation * 2 ^ 16 + (o.val + 1))) / 2 ^ 56 % 2 ^ 8 = 0xA7 := by
    omega
  have h2 : (0xA702 * 2 ^ 48 + (generation * 2 ^ 16 + (o.val + 1))) / 2 ^ 48 % 2 ^ 8 = 2 := by
    omega
  have h3 : (0xA702 * 2 ^ 48 + (generation * 2 ^ 16 + (o.val + 1))) / 2 ^ 16 % 2 ^ 16 =
      generation := by
    omega
  have h4 : (0xA702 * 2 ^ 48 + (generation * 2 ^ 16 + (o.val + 1))) % 2 ^ 16 = o.val + 1 := by
    omega
  simp only [h1, h2, h3, h4]
  rw [if_neg (by simp [h0, handleMagic, ObjectType.code]), dif_neg (by omega)]
  simp

/-! ## Conservation -/

/-- The counts of waits, records, pins and threads agree, and a closed event that no thread
waits on can go. -/
structure WaitsConserved (s : State) : Prop where
  count : s.activeWaitCount = (Finset.univ.filter fun r =>
    (s.waitRecords r).valid = true ∧ (s.waitRecords r).active = true).card
  holders : (Finset.univ.filter fun r =>
      (s.waitRecords r).valid = true ∧ (s.waitRecords r).active = true).card =
    (Finset.univ.filter fun t =>
      (s.threads t).live = true ∧ (s.threads t).waitRecord ≠ none).card
  owner : ∀ r, (s.waitRecords r).valid = true → ∃ t, (s.waitRecords r).thread = some t ∧
    (s.threads t).live = true ∧ (s.threads t).waitRecord = some r
  refs : ∀ o, (s.objects o).live = true → (s.objects o).type = .event →
    (s.objects o).internalRefs = 1 + (Finset.univ.filter fun r =>
      (s.waitRecords r).valid = true ∧ (s.waitRecords r).pinHeld = true ∧
      (s.waitRecords r).object = some o).card
  destroyable : s.installed = true →
    (∀ t, (s.threads t).live = true → (s.threads t).waitRecord = none) →
    ∀ e, (s.events e).live = true → (s.objects (s.events e).objectSlot).publicHandleRefs = 0 →
      (tryDestroyEvent s
        (makeHandle .event (s.events e).objectSlot (s.events e).generation)).1 = true

theorem Inv.active_iff (h : Inv s) (r : RecordSlot) :
    ((s.waitRecords r).valid = true ∧ (s.waitRecords r).active = true) ↔
      (s.waitRecords r).valid = true :=
  ⟨fun hr => hr.1, fun hr => ⟨hr, (h.waits.active r hr).1⟩⟩

/-- A record and its thread determine each other. -/
theorem Held.card_eq (h : Held s) (hinv : Inv s) :
    (Finset.univ.filter fun r => (s.waitRecords r).valid = true).card =
      (Finset.univ.filter fun t =>
        (s.threads t).live = true ∧ (s.threads t).waitRecord ≠ none).card := by
  apply Finset.card_bij' (fun r _ => ((s.waitRecords r).thread).getD 0)
    (fun t _ => ((s.threads t).waitRecord).getD 0)
  · intro r hr
    obtain ⟨t, ht, hw⟩ := h r (by simpa using hr)
    have := (hinv.waits.owner t r hw).1
    simp [ht, hw, this]
  · intro t ht
    simp only [Finset.mem_filter, Finset.mem_univ, true_and] at ht
    obtain ⟨r, hr⟩ := Option.ne_none_iff_exists'.mp ht.2
    have := (hinv.waits.owner t r hr).2.1
    simp [hr, this]
  · intro r hr
    obtain ⟨t, ht, hw⟩ := h r (by simpa using hr)
    simp [ht, hw]
  · intro t ht
    simp only [Finset.mem_filter, Finset.mem_univ, true_and] at ht
    obtain ⟨r, hr⟩ := Option.ne_none_iff_exists'.mp ht.2
    have := (hinv.waits.owner t r hr).2.2
    simp [hr, this]

/-- A closed event that nothing waits on is destroyed through its handle. -/
theorem Held.destroyable (h : Held s) (hinv : Inv s) (hi : s.installed = true)
    (hfree : ∀ t, (s.threads t).live = true → (s.threads t).waitRecord = none)
    (he : (s.events e).live = true)
    (hclosed : (s.objects (s.events e).objectSlot).publicHandleRefs = 0) :
    (tryDestroyEvent s
      (makeHandle .event (s.events e).objectSlot (s.events e).generation)).1 = true := by
  have hnone : ∀ r, (s.waitRecords r).valid = false := by
    intro r
    rw [← Bool.not_eq_true]
    intro hv
    obtain ⟨t, _, hw⟩ := h r hv
    rw [hfree t (hinv.waits.owner t r hw).1] at hw
    cases hw
  obtain ⟨hl, htype, htarget⟩ := hinv.objects.event e he
  have hfit := hinv.objects.target _ hl
  simp only [TargetFits, htype, htarget, Option.some.injEq, Target.event.injEq] at hfit
  obtain ⟨_, rfl, _, _, hgen⟩ := hfit
  have hvalid := (hinv.objects.slot _ hl).2.1
  have hlookup : lookupObject s (makeHandle .event (s.events e).objectSlot (s.events e).generation)
      .event = some (s.events e).objectSlot := by
    unfold lookupObject
    rw [hgen, decodeHandle_makeHandle hvalid]
    simp [hi, hl, htype]
  have hcount : (s.events e).waiterCount = 0 := by
    rw [hinv.waits.waiting_iff]
    rintro q ⟨⟨hv, _⟩, _⟩
    rw [hnone q] at hv
    cases hv
  have hrefs : (s.objects (s.events e).objectSlot).internalRefs = 1 := by
    rw [hinv.objects.refs _ hl]
    simp [pins, hnone]
  simp [tryDestroyEvent, hlookup, targetEvent, htarget, hcount, hclosed, hrefs]

theorem reachableBy_held (h : ReachableBy FreesNoWaiter s) : Held s := by
  apply h.invariant
  · intro s hs
    obtain ⟨i, hi⟩ := hs
    apply Held.unseen _ (started_unseen hi)
    intro r hv
    cases hv
  · intro s op hreach hh hop
    exact step_held (reachableBy_inv hreach) hh hop

/-- In a run that frees no thread with an unfinished wait, the wait resources are conserved. -/
theorem wait_resources_are_conserved (h : ReachableBy FreesNoWaiter s) : WaitsConserved s := by
  have hinv := reachableBy_inv h
  have hheld := reachableBy_held h
  refine ⟨?_, ?_, ?_, ?_, ?_⟩
  · rw [hinv.waits.count]
    congr 1
    exact Finset.filter_congr fun r _ => (hinv.active_iff r).symm
  · rw [← hheld.card_eq hinv]
    congr 1
    exact Finset.filter_congr fun r _ => hinv.active_iff r
  · intro r hv
    obtain ⟨t, ht, hw⟩ := hheld r hv
    exact ⟨t, ht, (hinv.waits.owner t r hw).1, hw⟩
  · intro o hl _
    rw [hinv.objects.refs o hl, pins]
    congr 2
    apply Finset.filter_congr
    intro r _
    constructor
    · rintro ⟨hv, ho⟩
      exact ⟨hv, (hinv.waits.active r hv).2, ho⟩
    · rintro ⟨hv, _, ho⟩
      exact ⟨hv, ho⟩
  · intro hi hfree e he hclosed
    exact hheld.destroyable hinv hi hfree he hclosed

theorem sampleWait_resources_are_conserved :
    waitingState.activeWaitCount = 1 ∧ WaitsConserved waitingState := by
  refine ⟨by decide +kernel, wait_resources_are_conserved ?_⟩
  apply Runs.Reach.run (.start sampleStart_started)
  intro s op hop
  simp only [sampleWait, sampleCreate, List.mem_cons, List.not_mem_nil, or_false] at hop
  rcases hop with rfl | rfl | rfl | rfl | rfl | rfl <;> trivial

/-- A worker waits and is woken. Its handle is closed and it is discarded before it
finishes the wait, and then the event is closed too. -/
def sampleLeak : List Op :=
  sampleWait ++ [.signalEvent sampleEvent, .closeHandle (sampleThread 2) true,
    .discardCreatedThread (some 1) true, .closeHandle sampleEvent true]

def leakedState : State := Runs.run step sampleStart sampleLeak

theorem leakedState_reached : Reachable leakedState :=
  Runs.Reach.run (.start sampleStart_started) _ fun _ _ _ => trivial

/-- The record of the discarded thread stays in use, and the event can never go. -/
theorem discarded_waiter_leaks_its_record :
    Reachable leakedState ∧ ¬ WaitsConserved leakedState ∧
    (∀ t, (leakedState.threads t).live = true → (leakedState.threads t).waitRecord = none) ∧
    (tryDestroyEvent leakedState sampleEvent).1 = false := by
  refine ⟨leakedState_reached, ?_, by decide +kernel, by decide +kernel⟩
  intro h
  have hcount := h.count.trans h.holders
  revert hcount
  decide +kernel

end Gate4Harness.Scheduler
