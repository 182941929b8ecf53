-- Thread identities and free slots. A creation that succeeds takes the next identity, and no
-- other operation moves the counter. A slot of the thread table that is not live is blank.
import Gate4Harness.SchedulerLives
import Gate4Harness.SchedulerEffects

namespace Gate4Harness.Scheduler

variable {s s' : State} {t c : ThreadSlot} {k : Nat}

/-! ## The invariant -/

/-- The next identity is `k`, each free slot of the thread table is blank, and the current
thread is live. -/
structure Tidy (k : Nat) (s : State) : Prop where
  identity : s.nextIdentity = k
  blank : ∀ t, (s.threads t).live = false → s.threads t = {}
  current : ∀ c, s.current = some c → (s.threads c).live = true

/-- The threads, the counter and the current thread are left alone. -/
structure Beside (s s' : State) : Prop where
  identity : s'.nextIdentity = s.nextIdentity
  threads : s'.threads = s.threads
  current : s'.current = s.current

theorem Beside.refl (s : State) : Beside s s := ⟨rfl, rfl, rfl⟩

theorem Beside.trans {s'' : State} (h : Beside s s') (h' : Beside s' s'') : Beside s s'' :=
  ⟨h'.identity.trans h.identity, h'.threads.trans h.threads, h'.current.trans h.current⟩

theorem Beside.thenRecord (h : Beside s s') (r : RecordSlot) (f : WaitRecord → WaitRecord) :
    Beside s (s'.modRecord r f) := ⟨h.identity, h.threads, h.current⟩

theorem Tidy.beside (h : Tidy k s) (hb : Beside s s') : Tidy k s' := by
  refine ⟨hb.identity.trans h.identity, ?_, ?_⟩
  · rw [hb.threads]
    exact h.blank
  · rw [hb.threads, hb.current]
    exact h.current

theorem Tidy.modThread (h : Tidy k s) (ht : (s.threads t).live = true) {f : Tcb → Tcb}
    (hf : ∀ x, (f x).live = x.live) : Tidy k (s.modThread t f) := by
  refine ⟨h.identity, ?_, ?_⟩
  · intro u hu
    by_cases hut : u = t
    · subst hut
      simp [hf, ht] at hu
    · simp only [State.modThread_threads, Function.update_of_ne hut] at hu ⊢
      exact h.blank u hu
  · intro c hc
    by_cases hct : c = t
    · subst hct
      simpa [hf] using ht
    · simpa [hct] using h.current c hc

/-- A slot is cleared that is not the current thread. -/
theorem Tidy.clear (h : Tidy k s) (hidentity : s'.nextIdentity = s.nextIdentity)
    (hcurrent : s'.current = s.current) (ht : s.current ≠ some t)
    (hthreads : s'.threads = Function.update s.threads t {}) : Tidy k s' := by
  refine ⟨hidentity.trans h.identity, ?_, ?_⟩
  · intro u hu
    by_cases hut : u = t
    · subst hut
      simp [hthreads]
    · simp only [hthreads, Function.update_of_ne hut] at hu ⊢
      exact h.blank u hu
  · intro c hc
    rw [hcurrent] at hc
    have hct : c ≠ t := by
      rintro rfl
      exact ht hc
    simpa [hthreads, hct] using h.current c hc

/-- A thread that is queued is live, as a blank slot is not queued. -/
theorem Tidy.live_of_queued (h : Tidy k s) (hq : (s.threads t).runnableQueued = true) :
    (s.threads t).live = true := by
  by_contra hl
  rw [h.blank t (by simpa using hl)] at hq
  cases hq

/-! ## The queue -/

theorem enqueueRunnable_tidy (h : Tidy k s) (t : ThreadSlot) :
    Tidy k (enqueueRunnable s t).2 := by
  unfold enqueueRunnable
  split
  · exact h
  · rename_i hg
    simp only [not_or, Decidable.not_not] at hg
    split
    · exact h
    · split
      · exact h.beside ⟨rfl, rfl, rfl⟩
      · dsimp only
        refine Tidy.modThread (h.beside ?_) ?_ fun _ => rfl
        · exact ⟨rfl, rfl, rfl⟩
        · exact hg.2.1

theorem removeRunnable_tidy (h : Tidy k s) (t : ThreadSlot) :
    Tidy k (removeRunnable s t).2 ∧ ((removeRunnable s t).2.threads t).live =
      (s.threads t).live := by
  unfold removeRunnable
  split
  · exact ⟨h, rfl⟩
  · rename_i hg
    simp only [not_or, Decidable.not_not] at hg
    have hl := h.live_of_queued hg.2
    split
    · dsimp only
      refine ⟨Tidy.modThread (h.beside ?_) ?_ fun _ => rfl, by simp⟩
      · exact ⟨rfl, rfl, rfl⟩
      · exact hl
    · dsimp only
      exact ⟨h.modThread hl fun _ => rfl, by simp⟩

theorem chooseNext_tidy (h : Tidy k s) {next : ThreadSlot}
    (hn : (s.threads next).live = true) : Tidy k (chooseNext s next).2 := by
  obtain ⟨h1, hlive⟩ := removeRunnable_tidy h next
  have h2 := h1.modThread (hlive.trans hn) (f := fun thread => { thread with state := .running })
    fun _ => rfl
  refine ⟨h2.identity, h2.blank, ?_⟩
  intro c hc
  cases hc
  simpa [chooseNext, hn] using hlive

theorem pickNextRunnable_live {next : ThreadSlot} (hp : pickNextRunnable s c = some next) :
    (s.threads next).live = true :=
  (eligible_facts (List.find?_some hp)).1

/-! ## The waits -/

/-- The threads whose waits end are live. -/
theorem Tidy.ended (h : Tidy k s) (hw : WaitInv s) {ended : RecordSlot → Prop}
    {completionResult : Nat} {waitResult : WaitResult}
    (he : Ended s s' ended completionResult waitResult) : Tidy k s' := by
  have hthread : ∀ u, (s.threads u = s'.threads u) ∨
      ((s.threads u).live = true ∧ (s'.threads u).live = true) := by
    intro u
    by_cases hu : ∃ q, ended q ∧ (s.waitRecords q).thread = some u
    · obtain ⟨q, hq, hqu⟩ := hu
      obtain ⟨t, _, ht, _, _, hl, _⟩ := hw.pending q (he.was_pending q hq)
      rw [hqu] at ht
      cases ht
      exact .inr ⟨hl, by rw [he.threads u q hq hqu]; exact hl⟩
    · exact .inl (he.other_threads u fun q hq hqu => hu ⟨q, hq, hqu⟩).symm
  refine ⟨?_, ?_, ?_⟩
  · rw [(congrArg State.nextIdentity he.rest :)]
    exact h.identity
  · intro u hu
    rcases hthread u with heq | ⟨_, hl⟩
    · rw [← heq] at hu ⊢
      exact h.blank u hu
    · rw [hl] at hu
      cases hu
  · intro c hc
    rw [(congrArg State.current he.rest :)] at hc
    rcases hthread c with heq | ⟨_, hl⟩
    · rw [← heq]
      exact h.current c hc
    · exact hl

theorem signalEvent_tidy (hinv : Inv s) (h : Tidy k s) (handle : Nat) :
    Tidy k (signalEvent s handle).2 := by
  cases he : eventFromHandle s handle with
  | none =>
    have heq : signalEvent s handle = (false, s) := by simp [signalEvent, he]
    rw [heq]
    exact h
  | some e =>
    obtain ⟨hi, hl, _⟩ := eventFromHandle_eq_some hinv.objects he
    cases hm : (s.events e).manualReset with
    | true =>
      obtain ⟨_, _, hended, _⟩ := signalEvent_manual hinv hi he hl hm
      refine Tidy.ended (h.beside ?_) (hinv.toCore.setSignaled e true).waits hended
      exact ⟨rfl, rfl, rfl⟩
    | false =>
      by_cases hc : (s.events e).waiterCount = 0
      · rw [(signalEvent_idle hinv he hl hm hc).1]
        exact h.beside ⟨rfl, rfl, rfl⟩
      · obtain ⟨_, _, r, t, hr, ht, hwoken⟩ := signalEvent_auto hinv hi he hl hm hc
        exact h.ended hinv.waits (hwoken.ended hinv.waits hr ht)

theorem resetEvent_beside (s : State) (handle : Nat) : Beside s (resetEvent s handle).2 := by
  unfold resetEvent
  split
  · exact Beside.refl s
  · split <;> exact ⟨rfl, rfl, rfl⟩

theorem pollTimeouts_tidy (hinv : Inv s) (h : Tidy k s) (clock : Option Nat) :
    Tidy k (pollTimeouts s clock).2 := by
  rcases pollTimeouts_serviced s clock with heq | ⟨now, _, _, heq⟩ <;> rw [heq]
  · exact h
  · exact h.ended hinv.waits (serviceTimeouts_spec hinv now).2.2

theorem tokenTaken_beside (s : State) (e : EventSlot) : Beside s (tokenTaken s e) := by
  unfold tokenTaken
  split <;> exact ⟨rfl, rfl, rfl⟩

theorem armWaitTimeout_beside (s : State) (deadlineMs : Nat) :
    Beside s (armWaitTimeout s deadlineMs).2 := by
  rcases armWaitTimeout_eq s deadlineMs with heq | heq <;> rw [heq] <;> exact ⟨rfl, rfl, rfl⟩

theorem addWaiter_beside (s : State) (e : EventSlot) (r : RecordSlot) :
    Beside s (addWaiter s e r).2 := by
  unfold addWaiter
  split
  · exact Beside.refl s
  · split <;> exact ⟨rfl, rfl, rfl⟩

theorem removeWaiter_beside (s : State) (e : EventSlot) (index : Nat) :
    Beside s (removeWaiter s e index) := by
  unfold removeWaiter
  split
  · exact Beside.refl s
  · dsimp only
    split <;> split <;> exact ⟨rfl, rfl, rfl⟩

theorem allocateWaitRecord_beside (s : State) : Beside s (allocateWaitRecord s).2 := by
  unfold allocateWaitRecord
  split <;> exact ⟨rfl, rfl, rfl⟩

theorem pinObject_beside (s : State) (o : ObjectSlot) : Beside s (pinObject s o).2 := by
  unfold pinObject
  split <;> exact ⟨rfl, rfl, rfl⟩

theorem unpinWaitRecord_beside (s : State) (r : RecordSlot) :
    Beside s (unpinWaitRecord s r) := by
  unfold unpinWaitRecord
  split
  · exact Beside.refl s
  · dsimp only
    split
    · split <;> exact ⟨rfl, rfl, rfl⟩
    · exact ⟨rfl, rfl, rfl⟩

theorem releaseWaitRecord_beside (s : State) (r : RecordSlot) :
    Beside s (releaseWaitRecord s r) := by
  unfold releaseWaitRecord
  split
  · exact Beside.refl s
  · dsimp only
    split
    · refine Beside.thenRecord (Beside.trans ?_ (unpinWaitRecord_beside _ r)) r _
      exact ⟨rfl, rfl, rfl⟩
    · refine Beside.thenRecord (Beside.trans ?_ (unpinWaitRecord_beside _ r)) r _
      exact ⟨rfl, rfl, rfl⟩

theorem legacyWait_tidy (h : Tidy k s) (hc : (s.threads c).live = true) (handle : Nat) :
    Tidy k (legacyWait s c handle).2 := by
  have htaken : ∀ s', Beside s s' → Tidy k
      (s'.modThread c fun thread => { thread with blockedResult := .signaled }) := by
    intro s' hb
    refine (h.beside hb).modThread ?_ fun _ => rfl
    rw [hb.threads]
    exact hc
  unfold legacyWait
  dsimp only
  split
  · exact h
  · split
    · split
      · exact htaken _ (tokenTaken_beside s _)
      · exact h
    · split
      · refine htaken _ ?_
        split <;> exact ⟨rfl, rfl, rfl⟩
      · exact h
    · exact h

theorem unblockThread_tidy (h : Tidy k s) (hc : (s.threads c).live = true) (e : EventSlot)
    (r : RecordSlot) : Tidy k (unblockThread s c e r) := by
  unfold unblockThread
  dsimp only
  refine Tidy.beside (Tidy.beside ?_ (removeWaiter_beside _ e _)) (releaseWaitRecord_beside _ r)
  exact h.modThread hc fun _ => rfl

/-- The end of a wait that could not start leaves the threads alone, and so does its start up to
the place where the thread blocks. -/
theorem registerWait_tidy (h : Tidy k s) (hc : (s.threads c).live = true) (o : ObjectSlot)
    (e : EventSlot) (handle : Nat) (timeoutArmed : Bool) (deadlineMs : Nat) :
    Tidy k (registerWait s c o e handle timeoutArmed deadlineMs).2 := by
  have hlive : ∀ s', Beside s s' → (s'.threads c).live = true := by
    intro s' hb
    rw [hb.threads]
    exact hc
  have hpin := pinObject_beside s o
  unfold registerWait
  split
  · rename_i s1 heq
    rw [heq] at hpin
    exact h.beside hpin
  · rename_i s1 heq
    rw [heq] at hpin
    have hrecord := allocateWaitRecord_beside s1
    split
    · rename_i s2 heq
      rw [heq] at hrecord
      exact (h.beside (hpin.trans hrecord)).beside ⟨rfl, rfl, rfl⟩
    · rename_i r s2 heq
      rw [heq] at hrecord
      have hfill : Beside s (fillRecord s2 c o e r timeoutArmed deadlineMs) :=
        (hpin.trans hrecord).thenRecord r _
      have hadded : Beside s (if ((fillRecord s2 c o e r timeoutArmed deadlineMs).events
          e).signaled then (false, fillRecord s2 c o e r timeoutArmed deadlineMs)
          else addWaiter (fillRecord s2 c o e r timeoutArmed deadlineMs) e r).2 := by
        split
        · exact hfill
        · exact hfill.trans (addWaiter_beside _ e r)
      dsimp only
      generalize (if ((fillRecord s2 c o e r timeoutArmed deadlineMs).events e).signaled = true
        then (false, fillRecord s2 c o e r timeoutArmed deadlineMs)
        else addWaiter (fillRecord s2 c o e r timeoutArmed deadlineMs) e r) = p at hadded ⊢
      obtain ⟨added, s4⟩ := p
      dsimp only at hadded ⊢
      split
      · -- The thread does not join the waiters.
        have hback : Beside s (releaseWaitRecord
            (if (s4.waitRecords r).waiterLinked then removeWaiter s4 e
              (s4.waitRecords r).waiterIndex else s4) r) := by
          refine Beside.trans ?_ (releaseWaitRecord_beside _ r)
          split
          · exact hadded.trans (removeWaiter_beside _ e _)
          · exact hadded
        generalize releaseWaitRecord _ r = s6 at hback ⊢
        split
        · dsimp only
          exact (h.beside hback).modThread (hlive s6 hback) fun _ => rfl
        · exact h.beside hback
      · have hblocked : Tidy k (blockThread s4 c r handle) := by
          refine Tidy.modThread (h.beside ?_) ?_ fun _ => rfl
          · exact ⟨hadded.identity, hadded.threads, hadded.current⟩
          · exact hlive s4 hadded
        have hc5 : ((blockThread s4 c r handle).threads c).live = true := by
          simp [blockThread, hlive s4 hadded]
        generalize blockThread s4 c r handle = s5 at hblocked hc5 ⊢
        split
        · exact unblockThread_tidy hblocked hc5 e r
        · rename_i next hnext
          exact chooseNext_tidy hblocked (pickNextRunnable_live hnext)

theorem prepareWaitRecord_tidy (h : Tidy k s) (handle : Nat) (planOut : Bool) :
    Tidy k (prepareWaitRecord s handle planOut).2 := by
  have htimeout : Tidy k (timeoutTaken s) := h.beside ⟨rfl, rfl, rfl⟩
  unfold prepareWaitRecord
  split
  · exact h
  · dsimp only
    split
    · exact htimeout
    · rename_i c hc
      have hlive := h.current c hc
      split
      · exact htimeout
      · split
        · exact legacyWait_tidy htimeout hlive handle
        · rename_i o e _
          split
          · dsimp only
            refine (htimeout.beside (tokenTaken_beside _ e)).modThread ?_ fun _ => rfl
            rw [(tokenTaken_beside _ e).threads]
            exact hlive
          · exact registerWait_tidy htimeout hlive o e handle _ _

theorem finishWait_tidy (h : Tidy k s) (handle : Nat) : Tidy k (finishWait s handle).2 := by
  unfold finishWait
  split
  · exact h
  · cases hc : s.current with
    | none => exact h
    | some c =>
      have hlive := h.current c hc
      dsimp only
      split
      · exact h
      · split
        · dsimp only
          exact h.modThread hlive fun _ => rfl
        · split
          · exact h
          · dsimp only
            refine Tidy.beside ?_ (releaseWaitRecord_beside _ _)
            exact h.modThread hlive fun _ => rfl

theorem setLastError_tidy (h : Tidy k s) (value : Nat) : Tidy k (setLastError s value) := by
  unfold setLastError
  cases hc : s.current with
  | none => exact h
  | some c =>
    dsimp only
    split
    · exact h.modThread (h.current c hc) fun _ => rfl
    · exact h

/-! ## Pages and objects -/

theorem pageAllocate_beside (s : State) (a : PageAnswer) : Beside s (pageAllocate s a).2 := by
  unfold pageAllocate
  split <;> exact ⟨rfl, rfl, rfl⟩

theorem pageFree_beside (s : State) (memory : Nat) : Beside s (pageFree s memory) := by
  unfold pageFree
  split <;> exact ⟨rfl, rfl, rfl⟩

theorem freeEnvironmentPages_beside (s : State) (a b c d : Nat) :
    Beside s (freeEnvironmentPages s a b c d) :=
  (((pageFree_beside s a).trans (pageFree_beside _ b)).trans (pageFree_beside _ c)).trans
    (pageFree_beside _ d)

theorem freeThreadEnvironment_identity (s : State) (t : ThreadSlot) :
    (freeThreadEnvironment s t).nextIdentity = s.nextIdentity := by
  unfold freeThreadEnvironment
  split
  · rfl
  · dsimp only
    split
    · exact (freeEnvironmentPages_beside s _ _ _ _).identity
    · rfl

theorem freeThreadEnvironment_tidy (h : Tidy k s) (hi : s.installed = true)
    (ht : (s.threads t).live = true) : Tidy k (freeThreadEnvironment s t) ∧
      ((freeThreadEnvironment s t).threads t).live = true := by
  have hthreads := (freeThreadEnvironment_pages hi t).1
  have hfurnished := h.modThread ht (f := unfurnished) fun _ => rfl
  refine ⟨hfurnished.beside ⟨?_, ?_, ?_⟩, ?_⟩
  · exact freeThreadEnvironment_identity s t
  · exact hthreads
  · exact (freeThreadEnvironment_unseen s t).current
  · simp [hthreads, unfurnished, ht]

theorem allocateObject_beside (s : State) (type : ObjectType) (target : Target) :
    Beside s (allocateObject s type target).2 := by
  rcases allocateObject_cases s type target with heq | ⟨o, g, _, _, _, heq⟩ <;> rw [heq] <;>
    exact ⟨rfl, rfl, rfl⟩

theorem createEvent_beside (s : State) (scheduler : SchedulerPtr) (m i : Nat) (handleOut : Bool) :
    Beside s (createEvent s scheduler m i handleOut).2 := by
  unfold createEvent
  split
  · exact Beside.refl s
  · split
    · exact Beside.refl s
    · rename_i e _
      rcases allocateObject_cases (s.modEvent e fun _ => {}) .event (.event e) with
        heq | ⟨o, g, _, _, _, heq⟩ <;> rw [heq] <;> exact ⟨rfl, rfl, rfl⟩

theorem createMemoryResourceNotification_beside (s : State) (scheduler : SchedulerPtr)
    (n : Nat) (handleOut : Bool) :
    Beside s (createMemoryResourceNotification s scheduler n handleOut).2 := by
  unfold createMemoryResourceNotification
  split
  · exact Beside.refl s
  · split
    · exact Beside.refl s
    · rcases allocateObject_cases s .memoryResourceNotification .notification with
        heq | ⟨o, g, _, _, _, heq⟩ <;> rw [heq] <;> exact ⟨rfl, rfl, rfl⟩

theorem installStandardStream_beside (s : State) (scheduler : SchedulerPtr)
    (roles backend caps : Nat) :
    Beside s (installStandardStream s scheduler roles backend caps).2 := by
  unfold installStandardStream
  split
  · exact Beside.refl s
  · split
    · split <;> exact ⟨rfl, rfl, rfl⟩
    · rcases allocateObject_cases { s with standardStream := {} } .standardStream .stream with
        heq | ⟨o, g, _, _, _, heq⟩ <;> rw [heq] <;> exact ⟨rfl, rfl, rfl⟩

/-! ## The end of threads -/

theorem reclaimThread_identity (s : State) (t : ThreadSlot) :
    (reclaimThread s t).nextIdentity = s.nextIdentity := by
  simp [reclaimThread, releaseObjectRecord, freeThreadEnvironment_identity,
    (pageFree_beside _ _).identity]

theorem maybeReclaimThread_tidy (hcore : Core s) (h : Tidy k s) (t : ThreadSlot)
    (unregistered : Bool) : Tidy k (maybeReclaimThread s t unregistered) := by
  rcases maybeReclaimThread_cases s t unregistered with heq | ⟨hr, hu⟩
  · rw [heq]
    exact h
  · rcases maybeReclaimThread_pages hcore t unregistered with heq | ⟨hthreads, _⟩
    · rw [heq]
      exact h
    · refine h.clear ?_ hu.current (reclaimable_facts hcore hr).2.1 hthreads
      unfold maybeReclaimThread
      split
      · rfl
      · split
        · split
          · rfl
          · exact reclaimThread_identity _ t
        · exact reclaimThread_identity s t

theorem collect_tidy (hinv : Inv s) (h : Tidy k s) (scheduler : SchedulerPtr)
    (unregistered : ThreadSlot → Bool) : Tidy k (collect s scheduler unregistered).2 := by
  have hboth : Inv (collect s scheduler unregistered).2 ∧
      Tidy k (collect s scheduler unregistered).2 := by
    apply collect_induction (P := fun s' => Inv s' ∧ Tidy k s')
    · rintro s' t ⟨h1, h2⟩
      exact ⟨maybeReclaimThread_inv h1 t _, maybeReclaimThread_tidy h1.toCore h2 t _⟩
    · exact ⟨hinv, h⟩
  exact hboth.2

theorem StandsFor.thread_live {o : ObjectSlot} (ho : StandsFor s o .thread (.thread t))
    (h : ObjectInv s) : (s.threads t).live = true := by
  have hfit := h.target o ho.1
  unfold TargetFits at hfit
  rw [ho.2.1] at hfit
  obtain ⟨u, hu, hl, _⟩ := hfit
  rw [ho.2.2] at hu
  cases hu
  exact hl

theorem closeHandle_tidy (hinv : Inv s) (h : Tidy k s) (handle : Nat) (unregistered : Bool) :
    Tidy k (closeHandle s handle unregistered).2 := by
  rcases closeHandle_cases hinv.objects handle unregistered with
    heq | ⟨o, e, _, heq⟩ | ⟨o, t, _, ho, heq⟩ <;> rw [heq]
  · exact h
  · exact h.beside ⟨rfl, rfl, rfl⟩
  · have hlive := ho.thread_live hinv.objects
    have hclosed : Tidy k (closedThread s o t) :=
      Tidy.modThread (h.beside ⟨rfl, rfl, rfl⟩ : Tidy k (closedObject s o)) hlive fun _ => rfl
    exact maybeReclaimThread_tidy (closedThread_inv hinv ho).toCore hclosed t unregistered

theorem discardCreatedThread_tidy (hinv : Inv s) (h : Tidy k s) (t : Option ThreadSlot)
    (unregistered : Bool) : Tidy k (discardCreatedThread s t unregistered).2 := by
  rcases discardCreatedThread_cases hinv.toCore t unregistered with heq | ⟨u, _, hd, heq⟩ <;>
    rw [heq]
  · exact h
  · refine maybeReclaimThread_tidy (withdrawn_inv hinv hd).toCore ?_ u unregistered
    obtain ⟨q, n, hw, _⟩ := withdrawn_spec hinv.toCore hd
    rw [hw]
    refine Tidy.modThread (h.beside ?_) ?_ fun _ => rfl
    · exact ⟨rfl, rfl, rfl⟩
    · exact (discardable_facts hinv.toCore hd).1

theorem releaseStream_beside (s : State) : Beside s (releaseStream s) := by
  unfold releaseStream
  split <;> exact ⟨rfl, rfl, rfl⟩

theorem teardown_tidy (hinv : Inv s) (h : Tidy k s) (scheduler : SchedulerPtr)
    (unregistered : ThreadSlot → Bool) : Tidy k (teardown s scheduler unregistered).2 := by
  have hcollect := collect_tidy hinv h scheduler unregistered
  rcases teardown_cases hinv scheduler unregistered with heq | heq | ⟨hi, hc, _, heq⟩ <;> rw [heq]
  · exact h
  · exact hcollect
  · obtain ⟨hcurrent, hinst⟩ := collect_keeps s scheduler unregistered
    have hstream := hcollect.beside (releaseStream_beside _)
    obtain ⟨hi1, hcur1, _⟩ := releaseStream_keeps (collect s scheduler unregistered).2
    generalize releaseStream (collect s scheduler unregistered).2 = s1 at hstream hi1 hcur1 ⊢
    have hboot := hstream.current 0 (hcur1.trans (hcurrent.trans hc))
    obtain ⟨hfreed, _⟩ := freeThreadEnvironment_tidy hstream (hi1.trans (hinst.trans hi)) hboot
    refine ⟨hfreed.identity, ?_, ?_⟩
    · intro u hu
      by_cases hu0 : u = 0
      · subst hu0
        simp [tornDown]
      · simp only [tornDown, releaseObjectRecord, State.modMachine_threads,
          State.modThread_threads, State.modObject_threads, Function.update_of_ne hu0] at hu ⊢
        exact hfreed.blank u hu
    · intro c hc
      cases hc

theorem adoptBootEnvironment_tidy (hinv : Inv s) (h : Tidy k s) (p : SchedulerPtr)
    (b : BootEnvironment) : Tidy k (adoptBootEnvironment s p b).2 := by
  unfold adoptBootEnvironment
  split
  · exact h
  · rename_i hg
    have hi : s.installed = true := by
      simp only [not_or, Decidable.not_not, State.accepts, Bool.and_eq_true] at hg
      exact hg.1.2
    obtain ⟨hboot, hlive, _⟩ := hinv.current.boot hi
    rw [hboot]
    dsimp only
    obtain ⟨hfreed, hl⟩ := freeThreadEnvironment_tidy h hi hlive
    generalize freeThreadEnvironment s 0 = s1 at hfreed hl ⊢
    refine Tidy.modThread (Tidy.beside (hfreed.modThread hl (f := fun thread =>
      { thread with gsBase := b.gsBase, tebBase := b.tebBase, tlsVectorBase := b.tlsVectorBase,
                    tlsBlockBase := b.tlsBlockBase, environmentOwned := false })
      fun _ => rfl) ?_) ?_ fun _ => rfl
    · exact ⟨rfl, rfl, rfl⟩
    · simpa using hl

/-! ## Yield and terminate -/

/-- One thread leaves the processor and another one takes it. -/
theorem Tidy.handOver (h : Tidy k s) {next : ThreadSlot} (hc : (s.threads c).live = true)
    (hn : (s.threads next).live = true) {f g : Tcb → Tcb} (hf : ∀ x, (f x).live = x.live)
    (hg : ∀ x, (g x).live = x.live) {s1 : State} (hidentity : s1.nextIdentity = s.nextIdentity)
    (hthreads : s1.threads = s.threads) (hcurrent : s1.current = some next) :
    Tidy k ((s1.modThread c f).modThread next g) := by
  have h1 := h.modThread hc hf
  have hn1 : ((s.modThread c f).threads next).live = true := by
    by_cases hnc : next = c
    · subst hnc
      simp [hf, hn]
    · simp [hnc, hn]
  have h2 := h1.modThread hn1 hg
  have heq : ((s1.modThread c f).modThread next g).threads =
      ((s.modThread c f).modThread next g).threads := by
    unfold State.modThread
    rw [hthreads]
  refine ⟨hidentity.trans h.identity, ?_, ?_⟩
  · rw [heq]
    exact h2.blank
  · intro d hd
    have hd : s1.current = some d := hd
    rw [hcurrent] at hd
    cases hd
    rw [heq]
    simpa [hg] using hn1

theorem prepareYield_tidy (hinv : Inv s) (h : Tidy k s) (planOut : Bool) :
    Tidy k (prepareYield s planOut).2 := by
  by_cases hg : s.installed = true ∧ planOut = true ∧
      ∃ c, s.current = some c ∧ (s.threads c).state = .running
  · obtain ⟨hi, rfl, c, hc, hr⟩ := hg
    obtain ⟨next, _, _, _, ⟨rfl, heq⟩ | ⟨_, he, _, queue, count, heq, _⟩⟩ :=
      prepareYield_spec hinv hi hc hr <;> rw [heq]
    · exact h.beside ⟨rfl, rfl, rfl⟩
    · dsimp only [yielded]
      refine h.handOver (h.current c hc) (eligible_facts he).1 ?_ ?_ ?_ ?_ ?_ <;>
        first | rfl | exact fun _ => rfl
  · rw [prepareYield_refused hg]
    exact h

theorem prepareTerminate_tidy (hinv : Inv s) (h : Tidy k s) (returnValue : Nat) (planOut : Bool) :
    Tidy k (prepareTerminate s returnValue planOut).2 := by
  rcases prepareTerminate_cases hinv returnValue planOut with
    heq | ⟨c, hc, _, heq | ⟨next, queue, count, _, he, _, _, heq, _⟩⟩ <;> rw [heq]
  · exact h
  · exact h.modThread (h.current c hc) fun _ => rfl
  · dsimp only [exited]
    refine h.handOver (h.current c hc) (eligible_facts he).1 ?_ ?_ ?_ ?_ ?_ <;>
      first | rfl | exact fun _ => rfl

/-! ## Every step -/

/-- A switch saves the context of a thread that is live. The assembly switches right after a
thread was chosen, before any other call can reclaim the thread that it leaves. -/
def SavesLive (s : State) : Op → Prop
  | .contextSwitch plan _ => ∀ t, plan.oldContext = some t → (s.threads t).live = true
  | _ => True

/-- The operation creates a thread. -/
def creates : Op → Bool
  | .createSuspendedThread .. => true
  | _ => false

theorem step_tidy (hinv : Inv s) (h : Tidy k s) {op : Op} (hop : SavesLive s op)
    (hcreate : creates op = false) : Tidy k (step s op) := by
  have herror : ∀ s1 error, Tidy k s1 → Tidy k (setLastError s1 error) :=
    fun _ error h1 => setLastError_tidy h1 error
  cases op with
  | configureStackVm p a b =>
    change Tidy k (configureStackVm s p a b).2
    unfold configureStackVm
    split
    · exact h
    · split
      · exact h
      · exact h.beside ⟨rfl, rfl, rfl⟩
  | configureClock p a =>
    change Tidy k (configureClock s p a).2
    unfold configureClock
    split
    · exact h
    · exact h.beside ⟨rfl, rfl, rfl⟩
  | adoptBootEnvironment p b => exact adoptBootEnvironment_tidy hinv h p b
  | createEvent p m i a => exact h.beside (createEvent_beside s p m i a)
  | createMemoryResourceNotification p n a =>
    exact h.beside (createMemoryResourceNotification_beside s p n a)
  | installStandardStream p r b c => exact h.beside (installStandardStream_beside s p r b c)
  | createSuspendedThread p e a b d w => cases hcreate
  | resumeThread handle =>
    change Tidy k (resumeThread s handle).2
    rcases resumeThread_cases hinv handle with heq | ⟨t, _, hl, _, heq, _⟩ <;> rw [heq]
    · exact h
    · dsimp only [resumed]
      refine Tidy.modThread (h.beside ?_) ?_ fun _ => rfl
      · exact ⟨rfl, rfl, rfl⟩
      · exact hl
  | closeHandle handle u => exact closeHandle_tidy hinv h handle u
  | signalEvent handle => exact signalEvent_tidy hinv h handle
  | resetEvent handle => exact h.beside (resetEvent_beside s handle)
  | armWaitTimeout d => exact h.beside (armWaitTimeout_beside s d)
  | serviceTimeouts now => exact h.ended hinv.waits (serviceTimeouts_spec hinv now).2.2
  | pollTimeouts clock => exact pollTimeouts_tidy hinv h clock
  | prepareWaitRecord handle p => exact prepareWaitRecord_tidy h handle p
  | finishWait handle => exact finishWait_tidy h handle
  | prepareYield p => exact prepareYield_tidy hinv h p
  | prepareTerminate v p => exact prepareTerminate_tidy hinv h v p
  | contextSwitch p f =>
    change Tidy k (contextSwitch s p f)
    unfold contextSwitch
    split
    · exact h
    · rename_i old hold
      exact h.modThread (hop old hold) fun _ => rfl
  | tryDestroyEvent handle =>
    change Tidy k (tryDestroyEvent s handle).2
    rcases tryDestroyEvent_cases s handle with heq | ⟨o, e, _, _, _, _, heq⟩ <;> rw [heq]
    · exact h
    · exact h.beside ⟨rfl, rfl, rfl⟩
  | tryDestroyMemoryResourceNotification handle =>
    change Tidy k (tryDestroyMemoryResourceNotification s handle).2
    unfold tryDestroyMemoryResourceNotification
    split
    · exact h
    · split
      · exact h
      · exact h.beside ⟨rfl, rfl, rfl⟩
  | tryReclaimThread t u =>
    change Tidy k (tryReclaimThread s t u).2
    unfold tryReclaimThread
    split
    · exact h
    · split
      · exact h
      · exact maybeReclaimThread_tidy hinv.toCore h _ u
  | discardCreatedThread t u => exact discardCreatedThread_tidy hinv h t u
  | collect p u => exact collect_tidy hinv h p u
  | teardown p u => exact teardown_tidy hinv h p u
  | noteWorkerStarted =>
    change Tidy k (noteWorkerStarted s)
    unfold noteWorkerStarted
    split
    · exact h
    · split
      · rename_i hg
        exact h.modThread hg.2.2 fun _ => rfl
      · exact h
  | setFls i v =>
    change Tidy k (setFls s i v)
    unfold setFls
    split
    · exact h
    · rename_i c hc
      split
      · exact h.modThread (h.current c hc) fun _ => rfl
      · exact h
  | setLastError v => exact setLastError_tidy h v
  | waitOne a handle m b clock pollClock =>
    exact waitOne_rule h (fun e => h.beside (tokenTaken_beside s e))
      (pollTimeouts_tidy hinv h pollClock)
      (fun s1 deadline h1 => h1.beside (armWaitTimeout_beside s1 deadline))
      (fun _ h1 => prepareWaitRecord_tidy h1 handle true) (fun _ h1 => finishWait_tidy h1 handle)
      herror
  | setEventContract a handle =>
    exact eventContract_rule h (signalEvent_tidy hinv h handle) herror
  | resetEventContract a handle =>
    exact eventContract_rule h (h.beside (resetEvent_beside s handle)) herror
  | store memory => exact h.beside ⟨rfl, rfl, rfl⟩

end Gate4Harness.Scheduler
