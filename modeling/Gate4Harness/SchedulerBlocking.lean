-- A wait that blocks and its end in `finish_wait`. A thread that blocks takes a
-- wait record, pins the object of the event and joins the waiters of the event.
-- `finish_wait` gives the record and the pin back.
import Gate4Harness.SchedulerSwitch

namespace Gate4Harness.Scheduler

open SlotList

variable {s s' : State} {c next t : ThreadSlot} {e : EventSlot} {o : ObjectSlot} {r : RecordSlot}

/-! ## Pins -/

/-- One record more pins `o`, and the other records are as before. -/
theorem pins_insert (hr : (s.waitRecords r).valid = false)
    (hr' : (s'.waitRecords r).valid = true ∧ (s'.waitRecords r).object = some o)
    (hother : ∀ q, q ≠ r → (s'.waitRecords q).pinView = (s.waitRecords q).pinView)
    (p : ObjectSlot) : pins s' p = pins s p + if p = o then 1 else 0 := by
  have hv : ∀ q, q ≠ r → ((s'.waitRecords q).valid = true ∧ (s'.waitRecords q).object = some p ↔
      (s.waitRecords q).valid = true ∧ (s.waitRecords q).object = some p) := by
    intro q hq
    have hv := hother q hq
    simp only [WaitRecord.pinView, Prod.mk.injEq] at hv
    rw [hv.1, hv.2.1]
  unfold pins
  by_cases hp : p = o
  · subst hp
    rw [if_pos rfl]
    exact card_filter_succ (by simp [hr]) hr' hv
  · rw [if_neg hp, Nat.add_zero]
    congr 1
    apply Finset.filter_congr
    intro q _
    by_cases hq : q = r
    · subst hq
      have : some o ≠ some p := fun h => hp (Option.some.inj h).symm
      simp [hr, hr'.2, this]
    · exact hv q hq

/-- The pins of the objects change, and what the table reads of the rest stays. -/
theorem ObjectInv.repin (h : ObjectInv s)
    (hkeep : ∀ p, { s'.objects p with internalRefs := 0 } =
      { s.objects p with internalRefs := 0 })
    (ht : ∀ t, (s'.threads t).handleView = (s.threads t).handleView)
    (he : ∀ d, (s'.events d).handleView = (s.events d).handleView)
    (hn : s'.notification = s.notification) (hm : s'.standardStream = s.standardStream)
    (hrec : ∀ q, (s'.waitRecords q).valid = true → ∃ o e, (s'.waitRecords q).object = some o ∧
      (s'.waitRecords q).waitable = some e ∧ StandsFor s o .event (.event e) ∧
      (s'.waitRecords q).objectSlot = o ∧
      (s'.waitRecords q).objectGeneration = (s.objects o).generation)
    (hrefs : ∀ p, (s.objects p).live = true → (s'.objects p).internalRefs = 1 + pins s' p) :
    ObjectInv s' := by
  simp only [Object.mk.injEq, true_and] at hkeep
  simp only [Tcb.handleView, Prod.mk.injEq] at ht
  have hst : ∀ p type y, StandsFor s' p type y ↔ StandsFor s p type y := by
    intro p type y
    obtain ⟨h1, h2, _, _, _, _, h7⟩ := hkeep p
    unfold StandsFor
    rw [h1, h2, h7]
  refine ⟨?_, ?_, ?_, ?_, ?_, ?_, ?_, ?_, ?_⟩
  · intro p hl
    obtain ⟨h1, h2, h3, h4, h5, h6, h7⟩ := hkeep p
    rw [h1] at hl
    rw [h4, h5, h6]
    exact h.slot p hl
  · intro p hl
    obtain ⟨h1, h2, h3, h4, h5, h6, h7⟩ := hkeep p
    rw [h1] at hl
    have hfit := h.target p hl
    unfold TargetFits at hfit ⊢
    simp only [h2, h4, h6, h7, hn, hm, fun t => (ht t).1, fun t => (ht t).2.1,
      fun t => (ht t).2.2.1, fun t => (ht t).2.2.2]
    cases htype : (s.objects p).type with
    | event =>
      simp only [htype] at hfit ⊢
      obtain ⟨d, hd, hdl, hds, hdg⟩ := hfit
      obtain ⟨hl', heq⟩ := Waitable.handleView_eq (he d)
      exact ⟨d, hd, by rw [hl']; exact hdl, by rw [(heq hdl).1]; exact hds,
        by rw [(heq hdl).2]; exact hdg⟩
    | free => simp only [htype] at hfit
    | thread => simpa only [htype] using hfit
    | memoryResourceNotification => simpa only [htype] using hfit
    | standardStream => simpa only [htype] using hfit
  · intro t hl
    rw [(ht t).1] at hl
    rw [(ht t).2.1, hst]
    exact h.thread t hl
  · intro d hl
    obtain ⟨hl', heq⟩ := Waitable.handleView_eq (he d)
    rw [hl'] at hl
    rw [(heq hl).1, hst]
    exact h.event d hl
  · rw [hn, hst]
    exact h.notification
  · rw [hn]
    exact h.notification_quiet
  · rw [hm, hst]
    exact h.stream
  · intro q hq
    obtain ⟨o, e, h1, h2, h3, h4, h5⟩ := hrec q hq
    exact ⟨o, e, h1, h2, (hst _ _ _).mpr h3, h4, by rw [(hkeep o).2.2.2.1]; exact h5⟩
  · intro p hl
    rw [(hkeep p).1] at hl
    exact hrefs p hl

/-! ## Blocking -/

/-- The wait record of a thread that waits at the end of the list of `e`. -/
def linkedRecord (s : State) (c : ThreadSlot) (o : ObjectSlot) (e : EventSlot) (generation : Nat)
    (timeoutArmed : Bool) (deadlineMs : Nat) : WaitRecord :=
  { valid := true, active := true, waiterLinked := true, pinHeld := true, isEventWait := true,
    timeoutArmed, generation, waitingIdentity := (s.threads c).identity,
    waitingThreadSlot := c.val, waitingThreadGeneration := (s.threads c).generation,
    objectSlot := (s.objects o).slot, objectGeneration := (s.objects o).generation,
    waiterIndex := (s.events e).waiterCount, completionResult := waitFailed, deadlineMs,
    thread := some c, object := some o, waitable := some e }

/-- The state in which `c` waits on `e` with the record `r` and no other thread runs yet. -/
def waiting (s : State) (c : ThreadSlot) (o : ObjectSlot) (e : EventSlot) (r : RecordSlot)
    (handle : Nat) (timeoutArmed : Bool) (deadlineMs : Nat) : State :=
  { s with
    waitRecords := Function.update s.waitRecords r
      (linkedRecord s c o e (takeWaitGeneration s.nextWaitGeneration).1 timeoutArmed deadlineMs)
    nextWaitGeneration := (takeWaitGeneration s.nextWaitGeneration).2
    activeWaitCount := s.activeWaitCount + 1
    events := Function.update s.events e
      { s.events e with
        waiters := Function.update (s.events e).waiters (s.events e).waiterCount (some r)
        waiterCount := (s.events e).waiterCount + 1 }
    objects := Function.update s.objects o
      { s.objects o with internalRefs := (s.objects o).internalRefs + 1 }
    threads := Function.update s.threads c
      { s.threads c with
        waitRecord := some r, blockedObject := handle, blockedResult := .failure,
        state := .blocked } }

/-- A running thread joins a waiter list: there is room, and it is not there already. -/
theorem WaitInv.room (h : WaitInv s) (hr : (s.waitRecords r).valid = false) (e : EventSlot) :
    (s.events e).waiterCount < maxWaiters := by
  obtain ⟨w, hw⟩ := h.lists e
  have hnodup : (r :: w).Nodup := by
    rw [List.nodup_cons]
    refine ⟨?_, ?_⟩
    · intro hmem
      obtain ⟨i, _, hi⟩ := hw.mem_iff.mp hmem
      have := (h.listed e i r hi).1.1
      rw [hr] at this
      cases this
    · rw [List.nodup_iff_getElem?_ne_getElem?]
      intro i j hij hj heq
      obtain ⟨q, hq⟩ : ∃ q, w[i]? = some q := by
        rw [List.getElem?_eq_getElem (by omega)]
        exact ⟨_, rfl⟩
      have h1 := (h.listed e i q (by rw [hw.2]; exact hq)).2.2
      have h2 := (h.listed e j q (by rw [hw.2, ← heq]; exact hq)).2.2
      omega
  have hlen := hnodup.length_le_card
  rw [List.length_cons, hw.1, Fintype.card_fin] at hlen
  exact hlen

theorem freeWaitRecord?_fresh (hf : freeWaitRecord? s = some r) :
    (s.waitRecords r).valid = false := by
  unfold freeWaitRecord? at hf
  split at hf
  · cases hf
  · have := List.find?_some hf
    simpa using this

theorem registerWait_eq (h : Inv s) (hc : (s.threads c).state = .running)
    (ho : StandsFor s o .event (.event e)) (hs : (s.events e).signaled = false) (handle : Nat)
    (timeoutArmed : Bool) (deadlineMs : Nat) :
    registerWait s c o e handle timeoutArmed deadlineMs =
      match freeWaitRecord? s with
      | none => ({}, s)
      | some r =>
        let s1 := waiting s c o e r handle timeoutArmed deadlineMs
        match pickNextRunnable s1 c with
        | none => ({}, unblockThread s1 c e r)
        | some next =>
          ({ result := .blocked, plan := some (chooseNext s1 next).1, record := some r },
            (chooseNext s1 next).2) := by
  have hrefs := h.objects.refs o ho.1
  unfold registerWait
  have hpin : pinObject s o = (true, s.modObject o fun object =>
      { object with internalRefs := object.internalRefs + 1 }) := by
    simp [pinObject, ho.1, hrefs]
  rw [hpin]
  simp only [allocateWaitRecord]
  have hfree : freeWaitRecord? (s.modObject o fun object =>
      { object with internalRefs := object.internalRefs + 1 }) = freeWaitRecord? s := rfl
  rw [hfree]
  cases hf : freeWaitRecord? s with
  | none =>
    simp only
    congr 1
    simp [State.modObject, Function.update_eq_self]
  | some r =>
    have hr := freeWaitRecord?_fresh hf
    have hroom := h.waits.room hr e
    -- no record of the list is the new one, and none has a thread that runs
    have hnew : ∀ s3 : State, s3.events e = s.events e →
        (∀ q, q ≠ r → s3.waitRecords q = s.waitRecords q) →
        (s3.waitRecords r).thread = some c → hasWaiter s3 e r = false := by
      intro s3 h1 h2 h3
      unfold hasWaiter
      rw [List.any_eq_false]
      intro i _
      rw [h1, h3]
      cases hq : (s.events e).waiters i with
      | none => simp
      | some q =>
        obtain ⟨hp, _, _⟩ := h.waits.listed e i q hq
        have hne : q ≠ r := by
          rintro rfl
          rw [hp.1] at hr
          cases hr
        obtain ⟨u, _, hu, _, _, _, hub, _, _⟩ := h.waits.pending q hp
        have hut : u ≠ c := by
          rintro rfl
          rw [hc] at hub
          cases hub
        simp [hne, h2 q hne, hu, hut]
    simp only
    set s2 := State.modRecord _ r _ with hs2
    set s3 := fillRecord s2 c o e r timeoutArmed deadlineMs with hs3
    have hevents : s3.events = s.events := by rw [hs3, hs2]; rfl
    have hadd : addWaiter s3 e r = (true,
        (s3.modRecord r fun record =>
          { record with waiterIndex := (s.events e).waiterCount, waiterLinked := true }).modEvent e
          fun event =>
            { event with
              waiters := Function.update event.waiters (s.events e).waiterCount (some r)
              waiterCount := (s.events e).waiterCount + 1 }) := by
      unfold addWaiter
      rw [hevents, if_neg, if_neg]
      · rw [hnew s3 (by rw [hevents])]
        · simp
        · intro q hq
          simp [hs3, hs2, fillRecord, hq]
        · simp [hs3, fillRecord]
      · have : (s3.waitRecords r).waiterLinked = false := by simp [hs3, hs2, fillRecord]
        simp [this]
        omega
    have hblock : blockThread (addWaiter s3 e r).2 c r handle =
        waiting s c o e r handle timeoutArmed deadlineMs := by
      rw [hadd]
      simp [blockThread, waiting, linkedRecord, hs3, hs2, fillRecord, State.modRecord,
        State.modEvent, State.modThread, State.modObject]
    rw [hevents, hs]
    simp only [Bool.false_eq_true, if_false]
    rw [hadd] at hblock ⊢
    cases hnext : pickNextRunnable (waiting s c o e r handle timeoutArmed deadlineMs) c with
    | none => simp only [not_true, if_false, hblock, hnext]
    | some next => simp only [not_true, if_false, hblock, hnext]

section Waiting

variable {handle deadlineMs : Nat} {timeoutArmed : Bool}

theorem waiting_record (q : RecordSlot) (hq : q ≠ r) :
    (waiting s c o e r handle timeoutArmed deadlineMs).waitRecords q = s.waitRecords q := by
  simp [waiting, hq]

theorem waiting_thread (u : ThreadSlot) (hu : u ≠ c) :
    (waiting s c o e r handle timeoutArmed deadlineMs).threads u = s.threads u := by
  simp [waiting, hu]

/-- A thread that ran and now waits was not in the queue, and it still is not. -/
theorem waiting_queue {l : List ThreadSlot} (hl : QueueUpTo s none l)
    (hc : (s.threads c).state = .running) :
    QueueUpTo (waiting s c o e r handle timeoutArmed deadlineMs) none l := by
  refine hl.congr rfl rfl rfl fun u => ?_
  by_cases hu : u = c
  · subst hu
    simp [waiting, Tcb.queueView, hc]
  · rw [waiting_thread u hu]

theorem waiting_pending_iff (hr : (s.waitRecords r).valid = false) (q : RecordSlot) :
    Pending (waiting s c o e r handle timeoutArmed deadlineMs) q ↔ Pending s q ∨ q = r := by
  by_cases hq : q = r
  · subst hq
    simp [Pending, waiting, linkedRecord]
  · simp [Pending, waiting, hq]

/-- The waiters of an event once `r` has joined the list of `e`. -/
theorem waiting_waiters (d : EventSlot) (i : Nat) :
    ((waiting s c o e r handle timeoutArmed deadlineMs).events d).waiters i =
      if d = e ∧ i = (s.events e).waiterCount then some r else (s.events d).waiters i := by
  by_cases hd : d = e
  · subst hd
    by_cases hi : i = (s.events d).waiterCount
    · simp [waiting, hi]
    · simp [waiting, hi]
  · simp [waiting, hd]

theorem waiting_waits (h : WaitInv s) (hr : (s.waitRecords r).valid = false)
    (hlive : (s.threads c).live = true) (hc : (s.threads c).state = .running)
    (hw : (s.threads c).waitRecord = none) :
    WaitInv (waiting s c o e r handle timeoutArmed deadlineMs) := by
  have hvalid : ∀ q, (s.waitRecords q).valid = true → q ≠ r := by
    rintro q hq rfl
    rw [hr] at hq
    cases hq
  have hblocked : ∀ u, (s.threads u).state = .blocked → u ≠ c := by
    rintro u hu rfl
    rw [hc] at hu
    cases hu
  refine ⟨?_, ?_, ?_, ?_, ?_, ?_, ?_, ?_, ?_, ?_⟩
  · intro q hq
    have hne : q ≠ r := by
      rintro rfl
      simp [waiting, linkedRecord] at hq
    rw [waiting_record q hne] at hq ⊢
    exact h.blank q hq
  · intro q hq
    by_cases hne : q = r
    · subst hne
      simp [waiting, linkedRecord]
    · rw [waiting_record q hne] at hq ⊢
      exact h.active q hq
  · intro q hq
    rcases (waiting_pending_iff hr q).mp hq with hp | rfl
    · have hne := hvalid q hp.1
      obtain ⟨u, d, h1, h2, h3, h4, h5, h6, h7⟩ := h.pending q hp
      refine ⟨u, d, ?_⟩
      rw [waiting_record q hne, waiting_thread u (hblocked u h5), waiting_waiters]
      have hlt := h.lt_count h7
      refine ⟨h1, h2, h3, h4, h5, h6, ?_⟩
      rw [if_neg]
      · exact h7
      · rintro ⟨rfl, hi⟩
        omega
    · refine ⟨c, e, ?_⟩
      rw [waiting_waiters]
      simp [waiting, linkedRecord, hlive]
  · intro q hq
    by_cases hne : q = r
    · subst hne
      simp [waiting, linkedRecord] at hq
    · rw [waiting_record q hne] at hq ⊢
      exact h.unlinked q hq
  · intro d i q hq
    rw [waiting_waiters] at hq
    rw [waiting_pending_iff hr]
    split at hq
    · rename_i hdi
      cases hq
      obtain ⟨rfl, rfl⟩ := hdi
      exact ⟨Or.inr rfl, by simp [waiting, linkedRecord], by simp [waiting, linkedRecord]⟩
    · obtain ⟨hp, h1, h2⟩ := h.listed d i q hq
      rw [waiting_record q (hvalid q hp.1)]
      exact ⟨Or.inl hp, h1, h2⟩
  · intro d
    obtain ⟨w, hwl⟩ := h.lists d
    by_cases hd : d = e
    · subst hd
      refine ⟨w ++ [r], ?_⟩
      simpa [waiting] using hwl.push r
    · exact ⟨w, by simpa [waiting, hd] using hwl⟩
  · intro u hu hub
    by_cases huc : u = c
    · subst huc
      exact ⟨r, by simp [waiting], (waiting_pending_iff hr r).mpr (Or.inr rfl)⟩
    · rw [waiting_thread u huc] at hu hub ⊢
      obtain ⟨q, h1, h2⟩ := h.blocked u hu hub
      exact ⟨q, h1, (waiting_pending_iff hr q).mpr (Or.inl h2)⟩
  · intro u q huq
    by_cases huc : u = c
    · subst huc
      simp only [waiting, Function.update_self, Option.some.injEq] at huq
      subst huq
      simp [waiting, linkedRecord, hlive]
    · rw [waiting_thread u huc] at huq ⊢
      obtain ⟨h1, h2, h3⟩ := h.owner u q huq
      rw [waiting_record q (hvalid q h2)]
      exact ⟨h1, h2, h3⟩
  · intro u q huq hq
    by_cases huc : u = c
    · subst huc
      simp only [waiting, Function.update_self, Option.some.injEq] at huq
      subst huq
      simp [waiting, linkedRecord] at hq
    · rw [waiting_thread u huc] at huq ⊢
      have hne := hvalid q (h.owner u q huq).2.1
      rw [waiting_record q hne] at hq ⊢
      exact h.result u q huq hq
  · have hcount := h.count
    have hcard := card_filter_succ (a := r)
      (p := fun q => (s.waitRecords q).valid = true)
      (q := fun q =>
        ((waiting s c o e r handle timeoutArmed deadlineMs).waitRecords q).valid = true)
      (by simp [hr]) (by simp [waiting, linkedRecord])
      (fun q hq => by rw [waiting_record q hq])
    rw [hcard, ← hcount]
    rfl

theorem waiting_objects (h : ObjectInv s) (hr : (s.waitRecords r).valid = false)
    (ho : StandsFor s o .event (.event e)) :
    ObjectInv (waiting s c o e r handle timeoutArmed deadlineMs) := by
  set s1 := waiting s c o e r handle timeoutArmed deadlineMs with hs1
  have hslot := (h.slot o ho.1).1
  refine h.repin ?_ ?_ ?_ rfl rfl ?_ ?_
  · intro p
    by_cases hp : p = o
    · subst hp
      simp [hs1, waiting]
    · simp [hs1, waiting, hp]
  · intro t
    by_cases htc : t = c
    · subst htc
      simp [hs1, waiting, Tcb.handleView]
    · rw [hs1, waiting_thread t htc]
  · intro d
    by_cases hd : d = e
    · subst hd
      simp [hs1, waiting, Waitable.handleView]
    · simp [hs1, waiting, hd]
  · intro q hq
    by_cases hne : q = r
    · subst hne
      exact ⟨o, e, by simp [hs1, waiting, linkedRecord], by simp [hs1, waiting, linkedRecord],
        ho, by simp [hs1, waiting, linkedRecord, hslot], by simp [hs1, waiting, linkedRecord]⟩
    · rw [hs1, waiting_record q hne] at hq ⊢
      exact h.record q hq
  · intro p hl
    have hpin : pins s1 p = pins s p + if p = o then 1 else 0 := pins_insert hr
      ⟨by simp [hs1, waiting, linkedRecord], by simp [hs1, waiting, linkedRecord]⟩
      (fun q hq => by rw [hs1, waiting_record q hq]) p
    have hrefs := h.refs p hl
    rw [hpin]
    by_cases hp : p = o
    · subst hp
      simp only [hs1, waiting, Function.update_self, if_true]
      omega
    · simp only [hs1, waiting, Function.update_of_ne hp, hp, if_false]
      omega

/-- The undo of a wait that found no other thread to run leaves no trace of the wait. -/
theorem unblockThread_eq (h : WaitInv s) (hi : s.installed = true)
    (hr : (s.waitRecords r).valid = false) :
    unblockThread (waiting s c o e r handle timeoutArmed deadlineMs) c e r =
      { s with nextWaitGeneration := (takeWaitGeneration s.nextWaitGeneration).2 }.modThread c
        fun thread => { thread with state := .running, waitRecord := none, blockedObject := 0,
                                    blockedResult := .failure } := by
  have hnone : (s.events e).waiters (s.events e).waiterCount = none := by
    obtain ⟨w, hw⟩ := h.lists e
    exact hw.none_of_le (Nat.le_refl _)
  have hwaiters : Function.update (s.events e).waiters (s.events e).waiterCount none =
      (s.events e).waiters := by
    rw [← hnone, Function.update_eq_self]
  have hrecords : Function.update s.waitRecords r {} = s.waitRecords := by
    rw [← h.blank r hr, Function.update_eq_self]
  have hlt : ¬ (s.events e).waiterCount + 1 ≤ (s.events e).waiterCount := by omega
  simp [unblockThread, removeWaiter, releaseWaitRecord, unpinWaitRecord, waiting, linkedRecord,
    hi, hlt, State.modThread, State.modRecord, State.modEvent, State.modObject, hwaiters, hrecords,
    Function.update_eq_self]

/-- The state in which `c` waits on `e` and `next` runs. -/
def blockedFor (s : State) (c : ThreadSlot) (o : ObjectSlot) (e : EventSlot) (r : RecordSlot)
    (handle : Nat) (timeoutArmed : Bool) (deadlineMs : Nat) (next : ThreadSlot)
    (queue : Nat → Option ThreadSlot) (count : Nat) : State :=
  { waiting s c o e r handle timeoutArmed deadlineMs with
    runnableQueue := queue, runnableCount := count, current := some next }.modThread next
      fun thread => { thread with runnableQueued := false, state := .running }

/-- A wait on an event that is not set either fails and leaves no trace, or it blocks. -/
theorem registerWait_cases (h : Inv s) (hi : s.installed = true) (hcur : s.current = some c)
    (hc : (s.threads c).state = .running) (hw : (s.threads c).waitRecord = none)
    (ho : StandsFor s o .event (.event e)) (hs : (s.events e).signaled = false) (handle : Nat)
    (timeoutArmed : Bool) (deadlineMs : Nat) :
    ((registerWait s c o e handle timeoutArmed deadlineMs).1 = {} ∧
      Unseen s (registerWait s c o e handle timeoutArmed deadlineMs).2) ∨
    ∃ r next queue count, (s.waitRecords r).valid = false ∧ next ≠ c ∧ eligible s next = true ∧
      Closest s c next ∧
      (registerWait s c o e handle timeoutArmed deadlineMs).1 =
        { result := .blocked, plan := some ⟨some c, (s.threads next).savedContext⟩,
          record := some r } ∧
      (registerWait s c o e handle timeoutArmed deadlineMs).2 =
        blockedFor s c o e r handle timeoutArmed deadlineMs next queue count ∧
      QueueInv (registerWait s c o e handle timeoutArmed deadlineMs).2 := by
  rw [registerWait_eq h hc ho hs]
  cases hf : freeWaitRecord? s with
  | none => exact Or.inl ⟨rfl, Unseen.refl s⟩
  | some r =>
    simp only
    have hr := freeWaitRecord?_fresh hf
    set s1 := waiting s c o e r handle timeoutArmed deadlineMs with hs1
    obtain ⟨l, hl⟩ := h.queue
    have hcl := hl.running_not_mem hc
    have hq1 : QueueUpTo s1 none l := waiting_queue hl hc
    cases hp : pickNextRunnable s1 c with
    | none =>
      refine Or.inl ⟨rfl, ?_⟩
      simp only
      rw [hs1, unblockThread_eq h.waits hi hr]
      refine ⟨rfl, rfl, rfl, rfl, rfl, rfl, rfl, rfl, fun _ => rfl, rfl, fun _ => rfl, rfl, rfl, ?_⟩
      apply view_modThread Tcb.view
      simp [Tcb.view, hc, hw]
    | some next =>
      simp only
      have hmem := pickNextRunnable_mem hq1 hp
      have hn : next ≠ c := by
        rintro rfl
        exact hcl hmem
      obtain ⟨q, hq, hchoose⟩ := chooseNext_spec hq1 hi hmem
      have hclosest : Closest s c next :=
        pickNextRunnable_closest hp fun u hu => by rw [hs1, waiting_thread u hu]
      refine Or.inr ⟨r, next, q, s1.runnableCount - 1, hr, hn, (hl.eligible_iff next).mpr hmem,
        hclosest, ?_, ?_, ?_⟩
      · rw [hchoose, hs1, waiting_thread next hn]
        simp [waiting, hcur]
      · rw [hchoose]
        rfl
      · refine ⟨l.erase next, ?_⟩
        rw [hchoose]
        simp only
        apply hq1.takenOut hmem hq
        · rfl
        · simp

theorem blockedFor_inv (h : Inv s) (hi : s.installed = true) (hcur : s.current = some c)
    (hc : (s.threads c).state = .running) (hw : (s.threads c).waitRecord = none)
    (ho : StandsFor s o .event (.event e)) (hs : (s.events e).signaled = false)
    (hr : (s.waitRecords r).valid = false) (hn : next ≠ c) (he : eligible s next = true)
    {queue : Nat → Option ThreadSlot} {count : Nat}
    (hq : QueueInv (blockedFor s c o e r handle timeoutArmed deadlineMs next queue count)) :
    Inv (blockedFor s c o e r handle timeoutArmed deadlineMs next queue count) := by
  obtain ⟨hnl, hns, _⟩ := eligible_facts he
  have hcl := h.current.current_live hi hcur
  have hthreads : ∀ t,
      (blockedFor s c o e r handle timeoutArmed deadlineMs next queue count).threads t =
      if t = next then { s.threads t with runnableQueued := false, state := .running }
      else if t = c then { s.threads t with
        waitRecord := some r, blockedObject := handle, blockedResult := .failure,
        state := .blocked }
      else s.threads t := by
    intro t
    by_cases htn : t = next
    · subst htn
      simp [blockedFor, waiting, hn]
    · by_cases htc : t = c
      · subst htc
        simp [blockedFor, waiting, htn]
      · simp [blockedFor, waiting, htn, htc]
  refine ⟨⟨hq, ?_, ?_, ?_, ?_⟩, ?_⟩
  · refine h.current.switch hi hcur rfl rfl rfl (rfl : _ = some next) (fun t => ?_) hnl ?_ ?_ ?_
    · rw [hthreads]
      split
      · rfl
      · split <;> rfl
    · simp [hthreads]
    · intro _
      simp [hthreads, Ne.symm hn]
    · intro t htc htn
      simp [hthreads, htc, htn]
  · have hwaits : WaitInv (waiting s c o e r handle timeoutArmed deadlineMs) :=
      waiting_waits h.waits hr hcl hc hw
    refine hwaits.congr rfl (fun _ => ⟨rfl, rfl⟩) rfl fun t => Or.inl ?_
    apply view_modThread Tcb.waitView
    simp [Tcb.waitView, waiting, hn, hns]
  · have hobjects : ObjectInv (waiting s c o e r handle timeoutArmed deadlineMs) :=
      waiting_objects h.objects hr ho
    refine hobjects.congr (fun _ => rfl) rfl rfl ?_ (fun _ => rfl) fun _ => rfl
    exact view_modThread Tcb.handleView _ next (by rfl)
  · intro t ht
    rw [hthreads] at ht ⊢
    split at ht
    · rename_i htn
      subst htn
      simp [hnl] at ht
    · rename_i htn
      split at ht
      · rename_i htc
        subst htc
        simp [hcl] at ht
      · rename_i htc
        simp only [htn, htc, if_false]
        exact h.blank t ht
  · intro d hdl hds
    by_cases hd : d = e
    · subst hd
      simp [blockedFor, waiting, hs] at hds
    · simp only [blockedFor, waiting, State.modThread_events, Function.update_of_ne hd] at hdl hds ⊢
      exact h.quiet d hdl hds

end Waiting

/-! ## The whole of `prepare_wait_record` -/

theorem validateOpenEventHandle_facts (hi : s.installed = true) {handle : Nat}
    (hv : validateOpenEventHandle s handle = some (o, e)) :
    StandsFor s o .event (.event e) ∧ eventFromHandle s handle = some e ∧
    (s.events e).live = true ∧ (s.objects o).closeState = false ∧
    decodeEventIdentity handle = some (o, (s.objects o).generation) := by
  unfold validateOpenEventHandle at hv
  cases hd : decodeEventIdentity handle with
  | none => simp [hd] at hv
  | some pair =>
    obtain ⟨slot, generation⟩ := pair
    simp only [hd] at hv
    split at hv
    · cases hv
    · rename_i hg
      cases ht : targetEvent s slot with
      | none => simp [ht] at hv
      | some d =>
        simp only [ht] at hv
        split at hv
        · cases hv
        · rename_i hg2
          cases hv
          simp only [not_or, Decidable.not_not] at hg hg2
          have htarget : (s.objects o).target = some (.event e) := by
            unfold targetEvent at ht
            split at ht
            · rename_i htarget
              cases ht
              exact htarget
            · cases ht
          refine ⟨⟨hg.1, hg.2.1, htarget⟩, ?_, hg2.1, by simpa using hg.2.2.2.1,
            by rw [hg.2.2.1]⟩
          unfold eventFromHandle lookupObject
          rw [if_neg (by simp [hi])]
          unfold decodeEventIdentity at hd
          simp [hd, hg.1, hg.2.1, hg.2.2.1, ht]

theorem timeoutTaken_unseen (s : State) : Unseen s (timeoutTaken s) :=
  ⟨rfl, rfl, rfl, rfl, rfl, rfl, rfl, rfl, fun _ => rfl, rfl, fun _ => rfl, rfl, rfl, fun _ => rfl⟩

theorem tokenTaken_inv (h : Inv s) (e : EventSlot) : Inv (tokenTaken s e) := by
  unfold tokenTaken
  split
  · exact h
  · exact h.setSignaled e (by simp)

theorem tokenTaken_timeout_unseen (s : State) (e : EventSlot) :
    Unseen (tokenTaken s e) (tokenTaken (timeoutTaken s) e) := by
  unfold tokenTaken
  split
  · rename_i hm
    rw [if_pos (by exact hm)]
    exact timeoutTaken_unseen s
  · rename_i hm
    rw [if_neg (by exact hm)]
    exact timeoutTaken_unseen (s.modEvent e fun event => { event with signaled := false })

/-- The result field of a thread without a wait record is outside the invariant. -/
theorem Unseen.setResult (hw : (s.threads c).waitRecord = none) (result : WaitResult) :
    Unseen s (s.modThread c fun thread => { thread with blockedResult := result }) := by
  apply Unseen.modThread
  simp [Tcb.view, hw]

/-- An open or closed event, or nothing, is behind a handle that gives an object. -/
theorem objectFromHandle_event {handle : Nat} (ho : objectFromHandle s handle = some o)
    (htype : (s.objects o).type = .event) : lookupObject s handle .event = some o := by
  unfold objectFromHandle at ho
  cases ht : handleType handle with
  | none => simp [ht] at ho
  | some type =>
    simp only [ht] at ho
    obtain ⟨_, _, hty, _⟩ := lookupObject_eq_some ho
    rw [htype] at hty
    rw [hty]
    exact ho

theorem legacyWait_cases (h : Inv s) (hw : (s.threads c).waitRecord = none) (handle : Nat) :
    (legacyWait s c handle).1 = {} ∧ (legacyWait s c handle).2 = s ∨
    ∃ e, eventFromHandle s handle = some e ∧ (s.events e).signaled = true ∧
      (legacyWait s c handle).1 = { result := .signaled } ∧
      Unseen (tokenTaken s e) (legacyWait s c handle).2 := by
  unfold legacyWait
  cases ho : objectFromHandle s handle with
  | none => exact Or.inl ⟨rfl, rfl⟩
  | some o =>
    simp only
    split
    · rename_i e htype htarget
      split
      · rename_i hset
        refine Or.inr ⟨e, ?_, hset.2, rfl, ?_⟩
        · unfold eventFromHandle
          rw [objectFromHandle_event ho htype]
          simp [targetEvent, htarget]
        · simp only
          apply Unseen.setResult
          unfold tokenTaken
          split <;> exact hw
      · exact Or.inl ⟨rfl, rfl⟩
    · rw [h.objects.notification_quiet]
      simp
    · exact Or.inl ⟨rfl, rfl⟩

/-- The three ways in which `prepare_wait_record` ends: a failure that changes nothing
the invariant reads, a wait that ends at once, or a thread that blocks. -/
theorem prepareWaitRecord_cases (h : Inv s) (handle : Nat) (planOut : Bool) :
    ((prepareWaitRecord s handle planOut).1 = {} ∧
      Unseen s (prepareWaitRecord s handle planOut).2) ∨
    (∃ e, eventFromHandle s handle = some e ∧ (s.events e).signaled = true ∧
      (prepareWaitRecord s handle planOut).1 = { result := .signaled } ∧
      Unseen (tokenTaken s e) (prepareWaitRecord s handle planOut).2) ∨
    ∃ c o e r next queue count, s.installed = true ∧ s.current = some c ∧
      (s.threads c).state = .running ∧ (s.threads c).waitRecord = none ∧
      StandsFor s o .event (.event e) ∧ eventFromHandle s handle = some e ∧
      decodeEventIdentity handle = some (o, (s.objects o).generation) ∧
      (s.events e).signaled = false ∧ (s.waitRecords r).valid = false ∧ next ≠ c ∧
      eligible s next = true ∧ Closest s c next ∧
      (prepareWaitRecord s handle planOut).1 =
        { result := .blocked, plan := some ⟨some c, (s.threads next).savedContext⟩,
          record := some r } ∧
      (prepareWaitRecord s handle planOut).2 =
        blockedFor (timeoutTaken s) c o e r handle s.pendingWaitTimeoutArmed
          s.pendingWaitDeadlineMs next queue count ∧
      Inv (prepareWaitRecord s handle planOut).2 := by
  unfold prepareWaitRecord
  split
  · exact Or.inl ⟨rfl, Unseen.refl s⟩
  · rename_i hg
    simp only [not_or, Decidable.not_not] at hg
    have hi : s.installed = true := hg.1
    have hu := timeoutTaken_unseen s
    have h1 := h.unseen hu
    simp only
    cases hcur : (timeoutTaken s).current with
    | none => exact Or.inl ⟨rfl, hu⟩
    | some c =>
      simp only
      split
      · exact Or.inl ⟨rfl, hu⟩
      · rename_i hready
        simp only [not_or, ne_eq, Decidable.not_not] at hready
        obtain ⟨hrun, hfree⟩ := hready
        cases hv : validateOpenEventHandle (timeoutTaken s) handle with
        | none =>
          simp only
          rcases legacyWait_cases h1 hfree handle with ⟨hl1, hl2⟩ | ⟨e, he, hset, hl1, hl2⟩
          · exact Or.inl ⟨hl1, by rw [hl2]; exact hu⟩
          · refine Or.inr (Or.inl ⟨e, he, hset, hl1, ?_⟩)
            exact (tokenTaken_timeout_unseen s e).trans hl2
        | some pair =>
          obtain ⟨o, e⟩ := pair
          obtain ⟨ho, he, _, _, hdec⟩ := validateOpenEventHandle_facts hi hv
          simp only
          split
          · rename_i hset
            refine Or.inr (Or.inl ⟨e, he, hset, rfl, ?_⟩)
            apply (tokenTaken_timeout_unseen s e).trans
            apply Unseen.setResult
            unfold tokenTaken
            split <;> exact hfree
          · rename_i hset
            have hset : ((timeoutTaken s).events e).signaled = false := by simpa using hset
            rcases registerWait_cases h1 hi hcur hrun hfree ho hset handle
              s.pendingWaitTimeoutArmed s.pendingWaitDeadlineMs with
              ⟨hr1, hr2⟩ | ⟨r, next, queue, count, hr, hn, hel, hclosest, hr1, hr2, hq⟩
            · exact Or.inl ⟨hr1, hu.trans hr2⟩
            · refine Or.inr (Or.inr ⟨c, o, e, r, next, queue, count, hi, hcur, hrun, hfree, ho, he,
                hdec, hset, hr, hn, hel, hclosest, hr1, hr2, ?_⟩)
              rw [hr2] at hq ⊢
              exact blockedFor_inv h1 hi hcur hrun hfree ho hset hr hn hel hq

theorem prepareWaitRecord_inv (h : Inv s) (handle : Nat) (planOut : Bool) :
    Inv (prepareWaitRecord s handle planOut).2 := by
  rcases prepareWaitRecord_cases h handle planOut with ⟨_, hu⟩ | ⟨e, _, _, _, hu⟩ | hb
  · exact h.unseen hu
  · exact (tokenTaken_inv h e).unseen hu
  · obtain ⟨_, _, _, _, _, _, _, _, _, _, _, _, _, _, _, _, _, _, _, _, _, hinv⟩ := hb
    exact hinv

/-! ## The end of a wait in `finish_wait` -/

/-- The state after `c` gave its record `r` back. -/
def waitFinished (s : State) (c : ThreadSlot) (r : RecordSlot) (o : ObjectSlot) : State :=
  { s with
    threads := Function.update s.threads c
      { s.threads c with waitRecord := none, blockedObject := 0, blockedResult := .failure }
    activeWaitCount := s.activeWaitCount - 1
    waitRecords := Function.update s.waitRecords r {}
    objects := Function.update s.objects o
      { s.objects o with internalRefs := (s.objects o).internalRefs - 1 } }

/-- What `finish_wait` does: nothing, the end of a wait that never blocked, or the end of a
wait that did. -/
theorem finishWait_cases (h : Inv s) (handle : Nat) :
    finishWait s handle = (.failure, s) ∨
    (∃ c, s.current = some c ∧ (s.threads c).waitRecord = none ∧
      (finishWait s handle).1 = (s.threads c).blockedResult ∧ Unseen s (finishWait s handle).2) ∨
    ∃ c r o, s.installed = true ∧ s.current = some c ∧ (s.threads c).waitRecord = some r ∧
      (s.waitRecords r).completed = true ∧ (s.waitRecords r).object = some o ∧
      finishWait s handle = ((s.threads c).blockedResult, waitFinished s c r o) := by
  unfold finishWait
  split
  · exact Or.inl rfl
  · rename_i hi
    simp only [Decidable.not_not] at hi
    cases hc : s.current with
    | none => exact Or.inl rfl
    | some c =>
      simp only
      split
      · exact Or.inl rfl
      · cases hr : (s.threads c).waitRecord with
        | none =>
          refine Or.inr (Or.inl ⟨c, rfl, hr, rfl, ?_⟩)
          simp only
          apply Unseen.modThread
          simp [Tcb.view, hr]
        | some r =>
          simp only
          split
          · exact Or.inl rfl
          · rename_i hacc
            simp only [Decidable.not_not] at hacc
            unfold finishAccepts at hacc
            simp only [Bool.and_eq_true, decide_eq_true_eq] at hacc
            obtain ⟨⟨⟨⟨⟨⟨hv, ha⟩, hcomp⟩, _⟩, _⟩, _⟩, _⟩ := hacc
            obtain ⟨o, e, ho, _, hst, _⟩ := h.objects.record r hv
            refine Or.inr (Or.inr ⟨c, r, o, hi, rfl, hr, hcomp, ho, ?_⟩)
            have hpin := (h.waits.active r hv).2
            have hcount : s.activeWaitCount ≠ 0 := by
              rw [h.waits.count, ne_eq, Finset.card_eq_zero, Finset.filter_eq_empty_iff]
              intro hnone
              exact hnone (Finset.mem_univ r) hv
            have hrefs := h.objects.refs o hst.1
            have hne : (s.objects o).internalRefs ≠ 0 := by omega
            simp [waitFinished, releaseWaitRecord, unpinWaitRecord, State.modThread,
              State.modRecord, State.modObject, hv, ha, hi, hcount, hpin, ho, hne]

theorem waitFinished_inv (h : Inv s) (hr : (s.threads c).waitRecord = some r)
    (hcomp : (s.waitRecords r).completed = true) (ho : (s.waitRecords r).object = some o) :
    Inv (waitFinished s c r o) := by
  obtain ⟨hcl, hv, hthread⟩ := h.waits.owner c r hr
  obtain ⟨p, e, hp, _, hst, _⟩ := h.objects.record r hv
  rw [ho] at hp
  cases hp
  have hnb : (s.threads c).state ≠ .blocked := (h.waits.result c r hr hcomp).1
  have hrecord : ∀ q, q ≠ r → (waitFinished s c r o).waitRecords q = s.waitRecords q := by
    intro q hq
    simp [waitFinished, hq]
  have hgone : (waitFinished s c r o).waitRecords r = {} := by simp [waitFinished]
  have hother : ∀ u, u ≠ c → (waitFinished s c r o).threads u = s.threads u := by
    intro u hu
    simp [waitFinished, hu]
  have hpend : ∀ q, Pending (waitFinished s c r o) q ↔ Pending s q := by
    intro q
    unfold Pending
    by_cases hq : q = r
    · subst hq
      simp [hgone, hcomp]
    · rw [hrecord q hq]
  have hpne : ∀ q, Pending s q → q ≠ r := by
    rintro q hq rfl
    have := hq.2
    rw [hcomp] at this
    cases this
  have hview : ∀ {β : Type} (g : Tcb → β), (∀ x : Tcb, g { x with
      waitRecord := none, blockedObject := 0, blockedResult := .failure } = g x) →
      ∀ u, g ((waitFinished s c r o).threads u) = g (s.threads u) := by
    intro β g hg u
    by_cases hu : u = c
    · subst hu
      simp only [waitFinished, Function.update_self]
      exact hg _
    · rw [hother u hu]
  refine ⟨⟨?_, ?_, ?_, ?_, ?_⟩, h.quiet⟩
  · exact h.queue.congr rfl rfl rfl (hview Tcb.queueView fun _ => rfl)
  · exact h.current.congr rfl rfl rfl rfl (fun u => Or.inl (hview Tcb.state (fun _ => rfl) u))
      fun u => Or.inl (hview Tcb.bootView (fun _ => rfl) u)
  · refine ⟨?_, ?_, ?_, ?_, ?_, ?_, ?_, ?_, ?_, ?_⟩
    · intro q hq
      by_cases hqr : q = r
      · rw [hqr, hgone]
      · rw [hrecord q hqr] at hq ⊢
        exact h.waits.blank q hq
    · intro q hq
      have hqr : q ≠ r := by
        rintro rfl
        rw [hgone] at hq
        cases hq
      rw [hrecord q hqr] at hq ⊢
      exact h.waits.active q hq
    · intro q hq
      rw [hpend] at hq
      obtain ⟨u, d, h1, h2, h3, h4, h5, h6, h7⟩ := h.waits.pending q hq
      have huc : u ≠ c := by
        rintro rfl
        exact hnb h5
      refine ⟨u, d, ?_⟩
      rw [hrecord q (hpne q hq), hother u huc]
      exact ⟨h1, h2, h3, h4, h5, h6, h7⟩
    · intro q hq
      by_cases hqr : q = r
      · rw [hqr, hgone]
      · rw [hrecord q hqr] at hq ⊢
        exact h.waits.unlinked q hq
    · intro d i q hq
      obtain ⟨hpq, h1, h2⟩ := h.waits.listed d i q hq
      rw [hpend, hrecord q (hpne q hpq)]
      exact ⟨hpq, h1, h2⟩
    · exact h.waits.lists
    · intro u hu hub
      have huc : u ≠ c := by
        rintro rfl
        rw [hview Tcb.state fun _ => rfl] at hub
        exact hnb hub
      rw [hother u huc] at hu hub ⊢
      obtain ⟨q, h1, h2⟩ := h.waits.blocked u hu hub
      exact ⟨q, h1, (hpend q).mpr h2⟩
    · intro u q huq
      have huc : u ≠ c := by
        rintro rfl
        simp [waitFinished] at huq
      rw [hother u huc] at huq ⊢
      have hown := h.waits.owner u q huq
      have hqr : q ≠ r := by
        rintro rfl
        rw [hthread] at hown
        exact huc (Option.some.inj hown.2.2).symm
      rw [hrecord q hqr]
      exact hown
    · intro u q huq hq
      have huc : u ≠ c := by
        rintro rfl
        simp [waitFinished] at huq
      rw [hother u huc] at huq ⊢
      have hqr : q ≠ r := by
        rintro rfl
        rw [hgone] at hq
        cases hq
      rw [hrecord q hqr] at hq ⊢
      exact h.waits.result u q huq hq
    · have hcard := card_filter_succ (a := r)
        (p := fun q => ((waitFinished s c r o).waitRecords q).valid = true)
        (q := fun q => (s.waitRecords q).valid = true)
        (by simp [hgone]) hv (fun q hq => by rw [hrecord q hq])
      have hcount := h.waits.count
      simp only [waitFinished] at hcard ⊢
      omega
  · refine h.objects.repin ?_ (hview Tcb.handleView fun _ => rfl) (fun _ => rfl) rfl rfl ?_ ?_
    · intro p
      by_cases hp : p = o
      · subst hp
        simp [waitFinished]
      · simp [waitFinished, hp]
    · intro q hq
      have hqr : q ≠ r := by
        rintro rfl
        rw [hgone] at hq
        cases hq
      rw [hrecord q hqr] at hq ⊢
      exact h.objects.record q hq
    · intro p hl
      have hpin : pins s p = pins (waitFinished s c r o) p + if p = o then 1 else 0 :=
        pins_insert (by rw [hgone]) ⟨hv, ho⟩ (fun q hq => by rw [hrecord q hq]) p
      have hrefs := h.objects.refs p hl
      rw [hpin] at hrefs
      by_cases hp : p = o
      · subst hp
        simp only [if_true] at hrefs
        simp only [waitFinished, Function.update_self] at hrefs ⊢
        omega
      · simp only [hp, if_false] at hrefs
        simp only [waitFinished, Function.update_of_ne hp] at hrefs ⊢
        omega
  · intro u hu
    rw [hview Tcb.live fun _ => rfl] at hu
    have huc : u ≠ c := by
      rintro rfl
      rw [hcl] at hu
      cases hu
    rw [hother u huc]
    exact h.blank u hu

end Gate4Harness.Scheduler
