-- The end of the objects of the scheduler: reclaim, discard, close, destruction
-- and teardown. A record leaves its slot together with its object.
import Gate4Harness.SchedulerLifecycle

namespace Gate4Harness.Scheduler

variable {s s' : State} {o : ObjectSlot} {t : ThreadSlot} {e : EventSlot}

/-! ## Reclaim -/

/-- The slots of a thread and of its object, given back. -/
def withoutThread (s : State) (t : ThreadSlot) : State :=
  (releaseObjectRecord s (s.threads t).objectSlot).modThread t fun _ => {}

theorem Unseen.releasing (h : Unseen s s') (o : ObjectSlot) (t : ThreadSlot) :
    Unseen ((releaseObjectRecord s o).modThread t fun _ => {})
      ((releaseObjectRecord s' o).modThread t fun _ => {}) := by
  refine ⟨h.installed, h.active, h.current, h.bootThread, h.runnableQueue, h.runnableCount,
    h.queueRefusals, h.waitRecords, h.events, h.activeWaitCount, ?_, h.notification,
    h.standardStream, ?_⟩
  · intro p
    by_cases hp : p = o
    · subst hp
      simp [releaseObjectRecord, Object.view]
    · simpa [releaseObjectRecord, hp] using h.objects p
  · intro u
    by_cases hu : u = t
    · subst hu
      simp
    · simpa [releaseObjectRecord, hu] using h.threads u

theorem reclaimThread_unseen (s : State) (t : ThreadSlot) :
    Unseen (withoutThread s t) (reclaimThread s t) := by
  unfold reclaimThread
  simp only
  generalize (s.threads t).stackPagesMemory = stack
  generalize (s.threads t).stackCanaryMemory = canary
  set o := (s.threads t).objectSlot with ho
  set s1 := s.modObject o fun object => { object with internalRefs := 0 } with hs1
  have heq : withoutThread s t = (releaseObjectRecord s1 o).modThread t fun _ => {} := by
    simp [withoutThread, releaseObjectRecord, hs1, ← ho, State.modObject, State.modThread]
  rw [heq]
  apply Unseen.releasing
  apply Unseen.trans _ (freeThreadEnvironment_unseen _ t)
  apply Unseen.thenThread
  · apply Unseen.trans _ (pageFree_unseen _ _)
    apply Unseen.thenThread
    · exact pageFree_unseen _ _
    · rfl
  · rfl

theorem maybeReclaimThread_cases (s : State) (t : ThreadSlot) (unregistered : Bool) :
    maybeReclaimThread s t unregistered = s ∨
    (reclaimable s t = true ∧
      Unseen (withoutThread s t) (maybeReclaimThread s t unregistered)) := by
  unfold maybeReclaimThread
  split
  · exact Or.inl rfl
  · rename_i hr
    simp only [Decidable.not_not] at hr
    split
    · split
      · exact Or.inl rfl
      · refine Or.inr ⟨hr, ?_⟩
        have heq : withoutThread s t =
            withoutThread (s.modThread t fun thread => { thread with stackVmIdentity := 0 }) t := by
          simp [withoutThread, releaseObjectRecord, State.modObject, State.modThread]
        rw [heq]
        exact reclaimThread_unseen _ t
    · exact Or.inr ⟨hr, reclaimThread_unseen s t⟩

/-- What the guard of a reclaim says of the thread. The boot thread has no stack of its
own, so it does not pass. -/
theorem reclaimable_facts (h : Core s) (hr : reclaimable s t = true) :
    (s.threads t).live = true ∧ s.current ≠ some t ∧ (s.threads t).state = .terminated ∧
    (s.threads t).runnableQueued = false ∧ s.installed = true ∧ t ≠ 0 := by
  unfold reclaimable at hr
  simp only [Bool.and_eq_true, decide_eq_true_eq, Bool.not_eq_true'] at hr
  obtain ⟨⟨⟨⟨⟨⟨⟨⟨hl, hc⟩, hs⟩, _⟩, _⟩, hq⟩, hcan⟩, _⟩, _⟩ := hr
  have hi := h.current.installed_of_live hl
  refine ⟨hl, hc, hs, hq, hi, ?_⟩
  rintro rfl
  obtain ⟨_, _, hb⟩ := h.current.boot hi
  have hstack := (h.current.boot_slot 0 hb).2
  simp [checkCanaries, hstack] at hcan

theorem withoutThread_inv (h : Inv s) (hr : reclaimable s t = true) : Inv (withoutThread s t) := by
  obtain ⟨hl, hc, hs, hq, hi, h0⟩ := reclaimable_facts h.toCore hr
  have hst := h.objects.thread t hl
  refine ⟨⟨?_, ?_, ?_, ?_, ?_⟩, h.quiet⟩
  · refine h.queue.congr rfl rfl rfl fun u => ?_
    by_cases hu : u = t
    · subst hu
      simp [withoutThread, Tcb.queueView, hs, hq]
    · simp [withoutThread, releaseObjectRecord, hu]
  · refine h.current.congr rfl rfl rfl rfl (fun u => ?_) (fun u => ?_)
    · by_cases hu : u = t
      · subst hu
        exact Or.inr ⟨hc, by simp [withoutThread]⟩
      · exact Or.inl (by simp [withoutThread, releaseObjectRecord, hu])
    · by_cases hu : u = t
      · subst hu
        exact Or.inr ⟨hi, hc, h0, by simp [withoutThread], by simp [withoutThread]⟩
      · exact Or.inl (by simp [withoutThread, releaseObjectRecord, hu])
  · refine h.waits.congr rfl (fun _ => ⟨rfl, rfl⟩) rfl fun u => ?_
    by_cases hu : u = t
    · subst hu
      exact Or.inr ⟨by simp [withoutThread, Tcb.waitView], by simp [Tcb.waitView, hs]⟩
    · exact Or.inl (by simp [withoutThread, releaseObjectRecord, hu])
  · refine h.objects.release (o := (s.threads t).objectSlot) (x := .thread t) ?_ hst.1 hst.2.2 ?_ ?_
      ?_
    · refine ⟨?_, ?_, fun _ _ => rfl, fun _ => rfl, h.objects.notification_quiet, fun _ => rfl,
        fun _ => rfl⟩
      · intro p hp
        simp [withoutThread, releaseObjectRecord, hp]
      · intro u hu
        have hne : u ≠ t := fun hut => hu (by rw [hut])
        simp [withoutThread, releaseObjectRecord, hne]
    · simp [withoutThread, releaseObjectRecord]
    · simp [slotOf, withoutThread]
    · intro r hv ho
      obtain ⟨p, e, hp, _, hpst, _⟩ := h.objects.record r hv
      rw [ho] at hp
      cases hp
      have := hst.2.1.symm.trans hpst.2.1
      cases this
  · intro u hu
    by_cases hut : u = t
    · subst hut
      simp [withoutThread]
    · simp only [withoutThread, State.modThread_threads, Function.update_of_ne hut,
        releaseObjectRecord, State.modObject_threads] at hu ⊢
      exact h.blank u hu

theorem maybeReclaimThread_inv (h : Inv s) (t : ThreadSlot) (unregistered : Bool) :
    Inv (maybeReclaimThread s t unregistered) := by
  rcases maybeReclaimThread_cases s t unregistered with heq | ⟨hr, hu⟩
  · rw [heq]
    exact h
  · exact (withoutThread_inv h hr).unseen hu

theorem tryReclaimThread_inv (h : Inv s) (t : Option ThreadSlot) (unregistered : Bool) :
    Inv (tryReclaimThread s t unregistered).2 := by
  unfold tryReclaimThread
  cases t with
  | none => exact h
  | some t =>
    simp only
    split
    · exact h
    · exact maybeReclaimThread_inv h t unregistered

/-- A fold over the threads keeps what one reclaim keeps. -/
theorem collect_induction {P : State → Prop} (unregistered : ThreadSlot → Bool)
    (hstep : ∀ s t, P s → P (maybeReclaimThread s t (unregistered t))) (h : P s)
    (scheduler : SchedulerPtr) : P (collect s scheduler unregistered).2 := by
  have hfold : ∀ (l : List ThreadSlot) (s : State), P s →
      P (l.foldl (fun s t => maybeReclaimThread s t (unregistered t)) s) := by
    intro l
    induction l with
    | nil => exact fun _ h => h
    | cons t rest ih => exact fun s h => ih _ (hstep s t h)
  unfold collect
  split
  · exact h
  · exact hfold _ s h

theorem collect_inv (h : Inv s) (scheduler : SchedulerPtr) (unregistered : ThreadSlot → Bool) :
    Inv (collect s scheduler unregistered).2 := by
  apply collect_induction (P := Inv) unregistered _ h scheduler
  intro s t h
  exact maybeReclaimThread_inv h t _

/-! ## Discard -/

/-- A thread that can be discarded, terminated and out of the queue. -/
def withdrawn (s : State) (t : ThreadSlot) : State :=
  (if (s.threads t).runnableQueued then (removeRunnable s t).2 else s).modThread t fun thread =>
    { thread with state := .terminated, executionRefs := 0 }

theorem discardable_facts (h : Core s) (hd : discardable s t = true) :
    (s.threads t).live = true ∧ s.installed = true ∧ s.current ≠ some t ∧
    ((s.threads t).state = .createdSuspended ∨ (s.threads t).state = .runnable) := by
  unfold discardable at hd
  simp only [Bool.and_eq_true, Bool.or_eq_true, decide_eq_true_eq] at hd
  obtain ⟨⟨hl, hs⟩, _⟩ := hd
  have hi := h.current.installed_of_live hl
  refine ⟨hl, hi, ?_, hs⟩
  intro hc
  obtain ⟨c, hcur, _, hcs⟩ := h.current.current hi
  rw [hc] at hcur
  cases hcur
  rcases hs with hs | hs <;> rw [hs] at hcs <;> simp at hcs

theorem QueueInv.queued_iff (h : QueueInv s) (t : ThreadSlot) :
    (s.threads t).runnableQueued = true ↔
      (s.threads t).live = true ∧ (s.threads t).state = .runnable := by
  obtain ⟨l, hl⟩ := h
  rw [hl.flag, hl.mem_iff t (by simp)]

/-- The state and the queue after a discarded thread was taken out. -/
theorem withdrawn_spec (h : Core s) (hd : discardable s t = true) :
    ∃ q n, withdrawn s t = ({ s with runnableQueue := q, runnableCount := n }.modThread t
        fun thread => { thread with runnableQueued := false, state := .terminated,
                                    executionRefs := 0 }) ∧
      QueueInv (withdrawn s t) ∧
      (if (s.threads t).runnableQueued then (removeRunnable s t).1 else true) = true := by
  obtain ⟨hl, hi, _, hs⟩ := discardable_facts h hd
  obtain ⟨l, hql⟩ := h.queue
  unfold withdrawn
  by_cases hq : (s.threads t).runnableQueued = true
  · obtain ⟨q, hq1, heq⟩ := removeRunnable_spec hql hi ((hql.flag t).mp hq)
    refine ⟨q, s.runnableCount - 1, ?_, ?_, ?_⟩
    · simp [hq, heq, State.modThread]
    · refine ⟨l.erase t, ?_⟩
      have := hql.takenOut (c := s.current) ((hql.flag t).mp hq) hq1
        (f := fun thread => { thread with runnableQueued := false, state := .terminated,
                                          executionRefs := 0 }) rfl (by simp)
      simpa [hq, heq, State.modThread] using this
    · simp [hq, heq]
  · have hq' : (s.threads t).runnableQueued = false := by simpa using hq
    have htl : t ∉ l := fun hm => hq ((hql.flag t).mpr hm)
    refine ⟨s.runnableQueue, s.runnableCount, ?_, ?_, by simp [hq']⟩
    · simp [hq', State.modThread]
    · refine ⟨l, ?_⟩
      rw [if_neg hq]
      apply QueueUpTo.settle (t := t)
      · exact (hql.setAside htl).modThread rfl
      · simp

theorem withdrawn_inv (h : Inv s) (hd : discardable s t = true) : Inv (withdrawn s t) := by
  obtain ⟨hl, hi, hc, hs⟩ := discardable_facts h.toCore hd
  obtain ⟨q, n, heq, hq, _⟩ := withdrawn_spec h.toCore hd
  rw [heq] at hq ⊢
  refine ⟨⟨hq, ?_, ?_, ?_, ?_⟩, h.quiet⟩
  · refine h.current.congr rfl rfl rfl rfl (fun u => ?_) (fun u => Or.inl ?_)
    · by_cases hu : u = t
      · subst hu
        exact Or.inr ⟨hc, by simp⟩
      · exact Or.inl (by simp [hu])
    · exact view_modThread Tcb.bootView _ t (by rfl) u
  · refine h.waits.congr rfl (fun _ => ⟨rfl, rfl⟩) rfl fun u => Or.inl ?_
    apply view_modThread Tcb.waitView
    rcases hs with hs | hs <;> simp [Tcb.waitView, hs]
  · refine h.objects.congr (fun _ => rfl) rfl rfl ?_ (fun _ => rfl) fun _ => rfl
    exact view_modThread Tcb.handleView _ t (by rfl)
  · intro u hu
    have hne : u ≠ t := by
      rintro rfl
      simp [hl] at hu
    simp only [State.modThread_threads, Function.update_of_ne hne] at hu ⊢
    exact h.blank u hu

theorem discardCreatedThread_cases (h : Core s) (t : Option ThreadSlot) (unregistered : Bool) :
    discardCreatedThread s t unregistered = (false, s) ∨
    ∃ u, t = some u ∧ discardable s u = true ∧
      (discardCreatedThread s t unregistered).2 =
        maybeReclaimThread (withdrawn s u) u unregistered := by
  unfold discardCreatedThread
  cases t with
  | none => exact Or.inl rfl
  | some u =>
    simp only
    by_cases hd : discardable s u = true
    · obtain ⟨_, _, _, _, hremoved⟩ := withdrawn_spec h hd
      refine Or.inr ⟨u, rfl, hd, ?_⟩
      rw [if_neg (by simp [hd])]
      unfold withdrawn
      by_cases hq : (s.threads u).runnableQueued = true
      · simp only [hq, if_true] at hremoved ⊢
        simp [hremoved]
      · simp [hq]
    · rw [if_pos (by simpa using hd)]
      exact Or.inl rfl

theorem discardCreatedThread_inv (h : Inv s) (t : Option ThreadSlot) (unregistered : Bool) :
    Inv (discardCreatedThread s t unregistered).2 := by
  rcases discardCreatedThread_cases h.toCore t unregistered with heq | ⟨u, _, hd, heq⟩
  · rw [heq]
    exact h
  · rw [heq]
    exact maybeReclaimThread_inv (withdrawn_inv h hd) u unregistered

/-! ## Close -/

/-- An object with one public handle less. -/
def closedObject (s : State) (o : ObjectSlot) : State :=
  s.modObject o fun object =>
    { object with publicHandleRefs := object.publicHandleRefs - 1, closeState := true }

/-- A thread and its object with one public handle less. -/
def closedThread (s : State) (o : ObjectSlot) (t : ThreadSlot) : State :=
  (closedObject s o).modThread t fun thread =>
    { thread with publicHandleRefs := thread.publicHandleRefs - 1 }

theorem closeHandle_cases (h : ObjectInv s) (handle : Nat) (unregistered : Bool) :
    closeHandle s handle unregistered = (false, s) ∨
    (∃ o e, StandsFor s o .event (.event e) ∧
      closeHandle s handle unregistered = (true, closedObject s o)) ∨
    ∃ o t, handleType handle = some .thread ∧ StandsFor s o .thread (.thread t) ∧
      closeHandle s handle unregistered =
        (true, maybeReclaimThread (closedThread s o t) t unregistered) := by
  unfold closeHandle
  cases htype : handleType handle with
  | none => exact Or.inl rfl
  | some type =>
    cases type with
    | thread =>
      simp only
      cases ho : lookupObject s handle .thread with
      | none => exact Or.inl rfl
      | some o =>
        simp only
        split
        · exact Or.inl rfl
        · rename_i hrefs
          obtain ⟨_, hl, htype, _⟩ := lookupObject_eq_some ho
          have hfit := h.target o hl
          unfold TargetFits at hfit
          rw [htype] at hfit
          obtain ⟨t, ht, _, _, _, hsame⟩ := hfit
          refine Or.inr (Or.inr ⟨o, t, trivial, ⟨hl, htype, ht⟩, ?_⟩)
          have hne : (s.threads t).publicHandleRefs ≠ 0 := by
            rw [hsame]
            exact hrefs
          simp [targetThread, ht, hne, closedThread, closedObject]
    | event =>
      simp only
      cases ho : lookupObject s handle .event with
      | none => exact Or.inl rfl
      | some o =>
        simp only
        split
        · exact Or.inl rfl
        · obtain ⟨_, hl, htype, _⟩ := lookupObject_eq_some ho
          have hfit := h.target o hl
          unfold TargetFits at hfit
          rw [htype] at hfit
          obtain ⟨e, he, _⟩ := hfit
          exact Or.inr (Or.inl ⟨o, e, ⟨hl, htype, he⟩, rfl⟩)
    | _ => exact Or.inl rfl

/-- The public handles of an object and of its thread may fall together. -/
theorem ObjectInv.close (h : ObjectInv s) (ho : (s.objects o).live = true) {k : Nat} {c : Bool}
    (hk : k ≤ 1)
    (hobj : s'.objects =
      Function.update s.objects o { s.objects o with publicHandleRefs := k, closeState := c })
    (hthreads : ∀ t, (s'.threads t).live = (s.threads t).live ∧
      (s'.threads t).objectSlot = (s.threads t).objectSlot ∧
      (s'.threads t).generation = (s.threads t).generation ∧
      (s'.threads t).publicHandleRefs =
        if (s.objects o).target = some (.thread t) then k else (s.threads t).publicHandleRefs)
    (hevents : s'.events = s.events) (hnotif : s'.notification = s.notification)
    (hstream : s'.standardStream = s.standardStream) (hrec : s'.waitRecords = s.waitRecords) :
    ObjectInv s' := by
  have hkeep : ∀ p, (s'.objects p).live = (s.objects p).live ∧
      (s'.objects p).type = (s.objects p).type ∧ (s'.objects p).target = (s.objects p).target ∧
      (s'.objects p).generation = (s.objects p).generation ∧
      (s'.objects p).slot = (s.objects p).slot ∧
      (s'.objects p).internalRefs = (s.objects p).internalRefs := by
    intro p
    rw [hobj]
    by_cases hp : p = o
    · subst hp
      simp
    · simp [hp]
  have hst : ∀ p type y, StandsFor s' p type y ↔ StandsFor s p type y := by
    intro p type y
    unfold StandsFor
    rw [(hkeep p).1, (hkeep p).2.1, (hkeep p).2.2.1]
  have hpins : ∀ p, pins s' p = pins s p := pins_congr fun r => by rw [hrec]
  refine ⟨?_, ?_, ?_, ?_, ?_, ?_, ?_, ?_, ?_⟩
  · intro p hl
    rw [(hkeep p).1] at hl
    rw [(hkeep p).2.2.2.2.1, (hkeep p).2.2.2.1]
    refine ⟨(h.slot p hl).1, (h.slot p hl).2.1, ?_⟩
    rw [hobj]
    by_cases hp : p = o
    · subst hp
      simpa using hk
    · simpa [hp] using (h.slot p hl).2.2
  · intro p hl
    rw [(hkeep p).1] at hl
    have hfit := h.target p hl
    unfold TargetFits at hfit ⊢
    rw [(hkeep p).2.1, (hkeep p).2.2.1, (hkeep p).2.2.2.1, hevents, hnotif, hstream]
    cases htype : (s.objects p).type with
    | thread =>
      simp only [htype] at hfit ⊢
      obtain ⟨t, h1, h2, h3, h4, h5⟩ := hfit
      obtain ⟨ht1, ht2, ht3, ht4⟩ := hthreads t
      refine ⟨t, h1, by rw [ht1]; exact h2, by rw [ht2]; exact h3, by rw [ht3]; exact h4, ?_⟩
      rw [ht4, hobj]
      by_cases hp : p = o
      · subst hp
        simp [h1]
      · have hne : (s.objects o).target ≠ some (.thread t) := by
          intro hot
          obtain ⟨y, hy, hys⟩ := (h.target o ho).slotOf
          rw [hot] at hy
          cases hy
          simp only [slotOf, h2, if_true, Option.some.injEq] at hys
          exact hp (h3.symm.trans hys)
        simpa [hp, hne] using h5
    | free => simp only [htype] at hfit
    | event => simpa only [htype] using hfit
    | memoryResourceNotification => simpa only [htype] using hfit
    | standardStream => simpa only [htype] using hfit
  · intro t hl
    rw [(hthreads t).1] at hl
    rw [(hthreads t).2.1, hst]
    exact h.thread t hl
  · rw [hevents]
    intro e hl
    rw [hst]
    exact h.event e hl
  · rw [hnotif, hst]
    exact h.notification
  · rw [hnotif]
    exact h.notification_quiet
  · rw [hstream, hst]
    exact h.stream
  · rw [hrec]
    intro r hv
    obtain ⟨p, e, h1, h2, h3, h4, h5⟩ := h.record r hv
    exact ⟨p, e, h1, h2, (hst _ _ _).mpr h3, h4, by rw [(hkeep p).2.2.2.1]; exact h5⟩
  · intro p hl
    rw [(hkeep p).1] at hl
    rw [(hkeep p).2.2.2.2.2, hpins]
    exact h.refs p hl

theorem closedObject_inv (h : Inv s) {e : EventSlot} (ho : StandsFor s o .event (.event e)) :
    Inv (closedObject s o) := by
  refine ⟨⟨h.queue.congr rfl rfl rfl fun _ => rfl,
    h.current.congr rfl rfl rfl rfl (fun _ => Or.inl rfl) fun _ => Or.inl rfl,
    h.waits.congr rfl (fun _ => ⟨rfl, rfl⟩) rfl fun _ => Or.inl rfl, ?_, h.blank⟩, h.quiet⟩
  have hle := (h.objects.slot o ho.1).2.2
  refine h.objects.close (o := o) (k := (s.objects o).publicHandleRefs - 1) (c := true) ho.1
    (by omega) rfl ?_ rfl rfl rfl rfl
  intro t
  simp [closedObject, ho.2.2]

theorem closedThread_inv (h : Inv s) (ho : StandsFor s o .thread (.thread t)) :
    Inv (closedThread s o t) := by
  have hle := (h.objects.slot o ho.1).2.2
  have hfit := h.objects.target o ho.1
  unfold TargetFits at hfit
  rw [ho.2.1] at hfit
  obtain ⟨u, hu, hlive, _, _, hsame⟩ := hfit
  rw [ho.2.2] at hu
  cases hu
  refine ⟨⟨?_, ?_, ?_, ?_, ?_⟩, h.quiet⟩
  · exact h.queue.congr rfl rfl rfl (view_modThread Tcb.queueView (closedObject s o) t (by rfl))
  · exact h.current.congr rfl rfl rfl rfl
      (fun u => Or.inl (view_modThread Tcb.state (closedObject s o) t (by rfl) u))
      fun u => Or.inl (view_modThread Tcb.bootView (closedObject s o) t (by rfl) u)
  · exact h.waits.congr rfl (fun _ => ⟨rfl, rfl⟩) rfl
      fun u => Or.inl (view_modThread Tcb.waitView (closedObject s o) t (by rfl) u)
  · refine h.objects.close (o := o) (k := (s.objects o).publicHandleRefs - 1) (c := true) ho.1
      (by omega) rfl ?_ rfl rfl rfl rfl
    intro u
    by_cases hu : u = t
    · subst hu
      simp [closedThread, closedObject, ho.2.2, hsame]
    · have hne : Target.thread t ≠ .thread u := fun he => hu (by cases he; rfl)
      simp [closedThread, closedObject, hu, ho.2.2, hne]
  · intro u hu
    have hne : u ≠ t := by
      rintro rfl
      simp [closedThread, closedObject, hlive] at hu
    simp only [closedThread, closedObject, State.modThread_threads, Function.update_of_ne hne,
      State.modObject_threads] at hu ⊢
    exact h.blank u hu

theorem closeHandle_inv (h : Inv s) (handle : Nat) (unregistered : Bool) :
    Inv (closeHandle s handle unregistered).2 := by
  rcases closeHandle_cases h.objects handle unregistered with
    heq | ⟨o, e, ho, heq⟩ | ⟨o, t, _, ho, heq⟩
  · rw [heq]
    exact h
  · rw [heq]
    exact closedObject_inv h ho
  · rw [heq]
    exact maybeReclaimThread_inv (closedThread_inv h ho) t unregistered

/-! ## Destruction -/

/-- The slots of an event and of its object, given back. -/
def withoutEvent (s : State) (e : EventSlot) (o : ObjectSlot) : State :=
  releaseObjectRecord (s.modEvent e fun event => { event with live := false }) o

/-- A pinned object has a second internal reference. -/
theorem ObjectInv.unpinned (h : ObjectInv s) (ho : (s.objects o).live = true)
    (hle : (s.objects o).internalRefs ≤ 1) (r : RecordSlot)
    (hv : (s.waitRecords r).valid = true) : (s.waitRecords r).object ≠ some o := by
  intro hr
  have hrefs := h.refs o ho
  have hpin : 0 < pins s o := by
    unfold pins
    rw [Finset.card_pos]
    exact ⟨r, by simp [hv, hr]⟩
  omega

theorem tryDestroyEvent_cases (s : State) (handle : Nat) :
    tryDestroyEvent s handle = (false, s) ∨
    ∃ o e, StandsFor s o .event (.event e) ∧ (s.events e).waiterCount = 0 ∧
      (s.objects o).publicHandleRefs = 0 ∧ (s.objects o).internalRefs ≤ 1 ∧
      tryDestroyEvent s handle = (true, withoutEvent s e o) := by
  unfold tryDestroyEvent
  cases ho : lookupObject s handle .event with
  | none => exact Or.inl rfl
  | some o =>
    obtain ⟨_, hl, htype, _⟩ := lookupObject_eq_some ho
    simp only
    cases he : targetEvent s o with
    | none => exact Or.inl rfl
    | some e =>
      simp only
      split
      · exact Or.inl rfl
      · rename_i hg
        simp only [not_or, Decidable.not_not, Nat.not_lt] at hg
        refine Or.inr ⟨o, e, ⟨hl, htype, ?_⟩, hg.1, hg.2.1, hg.2.2, rfl⟩
        unfold targetEvent at he
        split at he
        · rename_i htarget
          cases he
          exact htarget
        · cases he

theorem withoutEvent_inv (h : Inv s) (ho : StandsFor s o .event (.event e))
    (hle : (s.objects o).internalRefs ≤ 1) : Inv (withoutEvent s e o) := by
  refine ⟨⟨h.queue.congr rfl rfl rfl fun _ => rfl,
    h.current.congr rfl rfl rfl rfl (fun _ => Or.inl rfl) fun _ => Or.inl rfl, ?_, ?_, h.blank⟩, ?_⟩
  · refine h.waits.congr rfl (fun d => ?_) rfl fun _ => Or.inl rfl
    by_cases hd : d = e
    · subst hd
      simp [withoutEvent, releaseObjectRecord]
    · simp [withoutEvent, releaseObjectRecord, hd]
  · refine h.objects.release (o := o) (x := .event e) ?_ ho.1 ho.2.2 ?_ ?_
      (h.objects.unpinned ho.1 hle)
    · refine ⟨?_, fun _ _ => rfl, ?_, fun _ => rfl, h.objects.notification_quiet, fun _ => rfl,
        fun _ => rfl⟩
      · intro p hp
        simp [withoutEvent, releaseObjectRecord, hp]
      · intro d hd
        have hne : d ≠ e := fun hde => hd (by rw [hde])
        simp [withoutEvent, releaseObjectRecord, hne]
    · simp [withoutEvent, releaseObjectRecord]
    · simp [slotOf, withoutEvent, releaseObjectRecord]
  · intro d hdl hds
    have hne : d ≠ e := by
      rintro rfl
      simp [withoutEvent, releaseObjectRecord] at hdl
    simp only [withoutEvent, releaseObjectRecord, State.modObject_events, State.modEvent_events,
      Function.update_of_ne hne] at hdl hds ⊢
    exact h.quiet d hdl hds

theorem tryDestroyEvent_inv (h : Inv s) (handle : Nat) : Inv (tryDestroyEvent s handle).2 := by
  rcases tryDestroyEvent_cases s handle with heq | ⟨o, e, ho, _, _, hle, heq⟩
  · rw [heq]
    exact h
  · rw [heq]
    exact withoutEvent_inv h ho hle

theorem tryDestroyMemoryResourceNotification_inv (h : Inv s) (handle : Nat) :
    Inv (tryDestroyMemoryResourceNotification s handle).2 := by
  unfold tryDestroyMemoryResourceNotification
  cases ho : lookupObject s handle .memoryResourceNotification with
  | none => exact h
  | some o =>
    obtain ⟨_, hl, htype, _⟩ := lookupObject_eq_some ho
    simp only
    split
    · exact h
    · rename_i hg
      simp only [not_or, Decidable.not_not] at hg
      refine ⟨⟨h.queue.congr rfl rfl rfl fun _ => rfl,
        h.current.congr rfl rfl rfl rfl (fun _ => Or.inl rfl) fun _ => Or.inl rfl,
        h.waits.congr rfl (fun _ => ⟨rfl, rfl⟩) rfl fun _ => Or.inl rfl, ?_, h.blank⟩, h.quiet⟩
      refine h.objects.release (o := o) (x := .notification) ?_ hl hg.1 ?_ ?_ ?_
      · refine ⟨?_, fun _ _ => rfl, fun _ _ => rfl, fun hn => absurd rfl hn,
          h.objects.notification_quiet, fun _ => rfl, fun _ => rfl⟩
        intro p hp
        simp [releaseObjectRecord, hp]
      · simp [releaseObjectRecord]
      · simp [slotOf, releaseObjectRecord]
      · intro r hv hr
        obtain ⟨p, e, hp, _, hst, _⟩ := h.objects.record r hv
        rw [hr] at hp
        cases hp
        have := htype.symm.trans hst.2.1
        cases this

/-! ## Teardown -/

theorem releaseStream_inv (h : Inv s) : Inv (releaseStream s) := by
  unfold releaseStream
  split
  · rename_i hl
    have hst := h.objects.stream hl
    refine ⟨⟨h.queue.congr rfl rfl rfl fun _ => rfl,
      h.current.congr rfl rfl rfl rfl (fun _ => Or.inl rfl) fun _ => Or.inl rfl,
      h.waits.congr rfl (fun _ => ⟨rfl, rfl⟩) rfl fun _ => Or.inl rfl, ?_, h.blank⟩, h.quiet⟩
    refine h.objects.release (o := s.standardStream.objectSlot) (x := .stream) ?_ hst.1 hst.2.2 ?_
      ?_ ?_
    · refine ⟨?_, fun _ _ => rfl, fun _ _ => rfl, fun _ => rfl, h.objects.notification_quiet,
        fun hn => absurd rfl hn, fun _ => rfl⟩
      intro p hp
      simp [releaseObjectRecord, hp]
    · simp [releaseObjectRecord]
    · simp [slotOf]
    · intro r hv hr
      obtain ⟨p, e, hp, _, hpst, _⟩ := h.objects.record r hv
      rw [hr] at hp
      cases hp
      have := hst.2.1.symm.trans hpst.2.1
      cases this
  · exact h

theorem collect_keeps (s : State) (scheduler : SchedulerPtr) (unregistered : ThreadSlot → Bool) :
    (collect s scheduler unregistered).2.current = s.current ∧
    (collect s scheduler unregistered).2.installed = s.installed := by
  apply collect_induction (P := fun s' => s'.current = s.current ∧ s'.installed = s.installed)
  · intro s' t h
    rcases maybeReclaimThread_cases s' t (unregistered t) with heq | ⟨_, hu⟩
    · rw [heq]
      exact h
    · rw [hu.current, hu.installed]
      exact h
  · exact ⟨rfl, rfl⟩

/-- The state that a successful teardown leaves. -/
def tornDown (s : State) (boot : ThreadSlot) : State :=
  { (releaseObjectRecord s (s.threads boot).objectSlot).modThread boot fun _ => {} with
    current := none, bootThread := none, active := false, installed := false }.modMachine fun m =>
      { m with gsBase := s.config.savedBootGsBase, flags := s.config.savedBootFlags }

theorem tornDown_inv (h : Inv s) (hi : s.installed = true) (hc : s.current = some 0)
    (hevents : ∀ e, (s.events e).live = false)
    (hthreads : ∀ t, t ≠ 0 → (s.threads t).live = false) : Inv (tornDown s 0) := by
  obtain ⟨c, hcur, hl, hs⟩ := h.current.current hi
  rw [hc] at hcur
  cases hcur
  have hst := h.objects.thread 0 hl
  have hlive : ∀ t, ((tornDown s 0).threads t).live = false := by
    intro t
    by_cases ht : t = 0
    · subst ht
      simp [tornDown]
    · simpa [tornDown, releaseObjectRecord, ht] using hthreads t ht
  refine ⟨⟨?_, ⟨rfl, ?_, ?_, ?_, ?_, ?_⟩, ?_, ?_, ?_⟩, ?_⟩
  · refine h.queue.congr rfl rfl rfl fun t => ?_
    by_cases ht : t = 0
    · subst ht
      have hq : (s.threads 0).runnableQueued = false := by
        rw [Bool.eq_false_iff, ne_eq, h.queue.queued_iff]
        rintro ⟨_, hr⟩
        rw [hr] at hs
        simp at hs
      rcases hs with hs | hs <;> simp [tornDown, Tcb.queueView, hs, hq]
    · simp [tornDown, releaseObjectRecord, ht]
  · simp [tornDown]
  · intro t hb
    by_cases ht : t = 0
    · subst ht
      simp [tornDown] at hb
    · simp only [tornDown, releaseObjectRecord, State.modThread_threads, State.modObject_threads,
        State.modMachine_threads, Function.update_of_ne ht] at hb ⊢
      exact h.current.boot_slot t hb
  · simp [tornDown]
  · intro t ht
    rw [hlive t] at ht
    cases ht
  · intro _ t
    exact hlive t
  · refine h.waits.congr rfl (fun _ => ⟨rfl, rfl⟩) rfl fun t => ?_
    by_cases ht : t = 0
    · subst ht
      refine Or.inr ⟨by simp [tornDown, Tcb.waitView], ?_⟩
      rcases hs with hs | hs <;> simp [Tcb.waitView, hs]
    · exact Or.inl (by simp [tornDown, releaseObjectRecord, ht])
  · refine h.objects.release (o := (s.threads 0).objectSlot) (x := .thread 0) ?_ hst.1 hst.2.2 ?_ ?_
      ?_
    · refine ⟨?_, ?_, fun _ _ => rfl, fun _ => rfl, h.objects.notification_quiet, fun _ => rfl,
        fun _ => rfl⟩
      · intro p hp
        simp [tornDown, releaseObjectRecord, hp]
      · intro t ht
        have hne : t ≠ 0 := fun h0 => ht (by rw [h0])
        simp [tornDown, releaseObjectRecord, hne]
    · simp [tornDown, releaseObjectRecord]
    · simp [slotOf, tornDown]
    · intro r hv hr
      obtain ⟨p, e, hp, _, hpst, _⟩ := h.objects.record r hv
      rw [hr] at hp
      cases hp
      have := hst.2.1.symm.trans hpst.2.1
      cases this
  · intro t ht
    by_cases ht0 : t = 0
    · subst ht0
      simp [tornDown]
    · simp only [tornDown, releaseObjectRecord, State.modThread_threads, State.modObject_threads,
        State.modMachine_threads, Function.update_of_ne ht0] at ht ⊢
      exact h.blank t ht
  · intro e he
    have : (s.events e).live = true := he
    rw [hevents e] at this
    cases this

theorem teardown_cases (h : Inv s) (scheduler : SchedulerPtr) (unregistered : ThreadSlot → Bool) :
    teardown s scheduler unregistered = (false, s) ∨
    teardown s scheduler unregistered = (false, (collect s scheduler unregistered).2) ∨
    (s.installed = true ∧ s.current = some 0 ∧
      onlyBootLive (collect s scheduler unregistered).2 = true ∧
      teardown s scheduler unregistered = (true, tornDown
        (freeThreadEnvironment (releaseStream (collect s scheduler unregistered).2) 0) 0)) := by
  unfold teardown
  split
  · exact Or.inl rfl
  · rename_i hg
    simp only [not_or, Decidable.not_not] at hg
    obtain ⟨hacc, _, hcur⟩ := hg
    have hi : s.installed = true := by
      unfold State.accepts at hacc
      simp only [Bool.and_eq_true] at hacc
      exact hacc.2
    have hboot := (h.current.boot hi).1
    rw [hboot]
    simp only
    split
    · exact Or.inl rfl
    · split
      · exact Or.inr (Or.inl rfl)
      · rename_i hlive
        split
        · exact Or.inr (Or.inl rfl)
        · refine Or.inr (Or.inr ⟨hi, hcur.trans hboot, by simpa using hlive, ?_⟩)
          have hslot : ((freeThreadEnvironment (releaseStream
              (collect s scheduler unregistered).2) 0).threads 0).objectSlot =
              ((collect s scheduler unregistered).2.threads 0).objectSlot := by
            have hv := (freeThreadEnvironment_unseen
              (releaseStream (collect s scheduler unregistered).2) 0).threads 0
            simp only [Tcb.view, Prod.mk.injEq] at hv
            rw [hv.2.2.2.1]
            unfold releaseStream
            split <;> rfl
          unfold tornDown
          rw [hslot]
          rfl

theorem releaseStream_keeps (s : State) :
    (releaseStream s).installed = s.installed ∧ (releaseStream s).current = s.current ∧
    (releaseStream s).events = s.events ∧ (releaseStream s).threads = s.threads := by
  unfold releaseStream
  split <;> exact ⟨rfl, rfl, rfl, rfl⟩

theorem onlyBootLive_iff (s : State) : onlyBootLive s = true ↔
    (∀ e, (s.events e).live = false) ∧ s.notification.live = false ∧
    ∀ t, t ≠ 0 → (s.threads t).live = false := by
  unfold onlyBootLive
  simp only [Bool.and_eq_true, List.all_eq_true, List.mem_finRange, true_implies, Bool.or_eq_true,
    decide_eq_true_eq, Bool.not_eq_true', and_assoc]
  constructor
  · rintro ⟨h1, h2, h3⟩
    exact ⟨h1, h2, fun t ht => (h3 t).resolve_left ht⟩
  · rintro ⟨h1, h2, h3⟩
    exact ⟨h1, h2, fun t => or_iff_not_imp_left.mpr (h3 t)⟩

theorem teardown_inv (h : Inv s) (scheduler : SchedulerPtr) (unregistered : ThreadSlot → Bool) :
    Inv (teardown s scheduler unregistered).2 := by
  have hcollect := collect_inv h scheduler unregistered
  rcases teardown_cases h scheduler unregistered with heq | heq | ⟨hi, hc, hlive, heq⟩
  · rw [heq]
    exact h
  · rw [heq]
    exact hcollect
  · rw [heq]
    obtain ⟨hkc, hki⟩ := collect_keeps s scheduler unregistered
    obtain ⟨hr1, hr2, hr3, hr4⟩ := releaseStream_keeps (collect s scheduler unregistered).2
    have hu := freeThreadEnvironment_unseen (releaseStream (collect s scheduler unregistered).2) 0
    have hs2 := (releaseStream_inv hcollect).unseen hu
    obtain ⟨hevents, _, hthreads⟩ := (onlyBootLive_iff _).mp hlive
    apply tornDown_inv hs2
    · rw [hu.installed, hr1, hki]
      exact hi
    · rw [hu.current, hr2, hkc]
      exact hc
    · intro e
      rw [(Waitable.view_eq (hu.events e)).2.2.1, hr3]
      exact hevents e
    · intro t ht
      have hv := hu.threads t
      simp only [Tcb.view, Prod.mk.injEq] at hv
      rw [hv.1.1, hr4]
      exact hthreads t ht

end Gate4Harness.Scheduler
