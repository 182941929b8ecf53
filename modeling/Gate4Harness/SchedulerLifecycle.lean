-- Creation of the objects of the scheduler. Every operation here either fails
-- and leaves nothing that the invariant reads, or it makes one object and its
-- record.
import Gate4Harness.SchedulerObjects

namespace Gate4Harness.Scheduler

variable {s s' : State} {o : ObjectSlot} {t : ThreadSlot} {e : EventSlot}

/-! ## Changes outside the invariant -/

theorem Unseen.modEvent (s : State) (e : EventSlot) {f : Waitable → Waitable}
    (h : (f (s.events e)).view = (s.events e).view) : Unseen s (s.modEvent e f) :=
  ⟨rfl, rfl, rfl, rfl, rfl, rfl, rfl, rfl, view_modEvent Waitable.view s e h, rfl, fun _ => rfl,
    rfl, rfl, fun _ => rfl⟩

theorem Unseen.thenThread (h : Unseen s s') (t : ThreadSlot) {f : Tcb → Tcb}
    (hf : (f (s'.threads t)).view = (s'.threads t).view) : Unseen s (s'.modThread t f) :=
  h.trans (Unseen.modThread s' t hf)

theorem Unseen.thenMachine (h : Unseen s s') (f : Machine → Machine) :
    Unseen s (s'.modMachine f) :=
  h.trans (Unseen.modMachine s' f)

theorem pageAllocate_unseen (s : State) (a : PageAnswer) : Unseen s (pageAllocate s a).2 := by
  unfold pageAllocate
  split
  · simp only
    exact Unseen.modMachine s _
  · exact Unseen.refl s

theorem pageFree_unseen (s : State) (memory : Nat) : Unseen s (pageFree s memory) := by
  unfold pageFree
  split
  · exact Unseen.modMachine s _
  · exact Unseen.refl s

theorem freeEnvironmentPages_unseen (s : State) (a b c d : Nat) :
    Unseen s (freeEnvironmentPages s a b c d) := by
  unfold freeEnvironmentPages
  exact (((pageFree_unseen _ _).trans (pageFree_unseen _ _)).trans (pageFree_unseen _ _)).trans
    (pageFree_unseen _ _)

theorem setCanaries_unseen (s : State) (t : ThreadSlot) : Unseen s (setCanaries s t) := by
  unfold setCanaries
  exact (Unseen.modThread s t rfl).thenMachine _

theorem writeEnvironment_unseen (s : State) (t : ThreadSlot) (a b c d : Nat) :
    Unseen s (writeEnvironment s t a b c d) := by
  unfold writeEnvironment
  exact Unseen.modMachine s _

theorem allocateThreadEnvironment_unseen (s : State) (t : ThreadSlot) (a : EnvironmentAnswers) :
    Unseen s (allocateThreadEnvironment s t a).2 := by
  unfold allocateThreadEnvironment
  split
  · exact Unseen.refl s
  · have hpages : Unseen s (environmentPages s a).2 := by
      unfold environmentPages
      exact (((pageAllocate_unseen _ _).trans (pageAllocate_unseen _ _)).trans
        (pageAllocate_unseen _ _)).trans (pageAllocate_unseen _ _)
    generalize environmentPages s a = pages at hpages ⊢
    obtain ⟨⟨gsArea, vector, block, teb⟩, s1⟩ := pages
    simp only at hpages ⊢
    split
    · exact hpages.trans (freeEnvironmentPages_unseen _ _ _ _ _)
    · simp only
      apply Unseen.thenThread
      · apply (hpages.thenThread t _).trans (writeEnvironment_unseen _ _ _ _ _ _)
        rfl
      · rfl

theorem freeThreadEnvironment_unseen (s : State) (t : ThreadSlot) :
    Unseen s (freeThreadEnvironment s t) := by
  unfold freeThreadEnvironment
  split
  · exact Unseen.refl s
  · simp only
    split
    · exact (freeEnvironmentPages_unseen _ _ _ _ _).thenThread t rfl
    · exact Unseen.modThread s t rfl

theorem finishCreation_unseen (s : State) (t : ThreadSlot) (identity : Nat) :
    Unseen s (finishCreation s t identity) := by
  refine ⟨rfl, rfl, rfl, rfl, rfl, rfl, rfl, rfl, fun _ => rfl, rfl, fun _ => rfl, rfl, rfl, ?_⟩
  intro u
  unfold finishCreation
  by_cases hu : u = t
  · subst hu
    simp [Tcb.view]
  · simp [hu]

/-! ## Taking an object -/

theorem nextGeneration_valid (generation : Nat) : ValidGeneration (nextGeneration generation) := by
  unfold nextGeneration ValidGeneration
  split
  · decide
  · rename_i hne
    exact ⟨hne, Nat.mod_lt _ (by decide)⟩

/-- The object that `allocate_object` writes. -/
def newObject (type : ObjectType) (o : ObjectSlot) (generation : Nat) (target : Target) : Object :=
  { live := true, type, generation, slot := o, publicHandleRefs := 1, internalRefs := 1,
    target := some target }

theorem allocateObject_cases (s : State) (type : ObjectType) (target : Target) :
    allocateObject s type target = (none, s) ∨
    ∃ o generation, s.installed = true ∧ (s.objects o).live = false ∧ ValidGeneration generation ∧
      allocateObject s type target =
        (some (o, makeHandle type o generation),
          s.modObject o fun _ => newObject type o generation target) := by
  unfold allocateObject
  split
  · exact Or.inl rfl
  · rename_i hi
    cases hf : freeObject? s with
    | none => exact Or.inl rfl
    | some o =>
      refine Or.inr ⟨o, nextGeneration (s.objects o).generation, by simpa using hi, ?_,
        nextGeneration_valid _, rfl⟩
      have := List.find?_some hf
      simpa using this

theorem freeThread?_live (h : freeThread? s = some t) : (s.threads t).live = false := by
  have := List.find?_some h
  simpa using this

theorem freeEvent?_live (h : freeEvent? s = some e) : (s.events e).live = false := by
  have := List.find?_some h
  simpa using this

/-! ## Events -/

/-- An event that is not live has no waiters. -/
theorem Core.dead_event (h : Core s) (hl : (s.events e).live = false) :
    (s.events e).waiters = (fun _ => none) ∧ (s.events e).waiterCount = 0 := by
  have hnone : ∀ i, (s.events e).waiters i = none := by
    intro i
    cases hw : (s.events e).waiters i with
    | none => rfl
    | some q =>
      obtain ⟨hp, hwt, _⟩ := h.waits.listed e i q hw
      obtain ⟨o, d, _, hd, hst, _⟩ := h.objects.record q hp.1
      rw [hwt] at hd
      cases hd
      have hfit := h.objects.target o hst.1
      unfold TargetFits at hfit
      rw [hst.2.1] at hfit
      obtain ⟨d, hd, hdl, _⟩ := hfit
      rw [hst.2.2] at hd
      cases hd
      rw [hl] at hdl
      cases hdl
  refine ⟨funext hnone, ?_⟩
  by_contra hc
  obtain ⟨w, hw⟩ := h.waits.lists e
  obtain ⟨q, _, _, hq⟩ := hw.head hc
  rw [hnone 0] at hq
  cases hq

/-- A new event in the slot `e`, with its object in the slot `o`. -/
def withEvent (s : State) (e : EventSlot) (o : ObjectSlot) (generation : Nat)
    (manualReset signaled : Bool) : State :=
  (s.modObject o fun _ => newObject .event o generation (.event e)).modEvent e fun _ =>
    { live := true, manualReset, signaled, generation, objectSlot := o }

theorem createEvent_cases (h : Inv s) (scheduler : SchedulerPtr) (m i : Nat) (handleOut : Bool) :
    ((createEvent s scheduler m i handleOut).1 = none ∧
      Unseen s (createEvent s scheduler m i handleOut).2) ∨
    ∃ e o generation, s.installed = true ∧ (s.events e).live = false ∧
      (s.objects o).live = false ∧ ValidGeneration generation ∧
      createEvent s scheduler m i handleOut =
        (some (makeHandle .event o generation),
          withEvent s e o generation (decide (m ≠ 0)) (decide (i ≠ 0))) := by
  unfold createEvent
  split
  · exact Or.inl ⟨rfl, Unseen.refl s⟩
  · cases hf : freeEvent? s with
    | none => exact Or.inl ⟨rfl, Unseen.refl s⟩
    | some e =>
      have hl := freeEvent?_live hf
      obtain ⟨hw, hc⟩ := h.toCore.dead_event hl
      have hblank : (({} : Waitable)).view = (s.events e).view := by
        simp [Waitable.view, hw, hc, hl]
      simp only
      rcases allocateObject_cases (s.modEvent e fun _ => {}) .event (.event e) with
        heq | ⟨o, g, hi, ho, hg, heq⟩
      · rw [heq]
        refine Or.inl ⟨rfl, ?_⟩
        simp only
        apply Unseen.trans (Unseen.modEvent s e hblank) (Unseen.modEvent _ e _)
        simp
      · rw [heq]
        refine Or.inr ⟨e, o, g, hi, hl, ho, hg, ?_⟩
        simp [withEvent, State.modEvent, State.modObject, newObject]

theorem withEvent_inv (h : Inv s) {generation : Nat} {manualReset signaled : Bool}
    (hl : (s.events e).live = false) (ho : (s.objects o).live = false)
    (hg : ValidGeneration generation) :
    Inv (withEvent s e o generation manualReset signaled) := by
  obtain ⟨hw, hc⟩ := h.toCore.dead_event hl
  refine ⟨⟨h.queue.congr rfl rfl rfl fun _ => rfl,
    h.current.congr rfl rfl rfl rfl (fun _ => Or.inl rfl) fun _ => Or.inl rfl, ?_, ?_, h.blank⟩, ?_⟩
  · refine h.waits.congr rfl ?_ rfl fun _ => Or.inl rfl
    intro d
    by_cases hd : d = e
    · subst hd
      simp [withEvent, hw, hc]
    · simp [withEvent, hd]
  · refine h.objects.allocate (o := o) (x := .event e) ?_ ho (by simp [slotOf, hl]) ?_ ?_ ?_ ?_ ?_
    · refine ⟨?_, fun _ _ => rfl, ?_, fun _ => rfl, h.objects.notification_quiet, fun _ => rfl,
        fun _ => rfl⟩
      · intro p hp
        simp [withEvent, hp]
      · intro d hd
        have hne : d ≠ e := fun hde => hd (by rw [hde])
        simp [withEvent, hne]
    · simp [withEvent, newObject]
    · simp [withEvent, newObject, hg]
    · simp [withEvent, newObject]
    · simp [TargetFits, withEvent, newObject]
    · simp [withEvent, newObject]
  · intro d hdl hds
    by_cases hd : d = e
    · subst hd
      simp [withEvent]
    · simp only [withEvent, State.modEvent_events, State.modObject_events,
        Function.update_of_ne hd] at hdl hds ⊢
      exact h.quiet d hdl hds

theorem createEvent_inv (h : Inv s) (scheduler : SchedulerPtr) (m i : Nat) (handleOut : Bool) :
    Inv (createEvent s scheduler m i handleOut).2 := by
  rcases createEvent_cases h scheduler m i handleOut with ⟨_, hu⟩ | ⟨e, o, g, _, hl, ho, hg, heq⟩
  · exact h.unseen hu
  · rw [heq]
    exact withEvent_inv h hl ho hg

/-! ## The notification and the standard stream -/

theorem createMemoryResourceNotification_inv (h : Inv s) (scheduler : SchedulerPtr) (n : Nat)
    (handleOut : Bool) : Inv (createMemoryResourceNotification s scheduler n handleOut).2 := by
  unfold createMemoryResourceNotification
  split
  · exact h
  · split
    · exact h
    · rename_i hl
      rcases allocateObject_cases s .memoryResourceNotification .notification with
        heq | ⟨o, g, _, ho, hg, heq⟩
      · rw [heq]
        exact h
      · rw [heq]
        refine ⟨⟨h.queue.congr rfl rfl rfl fun _ => rfl,
          h.current.congr rfl rfl rfl rfl (fun _ => Or.inl rfl) fun _ => Or.inl rfl,
          h.waits.congr rfl (fun _ => ⟨rfl, rfl⟩) rfl fun _ => Or.inl rfl, ?_, h.blank⟩, h.quiet⟩
        refine h.objects.allocate (o := o) (x := .notification) ?_ ho (by simp [slotOf, hl]) ?_ ?_
          ?_ ?_ ?_
        · refine ⟨?_, fun _ _ => rfl, fun _ _ => rfl, fun hn => absurd rfl hn, rfl, fun _ => rfl,
            fun _ => rfl⟩
          intro p hp
          simp [hp]
        · simp [newObject]
        · simp [newObject, hg]
        · simp [newObject]
        · simp [TargetFits, newObject]
        · simp [newObject]

theorem installHandles_unseen (s : State) (roleMask handle : Nat) :
    Unseen s (installHandles s roleMask handle) :=
  ⟨rfl, rfl, rfl, rfl, rfl, rfl, rfl, rfl, fun _ => rfl, rfl, fun _ => rfl, rfl, rfl, fun _ => rfl⟩

/-- The stream may change all but the fields by which its object knows it. -/
theorem Inv.setStream (h : Inv s) {x : StandardStream}
    (hl : x.live = s.standardStream.live)
    (hs : x.live = true → x.objectSlot = s.standardStream.objectSlot ∧
      x.generation = s.standardStream.generation) : Inv { s with standardStream := x } := by
  refine ⟨⟨h.queue.congr rfl rfl rfl fun _ => rfl,
    h.current.congr rfl rfl rfl rfl (fun _ => Or.inl rfl) fun _ => Or.inl rfl,
    h.waits.congr rfl (fun _ => ⟨rfl, rfl⟩) rfl fun _ => Or.inl rfl, ?_, h.blank⟩, h.quiet⟩
  have hobj := h.objects
  refine ⟨hobj.slot, ?_, hobj.thread, hobj.event, hobj.notification, hobj.notification_quiet, ?_,
    hobj.record, hobj.refs⟩
  · intro o ho
    have hfit := hobj.target o ho
    unfold TargetFits at hfit ⊢
    cases htype : (s.objects o).type <;> simp only [htype] at hfit ⊢
    · exact hfit
    · exact hfit
    · exact hfit
    · obtain ⟨h1, h2, h3, h4⟩ := hfit
      rw [h2] at hl
      exact ⟨h1, hl, by rw [(hs hl).1]; exact h3, by rw [(hs hl).2]; exact h4⟩
  · intro hx
    simp only at hx
    rw [(hs hx).1]
    exact hobj.stream (by rw [← hl]; exact hx)

theorem installStandardStream_inv (h : Inv s) (scheduler : SchedulerPtr)
    (roles backend caps : Nat) :
    Inv (installStandardStream s scheduler roles backend caps).2 := by
  unfold installStandardStream
  split
  · exact h
  · split
    · split
      · exact h
      · simp only
        refine Inv.unseen ?_ (installHandles_unseen _ _ _)
        exact h.setStream rfl fun _ => ⟨rfl, rfl⟩
    · rename_i hl
      have hblank : Inv { s with standardStream := {} } := by
        apply h.setStream
        · simpa using hl
        · simp
      rcases allocateObject_cases { s with standardStream := {} } .standardStream .stream with
        heq | ⟨o, g, _, ho, hg, heq⟩
      · rw [heq]
        exact hblank
      · rw [heq]
        refine Inv.unseen ?_ (installHandles_unseen _ _ _)
        refine ⟨⟨h.queue.congr rfl rfl rfl fun _ => rfl,
          h.current.congr rfl rfl rfl rfl (fun _ => Or.inl rfl) fun _ => Or.inl rfl,
          h.waits.congr rfl (fun _ => ⟨rfl, rfl⟩) rfl fun _ => Or.inl rfl, ?_, h.blank⟩, h.quiet⟩
        refine h.objects.allocate (o := o) (x := .stream) ?_ ho (by simp [slotOf, hl]) ?_ ?_
          ?_ ?_ ?_
        · refine ⟨?_, fun _ _ => rfl, fun _ _ => rfl, fun _ => rfl, h.objects.notification_quiet,
            fun hn => absurd rfl hn, fun _ => rfl⟩
          intro p hp
          simp [hp]
        · simp [newObject]
        · simp [newObject, hg]
        · simp [newObject]
        · simp [TargetFits, newObject]
        · simp [newObject]

/-! ## Threads -/

/-- A thread in the slot `t` with a new object in the slot `o`. -/
def withThread (s : State) (t : ThreadSlot) (o : ObjectSlot) (thread : Tcb) : State :=
  (s.modObject o fun _ => newObject .thread o thread.generation (.thread t)).modThread t
    fun _ => thread

/-- What a new thread looks like before it gets its pages. -/
structure Fresh (thread : Tcb) (o : ObjectSlot) : Prop where
  live : thread.live = true
  state : thread.state = .createdSuspended
  worker : thread.isBootThread = false
  unqueued : thread.runnableQueued = false
  unwaiting : thread.waitRecord = none
  slot : thread.objectSlot = o
  generation : ValidGeneration thread.generation
  refs : thread.publicHandleRefs = 1

/-- A failed creation leaves the slots of the thread and of its object free. -/
theorem abandonThread_unseen (h : Core s) (ht : (s.threads t).live = false)
    (ho : (s.objects o).live = false) {thread : Tcb} (hu : Unseen (withThread s t o thread) s') :
    Unseen s (abandonThread s' t o) := by
  refine ⟨hu.installed, hu.active, hu.current, hu.bootThread, hu.runnableQueue, hu.runnableCount,
    hu.queueRefusals, hu.waitRecords, hu.events, hu.activeWaitCount, ?_, hu.notification,
    hu.standardStream, ?_⟩
  · intro p
    by_cases hp : p = o
    · subst hp
      simp [abandonThread, releaseObjectRecord, Object.view, ho]
    · have := hu.objects p
      simpa [abandonThread, releaseObjectRecord, hp, withThread] using this
  · intro u
    by_cases hut : u = t
    · subst hut
      simpa [abandonThread] using (h.blank u ht).symm
    · have := hu.threads u
      simpa [abandonThread, releaseObjectRecord, hut, withThread] using this

/-- A worker may get a stack. -/
theorem takeStack_unseen (hw : (s.threads t).isBootThread = false) (stackMemory : Nat) :
    Unseen s (takeStack s t stackMemory) := by
  unfold takeStack
  apply Unseen.thenThread
  · exact Unseen.modMachine s _
  · simp [Tcb.view, hw]

theorem equipThread_cases (h : Core s) (ht : (s.threads t).live = false)
    (ho : (s.objects o).live = false) {thread : Tcb} (hu : Unseen (withThread s t o thread) s')
    (handle stack canary : Nat) (a : CreateAnswers) :
    ((equipThread s' t o handle stack canary a).1 = {} ∧
      Unseen s (equipThread s' t o handle stack canary a).2) ∨
    ((equipThread s' t o handle stack canary a).1 = { ok := true, handle, thread := some t } ∧
      Unseen (withThread s t o thread) (equipThread s' t o handle stack canary a).2) := by
  unfold equipThread
  have hu1 := hu.trans (allocateThreadEnvironment_unseen s' t a.environment)
  generalize allocateThreadEnvironment s' t a.environment = furnished at hu1 ⊢
  obtain ⟨furnished, s1⟩ := furnished
  simp only at hu1 ⊢
  split
  · exact Or.inl ⟨rfl, abandonThread_unseen h ht ho
      ((hu1.trans (pageFree_unseen _ _)).trans (pageFree_unseen _ _))⟩
  · split
    · exact Or.inr ⟨rfl, hu1.trans (finishCreation_unseen _ _ _)⟩
    · exact Or.inl ⟨rfl, abandonThread_unseen h ht ho
        (((hu1.trans (freeThreadEnvironment_unseen _ t)).trans (pageFree_unseen _ _)).trans
          (pageFree_unseen _ _))⟩

theorem furnishThread_cases (h : Core s) (ht : (s.threads t).live = false)
    (ho : (s.objects o).live = false) {thread : Tcb} (hu : Unseen (withThread s t o thread) s')
    (handle stack : Nat) (a : CreateAnswers) :
    ((furnishThread s' t o handle stack a).1 = {} ∧
      Unseen s (furnishThread s' t o handle stack a).2) ∨
    ((furnishThread s' t o handle stack a).1 = { ok := true, handle, thread := some t } ∧
      Unseen (withThread s t o thread) (furnishThread s' t o handle stack a).2) := by
  unfold furnishThread
  have hu1 := hu.trans (pageAllocate_unseen s' a.canary)
  generalize pageAllocate s' a.canary = canary at hu1 ⊢
  obtain ⟨canary, s1⟩ := canary
  simp only at hu1 ⊢
  have hu2 := hu1.thenThread t (f := fun thread => { thread with stackCanaryMemory := canary }) rfl
  split
  · exact Or.inl ⟨rfl, abandonThread_unseen h ht ho (hu2.trans (pageFree_unseen _ _))⟩
  · exact equipThread_cases h ht ho (hu2.trans (setCanaries_unseen _ t)) handle stack canary a

theorem createSuspendedThread_cases (h : Inv s) (scheduler : SchedulerPtr) (entry argument : Nat)
    (handleOut threadOut : Bool) (a : CreateAnswers) :
    ((createSuspendedThread s scheduler entry argument handleOut threadOut a).1 = {} ∧
      Unseen s (createSuspendedThread s scheduler entry argument handleOut threadOut a).2) ∨
    ∃ t o thread, s.installed = true ∧ (s.threads t).live = false ∧ (s.objects o).live = false ∧
      Fresh thread o ∧
      (createSuspendedThread s scheduler entry argument handleOut threadOut a).1 =
        { ok := true, handle := makeHandle .thread o thread.generation, thread := some t } ∧
      Unseen (withThread s t o thread)
        (createSuspendedThread s scheduler entry argument handleOut threadOut a).2 := by
  unfold createSuspendedThread
  split
  · exact Or.inl ⟨rfl, Unseen.refl s⟩
  · rename_i hguard
    cases hf : freeThread? s with
    | none => exact Or.inl ⟨rfl, Unseen.refl s⟩
    | some t =>
      have ht := freeThread?_live hf
      simp only
      rcases allocateObject_cases (s.modThread t fun _ => newThread entry argument) .thread
        (.thread t) with heq | ⟨o, g, hi, ho, hg, heq⟩
      · rw [heq]
        refine Or.inl ⟨rfl, ?_⟩
        refine ⟨rfl, rfl, rfl, rfl, rfl, rfl, rfl, rfl, fun _ => rfl, rfl, fun _ => rfl, rfl, rfl,
          ?_⟩
        intro u
        by_cases hu : u = t
        · subst hu
          simpa using (h.blank u ht).symm
        · simp [hu]
      · rw [heq]
        simp only
        -- the thread once it has its identity and its object
        set thread : Tcb :=
          { newThread entry argument with
            identity := s.nextIdentity, generation := g, objectSlot := o } with hthread
        have hfresh : Fresh thread o := ⟨rfl, rfl, rfl, rfl, rfl, rfl, hg, rfl⟩
        have hu2 : Unseen (withThread s t o thread) (identifyThread
            ((s.modThread t fun _ => newThread entry argument).modObject o
              fun _ => newObject .thread o g (.thread t)) t o) := by
          refine ⟨rfl, rfl, rfl, rfl, rfl, rfl, rfl, rfl, fun _ => rfl, rfl, fun _ => rfl, rfl, rfl,
            ?_⟩
          intro u
          by_cases hu : u = t
          · subst hu
            simp [withThread, identifyThread, newObject, hthread]
          · simp [withThread, identifyThread, hu]
        split
        · exact Or.inl ⟨rfl, abandonThread_unseen h.toCore ht ho hu2⟩
        · have hworker : ((identifyThread
              ((s.modThread t fun _ => newThread entry argument).modObject o
                fun _ => newObject .thread o g (.thread t)) t o).threads t).isBootThread =
                  false := by
            simp [identifyThread, newThread]
          have hu3 := hu2.trans (takeStack_unseen hworker a.stack.memory)
          rcases furnishThread_cases h.toCore ht ho hu3 (makeHandle .thread o g) a.stack.memory a
            with ⟨h1, h2⟩ | ⟨h1, h2⟩
          · exact Or.inl ⟨h1, h2⟩
          · exact Or.inr ⟨t, o, thread, hi, ht, ho, hfresh, h1, h2⟩

theorem Core.blank_thread (h : Core s) (ht : (s.threads t).live = false) :
    (s.threads t).runnableQueued = false ∧ (s.threads t).waitRecord = none := by
  have hb := h.blank t ht
  simp only [Tcb.view, Prod.mk.injEq, Option.map_none, Option.map_eq_none_iff] at hb
  exact ⟨hb.1.2.2, hb.2.2.1⟩

/-- A slot that is not live is neither the current thread nor the boot thread. -/
theorem CurrentInv.live_ne (h : CurrentInv s) (hi : s.installed = true)
    (ht : (s.threads t).live = false) : s.current ≠ some t ∧ t ≠ 0 := by
  refine ⟨?_, ?_⟩
  · intro hc
    obtain ⟨c, hcur, hl, _⟩ := h.current hi
    rw [hcur] at hc
    cases hc
    rw [ht] at hl
    cases hl
  · rintro rfl
    have := (h.boot hi).2.1
    rw [ht] at this
    cases this

theorem withThread_inv (h : Inv s) (hi : s.installed = true) (ht : (s.threads t).live = false)
    (ho : (s.objects o).live = false) {thread : Tcb} (hf : Fresh thread o) :
    Inv (withThread s t o thread) := by
  obtain ⟨hq, hw⟩ := h.toCore.blank_thread ht
  obtain ⟨hc, h0⟩ := h.current.live_ne hi ht
  refine ⟨⟨?_, ?_, ?_, ?_, ?_⟩, h.quiet⟩
  · refine h.queue.congr rfl rfl rfl fun u => ?_
    by_cases hu : u = t
    · subst hu
      simp [withThread, Tcb.queueView, hf.state, hf.unqueued, ht, hq]
    · simp [withThread, hu]
  · refine h.current.congr rfl rfl rfl rfl (fun u => ?_) (fun u => ?_)
    · by_cases hu : u = t
      · subst hu
        exact Or.inr ⟨hc, by simp [withThread, hf.state]⟩
      · exact Or.inl (by simp [withThread, hu])
    · by_cases hu : u = t
      · subst hu
        exact Or.inr ⟨hi, hc, h0, by simp [withThread, hf.worker], by simp [withThread, hf.state]⟩
      · exact Or.inl (by simp [withThread, hu])
  · refine h.waits.congr rfl (fun _ => ⟨rfl, rfl⟩) rfl fun u => Or.inl ?_
    by_cases hu : u = t
    · subst hu
      simp [withThread, Tcb.waitView, hf.state, hf.unwaiting, ht, hw]
    · simp [withThread, hu]
  · refine h.objects.allocate (o := o) (x := .thread t) ?_ ho (by simp [slotOf, ht]) ?_ ?_ ?_ ?_ ?_
    · refine ⟨?_, ?_, fun _ _ => rfl, fun _ => rfl, h.objects.notification_quiet, fun _ => rfl,
        fun _ => rfl⟩
      · intro p hp
        simp [withThread, hp]
      · intro u hu
        have hne : u ≠ t := fun hut => hu (by rw [hut])
        simp [withThread, hne]
    · simp [withThread, newObject]
    · simp [withThread, newObject, hf.generation]
    · simp [withThread, newObject]
    · simp [TargetFits, withThread, newObject, hf.live, hf.slot, hf.refs]
    · simp [withThread, newObject]
  · intro u hu
    have hne : u ≠ t := by
      rintro rfl
      simp [withThread, hf.live] at hu
    simp only [withThread, State.modThread_threads, Function.update_of_ne hne,
      State.modObject_threads] at hu ⊢
    exact h.blank u hu

theorem createSuspendedThread_inv (h : Inv s) (scheduler : SchedulerPtr) (entry argument : Nat)
    (handleOut threadOut : Bool) (a : CreateAnswers) :
    Inv (createSuspendedThread s scheduler entry argument handleOut threadOut a).2 := by
  rcases createSuspendedThread_cases h scheduler entry argument handleOut threadOut a with
    ⟨_, hu⟩ | ⟨t, o, thread, hi, ht, ho, hf, _, hu⟩
  · exact h.unseen hu
  · exact (withThread_inv h hi ht ho hf).unseen hu

end Gate4Harness.Scheduler
