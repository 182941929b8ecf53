-- What the operations do to the marks of the objects: the live bit, the type and
-- the generation, which are all that a handle is checked against. Only a creation
-- takes a slot, and it moves the generation of the slot on. Every other operation
-- keeps the generations and makes no object live.
import Gate4Harness.SchedulerConservation

namespace Gate4Harness.Scheduler

variable {s s' s'' : State} {t : ThreadSlot} {o p : ObjectSlot} {e : EventSlot} {r : RecordSlot}

/-! ## Operations that leave the objects alone -/

/-- What a handle is looked up in: the object table of the scheduler that is installed. -/
def State.table (s : State) : (ObjectSlot → Object) × Bool := (s.objects, s.installed)

@[simp] theorem State.table_modThread (s : State) (t : ThreadSlot) (f : Tcb → Tcb) :
    (s.modThread t f).table = s.table := rfl

@[simp] theorem State.table_modRecord (s : State) (r : RecordSlot) (f : WaitRecord → WaitRecord) :
    (s.modRecord r f).table = s.table := rfl

@[simp] theorem State.table_modEvent (s : State) (e : EventSlot) (f : Waitable → Waitable) :
    (s.modEvent e f).table = s.table := rfl

@[simp] theorem State.table_modMachine (s : State) (f : Machine → Machine) :
    (s.modMachine f).table = s.table := rfl

@[simp] theorem enqueueRunnable_table (s : State) (t : ThreadSlot) :
    (enqueueRunnable s t).2.table = s.table := by
  unfold enqueueRunnable
  split
  · rfl
  · split
    · rfl
    · split <;> rfl

@[simp] theorem removeRunnable_table (s : State) (t : ThreadSlot) :
    (removeRunnable s t).2.table = s.table := by
  unfold removeRunnable
  split
  · rfl
  · split <;> rfl

@[simp] theorem chooseNext_table (s : State) (next : ThreadSlot) :
    (chooseNext s next).2.table = s.table := by
  exact removeRunnable_table s next

@[simp] theorem addWaiter_table (s : State) (e : EventSlot) (r : RecordSlot) :
    (addWaiter s e r).2.table = s.table := by
  unfold addWaiter
  split
  · rfl
  · split <;> rfl

@[simp] theorem removeWaiter_table (s : State) (e : EventSlot) (index : Nat) :
    (removeWaiter s e index).table = s.table := by
  unfold removeWaiter
  split
  · rfl
  · simp only
    split <;> split <;> rfl

@[simp] theorem completeWaiter_table (s : State) (e : EventSlot) (index completionResult : Nat)
    (waitResult : WaitResult) :
    (completeWaiter s e index completionResult waitResult).table = s.table := by
  unfold completeWaiter
  split
  · rfl
  · split
    · simp
    · split
      · simp
      · split
        · simp
        · simp only
          split <;> simp

@[simp] theorem wakeAll_table (e : EventSlot) (turns : Nat) (s : State) :
    (wakeAll e turns s).table = s.table := by
  induction turns generalizing s with
  | zero => rfl
  | succ turns ih =>
    unfold wakeAll
    split
    · rfl
    · rw [ih]
      exact completeWaiter_table _ _ _ _ _

@[simp] theorem signalEvent_table (s : State) (handle : Nat) :
    (signalEvent s handle).2.table = s.table := by
  unfold signalEvent
  split
  · rfl
  · split
    · rfl
    · split
      · simp
      · split <;> simp [wakeWaiter]

@[simp] theorem resetEvent_table (s : State) (handle : Nat) :
    (resetEvent s handle).2.table = s.table := by
  unfold resetEvent
  split
  · rfl
  · split <;> rfl

@[simp] theorem timeoutWaiter_table (s : State) (r : RecordSlot) :
    (timeoutWaiter s r).table = s.table := by
  unfold timeoutWaiter
  split
  · rfl
  · split <;> simp

theorem serviceRecords_table (now : Nat) (l : List RecordSlot) (acc : Nat × State) :
    (l.foldl (serviceRecord now) acc).2.table = acc.2.table := by
  induction l generalizing acc with
  | nil => rfl
  | cons r rest ih =>
    rw [List.foldl_cons, ih]
    unfold serviceRecord
    split <;> simp

@[simp] theorem serviceTimeouts_table (s : State) (now : Nat) :
    (serviceTimeouts s now).2.table = s.table := by
  unfold serviceTimeouts
  split
  · rfl
  · exact serviceRecords_table now _ _

@[simp] theorem pollTimeouts_table (s : State) (clock : Option Nat) :
    (pollTimeouts s clock).2.table = s.table := by
  unfold pollTimeouts
  cases clock with
  | none => rfl
  | some now =>
    simp only
    split <;> simp

@[simp] theorem tokenTaken_table (s : State) (e : EventSlot) :
    (tokenTaken s e).table = s.table := by
  unfold tokenTaken
  split <;> rfl

@[simp] theorem setLastError_table (s : State) (value : Nat) :
    (setLastError s value).table = s.table := by
  unfold setLastError
  split
  · rfl
  · split <;> rfl

@[simp] theorem armWaitTimeout_table (s : State) (deadlineMs : Nat) :
    (armWaitTimeout s deadlineMs).2.table = s.table := by
  unfold armWaitTimeout
  split
  · rfl
  · split <;> rfl

@[simp] theorem resumeThread_table (s : State) (handle : Nat) :
    (resumeThread s handle).2.table = s.table := by
  unfold resumeThread
  split
  · rfl
  · split
    · rfl
    · split
      · rfl
      · simp only
        split
        · rfl
        · split
          · split <;> rfl
          · split
            · rfl
            · split <;> simp

@[simp] theorem prepareYield_table (s : State) (planOut : Bool) :
    (prepareYield s planOut).2.table = s.table := by
  unfold prepareYield
  split
  · rfl
  · split
    · rfl
    · split
      · rfl
      · simp only
        split
        · simp
        · split
          · simp
          · exact (chooseNext_table _ _).trans (by simp)

@[simp] theorem prepareTerminate_table (s : State) (returnValue : Nat) (planOut : Bool) :
    (prepareTerminate s returnValue planOut).2.table = s.table := by
  unfold prepareTerminate
  split
  · rfl
  · split
    · rfl
    · simp only
      split <;> simp

@[simp] theorem pageAllocate_table (s : State) (a : PageAnswer) :
    (pageAllocate s a).2.table = s.table := by
  unfold pageAllocate
  split <;> rfl

@[simp] theorem pageFree_table (s : State) (memory : Nat) :
    (pageFree s memory).table = s.table := by
  unfold pageFree
  split <;> rfl

@[simp] theorem freeEnvironmentPages_table (s : State) (a b c d : Nat) :
    (freeEnvironmentPages s a b c d).table = s.table := by
  simp [freeEnvironmentPages]

@[simp] theorem allocateThreadEnvironment_table (s : State) (t : ThreadSlot)
    (a : EnvironmentAnswers) : (allocateThreadEnvironment s t a).2.table = s.table := by
  unfold allocateThreadEnvironment
  split
  · rfl
  · simp only
    split <;> simp [environmentPages, writeEnvironment]

@[simp] theorem freeThreadEnvironment_table (s : State) (t : ThreadSlot) :
    (freeThreadEnvironment s t).table = s.table := by
  unfold freeThreadEnvironment
  split
  · rfl
  · simp only
    split <;> simp

@[simp] theorem adoptBootEnvironment_table (s : State) (scheduler : SchedulerPtr)
    (b : BootEnvironment) : (adoptBootEnvironment s scheduler b).2.table = s.table := by
  unfold adoptBootEnvironment
  split
  · rfl
  · split
    · rfl
    · exact freeThreadEnvironment_table s _

/-! ## Operations that let objects fade -/

/-- The generation stays, and an object that is live afterwards was live before with the
same type. -/
def Fades (x y : Object) : Prop :=
  y.generation = x.generation ∧ (y.live = true → x.live = true ∧ y.type = x.type)

/-- No object comes into being, and no generation moves. -/
structure Fading (s s' : State) : Prop where
  installed : s'.installed = s.installed
  objects : ∀ o, Fades (s.objects o) (s'.objects o)

theorem Fades.refl (x : Object) : Fades x x := ⟨rfl, fun hl => ⟨hl, rfl⟩⟩

theorem Fades.trans {x y z : Object} (h : Fades x y) (h' : Fades y z) : Fades x z := by
  refine ⟨h'.1.trans h.1, ?_⟩
  intro hl
  obtain ⟨hl', htype'⟩ := h'.2 hl
  obtain ⟨hl'', htype⟩ := h.2 hl'
  exact ⟨hl'', htype'.trans htype⟩

theorem Fading.of_eq (h : s'.table = s.table) : Fading s s' := by
  simp only [State.table, Prod.mk.injEq] at h
  refine ⟨h.2, ?_⟩
  rw [h.1]
  exact fun o => Fades.refl _

theorem Fading.refl (s : State) : Fading s s := Fading.of_eq rfl

theorem Fading.trans (h : Fading s s') (h' : Fading s' s'') : Fading s s'' :=
  ⟨h'.installed.trans h.installed, fun o => (h.objects o).trans (h'.objects o)⟩

theorem Fading.then_eq (h : Fading s s') (heq : s''.table = s'.table) : Fading s s'' :=
  h.trans (Fading.of_eq heq)

theorem Fading.modObject (s : State) (o : ObjectSlot) {f : Object → Object}
    (h : Fades (s.objects o) (f (s.objects o))) : Fading s (s.modObject o f) := by
  refine ⟨rfl, ?_⟩
  intro p
  by_cases hp : p = o
  · subst hp
    simpa using h
  · simpa [hp] using Fades.refl (s.objects p)

theorem releaseObjectRecord_fading (s : State) (o : ObjectSlot) :
    Fading s (releaseObjectRecord s o) :=
  Fading.modObject s o ⟨rfl, by simp⟩

theorem unpinWaitRecord_fading (s : State) (r : RecordSlot) : Fading s (unpinWaitRecord s r) := by
  unfold unpinWaitRecord
  split
  · exact Fading.refl s
  · cases (s.waitRecords r).object with
    | none => exact Fading.of_eq rfl
    | some o =>
      simp only
      split
      · have hunpin : Fading s (s.modObject o fun object =>
            { object with internalRefs := object.internalRefs - 1 }) :=
          Fading.modObject s o ⟨rfl, fun hl => ⟨hl, rfl⟩⟩
        exact hunpin.then_eq rfl
      · exact Fading.of_eq rfl

theorem releaseWaitRecord_fading (s : State) (r : RecordSlot) :
    Fading s (releaseWaitRecord s r) := by
  unfold releaseWaitRecord
  split
  · exact Fading.refl s
  · simp only
    refine Fading.then_eq (Fading.trans ?_ (unpinWaitRecord_fading _ r)) rfl
    split <;> exact Fading.of_eq rfl

theorem unblockThread_fading (s : State) (c : ThreadSlot) (e : EventSlot) (r : RecordSlot) :
    Fading s (unblockThread s c e r) := by
  unfold unblockThread
  exact Fading.trans (Fading.of_eq (by simp)) (releaseWaitRecord_fading _ r)

theorem pinObject_fading (s : State) (o : ObjectSlot) : Fading s (pinObject s o).2 := by
  unfold pinObject
  split
  · exact Fading.refl s
  · dsimp only
    apply Fading.modObject
    exact ⟨rfl, fun hl => ⟨hl, rfl⟩⟩

theorem allocateWaitRecord_table (s : State) : (allocateWaitRecord s).2.table = s.table := by
  unfold allocateWaitRecord
  split <;> rfl

theorem registerWait_fading (s : State) (c : ThreadSlot) (o : ObjectSlot) (e : EventSlot)
    (handle : Nat) (timeoutArmed : Bool) (deadlineMs : Nat) :
    Fading s (registerWait s c o e handle timeoutArmed deadlineMs).2 := by
  unfold registerWait
  have h1 := pinObject_fading s o
  generalize pinObject s o = pinned at h1 ⊢
  obtain ⟨pinned, s1⟩ := pinned
  cases pinned with
  | false => exact h1
  | true =>
    simp only
    have h2 := h1.then_eq (allocateWaitRecord_table s1)
    generalize allocateWaitRecord s1 = allocated at h2 ⊢
    obtain ⟨allocated, s2⟩ := allocated
    cases allocated with
    | none =>
      refine h2.trans ?_
      dsimp only
      apply Fading.modObject
      exact ⟨rfl, fun hl => ⟨hl, rfl⟩⟩
    | some r =>
      simp only
      set s3 := fillRecord s2 c o e r timeoutArmed deadlineMs with hs3
      have h3 : Fading s s3 := h2.then_eq rfl
      have h4 : Fading s (if (s3.events e).signaled then (false, s3) else addWaiter s3 e r).2 := by
        split
        · exact h3
        · exact h3.then_eq (by simp)
      generalize (if (s3.events e).signaled then (false, s3) else addWaiter s3 e r) = added at h4 ⊢
      obtain ⟨added, s4⟩ := added
      simp only at h4 ⊢
      cases added with
      | false =>
        have h5 : Fading s (if (s4.waitRecords r).waiterLinked then
            removeWaiter s4 e (s4.waitRecords r).waiterIndex else s4) := by
          split
          · exact h4.then_eq (by simp)
          · exact h4
        have h6 := h5.trans (releaseWaitRecord_fading _ r)
        rw [if_pos (by simp)]
        generalize releaseWaitRecord _ r = s6 at h6 ⊢
        split
        · exact h6.then_eq rfl
        · exact h6
      | true =>
        have h5 : Fading s (blockThread s4 c r handle) := h4.then_eq rfl
        rw [if_neg (by simp)]
        split
        · exact h5.trans (unblockThread_fading _ c e r)
        · exact h5.then_eq (by simp)

theorem legacyWait_table (s : State) (c : ThreadSlot) (handle : Nat) :
    (legacyWait s c handle).2.table = s.table := by
  unfold legacyWait
  split
  · rfl
  · split
    · split <;> simp
    · split
      · simp only
        split <;> rfl
      · rfl
    · rfl

theorem prepareWaitRecord_fading (s : State) (handle : Nat) (planOut : Bool) :
    Fading s (prepareWaitRecord s handle planOut).2 := by
  unfold prepareWaitRecord
  split
  · exact Fading.refl s
  · have h1 : Fading s (timeoutTaken s) := Fading.of_eq rfl
    simp only
    split
    · exact h1
    · split
      · exact h1
      · split
        · exact h1.then_eq (legacyWait_table _ _ _)
        · split
          · exact h1.then_eq (by simp)
          · exact h1.trans (registerWait_fading _ _ _ _ _ _ _)

theorem finishWait_fading (s : State) (handle : Nat) : Fading s (finishWait s handle).2 := by
  unfold finishWait
  split
  · exact Fading.refl s
  · split
    · exact Fading.refl s
    · simp only
      split
      · exact Fading.refl s
      · split
        · exact Fading.of_eq rfl
        · split
          · exact Fading.refl s
          · dsimp only
            refine Fading.trans ?_ (releaseWaitRecord_fading _ _)
            exact Fading.of_eq rfl

theorem reclaimThread_fading (s : State) (t : ThreadSlot) : Fading s (reclaimThread s t) := by
  unfold reclaimThread
  simp only
  refine Fading.then_eq (Fading.trans ?_ (releaseObjectRecord_fading _ _)) rfl
  refine (Fading.modObject s (s.threads t).objectSlot (f := fun object =>
    { object with internalRefs := 0 }) ⟨rfl, fun hl => ⟨hl, rfl⟩⟩).then_eq ?_
  simp

theorem maybeReclaimThread_fading (s : State) (t : ThreadSlot) (unregistered : Bool) :
    Fading s (maybeReclaimThread s t unregistered) := by
  unfold maybeReclaimThread
  split
  · exact Fading.refl s
  · split
    · split
      · exact Fading.refl s
      · refine Fading.trans ?_ (reclaimThread_fading _ t)
        exact Fading.of_eq rfl
    · exact reclaimThread_fading s t

theorem collect_fading (s : State) (scheduler : SchedulerPtr) (unregistered : ThreadSlot → Bool) :
    Fading s (collect s scheduler unregistered).2 := by
  apply collect_induction (P := Fading s) unregistered
  · intro s' t h
    exact h.trans (maybeReclaimThread_fading s' t _)
  · exact Fading.refl s

theorem closeHandle_fading (s : State) (handle : Nat) (unregistered : Bool) :
    Fading s (closeHandle s handle unregistered).2 := by
  have hclose : ∀ o, Fading s (closedObject s o) := fun o =>
    Fading.modObject s o ⟨rfl, fun hl => ⟨hl, rfl⟩⟩
  unfold closeHandle
  split
  · split
    · exact Fading.refl s
    · rename_i o _
      split
      · exact Fading.refl s
      · simp only
        split
        · exact hclose o
        · refine Fading.trans ?_ (maybeReclaimThread_fading _ _ _)
          split
          · exact (hclose o).then_eq rfl
          · exact hclose o
  · split
    · exact Fading.refl s
    · rename_i o _
      split
      · exact Fading.refl s
      · exact hclose o
  · exact Fading.refl s

theorem discardCreatedThread_fading (s : State) (t : Option ThreadSlot) (unregistered : Bool) :
    Fading s (discardCreatedThread s t unregistered).2 := by
  unfold discardCreatedThread
  cases t with
  | none => exact Fading.refl s
  | some t =>
    simp only
    split
    · exact Fading.refl s
    · have h1 : Fading s
          (if (s.threads t).runnableQueued = true then removeRunnable s t else (true, s)).2 := by
        split
        · exact Fading.of_eq (by simp)
        · exact Fading.refl s
      generalize (if (s.threads t).runnableQueued = true then removeRunnable s t else (true, s)) =
        removed at h1 ⊢
      split
      · exact h1
      · dsimp only
        refine Fading.trans ?_ (maybeReclaimThread_fading _ t unregistered)
        exact h1.then_eq rfl

theorem releaseStream_fading (s : State) : Fading s (releaseStream s) := by
  unfold releaseStream
  split
  · exact (releaseObjectRecord_fading s _).then_eq rfl
  · exact Fading.refl s

/-- A scheduler that was torn down has no live object left. -/
structure Vacated (s s' : State) : Prop where
  installed : s'.installed = false
  objects : ∀ o, (s'.objects o).live = false ∧ (s'.objects o).generation = (s.objects o).generation

theorem teardown_fading (h : Inv s) (scheduler : SchedulerPtr)
    (unregistered : ThreadSlot → Bool) :
    Fading s (teardown s scheduler unregistered).2 ∨
    Vacated s (teardown s scheduler unregistered).2 := by
  have hinv := teardown_inv h scheduler unregistered
  have h1 := collect_fading s scheduler unregistered
  rcases teardown_cases h scheduler unregistered with heq | heq | ⟨_, _, honly, heq⟩
  · rw [heq]
    exact Or.inl (Fading.refl s)
  · rw [heq]
    exact Or.inl h1
  · rw [heq] at hinv ⊢
    refine Or.inr ⟨rfl, ?_⟩
    set s1 := (collect s scheduler unregistered).2 with hs1
    set s2 := freeThreadEnvironment (releaseStream s1) 0 with hs2
    have h2 : Fading s s2 := (h1.trans (releaseStream_fading s1)).then_eq (by simp [hs2])
    have h3 : Fading s (releaseObjectRecord s2 (s2.threads 0).objectSlot) :=
      h2.trans (releaseObjectRecord_fading _ _)
    have hu := freeThreadEnvironment_unseen (releaseStream s1) 0
    have hvacant : ∀ x, slotOf (tornDown s2 0) x = none := by
      obtain ⟨hevents, hnotification, _⟩ := (onlyBootLive_iff s1).mp honly
      intro x
      cases x with
      | thread t =>
        have ht : ((tornDown s2 0).threads t).live = false := hinv.current.vacant rfl t
        simp [slotOf, ht]
      | event e =>
        have he : ((tornDown s2 0).events e).live = false := by
          have hsame := (Waitable.view_eq (hu.events e)).2.2.1
          rw [(releaseStream_keeps s1).2.2.1, hevents e] at hsame
          exact hsame
        simp [slotOf, he]
      | notification =>
        have hn : (tornDown s2 0).notification.live = false := by
          have hsame : s2.notification = s1.notification :=
            hu.notification.trans (by unfold releaseStream; split <;> rfl)
          change s2.notification.live = false
          rw [hsame]
          exact hnotification
        simp [slotOf, hn]
      | stream =>
        have hs : (tornDown s2 0).standardStream.live = false := by
          change s2.standardStream.live = false
          rw [hu.standardStream]
          unfold releaseStream
          split
          · rfl
          · rename_i hlive
            simpa using hlive
        simp [slotOf, hs]
    intro o
    refine ⟨?_, (h3.objects o).1⟩
    cases hl : ((tornDown s2 0).objects o).live with
    | false => rfl
    | true =>
      obtain ⟨x, _, hx⟩ := (hinv.objects.target o hl).slotOf
      rw [hvacant x] at hx
      cases hx

/-! ## Creations -/

/-- The call is a creation that passes its own checks, so that it asks for an object. -/
def asksForObject (s : State) : Op → Bool
  | .createEvent p _ _ handleOut => s.accepts p && handleOut && (freeEvent? s).isSome
  | .createMemoryResourceNotification p n handleOut =>
    s.accepts p && s.active && handleOut && decide (n = 0) && !s.notification.live
  | .installStandardStream p roles backend capabilities =>
    s.accepts p && s.active && decide (roles ≠ 0) &&
    decide (roles &&& (0xFF - (roleOutput ||| roleError)) = 0) && decide (backend ≠ 0) &&
    decide (capabilities ≠ 0) && !s.standardStream.live
  | .createSuspendedThread p entry _ handleOut threadOut _ =>
    s.accepts p && decide (entry ≠ 0) && handleOut && threadOut && s.config.registerStackVm &&
    s.config.unregisterStackVm && (freeThread? s).isSome
  | _ => false

/-- The slot `o` was free and its generation moves on. The object can be gone again when
the rest of the creation fails. -/
structure Issues (s s' : State) (o : ObjectSlot) : Prop where
  installed : s'.installed = true
  free : freeObject? s = some o
  generation : (s'.objects o).generation = nextGeneration (s.objects o).generation
  others : ∀ p, p ≠ o → s'.objects p = s.objects p

/-- What a step does to the marks: they fade, a creation takes a slot, or a teardown clears
the table. -/
inductive MarkEffect (s : State) (op : Op) (s' : State) : Prop
  | fading (h : Fading s s')
  | issued (o : ObjectSlot) (hask : asksForObject s op = true) (h : Issues s s' o)
  | vacated (h : Vacated s s')

/-- The answer of `allocate_object`, with the slot and the generation that it took. -/
theorem allocateObject_eq (s : State) (type : ObjectType) (target : Target) :
    allocateObject s type target = (none, s) ∨
    ∃ o, s.installed = true ∧ freeObject? s = some o ∧
      allocateObject s type target =
        (some (o, makeHandle type o (nextGeneration (s.objects o).generation)),
          s.modObject o fun _ =>
            newObject type o (nextGeneration (s.objects o).generation) target) := by
  unfold allocateObject
  split
  · exact Or.inl rfl
  · rename_i hi
    cases hf : freeObject? s with
    | none => exact Or.inl rfl
    | some o => exact Or.inr ⟨o, by simpa using hi, rfl, rfl⟩

/-- The slot that `allocate_object` took, in a state with the objects that it left. -/
theorem Issues.of_table {type : ObjectType} {target : Target} (hi : s.installed = true)
    (hf : freeObject? s = some o)
    (h : s'.table = (Function.update s.objects o
      (newObject type o (nextGeneration (s.objects o).generation) target), s.installed)) :
    Issues s s' o := by
  simp only [State.table, Prod.mk.injEq] at h
  refine ⟨h.2.trans hi, hf, by simp [h.1, newObject], ?_⟩
  intro p hp
  simp [h.1, hp]

theorem createEvent_marks (s : State) (p : SchedulerPtr) (m i : Nat) (handleOut : Bool) :
    MarkEffect s (.createEvent p m i handleOut) (createEvent s p m i handleOut).2 := by
  unfold createEvent
  split
  · exact MarkEffect.fading (Fading.refl s)
  · rename_i hg
    cases hfree : freeEvent? s with
    | none => exact MarkEffect.fading (Fading.refl s)
    | some e =>
      simp only
      rcases allocateObject_eq (s.modEvent e fun _ => {}) .event (.event e) with
        heq | ⟨o, hi, hf, heq⟩
      · rw [heq]
        exact MarkEffect.fading (Fading.of_eq rfl)
      · rw [heq]
        refine MarkEffect.issued o ?_ (Issues.of_table hi hf rfl)
        simpa [asksForObject, hfree, not_or] using hg

theorem createMemoryResourceNotification_marks (s : State) (p : SchedulerPtr) (n : Nat)
    (handleOut : Bool) : MarkEffect s (.createMemoryResourceNotification p n handleOut)
      (createMemoryResourceNotification s p n handleOut).2 := by
  unfold createMemoryResourceNotification
  split
  · exact MarkEffect.fading (Fading.refl s)
  · rename_i hg
    split
    · exact MarkEffect.fading (Fading.refl s)
    · rename_i hn
      rcases allocateObject_eq s .memoryResourceNotification .notification with
        heq | ⟨o, hi, hf, heq⟩
      · rw [heq]
        exact MarkEffect.fading (Fading.refl s)
      · rw [heq]
        refine MarkEffect.issued o ?_ (Issues.of_table hi hf rfl)
        simp only [not_or, Decidable.not_not] at hg
        simp [asksForObject, hg, hn]

theorem installStandardStream_marks (s : State) (p : SchedulerPtr) (roles backend caps : Nat) :
    MarkEffect s (.installStandardStream p roles backend caps)
      (installStandardStream s p roles backend caps).2 := by
  unfold installStandardStream
  split
  · exact MarkEffect.fading (Fading.refl s)
  · rename_i hg
    split
    · split
      · exact MarkEffect.fading (Fading.refl s)
      · exact MarkEffect.fading (Fading.of_eq rfl)
    · rename_i hl
      rcases allocateObject_eq { s with standardStream := {} } .standardStream .stream with
        heq | ⟨o, hi, hf, heq⟩
      · rw [heq]
        exact MarkEffect.fading (Fading.of_eq rfl)
      · rw [heq]
        refine MarkEffect.issued o ?_ (Issues.of_table hi hf rfl)
        simp only [not_or, Decidable.not_not] at hg
        simp [asksForObject, hg, hl]

/-- A creation that goes on after it took the slot `o` either keeps the object or gives the
slot back with its generation. -/
def KeepsIssue (s s' : State) (o : ObjectSlot) : Prop :=
  s'.installed = s.installed ∧ (s'.objects o).generation = (s.objects o).generation ∧
  ∀ p, p ≠ o → s'.objects p = s.objects p

theorem KeepsIssue.of_eq (h : s'.table = s.table) : KeepsIssue s s' o := by
  simp only [State.table, Prod.mk.injEq] at h
  refine ⟨h.2, by rw [h.1], ?_⟩
  intro p _
  rw [h.1]

theorem KeepsIssue.abandon (h : s'.table = s.table) (t : ThreadSlot) :
    KeepsIssue s (abandonThread s' t o) o := by
  simp only [State.table, Prod.mk.injEq] at h
  refine ⟨h.2, by simp [abandonThread, releaseObjectRecord, h.1], ?_⟩
  intro p hp
  simp [abandonThread, releaseObjectRecord, h.1, hp]

theorem furnishThread_keeps (s : State) (t : ThreadSlot) (o : ObjectSlot) (handle stack : Nat)
    (a : CreateAnswers) : KeepsIssue s (furnishThread s t o handle stack a).2 o := by
  have h1 := pageAllocate_table s a.canary
  unfold furnishThread
  generalize pageAllocate s a.canary = canary at h1 ⊢
  obtain ⟨canary, s1⟩ := canary
  simp only at h1 ⊢
  split
  · exact KeepsIssue.abandon (by simpa using h1) t
  · unfold equipThread
    have h2 : (setCanaries
        (s1.modThread t fun thread => { thread with stackCanaryMemory := canary }) t).table =
        s.table := h1
    generalize setCanaries _ t = s2 at h2 ⊢
    have h3 := (allocateThreadEnvironment_table s2 t a.environment).trans h2
    generalize allocateThreadEnvironment s2 t a.environment = furnished at h3 ⊢
    obtain ⟨furnished, s3⟩ := furnished
    simp only at h3 ⊢
    split
    · exact KeepsIssue.abandon (by simpa using h3) t
    · split
      · exact KeepsIssue.of_eq h3
      · exact KeepsIssue.abandon (by simpa using h3) t

theorem createSuspendedThread_marks (s : State) (p : SchedulerPtr) (entry argument : Nat)
    (handleOut threadOut : Bool) (a : CreateAnswers) :
    MarkEffect s (.createSuspendedThread p entry argument handleOut threadOut a)
      (createSuspendedThread s p entry argument handleOut threadOut a).2 := by
  unfold createSuspendedThread
  split
  · exact MarkEffect.fading (Fading.refl s)
  · rename_i hg
    cases hfree : freeThread? s with
    | none => exact MarkEffect.fading (Fading.refl s)
    | some t =>
      simp only
      rcases allocateObject_eq (s.modThread t fun _ => newThread entry argument) .thread
        (.thread t) with heq | ⟨o, hi, hf, heq⟩
      · rw [heq]
        exact MarkEffect.fading (Fading.of_eq rfl)
      · rw [heq]
        simp only
        have hask :
            asksForObject s (.createSuspendedThread p entry argument handleOut threadOut a) =
              true := by
          simp only [not_or, Decidable.not_not] at hg
          simp [asksForObject, hg, hfree]
        refine MarkEffect.issued o hask ?_
        set s1 := (s.modThread t fun _ => newThread entry argument).modObject o fun _ =>
          newObject .thread o (nextGeneration (s.objects o).generation) (.thread t) with hs1
        have hissue : Issues s s1 o := Issues.of_table hi hf rfl
        have hkeep : ∀ s2, KeepsIssue s1 s2 o → Issues s s2 o := by
          intro s2 hk
          refine ⟨hk.1.trans hi, hf, hk.2.1.trans hissue.generation, ?_⟩
          intro q hq
          rw [hk.2.2 q hq, hissue.others q hq]
        split
        · exact hkeep _ (KeepsIssue.abandon rfl t)
        · refine hkeep _ ?_
          have := furnishThread_keeps (takeStack (identifyThread s1 t o) t a.stack.memory) t o
            (makeHandle .thread o (nextGeneration (s.objects o).generation)) a.stack.memory a
          exact ⟨this.1, this.2.1, this.2.2⟩

/-! ## Every step -/

theorem step_marks (h : Inv s) (op : Op) : MarkEffect s op (step s op) := by
  have herror : ∀ s1 error, Fading s s1 → Fading s (setLastError s1 error) := fun s1 error h1 =>
    h1.then_eq (setLastError_table s1 error)
  cases op with
  | configureStackVm p a b =>
    refine MarkEffect.fading (Fading.of_eq ?_)
    simp only [step, configureStackVm]
    split
    · rfl
    · split <;> rfl
  | configureClock p a =>
    refine MarkEffect.fading (Fading.of_eq ?_)
    simp only [step, configureClock]
    split <;> rfl
  | adoptBootEnvironment p b =>
    exact MarkEffect.fading (Fading.of_eq (adoptBootEnvironment_table s p b))
  | createEvent p m i a => exact createEvent_marks s p m i a
  | createMemoryResourceNotification p n a => exact createMemoryResourceNotification_marks s p n a
  | installStandardStream p r b k => exact installStandardStream_marks s p r b k
  | createSuspendedThread p e a b d w => exact createSuspendedThread_marks s p e a b d w
  | resumeThread handle => exact MarkEffect.fading (Fading.of_eq (resumeThread_table s handle))
  | closeHandle handle u => exact MarkEffect.fading (closeHandle_fading s handle u)
  | signalEvent handle => exact MarkEffect.fading (Fading.of_eq (signalEvent_table s handle))
  | resetEvent handle => exact MarkEffect.fading (Fading.of_eq (resetEvent_table s handle))
  | armWaitTimeout d => exact MarkEffect.fading (Fading.of_eq (armWaitTimeout_table s d))
  | serviceTimeouts now => exact MarkEffect.fading (Fading.of_eq (serviceTimeouts_table s now))
  | pollTimeouts k => exact MarkEffect.fading (Fading.of_eq (pollTimeouts_table s k))
  | prepareWaitRecord handle p => exact MarkEffect.fading (prepareWaitRecord_fading s handle p)
  | finishWait handle => exact MarkEffect.fading (finishWait_fading s handle)
  | prepareYield p => exact MarkEffect.fading (Fading.of_eq (prepareYield_table s p))
  | prepareTerminate v p => exact MarkEffect.fading (Fading.of_eq (prepareTerminate_table s v p))
  | contextSwitch p f =>
    refine MarkEffect.fading (Fading.of_eq ?_)
    simp only [step, contextSwitch]
    split <;> rfl
  | tryDestroyEvent handle =>
    refine MarkEffect.fading ?_
    simp only [step, tryDestroyEvent]
    split
    · exact Fading.refl s
    · split
      · exact Fading.refl s
      · split
        · exact Fading.refl s
        · dsimp only
          refine Fading.trans ?_ (releaseObjectRecord_fading _ _)
          exact Fading.of_eq rfl
  | tryDestroyMemoryResourceNotification handle =>
    refine MarkEffect.fading ?_
    simp only [step, tryDestroyMemoryResourceNotification]
    split
    · exact Fading.refl s
    · split
      · exact Fading.refl s
      · dsimp only
        refine Fading.trans ?_ (releaseObjectRecord_fading _ _)
        exact Fading.of_eq rfl
  | tryReclaimThread t u =>
    refine MarkEffect.fading ?_
    simp only [step, tryReclaimThread]
    split
    · exact Fading.refl s
    · split
      · exact Fading.refl s
      · exact maybeReclaimThread_fading s _ u
  | discardCreatedThread t u => exact MarkEffect.fading (discardCreatedThread_fading s t u)
  | collect p u => exact MarkEffect.fading (collect_fading s p u)
  | teardown p u =>
    rcases teardown_fading h p u with hf | hv
    · exact MarkEffect.fading hf
    · exact MarkEffect.vacated hv
  | noteWorkerStarted =>
    refine MarkEffect.fading (Fading.of_eq ?_)
    simp only [step, noteWorkerStarted]
    split
    · rfl
    · split <;> rfl
  | setFls i v =>
    refine MarkEffect.fading (Fading.of_eq ?_)
    simp only [step, setFls]
    split
    · rfl
    · split <;> rfl
  | setLastError v => exact MarkEffect.fading (Fading.of_eq (setLastError_table s v))
  | waitOne a handle m b k l =>
    refine MarkEffect.fading (waitOne_rule (P := Fading s) (Fading.refl s) ?_ ?_ ?_ ?_ ?_ herror)
    · exact fun e => Fading.of_eq (tokenTaken_table s e)
    · exact Fading.of_eq (pollTimeouts_table s l)
    · exact fun s1 deadline h1 => h1.then_eq (armWaitTimeout_table s1 deadline)
    · exact fun s1 h1 => h1.trans (prepareWaitRecord_fading s1 handle true)
    · exact fun s1 h1 => h1.trans (finishWait_fading s1 handle)
  | setEventContract a handle =>
    exact MarkEffect.fading (eventContract_rule (P := Fading s) (Fading.refl s)
      (Fading.of_eq (signalEvent_table s handle)) herror)
  | resetEventContract a handle =>
    exact MarkEffect.fading (eventContract_rule (P := Fading s) (Fading.refl s)
      (Fading.of_eq (resetEvent_table s handle)) herror)
  | store memory => exact MarkEffect.fading (Fading.of_eq rfl)

end Gate4Harness.Scheduler
