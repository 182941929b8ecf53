-- The creation of a thread, as a whole: it takes a slot, an object, an identity and five blocks
-- of pages, and registers the stack, or it undoes all of it.
import Gate4Harness.SchedulerIdentities
import Gate4Harness.SchedulerMemory

namespace Gate4Harness.Scheduler

variable {s s' s'' : State} {t : ThreadSlot} {o : ObjectSlot} {k : Nat}

/-! ## The call -/

/-- The arguments of a creation and the answers of the callbacks. -/
structure CreateCall where
  scheduler : SchedulerPtr
  entry : Nat
  argument : Nat
  handleOut : Bool
  threadOut : Bool
  answers : CreateAnswers

def CreateCall.op (c : CreateCall) : Op :=
  .createSuspendedThread c.scheduler c.entry c.argument c.handleOut c.threadOut c.answers

def CreateCall.run (s : State) (c : CreateCall) : CreateReply × State :=
  createSuspendedThread s c.scheduler c.entry c.argument c.handleOut c.threadOut c.answers

def EnvironmentAnswers.granted (a : EnvironmentAnswers) : Bool :=
  a.gsArea.granted && a.vector.granted && a.block.granted && a.teb.granted

/-- The slots that a creation takes, when it gets as far as the call of `register_stack_vm`. -/
def CreateCall.slots (s : State) (c : CreateCall) : Option (ThreadSlot × ObjectSlot) :=
  if s.accepts c.scheduler ∧ c.entry ≠ 0 ∧ c.handleOut ∧ c.threadOut ∧ s.config.registerStackVm ∧
      s.config.unregisterStackVm ∧ c.answers.stack.granted ∧ c.answers.canary.granted ∧
      c.answers.environment.granted then
    match freeThread? s, freeObject? s with
    | some t, some o => some (t, o)
    | _, _ => none
  else none

/-! ## The part after the identity was taken -/

/-- Only the thread in the slot `t` and the machine change. -/
structure WorksOn (t : ThreadSlot) (s s' : State) : Prop where
  others : ∀ u, u ≠ t → s'.threads u = s.threads u
  rest : s' = { s with threads := s'.threads, machine := s'.machine }

theorem WorksOn.refl (t : ThreadSlot) (s : State) : WorksOn t s s := ⟨fun _ _ => rfl, rfl⟩

theorem WorksOn.thenThread (h : WorksOn t s s') (f : Tcb → Tcb) :
    WorksOn t s (s'.modThread t f) := by
  refine ⟨fun u hu => ?_, ?_⟩
  · simp only [State.modThread_threads, Function.update_of_ne hu]
    exact h.others u hu
  · have hrest := h.rest
    unfold State.modThread
    dsimp only
    rw [hrest]

theorem WorksOn.thenMachine (h : WorksOn t s s') (f : Machine → Machine) :
    WorksOn t s (s'.modMachine f) := by
  refine ⟨h.others, ?_⟩
  have hrest := h.rest
  unfold State.modMachine
  dsimp only
  rw [hrest]

theorem WorksOn.pageAllocate (h : WorksOn t s s') (a : PageAnswer) :
    WorksOn t s (pageAllocate s' a).2 := by
  unfold Scheduler.pageAllocate
  split
  · dsimp only
    exact h.thenMachine _
  · exact h

theorem WorksOn.pageFree (h : WorksOn t s s') (memory : Nat) :
    WorksOn t s (pageFree s' memory) := by
  unfold Scheduler.pageFree
  split
  · exact h.thenMachine _
  · exact h

theorem WorksOn.freeEnvironmentPages (h : WorksOn t s s') (a b c d : Nat) :
    WorksOn t s (freeEnvironmentPages s' a b c d) :=
  (((h.pageFree a).pageFree b).pageFree c).pageFree d

theorem WorksOn.freeThreadEnvironment (h : WorksOn t s s') :
    WorksOn t s (freeThreadEnvironment s' t) := by
  unfold Scheduler.freeThreadEnvironment
  split
  · exact h
  · dsimp only
    split
    · exact (h.freeEnvironmentPages _ _ _ _).thenThread _
    · exact h.thenThread _

theorem WorksOn.setCanaries (h : WorksOn t s s') : WorksOn t s (setCanaries s' t) := by
  unfold Scheduler.setCanaries
  dsimp only
  exact (h.thenThread _).thenMachine _

theorem WorksOn.takeStack (h : WorksOn t s s') (memory : Nat) :
    WorksOn t s (takeStack s' t memory) :=
  (h.thenMachine _).thenThread _

theorem WorksOn.allocateThreadEnvironment (h : WorksOn t s s') (a : EnvironmentAnswers) :
    WorksOn t s (allocateThreadEnvironment s' t a).2 := by
  have hpages : WorksOn t s (environmentPages s' a).2 :=
    (((h.pageAllocate a.gsArea).pageAllocate a.vector).pageAllocate a.block).pageAllocate a.teb
  unfold Scheduler.allocateThreadEnvironment
  split
  · exact h
  · generalize environmentPages s' a = pages at hpages ⊢
    obtain ⟨⟨gsArea, vector, block, teb⟩, s1⟩ := pages
    dsimp only at hpages ⊢
    split
    · exact hpages.freeEnvironmentPages _ _ _ _
    · dsimp only [writeEnvironment]
      exact ((hpages.thenThread _).thenMachine _).thenThread _

theorem WorksOn.finishCreation (h : WorksOn t s s') (identity : Nat) :
    WorksOn t s (finishCreation s' t identity) := by
  unfold Scheduler.finishCreation
  dsimp only
  exact (((h.thenThread _).thenMachine _).thenThread _).thenThread _

/-! ## The answers of the callbacks -/

theorem PageAnswer.memory_ne (a : PageAnswer) (h : a.granted = true) : a.memory ≠ 0 := by
  unfold PageAnswer.granted at h
  simp only [Bool.and_eq_true, decide_eq_true_eq] at h
  exact h.2

/-- A page is null exactly when it was not granted. -/
theorem pageAllocate_eq_zero (s : State) (a : PageAnswer) :
    (pageAllocate s a).1 = 0 ↔ a.granted = false := by
  unfold pageAllocate
  split
  · rename_i h
    simp [h, a.memory_ne h]
  · rename_i h
    simpa using h

theorem environmentPages_eq_zero (s : State) (a : EnvironmentAnswers) :
    ((environmentPages s a).1.1 = 0 ∨ (environmentPages s a).1.2.1 = 0 ∨
      (environmentPages s a).1.2.2.1 = 0 ∨ (environmentPages s a).1.2.2.2 = 0) ↔
    a.granted = false := by
  unfold environmentPages EnvironmentAnswers.granted
  dsimp only
  simp only [pageAllocate_eq_zero, Bool.and_eq_false_iff, or_assoc]

theorem allocateThreadEnvironment_fst (hi : s.installed = true) (t : ThreadSlot)
    (a : EnvironmentAnswers) : (allocateThreadEnvironment s t a).1 = a.granted := by
  have hzero := environmentPages_eq_zero s a
  unfold allocateThreadEnvironment
  rw [if_neg (by simp [hi])]
  generalize environmentPages s a = pages at hzero ⊢
  obtain ⟨⟨gsArea, vector, block, teb⟩, s1⟩ := pages
  dsimp only at hzero ⊢
  split
  · rename_i h
    exact (hzero.mp h).symm
  · rename_i h
    rw [hzero] at h
    simpa using h

/-! ## Success or undo -/

/-- The thread once it has its slots and its identity. -/
def identified (s : State) (c : CreateCall) (t : ThreadSlot) (o : ObjectSlot) : State :=
  identifyThread ((s.modThread t fun _ => newThread c.entry c.argument).modObject o fun _ =>
    newObject .thread o (nextGeneration (s.objects o).generation) (.thread t)) t o

/-- The thread once it has its stack and the page of its canary. -/
def stacked (s : State) (c : CreateCall) (t : ThreadSlot) (o : ObjectSlot) : State :=
  setCanaries ((pageAllocate (takeStack (identified s c t o) t c.answers.stack.memory)
    c.answers.canary).2.modThread t fun thread =>
      { thread with stackCanaryMemory := c.answers.canary.memory }) t

/-- The state after a creation that succeeds. -/
def createdState (s : State) (c : CreateCall) (t : ThreadSlot) (o : ObjectSlot)
    (stackVmIdentity : Nat) : State :=
  finishCreation (allocateThreadEnvironment (stacked s c t o) t c.answers.environment).2 t
    stackVmIdentity

/-- What a creation that fails leaves as it was: all but the memory, the page calls and the
generations of the free object records. -/
structure Undone (s s' : State) : Prop where
  threads : s'.threads = s.threads
  objects : ∀ o, (s'.objects o).view = (s.objects o).view
  identity : s'.nextIdentity = s.nextIdentity
  queue : s'.runnableQueue = s.runnableQueue
  count : s'.runnableCount = s.runnableCount
  current : s'.current = s.current

theorem Undone.refl (s : State) : Undone s s := ⟨rfl, fun _ => rfl, rfl, rfl, rfl, rfl⟩

/-- Each failure exit after the identity was taken undoes the creation. -/
theorem WorksOn.undone {c : CreateCall} (h : WorksOn t (identified s c t o) s')
    (ht : s.threads t = {}) (ho : (s.objects o).live = false) (hk : s.nextIdentity < 2 ^ 32) :
    Undone s (abandonThread s' t o) := by
  have hrest := h.rest
  refine ⟨?_, ?_, ?_, ?_, ?_, ?_⟩
  · funext u
    rw [abandonThread_threads]
    split
    · rename_i hu
      rw [hu, ht]
    · rename_i hu
      rw [h.others u hu]
      simp [identified, identifyThread, hu]
  · intro p
    by_cases hp : p = o
    · subst hp
      simp [abandonThread, releaseObjectRecord, Object.view, ho]
    · have hobject : s'.objects = (identified s c t o).objects := by rw [hrest]
      simp [abandonThread, releaseObjectRecord, hp, hobject, identified, identifyThread]
  · have hidentity : s'.nextIdentity = (identified s c t o).nextIdentity := by rw [hrest]
    simp only [abandonThread, State.modThread_nextIdentity, releaseObjectRecord,
      State.modObject_nextIdentity, hidentity, identified, identifyThread]
    omega
  · have hqueue : s'.runnableQueue = (identified s c t o).runnableQueue := by rw [hrest]
    exact hqueue
  · have hcount : s'.runnableCount = (identified s c t o).runnableCount := by rw [hrest]
    exact hcount
  · have hcurrent : s'.current = (identified s c t o).current := by rw [hrest]
    exact hcurrent

/-- The end of a creation: every callback grants what it is asked for, or the creation is
abandoned. -/
theorem equipThread_outcome {s0 : State} (h : WorksOn t s0 s) (hi : s.installed = true)
    (o : ObjectSlot) (handle stack canary : Nat) (a : CreateAnswers) :
    (∃ identity, a.environment.granted = true ∧ a.stackVm = some (identity + 1) ∧
      equipThread s t o handle stack canary a =
        ({ ok := true, handle, thread := some t },
          finishCreation (allocateThreadEnvironment s t a.environment).2 t (identity + 1))) ∨
    ((∀ identity, a.environment.granted = true → a.stackVm ≠ some (identity + 1)) ∧
      ∃ s', WorksOn t s0 s' ∧
        equipThread s t o handle stack canary a = ({}, abandonThread s' t o)) := by
  have hgranted := allocateThreadEnvironment_fst hi t a.environment
  have hworks := h.allocateThreadEnvironment a.environment
  unfold equipThread
  generalize allocateThreadEnvironment s t a.environment = furnished at hgranted hworks ⊢
  obtain ⟨furnished, s1⟩ := furnished
  dsimp only at hgranted hworks ⊢
  subst hgranted
  split
  · rename_i hno
    refine Or.inr ⟨fun _ hyes => absurd hyes hno, _, ?_, rfl⟩
    exact (hworks.pageFree canary).pageFree stack
  · rename_i hyes
    have hyes : a.environment.granted = true := by simpa using hyes
    split
    · rename_i identity hvm
      exact Or.inl ⟨identity, hyes, hvm, rfl⟩
    · rename_i hvm
      refine Or.inr ⟨fun identity _ => hvm identity, _, ?_, rfl⟩
      exact (hworks.freeThreadEnvironment.pageFree canary).pageFree stack

theorem furnishThread_outcome {s0 : State} (h : WorksOn t s0 s) (hi : s.installed = true)
    (o : ObjectSlot) (handle stack : Nat) (a : CreateAnswers) :
    (∃ identity, a.canary.granted = true ∧ a.environment.granted = true ∧
      a.stackVm = some (identity + 1) ∧
      furnishThread s t o handle stack a =
        ({ ok := true, handle, thread := some t },
          finishCreation (allocateThreadEnvironment (setCanaries
            ((pageAllocate s a.canary).2.modThread t fun thread =>
              { thread with stackCanaryMemory := a.canary.memory }) t) t a.environment).2 t
            (identity + 1))) ∨
    ((∀ identity, a.canary.granted = true → a.environment.granted = true →
        a.stackVm ≠ some (identity + 1)) ∧
      ∃ s', WorksOn t s0 s' ∧ furnishThread s t o handle stack a = ({}, abandonThread s' t o)) := by
  have hworks := h.pageAllocate a.canary
  have hzero := pageAllocate_eq_zero s a.canary
  have hgot : a.canary.granted = true → (pageAllocate s a.canary).1 = a.canary.memory := by
    intro hyes
    simp [pageAllocate, hyes]
  have hi1 : (pageAllocate s a.canary).2.installed = true :=
    (pageAllocate_unseen s a.canary).installed.trans hi
  unfold furnishThread
  generalize pageAllocate s a.canary = page at hworks hzero hgot hi1 ⊢
  obtain ⟨canary, s1⟩ := page
  dsimp only at hworks hzero hgot hi1 ⊢
  split
  · rename_i hno
    have hno := hzero.mp hno
    refine Or.inr ⟨fun _ hyes => by simp [hno] at hyes, _, ?_, rfl⟩
    exact (hworks.thenThread _).pageFree stack
  · rename_i hne
    have hyes : a.canary.granted = true := by simpa [hzero] using hne
    have hcanary := hgot hyes
    subst hcanary
    rcases equipThread_outcome (hworks.thenThread fun thread =>
        { thread with stackCanaryMemory := a.canary.memory }).setCanaries hi1 o handle stack
        a.canary.memory a with ⟨identity, henv, hvm, heq⟩ | ⟨hno, hundo⟩
    · exact Or.inl ⟨identity, hyes, henv, hvm, heq⟩
    · exact Or.inr ⟨fun identity _ => hno identity, hundo⟩

/-- A creation succeeds when it gets to the registration of the stack and that one succeeds too.
Else it undoes all it did. -/
theorem CreateCall.run_cases (h : Tidy k s) (hk : k < 2 ^ 32) (c : CreateCall) :
    (∃ t o identity, c.slots s = some (t, o) ∧ c.answers.stackVm = some (identity + 1) ∧
      c.run s = ({ ok := true, thread := some t,
                   handle := makeHandle .thread o (nextGeneration (s.objects o).generation) },
        createdState s c t o (identity + 1))) ∨
    ((∀ t o identity, c.slots s = some (t, o) → c.answers.stackVm ≠ some (identity + 1)) ∧
      (c.run s).1 = {} ∧ Undone s (c.run s).2) := by
  have hk : s.nextIdentity < 2 ^ 32 := by rw [h.identity]; exact hk
  have hrefused : c.run s = ({}, s) → (c.run s).1 = {} ∧ Undone s (c.run s).2 := by
    intro heq
    rw [heq]
    exact ⟨rfl, Undone.refl s⟩
  by_cases hguard : s.accepts c.scheduler ∧ c.entry ≠ 0 ∧ c.handleOut ∧ c.threadOut ∧
      s.config.registerStackVm ∧ s.config.unregisterStackVm
  · obtain ⟨g1, g2, g3, g4, g5, g6⟩ := hguard
    have hi : s.installed = true := by
      simp only [State.accepts, Bool.and_eq_true] at g1
      exact g1.2
    cases hft : freeThread? s with
    | none =>
      refine Or.inr ⟨fun t o _ hslots => ?_, hrefused ?_⟩
      · simp [slots, hft] at hslots
      · simp [run, createSuspendedThread, hft]
    | some t =>
      have ht := h.blank t (freeThread?_live hft)
      cases hfo : freeObject? s with
      | none =>
        refine Or.inr ⟨fun t o _ hslots => ?_, hrefused ?_⟩
        · simp [slots, hft, hfo] at hslots
        · have hfo' : freeObject? (s.modThread t fun _ => newThread c.entry c.argument) = none :=
            hfo
          have hback : (s.modThread t fun _ => newThread c.entry c.argument).modThread t
              (fun _ => {}) = s := by
            unfold State.modThread
            rw [Function.update_idem, ← ht, Function.update_eq_self]
          simp [run, createSuspendedThread, hft, allocateObject, hfo', hback, g1, g2, g3, g4, g5,
            g6]
      | some o =>
        have ho := freeObject?_live hfo
        have hfo' : freeObject? (s.modThread t fun _ => newThread c.entry c.argument) = some o :=
          hfo
        have halloc : allocateObject (s.modThread t fun _ => newThread c.entry c.argument) .thread
            (.thread t) = (some (o, makeHandle .thread o (nextGeneration (s.objects o).generation)),
              (s.modThread t fun _ => newThread c.entry c.argument).modObject o fun _ =>
                newObject .thread o (nextGeneration (s.objects o).generation) (.thread t)) := by
          simp [allocateObject, hfo', hi, newObject]
        have hrun : c.run s = if ¬ c.answers.stack.granted then
              ({}, abandonThread (identified s c t o) t o)
            else furnishThread (takeStack (identified s c t o) t c.answers.stack.memory) t o
              (makeHandle .thread o (nextGeneration (s.objects o).generation))
              c.answers.stack.memory c.answers := by
          simp only [run, createSuspendedThread, hft, halloc]
          simp [g1, g2, g3, g4, g5, g6, identified]
        have hslots : ∀ p, c.slots s = some p ↔ (c.answers.stack.granted = true ∧
            c.answers.canary.granted = true ∧ c.answers.environment.granted = true) ∧
            (t, o) = p := by
          intro p
          simp [slots, hft, hfo, g1, g2, g3, g4, g5, g6]
        have hfailed : ∀ s', WorksOn t (identified s c t o) s' →
            c.run s = ({}, abandonThread s' t o) →
            (c.run s).1 = {} ∧ Undone s (c.run s).2 := by
          intro s' hworks heq
          rw [heq]
          exact ⟨rfl, hworks.undone ht ho hk⟩
        by_cases hstack : c.answers.stack.granted = true
        · rw [if_neg (by simp [hstack])] at hrun
          have hworks := (WorksOn.refl t (identified s c t o)).takeStack c.answers.stack.memory
          rcases furnishThread_outcome hworks hi o
              (makeHandle .thread o (nextGeneration (s.objects o).generation))
              c.answers.stack.memory c.answers with
            ⟨identity, hcanary, henv, hvm, heq⟩ | ⟨hno, s', hs', heq⟩
          · refine Or.inl ⟨t, o, identity, ?_, hvm, hrun.trans heq⟩
            exact (hslots _).mpr ⟨⟨hstack, hcanary, henv⟩, rfl⟩
          · refine Or.inr ⟨fun _ _ identity hp => ?_, hfailed s' hs' (hrun.trans heq)⟩
            obtain ⟨⟨_, hcanary, henv⟩, _⟩ := (hslots _).mp hp
            exact hno identity hcanary henv
        · rw [if_pos hstack] at hrun
          refine Or.inr ⟨fun _ _ _ hp => ?_, hfailed _ (WorksOn.refl t _) hrun⟩
          exact absurd ((hslots _).mp hp).1.1 hstack
  · refine Or.inr ⟨fun t o _ hslots => ?_, hrefused ?_⟩
    · unfold slots at hslots
      rw [if_neg] at hslots
      · cases hslots
      · rintro ⟨g1, g2, g3, g4, g5, g6, _⟩
        exact hguard ⟨g1, g2, g3, g4, g5, g6⟩
    · unfold run createSuspendedThread
      rw [if_pos]
      by_contra hno
      simp only [not_or, Decidable.not_not] at hno
      obtain ⟨g1, g2, g3, g4, g5, g6⟩ := hno
      exact hguard ⟨g1, g2, g3, g4, g5, g6⟩

/-! ## The new thread -/

/-- The last word of the stack above its canary, where the return address of the entry goes. -/
def returnSlot (stackMemory : Nat) : Nat :=
  sub64 (sub64 (add64 stackMemory stackSize) canaryBytes / 16 * 16) 8

/-- The TCB of a new thread. -/
def createdTcb (s : State) (c : CreateCall) (t : ThreadSlot) (o : ObjectSlot)
    (stackVmIdentity : Nat) : Tcb :=
  { live := true, identity := s.nextIdentity
    generation := nextGeneration (s.objects o).generation, objectSlot := o
    state := .createdSuspended, suspendCount := 1, publicHandleRefs := 1, executionRefs := 1
    entry := c.entry, entryArgument := c.argument
    stackPagesMemory := c.answers.stack.memory, stackBase := c.answers.stack.memory
    stackLimit := add64 c.answers.stack.memory stackSize
    stackCanaryMemory := c.answers.canary.memory
    lowCanary := fun index => (0xC1 + index) % 256
    highCanary := fun index => (0xD7 + index) % 256
    gsBase := c.answers.environment.gsArea.memory
    tlsVectorBase := c.answers.environment.vector.memory
    tlsBlockBase := c.answers.environment.block.memory
    tebBase := c.answers.environment.teb.memory, environmentOwned := true, stackVmIdentity
    initialRsp := returnSlot c.answers.stack.memory
    context :=
      { rbx := workerSentinel 1, rbp := workerSentinel 2, rsi := workerSentinel 3,
        rdi := workerSentinel 4, r12 := c.entry, r13 := c.argument, r14 := workerSentinel 7,
        r15 := workerSentinel 8, rsp := returnSlot c.answers.stack.memory,
        rip := s.config.startWorker, rflags := 0x2, mxcsr := 0x3F80, x87Control := 0x077F,
        gsBase := c.answers.environment.gsArea.memory }
    savedContext := some (.initial t) }

/-- The memory once the two canaries of a stack were written. -/
def canaryMemory (m : Nat → Nat) (canary top : Nat) : Nat → Nat :=
  (List.range canaryBytes).foldl
    (fun mem index => writeByte (writeByte mem (canary + index) ((0xC1 + index) % 256))
      (top + index) ((0xD7 + index) % 256)) m

/-- The memory once the four pages of an environment were cleared and filled in. -/
def environmentMemory (m : Nat → Nat) (a : EnvironmentAnswers) (upper lower identity : Nat) :
    Nat → Nat :=
  let m1 := zeroBytes (zeroBytes (zeroBytes (zeroBytes m a.gsArea.memory pageSize)
    a.vector.memory pageSize) a.block.memory pageSize) a.teb.memory pageSize
  let m2 := write64 m1 a.vector.memory a.block.memory
  let m3 := write64 m2 (a.gsArea.memory + 0x30) a.teb.memory
  let m4 := write64 m3 (a.gsArea.memory + 0x58) a.vector.memory
  let m5 := write64 m4 (a.teb.memory + 0x08) upper
  let m6 := write64 m5 (a.teb.memory + 0x10) lower
  let m7 := write64 m6 (a.teb.memory + 0x100) identity
  zeroBytes m7 a.block.memory pageSize

/-- The memory after a creation that succeeds. -/
def createdMemory (s : State) (a : CreateAnswers) : Nat → Nat :=
  let limit := add64 a.stack.memory stackSize
  let m1 := zeroBytes (zeroBytes s.machine.memory a.stack.memory stackSize) a.canary.memory
    pageSize
  let m2 := canaryMemory m1 a.canary.memory (sub64 limit canaryBytes)
  write64 (environmentMemory m2 a.environment limit a.stack.memory s.nextIdentity)
    (returnSlot a.stack.memory) s.config.invalidThreadReturn

theorem pageAllocate_granted {a : PageAnswer} (h : a.granted = true) (s : State) :
    pageAllocate s a = (a.memory, s.modMachine fun m =>
      { m with
        memory := zeroBytes m.memory a.memory pageSize
        pageCalls := m.pageCalls ++ [.obtained a.memory 1] }) := by
  simp [pageAllocate, h]

theorem allocateThreadEnvironment_granted (hi : s.installed = true) {a : EnvironmentAnswers}
    (h : a.granted = true) (hworker : (s.threads t).isBootThread = false) :
    (allocateThreadEnvironment s t a).2.threads t = furnished (s.threads t) a.gsArea.memory
      a.vector.memory a.block.memory a.teb.memory ∧
    (allocateThreadEnvironment s t a).2.config = s.config ∧
    (allocateThreadEnvironment s t a).2.machine.memory = environmentMemory s.machine.memory a
      (s.threads t).stackLimit (s.threads t).stackBase (s.threads t).identity := by
  unfold EnvironmentAnswers.granted at h
  simp only [Bool.and_eq_true] at h
  obtain ⟨⟨⟨hg, hv⟩, hb⟩, ht⟩ := h
  have hne := And.intro (a.gsArea.memory_ne hg) (And.intro (a.vector.memory_ne hv)
    (And.intro (a.block.memory_ne hb) (a.teb.memory_ne ht)))
  unfold allocateThreadEnvironment environmentPages
  rw [pageAllocate_granted hg]
  dsimp only
  rw [pageAllocate_granted hv]
  dsimp only
  rw [pageAllocate_granted hb]
  dsimp only
  rw [pageAllocate_granted ht]
  simp [hi, hne, hworker, furnished, writeEnvironment, environmentMemory]

/-- The TCB of a new thread before it gets its environment. -/
def stackedTcb (s : State) (c : CreateCall) (o : ObjectSlot) : Tcb :=
  { newThread c.entry c.argument with
    identity := s.nextIdentity
    generation := nextGeneration (s.objects o).generation, objectSlot := o
    stackPagesMemory := c.answers.stack.memory, stackBase := c.answers.stack.memory
    stackLimit := add64 c.answers.stack.memory stackSize
    stackCanaryMemory := c.answers.canary.memory
    lowCanary := fun index => (0xC1 + index) % 256
    highCanary := fun index => (0xD7 + index) % 256 }

theorem stacked_facts (s : State) {c : CreateCall} (t : ThreadSlot) (o : ObjectSlot)
    (hcanary : c.answers.canary.granted = true) :
    (stacked s c t o).threads t = stackedTcb s c o ∧ (stacked s c t o).config = s.config ∧
    (stacked s c t o).machine.memory = canaryMemory (zeroBytes (zeroBytes s.machine.memory
      c.answers.stack.memory stackSize) c.answers.canary.memory pageSize) c.answers.canary.memory
      (sub64 (add64 c.answers.stack.memory stackSize) canaryBytes) := by
  unfold stacked
  rw [pageAllocate_granted hcanary]
  refine ⟨?_, ?_, ?_⟩
  · simp [setCanaries, takeStack, identified, identifyThread, stackedTcb, newThread, newObject]
  · simp [setCanaries, takeStack, identified, identifyThread]
  · simp [setCanaries, takeStack, identified, identifyThread, canaryMemory]

theorem createdState_facts (hi : s.installed = true) {c : CreateCall} (t : ThreadSlot)
    (o : ObjectSlot) (hcanary : c.answers.canary.granted = true)
    (henv : c.answers.environment.granted = true) (identity : Nat) :
    (createdState s c t o identity).threads t = createdTcb s c t o identity ∧
    (createdState s c t o identity).config = s.config ∧
    (createdState s c t o identity).machine.memory = createdMemory s c.answers := by
  obtain ⟨hthread, hconfig, hmemory⟩ := stacked_facts s t o hcanary
  have hinst : (stacked s c t o).installed = true := by
    have hworks := (((WorksOn.refl t (identified s c t o)).takeStack
      c.answers.stack.memory).pageAllocate c.answers.canary).thenThread fun thread =>
        { thread with stackCanaryMemory := c.answers.canary.memory }
    have hrest := congrArg State.installed hworks.setCanaries.rest
    exact hrest.trans hi
  have hworker : ((stacked s c t o).threads t).isBootThread = false := by
    rw [hthread]
    rfl
  obtain ⟨hfurnished, hconfig', hmemory'⟩ := allocateThreadEnvironment_granted hinst henv hworker
  rw [hthread] at hfurnished hmemory'
  rw [hmemory] at hmemory'
  unfold createdState
  generalize (allocateThreadEnvironment (stacked s c t o) t c.answers.environment).2 = s1 at *
  refine ⟨?_, ?_, ?_⟩
  · simp [finishCreation, initialContext, hfurnished, furnished, stackedTcb, newThread, createdTcb,
      returnSlot, hconfig', hconfig]
  · simp [finishCreation, hconfig', hconfig]
  · simp [finishCreation, hmemory', hfurnished, furnished, stackedTcb, createdMemory, returnSlot,
      hconfig', hconfig]

end Gate4Harness.Scheduler
