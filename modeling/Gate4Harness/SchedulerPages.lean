-- The pages of the scheduler. Every block that `allocate_pages` hands out is held
-- by one thread until it goes back to `free_pages`. But `page_free` gives back one
-- page of a block, and the block of a stack has four.
import Mathlib.Tactic.Abel
import Gate4Harness.SchedulerKept

namespace Gate4Harness.Scheduler

variable {s s' : State} {t : ThreadSlot} {m : Multiset Nat}

/-! ## Pages owed to the allocator -/

/-- The pages of a block. -/
def pagesFrom (base pages : Nat) : Multiset Nat :=
  (Multiset.range pages).map fun i => base + pageSize * i

def PageCall.obtainedPages : PageCall → Multiset Nat
  | .obtained base pages => pagesFrom base pages
  | .returned _ _ => 0

def PageCall.returnedPages : PageCall → Multiset Nat
  | .obtained _ _ => 0
  | .returned base pages => pagesFrom base pages

/-- The pages `m` were obtained and not returned. -/
def Owing (s : State) (m : Multiset Nat) : Prop :=
  (s.machine.pageCalls.map PageCall.obtainedPages).sum =
    (s.machine.pageCalls.map PageCall.returnedPages).sum + m

theorem Owing.congr (h : Owing s m) (hc : s'.machine.pageCalls = s.machine.pageCalls) :
    Owing s' m := by
  unfold Owing
  rw [hc]
  exact h

theorem Owing.modThread (h : Owing s m) (t : ThreadSlot) (f : Tcb → Tcb) :
    Owing (s.modThread t f) m := h.congr rfl

theorem Owing.obtain (h : Owing s m) {base pages : Nat}
    (hc : s'.machine.pageCalls = s.machine.pageCalls ++ [.obtained base pages]) :
    Owing s' (m + pagesFrom base pages) := by
  unfold Owing at h ⊢
  rw [hc]
  simp only [List.map_append, List.map_cons, List.map_nil, List.sum_append, List.sum_cons,
    List.sum_nil, PageCall.obtainedPages, PageCall.returnedPages, add_zero]
  rw [h, add_assoc]

theorem Owing.giveBack {base pages : Nat} (h : Owing s (m + pagesFrom base pages))
    (hc : s'.machine.pageCalls = s.machine.pageCalls ++ [.returned base pages]) :
    Owing s' m := by
  unfold Owing at h ⊢
  rw [hc]
  simp only [List.map_append, List.map_cons, List.map_nil, List.sum_append, List.sum_cons,
    List.sum_nil, PageCall.obtainedPages, PageCall.returnedPages, add_zero]
  rw [h, add_assoc, add_comm m]

theorem pagesFrom_one {base : Nat} (h : base ≠ 0) : pagesFrom base 1 = block base := by
  simp [pagesFrom, block, h]

/-- The pages of a stack after its first one. `page_free` never gives them back. -/
def stackTail (base : Nat) : Multiset Nat := pagesFrom (base + pageSize) (stackPages - 1)

theorem pagesFrom_stack {base : Nat} (h : base ≠ 0) :
    pagesFrom base stackPages = stackTail base + block base := by
  rw [block, if_neg h]
  simp only [stackTail, pagesFrom, stackPages, stackSize, pageSize]
  simp [Multiset.range_succ, Nat.add_assoc]

theorem pageAllocate_owing (h : Owing s m) (a : PageAnswer) :
    Owing (pageAllocate s a).2 (m + block (pageAllocate s a).1) := by
  unfold pageAllocate
  split
  · rename_i hg
    have hne : a.memory ≠ 0 := by
      simp only [PageAnswer.granted, Bool.and_eq_true, decide_eq_true_eq] at hg
      exact hg.2
    simp only [← pagesFrom_one hne]
    exact h.obtain rfl
  · simpa using h

theorem pageFree_owing {memory : Nat} (h : Owing s (m + block memory)) :
    Owing (pageFree s memory) m := by
  unfold pageFree
  split
  · rename_i hne
    rw [← pagesFrom_one hne] at h
    exact h.giveBack rfl
  · rename_i h0
    have h0 : memory = 0 := by simpa using h0
    simpa [block, h0] using h

theorem environmentPages_owing (h : Owing s m) (a : EnvironmentAnswers)
    {gsArea vector tls teb : Nat}
    (hp : environmentPages s a = ((gsArea, vector, tls, teb), s')) :
    Owing s' (m + (block gsArea + block vector + block tls + block teb)) := by
  have h1 := pageAllocate_owing h a.gsArea
  have h2 := pageAllocate_owing h1 a.vector
  have h3 := pageAllocate_owing h2 a.block
  have h4 := pageAllocate_owing h3 a.teb
  simp only [environmentPages, Prod.mk.injEq] at hp
  obtain ⟨⟨rfl, rfl, rfl, rfl⟩, rfl⟩ := hp
  simpa only [add_assoc] using h4

theorem freeEnvironmentPages_owing {gsArea vector tls teb : Nat}
    (h : Owing s (m + (block gsArea + block vector + block tls + block teb))) :
    Owing (freeEnvironmentPages s gsArea vector tls teb) m := by
  have h1 : Owing s (m + block teb + block tls + block vector + block gsArea) := by
    have hsum : m + block teb + block tls + block vector + block gsArea =
        m + (block gsArea + block vector + block tls + block teb) := by abel
    rw [hsum]
    exact h
  exact pageFree_owing (pageFree_owing (pageFree_owing (pageFree_owing h1)))

/-! ## Functions that leave the threads alone -/

@[simp]
theorem pageAllocate_threads (s : State) (a : PageAnswer) :
    (pageAllocate s a).2.threads = s.threads := by
  unfold pageAllocate
  split <;> rfl

@[simp]
theorem pageFree_threads (s : State) (memory : Nat) : (pageFree s memory).threads = s.threads := by
  unfold pageFree
  split <;> rfl

@[simp]
theorem environmentPages_threads (s : State) (a : EnvironmentAnswers) :
    (environmentPages s a).2.threads = s.threads := by
  simp [environmentPages]

@[simp]
theorem freeEnvironmentPages_threads (s : State) (a b c d : Nat) :
    (freeEnvironmentPages s a b c d).threads = s.threads := by
  simp [freeEnvironmentPages]

/-! ## The environment of a thread -/

/-- A thread that got its environment. -/
def furnished (x : Tcb) (gsArea vector tls teb : Nat) : Tcb :=
  { x with gsBase := gsArea, tlsVectorBase := vector, tlsBlockBase := tls, tebBase := teb,
           environmentOwned := true }

/-- The environment is allocated as a whole, or every page of it goes back. -/
theorem allocateThreadEnvironment_pages (hi : s.installed = true) (a : EnvironmentAnswers) :
    ((allocateThreadEnvironment s t a).1 = false ∧
      (allocateThreadEnvironment s t a).2.threads = s.threads ∧
      ∀ m, Owing s m → Owing (allocateThreadEnvironment s t a).2 m) ∨
    ∃ gsArea vector tls teb, (allocateThreadEnvironment s t a).1 = true ∧
      (allocateThreadEnvironment s t a).2.threads = Function.update s.threads t
        (furnished (s.threads t) gsArea vector tls teb) ∧
      ∀ m, Owing s m → Owing (allocateThreadEnvironment s t a).2
        (m + (block gsArea + block vector + block tls + block teb)) := by
  rcases hp : environmentPages s a with ⟨⟨gsArea, vector, tls, teb⟩, s1⟩
  have hthreads : s1.threads = s.threads := by
    have := environmentPages_threads s a
    rw [hp] at this
    exact this
  unfold allocateThreadEnvironment
  simp only [hi, not_true_eq_false, if_false, hp]
  split
  · refine Or.inl ⟨rfl, ?_, ?_⟩
    · rw [freeEnvironmentPages_threads]
      exact hthreads
    · intro m h
      exact freeEnvironmentPages_owing (environmentPages_owing h a hp)
  · refine Or.inr ⟨gsArea, vector, tls, teb, rfl, ?_, ?_⟩
    · funext u
      by_cases hu : u = t
      · subst hu
        simp [furnished, writeEnvironment, hthreads]
      · simp [furnished, writeEnvironment, hthreads, hu]
    · intro m h
      exact (environmentPages_owing h a hp).congr rfl

/-- A thread without its environment. -/
def unfurnished (x : Tcb) : Tcb :=
  { x with gsBase := 0, tlsVectorBase := 0, tlsBlockBase := 0, tebBase := 0,
           environmentOwned := false }

theorem freeThreadEnvironment_pages (hi : s.installed = true) (t : ThreadSlot) :
    (freeThreadEnvironment s t).threads =
      Function.update s.threads t (unfurnished (s.threads t)) ∧
    ∀ m, Owing s (m + (s.threads t).environmentBlocks) → Owing (freeThreadEnvironment s t) m := by
  unfold freeThreadEnvironment
  simp only [hi, not_true_eq_false, if_false]
  constructor
  · funext u
    by_cases hu : u = t
    · subst hu
      split <;> simp [unfurnished]
    · split <;> simp [hu]
  · intro m h
    unfold Tcb.environmentBlocks at h
    split
    · rename_i ho
      rw [if_pos ho] at h
      exact (freeEnvironmentPages_owing h).congr rfl
    · rename_i ho
      rw [if_neg ho, add_zero] at h
      exact h.congr rfl

/-! ## Creation -/

theorem abandonThread_owing (h : Owing s m) (t : ThreadSlot) (o : ObjectSlot) :
    Owing (abandonThread s t o) m := h.congr rfl

theorem abandonThread_threads (s : State) (t u : ThreadSlot) (o : ObjectSlot) :
    (abandonThread s t o).threads u = if u = t then {} else s.threads u := by
  simp [abandonThread, releaseObjectRecord, Function.update_apply]

/-- How a creation ends that took the blocks `taken` for its thread `t`: the thread holds
the blocks that it took, or it is abandoned and each block went back. The pages `lost` go
back in neither case. -/
structure CreationEnds (s s' : State) (t : ThreadSlot) (taken lost : Multiset Nat)
    (reply : CreateReply) : Prop where
  others : ∀ u, u ≠ t → s'.threads u = s.threads u
  ends : (reply.thread = none ∧ s'.threads t = {} ∧
      ∀ m, Owing s (m + taken) → Owing s' (m + lost)) ∨
    (reply.thread = some t ∧ (s'.threads t).live = true ∧
      (s'.threads t).savedContext = some (.initial t) ∧
      ∀ m, Owing s (m + taken) → Owing s' (m + lost + (s'.threads t).blocks))

/-- The steps of a creation before the last part. -/
theorem CreationEnds.after {s0 : State} {taken0 taken lost : Multiset Nat} {reply : CreateReply}
    (h : CreationEnds s s' t taken 0 reply) (hothers : ∀ u, u ≠ t → s.threads u = s0.threads u)
    (howe : ∀ m, Owing s0 (m + taken0) → Owing s (m + lost + taken)) :
    CreationEnds s0 s' t taken0 lost reply := by
  refine ⟨fun u hu => (h.others u hu).trans (hothers u hu), ?_⟩
  rcases h.ends with ⟨h1, h2, h3⟩ | ⟨h1, h2, h3, h4⟩
  · refine Or.inl ⟨h1, h2, ?_⟩
    intro m hm
    simpa using h3 _ (howe m hm)
  · refine Or.inr ⟨h1, h2, h3, ?_⟩
    intro m hm
    simpa using h4 _ (howe m hm)

theorem finishCreation_calls (s : State) (t : ThreadSlot) (identity : Nat) :
    (finishCreation s t identity).machine.pageCalls = s.machine.pageCalls := by
  simp [finishCreation]

theorem equipThread_ends (hi : s.installed = true) {o : ObjectSlot} {handle stack canary : Nat}
    {a : CreateAnswers} (hl : (s.threads t).live = true)
    (hs : (s.threads t).stackPagesMemory = stack)
    (hc : (s.threads t).stackCanaryMemory = canary) :
    CreationEnds s (equipThread s t o handle stack canary a).2 t (block stack + block canary) 0
      (equipThread s t o handle stack canary a).1 := by
  have hi1 : (allocateThreadEnvironment s t a.environment).2.installed = true :=
    (allocateThreadEnvironment_unseen s t a.environment).installed.trans hi
  have henv := allocateThreadEnvironment_pages (t := t) hi a.environment
  unfold equipThread
  generalize allocateThreadEnvironment s t a.environment = q at hi1 henv ⊢
  obtain ⟨ok, s1⟩ := q
  simp only at hi1 henv ⊢
  rcases henv with ⟨rfl, hthreads, howe⟩ | ⟨gsArea, vector, tls, teb, rfl, hthreads, howe⟩
  · simp only [Bool.false_eq_true, not_false_eq_true, if_true]
    refine ⟨?_, Or.inl ⟨rfl, ?_, ?_⟩⟩
    · intro u hu
      simp [abandonThread_threads, hu, hthreads]
    · simp [abandonThread_threads]
    · intro m h
      rw [← add_assoc] at h
      rw [add_zero]
      exact abandonThread_owing (pageFree_owing (pageFree_owing (howe _ h))) t o
  · simp only [not_true_eq_false, if_false]
    split
    · rename_i identity _
      refine ⟨?_, Or.inr ⟨rfl, ?_, ?_, ?_⟩⟩
      · intro u hu
        simp [finishCreation, hu, hthreads]
      · simp [finishCreation, hthreads, furnished, hl]
      · simp [finishCreation]
      · intro m h
        have hblocks : ((finishCreation s1 t (identity + 1)).threads t).blocks =
            block stack + block canary + (block gsArea + block vector + block tls + block teb) := by
          simp [finishCreation, hthreads, furnished, Tcb.blocks, Tcb.stackBlocks,
            Tcb.environmentBlocks, hs, hc]
        simp only
        rw [hblocks, add_zero, ← add_assoc]
        exact (howe _ h).congr (finishCreation_calls s1 t _)
    · obtain ⟨hfree, hback⟩ := freeThreadEnvironment_pages hi1 t
      refine ⟨?_, Or.inl ⟨rfl, ?_, ?_⟩⟩
      · intro u hu
        simp [abandonThread_threads, hu, hfree, hthreads]
      · simp [abandonThread_threads]
      · intro m h
        have henvb : (s1.threads t).environmentBlocks =
            block gsArea + block vector + block tls + block teb := by
          simp [hthreads, furnished, Tcb.environmentBlocks]
        have h1 := howe _ h
        rw [← henvb, ← add_assoc] at h1
        rw [add_zero]
        exact abandonThread_owing (pageFree_owing (pageFree_owing (hback _ h1))) t o

theorem furnishThread_ends (hi : s.installed = true) {o : ObjectSlot} {handle stack : Nat}
    {a : CreateAnswers} (hl : (s.threads t).live = true)
    (hs : (s.threads t).stackPagesMemory = stack) :
    CreationEnds s (furnishThread s t o handle stack a).2 t (block stack) 0
      (furnishThread s t o handle stack a).1 := by
  have hi1 := (pageAllocate_unseen s a.canary).installed.trans hi
  have hthreads := pageAllocate_threads s a.canary
  have howe : ∀ m, Owing s m → Owing (pageAllocate s a.canary).2
      (m + block (pageAllocate s a.canary).1) := fun m h => pageAllocate_owing h a.canary
  unfold furnishThread
  generalize pageAllocate s a.canary = p at hi1 hthreads howe ⊢
  obtain ⟨canary, s1⟩ := p
  simp only at hi1 hthreads howe ⊢
  split
  · rename_i h0
    refine ⟨?_, Or.inl ⟨rfl, ?_, ?_⟩⟩
    · intro u hu
      simp [abandonThread_threads, hu, hthreads]
    · simp [abandonThread_threads]
    · intro m h
      have h1 := howe _ h
      rw [h0, block_zero, add_zero] at h1
      rw [add_zero]
      refine abandonThread_owing (pageFree_owing ?_) t o
      exact h1.congr rfl
  · -- The canary page joins the thread, and the rest of the creation owes both blocks.
    refine CreationEnds.after (equipThread_ends ?_ ?_ ?_ ?_) ?_ ?_
    · exact hi1
    · simp [setCanaries, hthreads, hl]
    · simp [setCanaries, hthreads, hs]
    · simp [setCanaries]
    · intro u hu
      simp [setCanaries, hu, hthreads]
    · intro m h
      rw [add_zero, ← add_assoc]
      exact (howe _ h).congr rfl

/-- The stack that a step obtains: a creation that finds a slot for the thread and for its
object asks for one. -/
def stackObtained (s : State) : Op → Option Nat
  | .createSuspendedThread scheduler entry _ handleOut threadOut a =>
    if s.accepts scheduler ∧ entry ≠ 0 ∧ handleOut ∧ threadOut ∧ s.config.registerStackVm ∧
        s.config.unregisterStackVm ∧ (freeThread? s).isSome ∧ (freeObject? s).isSome ∧
        a.stack.granted then
      some a.stack.memory
    else none
  | _ => none

/-- The pages of a stack that a step loses. -/
def lostPages (s : State) (op : Op) : Multiset Nat :=
  match stackObtained s op with
  | some base => stackTail base
  | none => 0

/-- A creation takes a free slot, or it does nothing. -/
theorem createSuspendedThread_ends (hi : s.installed = true) (scheduler : SchedulerPtr)
    (entry argument : Nat) (handleOut threadOut : Bool) (a : CreateAnswers) :
    (createSuspendedThread s scheduler entry argument handleOut threadOut a = ({}, s) ∧
      stackObtained s
        (.createSuspendedThread scheduler entry argument handleOut threadOut a) = none) ∨
    ∃ t, (s.threads t).live = false ∧
      CreationEnds s (createSuspendedThread s scheduler entry argument handleOut threadOut a).2 t 0
        (lostPages s (.createSuspendedThread scheduler entry argument handleOut threadOut a))
        (createSuspendedThread s scheduler entry argument handleOut threadOut a).1 := by
  unfold createSuspendedThread
  split
  · rename_i hguard
    refine Or.inl ⟨rfl, ?_⟩
    simp only [stackObtained]
    rw [if_neg]
    rintro ⟨h1, h2, h3, h4, h5, h6, _⟩
    simp [h1, h2, h3, h4, h5, h6] at hguard
  · rename_i hguard
    simp only [not_or, not_not] at hguard
    obtain ⟨g1, g2, g3, g4, g5, g6⟩ := hguard
    cases hf : freeThread? s with
    | none => exact Or.inl ⟨rfl, by simp [stackObtained, hf]⟩
    | some t =>
      refine Or.inr ⟨t, freeThread?_live hf, ?_⟩
      simp only
      cases ho : freeObject? s with
      | none =>
        have heq : allocateObject (s.modThread t fun _ => newThread entry argument) .thread
            (.thread t) = (none, s.modThread t fun _ => newThread entry argument) := by
          have ho' : freeObject? (s.modThread t fun _ => newThread entry argument) = none := ho
          simp [allocateObject, ho']
        have hlost : lostPages s (.createSuspendedThread scheduler entry argument handleOut
            threadOut a) = 0 := by
          simp [lostPages, stackObtained, ho]
        rw [heq, hlost]
        refine ⟨?_, Or.inl ⟨rfl, by simp, ?_⟩⟩
        · intro u hu
          simp [hu]
        · intro m h
          exact h.congr rfl
      | some o =>
        have heq : allocateObject (s.modThread t fun _ => newThread entry argument) .thread
            (.thread t) = (some (o, makeHandle .thread o (nextGeneration (s.objects o).generation)),
              (s.modThread t fun _ => newThread entry argument).modObject o fun _ =>
                newObject .thread o (nextGeneration (s.objects o).generation) (.thread t)) := by
          have ho' : freeObject? (s.modThread t fun _ => newThread entry argument) = some o := ho
          simp [allocateObject, ho', hi, newObject]
        rw [heq]
        simp only
        split
        · rename_i hg
          have hlost : lostPages s (.createSuspendedThread scheduler entry argument handleOut
              threadOut a) = 0 := by
            simp [lostPages, stackObtained, hg]
          rw [hlost]
          refine ⟨?_, Or.inl ⟨rfl, by simp [abandonThread_threads], ?_⟩⟩
          · intro u hu
            simp [abandonThread_threads, identifyThread, hu]
          · intro m h
            exact h.congr rfl
        · rename_i hg
          have hg : a.stack.granted = true := by simpa using hg
          have hne : a.stack.memory ≠ 0 := by
            simp only [PageAnswer.granted, Bool.and_eq_true, decide_eq_true_eq] at hg
            exact hg.2
          have hlost : lostPages s (.createSuspendedThread scheduler entry argument handleOut
              threadOut a) = stackTail a.stack.memory := by
            simp [lostPages, stackObtained, g1, g2, g3, g4, g5, g6, hf, ho, hg]
          rw [hlost]
          refine CreationEnds.after (furnishThread_ends ?_ ?_ ?_) ?_ ?_
          · exact hi
          · simp [takeStack, identifyThread, newThread]
          · simp [takeStack]
          · intro u hu
            simp [takeStack, identifyThread, hu]
          · intro m h
            rw [add_zero] at h
            rw [add_assoc, ← pagesFrom_stack hne]
            exact h.obtain rfl

/-! ## Reclaim -/

theorem reclaimThread_pages (hi : s.installed = true) (t : ThreadSlot) :
    (reclaimThread s t).threads = Function.update s.threads t {} ∧
    ∀ m, Owing s (m + (s.threads t).blocks) → Owing (reclaimThread s t) m := by
  -- The state before the environment goes back.
  obtain ⟨s3, hs3⟩ : ∃ s3, s3 = (pageFree ((pageFree (s.modObject (s.threads t).objectSlot
      fun object => { object with internalRefs := 0 }) (s.threads t).stackPagesMemory).modThread t
      fun thread => { thread with stackPagesMemory := 0 })
      (s.threads t).stackCanaryMemory).modThread t
      fun thread => { thread with stackCanaryMemory := 0 } := ⟨_, rfl⟩
  have hi3 : s3.installed = true := by
    rw [hs3]
    refine ((pageFree_unseen _ _).installed.trans ?_).trans hi
    exact (pageFree_unseen _ _).installed
  have heq : reclaimThread s t = (releaseObjectRecord (freeThreadEnvironment s3 t)
      (s.threads t).objectSlot).modThread t fun _ => {} := by
    rw [hs3]
    rfl
  have hothers : ∀ u, u ≠ t → s3.threads u = s.threads u := by
    intro u hu
    rw [hs3]
    simp [hu]
  have henv : (s3.threads t).environmentBlocks = (s.threads t).environmentBlocks := by
    rw [hs3]
    simp [Tcb.environmentBlocks]
  obtain ⟨hfree, hback⟩ := freeThreadEnvironment_pages hi3 t
  rw [heq]
  refine ⟨?_, ?_⟩
  · funext u
    by_cases hu : u = t
    · subst hu
      simp
    · simp [releaseObjectRecord, hu, hfree, hothers u hu]
  · intro m h
    have h1 : Owing s (m + (s.threads t).environmentBlocks + block (s.threads t).stackCanaryMemory +
        block (s.threads t).stackPagesMemory) := by
      have hsum : m + (s.threads t).environmentBlocks + block (s.threads t).stackCanaryMemory +
          block (s.threads t).stackPagesMemory = m + (s.threads t).blocks := by
        unfold Tcb.blocks Tcb.stackBlocks
        abel
      rw [hsum]
      exact h
    have h3 : Owing s3 (m + (s3.threads t).environmentBlocks) := by
      rw [henv, hs3]
      refine Owing.modThread (pageFree_owing ?_) t _
      refine Owing.modThread (pageFree_owing ?_) t _
      exact h1.congr rfl
    exact (hback m h3).congr rfl

theorem maybeReclaimThread_pages (h : Core s) (t : ThreadSlot) (unregistered : Bool) :
    maybeReclaimThread s t unregistered = s ∨
    ((maybeReclaimThread s t unregistered).threads = Function.update s.threads t {} ∧
      ∀ m, Owing s (m + (s.threads t).blocks) →
        Owing (maybeReclaimThread s t unregistered) m) := by
  unfold maybeReclaimThread
  split
  · exact Or.inl rfl
  · rename_i hr
    have hi := (reclaimable_facts h (by simpa using hr)).2.2.2.2.1
    split
    · split
      · exact Or.inl rfl
      · obtain ⟨hthreads, howe⟩ := reclaimThread_pages (s := s.modThread t fun thread =>
          { thread with stackVmIdentity := 0 }) hi t
        refine Or.inr ⟨?_, ?_⟩
        · rw [hthreads]
          funext u
          by_cases hu : u = t
          · subst hu
            simp
          · simp [hu]
        · intro m hm
          apply howe
          have hb : ((s.modThread t fun thread => { thread with stackVmIdentity := 0 }).threads
              t).blocks = (s.threads t).blocks := by
            simp [Tcb.blocks, Tcb.stackBlocks, Tcb.environmentBlocks]
          rw [hb]
          exact hm.congr rfl
    · exact Or.inr (reclaimThread_pages hi t)

/-! ## The invariant -/

/-- The blocks that the threads hold. -/
def heldBlocks (s : State) : Multiset Nat := Finset.univ.sum fun t => (s.threads t).blocks

theorem heldBlocks_of_others (h : ∀ u, u ≠ t → s'.threads u = s.threads u) :
    heldBlocks s' + (s.threads t).blocks = heldBlocks s + (s'.threads t).blocks := by
  unfold heldBlocks
  rw [← Finset.sum_erase_add _ _ (Finset.mem_univ t),
    ← Finset.sum_erase_add Finset.univ (fun t => (s.threads t).blocks) (Finset.mem_univ t)]
  have hsame : (Finset.univ.erase t).sum (fun u => (s'.threads u).blocks) =
      (Finset.univ.erase t).sum fun u => (s.threads u).blocks := by
    apply Finset.sum_congr rfl
    intro u hu
    rw [h u (Finset.ne_of_mem_erase hu)]
  rw [hsame]
  abel

/-- The pages owed are those of the blocks that the threads hold, and the pages `lost`. A
free slot holds nothing. -/
structure PageInv (s : State) (lost : Multiset Nat) : Prop where
  owing : Owing s (heldBlocks s + lost)
  free : ∀ t, (s.threads t).live = false → (s.threads t).blocks = 0
  boot : (s.threads 0).stackBlocks = 0

theorem PageInv.congr {lost : Multiset Nat} (h : PageInv s lost)
    (hcalls : s'.machine.pageCalls = s.machine.pageCalls)
    (hthreads : ∀ t, (s'.threads t).live = (s.threads t).live ∧
      (s'.threads t).stackBlocks = (s.threads t).stackBlocks ∧
      (s'.threads t).environmentBlocks = (s.threads t).environmentBlocks) :
    PageInv s' lost := by
  have hblocks : ∀ t, (s'.threads t).blocks = (s.threads t).blocks := by
    intro t
    unfold Tcb.blocks
    rw [(hthreads t).2.1, (hthreads t).2.2]
  refine ⟨?_, ?_, ?_⟩
  · have hsame : heldBlocks s' = heldBlocks s := Finset.sum_congr rfl fun t _ => hblocks t
    rw [hsame]
    exact h.owing.congr hcalls
  · intro t ht
    rw [(hthreads t).1] at ht
    rw [hblocks]
    exact h.free t ht
  · rw [(hthreads 0).2.1]
    exact h.boot

theorem PageInv.kept {lost : Multiset Nat} (h : PageInv s lost) (hk : Kept s s') :
    PageInv s' lost := by
  apply h.congr hk.calls
  intro t
  have ht := hk.threads t
  simp only [Tcb.keepView, Prod.mk.injEq] at ht
  exact ⟨ht.1, ht.2.2⟩

/-- The TCB of a thread is cleared after its blocks went back. -/
theorem PageInv.clear {lost : Multiset Nat} (h : PageInv s lost)
    (hothers : ∀ u, u ≠ t → s'.threads u = s.threads u) (hself : s'.threads t = {})
    (howe : ∀ m, Owing s (m + (s.threads t).blocks) → Owing s' m) : PageInv s' lost := by
  have hempty : (s'.threads t).stackBlocks = 0 ∧ (s'.threads t).blocks = 0 := by
    simp [hself, Tcb.blocks, Tcb.stackBlocks, Tcb.environmentBlocks]
  have hheld := heldBlocks_of_others hothers
  rw [hempty.2, add_zero] at hheld
  refine ⟨?_, ?_, ?_⟩
  · apply howe
    rw [add_right_comm, hheld]
    exact h.owing
  · intro u hu
    by_cases hut : u = t
    · subst hut
      exact hempty.2
    · rw [hothers u hut] at hu ⊢
      exact h.free u hu
  · by_cases h0 : 0 = t
    · subst h0
      exact hempty.1
    · rw [hothers 0 h0]
      exact h.boot

theorem PageInv.reclaim {lost : Multiset Nat} (h : PageInv s lost) (hc : Core s) (t : ThreadSlot)
    (unregistered : Bool) : PageInv (maybeReclaimThread s t unregistered) lost := by
  rcases maybeReclaimThread_pages hc t unregistered with heq | ⟨hthreads, howe⟩
  · rw [heq]
    exact h
  · refine h.clear ?_ ?_ howe
    · intro u hu
      simp [hthreads, hu]
    · simp [hthreads]

theorem PageInv.create {lost : Multiset Nat} (h : PageInv s lost) {taken : Multiset Nat}
    {reply : CreateReply} (hfree : (s.threads t).live = false) (h0 : t ≠ 0)
    (hc : CreationEnds s s' t 0 taken reply) : PageInv s' (lost + taken) := by
  have howe : Owing s (heldBlocks s + lost + 0) := by
    rw [add_zero]
    exact h.owing
  have hheld := heldBlocks_of_others hc.others
  rw [h.free t hfree, add_zero] at hheld
  have hboot : (s'.threads 0).stackBlocks = 0 := by
    rw [hc.others 0 (Ne.symm h0)]
    exact h.boot
  rcases hc.ends with ⟨_, hself, hends⟩ | ⟨_, hl, _, hends⟩
  · have hempty : (s'.threads t).blocks = 0 := by
      simp [hself, Tcb.blocks, Tcb.stackBlocks, Tcb.environmentBlocks]
    rw [hempty, add_zero] at hheld
    refine ⟨?_, ?_, hboot⟩
    · rw [hheld, ← add_assoc]
      exact hends _ howe
    · intro u hu
      by_cases hut : u = t
      · subst hut
        exact hempty
      · rw [hc.others u hut] at hu ⊢
        exact h.free u hu
  · refine ⟨?_, ?_, hboot⟩
    · have hsum : heldBlocks s' + (lost + taken) =
          heldBlocks s + lost + taken + (s'.threads t).blocks := by
        rw [hheld]
        abel
      rw [hsum]
      exact hends _ howe
    · intro u hu
      have hut : u ≠ t := by
        rintro rfl
        rw [hl] at hu
        cases hu
      rw [hc.others u hut] at hu ⊢
      exact h.free u hu

theorem PageInv.collect {lost : Multiset Nat} (h : PageInv s lost) (hinv : Inv s)
    (scheduler : SchedulerPtr) (unregistered : ThreadSlot → Bool) :
    PageInv (collect s scheduler unregistered).2 lost := by
  have hboth : Inv (Scheduler.collect s scheduler unregistered).2 ∧
      PageInv (Scheduler.collect s scheduler unregistered).2 lost := by
    apply collect_induction (P := fun s' => Inv s' ∧ PageInv s' lost)
    · rintro s' t ⟨h1, h2⟩
      exact ⟨maybeReclaimThread_inv h1 t _, h2.reclaim h1.toCore t _⟩
    · exact ⟨hinv, h⟩
  exact hboth.2

/-- The teardown gives the environment of the boot thread back. -/
theorem PageInv.teardown {lost : Multiset Nat} (h : PageInv s lost) (hinv : Inv s)
    (scheduler : SchedulerPtr) (unregistered : ThreadSlot → Bool) :
    PageInv (teardown s scheduler unregistered).2 lost := by
  have hcollect := h.collect hinv scheduler unregistered
  rcases teardown_cases hinv scheduler unregistered with heq | heq | ⟨hi, _, _, heq⟩
  · rw [heq]
    exact h
  · rw [heq]
    exact hcollect
  · rw [heq]
    generalize hs1 : (Scheduler.collect s scheduler unregistered).2 = s1 at hcollect ⊢
    have hi1 : (releaseStream s1).installed = true := by
      rw [(releaseStream_keeps s1).1, ← hs1, (collect_keeps s scheduler unregistered).2]
      exact hi
    have hkept : Kept s1 (releaseStream s1) := by
      unfold releaseStream
      split <;> exact ⟨rfl, fun _ => rfl⟩
    have hstream := hcollect.kept hkept
    obtain ⟨hthreads, howe⟩ := freeThreadEnvironment_pages hi1 0
    refine hstream.clear (t := 0) ?_ ?_ ?_
    · intro u hu
      simp [tornDown, releaseObjectRecord, hthreads, hu]
    · simp [tornDown]
    · intro m hm
      have henv : ((releaseStream s1).threads 0).blocks =
          ((releaseStream s1).threads 0).environmentBlocks := by
        rw [Tcb.blocks, hstream.boot, zero_add]
      rw [henv] at hm
      exact (howe m hm).congr rfl

/-! ## Runs -/

/-- After an initialization the boot thread holds its environment, and no other slot is in
use. -/
theorem started_boot {i : BootInput} (h : initializeScheduler i = (true, s)) :
    (∀ t, t ≠ 0 → s.threads t = {}) ∧ (s.threads 0).live = true ∧
    (s.threads 0).savedContext = some (.initial 0) ∧ (s.threads 0).stackBlocks = 0 ∧
    Owing s (s.threads 0).environmentBlocks := by
  unfold initializeScheduler at h
  split at h
  · simp at h
  · rw [allocateObject_boot] at h
    simp only at h
    have henv := allocateThreadEnvironment_pages (t := 0)
      (s := (bootState i).modObject 0 fun _ => newObject .thread 0 1 (.thread 0)) rfl i.pages
    generalize allocateThreadEnvironment _ 0 i.pages = q at h henv
    obtain ⟨ok, s2⟩ := q
    simp only at h henv
    rcases henv with ⟨rfl, _, _⟩ | ⟨gsArea, vector, tls, teb, rfl, hthreads, howe⟩
    · simp at h
    · simp only [not_true_eq_false, if_false, Prod.mk.injEq, true_and] at h
      subst h
      refine ⟨?_, ?_, ?_, ?_, ?_⟩
      · intro t ht
        simp [hthreads, bootState, ht]
      · simp [hthreads, bootState, furnished]
      · simp
      · simp [hthreads, bootState, furnished, Tcb.stackBlocks]
      · have h0 :
            Owing ((bootState i).modObject 0 fun _ => newObject .thread 0 1 (.thread 0)) 0 := by
          simp [Owing, bootState]
        have h1 := howe 0 h0
        rw [zero_add] at h1
        have henv : ∀ x : Tcb, (furnished x gsArea vector tls teb).environmentBlocks =
            block gsArea + block vector + block tls + block teb := by
          intro x
          simp [furnished, Tcb.environmentBlocks]
        refine Owing.congr (s := s2) ?_ rfl
        simpa [hthreads, Tcb.environmentBlocks, furnished] using h1

theorem started_pages (h : Started s) : PageInv s 0 := by
  obtain ⟨i, hi⟩ := h
  obtain ⟨hothers, hl, _, hstack, howe⟩ := started_boot hi
  have hempty : Tcb.blocks {} = 0 := by
    simp [Tcb.blocks, Tcb.stackBlocks, Tcb.environmentBlocks]
  refine ⟨?_, ?_, hstack⟩
  · have hheld : heldBlocks s = (s.threads 0).environmentBlocks := by
      unfold heldBlocks
      rw [Finset.sum_eq_single 0]
      · rw [Tcb.blocks, hstack, zero_add]
      · intro t _ ht
        rw [hothers t ht, hempty]
      · simp
    rw [hheld, add_zero]
    exact howe
  · intro t ht
    have h0 : t ≠ 0 := by
      rintro rfl
      rw [hl] at ht
      cases ht
    rw [hothers t h0, hempty]

/-- The step does not adopt a boot environment. -/
def AdoptsNothing (s : State) : Op → Prop
  | .adoptBootEnvironment p b => (adoptBootEnvironment s p b).1 = false
  | _ => True

theorem adoptBootEnvironment_refused {scheduler : SchedulerPtr} {b : BootEnvironment}
    (h : (adoptBootEnvironment s scheduler b).1 = false) :
    (adoptBootEnvironment s scheduler b).2 = s := by
  unfold adoptBootEnvironment at h ⊢
  split
  · rfl
  · rename_i hg
    rw [if_neg hg] at h
    split
    · rfl
    · rename_i hb
      simp [hb] at h

theorem createSuspendedThread_pages {lost : Multiset Nat} (hinv : Inv s) (h : PageInv s lost)
    (p : SchedulerPtr) (e a : Nat) (b d : Bool) (w : CreateAnswers) :
    PageInv (createSuspendedThread s p e a b d w).2
      (lost + lostPages s (.createSuspendedThread p e a b d w)) := by
  cases hi : s.installed with
  | false =>
    have heq : createSuspendedThread s p e a b d w = ({}, s) := by
      simp [createSuspendedThread, State.accepts, hi]
    have hlost : lostPages s (.createSuspendedThread p e a b d w) = 0 := by
      simp [lostPages, stackObtained, State.accepts, hi]
    rw [heq, hlost, add_zero]
    exact h
  | true =>
    rcases createSuspendedThread_ends hi p e a b d w with ⟨heq, hnone⟩ | ⟨t, ht, hends⟩
    · have hlost : lostPages s (.createSuspendedThread p e a b d w) = 0 := by
        simp [lostPages, hnone]
      rw [heq, hlost, add_zero]
      exact h
    · exact h.create ht (hinv.current.live_ne hi ht).2 hends

theorem step_pages {lost : Multiset Nat} (hinv : Inv s) (h : PageInv s lost) {op : Op}
    (hop : AdoptsNothing s op) : PageInv (step s op) (lost + lostPages s op) := by
  by_cases hcreate : ∃ p e a b d w, op = .createSuspendedThread p e a b d w
  · obtain ⟨p, e, a, b, d, w, rfl⟩ := hcreate
    exact createSuspendedThread_pages hinv h p e a b d w
  · have hlost : lostPages s op = 0 := by
      cases op <;> first | rfl | exact absurd ⟨_, _, _, _, _, _, rfl⟩ hcreate
    rw [hlost, add_zero]
    cases htouch : touchesPages op with
    | false => exact h.kept (step_kept s htouch)
    | true =>
      cases op with
      | adoptBootEnvironment p b =>
        change PageInv (adoptBootEnvironment s p b).2 lost
        rw [adoptBootEnvironment_refused hop]
        exact h
      | createSuspendedThread p e a b d w => exact absurd ⟨_, _, _, _, _, _, rfl⟩ hcreate
      | closeHandle handle u =>
        change PageInv (closeHandle s handle u).2 lost
        rcases closeHandle_cases hinv.objects handle u with
          heq | ⟨o, e, _, heq⟩ | ⟨o, t, _, ho, heq⟩
        · rw [heq]
          exact h
        · rw [heq]
          exact h.kept ⟨rfl, fun _ => rfl⟩
        · rw [heq]
          exact (h.kept (closedThread_rescheduled s o t).kept).reclaim
            (closedThread_inv hinv ho).toCore t u
      | contextSwitch p f =>
        change PageInv (contextSwitch s p f) lost
        unfold contextSwitch
        split
        · exact h
        · rename_i old _
          refine h.congr ?_ ?_
          · rfl
          · intro t
            by_cases ht : t = old
            · subst ht
              simp [Tcb.stackBlocks, Tcb.environmentBlocks]
            · simp [ht]
      | tryReclaimThread t u =>
        change PageInv (tryReclaimThread s t u).2 lost
        unfold tryReclaimThread
        cases t with
        | none => exact h
        | some t =>
          simp only
          split
          · exact h
          · exact h.reclaim hinv.toCore t u
      | discardCreatedThread t u =>
        change PageInv (discardCreatedThread s t u).2 lost
        rcases discardCreatedThread_cases hinv.toCore t u with heq | ⟨v, _, hd, heq⟩
        · rw [heq]
          exact h
        · rw [heq]
          exact (h.kept (withdrawn_rescheduled hinv.toCore hd).kept).reclaim
            (withdrawn_inv hinv hd).toCore v u
      | collect p u => exact h.collect hinv p u
      | teardown p u => exact h.teardown hinv p u
      | _ => cases htouch

/-- The stacks that a run obtained. -/
def noteStacks (s : State) (op : Op) (bases : List Nat) : List Nat :=
  bases ++ (stackObtained s op).toList

/-- A run that adopts no boot environment, and the stacks that it obtained. -/
def PageRun : State → List Nat → Prop :=
  Runs.ReachNoting Started step AdoptsNothing (fun _ => []) noteStacks

theorem pageRun_pages {bases : List Nat} (h : PageRun s bases) :
    PageInv s (bases.map stackTail).sum := by
  apply h.invariant (P := fun s bases => PageInv s (bases.map stackTail).sum)
  · intro s hs
    exact started_pages hs
  · intro s bases op hreach hp hop
    have hstep := step_pages (reachableBy_inv hreach) hp hop
    have hnote : ((noteStacks s op bases).map stackTail).sum =
        (bases.map stackTail).sum + lostPages s op := by
      unfold noteStacks lostPages
      cases stackObtained s op <;> simp
    rw [hnote]
    exact hstep

/-- Every page that was obtained was returned, as often as it was obtained. -/
def AllPagesReturned (s : State) : Prop :=
  (s.machine.pageCalls.map PageCall.returnedPages).sum =
    (s.machine.pageCalls.map PageCall.obtainedPages).sum

theorem stackTails_eq_zero_iff (bases : List Nat) : (bases.map stackTail).sum = 0 ↔ bases = [] := by
  constructor
  · intro h
    cases bases with
    | nil => rfl
    | cons base rest =>
      have hcard := congrArg Multiset.card h
      simp [stackTail, pagesFrom, stackPages, stackSize, pageSize] at hcard
  · rintro rfl
    rfl

/-- A run that ends in a teardown returns every page if and only if it obtained no stack. -/
theorem pages_return_iff_no_stack_was_obtained {bases : List Nat} (h : PageRun s bases)
    (scheduler : SchedulerPtr) (unregistered : ThreadSlot → Bool)
    (ht : (teardown s scheduler unregistered).1 = true) :
    AllPagesReturned (teardown s scheduler unregistered).2 ↔ bases = [] := by
  have hinv := reachableBy_inv h.reach
  have hpages := (pageRun_pages h).teardown hinv scheduler unregistered
  have hgone : (teardown s scheduler unregistered).2.installed = false := by
    rcases teardown_cases hinv scheduler unregistered with heq | heq | ⟨_, _, _, heq⟩
    · rw [heq] at ht
      cases ht
    · rw [heq] at ht
      cases ht
    · rw [heq]
      rfl
  have hheld : heldBlocks (teardown s scheduler unregistered).2 = 0 := by
    apply Finset.sum_eq_zero
    intro t _
    exact hpages.free t ((teardown_inv hinv scheduler unregistered).current.vacant hgone t)
  have howe := hpages.owing
  rw [hheld, zero_add] at howe
  unfold Owing at howe
  rw [← stackTails_eq_zero_iff, AllPagesReturned, howe]
  exact left_eq_add

/-- A creation that gets no stack. -/
def refusedCreate : Op :=
  .createSuspendedThread .this 0x700000 0 true true
    { sampleAnswers 0x200000 with stack := { status := 9, memory := 0 } }

def sampleRefused : List Op := [.configureStackVm .this true true, refusedCreate]

def refusedState : State := Runs.run step sampleStart sampleRefused

theorem refusedState_reached : PageRun refusedState [] := by
  have hstart : PageRun sampleStart [] := .start ⟨sampleStart_started, rfl⟩
  have hrun := hstart.run sampleRefused fun s op hop => by
    simp only [sampleRefused, refusedCreate, List.mem_cons, List.not_mem_nil, or_false] at hop
    rcases hop with rfl | rfl <;> trivial
  have hnone : (Runs.run (Runs.noting step noteStacks) (sampleStart, []) sampleRefused).2 = [] := by
    decide +kernel
  rw [hnone] at hrun
  exact hrun

theorem refused_creation_returns_every_page :
    (teardown refusedState .this fun _ => true).1 = true ∧
    AllPagesReturned (teardown refusedState .this fun _ => true).2 := by
  have ht : (teardown refusedState .this fun _ => true).1 = true := by decide +kernel
  exact ⟨ht, (pages_return_iff_no_stack_was_obtained refusedState_reached _ _ ht).mpr rfl⟩

/-- A worker is created, and it is discarded before it runs. -/
def discardedState : State :=
  Runs.run step sampleStart [.configureStackVm .this true true, sampleCreate 0x200000,
    .closeHandle (sampleThread 1) true, .discardCreatedThread (some 1) true]

/-- Three pages of the stack of the worker never go back. -/
theorem discarded_worker_keeps_three_pages :
    Reachable discardedState ∧ (teardown discardedState .this fun _ => true).1 = true ∧
    ¬ AllPagesReturned (teardown discardedState .this fun _ => true).2 ∧
    ((teardown discardedState .this fun _ => true).2.machine.pageCalls.map
      PageCall.obtainedPages).sum =
    ((teardown discardedState .this fun _ => true).2.machine.pageCalls.map
      PageCall.returnedPages).sum + {0x201000, 0x202000, 0x203000} := by
  refine ⟨Runs.Reach.run (.start sampleStart_started) _ fun _ _ _ => trivial, by decide +kernel,
    ?_, ?_⟩
  · unfold AllPagesReturned
    decide +kernel
  · decide +kernel

end Gate4Harness.Scheduler
