-- Thread creation is all or nothing. A creation that fails leaves no trace. A creation that
-- succeeds leaves a registered stack, an identity that no thread had before, and a handle to the
-- new thread. Its context passes the check of a resume unless a page or the entry is too low.
import Gate4Harness.RegionLedger
import Gate4Harness.SchedulerHandles
import Gate4Harness.SchedulerCreationLaws

namespace Gate4Harness.Scheduler

variable {s s' : State} {t : ThreadSlot} {o : ObjectSlot} {k : Nat} {created : List Nat}

/-! ## Identities over a run -/

/-- The identities of the threads created so far, the boot thread first. -/
def noteCreated (s : State) (op : Op) (created : List Nat) : List Nat :=
  match op with
  | .createSuspendedThread p e a h d w =>
    match (createSuspendedThread s p e a h d w).1.thread with
    | some t => created ++ [((createSuspendedThread s p e a h d w).2.threads t).identity]
    | none => created
  | _ => created

def firstCreated (s : State) : List Nat := [(s.threads 0).identity]

/-- A run, and the identities of the threads that it created. -/
def CreationRun : State → List Nat → Prop :=
  Runs.ReachNoting Started step SavesLive firstCreated noteCreated

/-- The identities that were handed out count up in 32 bits, and so does the next one. -/
structure Counts (s : State) (created : List Nat) : Prop where
  tidy : Tidy ((created.length + 1) % 2 ^ 32) s
  below : ∀ identity ∈ created, ∃ i, i < created.length ∧ identity = (i + 1) % 2 ^ 32

theorem started_counts (h : Started s) : Counts s (firstCreated s) := by
  obtain ⟨i, hi⟩ := h
  obtain ⟨hothers, hl, _⟩ := started_boot hi
  have hfields : s.nextIdentity = 2 ∧ (s.threads 0).identity = 1 := by
    unfold initializeScheduler at hi
    split at hi
    · simp at hi
    · rw [allocateObject_boot] at hi
      dsimp only at hi
      have hworks := (WorksOn.refl 0 ((bootState i).modObject 0 fun _ =>
        newObject .thread 0 1 (.thread 0))).allocateThreadEnvironment i.pages
      have henv := allocateThreadEnvironment_pages (t := 0)
        (s := (bootState i).modObject 0 fun _ => newObject .thread 0 1 (.thread 0)) rfl i.pages
      generalize allocateThreadEnvironment _ 0 i.pages = q at hi hworks henv
      obtain ⟨ok, s2⟩ := q
      dsimp only at hi hworks henv
      rcases henv with ⟨rfl, _, _⟩ | ⟨gsArea, vector, tls, teb, rfl, hthreads, _⟩
      · simp at hi
      · simp only [not_true_eq_false, if_false, Prod.mk.injEq, true_and] at hi
        subst hi
        refine ⟨congrArg State.nextIdentity hworks.rest, ?_⟩
        simp [hthreads, bootState, furnished]
  refine ⟨⟨hfields.1, ?_, ?_⟩, ?_⟩
  · intro t ht
    by_cases h0 : t = 0
    · subst h0
      rw [hl] at ht
      cases ht
    · exact hothers t h0
  · intro c hc
    have hcurrent : s.current = some 0 := by
      rw [(started_unseen hi).current]
      rfl
    rw [hcurrent] at hc
    cases hc
    exact hl
  · intro identity hin
    simp only [firstCreated, List.mem_singleton] at hin
    refine ⟨0, by simp [firstCreated], ?_⟩
    rw [hin, hfields.2]
    rfl

theorem createdState_works (s : State) (c : CreateCall) (t : ThreadSlot) (o : ObjectSlot)
    (identity : Nat) : WorksOn t (identified s c t o) (createdState s c t o identity) := by
  have hstack := ((((WorksOn.refl t (identified s c t o)).takeStack
    c.answers.stack.memory).pageAllocate c.answers.canary).thenThread fun thread =>
      { thread with stackCanaryMemory := c.answers.canary.memory }).setCanaries
  exact (hstack.allocateThreadEnvironment c.answers.environment).finishCreation identity

/-- A creation that succeeds takes the next identity. -/
theorem createdState_tidy (h : Tidy k s) {c : CreateCall} (hc : c.Equipped s t o)
    (identity : Nat) : Tidy ((k + 1) % 2 ^ 32) (createdState s c t o identity) ∧
      ((createdState s c t o identity).threads t).identity = k := by
  have hworks := createdState_works s c t o identity
  obtain ⟨hthread, _, _⟩ := createdState_facts hc.installed t o hc.canary hc.environment identity
  have hothers : ∀ u, u ≠ t → (createdState s c t o identity).threads u = s.threads u := by
    intro u hu
    rw [hworks.others u hu]
    simp [identified, identifyThread, hu]
  refine ⟨⟨?_, ?_, ?_⟩, ?_⟩
  · rw [(congrArg State.nextIdentity hworks.rest :)]
    simp [identified, identifyThread, h.identity]
  · intro u hu
    by_cases hut : u = t
    · subst hut
      rw [hthread] at hu
      cases hu
    · rw [hothers u hut] at hu ⊢
      exact h.blank u hu
  · intro d hd
    rw [(congrArg State.current hworks.rest :)] at hd
    have hd : s.current = some d := hd
    by_cases hdt : d = t
    · rw [hdt, hthread]
      rfl
    · rw [hothers d hdt]
      exact h.current d hd
  · rw [hthread]
    exact h.identity

theorem Undone.tidy (hu : Undone s s') (h : Tidy k s) : Tidy k s' :=
  h.beside ⟨hu.identity, hu.threads, hu.current⟩

theorem step_counts (hinv : Inv s) (h : Counts s created) {op : Op} (hop : SavesLive s op) :
    Counts (step s op) (noteCreated s op created) := by
  by_cases hcreate : creates op = false
  · have hnote : noteCreated s op created = created := by
      cases op <;> first | rfl | cases hcreate
    rw [hnote]
    exact ⟨step_tidy hinv h.tidy hop hcreate, h.below⟩
  · cases op with
    | createSuspendedThread p e a b d w =>
      have hk : (created.length + 1) % 2 ^ 32 < 2 ^ 32 := Nat.mod_lt _ (by decide)
      change Counts (createSuspendedThread s p e a b d w).2 _
      rcases CreateCall.run_cases h.tidy hk ⟨p, e, a, b, d, w⟩ with
        ⟨t, o, identity, hslots, _, heq⟩ | ⟨_, hreply, hundone⟩
      · have heq : createSuspendedThread s p e a b d w = _ := heq
        obtain ⟨htidy, hidentity⟩ :=
          createdState_tidy h.tidy (CreateCall.slots_eq_some hslots) (identity + 1)
        simp only [noteCreated, heq, hidentity]
        refine ⟨?_, ?_⟩
        · have hlength : (created ++ [(created.length + 1) % 2 ^ 32]).length + 1 =
              created.length + 1 + 1 := by simp
          rw [hlength, ← Nat.mod_add_mod]
          exact htidy
        · intro x hx
          rcases List.mem_append.mp hx with hx | hx
          · obtain ⟨i, hi, rfl⟩ := h.below x hx
            exact ⟨i, by simp; omega, rfl⟩
          · rw [List.mem_singleton] at hx
            exact ⟨created.length, by simp, hx⟩
      · have hreply : (createSuspendedThread s p e a b d w).1 = {} := hreply
        have hundone : Undone s (createSuspendedThread s p e a b d w).2 := hundone
        have hnote : noteCreated s (.createSuspendedThread p e a b d w) created = created := by
          simp [noteCreated, hreply]
        rw [hnote]
        exact ⟨hundone.tidy h.tidy, h.below⟩
    | _ => cases hcreate rfl

theorem creationRun_counts (h : CreationRun s created) : Inv s ∧ Counts s created :=
  ⟨reachableBy_inv (Runs.ReachNoting.reach h), Runs.ReachNoting.invariant h
    (fun _ => started_counts)
    fun _ _ _ hreach hcounts hop => step_counts (reachableBy_inv hreach) hcounts hop⟩

/-- While fewer than `2 ^ 32` threads were created, the next identity is new. -/
theorem Counts.fresh (h : Counts s created) (hfew : created.length < 2 ^ 32) :
    s.nextIdentity ∉ created := by
  intro hin
  obtain ⟨i, hi, heq⟩ := h.below _ hin
  rw [h.tidy.identity] at heq
  omega

/-! ## The registered stacks -/

/-- What the scheduler relies on of a `register_stack_vm` callback with registries of type `R`: a
call that is refused registers nothing, and a call that is granted registers the range. The
scheduler takes the identity 0 as a refusal. -/
structure StackVm (R : Type*) where
  ranges : R → Set (Nat × Nat)
  register : R → Nat → Nat → Option Nat × R
  refused : ∀ r base bytes, (∀ identity, (register r base bytes).1 ≠ some (identity + 1)) →
    ranges (register r base bytes).2 = ranges r
  granted : ∀ r base bytes identity, (register r base bytes).1 = some (identity + 1) →
    ranges (register r base bytes).2 = insert (base, bytes) (ranges r)

/-- `memory_register_scheduler_stack`, the callback of the loader. -/
def memoryRegisterSchedulerStack (l : Vm.RegionLedger) (base bytes : Nat) :
    Option Nat × Vm.RegionLedger :=
  let answer := Vm.regionRegister l
    { base, bytes, allocationBase := base, allocationProtect := 0x04,
      state := Vm.regionStateCommit, protect := 0x04, type := 0x20000 } true
  match answer.status with
  | none => (some answer.identity, answer.ledger)
  | some _ => (none, answer.ledger)

/-- The ranges that are registered in a ledger. -/
def registeredRanges (l : Vm.RegionLedger) : Set (Nat × Nat) :=
  { p | ∃ i, (l.entries i).live = true ∧ p = ((l.entries i).base, (l.entries i).bytes) }

/-- A registration fails and keeps the entries, or it fills a free one. -/
theorem regionRegister_entries (l : Vm.RegionLedger) (r : Vm.RegionAttributes) :
    ((Vm.regionRegister l r true).status ≠ none ∧
      (Vm.regionRegister l r true).ledger.entries = l.entries) ∨
    ∃ i identity, (l.entries i).live = false ∧ (Vm.regionRegister l r true).status = none ∧
      (Vm.regionRegister l r true).identity = identity + 1 ∧
      (Vm.regionRegister l r true).ledger.entries = Function.update l.entries i
        { r with live := true, allocationIdentity := identity + 1 } := by
  unfold Vm.regionRegister
  split
  · exact .inl ⟨nofun, rfl⟩
  · split
    · exact .inl ⟨nofun, rfl⟩
    · split
      · exact .inl ⟨nofun, rfl⟩
      · dsimp only
        split
        · exact .inl ⟨nofun, rfl⟩
        · exact .inl ⟨nofun, rfl⟩
        · rename_i i identity after hfree htake
          refine .inr ⟨i, identity - 1, by simpa using List.find?_some hfree, rfl, ?_⟩
          have hne : identity ≠ 0 := by
            have hnext : (if l.nextIdentity = 0 then 1 else l.nextIdentity) ≠ 0 := by
              split
              · exact Nat.one_ne_zero
              · assumption
            rw [Vm.takeIdentity, if_neg hnext] at htake
            cases htake
            exact hnext
          have heq : identity = identity - 1 + 1 := by omega
          rw [← heq]
          exact ⟨rfl, rfl⟩

/-- The callback of the loader registers as the scheduler relies on it to. -/
def loaderStackVm : StackVm Vm.RegionLedger where
  ranges := registeredRanges
  register := memoryRegisterSchedulerStack
  refused := by
    intro l base bytes hno
    unfold memoryRegisterSchedulerStack at hno ⊢
    dsimp only at hno ⊢
    rcases regionRegister_entries l _ with ⟨hstatus, hentries⟩ | ⟨i, identity, _, hstatus, hid, _⟩
    · split
      · rename_i hnone
        exact absurd hnone hstatus
      · unfold registeredRanges
        rw [hentries]
    · rw [hstatus] at hno
      exact absurd (congrArg some hid) (hno identity)
  granted := by
    intro l base bytes identity hyes
    unfold memoryRegisterSchedulerStack at hyes ⊢
    dsimp only at hyes ⊢
    rcases regionRegister_entries l _ with ⟨hstatus, _⟩ | ⟨i, _, hfree, hstatus, _, hentries⟩
    · split at hyes
      · rename_i hnone
        exact absurd hnone hstatus
      · cases hyes
    · rw [hstatus]
      ext p
      unfold registeredRanges
      simp only [hentries, Set.mem_ofPred_eq, Set.mem_insert_iff]
      constructor
      · rintro ⟨j, hj, rfl⟩
        by_cases hji : j = i
        · subst hji
          simp
        · rw [Function.update_of_ne hji] at hj ⊢
          exact .inr ⟨j, hj, rfl⟩
      · rintro (rfl | ⟨j, hj, rfl⟩)
        · exact ⟨i, by simp, by simp⟩
        · have hji : j ≠ i := by
            rintro rfl
            rw [hfree] at hj
            cases hj
          exact ⟨j, by rw [Function.update_of_ne hji]; exact hj, by rw [Function.update_of_ne hji]⟩

variable {R : Type*}

/-- The registry after a creation. It is asked for the stack, from `stack_base` up to
`stack_limit`, once all pages are granted. -/
def CreateCall.registry (V : StackVm R) (s : State) (r : R) (c : CreateCall) : R :=
  if (c.slots s).isSome then (V.register r c.answers.stack.memory stackSize).2 else r

/-! ## All or nothing -/

/-- What is left of a creation that returned 0. -/
structure CreateCall.Failed (V : StackVm R) (s : State) (r : R) (c : CreateCall) : Prop where
  handle : (c.run s).1.handle = 0
  thread : (c.run s).1.thread = none
  undone : Undone s (c.run s).2
  ranges : V.ranges (c.registry V s r) = V.ranges r

/-- What a creation that returned 1 leaves: the thread `t` behind its handle. -/
structure CreateCall.Created (V : StackVm R) (s : State) (r : R) (c : CreateCall)
    (created : List Nat) (t : ThreadSlot) (o : ObjectSlot) : Prop where
  thread : (c.run s).1.thread = some t
  handle : lookupObject (c.run s).2 (c.run s).1.handle .thread = some o
  target : targetThread (c.run s).2 o = some t
  fresh : ((c.run s).2.threads t).identity ∉ created
  valid : validateThreadContext (c.run s).2 t = true
  range : (((c.run s).2.threads t).stackBase,
    sub64 ((c.run s).2.threads t).stackLimit ((c.run s).2.threads t).stackBase) ∈
      V.ranges (c.registry V s r)

/-- A creation leaves no trace, or it leaves a new thread that can be resumed. -/
def CreateCall.Atomic (V : StackVm R) (s : State) (r : R) (c : CreateCall)
    (created : List Nat) : Prop :=
  if (c.run s).1.ok then ∃ t o, c.Created V s r created t o else c.Failed V s r

/-- The handle of a new thread resolves to it. -/
theorem createdState_resolves {c : CreateCall} (h : c.Equipped s t o) (identity : Nat) :
    lookupObject (createdState s c t o identity)
      (makeHandle .thread o (nextGeneration (s.objects o).generation)) .thread = some o ∧
    targetThread (createdState s c t o identity) o = some t := by
  have hrest := (createdState_works s c t o identity).rest
  have hobjects : (createdState s c t o identity).objects = (identified s c t o).objects := by
    rw [hrest]
  have hobject : (createdState s c t o identity).objects o =
      newObject .thread o (nextGeneration (s.objects o).generation) (.thread t) := by
    rw [hobjects]
    simp [identified, identifyThread]
  have hi : (createdState s c t o identity).installed = true := by
    rw [hrest]
    exact h.installed
  have hg := nextGeneration_valid (s.objects o).generation
  have hclear := clearDropped_of_zero (droppedBits_makeHandle hg.2 .thread o)
  refine ⟨?_, ?_⟩
  · rw [lookupObject_iff]
    · exact ⟨hi, by rw [hobject]; rfl, by rw [hobject]; rfl, by rw [hobject]; exact hg, by
        rw [hclear, handleOf, hobject]; rfl⟩
    · have ho : o.val < 16 := o.isLt
      have hlt := hg.2
      rw [makeHandle_eq hg.2]
      simp only [ObjectType.code]
      omega
  · simp [targetThread, hobject, newObject]

/-- In every run in which fewer than `2 ^ 32` threads were created, a creation is all or nothing
if and only if the entry and the pages of the thread are usable whenever it gets to register the
stack and is granted that. -/
theorem creation_is_atomic_iff (V : StackVm R) (r : R) (h : CreationRun s created)
    (hfew : created.length < 2 ^ 32) (c : CreateCall) (hpages : FreshPages c.answers)
    (hvm : c.answers.stackVm = (V.register r c.answers.stack.memory stackSize).1) :
    c.Atomic V s r created ↔
      ((c.slots s).isSome → (∃ identity, c.answers.stackVm = some (identity + 1)) →
        c.usable = true) := by
  obtain ⟨hinv, hcounts⟩ := creationRun_counts h
  have hk : (created.length + 1) % 2 ^ 32 < 2 ^ 32 := Nat.mod_lt _ (by decide)
  unfold CreateCall.Atomic
  rcases c.run_cases hcounts.tidy hk with
    ⟨t, o, identity, hslots, hgranted, heq⟩ | ⟨hno, hreply, hundone⟩
  · have hequipped := CreateCall.slots_eq_some hslots
    obtain ⟨_, hidentity⟩ := createdState_tidy hcounts.tidy hequipped (identity + 1)
    have hnext : s.nextIdentity < 2 ^ 32 := by
      rw [hcounts.tidy.identity]
      exact hk
    have hvalid := createdState_validates hequipped hpages hnext (identity + 1)
    obtain ⟨hhandle, htarget⟩ := createdState_resolves hequipped (identity + 1)
    obtain ⟨hthread, _, _⟩ := createdState_facts hequipped.installed t o hequipped.canary
      hequipped.environment (identity + 1)
    have hregistry : V.ranges (c.registry V s r) =
        insert (c.answers.stack.memory, stackSize) (V.ranges r) := by
      rw [CreateCall.registry, hslots]
      exact V.granted r _ _ identity (hvm ▸ hgranted)
    have hbytes : sub64 (add64 c.answers.stack.memory stackSize) c.answers.stack.memory =
        stackSize := by
      unfold sub64 add64 stackSize
      omega
    rw [heq]
    rw [if_pos rfl]
    constructor
    · rintro ⟨u, p, hcreated⟩ _ _
      have hsame := hcreated.thread
      rw [heq] at hsame
      cases hsame
      have hchecked := hcreated.valid
      rw [heq, hvalid] at hchecked
      exact hchecked
    · intro husable
      refine ⟨t, o, by rw [heq], ?_, ?_, ?_, ?_, ?_⟩
      · rw [heq]
        exact hhandle
      · rw [heq]
        exact htarget
      · rw [heq, hidentity, ← hcounts.tidy.identity]
        exact hcounts.fresh hfew
      · rw [heq, hvalid]
        exact husable (by simp [hslots]) ⟨identity, hgranted⟩
      · rw [heq, hthread, hregistry]
        simp only [createdTcb, hbytes]
        exact Set.mem_insert _ _
  · rw [hreply]
    rw [if_neg (by simp)]
    have hregistry : V.ranges (c.registry V s r) = V.ranges r := by
      unfold CreateCall.registry
      split
      · rename_i hslots
        obtain ⟨⟨t, o⟩, hslots⟩ := Option.isSome_iff_exists.mp hslots
        apply V.refused
        intro identity hyes
        exact hno t o identity hslots (hvm.trans hyes)
      · rfl
    constructor
    · rintro _ hslots ⟨identity, hgranted⟩
      obtain ⟨⟨t, o⟩, hslots⟩ := Option.isSome_iff_exists.mp hslots
      exact absurd hgranted (hno t o identity hslots)
    · intro _
      exact ⟨by rw [hreply], by rw [hreply], hundone, hregistry⟩

/-- A scheduler with the callbacks of the loader, before the first thread is created. -/
def sampleReadied : State := Runs.run step sampleStart [.configureStackVm .this true true]

theorem sampleReadied_reached : CreationRun sampleReadied [1] := by
  have hstart : CreationRun sampleStart [1] := .start ⟨sampleStart_started, rfl⟩
  exact hstart.run [.configureStackVm .this true true] fun s op hop => by
    rw [List.mem_singleton] at hop
    rw [hop]
    trivial

/-- A creation with the answers of the loader to the registration of the stack. -/
def sampleCall (gsArea : Nat) : CreateCall :=
  { scheduler := .this, entry := 0x700000, argument := 0, handleOut := true, threadOut := true
    answers := { sampleAnswers 0x200000 with
      environment := { (sampleAnswers 0x200000).environment with gsArea := granting gsArea }
      stackVm := (memoryRegisterSchedulerStack Vm.regionLedgerInit 0x200000 stackSize).1 } }

theorem sampleCall_fresh : FreshPages (sampleCall 0x205000).answers ∧
    FreshPages (sampleCall 0x8000).answers := by
  refine ⟨⟨?_, ?_, ?_⟩, ⟨?_, ?_, ?_⟩⟩ <;> decide

theorem a_sample_creation_is_atomic :
    (sampleCall 0x205000).Atomic loaderStackVm sampleReadied Vm.regionLedgerInit [1] :=
  (creation_is_atomic_iff loaderStackVm Vm.regionLedgerInit sampleReadied_reached (by decide)
    (sampleCall 0x205000) sampleCall_fresh.1 rfl).mpr fun _ _ => by decide

/-- A creation that is granted a GS page below 64 KiB returns 1, and the check of its context
fails, so the thread can never be resumed. -/
theorem a_thread_on_a_low_page_is_created :
    CreationRun sampleReadied [1] ∧ FreshPages (sampleCall 0x8000).answers ∧
    (sampleCall 0x8000).answers.stackVm =
      (loaderStackVm.register Vm.regionLedgerInit 0x200000 stackSize).1 ∧
    ((sampleCall 0x8000).run sampleReadied).1.ok = true ∧
    (resumeThread ((sampleCall 0x8000).run sampleReadied).2
      ((sampleCall 0x8000).run sampleReadied).1.handle).1.ok = false ∧
    ¬ (sampleCall 0x8000).Atomic loaderStackVm sampleReadied Vm.regionLedgerInit [1] := by
  have hok : ((sampleCall 0x8000).run sampleReadied).1.ok = true := by decide +kernel
  refine ⟨sampleReadied_reached, sampleCall_fresh.2, rfl, hok, by decide +kernel, ?_⟩
  unfold CreateCall.Atomic
  rw [if_pos hok]
  rintro ⟨t, o, hcreated⟩
  have hthread : ((sampleCall 0x8000).run sampleReadied).1.thread = some 1 := by decide +kernel
  have hvalid : validateThreadContext ((sampleCall 0x8000).run sampleReadied).2 1 = false := by
    decide +kernel
  have hsame := hthread.symm.trans hcreated.thread
  cases hsame
  exact absurd hcreated.valid (by rw [hvalid]; decide)

end Gate4Harness.Scheduler
