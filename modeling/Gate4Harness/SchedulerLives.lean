-- The threads of a run, told apart over time: a slot that is reclaimed and taken again
-- holds another thread than before. What a thread finds in its local storage is what it
-- put there itself, or nothing at its start.
import Gate4Harness.SchedulerContexts

namespace Gate4Harness.Scheduler

variable {s s' : State} {t : ThreadSlot}

/-- A thread is a slot and the number of threads that this slot held before. -/
structure Thread where
  slot : ThreadSlot
  life : Nat
  deriving DecidableEq, Repr

/-- A free slot becomes live: a thread is created in it. -/
def Born (s s' : State) (t : ThreadSlot) : Prop :=
  (s.threads t).live = false ∧ (s'.threads t).live = true

instance (s s' : State) (t : ThreadSlot) : Decidable (Born s s' t) :=
  inferInstanceAs (Decidable (_ ∧ _))

/-- How many threads each slot held before its present one. -/
abbrev Lives := ThreadSlot → Nat

def noteLives (s s' : State) (lives : Lives) : Lives := fun t =>
  if Born s s' t then lives t + 1 else lives t

/-- The thread that runs. Before the boot and after the end of the scheduler there is none. -/
def caller (s : State) (lives : Lives) : Option Thread := s.current.map fun t => ⟨t, lives t⟩

/-! ## Local storage -/

/-- Nothing is stored for the thread. -/
def Tcb.Bare (x : Tcb) : Prop := x.flsAllocated = (fun _ => 0) ∧ x.flsValues = fun _ => 0

/-- What a step can do to the storage of a slot, unless its thread stores a value: the thread
keeps it, or it is cleared with the end or at the start of a thread. -/
inductive StorageStep (x x' : Tcb) : Prop
  | kept : x'.live = x.live → x'.flsAllocated = x.flsAllocated → x'.flsValues = x.flsValues →
      StorageStep x x'
  | ended : x'.live = false → x'.Bare → StorageStep x x'
  | created : x.live = false → x'.live = true → x'.Bare → StorageStep x x'

theorem Tcb.bare_default : Tcb.Bare {} := ⟨rfl, rfl⟩

theorem StorageStep.of_eq {x x' : Tcb} (h : x' = x) : StorageStep x x' := by
  rw [h]
  exact .kept rfl rfl rfl

theorem Rescheduled.storage (h : Rescheduled s s') (t : ThreadSlot) :
    StorageStep (s.threads t) (s'.threads t) := by
  have ht := h.threads t
  refine .kept ?_ ?_ ?_
  · have hview := congrArg Tcb.live ht
    exact hview
  · have hview := congrArg Tcb.flsAllocated ht
    exact hview
  · have hview := congrArg Tcb.flsValues ht
    exact hview

/-- The slot is cleared after a step, or nothing happens to it. -/
theorem StorageStep.cleared {x x' x'' : Tcb} (h : StorageStep x x') (h' : x'' = x' ∨ x'' = {}) :
    StorageStep x x'' := by
  rcases h' with rfl | rfl
  · exact h
  · exact .ended rfl Tcb.bare_default

theorem maybeReclaimThread_threads (h : Core s) (t u : ThreadSlot) (unregistered : Bool) :
    (maybeReclaimThread s t unregistered).threads u = s.threads u ∨
      (maybeReclaimThread s t unregistered).threads u = {} := by
  rcases maybeReclaimThread_pages h t unregistered with heq | ⟨hthreads, _⟩
  · rw [heq]
    exact .inl rfl
  · rw [hthreads]
    by_cases hu : u = t
    · subst hu
      exact .inr (Function.update_self ..)
    · exact .inl (Function.update_of_ne hu ..)

theorem collect_threads (h : Inv s) (scheduler : SchedulerPtr) (unregistered : ThreadSlot → Bool)
    (u : ThreadSlot) : (collect s scheduler unregistered).2.threads u = s.threads u ∨
      (collect s scheduler unregistered).2.threads u = {} := by
  have hboth : Inv (collect s scheduler unregistered).2 ∧
      ((collect s scheduler unregistered).2.threads u = s.threads u ∨
        (collect s scheduler unregistered).2.threads u = {}) := by
    apply collect_induction (P := fun s' => Inv s' ∧
      (s'.threads u = s.threads u ∨ s'.threads u = {}))
    · rintro s' t ⟨h1, h2⟩
      refine ⟨maybeReclaimThread_inv h1 t _, ?_⟩
      rcases maybeReclaimThread_threads h1.toCore t u (unregistered t) with h3 | h3
      · rw [h3]
        exact h2
      · exact .inr h3
    · exact ⟨h, .inl rfl⟩
  exact hboth.2

/-- The part of a creation from `s` to `s'` that works on the slot `t` alone, and stores
nothing for its thread. -/
structure Takes (s s' : State) (t : ThreadSlot) : Prop where
  others : ∀ u, u ≠ t → s'.threads u = s.threads u
  bare : (s'.threads t).Bare

theorem Takes.after {s0 : State} (h : Takes s s' t)
    (hothers : ∀ u, u ≠ t → s.threads u = s0.threads u) : Takes s0 s' t :=
  ⟨fun u hu => (h.others u hu).trans (hothers u hu), h.bare⟩

theorem Takes.abandoned {s0 : State} (o : ObjectSlot)
    (hothers : ∀ u, u ≠ t → s.threads u = s0.threads u) : Takes s0 (abandonThread s t o) t := by
  refine ⟨fun u hu => ?_, ?_⟩
  · rw [abandonThread_threads, if_neg hu]
    exact hothers u hu
  · rw [abandonThread_threads, if_pos rfl]
    exact Tcb.bare_default

theorem equipThread_takes (hi : s.installed = true) {o : ObjectSlot} {handle stack canary : Nat}
    {a : CreateAnswers} (h : (s.threads t).Bare) :
    Takes s (equipThread s t o handle stack canary a).2 t := by
  have hi1 : (allocateThreadEnvironment s t a.environment).2.installed = true :=
    (allocateThreadEnvironment_unseen s t a.environment).installed.trans hi
  have henv := allocateThreadEnvironment_pages (t := t) hi a.environment
  unfold equipThread
  generalize allocateThreadEnvironment s t a.environment = q at hi1 henv ⊢
  obtain ⟨ok, s1⟩ := q
  simp only at hi1 henv ⊢
  rcases henv with ⟨rfl, hthreads, -⟩ | ⟨gsArea, vector, tls, teb, rfl, hthreads, -⟩
  · simp only [Bool.false_eq_true, not_false_eq_true, if_true]
    refine Takes.abandoned o fun u _ => ?_
    rw [pageFree_threads, pageFree_threads, hthreads]
  · have hothers : ∀ u, u ≠ t → s1.threads u = s.threads u := by
      intro u hu
      rw [hthreads, Function.update_of_ne hu]
    have hbare : (s1.threads t).Bare := by
      rw [hthreads, Function.update_self]
      exact h
    simp only [not_true_eq_false, if_false]
    split
    · refine ⟨fun u hu => ?_, ?_⟩
      · rw [← hothers u hu]
        simp [finishCreation, hu]
      · simpa [finishCreation, Tcb.Bare] using hbare
    · refine Takes.abandoned o fun u hu => ?_
      rw [pageFree_threads, pageFree_threads, (freeThreadEnvironment_pages hi1 t).1,
        Function.update_of_ne hu]
      exact hothers u hu

theorem furnishThread_takes (hi : s.installed = true) {o : ObjectSlot} {handle stack : Nat}
    {a : CreateAnswers} (h : (s.threads t).Bare) :
    Takes s (furnishThread s t o handle stack a).2 t := by
  have hi1 := (pageAllocate_unseen s a.canary).installed.trans hi
  have hthreads := pageAllocate_threads s a.canary
  unfold furnishThread
  generalize pageAllocate s a.canary = p at hi1 hthreads ⊢
  obtain ⟨canary, s1⟩ := p
  simp only at hi1 hthreads ⊢
  split
  · refine Takes.abandoned o fun u hu => ?_
    simp [hthreads, hu]
  · refine Takes.after (equipThread_takes ?_ ?_) fun u hu => ?_
    · exact hi1
    · simpa [setCanaries, hthreads, Tcb.Bare] using h
    · simp [setCanaries, hthreads, hu]

/-- A creation does nothing, or it takes a free slot and stores nothing for its thread. -/
theorem createSuspendedThread_takes (hi : s.installed = true) (scheduler : SchedulerPtr)
    (entry argument : Nat) (handleOut threadOut : Bool) (a : CreateAnswers) :
    (createSuspendedThread s scheduler entry argument handleOut threadOut a).2 = s ∨
    ∃ t, (s.threads t).live = false ∧
      Takes s (createSuspendedThread s scheduler entry argument handleOut threadOut a).2 t := by
  unfold createSuspendedThread
  split
  · exact .inl rfl
  · cases hf : freeThread? s with
    | none => exact .inl rfl
    | some t =>
      refine .inr ⟨t, freeThread?_live hf, ?_⟩
      simp only
      rcases allocateObject_cases (s.modThread t fun _ => newThread entry argument) .thread
        (.thread t) with heq | ⟨o, generation, -, -, -, heq⟩
      · rw [heq]
        refine ⟨fun u hu => ?_, ?_⟩
        · simp [hu]
        · simp [Tcb.Bare]
      · rw [heq]
        simp only
        split
        · refine Takes.abandoned o fun u hu => ?_
          simp [identifyThread, hu]
        · refine Takes.after (furnishThread_takes ?_ ?_) fun u hu => ?_
          · exact hi
          · simp [takeStack, identifyThread, newThread, Tcb.Bare]
          · simp [takeStack, identifyThread, hu]

/-- A slot that is free before a step and bare after it was taken by a thread, or it was not. -/
theorem StorageStep.of_bare {x x' : Tcb} (hlive : x.live = false) (h : x'.Bare) :
    StorageStep x x' := by
  cases hx : x'.live with
  | false => exact .ended hx h
  | true => exact .created hlive hx h

theorem createSuspendedThread_storage (hi : s.installed = true) (scheduler : SchedulerPtr)
    (entry argument : Nat) (handleOut threadOut : Bool) (a : CreateAnswers) (u : ThreadSlot) :
    StorageStep (s.threads u)
      ((createSuspendedThread s scheduler entry argument handleOut threadOut a).2.threads u) := by
  rcases createSuspendedThread_takes hi scheduler entry argument handleOut threadOut a with
    heq | ⟨t, hlive, htakes⟩
  · exact .of_eq (by rw [heq])
  · by_cases hu : u = t
    · rw [hu]
      exact .of_bare hlive htakes.bare
    · exact .of_eq (htakes.others u hu)

theorem adoptBootEnvironment_storage (hi : s.installed = true) (p : SchedulerPtr)
    (b : BootEnvironment) (u : ThreadSlot) :
    StorageStep (s.threads u) ((adoptBootEnvironment s p b).2.threads u) := by
  unfold adoptBootEnvironment
  split
  · exact .of_eq rfl
  · cases hboot : s.bootThread with
    | none => exact .of_eq rfl
    | some boot =>
      have hfree := (freeThreadEnvironment_pages hi boot).1
      by_cases hu : u = boot
      · subst hu
        refine .kept ?_ ?_ ?_ <;> simp [hfree, unfurnished]
      · exact .of_eq (by simp [hfree, hu])

/-- Each step but one that stores a value leaves the storage of the threads to them, and
clears it with a thread. -/
theorem step_storage (hinv : Inv s) (hi : s.installed = true) {op : Op}
    (hfls : setsFls op = false) (u : ThreadSlot) :
    StorageStep (s.threads u) ((step s op).threads u) := by
  cases htouch : touchesPages op with
  | false => exact (step_rescheduled s htouch hfls).storage u
  | true =>
    cases op with
    | adoptBootEnvironment p b => exact adoptBootEnvironment_storage hi p b u
    | createSuspendedThread p e a b d w => exact createSuspendedThread_storage hi p e a b d w u
    | closeHandle handle w =>
      change StorageStep _ ((closeHandle s handle w).2.threads u)
      rcases closeHandle_cases hinv.objects handle w with
        heq | ⟨o, e, _, heq⟩ | ⟨o, t, _, ho, heq⟩ <;> rw [heq]
      · exact .of_eq rfl
      · exact .of_eq rfl
      · exact ((closedThread_rescheduled s o t).storage u).cleared
          (maybeReclaimThread_threads (closedThread_inv hinv ho).toCore t u w)
    | contextSwitch p f =>
      change StorageStep _ ((contextSwitch s p f).threads u)
      unfold contextSwitch
      split
      · exact .of_eq rfl
      · rename_i old _
        by_cases hu : u = old
        · subst hu
          refine .kept ?_ ?_ ?_ <;> simp
        · exact .of_eq (by simp [hu])
    | tryReclaimThread t w =>
      change StorageStep _ ((tryReclaimThread s t w).2.threads u)
      unfold tryReclaimThread
      cases t with
      | none => exact .of_eq rfl
      | some t =>
        simp only
        split
        · exact .of_eq rfl
        · exact (StorageStep.of_eq rfl).cleared (maybeReclaimThread_threads hinv.toCore t u w)
    | discardCreatedThread t w =>
      change StorageStep _ ((discardCreatedThread s t w).2.threads u)
      rcases discardCreatedThread_cases hinv.toCore t w with heq | ⟨v, _, hd, heq⟩ <;> rw [heq]
      · exact .of_eq rfl
      · exact ((withdrawn_rescheduled hinv.toCore hd).storage u).cleared
          (maybeReclaimThread_threads (withdrawn_inv hinv hd).toCore v u w)
    | collect p w =>
      exact (StorageStep.of_eq rfl).cleared (collect_threads hinv p w u)
    | teardown p w =>
      change StorageStep _ ((teardown s p w).2.threads u)
      have hcollect := (StorageStep.of_eq rfl).cleared (collect_threads hinv p w u)
      rcases teardown_cases hinv p w with heq | heq | ⟨_, _, _, heq⟩ <;> rw [heq]
      · exact .of_eq rfl
      · exact hcollect
      · have hi1 : (releaseStream (collect s p w).2).installed = true := by
          rw [(releaseStream_keeps _).1, (collect_keeps s p w).2]
          exact hi
        by_cases hu : u = 0
        · subst hu
          exact hcollect.cleared (.inr (by simp [tornDown]))
        · refine hcollect.cleared (.inl ?_)
          simp [tornDown, releaseObjectRecord, (freeThreadEnvironment_pages hi1 0).1,
            (releaseStream_keeps _).2.2.2, hu]
    | _ => cases htouch

/-- At the boot nothing is stored for any thread. -/
theorem initializeScheduler_bare {i : BootInput} (h : initializeScheduler i = (true, s))
    (t : ThreadSlot) : (s.threads t).Bare := by
  by_cases ht : t = 0
  · subst ht
    unfold initializeScheduler at h
    split at h
    · simp at h
    · rw [allocateObject_boot] at h
      simp only at h
      have henv := allocateThreadEnvironment_pages (t := 0)
        (s := (bootState i).modObject 0 fun _ => newObject .thread 0 1 (.thread 0)) rfl i.pages
      generalize allocateThreadEnvironment _ 0 i.pages = q at h henv
      obtain ⟨ok, s2⟩ := q
      simp only at h henv
      rcases henv with ⟨rfl, _, _⟩ | ⟨gsArea, vector, tls, teb, rfl, hthreads, _⟩
      · simp at h
      · simp only [not_true_eq_false, if_false, Prod.mk.injEq, true_and] at h
        subst h
        simp [hthreads, bootState, furnished, Tcb.Bare]
  · rw [(started_boot h).1 t ht]
    exact Tcb.bare_default

end Gate4Harness.Scheduler
