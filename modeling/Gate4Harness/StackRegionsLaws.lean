-- The stacks and the region ledger stay in step: each live worker has the region of its stack,
-- and the ledger holds no other region but that of the loader's own stack.
import Gate4Harness.StackRegions

namespace Gate4Harness.StackRegions

open Scheduler (State Op Tcb ThreadSlot CreateCall SchedulerPtr Inv Tidy maybeReclaimThread
  memoryRegisterSchedulerStack reclaimable reclaimThread stackSize sub64 add64)
open Vm (RegionLedger RegionAttributes RegionSlot Region RegionInv Apart)
open scoped Scheduler

variable {w : World} {s s' s1 : State} {t u : ThreadSlot} {loader : RegionAttributes}

/-! ## What a thread needs of its stack -/

/-- The part of a TCB that its stack region depends on. -/
def stackView (x : Tcb) : Bool × Nat × Nat × Nat × Nat :=
  (x.live, x.stackPagesMemory, x.stackBase, x.stackLimit, x.stackVmIdentity)

/-- The stacks of the workers are left alone. -/
def KeepsStacks (s s' : State) : Prop :=
  ∀ t, t ≠ 0 → stackView (s'.threads t) = stackView (s.threads t)

theorem KeepsStacks.refl (s : State) : KeepsStacks s s := fun _ _ => rfl

theorem KeepsStacks.of_rescheduled (h : Scheduler.Rescheduled s s') : KeepsStacks s s' := by
  intro t _
  have hview := congrArg stackView (h.threads t)
  exact hview

theorem KeepsStacks.of_threads (h : s'.threads = s.threads) : KeepsStacks s s' := by
  intro t _
  rw [h]

theorem adoptBootEnvironment_keepsStacks (s : State) (p : SchedulerPtr)
    (b : Scheduler.BootEnvironment) :
    KeepsStacks s (Scheduler.adoptBootEnvironment s p b).2 := by
  intro t _
  unfold Scheduler.adoptBootEnvironment
  split
  · rfl
  · rename_i hg
    have hi : s.installed = true := by
      simp only [not_or, Decidable.not_not, State.accepts, Bool.and_eq_true] at hg
      exact hg.1.2
    cases s.bootThread with
    | none => rfl
    | some boot =>
      have hfree := (Scheduler.freeThreadEnvironment_pages hi boot).1
      by_cases ht : t = boot
      · subst ht
        simp [hfree, stackView, Scheduler.unfurnished]
      · simp [hfree, ht]

/-- An operation that neither creates a thread nor gets to the reclaim of one. -/
theorem step_keepsStacks {op : Op} (hcreate : Scheduler.creates op = false)
    (hcollect : ∀ p f, op ≠ .collect p f) (hteardown : ∀ p f, op ≠ .teardown p f)
    (hinv : Inv s) (hnone : reclaimedBy s op = none) :
    KeepsStacks s (Scheduler.step s (withAnswer op false)) := by
  cases htouch : Scheduler.touchesPages op with
  | false =>
    have hsame : withAnswer op false = op := by
      cases op <;> first | rfl | cases htouch
    rw [hsame]
    cases hfls : Scheduler.setsFls op with
    | false => exact .of_rescheduled (Scheduler.step_rescheduled s htouch hfls)
    | true =>
      cases op with
      | setFls i v =>
        intro t _
        change stackView ((Scheduler.setFls s i v).threads t) = _
        unfold Scheduler.setFls
        split
        · rfl
        · rename_i c _
          split
          · by_cases ht : t = c
            · subst ht
              simp [stackView]
            · simp [ht]
          · rfl
      | _ => cases hfls
  | true =>
    cases op with
    | adoptBootEnvironment p b => exact adoptBootEnvironment_keepsStacks s p b
    | createSuspendedThread p e a b d x => cases hcreate
    | closeHandle handle x =>
      rcases Scheduler.closeHandle_cases hinv.objects handle false with
        heq | ⟨o, e, _, heq⟩ | ⟨o, t, htype, ho, heq⟩
      · change KeepsStacks s (Scheduler.closeHandle s handle false).2
        rw [heq]
        exact .refl s
      · change KeepsStacks s (Scheduler.closeHandle s handle false).2
        rw [heq]
        exact .of_threads rfl
      · change KeepsStacks s (Scheduler.closeHandle s handle false).2
        simp only [reclaimedBy, htype] at hnone
        unfold Scheduler.closeHandle
        rw [htype]
        dsimp only
        cases hlook : Scheduler.lookupObject s handle .thread with
        | none => exact .refl s
        | some o' =>
          rw [hlook] at hnone
          dsimp only at hnone ⊢
          split
          · exact .refl s
          · rename_i hrefs
            rw [if_neg hrefs] at hnone
            obtain ⟨_, hl, htype', _⟩ := Scheduler.lookupObject_eq_some hlook
            have hfit := hinv.objects.target o' hl
            unfold Scheduler.TargetFits at hfit
            rw [htype'] at hfit
            obtain ⟨v, hv, _⟩ := hfit
            simp [Scheduler.targetThread, hv] at hnone
    | contextSwitch p f =>
      intro t _
      change stackView ((Scheduler.contextSwitch s p f).threads t) = _
      unfold Scheduler.contextSwitch
      split
      · rfl
      · rename_i old _
        by_cases ht : t = old
        · subst ht
          simp [stackView]
        · simp [ht]
    | tryReclaimThread t x =>
      cases t with
      | none => exact .refl s
      | some t => cases hnone
    | discardCreatedThread t x =>
      cases t with
      | none => exact .refl s
      | some t =>
        change KeepsStacks s (Scheduler.discardCreatedThread s (some t) false).2
        rcases Scheduler.discardCreatedThread_cases hinv.toCore (some t) false with
          heq | ⟨v, hv, hd, _⟩
        · rw [heq]
          exact .refl s
        · cases hv
          simp [reclaimedBy, hd] at hnone
    | collect p f => exact absurd rfl (hcollect p f)
    | teardown p f => exact absurd rfl (hteardown p f)
    | _ => cases htouch

/-! ## The calls that get to a reclaim -/

/-- Such a call has done its own part by the time it hands the thread over. -/
theorem reclaimedBy_spec {op : Op} (hinv : Inv s) (h : reclaimedBy s op = some t) :
    ∃ s1, Inv s1 ∧ KeepsStacks s s1 ∧
      ∀ ok, Scheduler.step s (withAnswer op ok) = maybeReclaimThread s1 t ok := by
  cases op with
  | closeHandle handle x =>
    simp only [reclaimedBy] at h
    split at h
    · rename_i htype
      split at h
      · cases h
      · rename_i o hlook
        split at h
        · cases h
        · rename_i hrefs
          obtain ⟨_, hl, hotype, _⟩ := Scheduler.lookupObject_eq_some hlook
          have hfit := hinv.objects.target o hl
          unfold Scheduler.TargetFits at hfit
          rw [hotype] at hfit
          obtain ⟨v, hv, _, _, _, hsame⟩ := hfit
          have hvt : v = t := by
            simpa [Scheduler.targetThread, hv] using h
          subst hvt
          have hne : (s.threads v).publicHandleRefs ≠ 0 := by
            rw [hsame]
            exact hrefs
          refine ⟨Scheduler.closedThread s o v, ?_,
            .of_rescheduled (Scheduler.closedThread_rescheduled s o v), fun ok => ?_⟩
          · exact Scheduler.closedThread_inv hinv ⟨hl, hotype, hv⟩
          · change (Scheduler.closeHandle s handle ok).2 = _
            simp [Scheduler.closeHandle, htype, hlook, hrefs, Scheduler.targetThread, hv, hne,
              Scheduler.closedThread, Scheduler.closedObject]
    · cases h
  | tryReclaimThread u x =>
    simp only [reclaimedBy] at h
    subst h
    refine ⟨s, hinv, .refl s, fun ok => ?_⟩
    change (Scheduler.tryReclaimThread s (some t) ok).2 = _
    unfold Scheduler.tryReclaimThread
    dsimp only
    split
    · rename_i hguard
      unfold maybeReclaimThread
      rw [if_pos]
      intro hr
      unfold reclaimable at hr
      simp only [Bool.and_eq_true, decide_eq_true_eq] at hr
      obtain ⟨⟨⟨⟨⟨⟨⟨⟨hl, _⟩, hterm⟩, hrefs⟩, _⟩, _⟩, _⟩, _⟩, _⟩ := hr
      simp [hl, hterm, hrefs] at hguard
    · rfl
  | discardCreatedThread u x =>
    cases u with
    | none => cases h
    | some u =>
      simp only [reclaimedBy] at h
      split at h
      · rename_i hd
        cases h
        refine ⟨Scheduler.withdrawn s t, Scheduler.withdrawn_inv hinv hd,
          .of_rescheduled (Scheduler.withdrawn_rescheduled hinv.toCore hd), fun ok => ?_⟩
        change (Scheduler.discardCreatedThread s (some t) ok).2 = _
        obtain ⟨_, _, _, _, hremoved⟩ := Scheduler.withdrawn_spec hinv.toCore hd
        unfold Scheduler.discardCreatedThread Scheduler.withdrawn
        dsimp only
        rw [if_neg (by simp [hd])]
        by_cases hq : (s.threads t).runnableQueued = true
        · simp only [hq, if_true] at hremoved ⊢
          simp [hremoved]
        · simp [hq]
      · cases h
  | _ => cases h

/-! ## The ledger -/

/-- A registration is refused and leaves the regions alone, or it fills a free slot. -/
theorem regionRegister_outcome {l : RegionLedger} (h : RegionInv l) (r : RegionAttributes) :
    ((Vm.regionRegister l r true).status ≠ none ∧
      (Vm.regionRegister l r true).ledger.entries = l.entries ∧
      RegionInv (Vm.regionRegister l r true).ledger) ∨
    ∃ i identity, (l.entries i).live = false ∧ (Vm.regionRegister l r true).status = none ∧
      (Vm.regionRegister l r true).identity = identity + 1 ∧
      (Vm.regionRegister l r true).ledger.entries = Function.update l.entries i
        { r with live := true, allocationIdentity := identity + 1 } ∧
      RegionInv (Vm.regionRegister l r true).ledger := by
  unfold Vm.regionRegister
  split
  · exact .inl ⟨nofun, rfl, h⟩
  · rename_i hargs
    simp only [not_or, Decidable.not_not] at hargs
    split
    · exact .inl ⟨nofun, rfl, h⟩
    · rename_i hfree
      split
      · exact .inl ⟨nofun, rfl, h.sound, h.apart, h.liveCount⟩
      · dsimp only
        split
        · exact .inl ⟨nofun, rfl, h.sound, h.apart, h.liveCount⟩
        · exact .inl ⟨nofun, rfl, h.sound, h.apart, h.liveCount⟩
        · rename_i i identity after hslot htake
          have hne : identity ≠ 0 := by
            have hnext : (if l.nextIdentity = 0 then 1 else l.nextIdentity) ≠ 0 := by
              split
              · exact Nat.one_ne_zero
              · assumption
            rw [Vm.takeIdentity, if_neg hnext] at htake
            cases htake
            exact hnext
          have hempty : (l.entries i).live = false := by simpa using List.find?_some hslot
          have hinv : RegionInv (Vm.withRegion { l with nextIdentity := identity } i r) := by
            apply Vm.withRegion_inv (l := { l with nextIdentity := identity })
              ⟨h.sound, h.apart, h.liveCount⟩ hne hargs.2 hempty
            intro j hj
            have hnone := List.findSome?_eq_none_iff.mp hfree j (List.mem_finRange j)
            exact Vm.regionObstacle_eq_none hnone hj
          obtain ⟨n, rfl⟩ := Nat.exists_eq_succ_of_ne_zero hne
          exact .inr ⟨i, n, hempty, rfl, rfl, rfl, hinv.sound, hinv.apart, hinv.liveCount⟩

/-- Each live region can be taken out again. -/
theorem regionUnregister_live {l : RegionLedger} {i : RegionSlot} (h : RegionInv l)
    (hi : (l.entries i).live = true) :
    Vm.regionUnregister l (l.entries i).base (l.entries i).bytes
      (l.entries i).allocationIdentity = { ledger := Vm.withoutRegion l i } := by
  obtain ⟨hbase, hbytes, _⟩ := h.range hi
  have hidentity : (l.entries i).allocationIdentity ≠ 0 := by
    have hsound := h.sound i hi
    simp only [Region.sound, Bool.and_eq_true, decide_eq_true_eq] at hsound
    exact hsound.2
  rcases Vm.regionUnregister_cases h (l.entries i).base (l.entries i).bytes
    (l.entries i).allocationIdentity with hrefused | ⟨j, hj, hjbase, hjbytes, _, heq⟩
  · exfalso
    apply hrefused.1
    unfold Vm.regionUnregister
    rw [if_neg (by simp [hbase, hbytes, hidentity])]
    split
    · rename_i hnone
      have hno := List.find?_eq_none.mp hnone i (List.mem_finRange i)
      simp [hi] at hno
    · rename_i j hfound
      have hj := List.find?_some hfound
      simp only [Bool.and_eq_true] at hj
      rw [if_neg (h.liveCount_pos hj.1.1.1)]
  · have hji : j = i := by
      by_contra hne
      have hapart := h.apart hne hj hi
      rw [hjbase, hjbytes] at hapart
      unfold Apart at hapart
      omega
    rw [heq, hji]

/-! ## The invariant -/

/-- The threads whose stack is in the ledger. The boot thread runs on the stack of the loader. -/
def Owns (s : State) (t : ThreadSlot) : Prop := t = 0 ∨ (s.threads t).live = true

def ownRegion (loader : RegionAttributes) (s : State) (t : ThreadSlot) : RegionAttributes :=
  if t = 0 then loader else stackRegion (s.threads t).stackBase stackSize

/-- The threads with a stack and the entries of the ledger are in step. -/
structure Places (loader : RegionAttributes) (w : World) (place : ThreadSlot → RegionSlot) :
    Prop where
  live : ∀ t, Owns w.scheduler t → (w.regions.entries (place t)).live = true
  region : ∀ t, Owns w.scheduler t →
    (w.regions.entries (place t)).toRegionAttributes = ownRegion loader w.scheduler t
  identity : ∀ t, t ≠ 0 → (w.scheduler.threads t).live = true →
    (w.regions.entries (place t)).allocationIdentity = (w.scheduler.threads t).stackVmIdentity
  injective : ∀ t u, Owns w.scheduler t → Owns w.scheduler u → place t = place u → t = u
  onto : ∀ i, (w.regions.entries i).live = true → ∃ t, Owns w.scheduler t ∧ place t = i

/-- The TCB of a worker describes its stack as a creation left it. -/
structure Stacked (x : Tcb) : Prop where
  memory : x.stackPagesMemory ≠ 0
  base : x.stackBase = x.stackPagesMemory
  limit : x.stackLimit = add64 x.stackBase stackSize
  identity : x.stackVmIdentity ≠ 0

structure Backed (loader : RegionAttributes) (w : World) : Prop where
  inv : Inv w.scheduler
  tidy : ∃ k, k < 2 ^ 32 ∧ Tidy k w.scheduler
  regions : RegionInv w.regions
  stacked : ∀ t, t ≠ 0 → (w.scheduler.threads t).live = true → Stacked (w.scheduler.threads t)
  placed : ∃ place, Places loader w place

theorem stackView_live (h : KeepsStacks s s') (ht : t ≠ 0) :
    (s'.threads t).live = (s.threads t).live :=
  congrArg Prod.fst (h t ht)

theorem KeepsStacks.owns (h : KeepsStacks s s') (t : ThreadSlot) : Owns s' t ↔ Owns s t := by
  unfold Owns
  by_cases ht : t = 0
  · simp [ht]
  · rw [stackView_live h ht]

theorem Stacked.congr {x y : Tcb} (h : Stacked x) (hv : stackView y = stackView x) :
    Stacked y := by
  simp only [stackView, Prod.mk.injEq] at hv
  obtain ⟨_, hmemory, hbase, hlimit, hidentity⟩ := hv
  refine ⟨?_, ?_, ?_, ?_⟩
  · rw [hmemory]
    exact h.memory
  · rw [hbase, hmemory]
    exact h.base
  · rw [hlimit, hbase]
    exact h.limit
  · rw [hidentity]
    exact h.identity

theorem KeepsStacks.ownRegion (h : KeepsStacks s s') (t : ThreadSlot) :
    ownRegion loader s' t = ownRegion loader s t := by
  unfold StackRegions.ownRegion
  split
  · rfl
  · rename_i ht
    have hview := h t ht
    simp only [stackView, Prod.mk.injEq] at hview
    rw [hview.2.2.1]

/-- A change that leaves the stacks of the workers and the ledger alone keeps them in step. -/
theorem Backed.keep (h : Backed loader w) (hkeep : KeepsStacks w.scheduler s') (hinv : Inv s')
    (htidy : ∃ k, k < 2 ^ 32 ∧ Tidy k s') {regions : RegionLedger}
    (hentries : regions.entries = w.regions.entries) (hregions : RegionInv regions) :
    Backed loader { scheduler := s', regions } := by
  obtain ⟨place, hplace⟩ := h.placed
  refine ⟨hinv, htidy, hregions, fun t ht hl => ?_, place, ?_⟩
  · have hl0 : (w.scheduler.threads t).live = true := by
      rw [← stackView_live hkeep ht]
      exact hl
    exact (h.stacked t ht hl0).congr (hkeep t ht)
  · refine ⟨fun t ht => ?_, fun t ht => ?_, fun t ht hl => ?_, fun t u ht hu => ?_, fun i hi => ?_⟩
    · rw [hentries]
      exact hplace.live t ((hkeep.owns t).mp ht)
    · rw [hentries, hkeep.ownRegion]
      exact hplace.region t ((hkeep.owns t).mp ht)
    · have hview := hkeep t ht
      simp only [stackView, Prod.mk.injEq] at hview
      have hl0 : (w.scheduler.threads t).live = true := hview.1.symm.trans hl
      rw [hentries, hview.2.2.2.2]
      exact hplace.identity t ht hl0
    · exact hplace.injective t u ((hkeep.owns t).mp ht) ((hkeep.owns u).mp hu)
    · rw [hentries] at hi
      obtain ⟨t, ht, rfl⟩ := hplace.onto i hi
      exact ⟨t, (hkeep.owns t).mpr ht, rfl⟩

/-! ## Creation -/

theorem memoryRegisterSchedulerStack_outcome {l : RegionLedger} (h : RegionInv l)
    (base bytes : Nat) :
    ((memoryRegisterSchedulerStack l base bytes).1 = none ∧
      (memoryRegisterSchedulerStack l base bytes).2.entries = l.entries ∧
      RegionInv (memoryRegisterSchedulerStack l base bytes).2) ∨
    ∃ i identity, (l.entries i).live = false ∧
      (memoryRegisterSchedulerStack l base bytes).1 = some (identity + 1) ∧
      (memoryRegisterSchedulerStack l base bytes).2.entries = Function.update l.entries i
        { stackRegion base bytes with live := true, allocationIdentity := identity + 1 } ∧
      RegionInv (memoryRegisterSchedulerStack l base bytes).2 := by
  have hcases := regionRegister_outcome h (stackRegion base bytes)
  unfold stackRegion at hcases ⊢
  unfold memoryRegisterSchedulerStack
  dsimp only
  rcases hcases with
    ⟨hstatus, hentries, hinv⟩ | ⟨i, identity, hempty, hstatus, hidentity, hentries, hinv⟩
  · split
    · rename_i hnone
      exact absurd hnone hstatus
    · exact .inl ⟨rfl, hentries, hinv⟩
  · rw [hstatus]
    exact .inr ⟨i, identity, hempty, congrArg some hidentity, hentries, hinv⟩

theorem stackBytes_stack (base : Nat) : stackBytes base (add64 base stackSize) = stackSize := by
  unfold stackBytes sub64 add64 stackSize
  omega

/-- A creation that returned 0 leaves the stacks alone. -/
theorem Backed.undone (h : Backed loader w) (hu : Scheduler.Undone w.scheduler s') (hinv : Inv s')
    {regions : RegionLedger} (hentries : regions.entries = w.regions.entries)
    (hregions : RegionInv regions) : Backed loader { scheduler := s', regions } := by
  obtain ⟨k, hk, htidy⟩ := h.tidy
  exact h.keep (.of_threads hu.threads) hinv ⟨k, hk, hu.tidy htidy⟩ hentries hregions

/-- The new thread has the region that was registered for it. -/
theorem Backed.created (h : Backed loader w) (c : CreateCall) {o : Scheduler.ObjectSlot}
    {i : RegionSlot} {identity : Nat} (hc : c.Equipped w.scheduler t o)
    (hinv : Inv (Scheduler.createdState w.scheduler c t o (identity + 1)))
    {regions : RegionLedger} (hempty : (w.regions.entries i).live = false)
    (hentries : regions.entries = Function.update w.regions.entries i
      { stackRegion c.answers.stack.memory stackSize with
        live := true, allocationIdentity := identity + 1 })
    (hregions : RegionInv regions) :
    Backed loader
      { scheduler := Scheduler.createdState w.scheduler c t o (identity + 1), regions } := by
  obtain ⟨k, hk, htidy⟩ := h.tidy
  obtain ⟨place, hplace⟩ := h.placed
  have hfree := Scheduler.freeThread?_live hc.thread
  have ht : t ≠ 0 := by
    rintro rfl
    rw [(h.inv.current.boot hc.installed).2.1] at hfree
    cases hfree
  obtain ⟨hthread, _, _⟩ :=
    Scheduler.createdState_facts hc.installed t o hc.canary hc.environment (identity + 1)
  have hothers : ∀ u, u ≠ t → (Scheduler.createdState w.scheduler c t o (identity + 1)).threads u =
      w.scheduler.threads u := by
    intro u hu
    rw [(Scheduler.createdState_works w.scheduler c t o (identity + 1)).others u hu]
    simp [Scheduler.identified, Scheduler.identifyThread, hu]
  have howns : ∀ u, u ≠ t →
      (Owns (Scheduler.createdState w.scheduler c t o (identity + 1)) u ↔ Owns w.scheduler u) := by
    intro u hu
    unfold Owns
    rw [hothers u hu]
  have hnew : Owns (Scheduler.createdState w.scheduler c t o (identity + 1)) t := by
    right
    rw [hthread]
    rfl
  have hplaced : ∀ u, Owns w.scheduler u → place u ≠ i := by
    rintro u hu rfl
    rw [hplace.live u hu] at hempty
    cases hempty
  refine ⟨hinv, ⟨_, Nat.mod_lt _ (by decide),
    (Scheduler.createdState_tidy htidy hc (identity + 1)).1⟩, hregions, fun u hu hl => ?_,
    Function.update place t i, ?_⟩
  · by_cases hut : u = t
    · subst hut
      rw [hthread]
      refine ⟨?_, rfl, rfl, Nat.succ_ne_zero identity⟩
      have hgranted := hc.stack
      simp only [Scheduler.PageAnswer.granted, Bool.and_eq_true, decide_eq_true_eq] at hgranted
      exact hgranted.2
    · rw [hothers u hut] at hl ⊢
      exact h.stacked u hu hl
  · refine ⟨fun u hu => ?_, fun u hu => ?_, fun u hu hl => ?_, fun u v hu hv heq => ?_,
      fun j hj => ?_⟩
    · by_cases hut : u = t
      · subst hut
        simp [hentries]
      · have hu := (howns u hut).mp hu
        simp [hentries, hut, hplaced u hu, hplace.live u hu]
    · by_cases hut : u = t
      · subst hut
        simp [hentries, ownRegion, ht, hthread, Scheduler.createdTcb]
      · have hu := (howns u hut).mp hu
        simp only [hentries, Function.update_of_ne hut, Function.update_of_ne (hplaced u hu)]
        rw [hplace.region u hu]
        unfold ownRegion
        rw [hothers u hut]
    · by_cases hut : u = t
      · subst hut
        simp [hentries, hthread, Scheduler.createdTcb]
      · rw [hothers u hut] at hl ⊢
        simp only [hentries, Function.update_of_ne hut,
          Function.update_of_ne (hplaced u (.inr hl))]
        exact hplace.identity u hu hl
    · by_cases hut : u = t
      · by_cases hvt : v = t
        · rw [hut, hvt]
        · subst hut
          rw [Function.update_self, Function.update_of_ne hvt] at heq
          exact absurd heq.symm (hplaced v ((howns v hvt).mp hv))
      · by_cases hvt : v = t
        · subst hvt
          rw [Function.update_self, Function.update_of_ne hut] at heq
          exact absurd heq (hplaced u ((howns u hut).mp hu))
        · rw [Function.update_of_ne hut, Function.update_of_ne hvt] at heq
          exact hplace.injective u v ((howns u hut).mp hu) ((howns v hvt).mp hv) heq
    · by_cases hji : j = i
      · exact ⟨t, hnew, by rw [Function.update_self, hji]⟩
      · rw [hentries, Function.update_of_ne hji] at hj
        obtain ⟨u, hu, rfl⟩ := hplace.onto j hj
        have hut : u ≠ t := by
          rintro rfl
          rcases hu with h0 | hl
          · exact ht h0
          · rw [hfree] at hl
            cases hl
        exact ⟨u, (howns u hut).mpr hu, Function.update_of_ne hut ..⟩

theorem create_backed (h : Backed loader w) (c : CreateCall) : Backed loader (create w c) := by
  obtain ⟨k, hk, htidy⟩ := h.tidy
  unfold create
  cases hslots : c.slots w.scheduler with
  | none =>
    have hinv : Inv (c.run w.scheduler).2 := Scheduler.step_inv h.inv c.op
    rcases CreateCall.run_cases htidy hk c with ⟨t, o, _, hsome, _⟩ | ⟨_, _, hu⟩
    · rw [hslots] at hsome
      cases hsome
    · exact h.undone hu hinv rfl h.regions
  | some q =>
    obtain ⟨t, o⟩ := q
    dsimp only
    rw [stackBytes_stack]
    have hcases := memoryRegisterSchedulerStack_outcome h.regions c.answers.stack.memory stackSize
    generalize memoryRegisterSchedulerStack w.regions c.answers.stack.memory stackSize = answer
      at hcases
    obtain ⟨stackVm, regions⟩ := answer
    dsimp only at hcases ⊢
    have hinv : Inv (CreateCall.run w.scheduler
        { c with answers := { c.answers with stackVm } }).2 :=
      Scheduler.step_inv h.inv (CreateCall.op { c with answers := { c.answers with stackVm } })
    have hrun := CreateCall.run_cases htidy hk { c with answers := { c.answers with stackVm } }
    rcases hcases with ⟨rfl, hentries, hregions⟩ | ⟨i, identity, hempty, rfl, hentries, hregions⟩
    · rcases hrun with ⟨_, _, _, _, hnone, _⟩ | ⟨_, _, hu⟩
      · cases hnone
      · exact h.undone hu hinv hentries hregions
    · rcases hrun with ⟨t', o', identity', hsame, hid, heq⟩ | ⟨hno, _⟩
      · cases hid
        rw [heq] at hinv ⊢
        exact h.created _ (CreateCall.slots_eq_some hsame) hinv hempty hentries hregions
      · exact absurd rfl (hno t o identity hslots)

/-! ## Reclaim -/

theorem reclaimable_stacked (h : Backed loader w) (hinv : Inv s1)
    (hkeep : KeepsStacks w.scheduler s1) (hr : reclaimable s1 t = true) :
    t ≠ 0 ∧ (s1.threads t).live = true ∧ Stacked (s1.threads t) := by
  obtain ⟨hl, _, _, _, _, ht⟩ := Scheduler.reclaimable_facts hinv.toCore hr
  have hl0 : (w.scheduler.threads t).live = true := by
    rw [← stackView_live hkeep ht]
    exact hl
  exact ⟨ht, hl, (h.stacked t ht hl0).congr (hkeep t ht)⟩

/-- A refusal of the callback keeps the thread. -/
theorem maybeReclaimThread_refused (h : Backed loader w) (hinv : Inv s1)
    (hkeep : KeepsStacks w.scheduler s1) (t : ThreadSlot) : maybeReclaimThread s1 t false = s1 := by
  unfold maybeReclaimThread
  split
  · rfl
  · rename_i hr
    simp only [Decidable.not_not] at hr
    rw [if_pos (reclaimable_stacked h hinv hkeep hr).2.2.memory, if_pos (by simp)]

/-- The loader takes out the region of the thread that is reclaimed. -/
theorem unregisterStack_granted {place : ThreadSlot → RegionSlot} (h : Backed loader w)
    (hplace : Places loader w place) (hinv : Inv s1) (hkeep : KeepsStacks w.scheduler s1)
    (hun : unregisters s1 t = true) :
    unregisterStack w s1 t = (true, Vm.withoutRegion w.regions (place t)) := by
  simp only [unregisters, Bool.and_eq_true] at hun
  obtain ⟨ht, hl, hstack⟩ := reclaimable_stacked h hinv hkeep hun.1.1.1
  have hl0 : (w.scheduler.threads t).live = true := by
    rw [← stackView_live hkeep ht]
    exact hl
  have hview := hkeep t ht
  simp only [stackView, Prod.mk.injEq] at hview
  have hregion := hplace.region t (.inr hl0)
  rw [ownRegion, if_neg ht] at hregion
  have hbase : (w.regions.entries (place t)).base = (s1.threads t).stackBase := by
    rw [hview.2.2.1]
    exact congrArg RegionAttributes.base hregion
  have hbytes : (w.regions.entries (place t)).bytes = stackSize :=
    congrArg RegionAttributes.bytes hregion
  have hidentity : (w.regions.entries (place t)).allocationIdentity =
      (s1.threads t).stackVmIdentity := by
    rw [hview.2.2.2.2]
    exact hplace.identity t ht hl0
  have hgranted := regionUnregister_live h.regions (hplace.live t (.inr hl0))
  rw [hbase, hbytes, hidentity] at hgranted
  unfold unregisterStack memoryUnregisterSchedulerStack
  rw [hstack.limit, stackBytes_stack, hgranted]
  rfl

theorem maybeReclaimThread_granted (hinv : Inv s1) (hun : unregisters s1 t = true) :
    (maybeReclaimThread s1 t true).threads = Function.update s1.threads t {} := by
  simp only [unregisters, Bool.and_eq_true, decide_eq_true_eq] at hun
  obtain ⟨⟨⟨hr, hmemory⟩, hidentity⟩, hconfig⟩ := hun
  have hi := (Scheduler.reclaimable_facts hinv.toCore hr).2.2.2.2.1
  unfold maybeReclaimThread
  rw [if_neg (by simp [hr]), if_pos hmemory, if_neg (by simp [hidentity, hconfig])]
  rw [(Scheduler.reclaimThread_pages (s := s1.modThread t fun thread =>
    { thread with stackVmIdentity := 0 }) hi t).1]
  funext u
  by_cases hu : u = t
  · subst hu
    simp
  · simp [hu]

/-- The thread and its region go together. -/
theorem Backed.reclaimed {place : ThreadSlot → RegionSlot} (h : Backed loader w)
    (hplace : Places loader w place) (ht : t ≠ 0) (hl : (w.scheduler.threads t).live = true)
    (hkeep : ∀ u, u ≠ 0 → u ≠ t →
      stackView (s'.threads u) = stackView (w.scheduler.threads u))
    (hgone : (s'.threads t).live = false) (hinv : Inv s')
    (htidy : ∃ k, k < 2 ^ 32 ∧ Tidy k s') :
    Backed loader { scheduler := s', regions := Vm.withoutRegion w.regions (place t) } := by
  have howns : ∀ u, Owns s' u → u ≠ t ∧ Owns w.scheduler u := by
    rintro u (rfl | hu)
    · exact ⟨Ne.symm ht, .inl rfl⟩
    · have hut : u ≠ t := by
        rintro rfl
        rw [hgone] at hu
        cases hu
      by_cases hu0 : u = 0
      · exact ⟨hut, .inl hu0⟩
      · exact ⟨hut, .inr ((congrArg Prod.fst (hkeep u hu0 hut)).symm.trans hu)⟩
  have hother : ∀ u, Owns s' u → place u ≠ place t := by
    intro u hu heq
    exact (howns u hu).1 (hplace.injective u t (howns u hu).2 (.inr hl) heq)
  have hentry : ∀ u, Owns s' u → (Vm.withoutRegion w.regions (place t)).entries (place u) =
      w.regions.entries (place u) :=
    fun u hu => Function.update_of_ne (hother u hu) ..
  refine ⟨hinv, htidy, Vm.withoutRegion_inv h.regions (hplace.live t (.inr hl)),
    fun u hu hul => ?_, place, ?_⟩
  · have hut := (howns u (.inr hul)).1
    have hul0 := (congrArg Prod.fst (hkeep u hu hut)).symm.trans hul
    exact (h.stacked u hu hul0).congr (hkeep u hu hut)
  · refine ⟨fun u hu => ?_, fun u hu => ?_, fun u hu hul => ?_, fun u v hu hv => ?_,
      fun j hj => ?_⟩
    · change ((Vm.withoutRegion w.regions (place t)).entries (place u)).live = true
      rw [hentry u hu]
      exact hplace.live u (howns u hu).2
    · change ((Vm.withoutRegion w.regions (place t)).entries (place u)).toRegionAttributes = _
      rw [hentry u hu, hplace.region u (howns u hu).2]
      unfold ownRegion
      split
      · rfl
      · rename_i hu0
        have hview := hkeep u hu0 (howns u hu).1
        simp only [stackView, Prod.mk.injEq] at hview
        rw [hview.2.2.1]
    · change ((Vm.withoutRegion w.regions (place t)).entries (place u)).allocationIdentity = _
      have hview := hkeep u hu (howns u (.inr hul)).1
      simp only [stackView, Prod.mk.injEq] at hview
      rw [hentry u (.inr hul), hview.2.2.2.2]
      exact hplace.identity u hu (hview.1.symm.trans hul)
    · exact hplace.injective u v (howns u hu).2 (howns v hv).2
    · change (Function.update w.regions.entries (place t) {} j).live = true at hj
      by_cases hjt : j = place t
      · rw [hjt, Function.update_self] at hj
        cases hj
      · rw [Function.update_of_ne hjt] at hj
        obtain ⟨u, hu, rfl⟩ := hplace.onto j hj
        have hut : u ≠ t := by
          rintro rfl
          exact hjt rfl
        refine ⟨u, ?_, rfl⟩
        rcases hu with hu | hu
        · exact .inl hu
        · by_cases hu0 : u = 0
          · exact .inl hu0
          · exact .inr ((congrArg Prod.fst (hkeep u hu0 hut)).trans hu)

/-- A call that hands a thread to `maybe_reclaim_thread`. -/
theorem answered_backed (h : Backed loader w) (hinv : Inv s1)
    (hkeep : KeepsStacks w.scheduler s1) (call : Bool → State)
    (hcall : ∀ ok, call ok = maybeReclaimThread s1 t ok)
    (htidy : ∀ ok, ∃ k, k < 2 ^ 32 ∧ Tidy k (call ok)) :
    Backed loader (answered w t call).2 ∧
      (answered w t call).2.scheduler = call (answered w t call).1 := by
  have hasked : call false = s1 := by
    rw [hcall, maybeReclaimThread_refused h hinv hkeep t]
  obtain ⟨place, hplace⟩ := h.placed
  unfold answered
  dsimp only
  rw [hasked]
  cases hun : unregisters s1 t with
  | false =>
    refine ⟨?_, hasked.symm⟩
    have htidy1 := htidy false
    rw [hasked] at htidy1
    exact h.keep hkeep hinv htidy1 rfl h.regions
  | true =>
    have hr : reclaimable s1 t = true := by
      simp only [unregisters, Bool.and_eq_true] at hun
      exact hun.1.1.1
    obtain ⟨ht, hl, _⟩ := reclaimable_stacked h hinv hkeep hr
    rw [if_pos rfl, unregisterStack_granted h hplace hinv hkeep hun]
    refine ⟨?_, rfl⟩
    have hthreads : (call true).threads = Function.update s1.threads t {} := by
      rw [hcall]
      exact maybeReclaimThread_granted hinv hun
    apply h.reclaimed hplace ht ((stackView_live hkeep ht).symm.trans hl)
    · intro u hu hut
      rw [hthreads, Function.update_of_ne hut]
      exact hkeep u hu
    · rw [hthreads, Function.update_self]
    · rw [hcall]
      exact Scheduler.maybeReclaimThread_inv hinv t true
    · exact htidy true

/-! ## The loop of a collection -/

theorem collectIn_backed (ts : List ThreadSlot) (hts : ts.Nodup) (h : Backed loader w) :
    Backed loader (collectIn ts w).2 ∧
      ∀ f : ThreadSlot → Bool, (∀ t ∈ ts, f t = (collectIn ts w).1 t) →
        ts.foldl (fun s t => maybeReclaimThread s t (f t)) w.scheduler =
          (collectIn ts w).2.scheduler := by
  induction ts generalizing w with
  | nil => exact ⟨h, fun _ _ => rfl⟩
  | cons t rest ih =>
    obtain ⟨k, hk, htidy⟩ := h.tidy
    obtain ⟨h1, hscheduler⟩ := answered_backed (t := t) h h.inv (.refl w.scheduler)
      (maybeReclaimThread w.scheduler t) (fun _ => rfl)
      fun ok => ⟨k, hk, Scheduler.maybeReclaimThread_tidy h.inv.toCore htidy t ok⟩
    obtain ⟨hnotin, hrest⟩ := List.nodup_cons.mp hts
    obtain ⟨h2, hfold⟩ := ih hrest h1
    unfold collectIn
    dsimp only
    refine ⟨h2, fun f hf => ?_⟩
    have hft : f t = (answered w t (maybeReclaimThread w.scheduler t)).1 := by
      rw [hf t List.mem_cons_self, Function.update_self]
    rw [List.foldl_cons, hft, ← hscheduler]
    apply hfold
    intro u hu
    have hut : u ≠ t := by
      rintro rfl
      exact hnotin hu
    rw [hf u (List.mem_cons_of_mem t hu), Function.update_of_ne hut]

theorem collectAll_backed (h : Backed loader w) : Backed loader (collectAll w).2 :=
  (collectIn_backed _ (List.nodup_finRange _) h).1

theorem collectAll_scheduler {p : SchedulerPtr} (h : Backed loader w)
    (hp : w.scheduler.accepts p = true) :
    (Scheduler.collect w.scheduler p (collectAll w).1).2 = (collectAll w).2.scheduler := by
  unfold Scheduler.collect
  rw [if_neg (by simp [hp])]
  unfold collectAll
  have hts := List.nodup_finRange Scheduler.maxThreads
  generalize List.finRange Scheduler.maxThreads = ts at hts
  exact (collectIn_backed ts hts h).2 _ fun _ _ => rfl

theorem teardown_collects {p : SchedulerPtr} (h : tearsDown s p = true) (f : ThreadSlot → Bool)
    (hfailed : (Scheduler.teardown s p f).1 = false) :
    (Scheduler.teardown s p f).2 = (Scheduler.collect s p f).2 := by
  simp only [tearsDown, Bool.and_eq_true, decide_eq_true_eq] at h
  obtain ⟨⟨⟨haccepts, hactive⟩, hcurrent⟩, hboot⟩ := h
  unfold Scheduler.teardown at hfailed ⊢
  rw [if_neg (by simp [haccepts, hactive, hcurrent])] at hfailed ⊢
  cases hb : s.bootThread with
  | none =>
    rw [hb] at hboot
    cases hboot
  | some boot =>
    simp only [hb, decide_eq_true_eq] at hboot hfailed ⊢
    rw [if_neg (not_not.mpr hboot)] at hfailed ⊢
    split at hfailed
    · rename_i hlive
      rw [if_pos hlive]
    · rename_i hlive
      rw [if_neg hlive]
      split at hfailed
      · rename_i hstream
        rw [if_pos hstream]
      · cases hfailed

theorem tornDown_keepsStacks (s : State) (hi : s.installed = true) :
    KeepsStacks s (Scheduler.tornDown
      (Scheduler.freeThreadEnvironment (Scheduler.releaseStream s) 0) 0) := by
  obtain ⟨hinstalled, _, _, hthreads⟩ := Scheduler.releaseStream_keeps s
  have hfree := (Scheduler.freeThreadEnvironment_pages (hinstalled.trans hi) 0).1
  intro t ht
  simp [Scheduler.tornDown, Scheduler.releaseObjectRecord, ht, hfree, hthreads]

/-! ## A step and a run -/

theorem withAnswer_saves {op : Op} (h : Scheduler.SavesLive s op) (ok : Bool) :
    Scheduler.SavesLive s (withAnswer op ok) := by
  cases op <;> exact h

theorem withAnswer_creates (op : Op) (ok : Bool) :
    Scheduler.creates (withAnswer op ok) = Scheduler.creates op := by
  cases op <;> rfl

theorem reclaim_backed {op : Op} (h : Backed loader w) (hop : Scheduler.SavesLive w.scheduler op)
    (hcreate : Scheduler.creates op = false) (hcollect : ∀ p f, op ≠ .collect p f)
    (hteardown : ∀ p f, op ≠ .teardown p f) : Backed loader (step w op) := by
  obtain ⟨k, hk, htidy⟩ := h.tidy
  have htidies : ∀ ok, ∃ k, k < 2 ^ 32 ∧
      Tidy k (Scheduler.step w.scheduler (withAnswer op ok)) := fun ok =>
    ⟨k, hk, Scheduler.step_tidy h.inv htidy (withAnswer_saves hop ok)
      ((withAnswer_creates op ok).trans hcreate)⟩
  have hstep : step w op = reclaimStep w op := by
    cases op with
    | createSuspendedThread p e a b d x => cases hcreate
    | collect p f => exact absurd rfl (hcollect p f)
    | teardown p f => exact absurd rfl (hteardown p f)
    | _ => rfl
  rw [hstep, reclaimStep]
  cases hby : reclaimedBy w.scheduler op with
  | none =>
    exact h.keep (step_keepsStacks hcreate hcollect hteardown h.inv hby)
      (Scheduler.step_inv h.inv _) (htidies false) rfl h.regions
  | some t =>
    obtain ⟨s1, hinv, hkeep, hcall⟩ := reclaimedBy_spec h.inv hby
    exact (answered_backed h hinv hkeep _ hcall htidies).1

theorem teardown_backed (h : Backed loader w) (p : SchedulerPtr) (f : ThreadSlot → Bool) :
    Backed loader (step w (.teardown p f)) := by
  change Backed loader (if tearsDown w.scheduler p then _ else w)
  split
  · rename_i hguard
    have hall := collectAll_backed h
    have haccepts : w.scheduler.accepts p = true := by
      simp only [tearsDown, Bool.and_eq_true] at hguard
      exact hguard.1.1.1
    have hscheduler := collectAll_scheduler h haccepts
    obtain ⟨k, hk, htidy⟩ := h.tidy
    refine hall.keep ?_ (Scheduler.teardown_inv h.inv p _)
      ⟨k, hk, Scheduler.teardown_tidy h.inv htidy p _⟩ rfl hall.regions
    rw [← hscheduler]
    rcases Scheduler.teardown_cases h.inv p (collectAll w).1 with heq | heq | ⟨hi, _, _, heq⟩
    · rw [teardown_collects hguard _ (by rw [heq])]
      exact .refl _
    · rw [heq]
      exact .refl _
    · rw [heq]
      exact tornDown_keepsStacks _ ((Scheduler.collect_keeps w.scheduler p _).2.trans hi)
  · exact h

theorem step_backed (h : Backed loader w) {op : Op} (hop : Scheduler.SavesLive w.scheduler op) :
    Backed loader (step w op) := by
  cases op with
  | createSuspendedThread p e a b d x => exact create_backed h ⟨p, e, a, b, d, x⟩
  | collect p f =>
    change Backed loader (if w.scheduler.accepts p then (collectAll w).2 else w)
    split
    · exact collectAll_backed h
    · exact h
  | teardown p f => exact teardown_backed h p f
  | _ => exact reclaim_backed h hop rfl (fun _ _ => nofun) fun _ _ => nofun

theorem booted_backed {lower upper : Nat} (h : Booted lower upper w) :
    Backed (stackRegion lower (upper - lower)) w := by
  obtain ⟨⟨i, hi⟩, _, hstatus, hregions⟩ := h
  obtain ⟨hothers, hlive, _⟩ := Scheduler.started_boot hi
  have hstarted : Scheduler.Started w.scheduler := ⟨i, hi⟩
  have hdead : ∀ t, t ≠ 0 → (w.scheduler.threads t).live = false := by
    intro t ht
    rw [hothers t ht]
  have howner : ∀ t, Owns w.scheduler t → t = 0 := by
    rintro t (rfl | ht)
    · rfl
    · by_contra hne
      rw [hdead t hne] at ht
      cases ht
  rcases regionRegister_outcome Vm.regionLedgerInit_inv (stackRegion lower (upper - lower)) with
    ⟨hrefused, _⟩ | ⟨j, identity, _, _, _, hentries, hinv⟩
  · exact absurd hstatus hrefused
  · rw [← hregions] at hentries hinv
    refine ⟨Scheduler.started_inv hstarted,
      ⟨2, by decide, (Scheduler.started_counts hstarted).tidy⟩, hinv, fun t ht hl => ?_,
      fun _ => j, fun t ht => ?_, fun t ht => ?_, fun t ht hl => ?_, fun t u ht hu _ => ?_,
      fun k hk => ?_⟩
    · rw [hdead t ht] at hl
      cases hl
    · rw [hentries, Function.update_self]
    · rw [hentries, Function.update_self, howner t ht]
      rfl
    · rw [hdead t ht] at hl
      cases hl
    · rw [howner t ht, howner u hu]
    · refine ⟨0, .inl rfl, ?_⟩
      by_contra hne
      rw [hentries, Function.update_of_ne (Ne.symm hne)] at hk
      cases hk

theorem reached_backed {lower upper : Nat} (h : Reached lower upper w) :
    Backed (stackRegion lower (upper - lower)) w :=
  h.invariant (fun _ => booted_backed) fun _ _ _ hbacked hop => step_backed hbacked hop

/-- What the callers of the ledger see of the stacks. -/
structure StacksAnswered (loader : RegionAttributes) (w : World) : Prop where
  query : ∀ address length information,
    Vm.regionVirtualQuery w.regions address length = some information ↔
      Vm.memoryBasicInformationSize ≤ length ∧ ∃ t, Owns w.scheduler t ∧
        (ownRegion loader w.scheduler t).base ≤ address ∧
        address < (ownRegion loader w.scheduler t).base +
          (ownRegion loader w.scheduler t).bytes ∧
        information = (ownRegion loader w.scheduler t).information
  apart : ∀ t u, t ≠ u → Owns w.scheduler t → Owns w.scheduler u →
    Apart (ownRegion loader w.scheduler t).base (ownRegion loader w.scheduler t).bytes
      (ownRegion loader w.scheduler u).base (ownRegion loader w.scheduler u).bytes
  count : w.regions.liveCount =
    (Finset.univ.filter fun t => t = 0 ∨ (w.scheduler.threads t).live = true).card
  reclaim : ∀ t, reclaimable w.scheduler t = true →
    w.scheduler.config.unregisterStackVm = true →
    (unregisterStack w w.scheduler t).1 = true

theorem Backed.answered {place : ThreadSlot → RegionSlot} (h : Backed loader w)
    (hplace : Places loader w place) : StacksAnswered loader w := by
  refine ⟨fun address length information => ?_, fun t u htu ht hu => ?_, ?_,
    fun t hr hconfig => ?_⟩
  · rw [h.regions.query_iff]
    refine and_congr_right fun _ => ⟨?_, ?_⟩
    · rintro ⟨i, hi, hlow, hhigh, rfl⟩
      obtain ⟨t, ht, rfl⟩ := hplace.onto i hi
      refine ⟨t, ht, ?_⟩
      rw [← hplace.region t ht]
      exact ⟨hlow, hhigh, rfl⟩
    · rintro ⟨t, ht, hlow, hhigh, rfl⟩
      rw [← hplace.region t ht] at hlow hhigh ⊢
      exact ⟨place t, hplace.live t ht, hlow, hhigh, rfl⟩
  · rw [← hplace.region t ht, ← hplace.region u hu]
    apply h.regions.apart _ (hplace.live t ht) (hplace.live u hu)
    intro heq
    exact htu (hplace.injective t u ht hu heq)
  · rw [h.regions.liveCount]
    unfold Tables.total Vm.Region.one Tables.weighed
    rw [← Finset.card_filter]
    symm
    apply Finset.card_bij fun t _ => place t
    · intro t ht
      rw [Finset.mem_filter] at ht ⊢
      exact ⟨Finset.mem_univ _, hplace.live t ht.2⟩
    · intro t ht u hu heq
      rw [Finset.mem_filter] at ht hu
      exact hplace.injective t u ht.2 hu.2 heq
    · intro i hi
      rw [Finset.mem_filter] at hi
      obtain ⟨t, ht, heq⟩ := hplace.onto i hi.2
      exact ⟨t, Finset.mem_filter.mpr ⟨Finset.mem_univ _, ht⟩, heq⟩
  · have hkeep := KeepsStacks.refl w.scheduler
    obtain ⟨_, _, hstack⟩ := reclaimable_stacked h h.inv hkeep hr
    rw [unregisterStack_granted h hplace h.inv hkeep]
    simp [unregisters, hr, hstack.memory, hstack.identity, hconfig]

/-- In every state of a run, a query is answered with the stack that has the address, and every
stack is answered. No two stacks meet, wherever the firmware put them, and none is left behind. -/
theorem the_ledger_answers_with_the_live_stacks {lower upper : Nat} (h : Reached lower upper w) :
    StacksAnswered (stackRegion lower (upper - lower)) w := by
  have hbacked := reached_backed h
  obtain ⟨_, hplace⟩ := hbacked.placed
  exact hbacked.answered hplace

/-- Two workers, of which the second is discarded. -/
def sampleStacks : List Op :=
  [.configureStackVm .this true true, Scheduler.sampleCreate 0x200000,
    Scheduler.sampleCreate 0x300000, .closeHandle (Scheduler.sampleThread 2) false,
    .discardCreatedThread (some 2) false]

def sampleBooted : World :=
  { scheduler := Scheduler.sampleStart
    regions := (Vm.regionRegister Vm.regionLedgerInit (stackRegion 0x80000 0x20000) true).ledger }

theorem sampleStacks_reached :
    Reached 0x80000 0xA0000 (Runs.run step sampleBooted sampleStacks) := by
  have hstart : Reached 0x80000 0xA0000 sampleBooted :=
    .start ⟨Scheduler.sampleStart_started, by decide, by decide, rfl⟩
  apply Runs.Reach.run hstart
  intro s op hop
  simp only [sampleStacks, Scheduler.sampleCreate, List.mem_cons, List.not_mem_nil, or_false] at hop
  rcases hop with rfl | rfl | rfl | rfl | rfl <;> trivial

theorem a_discarded_stack_leaves_the_ledger :
    StacksAnswered (stackRegion 0x80000 (0xA0000 - 0x80000))
      (Runs.run step sampleBooted sampleStacks) ∧
    Vm.regionVirtualQuery (Runs.run step sampleBooted sampleStacks).regions 0x200010 48 =
      some (stackRegion 0x200000 stackSize).information ∧
    Vm.regionVirtualQuery (Runs.run step sampleBooted sampleStacks).regions 0x300010 48 =
      none := by
  refine ⟨the_ledger_answers_with_the_live_stacks sampleStacks_reached, ?_, ?_⟩
  · decide +kernel
  · decide +kernel

end Gate4Harness.StackRegions
