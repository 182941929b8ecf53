-- The cleanup of an index of the fiber-local storage. An index that is freed is cleared on
-- every thread, but only the value of the thread that frees it goes to the callback.
import Gate4Harness.FiberStorage
import Mathlib.Data.Finset.Card
import Mathlib.Data.Fintype.Basic

namespace Gate4Harness.FiberStorage

open scoped Scheduler
open Scheduler (ThreadSlot)

variable {w : World} {i : Nat}

/-! ## The reachable worlds -/

/-- A scheduler is booted where none is installed, and its operations need it. -/
def Possible (w : World) : Event → Prop
  | .boot _ => w.scheduler.installed = false
  | .scheduler _ => w.scheduler.installed = true
  | _ => True

instance (w : World) (e : Event) : Decidable (Possible w e) :=
  match e with
  | .boot _ | .scheduler _ => inferInstanceAs (Decidable (_ = _))
  | .adopt | .alloc _ | .set _ _ | .free _ => inferInstanceAs (Decidable True)

def Reachable : World → Prop := Runs.Reach (fun w => w = {}) step Possible

/-- The scheduler is sound, and a callback belongs to an allocated index. -/
structure Sound (w : World) : Prop where
  scheduler : w.scheduler.installed = true → Scheduler.Inv w.scheduler
  callback : ∀ i, w.flsCallbacks i ≠ 0 → i < flsSlots ∧ w.flsAllocated i ≠ 0

theorem Sound.unseen {scheduler : Scheduler.State} (h : Sound w)
    (hunseen : Scheduler.Unseen w.scheduler scheduler) :
    scheduler.installed = true → Scheduler.Inv scheduler :=
  fun hi => (h.scheduler (hunseen.installed ▸ hi)).unseen hunseen

theorem Sound.booted (h : Sound w) (input : Scheduler.BootInput) :
    Sound (step w (.boot input)) := by
  cases hboot : Scheduler.initializeScheduler input with
  | mk ok s =>
    cases ok with
    | false =>
      simp only [step, hboot]
      exact h
    | true =>
      simp only [step, hboot]
      exact ⟨fun _ => Scheduler.started_inv ⟨input, hboot⟩, h.callback⟩

theorem Sound.adopted (h : Sound w) : Sound (flsAdoptSchedulerStorage w) := by
  refine ⟨h.unseen (adopt_unseen w), ?_⟩
  unfold flsAdoptSchedulerStorage
  split <;> exact h.callback

theorem Sound.allocated (h : Sound w) (callback : Nat) : Sound (platformFlsAlloc w callback).2 := by
  unfold platformFlsAlloc
  split
  · exact h
  · rename_i j hfind
    refine ⟨h.scheduler, fun k hk => ?_⟩
    dsimp only at hk ⊢
    by_cases hkj : k = j
    · subst hkj
      rw [Function.update_self]
      exact ⟨List.mem_range.mp (List.mem_of_find?_eq_some hfind), Nat.one_ne_zero⟩
    · rw [Function.update_of_ne hkj] at hk ⊢
      exact h.callback k hk

theorem Sound.setValue (h : Sound w) (j value : Nat) : Sound (platformFlsSet w j value).2 := by
  unfold platformFlsSet
  split
  · split
    · exact ⟨h.unseen (Scheduler.setFls_unseen w.scheduler j value), h.callback⟩
    · exact ⟨h.scheduler, h.callback⟩
  · exact h

theorem Sound.freed (h : Sound w) (j : Nat) : Sound (platformFlsFree w j).2 := by
  unfold platformFlsFree
  split
  · exact h
  · refine ⟨?_, fun k hk => ?_⟩
    · dsimp only
      split
      · exact h.unseen (clearIndex_unseen w.scheduler j)
      · exact h.scheduler
    · dsimp only at hk ⊢
      by_cases hkj : k = j
      · rw [hkj, Function.update_self] at hk
        exact absurd rfl hk
      · rw [Function.update_of_ne hkj] at hk ⊢
        exact h.callback k hk

theorem Sound.step (h : Sound w) (e : Event) (hok : Possible w e) :
    Sound (FiberStorage.step w e) := by
  cases e with
  | boot input => exact h.booted input
  | scheduler op => exact ⟨fun _ => Scheduler.step_inv (h.scheduler hok) op, h.callback⟩
  | adopt => exact h.adopted
  | alloc callback => exact h.allocated callback
  | set j value => exact h.setValue j value
  | free j => exact h.freed j

theorem Reachable.sound (h : Reachable w) : Sound w := by
  apply Runs.Reach.invariant h
  · rintro w rfl
    refine ⟨fun hi => ?_, fun i hi => absurd rfl hi⟩
    cases hi
  · exact fun w e _ hs hok => hs.step e hok

/-! ## The cleanup -/

/-- The live threads that hold a value in the index. -/
def holders (w : World) (i : Nat) : Finset ThreadSlot :=
  Finset.univ.filter fun t =>
    (w.scheduler.threads t).live = true ∧ stored (w.scheduler.threads t) i ≠ 0

/-- What the index reads as on a thread. -/
def readOn (w : World) (t : ThreadSlot) (i : Nat) : Nat :=
  platformFlsGet { w with scheduler := { w.scheduler with current := some t } } i

/-- To free the index passes the value of each holder to the callback once, and clears the index
on every thread. -/
structure CleansUp (w : World) (i : Nat) : Prop where
  passed : ∃ values : List Nat,
    (platformFlsFree w i).2.cleanups =
      w.cleanups ++ values.map (fun value => (w.flsCallbacks i, value)) ∧
    (values : Multiset Nat) =
      (holders w i).val.map fun t => stored (w.scheduler.threads t) i
  cleared : ∀ t, readOn (platformFlsFree w i).2 t i = 0

/-- What the thread that frees the index passes on. -/
def ownValue (w : World) (c : ThreadSlot) (i : Nat) : List Nat :=
  if stored (w.scheduler.threads c) i = 0 then [] else [stored (w.scheduler.threads c) i]

/-- The thread that frees the index, with what is passed on and what is left. -/
theorem Sound.free_spec (h : Sound w) (hactive : flsUseSchedulerStorage w = true)
    (hcallback : w.flsCallbacks i ≠ 0) :
    ∃ c, w.scheduler.current = some c ∧ (w.scheduler.threads c).live = true ∧
      (platformFlsFree w i).2.cleanups =
        w.cleanups ++ (ownValue w c i).map (fun value => (w.flsCallbacks i, value)) ∧
      (platformFlsFree w i).2.flsAllocated i = 0 := by
  obtain ⟨hi, ha⟩ := h.callback i hcallback
  have huse := hactive
  simp only [flsUseSchedulerStorage, Bool.and_eq_true, decide_eq_true_eq] at huse
  obtain ⟨c, hc⟩ := Option.isSome_iff_exists.mp huse.2
  have hinstalled : w.scheduler.installed = true := by
    unfold currentThread at hc
    split at hc
    · rename_i hi
      exact hi
    · cases hc
  obtain ⟨c', hc', hcurrent, hlive⟩ := currentThread_of_running (h.scheduler hinstalled) hinstalled
  obtain rfl : c' = c := Option.some.inj (hc'.symm.trans hc)
  have hget : getFls w.scheduler i = stored (w.scheduler.threads c') i := by
    have hslots : ¬ i ≥ Scheduler.flsSlots := Nat.not_le.mpr hi
    unfold getFls stored
    rw [hc]
    simp only [hslots, false_or]
  have hrefused : ¬ (i ≥ flsSlots ∨ w.flsAllocated i = 0) := by
    rintro (hlarge | hfree)
    · exact Nat.not_le.mpr hi hlarge
    · exact ha hfree
  refine ⟨c', hcurrent, hlive, ?_, ?_⟩
  · unfold platformFlsFree ownValue
    rw [if_neg hrefused, if_pos hactive, hget]
    by_cases hzero : stored (w.scheduler.threads c') i = 0
    · simp [hzero]
    · simp [hzero, hcallback]
  · unfold platformFlsFree
    rw [if_neg hrefused]
    exact Function.update_self ..

/-- The values of the holders are those of one live thread exactly if no other holds one. -/
theorem values_of_holders_iff {c : ThreadSlot} (hlive : (w.scheduler.threads c).live = true) :
    ((ownValue w c i : List Nat) : Multiset Nat) =
        ((holders w i).val.map fun t => stored (w.scheduler.threads t) i) ↔
      ∀ t, (w.scheduler.threads t).live = true → t ≠ c →
        stored (w.scheduler.threads t) i = 0 := by
  have hholds : ∀ t, t ∈ holders w i ↔
      (w.scheduler.threads t).live = true ∧ stored (w.scheduler.threads t) i ≠ 0 := by
    intro t
    simp [holders]
  constructor
  · intro heq t ht htc
    by_contra hvalue
    have hcard := congrArg Multiset.card heq
    rw [Multiset.coe_card, Multiset.card_map, Finset.card_val] at hcard
    have hmem : t ∈ holders w i := (hholds t).mpr ⟨ht, hvalue⟩
    unfold ownValue at hcard
    split at hcard
    · -- nothing is passed on, but there is a holder
      rw [List.length_nil] at hcard
      exact absurd hmem (Finset.card_eq_zero.mp hcard.symm ▸ Finset.notMem_empty t)
    · rename_i hown
      obtain ⟨u, hu⟩ := Finset.card_eq_one.mp hcard.symm
      have hc : c ∈ holders w i := (hholds c).mpr ⟨hlive, hown⟩
      rw [hu, Finset.mem_singleton] at hmem hc
      exact htc (hmem.trans hc.symm)
  · intro hothers
    unfold ownValue
    split
    · rename_i hown
      have hnone : holders w i = ∅ := by
        refine Finset.eq_empty_of_forall_notMem fun t ht => ?_
        obtain ⟨hlt, hvt⟩ := (hholds t).mp ht
        by_cases htc : t = c
        · exact hvt (htc ▸ hown)
        · exact hvt (hothers t hlt htc)
      rw [hnone]
      rfl
    · rename_i hown
      have hone : holders w i = {c} := by
        refine Finset.eq_singleton_iff_unique_mem.mpr ⟨(hholds c).mpr ⟨hlive, hown⟩, fun t ht => ?_⟩
        obtain ⟨hlt, hvt⟩ := (hholds t).mp ht
        by_contra htc
        exact hvt (hothers t hlt htc)
      rw [hone]
      rfl

theorem readOn_of_free {w' : World} (h : w'.flsAllocated i = 0) (t : ThreadSlot) :
    readOn w' t i = 0 := by
  unfold readOn platformFlsGet
  exact if_neg fun hboth => hboth.2 h

/-- To free an index cleans up every thread if and only if no live thread but the one that frees
it holds a value there. -/
theorem free_cleans_up_iff (h : Reachable w) (hactive : flsUseSchedulerStorage w = true)
    (hcallback : w.flsCallbacks i ≠ 0) :
    CleansUp w i ↔ ∀ t, (w.scheduler.threads t).live = true → w.scheduler.current ≠ some t →
      stored (w.scheduler.threads t) i = 0 := by
  obtain ⟨c, hcurrent, hlive, hpassed, hcleared⟩ := h.sound.free_spec hactive hcallback
  have hothers := values_of_holders_iff (i := i) hlive
  have hne : ∀ t, w.scheduler.current ≠ some t ↔ t ≠ c := by
    intro t
    rw [hcurrent, ne_eq, Option.some.injEq, eq_comm]
  simp only [hne]
  rw [← hothers]
  constructor
  · rintro ⟨⟨values, hvalues, hheld⟩, -⟩
    rw [hpassed, List.append_cancel_left_eq] at hvalues
    have hsame : ownValue w c i = values :=
      List.map_injective_iff.mpr (fun _ _ hpair => congrArg Prod.snd hpair) hvalues
    rw [hsame]
    exact hheld
  · intro hheld
    exact ⟨⟨_, hpassed, hheld⟩, readOn_of_free hcleared⟩

theorem reachable_after {events : List Event} (h : Runs.Along step Possible {} events) :
    Reachable (after events).1 := by
  have hfst : (after events).1 = Runs.run step {} events := by
    unfold after
    rw [Runs.run_noting_fst]
  rw [hfst]
  have hstart : Reachable {} := .start rfl
  exact hstart.run_along events h

/-- The worker frees the index in which the boot thread holds a value too. -/
theorem value_of_the_boot_thread_is_dropped :
    Reachable (after sampleStores).1 ∧ flsUseSchedulerStorage (after sampleStores).1 = true ∧
    (after sampleStores).1.flsCallbacks 0 = 0x10 ∧
    (platformFlsFree (after sampleStores).1 0).2.cleanups = [(0x10, 0x2222)] ∧
    ¬ CleansUp (after sampleStores).1 0 := by
  have hdecided : Runs.Along step Possible {} sampleStores ∧
      flsUseSchedulerStorage (after sampleStores).1 = true ∧
      (after sampleStores).1.flsCallbacks 0 = 0x10 ∧
      (after sampleStores).1.cleanups = [] ∧
      (platformFlsFree (after sampleStores).1 0).2.cleanups = [(0x10, 0x2222)] ∧
      ((holders (after sampleStores).1 0).val.map fun t =>
        stored ((after sampleStores).1.scheduler.threads t) 0).card = 2 := by
    decide +kernel
  obtain ⟨halong, hactive, hcallback, hbefore, hafter, hcard⟩ := hdecided
  refine ⟨reachable_after halong, hactive, hcallback, hafter, ?_⟩
  rintro ⟨⟨values, hvalues, hheld⟩, -⟩
  rw [hbefore, hafter, List.nil_append] at hvalues
  have hlength := congrArg List.length hvalues
  rw [List.length_map] at hlength
  rw [← hheld, Multiset.coe_card] at hcard
  exact absurd (hlength.trans hcard) (by decide)

/-- The worker alone stores a value. -/
def sampleStoresOfWorker : List Event :=
  [.boot Scheduler.sampleBoot, .alloc 0x10] ++ Scheduler.sampleReady.map .scheduler ++
  [.adopt, .scheduler (.prepareYield true), .set 0 0x2222]

theorem value_of_the_worker_is_cleaned_up :
    CleansUp (after sampleStoresOfWorker).1 0 := by
  have hdecided : Runs.Along step Possible {} sampleStoresOfWorker ∧
      flsUseSchedulerStorage (after sampleStoresOfWorker).1 = true ∧
      (after sampleStoresOfWorker).1.flsCallbacks 0 ≠ 0 ∧
      ∀ t, ((after sampleStoresOfWorker).1.scheduler.threads t).live = true →
        (after sampleStoresOfWorker).1.scheduler.current ≠ some t →
        stored ((after sampleStoresOfWorker).1.scheduler.threads t) 0 = 0 := by
    decide +kernel
  obtain ⟨halong, hactive, hcallback, hothers⟩ := hdecided
  exact (free_cleans_up_iff (reachable_after halong) hactive hcallback).mpr hothers

end Gate4Harness.FiberStorage
