-- The fiber-local storage of the loader (platform_fls_alloc and its siblings). The indices are
-- allocated for the whole program. The values lie in one table until the boot thread adopts
-- the storage of the scheduler, and in the arrays of each thread from then on.
import Gate4Harness.SchedulerLives

namespace Gate4Harness.FiberStorage

open scoped Scheduler
open Scheduler (Thread Lives ThreadSlot Tcb noteLives)

/-! ## The functions -/

def flsSlots : Nat := 64
def uint32Max : Nat := 0xFFFFFFFF

/-- The tables `g_fls_*`, the scheduler, and the calls of cleanup callbacks so far, each with
its callback and value. What a callback does is not followed. -/
structure World where
  flsAllocated : Nat → Nat := fun _ => 0
  flsValues : Nat → Nat := fun _ => 0
  flsCallbacks : Nat → Nat := fun _ => 0
  flsSchedulerMode : Nat := 0
  scheduler : Scheduler.State := {}
  cleanups : List (Nat × Nat) := []

/-- `gxos_scheduler_current_thread`. -/
def currentThread (s : Scheduler.State) : Option ThreadSlot :=
  if s.installed then s.current else none

/-- `gxos_scheduler_get_fls`. -/
def getFls (s : Scheduler.State) (slot : Nat) : Nat :=
  match currentThread s with
  | none => 0
  | some c =>
    if slot ≥ Scheduler.flsSlots ∨ (s.threads c).flsAllocated slot = 0 then 0
    else (s.threads c).flsValues slot

/-- `fls_use_scheduler_storage`. -/
def flsUseSchedulerStorage (w : World) : Bool :=
  decide (w.flsSchedulerMode ≠ 0) && (currentThread w.scheduler).isSome

/-- `fls_adopt_scheduler_storage`: the values of the table move into the current thread. -/
def flsAdoptSchedulerStorage (w : World) : World :=
  match currentThread w.scheduler with
  | none => w
  | some c =>
    { w with
      scheduler := w.scheduler.modThread c fun thread =>
        { thread with
          flsAllocated := fun i =>
            if i < flsSlots ∧ w.flsAllocated i ≠ 0 then 1 else thread.flsAllocated i
          flsValues := fun i =>
            if i < flsSlots ∧ w.flsAllocated i ≠ 0 then w.flsValues i else thread.flsValues i }
      flsSchedulerMode := 1 }

def platformFlsAlloc (w : World) (callback : Nat) : Nat × World :=
  match (List.range flsSlots).find? fun i => decide (w.flsAllocated i = 0) with
  | none => (uint32Max, w)
  | some i =>
    (i, { w with
      flsAllocated := Function.update w.flsAllocated i 1
      flsValues := Function.update w.flsValues i 0
      flsCallbacks := Function.update w.flsCallbacks i callback })

def platformFlsGet (w : World) (i : Nat) : Nat :=
  if i < flsSlots ∧ w.flsAllocated i ≠ 0 then
    if flsUseSchedulerStorage w then getFls w.scheduler i else w.flsValues i
  else 0

def platformFlsSet (w : World) (i value : Nat) : Nat × World :=
  if i < flsSlots ∧ w.flsAllocated i ≠ 0 then
    if flsUseSchedulerStorage w then
      (1, { w with scheduler := Scheduler.setFls w.scheduler i value })
    else (1, { w with flsValues := Function.update w.flsValues i value })
  else (0, w)

/-- The loop of `platform_fls_free` over the threads. -/
def clearIndex (s : Scheduler.State) (i : Nat) : Scheduler.State :=
  { s with
    threads := fun t =>
      { s.threads t with
        flsAllocated := Function.update (s.threads t).flsAllocated i 0
        flsValues := Function.update (s.threads t).flsValues i 0 } }

def platformFlsFree (w : World) (i : Nat) : Nat × World :=
  if i ≥ flsSlots ∨ w.flsAllocated i = 0 then (0, w)
  else
    let value := if flsUseSchedulerStorage w then getFls w.scheduler i else w.flsValues i
    let cleanups :=
      if value ≠ 0 ∧ w.flsCallbacks i ≠ 0 then w.cleanups ++ [(w.flsCallbacks i, value)]
      else w.cleanups
    (1, { w with
      cleanups
      scheduler := if w.flsSchedulerMode ≠ 0 then clearIndex w.scheduler i else w.scheduler
      flsAllocated := Function.update w.flsAllocated i 0
      flsValues := Function.update w.flsValues i 0
      flsCallbacks := Function.update w.flsCallbacks i 0 })

/-! ## The machine -/

/-- The running thread calls one of the functions, or the scheduler is started or does
anything. -/
inductive Event
  | boot (input : Scheduler.BootInput)
  | scheduler (op : Scheduler.Op)
  | adopt
  | alloc (callback : Nat)
  | set (i value : Nat)
  | free (i : Nat)

/-- A boot that fails ends the program, and leaves the world as it is. -/
def step (w : World) : Event → World
  | .boot input =>
    match Scheduler.initializeScheduler input with
    | (true, scheduler) => { w with scheduler }
    | (false, _) => w
  | .scheduler op => { w with scheduler := Scheduler.step w.scheduler op }
  | .adopt => flsAdoptSchedulerStorage w
  | .alloc callback => (platformFlsAlloc w callback).2
  | .set i value => (platformFlsSet w i value).2
  | .free i => (platformFlsFree w i).2

/-- The boot thread, with or without a scheduler, is `none`. Any other thread is its slot and
its life. -/
def caller (w : World) (lives : Lives) : Option Thread :=
  match currentThread w.scheduler with
  | none => none
  | some c => if w.scheduler.bootThread = some c then none else some ⟨c, lives c⟩

/-- What an observer knows: a map from the threads and the indices to the values that the
threads stored. -/
structure Notes where
  lives : Lives := fun _ => 0
  values : Option Thread → Nat → Nat := fun _ _ => 0

/-- No thread stored anything in the index. -/
def Notes.forget (n : Notes) (i : Nat) : Notes :=
  { n with values := fun thread => Function.update (n.values thread) i 0 }

/-- An index that is allocated or freed is empty for each thread, and a value that is stored
is that of its thread only. -/
def note (w : World) (e : Event) (n : Notes) : Notes :=
  match e with
  | .boot _ | .adopt => n
  | .scheduler _ => { n with lives := noteLives w.scheduler (step w e).scheduler n.lives }
  | .alloc callback =>
    if (platformFlsAlloc w callback).1 = uint32Max then n
    else n.forget (platformFlsAlloc w callback).1
  | .set i value =>
    if (platformFlsSet w i value).1 = 0 then n
    else
      { n with
        values := Function.update n.values (caller w n.lives)
          (Function.update (n.values (caller w n.lives)) i value) }
  | .free i => if (platformFlsFree w i).1 = 0 then n else n.forget i

/-- The scheduler is booted once at a time, the boot thread adopts its storage once, and the
scheduler is active from then on. Only the functions above use the storage of the threads. -/
def InOrder (w : World) : Event → Prop
  | .boot _ => w.scheduler.installed = false ∧ w.flsSchedulerMode = 0
  | .scheduler op =>
    w.scheduler.installed = true ∧ Scheduler.setsFls op = false ∧
      (w.flsSchedulerMode ≠ 0 → (Scheduler.step w.scheduler op).installed = true)
  | .adopt =>
    w.flsSchedulerMode = 0 ∧ w.scheduler.installed = true ∧
      w.scheduler.current = w.scheduler.bootThread
  | _ => True

/-- The boot thread runs, or there is no scheduler. -/
def OnBootThread (w : World) : Prop :=
  w.scheduler.installed = true → w.scheduler.current = w.scheduler.bootThread

instance (w : World) : Decidable (OnBootThread w) := inferInstanceAs (Decidable (_ → _))

instance (w : World) (e : Event) : Decidable (InOrder w e) :=
  match e with
  | .boot _ => inferInstanceAs (Decidable (_ ∧ _))
  | .scheduler _ => inferInstanceAs (Decidable (_ ∧ _ ∧ (_ → _)))
  | .adopt => inferInstanceAs (Decidable (_ ∧ _ ∧ _))
  | .alloc _ | .set _ _ | .free _ => inferInstanceAs (Decidable True)

/-- The event stores a value. -/
def Event.stores : Event → Bool
  | .set _ _ => true
  | _ => false

/-- In addition, only the boot thread stores a value before the adoption. -/
def InOrderFromBoot (w : World) (e : Event) : Prop :=
  InOrder w e ∧ (e.stores = true → w.flsSchedulerMode = 0 → OnBootThread w)

instance (w : World) (e : Event) : Decidable (InOrderFromBoot w e) :=
  inferInstanceAs (Decidable (_ ∧ (_ → _ → _)))

/-! ## What holds in every run -/

/-- What a thread control block has in an index. -/
def stored (x : Tcb) (i : Nat) : Nat := if x.flsAllocated i = 0 then 0 else x.flsValues i

/-- The two stores hold the map of the observer: the table before the adoption, and the arrays
of the threads from then on. -/
structure Refines (w : World) (n : Notes) : Prop where
  scheduler : w.scheduler.installed = true → Scheduler.Inv w.scheduler
  mode : w.flsSchedulerMode ≠ 0 → w.scheduler.installed = true
  bare : ∀ t, (w.scheduler.threads t).live = false → (w.scheduler.threads t).Bare
  small : ∀ i, w.flsAllocated i ≠ 0 → i < flsSlots
  free : ∀ i, w.flsAllocated i = 0 →
    (∀ t, n.values t i = 0) ∧ ∀ t, (w.scheduler.threads t).flsAllocated i = 0
  table : w.flsSchedulerMode = 0 → (∀ t, (w.scheduler.threads t).Bare) ∧
    (∀ t i, n.values (some t) i = 0) ∧ ∀ i, w.flsAllocated i ≠ 0 → n.values none i = w.flsValues i
  main : w.flsSchedulerMode ≠ 0 → ∀ i, n.values none i = stored (w.scheduler.threads 0) i
  own : w.flsSchedulerMode ≠ 0 → ∀ t, t ≠ 0 → (w.scheduler.threads t).live = true →
    ∀ i, n.values (some ⟨t, n.lives t⟩) i = stored (w.scheduler.threads t) i
  later : ∀ t k i, n.lives t < k → n.values (some ⟨t, k⟩) i = 0

variable {w : World} {n : Notes} {i : Nat}

theorem stored_bare {x : Tcb} (h : x.Bare) (i : Nat) : stored x i = 0 := by
  unfold stored
  rw [if_pos (by rw [h.1])]

theorem stored_free {x : Tcb} (h : x.flsAllocated i = 0) : stored x i = 0 := by
  unfold stored
  rw [if_pos h]

theorem stored_eq {x x' : Tcb} (h : x'.flsAllocated = x.flsAllocated)
    (h' : x'.flsValues = x.flsValues) : stored x' = stored x := by
  funext i
  unfold stored
  rw [h, h']

/-! ## What the scheduler does -/

theorem Refines.init : Refines {} {} where
  scheduler h := by cases h
  mode h := absurd rfl h
  bare _ _ := ⟨rfl, rfl⟩
  small _ h := absurd rfl h
  free _ _ := ⟨fun _ => rfl, fun _ => rfl⟩
  table _ := ⟨fun _ => ⟨rfl, rfl⟩, fun _ _ => rfl, fun _ h => absurd rfl h⟩
  main h := absurd rfl h
  own h := absurd rfl h
  later _ _ _ _ := rfl

theorem Refines.boot (h : Refines w n) {input : Scheduler.BootInput}
    (hmode : w.flsSchedulerMode = 0) : Refines (step w (.boot input)) n := by
  cases hb : Scheduler.initializeScheduler input with
  | mk ok s =>
    cases ok with
    | false =>
      simp only [step, hb]
      exact h
    | true =>
      have hbare := Scheduler.initializeScheduler_bare hb
      simp only [step, hb]
      refine ⟨fun _ => Scheduler.started_inv ⟨input, hb⟩, fun hne => absurd hmode hne,
        fun t _ => hbare t, h.small, ?_, ?_, fun hne => absurd hmode hne,
        fun hne => absurd hmode hne, h.later⟩
      · intro i hi
        refine ⟨(h.free i hi).1, fun t => ?_⟩
        rw [(hbare t).1]
      · intro _
        exact ⟨hbare, (h.table hmode).2⟩

theorem le_noteLives (s s' : Scheduler.State) (lives : Lives) (t : ThreadSlot) :
    lives t ≤ noteLives s s' lives t := by
  unfold noteLives
  split <;> omega

/-- The boot thread is live in slot 0 while there is a scheduler. -/
theorem boot_live {s : Scheduler.State} (h : Scheduler.Inv s) (hi : s.installed = true) :
    (s.threads 0).live = true := (h.current.boot hi).2.1

theorem Refines.scheduled (h : Refines w n) {op : Scheduler.Op}
    (hok : InOrder w (.scheduler op)) :
    Refines (step w (.scheduler op)) (note w (.scheduler op) n) := by
  obtain ⟨hi, hfls, hgoes⟩ := hok
  have hinv := h.scheduler hi
  have hinv' := Scheduler.step_inv hinv op
  have hstep := Scheduler.step_storage hinv hi hfls
  refine ⟨fun _ => hinv', hgoes, ?_, h.small, ?_, ?_, ?_, ?_, ?_⟩
  · intro t hlive
    cases hstep t with
    | kept hl ha hv =>
      have hbare := h.bare t (hl.symm.trans hlive)
      exact ⟨ha.trans hbare.1, hv.trans hbare.2⟩
    | ended _ hbare => exact hbare
    | created _ _ hbare => exact hbare
  · intro i hfree
    refine ⟨(h.free i hfree).1, fun t => ?_⟩
    cases hstep t with
    | kept _ ha _ =>
      have hold := (h.free i hfree).2 t
      rw [← ha] at hold
      exact hold
    | ended _ hbare => exact congrFun hbare.1 i
    | created _ _ hbare => exact congrFun hbare.1 i
  · intro hmode
    refine ⟨fun t => ?_, (h.table hmode).2⟩
    cases hstep t with
    | kept _ ha hv =>
      have hbare := (h.table hmode).1 t
      exact ⟨ha.trans hbare.1, hv.trans hbare.2⟩
    | ended _ hbare => exact hbare
    | created _ _ hbare => exact hbare
  · -- the slot of the boot thread is neither freed nor taken
    intro hmode i
    have hmain := h.main hmode i
    have hlive := boot_live hinv hi
    have hlive' := boot_live hinv' (hgoes hmode)
    cases hstep 0 with
    | kept _ ha hv =>
      change n.values none i = stored ((Scheduler.step w.scheduler op).threads 0) i
      rw [stored_eq ha hv]
      exact hmain
    | ended hl _ =>
      rw [hlive'] at hl
      cases hl
    | created hl _ _ =>
      rw [hlive] at hl
      cases hl
  · intro hmode t ht hlive i
    change n.values (some ⟨t, noteLives w.scheduler (Scheduler.step w.scheduler op) n.lives t⟩) i =
      stored ((Scheduler.step w.scheduler op).threads t) i
    change ((Scheduler.step w.scheduler op).threads t).live = true at hlive
    unfold noteLives
    cases hstep t with
    | kept hl ha hv =>
      rw [stored_eq ha hv, if_neg (by rintro ⟨hold, -⟩; rw [hlive, hold] at hl; cases hl)]
      exact h.own hmode t ht (hl.symm.trans hlive) i
    | ended hl _ =>
      rw [hlive] at hl
      cases hl
    | created hold _ hbare =>
      -- a new thread has stored nothing yet
      rw [if_pos ⟨hold, hlive⟩, stored_bare hbare]
      exact h.later t _ i (Nat.lt_succ_self _)
  · intro t k i hk
    exact h.later t k i (Nat.lt_of_le_of_lt (le_noteLives _ _ _ t) hk)

/-! ## What the functions do -/

theorem currentThread_of_running {s : Scheduler.State} (h : Scheduler.Inv s)
    (hi : s.installed = true) :
    ∃ c, currentThread s = some c ∧ s.current = some c ∧ (s.threads c).live = true := by
  obtain ⟨c, hc, hlive, -⟩ := h.current.current hi
  refine ⟨c, ?_, hc, hlive⟩
  unfold currentThread
  rw [if_pos hi, hc]

theorem adopt_unseen (w : World) :
    Scheduler.Unseen w.scheduler (flsAdoptSchedulerStorage w).scheduler := by
  unfold flsAdoptSchedulerStorage
  split
  · exact Scheduler.Unseen.refl _
  · dsimp only
    exact Scheduler.Unseen.modThread w.scheduler _ rfl

theorem Refines.adopted (h : Refines w n) (hok : InOrder w .adopt) : Refines (step w .adopt) n := by
  obtain ⟨hmode, hi, hboot⟩ := hok
  have hinv := h.scheduler hi
  have hcur : currentThread w.scheduler = some 0 := by
    unfold currentThread
    rw [if_pos hi, hboot, (hinv.current.boot hi).1]
  obtain ⟨hbare, hvalues, htable⟩ := h.table hmode
  have hunseen := adopt_unseen w
  simp only [step, flsAdoptSchedulerStorage, hcur] at hunseen ⊢
  refine ⟨fun _ => hinv.unseen hunseen, fun _ => hi, ?_, h.small, ?_, fun hzero => absurd hzero Nat.one_ne_zero, ?_, ?_,
    h.later⟩
  · intro t hlive
    by_cases ht : t = 0
    · subst ht
      simp [boot_live hinv hi] at hlive
    · simpa [ht] using hbare t
  · intro i hfree
    refine ⟨(h.free i hfree).1, fun t => ?_⟩
    by_cases ht : t = 0
    · subst ht
      have hfree : w.flsAllocated i = 0 := hfree
      simp [hfree, (hbare 0).1]
    · simp [ht, (hbare t).1]
  · intro _ i
    by_cases ha : w.flsAllocated i = 0
    · rw [(h.free i ha).1, stored_free]
      simp [ha, (hbare 0).1]
    · rw [htable i ha]
      simp [stored, ha, h.small i ha]
  · intro _ t ht _ i
    rw [hvalues, stored_bare]
    simpa [ht] using hbare t

theorem Refines.allocated (h : Refines w n) (callback : Nat) :
    Refines (step w (.alloc callback)) (note w (.alloc callback) n) := by
  unfold step note platformFlsAlloc
  cases hf : (List.range flsSlots).find? fun i => decide (w.flsAllocated i = 0) with
  | none =>
    simp only [if_true]
    exact h
  | some i =>
    have hfree := List.find?_some hf
    have hi := List.mem_range.mp (List.mem_of_find?_eq_some hf)
    rw [decide_eq_true_eq] at hfree
    have hne : i ≠ uint32Max := by
      unfold flsSlots at hi
      unfold uint32Max
      omega
    simp only [if_neg hne]
    -- the index was free, so nobody had a value in it
    have hsame : ∀ t j, (n.forget i).values t j = n.values t j := by
      intro t j
      by_cases hj : j = i
      · subst hj
        simp [Notes.forget, (h.free j hfree).1 t]
      · simp [Notes.forget, hj]
    refine ⟨h.scheduler, h.mode, h.bare, ?_, ?_, ?_, ?_, ?_, ?_⟩
    · intro j hj
      by_cases hji : j = i
      · rw [hji]
        exact hi
      · exact h.small j (by simpa [hji] using hj)
    · intro j hj
      by_cases hji : j = i
      · subst hji
        simp at hj
      · obtain ⟨h1, h2⟩ := h.free j (by simpa [hji] using hj)
        exact ⟨fun t => (hsame t j).trans (h1 t), h2⟩
    · intro hmode
      obtain ⟨h1, h2, h3⟩ := h.table hmode
      refine ⟨h1, fun t j => (hsame _ j).trans (h2 t j), fun j hj => ?_⟩
      rw [hsame]
      by_cases hji : j = i
      · subst hji
        simp [(h.free j hfree).1]
      · simpa [hji] using h3 j (by simpa [hji] using hj)
    · intro hmode j
      rw [hsame]
      exact h.main hmode j
    · intro hmode t ht hlive j
      rw [hsame]
      exact h.own hmode t ht hlive j
    · intro t k j hk
      rw [hsame]
      exact h.later t k j hk

/-- The storage of a thread after it stored a value. -/
theorem setFls_threads {s : Scheduler.State} {c : ThreadSlot} (hc : currentThread s = some c)
    {i : Nat} (hi : i < flsSlots) (value : Nat) :
    Scheduler.setFls s i value = s.modThread c fun thread =>
      { thread with flsAllocated := Function.update thread.flsAllocated i 1
                    flsValues := Function.update thread.flsValues i value } := by
  unfold currentThread at hc
  split at hc
  · rename_i hinstalled
    unfold Scheduler.setFls
    rw [hc]
    simp only
    rw [if_pos ⟨hinstalled, hi⟩]
  · cases hc

theorem stored_set (x : Tcb) (i j value : Nat) :
    stored { x with flsAllocated := Function.update x.flsAllocated i 1
                    flsValues := Function.update x.flsValues i value } j =
      Function.update (stored x) i value j := by
  by_cases hj : j = i
  · subst hj
    simp [stored]
  · simp [stored, hj]

theorem Refines.caller_none (h : Refines w n) (hboot : OnBootThread w) :
    caller w n.lives = none := by
  unfold caller currentThread
  by_cases hi : w.scheduler.installed = true
  · obtain ⟨c, -, hc, -⟩ := currentThread_of_running (h.scheduler hi) hi
    rw [if_pos hi, hc]
    simp only
    rw [if_pos ((hboot hi).symm.trans hc)]
  · rw [if_neg hi]

theorem Refines.caller_running (h : Refines w n) (hmode : w.flsSchedulerMode ≠ 0) {c : ThreadSlot}
    (hc : currentThread w.scheduler = some c) :
    caller w n.lives = if c = 0 then none else some ⟨c, n.lives c⟩ := by
  have hi := h.mode hmode
  unfold caller
  rw [hc, ((h.scheduler hi).current.boot hi).1]
  simp only [Option.some.injEq, eq_comm]

theorem Refines.stored_by_table (h : Refines w n) {value : Nat} (hmode : w.flsSchedulerMode = 0)
    (hboot : OnBootThread w) (ha : w.flsAllocated i ≠ 0) :
    Refines { w with flsValues := Function.update w.flsValues i value }
      { n with
        values := Function.update n.values (caller w n.lives)
          (Function.update (n.values (caller w n.lives)) i value) } := by
  rw [h.caller_none hboot]
  obtain ⟨hbare, hvalues, htable⟩ := h.table hmode
  refine ⟨h.scheduler, h.mode, h.bare, h.small, ?_, ?_, fun hne => absurd hmode hne,
    fun hne => absurd hmode hne, ?_⟩
  · intro j hj
    obtain ⟨h1, h2⟩ := h.free j hj
    refine ⟨fun t => ?_, h2⟩
    have hji : j ≠ i := by
      rintro rfl
      exact ha hj
    cases t with
    | none => simp [hji, h1]
    | some t => simp [h1]
  · intro _
    refine ⟨hbare, fun t j => by simp [hvalues], fun j hj => ?_⟩
    by_cases hji : j = i
    · subst hji
      simp
    · simpa [hji] using htable j hj
  · intro t k j hk
    simpa using h.later t k j hk

theorem Refines.stored_by_thread (h : Refines w n) {value : Nat} (hmode : w.flsSchedulerMode ≠ 0)
    (ha : w.flsAllocated i ≠ 0) :
    Refines { w with scheduler := Scheduler.setFls w.scheduler i value }
      { n with
        values := Function.update n.values (caller w n.lives)
          (Function.update (n.values (caller w n.lives)) i value) } := by
  have hi := h.mode hmode
  have hinv := h.scheduler hi
  obtain ⟨c, hc, -, hlive⟩ := currentThread_of_running hinv hi
  have hcaller := h.caller_running hmode hc
  have hset := setFls_threads hc (h.small i ha) value
  have hunseen := Scheduler.setFls_unseen w.scheduler i value
  refine ⟨fun _ => hinv.unseen hunseen, fun _ => hunseen.installed.trans hi, ?_, h.small, ?_,
    fun hzero => absurd hzero hmode, ?_, ?_, ?_⟩
  · intro t ht
    have htc : t ≠ c := by
      rintro rfl
      simp [hset, hlive] at ht
    simp only [hset] at ht ⊢
    simpa [htc] using h.bare t (by simpa [htc] using ht)
  · intro j hj
    obtain ⟨h1, h2⟩ := h.free j hj
    have hji : j ≠ i := by
      rintro rfl
      exact ha hj
    refine ⟨fun t => ?_, fun t => ?_⟩
    · by_cases ht : t = caller w n.lives
      · subst ht
        simp [hji, h1]
      · simp [ht, h1]
    · by_cases ht : t = c
      · subst ht
        simp [hset, hji, h2]
      · simp [hset, ht, h2]
  · intro _ j
    by_cases hc0 : c = 0
    · subst hc0
      rw [hcaller, if_pos rfl]
      simp only [hset, Scheduler.State.modThread_threads, stored_set, Function.update_self]
      have hsame : n.values none = stored (w.scheduler.threads 0) := funext (h.main hmode)
      rw [hsame]
    · rw [hcaller, if_neg hc0]
      simpa [hset, Ne.symm hc0] using h.main hmode j
  · intro _ t ht hlive' j
    by_cases htc : t = c
    · subst htc
      rw [hcaller, if_neg ht]
      simp only [hset, Scheduler.State.modThread_threads, stored_set, Function.update_self]
      have hsame : n.values (some ⟨t, n.lives t⟩) = stored (w.scheduler.threads t) :=
        funext (h.own hmode t ht hlive)
      rw [hsame]
    · have hne : some (⟨t, n.lives t⟩ : Thread) ≠ caller w n.lives := by
        rw [hcaller]
        split
        · simp
        · simp [htc]
      simp only [hset, Scheduler.State.modThread_threads, Function.update_of_ne htc,
        Function.update_of_ne hne] at hlive' ⊢
      exact h.own hmode t ht hlive' j
  · intro t k j hk
    have hne : some (⟨t, k⟩ : Thread) ≠ caller w n.lives := by
      rw [hcaller]
      split
      · simp
      · simp only [ne_eq, Option.some.injEq, Scheduler.Thread.mk.injEq, not_and]
        rintro rfl rfl
        exact Nat.lt_irrefl _ hk
    simp only [Function.update_of_ne hne]
    exact h.later t k j hk

theorem Refines.setValue (h : Refines w n) {value : Nat}
    (hboot : w.flsSchedulerMode = 0 → OnBootThread w) :
    Refines (step w (.set i value)) (note w (.set i value) n) := by
  unfold step note platformFlsSet
  by_cases ha : i < flsSlots ∧ w.flsAllocated i ≠ 0
  · simp only [if_pos ha]
    by_cases hmode : w.flsSchedulerMode = 0
    · have huse : flsUseSchedulerStorage w = false := by simp [flsUseSchedulerStorage, hmode]
      simp only [huse, Bool.false_eq_true, if_false, if_neg Nat.one_ne_zero]
      exact h.stored_by_table hmode (hboot hmode) ha.2
    · obtain ⟨c, hc, -⟩ := currentThread_of_running (h.scheduler (h.mode hmode)) (h.mode hmode)
      have huse : flsUseSchedulerStorage w = true := by simp [flsUseSchedulerStorage, hmode, hc]
      simp only [huse, if_true, if_neg Nat.one_ne_zero]
      exact h.stored_by_thread hmode ha.2
  · simp only [if_neg ha, if_true]
    exact h

theorem clearIndex_unseen (s : Scheduler.State) (i : Nat) : Scheduler.Unseen s (clearIndex s i) :=
  ⟨rfl, rfl, rfl, rfl, rfl, rfl, rfl, rfl, fun _ => rfl, rfl, fun _ => rfl, rfl, rfl, fun _ => rfl⟩

theorem stored_clear (x : Tcb) (i j : Nat) :
    stored { x with flsAllocated := Function.update x.flsAllocated i 0
                    flsValues := Function.update x.flsValues i 0 } j =
      Function.update (stored x) i 0 j := by
  by_cases hj : j = i
  · subst hj
    simp [stored]
  · simp [stored, hj]

theorem Bare.clear {x : Tcb} (h : x.Bare) (i : Nat) :
    Tcb.Bare { x with flsAllocated := Function.update x.flsAllocated i 0
                      flsValues := Function.update x.flsValues i 0 } := by
  constructor
  · rw [h.1]
    exact Function.update_eq_self (f := fun _ => 0) i
  · rw [h.2]
    exact Function.update_eq_self (f := fun _ => 0) i

theorem Refines.freed (h : Refines w n) (i : Nat) :
    Refines (step w (.free i)) (note w (.free i) n) := by
  unfold step note platformFlsFree
  by_cases hrefused : i ≥ flsSlots ∨ w.flsAllocated i = 0
  · simp only [if_pos hrefused, if_true]
    exact h
  · simp only [if_neg hrefused, if_neg Nat.one_ne_zero]
    have hforget : ∀ t j, (n.forget i).values t j = if j = i then 0 else n.values t j := by
      intro t j
      simp [Notes.forget, Function.update_apply]
    by_cases hmode : w.flsSchedulerMode = 0
    · -- before the adoption nothing is stored in the threads
      obtain ⟨hbare, hvalues, htable⟩ := h.table hmode
      simp only [if_neg (not_not.mpr hmode)]
      refine ⟨h.scheduler, h.mode, h.bare, ?_, ?_, ?_, fun hne => absurd hmode hne,
        fun hne => absurd hmode hne, ?_⟩
      · intro j hj
        by_cases hji : j = i
        · subst hji
          simp at hj
        · exact h.small j (by simpa [hji] using hj)
      · intro j hj
        refine ⟨fun t => ?_, fun t => by rw [(hbare t).1]⟩
        rw [hforget]
        split
        · rfl
        · rename_i hji
          exact (h.free j (by simpa [hji] using hj)).1 t
      · intro _
        refine ⟨hbare, fun t j => ?_, fun j hj => ?_⟩
        · rw [hforget, hvalues, ite_self]
        · have hji : j ≠ i := by
            rintro rfl
            simp at hj
          rw [hforget, if_neg hji]
          simpa [hji] using htable j (by simpa [hji] using hj)
      · intro t k j hk
        rw [hforget, h.later t k j hk, ite_self]
    · have hunseen := clearIndex_unseen w.scheduler i
      simp only [if_pos hmode]
      refine ⟨fun hi => (h.scheduler hi).unseen hunseen, h.mode, ?_, ?_, ?_,
        fun hzero => absurd hzero hmode, ?_, ?_, ?_⟩
      · intro t ht
        exact Bare.clear (h.bare t ht) i
      · intro j hj
        by_cases hji : j = i
        · subst hji
          simp at hj
        · exact h.small j (by simpa [hji] using hj)
      · intro j hj
        by_cases hji : j = i
        · subst hji
          exact ⟨fun t => by rw [hforget, if_pos rfl], fun t => by simp [clearIndex]⟩
        · obtain ⟨h1, h2⟩ := h.free j (by simpa [hji] using hj)
          refine ⟨fun t => by rw [hforget, if_neg hji, h1], fun t => ?_⟩
          simpa [clearIndex, hji] using h2 t
      · intro _ j
        rw [hforget, clearIndex, stored_clear, Function.update_apply, ← h.main hmode j]
      · intro _ t ht hlive j
        change ((n.forget i).values (some ⟨t, n.lives t⟩) j) = _
        rw [hforget, clearIndex, stored_clear, Function.update_apply, ← h.own hmode t ht hlive j]
      · intro t k j hk
        rw [hforget, h.later t k j hk, ite_self]

theorem Refines.step (h : Refines w n) (e : Event) (hok : InOrderFromBoot w e) :
    Refines (FiberStorage.step w e) (note w e n) := by
  cases e with
  | boot input => exact h.boot hok.1.2
  | scheduler op => exact h.scheduled hok.1
  | adopt => exact h.adopted hok.1
  | alloc callback => exact h.allocated callback
  | set i value => exact h.setValue (hok.2 rfl)
  | free i => exact h.freed i

/-! ## The laws of the storage -/

/-- The worlds that a run reaches, with what an observer knows. -/
def Reached (ok : World → Event → Prop) : World → Notes → Prop :=
  Runs.ReachNoting (fun w => w = {}) step ok (fun _ => {}) note

theorem Reached.refines (h : Reached InOrderFromBoot w n) : Refines w n := by
  apply h.invariant (P := Refines)
  · rintro w rfl
    exact Refines.init
  · exact fun w n e _ hr hok => hr.step e hok

theorem Refines.get (h : Refines w n) (hboot : w.flsSchedulerMode = 0 → OnBootThread w) (i : Nat) :
    platformFlsGet w i = n.values (caller w n.lives) i := by
  unfold platformFlsGet
  by_cases ha : i < flsSlots ∧ w.flsAllocated i ≠ 0
  · rw [if_pos ha]
    by_cases hmode : w.flsSchedulerMode = 0
    · have huse : flsUseSchedulerStorage w = false := by simp [flsUseSchedulerStorage, hmode]
      rw [if_neg (by simp [huse]), h.caller_none (hboot hmode)]
      exact ((h.table hmode).2.2 i ha.2).symm
    · have hi := h.mode hmode
      have hinv := h.scheduler hi
      obtain ⟨c, hc, -, hlive⟩ := currentThread_of_running hinv hi
      have huse : flsUseSchedulerStorage w = true := by simp [flsUseSchedulerStorage, hmode, hc]
      have hget : getFls w.scheduler i = stored (w.scheduler.threads c) i := by
        have hslots : ¬ i ≥ Scheduler.flsSlots := Nat.not_le.mpr ha.1
        unfold getFls stored
        rw [hc]
        simp only [hslots, false_or]
      rw [if_pos huse, hget, h.caller_running hmode hc]
      by_cases hc0 : c = 0
      · rw [if_pos hc0, hc0]
        exact (h.main hmode i).symm
      · rw [if_neg hc0]
        exact (h.own hmode c hc0 hlive i).symm
  · rw [if_neg ha]
    by_cases hfree : w.flsAllocated i = 0
    · exact ((h.free i hfree).1 _).symm
    · exact absurd ⟨h.small i hfree, hfree⟩ ha

/-- A thread finds in an index what it last stored there itself since the index was allocated
and the thread was created, and 0 if there is no such value or the index is not allocated. Only
the boot thread uses the storage before the adoption. -/
theorem storage_belongs_to_its_thread (h : Reached InOrderFromBoot w n)
    (hboot : w.flsSchedulerMode = 0 → OnBootThread w) (i : Nat) :
    platformFlsGet w i = n.values (caller w n.lives) i :=
  h.refines.get hboot i

/-- The boot thread stores a value, adopts the storage of the scheduler and yields to a worker
that stores another one. -/
def sampleStores : List Event :=
  [.boot Scheduler.sampleBoot, .alloc 0x10, .set 0 0x1111] ++
  Scheduler.sampleReady.map .scheduler ++
  [.adopt, .scheduler (.prepareYield true), .set 0 0x2222]

/-- The state after some events, with what an observer knows. -/
def after (events : List Event) : World × Notes :=
  Runs.run (Runs.noting step note) ({}, {}) events

theorem after_reached {ok : World → Event → Prop} {events : List Event}
    (h : Runs.Along step ok {} events) : Reached ok (after events).1 (after events).2 := by
  have hstart : Reached ok {} {} := .start ⟨rfl, rfl⟩
  have hfst : (after events).1 = Runs.run step {} events := by
    unfold after
    rw [Runs.run_noting_fst]
  rw [hfst]
  exact hstart.run_along events h

/-- The worker finds its own value, and that of the boot thread is not lost. -/
theorem sampleStores_belong_to_their_threads :
    caller (after sampleStores).1 (after sampleStores).2.lives = some ⟨1, 1⟩ ∧
    platformFlsGet (after sampleStores).1 0 = 0x2222 ∧
    (after sampleStores).2.values none 0 = 0x1111 ∧
    platformFlsGet (after sampleStores).1 0 = (after sampleStores).2.values
      (caller (after sampleStores).1 (after sampleStores).2.lives) 0 := by
  have hdecided : caller (after sampleStores).1 (after sampleStores).2.lives = some ⟨1, 1⟩ ∧
      platformFlsGet (after sampleStores).1 0 = 0x2222 ∧
      (after sampleStores).2.values none 0 = 0x1111 ∧
      (after sampleStores).1.flsSchedulerMode ≠ 0 ∧
      Runs.Along step InOrderFromBoot {} sampleStores := by
    decide +kernel
  obtain ⟨hcaller, hget, hmain, hmode, halong⟩ := hdecided
  exact ⟨hcaller, hget, hmain, storage_belongs_to_its_thread (after_reached halong)
    (fun hzero => absurd hzero hmode) 0⟩

/-- A worker that stores a value before the adoption: the boot thread finds it in its own
storage afterwards. -/
def lateAdoption : List Event :=
  [.boot Scheduler.sampleBoot, .alloc 0x10] ++ Scheduler.sampleReady.map .scheduler ++
  [.scheduler (.prepareYield true), .set 0 0x2222, .scheduler (.prepareYield true),
    .scheduler (.prepareYield true), .adopt]

theorem a_value_leaks_to_the_boot_thread :
    Reached InOrder (after lateAdoption).1 (after lateAdoption).2 ∧
    (after lateAdoption).1.flsSchedulerMode = 1 ∧
    caller (after lateAdoption).1 (after lateAdoption).2.lives = none ∧
    platformFlsGet (after lateAdoption).1 0 = 0x2222 ∧
    (after lateAdoption).2.values none 0 = 0 := by
  have hdecided : (after lateAdoption).1.flsSchedulerMode = 1 ∧
      caller (after lateAdoption).1 (after lateAdoption).2.lives = none ∧
      platformFlsGet (after lateAdoption).1 0 = 0x2222 ∧
      (after lateAdoption).2.values none 0 = 0 ∧
      Runs.Along step InOrder {} lateAdoption := by
    decide +kernel
  obtain ⟨hmode, hcaller, hget, hvalue, halong⟩ := hdecided
  exact ⟨after_reached halong, hmode, hcaller, hget, hvalue⟩

end Gate4Harness.FiberStorage
