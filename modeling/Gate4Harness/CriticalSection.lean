-- The critical sections of the loader (platform_enter_critical_section and its siblings),
-- used by the threads of the scheduler. The code stores one constant for the owner, so it
-- excludes only while no second thread comes to a section that is held.
import Gate4Harness.SchedulerLives

namespace Gate4Harness.CriticalSection

open scoped Scheduler
open Scheduler (Thread Lives caller noteLives)

/-! ## The section -/

/-- `PlatformCriticalSection`. -/
structure Section where
  debugInfo : Nat
  lockCount : Int
  recursionCount : Int
  owningThread : Nat
  lockSemaphore : Nat
  spinCount : Nat
  deriving DecidableEq, Repr

/-- What the code takes for the current thread: -2 as a pointer. -/
def currentThread : Nat := 0xFFFFFFFFFFFFFFFE

def int32Max : Int := 0x7FFFFFFF

/-- `platform_initialize_critical_csex` on a section that is not null. -/
def initializeCriticalSectionEx (spinCount : Nat) : Section where
  debugInfo := 0
  lockCount := -1
  recursionCount := 0
  owningThread := 0
  lockSemaphore := 0
  spinCount := spinCount

/-- `platform_enter_critical_section` on a section that is not null. The count is an `int32_t`
and is taken to wrap around. -/
def enterCriticalSection (cs : Section) : Except String Section :=
  if cs.owningThread = 0 then
    .ok { cs with owningThread := currentThread, recursionCount := 1, lockCount := 0 }
  else if cs.owningThread = currentThread then
    .ok { cs with recursionCount := (cs.recursionCount + 1).bmod (2 ^ 32) }
  else .error "critical-section-contention"

/-- `platform_leave_critical_section` on a section that is not null. -/
def leaveCriticalSection (cs : Section) : Except String Section :=
  if cs.owningThread ≠ currentThread ∨ cs.recursionCount ≤ 0 then
    .error "critical-section-leave"
  else
    let cs := { cs with recursionCount := cs.recursionCount - 1 }
    if cs.recursionCount = 0 then .ok { cs with owningThread := 0, lockCount := -1 }
    else .ok cs

/-! ## The threads that use it -/

/-- The scheduler, one section, and what the program stopped with once it failed. -/
structure World where
  scheduler : Scheduler.State
  cs : Section
  failed : Option String := none

/-- The running thread enters or leaves, or the scheduler does anything: a wait, a yield and
the switch to another thread among it. -/
inductive Event
  | scheduler (op : Scheduler.Op)
  | enter
  | leave

def World.after (w : World) : Except String Section → World
  | .ok cs => { w with cs }
  | .error message => { w with failed := some message }

def step (w : World) (e : Event) : World :=
  if w.failed.isSome then w
  else
    match e with
    | .scheduler op => { w with scheduler := Scheduler.step w.scheduler op }
    | .enter => w.after (enterCriticalSection w.cs)
    | .leave => w.after (leaveCriticalSection w.cs)

/-- What an observer counts: how often each thread entered the section and left it. -/
structure Notes where
  lives : Lives := fun _ => 0
  entered : Option Thread → Nat := fun _ => 0
  left : Option Thread → Nat := fun _ => 0

def countOne (counts : Option Thread → Nat) (thread : Option Thread) : Option Thread → Nat :=
  Function.update counts thread (counts thread + 1)

def note (w : World) (e : Event) (n : Notes) : Notes :=
  if w.failed.isSome ∨ (step w e).failed.isSome then n
  else
    match e with
    | .scheduler _ => { n with lives := noteLives w.scheduler (step w e).scheduler n.lives }
    | .enter => { n with entered := countOne n.entered (caller w.scheduler n.lives) }
    | .leave => { n with left := countOne n.left (caller w.scheduler n.lives) }

/-- The thread entered more often than it left. -/
def Notes.Holds (n : Notes) (thread : Option Thread) : Prop := n.left thread < n.entered thread

instance (n : Notes) (thread : Option Thread) : Decidable (n.Holds thread) :=
  inferInstanceAs (Decidable (_ < _))

/-- The section excludes: one holder at most, the count is that of its open enters, no thread
left more often than it entered, and the section is free once all enters are matched. -/
structure Excludes (p : World × Notes) : Prop where
  one : ∀ t u, p.2.Holds t → p.2.Holds u → t = u
  count : ∀ t, p.2.Holds t → p.1.cs.recursionCount = p.2.entered t - p.2.left t
  matching : ∀ t, p.2.left t ≤ p.2.entered t
  free : p.1.cs.owningThread = 0 ↔ ∀ t, p.2.entered t = p.2.left t

/-- The caller is the holder or the section is free, and the count has room. -/
def InTurn (p : World × Notes) : Event → Prop
  | .scheduler _ => True
  | .enter =>
    p.1.failed.isSome = true ∨ p.1.cs.owningThread = 0 ∨
      (p.2.Holds (caller p.1.scheduler p.2.lives) ∧ p.1.cs.recursionCount < int32Max)
  | .leave =>
    p.1.failed.isSome = true ∨ p.1.cs.owningThread = 0 ∨
      p.2.Holds (caller p.1.scheduler p.2.lives)

instance (p : World × Notes) (e : Event) : Decidable (InTurn p e) :=
  match e with
  | .scheduler _ => inferInstanceAs (Decidable True)
  | .enter => inferInstanceAs (Decidable (_ ∨ _ ∨ (_ ∧ _)))
  | .leave => inferInstanceAs (Decidable (_ ∨ _ ∨ _))

/-! ## One step -/

/-- The section is free and every enter is matched, or one thread holds it and its open enters
are the count. -/
inductive Held (cs : Section) (n : Notes) : Prop
  | free : cs.owningThread = 0 → (∀ t, n.entered t = n.left t) → Held cs n
  | held (holder : Option Thread) : cs.owningThread = currentThread → 0 < cs.recursionCount →
      cs.recursionCount ≤ int32Max → (n.entered holder : Int) = n.left holder + cs.recursionCount →
      (∀ t, t ≠ holder → n.entered t = n.left t) → Held cs n

variable {w : World} {n : Notes} {cs : Section} {holder : Option Thread}

theorem currentThread_ne_zero : currentThread ≠ 0 := by decide

theorem Held.excludes {p : World × Notes} (h : Held p.1.cs p.2) : Excludes p := by
  cases h with
  | free howner hall =>
    refine ⟨fun t _ ht => ?_, fun t ht => ?_, fun t => (hall t).ge, fun _ => hall, fun _ => howner⟩
    · exact absurd (hall t) ht.ne'
    · exact absurd (hall t) ht.ne'
  | held holder howner hpos _ hcount hothers =>
    have honly : ∀ t, p.2.Holds t → t = holder := by
      intro t ht
      by_contra hne
      exact absurd (hothers t hne) ht.ne'
    have hholds : p.2.left holder < p.2.entered holder := by omega
    refine ⟨fun t u ht hu => (honly t ht).trans (honly u hu).symm, ?_, ?_, ?_, ?_⟩
    · intro t ht
      rw [honly t ht]
      omega
    · intro t
      by_cases ht : t = holder
      · rw [ht]
        exact hholds.le
      · exact (hothers t ht).ge
    · intro hzero
      exact absurd (howner.symm.trans hzero) currentThread_ne_zero
    · intro hall
      exact absurd (hall holder) hholds.ne'

/-- The count goes up by one while it has room. -/
theorem bmod_succ {count : Int} (hpos : 0 < count) (hroom : count < int32Max) :
    (count + 1).bmod (2 ^ 32) = count + 1 := by
  unfold int32Max at hroom
  rw [Int.bmod_eq_of_le] <;> omega

@[simp] theorem countOne_self (counts : Option Thread → Nat) (t : Option Thread) :
    countOne counts t t = counts t + 1 := by
  simp [countOne]

theorem countOne_of_ne {counts : Option Thread → Nat} {t u : Option Thread} (h : u ≠ t) :
    countOne counts t u = counts u := by
  simp [countOne, h]

theorem step_failed (hf : w.failed.isSome = true) (e : Event) : step w e = w ∧ note w e n = n := by
  constructor
  · unfold step
    rw [if_pos hf]
  · unfold note
    rw [if_pos (.inl hf)]

theorem step_enter (hf : w.failed = none) (he : enterCriticalSection w.cs = .ok cs) :
    (step w .enter).cs = cs ∧
      note w .enter n = { n with entered := countOne n.entered (caller w.scheduler n.lives) } := by
  constructor <;> simp [step, note, World.after, hf, he]

theorem step_leave (hf : w.failed = none) (he : leaveCriticalSection w.cs = .ok cs) :
    (step w .leave).cs = cs ∧
      note w .leave n = { n with left := countOne n.left (caller w.scheduler n.lives) } := by
  constructor <;> simp [step, note, World.after, hf, he]

theorem step_leave_failed {message : String} (hf : w.failed = none)
    (he : leaveCriticalSection w.cs = .error message) :
    (step w .leave).cs = w.cs ∧ note w .leave n = n := by
  constructor <;> simp [step, note, World.after, hf, he]

theorem enter_free (howner : cs.owningThread = 0) : enterCriticalSection cs =
    .ok { cs with owningThread := currentThread, recursionCount := 1, lockCount := 0 } := by
  unfold enterCriticalSection
  rw [if_pos howner]

theorem enter_held (howner : cs.owningThread = currentThread) : enterCriticalSection cs =
    .ok { cs with recursionCount := (cs.recursionCount + 1).bmod (2 ^ 32) } := by
  unfold enterCriticalSection
  rw [if_neg (by rw [howner]; exact currentThread_ne_zero), if_pos howner]

theorem leave_free (howner : cs.owningThread = 0) :
    leaveCriticalSection cs = .error "critical-section-leave" := by
  unfold leaveCriticalSection
  rw [if_pos (.inl (by rw [howner]; exact currentThread_ne_zero.symm))]

theorem leave_held (howner : cs.owningThread = currentThread) (hpos : 0 < cs.recursionCount) :
    leaveCriticalSection cs = .ok (if cs.recursionCount = 1 then
        { cs with recursionCount := 0, owningThread := 0, lockCount := -1 }
      else { cs with recursionCount := cs.recursionCount - 1 }) := by
  unfold leaveCriticalSection
  rw [if_neg (by rintro (h | h) <;> [exact h howner; omega])]
  dsimp only
  by_cases hone : cs.recursionCount = 1
  · rw [if_pos (by omega), if_pos hone, hone]
    rfl
  · rw [if_neg (by omega), if_neg hone]

/-- A call in turn leaves the section free or with one holder. -/
theorem Held.in_turn (h : Held w.cs n) (e : Event) (hturn : InTurn (w, n) e) :
    Held (step w e).cs (note w e n) := by
  cases hf : w.failed with
  | some message =>
    obtain ⟨hstep, hnote⟩ := step_failed (n := n) (by rw [hf]; rfl) e
    rw [hstep, hnote]
    exact h
  | none =>
    have hnf : ¬ w.failed.isSome = true := by simp [hf]
    cases e with
    | scheduler op =>
      cases h with
      | free howner hall => exact .free (by simp [step, hf, howner]) (by
          intro t
          simpa [note, step, hf] using hall t)
      | held holder howner hpos hle hcount hothers =>
        simp only [step, note, hf]
        exact .held holder howner hpos hle hcount hothers
    | enter =>
      cases h with
      | free howner hall =>
        obtain ⟨hstep, hnote⟩ := step_enter (n := n) hf (enter_free howner)
        rw [hstep, hnote]
        refine .held (caller w.scheduler n.lives) rfl Int.one_pos ?_ ?_ ?_
        · change (1 : Int) ≤ int32Max
          decide
        · simp [hall]
        · intro t ht
          simp [countOne_of_ne ht, hall]
      | held holder howner hpos hle hcount hothers =>
        obtain ⟨hstep, hnote⟩ := step_enter (n := n) hf (enter_held howner)
        rcases hturn with hturn | hturn | ⟨hholds, hroom⟩
        · exact absurd hturn hnf
        · exact absurd (howner.symm.trans hturn) currentThread_ne_zero
        · -- the caller is the holder
          have hcaller : caller w.scheduler n.lives = holder := by
            by_contra hne
            exact absurd (hothers _ hne) hholds.ne'
          rw [hstep, hnote, hcaller, bmod_succ hpos hroom]
          have hroom : w.cs.recursionCount < int32Max := hroom
          refine .held holder howner ?_ ?_ ?_ ?_ <;> dsimp only
          · omega
          · omega
          · rw [countOne_self]
            omega
          · intro t ht
            rw [countOne_of_ne ht]
            exact hothers t ht
    | leave =>
      cases h with
      | free howner hall =>
        obtain ⟨hstep, hnote⟩ := step_leave_failed (n := n) hf (leave_free howner)
        rw [hstep, hnote]
        exact .free howner hall
      | held holder howner hpos hle hcount hothers =>
        obtain ⟨hstep, hnote⟩ := step_leave (n := n) hf (leave_held howner hpos)
        rcases hturn with hturn | hturn | hholds
        · exact absurd hturn hnf
        · exact absurd (howner.symm.trans hturn) currentThread_ne_zero
        · have hcaller : caller w.scheduler n.lives = holder := by
            by_contra hne
            exact absurd (hothers _ hne) hholds.ne'
          rw [hstep, hnote, hcaller]
          by_cases hone : w.cs.recursionCount = 1
          · rw [if_pos hone]
            refine .free rfl fun t => ?_
            dsimp only
            by_cases ht : t = holder
            · rw [ht, countOne_self]
              omega
            · rw [countOne_of_ne ht]
              exact hothers t ht
          · rw [if_neg hone]
            refine .held holder howner ?_ ?_ ?_ ?_ <;> dsimp only
            · omega
            · omega
            · rw [countOne_self]
              omega
            · intro t ht
              rw [countOne_of_ne ht]
              exact hothers t ht

/-- A call out of turn shows: a second thread holds the section, a thread left that did not
enter, or the count is lost. -/
theorem Held.out_of_turn (h : Held w.cs n) (e : Event) (hturn : ¬ InTurn (w, n) e) :
    ¬ Excludes (step w e, note w e n) := by
  intro hex
  cases e with
  | scheduler op => exact hturn trivial
  | enter =>
    have hf : w.failed = none := by
      cases hw : w.failed with
      | none => rfl
      | some message => exact absurd (.inl (by rw [hw]; rfl)) hturn
    cases h with
    | free howner _ => exact hturn (.inr (.inl howner))
    | held holder howner hpos hle hcount hothers =>
      obtain ⟨hstep, hnote⟩ := step_enter (n := n) hf (enter_held howner)
      have hlt : n.left holder < n.entered holder := by omega
      by_cases hcaller : caller w.scheduler n.lives = holder
      · -- the count has no room and wraps around
        have hmax : w.cs.recursionCount = int32Max := by
          by_contra hne
          refine hturn (.inr (.inr ⟨?_, ?_⟩))
          · change n.Holds (caller w.scheduler n.lives)
            rw [hcaller]
            exact hlt
          · change w.cs.recursionCount < int32Max
            omega
        have hbroken := hex.count holder (by
          change (note w .enter n).Holds holder
          rw [hnote]
          change n.left holder < countOne n.entered (caller w.scheduler n.lives) holder
          rw [hcaller, countOne_self]
          omega)
        change (step w .enter).cs.recursionCount = _ at hbroken
        simp only [hstep, hnote, hcaller, countOne_self, hmax, int32Max] at hbroken
        rw [hmax] at hcount
        unfold int32Max at hcount
        push_cast at hbroken
        have hwrapped : (0x7FFFFFFF + 1 : Int).bmod (2 ^ 32) = -0x80000000 := by decide
        omega
      · -- two threads hold the section
        have heq := hex.one (caller w.scheduler n.lives) holder (by
          change (note w .enter n).Holds _
          rw [hnote]
          change n.left _ < countOne n.entered (caller w.scheduler n.lives) _
          rw [countOne_self, hothers _ hcaller]
          omega) (by
          change (note w .enter n).Holds _
          rw [hnote]
          change n.left _ < countOne n.entered (caller w.scheduler n.lives) _
          rw [countOne_of_ne (fun h => hcaller h.symm)]
          exact hlt)
        exact hcaller heq
  | leave =>
    have hf : w.failed = none := by
      cases hw : w.failed with
      | none => rfl
      | some message => exact absurd (.inl (by rw [hw]; rfl)) hturn
    cases h with
    | free howner _ => exact hturn (.inr (.inl howner))
    | held holder howner hpos hle hcount hothers =>
      obtain ⟨hstep, hnote⟩ := step_leave (n := n) hf (leave_held howner hpos)
      have hcaller : caller w.scheduler n.lives ≠ holder := by
        intro hcaller
        refine hturn (.inr (.inr ?_))
        change n.left _ < n.entered _
        rw [hcaller]
        omega
      have hmatched := hex.matching (caller w.scheduler n.lives)
      change (note w .leave n).left _ ≤ (note w .leave n).entered _ at hmatched
      rw [hnote] at hmatched
      change countOne n.left (caller w.scheduler n.lives) _ ≤ n.entered _ at hmatched
      rw [countOne_self, hothers _ hcaller] at hmatched
      omega

/-! ## The runs -/

/-- The world once a section was initialized, at any time of the scheduler. -/
def Initialized (s : Scheduler.State) (spinCount : Nat) : World × Notes :=
  (⟨s, initializeCriticalSectionEx spinCount, none⟩, {})

theorem initialized_held (s : Scheduler.State) (spinCount : Nat) :
    Held (Initialized s spinCount).1.cs (Initialized s spinCount).2 :=
  .free rfl fun _ => rfl

theorem Held.run {p : World × Notes} (h : Held p.1.cs p.2) (events : List Event) :
    (∀ k, Excludes (Runs.run (Runs.noting step note) p (events.take k))) ↔
      Runs.Along (Runs.noting step note) InTurn p events := by
  induction events generalizing p with
  | nil =>
    simp only [List.take_nil, Runs.run, Runs.Along, iff_true]
    exact fun _ => h.excludes
  | cons e rest ih =>
    constructor
    · intro hall
      have hturn : InTurn p e := by
        by_contra hturn
        exact h.out_of_turn e hturn (hall 1)
      exact ⟨hturn, (ih (h.in_turn e hturn)).mp fun k => hall (k + 1)⟩
    · rintro ⟨hturn, hrest⟩ k
      cases k with
      | zero => exact h.excludes
      | succ k => exact (ih (h.in_turn e hturn)).mpr hrest k

/-- In a run of the scheduler with threads that use the section, the section excludes in every
state exactly if each call comes from the holder or finds the section free, and no thread nests
more enters than the count can hold. -/
theorem critical_sections_exclude_iff (s : Scheduler.State) (spinCount : Nat)
    (events : List Event) :
    (∀ k, Excludes (Runs.run (Runs.noting step note) (Initialized s spinCount) (events.take k))) ↔
      Runs.Along (Runs.noting step note) InTurn (Initialized s spinCount) events :=
  (initialized_held s spinCount).run events

/-- The boot thread enters twice, yields to a worker while it holds the section, gets the
processor back and leaves twice; then the worker enters. -/
def sampleTurns : List Event :=
  [.enter, .enter, .scheduler (.prepareYield true), .scheduler (.prepareYield true),
    .scheduler (.prepareYield true), .leave, .leave, .scheduler (.prepareYield true), .enter]

theorem sampleTurns_exclude : ∀ k, Excludes (Runs.run (Runs.noting step note)
    (Initialized Scheduler.readyState 0) (sampleTurns.take k)) :=
  (critical_sections_exclude_iff Scheduler.readyState 0 sampleTurns).mpr
    (by decide +kernel)

/-- The boot thread enters and yields, and a worker enters the section that it holds. Nothing
fails, and both threads are inside. -/
theorem two_threads_hold_the_section :
    let p := Runs.run (Runs.noting step note) (Initialized Scheduler.readyState 0)
      [.enter, .scheduler (.prepareYield true), .enter]
    p.1.failed = none ∧ p.2.Holds (some ⟨0, 0⟩) ∧ p.2.Holds (some ⟨1, 0⟩) ∧ ¬ Excludes p := by
  intro p
  have hboth : p.1.failed = none ∧ p.2.Holds (some ⟨0, 0⟩) ∧ p.2.Holds (some ⟨1, 0⟩) := by
    decide +kernel
  refine ⟨hboth.1, hboth.2.1, hboth.2.2, fun hex => ?_⟩
  have heq := hex.one _ _ hboth.2.1 hboth.2.2
  revert heq
  decide

end Gate4Harness.CriticalSection
