-- The laws of the scheduler that hold in every state of a run: one thread runs,
-- the runnable queue and the thread states agree, and the waiter lists of the
-- events hold the blocked threads.
import Gate4Harness.SchedulerFrames

namespace Gate4Harness.Scheduler

variable {s : State}

/-! ## A small run -/

/-- An answer of `allocate_pages` that hands out pages. -/
def granting (memory : Nat) : PageAnswer := { status := 0, memory }

/-- A boot on which every page request succeeds. -/
def sampleBoot : BootInput :=
  { startWorker := 0x500000, invalidThreadReturn := 0x600000,
    pages := ⟨granting 0x100000, granting 0x101000, granting 0x102000, granting 0x103000⟩ }

def sampleStart : State := (initializeScheduler sampleBoot).2

theorem sampleStart_started : Started sampleStart := ⟨sampleBoot, rfl⟩

/-- The answers to a creation that takes nine pages from `base` on. -/
def sampleAnswers (base : Nat) : CreateAnswers :=
  { stack := granting base, canary := granting (base + 0x4000),
    environment := ⟨granting (base + 0x5000), granting (base + 0x6000), granting (base + 0x7000),
      granting (base + 0x8000)⟩,
    stackVm := some 7 }

def sampleCreate (base : Nat) : Op :=
  .createSuspendedThread .this 0x700000 0 true true (sampleAnswers base)

/-- The handle of the first event of a run, after the object of the boot thread. -/
def sampleEvent : Nat := makeHandle .event 1 1

/-- The handle of the thread that a run creates when `objects` objects are live. -/
def sampleThread (objects : ObjectSlot) : Nat := makeHandle .thread objects 1

/-- A worker starts and waits for an auto-reset event, and the boot thread runs again. -/
def sampleWait : List Op :=
  [.configureStackVm .this true true, .createEvent .this 0 0 true, sampleCreate 0x200000,
    .resumeThread (sampleThread 2), .prepareYield true, .prepareWaitRecord sampleEvent true]

def waitingState : State := Runs.run step sampleStart sampleWait

theorem waitingState_reached : ReachableBy GoesOn waitingState := by
  apply Runs.Reach.run (.start sampleStart_started)
  intro s op hop
  simp only [sampleWait, sampleCreate, List.mem_cons, List.not_mem_nil, or_false] at hop
  rcases hop with rfl | rfl | rfl | rfl | rfl | rfl <;> trivial

theorem ReachableBy.reachable {ok : State → Op → Prop} (h : ReachableBy ok s) : Reachable s :=
  h.mono fun _ _ _ => trivial

/-! ## The thread that runs -/

theorem reachableBy_running (h : ReachableBy GoesOn s) : Running s := by
  apply h.invariant
  · intro s hs
    exact started_running hs
  · intro s op hreach hr hop
    exact step_running (reachableBy_inv hreach) hr hop

/-- In a run that goes on, the current thread is the one live thread that runs, and it is
not in the runnable queue. -/
theorem exactly_one_thread_runs (h : ReachableBy GoesOn s) :
    ∃ c, s.current = some c ∧ (s.threads c).live = true ∧ (s.threads c).state = .running ∧
      (s.threads c).runnableQueued = false ∧ (∀ i, s.runnableQueue i ≠ some c) ∧
      ∀ t, t ≠ c → (s.threads t).live = true → (s.threads t).state ≠ .running := by
  have hinv := reachableBy_inv h
  obtain ⟨hi, c, hc, hs⟩ := reachableBy_running h
  obtain ⟨l, hl⟩ := hinv.queue
  have hlive : (s.threads c).live = true := by
    obtain ⟨d, hd, hlive, _⟩ := hinv.current.current hi
    rw [hc] at hd
    cases hd
    exact hlive
  have hout : c ∉ l := by
    intro hmem
    rw [hl.mem_iff c (by simp), hs] at hmem
    cases hmem.2
  refine ⟨c, hc, hlive, hs, ?_, ?_, ?_⟩
  · rw [← Bool.not_eq_true, hl.flag]
    exact hout
  · intro i hq
    exact hout (hl.holds.mem_iff.mpr ⟨i, hl.holds.lt_count hq, hq⟩)
  · intro t ht hlt hst
    have hcur := hinv.current.running t hlt hst
    rw [hc] at hcur
    cases hcur
    exact ht rfl

theorem one_thread_runs_after_sampleWait :
    waitingState.current = some 0 ∧ ∃ c, waitingState.current = some c ∧
      (waitingState.threads c).live = true ∧ (waitingState.threads c).state = .running ∧
      (waitingState.threads c).runnableQueued = false ∧
      (∀ i, waitingState.runnableQueue i ≠ some c) ∧
      ∀ t, t ≠ c → (waitingState.threads t).live = true →
        (waitingState.threads t).state ≠ .running :=
  ⟨by decide +kernel, exactly_one_thread_runs waitingState_reached⟩

/-! ## The runnable queue -/

/-- The queue holds the live runnable threads, each once, with no gap, and no thread was
ever refused for want of room. -/
theorem queue_holds_the_runnable_threads (h : Reachable s) :
    (∀ i < s.runnableCount, ∃ t, s.runnableQueue i = some t) ∧
    (∀ i j t, s.runnableQueue i = some t → s.runnableQueue j = some t → i = j) ∧
    (∀ t, (∃ i < s.runnableCount, s.runnableQueue i = some t) ↔
      (s.threads t).live = true ∧ (s.threads t).runnableQueued = true) ∧
    (∀ t, (∃ i < s.runnableCount, s.runnableQueue i = some t) ↔
      (s.threads t).live = true ∧ (s.threads t).state = .runnable) ∧
    (∀ i, s.runnableCount ≤ i → s.runnableQueue i = none) ∧
    s.queueRefusals = 0 := by
  obtain ⟨l, hl⟩ := (reachableBy_inv h).queue
  have hstate : ∀ t, (∃ i < s.runnableCount, s.runnableQueue i = some t) ↔
      (s.threads t).live = true ∧ (s.threads t).state = .runnable := by
    intro t
    rw [← hl.holds.mem_iff, hl.mem_iff t (by simp)]
  refine ⟨?_, ?_, ?_, hstate, ?_, hl.never_full⟩
  · intro i hi
    exact hl.holds.exists_of_lt hi
  · intro i j t hti htj
    exact hl.holds.slot_unique hl.nodup hti htj
  · intro t
    constructor
    · intro ht
      have hlive := ((hstate t).mp ht).1
      exact ⟨hlive, (hl.flag t).mpr (hl.holds.mem_iff.mpr ht)⟩
    · rintro ⟨_, hq⟩
      exact hl.holds.mem_iff.mp ((hl.flag t).mp hq)
  · intro i hi
    exact hl.holds.none_of_le hi

/-- Two workers are ready to run. -/
def sampleReady : List Op :=
  [.configureStackVm .this true true, sampleCreate 0x200000, sampleCreate 0x300000,
    .resumeThread (sampleThread 1), .resumeThread (sampleThread 2)]

def readyState : State := Runs.run step sampleStart sampleReady

theorem readyState_reached : Reachable readyState :=
  Runs.Reach.run (.start sampleStart_started) _ fun _ _ _ => trivial

theorem queue_holds_the_sampleReady_threads :
    readyState.runnableCount = 2 ∧
    (∀ i < readyState.runnableCount, ∃ t, readyState.runnableQueue i = some t) ∧
    (∀ i j t, readyState.runnableQueue i = some t → readyState.runnableQueue j = some t → i = j) ∧
    (∀ t, (∃ i < readyState.runnableCount, readyState.runnableQueue i = some t) ↔
      (readyState.threads t).live = true ∧ (readyState.threads t).runnableQueued = true) ∧
    (∀ t, (∃ i < readyState.runnableCount, readyState.runnableQueue i = some t) ↔
      (readyState.threads t).live = true ∧ (readyState.threads t).state = .runnable) ∧
    (∀ i, readyState.runnableCount ≤ i → readyState.runnableQueue i = none) ∧
    readyState.queueRefusals = 0 :=
  ⟨by decide +kernel, queue_holds_the_runnable_threads readyState_reached⟩

/-! ## The waiter lists -/

/-- A wait record as it stands in the waiter list of an event. -/
def WaitsAt (s : State) (e : EventSlot) (i : Nat) (r : RecordSlot) (t : ThreadSlot) : Prop :=
  (s.events e).waiters i = some r ∧ (s.waitRecords r).valid = true ∧
  (s.waitRecords r).active = true ∧ (s.waitRecords r).waiterLinked = true ∧
  (s.waitRecords r).completed = false ∧ (s.waitRecords r).waiterIndex = i ∧
  (s.waitRecords r).waitable = some e ∧ (s.waitRecords r).thread = some t ∧
  (s.threads t).live = true ∧ (s.threads t).state = .blocked ∧
  (s.threads t).waitRecord = some r

theorem Inv.waitsAt (h : Inv s) {e : EventSlot} {i : Nat} {r : RecordSlot}
    (hr : (s.events e).waiters i = some r) : ∃ t, WaitsAt s e i r t := by
  obtain ⟨hp, he, hi⟩ := h.waits.listed e i r hr
  obtain ⟨t, _, ht, _, hlink, hl, hb, hw, _⟩ := h.waits.pending r hp
  exact ⟨t, hr, hp.1, (h.waits.active r hp.1).1, hlink, hp.2, hi, he, ht, hl, hb, hw⟩

/-- A blocked thread stands in the list of a live event. -/
theorem Inv.blocked_waits (h : Inv s) {t : ThreadSlot} (hl : (s.threads t).live = true)
    (hb : (s.threads t).state = .blocked) :
    ∃ e i r, (s.events e).live = true ∧ i < (s.events e).waiterCount ∧ WaitsAt s e i r t := by
  obtain ⟨r, hw, hp⟩ := h.waits.blocked t hl hb
  obtain ⟨u, e, _, _, _, _, _, _, hlisted⟩ := h.waits.pending r hp
  obtain ⟨u, hat⟩ := h.waitsAt hlisted
  obtain ⟨_, _, _, _, _, _, he, hu, _, _, _⟩ := id hat
  have htu := (h.waits.owner t r hw).2.2
  rw [hu] at htu
  cases htu
  obtain ⟨o, d, _, hd, hstands, _⟩ := h.objects.record r hp.1
  rw [he] at hd
  cases hd
  have hfit := h.objects.target o hstands.1
  simp only [TargetFits, hstands.2.1, hstands.2.2, Option.some.injEq, Target.event.injEq] at hfit
  obtain ⟨_, rfl, hlive, _⟩ := hfit
  obtain ⟨w, hw⟩ := h.waits.lists e
  exact ⟨e, _, r, hlive, hw.lt_count hlisted, hat⟩

/-- The waiter list of a live event holds pending waits of blocked threads, each once and
at its index. A blocked thread stands in one list, and a signaled event has none. -/
theorem waiter_lists_hold_the_blocked_threads (h : Reachable s) :
    (∀ e, (s.events e).live = true →
      (∀ i < (s.events e).waiterCount, ∃ r t, WaitsAt s e i r t) ∧
      (∀ i j r, (s.events e).waiters i = some r → (s.events e).waiters j = some r → i = j)) ∧
    (∀ t, (s.threads t).live = true → (s.threads t).state = .blocked →
      ∃! p : EventSlot × Nat, (s.events p.1).live = true ∧ p.2 < (s.events p.1).waiterCount ∧
        ∃ r, (s.events p.1).waiters p.2 = some r ∧ (s.waitRecords r).thread = some t) ∧
    (∀ e, (s.events e).live = true → (s.events e).signaled = true →
      (s.events e).waiterCount = 0) := by
  have hinv := reachableBy_inv h
  refine ⟨?_, ?_, hinv.quiet⟩
  · intro e _
    constructor
    · intro i hi
      obtain ⟨w, hw⟩ := hinv.waits.lists e
      obtain ⟨r, hr⟩ := hw.exists_of_lt hi
      obtain ⟨t, ht⟩ := hinv.waitsAt hr
      exact ⟨r, t, ht⟩
    · intro i j r hi hj
      exact (hinv.waits.listed e i r hi).2.2.symm.trans (hinv.waits.listed e j r hj).2.2
  · intro t hl hb
    obtain ⟨e, i, r, hel, hi, hat⟩ := hinv.blocked_waits hl hb
    refine ⟨(e, i), ⟨hel, hi, r, hat.1, hat.2.2.2.2.2.2.2.1⟩, ?_⟩
    rintro ⟨d, j⟩ ⟨_, _, q, hq, hqt⟩
    -- The thread owns one record, and the record names its event and its index.
    obtain ⟨u, hat'⟩ := hinv.waitsAt hq
    obtain ⟨_, _, _, _, _, hj, hd, hu, _, _, huq⟩ := hat'
    obtain ⟨_, _, _, _, _, hi', he, _, _, _, htr⟩ := hat
    rw [hqt] at hu
    cases hu
    rw [htr] at huq
    cases huq
    rw [he] at hd
    cases hd
    rw [← hi', hj]

theorem waiter_list_holds_the_sampleWait_thread :
    (waitingState.threads 1).state = .blocked ∧ (waitingState.events 0).waiterCount = 1 ∧
    (∀ e, (waitingState.events e).live = true →
      (∀ i < (waitingState.events e).waiterCount, ∃ r t, WaitsAt waitingState e i r t) ∧
      (∀ i j r, (waitingState.events e).waiters i = some r →
        (waitingState.events e).waiters j = some r → i = j)) ∧
    (∀ t, (waitingState.threads t).live = true → (waitingState.threads t).state = .blocked →
      ∃! p : EventSlot × Nat, (waitingState.events p.1).live = true ∧
        p.2 < (waitingState.events p.1).waiterCount ∧
        ∃ r, (waitingState.events p.1).waiters p.2 = some r ∧
          (waitingState.waitRecords r).thread = some t) ∧
    (∀ e, (waitingState.events e).live = true → (waitingState.events e).signaled = true →
      (waitingState.events e).waiterCount = 0) :=
  ⟨by decide +kernel, by decide +kernel,
    waiter_lists_hold_the_blocked_threads waitingState_reached.reachable⟩

end Gate4Harness.Scheduler
