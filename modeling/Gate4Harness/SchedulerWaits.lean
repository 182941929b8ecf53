-- What the end of a wait does. `complete_waiter` takes a waiter out of the list
-- of its event, completes its record and makes its thread runnable. Signals and
-- timeouts end waits only in this way.
import Gate4Harness.SchedulerQueue

namespace Gate4Harness.Scheduler

open SlotList

variable {s s' : State} {e : EventSlot} {i : Nat} {r : RecordSlot} {t : ThreadSlot}
  {completionResult : Nat} {waitResult : WaitResult}

/-! ## One waiter out of its list -/

/-- The waiter list of `e` without the waiter at `i`, the last waiter in its place. -/
@[simps] def waitersWithout (event : Waitable) (i : Nat) : Waitable :=
  { event with
    waiters := Function.update (Function.update event.waiters i
      (event.waiters (event.waiterCount - 1))) (event.waiterCount - 1) none
    waiterCount := event.waiterCount - 1 }

/-- The back index of a record after the waiter at `i` left: the last waiter got `i`. -/
@[simps] def movedIndex (event : Waitable) (i : Nat) (q : RecordSlot) (record : WaitRecord) :
    WaitRecord :=
  { record with
    waiterIndex := if event.waiters (event.waiterCount - 1) = some q then i
      else record.waiterIndex }

theorem WaitInv.lt_count (h : WaitInv s) (hr : (s.events e).waiters i = some r) :
    i < (s.events e).waiterCount := by
  obtain ⟨w, hw⟩ := h.lists e
  exact hw.lt_count hr

theorem removeWaiter_spec (h : WaitInv s) (hr : (s.events e).waiters i = some r) :
    ∃ m, (s.events e).waiters ((s.events e).waiterCount - 1) = some m ∧
      removeWaiter s e i =
        ((s.modRecord m fun record => { record with waiterIndex := i }).modEvent e
          fun event => waitersWithout event i).modRecord r
          fun record => { record with waiterLinked := false, waiterIndex := uint32Max } := by
  obtain ⟨w, hw⟩ := h.lists e
  have hlt := hw.lt_count hr
  have hm : ((s.events e).waiters ((s.events e).waiterCount - 1)).isSome := by
    have hlen := hw.1
    rw [hw.2, List.getElem?_eq_getElem (by omega)]
    rfl
  obtain ⟨m, hm⟩ := Option.isSome_iff_exists.mp hm
  refine ⟨m, hm, ?_⟩
  unfold removeWaiter
  rw [if_neg (by omega)]
  simp only [hr, hm]
  congr 1
  simp [State.modEvent, State.modRecord, waitersWithout, hm]

theorem removeWaiter_records (h : WaitInv s) (hr : (s.events e).waiters i = some r)
    (q : RecordSlot) :
    (removeWaiter s e i).waitRecords q =
      if q = r then
        { s.waitRecords q with waiterLinked := false, waiterIndex := uint32Max }
      else movedIndex (s.events e) i q (s.waitRecords q) := by
  obtain ⟨m, hm, heq⟩ := removeWaiter_spec h hr
  rw [heq]
  by_cases hqr : q = r
  · subst hqr
    by_cases hqm : q = m
    · subst hqm
      simp
    · simp [hqm]
  · by_cases hqm : q = m
    · subst hqm
      simp [hqr, movedIndex, hm]
    · have hne : some m ≠ some q := by simpa using Ne.symm hqm
      simp [hqr, hqm, movedIndex, hm, hne]

theorem removeWaiter_events (h : WaitInv s) (hr : (s.events e).waiters i = some r)
    (d : EventSlot) :
    (removeWaiter s e i).events d =
      if d = e then waitersWithout (s.events d) i else s.events d := by
  obtain ⟨m, _, heq⟩ := removeWaiter_spec h hr
  rw [heq]
  by_cases hd : d = e
  · subst hd
    simp
  · simp [hd]

theorem removeWaiter_rest (h : WaitInv s) (hr : (s.events e).waiters i = some r) :
    removeWaiter s e i =
      { s with
        waitRecords := (removeWaiter s e i).waitRecords
        events := (removeWaiter s e i).events } := by
  obtain ⟨m, _, heq⟩ := removeWaiter_spec h hr
  rw [heq]
  rfl

/-! ## The end of a wait -/

/-- The effect of `complete_waiter` on the waiter `r` of `e`, whose thread is `t`. -/
structure Woken (s s' : State) (e : EventSlot) (i : Nat) (r : RecordSlot) (t : ThreadSlot)
    (completionResult : Nat) (waitResult : WaitResult) : Prop where
  records : ∀ q, s'.waitRecords q =
    if q = r then
      { s.waitRecords q with
        waiterLinked := false, waiterIndex := uint32Max, completed := true, completionResult }
    else movedIndex (s.events e) i q (s.waitRecords q)
  events : ∀ d, s'.events d = if d = e then waitersWithout (s.events d) i else s.events d
  threads : ∀ u, s'.threads u =
    if u = t then
      { s.threads u with
        blockedObject := 0, blockedResult := waitResult, state := .runnable,
        runnableQueued := true }
    else s.threads u
  queue : QueueInv s'
  rest : s' =
    { s with
      threads := s'.threads, waitRecords := s'.waitRecords, events := s'.events,
      runnableQueue := s'.runnableQueue, runnableCount := s'.runnableCount }

theorem completeWaiter_woken (h : Core s) (hi : s.installed = true)
    (hr : (s.events e).waiters i = some r) (ht : (s.waitRecords r).thread = some t) :
    Woken s (completeWaiter s e i completionResult waitResult) e i r t completionResult
      waitResult := by
  obtain ⟨hp, _, _⟩ := h.waits.listed e i r hr
  obtain ⟨t', _, ht', _, hlink, hlive, hblocked, _, _⟩ := h.waits.pending r hp
  obtain rfl : t' = t := by rw [ht'] at ht; exact Option.some.inj ht
  have hlt := h.waits.lt_count hr
  obtain ⟨l, hl⟩ := h.queue
  have htl : t' ∉ l := by
    rw [hl.mem_iff t' (by simp), hblocked]
    simp
  -- the state just before `enqueue_runnable`
  set s1 := removeWaiter s e i with hs1
  have hrest : s1 = { s with waitRecords := s1.waitRecords, events := s1.events } :=
    removeWaiter_rest h.waits hr
  have hthreads : s1.threads = s.threads :=
      (congrArg State.threads hrest :)
  set s3 := (s1.modRecord r fun record =>
      { record with completed := true, completionResult }).modThread t' fun thread =>
      { thread with blockedObject := 0, blockedResult := waitResult, state := .runnable } with hs3
  have hq1 : QueueUpTo s1 none l := by
    apply hl.congr (congrArg State.runnableQueue hrest :) (congrArg State.runnableCount hrest :)
      (congrArg State.queueRefusals hrest :)
    intro u
    rw [hthreads]
  have hq3 : QueueUpTo s3 (some t') l := by
    apply QueueUpTo.modThread
    · exact ((hq1.setAside htl).congr rfl rfl rfl fun _ => rfl)
    · rfl
  have hi3 : s3.installed = true := by
    have : s1.installed = s.installed :=
      (congrArg State.installed hrest :)
    simp [hs3, this, hi]
  have hl3 : (s3.threads t').live = true := by simp [hs3, hthreads, hlive]
  have hst3 : (s3.threads t').state = .runnable := by simp [hs3]
  have heq : completeWaiter s e i completionResult waitResult = (enqueueRunnable s3 t').2 := by
    unfold completeWaiter
    rw [if_neg (by omega), hr]
    simp only [ht']
    rw [if_neg (by simp [hp.1, (h.waits.active r hp.1).1, hlink])]
    rw [← hs1, ← hs3, enqueueRunnable_spec hq3 hi3 hl3 hst3]
    simp
  rw [heq]
  refine ⟨?_, ?_, ?_, ⟨_, hq3.enqueue hi3 hl3 hst3⟩, ?_⟩
  · intro q
    rw [enqueueRunnable_spec hq3 hi3 hl3 hst3]
    by_cases hq : q = r
    · subst hq
      simp [hs3, hs1, removeWaiter_records h.waits hr]
    · simp [hs3, hq, hs1, removeWaiter_records h.waits hr]
  · intro d
    rw [enqueueRunnable_spec hq3 hi3 hl3 hst3]
    simp [hs3, hs1, removeWaiter_events h.waits hr]
  · intro u
    rw [enqueueRunnable_spec hq3 hi3 hl3 hst3]
    by_cases hu : u = t'
    · subst hu
      simp [hs3, hthreads]
    · simp [hs3, hu, hthreads]
  · rw [enqueueRunnable_spec hq3 hi3 hl3 hst3, hs3, hrest]
    rfl

theorem Woken.pending_iff (hw : Woken s s' e i r t completionResult waitResult) (q : RecordSlot) :
    Pending s' q ↔ Pending s q ∧ q ≠ r := by
  unfold Pending
  rw [hw.records]
  by_cases hq : q = r
  · simp [hq]
  · simp [hq]

theorem Woken.handles (hw : Woken s s' e i r t completionResult waitResult) :
    (∀ u, (s'.threads u).handleView = (s.threads u).handleView) ∧
    (∀ d, (s'.events d).handleView = (s.events d).handleView) ∧
    ∀ q, (s'.waitRecords q).pinView = (s.waitRecords q).pinView := by
  refine ⟨?_, ?_, ?_⟩
  · intro u
    rw [hw.threads]
    split <;> rfl
  · intro d
    rw [hw.events]
    split <;> rfl
  · intro q
    rw [hw.records]
    split <;> rfl

/-- The waiters that are left are the waiters before, each at its own back index. -/
theorem Woken.listed (hw : Woken s s' e i r t completionResult waitResult) (h : WaitInv s)
    (hr : (s.events e).waiters i = some r) (d : EventSlot) (j : Nat) (q : RecordSlot)
    (hq : (s'.events d).waiters j = some q) :
    Pending s' q ∧ (s'.waitRecords q).waitable = some d ∧ (s'.waitRecords q).waiterIndex = j := by
  rw [hw.pending_iff, hw.records]
  rw [hw.events] at hq
  by_cases hd : d = e
  · subst hd
    simp only [if_true, waitersWithout_waiters, Function.update_apply] at hq
    split_ifs at hq with htail hji
    · -- the last waiter, now in the hole
      obtain ⟨hp, hwt, hidx⟩ := h.listed d _ q hq
      have hne : q ≠ r := by
        rintro rfl
        have := (h.listed d i q hr).2.2
        omega
      simp [hp, hne, hwt, hq, hji]
    · obtain ⟨hp, hwt, hidx⟩ := h.listed d j q hq
      have hne : q ≠ r := by
        rintro rfl
        have := (h.listed d i q hr).2.2
        omega
      have hlast : (s.events d).waiters ((s.events d).waiterCount - 1) ≠ some q := by
        intro hl
        have := (h.listed d _ q hl).2.2
        omega
      simp [hp, hne, hwt, hidx, hlast]
  · simp only [hd, if_false] at hq
    obtain ⟨hp, hwt, hidx⟩ := h.listed d j q hq
    have hother : ∀ k p, (s.events e).waiters k = some p → p ≠ q := by
      intro k p hk hpq
      have := (h.listed e k p hk).2.1
      rw [hpq, hwt] at this
      exact hd (Option.some.inj this)
    have hne : q ≠ r := fun hqr => hother i r hr hqr.symm
    have hlast : (s.events e).waiters ((s.events e).waiterCount - 1) ≠ some q :=
      fun hl => hother _ q hl rfl
    simp [hp, hne, hwt, hidx, hlast]

theorem Woken.waiter_slot (hw : Woken s s' e i r t completionResult waitResult) (h : WaitInv s)
    (hr : (s.events e).waiters i = some r) {q : RecordSlot} {d : EventSlot} (hne : q ≠ r)
    (hd : (s.waitRecords q).waitable = some d)
    (hq : (s.events d).waiters (s.waitRecords q).waiterIndex = some q) :
    (s'.events d).waiters (s'.waitRecords q).waiterIndex = some q := by
  rw [hw.records, hw.events]
  simp only [hne, if_false, movedIndex_waiterIndex]
  by_cases hde : d = e
  · subst hde
    simp only [if_true, waitersWithout_waiters, Function.update_apply]
    have hni : (s.waitRecords q).waiterIndex ≠ i := by
      intro hi
      rw [hi, hr] at hq
      exact hne (Option.some.inj hq).symm
    by_cases hlast : (s.events d).waiters ((s.events d).waiterCount - 1) = some q
    · have := (h.listed d _ q hlast).2.2
      rw [if_pos hlast, if_neg (by omega), if_pos rfl]
      exact hlast
    · have hnt : (s.waitRecords q).waiterIndex ≠ (s.events d).waiterCount - 1 := by
        intro hit
        rw [hit] at hq
        exact hlast hq
      rw [if_neg hlast, if_neg hnt, if_neg hni]
      exact hq
  · have hlast : (s.events e).waiters ((s.events e).waiterCount - 1) ≠ some q := by
      intro hl
      have := (h.listed e _ q hl).2.1
      rw [hd] at this
      exact hde (Option.some.inj this)
    simp [hde, hlast, hq]

theorem Woken.waits (hw : Woken s s' e i r t completionResult waitResult) (h : WaitInv s)
    (hr : (s.events e).waiters i = some r) (ht : (s.waitRecords r).thread = some t)
    (hfit : ResultFits waitResult completionResult) : WaitInv s' := by
  have hp := (h.listed e i r hr).1
  obtain ⟨t', _, ht', _, _, hlive, hblocked, hwr, _⟩ := h.pending r hp
  obtain rfl : t' = t := by rw [ht'] at ht; exact Option.some.inj ht
  have hlive' : ∀ u, (s'.threads u).live = (s.threads u).live := by
    intro u
    rw [hw.threads]
    split <;> rfl
  have hrec' : ∀ u, (s'.threads u).waitRecord = (s.threads u).waitRecord := by
    intro u
    rw [hw.threads]
    split <;> rfl
  have hvalid : ∀ q, (s'.waitRecords q).valid = (s.waitRecords q).valid := by
    intro q
    rw [hw.records]
    split <;> rfl
  have hthread : ∀ q, (s'.waitRecords q).thread = (s.waitRecords q).thread := by
    intro q
    rw [hw.records]
    split <;> rfl
  -- the thread of another record is another thread
  have hother : ∀ u q, (s.threads u).waitRecord = some q → q ≠ r → u ≠ t' := by
    rintro u q hu hne rfl
    rw [hwr] at hu
    exact hne (Option.some.inj hu).symm
  refine ⟨?_, ?_, ?_, ?_, hw.listed h hr, ?_, ?_, ?_, ?_, ?_⟩
  · intro q hq
    rw [hvalid] at hq
    have hne : q ≠ r := by
      rintro rfl
      rw [hp.1] at hq
      cases hq
    have hlast : (s.events e).waiters ((s.events e).waiterCount - 1) ≠ some q := by
      intro hl
      have := (h.listed e _ q hl).1.1
      rw [hq] at this
      cases this
    rw [hw.records, if_neg hne, movedIndex, if_neg hlast]
    exact h.blank q hq
  · intro q hq
    rw [hvalid] at hq
    have := h.active q hq
    rw [hw.records]
    split <;> exact this
  · intro q hq
    obtain ⟨hq, hne⟩ := (hw.pending_iff q).mp hq
    obtain ⟨u, d, hu, hd, hlink, hul, hub, huw, hslot⟩ := h.pending q hq
    refine ⟨u, d, by rw [hthread]; exact hu, ?_, ?_, by rw [hlive']; exact hul, ?_,
      by rw [hrec']; exact huw, hw.waiter_slot h hr hne hd hslot⟩
    · rw [hw.records, if_neg hne]
      exact hd
    · rw [hw.records, if_neg hne]
      exact hlink
    · rw [hw.threads, if_neg (hother u q huw hne)]
      exact hub
  · intro q hq
    rw [hw.records] at hq ⊢
    by_cases hqr : q = r
    · simp [hqr]
    · simp only [hqr, if_false, movedIndex_completed, movedIndex_waiterLinked] at hq ⊢
      exact h.unlinked q hq
  · intro d
    obtain ⟨w, hwl⟩ := h.lists d
    rw [hw.events]
    split
    · rename_i hd
      subst hd
      exact ⟨_, hwl.swapOut (hwl.lt_count hr)⟩
    · exact ⟨w, hwl⟩
  · intro u hu hb
    have hut : u ≠ t' := by
      rintro rfl
      rw [hw.threads] at hb
      simp at hb
    rw [hw.threads, if_neg hut] at hu hb ⊢
    obtain ⟨q, hq, hpq⟩ := h.blocked u hu hb
    refine ⟨q, hq, (hw.pending_iff q).mpr ⟨hpq, ?_⟩⟩
    rintro rfl
    have := (h.owner u q hq).2.2
    rw [ht'] at this
    exact hut (Option.some.inj this).symm
  · intro u q huq
    rw [hrec'] at huq
    rw [hlive', hvalid, hthread]
    exact h.owner u q huq
  · intro u q huq hc
    rw [hrec'] at huq
    by_cases hqr : q = r
    · subst hqr
      have hut : u = t' := by
        have := (h.owner u q huq).2.2
        rw [ht'] at this
        exact (Option.some.inj this).symm
      rw [hw.threads, hw.records, if_pos hut, if_pos rfl]
      exact ⟨by simp, hfit⟩
    · rw [hw.threads, hw.records, if_neg (hother u q huq hqr), if_neg hqr]
      rw [hw.records, if_neg hqr] at hc
      exact h.result u q huq hc
  · have hn : s'.activeWaitCount = s.activeWaitCount := (congrArg State.activeWaitCount hw.rest :)
    rw [hn, h.count]
    simp only [hvalid]

/-- The end of a wait keeps the invariant. -/
theorem Woken.core (hw : Woken s s' e i r t completionResult waitResult) (h : Core s)
    (hr : (s.events e).waiters i = some r) (ht : (s.waitRecords r).thread = some t)
    (hfit : ResultFits waitResult completionResult) : Core s' := by
  obtain ⟨t', _, ht', _, _, hlive, hblocked, _, _⟩ :=
    h.waits.pending r (h.waits.listed e i r hr).1
  obtain rfl : t' = t := by rw [ht'] at ht; exact Option.some.inj ht
  refine ⟨hw.queue, ?_, hw.waits h.waits hr ht hfit, ?_, ?_⟩
  · apply h.current.congr (congrArg State.active hw.rest :) (congrArg State.installed hw.rest :)
      (congrArg State.current hw.rest :) (congrArg State.bootThread hw.rest :)
    · intro u
      rw [hw.threads]
      split
      · rename_i hu
        subst hu
        refine Or.inr ⟨?_, by simp⟩
        intro hcur
        obtain ⟨c, hc, _, hcs⟩ := h.current.current (h.current.installed_of_live hlive)
        rw [hcur] at hc
        cases hc
        rw [hblocked] at hcs
        simp at hcs
      · exact Or.inl rfl
    · intro u
      rw [hw.threads]
      split <;> exact Or.inl rfl
  · obtain ⟨h1, h2, h3⟩ := hw.handles
    have ho : s'.objects = s.objects := (congrArg State.objects hw.rest :)
    exact h.objects.congr (fun o => by rw [ho]) (congrArg State.notification hw.rest :)
      (congrArg State.standardStream hw.rest :) h1 h2 h3
  · intro u hu
    have hne : u ≠ t' := by
      rintro rfl
      rw [hw.threads, if_pos rfl, hlive] at hu
      cases hu
    rw [hw.threads, if_neg hne] at hu ⊢
    exact h.blank u hu

end Gate4Harness.Scheduler
