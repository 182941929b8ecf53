-- Signals and timeouts. A signal on a manual-reset event ends every wait on it, a
-- signal on an auto-reset event ends the wait of the first waiter, and
-- `service_timeouts` ends the waits whose deadline has passed.
import Gate4Harness.SchedulerWaits

namespace Gate4Harness.Scheduler

open SlotList

variable {s s' : State} {e : EventSlot} {i : Nat} {r : RecordSlot} {t : ThreadSlot}
  {completionResult : Nat} {waitResult : WaitResult}

/-! ## The end of several waits -/

/-- The waits in `ended` have ended with one result, and no other wait has. -/
structure Ended (s s' : State) (ended : RecordSlot → Prop) (completionResult : Nat)
    (waitResult : WaitResult) : Prop where
  was_pending : ∀ q, ended q → Pending s q
  records : ∀ q, ended q → ∃ n, s'.waitRecords q =
    { s.waitRecords q with
      waiterLinked := false, waiterIndex := n, completed := true, completionResult }
  other_records : ∀ q, ¬ ended q → ∃ n, s'.waitRecords q = { s.waitRecords q with waiterIndex := n }
  threads : ∀ u q, ended q → (s.waitRecords q).thread = some u → s'.threads u =
    { s.threads u with
      blockedObject := 0, blockedResult := waitResult, state := .runnable, runnableQueued := true }
  other_threads : ∀ u, (∀ q, ended q → (s.waitRecords q).thread ≠ some u) →
    s'.threads u = s.threads u
  events : ∀ d, ∃ w n, s'.events d = { s.events d with waiters := w, waiterCount := n } ∧
    n ≤ (s.events d).waiterCount
  rest : s' =
    { s with
      threads := s'.threads, waitRecords := s'.waitRecords, events := s'.events,
      runnableQueue := s'.runnableQueue, runnableCount := s'.runnableCount }

theorem Ended.none {ended : RecordSlot → Prop} (h : ∀ q, ¬ ended q) :
    Ended s s ended completionResult waitResult :=
  ⟨fun q hq => absurd hq (h q), fun q hq => absurd hq (h q), fun _ _ => ⟨_, rfl⟩,
    fun _ q hq => absurd hq (h q), fun _ _ => rfl, fun _ => ⟨_, _, rfl, Nat.le_refl _⟩, rfl⟩

theorem Ended.congr {p q : RecordSlot → Prop} (h : Ended s s' p completionResult waitResult)
    (hpq : ∀ r, p r ↔ q r) : Ended s s' q completionResult waitResult := by
  have : p = q := funext fun r => propext (hpq r)
  subst this
  exact h

theorem Ended.pending_iff {ended : RecordSlot → Prop}
    (h : Ended s s' ended completionResult waitResult) (q : RecordSlot) :
    Pending s' q ↔ Pending s q ∧ ¬ ended q := by
  by_cases hq : ended q
  · obtain ⟨n, hn⟩ := h.records q hq
    unfold Pending
    rw [hn]
    simp [hq]
  · obtain ⟨n, hn⟩ := h.other_records q hq
    unfold Pending
    rw [hn]
    simp [hq]

theorem Ended.thread_eq {ended : RecordSlot → Prop}
    (h : Ended s s' ended completionResult waitResult) (q : RecordSlot) :
    (s'.waitRecords q).thread = (s.waitRecords q).thread := by
  by_cases hq : ended q
  · obtain ⟨n, hn⟩ := h.records q hq
    rw [hn]
  · obtain ⟨n, hn⟩ := h.other_records q hq
    rw [hn]

/-- One wait ends, and then the waits in `ended`. -/
theorem Woken.andThen {s1 s2 : State} {ended : RecordSlot → Prop} (hinv : WaitInv s)
    (hr : (s.events e).waiters i = some r) (ht : (s.waitRecords r).thread = some t)
    (hw : Woken s s1 e i r t completionResult waitResult)
    (h : Ended s1 s2 ended completionResult waitResult) :
    Ended s s2 (fun q => q = r ∨ ended q) completionResult waitResult := by
  have hp := (hinv.listed e i r hr).1
  obtain ⟨t', _, ht', _, _, _, _, hwr, _⟩ := hinv.pending r hp
  obtain rfl : t' = t := by rw [ht'] at ht; exact Option.some.inj ht
  have hrn : ¬ ended r := fun hr' => ((hw.pending_iff r).mp (h.was_pending r hr')).2 rfl
  have hthread : ∀ q, (s1.waitRecords q).thread = (s.waitRecords q).thread := by
    intro q
    rw [hw.records]
    split <;> rfl
  -- a wait that ends later has another thread
  have hother : ∀ u q, ended q → (s.waitRecords q).thread = some u → u ≠ t' := by
    rintro u q hq hu rfl
    obtain ⟨hpq, hne⟩ := (hw.pending_iff q).mp (h.was_pending q hq)
    obtain ⟨v, _, hv, _, _, _, _, hvw, _⟩ := hinv.pending q hpq
    rw [hu] at hv
    obtain rfl := Option.some.inj hv
    rw [hwr] at hvw
    exact hne (Option.some.inj hvw).symm
  refine ⟨?_, ?_, ?_, ?_, ?_, ?_, ?_⟩
  · rintro q (rfl | hq)
    · exact hp
    · exact ((hw.pending_iff q).mp (h.was_pending q hq)).1
  · rintro q (rfl | hq)
    · obtain ⟨n, hn⟩ := h.other_records q hrn
      refine ⟨n, ?_⟩
      rw [hn, hw.records, if_pos rfl]
    · have hne : q ≠ r := ((hw.pending_iff q).mp (h.was_pending q hq)).2
      obtain ⟨n, hn⟩ := h.records q hq
      refine ⟨n, ?_⟩
      rw [hn, hw.records, if_neg hne]
      rfl
  · intro q hq
    obtain ⟨hne, hq⟩ := not_or.mp hq
    obtain ⟨n, hn⟩ := h.other_records q hq
    refine ⟨n, ?_⟩
    rw [hn, hw.records, if_neg hne]
    rfl
  · rintro u q (rfl | hq) hu
    · rw [ht'] at hu
      obtain rfl := Option.some.inj hu
      rw [h.other_threads t' ?_, hw.threads, if_pos rfl]
      intro p hpe hpt
      rw [hthread] at hpt
      exact hother t' p hpe hpt rfl
    · have hne := hother u q hq hu
      rw [h.threads u q hq (by rw [hthread]; exact hu), hw.threads, if_neg hne]
  · intro u hu
    have hne : u ≠ t' := by
      rintro rfl
      exact hu r (Or.inl rfl) ht'
    rw [h.other_threads u ?_, hw.threads, if_neg hne]
    intro q hq
    rw [hthread]
    exact hu q (Or.inr hq)
  · intro d
    obtain ⟨w, n, hwn, hle⟩ := h.events d
    refine ⟨w, n, ?_, ?_⟩
    · rw [hwn, hw.events]
      split <;> rfl
    · rw [hw.events] at hle
      split at hle
      · exact Nat.le_trans hle (Nat.sub_le _ _)
      · exact hle
  · have h1 := hw.rest
    have h2 := h.rest
    rw [h1] at h2
    exact h2

theorem Ended.quiet {ended : RecordSlot → Prop}
    (h : Ended s s' ended completionResult waitResult) (hq : QuietInv s) : QuietInv s' := by
  intro d hl hs
  obtain ⟨w, n, hwn, hle⟩ := h.events d
  rw [hwn] at hl hs ⊢
  have := hq d hl hs
  simp only
  omega

/-! ## Signals -/

/-- The flag of an event may change, as far as the rules for the middle of a signal go. -/
theorem Core.setSignaled (h : Core s) (e : EventSlot) (b : Bool) :
    Core (s.modEvent e fun event => { event with signaled := b }) := by
  refine ⟨?_, ?_, ?_, ?_, h.blank⟩
  · exact h.queue.congr rfl rfl rfl fun _ => rfl
  · exact h.current.congr rfl rfl rfl rfl (fun _ => Or.inl rfl) fun _ => Or.inl rfl
  · refine h.waits.congr rfl ?_ rfl fun _ => Or.inl rfl
    intro d
    exact ⟨view_modEvent Waitable.waiters s e (by rfl) d,
      view_modEvent Waitable.waiterCount s e (by rfl) d⟩
  · refine h.objects.congr (fun _ => rfl) rfl rfl (fun _ => rfl) ?_ fun _ => rfl
    exact view_modEvent Waitable.handleView s e (by rfl)

/-- An event is cleared, or it is set while nothing waits on it. -/
theorem Inv.setSignaled (h : Inv s) (e : EventSlot) {b : Bool}
    (hb : b = true → (s.events e).waiterCount = 0) :
    Inv (s.modEvent e fun event => { event with signaled := b }) := by
  refine ⟨h.toCore.setSignaled e b, ?_⟩
  intro d hl hs
  by_cases hd : d = e
  · subst hd
    simp only [State.modEvent_events, Function.update_self] at hs ⊢
    exact hb hs
  · simp only [State.modEvent_events, Function.update_of_ne hd] at hl hs ⊢
    exact h.quiet d hl hs

theorem WaitInv.waiting_iff (h : WaitInv s) (e : EventSlot) :
    (s.events e).waiterCount = 0 ↔ ∀ q, ¬ (Pending s q ∧ (s.waitRecords q).waitable = some e) := by
  constructor
  · rintro hc q ⟨hp, hwt⟩
    obtain ⟨_, d, _, hd, _, _, _, _, hslot⟩ := h.pending q hp
    rw [hwt] at hd
    obtain rfl := Option.some.inj hd
    have := h.lt_count hslot
    omega
  · intro hnone
    by_contra hc
    obtain ⟨w, hw⟩ := h.lists e
    obtain ⟨q, _, _, hq⟩ := hw.head hc
    obtain ⟨hp, hwt, _⟩ := h.listed e 0 q hq
    exact hnone q ⟨hp, hwt⟩

/-- The first waiter of a list that is not empty, and its thread. -/
theorem WaitInv.first_waiter (h : WaitInv s) (hc : (s.events e).waiterCount ≠ 0) :
    ∃ r t, (s.events e).waiters 0 = some r ∧ (s.waitRecords r).thread = some t := by
  obtain ⟨w, hw⟩ := h.lists e
  obtain ⟨r, _, _, hr⟩ := hw.head hc
  obtain ⟨t, _, ht, _⟩ := h.pending r (h.listed e 0 r hr).1
  exact ⟨r, t, hr, ht⟩

/-- The loop over the waiters ends every wait on the event, and it touches no other
event. -/
theorem wakeAll_spec {turns : Nat} (h : Core s) (hi : s.installed = true)
    (hn : (s.events e).waiterCount ≤ turns) :
    Core (wakeAll e turns s) ∧
    Ended s (wakeAll e turns s) (fun q => Pending s q ∧ (s.waitRecords q).waitable = some e)
      waitObject0 .signaled ∧
    ((wakeAll e turns s).events e).waiterCount = 0 ∧
    ∀ d, d ≠ e → (wakeAll e turns s).events d = s.events d := by
  induction turns generalizing s with
  | zero =>
    have hc : (s.events e).waiterCount = 0 := by omega
    exact ⟨h, Ended.none ((h.waits.waiting_iff e).mp hc), hc, fun _ _ => rfl⟩
  | succ n ih =>
    unfold wakeAll
    split
    · rename_i hc
      exact ⟨h, Ended.none ((h.waits.waiting_iff e).mp hc), hc, fun _ _ => rfl⟩
    · rename_i hc
      obtain ⟨r, t, hr, ht⟩ := h.waits.first_waiter hc
      have hw : Woken s (wakeWaiter s e 0) e 0 r t waitObject0 .signaled :=
        completeWaiter_woken h hi hr ht
      have hcore := hw.core h hr ht (Or.inl ⟨rfl, rfl⟩)
      have hcount : ((wakeWaiter s e 0).events e).waiterCount ≤ n := by
        rw [hw.events, if_pos rfl, waitersWithout_waiterCount]
        omega
      have hinst : (wakeWaiter s e 0).installed = true := by
        rw [(congrArg State.installed hw.rest :)]
        exact hi
      obtain ⟨h1, h2, h3, h4⟩ := ih hcore hinst hcount
      refine ⟨h1, ?_, h3, ?_⟩
      · apply (hw.andThen h.waits hr ht h2).congr
        intro q
        rw [hw.pending_iff, hw.records]
        obtain ⟨hp, hwt, _⟩ := h.waits.listed e 0 r hr
        by_cases hq : q = r
        · subst hq
          simp [hp, hwt]
        · simp [hq]
      · intro d hd
        rw [h4 d hd, hw.events, if_neg hd]

/-- A signal on a manual-reset event: it is set and every wait on it ends. -/
theorem signalEvent_manual {handle : Nat} (h : Inv s) (hi : s.installed = true)
    (he : eventFromHandle s handle = some e) (hl : (s.events e).live = true)
    (hm : (s.events e).manualReset = true) :
    (signalEvent s handle).1 = true ∧ Inv (signalEvent s handle).2 ∧
    Ended (s.modEvent e fun event => { event with signaled := true }) (signalEvent s handle).2
      (fun q => Pending s q ∧ (s.waitRecords q).waitable = some e) waitObject0 .signaled ∧
    ((signalEvent s handle).2.events e).waiterCount = 0 ∧
    ∀ d, d ≠ e → (signalEvent s handle).2.events d = s.events d := by
  have hcore := h.toCore.setSignaled e true
  set s1 := s.modEvent e fun event => { event with signaled := true } with hs1
  obtain ⟨h1, h2, h3, h4⟩ := wakeAll_spec (e := e) hcore hi (Nat.le_refl _)
  have heq : signalEvent s handle = (true, wakeAll e (s1.events e).waiterCount s1) := by
    simp [signalEvent, he, hl, hm, hs1]
  have hother : ∀ d, d ≠ e → (wakeAll e (s1.events e).waiterCount s1).events d = s.events d := by
    intro d hd
    rw [h4 d hd]
    simp [hs1, hd]
  rw [heq]
  refine ⟨rfl, ⟨h1, ?_⟩, h2, h3, hother⟩
  intro d hdl hds
  by_cases hd : d = e
  · subst hd
    exact h3
  · simp only [hother d hd] at hdl hds ⊢
    exact h.quiet d hdl hds

/-- A signal on an auto-reset event with waiters ends the wait of the first one. The
event was not set, and it stays so. -/
theorem signalEvent_auto {handle : Nat} (h : Inv s) (hi : s.installed = true)
    (he : eventFromHandle s handle = some e) (hl : (s.events e).live = true)
    (hm : (s.events e).manualReset = false) (hc : (s.events e).waiterCount ≠ 0) :
    (signalEvent s handle).1 = true ∧ Inv (signalEvent s handle).2 ∧
    ∃ r t, (s.events e).waiters 0 = some r ∧ (s.waitRecords r).thread = some t ∧
      Woken s (signalEvent s handle).2 e 0 r t waitObject0 .signaled := by
  have hclear : (s.events e).signaled = false := by
    rw [Bool.eq_false_iff]
    intro hs
    exact hc (h.quiet e hl hs)
  have hsame : (s.modEvent e fun event => { event with signaled := false }) = s := by
    apply State.modEvent_self
    rw [← hclear]
  have heq : signalEvent s handle = (true, wakeWaiter s e 0) := by
    simp [signalEvent, he, hl, hm, hc, hsame]
  obtain ⟨r, t, hr, ht⟩ := h.waits.first_waiter hc
  have hw : Woken s (wakeWaiter s e 0) e 0 r t waitObject0 .signaled :=
    completeWaiter_woken h.toCore hi hr ht
  rw [heq]
  refine ⟨rfl, ⟨hw.core h.toCore hr ht (Or.inl ⟨rfl, rfl⟩), ?_⟩, r, t, hr, ht, hw⟩
  intro d hdl hds
  rw [hw.events] at hdl hds ⊢
  split at hdl
  · rename_i hd
    subst hd
    simp only [if_true, waitersWithout_signaled] at hds
    rw [hclear] at hds
    cases hds
  · rename_i hd
    simp only [hd, if_false] at hds ⊢
    exact h.quiet d hdl hds

/-- A signal on an auto-reset event with no waiter sets it. -/
theorem signalEvent_idle {handle : Nat} (h : Inv s)
    (he : eventFromHandle s handle = some e) (hl : (s.events e).live = true)
    (hm : (s.events e).manualReset = false) (hc : (s.events e).waiterCount = 0) :
    signalEvent s handle = (true, s.modEvent e fun event => { event with signaled := true }) ∧
    Inv (signalEvent s handle).2 := by
  have heq : signalEvent s handle =
      (true, s.modEvent e fun event => { event with signaled := true }) := by
    simp [signalEvent, he, hl, hm, hc]
  refine ⟨heq, ?_⟩
  rw [heq]
  exact h.setSignaled e fun _ => hc

theorem lookupObject_eq_some {handle : Nat} {type : ObjectType} {o : ObjectSlot}
    (h : lookupObject s handle type = some o) :
    s.installed = true ∧ (s.objects o).live = true ∧ (s.objects o).type = type ∧
    decodeHandle handle type = some (o, (s.objects o).generation) := by
  unfold lookupObject at h
  split at h
  · cases h
  · rename_i hi
    split at h
    · cases h
    · rename_i slot generation hd
      split at h
      · cases h
      · rename_i hg
        simp only [Option.some.injEq] at h
        subst h
        simp only [not_or, Decidable.not_not] at hg hi
        refine ⟨by simpa using hi, by simpa using hg.1, hg.2.1, ?_⟩
        rw [hd, hg.2.2]

/-- The event behind a handle is live, and the object of the handle stands for it. -/
theorem eventFromHandle_eq_some {handle : Nat} (h : ObjectInv s)
    (he : eventFromHandle s handle = some e) :
    s.installed = true ∧ (s.events e).live = true ∧
    StandsFor s (s.events e).objectSlot .event (.event e) ∧
    lookupObject s handle .event = some (s.events e).objectSlot := by
  unfold eventFromHandle at he
  split at he
  · cases he
  · rename_i o ho
    obtain ⟨hi, hl, htype, _⟩ := lookupObject_eq_some ho
    have hfit := h.target o hl
    unfold TargetFits at hfit
    rw [htype] at hfit
    obtain ⟨d, htd, hdl, hds, _⟩ := hfit
    simp only [targetEvent, htd, Option.some.injEq] at he
    subst he
    refine ⟨hi, hdl, ?_, by rw [hds]; exact ho⟩
    rw [hds]
    exact ⟨hl, htype, htd⟩

theorem signalEvent_inv (h : Inv s) (handle : Nat) : Inv (signalEvent s handle).2 := by
  cases he : eventFromHandle s handle with
  | none =>
    have : signalEvent s handle = (false, s) := by simp [signalEvent, he]
    rw [this]
    exact h
  | some e =>
    obtain ⟨hi, hl, _⟩ := eventFromHandle_eq_some h.objects he
    cases hm : (s.events e).manualReset with
    | true => exact (signalEvent_manual h hi he hl hm).2.1
    | false =>
      by_cases hc : (s.events e).waiterCount = 0
      · exact (signalEvent_idle h he hl hm hc).2
      · exact (signalEvent_auto h hi he hl hm hc).2.1

theorem resetEvent_eq (h : Inv s) (handle : Nat) :
    (resetEvent s handle = (false, s) ∧ eventFromHandle s handle = none) ∨
    ∃ e, eventFromHandle s handle = some e ∧
      resetEvent s handle = (true, s.modEvent e fun event => { event with signaled := false }) := by
  cases he : eventFromHandle s handle with
  | none => exact Or.inl ⟨by simp [resetEvent, he], rfl⟩
  | some e =>
    obtain ⟨_, hl, _⟩ := eventFromHandle_eq_some h.objects he
    exact Or.inr ⟨e, rfl, by simp [resetEvent, he, hl]⟩

theorem resetEvent_inv (h : Inv s) (handle : Nat) : Inv (resetEvent s handle).2 := by
  rcases resetEvent_eq h handle with ⟨heq, _⟩ | ⟨e, _, heq⟩
  · rw [heq]
    exact h
  · rw [heq]
    exact h.setSignaled e (by simp)

/-! ## Timeouts -/

theorem expired_pending {now : Nat} (h : expired s now r = true) : Pending s r := by
  unfold expired at h
  simp only [Bool.and_eq_true, Bool.not_eq_true'] at h
  exact ⟨h.1.1.1.1, h.1.2⟩

theorem Woken.expired_iff (hw : Woken s s' e i r t completionResult waitResult) {now : Nat}
    {q : RecordSlot} (hq : q ≠ r) : expired s' now q = expired s now q := by
  unfold expired
  rw [hw.records, if_neg hq]
  rfl

theorem timeoutWaiter_woken (h : Core s) (hi : s.installed = true) (hp : Pending s r) :
    ∃ e t, (s.events e).waiters (s.waitRecords r).waiterIndex = some r ∧
      (s.waitRecords r).thread = some t ∧
      Woken s (timeoutWaiter s r) e (s.waitRecords r).waiterIndex r t waitTimeout .timedOut := by
  obtain ⟨t, e, ht, he, hlink, _, _, _, hslot⟩ := h.waits.pending r hp
  refine ⟨e, t, hslot, ht, ?_⟩
  have heq : timeoutWaiter s r =
      completeWaiter s e (s.waitRecords r).waiterIndex waitTimeout .timedOut := by
    simp [timeoutWaiter, he, hlink]
  rw [heq]
  exact completeWaiter_woken h hi hslot ht

/-- The loop over some of the records ends the expired waits among them and counts them. -/
theorem serviceRecords_spec (now : Nat) {k : Nat} {l : List RecordSlot} (h : Core s)
    (hi : s.installed = true) (hl : l.Nodup) :
    (l.foldl (serviceRecord now) (k, s)).1 = k + (l.filter (expired s now)).length ∧
    Core (l.foldl (serviceRecord now) (k, s)).2 ∧
    Ended s (l.foldl (serviceRecord now) (k, s)).2 (fun q => q ∈ l ∧ expired s now q = true)
      waitTimeout .timedOut := by
  induction l generalizing s k with
  | nil => exact ⟨rfl, h, Ended.none (by simp)⟩
  | cons q rest ih =>
    obtain ⟨hq, hrest⟩ := List.nodup_cons.mp hl
    rw [List.foldl_cons]
    by_cases hx : expired s now q = true
    · obtain ⟨e, t, hslot, ht, hw⟩ := timeoutWaiter_woken h hi (expired_pending hx)
      have hcore := hw.core h hslot ht (Or.inr ⟨rfl, rfl⟩)
      have hinst : (timeoutWaiter s q).installed = true := by
        rw [(congrArg State.installed hw.rest :)]
        exact hi
      have hstep : serviceRecord now (k, s) q = (k + 1, timeoutWaiter s q) := by
        simp [serviceRecord, hx]
      have hsame : ∀ p ∈ rest, expired (timeoutWaiter s q) now p = expired s now p := by
        intro p hp
        apply hw.expired_iff
        rintro rfl
        exact hq hp
      rw [hstep]
      obtain ⟨h1, h2, h3⟩ := ih (k := k + 1) hcore hinst hrest
      refine ⟨?_, h2, ?_⟩
      · rw [h1, List.filter_cons_of_pos hx, List.filter_congr hsame, List.length_cons]
        omega
      · apply (hw.andThen h.waits hslot ht h3).congr
        intro p
        by_cases hp : p ∈ rest
        · simp only [hp, hsame p hp, true_and, List.mem_cons, or_true, true_and]
          constructor
          · rintro (rfl | hpx)
            · exact absurd hp hq
            · exact hpx
          · exact Or.inr
        · by_cases hpq : p = q
          · subst hpq
            simp [hx]
          · simp [hp, hpq]
    · have hstep : serviceRecord now (k, s) q = (k, s) := by
        simp [serviceRecord, hx]
      rw [hstep]
      obtain ⟨h1, h2, h3⟩ := ih (k := k) h hi hrest
      refine ⟨by rw [h1, List.filter_cons_of_neg hx], h2, ?_⟩
      apply h3.congr
      intro p
      by_cases hpq : p = q
      · subst hpq
        simp [hx, hq]
      · simp [hpq]

/-- `service_timeouts` ends exactly the expired waits and returns their number. -/
theorem serviceTimeouts_spec (h : Inv s) (now : Nat) :
    (serviceTimeouts s now).1 =
      (if s.installed then (Finset.univ.filter fun r => expired s now r = true).card else 0) ∧
    Inv (serviceTimeouts s now).2 ∧
    Ended s (serviceTimeouts s now).2 (fun q => s.installed = true ∧ expired s now q = true)
      waitTimeout .timedOut := by
  unfold serviceTimeouts
  rw [h.current.active]
  by_cases hi : s.installed = true
  · rw [if_neg (by simp [hi]), if_pos hi]
    obtain ⟨h1, h2, h3⟩ := serviceRecords_spec now (k := 0) h.toCore hi
      (List.nodup_finRange maxWaitRecords)
    refine ⟨?_, ⟨h2, h3.quiet h.quiet⟩, h3.congr (by simp [hi])⟩
    have hset : (Finset.univ.filter fun r => expired s now r = true) =
        ((List.finRange maxWaitRecords).filter (expired s now)).toFinset := by
      ext q
      simp
    rw [h1, Nat.zero_add, hset,
      List.toFinset_card_of_nodup ((List.nodup_finRange maxWaitRecords).filter _)]
  · rw [if_pos (by simp [hi]), if_neg hi]
    exact ⟨rfl, h, Ended.none (by simp [hi])⟩

end Gate4Harness.Scheduler
