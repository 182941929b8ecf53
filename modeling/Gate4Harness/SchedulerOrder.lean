-- The order in which signals wake the waiters of an auto-reset event. New waiters
-- join at the end of the list and a signal wakes the first one, but a waiter leaves
-- the list by moving the last waiter into its slot. So the order of arrival is kept
-- for as long as no waiter is moved over another one that still waits.
import Gate4Harness.SchedulerCompletion

namespace Gate4Harness.Scheduler

open SlotList

variable {s s' : State} {e : EventSlot} {r : RecordSlot} {handle : Nat} {op : Op}
  {since : RecordSlot → Nat}

/-! ## The observer -/

/-- The observer counts the steps and notes when the wait in each record was registered. -/
structure OrderNote where
  clock : Nat := 0
  since : RecordSlot → Nat := fun _ => 0

def noteOrder (s : State) (op : Op) (n : OrderNote) : OrderNote :=
  { clock := n.clock + 1
    since := fun r => if registers s (step s op) r then n.clock else n.since r }

/-- The states of a run whose steps meet a condition, each with the order of the waits. -/
def OrderRun (ok : State → Op → Prop) (s : State) (n : OrderNote) : Prop :=
  Runs.ReachNoting Started step ok (fun _ => {}) noteOrder s n

/-- A signal on an auto-reset event wakes no waiter while an earlier one still waits. -/
def WakesFirst (s : State) (n : OrderNote) : Prop :=
  ∀ op e r q, signaledEvent s op = some e → (s.events e).manualReset = false →
    r ∈ signaledWaits s (step s op) e → q ∈ waitsOn (step s op) e → n.since r < n.since q

/-- The step moves no waiter of an auto-reset event over another one that still waits: a
signal finds at most two waiters, and a waiter whose time is up has at most one waiter
behind it that stays. -/
structure KeepsOrder (s : State) (op : Op) : Prop where
  signal : ∀ e, signaledEvent s op = some e → (s.events e).manualReset = false →
    (s.events e).waiterCount ≤ 2
  timeouts : ∀ now e i j k r q p, serviceTime s op = some now → (s.events e).live = true →
    (s.events e).manualReset = false → i < j → j < k → (s.events e).waiters i = some r →
    (s.events e).waiters j = some q → (s.events e).waiters k = some p →
    expired s now r = true → expired s now q = false → expired s now p = true

/-! ## Lists in order -/

/-- The waiters stand in the order of their stamps. -/
def InOrder (since : RecordSlot → Nat) (x : Waitable) : Prop :=
  ∀ i j r q, i < j → x.waiters i = some r → x.waiters j = some q → since r < since q

theorem inOrder_iff {x : Waitable} {w : List RecordSlot}
    (h : Holds x.waiters x.waiterCount w) :
    InOrder since x ↔ w.Pairwise fun r q => since r < since q := by
  unfold InOrder
  simp only [h.2, List.getElem?_eq_some_iff, List.pairwise_iff_getElem]
  constructor
  · intro hord i j hi hj hij
    exact hord i j _ _ hij ⟨hi, rfl⟩ ⟨hj, rfl⟩
  · rintro hord i j r q hij ⟨hi, rfl⟩ ⟨hj, rfl⟩
    exact hord i j hi hj hij

/-- With at most two waiters, the first one leaves and the order stays. -/
theorem InOrder.withoutFirst {x : Waitable} (hc : x.waiterCount ≤ 2)
    (hempty : ∀ i, x.waiterCount ≤ i → x.waiters i = none) :
    InOrder since (waitersWithout x 0) := by
  intro i j r q hij hr hq
  have hnone : (waitersWithout x 0).waiters j = none := by
    rw [waitersWithout_waiters]
    by_cases hj : j = x.waiterCount - 1
    · subst hj
      rw [Function.update_self]
    · rw [Function.update_of_ne hj, Function.update_of_ne (by omega)]
      exact hempty j (by omega)
  rw [hnone] at hq
  cases hq

/-! ## The loop over the timeouts -/

/-- The loop takes waiters out of the list of `e`, and those that stay keep their order. -/
theorem serviceRecords_order (now : Nat) {k : Nat} {l : List RecordSlot} {w : List RecordSlot}
    {stay : RecordSlot → Bool} (h : Core s) (hi : s.installed = true) (hl : l.Nodup)
    (hstay : ∀ q ∈ l, expired s now q = true → stay q = false)
    (hw : Holds (s.events e).waiters (s.events e).waiterCount w) (hone : OneStaysBehind stay w) :
    ∃ w', Holds ((l.foldl (serviceRecord now) (k, s)).2.events e).waiters
        ((l.foldl (serviceRecord now) (k, s)).2.events e).waiterCount w' ∧
      w'.filter stay = w.filter stay := by
  induction l generalizing s k w with
  | nil => exact ⟨w, hw, rfl⟩
  | cons q rest ih =>
    obtain ⟨hq, hrest⟩ := List.nodup_cons.mp hl
    rw [List.foldl_cons]
    by_cases hx : expired s now q = true
    · obtain ⟨d, t, hslot, ht, hwoken⟩ := timeoutWaiter_woken h hi (expired_pending hx)
      have hcore := hwoken.core h hslot ht (Or.inr ⟨rfl, rfl⟩)
      have hinst : (timeoutWaiter s q).installed = true := by
        rw [(congrArg State.installed hwoken.rest :)]
        exact hi
      have hstep : serviceRecord now (k, s) q = (k + 1, timeoutWaiter s q) := by
        simp [serviceRecord, hx]
      have hlater : ∀ p ∈ rest, expired (timeoutWaiter s q) now p = true → stay p = false := by
        intro p hp hpx
        rw [hwoken.expired_iff (by rintro rfl; exact hq hp)] at hpx
        exact hstay p (by simp [hp]) hpx
      rw [hstep]
      by_cases hd : e = d
      · subst hd
        have hout := hw.swapOut (hw.lt_count hslot)
        rw [hw.2] at hslot
        obtain ⟨hone', hsame⟩ := hone.swapOut hslot (hstay q (by simp) hx)
        have hw' : Holds ((timeoutWaiter s q).events e).waiters
            ((timeoutWaiter s q).events e).waiterCount
            (SlotList.swapOut w (s.waitRecords q).waiterIndex) := by
          rw [hwoken.events, if_pos rfl]
          exact hout
        obtain ⟨w', h1, h2⟩ := ih hcore hinst hrest hlater hw' hone'
        exact ⟨w', h1, h2.trans hsame⟩
      · have hw' : Holds ((timeoutWaiter s q).events e).waiters
            ((timeoutWaiter s q).events e).waiterCount w := by
          rw [hwoken.events, if_neg hd]
          exact hw
        exact ih hcore hinst hrest hlater hw' hone
    · have hstep : serviceRecord now (k, s) q = (k, s) := by
        simp [serviceRecord, hx]
      rw [hstep]
      exact ih h hi hrest (fun p hp => hstay p (by simp [hp])) hw hone

/-- The waiters that stay are in order after the timeouts up to `now` are serviced. -/
theorem serviceTimeouts_inOrder (h : Inv s) (now : Nat) (hord : InOrder since (s.events e))
    (hbehind : ∀ i j k r q p, i < j → j < k → (s.events e).waiters i = some r →
      (s.events e).waiters j = some q → (s.events e).waiters k = some p →
      expired s now r = true → expired s now q = false → expired s now p = true) :
    InOrder since ((serviceTimeouts s now).2.events e) := by
  have hspec := serviceTimeouts_spec h now
  by_cases hi : s.installed = true
  · obtain ⟨w, hw⟩ := h.waits.lists e
    have hone : OneStaysBehind (fun r => !expired s now r) w := by
      apply OneStaysBehind.of_slots
      intro i j k r q p hij hjk hr hq hp
      rw [← hw.2] at hr hq hp
      have := hbehind i j k r q p hij hjk hr hq hp
      simpa using this
    obtain ⟨w', hw', hsame⟩ := serviceRecords_order now (k := 0) h.toCore hi
      (List.nodup_finRange maxWaitRecords) (fun q _ hx => by simp [hx]) hw hone
    have heq : serviceTimeouts s now =
        (List.finRange maxWaitRecords).foldl (serviceRecord now) (0, s) := by
      unfold serviceTimeouts
      rw [if_neg (by simp [hi, h.current.active])]
    rw [← heq] at hw'
    -- A record that is still in the list has not expired.
    have hall : w'.filter (fun r => !expired s now r) = w' := by
      rw [List.filter_eq_self]
      intro r hr
      obtain ⟨i, _, hri⟩ := hw'.mem_iff.mp hr
      have hp := (hspec.2.1.waits.listed e i r hri).1
      have hno := ((hspec.2.2.pending_iff r).mp hp).2
      simpa [hi] using hno
    rw [inOrder_iff hw', ← hall, hsame]
    exact ((inOrder_iff hw).mp hord).sublist List.filter_sublist
  · have heq : (serviceTimeouts s now).2 = s := by
      unfold serviceTimeouts
      rw [if_pos (by simp [hi])]
    rw [heq]
    exact hord

/-! ## Whole runs -/

/-- The waiters of each auto-reset event stand in the order in which they were registered,
and the stamps are in the past. -/
structure Ordered (s : State) (n : OrderNote) : Prop where
  lists : ∀ e, (s.events e).live = true → (s.events e).manualReset = false →
    InOrder n.since (s.events e)
  stamps : ∀ r, (s.waitRecords r).valid = true → n.since r < n.clock

theorem noteOrder_since (n : OrderNote) (h : (s.waitRecords r).valid = true) :
    (noteOrder s op n).since r = n.since r := by
  simp [noteOrder, registers, h]

/-- A step that registers no wait, and after which the lists are in order by the old stamps. -/
theorem Ordered.note {n : OrderNote} (hn : Ordered s n) (h' : Inv (step s op))
    (hvalid : ∀ r, ((step s op).waitRecords r).valid = true → (s.waitRecords r).valid = true)
    (hlists : ∀ e, ((step s op).events e).live = true →
      ((step s op).events e).manualReset = false → InOrder n.since ((step s op).events e)) :
    Ordered (step s op) (noteOrder s op n) := by
  refine ⟨?_, ?_⟩
  · intro e hl ha i j r q hij hr hq
    have hrv := hvalid r (h'.waits.listed e i r hr).1.1
    have hqv := hvalid q (h'.waits.listed e j q hq).1.1
    rw [noteOrder_since n hrv, noteOrder_since n hqv]
    exact hlists e hl ha i j r q hij hr hq
  · intro r hr
    rw [noteOrder_since n (hvalid r hr)]
    have := hn.stamps r (hvalid r hr)
    simp only [noteOrder]
    omega

/-- Timeouts are serviced, and then the events are left alone. -/
theorem Ordered.serviced {n : OrderNote} {s1 : State} (hn : Ordered s n) (h : Inv s)
    (hop : KeepsOrder s op) (hserv : Serviced s op s1) (hstill : Still s1 s') (e : EventSlot)
    (hl : (s'.events e).live = true) (ha : (s'.events e).manualReset = false) :
    InOrder n.since (s'.events e) := by
  obtain ⟨hlive, hflags⟩ := hserv.flags h hstill e
  rw [hlive] at hl
  rw [(hflags hl).1] at ha
  have hord : InOrder n.since (s1.events e) := by
    rcases hserv with rfl | ⟨now, hnow, rfl⟩
    · exact hn.lists e hl ha
    · exact serviceTimeouts_inOrder h now (hn.lists e hl ha) fun i j k r q p =>
        hop.timeouts now e i j k r q p hnow hl ha
  unfold InOrder
  rw [(Waitable.view_eq (hstill.events e)).1]
  exact hord

theorem Serviced.valid {s1 : State} (h : Inv s) (hserv : Serviced s op s1) (hstill : Still s1 s')
    (r : RecordSlot) : (s'.waitRecords r).valid = (s.waitRecords r).valid := by
  obtain ⟨ended, hended, _⟩ := hserv.ended h
  rw [hstill.records]
  exact hended.valid_eq r

/-- A thread joins the waiters of an event. -/
theorem Ordered.blocked {n : OrderNote} {s1 s2 : State} {c : ThreadSlot} (hn : Ordered s n)
    (h : Inv s) (hop : KeepsOrder s op) (hserv : Serviced s op s1) (hstill : Still s1 s2)
    (hinv : Inv s2) (hblocks : Blocks s2 (step s op) handle c e r) :
    Ordered (step s op) (noteOrder s op n) := by
  obtain ⟨x, hx, hxv, _⟩ := hblocks.record
  have hvalid := fun q => hserv.valid h hstill q
  have hfresh : (s.waitRecords r).valid = false := by
    rw [← hvalid r]
    exact hblocks.fresh
  have hnew : (noteOrder s op n).since r = n.clock := by
    simp [noteOrder, registers, hfresh, hx, hxv]
  have hold : ∀ q, (s2.waitRecords q).valid = true →
      (noteOrder s op n).since q = n.since q ∧ n.since q < n.clock := by
    intro q hq
    rw [hvalid q] at hq
    exact ⟨noteOrder_since n hq, hn.stamps q hq⟩
  have hlisted : ∀ d i q, (s2.events d).waiters i = some q → (s2.waitRecords q).valid = true :=
    fun d i q hq => (hinv.waits.listed d i q hq).1.1
  have hlists : ∀ d, (s2.events d).live = true → (s2.events d).manualReset = false →
      InOrder (noteOrder s op n).since (s2.events d) := by
    intro d hl ha i j q p hij hq hp
    rw [(hold q (hlisted d i q hq)).1, (hold p (hlisted d j p hp)).1]
    exact hn.serviced h hop hserv hstill d hl ha i j q p hij hq hp
  refine ⟨?_, ?_⟩
  · intro d hl ha
    rw [hblocks.events] at hl ha ⊢
    by_cases hd : d = e
    · subst hd
      rw [Function.update_self] at hl ha ⊢
      intro i j q p hij hq hp
      simp only [Function.update_apply] at hq hp
      split at hp
      · rw [if_neg (by omega)] at hq
        cases hp
        rw [hnew, (hold q (hlisted d i q hq)).1]
        exact (hold q (hlisted d i q hq)).2
      · rename_i hj
        have hlt := hinv.waits.lt_count hp
        rw [if_neg (by omega)] at hq
        exact hlists d hl ha i j q p hij hq hp
    · rw [Function.update_of_ne hd] at hl ha ⊢
      exact hlists d hl ha
  · intro q hq
    have hclock : (noteOrder s op n).clock = n.clock + 1 := rfl
    rw [hclock]
    by_cases hqr : q = r
    · subst hqr
      rw [hnew]
      omega
    · rw [hx, Function.update_of_ne hqr] at hq
      have := hold q hq
      omega

/-- The flag of an event does not count for the order. -/
theorem Ordered.cleared {n : OrderNote} (hn : Ordered s n) (d : EventSlot) :
    Ordered (s.modEvent d fun event => { event with signaled := false }) n := by
  refine ⟨?_, hn.stamps⟩
  intro e hl ha
  rw [view_modEvent Waitable.live s d (by rfl)] at hl
  rw [view_modEvent Waitable.manualReset s d (by rfl)] at ha
  unfold InOrder
  rw [view_modEvent Waitable.waiters s d (by rfl)]
  exact hn.lists e hl ha

theorem Ordered.tokenTaken {n : OrderNote} (hn : Ordered s n) (d : EventSlot) :
    Ordered (tokenTaken s d) n := by
  unfold Scheduler.tokenTaken
  split
  · exact hn
  · exact hn.cleared d

theorem signalEvent_inOrder (h : Inv s) (he : eventFromHandle s handle = some e)
    (hc : (s.events e).waiterCount ≤ 2) (hm : (s.events e).manualReset = false)
    (hord : InOrder since (s.events e)) :
    InOrder since ((signalEvent s handle).2.events e) := by
  obtain ⟨hi, hl, _⟩ := eventFromHandle_eq_some h.objects he
  by_cases hzero : (s.events e).waiterCount = 0
  · rw [(signalEvent_idle h he hl hm hzero).1]
    simpa [InOrder] using hord
  · obtain ⟨_, _, q, t, _, _, hw⟩ := signalEvent_auto h hi he hl hm hzero
    obtain ⟨w, hholds⟩ := h.waits.lists e
    rw [hw.events, if_pos rfl]
    exact InOrder.withoutFirst hc fun i hi => hholds.none_of_le hi

theorem step_ordered {n : OrderNote} (h : Inv s) (hn : Ordered s n) (hop : KeepsOrder s op) :
    Ordered (step s op) (noteOrder s op n) := by
  have h' := step_inv h op
  have heffect := step_effect h op
  have hquiet : waitHandle op = none → ∀ r, ((step s op).waitRecords r).valid = true →
      (s.waitRecords r).valid = true := by
    intro hno r hr
    cases heffect.record h r with
    | kept k hrecord => rw [hrecord] at hr; exact hr
    | signaled k hp _ _ => exact hp.1
    | timedOut k now hp _ _ _ => exact hp.1
    | registered handle _ _ hwait _ => rw [hno] at hwait; cases hwait
    | finished handle c _ _ _ _ hblank => rw [hblank] at hr; cases hr
  cases heffect with
  | quiet s1 hserv hstill hidle =>
    refine hn.note h' (fun r hr => ?_) (hn.serviced h hop hserv hstill)
    rw [← hserv.valid h hstill r]
    exact hr
  | created d x hdead hlive hempty hrecords hevents hidle =>
    refine hn.note h' (fun r hr => by rw [← hrecords]; exact hr) ?_
    intro e hl ha
    rw [hevents] at hl ha ⊢
    by_cases he : e = d
    · subst he
      rw [Function.update_self]
      intro i j r q _ hr
      rw [hempty] at hr
      cases hr
    · rw [Function.update_of_ne he] at hl ha ⊢
      exact hn.lists e hl ha
  | destroyed d hlive hrecords hevents hidle =>
    refine hn.note h' (fun r hr => by rw [← hrecords]; exact hr) ?_
    intro e hl ha
    rw [hevents] at hl ha ⊢
    by_cases he : e = d
    · subst he
      rw [Function.update_self] at hl
      cases hl
    · rw [Function.update_of_ne he] at hl ha ⊢
      exact hn.lists e hl ha
  | signaled handle d he hs hsignal hclear htaken =>
    have hwait : waitHandle op = none := by
      cases op <;> first | rfl | cases hsignal
    refine hn.note h' (hquiet hwait) ?_
    intro e hl ha
    rw [hs] at hl ha ⊢
    by_cases hd : e = d
    · subst hd
      obtain ⟨_, hlive, _⟩ := eventFromHandle_eq_some h.objects he
      rw [(signalEvent_keeps h he).2] at ha
      exact signalEvent_inOrder h he (hop.signal e hsignal ha) ha (hn.lists e hlive ha)
    · rw [signalEvent_other h he hd] at hl ha ⊢
      exact hn.lists e hl ha
  | cleared handle d he hs hclear hsignal htaken =>
    refine hn.note h' (fun r hr => by rw [hs] at hr; exact hr) ?_
    rw [hs]
    exact (hn.cleared d).lists
  | taken handle d he hset hs htaken hsignal hclear =>
    refine hn.note h' (fun r hr => ?_) ?_
    · rw [hs.records, tokenTaken_records] at hr
      exact hr
    · intro e hl ha
      obtain ⟨hlive, hflags⟩ := hs.flags e
      rw [hlive] at hl
      rw [(hflags hl).1] at ha
      unfold InOrder
      rw [(Waitable.view_eq (hs.events e)).1]
      exact (hn.tokenTaken d).lists e hl ha
  | blocked handle s1 s2 c d r hserv hstill hinv hblocks hwait hidle =>
    exact hn.blocked h hop hserv hstill hinv hblocks
  | finished c r o hfinish hc hr hcompleted hs hidle =>
    obtain ⟨handle, rfl⟩ := hfinish
    refine hn.note h' (hquiet rfl) ?_
    intro e hl ha
    rw [hs] at hl ha ⊢
    exact hn.lists e hl ha

theorem orderRun_ordered {n : OrderNote} (h : OrderRun KeepsOrder s n) : Ordered s n := by
  apply h.invariant (P := Ordered)
  · rintro s ⟨i, hi⟩
    refine ⟨?_, ?_⟩
    · intro e hlive
      have hsame := (Waitable.view_eq ((started_unseen hi).events e)).2.2.1
      rw [hlive] at hsame
      cases hsame
    · intro r hr
      rw [(started_unseen hi).waitRecords] at hr
      cases hr
  · intro s n op hreach hn hop
    exact step_ordered (reachableBy_inv hreach) hn hop

/-! ## The order of the wakes -/

/-- The first of the waiters in order is woken. -/
theorem Ordered.wakesFirst {n : OrderNote} (hn : Ordered s n) (h : Inv s) : WakesFirst s n := by
  intro op e r q hop hm hr hq
  obtain ⟨handle, he, hs⟩ := signaledEvent_step h hop
  obtain ⟨hi, hl, _⟩ := eventFromHandle_eq_some h.objects he
  rw [hs] at hr hq
  obtain ⟨⟨hp, hwaitable⟩, hdone, _⟩ := mem_signaledWaits.mp hr
  obtain ⟨hpq, hwaitableq⟩ := mem_waitsOn.mp hq
  have hc : (s.events e).waiterCount ≠ 0 := by
    intro hzero
    exact (h.waits.waiting_iff e).mp hzero r ⟨hp, hwaitable⟩
  obtain ⟨_, _, first, t, hfirst, ht, hw⟩ := signalEvent_auto h hi he hl hm hc
  have hended := hw.ended h.waits hfirst ht
  obtain rfl : r = first := by
    by_contra hne
    obtain ⟨k, hk⟩ := hended.other_records r hne
    rw [hk] at hdone
    simp [hp.2] at hdone
  obtain ⟨hpq, hne⟩ := (hended.pending_iff q).mp hpq
  obtain ⟨k, hk⟩ := hended.other_records q hne
  rw [hk] at hwaitableq
  obtain ⟨_, d, _, hd, _, _, _, _, hslot⟩ := h.waits.pending q hpq
  obtain rfl : e = d := Option.some.inj (hwaitableq.symm.trans hd)
  refine hn.lists e hl hm 0 (s.waitRecords q).waiterIndex r q ?_ hfirst hslot
  rw [Nat.pos_iff_ne_zero]
  intro hzero
  rw [hzero, hfirst] at hslot
  exact hne (Option.some.inj hslot).symm

/-- In a run in which no waiter is moved over another one, the waiters of an auto-reset
event are woken in the order in which they came. -/
theorem waiters_wake_in_order {n : OrderNote} (h : OrderRun KeepsOrder s n) : WakesFirst s n :=
  (orderRun_ordered h).wakesFirst (reachableBy_inv h.reach)

/-- Three workers start and wait, one after the other, for one auto-reset event. -/
def sampleLine : List Op :=
  [.configureStackVm .this true true, .createEvent .this 0 0 true, sampleCreate 0x200000,
    sampleCreate 0x300000, sampleCreate 0x400000, .resumeThread (sampleThread 2),
    .resumeThread (sampleThread 3), .resumeThread (sampleThread 4), .prepareYield true,
    .prepareWaitRecord sampleEvent true, .prepareWaitRecord sampleEvent true,
    .prepareWaitRecord sampleEvent true]

def lineState : State := Runs.run step sampleStart sampleLine

def lineNotes : OrderNote :=
  (Runs.run (Runs.noting step noteOrder) (sampleStart, {}) sampleLine).2

theorem lineState_reached (ok : State → Op → Prop) (hok : ∀ s, ∀ op ∈ sampleLine, ok s op) :
    OrderRun ok lineState lineNotes := by
  have hstart : OrderRun ok sampleStart {} := .start ⟨sampleStart_started, rfl⟩
  exact Runs.ReachNoting.run hstart sampleLine hok

/-- The first signal wakes the worker that came first, before the second one. -/
theorem sampleLine_wakes_in_order :
    lineNotes.since 0 < lineNotes.since 1 ∧ WakesFirst lineState lineNotes := by
  have hrun : OrderRun KeepsOrder lineState lineNotes := by
    apply lineState_reached
    intro s op hop
    have hnone : signaledEvent s op = none ∧ serviceTime s op = none := by
      simp only [sampleLine, sampleCreate, List.mem_cons, List.not_mem_nil, or_false] at hop
      rcases hop with rfl | rfl | rfl | rfl | rfl | rfl | rfl | rfl | rfl | rfl | rfl | rfl <;>
        exact ⟨rfl, rfl⟩
    refine ⟨?_, ?_⟩
    · intro e he
      rw [hnone.1] at he
      cases he
    · intro now e i j k r q p hnow
      rw [hnone.2] at hnow
      cases hnow
  have hfirst := waiters_wake_in_order hrun
  refine ⟨?_, hfirst⟩
  exact hfirst (.signalEvent sampleEvent) 0 0 1 (by decide +kernel) (by decide +kernel)
    (by decide +kernel) (by decide +kernel)

/-- The state of the line after one signal. -/
def overtakenState : State := step lineState (.signalEvent sampleEvent)

def overtakenNotes : OrderNote := noteOrder lineState (.signalEvent sampleEvent) lineNotes

/-- The first signal moved the third worker in front of the second one, so the next signal
wakes the third while the second still waits. -/
theorem second_signal_wakes_the_third_waiter :
    OrderRun (fun _ _ => True) overtakenState overtakenNotes ∧
    ¬ WakesFirst overtakenState overtakenNotes := by
  refine ⟨(lineState_reached _ fun _ _ _ => trivial).next trivial, ?_⟩
  intro h
  have hlt := h (.signalEvent sampleEvent) 0 2 1 (by decide +kernel) (by decide +kernel)
    (by decide +kernel) (by decide +kernel)
  revert hlt
  decide +kernel

end Gate4Harness.Scheduler
