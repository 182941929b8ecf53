-- The deadlines of the waits. Threads that wait through `wait_one` only never leave a timeout
-- armed for a later wait, so that each wait record has the deadline of its own wait or none.
import Gate4Harness.SchedulerPending

namespace Gate4Harness.Scheduler

variable {s : State} {c : ThreadSlot} {r : RecordSlot} {op : Op}

/-! ## The observer -/

/-- The timeout that a wait was called with: the time that it read and its milliseconds. An
infinite wait has none. -/
def waitTimes : Op → Option (Nat × Nat)
  | .waitOne _ _ milliseconds _ clock _ =>
    if milliseconds = infinite then none else clock.map fun now => (now, milliseconds)
  | _ => none

/-- The timeout of the wait that each record was registered for last. -/
def noteTimes (s : State) (op : Op) (n : RecordSlot → Option (Nat × Nat)) (r : RecordSlot) :
    Option (Nat × Nat) :=
  if registers s (step s op) r then waitTimes op else n r

/-- The states of a run in which threads wait through `wait_one` only, with the notes. -/
def WaitOneRun (s : State) (n : RecordSlot → Option (Nat × Nat)) : Prop :=
  Runs.ReachNoting Started step (fun _ op => waitsDirectly op = false) (fun _ _ => none) noteTimes
    s n

def deadline (times : Option (Nat × Nat)) : Option Nat :=
  times.map fun (now, milliseconds) => deadlineOf now milliseconds

/-- No timeout is armed between two operations, each record has the timeout of its own wait, and
an infinite wait did not time out. -/
structure Timed (s : State) (n : RecordSlot → Option (Nat × Nat)) : Prop where
  disarmed : s.pendingTimeout = none
  fits : ∀ r, (s.waitRecords r).valid = true → Fits (deadline (n r)) (s.waitRecords r)
  endless : ∀ r, n r = none → (s.waitRecords r).completed = true →
    (s.waitRecords r).completionResult ≠ waitTimeout

variable {n : RecordSlot → Option (Nat × Nat)}

theorem le_deadlineOf (now milliseconds : Nat) :
    min (now + milliseconds) uint64Max ≤ deadlineOf now milliseconds := by
  unfold deadlineOf
  split <;> omega

theorem started_timed (h : Started s) : Timed s fun _ => none := by
  obtain ⟨i, hi⟩ := h
  have hblank : ∀ r, s.waitRecords r = {} := by
    intro r
    rw [(started_unseen hi).waitRecords]
    rfl
  refine ⟨?_, ?_, ?_⟩
  · have halloc := allocateObject_pending (bootState i) .thread (.thread 0)
    unfold initializeScheduler at hi
    split at hi
    · cases hi
    · generalize allocateObject (bootState i) .thread (.thread 0) = q at hi halloc
      obtain ⟨found, s1⟩ := q
      cases found with
      | none => cases hi
      | some pair =>
        dsimp only at hi halloc
        have henv := (allocateThreadEnvironment_pending s1 0 i.pages).trans halloc
        generalize allocateThreadEnvironment s1 0 i.pages = p at hi henv
        obtain ⟨furnished, s2⟩ := p
        cases furnished with
        | false => cases hi
        | true =>
          cases hi
          exact henv
  · intro r hvalid
    rw [hblank r] at hvalid
    cases hvalid
  · intro r _ hdone
    rw [hblank r] at hdone
    cases hdone

theorem Inv.arm (h : Inv s) (deadlineMs : Nat) :
    Inv { s with pendingWaitTimeoutArmed := true, pendingWaitDeadlineMs := deadlineMs } :=
  h.unseen ⟨rfl, rfl, rfl, rfl, rfl, rfl, rfl, rfl, fun _ => rfl, rfl, fun _ => rfl, rfl, rfl,
    fun _ => rfl⟩

/-- After `wait_one` no timeout is armed. -/
theorem waitOne_disarmed (h : Inv s) (hs : s.pendingTimeout = none) (contextGiven : Bool)
    (handle milliseconds alertable : Nat) (clock pollClock : Option Nat) :
    (waitOne s contextGiven handle milliseconds alertable clock pollClock).2.pendingTimeout =
      none := by
  have hpath := waitOne_path h contextGiven handle milliseconds alertable clock pollClock
  generalize waitOne s contextGiven handle milliseconds alertable clock pollClock = q at hpath ⊢
  cases hpath with
  | token e => exact (tokenTaken_pending s e).trans hs
  | elapsed _ => exact hs
  | failed s1 error hs1 =>
    refine (setLastError_pending s1 error).trans ?_
    rcases hs1 with rfl | rfl
    · exact hs
    · exact (pollTimeouts_pending s pollClock).trans hs
  | endless e hactive _ _ _ =>
    exact blockCurrent_pending (h.current.active.symm.trans hactive) hactive handle
  | timed e now s1 _ _ _ hs1 he _ =>
    have h1 : Inv s1 := by
      rw [hs1]
      exact pollTimeouts_inv h pollClock
    have hi := (eventFromHandle_eq_some h1.objects he).1
    refine blockCurrent_pending ?_ ?_ handle
    · exact hi
    · exact h1.current.active.trans hi

/-- A record that `wait_one` registers has the timeout of this call. -/
theorem waitOne_registers (h : Inv s) (hs : s.pendingTimeout = none) (contextGiven : Bool)
    (handle milliseconds alertable : Nat) (clock pollClock : Option Nat)
    (hfresh : (s.waitRecords r).valid = false)
    (hvalid : ((step s (.waitOne contextGiven handle milliseconds alertable clock
      pollClock)).waitRecords r).valid = true) :
    Fits (deadline (waitTimes (.waitOne contextGiven handle milliseconds alertable clock
        pollClock)))
      ((step s (.waitOne contextGiven handle milliseconds alertable clock
        pollClock)).waitRecords r) := by
  have hpolled : ((pollTimeouts s pollClock).2.waitRecords r).valid = false := by
    rcases pollTimeouts_serviced s pollClock with heq | ⟨now, _, _, heq⟩
    · rw [heq]
      exact hfresh
    · rw [heq, (serviceTimeouts_spec h now).2.2.valid_eq]
      exact hfresh
  have hpath := waitOne_path h contextGiven handle milliseconds alertable clock pollClock
  change ((waitOne s contextGiven handle milliseconds alertable clock pollClock).2.waitRecords
    r).valid = true at hvalid
  change Fits _
    ((waitOne s contextGiven handle milliseconds alertable clock pollClock).2.waitRecords r)
  generalize waitOne s contextGiven handle milliseconds alertable clock pollClock = q
    at hpath hvalid ⊢
  cases hpath with
  | token e =>
    rw [tokenTaken_records, hfresh] at hvalid
    cases hvalid
  | elapsed _ =>
    rw [hfresh] at hvalid
    cases hvalid
  | failed s1 error hs1 =>
    have hrecords := (setLastError_unseen s1 error).waitRecords
    change ((setLastError s1 error).waitRecords r).valid = true at hvalid
    rw [hrecords] at hvalid
    rcases hs1 with rfl | rfl
    · rw [hfresh] at hvalid
      cases hvalid
    · rw [hpolled] at hvalid
      cases hvalid
  | endless e _ hinfinite he hset =>
    have hfits := (blockCurrent_registers h he hset).2 r hfresh hvalid
    rw [hs] at hfits
    simpa [waitTimes, hinfinite, deadline] using hfits
  | timed e now s1 _ hfinite hclock hs1 he hset =>
    subst hs1
    have hinv := pollTimeouts_inv h pollClock
    have hfits := (blockCurrent_registers (hinv.arm _) he hset).2 r hpolled hvalid
    have hdeadline : deadline (waitTimes (.waitOne contextGiven handle milliseconds alertable clock
        pollClock)) = some (deadlineOf now milliseconds) := by
      simp [waitTimes, hfinite, hclock, deadline]
    rw [hdeadline]
    exact hfits

theorem step_timed (h : Inv s) (ht : Timed s n) (hdirect : waitsDirectly op = false) :
    Timed (step s op) (noteTimes s op n) := by
  have hold : ∀ r, (s.waitRecords r).valid = true → noteTimes s op n r = n r := by
    intro r hvalid
    simp [noteTimes, registers, hvalid]
  refine ⟨?_, ?_, ?_⟩
  · cases op with
    | waitOne a handle m b k l => exact waitOne_disarmed h ht.disarmed a handle m b k l
    | prepareWaitRecord _ _ => cases hdirect
    | _ => exact (step_pending s hdirect rfl).trans ht.disarmed
  · intro r hvalid
    cases (step_effect h op).record h r with
    | kept k hrecord =>
      rw [hrecord] at hvalid ⊢
      rw [hold r hvalid]
      exact ht.fits r hvalid
    | signaled k hp _ hrecord =>
      rw [hrecord, hold r hp.1]
      exact ht.fits r hp.1
    | timedOut k now hp _ _ hrecord =>
      rw [hrecord, hold r hp.1]
      exact ht.fits r hp.1
    | registered handle hfresh hp hop _ =>
      have hnote : noteTimes s op n r = waitTimes op := by
        simp [noteTimes, registers, hfresh, hvalid]
      rw [hnote]
      cases op with
      | waitOne a handle m b k l =>
        exact waitOne_registers h ht.disarmed a handle m b k l hfresh hvalid
      | prepareWaitRecord _ _ => cases hdirect
      | _ => cases hop
    | finished _ _ _ _ _ _ hblank =>
      rw [hblank] at hvalid
      cases hvalid
  · intro r hnote hdone
    cases (step_effect h op).record h r with
    | kept k hrecord =>
      rw [hrecord] at hdone ⊢
      have hvalid : (s.waitRecords r).valid = true := by
        by_contra hno
        rw [h.waits.blank r (by simpa using hno)] at hdone
        cases hdone
      rw [hold r hvalid] at hnote
      exact ht.endless r hnote hdone
    | signaled k hp _ hrecord =>
      rw [hrecord]
      change waitObject0 ≠ waitTimeout
      decide
    | timedOut k now hp _ hexpired hrecord =>
      rw [hold r hp.1] at hnote
      have hfits := ht.fits r hp.1
      rw [hnote] at hfits
      change (s.waitRecords r).timeoutArmed = false at hfits
      simp [expired, hfits] at hexpired
    | registered _ _ hp _ _ =>
      rw [hp.2] at hdone
      cases hdone
    | finished _ _ _ _ _ _ hblank =>
      rw [hblank] at hdone
      cases hdone

theorem waitOneRun_timed (h : WaitOneRun s n) : Timed s n := by
  apply Runs.ReachNoting.invariant (P := Timed) h
  · exact fun s hs => started_timed hs
  · exact fun s n op hreach ht hdirect => step_timed (reachableBy_inv hreach) ht hdirect

/-! ## The laws -/

/-- What a state of such a run promises. -/
structure EndsOnTime (s : State) (n : RecordSlot → Option (Nat × Nat)) : Prop where
  /-- An infinite wait does not return a timeout at once. -/
  at_once : ∀ contextGiven handle alertable clock pollClock,
    (waitOne s contextGiven handle infinite alertable clock pollClock).1 ≠ .returned waitTimeout
  /-- An infinite wait that blocked does not end in a timeout. -/
  endless : ∀ r c handle, n r = none → s.current = some c → (s.threads c).waitRecord = some r →
    (finishWait s handle).1 ≠ .timedOut
  /-- `service_timeouts` completes a wait no sooner than its milliseconds after the time that it
  read. -/
  serviced : ∀ r now, Pending s r → ((serviceTimeouts s now).2.waitRecords r).completed = true →
    ∃ time milliseconds, n r = some (time, milliseconds) ∧
      min (time + milliseconds) uint64Max ≤ now
  /-- No step times a wait out but by servicing the timeouts, of its own or of another call. -/
  timedOut : ∀ op r, Pending s r → ((step s op).waitRecords r).completed = true →
    ((step s op).waitRecords r).completionResult = waitTimeout →
    ∃ now time milliseconds, serviceTime s op = some now ∧ n r = some (time, milliseconds) ∧
      min (time + milliseconds) uint64Max ≤ now
  /-- No timeout is left armed, and a call of `wait_one` leaves none. -/
  disarmed : s.pendingWaitTimeoutArmed = false
  disarms : ∀ contextGiven handle milliseconds alertable clock pollClock,
    (waitOne s contextGiven handle milliseconds alertable clock pollClock).2.pendingWaitTimeoutArmed
      = false

theorem pendingTimeout_none_iff : s.pendingTimeout = none ↔ s.pendingWaitTimeoutArmed = false := by
  unfold State.pendingTimeout
  cases s.pendingWaitTimeoutArmed <;> simp

theorem Timed.expires (ht : Timed s n) {now : Nat} (hexpired : expired s now r = true) :
    ∃ time milliseconds, n r = some (time, milliseconds) ∧
      min (time + milliseconds) uint64Max ≤ now := by
  unfold expired at hexpired
  simp only [Bool.and_eq_true, Bool.not_eq_true', decide_eq_true_eq] at hexpired
  obtain ⟨⟨⟨⟨hvalid, _⟩, harmed⟩, _⟩, hle⟩ := hexpired
  have hfits := ht.fits r hvalid
  cases hn : n r with
  | none =>
    rw [hn] at hfits
    change (s.waitRecords r).timeoutArmed = false at hfits
    rw [harmed] at hfits
    cases hfits
  | some times =>
    obtain ⟨time, milliseconds⟩ := times
    rw [hn] at hfits
    have hdeadline : (s.waitRecords r).deadlineMs = deadlineOf time milliseconds := hfits.2
    exact ⟨time, milliseconds, rfl, (le_deadlineOf time milliseconds).trans (hdeadline ▸ hle)⟩

theorem waitOne_infinite (h : Inv s) (contextGiven : Bool) (handle alertable : Nat)
    (clock pollClock : Option Nat) :
    (waitOne s contextGiven handle infinite alertable clock pollClock).1 ≠
      .returned waitTimeout := by
  have hpath := waitOne_path h contextGiven handle infinite alertable clock pollClock
  generalize waitOne s contextGiven handle infinite alertable clock pollClock = q at hpath ⊢
  cases hpath with
  | token e => simp [waitObject0, waitTimeout]
  | elapsed hzero => cases hzero
  | failed s1 error _ => simp [waitFailure, waitFailed, waitTimeout]
  | endless e _ _ he hset => exact (blockCurrent_registers h he hset).1 _
  | timed _ _ _ _ hfinite _ _ _ _ => exact absurd rfl hfinite

theorem Timed.finishes (ht : Timed s n) (h : Inv s) (hn : n r = none) (hc : s.current = some c)
    (hr : (s.threads c).waitRecord = some r) (handle : Nat) :
    (finishWait s handle).1 ≠ .timedOut := by
  rcases finishWait_cases h handle with heq | ⟨d, hd, hfree, _⟩ |
    ⟨d, q, o, _, hd, hq, hdone, _, heq⟩
  · rw [heq]
    simp
  · rw [hc] at hd
    cases hd
    rw [hr] at hfree
    cases hfree
  · rw [hc] at hd
    cases hd
    rw [hr] at hq
    cases hq
    rw [heq]
    intro htimed
    have htimed : (s.threads c).blockedResult = .timedOut := htimed
    rcases (h.waits.result c r hr hdone).2 with ⟨hb, _⟩ | ⟨_, hcode⟩
    · rw [htimed] at hb
      cases hb
    · exact ht.endless r hn hdone hcode

/-- In every run in which threads wait through `wait_one` only, no infinite wait ends in a
timeout, no finite wait is timed out before its time, and no timeout stays armed. -/
theorem waits_end_on_time (h : WaitOneRun s n) : EndsOnTime s n := by
  have hinv := reachableBy_inv h.reach
  have ht := waitOneRun_timed h
  refine ⟨fun a handle b k l => waitOne_infinite hinv a handle b k l, ?_, ?_, ?_,
    pendingTimeout_none_iff.mp ht.disarmed, ?_⟩
  · intro r c handle hn hc hr
    exact ht.finishes hinv hn hc hr handle
  · intro r now hp hdone
    obtain ⟨_, _, hended⟩ := serviceTimeouts_spec hinv now
    by_cases hr : s.installed = true ∧ expired s now r = true
    · exact ht.expires hr.2
    · obtain ⟨k, hk⟩ := hended.other_records r hr
      rw [hk] at hdone
      change (s.waitRecords r).completed = true at hdone
      rw [hp.2] at hdone
      cases hdone
  · intro op r hp hdone hcode
    cases (step_effect hinv op).record hinv r with
    | kept k hrecord =>
      rw [hrecord] at hdone
      change (s.waitRecords r).completed = true at hdone
      rw [hp.2] at hdone
      cases hdone
    | signaled k _ _ hrecord =>
      rw [hrecord] at hcode
      cases hcode
    | timedOut k now _ htime hexpired _ =>
      obtain ⟨time, milliseconds, hn, hle⟩ := ht.expires hexpired
      exact ⟨now, time, milliseconds, htime, hn, hle⟩
    | registered _ hfresh _ _ _ =>
      rw [hp.1] at hfresh
      cases hfresh
    | finished _ _ _ _ _ hcompleted _ =>
      rw [hp.2] at hcompleted
      cases hcompleted
  · intro a handle m b k l
    exact pendingTimeout_none_iff.mp (waitOne_disarmed hinv ht.disarmed a handle m b k l)

/-- The boot thread waits for 100 milliseconds from time 5 on, and the timeouts are serviced at
time 104. -/
def sampleDeadline : List Op :=
  [.configureStackVm .this true true, .configureClock .this true, .createEvent .this 0 0 true,
    sampleCreate 0x200000, .resumeThread (sampleThread 2),
    .waitOne true sampleEvent 100 0 (some 5) (some 5), .serviceTimeouts 104]

def deadlineState : State := Runs.run step sampleStart sampleDeadline

def deadlineNotes : RecordSlot → Option (Nat × Nat) :=
  (Runs.run (Runs.noting step noteTimes) (sampleStart, fun _ => none) sampleDeadline).2

/-- The wait is still pending at time 104, and it ends at 105. -/
theorem sampleDeadline_ends_on_time :
    deadlineNotes 0 = some (5, 100) ∧ Pending deadlineState 0 ∧
    ((serviceTimeouts deadlineState 105).2.waitRecords 0).completed = true ∧
    EndsOnTime deadlineState deadlineNotes := by
  refine ⟨by decide +kernel, ⟨by decide +kernel, by decide +kernel⟩, by decide +kernel,
    waits_end_on_time ?_⟩
  have hstart : WaitOneRun sampleStart fun _ => none := .start ⟨sampleStart_started, rfl⟩
  exact Runs.ReachNoting.run_along hstart sampleDeadline (by decide +kernel)

end Gate4Harness.Scheduler
