-- Each wait that blocked ends once, by a signal or by a timeout, and `finish_wait`
-- reports which one it was. An observer of a run notes for each wait record the
-- handle that it was registered with and the operations that completed it.
import Gate4Harness.SchedulerTokens

namespace Gate4Harness.Scheduler

variable {s s' : State} {e : EventSlot} {r : RecordSlot} {handle : Nat} {op : Op}

/-! ## The observer -/

/-- What ends a wait. -/
inductive Cause
  | signal
  | timeout
  deriving DecidableEq, Repr

/-- What `finish_wait` returns for a wait that ended so. -/
def Cause.result : Cause → WaitResult
  | .signal => .signaled
  | .timeout => .timedOut

/-- The result in the wait record. -/
def Cause.code : Cause → Nat
  | .signal => waitObject0
  | .timeout => waitTimeout

/-- The operations that can complete waits of blocked threads. -/
def completionCause : Op → Option Cause
  | .signalEvent .. | .setEventContract .. => some .signal
  | .serviceTimeouts .. | .pollTimeouts .. | .waitOne .. => some .timeout
  | _ => none

/-- What the observer knows of the wait in one record. -/
structure WaitNote where
  handle : Nat := 0
  completions : Nat := 0
  cause : Option Cause := none
  deriving DecidableEq, Repr

/-- A wait is registered in the record. -/
def registers (s s' : State) (r : RecordSlot) : Bool :=
  !(s.waitRecords r).valid && (s'.waitRecords r).valid

/-- The record is completed, for the first time or with another result. -/
def completes (s s' : State) (r : RecordSlot) : Bool :=
  (s'.waitRecords r).completed && (!(s.waitRecords r).completed ||
    decide ((s'.waitRecords r).completionResult ≠ (s.waitRecords r).completionResult))

/-- A new wait has a new note. Only the first cause of a completion is kept. -/
def noteWaits (s : State) (op : Op) (n : RecordSlot → WaitNote) (r : RecordSlot) : WaitNote :=
  if registers s (step s op) r then { handle := (waitHandle op).getD 0 }
  else if completes s (step s op) r then
    { n r with completions := (n r).completions + 1, cause := (n r).cause.or (completionCause op) }
  else n r

/-- The states of a run, each with the notes on the waits. -/
def WaitRun (s : State) (n : RecordSlot → WaitNote) : Prop :=
  Runs.ReachNoting Started step (fun _ _ => True) (fun _ _ => {}) noteWaits s n

theorem signaledEvent_cause (h : signaledEvent s op = some e) :
    completionCause op = some .signal := by
  cases op <;> first | rfl | cases h

theorem serviceTime_cause {now : Nat} (h : serviceTime s op = some now) :
    completionCause op = some .timeout := by
  cases op <;> first | rfl | cases h

/-! ## The notes are right -/

/-- The record has the result of the cause that is noted, and no other completion came
before or after it. The handle of the wait names the object in the record. -/
structure Noted (record : WaitRecord) (n : WaitNote) : Prop where
  once : n.completions ≤ 1
  waiting : record.valid = true → record.completed = false → n.completions = 0 ∧ n.cause = none
  done : record.completed = true → n.completions = 1 ∧
    ∃ cause, n.cause = some cause ∧ record.completionResult = cause.code
  handle : record.valid = true →
    decodeEventIdentity n.handle = some (record.objectSlot, record.objectGeneration)

/-- A pending wait ends, and the first completion is noted. -/
theorem Noted.complete {n : RecordSlot → WaitNote} {cause : Cause} {k : Nat}
    (hn : Noted (s.waitRecords r) (n r)) (hp : Pending s r)
    (hcause : completionCause op = some cause)
    (hrecord : (step s op).waitRecords r = { s.waitRecords r with
      waiterLinked := false, waiterIndex := k, completed := true,
      completionResult := cause.code }) :
    Noted ((step s op).waitRecords r) (noteWaits s op n r) := by
  obtain ⟨hvalid, hopen⟩ := hp
  obtain ⟨hzero, hnone⟩ := hn.waiting hvalid hopen
  have hnote : noteWaits s op n r = { n r with completions := 1, cause := some cause } := by
    unfold noteWaits registers completes
    rw [hrecord]
    simp [hvalid, hopen, hzero, hnone, hcause]
  rw [hnote, hrecord]
  refine ⟨Nat.le_refl 1, ?_, ?_, ?_⟩
  · intro _ hno
    cases hno
  · intro _
    exact ⟨rfl, cause, rfl, rfl⟩
  · intro _
    exact hn.handle hvalid

theorem step_noted (h : Inv s) {n : RecordSlot → WaitNote} (hn : Noted (s.waitRecords r) (n r))
    (op : Op) : Noted ((step s op).waitRecords r) (noteWaits s op n r) := by
  cases (step_effect h op).record h r with
  | kept k hrecord =>
    have hnote : noteWaits s op n r = n r := by
      unfold noteWaits registers completes
      rw [hrecord]
      simp
    rw [hnote, hrecord]
    exact ⟨hn.once, hn.waiting, hn.done, hn.handle⟩
  | signaled k hp hsignal hrecord =>
    obtain ⟨_, d, _, hd, _⟩ := h.waits.pending r hp
    exact hn.complete hp (signaledEvent_cause (hsignal.trans hd)) hrecord
  | timedOut k now hp htime _ hrecord => exact hn.complete hp (serviceTime_cause htime) hrecord
  | registered handle hfresh hp hop hid =>
    have hnote : noteWaits s op n r = { handle } := by
      unfold noteWaits registers
      simp [hfresh, hp.1, hop]
    rw [hnote]
    refine ⟨Nat.zero_le 1, fun _ _ => ⟨rfl, rfl⟩, ?_, fun _ => hid⟩
    intro hdone
    rw [hp.2] at hdone
    cases hdone
  | finished handle c _ _ _ hdone hblank =>
    have hnote : noteWaits s op n r = n r := by
      unfold noteWaits registers completes
      rw [hblank]
      simp
    rw [hnote, hblank]
    refine ⟨hn.once, ?_, ?_, ?_⟩ <;> intro hno <;> cases hno

theorem waitRun_noted {n : RecordSlot → WaitNote} (h : WaitRun s n) (r : RecordSlot) :
    Noted (s.waitRecords r) (n r) := by
  apply h.invariant (P := fun s n => Noted (s.waitRecords r) (n r))
  · rintro s ⟨i, hi⟩
    have hblank : s.waitRecords r = {} := by rw [(started_unseen hi).waitRecords]; rfl
    rw [hblank]
    refine ⟨Nat.zero_le 1, fun _ _ => ⟨rfl, rfl⟩, ?_, ?_⟩ <;> intro hno <;> cases hno
  · intro s n op hreach hn _
    exact step_noted (reachableBy_inv hreach) hn op

/-! ## The end of a wait -/

/-- The current thread finishes its completed wait, with the handle that names the object
in the record or with 0. -/
theorem finishWait_completed (h : Inv s) {c : ThreadSlot} (hc : s.current = some c)
    (hr : (s.threads c).waitRecord = some r) (hdone : (s.waitRecords r).completed = true)
    (hhandle : handle = 0 ∨ decodeEventIdentity handle =
      some ((s.waitRecords r).objectSlot, (s.waitRecords r).objectGeneration)) :
    (finishWait s handle).1 = (s.threads c).blockedResult := by
  obtain ⟨hlive, hvalid, hthread⟩ := h.waits.owner c r hr
  obtain ⟨_, hfits⟩ := h.waits.result c r hr hdone
  have hi := h.current.installed_of_live hlive
  have haccepts : finishAccepts s c r handle = true := by
    unfold finishAccepts
    rcases hfits with ⟨hb, hcode⟩ | ⟨hb, hcode⟩
    · simp [hvalid, (h.waits.active r hvalid).1, hdone, hthread, hb, hcode, hhandle]
    · simp [hvalid, (h.waits.active r hvalid).1, hdone, hthread, hb, hcode, hhandle]
  have hready : ¬ ((s.threads c).blockedResult ≠ .signaled ∧
      (s.threads c).blockedResult ≠ .timedOut) := by
    rcases hfits with ⟨hb, _⟩ | ⟨hb, _⟩ <;> simp [hb]
  unfold finishWait
  simp only [hi, not_true, if_false, hc]
  rw [if_neg hready]
  simp [hr, haccepts]

theorem ResultFits.cause {blockedResult : WaitResult} {completionResult : Nat} {cause : Cause}
    (h : ResultFits blockedResult completionResult) (hcode : completionResult = cause.code) :
    blockedResult = cause.result := by
  subst hcode
  rcases h with ⟨rfl, hcode⟩ | ⟨rfl, hcode⟩ <;> cases cause <;> first | rfl | cases hcode

/-- A record that no signal and no timeout can touch any more. -/
structure Settled (s : State) (r : RecordSlot) : Prop where
  /-- The record is in no waiter list. -/
  unlisted : ∀ e i, (s.events e).waiters i ≠ some r
  /-- Only its own `finish_wait` changes more of it than the slot of the list. -/
  kept : ∀ op, (∀ handle, op ≠ .finishWait handle) →
    ∃ k, (step s op).waitRecords r = { s.waitRecords r with waiterIndex := k }
  /-- A signal on an auto-reset event goes to another wait, or its token stays. -/
  not_consumed : ∀ op e, signaledEvent s op = some e → (s.events e).manualReset = false →
    (∃ q, q ≠ r ∧ signaledWaits s (step s op) e = {q}) ∨ LeavesToken s (step s op) e

theorem Inv.settled (h : Inv s) (hdone : (s.waitRecords r).completed = true) : Settled s r := by
  have hpending : ¬ Pending s r := by
    rintro ⟨_, hopen⟩
    rw [hdone] at hopen
    cases hopen
  have hvalid : (s.waitRecords r).valid = true := by
    by_contra hno
    rw [h.waits.blank r (by simpa using hno)] at hdone
    cases hdone
  refine ⟨?_, ?_, ?_⟩
  · intro e i hi
    exact hpending (h.waits.listed e i r hi).1
  · intro op hop
    cases (step_effect h op).record h r with
    | kept k hrecord => exact ⟨k, hrecord⟩
    | signaled k hp _ _ => exact absurd hp hpending
    | timedOut k now hp _ _ _ => exact absurd hp hpending
    | registered handle hfresh _ _ _ =>
      rw [hvalid] at hfresh
      cases hfresh
    | finished handle c hfinish _ _ _ _ => exact absurd hfinish (hop handle)
  · intro op e hop hm
    obtain ⟨handle, he, hs⟩ := signaledEvent_step h hop
    rw [hs]
    by_cases hc : (s.events e).waiterCount = 0
    · exact Or.inr (signalEvent_leavesToken h he hm hc)
    · obtain ⟨q, hq, _⟩ := (signalEvent_wakesOne h he hm hc).one
      refine Or.inl ⟨q, ?_, hq⟩
      rintro rfl
      have hmem := mem_signaledWaits.mp (hq ▸ Finset.mem_singleton_self q)
      exact hpending hmem.1.1

/-! ## Timeouts -/

/-- The records whose deadline has passed. -/
def expiredRecords (s : State) (now : Nat) : Finset RecordSlot :=
  Finset.univ.filter fun r => (s.waitRecords r).active = true ∧
    (s.waitRecords r).completed = false ∧ (s.waitRecords r).timeoutArmed = true ∧
    (s.waitRecords r).deadlineMs ≤ now

/-- `service_timeouts` completes these records, leaves the others as they are and returns
how many they are. -/
structure ServicesExpired (s : State) (now : Nat) : Prop where
  count : (serviceTimeouts s now).1 = (expiredRecords s now).card
  ended : ∀ r ∈ expiredRecords s now,
    ((serviceTimeouts s now).2.waitRecords r).completed = true ∧
    ((serviceTimeouts s now).2.waitRecords r).completionResult = waitTimeout
  others : ∀ r, r ∉ expiredRecords s now →
    ∃ k, (serviceTimeouts s now).2.waitRecords r = { s.waitRecords r with waiterIndex := k }

theorem mem_expiredRecords (h : Inv s) {now : Nat} :
    r ∈ expiredRecords s now ↔ expired s now r = true := by
  unfold expiredRecords expired
  simp only [Finset.mem_filter, Finset.mem_univ, true_and, Bool.and_eq_true, Bool.not_eq_true',
    decide_eq_true_eq]
  constructor
  · rintro ⟨hactive, hopen, harmed, hle⟩
    have hvalid : (s.waitRecords r).valid = true := by
      by_contra hno
      rw [h.waits.blank r (by simpa using hno)] at hactive
      cases hactive
    exact ⟨⟨⟨⟨hvalid, hactive⟩, harmed⟩, hopen⟩, hle⟩
  · rintro ⟨⟨⟨⟨_, hactive⟩, harmed⟩, hopen⟩, hle⟩
    exact ⟨hactive, hopen, harmed, hle⟩

/-- While the scheduler is torn down no thread waits. -/
theorem Inv.installed_of_pending (h : Inv s) (hp : Pending s r) : s.installed = true := by
  obtain ⟨t, _, _, _, _, hlive, _⟩ := h.waits.pending r hp
  exact h.current.installed_of_live hlive

theorem Inv.servicesExpired (h : Inv s) (now : Nat) : ServicesExpired s now := by
  obtain ⟨hcount, _, hended⟩ := serviceTimeouts_spec h now
  have hset : (Finset.univ.filter fun r => expired s now r = true) = expiredRecords s now := by
    ext r
    rw [mem_expiredRecords h]
    simp
  have hiff : ∀ r, r ∈ expiredRecords s now ↔ s.installed = true ∧ expired s now r = true := by
    intro r
    rw [mem_expiredRecords h]
    exact ⟨fun hx => ⟨h.installed_of_pending (expired_pending hx), hx⟩, fun hx => hx.2⟩
  refine ⟨?_, ?_, ?_⟩
  · rw [hcount, hset]
    split
    · rfl
    · rename_i hi
      symm
      rw [Finset.card_eq_zero, Finset.eq_empty_iff_forall_notMem]
      intro r hr
      exact hi ((hiff r).mp hr).1
  · intro r hr
    obtain ⟨k, hk⟩ := hended.records r ((hiff r).mp hr)
    rw [hk]
    exact ⟨rfl, rfl⟩
  · intro r hr
    exact hended.other_records r fun hx => hr ((hiff r).mpr hx)

/-! ## Each wait ends once -/

/-- The wait in one record, in a state of a run with the note on it. -/
structure CompletesOnce (s : State) (n : WaitNote) (r : RecordSlot) : Prop where
  once : n.completions ≤ 1
  iff : (s.waitRecords r).valid = true →
    ((s.waitRecords r).completed = true ↔ n.completions = 1)
  finish : ∀ c handle, s.current = some c → (s.threads c).waitRecord = some r →
    (s.waitRecords r).completed = true → (handle = 0 ∨ handle = n.handle) →
    ∃ cause, n.cause = some cause ∧ (s.waitRecords r).completionResult = cause.code ∧
      (finishWait s handle).1 = cause.result
  settled : (s.waitRecords r).completed = true → Settled s r

/-- In every run each wait that blocked is completed at most once, `finish_wait` reports the
first cause, and `service_timeouts` completes the waits whose deadline has passed. -/
theorem each_wait_completes_once {n : RecordSlot → WaitNote} (h : WaitRun s n) :
    (∀ r, CompletesOnce s (n r) r) ∧ ∀ now, ServicesExpired s now := by
  have hinv := reachableBy_inv h.reach
  refine ⟨fun r => ?_, fun now => hinv.servicesExpired now⟩
  have hn := waitRun_noted h r
  refine ⟨hn.once, ?_, ?_, fun hdone => hinv.settled hdone⟩
  · intro hvalid
    refine ⟨fun hdone => (hn.done hdone).1, ?_⟩
    intro hone
    by_contra hopen
    have hzero := (hn.waiting hvalid (by simpa using hopen)).1
    omega
  · intro c handle hc hr hdone hhandle
    obtain ⟨_, cause, hcause, hcode⟩ := hn.done hdone
    refine ⟨cause, hcause, hcode, ?_⟩
    have hown : handle = 0 ∨ decodeEventIdentity handle =
        some ((s.waitRecords r).objectSlot, (s.waitRecords r).objectGeneration) := by
      rcases hhandle with rfl | rfl
      · exact Or.inl rfl
      · exact Or.inr (hn.handle (hinv.waits.owner c r hr).2.1)
    rw [finishWait_completed hinv hc hr hdone hown]
    exact (hinv.waits.result c r hr hdone).2.cause hcode

/-- A worker waits until time 100. The timeout comes first, then a signal, and then the
worker runs again. -/
def sampleRace : List Op :=
  [.configureStackVm .this true true, .createEvent .this 0 0 true, sampleCreate 0x200000,
    .resumeThread (sampleThread 2), .prepareYield true, .armWaitTimeout 100,
    .prepareWaitRecord sampleEvent true, .serviceTimeouts 100, .signalEvent sampleEvent,
    .prepareYield true]

def racedState : State := Runs.run step sampleStart sampleRace

def raceNotes : RecordSlot → WaitNote :=
  (Runs.run (Runs.noting step noteWaits) (sampleStart, fun _ => {}) sampleRace).2

/-- The worker learns of the timeout, and the token of the signal is still there. -/
theorem timeout_wins_sampleRace :
    raceNotes 0 = { handle := sampleEvent, completions := 1, cause := some .timeout } ∧
    (∃ cause, (raceNotes 0).cause = some cause ∧
      (racedState.waitRecords 0).completionResult = cause.code ∧
      (finishWait racedState sampleEvent).1 = cause.result) ∧
    (finishWait racedState sampleEvent).1 = .timedOut ∧ (racedState.events 0).signaled = true := by
  refine ⟨by decide +kernel, ?_, by decide +kernel, by decide +kernel⟩
  have hstart : WaitRun sampleStart fun _ => {} := .start ⟨sampleStart_started, rfl⟩
  have hrun : WaitRun racedState raceNotes :=
    Runs.ReachNoting.run hstart sampleRace fun _ _ _ => trivial
  exact ((each_wait_completes_once hrun).1 0).finish 1 sampleEvent (by decide +kernel)
    (by decide +kernel) (by decide +kernel) (by decide +kernel)

end Gate4Harness.Scheduler
