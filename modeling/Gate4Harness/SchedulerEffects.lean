-- What one step can do to the events and the waits. The laws about whole runs of
-- signals, timeouts and waits go through the cases of this module, and not through
-- the code of the operations again.
import Gate4Harness.SchedulerContexts

namespace Gate4Harness.Scheduler

variable {s s' : State} {c : ThreadSlot} {o : ObjectSlot} {e : EventSlot} {r : RecordSlot}
  {handle : Nat} {op : Op}

/-! ## What a step is about -/

/-- The event that a step signals. -/
def signaledEvent (s : State) : Op → Option EventSlot
  | .signalEvent handle => eventFromHandle s handle
  | .setEventContract contextGiven handle =>
    if contextGiven ∧ s.active ∧ openEvent s handle ≠ none then eventFromHandle s handle else none
  | _ => none

/-- The event that a step resets. -/
def clearedEvent (s : State) : Op → Option EventSlot
  | .resetEvent handle => eventFromHandle s handle
  | .resetEventContract contextGiven handle =>
    if contextGiven ∧ s.active ∧ openEvent s handle ≠ none then eventFromHandle s handle else none
  | _ => none

/-- The event on which a wait ends at once, without a switch. -/
def takenEvent (s : State) : Op → Option EventSlot
  | .prepareWaitRecord handle planOut =>
    if (prepareWaitRecord s handle planOut).1.result = .signaled then eventFromHandle s handle
    else none
  | .waitOne contextGiven handle milliseconds alertable clock pollClock =>
    if (waitOne s contextGiven handle milliseconds alertable clock pollClock).1 =
        .returned waitObject0 then eventFromHandle s handle
    else none
  | _ => none

/-- A call of `wait_one` that gets as far as its `poll_timeouts`: the event is open and not
set, and the wait is a timed one. -/
def waitPolls (s : State) (contextGiven : Bool) (handle milliseconds alertable : Nat)
    (clock : Option Nat) : Bool :=
  contextGiven && s.active && decide (alertable = 0) && decide (milliseconds ≠ 0) &&
  decide (milliseconds ≠ infinite) && clock.isSome && s.config.nowMs &&
  (openEvent s handle).any fun e => !(s.events e).signaled

/-- The time up to which a step services timeouts. -/
def serviceTime (s : State) : Op → Option Nat
  | .serviceTimeouts now => some now
  | .pollTimeouts clock => if s.config.nowMs then clock else none
  | .waitOne contextGiven handle milliseconds alertable clock pollClock =>
    if waitPolls s contextGiven handle milliseconds alertable clock then pollClock else none
  | _ => none

/-- The handle that a step waits on. -/
def waitHandle : Op → Option Nat
  | .prepareWaitRecord handle _ => some handle
  | .waitOne _ handle _ _ _ _ => some handle
  | _ => none

/-- The step neither signals nor resets an event, and it ends no wait at once. -/
structure Idle (s : State) (op : Op) : Prop where
  signaled : signaledEvent s op = none
  cleared : clearedEvent s op = none
  taken : takenEvent s op = none

/-- The timeouts up to some time were serviced, or nothing happened yet. -/
def Serviced (s : State) (op : Op) (s' : State) : Prop :=
  s' = s ∨ ∃ now, serviceTime s op = some now ∧ s' = (serviceTimeouts s now).2

/-- A thread starts to wait at the end of the list of an event. -/
structure Blocks (s s' : State) (handle : Nat) (c : ThreadSlot) (e : EventSlot) (r : RecordSlot) :
    Prop where
  event : eventFromHandle s handle = some e
  unset : (s.events e).signaled = false
  unwaiting : (s.threads c).waitRecord = none
  fresh : (s.waitRecords r).valid = false
  record : ∃ x : WaitRecord, s'.waitRecords = Function.update s.waitRecords r x ∧
    x.valid = true ∧ x.completed = false ∧ x.thread = some c ∧ x.waitable = some e ∧
    decodeEventIdentity handle = some (x.objectSlot, x.objectGeneration)
  events : s'.events = Function.update s.events e
    { s.events e with
      waiters := Function.update (s.events e).waiters (s.events e).waiterCount (some r)
      waiterCount := (s.events e).waiterCount + 1 }

/-! ## The cases -/

/-- What a step does to the events and the waits. -/
inductive WaitEffect (s : State) (op : Op) (s' : State) : Prop
  | quiet (s1 : State) (hserv : Serviced s op s1) (hstill : Still s1 s') (hidle : Idle s op)
  | created (e : EventSlot) (x : Waitable) (hdead : (s.events e).live = false)
      (hlive : x.live = true) (hempty : ∀ i, x.waiters i = none)
      (hrecords : s'.waitRecords = s.waitRecords)
      (hevents : s'.events = Function.update s.events e x) (hidle : Idle s op)
  | destroyed (e : EventSlot) (hlive : (s.events e).live = true)
      (hrecords : s'.waitRecords = s.waitRecords)
      (hevents : s'.events = Function.update s.events e { s.events e with live := false })
      (hidle : Idle s op)
  | signaled (handle : Nat) (e : EventSlot) (he : eventFromHandle s handle = some e)
      (hs : s' = (signalEvent s handle).2) (hsignal : signaledEvent s op = some e)
      (hclear : clearedEvent s op = none) (htaken : takenEvent s op = none)
  | cleared (handle : Nat) (e : EventSlot) (he : eventFromHandle s handle = some e)
      (hs : s' = s.modEvent e fun event => { event with signaled := false })
      (hclear : clearedEvent s op = some e) (hsignal : signaledEvent s op = none)
      (htaken : takenEvent s op = none)
  | taken (handle : Nat) (e : EventSlot) (he : eventFromHandle s handle = some e)
      (hset : (s.events e).signaled = true) (hs : Still (tokenTaken s e) s')
      (htaken : takenEvent s op = some e) (hsignal : signaledEvent s op = none)
      (hclear : clearedEvent s op = none)
  | blocked (handle : Nat) (s1 s2 : State) (c : ThreadSlot) (e : EventSlot) (r : RecordSlot)
      (hserv : Serviced s op s1) (hstill : Still s1 s2) (hinv : Inv s2)
      (hblocks : Blocks s2 s' handle c e r) (hop : waitHandle op = some handle)
      (hidle : Idle s op)
  | finished (c : ThreadSlot) (r : RecordSlot) (o : ObjectSlot)
      (hop : ∃ handle, op = .finishWait handle) (hc : s.current = some c)
      (hr : (s.threads c).waitRecord = some r) (hcompleted : (s.waitRecords r).completed = true)
      (hs : s' = waitFinished s c r o) (hidle : Idle s op)

/-! ## The operations -/

theorem touchesWaits_idle (h : touchesWaits op = false) : Idle s op := by
  cases op <;> first | exact ⟨rfl, rfl, rfl⟩ | cases h

theorem WaitEffect.still (h : Still s s') (hidle : Idle s op) : WaitEffect s op s' :=
  .quiet s (Or.inl rfl) h hidle

theorem openEvent_eq_some (h : openEvent s handle = some e) :
    eventFromHandle s handle = some e := by
  unfold openEvent at h
  cases ho : objectFromHandle s handle with
  | none => simp [ho] at h
  | some o =>
    simp only [ho] at h
    split at h
    · cases h
    · rename_i hg
      simp only [not_or, ne_eq, Decidable.not_not] at hg
      have hlookup := objectFromHandle_event ho hg.1
      cases ht : targetEvent s o with
      | none => simp [ht] at h
      | some d =>
        simp only [ht] at h
        split at h
        · cases h
        · simpa [eventFromHandle, hlookup, ht] using h

theorem eventFromHandle_congr (hi : s'.installed = s.installed) (ho : s'.objects = s.objects)
    (handle : Nat) : eventFromHandle s' handle = eventFromHandle s handle := by
  simp only [eventFromHandle, lookupObject, targetEvent, hi, ho]

theorem prepareWaitRecord_blocks (h : Inv s) (handle : Nat) (planOut : Bool) :
    ((prepareWaitRecord s handle planOut).1.result = .failure ∧
      Still s (prepareWaitRecord s handle planOut).2) ∨
    (∃ e, eventFromHandle s handle = some e ∧ (s.events e).signaled = true ∧
      (prepareWaitRecord s handle planOut).1.result = .signaled ∧
      Still (tokenTaken s e) (prepareWaitRecord s handle planOut).2) ∨
    ∃ c e r, (prepareWaitRecord s handle planOut).1.result = .blocked ∧
      Blocks s (prepareWaitRecord s handle planOut).2 handle c e r := by
  rcases prepareWaitRecord_cases h handle planOut with ⟨hreply, hu⟩ | ⟨e, he, hset, hreply, hu⟩ |
    ⟨c, o, e, r, next, queue, count, _, _, _, hw, ho, he, hdec, hset, hr, _, _, _, hreply, heq, _⟩
  · exact Or.inl ⟨by rw [hreply], hu.still⟩
  · exact Or.inr (Or.inl ⟨e, he, hset, by rw [hreply], hu.still⟩)
  · refine Or.inr (Or.inr ⟨c, e, r, by rw [hreply], he, hset, hw, hr, ?_, ?_⟩)
    · refine ⟨_, by rw [heq]; rfl, rfl, rfl, rfl, rfl, ?_⟩
      rw [hdec]
      simp only [linkedRecord, timeoutTaken, (h.objects.slot o ho.1).1]
    · rw [heq]
      rfl

theorem armWaitTimeout_eq (s : State) (deadlineMs : Nat) :
    armWaitTimeout s deadlineMs = (false, s) ∨
    armWaitTimeout s deadlineMs =
      (true, { s with pendingWaitTimeoutArmed := true, pendingWaitDeadlineMs := deadlineMs }) := by
  unfold armWaitTimeout
  split
  · exact Or.inl rfl
  · split
    · exact Or.inl rfl
    · exact Or.inr rfl

/-- A wait that goes through the assembly on an event that is not set: it traps or it
switches, and it does not return. -/
theorem blockCurrent_blocks (h : Inv s) (he : eventFromHandle s handle = some e)
    (hset : (s.events e).signaled = false) :
    (blockCurrent s handle).1 ≠ .returned waitObject0 ∧
    (Still s (blockCurrent s handle).2 ∨
      ∃ c d r, Blocks s (blockCurrent s handle).2 handle c d r) := by
  have hcases := prepareWaitRecord_blocks h handle true
  unfold blockCurrent
  generalize prepareWaitRecord s handle true = q at hcases
  obtain ⟨⟨result, plan, record⟩, s1⟩ := q
  simp only at hcases
  rcases hcases with ⟨rfl, hstill⟩ | ⟨d, hd, hd', _⟩ | ⟨c, d, r, rfl, hblocks⟩
  · exact ⟨by simp, Or.inl hstill⟩
  · rw [he] at hd
    cases hd
    rw [hset] at hd'
    cases hd'
  · exact ⟨by simp, Or.inr ⟨c, d, r, hblocks⟩⟩

theorem pollTimeouts_serviced (s : State) (clock : Option Nat) :
    (pollTimeouts s clock).2 = s ∨
    ∃ now, clock = some now ∧ s.config.nowMs = true ∧
      (pollTimeouts s clock).2 = (serviceTimeouts s now).2 := by
  unfold pollTimeouts
  cases clock with
  | none => exact Or.inl rfl
  | some now =>
    simp only
    split
    · exact Or.inl rfl
    · rename_i hg
      simp only [not_or, Decidable.not_not] at hg
      exact Or.inr ⟨now, rfl, hg.2.2, rfl⟩

/-- Servicing timeouts finds the same event behind a handle, set or not as before. -/
theorem pollTimeouts_event (h : Inv s) (clock : Option Nat)
    (he : eventFromHandle s handle = some e) :
    eventFromHandle (pollTimeouts s clock).2 handle = some e ∧
    ((pollTimeouts s clock).2.events e).signaled = (s.events e).signaled := by
  rcases pollTimeouts_serviced s clock with heq | ⟨now, _, _, heq⟩
  · rw [heq]
    exact ⟨he, rfl⟩
  · rw [heq]
    obtain ⟨_, _, hended⟩ := serviceTimeouts_spec h now
    refine ⟨?_, ?_⟩
    · rw [eventFromHandle_congr (congrArg State.installed hended.rest :)
        (congrArg State.objects hended.rest :)]
      exact he
    · obtain ⟨w, n, hevent, _⟩ := hended.events e
      rw [hevent]

/-- A call of `wait_one` that does not end in a signal: it may poll for timeouts, and then
it blocks or it leaves the waits alone. -/
def Waited (s : State) (handle : Nat) (polls : Prop) (pollClock : Option Nat)
    (p : WaitOneOutcome × State) : Prop :=
  p.1 ≠ .returned waitObject0 ∧
  ∃ s1 s2, (s1 = s ∨ (polls ∧ s1 = (pollTimeouts s pollClock).2)) ∧ Still s1 s2 ∧ Inv s2 ∧
    (Still s2 p.2 ∨ ∃ c e r, Blocks s2 p.2 handle c e r)

theorem Waited.failure {polls : Prop} {pollClock : Option Nat} {s1 : State}
    (hs : s1 = s ∨ (polls ∧ s1 = (pollTimeouts s pollClock).2)) (h : Inv s1)
    (handle error : Nat) : Waited s handle polls pollClock (waitFailure s1 error) := by
  refine ⟨?_, s1, s1, hs, Still.refl s1, h, Or.inl (setLastError_unseen s1 error).still⟩
  simp [waitFailure, waitFailed, waitObject0]

theorem Waited.block {polls : Prop} {pollClock : Option Nat} {s1 s2 : State}
    (hs : s1 = s ∨ (polls ∧ s1 = (pollTimeouts s pollClock).2)) (hstill : Still s1 s2) (h : Inv s2)
    (he : eventFromHandle s2 handle = some e) (hset : (s2.events e).signaled = false) :
    Waited s handle polls pollClock (blockCurrent s2 handle) := by
  obtain ⟨hout, hcases⟩ := blockCurrent_blocks h he hset
  exact ⟨hout, s1, s2, hs, hstill, h, hcases⟩

/-- What `wait_one` does to the waits: it takes the token of a set event, or it does not
end in a signal. -/
theorem waitOne_waited (h : Inv s) (contextGiven : Bool) (handle milliseconds alertable : Nat)
    (clock pollClock : Option Nat) :
    (∃ e, eventFromHandle s handle = some e ∧ (s.events e).signaled = true ∧
      waitOne s contextGiven handle milliseconds alertable clock pollClock =
        (.returned waitObject0, tokenTaken s e)) ∨
    Waited s handle (waitPolls s contextGiven handle milliseconds alertable clock = true) pollClock
      (waitOne s contextGiven handle milliseconds alertable clock pollClock) := by
  have hfail : ∀ error, Waited s handle
      (waitPolls s contextGiven handle milliseconds alertable clock = true) pollClock
      (waitFailure s error) := fun error => Waited.failure (Or.inl rfl) h handle error
  unfold waitOne
  split
  · exact Or.inr (hfail _)
  · rename_i hcontext
    simp only [not_or, Decidable.not_not] at hcontext
    split
    · exact Or.inr (hfail _)
    · rename_i halertable
      simp only [ne_eq, Decidable.not_not] at halertable
      cases objectFromHandle s handle with
      | none => exact Or.inr (hfail _)
      | some o =>
        simp only
        split
        · exact Or.inr (hfail _)
        · split
          · exact Or.inr (hfail _)
          · cases hopen : openEvent s handle with
            | none => exact Or.inr (hfail _)
            | some e =>
              have he := openEvent_eq_some hopen
              simp only
              split
              · rename_i hset
                exact Or.inl ⟨e, he, hset, rfl⟩
              · rename_i hset
                have hset : (s.events e).signaled = false := by simpa using hset
                refine Or.inr ?_
                split
                · refine ⟨by simp [waitTimeout, waitObject0], s, s, Or.inl rfl, Still.refl s, h, ?_⟩
                  exact Or.inl (Still.refl s)
                · rename_i hzero
                  split
                  · exact Waited.block (Or.inl rfl) (Still.refl s) h he hset
                  · rename_i hinfinite
                    cases clock with
                    | none => exact hfail _
                    | some now =>
                      simp only
                      split
                      · exact hfail _
                      · rename_i hconfig
                        simp only [Decidable.not_not] at hconfig
                        have hpolls : waitPolls s contextGiven handle milliseconds alertable
                            (some now) = true := by
                          simp [waitPolls, hcontext, halertable, hzero, hinfinite, hconfig, hopen,
                            hset]
                        -- The timeouts are serviced, and then the timeout of this wait is armed.
                        have hinv := pollTimeouts_inv h pollClock
                        obtain ⟨he', hset'⟩ := pollTimeouts_event h pollClock he
                        rw [hset] at hset'
                        generalize hs1 : (pollTimeouts s pollClock).2 = s1 at hinv he' hset' ⊢
                        have hpoll := Or.inr (a := s1 = s) (And.intro hpolls hs1.symm)
                        rcases armWaitTimeout_eq s1 (deadlineOf now milliseconds) with heq | heq
                        · rw [heq]
                          exact Waited.failure hpoll hinv handle _
                        · have hu := armWaitTimeout_unseen s1 (deadlineOf now milliseconds)
                          rw [heq] at hu ⊢
                          exact Waited.block hpoll hu.still (hinv.unseen hu) he' hset'

theorem waitOne_effect (h : Inv s) (contextGiven : Bool) (handle milliseconds alertable : Nat)
    (clock pollClock : Option Nat) :
    WaitEffect s (.waitOne contextGiven handle milliseconds alertable clock pollClock)
      (waitOne s contextGiven handle milliseconds alertable clock pollClock).2 := by
  rcases waitOne_waited h contextGiven handle milliseconds alertable clock pollClock with
    ⟨e, he, hset, heq⟩ | ⟨hout, s1, s2, hs1, hstill, hinv, hcases⟩
  · refine .taken handle e he hset ?_ ?_ rfl rfl
    · rw [heq]
      exact Still.refl _
    · simp [takenEvent, heq, he]
  · have hidle : Idle s (.waitOne contextGiven handle milliseconds alertable clock pollClock) :=
      ⟨rfl, rfl, by simp [takenEvent, hout]⟩
    have hserv : Serviced s (.waitOne contextGiven handle milliseconds alertable clock pollClock)
        s1 := by
      rcases hs1 with heq | ⟨hpolls, heq⟩
      · exact Or.inl heq
      · rcases pollTimeouts_serviced s pollClock with hsame | ⟨now, hnow, _, hsame⟩
        · exact Or.inl (heq.trans hsame)
        · exact Or.inr ⟨now, (if_pos hpolls).trans hnow, heq.trans hsame⟩
    rcases hcases with hsame | ⟨c, e, r, hblocks⟩
    · exact .quiet s1 hserv (hstill.trans hsame) hidle
    · exact .blocked handle s1 s2 c e r hserv hstill hinv hblocks rfl hidle

theorem signalEvent_ok (h : Inv s) (he : eventFromHandle s handle = some e) :
    (signalEvent s handle).1 = true := by
  obtain ⟨hi, hl, _⟩ := eventFromHandle_eq_some h.objects he
  cases hm : (s.events e).manualReset with
  | true => exact (signalEvent_manual h hi he hl hm).1
  | false =>
    by_cases hc : (s.events e).waiterCount = 0
    · rw [(signalEvent_idle h he hl hm hc).1]
    · exact (signalEvent_auto h hi he hl hm hc).1

/-- A contract passes a call through if the handle is an open event, and else it only sets
the last error. -/
theorem eventContract_cases (call : State → Nat → Bool × State) (contextGiven : Bool) (handle : Nat)
    (hcall : ∀ e, eventFromHandle s handle = some e → (call s handle).1 = true) :
    (¬ (contextGiven = true ∧ s.active = true ∧ openEvent s handle ≠ none) ∧
      (eventContract call s contextGiven handle).2 = setLastError s errorInvalidHandle) ∨
    ((contextGiven = true ∧ s.active = true ∧ openEvent s handle ≠ none) ∧
      ∃ e, eventFromHandle s handle = some e ∧
        (eventContract call s contextGiven handle).2 = (call s handle).2) := by
  unfold eventContract
  split
  · rename_i hg
    refine Or.inl ⟨?_, rfl⟩
    rintro ⟨h1, h2, h3⟩
    rcases hg with hg | hg | hg
    · exact hg h1
    · exact hg h2
    · exact h3 hg
  · rename_i hg
    simp only [not_or, Decidable.not_not] at hg
    obtain ⟨e, he⟩ := Option.ne_none_iff_exists'.mp hg.2.2
    have he' := openEvent_eq_some he
    refine Or.inr ⟨hg, e, he', ?_⟩
    have hok := hcall e he'
    generalize call s handle = q at hok
    obtain ⟨ok, s1⟩ := q
    simp only at hok
    subst hok
    rfl

theorem serviceTimeouts_effect (s : State) (now : Nat) :
    WaitEffect s (.serviceTimeouts now) (serviceTimeouts s now).2 :=
  .quiet _ (Or.inr ⟨now, rfl, rfl⟩) (Still.refl _) ⟨rfl, rfl, rfl⟩

theorem pollTimeouts_effect (s : State) (clock : Option Nat) :
    WaitEffect s (.pollTimeouts clock) (pollTimeouts s clock).2 := by
  refine .quiet _ ?_ (Still.refl _) ⟨rfl, rfl, rfl⟩
  rcases pollTimeouts_serviced s clock with heq | ⟨now, hnow, hconfig, heq⟩
  · exact Or.inl heq
  · exact Or.inr ⟨now, (if_pos hconfig).trans hnow, heq⟩

theorem createEvent_effect (h : Inv s) (scheduler : SchedulerPtr) (m i : Nat) (handleOut : Bool) :
    WaitEffect s (.createEvent scheduler m i handleOut)
      (createEvent s scheduler m i handleOut).2 := by
  rcases createEvent_cases h scheduler m i handleOut with ⟨_, hu⟩ | ⟨e, o, g, _, hdead, _, _, heq⟩
  · exact .still hu.still ⟨rfl, rfl, rfl⟩
  · rw [heq]
    exact .created e _ hdead rfl (fun _ => rfl) rfl rfl ⟨rfl, rfl, rfl⟩

theorem tryDestroyEvent_effect (h : Inv s) (handle : Nat) :
    WaitEffect s (.tryDestroyEvent handle) (tryDestroyEvent s handle).2 := by
  rcases tryDestroyEvent_cases s handle with heq | ⟨o, e, ho, _, _, _, heq⟩
  · rw [heq]
    exact .still (Still.refl s) ⟨rfl, rfl, rfl⟩
  · rw [heq]
    have hfit := h.objects.target o ho.1
    unfold TargetFits at hfit
    rw [ho.2.1] at hfit
    obtain ⟨d, hd, hlive, _⟩ := hfit
    rw [ho.2.2] at hd
    cases hd
    exact .destroyed e hlive rfl rfl ⟨rfl, rfl, rfl⟩

theorem signalEvent_effect (handle : Nat) :
    WaitEffect s (.signalEvent handle) (signalEvent s handle).2 := by
  cases he : eventFromHandle s handle with
  | none =>
    have heq : signalEvent s handle = (false, s) := by simp [signalEvent, he]
    rw [heq]
    exact .still (Still.refl s) ⟨he, rfl, rfl⟩
  | some e => exact .signaled handle e he rfl he rfl rfl

theorem resetEvent_effect (h : Inv s) (handle : Nat) :
    WaitEffect s (.resetEvent handle) (resetEvent s handle).2 := by
  rcases resetEvent_eq h handle with ⟨heq, he⟩ | ⟨e, he, heq⟩
  · rw [heq]
    exact .still (Still.refl s) ⟨rfl, he, rfl⟩
  · rw [heq]
    exact .cleared handle e he rfl he rfl rfl

theorem prepareWaitRecord_effect (h : Inv s) (handle : Nat) (planOut : Bool) :
    WaitEffect s (.prepareWaitRecord handle planOut) (prepareWaitRecord s handle planOut).2 := by
  rcases prepareWaitRecord_blocks h handle planOut with
    ⟨hresult, hstill⟩ | ⟨e, he, hset, hresult, hstill⟩ | ⟨c, e, r, hresult, hblocks⟩
  · exact .still hstill ⟨rfl, rfl, by simp [takenEvent, hresult]⟩
  · exact .taken handle e he hset hstill (by simp [takenEvent, hresult, he]) rfl rfl
  · exact .blocked handle s s c e r (Or.inl rfl) (Still.refl s) h hblocks rfl
      ⟨rfl, rfl, by simp [takenEvent, hresult]⟩

theorem finishWait_effect (h : Inv s) (handle : Nat) :
    WaitEffect s (.finishWait handle) (finishWait s handle).2 := by
  rcases finishWait_cases h handle with heq | ⟨_, _, _, _, hu⟩ | ⟨c, r, o, _, hc, hr, hdone, _, heq⟩
  · rw [heq]
    exact .still (Still.refl s) ⟨rfl, rfl, rfl⟩
  · exact .still hu.still ⟨rfl, rfl, rfl⟩
  · rw [heq]
    exact .finished c r o ⟨handle, rfl⟩ hc hr hdone rfl ⟨rfl, rfl, rfl⟩

theorem setEventContract_effect (h : Inv s) (contextGiven : Bool) (handle : Nat) :
    WaitEffect s (.setEventContract contextGiven handle)
      (setEventContract s contextGiven handle).2 := by
  rcases eventContract_cases signalEvent contextGiven handle (fun e he => signalEvent_ok h he) with
    ⟨hg, heq⟩ | ⟨hg, e, he, heq⟩
  · unfold setEventContract
    rw [heq]
    exact .still (setLastError_unseen s _).still ⟨if_neg hg, rfl, rfl⟩
  · exact .signaled handle e he heq ((if_pos hg).trans he) rfl rfl

theorem resetEventContract_effect (h : Inv s) (contextGiven : Bool) (handle : Nat) :
    WaitEffect s (.resetEventContract contextGiven handle)
      (resetEventContract s contextGiven handle).2 := by
  have hok : ∀ e, eventFromHandle s handle = some e → (resetEvent s handle).1 = true := by
    intro e he
    rcases resetEvent_eq h handle with ⟨_, hnone⟩ | ⟨_, _, heq⟩
    · rw [he] at hnone
      cases hnone
    · rw [heq]
  rcases eventContract_cases resetEvent contextGiven handle hok with ⟨hg, heq⟩ | ⟨hg, e, he, heq⟩
  · unfold resetEventContract
    rw [heq]
    exact .still (setLastError_unseen s _).still ⟨rfl, if_neg hg, rfl⟩
  · rcases resetEvent_eq h handle with ⟨_, hnone⟩ | ⟨d, hd, hsame⟩
    · rw [he] at hnone
      cases hnone
    · rw [he] at hd
      cases hd
      exact .cleared handle e he (heq.trans (by rw [hsame])) ((if_pos hg).trans he) rfl rfl

/-- Each step is one of the cases. -/
theorem step_effect (h : Inv s) (op : Op) : WaitEffect s op (step s op) := by
  by_cases hop : touchesWaits op = false
  · exact .still (step_still h hop) (touchesWaits_idle hop)
  · cases op with
    | createEvent p m i a => exact createEvent_effect h p m i a
    | signalEvent handle => exact signalEvent_effect handle
    | resetEvent handle => exact resetEvent_effect h handle
    | serviceTimeouts now => exact serviceTimeouts_effect s now
    | pollTimeouts clock => exact pollTimeouts_effect s clock
    | prepareWaitRecord handle p => exact prepareWaitRecord_effect h handle p
    | finishWait handle => exact finishWait_effect h handle
    | tryDestroyEvent handle => exact tryDestroyEvent_effect h handle
    | waitOne a handle m b k l => exact waitOne_effect h a handle m b k l
    | setEventContract a handle => exact setEventContract_effect h a handle
    | resetEventContract a handle => exact resetEventContract_effect h a handle
    | _ => exact absurd rfl hop

/-! ## One record -/

/-- What a step does to one wait record. -/
inductive RecordEffect (s : State) (op : Op) (s' : State) (r : RecordSlot) : Prop
  | kept (n : Nat) (hrecord : s'.waitRecords r = { s.waitRecords r with waiterIndex := n })
  | signaled (n : Nat) (hpending : Pending s r)
      (hsignal : signaledEvent s op = (s.waitRecords r).waitable)
      (hrecord : s'.waitRecords r = { s.waitRecords r with
        waiterLinked := false, waiterIndex := n, completed := true,
        completionResult := waitObject0 })
  | timedOut (n now : Nat) (hpending : Pending s r) (htime : serviceTime s op = some now)
      (hexpired : expired s now r = true)
      (hrecord : s'.waitRecords r = { s.waitRecords r with
        waiterLinked := false, waiterIndex := n, completed := true,
        completionResult := waitTimeout })
  | registered (handle : Nat) (hfresh : (s.waitRecords r).valid = false) (hpending : Pending s' r)
      (hop : waitHandle op = some handle)
      (hid : decodeEventIdentity handle =
        some ((s'.waitRecords r).objectSlot, (s'.waitRecords r).objectGeneration))
  | finished (handle : Nat) (c : ThreadSlot) (hop : op = .finishWait handle)
      (hc : s.current = some c) (hr : (s.threads c).waitRecord = some r)
      (hcompleted : (s.waitRecords r).completed = true) (hblank : s'.waitRecords r = {})

theorem RecordEffect.same (h : s'.waitRecords r = s.waitRecords r) : RecordEffect s op s' r :=
  .kept (s.waitRecords r).waiterIndex (by rw [h])

/-- The waits that end because timeouts are serviced. -/
theorem Serviced.ended (h : Inv s) (hserv : Serviced s op s') :
    ∃ ended, Ended s s' ended waitTimeout .timedOut ∧
      ∀ q, ended q → ∃ now, serviceTime s op = some now ∧ expired s now q = true := by
  rcases hserv with rfl | ⟨now, hnow, rfl⟩
  · exact ⟨fun _ => False, Ended.none (by simp), by simp⟩
  · refine ⟨_, (serviceTimeouts_spec h now).2.2, ?_⟩
    rintro q ⟨_, hq⟩
    exact ⟨now, hnow, hq⟩

theorem Serviced.record (h : Inv s) (hserv : Serviced s op s') (r : RecordSlot) :
    RecordEffect s op s' r := by
  obtain ⟨ended, hended, hwhen⟩ := hserv.ended h
  by_cases hr : ended r
  · obtain ⟨n, hn⟩ := hended.records r hr
    obtain ⟨now, hnow, hexpired⟩ := hwhen r hr
    exact .timedOut n now (hended.was_pending r hr) hnow hexpired hn
  · obtain ⟨n, hn⟩ := hended.other_records r hr
    exact .kept n hn

/-- A later part of the step that leaves the record alone. -/
theorem RecordEffect.then_same {s1 : State} (h : RecordEffect s op s1 r)
    (hsame : s'.waitRecords r = s1.waitRecords r) : RecordEffect s op s' r := by
  cases h with
  | kept n hrecord => exact .kept n (hsame.trans hrecord)
  | signaled n hp hs hrecord => exact .signaled n hp hs (hsame.trans hrecord)
  | timedOut n now hp ht hx hrecord => exact .timedOut n now hp ht hx (hsame.trans hrecord)
  | registered handle hf hp hop hid =>
    refine .registered handle hf ?_ hop ?_
    · unfold Pending
      rw [hsame]
      exact hp
    · rw [hsame]
      exact hid
  | finished handle c hop hc hr hdone hb =>
    exact .finished handle c hop hc hr hdone (hsame.trans hb)

theorem signalEvent_record (h : Inv s) (he : eventFromHandle s handle = some e)
    (hsignal : signaledEvent s op = some e) (r : RecordSlot) :
    RecordEffect s op (signalEvent s handle).2 r := by
  obtain ⟨hi, hl, _⟩ := eventFromHandle_eq_some h.objects he
  cases hm : (s.events e).manualReset with
  | true =>
    obtain ⟨_, _, hended, _⟩ := signalEvent_manual h hi he hl hm
    by_cases hr : Pending s r ∧ (s.waitRecords r).waitable = some e
    · obtain ⟨n, hn⟩ := hended.records r hr
      exact .signaled n hr.1 (hsignal.trans hr.2.symm) hn
    · obtain ⟨n, hn⟩ := hended.other_records r hr
      exact .kept n hn
  | false =>
    by_cases hc : (s.events e).waiterCount = 0
    · rw [(signalEvent_idle h he hl hm hc).1]
      exact .same rfl
    · obtain ⟨_, _, q, t, hq, ht, hw⟩ := signalEvent_auto h hi he hl hm hc
      obtain ⟨hp, hwaitable, _⟩ := h.waits.listed e 0 q hq
      have hended := hw.ended h.waits hq ht
      by_cases hr : r = q
      · subst hr
        obtain ⟨n, hn⟩ := hended.records r rfl
        exact .signaled n hp (hsignal.trans hwaitable.symm) hn
      · obtain ⟨n, hn⟩ := hended.other_records r hr
        exact .kept n hn

theorem tokenTaken_records (s : State) (e : EventSlot) :
    (tokenTaken s e).waitRecords = s.waitRecords := by
  unfold tokenTaken
  split <;> rfl

/-- What a step does to each record. -/
theorem WaitEffect.record (h : Inv s) (heffect : WaitEffect s op s') (r : RecordSlot) :
    RecordEffect s op s' r := by
  cases heffect with
  | quiet s1 hserv hstill hidle =>
    exact (hserv.record h r).then_same (by rw [hstill.records])
  | created e x hdead hlive hempty hrecords hevents hidle => exact .same (by rw [hrecords])
  | destroyed e hlive hrecords hevents hidle => exact .same (by rw [hrecords])
  | signaled handle e he hs hsignal hclear htaken =>
    rw [hs]
    exact signalEvent_record h he hsignal r
  | cleared handle e he hs hclear hsignal htaken =>
    rw [hs]
    exact .same rfl
  | taken handle e he hset hs htaken hsignal hclear =>
    exact .same (by rw [hs.records, tokenTaken_records])
  | blocked handle s1 s2 c e q hserv hstill hinv hblocks hop hidle =>
    obtain ⟨x, hx, hvalid, hopen, _, _, hid⟩ := hblocks.record
    by_cases hr : r = q
    · subst hr
      obtain ⟨ended, hended, _⟩ := hserv.ended h
      have hfresh := hblocks.fresh
      rw [hstill.records, hended.valid_eq] at hfresh
      have hrecord : s'.waitRecords r = x := by rw [hx, Function.update_self]
      exact .registered handle hfresh (by unfold Pending; rw [hrecord]; exact ⟨hvalid, hopen⟩) hop
        (by rw [hrecord]; exact hid)
    · refine (hserv.record h r).then_same ?_
      rw [hx, Function.update_of_ne hr, hstill.records]
  | finished c q o hop hc hr hcompleted hs hidle =>
    obtain ⟨handle, hop⟩ := hop
    by_cases hq : r = q
    · subst hq
      exact .finished handle c hop hc hr hcompleted (by rw [hs]; simp [waitFinished])
    · exact .same (by rw [hs]; simp [waitFinished, hq])

/-! ## One event -/

/-- What a step does to one event. -/
inductive EventEffect (s : State) (op : Op) (s' : State) (e : EventSlot) : Prop
  | kept (hlive : (s'.events e).live = (s.events e).live)
      (hflags : (s.events e).live = true → (s'.events e).manualReset = (s.events e).manualReset ∧
        (s'.events e).signaled = (s.events e).signaled)
      (hsignal : signaledEvent s op ≠ some e) (hclear : clearedEvent s op ≠ some e)
      (htaken : takenEvent s op ≠ some e)
  | created (hdead : (s.events e).live = false) (hlive : (s'.events e).live = true)
      (hidle : Idle s op)
  | destroyed (hlive : (s.events e).live = true) (hdead : (s'.events e).live = false)
      (hidle : Idle s op)
  | signaled (handle : Nat) (he : eventFromHandle s handle = some e)
      (hs : s' = (signalEvent s handle).2) (hsignal : signaledEvent s op = some e)
      (hclear : clearedEvent s op ≠ some e) (htaken : takenEvent s op ≠ some e)
  | cleared (hevent : s'.events e = { s.events e with signaled := false })
      (hclear : clearedEvent s op = some e) (hsignal : signaledEvent s op ≠ some e)
      (htaken : takenEvent s op ≠ some e)
  | taken (hset : (s.events e).signaled = true)
      (hevent : s'.events e = { s.events e with signaled := (s.events e).manualReset })
      (htaken : takenEvent s op = some e) (hsignal : signaledEvent s op ≠ some e)
      (hclear : clearedEvent s op ≠ some e)

/-- The event is not the one that the step is about. -/
theorem EventEffect.unchanged (h : s'.events e = s.events e) (hsignal : signaledEvent s op ≠ some e)
    (hclear : clearedEvent s op ≠ some e) (htaken : takenEvent s op ≠ some e) :
    EventEffect s op s' e :=
  .kept (by rw [h]) (fun _ => by rw [h]; exact ⟨rfl, rfl⟩) hsignal hclear htaken

theorem Idle.ne (h : Idle s op) (e : EventSlot) :
    signaledEvent s op ≠ some e ∧ clearedEvent s op ≠ some e ∧ takenEvent s op ≠ some e := by
  rw [h.signaled, h.cleared, h.taken]
  simp

theorem Still.flags (h : Still s s') (e : EventSlot) : (s'.events e).live = (s.events e).live ∧
    ((s.events e).live = true → (s'.events e).manualReset = (s.events e).manualReset ∧
      (s'.events e).signaled = (s.events e).signaled) := by
  obtain ⟨_, _, hlive, heq⟩ := Waitable.view_eq (h.events e)
  refine ⟨hlive, fun hl => ?_⟩
  rw [heq hl]
  exact ⟨rfl, rfl⟩

/-- Servicing timeouts and a part that leaves the events alone keep the flags of an event. -/
theorem Serviced.flags {s1 : State} (h : Inv s) (hserv : Serviced s op s1) (hstill : Still s1 s')
    (e : EventSlot) : (s'.events e).live = (s.events e).live ∧
    ((s.events e).live = true → (s'.events e).manualReset = (s.events e).manualReset ∧
      (s'.events e).signaled = (s.events e).signaled) := by
  obtain ⟨ended, hended, _⟩ := hserv.ended h
  obtain ⟨w, n, hwn, _⟩ := hended.events e
  have hflags := hstill.flags e
  rw [hwn] at hflags
  exact hflags

theorem signalEvent_other (h : Inv s) {d : EventSlot} (he : eventFromHandle s handle = some e)
    (hd : d ≠ e) : (signalEvent s handle).2.events d = s.events d := by
  obtain ⟨hi, hl, _⟩ := eventFromHandle_eq_some h.objects he
  cases hm : (s.events e).manualReset with
  | true => exact (signalEvent_manual h hi he hl hm).2.2.2.2 d hd
  | false =>
    by_cases hc : (s.events e).waiterCount = 0
    · rw [(signalEvent_idle h he hl hm hc).1]
      simp [hd]
    · obtain ⟨_, _, q, t, _, _, hw⟩ := signalEvent_auto h hi he hl hm hc
      rw [hw.events, if_neg hd]

theorem tokenTaken_event (s : State) (e : EventSlot) (hset : (s.events e).signaled = true) :
    (tokenTaken s e).events e =
      { s.events e with signaled := (s.events e).manualReset } := by
  unfold tokenTaken
  split
  · rename_i hm
    rw [hm, ← hset]
  · rename_i hm
    simp [Bool.eq_false_iff.mpr hm]

theorem tokenTaken_other (s : State) {d e : EventSlot} (hd : d ≠ e) :
    (tokenTaken s e).events d = s.events d := by
  unfold tokenTaken
  split
  · rfl
  · simp [hd]

/-- What a step does to each event. -/
theorem WaitEffect.event (h : Inv s) (heffect : WaitEffect s op s') (d : EventSlot) :
    EventEffect s op s' d := by
  cases heffect with
  | quiet s1 hserv hstill hidle =>
    obtain ⟨h1, h2, h3⟩ := hidle.ne d
    obtain ⟨hlive, hflags⟩ := hserv.flags h hstill d
    exact .kept hlive hflags h1 h2 h3
  | created e x hdead hlive hempty hrecords hevents hidle =>
    by_cases hd : d = e
    · subst hd
      exact .created hdead (by rw [hevents, Function.update_self]; exact hlive) hidle
    · obtain ⟨h1, h2, h3⟩ := hidle.ne d
      exact .unchanged (by rw [hevents, Function.update_of_ne hd]) h1 h2 h3
  | destroyed e hlive hrecords hevents hidle =>
    by_cases hd : d = e
    · subst hd
      exact .destroyed hlive (by rw [hevents, Function.update_self]) hidle
    · obtain ⟨h1, h2, h3⟩ := hidle.ne d
      exact .unchanged (by rw [hevents, Function.update_of_ne hd]) h1 h2 h3
  | signaled handle e he hs hsignal hclear htaken =>
    have h2 : clearedEvent s op ≠ some d := by rw [hclear]; simp
    have h3 : takenEvent s op ≠ some d := by rw [htaken]; simp
    by_cases hd : d = e
    · subst hd
      exact .signaled handle he hs hsignal h2 h3
    · have h1 : signaledEvent s op ≠ some d := by
        rw [hsignal]
        simpa using Ne.symm hd
      exact .unchanged (by rw [hs]; exact signalEvent_other h he hd) h1 h2 h3
  | cleared handle e he hs hclear hsignal htaken =>
    have h1 : signaledEvent s op ≠ some d := by rw [hsignal]; simp
    have h3 : takenEvent s op ≠ some d := by rw [htaken]; simp
    by_cases hd : d = e
    · subst hd
      exact .cleared (by rw [hs]; simp) hclear h1 h3
    · have h2 : clearedEvent s op ≠ some d := by
        rw [hclear]
        simpa using Ne.symm hd
      exact .unchanged (by rw [hs]; simp [hd]) h1 h2 h3
  | taken handle e he hset hs htaken hsignal hclear =>
    have h1 : signaledEvent s op ≠ some d := by rw [hsignal]; simp
    have h2 : clearedEvent s op ≠ some d := by rw [hclear]; simp
    by_cases hd : d = e
    · subst hd
      obtain ⟨_, hl, _⟩ := eventFromHandle_eq_some h.objects he
      obtain ⟨_, _, _, heq⟩ := Waitable.view_eq (hs.events d)
      rw [tokenTaken_event s d hset] at heq
      exact .taken hset (heq hl) htaken h1 h2
    · have h3 : takenEvent s op ≠ some d := by
        rw [htaken]
        simpa using Ne.symm hd
      obtain ⟨hlive, hflags⟩ := hs.flags d
      rw [tokenTaken_other s hd] at hlive hflags
      exact .kept hlive hflags h1 h2 h3
  | blocked handle s1 s2 c e q hserv hstill hinv hblocks hop hidle =>
    obtain ⟨h1, h2, h3⟩ := hidle.ne d
    obtain ⟨hlive, hflags⟩ := hserv.flags h hstill d
    have hsame : (s'.events d).live = (s2.events d).live ∧
        (s'.events d).manualReset = (s2.events d).manualReset ∧
        (s'.events d).signaled = (s2.events d).signaled := by
      rw [hblocks.events]
      by_cases hd : d = e
      · subst hd
        rw [Function.update_self]
        exact ⟨rfl, rfl, rfl⟩
      · rw [Function.update_of_ne hd]
        exact ⟨rfl, rfl, rfl⟩
    refine .kept (hsame.1.trans hlive) (fun hl => ?_) h1 h2 h3
    exact ⟨hsame.2.1.trans (hflags hl).1, hsame.2.2.trans (hflags hl).2⟩
  | finished c q o hop hc hr hcompleted hs hidle =>
    obtain ⟨h1, h2, h3⟩ := hidle.ne d
    exact .unchanged (by rw [hs]; rfl) h1 h2 h3

end Gate4Harness.Scheduler
