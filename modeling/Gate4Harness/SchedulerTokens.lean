-- Signals are conserved. An observer of a run counts, for each event, the signals,
-- the resets and the waits that end in a signal. A signal that finds an auto-reset
-- event set, and a token that a reset removes, are the only ones that wake nobody.
import Gate4Harness.SchedulerEffects

namespace Gate4Harness.Scheduler

variable {s s' : State} {e : EventSlot} {r : RecordSlot} {handle : Nat} {op : Op}

/-! ## The observer -/

/-- The waits that have not ended and that are waits on the event. -/
def waitsOn (s : State) (e : EventSlot) : Finset RecordSlot :=
  Finset.univ.filter fun r => (s.waitRecords r).valid = true ∧
    (s.waitRecords r).completed = false ∧ (s.waitRecords r).waitable = some e

/-- The waits on the event that end in a signal between two states. -/
def signaledWaits (s s' : State) (e : EventSlot) : Finset RecordSlot :=
  (waitsOn s e).filter fun r => (s'.waitRecords r).completed = true ∧
    (s'.waitRecords r).completionResult = waitObject0

/-- A set auto-reset event holds one token. -/
def Waitable.tokens (x : Waitable) : Nat := if x.signaled then 1 else 0

/-- What the observer counts for one event. -/
structure Tally where
  initial : Nat := 0
  signals : Nat := 0
  /-- The signals that found the event set. -/
  redundant : Nat := 0
  /-- The resets that found the event set. -/
  removed : Nat := 0
  /-- The waits that ended in a signal, at once or after they blocked. -/
  ended : Nat := 0
  deriving DecidableEq, Repr

/-- A new event has a new tally. -/
def noteTokens (s : State) (op : Op) (n : EventSlot → Tally) (e : EventSlot) : Tally :=
  if (s.events e).live = false ∧ ((step s op).events e).live = true then
    { initial := ((step s op).events e).tokens }
  else
    { n e with
      signals := (n e).signals + if signaledEvent s op = some e then 1 else 0
      redundant := (n e).redundant +
        if signaledEvent s op = some e then (s.events e).tokens else 0
      removed := (n e).removed + if clearedEvent s op = some e then (s.events e).tokens else 0
      ended := (n e).ended + (if takenEvent s op = some e then 1 else 0) +
        (signaledWaits s (step s op) e).card }

/-- The states of a run, each with the tallies of the events. -/
def TokenRun (s : State) (n : EventSlot → Tally) : Prop :=
  Runs.ReachNoting Started step (fun _ _ => True) (fun _ _ => {}) noteTokens s n

/-! ## The waits that a signal ends -/

theorem mem_waitsOn : r ∈ waitsOn s e ↔ Pending s r ∧ (s.waitRecords r).waitable = some e := by
  simp [waitsOn, Pending, and_assoc]

theorem mem_signaledWaits : r ∈ signaledWaits s s' e ↔
    (Pending s r ∧ (s.waitRecords r).waitable = some e) ∧
    (s'.waitRecords r).completed = true ∧ (s'.waitRecords r).completionResult = waitObject0 := by
  rw [signaledWaits, Finset.mem_filter, mem_waitsOn]

/-- A step that does not signal the event ends no wait on it in a signal. -/
theorem signaledWaits_eq_empty (hrecord : ∀ r, RecordEffect s op s' r)
    (hsignal : signaledEvent s op ≠ some e) : signaledWaits s s' e = ∅ := by
  rw [Finset.eq_empty_iff_forall_notMem]
  intro r hr
  obtain ⟨⟨hp, hwaitable⟩, hdone, hresult⟩ := mem_signaledWaits.mp hr
  cases hrecord r with
  | kept n heq =>
    rw [heq] at hdone
    simp [hp.2] at hdone
  | signaled n _ hs _ => exact hsignal (hs.trans hwaitable)
  | timedOut n now _ _ _ heq =>
    rw [heq] at hresult
    cases hresult
  | registered handle hfresh _ _ _ =>
    rw [hp.1] at hfresh
    cases hfresh
  | finished handle c _ _ _ hcompleted _ =>
    rw [hp.2] at hcompleted
    cases hcompleted

/-- The waits that have ended with a signal, told by the records before. -/
theorem Ended.signaledWaits_eq {ended : RecordSlot → Prop} [DecidablePred ended]
    (h : Ended s s' ended waitObject0 .signaled)
    (hon : ∀ q, ended q → (s.waitRecords q).waitable = some e) :
    signaledWaits s s' e = Finset.univ.filter ended := by
  ext q
  rw [mem_signaledWaits, Finset.mem_filter]
  constructor
  · rintro ⟨⟨hp, _⟩, hdone, _⟩
    refine ⟨Finset.mem_univ q, ?_⟩
    by_contra hq
    obtain ⟨n, hn⟩ := h.other_records q hq
    rw [hn] at hdone
    simp [hp.2] at hdone
  · rintro ⟨_, hq⟩
    obtain ⟨n, hn⟩ := h.records q hq
    exact ⟨⟨h.was_pending q hq, hon q hq⟩, by rw [hn], by rw [hn]⟩

/-! ## One signal -/

/-- The threads of the waits that end are ready to run, with the result of a signal. -/
def ReadyWithSignal (s s' : State) (e : EventSlot) : Prop :=
  ∀ r ∈ signaledWaits s s' e, ∃ t, (s.waitRecords r).thread = some t ∧
    (s'.threads t).state = .runnable ∧ (s'.threads t).blockedResult = .signaled

/-- A signal on an auto-reset event that threads wait on ends one of the waits, and the
event is not set afterwards. -/
structure WakesOne (s s' : State) (e : EventSlot) : Prop where
  one : ∃ r, signaledWaits s s' e = {r} ∧ ∀ q, Pending s' q ↔ Pending s q ∧ q ≠ r
  ready : ReadyWithSignal s s' e
  unset : (s'.events e).signaled = false
  count : (s'.events e).waiterCount + 1 = (s.events e).waiterCount

/-- A signal on an auto-reset event that no thread waits on leaves a token. -/
structure LeavesToken (s s' : State) (e : EventSlot) : Prop where
  set : (s'.events e).signaled = true
  records : s'.waitRecords = s.waitRecords

/-- A signal on a manual-reset event ends all the waits on it, and the event is set. -/
structure WakesAll (s s' : State) (e : EventSlot) : Prop where
  all : signaledWaits s s' e = waitsOn s e
  others : ∀ q, Pending s' q ↔ Pending s q ∧ q ∉ waitsOn s e
  ready : ReadyWithSignal s s' e
  set : (s'.events e).signaled = true
  count : (s'.events e).waiterCount = 0

theorem Ended.readyWithSignal {s1 : State} {ended : RecordSlot → Prop} (hinv : WaitInv s)
    (h : Ended s1 s' ended waitObject0 .signaled) (hrecords : s1.waitRecords = s.waitRecords) :
    ReadyWithSignal s s' e := by
  intro r hr
  obtain ⟨⟨hp, _⟩, hdone, _⟩ := mem_signaledWaits.mp hr
  obtain ⟨t, _, ht, _⟩ := hinv.pending r hp
  have hended : ended r := by
    by_contra hno
    obtain ⟨n, hn⟩ := h.other_records r hno
    rw [hn, hrecords] at hdone
    simp [hp.2] at hdone
  refine ⟨t, ht, ?_⟩
  rw [h.threads t r hended (by rw [hrecords]; exact ht)]
  exact ⟨rfl, rfl⟩

theorem signalEvent_wakesOne (h : Inv s) (he : eventFromHandle s handle = some e)
    (hm : (s.events e).manualReset = false) (hc : (s.events e).waiterCount ≠ 0) :
    WakesOne s (signalEvent s handle).2 e := by
  obtain ⟨hi, hl, _⟩ := eventFromHandle_eq_some h.objects he
  obtain ⟨_, _, r, t, hr, ht, hw⟩ := signalEvent_auto h hi he hl hm hc
  have hended := hw.ended h.waits hr ht
  obtain ⟨_, hwaitable, _⟩ := h.waits.listed e 0 r hr
  have hclear : (s.events e).signaled = false := by
    rw [Bool.eq_false_iff]
    intro hs
    exact hc (h.quiet e hl hs)
  refine ⟨⟨r, ?_, hended.pending_iff⟩, hended.readyWithSignal h.waits rfl, ?_, ?_⟩
  · rw [hended.signaledWaits_eq (by rintro q rfl; exact hwaitable), Finset.filter_eq']
    simp
  · rw [hw.events, if_pos rfl]
    exact hclear
  · rw [hw.events, if_pos rfl, waitersWithout_waiterCount]
    omega

theorem signalEvent_leavesToken (h : Inv s) (he : eventFromHandle s handle = some e)
    (hm : (s.events e).manualReset = false) (hc : (s.events e).waiterCount = 0) :
    LeavesToken s (signalEvent s handle).2 e := by
  obtain ⟨_, hl, _⟩ := eventFromHandle_eq_some h.objects he
  rw [(signalEvent_idle h he hl hm hc).1]
  exact ⟨by simp, rfl⟩

theorem signalEvent_wakesAll (h : Inv s) (he : eventFromHandle s handle = some e)
    (hm : (s.events e).manualReset = true) : WakesAll s (signalEvent s handle).2 e := by
  obtain ⟨hi, hl, _⟩ := eventFromHandle_eq_some h.objects he
  obtain ⟨_, _, hended, hcount, _⟩ := signalEvent_manual h hi he hl hm
  have hended : Ended (s.modEvent e fun event => { event with signaled := true })
      (signalEvent s handle).2 (fun q => q ∈ waitsOn s e) waitObject0 .signaled :=
    hended.congr fun q => mem_waitsOn.symm
  refine ⟨?_, hended.pending_iff, hended.readyWithSignal h.waits rfl, ?_, hcount⟩
  · have hall := hended.signaledWaits_eq (e := e) fun q hq => (mem_waitsOn.mp hq).2
    rw [Finset.filter_mem_eq_inter, Finset.univ_inter] at hall
    exact hall
  · obtain ⟨w, n, hwn, _⟩ := hended.events e
    rw [hwn]
    simp

/-! ## The balance -/

/-- Each token that came in went out with a wait, with a reset or as a second token in a
set event, or it is still there. -/
def Balanced (x : Waitable) (n : Tally) : Prop :=
  x.live = true → x.manualReset = false →
    n.ended + x.tokens + n.redundant + n.removed = n.initial + n.signals

/-- A step that is not about the event adds nothing to its tally. -/
theorem noteTokens_eq (n : EventSlot → Tally) (hrecord : ∀ r, RecordEffect s op (step s op) r)
    (hlive : (s.events e).live = true) (hsignal : signaledEvent s op ≠ some e) :
    noteTokens s op n e =
      { n e with
        removed := (n e).removed + if clearedEvent s op = some e then (s.events e).tokens else 0
        ended := (n e).ended + if takenEvent s op = some e then 1 else 0 } := by
  unfold noteTokens
  rw [if_neg (by simp [hlive]), signaledWaits_eq_empty hrecord hsignal]
  simp [hsignal]

theorem noteTokens_signal (n : EventSlot → Tally) (hlive : (s.events e).live = true)
    (hsignal : signaledEvent s op = some e) (hclear : clearedEvent s op ≠ some e)
    (htaken : takenEvent s op ≠ some e) :
    noteTokens s op n e =
      { n e with
        signals := (n e).signals + 1
        redundant := (n e).redundant + (s.events e).tokens
        ended := (n e).ended + (signaledWaits s (step s op) e).card } := by
  unfold noteTokens
  rw [if_neg (by simp [hlive])]
  simp [hsignal, hclear, htaken]

/-- The flags of a live event survive a signal on it. -/
theorem signalEvent_keeps (h : Inv s) (he : eventFromHandle s handle = some e) :
    ((signalEvent s handle).2.events e).live = true ∧
    ((signalEvent s handle).2.events e).manualReset = (s.events e).manualReset := by
  obtain ⟨hi, hl, _⟩ := eventFromHandle_eq_some h.objects he
  cases hm : (s.events e).manualReset with
  | true =>
    obtain ⟨_, _, hended, _⟩ := signalEvent_manual h hi he hl hm
    obtain ⟨w, n, hwn, _⟩ := hended.events e
    rw [hwn]
    simp [hl, hm]
  | false =>
    by_cases hc : (s.events e).waiterCount = 0
    · rw [(signalEvent_idle h he hl hm hc).1]
      simp [hl, hm]
    · obtain ⟨_, _, q, t, _, _, hw⟩ := signalEvent_auto h hi he hl hm hc
      rw [hw.events, if_pos rfl]
      exact ⟨hl, hm⟩

theorem step_balanced (h : Inv s) {n : EventSlot → Tally} (hn : Balanced (s.events e) (n e))
    (op : Op) : Balanced ((step s op).events e) (noteTokens s op n e) := by
  have heffect := step_effect h op
  have hrecord := heffect.record h
  intro hlive hauto
  cases heffect.event h e with
  | kept hsame hflags hsignal hclear htaken =>
    rw [hsame] at hlive
    obtain ⟨hmanual, hset⟩ := hflags hlive
    have hbefore := hn hlive (hmanual ▸ hauto)
    rw [noteTokens_eq n hrecord hlive hsignal]
    simp only [Waitable.tokens, hset, hclear, htaken, if_false] at hbefore ⊢
    omega
  | created hdead _ _ =>
    unfold noteTokens
    rw [if_pos ⟨hdead, hlive⟩]
    simp
  | destroyed _ hdead _ =>
    rw [hlive] at hdead
    cases hdead
  | signaled handle he hs hsignal hclear htaken =>
    obtain ⟨_, hl, _⟩ := eventFromHandle_eq_some h.objects he
    have hm : (s.events e).manualReset = false := by
      rw [← (signalEvent_keeps h he).2, ← hs]
      exact hauto
    have hbefore := hn hl hm
    rw [noteTokens_signal n hl hsignal hclear htaken, hs]
    by_cases hc : (s.events e).waiterCount = 0
    · -- No thread waits: the token stays, or it is the second one.
      have hleaves := signalEvent_leavesToken h he hm hc
      have hnone : signaledWaits s (signalEvent s handle).2 e = ∅ := by
        rw [Finset.eq_empty_iff_forall_notMem]
        intro r hr
        obtain ⟨⟨hp, _⟩, hdone, _⟩ := mem_signaledWaits.mp hr
        rw [hleaves.records, hp.2] at hdone
        cases hdone
      rw [hnone]
      simp only [Waitable.tokens, hleaves.set, if_true, Finset.card_empty] at hbefore ⊢
      omega
    · have hwakes := signalEvent_wakesOne h he hm hc
      obtain ⟨r, hr, _⟩ := hwakes.one
      have hunset : (s.events e).signaled = false := by
        rw [Bool.eq_false_iff]
        intro hset
        exact hc (h.quiet e hl hset)
      rw [hr]
      simp only [Waitable.tokens, hwakes.unset, hunset, Finset.card_singleton,
        Bool.false_eq_true, if_false] at hbefore ⊢
      omega
  | cleared hevent hclear hsignal htaken =>
    rw [hevent] at hlive hauto ⊢
    have hbefore := hn hlive hauto
    rw [noteTokens_eq n hrecord hlive hsignal]
    simp only [Waitable.tokens, hclear, htaken, if_true, if_false, Bool.false_eq_true] at hbefore ⊢
    omega
  | taken hset hevent htaken hsignal hclear =>
    rw [hevent] at hlive hauto ⊢
    have hbefore := hn hlive hauto
    rw [noteTokens_eq n hrecord hlive hsignal]
    simp only at hauto
    simp only [Waitable.tokens, hset, hauto, hclear, htaken, if_true, if_false,
      Bool.false_eq_true] at hbefore ⊢
    omega

theorem tokenRun_balanced {n : EventSlot → Tally} (h : TokenRun s n) (e : EventSlot) :
    Balanced (s.events e) (n e) := by
  apply h.invariant (P := fun s n => Balanced (s.events e) (n e))
  · rintro s ⟨i, hi⟩ hlive
    -- A run starts with no event.
    have hsame := (Waitable.view_eq ((started_unseen hi).events e)).2.2.1
    rw [hlive] at hsame
    cases hsame
  · intro s n op hreach hn _
    exact step_balanced (reachableBy_inv hreach) hn op

/-! ## A set manual-reset event -/

/-- The event lives on and it is not reset. -/
def StaysSet (e : EventSlot) (s : State) (op : Op) : Prop :=
  ((step s op).events e).live = true ∧ clearedEvent s op ≠ some e

theorem step_staysSet (h : Inv s) (hlive : (s.events e).live = true)
    (hm : (s.events e).manualReset = true) (hset : (s.events e).signaled = true)
    (hop : StaysSet e s op) :
    ((step s op).events e).manualReset = true ∧ ((step s op).events e).signaled = true := by
  cases (step_effect h op).event h e with
  | kept _ hflags _ _ _ =>
    obtain ⟨h1, h2⟩ := hflags hlive
    exact ⟨h1.trans hm, h2.trans hset⟩
  | created hdead _ _ =>
    rw [hlive] at hdead
    cases hdead
  | destroyed _ hdead _ =>
    rw [hop.1] at hdead
    cases hdead
  | signaled handle he hs _ _ _ =>
    rw [hs]
    exact ⟨(signalEvent_keeps h he).2.trans hm, (signalEvent_wakesAll h he hm).set⟩
  | cleared _ hclear _ _ => exact absurd hclear hop.2
  | taken _ hevent _ _ _ =>
    rw [hevent]
    exact ⟨hm, hm⟩

/-- A set manual-reset event stays set for as long as it lives and is not reset. -/
theorem steps_staySet (h : Inv s) (hlive : (s.events e).live = true)
    (hm : (s.events e).manualReset = true) (hset : (s.events e).signaled = true)
    (hsteps : Runs.Steps step (StaysSet e) s s') : (s'.events e).signaled = true := by
  have hall : Inv s' ∧ (s'.events e).live = true ∧ (s'.events e).manualReset = true ∧
      (s'.events e).signaled = true := by
    induction hsteps with
    | refl => exact ⟨h, hlive, hm, hset⟩
    | @step u op _ hop ih =>
      obtain ⟨hinv, hl, hmanual, hs⟩ := ih
      obtain ⟨h1, h2⟩ := step_staysSet hinv hl hmanual hs hop
      exact ⟨step_inv hinv op, hop.1, h1, h2⟩
  exact hall.2.2.2

/-! ## Resets and closed handles -/

/-- No wait is completed, taken back or lost: the records and the waiter lists are as
before, the events live on, and a blocked thread still waits on its record. -/
structure WaitersKept (s s' : State) : Prop where
  records : s'.waitRecords = s.waitRecords
  lists : ∀ e, (s'.events e).waiters = (s.events e).waiters ∧
    (s'.events e).waiterCount = (s.events e).waiterCount
  events : ∀ e, (s'.events e).live = (s.events e).live
  threads : ∀ t, (s.threads t).live = true → (s.threads t).state = .blocked →
    (s'.threads t).live = true ∧ (s'.threads t).state = .blocked ∧
    (s'.threads t).waitRecord = (s.threads t).waitRecord

theorem WaitersKept.refl (s : State) : WaitersKept s s :=
  ⟨rfl, fun _ => ⟨rfl, rfl⟩, fun _ => rfl, fun _ hl hb => ⟨hl, hb, rfl⟩⟩

theorem WaitersKept.trans {s'' : State} (h : WaitersKept s s') (h' : WaitersKept s' s'') :
    WaitersKept s s'' := by
  refine ⟨h'.records.trans h.records, fun e => ?_, fun e => (h'.events e).trans (h.events e), ?_⟩
  · exact ⟨(h'.lists e).1.trans (h.lists e).1, (h'.lists e).2.trans (h.lists e).2⟩
  · intro t hl hb
    obtain ⟨hl', hb', hr⟩ := h.threads t hl hb
    obtain ⟨hl'', hb'', hr'⟩ := h'.threads t hl' hb'
    exact ⟨hl'', hb'', hr'.trans hr⟩

theorem Unseen.waitersKept (h : Unseen s s') : WaitersKept s s' := by
  refine ⟨h.waitRecords, fun e => ?_, fun e => ?_, fun t hl hb => ?_⟩
  · obtain ⟨h1, h2, _⟩ := Waitable.view_eq (h.events e)
    exact ⟨h1, h2⟩
  · exact (Waitable.view_eq (h.events e)).2.2.1
  · obtain ⟨_, ⟨hstate, hboot⟩, hwait, _⟩ := Tcb.view_eq (h.threads t)
    exact ⟨(Tcb.bootView_eq hboot).1.trans hl, hstate.trans hb, (Tcb.waitView_eq hwait).2.1⟩

/-- Only a thread that has ended is reclaimed. -/
theorem maybeReclaimThread_waitersKept (h : Core s) (t : ThreadSlot) (unregistered : Bool) :
    WaitersKept s (maybeReclaimThread s t unregistered) := by
  rcases maybeReclaimThread_cases s t unregistered with heq | ⟨hr, hu⟩
  · rw [heq]
    exact WaitersKept.refl s
  · obtain ⟨_, _, hended, _⟩ := reclaimable_facts h hr
    have hgone : WaitersKept s (withoutThread s t) := by
      refine ⟨rfl, fun _ => ⟨rfl, rfl⟩, fun _ => rfl, fun u hl hb => ?_⟩
      have hne : u ≠ t := by
        rintro rfl
        rw [hended] at hb
        cases hb
      simp [withoutThread, releaseObjectRecord, hne, hl, hb]
    exact hgone.trans hu.waitersKept

theorem closeHandle_waitersKept (h : Inv s) (handle : Nat) (unregistered : Bool) :
    WaitersKept s (closeHandle s handle unregistered).2 := by
  rcases closeHandle_cases h.objects handle unregistered with
    heq | ⟨o, e, _, heq⟩ | ⟨o, t, _, ho, heq⟩
  · rw [heq]
    exact WaitersKept.refl s
  · rw [heq]
    exact ⟨rfl, fun _ => ⟨rfl, rfl⟩, fun _ => rfl, fun _ hl hb => ⟨hl, hb, rfl⟩⟩
  · rw [heq]
    have hclosed : WaitersKept s (closedThread s o t) := by
      refine ⟨rfl, fun _ => ⟨rfl, rfl⟩, fun _ => rfl, fun u hl hb => ?_⟩
      refine ⟨?_, ?_, view_modThread Tcb.waitRecord (closedObject s o) t (by rfl) u⟩
      · exact (view_modThread Tcb.live (closedObject s o) t (by rfl) u).trans hl
      · exact (view_modThread Tcb.state (closedObject s o) t (by rfl) u).trans hb
    exact hclosed.trans
      (maybeReclaimThread_waitersKept (closedThread_inv h ho).toCore t unregistered)

theorem resetEvent_waitersKept (h : Inv s) (handle : Nat) :
    WaitersKept s (resetEvent s handle).2 := by
  rcases resetEvent_eq h handle with ⟨heq, _⟩ | ⟨e, _, heq⟩
  · rw [heq]
    exact WaitersKept.refl s
  · rw [heq]
    dsimp only
    refine ⟨rfl, fun d => ?_, ?_, fun _ hl hb => ⟨hl, hb, rfl⟩⟩
    · exact ⟨view_modEvent Waitable.waiters s e (by rfl) d,
        view_modEvent Waitable.waiterCount s e (by rfl) d⟩
    · exact view_modEvent Waitable.live s e (by rfl)

/-- The operations that reset an event or close a handle. -/
def resetsOrCloses : Op → Bool
  | .resetEvent .. | .resetEventContract .. | .closeHandle .. => true
  | _ => false

theorem step_waitersKept (h : Inv s) (hop : resetsOrCloses op = true) :
    WaitersKept s (step s op) := by
  cases op with
  | resetEvent handle => exact resetEvent_waitersKept h handle
  | closeHandle handle u => exact closeHandle_waitersKept h handle u
  | resetEventContract a handle =>
    refine eventContract_rule (P := WaitersKept s) (WaitersKept.refl s)
      (resetEvent_waitersKept h handle) ?_
    intro s1 error h1
    exact h1.trans (setLastError_unseen s1 error).waitersKept
  | _ => cases hop

/-! ## Conservation of signals -/

/-- The laws of the signals on one event, in a state of a run with the tally of the event. -/
structure SignalsConserved (s : State) (n : Tally) (e : EventSlot) : Prop where
  balance : (s.events e).manualReset = false →
    n.ended + (s.events e).tokens + n.redundant + n.removed = n.initial + n.signals
  wakes_one : ∀ op, signaledEvent s op = some e → (s.events e).manualReset = false →
    (s.events e).waiterCount ≠ 0 → WakesOne s (step s op) e
  leaves_token : ∀ op, signaledEvent s op = some e → (s.events e).manualReset = false →
    (s.events e).waiterCount = 0 → LeavesToken s (step s op) e
  takes_token : ∀ op, takenEvent s op = some e → (s.events e).signaled = true ∧
    ((step s op).events e).signaled = (s.events e).manualReset
  wakes_all : ∀ op, signaledEvent s op = some e → (s.events e).manualReset = true →
    WakesAll s (step s op) e
  stays_set : ∀ op, signaledEvent s op = some e → (s.events e).manualReset = true →
    ∀ s', Runs.Steps step (StaysSet e) (step s op) s' → (s'.events e).signaled = true

theorem signaledEvent_step (h : Inv s) (hop : signaledEvent s op = some e) :
    ∃ handle, eventFromHandle s handle = some e ∧ step s op = (signalEvent s handle).2 := by
  cases (step_effect h op).event h e with
  | signaled handle he hs _ _ _ => exact ⟨handle, he, hs⟩
  | kept _ _ hsignal _ _ => exact absurd hop hsignal
  | created _ _ hidle => exact absurd hop (hidle.ne e).1
  | destroyed _ _ hidle => exact absurd hop (hidle.ne e).1
  | cleared _ _ hsignal _ => exact absurd hop hsignal
  | taken _ _ _ hsignal _ => exact absurd hop hsignal

theorem takenEvent_step (h : Inv s) (hop : takenEvent s op = some e) :
    (s.events e).signaled = true ∧
    ((step s op).events e).signaled = (s.events e).manualReset := by
  cases (step_effect h op).event h e with
  | taken hset hevent _ _ _ => exact ⟨hset, by rw [hevent]⟩
  | kept _ _ _ _ htaken => exact absurd hop htaken
  | created _ _ hidle => exact absurd hop (hidle.ne e).2.2
  | destroyed _ _ hidle => exact absurd hop (hidle.ne e).2.2
  | signaled _ _ _ _ _ htaken => exact absurd hop htaken
  | cleared _ _ _ htaken => exact absurd hop htaken

/-- In every run the signals on each event are conserved, and a reset or a closed handle
leaves every wait as it is. -/
theorem event_signals_are_conserved {n : EventSlot → Tally} (h : TokenRun s n) :
    (∀ e, (s.events e).live = true → SignalsConserved s (n e) e) ∧
    ∀ op, resetsOrCloses op = true → WaitersKept s (step s op) := by
  have hinv := reachableBy_inv h.reach
  refine ⟨fun e hlive => ⟨?_, ?_, ?_, ?_, ?_, ?_⟩, fun op hop => step_waitersKept hinv hop⟩
  · exact tokenRun_balanced h e hlive
  · intro op hop hm hc
    obtain ⟨handle, he, hs⟩ := signaledEvent_step hinv hop
    rw [hs]
    exact signalEvent_wakesOne hinv he hm hc
  · intro op hop hm hc
    obtain ⟨handle, he, hs⟩ := signaledEvent_step hinv hop
    rw [hs]
    exact signalEvent_leavesToken hinv he hm hc
  · intro op hop
    exact takenEvent_step hinv hop
  · intro op hop hm
    obtain ⟨handle, he, hs⟩ := signaledEvent_step hinv hop
    rw [hs]
    exact signalEvent_wakesAll hinv he hm
  · intro op hop hm s' hsteps
    obtain ⟨handle, he, hs⟩ := signaledEvent_step hinv hop
    rw [hs] at hsteps
    obtain ⟨hl, hkept⟩ := signalEvent_keeps hinv he
    exact steps_staySet (signalEvent_inv hinv handle) hl (hkept.trans hm)
      (signalEvent_wakesAll hinv he hm).set hsteps

/-- The worker of `sampleWait` is woken, and two more signals leave one token. -/
def sampleSignals : List Op :=
  sampleWait ++ [.signalEvent sampleEvent, .signalEvent sampleEvent, .signalEvent sampleEvent]

def sampleTallies : EventSlot → Tally :=
  (Runs.run (Runs.noting step noteTokens) (sampleStart, fun _ => {}) sampleSignals).2

theorem sampleSignals_are_conserved :
    sampleTallies 0 = { initial := 0, signals := 3, redundant := 1, removed := 0, ended := 1 } ∧
    SignalsConserved (Runs.run step sampleStart sampleSignals) (sampleTallies 0) 0 := by
  refine ⟨by decide +kernel, ?_⟩
  have hstart : TokenRun sampleStart fun _ => {} := .start ⟨sampleStart_started, rfl⟩
  have hrun : TokenRun (Runs.run step sampleStart sampleSignals) sampleTallies :=
    Runs.ReachNoting.run hstart sampleSignals fun _ _ _ => trivial
  exact (event_signals_are_conserved hrun).1 0 (by decide +kernel)

end Gate4Harness.Scheduler
