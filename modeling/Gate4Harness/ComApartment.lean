-- The COM apartments of the threads (com_api.c). Each thread counts its initializations in its
-- control block, which is cleared at its start and at its end, so what it finds there is what
-- it counted itself, however the threads take turns.
import Gate4Harness.SchedulerLaws
import Gate4Harness.SchedulerLives

namespace Gate4Harness.ComApartment

open scoped Scheduler
open Scheduler (Thread Lives ThreadSlot Tcb noteLives)

/-! ## The functions -/

def coinitApartmentThreaded : BitVec 32 := 0x2
def coinitDisableOle1Dde : BitVec 32 := 0x4
def coinitSpeedOverMemory : BitVec 32 := 0x8
def coinitConcurrencyMask : BitVec 32 := coinitApartmentThreaded
def coinitAncillaryMask : BitVec 32 := coinitDisableOle1Dde ||| coinitSpeedOverMemory
def knownCoinitFlags : BitVec 32 :=
  coinitApartmentThreaded ||| coinitDisableOle1Dde ||| coinitSpeedOverMemory

/-- The results, as the 32 bits of an `HRESULT`. -/
def comSOk : BitVec 32 := 0x00000000
def comSFalse : BitVec 32 := 0x00000001
def comEInvalidArg : BitVec 32 := 0x80070057
def comENotImpl : BitVec 32 := 0x80004001
def comRpcEChangedMode : BitVec 32 := 0x80010106

def comModelNone : Nat := 0
def comModelMta : Nat := 1
def comModelSta : Nat := 2

def uint32Max : Nat := 0xFFFFFFFF

/-- The fields of a thread control block that only this file writes. -/
structure ComState where
  comInitialized : Nat := 0
  comModel : Nat := 0
  comAncillaryFlags : BitVec 8 := 0
  comInitializationCount : Nat := 0
  comGeneration : Nat := 0
  deriving DecidableEq

/-- The scheduler, with these fields of its threads. -/
structure World where
  scheduler : Scheduler.State := {}
  com : ThreadSlot → ComState := fun _ => {}

/-- `gxos_scheduler_current_thread`. -/
def currentThread (s : Scheduler.State) : Option ThreadSlot :=
  if s.installed then s.current else none

def comStateIsValid (w : World) (thread : Option ThreadSlot) : Bool :=
  match thread with
  | none => false
  | some t =>
    (w.scheduler.threads t).live && decide ((w.com t).comInitialized ≠ 0) &&
    decide ((w.com t).comModel ≠ comModelNone) &&
    decide ((w.com t).comInitializationCount ≠ 0) && decide ((w.com t).comGeneration ≠ 0) &&
    decide ((w.com t).comGeneration = (w.scheduler.threads t).generation)

def World.setCom (w : World) (t : ThreadSlot) (x : ComState) : World :=
  { w with com := Function.update w.com t x }

def clearComState (w : World) (t : ThreadSlot) : World := w.setCom t {}

/-- `gxos_com_initialize_ex` -/
def comInitializeEx (w : World) (pvReserved : Nat) (coinit : BitVec 32) : BitVec 32 × World :=
  if pvReserved ≠ 0 ∨ coinit &&& ~~~knownCoinitFlags ≠ 0 then (comEInvalidArg, w)
  else
    match currentThread w.scheduler with
    | none => (comENotImpl, w)
    | some t =>
      if ¬ (w.scheduler.threads t).live then (comENotImpl, w)
      else
        let model := if coinit &&& coinitConcurrencyMask ≠ 0 then comModelSta else comModelMta
        if comStateIsValid w (some t) then
          if (w.com t).comModel ≠ model then (comRpcEChangedMode, w)
          else if (w.com t).comInitializationCount = uint32Max then (comENotImpl, w)
          else
            (comSFalse, w.setCom t
              { w.com t with comInitializationCount := (w.com t).comInitializationCount + 1 })
        else if model = comModelSta then (comENotImpl, w)
        else
          (comSOk, (clearComState w t).setCom t
            { comInitialized := 1
              comModel := comModelMta
              comAncillaryFlags := (coinit &&& coinitAncillaryMask).setWidth 8
              comInitializationCount := 1
              comGeneration := (w.scheduler.threads t).generation })

/-- `gxos_com_uninitialize` -/
def comUninitialize (w : World) : World :=
  let thread := currentThread w.scheduler
  if ¬ comStateIsValid w thread then w
  else
    match thread with
    | none => w
    | some t =>
      if (w.com t).comInitializationCount = 0 then w
      else
        let w1 := w.setCom t
          { w.com t with comInitializationCount := (w.com t).comInitializationCount - 1 }
        if (w1.com t).comInitializationCount = 0 then clearComState w1 t else w1

/-- The queries answer with a field of a valid state, or with 0. -/
def comQuery {α : Type} [OfNat α 0] (w : World) (thread : Option ThreadSlot)
    (field : ComState → α) : α :=
  match thread with
  | none => 0
  | some t => if comStateIsValid w (some t) then field (w.com t) else 0

def comIsInitialized (w : World) (thread : Option ThreadSlot) : Nat :=
  comQuery w thread fun _ => 1

def comModel (w : World) (thread : Option ThreadSlot) : Nat := comQuery w thread (·.comModel)

def comAncillaryFlags (w : World) (thread : Option ThreadSlot) : BitVec 32 :=
  comQuery w thread (·.comAncillaryFlags.setWidth 32)

def comNestingCount (w : World) (thread : Option ThreadSlot) : Nat :=
  comQuery w thread (·.comInitializationCount)

def comStateGeneration (w : World) (thread : Option ThreadSlot) : Nat :=
  comQuery w thread (·.comGeneration)

/-! ## The machine -/

/-- The running thread calls one of the functions, or the scheduler is started or does
anything. -/
inductive Event
  | boot (input : Scheduler.BootInput)
  | scheduler (op : Scheduler.Op)
  | initializeEx (pvReserved : Nat) (coinit : BitVec 32)
  | uninitializeThread

/-- The scheduler clears a control block with the start and with the end of its thread. -/
def comAfter (s s' : Scheduler.State) (com : ThreadSlot → ComState) (t : ThreadSlot) : ComState :=
  if (s.threads t).live ∧ (s'.threads t).live then com t else {}

/-- A boot that fails ends the program, and leaves the world as it is. -/
def step (w : World) : Event → World
  | .boot input =>
    match Scheduler.initializeScheduler input with
    | (true, scheduler) => { scheduler }
    | (false, _) => w
  | .scheduler op =>
    { scheduler := Scheduler.step w.scheduler op
      com := comAfter w.scheduler (Scheduler.step w.scheduler op) w.com }
  | .initializeEx pvReserved coinit => (comInitializeEx w pvReserved coinit).2
  | .uninitializeThread => comUninitialize w

/-- The thread that calls. -/
def caller (w : World) (lives : Lives) : Option Thread :=
  (currentThread w.scheduler).map fun t => ⟨t, lives t⟩

/-- What an observer of the results counts for each thread: the initializations that succeeded
and were not undone, and the flags of the first of them. -/
structure Notes where
  lives : Lives := fun _ => 0
  counts : Thread → Nat := fun _ => 0
  flags : Thread → BitVec 32 := fun _ => 0

/-- The caller got this result. -/
def Notes.reply (n : Notes) (thread : Thread) (coinit result : BitVec 32) : Notes :=
  if result = comSOk then
    { n with counts := Function.update n.counts thread (n.counts thread + 1)
             flags := Function.update n.flags thread (coinit &&& coinitAncillaryMask) }
  else if result = comSFalse then
    { n with counts := Function.update n.counts thread (n.counts thread + 1) }
  else n

def note (w : World) (e : Event) (n : Notes) : Notes :=
  match e with
  | .boot _ | .scheduler _ =>
    { n with lives := noteLives w.scheduler (step w e).scheduler n.lives }
  | .initializeEx pvReserved coinit =>
    match caller w n.lives with
    | none => n
    | some thread => n.reply thread coinit (comInitializeEx w pvReserved coinit).1
  | .uninitializeThread =>
    match caller w n.lives with
    | none => n
    | some thread => { n with counts := Function.update n.counts thread (n.counts thread - 1) }

/-- The scheduler is booted once at a time. -/
def InOrder (w : World) : Event → Prop
  | .boot _ => w.scheduler.installed = false
  | .scheduler _ => w.scheduler.installed = true
  | _ => True

instance (w : World) (e : Event) : Decidable (InOrder w e) :=
  match e with
  | .boot _ | .scheduler _ => inferInstanceAs (Decidable (_ = _))
  | .initializeEx .. | .uninitializeThread => inferInstanceAs (Decidable True)

/-- The worlds that any order of the events reaches, with the notes of the observer. -/
def Run : World → Notes → Prop :=
  Runs.ReachNoting (fun w => w = {}) step InOrder (fun _ => {}) note

/-! ## The generation of a live thread -/

/-- A thread keeps its generation while it lives. -/
def SameGeneration (x x' : Tcb) : Prop :=
  x.live = true → x'.live = true → x'.generation = x.generation

theorem SameGeneration.of_eq {x x' : Tcb} (h : x' = x) : SameGeneration x x' := by
  intro _ _
  rw [h]

theorem SameGeneration.cleared {x x' x'' : Tcb} (h : x'.live = x.live)
    (hg : x'.generation = x.generation) (h' : x'' = x' ∨ x'' = {}) : SameGeneration x x'' := by
  rcases h' with rfl | rfl
  · exact fun _ _ => hg
  · intro _ hlive
    cases hlive

variable {s s' : Scheduler.State} {w : World} {n : Notes} {t : ThreadSlot}

theorem rescheduled_generation (h : Scheduler.Rescheduled s s') (t : ThreadSlot) :
    (s'.threads t).live = (s.threads t).live ∧
      (s'.threads t).generation = (s.threads t).generation := by
  have hlive := congrArg Tcb.live (h.threads t)
  have hgeneration := congrArg Tcb.generation (h.threads t)
  exact ⟨hlive, hgeneration⟩

theorem createSuspendedThread_generation (hi : s.installed = true) (p : Scheduler.SchedulerPtr)
    (entry argument : Nat) (handleOut threadOut : Bool) (a : Scheduler.CreateAnswers) :
    SameGeneration (s.threads t) ((Scheduler.createSuspendedThread s p entry argument handleOut
      threadOut a).2.threads t) := by
  rcases Scheduler.createSuspendedThread_takes hi p entry argument handleOut threadOut a with
    heq | ⟨u, hfree, htakes⟩
  · exact .of_eq (by rw [heq])
  · by_cases ht : t = u
    · subst ht
      intro hlive
      rw [hfree] at hlive
      cases hlive
    · exact .of_eq (htakes.others t ht)

theorem adoptBootEnvironment_generation (hi : s.installed = true) (p : Scheduler.SchedulerPtr)
    (b : Scheduler.BootEnvironment) (t : ThreadSlot) :
    SameGeneration (s.threads t) ((Scheduler.adoptBootEnvironment s p b).2.threads t) := by
  unfold Scheduler.adoptBootEnvironment
  split
  · exact .of_eq rfl
  · cases hboot : s.bootThread with
    | none => exact .of_eq rfl
    | some boot =>
      have hfree := (Scheduler.freeThreadEnvironment_pages hi boot).1
      intro _ _
      by_cases ht : t = boot
      · subst ht
        simp [hfree, Scheduler.unfurnished]
      · simp [hfree, ht]

theorem setFls_generation (s : Scheduler.State) (slot value : Nat) (t : ThreadSlot) :
    SameGeneration (s.threads t) ((Scheduler.setFls s slot value).threads t) := by
  unfold Scheduler.setFls
  intro _ _
  split
  · rfl
  · rename_i c _
    split
    · by_cases ht : t = c
      · subst ht
        simp
      · simp [ht]
    · rfl

theorem contextSwitch_generation (s : Scheduler.State) (p : Scheduler.SwitchPlan)
    (f : Nat) (t : ThreadSlot) :
    SameGeneration (s.threads t) ((Scheduler.contextSwitch s p f).threads t) := by
  unfold Scheduler.contextSwitch
  intro _ _
  split
  · rfl
  · rename_i old _
    by_cases ht : t = old
    · subst ht
      simp
    · simp [ht]

theorem teardown_generation (hinv : Scheduler.Inv s)
    (p : Scheduler.SchedulerPtr) (unregistered : ThreadSlot → Bool) (t : ThreadSlot) :
    SameGeneration (s.threads t) ((Scheduler.teardown s p unregistered).2.threads t) := by
  have hcollect := Scheduler.collect_threads hinv p unregistered t
  rcases Scheduler.teardown_cases hinv p unregistered with heq | heq | ⟨_, _, _, heq⟩ <;> rw [heq]
  · exact .of_eq rfl
  · exact .cleared rfl rfl hcollect
  · intro _ hlive
    have hvacant := (Scheduler.teardown_inv hinv p unregistered).current.vacant (by rw [heq]; rfl) t
    rw [heq] at hvacant
    rw [hvacant] at hlive
    cases hlive

/-- No step gives a live thread another generation. -/
theorem step_generation (hinv : Scheduler.Inv s) (hi : s.installed = true) (op : Scheduler.Op)
    (t : ThreadSlot) : SameGeneration (s.threads t) ((Scheduler.step s op).threads t) := by
  cases hfls : Scheduler.setsFls op with
  | true =>
    cases op with
    | setFls slot value => exact setFls_generation s slot value t
    | _ => cases hfls
  | false =>
    cases htouch : Scheduler.touchesPages op with
    | false =>
      exact fun _ _ => (rescheduled_generation (Scheduler.step_rescheduled s htouch hfls) t).2
    | true =>
      cases op with
      | adoptBootEnvironment p b => exact adoptBootEnvironment_generation hi p b t
      | createSuspendedThread p e a b d w => exact createSuspendedThread_generation hi p e a b d w
      | closeHandle handle w =>
        change SameGeneration _ ((Scheduler.closeHandle s handle w).2.threads t)
        rcases Scheduler.closeHandle_cases hinv.objects handle w with
          heq | ⟨o, e, _, heq⟩ | ⟨o, u, _, ho, heq⟩ <;> rw [heq]
        · exact .of_eq rfl
        · exact .of_eq rfl
        · have hsame := rescheduled_generation (Scheduler.closedThread_rescheduled s o u) t
          exact .cleared hsame.1 hsame.2 (Scheduler.maybeReclaimThread_threads
            (Scheduler.closedThread_inv hinv ho).toCore u t w)
      | contextSwitch p f => exact contextSwitch_generation s p f t
      | tryReclaimThread u w =>
        change SameGeneration _ ((Scheduler.tryReclaimThread s u w).2.threads t)
        unfold Scheduler.tryReclaimThread
        cases u with
        | none => exact .of_eq rfl
        | some u =>
          simp only
          split
          · exact .of_eq rfl
          · exact .cleared rfl rfl (Scheduler.maybeReclaimThread_threads hinv.toCore u t w)
      | discardCreatedThread u w =>
        change SameGeneration _ ((Scheduler.discardCreatedThread s u w).2.threads t)
        rcases Scheduler.discardCreatedThread_cases hinv.toCore u w with
          heq | ⟨v, _, hd, heq⟩ <;> rw [heq]
        · exact .of_eq rfl
        · have hsame := rescheduled_generation (Scheduler.withdrawn_rescheduled hinv.toCore hd) t
          exact .cleared hsame.1 hsame.2 (Scheduler.maybeReclaimThread_threads
            (Scheduler.withdrawn_inv hinv hd).toCore v t w)
      | collect p w => exact .cleared rfl rfl (Scheduler.collect_threads hinv p w t)
      | teardown p w => exact teardown_generation hinv p w t
      | _ => cases htouch

/-- The generation of a live thread is not 0. -/
theorem live_generation (hinv : Scheduler.Inv s) (hlive : (s.threads t).live = true) :
    (s.threads t).generation ≠ 0 := by
  obtain ⟨ho, htype, htarget⟩ := hinv.objects.thread t hlive
  have hfit := hinv.objects.target _ ho
  unfold Scheduler.TargetFits at hfit
  rw [htype] at hfit
  obtain ⟨u, hu, _, _, hgeneration, _⟩ := hfit
  have hut : u = t := by
    rw [htarget] at hu
    cases hu
    rfl
  subst hut
  rw [hgeneration]
  exact (hinv.objects.slot _ ho).2.1.1

/-! ## The fields hold what the thread counted -/

/-- The fields of a thread that is initialized `count` times. -/
def counted (generation count : Nat) (flags : BitVec 32) : ComState :=
  if count = 0 then {}
  else
    { comInitialized := 1, comModel := comModelMta, comAncillaryFlags := flags.setWidth 8
      comInitializationCount := count, comGeneration := generation }

/-- Each live thread finds its own count. -/
structure Refines (w : World) (n : Notes) : Prop where
  inv : w.scheduler.installed = true → Scheduler.Inv w.scheduler
  vacant : w.scheduler.installed = false → ∀ t, (w.scheduler.threads t).live = false
  own : ∀ t, (w.scheduler.threads t).live = true → w.com t =
    counted (w.scheduler.threads t).generation (n.counts ⟨t, n.lives t⟩) (n.flags ⟨t, n.lives t⟩)
  bounded : ∀ thread, n.counts thread ≤ uint32Max
  masked : ∀ thread, n.flags thread &&& coinitAncillaryMask = n.flags thread
  later : ∀ t k, n.lives t < k → n.counts ⟨t, k⟩ = 0

theorem Refines.installed (h : Refines w n) (hlive : (w.scheduler.threads t).live = true) :
    w.scheduler.installed = true := by
  by_contra hi
  rw [h.vacant (by simpa using hi) t] at hlive
  cases hlive

/-- The check of the fields of a live thread comes down to its count. -/
theorem Refines.valid (h : Refines w n) (hlive : (w.scheduler.threads t).live = true) :
    comStateIsValid w (some t) = decide (n.counts ⟨t, n.lives t⟩ ≠ 0) := by
  have hgeneration := live_generation (h.inv (h.installed hlive)) hlive
  unfold comStateIsValid
  dsimp only
  rw [h.own t hlive]
  unfold counted
  split
  · rename_i hcount
    simp [hcount]
  · rename_i hcount
    simp [hcount, hlive, hgeneration, comModelMta, comModelNone]

theorem Refines.init : Refines {} {} where
  inv h := by cases h
  vacant _ _ := rfl
  own _ h := by cases h
  bounded _ := Nat.zero_le _
  masked _ := BitVec.zero_and
  later _ _ _ := rfl

theorem le_noteLives (s s' : Scheduler.State) (lives : Lives) (t : ThreadSlot) :
    lives t ≤ noteLives s s' lives t := by
  unfold noteLives
  split
  · exact Nat.le_succ _
  · exact Nat.le_refl _

/-- A thread that is live before and after a step keeps its fields, and a new thread starts with
cleared ones. -/
theorem Refines.scheduled (h : Refines w n) (hinv : Scheduler.Inv s')
    (hsame : ∀ t, SameGeneration (w.scheduler.threads t) (s'.threads t)) :
    Refines { scheduler := s', com := comAfter w.scheduler s' w.com }
      { n with lives := noteLives w.scheduler s' n.lives } := by
  refine ⟨fun _ => hinv, fun hi => hinv.current.vacant hi, fun t hlive => ?_, h.bounded, h.masked,
    fun t k hk => ?_⟩
  · change comAfter w.scheduler s' w.com t = counted (s'.threads t).generation
      (n.counts ⟨t, noteLives w.scheduler s' n.lives t⟩)
      (n.flags ⟨t, noteLives w.scheduler s' n.lives t⟩)
    unfold comAfter noteLives
    change (s'.threads t).live = true at hlive
    cases hold : (w.scheduler.threads t).live with
    | true =>
      have hnotborn : ¬ Scheduler.Born w.scheduler s' t := by
        rintro ⟨hfree, _⟩
        rw [hold] at hfree
        cases hfree
      rw [if_pos ⟨rfl, hlive⟩, if_neg hnotborn, h.own t hold, ← hsame t hold hlive]
    | false =>
      rw [if_neg (by simp), if_pos ⟨hold, hlive⟩, h.later t _ (Nat.lt_succ_self _)]
      rfl
  · exact h.later t k (Nat.lt_of_le_of_lt (le_noteLives _ _ _ t) hk)

theorem Refines.boot (h : Refines w n) {input : Scheduler.BootInput}
    (hi : w.scheduler.installed = false) :
    Refines (step w (.boot input)) (note w (.boot input) n) := by
  unfold note
  cases hb : Scheduler.initializeScheduler input with
  | mk ok s =>
    cases ok with
    | false =>
      simp only [step, hb]
      have hlives : noteLives w.scheduler w.scheduler n.lives = n.lives := by
        funext t
        unfold noteLives
        rw [if_neg]
        rintro ⟨hfree, hlive⟩
        rw [hfree] at hlive
        cases hlive
      rw [hlives]
      exact h
    | true =>
      simp only [step, hb]
      have hcom : (fun _ => {} : ThreadSlot → ComState) = comAfter w.scheduler s w.com := by
        funext t
        unfold comAfter
        rw [if_neg]
        rintro ⟨hlive, _⟩
        rw [h.vacant hi t] at hlive
        cases hlive
      rw [hcom]
      refine h.scheduled (Scheduler.started_inv ⟨input, hb⟩) fun t hlive => ?_
      rw [h.vacant hi t] at hlive
      cases hlive

/-- The running thread gets the fields that fit its new count. -/
theorem Refines.setCaller (h : Refines w n) (hlive : (w.scheduler.threads t).live = true)
    (count : Nat) (flags : BitVec 32) (hcount : count ≤ uint32Max)
    (hflags : flags &&& coinitAncillaryMask = flags) :
    Refines (w.setCom t (counted (w.scheduler.threads t).generation count flags))
      { n with counts := Function.update n.counts ⟨t, n.lives t⟩ count
               flags := Function.update n.flags ⟨t, n.lives t⟩ flags } := by
  refine ⟨h.inv, h.vacant, fun u hu => ?_, fun thread => ?_, fun thread => ?_, fun u k hk => ?_⟩
  · by_cases hut : u = t
    · subst hut
      simp [World.setCom]
    · have hne : (⟨u, n.lives u⟩ : Thread) ≠ ⟨t, n.lives t⟩ := by
        intro heq
        cases heq
        exact hut rfl
      simp only [World.setCom, Function.update_of_ne hut, Function.update_of_ne hne]
      exact h.own u hu
  · by_cases hthread : thread = ⟨t, n.lives t⟩
    · subst hthread
      simpa using hcount
    · simpa [hthread] using h.bounded thread
  · by_cases hthread : thread = ⟨t, n.lives t⟩
    · subst hthread
      simpa using hflags
    · simpa [hthread] using h.masked thread
  · have hne : (⟨u, k⟩ : Thread) ≠ ⟨t, n.lives t⟩ := by
      intro heq
      cases heq
      exact Nat.lt_irrefl _ hk
    change Function.update n.counts _ count ⟨u, k⟩ = 0
    rw [Function.update_of_ne hne]
    exact h.later u k hk

theorem Refines.current (h : Refines w n) (hc : currentThread w.scheduler = some t) :
    (w.scheduler.threads t).live = true := by
  unfold currentThread at hc
  split at hc
  · rename_i hi
    obtain ⟨c, hcurrent, hlive, _⟩ := (h.inv hi).current.current hi
    rw [hc] at hcurrent
    cases hcurrent
    exact hlive
  · cases hc

/-! ## What the calls answer -/

/-- What `CoInitializeEx` answers to a thread that is initialized `count` times, and outside of
any thread. -/
def initializeReply (count : Option Nat) (pvReserved : Nat) (coinit : BitVec 32) : BitVec 32 :=
  if pvReserved ≠ 0 ∨ coinit &&& ~~~knownCoinitFlags ≠ 0 then comEInvalidArg
  else
    match count with
    | none => comENotImpl
    | some count =>
      if coinit &&& coinitApartmentThreaded ≠ 0 then
        if count = 0 then comENotImpl else comRpcEChangedMode
      else if count = 0 then comSOk
      else if count = uint32Max then comENotImpl
      else comSFalse

theorem replies_differ :
    comSOk ≠ comSFalse ∧ comEInvalidArg ≠ comSOk ∧ comEInvalidArg ≠ comSFalse ∧
    comENotImpl ≠ comSOk ∧ comENotImpl ≠ comSFalse ∧ comRpcEChangedMode ≠ comSOk ∧
    comRpcEChangedMode ≠ comSFalse := by
  decide

/-- A result that is not a success changes nothing. -/
theorem reply_failed {thread : Thread} {coinit result : BitVec 32} (hok : result ≠ comSOk)
    (hfalse : result ≠ comSFalse) : n.reply thread coinit result = n := by
  unfold Notes.reply
  rw [if_neg hok, if_neg hfalse]

theorem counted_of_ne {generation count : Nat} {flags : BitVec 32} (h : count ≠ 0) :
    counted generation count flags =
      { comInitialized := 1, comModel := comModelMta, comAncillaryFlags := flags.setWidth 8
        comInitializationCount := count, comGeneration := generation } := by
  unfold counted
  rw [if_neg h]

/-- The call of the running thread, by its count. -/
theorem Refines.initialized (h : Refines w n) (hc : currentThread w.scheduler = some t)
    (pvReserved : Nat) (coinit : BitVec 32) :
    (comInitializeEx w pvReserved coinit).1 =
        initializeReply (some (n.counts ⟨t, n.lives t⟩)) pvReserved coinit ∧
      Refines (comInitializeEx w pvReserved coinit).2
        (n.reply ⟨t, n.lives t⟩ coinit (comInitializeEx w pvReserved coinit).1) := by
  have hlive := h.current hc
  have hvalid := h.valid hlive
  have hown := h.own t hlive
  obtain ⟨_, hinvalid, hinvalid', hnotimpl, hnotimpl', hmode, hmode'⟩ := replies_differ
  unfold comInitializeEx initializeReply
  by_cases hargs : pvReserved ≠ 0 ∨ coinit &&& ~~~knownCoinitFlags ≠ 0
  · rw [if_pos hargs, if_pos hargs, reply_failed hinvalid hinvalid']
    exact ⟨rfl, h⟩
  · rw [if_neg hargs, if_neg hargs, hc]
    dsimp only
    rw [if_neg (by simp [hlive]), hvalid]
    unfold coinitConcurrencyMask
    by_cases hzero : n.counts ⟨t, n.lives t⟩ = 0
    · rw [if_neg (by simp [hzero])]
      by_cases hsta : coinit &&& coinitApartmentThreaded ≠ 0
      · rw [if_pos hsta, if_pos rfl, if_pos hsta, if_pos hzero, reply_failed hnotimpl hnotimpl']
        exact ⟨rfl, h⟩
      · rw [if_neg hsta, if_neg (by decide), if_neg hsta, if_pos hzero]
        refine ⟨rfl, ?_⟩
        have hset := h.setCaller hlive 1 (coinit &&& coinitAncillaryMask)
          (by decide) (by rw [BitVec.and_assoc, BitVec.and_self])
        unfold Notes.reply
        rw [if_pos rfl, hzero]
        rw [counted_of_ne Nat.one_ne_zero] at hset
        have hclear : (clearComState w t).setCom t
              { comInitialized := 1, comModel := comModelMta
                comAncillaryFlags := (coinit &&& coinitAncillaryMask).setWidth 8
                comInitializationCount := 1
                comGeneration := (w.scheduler.threads t).generation } =
            w.setCom t
              { comInitialized := 1, comModel := comModelMta
                comAncillaryFlags := (coinit &&& coinitAncillaryMask).setWidth 8
                comInitializationCount := 1
                comGeneration := (w.scheduler.threads t).generation } := by
          simp [clearComState, World.setCom]
        rw [hclear]
        exact hset
    · rw [if_pos (by simp [hzero]), hown, counted_of_ne hzero]
      dsimp only
      by_cases hsta : coinit &&& coinitApartmentThreaded ≠ 0
      · rw [if_pos hsta, if_pos (by decide), if_pos hsta, if_neg hzero, reply_failed hmode hmode']
        exact ⟨rfl, h⟩
      · rw [if_neg hsta, if_neg (by simp), if_neg hsta, if_neg hzero]
        by_cases hmax : n.counts ⟨t, n.lives t⟩ = uint32Max
        · rw [if_pos hmax, if_pos hmax, reply_failed hnotimpl hnotimpl']
          exact ⟨rfl, h⟩
        · rw [if_neg hmax, if_neg hmax]
          refine ⟨rfl, ?_⟩
          have hbounded := h.bounded ⟨t, n.lives t⟩
          have hset := h.setCaller hlive (n.counts ⟨t, n.lives t⟩ + 1)
            (n.flags ⟨t, n.lives t⟩) (by omega) (h.masked _)
          rw [counted_of_ne (Nat.succ_ne_zero _), Function.update_eq_self] at hset
          unfold Notes.reply
          rw [if_neg (Ne.symm replies_differ.1), if_pos rfl]
          exact hset

/-- A thread that leaves counts one initialization less. -/
theorem Refines.uninitialized (h : Refines w n) (hc : currentThread w.scheduler = some t) :
    Refines ( comUninitialize w)
      { n with
        counts := Function.update n.counts ⟨t, n.lives t⟩ (n.counts ⟨t, n.lives t⟩ - 1) } := by
  have hlive := h.current hc
  have hown := h.own t hlive
  unfold comUninitialize
  dsimp only
  rw [hc, h.valid hlive]
  by_cases hzero : n.counts ⟨t, n.lives t⟩ = 0
  · rw [if_pos (by simp [hzero]), hzero]
    have hsame : Function.update n.counts ⟨t, n.lives t⟩ (0 - 1) = n.counts := by
      rw [Nat.zero_sub, ← hzero, Function.update_eq_self]
    rw [hsame]
    exact h
  · have hbounded := h.bounded ⟨t, n.lives t⟩
    have hset := h.setCaller hlive (n.counts ⟨t, n.lives t⟩ - 1)
      (n.flags ⟨t, n.lives t⟩) (by omega) (h.masked _)
    rw [Function.update_eq_self] at hset
    rw [if_neg (by simp [hzero])]
    dsimp only
    rw [hown, counted_of_ne hzero]
    dsimp only
    rw [if_neg hzero]
    simp only [World.setCom, Function.update_self]
    by_cases hlast : n.counts ⟨t, n.lives t⟩ - 1 = 0
    · rw [if_pos hlast]
      rw [hlast, counted, if_pos rfl] at hset
      rw [hlast]
      simpa [clearComState, World.setCom] using hset
    · rw [if_neg hlast]
      rw [counted_of_ne hlast] at hset
      exact hset

theorem step_refines (h : Refines w n) {e : Event} (hok : InOrder w e) :
    Refines (step w e) (note w e n) := by
  cases e with
  | boot input => exact h.boot hok
  | scheduler op =>
    have hi : w.scheduler.installed = true := hok
    exact h.scheduled (Scheduler.step_inv (h.inv hi) op) (step_generation (h.inv hi) hi op)
  | initializeEx pvReserved coinit =>
    unfold note caller
    cases hc : currentThread w.scheduler with
    | none =>
      have hsame : (comInitializeEx w pvReserved coinit).2 = w := by
        unfold comInitializeEx
        rw [hc]
        split <;> rfl
      change Refines (comInitializeEx w pvReserved coinit).2 n
      rw [hsame]
      exact h
    | some t => exact (h.initialized hc pvReserved coinit).2
  | uninitializeThread =>
    unfold note caller
    cases hc : currentThread w.scheduler with
    | none =>
      have hsame : comUninitialize w = w := by
        unfold comUninitialize
        rw [hc]
        rfl
      change Refines ( comUninitialize w) n
      rw [hsame]
      exact h
    | some t => exact h.uninitialized hc

theorem run_refines (h : Run w n) : Refines w n := by
  apply h.invariant (P := Refines)
  · rintro _ rfl
    exact .init
  · intro w n e _ hrefines hok
    exact step_refines hrefines hok

/-- The ancillary flags survive the byte in which they are kept. -/
theorem ancillary_fits (flags : BitVec 32) :
    ((flags &&& coinitAncillaryMask).setWidth 8).setWidth 32 = flags &&& coinitAncillaryMask := by
  apply BitVec.eq_of_toNat_eq
  have hmask : coinitAncillaryMask.toNat = 12 := by decide
  have hle : (flags &&& coinitAncillaryMask).toNat ≤ 12 := by
    rw [BitVec.toNat_and, hmask]
    exact Nat.and_le_right
  rw [BitVec.toNat_setWidth, BitVec.toNat_setWidth]
  omega

/-- What the threads see of their apartments. -/
structure SeesItsOwn (w : World) (n : Notes) : Prop where
  reply : ∀ pvReserved coinit, (comInitializeEx w pvReserved coinit).1 =
    initializeReply ((caller w n.lives).map n.counts) pvReserved coinit
  nesting : ∀ t, (w.scheduler.threads t).live = true →
    comNestingCount w (some t) = n.counts ⟨t, n.lives t⟩
  initialized : ∀ t, (w.scheduler.threads t).live = true →
    (comIsInitialized w (some t) = 1 ↔ n.counts ⟨t, n.lives t⟩ ≠ 0)
  model : ∀ t, comModel w (some t) ≠ comModelSta
  flags : ∀ t, (w.scheduler.threads t).live = true → n.counts ⟨t, n.lives t⟩ ≠ 0 →
    comAncillaryFlags w (some t) = n.flags ⟨t, n.lives t⟩

/-- Whatever order the threads run in, and however often their slots are taken again, each
thread nests its own initializations, and none of them becomes an STA. -/
theorem each_thread_has_its_own_apartment (h : Run w n) : SeesItsOwn w n := by
  have hrefines := run_refines h
  refine ⟨fun pvReserved coinit => ?_, fun t hlive => ?_, fun t hlive => ?_, fun t => ?_,
    fun t hlive hcount => ?_⟩
  · cases hc : currentThread w.scheduler with
    | none =>
      unfold comInitializeEx initializeReply caller
      rw [hc]
      split <;> rfl
    | some t =>
      unfold caller
      rw [hc]
      exact (hrefines.initialized hc pvReserved coinit).1
  · unfold comNestingCount comQuery
    dsimp only
    rw [hrefines.valid hlive, hrefines.own t hlive]
    by_cases hcount : n.counts ⟨t, n.lives t⟩ = 0
    · rw [if_neg (by simp [hcount]), hcount]
    · rw [if_pos (by simp [hcount]), counted_of_ne hcount]
  · unfold comIsInitialized comQuery
    dsimp only
    rw [hrefines.valid hlive]
    by_cases hcount : n.counts ⟨t, n.lives t⟩ = 0 <;> simp [hcount]
  · unfold comModel comQuery
    dsimp only
    split
    · rename_i hvalid
      have hlive : (w.scheduler.threads t).live = true := by
        simp only [comStateIsValid, Bool.and_eq_true] at hvalid
        exact hvalid.1.1.1.1.1
      rw [hrefines.valid hlive, decide_eq_true_eq] at hvalid
      rw [hrefines.own t hlive, counted_of_ne hvalid]
      exact Nat.ne_of_lt (Nat.lt_succ_self _)
    · exact Nat.ne_of_lt (Nat.zero_lt_two)
  · unfold comAncillaryFlags comQuery
    dsimp only
    rw [hrefines.valid hlive, hrefines.own t hlive, if_pos (by simp [hcount]),
      counted_of_ne hcount]
    dsimp only
    rw [← hrefines.masked ⟨t, n.lives t⟩]
    exact ancillary_fits _

/-- The boot thread enters twice and leaves once, and a worker that takes over enters for
itself. -/
def sampleApartments : List Event :=
  [.boot Scheduler.sampleBoot, .scheduler (.configureStackVm .this true true),
    .initializeEx 0 0x8, .initializeEx 0 0x4, .uninitializeThread,
    .scheduler (Scheduler.sampleCreate 0x200000),
    .scheduler (.resumeThread (Scheduler.sampleThread 1)), .scheduler (.prepareYield true),
    .initializeEx 0 0x4]

def sampleWorld : World := Runs.run step {} sampleApartments

def sampleNotes : Notes := (Runs.run (Runs.noting step note) ({}, {}) sampleApartments).2

theorem sampleWorld_reached : Run sampleWorld sampleNotes := by
  have hstart : Run {} {} := .start ⟨rfl, rfl⟩
  exact hstart.run_along sampleApartments (by decide +kernel)

theorem two_sample_threads_have_their_own_apartments :
    SeesItsOwn sampleWorld sampleNotes ∧ comNestingCount sampleWorld (some 0) = 1 ∧
    comAncillaryFlags sampleWorld (some 0) = 0x8 ∧ comNestingCount sampleWorld (some 1) = 1 ∧
    comAncillaryFlags sampleWorld (some 1) = 0x4 ∧
    (comInitializeEx sampleWorld 0 0x2).1 = comRpcEChangedMode := by
  refine ⟨each_thread_has_its_own_apartment sampleWorld_reached, ?_, ?_, ?_, ?_, ?_⟩ <;>
    decide +kernel

end Gate4Harness.ComApartment
