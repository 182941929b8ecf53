-- The last error of the loader (platform_get_last_error and its siblings). The scheduler keeps
-- one value for each thread, but the imports of the loader record in one value for all of
-- them, and nothing exchanges it on a switch.
import Gate4Harness.SchedulerLives

namespace Gate4Harness.LastError

open scoped Scheduler
open Scheduler (Thread Lives ThreadSlot WaitOneOutcome noteLives waitObject0 waitTimeout
  waitFailed errorInvalidHandle errorNotEnoughMemory errorInvalidParameter)

/-! ## The imports -/

/-- `g_platform_last_error` and the scheduler. -/
structure World where
  platformLastError : Nat := 0
  scheduler : Scheduler.State := {}

/-- `gxos_scheduler_current_thread`. -/
def currentThread (s : Scheduler.State) : Option ThreadSlot :=
  if s.installed then s.current else none

/-- `gxos_scheduler_get_last_error`. -/
def getLastError (s : Scheduler.State) : Nat :=
  match currentThread s with
  | none => 0
  | some c => (s.threads c).lastError

def platformGetLastError (w : World) : Nat := w.platformLastError

def platformSetLastError (w : World) (error : Nat) : World := { w with platformLastError := error }

/-- The pseudo handles of the process and of the thread, -1 and -2 as pointers. -/
def currentProcess : Nat := 0xFFFFFFFFFFFFFFFF
def currentThreadHandle : Nat := 0xFFFFFFFFFFFFFFFE

/-- `targetGiven` says that `target_handle` is not null. What is stored there is left out. -/
def platformDuplicateHandle (w : World) (sourceProcess sourceHandle targetProcess : Nat)
    (targetGiven : Bool) : Nat × World :=
  if sourceProcess ≠ currentProcess ∨ targetProcess ≠ currentProcess ∨
      sourceHandle ≠ currentThreadHandle ∨ ¬ targetGiven then (0, { w with platformLastError := 6 })
  else (1, w)

/-- `threadHandle` is the address of `g_platform_thread_handle`. -/
def platformCloseHandle (w : World) (threadHandle handle : Nat) : Nat × World :=
  if handle = threadHandle ∨ handle = currentProcess ∨ handle = currentThreadHandle then (1, w)
  else (0, { w with platformLastError := 6 })

/-- What an import records after a contract failed: the error of the running thread, or 6. -/
def contractError (s : Scheduler.State) : Nat := if getLastError s = 0 then 6 else getLastError s

/-- The end of an import after its contract left the scheduler in `s`. -/
def afterContract (w : World) (failed : Bool) (s : Scheduler.State) : World :=
  if failed then { platformLastError := contractError s, scheduler := s }
  else { w with scheduler := s }

/-- `platform_set_event` and `platform_reset_event` around their contracts. -/
def platformEvent (contract : Scheduler.State → Bool → Nat → Bool × Scheduler.State) (w : World)
    (contextGiven : Bool) (handle : Nat) : Bool × World :=
  let (result, s) := contract w.scheduler contextGiven handle
  (result, afterContract w (!result) s)

def platformSetEvent : World → Bool → Nat → Bool × World :=
  platformEvent Scheduler.setEventContract

def platformResetEvent : World → Bool → Nat → Bool × World :=
  platformEvent Scheduler.resetEventContract

/-- `gxos_wait_for_multiple_objects_ex_contract`. `read` is the answer of `read_handle`, if there
is one. -/
def waitForMultipleObjectsExContract (s : Scheduler.State) (contextGiven : Bool) (count : Nat)
    (handlesGiven : Bool) (waitAll milliseconds alertable : Nat) (read : Option Nat)
    (clock pollClock : Option Nat) : WaitOneOutcome × Scheduler.State :=
  if ¬ contextGiven ∨ ¬ s.active ∨ count ≠ 1 ∨ ¬ handlesGiven ∨ waitAll ≠ 0 ∨
      milliseconds ≠ Scheduler.infinite ∨ alertable ≠ 0 then
    Scheduler.waitFailure s errorInvalidParameter
  else
    match read with
    | none => Scheduler.waitFailure s errorInvalidParameter
    | some handle => Scheduler.waitOne s contextGiven handle milliseconds alertable clock pollClock

/-- What `wait_one` does once the thread that it suspended runs again. -/
def waitOneResumed (s : Scheduler.State) (handle : Nat) : WaitOneOutcome × Scheduler.State :=
  match Scheduler.finishWait s handle with
  | (.signaled, s1) => (.returned waitObject0, s1)
  | (.timedOut, s1) => (.returned waitTimeout, s1)
  | (_, s1) => Scheduler.waitFailure s1 errorNotEnoughMemory

/-- The imports that wait. -/
inductive WaitImport
  | single
  | multiple
  deriving DecidableEq, Repr

/-- The results that the import takes for a failure. -/
def WaitImport.fails (i : WaitImport) (result : Nat) : Bool :=
  match i with
  | .single => decide (result ≠ waitObject0 ∧ result ≠ waitTimeout)
  | .multiple => decide (result ≠ waitObject0)

/-- The wait import has a result and takes it for a failure. -/
def WaitImport.failed (i : WaitImport) : WaitOneOutcome → Bool
  | .returned result => i.fails result
  | _ => false

/-- The rest of `platform_wait_for_single_object_ex` and of
`platform_wait_for_multiple_objects_ex` after the wait. -/
def WaitImport.after (i : WaitImport) (w : World) (reply : WaitOneOutcome × Scheduler.State) :
    World :=
  afterContract w (i.failed reply.1) reply.2

/-! ## The machine -/

/-- The running thread calls one of the imports, a wait that it was suspended in goes on, or the
scheduler does anything: a call of a contract that goes past the imports among it.
`otherFailure` stands for an import that records an error of its own, such as `CreateEventW`. -/
inductive Event
  | boot (input : Scheduler.BootInput)
  | scheduler (op : Scheduler.Op)
  | get
  | set (error : Nat)
  | duplicateHandle (sourceProcess sourceHandle targetProcess : Nat) (targetGiven : Bool)
  | closeHandle (threadHandle handle : Nat)
  | setEvent (contextGiven : Bool) (handle : Nat)
  | resetEvent (contextGiven : Bool) (handle : Nat)
  | waitForSingleObjectEx (contextGiven : Bool) (handle milliseconds alertable : Nat)
      (clock pollClock : Option Nat)
  | waitForMultipleObjectsEx (contextGiven : Bool) (count : Nat) (handlesGiven : Bool)
      (waitAll milliseconds alertable : Nat) (read clock pollClock : Option Nat)
  | waitReturns (i : WaitImport) (handle : Nat)
  | otherFailure (error : Nat)

/-- The import that waits, with the reply of its contract. -/
def Event.wait (s : Scheduler.State) :
    Event → Option (WaitImport × WaitOneOutcome × Scheduler.State)
  | .waitForSingleObjectEx c h m a k p => some (.single, Scheduler.waitOne s c h m a k p)
  | .waitForMultipleObjectsEx c n g x m a r k p =>
    some (.multiple, waitForMultipleObjectsExContract s c n g x m a r k p)
  | .waitReturns i h => some (i, waitOneResumed s h)
  | _ => none

/-- A boot that fails ends the program, and leaves the world as it is. -/
def step (w : World) (e : Event) : World :=
  match e with
  | .boot input =>
    match Scheduler.initializeScheduler input with
    | (true, scheduler) => { w with scheduler }
    | (false, _) => w
  | .scheduler op => { w with scheduler := Scheduler.step w.scheduler op }
  | .get => w
  | .set error => platformSetLastError w error
  | .duplicateHandle p h q g => (platformDuplicateHandle w p h q g).2
  | .closeHandle t h => (platformCloseHandle w t h).2
  | .setEvent c h => (platformSetEvent w c h).2
  | .resetEvent c h => (platformResetEvent w c h).2
  | .waitForSingleObjectEx .. | .waitForMultipleObjectsEx .. | .waitReturns .. =>
    match e.wait w.scheduler with
    | some (i, reply) => i.after w reply
    | none => w
  | .otherFailure error => { w with platformLastError := error }

/-- The boot thread, with or without a scheduler, is `none`. Any other thread is its slot and
its life. -/
def caller (w : World) (lives : Lives) : Option Thread :=
  match currentThread w.scheduler with
  | none => none
  | some c => if w.scheduler.bootThread = some c then none else some ⟨c, lives c⟩

/-- The operation of the scheduler is a call that records an error for its thread: a contract
that fails, or `gxos_scheduler_set_last_error`. -/
def recordsForThread (s : Scheduler.State) : Scheduler.Op → Bool
  | .setLastError _ => true
  | .setEventContract c h => !(Scheduler.setEventContract s c h).1
  | .resetEventContract c h => !(Scheduler.resetEventContract s c h).1
  | .waitOne c h m a k p =>
    decide ((Scheduler.waitOne s c h m a k p).1 = .returned waitFailed)
  | _ => false

/-- What an import records, if it does. -/
def importError (w : World) (e : Event) : Option Nat :=
  match e with
  | .set error | .otherFailure error => some error
  | .duplicateHandle p h q g =>
    if (platformDuplicateHandle w p h q g).1 = 0 then some errorInvalidHandle else none
  | .closeHandle t h => if (platformCloseHandle w t h).1 = 0 then some errorInvalidHandle else none
  | .setEvent c h =>
    if (platformSetEvent w c h).1 then none else some (contractError (step w e).scheduler)
  | .resetEvent c h =>
    if (platformResetEvent w c h).1 then none else some (contractError (step w e).scheduler)
  | _ =>
    match e.wait w.scheduler with
    | some (i, reply) => if i.failed reply.1 then some (contractError reply.2) else none
    | none => none

/-- A value that a thread recorded, through an import or for its thread control block only. -/
structure Recording where
  thread : Option Thread
  throughImport : Bool
  value : Nat
  deriving DecidableEq, Repr

/-- What an observer knows: the recordings, the latest first. -/
structure Notes where
  lives : Lives := fun _ => 0
  recordings : List Recording := []

def Notes.record (n : Notes) (thread : Option Thread) (throughImport : Bool) (value : Nat) :
    Notes :=
  { n with recordings := ⟨thread, throughImport, value⟩ :: n.recordings }

/-- What the event records for the thread that runs it. -/
def noteRecording (w : World) (e : Event) (n : Notes) : Notes :=
  match e with
  | .scheduler op =>
    if recordsForThread w.scheduler op ∧ (currentThread w.scheduler).isSome then
      n.record (caller w n.lives) false (getLastError (step w e).scheduler)
    else n
  | _ =>
    match importError w e with
    | some value => n.record (caller w n.lives) true value
    | none => n

def note (w : World) (e : Event) (n : Notes) : Notes :=
  { noteRecording w e n with
    lives := match e with
      | .boot _ => n.lives
      | _ => noteLives w.scheduler (step w e).scheduler n.lives }

/-- The value that the thread recorded last. -/
def Notes.own (n : Notes) (thread : Option Thread) : Option Nat :=
  (n.recordings.find? fun r => decide (r.thread = thread)).map Recording.value

/-- The value that any thread recorded last through an import, 0 before the first. -/
def Notes.latest (n : Notes) : Nat :=
  ((n.recordings.find? Recording.throughImport).map Recording.value).getD 0

/-- A query returns the value that the thread recorded last. -/
def Answers (p : World × Notes) (e : Event) : Prop :=
  e = .get → ∀ value, p.2.own (caller p.1 p.2.lives) = some value →
    platformGetLastError p.1 = value

/-- A query comes from a thread whose last recording carries the value of the latest one of all
that went through an import. -/
def Undisturbed (p : World × Notes) (e : Event) : Prop :=
  e = .get → ∀ value, p.2.own (caller p.1 p.2.lives) = some value → p.2.latest = value

/-! ## What holds in every run -/

variable {w : World} {n : Notes}

@[simp] theorem latest_import (thread : Option Thread) (value : Nat) :
    (n.record thread true value).latest = value := rfl

@[simp] theorem latest_thread (thread : Option Thread) (value : Nat) :
    (n.record thread false value).latest = n.latest := rfl

@[simp] theorem own_record (thread : Option Thread) (throughImport : Bool) (value : Nat) :
    (n.record thread throughImport value).own thread = some value := by
  simp [Notes.own, Notes.record]

/-- A query is undisturbed as long as the last recording of all is one that the thread made
through an import. -/
theorem own_latest (thread : Option Thread) (value : Nat) :
    (n.record thread true value).own thread = some (n.record thread true value).latest := by
  simp

theorem afterContract_platformLastError (w : World) (failed : Bool) (s : Scheduler.State) :
    (afterContract w failed s).platformLastError =
      (if failed then some (contractError s) else none).getD w.platformLastError := by
  cases failed <;> rfl

theorem platformEvent_platformLastError
    (contract : Scheduler.State → Bool → Nat → Bool × Scheduler.State) (w : World)
    (contextGiven : Bool) (handle : Nat) :
    (platformEvent contract w contextGiven handle).2.platformLastError =
      (if (platformEvent contract w contextGiven handle).1 then none
        else some (contractError (platformEvent contract w contextGiven handle).2.scheduler)).getD
        w.platformLastError := by
  unfold platformEvent
  obtain ⟨ok, s⟩ := contract w.scheduler contextGiven handle
  cases ok <;> rfl

/-- An import that records an error writes it to the one value, and nothing else writes there. -/
theorem step_platformLastError (w : World) (e : Event) :
    (step w e).platformLastError = (importError w e).getD w.platformLastError := by
  cases e with
  | boot input =>
    cases hb : Scheduler.initializeScheduler input with
    | mk ok s => cases ok <;> simp [step, importError, Event.wait, hb]
  | scheduler op => rfl
  | get => rfl
  | set error => rfl
  | otherFailure error => rfl
  | duplicateHandle p h q g =>
    simp only [step, importError, platformDuplicateHandle]
    split <;> rfl
  | closeHandle t h =>
    simp only [step, importError, platformCloseHandle]
    split <;> rfl
  | setEvent c h => exact platformEvent_platformLastError _ w c h
  | resetEvent c h => exact platformEvent_platformLastError _ w c h
  | waitForSingleObjectEx c h m a k p => exact afterContract_platformLastError w _ _
  | waitForMultipleObjectsEx c n g x m a r k p => exact afterContract_platformLastError w _ _
  | waitReturns i h => exact afterContract_platformLastError w _ _

/-- The latest recording through an import is what the next one finds, or the new one. -/
theorem note_latest (w : World) (e : Event) (n : Notes) :
    (note w e n).latest = (importError w e).getD n.latest := by
  cases e with
  | scheduler op =>
    change (noteRecording w (.scheduler op) n).latest = n.latest
    simp only [noteRecording]
    split <;> rfl
  | _ =>
    simp only [note, noteRecording]
    generalize importError w _ = error
    cases error <;> rfl

/-- The one value is the latest recording through an import. -/
def Latest (p : World × Notes) : Prop := platformGetLastError p.1 = p.2.latest

theorem Latest.step {p : World × Notes} (h : Latest p) (e : Event) :
    Latest (Runs.noting step note p e) := by
  change (LastError.step p.1 e).platformLastError = (note p.1 e p.2).latest
  rw [step_platformLastError, note_latest]
  exact congrArg _ h

/-- A query is answered right exactly if it is undisturbed. -/
theorem Latest.answers_iff {p : World × Notes} (h : Latest p) (e : Event) :
    Answers p e ↔ Undisturbed p e := by
  unfold Answers Undisturbed
  rw [h]

theorem Latest.run {p : World × Notes} (h : Latest p) (events : List Event) :
    Runs.Along (Runs.noting LastError.step note) Answers p events ↔
      Runs.Along (Runs.noting LastError.step note) Undisturbed p events := by
  induction events generalizing p with
  | nil => exact Iff.rfl
  | cons e rest ih => exact and_congr (h.answers_iff e) (ih (h.step e))

/-- The loader once no thread recorded anything, at any time of the scheduler. -/
def start (s : Scheduler.State) : World × Notes := ({ scheduler := s }, {})

/-- In a run of the scheduler with threads that call the imports and the contracts, each query
returns the value that its thread recorded last exactly if no query comes after an import of
another thread recorded another value, or after the thread recorded for itself only. -/
theorem queries_return_own_errors_iff (s : Scheduler.State) (events : List Event) :
    Runs.Along (Runs.noting step note) Answers (start s) events ↔
      Runs.Along (Runs.noting step note) Undisturbed (start s) events := by
  have hstart : Latest (start s) := rfl
  exact hstart.run events

/-- The boot thread fails to close a handle and yields, a worker sets an error of its own, and
the boot thread gets that one. -/
theorem a_worker_changes_the_error_of_the_boot_thread :
    let p := Runs.run (Runs.noting step note) (start Scheduler.readyState)
      [.closeHandle 0x1000 0x44, .scheduler (.prepareYield true), .set 87,
        .scheduler (.prepareYield true), .scheduler (.prepareYield true)]
    p.2.recordings = [⟨some ⟨1, 0⟩, true, 87⟩, ⟨none, true, 6⟩] ∧ caller p.1 p.2.lives = none ∧
      platformGetLastError p.1 = 87 ∧ ¬ Answers p .get := by
  intro p
  have hp : p.2.recordings = [⟨some ⟨1, 0⟩, true, 87⟩, ⟨none, true, 6⟩] ∧
      caller p.1 p.2.lives = none ∧ platformGetLastError p.1 = 87 := by
    decide +kernel
  refine ⟨hp.1, hp.2.1, hp.2.2, fun hanswers => ?_⟩
  have hown : p.2.own (caller p.1 p.2.lives) = some 6 := by
    rw [hp.2.1, Notes.own, hp.1]
    decide
  have heq := hanswers rfl 6 hown
  rw [hp.2.2] at heq
  cases heq

end Gate4Harness.LastError
