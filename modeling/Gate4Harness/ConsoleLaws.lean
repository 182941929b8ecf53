-- What holds of the console in every run. The handle that GetStdHandle answers is the handle of
-- one stream, which no call can close, so it lasts as long as the scheduler. WriteFile takes the
-- bytes exactly when the handle is this one and the ranges are allowed, and the serial port has
-- the bytes of the accepted calls, in order.
import Gate4Harness.Console

namespace Gate4Harness.Console

open PeImage (MemoryRegion uintptrMax)
open Scheduler (State ObjectSlot StandardStream HandleStays OpenStays Inv makeHandle)
open scoped Scheduler

variable {context : WriteFileContext} {w w' : World} {s : State} {selector : Nat}
  {call : WriteFileCall}

/-! ## The stream -/

/-- The stream is installed, for both roles, as `g_standard_handle_context` says. -/
structure OneStream (s : State) : Prop where
  live : s.standardStream.live = true
  roles : s.standardStream.roleMask = Scheduler.roleOutput ||| Scheduler.roleError
  backend : s.standardStream.backend = backendSerialCom1
  capabilities : s.standardStream.capabilities = capabilityWrite
  handle : s.standardStream.handle =
    makeHandle .standardStream s.standardStream.objectSlot s.standardStream.generation
  input : s.standardInputHandle = 0
  output : s.standardOutputHandle = s.standardStream.handle
  error : s.standardErrorHandle = s.standardStream.handle

/-- There is no stream, and no handle of one. -/
def NoStream (s : State) : Prop := s.streams = ({}, 0, 0, 0)

def Wired (s : State) : Prop := NoStream s ∨ OneStream s

theorem NoStream.live (h : NoStream s) : s.standardStream.live = false :=
  congrArg (·.1.live) h

theorem OneStream.congr {s' : State} (h : OneStream s) (hsame : s'.streams = s.streams) :
    OneStream s' := by
  simp only [State.streams, Prod.mk.injEq] at hsame
  obtain ⟨hstream, hinput, houtput, herror⟩ := hsame
  constructor <;> simp only [hstream, hinput, houtput, herror]
  · exact h.live
  · exact h.roles
  · exact h.backend
  · exact h.capabilities
  · exact h.handle
  · exact h.input
  · exact h.output
  · exact h.error

theorem OneStream.handle_ne_zero (h : OneStream s) (hinv : Inv s) :
    s.standardStream.handle ≠ 0 := by
  obtain ⟨hl, _⟩ := hinv.objects.stream h.live
  obtain ⟨_, hv, _⟩ := hinv.objects.slot _ hl
  have hfit := hinv.objects.target _ hl
  unfold Scheduler.TargetFits at hfit
  rw [(hinv.objects.stream h.live).2.1] at hfit
  rw [h.handle, hfit.2.2.2, Scheduler.makeHandle_eq hv.2]
  omega

theorem OneStream.handleOf_eq (h : OneStream s) (hinv : Inv s) :
    Scheduler.handleOf s s.standardStream.objectSlot = s.standardStream.handle := by
  obtain ⟨hl, htype, _⟩ := hinv.objects.stream h.live
  have hfit := hinv.objects.target _ hl
  unfold Scheduler.TargetFits at hfit
  rw [htype] at hfit
  unfold Scheduler.handleOf
  rw [htype, h.handle, hfit.2.2.2]

/-- A handle of the stream cannot be closed. -/
theorem OneStream.close_refused (h : OneStream s) (hinv : Inv s) (unregistered : Bool) :
    Scheduler.closeHandle s s.standardStream.handle unregistered = (false, s) := by
  obtain ⟨hl, htype, _⟩ := hinv.objects.stream h.live
  have hv := (hinv.objects.slot _ hl).2.1
  have hclear := Scheduler.clearDropped_of_zero
    (Scheduler.droppedBits_makeHandle hv.2 .standardStream s.standardStream.objectSlot)
  have hkind : Scheduler.handleType s.standardStream.handle = some .standardStream := by
    rw [← h.handleOf_eq hinv]
    unfold Scheduler.handleOf
    rw [htype]
    exact Scheduler.handleType_of_clear hv.2 (by decide) hclear
  simp only [Scheduler.closeHandle, hkind]

/-! ## GetStdHandle -/

theorem standardHandleForRole_noStream (h : NoStream s) (role : Nat) :
    standardHandleForRole s role = 0 := by
  simp only [NoStream, State.streams, Prod.mk.injEq] at h
  unfold standardHandleForRole
  rw [h.2.1, h.2.2.1, h.2.2.2]
  simp

theorem standardHandleForRole_uninstalled (hi : s.installed = false) (role : Nat) :
    standardHandleForRole s role = 0 := by
  simp [standardHandleForRole, hi]

theorem OneStream.handleForRole (h : OneStream s) (hi : s.installed = true) {role : Nat}
    (hrole : role = Scheduler.roleOutput ∨ role = Scheduler.roleError) :
    standardHandleForRole s role = s.standardStream.handle := by
  unfold standardHandleForRole
  rw [h.output, h.error, if_neg (by simp [hi])]
  rcases hrole with rfl | rfl <;> rfl

theorem installHandles_handles (s : State) (handle : Nat) :
    Scheduler.installHandles s loaderHandles.roles handle =
      { s with standardOutputHandle := handle, standardErrorHandle := handle } := rfl

/-- The installation, when there is no stream: it takes a slot of the table, or there is none. -/
theorem installStandardStream_noStream (h : NoStream s) (hi : s.installed = true)
    (ha : s.active = true) :
    let installed := Scheduler.installStandardStream s .this loaderHandles.roles
      loaderHandles.outputBackend loaderHandles.outputCapabilities
    installed = (false, s) ∨ installed.1 = true ∧ OneStream installed.2 ∧
      installed.2.installed = true := by
  simp only [NoStream, State.streams, Prod.mk.injEq] at h
  have hblank : { s with standardStream := ({} : StandardStream) } = s := by
    rw [← h.1]
  unfold Scheduler.installStandardStream
  rw [if_neg (by simp [State.accepts, hi, ha, loaderHandles, StandardHandleContext.roles,
    Scheduler.roleOutput, Scheduler.roleError, backendSerialCom1, capabilityWrite]),
    if_neg (by simp [h.1]), hblank]
  rcases Scheduler.allocateObject_cases s .standardStream .stream with
    heq | ⟨o, g, _, _, hg, heq⟩
  · rw [heq]
    exact Or.inl rfl
  · rw [heq]
    refine Or.inr ⟨rfl, ?_, hi⟩
    dsimp only
    rw [installHandles_handles]
    refine ⟨rfl, rfl, rfl, rfl, ?_, h.2.1, rfl, rfl⟩
    simp [Scheduler.newObject]

theorem installStandardStream_uninstalled (hi : s.installed = false) (roles backend caps : Nat) :
    Scheduler.installStandardStream s .this roles backend caps = (false, s) := by
  unfold Scheduler.installStandardStream
  rw [if_pos (by simp [State.accepts, hi])]

/-- The selector of standard output or of standard error. -/
def IsOutput (selector : Nat) : Prop := selector = outputSelector ∨ selector = errorSelector

theorem getStdHandle_output (hsel : IsOutput selector) (w : World) :
    ∃ role, (role = Scheduler.roleOutput ∨ role = Scheduler.roleError) ∧
      getStdHandle loaderHandles w selector = queryRole loaderHandles w role true := by
  rcases hsel with rfl | rfl
  · exact ⟨_, Or.inl rfl, rfl⟩
  · exact ⟨_, Or.inr rfl, rfl⟩

/-- With the stream there, both outputs have its handle. -/
theorem getStdHandle_oneStream (h : OneStream w.scheduler) (hinv : Inv w.scheduler)
    (hi : w.scheduler.installed = true) (hsel : IsOutput selector) :
    getStdHandle loaderHandles w selector = (w.scheduler.standardStream.handle, w) := by
  obtain ⟨role, hrole, heq⟩ := getStdHandle_output hsel w
  rw [heq]
  simp only [queryRole, h.handleForRole hi hrole]
  rw [if_neg (by simp), if_pos (h.handle_ne_zero hinv)]

/-- Without it, the first question installs it, or it reports that there is no room. -/
theorem getStdHandle_noStream (h : NoStream w.scheduler) (hinv : Inv w.scheduler)
    (hsel : IsOutput selector) :
    getStdHandle loaderHandles w selector =
      (0, { w with platformLastError := errorNotEnoughMemory }) ∨
    ∃ s, Scheduler.installStandardStream w.scheduler .this loaderHandles.roles
        loaderHandles.outputBackend loaderHandles.outputCapabilities = (true, s) ∧
      OneStream s ∧ s.installed = true ∧
      getStdHandle loaderHandles w selector =
        (s.standardStream.handle, { w with scheduler := s }) := by
  obtain ⟨role, hrole, heq⟩ := getStdHandle_output hsel w
  rw [heq]
  simp only [queryRole, standardHandleForRole_noStream h]
  rw [if_neg (by simp), if_neg (by simp), if_neg (by decide)]
  cases hi : w.scheduler.installed with
  | false =>
    rw [installStandardStream_uninstalled hi]
    exact Or.inl rfl
  | true =>
    have hcases := installStandardStream_noStream h hi (hinv.current.active.trans hi)
    generalize Scheduler.installStandardStream w.scheduler .this loaderHandles.roles
      loaderHandles.outputBackend loaderHandles.outputCapabilities = q at hcases ⊢
    obtain ⟨answer, s1⟩ := q
    rcases hcases with hnone | ⟨hok, hone, hs1⟩
    · cases hnone
      exact Or.inl rfl
    · cases hok
      refine Or.inr ⟨s1, rfl, hone, hs1, ?_⟩
      dsimp only
      rw [hone.handleForRole hs1 hrole]

theorem getStdHandle_other (hsel : ¬ IsOutput selector) (w : World) :
    (getStdHandle loaderHandles w selector).2.scheduler = w.scheduler := by
  obtain ⟨houtput, herror⟩ := not_or.mp hsel
  unfold getStdHandle
  rw [if_neg houtput, if_neg herror]
  split <;> rfl

/-- What a question does to the scheduler. -/
theorem getStdHandle_scheduler (h : Wired w.scheduler) (hinv : Inv w.scheduler)
    (selector : Nat) :
    (getStdHandle loaderHandles w selector).2.scheduler = w.scheduler ∨
    (NoStream w.scheduler ∧ w.scheduler.installed = true) ∧
      OneStream (getStdHandle loaderHandles w selector).2.scheduler ∧
      (getStdHandle loaderHandles w selector).2.scheduler =
        Scheduler.step w.scheduler (.installStandardStream .this loaderHandles.roles
          loaderHandles.outputBackend loaderHandles.outputCapabilities) := by
  by_cases hsel : IsOutput selector
  · rcases h with hnone | hone
    · rcases getStdHandle_noStream hnone hinv hsel with heq | ⟨s, hinstall, hone, _, heq⟩
      · rw [heq]
        exact Or.inl rfl
      · have hi : w.scheduler.installed = true := by
          by_contra hi
          rw [installStandardStream_uninstalled (by simpa using hi)] at hinstall
          cases hinstall
        rw [heq]
        exact Or.inr ⟨⟨hnone, hi⟩, hone, (congrArg Prod.snd hinstall).symm⟩
    · cases hi : w.scheduler.installed with
      | true =>
        rw [getStdHandle_oneStream hone hinv hi hsel]
        exact Or.inl rfl
      | false =>
        left
        obtain ⟨role, _, heq⟩ := getStdHandle_output hsel w
        rw [heq]
        simp only [queryRole, standardHandleForRole_uninstalled hi,
          installStandardStream_uninstalled hi]
        rfl
  · exact Or.inl (getStdHandle_other hsel w)

/-! ## What a call of WriteFile leaves alone -/

theorem writeStream_scheduler (context : WriteFileContext) (w : World) (report : WriteFileReport)
    (o : ObjectSlot) : (writeStream context w report o).2.scheduler = w.scheduler := by
  unfold writeStream outputBytes
  dsimp only
  repeat' split
  all_goals rfl

theorem writeFile_scheduler (context : WriteFileContext) (w : World) (call : WriteFileCall) :
    (writeFile context w call).2.scheduler = w.scheduler := by
  unfold writeFile
  dsimp only
  repeat' split
  all_goals first | rfl | exact writeStream_scheduler ..

/-! ## The scheduler in a run -/

/-- A step of the world is at most one step of the scheduler. -/
theorem step_scheduler (h : Wired w.scheduler) (hinv : Inv w.scheduler) (op : Op) :
    (step context w op).scheduler = w.scheduler ∨
    ∃ call, (step context w op).scheduler = Scheduler.step w.scheduler call := by
  cases op with
  | scheduler call => exact Or.inr ⟨call, rfl⟩
  | getStdHandle selector =>
    rcases getStdHandle_scheduler h hinv selector with heq | ⟨_, _, heq⟩
    · exact Or.inl heq
    · exact Or.inr ⟨_, heq⟩
  | writeFile call => exact Or.inl (writeFile_scheduler context w call)
  | store memory => exact Or.inl rfl

/-- A teardown takes the stream away, and every other call leaves it. -/
theorem schedulerStep_streams (h : Wired s) (hinv : Inv s) {call : Scheduler.Op}
    (hcall : ∀ p r b k, call ≠ .installStandardStream p r b k) :
    (Scheduler.step s call).streams = s.streams ∨
    NoStream (Scheduler.step s call) ∧ (Scheduler.step s call).installed = false := by
  cases htouch : Scheduler.touchesStream call with
  | false => exact Or.inl (Scheduler.step_streams s htouch)
  | true =>
    cases call with
    | installStandardStream p r b k => exact absurd rfl (hcall p r b k)
    | teardown p u =>
      have hvacant : s.standardStream.live = false → s.streams = ({}, 0, 0, 0) := by
        intro hl
        rcases h with hnone | hone
        · exact hnone
        · rw [hone.live] at hl
          cases hl
      have hstreams := Scheduler.teardown_streams hinv hvacant p u
      change (Scheduler.teardown s p u).2.streams = s.streams ∨
        NoStream (Scheduler.teardown s p u).2 ∧ (Scheduler.teardown s p u).2.installed = false
      cases hok : (Scheduler.teardown s p u).1 with
      | false =>
        rw [hok] at hstreams
        exact Or.inl hstreams
      | true =>
        rw [hok] at hstreams
        exact Or.inr ⟨hstreams, (Scheduler.teardown_vacates hinv hok).installed⟩
    | _ => cases htouch

theorem step_wired (h : Wired w.scheduler) (hinv : Inv w.scheduler) {op : Op}
    (hok : Possible w op) : Wired (step context w op).scheduler := by
  cases op with
  | scheduler call =>
    have hcall : ∀ p r b k, call ≠ .installStandardStream p r b k := by
      rintro p r b k rfl
      exact hok
    rcases schedulerStep_streams h hinv hcall with hsame | ⟨hnone, _⟩
    · rcases h with hnone | hone
      · exact Or.inl (hsame.trans hnone)
      · exact Or.inr (hone.congr hsame)
    · exact Or.inl hnone
  | getStdHandle selector =>
    change Wired (getStdHandle loaderHandles w selector).2.scheduler
    rcases getStdHandle_scheduler h hinv selector with heq | ⟨_, hone, _⟩
    · rw [heq]
      exact h
    · exact Or.inr hone
  | writeFile call =>
    change Wired (writeFile context w call).2.scheduler
    rw [writeFile_scheduler]
    exact h
  | store memory => exact h

/-- The scheduler of the world, as its own laws know it, with the stream. -/
structure Sound (w : World) : Prop where
  scheduler : Scheduler.Reachable w.scheduler
  wired : Wired w.scheduler

theorem Sound.inv (h : Sound w) : Inv w.scheduler := Scheduler.reachableBy_inv h.scheduler

theorem step_sound (h : Sound w) {op : Op} (hok : Possible w op) : Sound (step context w op) := by
  refine ⟨?_, step_wired h.wired h.inv hok⟩
  rcases step_scheduler h.wired h.inv op with heq | ⟨call, heq⟩
  · rw [heq]
    exact h.scheduler
  · rw [heq]
    exact .step h.scheduler trivial

theorem reached_sound (h : Reached context w) : Sound w := by
  apply Runs.Reach.invariant h
  · intro w hw
    exact ⟨.start hw.1, Or.inl (Scheduler.started_streams hw.1)⟩
  · exact fun w op _ hsound hok => step_sound hsound hok

/-! ## The handle lasts -/

/-- No call brings a scheduler back. -/
theorem schedulerStep_uninstalled (hinv : Inv s) (hi : s.installed = false)
    (call : Scheduler.Op) : (Scheduler.step s call).installed = false := by
  rcases Scheduler.step_marks hinv call with hfading | ⟨o, hask, _⟩ | hgone
  · exact hfading.installed.trans hi
  · exfalso
    unfold Scheduler.asksForObject at hask
    split at hask
    all_goals simp [State.accepts, hi] at hask
  · exact hgone.installed

/-- The stream has this handle, or the scheduler is gone. -/
def Lasts (handle : Nat) (w : World) : Prop :=
  OneStream w.scheduler ∧ w.scheduler.standardStream.handle = handle ∨
  NoStream w.scheduler ∧ w.scheduler.installed = false

theorem step_lasts {handle : Nat} (hs : Sound w) (h : Lasts handle w) {op : Op}
    (hok : Possible w op) : Lasts handle (step context w op) := by
  cases op with
  | scheduler call =>
    have hcall : ∀ p r b k, call ≠ .installStandardStream p r b k := by
      rintro p r b k rfl
      exact hok
    rcases schedulerStep_streams hs.wired hs.inv hcall with hsame | hgone
    · rcases h with ⟨hone, hhandle⟩ | ⟨hnone, hi⟩
      · exact Or.inl ⟨hone.congr hsame, (congrArg (·.1.handle) hsame).trans hhandle⟩
      · exact Or.inr ⟨hsame.trans hnone, schedulerStep_uninstalled hs.inv hi call⟩
    · exact Or.inr hgone
  | getStdHandle selector =>
    have hkept : (getStdHandle loaderHandles w selector).2.scheduler = w.scheduler := by
      rcases getStdHandle_scheduler hs.wired hs.inv selector with heq | ⟨⟨hnone, hi⟩, _⟩
      · exact heq
      · rcases h with ⟨hone, _⟩ | ⟨_, hgone⟩
        · have hl := hone.live
          rw [hnone.live] at hl
          cases hl
        · rw [hi] at hgone
          cases hgone
    change Lasts handle (getStdHandle loaderHandles w selector).2
    unfold Lasts
    rw [hkept]
    exact h
  | writeFile call =>
    change Lasts handle (writeFile context w call).2
    unfold Lasts
    rw [writeFile_scheduler]
    exact h
  | store memory => exact h

/-- The program may read, or write, the byte at `x`. -/
def Allowed (context : WriteFileContext) (writable : Bool) (x : Nat) : Prop :=
  (∃ region ∈ context.regions, region.base ≤ x ∧ x < region.stop ∧ region.readable = true ∧
    (writable = true → region.writable = true)) ∨
  context.stackLower ≤ x ∧ x < context.stackUpper

structure RangeAllowed (context : WriteFileContext) (writable : Bool) (address length : Nat) :
    Prop where
  nonzero : address ≠ 0
  canonical : canonicalAddress address = true
  fits : length ≤ uintptrMax - address
  bytes : ∀ x, address ≤ x → x < address + length → Allowed context writable x

theorem rangeInRegion_measures (region : MemoryRegion) (writable : Bool) :
    Coverage.Measures (rangeInRegion region writable) fun x =>
      region.base ≤ x ∧ x < region.stop ∧ region.readable = true ∧
        (writable = true → region.writable = true) := by
  constructor
  · intro x n hx
    unfold rangeInRegion at hx
    split at hx
    · cases hx
    · rename_i hgood
      simp only [not_or, not_le, not_lt, Decidable.not_not, not_and] at hgood
      obtain ⟨_, hbase, hstop, hread, hwrite⟩ := hgood
      cases hx
      exact ⟨by omega, fun y hy hn => ⟨by omega, by omega, hread, hwrite⟩⟩
  · rintro x hx ⟨hbase, hstop, hread, hwrite⟩
    unfold rangeInRegion at hx
    rw [if_neg] at hx
    · cases hx
    · rintro (h | h | h | h | ⟨hw, h⟩)
      · omega
      · omega
      · omega
      · exact h hread
      · exact h (hwrite hw)

theorem rangeInStack_measures (context : WriteFileContext) :
    Coverage.Measures (rangeInStack context) fun x =>
      context.stackLower ≤ x ∧ x < context.stackUpper := by
  constructor
  · intro x n hx
    unfold rangeInStack at hx
    split at hx
    · rename_i hin
      cases hx
      exact ⟨by omega, fun y hy hn => by omega⟩
    · cases hx
  · rintro x hx hin
    unfold rangeInStack at hx
    rw [if_pos (by omega)] at hx
    cases hx

/-- A range goes through when each of its bytes is allowed, whichever regions hold them. -/
theorem rangeCovered_iff (context : WriteFileContext) (address length : Nat) (writable : Bool) :
    rangeCovered context address length writable = none ↔
      length = 0 ∨ RangeAllowed context writable address length := by
  have hwalk := Coverage.walk_iff ((Coverage.Measures.findSome
    (fun region => rangeInRegion_measures region writable) context.regions).orElse
      (rangeInStack_measures context)) (le_refl length) address
  unfold rangeCovered
  by_cases hlength : length = 0
  · rw [if_pos hlength]
    exact iff_of_true rfl (Or.inl hlength)
  · rw [if_neg hlength, or_iff_right hlength]
    by_cases hzero : address = 0
    · rw [if_pos hzero]
      exact iff_of_false nofun fun h => h.nonzero hzero
    · rw [if_neg hzero]
      by_cases hcanonical : canonicalAddress address = true
      · rw [if_neg (by simp [hcanonical])]
        by_cases hfits : length > uintptrMax - address
        · rw [if_pos hfits]
          exact iff_of_false nofun fun h => absurd h.fits (by omega)
        · rw [if_neg hfits]
          constructor
          · intro h
            split at h
            · rename_i hok
              exact ⟨hzero, hcanonical, by omega, hwalk.mp hok⟩
            · cases h
          · intro h
            rw [if_pos]
            exact hwalk.mpr h.bytes
      · rw [if_pos hcanonical]
        exact iff_of_false nofun fun h => hcanonical h.canonical

/-! ## The calls that are accepted -/

/-- The buffer can be read, where there are bytes to read, and the count can be written. -/
structure BuffersAllowed (context : WriteFileContext) (call : WriteFileCall) : Prop where
  buffer : call.bytesToWrite = 0 ∨ RangeAllowed context false call.buffer call.bytesToWrite
  count : RangeAllowed context true call.bytesWritten 4

theorem bufferFault_iff (context : WriteFileContext) (call : WriteFileCall) :
    bufferFault context call = none ↔
      call.bytesToWrite = 0 ∨ RangeAllowed context false call.buffer call.bytesToWrite := by
  unfold bufferFault
  by_cases hlength : call.bytesToWrite = 0
  · rw [if_pos hlength]
    exact iff_of_true rfl (Or.inl hlength)
  · rw [if_neg hlength]
    by_cases hzero : call.buffer = 0
    · rw [if_pos hzero, or_iff_right hlength]
      exact iff_of_false nofun fun h => h.nonzero hzero
    · rw [if_neg hzero, Option.map_eq_none_iff, rangeCovered_iff]

theorem countFault_iff (context : WriteFileContext) (call : WriteFileCall) :
    countFault context call = none ↔ RangeAllowed context true call.bytesWritten 4 := by
  unfold countFault
  by_cases hzero : call.bytesWritten = 0
  · rw [if_pos hzero]
    exact iff_of_false nofun fun h => h.nonzero hzero
  · rw [if_neg hzero, Option.map_eq_none_iff, rangeCovered_iff, or_iff_right (by decide)]

theorem bufferFault_error {fault : WriteFileStatus × Nat}
    (h : bufferFault context call = some fault) : fault.2 ≠ 0 := by
  unfold bufferFault at h
  split at h
  · cases h
  · split at h
    · cases h
      decide
    · obtain ⟨status, _, rfl⟩ := Option.map_eq_some_iff.mp h
      dsimp only
      split <;> decide

theorem countFault_error {fault : WriteFileStatus × Nat}
    (h : countFault context call = some fault) : fault.2 ≠ 0 := by
  unfold countFault at h
  split at h
  · cases h
    decide
  · obtain ⟨status, _, rfl⟩ := Option.map_eq_some_iff.mp h
    dsimp only
    split <;> decide

/-- The handle is the one of the standard output, up to the bits that the decoding drops. -/
structure Accepted (context : WriteFileContext) (w : World) (call : WriteFileCall) : Prop where
  valid : validateContext context w.scheduler = true
  stream : w.scheduler.standardStream.live = true
  handle : Scheduler.clearDropped call.hFile = w.scheduler.standardStream.handle
  overlapped : call.overlapped = 0
  buffers : BuffersAllowed context call

/-- What an accepted call leaves behind. -/
def written (w : World) (call : WriteFileCall) : World :=
  { w with
    console := w.console ++ bytesAt w.memory call.buffer call.bytesToWrite
    memory := storeCount w.memory call.bytesWritten call.bytesToWrite }

theorem length_bytesAt (memory : Nat → UInt8) (address count : Nat) :
    (bytesAt memory address count).length = count := by
  simp [bytesAt]

/-- The serial port takes all that it is given. -/
theorem outputBytes_serial (hbackend : context.backendWrite = serialBackend) (w : World)
    (report : WriteFileReport) (o : ObjectSlot) :
    (outputBytes context w report o).1.resultBool = 1 ∧
    (outputBytes context w report o).1.bytesWrittenResult = report.call.bytesToWrite ∧
    (outputBytes context w report o).2 = written w report.call := by
  unfold outputBytes
  split
  · rename_i hzero
    simp [reportWritten, written, bytesAt, hzero]
  · rw [hbackend]
    simp [serialBackend, length_bytesAt, reportWritten, written]

/-- A call that is refused sets the error and nothing else. -/
def Refused (w : World) (outcome : WriteFileReport × World) : Prop :=
  outcome.1.resultBool = 0 ∧
    ∃ error, outcome.1.win32Error = error ∧ error ≠ 0 ∧
      outcome.2 = { w with platformLastError := error }

theorem failStatus_refused (w : World) (report : WriteFileReport) (status : WriteFileStatus)
    {error : Nat} (herror : error ≠ 0) : Refused w (failStatus w report status error) :=
  ⟨rfl, error, rfl, herror, rfl⟩

/-- What the caller learns, and what is left behind. -/
def Outcome (context : WriteFileContext) (w : World) (call : WriteFileCall)
    (outcome : WriteFileReport × World) : Prop :=
  (Accepted context w call ∧ outcome.1.resultBool = 1 ∧
    outcome.1.bytesWrittenResult = call.bytesToWrite ∧ outcome.2 = written w call) ∨
  ¬ Accepted context w call ∧ Refused w outcome

theorem writeStream_outcome (hbackend : context.backendWrite = serialBackend)
    {report : WriteFileReport} (hcall : report.call = call) (o : ObjectSlot)
    (haccepted : Accepted context w call ↔ BuffersAllowed context call) :
    Outcome context w call (writeStream context w report o) := by
  subst hcall
  unfold Outcome
  rw [haccepted]
  unfold writeStream
  cases hbuffer : bufferFault context report.call with
  | some fault =>
    refine Or.inr ⟨fun h => ?_, failStatus_refused w report _ (bufferFault_error hbuffer)⟩
    rw [(bufferFault_iff context report.call).mpr h.buffer] at hbuffer
    cases hbuffer
  | none =>
    dsimp only
    have hcall : (captureBuffer w.memory report).call = report.call := rfl
    rw [hcall]
    cases hcount : countFault context report.call with
    | some fault =>
      refine Or.inr ⟨fun h => ?_, failStatus_refused w _ _ (countFault_error hcount)⟩
      rw [(countFault_iff context report.call).mpr h.count] at hcount
      cases hcount
    | none =>
      refine Or.inl ⟨⟨(bufferFault_iff context report.call).mp hbuffer,
        (countFault_iff context report.call).mp hcount⟩, ?_⟩
      exact outputBytes_serial hbackend w _ o

/-- A handle leads to the stream exactly when it is the handle of the stream. -/
theorem leads_to_stream_iff (hs : Sound w) (hword : call.hFile < 2 ^ 64) :
    (∃ o, Scheduler.objectFromHandle w.scheduler call.hFile = some o ∧
      (w.scheduler.objects o).type = .standardStream) ↔
    w.scheduler.standardStream.live = true ∧
      Scheduler.clearDropped call.hFile = w.scheduler.standardStream.handle := by
  have hinv := hs.inv
  constructor
  · rintro ⟨o, ho, htype⟩
    obtain ⟨_, hl, hclear⟩ := (Scheduler.objectFromHandle_iff hinv.objects hword).mp ho
    have hfit := hinv.objects.target o hl
    unfold Scheduler.TargetFits at hfit
    rw [htype] at hfit
    obtain ⟨_, hlive, hslot, _⟩ := hfit
    refine ⟨hlive, ?_⟩
    rcases hs.wired with hnone | hone
    · rw [hnone.live] at hlive
      cases hlive
    · rw [hclear, ← hone.handleOf_eq hinv, hslot]
  · rintro ⟨hlive, hclear⟩
    obtain ⟨hl, htype, _⟩ := hinv.objects.stream hlive
    refine ⟨w.scheduler.standardStream.objectSlot, ?_, htype⟩
    have hi : w.scheduler.installed = true := by
      by_contra hi
      have hdead := Scheduler.reachable_vacant hs.scheduler (by simpa using hi)
        w.scheduler.standardStream.objectSlot
      rw [hl] at hdead
      cases hdead
    rcases hs.wired with hnone | hone
    · rw [hnone.live] at hlive
      cases hlive
    · exact (Scheduler.objectFromHandle_iff hinv.objects hword).mpr
        ⟨hi, hl, hclear.trans (hone.handleOf_eq hinv).symm⟩

/-- The object of the stream passes the checks that WriteFile makes of it. -/
theorem stream_object_good (hs : Sound w) {o : ObjectSlot}
    (hl : (w.scheduler.objects o).live = true)
    (htype : (w.scheduler.objects o).type = .standardStream) :
    (w.scheduler.objects o).closeState = false ∧ (w.scheduler.objects o).publicHandleRefs = 1 ∧
    (w.scheduler.objects o).internalRefs ≠ 0 ∧ (w.scheduler.objects o).target = some .stream ∧
    (w.scheduler.objects o).slot = w.scheduler.standardStream.objectSlot ∧
    (w.scheduler.objects o).generation = w.scheduler.standardStream.generation ∧
    OneStream w.scheduler := by
  have hinv := hs.inv
  have hfit := hinv.objects.target o hl
  unfold Scheduler.TargetFits at hfit
  rw [htype] at hfit
  obtain ⟨htarget, hlive, hslot, hgeneration⟩ := hfit
  have hrefs := hinv.objects.refs o hl
  refine ⟨Scheduler.reachable_openStays hs.scheduler o hl (by simp [htype]) (by simp [htype]),
    Scheduler.reachable_handleStays hs.scheduler o hl (by simp [htype]) (by simp [htype]),
    by omega, htarget, ((hinv.objects.slot o hl).1).trans hslot.symm, hgeneration.symm, ?_⟩
  rcases hs.wired with hnone | hone
  · rw [hnone.live] at hlive
    cases hlive
  · exact hone

theorem writeFile_outcome (hs : Sound w) (hword : call.hFile < 2 ^ 64)
    (hbackend : context.backendWrite = serialBackend) :
    Outcome context w call (writeFile context w call) := by
  have hleads := leads_to_stream_iff hs hword
  unfold writeFile
  dsimp only
  by_cases hvalid : validateContext context w.scheduler = true
  · rw [if_neg (by simp [hvalid])]
    cases ho : Scheduler.objectFromHandle w.scheduler call.hFile with
    | none =>
      refine Or.inr ⟨fun h => ?_, failStatus_refused w _ _ (by decide)⟩
      obtain ⟨o, ho', _⟩ := hleads.mpr ⟨h.stream, h.handle⟩
      rw [ho] at ho'
      cases ho'
    | some o =>
      obtain ⟨_, hl, _⟩ := (Scheduler.objectFromHandle_iff hs.inv.objects hword).mp ho
      dsimp only
      by_cases htype : (w.scheduler.objects o).type = .standardStream
      · obtain ⟨hopen, hpublic, hinternal, htarget, hslot, hgeneration, hone⟩ :=
          stream_object_good hs hl htype
        obtain ⟨hlive, hclear⟩ := hleads.mp ⟨o, ho, htype⟩
        rw [if_neg (by simp [hl, hopen, hpublic, hinternal, htarget]), if_neg (by simp [htype]),
          if_neg (by simp [hlive, hslot, hgeneration]),
          if_neg (by rw [hone.capabilities]; decide), if_neg (by simp [hone.backend])]
        by_cases hoverlapped : call.overlapped = 0
        · rw [if_neg (by simp [hoverlapped])]
          refine writeStream_outcome hbackend (by rfl) o ⟨fun h => h.buffers, fun h => ?_⟩
          exact ⟨hvalid, hlive, hclear, hoverlapped, h⟩
        · rw [if_pos hoverlapped]
          exact Or.inr ⟨fun h => hoverlapped h.overlapped, failStatus_refused w _ _ (by decide)⟩
      · have hother : ¬ Accepted context w call := by
          intro h
          obtain ⟨o', ho', htype'⟩ := hleads.mpr ⟨h.stream, h.handle⟩
          rw [ho, Option.some.injEq] at ho'
          exact htype (ho' ▸ htype')
        split
        · exact Or.inr ⟨hother, failStatus_refused w _ _ (by decide)⟩
        · exact Or.inr ⟨hother, failStatus_refused w _ _ (by decide)⟩
  · rw [if_pos hvalid]
    exact Or.inr ⟨fun h => hvalid h.valid, failStatus_refused w _ _ (by decide)⟩

theorem getStdHandle_console (w : World) (selector : Nat) :
    (getStdHandle loaderHandles w selector).2.console = w.console := by
  unfold getStdHandle queryRole
  dsimp only
  repeat' split
  all_goals rfl

/-- A region for the count, and two that overlap, with the buffer across them. -/
def sampleContext : WriteFileContext :=
  { regions := [⟨0x1000, 0x1002, true, false, false⟩, ⟨0x1001, 0x1004, true, false, false⟩,
      ⟨0x2000, 0x2010, true, true, false⟩]
    stackLower := 0, stackUpper := 0, backendWrite := serialBackend }

def sampleCall (handle : Nat) : WriteFileCall :=
  { hFile := handle, buffer := 0x1000, bytesToWrite := 4, bytesWritten := 0x2000,
    overlapped := 0, returnAddress := 0 }

def sampleHandle : Nat := makeHandle .standardStream 1 1

def sampleText : Nat → UInt8 := fun p => UInt8.ofNat (p % 0x100 + 0x61)

/-- A write before there is a handle, and one after it, whose last byte is not allowed. -/
def sampleOps : List Op :=
  [.store sampleText, .writeFile (sampleCall sampleHandle), .getStdHandle errorSelector,
    .writeFile (sampleCall sampleHandle),
    .writeFile { sampleCall sampleHandle with bytesToWrite := 5 }]

def sampleNoted : World × List (List UInt8) :=
  Runs.run (Runs.noting (step (onSerial sampleContext)) (noteWritten (onSerial sampleContext)))
    ({ scheduler := Scheduler.sampleStart }, []) sampleOps

theorem sampleNoted_run : ConsoleRun sampleContext
    (Runs.run (step (onSerial sampleContext)) { scheduler := Scheduler.sampleStart } sampleOps)
    sampleNoted.2 := by
  have hstart : ConsoleRun sampleContext { scheduler := Scheduler.sampleStart } [] :=
    .start ⟨⟨Scheduler.sampleStart_started, rfl⟩, rfl⟩
  have hword : sampleHandle < 2 ^ 64 := by decide
  refine hstart.run sampleOps fun _ => ?_
  simp only [sampleOps, Possible, sampleCall, List.forall_mem_cons, hword, true_and]
  exact List.forall_mem_nil _

end Gate4Harness.Console
