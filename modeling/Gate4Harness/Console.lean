-- The console of the program: GetStdHandle (standard_handle.c) and WriteFile (write_file.c),
-- with the contexts that the loader fills in (gate4_loader.c). Standard output and standard
-- error are one stream, and its backend is the serial port.
import Gate4Harness.Coverage
import Gate4Harness.PeImage
import Gate4Harness.SchedulerStreams

namespace Gate4Harness.Console

open PeImage (MemoryRegion uintptrMax)
open Scheduler (State ObjectSlot)
open scoped Scheduler

/-! ## GetStdHandle -/

def inputSelector : Nat := 0xFFFFFFF6
def outputSelector : Nat := 0xFFFFFFF5
def errorSelector : Nat := 0xFFFFFFF4
def invalidValue : Nat := 0xFFFFFFFFFFFFFFFF

def errorAccessDenied : Nat := 5
def errorInvalidHandle : Nat := 6
def errorNotEnoughMemory : Nat := 8
def errorNotSupported : Nat := 50
def errorInvalidParameter : Nat := 87
def errorNoaccess : Nat := 998

def roleInput : Nat := 0x01
def backendSerialCom1 : Nat := 1
def capabilityWrite : Nat := 0x02

structure StandardHandleContext where
  inputAvailable : Bool
  outputAvailable : Bool
  errorAvailable : Bool
  outputBackend : Nat
  outputCapabilities : Nat

/-- The scheduler, the memory of the program, the bytes that went out over the serial port,
and `g_platform_last_error`. -/
structure World where
  scheduler : State := {}
  memory : Nat → UInt8 := fun _ => 0
  console : List UInt8 := []
  platformLastError : Nat := 0

def standardHandleForRole (s : State) (role : Nat) : Nat :=
  if ¬ s.installed then 0
  else if role = roleInput then s.standardInputHandle
  else if role = Scheduler.roleOutput then s.standardOutputHandle
  else if role = Scheduler.roleError then s.standardErrorHandle
  else 0

/-- The roles that one installation gives to the stream. -/
def StandardHandleContext.roles (context : StandardHandleContext) : Nat :=
  (if context.outputAvailable then Scheduler.roleOutput else 0) |||
  (if context.errorAvailable then Scheduler.roleError else 0)

def queryRole (context : StandardHandleContext) (w : World) (role : Nat) (available : Bool) :
    Nat × World :=
  if ¬ available then (0, w)
  else
    let handle := standardHandleForRole w.scheduler role
    if handle ≠ 0 then (handle, w)
    else if context.roles = 0 then (0, { w with platformLastError := errorNotEnoughMemory })
    else
      match Scheduler.installStandardStream w.scheduler .this context.roles
          context.outputBackend context.outputCapabilities with
      | (false, s) => (0, { w with scheduler := s, platformLastError := errorNotEnoughMemory })
      | (true, s) => (standardHandleForRole s role, { w with scheduler := s })

/-- `gxos_get_std_handle_contract` -/
def getStdHandle (context : StandardHandleContext) (w : World) (selector : Nat) : Nat × World :=
  if selector = inputSelector then queryRole context w roleInput context.inputAvailable
  else if selector = outputSelector then
    queryRole context w Scheduler.roleOutput context.outputAvailable
  else if selector = errorSelector then
    queryRole context w Scheduler.roleError context.errorAvailable
  else (invalidValue, { w with platformLastError := errorInvalidHandle })

/-- `g_standard_handle_context`: there is no input. -/
def loaderHandles : StandardHandleContext :=
  { inputAvailable := false, outputAvailable := true, errorAvailable := true,
    outputBackend := backendSerialCom1, outputCapabilities := capabilityWrite }

/-! ## The ranges of a call of WriteFile -/

inductive WriteFileStatus
  | ok
  | invalidContext
  | invalidHandle
  | unsupportedObject
  | accessDenied
  | invalidParameter
  | nullBuffer
  | noncanonicalBuffer
  | unreadableBuffer
  | bufferRangeOverflow
  | nullBytesWritten
  | noncanonicalBytesWritten
  | unwritableBytesWritten
  | bytesWrittenRangeOverflow
  | overlappedUnsupported
  | backendFailure
  | backendCountInvalid
  deriving DecidableEq

def maxMemoryRegions : Nat := 64
def maxCaptureBytes : Nat := 32

/-- The backend takes the bytes to a new console, and answers whether it could, and how many. -/
structure WriteFileContext where
  regions : List MemoryRegion
  stackLower : Nat
  stackUpper : Nat
  backendWrite : List UInt8 → List UInt8 → (Bool × Nat) × List UInt8

def canonicalAddress (address : Nat) : Bool :=
  let high := address >>> 47
  decide (high = 0) || decide (high = 0x1FFFF)

/-- How far the region goes on from `address`, when it holds it and allows the access. -/
def rangeInRegion (region : MemoryRegion) (writable : Bool) (address : Nat) : Option Nat :=
  if region.base ≥ region.stop ∨ address < region.base ∨ address ≥ region.stop ∨
      ¬ region.readable ∨ writable ∧ ¬ region.writable then none
  else some (region.stop - address)

/-- The same for the stack of the loader. -/
def rangeInStack (context : WriteFileContext) (address : Nat) : Option Nat :=
  if context.stackLower < context.stackUpper ∧ address ≥ context.stackLower ∧
      address < context.stackUpper then some (context.stackUpper - address)
  else none

def takeAt (context : WriteFileContext) (writable : Bool) (address : Nat) : Option Nat :=
  (context.regions.findSome? fun region => rangeInRegion region writable address).or
    (rangeInStack context address)

/-- What is wrong with a range, when the access is not allowed. -/
def rangeCovered (context : WriteFileContext) (address length : Nat) (writable : Bool) :
    Option WriteFileStatus :=
  if length = 0 then none
  else if address = 0 then some (if writable then .unwritableBytesWritten else .nullBuffer)
  else if ¬ canonicalAddress address then
    some (if writable then .noncanonicalBytesWritten else .noncanonicalBuffer)
  else if length > uintptrMax - address then
    some (if writable then .bytesWrittenRangeOverflow else .bufferRangeOverflow)
  else if Coverage.walk (takeAt context writable) length address length then none
  else some (if writable then .unwritableBytesWritten else .unreadableBuffer)

def regionValid (region : MemoryRegion) : Bool :=
  decide (region.base < region.stop) && canonicalAddress region.base &&
  canonicalAddress (region.stop - 1)

def stackValid (lower upper : Nat) : Bool :=
  if (lower = 0) ≠ (upper = 0) then false
  else
    decide (lower = 0) ||
    decide (lower < upper) && canonicalAddress lower && canonicalAddress (upper - 1)

/-- `validate_context` -/
def validateContext (context : WriteFileContext) (s : State) : Bool :=
  s.active && decide (context.regions.length ≤ maxMemoryRegions) &&
  context.regions.all regionValid && stackValid context.stackLower context.stackUpper

/-! ## WriteFile -/

structure WriteFileCall where
  hFile : Nat
  buffer : Nat
  bytesToWrite : Nat
  bytesWritten : Nat
  overlapped : Nat
  returnAddress : Nat

structure WriteFileReport where
  status : WriteFileStatus := .ok
  win32Error : Nat := 0
  resultBool : Nat := 0
  bufferRangeValid : Nat := 0
  bytesWrittenRangeValid : Nat := 0
  outputStarted : Nat := 0
  backendSucceeded : Nat := 0
  backendCountValid : Nat := 0
  threadIdentity : Nat := 0
  objectType : Nat := 0
  objectSlot : Nat := 0
  objectGeneration : Nat := 0
  publicHandleRefsBefore : Nat := 0
  internalRefsBefore : Nat := 0
  publicHandleRefsAfter : Nat := 0
  internalRefsAfter : Nat := 0
  streamBackend : Nat := 0
  streamCapabilities : Nat := 0
  bytesWrittenResult : Nat := 0
  priorLastError : Nat := 0
  lastErrorAfter : Nat := 0
  firstCapture : List UInt8 := []
  lastCapture : List UInt8 := []
  call : WriteFileCall

def failStatus (w : World) (report : WriteFileReport) (status : WriteFileStatus) (error : Nat) :
    WriteFileReport × World :=
  ({ report with status, win32Error := error, resultBool := 0, lastErrorAfter := error },
    { w with platformLastError := error })

def bytesAt (memory : Nat → UInt8) (address count : Nat) : List UInt8 :=
  (List.range count).map fun i => memory (address + i)

/-- `*(uint32_t *)address = value` -/
def storeCount (memory : Nat → UInt8) (address value : Nat) : Nat → UInt8 := fun p =>
  if address ≤ p ∧ p < address + 4 then UInt8.ofNat (value / 2 ^ (8 * (p - address)))
  else memory p

def captureBuffer (memory : Nat → UInt8) (report : WriteFileReport) : WriteFileReport :=
  let count := min report.call.bytesToWrite maxCaptureBytes
  { report with
    firstCapture := bytesAt memory report.call.buffer count
    lastCapture :=
      bytesAt memory (report.call.buffer + report.call.bytesToWrite - count) count }

def noteObject (report : WriteFileReport) (s : State) (o : ObjectSlot) : WriteFileReport :=
  { report with
    objectType := (s.objects o).type.code
    objectSlot := (s.objects o).slot
    objectGeneration := (s.objects o).generation
    publicHandleRefsBefore := (s.objects o).publicHandleRefs
    internalRefsBefore := (s.objects o).internalRefs }

def noteStream (report : WriteFileReport) (s : State) : WriteFileReport :=
  { report with
    streamBackend := s.standardStream.backend
    streamCapabilities := s.standardStream.capabilities }

/-- The checks of the buffer, and the error that each one sets. -/
def bufferFault (context : WriteFileContext) (call : WriteFileCall) :
    Option (WriteFileStatus × Nat) :=
  if call.bytesToWrite = 0 then none
  else if call.buffer = 0 then some (.nullBuffer, errorInvalidParameter)
  else
    (rangeCovered context call.buffer call.bytesToWrite false).map fun status =>
      (status, if status = .unreadableBuffer then errorNoaccess else errorInvalidParameter)

/-- The checks of the count, and the error that each one sets. -/
def countFault (context : WriteFileContext) (call : WriteFileCall) :
    Option (WriteFileStatus × Nat) :=
  if call.bytesWritten = 0 then some (.nullBytesWritten, errorInvalidParameter)
  else
    (rangeCovered context call.bytesWritten 4 true).map fun status =>
      (status, if status = .unwritableBytesWritten then errorNoaccess else errorInvalidParameter)

/-- The end of a call that went through. -/
def reportWritten (w : World) (report : WriteFileReport) (o : ObjectSlot) (backendCount : Nat) :
    WriteFileReport × World :=
  ({ report with
      backendSucceeded := 1
      backendCountValid := 1
      bytesWrittenResult := backendCount
      publicHandleRefsAfter := (w.scheduler.objects o).publicHandleRefs
      internalRefsAfter := (w.scheduler.objects o).internalRefs
      resultBool := 1
      status := .ok
      win32Error := report.priorLastError
      lastErrorAfter := w.platformLastError },
    { w with memory := storeCount w.memory report.call.bytesWritten backendCount })

/-- The output itself, after all checks. -/
def outputBytes (context : WriteFileContext) (w : World) (report : WriteFileReport)
    (o : ObjectSlot) : WriteFileReport × World :=
  if report.call.bytesToWrite = 0 then reportWritten w report o 0
  else
    match context.backendWrite w.console
        (bytesAt w.memory report.call.buffer report.call.bytesToWrite) with
    | ((true, count), console) =>
      let report := { report with outputStarted := if count ≠ 0 then 1 else 0 }
      if count > report.call.bytesToWrite then
        failStatus { w with console } report .backendCountInvalid errorNotSupported
      else reportWritten { w with console } report o count
    | ((false, count), console) =>
      failStatus { w with console } { report with outputStarted := if count ≠ 0 then 1 else 0 }
        .backendFailure errorNotSupported

def writeStream (context : WriteFileContext) (w : World) (report : WriteFileReport)
    (o : ObjectSlot) : WriteFileReport × World :=
  match bufferFault context report.call with
  | some (status, error) => failStatus w report status error
  | none =>
    let report := { captureBuffer w.memory report with bufferRangeValid := 1 }
    match countFault context report.call with
    | some (status, error) => failStatus w report status error
    | none => outputBytes context w { report with bytesWrittenRangeValid := 1 } o

/-- `gxos_write_file_contract` -/
def writeFile (context : WriteFileContext) (w : World) (call : WriteFileCall) :
    WriteFileReport × World :=
  let s := w.scheduler
  let report : WriteFileReport :=
    { call, priorLastError := w.platformLastError, lastErrorAfter := w.platformLastError }
  if ¬ validateContext context s then failStatus w report .invalidContext errorInvalidParameter
  else
    let thread := if s.installed then s.current else none
    let report := { report with
      threadIdentity := thread.elim 0 fun t => (s.threads t).identity }
    match Scheduler.objectFromHandle s call.hFile with
    | none => failStatus w report .invalidHandle errorInvalidHandle
    | some o =>
      if ¬ (s.objects o).live ∨ (s.objects o).closeState ∨
          (s.objects o).publicHandleRefs = 0 ∨ (s.objects o).internalRefs = 0 ∨
          (s.objects o).target = none then
        failStatus w report .invalidHandle errorInvalidHandle
      else
        let report := noteObject report s o
        if (s.objects o).type ≠ .standardStream then
          failStatus w report .unsupportedObject errorInvalidHandle
        else
          let report := noteStream report s
          if ¬ s.standardStream.live ∨ s.standardStream.objectSlot ≠ (s.objects o).slot ∨
              s.standardStream.generation ≠ (s.objects o).generation then
            failStatus w report .invalidHandle errorInvalidHandle
          else if s.standardStream.capabilities &&& capabilityWrite = 0 then
            failStatus w report .accessDenied errorAccessDenied
          else if s.standardStream.backend ≠ backendSerialCom1 then
            failStatus w report .unsupportedObject errorNotSupported
          else if call.overlapped ≠ 0 then
            failStatus w report .overlappedUnsupported errorInvalidParameter
          else writeStream context w report o

/-- `platform_write_file_serial_backend` -/
def serialBackend (console bytes : List UInt8) : (Bool × Nat) × List UInt8 :=
  ((true, bytes.length), console ++ bytes)

/-! ## Runs -/

inductive Op
  | scheduler (op : Scheduler.Op)
  | getStdHandle (selector : Nat)
  | writeFile (call : WriteFileCall)
  /-- The program writes its memory. -/
  | store (memory : Nat → UInt8)

def step (context : WriteFileContext) (w : World) : Op → World
  | .scheduler op => { w with scheduler := Scheduler.step w.scheduler op }
  | .getStdHandle selector => (getStdHandle loaderHandles w selector).2
  | .writeFile call => (writeFile context w call).2
  | .store memory => { w with memory }

/-- Only GetStdHandle installs the stream, and a handle is a word. -/
def Possible (_ : World) : Op → Prop
  | .scheduler (.installStandardStream ..) => False
  | .writeFile call => call.hFile < 2 ^ 64
  | _ => True

def Start (w : World) : Prop := Scheduler.Started w.scheduler ∧ w.console = []

/-- The loader writes to the serial port. -/
def onSerial (context : WriteFileContext) : WriteFileContext :=
  { context with backendWrite := serialBackend }

def Reached (context : WriteFileContext) : World → Prop :=
  Runs.Reach Start (step (onSerial context)) Possible

/-- The bytes of the calls that went through, call by call. -/
def noteWritten (context : WriteFileContext) (w : World) (op : Op) (n : List (List UInt8)) :
    List (List UInt8) :=
  match op with
  | .writeFile call =>
    if (writeFile context w call).1.resultBool = 1 then
      n ++ [bytesAt w.memory call.buffer call.bytesToWrite]
    else n
  | _ => n

def ConsoleRun (context : WriteFileContext) : World → List (List UInt8) → Prop :=
  Runs.ReachNoting Start (step (onSerial context)) Possible (fun _ => [])
    (noteWritten (onSerial context))

end Gate4Harness.Console
