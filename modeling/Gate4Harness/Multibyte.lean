-- MultiByteToWideChar of platform_multibyte.c: the checks of the memory regions, the decoder
-- of one character, and the two passes over the source. The first pass only counts; the
-- second decodes the source again and stores the units.
import Mathlib.Data.List.Basic
import Mathlib.Tactic.Common

namespace Gate4Harness.Multibyte

abbrev Memory := Nat → UInt8

/-- `UINTPTR_MAX`, which is `UINT64_MAX` too. -/
def uintptrMax : Nat := 0xFFFFFFFFFFFFFFFF

def cpUtf8 : Nat := 65001

def mbErrInvalidChars : Nat := 0x00000008

def errorInvalidParameter : Nat := 87

def errorInsufficientBuffer : Nat := 122

def errorNoUnicodeTranslation : Nat := 1113

def maxNulScan : Nat := 0x10000

def maxMemoryRegions : Nat := 128

def maxCaptureBytes : Nat := 64

def maxCaptureUnits : Nat := 32

/-- `GXOS_MULTIBYTE_STATUS` -/
inductive MultibyteStatus
  | ok
  | invalidOutput
  | invalidContext
  | invalidCodePage
  | invalidFlags
  | invalidByteCount
  | nullSource
  | noncanonicalSource
  | unreadableSource
  | sourceRangeOverflow
  | unterminatedSource
  | nullDestination
  | noncanonicalDestination
  | unwritableDestination
  | destinationRangeOverflow
  | sizeOverflow
  | insufficientBuffer
  | invalidUtf8
  | overlappingRanges
  deriving DecidableEq, Repr

/-! ## Memory regions -/

structure MemoryRegion where
  base : Nat
  endAddress : Nat
  readable : Bool
  writable : Bool
  deriving DecidableEq, Repr

/-- The regions that the caller may read or write, as many as the context counts. -/
abbrev MemoryContext := List MemoryRegion

def canonicalAddress (address : Nat) : Bool :=
  let high := address >>> 47
  decide (high = 0) || decide (high = 0x1FFFF)

def contextValid (memory : MemoryContext) : Bool :=
  if memory.length = 0 ∨ memory.length > maxMemoryRegions then false
  else
    memory.all fun region =>
      !(decide (region.base = 0) || decide (region.base ≥ region.endAddress) ||
        !canonicalAddress region.base || !canonicalAddress (region.endAddress - 1))

def findRegion (memory : MemoryContext) (address : Nat) : Option MemoryRegion :=
  memory.find? fun region =>
    decide (address ≥ region.base) && decide (address < region.endAddress)

/-- What a check of a range reports, by what is wrong with the range. -/
structure RangeStatuses where
  null : MultibyteStatus
  noncanonical : MultibyteStatus
  inaccessible : MultibyteStatus
  overflow : MultibyteStatus

def sourceStatuses : RangeStatuses :=
  ⟨.nullSource, .noncanonicalSource, .unreadableSource, .sourceRangeOverflow⟩

def destinationStatuses : RangeStatuses :=
  ⟨.nullDestination, .noncanonicalDestination, .unwritableDestination,
    .destinationRangeOverflow⟩

/-- The loop of `range_covered`, from region to region. A region that is found holds the
current address, so each turn leaves at least one byte less, and there are no more turns than
bytes. -/
def coveredFrom (memory : MemoryContext) (writable : Bool) (inaccessible : MultibyteStatus) :
    (turns current remaining : Nat) → MultibyteStatus
  | 0, _, _ => .ok
  | turns + 1, current, remaining =>
    if remaining = 0 then .ok
    else
      match findRegion memory current with
      | none => inaccessible
      | some region =>
        if ¬ region.readable ∨ writable ∧ ¬ region.writable then inaccessible
        else
          let available := region.endAddress - current
          if available ≥ remaining then .ok
          else
            coveredFrom memory writable inaccessible turns (current + available)
              (remaining - available)

/-- The same loop without a bound on its turns, on the 64-bit words of the code. Without an
answer it still runs when the fuel is out. -/
def coveredLoop (memory : MemoryContext) (writable : Bool) (inaccessible : MultibyteStatus) :
    (fuel current remaining : Nat) → Option MultibyteStatus
  | 0, _, _ => none
  | fuel + 1, current, remaining =>
    if remaining = 0 then some .ok
    else
      match findRegion memory current with
      | none => some inaccessible
      | some region =>
        if ¬ region.readable ∨ writable ∧ ¬ region.writable then some inaccessible
        else
          let available := region.endAddress - current
          if available ≥ remaining then some .ok
          else
            coveredLoop memory writable inaccessible fuel
              ((current + available) % (uintptrMax + 1)) (remaining - available)

def rangeCovered (memory : MemoryContext) (address length : Nat) (writable : Bool)
    (statuses : RangeStatuses) : MultibyteStatus :=
  if length = 0 then .ok
  else if address = 0 then statuses.null
  else if ¬ canonicalAddress address then statuses.noncanonical
  else if length > uintptrMax - address then statuses.overflow
  else coveredFrom memory writable statuses.inaccessible length address length

/-- The whole check with that loop. -/
def rangeCoveredLoop (memory : MemoryContext) (address length : Nat) (writable : Bool)
    (statuses : RangeStatuses) (fuel : Nat) : Option MultibyteStatus :=
  if length = 0 then some .ok
  else if address = 0 then some statuses.null
  else if ¬ canonicalAddress address then some statuses.noncanonical
  else if length > uintptrMax - address then some statuses.overflow
  else coveredLoop memory writable statuses.inaccessible fuel address length

/-- The search for the terminator, at `index` with `turns` bytes left to look at. -/
def scanNul (memory : MemoryContext) (m : Memory) (base : Nat) :
    (turns index : Nat) → Except MultibyteStatus (Nat × Nat)
  | 0, _ => .error .unterminatedSource
  | turns + 1, index =>
    if index > uintptrMax - base then .error .sourceRangeOverflow
    else
      let address := base + index
      match rangeCovered memory address 1 false sourceStatuses with
      | .ok =>
        if m address = 0 then .ok (index + 1, index)
        else scanNul memory m base turns (index + 1)
      | status => .error status

/-- The length of the source, and the length without its terminator. -/
def sourceByteRange (memory : MemoryContext) (m : Memory) (source : Nat) (cbMultiByte : Int) :
    Except MultibyteStatus (Nat × Nat) :=
  if source = 0 then .error .nullSource
  else if ¬ canonicalAddress source then .error .noncanonicalSource
  else if cbMultiByte > 0 then
    match rangeCovered memory source cbMultiByte.toNat false sourceStatuses with
    | .ok => .ok (cbMultiByte.toNat, cbMultiByte.toNat)
    | status => .error status
  else scanNul memory m source maxNulScan 0

def rangesOverlap (left leftLength right rightLength : Nat) : Bool :=
  if leftLength = 0 ∨ rightLength = 0 then false
  else if left > uintptrMax - leftLength ∨ right > uintptrMax - rightLength then true
  else decide (left < right + rightLength) && decide (right < left + leftLength)

/-! ## The decoder -/

/-- How many bytes the first one announces, its payload, and the least value so encoded. -/
def leadOf (first : Nat) : Option (Nat × Nat × Nat) :=
  if first ≥ 0xC2 ∧ first ≤ 0xDF then some (2, first &&& 0x1F, 0x80)
  else if first ≥ 0xE0 ∧ first ≤ 0xEF then some (3, first &&& 0x0F, 0x800)
  else if first ≥ 0xF0 ∧ first ≤ 0xF4 then some (4, first &&& 0x07, 0x10000)
  else none

/-- The loop over the continuation bytes, with `left` of them to come. -/
def continueFrom (m : Memory) (start first : Nat) :
    (left index value : Nat) → Option Nat
  | 0, _, value => some value
  | left + 1, index, value =>
    let continuation := (m (start + index)).toNat
    if continuation &&& 0xC0 ≠ 0x80 then none
    else if index = 1 ∧
        (first = 0xE0 ∧ continuation < 0xA0 ∨ first = 0xED ∧ continuation > 0x9F ∨
          first = 0xF0 ∧ continuation < 0x90 ∨ first = 0xF4 ∧ continuation > 0x8F) then none
    else continueFrom m start first left (index + 1) ((value <<< 6) ||| (continuation &&& 0x3F))

/-- The code point at an offset and the bytes it takes. There is none where the bytes are not
UTF-8. -/
def decodeOne (m : Memory) (source sourceLength offset : Nat) : Option (Nat × Nat) :=
  if offset ≥ sourceLength then none
  else
    let first := (m (source + offset)).toNat
    if first ≤ 0x7F then some (first, 1)
    else
      match leadOf first with
      | none => none
      | some (count, value, minimum) =>
        if count > sourceLength - offset then none
        else
          match continueFrom m (source + offset) first (count - 1) 1 value with
          | none => none
          | some value =>
            if value < minimum ∨ value > 0x10FFFF ∨ value ≥ 0xD800 ∧ value ≤ 0xDFFF then none
            else some (value, count)

/-! ## The two passes -/

/-- The first pass. Every character takes a byte, so there are no more turns than bytes. -/
def requiredUnits (m : Memory) (source sourceLength : Nat) :
    (turns offset required : Nat) → Except MultibyteStatus Nat
  | 0, _, required => .ok required
  | turns + 1, offset, required =>
    if offset = sourceLength then .ok required
    else
      match decodeOne m source sourceLength offset with
      | none => .error .invalidUtf8
      | some (codePoint, consumed) =>
        let units := if codePoint > 0xFFFF then 2 else 1
        if required > uintptrMax - units then .error .sizeOverflow
        else requiredUnits m source sourceLength turns (offset + consumed) (required + units)

/-- A unit in memory, its low byte first. -/
def storeUnit (m : Memory) (address unit : Nat) : Memory := fun p =>
  if p = address then UInt8.ofNat unit
  else if p = address + 1 then UInt8.ofNat (unit / 0x100)
  else m p

def unitAt (m : Memory) (address : Nat) : Nat :=
  (m address).toNat + 0x100 * (m (address + 1)).toNat

/-- The second pass, which decodes from the memory that it writes to. There are no units
written when the source turns out not to be UTF-8. -/
def writeUnits (source sourceLength destination : Nat) :
    (turns offset written : Nat) → Memory → Memory × Option Nat
  | 0, _, written, m => (m, some written)
  | turns + 1, offset, written, m =>
    if offset = sourceLength then (m, some written)
    else
      let output := destination + 2 * written
      match decodeOne m source sourceLength offset with
      | none => (m, none)
      | some (codePoint, consumed) =>
        if codePoint ≤ 0xFFFF then
          writeUnits source sourceLength destination turns (offset + consumed) (written + 1)
            (storeUnit m output codePoint)
        else
          let adjusted := codePoint - 0x10000
          writeUnits source sourceLength destination turns (offset + consumed) (written + 2)
            (storeUnit (storeUnit m output (0xD800 + (adjusted >>> 10))) (output + 2)
              (0xDC00 + (adjusted &&& 0x3FF)))

/-! ## The call -/

/-- The arguments of a call. `hasLastError` says that there is a place for the last error. -/
structure MultibyteCall where
  codePage : Nat
  flags : Nat
  source : Nat
  cbMultiByte : Int
  destination : Nat
  cchWideChar : Int
  previousLastError : Nat
  hasLastError : Bool := true

structure MultibyteReport where
  codePage : Nat
  flags : Nat
  source : Nat
  cbMultiByte : Int
  destination : Nat
  cchWideChar : Int
  sourceBytesIncludingTerminator : Nat := 0
  sourceBytesExcludingTerminator : Nat := 0
  requiredUtf16Units : Nat := 0
  writtenUtf16Units : Nat := 0
  destinationRangeValid : Bool := false
  destinationZeroedBeforeCall : Bool := false
  sourceCapture : List UInt8 := []
  destinationBefore : List UInt8 := []
  destinationAfter : List UInt8 := []
  outputCapture : List Nat := []
  status : MultibyteStatus := .invalidOutput
  lastErrorBefore : Nat
  lastErrorAfter : Nat

/-- The result, the memory afterwards, the last error if it is set, and the report. -/
structure MultibyteOutcome where
  result : Nat
  memory : Memory
  lastError : Option Nat
  report : MultibyteReport

def MultibyteReport.start (call : MultibyteCall) : MultibyteReport :=
  { codePage := call.codePage
    flags := call.flags
    source := call.source
    cbMultiByte := call.cbMultiByte
    destination := call.destination
    cchWideChar := call.cchWideChar
    lastErrorBefore := call.previousLastError
    lastErrorAfter := call.previousLastError }

/-- The bytes from `source` on, at most as many as the report has place for. -/
def captureBytes (m : Memory) (source byteCount : Nat) : List UInt8 :=
  (List.range (min byteCount maxCaptureBytes)).map fun index => m (source + index)

def captureOutput (m : Memory) (destination unitCount : Nat) : List Nat :=
  (List.range (min unitCount maxCaptureUnits)).map fun index => unitAt m (destination + 2 * index)

def failResult (report : MultibyteReport) (m : Memory) (error : Nat) (status : MultibyteStatus) :
    MultibyteOutcome :=
  { result := 0, memory := m, lastError := some error
    report := { report with status, lastErrorAfter := error } }

def okResult (report : MultibyteReport) (m : Memory) (previousLastError units : Nat) :
    MultibyteOutcome :=
  { result := units, memory := m, lastError := some previousLastError
    report := { report with status := .ok, lastErrorAfter := previousLastError } }

/-- The bytes of the destination, if its arguments and its range are accepted. -/
def destinationByteRange (memory : MemoryContext) (call : MultibyteCall) :
    Except MultibyteStatus Nat :=
  if call.destination = 0 then
    if call.cchWideChar ≠ 0 then .error .nullDestination else .ok 0
  else if call.cchWideChar ≤ 0 then .error .invalidByteCount
  else
    match rangeCovered memory call.destination (call.cchWideChar.toNat * 2) true
        destinationStatuses with
    | .ok => .ok (call.cchWideChar.toNat * 2)
    | status => .error status

/-- The report once the destination is accepted. -/
def MultibyteReport.withDestination (report : MultibyteReport) (m : Memory)
    (call : MultibyteCall) (destinationBytes : Nat) : MultibyteReport :=
  if call.destination = 0 then report
  else
    { report with
      destinationRangeValid := true
      destinationBefore := captureBytes m call.destination destinationBytes }

/-- The report once the source is accepted. -/
def MultibyteReport.withSource (report : MultibyteReport) (m : Memory) (call : MultibyteCall)
    (sourceLength sourceLengthWithoutTerminator : Nat) : MultibyteReport :=
  { report with
    sourceBytesIncludingTerminator := sourceLength
    sourceBytesExcludingTerminator := sourceLengthWithoutTerminator
    sourceCapture := captureBytes m call.source sourceLength }

/-- The report of a conversion that is done. -/
def MultibyteReport.withOutput (report : MultibyteReport) (m : Memory) (call : MultibyteCall)
    (destinationBytes written : Nat) : MultibyteReport :=
  { report with
    writtenUtf16Units := written
    outputCapture := captureOutput m call.destination written
    destinationAfter := captureBytes m call.destination destinationBytes
    destinationZeroedBeforeCall := report.destinationBefore.all fun byte => byte == 0 }

/-- The two passes, on a source and a destination that are accepted. -/
def convertAccepted (m : Memory) (call : MultibyteCall) (report : MultibyteReport)
    (sourceLength destinationBytes : Nat) : MultibyteOutcome :=
  match requiredUnits m call.source sourceLength sourceLength 0 0 with
  | .error .sizeOverflow => failResult report m errorInvalidParameter .sizeOverflow
  | .error status => failResult report m errorNoUnicodeTranslation status
  | .ok required =>
    let report := { report with requiredUtf16Units := required }
    if required > 0x7FFFFFFF then failResult report m errorInvalidParameter .sizeOverflow
    else if call.destination = 0 then okResult report m call.previousLastError required
    else if required > call.cchWideChar.toNat then
      failResult report m errorInsufficientBuffer .insufficientBuffer
    else
      match writeUnits call.source sourceLength call.destination sourceLength 0 0 m with
      | (m', none) => failResult report m' errorNoUnicodeTranslation .invalidUtf8
      | (m', some written) =>
        okResult (report.withOutput m' call destinationBytes written) m' call.previousLastError
          written

/-- `gxos_multibyte_to_wide_char_checked` -/
def multibyteToWideCharChecked (memory : MemoryContext) (m : Memory) (call : MultibyteCall) :
    MultibyteOutcome :=
  let report := MultibyteReport.start call
  if ¬ call.hasLastError then { result := 0, memory := m, lastError := none, report }
  else if ¬ contextValid memory then failResult report m errorInvalidParameter .invalidContext
  else if call.codePage ≠ cpUtf8 then failResult report m errorInvalidParameter .invalidCodePage
  else if call.flags ≠ 0 ∧ call.flags ≠ mbErrInvalidChars then
    failResult report m errorInvalidParameter .invalidFlags
  else if call.cbMultiByte = 0 ∨ call.cbMultiByte < -1 then
    failResult report m errorInvalidParameter .invalidByteCount
  else
    match destinationByteRange memory call with
    | .error status => failResult report m errorInvalidParameter status
    | .ok destinationBytes =>
      let report := report.withDestination m call destinationBytes
      match sourceByteRange memory m call.source call.cbMultiByte with
      | .error status => failResult report m errorInvalidParameter status
      | .ok (sourceLength, sourceLengthWithoutTerminator) =>
        let report := report.withSource m call sourceLength sourceLengthWithoutTerminator
        if call.destination ≠ 0 ∧
            rangesOverlap call.source sourceLength call.destination destinationBytes then
          failResult report m errorInvalidParameter .overlappingRanges
        else convertAccepted m call report sourceLength destinationBytes

end Gate4Harness.Multibyte
