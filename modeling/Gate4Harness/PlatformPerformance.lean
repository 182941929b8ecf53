-- The performance counter (platform_performance.c). The timer of ACPI has 24 or 32 bits, and the
-- loader extends it to 64 by adding up what has passed between two reads. What the payload sees
-- is counted from the first reading on, and a value that would run back is rejected.
import Mathlib.Data.List.MinMax
import Mathlib.Data.Nat.Bitwise

namespace Gate4Harness.PlatformPerformance

/-! ## The source -/

def uint64Max : Nat := 0xFFFFFFFFFFFFFFFF
def uint32Max : Nat := 0xFFFFFFFF
def int64Max : Nat := 0x7FFFFFFFFFFFFFFF

/-- `g_perf_source`. -/
inductive Source
  | none
  | invariantTscCpuid15
  | acpiPmTimer
deriving DecidableEq

/-- `GXOS_PERF_PM_TIMER`. -/
structure PmTimer where
  port : Nat := 0
  width : Nat := 0
  mask : Nat := 0
  lastRaw : Nat := 0
  extended : Nat := 0
  initialized : Bool := false

/-- The mask of a width, in both places of the source. -/
def widthMask (width : Nat) : Nat := if width = 32 then uint32Max else 2 ^ width - 1

/-- `current - previous` of two values of 32 bits, under the mask. -/
def maskedDelta (mask previous current : Nat) : Nat :=
  ((current + 2 ^ 32 - previous) % 2 ^ 32) &&& mask

/-- The extension and the normalized value, if the step is small enough to be one. -/
def extendWrappingCounter (width previous current extension : Nat) : Option (Nat × Nat) :=
  if width ≠ 24 ∧ width ≠ 32 then .none
  else
    let mask := widthMask width
    let previous := previous &&& mask
    let current := current &&& mask
    let delta := maskedDelta mask previous current
    if delta > mask >>> 1 then .none
    else if extension > uint64Max - delta then .none
    else .some (extension + delta, current)

/-- `hardware` is what the port gives. -/
def readPmTimer (timer : PmTimer) (hardware : Nat) : Nat := hardware &&& timer.mask

/-- The timer that the tables of ACPI name, with `wide` for their flag of the width, and the
start of the count. -/
def initializePmTimer (port : Nat) (wide : Bool) (hardware : Nat) : PmTimer × Nat :=
  let width := if wide then 32 else 24
  let timer : PmTimer := { port, width, mask := widthMask width }
  let initial := readPmTimer timer hardware
  ({ timer with lastRaw := initial, extended := initial, initialized := true }, initial)

/-- One read of the source. Without an answer the timer stays as it is. -/
def readSource (source : Source) (timer : PmTimer) (hardware : Nat) : Option Nat × PmTimer :=
  if source = .invariantTscCpuid15 then (.some hardware, timer)
  else if source ≠ .acpiPmTimer ∨ timer.initialized = false then (.none, timer)
  else
    let current := readPmTimer timer hardware
    let delta := maskedDelta timer.mask timer.lastRaw current
    if delta > timer.mask >>> 1 ∨ timer.extended > uint64Max - delta then (.none, timer)
    else
      let timer := { timer with lastRaw := current, extended := timer.extended + delta }
      (.some timer.extended, timer)

/-- The answers to one read after the other, and the timer after them. -/
def readAll (timer : PmTimer) : (hardware : List Nat) → List (Option Nat) × PmTimer
  | [] => ([], timer)
  | value :: rest =>
    let (raw, timer) := readSource .acpiPmTimer timer value
    let (raws, timer) := readAll timer rest
    (raw :: raws, timer)

/-! ## The record -/

/-- `GXOS_PERF_STATE`. The values are never negative. -/
structure PerfState where
  startRaw : Nat
  lastRaw : Nat
  lastValue : Nat := 0
  firstValue : Nat := 0
  minimumDelta : Nat := 0
  maximumDelta : Nat := 0
  callCount : Nat := 0
  regressions : Nat := 0
  initialized : Bool := true

/-- The state that `gxos_perf_configure` leaves. -/
def PerfState.start (startRaw : Nat) : PerfState := { startRaw, lastRaw := startRaw }

def normalizeCounter (startRaw raw : Nat) : Option Nat :=
  if raw < startRaw then .none
  else
    let delta := raw - startRaw
    if delta > int64Max then .none else .some delta

inductive RecordResult
  | ok (normalized : Nat)
  | notInitialized
  | regression
deriving DecidableEq

def reject (s : PerfState) : RecordResult × PerfState :=
  (.regression, { s with regressions := (s.regressions + 1) % 2 ^ 64 })

def recordCounter (s : PerfState) (raw : Nat) : RecordResult × PerfState :=
  if s.initialized = false then (.notInitialized, s)
  else
    match normalizeCounter s.startRaw raw with
    | .none => reject s
    | .some candidate =>
      let accept (s : PerfState) : RecordResult × PerfState :=
        (.ok candidate, { s with lastRaw := raw, lastValue := candidate,
                                 callCount := (s.callCount + 1) % 2 ^ 64 })
      if s.callCount ≠ 0 then
        if candidate < s.lastValue then reject s
        else
          let delta := candidate - s.lastValue
          let minimumDelta :=
            if s.callCount = 1 ∨ delta < s.minimumDelta then delta else s.minimumDelta
          let maximumDelta := if delta > s.maximumDelta then delta else s.maximumDelta
          accept { s with minimumDelta, maximumDelta }
      else accept { s with firstValue := candidate, minimumDelta := 0, maximumDelta := 0 }

/-- One value after the other, with the raw values that were accepted and what became of them. -/
def recordAll (s : PerfState) : (raws : List Nat) → List (Nat × Nat) × PerfState
  | [] => ([], s)
  | raw :: rest =>
    let (result, s) := recordCounter s raw
    let (accepted, last) := recordAll s rest
    match result with
    | .ok normalized => ((raw, normalized) :: accepted, last)
    | _ => (accepted, last)

/-! ## What they are for -/

/-- The register shows the low bits of the count. -/
def Shows (mask count hardware : Nat) : Prop := hardware &&& mask = count &&& mask

instance (mask count hardware : Nat) : Decidable (Shows mask count hardware) :=
  inferInstanceAs (Decidable (_ = _))

/-- The count goes on from read to read, by half of the mask at most. -/
def Paced (mask : Nat) (counts : List Nat) : Prop :=
  counts.IsChain fun before after => before ≤ after ∧ after - before ≤ mask >>> 1

/-- The reads of a count by one timer, each with what the register showed. -/
structure Session where
  port : Nat
  wide : Bool
  first : Nat
  hardware : Nat
  reads : List (Nat × Nat)
  first_shows : Shows (initializePmTimer port wide hardware).1.mask first hardware
  reads_show : ∀ r ∈ reads, Shows (initializePmTimer port wide hardware).1.mask r.1 r.2
  paced : Paced (initializePmTimer port wide hardware).1.mask (first :: reads.map Prod.fst)

def Session.timer (x : Session) : PmTimer := (initializePmTimer x.port x.wide x.hardware).1

def Session.initial (x : Session) : Nat := (initializePmTimer x.port x.wide x.hardware).2

/-- What has been counted when the count is `count`, offset by the initial reading. -/
def Session.counted (x : Session) (count : Nat) : Nat := x.initial + (count - x.first)

def Session.answers (x : Session) : List (Option Nat) :=
  (readAll x.timer (x.reads.map Prod.snd)).1

/-- The timer after the reads. -/
def Session.after (x : Session) : PmTimer := (readAll x.timer (x.reads.map Prod.snd)).2

/-- The steps between neighbours of a list. -/
def gaps (values : List Nat) : List Nat :=
  values.zipWith (fun before after => after - before) values.tail

end Gate4Harness.PlatformPerformance
