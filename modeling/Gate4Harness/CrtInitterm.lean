-- The initializers of the C runtime (crt_initterm_e.c and crt_initterm.c). Each function goes
-- through a table of function pointers in the image and calls those that are not null. The
-- first stops at the first callback that fails. The loader makes both contexts from the image.
import Gate4Harness.PeImage

namespace Gate4Harness.CrtInitterm

open PeImage (Image MemoryRegion ExecutableRegion uintptrMax)

/-! ## The program -/

/-- What the functions see of the program: the words of its memory, and what a callback does.
A callback may change anything, the table included. -/
structure Program (σ : Type*) where
  word : σ → Nat → Nat
  call : Nat → σ → Int × σ

/-- The calls of the trace function. -/
inductive Event
  | entry (index target : Nat)
  | callbackBegin (index target : Nat)
  | callbackResult (index target : Nat) (result : Int)
  | validationFailure (index target : Nat) (reason : Int)
  deriving DecidableEq

/-- A trace function, when one is given, and `trace_truncated` of the report. -/
structure Trace where
  given : Bool
  events : List Event := []
  truncated : Bool := false

/-- `gxos_crt_initterm_e_trace` and `gxos_crt_initterm_trace`, with their limits. -/
def Trace.add (limit : Nat) (t : Trace) (event : Event) : Trace :=
  if ¬ t.given then t
  else if t.events.length ≥ limit then { t with truncated := true }
  else { t with events := t.events ++ [event] }

def isCanonical (value : Nat) : Bool :=
  decide (value ≤ 0x00007FFFFFFFFFFF) || decide (value ≥ 0xFFFF800000000000)

def isRange (base stop : Nat) : Bool :=
  isCanonical base && isCanonical stop && decide (base < stop)

def contains (base stop value : Nat) : Bool := decide (value ≥ base) && decide (value < stop)

def validationFailure : Int := -1

/-- The reason that a failed check of the table of `gxos_crt_initterm_e` gives: the failure
value again, in an unsigned field. -/
def tableReasonE : Nat := 0xFFFFFFFF

def asInt32 (value : Nat) : Int :=
  if value < 0x80000000 then value else (value : Int) - 0x100000000

def maxEntries : Nat := 4096
def noCallback : Nat := 0xFFFFFFFFFFFFFFFF

/-! ## The table of initializers that can fail -/

def maxTraceEntriesE : Nat := 64

structure ContextE where
  imageBase : Nat
  imageEnd : Nat
  tableBase : Nat
  tableEnd : Nat
  relocationsApplied : Bool
  executableRegions : List ExecutableRegion

/-- `gxos_crt_initterm_e_configure`. Without a context no table is accepted. -/
def configureE (context : ContextE) : Option ContextE :=
  if ¬ context.relocationsApplied ∨ ¬ isRange context.imageBase context.imageEnd ∨
      ¬ isRange context.tableBase context.tableEnd ∨ context.tableBase < context.imageBase ∨
      context.tableEnd > context.imageEnd ∨ context.executableRegions.length = 0 ∨
      context.executableRegions.length > PeImage.maxExecutableRegions then none
  else if context.executableRegions.all fun region =>
      !(!isRange region.base region.stop || decide (region.base < context.imageBase) ||
        decide (region.stop > context.imageEnd)) then some context
  else none

def isExecutableE (context : ContextE) (target : Nat) : Bool :=
  if target = 0 ∨ ¬ isCanonical target then false
  else context.executableRegions.any fun region => contains region.base region.stop target

structure ReportE where
  entryCount : Nat := 0
  nullEntryCount : Nat := 0
  nonnullEntryCount : Nat := 0
  invokedCount : Nat := 0
  failureCount : Nat := 0
  validationFailure : Nat := 0
  result : Int := 0
  deriving DecidableEq

/-- The value of the function with all that it leaves behind. -/
structure OutcomeE (σ : Type*) where
  result : Int
  report : ReportE
  trace : Trace
  state : σ

variable {σ : Type*}

def failE (s : σ) (report : ReportE) (t : Trace) (reason index target : Nat) :
    OutcomeE σ :=
  { result := validationFailure
    report := { report with validationFailure := reason, result := validationFailure }
    trace := t.add maxTraceEntriesE (.validationFailure index target (asInt32 reason))
    state := s }

/-- The loop, with `count` entries to go. -/
def loopE (program : Program σ) (context : ContextE) (first : Nat) :
    (count index : Nat) → σ → ReportE → Trace → OutcomeE σ
  | 0, _, s, report, t => ⟨0, { report with result := 0 }, t, s⟩
  | count + 1, index, s, report, t =>
    if index > uintptrMax / 8 then failE s report t 4 index 0
    else if index * 8 > uintptrMax - first then failE s report t 4 index 0
    else
      let target := program.word s (first + index * 8)
      let t := t.add maxTraceEntriesE (.entry index target)
      if target = 0 then
        loopE program context first count (index + 1) s
          { report with nullEntryCount := report.nullEntryCount + 1 } t
      else
        let report := { report with nonnullEntryCount := report.nonnullEntryCount + 1 }
        if ¬ isExecutableE context target then failE s report t 5 index target
        else
          let t := t.add maxTraceEntriesE (.callbackBegin index target)
          let called := program.call target s
          let report := { report with
            invokedCount := report.invokedCount + 1, result := called.1 }
          let t := t.add maxTraceEntriesE (.callbackResult index target called.1)
          if called.1 ≠ 0 then
            ⟨called.1, { report with failureCount := report.failureCount + 1 }, t, called.2⟩
          else loopE program context first count (index + 1) called.2 report t

/-- The checks of the table before the first entry is read. -/
def tableGoodE (context : ContextE) (first last : Nat) : Bool :=
  isCanonical first && isCanonical last && decide (first &&& 7 = 0) &&
  decide (last &&& 7 = 0) && decide (first ≤ last) && decide (context.tableBase ≤ first) &&
  decide (last ≤ context.tableEnd)

/-- `gxos_crt_initterm_e` -/
def inittermE (program : Program σ) (context : Option ContextE) (first last : Nat)
    (traceGiven : Bool) (s : σ) : OutcomeE σ :=
  let t : Trace := { given := traceGiven }
  match context with
  | none => failE s {} t tableReasonE 0 0
  | some context =>
    if ¬ tableGoodE context first last then failE s {} t tableReasonE 0 0
    else if (last - first) &&& 7 ≠ 0 then failE s {} t 2 0 0
    else if (last - first) / 8 > maxEntries then failE s {} t 3 0 0
    else
      loopE program context first ((last - first) / 8) 0 s
        { entryCount := (last - first) / 8 } t

/-! ## The table of initializers without a result -/

def maxTraceEntries : Nat := 128

structure Context where
  imageBase : Nat
  imageEnd : Nat
  relocationsApplied : Bool
  memoryRegions : List MemoryRegion

/-- `gxos_crt_initterm_configure` -/
def configure (context : Context) : Option Context :=
  if ¬ context.relocationsApplied ∨ ¬ isRange context.imageBase context.imageEnd ∨
      context.memoryRegions.length = 0 ∨
      context.memoryRegions.length > PeImage.maxMemoryRegions then none
  else if context.memoryRegions.all fun region =>
      !(!isRange region.base region.stop || decide (region.base < context.imageBase) ||
        decide (region.stop > context.imageEnd) || !region.readable ||
        (region.executable && !region.readable)) then some context
  else none

def tableIsReadable (context : Context) (first last : Nat) : Bool :=
  if first = last then
    context.memoryRegions.any fun region =>
      region.readable && decide (first ≥ region.base) && decide (first ≤ region.stop)
  else
    context.memoryRegions.any fun region =>
      region.readable && decide (first ≥ region.base) && decide (last ≤ region.stop) &&
      decide (first ≤ last)

def targetIsExecutable (context : Context) (target : Nat) : Bool :=
  if target = 0 ∨ ¬ isCanonical target then false
  else
    context.memoryRegions.any fun region =>
      region.executable && contains region.base region.stop target

structure Report where
  entryCount : Nat := 0
  nullEntryCount : Nat := 0
  nonnullEntryCount : Nat := 0
  invokedCount : Nat := 0
  returnedCount : Nat := 0
  currentCallbackIndex : Nat := noCallback
  currentCallbackTarget : Nat := 0
  validationFailure : Nat := 0
  completed : Nat := 0
  status : Int := 0
  deriving DecidableEq

structure Outcome (σ : Type*) where
  result : Int
  report : Report
  trace : Trace
  state : σ

def failTable (s : σ) (report : Report) (t : Trace) (reason index target : Nat) :
    Outcome σ :=
  { result := validationFailure
    report := { report with validationFailure := reason, status := validationFailure }
    trace := t.add maxTraceEntries (.validationFailure index target (asInt32 reason))
    state := s }

/-- The loop. A callback has no result, so the trace has 0 in its place. -/
def loop (program : Program σ) (context : Context) (first last : Nat) :
    (count index : Nat) → σ → Report → Trace → Outcome σ
  | 0, _, s, report, t =>
    ⟨0, { report with
      currentCallbackIndex := noCallback, currentCallbackTarget := 0, completed := 1,
      status := 0 }, t, s⟩
  | count + 1, index, s, report, t =>
    if index > uintptrMax / 8 then failTable s report t 4 index 0
    else if index * 8 > uintptrMax - first ∨ first + index * 8 ≥ last then
      failTable s report t 4 index 0
    else
      let target := program.word s (first + index * 8)
      let t := t.add maxTraceEntries (.entry index target)
      if target = 0 then
        loop program context first last count (index + 1) s
          { report with nullEntryCount := report.nullEntryCount + 1 } t
      else
        let report := { report with nonnullEntryCount := report.nonnullEntryCount + 1 }
        if ¬ targetIsExecutable context target then failTable s report t 5 index target
        else
          let report := { report with
            currentCallbackIndex := index
            currentCallbackTarget := target
            invokedCount := report.invokedCount + 1 }
          let t := t.add maxTraceEntries (.callbackBegin index target)
          let s := (program.call target s).2
          let t := t.add maxTraceEntries (.callbackResult index target 0)
          loop program context first last count (index + 1) s
            { report with returnedCount := report.returnedCount + 1 } t

def tableGood (context : Context) (first last : Nat) : Bool :=
  isCanonical first && isCanonical last && decide (first &&& 7 = 0) &&
  decide (last &&& 7 = 0) && decide (first ≤ last) && decide (context.imageBase ≤ first) &&
  decide (last ≤ context.imageEnd) && tableIsReadable context first last

/-- `gxos_crt_initterm` -/
def initterm (program : Program σ) (context : Option Context) (first last : Nat)
    (traceGiven : Bool) (s : σ) : Outcome σ :=
  let t : Trace := { given := traceGiven }
  match context with
  | none => failTable s {} t 1 0 0
  | some context =>
    if ¬ tableGood context first last then failTable s {} t 1 0 0
    else if (last - first) &&& 7 ≠ 0 then failTable s {} t 2 0 0
    else if (last - first) / 8 > maxEntries then failTable s {} t 3 0 0
    else
      loop program context first last ((last - first) / 8) 0 s
        { entryCount := (last - first) / 8 } t

/-! ## The contexts of the loader -/

def contextOfE (image : Image) : ContextE :=
  { imageBase := image.actualBase, imageEnd := image.actualBase + image.loadedSize
    tableBase := image.actualBase, tableEnd := image.actualBase + image.loadedSize
    relocationsApplied := true, executableRegions := image.executableRegions }

def contextOf (image : Image) : Context :=
  { imageBase := image.actualBase, imageEnd := image.actualBase + image.loadedSize
    relocationsApplied := image.relocationsApplied, memoryRegions := image.memoryRegions }

end Gate4Harness.CrtInitterm
