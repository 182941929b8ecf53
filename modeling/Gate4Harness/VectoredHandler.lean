-- The registry of vectored handlers (vectored_handler.c): the images that may hold a
-- callback, the check and the insertion of a handler, and the dispatch of an exception. A
-- dispatch is cut at each call of a callback, so what a callback does is the steps up to its
-- return. A null registry, diagnostics or report only skips work and is left out.
import Gate4Harness.Runs
import Mathlib.Algebra.GroupWithZero.Nat
import Mathlib.Logic.Function.Basic

namespace Gate4Harness.VectoredHandler

def registryCapacity : Nat := 8
def maxImages : Nat := 2
def maxImageSections : Nat := 32
def sectionReadable : Nat := 0x40000000
def sectionExecutable : Nat := 0x20000000
def sectionWritable : Nat := 0x80000000
def uintptrMax : Nat := 0xFFFFFFFFFFFFFFFF
def uint64Max : Nat := 0xFFFFFFFFFFFFFFFF
def uint32Max : Nat := 0xFFFFFFFF
def exceptionContinueSearch : Int := 0
def exceptionContinueExecution : Int := -1
/-- `sizeof` of a record and of the whole registry. -/
def recordBytes : Nat := 112
def registryBytes : Nat := 984

inductive Validation
  | ok
  | nullCallback
  | noncanonicalCallback
  | noImage
  | badImage
  | imageOverflow
  | outsideImage
  | badSection
  | notExecutable
  | notReadable
  | writableSection
  | registryActive
  | registryFull
  | sequenceExhausted
  | badRegistry
  deriving DecidableEq, Repr

/-- A section name, which is copied as it is. -/
abbrev SectionName := Vector UInt8 9

structure Section where
  base : Nat
  limit : Nat
  characteristics : Nat
  name : SectionName

structure Image where
  identity : Nat
  imageBase : Nat
  imageSize : Nat
  sectionCount : Nat
  sections : Nat → Section

structure Record where
  occupied : Nat
  slot : Nat
  requestedFirst : Nat
  callbackSectionIndex : Nat
  callbackSectionExecutable : Nat
  callbackAddress : Nat
  callback : Nat
  registrationSequence : Nat
  opaqueHandle : Nat
  callbackImage : Nat
  callbackImageBase : Nat
  callbackRva : Nat
  callbackSectionName : SectionName
  invocationCount : Nat
  lastReturnValue : Int

/-- Where a registry lies: an object is not at the null address and does not wrap around. -/
structure Place where
  address : Nat
  nonnull : address ≠ 0
  fits : address + registryBytes ≤ uintptrMax

structure Registry where
  place : Place
  records : Nat → Record
  order : Nat → Nat
  images : Nat → Nat
  imageCount : Nat
  liveCount : Nat
  dispatchActive : Nat
  nextRegistrationSequence : Nat
  registrationAttemptCount : Nat
  allocationCount : Nat

structure Diagnostics where
  validation : Validation
  image : Nat
  sectionIndex : Nat
  sectionExecutable : Nat
  sectionReadable : Nat
  sectionWritable : Nat
  callbackAddress : Nat
  imageBase : Nat
  callbackRva : Nat
  sectionName : SectionName

structure Report where
  snapshotCount : Nat
  snapshotSlots : Nat → Nat
  invokedCount : Nat
  invokedSlots : Nat → Nat
  invocationNumbers : Nat → Nat
  returnValues : Nat → Int
  invalidReturnCount : Nat
  stoppedOnContinueExecution : Nat
  finalContinueSearch : Nat
  finalContinueExecution : Nat
  finalSlot : Nat

/-! ## The check of a callback -/

def exceptionIsCanonical (address : Nat) : Bool :=
  decide (address ≤ 0x00007FFFFFFFFFFF) || decide (address ≥ 0xFFFF800000000000)

/-- `gxos_veh_image_bounds`: the end of an image, or what is wrong with it. -/
def imageBounds (pointer : Nat) (image : Image) : Except Validation Nat :=
  if pointer = 0 ∨ image.identity = 0 ∨ image.imageBase = 0 ∨ image.imageSize = 0 ∨
      image.imageSize > uintptrMax ∨ image.sectionCount = 0 ∨
      image.sectionCount > maxImageSections then .error .badImage
  else if image.imageBase > uintptrMax - image.imageSize then .error .imageOverflow
  else
    let imageEnd := image.imageBase + image.imageSize
    if imageEnd ≤ image.imageBase ∨ ¬ exceptionIsCanonical image.imageBase ∨
        ¬ exceptionIsCanonical (imageEnd - 1) then .error .badImage
    else .ok imageEnd

def sectionBad (image : Image) (imageEnd : Nat) (s : Section) : Bool :=
  decide (s.base = 0) || decide (s.base ≥ s.limit) || decide (s.base < image.imageBase) ||
  decide (s.limit > imageEnd) || !exceptionIsCanonical s.base ||
  !exceptionIsCanonical (s.limit - 1)

/-- The flag of a section as the C comparison gives it. -/
def sectionHas (s : Section) (flag : Nat) : Nat := if s.characteristics &&& flag ≠ 0 then 1 else 0

/-- The loop over the images in `gxos_veh_find_callback`, from the images that are left. -/
def findCallbackIn (r : Registry) (imageAt : Nat → Image) (callback : Nat) :
    List Nat → Diagnostics → Validation × Diagnostics
  | [], d => (.noImage, d)
  | imageIndex :: rest, d =>
    let pointer := r.images imageIndex
    let image := imageAt pointer
    match imageBounds pointer image with
    | .error result => (result, d)
    | .ok imageEnd =>
      if (List.range image.sectionCount).any fun i => sectionBad image imageEnd (image.sections i)
      then (.badSection, d)
      else if callback < image.imageBase ∨ callback ≥ imageEnd then
        findCallbackIn r imageAt callback rest d
      else
        let d := { d with
          image := pointer
          imageBase := image.imageBase
          callbackRva := callback - image.imageBase }
        match (List.range image.sectionCount).find? fun i =>
            decide ((image.sections i).base ≤ callback) &&
            decide (callback < (image.sections i).limit) with
        | none => (.outsideImage, d)
        | some i =>
          let s := image.sections i
          let d := { d with
            sectionIndex := i
            sectionExecutable := sectionHas s VectoredHandler.sectionExecutable
            sectionReadable := sectionHas s VectoredHandler.sectionReadable
            sectionWritable := sectionHas s VectoredHandler.sectionWritable
            sectionName := s.name }
          if d.sectionExecutable = 0 then (.notExecutable, d)
          else if d.sectionReadable = 0 then (.notReadable, d)
          else if d.sectionWritable ≠ 0 then (.writableSection, d)
          else (.ok, d)

/-- The diagnostics as `gxos_veh_find_callback` clears them. -/
def clearedDiagnostics (callback : Nat) : Diagnostics where
  validation := .badImage
  image := 0
  sectionIndex := uint32Max
  sectionExecutable := 0
  sectionReadable := 0
  sectionWritable := 0
  callbackAddress := callback
  imageBase := 0
  callbackRva := 0
  sectionName := Vector.replicate 9 0

def findCallback (r : Registry) (imageAt : Nat → Image) (callback : Nat) :
    Validation × Diagnostics :=
  let d := clearedDiagnostics callback
  if callback = 0 then (.nullCallback, d)
  else if ¬ exceptionIsCanonical callback then (.noncanonicalCallback, d)
  else if r.imageCount > maxImages then (.badRegistry, d)
  else findCallbackIn r imageAt callback (List.range r.imageCount) d

/-! ## The registry -/

/-- `gxos_veh_registry_init`, on memory of any content. -/
def registryInit (memory : Registry) : Registry :=
  { memory with
    records := fun i =>
      if i < registryCapacity then { memory.records i with occupied := 0, slot := i }
      else memory.records i
    order := fun i => if i < registryCapacity then 0 else memory.order i
    images := fun i => if i < maxImages then 0 else memory.images i
    imageCount := 0
    liveCount := 0
    dispatchActive := 0
    nextRegistrationSequence := 1
    registrationAttemptCount := 0
    allocationCount := 0 }

/-- `gxos_veh_registry_configure_images`; the array of image pointers may be null. -/
def configureImages (r : Registry) (images : Option (Nat → Nat)) (imageCount : Nat) :
    Nat × Registry :=
  if imageCount > maxImages ∨ (imageCount ≠ 0 ∧ images = none) ∨ r.liveCount ≠ 0 ∨
      r.dispatchActive ≠ 0 then (0, r)
  else
    let pointers := images.getD fun _ => 0
    if (List.range imageCount).any fun i => decide (pointers i = 0) then (0, r)
    else
      (1, { r with
        images := fun i =>
          if i < maxImages then (if i < imageCount then pointers i else 0) else r.images i
        imageCount := imageCount })

/-- What `gxos_veh_registry_valid` asks of the record `i`. -/
def recordValid (r : Registry) (i : Nat) : Bool :=
  decide ((r.records i).slot = i) &&
  (decide ((r.records i).occupied = 0) ||
    (decide ((r.records i).opaqueHandle ≠ 0) && decide ((r.records i).registrationSequence ≠ 0) &&
      decide ((r.records i).registrationSequence < r.nextRegistrationSequence) &&
      (List.range' (i + 1) (registryCapacity - (i + 1))).all fun j =>
        decide ((r.records j).occupied = 0) ||
        (decide ((r.records j).opaqueHandle ≠ (r.records i).opaqueHandle) &&
          decide ((r.records j).registrationSequence ≠ (r.records i).registrationSequence))))

/-- What it asks of the position `i` of the order. -/
def positionValid (r : Registry) (i : Nat) : Bool :=
  decide (r.order i < registryCapacity) && decide ((r.records (r.order i)).occupied ≠ 0) &&
  decide ((r.records (r.order i)).opaqueHandle ≠ 0) &&
  (List.range' (i + 1) (r.liveCount - (i + 1))).all fun j => decide (r.order j ≠ r.order i)

def occupiedCount (r : Registry) : Nat :=
  (List.range registryCapacity).countP fun i => decide ((r.records i).occupied ≠ 0)

/-- `gxos_veh_registry_valid`. -/
def registryValid (r : Registry) : Nat :=
  if r.liveCount > registryCapacity ∨ r.imageCount > maxImages ∨
      r.nextRegistrationSequence = 0 then 0
  else if ¬ (List.range registryCapacity).all (recordValid r) then 0
  else if occupiedCount r ≠ r.liveCount then 0
  else if ¬ (List.range r.liveCount).all (positionValid r) then 0
  else if (List.range' r.liveCount (registryCapacity - r.liveCount)).any fun i =>
      decide (r.order i ≥ registryCapacity) then 0
  else 1

def recordAddress (r : Registry) (slot : Nat) : Nat := r.place.address + slot * recordBytes

/-- The loop that moves the positions from `position` on up by one. -/
def shiftOrder (order : Nat → Nat) (position : Nat) : Nat → Nat → Nat
  | 0 => order
  | i + 1 =>
    if i + 1 > position then shiftOrder (Function.update order (i + 1) (order i)) position i
    else order

/-- The record that `gxos_veh_registry_add` fills. -/
def filledRecord (r : Registry) (slot first callback : Nat) (d : Diagnostics) : Record where
  occupied := 1
  slot := slot
  requestedFirst := first
  callback := callback
  callbackAddress := callback
  registrationSequence := r.nextRegistrationSequence
  opaqueHandle := recordAddress r slot
  callbackImage := d.image
  callbackImageBase := d.imageBase
  callbackRva := d.callbackRva
  callbackSectionIndex := d.sectionIndex
  callbackSectionExecutable := d.sectionExecutable
  callbackSectionName := d.sectionName
  invocationCount := 0
  lastReturnValue := 0

/-- `gxos_veh_registry_add`: the handle or 0, and the diagnostics. The images are read as they
are in memory at the call. -/
def registryAdd (r : Registry) (first callback : Nat) (d : Diagnostics) (imageAt : Nat → Image) :
    Nat × Diagnostics × Registry :=
  let r := { r with registrationAttemptCount := (r.registrationAttemptCount + 1) % 2 ^ 64 }
  if registryValid r = 0 then (0, { d with validation := .badRegistry }, r)
  else if r.dispatchActive ≠ 0 then (0, { d with validation := .registryActive }, r)
  else
    let (validation, d) := findCallback r imageAt callback
    if validation ≠ .ok then (0, { d with validation := validation }, r)
    else if r.liveCount = registryCapacity then (0, { d with validation := .registryFull }, r)
    else if r.nextRegistrationSequence = uint64Max then
      (0, { d with validation := .sequenceExhausted }, r)
    else
      match (List.range registryCapacity).find? fun i => decide ((r.records i).occupied = 0) with
      | none => (0, { d with validation := .registryFull }, r)
      | some freeSlot =>
        let insertionPosition := if first = 0 then r.liveCount else 0
        let order := shiftOrder r.order insertionPosition r.liveCount
        (recordAddress r freeSlot, { d with validation := .ok },
          { r with
            records := Function.update r.records freeSlot (filledRecord r freeSlot first callback d)
            order := Function.update order insertionPosition freeSlot
            nextRegistrationSequence := r.nextRegistrationSequence + 1
            liveCount := r.liveCount + 1 })

/-! ## The dispatch -/

/-- A dispatch that waits for a callback: its snapshot, the position it is at, the slot whose
callback runs and the report so far. -/
structure Frame where
  snapshot : Nat → Nat
  index : Nat
  slot : Nat
  report : Report

/-- The registry and the dispatches that run, the last one first. -/
structure State where
  registry : Registry
  frames : List Frame

def clearedReport (report : Report) : Report :=
  { report with
    snapshotCount := 0
    invokedCount := 0
    invalidReturnCount := 0
    stoppedOnContinueExecution := 0
    finalContinueSearch := 0
    finalContinueExecution := 0
    finalSlot := uint32Max }

/-- What comes out of a step: a function returns, or a callback is called. -/
inductive Output
  | configured (result : Nat)
  | added (handle : Nat) (diagnostics : Diagnostics)
  | called (slot callback : Nat)
  | dispatched (result : Nat) (report : Report)
  | nothing

/-- The head of the dispatch loop: the next handler is called, or the loop is over. -/
def dispatchNext (s : State) (snapshot : Nat → Nat) (i : Nat) (report : Report) : State × Output :=
  if i ≠ s.registry.liveCount then
    let slot := snapshot i
    let record := s.registry.records slot
    let record := { record with invocationCount := (record.invocationCount + 1) % 2 ^ 64 }
    ({ registry := { s.registry with records := Function.update s.registry.records slot record }
       frames := ⟨snapshot, i, slot, report⟩ :: s.frames },
      .called slot record.callback)
  else
    ({ s with registry := { s.registry with dispatchActive := 0 } },
      .dispatched 1 { report with finalContinueSearch := 1 })

/-- `gxos_veh_dispatch` up to its first call. The snapshot is on the stack, and holds anything
where it is not written. -/
def dispatch (s : State) (pointersNull : Bool) (stack : Nat → Nat) (report : Report) :
    State × Output :=
  let report := clearedReport report
  let r := s.registry
  if pointersNull ∨ registryValid r = 0 ∨ r.dispatchActive ≠ 0 then (s, .dispatched 0 report)
  else
    let snapshot := fun i => if i < r.liveCount then r.order i else stack i
    let report := { report with
      snapshotSlots := fun i => if i < r.liveCount then snapshot i else report.snapshotSlots i
      snapshotCount := r.liveCount }
    dispatchNext { s with registry := { r with dispatchActive := 1 } } snapshot 0 report

/-- `gxos_veh_dispatch` after a callback returned, up to the next call. -/
def callbackReturned (s : State) (frame : Frame) (result : Int) : State × Output :=
  let record := { s.registry.records frame.slot with lastReturnValue := result }
  let r := { s.registry with records := Function.update s.registry.records frame.slot record }
  let invoked := frame.report.invokedCount
  let report := { frame.report with
    invokedSlots := Function.update frame.report.invokedSlots invoked frame.slot
    invocationNumbers :=
      Function.update frame.report.invocationNumbers invoked record.invocationCount
    returnValues := Function.update frame.report.returnValues invoked result
    invokedCount := invoked + 1 }
  if result = exceptionContinueExecution then
    ({ s with registry := { r with dispatchActive := 0 } },
      .dispatched 1 { report with
        stoppedOnContinueExecution := 1, finalContinueExecution := 1, finalSlot := frame.slot })
  else
    let report :=
      if result ≠ exceptionContinueSearch then
        { report with invalidReturnCount := report.invalidReturnCount + 1 }
      else report
    dispatchNext { s with registry := r } frame.snapshot (frame.index + 1) report

/-- What the program does with the registry. While a dispatch runs, these are the steps of the
callback that it called. -/
inductive Event
  | configureImages (images : Option (Nat → Nat)) (imageCount : Nat)
  | add (first callback : Nat) (diagnostics : Diagnostics) (imageAt : Nat → Image)
  | dispatch (pointersNull : Bool) (stack : Nat → Nat) (report : Report)
  | callbackReturns (result : Int)

def react (s : State) : Event → State × Output
  | .configureImages images imageCount =>
    let (result, r) := configureImages s.registry images imageCount
    ({ s with registry := r }, .configured result)
  | .add first callback diagnostics imageAt =>
    let (handle, diagnostics, r) := registryAdd s.registry first callback diagnostics imageAt
    ({ s with registry := r }, .added handle diagnostics)
  | .dispatch pointersNull stack report => dispatch s pointersNull stack report
  | .callbackReturns result =>
    match s.frames with
    | [] => (s, .nothing)
    | frame :: frames => callbackReturned { s with frames } frame result

def step (s : State) (e : Event) : State := (react s e).1

/-- A registry that was just initialised, while nothing runs. -/
def Initial (s : State) : Prop := (∃ memory, s.registry = registryInit memory) ∧ s.frames = []

end Gate4Harness.VectoredHandler
