-- The virtual arena of memory_accounting.c: a range of addresses with a table of
-- reservations and a table of commitments. Numbers are the 64-bit values of the C
-- code, and each sum that may overflow is checked as there. An operation that
-- fails gives its status and leaves the arena as it was.
import Mathlib.Algebra.GroupWithZero.Nat
import Mathlib.Logic.Function.Basic
import Mathlib.Tactic.Common

namespace Gate4Harness.Vm

/-! ## Limits and codes -/

abbrev maxReservations : Nat := 256
abbrev maxCommitments : Nat := 4096

scoped instance neZero_maxReservations : NeZero maxReservations := ⟨by decide⟩
scoped instance neZero_maxCommitments : NeZero maxCommitments := ⟨by decide⟩

def reservationGranularity : Nat := 0x10000
def pageSize : Nat := 0x1000
def uint64Max : Nat := 0xFFFFFFFFFFFFFFFF
def uint32Max : Nat := 0xFFFFFFFF

abbrev ReservationSlot := Fin maxReservations
abbrev CommitmentSlot := Fin maxCommitments

/-- `GXOS_VM_STATUS`, without the status for success. -/
inductive ArenaError
  | invalidArgument
  | outsideArena
  | overflow
  | overlap
  | capacity
  | notFound
  | commitOverlap
  | commitOutsideReservation
  | committedReservation
  | alignment
  | invalidState
  deriving DecidableEq, Repr

inductive ReservationState
  | free
  | reserved
  | committed
  deriving DecidableEq, Repr

/-! ## 64-bit arithmetic -/

/-- `none` when the sum does not fit into 64 bits. -/
def addU64 (left right : Nat) : Option Nat :=
  if left > uint64Max - right then none else some (left + right)

def rangeEnd (base bytes : Nat) : Option Nat :=
  if bytes = 0 ∨ base > uint64Max - bytes then none else some (base + bytes)

def rangesOverlap (leftBase leftBytes rightBase rightBytes : Nat) : Bool :=
  match rangeEnd leftBase leftBytes, rangeEnd rightBase rightBytes with
  | some leftEnd, some rightEnd => decide (leftBase < rightEnd) && decide (rightBase < leftEnd)
  | _, _ => true

def rangeContains (outerBase outerBytes innerBase innerBytes : Nat) : Bool :=
  match rangeEnd outerBase outerBytes, rangeEnd innerBase innerBytes with
  | some outerEnd, some innerEnd => decide (innerBase ≥ outerBase) && decide (innerEnd ≤ outerEnd)
  | _, _ => false

def alignUpU64 (value alignment : Nat) : Option Nat :=
  if alignment = 0 then none
  else addU64 value (if value % alignment = 0 then 0 else alignment - value % alignment)

/-- The multiple of the page size at or below a value. -/
def pageDown (value : Nat) : Nat := value / pageSize * pageSize

/-- 0 stands for a value that cannot be rounded. -/
def pageRoundBytes (bytes : Nat) : Nat :=
  if bytes = 0 ∨ bytes > uint64Max - (pageSize - 1) then 0 else pageDown (bytes + pageSize - 1)

/-! ## The tables -/

structure Reservation where
  live : Bool := false
  base : Nat := 0
  bytes : Nat := 0
  requestedBytes : Nat := 0
  committedBytes : Nat := 0
  kind : Nat := 0
  state : ReservationState := .free
  owner : Nat := 0
  generation : Nat := 0
  deriving DecidableEq, Repr

structure Commitment where
  live : Bool := false
  reservationSlot : ReservationSlot := 0
  base : Nat := 0
  bytes : Nat := 0
  physicalBase : Nat := 0
  pageCount : Nat := 0
  state : ReservationState := .free
  generation : Nat := 0
  deriving DecidableEq, Repr

structure Arena where
  base : Nat := 0
  length : Nat := 0
  reservations : ReservationSlot → Reservation := fun _ => {}
  commitments : CommitmentSlot → Commitment := fun _ => {}
  reservationCount : Nat := 0
  commitmentCount : Nat := 0
  totalReservedBytes : Nat := 0
  totalCommittedBytes : Nat := 0
  generation : Nat := 0
  valid : Bool := false

def arenaInit (base length generation : Nat) : Arena :=
  { base, length, generation,
    valid := decide (generation ≠ 0) && decide (length ≠ 0) && decide (base ≤ uint64Max - length) }

def Arena.contains (a : Arena) (base bytes : Nat) : Bool :=
  a.valid && rangeContains a.base a.length base bytes

/-! ## Reservations -/

/-- The first live reservation that a range meets. -/
def overlappingReservation? (a : Arena) (base bytes : Nat) : Option ReservationSlot :=
  (List.finRange maxReservations).find? fun s => (a.reservations s).live &&
    rangesOverlap base bytes (a.reservations s).base (a.reservations s).bytes

def freeReservation? (a : Arena) : Option ReservationSlot :=
  (List.finRange maxReservations).find? fun s => !(a.reservations s).live

def reserve (a : Arena) (base bytes kind generation : Nat) :
    Except ArenaError (ReservationSlot × Arena) :=
  if ¬ a.valid ∨ generation = 0 ∨ bytes = 0 then .error .invalidArgument
  else if base > uint64Max - bytes then .error .overflow
  else if ¬ a.contains base bytes then .error .outsideArena
  else if (overlappingReservation? a base bytes).isSome then .error .overlap
  else if a.reservationCount ≥ maxReservations then .error .capacity
  else
    match addU64 a.totalReservedBytes bytes, freeReservation? a with
    | none, _ => .error .overflow
    | some _, none => .error .capacity
    | some newTotalReserved, some s =>
      .ok (s, { a with
        reservations := Function.update a.reservations s
          { live := true, base, bytes, requestedBytes := bytes, kind, state := .reserved,
            owner := 0, generation, committedBytes := 0 }
        reservationCount := a.reservationCount + 1
        totalReservedBytes := newTotalReserved })

def reserveFixed (a : Arena) (base requestedBytes kind owner generation : Nat) :
    Except ArenaError (ReservationSlot × Arena) :=
  if requestedBytes = 0 then .error .invalidArgument
  else if base % reservationGranularity ≠ 0 then .error .alignment
  else if pageRoundBytes requestedBytes = 0 then .error .overflow
  else
    match reserve a base (pageRoundBytes requestedBytes) kind generation with
    | .error e => .error e
    | .ok (s, a1) =>
      .ok (s, { a1 with
        reservations := Function.update a1.reservations s
          { a1.reservations s with requestedBytes, owner, state := .reserved } })

/-- One turn of the inner loop of `reserve_any`. The accumulator says if a reservation was
in the way, and where to try next. -/
def tryReservation (a : Arena) (candidate reservedBytes : Nat) (acc : Bool × Nat)
    (s : ReservationSlot) : Except ArenaError (Bool × Nat) :=
  let reservation := a.reservations s
  if ¬ reservation.live then .ok acc
  else
    match rangeEnd reservation.base reservation.bytes with
    | none => .error .invalidState
    | some reservationEnd =>
      if rangesOverlap candidate reservedBytes reservation.base reservation.bytes then
        if reservationEnd > acc.2 then
          match alignUpU64 reservationEnd reservationGranularity with
          | none => .error .overflow
          | some next => .ok (true, next)
        else .ok (true, acc.2)
      else .ok acc

/-- The loop of `reserve_any` from a candidate on. Each turn moves the candidate up, so as
many turns as there are addresses up to the end of the arena are enough. -/
def reserveFrom (a : Arena) (arenaEnd reservedBytes requestedBytes kind owner generation : Nat) :
    Nat → Nat → Except ArenaError (Nat × ReservationSlot × Arena)
  | 0, _ => .error .outsideArena
  | turns + 1, candidate =>
    if candidate ≤ arenaEnd ∧ reservedBytes ≤ arenaEnd - candidate then
      match (List.finRange maxReservations).foldlM (tryReservation a candidate reservedBytes)
          (false, candidate) with
      | .error e => .error e
      | .ok (false, _) =>
        match reserveFixed a candidate requestedBytes kind owner generation with
        | .error e => .error e
        | .ok (s, a1) => .ok (candidate, s, a1)
      | .ok (true, next) =>
        if next ≤ candidate then .error .overflow
        else reserveFrom a arenaEnd reservedBytes requestedBytes kind owner generation turns next
    else .error .outsideArena

/-- The base, the slot and the arena with the new reservation. -/
def reserveAny (a : Arena) (requestedBytes kind owner generation : Nat) :
    Except ArenaError (Nat × ReservationSlot × Arena) :=
  if requestedBytes = 0 ∨ ¬ a.valid ∨ generation = 0 then .error .invalidArgument
  else if pageRoundBytes requestedBytes = 0 then .error .overflow
  else
    match rangeEnd a.base a.length, alignUpU64 a.base reservationGranularity with
    | some arenaEnd, some candidate =>
      reserveFrom a arenaEnd (pageRoundBytes requestedBytes) requestedBytes kind owner generation
        (arenaEnd + 1 - candidate) candidate
    | _, _ => .error .overflow

def findReservation (a : Arena) (address : Nat) : Option ReservationSlot :=
  (List.finRange maxReservations).find? fun s => (a.reservations s).live &&
    decide (address ≥ (a.reservations s).base) &&
    decide (address - (a.reservations s).base < (a.reservations s).bytes)

def release (a : Arena) (slot : Nat) : Except ArenaError Arena :=
  if ¬ a.valid then .error .invalidArgument
  else if h : slot < maxReservations then
    let s : ReservationSlot := ⟨slot, h⟩
    if ¬ (a.reservations s).live then .error .notFound
    else if (a.reservations s).committedBytes ≠ 0 then .error .committedReservation
    else if a.reservationCount = 0 ∨ a.totalReservedBytes < (a.reservations s).bytes then
      .error .invalidArgument
    else
      .ok { a with
        totalReservedBytes := a.totalReservedBytes - (a.reservations s).bytes
        reservationCount := a.reservationCount - 1
        reservations := Function.update a.reservations s {} }
  else .error .invalidArgument

/-! ## Commitments -/

-- irreducible, so that no equation of a caller unrolls the search
@[irreducible] def findCommitment (a : Arena) (address : Nat) : Option CommitmentSlot :=
  (List.finRange maxCommitments).find? fun i => (a.commitments i).live &&
    decide (address ≥ (a.commitments i).base) &&
    decide (address - (a.commitments i).base < (a.commitments i).bytes)

/-- The first live reservation that a range lies in. -/
def coveringReservation? (a : Arena) (base bytes : Nat) : Option ReservationSlot :=
  (List.finRange maxReservations).find? fun s => (a.reservations s).live &&
    rangeContains (a.reservations s).base (a.reservations s).bytes base bytes

/-- The first live commitment that a range meets. -/
def overlappingCommitment? (a : Arena) (base bytes : Nat) : Option CommitmentSlot :=
  (List.finRange maxCommitments).find? fun i => (a.commitments i).live &&
    rangesOverlap base bytes (a.commitments i).base (a.commitments i).bytes

/-- The commitment of exactly one range. -/
def exactCommitment? (a : Arena) (base bytes : Nat) : Option CommitmentSlot :=
  (List.finRange maxCommitments).find? fun i => (a.commitments i).live &&
    decide ((a.commitments i).base = base) && decide ((a.commitments i).bytes = bytes)

/-- The commitment of exactly one page. -/
def pageCommitment? (a : Arena) (virtualPage : Nat) : Option CommitmentSlot :=
  (List.finRange maxCommitments).find? fun i => (a.commitments i).live &&
    decide ((a.commitments i).base = virtualPage) && decide ((a.commitments i).bytes = pageSize)

def freeCommitment? (a : Arena) : Option CommitmentSlot :=
  (List.finRange maxCommitments).find? fun i => !(a.commitments i).live

/-- The arena with one commitment more. -/
def addCommitment (a : Arena) (i : CommitmentSlot) (x : Commitment) : Arena :=
  let s := x.reservationSlot
  { a with
    commitments := Function.update a.commitments i x
    commitmentCount := a.commitmentCount + 1
    totalCommittedBytes := a.totalCommittedBytes + x.bytes
    reservations := Function.update a.reservations s
      { a.reservations s with
        committedBytes := (a.reservations s).committedBytes + x.bytes, state := .committed } }

/-- A commitment of a whole range, with no physical page behind it. -/
def commit (a : Arena) (base bytes generation : Nat) : Except ArenaError Arena :=
  if ¬ a.valid ∨ generation = 0 ∨ bytes = 0 then .error .invalidArgument
  else if base > uint64Max - bytes then .error .overflow
  else
    match coveringReservation? a base bytes with
    | none => .error .commitOutsideReservation
    | some s =>
      if (overlappingCommitment? a base bytes).isSome then .error .commitOverlap
      else if a.commitmentCount ≥ maxCommitments then .error .capacity
      else if (addU64 a.totalCommittedBytes bytes).isNone ∨
          (addU64 (a.reservations s).committedBytes bytes).isNone then .error .overflow
      else
        match freeCommitment? a with
        | none => .error .capacity
        | some i =>
          .ok (addCommitment a i
            { live := true, reservationSlot := s, base, bytes, physicalBase := 0
              pageCount := bytes / pageSize + (if bytes % pageSize ≠ 0 then 1 else 0)
              state := .committed, generation })

/-- The arena with one page more committed. -/
def withCommitment (a : Arena) (i : CommitmentSlot) (s : ReservationSlot)
    (virtualPage physicalPage generation : Nat) : Arena :=
  { a with
    commitments := Function.update a.commitments i
      { live := true, reservationSlot := s, base := virtualPage, bytes := pageSize,
        physicalBase := physicalPage, pageCount := 1, state := .committed, generation }
    commitmentCount := a.commitmentCount + 1
    totalCommittedBytes := a.totalCommittedBytes + pageSize
    reservations := Function.update a.reservations s
      { a.reservations s with
        committedBytes := (a.reservations s).committedBytes + pageSize, state := .committed } }

def commitPage (a : Arena) (virtualPage physicalPage generation : Nat) : Except ArenaError Arena :=
  if generation = 0 ∨ physicalPage = 0 then .error .invalidArgument
  else if virtualPage % pageSize ≠ 0 ∨ physicalPage % pageSize ≠ 0 then .error .alignment
  else
    match findReservation a virtualPage with
    | none => .error .commitOutsideReservation
    | some s =>
      if ¬ a.contains virtualPage pageSize ∨
          ¬ rangeContains (a.reservations s).base (a.reservations s).bytes virtualPage pageSize then
        .error .commitOutsideReservation
      else
        match pageCommitment? a virtualPage with
        | some i =>
          if (a.commitments i).physicalBase ≠ physicalPage then .error .commitOverlap else .ok a
        | none =>
          if a.commitmentCount ≥ maxCommitments then .error .capacity
          else if (addU64 a.totalCommittedBytes pageSize).isNone ∨
              (addU64 (a.reservations s).committedBytes pageSize).isNone then .error .overflow
          else
            match freeCommitment? a with
            | none => .error .capacity
            | some i => .ok (withCommitment a i s virtualPage physicalPage generation)

/-- The arena with the one page commitment `i` taken out. -/
def withoutCommitment (a : Arena) (i : CommitmentSlot) : Arena :=
  let s := (a.commitments i).reservationSlot
  let left := (a.reservations s).committedBytes - pageSize
  { a with
    commitmentCount := a.commitmentCount - 1
    totalCommittedBytes := a.totalCommittedBytes - pageSize
    reservations := Function.update a.reservations s
      { a.reservations s with
        committedBytes := left
        state := if left = 0 then .reserved else (a.reservations s).state }
    commitments := Function.update a.commitments i {} }

def decommitPage (a : Arena) (virtualPage : Nat) : Except ArenaError Arena :=
  if virtualPage % pageSize ≠ 0 then .error .invalidArgument
  else
    match pageCommitment? a virtualPage with
    | none => .error .notFound
    | some i =>
      let reservation := a.reservations (a.commitments i).reservationSlot
      if ¬ reservation.live ∨ a.commitmentCount = 0 ∨ a.totalCommittedBytes < pageSize ∨
          reservation.committedBytes < pageSize then .error .invalidState
      else .ok (withoutCommitment a i)

/-- The arena with the commitment `i` taken out. -/
def dropCommitment (a : Arena) (i : CommitmentSlot) : Arena :=
  let s := (a.commitments i).reservationSlot
  let left := (a.reservations s).committedBytes - (a.commitments i).bytes
  { a with
    commitmentCount := a.commitmentCount - 1
    totalCommittedBytes := a.totalCommittedBytes - (a.commitments i).bytes
    reservations := Function.update a.reservations s
      { a.reservations s with
        committedBytes := left
        state := if left = 0 then .reserved else (a.reservations s).state }
    commitments := Function.update a.commitments i {} }

def decommit (a : Arena) (base bytes : Nat) : Except ArenaError Arena :=
  if ¬ a.valid ∨ bytes = 0 then .error .invalidArgument
  else
    match exactCommitment? a base bytes with
    | none => .error .notFound
    | some i =>
      if a.commitmentCount = 0 ∨ a.totalCommittedBytes < bytes ∨
          (a.reservations (a.commitments i).reservationSlot).committedBytes < bytes then
        .error .invalidArgument
      else .ok (dropCommitment a i)

/-! ## Validation -/

/-- The checks of one reservation by itself. -/
def reservationSound (a : Arena) (x : Reservation) : Bool :=
  a.contains x.base x.bytes && decide (x.generation ≠ 0) && decide (x.requestedBytes ≠ 0) &&
  decide (x.requestedBytes ≤ x.bytes) && decide (x.state ≠ .free) &&
  (decide (x.committedBytes ≠ 0) || decide (x.state = .reserved)) &&
  (decide (x.committedBytes = 0) || decide (x.state = .committed)) &&
  decide (x.committedBytes ≤ x.bytes)

/-- The counts of the loop over the reservations. -/
structure ReservationTally where
  reservations : Nat := 0
  reserved : Nat := 0

/-- One turn of the loop over the reservations: `none` is the early return. -/
def scanReservation (a : Arena) (acc : Option ReservationTally) (s : ReservationSlot) :
    Option ReservationTally :=
  match acc with
  | none => none
  | some t =>
    let x := a.reservations s
    if ¬ x.live then some t
    else if ¬ reservationSound a x then none
    else
      match addU64 t.reserved x.bytes with
      | none => none
      | some reserved =>
        if (List.finRange maxReservations).any (fun r =>
            decide (s < r) && (a.reservations r).live &&
            rangesOverlap x.base x.bytes (a.reservations r).base (a.reservations r).bytes) then
          none
        else some { reservations := t.reservations + 1, reserved }

/-- The checks of one commitment by itself. -/
def commitmentSound (a : Arena) (x : Commitment) : Bool :=
  (a.reservations x.reservationSlot).live && decide (x.generation ≠ 0) &&
  decide (x.state = .committed) && (decide (x.physicalBase = 0) || decide (x.pageCount ≠ 0)) &&
  rangeContains (a.reservations x.reservationSlot).base (a.reservations x.reservationSlot).bytes
    x.base x.bytes

/-- The counts of the loop over the commitments. -/
structure CommitmentTally where
  commitments : Nat := 0
  committed : Nat := 0
  reservationCommitted : ReservationSlot → Nat := fun _ => 0

/-- One turn of the loop over the commitments. -/
def scanCommitment (a : Arena) (acc : Option CommitmentTally) (i : CommitmentSlot) :
    Option CommitmentTally :=
  match acc with
  | none => none
  | some t =>
    let x := a.commitments i
    if ¬ x.live then some t
    else if ¬ commitmentSound a x then none
    else
      match addU64 t.committed x.bytes,
          addU64 (t.reservationCommitted x.reservationSlot) x.bytes with
      | some committed, some inReservation =>
        if (List.finRange maxCommitments).any (fun j => decide (i < j) && (a.commitments j).live &&
            rangesOverlap x.base x.bytes (a.commitments j).base (a.commitments j).bytes) then none
        else
          some
            { commitments := t.commitments + 1, committed
              reservationCommitted :=
                Function.update t.reservationCommitted x.reservationSlot inReservation }
      | _, _ => none

/-- `gxos_vm_arena_validate` -/
def validate (a : Arena) : Bool :=
  if ¬ a.valid ∨ a.length = 0 ∨ a.base > uint64Max - a.length ∨ a.generation = 0 then false
  else
    match (List.finRange maxReservations).foldl (scanReservation a) (some {}),
        (List.finRange maxCommitments).foldl (scanCommitment a) (some {}) with
    | some r, some c =>
      (List.finRange maxReservations).all (fun s => !(a.reservations s).live ||
        decide (c.reservationCommitted s = (a.reservations s).committedBytes)) &&
      decide (r.reservations = a.reservationCount) && decide (c.commitments = a.commitmentCount) &&
      decide (r.reserved = a.totalReservedBytes) && decide (c.committed = a.totalCommittedBytes)
    | _, _ => false

end Gate4Harness.Vm
