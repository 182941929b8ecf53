-- What GetLogicalProcessorInformation leaves in memory. The records of an accepted snapshot
-- name each processor once for each kind of relationship, and they reach the buffer whole,
-- unless the length that is written last lies in the buffer too.
import Gate4Harness.ProcessorTopology

namespace Gate4Harness.ProcessorTopology

open ByteMemory
open OutputRanges (MemoryContext isCanonical rangeEnd rangeIsAccessible validateMemoryContext)

variable {s : Snapshot} {activeMask : Mask}

/-! ## Partitions -/

/-- Each processor that is not yet covered is in exactly one of the masks that follow. -/
theorem partitionFrom_spec {masks : List Mask} {covered : Mask}
    (h : partitionFrom activeMask masks covered = true) (processor : Nat) :
    masks.countP (·.getLsbD processor) + (covered.getLsbD processor).toNat =
      (activeMask.getLsbD processor).toNat := by
  induction masks generalizing covered with
  | nil =>
    rw [partitionFrom, decide_eq_true_eq] at h
    rw [h, List.countP_nil, Nat.zero_add]
  | cons mask rest ih =>
    rw [partitionFrom] at h
    split at h
    · cases h
    · rename_i hgood
      rw [not_or, Decidable.not_not, Decidable.not_not] at hgood
      have hrest := ih h
      have hdisjoint := congrArg (·.getLsbD processor) hgood.2
      simp only [BitVec.getLsbD_and, BitVec.ofNat_eq_ofNat, BitVec.getLsbD_zero] at hdisjoint
      rw [BitVec.getLsbD_or] at hrest
      rw [List.countP_cons, ← hrest]
      cases hmask : mask.getLsbD processor with
      | false => simp
      | true =>
        have huncovered : covered.getLsbD processor = false := by
          simpa only [hmask, Bool.and_true] using hdisjoint
        simp [huncovered]

theorem validatePartitionMasks_spec {masks : List Mask}
    (h : validatePartitionMasks masks activeMask = true) {processor : Nat}
    (hactive : activeMask.getLsbD processor = true) :
    masks.countP (·.getLsbD processor) = 1 := by
  unfold validatePartitionMasks at h
  split at h
  · cases h
  · have hcount := partitionFrom_spec h processor
    simpa [hactive] using hcount

/-- What the check of a snapshot makes sure of. -/
structure Accepted (s : Snapshot) : Prop where
  cores : validatePartitionMasks (s.cores.map (·.processorMask)) s.activeProcessorMask = true
  numaNodes :
    validatePartitionMasks (s.numaNodes.map (·.processorMask)) s.activeProcessorMask = true
  packages :
    validatePartitionMasks (s.packages.map (·.processorMask)) s.activeProcessorMask = true
  few : s.cores.length ≤ maxRelationships ∧ s.numaNodes.length ≤ maxRelationships ∧
    s.packages.length ≤ maxRelationships ∧ s.caches.length ≤ maxRelationships

theorem validateRelationships_accepted (h : validateRelationships s = .ok) : Accepted s := by
  unfold validateRelationships at h
  split at h
  · cases h
  rename_i hcounts
  split at h
  · cases h
  rename_i hcores
  split at h
  · cases h
  split at h
  · cases h
  rename_i hnodes
  split at h
  · cases h
  rename_i hpackages
  simp only [not_or, Nat.not_lt, gt_iff_lt] at hcounts
  rw [Decidable.not_not] at hcores hnodes hpackages
  exact ⟨hcores, hnodes, hpackages, hcounts.2.1, hcounts.2.2.2.1, hcounts.2.2.2.2.2.1,
    hcounts.2.2.2.2.2.2⟩

theorem scanProcessors_error {numbers : List (BitVec 8)} {seen : Mask} {status : Status}
    (h : scanProcessors activeMask numbers seen = .error status) : status ≠ .ok := by
  induction numbers generalizing seen with
  | nil => cases h
  | cons logical rest ih =>
    rw [scanProcessors] at h
    split at h
    · cases h
      decide
    dsimp only at h
    split at h
    · cases h
      decide
    split at h
    · cases h
      decide
    · exact ih h

theorem validate_accepted (h : validate s = .ok) : Accepted s := by
  unfold validate at h
  split at h
  · cases h
  split at h
  · cases h
  split at h
  · cases h
  split at h
  · cases h
  cases hscan : scanProcessors s.activeProcessorMask s.logicalProcessorNumbers 0 with
  | error status =>
    rw [hscan] at h
    exact absurd h (scanProcessors_error hscan)
  | ok seen =>
    rw [hscan] at h
    dsimp only at h
    split at h
    · cases h
    · exact validateRelationships_accepted h

/-- The snapshot of one processor is accepted. -/
theorem validate_singleCpu {generation : Nat} (h : generation ≠ 0) :
    validate (singleCpu generation) = .ok := by
  have hpopulation : population 1 = 1 := by
    rw [population, dif_neg (by decide), population, dif_pos (by decide)]
  have hmask : ¬ ((singleCpu generation).activeProcessorMask = 0 ∨
      population (singleCpu generation).activeProcessorMask ≠
        (singleCpu generation).logicalProcessorNumbers.length) := by
    rintro (hzero | hcount)
    · exact absurd hzero (show ¬ (1 : Mask) = 0 by decide)
    · exact hcount hpopulation
  have hscan : scanProcessors (singleCpu generation).activeProcessorMask
      (singleCpu generation).logicalProcessorNumbers 0 = .ok 1 := by
    change scanProcessors 1 [0] 0 = .ok 1
    rfl
  have hseen : ¬ (1 ≠ (singleCpu generation).activeProcessorMask) := not_not_intro rfl
  have hgeneration : ¬ (singleCpu generation).generation = 0 := h
  unfold validate
  rw [if_neg (by simp [singleCpu]), if_neg hgeneration,
    if_neg (by simp [singleCpu, maxLogicalProcessors]), if_neg hmask, hscan]
  dsimp only
  rw [if_neg hseen]
  have hpartition : validatePartitionMasks [1] 1 = true := by decide
  unfold validateRelationships
  simp only [singleCpu, List.map_cons, List.map_nil, hpartition]
  simp [nodeNumbersDiffer, maxRelationships]

/-! ## The records of a snapshot -/

def Snapshot.records (s : Snapshot) : List LogicalProcessorInformation :=
  s.cores.map (·.record) ++ s.numaNodes.map (·.record) ++ s.packages.map (·.record) ++
    s.caches.map (·.record)

/-- The bytes that the records take. -/
def Snapshot.required (s : Snapshot) : Nat := s.records.length * recordSize

/-- In how many records of a relationship a processor is. -/
def occurrences (records : List LogicalProcessorInformation) (relationship : BitVec 32)
    (processor : Nat) : Nat :=
  records.countP fun x =>
    decide (x.relationship = relationship) && x.processorMask.getLsbD processor

theorem length_records (s : Snapshot) : s.records.length =
    s.cores.length + s.numaNodes.length + s.packages.length + s.caches.length := by
  simp only [Snapshot.records, List.length_append, List.length_map]

theorem records_le (h : Accepted s) : s.records.length ≤ maxRecords := by
  obtain ⟨hcores, hnodes, hpackages, hcaches⟩ := h.few
  rw [length_records]
  simp only [maxRelationships] at hcores hnodes hpackages hcaches
  simp only [maxRecords]
  omega

theorem recordCount_eq (h : validate s = .ok) : recordCount s = .ok s.records.length := by
  have hfew := records_le (validate_accepted h)
  rw [length_records] at hfew ⊢
  have hfits : ¬ s.cores.length + s.numaNodes.length + s.packages.length + s.caches.length >
      Vm.uint32Max := by
    simp only [maxRecords] at hfew
    simp only [Vm.uint32Max]
    omega
  unfold recordCount
  rw [if_neg (not_not_intro h)]
  dsimp only
  rw [if_neg hfits]

theorem buildRecords_eq (h : validate s = .ok) : buildRecords s maxRecords = .ok s.records := by
  unfold buildRecords
  rw [recordCount_eq h]
  dsimp only
  rw [if_neg (Nat.not_lt.mpr (records_le (validate_accepted h)))]
  rfl

theorem required_le (h : Accepted s) : s.required ≤ 0x2000 := by
  have hfew := records_le h
  simp only [maxRecords] at hfew
  simp only [Snapshot.required, recordSize]
  omega

theorem requiredSize_eq (h : Accepted s) : requiredSize s.records.length = some s.required := by
  have hfew := records_le h
  unfold requiredSize
  rw [if_neg]
  · rfl
  · simp only [maxRecords] at hfew
    simp only [Vm.uint64Max, recordSize]
    omega

/-- The records of a relationship are those of one of the four lists. -/
theorem occurrences_records (s : Snapshot) (processor : Nat) :
    occurrences s.records relationProcessorCore processor =
      (s.cores.map (·.processorMask)).countP (·.getLsbD processor) ∧
    occurrences s.records relationNumaNode processor =
      (s.numaNodes.map (·.processorMask)).countP (·.getLsbD processor) ∧
    occurrences s.records relationProcessorPackage processor =
      (s.packages.map (·.processorMask)).countP (·.getLsbD processor) := by
  have hnever : ∀ {α : Type} (l : List α), l.countP (fun _ => false) = 0 := by
    intro α l
    exact List.countP_eq_zero.mpr fun _ _ => Bool.false_ne_true
  refine ⟨?_, ?_, ?_⟩ <;>
    simp [occurrences, Snapshot.records, List.countP_append, List.countP_map, Function.comp_def,
      CoreRelationship.record, NumaRelationship.record, PackageRelationship.record,
      CacheRelationship.record, relationProcessorCore, relationNumaNode,
      relationProcessorPackage, relationCache, hnever]

theorem each_processor_once (h : Accepted s) (processor : Nat)
    (hactive : s.activeProcessorMask.getLsbD processor = true) :
    occurrences s.records relationProcessorCore processor = 1 ∧
    occurrences s.records relationNumaNode processor = 1 ∧
    occurrences s.records relationProcessorPackage processor = 1 := by
  obtain ⟨hcores, hnodes, hpackages⟩ := occurrences_records s processor
  rw [hcores, hnodes, hpackages]
  exact ⟨validatePartitionMasks_spec h.cores hactive,
    validatePartitionMasks_spec h.numaNodes hactive,
    validatePartitionMasks_spec h.packages hactive⟩

/-! ## The bytes of the records -/

theorem length_bytesOf (count : Nat) {w : Nat} (value : BitVec w) :
    (bytesOf count value).length = count := by
  simp [bytesOf]

theorem length_bytes (x : LogicalProcessorInformation) : x.bytes.length = recordSize := by
  have hinfo : x.relationshipInfo.bytes.length = 16 := by
    cases x.relationshipInfo <;>
      simp only [RelationshipInfo.bytes, List.length_append, length_bytesOf]
  simp only [LogicalProcessorInformation.bytes, List.length_append, length_bytesOf, hinfo,
    recordSize]

/-- The records as they stand in memory. -/
def Snapshot.bytes (s : Snapshot) : List (BitVec 8) := s.records.flatMap (·.bytes)

theorem length_bytes_records (s : Snapshot) : s.bytes.length = s.required := by
  unfold Snapshot.bytes Snapshot.required
  induction s.records with
  | nil => rfl
  | cons x rest ih =>
    rw [List.flatMap_cons, List.length_append, length_bytes, ih, List.length_cons, Nat.succ_mul,
      Nat.add_comm]

theorem take_bytes (s : Snapshot) : (s.records.flatMap (·.bytes)).take s.required = s.bytes :=
  List.take_of_length_le (Nat.le_of_eq (length_bytes_records s))

theorem copyBytes_outside {m : Memory} {a p : Addr} {bytes : List (BitVec 8)}
    (hfits : bytes.length ≤ 2 ^ 64) (h : bytes.length ≤ (p - a).toNat) :
    copyBytes m a bytes p = m p := by
  induction bytes generalizing m a with
  | nil => rfl
  | cons byte rest ih =>
    rw [List.length_cons] at hfits h
    have hne : p ≠ a := by
      rintro rfl
      rw [BitVec.sub_self] at h
      cases h
    have hnext : (p - (a + 1)).toNat = (p - a).toNat - 1 := by
      have hone : 1#64 ≤ p - a := by
        rw [BitVec.le_def, BitVec.toNat_ofNat]
        omega
      rw [← BitVec.sub_sub]
      exact BitVec.toNat_sub_of_le hone
    rw [copyBytes, ih (by omega) (by omega), Function.update_of_ne hne]

/-- Each byte is at its place after the copy. -/
theorem copyBytes_inside {m : Memory} {a : Addr} {bytes : List (BitVec 8)}
    (hfits : bytes.length ≤ 2 ^ 64) (k : Nat) (h : k < bytes.length) :
    copyBytes m a bytes (up a k) = bytes[k] := by
  induction bytes generalizing m a k with
  | nil => cases h
  | cons byte rest ih =>
    rw [List.length_cons] at hfits h
    rw [copyBytes]
    cases k with
    | zero =>
      rw [up_zero, copyBytes_outside (by omega), Function.update_self]
      · rfl
      · have hminus : (a - (a + 1)).toNat = 2 ^ 64 - 1 := by
          rw [← BitVec.sub_sub, BitVec.sub_self]
          rfl
        omega
    | succ k =>
      have hstep : up a (k + 1) = up (a + 1) k := by
        rw [Nat.add_comm k 1, ← up_up]
        rfl
      rw [hstep, ih (by omega) k (by omega)]
      rfl

/-! ## The two ranges of a call -/

variable {buffer returnedLength : Addr} {context : Option MemoryContext} {memory : MemoryContext}
  {m : Memory}

/-- The word of the length can be read and written. -/
def LengthAccepted (context : Option MemoryContext) (returnedLength : Addr) : Prop :=
  ∃ memory, context = some memory ∧ validateMemoryContext memory = true ∧
    (validateReturnedLength returnedLength memory none).1 = .ok

/-- A buffer of so many bytes can be written. -/
def BufferAccepted (context : Option MemoryContext) (buffer : Addr) (required : Nat) : Prop :=
  buffer ≠ 0 ∧ ∃ memory, context = some memory ∧ isCanonical buffer.toNat = true ∧
    (rangeEnd buffer.toNat required).isSome = true ∧
    rangeIsAccessible memory buffer.toNat required false true = true

/-- Whether there is a report makes no difference to what is accepted. -/
theorem validateReturnedLength_ok (returnedLength : Addr) (memory : MemoryContext)
    (report : Option Report) :
    ((validateReturnedLength returnedLength memory report).1 = .ok ↔
      (validateReturnedLength returnedLength memory none).1 = .ok) ∧
    (validateReturnedLength returnedLength memory report).1 ≠ .insufficientBuffer := by
  unfold validateReturnedLength
  dsimp only
  split
  · exact ⟨Iff.rfl, nofun⟩
  split
  · exact ⟨Iff.rfl, nofun⟩
  split
  · exact ⟨Iff.rfl, nofun⟩
  split
  · exact ⟨Iff.rfl, nofun⟩
  split
  · cases report with
    | none => exact ⟨Iff.rfl, nofun⟩
    | some r =>
      simp only [Option.map_some, Option.map_none]
      split
      · exact ⟨Iff.rfl, nofun⟩
      · exact ⟨iff_of_false nofun nofun, nofun⟩
  · exact ⟨Iff.rfl, nofun⟩

/-- How a call with an accepted snapshot ends. -/
inductive Ends (s : Snapshot) (context : Option MemoryContext) (buffer returnedLength : Addr)
    (m : Memory) : Answer → Prop
  | refused {answer : Answer} (memory : answer.memory = m) (failed : answer.status ≠ .ok)
      (other : answer.status ≠ .insufficientBuffer)
      (why : ¬ (LengthAccepted context returnedLength ∧ BufferAccepted context buffer s.required ∧
        s.required ≤ (read m returnedLength 32).toNat)) :
      Ends s context buffer returnedLength m answer
  | tooShort {answer : Answer} (length : LengthAccepted context returnedLength)
      (status : answer.status = .insufficientBuffer)
      (memory : answer.memory = write m returnedLength (BitVec.ofNat 32 s.required))
      (why : buffer = 0 ∨ (read m returnedLength 32).toNat < s.required) :
      Ends s context buffer returnedLength m answer
  | filled {answer : Answer} (length : LengthAccepted context returnedLength)
      (room : BufferAccepted context buffer s.required)
      (enough : s.required ≤ (read m returnedLength 32).toNat) (status : answer.status = .ok)
      (memory : answer.memory =
        write (copyBytes m buffer s.bytes) returnedLength (BitVec.ofNat 32 s.required)) :
      Ends s context buffer returnedLength m answer

theorem Ends.failure {report : Option Report} {status : Status} (hok : status ≠ .ok)
    (hother : status ≠ .insufficientBuffer)
    (hwhy : ¬ (LengthAccepted context returnedLength ∧ BufferAccepted context buffer s.required ∧
      s.required ≤ (read m returnedLength 32).toNat)) :
    Ends s context buffer returnedLength m (failure m report status) :=
  .refused rfl hok hother hwhy

theorem fillBuffer_ends (h : validate s = .ok) (hcontext : context = some memory)
    (hlength : LengthAccepted context returnedLength) (hbuffer : buffer ≠ 0)
    (henough : s.required ≤ (read m returnedLength 32).toNat) (report : Option Report) :
    Ends s context buffer returnedLength m
      (fillBuffer buffer returnedLength s memory s.required m report) := by
  have hroom : BufferAccepted context buffer s.required ↔ isCanonical buffer.toNat = true ∧
      (rangeEnd buffer.toNat s.required).isSome = true ∧
      rangeIsAccessible memory buffer.toNat s.required false true = true := by
    constructor
    · rintro ⟨-, memory', hcontext', hroom⟩
      obtain rfl : memory = memory' := Option.some.inj (hcontext.symm.trans hcontext')
      exact hroom
    · exact fun hroom => ⟨hbuffer, memory, hcontext, hroom⟩
  have hword : (validateReturnedLength returnedLength memory none).1 = .ok := by
    obtain ⟨memory', hcontext', -, hword⟩ := hlength
    obtain rfl : memory = memory' := Option.some.inj (hcontext.symm.trans hcontext')
    exact hword
  unfold fillBuffer
  rw [buildRecords_eq h]
  dsimp only
  split
  · rename_i hbad
    exact .failure (by decide) (by decide) fun hall => hbad (hroom.mp hall.2.1).1
  split
  · rename_i hbad
    refine .failure (by decide) (by decide) fun hall => ?_
    rw [Option.isNone_iff_eq_none] at hbad
    have hsome := (hroom.mp hall.2.1).2.1
    rw [hbad] at hsome
    cases hsome
  split
  · rename_i hbad
    exact .failure (by decide) (by decide) fun hall => hbad (hroom.mp hall.2.1).2.2
  split
  · rename_i hbad
    exact absurd hword hbad
  · rename_i hcanonical hend haccess _
    rw [Decidable.not_not] at hcanonical haccess
    rw [Option.isNone_iff_eq_none, ← Option.not_isSome_iff_eq_none, Decidable.not_not] at hend
    refine .filled hlength (hroom.mpr ⟨hcanonical, hend, haccess⟩) henough rfl ?_
    rw [take_bytes]

theorem answerLength_ends (h : validate s = .ok) (hcontext : context = some memory)
    (hlength : LengthAccepted context returnedLength) (report : Option Report) :
    Ends s context buffer returnedLength m
      (answerLength buffer returnedLength s memory m report) := by
  have hsmall := required_le (validate_accepted h)
  have hfits : ¬ s.required > Vm.uint32Max := by
    simp only [Vm.uint32Max]
    omega
  unfold answerLength
  dsimp only
  rw [recordCount_eq h]
  dsimp only
  rw [requiredSize_eq (validate_accepted h)]
  dsimp only
  rw [if_neg hfits]
  split
  · rename_i hshort
    exact .tooShort hlength rfl rfl hshort
  · rename_i hlong
    rw [not_or, Nat.not_lt] at hlong
    exact fillBuffer_ends h hcontext hlength hlong.1 hlong.2 _

theorem call_ends (h : validate s = .ok) (context : Option MemoryContext)
    (buffer returnedLength : Addr) (reported : Bool) (m : Memory) :
    Ends s context buffer returnedLength m
      (getLogicalProcessorInformation buffer returnedLength (some s) context reported m) := by
  unfold getLogicalProcessorInformation
  dsimp only
  rw [if_neg (not_not_intro h)]
  cases context with
  | none =>
    refine .failure (by decide) (by decide) fun hall => ?_
    obtain ⟨⟨memory, hmemory, -⟩, -⟩ := hall
    cases hmemory
  | some memory =>
    dsimp only
    split
    · rename_i hbad
      refine .failure (by decide) (by decide) fun hall => ?_
      obtain ⟨⟨memory', hmemory, hgood, -⟩, -⟩ := hall
      obtain rfl : memory = memory' := Option.some.inj hmemory
      exact hbad hgood
    · rename_i hgood
      rw [Decidable.not_not] at hgood
      generalize (if reported = true then some { buffer, returnedLength : Report } else none) =
        report
      obtain ⟨hiff, hother⟩ := validateReturnedLength_ok returnedLength memory report
      cases hword : validateReturnedLength returnedLength memory report with
      | mk status report' =>
        rw [hword] at hiff hother
        dsimp only at hiff hother ⊢
        split
        · rename_i hbad
          refine .failure hbad hother fun hall => ?_
          obtain ⟨⟨memory', hmemory, -, hok⟩, -⟩ := hall
          obtain rfl : memory = memory' := Option.some.inj hmemory
          exact hbad (hiff.mpr hok)
        · rename_i hok
          rw [Decidable.not_not] at hok
          exact answerLength_ends h rfl ⟨memory, rfl, hgood, hiff.mp hok⟩ _

/-! ## The two calls -/

/-- What the call leaves where it succeeds: the length, the records, and no other change. -/
def LeavesRecords (s : Snapshot) (buffer returnedLength : Addr) (m m' : Memory) : Prop :=
  read m' returnedLength 32 = BitVec.ofNat 32 s.required ∧
  (∀ k, (h : k < s.bytes.length) → m' (up buffer k) = s.bytes[k]) ∧
  ∀ p, s.required ≤ (p - buffer).toNat → 4 ≤ (p - returnedLength).toNat → m' p = m p

/-- What the call leaves where the buffer is too small: the length, and no other change. With
this length and a buffer that is accepted, the next call succeeds. -/
def AsksForMore (s : Snapshot) (context : Option MemoryContext) (returnedLength : Addr)
    (m m' : Memory) : Prop :=
  read m' returnedLength 32 = BitVec.ofNat 32 s.required ∧
  Within m m' returnedLength 4 ∧
  ∀ (retry : Memory) (room : Addr) (reported : Bool),
    read retry returnedLength 32 = BitVec.ofNat 32 s.required →
    BufferAccepted context room s.required →
    (getLogicalProcessorInformation room returnedLength (some s) context reported retry).status =
      .ok

/-- The protocol of the two calls, for one call. -/
def TwoCallsWork (s : Snapshot) (context : Option MemoryContext) (buffer returnedLength : Addr)
    (reported : Bool) (m : Memory) : Prop :=
  let answer := getLogicalProcessorInformation buffer returnedLength (some s) context reported m
  buildRecords s maxRecords = .ok s.records ∧
  (∀ processor, s.activeProcessorMask.getLsbD processor = true →
    occurrences s.records relationProcessorCore processor = 1 ∧
    occurrences s.records relationNumaNode processor = 1 ∧
    occurrences s.records relationProcessorPackage processor = 1) ∧
  (answer.status = .ok → LeavesRecords s buffer returnedLength m answer.memory) ∧
  (answer.status = .insufficientBuffer →
    AsksForMore s context returnedLength m answer.memory) ∧
  (answer.status ≠ .ok → answer.status ≠ .insufficientBuffer → answer.memory = m)

/-- Where the length lies in the records, it has the same bytes. -/
def LengthClear (s : Snapshot) (buffer returnedLength : Addr) : Prop :=
  ∀ k, (h : k < s.bytes.length) → ∀ j < 4, up buffer k = up returnedLength j →
    s.bytes[k] = (BitVec.ofNat 32 s.required).extractLsb' (8 * j) 8

theorem retry_succeeds (h : validate s = .ok) (hlength : LengthAccepted context returnedLength)
    (hread : read m returnedLength 32 = BitVec.ofNat 32 s.required)
    (hroom : BufferAccepted context buffer s.required) (reported : Bool) :
    (getLogicalProcessorInformation buffer returnedLength (some s) context reported m).status =
      .ok := by
  have hsmall := required_le (validate_accepted h)
  have hword : (read m returnedLength 32).toNat = s.required := by
    rw [hread, BitVec.toNat_ofNat]
    exact Nat.mod_eq_of_lt (by omega)
  cases call_ends h context buffer returnedLength reported m with
  | refused _ _ _ why => exact absurd ⟨hlength, hroom, Nat.le_of_eq hword.symm⟩ why
  | tooShort _ _ _ why =>
    rcases why with hnull | hshort
    · exact absurd hnull hroom.1
    · exact absurd hword (Nat.ne_of_lt hshort)
  | filled _ _ _ status _ => exact status

/-- The bytes that the copy has left are there to the end, if the length leaves them. -/
theorem leavesRecords_iff (h : Accepted s) (buffer returnedLength : Addr) (m : Memory) :
    LeavesRecords s buffer returnedLength m
        (write (copyBytes m buffer s.bytes) returnedLength (BitVec.ofNat 32 s.required)) ↔
      LengthClear s buffer returnedLength := by
  have hsmall := required_le h
  have hbytes := length_bytes_records s
  constructor
  · rintro ⟨-, hrecords, -⟩ k hk j hj heq
    rw [← hrecords k hk, heq, write, distance_up returnedLength (by omega), if_pos (by omega)]
  · intro hclear
    refine ⟨read_write_same _ _ _ (by decide) (by decide), fun k hk => ?_, fun p hp hp' => ?_⟩
    · rw [write]
      split
      · rename_i hin
        exact (hclear k hk _ hin (up_distance returnedLength (up buffer k)).symm).symm
      · exact copyBytes_inside (by omega) k hk
    · rw [write, if_neg (by omega)]
      exact copyBytes_outside (by omega) (by omega)

/-- The protocol works unless the length overwrites a byte of the records with another. -/
theorem two_calls_work_iff (h : validate s = .ok) (context : Option MemoryContext)
    (buffer returnedLength : Addr) (reported : Bool) (m : Memory) :
    TwoCallsWork s context buffer returnedLength reported m ↔
      (LengthAccepted context returnedLength → BufferAccepted context buffer s.required →
        s.required ≤ (read m returnedLength 32).toNat → LengthClear s buffer returnedLength) := by
  have haccepted := validate_accepted h
  have hbuild := buildRecords_eq h
  have honce := each_processor_once haccepted
  unfold TwoCallsWork
  cases call_ends h context buffer returnedLength reported m with
  | refused memory failed other why =>
    refine iff_of_true ⟨hbuild, honce, fun hok => absurd hok failed,
      fun hless => absurd hless other, fun _ _ => memory⟩ fun hlength hroom henough => ?_
    exact absurd ⟨hlength, hroom, henough⟩ why
  | tooShort length status memory why =>
    have hasks : AsksForMore s context returnedLength m
        (write m returnedLength (BitVec.ofNat 32 s.required)) :=
      ⟨read_write_same _ _ _ (by decide) (by decide),
        within_write_self _ _ _ (by decide) (by decide),
        fun retry room reported hread hroom => retry_succeeds h length hread hroom reported⟩
    dsimp only
    rw [status, memory]
    refine iff_of_true ⟨hbuild, honce, nofun, fun _ => hasks, fun _ hother => absurd rfl hother⟩
      fun _ hroom henough => ?_
    rcases why with hnull | hshort
    · exact absurd hnull hroom.1
    · exact absurd henough (Nat.not_le.mpr hshort)
  | filled length room enough status memory =>
    dsimp only
    rw [status, memory]
    constructor
    · rintro ⟨-, -, hfilled, -⟩ - - -
      exact (leavesRecords_iff haccepted buffer returnedLength m).mp (hfilled rfl)
    · intro hclear
      exact ⟨hbuild, honce, fun _ => (leavesRecords_iff haccepted buffer returnedLength m).mpr
        (hclear length room enough), nofun, fun hfailed => absurd rfl hfailed⟩

/-! ## A length in the buffer -/

def sampleContext : MemoryContext := { regions := [⟨0x10000, 0x11000, true, true⟩] }

/-- The caller gives room for three records. -/
def sampleMemory (returnedLength : Addr) : Memory := write (fun _ => 0) returnedLength (0x60#32)

theorem sampleContext_accepts {returnedLength : Addr}
    (h : (validateReturnedLength returnedLength sampleContext none).1 = .ok) :
    LengthAccepted (some sampleContext) returnedLength ∧
    BufferAccepted (some sampleContext) 0x10000 (singleCpu 1).required ∧
    (singleCpu 1).required ≤ (read (sampleMemory returnedLength) returnedLength 32).toNat := by
  have hrequired : (singleCpu 1).required = 0x60 := rfl
  refine ⟨⟨sampleContext, rfl, by decide, h⟩,
    ⟨by decide, sampleContext, rfl, by decide, by decide, by decide⟩, ?_⟩
  unfold sampleMemory
  rw [read_write_same _ _ _ (by decide) (by decide), hrequired]
  decide

/-- The word of the length is where the first record goes. -/
theorem length_overwrites_the_first_record :
    validate (singleCpu 1) = .ok ∧
    (getLogicalProcessorInformation 0x10000 0x10000 (some (singleCpu 1)) (some sampleContext) true
      (sampleMemory 0x10000)).status = .ok ∧
    (getLogicalProcessorInformation 0x10000 0x10000 (some (singleCpu 1)) (some sampleContext) true
      (sampleMemory 0x10000)).memory 0x10000 = 0x60 ∧
    (singleCpu 1).bytes[0]? = some 1 ∧
    ¬ TwoCallsWork (singleCpu 1) (some sampleContext) 0x10000 0x10000 true
      (sampleMemory 0x10000) := by
  have hvalid : validate (singleCpu 1) = .ok := validate_singleCpu Nat.one_ne_zero
  have haccepts := sampleContext_accepts (show (validateReturnedLength 0x10000 sampleContext
    none).1 = .ok by decide)
  have hfirst : (singleCpu 1).bytes[0]? = some 1 := rfl
  have hends := call_ends hvalid (some sampleContext) 0x10000 0x10000 true (sampleMemory 0x10000)
  have hfilled : ∀ answer, Ends (singleCpu 1) (some sampleContext) 0x10000 0x10000
      (sampleMemory 0x10000) answer → answer.status = .ok ∧ answer.memory 0x10000 = 0x60 := by
    intro answer hends
    cases hends with
    | refused _ _ _ why => exact absurd haccepts why
    | tooShort _ _ _ why =>
      rcases why with hnull | hshort
      · exact absurd hnull (by decide)
      · exact absurd haccepts.2.2 (Nat.not_le.mpr hshort)
    | filled _ _ _ status memory =>
      refine ⟨status, ?_⟩
      rw [memory, write, if_pos (by decide)]
      rfl
  obtain ⟨hstatus, hbyte⟩ := hfilled _ hends
  refine ⟨hvalid, hstatus, hbyte, hfirst, fun hwork => ?_⟩
  have hrecord := (hwork.2.2.1 hstatus).2.1 0 (by decide)
  rw [up_zero, hbyte] at hrecord
  exact absurd hrecord (by decide)

/-- The word of the length lies behind the records. -/
theorem two_calls_work_behind_the_records :
    TwoCallsWork (singleCpu 1) (some sampleContext) 0x10000 0x10100 true
      (sampleMemory 0x10100) := by
  refine (two_calls_work_iff (validate_singleCpu Nat.one_ne_zero) _ _ _ _ _).mpr fun _ _ _ => ?_
  intro k hk j hj heq
  have hlength : (singleCpu 1).bytes.length = 0x60 := length_bytes_records _
  have hstep : (0x10100 : Addr) = up 0x10000 0x100 := rfl
  rw [hstep, up_up, up_inj _ (by omega) (by omega)] at heq
  omega

end Gate4Harness.ProcessorTopology
