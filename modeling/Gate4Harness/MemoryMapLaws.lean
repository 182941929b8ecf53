-- What `gxos_uefi_memory_map_acquire` leaves behind. A block is carried from one turn of the
-- loop to the next, and each exit gives it back but one: when the firmware asks for more
-- than the largest map, the turn ends before the block of the turn before is freed.
import Gate4Harness.MemoryMap
import Mathlib.Tactic.IntervalCases

namespace Gate4Harness.Vm

variable {firmware : BootServices} {calls : BootCalls} {i : Nat}

/-! ## What is sound -/

/-- Each descriptor of the map is found, and lies in the block as a whole. -/
def DescriptorsInside (map : UefiMemoryMap) : Prop :=
  ∀ index < map.descriptorCount, ∃ pointer, mapDescriptor map index = some pointer ∧
    map.backing ≤ pointer ∧
    pointer + efiDescriptorBytes ≤ map.backing + map.backingBytes

/-- A map that is acquired: it is empty and has no block, or its block is the one that is
out. -/
structure MapHeld (map : UefiMemoryMap) (outstanding : List (Nat × Nat)) : Prop where
  valid : map.valid = true
  block : map.backing = 0 ∧ map.backingBytes = 0 ∧ map.descriptorCount = 0 ∧ outstanding = [] ∨
    map.backing ≠ 0 ∧ outstanding = [(map.backing, map.backingBytes)]
  whole : map.descriptorCount * map.descriptorSize = map.mapBytes
  fits : map.mapBytes ≤ map.backingBytes
  inside : DescriptorsInside map

/-- No block is lost, and nothing wrong is reported. -/
def Acquired.Sound (r : Acquired) : Prop :=
  match r.status with
  | none => MapHeld r.map r.calls.outstanding
  | some _ => r.calls.outstanding = [] ∧ r.map.valid = false

/-! ## The sizes -/

theorem multiplyU64_eq {left right : Nat} (h : left * right ≤ uint64Max) :
    multiplyU64 left right = some (left * right) := by
  unfold multiplyU64
  rw [if_neg]
  rintro ⟨hleft, hbig⟩
  have hle : right ≤ uint64Max / left := by
    rwa [Nat.le_div_iff_mul_le (Nat.pos_of_ne_zero hleft), Nat.mul_comm]
  omega

theorem multiplyU64_eq_some {left right product : Nat}
    (h : multiplyU64 left right = some product) :
    product = left * right ∧ product ≤ uint64Max := by
  unfold multiplyU64 at h
  split at h
  · cases h
  · rename_i hsmall
    cases h
    refine ⟨rfl, ?_⟩
    by_cases hleft : left = 0
    · rw [hleft, Nat.zero_mul]
      exact Nat.zero_le _
    · have hle : right ≤ uint64Max / left := Nat.le_of_not_lt fun hbig => hsmall ⟨hleft, hbig⟩
      rwa [Nat.le_div_iff_mul_le (Nat.pos_of_ne_zero hleft), Nat.mul_comm] at hle

theorem mapGrowthSize_le {mapBytes descriptorSize required : Nat}
    (h : mapGrowthSize mapBytes descriptorSize = some required) : required ≤ mapMaxBytes := by
  unfold mapGrowthSize at h
  split at h
  · cases h
  · split at h
    · cases h
    · split at h
      · cases h
      · split at h
        · cases h
        · cases h
          omega

/-- A map that is parsed consists of whole descriptors. -/
theorem mapParse_eq_some {buffer mapBytes descriptorSize count : Nat}
    (h : mapParse buffer mapBytes descriptorSize = some count) :
    efiDescriptorBytes ≤ descriptorSize ∧ descriptorSize ≤ mapMaxBytes ∧
    count * descriptorSize = mapBytes ∧ count ≤ mapMaxDescriptors := by
  unfold mapParse at h
  split at h
  · cases h
  · rename_i hsizes
    simp only [not_or, Nat.not_lt, gt_iff_lt] at hsizes
    split at h
    · rename_i hzero
      cases h
      exact ⟨hsizes.1, hsizes.2.1, by rw [hzero, Nat.zero_mul], Nat.zero_le _⟩
    · split at h
      · cases h
      · rename_i hmod
        simp only [not_or, Decidable.not_not] at hmod
        dsimp only at h
        split at h
        · cases h
        · rename_i hcount
          cases h
          refine ⟨hsizes.1, hsizes.2.1, Nat.div_mul_cancel (Nat.dvd_of_mod_eq_zero hmod.2), ?_⟩
          omega

/-- Whole descriptors are found where they stand. -/
theorem descriptor_found {map : UefiMemoryMap} (hvalid : map.valid = true)
    (hbacking : map.backing ≠ 0) (hsize : efiDescriptorBytes ≤ map.descriptorSize)
    (hwhole : map.descriptorCount * map.descriptorSize = map.mapBytes)
    (hfits : map.mapBytes ≤ map.backingBytes) (hbytes : map.mapBytes ≤ uint64Max) {index : Nat}
    (hindex : index < map.descriptorCount) :
    mapDescriptor map index = some (map.backing + index * map.descriptorSize) ∧
    index * map.descriptorSize + map.descriptorSize ≤ map.mapBytes := by
  have hend : index * map.descriptorSize + map.descriptorSize ≤ map.mapBytes := by
    rw [← hwhole, ← Nat.succ_mul]
    exact Nat.mul_le_mul_right _ hindex
  refine ⟨?_, hend⟩
  unfold mapDescriptor
  rw [if_neg (by simp [hvalid, hbacking, hindex]), multiplyU64_eq (by omega)]
  dsimp only
  rw [if_neg (by omega)]

/-! ## One turn -/

/-- The size that is asked for in a turn of the loop: the answer before it decides. -/
def BootServices.turnSize (firmware : BootServices) (i : Nat) : Option Nat :=
  mapGrowthSize (firmware.getMemoryMap i).mapBytes
    (descriptorSizeOr (firmware.getMemoryMap i).descriptorSize)

/-- The firmware does not answer the first query with a failure or an empty map. -/
def BootServices.EntersLoop (firmware : BootServices) : Prop :=
  ((firmware.getMemoryMap 0).status = efiBufferTooSmall ∨
    (firmware.getMemoryMap 0).status = efiSuccess) ∧ (firmware.getMemoryMap 0).mapBytes ≠ 0

/-- In a turn the firmware gives a block and then asks for a larger one. -/
def BootServices.AsksAgain (firmware : BootServices) (i : Nat) : Prop :=
  ∃ required, firmware.turnSize i = some required ∧
    (firmware.allocatePool i).status = efiSuccess ∧ (firmware.allocatePool i).buffer ≠ 0 ∧
    (firmware.getMemoryMap (i + 1)).status = efiBufferTooSmall ∧
    required < (firmware.getMemoryMap (i + 1)).mapBytes

/-- No turn that comes after another asks for a size that is refused. -/
def BootServices.GrowsInRange (firmware : BootServices) : Prop :=
  firmware.EntersLoop → ∀ j, 0 < j → j < mapMaxRetries → (∀ i < j, firmware.AsksAgain i) →
    (firmware.turnSize j).isSome = true

/-- Where the loop stands before turn `i`. A block is out but in the first turn. -/
structure TurnStart (firmware : BootServices) (i : Nat) (calls : BootCalls)
    (backing : Option Nat) : Prop where
  queries : calls.queries = i + 1
  allocations : calls.allocations = i
  block : i = 0 ∧ backing = none ∧ calls.outstanding = [] ∨
    0 < i ∧ ∃ buffer bytes, backing = some buffer ∧ calls.outstanding = [(buffer, bytes)]

/-- A block that is the only one out goes back. -/
theorem freePool_only {buffer bytes : Nat} (hfree : ∀ k, firmware.freePool k = efiSuccess)
    (hout : calls.outstanding = [(buffer, bytes)]) :
    (calls.freePool firmware buffer).1 = efiSuccess ∧
    (calls.freePool firmware buffer).2 =
      { calls with frees := calls.frees + 1, outstanding := [] } := by
  unfold BootCalls.freePool
  simp [hfree, hout]

theorem releaseBacking_empty {buffer bytes : Nat}
    (hfree : ∀ k, firmware.freePool k = efiSuccess)
    (hout : calls.outstanding = [(buffer, bytes)]) :
    (releaseBacking firmware calls (some buffer)).outstanding = [] := by
  change (calls.freePool firmware buffer).2.outstanding = []
  rw [(freePool_only hfree hout).2]

/-- How one turn of the loop can end, once its size is accepted. -/
inductive TurnEnd (firmware : BootServices) (i turns : Nat) : Acquired → Prop
  | ended {r : Acquired} : ¬ firmware.AsksAgain i → r.Sound → TurnEnd firmware i turns r
  | again {calls : BootCalls} {buffer : Nat} : firmware.AsksAgain i →
      TurnStart firmware (i + 1) calls (some buffer) →
      TurnEnd firmware i turns
        (acquireFrom firmware turns calls (some buffer) (firmware.getMemoryMap (i + 1)).mapBytes
          (descriptorSizeOr (firmware.getMemoryMap (i + 1)).descriptorSize))

/-- A map that the firmware fills in is held by the block that it is in. -/
theorem mapHeld_of_parse {buffer required count : Nat} {answer : MapAnswer}
    (hbuffer : buffer ≠ 0) (hrequired : required ≤ mapMaxBytes)
    (hfits : ¬ answer.mapBytes > required)
    (hparse : mapParse buffer answer.mapBytes answer.descriptorSize = some count) :
    MapHeld
      { backing := buffer, backingBytes := required, mapBytes := answer.mapBytes
        descriptorSize := answer.descriptorSize, descriptorVersion := answer.descriptorVersion
        mapKey := answer.mapKey, descriptorCount := count, generation := 1, valid := true }
      [(buffer, required)] := by
  obtain ⟨hsize, -, hwhole, -⟩ := mapParse_eq_some hparse
  refine ⟨rfl, Or.inr ⟨hbuffer, rfl⟩, hwhole, by dsimp only; omega, ?_⟩
  intro index hindex
  have hbytes : answer.mapBytes ≤ uint64Max := by
    simp only [mapMaxBytes, uint64Max] at *
    omega
  obtain ⟨hfound, hend⟩ := descriptor_found rfl hbuffer hsize hwhole (by dsimp only; omega) hbytes
    hindex
  refine ⟨_, hfound, Nat.le_add_right _ _, ?_⟩
  dsimp only at hend ⊢
  omega

/-- Before a turn asks for a block, none is out. -/
theorem freeBacking_start (hfree : ∀ k, firmware.freePool k = efiSuccess) {backing : Option Nat}
    (hstart : TurnStart firmware i calls backing) :
    ∃ calls1, freeBacking firmware calls backing = (true, calls1) ∧
      calls1.queries = i + 1 ∧ calls1.allocations = i ∧ calls1.outstanding = [] := by
  rcases hstart.block with ⟨-, rfl, hout⟩ | ⟨-, buffer, bytes, rfl, hout⟩
  · exact ⟨calls, rfl, hstart.queries, hstart.allocations, hout⟩
  · obtain ⟨hstatus, hcalls⟩ := freePool_only hfree hout
    refine ⟨{ calls with frees := calls.frees + 1, outstanding := [] }, ?_, hstart.queries,
      hstart.allocations, rfl⟩
    unfold freeBacking
    simp only [hstatus, hcalls, decide_true]

theorem turn_end (hfree : ∀ k, firmware.freePool k = efiSuccess) {backing : Option Nat}
    (hstart : TurnStart firmware i calls backing) {required : Nat}
    (hsize : firmware.turnSize i = some required) (turns : Nat) :
    TurnEnd firmware i turns
      (acquireFrom firmware (turns + 1) calls backing (firmware.getMemoryMap i).mapBytes
        (descriptorSizeOr (firmware.getMemoryMap i).descriptorSize)) := by
  obtain ⟨calls1, hfreed, hqueries, hallocations, hout⟩ := freeBacking_start hfree hstart
  unfold BootServices.turnSize at hsize
  unfold acquireFrom
  rw [hsize]
  dsimp only
  rw [hfreed]
  dsimp only
  unfold BootCalls.allocatePool
  rw [hallocations]
  dsimp only
  by_cases hblock : (firmware.allocatePool i).status ≠ efiSuccess ∨
      (firmware.allocatePool i).buffer = 0
  · rw [if_pos hblock]
    refine .ended ?_ ⟨hout, rfl⟩
    rintro ⟨_, -, hstatus, hbuffer, -⟩
    rcases hblock with hno | hno
    · exact hno hstatus
    · exact hbuffer hno
  rw [if_neg hblock]
  simp only [not_or, Decidable.not_not] at hblock
  obtain ⟨hstatus, hbuffer⟩ := hblock
  unfold BootCalls.getMemoryMap
  simp only [hqueries, hout]
  generalize hanswer : firmware.getMemoryMap (i + 1) = answer
  have hagain : firmware.AsksAgain i ↔
      answer.status = efiBufferTooSmall ∧ required < answer.mapBytes := by
    unfold BootServices.AsksAgain BootServices.turnSize
    rw [hsize, hanswer]
    constructor
    · rintro ⟨_, heq, -, -, hsmall, hmore⟩
      cases heq
      exact ⟨hsmall, hmore⟩
    · rintro ⟨hsmall, hmore⟩
      exact ⟨required, rfl, hstatus, hbuffer, hsmall, hmore⟩
  by_cases hsmall : answer.status = efiBufferTooSmall
  · rw [if_pos hsmall]
    by_cases hmore : answer.mapBytes ≤ required
    · rw [if_pos hmore]
      refine .ended ?_ ⟨releaseBacking_empty hfree rfl, rfl⟩
      rw [hagain]
      omega
    · rw [if_neg hmore, ← hanswer]
      refine .again (hagain.mpr ⟨hsmall, by omega⟩) ⟨rfl, rfl, Or.inr ⟨by omega, ?_⟩⟩
      exact ⟨_, required, rfl, rfl⟩
  rw [if_neg hsmall]
  have hover : ¬ firmware.AsksAgain i := fun h => hsmall (hagain.mp h).1
  by_cases hsuccess : answer.status ≠ efiSuccess
  · rw [if_pos hsuccess]
    exact .ended hover ⟨releaseBacking_empty hfree rfl, rfl⟩
  rw [if_neg hsuccess]
  by_cases hfits : answer.mapBytes > required
  · rw [if_pos hfits]
    exact .ended hover ⟨releaseBacking_empty hfree rfl, rfl⟩
  rw [if_neg hfits]
  cases hparse : mapParse (firmware.allocatePool i).buffer answer.mapBytes
      answer.descriptorSize with
  | none => exact .ended hover ⟨releaseBacking_empty hfree rfl, rfl⟩
  | some count =>
    exact .ended hover (mapHeld_of_parse hbuffer (mapGrowthSize_le hsize) hfits hparse)

/-! ## All turns -/

theorem acquireFrom_sound_iff (hfree : ∀ k, firmware.freePool k = efiSuccess) (turns : Nat)
    {backing : Option Nat} (hstart : TurnStart firmware i calls backing)
    (hturns : i + turns = mapMaxRetries) :
    (acquireFrom firmware turns calls backing (firmware.getMemoryMap i).mapBytes
      (descriptorSizeOr (firmware.getMemoryMap i).descriptorSize)).Sound ↔
    ∀ j, i ≤ j → 0 < j → j < mapMaxRetries →
      (∀ k, i ≤ k → k < j → firmware.AsksAgain k) → (firmware.turnSize j).isSome = true := by
  induction turns generalizing i calls backing with
  | zero =>
    refine iff_of_true ⟨?_, rfl⟩ fun j hij _ hj => by omega
    rcases hstart.block with ⟨-, rfl, hout⟩ | ⟨-, buffer, bytes, rfl, hout⟩
    · exact hout
    · exact releaseBacking_empty hfree hout
  | succ turns ih =>
    cases hsize : firmware.turnSize i with
    | none =>
      -- the call ends here, and the block of the turn before stays out
      have hrefused : acquireFrom firmware (turns + 1) calls backing
          (firmware.getMemoryMap i).mapBytes
          (descriptorSizeOr (firmware.getMemoryMap i).descriptorSize) =
            { status := some .overflow, calls } := by
        unfold BootServices.turnSize at hsize
        unfold acquireFrom
        rw [hsize]
      rw [hrefused]
      rcases hstart.block with ⟨hi, -, hout⟩ | ⟨hi, buffer, bytes, -, hout⟩
      · refine iff_of_true ⟨hout, rfl⟩ fun j hij hpos _ hall => ?_
        obtain ⟨_, hsome, -⟩ := hall i (le_refl i) (by omega)
        rw [hsize] at hsome
        cases hsome
      · refine iff_of_false ?_ ?_
        · rintro ⟨hempty, -⟩
          rw [hout] at hempty
          cases hempty
        · intro hall
          have hsome := hall i (le_refl i) hi (by omega) fun k hik hki => by omega
          rw [hsize] at hsome
          cases hsome
    | some required =>
      have hend := turn_end hfree hstart hsize turns
      generalize acquireFrom firmware (turns + 1) calls backing (firmware.getMemoryMap i).mapBytes
        (descriptorSizeOr (firmware.getMemoryMap i).descriptorSize) = r at hend ⊢
      have hfirst : ∀ j, i ≤ j → j ≠ i ∨ (firmware.turnSize j).isSome = true := by
        intro j _
        by_cases hj : j = i
        · rw [hj, hsize]
          exact Or.inr rfl
        · exact Or.inl hj
      cases hend with
      | ended hover hsound =>
        refine iff_of_true hsound fun j hij _ _ hall => ?_
        rcases hfirst j hij with hj | hsome
        · exact absurd (hall i (le_refl i) (by omega)) hover
        · exact hsome
      | again hagain hnext =>
        rw [ih hnext (by omega)]
        constructor
        · intro hrest j hij hpos hj hall
          rcases hfirst j hij with hne | hsome
          · exact hrest j (by omega) hpos hj fun k hik hkj => hall k (by omega) hkj
          · exact hsome
        · intro hrest j hij hpos hj hall
          refine hrest j (by omega) hpos hj fun k hik hkj => ?_
          rcases Nat.eq_or_lt_of_le hik with rfl | hlt
          · exact hagain
          · exact hall k (by omega) hkj

/-- A call loses no block and reports nothing wrong, exactly when no retry asks for a size
that is refused. -/
theorem acquiring_is_sound_iff (hfree : ∀ k, firmware.freePool k = efiSuccess) :
    (acquire firmware).Sound ↔ firmware.GrowsInRange := by
  unfold acquire BootCalls.getMemoryMap BootServices.GrowsInRange
  dsimp only
  by_cases hfailed : (firmware.getMemoryMap 0).status ≠ efiBufferTooSmall ∧
      (firmware.getMemoryMap 0).status ≠ efiSuccess
  · rw [if_pos hfailed]
    refine iff_of_true ⟨rfl, rfl⟩ fun henters => ?_
    rcases henters.1 with h | h
    · exact absurd h hfailed.1
    · exact absurd h hfailed.2
  rw [if_neg hfailed]
  by_cases hempty : (firmware.getMemoryMap 0).status = efiSuccess ∧
      (firmware.getMemoryMap 0).mapBytes = 0
  · rw [if_pos hempty]
    refine iff_of_true ?_ fun henters => absurd hempty.2 henters.2
    exact ⟨rfl, Or.inl ⟨rfl, rfl, rfl, rfl⟩, Nat.zero_mul _, le_refl _, nofun⟩
  rw [if_neg hempty]
  by_cases hzero : (firmware.getMemoryMap 0).mapBytes = 0
  · rw [if_pos hzero]
    exact iff_of_true ⟨rfl, rfl⟩ fun henters => absurd hzero henters.2
  rw [if_neg hzero]
  have henters : firmware.EntersLoop := by
    refine ⟨?_, hzero⟩
    by_contra hno
    exact hfailed ⟨fun h => hno (Or.inl h), fun h => hno (Or.inr h)⟩
  rw [acquireFrom_sound_iff hfree mapMaxRetries ⟨rfl, rfl, Or.inl ⟨rfl, rfl, rfl⟩⟩ (Nat.zero_add _)]
  constructor
  · intro hall _ j hpos hj hasks
    exact hall j (Nat.zero_le j) hpos hj fun k _ hkj => hasks k hkj
  · intro hall j _ hpos hj hasks
    exact hall henters j hpos hj fun k hkj => hasks k (Nat.zero_le k) hkj

/-- A firmware whose map grows once while it is acquired. -/
def growingFirmware : BootServices where
  getMemoryMap k :=
    { status := if k < 2 then efiBufferTooSmall else efiSuccess
      mapBytes := if k = 1 then 600 else 80
      mapKey := 0xABC, descriptorSize := 40, descriptorVersion := 1 }
  allocatePool k := { status := efiSuccess, buffer := 0x9000 + k * 0x1000 }
  freePool _ := efiSuccess

theorem a_growing_map_is_acquired : (acquire growingFirmware).Sound := by
  refine (acquiring_is_sound_iff fun _ => rfl).mpr fun _ j hpos hj _ => ?_
  simp only [mapMaxRetries] at hj
  interval_cases j <;> decide

/-- A firmware that asks for a megabyte once it was given a block. -/
def greedyFirmware : BootServices where
  getMemoryMap k :=
    { status := efiBufferTooSmall, mapBytes := if k = 0 then 40 else 0x100000
      mapKey := 0, descriptorSize := 40, descriptorVersion := 1 }
  allocatePool _ := { status := efiSuccess, buffer := 0x9000 }
  freePool _ := efiSuccess

/-- The call fails and its block stays out. -/
theorem a_greedy_firmware_keeps_a_block :
    (∀ k, greedyFirmware.freePool k = efiSuccess) ∧
    (acquire greedyFirmware).status = some .overflow ∧
    (acquire greedyFirmware).calls.outstanding = [(0x9000, 360)] ∧
    ¬ (acquire greedyFirmware).Sound := by
  have hstatus : (acquire greedyFirmware).status = some .overflow := by decide
  have hout : (acquire greedyFirmware).calls.outstanding = [(0x9000, 360)] := by decide
  refine ⟨fun _ => rfl, hstatus, hout, fun hsound => ?_⟩
  unfold Acquired.Sound at hsound
  rw [hstatus] at hsound
  rw [hout] at hsound
  cases hsound.1

end Gate4Harness.Vm
