-- The classification of a memory map as sums over its descriptors. No sum overflows: the
-- ranges are apart from each other and end within 64 bits, so all their bytes together are
-- no more than that. Sums do not depend on the order, and neither does the answer.
import Gate4Harness.ArenaLaws
import Gate4Harness.MemoryMapLaws
import Mathlib.Algebra.BigOperators.Group.List.Basic

namespace Gate4Harness.Vm

open Tables

variable {map map' : UefiMemoryMap} {memory memory' : ByteMemory.Memory}
  {d : EfiMemoryDescriptor} {l l' : List EfiMemoryDescriptor} {n i : Nat}

/-! ## Descriptors -/

def EfiMemoryDescriptor.bytes (d : EfiMemoryDescriptor) : Nat := memoryPageSize * d.numberOfPages

def EfiMemoryDescriptor.memoryClass (d : EfiMemoryDescriptor) : MemoryClass :=
  memoryClassForEfiType d.type

/-- The two ranges have no address in common. -/
def EfiMemoryDescriptor.Disjoint (d e : EfiMemoryDescriptor) : Prop :=
  d.physicalStart + d.bytes ≤ e.physicalStart ∨ e.physicalStart + e.bytes ≤ d.physicalStart

instance (d e : EfiMemoryDescriptor) : Decidable (d.Disjoint e) :=
  inferInstanceAs (Decidable (_ ∨ _))

theorem EfiMemoryDescriptor.Disjoint.symm {e : EfiMemoryDescriptor} (h : d.Disjoint e) :
    e.Disjoint d := Or.symm h

/-- The range has a page and does not overflow. -/
def EfiMemoryDescriptor.Sound (d : EfiMemoryDescriptor) : Prop :=
  d.numberOfPages ≠ 0 ∧ d.physicalStart + d.bytes ≤ uint64Max

instance : DecidablePred EfiMemoryDescriptor.Sound := fun _ =>
  inferInstanceAs (Decidable (_ ∧ _))

theorem describedRange_eq_some (h : d.physicalStart + d.bytes ≤ uint64Max) :
    describedRange d = some (d.bytes, d.physicalStart + d.bytes) := by
  have hproduct : multiplyU64 d.numberOfPages memoryPageSize = some d.bytes := by
    rw [multiplyU64_eq, EfiMemoryDescriptor.bytes, Nat.mul_comm]
    rw [Nat.mul_comm]
    exact le_trans (Nat.le_add_left _ _) h
  unfold describedRange
  rw [hproduct]
  dsimp only
  rw [addU64_eq h]

theorem describedRange_eq_none (h : uint64Max < d.physicalStart + d.bytes) :
    describedRange d = none := by
  unfold describedRange
  cases hproduct : multiplyU64 d.numberOfPages memoryPageSize with
  | none => rfl
  | some bytes =>
    obtain ⟨hbytes, hle⟩ := multiplyU64_eq_some hproduct
    rw [Nat.mul_comm] at hbytes
    change bytes = d.bytes at hbytes
    dsimp only
    unfold addU64
    rw [if_pos (by omega)]

/-! ## What a map shall be, and its sums -/

/-- Every range is sound, and no two meet. -/
structure WellFormed (l : List EfiMemoryDescriptor) : Prop where
  sound : ∀ d ∈ l, d.Sound
  apart : l.Pairwise EfiMemoryDescriptor.Disjoint

instance : Decidable (WellFormed l) :=
  decidable_of_iff ((∀ d ∈ l, d.Sound) ∧ l.Pairwise EfiMemoryDescriptor.Disjoint)
    ⟨fun h => ⟨h.1, h.2⟩, fun h => ⟨h.1, h.2⟩⟩

/-- The sum of a measure over the descriptors that are picked. -/
def sumWhere (pick : EfiMemoryDescriptor → Bool) (f : EfiMemoryDescriptor → Nat)
    (l : List EfiMemoryDescriptor) : Nat := ((l.filter pick).map f).sum

def inClass (memoryClass : MemoryClass) (d : EfiMemoryDescriptor) : Bool :=
  decide (d.memoryClass = memoryClass)

def ramLike (d : EfiMemoryDescriptor) : Bool := memoryClassIsRamLike d.memoryClass

/-- The sums that the loop has after the descriptors of a list. -/
def sums (l : List EfiMemoryDescriptor) : MemoryClassification where
  classBytes memoryClass := sumWhere (inClass memoryClass) EfiMemoryDescriptor.bytes l
  classPages memoryClass := sumWhere (inClass memoryClass) EfiMemoryDescriptor.numberOfPages l
  totalRamLikeBytes := sumWhere ramLike EfiMemoryDescriptor.bytes l
  conventionalBytes := sumWhere (inClass .conventional) EfiMemoryDescriptor.bytes l

theorem sumWhere_append (pick : EfiMemoryDescriptor → Bool) (f : EfiMemoryDescriptor → Nat)
    (l : List EfiMemoryDescriptor) (d : EfiMemoryDescriptor) :
    sumWhere pick f (l ++ [d]) = sumWhere pick f l + if pick d then f d else 0 := by
  unfold sumWhere
  cases hpick : pick d <;> simp [List.filter_append, hpick]

theorem sumWhere_perm (h : l.Perm l') (pick : EfiMemoryDescriptor → Bool)
    (f : EfiMemoryDescriptor → Nat) : sumWhere pick f l = sumWhere pick f l' :=
  ((h.filter pick).map f).sum_eq

theorem sumWhere_mono {pick pick' : EfiMemoryDescriptor → Bool} {f f' : EfiMemoryDescriptor → Nat}
    (hpick : ∀ d, pick d = true → pick' d = true) (hf : ∀ d, f d ≤ f' d) :
    sumWhere pick f l ≤ sumWhere pick' f' l := by
  induction l with
  | nil => exact le_refl _
  | cons d l ih =>
    unfold sumWhere at ih ⊢
    have := hf d
    cases h : pick d with
    | true => simp [h, hpick d h]; omega
    | false =>
      cases h' : pick' d <;> simp [h, h']
      · exact ih
      · omega

/-- All ranges of a well-formed list together have no more bytes than there are addresses. -/
theorem WellFormed.sum_le (h : WellFormed l) (pick : EfiMemoryDescriptor → Bool)
    {f : EfiMemoryDescriptor → Nat} (hf : ∀ d, f d ≤ d.bytes) : sumWhere pick f l ≤ uint64Max := by
  calc sumWhere pick f l ≤ sumWhere (fun _ => true) EfiMemoryDescriptor.bytes l :=
        sumWhere_mono (fun _ _ => rfl) hf
    _ = (l.map EfiMemoryDescriptor.bytes).sum := by simp [sumWhere]
    _ ≤ uint64Max :=
        sum_le_window EfiMemoryDescriptor.physicalStart _ (fun d hd => (h.sound d hd).2) h.apart

theorem wellFormed_append :
    WellFormed (l ++ [d]) ↔ WellFormed l ∧ d.Sound ∧ ∀ e ∈ l, e.Disjoint d := by
  constructor
  · rintro ⟨hsound, hapart⟩
    rw [List.pairwise_append] at hapart
    refine ⟨⟨fun e he => hsound e (List.mem_append_left _ he), hapart.1⟩,
      hsound d (List.mem_append_right _ (List.mem_singleton_self d)), fun e he => ?_⟩
    exact hapart.2.2 e he d (List.mem_singleton_self d)
  · rintro ⟨⟨hsound, hapart⟩, hd, hout⟩
    refine ⟨?_, ?_⟩
    · intro e he
      rcases List.mem_append.mp he with hold | hnew
      · exact hsound e hold
      · rw [List.mem_singleton.mp hnew]
        exact hd
    · rw [List.pairwise_append]
      refine ⟨hapart, List.pairwise_singleton _ _, fun e he e' he' => ?_⟩
      rw [List.mem_singleton.mp he']
      exact hout e he

theorem wellFormed_perm (h : l.Perm l') : WellFormed l ↔ WellFormed l' := by
  have hone : ∀ {l l' : List EfiMemoryDescriptor}, l.Perm l' → WellFormed l → WellFormed l' := by
    intro l l' hp hl
    exact ⟨fun d hd => hl.sound d (hp.mem_iff.mpr hd),
      hl.apart.perm hp fun {_ _} hde => hde.symm⟩
  exact ⟨hone h, hone h.symm⟩

/-! ## The loop -/

/-- The descriptors of a map, as they stand in its block. -/
def descriptors (map : UefiMemoryMap) (memory : ByteMemory.Memory) (n : Nat) :
    List EfiMemoryDescriptor :=
  (List.range n).map fun i => readDescriptor memory (map.backing + i * map.descriptorSize)

theorem descriptors_succ (map : UefiMemoryMap) (memory : ByteMemory.Memory) (n : Nat) :
    descriptors map memory (n + 1) = descriptors map memory n ++
      [readDescriptor memory (map.backing + n * map.descriptorSize)] := by
  unfold descriptors
  rw [List.range_succ, List.map_append]
  rfl

/-- How the loop stands after the descriptors of a list. -/
inductive ScanEnd (l : List EfiMemoryDescriptor) :
    Except ClassificationError MemoryClassification → Prop
  | sums : WellFormed l → ScanEnd l (.ok (sums l))
  | failed {e : ClassificationError} : ¬ WellFormed l →
      (e = .overflow → ∃ d ∈ l, uint64Max < d.physicalStart + d.bytes) → ScanEnd l (.error e)

theorem addToClass_sums (h : WellFormed (l ++ [d])) :
    addToClass (sums l) d.memoryClass d.bytes d.numberOfPages = .ok (sums (l ++ [d])) := by
  have hpages : ∀ e : EfiMemoryDescriptor, e.numberOfPages ≤ e.bytes := by
    intro e
    unfold EfiMemoryDescriptor.bytes memoryPageSize
    omega
  have hone : ∀ (pick : EfiMemoryDescriptor → Bool) (f : EfiMemoryDescriptor → Nat),
      (∀ e, f e ≤ e.bytes) → pick d = true →
      addU64 (sumWhere pick f l) (f d) = some (sumWhere pick f (l ++ [d])) := by
    intro pick f hf hpick
    have hle := h.sum_le pick hf
    rw [sumWhere_append, if_pos hpick] at hle ⊢
    exact addU64_eq hle
  -- a sum that the descriptor does not go into stays
  have hother : ∀ (pick : EfiMemoryDescriptor → Bool) (f : EfiMemoryDescriptor → Nat),
      pick d = false → sumWhere pick f (l ++ [d]) = sumWhere pick f l := by
    intro pick f hpick
    rw [sumWhere_append, hpick]
    rfl
  have hclass : ∀ f : EfiMemoryDescriptor → Nat,
      Function.update (fun c => sumWhere (inClass c) f l) d.memoryClass
        (sumWhere (inClass d.memoryClass) f (l ++ [d])) =
          fun c => sumWhere (inClass c) f (l ++ [d]) := by
    intro f
    funext c
    by_cases hc : c = d.memoryClass
    · rw [hc, Function.update_self]
    · rw [Function.update_of_ne hc, hother _ f (by simp [inClass, Ne.symm hc])]
  have hconventional : (if d.memoryClass = .conventional then
      addU64 (sums l).conventionalBytes d.bytes else some (sums l).conventionalBytes) =
        some (sums (l ++ [d])).conventionalBytes := by
    by_cases hc : d.memoryClass = .conventional
    · rw [if_pos hc]
      exact hone _ _ (fun _ => le_refl _) (by simp [inClass, hc])
    · rw [if_neg hc]
      exact congrArg some (hother _ _ (by simp [inClass, hc])).symm
  have hram : (if memoryClassIsRamLike d.memoryClass then
      addU64 (sums l).totalRamLikeBytes d.bytes else some (sums l).totalRamLikeBytes) =
        some (sums (l ++ [d])).totalRamLikeBytes := by
    by_cases hr : memoryClassIsRamLike d.memoryClass = true
    · rw [if_pos hr]
      exact hone _ _ (fun _ => le_refl _) hr
    · rw [if_neg hr]
      exact congrArg some (hother _ _ (by simpa [ramLike] using hr)).symm
  have hbytes : addU64 ((sums l).classBytes d.memoryClass) d.bytes =
      some (sumWhere (inClass d.memoryClass) EfiMemoryDescriptor.bytes (l ++ [d])) :=
    hone _ _ (fun _ => le_refl _) (by simp [inClass])
  have hcount : addU64 ((sums l).classPages d.memoryClass) d.numberOfPages =
      some (sumWhere (inClass d.memoryClass) EfiMemoryDescriptor.numberOfPages (l ++ [d])) :=
    hone _ _ hpages (by simp [inClass])
  unfold addToClass
  rw [hconventional, hram, hbytes, hcount]
  dsimp only
  rw [show (sums l).classBytes = fun c => sumWhere (inClass c) EfiMemoryDescriptor.bytes l from rfl,
    show (sums l).classPages = fun c => sumWhere (inClass c) EfiMemoryDescriptor.numberOfPages l
      from rfl, hclass, hclass]
  rfl

section Loop

variable (hfound : ∀ i < n, mapDescriptor map i = some (map.backing + i * map.descriptorSize))

include hfound

/-- The inner loop finds a range in the way exactly when there is one. -/
theorem priorConflicts_any (hi : i < n) (hprior : WellFormed (descriptors map memory i))
    (d : EfiMemoryDescriptor) :
    (List.range i).any (priorConflicts map memory d.physicalStart (d.physicalStart + d.bytes)) =
      false ↔ ∀ e ∈ descriptors map memory i, e.Disjoint d := by
  have hone : ∀ j < i, priorConflicts map memory d.physicalStart (d.physicalStart + d.bytes) j =
      false ↔ (readDescriptor memory (map.backing + j * map.descriptorSize)).Disjoint d := by
    intro j hj
    obtain ⟨hpages, hfits⟩ := hprior.sound _ (List.mem_map.mpr ⟨j, List.mem_range.mpr hj, rfl⟩)
    unfold priorConflicts
    rw [hfound j (by omega)]
    dsimp only
    rw [if_neg hpages, describedRange_eq_some hfits]
    simp only [Bool.and_eq_false_iff, decide_eq_false_iff_not, Nat.not_lt]
    rfl
  rw [List.any_eq_false]
  constructor
  · intro hall e he
    obtain ⟨j, hj, rfl⟩ := List.mem_map.mp he
    exact (hone j (List.mem_range.mp hj)).mp (by simpa using hall j hj)
  · intro hall j hj
    rw [Bool.not_eq_true, hone j (List.mem_range.mp hj)]
    exact hall _ (List.mem_map.mpr ⟨j, hj, rfl⟩)

theorem classifyOne_end (hi : i < n) (hprior : WellFormed (descriptors map memory i)) :
    ScanEnd (descriptors map memory (i + 1))
      (classifyOne map memory (sums (descriptors map memory i)) i) := by
  rw [descriptors_succ]
  unfold classifyOne
  rw [hfound i hi]
  dsimp only
  generalize readDescriptor memory (map.backing + i * map.descriptorSize) = d
  by_cases hpages : d.numberOfPages = 0
  · rw [if_pos hpages]
    refine .failed (fun h => ?_) nofun
    exact (wellFormed_append.mp h).2.1.1 hpages
  rw [if_neg hpages]
  by_cases hfits : d.physicalStart + d.bytes ≤ uint64Max
  swap
  · rw [describedRange_eq_none (by omega)]
    refine .failed (fun h => hfits (wellFormed_append.mp h).2.1.2) fun _ => ?_
    exact ⟨d, List.mem_append_right _ (List.mem_singleton_self d), by omega⟩
  rw [describedRange_eq_some hfits]
  dsimp only
  have hany := priorConflicts_any hfound hi hprior d
  by_cases hconflict : (List.range i).any
      (priorConflicts map memory d.physicalStart (d.physicalStart + d.bytes)) = true
  · rw [if_pos hconflict]
    refine .failed (fun h => ?_) nofun
    rw [hany.mpr (wellFormed_append.mp h).2.2] at hconflict
    cases hconflict
  · rw [if_neg hconflict]
    rw [Bool.not_eq_true] at hconflict
    have hall := wellFormed_append.mpr ⟨hprior, ⟨hpages, hfits⟩, hany.mp hconflict⟩
    rw [show memoryClassForEfiType d.type = d.memoryClass from rfl, addToClass_sums hall]
    exact .sums hall

theorem classify_scan (hi : i ≤ n) :
    ScanEnd (descriptors map memory i)
      ((List.range i).foldlM (classifyOne map memory) {}) := by
  induction i with
  | zero => exact .sums ⟨nofun, List.Pairwise.nil⟩
  | succ i ih =>
    have hbefore := ih (by omega)
    rw [List.range_succ, List.foldlM_append]
    generalize (List.range i).foldlM (classifyOne map memory) {} = r at hbefore ⊢
    cases hbefore with
    | sums hprior =>
      have hone := classifyOne_end hfound (show i < n by omega) hprior
      change ScanEnd _ (List.foldlM (classifyOne map memory) (sums (descriptors map memory i)) [i])
      rw [List.foldlM_cons]
      cases hturn : classifyOne map memory (sums (descriptors map memory i)) i with
      | error e =>
        rw [hturn] at hone
        exact hone
      | ok c =>
        rw [hturn] at hone
        exact hone
    | failed hno hoverflow =>
      rw [descriptors_succ]
      refine .failed (fun h => hno (wellFormed_append.mp h).1) fun he => ?_
      obtain ⟨d, hd, hbig⟩ := hoverflow he
      exact ⟨d, List.mem_append_left _ hd, hbig⟩

end Loop

/-! ## Maps that are acquired -/

/-- A map that `acquire` filled in, whatever the firmware answered. -/
def AcquiredMap (map : UefiMemoryMap) : Prop :=
  ∃ firmware, (acquire firmware).status = none ∧ map = (acquire firmware).map

/-- Every descriptor stands in its place. -/
structure DescriptorsFound (map : UefiMemoryMap) : Prop where
  valid : map.valid = true
  found : ∀ i < map.descriptorCount,
    mapDescriptor map i = some (map.backing + i * map.descriptorSize)

theorem allocatePool_some {firmware : BootServices} {calls calls' : BootCalls}
    {bytes buffer : Nat}
    (h : calls.allocatePool firmware bytes = (some buffer, calls')) : buffer ≠ 0 := by
  unfold BootCalls.allocatePool at h
  dsimp only at h
  split at h
  · cases h
  · rename_i hgood
    cases h
    exact fun hzero => hgood (Or.inr hzero)

/-- If a call succeeds, the descriptors of its map stand in their places. -/
def Acquired.Finds (r : Acquired) : Prop := r.status = none → DescriptorsFound r.map

theorem Acquired.Finds.failed {r : Acquired} {e : MapError} (h : r.status = some e) : r.Finds :=
  fun hok => absurd (hok.symm.trans h) (Option.some_ne_none e).symm

theorem acquireFrom_finds (firmware : BootServices) (turns : Nat) (calls : BootCalls)
    (backing : Option Nat) (mapBytes descriptorSize : Nat) :
    (acquireFrom firmware turns calls backing mapBytes descriptorSize).Finds := by
  induction turns generalizing calls backing mapBytes descriptorSize with
  | zero => exact .failed rfl
  | succ turns ih =>
    unfold acquireFrom
    cases hsize : mapGrowthSize mapBytes descriptorSize with
    | none => exact .failed rfl
    | some required =>
      dsimp only
      obtain ⟨freed, calls1⟩ := freeBacking firmware calls backing
      cases freed with
      | false => exact .failed rfl
      | true =>
        dsimp only
        cases halloc : calls1.allocatePool firmware required with
        | mk block calls2 =>
          cases block with
          | none => exact .failed rfl
          | some buffer =>
            dsimp only
            obtain ⟨answer, calls3⟩ := calls2.getMemoryMap firmware
            dsimp only
            by_cases hsmall : answer.status = efiBufferTooSmall
            · rw [if_pos hsmall]
              by_cases hmore : answer.mapBytes ≤ required
              · rw [if_pos hmore]
                exact .failed rfl
              · rw [if_neg hmore]
                exact ih _ _ _ _
            rw [if_neg hsmall]
            by_cases hsuccess : answer.status ≠ efiSuccess
            · rw [if_pos hsuccess]
              exact .failed rfl
            rw [if_neg hsuccess]
            by_cases hfits : answer.mapBytes > required
            · rw [if_pos hfits]
              exact .failed rfl
            rw [if_neg hfits]
            cases hparse : mapParse buffer answer.mapBytes answer.descriptorSize with
            | none => exact .failed rfl
            | some count =>
              obtain ⟨hdescriptor, -, hwhole, -⟩ := mapParse_eq_some hparse
              have hrequired := mapGrowthSize_le hsize
              refine fun _ => ⟨rfl, fun i hi => ?_⟩
              refine (descriptor_found rfl (allocatePool_some halloc) hdescriptor hwhole ?_ ?_ hi).1
              · dsimp only
                omega
              · simp only [mapMaxBytes, uint64Max] at *
                omega

theorem AcquiredMap.found (h : AcquiredMap map) : DescriptorsFound map := by
  obtain ⟨firmware, hstatus, rfl⟩ := h
  have hfinds : (acquire firmware).Finds := by
    unfold acquire
    obtain ⟨answer, calls⟩ := ({} : BootCalls).getMemoryMap firmware
    dsimp only
    split
    · exact nofun
    split
    · exact fun _ => ⟨rfl, nofun⟩
    split
    · exact nofun
    · exact acquireFrom_finds _ _ _ _ _ _
  exact hfinds hstatus

/-! ## The law -/

/-- The descriptors of the whole map. -/
def UefiMemoryMap.descriptors (map : UefiMemoryMap) (memory : ByteMemory.Memory) :
    List EfiMemoryDescriptor :=
  Vm.descriptors map memory map.descriptorCount

/-- What a classification of these descriptors says. -/
def classificationOf (l : List EfiMemoryDescriptor) : MemoryClassification :=
  { sums l with descriptorCount := l.length, valid := true }

theorem classify_eq (h : AcquiredMap map) (memory : ByteMemory.Memory) :
    (WellFormed (map.descriptors memory) ∧
      classify map memory = .ok (classificationOf (map.descriptors memory))) ∨
    ∃ e, ¬ WellFormed (map.descriptors memory) ∧ classify map memory = .error e ∧
      (e = .overflow → ∃ d ∈ map.descriptors memory,
        uint64Max < d.physicalStart + d.bytes) := by
  obtain ⟨hvalid, hfound⟩ := h.found
  have hscan : ScanEnd (map.descriptors memory) _ := classify_scan hfound (le_refl _)
  have hlength : (map.descriptors memory).length = map.descriptorCount := by
    simp [UefiMemoryMap.descriptors, descriptors]
  unfold classify
  rw [if_neg (not_not_intro hvalid)]
  generalize (List.range map.descriptorCount).foldlM (classifyOne map memory) {} = r at hscan ⊢
  cases hscan with
  | sums hgood =>
    refine Or.inl ⟨hgood, ?_⟩
    rw [classificationOf, hlength]
  | failed hno hoverflow => exact Or.inr ⟨_, hno, rfl, hoverflow⟩

theorem sums_perm (h : l.Perm l') : classificationOf l = classificationOf l' := by
  unfold classificationOf sums
  simp only [sumWhere_perm h, h.length_eq]

/-- A map is classified exactly when its ranges are sound and apart, the sums are those of
its descriptors, and their order does not matter. -/
theorem classification_is_exact (h : AcquiredMap map) (memory : ByteMemory.Memory) :
    ((∃ c, classify map memory = .ok c) ↔ WellFormed (map.descriptors memory)) ∧
    (∀ c, classify map memory = .ok c →
      (∀ k, c.classBytes k =
          sumWhere (inClass k) EfiMemoryDescriptor.bytes (map.descriptors memory) ∧
        c.classPages k =
          sumWhere (inClass k) EfiMemoryDescriptor.numberOfPages (map.descriptors memory)) ∧
      c.conventionalBytes =
        sumWhere (inClass .conventional) EfiMemoryDescriptor.bytes (map.descriptors memory) ∧
      c.totalRamLikeBytes = sumWhere ramLike EfiMemoryDescriptor.bytes (map.descriptors memory) ∧
      c.conventionalBytes ≤ c.totalRamLikeBytes) ∧
    (classify map memory = .error .overflow →
      ∃ d ∈ map.descriptors memory, uint64Max < d.physicalStart + d.bytes) ∧
    ∀ map' memory', AcquiredMap map' →
      (map'.descriptors memory').Perm (map.descriptors memory) →
      (classify map' memory').toOption = (classify map memory).toOption := by
  have hanswer := classify_eq h memory
  refine ⟨?_, ?_, ?_, ?_⟩
  · rcases hanswer with ⟨hgood, heq⟩ | ⟨e, hno, heq, -⟩
    · exact iff_of_true ⟨_, heq⟩ hgood
    · refine iff_of_false ?_ hno
      rintro ⟨c, hc⟩
      rw [heq] at hc
      cases hc
  · intro c hc
    rcases hanswer with ⟨-, heq⟩ | ⟨e, -, heq, -⟩
    · rw [heq, Except.ok.injEq] at hc
      subst hc
      refine ⟨fun k => ⟨rfl, rfl⟩, rfl, rfl, sumWhere_mono (fun d hd => ?_) fun _ => le_refl _⟩
      unfold inClass at hd
      unfold ramLike
      rw [of_decide_eq_true hd]
      rfl
    · rw [heq] at hc
      cases hc
  · intro herror
    rcases hanswer with ⟨-, heq⟩ | ⟨e, -, heq, hoverflow⟩
    · rw [heq] at herror
      cases herror
    · rw [heq, Except.error.injEq] at herror
      exact hoverflow herror
  · intro map' memory' h' hperm
    have hiff := wellFormed_perm hperm
    rcases classify_eq h' memory' with ⟨hgood', heq'⟩ | ⟨e', hno', heq', -⟩
    · rcases hanswer with ⟨-, heq⟩ | ⟨e, hno, -, -⟩
      · rw [heq, heq', sums_perm hperm]
      · exact absurd (hiff.mp hgood') hno
    · rcases hanswer with ⟨hgood, -⟩ | ⟨e, -, heq, -⟩
      · exact absurd (hiff.mpr hgood) hno'
      · rw [heq, heq']
        rfl

/-- The two descriptors of a small map: a page of conventional memory and one of ACPI. -/
def growingMemory : ByteMemory.Memory := fun p =>
  if p = 0xA000 then 7 else if p = 0xA009 then 0x10 else if p = 0xA018 then 1
  else if p = 0xA028 then 9 else if p = 0xA031 then 0x20 else if p = 0xA040 then 1
  else 0

theorem a_growing_map_is_classified :
    ∃ c, classify (acquire growingFirmware).map growingMemory = .ok c :=
  (classification_is_exact ⟨growingFirmware, by decide, rfl⟩ growingMemory).1.mpr
    (by decide +kernel)

end Gate4Harness.Vm
