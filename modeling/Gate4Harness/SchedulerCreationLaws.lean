-- The context of a new thread. The check of it, which a resume makes, accepts what a creation
-- wrote exactly when the entry and the pages of the thread are addresses that the check allows.
import Gate4Harness.SchedulerCreation

namespace Gate4Harness.Scheduler

variable {s s' : State} {t : ThreadSlot} {o : ObjectSlot} {k : Nat}

/-! ## The pages of a new thread -/

/-- The blocks of pages that a creation was granted, each with its size. -/
def CreateAnswers.blocks (a : CreateAnswers) : List (Nat × Nat) :=
  [(a.stack, stackSize), (a.canary, pageSize), (a.environment.gsArea, pageSize),
    (a.environment.vector, pageSize), (a.environment.block, pageSize),
    (a.environment.teb, pageSize)].filterMap fun p =>
      if p.1.granted then some (p.1.memory, p.2) else none

/-- What `allocate_pages` promises of the blocks it grants: they begin at a page, they lie in the
address space, and no two have a byte in common. -/
structure FreshPages (a : CreateAnswers) : Prop where
  aligned : ∀ p ∈ a.blocks, p.1 % pageSize = 0
  fits : ∀ p ∈ a.blocks, p.1 + p.2 < 2 ^ 64
  apart : a.blocks.Pairwise RangesApart

/-- The addresses that the check of a context asks more of than the creation does: the entry, the
stack, and the four pages of the environment. -/
def CreateCall.usable (c : CreateCall) : Bool :=
  canonicalNonzeroPointer c.entry && canonicalNonzeroPointer c.answers.stack.memory &&
  canonicalNonzeroPointer c.answers.environment.gsArea.memory &&
  canonicalNonzeroPointer c.answers.environment.teb.memory &&
  canonicalNonzeroPointer c.answers.environment.vector.memory &&
  canonicalNonzeroPointer c.answers.environment.block.memory

/-! ## What the new memory holds -/

/-- The two canaries are where they were written. -/
theorem canaryMemory_holds (m : Nat → Nat) {canary top : Nat}
    (hapart : RangesApart (canary, canaryBytes) (top, canaryBytes)) {i : Nat}
    (hi : i < canaryBytes) :
    canaryMemory m canary top (canary + i) = (0xC1 + i) % 256 ∧
    canaryMemory m canary top (top + i) = (0xD7 + i) % 256 := by
  unfold RangesApart at hapart
  dsimp only at hapart
  have hall : ∀ n ≤ canaryBytes, ∀ i < n, ((List.range n).foldl
      (fun mem index => writeByte (writeByte mem (canary + index) ((0xC1 + index) % 256))
        (top + index) ((0xD7 + index) % 256)) m) (canary + i) = (0xC1 + i) % 256 ∧
      ((List.range n).foldl
      (fun mem index => writeByte (writeByte mem (canary + index) ((0xC1 + index) % 256))
        (top + index) ((0xD7 + index) % 256)) m) (top + i) = (0xD7 + i) % 256 := by
    intro n
    induction n with
    | zero => exact fun _ i hi => absurd hi (Nat.not_lt_zero i)
    | succ n ih =>
      intro hn i hi
      rw [List.range_succ, List.foldl_append, List.foldl_cons, List.foldl_nil]
      have hin : canary + i ≠ top + n := by omega
      rcases Nat.lt_succ_iff_lt_or_eq.mp hi with hlt | rfl
      · obtain ⟨h1, h2⟩ := ih (by omega) i hlt
        have h3 : canary + i ≠ canary + n := by omega
        have h4 : top + i ≠ top + n := by omega
        have h5 : top + i ≠ canary + n := by omega
        exact ⟨by simp only [writeByte, if_neg hin, if_neg h3, h1],
          by simp only [writeByte, if_neg h4, if_neg h5, h2]⟩
      · exact ⟨by simp only [writeByte, if_neg hin, if_true], by simp only [writeByte, if_true]⟩
  exact hall canaryBytes (Nat.le_refl _) i hi

/-- The four pages of an environment are apart from each other. -/
structure PagesApart (a : EnvironmentAnswers) : Prop where
  gs_vector : RangesApart (a.gsArea.memory, pageSize) (a.vector.memory, pageSize)
  gs_block : RangesApart (a.gsArea.memory, pageSize) (a.block.memory, pageSize)
  gs_teb : RangesApart (a.gsArea.memory, pageSize) (a.teb.memory, pageSize)
  vector_block : RangesApart (a.vector.memory, pageSize) (a.block.memory, pageSize)
  vector_teb : RangesApart (a.vector.memory, pageSize) (a.teb.memory, pageSize)
  block_teb : RangesApart (a.block.memory, pageSize) (a.teb.memory, pageSize)

/-- The pages of the environment of a thread. -/
def EnvironmentAnswers.pages (a : EnvironmentAnswers) : List (Nat × Nat) :=
  [(a.gsArea.memory, pageSize), (a.vector.memory, pageSize), (a.block.memory, pageSize),
    (a.teb.memory, pageSize)]

/-- A word of a page. -/
theorem word_part {x i : Nat} (hi : i + 8 ≤ pageSize) : PartOf (x + i, 8) (x, pageSize) := by
  dsimp only [PartOf]
  omega

/-- A range apart from the four pages keeps its bytes. -/
theorem environmentMemory_sameOn (m : Nat → Nat) {a : EnvironmentAnswers}
    {upper lower identity : Nat} {p : Nat × Nat} (h : ∀ q ∈ a.pages, RangesApart p q) :
    SameOn m (environmentMemory m a upper lower identity) p.1 p.2 := by
  simp only [EnvironmentAnswers.pages, List.forall_mem_cons, List.not_mem_nil, false_implies,
    implies_true, and_true] at h
  obtain ⟨hg, hv, hb, ht⟩ := h
  unfold environmentMemory
  have hcleared := ((((SameOn.refl m p.1 p.2).zeroBytes hg).zeroBytes hv).zeroBytes hb).zeroBytes ht
  refine SameOn.zeroBytes ?_ hb
  refine SameOn.write64 (SameOn.write64 (SameOn.write64 (SameOn.write64 (SameOn.write64
    (SameOn.write64 hcleared ?_) ?_) ?_) ?_) ?_) ?_
  · exact hv.part (PartOf.refl _) (word_part (i := 0) (by decide))
  · exact hg.part (PartOf.refl _) (word_part (by decide))
  · exact hg.part (PartOf.refl _) (word_part (by decide))
  · exact ht.part (PartOf.refl _) (word_part (by decide))
  · exact ht.part (PartOf.refl _) (word_part (by decide))
  · exact ht.part (PartOf.refl _) (word_part (by decide))

/-- Words of two pages that are apart. -/
theorem RangesApart.words {x y : Nat} (h : RangesApart (x, pageSize) (y, pageSize)) {i j : Nat}
    (hi : i + 8 ≤ pageSize) (hj : j + 8 ≤ pageSize) : RangesApart (x + i, 8) (y + j, 8) :=
  h.part (word_part hi) (word_part hj)

theorem RangesApart.word {x : Nat} {q : Nat × Nat} (h : RangesApart (x, pageSize) q) {i : Nat}
    (hi : i + 8 ≤ pageSize) : RangesApart (x + i, 8) q :=
  h.part (word_part hi) (PartOf.refl q)

/-- Two words of one page. -/
theorem rangesApart_of_offsets {x i j : Nat} (h : i + 8 ≤ j ∨ j + 8 ≤ i) :
    RangesApart (x + i, 8) (x + j, 8) := by
  unfold RangesApart
  omega

/-- Each word of an environment holds what was written to it. -/
theorem environmentMemory_reads (m : Nat → Nat) {a : EnvironmentAnswers} (h : PagesApart a)
    {upper lower identity : Nat} (hvector : a.vector.memory < 2 ^ 64)
    (hblock : a.block.memory < 2 ^ 64) (hteb : a.teb.memory < 2 ^ 64) (hupper : upper < 2 ^ 64)
    (hlower : lower < 2 ^ 64) (hidentity : identity < 2 ^ 64) :
    let e := environmentMemory m a upper lower identity
    read64 e (a.gsArea.memory + 0x30) = a.teb.memory ∧
    read64 e (a.gsArea.memory + 0x58) = a.vector.memory ∧
    read64 e a.vector.memory = a.block.memory ∧
    read64 e (a.teb.memory + 0x08) = upper ∧ read64 e (a.teb.memory + 0x10) = lower ∧
    read64 e (a.teb.memory + 0x100) = identity := by
  have hfirst : a.vector.memory = a.vector.memory + 0 := rfl
  have hgt : ∀ {i j : Nat}, i + 8 ≤ pageSize → j + 8 ≤ pageSize →
      RangesApart (a.gsArea.memory + i, 8) (a.teb.memory + j, 8) := h.gs_teb.words
  intro e
  refine ⟨?_, ?_, ?_, ?_, ?_, ?_⟩
  · refine Eq.trans (SameOn.read64 (SameOn.zeroBytes (SameOn.write64 (SameOn.write64
      (SameOn.write64 (SameOn.write64 (SameOn.refl _ (a.gsArea.memory + 0x30) 8) ?_) ?_) ?_) ?_) ?_)
      (Nat.le_refl _) (Nat.le_refl _)) (read64_write64 _ _ hteb)
    · exact rangesApart_of_offsets (by decide)
    · exact hgt (by decide) (by decide)
    · exact hgt (by decide) (by decide)
    · exact hgt (by decide) (by decide)
    · exact h.gs_block.word (by decide)
  · refine Eq.trans (SameOn.read64 (SameOn.zeroBytes (SameOn.write64 (SameOn.write64
      (SameOn.write64 (SameOn.refl _ (a.gsArea.memory + 0x58) 8) ?_) ?_) ?_) ?_)
      (Nat.le_refl _) (Nat.le_refl _)) (read64_write64 _ _ hvector)
    · exact hgt (by decide) (by decide)
    · exact hgt (by decide) (by decide)
    · exact hgt (by decide) (by decide)
    · exact h.gs_block.word (by decide)
  · refine Eq.trans (SameOn.read64 (SameOn.zeroBytes (SameOn.write64 (SameOn.write64
      (SameOn.write64 (SameOn.write64 (SameOn.write64 (SameOn.refl _ a.vector.memory 8) ?_) ?_) ?_)
      ?_) ?_) ?_) (Nat.le_refl _) (Nat.le_refl _)) (read64_write64 _ _ hblock)
    · rw [hfirst]
      exact h.gs_vector.symm.words (by decide) (by decide)
    · rw [hfirst]
      exact h.gs_vector.symm.words (by decide) (by decide)
    · rw [hfirst]
      exact h.vector_teb.words (by decide) (by decide)
    · rw [hfirst]
      exact h.vector_teb.words (by decide) (by decide)
    · rw [hfirst]
      exact h.vector_teb.words (by decide) (by decide)
    · rw [hfirst]
      exact h.vector_block.word (by decide)
  · refine Eq.trans (SameOn.read64 (SameOn.zeroBytes (SameOn.write64 (SameOn.write64
      (SameOn.refl _ (a.teb.memory + 0x08) 8) ?_) ?_) ?_)
      (Nat.le_refl _) (Nat.le_refl _)) (read64_write64 _ _ hupper)
    · exact rangesApart_of_offsets (by decide)
    · exact rangesApart_of_offsets (by decide)
    · exact h.block_teb.symm.word (by decide)
  · refine Eq.trans (SameOn.read64 (SameOn.zeroBytes (SameOn.write64
      (SameOn.refl _ (a.teb.memory + 0x10) 8) ?_) ?_)
      (Nat.le_refl _) (Nat.le_refl _)) (read64_write64 _ _ hlower)
    · exact rangesApart_of_offsets (by decide)
    · exact h.block_teb.symm.word (by decide)
  · refine Eq.trans (SameOn.read64 (SameOn.zeroBytes
      (SameOn.refl _ (a.teb.memory + 0x100) 8) ?_)
      (Nat.le_refl _) (Nat.le_refl _)) (read64_write64 _ _ hidentity)
    exact h.block_teb.symm.word (by decide)

/-! ## The check of the new context -/

/-- What a creation found when it got to the registration of the stack. -/
structure CreateCall.Equipped (s : State) (c : CreateCall) (t : ThreadSlot) (o : ObjectSlot) :
    Prop where
  installed : s.installed = true
  entry : c.entry ≠ 0
  stack : c.answers.stack.granted = true
  canary : c.answers.canary.granted = true
  environment : c.answers.environment.granted = true
  thread : freeThread? s = some t
  object : freeObject? s = some o

theorem CreateCall.slots_eq_some {c : CreateCall} (h : c.slots s = some (t, o)) :
    c.Equipped s t o := by
  unfold slots at h
  split at h
  · rename_i hg
    obtain ⟨haccepts, hentry, _, _, _, _, hstack, hcanary, henv⟩ := hg
    simp only [State.accepts, Bool.and_eq_true] at haccepts
    split at h
    · rename_i t' o' ht ho
      cases h
      exact ⟨haccepts.2, hentry, hstack, hcanary, henv, ht, ho⟩
    · cases h
  · cases h

/-- How the six blocks of a creation that got them all lie in memory. -/
structure LaidOut (a : CreateAnswers) : Prop where
  present : a.stack.memory ≠ 0 ∧ a.canary.memory ≠ 0
  stack_aligned : a.stack.memory % pageSize = 0
  stack_fits : a.stack.memory + stackSize < 2 ^ 64
  pages : ∀ p ∈ a.environment.pages, p.1 % pageSize = 0 ∧ p.1 < 2 ^ 64
  environment : PagesApart a.environment
  stack_canary : RangesApart (a.stack.memory, stackSize) (a.canary.memory, pageSize)
  stack_pages : ∀ p ∈ a.environment.pages, RangesApart (a.stack.memory, stackSize) p
  canary_pages : ∀ p ∈ a.environment.pages, RangesApart (a.canary.memory, pageSize) p

theorem CreateCall.Equipped.laidOut {c : CreateCall} (h : c.Equipped s t o)
    (hpages : FreshPages c.answers) : LaidOut c.answers := by
  have henv := h.environment
  unfold EnvironmentAnswers.granted at henv
  simp only [Bool.and_eq_true] at henv
  obtain ⟨⟨⟨hg, hv⟩, hb⟩, ht⟩ := henv
  have hblocks : c.answers.blocks = (c.answers.stack.memory, stackSize) ::
      (c.answers.canary.memory, pageSize) :: c.answers.environment.pages := by
    simp [CreateAnswers.blocks, EnvironmentAnswers.pages, h.stack, h.canary, hg, hv, hb, ht]
  obtain ⟨haligned, hfits, hapart⟩ := hpages
  rw [hblocks] at haligned hfits hapart
  rw [List.pairwise_cons, List.pairwise_cons] at hapart
  obtain ⟨hstack, hcanary, henv⟩ := hapart
  refine ⟨⟨c.answers.stack.memory_ne h.stack, c.answers.canary.memory_ne h.canary⟩,
    haligned _ List.mem_cons_self, hfits _ List.mem_cons_self, fun p hp => ⟨haligned p (by simp [hp]), ?_⟩, ?_,
    hstack _ List.mem_cons_self, fun p hp => hstack p (by simp [hp]), hcanary⟩
  · have := hfits p (by simp [hp])
    omega
  · simp only [EnvironmentAnswers.pages, List.pairwise_cons, List.forall_mem_cons,
      List.not_mem_nil, false_implies, implies_true, and_true, List.Pairwise.nil] at henv
    obtain ⟨⟨hgv, hgb, hgt⟩, ⟨hvb, hvt⟩, hbt⟩ := henv
    exact ⟨hgv, hgb, hgt, hvb, hvt, hbt⟩

/-- The stack ends in its canary, and the return address stands right below that. -/
theorem stack_layout {stack : Nat} (haligned : stack % pageSize = 0)
    (hfits : stack + stackSize < 2 ^ 64) :
    add64 stack stackSize = stack + stackSize ∧
    add64 stack canaryBytes = stack + canaryBytes ∧
    sub64 (stack + stackSize) canaryBytes = stack + 16368 ∧
    returnSlot stack = stack + 16360 := by
  have hsize : add64 stack stackSize = stack + stackSize := Nat.mod_eq_of_lt hfits
  unfold stackSize at hfits hsize ⊢
  unfold pageSize at haligned
  have htop : sub64 (stack + 16384) canaryBytes = stack + 16368 := by
    unfold sub64 canaryBytes
    omega
  refine ⟨hsize, ?_, htop, ?_⟩
  · unfold add64 canaryBytes
    omega
  · unfold returnSlot
    unfold stackSize
    rw [hsize, htop]
    unfold sub64
    omega

/-- Where the return address and the high canary stand in a stack. -/
theorem returnSlot_part (stack : Nat) : PartOf (stack + 16360, 8) (stack, stackSize) := by
  dsimp only [PartOf, stackSize]
  omega

theorem highCanary_part (stack : Nat) :
    PartOf (stack + 16368, canaryBytes) (stack, stackSize) := by
  dsimp only [PartOf, stackSize, canaryBytes]
  omega

theorem lowCanary_part (page : Nat) : PartOf (page, canaryBytes) (page, pageSize) := by
  dsimp only [PartOf, pageSize, canaryBytes]
  omega

/-- The two canaries are in place after a creation. -/
theorem createdMemory_canaries {a : CreateAnswers} (h : LaidOut a) (s : State) {i : Nat}
    (hi : i < canaryBytes) :
    createdMemory s a (a.canary.memory + i) = (0xC1 + i) % 256 ∧
    createdMemory s a (a.stack.memory + 16368 + i) = (0xD7 + i) % 256 := by
  obtain ⟨hlimit, _, htop, hslot⟩ := stack_layout h.stack_aligned h.stack_fits
  have hlow : ∀ q ∈ a.environment.pages, RangesApart (a.canary.memory, canaryBytes) q :=
    fun q hq => (h.canary_pages q hq).part (lowCanary_part _) (PartOf.refl _)
  have hhigh : ∀ q ∈ a.environment.pages, RangesApart (a.stack.memory + 16368, canaryBytes) q :=
    fun q hq => (h.stack_pages q hq).part (highCanary_part _) (PartOf.refl _)
  have hapart : RangesApart (a.canary.memory, canaryBytes) (a.stack.memory + 16368, canaryBytes) :=
    h.stack_canary.symm.part (lowCanary_part _) (highCanary_part _)
  have hslotLow : RangesApart (a.canary.memory, canaryBytes) (a.stack.memory + 16360, 8) :=
    h.stack_canary.symm.part (lowCanary_part _) (returnSlot_part _)
  have hslotHigh : RangesApart (a.stack.memory + 16368, canaryBytes)
      (a.stack.memory + 16360, 8) := by
    unfold RangesApart
    omega
  unfold createdMemory
  simp only [hlimit, htop, hslot]
  obtain ⟨h1, h2⟩ := canaryMemory_holds (zeroBytes (zeroBytes s.machine.memory a.stack.memory
    stackSize) a.canary.memory pageSize) hapart hi
  refine ⟨Eq.trans ?_ h1, Eq.trans ?_ h2⟩
  · exact ((environmentMemory_sameOn _ hlow).write64 hslotLow) _ (Nat.le_add_right _ _)
      (Nat.add_lt_add_left hi _)
  · exact ((environmentMemory_sameOn _ hhigh).write64 hslotHigh) _ (Nat.le_add_right _ _)
      (Nat.add_lt_add_left hi _)

/-- The words of the environment are in place after a creation. -/
theorem createdMemory_reads {a : CreateAnswers} (h : LaidOut a) {s : State}
    (hk : s.nextIdentity < 2 ^ 32) :
    read64 (createdMemory s a) (a.environment.gsArea.memory + 0x30) = a.environment.teb.memory ∧
    read64 (createdMemory s a) (a.environment.gsArea.memory + 0x58) =
      a.environment.vector.memory ∧
    read64 (createdMemory s a) a.environment.vector.memory = a.environment.block.memory ∧
    read64 (createdMemory s a) (a.environment.teb.memory + 0x08) =
      add64 a.stack.memory stackSize ∧
    read64 (createdMemory s a) (a.environment.teb.memory + 0x10) = a.stack.memory ∧
    read64 (createdMemory s a) (a.environment.teb.memory + 0x100) = s.nextIdentity := by
  obtain ⟨hlimit, _, htop, hslot⟩ := stack_layout h.stack_aligned h.stack_fits
  have hfits := h.stack_fits
  have hpages := h.pages
  have hstack := h.stack_pages
  simp only [EnvironmentAnswers.pages, List.forall_mem_cons, List.not_mem_nil, false_implies,
    implies_true, and_true] at hpages hstack
  obtain ⟨⟨_, hg⟩, ⟨_, hv⟩, ⟨_, hb⟩, ⟨_, ht⟩⟩ := hpages
  obtain ⟨hsg, hsv, _, hst⟩ := hstack
  unfold createdMemory
  simp only [hlimit, htop, hslot]
  -- The last store goes to the stack, apart from the pages.
  have hkeep : ∀ {x i : Nat} (e : Nat → Nat), RangesApart (a.stack.memory, stackSize) (x, pageSize) →
      i + 8 ≤ pageSize → read64 (write64 e (a.stack.memory + 16360) s.config.invalidThreadReturn)
        (x + i) = read64 e (x + i) := by
    intro x i e hx hi
    refine SameOn.read64 ((SameOn.refl e (x + i) 8).write64 ?_) (Nat.le_refl _) (Nat.le_refl _)
    exact (hx.symm.word hi).part (PartOf.refl _) (returnSlot_part _)
  generalize canaryMemory _ _ _ = m
  have hlower : a.stack.memory < 2 ^ 64 := by omega
  have hidentity : s.nextIdentity < 2 ^ 64 := by omega
  obtain ⟨h1, h2, h3, h4, h5, h6⟩ :=
    environmentMemory_reads m h.environment hv hb ht hfits hlower hidentity
  refine ⟨(hkeep _ hsg (by decide)).trans h1, (hkeep _ hsg (by decide)).trans h2, ?_,
    (hkeep _ hst (by decide)).trans h4, (hkeep _ hst (by decide)).trans h5,
    (hkeep _ hst (by decide)).trans h6⟩
  have hfirst : a.environment.vector.memory = a.environment.vector.memory + 0 := rfl
  rw [hfirst] at h3 ⊢
  exact (hkeep _ hsv (by decide)).trans h3

/-- The check of the context asks of a new thread only that its addresses are usable. -/
theorem createdState_validates {c : CreateCall} (h : c.Equipped s t o)
    (hpages : FreshPages c.answers) (hk : s.nextIdentity < 2 ^ 32) (identity : Nat) :
    validateThreadContext (createdState s c t o identity) t = c.usable := by
  obtain ⟨hthread, hconfig, hmemory⟩ :=
    createdState_facts h.installed t o h.canary h.environment identity
  have hlaid := h.laidOut hpages
  obtain ⟨hlimit, hlow, htop, hslot⟩ := stack_layout hlaid.stack_aligned hlaid.stack_fits
  obtain ⟨hstack, hcanary⟩ := hlaid.present
  have hcanaries : checkCanaries (createdState s c t o identity) t = true := by
    unfold checkCanaries
    simp only [hthread, hmemory, createdTcb, hlimit, hlow, htop]
    rw [if_neg, List.all_eq_true]
    · intro i hi
      obtain ⟨h1, h2⟩ := createdMemory_canaries hlaid s (List.mem_range.mp hi)
      simp [h1, h2]
    · simp [hstack, hcanary, canaryBytes, stackSize]
  obtain ⟨h1, h2, h3, h4, h5, h6⟩ := createdMemory_reads hlaid hk
  have haligned := hlaid.pages
  simp only [EnvironmentAnswers.pages, List.forall_mem_cons, List.not_mem_nil, false_implies,
    implies_true, and_true] at haligned
  obtain ⟨⟨hg, _⟩, ⟨hv, _⟩, ⟨hb, _⟩, ⟨ht, _⟩⟩ := haligned
  unfold validateThreadContext CreateCall.usable
  simp only [hcanaries, hthread, hconfig, hmemory]
  simp only [createdTcb, h1, h2, h3, h4, h5, h6, alignedPagePointer, hlaid.stack_aligned, hg, hv,
    hb, ht, hlimit, hlow, htop, hslot]
  have hrsp : (c.answers.stack.memory + 16360) % 16 = 8 := by
    have := hlaid.stack_aligned
    unfold pageSize at this
    omega
  simp [hrsp, h.entry, hstack, hcanary, canaryBytes]

end Gate4Harness.Scheduler
