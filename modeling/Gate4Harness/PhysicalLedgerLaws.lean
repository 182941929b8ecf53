-- The laws of the physical ledger. Each of its totals is the sum over the live entries,
-- so taking an entry out never finds a total that is too low, and it undoes exactly the
-- call that put the entry in.
import Gate4Harness.PhysicalLedger

namespace Gate4Harness.Vm

open Tables

variable {l : PhysicalLedger} {x : PhysicalAllocation} {i j : PhysicalSlot}

/-! ## The invariant -/

/-- The sum of a field over the live entries. -/
def PhysicalLedger.sumOf (l : PhysicalLedger) (w : PhysicalAllocation → Nat) : Nat :=
  total (weighed PhysicalAllocation.live w) l.entries

/-- Two live allocations with a place have no address in common. -/
def PhysicalAllocation.ApartFrom (x y : PhysicalAllocation) : Prop :=
  x.live = true → y.live = true → x.base ≠ 0 → y.base ≠ 0 → Apart x.base x.bytes y.base y.bytes

theorem PhysicalAllocation.ApartFrom.symm {x y : PhysicalAllocation} (h : x.ApartFrom y) :
    y.ApartFrom x :=
  fun hy hx hy' hx' => (h hx hy hx' hy').symm

/-- The count and the totals are the sums over the live entries, and they fit. -/
structure PhysicalLedger.Balanced (l : PhysicalLedger) : Prop where
  liveCount : l.liveCount = l.sumOf fun _ => 1
  physicalBytes : l.physicalBytes = l.sumOf PhysicalAllocation.physicalImpactBytes
  commitBytes : l.commitBytes = l.sumOf PhysicalAllocation.commitImpactBytes
  virtualReservationBytes :
    l.virtualReservationBytes = l.sumOf PhysicalAllocation.virtualReservationImpactBytes
  fits : l.physicalBytes ≤ uint64Max ∧ l.commitBytes ≤ uint64Max ∧
    l.virtualReservationBytes ≤ uint64Max

structure PhysicalInv (l : PhysicalLedger) : Prop where
  generation : l.generation ≠ 0
  sound : ∀ i, (l.entries i).live = true →
    (l.entries i).wellFormed = true ∧ (l.entries i).placed = true
  apart : Pairwise fun i j => (l.entries i).ApartFrom (l.entries j)
  empty : ∀ i, (l.entries i).live = false → l.entries i = {}
  balanced : l.Balanced

theorem physicalLedgerInit_inv {generation : Nat} (h : generation ≠ 0) :
    PhysicalInv (physicalLedgerInit generation) := by
  have hzero : ∀ w, (physicalLedgerInit generation).sumOf w = 0 :=
    fun w => total_eq_zero_iff.mpr fun _ => rfl
  refine ⟨h, fun i hi => ?_, fun i j _ hi => ?_, fun _ _ => rfl, ?_⟩
  · cases hi
  · cases hi
  · exact ⟨(hzero _).symm, (hzero _).symm, (hzero _).symm, (hzero _).symm,
      Nat.zero_le _, Nat.zero_le _, Nat.zero_le _⟩

/-- A live entry counts for no more than each total. -/
theorem PhysicalLedger.le_sumOf (w : PhysicalAllocation → Nat)
    (hi : (l.entries i).live = true) : w (l.entries i) ≤ l.sumOf w :=
  le_total_live w hi

theorem PhysicalAllocation.placed_range (hform : x.wellFormed = true) (h : x.placed = true)
    (hbase : x.base ≠ 0) : x.bytes ≠ 0 ∧ x.base + x.bytes ≤ uint64Max := by
  unfold PhysicalAllocation.wellFormed at hform
  unfold PhysicalAllocation.placed rangeEnd at h
  simp only [Bool.and_eq_true, decide_eq_true_eq] at hform
  simp only [hbase, decide_false, Bool.false_or] at h
  split at h
  · cases h
  · exact ⟨hform.1.1.2, by omega⟩

theorem PhysicalAllocation.not_overlaps {y : PhysicalAllocation} (h : x.overlaps y = false)
    (hx : x.base ≠ 0) (hy : y.base ≠ 0) : Apart x.base x.bytes y.base y.bytes := by
  unfold PhysicalAllocation.overlaps at h
  simp only [hx, hy, ne_eq, not_false_eq_true, decide_true, Bool.true_and] at h
  exact rangesOverlap_facts h

/-! ## What a call does -/

/-- A new entry in a free slot. -/
def withPhysical (l : PhysicalLedger) (i : PhysicalSlot) (x : PhysicalAllocation) :
    PhysicalLedger :=
  { l with
    entries := Function.update l.entries i { x with live := true }
    liveCount := l.liveCount + 1
    physicalBytes := l.physicalBytes + x.physicalImpactBytes
    commitBytes := l.commitBytes + x.commitImpactBytes
    virtualReservationBytes := l.virtualReservationBytes + x.virtualReservationImpactBytes }

/-- The ledger without the entry `i`, that counted as much as `x` does. -/
def withoutPhysical (l : PhysicalLedger) (i : PhysicalSlot) (x : PhysicalAllocation) :
    PhysicalLedger :=
  { l with
    entries := Function.update l.entries i {}
    liveCount := l.liveCount - 1
    physicalBytes := l.physicalBytes - x.physicalImpactBytes
    commitBytes := l.commitBytes - x.commitImpactBytes
    virtualReservationBytes := l.virtualReservationBytes - x.virtualReservationImpactBytes }

/-- The answer of a call that fails: nothing is new but the mark that the ledger was full. -/
def PhysicalAnswer.Refuses (answer : PhysicalAnswer) (l : PhysicalLedger) : Prop :=
  answer.status ≠ none ∧ answer.slot = none ∧
  answer.ledger = { l with exhausted := answer.ledger.exhausted }

/-- The three 64-bit impacts of an argument. -/
def PhysicalAllocation.Fits (x : PhysicalAllocation) : Prop :=
  x.physicalImpactBytes ≤ uint64Max ∧ x.commitImpactBytes ≤ uint64Max ∧
  x.virtualReservationImpactBytes ≤ uint64Max

instance (x : PhysicalAllocation) : Decidable x.Fits :=
  inferInstanceAs (Decidable (_ ∧ _ ∧ _))

/-- What `insert` found before it took the slot `i`. -/
structure Admits (l : PhysicalLedger) (x : PhysicalAllocation) (i : PhysicalSlot) : Prop where
  wellFormed : x.wellFormed = true
  placed : x.placed = true
  apart : ∀ j, (l.entries j).live = true → x.overlaps (l.entries j) = false
  physical : (addU64 l.physicalBytes x.physicalImpactBytes).isSome = true
  commit : (addU64 l.commitBytes x.commitImpactBytes).isSome = true
  virtualBytes :
    (addU64 l.virtualReservationBytes x.virtualReservationImpactBytes).isSome = true
  free : (l.entries i).live = false

theorem physicalInsert_cases (l : PhysicalLedger) (allocation : Option PhysicalAllocation)
    (hasSlot : Bool) :
    (physicalInsert l allocation hasSlot).Refuses l ∨
    ∃ x i, allocation = some x ∧ Admits l x i ∧
      physicalInsert l allocation hasSlot = { slot := some i, ledger := withPhysical l i x } := by
  unfold physicalInsert
  cases allocation with
  | none => exact .inl ⟨nofun, rfl, rfl⟩
  | some x =>
    dsimp only
    split
    · exact .inl ⟨nofun, rfl, rfl⟩
    · rename_i hargs
      split
      · exact .inl ⟨nofun, rfl, rfl⟩
      · rename_i hplace
        split
        · exact .inl ⟨nofun, rfl, rfl⟩
        · rename_i hout
          split
          · exact .inl ⟨nofun, rfl, rfl⟩
          · split
            · exact .inl ⟨nofun, rfl, rfl⟩
            · rename_i hsums
              split
              · exact .inl ⟨nofun, rfl, rfl⟩
              · rename_i i hslot
                simp only [not_or, Decidable.not_not] at hargs hplace
                simp only [not_or, Bool.not_eq_true, Option.isNone_eq_false_iff] at hsums
                refine .inr ⟨x, i, rfl, ⟨hargs.2, hplace.1, ?_, hsums.1, hsums.2.1, hsums.2.2,
                  by simpa using List.find?_some hslot⟩, rfl⟩
                intro j hj
                rw [Bool.not_eq_true, List.any_eq_false] at hout
                simpa [hj] using hout j (List.mem_finRange j)

theorem physicalRemove_live (h : PhysicalInv l) (hi : (l.entries i).live = true) :
    physicalRemove l i = { ledger := withoutPhysical l i (l.entries i) } := by
  have hcount := PhysicalLedger.le_sumOf (fun _ => 1) hi
  have h1 := PhysicalLedger.le_sumOf PhysicalAllocation.physicalImpactBytes hi
  have h2 := PhysicalLedger.le_sumOf PhysicalAllocation.commitImpactBytes hi
  have h3 := PhysicalLedger.le_sumOf PhysicalAllocation.virtualReservationImpactBytes hi
  rw [← h.balanced.liveCount] at hcount
  rw [← h.balanced.physicalBytes] at h1
  rw [← h.balanced.commitBytes] at h2
  rw [← h.balanced.virtualReservationBytes] at h3
  unfold physicalRemove
  rw [dif_pos i.isLt]
  dsimp only
  rw [if_neg]
  · rfl
  · simp only [Fin.eta, hi, not_true_eq_false, false_or]
    omega

theorem physicalRemove_cases (l : PhysicalLedger) (slot : Nat) :
    (physicalRemove l slot).Refuses l ∨
    ∃ i : PhysicalSlot, slot = i ∧ (l.entries i).live = true := by
  by_cases hslot : slot < physicalLedgerCapacity
  · by_cases hlive : (l.entries ⟨slot, hslot⟩).live = true
    · exact .inr ⟨⟨slot, hslot⟩, rfl, hlive⟩
    · left
      unfold physicalRemove
      rw [dif_pos hslot]
      dsimp only
      rw [if_pos (Or.inl hlive)]
      exact ⟨nofun, rfl, rfl⟩
  · left
    unfold physicalRemove
    rw [dif_neg hslot]
    exact ⟨nofun, rfl, rfl⟩

/-! ## The invariant is kept -/

theorem addU64_fits {left right : Nat} (hright : right ≤ uint64Max)
    (h : (addU64 left right).isSome = true) : left + right ≤ uint64Max := by
  unfold addU64 at h
  split at h
  · cases h
  · omega

theorem withPhysical_inv (h : PhysicalInv l) (hx : Admits l x i) (hfits : x.Fits) :
    PhysicalInv (withPhysical l i x) := by
  have hsum : ∀ w : PhysicalAllocation → Nat, (withPhysical l i x).sumOf w =
      l.sumOf w + w { x with live := true } := fun w => total_fill w hx.free rfl
  obtain ⟨hgen, hsound, hapart, hempty, hb⟩ := h
  refine ⟨hgen, ?_, ?_, ?_, ?_⟩
  · apply forall_update (P := fun y : PhysicalAllocation =>
      y.live = true → y.wellFormed = true ∧ y.placed = true) hsound
    intro _
    exact ⟨hx.wellFormed, hx.placed⟩
  · apply pairwise_update (R := PhysicalAllocation.ApartFrom)
      (fun _ _ => PhysicalAllocation.ApartFrom.symm) hapart
    intro j _ _ hj hxbase hjbase
    exact PhysicalAllocation.not_overlaps (hx.apart j hj) hxbase hjbase
  · apply forall_update (P := fun y : PhysicalAllocation => y.live = false → y = {}) hempty
    intro hno
    cases hno
  · refine ⟨?_, ?_, ?_, ?_, addU64_fits hfits.1 hx.physical, addU64_fits hfits.2.1 hx.commit,
      addU64_fits hfits.2.2 hx.virtualBytes⟩
    · rw [hsum, ← hb.liveCount]
      rfl
    · rw [hsum, ← hb.physicalBytes]
      rfl
    · rw [hsum, ← hb.commitBytes]
      rfl
    · rw [hsum, ← hb.virtualReservationBytes]
      rfl

theorem withoutPhysical_inv (h : PhysicalInv l) (hi : (l.entries i).live = true) :
    PhysicalInv (withoutPhysical l i (l.entries i)) := by
  have hsum : ∀ w : PhysicalAllocation → Nat,
      (withoutPhysical l i (l.entries i)).sumOf w = l.sumOf w - w (l.entries i) := by
    intro w
    have := total_clear (x := ({} : PhysicalAllocation)) w hi rfl
    exact (Nat.sub_eq_of_eq_add this.symm).symm
  obtain ⟨hgen, hsound, hapart, hempty, hb⟩ := h
  obtain ⟨h1, h2, h3⟩ := hb.fits
  refine ⟨hgen, ?_, ?_, ?_, ?_⟩
  · apply forall_update (P := fun y : PhysicalAllocation =>
      y.live = true → y.wellFormed = true ∧ y.placed = true) hsound
    intro hno
    cases hno
  · apply pairwise_update (R := PhysicalAllocation.ApartFrom)
      (fun _ _ => PhysicalAllocation.ApartFrom.symm) hapart
    intro j _ hno
    cases hno
  · exact forall_update (P := fun y : PhysicalAllocation => y.live = false → y = {}) hempty
      fun _ => rfl
  · refine ⟨?_, ?_, ?_, ?_, Nat.le_trans (Nat.sub_le _ _) h1, Nat.le_trans (Nat.sub_le _ _) h2,
      Nat.le_trans (Nat.sub_le _ _) h3⟩
    · rw [hsum, ← hb.liveCount]
      rfl
    · rw [hsum, ← hb.physicalBytes]
      rfl
    · rw [hsum, ← hb.commitBytes]
      rfl
    · rw [hsum, ← hb.virtualReservationBytes]
      rfl

theorem PhysicalInv.refused {l' : PhysicalLedger} {mark : Bool} (h : PhysicalInv l)
    (hl : l' = { l with exhausted := mark }) : PhysicalInv l' := by
  subst hl
  exact ⟨h.generation, h.sound, h.apart, h.empty, h.balanced.liveCount, h.balanced.physicalBytes,
    h.balanced.commitBytes, h.balanced.virtualReservationBytes, h.balanced.fits⟩

/-! ## The ledger is valid -/

/-- Where the loop over the entries stands after those in `done`. -/
structure PhysicalsAt (l : PhysicalLedger) (done : List PhysicalSlot) (t : PhysicalTally) :
    Prop where
  liveCount : t.liveCount =
    totalOver (weighed PhysicalAllocation.live fun _ => 1) l.entries done
  physical : t.physical = totalOver (weighed PhysicalAllocation.live
    PhysicalAllocation.physicalImpactBytes) l.entries done
  commit : t.commit = totalOver (weighed PhysicalAllocation.live
    PhysicalAllocation.commitImpactBytes) l.entries done
  virtualBytes : t.virtualBytes = totalOver (weighed PhysicalAllocation.live
    PhysicalAllocation.virtualReservationImpactBytes) l.entries done

/-- No other live entry meets a live one. -/
theorem PhysicalInv.no_overlap (h : PhysicalInv l) (hi : (l.entries i).live = true)
    (hij : i ≠ j) (hj : (l.entries j).live = true) :
    (l.entries i).overlaps (l.entries j) = false := by
  unfold PhysicalAllocation.overlaps
  by_cases hbase : (l.entries i).base ≠ 0 ∧ (l.entries j).base ≠ 0
  · obtain ⟨hb, hf⟩ := PhysicalAllocation.placed_range (h.sound i hi).1 (h.sound i hi).2 hbase.1
    obtain ⟨hb', hf'⟩ := PhysicalAllocation.placed_range (h.sound j hj).1 (h.sound j hj).2 hbase.2
    have := (h.apart hij hi hj hbase.1 hbase.2).rangesOverlap hb hb' hf hf'
    simp [this]
  · rw [not_and_or, not_not, not_not] at hbase
    rcases hbase with h0 | h0 <;> simp [h0]

/-- The next addition of the loop does not overflow, as the whole sum does not. -/
theorem scan_adds {w : PhysicalAllocation → Nat} {done rest : List PhysicalSlot} {sum : Nat}
    (hl : List.finRange physicalLedgerCapacity = done ++ i :: rest)
    (hi : (l.entries i).live = true)
    (hsum : sum = totalOver (weighed PhysicalAllocation.live w) l.entries done)
    (hfits : l.sumOf w ≤ uint64Max) :
    addU64 sum (w (l.entries i)) = some (sum + w (l.entries i)) := by
  have hle := totalOver_add_le (weighed PhysicalAllocation.live w) l.entries hl
  rw [weighed_live hi, ← hsum] at hle
  unfold addU64
  rw [if_neg]
  unfold PhysicalLedger.sumOf at hfits
  omega

theorem scanPhysical_goes_on (h : PhysicalInv l) (done : List PhysicalSlot) (i : PhysicalSlot)
    (rest : List PhysicalSlot) (t : PhysicalTally)
    (hl : List.finRange physicalLedgerCapacity = done ++ i :: rest) (ht : PhysicalsAt l done t) :
    ∃ t', scanPhysical l (some t) i = some t' ∧ PhysicalsAt l (done ++ [i]) t' := by
  unfold scanPhysical
  by_cases hi : (l.entries i).live = true
  · have hothers : ((List.finRange physicalLedgerCapacity).any fun j =>
        decide (i < j) && (l.entries j).live && (l.entries i).overlaps (l.entries j)) = false := by
      rw [List.any_eq_false]
      intro j _
      by_cases hj : i < j ∧ (l.entries j).live = true
      · simp [h.no_overlap hi (ne_of_lt hj.1) hj.2]
      · simp only [Bool.and_eq_true, decide_eq_true_eq]
        rintro ⟨hj', _⟩
        exact hj hj'
    have hfits := h.balanced.fits
    rw [h.balanced.physicalBytes, h.balanced.commitBytes, h.balanced.virtualReservationBytes]
      at hfits
    have h1 := scan_adds hl hi ht.physical hfits.1
    have h2 := scan_adds hl hi ht.commit hfits.2.1
    have h3 := scan_adds hl hi ht.virtualBytes hfits.2.2
    refine ⟨{ liveCount := t.liveCount + 1
              physical := t.physical + (l.entries i).physicalImpactBytes
              commit := t.commit + (l.entries i).commitImpactBytes
              virtualBytes := t.virtualBytes + (l.entries i).virtualReservationImpactBytes },
      ?_, ?_, ?_, ?_, ?_⟩
    · simp [hi, (h.sound i hi).1, (h.sound i hi).2, hothers, h1, h2, h3]
    · rw [totalOver_append, weighed_live hi, ← ht.liveCount]
    · rw [totalOver_append, weighed_live hi, ← ht.physical]
    · rw [totalOver_append, weighed_live hi, ← ht.commit]
    · rw [totalOver_append, weighed_live hi, ← ht.virtualBytes]
  · have hdead : (l.entries i).live = false := by simpa using hi
    refine ⟨t, by simp [hdead], ?_, ?_, ?_, ?_⟩
    · rw [totalOver_append, weighed_dead hdead, ← ht.liveCount, Nat.add_zero]
    · rw [totalOver_append, weighed_dead hdead, ← ht.physical, Nat.add_zero]
    · rw [totalOver_append, weighed_dead hdead, ← ht.commit, Nat.add_zero]
    · rw [totalOver_append, weighed_dead hdead, ← ht.virtualBytes, Nat.add_zero]

theorem PhysicalInv.validate (h : PhysicalInv l) : physicalLedgerValidate l = true := by
  obtain ⟨t, hscan, ht⟩ : ∃ t,
      (List.finRange physicalLedgerCapacity).foldl (scanPhysical l) (some {}) = some t ∧
      PhysicalsAt l (List.finRange physicalLedgerCapacity) t :=
    foldl_goes_on ⟨rfl, rfl, rfl, rfl⟩ (scanPhysical_goes_on h)
  have h1 : t.liveCount = l.liveCount := by
    rw [ht.liveCount, totalOver_all, h.balanced.liveCount]
    rfl
  have h2 : t.physical = l.physicalBytes := by
    rw [ht.physical, totalOver_all, h.balanced.physicalBytes]
    rfl
  have h3 : t.commit = l.commitBytes := by
    rw [ht.commit, totalOver_all, h.balanced.commitBytes]
    rfl
  have h4 : t.virtualBytes = l.virtualReservationBytes := by
    rw [ht.virtualBytes, totalOver_all, h.balanced.virtualReservationBytes]
    rfl
  unfold physicalLedgerValidate
  rw [if_neg h.generation, hscan]
  simp only [h1, h2, h3, h4, decide_true, Bool.and_self]

/-! ## Runs -/

inductive PhysicalOp
  | insert (allocation : Option PhysicalAllocation) (hasSlot : Bool)
  | remove (slot : Nat)
  deriving DecidableEq, Repr

def physicalCall (l : PhysicalLedger) : PhysicalOp → PhysicalAnswer
  | .insert allocation hasSlot => physicalInsert l allocation hasSlot
  | .remove slot => physicalRemove l slot

def physicalStep (l : PhysicalLedger) (op : PhysicalOp) : PhysicalLedger :=
  (physicalCall l op).ledger

/-- The fields of an argument are 64-bit values. -/
def PhysicalOp.Fits : PhysicalOp → Prop
  | .insert allocation _ => ∀ x ∈ allocation, x.Fits
  | .remove _ => True

/-- What the callers know: the allocation that they inserted at each slot and did not remove
yet. -/
abbrev Booked := PhysicalSlot → Option PhysicalAllocation

def physicalNote (l : PhysicalLedger) (op : PhysicalOp) (n : Booked) : Booked :=
  match op, (physicalCall l op).status, (physicalCall l op).slot with
  | .insert allocation _, none, some i => Function.update n i allocation
  | .remove slot, none, _ => fun i => if i.val = slot then none else n i
  | _, _, _ => n

/-- Each entry is the allocation that is booked at its slot. -/
def Books (l : PhysicalLedger) (n : Booked) : Prop :=
  ∀ i, l.entries i =
    match n i with
    | some x => { x with live := true }
    | none => {}

theorem physicalCall_cases (h : PhysicalInv l) (op : PhysicalOp) :
    (physicalCall l op).Refuses l ∨ (physicalCall l op).status = none := by
  cases op with
  | insert allocation hasSlot =>
    rcases physicalInsert_cases l allocation hasSlot with hno | ⟨x, i, -, -, hyes⟩
    · exact .inl hno
    · right
      simp only [physicalCall, hyes]
  | remove slot =>
    rcases physicalRemove_cases l slot with hno | ⟨i, rfl, hi⟩
    · exact .inl hno
    · right
      simp only [physicalCall, physicalRemove_live h hi]

theorem physicalStep_keeps {n : Booked} (h : PhysicalInv l) (hbooks : Books l n) {op : PhysicalOp}
    (hfits : op.Fits) :
    PhysicalInv (physicalStep l op) ∧ Books (physicalStep l op) (physicalNote l op n) := by
  have hrefuses : (physicalCall l op).Refuses l →
      PhysicalInv (physicalStep l op) ∧ Books (physicalStep l op) (physicalNote l op n) := by
    rintro ⟨hstatus, -, hledger⟩
    obtain ⟨e, he⟩ := Option.ne_none_iff_exists'.mp hstatus
    have hnote : physicalNote l op n = n := by
      unfold physicalNote
      rw [he]
      cases op <;> rfl
    refine ⟨h.refused hledger, ?_⟩
    rw [hnote]
    intro i
    rw [physicalStep, hledger]
    exact hbooks i
  cases op with
  | insert allocation hasSlot =>
    rcases physicalInsert_cases l allocation hasSlot with hno | ⟨x, i, rfl, hx, hyes⟩
    · exact hrefuses hno
    · simp only [physicalNote, physicalStep, physicalCall, hyes]
      refine ⟨withPhysical_inv h hx (hfits x rfl), fun j => ?_⟩
      by_cases hj : j = i
      · subst hj
        simp [withPhysical]
      · simpa [withPhysical, hj] using hbooks j
  | remove slot =>
    rcases physicalRemove_cases l slot with hno | ⟨i, rfl, hi⟩
    · exact hrefuses hno
    · simp only [physicalNote, physicalStep, physicalCall, physicalRemove_live h hi]
      refine ⟨withoutPhysical_inv h hi, fun j => ?_⟩
      by_cases hj : j = i
      · subst hj
        simp [withoutPhysical]
      · have : j.val ≠ i.val := fun he => hj (Fin.ext he)
        simpa [withoutPhysical, hj, this] using hbooks j

def FreshPhysicalLedger (l : PhysicalLedger) : Prop :=
  ∃ generation, generation ≠ 0 ∧ l = physicalLedgerInit generation

/-- The ledgers that a run of calls reaches, each with what the callers know. -/
def PhysicalReach (l : PhysicalLedger) (n : Booked) : Prop :=
  Runs.ReachNoting FreshPhysicalLedger physicalStep (fun _ op => op.Fits) (fun _ _ => none)
    physicalNote l n

/-- A slot that was just taken is given back: the ledger is as it was before. -/
theorem remove_after_insert (h : PhysicalInv l) (hx : Admits l x i) (hfits : x.Fits) :
    physicalRemove (withPhysical l i x) i = { ledger := l } := by
  have hlive : ((withPhysical l i x).entries i).live = true := by simp [withPhysical]
  rw [physicalRemove_live (withPhysical_inv h hx hfits) hlive]
  have hentry := h.empty i hx.free
  cases l with
  | mk entries liveCount exhausted physicalBytes commitBytes virtualBytes generation =>
    dsimp only at hentry
    simp only [withPhysical, withoutPhysical, Function.update_self, Function.update_idem,
      Nat.add_sub_cancel, ← hentry, Function.update_eq_self]

/-- After any run of calls the ledger is valid: the live entries that have a place are apart,
and the count and the totals are the sums over the live entries, with no wrap. A live slot can
always be removed. A removal right after the insertion that gave the slot restores the ledger,
and a later one takes out just what was inserted. A call that fails changes nothing but the
mark that the ledger was full. -/
theorem physical_ledger_is_balanced {n : Booked} (h : PhysicalReach l n) :
    physicalLedgerValidate l = true ∧
    (Pairwise fun i j => (l.entries i).ApartFrom (l.entries j)) ∧ l.Balanced ∧
    (∀ i : PhysicalSlot, (l.entries i).live = true → (physicalRemove l i).status = none) ∧
    (∀ x hasSlot i, x.Fits → (physicalInsert l (some x) hasSlot).slot = some i →
      physicalRemove (physicalInsert l (some x) hasSlot).ledger i = { ledger := l }) ∧
    (∀ i x, n i = some x → l.entries i = { x with live := true } ∧
      physicalRemove l i = { ledger := withoutPhysical l i x }) ∧
    ∀ op, (physicalCall l op).status ≠ none → (physicalCall l op).Refuses l := by
  have hall : PhysicalInv l ∧ Books l n := by
    apply Runs.ReachNoting.invariant (P := fun l (n : Booked) => PhysicalInv l ∧ Books l n) h
    · rintro l ⟨generation, hgen, rfl⟩
      exact ⟨physicalLedgerInit_inv hgen, fun _ => rfl⟩
    · intro l n op _ ih hfits
      exact physicalStep_keeps ih.1 ih.2 hfits
  obtain ⟨hinv, hbooks⟩ := hall
  refine ⟨hinv.validate, hinv.apart, hinv.balanced, ?_, ?_, ?_, ?_⟩
  · intro i hi
    rw [physicalRemove_live hinv hi]
  · intro x hasSlot i hfits hslot
    rcases physicalInsert_cases l (some x) hasSlot with hno | ⟨y, j, hy, hx, hyes⟩
    · rw [hno.2.1] at hslot
      cases hslot
    · cases hy
      rw [hyes] at hslot ⊢
      cases hslot
      exact remove_after_insert hinv hx hfits
  · intro i x hx
    have hentry := hbooks i
    rw [hx] at hentry
    refine ⟨hentry, ?_⟩
    rw [physicalRemove_live hinv (by rw [hentry])]
    simp only [withoutPhysical, hentry]
  · intro op hfails
    rcases physicalCall_cases hinv op with hno | hyes
    · exact hno
    · exact absurd hyes hfails

/-- A range and an entry with no place, and then the range is taken out. -/
def samplePhysicalOps : List PhysicalOp :=
  [.insert (some { base := 0x5000, bytes := 0x1800, pages := 2, physicalImpactBytes := 0x2000
                   commitImpactBytes := 0x1800, generation := 1 }) true,
    .insert (some { bytes := 0x40, commitImpactBytes := 0x40, owner := 5
                    generation := 1 }) true,
    .remove 0]

theorem sample_physical_ledger_is_balanced :
    physicalLedgerValidate (Runs.run physicalStep (physicalLedgerInit 1) samplePhysicalOps) = true ∧
    (Runs.run physicalStep (physicalLedgerInit 1) samplePhysicalOps).commitBytes = 0x40 := by
  have hstart : PhysicalReach (physicalLedgerInit 1) (fun _ => none) :=
    .start ⟨⟨1, by decide, rfl⟩, rfl⟩
  have hfits : ∀ op ∈ samplePhysicalOps, op.Fits := by
    intro op hop
    simp only [samplePhysicalOps, List.mem_cons, List.not_mem_nil, or_false] at hop
    rcases hop with rfl | rfl | rfl
    · rintro x ⟨⟩
      decide
    · rintro x ⟨⟩
      decide
    · trivial
  have hreach := Runs.ReachNoting.run hstart samplePhysicalOps fun _ op hop => hfits op hop
  exact ⟨(physical_ledger_is_balanced hreach).1, by decide +kernel⟩

end Gate4Harness.Vm
