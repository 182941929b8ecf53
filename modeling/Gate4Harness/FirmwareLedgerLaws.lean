-- The laws of the accounting calls. Whatever their order, the live entries of the ledger
-- are the blocks that the firmware has out, as each entry remembers the form in which its
-- block was given.
import Gate4Harness.FirmwareLedger
import Gate4Harness.PhysicalLedgerLaws

namespace Gate4Harness.Accounting

open Vm

variable {s : Epoch} {blocks rest : List Block} {b c : Block} {form : Form} {base : Nat}
  {x : PhysicalAllocation} {l : PhysicalLedger} {i : PhysicalSlot}

/-! ## What is claimed -/

/-- The bases and sizes of the live entries. -/
def liveRanges (l : PhysicalLedger) : List (Nat × Nat) :=
  ((List.finRange physicalLedgerCapacity).filter fun i => (l.entries i).live).map
    fun i => ((l.entries i).base, (l.entries i).bytes)

/-- The live entries are exactly the blocks outstanding at the firmware. -/
def Mirrors (s : Epoch) : Prop :=
  (liveRanges s.ledger).Perm (s.outstanding.map fun b => (b.base, b.bytes))

/-- A block is fresh, not at 0, and meets no block that is out. An error is one. -/
def Grant.Conforms (blocks : List Block) (bytes : Nat) : Grant → Prop
  | .block base => base ≠ 0 ∧ ∀ b ∈ blocks, Apart base bytes b.base b.bytes
  | .error status => 2 ^ 63 ≤ status

/-- What the firmware keeps to, and the callers of `vm_uefi_free_page`. The sizes in the
arguments are 64-bit values. -/
def Conforms (s : Epoch) : Op → Prop
  | .allocatePool size _ grant => size ≤ uint64Max ∧ grant.Conforms s.outstanding size
  | .freePool _ refusal => 2 ^ 63 ≤ refusal
  | .allocatePages pages _ grant => grant.Conforms s.outstanding (pages * efiPageSize)
  | .freePages _ _ refusal => 2 ^ 63 ≤ refusal
  | .allocatePage context _ _ grant =>
    context.commitImpactBytes ≤ uint64Max ∧ grant.Conforms s.outstanding efiPageSize
  | .freePage physicalAddress => ⟨.pages 1, physicalAddress, efiPageSize⟩ ∈ s.outstanding

instance (base bytes base' bytes' : Nat) : Decidable (Apart base bytes base' bytes') :=
  inferInstanceAs (Decidable (_ ∨ _))

instance (blocks : List Block) (bytes : Nat) : ∀ grant : Grant,
    Decidable (grant.Conforms blocks bytes)
  | .block base => inferInstanceAs (Decidable (base ≠ 0 ∧ ∀ b ∈ blocks, Apart _ _ _ _))
  | .error status => inferInstanceAs (Decidable (2 ^ 63 ≤ status))

instance (s : Epoch) : ∀ op, Decidable (Conforms s op)
  | .allocatePool _ _ _ => inferInstanceAs (Decidable (_ ∧ _))
  | .freePool _ refusal => inferInstanceAs (Decidable (2 ^ 63 ≤ refusal))
  | .allocatePages _ _ grant => inferInstanceAs (Decidable (grant.Conforms _ _))
  | .freePages _ _ refusal => inferInstanceAs (Decidable (2 ^ 63 ≤ refusal))
  | .allocatePage _ _ _ _ => inferInstanceAs (Decidable (_ ∧ _))
  | .freePage _ => inferInstanceAs (Decidable (_ ∈ _))

/-- An epoch begins with an empty ledger, and nothing that the ledger counts is out. -/
structure Begins (s : Epoch) : Prop where
  ledger : ∃ generation ≠ 0, s.ledger = physicalLedgerInit generation
  generation : s.accountingGeneration ≤ 2 ^ 63
  active : s.epochActive = true
  outstanding : s.outstanding = []

/-- The same entries and the same blocks. -/
def SameBlocks (s next : Epoch) : Prop :=
  next.ledger.entries = s.ledger.entries ∧ next.outstanding = s.outstanding

/-- The call returns, and one that says that it failed has changed nothing. -/
def Returns (s : Epoch) (op : Op) : Prop :=
  ∃ answer next, call s op = .ok (answer, next) ∧ (op.Failed answer → SameBlocks s next)

/-! ## The blocks of the firmware -/

def Block.ApartFrom (b c : Block) : Prop := Apart b.base b.bytes c.base c.bytes

instance : Std.Symm Block.ApartFrom := ⟨fun _ _ h => Or.symm h⟩

/-- No two blocks that are out meet, and none is empty or at 0. -/
structure Sound (blocks : List Block) : Prop where
  apart : blocks.Pairwise Block.ApartFrom
  placed : ∀ b ∈ blocks, b.base ≠ 0 ∧ b.bytes ≠ 0

theorem apart_base_ne {base bytes base' bytes' : Nat} (h : Apart base bytes base' bytes')
    (hb : bytes ≠ 0) (hb' : bytes' ≠ 0) : base ≠ base' := by
  unfold Apart at h
  omega

/-- The base says which block it is. -/
theorem Sound.eq_of_base (h : Sound blocks) (hb : b ∈ blocks) (hc : c ∈ blocks)
    (hbase : b.base = c.base) : b = c := by
  by_contra hne
  exact apart_base_ne (h.apart.forall hb hc hne) (h.placed b hb).2 (h.placed c hc).2 hbase

theorem takeBack_eq_some (hmem : b ∈ blocks) (hform : b.form = form) (hbase : b.base = base) :
    takeBack blocks form base =
      some (blocks.filter fun c => !decide (c.form = form ∧ c.base = base)) := by
  unfold takeBack
  rw [if_pos]
  rw [List.any_eq_true]
  exact ⟨b, hmem, by simp [hform, hbase]⟩

theorem takeBack_some (h : takeBack blocks form base = some rest) :
    (∃ b ∈ blocks, b.form = form ∧ b.base = base) ∧
    rest = blocks.filter fun c => !decide (c.form = form ∧ c.base = base) := by
  unfold takeBack at h
  split at h
  · rename_i hany
    rw [List.any_eq_true] at hany
    obtain ⟨b, hb, hform⟩ := hany
    refine ⟨⟨b, hb, by simpa using hform⟩, ?_⟩
    injection h with h
    exact h.symm
  · cases h

/-- Of sound blocks, exactly one goes back. -/
theorem Sound.mem_takeBack (h : Sound blocks) (hb : b ∈ blocks)
    (hrest : takeBack blocks b.form b.base = some rest) : c ∈ rest ↔ c ∈ blocks ∧ c ≠ b := by
  rw [(takeBack_some hrest).2, List.mem_filter]
  refine and_congr_right fun hc => ?_
  simp only [Bool.not_eq_true', decide_eq_false_iff_not]
  constructor
  · rintro hno rfl
    exact hno ⟨rfl, rfl⟩
  · rintro hne ⟨-, hbase⟩
    exact hne (h.eq_of_base hc hb hbase)

theorem Sound.takeBack (h : Sound blocks) (hrest : takeBack blocks form base = some rest) :
    Sound rest := by
  rw [(takeBack_some hrest).2]
  exact ⟨h.apart.filter _, fun b hb => h.placed b (List.mem_filter.mp hb).1⟩

/-- The newest block goes back, and the others stay. -/
theorem Sound.giveBack_new (h : Sound (b :: blocks)) :
    Accounting.takeBack (b :: blocks) b.form b.base = some blocks := by
  rw [takeBack_eq_some List.mem_cons_self rfl rfl, List.filter_cons_of_neg (by simp)]
  congr 1
  rw [List.filter_eq_self]
  intro c hc
  have hapart := (List.pairwise_cons.mp h.apart).1 c hc
  have hne := apart_base_ne hapart (h.placed b List.mem_cons_self).2
    (h.placed c (List.mem_cons_of_mem b hc)).2
  simp only [Bool.not_eq_true', decide_eq_false_iff_not]
  exact fun heq => hne heq.2.symm

/-! ## The invariant -/

/-- An entry is the one of a block. -/
structure Books (x : PhysicalAllocation) (b : Block) : Prop where
  base : x.base = b.base
  bytes : x.bytes = b.bytes
  form :
    match b.form with
    | .pool => x.pages = 0 ∧ x.virtualReservationImpactBytes = 0
    | .pages count => x.pages = count ∧ count ≠ 0

structure EpochInv (s : Epoch) : Prop where
  ledger : PhysicalInv s.ledger
  sound : Sound s.outstanding
  booked : ∀ b ∈ s.outstanding, ∃ i, (s.ledger.entries i).live = true ∧
    Books (s.ledger.entries i) b
  backed : ∀ i, (s.ledger.entries i).live = true → ∃ b ∈ s.outstanding,
    Books (s.ledger.entries i) b
  active : s.epochActive = true

theorem Begins.inv (h : Begins s) : EpochInv s := by
  obtain ⟨generation, hgen, hledger⟩ := h.ledger
  have hnone : ∀ b, b ∉ s.outstanding := by simp [h.outstanding]
  refine ⟨?_, ⟨?_, fun b hb => absurd hb (hnone b)⟩, fun b hb => absurd hb (hnone b), ?_, h.active⟩
  · rw [hledger]
    exact physicalLedgerInit_inv hgen
  · rw [h.outstanding]
    exact List.Pairwise.nil
  · intro i hi
    rw [hledger] at hi
    cases hi

/-- The slot of an entry with a base is known by the base. -/
theorem EpochInv.slot_unique {j : PhysicalSlot} (h : EpochInv s)
    (hi : (s.ledger.entries i).live = true) (hj : (s.ledger.entries j).live = true)
    (hbase : (s.ledger.entries i).base = (s.ledger.entries j).base) : i = j := by
  by_contra hne
  obtain ⟨b, hb, hbooks⟩ := h.backed i hi
  obtain ⟨c, hc, hbooks'⟩ := h.backed j hj
  have hb0 := h.sound.placed b hb
  have hc0 := h.sound.placed c hc
  rw [← hbooks.base, ← hbooks.bytes] at hb0
  rw [← hbooks'.base, ← hbooks'.bytes] at hc0
  exact apart_base_ne (h.ledger.apart hne hi hj hb0.1 hc0.1) hb0.2 hc0.2 hbase

/-- The entry at the base of a block that is out is the block's entry. -/
theorem EpochInv.books_at (h : EpochInv s) (hb : b ∈ s.outstanding)
    (hi : (s.ledger.entries i).live = true) (hbase : (s.ledger.entries i).base = b.base) :
    Books (s.ledger.entries i) b := by
  obtain ⟨c, hc, hbooks⟩ := h.backed i hi
  rw [h.sound.eq_of_base hb hc (hbase.symm.trans hbooks.base)]
  exact hbooks

/-- In each state of the invariant the ledger mirrors the firmware. -/
theorem EpochInv.mirrors (h : EpochInv s) : Mirrors s := by
  unfold Mirrors
  rw [List.perm_ext_iff_of_nodup]
  · rintro ⟨base, bytes⟩
    unfold liveRanges
    simp only [List.mem_map, List.mem_filter, List.mem_finRange, true_and, Prod.mk.injEq]
    constructor
    · rintro ⟨i, hi, rfl, rfl⟩
      obtain ⟨b, hb, hbooks⟩ := h.backed i hi
      exact ⟨b, hb, hbooks.base.symm, hbooks.bytes.symm⟩
    · rintro ⟨b, hb, rfl, rfl⟩
      obtain ⟨i, hi, hbooks⟩ := h.booked b hb
      exact ⟨i, hi, hbooks.base, hbooks.bytes⟩
  · apply ((List.nodup_finRange _).filter _).map_on
    intro i hi j hj heq
    exact h.slot_unique (List.mem_filter.mp hi).2 (List.mem_filter.mp hj).2 (Prod.ext_iff.mp heq).1
  · rw [List.Nodup, List.pairwise_map]
    apply h.sound.apart.imp_of_mem
    intro b c hb hc hapart heq
    exact apart_base_ne hapart (h.sound.placed b hb).2 (h.sound.placed c hc).2
      (Prod.ext_iff.mp heq).1

/-! ## Blocks come and go -/

/-- A call that settles: it returns in the invariant and counts at most one mutation, and
changes nothing if it says that it failed. -/
def Settles (s : Epoch) (failed : Answer → Prop) (result : Call) : Prop :=
  ∃ answer next, result = .ok (answer, next) ∧ EpochInv next ∧
    next.accountingGeneration ≤ s.accountingGeneration + 1 ∧ (failed answer → SameBlocks s next)

/-- A call that gives up at once leaves the state alone. -/
theorem EpochInv.settles_same {failed : Answer → Prop} (h : EpochInv s) (answer : Answer) :
    Settles s failed (.ok (answer, s)) :=
  ⟨answer, s, rfl, h, Nat.le_succ _, fun _ => ⟨rfl, rfl⟩⟩

theorem noteMutation_ok (h : s.accountingGeneration < uint64Max) :
    noteMutation s = .ok { s with accountingGeneration := s.accountingGeneration + 1 } := by
  unfold noteMutation
  rw [if_neg h.ne]

/-- The state with one mutation more. -/
theorem EpochInv.noted {generation : Nat} (h : EpochInv s) :
    EpochInv { s with accountingGeneration := generation } :=
  ⟨h.ledger, h.sound, h.booked, h.backed, h.active⟩

/-- The block that a new entry is for. -/
structure Fits (s : Epoch) (b : Block) (x : PhysicalAllocation) : Prop where
  base : b.base ≠ 0
  bytes : b.bytes ≠ 0
  apart : ∀ c ∈ s.outstanding, b.ApartFrom c
  books : Books x b
  fits : x.Fits

theorem Fits.sound (hx : Fits s b x) (h : EpochInv s) : Sound (b :: s.outstanding) :=
  ⟨List.pairwise_cons.mpr ⟨hx.apart, h.sound.apart⟩,
    List.forall_mem_cons.mpr ⟨⟨hx.base, hx.bytes⟩, h.sound.placed⟩⟩

/-- A block that the ledger has no room for goes back, and all is as before. -/
theorem Fits.rejected (hx : Fits s b x) (h : EpochInv s) {l : PhysicalLedger}
    (hl : l = { s.ledger with exhausted := l.exhausted }) :
    EpochInv ({ s.handOut b with ledger := l }.giveBack b.form b.base) ∧
    SameBlocks s ({ s.handOut b with ledger := l }.giveBack b.form b.base) := by
  have hback : ({ s.handOut b with ledger := l }.giveBack b.form b.base).outstanding =
      s.outstanding := by
    simp only [Epoch.giveBack, Epoch.handOut, (hx.sound h).giveBack_new, Option.getD_some]
  have hentries : l.entries = s.ledger.entries := by rw [hl]
  refine ⟨⟨h.ledger.refused hl, ?_, ?_, ?_, h.active⟩, hentries, hback⟩
  · rw [hback]
    exact h.sound
  · rw [hback]
    simp only [Epoch.giveBack, hentries]
    exact h.booked
  · rw [hback]
    simp only [Epoch.giveBack, hentries]
    exact h.backed

/-- A block that the ledger took is booked. -/
theorem Fits.accepted (hx : Fits s b x) (h : EpochInv s) (hadmits : Admits s.ledger x i) :
    EpochInv { s.handOut b with ledger := withPhysical s.ledger i x } := by
  have hself : (withPhysical s.ledger i x).entries i = { x with live := true } :=
    Function.update_self _ _ _
  have hother : ∀ j, j ≠ i → (withPhysical s.ledger i x).entries j = s.ledger.entries j :=
    fun j hj => Function.update_of_ne hj _ _
  have hbooks : Books { x with live := true } b := ⟨hx.books.base, hx.books.bytes, hx.books.form⟩
  refine ⟨withPhysical_inv h.ledger hadmits hx.fits, hx.sound h, ?_, ?_, h.active⟩
  · intro c hc
    dsimp only
    rcases List.mem_cons.mp hc with rfl | hc
    · exact ⟨i, by rw [hself], by rw [hself]; exact hbooks⟩
    · obtain ⟨j, hj, hc⟩ := h.booked c hc
      have hne : j ≠ i := by
        rintro rfl
        rw [hadmits.free] at hj
        cases hj
      exact ⟨j, by rw [hother j hne]; exact hj, by rw [hother j hne]; exact hc⟩
  · intro j hj
    dsimp only at hj ⊢
    by_cases hne : j = i
    · subst hne
      rw [hself]
      exact ⟨b, List.mem_cons_self, hbooks⟩
    · rw [hother j hne] at hj ⊢
      obtain ⟨c, hc, hbooks⟩ := h.backed j hj
      exact ⟨c, List.mem_cons_of_mem b hc, hbooks⟩

/-- A block that went back is taken out of the ledger, which cannot fail. -/
theorem EpochInv.returned (h : EpochInv s) (hb : b ∈ s.outstanding)
    (hi : (s.ledger.entries i).live = true) (hbooks : Books (s.ledger.entries i) b)
    (hrest : takeBack s.outstanding b.form b.base = some rest) (text : String) :
    ∃ next, removeEntry { s with outstanding := rest } i text = .ok next ∧ EpochInv next ∧
      next.accountingGeneration = s.accountingGeneration := by
  have hremove := physicalRemove_live h.ledger hi
  have hmem : ∀ {c}, c ∈ rest ↔ c ∈ s.outstanding ∧ c ≠ b := h.sound.mem_takeBack hb hrest
  have hself : (withoutPhysical s.ledger i (s.ledger.entries i)).entries i = {} :=
    Function.update_self _ _ _
  have hother : ∀ j, j ≠ i →
      (withoutPhysical s.ledger i (s.ledger.entries i)).entries j = s.ledger.entries j :=
    fun j hj => Function.update_of_ne hj _ _
  refine ⟨{ s with
    outstanding := rest, ledger := withoutPhysical s.ledger i (s.ledger.entries i) }, ?_, ?_, rfl⟩
  · unfold removeEntry
    rw [hremove]
    rfl
  · refine ⟨withoutPhysical_inv h.ledger hi, h.sound.takeBack hrest, ?_, ?_, h.active⟩
    · intro c hc
      obtain ⟨hc', hne⟩ := hmem.mp hc
      obtain ⟨j, hj, hbooks'⟩ := h.booked c hc'
      have hji : j ≠ i := by
        rintro rfl
        exact hne (h.sound.eq_of_base hc' hb (hbooks'.base.symm.trans hbooks.base))
      exact ⟨j, by dsimp only; rw [hother j hji]; exact hj,
        by dsimp only; rw [hother j hji]; exact hbooks'⟩
    · intro j hj
      dsimp only at hj ⊢
      by_cases hji : j = i
      · subst hji
        rw [hself] at hj
        cases hj
      · rw [hother j hji] at hj ⊢
        obtain ⟨c, hc, hbooks'⟩ := h.backed j hj
        refine ⟨c, hmem.mpr ⟨hc, ?_⟩, hbooks'⟩
        rintro rfl
        exact hji (h.slot_unique hj hi (hbooks'.base.trans hbooks.base.symm))

/-! ## Finding an entry -/

theorem physicalFind_some {bytes : Nat} (h : physicalFind l base bytes = some i) :
    (l.entries i).live = true ∧ (l.entries i).base = base ∧ (l.entries i).bytes = bytes := by
  unfold physicalFind at h
  split at h
  · cases h
  · have hi := List.find?_some h
    simp only [Bool.and_eq_true, decide_eq_true_eq] at hi
    exact ⟨hi.1.1, hi.1.2, hi.2⟩

theorem memoryFindLedgerBase_some (h : memoryFindLedgerBase l base = some i) :
    (l.entries i).live = true ∧ (l.entries i).base = base := by
  unfold memoryFindLedgerBase at h
  split at h
  · cases h
  · have hi := List.find?_some h
    simpa only [Bool.and_eq_true, decide_eq_true_eq] using hi

/-- The block of a live entry is found by its base and size. -/
theorem EpochInv.physicalFind_booked (h : EpochInv s) (hb : b ∈ s.outstanding) :
    ∃ i, physicalFind s.ledger b.base b.bytes = some i := by
  obtain ⟨j, hj, hbooks⟩ := h.booked b hb
  obtain ⟨hbase, hbytes⟩ := h.sound.placed b hb
  unfold physicalFind
  rw [if_neg (by simp [hbase, hbytes])]
  apply Option.isSome_iff_exists.mp
  rw [List.find?_isSome]
  exact ⟨j, List.mem_finRange j, by simp [hj, hbooks.base, hbooks.bytes]⟩

/-! ## The calls -/

/-- The end of the two tracked calls that allocate, once the firmware gave a block. -/
theorem Fits.settles (hx : Fits s b x) (h : EpochInv s)
    (hgen : s.accountingGeneration < uint64Max) :
    Settles s (fun answer => answer.status ≠ 0)
      (if (physicalInsert s.ledger (some x) true).status ≠ none then
        .ok ({ status := efiError 7, out := some 0 },
          { s.handOut b with ledger := (physicalInsert s.ledger (some x) true).ledger }.giveBack
            b.form b.base)
      else do
        let s ← noteMutation
          { s.handOut b with ledger := (physicalInsert s.ledger (some x) true).ledger }
        return ({ out := some b.base }, s)) := by
  rcases physicalInsert_cases s.ledger (some x) true with hno | ⟨y, i, hy, hadmits, hyes⟩
  · obtain ⟨hstatus, -, hledger⟩ := hno
    obtain ⟨hinv, hsame⟩ := hx.rejected h hledger
    rw [if_pos hstatus]
    exact ⟨_, _, rfl, hinv, Nat.le_succ _, fun _ => hsame⟩
  · cases hy
    rw [hyes, if_neg (by simp), noteMutation_ok (by exact hgen)]
    exact ⟨_, _, rfl, (hx.accepted h hadmits).noted, Nat.le_refl _, fun hfail => absurd rfl hfail⟩

theorem allocatePool_settles (h : EpochInv s) (hgen : s.accountingGeneration < uint64Max)
    {size : Nat} {hasBuffer : Bool} {grant : Grant}
    (hok : Conforms s (.allocatePool size hasBuffer grant)) :
    Settles s (fun answer => answer.status ≠ 0)
      (memoryTrackedAllocatePool s size hasBuffer grant) := by
  obtain ⟨hsize, hgrant⟩ := hok
  unfold memoryTrackedAllocatePool
  split
  · exact h.settles_same _
  · rename_i hargs
    cases grant with
    | error status => exact h.settles_same _
    | block buffer =>
      obtain ⟨hbase, hfresh⟩ := hgrant
      dsimp only
      rw [if_neg (by simp [hbase, Epoch.handOut, h.active])]
      have hx : Fits s ⟨.pool, buffer, size⟩
          (memoryMakeAllocation (s.handOut ⟨.pool, buffer, size⟩) buffer size 0
            allocationPersistentPool ownerCrt 0) :=
        ⟨hbase, fun h0 => hargs (.inr h0), hfresh, ⟨rfl, rfl, rfl, rfl⟩, hsize, hsize,
          Nat.zero_le _⟩
      exact hx.settles h hgen

theorem allocatePages_settles (h : EpochInv s) (hgen : s.accountingGeneration < uint64Max)
    {pages : Nat} {hasMemory : Bool} {grant : Grant}
    (hok : Conforms s (.allocatePages pages hasMemory grant)) :
    Settles s (fun answer => answer.status ≠ 0)
      (memoryTrackedAllocatePages s pages hasMemory grant) := by
  unfold memoryTrackedAllocatePages
  split
  · exact h.settles_same _
  · rename_i hargs
    cases grant with
    | error status => exact h.settles_same _
    | block memory =>
      obtain ⟨hbase, hfresh⟩ := hok
      simp only [not_or, Nat.not_lt, gt_iff_lt] at hargs
      obtain ⟨-, hpages, hlimit⟩ := hargs
      have hbytes : pages * efiPageSize ≤ uint64Max :=
        (Nat.le_div_iff_mul_le (by decide)).mp hlimit
      have hpositive : pages * efiPageSize ≠ 0 := Nat.mul_ne_zero hpages (by decide)
      dsimp only
      rw [if_neg (by simp [hbase, Epoch.handOut, h.active])]
      have hx : Fits s ⟨.pages pages, memory, pages * efiPageSize⟩
          (memoryMakeAllocation (s.handOut ⟨.pages pages, memory, pages * efiPageSize⟩) memory
            (pages * efiPageSize) pages
            (if pages = 4 then allocationSchedulerStack else allocationSchedulerPage)
            ownerScheduler (pages * efiPageSize)) :=
        ⟨hbase, hpositive, hfresh, ⟨rfl, rfl, rfl, hpages⟩, hbytes, hbytes, hbytes⟩
      exact hx.settles h hgen

theorem allocatePage_settles (h : EpochInv s) {context : PageContext} {hasOut : Bool}
    {tables : Nat → Nat → Nat} {grant : Grant}
    (hok : Conforms s (.allocatePage context hasOut tables grant)) :
    Settles s (fun answer => answer.status = 0)
      (vmUefiAllocatePage s context hasOut tables grant) := by
  obtain ⟨hcommit, hgrant⟩ := hok
  unfold vmUefiAllocatePage
  split
  · exact h.settles_same _
  · cases grant with
    | error status => exact h.settles_same _
    | block physical =>
      obtain ⟨hbase, hfresh⟩ := hgrant
      dsimp only
      have hpage : efiPageSize ≠ 0 ∧ efiPageSize ≤ uint64Max := by decide
      let x : PhysicalAllocation :=
        { base := physical, bytes := efiPageSize, pages := 1
          allocationClass := context.allocationClass, owner := context.owner
          physicalImpactBytes := efiPageSize, commitImpactBytes := context.commitImpactBytes
          virtualReservationImpactBytes := 0, generation := context.generation }
      have hx : Fits s ⟨.pages 1, physical, efiPageSize⟩ x :=
        ⟨hbase, hpage.1, hfresh, ⟨rfl, rfl, rfl, Nat.one_ne_zero⟩, hpage.2, hcommit,
          Nat.zero_le _⟩
      split
      · obtain ⟨hinv, hsame⟩ := hx.rejected h (l := s.ledger) rfl
        exact ⟨_, _, rfl, hinv, Nat.le_succ _, fun _ => hsame⟩
      · rcases physicalInsert_cases s.ledger (some x) true with hno | ⟨y, i, hy, hadmits, hyes⟩
        · obtain ⟨hstatus, -, hledger⟩ := hno
          obtain ⟨hinv, hsame⟩ := hx.rejected h hledger
          rw [if_pos (by exact hstatus)]
          exact ⟨_, _, rfl, hinv, Nat.le_succ _, fun _ => hsame⟩
        · cases hy
          have hstatus : (physicalInsert s.ledger (some x) true).status = none := by rw [hyes]
          have hinv := hx.accepted h hadmits
          rw [if_neg (by exact not_not.mpr hstatus)]
          refine ⟨_, _, rfl, ?_, Nat.le_succ _, nofun⟩
          change EpochInv
            { s.handOut _ with ledger := (physicalInsert s.ledger (some x) true).ledger }
          rw [hyes]
          exact hinv

theorem freePool_settles (h : EpochInv s) (hgen : s.accountingGeneration < uint64Max)
    (buffer refusal : Nat) :
    Settles s (fun answer => answer.status ≠ 0) (memoryTrackedFreePool s buffer refusal) := by
  unfold memoryTrackedFreePool
  split
  · exact h.settles_same _
  · split
    · exact h.settles_same _
    · split
      · exact h.settles_same _
      · rename_i i hfind
        obtain ⟨hi, hbase⟩ := memoryFindLedgerBase_some hfind
        split
        · exact h.settles_same _
        · rename_i rest hrest
          obtain ⟨b, hb, hform, rfl⟩ := (takeBack_some hrest).1
          rw [← hform] at hrest
          have hbooks := h.books_at hb hi hbase
          have hvirtual : (s.ledger.entries i).virtualReservationImpactBytes = 0 := by
            have := hbooks.form
            rw [hform] at this
            exact this.2
          obtain ⟨next, hnext, hinv, hsame⟩ :=
            h.returned hb hi hbooks hrest "memory-pool-ledger-remove"
          dsimp only
          rw [if_neg (by simp [hvirtual]), pure_bind, hnext]
          change Settles s _ (do
            let s ← noteMutation next
            return ({}, s))
          rw [noteMutation_ok (by rw [hsame]; exact hgen)]
          exact ⟨_, _, rfl, hinv.noted, by rw [hsame], fun hfail => absurd rfl hfail⟩

theorem freePages_settles (h : EpochInv s) (hgen : s.accountingGeneration < uint64Max)
    (memory pages refusal : Nat) :
    Settles s (fun answer => answer.status ≠ 0)
      (memoryTrackedFreePages s memory pages refusal) := by
  unfold memoryTrackedFreePages
  split
  · exact h.settles_same _
  · split
    · exact h.settles_same _
    · rename_i i hfind
      obtain ⟨hi, hbase, -⟩ := physicalFind_some hfind
      split
      · exact h.settles_same _
      · split
        · exact h.settles_same _
        · rename_i rest hrest
          obtain ⟨b, hb, hform, rfl⟩ := (takeBack_some hrest).1
          rw [← hform] at hrest
          obtain ⟨next, hnext, hinv, hsame⟩ :=
            h.returned hb hi (h.books_at hb hi hbase) hrest "memory-page-ledger-remove"
          rw [hnext]
          change Settles s _ (do
            let s ← noteMutation next
            return ({}, s))
          rw [noteMutation_ok (by rw [hsame]; exact hgen)]
          exact ⟨_, _, rfl, hinv.noted, by rw [hsame], fun hfail => absurd rfl hfail⟩

theorem freePage_settles (h : EpochInv s) {physicalAddress : Nat}
    (hok : Conforms s (.freePage physicalAddress)) :
    Settles s (fun _ => False) (vmUefiFreePage s physicalAddress) := by
  have hb : ⟨.pages 1, physicalAddress, efiPageSize⟩ ∈ s.outstanding := hok
  obtain ⟨i, hfind⟩ := h.physicalFind_booked hb
  obtain ⟨hi, hbase, -⟩ := physicalFind_some hfind
  have hrest := takeBack_eq_some hb rfl rfl
  obtain ⟨next, hnext, hinv, hsame⟩ :=
    h.returned hb hi (h.books_at hb hi hbase) hrest "vm-page-free-accounting"
  unfold vmUefiFreePage
  simp only at hfind hrest
  rw [hfind, hrest]
  dsimp only
  rw [hnext]
  exact ⟨_, _, rfl, hinv, by rw [hsame]; exact Nat.le_succ _, False.elim⟩

theorem call_settles (h : EpochInv s) (hgen : s.accountingGeneration < uint64Max) {op : Op}
    (hok : Conforms s op) : Settles s op.Failed (call s op) := by
  cases op with
  | allocatePool size hasBuffer grant => exact allocatePool_settles h hgen hok
  | freePool buffer refusal => exact freePool_settles h hgen buffer refusal
  | allocatePages pages hasMemory grant => exact allocatePages_settles h hgen hok
  | freePages memory pages refusal => exact freePages_settles h hgen memory pages refusal
  | allocatePage context hasOut tables grant => exact allocatePage_settles h hok
  | freePage physicalAddress => exact freePage_settles h hok

/-! ## Runs -/

theorem step_keeps (h : EpochInv s) (hgen : s.accountingGeneration < uint64Max) {op : Op}
    (hok : Conforms s op) :
    EpochInv (step s op) ∧
    (step s op).accountingGeneration ≤ s.accountingGeneration + 1 ∧ Returns s op := by
  obtain ⟨answer, next, hcall, hinv, hnext, hsame⟩ := call_settles h hgen hok
  have hstep : step s op = next := by
    unfold step
    rw [hcall]
  rw [hstep]
  exact ⟨hinv, hnext, answer, next, hcall, hsame⟩

/-- As long as the generation has room for each call, the invariant holds all along a run and
every call returns. -/
theorem run_keeps {ops : List Op} (h : EpochInv s)
    (hops : Runs.Along step Conforms s ops)
    (hgen : s.accountingGeneration + ops.length ≤ uint64Max) :
    EpochInv (Runs.run step s ops) ∧
    ∀ before op after, ops = before ++ op :: after → Returns (Runs.run step s before) op := by
  induction ops generalizing s with
  | nil => exact ⟨h, fun before op after hsplit => by simp at hsplit⟩
  | cons first rest ih =>
    rw [List.length_cons] at hgen
    obtain ⟨hinv, hnext, hreturns⟩ := step_keeps h (by omega) hops.1
    obtain ⟨hrun, hall⟩ := ih hinv hops.2 (by omega)
    refine ⟨hrun, fun before op after hsplit => ?_⟩
    cases before with
    | nil =>
      obtain ⟨rfl, -⟩ := List.cons.inj hsplit
      exact hreturns
    | cons first' before =>
      obtain ⟨rfl, hrest⟩ := List.cons.inj hsplit
      exact hall before op after hrest

/-- In an epoch with fewer than 2^63 calls the live entries are the blocks that are out, no
call fails for good, and one that says that it failed has changed nothing. -/
theorem ledger_mirrors_the_firmware {ops : List Op} (hbegins : Begins s)
    (hops : Runs.Along step Conforms s ops) (hcount : ops.length < 2 ^ 63) :
    Mirrors (Runs.run step s ops) ∧
    ∀ before op after, ops = before ++ op :: after → Returns (Runs.run step s before) op := by
  have hgen : s.accountingGeneration + ops.length ≤ uint64Max := by
    have := hbegins.generation
    have huint64 : uint64Max = 2 ^ 64 - 1 := by decide
    omega
  obtain ⟨hinv, hreturns⟩ := run_keeps hbegins.inv hops hgen
  exact ⟨hinv.mirrors, hreturns⟩

/-! ## A run -/

def sampleEpoch : Epoch :=
  { ledger := physicalLedgerInit 1, mapGeneration := 1, accountingGeneration := 2 }

/-- A pool block, a stack and a page; the page goes back as a pool block, which the firmware
refuses, and then as a page. -/
def sampleOps : List Op :=
  [.allocatePool 24 true (.block 0x1000),
    .allocatePages 4 true (.block 0x10000),
    .allocatePage ⟨12, 7, efiPageSize, 1⟩ true (fun _ _ => 0) (.block 0x5000),
    .freePool 0x5000 (efiError 2),
    .freePage 0x5000]

theorem a_sample_is_mirrored :
    Mirrors (Runs.run step sampleEpoch sampleOps) ∧
    ∀ before op after, sampleOps = before ++ op :: after →
      Returns (Runs.run step sampleEpoch before) op := by
  have hbegins : Begins sampleEpoch := ⟨⟨1, by decide, rfl⟩, by decide, rfl, rfl⟩
  exact ledger_mirrors_the_firmware hbegins (by decide +kernel) (by decide)

end Gate4Harness.Accounting
