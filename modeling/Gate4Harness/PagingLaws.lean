-- The page tables refine a finite map from virtual pages to page entries: each operation
-- does to the map what its reply says, queries in the arena read the map, and no other
-- address is ever translated in another way.
import Gate4Harness.PagePool
import Gate4Harness.Runs

namespace Gate4Harness.Vm

open Runs

variable {W : Type} {allocator : PageAllocator W} {tables data : W → Nat → Option Nat}
  {held : Nat → Prop} {m m' : Machine W} {currentCr3 base length u v t : Nat}
  {nxEnabled : Bool} {firmware : Nat → Nat → Nat}

/-! ## The pages of the arena -/

/-- A page that lies wholly in the arena. -/
structure InArena (base length v : Nat) : Prop where
  aligned : v % pageSize = 0
  above : base ≤ v
  below : v + pageSize ≤ base + length

/-- The condition under which the checks of `create` and of `arena_contains_page` do what
they are for. -/
def FitsSlot (base length : Nat) : Prop :=
  pageSize ≤ base + length ∧ (length ≤ 2 ^ 39 ∨ base / 2 ^ 39 = 255)

theorem arenaContainsPage_iff {paging : Paging} (hlength : paging.arenaLength ≠ 0)
    (hfits : paging.arenaBase + paging.arenaLength ≤ uint64Max)
    (hpage : pageSize ≤ paging.arenaBase + paging.arenaLength) :
    arenaContainsPage paging v = true ↔ InArena paging.arenaBase paging.arenaLength v := by
  have hend : (paging.arenaBase + paging.arenaLength + 2 ^ 64 - pageSize) % 2 ^ 64 =
      paging.arenaBase + paging.arenaLength - pageSize := by
    simp only [uint64Max, pageSize] at *
    omega
  unfold arenaContainsPage
  rw [rangeEnd_eq hlength hfits]
  dsimp only
  rw [hend]
  simp only [Bool.and_eq_true, decide_eq_true_eq]
  constructor
  · rintro ⟨⟨⟨-, h1⟩, h2⟩, h3⟩
    exact ⟨h1, h2, by omega⟩
  · rintro ⟨h1, h2, h3⟩
    exact ⟨⟨⟨hlength, h1⟩, h2⟩, by omega⟩

/-- What `create` fixed. -/
structure MadeFor (paging : Paging) (base length : Nat) (nxEnabled : Bool) : Prop where
  arenaBase : paging.arenaBase = base
  arenaLength : paging.arenaLength = length
  arenaSlot : paging.arenaPml4Index = pml4Index base
  nx : paging.nxEnabled = nxEnabled

theorem Keeps.madeFor (h : Keeps data m m') (hm : MadeFor m.paging base length nxEnabled) :
    MadeFor m'.paging base length nxEnabled :=
  ⟨h.arenaBase.trans hm.arenaBase, h.arenaLength.trans hm.arenaLength, h.slot.trans hm.arenaSlot,
    h.nxEnabled.trans hm.nx⟩

theorem slotSound_of_fits (hm : MadeFor m.paging base length nxEnabled)
    (hargs : CreateArguments currentCr3 base length) (hfits : FitsSlot base length) :
    SlotSound m.paging := by
  rintro v ⟨hcanon, -, hin⟩
  rw [arenaContainsPage_iff (by rw [hm.arenaLength]; exact hargs.nonempty)
    (by rw [hm.arenaBase, hm.arenaLength]; exact hargs.fits)
    (by rw [hm.arenaBase, hm.arenaLength]; exact hfits.1),
    hm.arenaBase, hm.arenaLength] at hin
  obtain ⟨-, habove, hbelow⟩ := hin
  have hbase := hargs.canonical
  have hslot := hargs.slot
  have hend := hargs.fits
  have hpages := hfits.2
  rw [canonical48_iff] at hcanon hbase
  rw [hm.arenaSlot, pml4Index_eq, pml4Index_eq]
  rw [pml4Index_eq, pml4Index_eq] at hslot
  simp only [pageSize, uint64Max] at *
  omega

/-! ## The abstract map -/

/-- What the map has for a virtual page. -/
structure PageEntry where
  physicalPage : Nat
  writable : Bool
  noExecute : Bool
  deriving DecidableEq, Repr

abbrev PageMap : Type := Nat → Option PageEntry

/-- The entry of the page tables that stands for it. -/
def PageEntry.entry (e : PageEntry) : Nat :=
  e.physicalPage ||| (entryPresentBit ||| (if e.writable then entryWritableBit else 0) |||
    (if e.noExecute then entryNoExecuteBit else 0))

/-- What a query shall say of an address in the page. -/
def PageEntry.mapping (e : PageEntry) (v : Nat) : Mapping :=
  { physicalBase := e.physicalPage + v % pageSize
    pageSize := pageSize, entryFlags := e.entry, level := 1, present := true }

def PageMap.query (M : PageMap) (v : Nat) : Except PagingError Mapping :=
  match M (v / pageSize) with
  | some e => .ok (e.mapping v)
  | none => .error .notPresent

inductive PagingOp
  | mapPage (virtualPage physicalPage : Nat) (writable executable : Bool)
  | unmapPage (virtualPage : Nat)
  deriving DecidableEq, Repr

def PagingOp.virtualPage : PagingOp → Nat
  | .mapPage v .. => v
  | .unmapPage v => v

/-- One operation on the map. A page that is there cannot be mapped again, and a page that
is not there may stay so because the tables have no room. -/
inductive MapStep (base length : Nat) (nxEnabled : Bool) (M : PageMap) :
    PagingOp → Except PagingError (Option Nat) → PageMap → Prop
  | insert {v p : Nat} {writable executable : Bool} : InArena base length v →
      PhysicalPage p → M (v / pageSize) = none →
      MapStep base length nxEnabled M (.mapPage v p writable executable) (.ok none)
        (Function.update M (v / pageSize) (some ⟨p, writable, !executable && nxEnabled⟩))
  | conflict {v p : Nat} {writable executable : Bool} {e : PageEntry} : InArena base length v →
      PhysicalPage p → M (v / pageSize) = some e →
      MapStep base length nxEnabled M (.mapPage v p writable executable) (.error .conflict) M
  | short {v p : Nat} {writable executable : Bool} {e : PagingError} : InArena base length v →
      PhysicalPage p → M (v / pageSize) = none → e = .capacity ∨ e = .allocation →
      MapStep base length nxEnabled M (.mapPage v p writable executable) (.error e) M
  | refuseMap {v p : Nat} {writable executable : Bool} {e : PagingError} :
      ¬ (InArena base length v ∧ PhysicalPage p) → e ≠ .conflict →
      MapStep base length nxEnabled M (.mapPage v p writable executable) (.error e) M
  | remove {v : Nat} {e : PageEntry} : InArena base length v → M (v / pageSize) = some e →
      MapStep base length nxEnabled M (.unmapPage v) (.ok (some e.physicalPage))
        (Function.update M (v / pageSize) none)
  | absent {v : Nat} : InArena base length v → M (v / pageSize) = none →
      MapStep base length nxEnabled M (.unmapPage v) (.error .notPresent) M
  | refuseUnmap {v : Nat} {e : PagingError} : ¬ InArena base length v → e ≠ .notPresent →
      MapStep base length nxEnabled M (.unmapPage v) (.error e) M

/-! ## The operations -/

def pagingReply (allocator : PageAllocator W) (m : Machine W) :
    PagingOp → Except PagingError (Option Nat)
  | .mapPage v p writable executable =>
    (mapPage allocator m v p writable executable).1.map fun _ => none
  | .unmapPage v => (unmapPage allocator m v).1.map some

def pagingStep (allocator : PageAllocator W) (m : Machine W) : PagingOp → Machine W
  | .mapPage v p writable executable => (mapPage allocator m v p writable executable).2
  | .unmapPage v => (unmapPage allocator m v).2

/-- The physical pages have 52 bits. -/
def PagingOp.Small : PagingOp → Prop
  | .mapPage _ p _ _ => p < 2 ^ 52
  | .unmapPage _ => True

instance : DecidablePred PagingOp.Small
  | .mapPage _ p _ _ => inferInstanceAs (Decidable (p < 2 ^ 52))
  | .unmapPage _ => inferInstanceAs (Decidable True)

/-- The map as a client keeps it, who sees only the replies. -/
def noteReply (nxEnabled : Bool) (reply : Except PagingError (Option Nat)) (op : PagingOp)
    (M : PageMap) : PageMap :=
  match reply, op with
  | .error _, _ => M
  | .ok _, .mapPage v p writable executable =>
    Function.update M (v / pageSize) (some ⟨p, writable, !executable && nxEnabled⟩)
  | .ok _, .unmapPage v => Function.update M (v / pageSize) none

theorem noteReply_other {reply : Except PagingError (Option Nat)} {op : PagingOp} {M : PageMap}
    (h : (∃ e, reply = .error e) ∨ u / pageSize ≠ op.virtualPage / pageSize) :
    noteReply nxEnabled reply op M (u / pageSize) = M (u / pageSize) := by
  cases reply with
  | error e => rfl
  | ok r =>
    have hne : u / pageSize ≠ op.virtualPage / pageSize := by
      rcases h with ⟨e, he⟩ | h
      · cases he
      · exact h
    cases op <;> exact Function.update_of_ne hne _ _

theorem pageFlags_eq (nxEnabled writable executable : Bool) :
    pageFlags nxEnabled writable executable =
      entryPresentBit ||| (if writable then entryWritableBit else 0) |||
        (if !executable && nxEnabled then entryNoExecuteBit else 0) := by
  cases nxEnabled <;> cases writable <;> cases executable <;> decide

theorem PageEntry.entry_eq (p : Nat) (nxEnabled writable executable : Bool) :
    p ||| pageFlags nxEnabled writable executable =
      PageEntry.entry ⟨p, writable, !executable && nxEnabled⟩ := by
  rw [pageFlags_eq]
  rfl

theorem PageEntry.entry_facts (e : PageEntry) (h : PhysicalPage e.physicalPage) :
    isPresent e.entry = true ∧ entryAddress e.entry = e.physicalPage := by
  have heq := PageEntry.entry_eq e.physicalPage e.noExecute e.writable false
  simp only [Bool.not_false, Bool.true_and] at heq
  change _ = PageEntry.entry e at heq
  rw [← heq]
  exact ⟨pageEntry_present h.aligned .., pageEntry_address h ..⟩

/-- What a client reads off the answer of a query. -/
def Mapping.pageEntry (mapping : Mapping) (v : Nat) : PageEntry where
  physicalPage := mapping.physicalBase - v % Vm.pageSize
  writable := decide (mapping.entryFlags &&& entryWritableBit ≠ 0)
  noExecute := decide (mapping.entryFlags &&& entryNoExecuteBit ≠ 0)

/-- The bits of a page entry are not disturbed by its address. -/
theorem PageEntry.entry_flags (e : PageEntry) (h : PhysicalPage e.physicalPage) :
    e.entry &&& entryWritableBit = (if e.writable then entryWritableBit else 0) ∧
    e.entry &&& entryNoExecuteBit = (if e.noExecute then entryNoExecuteBit else 0) := by
  have hwritable : e.physicalPage &&& entryWritableBit = 0 := by
    have hbit : e.physicalPage.testBit 1 = false := by
      have := h.aligned
      rw [Nat.testBit_eq_decide_div_mod_eq]
      simp only [pageSize] at this
      simp only [decide_eq_false_iff_not]
      omega
    have : entryWritableBit = 2 ^ 1 := rfl
    rw [this, Nat.and_two_pow, hbit]
    rfl
  have hnx : e.physicalPage &&& entryNoExecuteBit = 0 := by
    have hbit : e.physicalPage.testBit 63 = false := by
      have := h.small
      exact Nat.testBit_lt_two_pow (by omega)
    have : entryNoExecuteBit = 2 ^ 63 := rfl
    rw [this, Nat.and_two_pow, hbit]
    rfl
  have hflags : ∀ writable noExecute : Bool,
      (entryPresentBit ||| (if writable then entryWritableBit else 0) |||
        (if noExecute then entryNoExecuteBit else 0)) &&& entryWritableBit =
          (if writable then entryWritableBit else 0) ∧
      (entryPresentBit ||| (if writable then entryWritableBit else 0) |||
        (if noExecute then entryNoExecuteBit else 0)) &&& entryNoExecuteBit =
          (if noExecute then entryNoExecuteBit else 0) := by
    decide
  constructor
  · rw [PageEntry.entry, Nat.and_or_distrib_right, hwritable, (hflags _ _).1, Nat.zero_or]
  · rw [PageEntry.entry, Nat.and_or_distrib_right, hnx, (hflags _ _).2, Nat.zero_or]

theorem PageEntry.mapping_reads (e : PageEntry) (h : PhysicalPage e.physicalPage) (v : Nat) :
    (e.mapping v).pageEntry v = e := by
  obtain ⟨h1, h2⟩ := e.entry_flags h
  obtain ⟨p, writable, noExecute⟩ := e
  simp only [Mapping.pageEntry, PageEntry.mapping, h1, h2, Nat.add_sub_cancel]
  cases writable <;> cases noExecute <;> rfl

theorem PageMap.query_reads (M : PageMap)
    (h : ∀ n e, M n = some e → PhysicalPage e.physicalPage) (v : Nat) :
    (M.query v).toOption.map (fun mapping => mapping.pageEntry v) = M (v / pageSize) := by
  unfold PageMap.query
  cases hM : M (v / pageSize) with
  | none => rfl
  | some e => exact congrArg some (e.mapping_reads (h _ e hM) v)

/-! ## The refinement -/

structure Refines (allocator : PageAllocator W) (tables : W → Nat → Option Nat)
    (held : Nat → Prop) (base length : Nat) (nxEnabled : Bool) (m : Machine W) (M : PageMap) :
    Prop where
  inv : PagingInv allocator tables held m
  made : MadeFor m.paging base length nxEnabled
  leaves : ∀ v, canonical48 v = true → pml4Index v = pml4Index base →
    m.leaf allocator v = (M (v / pageSize)).map PageEntry.entry
  pages : ∀ n e, M n = some e → PhysicalPage e.physicalPage

section Refines

variable {M M' : PageMap} (h : Refines allocator tables held base length nxEnabled m M)

include h

/-- A query in the slot reads the map. -/
theorem Refines.query (hcanon : canonical48 v = true) (hv : pml4Index v = pml4Index base) :
    query allocator m v = M.query v := by
  rw [query_eq h.inv hcanon (hv.trans h.made.arenaSlot.symm), h.leaves v hcanon hv]
  unfold PageMap.query
  cases hM : M (v / pageSize) with
  | none => rfl
  | some e =>
    obtain ⟨-, haddress⟩ := e.entry_facts (h.pages _ e hM)
    simp only [Option.map_some, pageMapping, haddress, PageEntry.mapping]

theorem Refines.grown (hg : Grown allocator tables data held m m') :
    Refines allocator tables held base length nxEnabled m' M := by
  refine ⟨hg.inv, hg.keeps.madeFor h.made, ?_, h.pages⟩
  intro v hcanon hv
  rw [hg.leaves v (hv.trans h.made.arenaSlot.symm)]
  exact h.leaves v hcanon hv

/-- A store into a page table is an update of the map. -/
theorem Refines.store (hcanon : canonical48 v = true) (hv : pml4Index v = pml4Index base)
    (hw : m.walk allocator (tablePath v) = some t) {entry : Nat} {e : Option PageEntry}
    (hentry : (if isPresent entry then some entry else none) = e.map PageEntry.entry)
    (hpage : ∀ e', e = some e' → PhysicalPage e'.physicalPage) :
    Refines allocator tables held base length nxEnabled (m.store t (ptIndex v) entry)
      (Function.update M (v / pageSize) e) := by
  have hslot := hv.trans h.made.arenaSlot.symm
  refine ⟨store_inv h.inv hslot hw entry, h.made, ?_, ?_⟩
  · intro u hucanon hu
    rw [store_leaf h.inv hslot hw entry (hu.trans h.made.arenaSlot.symm)]
    by_cases hsame : u / pageSize = v / pageSize
    · rw [if_pos ((sameEntry_iff hucanon hcanon).mpr hsame), hsame, Function.update_self]
      exact hentry
    · rw [if_neg fun hs => hsame ((sameEntry_iff hucanon hcanon).mp hs),
        Function.update_of_ne hsame]
      exact h.leaves u hucanon hu
  · intro n e' hn
    by_cases hsame : n = v / pageSize
    · rw [hsame, Function.update_self] at hn
      exact hpage e' hn
    · rw [Function.update_of_ne hsame] at hn
      exact h.pages n e' hn

end Refines

/-! ## One step -/

/-- An arena of whole pages within one slot. -/
structure WholePages (base length : Nat) : Prop where
  aligned : base % pageSize = 0
  whole : length % pageSize = 0
  slot : base / 2 ^ 39 = (base + length - 1) / 2 ^ 39

/-- An arena within one slot that has room for a page. -/
structure OneSlot (base length : Nat) : Prop where
  page : pageSize ≤ base + length
  slot : base / 2 ^ 39 = (base + length - 1) / 2 ^ 39

theorem WholePages.oneSlot (h : WholePages base length)
    (hargs : CreateArguments currentCr3 base length) : OneSlot base length := by
  have hlength := hargs.nonempty
  obtain ⟨-, hwhole, hslot⟩ := h
  refine ⟨?_, hslot⟩
  simp only [pageSize] at *
  omega

theorem OneSlot.fitsSlot (h : OneSlot base length) : FitsSlot base length := by
  refine ⟨h.page, ?_⟩
  have := h.slot
  omega

theorem accepted_iff (hm : MadeFor m.paging base length nxEnabled)
    (hargs : CreateArguments currentCr3 base length) (h : OneSlot base length) :
    Accepted m.paging v ↔ InArena base length v := by
  have hin : arenaContainsPage m.paging v = true ↔ InArena base length v := by
    have := arenaContainsPage_iff (v := v)
      (by rw [hm.arenaLength]; exact hargs.nonempty)
      (by rw [hm.arenaBase, hm.arenaLength]; exact hargs.fits)
      (by rw [hm.arenaBase, hm.arenaLength]; exact h.fitsSlot.1)
    rwa [hm.arenaBase, hm.arenaLength] at this
  constructor
  · rintro ⟨-, -, hcontains⟩
    exact hin.mp hcontains
  · intro harena
    refine ⟨?_, harena.aligned, hin.mpr harena⟩
    -- the whole slot is canonical when its base is
    have hbase := hargs.canonical
    obtain ⟨-, habove, hbelow⟩ := harena
    have hslot := h.slot
    have hfits := hargs.fits
    rw [canonical48_iff] at hbase ⊢
    simp only [pageSize, uint64Max] at *
    omega

section Step

variable {M : PageMap} (hargs : CreateArguments currentCr3 base length)
  (hpages : WholePages base length)
  (h : Refines allocator tables held base length nxEnabled m M)

include hargs hpages h

theorem mapPage_refines (hA : Conforming allocator tables data held) (v p : Nat)
    (writable executable : Bool) (hp : p < 2 ^ 52) :
    MapStep base length nxEnabled M (.mapPage v p writable executable)
      (pagingReply allocator m (.mapPage v p writable executable))
      (noteReply nxEnabled (pagingReply allocator m (.mapPage v p writable executable))
        (.mapPage v p writable executable) M) ∧
    Refines allocator tables held base length nxEnabled
      (pagingStep allocator m (.mapPage v p writable executable))
      (noteReply nxEnabled (pagingReply allocator m (.mapPage v p writable executable))
        (.mapPage v p writable executable) M) ∧
    Keeps data m (pagingStep allocator m (.mapPage v p writable executable)) := by
  have hone := hpages.oneSlot hargs
  have hsound := slotSound_of_fits h.made hargs hone.fitsSlot
  have hiff := accepted_iff (v := v) h.made hargs hone
  have heffect := mapPage_effect hA h.inv hsound v p writable executable
  unfold pagingReply pagingStep
  dsimp only
  -- the arguments that the code takes are those of the map
  have harguments : MapArguments m.paging v p → InArena base length v ∧ PhysicalPage p ∧
      canonical48 v = true ∧ pml4Index v = pml4Index base := by
    rintro ⟨hv, hpos, halign⟩
    exact ⟨hiff.mp hv, ⟨hpos, halign, hp⟩, hv.canonical, (hsound v hv).trans h.made.arenaSlot⟩
  have hleaf : ∀ {e : Option Nat}, MapArguments m.paging v p → m.leaf allocator v = e →
      (M (v / pageSize)).map PageEntry.entry = e := by
    intro e ha he
    obtain ⟨-, -, hcanon, hv⟩ := harguments ha
    rw [← he]
    exact (h.leaves v hcanon hv).symm
  generalize mapPage allocator m v p writable executable = r at heffect ⊢
  obtain ⟨answer, m'⟩ := r
  dsimp only at heffect ⊢
  cases heffect with
  | refused hno he =>
    refine ⟨.refuseMap ?_ he, h, .refl data m⟩
    rintro ⟨hin, hpage⟩
    exact hno ⟨hiff.mpr hin, hpage.nonzero, hpage.aligned⟩
  | present ha he hg =>
    obtain ⟨hin, hpage, -, -⟩ := harguments ha
    obtain ⟨e, hM, -⟩ := Option.map_eq_some_iff.mp (hleaf ha he)
    exact ⟨.conflict hin hpage hM, h.grown hg, hg.keeps⟩
  | short ha hnone he hg =>
    obtain ⟨hin, hpage, -, -⟩ := harguments ha
    exact ⟨.short hin hpage (Option.map_eq_none_iff.mp (hleaf ha hnone)) he, h.grown hg, hg.keeps⟩
  | @mapped m1 t ha hnone hg hw =>
    obtain ⟨hin, hpage, hcanon, hv⟩ := harguments ha
    have h1 := h.grown hg
    refine ⟨.insert hin hpage (Option.map_eq_none_iff.mp (hleaf ha hnone)), ?_, ?_⟩
    · apply h1.store hcanon hv hw
      · rw [pageEntry_present hpage.aligned, if_pos rfl, h.made.nx, PageEntry.entry_eq]
        rfl
      · intro e he
        cases he
        exact hpage
    · exact hg.keeps.trans (store_keeps hg.inv (hv.trans h1.made.arenaSlot.symm) hw _)

theorem unmapPage_refines (v : Nat) :
    MapStep base length nxEnabled M (.unmapPage v) (pagingReply allocator m (.unmapPage v))
      (noteReply nxEnabled (pagingReply allocator m (.unmapPage v)) (.unmapPage v) M) ∧
    Refines allocator tables held base length nxEnabled (pagingStep allocator m (.unmapPage v))
      (noteReply nxEnabled (pagingReply allocator m (.unmapPage v)) (.unmapPage v) M) ∧
    Keeps data m (pagingStep allocator m (.unmapPage v)) := by
  have hone := hpages.oneSlot hargs
  have hsound := slotSound_of_fits h.made hargs hone.fitsSlot
  have hiff := accepted_iff (v := v) h.made hargs hone
  have heffect := unmapPage_effect h.inv hsound v
  unfold pagingReply pagingStep
  dsimp only
  generalize unmapPage allocator m v = r at heffect ⊢
  obtain ⟨answer, m'⟩ := r
  dsimp only at heffect ⊢
  cases heffect with
  | refused hno he => exact ⟨.refuseUnmap (fun hin => hno (hiff.mpr hin)) he, h, .refl data m⟩
  | absent ha hnone =>
    have hv := (hsound v ha).trans h.made.arenaSlot
    rw [h.leaves v ha.canonical hv, Option.map_eq_none_iff] at hnone
    exact ⟨.absent (hiff.mp ha) hnone, h, .refl data m⟩
  | @unmapped t entry ha he hw =>
    have hv := (hsound v ha).trans h.made.arenaSlot
    rw [h.leaves v ha.canonical hv] at he
    obtain ⟨e, hM, rfl⟩ := Option.map_eq_some_iff.mp he
    refine ⟨?_, ?_, store_keeps h.inv (hv.trans h.made.arenaSlot.symm) hw _⟩
    · rw [(e.entry_facts (h.pages _ e hM)).2]
      exact .remove (hiff.mp ha) hM
    · apply h.store ha.canonical hv hw
      · rfl
      · intro e' he'
        cases he'

end Step

/-! ## Every run -/

/-- A paging object as `create` leaves it. No table of the firmware is free for it. -/
def NewPaging (allocator : PageAllocator W) (held : Nat → Prop) (firmware : Nat → Nat → Nat)
    (currentCr3 base length : Nat) (nxEnabled : Bool) (m : Machine W) : Prop :=
  ∃ m0 : Machine W, m0.memory = firmware ∧ m0.written = [] ∧
    FirmwareHeld allocator held firmware currentCr3 ∧
    create allocator m0 currentCr3 base length nxEnabled = (.ok (), m)

def noteStep (allocator : PageAllocator W) (nxEnabled : Bool) (m : Machine W) (op : PagingOp)
    (M : PageMap) : PageMap :=
  noteReply nxEnabled (pagingReply allocator m op) op M

/-- What every run keeps: the refinement, and the translations outside of the slot. -/
structure MapInv (allocator : PageAllocator W) (tables : W → Nat → Option Nat)
    (held : Nat → Prop) (firmware : Nat → Nat → Nat) (currentCr3 base length : Nat)
    (nxEnabled : Bool) (m : Machine W) (M : PageMap) : Prop where
  arguments : CreateArguments currentCr3 base length
  current : currentRoot allocator currentCr3 ≠ 0
  refines : Refines allocator tables held base length nxEnabled m M
  firmwareHeld : FirmwareHeld allocator held firmware currentCr3
  outside : Outside allocator held firmware currentCr3 m

theorem newPaging_mapInv (hA : Conforming allocator tables data held)
    (hpages : WholePages base length)
    (h : NewPaging allocator held firmware currentCr3 base length nxEnabled m) :
    MapInv allocator tables held firmware currentCr3 base length nxEnabled m fun _ => none := by
  obtain ⟨m0, rfl, -, hheld, hcreate⟩ := h
  have hlength : length ≤ uint64Max := by
    have hslot := hpages.slot
    simp only [uint64Max]
    omega
  obtain ⟨rootPhysical, rootAlias, world, hnew, rfl⟩ := create_eq_ok hlength hcreate
  refine ⟨hnew.arguments, hnew.current, ⟨created_inv hA hnew, ⟨rfl, rfl, rfl, rfl⟩, ?_, ?_⟩, hheld,
    created_outside hA hnew (hheld 4 _ .root)⟩
  · intro v _ hv
    exact created_leaf hnew hv
  · intro n e he
    cases he

theorem pagingStep_mapInv (hA : Conforming allocator tables data held)
    (hpages : WholePages base length) {M : PageMap}
    (h : MapInv allocator tables held firmware currentCr3 base length nxEnabled m M)
    (op : PagingOp) (hop : op.Small) :
    MapStep base length nxEnabled M op (pagingReply allocator m op)
      (noteStep allocator nxEnabled m op M) ∧
    MapInv allocator tables held firmware currentCr3 base length nxEnabled
      (pagingStep allocator m op) (noteStep allocator nxEnabled m op M) := by
  obtain ⟨hstep, hrefines, hkeeps⟩ : MapStep base length nxEnabled M op (pagingReply allocator m op)
      (noteStep allocator nxEnabled m op M) ∧
      Refines allocator tables held base length nxEnabled (pagingStep allocator m op)
        (noteStep allocator nxEnabled m op M) ∧
      Keeps data m (pagingStep allocator m op) := by
    cases op with
    | mapPage v p writable executable =>
      exact mapPage_refines h.arguments hpages h.refines hA v p writable executable hop
    | unmapPage v => exact unmapPage_refines h.arguments hpages h.refines v
  exact ⟨hstep, h.arguments, h.current, hrefines, h.firmwareHeld,
    hkeeps.outside hrefines.inv h.outside⟩

/-- Where the maps agree, the queries agree. -/
theorem MapInv.query_eq {M M' : PageMap}
    (h : MapInv allocator tables held firmware currentCr3 base length nxEnabled m M)
    (h' : MapInv allocator tables held firmware currentCr3 base length nxEnabled m' M')
    (hu : M' (u / pageSize) = M (u / pageSize)) : query allocator m' u = query allocator m u := by
  by_cases hcanon : canonical48 u = true
  · by_cases hslot : pml4Index u = pml4Index base
    · rw [h.refines.query hcanon hslot, h'.refines.query hcanon hslot]
      unfold PageMap.query
      rw [hu]
    · rw [query_outside h.refines.inv h.outside h.firmwareHeld h.arguments.cr3 h.current
          (by rw [h.refines.made.arenaSlot]; exact hslot),
        query_outside h'.refines.inv h'.outside h.firmwareHeld h.arguments.cr3 h.current
          (by rw [h'.refines.made.arenaSlot]; exact hslot)]
  · unfold query queryRoot
    rw [if_neg h.refines.inv.root.2.1, if_neg h'.refines.inv.root.2.1, if_pos hcanon, if_pos hcanon]

/-- Every canonical address of the arena is in its slot. -/
theorem inArena_slot (hpages : OneSlot base length) (habove : base ≤ v)
    (hbelow : v < base + length) : pml4Index v = pml4Index base := by
  have hslot := hpages.slot
  rw [pml4Index_eq, pml4Index_eq]
  omega

/-- An object made over one megabyte in the first slot, and three calls. -/
def newPaging : Machine Pool :=
  (create (pool .table 64) firmwareMachine 0x1000 0x100000 0x100000 true).2

def samplePages : List PagingOp :=
  [.mapPage 0x100000 0x5000 true false, .mapPage 0x101000 0x6000 false true, .unmapPage 0x101000]

end Gate4Harness.Vm
