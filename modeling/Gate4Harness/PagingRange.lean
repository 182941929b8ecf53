-- What a page reads back as once it is mapped, and what `map_range` leaves behind when it
-- fails. `map_page` puts the physical page and the flags into one entry and the readers mask
-- it, so a page of 2^52 and above is taken and reads back as another page.
import Gate4Harness.PagingSafety

namespace Gate4Harness.Vm

open Runs

variable {W : Type} {allocator : PageAllocator W} {tables data : W → Nat → Option Nat}
  {held : Nat → Prop} {m m' : Machine W} {currentCr3 base length u v p n k : Nat}
  {nxEnabled writable executable : Bool} {firmware : Nat → Nat → Nat}
  {L : Nat → Option Nat} {flags : Nat}

/-! ## The entries of the slot by page number -/

/-- The leaves of the arena's slot, by page number. -/
def Shows (allocator : PageAllocator W) (base : Nat) (m : Machine W) (L : Nat → Option Nat) :
    Prop :=
  ∀ v, canonical48 v = true → pml4Index v = pml4Index base →
    m.leaf allocator v = L (v / pageSize)

theorem leaf_of_samePage (h : u / pageSize = v / pageSize) :
    m.leaf allocator u = m.leaf allocator v := by
  obtain ⟨h1, h2, h3, h4⟩ := indices_of_samePage h
  unfold Machine.leaf tablePath
  rw [h1, h2, h3, h4]

/-- Every state has its entries. -/
theorem shows_leaves (allocator : PageAllocator W) (base : Nat) (m : Machine W) :
    Shows allocator base m fun n => m.leaf allocator (n * pageSize) := by
  intro v _ _
  apply leaf_of_samePage
  simp only [pageSize]
  omega

/-- `count` pages from page `n` on have the physical pages from `p` on, and the others are
as they were. -/
def withRange (L : Nat → Option Nat) (n p flags count : Nat) : Nat → Option Nat := fun i =>
  if n ≤ i ∧ i < n + count then some ((p + (i - n) * pageSize) ||| flags) else L i

theorem withRange_zero (L : Nat → Option Nat) (n p flags : Nat) :
    withRange L n p flags 0 = L := by
  funext i
  unfold withRange
  rw [if_neg (by omega)]

theorem withRange_succ (L : Nat → Option Nat) (n p flags k : Nat) :
    Function.update (withRange L n p flags k) (n + k) (some ((p + k * pageSize) ||| flags)) =
      withRange L n p flags (k + 1) := by
  funext i
  by_cases hi : i = n + k
  · subst hi
    rw [Function.update_self, withRange, if_pos (by omega), Nat.add_sub_cancel_left]
  · rw [Function.update_of_ne hi]
    unfold withRange
    by_cases hin : n ≤ i ∧ i < n + k
    · rw [if_pos hin, if_pos (by omega)]
    · rw [if_neg hin, if_neg (by omega)]

/-- The last page of a range goes away again. -/
theorem withRange_pop (hfree : L (n + k) = none) :
    Function.update (withRange L n p flags (k + 1)) (n + k) none = withRange L n p flags k := by
  rw [← withRange_succ, Function.update_idem, Function.update_eq_self_iff]
  unfold withRange
  rw [if_neg (by omega), hfree]

/-! ## One page -/

section Object

variable (hargs : CreateArguments currentCr3 base length) (hslot : OneSlot base length)

include hslot in
/-- Every page of the arena is canonical and in the slot. -/
theorem InArena.taken (hin : InArena base length v)
    (hargs : CreateArguments currentCr3 base length)
    (hm : MadeFor m.paging base length nxEnabled) :
    Accepted m.paging v ∧ pml4Index v = pml4Index base := by
  have habove := hin.above
  have hbelow := hin.below
  simp only [pageSize] at hbelow
  exact ⟨(accepted_iff hm hargs hslot).mpr hin, inArena_slot hslot habove (by omega)⟩

variable (h : SafeInv allocator tables held firmware currentCr3 base length nxEnabled m)

include hargs hslot h

/-- A page of the arena that is taken away. -/
theorem Shows.unmapPage (hL : Shows allocator base m L) (hin : InArena base length v) :
    Shows allocator base (unmapPage allocator m v).2 (Function.update L (v / pageSize) none) ∧
    (Vm.unmapPage allocator m v).1 =
      match L (v / pageSize) with
      | some entry => .ok (entryAddress entry)
      | none => .error .notPresent := by
  obtain ⟨hacc, hv⟩ := hin.taken hslot hargs h.made
  have heffect := unmapPage_effect h.inv (slotSound_of_fits h.made hargs hslot.fitsSlot) v
  have hleaf := hL v hacc.canonical hv
  generalize Vm.unmapPage allocator m v = r at heffect ⊢
  obtain ⟨answer, m'⟩ := r
  dsimp only at heffect ⊢
  cases heffect with
  | refused hno => exact absurd hacc hno
  | absent _ hnone =>
    rw [hleaf] at hnone
    rw [hnone]
    refine ⟨?_, rfl⟩
    rwa [Function.update_eq_self_iff.mpr hnone.symm]
  | @unmapped t entry _ hsome hw =>
    rw [hleaf] at hsome
    rw [hsome]
    refine ⟨?_, rfl⟩
    intro u hu hus
    rw [store_leaf h.inv (hv.trans h.made.arenaSlot.symm) hw 0 (hus.trans h.made.arenaSlot.symm)]
    by_cases hsame : u / pageSize = v / pageSize
    · rw [if_pos ((sameEntry_iff hu hacc.canonical).mpr hsame), hsame, Function.update_self]
      rfl
    · rw [if_neg fun hs => hsame ((sameEntry_iff hu hacc.canonical).mp hs),
        Function.update_of_ne hsame]
      exact hL u hu hus

/-- A page that is mapped was not there, and no other changes. When the call fails none
does. -/
theorem Shows.mapPage (hA : Conforming allocator tables data held)
    (hL : Shows allocator base m L) (v p : Nat) (writable executable : Bool) :
    match (mapPage allocator m v p writable executable).1 with
    | .ok _ => InArena base length v ∧ p % pageSize = 0 ∧ p ≠ 0 ∧ L (v / pageSize) = none ∧
        Shows allocator base (mapPage allocator m v p writable executable).2
          (Function.update L (v / pageSize)
            (some (p ||| pageFlags nxEnabled writable executable)))
    | .error _ => Shows allocator base (mapPage allocator m v p writable executable).2 L := by
  have hsound := slotSound_of_fits h.made hargs hslot.fitsSlot
  have heffect := mapPage_effect hA h.inv hsound v p writable executable
  have hgrown : ∀ {m1 : Machine W}, Grown allocator tables data held m m1 →
      Shows allocator base m1 L := by
    intro m1 hg u hu hus
    rw [hg.leaves u (hus.trans h.made.arenaSlot.symm)]
    exact hL u hu hus
  generalize Vm.mapPage allocator m v p writable executable = r at heffect ⊢
  obtain ⟨answer, m'⟩ := r
  dsimp only at heffect ⊢
  cases heffect with
  | refused => exact hL
  | present _ _ hg => exact hgrown hg
  | short _ _ _ hg => exact hgrown hg
  | @mapped m1 t ha hnone hg hw =>
    have hv := (hsound v ha.1).trans h.made.arenaSlot
    have hslot1 := (hsound v ha.1).trans hg.keeps.slot.symm
    rw [hL v ha.1.canonical hv] at hnone
    refine ⟨(accepted_iff h.made hargs hslot).mp ha.1, ha.2.2, ha.2.1, hnone, ?_⟩
    intro u hu hus
    rw [store_leaf hg.inv hslot1 hw _ ((hus.trans h.made.arenaSlot.symm).trans hg.keeps.slot.symm),
      pageEntry_present ha.2.2, if_pos rfl, h.made.nx]
    by_cases hsame : u / pageSize = v / pageSize
    · rw [if_pos ((sameEntry_iff hu ha.1.canonical).mpr hsame), hsame, Function.update_self]
    · rw [if_neg fun hs => hsame ((sameEntry_iff hu ha.1.canonical).mp hs),
        Function.update_of_ne hsame]
      exact hgrown hg u hu hus

/-- A query of an address of the arena reads the entry of its page. -/
theorem Shows.query (hL : Shows allocator base m L) (hin : InArena base length v)
    (hu : u / pageSize = v / pageSize) :
    query allocator m u =
      match L (v / pageSize) with
      | some entry => .ok (pageMapping entry u)
      | none => .error .notPresent := by
  obtain ⟨hacc, -⟩ := hin.taken hslot hargs h.made
  have hcanon : canonical48 u = true := by
    have hcanon := hacc.canonical
    have haligned := hin.aligned
    rw [canonical48_iff] at hcanon ⊢
    simp only [pageSize] at hu haligned
    omega
  have hslotu : pml4Index u = pml4Index base := by
    have habove := hin.above
    have hbelow := hin.below
    have haligned := hin.aligned
    simp only [pageSize] at hu hbelow haligned
    exact inArena_slot hslot (by omega) (by omega)
  have hquery := query_eq h.inv hcanon (hslotu.trans h.made.arenaSlot.symm)
  rwa [hL u hcanon hslotu, hu] at hquery

/-! ## The loop of `map_range` -/

/-- The pages of a range that were mapped are taken away again. -/
theorem Shows.unmapBack (hvs : v % pageSize = 0)
    (hL : Shows allocator base m (withRange L (v / pageSize) p flags k))
    (hin : ∀ i < k, InArena base length (v + i * pageSize))
    (hfree : ∀ i < k, L (v / pageSize + i) = none) :
    Shows allocator base (unmapBack allocator m v k) L := by
  induction k generalizing m with
  | zero => rwa [withRange_zero] at hL
  | succ k ih =>
    have hnumber : (v + k * pageSize) / pageSize = v / pageSize + k := by
      simp only [pageSize] at *
      omega
    have hone := (hL.unmapPage hargs hslot h (hin k (by omega))).1
    rw [hnumber, withRange_pop (hfree k (by omega))] at hone
    exact ih (h.unmapPage hargs hslot.fitsSlot _) hone (fun i hi => hin i (by omega))
      fun i hi => hfree i (by omega)

/-- The loop from an index on: the pages before it are mapped already. -/
theorem Shows.mapFrom (hA : Conforming allocator tables data held) (hvs : v % pageSize = 0)
    (writable executable : Bool) {index : Nat} (left : Nat)
    (hL : Shows allocator base m
      (withRange L (v / pageSize) p (pageFlags nxEnabled writable executable) index))
    (hin : ∀ i < index, InArena base length (v + i * pageSize))
    (hfree : ∀ i < index, L (v / pageSize + i) = none) :
    match (mapFrom allocator m v p writable executable index left).1 with
    | .ok _ => (∀ i < index + left, InArena base length (v + i * pageSize)) ∧
        Shows allocator base (mapFrom allocator m v p writable executable index left).2
          (withRange L (v / pageSize) p (pageFlags nxEnabled writable executable) (index + left))
    | .error _ => Shows allocator base (mapFrom allocator m v p writable executable index left).2 L
    := by
  induction left generalizing m index with
  | zero => exact ⟨hin, hL⟩
  | succ left ih =>
    have hnumber : (v + index * pageSize) / pageSize = v / pageSize + index := by
      simp only [pageSize] at *
      omega
    have hone := hL.mapPage hargs hslot h hA (v + index * pageSize) (p + index * pageSize)
      writable executable
    have hnext := h.mapPage hargs hslot.fitsSlot hA (v + index * pageSize)
      (p + index * pageSize) writable executable
    unfold Vm.mapFrom
    generalize Vm.mapPage allocator m (v + index * pageSize) (p + index * pageSize) writable
      executable = r at hone hnext ⊢
    obtain ⟨answer, m1⟩ := r
    cases answer with
    | error e => exact Shows.unmapBack hargs hslot hnext hvs hone hin hfree
    | ok _ =>
      obtain ⟨hpage, -, -, hnone, hL1⟩ := hone
      rw [hnumber, withRange_succ] at hL1
      rw [hnumber] at hnone
      -- the page was not there before the loop, for the loop only has the pages before it
      have hfirst : L (v / pageSize + index) = none := by
        unfold withRange at hnone
        rwa [if_neg (by omega)] at hnone
      have hrest := ih hnext hL1
        (fun i hi => by
          rcases Nat.lt_succ_iff_lt_or_eq.mp hi with hi | rfl
          · exact hin i hi
          · exact hpage)
        fun i hi => by
          rcases Nat.lt_succ_iff_lt_or_eq.mp hi with hi | rfl
          · exact hfree i hi
          · exact hfirst
      have hcount : index + 1 + left = index + (left + 1) := by omega
      rwa [hcount] at hrest

theorem Shows.mapRange (hA : Conforming allocator tables data held)
    (hL : Shows allocator base m L) (v p count : Nat) (writable executable : Bool) :
    match (mapRange allocator m v p count writable executable).1 with
    | .ok _ => v % pageSize = 0 ∧ p % pageSize = 0 ∧ count ≠ 0 ∧
        (∀ i < count, InArena base length (v + i * pageSize)) ∧
        Shows allocator base (mapRange allocator m v p count writable executable).2
          (withRange L (v / pageSize) p (pageFlags nxEnabled writable executable) count)
    | .error _ => Shows allocator base (mapRange allocator m v p count writable executable).2 L
    := by
  unfold Vm.mapRange
  by_cases hgood : count = 0 ∨ count > maxCommitments ∨ v % pageSize ≠ 0 ∨ p % pageSize ≠ 0 ∨
      count > (uint64Max - v) / pageSize ∨ count > (uint64Max - p) / pageSize
  · rw [if_pos hgood]
    exact hL
  · rw [if_neg hgood]
    simp only [not_or, Decidable.not_not] at hgood
    have hnone : Shows allocator base m
        (withRange L (v / pageSize) p (pageFlags nxEnabled writable executable) 0) := by
      rwa [withRange_zero]
    have hloop := hnone.mapFrom hargs hslot h hA hgood.2.2.1 writable executable count (by omega)
      (by omega)
    generalize Vm.mapFrom allocator m v p writable executable 0 count = r at hloop ⊢
    obtain ⟨answer, m1⟩ := r
    cases answer with
    | error e => exact hloop
    | ok _ =>
      rw [Nat.zero_add] at hloop
      exact ⟨hgood.2.2.1, hgood.2.2.2.1, hgood.1, hloop⟩

end Object

/-- Where the entries of the slot are the same, all queries are. -/
theorem Shows.query_eq (hargs : CreateArguments currentCr3 base length)
    (hheld : FirmwareHeld allocator held firmware currentCr3)
    (hcurrent : currentRoot allocator currentCr3 ≠ 0)
    (h : SafeInv allocator tables held firmware currentCr3 base length nxEnabled m)
    (h' : SafeInv allocator tables held firmware currentCr3 base length nxEnabled m')
    (hL : Shows allocator base m L) (hL' : Shows allocator base m' L) (u : Nat) :
    Vm.query allocator m' u = Vm.query allocator m u := by
  by_cases hcanon : canonical48 u = true
  · by_cases hus : pml4Index u = pml4Index base
    · rw [Vm.query_eq h.inv hcanon (hus.trans h.made.arenaSlot.symm),
        Vm.query_eq h'.inv hcanon (hus.trans h'.made.arenaSlot.symm), hL u hcanon hus,
        hL' u hcanon hus]
    · rw [query_outside h.inv h.outside hheld hargs.cr3 hcurrent
          (by rw [h.made.arenaSlot]; exact hus),
        query_outside h'.inv h'.outside hheld hargs.cr3 hcurrent
          (by rw [h'.made.arenaSlot]; exact hus)]
  · unfold Vm.query queryRoot
    rw [if_neg h.inv.root.2.1, if_neg h'.inv.root.2.1, if_pos hcanon, if_pos hcanon]

/-! ## What can be read back -/

/-- The mask gives the whole page back when it has no bit above the mask. -/
theorem entryAddress_eq_self_iff (hp : p % pageSize = 0) : entryAddress p = p ↔ p < 2 ^ 52 := by
  rw [entryAddress_eq]
  simp only [pageSize] at hp
  omega

theorem pageEntry_entryAddress (p : Nat) (nxEnabled writable executable : Bool) :
    entryAddress (p ||| pageFlags nxEnabled writable executable) = entryAddress p := by
  rw [entryAddress_or, pageFlags_address, Nat.or_zero]

theorem flagBit_iff {bit : Nat} (flag : Bool) (hbit : bit ≠ 0) :
    (if flag then bit else 0) ≠ 0 ↔ flag = true := by
  cases flag <;> simp [hbit]

/-- Every address of a virtual page is translated into the physical page. -/
def Translates (allocator : PageAllocator W) (m : Machine W) (v p : Nat) : Prop :=
  ∀ offset < pageSize, ∃ mapping,
    query allocator m (v + offset) = .ok mapping ∧ mapping.physicalBase = p + offset

/-- What `query` and `unmap_page` say of a page is what `map_page` was given. -/
structure ReadsBack (allocator : PageAllocator W) (m : Machine W) (v p : Nat)
    (writable noExecute : Bool) : Prop where
  query : ∀ offset < pageSize, ∃ mapping, query allocator m (v + offset) = .ok mapping ∧
    mapping.physicalBase = p + offset ∧ mapping.pageSize = pageSize ∧
    (mapping.entryFlags &&& entryWritableBit ≠ 0 ↔ writable = true) ∧
    (mapping.entryFlags &&& entryNoExecuteBit ≠ 0 ↔ noExecute = true)
  unmap : (unmapPage allocator m v).1 = .ok p

section Readers

variable (hargs : CreateArguments currentCr3 base length) (hslot : OneSlot base length)
  (h : SafeInv allocator tables held firmware currentCr3 base length nxEnabled m)
  (hL : Shows allocator base m L) (hin : InArena base length v)
  (hentry : L (v / pageSize) = some (p ||| pageFlags nxEnabled writable executable))

include hargs hslot h hL hin hentry

theorem Shows.query_offset {offset : Nat} (hoffset : offset < pageSize) :
    Vm.query allocator m (v + offset) =
      .ok (pageMapping (p ||| pageFlags nxEnabled writable executable) (v + offset)) ∧
    (pageMapping (p ||| pageFlags nxEnabled writable executable) (v + offset)).physicalBase =
      entryAddress p + offset := by
  have haligned := hin.aligned
  have hsame : (v + offset) / pageSize = v / pageSize := by
    simp only [pageSize] at *
    omega
  refine ⟨?_, ?_⟩
  · rw [hL.query hargs hslot h hin hsame, hentry]
  · have hmod : (v + offset) % pageSize = offset := by
      simp only [pageSize] at *
      omega
    simp only [pageMapping, pageEntry_entryAddress, hmod]

theorem Shows.translates_iff (hp : p % pageSize = 0) :
    Translates allocator m v p ↔ p < 2 ^ 52 := by
  rw [← entryAddress_eq_self_iff hp]
  constructor
  · intro htranslates
    obtain ⟨mapping, hquery, hbase⟩ := htranslates 0 (by decide)
    have hzero : 0 < pageSize := by decide
    obtain ⟨hread, hphysical⟩ := hL.query_offset hargs hslot h hin hentry hzero
    rw [hread, Except.ok.injEq] at hquery
    rw [← hquery, hphysical] at hbase
    exact hbase
  · intro hself offset hoffset
    obtain ⟨hread, hphysical⟩ := hL.query_offset hargs hslot h hin hentry hoffset
    rw [hself] at hphysical
    exact ⟨_, hread, hphysical⟩

theorem Shows.readsBack_iff (hp : p % pageSize = 0) (hpos : p ≠ 0) :
    ReadsBack allocator m v p writable (!executable && nxEnabled) ↔ p < 2 ^ 52 := by
  constructor
  · intro hback
    rw [← entryAddress_eq_self_iff hp]
    have hunmap := (hL.unmapPage hargs hslot h hin).2
    rw [hback.unmap, hentry] at hunmap
    simpa only [pageEntry_entryAddress, Except.ok.injEq, eq_comm] using hunmap
  · intro hsmall
    have hself := (entryAddress_eq_self_iff hp).mpr hsmall
    have hflags := PageEntry.entry_flags ⟨p, writable, !executable && nxEnabled⟩ ⟨hpos, hp, hsmall⟩
    rw [← PageEntry.entry_eq] at hflags
    refine ⟨?_, ?_⟩
    · intro offset hoffset
      obtain ⟨hread, hphysical⟩ := hL.query_offset hargs hslot h hin hentry hoffset
      rw [hself] at hphysical
      refine ⟨_, hread, hphysical, rfl, ?_, ?_⟩
      · change (p ||| pageFlags nxEnabled writable executable) &&& entryWritableBit ≠ 0 ↔ _
        rw [hflags.1]
        exact flagBit_iff writable (by decide)
      · change (p ||| pageFlags nxEnabled writable executable) &&& entryNoExecuteBit ≠ 0 ↔ _
        rw [hflags.2]
        exact flagBit_iff (!executable && nxEnabled) (by decide)
    · rw [(hL.unmapPage hargs hslot h hin).2, hentry]
      dsimp only
      rw [pageEntry_entryAddress, hself]

end Readers

/-! ## Every paging object -/

section Run

variable {tableAllocator dataAllocator : PageAllocator W}
  (hT : Conforming tableAllocator tables data held) (hD : DataPages dataAllocator tables held)
  (hslot : OneSlot base length) {m0 : Machine W}
  (hnew : NewPaging tableAllocator held firmware currentCr3 base length nxEnabled m0)
  (hm : Reach (fun m => m = m0) (frameStep tableAllocator dataAllocator) (fun _ _ => True) m)

include hT hD hslot hnew hm

theorem reach_safeInv : CreateArguments currentCr3 base length ∧
    SafeInv tableAllocator tables held firmware currentCr3 base length nxEnabled m := by
  have hlength : length ≤ uint64Max := by
    have hone := hslot.slot
    simp only [uint64Max]
    omega
  obtain ⟨hargs, hstart⟩ := created_safeInv hT hlength hnew
  exact ⟨hargs, SafeInv.of_reach hT hD hargs hslot.fitsSlot hstart hm⟩

/-- A page that is mapped reads back as it was given, exactly when it is below 2^52. -/
theorem a_mapped_page_reads_back_iff (v p : Nat) (writable executable : Bool)
    (hok : (mapPage tableAllocator m v p writable executable).1 = .ok ()) :
    ReadsBack tableAllocator (mapPage tableAllocator m v p writable executable).2 v p writable
      (!executable && nxEnabled) ↔ p < 2 ^ 52 := by
  obtain ⟨hargs, h⟩ := reach_safeInv hT hD hslot hnew hm
  have hmap := (shows_leaves tableAllocator base m).mapPage hargs hslot h hT v p writable executable
  have hnext := h.mapPage hargs hslot.fitsSlot hT v p writable executable
  rw [hok] at hmap
  obtain ⟨hin, hp, hpos, -, hL⟩ := hmap
  exact hL.readsBack_iff hargs hslot hnext hin (Function.update_self ..) hp hpos

end Run

theorem a_page_of_the_pool_reads_back :
    ReadsBack (pool .table 64) (mapPage (pool .table 64) newPaging 0x100000 0x5000 true false).2
      0x100000 0x5000 true true :=
  (a_mapped_page_reads_back_iff
    (pool_conforming .table .data 64 (by decide) (by decide) (by decide) (by decide))
    (pool_dataPages .data .table 64 (by decide) (by decide))
    ⟨by decide, by decide⟩ newPaging_new (.start rfl) 0x100000 0x5000 true false
    (by decide +kernel)).mpr (by decide)

/-- A page above the mask is taken, and both readers give another page. -/
theorem a_high_page_reads_back_as_another :
    NewPaging (pool .table 64) poolHeld firmwareTables 0x1000 0x100000 0x100000 true newPaging ∧
    (mapPage (pool .table 64) newPaging 0x100000 (2 ^ 52 + 0x5000) true false).1 = .ok () ∧
    ((query (pool .table 64)
      (mapPage (pool .table 64) newPaging 0x100000 (2 ^ 52 + 0x5000) true false).2
      0x100000).toOption.map Mapping.physicalBase = some 0x5000) ∧
    (unmapPage (pool .table 64)
      (mapPage (pool .table 64) newPaging 0x100000 (2 ^ 52 + 0x5000) true false).2
      0x100000).1 = .ok 0x5000 ∧
    ¬ ReadsBack (pool .table 64)
      (mapPage (pool .table 64) newPaging 0x100000 (2 ^ 52 + 0x5000) true false).2
      0x100000 (2 ^ 52 + 0x5000) true true := by
  have hunmap : (unmapPage (pool .table 64)
      (mapPage (pool .table 64) newPaging 0x100000 (2 ^ 52 + 0x5000) true false).2
      0x100000).1 = .ok 0x5000 := by
    decide +kernel
  refine ⟨newPaging_new, by decide +kernel, by decide +kernel, hunmap, fun hback => ?_⟩
  have hread := hback.unmap
  rw [hunmap] at hread
  exact absurd hread (by decide)

section Run

variable {tableAllocator dataAllocator : PageAllocator W}
  (hT : Conforming tableAllocator tables data held) (hD : DataPages dataAllocator tables held)
  (hslot : OneSlot base length) {m0 : Machine W}
  (hnew : NewPaging tableAllocator held firmware currentCr3 base length nxEnabled m0)
  (hm : Reach (fun m => m = m0) (frameStep tableAllocator dataAllocator) (fun _ _ => True) m)

include hT hD hslot hnew hm

/-- A range that is mapped is translated page by page, exactly when it ends by 2^52. A call
that fails changes no translation. -/
theorem map_range_is_all_or_nothing (v p count : Nat) (writable executable : Bool) :
    ((mapRange tableAllocator m v p count writable executable).1 = .ok () →
      ((∀ i < count, Translates tableAllocator
          (mapRange tableAllocator m v p count writable executable).2
          (v + i * pageSize) (p + i * pageSize)) ↔ p + count * pageSize ≤ 2 ^ 52)) ∧
    ∀ e, (mapRange tableAllocator m v p count writable executable).1 = .error e →
      ∀ u, query tableAllocator (mapRange tableAllocator m v p count writable executable).2 u =
        query tableAllocator m u := by
  obtain ⟨hargs, h⟩ := reach_safeInv hT hD hslot hnew hm
  have hfirst := shows_leaves tableAllocator base m
  have hmap := hfirst.mapRange hargs hslot h hT v p count writable executable
  have hnext := h.mapRange hargs hslot.fitsSlot hT v p count writable executable
  refine ⟨?_, ?_⟩
  · intro hok
    rw [hok] at hmap
    obtain ⟨hvs, hps, hcount, hin, hL⟩ := hmap
    have hpage : ∀ i < count, Translates tableAllocator
        (mapRange tableAllocator m v p count writable executable).2
        (v + i * pageSize) (p + i * pageSize) ↔ p + i * pageSize < 2 ^ 52 := by
      intro i hi
      have hnumber : (v + i * pageSize) / pageSize = v / pageSize + i := by
        simp only [pageSize] at *
        omega
      have hentry : withRange (fun n => m.leaf tableAllocator (n * pageSize)) (v / pageSize) p
          (pageFlags nxEnabled writable executable) count ((v + i * pageSize) / pageSize) =
            some ((p + i * pageSize) ||| pageFlags nxEnabled writable executable) := by
        rw [hnumber, withRange, if_pos (by omega), Nat.add_sub_cancel_left]
      apply hL.translates_iff hargs hslot hnext (hin i hi) hentry
      simp only [pageSize] at *
      omega
    constructor
    · intro hall
      have hlast := (hpage (count - 1) (by omega)).mp (hall _ (by omega))
      simp only [pageSize] at *
      omega
    · intro hend i hi
      rw [hpage i hi]
      simp only [pageSize] at *
      omega
  · intro e he u
    rw [he] at hmap
    obtain ⟨_, -, -, hheld, hcreate⟩ := hnew
    have hlength : length ≤ uint64Max := by
      have hone := hslot.slot
      simp only [uint64Max]
      omega
    obtain ⟨_, _, _, hcreated, -⟩ := create_eq_ok hlength hcreate
    exact Shows.query_eq hargs hheld hcreated.current h hnext hfirst hmap u

end Run

theorem a_range_of_the_pool_is_mapped :
    (mapRange (pool .table 64) newPaging 0x100000 0x5000 2 true false).1 = .ok () ∧
    ∀ i < 2, Translates (pool .table 64)
      (mapRange (pool .table 64) newPaging 0x100000 0x5000 2 true false).2
      (0x100000 + i * pageSize) (0x5000 + i * pageSize) := by
  have hok : (mapRange (pool .table 64) newPaging 0x100000 0x5000 2 true false).1 = .ok () := by
    decide +kernel
  refine ⟨hok, ?_⟩
  exact ((map_range_is_all_or_nothing
    (pool_conforming .table .data 64 (by decide) (by decide) (by decide) (by decide))
    (pool_dataPages .data .table 64 (by decide) (by decide))
    ⟨by decide, by decide⟩ newPaging_new (.start rfl) 0x100000 0x5000 2 true false).1
    hok).mpr (by decide)

/-- The second page of the range is the first above the mask. The call returns OK and maps
it to page 0. -/
theorem a_range_over_the_mask_maps_another_page :
    NewPaging (pool .table 64) poolHeld firmwareTables 0x1000 0x100000 0x100000 true newPaging ∧
    (mapRange (pool .table 64) newPaging 0x100000 (2 ^ 52 - 0x1000) 2 true false).1 = .ok () ∧
    ((query (pool .table 64)
      (mapRange (pool .table 64) newPaging 0x100000 (2 ^ 52 - 0x1000) 2 true false).2
      0x101000).toOption.map Mapping.physicalBase = some 0) ∧
    ¬ ∀ i < 2, Translates (pool .table 64)
      (mapRange (pool .table 64) newPaging 0x100000 (2 ^ 52 - 0x1000) 2 true false).2
      (0x100000 + i * pageSize) (2 ^ 52 - 0x1000 + i * pageSize) := by
  have hread : (query (pool .table 64)
      (mapRange (pool .table 64) newPaging 0x100000 (2 ^ 52 - 0x1000) 2 true false).2
      0x101000).toOption.map Mapping.physicalBase = some 0 := by
    decide +kernel
  refine ⟨newPaging_new, by decide +kernel, hread, fun hall => ?_⟩
  obtain ⟨mapping, hquery, hbase⟩ := hall 1 (by decide) 0 (by decide)
  change query _ _ 0x101000 = _ at hquery
  rw [hquery] at hread
  simp only [Except.toOption, Option.map_some, hbase] at hread
  exact absurd hread (by decide)

end Gate4Harness.Vm
