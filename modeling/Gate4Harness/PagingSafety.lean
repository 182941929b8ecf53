-- The tables of the firmware are safe: no operation of the object writes to them. This
-- rests on the checks of `create` and of `arena_contains_page`, and they are not right for
-- every arena. An arena that ends in the first page makes the last subtraction of
-- `arena_contains_page` wrap, and an arena of more than all slots together can begin and
-- end in slots of the same index.
import Gate4Harness.PagingLaws
import Gate4Harness.VirtualMemorySteps

namespace Gate4Harness.Vm

open Runs

variable {W : Type} {c : Context W} {tables data : W → Nat → Option Nat} {held : Nat → Prop}
  {m m' : Machine W} {currentCr3 base length u v : Nat} {nxEnabled : Bool}
  {firmware : Nat → Nat → Nat}

/-! ## Safety -/

/-- The firmware's part of the tables is safe in a state. -/
structure FirmwareSafe (allocator : PageAllocator W) (held : Nat → Prop)
    (firmware : Nat → Nat → Nat) (currentCr3 base length : Nat) (m : Machine W) : Prop where
  /-- A page that `map_page` and `unmap_page` take is in the arena and in its slot. -/
  pages : ∀ v, Accepted m.paging v → InArena base length v ∧ pml4Index v = pml4Index base
  /-- Only tables of the object's own were written. -/
  written : ∀ t ∈ m.written, t ∈ m.ownAliases
  /-- The other entries of the root are those of the firmware's root. -/
  root : ∀ i, i ≠ pml4Index base →
    m.memory m.paging.rootAlias i = firmware (currentRoot allocator currentCr3) i
  /-- The tables of the firmware are as they were. -/
  shared : ∀ t, held t → m.memory t = firmware t

/-- What the data pages must not be: tables of the firmware, or tables of the object. -/
structure DataPages (dataAllocator : PageAllocator W) (tables : W → Nat → Option Nat)
    (held : Nat → Prop) : Prop where
  apart : ∀ {w w' p a}, dataAllocator.allocatePage w = (some (p, a), w') →
    ¬ held a ∧ ∀ q, tables w q ≠ some a
  allocated : ∀ w, tables (dataAllocator.allocatePage w).2 = tables w
  freed : ∀ p a w, tables (dataAllocator.freePage p a w) = tables w

/-- What a run keeps. -/
structure SafeInv (allocator : PageAllocator W) (tables : W → Nat → Option Nat)
    (held : Nat → Prop) (firmware : Nat → Nat → Nat) (currentCr3 base length : Nat)
    (nxEnabled : Bool) (m : Machine W) : Prop where
  inv : PagingInv allocator tables held m
  made : MadeFor m.paging base length nxEnabled
  written : ∀ t ∈ m.written, t ∈ m.ownAliases
  outside : Outside allocator held firmware currentCr3 m

theorem SafeInv.safe {allocator : PageAllocator W}
    (h : SafeInv allocator tables held firmware currentCr3 base length nxEnabled m)
    (hargs : CreateArguments currentCr3 base length) (hfits : FitsSlot base length) :
    FirmwareSafe allocator held firmware currentCr3 base length m := by
  have hm := h.made
  refine ⟨?_, h.written, ?_, h.outside.held⟩
  · intro v hv
    refine ⟨?_, (slotSound_of_fits hm hargs hfits v hv).trans hm.arenaSlot⟩
    have hin := (arenaContainsPage_iff (by rw [hm.arenaLength]; exact hargs.nonempty)
      (by rw [hm.arenaBase, hm.arenaLength]; exact hargs.fits)
      (by rw [hm.arenaBase, hm.arenaLength]; exact hfits.1)).mp hv.inside
    rw [hm.arenaBase, hm.arenaLength] at hin
    exact hin
  · intro i hi
    rw [← hm.arenaSlot] at hi
    exact h.outside.root i hi

/-! ## The operations -/

section Steps

variable {allocator : PageAllocator W}
  (h : SafeInv allocator tables held firmware currentCr3 base length nxEnabled m)

include h

theorem SafeInv.keeps (hinv : PagingInv allocator tables held m') (hk : Keeps data m m') :
    SafeInv allocator tables held firmware currentCr3 base length nxEnabled m' := by
  refine ⟨hinv, hk.madeFor h.made, ?_, hk.outside hinv h.outside⟩
  intro t ht
  rcases hk.written t ht with hold | hown
  · exact hk.ownAliases (h.written t hold)
  · exact hown

/-- Memory changes that are not the tables' own, and not the firmware's. -/
theorem SafeInv.other {memory : Nat → Nat → Nat} {world : W}
    (hown : ∀ t ∈ m.ownAliases, memory t = m.memory t)
    (hheld : ∀ t, held t → memory t = m.memory t) (hworld : tables world = tables m.world) :
    SafeInv allocator tables held firmware currentCr3 base length nxEnabled
      { m with memory, world } :=
  ⟨other_inv h.inv world hown hworld, h.made, h.written,
    h.outside.other h.inv world hown hheld⟩

end Steps

section Operations

variable (hargs : CreateArguments currentCr3 base length) (hfits : FitsSlot base length)

section Tables

variable {allocator : PageAllocator W} (hA : Conforming allocator tables data held)
  (h : SafeInv allocator tables held firmware currentCr3 base length nxEnabled m)

include hargs hfits h

theorem SafeInv.unmapPage (v : Nat) :
    SafeInv allocator tables held firmware currentCr3 base length nxEnabled
      (unmapPage allocator m v).2 := by
  have hk : _ ∧ Keeps (fun _ _ => none) m (Vm.unmapPage allocator m v).2 :=
    unmapPage_keeps h.inv (slotSound_of_fits h.made hargs hfits) v
  exact h.keeps hk.1 hk.2

theorem SafeInv.unmapBack (virtualStart index : Nat) :
    SafeInv allocator tables held firmware currentCr3 base length nxEnabled
      (unmapBack allocator m virtualStart index) := by
  induction index generalizing m with
  | zero => exact h
  | succ index ih => exact ih (h.unmapPage hargs hfits _)

include hA

theorem SafeInv.mapPage (v p : Nat) (writable executable : Bool) :
    SafeInv allocator tables held firmware currentCr3 base length nxEnabled
      (mapPage allocator m v p writable executable).2 := by
  have hk := mapPage_keeps hA h.inv (slotSound_of_fits h.made hargs hfits) v p writable executable
  exact h.keeps hk.1 hk.2

theorem SafeInv.mapFrom (virtualStart physicalStart : Nat) (writable executable : Bool)
    (index left : Nat) :
    SafeInv allocator tables held firmware currentCr3 base length nxEnabled
      (mapFrom allocator m virtualStart physicalStart writable executable index left).2 := by
  induction left generalizing m index with
  | zero => exact h
  | succ left ih =>
    have h1 := h.mapPage hargs hfits hA (virtualStart + index * pageSize)
      (physicalStart + index * pageSize) writable executable
    unfold Vm.mapFrom
    generalize Vm.mapPage allocator m (virtualStart + index * pageSize)
      (physicalStart + index * pageSize) writable executable = r at h1 ⊢
    obtain ⟨answer, m1⟩ := r
    cases answer with
    | error e => exact h1.unmapBack hargs hfits virtualStart index
    | ok _ => exact ih h1 (index + 1)

theorem SafeInv.mapRange (virtualStart physicalStart pageCount : Nat)
    (writable executable : Bool) :
    SafeInv allocator tables held firmware currentCr3 base length nxEnabled
      (mapRange allocator m virtualStart physicalStart pageCount writable executable).2 := by
  unfold Vm.mapRange
  split
  · exact h
  · exact h.mapFrom hargs hfits hA virtualStart physicalStart writable executable 0 pageCount

end Tables

/-! ## Commit a range -/

section Commit

variable (hT : Conforming c.tableAllocator tables data held)
  (hD : DataPages c.dataAllocator tables held) {s : Space W}
  (h : SafeInv c.tableAllocator tables held firmware currentCr3 base length nxEnabled s.machine)

include hD h

theorem SafeInv.freeData (p a : Nat) :
    SafeInv c.tableAllocator tables held firmware currentCr3 base length nxEnabled
      (s.freeData c p a).machine :=
  h.other (fun _ _ => rfl) (fun _ _ => rfl) (hD.freed p a s.machine.world)

omit hD in
theorem SafeInv.decommit (v : Nat) :
    SafeInv c.tableAllocator tables held firmware currentCr3 base length nxEnabled
      (s.decommit v).machine := by
  unfold Space.decommit
  split <;> exact h

include hargs hfits

theorem SafeInv.dropPage (v p a : Nat) :
    SafeInv c.tableAllocator tables held firmware currentCr3 base length nxEnabled
      (s.dropPage c v p a).machine := by
  have h1 : SafeInv c.tableAllocator tables held firmware currentCr3 base length nxEnabled
      (s.unmap c v).machine := h.unmapPage hargs hfits v
  exact SafeInv.freeData hD (h1.decommit v) p a

theorem SafeInv.rollBack (created : List CreatedPage) :
    SafeInv c.tableAllocator tables held firmware currentCr3 base length nxEnabled
      (rollBack c s created).machine := by
  induction created generalizing s with
  | nil => exact h
  | cons x rest ih =>
    exact ih (SafeInv.dropPage hargs hfits hD h x.virtualPage x.physicalPage x.page)

include hT

theorem SafeInv.commitTurn (writable executable : Bool) (v : Nat) :
    SafeInv c.tableAllocator tables held firmware currentCr3 base length nxEnabled
      (commitTurn c writable executable s v).2.machine := by
  unfold Vm.commitTurn
  split
  · split <;> exact h
  · have hworld := hD.allocated s.machine.world
    cases halloc : c.dataAllocator.allocatePage s.machine.world with
    | mk answer world =>
      rw [halloc] at hworld
      have h1 : SafeInv c.tableAllocator tables held firmware currentCr3 base length nxEnabled
          (s.withWorld world).machine := h.other (fun _ _ => rfl) (fun _ _ => rfl) hworld
      cases answer with
      | none => exact h1
      | some pages =>
        obtain ⟨p, a⟩ := pages
        dsimp only
        split
        · split
          · exact SafeInv.freeData hD h1 p a
          · exact h1
        · -- the new page is none of the tables, so its zeros do no harm
          obtain ⟨hheld, hfree⟩ := hD.apart halloc
          have hne : ∀ t ∈ (s.withWorld world).machine.ownAliases, t ≠ a :=
            fun t ht => h.inv.ne_of_own hfree ht
          have h2 : SafeInv c.tableAllocator tables held firmware currentCr3 base length nxEnabled
              ((s.withWorld world).machine.zeroData a) := by
            refine h1.other (fun t ht => ?_) (fun t ht => ?_) rfl
            · exact Function.update_of_ne (hne t ht) _ _
            · refine Function.update_of_ne ?_ _ _
              rintro rfl
              exact hheld ht
          have h3 := h2.mapPage hargs hfits hT v p writable executable
          generalize Vm.mapPage c.tableAllocator ((s.withWorld world).machine.zeroData a) v p
            writable executable = r at h3 ⊢
          obtain ⟨mapped, m3⟩ := r
          cases mapped with
          | error e =>
            exact SafeInv.freeData hD (s := ({ s.withWorld world with machine := m3 })) h3 p a
          | ok _ =>
            dsimp only
            split
            · have h4 : SafeInv c.tableAllocator tables held firmware currentCr3 base length
                  nxEnabled (({ s.withWorld world with machine := m3 }).unmap c v).machine :=
                SafeInv.unmapPage hargs hfits h3 v
              exact SafeInv.freeData hD h4 p a
            · exact h3

theorem SafeInv.commitFrom (writable executable : Bool) (created : List CreatedPage)
    (v left : Nat) :
    SafeInv c.tableAllocator tables held firmware currentCr3 base length nxEnabled
      (commitFrom c writable executable s created v left).2.machine := by
  induction left generalizing s created v with
  | zero => exact h
  | succ left ih =>
    have h1 := SafeInv.commitTurn hargs hfits hT hD h writable executable v
    have hnext := fun created' => ih h1 created' (v + pageSize)
    unfold Vm.commitFrom
    generalize Vm.commitTurn c writable executable s v = r at h1 hnext ⊢
    obtain ⟨answer, s1⟩ := r
    rcases answer with e | _ | x
    · exact SafeInv.rollBack hargs hfits hD h1 created
    · exact hnext created
    · exact hnext (x :: created)

theorem SafeInv.commitRange (slot start bytes : Nat) (writable executable : Bool) :
    SafeInv c.tableAllocator tables held firmware currentCr3 base length nxEnabled
      (commitRange c s slot start bytes writable executable).2.machine := by
  rcases commitRange_cases c s slot start bytes writable executable with
    ⟨e, heq⟩ | ⟨_, page, count, -, -, -, heq⟩
  · rw [heq]
    exact h
  · rw [heq]
    exact SafeInv.commitFrom hargs hfits hT hD h writable executable [] page count

end Commit

end Operations

/-! ## Where the checks go wrong -/

/-- An arena that does not fit has a page that is taken and lies in another slot. -/
theorem exists_accepted_outside {paging : Paging} (hm : MadeFor paging base length nxEnabled)
    (hargs : CreateArguments currentCr3 base length) (hno : ¬ FitsSlot base length) :
    ∃ v, Accepted paging v ∧ pml4Index v ≠ pml4Index base := by
  have hbase := hargs.canonical
  have hslot := hargs.slot
  have hend := hargs.fits
  have hlength := hargs.nonempty
  rw [canonical48_iff] at hbase
  rw [pml4Index_eq, pml4Index_eq] at hslot
  have hcontains : ∀ v, v % pageSize = 0 → base ≤ v →
      v ≤ (base + length + 2 ^ 64 - pageSize) % 2 ^ 64 → arenaContainsPage paging v = true := by
    intro v h1 h2 h3
    unfold arenaContainsPage
    rw [hm.arenaBase, hm.arenaLength, rangeEnd_eq hlength hend]
    simp only [Bool.and_eq_true, decide_eq_true_eq]
    exact ⟨⟨⟨hlength, h1⟩, h2⟩, h3⟩
  by_cases hpage : pageSize ≤ base + length
  · -- the arena has more bytes than all slots together
    have hbig : ¬ (length ≤ 2 ^ 39 ∨ base / 2 ^ 39 = 255) := fun h => hno ⟨hpage, h⟩
    refine ⟨(base / 2 ^ 39 + 1) * 2 ^ 39, ⟨?_, ?_, hcontains _ ?_ ?_ ?_⟩, ?_⟩
    · rw [canonical48_iff]
      simp only [uint64Max] at hend
      omega
    · simp only [pageSize]
      omega
    · simp only [pageSize]
      omega
    · omega
    · simp only [pageSize, uint64Max] at *
      omega
    · rw [pml4Index_eq, pml4Index_eq]
      simp only [uint64Max] at hend
      omega
  · -- the end of the arena is below the size of a page
    refine ⟨2 ^ 39, ⟨by decide, by decide, hcontains _ (by decide) ?_ ?_⟩, ?_⟩
    · simp only [pageSize] at hpage
      omega
    · simp only [pageSize] at *
      omega
    · rw [pml4Index_eq, pml4Index_eq]
      simp only [pageSize] at hpage
      omega

/-! ## Every run -/

/-- The operations, each with any arguments. A commit comes with any arena. -/
inductive FrameOp
  | mapPage (virtualPage physicalPage : Nat) (writable executable : Bool)
  | mapRange (virtualStart physicalStart pageCount : Nat) (writable executable : Bool)
  | unmapPage (virtualPage : Nat)
  | commitRange (arena : Arena) (generation slot requestedStart requestedBytes : Nat)
      (writable executable : Bool)

def frameStep (tableAllocator dataAllocator : PageAllocator W) (m : Machine W) :
    FrameOp → Machine W
  | .mapPage v p writable executable => (mapPage tableAllocator m v p writable executable).2
  | .mapRange v p count writable executable =>
    (mapRange tableAllocator m v p count writable executable).2
  | .unmapPage v => (unmapPage tableAllocator m v).2
  | .commitRange arena generation slot start bytes writable executable =>
    (commitRange { tableAllocator, dataAllocator, generation } { arena, machine := m } slot start
      bytes writable executable).2.machine

theorem created_safeInv {tableAllocator : PageAllocator W}
    (hT : Conforming tableAllocator tables data held) (hlength : length ≤ uint64Max)
    (h : NewPaging tableAllocator held firmware currentCr3 base length nxEnabled m) :
    CreateArguments currentCr3 base length ∧
    SafeInv tableAllocator tables held firmware currentCr3 base length nxEnabled m := by
  obtain ⟨m0, rfl, hwritten, hheld, hcreate⟩ := h
  obtain ⟨rootPhysical, rootAlias, world, hnew, rfl⟩ := create_eq_ok hlength hcreate
  refine ⟨hnew.arguments, created_inv hT hnew, ⟨rfl, rfl, rfl, rfl⟩, ?_,
    created_outside hT hnew (hheld 4 _ .root)⟩
  intro t ht
  change t ∈ rootAlias :: m0.written at ht
  rw [hwritten] at ht
  exact ht

section Run

variable {tableAllocator dataAllocator : PageAllocator W}
  (hT : Conforming tableAllocator tables data held) (hD : DataPages dataAllocator tables held)

include hT hD

theorem SafeInv.frameStep (hargs : CreateArguments currentCr3 base length)
    (hfits : FitsSlot base length)
    (h : SafeInv tableAllocator tables held firmware currentCr3 base length nxEnabled m)
    (op : FrameOp) : SafeInv tableAllocator tables held firmware currentCr3 base length nxEnabled
      (frameStep tableAllocator dataAllocator m op) := by
  cases op with
  | mapPage v p writable executable => exact h.mapPage hargs hfits hT v p writable executable
  | mapRange v p count writable executable =>
    exact h.mapRange hargs hfits hT v p count writable executable
  | unmapPage v => exact h.unmapPage hargs hfits v
  | commitRange arena generation slot start bytes writable executable =>
    exact SafeInv.commitRange (c := { tableAllocator, dataAllocator, generation }) hargs hfits
      hT hD (s := { arena, machine := m }) h slot start bytes writable executable

theorem SafeInv.of_reach {m0 : Machine W} (hargs : CreateArguments currentCr3 base length)
    (hfits : FitsSlot base length)
    (hstart : SafeInv tableAllocator tables held firmware currentCr3 base length nxEnabled m0)
    (hm : Reach (fun m => m = m0) (Vm.frameStep tableAllocator dataAllocator)
      (fun _ _ => True) m) :
    SafeInv tableAllocator tables held firmware currentCr3 base length nxEnabled m := by
  apply hm.invariant
  · rintro m rfl
    exact hstart
  · intro m op _ h _
    exact h.frameStep hT hD hargs hfits op

end Run

/-- The tables of the firmware are safe in every run, exactly when the arena fits. -/
theorem firmware_is_safe_iff_arena_fits {tableAllocator dataAllocator : PageAllocator W}
    (hT : Conforming tableAllocator tables data held) (hD : DataPages dataAllocator tables held)
    (hlength : length ≤ uint64Max) {m0 : Machine W}
    (hnew : NewPaging tableAllocator held firmware currentCr3 base length nxEnabled m0) :
    (∀ m, Reach (fun m => m = m0) (frameStep tableAllocator dataAllocator) (fun _ _ => True) m →
      FirmwareSafe tableAllocator held firmware currentCr3 base length m) ↔
    FitsSlot base length := by
  obtain ⟨hargs, hstart⟩ := created_safeInv hT hlength hnew
  constructor
  · intro hsafe
    by_contra hno
    obtain ⟨v, hv, hslot⟩ := exists_accepted_outside hstart.made hargs hno
    exact hslot ((hsafe m0 (.start rfl)).pages v hv).2
  · intro hfits m hm
    exact (SafeInv.of_reach hT hD hargs hfits hstart hm).safe hargs hfits

theorem pool_dataPages (use other : PageUse) (limit : Nat) (hother : other ≠ .free)
    (hne : use ≠ other) : DataPages (pool use limit) (poolOut other) poolHeld := by
  refine ⟨?_, ?_, fun p a w => poolOut_free w p a hne hother⟩
  · intro w w' p a h
    obtain ⟨-, rfl, rfl, -⟩ := allocatePage_eq_some h
    refine ⟨?_, poolOut_next other w⟩
    unfold poolHeld poolPage
    simp only [pageSize]
    omega
  · intro w
    simp only [pool]
    split
    · rw [poolOut_append, if_neg hne]
    · rfl

theorem newPaging_new :
    NewPaging (pool .table 64) poolHeld firmwareTables 0x1000 0x100000 0x100000 true newPaging :=
  ⟨firmwareMachine, rfl, rfl, firmwareTables_held .table 64, Prod.ext (by decide +kernel) rfl⟩

theorem firmware_is_safe_of_pool :
    FirmwareSafe (pool .table 64) poolHeld firmwareTables 0x1000 0x100000 0x100000
      (frameStep (pool .table 64) (pool .data 64) newPaging
        (.mapPage 0x100000 0x5000 true false)) :=
  (firmware_is_safe_iff_arena_fits
    (pool_conforming .table .data 64 (by decide) (by decide) (by decide) (by decide))
    (pool_dataPages .data .table 64 (by decide) (by decide)) (by decide) newPaging_new).mpr
    ⟨by decide, by decide⟩ _ (.step (.start rfl) trivial)

/-- An object over one byte at address 0. -/
def tinyPaging : Machine Pool := (create (pool .table 64) firmwareMachine 0x1000 0 1 true).2

/-- The second slot is no part of that arena, but a page in it is taken, and an entry goes
into the table of the firmware. -/
theorem tiny_arena_writes_to_a_firmware_table :
    (create (pool .table 64) firmwareMachine 0x1000 0 1 true).1 = .ok () ∧
    ∃ m, Reach (fun m => m = tinyPaging) (frameStep (pool .table 64) (pool .data 64))
        (fun _ _ => True) m ∧
      0x2000 ∈ m.written ∧ 0x2000 ∉ m.ownAliases ∧
      m.memory 0x2000 0 ≠ firmwareTables 0x2000 0 ∧
      ¬ FirmwareSafe (pool .table 64) poolHeld firmwareTables 0x1000 0 1 m := by
  have hwritten : 0x2000 ∈ (frameStep (pool .table 64) (pool .data 64) tinyPaging
      (.mapPage 0x8000000000 0x5000 true false)).written := by
    decide +kernel
  have hown : 0x2000 ∉ (frameStep (pool .table 64) (pool .data 64) tinyPaging
      (.mapPage 0x8000000000 0x5000 true false)).ownAliases := by
    decide +kernel
  exact ⟨by decide +kernel, _, .step (.start rfl) trivial, hwritten, hown, by decide +kernel,
    fun h => hown (h.written _ hwritten)⟩

end Gate4Harness.Vm
