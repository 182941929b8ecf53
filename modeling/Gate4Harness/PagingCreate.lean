-- What `create` sets up: a root of its own, which agrees with the firmware's root but for
-- the arena's slot. Whatever the object does later, an address outside of the slot is
-- translated as the firmware did at that time.
import Gate4Harness.ArenaInvariant
import Gate4Harness.PagingSteps

namespace Gate4Harness.Vm

variable {W : Type} {allocator : PageAllocator W} {tables data : W → Nat → Option Nat}
  {held : Nat → Prop} {m m' : Machine W} {currentCr3 base length v : Nat} {nxEnabled : Bool}
  {firmware : Nat → Nat → Nat}

/-! ## A success of `create` -/

/-- The root table that the firmware uses. -/
def currentRoot (allocator : PageAllocator W) (currentCr3 : Nat) : Nat :=
  allocator.physicalAlias (currentCr3 &&& physicalMask)

/-- What `create` asks of its arguments. -/
structure CreateArguments (currentCr3 base length : Nat) : Prop where
  cr3 : currentCr3 ≠ 0
  nonempty : length ≠ 0
  canonical : canonical48 base = true
  fits : base + length ≤ uint64Max
  slot : pml4Index base = pml4Index (base + length - 1)

/-- The machine after a success of `create` that got this root page. -/
def Machine.created (m : Machine W) (allocator : PageAllocator W) (currentCr3 base length : Nat)
    (nxEnabled : Bool) (rootPhysical rootAlias : Nat) (world : W) : Machine W :=
  let m1 := { m with paging := {}, world }.zeroTable rootAlias
  { m1 with
    memory := Function.update m1.memory rootAlias (m1.memory (currentRoot allocator currentCr3))
    paging :=
      { rootPhysical, rootAlias, arenaBase := base, arenaLength := length
        arenaPml4Index := pml4Index base, nxEnabled
        ownedTablePages := [(rootPhysical, rootAlias)] } }

/-- What a success of `create` says. -/
structure Created (allocator : PageAllocator W) (m : Machine W) (currentCr3 base length : Nat)
    (nxEnabled : Bool) (rootPhysical rootAlias : Nat) (world : W) : Prop where
  arguments : CreateArguments currentCr3 base length
  current : currentRoot allocator currentCr3 ≠ 0
  page : allocator.allocatePage m.world = (some (rootPhysical, rootAlias), world)
  empty : isPresent ((m.created allocator currentCr3 base length nxEnabled rootPhysical rootAlias
    world).memory rootAlias (pml4Index base)) = false

theorem create_eq_ok (hlength : length ≤ uint64Max)
    (h : create allocator m currentCr3 base length nxEnabled = (.ok (), m')) :
    ∃ rootPhysical rootAlias world,
      Created allocator m currentCr3 base length nxEnabled rootPhysical rootAlias world ∧
      m' = m.created allocator currentCr3 base length nxEnabled rootPhysical rootAlias world := by
  unfold create at h
  split at h
  · simp at h
  · rename_i h1
    simp only [not_or, Decidable.not_not] at h1
    split at h
    · simp at h
    · rename_i arenaEnd hend
      have hfits := rangeEnd_fits hlength hend
      obtain ⟨-, rfl⟩ := rangeEnd_eq_some hend
      split at h
      · simp at h
      · rename_i hslot
        rw [Decidable.not_not] at hslot
        have hargs : CreateArguments currentCr3 base length := ⟨h1.1, h1.2.1, h1.2.2, hfits, hslot⟩
        dsimp only at h
        split at h
        · simp at h
        · rename_i root hroot
          have hcurrent : currentRoot allocator currentCr3 ≠ 0 ∧
              root = currentRoot allocator currentCr3 := by
            unfold tableAlias at hroot
            split at hroot
            · cases hroot
            · rename_i hne
              exact ⟨hne, by cases hroot; rfl⟩
          obtain ⟨hne, rfl⟩ := hcurrent
          split at h
          · simp at h
          · rename_i rootPhysical rootAlias world halloc
            split at h
            · simp at h
            · split at h
              · simp at h
              · rename_i hempty
                rw [Bool.not_eq_true] at hempty
                simp only [Prod.mk.injEq, true_and] at h
                exact ⟨rootPhysical, rootAlias, world, ⟨hargs, hne, halloc, hempty⟩, h.symm⟩

/-! ## The tables of the firmware -/

/-- The tables that a query can read below a root, by level. At the root the code does not
look for the flag of a large page. -/
inductive FirmwareTable (allocator : PageAllocator W) (memory : Nat → Nat → Nat) (root : Nat) :
    Nat → Nat → Prop
  | root : FirmwareTable allocator memory root 4 root
  | child {level t i : Nat} : FirmwareTable allocator memory root (level + 1) t → 1 ≤ level →
      i < 512 → isPresent (memory t i) = true → level = 3 ∨ isLarge (memory t i) = false →
      FirmwareTable allocator memory root level
        (allocator.physicalAlias (entryAddress (memory t i)))

/-- The pages of all these tables are taken. -/
def FirmwareHeld (allocator : PageAllocator W) (held : Nat → Prop) (memory : Nat → Nat → Nat)
    (currentCr3 : Nat) : Prop :=
  ∀ level t, FirmwareTable allocator memory (currentRoot allocator currentCr3) level t → held t

/-- The machine agrees with the firmware outside of the arena's slot. -/
structure Outside (allocator : PageAllocator W) (held : Nat → Prop) (firmware : Nat → Nat → Nat)
    (currentCr3 : Nat) (m : Machine W) : Prop where
  root : ∀ i, i ≠ m.paging.arenaPml4Index →
    m.memory m.paging.rootAlias i = firmware (currentRoot allocator currentCr3) i
  held : ∀ t, held t → m.memory t = firmware t

theorem Keeps.outside (h : Keeps data m m') (hinv : PagingInv allocator tables held m')
    (hout : Outside allocator held firmware currentCr3 m) :
    Outside allocator held firmware currentCr3 m' := by
  refine ⟨?_, ?_⟩
  · intro i hi
    rw [h.slot] at hi
    rw [h.rootAlias, h.root i hi]
    exact hout.root i hi
  · intro t ht
    rw [h.memory t fun hmem => hinv.foreign t hmem ht]
    exact hout.held t ht

/-- Memory that no table is in changes. -/
theorem Outside.other (hinv : PagingInv allocator tables held m)
    (hout : Outside allocator held firmware currentCr3 m) {memory : Nat → Nat → Nat} (world : W)
    (hown : ∀ t ∈ m.ownAliases, memory t = m.memory t)
    (hheld : ∀ t, held t → memory t = m.memory t) :
    Outside allocator held firmware currentCr3 { m with memory, world } := by
  have hroot : m.paging.rootAlias ∈ m.ownAliases := hinv.own [] _ ⟨by simp, by simp⟩ rfl
  refine ⟨?_, ?_⟩
  · intro i hi
    change memory m.paging.rootAlias i = _
    rw [hown _ hroot]
    exact hout.root i hi
  · intro t ht
    change memory t = _
    rw [hheld t ht]
    exact hout.held t ht

theorem and_0x1FF_lt (n : Nat) : n &&& 0x1FF < 512 := by
  rw [and_0x1FF]
  omega

/-- One step of a query down the tables of the firmware. -/
theorem FirmwareTable.next {root level t t' i : Nat}
    (h : FirmwareTable allocator firmware root (level + 1) t) (hlevel : 1 ≤ level) (hi : i < 512)
    (hpresent : isPresent (firmware t i) = true)
    (hlarge : level = 3 ∨ isLarge (firmware t i) = false)
    (halias : tableAlias allocator (entryAddress (firmware t i)) = .ok t') :
    FirmwareTable allocator firmware root level t' := by
  unfold tableAlias at halias
  split at halias
  · cases halias
  · cases halias
    exact .child h hlevel hi hpresent hlarge

/-- Outside of the slot the object translates as the firmware did. -/
theorem query_outside (hinv : PagingInv allocator tables held m)
    (hout : Outside allocator held firmware currentCr3 m)
    (hheld : FirmwareHeld allocator held firmware currentCr3) (hcr3 : currentCr3 ≠ 0)
    (hcurrent : currentRoot allocator currentCr3 ≠ 0)
    (hv : pml4Index v ≠ m.paging.arenaPml4Index) :
    query allocator m v = queryRoot allocator firmware currentCr3 v := by
  have hown : tableAlias allocator (entryAddress m.paging.rootPhysical) =
      .ok m.paging.rootAlias := by
    rw [tableAlias, hinv.root.2.2, if_neg hinv.root.1]
  have hfirm : tableAlias allocator (entryAddress currentCr3) =
      .ok (currentRoot allocator currentCr3) := by
    rw [tableAlias]
    exact if_neg hcurrent
  have hmem : ∀ {level t}, FirmwareTable allocator firmware (currentRoot allocator currentCr3)
      level t → m.memory t = firmware t := fun ht => hout.held _ (hheld _ _ ht)
  unfold query queryRoot
  rw [if_neg hinv.root.2.1, if_neg hcr3, hown, hfirm]
  by_cases hcanon : canonical48 v = true
  swap
  · simp [hcanon]
  simp only [hcanon, not_true_eq_false, if_false, bind, Except.bind, pure, Except.pure,
    hout.root _ hv]
  -- at each level both queries stop, or they go on to the same table
  generalize hroot : currentRoot allocator currentCr3 = root at *
  by_cases h4 : isPresent (firmware root (pml4Index v)) = true
  swap
  · simp [h4, throw, throwThe, MonadExceptOf.throw]
  cases ha3 : tableAlias allocator (entryAddress (firmware root (pml4Index v))) with
  | error e => simp [h4]
  | ok pdpt =>
    have ht3 := FirmwareTable.root.next (by omega) (and_0x1FF_lt _) h4 (Or.inl rfl) ha3
    simp only [h4, not_true_eq_false, if_false, hmem ht3]
    by_cases h3 : isPresent (firmware pdpt (pdptIndex v)) = true
    swap
    · simp [h3, throw, throwThe, MonadExceptOf.throw]
    by_cases hlarge3 : isLarge (firmware pdpt (pdptIndex v)) = true
    · simp [h3, hlarge3]
    rw [Bool.not_eq_true] at hlarge3
    cases ha2 : tableAlias allocator (entryAddress (firmware pdpt (pdptIndex v))) with
    | error e => simp [h3, hlarge3]
    | ok pd =>
      have ht2 := ht3.next (by omega) (and_0x1FF_lt _) h3 (Or.inr hlarge3) ha2
      simp only [h3, hlarge3, not_true_eq_false, if_false, Bool.false_eq_true, hmem ht2]
      by_cases h2 : isPresent (firmware pd (pdIndex v)) = true
      swap
      · simp [h2, throw, throwThe, MonadExceptOf.throw]
      by_cases hlarge2 : isLarge (firmware pd (pdIndex v)) = true
      · simp [h2, hlarge2]
      rw [Bool.not_eq_true] at hlarge2
      cases ha1 : tableAlias allocator (entryAddress (firmware pd (pdIndex v))) with
      | error e => simp [h2, hlarge2]
      | ok pt =>
        have ht1 := ht2.next (by omega) (and_0x1FF_lt _) h2 (Or.inr hlarge2) ha1
        simp only [h2, hlarge2, not_true_eq_false, if_false, Bool.false_eq_true, hmem ht1]

/-! ## The start of the object -/

section Created

variable (hA : Conforming allocator tables data held) {rootPhysical rootAlias : Nat} {world : W}
  (h : Created allocator m currentCr3 base length nxEnabled rootPhysical rootAlias world)

include h

theorem created_walk {p : List Nat} {a : Nat} (hp : InSlot (pml4Index base) p)
    (hw : (m.created allocator currentCr3 base length nxEnabled rootPhysical rootAlias world).walk
      allocator p = some a) : p = [] ∧ a = rootAlias := by
  cases p with
  | nil => exact ⟨rfl, (Option.some.inj hw).symm⟩
  | cons i rest =>
    have hi : i = pml4Index base := hp.2 i rfl
    subst hi
    have hno : childTable allocator ((m.created allocator currentCr3 base length nxEnabled
        rootPhysical rootAlias world).memory (m.created allocator currentCr3 base length nxEnabled
        rootPhysical rootAlias world).paging.rootAlias (pml4Index base)) = none :=
      childTable_absent h.empty
    unfold Machine.walk TableWalk.walk at hw
    rw [hno] at hw
    cases hw

theorem created_leaf (hv : pml4Index v = pml4Index base) :
    (m.created allocator currentCr3 base length nxEnabled rootPhysical rootAlias world).leaf
      allocator v = none := by
  apply leaf_none_of_walk
  cases hw : (m.created allocator currentCr3 base length nxEnabled rootPhysical rootAlias
      world).walk allocator (tablePath v) with
  | none => rfl
  | some t => exact absurd (created_walk h (inSlot_tablePath hv) hw).1 (by simp [tablePath])

include hA

theorem created_inv : PagingInv allocator tables held
    (m.created allocator currentCr3 base length nxEnabled rootPhysical rootAlias world) := by
  obtain ⟨hpart, hpos, halias⟩ := hA.page h.page
  refine ⟨⟨hpos, hpart.nonzero, ?_⟩, ?_, ?_, ?_, ?_, ?_⟩
  · change allocator.physicalAlias (entryAddress rootPhysical) = rootAlias
    rw [hpart.entryAddress, halias]
  · intro p q a hp hq hwp hwq
    rw [(created_walk h hp hwp).1, (created_walk h hq hwq).1]
  · intro p i a hp hw hpresent
    have hp' := inSlot_prefixClosed _ p i hp
    obtain ⟨rfl, rfl⟩ := created_walk h hp' hw
    have hi : i = pml4Index base := hp.2 i rfl
    rw [hi, h.empty] at hpresent
    cases hpresent
  · intro p a hp hw
    rw [(created_walk h hp hw).2]
    exact List.mem_singleton.mpr rfl
  · intro x hx
    rw [List.mem_singleton.mp hx]
    change tables world rootPhysical = some rootAlias
    rw [(hA.taken h.page).1, Function.update_self]
  · intro x hx
    rw [List.mem_singleton.mp hx]
    exact (hA.fresh h.page).2.2.1

theorem created_outside (hheld : held (currentRoot allocator currentCr3)) :
    Outside allocator held m.memory currentCr3
      (m.created allocator currentCr3 base length nxEnabled rootPhysical rootAlias world) := by
  have hforeign := (hA.fresh h.page).2.2.1
  have hne : ∀ {t}, held t → t ≠ rootAlias := by
    rintro t ht rfl
    exact hforeign ht
  refine ⟨?_, ?_⟩
  · intro i _
    simp only [Machine.created, Machine.zeroTable, Function.update_self,
      Function.update_of_ne (hne hheld)]
  · intro t ht
    simp only [Machine.created, Machine.zeroTable, Function.update_of_ne (hne ht)]

end Created

end Gate4Harness.Vm
