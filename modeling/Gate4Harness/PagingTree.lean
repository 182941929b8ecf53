-- The invariant of the page tables of the arena. Below the arena's entry of the root
-- they are a tree: each table has one path, every entry that is present leads to a table of
-- the object's own, and each operation changes at most one leaf.
import Gate4Harness.PagingEntries
import Gate4Harness.TableWalk

namespace Gate4Harness.Vm

open TableWalk

variable {W : Type} {allocator : PageAllocator W} {tables data : W → Nat → Option Nat}
  {held : Nat → Prop} {m m' : Machine W} {a i v : Nat} {p q : List Nat}

/-! ## The allocator -/

/-- What the code relies on: pages that are handed out are fresh, their aliases are those of
`physical_alias`, and `free_page` takes them back. `out` says which pages are out and under
which alias, `other` the same of another allocator, and `held` the pages of the firmware. -/
structure Conforming (allocator : PageAllocator W) (out other : W → Nat → Option Nat)
    (held : Nat → Prop) : Prop where
  page : ∀ {w w' p a}, allocator.allocatePage w = (some (p, a), w') →
    PhysicalPage p ∧ a ≠ 0 ∧ allocator.physicalAlias p = a
  fresh : ∀ {w w' p a}, allocator.allocatePage w = (some (p, a), w') →
    out w p = none ∧ other w p = none ∧ ¬ held a ∧
    ∀ q, out w q ≠ some a ∧ other w q ≠ some a
  taken : ∀ {w w' p a}, allocator.allocatePage w = (some (p, a), w') →
    out w' = Function.update (out w) p (some a) ∧ other w' = other w
  failed : ∀ {w w'}, allocator.allocatePage w = (none, w') → out w' = out w ∧ other w' = other w
  freed : ∀ {w p a}, out w p = some a →
    out (allocator.freePage p a w) = Function.update (out w) p none ∧
    other (allocator.freePage p a w) = other w

/-! ## Tables and paths -/

/-- The table that an entry leads to. -/
def childTable (allocator : PageAllocator W) (entry : Nat) : Option Nat :=
  if isPresent entry ∧ ¬ isLarge entry ∧ allocator.physicalAlias (entryAddress entry) ≠ 0 then
    some (allocator.physicalAlias (entryAddress entry))
  else none

theorem childTable_eq_some {entry b : Nat} (h : childTable allocator entry = some b) :
    isPresent entry = true ∧ isLarge entry = false ∧
    tableAlias allocator (entryAddress entry) = .ok b := by
  unfold childTable at h
  split at h
  · rename_i hc
    cases h
    exact ⟨hc.1, by simpa using hc.2.1, by simp [tableAlias, hc.2.2]⟩
  · cases h

theorem childTable_absent {entry : Nat} (h : isPresent entry = false) :
    childTable allocator entry = none := by
  simp [childTable, h]

/-- The paths of at most three steps that begin in the arena's entry of the root. -/
def InSlot (slot : Nat) (p : List Nat) : Prop := p.length ≤ 3 ∧ ∀ i ∈ p.head?, i = slot

theorem inSlot_prefixClosed (slot : Nat) : PrefixClosed (InSlot slot) := by
  rintro p i ⟨hlen, hhead⟩
  refine ⟨?_, ?_⟩
  · rw [List.length_append] at hlen
    omega
  · cases p with
    | nil => simp
    | cons j rest => simpa using hhead

theorem inSlot_end {slot : Nat} (h : p.length = 3) (i : Nat) : ¬ InSlot slot (p ++ [i]) := by
  rintro ⟨hlen, -⟩
  rw [List.length_append, h] at hlen
  simp at hlen

/-- The walk from the root of the object. -/
def Machine.walk (m : Machine W) (allocator : PageAllocator W) (p : List Nat) : Option Nat :=
  TableWalk.walk (childTable allocator) m.memory m.paging.rootAlias p

/-- The way to the page table of an address. -/
def tablePath (v : Nat) : List Nat := [pml4Index v, pdptIndex v, pdIndex v]

/-- The entry of a page, if it is there. -/
def Machine.leaf (m : Machine W) (allocator : PageAllocator W) (v : Nat) : Option Nat :=
  (m.walk allocator (tablePath v)).bind fun t =>
    if isPresent (m.memory t (ptIndex v)) then some (m.memory t (ptIndex v)) else none

/-- The aliases of the table pages that the object made. -/
def Machine.ownAliases (m : Machine W) : List Nat := m.paging.ownedTablePages.map Prod.snd

structure PagingInv (allocator : PageAllocator W) (tables : W → Nat → Option Nat)
    (held : Nat → Prop) (m : Machine W) : Prop where
  root : m.paging.rootAlias ≠ 0 ∧ m.paging.rootPhysical ≠ 0 ∧
    allocator.physicalAlias (entryAddress m.paging.rootPhysical) = m.paging.rootAlias
  oneWay : OneWay (childTable allocator) m.memory m.paging.rootAlias
    (InSlot m.paging.arenaPml4Index)
  entries : ∀ p i a, InSlot m.paging.arenaPml4Index (p ++ [i]) → m.walk allocator p = some a →
    isPresent (m.memory a i) = true → (childTable allocator (m.memory a i)).isSome = true
  own : ∀ p a, InSlot m.paging.arenaPml4Index p → m.walk allocator p = some a → a ∈ m.ownAliases
  out : ∀ x ∈ m.paging.ownedTablePages, tables m.world x.1 = some x.2
  foreign : ∀ x ∈ m.ownAliases, ¬ held x

/-- What `create` fixes for good. -/
def Paging.config (x : Paging) : Paging := { x with ownedTablePages := [] }

/-- What a step leaves of the machine: all but the tables of its own. -/
structure Keeps (data : W → Nat → Option Nat) (m m' : Machine W) : Prop where
  config : m'.paging.config = m.paging.config
  own : ∀ x ∈ m.paging.ownedTablePages, x ∈ m'.paging.ownedTablePages
  memory : ∀ t, t ∉ m'.ownAliases → m'.memory t = m.memory t
  root : ∀ i, i ≠ m.paging.arenaPml4Index →
    m'.memory m.paging.rootAlias i = m.memory m.paging.rootAlias i
  written : ∀ t ∈ m'.written, t ∈ m.written ∨ t ∈ m'.ownAliases
  data : data m'.world = data m.world

theorem Keeps.refl (data : W → Nat → Option Nat) (m : Machine W) : Keeps data m m :=
  ⟨rfl, fun _ h => h, fun _ _ => rfl, fun _ _ => rfl, fun _ h => Or.inl h, rfl⟩

section Config

variable (h : Keeps data m m')

include h

theorem Keeps.rootAlias : m'.paging.rootAlias = m.paging.rootAlias :=
  (congrArg Paging.rootAlias h.config :)

theorem Keeps.arenaBase : m'.paging.arenaBase = m.paging.arenaBase :=
  (congrArg Paging.arenaBase h.config :)

theorem Keeps.arenaLength : m'.paging.arenaLength = m.paging.arenaLength :=
  (congrArg Paging.arenaLength h.config :)

theorem Keeps.slot : m'.paging.arenaPml4Index = m.paging.arenaPml4Index :=
  (congrArg Paging.arenaPml4Index h.config :)

theorem Keeps.nxEnabled : m'.paging.nxEnabled = m.paging.nxEnabled :=
  (congrArg Paging.nxEnabled h.config :)

theorem Keeps.ownAliases {t : Nat} (ht : t ∈ m.ownAliases) : t ∈ m'.ownAliases := by
  obtain ⟨x, hx, rfl⟩ := List.mem_map.mp ht
  exact List.mem_map_of_mem (h.own x hx)

end Config

theorem Keeps.trans {m1 m2 m3 : Machine W} (h1 : Keeps data m1 m2) (h2 : Keeps data m2 m3) :
    Keeps data m1 m3 := by
  refine ⟨h2.config.trans h1.config, fun x hx => h2.own x (h1.own x hx), ?_, ?_, ?_,
    h2.data.trans h1.data⟩
  · intro t ht
    rw [h2.memory t ht, h1.memory t fun hmem => ht (h2.ownAliases hmem)]
  · intro i hi
    have hi2 : i ≠ m2.paging.arenaPml4Index := by
      rw [h1.slot]
      exact hi
    have := h2.root i hi2
    rw [h1.rootAlias] at this
    rw [this, h1.root i hi]
  · intro t ht
    rcases h2.written t ht with hold | hown
    · rcases h1.written t hold with hold | hown
      · exact Or.inl hold
      · exact Or.inr (h2.ownAliases hown)
    · exact Or.inr hown

/-- The tree gets tables, but no leaf changes. -/
structure Grown (allocator : PageAllocator W) (tables data : W → Nat → Option Nat)
    (held : Nat → Prop) (m m' : Machine W) : Prop where
  inv : PagingInv allocator tables held m'
  keeps : Keeps data m m'
  walks : ∀ q t, InSlot m.paging.arenaPml4Index q → m.walk allocator q = some t →
    m'.walk allocator q = some t
  leaves : ∀ v, pml4Index v = m.paging.arenaPml4Index → m'.leaf allocator v = m.leaf allocator v

theorem Grown.refl (h : PagingInv allocator tables held m) :
    Grown allocator tables data held m m :=
  ⟨h, .refl data m, fun _ _ _ hw => hw, fun _ _ => rfl⟩

theorem Grown.trans {m1 m2 m3 : Machine W} (h1 : Grown allocator tables data held m1 m2)
    (h2 : Grown allocator tables data held m2 m3) : Grown allocator tables data held m1 m3 := by
  have hslot := h1.keeps.slot
  refine ⟨h2.inv, h1.keeps.trans h2.keeps, ?_, ?_⟩
  · intro q t hq hw
    exact h2.walks q t (by rw [hslot]; exact hq) (h1.walks q t hq hw)
  · intro v hv
    rw [h2.leaves v (by rw [hslot]; exact hv), h1.leaves v hv]

/-! ## A new table -/

/-- The machine after `allocate_table` linked in a new page. -/
def Machine.linked (m : Machine W) (parent index physical page : Nat) (world : W) : Machine W :=
  { ({ m with world }.zeroTable page).store parent index
      (physical ||| entryPresentBit ||| entryWritableBit) with
    paging := { m.paging with ownedTablePages := m.paging.ownedTablePages ++ [(physical, page)] } }

theorem linked_memory_other {parent index physical page b j : Nat} {world : W} (hb : b ≠ page)
    (hbj : ¬ (b = parent ∧ j = index)) :
    (m.linked parent index physical page world).memory b j = m.memory b j := by
  simp only [Machine.linked, Machine.store, Machine.zeroTable]
  by_cases hparent : b = parent
  · have hj : j ≠ index := fun hj => hbj ⟨hparent, hj⟩
    subst hparent
    rw [Function.update_self, Function.update_of_ne hj, Function.update_of_ne hb]
  · rw [Function.update_of_ne hparent, Function.update_of_ne hb]

theorem linked_memory_parent {parent index physical page : Nat} {world : W} :
    (m.linked parent index physical page world).memory parent index =
      physical ||| entryPresentBit ||| entryWritableBit := by
  simp only [Machine.linked, Machine.store, Machine.zeroTable, Function.update_self]

theorem linked_memory_page {parent index physical page : Nat} {world : W} (hne : page ≠ parent)
    (j : Nat) : (m.linked parent index physical page world).memory page j = 0 := by
  simp only [Machine.linked, Machine.store, Machine.zeroTable, Function.update_of_ne hne,
    Function.update_self]

theorem tablePath_length (v : Nat) : (tablePath v).length = 3 := rfl

theorem inSlot_tablePath {slot : Nat} (hv : pml4Index v = slot) : InSlot slot (tablePath v) := by
  refine ⟨le_refl 3, ?_⟩
  simp [tablePath, hv]

/-- A page that holds no table is none of the object's own. -/
theorem PagingInv.ne_of_own (h : PagingInv allocator tables held m) {a t : Nat}
    (hfree : ∀ p, tables m.world p ≠ some a) (ht : t ∈ m.ownAliases) : t ≠ a := by
  rintro rfl
  obtain ⟨x, hx, rfl⟩ := List.mem_map.mp ht
  exact hfree x.1 (h.out x hx)

/-- A page of the allocator is no table of the tree yet. -/
theorem PagingInv.fresh (h : PagingInv allocator tables held m)
    (hA : Conforming allocator tables data held) {physical page : Nat} {world : W}
    (halloc : allocator.allocatePage m.world = (some (physical, page), world)) :
    page ∉ m.ownAliases :=
  fun hmem => h.ne_of_own (fun q => ((hA.fresh halloc).2.2.2 q).1) hmem rfl

section Link

variable (hA : Conforming allocator tables data held) (h : PagingInv allocator tables held m)
  (hp : InSlot m.paging.arenaPml4Index (p ++ [i])) (hw : m.walk allocator p = some a)
  (hno : isPresent (m.memory a i) = false) {physical page : Nat} {world : W}
  (halloc : allocator.allocatePage m.world = (some (physical, page), world))

include hA h hp hw hno halloc

/-- All walks after the new table is linked in. -/
theorem linked_walk (q : List Nat) (hq : InSlot m.paging.arenaPml4Index q) :
    (q = p ++ [i] → (m.linked a i physical page world).walk allocator q = some page) ∧
    (q ≠ p ++ [i] → (m.linked a i physical page world).walk allocator q = m.walk allocator q) ∧
    OneWay (childTable allocator) (m.linked a i physical page world).memory m.paging.rootAlias
      (InSlot m.paging.arenaPml4Index) := by
  have hp' := inSlot_prefixClosed _ p i hp
  have hfresh : ∀ q, InSlot m.paging.arenaPml4Index q → m.walk allocator q ≠ some page := by
    intro q hq hwq
    exact h.fresh hA halloc (h.own q page hq hwq)
  have hne : page ≠ a := by
    rintro rfl
    exact hfresh p hp' hw
  have hnew : ∀ j, childTable allocator ((m.linked a i physical page world).memory page j) =
      none := by
    intro j
    rw [linked_memory_page hne]
    exact childTable_absent isPresent_zero
  have hlink : childTable allocator ((m.linked a i physical page world).memory a i) =
      some page := by
    obtain ⟨hpage, hpos, halias⟩ := hA.page halloc
    obtain ⟨h1, h2, h3⟩ := tableEntry_facts hpage
    rw [linked_memory_parent, childTable, h3, halias, if_pos ⟨h1, by simp [h2], hpos⟩]
  have hkeep : ∀ b j, b ≠ page → ¬ (b = a ∧ j = i) →
      (m.linked a i physical page world).memory b j = m.memory b j :=
    fun b j hb hbj => linked_memory_other hb hbj
  have hwalk := walk_link (inSlot_prefixClosed _) h.oneWay hp' hw (childTable_absent hno) hfresh
    hnew hlink hkeep q hq
  exact ⟨hwalk.1, hwalk.2, h.oneWay.link (inSlot_prefixClosed _) hp' hw (childTable_absent hno)
    hfresh hnew hlink hkeep⟩

theorem linked_inv : PagingInv allocator tables held (m.linked a i physical page world) := by
  have hp' := inSlot_prefixClosed _ p i hp
  have hpage := h.fresh hA halloc
  obtain ⟨hpart, hpos, halias⟩ := hA.page halloc
  obtain ⟨h1, h2, h3⟩ := tableEntry_facts hpart
  have hown : (m.linked a i physical page world).ownAliases = m.ownAliases ++ [page] := by
    simp [Machine.ownAliases, Machine.linked]
  have hne : page ≠ a := by
    rintro rfl
    exact hpage (h.own p page hp' hw)
  refine ⟨h.root, (linked_walk hA h hp hw hno halloc p hp').2.2, ?_, ?_, ?_, ?_⟩
  · intro q j b hq hwq hpresent
    have hq' := inSlot_prefixClosed _ q j hq
    obtain ⟨hw1, hw2, -⟩ := linked_walk hA h hp hw hno halloc q hq'
    by_cases hqi : q = p ++ [i]
    · rw [hw1 hqi, Option.some.injEq] at hwq
      subst hwq
      rw [linked_memory_page hne] at hpresent
      cases hpresent
    · rw [hw2 hqi] at hwq
      have hb : b ≠ page := by
        rintro rfl
        exact hpage (h.own q b hq' hwq)
      by_cases hbj : b = a ∧ j = i
      · obtain ⟨rfl, rfl⟩ := hbj
        rw [linked_memory_parent, childTable, h3, halias, if_pos ⟨h1, by simp [h2], hpos⟩]
        rfl
      · rw [linked_memory_other hb hbj] at hpresent ⊢
        exact h.entries q j b hq hwq hpresent
  · intro q b hq hwq
    rw [hown, List.mem_append]
    obtain ⟨hw1, hw2, -⟩ := linked_walk hA h hp hw hno halloc q hq
    by_cases hqi : q = p ++ [i]
    · rw [hw1 hqi, Option.some.injEq] at hwq
      exact Or.inr (by simp [hwq])
    · rw [hw2 hqi] at hwq
      exact Or.inl (h.own q b hq hwq)
  · intro x hx
    have hx' : x ∈ m.paging.ownedTablePages ++ [(physical, page)] := hx
    change tables world x.1 = some x.2
    rw [(hA.taken halloc).1]
    rcases List.mem_append.mp hx' with hold | hnew
    · have hne' : x.1 ≠ physical := by
        intro heq
        have hout := h.out x hold
        rw [heq, (hA.fresh halloc).1] at hout
        cases hout
      rw [Function.update_of_ne hne']
      exact h.out x hold
    · rw [List.mem_singleton.mp hnew, Function.update_self]
  · intro x hx
    rw [hown, List.mem_append, List.mem_singleton] at hx
    rcases hx with hold | rfl
    · exact h.foreign x hold
    · exact (hA.fresh halloc).2.2.1

theorem linked_keeps : Keeps data m (m.linked a i physical page world) := by
  have hp' := inSlot_prefixClosed _ p i hp
  have hpage := h.fresh hA halloc
  have hroot := h.own [] m.paging.rootAlias ⟨by simp, by simp⟩ rfl
  have hown : (m.linked a i physical page world).ownAliases = m.ownAliases ++ [page] := by
    simp [Machine.ownAliases, Machine.linked]
  refine ⟨rfl, fun x hx => List.mem_append_left _ hx, ?_, ?_, ?_, (hA.taken halloc).2⟩
  · intro t ht
    rw [hown, List.mem_append, List.mem_singleton, not_or] at ht
    have hta : t ≠ a := by
      rintro rfl
      exact ht.1 (h.own p t hp' hw)
    funext j
    exact linked_memory_other ht.2 fun hboth => hta hboth.1
  · intro j hj
    apply linked_memory_other
    · rintro rfl
      exact hpage hroot
    · rintro ⟨hra, rfl⟩
      -- the table is the root, so its path is empty and the step is into the slot
      have hnil : p = [] := h.oneWay p [] a hp' ⟨by simp, by simp⟩ hw (by rw [← hra]; rfl)
      subst hnil
      exact hj (hp.2 j (by simp))
  · intro t ht
    have ht' : t ∈ a :: page :: m.written := ht
    rw [hown, List.mem_append, List.mem_singleton]
    rcases List.mem_cons.mp ht' with rfl | ht'
    · exact Or.inr (Or.inl (h.own p t hp' hw))
    · rcases List.mem_cons.mp ht' with rfl | hold
      · exact Or.inr (Or.inr rfl)
      · exact Or.inl hold

theorem linked_grown : Grown allocator tables data held m (m.linked a i physical page world) := by
  have hp' := inSlot_prefixClosed _ p i hp
  have hpage := h.fresh hA halloc
  have hne : page ≠ a := by
    rintro rfl
    exact hpage (h.own p page hp' hw)
  have hold : m.walk allocator (p ++ [i]) = none := by
    rw [Machine.walk, walk_snoc]
    change (m.walk allocator p).bind _ = none
    rw [hw]
    exact childTable_absent hno
  refine ⟨linked_inv hA h hp hw hno halloc, linked_keeps hA h hp hw hno halloc, ?_, ?_⟩
  · intro q t hq hwq
    have hqi : q ≠ p ++ [i] := by
      rintro rfl
      rw [hold] at hwq
      cases hwq
    rw [(linked_walk hA h hp hw hno halloc q hq).2.1 hqi]
    exact hwq
  · intro v hv
    have hq := inSlot_tablePath hv
    obtain ⟨hw1, hw2, -⟩ := linked_walk hA h hp hw hno halloc (tablePath v) hq
    unfold Machine.leaf
    by_cases hqi : tablePath v = p ++ [i]
    · rw [hw1 hqi, hqi, hold]
      simp only [Option.bind_some, linked_memory_page hne]
      rfl
    · rw [hw2 hqi]
      cases hwv : m.walk allocator (tablePath v) with
      | none => rfl
      | some t =>
        have ht : t ≠ page := by
          rintro rfl
          exact hpage (h.own _ t hq hwv)
        have hta : t ≠ a := by
          -- a table that gets a child is no page table
          rintro rfl
          have hpath := h.oneWay (tablePath v) p t hq hp' hwv hw
          rw [← hpath] at hp
          exact inSlot_end (tablePath_length v) i hp
        simp only [Option.bind_some]
        rw [linked_memory_other ht fun hboth => hta hboth.1]

end Link

end Gate4Harness.Vm
