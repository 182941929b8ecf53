-- What each operation on the page tables does to the leaves: `map_page` sets one that was
-- not there, `unmap_page` takes one away, and `query` reads one. All else stays.
import Gate4Harness.PagingTree

namespace Gate4Harness.Vm

open TableWalk

variable {W : Type} {allocator : PageAllocator W} {tables data : W → Nat → Option Nat}
  {held : Nat → Prop} {m m' : Machine W} {a i u v : Nat} {p : List Nat}

/-! ## Tables on demand -/

/-- A change of the world that the ledgers do not see. -/
theorem Grown.of_world (h : PagingInv allocator tables held m) {world : W}
    (htables : tables world = tables m.world) (hdata : data world = data m.world) :
    Grown allocator tables data held m { m with world } := by
  refine ⟨⟨h.root, h.oneWay, h.entries, h.own, ?_, h.foreign⟩,
    ⟨rfl, fun _ hx => hx, fun _ _ => rfl, fun _ _ => rfl, fun _ ht => Or.inl ht, hdata⟩,
    fun _ _ _ hw => hw, fun _ _ => rfl⟩
  intro x hx
  change tables world x.1 = some x.2
  rw [htables]
  exact h.out x hx

/-- How an attempt to reach a table ends. -/
inductive Reached (allocator : PageAllocator W) (m : Machine W) (path : List Nat) :
    Except PagingError Nat → Machine W → Prop
  | found {t : Nat} {m' : Machine W} : m'.walk allocator path = some t →
      Reached allocator m path (.ok t) m'
  | short {e : PagingError} {m' : Machine W} : m.walk allocator path = none →
      e = .capacity ∨ e = .allocation → Reached allocator m path (.error e) m'

theorem allocateTable_spec (hA : Conforming allocator tables data held)
    (h : PagingInv allocator tables held m) (hp : InSlot m.paging.arenaPml4Index (p ++ [i]))
    (hw : m.walk allocator p = some a) :
    Grown allocator tables data held m (allocateTable allocator m a i).2 ∧
    Reached allocator m (p ++ [i]) (allocateTable allocator m a i).1
      (allocateTable allocator m a i).2 := by
  have hstep : m.walk allocator (p ++ [i]) = childTable allocator (m.memory a i) := by
    rw [Machine.walk, walk_snoc]
    change (m.walk allocator p).bind _ = _
    rw [hw]
    rfl
  unfold allocateTable
  by_cases hpresent : isPresent (m.memory a i) = true
  · obtain ⟨b, hb⟩ := Option.isSome_iff_exists.mp (h.entries p i a hp hw hpresent)
    obtain ⟨-, hlarge, halias⟩ := childTable_eq_some hb
    simp only [hpresent, hlarge, halias, if_true, Bool.false_eq_true, if_false]
    exact ⟨.refl h, .found (by rw [hstep]; exact hb)⟩
  · rw [Bool.not_eq_true] at hpresent
    have hnone : m.walk allocator (p ++ [i]) = none := by
      rw [hstep]
      exact childTable_absent hpresent
    simp only [hpresent, Bool.false_eq_true, if_false]
    split
    · exact ⟨.refl h, .short hnone (Or.inl rfl)⟩
    · cases halloc : allocator.allocatePage m.world with
      | mk answer world =>
        cases answer with
        | none =>
          obtain ⟨h1, h2⟩ := hA.failed halloc
          exact ⟨.of_world h h1 h2, .short hnone (Or.inr rfl)⟩
        | some pages =>
          obtain ⟨physical, page⟩ := pages
          obtain ⟨hpart, hpos, halias⟩ := hA.page halloc
          have hzero : ¬ (physical = 0 ∨ page = 0) := by
            rintro (h0 | h0)
            · exact hpart.nonzero h0
            · exact hpos h0
          have htable : tableAlias allocator physical = .ok page := by
            rw [tableAlias, halias, if_neg hpos]
          simp only [if_neg hzero, htable]
          exact ⟨linked_grown hA h hp hw hpresent halloc,
            .found ((linked_walk hA h hp hw hpresent halloc (p ++ [i]) hp).1 rfl)⟩

theorem allocateTables_spec (hA : Conforming allocator tables data held)
    (h : PagingInv allocator tables held m) (rest : List Nat)
    (hp : InSlot m.paging.arenaPml4Index (p ++ rest)) (hw : m.walk allocator p = some a) :
    Grown allocator tables data held m (allocateTables allocator m a rest).2 ∧
    Reached allocator m (p ++ rest) (allocateTables allocator m a rest).1
      (allocateTables allocator m a rest).2 := by
  induction rest generalizing m a p with
  | nil =>
    rw [List.append_nil]
    exact ⟨.refl h, .found hw⟩
  | cons i rest ih =>
    have happ : p ++ i :: rest = (p ++ [i]) ++ rest := by simp
    have hp' : InSlot m.paging.arenaPml4Index (p ++ [i]) := by
      rw [happ] at hp
      refine ⟨?_, ?_⟩
      · have := hp.1
        simp only [List.length_append, List.length_singleton] at this ⊢
        omega
      · intro j hj
        apply hp.2 j
        cases p with
        | nil => simpa using hj
        | cons k l => simpa using hj
    obtain ⟨hgrown, hreached⟩ := allocateTable_spec hA h hp' hw
    unfold allocateTables
    rw [happ] at hp ⊢
    cases hone : allocateTable allocator m a i with
    | mk answer m1 =>
      rw [hone] at hgrown hreached
      dsimp only at hgrown hreached
      cases answer with
      | error e =>
        refine ⟨hgrown, ?_⟩
        rcases hreached with _ | ⟨hnone, he⟩
        refine .short ?_ he
        -- a walk that breaks off does not go on
        have hbreak : ∀ rest, m.walk allocator ((p ++ [i]) ++ rest) = none := by
          intro rest
          induction rest using List.reverseRecOn with
          | nil => rw [List.append_nil]; exact hnone
          | append_singleton rest j ih' =>
            rw [← List.append_assoc, Machine.walk, walk_snoc]
            change (m.walk allocator _).bind _ = none
            rw [ih']
            rfl
        exact hbreak rest
      | ok child =>
        have hchild : m1.walk allocator (p ++ [i]) = some child := by
          rcases hreached with ⟨hwalk⟩ | _
          exact hwalk
        dsimp only
        have hslot := hgrown.keeps.slot
        obtain ⟨hgrown', hreached'⟩ := ih hgrown.inv (by rw [hslot]; exact hp) hchild
        refine ⟨hgrown.trans hgrown', ?_⟩
        generalize allocateTables allocator m1 child rest = r at hreached' ⊢
        obtain ⟨answer', m2⟩ := r
        rcases hreached' with ⟨hwalk⟩ | ⟨hnone, he⟩
        · exact .found hwalk
        · refine .short ?_ he
          cases hwm : m.walk allocator (p ++ [i] ++ rest) with
          | none => rfl
          | some t =>
            rw [hgrown.walks _ t hp hwm] at hnone
            cases hnone

/-! ## The entry of a page -/

/-- The two addresses have the same entry. -/
def SameEntry (u v : Nat) : Prop := tablePath u = tablePath v ∧ ptIndex u = ptIndex v

theorem sameEntry_iff (hu : canonical48 u = true) (hv : canonical48 v = true) :
    SameEntry u v ↔ u / pageSize = v / pageSize := by
  constructor
  · rintro ⟨hpath, hpt⟩
    simp only [tablePath, List.cons.injEq, and_true] at hpath
    exact samePage_of_indices hu hv hpath.1 hpath.2.1 hpath.2.2 hpt
  · intro h
    obtain ⟨h1, h2, h3, h4⟩ := indices_of_samePage h
    exact ⟨by simp [tablePath, h1, h2, h3], h4⟩

section Store

variable (h : PagingInv allocator tables held m) (hv : pml4Index v = m.paging.arenaPml4Index)
  {t : Nat} (hw : m.walk allocator (tablePath v) = some t) (entry : Nat)

include h hv hw

/-- The page table is none of the tables above it. -/
theorem pageTable_ne {j : Nat} (hp : InSlot m.paging.arenaPml4Index (p ++ [j]))
    (hwp : m.walk allocator p = some a) : a ≠ t := by
  rintro rfl
  have hp' := inSlot_prefixClosed _ p j hp
  have hpath := h.oneWay (tablePath v) p a (inSlot_tablePath hv) hp' hw hwp
  rw [← hpath] at hp
  exact inSlot_end (tablePath_length v) j hp

theorem store_walk (q : List Nat) (hq : InSlot m.paging.arenaPml4Index q) :
    (m.store t (ptIndex v) entry).walk allocator q = m.walk allocator q := by
  apply walk_store (inSlot_prefixClosed _) h.oneWay (inSlot_tablePath hv)
    (inSlot_end (tablePath_length v)) hw _ q hq
  intro b hb
  simp only [Machine.store, Function.update_of_ne hb]

theorem store_inv : PagingInv allocator tables held (m.store t (ptIndex v) entry) := by
  have hwalk := store_walk h hv hw entry
  refine ⟨h.root, h.oneWay.of_walk hwalk, ?_, ?_, h.out, h.foreign⟩
  · intro q j b hq hwq hpresent
    have hq' := inSlot_prefixClosed _ q j hq
    rw [hwalk q hq'] at hwq
    have hb := pageTable_ne h hv hw hq hwq
    have hsame : (m.store t (ptIndex v) entry).memory b = m.memory b := by
      simp only [Machine.store, Function.update_of_ne hb]
    rw [hsame] at hpresent ⊢
    exact h.entries q j b hq hwq hpresent
  · intro q b hq hwq
    rw [hwalk q hq] at hwq
    exact h.own q b hq hwq

theorem store_keeps : Keeps data m (m.store t (ptIndex v) entry) := by
  have hown := h.own _ t (inSlot_tablePath hv) hw
  refine ⟨rfl, fun _ hx => hx, ?_, ?_, ?_, rfl⟩
  · intro b hb
    have hbt : b ≠ t := by
      rintro rfl
      exact hb hown
    simp only [Machine.store, Function.update_of_ne hbt]
  · intro j _
    have hroot : InSlot m.paging.arenaPml4Index ([] ++ [m.paging.arenaPml4Index]) :=
      ⟨by simp, by simp⟩
    have hne := pageTable_ne h hv hw hroot rfl
    simp only [Machine.store, Function.update_of_ne hne]
  · intro b hb
    rcases List.mem_cons.mp hb with rfl | hb
    · exact Or.inr hown
    · exact Or.inl hb

open Classical in
/-- One leaf is set, or taken away by an entry that is not present. -/
theorem store_leaf (hu : pml4Index u = m.paging.arenaPml4Index) :
    (m.store t (ptIndex v) entry).leaf allocator u =
      if SameEntry u v then (if isPresent entry then some entry else none)
      else m.leaf allocator u := by
  unfold Machine.leaf
  rw [store_walk h hv hw entry _ (inSlot_tablePath hu)]
  split
  · rename_i hsame
    rw [hsame.1, hw, hsame.2]
    simp [Machine.store]
  · rename_i hother
    cases hwu : m.walk allocator (tablePath u) with
    | none => rfl
    | some b =>
      simp only [Option.bind_some]
      by_cases hb : b = t
      · subst hb
        have hpath := h.oneWay (tablePath u) (tablePath v) b (inSlot_tablePath hu)
          (inSlot_tablePath hv) hwu hw
        have hpt : ptIndex u ≠ ptIndex v := fun hpt => hother ⟨hpath, hpt⟩
        simp only [Machine.store, Function.update_self, Function.update_of_ne hpt]
      · simp only [Machine.store, Function.update_of_ne hb]

end Store

/-! ## Other memory and other pages -/

section Other

variable (h : PagingInv allocator tables held m) {memory : Nat → Nat → Nat} (world : W)
  (hmemory : ∀ t ∈ m.ownAliases, memory t = m.memory t)

include h hmemory

theorem other_walk (q : List Nat) (hq : InSlot m.paging.arenaPml4Index q) :
    ({ m with memory, world } : Machine W).walk allocator q = m.walk allocator q :=
  walk_congr (inSlot_prefixClosed _) (fun q a hq hw => hmemory a (h.own q a hq hw)) q hq

/-- What is done to memory that is not the object's own does not matter to it. -/
theorem other_inv (hworld : tables world = tables m.world) :
    PagingInv allocator tables held { m with memory, world } := by
  have hwalk := other_walk h world hmemory
  refine ⟨h.root, h.oneWay.of_walk hwalk, ?_, ?_, ?_, h.foreign⟩
  · intro q j b hq hwq hpresent
    have hq' := inSlot_prefixClosed _ q j hq
    rw [hwalk q hq'] at hwq
    have hb := hmemory b (h.own q b hq' hwq)
    change isPresent (memory b j) = true at hpresent
    change (childTable allocator (memory b j)).isSome = true
    rw [hb] at hpresent ⊢
    exact h.entries q j b hq hwq hpresent
  · intro q b hq hwq
    rw [hwalk q hq] at hwq
    exact h.own q b hq hwq
  · intro x hx
    change tables world x.1 = some x.2
    rw [hworld]
    exact h.out x hx

theorem other_leaf (hv : pml4Index v = m.paging.arenaPml4Index) :
    ({ m with memory, world } : Machine W).leaf allocator v = m.leaf allocator v := by
  have hpath := inSlot_tablePath hv
  unfold Machine.leaf
  rw [other_walk h world hmemory _ hpath]
  cases hw : m.walk allocator (tablePath v) with
  | none => rfl
  | some t =>
    simp only [Option.bind_some]
    rw [hmemory t (h.own _ t hpath hw)]

end Other

/-! ## The pages of the arena -/

/-- What `map_page` and `unmap_page` ask of a page. -/
structure Accepted (paging : Paging) (v : Nat) : Prop where
  canonical : canonical48 v = true
  aligned : v % pageSize = 0
  inside : arenaContainsPage paging v = true

/-- Every page that is accepted is in the arena's own slot. -/
def SlotSound (paging : Paging) : Prop :=
  ∀ v, Accepted paging v → pml4Index v = paging.arenaPml4Index

/-- Arguments that pass the first checks of `map_page`. -/
def MapArguments (paging : Paging) (v physical : Nat) : Prop :=
  Accepted paging v ∧ physical ≠ 0 ∧ physical % pageSize = 0

/-- How `map_page` ends. -/
inductive MapEffect (allocator : PageAllocator W) (tables data : W → Nat → Option Nat)
    (held : Nat → Prop) (m : Machine W) (v physical : Nat) (writable executable : Bool) :
    Except PagingError Unit → Machine W → Prop
  | refused {e : PagingError} : ¬ MapArguments m.paging v physical → e ≠ .conflict →
      MapEffect allocator tables data held m v physical writable executable (.error e) m
  | present {entry : Nat} {m' : Machine W} : MapArguments m.paging v physical →
      m.leaf allocator v = some entry → Grown allocator tables data held m m' →
      MapEffect allocator tables data held m v physical writable executable (.error .conflict) m'
  | short {e : PagingError} {m' : Machine W} : MapArguments m.paging v physical →
      m.leaf allocator v = none → e = .capacity ∨ e = .allocation →
      Grown allocator tables data held m m' →
      MapEffect allocator tables data held m v physical writable executable (.error e) m'
  | mapped {m1 : Machine W} {t : Nat} : MapArguments m.paging v physical →
      m.leaf allocator v = none → Grown allocator tables data held m m1 →
      m1.walk allocator (tablePath v) = some t →
      MapEffect allocator tables data held m v physical writable executable (.ok ())
        (m1.store t (ptIndex v) (physical ||| pageFlags m.paging.nxEnabled writable executable))

/-- The leaf of a page whose table is there. -/
theorem leaf_eq {t : Nat} (hw : m.walk allocator (tablePath v) = some t) :
    m.leaf allocator v =
      if isPresent (m.memory t (ptIndex v)) then some (m.memory t (ptIndex v)) else none := by
  unfold Machine.leaf
  rw [hw]
  rfl

theorem leaf_none_of_walk (hw : m.walk allocator (tablePath v) = none) :
    m.leaf allocator v = none := by
  unfold Machine.leaf
  rw [hw]
  rfl

theorem mapPage_effect (hA : Conforming allocator tables data held)
    (h : PagingInv allocator tables held m) (hs : SlotSound m.paging) (v physical : Nat)
    (writable executable : Bool) :
    MapEffect allocator tables data held m v physical writable executable
      (mapPage allocator m v physical writable executable).1
      (mapPage allocator m v physical writable executable).2 := by
  unfold mapPage
  by_cases h1 : physical = 0 ∨ ¬ canonical48 v = true
  · rw [if_pos h1]
    refine .refused ?_ ?_
    · rintro ⟨hv, hpos, -⟩
      rcases h1 with h1 | h1
      · exact hpos h1
      · exact h1 hv.canonical
    · split <;> simp
  · rw [if_neg h1]
    by_cases h2 : v % pageSize ≠ 0 ∨ physical % pageSize ≠ 0
    · rw [if_pos h2]
      refine .refused ?_ (by simp)
      rintro ⟨hv, -, halign⟩
      rcases h2 with h2 | h2
      · exact h2 hv.aligned
      · exact h2 halign
    · rw [if_neg h2]
      by_cases h3 : ¬ arenaContainsPage m.paging v = true
      · rw [if_pos h3]
        refine .refused ?_ (by simp)
        rintro ⟨hv, -, -⟩
        exact h3 hv.inside
      · rw [if_neg h3, if_neg h.root.1]
        simp only [not_or, Decidable.not_not] at h1 h2 h3
        have hargs : MapArguments m.paging v physical :=
          ⟨⟨h1.2, h2.1, h3⟩, h1.1, h2.2⟩
        have hslot := hs v hargs.1
        have hpath := inSlot_tablePath hslot
        obtain ⟨hgrown, hreached⟩ := allocateTables_spec (p := []) hA h (tablePath v) hpath rfl
        rw [← tablePath]
        generalize allocateTables allocator m m.paging.rootAlias (tablePath v) = r
          at hgrown hreached ⊢
        obtain ⟨answer, m1⟩ := r
        dsimp only at hgrown hreached
        rcases hreached with ⟨hwalk⟩ | ⟨hnone, he⟩
        · rename_i t
          have hleaf := leaf_eq hwalk
          rw [hgrown.leaves v hslot] at hleaf
          dsimp only
          by_cases hpresent : isPresent (m1.memory t (ptIndex v)) = true
          · rw [if_pos hpresent] at hleaf ⊢
            exact .present hargs hleaf hgrown
          · rw [if_neg hpresent] at hleaf ⊢
            rw [hgrown.keeps.nxEnabled]
            exact .mapped hargs hleaf hgrown hwalk
        · exact .short hargs (leaf_none_of_walk hnone) he hgrown

/-! ## Walks of the code -/

/-- One step down the tree, as the invariant knows it. -/
theorem walk_step (hw : m.walk allocator p = some a) (i : Nat) :
    m.walk allocator (p ++ [i]) = childTable allocator (m.memory a i) := by
  rw [Machine.walk, walk_snoc]
  change (m.walk allocator p).bind _ = _
  rw [hw]
  rfl

theorem followTable_spec (h : PagingInv allocator tables held m)
    (hp : InSlot m.paging.arenaPml4Index (p ++ [i])) (hw : m.walk allocator p = some a)
    (checkLarge : Bool) :
    followTable allocator m a i checkLarge =
      match m.walk allocator (p ++ [i]) with
      | some b => .ok b
      | none => .error .notPresent := by
  rw [walk_step hw]
  unfold followTable
  by_cases hpresent : isPresent (m.memory a i) = true
  · obtain ⟨b, hb⟩ := Option.isSome_iff_exists.mp (h.entries p i a hp hw hpresent)
    obtain ⟨-, hlarge, halias⟩ := childTable_eq_some hb
    simp [hpresent, hlarge, halias, hb]
  · rw [Bool.not_eq_true] at hpresent
    simp [hpresent, childTable_absent hpresent]

/-- The first steps of the way to a page table stay in the slot. -/
theorem inSlot_steps (hv : pml4Index v = m.paging.arenaPml4Index) :
    InSlot m.paging.arenaPml4Index ([] ++ [pml4Index v]) ∧
    InSlot m.paging.arenaPml4Index ([pml4Index v] ++ [pdptIndex v]) ∧
    InSlot m.paging.arenaPml4Index ([pml4Index v, pdptIndex v] ++ [pdIndex v]) := by
  refine ⟨⟨by simp, by simp [hv]⟩, ⟨by simp, by simp [hv]⟩, ⟨by simp, by simp [hv]⟩⟩

theorem walk_none_step (hw : m.walk allocator p = none) (i : Nat) :
    m.walk allocator (p ++ [i]) = none := by
  rw [Machine.walk, walk_snoc]
  change (m.walk allocator p).bind _ = none
  rw [hw]
  rfl

/-- How `unmap_page` ends. -/
inductive UnmapEffect (allocator : PageAllocator W) (m : Machine W) (v : Nat) :
    Except PagingError Nat → Machine W → Prop
  | refused {e : PagingError} : ¬ Accepted m.paging v → e ≠ .notPresent →
      UnmapEffect allocator m v (.error e) m
  | absent : Accepted m.paging v → m.leaf allocator v = none →
      UnmapEffect allocator m v (.error .notPresent) m
  | unmapped {t entry : Nat} : Accepted m.paging v → m.leaf allocator v = some entry →
      m.walk allocator (tablePath v) = some t →
      UnmapEffect allocator m v (.ok (entryAddress entry)) (m.store t (ptIndex v) 0)

theorem unmapPage_effect (h : PagingInv allocator tables held m) (hs : SlotSound m.paging)
    (v : Nat) :
    UnmapEffect allocator m v (unmapPage allocator m v).1 (unmapPage allocator m v).2 := by
  unfold unmapPage
  by_cases h1 : ¬ canonical48 v = true
  · rw [if_pos h1]
    exact .refused (fun hv => h1 hv.canonical) (by simp)
  · rw [if_neg h1]
    by_cases h2 : v % pageSize ≠ 0
    · rw [if_pos h2]
      exact .refused (fun hv => h2 hv.aligned) (by simp)
    · rw [if_neg h2]
      by_cases h3 : ¬ arenaContainsPage m.paging v = true
      · rw [if_pos h3]
        exact .refused (fun hv => h3 hv.inside) (by simp)
      · rw [if_neg h3, if_neg h.root.1]
        simp only [Decidable.not_not] at h1 h2 h3
        have hacc : Accepted m.paging v := ⟨h1, h2, h3⟩
        have hslot := hs v hacc
        obtain ⟨hp1, hp2, hp3⟩ := inSlot_steps hslot
        dsimp only
        rw [followTable_spec (p := []) h hp1 rfl, List.nil_append]
        cases hw1 : m.walk allocator [pml4Index v] with
        | none =>
          have hw2 := walk_none_step hw1 (pdptIndex v)
          have hw3 := walk_none_step hw2 (pdIndex v)
          exact .absent hacc (leaf_none_of_walk hw3)
        | some pdpt =>
          simp only [bind, Except.bind]
          rw [followTable_spec h hp2 hw1]
          cases hw2 : m.walk allocator ([pml4Index v] ++ [pdptIndex v]) with
          | none =>
            have hw3 := walk_none_step hw2 (pdIndex v)
            exact .absent hacc (leaf_none_of_walk hw3)
          | some pd =>
            dsimp only
            rw [followTable_spec h hp3 hw2]
            cases hw3 : m.walk allocator ([pml4Index v, pdptIndex v] ++ [pdIndex v]) with
            | none => exact .absent hacc (leaf_none_of_walk hw3)
            | some pt =>
              dsimp only
              have hleaf := leaf_eq (v := v) hw3
              by_cases hpresent : isPresent (m.memory pt (ptIndex v)) = true
              · rw [if_pos hpresent] at hleaf
                rw [if_neg (not_not_intro hpresent)]
                exact .unmapped hacc hleaf hw3
              · rw [if_neg hpresent] at hleaf
                rw [if_pos hpresent]
                exact .absent hacc hleaf

theorem mapPage_keeps (hA : Conforming allocator tables data held)
    (h : PagingInv allocator tables held m) (hs : SlotSound m.paging) (v physical : Nat)
    (writable executable : Bool) :
    PagingInv allocator tables held (mapPage allocator m v physical writable executable).2 ∧
    Keeps data m (mapPage allocator m v physical writable executable).2 := by
  have heffect := mapPage_effect hA h hs v physical writable executable
  generalize mapPage allocator m v physical writable executable = r at heffect ⊢
  obtain ⟨answer, m'⟩ := r
  dsimp only at heffect ⊢
  cases heffect with
  | refused => exact ⟨h, .refl data m⟩
  | present _ _ hg => exact ⟨hg.inv, hg.keeps⟩
  | short _ _ _ hg => exact ⟨hg.inv, hg.keeps⟩
  | mapped ha _ hg hw =>
    have hslot := (hs v ha.1).trans hg.keeps.slot.symm
    exact ⟨store_inv hg.inv hslot hw _, hg.keeps.trans (store_keeps hg.inv hslot hw _)⟩

theorem unmapPage_keeps (h : PagingInv allocator tables held m) (hs : SlotSound m.paging)
    (v : Nat) :
    PagingInv allocator tables held (unmapPage allocator m v).2 ∧
    Keeps data m (unmapPage allocator m v).2 := by
  have heffect := unmapPage_effect h hs v
  generalize unmapPage allocator m v = r at heffect ⊢
  obtain ⟨answer, m'⟩ := r
  dsimp only at heffect ⊢
  cases heffect with
  | refused => exact ⟨h, .refl data m⟩
  | absent => exact ⟨h, .refl data m⟩
  | unmapped ha _ hw => exact ⟨store_inv h (hs v ha) hw _, store_keeps h (hs v ha) hw _⟩

/-- What the entry of a page says of an address. -/
def pageMapping (entry v : Nat) : Mapping :=
  { physicalBase := entryAddress entry + v % pageSize
    pageSize := pageSize, entryFlags := entry, level := 1, present := true }

/-- A query in the slot reads the leaf. -/
theorem query_eq (h : PagingInv allocator tables held m) (hcanon : canonical48 v = true)
    (hv : pml4Index v = m.paging.arenaPml4Index) :
    query allocator m v =
      match m.leaf allocator v with
      | some entry => .ok (pageMapping entry v)
      | none => .error .notPresent := by
  obtain ⟨hp1, hp2, hp3⟩ := inSlot_steps hv
  have hroot : tableAlias allocator (entryAddress m.paging.rootPhysical) =
      .ok m.paging.rootAlias := by
    rw [tableAlias, h.root.2.2, if_neg h.root.1]
  -- at each level the entry is absent, or it leads on to a table
  have hlevel : ∀ {p i a}, InSlot m.paging.arenaPml4Index (p ++ [i]) →
      m.walk allocator p = some a →
      (isPresent (m.memory a i) = false ∧ m.walk allocator (p ++ [i]) = none) ∨
      (isPresent (m.memory a i) = true ∧ isLarge (m.memory a i) = false ∧
        ∃ b, tableAlias allocator (entryAddress (m.memory a i)) = .ok b ∧
          m.walk allocator (p ++ [i]) = some b) := by
    intro p i a hp hw
    rw [walk_step hw]
    by_cases hpresent : isPresent (m.memory a i) = true
    · obtain ⟨b, hb⟩ := Option.isSome_iff_exists.mp (h.entries p i a hp hw hpresent)
      obtain ⟨-, hlarge, halias⟩ := childTable_eq_some hb
      exact Or.inr ⟨hpresent, hlarge, b, halias, hb⟩
    · rw [Bool.not_eq_true] at hpresent
      exact Or.inl ⟨hpresent, childTable_absent hpresent⟩
  unfold query queryRoot
  rw [if_neg h.root.2.1, if_neg (not_not_intro hcanon), hroot]
  simp only [bind, Except.bind]
  rcases hlevel (p := []) hp1 rfl with ⟨hno, hw1⟩ | ⟨hyes, -, pdpt, halias, hw1⟩
  · have hw2 := walk_none_step hw1 (pdptIndex v)
    have hw3 := walk_none_step hw2 (pdIndex v)
    rw [leaf_none_of_walk hw3]
    simp [hno, throw, throwThe, MonadExceptOf.throw]
  · simp only [hyes, not_true_eq_false, if_false, halias, pure, Except.pure]
    rcases hlevel hp2 hw1 with ⟨hno, hw2⟩ | ⟨hyes, hlarge, pd, halias, hw2⟩
    · have hw3 := walk_none_step hw2 (pdIndex v)
      rw [leaf_none_of_walk hw3]
      simp [hno, throw, throwThe, MonadExceptOf.throw]
    · simp only [hyes, hlarge, not_true_eq_false, if_false, halias, Bool.false_eq_true]
      rcases hlevel hp3 hw2 with ⟨hno, hw3⟩ | ⟨hyes, hlarge, pt, halias, hw3⟩
      · rw [leaf_none_of_walk hw3]
        simp [hno, throw, throwThe, MonadExceptOf.throw]
      · simp only [hyes, hlarge, not_true_eq_false, if_false, halias, Bool.false_eq_true]
        rw [leaf_eq (v := v) hw3]
        by_cases hpresent : isPresent (m.memory pt (ptIndex v)) = true
        · simp only [hpresent, not_true_eq_false, if_false, if_true]
          rfl
        · simp [hpresent, throw, throwThe, MonadExceptOf.throw]

end Gate4Harness.Vm
