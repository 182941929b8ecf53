-- The committed pages of a payload: what their entries allow, and what they hold. Every
-- entry of the arena's slot is made by a commit, so all have the same flags. A table and a
-- data page are never the same page, so new tables leave the contents of the data pages.
import Gate4Harness.PayloadRuns

namespace Gate4Harness.Vm

variable {W : Type} {c : Context W} {tables data : W → Nat → Option Nat} {held : Nat → Prop}
  {allocator : PageAllocator W} {s s' : Space W} {m m' : Machine W} {x : CreatedPage}
  {currentCr3 base length v p pa : Nat} {nxEnabled writable executable : Bool} {world : W}

/-! ## New tables -/

/-- The tables that an object gets are no data pages. -/
structure OwnGrown (data : W → Nat → Option Nat) (m m' : Machine W) : Prop where
  out : data m'.world = data m.world
  own : ∀ t ∈ m'.ownAliases, t ∈ m.ownAliases ∨ ∀ p, data m.world p ≠ some t

theorem OwnGrown.refl (data : W → Nat → Option Nat) (m : Machine W) : OwnGrown data m m :=
  ⟨rfl, fun _ ht => Or.inl ht⟩

theorem OwnGrown.trans {m1 m2 m3 : Machine W} (h1 : OwnGrown data m1 m2)
    (h2 : OwnGrown data m2 m3) : OwnGrown data m1 m3 := by
  refine ⟨h2.out.trans h1.out, ?_⟩
  intro t ht
  rcases h2.own t ht with hold | hnew
  · exact h1.own t hold
  · rw [h1.out] at hnew
    exact Or.inr hnew

theorem allocateTable_ownGrown (hA : Conforming allocator tables data held) (m : Machine W)
    (parent index : Nat) : OwnGrown data m (allocateTable allocator m parent index).2 := by
  unfold allocateTable
  dsimp only
  split
  · split <;> exact .refl data m
  · split
    · exact .refl data m
    · cases halloc : allocator.allocatePage m.world with
      | mk answer world =>
        cases answer with
        | none => exact ⟨(hA.failed halloc).2, fun _ ht => Or.inl ht⟩
        | some pages =>
          obtain ⟨physical, page⟩ := pages
          obtain ⟨hpart, hpage, halias⟩ := hA.page halloc
          have hzero : ¬ (physical = 0 ∨ page = 0) := by
            rintro (h0 | h0)
            · exact hpart.nonzero h0
            · exact hpage h0
          have hfound : tableAlias allocator physical = .ok page := by
            rw [tableAlias, halias, if_neg hpage]
          dsimp only
          rw [if_neg hzero, hfound]
          refine ⟨(hA.taken halloc).2, ?_⟩
          intro t ht
          have hown : t ∈ m.ownAliases ++ [page] := by
            simpa [Machine.ownAliases, Machine.zeroTable, Machine.store] using ht
          rcases List.mem_append.mp hown with hold | hnew
          · exact Or.inl hold
          · rw [List.mem_singleton.mp hnew]
            exact Or.inr fun q => ((hA.fresh halloc).2.2.2 q).2

theorem allocateTables_ownGrown (hA : Conforming allocator tables data held) (m : Machine W)
    (table : Nat) (path : List Nat) :
    OwnGrown data m (allocateTables allocator m table path).2 := by
  induction path generalizing m table with
  | nil => exact .refl data m
  | cons index rest ih =>
    have hfirst := allocateTable_ownGrown hA m table index
    unfold allocateTables
    generalize allocateTable allocator m table index = r at hfirst ⊢
    obtain ⟨answer, m1⟩ := r
    cases answer with
    | error e => exact hfirst
    | ok child => exact hfirst.trans (ih m1 child)

theorem mapPage_ownGrown (hA : Conforming allocator tables data held) (m : Machine W)
    (v p : Nat) (writable executable : Bool) :
    OwnGrown data m (mapPage allocator m v p writable executable).2 := by
  unfold mapPage
  split
  · exact .refl data m
  split
  · exact .refl data m
  split
  · exact .refl data m
  split
  · exact .refl data m
  · have hpath := allocateTables_ownGrown hA m m.paging.rootAlias
      [pml4Index v, pdptIndex v, pdIndex v]
    generalize allocateTables allocator m m.paging.rootAlias
      [pml4Index v, pdptIndex v, pdIndex v] = r at hpath ⊢
    obtain ⟨answer, m1⟩ := r
    cases answer with
    | error e => exact hpath
    | ok pt =>
      dsimp only
      split
      · exact hpath
      · exact ⟨hpath.out, hpath.own⟩

/-! ## The entries -/

/-- The entries are those that a commit makes: writable and, with NX, not executable. No
data page that is out is a table. -/
structure Guarded (c : Context W) (data : W → Nat → Option Nat) (nxEnabled : Bool)
    (m : Machine W) : Prop where
  entries : ∀ v entry, m.entryOf c.tableAllocator v = some entry →
    entry = entryAddress entry ||| pageFlags nxEnabled true false
  apart : ∀ p t, data m.world p = some t → t ∉ m.ownAliases

/-- The tables and their pages are the same, and the data pages that are out were out before. -/
theorem Guarded.congr (h : Guarded c data nxEnabled m)
    (hentries : m'.entryOf c.tableAllocator = m.entryOf c.tableAllocator)
    (hown : m'.ownAliases = m.ownAliases)
    (hdata : ∀ p t, data m'.world p = some t → data m.world p = some t) :
    Guarded c data nxEnabled m' := by
  refine ⟨?_, ?_⟩ <;> simp only [hentries, hown]
  · exact h.entries
  · exact fun p t hp => h.apart p t (hdata p t hp)

/-- The allocator takes a page back. -/
theorem Guarded.freed (hD : Conforming c.dataAllocator data tables held)
    (h : Guarded c data nxEnabled m) (hout : data m.world p = some pa) :
    Guarded c data nxEnabled
      { m with world := c.dataAllocator.freePage p pa m.world } := by
  refine h.congr rfl rfl ?_
  intro q t hq
  change data (c.dataAllocator.freePage p pa m.world) q = some t at hq
  rw [(hD.freed hout).1] at hq
  by_cases hqp : q = p
  · rw [hqp, Function.update_self] at hq
    cases hq
  · rwa [Function.update_of_ne hqp] at hq

theorem Guarded.unmapPage (h : Guarded c data nxEnabled m)
    (hinv : PagingInv c.tableAllocator tables held m) (hsound : SlotSound m.paging)
    (hacc : Accepted m.paging v) (hv : SlotPage m.paging.arenaPml4Index v) :
    Guarded c data nxEnabled (unmapPage c.tableAllocator m v).2 ∧
    (Vm.unmapPage c.tableAllocator m v).2.world = m.world := by
  have hentries := unmapPage_entryOf hinv hsound hacc hv
  have hsame : (Vm.unmapPage c.tableAllocator m v).2.ownAliases = m.ownAliases ∧
      (Vm.unmapPage c.tableAllocator m v).2.world = m.world := by
    have heffect := unmapPage_effect hinv hsound v
    generalize Vm.unmapPage c.tableAllocator m v = r at heffect ⊢
    obtain ⟨answer, m'⟩ := r
    cases heffect <;> exact ⟨rfl, rfl⟩
  refine ⟨⟨?_, ?_⟩, hsame.2⟩
  · intro u entry hu
    rw [hentries] at hu
    by_cases huv : u = v
    · rw [huv, Function.update_self] at hu
      cases hu
    · rw [Function.update_of_ne huv] at hu
      exact h.entries u entry hu
  · rw [hsame.1, hsame.2]
    exact h.apart

theorem Guarded.mapPage (hT : Conforming c.tableAllocator tables data held)
    (h : Guarded c data nxEnabled m) (hinv : PagingInv c.tableAllocator tables held m)
    (hsound : SlotSound m.paging) (hv : SlotPage m.paging.arenaPml4Index v)
    (hnx : m.paging.nxEnabled = nxEnabled) (hp : PhysicalPage p) :
    Guarded c data nxEnabled (mapPage c.tableAllocator m v p true false).2 := by
  have hgrown := mapPage_ownGrown hT m v p true false
  refine ⟨?_, ?_⟩
  · intro u entry hu
    rcases mapPage_entryOf hT hinv hsound hv hp.aligned true false with
      ⟨e, -, hsame⟩ | ⟨-, -, hnew⟩
    · rw [hsame] at hu
      exact h.entries u entry hu
    · rw [hnew] at hu
      by_cases huv : u = v
      · rw [huv, Function.update_self] at hu
        cases hu
        rw [pageEntry_address hp, hnx]
      · rw [Function.update_of_ne huv] at hu
        exact h.entries u entry hu
  · intro q t hq ht
    rw [hgrown.out] at hq
    rcases hgrown.own t ht with hold | hnew
    · exact h.apart q t hq hold
    · exact hnew q hq

/-! ## A turn of a commit -/

/-- The machine with the new page: it is zero, and it may be mapped. -/
structure WithPage (c : Context W) (tables data : W → Nat → Option Nat) (held : Nat → Prop)
    (base length : Nat) (nxEnabled : Bool) (s : Space W) (p pa : Nat) (m : Machine W) : Prop where
  inv : PagingInv c.tableAllocator tables held m
  made : MadeFor m.paging base length nxEnabled
  guarded : Guarded c data nxEnabled m
  out : data m.world = Function.update (data s.machine.world) p (some pa)
  zero : m.memory pa = fun _ => 0
  memory : ∀ q t, data s.machine.world q = some t → m.memory t = s.machine.memory t

section Turn

variable (hargs : CreateArguments currentCr3 base length) (hpages : OneSlot base length)
  (hT : Conforming c.tableAllocator tables data held)
  (hD : Conforming c.dataAllocator data tables held)
  (h : Coherent c tables data held base length nxEnabled s)
  (hg : Guarded c data nxEnabled s.machine)
  (halloc : c.dataAllocator.allocatePage s.machine.world = (some (p, pa), world))

include hargs hpages hT hD h hg halloc

omit hargs hpages hT in
/-- The new page is filled with zeros. -/
theorem Guarded.zeroed : WithPage c tables data held base length nxEnabled s p pa
    ((s.withWorld world).machine.zeroData pa) := by
  obtain ⟨-, -, -, hapart⟩ := hD.fresh halloc
  obtain ⟨hdata, htables⟩ := hD.taken halloc
  have hpaging := h.matched.paging
  have hown : ∀ t ∈ s.machine.ownAliases,
      Function.update s.machine.memory pa (fun _ => 0) t = s.machine.memory t := by
    intro t ht
    have htpa : t ≠ pa := hpaging.ne_of_own (fun q => (hapart q).2) ht
    exact Function.update_of_ne htpa _ _
  refine ⟨other_inv hpaging world hown htables, h.matched.made, ⟨?_, ?_⟩, hdata,
    Function.update_self .., ?_⟩
  · have hentries : ((s.withWorld world).machine.zeroData pa).entryOf c.tableAllocator =
        s.machine.entryOf c.tableAllocator :=
      entryOf_congr rfl fun u hu => other_leaf hpaging world hown hu
    rw [hentries]
    exact hg.entries
  · intro q t hq ht
    change data world q = some t at hq
    rw [hdata] at hq
    by_cases hqp : q = p
    · rw [hqp, Function.update_self] at hq
      cases hq
      exact hpaging.ne_of_own (fun q => (hapart q).2) ht rfl
    · rw [Function.update_of_ne hqp] at hq
      exact hg.apart q t hq ht
  · intro q t hq
    have htpa : t ≠ pa := by
      rintro rfl
      exact (hapart q).1 hq
    exact Function.update_of_ne htpa _ _

/-- The new page is mapped, or it is not: its contents and those of the others stay. -/
theorem Guarded.mapped (hv : InArena base length v) :
    WithPage c tables data held base length nxEnabled s p pa
      (Vm.mapPage c.tableAllocator ((s.withWorld world).machine.zeroData pa) v p true false).2 := by
  have h1 := hg.zeroed hD h halloc
  have hpart := (hD.page halloc).1
  have hsound := slotSound_of_fits h1.made hargs hpages.fitsSlot
  obtain ⟨hinv2, hkeeps⟩ := mapPage_keeps hT h1.inv hsound v p true false
  have hguarded := h1.guarded.mapPage hT h1.inv hsound (hv.slotPage hargs hpages h1.made)
    h1.made.nx hpart
  -- the data pages that are out, the new one among them, are no tables
  have hmemory : ∀ q t,
      Function.update (data s.machine.world) p (some pa) q = some t →
      (Vm.mapPage c.tableAllocator ((s.withWorld world).machine.zeroData pa) v p true
        false).2.memory t = ((s.withWorld world).machine.zeroData pa).memory t := by
    intro q t hq
    refine hkeeps.memory t (hguarded.apart q t ?_)
    rw [hkeeps.data, h1.out]
    exact hq
  refine ⟨hinv2, hkeeps.madeFor h1.made, hguarded, hkeeps.data.trans h1.out, ?_, ?_⟩
  · rw [hmemory p pa (Function.update_self ..)]
    exact h1.zero
  · intro q t hq
    have hqp : q ≠ p := by
      rintro rfl
      rw [(hD.fresh halloc).1] at hq
      cases hq
    rw [hmemory q t (by rw [Function.update_of_ne hqp]; exact hq)]
    exact h1.memory q t hq

end Turn

/-! ## The calls -/

section Calls

variable (hargs : CreateArguments currentCr3 base length) (hpages : OneSlot base length)
  (hT : Conforming c.tableAllocator tables data held)
  (hD : Conforming c.dataAllocator data tables held)

include hargs hpages hD

include hT in
theorem Guarded.commitTurn (h : Coherent c tables data held base length nxEnabled s)
    (hg : Guarded c data nxEnabled s.machine) (hv : InArena base length v) :
    Guarded c data nxEnabled (commitTurn c true false s v).2.machine := by
  unfold Vm.commitTurn
  cases findCommitment s.arena v with
  | some i =>
    dsimp only
    split <;> exact hg
  | none =>
    cases halloc : c.dataAllocator.allocatePage s.machine.world with
    | mk answer world =>
      cases answer with
      | none =>
        refine hg.congr rfl rfl ?_
        intro q t hq
        rw [← (hD.failed halloc).1]
        exact hq
      | some pages =>
        obtain ⟨p, pa⟩ := pages
        obtain ⟨hpart, hpa, -⟩ := hD.page halloc
        have hzero : ¬ (p = 0 ∨ pa = 0) := by
          rintro (h0 | h0)
          · exact hpart.nonzero h0
          · exact hpa h0
        have h2 := hg.mapped hargs hpages hT hD h halloc hv
        dsimp only
        rw [if_neg hzero]
        generalize Vm.mapPage c.tableAllocator ((s.withWorld world).machine.zeroData pa) v p true
          false = r at h2 ⊢
        obtain ⟨answer, m2⟩ := r
        dsimp only at h2
        have hout : data m2.world p = some pa := by
          rw [h2.out, Function.update_self]
        cases answer with
        | error e => exact h2.guarded.freed hD hout
        | ok _ =>
          dsimp only
          split
          · -- the arena has no room, so the new entry goes away again
            obtain ⟨h3, hworld⟩ := h2.guarded.unmapPage h2.inv
              (slotSound_of_fits h2.made hargs hpages.fitsSlot) (hv.accepted hargs hpages h2.made)
              (hv.slotPage hargs hpages h2.made)
            rw [← hworld] at hout
            exact h3.freed hD hout
          · exact h2.guarded

theorem Guarded.dropPage (h : Coherent c tables data held base length nxEnabled s)
    (hg : Guarded c data nxEnabled s.machine) (hv : InArena base length v)
    (hp : pageAt s.arena v = some p) :
    Guarded c data nxEnabled
      (s.dropPage c v p (c.dataAllocator.physicalAlias p)).machine := by
  have hm := h.matched
  obtain ⟨i, hlive, -, -, hip⟩ := (pageAt_eq_some hm.arena).mp hp
  have hout := h.backed.out i hlive
  rw [hip] at hout
  obtain ⟨h1, hworld⟩ := hg.unmapPage hm.paging (hm.slotSound hargs hpages)
    (hv.accepted hargs hpages hm.made) (hv.slotPage hargs hpages hm.made)
  rw [← hworld] at hout
  rw [dropPage_machine]
  exact h1.freed hD hout

include hT in
theorem guarded_keptByCalls :
    KeptByCalls c tables data held base length nxEnabled (Guarded c data nxEnabled) :=
  ⟨fun h hg hv => hg.commitTurn hargs hpages hT hD h hv,
    fun h hg hv hp => hg.dropPage hargs hpages hD h hv hp⟩

end Calls

/-! ## The contents -/

/-- What a data page holds, by the index of the word. -/
def Space.contents (c : Context W) (s : Space W) (p : Nat) : Nat → Nat :=
  s.machine.memory (c.dataAllocator.physicalAlias p)

theorem commitTurn_eq_ok_some (hok : commitTurn c writable executable s v = (.ok (some x), s')) :
    ∃ p pa world arena,
      c.dataAllocator.allocatePage s.machine.world = (some (p, pa), world) ∧
      commitPage s.arena v p c.generation = .ok arena ∧
      s' = { s with
        arena
        machine := (mapPage c.tableAllocator ((s.withWorld world).machine.zeroData pa) v p
          writable executable).2 } := by
  unfold commitTurn at hok
  split at hok
  · split at hok <;> cases hok
  · split at hok
    · cases hok
    · rename_i p pa world halloc
      dsimp only at hok
      split at hok
      · cases hok
      · split at hok
        · cases hok
        · rename_i m2 hmap
          split at hok
          · cases hok
          · rename_i arena hcommit
            cases hok
            exact ⟨p, pa, world, arena, halloc, hcommit, by rw [hmap]; rfl⟩

/-- A turn that finds its page changes nothing. -/
theorem commitTurn_eq_ok_none (hok : commitTurn c writable executable s v = (.ok none, s')) :
    s' = s ∧ ∃ i, findCommitment s.arena v = some i := by
  unfold commitTurn at hok
  split at hok
  · rename_i i hfind
    split at hok <;> cases hok
    exact ⟨rfl, i, hfind⟩
  · split at hok
    · cases hok
    · dsimp only at hok
      split at hok
      · cases hok
      · split at hok
        · cases hok
        · split at hok <;> cases hok

/-- One page more is committed. It is all zeros, and the others hold what they held. -/
structure NewPage (c : Context W) (s : Space W) (v : Nat) (s' : Space W) : Prop where
  pages : ∃ p, (∀ u, pageAt s'.arena u = if u = v then some p else pageAt s.arena u) ∧
    s'.contents c p = fun _ => 0
  absent : pageAt s.arena v = none
  kept : ∀ u q, pageAt s.arena u = some q → s'.contents c q = s.contents c q

theorem commitTurn_newPage (hargs : CreateArguments currentCr3 base length)
    (hpages : OneSlot base length) (hT : Conforming c.tableAllocator tables data held)
    (hD : Conforming c.dataAllocator data tables held)
    (h : Coherent c tables data held base length nxEnabled s)
    (hg : Guarded c data nxEnabled s.machine) (hv : InArena base length v)
    (hok : commitTurn c true false s v = (.ok (some x), s')) : NewPage c s v s' := by
  have heffect := commitTurn_effect hargs hpages hT hD h hv true false
  rw [hok] at heffect
  dsimp only at heffect
  obtain ⟨hcoherent', -, hplaced⟩ := heffect
  obtain ⟨-, habsent, -⟩ := hplaced x rfl
  obtain ⟨p, pa, world, arena, halloc, hcommit, rfl⟩ := commitTurn_eq_ok_some hok
  have hmapped := hg.mapped hargs hpages hT hD h halloc hv
  have halias := (hD.page halloc).2.2
  refine ⟨⟨p, ?_, ?_⟩, habsent, ?_⟩
  · rcases commitPage_eq_ok hcommit with ⟨-, i, hi, -⟩ | ⟨-, i, r, hi, -, -, rfl⟩
    · rw [pageAt, hi] at habsent
      cases habsent
    · exact pageAt_addCommitment h.matched.arena hcoherent'.matched.arena hi
  · unfold Space.contents
    rw [halias]
    exact hmapped.zero
  · intro u q hq
    obtain ⟨i, hlive, -, -, hiq⟩ := (pageAt_eq_some h.matched.arena).mp hq
    have hout := h.backed.out i hlive
    rw [hiq] at hout
    exact hmapped.memory q _ hout

end Gate4Harness.Vm
