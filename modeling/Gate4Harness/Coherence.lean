-- The coherence of the virtual memory: the commitments of the arena, the leaves of the page
-- tables and the data pages that are out say the same of every page. A call changes the
-- three one page at a time, and takes its pages back when it fails.
import Gate4Harness.ArenaPages
import Gate4Harness.PagingLaws
import Gate4Harness.VirtualMemorySteps

namespace Gate4Harness.Vm

open Runs

variable {W : Type} {c : Context W} {tables data : W → Nat → Option Nat} {held : Nat → Prop}
  {s s' : Space W} {m m' : Machine W} {a : Arena} {r : ReservationSlot} {i : CommitmentSlot}
  {currentCr3 base length u v p t generation : Nat} {nxEnabled : Bool}

/-! ## The invariant -/

/-- The arena and the page tables name the same physical pages. -/
structure Matched (c : Context W) (tables : W → Nat → Option Nat) (held : Nat → Prop)
    (base length : Nat) (nxEnabled : Bool) (s : Space W) : Prop where
  paging : PagingInv c.tableAllocator tables held s.machine
  made : MadeFor s.machine.paging base length nxEnabled
  arena : ArenaInv s.arena
  range : s.arena.base = base ∧ s.arena.length = length
  pages : OnlyPages s.arena
  mapped : ∀ v, InArena base length v →
    (s.machine.leaf c.tableAllocator v).map entryAddress = pageAt s.arena v

/-- The pages of a ledger are the physical pages of the arena, each in one place. -/
structure Backed (physicalAlias : Nat → Nat) (ledger : Nat → Option Nat) (a : Arena) : Prop where
  out : ∀ i, (a.commitments i).live = true →
    ledger (a.commitments i).physicalBase = some (physicalAlias (a.commitments i).physicalBase)
  backing : ∀ p, ledger p ≠ none →
    ∃ i, (a.commitments i).live = true ∧ (a.commitments i).physicalBase = p
  unshared : ∀ i j, (a.commitments i).live = true → (a.commitments j).live = true →
    (a.commitments i).physicalBase = (a.commitments j).physicalBase → i = j

structure Coherent (c : Context W) (tables data : W → Nat → Option Nat) (held : Nat → Prop)
    (base length : Nat) (nxEnabled : Bool) (s : Space W) : Prop where
  matched : Matched c tables held base length nxEnabled s
  backed : Backed c.dataAllocator.physicalAlias (data s.machine.world) s.arena

/-! ## The ledger -/

section Backed

variable {physicalAlias : Nat → Nat} {ledger : Nat → Option Nat}
  (h : Backed physicalAlias ledger a)

include h

/-- The reservations do not matter to it. -/
theorem Backed.congr {a' : Arena} (hcom : a'.commitments = a.commitments) :
    Backed physicalAlias ledger a' := by
  refine ⟨?_, ?_, ?_⟩ <;> rw [hcom]
  · exact h.out
  · exact h.backing
  · exact h.unshared

theorem Backed.add (hp : ledger p = none) (hi : (a.commitments i).live = false) :
    Backed physicalAlias (Function.update ledger p (some (physicalAlias p)))
      (addCommitment a i (pageRecord r v p generation)) := by
  have hself : (addCommitment a i (pageRecord r v p generation)).commitments i =
      pageRecord r v p generation := Function.update_self _ _ _
  have hother : ∀ j, j ≠ i → (addCommitment a i (pageRecord r v p generation)).commitments j =
      a.commitments j := fun j hj => Function.update_of_ne hj _ _
  -- the new page backs no commitment yet
  have hnew : ∀ j, (a.commitments j).live = true → (a.commitments j).physicalBase ≠ p := by
    rintro j hj rfl
    rw [h.out j hj] at hp
    cases hp
  refine ⟨?_, ?_, ?_⟩
  · intro j hj
    by_cases hji : j = i
    · subst hji
      rw [hself]
      exact Function.update_self _ _ _
    · rw [hother j hji] at hj ⊢
      rw [Function.update_of_ne (hnew j hj)]
      exact h.out j hj
  · intro q hq
    by_cases hqp : q = p
    · exact ⟨i, by rw [hself]; exact ⟨rfl, hqp.symm⟩⟩
    · rw [Function.update_of_ne hqp] at hq
      obtain ⟨j, hj, hjq⟩ := h.backing q hq
      have hji : j ≠ i := by
        rintro rfl
        rw [hi] at hj
        cases hj
      exact ⟨j, by rw [hother j hji]; exact ⟨hj, hjq⟩⟩
  · intro j k hj hk hjk
    by_cases hji : j = i
    · by_cases hki : k = i
      · rw [hji, hki]
      · rw [hother k hki] at hk hjk
        rw [hji, hself] at hjk
        exact absurd hjk.symm (hnew k hk)
    · rw [hother j hji] at hj hjk
      by_cases hki : k = i
      · rw [hki, hself] at hjk
        exact absurd hjk (hnew j hj)
      · rw [hother k hki] at hk hjk
        exact h.unshared j k hj hk hjk

theorem Backed.drop (hi : (a.commitments i).live = true) :
    Backed physicalAlias (Function.update ledger (a.commitments i).physicalBase none)
      (dropCommitment a i) := by
  refine ⟨?_, ?_, ?_⟩
  · intro j hj
    obtain ⟨hji, heq⟩ := dropCommitment_left hj
    rw [heq] at hj ⊢
    rw [Function.update_of_ne fun hsame => hji (h.unshared j i hj hi hsame)]
    exact h.out j hj
  · intro q hq
    by_cases hqp : q = (a.commitments i).physicalBase
    · rw [hqp, Function.update_self] at hq
      exact absurd rfl hq
    · rw [Function.update_of_ne hqp] at hq
      obtain ⟨j, hj, hjq⟩ := h.backing q hq
      have hji : j ≠ i := by
        rintro rfl
        exact hqp hjq.symm
      have heq : (dropCommitment a i).commitments j = a.commitments j :=
        Function.update_of_ne hji _ _
      exact ⟨j, by rw [heq]; exact ⟨hj, hjq⟩⟩
  · intro j k hj hk hjk
    obtain ⟨-, heq⟩ := dropCommitment_left hj
    obtain ⟨-, heq'⟩ := dropCommitment_left hk
    rw [heq] at hj hjk
    rw [heq'] at hk hjk
    exact h.unshared j k hj hk hjk

end Backed

/-! ## The page tables -/

section Matched

variable (hargs : CreateArguments currentCr3 base length) (hpages : OneSlot base length)

include hpages in
theorem InArena.slot (hv : InArena base length v) : pml4Index v = pml4Index base :=
  inArena_slot hpages hv.above (by have := hv.below; simp only [pageSize] at this; omega)

include hargs hpages in
theorem InArena.accepted (hm : MadeFor m.paging base length nxEnabled)
    (hv : InArena base length v) : Accepted m.paging v :=
  (accepted_iff hm hargs hpages).mpr hv

/-- Two pages of the arena have one entry only if they are the same. -/
theorem InArena.sameEntry_iff (hu : InArena base length u) (hv : InArena base length v)
    (hucanon : canonical48 u = true) (hvcanon : canonical48 v = true) :
    SameEntry u v ↔ u = v := by
  rw [Vm.sameEntry_iff hucanon hvcanon]
  have := hu.aligned
  have := hv.aligned
  simp only [pageSize] at *
  omega

/-- A store into a page table, as the pages of the arena see it. -/
theorem store_leaf_page {entry : Nat} (hargs : CreateArguments currentCr3 base length)
    (hpages : OneSlot base length) (hinv : PagingInv c.tableAllocator tables held m)
    (hm : MadeFor m.paging base length nxEnabled) (hu : InArena base length u)
    (hv : InArena base length v) (hw : m.walk c.tableAllocator (tablePath v) = some t) :
    (m.store t (ptIndex v) entry).leaf c.tableAllocator u =
      if u = v then (if isPresent entry then some entry else none)
      else m.leaf c.tableAllocator u := by
  rw [store_leaf hinv ((hv.slot hpages).trans hm.arenaSlot.symm) hw entry
    ((hu.slot hpages).trans hm.arenaSlot.symm)]
  have hsame := hu.sameEntry_iff hv (hu.accepted hargs hpages hm).canonical
    (hv.accepted hargs hpages hm).canonical
  by_cases huv : u = v
  · rw [if_pos huv, if_pos (hsame.mpr huv)]
  · rw [if_neg huv, if_neg fun h => huv (hsame.mp h)]

variable (h : Matched c tables held base length nxEnabled s)

include h

include hargs hpages in
theorem Matched.slotSound : SlotSound s.machine.paging :=
  slotSound_of_fits h.made hargs hpages.fitsSlot

/-- The arena is the same, and so are the leaves. -/
theorem Matched.of_leaves (harena : s'.arena = s.arena)
    (hinv : PagingInv c.tableAllocator tables held s'.machine)
    (hmade : MadeFor s'.machine.paging base length nxEnabled)
    (hleaf : ∀ v, InArena base length v →
      s'.machine.leaf c.tableAllocator v = s.machine.leaf c.tableAllocator v) :
    Matched c tables held base length nxEnabled s' := by
  refine ⟨hinv, hmade, ?_, ?_, ?_, ?_⟩ <;> rw [harena]
  · exact h.arena
  · exact h.range
  · exact h.pages
  · intro v hv
    rw [hleaf v hv]
    exact h.mapped v hv

include hpages in
theorem Matched.grown (harena : s'.arena = s.arena)
    (hg : Grown c.tableAllocator tables data held s.machine s'.machine) :
    Matched c tables held base length nxEnabled s' :=
  h.of_leaves harena hg.inv (hg.keeps.madeFor h.made)
    fun _ hv => hg.leaves _ ((hv.slot hpages).trans h.made.arenaSlot.symm)

include hpages in
/-- Memory that is not the tables' own changes, and the world of the data pages. -/
theorem Matched.other (harena : s'.arena = s.arena) {memory : Nat → Nat → Nat} {world : W}
    (hmachine : s'.machine = { s.machine with memory, world })
    (hmemory : ∀ t ∈ s.machine.ownAliases, memory t = s.machine.memory t)
    (hworld : tables world = tables s.machine.world) :
    Matched c tables held base length nxEnabled s' := by
  apply h.of_leaves harena <;> rw [hmachine]
  · exact other_inv h.paging world hmemory hworld
  · exact h.made
  · intro v hv
    exact other_leaf h.paging world hmemory ((hv.slot hpages).trans h.made.arenaSlot.symm)

/-- The reservations change, but no commitment does. -/
theorem Matched.of_reservations (hmachine : s'.machine = s.machine)
    (hcom : s'.arena.commitments = s.arena.commitments) (harena : ArenaInv s'.arena)
    (honly : OnlyPages s'.arena) (hrange : s'.arena.base = base ∧ s'.arena.length = length) :
    Matched c tables held base length nxEnabled s' := by
  refine ⟨?_, ?_, harena, hrange, honly, ?_⟩
  · rw [hmachine]
    exact h.paging
  · rw [hmachine]
    exact h.made
  · intro v hv
    rw [hmachine, pageAt_congr hcom]
    exact h.mapped v hv

/-- A leaf and a commitment more. -/
theorem Matched.map {entry : Nat} (hargs : CreateArguments currentCr3 base length)
    (hpages : OneSlot base length) (hv : InArena base length v)
    (hw : s.machine.walk c.tableAllocator (tablePath v) = some t)
    (hentry : isPresent entry = true ∧ entryAddress entry = p) (hp : p ≠ 0)
    (hi : (s.arena.commitments i).live = false)
    (harena : ArenaInv (addCommitment s.arena i (pageRecord r v p generation)))
    (hs' : s'.machine = s.machine.store t (ptIndex v) entry)
    (ha' : s'.arena = addCommitment s.arena i (pageRecord r v p generation)) :
    Matched c tables held base length nxEnabled s' := by
  have hslot := (hv.slot hpages).trans h.made.arenaSlot.symm
  refine ⟨?_, ?_, ?_, ?_, ?_, ?_⟩
  · rw [hs']
    exact store_inv h.paging hslot hw entry
  · rw [hs']
    exact h.made
  · rw [ha']
    exact harena
  · rw [ha']
    exact h.range
  · rw [ha']
    exact addCommitment_onlyPages h.pages hv.aligned hp
  · intro u hu
    rw [hs', ha', store_leaf_page hargs hpages h.paging h.made hu hv hw,
      pageAt_addCommitment h.arena harena hi]
    by_cases huv : u = v
    · rw [if_pos huv, if_pos huv, if_pos hentry.1, Option.map_some, hentry.2]
    · rw [if_neg huv, if_neg huv]
      exact h.mapped u hu

/-- A leaf and a commitment less. -/
theorem Matched.unmap (hargs : CreateArguments currentCr3 base length)
    (hpages : OneSlot base length) (hv : InArena base length v)
    (hw : s.machine.walk c.tableAllocator (tablePath v) = some t)
    (hi : pageCommitment? s.arena v = some i)
    (hs' : s'.machine = s.machine.store t (ptIndex v) 0)
    (ha' : s'.arena = dropCommitment s.arena i) :
    Matched c tables held base length nxEnabled s' := by
  have hslot := (hv.slot hpages).trans h.made.arenaSlot.symm
  obtain ⟨hlive, hbase, hbytes⟩ := pageCommitment?_some hi
  refine ⟨?_, ?_, ?_, ?_, ?_, ?_⟩
  · rw [hs']
    exact store_inv h.paging hslot hw 0
  · rw [hs']
    exact h.made
  · rw [ha']
    exact dropCommitment_inv h.arena hlive
  · rw [ha']
    exact h.range
  · rw [ha']
    exact dropCommitment_onlyPages h.pages
  · intro u hu
    rw [hs', ha', store_leaf_page hargs hpages h.paging h.made hu hv hw,
      pageAt_dropCommitment h.arena hlive hbase hbytes]
    by_cases huv : u = v
    · rw [if_pos huv, if_pos huv]
      rfl
    · rw [if_neg huv, if_neg huv]
      exact h.mapped u hu

end Matched

/-! ## A page goes away -/

section Steps

variable (hargs : CreateArguments currentCr3 base length) (hpages : OneSlot base length)

include hargs hpages

/-- A committed page can be unmapped and decommitted, and the answers are as expected. -/
theorem Matched.dropped (h : Matched c tables held base length nxEnabled s)
    (hv : InArena base length v) (hp : pageAt s.arena v = some p) :
    ∃ i t, pageCommitment? s.arena v = some i ∧ (s.arena.commitments i).physicalBase = p ∧
      s.machine.walk c.tableAllocator (tablePath v) = some t ∧
      unmapPage c.tableAllocator s.machine v = (.ok p, s.machine.store t (ptIndex v) 0) ∧
      decommitPage s.arena v = .ok (dropCommitment s.arena i) := by
  obtain ⟨i, hi, hip⟩ := Option.map_eq_some_iff.mp hp
  have hmapped := h.mapped v hv
  rw [hp] at hmapped
  obtain ⟨entry, hleaf, hentry⟩ := Option.map_eq_some_iff.mp hmapped
  have heffect := unmapPage_effect h.paging (h.slotSound hargs hpages) v
  generalize hr : unmapPage c.tableAllocator s.machine v = r at heffect
  obtain ⟨answer, m'⟩ := r
  dsimp only at heffect
  cases heffect with
  | refused hno => exact absurd (hv.accepted hargs hpages h.made) hno
  | absent _ hnone =>
    rw [hnone] at hleaf
    cases hleaf
  | @unmapped t entry' _ hleaf' hw =>
    rw [hleaf'] at hleaf
    cases hleaf
    exact ⟨i, t, hi, hip, hw, by rw [← hentry], decommitPage_ok h.arena hv.aligned hi⟩

/-- The page is out of the tables and out of the arena, and the allocator has it back. -/
theorem Coherent.dropped (hD : Conforming c.dataAllocator data tables held)
    (h : Coherent c tables data held base length nxEnabled s) (hv : InArena base length v)
    (hi : pageCommitment? s.arena v = some i)
    (hip : (s.arena.commitments i).physicalBase = p)
    (hw : s.machine.walk c.tableAllocator (tablePath v) = some t)
    (harena : s'.arena = dropCommitment s.arena i)
    (hmachine : s'.machine = s.machine.store t (ptIndex v) 0) :
    Coherent c tables data held base length nxEnabled
      (s'.freeData c p (c.dataAllocator.physicalAlias p)) := by
  obtain ⟨hlive, -, -⟩ := pageCommitment?_some hi
  have hout := h.backed.out i hlive
  rw [hip] at hout
  have hworld : s'.machine.world = s.machine.world := by
    rw [hmachine]
    rfl
  obtain ⟨hdata, htables⟩ := hD.freed hout
  have hm : Matched c tables held base length nxEnabled s' :=
    h.matched.unmap hargs hpages hv hw hi hmachine harena
  refine ⟨hm.other hpages rfl rfl (fun _ _ => rfl) ?_, ?_⟩
  · rw [hworld]
    exact htables
  · change Backed _ (data (c.dataAllocator.freePage p _ s'.machine.world)) s'.arena
    rw [hworld, hdata, harena, ← hip]
    exact h.backed.drop hlive

theorem Coherent.dropPage (hD : Conforming c.dataAllocator data tables held)
    (h : Coherent c tables data held base length nxEnabled s) (hv : InArena base length v)
    (hp : pageAt s.arena v = some p) :
    Coherent c tables data held base length nxEnabled
      (s.dropPage c v p (c.dataAllocator.physicalAlias p)) ∧
    ∀ u, u ≠ v → pageAt (s.dropPage c v p (c.dataAllocator.physicalAlias p)).arena u =
      pageAt s.arena u := by
  obtain ⟨i, t, hi, hip, hw, hunmap, hdecommit⟩ := h.matched.dropped hargs hpages hv hp
  obtain ⟨hlive, hbase, hbytes⟩ := pageCommitment?_some hi
  have hs : (s.unmap c v).decommit v =
      { s with machine := s.machine.store t (ptIndex v) 0, arena := dropCommitment s.arena i } := by
    unfold Space.unmap Space.decommit
    rw [hunmap]
    dsimp only
    rw [hdecommit]
  unfold Space.dropPage
  rw [hs]
  refine ⟨h.dropped hargs hpages hD hv hi hip hw rfl rfl, ?_⟩
  intro u hu
  change pageAt (dropCommitment s.arena i) u = _
  rw [pageAt_dropCommitment h.matched.arena hlive hbase hbytes, if_neg hu]

/-! ## A page is committed -/

/-- A new page as the loop of `gxos_vm_commit_range` has noted it down. -/
structure Placed (c : Context W) (base length : Nat) (a : Arena) (x : CreatedPage) : Prop where
  inside : InArena base length x.virtualPage
  page : pageAt a x.virtualPage = some x.physicalPage
  physicalAlias : x.page = c.dataAllocator.physicalAlias x.physicalPage

/-- What a turn of the loop does: pages that were committed stay, and a new page is noted. -/
structure TurnEffect (c : Context W) (tables data : W → Nat → Option Nat) (held : Nat → Prop)
    (base length : Nat) (nxEnabled : Bool) (s : Space W) (v : Nat)
    (answer : Except CommitError (Option CreatedPage)) (s' : Space W) : Prop where
  coherent : Coherent c tables data held base length nxEnabled s'
  keeps : ∀ u q, pageAt s.arena u = some q → pageAt s'.arena u = some q
  placed : ∀ x, answer = .ok (some x) →
    x.virtualPage = v ∧ pageAt s.arena v = none ∧ Placed c base length s'.arena x

omit hargs in
/-- The page that was taken goes back, and all is as before. -/
theorem Coherent.given_back (hD : Conforming c.dataAllocator data tables held) {pa : Nat}
    (h : Backed c.dataAllocator.physicalAlias (data s.machine.world) s.arena)
    (hm : Matched c tables held base length nxEnabled s') (harena : s'.arena = s.arena)
    (hnone : data s.machine.world p = none)
    (hdata : data s'.machine.world = Function.update (data s.machine.world) p (some pa)) :
    Coherent c tables data held base length nxEnabled (s'.freeData c p pa) := by
  have hout : data s'.machine.world p = some pa := by
    rw [hdata, Function.update_self]
  obtain ⟨hfreed, htables⟩ := hD.freed hout
  refine ⟨hm.other hpages rfl rfl (fun _ _ => rfl) htables, ?_⟩
  change Backed _ (data (c.dataAllocator.freePage p pa s'.machine.world)) s'.arena
  rw [hfreed, hdata, Function.update_idem, harena, ← hnone, Function.update_eq_self]
  exact h

/-- A leaf that is set and taken away at once. -/
theorem Matched.mapped_and_unmapped (h : Matched c tables held base length nxEnabled s)
    (hv : InArena base length v) (hw : s.machine.walk c.tableAllocator (tablePath v) = some t)
    {entry : Nat} (hentry : isPresent entry = true)
    (hleaf : s.machine.leaf c.tableAllocator v = none) :
    Matched c tables held base length nxEnabled
      { s with machine :=
        (unmapPage c.tableAllocator (s.machine.store t (ptIndex v) entry) v).2 } ∧
    (unmapPage c.tableAllocator (s.machine.store t (ptIndex v) entry) v).2.world =
      s.machine.world := by
  have hslot := (hv.slot hpages).trans h.made.arenaSlot.symm
  have h3 : PagingInv c.tableAllocator tables held (s.machine.store t (ptIndex v) entry) :=
    store_inv h.paging hslot hw entry
  have hmade : MadeFor (s.machine.store t (ptIndex v) entry).paging base length nxEnabled := h.made
  have hunmap := unmapPage_effect h3 (h.slotSound hargs hpages) v
  have hself : (s.machine.store t (ptIndex v) entry).leaf c.tableAllocator v = some entry := by
    rw [store_leaf_page hargs hpages h.paging h.made hv hv hw, if_pos rfl, if_pos hentry]
  generalize unmapPage c.tableAllocator (s.machine.store t (ptIndex v) entry) v = r at hunmap ⊢
  obtain ⟨answer, m4⟩ := r
  dsimp only at hunmap ⊢
  cases hunmap with
  | refused hno => exact absurd (hv.accepted hargs hpages hmade) hno
  | absent _ hgone =>
    rw [hself] at hgone
    cases hgone
  | @unmapped t' entry' _ _ hw' =>
    refine ⟨h.of_leaves rfl (store_inv h3 hslot hw' 0) h.made ?_, rfl⟩
    intro u hu
    rw [store_leaf_page hargs hpages h3 hmade hu hv hw',
      store_leaf_page hargs hpages h.paging h.made hu hv hw]
    by_cases huv : u = v
    · rw [if_pos huv, huv, hleaf]
      rfl
    · rw [if_neg huv, if_neg huv]

/-- The turn once its data page is there. -/
theorem commitTurn_mapped (hT : Conforming c.tableAllocator tables data held)
    (hD : Conforming c.dataAllocator data tables held)
    (h : Coherent c tables data held base length nxEnabled s) (hv : InArena base length v)
    (writable executable : Bool) {pa : Nat} {world : W}
    (halloc : c.dataAllocator.allocatePage s.machine.world = (some (p, pa), world))
    (hfind : findCommitment s.arena v = none) :
    TurnEffect c tables data held base length nxEnabled s v
      (commitTurn c writable executable s v).1 (commitTurn c writable executable s v).2 := by
  obtain ⟨hpart, hpa, halias⟩ := hD.page halloc
  obtain ⟨hnone, hother, -, hapart⟩ := hD.fresh halloc
  obtain ⟨hdata, htables⟩ := hD.taken halloc
  have hzero : ¬ (p = 0 ∨ pa = 0) := by
    rintro (h0 | h0)
    · exact hpart.nonzero h0
    · exact hpa h0
  -- the machine with the zeros in the new page
  have hown : ∀ t ∈ s.machine.ownAliases, t ≠ pa :=
    fun t ht => h.matched.paging.ne_of_own (fun q => (hapart q).2) ht
  have h1 : Matched c tables held base length nxEnabled
      { s with machine := (s.withWorld world).machine.zeroData pa } :=
    h.matched.other hpages rfl rfl (fun t ht => Function.update_of_ne (hown t ht) _ _) htables
  have heffect := mapPage_effect hT h1.paging (h1.slotSound hargs hpages) v p writable executable
  unfold commitTurn
  rw [hfind, halloc]
  dsimp only
  rw [if_neg hzero]
  dsimp only at heffect
  generalize mapPage c.tableAllocator ((s.withWorld world).machine.zeroData pa) v p writable
    executable = r at heffect ⊢
  obtain ⟨mapped, m2⟩ := r
  dsimp only at heffect ⊢
  have hback : ∀ {e : CommitError} {m2 : Machine W},
      Matched c tables held base length nxEnabled { s with machine := m2 } →
      data m2.world = data world →
      TurnEffect c tables data held base length nxEnabled s v (.error e)
        (({ s with machine := m2 } : Space W).freeData c p pa) := by
    intro e m2 hm hworld
    refine ⟨Coherent.given_back hpages hD h.backed hm rfl hnone (by rw [← hdata]; exact hworld),
      fun u q hq => hq, ?_⟩
    intro x hx
    cases hx
  cases heffect with
  | refused => exact hback h1 rfl
  | present _ _ hg => exact hback (h1.grown hpages rfl hg) hg.keeps.data
  | short _ _ _ hg => exact hback (h1.grown hpages rfl hg) hg.keeps.data
  | @mapped m1 t hmapargs hleaf hg hw =>
    have h2 : Matched c tables held base length nxEnabled { s with machine := m1 } :=
      h1.grown hpages rfl hg
    have hentry : isPresent (p ||| pageFlags
        ((s.withWorld world).machine.zeroData pa).paging.nxEnabled writable executable) = true ∧
        entryAddress (p ||| pageFlags
          ((s.withWorld world).machine.zeroData pa).paging.nxEnabled writable executable) = p :=
      ⟨pageEntry_present hpart.aligned .., pageEntry_address hpart ..⟩
    have hslot := (hv.slot hpages).trans h2.made.arenaSlot.symm
    have hfree : pageAt s.arena v = none := by
      rw [← h1.mapped v hv, hleaf]
      rfl
    generalize p ||| pageFlags ((s.withWorld world).machine.zeroData pa).paging.nxEnabled writable
      executable = entry at hentry ⊢
    have hworld : data m1.world = data world := hg.keeps.data
    dsimp only [Space.withWorld]
    cases hcommit : commitPage s.arena v p c.generation with
    | error e =>
      -- the arena has no room, so the new leaf goes away again
      have h4 := h2.mapped_and_unmapped hargs hpages hv hw hentry.1
        ((hg.leaves v ((hv.slot hpages).trans h1.made.arenaSlot.symm)).trans hleaf)
      exact hback h4.1 ((congrArg data h4.2).trans hworld)
    | ok arena =>
      rcases commitPage_eq_ok hcommit with ⟨-, i, hi, -⟩ | ⟨hnot, i, r, hi, -, hx, rfl⟩
      · simp [pageAt, hi] at hfree
      · have harena : ArenaInv (addCommitment s.arena i (pageRecord r v p c.generation)) :=
          addCommitment_inv h.matched.arena hi rfl hx
            fun j hj => h.matched.pages.apart hnot hv.aligned hj
        have hm : Matched c tables held base length nxEnabled
            { s with machine := m1.store t (ptIndex v) entry
                     arena := addCommitment s.arena i (pageRecord r v p c.generation) } :=
          h2.map hargs hpages hv hw hentry hpart.nonzero hi harena rfl rfl
        have hpage := pageAt_addCommitment h.matched.arena harena hi
        refine ⟨⟨hm, ?_⟩, ?_, ?_⟩
        · change Backed _ (data m1.world) _
          rw [hworld, hdata, ← halias]
          exact h.backed.add hnone hi
        · intro u q hq
          change pageAt (addCommitment s.arena i (pageRecord r v p c.generation)) u = some q
          rw [hpage u, if_neg]
          · exact hq
          · rintro rfl
            rw [hfree] at hq
            cases hq
        · intro x hx
          cases hx
          refine ⟨rfl, hfree, hv, ?_, halias.symm⟩
          change pageAt (addCommitment s.arena i (pageRecord r v p c.generation)) v = some p
          rw [hpage v, if_pos rfl]

theorem commitTurn_effect (hT : Conforming c.tableAllocator tables data held)
    (hD : Conforming c.dataAllocator data tables held)
    (h : Coherent c tables data held base length nxEnabled s) (hv : InArena base length v)
    (writable executable : Bool) :
    TurnEffect c tables data held base length nxEnabled s v
      (commitTurn c writable executable s v).1 (commitTurn c writable executable s v).2 := by
  have hsame : ∀ {e : CommitError}, TurnEffect c tables data held base length nxEnabled s v
      (.error e) s := by
    intro e
    refine ⟨h, fun u q hq => hq, ?_⟩
    intro x hx
    cases hx
  cases hfind : findCommitment s.arena v with
  | some i =>
    unfold commitTurn
    rw [hfind]
    dsimp only
    split
    · refine ⟨h, fun u q hq => hq, ?_⟩
      intro x hx
      cases hx
    · exact hsame
  | none =>
    cases halloc : c.dataAllocator.allocatePage s.machine.world with
    | mk answer world =>
      cases answer with
      | none =>
        obtain ⟨hdata, htables⟩ := hD.failed halloc
        unfold commitTurn
        rw [hfind, halloc]
        refine ⟨⟨h.matched.other hpages rfl rfl (fun _ _ => rfl) htables, ?_⟩, fun u q hq => hq, ?_⟩
        · change Backed _ (data world) s.arena
          rw [hdata]
          exact h.backed
        · intro x hx
          cases hx
      | some pages =>
        exact commitTurn_mapped hargs hpages hT hD h hv writable executable halloc hfind

/-! ## A range is committed -/

theorem Coherent.rollBack (hD : Conforming c.dataAllocator data tables held)
    (h : Coherent c tables data held base length nxEnabled s) {created : List CreatedPage}
    (hplaced : ∀ x ∈ created, Placed c base length s.arena x)
    (hdistinct : created.Pairwise fun x y => x.virtualPage ≠ y.virtualPage) :
    Coherent c tables data held base length nxEnabled (rollBack c s created) := by
  induction created generalizing s with
  | nil => exact h
  | cons x rest ih =>
    obtain ⟨hx, hrest⟩ := List.pairwise_cons.mp hdistinct
    obtain ⟨hv, hp, ha⟩ := hplaced x (by simp)
    obtain ⟨h1, hkeep⟩ := h.dropPage hargs hpages hD hv hp
    unfold Vm.rollBack
    rw [ha]
    refine ih h1 ?_ hrest
    intro y hy
    obtain ⟨hyv, hyp, hya⟩ := hplaced y (by simp [hy])
    exact ⟨hyv, by rw [hkeep _ (hx y hy).symm]; exact hyp, hya⟩

theorem Coherent.commitFrom (hT : Conforming c.tableAllocator tables data held)
    (hD : Conforming c.dataAllocator data tables held)
    (h : Coherent c tables data held base length nxEnabled s) (writable executable : Bool)
    {created : List CreatedPage} (left : Nat)
    (hplaced : ∀ x ∈ created, Placed c base length s.arena x)
    (hdistinct : created.Pairwise fun x y => x.virtualPage ≠ y.virtualPage)
    (hin : ∀ k < left, InArena base length (v + k * pageSize)) :
    Coherent c tables data held base length nxEnabled
      (commitFrom c writable executable s created v left).2 := by
  induction left generalizing s created v with
  | zero => exact h
  | succ left ih =>
    have hv : InArena base length v := by simpa using hin 0 (by omega)
    have hnext : ∀ k < left, InArena base length (v + pageSize + k * pageSize) := by
      intro k hk
      have := hin (k + 1) (by omega)
      rwa [Nat.succ_mul, Nat.add_comm (k * pageSize), ← Nat.add_assoc] at this
    have heffect := commitTurn_effect hargs hpages hT hD h hv writable executable
    unfold Vm.commitFrom
    generalize Vm.commitTurn c writable executable s v = r at heffect ⊢
    obtain ⟨answer, s1⟩ := r
    dsimp only at heffect
    obtain ⟨h1, hkeeps, hnew⟩ := heffect
    have hplaced1 : ∀ x ∈ created, Placed c base length s1.arena x := by
      intro x hx
      obtain ⟨hxv, hxp, hxa⟩ := hplaced x hx
      exact ⟨hxv, hkeeps _ _ hxp, hxa⟩
    rcases answer with e | _ | x
    · exact h1.rollBack hargs hpages hD hplaced1 hdistinct
    · exact ih h1 hplaced1 hdistinct hnext
    · obtain ⟨hxv, hfree, hx⟩ := hnew x rfl
      refine ih h1 ?_ ?_ hnext
      · intro y hy
        rcases List.mem_cons.mp hy with rfl | hy
        · exact hx
        · exact hplaced1 y hy
      · refine List.pairwise_cons.mpr ⟨?_, hdistinct⟩
        -- the page was free before this turn, and those noted down were not
        intro y hy hsame
        have := (hplaced y hy).page
        rw [← hsame, hxv, hfree] at this
        cases this

omit hargs hpages in
/-- The pages of a live reservation are pages of the arena. -/
theorem PagesIn.inArena {page count : Nat}
    (hm : Matched c tables held base length nxEnabled s) (h : PagesIn s.arena r page count) :
    ∀ k < count, InArena base length (page + k * pageSize) := by
  intro k hk
  have hinside := (hm.arena.reservations r h.live).inside
  rw [hm.range.1, hm.range.2] at hinside
  have halign := h.aligned
  have habove := h.above
  have hbelow := h.below
  have hmul : k * pageSize + pageSize ≤ count * pageSize := by
    have := Nat.mul_le_mul_right pageSize hk
    rwa [Nat.succ_mul] at this
  refine ⟨?_, ?_, ?_⟩
  · rw [Nat.add_mul_mod_self_right]
    exact halign
  · omega
  · omega

theorem Coherent.commitRange (hT : Conforming c.tableAllocator tables data held)
    (hD : Conforming c.dataAllocator data tables held)
    (h : Coherent c tables data held base length nxEnabled s) (n start bytes : Nat)
    (writable executable : Bool) :
    Coherent c tables data held base length nxEnabled
      (commitRange c s n start bytes writable executable).2 := by
  rcases commitRange_cases c s n start bytes writable executable with
    ⟨e, heq⟩ | ⟨r, page, count, -, -, hin, heq⟩
  · rw [heq]
    exact h
  · rw [heq]
    exact h.commitFrom hargs hpages hT hD writable executable count (by simp) List.Pairwise.nil
      (hin.inArena h.matched)

/-! ## The calls of the payload -/

omit hargs hpages in
theorem Coherent.fail (h : Coherent c tables data held base length nxEnabled s)
    (failure : PublicError × Nat) (result : PublicResult) :
    Coherent c tables data held base length nxEnabled (s.fail failure result).2 :=
  ⟨h.matched.of_leaves rfl h.matched.paging h.matched.made fun _ _ => rfl, h.backed⟩

omit hargs hpages in
theorem Coherent.reserveAny (h : Coherent c tables data held base length nxEnabled s)
    {size kind owner b : Nat} {arena : Arena}
    (hok : reserveAny s.arena size kind owner generation = .ok (b, r, arena)) :
    Coherent c tables data held base length nxEnabled { s with arena } := by
  have hfixed := reserveAny_eq_ok hok
  have hinv := reserveFixed_inv h.matched.arena hfixed
  obtain ⟨halign, -, -, -, -, -, -, rfl⟩ := reserveFixed_eq_ok hfixed
  refine ⟨h.matched.of_reservations rfl rfl hinv ?_ h.matched.range, h.backed.congr rfl⟩
  apply withReservation_onlyPages h.matched.pages
  · simp only [reservationGranularity, pageSize] at halign ⊢
    omega
  · exact pageRoundBytes_mod size

omit hargs hpages in
theorem Coherent.release (h : Coherent c tables data held base length nxEnabled s) {n : Nat}
    {arena : Arena} (hok : release s.arena n = .ok arena) :
    Coherent c tables data held base length nxEnabled { s with arena } := by
  have hinv := release_inv h.matched.arena hok
  obtain ⟨r, -, -, -, rfl⟩ := release_eq_ok hok
  exact ⟨h.matched.of_reservations rfl rfl hinv (withoutReservation_onlyPages h.matched.pages)
    h.matched.range, h.backed.congr rfl⟩

omit hargs hpages in
/-- A live commitment is a page of the arena. -/
theorem Matched.commitment (h : Matched c tables held base length nxEnabled s)
    (hi : (s.arena.commitments i).live = true) :
    InArena base length (s.arena.commitments i).base ∧
    pageAt s.arena (s.arena.commitments i).base = some (s.arena.commitments i).physicalBase := by
  obtain ⟨hbytes, halign, -⟩ := h.pages.commitments i hi
  have hx := h.arena.commitments i hi
  have hin := hx.inside
  have hr := (h.arena.reservations _ hx.reserved).inside
  rw [h.range.1, h.range.2] at hr
  rw [hbytes] at hin
  refine ⟨⟨halign, by omega, by omega⟩, ?_⟩
  rw [pageAt_eq_some h.arena]
  exact ⟨i, hi, rfl, hbytes, rfl⟩

theorem Coherent.publicCommitRange (hT : Conforming c.tableAllocator tables data held)
    (hD : Conforming c.dataAllocator data tables held)
    (h : Coherent c tables data held base length nxEnabled s) (r : ReservationSlot)
    (start bytes : Nat) (result : PublicResult) :
    Coherent c tables data held base length nxEnabled
      (publicCommitRange c s r start bytes result).2 := by
  unfold Vm.publicCommitRange
  cases publicRange s r start bytes with
  | none => exact h.fail _ _
  | some range =>
    obtain ⟨startPage, stop⟩ := range
    dsimp only
    split
    · exact h.fail _ _
    · have h1 := h.commitRange hargs hpages hT hD r start bytes true false
      generalize Vm.commitRange c s r start bytes true false = answer at h1 ⊢
      obtain ⟨status, s1⟩ := answer
      cases status with
      | error e => exact Coherent.fail h1 _ _
      | ok n => exact h1

theorem Coherent.cleanCommitment (hD : Conforming c.dataAllocator data tables held)
    (h : Coherent c tables data held base length nxEnabled s) (r : ReservationSlot)
    (i : CommitmentSlot) :
    Coherent c tables data held base length nxEnabled (cleanCommitment c r s i) := by
  unfold Vm.cleanCommitment
  dsimp only
  split
  · rename_i hi
    obtain ⟨hin, hp⟩ := h.matched.commitment hi.1
    exact (h.dropPage hargs hpages hD hin hp).1
  · exact h

theorem Coherent.cleanCommitments (hD : Conforming c.dataAllocator data tables held)
    (h : Coherent c tables data held base length nxEnabled s) (r : ReservationSlot)
    (slots : List CommitmentSlot) :
    Coherent c tables data held base length nxEnabled (slots.foldl (Vm.cleanCommitment c r) s) := by
  induction slots generalizing s with
  | nil => exact h
  | cons i rest ih => exact ih (h.cleanCommitment hargs hpages hD r i)

omit hargs hpages in
theorem Coherent.releaseWith (h : Coherent c tables data held base length nxEnabled s)
    (r : ReservationSlot) (reply : PublicReply) (result : PublicResult) :
    Coherent c tables data held base length nxEnabled (releaseWith s r reply result).2 := by
  unfold Vm.releaseWith
  split
  · exact h.fail _ _
  · rename_i hrelease
    exact h.release hrelease

theorem Coherent.abandonReservation (hD : Conforming c.dataAllocator data tables held)
    (h : Coherent c tables data held base length nxEnabled s) (r : ReservationSlot)
    (e : PublicError) (result : PublicResult) :
    Coherent c tables data held base length nxEnabled
      (abandonReservation c s r e result).2 :=
  Coherent.releaseWith (h.cleanCommitments hargs hpages hD r (List.finRange maxCommitments)) r _ _

theorem Coherent.virtualAlloc (hT : Conforming c.tableAllocator tables data held)
    (hD : Conforming c.dataAllocator data tables held)
    (h : Coherent c tables data held base length nxEnabled s)
    (address size allocationType protection : Nat) :
    Coherent c tables data held base length nxEnabled
      (virtualAlloc c s address size allocationType protection).2 := by
  unfold Vm.virtualAlloc
  split
  · exact h.fail _ _
  dsimp only
  split
  · exact h.fail _ _
  split
  · exact h.fail _ _
  split
  · exact h.fail _ _
  split
  · exact h.fail _ _
  split
  · -- reserve
    split
    · exact h.fail _ _
    · rename_i hok
      exact h.reserveAny hok
  split
  · -- reserve and commit
    split
    · exact h.fail _ _
    · rename_i b r arena hok
      have h1 := (h.reserveAny hok).publicCommitRange hargs hpages hT hD r b size
        { requestedBytes := size, reserved := true }
      generalize Vm.publicCommitRange c { s with arena } r b size
        { requestedBytes := size, reserved := true } = answer at h1 ⊢
      obtain ⟨⟨status, result, address⟩, s1⟩ := answer
      cases status with
      | ok _ => exact h1
      | error e => exact h1.abandonReservation hargs hpages hD r e { requestedBytes := size }
  split
  · exact h.fail _ _
  split
  · exact h.fail _ _
  · -- commit
    rename_i r _
    have h1 := h.publicCommitRange hargs hpages hT hD r address size { requestedBytes := size }
    generalize Vm.publicCommitRange c s r address size { requestedBytes := size } = answer at h1 ⊢
    obtain ⟨⟨status, result, address⟩, s1⟩ := answer
    cases status <;> exact h1

theorem Coherent.releaseCommitments (hD : Conforming c.dataAllocator data tables held)
    (h : Coherent c tables data held base length nxEnabled s) (r : ReservationSlot)
    (slots : List CommitmentSlot) :
    Coherent c tables data held base length nxEnabled (releaseCommitments c r s slots).2 := by
  induction slots generalizing s with
  | nil => exact h
  | cons i rest ih =>
    unfold Vm.releaseCommitments
    dsimp only
    split
    · exact ih h
    · rename_i hi
      simp only [not_or, Decidable.not_not] at hi
      split
      · exact h
      · -- the page is in the tables under the same name, so nothing fails here
        obtain ⟨hin, hp⟩ := h.matched.commitment hi.1
        obtain ⟨j, t, hj, hjp, hw, hunmap, hdecommit⟩ := h.matched.dropped hargs hpages hin hp
        rw [hunmap]
        dsimp only
        rw [if_neg (not_not_intro rfl), hdecommit]
        exact ih (h.dropped hargs hpages hD hin hj hjp hw rfl rfl)

theorem Coherent.releaseReservation (hD : Conforming c.dataAllocator data tables held)
    (h : Coherent c tables data held base length nxEnabled s) (r : ReservationSlot)
    (address : Nat) (committed : Nat × Nat) :
    Coherent c tables data held base length nxEnabled
      (releaseReservation c s r address committed).2 := by
  have h1 := h.releaseCommitments hargs hpages hD r (List.finRange maxCommitments)
  unfold Vm.releaseReservation
  generalize Vm.releaseCommitments c r s (List.finRange maxCommitments) = answer at h1 ⊢
  obtain ⟨ok, s1⟩ := answer
  cases ok with
  | false => exact h1.fail _ _
  | true => exact h1.releaseWith r _ _

theorem Coherent.virtualFree (hD : Conforming c.dataAllocator data tables held)
    (h : Coherent c tables data held base length nxEnabled s) (address size freeType : Nat) :
    Coherent c tables data held base length nxEnabled
      (virtualFree c s address size freeType).2 := by
  unfold Vm.virtualFree
  split
  · exact h.fail _ _
  split
  · exact h.fail _ _
  split
  · exact h.fail _ _
  split
  · exact h.fail _ _
  split
  · exact h.fail _ _
  split
  · exact h.fail _ _
  · exact h.releaseReservation hargs hpages hD _ _ _

end Steps

/-! ## Every run -/

inductive VirtualOp
  | virtualAlloc (address size allocationType protection : Nat)
  | virtualFree (address size freeType : Nat)
  deriving DecidableEq, Repr

def virtualStep (c : Context W) (s : Space W) : VirtualOp → Space W
  | .virtualAlloc address size allocationType protection =>
    (virtualAlloc c s address size allocationType protection).2
  | .virtualFree address size freeType => (virtualFree c s address size freeType).2

theorem Coherent.virtualStep (hargs : CreateArguments currentCr3 base length)
    (hpages : OneSlot base length) (hT : Conforming c.tableAllocator tables data held)
    (hD : Conforming c.dataAllocator data tables held)
    (h : Coherent c tables data held base length nxEnabled s) (op : VirtualOp) :
    Coherent c tables data held base length nxEnabled (virtualStep c s op) := by
  cases op with
  | virtualAlloc address size allocationType protection =>
    exact h.virtualAlloc hargs hpages hT hD address size allocationType protection
  | virtualFree address size freeType => exact h.virtualFree hargs hpages hD address size freeType

/-- A fresh arena, with a paging object made over the same range. No data page is out. -/
structure FreshSpace (c : Context W) (data : W → Nat → Option Nat)
    (currentCr3 base length generation : Nat) (nxEnabled : Bool) (s : Space W) : Prop where
  arena : s.arena = arenaInit base length generation
  machine : ∃ m0, create c.tableAllocator m0 currentCr3 base length nxEnabled = (.ok (), s.machine)
  none_out : ∀ p, data s.machine.world p = none

theorem OneSlot.length_le (h : OneSlot base length) : length ≤ uint64Max := by
  have hslot := h.slot
  simp only [uint64Max]
  omega

theorem FreshSpace.created (hlength : length ≤ uint64Max)
    (h : FreshSpace c data currentCr3 base length generation nxEnabled s) :
    CreateArguments currentCr3 base length := by
  obtain ⟨m0, hcreate⟩ := h.machine
  obtain ⟨_, _, _, hnew, _⟩ := create_eq_ok hlength hcreate
  exact hnew.arguments

theorem FreshSpace.coherent (hT : Conforming c.tableAllocator tables data held)
    (hpages : OneSlot base length)
    (h : FreshSpace c data currentCr3 base length generation nxEnabled s) :
    CreateArguments currentCr3 base length ∧
    Coherent c tables data held base length nxEnabled s := by
  obtain ⟨m0, hcreate⟩ := h.machine
  obtain ⟨rootPhysical, rootAlias, world, hnew, hmachine⟩ :=
    create_eq_ok hpages.length_le hcreate
  have harena := arenaInit_inv base length generation
  have hno : ∀ i, (s.arena.commitments i).live ≠ true := by
    intro i hi
    rw [h.arena] at hi
    cases hi
  refine ⟨hnew.arguments, ⟨?_, ?_, ?_, ?_, ?_, ?_⟩, ?_, ?_, ?_⟩
  · rw [hmachine]
    exact created_inv hT hnew
  · rw [hmachine]
    exact ⟨rfl, rfl, rfl, rfl⟩
  · rw [h.arena]
    exact harena
  · rw [h.arena]
    exact ⟨rfl, rfl⟩
  · rw [h.arena]
    exact arenaInit_onlyPages base length generation
  · intro v hv
    rw [hmachine, created_leaf hnew (hv.slot hpages)]
    cases hp : pageAt s.arena v with
    | none => rfl
    | some p =>
      rw [h.arena] at hp
      obtain ⟨i, hi, -⟩ := (pageAt_eq_some harena).mp hp
      cases hi
  · exact fun i hi => absurd hi (hno i)
  · exact fun p hp => absurd (h.none_out p) hp
  · exact fun i _ hi => absurd hi (hno i)

/-- A virtual page has a live commitment of one page to a physical page. -/
def Commits (a : Arena) (v p : Nat) : Prop :=
  ∃ i, (a.commitments i).live = true ∧ (a.commitments i).base = v ∧
    (a.commitments i).bytes = pageSize ∧ (a.commitments i).physicalBase = p

/-- The page tables map a virtual page to a physical page. -/
def Maps (allocator : PageAllocator W) (m : Machine W) (v p : Nat) : Prop :=
  ∃ mapping, query allocator m v = .ok mapping ∧ mapping.pageSize = pageSize ∧
    mapping.physicalBase = p

theorem Matched.commits_iff_maps (hargs : CreateArguments currentCr3 base length)
    (hpages : OneSlot base length) (h : Matched c tables held base length nxEnabled s)
    (hv : InArena base length v) (p : Nat) :
    Commits s.arena v p ↔ Maps c.tableAllocator s.machine v p := by
  have hcanon := (hv.accepted hargs hpages h.made).canonical
  have hquery := query_eq h.paging hcanon ((hv.slot hpages).trans h.made.arenaSlot.symm)
  have hmapped := h.mapped v hv
  unfold Commits Maps
  rw [← pageAt_eq_some h.arena, hquery, ← hmapped]
  cases s.machine.leaf c.tableAllocator v with
  | none => simp
  | some entry => simp [pageMapping, hv.aligned]

/-- The arena, the page tables and the data allocator agree after every call. -/
theorem virtual_memory_is_coherent (hT : Conforming c.tableAllocator tables data held)
    (hD : Conforming c.dataAllocator data tables held) (hpages : WholePages base length)
    (h : Reach (FreshSpace c data currentCr3 base length generation nxEnabled) (virtualStep c)
      (fun _ _ => True) s) :
    (∀ v, InArena base length v → ∀ p,
      Commits s.arena v p ↔ Maps c.tableAllocator s.machine v p) ∧
    (∀ i j, (s.arena.commitments i).live = true → (s.arena.commitments j).live = true →
      (s.arena.commitments i).physicalBase = (s.arena.commitments j).physicalBase → i = j) ∧
    (∀ p, data s.machine.world p ≠ none ↔ ∃ v, InArena base length v ∧ Commits s.arena v p) ∧
    ∀ i, (s.arena.commitments i).live = true →
      Commits s.arena (s.arena.commitments i).base (s.arena.commitments i).physicalBase := by
  have hcoherent : CreateArguments currentCr3 base length ∧
      Coherent c tables data held base length nxEnabled s := by
    apply h.invariant
    · intro s hs
      have hlength : length ≤ uint64Max := by
        have hslot := hpages.slot
        simp only [uint64Max]
        omega
      exact hs.coherent hT (hpages.oneSlot (hs.created hlength))
    · rintro s op - ⟨hargs, hs⟩ -
      exact ⟨hargs, hs.virtualStep hargs (hpages.oneSlot hargs) hT hD op⟩
  obtain ⟨hargs, hm, hb⟩ := hcoherent
  have hpages := hpages.oneSlot hargs
  have hlive : ∀ i, (s.arena.commitments i).live = true →
      Commits s.arena (s.arena.commitments i).base (s.arena.commitments i).physicalBase :=
    fun i hi => ⟨i, hi, rfl, (hm.pages.commitments i hi).1, rfl⟩
  refine ⟨fun v hv p => hm.commits_iff_maps hargs hpages hv p, hb.unshared, ?_, hlive⟩
  intro p
  constructor
  · intro hp
    obtain ⟨i, hi, hip⟩ := hb.backing p hp
    exact ⟨_, (hm.commitment hi).1, hip ▸ hlive i hi⟩
  · rintro ⟨v, -, i, hi, -, -, hip⟩
    rw [← hip, hb.out i hi]
    simp

def poolContext : Context Pool where
  tableAllocator := pool .table 64
  dataAllocator := pool .data 64
  generation := 1

/-- One megabyte in the first slot, and a call that reserves and commits two pages of it. -/
def freshSpace : Space Pool where
  arena := arenaInit 0x100000 0x100000 1
  machine := newPaging

def firstCall : VirtualOp := .virtualAlloc 0 0x2000 (memReserve ||| memCommit) pageReadwrite

theorem freshSpace_none_out (p : Nat) : poolOut .data freshSpace.machine.world p = none := by
  have hworld : newPaging.world = [.table] := by decide +kernel
  change poolOut .data newPaging.world p = none
  rw [hworld, poolOut, if_neg]
  rintro ⟨-, hget⟩
  cases hi : poolIndex p <;> simp [hi] at hget

theorem virtual_memory_is_coherent_of_pool :
    Maps (pool .table 64) (virtualStep poolContext freshSpace firstCall).machine 0x101000
      0x15000 := by
  have hnew : FreshSpace poolContext (poolOut .data) 0x1000 0x100000 0x100000 1 true freshSpace :=
    ⟨rfl, ⟨firmwareMachine, Prod.ext (by decide +kernel) rfl⟩, freshSpace_none_out⟩
  have h := virtual_memory_is_coherent (c := poolContext)
    (pool_conforming .table .data 64 (by decide) (by decide) (by decide) (by decide))
    (pool_conforming .data .table 64 (by decide) (by decide) (by decide) (by decide))
    ⟨by decide, by decide, by decide⟩ (.step (i := firstCall) (.start hnew) trivial)
  refine (h.1 0x101000 ⟨by decide, by decide, by decide⟩ 0x15000).mp ?_
  exact ⟨1, by decide +kernel⟩

end Gate4Harness.Vm
