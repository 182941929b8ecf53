-- What each call on the virtual memory does to the picture that a client has of it. A turn
-- of the commit adds one page or leaves the picture as it is, and a page that is dropped is
-- the page of one commitment.
import Gate4Harness.Pictures
import Gate4Harness.UndoLog

namespace Gate4Harness.Vm

open UndoLog

variable {W : Type} {c : Context W} {tables data : W → Nat → Option Nat} {held : Nat → Prop}
  {firmware : Nat → Nat → Nat} {allocator : PageAllocator W} {s s' : Space W}
  {m m' : Machine W} {a : Arena}
  {r : ReservationSlot} {i : CommitmentSlot} {currentCr3 base length v p t : Nat}
  {nxEnabled : Bool}

/-! ## The invariant -/

/-- What does not change in a run: the allocators keep their word, and `create` took its
arguments. -/
structure Setting (c : Context W) (tables data : W → Nat → Option Nat) (held : Nat → Prop)
    (firmware : Nat → Nat → Nat) (currentCr3 base length : Nat) : Prop where
  tablePages : Conforming c.tableAllocator tables data held
  dataPages : Conforming c.dataAllocator data tables held
  arguments : CreateArguments currentCr3 base length
  slot : OneSlot base length
  current : currentRoot c.tableAllocator currentCr3 ≠ 0
  firmwareHeld : FirmwareHeld c.tableAllocator held firmware currentCr3

/-- Coherence, and what a release and a rollback need besides. -/
structure SoundSpace (c : Context W) (tables data : W → Nat → Option Nat) (held : Nat → Prop)
    (firmware : Nat → Nat → Nat) (currentCr3 base length : Nat) (nxEnabled : Bool)
    (s : Space W) : Prop where
  coherent : Coherent c tables data held base length nxEnabled s
  outside : Outside c.tableAllocator held firmware currentCr3 s.machine
  blank : Blank s.arena
  aliases : ∀ i, (s.arena.commitments i).live = true →
    c.dataAllocator.physicalAlias (s.arena.commitments i).physicalBase ≠ 0
  usable : ∀ r, (s.arena.reservations r).live = true → c.generation ≠ 0 ∧ s.arena.valid = true

/-- Where two sound spaces have the same entry for a page, they translate its addresses
alike. -/
theorem SoundSpace.same_query
    (hset : Setting c tables data held firmware currentCr3 base length)
    (h : SoundSpace c tables data held firmware currentCr3 base length nxEnabled s)
    (h' : SoundSpace c tables data held firmware currentCr3 base length nxEnabled s')
    (hentry : s'.machine.entryOf c.tableAllocator (pageDown v) =
      s.machine.entryOf c.tableAllocator (pageDown v)) :
    query c.tableAllocator s'.machine v = query c.tableAllocator s.machine v := by
  have hp := h.coherent.matched.paging
  have hp' := h'.coherent.matched.paging
  have hslot := h.coherent.matched.made.arenaSlot
  have hslot' := h'.coherent.matched.made.arenaSlot
  by_cases hcanon : canonical48 v = true
  · by_cases hv : pml4Index v = pml4Index base
    · rw [query_eq_entryOf hp hcanon (hv.trans hslot.symm),
        query_eq_entryOf hp' hcanon (hv.trans hslot'.symm), hentry]
    · rw [query_outside hp h.outside hset.firmwareHeld hset.arguments.cr3 hset.current
          (by rw [hslot]; exact hv),
        query_outside hp' h'.outside hset.firmwareHeld hset.arguments.cr3 hset.current
          (by rw [hslot']; exact hv)]
  · unfold query queryRoot
    rw [if_neg hp.root.2.1, if_neg hp'.root.2.1, if_pos hcanon, if_pos hcanon]

/-- An error code is noted down, and nothing else changes. -/
theorem SoundSpace.fail
    (h : SoundSpace c tables data held firmware currentCr3 base length nxEnabled s)
    (failure : PublicError × Nat) (result : PublicResult) :
    SoundSpace c tables data held firmware currentCr3 base length nxEnabled
      (s.fail failure result).2 :=
  ⟨h.coherent.fail failure result, h.outside, h.blank, h.aliases, h.usable⟩

/-! ## A page is dropped -/

section Drop

variable (hset : Setting c tables data held firmware currentCr3 base length)
  (h : SoundSpace c tables data held firmware currentCr3 base length nxEnabled s)
  (hi : (s.arena.commitments i).live = true)

include hset h hi

/-- The tables, the arena and the allocator take the page of a commitment back. -/
theorem SoundSpace.dropped :
    ∃ t, unmapPage c.tableAllocator s.machine (s.arena.commitments i).base =
        (.ok (s.arena.commitments i).physicalBase,
          s.machine.store t (ptIndex (s.arena.commitments i).base) 0) ∧
      decommitPage s.arena (s.arena.commitments i).base = .ok (dropCommitment s.arena i) ∧
      ∀ s1 : Space W, s1.machine =
          s.machine.store t (ptIndex (s.arena.commitments i).base) 0 →
        s1.arena = dropCommitment s.arena i →
        SoundSpace c tables data held firmware currentCr3 base length nxEnabled
          (s1.freeData c (s.arena.commitments i).physicalBase
            (c.dataAllocator.physicalAlias (s.arena.commitments i).physicalBase)) ∧
        (s1.freeData c (s.arena.commitments i).physicalBase
          (c.dataAllocator.physicalAlias (s.arena.commitments i).physicalBase)).picture c data =
          (s.picture c data).drop i := by
  have hm := h.coherent.matched
  obtain ⟨hin, hpage⟩ := hm.commitment hi
  obtain ⟨j, t, hj, hjp, hw, hunmap, hdecommit⟩ :=
    hm.dropped hset.arguments hset.slot hin hpage
  obtain ⟨hbytes, -, -⟩ := hm.pages.commitments i hi
  obtain rfl : i = j := by
    rw [pageCommitment?_eq_some hm.arena |>.mpr ⟨hi, rfl, hbytes⟩] at hj
    exact Option.some.inj hj
  refine ⟨t, hunmap, hdecommit, ?_⟩
  intro s1 hmachine harena
  have hslot : pml4Index (s.arena.commitments i).base = s.machine.paging.arenaPml4Index :=
    (hin.slot hset.slot).trans hm.made.arenaSlot.symm
  have hstored := store_inv hm.paging hslot hw 0
  have hout := h.coherent.backed.out i hi
  have hworld : s1.machine.world = s.machine.world := by
    rw [hmachine]
    rfl
  have hranges : SameRanges s.arena.reservations (dropCommitment s.arena i).reservations :=
    sameRanges_update _ _ _ _
  refine ⟨⟨h.coherent.dropped hset.arguments hset.slot hset.dataPages hin hj rfl hw harena hmachine,
    ?_, ?_, ?_, ?_⟩, ?_⟩
  · change Outside _ _ _ _ { s1.machine with world := _ }
    rw [hmachine]
    have hkeeps : Keeps data s.machine
        (s.machine.store t (ptIndex (s.arena.commitments i).base) 0) :=
      store_keeps hm.paging hslot hw 0
    have := hkeeps.outside hstored h.outside
    exact ⟨this.root, this.held⟩
  · change Blank s1.arena
    rw [harena]
    exact dropCommitment_blank h.blank (hm.arena.commitments i hi).reserved
  · change ∀ k, (s1.arena.commitments k).live = true →
      c.dataAllocator.physicalAlias (s1.arena.commitments k).physicalBase ≠ 0
    rw [harena]
    intro k hk
    have hsame := (dropCommitment_left hk).2
    rw [hsame] at hk ⊢
    exact h.aliases k hk
  · change ∀ k, (s1.arena.reservations k).live = true → c.generation ≠ 0 ∧ s1.arena.valid = true
    rw [harena]
    intro k hk
    rw [hranges.live] at hk
    exact h.usable k hk
  · have hfreed := (hset.dataPages.freed hout).1
    have hentries := store_entryOf hm.paging (hin.slotPage hset.arguments hset.slot hm.made) hw 0
    change Picture.mk s1.arena (s1.machine.entryOf c.tableAllocator)
      (data (c.dataAllocator.freePage _ _ s1.machine.world)) = _
    rw [hworld, hfreed, harena, hmachine, hentries]
    rfl

theorem SoundSpace.dropPage :
    SoundSpace c tables data held firmware currentCr3 base length nxEnabled
      (s.dropPage c (s.arena.commitments i).base (s.arena.commitments i).physicalBase
        (c.dataAllocator.physicalAlias (s.arena.commitments i).physicalBase)) ∧
    (s.dropPage c (s.arena.commitments i).base (s.arena.commitments i).physicalBase
      (c.dataAllocator.physicalAlias (s.arena.commitments i).physicalBase)).picture c data =
      (s.picture c data).drop i := by
  obtain ⟨t, hunmap, hdecommit, hrest⟩ := h.dropped hset hi
  have hs : (s.unmap c (s.arena.commitments i).base).decommit (s.arena.commitments i).base =
      { s with machine := s.machine.store t (ptIndex (s.arena.commitments i).base) 0
               arena := dropCommitment s.arena i } := by
    unfold Space.unmap Space.decommit
    rw [hunmap]
    dsimp only
    rw [hdecommit]
  unfold Space.dropPage
  rw [hs]
  exact hrest _ rfl rfl

end Drop

/-! ## A page is added -/

/-- The new page lies in a live reservation, and its data page has the alias that the
allocator gave. -/
structure Adds (c : Context W) (r : ReservationSlot) (x : Picture) (page : CreatedPage)
    (x' : Picture) : Prop where
  reserved : (x.arena.reservations r).live = true
  room : ∃ i entry, x.Room i r page ∧ x' = x.add i r page entry c.generation
  physicalAlias : page.page = c.dataAllocator.physicalAlias page.physicalPage
  nonzero : page.page ≠ 0

/-- How a turn of the loop of `gxos_vm_commit_range` ends. -/
inductive TurnPicture (c : Context W) (data : W → Nat → Option Nat) (r : ReservationSlot)
    (s : Space W) : Except CommitError (Option CreatedPage) → Space W → Prop
  | failed {e : CommitError} {s' : Space W} : s'.picture c data = s.picture c data →
      TurnPicture c data r s (.error e) s'
  | present : TurnPicture c data r s (.ok none) s
  | added {page : CreatedPage} {s' : Space W} :
      Adds c r (s.picture c data) page (s'.picture c data) →
      TurnPicture c data r s (.ok (some page)) s'

/-- A page of a live reservation lies in no other one. -/
theorem ArenaInv.reservation_unique (h : ArenaInv a) {r r' : ReservationSlot}
    (hr : (a.reservations r).live = true) (hr' : (a.reservations r').live = true)
    (hv : (a.reservations r).base ≤ v ∧ v < (a.reservations r).base + (a.reservations r).bytes)
    (hv' : (a.reservations r').base ≤ v ∧
      v < (a.reservations r').base + (a.reservations r').bytes) : r = r' := by
  by_contra hne
  have := h.disjoint r r' hne hr hr'
  unfold Apart at this
  omega

section Turn

variable (hset : Setting c tables data held firmware currentCr3 base length)
  (h : SoundSpace c tables data held firmware currentCr3 base length nxEnabled s)

include hset h

omit h in
/-- The turn took a page and has to give it back: the picture is as before. -/
theorem Setting.given_back {pa : Nat} {world : W}
    (halloc : c.dataAllocator.allocatePage s.machine.world = (some (p, pa), world))
    {m2 : Machine W} (hentries : m2.entryOf c.tableAllocator = s.machine.entryOf c.tableAllocator)
    (hworld : data m2.world = data world) :
    (({ s with machine := m2 } : Space W).freeData c p pa).picture c data =
      s.picture c data := by
  obtain ⟨hnone, -, -, -⟩ := hset.dataPages.fresh halloc
  obtain ⟨hdata, -⟩ := hset.dataPages.taken halloc
  have hout : data m2.world p = some pa := by
    rw [hworld, hdata, Function.update_self]
  change Picture.mk s.arena (m2.entryOf c.tableAllocator)
    (data (c.dataAllocator.freePage p pa m2.world)) = _
  rw [hentries, (hset.dataPages.freed hout).1, hworld, hdata, Function.update_idem, ← hnone,
    Function.update_eq_self]
  rfl

omit hset in
theorem SoundSpace.of_arena (hcoherent : Coherent c tables data held base length nxEnabled s')
    (hout : Outside c.tableAllocator held firmware currentCr3 s'.machine)
    (harena : s'.arena = s.arena) :
    SoundSpace c tables data held firmware currentCr3 base length nxEnabled s' := by
  refine ⟨hcoherent, hout, ?_, ?_, ?_⟩ <;> rw [harena]
  · exact h.blank
  · exact h.aliases
  · exact h.usable

omit hset in
theorem SoundSpace.of_adds {page : CreatedPage}
    (hcoherent : Coherent c tables data held base length nxEnabled s')
    (hout : Outside c.tableAllocator held firmware currentCr3 s'.machine)
    (hadds : Adds c r (s.picture c data) page (s'.picture c data)) :
    SoundSpace c tables data held firmware currentCr3 base length nxEnabled s' := by
  obtain ⟨hlive, ⟨i, entry, hroom, hs'⟩, halias, hne⟩ := hadds
  have harena : s'.arena = addCommitment s.arena i
      (pageRecord r page.virtualPage page.physicalPage c.generation) := congrArg Picture.arena hs'
  refine ⟨hcoherent, hout, ?_, ?_, ?_⟩ <;> rw [harena]
  · exact addCommitment_blank h.blank hlive
  · intro j hj
    by_cases hji : j = i
    · subst hji
      simp only [addCommitment, Function.update_self, pageRecord]
      rw [← halias]
      exact hne
    · simp only [addCommitment, Function.update_of_ne hji] at hj ⊢
      exact h.aliases j hj
  · intro t ht
    have hranges : SameRanges s.arena.reservations (addCommitment s.arena i
        (pageRecord r page.virtualPage page.physicalPage c.generation)).reservations :=
      sameRanges_update _ _ _ _
    rw [hranges.live] at ht
    exact h.usable t ht

/-- The turn once its data page is there. -/
theorem SoundSpace.commitTurn_mapped {pa : Nat} {world : W} (hv : InArena base length v)
    (hin : PagesIn s.arena r v 1)
    (halloc : c.dataAllocator.allocatePage s.machine.world = (some (p, pa), world))
    (hfind : findCommitment s.arena v = none) (writable executable : Bool) :
    TurnPicture c data r s (commitTurn c writable executable s v).1
      (commitTurn c writable executable s v).2 ∧
    Outside c.tableAllocator held firmware currentCr3
      (commitTurn c writable executable s v).2.machine := by
  obtain ⟨hpart, hpa, halias⟩ := hset.dataPages.page halloc
  obtain ⟨hnone, -, hnotheld, hapart⟩ := hset.dataPages.fresh halloc
  obtain ⟨hdata, htables⟩ := hset.dataPages.taken halloc
  have hm := h.coherent.matched
  have hzero : ¬ (p = 0 ∨ pa = 0) := by
    rintro (h0 | h0)
    · exact hpart.nonzero h0
    · exact hpa h0
  -- the machine with zeros in the new page
  have hown : ∀ t ∈ s.machine.ownAliases,
      Function.update s.machine.memory pa (fun _ => 0) t = s.machine.memory t := by
    intro t ht
    have htpa : t ≠ pa := hm.paging.ne_of_own (fun q => (hapart q).2) ht
    exact Function.update_of_ne htpa _ _
  have hheld : ∀ t, held t →
      Function.update s.machine.memory pa (fun _ => 0) t = s.machine.memory t := by
    intro t ht
    have htpa : t ≠ pa := by
      rintro rfl
      exact hnotheld ht
    exact Function.update_of_ne htpa _ _
  obtain ⟨m1, hm1⟩ : ∃ m1, m1 = (s.withWorld world).machine.zeroData pa := ⟨_, rfl⟩
  have hinv1 : PagingInv c.tableAllocator tables held m1 := by
    rw [hm1]
    exact other_inv hm.paging world hown htables
  have hout1 : Outside c.tableAllocator held firmware currentCr3 m1 := by
    rw [hm1]
    exact h.outside.other hm.paging world hown hheld
  have hentries1 : m1.entryOf c.tableAllocator = s.machine.entryOf c.tableAllocator := by
    rw [hm1]
    exact entryOf_congr rfl fun u hu => other_leaf hm.paging world hown hu
  have hmade1 : MadeFor m1.paging base length nxEnabled := by
    rw [hm1]
    exact hm.made
  have hsound1 := slotSound_of_fits hmade1 hset.arguments hset.slot.fitsSlot
  have hpage1 := hv.slotPage hset.arguments hset.slot hmade1
  obtain ⟨hinv2, hkeeps2⟩ := mapPage_keeps hset.tablePages hinv1 hsound1 v p writable executable
  have hout2 := hkeeps2.outside hinv2 hout1
  have hmade2 := hkeeps2.madeFor hmade1
  have hdata2 :
      data (mapPage c.tableAllocator m1 v p writable executable).2.world = data world := by
    rw [hkeeps2.data, hm1]
    rfl
  have hmapped := mapPage_entryOf hset.tablePages hinv1 hsound1 hpage1 hpart.aligned writable
    executable
  unfold commitTurn
  rw [hfind, halloc]
  dsimp only
  rw [if_neg hzero, ← hm1]
  generalize mapPage c.tableAllocator m1 v p writable executable = answer at *
  obtain ⟨answer, m2⟩ := answer
  dsimp only at *
  rw [hentries1] at hmapped
  have hback : ∀ {m3 : Machine W},
      m3.entryOf c.tableAllocator = s.machine.entryOf c.tableAllocator →
      data m3.world = data world → Outside c.tableAllocator held firmware currentCr3 m3 →
      ∀ e,
        TurnPicture c data r s (.error e) (({ s with machine := m3 } : Space W).freeData c p pa) ∧
        Outside c.tableAllocator held firmware currentCr3
          (({ s with machine := m3 } : Space W).freeData c p pa).machine :=
    fun hentries hworld hout e => ⟨.failed (hset.given_back halloc hentries hworld),
      ⟨hout.root, hout.held⟩⟩
  rcases hmapped with ⟨e, rfl, hentries2⟩ | ⟨rfl, hfree, hentries2⟩
  · exact hback hentries2 hdata2 hout2 _
  · generalize p ||| pageFlags m1.paging.nxEnabled writable executable = entry at hentries2
    dsimp only [Space.withWorld]
    have hsound2 := slotSound_of_fits hmade2 hset.arguments hset.slot.fitsSlot
    cases hcommit : commitPage s.arena v p c.generation with
    | error e =>
      -- the arena has no room, so the new entry goes away again
      obtain ⟨hinv3, hkeeps3⟩ : _ ∧ Keeps data m2 (unmapPage c.tableAllocator m2 v).2 :=
        unmapPage_keeps hinv2 hsound2 v
      have hentries3 := unmapPage_entryOf hinv2 hsound2
        (hv.accepted hset.arguments hset.slot hmade2) (hv.slotPage hset.arguments hset.slot hmade2)
      rw [hentries2, Function.update_idem, ← hfree, Function.update_eq_self] at hentries3
      exact hback hentries3 (hkeeps3.data.trans hdata2) (hkeeps3.outside hinv3 hout2) _
    | ok arena =>
      rcases commitPage_eq_ok hcommit with ⟨-, i, hi, -⟩ | ⟨-, i, r', hi, -, hx, rfl⟩
      · have hmapped := hm.mapped v hv
        rw [← entryOf_slotPage (hv.slotPage hset.arguments hset.slot hm.made), hfree] at hmapped
        simp [pageAt, hi] at hmapped
      · obtain rfl : r' = r := by
          have hr' := hx.inside
          have habove := hin.above
          have hbelow := hin.below
          simp only [pageRecord, pageSize] at hr' hbelow
          exact hm.arena.reservation_unique (v := v) hx.reserved hin.live ⟨hr'.1, by omega⟩
            ⟨habove, by omega⟩
        refine ⟨.added ⟨hin.live, ⟨i, entry, ⟨h.blank.commitments i hi, ?_, hfree, hnone⟩, ?_⟩,
          halias.symm, hpa⟩, hout2.root, hout2.held⟩
        · exact (hm.arena.reservations r' hin.live).state
        · change Picture.mk _ (m2.entryOf c.tableAllocator) (data m2.world) = _
          rw [hentries2, hdata2, hdata]
          rfl

/-- One turn of the loop of `gxos_vm_commit_range`. -/
theorem SoundSpace.commitTurn (hv : InArena base length v) (hin : PagesIn s.arena r v 1)
    (writable executable : Bool) :
    TurnPicture c data r s (commitTurn c writable executable s v).1
      (commitTurn c writable executable s v).2 ∧
    SoundSpace c tables data held firmware currentCr3 base length nxEnabled
      (commitTurn c writable executable s v).2 := by
  have hcoherent := (commitTurn_effect hset.arguments hset.slot hset.tablePages hset.dataPages
    h.coherent hv writable executable).coherent
  suffices hturn : TurnPicture c data r s (Vm.commitTurn c writable executable s v).1
      (Vm.commitTurn c writable executable s v).2 ∧
      Outside c.tableAllocator held firmware currentCr3
        (Vm.commitTurn c writable executable s v).2.machine by
    refine ⟨hturn.1, ?_⟩
    generalize Vm.commitTurn c writable executable s v = answer at hcoherent hturn
    obtain ⟨answer, s1⟩ := answer
    obtain ⟨hturn, hout⟩ := hturn
    cases hturn with
    | failed hsame => exact h.of_arena hcoherent hout (congrArg Picture.arena hsame)
    | present => exact h
    | added hadds => exact h.of_adds hcoherent hout hadds
  cases hfind : findCommitment s.arena v with
  | some i =>
    unfold Vm.commitTurn
    rw [hfind]
    dsimp only
    split
    · exact ⟨.present, h.outside⟩
    · exact ⟨.failed rfl, h.outside⟩
  | none =>
    cases halloc : c.dataAllocator.allocatePage s.machine.world with
    | mk answer world =>
      cases answer with
      | none =>
        obtain ⟨hdata, -⟩ := hset.dataPages.failed halloc
        unfold Vm.commitTurn
        rw [hfind, halloc]
        refine ⟨.failed ?_, h.outside.root, h.outside.held⟩
        change Picture.mk _ _ (data world) = _
        rw [hdata]
        rfl
      | some pages => exact h.commitTurn_mapped hset hv hin halloc hfind writable executable

end Turn

/-! ## A range is committed -/

theorem PagesIn.first {count : Nat} (h : PagesIn a r v (count + 1)) : PagesIn a r v 1 := by
  refine ⟨h.live, h.aligned, h.above, ?_⟩
  have hbelow := h.below
  rw [Nat.succ_mul] at hbelow
  omega

theorem PagesIn.rest {a' : Arena} {count : Nat} (h : PagesIn a r v (count + 1))
    (hranges : SameRanges a.reservations a'.reservations) :
    PagesIn a' r (v + pageSize) count := by
  have hbelow := h.below
  have habove := h.above
  rw [Nat.succ_mul] at hbelow
  refine ⟨by rw [hranges.live]; exact h.live, ?_, by rw [hranges.base]; omega,
    by rw [hranges.base, hranges.bytes]; omega⟩
  rw [Nat.add_mod_right]
  exact h.aligned

theorem SameRanges.refl (f : ReservationSlot → Reservation) : SameRanges f f :=
  ⟨fun _ => rfl, fun _ => rfl, fun _ => rfl, fun _ => rfl, fun _ => rfl⟩

theorem Adds.sameRanges {x x' : Picture} {page : CreatedPage} (h : Adds c r x page x') :
    SameRanges x.arena.reservations x'.arena.reservations := by
  obtain ⟨i, entry, -, rfl⟩ := h.room
  exact sameRanges_update _ _ _ _

/-- The page that was added is dropped: the picture is the one before. -/
theorem SoundSpace.undo (hset : Setting c tables data held firmware currentCr3 base length)
    {x x' : Picture} {page : CreatedPage} (hadds : Adds c r x page x')
    (h : SoundSpace c tables data held firmware currentCr3 base length nxEnabled s)
    (hpicture : s.picture c data = x') :
    SoundSpace c tables data held firmware currentCr3 base length nxEnabled
      (s.dropPage c page.virtualPage page.physicalPage page.page) ∧
    (s.dropPage c page.virtualPage page.physicalPage page.page).picture c data = x := by
  obtain ⟨-, ⟨i, entry, hroom, rfl⟩, halias, -⟩ := hadds
  have hrecord : s.arena.commitments i =
      pageRecord r page.virtualPage page.physicalPage c.generation := by
    have harena := congrArg Picture.arena hpicture
    change s.arena = _ at harena
    rw [harena]
    exact Function.update_self _ _ _
  have hdrop := h.dropPage hset (i := i) (by rw [hrecord]; rfl)
  rw [hrecord, hpicture, Picture.drop_add hroom] at hdrop
  rw [halias]
  exact hdrop

theorem rollBack_eq (c : Context W) (s : Space W) (created : List CreatedPage) :
    rollBack c s created =
      created.foldl (fun s x => s.dropPage c x.virtualPage x.physicalPage x.page) s := by
  induction created generalizing s with
  | nil => rfl
  | cons x rest ih => exact ih _

/-- How a commit ends: as it began, or with the pages of a log. -/
inductive CommitPicture (c : Context W) (data : W → Nat → Option Nat) (r : ReservationSlot)
    (x : Picture) : Except CommitError Nat → Space W → Prop
  | failed {e : CommitError} {s' : Space W} : s'.picture c data = x →
      CommitPicture c data r x (.error e) s'
  | committed {log : List CreatedPage} {s' : Space W} :
      Logged (Adds c r) x log (s'.picture c data) →
      CommitPicture c data r x (.ok log.length) s'

section Range

variable (hset : Setting c tables data held firmware currentCr3 base length)

include hset

theorem SoundSpace.rollBack {x x' : Picture} {log : List CreatedPage}
    (h : SoundSpace c tables data held firmware currentCr3 base length nxEnabled s)
    (hlog : Logged (Adds c r) x log x') (hpicture : s.picture c data = x') :
    SoundSpace c tables data held firmware currentCr3 base length nxEnabled (rollBack c s log) ∧
    (rollBack c s log).picture c data = x := by
  rw [rollBack_eq]
  apply hlog.rolled_back (Space.picture c data)
    (SoundSpace c tables data held firmware currentCr3 base length nxEnabled)
    (fun s x => s.dropPage c x.virtualPage x.physicalPage x.page) _ h hpicture
  intro y y' page t hadds ht hy
  exact SoundSpace.undo hset hadds ht hy

theorem SoundSpace.commitFrom {x : Picture} (writable executable : Bool)
    {created : List CreatedPage} (left : Nat)
    (h : SoundSpace c tables data held firmware currentCr3 base length nxEnabled s)
    (hlog : Logged (Adds c r) x created (s.picture c data)) (hin : PagesIn s.arena r v left) :
    CommitPicture c data r x (commitFrom c writable executable s created v left).1
      (commitFrom c writable executable s created v left).2 ∧
    SoundSpace c tables data held firmware currentCr3 base length nxEnabled
      (commitFrom c writable executable s created v left).2 := by
  induction left generalizing s created v with
  | zero => exact ⟨.committed hlog, h⟩
  | succ left ih =>
    have hv : InArena base length v := by
      simpa using hin.inArena h.coherent.matched 0 (by omega)
    obtain ⟨hturn, h1⟩ := h.commitTurn hset hv hin.first writable executable
    unfold Vm.commitFrom
    generalize Vm.commitTurn c writable executable s v = answer at hturn h1 ⊢
    obtain ⟨answer, s1⟩ := answer
    dsimp only at hturn h1
    cases hturn with
    | failed hsame =>
      obtain ⟨h2, hback⟩ := h1.rollBack hset hlog hsame
      exact ⟨.failed hback, h2⟩
    | present =>
      have hrest : PagesIn s.arena r (v + pageSize) left := hin.rest (.refl _)
      exact ih h hlog hrest
    | added hadds =>
      have hrest : PagesIn s1.arena r (v + pageSize) left := hin.rest hadds.sameRanges
      exact ih h1 (.step hlog hadds) hrest

theorem SoundSpace.commitRange
    (h : SoundSpace c tables data held firmware currentCr3 base length nxEnabled s)
    (r : ReservationSlot) (start bytes : Nat) (writable executable : Bool) :
    CommitPicture c data r (s.picture c data)
      (commitRange c s r start bytes writable executable).1
      (commitRange c s r start bytes writable executable).2 ∧
    SoundSpace c tables data held firmware currentCr3 base length nxEnabled
      (commitRange c s r start bytes writable executable).2 := by
  rcases commitRange_cases c s r start bytes writable executable with
    ⟨e, heq⟩ | ⟨r', page, count, hr, -, hin, heq⟩
  · rw [heq]
    exact ⟨.failed rfl, h⟩
  · rw [heq]
    obtain rfl : r' = r := Fin.ext hr
    exact h.commitFrom hset writable executable count .start hin

end Range

/-! ## The calls of the payload -/

/-- How `commit_range` of virtual_memory.c ends. -/
inductive PublicPicture (c : Context W) (data : W → Nat → Option Nat) (r : ReservationSlot)
    (x : Picture) : PublicReply → Space W → Prop
  | failed {reply : PublicReply} {e : PublicError} {s' : Space W} : reply.status = .error e →
      reply.address = 0 → s'.picture c data = x → PublicPicture c data r x reply s'
  | committed {reply : PublicReply} {log : List CreatedPage} {s' : Space W} :
      reply.status = .ok () → Logged (Adds c r) x log (s'.picture c data) →
      PublicPicture c data r x reply s'

/-- How `virtual_alloc` ends. A reservation that it makes has the base that it returns. -/
inductive AllocPicture (c : Context W) (data : W → Nat → Option Nat) (s : Space W)
    (address size allocationType : Nat) : PublicReply → Space W → Prop
  | failed {reply : PublicReply} {e : PublicError} {s' : Space W} : reply.status = .error e →
      reply.address = 0 → s'.picture c data = s.picture c data →
      AllocPicture c data s address size allocationType reply s'
  | reserved {reply : PublicReply} {r : ReservationSlot} {arena : Arena}
      {log : List CreatedPage} {s' : Space W} : reply.status = .ok () →
      allocationType &&& memReserve ≠ 0 →
      reserveAny s.arena size vmDataKind nativeaotOwner c.generation =
        .ok (reply.address, r, arena) →
      Logged (Adds c r) (({ s with arena } : Space W).picture c data) log (s'.picture c data) →
      AllocPicture c data s address size allocationType reply s'
  | committed {reply : PublicReply} {r : ReservationSlot} {log : List CreatedPage}
      {s' : Space W} : reply.status = .ok () → allocationType = memCommit →
      findReservation s.arena address = some r →
      Logged (Adds c r) (s.picture c data) log (s'.picture c data) →
      AllocPicture c data s address size allocationType reply s'

/-- What a reservation that was just made is like. -/
theorem reserveAny_picture {size kind owner generation b : Nat} {arena : Arena}
    (hok : reserveAny a size kind owner generation = .ok (b, r, arena)) :
    generation ≠ 0 ∧ a.valid = true ∧ (a.reservations r).live = false ∧
    (arena.reservations r).live = true ∧ (arena.reservations r).base = b ∧
    (arena.reservations r).committedBytes = 0 ∧
    ∃ record total, record.live = true ∧ arena = withReservation a r record total := by
  obtain ⟨-, -, -, hgeneration, hdead, hin, -, rfl⟩ := reserveFixed_eq_ok (reserveAny_eq_ok hok)
  unfold Arena.contains at hin
  simp only [Bool.and_eq_true] at hin
  refine ⟨hgeneration, hin.1, hdead, ?_, ?_, ?_, _, _, rfl, rfl⟩ <;>
  · simp only [withReservation, Function.update_self]

theorem SoundSpace.reserveAny {size kind owner b : Nat} {arena : Arena}
    (h : SoundSpace c tables data held firmware currentCr3 base length nxEnabled s)
    (hok : reserveAny s.arena size kind owner c.generation = .ok (b, r, arena)) :
    SoundSpace c tables data held firmware currentCr3 base length nxEnabled { s with arena } := by
  have hcoherent := h.coherent.reserveAny hok
  obtain ⟨hgeneration, hvalid, -, -, -, -, record, total, hlive, rfl⟩ := reserveAny_picture hok
  exact ⟨hcoherent, h.outside, withReservation_blank h.blank hlive, h.aliases,
    fun _ _ => ⟨hgeneration, hvalid⟩⟩

/-- A reservation without commitments is released. -/
theorem SoundSpace.release
    (h : SoundSpace c tables data held firmware currentCr3 base length nxEnabled s)
    (hr : (s.arena.reservations r).live = true)
    (hzero : (s.arena.reservations r).committedBytes = 0) (reply : PublicReply)
    (result : PublicResult) :
    releaseWith s r reply result = (reply, { s with arena := withoutReservation s.arena r }) ∧
    SoundSpace c tables data held firmware currentCr3 base length nxEnabled
      { s with arena := withoutReservation s.arena r } := by
  have hok := release_ok h.coherent.matched.arena (h.usable r hr).2 hr hzero
  refine ⟨?_, h.coherent.release hok, h.outside, withoutReservation_blank h.blank, h.aliases, ?_⟩
  · unfold releaseWith
    rw [hok]
  · intro t ht
    by_cases htr : t = r
    · subst htr
      simp [withoutReservation] at ht
    · simp only [withoutReservation, Function.update_of_ne htr] at ht
      exact h.usable t ht

section Alloc

variable (hset : Setting c tables data held firmware currentCr3 base length)

include hset

theorem SoundSpace.publicCommitRange
    (h : SoundSpace c tables data held firmware currentCr3 base length nxEnabled s)
    (r : ReservationSlot) (start bytes : Nat) (result : PublicResult) :
    PublicPicture c data r (s.picture c data) (publicCommitRange c s r start bytes result).1
      (publicCommitRange c s r start bytes result).2 ∧
    SoundSpace c tables data held firmware currentCr3 base length nxEnabled
      (publicCommitRange c s r start bytes result).2 := by
  have hcommit := h.commitRange hset r start bytes true false
  have hcase := publicCommitRange_cases c s r start bytes result
  generalize Vm.publicCommitRange c s r start bytes result = answer at hcase ⊢
  cases hcase with
  | refused failure => exact ⟨.failed rfl rfl rfl, h.fail _ _⟩
  | failed hfailed =>
    rw [hfailed] at hcommit
    cases hcommit.1 with
    | failed hsame => exact ⟨.failed rfl rfl hsame, hcommit.2.fail _ _⟩
  | committed result' _ hok _ =>
    rw [hok] at hcommit
    cases hcommit.1 with
    | committed hlog => exact ⟨.committed rfl hlog, hcommit.2⟩

omit hset in
/-- The loop that empties a reservation finds nothing in one without commitments. -/
theorem cleanCommitments_nothing (hempty : ∀ i, (s.arena.commitments i).live = true →
    (s.arena.commitments i).reservationSlot ≠ r) (slots : List CommitmentSlot) :
    slots.foldl (cleanCommitment c r) s = s := by
  induction slots with
  | nil => rfl
  | cons i rest ih =>
    have hi : cleanCommitment c r s i = s := if_neg fun h => hempty i h.1 h.2
    rw [List.foldl_cons, hi, ih]

omit hset in
/-- A new reservation that could not be committed is released, and all is as before. -/
theorem SoundSpace.abandoned {size kind owner b : Nat} {arena : Arena} {s1 : Space W}
    (h : SoundSpace c tables data held firmware currentCr3 base length nxEnabled s)
    (hok : Vm.reserveAny s.arena size kind owner c.generation = .ok (b, r, arena))
    (h1 : SoundSpace c tables data held firmware currentCr3 base length nxEnabled s1)
    (hsame : s1.picture c data = ({ s with arena } : Space W).picture c data)
    (e : PublicError) (result : PublicResult) :
    (abandonReservation c s1 r e result).1 = { status := .error e, result } ∧
    (abandonReservation c s1 r e result).2.picture c data = s.picture c data ∧
    SoundSpace c tables data held firmware currentCr3 base length nxEnabled
      (abandonReservation c s1 r e result).2 := by
  have harena1 : s1.arena = arena := congrArg Picture.arena hsame
  obtain ⟨-, -, hdead, hlive, -, hzero, record, total, -, harena⟩ := reserveAny_picture hok
  have hempty := (h1.coherent.matched.arena.committed_eq_zero (s := r)
    (by rw [harena1]; exact hlive)).mp (by rw [harena1]; exact hzero)
  obtain ⟨hrelease, h2⟩ := h1.release (r := r) (by rw [harena1]; exact hlive)
    (by rw [harena1]; exact hzero) { status := .error e, result } result
  unfold abandonReservation
  rw [cleanCommitments_nothing hempty, hrelease]
  refine ⟨rfl, ?_, h2⟩
  have hback : withoutReservation s1.arena r = s.arena := by
    apply h.coherent.matched.arena.eq_of_tables h2.coherent.matched.arena
    · change Function.update s1.arena.reservations r {} = _
      rw [harena1, harena]
      change Function.update (Function.update s.arena.reservations r record) r {} = _
      rw [Function.update_idem, ← h.blank.reservations r hdead, Function.update_eq_self]
    · change s1.arena.commitments = _
      rw [harena1, harena]
      rfl
    · change s1.arena.base = _ ∧ s1.arena.length = _
      rw [harena1, harena]
      exact ⟨rfl, rfl⟩
    · change s1.arena.generation = _ ∧ s1.arena.valid = _
      rw [harena1, harena]
      exact ⟨rfl, rfl⟩
  change Picture.mk (withoutReservation s1.arena r) (s1.picture c data).entries
    (s1.picture c data).out = _
  rw [hback, hsame]
  rfl

/-- `gxos_vm_public_virtual_alloc` -/
theorem SoundSpace.virtualAlloc
    (h : SoundSpace c tables data held firmware currentCr3 base length nxEnabled s)
    (address size allocationType protection : Nat) :
    AllocPicture c data s address size allocationType
      (virtualAlloc c s address size allocationType protection).1
      (virtualAlloc c s address size allocationType protection).2 ∧
    SoundSpace c tables data held firmware currentCr3 base length nxEnabled
      (virtualAlloc c s address size allocationType protection).2 := by
  have hcase := virtualAlloc_cases c s address size allocationType protection
  generalize Vm.virtualAlloc c s address size allocationType protection = answer at hcase ⊢
  cases hcase with
  | refused failure result => exact ⟨.failed rfl rfl rfl, h.fail _ _⟩
  | reserved result hok => exact ⟨.reserved rfl (by decide) hok .start, h.reserveAny hok⟩
  | @reservedAndCommitted b r arena _ _ result hok hcommit hstatus =>
    have hpublic := (h.reserveAny hok).publicCommitRange hset r b size result
    rw [hcommit] at hpublic
    cases hpublic.1 with
    | failed hfailed => rw [hstatus] at hfailed; cases hfailed
    | committed _ hlog => exact ⟨.reserved rfl (by decide) hok hlog, hpublic.2⟩
  | @abandoned b r arena _ _ e result result' hok hcommit hstatus =>
    have hpublic := (h.reserveAny hok).publicCommitRange hset r b size result
    rw [hcommit] at hpublic
    cases hpublic.1 with
    | failed _ _ hsame =>
      obtain ⟨hreply, hback, h2⟩ := h.abandoned hok hpublic.2 hsame e result'
      exact ⟨.failed (by rw [hreply]) (by rw [hreply]) hback, h2⟩
    | committed hok' => rw [hstatus] at hok'; cases hok'
  | @committed r _ _ result hr hcommit hstatus =>
    have hpublic := h.publicCommitRange hset r address size result
    rw [hcommit] at hpublic
    cases hpublic.1 with
    | failed hfailed => rw [hstatus] at hfailed; cases hfailed
    | committed _ hlog => exact ⟨.committed rfl rfl hr hlog, hpublic.2⟩
  | @uncommitted r _ _ e result hr hcommit hstatus =>
    have hpublic := h.publicCommitRange hset r address size result
    rw [hcommit] at hpublic
    cases hpublic.1 with
    | failed _ haddress hsame => exact ⟨.failed hstatus haddress hsame, hpublic.2⟩
    | committed hok' => rw [hstatus] at hok'; cases hok'

end Alloc

end Gate4Harness.Vm
