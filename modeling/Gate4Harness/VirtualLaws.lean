-- The laws of the calls on the virtual memory, in every run from a new space: an
-- allocation that fails leaves all as it was, and a release undoes the reservation.
import Gate4Harness.PagingSafety
import Gate4Harness.PictureRelease

namespace Gate4Harness.Vm

open Runs

variable {W : Type} {c : Context W} {tables data : W → Nat → Option Nat} {held : Nat → Prop}
  {firmware : Nat → Nat → Nat} {s s' : Space W} {r : ReservationSlot} {i : CommitmentSlot}
  {currentCr3 base length generation u v p : Nat} {nxEnabled : Bool}

/-! ## Every run -/

/-- A fresh arena, and a paging object over the same range as `create` leaves it. No table
of the firmware is free for an allocator, and no data page is out. -/
structure NewSpace (c : Context W) (data : W → Nat → Option Nat) (held : Nat → Prop)
    (firmware : Nat → Nat → Nat) (currentCr3 base length generation : Nat) (nxEnabled : Bool)
    (s : Space W) : Prop where
  arena : s.arena = arenaInit base length generation
  machine : NewPaging c.tableAllocator held firmware currentCr3 base length nxEnabled s.machine
  none_out : ∀ p, data s.machine.world p = none

/-- The states that the two calls reach. -/
abbrev VirtualReach (c : Context W) (data : W → Nat → Option Nat) (held : Nat → Prop)
    (firmware : Nat → Nat → Nat) (currentCr3 base length generation : Nat) (nxEnabled : Bool) :
    Space W → Prop :=
  Reach (NewSpace c data held firmware currentCr3 base length generation nxEnabled) (virtualStep c)
    fun _ _ => True

theorem NewSpace.sound (hT : Conforming c.tableAllocator tables data held)
    (hD : Conforming c.dataAllocator data tables held) (hpages : OneSlot base length)
    (h : NewSpace c data held firmware currentCr3 base length generation nxEnabled s) :
    Setting c tables data held firmware currentCr3 base length ∧
    SoundSpace c tables data held firmware currentCr3 base length nxEnabled s := by
  obtain ⟨m0, rfl, -, hheld, hcreate⟩ := h.machine
  have hfresh : FreshSpace c data currentCr3 base length generation nxEnabled s :=
    ⟨h.arena, ⟨m0, hcreate⟩, h.none_out⟩
  obtain ⟨hargs, hcoherent⟩ := hfresh.coherent hT hpages
  obtain ⟨rootPhysical, rootAlias, world, hnew, hmachine⟩ :=
    create_eq_ok hpages.length_le hcreate
  refine ⟨⟨hT, hD, hargs, hpages, hnew.current, hheld⟩, hcoherent, ?_, ?_, ?_, ?_⟩
  · rw [hmachine]
    exact created_outside hT hnew (hheld 4 _ .root)
  · rw [h.arena]
    exact arenaInit_blank base length generation
  · rw [h.arena]
    intro i hi
    cases hi
  · rw [h.arena]
    intro r hr
    cases hr

theorem NewSpace.fail (failure : PublicError × Nat) (result : PublicResult)
    (h : NewSpace c data held firmware currentCr3 base length generation nxEnabled s) :
    NewSpace c data held firmware currentCr3 base length generation nxEnabled
      (s.fail failure result).2 :=
  ⟨h.arena, h.machine, h.none_out⟩

/-- A state that is reached is sound, or the arena is too small for anything to happen. -/
theorem virtualReach_cases (hT : Conforming c.tableAllocator tables data held)
    (hD : Conforming c.dataAllocator data tables held)
    (hslot : base / 2 ^ 39 = (base + length - 1) / 2 ^ 39)
    (h : VirtualReach c data held firmware currentCr3 base length generation nxEnabled s) :
    (Setting c tables data held firmware currentCr3 base length ∧
      SoundSpace c tables data held firmware currentCr3 base length nxEnabled s) ∨
    base + length < pageSize ∧
      NewSpace c data held firmware currentCr3 base length generation nxEnabled s := by
  by_cases hpage : pageSize ≤ base + length
  · refine Or.inl (h.invariant (fun s hs => hs.sound hT hD ⟨hpage, hslot⟩) ?_)
    rintro s op - ⟨hset, hs⟩ -
    refine ⟨hset, ?_⟩
    cases op with
    | virtualAlloc address size allocationType protection =>
      exact (hs.virtualAlloc hset address size allocationType protection).2
    | virtualFree address size freeType => exact hs.virtualFree hset address size freeType
  · refine Or.inr ⟨Nat.lt_of_not_le hpage, h.invariant (fun s hs => hs) ?_⟩
    rintro s op - hs -
    obtain ⟨halloc, hfree⟩ := refuses_of_small hs.arena (Nat.lt_of_not_le hpage)
    cases op with
    | virtualAlloc address size allocationType protection =>
      obtain ⟨failure, result, heq⟩ := halloc address size allocationType protection
      change NewSpace _ _ _ _ _ _ _ _ _ (virtualAlloc c s _ _ _ _).2
      rw [heq]
      exact hs.fail failure result
    | virtualFree address size freeType =>
      obtain ⟨failure, heq⟩ := hfree address size freeType
      change NewSpace _ _ _ _ _ _ _ _ _ (virtualFree c s _ _ _).2
      rw [heq]
      exact hs.fail failure {}

/-! ## A failed allocation -/

/-- Nothing that a client can see has changed: no reservation, no commitment and no count of
the arena, no translation, and no data page that is out. -/
structure Unchanged (c : Context W) (data : W → Nat → Option Nat) (s s' : Space W) : Prop where
  arena : s'.arena = s.arena
  translations : ∀ v, query c.tableAllocator s'.machine v = query c.tableAllocator s.machine v
  out : data s'.machine.world = data s.machine.world

theorem Unchanged.of_picture (hset : Setting c tables data held firmware currentCr3 base length)
    (h : SoundSpace c tables data held firmware currentCr3 base length nxEnabled s)
    (h' : SoundSpace c tables data held firmware currentCr3 base length nxEnabled s')
    (hpicture : s'.picture c data = s.picture c data) : Unchanged c data s s' := by
  have hentries := congrArg Picture.entries hpicture
  exact ⟨congrArg Picture.arena hpicture, fun v => h.same_query hset h' (congrFun hentries _),
    congrArg Picture.out hpicture⟩

/-- `virtual_alloc` is atomic. -/
theorem virtual_alloc_is_atomic (hT : Conforming c.tableAllocator tables data held)
    (hD : Conforming c.dataAllocator data tables held)
    (hslot : base / 2 ^ 39 = (base + length - 1) / 2 ^ 39)
    (h : VirtualReach c data held firmware currentCr3 base length generation nxEnabled s)
    (address size allocationType protection : Nat)
    (hfailed : (virtualAlloc c s address size allocationType protection).1.status ≠ .ok ()) :
    Unchanged c data s (virtualAlloc c s address size allocationType protection).2 ∧
    (virtualAlloc c s address size allocationType protection).1.address = 0 := by
  rcases virtualReach_cases hT hD hslot h with ⟨hset, hs⟩ | ⟨htiny, hs⟩
  · obtain ⟨hcase, hs'⟩ := hs.virtualAlloc hset address size allocationType protection
    cases hcase with
    | failed _ haddress hsame => exact ⟨.of_picture hset hs hs' hsame, haddress⟩
    | reserved hok => exact absurd hok hfailed
    | committed hok => exact absurd hok hfailed
  · obtain ⟨failure, result, heq⟩ :=
      (refuses_of_small hs.arena htiny).1 address size allocationType protection
    rw [heq]
    exact ⟨⟨rfl, fun _ => rfl, rfl⟩, rfl⟩

theorem freshSpace_new (c : Context Pool) (htables : c.tableAllocator = pool .table 64) :
    NewSpace c (poolOut .data) poolHeld firmwareTables 0x1000 0x100000 0x100000 1 true
      freshSpace := by
  refine ⟨rfl, ?_, freshSpace_none_out⟩
  rw [htables]
  exact newPaging_new

/-- The data pages end after the first one. -/
def tightContext : Context Pool where
  tableAllocator := pool .table 64
  dataAllocator := pool .data 5
  generation := 1

/-- Two pages are reserved, and there is one data page to commit them. -/
def tightSpace : Space Pool := virtualStep tightContext freshSpace
  (.virtualAlloc 0 0x2000 memReserve pageReadwrite)

theorem virtual_alloc_is_atomic_of_pool :
    ((virtualAlloc tightContext tightSpace 0x100000 0x2000 memCommit pageReadwrite).2.arena =
        tightSpace.arena ∧
      poolOut .data (virtualAlloc tightContext tightSpace 0x100000 0x2000 memCommit
        pageReadwrite).2.machine.world = poolOut .data tightSpace.machine.world) ∧
    (tightSpace.arena.reservations 0).live = true := by
  have hlive : (tightSpace.arena.reservations 0).live = true := by decide +kernel
  have hfailed : (virtualAlloc tightContext tightSpace 0x100000 0x2000 memCommit
      pageReadwrite).1.status ≠ .ok () := by
    intro h
    have hno : (match (virtualAlloc tightContext tightSpace 0x100000 0x2000 memCommit
        pageReadwrite).1.status with
      | .ok _ => true
      | .error _ => false) = false := by decide +kernel
    rw [h] at hno
    cases hno
  have hreach : VirtualReach tightContext (poolOut .data) poolHeld firmwareTables 0x1000 0x100000
      0x100000 1 true tightSpace := .step (.start (freshSpace_new tightContext rfl)) trivial
  generalize tightSpace = s at hlive hfailed hreach ⊢
  have h := (virtual_alloc_is_atomic (c := tightContext)
    (pool_conforming .table .data 64 (by decide) (by decide) (by decide) (by decide))
    (pool_conforming .data .table 5 (by decide) (by decide) (by decide) (by decide))
    (by decide) hreach 0x100000 0x2000 memCommit pageReadwrite hfailed).1
  exact ⟨⟨h.arena, h.out⟩, hlive⟩

/-! ## A release -/

/-- What a release leaves: the reservation is gone with its commitments, their pages are
unmapped, and each of their data pages went back in one call. -/
structure Freed (c : Context W) (data : W → Nat → Option Nat) (r : ReservationSlot)
    (s s' : Space W) : Prop where
  reservation : s'.arena.reservations r = {}
  others : ∀ t, t ≠ r → s'.arena.reservations t = s.arena.reservations t
  commitments : ∀ i, s'.arena.commitments i =
    if InReservation s.arena r i then {} else s.arena.commitments i
  unmapped : ∀ i, InReservation s.arena r i → ∀ v, pageDown v = (s.arena.commitments i).base →
    query c.tableAllocator s'.machine v = .error .notPresent
  translations : ∀ v,
    (∀ i, InReservation s.arena r i → pageDown v ≠ (s.arena.commitments i).base) →
    query c.tableAllocator s'.machine v = query c.tableAllocator s.machine v
  calls : s'.machine.world =
    freeAll c (freeCalls c s.arena r (List.finRange maxCommitments)) s.machine.world
  once : ((freeCalls c s.arena r (List.finRange maxCommitments)).map Prod.fst).Nodup
  back : ∀ i, InReservation s.arena r i →
    data s'.machine.world (s.arena.commitments i).physicalBase = none
  out : ∀ p, (∀ i, InReservation s.arena r i → p ≠ (s.arena.commitments i).physicalBase) →
    data s'.machine.world p = data s.machine.world p

theorem canonicalAddress_of_canonical48 (h : canonical48 v = true) : canonicalAddress v = true := by
  rw [canonical48_iff] at h
  unfold canonicalAddress
  rw [and_one, Nat.shiftRight_eq_div_pow, Nat.shiftRight_eq_div_pow]
  split
  · simp only [decide_eq_true_eq]
    omega
  · simp only [decide_eq_true_eq]
    omega

theorem ArenaInv.findReservation {a : Arena} (h : ArenaInv a)
    (hr : (a.reservations r).live = true) : findReservation a (a.reservations r).base = some r := by
  have hbytes := (h.reservations r hr).nonempty
  have hsome : (Vm.findReservation a (a.reservations r).base).isSome = true := by
    rw [Vm.findReservation, List.find?_isSome]
    refine ⟨r, List.mem_finRange r, ?_⟩
    simp only [hr, ge_iff_le, le_refl, decide_true, Nat.sub_self, Bool.true_and,
      decide_eq_true_eq]
    omega
  obtain ⟨t, ht⟩ := Option.isSome_iff_exists.mp hsome
  obtain ⟨hlive, habove, hbelow⟩ := findReservation_some ht
  rw [ht, h.reservation_unique (v := (a.reservations r).base) hr hlive ⟨le_refl _, by omega⟩
    ⟨habove, hbelow⟩]

section Free

variable (hset : Setting c tables data held firmware currentCr3 base length)
  (h : SoundSpace c tables data held firmware currentCr3 base length nxEnabled s)
  (hr : (s.arena.reservations r).live = true)

include hset h hr

/-- The loops and the release leave what they should. -/
theorem SoundSpace.freed (address : Nat) (committed : Nat × Nat) :
    (Vm.releaseReservation c s r address committed).1 = freeReply r address committed ∧
    Freed c data r s (Vm.releaseReservation c s r address committed).2 := by
  obtain ⟨s1, s2, heq, hs2, h2, hemptied, hworld⟩ := h.releaseReservation hset hr address committed
  rw [heq]
  refine ⟨rfl, ?_, ?_, ?_, ?_, ?_, hworld, ?_, ?_, ?_⟩
  · rw [hs2]
    exact Function.update_self _ _ _
  · intro t ht
    rw [hs2]
    exact (Function.update_of_ne ht _ _).trans (hemptied.reservations t ht)
  · intro i
    rw [hs2]
    change s1.arena.commitments i = _
    split
    · rename_i hi
      exact hemptied.gone i (List.mem_finRange i) hi
    · rename_i hi
      exact hemptied.kept i fun _ => hi
  · intro i hi v hv
    have hin := (h.coherent.matched.commitment hi.1).1
    have hm2 := h2.coherent.matched
    have hcanon := (hin.accepted hset.arguments hset.slot hm2.made).canonical
    have hpage : v / pageSize = (s.arena.commitments i).base / pageSize := by
      rw [← hv, pageDown, Nat.mul_div_cancel _ (by decide)]
    have hv' : canonical48 v = true := by
      rw [← hv, canonical48_iff] at hcanon
      rw [canonical48_iff]
      simp only [pageDown, pageSize] at hcanon
      omega
    have hslot : pml4Index v = pml4Index base :=
      (indices_of_samePage hpage).1.trans (hin.slot hset.slot)
    have hgone : s2.machine.entryOf c.tableAllocator (pageDown v) = none := by
      rw [hs2]
      exact hemptied.entries.absent _ ⟨i, List.mem_finRange i, hi, hv.symm⟩
    rw [query_eq_entryOf hm2.paging hv' (hslot.trans hm2.made.arenaSlot.symm), hgone]
  · intro v hv
    apply h.same_query hset h2
    rw [hs2]
    refine hemptied.entries.kept _ ?_
    rintro ⟨i, -, hi, hname⟩
    exact hv i hi hname.symm
  · unfold freeCalls
    rw [List.map_map]
    apply List.Nodup.map_on
    · intro i hi j hj hsame
      simp only [List.mem_filter, List.mem_finRange, true_and, decide_eq_true_eq] at hi hj
      exact h.coherent.backed.unshared i j hi.1 hj.1 hsame
    · exact (List.nodup_finRange maxCommitments).filter _
  · intro i hi
    rw [hs2]
    exact hemptied.out.absent _ ⟨i, List.mem_finRange i, hi, rfl⟩
  · intro p hp
    rw [hs2]
    refine hemptied.out.kept p ?_
    rintro ⟨i, -, hi, hname⟩
    exact hp i hi hname.symm

/-- The address of a live reservation passes the checks of `virtual_free`. -/
theorem SoundSpace.virtualFree_eq (habove : 0 < base) :
    Vm.virtualFree c s (s.arena.reservations r).base 0 memRelease =
      Vm.releaseReservation c s r (s.arena.reservations r).base
        (pagesIn s.arena r, pagesIn s.arena r * pageSize) := by
  have hm := h.coherent.matched
  obtain ⟨hgeneration, hvalid⟩ := h.usable r hr
  have hsound := hm.arena.reservations r hr
  have hinside := hsound.inside
  rw [hm.range.1, hm.range.2] at hinside
  obtain ⟨haligned, hwhole⟩ := hm.pages.reservations r hr
  have hin : InArena base length (s.arena.reservations r).base := by
    refine ⟨haligned, hinside.1, ?_⟩
    have hnonempty := hsound.nonempty
    simp only [pageSize] at *
    omega
  have hcanon := canonicalAddress_of_canonical48
    (hin.accepted hset.arguments hset.slot hm.made).canonical
  have hcontext : validContext c s = true := by
    simp [validContext, hgeneration, hvalid]
  have hnonzero : (s.arena.reservations r).base ≠ 0 := by omega
  unfold Vm.virtualFree
  rw [if_neg (by simp [hcontext, hnonzero, hcanon]), if_neg (by decide), if_neg (by decide),
    hm.arena.findReservation hr]
  dsimp only
  rw [if_neg (not_not_intro rfl), h.checkCommitments hset habove]

end Free

/-- A reservation was made, with or without pages. Its release brings back what was before. -/
theorem SoundSpace.released_again
    (hset : Setting c tables data held firmware currentCr3 base length)
    (h : SoundSpace c tables data held firmware currentCr3 base length nxEnabled s)
    {size kind owner b : Nat} {arena : Arena} {log : List CreatedPage} {s1 : Space W}
    (hok : Vm.reserveAny s.arena size kind owner c.generation = .ok (b, r, arena))
    (h1 : SoundSpace c tables data held firmware currentCr3 base length nxEnabled s1)
    (hlog : UndoLog.Logged (Adds c r) (({ s with arena } : Space W).picture c data) log
      (s1.picture c data)) (address : Nat) (committed : Nat × Nat) :
    Unchanged c data s (Vm.releaseReservation c s1 r address committed).2 := by
  obtain ⟨-, -, hdead, hlive, -, -, record, total, -, harena⟩ := reserveAny_picture hok
  obtain ⟨slots, hslots⟩ := adds_emptied hlog
  have hr1 : (s1.arena.reservations r).live = true := (hslots.ranges.live r).symm.trans hlive
  obtain ⟨m, s2, heq, hs2, h2, hemptied, -⟩ := h1.releaseReservation hset hr1 address committed
  -- the reservation was dead before, so it had no commitments
  have hempty : ∀ i, ¬ InReservation arena r i := by
    rintro i ⟨hi, hir⟩
    have hcommitments : arena.commitments = s.arena.commitments := by
      rw [harena]
      rfl
    rw [hcommitments] at hi hir
    have hreserved := (h.coherent.matched.arena.commitments i hi).reserved
    rw [hir, hdead] at hreserved
    cases hreserved
  obtain ⟨hcommitments, hothers, hentries, hout⟩ := (hslots.all hempty).unique hemptied
  rw [heq]
  apply Unchanged.of_picture hset h h2
  have hback : s2.arena = s.arena := by
    apply h.coherent.matched.arena.eq_of_tables h2.coherent.matched.arena
    · rw [hs2]
      funext t
      change Function.update m.arena.reservations r {} t = _
      by_cases htr : t = r
      · subst htr
        rw [Function.update_self, h.blank.reservations t hdead]
      · rw [Function.update_of_ne htr]
        refine (hothers t htr).trans ?_
        change arena.reservations t = _
        rw [harena]
        exact Function.update_of_ne htr _ _
    · rw [hs2]
      refine hcommitments.trans ?_
      change arena.commitments = _
      rw [harena]
      rfl
    · have := h2.coherent.matched.range
      have := h.coherent.matched.range
      omega
    · have hrest := hemptied.rest
      have hrest' := hslots.rest
      rw [hs2]
      change m.arena.generation = _ ∧ m.arena.valid = _
      change arena.generation = _ ∧ arena.valid = _ at hrest'
      rw [harena] at hrest'
      exact ⟨hrest.1.trans hrest'.1.symm, hrest.2.trans hrest'.2.symm⟩
  change Picture.mk s2.arena (s2.machine.entryOf c.tableAllocator) (data s2.machine.world) = _
  rw [hback, hs2]
  change Picture.mk s.arena (m.picture c data).entries (m.picture c data).out = _
  rw [hentries, hout]
  rfl

/-- `virtual_free` releases exactly the live reservations, whole, and undoes the call that
made the reservation. A free that does not succeed changes nothing but the error code. -/
theorem virtual_free_undoes_a_reservation (hT : Conforming c.tableAllocator tables data held)
    (hD : Conforming c.dataAllocator data tables held)
    (hslot : base / 2 ^ 39 = (base + length - 1) / 2 ^ 39) (habove : 0 < base)
    (h : VirtualReach c data held firmware currentCr3 base length generation nxEnabled s) :
    (∀ address, (virtualFree c s address 0 memRelease).1.status = .ok () ↔
      ∃ r, (s.arena.reservations r).live = true ∧ (s.arena.reservations r).base = address) ∧
    (∀ r, (s.arena.reservations r).live = true →
      (virtualFree c s (s.arena.reservations r).base 0 memRelease).1 =
        freeReply r (s.arena.reservations r).base
          (pagesIn s.arena r, pagesIn s.arena r * pageSize) ∧
      Freed c data r s (virtualFree c s (s.arena.reservations r).base 0 memRelease).2) ∧
    (∀ address size allocationType protection,
      (virtualAlloc c s address size allocationType protection).1.status = .ok () →
      allocationType &&& memReserve ≠ 0 →
      (virtualFree c (virtualAlloc c s address size allocationType protection).2
        (virtualAlloc c s address size allocationType protection).1.address 0
          memRelease).1.status = .ok () ∧
      Unchanged c data s (virtualFree c (virtualAlloc c s address size allocationType protection).2
        (virtualAlloc c s address size allocationType protection).1.address 0 memRelease).2) ∧
    ∀ address size freeType, (virtualFree c s address size freeType).1.status ≠ .ok () →
      ∃ code, (virtualFree c s address size freeType).2 = { s with lastError := code } := by
  rcases virtualReach_cases hT hD hslot h with ⟨hset, hs⟩ | ⟨htiny, hs⟩
  · refine ⟨?_, ?_, ?_, ?_⟩
    · intro address
      constructor
      · intro hok
        have hcase := virtualFree_cases c s address 0 memRelease
        generalize virtualFree c s address 0 memRelease = answer at hcase hok
        cases hcase with
        | refused failure => cases hok
        | released hfind hbase => exact ⟨_, (findReservation_some hfind).1, hbase⟩
      · rintro ⟨r, hr, rfl⟩
        rw [hs.virtualFree_eq hset hr habove, (hs.freed hset hr _ _).1]
        rfl
    · intro r hr
      rw [hs.virtualFree_eq hset hr habove]
      exact hs.freed hset hr _ _
    · intro address size allocationType protection hok hreserve
      obtain ⟨hcase, hs1⟩ := hs.virtualAlloc hset address size allocationType protection
      generalize virtualAlloc c s address size allocationType protection = answer at *
      obtain ⟨reply, s1⟩ := answer
      dsimp only at *
      cases hcase with
      | failed hfailed => rw [hok] at hfailed; cases hfailed
      | @reserved r arena log _ _ _ hreserved hlog =>
        obtain ⟨-, -, -, hlive, hbase, -⟩ := reserveAny_picture hreserved
        obtain ⟨slots, hslots⟩ := adds_emptied hlog
        have hr1 : (s1.arena.reservations r).live = true :=
          (hslots.ranges.live r).symm.trans hlive
        have hbase1 : (s1.arena.reservations r).base = reply.address :=
          (hslots.ranges.base r).symm.trans hbase
        rw [← hbase1, hs1.virtualFree_eq hset hr1 habove]
        refine ⟨?_, hs.released_again hset hreserved hs1 hlog _ _⟩
        rw [(hs1.freed hset hr1 _ _).1]
        rfl
      | committed _ htype =>
        rw [htype] at hreserve
        exact absurd (by decide) hreserve
    · intro address size freeType hfailed
      have hcase := virtualFree_cases c s address size freeType
      generalize virtualFree c s address size freeType = answer at hcase hfailed ⊢
      cases hcase with
      | refused failure => exact ⟨failure.2, rfl⟩
      | released hfind =>
        rw [(hs.freed hset (findReservation_some hfind).1 _ _).1] at hfailed
        exact absurd rfl hfailed
  · obtain ⟨halloc, hfree⟩ := refuses_of_small hs.arena htiny
    have hdead : ∀ r, (s.arena.reservations r).live ≠ true := by
      intro r hr
      rw [hs.arena] at hr
      cases hr
    refine ⟨?_, fun r hr => absurd hr (hdead r), ?_, ?_⟩
    · intro address
      obtain ⟨failure, heq⟩ := hfree address 0 memRelease
      rw [heq]
      refine iff_of_false ?_ fun ⟨r, hr, _⟩ => hdead r hr
      intro hok
      cases hok
    · intro address size allocationType protection hok
      obtain ⟨failure, result, heq⟩ := halloc address size allocationType protection
      rw [heq] at hok
      cases hok
    · intro address size freeType _
      obtain ⟨failure, heq⟩ := hfree address size freeType
      exact ⟨failure.2, by rw [heq]; rfl⟩

theorem tightSpace_reach : VirtualReach tightContext (poolOut .data) poolHeld firmwareTables 0x1000
    0x100000 0x100000 1 true tightSpace := .step (.start (freshSpace_new tightContext rfl)) trivial

theorem tightSpace_reserved : (tightSpace.arena.reservations 0).live = true ∧
    (tightSpace.arena.reservations 0).base = 0x100000 := by decide +kernel

theorem virtual_free_undoes_a_reservation_of_pool :
    (virtualFree tightContext tightSpace 0x100000 0 memRelease).1.status = .ok () := by
  have hreach := tightSpace_reach
  have hreserved := tightSpace_reserved
  generalize tightSpace = s at hreach hreserved ⊢
  exact ((virtual_free_undoes_a_reservation (c := tightContext)
    (pool_conforming .table .data 64 (by decide) (by decide) (by decide) (by decide))
    (pool_conforming .data .table 5 (by decide) (by decide) (by decide) (by decide))
    (by decide) (by decide) hreach).1 0x100000).mpr ⟨0, hreserved⟩

/-- One page is committed in the reservation, at its base. -/
def committedSpace : Space Pool :=
  virtualStep tightContext tightSpace (.virtualAlloc 0x100000 0x1000 memCommit pageReadwrite)

/-- The base that the commit gives back is the one of the whole reservation, so a release
takes more away than the commit had brought. -/
theorem a_commit_is_not_undone_by_a_release :
    VirtualReach tightContext (poolOut .data) poolHeld firmwareTables 0x1000 0x100000 0x100000 1
      true tightSpace ∧
    (virtualAlloc tightContext tightSpace 0x100000 0x1000 memCommit pageReadwrite).1.address =
      0x100000 ∧
    (virtualAlloc tightContext tightSpace 0x100000 0x1000 memCommit pageReadwrite).1.status =
      .ok () ∧
    (virtualFree tightContext committedSpace 0x100000 0 memRelease).1.status = .ok () ∧
    ¬ Unchanged tightContext (poolOut .data) tightSpace
      (virtualFree tightContext committedSpace 0x100000 0 memRelease).2 := by
  have hreach : VirtualReach tightContext (poolOut .data) poolHeld firmwareTables 0x1000 0x100000
      0x100000 1 true committedSpace := .step tightSpace_reach trivial
  have hreserved : (committedSpace.arena.reservations 0).live = true ∧
      (committedSpace.arena.reservations 0).base = 0x100000 := by decide +kernel
  have haddress : (virtualAlloc tightContext tightSpace 0x100000 0x1000 memCommit
      pageReadwrite).1.address = 0x100000 := by decide +kernel
  have hok : (virtualAlloc tightContext tightSpace 0x100000 0x1000 memCommit
      pageReadwrite).1.status = .ok () := by
    have hyes : (match (virtualAlloc tightContext tightSpace 0x100000 0x1000 memCommit
        pageReadwrite).1.status with
      | .ok _ => true
      | .error _ => false) = true := by decide +kernel
    generalize (virtualAlloc tightContext tightSpace 0x100000 0x1000 memCommit
      pageReadwrite).1.status = status at hyes
    cases status with
    | ok _ => rfl
    | error e => cases hyes
  have hold := tightSpace_reserved.1
  refine ⟨tightSpace_reach, haddress, hok, ?_⟩
  clear haddress hok
  generalize tightSpace = s at hold ⊢
  generalize committedSpace = s1 at hreach hreserved ⊢
  rcases virtualReach_cases
    (pool_conforming .table .data 64 (by decide) (by decide) (by decide) (by decide))
    (pool_conforming .data .table 5 (by decide) (by decide) (by decide) (by decide))
    (by decide) hreach with ⟨hset, hs1⟩ | ⟨htiny, -⟩
  · have heq := hs1.virtualFree_eq hset hreserved.1 (by decide)
    obtain ⟨hreply, hfreed⟩ := hs1.freed hset hreserved.1 0x100000
      (pagesIn s1.arena 0, pagesIn s1.arena 0 * pageSize)
    rw [hreserved.2] at heq
    rw [heq, hreply]
    refine ⟨rfl, ?_⟩
    intro hsame
    have hgone := hfreed.reservation
    rw [hsame.arena] at hgone
    rw [hgone] at hold
    cases hold
  · exact absurd htiny (by decide)

end Gate4Harness.Vm
