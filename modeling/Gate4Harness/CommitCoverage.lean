-- A commit covers exactly the pages that it was asked for. The count of the pages that are
-- there and the loop that commits walk the range apart, with the rounding of two files, and
-- they agree on every overlap of old pages and new ones.
import Gate4Harness.CommittedPages

namespace Gate4Harness.Vm

open Runs

variable {W : Type} {c : Context W} {tables data : W → Nat → Option Nat} {held : Nat → Prop}
  {s s' s1 s2 : Space W} {a a' : Arena} {r : ReservationSlot} {R R1 R2 : Set Nat}
  {currentCr3 base length generation u v n count start size : Nat} {nxEnabled : Bool}

/-! ## The pages of a range -/

/-- `count` pages from a page on. -/
def pageRange (v count : Nat) : Set Nat := { u | ∃ k < count, u = v + k * pageSize }

theorem pageRange_zero (v : Nat) : pageRange v 0 = ∅ := by
  ext u
  simp [pageRange]

theorem pageRange_succ (v count : Nat) :
    pageRange v (count + 1) = {v} ∪ pageRange (v + pageSize) count := by
  ext u
  simp only [pageRange, Set.mem_ofPred_eq, Set.mem_union, Set.mem_singleton_iff]
  constructor
  · rintro ⟨k, hk, rfl⟩
    cases k with
    | zero => exact Or.inl (by rw [Nat.zero_mul, Nat.add_zero])
    | succ k => exact Or.inr ⟨k, by omega, by rw [Nat.succ_mul]; omega⟩
  · rintro (rfl | ⟨k, hk, rfl⟩)
    · exact ⟨0, by omega, by rw [Nat.zero_mul, Nat.add_zero]⟩
    · exact ⟨k + 1, by omega, by rw [Nat.succ_mul]; omega⟩

/-- The page has a byte of the request. -/
structure MeetsRequest (start size v : Nat) : Prop where
  aligned : v % pageSize = 0
  before : v < start + size
  after : start < v + pageSize

/-- The rounding down at one end and up at the other gives the pages that the request meets. -/
theorem mem_pageRange_iff
    (hstop : pageDown start + count * pageSize = pageDown (start + size + pageSize - 1)) :
    v ∈ pageRange (pageDown start) count ↔ MeetsRequest start size v := by
  simp only [pageDown, pageSize] at hstop
  constructor
  · rintro ⟨k, hk, rfl⟩
    refine ⟨?_, ?_, ?_⟩ <;> simp only [pageDown, pageSize] <;> omega
  · rintro ⟨haligned, hbefore, hafter⟩
    simp only [pageSize] at haligned hbefore hafter
    refine ⟨(v - start / 4096 * 4096) / 4096, ?_, ?_⟩
    · omega
    · simp only [pageDown, pageSize]
      omega

/-! ## The count of the pages that are there -/

/-- How many of the pages of a range are committed. -/
def committedCount (a : Arena) (v : Nat) : Nat → Nat
  | 0 => 0
  | left + 1 =>
    (if (pageAt a v).isSome then 1 else 0) + committedCount a (v + pageSize) left

theorem committedCount_congr {left : Nat}
    (hsame : ∀ k < left, pageAt a' (v + k * pageSize) = pageAt a (v + k * pageSize)) :
    committedCount a' v left = committedCount a v left := by
  induction left generalizing v with
  | zero => rfl
  | succ left ih =>
    have hfirst : pageAt a' v = pageAt a v := by
      simpa using hsame 0 (by omega)
    have hrest : committedCount a' (v + pageSize) left = committedCount a (v + pageSize) left := by
      apply ih
      intro k hk
      have := hsame (k + 1) (by omega)
      rwa [Nat.succ_mul, Nat.add_comm (k * pageSize), ← Nat.add_assoc] at this
    unfold committedCount
    rw [hfirst, hrest]

/-- Where all commitments are pages, the search by address finds the one of the page. -/
theorem findCommitment_eq (h : OnlyPages a) (hv : v % pageSize = 0) :
    findCommitment a v = pageCommitment? a v := by
  unfold findCommitment pageCommitment?
  congr 1
  funext i
  by_cases hi : (a.commitments i).live = true
  · obtain ⟨hbytes, halign, -⟩ := h.commitments i hi
    have hpage : ((a.commitments i).base ≤ v ∧ v - (a.commitments i).base < pageSize) ↔
        (a.commitments i).base = v := by
      simp only [pageSize] at *
      omega
    rw [Bool.eq_iff_iff]
    simpa only [hi, hbytes, ge_iff_le, Bool.true_and, Bool.and_eq_true, decide_eq_true_eq,
      decide_true, Bool.and_true] using hpage
  · rw [Bool.not_eq_true] at hi
    simp only [hi, Bool.false_and]

/-- The walk of `count_existing_pages` counts them, unless it gives up. -/
theorem countExistingFrom_eq (h : OnlyPages a) (hv : v % pageSize = 0) {left : Nat}
    (hgood : countExistingFrom a v count left ≠ uint32Max) :
    countExistingFrom a v count left = count + committedCount a v left := by
  induction left generalizing v count with
  | zero => rfl
  | succ left ih =>
    have hnext : (v + pageSize) % pageSize = 0 := by
      rw [Nat.add_mod_right]
      exact hv
    unfold countExistingFrom at hgood ⊢
    unfold committedCount
    rw [findCommitment_eq h hv] at hgood ⊢
    unfold pageAt
    cases hfind : pageCommitment? a v with
    | none =>
      rw [hfind] at hgood
      rw [ih hnext hgood]
      simp
    | some i =>
      rw [hfind] at hgood
      dsimp only at hgood ⊢
      split
      · rename_i hbad
        rw [if_pos hbad] at hgood
        exact absurd rfl hgood
      · rename_i hfine
        rw [if_neg hfine] at hgood
        rw [ih hnext hgood]
        simp only [Option.map_some, Option.isSome_some, if_true]
        omega

/-! ## The loop -/

/-- The pages of a set are committed, besides those that were. New ones are zero, and old
ones keep their physical pages and what these hold. -/
structure CommitsPages (c : Context W) (R : Set Nat) (s s' : Space W) : Prop where
  pages : ∀ u, pageAt s'.arena u ≠ none ↔ pageAt s.arena u ≠ none ∨ u ∈ R
  kept : ∀ u q, pageAt s.arena u = some q →
    pageAt s'.arena u = some q ∧ s'.contents c q = s.contents c q
  zero : ∀ u q, pageAt s'.arena u = some q → pageAt s.arena u = none →
    s'.contents c q = fun _ => 0

/-- Pages that are there can be committed again, and nothing changes. -/
theorem CommitsPages.refl (hR : ∀ u ∈ R, pageAt s.arena u ≠ none) : CommitsPages c R s s := by
  refine ⟨?_, fun u q hq => ⟨hq, rfl⟩, ?_⟩
  · intro u
    exact ⟨Or.inl, fun h => h.elim id (hR u)⟩
  · intro u q hq hnone
    rw [hnone] at hq
    cases hq

theorem CommitsPages.trans (h1 : CommitsPages c R1 s s1) (h2 : CommitsPages c R2 s1 s2) :
    CommitsPages c (R1 ∪ R2) s s2 := by
  refine ⟨?_, ?_, ?_⟩
  · intro u
    rw [h2.pages, h1.pages, Set.mem_union, or_assoc]
  · intro u q hq
    obtain ⟨hq1, hsame1⟩ := h1.kept u q hq
    obtain ⟨hq2, hsame2⟩ := h2.kept u q hq1
    exact ⟨hq2, hsame2.trans hsame1⟩
  · intro u q hq hnone
    cases hmid : pageAt s1.arena u with
    | none => exact h2.zero u q hq hmid
    | some p =>
      -- the page came with the first part, and the second kept it
      obtain ⟨hp, hsame⟩ := h2.kept u p hmid
      rw [hp] at hq
      cases hq
      rw [hsame]
      exact h1.zero u _ hmid hnone

theorem NewPage.commitsPages (h : NewPage c s v s') : CommitsPages c {v} s s' := by
  obtain ⟨⟨p, hpages, hzero⟩, habsent, hkept⟩ := h
  refine ⟨?_, ?_, ?_⟩
  · intro u
    rw [hpages u, Set.mem_singleton_iff]
    by_cases huv : u = v <;> simp [huv]
  · intro u q hq
    refine ⟨?_, hkept u q hq⟩
    rw [hpages u, if_neg]
    · exact hq
    · rintro rfl
      rw [habsent] at hq
      cases hq
  · intro u q hq hnone
    rw [hpages u] at hq
    by_cases huv : u = v
    · rw [if_pos huv] at hq
      cases hq
      exact hzero
    · rw [if_neg huv, hnone] at hq
      cases hq

section Loop

variable (hargs : CreateArguments currentCr3 base length) (hpages : OneSlot base length)
  (hT : Conforming c.tableAllocator tables data held)
  (hD : Conforming c.dataAllocator data tables held)
  (h : Coherent c tables data held base length nxEnabled s)
  (hg : Guarded c data nxEnabled s.machine)

include hargs hpages hT hD h hg

/-- The loop commits its range, and the new pages and the old ones are all its pages. -/
theorem commitFrom_commitsPages {created : List CreatedPage} {left : Nat}
    (hin : ∀ k < left, InArena base length (v + k * pageSize))
    (hok : commitFrom c true false s created v left = (.ok n, s')) :
    CommitsPages c (pageRange v left) s s' ∧
    n + committedCount s.arena v left = created.length + left := by
  induction left generalizing s created v with
  | zero =>
    cases hok
    refine ⟨.refl ?_, rfl⟩
    rw [pageRange_zero]
    exact fun u hu => hu.elim
  | succ left ih =>
    have hv : InArena base length v := by simpa using hin 0 (by omega)
    have hnext : ∀ k < left, InArena base length (v + pageSize + k * pageSize) := by
      intro k hk
      have := hin (k + 1) (by omega)
      rwa [Nat.succ_mul, Nat.add_comm (k * pageSize), ← Nat.add_assoc] at this
    have h1 := (commitTurn_effect hargs hpages hT hD h hv true false).coherent
    have hg1 := hg.commitTurn hargs hpages hT hD h hv
    unfold commitFrom at hok
    unfold committedCount
    rw [pageRange_succ]
    split at hok
    · cases hok
    · -- the page was there
      rename_i hturn
      obtain ⟨heq, i, hfind⟩ := commitTurn_eq_ok_none hturn
      rw [heq] at hok
      rw [findCommitment_eq h.matched.pages hv.aligned] at hfind
      have hpage : pageAt s.arena v = some (s.arena.commitments i).physicalBase := by
        rw [pageAt, hfind]
        rfl
      obtain ⟨hrest, hcount⟩ := ih h hg hnext hok
      refine ⟨.trans (.refl ?_) hrest, ?_⟩
      · rintro u rfl
        rw [hpage]
        exact Option.some_ne_none _
      · rw [hpage, Option.isSome_some, if_pos rfl]
        omega
    · -- the page is new
      rename_i s1 hturn
      rw [hturn] at h1 hg1
      have hnew := commitTurn_newPage hargs hpages hT hD h hg hv hturn
      obtain ⟨hrest, hcount⟩ := ih h1 hg1 hnext hok
      refine ⟨hnew.commitsPages.trans hrest, ?_⟩
      have hsame : committedCount s1.arena (v + pageSize) left =
          committedCount s.arena (v + pageSize) left := by
        apply committedCount_congr
        intro k _
        obtain ⟨p, hp, -⟩ := hnew.pages
        rw [hp, if_neg]
        simp only [pageSize]
        omega
      rw [hnew.absent, Option.isSome_none, if_neg Bool.false_ne_true, ← hsame]
      dsimp only [List.length_cons] at hcount
      omega

end Loop

/-! ## The calls -/

/-- The pages that `commit_range` of virtual_memory.c checks. -/
theorem publicRange_eq_some {range : Nat × Nat} (h : publicRange s r start size = some range) :
    start ≠ 0 ∧ range.1 = pageDown start ∧ range.2 = pageDown (start + size + pageSize - 1) := by
  unfold publicRange at h
  obtain ⟨requestedEnd, hend, h⟩ := Option.bind_eq_some_iff.mp h
  obtain ⟨stop, hstop, h⟩ := Option.bind_eq_some_iff.mp h
  have hround : stop = pageDown (start + size + pageSize - 1) := by
    rw [addU64_eq_some hend] at hstop
    unfold pageRound at hstop
    split at hstop
    · cases hstop
    · split at hstop <;> cases hstop
      rfl
  split at h
  · cases h
  · rename_i hstart
    dsimp only at h
    split at h
    · cases h
    · rename_i hless
      obtain ⟨stop', hstop', h⟩ := Option.bind_eq_some_iff.mp h
      split at h
      · cases h
        refine ⟨hstart, rfl, ?_⟩
        rw [addU64_eq_some hstop']
        omega
      · cases h

/-- When `commit_range` of virtual_memory.c succeeds, both walks went over one range. -/
theorem publicCommitRange_eq_ok {result : PublicResult}
    (hok : (publicCommitRange c s r start size result).1.status = .ok ()) :
    ∃ count n s',
      start ≠ 0 ∧ pageDown start + count * pageSize = pageDown (start + size + pageSize - 1) ∧
      PagesIn s.arena r (pageDown start) count ∧
      countExistingFrom s.arena (pageDown start) 0 count ≠ uint32Max ∧
      commitFrom c true false s [] (pageDown start) count = (.ok n, s') ∧
      publicCommitRange c s r start size result =
        ({ status := .ok ()
           result := { result with
             roundedBytes := count * pageSize
             effectiveBase := pageDown start
             reservationBase := (s'.arena.reservations r).base
             reservationSlot := r
             newPageCount := n
             existingPageCount := countExistingFrom s.arena (pageDown start) 0 count
             committed := true } }, s') := by
  unfold publicCommitRange at hok ⊢
  cases hrange : publicRange s r start size with
  | none =>
    rw [hrange] at hok
    cases hok
  | some range =>
    obtain ⟨hstart, hfirst, hlast⟩ := publicRange_eq_some hrange
    obtain ⟨page, stop⟩ := range
    dsimp only at hfirst hlast
    subst hfirst hlast
    rw [hrange] at hok
    dsimp only at hok ⊢
    split at hok
    · cases hok
    · rename_i hgood
      rw [if_neg hgood]
      rcases commitRange_cases c s r start size true false with
        ⟨e, heq⟩ | ⟨r', page, count, hr, ⟨rfl, hstop⟩, hin, heq⟩
      · rw [heq] at hok
        cases hok
      · obtain rfl : r' = r := Fin.ext hr
        have hbytes : pageDown (start + size + pageSize - 1) - pageDown start =
            count * pageSize := by
          omega
        have hcount : countExistingPages s.arena (pageDown start)
            (pageDown (start + size + pageSize - 1)) =
              countExistingFrom s.arena (pageDown start) 0 count := by
          unfold countExistingPages
          rw [hbytes]
          congr 1
          simp only [pageSize]
          omega
        rw [hcount] at hgood ⊢
        rw [heq] at hok ⊢
        rw [hbytes]
        cases hloop : commitFrom c true false s [] (pageDown start) count with
        | mk answer s' =>
          rw [hloop] at hok
          cases answer with
          | error e => cases hok
          | ok n => exact ⟨count, n, s', hstart, hstop, hin, hgood, hloop, rfl⟩

/-- A call that makes a reservation has no address of its own. -/
theorem virtualAlloc_reserve_address {address protection : Nat}
    (hok : (virtualAlloc c s address size (memReserve ||| memCommit) protection).1.status =
      .ok ()) : address = 0 := by
  by_contra haddress
  unfold virtualAlloc at hok
  split at hok
  · cases hok
  dsimp only at hok
  split at hok
  · cases hok
  split at hok
  · cases hok
  split at hok
  · cases hok
  split at hok
  · cases hok
  rw [if_neg fun h => haddress h.2, if_neg fun h => haddress h.2, if_pos (Or.inl (by decide))] at hok
  cases hok

/-! ## Every run -/

/-- The states that the calls of a payload and its stores reach. -/
abbrev PayloadReach (c : Context W) (data : W → Nat → Option Nat)
    (currentCr3 base length generation : Nat) (nxEnabled : Bool) : Space W → Prop :=
  Reach (FreshSpace c data currentCr3 base length generation nxEnabled) (payloadStep c)
    fun _ _ => True

theorem FreshSpace.guarded (hpages : OneSlot base length)
    (h : FreshSpace c data currentCr3 base length generation nxEnabled s) :
    Guarded c data nxEnabled s.machine := by
  obtain ⟨m0, hcreate⟩ := h.machine
  obtain ⟨rootPhysical, rootAlias, world, hnew, hmachine⟩ :=
    create_eq_ok hpages.length_le hcreate
  refine ⟨?_, ?_⟩
  · intro v entry hentry
    rw [hmachine] at hentry
    unfold Machine.entryOf at hentry
    split at hentry
    · rename_i hv
      rw [created_leaf hnew hv.slot] at hentry
      cases hentry
    · cases hentry
  · intro p t hp
    rw [h.none_out p] at hp
    cases hp

/-- What the payload stores is in no table. -/
theorem Coherent.storeWord (hpages : OneSlot base length)
    (h : Coherent c tables data held base length nxEnabled s)
    (hg : Guarded c data nxEnabled s.machine) (v index value : Nat) :
    Coherent c tables data held base length nxEnabled (s.storeWord c v index value) ∧
    Guarded c data nxEnabled (s.storeWord c v index value).machine := by
  unfold Space.storeWord
  cases hp : pageAt s.arena v with
  | none => exact ⟨h, hg⟩
  | some p =>
    obtain ⟨i, hlive, -, -, hip⟩ := (pageAt_eq_some h.matched.arena).mp hp
    have hout := h.backed.out i hlive
    rw [hip] at hout
    have hmemory : ∀ t ∈ s.machine.ownAliases,
        Function.update s.machine.memory (c.dataAllocator.physicalAlias p)
          (Function.update (s.machine.memory (c.dataAllocator.physicalAlias p)) index value) t =
          s.machine.memory t := by
      intro t ht
      apply Function.update_of_ne
      rintro rfl
      exact hg.apart p _ hout ht
    refine ⟨⟨h.matched.other hpages rfl rfl hmemory rfl, h.backed⟩, hg.congr ?_ rfl ?_⟩
    · exact entryOf_congr rfl fun u hu => other_leaf h.matched.paging _ hmemory hu
    · exact fun q t hq => hq

theorem storeWord_arena (c : Context W) (s : Space W) (v index value : Nat) :
    (s.storeWord c v index value).arena = s.arena := by
  unfold Space.storeWord
  split <;> rfl

/-- A state that is reached is coherent, or the arena is too small for anything to happen. -/
theorem payloadReach_cases (hT : Conforming c.tableAllocator tables data held)
    (hD : Conforming c.dataAllocator data tables held)
    (hslot : base / 2 ^ 39 = (base + length - 1) / 2 ^ 39)
    (h : PayloadReach c data currentCr3 base length generation nxEnabled s) :
    (OneSlot base length ∧ CreateArguments currentCr3 base length ∧
      Coherent c tables data held base length nxEnabled s ∧
      Guarded c data nxEnabled s.machine) ∨
    base + length < pageSize ∧ s.arena = arenaInit base length generation := by
  by_cases hpage : pageSize ≤ base + length
  · have hpages : OneSlot base length := ⟨hpage, hslot⟩
    refine Or.inl ⟨hpages, ?_⟩
    apply h.invariant
    · intro s hs
      obtain ⟨hargs, hcoherent⟩ := hs.coherent hT hpages
      exact ⟨hargs, hcoherent, hs.guarded hpages⟩
    · rintro s op - ⟨hargs, hcoherent, hg⟩ -
      refine ⟨hargs, ?_⟩
      cases op with
      | call op =>
        exact ⟨hcoherent.virtualStep hargs hpages hT hD op,
          (guarded_keptByCalls hargs hpages hT hD).virtualStep hargs hpages hT hD hcoherent hg op⟩
      | storeWord v index value => exact hcoherent.storeWord hpages hg v index value
  · have htiny := Nat.lt_of_not_le hpage
    refine Or.inr ⟨htiny, h.invariant (fun s hs => hs.arena) ?_⟩
    rintro s op - hs -
    obtain ⟨halloc, hfree⟩ := refuses_of_small (c := c) hs htiny
    cases op with
    | call op =>
      cases op with
      | virtualAlloc address size allocationType protection =>
        obtain ⟨failure, result, heq⟩ := halloc address size allocationType protection
        change (virtualAlloc c s address size allocationType protection).2.arena = _
        rw [heq]
        exact hs
      | virtualFree address size freeType =>
        obtain ⟨failure, heq⟩ := hfree address size freeType
        change (virtualFree c s address size freeType).2.arena = _
        rw [heq]
        exact hs
    | storeWord v index value => exact (storeWord_arena c s v index value).trans hs

/-! ## What a commit leaves -/

/-- The page tables let the payload read and write a page, and with NX not execute it. -/
def MapsData (c : Context W) (nxEnabled : Bool) (m : Machine W) (v p : Nat) : Prop :=
  ∃ mapping, query c.tableAllocator m v = .ok mapping ∧ mapping.pageSize = pageSize ∧
    mapping.physicalBase = p ∧ mapping.entryFlags &&& entryWritableBit ≠ 0 ∧
    (nxEnabled = true → mapping.entryFlags &&& entryNoExecuteBit ≠ 0)

theorem or_and_ne_zero {entry flags bit : Nat} (h : flags &&& bit ≠ 0) :
    (entry ||| flags) &&& bit ≠ 0 := by
  rw [Nat.and_or_distrib_right]
  intro hzero
  exact h (Nat.or_eq_zero_iff.mp hzero).2

theorem Guarded.mapsData (hargs : CreateArguments currentCr3 base length)
    (hpages : OneSlot base length) (h : Coherent c tables data held base length nxEnabled s)
    (hg : Guarded c data nxEnabled s.machine) (hv : InArena base length v) {p : Nat}
    (hp : pageAt s.arena v = some p) : MapsData c nxEnabled s.machine v p := by
  have hm := h.matched
  have hpage := hv.slotPage hargs hpages hm.made
  have hmapped := hm.mapped v hv
  rw [hp] at hmapped
  obtain ⟨entry, hleaf, hentry⟩ := Option.map_eq_some_iff.mp hmapped
  have hflags := hg.entries v entry ((entryOf_slotPage hpage).trans hleaf)
  have hquery := query_eq hm.paging hpage.canonical hpage.slot
  rw [hleaf] at hquery
  refine ⟨_, hquery, rfl, ?_, ?_, ?_⟩
  · change entryAddress entry + v % pageSize = p
    rw [hentry, hv.aligned, Nat.add_zero]
  · change entry &&& entryWritableBit ≠ 0
    rw [hflags]
    apply or_and_ne_zero
    cases nxEnabled <;> decide
  · rintro rfl
    change entry &&& entryNoExecuteBit ≠ 0
    rw [hflags]
    exact or_and_ne_zero (by decide)

/-- What a commit of `size` bytes from `start` on leaves behind. -/
structure CommitLeaves (c : Context W) (base length : Nat) (nxEnabled : Bool) (start size : Nat)
    (s : Space W) (result : PublicResult) (s' : Space W) : Prop where
  committed : ∀ v, (∃ p, Commits s'.arena v p) ↔
    (∃ p, Commits s.arena v p) ∨ MeetsRequest start size v
  mapped : ∀ v, InArena base length v → ∀ p,
    Maps c.tableAllocator s'.machine v p ↔ Commits s'.arena v p
  allowed : ∀ v p, Commits s'.arena v p →
    InArena base length v ∧ MapsData c nxEnabled s'.machine v p
  zero : ∀ v p, Commits s'.arena v p → (∀ q, ¬ Commits s.arena v q) →
    s'.contents c p = fun _ => 0
  kept : ∀ v p, Commits s.arena v p →
    Commits s'.arena v p ∧ s'.contents c p = s.contents c p
  effectiveBase : result.effectiveBase = pageDown start
  rounded : result.effectiveBase + result.roundedBytes = pageDown (start + size + pageSize - 1)
  counts : result.newPageCount + result.existingPageCount = result.roundedBytes / pageSize

theorem commits_iff (h : ArenaInv a) (v p : Nat) : Commits a v p ↔ pageAt a v = some p :=
  (pageAt_eq_some h).symm

theorem exists_commits_iff (h : ArenaInv a) (v : Nat) :
    (∃ p, Commits a v p) ↔ pageAt a v ≠ none := by
  simp only [commits_iff h, Option.ne_none_iff_exists']

/-- `commit_range` of virtual_memory.c, when it succeeds. -/
theorem publicCommitRange_leaves (hargs : CreateArguments currentCr3 base length)
    (hpages : OneSlot base length) (hT : Conforming c.tableAllocator tables data held)
    (hD : Conforming c.dataAllocator data tables held)
    (h : Coherent c tables data held base length nxEnabled s)
    (hg : Guarded c data nxEnabled s.machine) (r : ReservationSlot) (start size : Nat)
    (result : PublicResult)
    (hok : (publicCommitRange c s r start size result).1.status = .ok ()) :
    start ≠ 0 ∧ CommitLeaves c base length nxEnabled start size s
      (publicCommitRange c s r start size result).1.result
      (publicCommitRange c s r start size result).2 := by
  have h' := h.publicCommitRange hargs hpages hT hD r start size result
  have hg' := (guarded_keptByCalls hargs hpages hT hD).publicCommitRange hargs hpages hT hD h hg r
    start size result
  obtain ⟨count, n, s', hstart, hstop, hin, hgood, hloop, heq⟩ := publicCommitRange_eq_ok hok
  rw [heq] at h' hg' ⊢
  dsimp only at h' hg' ⊢
  obtain ⟨hpart, hcount⟩ := commitFrom_commitsPages hargs hpages hT hD h hg
    (hin.inArena h.matched) hloop
  have ha := h.matched.arena
  have ha' := h'.matched.arena
  refine ⟨hstart, ?_, ?_, ?_, ?_, ?_, rfl, hstop, ?_⟩
  · intro v
    rw [exists_commits_iff ha', exists_commits_iff ha, hpart.pages, mem_pageRange_iff hstop]
  · intro v hv p
    exact (h'.matched.commits_iff_maps hargs hpages hv p).symm
  · rintro v p ⟨i, hlive, rfl, -, rfl⟩
    obtain ⟨hv, hp⟩ := h'.matched.commitment hlive
    exact ⟨hv, hg'.mapsData hargs hpages h' hv hp⟩
  · intro v p hp hnew
    apply hpart.zero v p ((commits_iff ha' v p).mp hp)
    by_contra hold
    obtain ⟨q, hq⟩ := (exists_commits_iff ha v).mpr hold
    exact hnew q hq
  · intro v p hp
    rw [commits_iff ha']
    exact hpart.kept v p ((commits_iff ha v p).mp hp)
  · dsimp only
    rw [countExistingFrom_eq h.matched.pages (pageDown_mod start) hgood, Nat.zero_add,
      Nat.mul_div_cancel _ (by decide), hcount, List.length_nil, Nat.zero_add]

theorem releaseWith_ok {reply : PublicReply} {result : PublicResult}
    (h : (releaseWith s r reply result).1.status = .ok ()) : reply.status = .ok () := by
  unfold releaseWith at h
  split at h
  · cases h
  · exact h

theorem abandonReservation_fails (c : Context W) (s : Space W) (r : ReservationSlot)
    (e : PublicError) (result : PublicResult) :
    (abandonReservation c s r e result).1.status ≠ .ok () := by
  intro h
  unfold abandonReservation at h
  generalize (List.finRange maxCommitments).foldl (cleanCommitment c r) s = emptied at h
  have hstatus := releaseWith_ok h
  cases hstatus

/-- A commit covers exactly the pages that the request meets. Where the call chooses the
address, the request begins at the address that it gives back. -/
theorem a_commit_covers_the_request (hT : Conforming c.tableAllocator tables data held)
    (hD : Conforming c.dataAllocator data tables held)
    (hslot : base / 2 ^ 39 = (base + length - 1) / 2 ^ 39)
    (h : PayloadReach c data currentCr3 base length generation nxEnabled s)
    (address size allocationType protection : Nat) (htype : allocationType &&& memCommit ≠ 0)
    (hok : (virtualAlloc c s address size allocationType protection).1.status = .ok ()) :
    CommitLeaves c base length nxEnabled
      (if address = 0 then (virtualAlloc c s address size allocationType protection).1.address
        else address) size s
      (virtualAlloc c s address size allocationType protection).1.result
      (virtualAlloc c s address size allocationType protection).2 := by
  rcases payloadReach_cases hT hD hslot h with ⟨hpages, hargs, hcoherent, hg⟩ | ⟨htiny, harena⟩
  · have hnull := fun htype : allocationType = memReserve ||| memCommit =>
      virtualAlloc_reserve_address (htype ▸ hok)
    have hcase := virtualAlloc_cases c s address size allocationType protection
    generalize virtualAlloc c s address size allocationType protection = answer
      at hcase hok hnull ⊢
    cases hcase with
    | refused => cases hok
    | reserved => exact absurd (by decide) htype
    | @reservedAndCommitted b r arena reply s1 result hreserve hcommit hstatus =>
      have hpublic := publicCommitRange_leaves (s := { s with arena }) hargs hpages hT hD
        (hcoherent.reserveAny hreserve) hg r b size result (by rw [hcommit]; exact hstatus)
      rw [hcommit] at hpublic
      rw [if_pos (hnull rfl)]
      -- the new reservation changes no commitment
      obtain ⟨-, -, -, -, -, -, -, rfl⟩ := reserveFixed_eq_ok (reserveAny_eq_ok hreserve)
      obtain ⟨-, hcommitted, hmapped, hallowed, hzero, hkept, hbase, hrounded, hcounts⟩ := hpublic
      exact ⟨hcommitted, hmapped, hallowed, hzero, hkept, hbase, hrounded, hcounts⟩
    | @abandoned b r arena reply s1 e result result' hreserve hcommit hstatus =>
      exact absurd hok (abandonReservation_fails c s1 r e result')
    | @committed r reply s1 result _ hcommit hstatus =>
      have hpublic := publicCommitRange_leaves hargs hpages hT hD hcoherent hg r address size
        result (by rw [hcommit]; exact hstatus)
      rw [hcommit] at hpublic
      rw [if_neg hpublic.1]
      exact hpublic.2
    | uncommitted _ _ _ hstatus =>
      rw [hstatus] at hok
      cases hok
  · obtain ⟨failure, result, heq⟩ :=
      (refuses_of_small (c := c) harena htiny).1 address size allocationType protection
    rw [heq] at hok
    cases hok

/-- Four pages are reserved, the second is committed, and the payload stores a word in it. -/
def partlyCommitted : Space Pool :=
  run (payloadStep poolContext) freshSpace
    [.call (.virtualAlloc 0 0x4000 memReserve pageReadwrite),
      .call (.virtualAlloc 0x101000 1 memCommit pageReadwrite),
      .storeWord 0x101000 3 7]

/-- A request of the size of one page that meets a new page and the old one. -/
theorem a_commit_of_the_pool_covers_the_request :
    CommitLeaves poolContext 0x100000 0x100000 true 0x100800 0x1000 partlyCommitted
      (virtualAlloc poolContext partlyCommitted 0x100800 0x1000 memCommit pageReadwrite).1.result
      (virtualAlloc poolContext partlyCommitted 0x100800 0x1000 memCommit pageReadwrite).2 ∧
    (virtualAlloc poolContext partlyCommitted 0x100800 0x1000 memCommit
      pageReadwrite).1.result.newPageCount = 1 ∧
    partlyCommitted.contents poolContext 0x11000 3 = 7 := by
  have hreach : PayloadReach poolContext (poolOut .data) 0x1000 0x100000 0x100000 1 true
      partlyCommitted :=
    .run (.start ⟨rfl, ⟨firmwareMachine, Prod.ext (by decide +kernel) rfl⟩, freshSpace_none_out⟩) _
      fun _ _ _ => trivial
  have hnew : (virtualAlloc poolContext partlyCommitted 0x100800 0x1000 memCommit
      pageReadwrite).1.result.newPageCount = 1 := by decide +kernel
  have hword : partlyCommitted.contents poolContext 0x11000 3 = 7 := by decide +kernel
  have hok : (virtualAlloc poolContext partlyCommitted 0x100800 0x1000 memCommit
      pageReadwrite).1.status = .ok () := by
    have hyes : (match (virtualAlloc poolContext partlyCommitted 0x100800 0x1000 memCommit
        pageReadwrite).1.status with
      | .ok _ => true
      | .error _ => false) = true := by decide +kernel
    generalize (virtualAlloc poolContext partlyCommitted 0x100800 0x1000 memCommit
      pageReadwrite).1.status = status at hyes
    cases status with
    | ok _ => rfl
    | error e => cases hyes
  generalize partlyCommitted = s at hreach hnew hword hok ⊢
  exact ⟨a_commit_covers_the_request (c := poolContext)
    (pool_conforming .table .data 64 (by decide) (by decide) (by decide) (by decide))
    (pool_conforming .data .table 64 (by decide) (by decide) (by decide) (by decide))
    (by decide) hreach 0x100800 0x1000 memCommit pageReadwrite (by decide) hok, hnew, hword⟩

end Gate4Harness.Vm
