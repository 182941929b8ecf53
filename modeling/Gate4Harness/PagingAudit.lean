-- The audit of the page tables that the firmware left (vm_substrate.c). It goes from page to
-- page as long as they are mapped to themselves, by steps of the size that each mapping has.
-- The invariant is that it stands at the end of a page: so the next page starts there.
import Gate4Harness.PagingEntries
import Mathlib.Order.Bounds.Basic

namespace Gate4Harness.Vm

/-! ## The audit -/

/-- The audit looks at the first 4 GiB. -/
def identityLimit : Nat := 0x100000000

/-- What `current_control_state` reads of the processor. -/
structure ControlState where
  cr0 : Nat
  cr3 : Nat
  cr4 : Nat
  efer : Nat
  deriving DecidableEq, Repr

structure X64PagingAudit where
  cr0 : Nat := 0
  cr3 : Nat := 0
  cr4 : Nat := 0
  efer : Nat := 0
  paeEnabled : Bool := false
  la57Enabled : Bool := false
  nxEnabled : Bool := false
  page4kCount : Nat := 0
  page2mCount : Nat := 0
  page1gCount : Nat := 0
  directIdentityBytes : Nat := 0
  deriving DecidableEq, Repr

/-- A page of this size is counted. -/
def X64PagingAudit.count (audit : X64PagingAudit) (size : Nat) : X64PagingAudit :=
  let audit := { audit with directIdentityBytes := audit.directIdentityBytes + size }
  if size = pageSize then { audit with page4kCount := audit.page4kCount + 1 }
  else if size = 0x200000 then { audit with page2mCount := audit.page2mCount + 1 }
  else if size = 0x40000000 then { audit with page1gCount := audit.page1gCount + 1 }
  else audit

/-- The audit with the state of the processor, before any page is counted. -/
def ControlState.audit (control : ControlState) : X64PagingAudit :=
  { cr0 := control.cr0, cr3 := control.cr3, cr4 := control.cr4, efer := control.efer
    paeEnabled := decide (control.cr4 &&& 1 <<< 5 ≠ 0)
    la57Enabled := decide (control.cr4 &&& 1 <<< 12 ≠ 0)
    nxEnabled := decide (control.efer &&& 1 <<< 11 ≠ 0) }

section Audit

variable {W : Type} (allocator : PageAllocator W) (memory : Nat → Nat → Nat)

/-- The loop of the audit. Without an answer it still runs when the fuel is out. -/
def auditFrom : (fuel address : Nat) → X64PagingAudit → Option X64PagingAudit
  | 0, _, _ => none
  | fuel + 1, address, audit =>
    if address < identityLimit then
      match queryRoot allocator memory (audit.cr3 &&& physicalMask) address with
      | .error _ => some audit
      | .ok mapping =>
        if ¬ mapping.present then some audit
        else if mapping.physicalBase ≠ address / mapping.pageSize * mapping.pageSize then
          some audit
        else
          let audit := audit.count mapping.pageSize
          match addU64 address mapping.pageSize with
          | none => some audit
          | some address => auditFrom fuel address audit
    else some audit

/-- `gxos_vm_paging_audit_current` -/
def auditCurrent (control : ControlState) (fuel : Nat) : Option X64PagingAudit :=
  auditFrom allocator memory fuel 0 control.audit

end Audit

/-! ## Pages -/

/-- A translation of addresses. -/
abbrev Translation : Type := Nat → Except PagingError Mapping

variable {W : Type} {allocator : PageAllocator W} {memory : Nat → Nat → Nat} {root a b : Nat}
  {translate : Translation} {mapping : Mapping}

def TranslatesToItself (translate : Translation) (a : Nat) : Prop :=
  ∃ mapping, translate a = .ok mapping ∧ mapping.present = true ∧ mapping.physicalBase = a

/-- A page ends here, or no page begins before. -/
def Boundary (translate : Translation) (n : Nat) : Prop :=
  n = 0 ∨ ∃ mapping, translate (n - 1) = .ok mapping ∧
    n = ((n - 1) / mapping.pageSize + 1) * mapping.pageSize

/-- The addresses below `n` are translated to themselves, and a page ends with them. -/
structure IdentityPrefix (translate : Translation) (n : Nat) : Prop where
  bounded : n ≤ identityLimit
  boundary : Boundary translate n
  direct : ∀ a < n, TranslatesToItself translate a

/-- The mapping of an address, as that of its whole page. -/
structure PageOf (translate : Translation) (a : Nat) (mapping : Mapping) : Prop where
  size : mapping.pageSize = pageSize ∨ mapping.pageSize = 0x200000 ∨
    mapping.pageSize = 0x40000000
  present : mapping.present = true
  whole : ∃ frame, frame % mapping.pageSize = 0 ∧
    ∀ b, b / mapping.pageSize = a / mapping.pageSize →
      translate b = .ok { mapping with physicalBase := frame + b % mapping.pageSize }

theorem indices_of_sameLargePage (h : a / 2 ^ 21 = b / 2 ^ 21) :
    pml4Index a = pml4Index b ∧ pdptIndex a = pdptIndex b ∧ pdIndex a = pdIndex b := by
  simp only [pml4Index_eq, pdptIndex_eq, pdIndex_eq]
  omega

theorem indices_of_sameHugePage (h : a / 2 ^ 30 = b / 2 ^ 30) :
    pml4Index a = pml4Index b ∧ pdptIndex a = pdptIndex b := by
  simp only [pml4Index_eq, pdptIndex_eq]
  omega

/-- A page is canonical as a whole. -/
theorem canonical48_of_sameHugePage (h : a / 2 ^ 30 = b / 2 ^ 30) (hb : canonical48 b = true) :
    canonical48 a = true := by
  rw [canonical48_iff] at hb ⊢
  omega

theorem canonical48_of_samePage (h : a / pageSize = b / pageSize) (hb : canonical48 b = true) :
    canonical48 a = true := by
  simp only [pageSize] at h
  exact canonical48_of_sameHugePage (by omega) hb

theorem entryAddress_aligned (entry : Nat) : entryAddress entry % pageSize = 0 := by
  rw [entryAddress_eq]
  exact Nat.mul_mod_left _ _

section Answers

variable {β : Type} {e : PagingError} {x y : Except PagingError β} {r : β} {physical : Nat}

theorem tableAlias_bind_eq_ok {f : Nat → Except PagingError β} :
    (tableAlias allocator physical >>= f) = .ok r ↔
      ∃ table, tableAlias allocator physical = .ok table ∧ f table = .ok r := by
  cases tableAlias allocator physical <;> simp [bind, Except.bind]

theorem throw_bind_eq_ok {α : Type} {f : α → Except PagingError β} :
    (throw e >>= f) = .ok r ↔ False := by
  simp [throw, throwThe, MonadExceptOf.throw, bind, Except.bind]

theorem branch_eq_ok {c : Prop} [Decidable c] :
    (if c then x else y) = .ok r ↔ c ∧ x = .ok r ∨ ¬ c ∧ y = .ok r := by
  by_cases hc : c <;> simp [hc]

end Answers

/-- A query that succeeds goes down to the table that has the page. -/
theorem queryRoot_eq_ok_iff (hroot : root ≠ 0) (hcanon : canonical48 a = true) :
    queryRoot allocator memory root a = .ok mapping ↔ ∃ pml4,
      tableAlias allocator (entryAddress root) = .ok pml4 ∧
      isPresent (memory pml4 (pml4Index a)) = true ∧
      ∃ pdpt, tableAlias allocator (entryAddress (memory pml4 (pml4Index a))) = .ok pdpt ∧
      isPresent (memory pdpt (pdptIndex a)) = true ∧
      (isLarge (memory pdpt (pdptIndex a)) = true ∧
          largeMapping (memory pdpt (pdptIndex a)) a 0x40000000 3 = mapping ∨
        ¬ isLarge (memory pdpt (pdptIndex a)) = true ∧ ∃ pd,
          tableAlias allocator (entryAddress (memory pdpt (pdptIndex a))) = .ok pd ∧
          isPresent (memory pd (pdIndex a)) = true ∧
          (isLarge (memory pd (pdIndex a)) = true ∧
              largeMapping (memory pd (pdIndex a)) a 0x200000 2 = mapping ∨
            ¬ isLarge (memory pd (pdIndex a)) = true ∧ ∃ pt,
              tableAlias allocator (entryAddress (memory pd (pdIndex a))) = .ok pt ∧
              isPresent (memory pt (ptIndex a)) = true ∧
              { physicalBase := entryAddress (memory pt (ptIndex a)) + a % pageSize
                pageSize := Vm.pageSize, entryFlags := memory pt (ptIndex a), level := 1
                present := true : Mapping } = mapping)) := by
  unfold queryRoot
  rw [if_neg hroot, if_neg (not_not_intro hcanon)]
  simp only [↓tableAlias_bind_eq_ok, ↓throw_bind_eq_ok, ↓branch_eq_ok, pure, Except.pure,
    Except.ok.injEq, and_false, false_or, not_not]
theorem queryRoot_checks (h : queryRoot allocator memory root a = .ok mapping) :
    root ≠ 0 ∧ canonical48 a = true := by
  unfold queryRoot at h
  split at h
  · cases h
  · rename_i hroot
    split at h
    · cases h
    · rename_i hcanon
      exact ⟨hroot, Decidable.not_not.mp hcanon⟩

theorem largeMapping_pageSize (entry a size level : Nat) :
    (largeMapping entry a size level).pageSize = size := rfl

/-- A large page, all of whose addresses lead to one entry. -/
theorem pageOf_largeMapping {entry size level : Nat}
    (hsize : size = 0x200000 ∨ size = 0x40000000)
    (h : ∀ b, b / size = a / size → translate b = .ok (largeMapping entry b size level)) :
    PageOf translate a (largeMapping entry a size level) :=
  { size := Or.inr hsize
    present := rfl
    whole := ⟨entryAddress entry / size * size, Nat.mul_mod_left _ _, h⟩ }

/-- What a query answers for an address holds of the whole page of the address. -/
theorem queryRoot_pageOf (h : queryRoot allocator memory root a = .ok mapping) :
    PageOf (queryRoot allocator memory root) a mapping := by
  obtain ⟨hroot, hcanon⟩ := queryRoot_checks h
  obtain ⟨pml4, htop, hpresent, pdpt, hnext, hpresent', hrest⟩ :=
    (queryRoot_eq_ok_iff hroot hcanon).mp h
  obtain ⟨hlarge, rfl⟩ | ⟨hsmall, pd, hpd, hpresent'', hrest⟩ := hrest
  · refine pageOf_largeMapping (Or.inr rfl) fun b hb => ?_
    obtain ⟨h4, h3⟩ := indices_of_sameHugePage hb
    rw [queryRoot_eq_ok_iff hroot (canonical48_of_sameHugePage hb hcanon), h4, h3]
    exact ⟨pml4, htop, hpresent, pdpt, hnext, hpresent', Or.inl ⟨hlarge, rfl⟩⟩
  · obtain ⟨hlarge, rfl⟩ | ⟨hsmall', pt, hpt, hpresent''', rfl⟩ := hrest
    · refine pageOf_largeMapping (Or.inl rfl) fun b hb => ?_
      obtain ⟨h4, h3, h2⟩ := indices_of_sameLargePage hb
      rw [queryRoot_eq_ok_iff hroot (canonical48_of_sameHugePage (by omega) hcanon), h4, h3, h2]
      exact ⟨pml4, htop, hpresent, pdpt, hnext, hpresent',
        Or.inr ⟨hsmall, pd, hpd, hpresent'', Or.inl ⟨hlarge, rfl⟩⟩⟩
    · refine ⟨Or.inl rfl, rfl, entryAddress (memory pt (ptIndex a)), entryAddress_aligned _,
        fun b hb => ?_⟩
      obtain ⟨h4, h3, h2, h1⟩ := indices_of_samePage hb
      rw [queryRoot_eq_ok_iff hroot (canonical48_of_samePage hb hcanon), h4, h3, h2, h1]
      exact ⟨pml4, htop, hpresent, pdpt, hnext, hpresent',
        Or.inr ⟨hsmall, pd, hpd, hpresent'', Or.inr ⟨hsmall', pt, hpt, hpresent''', rfl⟩⟩⟩

/-! ## The invariant of the loop -/

/-- Every mapping is that of a whole page. -/
def Paged (translate : Translation) : Prop :=
  ∀ a mapping, translate a = .ok mapping → PageOf translate a mapping

/-- Where one page ends the next page starts. Otherwise the address before would lie in the
same page, which then would not end there. -/
theorem Boundary.aligned (hpaged : Paged translate) (hb : Boundary translate a)
    (h : translate a = .ok mapping) : a % mapping.pageSize = 0 := by
  obtain rfl | ⟨before, hbefore, hend⟩ := hb
  · exact Nat.zero_mod _
  · by_contra hne
    obtain ⟨frame, -, hwhole⟩ := (hpaged a mapping h).whole
    have hsame : (a - 1) / mapping.pageSize = a / mapping.pageSize := by
      have hpos : 0 < a % mapping.pageSize := Nat.pos_of_ne_zero hne
      have hdiv := Nat.div_add_mod a mapping.pageSize
      have hlt : a % mapping.pageSize < mapping.pageSize := by
        apply Nat.mod_lt
        rcases (hpaged a mapping h).size with hs | hs | hs <;> rw [hs] <;> decide
      apply Nat.div_eq_of_lt_le
      · rw [Nat.mul_comm]
        omega
      · rw [Nat.succ_mul, Nat.mul_comm]
        omega
    have hmapping := hwhole (a - 1) hsame
    rw [hbefore, Except.ok.injEq] at hmapping
    have hsize : before.pageSize = mapping.pageSize := by rw [hmapping]
    rw [hsize] at hend
    exact hne (by rw [hend]; exact Nat.mul_mod_left _ _)

/-- At the start of a page, the whole page is mapped to itself with its first address. -/
theorem PageOf.direct (hp : PageOf translate a mapping) (h : translate a = .ok mapping)
    (haligned : a % mapping.pageSize = 0) (hbase : mapping.physicalBase = a)
    (hle : a ≤ b) (hlt : b < a + mapping.pageSize) : TranslatesToItself translate b := by
  obtain ⟨frame, -, hwhole⟩ := hp.whole
  have hfirst := hwhole a rfl
  rw [h, Except.ok.injEq] at hfirst
  have hframe : a = frame + a % mapping.pageSize :=
    hbase.symm.trans (congrArg Mapping.physicalBase hfirst)
  rw [haligned, Nat.add_zero] at hframe
  obtain ⟨offset, rfl⟩ := Nat.exists_eq_add_of_le hle
  have hoffset : (a + offset) % mapping.pageSize = offset := by
    rw [Nat.add_mod, haligned, Nat.zero_add, Nat.mod_mod, Nat.mod_eq_of_lt (by omega)]
  have hsame : (a + offset) / mapping.pageSize = a / mapping.pageSize := by
    obtain ⟨k, hk⟩ := Nat.dvd_of_mod_eq_zero haligned
    have hpos : 0 < mapping.pageSize := by omega
    rw [hk, Nat.mul_add_div hpos, Nat.mul_div_cancel_left _ hpos, Nat.div_eq_of_lt (by omega),
      Nat.add_zero]
  refine ⟨_, hwhole _ hsame, hp.present, ?_⟩
  dsimp only
  rw [hoffset, ← hframe]

/-- The end of a page at which a page before starts. -/
theorem PageOf.boundary (hp : PageOf translate a mapping) (haligned : a % mapping.pageSize = 0) :
    Boundary translate (a + mapping.pageSize) := by
  obtain ⟨frame, -, hwhole⟩ := hp.whole
  obtain ⟨k, hk⟩ := Nat.dvd_of_mod_eq_zero haligned
  have hpos : 0 < mapping.pageSize := by
    rcases hp.size with hs | hs | hs <;> rw [hs] <;> decide
  have hlast : (a + mapping.pageSize - 1) / mapping.pageSize = k := by
    rw [hk, Nat.add_sub_assoc hpos, Nat.mul_add_div hpos, Nat.div_eq_of_lt (by omega), Nat.add_zero]
  have hfirst : a / mapping.pageSize = k := by rw [hk, Nat.mul_div_cancel_left _ hpos]
  refine Or.inr ⟨_, hwhole _ (hlast.trans hfirst.symm), ?_⟩
  dsimp only
  rw [hlast, Nat.succ_mul, Nat.mul_comm, ← hk]

/-- What the audit has counted when it stands at an address. -/
structure Audited (translate : Translation) (cr3 : Nat) (audit : X64PagingAudit) (address : Nat) :
    Prop where
  root : audit.cr3 = cr3
  identity : IdentityPrefix translate address
  bytes : audit.directIdentityBytes = address
  counts : pageSize * audit.page4kCount + 0x200000 * audit.page2mCount +
    0x40000000 * audit.page1gCount = address

theorem identityPrefix_zero (translate : Translation) : IdentityPrefix translate 0 :=
  { bounded := Nat.zero_le _
    boundary := Or.inl rfl
    direct := fun a ha => absurd ha (Nat.not_lt_zero a) }

theorem IdentityPrefix.next (hpaged : Paged translate) (hi : IdentityPrefix translate a)
    (hlimit : a < identityLimit) (h : translate a = .ok mapping)
    (hbase : mapping.physicalBase = a) : IdentityPrefix translate (a + mapping.pageSize) := by
  have hp := hpaged a mapping h
  have haligned := hi.boundary.aligned hpaged h
  refine ⟨?_, hp.boundary haligned, fun b hb => ?_⟩
  · -- the limit is a multiple of every size
    have hsize : mapping.pageSize = 0x1000 ∨ mapping.pageSize = 0x200000 ∨
      mapping.pageSize = 0x40000000 := hp.size
    unfold identityLimit at hlimit ⊢
    rcases hsize with hs | hs | hs <;> rw [hs] at haligned ⊢ <;> omega
  · by_cases hold : b < a
    · exact hi.direct b hold
    · exact hp.direct h haligned hbase (by omega) hb

theorem count_of_size (audit : X64PagingAudit) {size : Nat}
    (hsize : size = pageSize ∨ size = 0x200000 ∨ size = 0x40000000) :
    (audit.count size).cr3 = audit.cr3 ∧
    (audit.count size).directIdentityBytes = audit.directIdentityBytes + size ∧
    pageSize * (audit.count size).page4kCount + 0x200000 * (audit.count size).page2mCount +
      0x40000000 * (audit.count size).page1gCount =
    pageSize * audit.page4kCount + 0x200000 * audit.page2mCount +
      0x40000000 * audit.page1gCount + size := by
  have hpage : pageSize = 0x1000 := rfl
  rcases hsize with rfl | rfl | rfl
  · refine ⟨rfl, rfl, ?_⟩
    simp only [X64PagingAudit.count, if_true, Nat.mul_succ]
    omega
  · refine ⟨rfl, rfl, ?_⟩
    simp only [X64PagingAudit.count, hpage, if_true, if_neg (by decide : ¬ 0x200000 = 0x1000)]
    omega
  · refine ⟨rfl, rfl, ?_⟩
    simp only [X64PagingAudit.count, hpage, if_true, if_neg (by decide : ¬ 0x40000000 = 0x1000),
      if_neg (by decide : ¬ 0x40000000 = 0x200000)]
    omega

theorem Audited.next {cr3 : Nat} {audit : X64PagingAudit} (hpaged : Paged translate)
    (ha : Audited translate cr3 audit a) (hlimit : a < identityLimit)
    (h : translate a = .ok mapping) (hbase : mapping.physicalBase = a) :
    Audited translate cr3 (audit.count mapping.pageSize) (a + mapping.pageSize) := by
  obtain ⟨hroot, hbytes, hcounts⟩ := count_of_size audit (hpaged a mapping h).size
  exact
    { root := hroot.trans ha.root
      identity := ha.identity.next hpaged hlimit h hbase
      bytes := by rw [hbytes, ha.bytes]
      counts := by rw [hcounts, ha.counts] }

/-- The audit ends, and where it ends nothing more is mapped to itself. -/
theorem auditFrom_ends (allocator : PageAllocator W) (memory : Nat → Nat → Nat) {cr3 : Nat}
    {audit : X64PagingAudit}
    (ha : Audited (queryRoot allocator memory (cr3 &&& physicalMask)) cr3 audit a) {fuel : Nat}
    (hfuel : identityLimit < a + pageSize * fuel) :
    ∃ audit' n, auditFrom allocator memory fuel a audit = some audit' ∧
      Audited (queryRoot allocator memory (cr3 &&& physicalMask)) cr3 audit' n ∧
      (n = identityLimit ∨
        ¬ TranslatesToItself (queryRoot allocator memory (cr3 &&& physicalMask)) n) := by
  have hpaged : Paged (queryRoot allocator memory (cr3 &&& physicalMask)) :=
    fun _ _ => queryRoot_pageOf
  have hbound := ha.identity.bounded
  induction fuel generalizing a audit with
  | zero => omega
  | succ fuel ih =>
    rw [auditFrom]
    by_cases hlimit : a < identityLimit
    · rw [if_pos hlimit, ha.root]
      cases hquery : queryRoot allocator memory (cr3 &&& physicalMask) a with
      | error e =>
        refine ⟨audit, a, rfl, ha, Or.inr ?_⟩
        rintro ⟨mapping, hok, -⟩
        rw [hquery] at hok
        cases hok
      | ok mapping =>
        dsimp only
        have hp := hpaged a mapping hquery
        have haligned := ha.identity.boundary.aligned hpaged hquery
        have hstart : a / mapping.pageSize * mapping.pageSize = a :=
          Nat.div_mul_cancel (Nat.dvd_of_mod_eq_zero haligned)
        rw [if_neg (not_not_intro hp.present), hstart]
        by_cases hbase : mapping.physicalBase = a
        · have hnext := ha.next hpaged hlimit hquery hbase
          have hsize : pageSize ≤ mapping.pageSize := by
            rcases hp.size with hs | hs | hs <;> rw [hs] <;> decide
          have hroom := hnext.identity.bounded
          have hsum : addU64 a mapping.pageSize = some (a + mapping.pageSize) := by
            refine if_neg ?_
            simp only [identityLimit, uint64Max] at *
            omega
          rw [if_neg (not_not_intro hbase), hsum]
          refine ih hnext ?_ hroom
          rw [Nat.mul_succ] at hfuel
          omega
        · rw [if_pos hbase]
          refine ⟨audit, a, rfl, ha, Or.inr ?_⟩
          rintro ⟨mapping', hok, -, hself⟩
          rw [hquery, Except.ok.injEq] at hok
          exact hbase (by rw [hok]; exact hself)
    · rw [if_neg hlimit]
      exact ⟨audit, a, rfl, ha, Or.inl (by omega)⟩

/-- The audit of the page tables ends for every content of theirs. The bytes that it gives are
the largest prefix of the first 4 GiB that ends with a page and is mapped to itself, and its
pages add up to them. -/
theorem audit_measures_the_identity_prefix (allocator : PageAllocator W)
    (memory : Nat → Nat → Nat) (control : ControlState) {fuel : Nat}
    (hfuel : identityLimit < pageSize * fuel) :
    ∃ audit, auditCurrent allocator memory control fuel = some audit ∧
      IsGreatest {n | IdentityPrefix
        (queryRoot allocator memory (control.cr3 &&& physicalMask)) n}
        audit.directIdentityBytes ∧
      audit.directIdentityBytes = 0x1000 * audit.page4kCount + 0x200000 * audit.page2mCount +
        0x40000000 * audit.page1gCount := by
  have hstart : Audited (queryRoot allocator memory (control.cr3 &&& physicalMask)) control.cr3
      control.audit 0 :=
    { root := rfl, identity := identityPrefix_zero _, bytes := rfl, counts := rfl }
  have hroom : identityLimit < 0 + pageSize * fuel := by omega
  obtain ⟨audit, n, hend, ha, hstop⟩ := auditFrom_ends allocator memory hstart hroom
  refine ⟨audit, hend, ?_, ?_⟩
  · rw [ha.bytes]
    refine ⟨ha.identity, fun n' hn' => ?_⟩
    rcases hstop with rfl | hstop
    · exact hn'.bounded
    · by_contra hmore
      exact hstop (hn'.direct n (by omega))
  · rw [ha.bytes, ← ha.counts]
    rfl

/-- The tables are where their addresses say. -/
def flatTables : PageAllocator Unit where
  allocatePage := fun w => (none, w)
  freePage := fun _ _ w => w
  physicalAlias := fun physical => physical

/-- A page of 1 GiB with an attribute in bit 12, then one of 2 MiB, and then nothing. -/
def mixedTables : Nat → Nat → Nat
  | 0x1000, 0 => 0x2003
  | 0x2000, 0 => 0x1083
  | 0x2000, 1 => 0x3003
  | 0x3000, 0 => 0x40000083
  | _, _ => 0

theorem audit_of_mixed_pages :
    ∃ audit, auditCurrent flatTables mixedTables ⟨0, 0x1000, 0x20, 0x800⟩ 0x100001 = some audit ∧
      IsGreatest {n | IdentityPrefix (queryRoot flatTables mixedTables (0x1000 &&& physicalMask)) n}
        audit.directIdentityBytes ∧
      audit.directIdentityBytes = 0x40200000 := by
  have hfuel : identityLimit < pageSize * 0x100001 := by decide
  obtain ⟨audit, hend, hgreatest, -⟩ := audit_measures_the_identity_prefix flatTables mixedTables
    ⟨0, 0x1000, 0x20, 0x800⟩ hfuel
  have heval : (auditCurrent flatTables mixedTables ⟨0, 0x1000, 0x20, 0x800⟩ 0x100001).map
      X64PagingAudit.directIdentityBytes = some 0x40200000 := by decide +kernel
  rw [hend] at heval
  exact ⟨audit, hend, hgreatest, Option.some.inj heval⟩

end Gate4Harness.Vm
