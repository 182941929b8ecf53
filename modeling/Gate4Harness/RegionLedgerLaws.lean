-- The laws of the region ledger. It keeps ranges that do not meet, so an address has at
-- most one answer, and the identities count up, so no two registrations share one.
import Gate4Harness.RegionLedger

namespace Gate4Harness.Vm

open Tables

variable {l : RegionLedger} {r : RegionAttributes} {i j : RegionSlot} {x : Region}

/-! ## The invariant -/

def Region.one : Region → Nat := weighed Region.live fun _ => 1

def Region.ApartFrom (x y : Region) : Prop :=
  x.live = true → y.live = true → Apart x.base x.bytes y.base y.bytes

theorem Region.ApartFrom.symm {x y : Region} (h : x.ApartFrom y) : y.ApartFrom x :=
  fun hy hx => (h hx hy).symm

structure RegionInv (l : RegionLedger) : Prop where
  sound : ∀ i, (l.entries i).live = true → (l.entries i).sound = true
  apart : Pairwise fun i j => (l.entries i).ApartFrom (l.entries j)
  liveCount : l.liveCount = total Region.one l.entries

theorem regionLedgerInit_inv : RegionInv regionLedgerInit := by
  refine ⟨fun i hi => ?_, fun i j _ hi => ?_, ?_⟩
  · cases hi
  · cases hi
  · exact (total_eq_zero_iff.mpr fun _ => rfl).symm

/-- A range that is accepted is not empty and does not overflow. -/
theorem RegionAttributes.accepted_range (h : r.accepted = true) :
    r.base ≠ 0 ∧ r.bytes ≠ 0 ∧ r.base + r.bytes ≤ uint64Max := by
  unfold RegionAttributes.accepted at h
  simp only [Bool.and_eq_true, decide_eq_true_eq, Option.isSome_iff_exists] at h
  obtain ⟨⟨⟨⟨⟨⟨⟨⟨⟨hbase, -⟩, hbytes⟩, -⟩, -⟩, -⟩, e, he⟩, -⟩, -⟩, -⟩ := h
  unfold rangeEnd at he
  split at he
  · cases he
  · exact ⟨hbase, hbytes, by omega⟩

theorem RegionInv.range (h : RegionInv l) (hi : (l.entries i).live = true) :
    (l.entries i).base ≠ 0 ∧ (l.entries i).bytes ≠ 0 ∧
    (l.entries i).base + (l.entries i).bytes ≤ uint64Max := by
  have := h.sound i hi
  unfold Region.sound at this
  simp only [Bool.and_eq_true] at this
  exact RegionAttributes.accepted_range this.1

theorem RegionInv.liveCount_pos (h : RegionInv l) (hi : (l.entries i).live = true) :
    l.liveCount ≠ 0 := by
  have := le_total_live (fun _ => 1) hi
  rw [h.liveCount]
  exact Nat.ne_of_gt this

theorem RegionInv.liveCount_le (h : RegionInv l) : l.liveCount ≤ regionLedgerCapacity := by
  rw [h.liveCount]
  exact total_live_le Region.live l.entries

/-! ## What a call does -/

/-- A new region in a free slot. -/
def withRegion (l : RegionLedger) (i : RegionSlot) (r : RegionAttributes) : RegionLedger :=
  { l with
    entries := Function.update l.entries i
      { r with live := true, allocationIdentity := l.nextIdentity }
    liveCount := l.liveCount + 1
    nextIdentity := (l.nextIdentity + 1) % 2 ^ 64 }

def withoutRegion (l : RegionLedger) (i : RegionSlot) : RegionLedger :=
  { l with entries := Function.update l.entries i {}, liveCount := l.liveCount - 1 }

/-- The answer of a call that fails: nothing is new but the mark that the ledger was full. -/
def RegionAnswer.Refuses (answer : RegionAnswer) (l : RegionLedger) : Prop :=
  answer.status ≠ none ∧ answer.identity = 0 ∧
  answer.ledger = { l with exhausted := answer.ledger.exhausted }

/-- A range that no entry keeps out. -/
theorem regionObstacle_eq_none {r : RegionAttributes} {existing : Region}
    (h : regionObstacle r existing = none) (hlive : existing.live = true) :
    Apart r.base r.bytes existing.base existing.bytes := by
  unfold regionObstacle at h
  rw [if_neg (not_not.mpr hlive)] at h
  split at h
  · cases h
  · rename_i e he
    obtain ⟨-, rfl⟩ := rangeEnd_eq_some he
    split at h
    · cases h
    · rename_i hno
      unfold Apart
      omega

theorem regionRegister_cases (hnext : l.nextIdentity ≠ 0) (r : RegionAttributes)
    (hasOutput : Bool) :
    (regionRegister l r hasOutput).Refuses l ∨
    ∃ i, r.accepted = true ∧ (l.entries i).live = false ∧
      (∀ j, (l.entries j).live = true →
        Apart r.base r.bytes (l.entries j).base (l.entries j).bytes) ∧
      regionRegister l r hasOutput =
        { identity := l.nextIdentity, ledger := withRegion l i r } := by
  unfold regionRegister
  split
  · exact .inl ⟨nofun, rfl, rfl⟩
  · rename_i hargs
    simp only [not_or, Decidable.not_not] at hargs
    split
    · exact .inl ⟨nofun, rfl, rfl⟩
    · rename_i hfree
      split
      · exact .inl ⟨nofun, rfl, rfl⟩
      · dsimp only
        split
        · exact .inl ⟨nofun, rfl, rfl⟩
        · rename_i htake
          simp [takeIdentity, hnext] at htake
        · rename_i i identity after hslot htake
          simp only [takeIdentity, hnext, if_false, Prod.mk.injEq, Option.some.injEq] at htake
          obtain ⟨rfl, rfl⟩ := htake
          refine .inr ⟨i, hargs.2, by simpa using List.find?_some hslot, ?_, rfl⟩
          intro j hj
          have hnone := List.findSome?_eq_none_iff.mp hfree j (List.mem_finRange j)
          exact regionObstacle_eq_none hnone hj

theorem regionUnregister_cases (h : RegionInv l) (base bytes identity : Nat) :
    (regionUnregister l base bytes identity).Refuses l ∨
    ∃ i, (l.entries i).live = true ∧ (l.entries i).base = base ∧ (l.entries i).bytes = bytes ∧
      (l.entries i).allocationIdentity = identity ∧
      regionUnregister l base bytes identity = { ledger := withoutRegion l i } := by
  unfold regionUnregister
  split
  · exact .inl ⟨nofun, rfl, rfl⟩
  · split
    · exact .inl ⟨nofun, rfl, rfl⟩
    · rename_i i hfound
      have hfound := List.find?_some hfound
      simp only [Bool.and_eq_true, decide_eq_true_eq] at hfound
      obtain ⟨⟨⟨hlive, hbase⟩, hbytes⟩, hidentity⟩ := hfound
      rw [if_neg (h.liveCount_pos hlive)]
      exact .inr ⟨i, hlive, hbase, hbytes, hidentity, rfl⟩

theorem withRegion_inv (h : RegionInv l) (hnext : l.nextIdentity ≠ 0) (hr : r.accepted = true)
    (hi : (l.entries i).live = false)
    (hout : ∀ j, (l.entries j).live = true →
      Apart r.base r.bytes (l.entries j).base (l.entries j).bytes) :
    RegionInv (withRegion l i r) := by
  refine ⟨?_, ?_, ?_⟩
  · apply forall_update (P := fun x : Region => x.live = true → x.sound = true) h.sound
    intro _
    simp [Region.sound, hr, hnext]
  · apply pairwise_update (R := Region.ApartFrom) (fun _ _ => Region.ApartFrom.symm) h.apart
    intro j _ _ hj
    exact hout j hj
  · have := total_fill (x := { r with live := true, allocationIdentity := l.nextIdentity })
      (fun _ => 1) hi rfl
    change l.liveCount + 1 = _
    rw [h.liveCount]
    exact this.symm

theorem withoutRegion_inv (h : RegionInv l) (hi : (l.entries i).live = true) :
    RegionInv (withoutRegion l i) := by
  refine ⟨?_, ?_, ?_⟩
  · exact forall_update (P := fun x : Region => x.live = true → x.sound = true) h.sound nofun
  · apply pairwise_update (R := Region.ApartFrom) (fun _ _ => Region.ApartFrom.symm) h.apart
    intro j _ hno
    cases hno
  · have := total_clear (x := ({} : Region)) (fun _ => 1) hi rfl
    change l.liveCount - 1 = _
    rw [h.liveCount]
    exact Nat.sub_eq_of_eq_add this.symm

/-! ## The ledger is valid -/

theorem scanRegion_goes_on (h : RegionInv l) (done : List RegionSlot) (i : RegionSlot)
    (rest : List RegionSlot) (count : Nat)
    (_ : List.finRange regionLedgerCapacity = done ++ i :: rest)
    (hcount : count = totalOver Region.one l.entries done) :
    ∃ count', scanRegion l (some count) i = some count' ∧
      count' = totalOver Region.one l.entries (done ++ [i]) := by
  unfold scanRegion
  rw [totalOver_append, ← hcount]
  by_cases hi : (l.entries i).live = true
  · have hothers : (List.finRange regionLedgerCapacity).any (fun j =>
        decide (i < j) && (l.entries j).live && rangesOverlap (l.entries i).base
          (l.entries i).bytes (l.entries j).base (l.entries j).bytes) = false := by
      rw [List.any_eq_false]
      intro j _
      by_cases hj : i < j ∧ (l.entries j).live = true
      · obtain ⟨-, hb, hf⟩ := h.range hi
        obtain ⟨-, hb', hf'⟩ := h.range hj.2
        have := (h.apart (ne_of_lt hj.1) hi hj.2).rangesOverlap hb hb' hf hf'
        simp [this]
      · simp only [Bool.and_eq_true, decide_eq_true_eq]
        rintro ⟨hj', _⟩
        exact hj hj'
    refine ⟨count + 1, ?_, ?_⟩
    · simp [hi, h.sound i hi, hothers]
    · rw [Region.one, weighed_live hi]
  · refine ⟨count, by simp [hi], ?_⟩
    rw [Region.one, weighed_dead (by simpa using hi), Nat.add_zero]

theorem RegionInv.validate (h : RegionInv l) (hnext : l.nextIdentity ≠ 0) :
    regionLedgerValidate l = true := by
  obtain ⟨count, hscan, hcount⟩ : ∃ count,
      (List.finRange regionLedgerCapacity).foldl (scanRegion l) (some 0) = some count ∧
      count = totalOver Region.one l.entries (List.finRange regionLedgerCapacity) :=
    foldl_goes_on (P := fun done count => count = totalOver Region.one l.entries done) rfl
      (scanRegion_goes_on h)
  rw [totalOver_all, ← h.liveCount] at hcount
  unfold regionLedgerValidate
  have hle := h.liveCount_le
  rw [if_neg (by omega), hscan]
  simp [hcount]

/-! ## Queries -/

theorem RegionInv.contains_iff (h : RegionInv l) (i : RegionSlot) (address : Nat) :
    vmRegionContains (l.entries i) address = true ↔ (l.entries i).live = true ∧
      (l.entries i).base ≤ address ∧ address < (l.entries i).base + (l.entries i).bytes := by
  unfold vmRegionContains
  by_cases hi : (l.entries i).live = true
  · obtain ⟨-, hbytes, hfits⟩ := h.range hi
    simp [hi, rangeEnd_eq hbytes hfits]
  · simp [hi]

/-- A query finds the one live region that has the address. -/
theorem RegionInv.query_iff (h : RegionInv l) {address length : Nat}
    {information : MemoryBasicInformation} :
    regionVirtualQuery l address length = some information ↔
      memoryBasicInformationSize ≤ length ∧ ∃ i, (l.entries i).live = true ∧
        (l.entries i).base ≤ address ∧ address < (l.entries i).base + (l.entries i).bytes ∧
        information = (l.entries i).toRegionAttributes.information := by
  unfold regionVirtualQuery
  constructor
  · intro hquery
    split at hquery
    · cases hquery
    · rename_i hlength
      split at hquery
      · cases hquery
      · rename_i i hfound
        have hhas := List.find?_some hfound
        obtain ⟨hi, hlow, hhigh⟩ := (h.contains_iff i address).mp hhas
        cases hquery
        exact ⟨Nat.le_of_not_lt hlength, i, hi, hlow, hhigh, rfl⟩
  · rintro ⟨hlength, i, hi, hlow, hhigh, rfl⟩
    rw [if_neg (Nat.not_lt.mpr hlength)]
    have hhas := (h.contains_iff i address).mpr ⟨hi, hlow, hhigh⟩
    split
    · rename_i hnone
      exact absurd hhas (List.find?_eq_none.mp hnone i (List.mem_finRange i))
    · rename_i j hfound
      have hhas' := List.find?_some hfound
      obtain ⟨hj, hlow', hhigh'⟩ := (h.contains_iff j address).mp hhas'
      have hij : j = i := by
        by_contra hne
        have := h.apart hne hj hi
        unfold Apart at this
        omega
      rw [hij]

/-! ## Runs -/

inductive RegionOp
  | register (r : RegionAttributes) (hasOutput : Bool)
  | unregister (base bytes allocationIdentity : Nat)
  deriving DecidableEq, Repr

def regionCall (l : RegionLedger) : RegionOp → RegionAnswer
  | .register r hasOutput => regionRegister l r hasOutput
  | .unregister base bytes allocationIdentity =>
    regionUnregister l base bytes allocationIdentity

def regionStep (l : RegionLedger) (op : RegionOp) : RegionLedger := (regionCall l op).ledger

/-- What the callers know: every identity that they got, and the ranges that they registered
and did not unregister yet. -/
structure RegionHistory where
  handedOut : List Nat := []
  current : List (Nat × RegionAttributes) := []
  deriving DecidableEq, Repr

def regionNote (l : RegionLedger) (op : RegionOp) (n : RegionHistory) : RegionHistory :=
  match (regionCall l op).status, op with
  | some _, _ => n
  | none, .register r _ =>
    { handedOut := (regionCall l op).identity :: n.handedOut
      current := ((regionCall l op).identity, r) :: n.current }
  | none, .unregister base bytes allocationIdentity =>
    { n with
      current := n.current.filter fun p =>
        !decide (p.1 = allocationIdentity ∧ p.2.base = base ∧ p.2.bytes = bytes) }

/-- The ledger that the callers' history tells of. -/
structure Tells (l : RegionLedger) (n : RegionHistory) : Prop where
  inv : RegionInv l
  next : l.nextIdentity = n.handedOut.length + 1
  below : ∀ identity ∈ n.handedOut, identity < l.nextIdentity
  nodup : n.handedOut.Nodup
  current : ∀ p, p ∈ n.current ↔ ∃ i, (l.entries i).live = true ∧
    p = ((l.entries i).allocationIdentity, (l.entries i).toRegionAttributes)

theorem Tells.init : Tells regionLedgerInit {} := by
  refine ⟨regionLedgerInit_inv, rfl, nofun, List.nodup_nil, fun p => ?_⟩
  constructor
  · intro hp
    cases hp
  · rintro ⟨i, hi, -⟩
    cases hi

theorem Tells.refused {n : RegionHistory} {l' : RegionLedger} {mark : Bool} (h : Tells l n)
    (hl : l' = { l with exhausted := mark }) : Tells l' n := by
  subst hl
  exact ⟨⟨h.inv.sound, h.inv.apart, h.inv.liveCount⟩, h.next, h.below, h.nodup, h.current⟩

theorem Tells.register {n : RegionHistory} (h : Tells l n) (hr : r.accepted = true)
    (hi : (l.entries i).live = false)
    (hout : ∀ j, (l.entries j).live = true →
      Apart r.base r.bytes (l.entries j).base (l.entries j).bytes)
    (hroom : n.handedOut.length + 1 < 2 ^ 64 - 1) :
    Tells (withRegion l i r)
      { handedOut := l.nextIdentity :: n.handedOut
        current := (l.nextIdentity, r) :: n.current } := by
  have hnext := h.next
  have hcount : (withRegion l i r).nextIdentity = l.nextIdentity + 1 :=
    Nat.mod_eq_of_lt (by omega)
  refine ⟨withRegion_inv h.inv (by omega) hr hi hout, ?_, ?_, ?_, fun p => ?_⟩
  · rw [hcount, hnext]
    rfl
  · intro identity hin
    rw [hcount]
    rcases List.mem_cons.mp hin with rfl | hin
    · omega
    · have := h.below identity hin
      omega
  · refine List.nodup_cons.mpr ⟨fun hin => ?_, h.nodup⟩
    exact absurd (h.below _ hin) (Nat.lt_irrefl _)
  · rw [List.mem_cons, h.current]
    constructor
    · rintro (rfl | ⟨j, hj, rfl⟩)
      · exact ⟨i, by simp [withRegion], by simp [withRegion]⟩
      · have hji : j ≠ i := by
          rintro rfl
          rw [hi] at hj
          cases hj
        exact ⟨j, by simpa [withRegion, hji] using hj, by simp [withRegion, hji]⟩
    · rintro ⟨j, hj, rfl⟩
      by_cases hji : j = i
      · subst hji
        left
        simp [withRegion]
      · right
        exact ⟨j, by simpa [withRegion, hji] using hj, by simp [withRegion, hji]⟩

theorem Tells.unregister {n : RegionHistory} (h : Tells l n) (hi : (l.entries i).live = true) :
    Tells (withoutRegion l i)
      { n with
        current := n.current.filter fun p =>
          !decide (p.1 = (l.entries i).allocationIdentity ∧ p.2.base = (l.entries i).base ∧
            p.2.bytes = (l.entries i).bytes) } := by
  refine ⟨withoutRegion_inv h.inv hi, h.next, h.below, h.nodup, fun p => ?_⟩
  rw [List.mem_filter, h.current]
  constructor
  · rintro ⟨⟨j, hj, rfl⟩, hkept⟩
    have hji : j ≠ i := by
      rintro rfl
      simp at hkept
    exact ⟨j, by simpa [withoutRegion, hji] using hj, by simp [withoutRegion, hji]⟩
  · rintro ⟨j, hj, rfl⟩
    by_cases hji : j = i
    · subst hji
      simp [withoutRegion] at hj
    · simp only [withoutRegion, Function.update_of_ne hji] at hj ⊢
      refine ⟨⟨j, hj, rfl⟩, ?_⟩
      -- two live regions with one base would meet
      have hapart := h.inv.apart hji hj hi
      have hbytes := (h.inv.range hj).2.1
      have hbytes' := (h.inv.range hi).2.1
      have : (l.entries j).base ≠ (l.entries i).base := by
        unfold Apart at hapart
        omega
      simp [this]

theorem regionCall_refuses_or_succeeds (h : RegionInv l) (hnext : l.nextIdentity ≠ 0)
    (op : RegionOp) : (regionCall l op).Refuses l ∨ (regionCall l op).status = none := by
  cases op with
  | register r hasOutput =>
    rcases regionRegister_cases hnext r hasOutput with hno | ⟨i, -, -, -, hyes⟩
    · exact .inl hno
    · right
      simp only [regionCall, hyes]
  | unregister base bytes identity =>
    rcases regionUnregister_cases h base bytes identity with hno | ⟨i, -, -, -, -, hyes⟩
    · exact .inl hno
    · right
      simp only [regionCall, hyes]

theorem Tells.step {n : RegionHistory} (h : Tells l n) (op : RegionOp)
    (hroom : (regionNote l op n).handedOut.length < 2 ^ 64 - 1) :
    Tells (regionStep l op) (regionNote l op n) := by
  have hnext : l.nextIdentity ≠ 0 := by
    rw [h.next]
    omega
  have hrefuses : (regionCall l op).Refuses l → Tells (regionStep l op) (regionNote l op n) := by
    rintro ⟨hstatus, -, hledger⟩
    obtain ⟨e, he⟩ := Option.ne_none_iff_exists'.mp hstatus
    have hnote : regionNote l op n = n := by simp [regionNote, he]
    rw [hnote]
    exact h.refused hledger
  cases op with
  | register r hasOutput =>
    rcases regionRegister_cases hnext r hasOutput with hno | ⟨i, hr, hi, hout, hyes⟩
    · exact hrefuses hno
    · simp only [regionNote, regionStep, regionCall, hyes] at hroom ⊢
      exact h.register hr hi hout hroom
  | unregister base bytes identity =>
    rcases regionUnregister_cases h.inv base bytes identity with
      hno | ⟨i, hi, rfl, rfl, rfl, hyes⟩
    · exact hrefuses hno
    · simp only [regionNote, regionStep, regionCall, hyes]
      exact h.unregister hi

/-- The list of identities never gets shorter. -/
theorem regionNote_handedOut (l : RegionLedger) (op : RegionOp) (n : RegionHistory) :
    n.handedOut.length ≤ (regionNote l op n).handedOut.length := by
  unfold regionNote
  split <;> simp

/-- The ledgers that a run of calls reaches, each with what the callers know. -/
def RegionReach (l : RegionLedger) (n : RegionHistory) : Prop :=
  Runs.ReachNoting (· = regionLedgerInit) regionStep (fun _ _ => True) (fun _ => {}) regionNote l n

/-- After any run of fewer than `2 ^ 64 - 1` registrations the ledger is valid, no identity was
handed out twice, a call that fails changes nothing but the mark that the ledger was full, and
a query finds an address exactly in the ranges that are registered, with their attributes. -/
theorem queries_tell_the_registered_ranges {n : RegionHistory} (h : RegionReach l n)
    (hcount : n.handedOut.length < 2 ^ 64 - 1) :
    regionLedgerValidate l = true ∧ n.handedOut.Nodup ∧
    (∀ op, (regionCall l op).status ≠ none → (regionCall l op).Refuses l) ∧
    ∀ address length information,
      regionVirtualQuery l address length = some information ↔
        memoryBasicInformationSize ≤ length ∧ ∃ identity r, (identity, r) ∈ n.current ∧
          r.base ≤ address ∧ address < r.base + r.bytes ∧ information = r.information := by
  have hall : n.handedOut.length < 2 ^ 64 - 1 → Tells l n := by
    apply Runs.ReachNoting.invariant
      (P := fun l (n : RegionHistory) => n.handedOut.length < 2 ^ 64 - 1 → Tells l n) h
    · rintro l rfl _
      exact Tells.init
    · intro l n op _ ih _ hroom
      exact (ih (Nat.lt_of_le_of_lt (regionNote_handedOut l op n) hroom)).step op hroom
  have htells := hall hcount
  have hnext : l.nextIdentity ≠ 0 := by
    rw [htells.next]
    omega
  refine ⟨htells.inv.validate hnext, htells.nodup, ?_, ?_⟩
  · intro op hfails
    rcases regionCall_refuses_or_succeeds htells.inv hnext op with hno | hyes
    · exact hno
    · exact absurd hyes hfails
  · intro address length information
    rw [htells.inv.query_iff]
    constructor
    · rintro ⟨hlength, i, hi, hlow, hhigh, rfl⟩
      exact ⟨hlength, _, _, (htells.current _).mpr ⟨i, hi, rfl⟩, hlow, hhigh, rfl⟩
    · rintro ⟨hlength, identity, r, hin, hlow, hhigh, rfl⟩
      obtain ⟨i, hi, heq⟩ := (htells.current _).mp hin
      cases heq
      exact ⟨hlength, i, hi, hlow, hhigh, rfl⟩

/-- Two stacks are registered, and the first is taken out. -/
def sampleRegionOps : List RegionOp :=
  [.register { base := 0x10000, bytes := 0x2000, allocationBase := 0x10000, allocationProtect := 4,
               state := regionStateCommit, protect := 4, type := 0x20000 } true,
    .register { base := 0x12000, bytes := 0x1000, allocationBase := 0x10000, allocationProtect := 4,
                state := regionStateReserve, protect := 0, type := 0x20000 } true,
    .unregister 0x10000 0x2000 1]

theorem queries_tell_the_second_range :
    regionLedgerValidate (Runs.run regionStep regionLedgerInit sampleRegionOps) = true ∧
    (regionVirtualQuery (Runs.run regionStep regionLedgerInit sampleRegionOps) 0x12FFF 48).isSome ∧
    regionVirtualQuery (Runs.run regionStep regionLedgerInit sampleRegionOps) 0x11000 48 =
      none := by
  have hstart : RegionReach regionLedgerInit {} := .start ⟨rfl, rfl⟩
  have hreach : RegionReach (Runs.run regionStep regionLedgerInit sampleRegionOps)
      (Runs.run (Runs.noting regionStep regionNote) (regionLedgerInit, {}) sampleRegionOps).2 :=
    Runs.ReachNoting.run hstart sampleRegionOps fun _ _ _ => trivial
  have hlaw := queries_tell_the_registered_ranges hreach (by decide +kernel)
  exact ⟨hlaw.1, by decide +kernel, by decide +kernel⟩

end Gate4Harness.Vm
