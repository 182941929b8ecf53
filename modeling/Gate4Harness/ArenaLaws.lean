-- The laws of the arena. The invariant makes `gxos_vm_arena_validate` succeed, and every
-- operation keeps it, but for one: `commit_page` looks only for a commitment of the very
-- same page, so a page inside a range that is committed as a whole is committed twice.
import Gate4Harness.ArenaInvariant
import Gate4Harness.Runs

namespace Gate4Harness.Vm

open Tables

variable {a : Arena} {s : ReservationSlot} {i : CommitmentSlot}

/-! ## The invariant makes the arena valid -/

/-- What `arena_init` checks. -/
structure Arena.Sane (a : Arena) : Prop where
  valid : a.valid = true
  length : a.length ≠ 0
  fits : a.base + a.length ≤ uint64Max
  generation : a.generation ≠ 0

theorem addU64_eq {left right : Nat} (h : left + right ≤ uint64Max) :
    addU64 left right = some (left + right) := by
  unfold addU64
  rw [if_neg (by omega)]

theorem ArenaInv.reserved_le (h : ArenaInv a) :
    total Reservation.liveBytes a.reservations ≤ a.length := by
  have hlive : ∀ s, (a.reservations s).liveBytes ≠ 0 → (a.reservations s).live = true ∧
      (a.reservations s).liveBytes = (a.reservations s).bytes := by
    intro s hs
    unfold Reservation.liveBytes at hs ⊢
    split at hs
    · rename_i hs'
      simp [hs']
    · exact absurd rfl hs
  apply total_le_window Reservation.base a.base
  · intro s hs
    obtain ⟨hs, heq⟩ := hlive s hs
    rw [heq]
    exact (h.reservations s hs).inside
  · intro s t hst hs ht
    obtain ⟨hs, heq⟩ := hlive s hs
    obtain ⟨ht, heq'⟩ := hlive t ht
    rw [heq, heq']
    exact h.disjoint s t hst hs ht

theorem ArenaInv.committed_le (h : ArenaInv a) :
    total Commitment.liveBytes a.commitments ≤ a.length := by
  have hlive : ∀ i, (a.commitments i).liveBytes ≠ 0 → (a.commitments i).live = true ∧
      (a.commitments i).liveBytes = (a.commitments i).bytes := by
    intro i hi
    unfold Commitment.liveBytes at hi ⊢
    split at hi
    · rename_i hi'
      simp [hi']
    · exact absurd rfl hi
  apply total_le_window Commitment.base a.base
  · intro i hi
    obtain ⟨hi, heq⟩ := hlive i hi
    have hx := h.commitments i hi
    have hr := (h.reservations _ hx.reserved).inside
    have := hx.inside
    rw [heq]
    omega
  · intro i j hij hi hj
    obtain ⟨hi, heq⟩ := hlive i hi
    obtain ⟨hj, heq'⟩ := hlive j hj
    rw [heq, heq']
    exact h.distinct i j hij hi hj

/-- The commitments of a reservation have no more bytes than it has. -/
theorem ArenaInv.inReservation_le (h : ArenaInv a) (hs : (a.reservations s).live = true) :
    (a.reservations s).committedBytes ≤ (a.reservations s).bytes := by
  have hlive : ∀ i, Commitment.bytesIn s (a.commitments i) ≠ 0 → (a.commitments i).live = true ∧
      (a.commitments i).reservationSlot = s ∧
      Commitment.bytesIn s (a.commitments i) = (a.commitments i).bytes := by
    intro i hi
    unfold Commitment.bytesIn at hi ⊢
    split at hi
    · rename_i hi'
      simp [hi']
    · exact absurd rfl hi
  rw [h.inReservation s hs]
  apply total_le_window Commitment.base (a.reservations s).base
  · intro i hi
    obtain ⟨hi, his, heq⟩ := hlive i hi
    have hx := (h.commitments i hi).inside
    rw [his] at hx
    rw [heq]
    exact hx
  · intro i j hij hi hj
    obtain ⟨hi, -, heq⟩ := hlive i hi
    obtain ⟨hj, -, heq'⟩ := hlive j hj
    rw [heq, heq']
    exact h.distinct i j hij hi hj

theorem ArenaInv.reservationSound (h : ArenaInv a) (hsane : a.Sane)
    (hs : (a.reservations s).live = true) : reservationSound a (a.reservations s) = true := by
  have hx := h.reservations s hs
  have hin : a.contains (a.reservations s).base (a.reservations s).bytes = true := by
    unfold Arena.contains
    rw [hsane.valid, rangeContains_of hx.nonempty hx.inside hsane.fits]
    rfl
  have hle := h.inReservation_le hs
  have hstate := hx.state
  unfold Vm.reservationSound
  by_cases hzero : (a.reservations s).committedBytes = 0
  · rw [if_pos hzero] at hstate
    simp [hin, hx.generation, hx.requested.1, hx.requested.2, hstate, hzero]
  · rw [if_neg hzero] at hstate
    simp [hin, hx.generation, hx.requested.1, hx.requested.2, hstate, hzero, hle]

theorem ArenaInv.commitmentSound (h : ArenaInv a) (hsane : a.Sane)
    (hi : (a.commitments i).live = true) : commitmentSound a (a.commitments i) = true := by
  have hx := h.commitments i hi
  have hr := (h.reservations _ hx.reserved).inside
  have hfits := hsane.fits
  have hin := rangeContains_of hx.nonempty hx.inside (by omega)
  unfold Vm.commitmentSound
  by_cases hp : (a.commitments i).physicalBase = 0
  · simp [hx.reserved, hx.generation, hx.state, hin, hp]
  · simp [hx.reserved, hx.generation, hx.state, hin, hx.pages hp]

/-- Where the loop over the reservations stands after those in `done`. -/
structure ReservationsAt (a : Arena) (done : List ReservationSlot) (t : ReservationTally) :
    Prop where
  reservations : t.reservations = totalOver Reservation.one a.reservations done
  reserved : t.reserved = totalOver Reservation.liveBytes a.reservations done

theorem scanReservation_goes_on (h : ArenaInv a) (hsane : a.Sane) (done : List ReservationSlot)
    (s : ReservationSlot) (rest : List ReservationSlot) (t : ReservationTally)
    (hl : List.finRange maxReservations = done ++ s :: rest) (ht : ReservationsAt a done t) :
    ∃ t', scanReservation a (some t) s = some t' ∧ ReservationsAt a (done ++ [s]) t' := by
  unfold scanReservation
  by_cases hs : (a.reservations s).live = true
  · have hone : (a.reservations s).one = 1 := by simp [Reservation.one, hs]
    have hbytes : (a.reservations s).liveBytes = (a.reservations s).bytes := by
      simp [Reservation.liveBytes, hs]
    have hroom : addU64 t.reserved (a.reservations s).bytes =
        some (t.reserved + (a.reservations s).bytes) := by
      have h1 := totalOver_add_le Reservation.liveBytes a.reservations hl
      have h2 := h.reserved_le
      have h3 := hsane.fits
      have h4 := ht.reserved
      exact addU64_eq (by omega)
    have hothers : (List.finRange maxReservations).any (fun r =>
        decide (s < r) && (a.reservations r).live && rangesOverlap (a.reservations s).base
          (a.reservations s).bytes (a.reservations r).base (a.reservations r).bytes) = false := by
      rw [List.any_eq_false]
      intro r _
      by_cases hr : s < r ∧ (a.reservations r).live = true
      · have hx := h.reservations s hs
        have hy := h.reservations r hr.2
        have hx' := hx.inside
        have hy' := hy.inside
        have hfits := hsane.fits
        have := (h.disjoint s r (ne_of_lt hr.1) hs hr.2).rangesOverlap hx.nonempty hy.nonempty
          (by omega) (by omega)
        simp [this]
      · simp only [Bool.and_eq_true, decide_eq_true_eq]
        rintro ⟨hr', _⟩
        exact hr hr'
    refine ⟨{ reservations := t.reservations + 1
              reserved := t.reserved + (a.reservations s).bytes }, ?_, ?_, ?_⟩
    · simp [hs, h.reservationSound hsane hs, hroom, hothers]
    · rw [totalOver_append, hone, ← ht.reservations]
    · rw [totalOver_append, hbytes, ← ht.reserved]
  · have hone : (a.reservations s).one = 0 := by simp [Reservation.one, hs]
    have hbytes : (a.reservations s).liveBytes = 0 := by simp [Reservation.liveBytes, hs]
    refine ⟨t, by simp [hs], ?_, ?_⟩
    · rw [totalOver_append, hone, Nat.add_zero]
      exact ht.reservations
    · rw [totalOver_append, hbytes, Nat.add_zero]
      exact ht.reserved

/-- Where the loop over the commitments stands after those in `done`. -/
structure CommitmentsAt (a : Arena) (done : List CommitmentSlot) (t : CommitmentTally) : Prop where
  commitments : t.commitments = totalOver Commitment.one a.commitments done
  committed : t.committed = totalOver Commitment.liveBytes a.commitments done
  inReservation : ∀ s, t.reservationCommitted s =
    totalOver (Commitment.bytesIn s) a.commitments done

theorem bytesIn_le (s : ReservationSlot) (done : List CommitmentSlot) :
    totalOver (Commitment.bytesIn s) a.commitments done ≤
      totalOver Commitment.liveBytes a.commitments done := by
  unfold totalOver
  apply List.sum_le_sum
  intro i _
  unfold Commitment.bytesIn Commitment.liveBytes
  split
  · rename_i hi
    rw [if_pos hi.1]
  · exact Nat.zero_le _

theorem scanCommitment_goes_on (h : ArenaInv a) (hsane : a.Sane) (done : List CommitmentSlot)
    (i : CommitmentSlot) (rest : List CommitmentSlot) (t : CommitmentTally)
    (hl : List.finRange maxCommitments = done ++ i :: rest) (ht : CommitmentsAt a done t) :
    ∃ t', scanCommitment a (some t) i = some t' ∧ CommitmentsAt a (done ++ [i]) t' := by
  unfold scanCommitment
  by_cases hi : (a.commitments i).live = true
  · have hone : (a.commitments i).one = 1 := by simp [Commitment.one, hi]
    have hbytes : (a.commitments i).liveBytes = (a.commitments i).bytes := by
      simp [Commitment.liveBytes, hi]
    have h1 := totalOver_add_le Commitment.liveBytes a.commitments hl
    have h2 := h.committed_le
    have h3 := hsane.fits
    have h4 := ht.committed
    have h5 := bytesIn_le (a := a) (a.commitments i).reservationSlot done
    have h6 := ht.inReservation (a.commitments i).reservationSlot
    have hroom : addU64 t.committed (a.commitments i).bytes =
        some (t.committed + (a.commitments i).bytes) := addU64_eq (by omega)
    have hroom' : addU64 (t.reservationCommitted (a.commitments i).reservationSlot)
        (a.commitments i).bytes = some (t.reservationCommitted (a.commitments i).reservationSlot +
          (a.commitments i).bytes) := addU64_eq (by omega)
    have hothers : (List.finRange maxCommitments).any (fun j =>
        decide (i < j) && (a.commitments j).live && rangesOverlap (a.commitments i).base
          (a.commitments i).bytes (a.commitments j).base (a.commitments j).bytes) = false := by
      rw [List.any_eq_false]
      intro j _
      by_cases hj : i < j ∧ (a.commitments j).live = true
      · have hx := h.commitments i hi
        have hy := h.commitments j hj.2
        have hx' := hx.inside
        have hy' := hy.inside
        have hrx := (h.reservations _ hx.reserved).inside
        have hry := (h.reservations _ hy.reserved).inside
        have := (h.distinct i j (ne_of_lt hj.1) hi hj.2).rangesOverlap hx.nonempty hy.nonempty
          (by omega) (by omega)
        simp [this]
      · simp only [Bool.and_eq_true, decide_eq_true_eq]
        rintro ⟨hj', _⟩
        exact hj hj'
    refine ⟨{ commitments := t.commitments + 1
              committed := t.committed + (a.commitments i).bytes
              reservationCommitted := Function.update t.reservationCommitted
                (a.commitments i).reservationSlot
                (t.reservationCommitted (a.commitments i).reservationSlot +
                  (a.commitments i).bytes) }, ?_, ?_, ?_, ?_⟩
    · simp [hi, h.commitmentSound hsane hi, hroom, hroom', hothers]
    · rw [totalOver_append, hone, ← ht.commitments]
    · rw [totalOver_append, hbytes, ← ht.committed]
    · intro s
      rw [totalOver_append, ← ht.inReservation]
      by_cases hs : s = (a.commitments i).reservationSlot
      · subst hs
        simp [Commitment.bytesIn, hi]
      · simp [Commitment.bytesIn, hs, Ne.symm hs]
  · have hone : (a.commitments i).one = 0 := by simp [Commitment.one, hi]
    have hbytes : (a.commitments i).liveBytes = 0 := by simp [Commitment.liveBytes, hi]
    refine ⟨t, by simp [hi], ?_, ?_, ?_⟩
    · rw [totalOver_append, hone, Nat.add_zero]
      exact ht.commitments
    · rw [totalOver_append, hbytes, Nat.add_zero]
      exact ht.committed
    · intro s
      rw [totalOver_append, ht.inReservation]
      simp [Commitment.bytesIn, hi]

theorem ArenaInv.validate (h : ArenaInv a) (hsane : a.Sane) : validate a = true := by
  obtain ⟨r, hr, hr'⟩ : ∃ r,
      (List.finRange maxReservations).foldl (scanReservation a) (some {}) = some r ∧
      ReservationsAt a (List.finRange maxReservations) r :=
    foldl_goes_on ⟨rfl, rfl⟩ (scanReservation_goes_on h hsane)
  obtain ⟨c, hc, hc'⟩ : ∃ c,
      (List.finRange maxCommitments).foldl (scanCommitment a) (some {}) = some c ∧
      CommitmentsAt a (List.finRange maxCommitments) c :=
    foldl_goes_on ⟨rfl, rfl, fun _ => rfl⟩ (scanCommitment_goes_on h hsane)
  have h1 : r.reservations = a.reservationCount := by
    rw [hr'.reservations, totalOver_all, h.reservationCount]
  have h2 : r.reserved = a.totalReservedBytes := by
    rw [hr'.reserved, totalOver_all, h.reservedBytes]
  have h3 : c.commitments = a.commitmentCount := by
    rw [hc'.commitments, totalOver_all, h.commitmentCount]
  have h4 : c.committed = a.totalCommittedBytes := by
    rw [hc'.committed, totalOver_all, h.committedBytes]
  have h5 : (List.finRange maxReservations).all (fun s => !(a.reservations s).live ||
      decide (c.reservationCommitted s = (a.reservations s).committedBytes)) = true := by
    rw [List.all_eq_true]
    intro s _
    by_cases hs : (a.reservations s).live = true
    · have : c.reservationCommitted s = (a.reservations s).committedBytes := by
        rw [hc'.inReservation, totalOver_all, h.inReservation s hs]
      simp [this]
    · simp [hs]
  have hguard : ¬ (¬ a.valid = true ∨ a.length = 0 ∨ a.base > uint64Max - a.length ∨
      a.generation = 0) := by
    have := hsane.fits
    rintro (hno | hno | hno | hno)
    · exact hno hsane.valid
    · exact hsane.length hno
    · omega
    · exact hsane.generation hno
  unfold Vm.validate
  rw [if_neg hguard, hr, hc]
  simp only [h1, h2, h3, h4, h5, decide_true, Bool.and_self]

/-! ## Runs -/

inductive ArenaOp
  | reserve (base bytes kind generation : Nat)
  | reserveFixed (base requestedBytes kind owner generation : Nat)
  | reserveAny (requestedBytes kind owner generation : Nat)
  | commit (base bytes generation : Nat)
  | commitPage (virtualPage physicalPage generation : Nat)
  | decommit (base bytes : Nat)
  | decommitPage (virtualPage : Nat)
  | release (slot : Nat)
  deriving DecidableEq, Repr

/-- The arena after an operation. One that fails leaves it as it was. -/
def arenaStep (a : Arena) (op : ArenaOp) : Arena :=
  match op with
  | .reserve base bytes kind generation =>
    match reserve a base bytes kind generation with
    | .ok (_, a1) => a1
    | .error _ => a
  | .reserveFixed base requestedBytes kind owner generation =>
    match reserveFixed a base requestedBytes kind owner generation with
    | .ok (_, a1) => a1
    | .error _ => a
  | .reserveAny requestedBytes kind owner generation =>
    match reserveAny a requestedBytes kind owner generation with
    | .ok (_, _, a1) => a1
    | .error _ => a
  | .commit base bytes generation => (commit a base bytes generation).toOption.getD a
  | .commitPage virtualPage physicalPage generation =>
    (commitPage a virtualPage physicalPage generation).toOption.getD a
  | .decommit base bytes => (decommit a base bytes).toOption.getD a
  | .decommitPage virtualPage => (decommitPage a virtualPage).toOption.getD a
  | .release slot => (release a slot).toOption.getD a

/-- `commit_page` passes all its checks and takes a free commitment. -/
def takesPage (a : Arena) (virtualPage physicalPage generation : Nat) : Prop :=
  generation ≠ 0 ∧ physicalPage ≠ 0 ∧ virtualPage % pageSize = 0 ∧ physicalPage % pageSize = 0 ∧
  pageCommitment? a virtualPage = none ∧ a.commitmentCount < maxCommitments ∧
  (addU64 a.totalCommittedBytes pageSize).isSome = true ∧ (freeCommitment? a).isSome = true ∧
  ∃ s, findReservation a virtualPage = some s ∧ a.contains virtualPage pageSize = true ∧
    rangeContains (a.reservations s).base (a.reservations s).bytes virtualPage pageSize = true ∧
    (addU64 (a.reservations s).committedBytes pageSize).isSome = true

/-- A page that `commit_page` takes meets no commitment that is there. -/
def KeepsPagesApart (a : Arena) (op : ArenaOp) : Prop :=
  ∀ virtualPage physicalPage generation,
    op = .commitPage virtualPage physicalPage generation →
    takesPage a virtualPage physicalPage generation →
    ∀ j, (a.commitments j).live = true →
      Apart virtualPage pageSize (a.commitments j).base (a.commitments j).bytes

variable {a' : Arena}

theorem commitPage_takesPage {v p generation : Nat}
    (hok : commitPage a v p generation = .ok a') (hnone : pageCommitment? a v = none) :
    takesPage a v p generation := by
  unfold commitPage at hok
  split at hok
  · cases hok
  · rename_i hargs
    split at hok
    · cases hok
    · rename_i halign
      split at hok
      · cases hok
      · rename_i s hs
        split at hok
        · cases hok
        · rename_i hin
          simp only [not_or, Decidable.not_not] at hin
          simp only [hnone] at hok
          split at hok
          · cases hok
          · rename_i hcount
            split at hok
            · cases hok
            · rename_i hsum
              simp only [not_or, Bool.not_eq_true, Option.isNone_eq_false_iff] at hsum
              split at hok
              · cases hok
              · rename_i i hi
                exact ⟨by omega, by omega, by omega, by omega, hnone, by omega, hsum.1,
                  by rw [hi]; rfl, s, hs, hin.1, hin.2, hsum.2⟩

/-- The fields that no operation changes. -/
def Arena.bounds (a : Arena) : Nat × Nat × Bool × Nat := (a.base, a.length, a.valid, a.generation)

theorem Arena.Sane.of_bounds (h : a.Sane) (hsame : a'.bounds = a.bounds) : a'.Sane := by
  simp only [Arena.bounds, Prod.mk.injEq] at hsame
  obtain ⟨h1, h2, h3, h4⟩ := hsame
  exact ⟨by rw [h3]; exact h.valid, by rw [h2]; exact h.length, by rw [h1, h2]; exact h.fits,
    by rw [h4]; exact h.generation⟩

/-- The invariant, in the same arena. -/
def StaysSound (a a' : Arena) : Prop := ArenaInv a' ∧ a'.bounds = a.bounds

theorem StaysSound.getD {e : Except ArenaError Arena} (h : ArenaInv a)
    (hok : ∀ a', e = .ok a' → StaysSound a a') : StaysSound a (e.toOption.getD a) := by
  cases e with
  | error e => exact ⟨h, rfl⟩
  | ok a' => exact hok a' rfl

theorem arenaStep_staysSound (h : ArenaInv a) {op : ArenaOp} (hop : KeepsPagesApart a op) :
    StaysSound a (arenaStep a op) := by
  cases op with
  | reserve base bytes kind generation =>
    unfold arenaStep
    dsimp only
    split
    · rename_i s a1 hok
      refine ⟨reserve_inv h hok, ?_⟩
      obtain ⟨-, -, -, -, -, rfl⟩ := reserve_eq_ok hok
      rfl
    · exact ⟨h, rfl⟩
  | reserveFixed base requestedBytes kind owner generation =>
    unfold arenaStep
    dsimp only
    split
    · rename_i s a1 hok
      refine ⟨reserveFixed_inv h hok, ?_⟩
      obtain ⟨-, -, -, -, -, -, -, rfl⟩ := reserveFixed_eq_ok hok
      rfl
    · exact ⟨h, rfl⟩
  | reserveAny requestedBytes kind owner generation =>
    unfold arenaStep
    dsimp only
    split
    · rename_i base s a1 hok
      have hfixed := reserveAny_eq_ok hok
      refine ⟨reserveFixed_inv h hfixed, ?_⟩
      obtain ⟨-, -, -, -, -, -, -, rfl⟩ := reserveFixed_eq_ok hfixed
      rfl
    · exact ⟨h, rfl⟩
  | commit base bytes generation =>
    apply StaysSound.getD h
    intro a1 hok
    refine ⟨commit_inv h hok, ?_⟩
    obtain ⟨i, x, rfl, -⟩ := commit_eq_ok hok
    rfl
  | commitPage v p generation =>
    apply StaysSound.getD h
    intro a1 hok
    refine ⟨commitPage_inv h ?_ hok, ?_⟩
    · intro hnone
      exact hop v p generation rfl (commitPage_takesPage hok hnone)
    · rcases commitPage_eq_ok hok with ⟨rfl, -⟩ | ⟨-, i, s, -, -, -, rfl⟩ <;> rfl
  | decommit base bytes =>
    apply StaysSound.getD h
    intro a1 hok
    refine ⟨decommit_inv h hok, ?_⟩
    obtain ⟨i, -, rfl⟩ := decommit_eq_ok hok
    rfl
  | decommitPage v =>
    apply StaysSound.getD h
    intro a1 hok
    refine ⟨decommitPage_inv h hok, ?_⟩
    obtain ⟨i, -, rfl⟩ := decommitPage_eq_ok hok
    rfl
  | release slot =>
    apply StaysSound.getD h
    intro a1 hok
    refine ⟨release_inv h hok, ?_⟩
    obtain ⟨s, -, -, -, rfl⟩ := release_eq_ok hok
    rfl

/-- An arena of a range that is not empty and does not overflow. -/
def FreshArena (a : Arena) : Prop :=
  ∃ base length generation, generation ≠ 0 ∧ length ≠ 0 ∧ base + length ≤ uint64Max ∧
    a = arenaInit base length generation

/-- In every run in which the pages that `commit_page` takes meet no commitment, the arena is
valid and its bookkeeping is right. -/
theorem arena_is_valid_while_pages_stay_apart
    (h : Runs.Reach FreshArena arenaStep KeepsPagesApart a) :
    validate a = true ∧ ArenaInv a := by
  have hall : ArenaInv a ∧ a.Sane := by
    apply Runs.Reach.invariant h
    · rintro a ⟨base, length, generation, hgen, hlength, hfits, rfl⟩
      refine ⟨arenaInit_inv base length generation, ?_, hlength, hfits, hgen⟩
      have : base ≤ uint64Max - length := by omega
      simp [arenaInit, hgen, hlength, this]
    · intro a op _ hinv hop
      obtain ⟨h1, h2⟩ := arenaStep_staysSound hinv.1 hop
      exact ⟨h1, hinv.2.of_bounds h2⟩
  exact ⟨hall.1.validate hall.2, hall.1⟩

/-- The arena of the policy. -/
def sampleArena : Arena := arenaInit 0x0000400000000000 0x40000000 1

theorem sampleArena_fresh : FreshArena sampleArena :=
  ⟨0x0000400000000000, 0x40000000, 1, by decide, by decide, by decide, rfl⟩

/-- A page and a range that stay apart. -/
def sampleApartOps : List ArenaOp :=
  [.reserveFixed 0x400000000000 0x20000 0 0 1, .commitPage 0x400000002000 0x5000 1,
    .commit 0x400000000000 0x2000 1, .decommitPage 0x400000002000]

theorem sampleArena_is_valid_while_pages_stay_apart :
    validate (Runs.run arenaStep sampleArena sampleApartOps) = true ∧
    ((Runs.run arenaStep sampleArena sampleApartOps).commitments 1).bytes = 0x2000 := by
  have hfree : ∀ j, ((arenaStep sampleArena
      (.reserveFixed 0x400000000000 0x20000 0 0 1)).commitments j).live = false := by
    intro j
    unfold arenaStep
    dsimp only
    split
    · rename_i s a1 hok
      obtain ⟨-, -, -, -, -, -, -, rfl⟩ := reserveFixed_eq_ok hok
      rfl
    · rfl
  have hrun : Runs.Reach FreshArena arenaStep KeepsPagesApart
      (Runs.run arenaStep sampleArena sampleApartOps) := by
    apply Runs.Reach.run_along (.start sampleArena_fresh)
    refine ⟨?_, ?_, ?_, ?_, trivial⟩
    · intro v p g hop
      cases hop
    · intro v p g _ _ j hj
      rw [hfree j] at hj
      cases hj
    · intro v p g hop
      cases hop
    · intro v p g hop
      cases hop
  exact ⟨(arena_is_valid_while_pages_stay_apart hrun).1, by decide +kernel⟩

/-- An arena that is valid has no two commitments that meet. -/
theorem validate_apart (h : validate a = true) {i j : CommitmentSlot} (hij : i < j)
    (hi : (a.commitments i).live = true) (hj : (a.commitments j).live = true) :
    rangesOverlap (a.commitments i).base (a.commitments i).bytes (a.commitments j).base
      (a.commitments j).bytes = false := by
  unfold validate at h
  split at h
  · cases h
  · split at h
    · rename_i r c hr hc
      obtain ⟨t, t', hturn⟩ := foldl_turn (fun _ => rfl) hc (List.mem_finRange i)
      simp only [scanCommitment, hi, not_true_eq_false, if_false] at hturn
      split at hturn
      · cases hturn
      · split at hturn
        · split at hturn
          · cases hturn
          · rename_i hany
            rw [Bool.not_eq_true, List.any_eq_false] at hany
            have := hany j (List.mem_finRange j)
            simpa [hij, hj] using this
        · cases hturn
    · cases h

/-- A range of two pages, and then its first page. -/
def sampleOverlapOps : List ArenaOp :=
  [.reserveFixed 0x400000000000 0x20000 0 0 1, .commit 0x400000000000 0x2000 1,
    .commitPage 0x400000000000 0x5000 1]

theorem a_page_of_a_committed_range_makes_the_arena_invalid :
    FreshArena sampleArena ∧
    validate (Runs.run arenaStep sampleArena sampleOverlapOps) = false := by
  refine ⟨sampleArena_fresh, ?_⟩
  rw [← Bool.not_eq_true]
  intro h
  have := validate_apart h (i := 0) (j := 1) (by decide) (by decide +kernel) (by decide +kernel)
  revert this
  decide +kernel

end Gate4Harness.Vm
