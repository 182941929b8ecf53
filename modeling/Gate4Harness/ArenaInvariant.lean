-- The invariant of the arena. Its reservations lie in the arena and do not meet, its
-- commitments lie in live reservations and do not meet, and each counter is the sum
-- that it stands for.
import Gate4Harness.Arena
import Gate4Harness.Tables

namespace Gate4Harness.Vm

open Tables

variable {a a' : Arena} {s t : ReservationSlot} {i j : CommitmentSlot} {x : Commitment}
  {r : Reservation}

/-! ## Ranges -/

theorem rangeEnd_eq_some {base bytes e : Nat} (h : rangeEnd base bytes = some e) :
    bytes ≠ 0 ∧ e = base + bytes := by
  unfold rangeEnd at h
  split at h
  · cases h
  · rename_i hg
    cases h
    exact ⟨fun hz => hg (Or.inl hz), rfl⟩

theorem rangeEnd_eq {base bytes : Nat} (h : bytes ≠ 0) (hfits : base + bytes ≤ uint64Max) :
    rangeEnd base bytes = some (base + bytes) := by
  unfold rangeEnd
  rw [if_neg]
  omega

theorem rangeEnd_fits {base bytes e : Nat} (hbytes : bytes ≤ uint64Max)
    (h : rangeEnd base bytes = some e) : base + bytes ≤ uint64Max := by
  unfold rangeEnd at h
  split at h
  · cases h
  · omega

theorem rangeContains_facts {ob on ib n : Nat} (h : rangeContains ob on ib n = true) :
    n ≠ 0 ∧ ob ≤ ib ∧ ib + n ≤ ob + on := by
  unfold rangeContains at h
  split at h
  · rename_i oe ie ho hi
    obtain ⟨_, rfl⟩ := rangeEnd_eq_some ho
    obtain ⟨hn, rfl⟩ := rangeEnd_eq_some hi
    simp only [Bool.and_eq_true, decide_eq_true_eq] at h
    exact ⟨hn, h⟩
  · cases h

theorem rangeContains_of {ob on ib n : Nat} (hn : n ≠ 0) (hin : ob ≤ ib ∧ ib + n ≤ ob + on)
    (hfits : ob + on ≤ uint64Max) : rangeContains ob on ib n = true := by
  unfold rangeContains
  rw [rangeEnd_eq (by omega) hfits, rangeEnd_eq hn (by omega)]
  simp [hin]

/-- Two ranges of addresses have no address in common. -/
def Apart (base bytes base' bytes' : Nat) : Prop := base + bytes ≤ base' ∨ base' + bytes' ≤ base

theorem rangesOverlap_facts {lb ln rb rn : Nat} (h : rangesOverlap lb ln rb rn = false) :
    Apart lb ln rb rn := by
  unfold rangesOverlap at h
  split at h
  · rename_i le re hl hr
    obtain ⟨_, rfl⟩ := rangeEnd_eq_some hl
    obtain ⟨_, rfl⟩ := rangeEnd_eq_some hr
    simp only [Bool.and_eq_false_iff, decide_eq_false_iff_not, Nat.not_lt] at h
    exact h.symm
  · cases h

theorem Apart.rangesOverlap {lb ln rb rn : Nat} (h : Apart lb ln rb rn) (hl : ln ≠ 0)
    (hr : rn ≠ 0) (hlfits : lb + ln ≤ uint64Max) (hrfits : rb + rn ≤ uint64Max) :
    rangesOverlap lb ln rb rn = false := by
  unfold Vm.rangesOverlap
  rw [rangeEnd_eq hl hlfits, rangeEnd_eq hr hrfits]
  simp only [Bool.and_eq_false_iff, decide_eq_false_iff_not, Nat.not_lt]
  exact h.symm

theorem Apart.symm {base bytes base' bytes' : Nat} (h : Apart base bytes base' bytes') :
    Apart base' bytes' base bytes := Or.symm h

theorem pageDown_mod (value : Nat) : pageDown value % pageSize = 0 := by
  unfold pageDown
  exact Nat.mul_mod_left _ _

theorem pageRoundBytes_mod (bytes : Nat) : pageRoundBytes bytes % pageSize = 0 := by
  unfold pageRoundBytes
  split
  · rfl
  · exact pageDown_mod _

theorem le_pageRoundBytes {bytes : Nat} (h : pageRoundBytes bytes ≠ 0) :
    bytes ≤ pageRoundBytes bytes := by
  unfold pageRoundBytes at h ⊢
  split at h
  · exact absurd rfl h
  · rename_i hg
    rw [if_neg hg]
    unfold pageDown pageSize
    omega

/-! ## The invariant -/

/-- What a record adds to each sum. -/
def Reservation.one (x : Reservation) : Nat := if x.live then 1 else 0
def Reservation.liveBytes (x : Reservation) : Nat := if x.live then x.bytes else 0
def Commitment.one (x : Commitment) : Nat := if x.live then 1 else 0
def Commitment.liveBytes (x : Commitment) : Nat := if x.live then x.bytes else 0
def Commitment.bytesIn (s : ReservationSlot) (x : Commitment) : Nat :=
  if x.live ∧ x.reservationSlot = s then x.bytes else 0

/-- What holds of a live reservation of an arena by itself. -/
structure SoundReservation (base length : Nat) (x : Reservation) : Prop where
  nonempty : x.bytes ≠ 0
  inside : base ≤ x.base ∧ x.base + x.bytes ≤ base + length
  generation : x.generation ≠ 0
  requested : x.requestedBytes ≠ 0 ∧ x.requestedBytes ≤ x.bytes
  state : x.state = if x.committedBytes = 0 then .reserved else .committed

/-- What holds of a live commitment with its reservation. -/
structure SoundCommitment (r : Reservation) (x : Commitment) : Prop where
  reserved : r.live = true
  nonempty : x.bytes ≠ 0
  inside : r.base ≤ x.base ∧ x.base + x.bytes ≤ r.base + r.bytes
  generation : x.generation ≠ 0
  state : x.state = .committed
  pages : x.physicalBase ≠ 0 → x.pageCount ≠ 0

structure ArenaInv (a : Arena) : Prop where
  reservations : ∀ s, (a.reservations s).live = true →
    SoundReservation a.base a.length (a.reservations s)
  disjoint : ∀ s t, s ≠ t → (a.reservations s).live = true → (a.reservations t).live = true →
    Apart (a.reservations s).base (a.reservations s).bytes (a.reservations t).base
      (a.reservations t).bytes
  commitments : ∀ i, (a.commitments i).live = true →
    SoundCommitment (a.reservations (a.commitments i).reservationSlot) (a.commitments i)
  distinct : ∀ i j, i ≠ j → (a.commitments i).live = true → (a.commitments j).live = true →
    Apart (a.commitments i).base (a.commitments i).bytes (a.commitments j).base
      (a.commitments j).bytes
  reservationCount : a.reservationCount = total Reservation.one a.reservations
  commitmentCount : a.commitmentCount = total Commitment.one a.commitments
  reservedBytes : a.totalReservedBytes = total Reservation.liveBytes a.reservations
  committedBytes : a.totalCommittedBytes = total Commitment.liveBytes a.commitments
  inReservation : ∀ s, (a.reservations s).live = true →
    (a.reservations s).committedBytes = total (Commitment.bytesIn s) a.commitments

theorem arenaInit_inv (base length generation : Nat) :
    ArenaInv (arenaInit base length generation) := by
  have hr : ∀ s, ((arenaInit base length generation).reservations s).live ≠ true := by
    intro s hs
    cases hs
  have hc : ∀ i, ((arenaInit base length generation).commitments i).live ≠ true := by
    intro i hi
    cases hi
  refine ⟨fun s hs => absurd hs (hr s), fun s _ _ hs => absurd hs (hr s),
    fun i hi => absurd hi (hc i), fun i _ _ hi => absurd hi (hc i), ?_, ?_, ?_, ?_,
    fun s hs => absurd hs (hr s)⟩
  · exact (total_eq_zero_iff.mpr fun _ => rfl).symm
  · exact (total_eq_zero_iff.mpr fun _ => rfl).symm
  · exact (total_eq_zero_iff.mpr fun _ => rfl).symm
  · exact (total_eq_zero_iff.mpr fun _ => rfl).symm

/-- A reservation that holds no commitment has no committed bytes, and only then. -/
theorem ArenaInv.committed_eq_zero (h : ArenaInv a) (hs : (a.reservations s).live = true) :
    (a.reservations s).committedBytes = 0 ↔
      ∀ i, (a.commitments i).live = true → (a.commitments i).reservationSlot ≠ s := by
  rw [h.inReservation s hs, total_eq_zero_iff]
  constructor
  · intro hzero i hi his
    have hone := hzero i
    rw [Commitment.bytesIn, if_pos ⟨hi, his⟩] at hone
    exact (h.commitments i hi).nonempty hone
  · intro hnone i
    rw [Commitment.bytesIn, if_neg]
    rintro ⟨hi, his⟩
    exact hnone i hi his

/-! ## Reservations -/

/-- A new reservation in a free slot. -/
def withReservation (a : Arena) (s : ReservationSlot) (r : Reservation) (total : Nat) : Arena :=
  { a with
    reservations := Function.update a.reservations s r
    reservationCount := a.reservationCount + 1
    totalReservedBytes := total }

theorem addU64_eq_some {left right sum : Nat} (h : addU64 left right = some sum) :
    sum = left + right := by
  unfold addU64 at h
  split at h
  · cases h
  · cases h
    rfl

theorem reserve_eq_ok {base bytes kind generation : Nat}
    (h : reserve a base bytes kind generation = .ok (s, a')) :
    generation ≠ 0 ∧ bytes ≠ 0 ∧ (a.reservations s).live = false ∧
    a.contains base bytes = true ∧
    (∀ t, (a.reservations t).live = true →
      rangesOverlap base bytes (a.reservations t).base (a.reservations t).bytes = false) ∧
    a' = withReservation a s
      { live := true, base, bytes, requestedBytes := bytes, kind, state := .reserved,
        owner := 0, generation, committedBytes := 0 } (a.totalReservedBytes + bytes) := by
  unfold reserve at h
  split at h
  · cases h
  · rename_i hargs
    split at h
    · cases h
    · split at h
      · cases h
      · rename_i hin
        split at h
        · cases h
        · rename_i hfree
          split at h
          · cases h
          · split at h
            · cases h
            · cases h
            · rename_i total t htotal hslot
              cases h
              refine ⟨by omega, by omega, ?_, by simpa using hin, ?_, ?_⟩
              · simpa using List.find?_some hslot
              · intro t ht
                have hno := Option.not_isSome_iff_eq_none.mp hfree
                have := List.find?_eq_none.mp hno t (List.mem_finRange t)
                simpa [ht] using this
              · rw [addU64_eq_some htotal]
                rfl

theorem withReservation_inv (h : ArenaInv a) (hs : (a.reservations s).live = false)
    (hlive : r.live = true) (hr : SoundReservation a.base a.length r)
    (hout : ∀ t, (a.reservations t).live = true →
      Apart r.base r.bytes (a.reservations t).base (a.reservations t).bytes)
    (hzero : r.committedBytes = 0) :
    ArenaInv (withReservation a s r (a.totalReservedBytes + r.bytes)) := by
  have hslot : ∀ i, (a.commitments i).live = true → (a.commitments i).reservationSlot ≠ s := by
    rintro i hi rfl
    have := (h.commitments i hi).reserved
    rw [hs] at this
    cases this
  refine ⟨?_, ?_, ?_, h.distinct, ?_, h.commitmentCount, ?_, h.committedBytes, ?_⟩
  · intro t ht
    by_cases hts : t = s
    · subst hts
      simp only [withReservation, Function.update_self]
      exact hr
    · simp only [withReservation, Function.update_of_ne hts] at ht ⊢
      exact h.reservations t ht
  · intro t u htu ht hu
    simp only [withReservation] at ht hu ⊢
    by_cases hts : t = s
    · subst hts
      have hut : u ≠ t := Ne.symm htu
      rw [Function.update_of_ne hut] at hu
      rw [Function.update_self, Function.update_of_ne hut]
      exact hout u hu
    · rw [Function.update_of_ne hts] at ht ⊢
      by_cases hus : u = s
      · subst hus
        rw [Function.update_self]
        exact (hout t ht).symm
      · rw [Function.update_of_ne hus] at hu ⊢
        exact h.disjoint t u htu ht hu
  · intro i hi
    simp only [withReservation, Function.update_of_ne (hslot i hi)]
    exact h.commitments i hi
  · have := total_update Reservation.one a.reservations s r
    have h0 : (a.reservations s).one = 0 := by simp [Reservation.one, hs]
    have h1 : r.one = 1 := by simp [Reservation.one, hlive]
    rw [h0, h1, ← h.reservationCount] at this
    change a.reservationCount + 1 = total Reservation.one (Function.update a.reservations s r)
    omega
  · have := total_update Reservation.liveBytes a.reservations s r
    have h0 : (a.reservations s).liveBytes = 0 := by simp [Reservation.liveBytes, hs]
    have h1 : r.liveBytes = r.bytes := by simp [Reservation.liveBytes, hlive]
    rw [h0, h1, ← h.reservedBytes] at this
    change a.totalReservedBytes + r.bytes =
      total Reservation.liveBytes (Function.update a.reservations s r)
    omega
  · intro t ht
    by_cases hts : t = s
    · subst hts
      have hnone : total (Commitment.bytesIn t) a.commitments = 0 := by
        rw [total_eq_zero_iff]
        intro i
        rw [Commitment.bytesIn, if_neg]
        rintro ⟨hi, hit⟩
        exact hslot i hi hit
      change ((withReservation a t r _).reservations t).committedBytes =
        total (Commitment.bytesIn t) a.commitments
      simp [withReservation, hzero, hnone]
    · simp only [withReservation, Function.update_of_ne hts] at ht ⊢
      exact h.inReservation t ht

theorem Arena.contains_facts {base bytes : Nat} (h : a.contains base bytes = true) :
    a.base ≤ base ∧ base + bytes ≤ a.base + a.length := by
  unfold Arena.contains at h
  simp only [Bool.and_eq_true] at h
  exact (rangeContains_facts h.2).2

theorem reserve_inv {base bytes kind generation : Nat} (h : ArenaInv a)
    (hok : reserve a base bytes kind generation = .ok (s, a')) : ArenaInv a' := by
  obtain ⟨hgen, hbytes, hs, hin, hout, rfl⟩ := reserve_eq_ok hok
  exact withReservation_inv h hs rfl
    ⟨hbytes, a.contains_facts hin, hgen, ⟨hbytes, le_refl _⟩, rfl⟩
    (fun t ht => rangesOverlap_facts (hout t ht)) rfl

/-- A reservation at a fixed base: the new entry, and what holds of it. -/
theorem reserveFixed_eq_ok {base requestedBytes kind owner generation : Nat}
    (h : reserveFixed a base requestedBytes kind owner generation = .ok (s, a')) :
    base % reservationGranularity = 0 ∧ requestedBytes ≠ 0 ∧ pageRoundBytes requestedBytes ≠ 0 ∧
    generation ≠ 0 ∧ (a.reservations s).live = false ∧
    a.contains base (pageRoundBytes requestedBytes) = true ∧
    (∀ t, (a.reservations t).live = true →
      rangesOverlap base (pageRoundBytes requestedBytes) (a.reservations t).base
        (a.reservations t).bytes = false) ∧
    a' = withReservation a s
      { live := true, base, bytes := pageRoundBytes requestedBytes, requestedBytes, kind,
        state := .reserved, owner, generation, committedBytes := 0 }
      (a.totalReservedBytes + pageRoundBytes requestedBytes) := by
  unfold reserveFixed at h
  split at h
  · cases h
  · rename_i hrequested
    split at h
    · cases h
    · rename_i halign
      split at h
      · cases h
      · rename_i hround
        split at h
        · cases h
        · rename_i s1 a1 hreserve
          obtain ⟨hgen, -, hs, hin, hout, rfl⟩ := reserve_eq_ok hreserve
          cases h
          refine ⟨by simpa using halign, hrequested, hround, hgen, hs, hin, hout, ?_⟩
          simp [withReservation]

theorem reserveFixed_inv {base requestedBytes kind owner generation : Nat} (h : ArenaInv a)
    (hok : reserveFixed a base requestedBytes kind owner generation = .ok (s, a')) :
    ArenaInv a' := by
  obtain ⟨-, hrequested, hround, hgen, hs, hin, hout, rfl⟩ := reserveFixed_eq_ok hok
  exact withReservation_inv h hs rfl
    ⟨hround, a.contains_facts hin, hgen, ⟨hrequested, le_pageRoundBytes hround⟩, rfl⟩
    (fun t ht => rangesOverlap_facts (hout t ht)) rfl

theorem reserveFrom_eq_ok {arenaEnd reservedBytes requestedBytes kind owner generation turns
    candidate base : Nat}
    (h : reserveFrom a arenaEnd reservedBytes requestedBytes kind owner generation turns
      candidate = .ok (base, s, a')) :
    reserveFixed a base requestedBytes kind owner generation = .ok (s, a') := by
  induction turns generalizing candidate with
  | zero => cases h
  | succ n ih =>
    unfold reserveFrom at h
    split at h
    · split at h
      · cases h
      · split at h
        · cases h
        · rename_i hfixed
          cases h
          exact hfixed
      · split at h
        · cases h
        · exact ih h
    · cases h

theorem reserveAny_eq_ok {requestedBytes kind owner generation base : Nat}
    (h : reserveAny a requestedBytes kind owner generation = .ok (base, s, a')) :
    reserveFixed a base requestedBytes kind owner generation = .ok (s, a') := by
  unfold reserveAny at h
  split at h
  · cases h
  · split at h
    · cases h
    · split at h
      · exact reserveFrom_eq_ok h
      · cases h

/-- The arena without a reservation. -/
def withoutReservation (a : Arena) (s : ReservationSlot) : Arena :=
  { a with
    totalReservedBytes := a.totalReservedBytes - (a.reservations s).bytes
    reservationCount := a.reservationCount - 1
    reservations := Function.update a.reservations s {} }

theorem withoutReservation_inv (h : ArenaInv a) (hs : (a.reservations s).live = true)
    (hfree : ∀ i, (a.commitments i).live = true → (a.commitments i).reservationSlot ≠ s) :
    ArenaInv (withoutReservation a s) := by
  have hother : ∀ t, ((withoutReservation a s).reservations t).live = true →
      (withoutReservation a s).reservations t = a.reservations t := by
    intro t ht
    have hts : t ≠ s := by
      rintro rfl
      simp [withoutReservation] at ht
    simp [withoutReservation, hts]
  refine ⟨?_, ?_, ?_, h.distinct, ?_, h.commitmentCount, ?_, h.committedBytes, ?_⟩
  · intro t ht
    have heq := hother t ht
    rw [heq] at ht ⊢
    exact h.reservations t ht
  · intro t u htu ht hu
    have heq := hother t ht
    have heq' := hother u hu
    rw [heq] at ht ⊢
    rw [heq'] at hu ⊢
    exact h.disjoint t u htu ht hu
  · intro i hi
    simp only [withoutReservation, Function.update_of_ne (hfree i hi)]
    exact h.commitments i hi
  · have := total_update Reservation.one a.reservations s {}
    have h1 : (a.reservations s).one = 1 := by simp [Reservation.one, hs]
    have h0 : Reservation.one {} = 0 := rfl
    rw [h1, h0, ← h.reservationCount] at this
    change a.reservationCount - 1 = total Reservation.one (Function.update a.reservations s {})
    omega
  · have := total_update Reservation.liveBytes a.reservations s {}
    have h1 : (a.reservations s).liveBytes = (a.reservations s).bytes := by
      simp [Reservation.liveBytes, hs]
    have h0 : Reservation.liveBytes {} = 0 := rfl
    rw [h1, h0, ← h.reservedBytes] at this
    change a.totalReservedBytes - (a.reservations s).bytes =
      total Reservation.liveBytes (Function.update a.reservations s {})
    omega
  · intro t ht
    have heq := hother t ht
    rw [heq] at ht ⊢
    exact h.inReservation t ht

theorem release_eq_ok {slot : Nat} (h : release a slot = .ok a') :
    ∃ s : ReservationSlot, s.val = slot ∧ (a.reservations s).live = true ∧
      (a.reservations s).committedBytes = 0 ∧ a' = withoutReservation a s := by
  unfold release at h
  split at h
  · cases h
  · split at h
    · rename_i hslot
      simp only at h
      split at h
      · cases h
      · rename_i hlive
        split at h
        · cases h
        · rename_i hzero
          split at h
          · cases h
          · cases h
            exact ⟨⟨slot, hslot⟩, rfl, by simpa using hlive, by simpa using hzero, rfl⟩
    · cases h

theorem release_inv {slot : Nat} (h : ArenaInv a) (hok : release a slot = .ok a') :
    ArenaInv a' := by
  obtain ⟨s, _, hlive, hzero, rfl⟩ := release_eq_ok hok
  exact withoutReservation_inv h hlive ((h.committed_eq_zero hlive).mp hzero)

/-! ## Commitments -/

theorem findReservation_some {v : Nat} (h : findReservation a v = some s) :
    (a.reservations s).live = true ∧ (a.reservations s).base ≤ v ∧
    v < (a.reservations s).base + (a.reservations s).bytes := by
  have hs := List.find?_some h
  simp only [Bool.and_eq_true, decide_eq_true_eq] at hs
  obtain ⟨⟨hlive, hle⟩, hlt⟩ := hs
  exact ⟨hlive, hle, by omega⟩

theorem freeCommitment?_some (h : freeCommitment? a = some i) : (a.commitments i).live = false := by
  simpa using List.find?_some h

/-- Only the sum and the state of a reservation change with its commitments. -/
structure SameRanges (f g : ReservationSlot → Reservation) : Prop where
  live : ∀ t, (g t).live = (f t).live
  base : ∀ t, (g t).base = (f t).base
  bytes : ∀ t, (g t).bytes = (f t).bytes
  generation : ∀ t, (g t).generation = (f t).generation
  requestedBytes : ∀ t, (g t).requestedBytes = (f t).requestedBytes

theorem sameRanges_update (f : ReservationSlot → Reservation) (s : ReservationSlot) (n : Nat)
    (state : ReservationState) :
    SameRanges f (Function.update f s { f s with committedBytes := n, state }) := by
  refine ⟨?_, ?_, ?_, ?_, ?_⟩ <;>
  · intro t
    by_cases hts : t = s
    · subst hts
      rw [Function.update_self]
    · rw [Function.update_of_ne hts]

theorem SameRanges.one_total {f g : ReservationSlot → Reservation} (h : SameRanges f g) :
    total Reservation.one g = total Reservation.one f := by
  simp only [total, Reservation.one, h.live]

theorem SameRanges.liveBytes_total {f g : ReservationSlot → Reservation} (h : SameRanges f g) :
    total Reservation.liveBytes g = total Reservation.liveBytes f := by
  simp only [total, Reservation.liveBytes, h.live, h.bytes]

theorem SameRanges.soundCommitment {f g : ReservationSlot → Reservation} (h : SameRanges f g)
    (hx : SoundCommitment (f s) x) : SoundCommitment (g s) x :=
  ⟨by rw [h.live]; exact hx.reserved, hx.nonempty, by rw [h.base, h.bytes]; exact hx.inside,
    hx.generation, hx.state, hx.pages⟩

/-- Only the state of a reservation depends on what is committed in it. -/
theorem SameRanges.soundReservation {f g : ReservationSlot → Reservation} (h : SameRanges f g)
    {base length : Nat} (hold : SoundReservation base length (f s))
    (hstate : (g s).state = if (g s).committedBytes = 0 then .reserved else .committed) :
    SoundReservation base length (g s) :=
  ⟨by rw [h.bytes]; exact hold.nonempty, by rw [h.base, h.bytes]; exact hold.inside,
    by rw [h.generation]; exact hold.generation,
    by rw [h.bytes, h.requestedBytes]; exact hold.requested, hstate⟩

/-- The parts of the invariant that speak of the ranges of the reservations. -/
theorem SameRanges.disjoint (h : ArenaInv a) {g : ReservationSlot → Reservation}
    (hg : SameRanges a.reservations g) (s t : ReservationSlot) (hst : s ≠ t)
    (hs : (g s).live = true) (ht : (g t).live = true) :
    Apart (g s).base (g s).bytes (g t).base (g t).bytes := by
  rw [hg.live] at hs ht
  rw [hg.base, hg.base, hg.bytes, hg.bytes]
  exact h.disjoint s t hst hs ht

/-- A commitment more: the sums go up by its bytes. -/
theorem addCommitment_inv (h : ArenaInv a) (hi : (a.commitments i).live = false)
    (hlive : x.live = true) (hx : SoundCommitment (a.reservations x.reservationSlot) x)
    (hout : ∀ j, (a.commitments j).live = true →
      Apart x.base x.bytes (a.commitments j).base (a.commitments j).bytes) :
    ArenaInv (addCommitment a i x) := by
  have hg : SameRanges a.reservations (addCommitment a i x).reservations :=
    sameRanges_update a.reservations x.reservationSlot _ _
  have hself : (addCommitment a i x).commitments i = x := Function.update_self _ _ _
  have hcom : ∀ j, j ≠ i → (addCommitment a i x).commitments j = a.commitments j := by
    intro j hj
    exact Function.update_of_ne hj _ _
  have hsum : ∀ w : Commitment → Nat, w (a.commitments i) = 0 →
      total w (addCommitment a i x).commitments = total w a.commitments + w x := by
    intro w hw
    have := total_update w a.commitments i x
    change total w (Function.update a.commitments i x) = _
    omega
  refine ⟨?_, SameRanges.disjoint h hg, ?_, ?_, ?_, ?_, ?_, ?_, ?_⟩
  · intro t ht
    rw [hg.live] at ht
    have hold := h.reservations t ht
    apply hg.soundReservation hold
    by_cases hts : t = x.reservationSlot
    · subst hts
      have hne := hx.nonempty
      simp only [addCommitment, Function.update_self]
      rw [if_neg (by omega)]
    · simp only [addCommitment, Function.update_of_ne hts]
      exact hold.state
  · intro j hj
    by_cases hji : j = i
    · subst hji
      rw [hself]
      exact hg.soundCommitment hx
    · rw [hcom j hji] at hj ⊢
      exact hg.soundCommitment (h.commitments j hj)
  · intro j k hjk hj hk
    by_cases hji : j = i
    · subst hji
      rw [hself]
      rw [hcom k (Ne.symm hjk)] at hk ⊢
      exact hout k hk
    · rw [hcom j hji] at hj ⊢
      by_cases hki : k = i
      · subst hki
        rw [hself]
        exact (hout j hj).symm
      · rw [hcom k hki] at hk ⊢
        exact h.distinct j k hjk hj hk
  · rw [hg.one_total, ← h.reservationCount]
    rfl
  · rw [hsum _ (by simp [Commitment.one, hi]), ← h.commitmentCount]
    simp [Commitment.one, hlive, addCommitment]
  · rw [hg.liveBytes_total, ← h.reservedBytes]
    rfl
  · rw [hsum _ (by simp [Commitment.liveBytes, hi]), ← h.committedBytes]
    simp [Commitment.liveBytes, hlive, addCommitment]
  · intro t ht
    rw [hg.live] at ht
    rw [hsum _ (by simp [Commitment.bytesIn, hi]), ← h.inReservation t ht]
    by_cases hts : t = x.reservationSlot
    · subst hts
      simp [Commitment.bytesIn, hlive, addCommitment]
    · simp [Commitment.bytesIn, Ne.symm hts, addCommitment, hts]

/-- A live commitment is part of the sums. -/
theorem ArenaInv.bytes_le (h : ArenaInv a) (hi : (a.commitments i).live = true) :
    1 ≤ a.commitmentCount ∧ (a.commitments i).bytes ≤ a.totalCommittedBytes ∧
    (a.commitments i).bytes ≤
      (a.reservations (a.commitments i).reservationSlot).committedBytes := by
  have h1 := le_total Commitment.one a.commitments i
  have h2 := le_total Commitment.liveBytes a.commitments i
  have h3 := le_total (Commitment.bytesIn (a.commitments i).reservationSlot) a.commitments i
  rw [← h.commitmentCount, Commitment.one, if_pos hi] at h1
  rw [← h.committedBytes, Commitment.liveBytes, if_pos hi] at h2
  rw [← h.inReservation _ (h.commitments i hi).reserved, Commitment.bytesIn,
    if_pos ⟨hi, rfl⟩] at h3
  exact ⟨h1, h2, h3⟩

/-- The commitments that are left are as they were. -/
theorem dropCommitment_left (hj : ((dropCommitment a i).commitments j).live = true) :
    j ≠ i ∧ (dropCommitment a i).commitments j = a.commitments j := by
  have hji : j ≠ i := by
    rintro rfl
    simp [dropCommitment] at hj
  exact ⟨hji, Function.update_of_ne hji _ _⟩

/-- A commitment less: the sums go down by its bytes. -/
theorem dropCommitment_inv (h : ArenaInv a) (hi : (a.commitments i).live = true) :
    ArenaInv (dropCommitment a i) := by
  obtain ⟨hcount, hbytes, hreserved⟩ := h.bytes_le hi
  have hsound := h.commitments i hi
  have hg : SameRanges a.reservations (dropCommitment a i).reservations :=
    sameRanges_update a.reservations (a.commitments i).reservationSlot _ _
  have hsum : ∀ w : Commitment → Nat, w {} = 0 →
      total w (dropCommitment a i).commitments + w (a.commitments i) = total w a.commitments := by
    intro w hw
    have := total_update w a.commitments i {}
    change total w (Function.update a.commitments i {}) + _ = _
    omega
  refine ⟨?_, SameRanges.disjoint h hg, ?_, ?_, ?_, ?_, ?_, ?_, ?_⟩
  · intro t ht
    rw [hg.live] at ht
    have hold := h.reservations t ht
    apply hg.soundReservation hold
    by_cases hts : t = (a.commitments i).reservationSlot
    · subst hts
      have hne := hsound.nonempty
      have hstate := hold.state
      rw [if_neg (by omega)] at hstate
      simp only [dropCommitment, Function.update_self, hstate]
    · simp only [dropCommitment, Function.update_of_ne hts]
      exact hold.state
  · intro j hj
    obtain ⟨_, heq⟩ := dropCommitment_left hj
    rw [heq] at hj ⊢
    exact hg.soundCommitment (h.commitments j hj)
  · intro j k hjk hj hk
    obtain ⟨_, heq⟩ := dropCommitment_left hj
    obtain ⟨_, heq'⟩ := dropCommitment_left hk
    rw [heq] at hj ⊢
    rw [heq'] at hk ⊢
    exact h.distinct j k hjk hj hk
  · rw [hg.one_total, ← h.reservationCount]
    rfl
  · have := hsum Commitment.one rfl
    rw [← h.commitmentCount, Commitment.one, if_pos hi] at this
    change a.commitmentCount - 1 = total Commitment.one (dropCommitment a i).commitments
    omega
  · rw [hg.liveBytes_total, ← h.reservedBytes]
    rfl
  · have := hsum Commitment.liveBytes rfl
    rw [← h.committedBytes, Commitment.liveBytes, if_pos hi] at this
    change a.totalCommittedBytes - (a.commitments i).bytes =
      total Commitment.liveBytes (dropCommitment a i).commitments
    omega
  · intro t ht
    rw [hg.live] at ht
    have := hsum (Commitment.bytesIn t) (by simp [Commitment.bytesIn])
    rw [← h.inReservation t ht] at this
    by_cases hts : t = (a.commitments i).reservationSlot
    · subst hts
      rw [Commitment.bytesIn, if_pos ⟨hi, rfl⟩] at this
      have hleft : ((dropCommitment a i).reservations
          (a.commitments i).reservationSlot).committedBytes =
          (a.reservations (a.commitments i).reservationSlot).committedBytes -
            (a.commitments i).bytes := by
        simp [dropCommitment]
      omega
    · rw [Commitment.bytesIn, if_neg (by rintro ⟨_, heq⟩; exact hts heq.symm)] at this
      have hsame : ((dropCommitment a i).reservations t).committedBytes =
          (a.reservations t).committedBytes := by
        simp [dropCommitment, hts]
      omega

/-! ## The operations on commitments -/

theorem overlappingCommitment?_none {base bytes : Nat}
    (h : overlappingCommitment? a base bytes = none) :
    ∀ j, (a.commitments j).live = true →
      Apart base bytes (a.commitments j).base (a.commitments j).bytes := by
  intro j hj
  have := List.find?_eq_none.mp h j (List.mem_finRange j)
  simp only [hj, Bool.true_and, Bool.not_eq_true] at this
  exact rangesOverlap_facts this

theorem coveringReservation?_some {base bytes : Nat}
    (h : coveringReservation? a base bytes = some s) :
    (a.reservations s).live = true ∧
    rangeContains (a.reservations s).base (a.reservations s).bytes base bytes = true := by
  have := List.find?_some h
  simpa using this

theorem commit_eq_ok {base bytes generation : Nat} (h : commit a base bytes generation = .ok a') :
    ∃ i x, a' = addCommitment a i x ∧ (a.commitments i).live = false ∧ x.live = true ∧
      SoundCommitment (a.reservations x.reservationSlot) x ∧
      ∀ j, (a.commitments j).live = true →
        Apart x.base x.bytes (a.commitments j).base (a.commitments j).bytes := by
  unfold commit at h
  split at h
  · cases h
  · rename_i hargs
    split at h
    · cases h
    · split at h
      · cases h
      · rename_i s hs
        split at h
        · cases h
        · rename_i hover
          split at h
          · cases h
          · split at h
            · cases h
            · split at h
              · cases h
              · rename_i i hi
                cases h
                obtain ⟨hlive, hin⟩ := coveringReservation?_some hs
                obtain ⟨hbytes, hin⟩ := rangeContains_facts hin
                have hnone := Option.not_isSome_iff_eq_none.mp hover
                refine ⟨i, _, rfl, freeCommitment?_some hi, rfl,
                  ⟨hlive, hbytes, hin, by dsimp only; omega, rfl, ?_⟩,
                  overlappingCommitment?_none hnone⟩
                intro hzero
                exact absurd rfl hzero

theorem commit_inv {base bytes generation : Nat} (h : ArenaInv a)
    (hok : commit a base bytes generation = .ok a') : ArenaInv a' := by
  obtain ⟨i, x, rfl, hi, hlive, hx, hout⟩ := commit_eq_ok hok
  exact addCommitment_inv h hi hlive hx hout

theorem exactCommitment?_some {base bytes : Nat} (h : exactCommitment? a base bytes = some i) :
    (a.commitments i).live = true ∧ (a.commitments i).base = base ∧
    (a.commitments i).bytes = bytes := by
  have := List.find?_some h
  simpa [and_assoc] using this

theorem decommit_eq_ok {base bytes : Nat} (hok : decommit a base bytes = .ok a') :
    ∃ i, exactCommitment? a base bytes = some i ∧ a' = dropCommitment a i := by
  unfold decommit at hok
  split at hok
  · cases hok
  · split at hok
    · cases hok
    · rename_i i hi
      split at hok
      · cases hok
      · cases hok
        exact ⟨i, hi, rfl⟩

theorem decommit_inv {base bytes : Nat} (h : ArenaInv a) (hok : decommit a base bytes = .ok a') :
    ArenaInv a' := by
  obtain ⟨i, hi, rfl⟩ := decommit_eq_ok hok
  exact dropCommitment_inv h (exactCommitment?_some hi).1

/-- The record of a single page. -/
def pageRecord (s : ReservationSlot) (v p generation : Nat) : Commitment :=
  { live := true, reservationSlot := s, base := v, bytes := pageSize, physicalBase := p,
    pageCount := 1, state := .committed, generation }

theorem withCommitment_eq (v p generation : Nat) :
    withCommitment a i s v p generation = addCommitment a i (pageRecord s v p generation) := rfl

theorem withoutCommitment_eq (h : (a.commitments i).bytes = pageSize) :
    withoutCommitment a i = dropCommitment a i := by
  unfold withoutCommitment dropCommitment
  rw [h]

theorem pageCommitment?_some {v : Nat} (h : pageCommitment? a v = some i) :
    (a.commitments i).live = true ∧ (a.commitments i).base = v ∧
    (a.commitments i).bytes = pageSize := by
  have := List.find?_some h
  simpa [and_assoc] using this

/-- A page is committed already, or it gets a commitment of its own. -/
theorem commitPage_eq_ok {v p generation : Nat} (hok : commitPage a v p generation = .ok a') :
    (a' = a ∧ ∃ i, pageCommitment? a v = some i ∧ (a.commitments i).physicalBase = p) ∨
    (pageCommitment? a v = none ∧ ∃ i s, (a.commitments i).live = false ∧
      v % pageSize = 0 ∧ SoundCommitment (a.reservations s) (pageRecord s v p generation) ∧
      a' = addCommitment a i (pageRecord s v p generation)) := by
  unfold commitPage at hok
  split at hok
  · cases hok
  · rename_i hargs
    split at hok
    · cases hok
    · rename_i halign
      split at hok
      · cases hok
      · rename_i s hs
        split at hok
        · cases hok
        · rename_i hin
          simp only [not_or, Decidable.not_not] at hin
          split at hok
          · rename_i i hi
            split at hok
            · cases hok
            · rename_i hsame
              cases hok
              exact Or.inl ⟨rfl, i, hi, Decidable.not_not.mp hsame⟩
          · rename_i hnone
            split at hok
            · cases hok
            · split at hok
              · cases hok
              · split at hok
                · cases hok
                · rename_i i hi
                  cases hok
                  obtain ⟨hbytes, hrange⟩ := rangeContains_facts hin.2
                  refine Or.inr ⟨hnone, i, s, freeCommitment?_some hi, by omega, ?_,
                    withCommitment_eq v p generation⟩
                  exact ⟨(findReservation_some hs).1, hbytes, hrange,
                    by simp only [pageRecord]; omega, rfl, fun _ => Nat.one_ne_zero⟩

theorem commitPage_inv {v p generation : Nat} (h : ArenaInv a)
    (hout : pageCommitment? a v = none → ∀ j, (a.commitments j).live = true →
      Apart v pageSize (a.commitments j).base (a.commitments j).bytes)
    (hok : commitPage a v p generation = .ok a') : ArenaInv a' := by
  rcases commitPage_eq_ok hok with ⟨rfl, -⟩ | ⟨hnone, i, s, hi, -, hx, rfl⟩
  · exact h
  · exact addCommitment_inv h hi rfl hx (hout hnone)

theorem decommitPage_eq_ok {v : Nat} (hok : decommitPage a v = .ok a') :
    ∃ i, pageCommitment? a v = some i ∧ a' = dropCommitment a i := by
  unfold decommitPage at hok
  split at hok
  · cases hok
  · split at hok
    · cases hok
    · rename_i i hi
      dsimp only at hok
      split at hok
      · cases hok
      · cases hok
        exact ⟨i, hi, withoutCommitment_eq (pageCommitment?_some hi).2.2⟩

theorem decommitPage_inv {v : Nat} (h : ArenaInv a) (hok : decommitPage a v = .ok a') :
    ArenaInv a' := by
  obtain ⟨i, hi, rfl⟩ := decommitPage_eq_ok hok
  exact dropCommitment_inv h (pageCommitment?_some hi).1

end Gate4Harness.Vm
