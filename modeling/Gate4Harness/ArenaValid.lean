-- What `gxos_vm_arena_validate` is for: it succeeds on the arenas that keep the invariant,
-- and on no others. So a law of every valid arena is a law of the invariant.
import Gate4Harness.ArenaLaws

namespace Gate4Harness.Vm

open Tables

variable {a : Arena} {s : ReservationSlot} {i : CommitmentSlot}

/-! ## One record -/

theorem reservationSound_facts {x : Reservation} (h : reservationSound a x = true) :
    SoundReservation a.base a.length x ∧ x.committedBytes ≤ x.bytes := by
  unfold reservationSound at h
  simp only [Bool.and_eq_true, Bool.or_eq_true, decide_eq_true_eq] at h
  obtain ⟨⟨⟨⟨⟨⟨⟨hin, hgen⟩, hreq⟩, hle⟩, -⟩, hzero⟩, hpos⟩, hcommitted⟩ := h
  refine ⟨⟨?_, a.contains_facts hin, hgen, ⟨hreq, hle⟩, ?_⟩, hcommitted⟩
  · unfold Arena.contains at hin
    rw [Bool.and_eq_true] at hin
    exact (rangeContains_facts hin.2).1
  · by_cases hc : x.committedBytes = 0
    · rw [if_pos hc]
      exact hzero.resolve_left fun hne => hne hc
    · rw [if_neg hc]
      exact hpos.resolve_left hc

theorem commitmentSound_facts {x : Commitment} (h : commitmentSound a x = true) :
    SoundCommitment (a.reservations x.reservationSlot) x := by
  unfold commitmentSound at h
  simp only [Bool.and_eq_true, Bool.or_eq_true, decide_eq_true_eq] at h
  obtain ⟨⟨⟨⟨hlive, hgen⟩, hstate⟩, hpages⟩, hin⟩ := h
  obtain ⟨hbytes, hinside⟩ := rangeContains_facts hin
  exact ⟨hlive, hbytes, hinside, hgen, hstate, fun hp => hpages.resolve_left hp⟩

/-! ## One turn of each loop -/

theorem scanReservation_eq_some {t t' : ReservationTally}
    (h : scanReservation a (some t) s = some t') :
    ((a.reservations s).live = true → reservationSound a (a.reservations s) = true ∧
      ∀ r, s < r → (a.reservations r).live = true →
        rangesOverlap (a.reservations s).base (a.reservations s).bytes (a.reservations r).base
          (a.reservations r).bytes = false) ∧
    t' = { reservations := t.reservations + (a.reservations s).one
           reserved := t.reserved + (a.reservations s).liveBytes } := by
  unfold scanReservation at h
  dsimp only at h
  by_cases hs : (a.reservations s).live = true
  · rw [if_neg (not_not_intro hs)] at h
    split at h
    · cases h
    · rename_i hsound
      rw [Decidable.not_not] at hsound
      split at h
      · cases h
      · rename_i reserved hsum
        split at h
        · cases h
        · rename_i hany
          rw [addU64_eq_some hsum] at h
          cases h
          rw [Bool.not_eq_true, List.any_eq_false] at hany
          refine ⟨fun _ => ⟨hsound, fun r hr hlive => ?_⟩, ?_⟩
          · simpa [hr, hlive] using hany r (List.mem_finRange r)
          · simp [Reservation.one, Reservation.liveBytes, hs]
  · rw [if_pos hs] at h
    cases h
    exact ⟨fun hlive => absurd hlive hs, by simp [Reservation.one, Reservation.liveBytes, hs]⟩

theorem scanCommitment_eq_some {t t' : CommitmentTally}
    (h : scanCommitment a (some t) i = some t') :
    ((a.commitments i).live = true → commitmentSound a (a.commitments i) = true ∧
      ∀ j, i < j → (a.commitments j).live = true →
        rangesOverlap (a.commitments i).base (a.commitments i).bytes (a.commitments j).base
          (a.commitments j).bytes = false) ∧
    t'.commitments = t.commitments + (a.commitments i).one ∧
    t'.committed = t.committed + (a.commitments i).liveBytes ∧
    ∀ s, t'.reservationCommitted s =
      t.reservationCommitted s + Commitment.bytesIn s (a.commitments i) := by
  unfold scanCommitment at h
  dsimp only at h
  by_cases hi : (a.commitments i).live = true
  · rw [if_neg (not_not_intro hi)] at h
    split at h
    · cases h
    · rename_i hsound
      rw [Decidable.not_not] at hsound
      split at h
      · rename_i committed inReservation hsum hsum'
        split at h
        · cases h
        · rename_i hany
          rw [addU64_eq_some hsum, addU64_eq_some hsum'] at h
          cases h
          rw [Bool.not_eq_true, List.any_eq_false] at hany
          refine ⟨fun _ => ⟨hsound, fun j hj hlive => ?_⟩, ?_, ?_, ?_⟩
          · simpa [hj, hlive] using hany j (List.mem_finRange j)
          · simp [Commitment.one, hi]
          · simp [Commitment.liveBytes, hi]
          · intro s
            by_cases hs : s = (a.commitments i).reservationSlot
            · subst hs
              simp [Commitment.bytesIn, hi]
            · simp [Commitment.bytesIn, hs, Ne.symm hs]
      · cases h
  · rw [if_pos hi] at h
    cases h
    refine ⟨fun hlive => absurd hlive hi, ?_, ?_, ?_⟩
    · simp [Commitment.one, hi]
    · simp [Commitment.liveBytes, hi]
    · intro s
      simp [Commitment.bytesIn, hi]

/-! ## Whole tables -/

theorem scanReservation_end {r : ReservationTally}
    (h : (List.finRange maxReservations).foldl (scanReservation a) (some {}) = some r) :
    r.reservations = total Reservation.one a.reservations ∧
    r.reserved = total Reservation.liveBytes a.reservations := by
  have hat : ReservationsAt a (List.finRange maxReservations) r := by
    apply foldl_kept (fun _ => rfl) h ⟨rfl, rfl⟩
    intro done s t t' ht hturn
    obtain ⟨-, rfl⟩ := scanReservation_eq_some hturn
    exact ⟨by rw [totalOver_append, ← ht.reservations], by rw [totalOver_append, ← ht.reserved]⟩
  rw [hat.reservations, hat.reserved, totalOver_all, totalOver_all]
  exact ⟨rfl, rfl⟩

theorem scanCommitment_end {c : CommitmentTally}
    (h : (List.finRange maxCommitments).foldl (scanCommitment a) (some {}) = some c) :
    c.commitments = total Commitment.one a.commitments ∧
    c.committed = total Commitment.liveBytes a.commitments ∧
    ∀ s, c.reservationCommitted s = total (Commitment.bytesIn s) a.commitments := by
  have hat : CommitmentsAt a (List.finRange maxCommitments) c := by
    apply foldl_kept (fun _ => rfl) h ⟨rfl, rfl, fun _ => rfl⟩
    intro done i t t' ht hturn
    obtain ⟨-, h1, h2, h3⟩ := scanCommitment_eq_some hturn
    refine ⟨?_, ?_, fun s => ?_⟩
    · rw [h1, totalOver_append, ← ht.commitments]
    · rw [h2, totalOver_append, ← ht.committed]
    · rw [h3 s, totalOver_append, ← ht.inReservation]
  refine ⟨?_, ?_, fun s => ?_⟩
  · rw [hat.commitments, totalOver_all]
  · rw [hat.committed, totalOver_all]
  · rw [hat.inReservation, totalOver_all]

/-- An arena that passes the validation keeps the invariant. -/
theorem validate_arenaInv (h : validate a = true) : ArenaInv a := by
  unfold validate at h
  split at h
  · cases h
  · split at h
    · rename_i r c hr hc
      simp only [Bool.and_eq_true, decide_eq_true_eq, List.all_eq_true, Bool.or_eq_true,
        Bool.not_eq_true'] at h
      obtain ⟨⟨⟨⟨hall, hrcount⟩, hccount⟩, hreserved⟩, hcommitted⟩ := h
      obtain ⟨hr1, hr2⟩ := scanReservation_end hr
      obtain ⟨hc1, hc2, hc3⟩ := scanCommitment_end hc
      have hreservation : ∀ s, (a.reservations s).live = true →
          reservationSound a (a.reservations s) = true ∧
          ∀ r, s < r → (a.reservations r).live = true →
            rangesOverlap (a.reservations s).base (a.reservations s).bytes (a.reservations r).base
              (a.reservations r).bytes = false := by
        intro s
        obtain ⟨t, t', hturn⟩ := foldl_turn (fun _ => rfl) hr (List.mem_finRange s)
        exact (scanReservation_eq_some hturn).1
      have hcommitment : ∀ i, (a.commitments i).live = true →
          commitmentSound a (a.commitments i) = true ∧
          ∀ j, i < j → (a.commitments j).live = true →
            rangesOverlap (a.commitments i).base (a.commitments i).bytes (a.commitments j).base
              (a.commitments j).bytes = false := by
        intro i
        obtain ⟨t, t', hturn⟩ := foldl_turn (fun _ => rfl) hc (List.mem_finRange i)
        exact (scanCommitment_eq_some hturn).1
      refine ⟨fun s hs => (reservationSound_facts (hreservation s hs).1).1, ?_,
        fun i hi => commitmentSound_facts (hcommitment i hi).1, ?_, hrcount.symm.trans hr1,
        hccount.symm.trans hc1, hreserved.symm.trans hr2, hcommitted.symm.trans hc2, ?_⟩
      · intro s t hst hs ht
        rcases lt_or_gt_of_ne hst with hlt | hgt
        · exact rangesOverlap_facts ((hreservation s hs).2 t hlt ht)
        · exact (rangesOverlap_facts ((hreservation t ht).2 s hgt hs)).symm
      · intro i j hij hi hj
        rcases lt_or_gt_of_ne hij with hlt | hgt
        · exact rangesOverlap_facts ((hcommitment i hi).2 j hlt hj)
        · exact (rangesOverlap_facts ((hcommitment j hj).2 i hgt hi)).symm
      · intro s hs
        have heq := (hall s (List.mem_finRange s)).resolve_left (by simp [hs])
        rw [← heq, hc3]
    · cases h

theorem validate_sane (hlength : a.length ≤ uint64Max) (h : validate a = true) : a.Sane := by
  unfold validate at h
  split at h
  · cases h
  · rename_i hguard
    simp only [not_or, Decidable.not_not] at hguard
    exact ⟨hguard.1, hguard.2.1, by omega, hguard.2.2.2⟩

theorem validate_iff (hlength : a.length ≤ uint64Max) :
    validate a = true ↔ ArenaInv a ∧ a.Sane :=
  ⟨fun h => ⟨validate_arenaInv h, validate_sane hlength h⟩, fun h => h.1.validate h.2⟩

end Gate4Harness.Vm
