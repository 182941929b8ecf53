-- The search of `reserve_any` for a hole. It looks at the reservations in slot order and
-- moves its candidate past each that is in the way. No hole is skipped: whatever fits at or
-- above the candidate lies behind every reservation that the candidate meets.
import Gate4Harness.ArenaValid
import Mathlib.Order.Bounds.Basic

namespace Gate4Harness.Vm

open Tables

variable {a a' : Arena} {s : ReservationSlot} {b bytes candidate turns : Nat}
  {requestedBytes kind owner generation : Nat}

/-! ## Rounding -/

/-- A size in whole pages, without a bound on its bits. -/
def pageUp (bytes : Nat) : Nat := (bytes + pageSize - 1) / pageSize * pageSize

theorem pageRoundBytes_eq (h : pageRoundBytes bytes ≠ 0) :
    pageRoundBytes bytes = pageUp bytes := by
  unfold pageRoundBytes at h ⊢
  split at h
  · exact absurd rfl h
  · rename_i hgood
    rw [if_neg hgood]
    rfl

/-- A size that cannot be rounded in 64 bits is larger than any range. -/
theorem lt_pageUp (hbytes : bytes ≠ 0) (h : pageRoundBytes bytes = 0) :
    uint64Max < pageUp bytes := by
  unfold pageRoundBytes at h
  split at h
  · unfold pageUp
    simp only [pageSize, uint64Max] at *
    omega
  · unfold pageDown at h
    simp only [pageSize] at *
    omega

/-- The next multiple is the least one that is not below the value. -/
theorem alignUpU64_eq_some {value next : Nat}
    (h : alignUpU64 value reservationGranularity = some next) :
    next % reservationGranularity = 0 ∧ value ≤ next ∧
    ∀ b, b % reservationGranularity = 0 → value ≤ b → next ≤ b := by
  unfold alignUpU64 at h
  rw [if_neg (by decide)] at h
  by_cases hmod : value % reservationGranularity = 0
  · rw [if_pos hmod] at h
    obtain rfl := addU64_eq_some h
    exact ⟨hmod, le_refl _, fun b _ hb => hb⟩
  · rw [if_neg hmod] at h
    obtain rfl := addU64_eq_some h
    simp only [reservationGranularity] at *
    exact ⟨by omega, by omega, fun b hb hle => by omega⟩

theorem alignUpU64_eq_none {value : Nat} (hvalue : value ≤ uint64Max)
    (h : alignUpU64 value reservationGranularity = none) (hmod : b % reservationGranularity = 0)
    (hb : value ≤ b) : uint64Max < b := by
  unfold alignUpU64 at h
  rw [if_neg (by decide)] at h
  have hroom : ∀ increment, addU64 value increment = none → uint64Max < value + increment := by
    intro increment hnone
    unfold addU64 at hnone
    split at hnone
    · omega
    · cases hnone
  by_cases hz : value % reservationGranularity = 0
  · rw [if_pos hz] at h
    have := hroom _ h
    omega
  · rw [if_neg hz] at h
    have := hroom _ h
    simp only [reservationGranularity] at *
    omega

/-! ## What a hole is -/

/-- A base at which a reservation of so many bytes fits. -/
structure Fits (a : Arena) (base bytes : Nat) : Prop where
  aligned : base % reservationGranularity = 0
  above : a.base ≤ base
  below : base + bytes ≤ a.base + a.length
  free : ∀ s, (a.reservations s).live = true →
    Apart base bytes (a.reservations s).base (a.reservations s).bytes

/-! ## One turn of the search -/

/-- Where the inner loop stands after the slots in `done`. A hole at or above the candidate
is at or above the next candidate. -/
structure TurnAt (a : Arena) (candidate bytes : Nat) (done : List ReservationSlot)
    (acc : Bool × Nat) : Prop where
  stays : acc.1 = false → acc.2 = candidate ∧ ∀ s ∈ done, (a.reservations s).live = true →
    Apart candidate bytes (a.reservations s).base (a.reservations s).bytes
  moves : acc.1 = true → candidate < acc.2 ∧ acc.2 % reservationGranularity = 0
  skips : ∀ b, Fits a b bytes → candidate ≤ b → acc.2 ≤ b

section Turn

variable (h : ArenaInv a) (hsane : a.Sane) (hbytes : bytes ≠ 0)
  (hfits : candidate + bytes ≤ a.base + a.length)

include h hsane hbytes hfits

/-- What a reservation in the way says of the holes above the candidate. -/
theorem behind_reservation (hs : (a.reservations s).live = true)
    (hover : rangesOverlap candidate bytes (a.reservations s).base (a.reservations s).bytes =
      true) :
    candidate < (a.reservations s).base + (a.reservations s).bytes ∧
    ∀ b, Fits a b bytes → candidate ≤ b →
      (a.reservations s).base + (a.reservations s).bytes ≤ b := by
  have hx := h.reservations s hs
  have hinside := hx.inside
  have hend := hsane.fits
  have hmeet : ¬ Apart candidate bytes (a.reservations s).base (a.reservations s).bytes := by
    intro hapart
    rw [hapart.rangesOverlap hbytes hx.nonempty (by omega) (by omega)] at hover
    cases hover
  unfold Apart at hmeet
  refine ⟨by omega, fun b hb hle => ?_⟩
  have hapart := hb.free s hs
  unfold Apart at hapart
  omega

theorem tryReservation_spec {done : List ReservationSlot} {acc : Bool × Nat}
    (hacc : TurnAt a candidate bytes done acc) (s : ReservationSlot) :
    match tryReservation a candidate bytes acc s with
    | .ok acc' => TurnAt a candidate bytes (done ++ [s]) acc'
    | .error _ => ∀ b, candidate ≤ b → ¬ Fits a b bytes := by
  have hend := hsane.fits
  -- a slot that is not in the way leaves the accumulator
  have hkeep : ((a.reservations s).live = true →
      Apart candidate bytes (a.reservations s).base (a.reservations s).bytes) →
      TurnAt a candidate bytes (done ++ [s]) acc := by
    intro hapart
    refine ⟨fun hno => ⟨(hacc.stays hno).1, fun t ht hlive => ?_⟩, hacc.moves, hacc.skips⟩
    rcases List.mem_append.mp ht with hold | hnew
    · exact (hacc.stays hno).2 t hold hlive
    · obtain rfl := List.mem_singleton.mp hnew
      exact hapart hlive
  unfold tryReservation
  dsimp only
  by_cases hs : (a.reservations s).live = true
  swap
  · rw [if_pos hs]
    exact hkeep fun hlive => absurd hlive hs
  rw [if_neg (not_not_intro hs)]
  have hx := h.reservations s hs
  have hinside := hx.inside
  rw [rangeEnd_eq hx.nonempty (by omega)]
  dsimp only
  cases hover : rangesOverlap candidate bytes (a.reservations s).base (a.reservations s).bytes with
  | false =>
    rw [if_neg Bool.false_ne_true]
    exact hkeep fun _ => rangesOverlap_facts hover
  | true =>
    obtain ⟨hbelow, hskip⟩ := behind_reservation h hsane hbytes hfits hs hover
    rw [if_pos rfl]
    by_cases hnext : (a.reservations s).base + (a.reservations s).bytes > acc.2
    · rw [if_pos hnext]
      cases halign : alignUpU64 ((a.reservations s).base + (a.reservations s).bytes)
          reservationGranularity with
      | none =>
        intro b hle hb
        have hbig := alignUpU64_eq_none (by omega) halign hb.aligned (hskip b hb hle)
        have := hb.below
        omega
      | some next =>
        obtain ⟨hmod, hle, hleast⟩ := alignUpU64_eq_some halign
        refine ⟨nofun, fun _ => ⟨?_, hmod⟩, fun b hb hcand => ?_⟩
        · exact Nat.lt_of_lt_of_le hbelow hle
        · exact hleast b hb.aligned (hskip b hb hcand)
    · rw [if_neg hnext]
      refine ⟨nofun, fun _ => ⟨by dsimp only; omega, ?_⟩, hacc.skips⟩
      -- the candidate alone does not reach behind this reservation, so it has moved before
      cases hmoved : acc.1 with
      | true => exact (hacc.moves hmoved).2
      | false =>
        have := (hacc.stays hmoved).1
        omega

theorem tryReservations_spec (rest : List ReservationSlot) {done : List ReservationSlot}
    {acc : Bool × Nat} (hacc : TurnAt a candidate bytes done acc) :
    match rest.foldlM (tryReservation a candidate bytes) acc with
    | .ok acc' => TurnAt a candidate bytes (done ++ rest) acc'
    | .error _ => ∀ b, candidate ≤ b → ¬ Fits a b bytes := by
  induction rest generalizing done acc with
  | nil =>
    rw [List.append_nil]
    exact hacc
  | cons s rest ih =>
    have hone := tryReservation_spec h hsane hbytes hfits hacc s
    rw [List.foldlM_cons]
    cases hturn : tryReservation a candidate bytes acc s with
    | error e =>
      rw [hturn] at hone
      exact hone
    | ok acc' =>
      rw [hturn] at hone
      have hrest := ih hone
      rwa [List.append_assoc, List.singleton_append] at hrest

omit hfits in
/-- The inner loop for a candidate that has room below the end of the arena. -/
theorem search_turn
    (hroom : candidate ≤ a.base + a.length ∧ bytes ≤ a.base + a.length - candidate) :
    match (List.finRange maxReservations).foldlM (tryReservation a candidate bytes)
      (false, candidate) with
    | .ok acc => TurnAt a candidate bytes (List.finRange maxReservations) acc
    | .error _ => ∀ b, candidate ≤ b → ¬ Fits a b bytes := by
  have hfirst : TurnAt a candidate bytes [] (false, candidate) :=
    ⟨fun _ => ⟨rfl, nofun⟩, nofun, fun _ _ hle => hle⟩
  have hloop := tryReservations_spec h hsane hbytes (by omega) (List.finRange maxReservations)
    hfirst
  rwa [List.nil_append] at hloop

end Turn

/-! ## The whole search -/

/-- The answer of `reserve_any` once a base is found. -/
def reserveAt (a : Arena) (base requestedBytes kind owner generation : Nat) :
    Except ArenaError (Nat × ReservationSlot × Arena) :=
  match reserveFixed a base requestedBytes kind owner generation with
  | .error e => .error e
  | .ok (s, a1) => .ok (base, s, a1)

/-- The runs of the outer loop that come to an end, from a candidate on. No bound is set on
the number of turns. -/
inductive SearchEnds (a : Arena) (arenaEnd bytes requestedBytes kind owner generation : Nat) :
    Nat → Except ArenaError (Nat × ReservationSlot × Arena) → Prop
  | past {candidate : Nat} : ¬ (candidate ≤ arenaEnd ∧ bytes ≤ arenaEnd - candidate) →
      SearchEnds a arenaEnd bytes requestedBytes kind owner generation candidate
        (.error .outsideArena)
  | failed {candidate : Nat} {e : ArenaError} :
      candidate ≤ arenaEnd ∧ bytes ≤ arenaEnd - candidate →
      (List.finRange maxReservations).foldlM (tryReservation a candidate bytes)
        (false, candidate) = .error e →
      SearchEnds a arenaEnd bytes requestedBytes kind owner generation candidate (.error e)
  | found {candidate next : Nat} : candidate ≤ arenaEnd ∧ bytes ≤ arenaEnd - candidate →
      (List.finRange maxReservations).foldlM (tryReservation a candidate bytes)
        (false, candidate) = .ok (false, next) →
      SearchEnds a arenaEnd bytes requestedBytes kind owner generation candidate
        (reserveAt a candidate requestedBytes kind owner generation)
  | stuck {candidate next : Nat} : candidate ≤ arenaEnd ∧ bytes ≤ arenaEnd - candidate →
      (List.finRange maxReservations).foldlM (tryReservation a candidate bytes)
        (false, candidate) = .ok (true, next) → next ≤ candidate →
      SearchEnds a arenaEnd bytes requestedBytes kind owner generation candidate
        (.error .overflow)
  | moves {candidate next : Nat} {result : Except ArenaError (Nat × ReservationSlot × Arena)} :
      candidate ≤ arenaEnd ∧ bytes ≤ arenaEnd - candidate →
      (List.finRange maxReservations).foldlM (tryReservation a candidate bytes)
        (false, candidate) = .ok (true, next) → candidate < next →
      SearchEnds a arenaEnd bytes requestedBytes kind owner generation next result →
      SearchEnds a arenaEnd bytes requestedBytes kind owner generation candidate result

/-- One turn for each address up to the end is enough. -/
theorem reserveFrom_ends (a : Arena) (arenaEnd bytes requestedBytes kind owner generation : Nat)
    (hturns : arenaEnd + 1 - candidate ≤ turns) :
    SearchEnds a arenaEnd bytes requestedBytes kind owner generation candidate
      (reserveFrom a arenaEnd bytes requestedBytes kind owner generation turns candidate) := by
  induction turns generalizing candidate with
  | zero => exact .past (by omega)
  | succ turns ih =>
    unfold reserveFrom
    by_cases hroom : candidate ≤ arenaEnd ∧ bytes ≤ arenaEnd - candidate
    · rw [if_pos hroom]
      cases hturn : (List.finRange maxReservations).foldlM (tryReservation a candidate bytes)
          (false, candidate) with
      | error e => exact .failed hroom hturn
      | ok acc =>
        obtain ⟨conflict, next⟩ := acc
        cases conflict with
        | false => exact .found hroom hturn
        | true =>
          dsimp only
          by_cases hnext : next ≤ candidate
          · rw [if_pos hnext]
            exact .stuck hroom hturn hnext
          · rw [if_neg hnext]
            exact .moves hroom hturn (by omega) (ih (by omega))
    · rw [if_neg hroom]
      exact .past hroom

/-- How the search ends: at the lowest hole, or with a failure when there is none. -/
inductive SearchOutcome (a : Arena) (bytes requestedBytes kind owner generation : Nat) :
    Except ArenaError (Nat × ReservationSlot × Arena) → Prop
  | lowest {b : Nat} : IsLeast {b | Fits a b bytes} b →
      SearchOutcome a bytes requestedBytes kind owner generation
        (reserveAt a b requestedBytes kind owner generation)
  | noHole {e : ArenaError} : (∀ b, ¬ Fits a b bytes) →
      SearchOutcome a bytes requestedBytes kind owner generation (.error e)

/-- The invariant of the search: the candidate is aligned, and no hole is below it. -/
theorem SearchEnds.outcome (h : ArenaInv a) (hsane : a.Sane) (hbytes : bytes ≠ 0)
    {result : Except ArenaError (Nat × ReservationSlot × Arena)}
    (hends : SearchEnds a (a.base + a.length) bytes requestedBytes kind owner generation candidate
      result)
    (haligned : candidate % reservationGranularity = 0) (habove : a.base ≤ candidate)
    (hlow : ∀ b, Fits a b bytes → candidate ≤ b) :
    SearchOutcome a bytes requestedBytes kind owner generation result := by
  induction hends with
  | past hroom =>
    refine .noHole fun b hb => hroom ?_
    have := hlow b hb
    have := hb.below
    omega
  | failed hroom hfold =>
    have hspec := search_turn h hsane hbytes hroom
    rw [hfold] at hspec
    exact .noHole fun b hb => hspec b (hlow b hb) hb
  | @found candidate next hroom hfold =>
    have hspec := search_turn h hsane hbytes hroom
    rw [hfold] at hspec
    refine .lowest ⟨⟨haligned, habove, by omega, fun s hs => ?_⟩, fun b hb => hlow b hb⟩
    exact (hspec.stays rfl).2 s (List.mem_finRange s) hs
  | stuck hroom hfold hstuck =>
    have hspec := search_turn h hsane hbytes hroom
    rw [hfold] at hspec
    exact absurd (hspec.moves rfl).1 (by dsimp only; omega)
  | moves hroom hfold _ _ ih =>
    have hspec := search_turn h hsane hbytes hroom
    rw [hfold] at hspec
    obtain ⟨hup, hmod⟩ := hspec.moves rfl
    exact ih hmod (by dsimp only at hup; omega) fun b hb => hspec.skips b hb (hlow b hb)

/-! ## The reservation at the hole -/

theorem all_live_iff (h : ArenaInv a) :
    a.reservationCount ≥ maxReservations ↔ ∀ s, (a.reservations s).live = true := by
  have hone : ∀ s, (a.reservations s).one ≤ 1 := by
    intro s
    unfold Reservation.one
    split <;> omega
  rw [h.reservationCount]
  constructor
  · intro hall s
    by_contra hdead
    have hzero : (a.reservations s).one = 0 := by simp [Reservation.one, hdead]
    have hlt : total Reservation.one a.reservations <
        Finset.univ.sum fun _ : ReservationSlot => 1 := by
      apply Finset.sum_lt_sum fun t _ => hone t
      exact ⟨s, Finset.mem_univ s, by rw [hzero]; exact Nat.one_pos⟩
    simp only [Finset.sum_const, Finset.card_univ, Fintype.card_fin, smul_eq_mul, mul_one] at hlt
    omega
  · intro hall
    have heq : total Reservation.one a.reservations =
        Finset.univ.sum fun _ : ReservationSlot => 1 := by
      apply Finset.sum_congr rfl
      intro s _
      simp [Reservation.one, hall s]
    simp only [Finset.sum_const, Finset.card_univ, Fintype.card_fin, smul_eq_mul, mul_one] at heq
    omega

section Place

variable (h : ArenaInv a) (hsane : a.Sane) (hrequested : requestedBytes ≠ 0)
  (hgen : generation ≠ 0) (hround : pageRoundBytes requestedBytes ≠ 0)
  (hfits : Fits a b (pageRoundBytes requestedBytes))

include h hsane hrequested hgen hround hfits

/-- In a hole only the number of reservations can be in the way. -/
theorem reserveFixed_of_fits :
    reserveFixed a b requestedBytes kind owner generation =
      match freeReservation? a with
      | none => .error .capacity
      | some s => .ok (s, withReservation a s
          { live := true, base := b, bytes := pageRoundBytes requestedBytes, requestedBytes, kind,
            state := .reserved, owner, generation, committedBytes := 0 }
          (a.totalReservedBytes + pageRoundBytes requestedBytes)) := by
  have hbelow := hfits.below
  have hend := hsane.fits
  have hin : a.contains b (pageRoundBytes requestedBytes) = true := by
    unfold Arena.contains
    rw [hsane.valid, rangeContains_of hround ⟨hfits.above, hbelow⟩ hend]
    rfl
  have hapart : overlappingReservation? a b (pageRoundBytes requestedBytes) = none := by
    apply List.find?_eq_none.mpr
    intro s _
    by_cases hs : (a.reservations s).live = true
    · have hx := h.reservations s hs
      have hinside := hx.inside
      rw [(hfits.free s hs).rangesOverlap hround hx.nonempty (by omega) (by omega)]
      simp
    · simp [hs]
  unfold reserveFixed reserve
  rw [if_neg hrequested, if_neg (not_not_intro hfits.aligned), if_neg hround,
    if_neg (by simp [hsane.valid, hgen, hround]), if_neg (by omega), if_neg (by simp [hin]),
    hapart]
  cases hfree : freeReservation? a with
  | none =>
    have hall : ∀ s, (a.reservations s).live = true := by
      intro s
      simpa using List.find?_eq_none.mp hfree s (List.mem_finRange s)
    rw [if_pos ((all_live_iff h).mpr hall)]
    simp
  | some s =>
    have hdead : (a.reservations s).live = false := by
      simpa using List.find?_some hfree
    have hcount : ¬ a.reservationCount ≥ maxReservations := by
      intro hge
      rw [(all_live_iff h).mp hge s] at hdead
      cases hdead
    -- the new reservation is apart from the others, so the sum is within the arena
    have hnew := withReservation_inv h hdead rfl (r :=
      { live := true, base := b, bytes := pageRoundBytes requestedBytes, requestedBytes, kind,
        state := .reserved, owner, generation, committedBytes := 0 })
      ⟨hround, ⟨hfits.above, hbelow⟩, hgen, ⟨hrequested, le_pageRoundBytes hround⟩, rfl⟩
      hfits.free rfl
    have hle := hnew.reserved_le
    rw [← hnew.reservedBytes] at hle
    change a.totalReservedBytes + pageRoundBytes requestedBytes ≤ a.length at hle
    rw [if_neg hcount, addU64_eq (by omega)]
    simp [withReservation]

theorem reserveAt_ok (hfree : ∃ s, (a.reservations s).live = false) :
    ∃ s a', reserveAt a b requestedBytes kind owner generation = .ok (b, s, a') := by
  unfold reserveAt
  rw [reserveFixed_of_fits h hsane hrequested hgen hround hfits]
  cases hslot : freeReservation? a with
  | none =>
    obtain ⟨s, hs⟩ := hfree
    have hlive := List.find?_eq_none.mp hslot s (List.mem_finRange s)
    simp [hs] at hlive
  | some s => exact ⟨s, _, rfl⟩

theorem reserveAt_capacity (hall : ∀ s, (a.reservations s).live = true) :
    reserveAt a b requestedBytes kind owner generation = .error .capacity := by
  have hslot : freeReservation? a = none := by
    apply List.find?_eq_none.mpr
    intro s _
    simp [hall s]
  unfold reserveAt
  rw [reserveFixed_of_fits h hsane hrequested hgen hround hfits, hslot]

end Place

/-- What `reserve_any` answers for a valid arena. -/
theorem reserveAny_outcome (h : ArenaInv a) (hsane : a.Sane) (hrequested : requestedBytes ≠ 0)
    (hgen : generation ≠ 0) (kind owner : Nat) :
    (pageRoundBytes requestedBytes = 0 ∧
      reserveAny a requestedBytes kind owner generation = .error .overflow) ∨
    (pageRoundBytes requestedBytes ≠ 0 ∧
      SearchOutcome a (pageRoundBytes requestedBytes) requestedBytes kind owner generation
        (reserveAny a requestedBytes kind owner generation)) := by
  have hend := hsane.fits
  unfold reserveAny
  rw [if_neg (by simp [hrequested, hsane.valid, hgen])]
  by_cases hround : pageRoundBytes requestedBytes = 0
  · rw [if_pos hround]
    exact Or.inl ⟨hround, rfl⟩
  rw [if_neg hround, rangeEnd_eq hsane.length hend]
  refine Or.inr ⟨hround, ?_⟩
  cases halign : alignUpU64 a.base reservationGranularity with
  | none =>
    refine .noHole fun b hb => ?_
    have hbig := alignUpU64_eq_none (by omega) halign hb.aligned hb.above
    have := hb.below
    omega
  | some candidate =>
    obtain ⟨hmod, hle, hleast⟩ := alignUpU64_eq_some halign
    exact (reserveFrom_ends a _ _ _ kind owner generation (le_refl _)).outcome h hsane hround
      hmod hle fun b hb => hleast b hb.aligned hb.above

end Gate4Harness.Vm
