-- What each call on the virtual memory can do, branch by branch.
import Gate4Harness.ArenaInvariant
import Gate4Harness.VirtualMemory

namespace Gate4Harness.Vm

variable {W : Type} {c : Context W} {s : Space W}

/-- The pages that a commit works on: they lie in a live reservation. -/
structure PagesIn (a : Arena) (slot : ReservationSlot) (page count : Nat) : Prop where
  live : (a.reservations slot).live = true
  aligned : page % pageSize = 0
  above : (a.reservations slot).base ≤ page
  below : page + count * pageSize ≤ (a.reservations slot).base + (a.reservations slot).bytes

theorem roundUpPage_eq_some {value rounded : Nat} (h : roundUpPage value = some rounded) :
    rounded = pageDown (value + pageSize - 1) := by
  unfold roundUpPage at h
  split at h
  · cases h
  · cases h
    rfl

/-- `gxos_vm_commit_range` refuses, or it goes through the pages that its range meets. -/
theorem commitRange_cases (c : Context W) (s : Space W) (slot requestedStart requestedBytes : Nat)
    (writable executable : Bool) :
    (∃ e, commitRange c s slot requestedStart requestedBytes writable executable =
      (.error e, s)) ∨
    ∃ (r : ReservationSlot) (page count : Nat), r.val = slot ∧
      (page = pageDown requestedStart ∧
        page + count * pageSize = pageDown (requestedStart + requestedBytes + pageSize - 1)) ∧
      PagesIn s.arena r page count ∧
      commitRange c s slot requestedStart requestedBytes writable executable =
        commitFrom c writable executable s [] page count := by
  unfold commitRange
  by_cases h1 : c.generation = 0 ∨ requestedBytes = 0
  · rw [if_pos h1]
    exact Or.inl ⟨_, rfl⟩
  rw [if_neg h1]
  by_cases h2 : slot < maxReservations
  · rw [dif_pos h2]
    dsimp only
    cases hrequest : rangeEnd requestedStart requestedBytes with
    | none => exact Or.inl ⟨_, rfl⟩
    | some requestedEnd =>
      dsimp only
      cases hround : roundUpPage requestedEnd with
      | none => exact Or.inl ⟨_, rfl⟩
      | some endPage =>
        dsimp only
        by_cases h3 : (s.arena.reservations ⟨slot, h2⟩).live = true
        · rw [if_neg (not_not_intro h3)]
          by_cases h4 : endPage ≤ pageDown requestedStart ∨
              (rangeEnd (pageDown requestedStart) (endPage - pageDown requestedStart)).isNone
          · rw [if_pos h4]
            exact Or.inl ⟨_, rfl⟩
          rw [if_neg h4]
          cases hend : rangeEnd (s.arena.reservations ⟨slot, h2⟩).base
              (s.arena.reservations ⟨slot, h2⟩).bytes with
          | none => exact Or.inl ⟨_, rfl⟩
          | some reservationEnd =>
            dsimp only
            split
            · exact Or.inl ⟨_, rfl⟩
            · rename_i h5
              split
              · exact Or.inl ⟨_, rfl⟩
              · obtain ⟨-, rfl⟩ := rangeEnd_eq_some hend
                obtain ⟨-, rfl⟩ := rangeEnd_eq_some hrequest
                obtain rfl := roundUpPage_eq_some hround
                have hdown := pageDown_mod requestedStart
                have hup := pageDown_mod (requestedStart + requestedBytes + pageSize - 1)
                refine Or.inr ⟨⟨slot, h2⟩, _, _, rfl, ⟨rfl, ?_⟩, ⟨h3, hdown, ?_, ?_⟩, rfl⟩
                · simp only [pageSize] at *
                  omega
                · omega
                · simp only [pageSize] at *
                  omega
        · rw [if_pos h3]
          exact Or.inl ⟨_, rfl⟩
  · rw [dif_neg h2]
    exact Or.inl ⟨_, rfl⟩

/-- How `commit_range` of virtual_memory.c ends: it refuses, or it passes on what
`gxos_vm_commit_range` answers. -/
inductive PublicCommitCase (c : Context W) (s : Space W) (r : ReservationSlot)
    (requestedStart requestedBytes : Nat) (result : PublicResult) :
    PublicReply × Space W → Prop
  | refused (failure : PublicError × Nat) :
      PublicCommitCase c s r requestedStart requestedBytes result (s.fail failure result)
  | failed {e : CommitError} {s1 : Space W} :
      commitRange c s r requestedStart requestedBytes true false = (.error e, s1) →
      PublicCommitCase c s r requestedStart requestedBytes result
        (s1.fail (mapCommitStatus e) result)
  | committed {startPage stop n : Nat} {s1 : Space W} (result' : PublicResult) :
      publicRange s r requestedStart requestedBytes = some (startPage, stop) →
      commitRange c s r requestedStart requestedBytes true false = (.ok n, s1) →
      result'.effectiveBase = startPage →
      PublicCommitCase c s r requestedStart requestedBytes result
        ({ status := .ok (), result := result' }, s1)

theorem publicCommitRange_cases (c : Context W) (s : Space W) (r : ReservationSlot)
    (requestedStart requestedBytes : Nat) (result : PublicResult) :
    PublicCommitCase c s r requestedStart requestedBytes result
      (publicCommitRange c s r requestedStart requestedBytes result) := by
  unfold publicCommitRange
  cases hrange : publicRange s r requestedStart requestedBytes with
  | none => exact .refused _
  | some range =>
    obtain ⟨startPage, stop⟩ := range
    dsimp only
    split
    · exact .refused _
    · cases hcommit : commitRange c s r requestedStart requestedBytes true false with
      | mk answer s1 =>
        cases answer with
        | error e => exact .failed hcommit
        | ok n => exact .committed _ hrange hcommit rfl

/-- How `gxos_vm_public_virtual_alloc` ends: it refuses, or it does one of three things, and
the two that commit may fail on the way. -/
inductive AllocCase (c : Context W) (s : Space W) (address size : Nat) :
    Nat → PublicReply × Space W → Prop
  | refused {allocationType : Nat} (failure : PublicError × Nat) (result : PublicResult) :
      AllocCase c s address size allocationType (s.fail failure result)
  | reserved {b : Nat} {r : ReservationSlot} {arena : Arena} (result : PublicResult) :
      reserveAny s.arena size vmDataKind nativeaotOwner c.generation = .ok (b, r, arena) →
      AllocCase c s address size memReserve
        ({ status := .ok (), result, address := b }, { s with arena })
  | reservedAndCommitted {b : Nat} {r : ReservationSlot} {arena : Arena} {reply : PublicReply}
      {s1 : Space W} (result : PublicResult) :
      reserveAny s.arena size vmDataKind nativeaotOwner c.generation = .ok (b, r, arena) →
      publicCommitRange c { s with arena } r b size result = (reply, s1) →
      reply.status = .ok () →
      AllocCase c s address size (memReserve ||| memCommit)
        ({ status := .ok (), result := reply.result, address := b }, s1)
  | abandoned {b : Nat} {r : ReservationSlot} {arena : Arena} {reply : PublicReply}
      {s1 : Space W} {e : PublicError} (result result' : PublicResult) :
      reserveAny s.arena size vmDataKind nativeaotOwner c.generation = .ok (b, r, arena) →
      publicCommitRange c { s with arena } r b size result = (reply, s1) →
      reply.status = .error e →
      AllocCase c s address size (memReserve ||| memCommit) (abandonReservation c s1 r e result')
  | committed {r : ReservationSlot} {reply : PublicReply} {s1 : Space W} (result : PublicResult) :
      findReservation s.arena address = some r →
      publicCommitRange c s r address size result = (reply, s1) → reply.status = .ok () →
      AllocCase c s address size memCommit
        ({ status := .ok (), result := reply.result,
           address := reply.result.effectiveBase }, s1)
  | uncommitted {r : ReservationSlot} {reply : PublicReply} {s1 : Space W} {e : PublicError}
      (result : PublicResult) :
      findReservation s.arena address = some r →
      publicCommitRange c s r address size result = (reply, s1) → reply.status = .error e →
      AllocCase c s address size memCommit (reply, s1)

theorem virtualAlloc_cases (c : Context W) (s : Space W)
    (address size allocationType protection : Nat) :
    AllocCase c s address size allocationType
      (virtualAlloc c s address size allocationType protection) := by
  unfold virtualAlloc
  split
  · exact .refused _ _
  dsimp only
  split
  · exact .refused _ _
  split
  · exact .refused _ _
  split
  · exact .refused _ _
  split
  · exact .refused _ _
  split
  · rename_i htype
    obtain ⟨rfl, -⟩ := htype
    split
    · exact .refused _ _
    · rename_i hok
      exact .reserved _ hok
  split
  · rename_i htype
    obtain ⟨rfl, -⟩ := htype
    split
    · exact .refused _ _
    · rename_i b r arena hok
      cases hcommit : publicCommitRange c { s with arena } r b size
          { requestedBytes := size, reserved := true } with
      | mk reply s1 =>
        obtain ⟨status, result, address⟩ := reply
        cases status with
        | ok _ => exact .reservedAndCommitted _ hok hcommit rfl
        | error e => exact .abandoned _ _ hok hcommit rfl
  split
  · exact .refused _ _
  · rename_i htype
    simp only [not_or, Decidable.not_not] at htype
    obtain ⟨rfl, -⟩ := htype
    split
    · exact .refused _ _
    · rename_i r hr
      cases hcommit : publicCommitRange c s r address size { requestedBytes := size } with
      | mk reply s1 =>
        obtain ⟨status, result, address⟩ := reply
        cases status with
        | ok _ => exact .committed _ hr hcommit rfl
        | error e => exact .uncommitted _ hr hcommit rfl

/-- How `gxos_vm_public_virtual_free` ends: it refuses, or it releases a reservation. -/
inductive FreeCase (c : Context W) (s : Space W) (address : Nat) :
    PublicReply × Space W → Prop
  | refused (failure : PublicError × Nat) : FreeCase c s address (s.fail failure {})
  | released {r : ReservationSlot} {committed : Nat × Nat} :
      findReservation s.arena address = some r → (s.arena.reservations r).base = address →
      checkCommitments c s r = .ok committed →
      FreeCase c s address (releaseReservation c s r address committed)

theorem virtualFree_cases (c : Context W) (s : Space W) (address size freeType : Nat) :
    FreeCase c s address (virtualFree c s address size freeType) := by
  unfold virtualFree
  split
  · exact .refused _
  split
  · exact .refused _
  split
  · exact .refused _
  split
  · exact .refused _
  · rename_i r hr
    split
    · exact .refused _
    · rename_i hbase
      cases hcheck : checkCommitments c s r with
      | error e => exact .refused _
      | ok committed => exact .released hr (Decidable.not_not.mp hbase) hcheck

/-- A new arena without room for a page stays as it is, since both calls always refuse. -/
theorem refuses_of_small {base length generation : Nat}
    (harena : s.arena = arenaInit base length generation) (htiny : base + length < pageSize) :
    (∀ address size allocationType protection, ∃ failure result,
      virtualAlloc c s address size allocationType protection = s.fail failure result) ∧
    ∀ address size freeType, ∃ failure,
      virtualFree c s address size freeType = s.fail failure {} := by
  have hnone : ∀ address r, findReservation s.arena address ≠ some r := by
    intro address r hr
    have hlive := (findReservation_some hr).1
    rw [harena] at hlive
    cases hlive
  have hfull : ∀ {size kind owner b : Nat} {r : ReservationSlot} {arena : Arena},
      reserveAny s.arena size kind owner c.generation ≠ .ok (b, r, arena) := by
    intro size kind owner b r arena hok
    obtain ⟨-, -, hround, -, -, hin, -, -⟩ := reserveFixed_eq_ok (reserveAny_eq_ok hok)
    have hmod := pageRoundBytes_mod size
    have hinside := Arena.contains_facts hin
    rw [harena] at hinside
    simp only [arenaInit, pageSize] at *
    omega
  refine ⟨?_, ?_⟩
  · intro address size allocationType protection
    have hcase := virtualAlloc_cases c s address size allocationType protection
    generalize virtualAlloc c s address size allocationType protection = answer at hcase ⊢
    cases hcase with
    | refused failure result => exact ⟨failure, result, rfl⟩
    | reserved _ hok => exact absurd hok hfull
    | reservedAndCommitted _ hok => exact absurd hok hfull
    | abandoned _ _ hok => exact absurd hok hfull
    | committed _ hr => exact absurd hr (hnone _ _)
    | uncommitted _ hr => exact absurd hr (hnone _ _)
  · intro address size freeType
    have hcase := virtualFree_cases c s address size freeType
    generalize virtualFree c s address size freeType = answer at hcase ⊢
    cases hcase with
    | refused failure => exact ⟨failure, rfl⟩
    | released hr => exact absurd hr (hnone _ _)

end Gate4Harness.Vm
