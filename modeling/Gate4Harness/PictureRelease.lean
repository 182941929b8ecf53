-- The release of a reservation. Its first loop finds nothing wrong in a sound space, its
-- second one drops the page of each commitment of the reservation, and what is left is the
-- picture without the reservation and its pages.
import Gate4Harness.PictureSteps

namespace Gate4Harness.Vm

variable {W : Type} {c : Context W} {tables data : W → Nat → Option Nat} {held : Nat → Prop}
  {firmware : Nat → Nat → Nat} {s s' : Space W} {a : Arena} {r : ReservationSlot}
  {i : CommitmentSlot} {currentCr3 base length u v p : Nat} {nxEnabled : Bool}

/-! ## The commitments of a reservation -/

/-- A live commitment of a reservation. -/
def InReservation (a : Arena) (r : ReservationSlot) (i : CommitmentSlot) : Prop :=
  (a.commitments i).live = true ∧ (a.commitments i).reservationSlot = r

instance (a : Arena) (r : ReservationSlot) (i : CommitmentSlot) : Decidable (InReservation a r i) :=
  inferInstanceAs (Decidable (_ ∧ _))

/-- How many pages a reservation has. -/
def pagesIn (a : Arena) (r : ReservationSlot) : Nat :=
  (List.finRange maxCommitments).countP fun i => decide (InReservation a r i)

/-- One turn of the loop that drops the pages of a reservation. -/
def Picture.dropIn (r : ReservationSlot) (x : Picture) (i : CommitmentSlot) : Picture :=
  if InReservation x.arena r i then x.drop i else x

/-- A number that a live commitment of the reservation has, in one of some slots. -/
def Named (a : Arena) (r : ReservationSlot) (slots : List CommitmentSlot)
    (name : Commitment → Nat) (v : Nat) : Prop :=
  ∃ i ∈ slots, InReservation a r i ∧ name (a.commitments i) = v

/-- A map without some of its keys. -/
structure Without (gone : Nat → Prop) (f g : Nat → Option Nat) : Prop where
  absent : ∀ v, gone v → g v = none
  kept : ∀ v, ¬ gone v → g v = f v

theorem Without.of_update {gone gone' : Nat → Prop} {f g : Nat → Option Nat}
    (h : Without gone' (Function.update f u none) g) (hiff : ∀ v, gone v ↔ v = u ∨ gone' v) :
    Without gone f g := by
  refine ⟨?_, ?_⟩
  · intro v hv
    by_cases hgone : gone' v
    · exact h.absent v hgone
    · rcases (hiff v).mp hv with rfl | hv
      · rw [h.kept v hgone, Function.update_self]
      · exact absurd hv hgone
  · intro v hv
    rw [hiff, not_or] at hv
    rw [h.kept v hv.2, Function.update_of_ne hv.1]

/-- What the turns of the loop leave: the commitments of some slots are gone, with their
entries and their data pages. -/
structure Emptied (r : ReservationSlot) (slots : List CommitmentSlot) (x x' : Picture) : Prop where
  gone : ∀ i ∈ slots, InReservation x.arena r i → x'.arena.commitments i = {}
  kept : ∀ i, (i ∈ slots → ¬ InReservation x.arena r i) →
    x'.arena.commitments i = x.arena.commitments i
  reservations : ∀ t, t ≠ r → x'.arena.reservations t = x.arena.reservations t
  ranges : SameRanges x.arena.reservations x'.arena.reservations
  range : x'.arena.base = x.arena.base ∧ x'.arena.length = x.arena.length
  rest : x'.arena.generation = x.arena.generation ∧ x'.arena.valid = x.arena.valid
  entries : Without (Named x.arena r slots Commitment.base) x.entries x'.entries
  out : Without (Named x.arena r slots Commitment.physicalBase) x.out x'.out

theorem SameRanges.trans {f g h : ReservationSlot → Reservation} (h1 : SameRanges f g)
    (h2 : SameRanges g h) : SameRanges f h :=
  ⟨fun t => (h2.live t).trans (h1.live t), fun t => (h2.base t).trans (h1.base t),
    fun t => (h2.bytes t).trans (h1.bytes t), fun t => (h2.generation t).trans (h1.generation t),
    fun t => (h2.requestedBytes t).trans (h1.requestedBytes t)⟩

theorem Without.refl {gone : Nat → Prop} (f : Nat → Option Nat) (h : ∀ v, ¬ gone v) :
    Without gone f f :=
  ⟨fun v hv => absurd hv (h v), fun _ _ => rfl⟩

theorem Emptied.nil (x : Picture) : Emptied r [] x x :=
  ⟨by simp, fun _ _ => rfl, fun _ _ => rfl, .refl _, ⟨rfl, rfl⟩, ⟨rfl, rfl⟩,
    .refl _ (by simp [Named]), .refl _ (by simp [Named])⟩

/-- A slot that is not of the reservation is passed over. -/
theorem Emptied.skip {x x' : Picture} {rest : List CommitmentSlot}
    (hi : ¬ InReservation x.arena r i) (h : Emptied r rest x x') :
    Emptied r (i :: rest) x x' := by
  have hmem : ∀ j, InReservation x.arena r j → (j ∈ i :: rest ↔ j ∈ rest) := by
    intro j hjr
    have hji : j ≠ i := by
      rintro rfl
      exact hi hjr
    simp [hji]
  have hnamed : ∀ name, Named x.arena r (i :: rest) name = Named x.arena r rest name := by
    intro name
    funext v
    refine propext ⟨?_, ?_⟩
    · rintro ⟨j, hj, hjr, hv⟩
      exact ⟨j, (hmem j hjr).mp hj, hjr, hv⟩
    · rintro ⟨j, hj, hjr, hv⟩
      exact ⟨j, (hmem j hjr).mpr hj, hjr, hv⟩
  refine ⟨fun j hj hjr => h.gone j ((hmem j hjr).mp hj) hjr,
    fun j hj => h.kept j fun hmem' => hj (List.mem_cons_of_mem i hmem'), h.reservations, h.ranges,
    h.range, h.rest, ?_, ?_⟩ <;> rw [hnamed]
  · exact h.entries
  · exact h.out

/-- A slot of the reservation is dropped, and then the others are. -/
theorem Emptied.drop {x x' : Picture} {rest : List CommitmentSlot}
    (hi : InReservation x.arena r i) (h : Emptied r rest (x.drop i) x') :
    Emptied r (i :: rest) x x' := by
  have hself : (x.drop i).arena.commitments i = {} := Function.update_self _ _ _
  have hother : ∀ j, j ≠ i → (x.drop i).arena.commitments j = x.arena.commitments j :=
    fun j hj => Function.update_of_ne hj _ _
  have hnot : ¬ InReservation (x.drop i).arena r i := by
    rintro ⟨hlive, -⟩
    rw [hself] at hlive
    cases hlive
  have hiff : ∀ j, j ≠ i → (InReservation (x.drop i).arena r j ↔ InReservation x.arena r j) := by
    intro j hj
    unfold InReservation
    rw [hother j hj]
  have hnamed : ∀ name v, Named x.arena r (i :: rest) name v ↔
      v = name (x.arena.commitments i) ∨ Named (x.drop i).arena r rest name v := by
    intro name v
    constructor
    · rintro ⟨j, hj, hjr, hv⟩
      by_cases hji : j = i
      · exact Or.inl (by rw [← hv, hji])
      · refine Or.inr ⟨j, (List.mem_cons.mp hj).resolve_left hji, (hiff j hji).mpr hjr, ?_⟩
        rw [hother j hji]
        exact hv
    · rintro (rfl | ⟨j, hj, hjr, hv⟩)
      · exact ⟨i, List.mem_cons_self, hi, rfl⟩
      · have hji : j ≠ i := by
          rintro rfl
          exact hnot hjr
        rw [hother j hji] at hv
        exact ⟨j, List.mem_cons_of_mem i hj, (hiff j hji).mp hjr, hv⟩
  refine ⟨?_, ?_, ?_, (sameRanges_update _ _ _ _ : SameRanges x.arena.reservations
    (x.drop i).arena.reservations).trans h.ranges, h.range, h.rest,
    h.entries.of_update (hnamed _), h.out.of_update (hnamed _)⟩
  · intro j hj hjr
    by_cases hji : j = i
    · rw [hji, h.kept i fun _ => hnot, hself]
    · exact h.gone j ((List.mem_cons.mp hj).resolve_left hji) ((hiff j hji).mpr hjr)
  · intro j hj
    have hji : j ≠ i := by
      rintro rfl
      exact hj List.mem_cons_self hi
    rw [h.kept j fun hmem hjr => hj (List.mem_cons_of_mem i hmem) ((hiff j hji).mp hjr),
      hother j hji]
  · intro t ht
    rw [h.reservations t ht]
    have htr : t ≠ (x.arena.commitments i).reservationSlot := by
      rw [hi.2]
      exact ht
    exact Function.update_of_ne htr _ _

theorem dropIn_emptied (r : ReservationSlot) (slots : List CommitmentSlot) (x : Picture) :
    Emptied r slots x (slots.foldl (Picture.dropIn r) x) := by
  induction slots generalizing x with
  | nil => exact .nil x
  | cons i rest ih =>
    rw [List.foldl_cons]
    unfold Picture.dropIn
    split
    · rename_i hi
      exact .drop hi (ih _)
    · rename_i hi
      exact .skip hi (ih _)

/-! ## The second loop of `virtual_free` -/

/-- The calls of `free_page` that the loop makes: physical pages with their aliases. -/
def freeCalls (c : Context W) (a : Arena) (r : ReservationSlot) (slots : List CommitmentSlot) :
    List (Nat × Nat) :=
  (slots.filter fun i => decide (InReservation a r i)).map fun i =>
    ((a.commitments i).physicalBase, c.dataAllocator.physicalAlias (a.commitments i).physicalBase)

/-- The world after some calls of `free_page`. -/
def freeAll (c : Context W) (calls : List (Nat × Nat)) (world : W) : W :=
  calls.foldl (fun w x => c.dataAllocator.freePage x.1 x.2 w) world

/-- A slot that is to come is not touched. -/
theorem freeCalls_drop {x : Picture} {slots : List CommitmentSlot} (hi : i ∉ slots) :
    freeCalls c (x.drop i).arena r slots = freeCalls c x.arena r slots := by
  have hother : ∀ j ∈ slots, (x.drop i).arena.commitments j = x.arena.commitments j := by
    intro j hj
    have hji : j ≠ i := by
      rintro rfl
      exact hi hj
    exact Function.update_of_ne hji _ _
  unfold freeCalls
  rw [List.filter_congr (q := fun j => decide (InReservation x.arena r j))]
  · apply List.map_congr_left
    intro j hj
    rw [hother j (List.mem_of_mem_filter hj)]
  · intro j hj
    rw [decide_eq_decide]
    unfold InReservation
    rw [hother j hj]

/-- In a sound space the loop goes through, and drops page after page. -/
theorem SoundSpace.releaseCommitments
    (hset : Setting c tables data held firmware currentCr3 base length)
    {slots : List CommitmentSlot} (hslots : slots.Nodup)
    (h : SoundSpace c tables data held firmware currentCr3 base length nxEnabled s) :
    ∃ s1, releaseCommitments c r s slots = (true, s1) ∧
      SoundSpace c tables data held firmware currentCr3 base length nxEnabled s1 ∧
      s1.picture c data = slots.foldl (Picture.dropIn r) (s.picture c data) ∧
      s1.lastError = s.lastError ∧
      s1.machine.world = freeAll c (freeCalls c s.arena r slots) s.machine.world := by
  induction slots generalizing s with
  | nil => exact ⟨s, rfl, h, rfl, rfl, rfl⟩
  | cons i rest ih =>
    obtain ⟨hrest, hnodup⟩ := List.nodup_cons.mp hslots
    unfold Vm.releaseCommitments
    dsimp only
    by_cases hi : InReservation s.arena r i
    · have hcalls : freeCalls c s.arena r (i :: rest) = ((s.arena.commitments i).physicalBase,
          c.dataAllocator.physicalAlias (s.arena.commitments i).physicalBase) ::
          freeCalls c s.arena r rest := by
        simp [freeCalls, hi]
      obtain ⟨t, hunmap, hdecommit, hdropped⟩ := h.dropped hset hi.1
      rw [if_neg (by simp [hi.1, hi.2]), if_neg (h.aliases i hi.1), hunmap]
      dsimp only
      rw [if_neg (not_not_intro rfl), hdecommit]
      dsimp only
      obtain ⟨h1, hpicture⟩ := hdropped { s with
        machine := s.machine.store t (ptIndex (s.arena.commitments i).base) 0
        arena := dropCommitment s.arena i } rfl rfl
      obtain ⟨s2, heq, h2, hpicture2, herror, hworld⟩ := ih hnodup h1
      refine ⟨s2, heq, h2, ?_, herror, ?_⟩
      · have hturn : (s.picture c data).dropIn r i = (s.picture c data).drop i := if_pos hi
        rw [hpicture2, hpicture, List.foldl_cons, hturn]
      · have hlater : freeCalls c (dropCommitment s.arena i) r rest =
            freeCalls c s.arena r rest := freeCalls_drop (x := s.picture c data) hrest
        rw [hworld, hcalls]
        change freeAll c (freeCalls c (dropCommitment s.arena i) r rest) _ = _
        rw [hlater]
        rfl
    · have hcalls : freeCalls c s.arena r (i :: rest) = freeCalls c s.arena r rest := by
        simp [freeCalls, hi]
      have hpass : ¬ (s.arena.commitments i).live = true ∨
          (s.arena.commitments i).reservationSlot ≠ r := by
        by_cases hlive : (s.arena.commitments i).live = true
        · exact Or.inr fun hr => hi ⟨hlive, hr⟩
        · exact Or.inl hlive
      have hturn : (s.picture c data).dropIn r i = s.picture c data := if_neg hi
      rw [if_pos hpass, List.foldl_cons, hturn, hcalls]
      exact ih hnodup h

/-! ## The first loop of `virtual_free` -/

section Check

variable (hset : Setting c tables data held firmware currentCr3 base length)
  (h : SoundSpace c tables data held firmware currentCr3 base length nxEnabled s)

include hset h

/-- A query finds the page of a commitment. -/
theorem SoundSpace.query_commitment (hi : (s.arena.commitments i).live = true) :
    ∃ entry, query c.tableAllocator s.machine (s.arena.commitments i).base =
        .ok (pageMapping entry (s.arena.commitments i).base) ∧
      entryAddress entry = (s.arena.commitments i).physicalBase := by
  have hm := h.coherent.matched
  obtain ⟨hin, hpage⟩ := hm.commitment hi
  have hmapped := hm.mapped _ hin
  rw [hpage] at hmapped
  obtain ⟨entry, hleaf, hentry⟩ := Option.map_eq_some_iff.mp hmapped
  refine ⟨entry, ?_, hentry⟩
  rw [query_eq hm.paging (hin.accepted hset.arguments hset.slot hm.made).canonical
    ((hin.slot hset.slot).trans hm.made.arenaSlot.symm), hleaf]

/-- One turn of the loop counts a page of the reservation. -/
theorem SoundSpace.checkCommitment (habove : 0 < base) (hi : InReservation s.arena r i)
    (count : Nat) {bytes : Nat} (hroom : bytes + pageSize ≤ uint64Max) :
    checkCommitment c s r (count, bytes) i = .ok (count + 1, bytes + pageSize) := by
  have hm := h.coherent.matched
  obtain ⟨hbytes, -, hphysical⟩ := hm.pages.commitments i hi.1
  obtain ⟨hin, -⟩ := hm.commitment hi.1
  obtain ⟨entry, hquery, hentry⟩ := h.query_commitment hset hi.1
  have hbase : (s.arena.commitments i).base ≠ 0 := by
    have := hin.above
    omega
  have hmapping : (pageMapping entry (s.arena.commitments i).base).physicalBase =
      (s.arena.commitments i).physicalBase := by
    simp [pageMapping, hin.aligned, hentry]
  unfold Vm.checkCommitment
  dsimp only
  rw [if_neg (by simp [hi.1, hi.2]), if_neg (by simp [hbase, hbytes, hphysical]), hquery]
  dsimp only
  rw [if_neg (by rw [hmapping]; simp [pageMapping]), if_neg (h.aliases i hi.1),
    if_neg (by omega), hbytes]

/-- The loop finds nothing wrong and counts the pages. -/
theorem SoundSpace.checkFrom (habove : 0 < base) (slots : List CommitmentSlot) (count : Nat)
    (hroom : (count + slots.length) * pageSize ≤ uint64Max) :
    slots.foldlM (Vm.checkCommitment c s r) (count, count * pageSize) =
      .ok (count + slots.countP (fun i => decide (InReservation s.arena r i)),
        (count + slots.countP (fun i => decide (InReservation s.arena r i))) * pageSize) := by
  induction slots generalizing count with
  | nil => rfl
  | cons i rest ih =>
    rw [List.length_cons] at hroom
    by_cases hi : InReservation s.arena r i
    · have hturn : Vm.checkCommitment c s r (count, count * pageSize) i =
          .ok (count + 1, (count + 1) * pageSize) := by
        rw [Nat.succ_mul]
        apply h.checkCommitment hset habove hi count
        rw [← Nat.succ_mul]
        exact le_trans (Nat.mul_le_mul_right pageSize (by omega)) hroom
      rw [List.foldlM_cons, hturn, List.countP_cons_of_pos (by simpa using hi)]
      have hrest := ih (count + 1) (by rw [Nat.add_right_comm]; exact hroom)
      rw [Nat.add_assoc, Nat.add_comm 1] at hrest
      exact hrest
    · have hturn : Vm.checkCommitment c s r (count, count * pageSize) i =
          .ok (count, count * pageSize) := by
        unfold Vm.checkCommitment
        refine if_pos ?_
        by_cases hlive : (s.arena.commitments i).live = true
        · exact Or.inr fun hr => hi ⟨hlive, hr⟩
        · exact Or.inl hlive
      rw [List.foldlM_cons, hturn, List.countP_cons_of_neg (by simpa using hi)]
      exact ih count (le_trans (Nat.mul_le_mul_right pageSize (by omega)) hroom)

theorem SoundSpace.checkCommitments (habove : 0 < base) :
    checkCommitments c s r = .ok (pagesIn s.arena r, pagesIn s.arena r * pageSize) := by
  have hcheck := h.checkFrom (r := r) hset habove (List.finRange maxCommitments) 0
    (by rw [List.length_finRange]; decide)
  rw [Nat.zero_mul, Nat.zero_add] at hcheck
  exact hcheck

end Check

/-! ## A release, and what it undoes -/

theorem Without.unique {gone : Nat → Prop} {f g g' : Nat → Option Nat} (h : Without gone f g)
    (h' : Without gone f g') : g' = g := by
  funext v
  by_cases hv : gone v
  · rw [h.absent v hv, h'.absent v hv]
  · rw [h.kept v hv, h'.kept v hv]

/-- Where no commitment is left, the slots were all there are. -/
theorem Emptied.all {slots : List CommitmentSlot} {x x' : Picture} (h : Emptied r slots x x')
    (hempty : ∀ i, ¬ InReservation x'.arena r i) :
    Emptied r (List.finRange maxCommitments) x x' := by
  have hmem : ∀ i, InReservation x.arena r i → i ∈ slots := by
    intro i hi
    by_contra hno
    apply hempty i
    unfold InReservation
    rw [h.kept i fun hmem => absurd hmem hno]
    exact hi
  have hnamed : ∀ name, Named x.arena r (List.finRange maxCommitments) name =
      Named x.arena r slots name := by
    intro name
    funext v
    refine propext ⟨?_, ?_⟩
    · rintro ⟨i, -, hi, hv⟩
      exact ⟨i, hmem i hi, hi, hv⟩
    · rintro ⟨i, -, hi, hv⟩
      exact ⟨i, List.mem_finRange i, hi, hv⟩
  refine ⟨fun i _ hi => h.gone i (hmem i hi) hi, fun i hi => h.kept i fun _ =>
    hi (List.mem_finRange i), h.reservations, h.ranges, h.range, h.rest, ?_, ?_⟩ <;> rw [hnamed]
  · exact h.entries
  · exact h.out

theorem Emptied.unique {slots : List CommitmentSlot} {x y y' : Picture} (h : Emptied r slots x y)
    (h' : Emptied r slots x y') :
    y'.arena.commitments = y.arena.commitments ∧
    (∀ t, t ≠ r → y'.arena.reservations t = y.arena.reservations t) ∧
    y'.entries = y.entries ∧ y'.out = y.out := by
  refine ⟨?_, fun t ht => (h'.reservations t ht).trans (h.reservations t ht).symm,
    h.entries.unique h'.entries, h.out.unique h'.out⟩
  funext i
  by_cases hi : i ∈ slots ∧ InReservation x.arena r i
  · rw [h.gone i hi.1 hi.2, h'.gone i hi.1 hi.2]
  · rw [h.kept i fun hmem hir => hi ⟨hmem, hir⟩, h'.kept i fun hmem hir => hi ⟨hmem, hir⟩]

/-- The pages that were added one after the other are those of some slots, and without them
the picture is the first one. -/
theorem adds_emptied {x x' : Picture} {log : List CreatedPage}
    (h : UndoLog.Logged (Adds c r) x log x') : ∃ slots, Emptied r slots x' x := by
  apply h.related ⟨[], .nil x⟩
  rintro y page y' ⟨slots, hslots⟩ hadds
  obtain ⟨i, entry, hroom, rfl⟩ := hadds.room
  have hself : (y.add i r page entry c.generation).arena.commitments i =
      pageRecord r page.virtualPage page.physicalPage c.generation := Function.update_self _ _ _
  refine ⟨i :: slots, Emptied.drop ?_ ?_⟩
  · unfold InReservation
    rw [hself]
    exact ⟨rfl, rfl⟩
  · rw [Picture.drop_add hroom]
    exact hslots

section Release

variable (hset : Setting c tables data held firmware currentCr3 base length)
  (h : SoundSpace c tables data held firmware currentCr3 base length nxEnabled s)

include hset h

/-- What `virtual_free` does after its first loop: the reservation is emptied and released. -/
theorem SoundSpace.releaseReservation (hr : (s.arena.reservations r).live = true)
    (address : Nat) (committed : Nat × Nat) :
    ∃ s1 s2 : Space W,
      releaseReservation c s r address committed = (freeReply r address committed, s2) ∧
      s2 = { s1 with arena := withoutReservation s1.arena r } ∧
      SoundSpace c tables data held firmware currentCr3 base length nxEnabled s2 ∧
      Emptied r (List.finRange maxCommitments) (s.picture c data) (s1.picture c data) ∧
      s2.machine.world =
        freeAll c (freeCalls c s.arena r (List.finRange maxCommitments)) s.machine.world := by
  obtain ⟨s1, heq, h1, hpicture, -, hworld⟩ :=
    h.releaseCommitments (r := r) hset (List.nodup_finRange maxCommitments)
  have hemptied := dropIn_emptied r (List.finRange maxCommitments) (s.picture c data)
  rw [← hpicture] at hemptied
  have hr1 : (s1.arena.reservations r).live = true := (hemptied.ranges.live r).trans hr
  have hzero : (s1.arena.reservations r).committedBytes = 0 := by
    rw [h1.coherent.matched.arena.committed_eq_zero hr1]
    intro i hi hir
    by_cases hold : InReservation s.arena r i
    · have hgone : s1.arena.commitments i = {} := hemptied.gone i (List.mem_finRange i) hold
      rw [hgone] at hi
      cases hi
    · have hkept : s1.arena.commitments i = s.arena.commitments i :=
        hemptied.kept i fun _ => hold
      rw [hkept] at hi hir
      exact hold ⟨hi, hir⟩
  obtain ⟨hrelease, h2⟩ := h1.release hr1 hzero (freeReply r address committed) {}
  refine ⟨s1, _, ?_, rfl, h2, hemptied, hworld⟩
  unfold Vm.releaseReservation
  rw [heq]
  exact hrelease

/-- `gxos_vm_public_virtual_free` -/
theorem SoundSpace.virtualFree (address size freeType : Nat) :
    SoundSpace c tables data held firmware currentCr3 base length nxEnabled
      (virtualFree c s address size freeType).2 := by
  have hcase := virtualFree_cases c s address size freeType
  generalize Vm.virtualFree c s address size freeType = answer at hcase ⊢
  cases hcase with
  | refused failure => exact h.fail failure {}
  | @released r committed hfind =>
    obtain ⟨s1, s2, heq, -, h2, -⟩ :=
      h.releaseReservation hset (findReservation_some hfind).1 address committed
    rw [heq]
    exact h2

end Release

end Gate4Harness.Vm
