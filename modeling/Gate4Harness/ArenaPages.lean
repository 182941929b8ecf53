-- An arena whose commitments are single pages, as the calls of virtual_memory.c make them.
-- It is a map from virtual pages to physical pages, and each operation changes the map at
-- one page at most.
import Gate4Harness.ArenaInvariant

namespace Gate4Harness.Vm

variable {a a' : Arena} {s : ReservationSlot} {i j : CommitmentSlot} {u v p generation : Nat}

/-! ## Pages only -/

/-- Reservations are whole pages, and each commitment is one page with a physical page. -/
structure OnlyPages (a : Arena) : Prop where
  reservations : ∀ s, (a.reservations s).live = true →
    (a.reservations s).base % pageSize = 0 ∧ (a.reservations s).bytes % pageSize = 0
  commitments : ∀ i, (a.commitments i).live = true →
    (a.commitments i).bytes = pageSize ∧ (a.commitments i).base % pageSize = 0 ∧
    (a.commitments i).physicalBase ≠ 0

theorem arenaInit_onlyPages (base length generation : Nat) :
    OnlyPages (arenaInit base length generation) := by
  refine ⟨?_, ?_⟩
  · intro s hs
    cases hs
  · intro i hi
    cases hi

theorem withReservation_onlyPages (h : OnlyPages a) {r : Reservation} {total : Nat}
    (hbase : r.base % pageSize = 0) (hbytes : r.bytes % pageSize = 0) :
    OnlyPages (withReservation a s r total) := by
  refine ⟨?_, h.commitments⟩
  intro t ht
  by_cases hts : t = s
  · subst hts
    simp only [withReservation, Function.update_self]
    exact ⟨hbase, hbytes⟩
  · simp only [withReservation, Function.update_of_ne hts] at ht ⊢
    exact h.reservations t ht

theorem withoutReservation_onlyPages (h : OnlyPages a) : OnlyPages (withoutReservation a s) := by
  refine ⟨?_, h.commitments⟩
  intro t ht
  by_cases hts : t = s
  · subst hts
    simp [withoutReservation] at ht
  · simp only [withoutReservation, Function.update_of_ne hts] at ht ⊢
    exact h.reservations t ht

theorem SameRanges.onlyPages {f g : ReservationSlot → Reservation} (hg : SameRanges f g)
    (hf : ∀ s, (f s).live = true → (f s).base % pageSize = 0 ∧ (f s).bytes % pageSize = 0)
    (t : ReservationSlot) (ht : (g t).live = true) :
    (g t).base % pageSize = 0 ∧ (g t).bytes % pageSize = 0 := by
  rw [hg.live] at ht
  rw [hg.base, hg.bytes]
  exact hf t ht

theorem addCommitment_onlyPages (h : OnlyPages a) (hv : v % pageSize = 0) (hp : p ≠ 0) :
    OnlyPages (addCommitment a i (pageRecord s v p generation)) := by
  refine ⟨(sameRanges_update a.reservations s _ _).onlyPages h.reservations, ?_⟩
  intro j hj
  by_cases hji : j = i
  · subst hji
    simp only [addCommitment, Function.update_self]
    exact ⟨rfl, hv, hp⟩
  · simp only [addCommitment, Function.update_of_ne hji] at hj ⊢
    exact h.commitments j hj

theorem dropCommitment_onlyPages (h : OnlyPages a) : OnlyPages (dropCommitment a i) := by
  refine ⟨(sameRanges_update a.reservations (a.commitments i).reservationSlot _ _).onlyPages
    h.reservations, ?_⟩
  intro j hj
  obtain ⟨_, heq⟩ := dropCommitment_left hj
  rw [heq] at hj ⊢
  exact h.commitments j hj

/-! ## The map of the arena -/

/-- The physical page that is committed at a virtual page. -/
def pageAt (a : Arena) (v : Nat) : Option Nat :=
  (pageCommitment? a v).map fun i => (a.commitments i).physicalBase

theorem pageCommitment?_eq_some (h : ArenaInv a) : pageCommitment? a v = some i ↔
    (a.commitments i).live = true ∧ (a.commitments i).base = v ∧
    (a.commitments i).bytes = pageSize := by
  constructor
  · exact pageCommitment?_some
  · rintro ⟨hi, hbase, hbytes⟩
    have hsome : (pageCommitment? a v).isSome = true := by
      rw [pageCommitment?, List.find?_isSome]
      exact ⟨i, List.mem_finRange i, by simp [hi, hbase, hbytes]⟩
    obtain ⟨j, hj⟩ := Option.isSome_iff_exists.mp hsome
    obtain ⟨hj', hbase', hbytes'⟩ := pageCommitment?_some hj
    by_cases hji : j = i
    · rw [hj, hji]
    · have happ := h.distinct j i hji hj' hi
      rw [hbase, hbase', hbytes, hbytes'] at happ
      unfold Apart pageSize at happ
      omega

theorem pageAt_eq_some (h : ArenaInv a) : pageAt a v = some p ↔
    ∃ i, (a.commitments i).live = true ∧ (a.commitments i).base = v ∧
      (a.commitments i).bytes = pageSize ∧ (a.commitments i).physicalBase = p := by
  unfold pageAt
  rw [Option.map_eq_some_iff]
  constructor
  · rintro ⟨i, hi, hp⟩
    obtain ⟨hlive, hbase, hbytes⟩ := pageCommitment?_some hi
    exact ⟨i, hlive, hbase, hbytes, hp⟩
  · rintro ⟨i, hlive, hbase, hbytes, hp⟩
    exact ⟨i, (pageCommitment?_eq_some h).mpr ⟨hlive, hbase, hbytes⟩, hp⟩

/-- A page that is not committed meets no commitment. -/
theorem OnlyPages.apart (h : OnlyPages a) (hnone : pageCommitment? a v = none)
    (hv : v % pageSize = 0) (hj : (a.commitments j).live = true) :
    Apart v pageSize (a.commitments j).base (a.commitments j).bytes := by
  obtain ⟨hbytes, halign, -⟩ := h.commitments j hj
  have hne : (a.commitments j).base ≠ v := by
    intro hbase
    have := List.find?_eq_none.mp hnone j (List.mem_finRange j)
    simp [hj, hbase, hbytes] at this
  rw [hbytes]
  unfold Apart
  simp only [pageSize] at *
  omega

/-- Only the records of the commitments count. -/
theorem pageAt_congr (hcom : a'.commitments = a.commitments) (v : Nat) :
    pageAt a' v = pageAt a v := by
  unfold pageAt pageCommitment?
  rw [hcom]

theorem pageAt_addCommitment (h : ArenaInv a)
    (h' : ArenaInv (addCommitment a i (pageRecord s v p generation)))
    (hi : (a.commitments i).live = false) (u : Nat) :
    pageAt (addCommitment a i (pageRecord s v p generation)) u =
      if u = v then some p else pageAt a u := by
  have hself : (addCommitment a i (pageRecord s v p generation)).commitments i =
      pageRecord s v p generation := Function.update_self _ _ _
  have hother : ∀ j, j ≠ i → (addCommitment a i (pageRecord s v p generation)).commitments j =
      a.commitments j := fun j hj => Function.update_of_ne hj _ _
  by_cases huv : u = v
  · rw [if_pos huv, pageAt_eq_some h']
    exact ⟨i, by rw [hself]; exact ⟨rfl, huv.symm, rfl, rfl⟩⟩
  · rw [if_neg huv]
    apply Option.ext
    intro q
    rw [pageAt_eq_some h', pageAt_eq_some h]
    constructor
    · rintro ⟨j, hlive, hbase, hrest⟩
      have hji : j ≠ i := by
        rintro rfl
        rw [hself] at hbase
        exact huv hbase.symm
      rw [hother j hji] at hlive hbase hrest
      exact ⟨j, hlive, hbase, hrest⟩
    · rintro ⟨j, hlive, hrest⟩
      have hji : j ≠ i := by
        rintro rfl
        rw [hi] at hlive
        cases hlive
      exact ⟨j, by rw [hother j hji]; exact ⟨hlive, hrest⟩⟩

theorem pageAt_dropCommitment (h : ArenaInv a) (hi : (a.commitments i).live = true)
    (hbase : (a.commitments i).base = v) (hbytes : (a.commitments i).bytes = pageSize) (u : Nat) :
    pageAt (dropCommitment a i) u = if u = v then none else pageAt a u := by
  have h' := dropCommitment_inv h hi
  have hself : ((dropCommitment a i).commitments i).live = false := by
    simp [dropCommitment]
  have hother : ∀ j, j ≠ i → (dropCommitment a i).commitments j = a.commitments j :=
    fun j hj => Function.update_of_ne hj _ _
  apply Option.ext
  intro q
  rw [pageAt_eq_some h']
  by_cases huv : u = v
  · rw [if_pos huv]
    refine iff_of_false ?_ (by simp)
    rintro ⟨j, hlive, hbase', hbytes', -⟩
    have hji : j ≠ i := by
      rintro rfl
      rw [hself] at hlive
      cases hlive
    rw [hother j hji] at hlive hbase' hbytes'
    have happ := h.distinct j i hji hlive hi
    rw [hbase, hbase', hbytes, hbytes', huv] at happ
    unfold Apart pageSize at happ
    omega
  · rw [if_neg huv, pageAt_eq_some h]
    constructor
    · rintro ⟨j, hlive, hrest⟩
      have hji : j ≠ i := by
        rintro rfl
        rw [hself] at hlive
        cases hlive
      rw [hother j hji] at hlive hrest
      exact ⟨j, hlive, hrest⟩
    · rintro ⟨j, hlive, hbase', hrest⟩
      have hji : j ≠ i := by
        rintro rfl
        exact huv (hbase'.symm.trans hbase)
      exact ⟨j, by rw [hother j hji]; exact ⟨hlive, hbase', hrest⟩⟩

/-- A page that is committed can be taken away. -/
theorem decommitPage_ok (h : ArenaInv a) (hv : v % pageSize = 0)
    (hi : pageCommitment? a v = some i) : decommitPage a v = .ok (dropCommitment a i) := by
  obtain ⟨hlive, -, hbytes⟩ := pageCommitment?_some hi
  obtain ⟨hcount, htotal, hreserved⟩ := h.bytes_le hlive
  have hr := (h.commitments i hlive).reserved
  rw [hbytes] at htotal hreserved
  unfold decommitPage
  rw [if_neg (not_not_intro hv), hi]
  dsimp only
  rw [if_neg, withoutCommitment_eq hbytes]
  simp only [hr, not_true_eq_false, false_or]
  omega

end Gate4Harness.Vm
