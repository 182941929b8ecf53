-- What a client can see of the virtual memory: the tables of the arena, the entry of every
-- page of the slot, and the data pages that are out. A page is committed and dropped in one
-- place of each, and to drop a page that was just committed gives the same picture again.
import Gate4Harness.Coherence

namespace Gate4Harness.Vm

open Tables

variable {W : Type} {c : Context W} {tables data : W → Nat → Option Nat} {held : Nat → Prop}
  {firmware : Nat → Nat → Nat} {allocator : PageAllocator W} {s s' : Space W} {m m' : Machine W}
  {a a' : Arena} {r : ReservationSlot} {i : CommitmentSlot}
  {currentCr3 base length u v p t generation : Nat} {nxEnabled : Bool}

/-! ## The tables of the arena -/

/-- The counts of an arena follow from its tables. -/
theorem ArenaInv.eq_of_tables (h : ArenaInv a) (h' : ArenaInv a')
    (hreservations : a'.reservations = a.reservations)
    (hcommitments : a'.commitments = a.commitments)
    (hrange : a'.base = a.base ∧ a'.length = a.length)
    (hrest : a'.generation = a.generation ∧ a'.valid = a.valid) : a' = a := by
  have h1 := h.reservationCount
  have h2 := h.commitmentCount
  have h3 := h.reservedBytes
  have h4 := h.committedBytes
  have h1' := h'.reservationCount
  have h2' := h'.commitmentCount
  have h3' := h'.reservedBytes
  have h4' := h'.committedBytes
  rw [hreservations] at h1' h3'
  rw [hcommitments] at h2' h4'
  cases a
  cases a'
  simp only at *
  simp only [Arena.mk.injEq]
  exact ⟨hrange.1, hrange.2, hreservations, hcommitments, by omega, by omega, by omega, by omega,
    hrest.1, hrest.2⟩

/-- Records that are not live are all zeros. -/
structure Blank (a : Arena) : Prop where
  reservations : ∀ r, (a.reservations r).live = false → a.reservations r = {}
  commitments : ∀ i, (a.commitments i).live = false → a.commitments i = {}

theorem arenaInit_blank (base length generation : Nat) : Blank (arenaInit base length generation) :=
  ⟨fun _ _ => rfl, fun _ _ => rfl⟩

theorem withReservation_blank (h : Blank a) {x : Reservation} {total : Nat} (hx : x.live = true) :
    Blank (withReservation a r x total) := by
  refine ⟨?_, h.commitments⟩
  intro t ht
  by_cases htr : t = r
  · subst htr
    simp only [withReservation, Function.update_self, hx] at ht
    cases ht
  · simp only [withReservation, Function.update_of_ne htr] at ht ⊢
    exact h.reservations t ht

theorem withoutReservation_blank (h : Blank a) : Blank (withoutReservation a r) := by
  refine ⟨?_, h.commitments⟩
  intro t ht
  by_cases htr : t = r
  · subst htr
    simp [withoutReservation]
  · simp only [withoutReservation, Function.update_of_ne htr] at ht ⊢
    exact h.reservations t ht

/-- The sum and the state of a live reservation may change. -/
theorem Blank.reservations_update (h : Blank a) (hr : (a.reservations r).live = true) (n : Nat)
    (state : ReservationState) (t : ReservationSlot)
    (ht : (Function.update a.reservations r
      { a.reservations r with committedBytes := n, state } t).live = false) :
    Function.update a.reservations r
      { a.reservations r with committedBytes := n, state } t = {} := by
  by_cases htr : t = r
  · subst htr
    rw [Function.update_self] at ht
    change (a.reservations t).live = false at ht
    rw [hr] at ht
    cases ht
  · rw [Function.update_of_ne htr] at ht ⊢
    exact h.reservations t ht

theorem addCommitment_blank (h : Blank a) (hr : (a.reservations r).live = true) :
    Blank (addCommitment a i (pageRecord r v p generation)) := by
  refine ⟨h.reservations_update hr _ _, ?_⟩
  intro j hj
  by_cases hji : j = i
  · subst hji
    simp [addCommitment, pageRecord] at hj
  · simp only [addCommitment, Function.update_of_ne hji] at hj ⊢
    exact h.commitments j hj

theorem dropCommitment_blank (h : Blank a)
    (hr : (a.reservations (a.commitments i).reservationSlot).live = true) :
    Blank (dropCommitment a i) := by
  refine ⟨h.reservations_update hr _ _, ?_⟩
  intro j hj
  by_cases hji : j = i
  · subst hji
    simp [dropCommitment]
  · simp only [dropCommitment, Function.update_of_ne hji] at hj ⊢
    exact h.commitments j hj

/-- A commitment is added and dropped again. -/
theorem dropCommitment_addCommitment (hi : a.commitments i = {})
    (hstate : (a.reservations r).state =
      if (a.reservations r).committedBytes = 0 then .reserved else .committed) :
    dropCommitment (addCommitment a i (pageRecord r v p generation)) i = a := by
  have hcommitments : Function.update a.commitments i {} = a.commitments := by
    rw [← hi, Function.update_eq_self]
  have hreservation : ({ a.reservations r with
      state := if (a.reservations r).committedBytes = 0 then .reserved else .committed } :
      Reservation) = a.reservations r := by
    rw [← hstate]
  simp only [dropCommitment, addCommitment, Function.update_self, pageRecord, Nat.add_sub_cancel,
    Function.update_idem]
  rw [hreservation, Function.update_eq_self]
  exact congrArg (fun x => ({ a with commitments := x } : Arena)) hcommitments

/-- A live reservation without commitments can be released. -/
theorem release_ok (h : ArenaInv a) (hvalid : a.valid = true)
    (hr : (a.reservations r).live = true) (hzero : (a.reservations r).committedBytes = 0) :
    release a r = .ok (withoutReservation a r) := by
  have h1 := le_total Reservation.one a.reservations r
  have h2 := le_total Reservation.liveBytes a.reservations r
  rw [← h.reservationCount, Reservation.one, if_pos hr] at h1
  rw [← h.reservedBytes, Reservation.liveBytes, if_pos hr] at h2
  unfold release
  rw [if_neg (not_not_intro hvalid), dif_pos r.isLt]
  dsimp only [Fin.eta]
  rw [if_neg (not_not_intro hr), if_neg (not_not_intro hzero), if_neg (by omega)]
  rfl

/-! ## Pictures -/

structure Picture where
  arena : Arena
  entries : Nat → Option Nat
  out : Nat → Option Nat

/-- A page is committed: a record, an entry and a data page more. -/
def Picture.add (x : Picture) (i : CommitmentSlot) (r : ReservationSlot) (page : CreatedPage)
    (entry generation : Nat) : Picture where
  arena := addCommitment x.arena i
    (pageRecord r page.virtualPage page.physicalPage generation)
  entries := Function.update x.entries page.virtualPage (some entry)
  out := Function.update x.out page.physicalPage (some page.page)

/-- The page of a commitment is dropped. -/
def Picture.drop (x : Picture) (i : CommitmentSlot) : Picture where
  arena := dropCommitment x.arena i
  entries := Function.update x.entries (x.arena.commitments i).base none
  out := Function.update x.out (x.arena.commitments i).physicalBase none

/-- There is room for a page. -/
structure Picture.Room (x : Picture) (i : CommitmentSlot) (r : ReservationSlot)
    (page : CreatedPage) : Prop where
  blank : x.arena.commitments i = {}
  state : (x.arena.reservations r).state =
    if (x.arena.reservations r).committedBytes = 0 then .reserved else .committed
  entry : x.entries page.virtualPage = none
  out : x.out page.physicalPage = none

theorem Picture.drop_add {x : Picture} {page : CreatedPage} (h : x.Room i r page)
    (entry generation : Nat) : (x.add i r page entry generation).drop i = x := by
  have hself : (x.add i r page entry generation).arena.commitments i =
      pageRecord r page.virtualPage page.physicalPage generation := Function.update_self _ _ _
  have hentries : Function.update x.entries page.virtualPage none = x.entries := by
    rw [← h.entry, Function.update_eq_self]
  have hout : Function.update x.out page.physicalPage none = x.out := by
    rw [← h.out, Function.update_eq_self]
  unfold Picture.drop
  rw [hself]
  simp only [Picture.add, dropCommitment_addCommitment h.blank h.state]
  simp only [pageRecord, Function.update_idem, hentries, hout]

/-- The virtual pages of the arena's slot. -/
structure SlotPage (slot v : Nat) : Prop where
  aligned : v % pageSize = 0
  canonical : canonical48 v = true
  slot : pml4Index v = slot

instance (slot v : Nat) : Decidable (SlotPage slot v) :=
  decidable_of_iff (v % pageSize = 0 ∧ canonical48 v = true ∧ pml4Index v = slot)
    ⟨fun h => ⟨h.1, h.2.1, h.2.2⟩, fun h => ⟨h.aligned, h.canonical, h.slot⟩⟩

def Machine.entryOf (m : Machine W) (allocator : PageAllocator W) (v : Nat) : Option Nat :=
  if SlotPage m.paging.arenaPml4Index v then m.leaf allocator v else none

def Space.picture (c : Context W) (data : W → Nat → Option Nat) (s : Space W) : Picture where
  arena := s.arena
  entries := s.machine.entryOf c.tableAllocator
  out := data s.machine.world

/-! ## The entries -/

theorem entryOf_slotPage (h : SlotPage m.paging.arenaPml4Index v) :
    m.entryOf allocator v = m.leaf allocator v := if_pos h

/-- The entries are the same when the leaves of the slot are. -/
theorem entryOf_congr (hslot : m'.paging.arenaPml4Index = m.paging.arenaPml4Index)
    (hleaf : ∀ v, pml4Index v = m.paging.arenaPml4Index →
      m'.leaf allocator v = m.leaf allocator v) :
    m'.entryOf allocator = m.entryOf allocator := by
  funext v
  unfold Machine.entryOf
  rw [hslot]
  split
  · rename_i h
    exact hleaf v h.slot
  · rfl

theorem store_entryOf (h : PagingInv allocator tables held m)
    (hv : SlotPage m.paging.arenaPml4Index v)
    (hw : m.walk allocator (tablePath v) = some t) (entry : Nat) :
    (m.store t (ptIndex v) entry).entryOf allocator =
      Function.update (m.entryOf allocator) v (if isPresent entry then some entry else none) := by
  funext u
  by_cases hu : SlotPage m.paging.arenaPml4Index u
  · have hsame : SameEntry u v ↔ u = v := by
      rw [sameEntry_iff hu.canonical hv.canonical]
      have := hu.aligned
      have := hv.aligned
      simp only [pageSize] at *
      omega
    have hstored : (m.store t (ptIndex v) entry).entryOf allocator u =
        (m.store t (ptIndex v) entry).leaf allocator u := if_pos hu
    rw [hstored, store_leaf h hv.slot hw entry hu.slot]
    by_cases huv : u = v
    · rw [if_pos (hsame.mpr huv), huv, Function.update_self]
    · rw [if_neg fun hse => huv (hsame.mp hse), Function.update_of_ne huv, entryOf_slotPage hu]
  · have huv : u ≠ v := by
      rintro rfl
      exact hu hv
    rw [Function.update_of_ne huv]
    unfold Machine.entryOf
    rw [if_neg hu]
    exact if_neg hu

/-- The tables of the slot get pages of their own, and no entry changes. -/
theorem Grown.entryOf (hg : Grown allocator tables data held m m') :
    m'.entryOf allocator = m.entryOf allocator :=
  entryOf_congr hg.keeps.slot fun v hv => hg.leaves v hv

theorem mapPage_entryOf (hA : Conforming allocator tables data held)
    (h : PagingInv allocator tables held m) (hs : SlotSound m.paging)
    (hv : SlotPage m.paging.arenaPml4Index v) (hp : p % pageSize = 0)
    (writable executable : Bool) :
    (∃ e, (mapPage allocator m v p writable executable).1 = .error e ∧
      (mapPage allocator m v p writable executable).2.entryOf allocator = m.entryOf allocator) ∨
    (mapPage allocator m v p writable executable).1 = .ok () ∧ m.entryOf allocator v = none ∧
      (mapPage allocator m v p writable executable).2.entryOf allocator =
        Function.update (m.entryOf allocator) v
          (some (p ||| pageFlags m.paging.nxEnabled writable executable)) := by
  have heffect := mapPage_effect hA h hs v p writable executable
  generalize mapPage allocator m v p writable executable = answer at heffect ⊢
  obtain ⟨answer, m'⟩ := answer
  dsimp only at heffect ⊢
  cases heffect with
  | refused => exact Or.inl ⟨_, rfl, rfl⟩
  | present _ _ hg => exact Or.inl ⟨_, rfl, hg.entryOf⟩
  | short _ _ _ hg => exact Or.inl ⟨_, rfl, hg.entryOf⟩
  | @mapped m1 t _ hnone hg hw =>
    have hv1 : SlotPage m1.paging.arenaPml4Index v := by
      rw [hg.keeps.slot]
      exact hv
    refine Or.inr ⟨rfl, (entryOf_slotPage hv).trans hnone, ?_⟩
    have hpresent := pageEntry_present hp m.paging.nxEnabled writable executable
    rw [store_entryOf hg.inv hv1 hw, if_pos hpresent, hg.entryOf]

/-- Whether the page was there or not, its entry is gone. -/
theorem unmapPage_entryOf (h : PagingInv allocator tables held m) (hs : SlotSound m.paging)
    (hacc : Accepted m.paging v) (hv : SlotPage m.paging.arenaPml4Index v) :
    (unmapPage allocator m v).2.entryOf allocator =
      Function.update (m.entryOf allocator) v none := by
  have heffect := unmapPage_effect h hs v
  generalize unmapPage allocator m v = answer at heffect ⊢
  obtain ⟨answer, m'⟩ := answer
  dsimp only at heffect ⊢
  cases heffect with
  | refused hno => exact absurd hacc hno
  | absent _ hnone =>
    rw [← hnone, ← entryOf_slotPage hv, Function.update_eq_self]
  | unmapped _ _ hw =>
    rw [store_entryOf h hv hw]
    rfl

theorem InArena.slotPage (hargs : CreateArguments currentCr3 base length)
    (hpages : OneSlot base length) (hm : MadeFor m.paging base length nxEnabled)
    (hv : InArena base length v) : SlotPage m.paging.arenaPml4Index v :=
  ⟨hv.aligned, (hv.accepted hargs hpages hm).canonical,
    (hv.slot hpages).trans hm.arenaSlot.symm⟩

/-- An address of the slot is translated by the entry of its page. -/
theorem query_eq_entryOf (h : PagingInv allocator tables held m) (hcanon : canonical48 u = true)
    (hu : pml4Index u = m.paging.arenaPml4Index) :
    query allocator m u =
      match m.entryOf allocator (pageDown u) with
      | some entry => .ok (pageMapping entry u)
      | none => .error .notPresent := by
  have hpage : pageDown u / pageSize = u / pageSize := by
    unfold pageDown
    rw [Nat.mul_div_cancel _ (by decide)]
  obtain ⟨h1, h2, h3, h4⟩ := indices_of_samePage hpage
  have hdown : SlotPage m.paging.arenaPml4Index (pageDown u) := by
    refine ⟨pageDown_mod u, ?_, h1.trans hu⟩
    rw [canonical48_iff] at hcanon ⊢
    simp only [pageDown, pageSize] at *
    omega
  have hleaf : m.leaf allocator (pageDown u) = m.leaf allocator u := by
    unfold Machine.leaf tablePath
    rw [h1, h2, h3, h4]
  rw [entryOf_slotPage hdown, hleaf]
  exact query_eq h hcanon hu

end Gate4Harness.Vm
