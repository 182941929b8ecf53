-- A rule for the invariants of the machine. The calls of a payload change the machine in two
-- ways only: a turn of a commit, and a page that goes away. What both keep, every call keeps.
-- Between the calls the payload stores into the pages that it has.
import Gate4Harness.Pictures

namespace Gate4Harness.Vm

open Runs

variable {W : Type} {c : Context W} {tables data : W → Nat → Option Nat} {held : Nat → Prop}
  {s : Space W} {v p : Nat} {r : ReservationSlot}
  {currentCr3 base length : Nat} {nxEnabled : Bool} {P : Machine W → Prop}

/-! ## What the calls do to the machine -/

theorem dropPage_machine (c : Context W) (s : Space W) (v p page : Nat) :
    (s.dropPage c v p page).machine =
      { (unmapPage c.tableAllocator s.machine v).2 with
        world := c.dataAllocator.freePage p page
          (unmapPage c.tableAllocator s.machine v).2.world } := by
  have hdecommit : ((s.unmap c v).decommit v).machine =
      (unmapPage c.tableAllocator s.machine v).2 := by
    unfold Space.decommit
    split <;> rfl
  unfold Space.dropPage Space.freeData Space.withWorld
  rw [hdecommit]

theorem releaseWith_machine (s : Space W) (r : ReservationSlot) (reply : PublicReply)
    (result : PublicResult) : (releaseWith s r reply result).2.machine = s.machine := by
  unfold releaseWith
  split <;> rfl

/-! ## The rule -/

/-- A turn of a commit and the drop of a page keep a property of the machine. -/
structure KeptByCalls (c : Context W) (tables data : W → Nat → Option Nat) (held : Nat → Prop)
    (base length : Nat) (nxEnabled : Bool) (P : Machine W → Prop) : Prop where
  turn : ∀ {s : Space W} {v : Nat}, Coherent c tables data held base length nxEnabled s →
    P s.machine → InArena base length v → P (commitTurn c true false s v).2.machine
  drop : ∀ {s : Space W} {v p : Nat}, Coherent c tables data held base length nxEnabled s →
    P s.machine → InArena base length v → pageAt s.arena v = some p →
    P (s.dropPage c v p (c.dataAllocator.physicalAlias p)).machine

section Rule

variable (hargs : CreateArguments currentCr3 base length) (hpages : OneSlot base length)
  (hT : Conforming c.tableAllocator tables data held)
  (hD : Conforming c.dataAllocator data tables held)
  (hP : KeptByCalls c tables data held base length nxEnabled P)
  (h : Coherent c tables data held base length nxEnabled s) (hs : P s.machine)

include hargs hpages hD hP h hs

theorem KeptByCalls.rollBack {created : List CreatedPage}
    (hplaced : ∀ x ∈ created, Placed c base length s.arena x)
    (hdistinct : created.Pairwise fun x y => x.virtualPage ≠ y.virtualPage) :
    P (rollBack c s created).machine := by
  induction created generalizing s with
  | nil => exact hs
  | cons x rest ih =>
    obtain ⟨hx, hrest⟩ := List.pairwise_cons.mp hdistinct
    obtain ⟨hv, hp, ha⟩ := hplaced x (by simp)
    obtain ⟨h1, hkeep⟩ := h.dropPage hargs hpages hD hv hp
    have hs1 := hP.drop h hs hv hp
    unfold Vm.rollBack
    rw [ha]
    refine ih h1 hs1 ?_ hrest
    intro y hy
    obtain ⟨hyv, hyp, hya⟩ := hplaced y (by simp [hy])
    exact ⟨hyv, by rw [hkeep _ (hx y hy).symm]; exact hyp, hya⟩

include hT

theorem KeptByCalls.commitFrom {created : List CreatedPage} (left : Nat)
    (hplaced : ∀ x ∈ created, Placed c base length s.arena x)
    (hdistinct : created.Pairwise fun x y => x.virtualPage ≠ y.virtualPage)
    (hin : ∀ k < left, InArena base length (v + k * pageSize)) :
    P (commitFrom c true false s created v left).2.machine := by
  induction left generalizing s created v with
  | zero => exact hs
  | succ left ih =>
    have hv : InArena base length v := by simpa using hin 0 (by omega)
    have hnext : ∀ k < left, InArena base length (v + pageSize + k * pageSize) := by
      intro k hk
      have := hin (k + 1) (by omega)
      rwa [Nat.succ_mul, Nat.add_comm (k * pageSize), ← Nat.add_assoc] at this
    have heffect := commitTurn_effect hargs hpages hT hD h hv true false
    have hturn := hP.turn h hs hv
    unfold Vm.commitFrom
    generalize commitTurn c true false s v = r at heffect hturn ⊢
    obtain ⟨answer, s1⟩ := r
    dsimp only at heffect hturn
    obtain ⟨h1, hkeeps, hnew⟩ := heffect
    have hplaced1 : ∀ x ∈ created, Placed c base length s1.arena x := by
      intro x hx
      obtain ⟨hxv, hxp, hxa⟩ := hplaced x hx
      exact ⟨hxv, hkeeps _ _ hxp, hxa⟩
    rcases answer with e | _ | x
    · exact hP.rollBack hargs hpages hD h1 hturn hplaced1 hdistinct
    · exact ih h1 hturn hplaced1 hdistinct hnext
    · obtain ⟨hxv, hfree, hx⟩ := hnew x rfl
      refine ih h1 hturn ?_ ?_ hnext
      · intro y hy
        rcases List.mem_cons.mp hy with rfl | hy
        · exact hx
        · exact hplaced1 y hy
      · refine List.pairwise_cons.mpr ⟨?_, hdistinct⟩
        intro y hy hsame
        have := (hplaced y hy).page
        rw [← hsame, hxv, hfree] at this
        cases this

theorem KeptByCalls.publicCommitRange (r : ReservationSlot) (start bytes : Nat)
    (result : PublicResult) : P (publicCommitRange c s r start bytes result).2.machine := by
  have hrange : P (commitRange c s r start bytes true false).2.machine := by
    rcases commitRange_cases c s r start bytes true false with
      ⟨e, heq⟩ | ⟨r', page, count, -, -, hin, heq⟩
    · rw [heq]
      exact hs
    · rw [heq]
      exact hP.commitFrom hargs hpages hT hD h hs count (by simp) List.Pairwise.nil
        (hin.inArena h.matched)
  have hcase := publicCommitRange_cases c s r start bytes result
  generalize Vm.publicCommitRange c s r start bytes result = answer at hcase ⊢
  cases hcase with
  | refused => exact hs
  | failed hfailed =>
    rw [hfailed] at hrange
    exact hrange
  | committed _ _ hok =>
    rw [hok] at hrange
    exact hrange

omit hT in
theorem KeptByCalls.abandonReservation (r : ReservationSlot) (e : PublicError)
    (result : PublicResult) : P (abandonReservation c s r e result).2.machine := by
  have hclean : ∀ slots : List CommitmentSlot,
      P (slots.foldl (cleanCommitment c r) s).machine := by
    intro slots
    induction slots generalizing s with
    | nil => exact hs
    | cons i rest ih =>
      refine ih (h.cleanCommitment hargs hpages hD r i) ?_
      unfold cleanCommitment
      dsimp only
      split
      · rename_i hi
        obtain ⟨hin, hp⟩ := h.matched.commitment hi.1
        exact hP.drop h hs hin hp
      · exact hs
  unfold Vm.abandonReservation
  rw [releaseWith_machine]
  exact hclean _

theorem KeptByCalls.virtualAlloc (address size allocationType protection : Nat) :
    P (virtualAlloc c s address size allocationType protection).2.machine := by
  have hcase := virtualAlloc_cases c s address size allocationType protection
  generalize Vm.virtualAlloc c s address size allocationType protection = answer at hcase ⊢
  cases hcase with
  | refused => exact hs
  | reserved => exact hs
  | @reservedAndCommitted b r arena reply s1 result hok hcommit =>
    have h1 := hP.publicCommitRange hargs hpages hT hD (h.reserveAny hok) hs r b size result
    rw [hcommit] at h1
    exact h1
  | @abandoned b r arena reply s1 e result _ hok hcommit =>
    have h1 := hP.publicCommitRange hargs hpages hT hD (h.reserveAny hok) hs r b size result
    have hcoherent := (h.reserveAny hok).publicCommitRange hargs hpages hT hD r b size result
    rw [hcommit] at h1 hcoherent
    dsimp only at h1 hcoherent
    exact hP.abandonReservation hargs hpages hD hcoherent h1 r e _
  | @committed r reply s1 result _ hcommit =>
    have h1 := hP.publicCommitRange hargs hpages hT hD h hs r address size result
    rw [hcommit] at h1
    exact h1
  | @uncommitted r reply s1 e result _ hcommit =>
    have h1 := hP.publicCommitRange hargs hpages hT hD h hs r address size result
    rw [hcommit] at h1
    exact h1

omit hT in
theorem KeptByCalls.releaseCommitments (r : ReservationSlot) (slots : List CommitmentSlot) :
    P (releaseCommitments c r s slots).2.machine := by
  induction slots generalizing s with
  | nil => exact hs
  | cons i rest ih =>
    unfold Vm.releaseCommitments
    dsimp only
    split
    · exact ih h hs
    · rename_i hi
      simp only [not_or, Decidable.not_not] at hi
      split
      · exact hs
      · obtain ⟨hin, hp⟩ := h.matched.commitment hi.1
        obtain ⟨j, t, hj, hjp, hw, hunmap, hdecommit⟩ := h.matched.dropped hargs hpages hin hp
        have hdrop := hP.drop h hs hin hp
        rw [dropPage_machine, hunmap] at hdrop
        rw [hunmap]
        dsimp only
        rw [if_neg (not_not_intro rfl), hdecommit]
        exact ih (h.dropped hargs hpages hD hin hj hjp hw rfl rfl) hdrop

omit hT in
theorem KeptByCalls.virtualFree (address size freeType : Nat) :
    P (virtualFree c s address size freeType).2.machine := by
  have hcase := virtualFree_cases c s address size freeType
  generalize Vm.virtualFree c s address size freeType = answer at hcase ⊢
  cases hcase with
  | refused => exact hs
  | @released r committed _ _ _ =>
    have h1 := hP.releaseCommitments hargs hpages hD h hs r (List.finRange maxCommitments)
    unfold releaseReservation
    generalize Vm.releaseCommitments c r s (List.finRange maxCommitments) = answer at h1 ⊢
    obtain ⟨ok, s1⟩ := answer
    cases ok with
    | false => exact h1
    | true =>
      dsimp only
      rw [releaseWith_machine]
      exact h1

theorem KeptByCalls.virtualStep (op : VirtualOp) : P (virtualStep c s op).machine := by
  cases op with
  | virtualAlloc address size allocationType protection =>
    exact hP.virtualAlloc hargs hpages hT hD h hs address size allocationType protection
  | virtualFree address size freeType =>
    exact hP.virtualFree hargs hpages hD h hs address size freeType

end Rule

/-! ## The payload -/

/-- A payload stores a word into a page that is committed. -/
def Space.storeWord (c : Context W) (s : Space W) (virtualPage index value : Nat) : Space W :=
  match pageAt s.arena virtualPage with
  | some physicalPage =>
    let page := c.dataAllocator.physicalAlias physicalPage
    { s with machine := { s.machine with
        memory := Function.update s.machine.memory page
          (Function.update (s.machine.memory page) index value) } }
  | none => s

inductive PayloadOp
  | call (op : VirtualOp)
  | storeWord (virtualPage index value : Nat)
  deriving DecidableEq, Repr

def payloadStep (c : Context W) (s : Space W) : PayloadOp → Space W
  | .call op => virtualStep c s op
  | .storeWord virtualPage index value => s.storeWord c virtualPage index value

end Gate4Harness.Vm
