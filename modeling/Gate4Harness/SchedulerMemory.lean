-- The memory that the scheduler writes: which bytes a store leaves alone, and what a load finds
-- after a store.
import Mathlib.Data.List.Basic
import Gate4Harness.SchedulerState

namespace Gate4Harness.Scheduler

variable {m m' m'' : Nat → Nat} {base bytes address value : Nat}

/-! ## Ranges -/

/-- The two memories agree on a range. -/
def SameOn (m m' : Nat → Nat) (base bytes : Nat) : Prop :=
  ∀ x, base ≤ x → x < base + bytes → m' x = m x

/-- Two ranges, each given by its base and its size, have no byte in common. -/
def RangesApart (p q : Nat × Nat) : Prop := p.1 + p.2 ≤ q.1 ∨ q.1 + q.2 ≤ p.1

instance (p q : Nat × Nat) : Decidable (RangesApart p q) := inferInstanceAs (Decidable (_ ∨ _))

theorem RangesApart.symm {p q : Nat × Nat} (h : RangesApart p q) : RangesApart q p := Or.symm h

/-- The first range is a part of the second one. -/
def PartOf (p q : Nat × Nat) : Prop := q.1 ≤ p.1 ∧ p.1 + p.2 ≤ q.1 + q.2

theorem PartOf.refl (p : Nat × Nat) : PartOf p p := ⟨Nat.le_refl _, Nat.le_refl _⟩

/-- Parts of ranges that are apart are apart. -/
theorem RangesApart.part {p q p' q' : Nat × Nat} (h : RangesApart p q) (hp : PartOf p' p)
    (hq : PartOf q' q) : RangesApart p' q' := by
  unfold PartOf at hp hq
  unfold RangesApart at h ⊢
  omega

theorem SameOn.refl (m : Nat → Nat) (base bytes : Nat) : SameOn m m base bytes := fun _ _ _ => rfl

theorem SameOn.trans (h : SameOn m m' base bytes) (h' : SameOn m' m'' base bytes) :
    SameOn m m'' base bytes := fun x hl hu => (h' x hl hu).trans (h x hl hu)

/-! ## Stores -/

theorem SameOn.zeroBytes (h : SameOn m m' base bytes) {b n : Nat}
    (hapart : RangesApart (base, bytes) (b, n)) :
    SameOn m (Scheduler.zeroBytes m' b n) base bytes := by
  intro x hl hu
  have hout : ¬ (b ≤ x ∧ x < b + n) := by
    unfold RangesApart at hapart
    dsimp only at hapart
    omega
  rw [Scheduler.zeroBytes, if_neg hout]
  exact h x hl hu

theorem SameOn.write64 (h : SameOn m m' base bytes) {a v : Nat}
    (hapart : RangesApart (base, bytes) (a, 8)) :
    SameOn m (Scheduler.write64 m' a v) base bytes := by
  intro x hl hu
  have hout : ¬ (a ≤ x ∧ x < a + 8) := by
    unfold RangesApart at hapart
    dsimp only at hapart
    omega
  rw [Scheduler.write64, if_neg hout]
  exact h x hl hu

/-! ## Loads -/

/-- The digits of a number in base 256, lowest first. -/
theorem digits_foldr (value n : Nat) :
    (List.range n).foldr (fun i v => value / 256 ^ i % 256 + 256 * v) 0 = value % 256 ^ n := by
  induction n generalizing value with
  | zero => simp [Nat.mod_one]
  | succ n ih =>
    have hshift : ∀ i, value / 256 ^ (i + 1) = value / 256 / 256 ^ i := by
      intro i
      rw [Nat.pow_succ', Nat.div_div_eq_div_mul]
    rw [List.range_succ_eq_map, List.foldr_cons, List.foldr_map]
    simp only [Nat.succ_eq_add_one, hshift, ih, Nat.pow_zero, Nat.div_one]
    rw [Nat.pow_succ', Nat.mod_mul]

theorem read64_write64 (m : Nat → Nat) (a : Nat) {v : Nat} (hv : v < 2 ^ 64) :
    read64 (Scheduler.write64 m a v) a = v := by
  have hbyte : ∀ i ∈ List.range 8, ∀ w,
      Scheduler.write64 m a v (a + i) + 256 * w = v / 256 ^ i % 256 + 256 * w := by
    intro i hi w
    have hi : i < 8 := List.mem_range.mp hi
    have hin : a ≤ a + i ∧ a + i < a + 8 := by omega
    rw [Scheduler.write64, if_pos hin, Nat.add_sub_cancel_left]
  unfold read64
  rw [List.foldr_ext _ _ 0 hbyte, digits_foldr]
  exact Nat.mod_eq_of_lt hv

theorem SameOn.read64 (h : SameOn m m' base bytes) {a : Nat} (hl : base ≤ a)
    (hu : a + 8 ≤ base + bytes) : Scheduler.read64 m' a = Scheduler.read64 m a := by
  unfold Scheduler.read64
  apply List.foldr_ext
  intro i hi w
  have hi : i < 8 := List.mem_range.mp hi
  rw [h (a + i) (by omega) (by omega)]

end Gate4Harness.Scheduler
