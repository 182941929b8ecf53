-- A walk over the pieces that cover a range. Each step goes from one piece into the next, as
-- far as the piece it stands in reaches. It gets to the end exactly when all the range is
-- covered.
import Mathlib.Algebra.Order.Sub.Basic
import Mathlib.Tactic.Common

namespace Coverage

/-- The walk. `reach x` is how far some piece goes on from `x`, when one holds `x`. -/
def walk (reach : Nat → Option Nat) : (fuel current remaining : Nat) → Bool
  | _, _, 0 => true
  | 0, _, _ + 1 => false
  | fuel + 1, current, remaining + 1 =>
    match reach current with
    | none => false
    | some n =>
      if remaining + 1 ≤ n then true else walk reach fuel (current + n) (remaining + 1 - n)

/-- `reach` tells of the places that are `covered`: it answers at each of them, and nothing
it reaches is outside. -/
structure Measures (reach : Nat → Option Nat) (covered : Nat → Prop) : Prop where
  found : ∀ x n, reach x = some n → 0 < n ∧ ∀ y, x ≤ y → y < x + n → covered y
  none : ∀ x, reach x = none → ¬ covered x

variable {reach : Nat → Option Nat} {covered : Nat → Prop}

/-- The first of two that answers. -/
theorem Measures.orElse {reach' : Nat → Option Nat} {covered' : Nat → Prop}
    (h : Measures reach covered) (h' : Measures reach' covered') :
    Measures (fun x => (reach x).or (reach' x)) fun x => covered x ∨ covered' x := by
  constructor
  · intro x n hx
    rcases Option.or_eq_some_iff.mp hx with hleft | ⟨_, hright⟩
    · exact ⟨(h.found x n hleft).1, fun y hy hn => Or.inl ((h.found x n hleft).2 y hy hn)⟩
    · exact ⟨(h'.found x n hright).1, fun y hy hn => Or.inr ((h'.found x n hright).2 y hy hn)⟩
  · intro x hx
    rw [Option.or_eq_none_iff] at hx
    exact not_or.mpr ⟨h.none x hx.1, h'.none x hx.2⟩

/-- The first piece of a list that answers. -/
theorem Measures.findSome {ι : Type*} {reach : ι → Nat → Option Nat} {covered : ι → Nat → Prop}
    (h : ∀ i, Measures (reach i) (covered i)) (pieces : List ι) :
    Measures (fun x => pieces.findSome? fun i => reach i x) fun x => ∃ i ∈ pieces, covered i x := by
  constructor
  · intro x n hx
    obtain ⟨i, hi, hfound⟩ := List.exists_of_findSome?_eq_some hx
    exact ⟨((h i).found x n hfound).1, fun y hy hn => ⟨i, hi, ((h i).found x n hfound).2 y hy hn⟩⟩
  · rintro x hx ⟨i, hi, hc⟩
    exact (h i).none x (List.findSome?_eq_none_iff.mp hx i hi) hc

/-- Each step leaves at least one place less, so as much fuel as places is enough. -/
theorem walk_iff (h : Measures reach covered) {fuel remaining : Nat} (hfuel : remaining ≤ fuel)
    (current : Nat) :
    walk reach fuel current remaining = true ↔
      ∀ y, current ≤ y → y < current + remaining → covered y := by
  induction fuel generalizing current remaining with
  | zero =>
    obtain rfl : remaining = 0 := Nat.le_zero.mp hfuel
    exact iff_of_true rfl fun y hy hlt => absurd hlt (by omega)
  | succ fuel ih =>
    cases remaining with
    | zero => exact iff_of_true rfl fun y hy hlt => absurd hlt (by omega)
    | succ remaining =>
      unfold walk
      cases hreach : reach current with
      | none =>
        refine iff_of_false Bool.false_ne_true fun hall => ?_
        exact h.none current hreach (hall current le_rfl (by omega))
      | some n =>
        obtain ⟨hn, hpiece⟩ := h.found current n hreach
        dsimp only
        split
        · exact iff_of_true rfl fun y hy hlt => hpiece y hy (by omega)
        · rw [ih (by omega)]
          constructor
          · intro hrest y hy hlt
            rcases Nat.lt_or_ge y (current + n) with hin | hout
            · exact hpiece y hy hin
            · exact hrest y hout (by omega)
          · intro hall y hy hlt
            exact hall y (by omega) (by omega)

end Coverage
