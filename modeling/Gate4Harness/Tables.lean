-- Tables of records: the sum and the greatest value of a measure over a table, how
-- they change with one entry, and loops over a table that can stop early.
import Mathlib.Algebra.BigOperators.Fin
import Mathlib.Algebra.Order.BigOperators.Group.Finset
import Mathlib.Data.Finset.Lattice.Fold
import Mathlib.Order.Interval.Finset.Nat
import Mathlib.Order.Lattice.Nat
import Mathlib.Tactic.Common

namespace Tables

variable {α ι σ : Type*} {n : Nat} {w : α → Nat} {table : Fin n → α} {i : Fin n} {x : α}

/-! ## Sums -/

/-- The sum of the measure over all entries. -/
def total (w : α → Nat) (table : Fin n → α) : Nat := Finset.univ.sum fun i => w (table i)

/-- One entry changes the sum by its own measure. -/
theorem total_update (w : α → Nat) (table : Fin n → α) (i : Fin n) (x : α) :
    total w (Function.update table i x) + w (table i) = total w table + w x := by
  unfold total
  have h1 := Finset.add_sum_erase Finset.univ (fun j => w (table j)) (Finset.mem_univ i)
  have h2 := Finset.add_sum_erase Finset.univ (fun j => w (Function.update table i x j))
    (Finset.mem_univ i)
  have h3 : ((Finset.univ.erase i).sum fun j => w (Function.update table i x j)) =
      (Finset.univ.erase i).sum fun j => w (table j) := by
    apply Finset.sum_congr rfl
    intro j hj
    rw [Function.update_of_ne (Finset.ne_of_mem_erase hj)]
  simp only [Function.update_self] at h2
  omega

theorem le_total (w : α → Nat) (table : Fin n → α) (i : Fin n) : w (table i) ≤ total w table :=
  Finset.single_le_sum (f := fun j => w (table j)) (fun _ _ => Nat.zero_le _) (Finset.mem_univ i)

theorem total_le {b : Nat} (h : ∀ i, w (table i) ≤ b) : total w table ≤ n * b := by
  have := Finset.sum_le_card_nsmul Finset.univ (fun i => w (table i)) b fun i _ => h i
  simpa [total] using this

theorem total_eq_zero_iff : total w table = 0 ↔ ∀ i, w (table i) = 0 := by
  simp [total]

/-- Ranges that do not meet and lie in a window have no more bytes than the window. The range
of an entry starts at `lo` and has `w` bytes. -/
theorem total_le_window (lo : α → Nat) (b : Nat) {len : Nat}
    (hin : ∀ i, w (table i) ≠ 0 → b ≤ lo (table i) ∧ lo (table i) + w (table i) ≤ b + len)
    (hapart : ∀ i j, i ≠ j → w (table i) ≠ 0 → w (table j) ≠ 0 →
      lo (table i) + w (table i) ≤ lo (table j) ∨ lo (table j) + w (table j) ≤ lo (table i)) :
    total w table ≤ len := by
  let range : Fin n → Finset Nat := fun i =>
    Finset.Ico (lo (table i)) (lo (table i) + w (table i))
  have hdisjoint : Set.PairwiseDisjoint (Finset.univ : Finset (Fin n)) range := by
    intro i _ j _ hij
    rw [Function.onFun, Finset.disjoint_left]
    intro x hi hj
    simp only [range, Finset.mem_Ico] at hi hj
    have := hapart i j hij (by omega) (by omega)
    omega
  have hsub : Finset.univ.biUnion range ⊆ Finset.Ico b (b + len) := by
    intro x hx
    simp only [Finset.mem_biUnion, Finset.mem_univ, true_and, range, Finset.mem_Ico] at hx ⊢
    obtain ⟨i, hi⟩ := hx
    have := hin i (by omega)
    omega
  calc total w table = Finset.univ.sum fun i => (range i).card := by simp [total, range]
    _ = (Finset.univ.biUnion range).card := (Finset.card_biUnion hdisjoint).symm
    _ ≤ (Finset.Ico b (b + len)).card := Finset.card_le_card hsub
    _ = len := by simp

/-- The same of a list of ranges that lie below a bound. -/
theorem sum_le_window (lo w : α → Nat) {l : List α} {len : Nat}
    (hin : ∀ x ∈ l, lo x + w x ≤ len)
    (hapart : l.Pairwise fun x y => lo x + w x ≤ lo y ∨ lo y + w y ≤ lo x) :
    (l.map w).sum ≤ len := by
  have hsum : (l.map w).sum = total w l.get := by
    conv_lhs => rw [← List.ofFn_get l]
    rw [List.map_ofFn, List.sum_ofFn]
    rfl
  rw [hsum]
  apply total_le_window lo 0
  · intro i _
    rw [Nat.zero_add]
    exact ⟨Nat.zero_le _, hin _ (List.get_mem l i)⟩
  · intro i j hij _ _
    rw [List.pairwise_iff_get] at hapart
    rcases lt_or_gt_of_ne hij with hlt | hgt
    · exact hapart i j hlt
    · exact (hapart j i hgt).symm

/-! ## Sums over the live entries -/

/-- The measure of an entry that is live, and 0 for any other. -/
def weighed (live : α → Bool) (w : α → Nat) (x : α) : Nat := if live x then w x else 0

theorem weighed_live {live : α → Bool} (h : live x = true) : weighed live w x = w x := by
  rw [weighed, if_pos h]

theorem weighed_dead {live : α → Bool} (h : live x = false) : weighed live w x = 0 := by
  rw [weighed, if_neg (by simp [h])]

theorem total_fill {live : α → Bool} (w : α → Nat) (hi : live (table i) = false)
    (hx : live x = true) :
    total (weighed live w) (Function.update table i x) = total (weighed live w) table + w x := by
  have := total_update (weighed live w) table i x
  rw [weighed_dead hi, weighed_live hx] at this
  exact this

theorem total_clear {live : α → Bool} (w : α → Nat) (hi : live (table i) = true)
    (hx : live x = false) :
    total (weighed live w) (Function.update table i x) + w (table i) =
      total (weighed live w) table := by
  have := total_update (weighed live w) table i x
  rw [weighed_live hi, weighed_dead hx] at this
  exact this

theorem le_total_live {live : α → Bool} (w : α → Nat) (hi : live (table i) = true) :
    w (table i) ≤ total (weighed live w) table := by
  have := le_total (weighed live w) table i
  rwa [weighed_live hi] at this

/-- The number of live entries is at most the size of the table. -/
theorem total_live_le (live : α → Bool) (table : Fin n → α) :
    total (weighed live fun _ => 1) table ≤ n := by
  have hle : ∀ i, weighed live (fun _ => 1) (table i) ≤ 1 := by
    intro i
    unfold weighed
    split
    · exact Nat.le_refl 1
    · exact Nat.zero_le 1
  have := total_le hle
  omega

/-! ## Relations between entries -/

/-- A new entry that has the relation with all the others. -/
theorem pairwise_update {R : α → α → Prop} (hsymm : ∀ x y, R x y → R y x)
    (h : Pairwise fun i j => R (table i) (table j)) (hx : ∀ j, j ≠ i → R x (table j)) :
    Pairwise fun j k =>
      R (Function.update table i x j) (Function.update table i x k) := by
  intro j k hjk
  by_cases hj : j = i
  · subst hj
    rw [Function.update_self, Function.update_of_ne hjk.symm]
    exact hx k hjk.symm
  · rw [Function.update_of_ne hj]
    by_cases hk : k = i
    · subst hk
      rw [Function.update_self]
      exact hsymm _ _ (hx j hj)
    · rw [Function.update_of_ne hk]
      exact h hjk

/-- What holds of each entry, and of the new one. -/
theorem forall_update {P : α → Prop} (h : ∀ i, P (table i)) (hx : P x) (j : Fin n) :
    P (Function.update table i x j) := by
  by_cases hj : j = i
  · subst hj
    rwa [Function.update_self]
  · rw [Function.update_of_ne hj]
    exact h j

/-! ## The greatest value -/

def greatest (w : α → Nat) (table : Fin n → α) : Nat := Finset.univ.sup fun i => w (table i)

/-- An entry that counted for nothing gets a new value. -/
theorem greatest_update (h : w (table i) = 0) :
    greatest w (Function.update table i x) = max (greatest w table) (w x) := by
  unfold greatest
  apply Nat.le_antisymm
  · apply Finset.sup_le
    intro j _
    by_cases hj : j = i
    · subst hj
      simp
    · rw [Function.update_of_ne hj]
      exact Nat.le_trans (Finset.le_sup (f := fun j => w (table j)) (Finset.mem_univ j))
        (Nat.le_max_left _ _)
  · apply Nat.max_le.mpr
    constructor
    · apply Finset.sup_le
      intro j _
      by_cases hj : j = i
      · subst hj
        simp [h]
      · have := Finset.le_sup (f := fun j => w (Function.update table i x j)) (Finset.mem_univ j)
        simpa [hj] using this
    · have := Finset.le_sup (f := fun j => w (Function.update table i x j)) (Finset.mem_univ i)
      simpa using this

/-! ## Loops over a table -/

theorem foldl_max (f : ι → Nat) (l : List ι) [DecidableEq ι] (m : Nat) :
    l.foldl (fun m i => if f i > m then f i else m) m = max m (l.toFinset.sup f) := by
  induction l generalizing m with
  | nil => simp
  | cons i rest ih =>
    rw [List.foldl_cons, ih, List.toFinset_cons, Finset.sup_insert]
    split
    · change max (f i) _ = max m (max (f i) _)
      omega
    · change max m _ = max m (max (f i) _)
      omega

/-- The loop that looks for the greatest value finds it. -/
theorem foldl_greatest (w : α → Nat) (table : Fin n → α) :
    (List.finRange n).foldl (fun m i => if w (table i) > m then w (table i) else m) 0 =
      greatest w table := by
  rw [foldl_max (fun i => w (table i))]
  simp [greatest, List.toFinset_finRange]

/-- A loop with early exits runs to its end when each turn goes on, and the property `P` of
the part that is done and the accumulator holds at the end. -/
theorem foldl_goes_on {step : Option σ → ι → Option σ} {P : List ι → σ → Prop} {l : List ι}
    {first : σ} (hfirst : P [] first)
    (hstep : ∀ done i rest acc, l = done ++ i :: rest → P done acc →
      ∃ acc', step (some acc) i = some acc' ∧ P (done ++ [i]) acc') :
    ∃ last, l.foldl step (some first) = some last ∧ P l last := by
  have hall : ∀ (rest done : List ι) (acc : σ), l = done ++ rest → P done acc →
      ∃ last, rest.foldl step (some acc) = some last ∧ P l last := by
    intro rest
    induction rest with
    | nil =>
      intro done acc hl hp
      rw [List.append_nil] at hl
      exact ⟨acc, rfl, by rw [hl]; exact hp⟩
    | cons i rest ih =>
      intro done acc hl hp
      obtain ⟨acc', hturn, hp'⟩ := hstep done i rest acc hl hp
      rw [List.foldl_cons, hturn]
      exact ih (done ++ [i]) acc' (by simp [hl]) hp'
  exact hall l [] first rfl hfirst

theorem foldl_none {step : Option σ → ι → Option σ} (hnone : ∀ i, step none i = none)
    (l : List ι) : l.foldl step none = none := by
  induction l with
  | nil => rfl
  | cons i rest ih => rw [List.foldl_cons, hnone, ih]

/-- A loop that ran to its end made each of its turns. -/
theorem foldl_turn {step : Option σ → ι → Option σ} (hnone : ∀ i, step none i = none)
    {l : List ι} {start : Option σ} {last : σ} (h : l.foldl step start = some last) {i : ι}
    (hi : i ∈ l) : ∃ acc acc', step (some acc) i = some acc' := by
  induction l generalizing start with
  | nil => cases hi
  | cons j rest ih =>
    rw [List.foldl_cons] at h
    rcases List.mem_cons.mp hi with rfl | hrest
    · cases start with
      | none =>
        rw [hnone, foldl_none hnone] at h
        cases h
      | some acc =>
        cases hturn : step (some acc) i with
        | none =>
          rw [hturn, foldl_none hnone] at h
          cases h
        | some acc' => exact ⟨acc, acc', hturn⟩
    · exact ih h hrest

/-- What the start has and every turn that goes on keeps holds at the end of a loop that ran
to its end. -/
theorem foldl_kept {step : Option σ → ι → Option σ} (hnone : ∀ i, step none i = none)
    {P : List ι → σ → Prop} {l : List ι} {first last : σ}
    (h : l.foldl step (some first) = some last) (hfirst : P [] first)
    (hstep : ∀ done i acc acc', P done acc → step (some acc) i = some acc' →
      P (done ++ [i]) acc') : P l last := by
  have hall : ∀ (rest done : List ι) (acc : σ), P done acc →
      rest.foldl step (some acc) = some last → P (done ++ rest) last := by
    intro rest
    induction rest with
    | nil =>
      intro done acc hp h
      rw [List.foldl_nil, Option.some.injEq] at h
      rw [List.append_nil, ← h]
      exact hp
    | cons i rest ih =>
      intro done acc hp h
      rw [List.foldl_cons] at h
      cases hturn : step (some acc) i with
      | none =>
        rw [hturn, foldl_none hnone] at h
        cases h
      | some acc' =>
        rw [hturn] at h
        have hrest := ih (done ++ [i]) acc' (hstep done i acc acc' hp hturn) h
        rwa [List.append_assoc] at hrest
  exact hall l [] first hfirst h

/-- The sum over the entries whose indices are listed. -/
def totalOver (w : α → Nat) (table : Fin n → α) (l : List (Fin n)) : Nat :=
  (l.map fun i => w (table i)).sum

theorem totalOver_append (w : α → Nat) (table : Fin n → α) (l : List (Fin n)) (i : Fin n) :
    totalOver w table (l ++ [i]) = totalOver w table l + w (table i) := by
  simp [totalOver]

theorem totalOver_all (w : α → Nat) (table : Fin n → α) :
    totalOver w table (List.finRange n) = total w table := by
  unfold totalOver total
  rw [← List.ofFn_eq_map, List.sum_ofFn]

/-- The part of the table that is done, and the entry that comes next. -/
theorem totalOver_add_le (w : α → Nat) (table : Fin n → α) {done rest : List (Fin n)} {i : Fin n}
    (hl : List.finRange n = done ++ i :: rest) :
    totalOver w table done + w (table i) ≤ total w table := by
  rw [← totalOver_all, hl]
  simp only [totalOver, List.map_append, List.map_cons, List.sum_append, List.sum_cons]
  omega

end Tables
