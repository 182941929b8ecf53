-- A ring of slots and a scan of it. The scan starts behind a slot and comes to
-- that slot last. Slots that are found one after the other, while one slot is
-- passed over, come closer and closer to it.
import Mathlib.Data.List.Nodup
import Mathlib.Tactic.Common

namespace RoundRobin

variable {n : Nat} {a c m t u : Fin n} {l : List (Fin n)}

/-! ## The scan -/

/-- The slots in the order in which a scan that starts behind `c` looks at them. -/
def scan (c : Fin n) : List (Fin n) :=
  (List.range' 1 n).map fun offset => ⟨(c.val + offset) % n, Nat.mod_lt _ c.pos⟩

/-- How many slots the scan looks at before it comes to `u`. -/
def turns (c u : Fin n) : Nat :=
  if c.val < u.val then u.val - c.val - 1 else u.val + n - c.val - 1

theorem turns_lt (c u : Fin n) : turns c u < n := by
  have := c.isLt
  have := u.isLt
  unfold turns
  split <;> omega

/-- Only the slot behind which the scan starts comes last. -/
theorem turns_lt_of_ne (h : c ≠ u) : turns c u < n - 1 := by
  have := c.isLt
  have := u.isLt
  have hne : c.val ≠ u.val := fun heq => h (Fin.ext heq)
  unfold turns
  split <;> omega

theorem turns_self (c : Fin n) : turns c c = n - 1 := by
  have := c.isLt
  unfold turns
  rw [if_neg (by omega)]
  omega

theorem turns_inj (h : turns c u = turns c m) : u = m := by
  have := c.isLt
  have := u.isLt
  have := m.isLt
  apply Fin.ext
  unfold turns at h
  split at h <;> split at h <;> omega

/-- A slot that the scan comes to before `t` is closer to `t` than the start is. -/
theorem turns_closer (h : turns c m < turns c t) : turns m t < turns c t := by
  have := c.isLt
  have := m.isLt
  have := t.isLt
  unfold turns at h ⊢
  split at h <;> split at h <;> split <;> omega

/-- The slot at an offset behind `c`, without the remainder. -/
theorem offset_val (c : Fin n) {offset : Nat} (hle : offset ≤ n) :
    (c.val + offset) % n =
      if c.val + offset < n then c.val + offset else c.val + offset - n := by
  have := c.isLt
  split
  · rename_i hlt
    exact Nat.mod_eq_of_lt hlt
  · rename_i hge
    rw [Nat.mod_eq_sub_mod (by omega), Nat.mod_eq_of_lt (by omega)]

theorem turns_offset (c : Fin n) {offset : Nat} (hpos : 1 ≤ offset) (hle : offset ≤ n) :
    turns c ⟨(c.val + offset) % n, Nat.mod_lt _ c.pos⟩ = offset - 1 := by
  have := c.isLt
  unfold turns
  simp only [offset_val c hle]
  split <;> split <;> omega

theorem mem_scan (c u : Fin n) : u ∈ scan c := by
  have hlt := turns_lt c u
  unfold scan
  rw [List.mem_map]
  refine ⟨turns c u + 1, by rw [List.mem_range'_1]; omega, ?_⟩
  apply turns_inj (c := c)
  rw [turns_offset c (by omega) (by omega)]
  omega

theorem scan_pairwise (c : Fin n) : (scan c).Pairwise fun a b => turns c a < turns c b := by
  unfold scan
  rw [List.pairwise_map]
  apply List.Pairwise.imp_of_mem _ (List.pairwise_lt_range' (s := 1) (n := n))
  intro i j hi hj hlt
  rw [List.mem_range'_1] at hi hj
  rw [turns_offset c hi.1 (by omega), turns_offset c hj.1 (by omega)]
  omega

/-- The scan finds the first of the slots that it looks for. -/
theorem find_scan_le {p : Fin n → Bool} (h : (scan c).find? p = some m) (hu : p u = true) :
    turns c m ≤ turns c u := by
  obtain ⟨_, before, after, heq, hbefore⟩ := List.find?_eq_some_iff_append.mp h
  have hpair := scan_pairwise c
  have hmem := mem_scan c u
  rw [heq] at hpair hmem
  rw [List.mem_append, List.mem_cons] at hmem
  rcases hmem with hin | rfl | hin
  · have hno := hbefore u hin
    rw [hu] at hno
    cases hno
  · exact Nat.le_refl _
  · rw [List.pairwise_append, List.pairwise_cons] at hpair
    exact Nat.le_of_lt (hpair.2.1.1 u hin)

/-! ## Slots on the way to `t` -/

/-- Each slot of the list is closer to `t` than the one before it, and the first is closer
than `limit`. -/
inductive Closing (t : Fin n) : Nat → List (Fin n) → Prop
  | nil {limit : Nat} : Closing t limit []
  | cons {limit : Nat} {a : Fin n} {rest : List (Fin n)} (hlt : turns a t < limit)
      (hrest : Closing t (turns a t) rest) : Closing t limit (a :: rest)

variable {limit limit' : Nat}

theorem Closing.mono (h : Closing t limit l) (hle : limit ≤ limit') : Closing t limit' l := by
  cases h with
  | nil => exact .nil
  | cons hlt hrest => exact .cons (Nat.lt_of_lt_of_le hlt hle) hrest

theorem Closing.turns_lt (h : Closing t limit l) (ha : a ∈ l) : turns a t < limit := by
  induction h with
  | nil => cases ha
  | cons hlt _ ih =>
    rcases List.mem_cons.mp ha with rfl | hin
    · exact hlt
    · exact Nat.lt_trans (ih hin) hlt

theorem Closing.length_le (h : Closing t limit l) : l.length ≤ limit := by
  induction h with
  | nil => exact Nat.zero_le _
  | cons hlt _ ih =>
    rw [List.length_cons]
    omega

theorem Closing.nodup (h : Closing t limit l) : l.Nodup := by
  induction h with
  | nil => exact List.nodup_nil
  | cons _ hrest ih =>
    rw [List.nodup_cons]
    exact ⟨fun hin => Nat.lt_irrefl _ (hrest.turns_lt hin), ih⟩

/-- The slot `t` itself is farther away than any other one. -/
theorem Closing.not_mem (h : Closing t (n - 1) l) : t ∉ l := by
  intro hin
  have := h.turns_lt hin
  rw [turns_self] at this
  omega

end RoundRobin
