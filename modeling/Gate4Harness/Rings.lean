-- Rings: a table whose slots are written in turn, and from the first again when the last was
-- written. Of all that was ever written it holds what was written last, as much as it has
-- slots. A search goes through the slots in their order, which is not the order of age.
import Mathlib.Algebra.GroupWithZero.Nat
import Mathlib.Data.List.FinRange
import Mathlib.Data.List.Nodup
import Mathlib.Logic.Function.Basic
import Mathlib.Tactic.Common

namespace Rings

variable {α : Type*} {size : Nat} [NeZero size] {slots : Fin size → α} {count : Nat}
  {history : List α}

/-- The slot of the entry that was written as number `k`, counted from 0. -/
def place (size : Nat) [NeZero size] (k : Nat) : Fin size :=
  ⟨k % size, Nat.mod_lt _ (Nat.pos_of_neZero size)⟩

/-- The entry was not yet overwritten. -/
def Kept (size : Nat) (history : List α) (k : Nat) : Prop :=
  k < history.length ∧ history.length ≤ k + size

/-- The entry that was written as number `k`. -/
def Kept.entry {k : Nat} (h : Kept size history k) : α := history.get ⟨k, h.1⟩

/-- The ring holds the last entries of the history, each in its place. -/
structure Holds (slots : Fin size → α) (count : Nat) (history : List α) : Prop where
  count : count = min history.length size
  kept : ∀ k (h : k < history.length), history.length ≤ k + size →
    slots (place size k) = history[k]

theorem Holds.eq_entry (h : Holds slots count history) {k : Nat} (hk : Kept size history k) :
    slots (place size k) = hk.entry := h.kept k hk.1 hk.2

theorem Holds.nil (slots : Fin size → α) : Holds slots 0 [] :=
  ⟨(Nat.zero_min size).symm, fun _ h => nomatch h⟩

/-- Two entries that are both kept are in different slots. -/
theorem Kept.eq_of_place {j k : Nat} (hj : Kept size history j) (hk : Kept size history k)
    (h : place size j = place size k) : j = k := by
  have hmod : j % size = k % size := congrArg Fin.val h
  obtain ⟨hj, hj'⟩ := hj
  obtain ⟨hk, hk'⟩ := hk
  rcases Nat.lt_trichotomy j k with hlt | heq | hlt
  · have hdiff : (k - j) % size = 0 := Nat.sub_mod_eq_zero_of_mod_eq hmod.symm
    rw [Nat.mod_eq_of_lt (by omega)] at hdiff
    omega
  · exact heq
  · have hdiff : (j - k) % size = 0 := Nat.sub_mod_eq_zero_of_mod_eq hmod
    rw [Nat.mod_eq_of_lt (by omega)] at hdiff
    omega

/-- Each slot in use has an entry that is kept. -/
theorem Holds.exists_kept (h : Holds slots count history) {i : Fin size} (hi : i.val < count) :
    ∃ k, Kept size history k ∧ place size k = i := by
  have hsize := i.isLt
  have hlt : i.val < history.length := by
    rw [h.count] at hi
    omega
  have hrest := Nat.mod_lt (history.length - 1 - i.val) (Nat.pos_of_neZero size)
  have hdiv := Nat.div_add_mod (history.length - 1 - i.val) size
  -- the last number up to the newest that leaves the same rest
  refine ⟨i.val + size * ((history.length - 1 - i.val) / size), ⟨by omega, by omega⟩, ?_⟩
  apply Fin.ext
  change (i.val + size * ((history.length - 1 - i.val) / size)) % size = i.val
  rw [Nat.add_mul_mod_self_left, Nat.mod_eq_of_lt hsize]

theorem Holds.place_lt (h : Holds slots count history) {k : Nat} (hk : Kept size history k) :
    (place size k).val < count := by
  have hlt := (place size k).isLt
  rw [h.count]
  by_cases hfull : history.length < size
  · have hval : (place size k).val = k := Nat.mod_eq_of_lt (by have := hk.1; omega)
    have := hk.1
    omega
  · omega

/-- One entry more. -/
theorem Holds.push (h : Holds slots count history) (x : α) :
    Holds (Function.update slots (place size history.length) x) (min (count + 1) size)
      (history ++ [x]) := by
  refine ⟨?_, fun k hk hkept => ?_⟩
  · rw [List.length_append, List.length_singleton, h.count]
    omega
  · rw [List.length_append, List.length_singleton] at hk hkept
    by_cases hnew : k = history.length
    · subst hnew
      rw [Function.update_self, List.getElem_concat_length rfl]
    · have hold : k < history.length := by omega
      have hne : place size k ≠ place size history.length := by
        intro heq
        have hmod : history.length % size = k % size := (congrArg Fin.val heq).symm
        have hdiff : (history.length - k) % size = 0 := Nat.sub_mod_eq_zero_of_mod_eq hmod
        rw [Nat.mod_eq_of_lt (by omega)] at hdiff
        omega
      rw [Function.update_of_ne hne, h.kept k hold (by omega), List.getElem_append_left]

/-! ## A search in the order of the slots -/

theorem find?_finRange_eq_some_iff {n : Nat} {p : Fin n → Bool} {i : Fin n} :
    (List.finRange n).find? p = some i ↔ p i = true ∧ ∀ j < i, p j = false := by
  rw [List.find?_eq_some_iff_getElem]
  simp only [List.getElem_finRange, Bool.not_eq_true', List.length_finRange]
  constructor
  · rintro ⟨hp, k, hk, heq, hbefore⟩
    refine ⟨hp, fun j hj => ?_⟩
    have hval : i.val = k := (congrArg Fin.val heq).symm
    simpa using hbefore j.val (by omega)
  · rintro ⟨hp, hbefore⟩
    exact ⟨hp, i.val, i.isLt, rfl, fun j hj => hbefore ⟨j, hj.trans i.isLt⟩ hj⟩

/-- The search finds an entry if all others that it could find are in later slots. -/
theorem Holds.find?_iff (h : Holds slots count history) (p : α → Bool) {k : Nat}
    (hk : Kept size history k) (hp : p hk.entry = true) :
    ((List.finRange size).find? fun i => decide (i.val < count) && p (slots i)) =
        some (place size k) ↔
      ∀ j, (hj : Kept size history j) → p hj.entry = true →
        place size k ≤ place size j := by
  rw [find?_finRange_eq_some_iff]
  constructor
  · rintro ⟨-, hbefore⟩ j hj hpj
    refine le_of_not_gt fun hlt => ?_
    have hfalse := hbefore _ hlt
    rw [decide_eq_true (h.place_lt hj), h.eq_entry hj, hpj] at hfalse
    cases hfalse
  · intro hfirst
    refine ⟨?_, fun i hi => ?_⟩
    · rw [decide_eq_true (h.place_lt hk), h.eq_entry hk, hp]
      rfl
    · by_cases hcount : i.val < count
      · obtain ⟨j, hj, rfl⟩ := h.exists_kept hcount
        rw [h.eq_entry hj, Bool.and_eq_false_iff, ← Bool.not_eq_true (p _)]
        exact Or.inr fun hpj => absurd hi (not_lt.mpr (hfirst j hj hpj))
      · rw [decide_eq_false hcount, Bool.false_and]

end Rings
