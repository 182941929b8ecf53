-- A fixed table of slots with a fill count, read as a list. The first `count`
-- slots hold the list in order and every later slot is empty. The table grows
-- at its end, and it loses an element in one of two ways: the later slots move
-- down by one, or the last slot moves into the hole.
import Mathlib.Data.Fintype.Card
import Mathlib.Data.List.Basic
import Mathlib.Logic.Function.Basic
import Mathlib.Tactic.Common

namespace SlotList

variable {α : Type*}

/-- The table holds the list `l`, and it is empty past its fill count. -/
def Holds (slots : Nat → Option α) (count : Nat) (l : List α) : Prop :=
  l.length = count ∧ ∀ i, slots i = l[i]?

/-! ## The loops over a table -/

/-- The index of the first slot at or after `index` that holds `x`, in the next
`remaining` slots. -/
def findFrom [DecidableEq α] (slots : Nat → Option α) (x : α) : Nat → Nat → Option Nat
  | _, 0 => none
  | index, remaining + 1 =>
    if slots index = some x then some index else findFrom slots x (index + 1) remaining

/-- Moves each of the `remaining` slots after `index` down by one. -/
def shiftDown (slots : Nat → Option α) : Nat → Nat → Nat → Option α
  | _, 0 => slots
  | index, remaining + 1 =>
    shiftDown (Function.update slots index (slots (index + 1))) (index + 1) remaining

/-- The list with its last element moved over the element at `i`. -/
def swapOut (l : List α) (i : Nat) : List α :=
  match l.getLast? with
  | some x => (l.set i x).dropLast
  | none => l

/-! ## Reading the table -/

theorem Holds.empty {slots : Nat → Option α} (h : ∀ i, slots i = none) : Holds slots 0 [] :=
  ⟨rfl, fun i => by simpa using h i⟩

theorem Holds.lt_count {slots : Nat → Option α} {count : Nat} {l : List α} {i : Nat} {x : α}
    (h : Holds slots count l) (hi : slots i = some x) : i < count := by
  rw [h.2, List.getElem?_eq_some_iff] at hi
  obtain ⟨hlt, _⟩ := hi
  rw [← h.1]
  exact hlt

theorem Holds.none_of_le {slots : Nat → Option α} {count : Nat} {l : List α} {i : Nat}
    (h : Holds slots count l) (hi : count ≤ i) : slots i = none := by
  rw [h.2, List.getElem?_eq_none (by rw [h.1]; exact hi)]

theorem Holds.exists_of_lt {slots : Nat → Option α} {count : Nat} {l : List α} {i : Nat}
    (h : Holds slots count l) (hi : i < count) : ∃ x, slots i = some x := by
  rw [← h.1] at hi
  exact ⟨l[i], by rw [h.2, List.getElem?_eq_getElem hi]⟩

theorem Holds.mem_iff {slots : Nat → Option α} {count : Nat} {l : List α} {x : α}
    (h : Holds slots count l) : x ∈ l ↔ ∃ i < count, slots i = some x := by
  rw [List.mem_iff_getElem?]
  constructor
  · rintro ⟨i, hi⟩
    rw [← h.2] at hi
    exact ⟨i, h.lt_count hi, hi⟩
  · rintro ⟨i, _, hi⟩
    exact ⟨i, by rw [← h.2]; exact hi⟩

/-- A list with no double puts each element in one slot only. -/
theorem Holds.slot_unique {slots : Nat → Option α} {count : Nat} {l : List α} {i j : Nat} {x : α}
    (h : Holds slots count l) (hl : l.Nodup) (hi : slots i = some x) (hj : slots j = some x) :
    i = j := by
  have hlt := h.lt_count hi
  rw [h.2] at hi hj
  exact (List.getElem?_inj (h.1 ▸ hlt) hl).mp (hi.trans hj.symm)

theorem Holds.head {slots : Nat → Option α} {count : Nat} {l : List α}
    (h : Holds slots count l) (hc : count ≠ 0) : ∃ x rest, l = x :: rest ∧ slots 0 = some x := by
  cases l with
  | nil => exact absurd h.1.symm hc
  | cons x rest => exact ⟨x, rest, rfl, by rw [h.2]; rfl⟩

/-! ## An element more -/

theorem Holds.push {slots : Nat → Option α} {count : Nat} {l : List α} (x : α)
    (h : Holds slots count l) :
    Holds (Function.update slots count (some x)) (count + 1) (l ++ [x]) := by
  refine ⟨by simp [h.1], fun i => ?_⟩
  rw [Function.update_apply]
  split
  · rename_i he
    rw [he, ← h.1]
    simp
  · rename_i hne
    rw [h.2]
    rcases Nat.lt_or_ge i l.length with hlt | hge
    · rw [List.getElem?_append_left hlt]
    · have := h.1
      rw [List.getElem?_eq_none hge, List.getElem?_eq_none]
      simp only [List.length_append, List.length_cons, List.length_nil]
      omega

/-! ## An element less, the order kept -/

theorem findFrom_eq_some [DecidableEq α] {slots : Nat → Option α} {x : α} {index remaining i : Nat}
    (h : findFrom slots x index remaining = some i) :
    slots i = some x ∧ index ≤ i ∧ i < index + remaining := by
  induction remaining generalizing index with
  | zero => simp [findFrom] at h
  | succ n ih =>
    simp only [findFrom] at h
    split at h
    · rename_i hx
      simp only [Option.some.injEq] at h
      subst h
      exact ⟨hx, by omega, by omega⟩
    · obtain ⟨h1, h2, h3⟩ := ih h
      exact ⟨h1, by omega, by omega⟩

theorem findFrom_isSome [DecidableEq α] {slots : Nat → Option α} {x : α} {index remaining i : Nat}
    (hi : slots i = some x) (h1 : index ≤ i) (h2 : i < index + remaining) :
    (findFrom slots x index remaining).isSome := by
  induction remaining generalizing index with
  | zero => omega
  | succ n ih =>
    simp only [findFrom]
    split
    · rfl
    · rename_i hne
      have : index ≠ i := fun he => hne (he ▸ hi)
      exact ih (by omega) (by omega)

theorem shiftDown_apply (slots : Nat → Option α) (index remaining i : Nat) :
    shiftDown slots index remaining i =
      if index ≤ i ∧ i < index + remaining then slots (i + 1) else slots i := by
  induction remaining generalizing slots index with
  | zero =>
    simp only [shiftDown]
    split
    · omega
    · rfl
  | succ n ih =>
    simp only [shiftDown, ih, Function.update_apply]
    split_ifs with h1 h2 h3 h4 h5 <;> first | rfl | omega | skip
    subst h5
    rfl

theorem Holds.shiftOut {slots : Nat → Option α} {count : Nat} {l : List α} {i : Nat}
    (h : Holds slots count l) (hi : i < count) :
    Holds (Function.update (shiftDown slots i (count - 1 - i)) (count - 1) none) (count - 1)
      (l.eraseIdx i) := by
  have hlen := h.1
  refine ⟨by rw [List.length_eraseIdx, if_pos (by omega), hlen], fun j => ?_⟩
  rw [Function.update_apply, List.getElem?_eraseIdx]
  split
  · rename_i hj
    rw [if_neg (by omega), List.getElem?_eq_none (by omega)]
  · rw [shiftDown_apply, h.2, h.2]
    split_ifs <;> first | rfl | omega | skip
    rw [List.getElem?_eq_none (by omega), List.getElem?_eq_none (by omega)]

/-! ## An element less, the last one in its place -/

theorem length_swapOut (l : List α) (i : Nat) : (swapOut l i).length = l.length - 1 := by
  unfold swapOut
  split
  · simp
  · rename_i hn
    rw [List.getLast?_eq_none_iff] at hn
    simp [hn]

theorem getElem?_swapOut {l : List α} {i : Nat} (hi : i < l.length) (j : Nat) :
    (swapOut l i)[j]? =
      if j < l.length - 1 then (if j = i then l[l.length - 1]? else l[j]?) else none := by
  have hlast : l[l.length - 1]? = l.getLast? := List.getLast?_eq_getElem?.symm
  unfold swapOut
  split
  · rename_i x hx
    rw [List.getElem?_dropLast, List.length_set, hlast, hx]
    split_ifs with h1 h2
    · rw [h2, List.getElem?_set_self hi]
    · rw [List.getElem?_set_ne (Ne.symm h2)]
    · rfl
  · rename_i hn
    rw [List.getLast?_eq_none_iff] at hn
    simp [hn] at hi

theorem Holds.swapOut {slots : Nat → Option α} {count : Nat} {l : List α} {i : Nat}
    (h : Holds slots count l) (hi : i < count) :
    Holds (Function.update (Function.update slots i (slots (count - 1))) (count - 1) none)
      (count - 1) (swapOut l i) := by
  have hlen := h.1
  refine ⟨by rw [length_swapOut, hlen], fun j => ?_⟩
  rw [getElem?_swapOut (by omega), hlen, Function.update_apply, Function.update_apply, h.2, h.2]
  split_ifs <;> first | rfl | omega | skip
  rw [List.getElem?_eq_none (by omega)]

/-- Taking an element out of its slot takes it out of the list, up to the order. -/
theorem swapOut_perm {l : List α} {i : Nat} {x : α} (h : l[i]? = some x) :
    l.Perm (x :: swapOut l i) := by
  obtain ⟨hi, hx⟩ := List.getElem?_eq_some_iff.mp h
  rcases List.eq_nil_or_concat l with rfl | ⟨front, last, rfl⟩
  · simp at hi
  · simp only [List.concat_eq_append] at *
    have hswap : swapOut (front ++ [last]) i = ((front ++ [last]).set i last).dropLast := by
      simp [swapOut]
    rw [hswap]
    rcases Nat.lt_or_ge i front.length with hlt | hge
    · rw [List.getElem_append_left hlt] at hx
      rw [List.set_append_left _ _ hlt, List.dropLast_concat, List.set_eq_take_append_cons_drop,
        if_pos hlt]
      have hfront : front = front.take i ++ x :: front.drop (i + 1) := by
        rw [← hx, List.getElem_cons_drop, List.take_append_drop]
      calc front ++ [last]
          _ = front.take i ++ x :: front.drop (i + 1) ++ [last] := by rw [← hfront]
          _ |>.Perm (last :: (front.take i ++ x :: front.drop (i + 1))) :=
            List.perm_append_singleton _ _
          _ |>.Perm (last :: x :: (front.take i ++ front.drop (i + 1))) :=
            List.perm_middle.cons last
          _ |>.Perm (x :: last :: (front.take i ++ front.drop (i + 1))) := List.Perm.swap _ _ _
          _ |>.Perm (x :: (front.take i ++ last :: front.drop (i + 1))) :=
            List.perm_middle.symm.cons x
    · have hi' : i = front.length := by
        rw [List.length_concat] at hi
        omega
      subst hi'
      rw [List.getElem?_append_right (Nat.le_refl _), Nat.sub_self] at h
      cases h
      simp [List.perm_append_singleton]

theorem swapOut_append {p t : List α} {i : Nat} (hi : p.length ≤ i) (ht : i < (p ++ t).length) :
    swapOut (p ++ t) i = p ++ swapOut t (i - p.length) := by
  have htail : i - p.length < t.length := by
    rw [List.length_append] at ht
    omega
  apply List.ext_getElem?
  intro j
  rw [getElem?_swapOut ht, List.length_append]
  rcases Nat.lt_or_ge j p.length with hlt | hge
  · rw [if_pos (by omega), if_neg (by omega), List.getElem?_append_left hlt,
      List.getElem?_append_left hlt]
  · rw [List.getElem?_append_right hge, List.getElem?_append_right hge, getElem?_swapOut htail,
      List.getElem?_append_right (by omega)]
    have hlast : p.length + t.length - 1 - p.length = t.length - 1 := by omega
    rw [hlast]
    split_ifs <;> first | rfl | omega

/-! ## Elements that stay in their order -/

/-- At most one of the elements that stay is behind an element that does not. -/
def OneStaysBehind (stay : α → Bool) (l : List α) : Prop :=
  ∃ p t, l = p ++ t ∧ (∀ x ∈ p, stay x = true) ∧ (t.filter stay).length ≤ 1

theorem OneStaysBehind.of_slots {stay : α → Bool} {l : List α}
    (h : ∀ (i j k : Nat) (x y z : α), i < j → j < k →
      l[i]? = some x → l[j]? = some y → l[k]? = some z →
      stay x = false → stay y = true → stay z = false) : OneStaysBehind stay l := by
  induction l with
  | nil => exact ⟨[], [], rfl, by simp, by simp⟩
  | cons x rest ih =>
    cases hx : stay x with
    | true =>
      obtain ⟨p, t, hl, hp, ht⟩ := ih fun i j k a b c hij hjk ha hb hc =>
        h (i + 1) (j + 1) (k + 1) a b c (by omega) (by omega) (by simpa using ha)
          (by simpa using hb) (by simpa using hc)
      refine ⟨x :: p, t, by rw [hl]; rfl, ?_, ht⟩
      intro y hy
      rcases List.mem_cons.mp hy with rfl | hy
      · exact hx
      · exact hp y hy
    | false =>
      refine ⟨[], x :: rest, rfl, by simp, ?_⟩
      rw [List.filter_cons_of_neg (by simp [hx])]
      have hpair : rest.Pairwise fun a b => stay a = true → stay b = false := by
        rw [List.pairwise_iff_getElem]
        intro j k hj hk hjk
        exact h 0 (j + 1) (k + 1) x _ _ (by omega) (by omega) rfl
          (by simp [List.getElem?_eq_getElem hj]) (by simp [List.getElem?_eq_getElem hk]) hx
      cases hf : rest.filter stay with
      | nil => simp
      | cons a more =>
        cases more with
        | nil => simp
        | cons b more =>
          have hsub := hpair.sublist (List.filter_sublist (p := stay))
          rw [hf, List.pairwise_cons] at hsub
          have ha : a ∈ rest.filter stay := by rw [hf]; simp
          have hb : b ∈ rest.filter stay := by rw [hf]; simp
          have hno := hsub.1 b (by simp) (List.mem_filter.mp ha).2
          rw [(List.mem_filter.mp hb).2] at hno
          cases hno

/-- An element that does not stay leaves, and the order of the others is the same. -/
theorem OneStaysBehind.swapOut {stay : α → Bool} {l : List α} {i : Nat} {x : α}
    (h : OneStaysBehind stay l) (hx : l[i]? = some x) (hleaves : stay x = false) :
    OneStaysBehind stay (swapOut l i) ∧ (SlotList.swapOut l i).filter stay = l.filter stay := by
  obtain ⟨p, t, rfl, hp, ht⟩ := h
  obtain ⟨hi, _⟩ := List.getElem?_eq_some_iff.mp hx
  have hge : p.length ≤ i := by
    by_contra hlt
    rw [List.getElem?_append_left (by omega)] at hx
    rw [hp x (List.mem_of_getElem? hx)] at hleaves
    cases hleaves
  have htx : t[i - p.length]? = some x := by rwa [List.getElem?_append_right hge] at hx
  have hperm : (t.filter stay).Perm ((SlotList.swapOut t (i - p.length)).filter stay) := by
    have := (swapOut_perm htx).filter stay
    rwa [List.filter_cons_of_neg (by simp [hleaves])] at this
  have hsame : (SlotList.swapOut t (i - p.length)).filter stay = t.filter stay := by
    cases hf : t.filter stay with
    | nil => rw [hf] at hperm; exact hperm.nil_eq.symm
    | cons a more =>
      rw [hf] at ht hperm
      cases more with
      | nil => exact (List.perm_singleton.mp hperm.symm)
      | cons b more => simp at ht
  rw [swapOut_append hge hi]
  refine ⟨⟨p, _, rfl, hp, by rw [hsame]; exact ht⟩, ?_⟩
  rw [List.filter_append, List.filter_append, hsame]

/-! ## Counting the entries of a table -/

/-- One element more meets the condition. -/
theorem card_filter_succ [Fintype α] [DecidableEq α] {p q : α → Prop}
    [DecidablePred p] [DecidablePred q] {a : α} (hp : ¬ p a) (hq : q a)
    (h : ∀ b, b ≠ a → (q b ↔ p b)) :
    (Finset.univ.filter q).card = (Finset.univ.filter p).card + 1 := by
  have heq : Finset.univ.filter q = insert a (Finset.univ.filter p) := by
    ext b
    by_cases hb : b = a
    · subst hb
      simp [hq]
    · simp [hb, h b hb]
  rw [heq, Finset.card_insert_of_notMem (by simp [hp])]

end SlotList
