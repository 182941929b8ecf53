-- Trees of tables in memory. A table has entries, and some entries lead to a child table.
-- A walk goes from table to table by a list of indices. As long as no two paths lead to one
-- table, a store has a simple effect: a new table is linked in at one path, and a store
-- into a table that has no children moves no walk at all.
import Mathlib.Data.List.Induction
import Mathlib.Tactic.Common

namespace TableWalk

variable {A I E : Type*} {child : E → Option A} {mem mem' : A → I → E} {root a c : A}
  {S : List I → Prop} {p q : List I} {i : I}

/-- The table that a walk comes to. -/
def walk (child : E → Option A) (mem : A → I → E) : A → List I → Option A
  | a, [] => some a
  | a, i :: rest =>
    match child (mem a i) with
    | none => none
    | some b => walk child mem b rest

@[simp] theorem walk_nil (child : E → Option A) (mem : A → I → E) (a : A) :
    walk child mem a [] = some a := rfl

theorem walk_snoc (child : E → Option A) (mem : A → I → E) (a : A) (p : List I) (i : I) :
    walk child mem a (p ++ [i]) = (walk child mem a p).bind fun b => child (mem b i) := by
  induction p generalizing a with
  | nil =>
    simp only [List.nil_append, walk, Option.bind_some]
    cases child (mem a i) <;> rfl
  | cons j rest ih =>
    simp only [List.cons_append, walk]
    cases child (mem a j) with
    | none => rfl
    | some b => exact ih b

/-- A set of paths that has every part of a path that it has. -/
def PrefixClosed (S : List I → Prop) : Prop := ∀ p i, S (p ++ [i]) → S p

/-- No two paths of the set lead to one table. -/
def OneWay (child : E → Option A) (mem : A → I → E) (root : A) (S : List I → Prop) : Prop :=
  ∀ p q a, S p → S q → walk child mem root p = some a → walk child mem root q = some a → p = q

/-- A table that nothing leads to is linked in at the path `p ++ [i]`. -/
theorem walk_link (hS : PrefixClosed S) (hone : OneWay child mem root S) (hp : S p)
    (hwalk : walk child mem root p = some a) (hno : child (mem a i) = none)
    (hfresh : ∀ q, S q → walk child mem root q ≠ some c) (hnew : ∀ j, child (mem' c j) = none)
    (hlink : child (mem' a i) = some c)
    (hkeep : ∀ b j, b ≠ c → ¬ (b = a ∧ j = i) → mem' b j = mem b j) (q : List I) (hq : S q) :
    (q = p ++ [i] → walk child mem' root q = some c) ∧
    (q ≠ p ++ [i] → walk child mem' root q = walk child mem root q) := by
  induction q using List.reverseRecOn with
  | nil =>
    refine ⟨fun h => ?_, fun _ => rfl⟩
    simp at h
  | append_singleton q j ih =>
    have hq' := hS q j hq
    obtain ⟨ih1, ih2⟩ := ih hq'
    rw [walk_snoc, walk_snoc]
    by_cases hqp : q = p
    · -- one step past the table that got the link
      subst hqp
      have hne : q ≠ q ++ [i] := by
        intro h
        simpa using congrArg List.length h
      rw [ih2 hne, hwalk]
      simp only [Option.bind_some]
      constructor
      · intro h
        have hji : j = i := by simpa using h
        rw [hji]
        exact hlink
      · intro h
        have hji : j ≠ i := by
          rintro rfl
          exact h rfl
        rw [hkeep a j ?_ (fun hboth => hji hboth.2)]
        rintro rfl
        exact hfresh q hq' hwalk
    · refine ⟨fun h => absurd (List.append_inj' h rfl).1 hqp, fun _ => ?_⟩
      by_cases hqi : q = p ++ [i]
      · -- one step past the new table
        rw [ih1 hqi]
        have hold : walk child mem root q = none := by
          rw [hqi, walk_snoc, hwalk]
          exact hno
        rw [hold]
        exact hnew j
      · rw [ih2 hqi]
        cases hb : walk child mem root q with
        | none => rfl
        | some b =>
          have hbc : b ≠ c := by
            rintro rfl
            exact hfresh q hq' hb
          have hba : b ≠ a := by
            rintro rfl
            exact hqp (hone q p b hq' hp hb hwalk)
          simp only [Option.bind_some]
          rw [hkeep b j hbc fun hboth => hba hboth.1]

/-- The link keeps the paths apart. -/
theorem OneWay.link (hS : PrefixClosed S) (hone : OneWay child mem root S) (hp : S p)
    (hwalk : walk child mem root p = some a) (hno : child (mem a i) = none)
    (hfresh : ∀ q, S q → walk child mem root q ≠ some c) (hnew : ∀ j, child (mem' c j) = none)
    (hlink : child (mem' a i) = some c)
    (hkeep : ∀ b j, b ≠ c → ¬ (b = a ∧ j = i) → mem' b j = mem b j) :
    OneWay child mem' root S := by
  intro q r b hq hr hqb hrb
  obtain ⟨hq1, hq2⟩ := walk_link hS hone hp hwalk hno hfresh hnew hlink hkeep q hq
  obtain ⟨hr1, hr2⟩ := walk_link hS hone hp hwalk hno hfresh hnew hlink hkeep r hr
  by_cases hqi : q = p ++ [i]
  · by_cases hri : r = p ++ [i]
    · rw [hqi, hri]
    · rw [hq1 hqi, Option.some.injEq] at hqb
      rw [hr2 hri, ← hqb] at hrb
      exact absurd hrb (hfresh r hr)
  · by_cases hri : r = p ++ [i]
    · rw [hr1 hri, Option.some.injEq] at hrb
      rw [hq2 hqi, ← hrb] at hqb
      exact absurd hqb (hfresh q hq)
    · rw [hq2 hqi] at hqb
      rw [hr2 hri] at hrb
      exact hone q r b hq hr hqb hrb

/-- A store into a table whose path goes no further moves no walk. -/
theorem walk_store (hS : PrefixClosed S) (hone : OneWay child mem root S) (hp : S p)
    (hend : ∀ i, ¬ S (p ++ [i])) (hwalk : walk child mem root p = some a)
    (hkeep : ∀ b, b ≠ a → mem' b = mem b) (q : List I) (hq : S q) :
    walk child mem' root q = walk child mem root q := by
  induction q using List.reverseRecOn with
  | nil => rfl
  | append_singleton q j ih =>
    have hq' := hS q j hq
    rw [walk_snoc, walk_snoc, ih hq']
    cases hb : walk child mem root q with
    | none => rfl
    | some b =>
      have hba : b ≠ a := by
        rintro rfl
        have hqp := hone q p b hq' hp hb hwalk
        subst hqp
        exact hend j hq
      simp only [Option.bind_some]
      rw [hkeep b hba]

/-- Stores into tables that no walk comes to move no walk. -/
theorem walk_congr (hS : PrefixClosed S)
    (hkeep : ∀ q a, S q → walk child mem root q = some a → mem' a = mem a) (q : List I)
    (hq : S q) : walk child mem' root q = walk child mem root q := by
  induction q using List.reverseRecOn with
  | nil => rfl
  | append_singleton q j ih =>
    have hq' := hS q j hq
    rw [walk_snoc, walk_snoc, ih hq']
    cases hb : walk child mem root q with
    | none => rfl
    | some b =>
      simp only [Option.bind_some]
      rw [hkeep q b hq' hb]

theorem OneWay.of_walk (hone : OneWay child mem root S)
    (hsame : ∀ q, S q → walk child mem' root q = walk child mem root q) :
    OneWay child mem' root S := by
  intro q r b hq hr hqb hrb
  rw [hsame q hq] at hqb
  rw [hsame r hr] at hrb
  exact hone q r b hq hr hqb hrb

end TableWalk
