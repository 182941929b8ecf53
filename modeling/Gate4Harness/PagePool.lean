-- A pool of pages that conforms to what the code relies on. It hands out one page after
-- the other above the first ones, which belong to the firmware, up to a limit. The alias
-- of a page is its own address.
import Gate4Harness.PagingCreate

namespace Gate4Harness.Vm

inductive PageUse
  | free
  | table
  | data
  deriving DecidableEq, Repr

/-- What the pages are used for that were handed out so far, in order. -/
abbrev Pool : Type := List PageUse

def firmwarePages : Nat := 16

/-- The address of a page of the pool. -/
def poolPage (n : Nat) : Nat := (firmwarePages + n) * pageSize

/-- The number of a page in the pool. -/
def poolIndex (p : Nat) : Nat := p / pageSize - firmwarePages

def pool (use : PageUse) (limit : Nat) : PageAllocator Pool where
  allocatePage w :=
    if w.length < limit then (some (poolPage w.length, poolPage w.length), w ++ [use])
    else (none, w)
  freePage p _ w := if w[poolIndex p]? = some use then w.set (poolIndex p) .free else w
  physicalAlias p := p

/-- The pages that are out for a use. -/
def poolOut (use : PageUse) (w : Pool) (p : Nat) : Option Nat :=
  if p = poolPage (poolIndex p) ∧ w[poolIndex p]? = some use then some p else none

def poolHeld (a : Nat) : Prop := a < firmwarePages * pageSize

instance : DecidablePred poolHeld := fun a => inferInstanceAs (Decidable (a < _))

variable {use other : PageUse} {w w' : Pool} {p a n limit : Nat}

theorem poolIndex_poolPage (n : Nat) : poolIndex (poolPage n) = n := by
  unfold poolIndex poolPage
  rw [Nat.mul_div_cancel _ (by decide)]
  omega

theorem poolOut_eq_some (h : poolOut use w p = some a) :
    a = p ∧ p = poolPage (poolIndex p) ∧ w[poolIndex p]? = some use := by
  unfold poolOut at h
  split at h
  · rename_i hc
    cases h
    exact ⟨rfl, hc⟩
  · cases h

/-- The page that comes next is not out. -/
theorem poolOut_next (use : PageUse) (w : Pool) (q : Nat) :
    poolOut use w q ≠ some (poolPage w.length) := by
  intro h
  obtain ⟨hq, -, hget⟩ := poolOut_eq_some h
  rw [← hq, poolIndex_poolPage] at hget
  simp at hget

theorem allocatePage_eq_some
    (h : (pool use limit).allocatePage w = (some (p, a), w')) :
    w.length < limit ∧ p = poolPage w.length ∧ a = poolPage w.length ∧ w' = w ++ [use] := by
  simp only [pool] at h
  split at h
  · rename_i hlt
    simp only [Prod.mk.injEq, Option.some.injEq] at h
    exact ⟨hlt, h.1.1.symm, h.1.2.symm, h.2.symm⟩
  · simp at h

theorem poolOut_append (use new : PageUse) (w : Pool) :
    poolOut use (w ++ [new]) =
      if new = use then
        Function.update (poolOut use w) (poolPage w.length) (some (poolPage w.length))
      else poolOut use w := by
  funext q
  by_cases hq : q = poolPage w.length
  · subst hq
    have hnone : poolOut use w (poolPage w.length) = none := by
      simp [poolOut, poolIndex_poolPage]
    split
    · rename_i hnew
      rw [Function.update_self]
      simp [poolOut, poolIndex_poolPage, hnew]
    · rename_i hnew
      rw [hnone]
      simp [poolOut, poolIndex_poolPage, hnew]
  · have hsame : poolOut use (w ++ [new]) q = poolOut use w q := by
      unfold poolOut
      by_cases hpage : q = poolPage (poolIndex q)
      · have hne : poolIndex q ≠ w.length := fun hi => hq (by rw [hpage, hi])
        rw [List.getElem?_append]
        by_cases hlt : poolIndex q < w.length
        · rw [if_pos hlt]
        · have hgt : poolIndex q - w.length ≠ 0 := by omega
          have hge : w.length ≤ poolIndex q := by omega
          rw [if_neg hlt, List.getElem?_eq_none hge]
          simp [hgt]
      · simp [hpage]
    split
    · rw [Function.update_of_ne hq, hsame]
    · exact hsame

theorem poolOut_set (hpage : p = poolPage (poolIndex p)) (huse : use ≠ .free) :
    poolOut use (w.set (poolIndex p) .free) = Function.update (poolOut use w) p none := by
  funext q
  by_cases hqp : q = p
  · subst hqp
    rw [Function.update_self]
    simp [poolOut, List.getElem?_set, huse.symm]
  · rw [Function.update_of_ne hqp]
    unfold poolOut
    by_cases hq : q = poolPage (poolIndex q)
    · have hne : poolIndex p ≠ poolIndex q := fun hi => hqp (by rw [hq, ← hi, ← hpage])
      rw [List.getElem?_set_ne hne]
    · simp [hq]

/-- A page that has another use is not freed. -/
theorem poolOut_free (w : Pool) (p a : Nat) (hne : use ≠ other) (hother : other ≠ .free) :
    poolOut other ((pool use limit).freePage p a w) = poolOut other w := by
  simp only [pool]
  split
  · rename_i hget
    funext q
    unfold poolOut
    by_cases hi : poolIndex p = poolIndex q
    · rw [← hi, hget]
      simp [List.getElem?_set, hne, hother.symm]
    · rw [List.getElem?_set_ne hi]
  · rfl

theorem pool_conforming (use other : PageUse) (limit : Nat) (huse : use ≠ .free)
    (hother : other ≠ .free) (hne : use ≠ other) (hlimit : limit ≤ 2 ^ 39) :
    Conforming (pool use limit) (poolOut use) (poolOut other) poolHeld := by
  refine ⟨?_, ?_, ?_, ?_, ?_⟩
  · intro w w' p a h
    obtain ⟨hlt, rfl, rfl, -⟩ := allocatePage_eq_some h
    have hpage : poolPage w.length = (16 + w.length) * 4096 := rfl
    refine ⟨⟨?_, ?_, ?_⟩, ?_, rfl⟩ <;> simp only [hpage, pageSize] <;> omega
  · intro w w' p a h
    obtain ⟨-, rfl, rfl, -⟩ := allocatePage_eq_some h
    have hnone : ∀ use, poolOut use w (poolPage w.length) = none := by
      intro use
      simp [poolOut, poolIndex_poolPage]
    refine ⟨hnone use, hnone other, ?_, fun q => ⟨poolOut_next use w q, poolOut_next other w q⟩⟩
    unfold poolHeld poolPage
    simp only [pageSize]
    omega
  · intro w w' p a h
    obtain ⟨-, rfl, rfl, rfl⟩ := allocatePage_eq_some h
    rw [poolOut_append, poolOut_append, if_pos rfl, if_neg hne]
    exact ⟨rfl, rfl⟩
  · intro w w' h
    simp only [pool] at h
    split at h
    · simp at h
    · cases h
      exact ⟨rfl, rfl⟩
  · intro w p a h
    obtain ⟨-, hpage, hget⟩ := poolOut_eq_some h
    refine ⟨?_, poolOut_free w p a hne hother⟩
    simp only [pool]
    rw [if_pos hget, poolOut_set hpage huse]

/-! ## Tables of a firmware -/

/-- A root with one entry, the second. It leads to a table with one large page. -/
def firmwareTables (t i : Nat) : Nat :=
  if t = 0x1000 ∧ i = 1 then 0x2003
  else if t = 0x2000 ∧ i = 1 then 0x40000083
  else 0

theorem firmwareTables_held (use : PageUse) (limit : Nat) :
    FirmwareHeld (pool use limit) poolHeld firmwareTables 0x1000 := by
  have hlevels : ∀ level t, FirmwareTable (pool use limit) firmwareTables 0x1000 level t →
      level = 4 ∧ t = 0x1000 ∨ level = 3 ∧ t = 0x2000 := by
    intro level t h
    induction h with
    | root => exact Or.inl ⟨rfl, rfl⟩
    | @child level t i _ _ _ hpresent hlarge ih =>
      rcases ih with ⟨hlevel, rfl⟩ | ⟨hlevel, rfl⟩
      · by_cases hi : i = 1
        · subst hi
          exact Or.inr ⟨by omega, rfl⟩
        · simp [firmwareTables, hi, isPresent_zero] at hpresent
      · by_cases hi : i = 1
        · subst hi
          rcases hlarge with hlevel' | hlarge
          · omega
          · exact absurd hlarge (by decide)
        · simp [firmwareTables, hi, isPresent_zero] at hpresent
  intro level t h
  rcases hlevels level t h with ⟨-, rfl⟩ | ⟨-, rfl⟩ <;> decide

/-- The machine of the firmware, before a paging object is made. -/
def firmwareMachine : Machine Pool where
  memory := firmwareTables
  world := []

end Gate4Harness.Vm
