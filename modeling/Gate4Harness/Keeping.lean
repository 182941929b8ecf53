-- Programs that change a state and may fail. A failure does not undo what was done
-- before it. A program keeps a property of the state when the state has it after every
-- run from a state that has it, whether the run fails or not.
import Mathlib.Tactic.Common

universe u

/-- A program with state `σ` that fails with an `ε`. -/
abbrev Program (σ ε α : Type u) := ExceptT ε (StateM σ) α

namespace Program

variable {σ ε ε' α β : Type u} {P : σ → Prop}

/-- The answer of a program and the state after it. -/
def runFrom (x : Program σ ε α) (s : σ) : Except ε α × σ := x.run.run s

/-- The answer of a program as a value, where a failure does not end the run. -/
def attempt (x : Program σ ε α) : Program σ ε' (Except ε α) := ExceptT.lift x.run

/-! ## Runs -/

@[simp] theorem runFrom_pure (a : α) (s : σ) :
    (pure a : Program σ ε α).runFrom s = (.ok a, s) := rfl

@[simp] theorem runFrom_throw (e : ε) (s : σ) :
    (throw e : Program σ ε α).runFrom s = (.error e, s) := rfl

theorem runFrom_bind (x : Program σ ε α) (f : α → Program σ ε β) (s : σ) :
    (x >>= f).runFrom s =
      match x.runFrom s with
      | (.ok a, s1) => (f a).runFrom s1
      | (.error e, s1) => (.error e, s1) := by
  change ExceptT.bindCont f (x s).1 (x s).2 = match x s with
    | (.ok a, s1) => f a s1
    | (.error e, s1) => (.error e, s1)
  rcases x s with ⟨e | a, s1⟩ <;> rfl

theorem runFrom_bind_ok {x : Program σ ε α} {f : α → Program σ ε β} {s s1 : σ} {a : α}
    (h : x.runFrom s = (.ok a, s1)) : (x >>= f).runFrom s = (f a).runFrom s1 := by
  rw [runFrom_bind, h]

@[simp] theorem runFrom_get (s : σ) : (get : Program σ ε σ).runFrom s = (.ok s, s) := rfl

@[simp] theorem runFrom_modify (f : σ → σ) (s : σ) :
    (modify f : Program σ ε PUnit).runFrom s = (.ok ⟨⟩, f s) := rfl

@[simp] theorem runFrom_attempt (x : Program σ ε α) (s : σ) :
    (x.attempt : Program σ ε' (Except ε α)).runFrom s = (.ok (x.runFrom s).1, (x.runFrom s).2) :=
  rfl

/-! ## What a program keeps -/

structure Keeps (P : σ → Prop) (x : Program σ ε α) : Prop where
  after : ∀ s, P s → P (x.runFrom s).2

theorem keeps_pure (a : α) : Keeps P (pure a : Program σ ε α) := ⟨fun _ h => h⟩

theorem keeps_throw (e : ε) : Keeps P (throw e : Program σ ε α) := ⟨fun _ h => h⟩

theorem keeps_get : Keeps P (get : Program σ ε σ) := ⟨fun _ h => h⟩

theorem keeps_modify {f : σ → σ} (h : ∀ s, P s → P (f s)) :
    Keeps P (modify f : Program σ ε PUnit) := ⟨h⟩

theorem Keeps.bind {x : Program σ ε α} {f : α → Program σ ε β} (hx : Keeps P x)
    (hf : ∀ a, Keeps P (f a)) : Keeps P (x >>= f) := by
  constructor
  intro s hs
  have hs1 := hx.after s hs
  rw [runFrom_bind]
  generalize x.runFrom s = r at hs1
  rcases r with ⟨e | a, s1⟩
  · exact hs1
  · exact (hf a).after s1 hs1

theorem Keeps.attempt {x : Program σ ε α} (hx : Keeps P x) :
    Keeps P (x.attempt : Program σ ε' (Except ε α)) := ⟨hx.after⟩

theorem keeps_ite {x y : Program σ ε α} {c : Prop} [Decidable c] (hx : Keeps P x)
    (hy : Keeps P y) : Keeps P (if c then x else y) := by
  split
  · exact hx
  · exact hy

end Program
