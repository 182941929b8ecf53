-- Runs of a machine given by a step function, where each step meets a condition
-- on the state before it and its input. The rules below carry a property from
-- one step to every run.
import Mathlib.Logic.Relation
import Mathlib.Tactic.Common

namespace Runs

variable {σ ι : Type*}

/-- The states that a run reaches from a start state. -/
inductive Reach (start : σ → Prop) (step : σ → ι → σ) (ok : σ → ι → Prop) : σ → Prop
  | start {s : σ} : start s → Reach start step ok s
  | step {s : σ} {i : ι} : Reach start step ok s → ok s i → Reach start step ok (step s i)

/-- The part of a run from one state to another. -/
inductive Steps (step : σ → ι → σ) (ok : σ → ι → Prop) (s : σ) : σ → Prop
  | refl : Steps step ok s s
  | step {t : σ} {i : ι} : Steps step ok s t → ok t i → Steps step ok s (step t i)

variable {start : σ → Prop} {step : σ → ι → σ} {ok ok' : σ → ι → Prop} {s t : σ}

/-- A property of the start states that each step keeps holds in every state reached. -/
theorem Reach.invariant {P : σ → Prop} (h : Reach start step ok s)
    (hstart : ∀ s, start s → P s)
    (hstep : ∀ s i, Reach start step ok s → P s → ok s i → P (step s i)) : P s := by
  induction h with
  | start h => exact hstart _ h
  | step h hok ih => exact hstep _ _ h ih hok

theorem Reach.mono (h : Reach start step ok s) (hok : ∀ s i, ok s i → ok' s i) :
    Reach start step ok' s := by
  induction h with
  | start h => exact .start h
  | step _ hi ih => exact .step ih (hok _ _ hi)

/-- What holds before a part of a run, and is kept by each of its steps, holds after it. -/
theorem Steps.invariant {P : σ → Prop} (h : Steps step ok s t) (hs : P s)
    (hstep : ∀ s i, P s → ok s i → P (step s i)) : P t := by
  induction h with
  | refl => exact hs
  | step _ hok ih => exact hstep _ _ ih hok

/-- The state after a list of inputs. -/
def run (step : σ → ι → σ) : σ → List ι → σ
  | s, [] => s
  | s, i :: rest => run step (step s i) rest

theorem run_append (s : σ) (inputs rest : List ι) :
    run step s (inputs ++ rest) = run step (run step s inputs) rest := by
  induction inputs generalizing s with
  | nil => rfl
  | cons i inputs ih => exact ih _

/-- What every step keeps holds after every run. -/
theorem run_invariant {P : σ → Prop} (hs : P s) (hstep : ∀ s i, P s → P (step s i))
    (inputs : List ι) : P (run step s inputs) := by
  induction inputs generalizing s with
  | nil => exact hs
  | cons i rest ih => exact ih (hstep _ _ hs)

/-- Each input meets the condition in the state in which it comes. -/
def Along (step : σ → ι → σ) (ok : σ → ι → Prop) : σ → List ι → Prop
  | _, [] => True
  | s, i :: rest => ok s i ∧ Along step ok (step s i) rest

instance Along.decidable (step : σ → ι → σ) (ok : σ → ι → Prop) [∀ s i, Decidable (ok s i)] :
    ∀ (s : σ) (inputs : List ι), Decidable (Along step ok s inputs)
  | _, [] => inferInstanceAs (Decidable True)
  | s, i :: rest =>
    have := Along.decidable step ok (step s i) rest
    inferInstanceAs (Decidable (_ ∧ _))

theorem Reach.run_along {s : σ} (h : Reach start step ok s) (inputs : List ι)
    (hok : Along step ok s inputs) : Reach start step ok (run step s inputs) := by
  induction inputs generalizing s with
  | nil => exact h
  | cons i rest ih => exact ih (.step h hok.1) hok.2

theorem Along.of_all {s : σ} {inputs : List ι} (hok : ∀ s, ∀ i ∈ inputs, ok s i) :
    Along step ok s inputs := by
  induction inputs generalizing s with
  | nil => trivial
  | cons i rest ih => exact ⟨hok s i (by simp), ih fun s j hj => hok s j (by simp [hj])⟩

theorem Reach.run {s : σ} (h : Reach start step ok s) (inputs : List ι)
    (hok : ∀ s, ∀ i ∈ inputs, ok s i) : Reach start step ok (run step s inputs) :=
  h.run_along inputs (Along.of_all hok)

/-! ## Runs with an observer -/

section Observer

variable {η : Type*}

/-- A step together with what an observer notes down at it. The note can look at the state
before the step and at the input. -/
def noting (step : σ → ι → σ) (note : σ → ι → η → η) (p : σ × η) (i : ι) : σ × η :=
  (step p.1 i, note p.1 i p.2)

/-- The states that a run reaches, each with the notes taken on the way. -/
def ReachNoting (start : σ → Prop) (step : σ → ι → σ) (ok : σ → ι → Prop) (first : σ → η)
    (note : σ → ι → η → η) (s : σ) (n : η) : Prop :=
  Reach (fun p => start p.1 ∧ p.2 = first p.1) (noting step note) (fun p i => ok p.1 i) (s, n)

variable {first : σ → η} {note : σ → ι → η → η} {n : η}

/-- An observer does not disturb a run. -/
theorem ReachNoting.reach (h : ReachNoting start step ok first note s n) :
    Reach start step ok s := by
  have hall : ∀ p, Reach (fun p => start p.1 ∧ p.2 = first p.1) (noting step note)
      (fun p i => ok p.1 i) p → Reach start step ok p.1 := by
    intro p hp
    induction hp with
    | start hs => exact .start hs.1
    | step _ hok ih => exact .step ih hok
  exact hall _ h

theorem ReachNoting.next {i : ι} (h : ReachNoting start step ok first note s n) (hok : ok s i) :
    ReachNoting start step ok first note (step s i) (note s i n) :=
  Reach.step h hok

/-- Each run can be observed. -/
theorem Reach.noting (h : Reach start step ok s) (first : σ → η) (note : σ → ι → η → η) :
    ∃ n, ReachNoting start step ok first note s n := by
  induction h with
  | @start s hs => exact ⟨first s, .start ⟨hs, rfl⟩⟩
  | step _ hok ih =>
    obtain ⟨n, hn⟩ := ih
    exact ⟨_, .step hn hok⟩

/-- A property of the state and the notes that each step keeps holds in every run. -/
theorem ReachNoting.invariant {P : σ → η → Prop} (h : ReachNoting start step ok first note s n)
    (hstart : ∀ s, start s → P s (first s))
    (hstep : ∀ s n i, Reach start step ok s → P s n → ok s i → P (step s i) (note s i n)) :
    P s n := by
  apply Reach.invariant (P := fun p : σ × η => P p.1 p.2) h
  · rintro ⟨s, n⟩ ⟨hs, hn⟩
    change n = first s at hn
    rw [hn]
    exact hstart s hs
  · rintro ⟨s, n⟩ i hreach hp hok
    exact hstep s n i (ReachNoting.reach hreach) hp hok

theorem run_noting_fst (p : σ × η) (inputs : List ι) :
    (run (noting step note) p inputs).1 = run step p.1 inputs := by
  induction inputs generalizing p with
  | nil => rfl
  | cons i rest ih => exact ih _

theorem Along.noting {inputs : List ι} (hok : Along step ok s inputs) (n : η) :
    Along (noting step note) (fun p i => ok p.1 i) (s, n) inputs := by
  induction inputs generalizing s n with
  | nil => trivial
  | cons i rest ih => exact ⟨hok.1, ih hok.2 _⟩

theorem ReachNoting.run_along (h : ReachNoting start step ok first note s n) (inputs : List ι)
    (hok : Along step ok s inputs) :
    ReachNoting start step ok first note (run step s inputs)
      (run (noting step note) (s, n) inputs).2 := by
  have hrun := Reach.run_along h inputs (hok.noting n)
  have heq : Runs.run (noting step note) (s, n) inputs =
      (Runs.run step s inputs, (Runs.run (noting step note) (s, n) inputs).2) := by
    exact Prod.ext (run_noting_fst (s, n) inputs) rfl
  rw [heq] at hrun
  exact hrun

theorem ReachNoting.run (h : ReachNoting start step ok first note s n) (inputs : List ι)
    (hok : ∀ s, ∀ i ∈ inputs, ok s i) :
    ReachNoting start step ok first note (run step s inputs)
      (run (noting step note) (s, n) inputs).2 :=
  h.run_along inputs (Along.of_all hok)

end Observer

end Runs
