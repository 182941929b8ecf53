-- Steps that note down what they did, so that it can be undone. A log has its last note
-- first, as a stack has, and undoing goes through it from there.
import Mathlib.Tactic.Common

namespace UndoLog

variable {σ τ ι : Type*} {did : σ → ι → σ → Prop} {s t : σ} {x : ι} {log : List ι}

/-- The steps from one state to another, with what they did. -/
inductive Logged (did : σ → ι → σ → Prop) (s : σ) : List ι → σ → Prop
  | start : Logged did s [] s
  | step {log : List ι} {t t' : σ} {x : ι} : Logged did s log t → did t x t' →
      Logged did s (x :: log) t'

/-- What holds of one step and of two together holds of all. -/
theorem Logged.related {R : σ → σ → Prop} (h : Logged did s log t) (hrefl : R s s)
    (htrans : ∀ {t x t'}, R s t → did t x t' → R s t') : R s t := by
  induction h with
  | start => exact hrefl
  | step _ hdid ih => exact htrans ih hdid

/-- When each step can be undone, the whole log can. The states that do the undoing may know
more than those of the log, which are only a view of them. -/
theorem Logged.rolled_back (view : τ → σ) (good : τ → Prop) (undo : τ → ι → τ)
    (hundo : ∀ {s t x} {p : τ}, did s x t → good p → view p = t →
      good (undo p x) ∧ view (undo p x) = s)
    (h : Logged did s log t) {p : τ} (hgood : good p) (hview : view p = t) :
    good (log.foldl undo p) ∧ view (log.foldl undo p) = s := by
  induction h generalizing p with
  | start => exact ⟨hgood, hview⟩
  | step _ hdid ih =>
    obtain ⟨hgood', hview'⟩ := hundo hdid hgood hview
    exact ih hgood' hview'

end UndoLog
