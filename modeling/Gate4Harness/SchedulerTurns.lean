-- How long a thread that is ready can be passed over. The scan for the next thread
-- starts behind the current one, so each thread that is selected in place of a ready
-- one is closer to it on the ring of slots than the thread before.
import Gate4Harness.SchedulerLaws

namespace Gate4Harness.Scheduler

open RoundRobin

variable {s : State} {t : ThreadSlot} {op : Op} {ops : List Op}

/-- A live thread that is runnable. -/
def Ready (s : State) (t : ThreadSlot) : Prop :=
  (s.threads t).live = true ∧ (s.threads t).state = .runnable

instance (s : State) (t : ThreadSlot) : Decidable (Ready s t) :=
  inferInstanceAs (Decidable (_ ∧ _))

/-- After the step `t` is ready. -/
def LeavesReady (t : ThreadSlot) (s : State) (op : Op) : Prop := Ready (step s op) t

instance (t : ThreadSlot) (s : State) (op : Op) : Decidable (LeavesReady t s op) :=
  inferInstanceAs (Decidable (Ready _ _))

/-- The threads that the steps of a run select, oldest first. -/
def selections : State → List Op → List ThreadSlot
  | _, [] => []
  | s, op :: rest => (selected s op).toList ++ selections (step s op) rest

/-! ## One step -/

theorem Inv.eligible_of_ready (h : Inv s) (hr : Ready s t) : eligible s t = true := by
  obtain ⟨l, hl⟩ := h.queue
  rw [hl.eligible_iff]
  exact (hl.mem_iff t (by simp)).mpr hr

/-- While a thread is ready, another one has the processor. -/
theorem Inv.current_of_ready (h : Inv s) (hr : Ready s t) : ∃ c, s.current = some c ∧ c ≠ t := by
  obtain ⟨c, hc, _, hstate⟩ := h.current.current (h.current.installed_of_live hr.1)
  refine ⟨c, hc, ?_⟩
  rintro rfl
  rw [hr.2] at hstate
  simp at hstate

/-- A step after which `t` is ready puts the thread that it selects in front of a list of
threads that come closer to `t`. -/
theorem step_closing (h : Inv s) (hstay : Ready (step s op) t) {rest : List ThreadSlot}
    (hrest : ∀ c, (step s op).current = some c → Closing t (turns c t) rest) :
    Closing t (maxThreads - 1) ((selected s op).toList ++ rest) ∧
    (Ready s t → ∀ c, s.current = some c →
      Closing t (turns c t) ((selected s op).toList ++ rest)) := by
  obtain ⟨d, hd, hdt⟩ := (step_inv h op).current_of_ready hstay
  have hclosing := hrest d hd
  have hfar := turns_lt_of_ne hdt
  -- no thread is selected, and the same thread is current
  have hquiet : selected s op = none → (step s op).current = s.current →
      Closing t (maxThreads - 1) ((selected s op).toList ++ rest) ∧
      (Ready s t → ∀ c, s.current = some c →
        Closing t (turns c t) ((selected s op).toList ++ rest)) := by
    intro hnone hsame
    rw [hnone]
    refine ⟨hclosing.mono (Nat.le_of_lt hfar), ?_⟩
    intro _ c hc
    exact hrest c (hsame.trans hc)
  cases step_turn h op with
  | runsOn hrun hnone => exact hquiet hnone hrun.current
  | picked next hpicked hsome =>
    obtain rfl : d = next := Option.some.inj (hd.symm.trans hpicked.current)
    rw [hsome]
    refine ⟨.cons hfar hclosing, ?_⟩
    intro hr c hc
    obtain ⟨c', hc', hct⟩ := h.current_of_ready hr
    obtain rfl : c' = c := Option.some.inj (hc'.symm.trans hc)
    -- the scan stopped before it came to `t`
    have hle := hpicked.closest c' hc t hct.symm (h.eligible_of_ready hr)
    have hne : turns c' d ≠ turns c' t := fun heq => hdt (turns_inj heq)
    exact .cons (turns_closer (by omega)) hclosing
  | stopped _ hnone hleft =>
    rcases hleft with hsame | hgone
    · exact hquiet hnone hsame
    · rw [(step_inv h op).current.installed_of_live hstay.1] at hgone
      cases hgone

/-! ## Runs -/

/-- While `t` stays ready, the threads that are selected come closer and closer to it. -/
theorem selections_closing (h : Inv s) (hstay : Runs.Along step (LeavesReady t) s ops) :
    Closing t (maxThreads - 1) (selections s ops) ∧
    (Ready s t → ∀ c, s.current = some c → Closing t (turns c t) (selections s ops)) := by
  induction ops generalizing s with
  | nil => exact ⟨.nil, fun _ _ _ => .nil⟩
  | cons op rest ih =>
    obtain ⟨hready, hlater⟩ := hstay
    exact step_closing h hready ((ih (step_inv h op) hlater).2 hready)

/-- While a thread stays ready, other threads are selected fewer times than there are
slots, and none of them twice. -/
theorem a_ready_thread_is_not_passed_over_for_long (h : Reachable s)
    (hstay : Runs.Along step (LeavesReady t) s ops) :
    (selections s ops).length < maxThreads ∧ (selections s ops).Nodup ∧ t ∉ selections s ops := by
  obtain ⟨hclosing, _⟩ := selections_closing (reachableBy_inv h) hstay
  exact ⟨Nat.lt_of_le_of_lt hclosing.length_le (by decide), hclosing.nodup, hclosing.not_mem⟩

/-- The boot thread yields, and both workers are selected before its turn comes again. -/
theorem the_boot_thread_is_passed_over_twice :
    selections readyState [.prepareYield true, .prepareYield true] = [1, 2] ∧
    (selections readyState [.prepareYield true, .prepareYield true]).length < maxThreads ∧
    (selections readyState [.prepareYield true, .prepareYield true]).Nodup ∧
    0 ∉ selections readyState [.prepareYield true, .prepareYield true] :=
  ⟨by decide +kernel,
    a_ready_thread_is_not_passed_over_for_long readyState_reached (by decide +kernel)⟩

end Gate4Harness.Scheduler
