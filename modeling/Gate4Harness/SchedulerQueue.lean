-- The specs of the queue functions. In a state that keeps the invariant,
-- `enqueue_runnable` finds room, `remove_runnable` finds its thread, the scan of
-- `pick_next_runnable` ends at the current thread, and `choose_next` moves one
-- thread from the queue to the processor.
import Gate4Harness.RoundRobin
import Gate4Harness.SchedulerInvariant

namespace Gate4Harness.Scheduler

open SlotList RoundRobin

variable {s : State} {t next : ThreadSlot} {l : List ThreadSlot}

/-! ## A thread on its way -/

theorem QueueUpTo.setAside (h : QueueUpTo s none l) (ht : t ∉ l) : QueueUpTo s (some t) l := by
  refine ⟨h.holds, h.nodup, fun u _ => h.mem_iff u (by simp), ?_, h.flag, h.never_full⟩
  intro u hu
  cases hu
  exact ht

theorem QueueUpTo.settle (h : QueueUpTo s (some t) l)
    (ht : ¬ ((s.threads t).live = true ∧ (s.threads t).state = .runnable)) :
    QueueUpTo s none l := by
  refine ⟨h.holds, h.nodup, fun u _ => ?_, fun u hu => by simp at hu, h.flag, h.never_full⟩
  by_cases hu : u = t
  · subst hu
    exact ⟨fun hm => absurd hm (h.not_mem u rfl), fun hm => absurd hm ht⟩
  · exact h.mem_iff u (by simpa using hu)

/-- The thread on its way may change anything but its queue flag. -/
theorem QueueUpTo.modThread (h : QueueUpTo s (some t) l) {f : Tcb → Tcb}
    (hf : (f (s.threads t)).runnableQueued = (s.threads t).runnableQueued) :
    QueueUpTo (s.modThread t f) (some t) l := by
  refine ⟨h.holds, h.nodup, ?_, h.not_mem, ?_, h.never_full⟩
  · intro u hu
    have hne : u ≠ t := by simpa using hu
    simp only [State.modThread_threads, Function.update_of_ne hne]
    exact h.mem_iff u hu
  · intro u
    rw [view_modThread Tcb.runnableQueued s t hf]
    exact h.flag u

/-! ## Into the queue -/

/-- The queue has room for a thread that is not in it. -/
theorem QueueUpTo.room (h : QueueUpTo s (some t) l) : s.runnableCount < maxThreads := by
  have hnd : (t :: l).Nodup := List.nodup_cons.mpr ⟨h.not_mem t rfl, h.nodup⟩
  have hlen := hnd.length_le_card
  rw [List.length_cons, h.holds.1, Fintype.card_fin] at hlen
  omega

theorem enqueueRunnable_spec (h : QueueUpTo s (some t) l) (hi : s.installed = true)
    (hl : (s.threads t).live = true) (hs : (s.threads t).state = .runnable) :
    enqueueRunnable s t =
      (true,
        { s with
          runnableQueue := Function.update s.runnableQueue s.runnableCount (some t)
          runnableCount := s.runnableCount + 1 }.modThread t
          fun thread => { thread with runnableQueued := true }) := by
  have hq : (s.threads t).runnableQueued = false := by
    rw [Bool.eq_false_iff]
    intro hq
    exact h.not_mem t rfl ((h.flag t).mp hq)
  have hroom := h.room
  unfold enqueueRunnable
  rw [if_neg (by simp [hi, hl, hs]), if_neg (by simp [hq]), if_neg (by omega)]

theorem QueueUpTo.enqueue (h : QueueUpTo s (some t) l) (hi : s.installed = true)
    (hl : (s.threads t).live = true) (hs : (s.threads t).state = .runnable) :
    QueueUpTo (enqueueRunnable s t).2 none (l ++ [t]) := by
  rw [enqueueRunnable_spec h hi hl hs]
  refine ⟨h.holds.push t, ?_, ?_, fun u hu => by simp at hu, ?_, h.never_full⟩
  · rw [List.nodup_append]
    refine ⟨h.nodup, by simp, ?_⟩
    intro a ha b hb hab
    simp only [List.mem_singleton] at hb
    exact h.not_mem t rfl (by rw [← hb, ← hab]; exact ha)
  · intro u _
    by_cases hu : u = t
    · subst hu
      simp [hl, hs]
    · simp [hu, h.mem_iff u (by simpa using hu)]
  · intro u
    by_cases hu : u = t
    · subst hu
      simp
    · simp [hu, h.flag u]

/-! ## Out of the queue -/

theorem removeRunnable_spec (h : QueueUpTo s none l) (hi : s.installed = true) (ht : t ∈ l) :
    ∃ q, Holds q (s.runnableCount - 1) (l.erase t) ∧
      removeRunnable s t =
        (true,
          { s with runnableQueue := q, runnableCount := s.runnableCount - 1 }.modThread t
            fun thread => { thread with runnableQueued := false }) := by
  obtain ⟨i, hi', hslot⟩ := (h.holds.mem_iff).mp ht
  have hsome := findFrom_isSome hslot (Nat.zero_le i) (by omega : i < 0 + s.runnableCount)
  obtain ⟨j, hj⟩ := Option.isSome_iff_exists.mp hsome
  obtain ⟨hjs, _, hjlt⟩ := findFrom_eq_some hj
  have herase : l.erase t = l.eraseIdx j := by
    rw [h.holds.2, List.getElem?_eq_some_iff] at hjs
    obtain ⟨hlt, hget⟩ := hjs
    rw [← hget]
    exact h.nodup.erase_getElem j hlt
  refine ⟨_, herase ▸ h.holds.shiftOut (by omega : j < s.runnableCount), ?_⟩
  unfold removeRunnable
  rw [if_neg (by simp [hi, (h.flag t).mpr ht]), hj]

theorem chooseNext_spec (h : QueueUpTo s none l) (hi : s.installed = true) (hn : next ∈ l) :
    ∃ q, Holds q (s.runnableCount - 1) (l.erase next) ∧
      chooseNext s next =
        ({ oldContext := s.current, newContext := (s.threads next).savedContext },
          { s with
            runnableQueue := q
            runnableCount := s.runnableCount - 1
            current := some next }.modThread next
            fun thread => { thread with runnableQueued := false, state := .running }) := by
  obtain ⟨q, hq, heq⟩ := removeRunnable_spec h hi hn
  refine ⟨q, hq, ?_⟩
  unfold chooseNext
  rw [heq]
  simp [State.modThread]

/-- A thread taken out of the queue, with any state but runnable. -/
theorem QueueUpTo.takenOut (h : QueueUpTo s none l) {q : Nat → Option ThreadSlot}
    {c : Option ThreadSlot} (ht : t ∈ l) (hq : Holds q (s.runnableCount - 1) (l.erase t))
    {f : Tcb → Tcb} (hf : (f (s.threads t)).runnableQueued = false)
    (hs : (f (s.threads t)).state ≠ .runnable) :
    QueueUpTo ({ s with
      runnableQueue := q, runnableCount := s.runnableCount - 1, current := c }.modThread t f)
      none (l.erase t) := by
  refine ⟨hq, h.nodup.erase t, ?_, fun u hu => by simp at hu, ?_, h.never_full⟩
  · intro u _
    by_cases hu : u = t
    · subst hu
      simp [hs, h.nodup.mem_erase_iff]
    · simp [hu, h.nodup.mem_erase_iff, h.mem_iff u (by simp)]
  · intro u
    by_cases hu : u = t
    · subst hu
      simp [hf, h.nodup.mem_erase_iff]
    · simp [hu, h.nodup.mem_erase_iff, h.flag u]

/-! ## The scan -/

theorem scanOrder_eq_scan (c : ThreadSlot) : scanOrder c = scan c := rfl

theorem mem_scanOrder (c u : ThreadSlot) : u ∈ scanOrder c := mem_scan c u

/-- The scan looks at every other slot first and at the slot of `c` itself last. -/
theorem scanOrder_eq (c : ThreadSlot) :
    ∃ others, scanOrder c = others ++ [c] ∧ ∀ u, u ∈ others ↔ u ≠ c := by
  refine ⟨(scanOrder c).dropLast, ?_, ?_⟩
  · revert c
    decide
  · revert c
    decide

theorem QueueUpTo.eligible_iff (h : QueueUpTo s none l) (u : ThreadSlot) :
    eligible s u = true ↔ u ∈ l := by
  unfold eligible
  simp only [Bool.and_eq_true, decide_eq_true_eq]
  constructor
  · rintro ⟨_, hq⟩
    exact (h.flag u).mp hq
  · intro hu
    exact ⟨(h.mem_iff u (by simp)).mp hu, (h.flag u).mpr hu⟩

theorem pickNextRunnable_mem (h : QueueUpTo s none l) {c : ThreadSlot}
    (hp : pickNextRunnable s c = some next) : next ∈ l := by
  unfold pickNextRunnable at hp
  exact (h.eligible_iff next).mp (List.find?_some hp)

theorem pickNextRunnable_none (h : QueueUpTo s none l) {c : ThreadSlot} :
    pickNextRunnable s c = none ↔ l = [] := by
  unfold pickNextRunnable
  rw [List.find?_eq_none, List.eq_nil_iff_forall_not_mem]
  constructor
  · intro hall u hu
    exact hall u (mem_scanOrder c u) ((h.eligible_iff u).mpr hu)
  · intro hall u _ hu
    exact hall u ((h.eligible_iff u).mp hu)

theorem eligible_congr {s' : State} (h : s'.threads t = s.threads t) :
    eligible s' t = eligible s t := by
  simp only [eligible, h]

/-- A scan that starts behind `c` comes to no ready thread but `c` before it comes to `next`. -/
def Closest (s : State) (c next : ThreadSlot) : Prop :=
  ∀ u, u ≠ c → eligible s u = true → turns c next ≤ turns c u

theorem pickNextRunnable_closest {s' : State} {c : ThreadSlot}
    (hp : pickNextRunnable s' c = some next) (hsame : ∀ u, u ≠ c → s'.threads u = s.threads u) :
    Closest s c next := by
  intro u hu he
  rw [← eligible_congr (hsame u hu)] at he
  exact find_scan_le hp he

/-- The scan gives another thread when another thread is in the queue. -/
theorem pickNextRunnable_ne (h : QueueUpTo s none l) {c u : ThreadSlot} (hu : u ∈ l) (hc : u ≠ c) :
    ∃ next, pickNextRunnable s c = some next ∧ next ≠ c ∧ next ∈ l := by
  obtain ⟨others, heq, hmem⟩ := scanOrder_eq c
  have hsome : (others.find? (eligible s)).isSome := by
    rw [List.find?_isSome]
    exact ⟨u, (hmem u).mpr hc, (h.eligible_iff u).mpr hu⟩
  obtain ⟨n, hn⟩ := Option.isSome_iff_exists.mp hsome
  refine ⟨n, ?_, (hmem n).mp (List.mem_of_find?_eq_some hn),
    (h.eligible_iff n).mp (List.find?_some hn)⟩
  unfold pickNextRunnable
  rw [heq, List.find?_append, hn]
  rfl

end Gate4Harness.Scheduler
