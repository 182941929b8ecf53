-- The processor changes hands: resume, yield and terminate. One thread leaves
-- `current` in a state other than running, and the thread that the scan found
-- takes its place.
import Gate4Harness.SchedulerEnding

namespace Gate4Harness.Scheduler

variable {s s' : State} {c next t : ThreadSlot} {l : List ThreadSlot}

/-! ## The switch -/

theorem CurrentInv.switch (h : CurrentInv s) (hi : s.installed = true) (hc : s.current = some c)
    (ha : s'.active = s.active) (hi' : s'.installed = s.installed)
    (hb : s'.bootThread = s.bootThread) (hcur : s'.current = some next)
    (hview : ∀ t, (s'.threads t).bootView = (s.threads t).bootView)
    (hlive : (s.threads next).live = true) (hnext : (s'.threads next).state = .running)
    (hleft : next ≠ c → (s'.threads c).state ≠ .running)
    (hother : ∀ t, t ≠ c → t ≠ next → (s'.threads t).state = (s.threads t).state) :
    CurrentInv s' := by
  have hl : ∀ t, (s'.threads t).live = (s.threads t).live := fun t => (Tcb.bootView_eq (hview t)).1
  refine ⟨?_, ?_, ?_, ?_, ?_, ?_⟩
  · rw [ha, hi']
    exact h.active
  · rw [hi', hb, hl, (Tcb.bootView_eq (hview 0)).2.1]
    exact h.boot
  · intro t hbt
    obtain ⟨_, hsame, hstack⟩ := Tcb.bootView_eq (hview t)
    rw [hsame] at hbt
    obtain ⟨h1, h2⟩ := h.boot_slot t hbt
    exact ⟨h1, hstack hbt h2⟩
  · intro _
    exact ⟨next, hcur, by rw [hl]; exact hlive, Or.inl hnext⟩
  · intro t htl hts
    rw [hcur]
    by_cases htn : t = next
    · rw [htn]
    · by_cases htc : t = c
      · subst htc
        exact absurd hts (hleft (Ne.symm htn))
      · have := h.running t (by rw [← hl]; exact htl) (by rw [← hother t htc htn]; exact hts)
        rw [hc] at this
        cases this
        exact absurd rfl htc
  · rw [hi', hi]
    intro hf
    cases hf

/-- The current thread that runs is not in the queue. -/
theorem QueueUpTo.running_not_mem (h : QueueUpTo s none l) (hs : (s.threads c).state = .running) :
    c ∉ l := by
  rw [h.mem_iff c (by simp), hs]
  simp

theorem eligible_facts (h : eligible s t = true) :
    (s.threads t).live = true ∧ (s.threads t).state = .runnable ∧
    (s.threads t).runnableQueued = true := by
  unfold eligible at h
  simp only [Bool.and_eq_true, decide_eq_true_eq] at h
  exact ⟨h.1.1, h.1.2, h.2⟩

theorem CurrentInv.current_live (h : CurrentInv s) (hi : s.installed = true)
    (hc : s.current = some c) : (s.threads c).live = true := by
  obtain ⟨d, hd, hl, _⟩ := h.current hi
  rw [hc] at hd
  cases hd
  exact hl

/-- The current thread `c` leaves the processor as `f` says, and the queued thread
`next` takes it. Nothing else that the invariant reads changes but the queue. -/
theorem Inv.handOver (h : Inv s) (hi : s.installed = true) (hc : s.current = some c)
    (hn : next ≠ c) (he : eligible s next = true) (hq : QueueInv s') {f : Tcb → Tcb}
    (hthreads : ∀ t, s'.threads t =
      if t = next then { s.threads t with runnableQueued := false, state := .running }
      else if t = c then f (s.threads t) else s.threads t)
    (hleave : (f (s.threads c)).bootView = (s.threads c).bootView ∧
      (f (s.threads c)).waitView = (s.threads c).waitView ∧
      (f (s.threads c)).handleView = (s.threads c).handleView ∧
      (f (s.threads c)).state ≠ .running)
    (hrest : s' = { s with
      threads := s'.threads, runnableQueue := s'.runnableQueue, runnableCount := s'.runnableCount,
      current := some next, pendingPlan := s'.pendingPlan }) : Inv s' := by
  obtain ⟨hnl, hns, _⟩ := eligible_facts he
  have hcl := h.current.current_live hi hc
  obtain ⟨hboot, hwait, hhandle, hstate⟩ := hleave
  have hview : ∀ {β : Type} (g : Tcb → β), g (f (s.threads c)) = g (s.threads c) →
      g { s.threads next with runnableQueued := false, state := .running } = g (s.threads next) →
      ∀ t, g (s'.threads t) = g (s.threads t) := by
    intro β g h1 h2 t
    rw [hthreads]
    split
    · rename_i htn
      subst htn
      exact h2
    · split
      · rename_i htc
        subst htc
        exact h1
      · rfl
  have hlive := hview Tcb.live (Tcb.bootView_eq hboot).1 rfl
  have hevents : s'.events = s.events := (congrArg State.events hrest :)
  have hrecords : s'.waitRecords = s.waitRecords := (congrArg State.waitRecords hrest :)
  have hobjects : s'.objects = s.objects := (congrArg State.objects hrest :)
  refine ⟨⟨hq, ?_, ?_, ?_, ?_⟩, ?_⟩
  · refine h.current.switch hi hc (congrArg State.active hrest :)
      (congrArg State.installed hrest :) (congrArg State.bootThread hrest :)
      (congrArg State.current hrest :) (hview Tcb.bootView hboot rfl) hnl ?_ ?_ ?_
    · simp [hthreads]
    · intro _
      rw [hthreads, if_neg (Ne.symm hn), if_pos rfl]
      exact hstate
    · intro t htc htn
      simp [hthreads, htc, htn]
  · refine h.waits.congr hrecords (fun _ => by rw [hevents]; exact ⟨rfl, rfl⟩)
      (congrArg State.activeWaitCount hrest :) fun t => Or.inl ?_
    apply hview Tcb.waitView hwait
    simp [Tcb.waitView, hns]
  · refine h.objects.congr (fun _ => by rw [hobjects]) (congrArg State.notification hrest :)
      (congrArg State.standardStream hrest :) (hview Tcb.handleView hhandle rfl)
      (fun _ => by rw [hevents]) fun _ => by rw [hrecords]
  · intro t ht
    rw [hlive] at ht
    have htn : t ≠ next := by
      rintro rfl
      rw [hnl] at ht
      cases ht
    have htc : t ≠ c := by
      rintro rfl
      rw [hcl] at ht
      cases ht
    rw [hthreads, if_neg htn, if_neg htc]
    exact h.blank t ht
  · intro e
    rw [hevents]
    exact h.quiet e

/-! ## Resume -/

/-- A created thread, now runnable and at the end of the queue. -/
def resumed (s : State) (t : ThreadSlot) : State :=
  { s with
    runnableQueue := Function.update s.runnableQueue s.runnableCount (some t)
    runnableCount := s.runnableCount + 1 }.modThread t fun thread =>
      { thread with suspendCount := 0, state := .runnable, runnableQueued := true }

theorem resumeThread_cases (h : Inv s) (handle : Nat) :
    (resumeThread s handle).2 = s ∨
    ∃ t, s.installed = true ∧ (s.threads t).live = true ∧
      (s.threads t).state = .createdSuspended ∧
      resumeThread s handle = ({ ok := true, previousSuspendCount := some 1 }, resumed s t) ∧
      QueueInv (resumed s t) := by
  unfold resumeThread
  cases ho : lookupObject s handle .thread with
  | none => exact Or.inl rfl
  | some o =>
    obtain ⟨hi, _, _, _⟩ := lookupObject_eq_some ho
    simp only
    split
    · exact Or.inl rfl
    · cases htarget : targetThread s o with
      | none => exact Or.inl rfl
      | some t =>
        simp only
        split
        · exact Or.inl rfl
        · rename_i hg
          split
          · split <;> exact Or.inl rfl
          · split
            · exact Or.inl rfl
            · rename_i hsus
              simp only [not_or, Decidable.not_not] at hg hsus
              have hlive : (s.threads t).live = true := hg.1
              have hstate : (s.threads t).state = .createdSuspended := hsus.1
              obtain ⟨l, hl⟩ := h.queue
              have htl : t ∉ l := by
                rw [hl.mem_iff t (by simp), hstate]
                simp
              have hq := (hl.setAside htl).modThread (f := fun thread =>
                { thread with suspendCount := 0, state := .runnable }) rfl
              have heq := enqueueRunnable_spec hq hi (by simp [hlive]) (by simp)
              have hqueue := hq.enqueue hi (by simp [hlive]) (by simp)
              rw [heq] at hqueue
              rw [heq]
              refine Or.inr ⟨t, hi, hlive, hstate, ?_, ⟨l ++ [t], ?_⟩⟩
              · simp [resumed, State.modThread]
              · simpa [resumed, State.modThread] using hqueue

theorem resumed_inv (h : Inv s) (hi : s.installed = true) (hl : (s.threads t).live = true)
    (hs : (s.threads t).state = .createdSuspended) (hq : QueueInv (resumed s t)) :
    Inv (resumed s t) := by
  have hc : s.current ≠ some t := by
    intro hc
    obtain ⟨c, hcur, _, hcs⟩ := h.current.current hi
    rw [hc] at hcur
    cases hcur
    rw [hs] at hcs
    simp at hcs
  refine ⟨⟨hq, ?_, ?_, ?_, ?_⟩, h.quiet⟩
  · refine h.current.congr rfl rfl rfl rfl (fun u => ?_) (fun u => Or.inl ?_)
    · by_cases hu : u = t
      · subst hu
        exact Or.inr ⟨hc, by simp [resumed]⟩
      · exact Or.inl (by simp [resumed, hu])
    · exact view_modThread Tcb.bootView _ t (by rfl) u
  · refine h.waits.congr rfl (fun _ => ⟨rfl, rfl⟩) rfl fun u => Or.inl ?_
    apply view_modThread Tcb.waitView
    simp [Tcb.waitView, hs]
  · refine h.objects.congr (fun _ => rfl) rfl rfl ?_ (fun _ => rfl) fun _ => rfl
    exact view_modThread Tcb.handleView _ t (by rfl)
  · intro u hu
    have hne : u ≠ t := by
      rintro rfl
      simp [resumed, hl] at hu
    simp only [resumed, State.modThread_threads, Function.update_of_ne hne] at hu ⊢
    exact h.blank u hu

theorem resumeThread_inv (h : Inv s) (handle : Nat) : Inv (resumeThread s handle).2 := by
  rcases resumeThread_cases h handle with heq | ⟨t, hi, hl, hs, heq, hq⟩
  · rw [heq]
    exact h
  · rw [heq]
    exact resumed_inv h hi hl hs hq

/-! ## Yield -/

/-- The state after a yield from `c` to another thread `next`, with the queue left open. -/
def yielded (s : State) (c next : ThreadSlot) (queue : Nat → Option ThreadSlot) (count : Nat) :
    State :=
  ({ s with
      runnableQueue := queue, runnableCount := count, current := some next,
      pendingPlan := ⟨some c, (s.threads next).savedContext⟩ }.modThread c
      fun thread => { thread with state := .runnable, runnableQueued := true }).modThread next
      fun thread => { thread with runnableQueued := false, state := .running }

/-- A yield that goes ahead always finds a thread, because the scan ends at the thread
that yields. It finds that thread itself when no other one is eligible. -/
theorem prepareYield_spec (h : Inv s) (hi : s.installed = true) (hc : s.current = some c)
    (hr : (s.threads c).state = .running) :
    ∃ next, (prepareYield s true).1 =
        { ok := true, plan := some ⟨some c, (s.threads next).savedContext⟩ } ∧
      (prepareYield s true).2.current = some next ∧
      (next ≠ c ↔ ∃ u, u ≠ c ∧ eligible s u = true) ∧
      ((next = c ∧ (prepareYield s true).2 =
          { s with pendingPlan := ⟨some c, (s.threads c).savedContext⟩ }) ∨
        (next ≠ c ∧ eligible s next = true ∧ Closest s c next ∧ ∃ queue count,
          (prepareYield s true).2 = yielded s c next queue count ∧
          QueueInv (prepareYield s true).2)) := by
  obtain ⟨l, hl⟩ := h.queue
  have hcl := hl.running_not_mem hr
  have hlive : (s.threads c).live = true := by
    obtain ⟨d, hd, hdl, _⟩ := h.current.current hi
    rw [hc] at hd
    cases hd
    exact hdl
  have hunq : (s.threads c).runnableQueued = false := by
    rw [Bool.eq_false_iff]
    intro hq
    exact hcl ((hl.flag c).mp hq)
  have hq1 := (hl.setAside hcl).modThread (f := fun thread =>
    { thread with state := .runnable }) rfl
  have heq2 := enqueueRunnable_spec hq1 hi (by simp [hlive]) (by simp)
  have hq2 := hq1.enqueue hi (by simp [hlive]) (by simp)
  set s2 := (enqueueRunnable (s.modThread c fun thread => { thread with state := .runnable })
    c).2 with hs2
  have hpick : (pickNextRunnable s2 c).isSome := by
    rw [Option.isSome_iff_ne_none, ne_eq, pickNextRunnable_none hq2]
    simp
  obtain ⟨next, hnext⟩ := Option.isSome_iff_exists.mp hpick
  have hmem := pickNextRunnable_mem hq2 hnext
  obtain ⟨q, hq, hchoose⟩ := chooseNext_spec hq2 (by rw [hs2, heq2]; exact hi) hmem
  have hyield : prepareYield s true =
      ({ ok := true, plan := some (chooseNext s2 next).1 },
        { (chooseNext s2 next).2 with pendingPlan := (chooseNext s2 next).1 }) := by
    unfold prepareYield
    rw [if_neg (by simp [hi]), hc]
    simp only
    rw [if_neg (by simp [hr])]
    simp only [← hs2, hnext]
    rw [heq2]
    simp
  have hsaved : (s2.threads next).savedContext = (s.threads next).savedContext := by
    rw [hs2, heq2]
    by_cases hn : next = c
    · subst hn
      simp
    · simp [hn]
  have hcur2 : s2.current = some c := by
    rw [hs2, heq2]
    exact hc
  refine ⟨next, ?_, ?_, ?_, ?_⟩
  · rw [hyield, hchoose]
    simp [hsaved, hcur2]
  · rw [hyield, hchoose]
    rfl
  · constructor
    · intro hn
      have : next ∈ l := by simpa [hn] using hmem
      exact ⟨next, hn, (hl.eligible_iff next).mpr this⟩
    · rintro ⟨u, hu, he⟩ rfl
      have hul : u ∈ l ++ [next] := by simp [(hl.eligible_iff u).mp he]
      obtain ⟨n, hn, hne, _⟩ := pickNextRunnable_ne hq2 hul hu
      rw [hnext] at hn
      cases hn
      exact hne rfl
  · by_cases hn : next = c
    · subst hn
      refine Or.inl ⟨rfl, ?_⟩
      have herase : (l ++ [next]).erase next = l := by
        rw [List.erase_append_right _ hcl]
        simp
      have hqueue : q = s.runnableQueue := by
        funext i
        rw [hq.2, herase, hl.holds.2]
      have hcount : s2.runnableCount - 1 = s.runnableCount := by
        rw [hs2, heq2]
        simp
      rw [hyield, hchoose]
      simp only [hqueue, hcount, hsaved, hcur2]
      rw [hs2, heq2]
      have hthread : { s.threads next with state := .running, runnableQueued := false } =
          s.threads next := by
        rw [← hr, ← hunq]
      simp [State.modThread, hthread, hc, Function.update_eq_self]
    · have hnl : next ∈ l := by simpa [hn] using hmem
      have hclosest : Closest s c next := by
        apply pickNextRunnable_closest hnext
        intro u hu
        rw [hs2, heq2]
        simp [hu]
      refine Or.inr ⟨hn, (hl.eligible_iff next).mpr hnl, hclosest, q, s2.runnableCount - 1, ?_, ?_⟩
      · rw [hyield, hchoose]
        simp only [hsaved, hcur2]
        rw [hs2, heq2]
        simp [yielded, State.modThread]
      · refine ⟨(l ++ [c]).erase next, ?_⟩
        have htaken := hq2.takenOut (c := some next) hmem hq
          (f := fun thread => { thread with runnableQueued := false, state := .running }) rfl
          (by simp)
        rw [hyield, hchoose]
        exact htaken.congr rfl rfl rfl fun _ => rfl

theorem yielded_inv (h : Inv s) (hi : s.installed = true) (hc : s.current = some c)
    (hr : (s.threads c).state = .running) (hn : next ≠ c) (he : eligible s next = true)
    {queue : Nat → Option ThreadSlot} {count : Nat}
    (hq : QueueInv (yielded s c next queue count)) : Inv (yielded s c next queue count) := by
  refine h.handOver hi hc hn he hq
    (f := fun thread => { thread with state := .runnable, runnableQueued := true })
    ?_ ⟨rfl, ?_, rfl, by simp⟩ rfl
  · intro t
    by_cases htn : t = next
    · subst htn
      simp [yielded, hn]
    · by_cases htc : t = c
      · subst htc
        simp [yielded, htn]
      · simp [yielded, htn, htc]
  · simp [Tcb.waitView, hr]

/-- A yield that its guard turns away changes nothing. -/
theorem prepareYield_refused {planOut : Bool}
    (h : ¬ (s.installed = true ∧ planOut = true ∧
      ∃ c, s.current = some c ∧ (s.threads c).state = .running)) :
    prepareYield s planOut = ({}, s) := by
  unfold prepareYield
  split
  · rfl
  · rename_i hg
    simp only [not_or, Decidable.not_not] at hg
    cases hc : s.current with
    | none => rfl
    | some c =>
      simp only
      split
      · rfl
      · rename_i hr
        simp only [ne_eq, Decidable.not_not] at hr
        exact absurd ⟨hg.1, hg.2, c, hc, hr⟩ h

theorem prepareYield_inv (h : Inv s) (planOut : Bool) : Inv (prepareYield s planOut).2 := by
  by_cases hg : s.installed = true ∧ planOut = true ∧
      ∃ c, s.current = some c ∧ (s.threads c).state = .running
  · obtain ⟨hi, rfl, c, hc, hr⟩ := hg
    obtain ⟨next, _, _, _, ⟨rfl, heq⟩ | ⟨hn, he, _, queue, count, heq, hq⟩⟩ :=
      prepareYield_spec h hi hc hr
    · rw [heq]
      apply h.unseen
      exact ⟨rfl, rfl, rfl, rfl, rfl, rfl, rfl, rfl, fun _ => rfl, rfl, fun _ => rfl, rfl, rfl,
        fun _ => rfl⟩
    · rw [heq] at hq ⊢
      exact yielded_inv h hi hc hr hn he hq
  · rw [prepareYield_refused hg]
    exact h

/-! ## Terminate -/

/-- The state after a terminate of `c` with a switch to `next`. -/
def exited (s : State) (c next : ThreadSlot) (returnValue : Nat) (queue : Nat → Option ThreadSlot)
    (count : Nat) : State :=
  ({ s with runnableQueue := queue, runnableCount := count, current := some next }.modThread c
    (endedThread returnValue)).modThread next
    fun thread => { thread with runnableQueued := false, state := .running }

theorem prepareTerminate_cases (h : Inv s) (returnValue : Nat) (planOut : Bool) :
    prepareTerminate s returnValue planOut = ({}, s) ∨
    ∃ c, s.current = some c ∧ terminatesCurrent s planOut c = true ∧
      (prepareTerminate s returnValue planOut =
          ({}, s.modThread c (endedThread returnValue)) ∨
        ∃ next queue count, next ≠ c ∧ eligible s next = true ∧ Closest s c next ∧
          (prepareTerminate s returnValue planOut).1.ok = true ∧
          (prepareTerminate s returnValue planOut).2 = exited s c next returnValue queue count ∧
          QueueInv (prepareTerminate s returnValue planOut).2) := by
  unfold prepareTerminate
  cases hc : s.current with
  | none => exact Or.inl rfl
  | some c =>
    simp only
    by_cases hg : terminatesCurrent s planOut c = true
    · rw [if_neg (by simp [hg])]
      refine Or.inr ⟨c, rfl, hg, ?_⟩
      have hfacts := hg
      unfold terminatesCurrent at hfacts
      simp only [Bool.and_eq_true, decide_eq_true_eq] at hfacts
      have hi : s.installed = true := hfacts.1.1.1.1
      have hr : (s.threads c).state = .running := hfacts.1.2
      obtain ⟨l, hl⟩ := h.queue
      have hcl := hl.running_not_mem hr
      have hq1 : QueueUpTo (s.modThread c (endedThread returnValue)) none l := by
        apply QueueUpTo.settle (t := c)
        · exact (hl.setAside hcl).modThread rfl
        · simp [endedThread]
      set s1 := s.modThread c (endedThread returnValue) with hs1
      cases hp : pickNextRunnable s1 c with
      | none => exact Or.inl rfl
      | some next =>
        simp only
        have hmem := pickNextRunnable_mem hq1 hp
        obtain ⟨q, hq, hchoose⟩ := chooseNext_spec hq1 hi hmem
        have hn : next ≠ c := by
          rintro rfl
          exact hcl hmem
        have hclosest : Closest s c next := by
          apply pickNextRunnable_closest hp
          intro u hu
          simp [hs1, hu]
        refine Or.inr ⟨next, q, s1.runnableCount - 1, hn, (hl.eligible_iff next).mpr hmem,
          hclosest, trivial, ?_, ?_⟩
        · rw [hchoose]
          rfl
        · refine ⟨l.erase next, ?_⟩
          rw [hchoose]
          simp only
          apply hq1.takenOut hmem hq
          · rfl
          · simp
    · rw [if_pos (by simpa using hg)]
      exact Or.inl rfl

theorem terminatesCurrent_facts {planOut : Bool} (h : terminatesCurrent s planOut c = true) :
    s.installed = true ∧ s.current = some c ∧ (s.threads c).state = .running ∧
    (s.threads c).isBootThread = false := by
  unfold terminatesCurrent at h
  simp only [Bool.and_eq_true, decide_eq_true_eq, Bool.not_eq_true'] at h
  exact ⟨h.1.1.1.1, h.1.1.2, h.1.2, h.2⟩

/-- The last thread has ended and no thread takes its place. -/
theorem endedThread_inv (h : Inv s) (hi : s.installed = true) (hc : s.current = some c)
    (hr : (s.threads c).state = .running) (returnValue : Nat) :
    Inv (s.modThread c (endedThread returnValue)) := by
  have hcl := h.current.current_live hi hc
  refine ⟨⟨?_, ?_, ?_, ?_, ?_⟩, h.quiet⟩
  · refine h.queue.congr rfl rfl rfl ?_
    apply view_modThread Tcb.queueView
    simp [Tcb.queueView, endedThread, hr]
  · obtain ⟨h1, h2, h3, h4, h5, h6⟩ := h.current
    have hv : ∀ t, ((s.modThread c (endedThread returnValue)).threads t).bootView =
        (s.threads t).bootView := view_modThread Tcb.bootView s c (by rfl)
    have hlive : ∀ t, ((s.modThread c (endedThread returnValue)).threads t).live =
        (s.threads t).live := fun t => (Tcb.bootView_eq (hv t)).1
    refine ⟨h1, ?_, ?_, ?_, ?_, ?_⟩
    · intro hi'
      rw [hlive, (Tcb.bootView_eq (hv 0)).2.1]
      exact h2 hi'
    · intro t hb
      obtain ⟨_, hsame, hstack⟩ := Tcb.bootView_eq (hv t)
      rw [hsame] at hb
      obtain ⟨ht0, hts⟩ := h3 t hb
      exact ⟨ht0, hstack hb hts⟩
    · intro _
      exact ⟨c, hc, by rw [hlive]; exact hcl, Or.inr (by simp [endedThread])⟩
    · intro t htl hts
      by_cases ht : t = c
      · rw [ht]
        exact hc
      · simp only [State.modThread_threads, Function.update_of_ne ht] at htl hts
        exact h5 t htl hts
    · intro hi' t
      rw [hlive]
      exact h6 hi' t
  · refine h.waits.congr rfl (fun _ => ⟨rfl, rfl⟩) rfl fun t => Or.inl ?_
    apply view_modThread Tcb.waitView
    simp [Tcb.waitView, endedThread, hr]
  · refine h.objects.congr (fun _ => rfl) rfl rfl ?_ (fun _ => rfl) fun _ => rfl
    exact view_modThread Tcb.handleView s c (by rfl)
  · intro t ht
    have hne : t ≠ c := by
      rintro rfl
      simp [endedThread, hcl] at ht
    simp only [State.modThread_threads, Function.update_of_ne hne] at ht ⊢
    exact h.blank t ht

theorem exited_inv (h : Inv s) (hi : s.installed = true) (hc : s.current = some c)
    (hr : (s.threads c).state = .running) (hn : next ≠ c) (he : eligible s next = true)
    {returnValue : Nat} {queue : Nat → Option ThreadSlot} {count : Nat}
    (hq : QueueInv (exited s c next returnValue queue count)) :
    Inv (exited s c next returnValue queue count) := by
  refine h.handOver hi hc hn he hq (f := endedThread returnValue) ?_ ⟨rfl, ?_, rfl, ?_⟩ rfl
  · intro t
    by_cases htn : t = next
    · subst htn
      simp [exited, hn]
    · by_cases htc : t = c
      · subst htc
        simp [exited, htn]
      · simp [exited, htn, htc]
  · simp [Tcb.waitView, endedThread, hr]
  · simp [endedThread]

theorem prepareTerminate_inv (h : Inv s) (returnValue : Nat) (planOut : Bool) :
    Inv (prepareTerminate s returnValue planOut).2 := by
  rcases prepareTerminate_cases h returnValue planOut with
    heq | ⟨c, _, hg, heq | ⟨next, queue, count, hn, he, _, _, heq, hq⟩⟩
  · rw [heq]
    exact h
  · obtain ⟨hi, hc, hr, _⟩ := terminatesCurrent_facts hg
    rw [heq]
    exact endedThread_inv h hi hc hr returnValue
  · obtain ⟨hi, hc, hr, _⟩ := terminatesCurrent_facts hg
    rw [heq] at hq ⊢
    exact exited_inv h hi hc hr hn he hq

end Gate4Harness.Scheduler
