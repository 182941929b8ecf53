-- The object table under the operations that take, close and give back objects.
-- An object slot and the record that it stands for become live together and
-- leave together, and the other slots keep what they hold.
import Gate4Harness.SchedulerSignals

namespace Gate4Harness.Scheduler

variable {s s' : State} {o p : ObjectSlot} {x : Target} {r : RecordSlot} {t : ThreadSlot}

/-! ## Objects and their targets -/

/-- The object slot that a target names while it is live. -/
def slotOf (s : State) : Target → Option ObjectSlot
  | .thread t => if (s.threads t).live then some (s.threads t).objectSlot else none
  | .event e => if (s.events e).live then some (s.events e).objectSlot else none
  | .notification => if s.notification.live then some s.notification.objectSlot else none
  | .stream => if s.standardStream.live then some s.standardStream.objectSlot else none

theorem TargetFits.slotOf (h : TargetFits s p) :
    ∃ x, (s.objects p).target = some x ∧ slotOf s x = some p := by
  unfold TargetFits at h
  cases htype : (s.objects p).type with
  | free => simp [htype] at h
  | thread =>
    simp only [htype] at h
    obtain ⟨t, ht, hl, hs, _⟩ := h
    exact ⟨.thread t, ht, by simp [Scheduler.slotOf, hl, hs]⟩
  | event =>
    simp only [htype] at h
    obtain ⟨e, he, hl, hs, _⟩ := h
    exact ⟨.event e, he, by simp [Scheduler.slotOf, hl, hs]⟩
  | memoryResourceNotification =>
    simp only [htype] at h
    obtain ⟨hn, hl, hs, _⟩ := h
    exact ⟨.notification, hn, by simp [Scheduler.slotOf, hl, hs]⟩
  | standardStream =>
    simp only [htype] at h
    obtain ⟨hn, hl, hs, _⟩ := h
    exact ⟨.stream, hn, by simp [Scheduler.slotOf, hl, hs]⟩

/-- The type that an object of a target has. -/
def Target.type : Target → ObjectType
  | .thread _ => .thread
  | .event _ => .event
  | .notification => .memoryResourceNotification
  | .stream => .standardStream

theorem TargetFits.type_eq (h : TargetFits s p) (hx : (s.objects p).target = some x) :
    (s.objects p).type = x.type := by
  unfold TargetFits at h
  cases htype : (s.objects p).type <;> simp only [htype, hx] at h
  · obtain ⟨t, ht, _⟩ := h
    cases ht
    rfl
  · obtain ⟨e, he, _⟩ := h
    cases he
    rfl
  · cases h.1
    rfl
  · cases h.1
    rfl

/-- All but the slot `o` and the target `x` keep what the object table reads. -/
structure SameBut (s s' : State) (o : ObjectSlot) (x : Target) : Prop where
  objects : ∀ p, p ≠ o → (s'.objects p).view = (s.objects p).view
  threads : ∀ t, x ≠ .thread t → (s'.threads t).handleView = (s.threads t).handleView
  events : ∀ e, x ≠ .event e → (s'.events e).handleView = (s.events e).handleView
  notification : x ≠ .notification → s'.notification = s.notification
  quiet : s'.notification.waitable.signaled = false
  stream : x ≠ .stream → s'.standardStream = s.standardStream
  records : ∀ r, (s'.waitRecords r).pinView = (s.waitRecords r).pinView

theorem SameBut.object (h : SameBut s s' o x) (hp : p ≠ o) (hl : (s.objects p).live = true) :
    s'.objects p = s.objects p :=
  (Object.view_eq (h.objects p hp)).2 hl

theorem SameBut.live_of_ne (h : SameBut s s' o x) (hp : p ≠ o) :
    (s'.objects p).live = (s.objects p).live :=
  (Object.view_eq (h.objects p hp)).1

theorem SameBut.standsFor (h : SameBut s s' o x) {type : ObjectType} {y : Target} (hp : p ≠ o)
    (hs : StandsFor s p type y) : StandsFor s' p type y := by
  unfold StandsFor
  rw [h.object hp hs.1]
  exact hs

theorem SameBut.fits (h : SameBut s s' o x) (hp : p ≠ o) (hl : (s.objects p).live = true)
    (hy : (s.objects p).target ≠ some x) (hfit : TargetFits s p) : TargetFits s' p := by
  unfold TargetFits at hfit ⊢
  rw [h.object hp hl]
  cases htype : (s.objects p).type with
  | free => simp [htype] at hfit
  | thread =>
    simp only [htype] at hfit ⊢
    obtain ⟨t, ht, hrest⟩ := hfit
    have hv := h.threads t (fun hxt => hy (by rw [hxt]; exact ht))
    simp only [Tcb.handleView, Prod.mk.injEq] at hv
    refine ⟨t, ht, ?_⟩
    rw [hv.1, hv.2.1, hv.2.2.1, hv.2.2.2]
    exact hrest
  | event =>
    simp only [htype] at hfit ⊢
    obtain ⟨e, he, hrest⟩ := hfit
    obtain ⟨hl', heq⟩ := Waitable.handleView_eq
      (h.events e (fun hxe => hy (by rw [hxe]; exact he)))
    refine ⟨e, he, ?_⟩
    rw [hl', (heq hrest.1).1, (heq hrest.1).2]
    exact hrest
  | memoryResourceNotification =>
    simp only [htype] at hfit ⊢
    rw [h.notification (fun hx => hy (by rw [hx]; exact hfit.1))]
    exact hfit
  | standardStream =>
    simp only [htype] at hfit ⊢
    rw [h.stream (fun hx => hy (by rw [hx]; exact hfit.1))]
    exact hfit

/-- The targets other than `x` stand in their slots as before, when none of these is `o`. -/
theorem ObjectInv.others (h : ObjectInv s) (hs : SameBut s s' o x)
    (ho : ∀ type y, StandsFor s o type y → y = x) :
    (∀ t, x ≠ .thread t → (s'.threads t).live = true →
      StandsFor s' (s'.threads t).objectSlot .thread (.thread t)) ∧
    (∀ e, x ≠ .event e → (s'.events e).live = true →
      StandsFor s' (s'.events e).objectSlot .event (.event e)) ∧
    (x ≠ .notification → s'.notification.live = true →
      StandsFor s' s'.notification.objectSlot .memoryResourceNotification .notification) ∧
    (x ≠ .stream → s'.standardStream.live = true →
      StandsFor s' s'.standardStream.objectSlot .standardStream .stream) := by
  have hmove : ∀ p type y, y ≠ x → StandsFor s p type y → StandsFor s' p type y := by
    intro p type y hy hst
    apply hs.standsFor _ hst
    rintro rfl
    exact hy (ho type y hst)
  refine ⟨?_, ?_, ?_, ?_⟩
  · intro t hx hl
    have hv := hs.threads t hx
    simp only [Tcb.handleView, Prod.mk.injEq] at hv
    rw [hv.2.1]
    exact hmove _ _ _ (Ne.symm hx) (h.thread t (by rw [← hv.1]; exact hl))
  · intro e hx hl
    obtain ⟨hl', heq⟩ := Waitable.handleView_eq (hs.events e hx)
    rw [hl'] at hl
    rw [(heq hl).1]
    exact hmove _ _ _ (Ne.symm hx) (h.event e hl)
  · intro hx hl
    rw [hs.notification hx] at hl ⊢
    exact hmove _ _ _ (Ne.symm hx) (h.notification hl)
  · intro hx hl
    rw [hs.stream hx] at hl ⊢
    exact hmove _ _ _ (Ne.symm hx) (h.stream hl)

/-- The wait records, none of which pins `o`, stay attached. -/
theorem ObjectInv.records_kept (h : ObjectInv s) (hs : SameBut s s' o x)
    (hpins : ∀ r, (s.waitRecords r).valid = true → (s.waitRecords r).object ≠ some o)
    (r : RecordSlot) (hv : (s'.waitRecords r).valid = true) :
    ∃ p e, (s'.waitRecords r).object = some p ∧ (s'.waitRecords r).waitable = some e ∧
      StandsFor s' p .event (.event e) ∧ (s'.waitRecords r).objectSlot = p ∧
      (s'.waitRecords r).objectGeneration = (s'.objects p).generation := by
  have hr := hs.records r
  simp only [WaitRecord.pinView, Prod.mk.injEq] at hr
  rw [hr.1] at hv
  obtain ⟨p, e, h1, h2, h3, h4, h5⟩ := h.record r hv
  have hp : p ≠ o := by
    rintro rfl
    exact hpins r hv h1
  refine ⟨p, e, by rw [hr.2.1]; exact h1, by rw [hr.2.2.1]; exact h2, hs.standsFor hp h3,
    by rw [hr.2.2.2.1]; exact h4, ?_⟩
  rw [hr.2.2.2.2, hs.object hp h3.1]
  exact h5

/-! ## An object more -/

/-- A free slot and a target that was not live become live together. -/
theorem ObjectInv.allocate (h : ObjectInv s) (hs : SameBut s s' o x)
    (hfree : (s.objects o).live = false) (hx : slotOf s x = none)
    (hlive : (s'.objects o).live = true)
    (hslot : (s'.objects o).slot = o ∧ ValidGeneration (s'.objects o).generation ∧
      (s'.objects o).publicHandleRefs ≤ 1)
    (htarget : (s'.objects o).target = some x) (hfit : TargetFits s' o)
    (hrefs : (s'.objects o).internalRefs = 1) : ObjectInv s' := by
  have hdead : ∀ type y, ¬ StandsFor s o type y := by
    rintro type y ⟨hl, _⟩
    rw [hfree] at hl
    cases hl
  have hstands : StandsFor s' o x.type x := ⟨hlive, hfit.type_eq htarget, htarget⟩
  have hslotx : slotOf s' x = some o := by
    obtain ⟨y, hy, hys⟩ := hfit.slotOf
    rw [htarget] at hy
    cases hy
    exact hys
  obtain ⟨hthreads, hevents, hnotif, hstream⟩ :=
    h.others hs fun type y hst => absurd hst (hdead type y)
  have hpins : ∀ p, pins s' p = pins s p := pins_congr hs.records
  have hunpinned : ∀ r, (s.waitRecords r).valid = true → (s.waitRecords r).object ≠ some o := by
    intro r hv ho
    obtain ⟨q, e, hq, _, hst, _⟩ := h.record r hv
    rw [hq] at ho
    cases ho
    exact hdead _ _ hst
  have hpin : pins s o = 0 := by
    unfold pins
    rw [Finset.card_eq_zero, Finset.filter_eq_empty_iff]
    rintro r _ ⟨hv, ho⟩
    exact hunpinned r hv ho
  refine ⟨?_, ?_, ?_, ?_, ?_, hs.quiet, ?_, ?_, ?_⟩
  · intro p hl
    by_cases hp : p = o
    · subst hp
      exact hslot
    · rw [hs.live_of_ne hp] at hl
      rw [hs.object hp hl]
      exact h.slot p hl
  · intro p hl
    by_cases hp : p = o
    · subst hp
      exact hfit
    · rw [hs.live_of_ne hp] at hl
      apply hs.fits hp hl _ (h.target p hl)
      obtain ⟨y, hy, hys⟩ := (h.target p hl).slotOf
      rw [hy]
      rintro ⟨rfl⟩
      rw [hx] at hys
      cases hys
  · intro t hl
    by_cases hxt : x = .thread t
    · subst hxt
      simp only [slotOf, hl, if_true, Option.some.injEq] at hslotx
      rw [hslotx]
      exact hstands
    · exact hthreads t hxt hl
  · intro e hl
    by_cases hxe : x = .event e
    · subst hxe
      simp only [slotOf, hl, if_true, Option.some.injEq] at hslotx
      rw [hslotx]
      exact hstands
    · exact hevents e hxe hl
  · intro hl
    by_cases hxn : x = .notification
    · subst hxn
      simp only [slotOf, hl, if_true, Option.some.injEq] at hslotx
      rw [hslotx]
      exact hstands
    · exact hnotif hxn hl
  · intro hl
    by_cases hxs : x = .stream
    · subst hxs
      simp only [slotOf, hl, if_true, Option.some.injEq] at hslotx
      rw [hslotx]
      exact hstands
    · exact hstream hxs hl
  · exact h.records_kept hs hunpinned
  · intro p hl
    rw [hpins]
    by_cases hp : p = o
    · subst hp
      rw [hrefs, hpin]
    · rw [hs.live_of_ne hp] at hl
      rw [hs.object hp hl]
      exact h.refs p hl

/-! ## An object less -/

/-- An object that no wait record pins and its target leave together. -/
theorem ObjectInv.release (h : ObjectInv s) (hs : SameBut s s' o x)
    (hlive : (s.objects o).live = true) (htarget : (s.objects o).target = some x)
    (hgone : (s'.objects o).live = false) (hx : slotOf s' x = none)
    (hpins : ∀ r, (s.waitRecords r).valid = true → (s.waitRecords r).object ≠ some o) :
    ObjectInv s' := by
  have hslotx : slotOf s x = some o := by
    obtain ⟨y, hy, hys⟩ := (h.target o hlive).slotOf
    rw [htarget] at hy
    cases hy
    exact hys
  have hdead : ∀ p, (s'.objects p).live = true → p ≠ o := by
    rintro p hl rfl
    rw [hgone] at hl
    cases hl
  obtain ⟨hthreads, hevents, hnotif, hstream⟩ := h.others hs (by
    rintro type y ⟨_, _, hy⟩
    rw [htarget] at hy
    exact (Option.some.inj hy).symm)
  refine ⟨?_, ?_, ?_, ?_, ?_, hs.quiet, ?_, ?_, ?_⟩
  · intro p hl
    have hp := hdead p hl
    rw [hs.live_of_ne hp] at hl
    rw [hs.object hp hl]
    exact h.slot p hl
  · intro p hl
    have hp := hdead p hl
    rw [hs.live_of_ne hp] at hl
    apply hs.fits hp hl _ (h.target p hl)
    obtain ⟨y, hy, hys⟩ := (h.target p hl).slotOf
    rw [hy]
    rintro ⟨rfl⟩
    rw [hslotx] at hys
    exact hp (Option.some.inj hys).symm
  · intro t hl
    apply hthreads t _ hl
    rintro rfl
    simp [slotOf, hl] at hx
  · intro e hl
    apply hevents e _ hl
    rintro rfl
    simp [slotOf, hl] at hx
  · intro hl
    apply hnotif _ hl
    rintro rfl
    simp [slotOf, hl] at hx
  · intro hl
    apply hstream _ hl
    rintro rfl
    simp [slotOf, hl] at hx
  · exact h.records_kept hs hpins
  · intro p hl
    have hp := hdead p hl
    rw [pins_congr hs.records]
    rw [hs.live_of_ne hp] at hl
    rw [hs.object hp hl]
    exact h.refs p hl

end Gate4Harness.Scheduler
