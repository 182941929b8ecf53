-- The invariant of the scheduler. It has four parts: the runnable queue, the
-- thread that runs, the waits and the object table. Each part reads only some
-- fields of a thread, so a change to other fields keeps it.
import Mathlib.Data.Fintype.Card
import Gate4Harness.SchedulerOps

namespace Gate4Harness.Scheduler

open SlotList

/-! ## The runnable queue -/

/-- What the runnable queue reads of a thread. -/
def Tcb.queueView (x : Tcb) : Bool × Bool :=
  (x.live && decide (x.state = .runnable), x.runnableQueued)

/-- The queue holds the list `l` of the live runnable threads, each once, and the flag of
a thread says if it is in the queue. The thread `x`, if any, is on its way into or out
of the queue: it is not in `l`, whatever its state. -/
structure QueueUpTo (s : State) (x : Option ThreadSlot) (l : List ThreadSlot) : Prop where
  holds : Holds s.runnableQueue s.runnableCount l
  nodup : l.Nodup
  mem_iff : ∀ t, some t ≠ x → (t ∈ l ↔ (s.threads t).live = true ∧ (s.threads t).state = .runnable)
  not_mem : ∀ t, x = some t → t ∉ l
  flag : ∀ t, (s.threads t).runnableQueued = true ↔ t ∈ l
  never_full : s.queueRefusals = 0

/-- The queue and the flags agree with the states of all threads. -/
def QueueInv (s : State) : Prop := ∃ l, QueueUpTo s none l

/-! ## The thread that runs -/

/-- What the rules about the current thread read of a thread besides its state. -/
def Tcb.bootView (x : Tcb) : Bool × Bool × Bool :=
  (x.live, x.isBootThread, x.isBootThread && decide (x.stackBase ≠ 0))

structure CurrentInv (s : State) : Prop where
  active : s.active = s.installed
  boot : s.installed = true →
    s.bootThread = some 0 ∧ (s.threads 0).live = true ∧ (s.threads 0).isBootThread = true
  boot_slot : ∀ t, (s.threads t).isBootThread = true → t = 0 ∧ (s.threads t).stackBase = 0
  current : s.installed = true → ∃ c, s.current = some c ∧ (s.threads c).live = true ∧
    ((s.threads c).state = .running ∨ (s.threads c).state = .terminated)
  running : ∀ t, (s.threads t).live = true → (s.threads t).state = .running → s.current = some t
  vacant : s.installed = false → ∀ t, (s.threads t).live = false

/-- Only an installed scheduler has live threads. -/
theorem CurrentInv.installed_of_live {s : State} (h : CurrentInv s) {t : ThreadSlot}
    (hl : (s.threads t).live = true) : s.installed = true := by
  rw [← Bool.not_eq_false]
  intro hi
  rw [h.vacant hi t] at hl
  cases hl

/-! ## The waits -/

/-- What the rules about waits read of a thread. The result counts only while the thread
holds a wait record. -/
def Tcb.waitView (x : Tcb) : Bool × Option (RecordSlot × WaitResult × Bool × Bool) :=
  (x.live && decide (x.state = .blocked),
    x.waitRecord.map fun r => (r, x.blockedResult, x.live, decide (x.state = .blocked)))

/-- A wait that blocked and that no signal and no timeout has ended yet. -/
def Pending (s : State) (r : RecordSlot) : Prop :=
  (s.waitRecords r).valid = true ∧ (s.waitRecords r).completed = false

/-- The result that `complete_waiter` left in the thread fits the one in the record. -/
def ResultFits (blockedResult : WaitResult) (completionResult : Nat) : Prop :=
  (blockedResult = .signaled ∧ completionResult = waitObject0) ∨
  (blockedResult = .timedOut ∧ completionResult = waitTimeout)

structure WaitInv (s : State) : Prop where
  blank : ∀ r, (s.waitRecords r).valid = false → s.waitRecords r = {}
  active : ∀ r, (s.waitRecords r).valid = true →
    (s.waitRecords r).active = true ∧ (s.waitRecords r).pinHeld = true
  pending : ∀ r, Pending s r → ∃ t e, (s.waitRecords r).thread = some t ∧
    (s.waitRecords r).waitable = some e ∧ (s.waitRecords r).waiterLinked = true ∧
    (s.threads t).live = true ∧ (s.threads t).state = .blocked ∧
    (s.threads t).waitRecord = some r ∧
    (s.events e).waiters (s.waitRecords r).waiterIndex = some r
  unlinked : ∀ r, (s.waitRecords r).completed = true → (s.waitRecords r).waiterLinked = false
  listed : ∀ e i r, (s.events e).waiters i = some r →
    Pending s r ∧ (s.waitRecords r).waitable = some e ∧ (s.waitRecords r).waiterIndex = i
  lists : ∀ e, ∃ w, Holds (s.events e).waiters (s.events e).waiterCount w
  blocked : ∀ t, (s.threads t).live = true → (s.threads t).state = .blocked →
    ∃ r, (s.threads t).waitRecord = some r ∧ Pending s r
  owner : ∀ t r, (s.threads t).waitRecord = some r → (s.threads t).live = true ∧
    (s.waitRecords r).valid = true ∧ (s.waitRecords r).thread = some t
  result : ∀ t r, (s.threads t).waitRecord = some r → (s.waitRecords r).completed = true →
    (s.threads t).state ≠ .blocked ∧
    ResultFits (s.threads t).blockedResult (s.waitRecords r).completionResult
  count : s.activeWaitCount =
    (Finset.univ.filter fun r => (s.waitRecords r).valid = true).card

/-! ## The object table -/

/-- What the object table reads of a thread. -/
def Tcb.handleView (x : Tcb) : Bool × ObjectSlot × Nat × Nat :=
  (x.live, x.objectSlot, x.generation, x.publicHandleRefs)

/-- What the object table reads of an event. -/
def Waitable.handleView (x : Waitable) : Option (ObjectSlot × Nat) :=
  if x.live then some (x.objectSlot, x.generation) else none

/-- What the object table reads of a wait record. -/
def WaitRecord.pinView (x : WaitRecord) :
    Bool × Option ObjectSlot × Option EventSlot × ObjectSlot × Nat :=
  (x.valid, x.object, x.waitable, x.objectSlot, x.objectGeneration)

/-- The wait records that pin the object `o`. -/
def pins (s : State) (o : ObjectSlot) : Nat :=
  (Finset.univ.filter fun r =>
    (s.waitRecords r).valid = true ∧ (s.waitRecords r).object = some o).card

/-- The target of a live object has the type of the object, and it names the object by
its slot and generation. -/
def TargetFits (s : State) (o : ObjectSlot) : Prop :=
  match (s.objects o).type with
  | .free => False
  | .thread => ∃ t, (s.objects o).target = some (.thread t) ∧ (s.threads t).live = true ∧
      (s.threads t).objectSlot = o ∧ (s.threads t).generation = (s.objects o).generation ∧
      (s.threads t).publicHandleRefs = (s.objects o).publicHandleRefs
  | .event => ∃ e, (s.objects o).target = some (.event e) ∧ (s.events e).live = true ∧
      (s.events e).objectSlot = o ∧ (s.events e).generation = (s.objects o).generation
  | .memoryResourceNotification => (s.objects o).target = some .notification ∧
      s.notification.live = true ∧ s.notification.objectSlot = o ∧
      s.notification.generation = (s.objects o).generation
  | .standardStream => (s.objects o).target = some .stream ∧ s.standardStream.live = true ∧
      s.standardStream.objectSlot = o ∧
      s.standardStream.generation = (s.objects o).generation

/-- The object in slot `o` is live and stands for `target`. -/
def StandsFor (s : State) (o : ObjectSlot) (type : ObjectType) (target : Target) : Prop :=
  (s.objects o).live = true ∧ (s.objects o).type = type ∧ (s.objects o).target = some target

/-- A generation as a live object has it: not 0, and in 16 bits. -/
def ValidGeneration (generation : Nat) : Prop := generation ≠ 0 ∧ generation < 2 ^ 16

structure ObjectInv (s : State) : Prop where
  slot : ∀ o, (s.objects o).live = true →
    (s.objects o).slot = o ∧ ValidGeneration (s.objects o).generation ∧
    (s.objects o).publicHandleRefs ≤ 1
  target : ∀ o, (s.objects o).live = true → TargetFits s o
  thread : ∀ t, (s.threads t).live = true →
    StandsFor s (s.threads t).objectSlot .thread (.thread t)
  event : ∀ e, (s.events e).live = true → StandsFor s (s.events e).objectSlot .event (.event e)
  notification : s.notification.live = true →
    StandsFor s s.notification.objectSlot .memoryResourceNotification .notification
  notification_quiet : s.notification.waitable.signaled = false
  stream : s.standardStream.live = true →
    StandsFor s s.standardStream.objectSlot .standardStream .stream
  record : ∀ r, (s.waitRecords r).valid = true → ∃ o e, (s.waitRecords r).object = some o ∧
    (s.waitRecords r).waitable = some e ∧ StandsFor s o .event (.event e) ∧
    (s.waitRecords r).objectSlot = o ∧
    (s.waitRecords r).objectGeneration = (s.objects o).generation
  refs : ∀ o, (s.objects o).live = true → (s.objects o).internalRefs = 1 + pins s o

/-! ## The whole invariant -/

/-- All that the invariant reads of a thread. -/
def Tcb.view (x : Tcb) : (Bool × ThreadState × Bool) × (Bool × Bool) ×
    Option (RecordSlot × WaitResult) × ObjectSlot × Nat × Nat :=
  ((x.live, x.state, x.runnableQueued),
    (x.isBootThread, x.isBootThread && decide (x.stackBase ≠ 0)),
    x.waitRecord.map (fun r => (r, x.blockedResult)), x.objectSlot, x.generation,
    x.publicHandleRefs)

/-- The part of the invariant that also holds in the middle of a signal. -/
structure Core (s : State) : Prop where
  queue : QueueInv s
  current : CurrentInv s
  waits : WaitInv s
  objects : ObjectInv s
  blank : ∀ t, (s.threads t).live = false → (s.threads t).view = Tcb.view {}

/-- An event that is signaled has no waiters. -/
def QuietInv (s : State) : Prop :=
  ∀ e, (s.events e).live = true → (s.events e).signaled = true → (s.events e).waiterCount = 0

structure Inv (s : State) : Prop extends Core s where
  quiet : QuietInv s

/-! ## Changes that a part does not see -/

/-- A change of a thread that a view does not show is not seen in any thread. -/
theorem view_modThread {β : Type} (g : Tcb → β) {f : Tcb → Tcb} (s : State) (t : ThreadSlot)
    (h : g (f (s.threads t)) = g (s.threads t)) (u : ThreadSlot) :
    g ((s.modThread t f).threads u) = g (s.threads u) := by
  by_cases hu : u = t
  · subst hu
    simpa using h
  · simp [hu]

theorem view_modEvent {β : Type} (g : Waitable → β) {f : Waitable → Waitable} (s : State)
    (e : EventSlot) (h : g (f (s.events e)) = g (s.events e)) (d : EventSlot) :
    g ((s.modEvent e f).events d) = g (s.events d) := by
  by_cases hd : d = e
  · subst hd
    simpa using h
  · simp [hd]

theorem Tcb.queueView_eq {x y : Tcb} (h : x.queueView = y.queueView) :
    (x.live = true ∧ x.state = .runnable ↔ y.live = true ∧ y.state = .runnable) ∧
    x.runnableQueued = y.runnableQueued := by
  simp only [Tcb.queueView, Prod.mk.injEq] at h
  refine ⟨?_, h.2⟩
  have h1 := congrArg (· = true) h.1
  simpa using h1

theorem QueueUpTo.congr {s s' : State} {x : Option ThreadSlot} {l : List ThreadSlot}
    (h : QueueUpTo s x l) (hq : s'.runnableQueue = s.runnableQueue)
    (hc : s'.runnableCount = s.runnableCount) (hr : s'.queueRefusals = s.queueRefusals)
    (ht : ∀ t, (s'.threads t).queueView = (s.threads t).queueView) : QueueUpTo s' x l := by
  refine ⟨by rw [hq, hc]; exact h.holds, h.nodup, ?_, h.not_mem, ?_, by rw [hr]; exact h.never_full⟩
  · intro t hx
    rw [(Tcb.queueView_eq (ht t)).1]
    exact h.mem_iff t hx
  · intro t
    rw [(Tcb.queueView_eq (ht t)).2]
    exact h.flag t

theorem QueueInv.congr {s s' : State} (h : QueueInv s) (hq : s'.runnableQueue = s.runnableQueue)
    (hc : s'.runnableCount = s.runnableCount) (hr : s'.queueRefusals = s.queueRefusals)
    (ht : ∀ t, (s'.threads t).queueView = (s.threads t).queueView) : QueueInv s' := by
  obtain ⟨l, hl⟩ := h
  exact ⟨l, hl.congr hq hc hr ht⟩

theorem Tcb.bootView_eq {x y : Tcb} (h : x.bootView = y.bootView) :
    x.live = y.live ∧ x.isBootThread = y.isBootThread ∧
    (y.isBootThread = true → y.stackBase = 0 → x.stackBase = 0) := by
  simp only [Tcb.bootView, Prod.mk.injEq] at h
  refine ⟨h.1, h.2.1, ?_⟩
  intro hb hs
  have h3 := h.2.2
  rw [h.2.1, hb, hs] at h3
  simpa using h3

/-- A thread keeps its state, or it is not the current thread and it does not run
afterwards. Only a worker comes or goes. -/
theorem CurrentInv.congr {s s' : State} (h : CurrentInv s) (ha : s'.active = s.active)
    (hi : s'.installed = s.installed) (hc : s'.current = s.current)
    (hb : s'.bootThread = s.bootThread)
    (hstate : ∀ t, (s'.threads t).state = (s.threads t).state ∨
      (s.current ≠ some t ∧ (s'.threads t).state ≠ .running))
    (hview : ∀ t, (s'.threads t).bootView = (s.threads t).bootView ∨
      (s.installed = true ∧ s.current ≠ some t ∧ t ≠ 0 ∧ (s'.threads t).isBootThread = false ∧
        (s'.threads t).state ≠ .running)) : CurrentInv s' := by
  refine ⟨?_, ?_, ?_, ?_, ?_, ?_⟩
  · rw [ha, hi]
    exact h.active
  · rw [hi, hb]
    intro hin
    obtain ⟨h1, h2, h3⟩ := h.boot hin
    rcases hview 0 with hv | ⟨_, _, hne, _⟩
    · obtain ⟨hl, hbt, _⟩ := Tcb.bootView_eq hv
      exact ⟨h1, by rw [hl]; exact h2, by rw [hbt]; exact h3⟩
    · exact absurd rfl hne
  · intro t hbt
    rcases hview t with hv | ⟨_, _, _, hno, _⟩
    · obtain ⟨_, hsame, hstack⟩ := Tcb.bootView_eq hv
      rw [hsame] at hbt
      obtain ⟨h1, h2⟩ := h.boot_slot t hbt
      exact ⟨h1, hstack hbt h2⟩
    · rw [hbt] at hno
      cases hno
  · rw [hi, hc]
    intro hin
    obtain ⟨c, hcur, hl, hs⟩ := h.current hin
    rcases hview c with hv | ⟨_, hne, _⟩
    · rcases hstate c with hs' | ⟨hne, _⟩
      · exact ⟨c, hcur, by rw [(Tcb.bootView_eq hv).1]; exact hl, by rw [hs']; exact hs⟩
      · exact absurd hcur hne
    · exact absurd hcur hne
  · intro t hl hs
    rw [hc]
    rcases hview t with hv | ⟨_, _, _, _, hno⟩
    · rcases hstate t with hs' | ⟨_, hno⟩
      · exact h.running t (by rw [← (Tcb.bootView_eq hv).1]; exact hl) (by rw [← hs']; exact hs)
      · exact absurd hs hno
    · exact absurd hs hno
  · rw [hi]
    intro hin t
    rcases hview t with hv | ⟨hin', _⟩
    · rw [(Tcb.bootView_eq hv).1]
      exact h.vacant hin t
    · rw [hin] at hin'
      cases hin'

/-- A thread of `s'` that holds a record held it in `s` in the same way. -/
theorem Tcb.waitView_eq {x y : Tcb} (h : x.waitView = y.waitView) :
    (x.live = true ∧ x.state = .blocked ↔ y.live = true ∧ y.state = .blocked) ∧
    x.waitRecord = y.waitRecord ∧ (y.waitRecord ≠ none → x.blockedResult = y.blockedResult ∧
      x.live = y.live ∧ (x.state = .blocked ↔ y.state = .blocked)) := by
  simp only [Tcb.waitView, Prod.mk.injEq] at h
  have h1 := congrArg (· = true) h.1
  refine ⟨by simpa using h1, ?_⟩
  have h2 := h.2
  cases hx : x.waitRecord <;> cases hy : y.waitRecord <;> simp_all

/-- A thread keeps what the rules about waits read, or it lets go of a record that its
wait does not need any more. -/
theorem WaitInv.congr {s s' : State} (h : WaitInv s) (hr : s'.waitRecords = s.waitRecords)
    (he : ∀ e, (s'.events e).waiters = (s.events e).waiters ∧
      (s'.events e).waiterCount = (s.events e).waiterCount)
    (hn : s'.activeWaitCount = s.activeWaitCount)
    (ht : ∀ t, (s'.threads t).waitView = (s.threads t).waitView ∨
      ((s'.threads t).waitView = (false, none) ∧ (s.threads t).waitView.1 = false)) :
    WaitInv s' := by
  have hp : ∀ r, Pending s' r ↔ Pending s r := fun r => by simp only [Pending, hr]
  have he1 : ∀ e, (s'.events e).waiters = (s.events e).waiters := fun e => (he e).1
  have he2 : ∀ e, (s'.events e).waiterCount = (s.events e).waiterCount := fun e => (he e).2
  have hheld : ∀ t r, (s'.threads t).waitRecord = some r →
      (s'.threads t).waitView = (s.threads t).waitView := by
    intro t r htr
    rcases ht t with hv | ⟨hv, _⟩
    · exact hv
    · simp [Tcb.waitView, htr] at hv
  refine ⟨?_, ?_, ?_, ?_, ?_, ?_, ?_, ?_, ?_, ?_⟩
  · rw [hr]; exact h.blank
  · rw [hr]; exact h.active
  · intro r hpr
    rw [hp] at hpr
    obtain ⟨t, e, h1, h2, h3, h4, h5, h6, h7⟩ := h.pending r hpr
    have hsame : (s'.threads t).waitView = (s.threads t).waitView := by
      rcases ht t with hv | ⟨_, hv⟩
      · exact hv
      · simp [Tcb.waitView, h4, h5] at hv
    obtain ⟨hb, hw, _⟩ := Tcb.waitView_eq hsame
    obtain ⟨hl', hs'⟩ := hb.mpr ⟨h4, h5⟩
    rw [hr]
    exact ⟨t, e, h1, h2, h3, hl', hs', by rw [hw]; exact h6, by rw [he1]; exact h7⟩
  · rw [hr]; exact h.unlinked
  · simp only [hp, hr, he1]; exact h.listed
  · simp only [he1, he2]; exact h.lists
  · intro t hl hs
    have hsame : (s'.threads t).waitView = (s.threads t).waitView := by
      rcases ht t with hv | ⟨hv, _⟩
      · exact hv
      · simp [Tcb.waitView, hl, hs] at hv
    obtain ⟨hb, hw, _⟩ := Tcb.waitView_eq hsame
    obtain ⟨hl', hs'⟩ := hb.mp ⟨hl, hs⟩
    simp only [hw, hp]
    exact h.blocked t hl' hs'
  · intro t r htr
    obtain ⟨_, hw, hrest⟩ := Tcb.waitView_eq (hheld t r htr)
    rw [hw] at htr
    rw [hr, (hrest (by simp [htr])).2.1]
    exact h.owner t r htr
  · intro t r htr hc
    obtain ⟨_, hw, hrest⟩ := Tcb.waitView_eq (hheld t r htr)
    rw [hw] at htr
    obtain ⟨hb, _, hs⟩ := hrest (by simp [htr])
    rw [hr] at hc ⊢
    rw [hb, ne_eq, hs]
    exact h.result t r htr hc
  · rw [hn, hr]; exact h.count

theorem pins_congr {s s' : State} (hr : ∀ r, (s'.waitRecords r).pinView = (s.waitRecords r).pinView)
    (o : ObjectSlot) : pins s' o = pins s o := by
  simp only [WaitRecord.pinView, Prod.mk.injEq] at hr
  unfold pins
  congr 1
  apply Finset.filter_congr
  intro r _
  rw [(hr r).1, (hr r).2.1]

theorem Waitable.handleView_eq {x y : Waitable} (h : x.handleView = y.handleView) :
    x.live = y.live ∧
    (y.live = true → x.objectSlot = y.objectSlot ∧ x.generation = y.generation) := by
  unfold Waitable.handleView at h
  cases hx : x.live <;> cases hy : y.live <;> simp_all

/-- What the object table keeps of an object: all of it while it is live. -/
def Object.view (x : Object) : Option Object := if x.live then some x else none

theorem Object.view_eq {x y : Object} (h : x.view = y.view) :
    x.live = y.live ∧ (y.live = true → x = y) := by
  unfold Object.view at h
  cases hx : x.live <;> cases hy : y.live <;> simp_all

theorem ObjectInv.congr {s s' : State} (h : ObjectInv s)
    (ho : ∀ o, (s'.objects o).view = (s.objects o).view)
    (hn : s'.notification = s.notification) (hm : s'.standardStream = s.standardStream)
    (ht : ∀ t, (s'.threads t).handleView = (s.threads t).handleView)
    (he : ∀ e, (s'.events e).handleView = (s.events e).handleView)
    (hr : ∀ r, (s'.waitRecords r).pinView = (s.waitRecords r).pinView) : ObjectInv s' := by
  have hpins := pins_congr hr
  simp only [Tcb.handleView, WaitRecord.pinView, Prod.mk.injEq] at ht hr
  have hlive : ∀ o, (s'.objects o).live = (s.objects o).live := fun o => (Object.view_eq (ho o)).1
  have hobj : ∀ o, (s.objects o).live = true → s'.objects o = s.objects o :=
    fun o => (Object.view_eq (ho o)).2
  have hst : ∀ o type target, StandsFor s' o type target ↔ StandsFor s o type target := by
    intro o type target
    unfold StandsFor
    rw [hlive]
    constructor
    · rintro ⟨h1, h2⟩
      exact ⟨h1, by rw [← hobj o h1]; exact h2⟩
    · rintro ⟨h1, h2⟩
      exact ⟨h1, by rw [hobj o h1]; exact h2⟩
  refine ⟨?_, ?_, ?_, ?_, ?_, ?_, ?_, ?_, ?_⟩
  · intro o hl
    rw [hlive] at hl
    rw [hobj o hl]
    exact h.slot o hl
  · intro o hl
    rw [hlive] at hl
    have hfit := h.target o hl
    unfold TargetFits at hfit ⊢
    simp only [hobj o hl, hn, hm, fun t => (ht t).1, fun t => (ht t).2.1, fun t => (ht t).2.2.1,
      fun t => (ht t).2.2.2]
    cases htype : (s.objects o).type with
    | event =>
      simp only [htype] at hfit ⊢
      obtain ⟨e, h1, h2, h3, h4⟩ := hfit
      obtain ⟨hel, heq⟩ := Waitable.handleView_eq (he e)
      obtain ⟨hes, heg⟩ := heq h2
      exact ⟨e, h1, by rw [hel]; exact h2, by rw [hes]; exact h3, by rw [heg]; exact h4⟩
    | free => simp only [htype] at hfit
    | thread => simpa only [htype] using hfit
    | memoryResourceNotification => simpa only [htype] using hfit
    | standardStream => simpa only [htype] using hfit
  · simp only [hst, fun t => (ht t).1, fun t => (ht t).2.1]; exact h.thread
  · intro e hl
    obtain ⟨hel, heq⟩ := Waitable.handleView_eq (he e)
    rw [hel] at hl
    rw [hst, (heq hl).1]
    exact h.event e hl
  · rw [hn]; simp only [hst]; exact h.notification
  · rw [hn]; exact h.notification_quiet
  · rw [hm]; simp only [hst]; exact h.stream
  · intro r hv
    rw [(hr r).1] at hv
    obtain ⟨o, e, h1, h2, h3, h4, h5⟩ := h.record r hv
    refine ⟨o, e, by rw [(hr r).2.1]; exact h1, by rw [(hr r).2.2.1]; exact h2,
      (hst _ _ _).mpr h3, by rw [(hr r).2.2.2.1]; exact h4, ?_⟩
    rw [(hr r).2.2.2.2, hobj o h3.1]
    exact h5
  · intro o hl
    rw [hlive] at hl
    rw [hobj o hl, hpins]
    exact h.refs o hl

/-- All that the invariant reads of an event. -/
def Waitable.view (x : Waitable) : (Nat → Option RecordSlot) × Nat × Option Waitable :=
  (x.waiters, x.waiterCount, if x.live then some x else none)

theorem Waitable.view_eq {x y : Waitable} (h : x.view = y.view) :
    x.waiters = y.waiters ∧ x.waiterCount = y.waiterCount ∧ x.live = y.live ∧
    (y.live = true → x = y) := by
  simp only [Waitable.view, Prod.mk.injEq] at h
  refine ⟨h.1, h.2.1, ?_⟩
  have h2 := h.2.2
  cases hx : x.live <;> cases hy : y.live <;> simp_all

/-- The state `s'` differs from `s` only in what the invariant does not read. -/
structure Unseen (s s' : State) : Prop where
  installed : s'.installed = s.installed
  active : s'.active = s.active
  current : s'.current = s.current
  bootThread : s'.bootThread = s.bootThread
  runnableQueue : s'.runnableQueue = s.runnableQueue
  runnableCount : s'.runnableCount = s.runnableCount
  queueRefusals : s'.queueRefusals = s.queueRefusals
  waitRecords : s'.waitRecords = s.waitRecords
  events : ∀ e, (s'.events e).view = (s.events e).view
  activeWaitCount : s'.activeWaitCount = s.activeWaitCount
  objects : ∀ o, (s'.objects o).view = (s.objects o).view
  notification : s'.notification = s.notification
  standardStream : s'.standardStream = s.standardStream
  threads : ∀ t, (s'.threads t).view = (s.threads t).view

theorem Unseen.refl (s : State) : Unseen s s :=
  ⟨rfl, rfl, rfl, rfl, rfl, rfl, rfl, rfl, fun _ => rfl, rfl, fun _ => rfl, rfl, rfl, fun _ => rfl⟩

theorem Unseen.trans {s s' s'' : State} (h : Unseen s s') (h' : Unseen s' s'') : Unseen s s'' :=
  ⟨h'.installed.trans h.installed, h'.active.trans h.active, h'.current.trans h.current,
    h'.bootThread.trans h.bootThread, h'.runnableQueue.trans h.runnableQueue,
    h'.runnableCount.trans h.runnableCount, h'.queueRefusals.trans h.queueRefusals,
    h'.waitRecords.trans h.waitRecords, fun e => (h'.events e).trans (h.events e),
    h'.activeWaitCount.trans h.activeWaitCount, fun o => (h'.objects o).trans (h.objects o),
    h'.notification.trans h.notification, h'.standardStream.trans h.standardStream,
    fun t => (h'.threads t).trans (h.threads t)⟩

theorem Unseen.modThread (s : State) (t : ThreadSlot) {f : Tcb → Tcb}
    (h : (f (s.threads t)).view = (s.threads t).view) : Unseen s (s.modThread t f) :=
  ⟨rfl, rfl, rfl, rfl, rfl, rfl, rfl, rfl, fun _ => rfl, rfl, fun _ => rfl, rfl, rfl,
    view_modThread Tcb.view s t h⟩

theorem Unseen.modMachine (s : State) (f : Machine → Machine) : Unseen s (s.modMachine f) :=
  ⟨rfl, rfl, rfl, rfl, rfl, rfl, rfl, rfl, fun _ => rfl, rfl, fun _ => rfl, rfl, rfl, fun _ => rfl⟩

theorem Tcb.view_eq {x y : Tcb} (h : x.view = y.view) :
    x.queueView = y.queueView ∧ (x.state = y.state ∧ x.bootView = y.bootView) ∧
    x.waitView = y.waitView ∧ x.handleView = y.handleView := by
  simp only [Tcb.view, Prod.mk.injEq] at h
  obtain ⟨⟨h1, h2, h3⟩, ⟨h4, h4'⟩, h5, h6, h7, h8⟩ := h
  refine ⟨by simp only [Tcb.queueView, h1, h2, h3],
    ⟨h2, by simp only [Tcb.bootView, Prod.mk.injEq]; exact ⟨h1, h4, h4'⟩⟩, ?_,
    by simp only [Tcb.handleView, h1, h6, h7, h8]⟩
  simp only [Tcb.waitView, h1, h2, Prod.mk.injEq, true_and]
  cases hx : x.waitRecord <;> cases hy : y.waitRecord <;> simp_all

theorem Core.unseen {s s' : State} (h : Core s) (hu : Unseen s s') : Core s' := by
  have hv := fun t => Tcb.view_eq (hu.threads t)
  refine ⟨?_, ?_, ?_, ?_, ?_⟩
  · exact h.queue.congr hu.runnableQueue hu.runnableCount hu.queueRefusals fun t => (hv t).1
  · exact h.current.congr hu.active hu.installed hu.current hu.bootThread
      (fun t => Or.inl (hv t).2.1.1) fun t => Or.inl (hv t).2.1.2
  · refine h.waits.congr hu.waitRecords ?_ hu.activeWaitCount fun t => Or.inl (hv t).2.2.1
    intro e
    obtain ⟨h1, h2, _⟩ := Waitable.view_eq (hu.events e)
    exact ⟨h1, h2⟩
  · apply h.objects.congr hu.objects hu.notification hu.standardStream fun t => (hv t).2.2.2
    · intro e
      obtain ⟨_, _, hl, heq⟩ := Waitable.view_eq (hu.events e)
      unfold Waitable.handleView
      rw [hl]
      split
      · rename_i hlive
        rw [heq hlive]
      · rfl
    · intro r
      rw [hu.waitRecords]
  · intro t ht
    rw [hu.threads]
    apply h.blank
    rw [← (Tcb.bootView_eq (hv t).2.1.2).1]
    exact ht

theorem Inv.unseen {s s' : State} (h : Inv s) (hu : Unseen s s') : Inv s' := by
  refine ⟨h.toCore.unseen hu, ?_⟩
  intro e hl
  obtain ⟨_, _, hlive, heq⟩ := Waitable.view_eq (hu.events e)
  rw [hlive] at hl
  rw [heq hl]
  exact h.quiet e hl

end Gate4Harness.Scheduler
