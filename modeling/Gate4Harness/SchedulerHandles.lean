-- Handles and the objects behind them. Objects and their targets name each other,
-- a handle is decoded to the object that it was made for, and a handle whose
-- object is gone is refused. The last two have a limit: bits 47 to 32 of a handle
-- are not looked at, and the generation of a slot has only 16 bits.
import Gate4Harness.SchedulerMarks

namespace Gate4Harness.Scheduler

variable {s s' : State} {o p : ObjectSlot} {e : EventSlot} {handle : Nat}

/-! ## Objects and targets -/

/-- The live bit of the record behind a target. -/
def Target.live (s : State) : Target → Bool
  | .thread t => (s.threads t).live
  | .event e => (s.events e).live
  | .notification => s.notification.live
  | .stream => s.standardStream.live

def Target.objectSlot (s : State) : Target → ObjectSlot
  | .thread t => (s.threads t).objectSlot
  | .event e => (s.events e).objectSlot
  | .notification => s.notification.objectSlot
  | .stream => s.standardStream.objectSlot

def Target.generation (s : State) : Target → Nat
  | .thread t => (s.threads t).generation
  | .event e => (s.events e).generation
  | .notification => s.notification.generation
  | .stream => s.standardStream.generation

/-- Each live object has a live target of its type that names it, each live record is the
target of exactly one live object, and a thread has as many public handles as its object. -/
structure Correspond (s : State) : Prop where
  object : ∀ o, (s.objects o).live = true → (s.objects o).slot = o ∧
    ∃ x, (s.objects o).target = some x ∧ (s.objects o).type = x.type ∧ x.live s = true ∧
      x.objectSlot s = (s.objects o).slot ∧ x.generation s = (s.objects o).generation
  target : ∀ x : Target, x.live s = true →
    ∃! o, (s.objects o).live = true ∧ (s.objects o).target = some x
  refs : ∀ o t, (s.objects o).live = true → (s.objects o).target = some (.thread t) →
    (s.objects o).publicHandleRefs = (s.threads t).publicHandleRefs

theorem TargetFits.names (h : TargetFits s o) : ∃ x, (s.objects o).target = some x ∧
    x.live s = true ∧ x.objectSlot s = o ∧ x.generation s = (s.objects o).generation := by
  unfold TargetFits at h
  cases htype : (s.objects o).type with
  | free => simp [htype] at h
  | thread =>
    simp only [htype] at h
    obtain ⟨t, h1, h2, h3, h4, _⟩ := h
    exact ⟨.thread t, h1, h2, h3, h4⟩
  | event =>
    simp only [htype] at h
    obtain ⟨e, h1, h2, h3, h4⟩ := h
    exact ⟨.event e, h1, h2, h3, h4⟩
  | memoryResourceNotification =>
    simp only [htype] at h
    exact ⟨.notification, h⟩
  | standardStream =>
    simp only [htype] at h
    exact ⟨.stream, h⟩

theorem ObjectInv.stands (h : ObjectInv s) {x : Target} (hx : x.live s = true) :
    StandsFor s (x.objectSlot s) x.type x := by
  cases x with
  | thread t => exact h.thread t hx
  | event e => exact h.event e hx
  | notification => exact h.notification hx
  | stream => exact h.stream hx

theorem objects_and_targets_correspond (h : Reachable s) : Correspond s := by
  have hinv := (reachableBy_inv h).objects
  have hobject : ∀ o, (s.objects o).live = true → ∃ x, (s.objects o).target = some x ∧
      x.live s = true ∧ x.objectSlot s = o ∧ x.generation s = (s.objects o).generation :=
    fun o ho => (hinv.target o ho).names
  refine ⟨?_, ?_, ?_⟩
  · intro o ho
    have hslot := (hinv.slot o ho).1
    obtain ⟨x, hx, hlive, hs, hg⟩ := hobject o ho
    exact ⟨hslot, x, hx, (hinv.target o ho).type_eq hx, hlive, by rw [hslot]; exact hs, hg⟩
  · intro x hx
    obtain ⟨h1, _, h2⟩ := hinv.stands hx
    refine ⟨x.objectSlot s, ⟨h1, h2⟩, ?_⟩
    rintro o ⟨ho, hox⟩
    obtain ⟨y, hy, _, hs, _⟩ := hobject o ho
    rw [hox] at hy
    cases hy
    exact hs.symm
  · intro o t ho ht
    have htype := (hinv.target o ho).type_eq ht
    have hfit := hinv.target o ho
    unfold TargetFits at hfit
    rw [htype] at hfit
    obtain ⟨u, hu, _, _, _, hrefs⟩ := hfit
    rw [ht] at hu
    cases hu
    exact hrefs.symm

/-- A run that makes an object of each type and lets one of them go. -/
def sampleObjects : List Op :=
  [.configureStackVm .this true true, .createEvent .this 1 0 true, sampleCreate 0x100000,
    .createMemoryResourceNotification .this 0 true, .installStandardStream .this 2 1 1,
    .closeHandle sampleEvent true, .tryDestroyEvent sampleEvent]

def objectsState : State := Runs.run step sampleStart sampleObjects

theorem objectsState_reached : Reachable objectsState :=
  Runs.Reach.run (.start sampleStart_started) sampleObjects fun _ _ _ => trivial

theorem sampleObjects_and_targets_correspond :
    Correspond objectsState ∧ (objectsState.objects 4).target = some .stream ∧
    (objectsState.objects 1).live = false ∧ (objectsState.objects 2).live = true :=
  ⟨objects_and_targets_correspond objectsState_reached, by decide +kernel, by decide +kernel,
    by decide +kernel⟩

/-! ## The bits of a handle -/

theorem ObjectType.code_lt (type : ObjectType) : type.code < 5 := by
  cases type <;> decide

theorem ObjectType.code_inj {a b : ObjectType} (h : a.code = b.code) : a = b := by
  cases a <;> cases b <;> first | rfl | cases h

theorem makeHandle_eq {generation : Nat} (hg : generation < 2 ^ 16) (type : ObjectType)
    (o : ObjectSlot) : makeHandle type o generation =
      (0xA7 * 2 ^ 8 + type.code) * 2 ^ 48 + (generation * 2 ^ 16 + (o.val + 1)) := by
  have ho : o.val < 16 := o.isLt
  have hc := type.code_lt
  have h1 : generation <<< 16 ||| (o.val + 1) = generation * 2 ^ 16 + (o.val + 1) := by
    rw [← Nat.shiftLeft_add_eq_or_of_lt (by omega), Nat.shiftLeft_eq]
  have h2 : ∀ n, n <<< 48 ||| (generation * 2 ^ 16 + (o.val + 1)) =
      n * 2 ^ 48 + (generation * 2 ^ 16 + (o.val + 1)) := by
    intro n
    rw [← Nat.shiftLeft_add_eq_or_of_lt (by omega), Nat.shiftLeft_eq]
  have h3 : handleMagic <<< 56 ||| type.code <<< 48 = (0xA7 * 2 ^ 8 + type.code) <<< 48 := by
    cases type <;> decide
  unfold makeHandle
  rw [h3, Nat.or_assoc, h1, h2]

/-- Bits 47 to 32 of a handle: the upper half of the generation field of the documentation,
which `decode_handle` drops. -/
def droppedBits (handle : Nat) : Nat := handle / 2 ^ 32 % 2 ^ 16

/-- The handle with those bits cleared. -/
def clearDropped (handle : Nat) : Nat := handle - droppedBits handle * 2 ^ 32

theorem clearDropped_of_zero (h : droppedBits handle = 0) : clearDropped handle = handle := by
  simp [clearDropped, h]

theorem droppedBits_makeHandle {generation : Nat} (hg : generation < 2 ^ 16) (type : ObjectType)
    (o : ObjectSlot) : droppedBits (makeHandle type o generation) = 0 := by
  have ho : o.val < 16 := o.isLt
  rw [makeHandle_eq hg]
  unfold droppedBits
  omega

theorem makeHandle_inj {a b : ObjectType} {g k : Nat} (hg : g < 2 ^ 16) (hk : k < 2 ^ 16)
    (h : makeHandle a o g = makeHandle b p k) : a = b ∧ o = p ∧ g = k := by
  have ho : o.val < 16 := o.isLt
  have hp : p.val < 16 := p.isLt
  rw [makeHandle_eq hg, makeHandle_eq hk] at h
  refine ⟨ObjectType.code_inj (by omega), Fin.ext (by omega), by omega⟩

/-- A handle is decoded as the one that `make_handle` built, up to the dropped bits. -/
theorem decodeHandle_iff (hw : handle < 2 ^ 64) (type : ObjectType) (g : Nat) :
    decodeHandle handle type = some (o, g) ↔
      ValidGeneration g ∧ clearDropped handle = makeHandle type o g := by
  have ho : o.val < 16 := o.isLt
  have hc := type.code_lt
  unfold decodeHandle
  simp only [Nat.shiftRight_eq_div_pow, handleMagic]
  constructor
  · intro h
    split at h
    · cases h
    · rename_i hfields
      split at h
      · cases h
      · rename_i hslot
        simp only [Option.some.injEq, Prod.mk.injEq] at h
        obtain ⟨h1, h2⟩ := h
        have h1 := congrArg Fin.val h1
        simp only at h1
        have hg : g < 2 ^ 16 := by omega
        refine ⟨⟨by omega, hg⟩, ?_⟩
        rw [makeHandle_eq hg]
        unfold clearDropped droppedBits
        omega
  · rintro ⟨⟨h0, hg⟩, h⟩
    rw [makeHandle_eq hg] at h
    unfold clearDropped droppedBits at h
    have h1 : handle / 2 ^ 56 % 2 ^ 8 = 0xA7 := by omega
    have h2 : handle / 2 ^ 48 % 2 ^ 8 = type.code := by omega
    have h3 : handle / 2 ^ 16 % 2 ^ 16 = g := by omega
    have h4 : handle % 2 ^ 16 = o.val + 1 := by omega
    simp only [h1, h2, h3, h4]
    rw [if_neg (by simp [h0]), dif_neg (by simp only [maxObjects]; omega)]
    simp

/-! ## Lookup -/

/-- The handle that `make_handle` builds for the object in the slot `o`. -/
def handleOf (s : State) (o : ObjectSlot) : Nat :=
  makeHandle (s.objects o).type o (s.objects o).generation

theorem lookupObject_iff (hw : handle < 2 ^ 64) (type : ObjectType) :
    lookupObject s handle type = some o ↔ s.installed = true ∧ (s.objects o).live = true ∧
      (s.objects o).type = type ∧ ValidGeneration (s.objects o).generation ∧
      clearDropped handle = handleOf s o := by
  unfold lookupObject handleOf
  by_cases hi : s.installed = true
  · rw [if_neg (by simp [hi])]
    constructor
    · intro h
      cases hd : decodeHandle handle type with
      | none => simp [hd] at h
      | some pair =>
        obtain ⟨slot, generation⟩ := pair
        simp only [hd] at h
        split at h
        · cases h
        · rename_i hg
          cases h
          simp only [not_or, Decidable.not_not] at hg
          obtain ⟨hl, htype, hgen⟩ := hg
          obtain ⟨hv, hclear⟩ := (decodeHandle_iff hw type generation).mp hd
          exact ⟨hi, hl, htype, by rw [hgen]; exact hv, by rw [htype, hgen]; exact hclear⟩
    · rintro ⟨_, hl, rfl, hv, hclear⟩
      rw [(decodeHandle_iff hw _ _).mpr ⟨hv, hclear⟩]
      simp [hl]
  · simp [hi]

theorem handleType_iff (type : ObjectType) :
    handleType handle = some type ↔ type ≠ .free ∧ handle / 2 ^ 48 % 2 ^ 8 = type.code := by
  unfold handleType
  rw [Nat.shiftRight_eq_div_pow]
  generalize handle / 2 ^ 48 % 2 ^ 8 = code
  constructor
  · intro h
    split at h <;> cases h <;> exact ⟨by decide, rfl⟩
  · rintro ⟨hfree, rfl⟩
    cases type with
    | free => exact absurd rfl hfree
    | thread => rfl
    | event => rfl
    | memoryResourceNotification => rfl
    | standardStream => rfl

theorem handleType_of_clear {type : ObjectType} {g : Nat} (hg : g < 2 ^ 16)
    (hfree : type ≠ .free) (h : clearDropped handle = makeHandle type o g) :
    handleType handle = some type := by
  have hc := type.code_lt
  have ho : o.val < 16 := o.isLt
  rw [handleType_iff]
  rw [makeHandle_eq hg] at h
  unfold clearDropped droppedBits at h
  exact ⟨hfree, by omega⟩

theorem TargetFits.not_free (h : TargetFits s o) : (s.objects o).type ≠ .free := by
  intro htype
  unfold TargetFits at h
  simp [htype] at h

/-- A handle finds an object exactly when it is the handle of the object, up to the bits that
the decoding drops. -/
theorem objectFromHandle_iff (h : ObjectInv s) (hw : handle < 2 ^ 64) :
    objectFromHandle s handle = some o ↔ s.installed = true ∧ (s.objects o).live = true ∧
      clearDropped handle = handleOf s o := by
  unfold objectFromHandle
  constructor
  · intro ho
    split at ho
    · cases ho
    · obtain ⟨hi, hl, _, _, hclear⟩ := (lookupObject_iff hw _).mp ho
      exact ⟨hi, hl, hclear⟩
  · rintro ⟨hi, hl, hclear⟩
    have hv := (h.slot o hl).2.1
    rw [handleType_of_clear hv.2 (h.target o hl).not_free hclear]
    exact (lookupObject_iff hw _).mpr ⟨hi, hl, rfl, hv, hclear⟩

/-! ## The handles of a run -/

/-- Notes on the handles of a run: the handle that the object of each slot was issued with,
while it is live, and the handles whose objects have been released. -/
structure Issued where
  held : ObjectSlot → Option Nat
  stale : List Nat

def firstHandles (s : State) : Issued where
  held o := if (s.objects o).live then some (handleOf s o) else none
  stale := []

/-- An object that comes to life gets its handle then, and an object that goes leaves a
stale handle behind. -/
def noteHandles (s : State) (op : Op) (n : Issued) : Issued where
  held o :=
    if ((step s op).objects o).live then
      if (s.objects o).live then n.held o else some (handleOf (step s op) o)
    else none
  stale := n.stale ++ (List.finRange maxObjects).filterMap fun o =>
    if (s.objects o).live && !((step s op).objects o).live then n.held o else none

/-- The handle that a creation returns to its caller. -/
def returnedHandle (s : State) : Op → Option Nat
  | .createEvent p m i out => (createEvent s p m i out).1
  | .createMemoryResourceNotification p n out => (createMemoryResourceNotification s p n out).1
  | .createSuspendedThread p e a out thread w =>
    let reply := (createSuspendedThread s p e a out thread w).1
    if reply.ok then some reply.handle else none
  | _ => none

theorem noteHandles_new {op : Op} {n : Issued} {type : ObjectType} {g : Nat} {x : Target}
    (ho : (s.objects o).live = false)
    (h : (step s op).objects o = newObject type o g x) :
    (noteHandles s op n).held o = some (makeHandle type o g) := by
  simp [noteHandles, handleOf, ho, h, newObject]

/-- The notes hold the handles that the callers got. -/
theorem returned_handle_is_noted (h : Inv s) {op : Op} (hr : returnedHandle s op = some handle)
    (n : Issued) : ∃ o, (s.objects o).live = false ∧ (noteHandles s op n).held o = some handle := by
  cases op with
  | createEvent p m i out =>
    rcases createEvent_cases h p m i out with ⟨hnone, _⟩ | ⟨e, o, g, _, _, ho, _, heq⟩
    · simp [returnedHandle, hnone] at hr
    · simp only [returnedHandle, heq, Option.some.injEq] at hr
      rw [← hr]
      refine ⟨o, ho, noteHandles_new ho (x := .event e) ?_⟩
      simp [step, heq, withEvent]
  | createMemoryResourceNotification p m out =>
    simp only [returnedHandle] at hr
    unfold createMemoryResourceNotification at hr
    split at hr
    · cases hr
    · rename_i hg
      split at hr
      · cases hr
      · rename_i hl
        rcases allocateObject_cases s .memoryResourceNotification .notification with
          heq | ⟨o, g, _, ho, _, heq⟩
        · simp [heq] at hr
        · simp only [heq, Option.some.injEq] at hr
          rw [← hr]
          refine ⟨o, ho, noteHandles_new ho (x := .notification) ?_⟩
          simp only [step, createMemoryResourceNotification, if_neg hg, if_neg hl, heq]
          simp
  | createSuspendedThread p en a out thread w =>
    rcases createSuspendedThread_cases h p en a out thread w with
      ⟨hnone, _⟩ | ⟨t, o, x, _, _, ho, hfresh, hreply, hu⟩
    · simp [returnedHandle, hnone] at hr
    · simp only [returnedHandle, hreply, if_true, Option.some.injEq] at hr
      rw [← hr]
      refine ⟨o, ho, noteHandles_new ho (x := .thread t) ?_⟩
      have hnew := (Object.view_eq (hu.objects o)).2 (by simp [withThread, newObject])
      simpa [step, withThread] using hnew
  | _ => cases hr

/-- The states of a run with the handles issued on the way. -/
def HandleRun (ok : State → Op → Prop) : State → Issued → Prop :=
  Runs.ReachNoting Started step ok firstHandles noteHandles

/-- No object is live when no scheduler is installed. -/
def Vacant (s : State) : Prop := s.installed = false → ∀ o, (s.objects o).live = false

theorem step_vacant (h : Inv s) (hv : Vacant s) (op : Op) : Vacant (step s op) := by
  intro hi o
  rcases step_marks h op with hf | ⟨_, _, hissue⟩ | hgone
  · rw [hf.installed] at hi
    have hdead := hv hi o
    by_contra hl
    rw [((hf.objects o).2 (by simpa using hl)).1] at hdead
    cases hdead
  · rw [hissue.installed] at hi
    cases hi
  · exact (hgone.objects o).1

theorem started_vacant (h : Started s) : Vacant s := by
  intro hi
  have hrun := (started_running h).1
  rw [hi] at hrun
  cases hrun

/-- An object that stays live keeps its handle. -/
theorem MarkEffect.handleOf_eq {op : Op} (heffect : MarkEffect s op s')
    (hl : (s.objects o).live = true) (hl' : (s'.objects o).live = true) :
    handleOf s' o = handleOf s o := by
  unfold handleOf
  rcases heffect with hf | ⟨q, _, hissue⟩ | hgone
  · rw [(hf.objects o).1, ((hf.objects o).2 hl').2]
  · have hne : o ≠ q := by
      rintro rfl
      rw [freeObject?_live hissue.free] at hl
      cases hl
    rw [hissue.others o hne]
  · rw [(hgone.objects o).1] at hl'
    cases hl'

/-- The notes name the handle of each live object, and of no other. -/
def HeldRight (s : State) (n : Issued) : Prop :=
  ∀ o, n.held o = if (s.objects o).live then some (handleOf s o) else none

theorem step_heldRight {n : Issued} (h : Inv s) (hn : HeldRight s n) (op : Op) :
    HeldRight (step s op) (noteHandles s op n) := by
  intro o
  simp only [noteHandles]
  split
  · rename_i hl'
    split
    · rename_i hl
      rw [hn o, if_pos hl, (step_marks h op).handleOf_eq hl hl']
    · rfl
  · rfl

theorem handleRun_facts {ok : State → Op → Prop} {n : Issued} (h : HandleRun ok s n) :
    Inv s ∧ Vacant s ∧ HeldRight s n := by
  have hreach : ReachableBy ok s := Runs.ReachNoting.reach h
  refine ⟨reachableBy_inv hreach, ?_, ?_⟩
  · exact Runs.Reach.invariant hreach (fun _ => started_vacant) fun _ op hr hv _ =>
      step_vacant (reachableBy_inv hr) hv op
  · exact Runs.ReachNoting.invariant (P := HeldRight) h (fun s _ o => rfl)
      fun s n op hr hn _ => step_heldRight (reachableBy_inv hr) hn op

/-! ## Decoding -/

/-- A handle finds the object that it was issued for and no other. -/
def DecodesRight (s : State) (n : Issued) (handle : Nat) : Prop :=
  ∀ o, objectFromHandle s handle = some o ↔
    (s.objects o).live = true ∧ n.held o = some handle

theorem decodes_right_iff_no_bits_are_dropped {n : Issued} (h : HandleRun (fun _ _ => True) s n)
    (hw : handle < 2 ^ 64) : DecodesRight s n handle ↔
      droppedBits handle = 0 ∨ ∀ o, n.held o ≠ some (clearDropped handle) := by
  obtain ⟨hinv, hvacant, hheld⟩ := handleRun_facts h
  have hfind : ∀ o, objectFromHandle s handle = some o ↔
      (s.objects o).live = true ∧ clearDropped handle = handleOf s o := by
    intro o
    rw [objectFromHandle_iff hinv.objects hw]
    refine ⟨fun h => ⟨h.2.1, h.2.2⟩, fun h => ⟨?_, h.1, h.2⟩⟩
    cases hi : s.installed with
    | true => rfl
    | false =>
      have := hvacant hi o
      rw [h.1] at this
      cases this
  have hissued : ∀ o k, n.held o = some k ↔ (s.objects o).live = true ∧ k = handleOf s o := by
    intro o k
    rw [hheld o]
    split
    · rename_i hl
      simp [hl, eq_comm]
    · rename_i hl
      simp [hl]
  have hclean : ∀ o, (s.objects o).live = true → droppedBits (handleOf s o) = 0 := fun o hl =>
    droppedBits_makeHandle (hinv.objects.slot o hl).2.1.2 _ _
  constructor
  · intro hright
    by_cases hz : droppedBits handle = 0
    · exact Or.inl hz
    · refine Or.inr ?_
      intro o ho
      obtain ⟨hl, hclear⟩ := (hissued o _).mp ho
      obtain ⟨_, hsame⟩ := (hright o).mp ((hfind o).mpr ⟨hl, hclear⟩)
      obtain ⟨_, hsame⟩ := (hissued o _).mp hsame
      rw [hsame] at hz
      exact hz (hclean o hl)
  · intro hcond o
    rw [hfind o]
    constructor
    · rintro ⟨hl, hclear⟩
      rcases hcond with hz | hnone
      · rw [clearDropped_of_zero hz] at hclear
        exact ⟨hl, (hissued o _).mpr ⟨hl, hclear⟩⟩
      · exact absurd ((hissued o _).mpr ⟨hl, hclear⟩) (hnone o)
    · rintro ⟨hl, hsame⟩
      obtain ⟨_, hsame⟩ := (hissued o _).mp hsame
      refine ⟨hl, ?_⟩
      rw [hsame, clearDropped_of_zero (hclean o hl)]

/-- A run that opens one event. -/
def openedState : State := Runs.run step sampleStart [.createEvent .this 1 0 true]

def openedHandles : Issued :=
  (Runs.run (Runs.noting step noteHandles) (sampleStart, firstHandles sampleStart)
    [.createEvent .this 1 0 true]).2

theorem openedState_reached : HandleRun (fun _ _ => True) openedState openedHandles :=
  Runs.ReachNoting.run (.start ⟨sampleStart_started, rfl⟩) _ fun _ _ _ => trivial

theorem sampleEvent_decodes_right :
    DecodesRight openedState openedHandles sampleEvent ∧
    objectFromHandle openedState sampleEvent = some 1 :=
  ⟨(decodes_right_iff_no_bits_are_dropped openedState_reached (by decide)).mpr
    (Or.inl (by decide)), by decide +kernel⟩

/-- The handle of the event with bit 32 set, which `make_handle` never returned, finds the
event too. -/
theorem a_handle_with_dropped_bits_is_accepted :
    HandleRun (fun _ _ => True) openedState openedHandles ∧ sampleEvent + 2 ^ 32 < 2 ^ 64 ∧
    objectFromHandle openedState (sampleEvent + 2 ^ 32) = some 1 ∧
    openedHandles.held 1 = some sampleEvent ∧
    ¬ DecodesRight openedState openedHandles (sampleEvent + 2 ^ 32) := by
  have hfound : objectFromHandle openedState (sampleEvent + 2 ^ 32) = some 1 := by decide +kernel
  have hheld : openedHandles.held 1 = some sampleEvent := by decide +kernel
  refine ⟨openedState_reached, by decide, hfound, hheld, ?_⟩
  intro hright
  have hsame := ((hright 1).mp hfound).2
  rw [hheld] at hsame
  cases hsame

/-! ## Stale handles -/

/-- Every call that takes a handle refuses this one. -/
structure Rejects (s : State) (handle : Nat) : Prop where
  lookup : ∀ type, lookupObject s handle type = none
  close : ∀ unregistered, (closeHandle s handle unregistered).1 = false
  signal : (signalEvent s handle).1 = false
  reset : (resetEvent s handle).1 = false
  resume : (resumeThread s handle).1.ok = false
  wait : ∀ planOut, (prepareWaitRecord s handle planOut).1.result = .failure

theorem lookupObject_none (hmiss : ∀ type o g, decodeHandle handle type = some (o, g) →
    (s.objects o).live = true → (s.objects o).generation ≠ g) (type : ObjectType) :
    lookupObject s handle type = none := by
  unfold lookupObject
  split
  · rfl
  · split
    · rfl
    · rename_i o g hd
      by_cases hl : (s.objects o).live = true
      · rw [if_pos (Or.inr (Or.inr (hmiss type o g hd hl)))]
      · rw [if_pos (Or.inl hl)]

theorem Rejects.of_mismatch (hmiss : ∀ type o g, decodeHandle handle type = some (o, g) →
    (s.objects o).live = true → (s.objects o).generation ≠ g) : Rejects s handle := by
  have hlookup := lookupObject_none hmiss
  have hevent : eventFromHandle s handle = none := by simp [eventFromHandle, hlookup]
  have hobject : ∀ s1, s1.table = s.table → objectFromHandle s1 handle = none := by
    intro s1 h1
    simp only [State.table, Prod.mk.injEq] at h1
    have hlookup1 : ∀ type, lookupObject s1 handle type = none :=
      lookupObject_none (by rw [h1.1]; exact hmiss)
    unfold objectFromHandle
    split
    · rfl
    · exact hlookup1 _
  have hopen : ∀ s1, s1.table = s.table → validateOpenEventHandle s1 handle = none := by
    intro s1 h1
    simp only [State.table, Prod.mk.injEq] at h1
    unfold validateOpenEventHandle decodeEventIdentity
    split
    · rfl
    · rename_i o g hd
      rw [h1.1]
      by_cases hl : (s.objects o).live = true
      · rw [if_pos (Or.inr (Or.inr (Or.inl (hmiss .event o g hd hl))))]
      · rw [if_pos (Or.inl hl)]
  refine ⟨hlookup, ?_, by simp [signalEvent, hevent], by simp [resetEvent, hevent],
    by simp [resumeThread, hlookup], ?_⟩
  · intro unregistered
    unfold closeHandle
    split
    · simp [hlookup]
    · simp [hlookup]
    · rfl
  · intro planOut
    unfold prepareWaitRecord
    split
    · rfl
    · simp only
      split
      · rfl
      · split
        · rfl
        · rw [hopen (timeoutTaken s) rfl]
          simp [legacyWait, hobject (timeoutTaken s) rfl]

/-- The handle has a generation that its slot has used up. -/
def Spent (s : State) (handle : Nat) : Prop :=
  ∃ type o g, handle = makeHandle type o g ∧ g < 2 ^ 16 ∧ g ≤ (s.objects o).generation ∧
    ((s.objects o).live = true → g < (s.objects o).generation)

theorem Spent.rejects (h : Spent s handle) : Rejects s handle := by
  obtain ⟨type, o, g, rfl, hg, _, hlive⟩ := h
  apply Rejects.of_mismatch
  intro type' o' g' hd hl
  have hw : makeHandle type o g < 2 ^ 64 := by
    have hc := type.code_lt
    have ho : o.val < 16 := o.isLt
    rw [makeHandle_eq hg]
    omega
  obtain ⟨hv, hclear⟩ := (decodeHandle_iff hw type' g').mp hd
  rw [clearDropped_of_zero (droppedBits_makeHandle hg type o)] at hclear
  obtain ⟨_, rfl, rfl⟩ := makeHandle_inj hg hv.2 hclear
  exact Nat.ne_of_gt (hlive hl)

/-- The step does not create an object in a slot whose generation is the last one: there
the generation would start again at 1. -/
def NoWrap (s : State) (op : Op) : Prop :=
  asksForObject s op = true → ∀ o, freeObject? s = some o → (s.objects o).generation ≠ 0xFFFF

def GenerationsFit (s : State) : Prop := ∀ o, (s.objects o).generation < 2 ^ 16

theorem MarkEffect.generation {op : Op} (heffect : MarkEffect s op s') (hfit : GenerationsFit s)
    (hok : NoWrap s op) (o : ObjectSlot) :
    (s'.objects o).generation < 2 ^ 16 ∧
    (s.objects o).generation ≤ (s'.objects o).generation ∧
    ((s'.objects o).live = true → (s.objects o).live = false →
      (s.objects o).generation < (s'.objects o).generation) := by
  have hlt := hfit o
  rcases heffect with hf | ⟨q, hask, hissue⟩ | hgone
  · have hsame := (hf.objects o).1
    refine ⟨by omega, by omega, ?_⟩
    intro hl' hl
    rw [((hf.objects o).2 hl').1] at hl
    cases hl
  · by_cases hq : o = q
    · subst hq
      have hnext : nextGeneration (s.objects o).generation = (s.objects o).generation + 1 := by
        have hne := hok hask o hissue.free
        unfold nextGeneration
        rw [if_neg (by omega), Nat.mod_eq_of_lt (by omega)]
      have hgen := hissue.generation
      have hvalid := (nextGeneration_valid (s.objects o).generation).2
      omega
    · rw [hissue.others o hq]
      refine ⟨hlt, Nat.le_refl _, ?_⟩
      intro hl' hl
      rw [hl] at hl'
      cases hl'
  · obtain ⟨hdead, hsame⟩ := hgone.objects o
    refine ⟨by omega, by omega, ?_⟩
    intro hl'
    rw [hdead] at hl'
    cases hl'

theorem Spent.step {op : Op} (heffect : MarkEffect s op s') (hfit : GenerationsFit s)
    (hok : NoWrap s op) (h : Spent s handle) : Spent s' handle := by
  obtain ⟨type, o, g, hmake, hg, hle, hlive⟩ := h
  obtain ⟨_, hmono, hnew⟩ := heffect.generation hfit hok o
  refine ⟨type, o, g, hmake, hg, by omega, ?_⟩
  intro hl'
  cases hl : (s.objects o).live with
  | true =>
    have := hlive hl
    omega
  | false =>
    have := hnew hl' hl
    omega

structure StaleInv (s : State) (n : Issued) : Prop where
  fit : GenerationsFit s
  held : HeldRight s n
  spent : ∀ k ∈ n.stale, Spent s k

theorem step_stale {n : Issued} (h : Inv s) {op : Op} (hok : NoWrap s op) (hn : StaleInv s n) :
    StaleInv (step s op) (noteHandles s op n) := by
  have heffect := step_marks h op
  refine ⟨fun o => (heffect.generation hn.fit hok o).1, step_heldRight h hn.held op, ?_⟩
  intro k hk
  simp only [noteHandles, List.mem_append, List.mem_filterMap] at hk
  rcases hk with hold | ⟨o, _, hnew⟩
  · exact (hn.spent k hold).step heffect hn.fit hok
  · -- the object in the slot `o` is released by this step
    split at hnew
    · rename_i hgone
      simp only [Bool.and_eq_true, Bool.not_eq_true'] at hgone
      obtain ⟨hl, hdead⟩ := hgone
      rw [hn.held o, if_pos hl] at hnew
      cases hnew
      refine ⟨_, o, _, rfl, hn.fit o, (heffect.generation hn.fit hok o).2.1, ?_⟩
      intro hl'
      rw [hdead] at hl'
      cases hl'
    · cases hnew

theorem started_generations (h : Started s) : GenerationsFit s := by
  obtain ⟨i, hi⟩ := h
  unfold initializeScheduler at hi
  split at hi
  · simp at hi
  · rw [allocateObject_boot] at hi
    simp only at hi
    have htable := allocateThreadEnvironment_table
      ((bootState i).modObject 0 fun _ => newObject .thread 0 1 (.thread 0)) 0 i.pages
    generalize allocateThreadEnvironment _ 0 i.pages = furnished at hi htable
    obtain ⟨furnished, s2⟩ := furnished
    simp only [State.table, Prod.mk.injEq] at hi htable
    split at hi
    · simp at hi
    · simp only [Prod.mk.injEq, true_and] at hi
      subst hi
      intro o
      by_cases h0 : o = 0
      · subst h0
        simp [htable.1, newObject]
      · simp [htable.1, h0, bootState]

theorem started_stale (h : Started s) : StaleInv s (firstHandles s) :=
  ⟨started_generations h, fun _ => rfl, by simp [firstHandles]⟩

theorem stale_handles_are_rejected {n : Issued} (h : HandleRun NoWrap s n)
    (hstale : handle ∈ n.stale) : Rejects s handle := by
  have hinv : StaleInv s n := Runs.ReachNoting.invariant (P := StaleInv) h
    (fun _ => started_stale) fun s n op hr hn hok => step_stale (reachableBy_inv hr) hok hn
  exact (hinv.spent handle hstale).rejects

instance (s : State) (op : Op) : Decidable (NoWrap s op) :=
  inferInstanceAs (Decidable (_ → ∀ _, _ → _))

/-- The life of an event in slot 1 whose object has the generation `g`. -/
def recycle (g : Nat) : List Op :=
  [.createEvent .this 1 0 true, .closeHandle (makeHandle .event 1 g) true,
    .tryDestroyEvent (makeHandle .event 1 g)]

def recycledState : State := Runs.run step sampleStart (recycle 1)

def recycledHandles : Issued :=
  (Runs.run (Runs.noting step noteHandles) (sampleStart, firstHandles sampleStart) (recycle 1)).2

theorem recycledState_reached : HandleRun NoWrap recycledState recycledHandles :=
  Runs.ReachNoting.run_along (.start ⟨sampleStart_started, rfl⟩) _ (by decide +kernel)

/-- After another event has come in the same slot, the old handle is still refused. -/
theorem recycled_handle_is_rejected :
    sampleEvent ∈ (noteHandles recycledState (.createEvent .this 1 0 true) recycledHandles).stale ∧
    Rejects (step recycledState (.createEvent .this 1 0 true)) sampleEvent := by
  have hstale : sampleEvent ∈
      (noteHandles recycledState (.createEvent .this 1 0 true) recycledHandles).stale := by
    decide +kernel
  exact ⟨hstale, stale_handles_are_rejected (recycledState_reached.next (by decide +kernel)) hstale⟩

/-! ## Generations that start again -/

/-- The state after an event came and went in slot 1. -/
def recycled (s : State) (g : Nat) : State :=
  (s.modObject 1 fun _ => { generation := g }).modEvent 0 fun _ =>
    { manualReset := true, generation := g, objectSlot := 1 }

theorem createEvent_free (hi : s.installed = true) (ho : freeObject? s = some o)
    (he : freeEvent? s = some e) : createEvent s .this 1 0 true =
      (some (makeHandle .event o (nextGeneration (s.objects o).generation)),
        withEvent s e o (nextGeneration (s.objects o).generation) true false) := by
  have hacc : s.accepts .this = true := by simp [State.accepts, hi]
  have hfree : freeObject? (s.modEvent e fun _ => {}) = some o := ho
  unfold createEvent
  rw [if_neg (by simp [hacc]), he]
  simp only
  unfold allocateObject
  rw [if_neg (by simpa using hi), hfree]
  simp [withEvent, newObject, State.modEvent, State.modObject]

theorem recycle_run {g : Nat} (hi : s.installed = true) (ho : freeObject? s = some 1)
    (he : freeEvent? s = some 0) (hg : nextGeneration (s.objects 1).generation = g) :
    Runs.run step s (recycle g) = recycled s g := by
  have hvalid : ValidGeneration g := by
    rw [← hg]
    exact nextGeneration_valid _
  have hw : makeHandle .event 1 g < 2 ^ 64 := by
    have := hvalid.2
    rw [makeHandle_eq hvalid.2]
    simp only [ObjectType.code, Fin.val_one]
    omega
  have hclear := clearDropped_of_zero (droppedBits_makeHandle hvalid.2 .event 1)
  have htype : handleType (makeHandle .event 1 g) = some .event :=
    handleType_of_clear hvalid.2 (by decide) hclear
  have hcreate := createEvent_free hi ho he
  rw [hg] at hcreate
  have hlookup1 : lookupObject (withEvent s 0 1 g true false) (makeHandle .event 1 g) .event =
      some 1 := (lookupObject_iff hw .event).mpr
    ⟨hi, by simp [withEvent, newObject], by simp [withEvent, newObject],
      by simpa [withEvent, newObject] using hvalid,
      by simpa [handleOf, withEvent, newObject] using hclear⟩
  have hclose : closeHandle (withEvent s 0 1 g true false) (makeHandle .event 1 g) true =
      (true, closedObject (withEvent s 0 1 g true false) 1) := by
    unfold closeHandle
    rw [htype, hlookup1]
    simp [withEvent, newObject, closedObject]
  have hlookup2 : lookupObject (closedObject (withEvent s 0 1 g true false) 1)
      (makeHandle .event 1 g) .event = some 1 := (lookupObject_iff hw .event).mpr
    ⟨hi, by simp [closedObject, withEvent, newObject], by simp [closedObject, withEvent, newObject],
      by simpa [closedObject, withEvent, newObject] using hvalid,
      by simpa [handleOf, closedObject, withEvent, newObject] using hclear⟩
  have hdestroy : (tryDestroyEvent (closedObject (withEvent s 0 1 g true false) 1)
      (makeHandle .event 1 g)).2 = recycled s g := by
    unfold tryDestroyEvent
    rw [hlookup2]
    simp [targetEvent, closedObject, withEvent, newObject, releaseObjectRecord, recycled,
      State.modEvent, State.modObject]
  simp only [recycle, Runs.run, step, hcreate, hclose, hdestroy]

theorem recycled_free (s : State) (g : Nat) (ho : (s.objects 1).live = false)
    (he : (s.events 0).live = false) : freeObject? (recycled s g) = freeObject? s ∧
    freeEvent? (recycled s g) = freeEvent? s := by
  have h1 : ∀ o, ((recycled s g).objects o).live = (s.objects o).live := by
    intro o
    by_cases h : o = 1
    · subst h
      simp [recycled, ho]
    · simp [recycled, h]
  have h2 : ∀ e, ((recycled s g).events e).live = (s.events e).live := by
    intro e
    by_cases h : e = 0
    · subst h
      simp [recycled, he]
    · simp [recycled, h]
  simp only [freeObject?, freeEvent?, h1, h2, and_self]

theorem recycled_recycled (s : State) (g k : Nat) : recycled (recycled s g) k = recycled s k := by
  simp [recycled, State.modObject, State.modEvent]

/-- The lives of `count` more events after the first. -/
def recycling : Nat → List Op
  | 0 => []
  | count + 1 => recycling count ++ recycle (count + 2)

theorem recycledState_eq : recycledState = recycled sampleStart 1 :=
  recycle_run rfl (by decide +kernel) (by decide +kernel) (by decide +kernel)

/-- Each life moves the generation of the slot on by one. -/
theorem recycling_run (count : Nat) (h : count < 0xFFFF) :
    Runs.run step recycledState (recycling count) = recycled sampleStart (count + 1) := by
  have hobject : (sampleStart.objects 1).live = false := by decide +kernel
  have hevent : (sampleStart.events 0).live = false := by decide +kernel
  have hfree : freeObject? sampleStart = some 1 := by decide +kernel
  have hfree' : freeEvent? sampleStart = some 0 := by decide +kernel
  induction count with
  | zero =>
    rw [recycling, Runs.run]
    exact recycledState_eq
  | succ count ih =>
    obtain ⟨h1, h2⟩ := recycled_free sampleStart (count + 1) hobject hevent
    have hnext : nextGeneration ((recycled sampleStart (count + 1)).objects 1).generation =
        count + 2 := by
      simp only [recycled, State.modEvent_objects, State.modObject_objects, Function.update_self,
        nextGeneration]
      rw [if_neg (by omega)]
      omega
    rw [recycling, Runs.run_append, ih (by omega),
      recycle_run rfl (h1.trans hfree) (h2.trans hfree') hnext, recycled_recycled]

theorem stale_mono {n : Issued} (ops : List Op) {k : Nat} (h : k ∈ n.stale) :
    k ∈ (Runs.run (Runs.noting step noteHandles) (s, n) ops).2.stale := by
  induction ops generalizing s n with
  | nil => exact h
  | cons op rest ih =>
    apply ih
    simp [noteHandles, h]

/-- The handle of the first event stays stale through all these lives. -/
theorem recycling_reached (count : Nat) (h : count < 0xFFFF) :
    ∃ n, HandleRun (fun _ _ => True) (recycled sampleStart (count + 1)) n ∧
      sampleEvent ∈ n.stale := by
  have hreach : HandleRun (fun _ _ => True) recycledState recycledHandles :=
    Runs.ReachNoting.run (.start ⟨sampleStart_started, rfl⟩) _ fun _ _ _ => trivial
  have hstale : sampleEvent ∈ recycledHandles.stale := by decide +kernel
  have hlong := Runs.ReachNoting.run hreach (recycling count) fun _ _ _ => trivial
  have hkept := stale_mono (s := recycledState) (recycling count) hstale
  rw [recycling_run count h] at hlong
  exact ⟨_, hlong, hkept⟩

/-- After 65534 more lives of an event in its slot the next event gets the handle of the first
one again. -/
theorem first_handle_resolves_again :
    ∃ s n, HandleRun (fun _ _ => True) s n ∧ sampleEvent ∈ n.stale ∧
      lookupObject s sampleEvent .event = some 1 ∧ (signalEvent s sampleEvent).1 = true ∧
      (closeHandle s sampleEvent true).1 = true ∧ ¬ Rejects s sampleEvent := by
  obtain ⟨n, hreach, hstale⟩ := recycling_reached 0xFFFE (by decide)
  have hlast := hreach.next (i := .createEvent .this 1 0 true) trivial
  have hlookup : lookupObject (step (recycled sampleStart (0xFFFE + 1))
      (.createEvent .this 1 0 true)) sampleEvent .event = some 1 := by decide +kernel
  refine ⟨_, _, hlast, ?_, hlookup, by decide +kernel, by decide +kernel, ?_⟩
  · simp only [noteHandles, List.mem_append]
    exact Or.inl hstale
  · intro hrejects
    rw [hrejects.lookup .event] at hlookup
    cases hlookup

end Gate4Harness.Scheduler
