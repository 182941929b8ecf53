-- The laws of the vectored handlers: the registry is a list of handlers that grows at either
-- end, and a dispatch calls the handlers of the list in order until one continues. Callbacks
-- may call into the registry, and each such call is refused.
import Gate4Harness.VectoredHandler
import Mathlib.Data.List.Basic
import Mathlib.Data.List.Perm.Basic
import Mathlib.Data.List.Nodup
import Mathlib.Tactic.Common

namespace Gate4Harness.VectoredHandler

variable {r : Registry} {s : State}

/-! ## The list model -/

/-- A registered handler: the handle that its add gave, and its callback. -/
structure Handler where
  handle : Nat
  callback : Nat
  deriving DecidableEq, Repr

def handlerAt (r : Registry) (slot : Nat) : Handler :=
  ⟨(r.records slot).opaqueHandle, (r.records slot).callback⟩

/-- The slots in the order of the registry. -/
def orderSlots (r : Registry) : List Nat := (List.range r.liveCount).map r.order

/-- The order array read as handlers. -/
def handlers (r : Registry) : List Handler := (orderSlots r).map (handlerAt r)

def imageSet (r : Registry) : List Nat := (List.range r.imageCount).map r.images

/-- A dispatch as an observer sees it: the list at its start, the handlers that it called and
what those that returned gave. -/
structure Dispatch where
  start : List Handler
  called : List Handler := []
  results : List Int := []

/-- The model of the registry, and the dispatches so far. -/
structure Model where
  handlers : List Handler := []
  images : List Nat := []
  running : Option Dispatch := none
  finished : List Dispatch := []

/-- The dispatch went on to `output`: to one more call, or to its end. -/
def Model.goOn (m : Model) (d : Dispatch) (r : Registry) : Output → Model
  | .called slot callback =>
    { m with running := some { d with
        called := d.called ++ [⟨(r.records slot).opaqueHandle, callback⟩] } }
  | _ => { m with running := none, finished := d :: m.finished }

/-- A successful add puts its handler in front or at the end, a successful configure replaces
the images, and what fails leaves the model as it is. -/
def modelStep (s : State) (e : Event) (m : Model) : Model :=
  match e, (react s e).2 with
  | .configureImages images imageCount, .configured result =>
    if result = 0 then m
    else { m with images := (List.range imageCount).map (images.getD fun _ => 0) }
  | .add first callback _ _, .added handle _ =>
    if handle = 0 then m
    else if first = 0 then { m with handlers := m.handlers ++ [⟨handle, callback⟩] }
    else { m with handlers := ⟨handle, callback⟩ :: m.handlers }
  | .dispatch _ _ _, .dispatched 0 _ => m
  | .dispatch _ _ _, output => m.goOn { start := m.handlers } (step s e).registry output
  | .callbackReturns result, output =>
    match m.running with
    | none => m
    | some d => m.goOn { d with results := d.results ++ [result] } (step s e).registry output
  | _, _ => m

/-- The dispatch called the handlers of its list in order, each once, up to the first that
continued the execution. -/
structure Dispatch.Complete (d : Dispatch) : Prop where
  inOrder : d.called <+: d.start
  once : d.called.Nodup
  returned : d.results.length = d.called.length
  searching : ∀ result ∈ d.results.dropLast, result ≠ exceptionContinueExecution
  ended : d.called = d.start ∨ d.results.getLast? = some exceptionContinueExecution

/-- The call into the registry was refused. The return of a callback is no such call. -/
def Refused : Event → Output → Prop
  | .callbackReturns _, _ => True
  | _, .configured result => result = 0
  | _, .added handle _ => handle = 0
  | _, .dispatched result _ => result = 0
  | _, _ => False

/-! ## What keeps a registry valid -/

structure RegistryInv (r : Registry) : Prop where
  live : r.liveCount ≤ registryCapacity
  images : r.imageCount ≤ maxImages
  sequence : r.nextRegistrationSequence ≠ 0 ∧ r.nextRegistrationSequence ≤ uint64Max
  slots : ∀ i < registryCapacity, (r.records i).slot = i
  handles : ∀ i < registryCapacity, (r.records i).occupied ≠ 0 →
    (r.records i).opaqueHandle = recordAddress r i
  sequences : ∀ i < registryCapacity, (r.records i).occupied ≠ 0 →
    (r.records i).registrationSequence ≠ 0 ∧
      (r.records i).registrationSequence < r.nextRegistrationSequence
  distinct : ∀ i < registryCapacity, ∀ j < registryCapacity, (r.records i).occupied ≠ 0 →
    (r.records j).occupied ≠ 0 → i ≠ j →
      (r.records i).registrationSequence ≠ (r.records j).registrationSequence
  order : ∀ i < registryCapacity, r.order i < registryCapacity
  listed : ∀ slot < registryCapacity, (r.records slot).occupied ≠ 0 ↔ slot ∈ orderSlots r
  nodup : (orderSlots r).Nodup

@[simp] theorem length_orderSlots (r : Registry) : (orderSlots r).length = r.liveCount := by
  simp [orderSlots]

@[simp] theorem length_handlers (r : Registry) : (handlers r).length = r.liveCount := by
  simp [handlers]

theorem orderSlots_get (r : Registry) {i : Nat} (hi : i < r.liveCount) :
    (orderSlots r)[i]? = some (r.order i) := by
  simp [orderSlots, hi]

theorem mem_orderSlots {slot : Nat} :
    slot ∈ orderSlots r ↔ ∃ i < r.liveCount, r.order i = slot := by
  simp [orderSlots]

theorem recordAddress_ne_zero (r : Registry) (slot : Nat) : recordAddress r slot ≠ 0 := by
  have h := r.place.nonnull
  unfold recordAddress
  omega

theorem recordAddress_inj {i j : Nat} (h : recordAddress r i = recordAddress r j) : i = j := by
  unfold recordAddress recordBytes at h
  omega

theorem RegistryInv.slot_lt (h : RegistryInv r) {slot : Nat} (hslot : slot ∈ orderSlots r) :
    slot < registryCapacity := by
  obtain ⟨i, hi, rfl⟩ := mem_orderSlots.mp hslot
  exact h.order i (by have := h.live; omega)

theorem RegistryInv.occupied_of_lt (h : RegistryInv r) {i : Nat} (hi : i < r.liveCount) :
    r.order i < registryCapacity ∧ (r.records (r.order i)).occupied ≠ 0 := by
  have hmem : r.order i ∈ orderSlots r := mem_orderSlots.mpr ⟨i, hi, rfl⟩
  exact ⟨h.slot_lt hmem, (h.listed _ (h.slot_lt hmem)).mpr hmem⟩

theorem RegistryInv.order_ne (h : RegistryInv r) {i j : Nat} (hi : i < r.liveCount)
    (hj : j < r.liveCount) (hij : i ≠ j) : r.order j ≠ r.order i := by
  intro he
  have h1 := orderSlots_get r hi
  rw [← he, ← orderSlots_get r hj] at h1
  exact hij ((List.getElem?_inj (by simpa using hi) h.nodup).mp h1)

/-- The occupied records are those of the order. -/
theorem RegistryInv.occupiedCount_eq (h : RegistryInv r) : occupiedCount r = r.liveCount := by
  unfold occupiedCount
  rw [List.countP_eq_length_filter, ← length_orderSlots r]
  apply List.Perm.length_eq
  rw [List.perm_ext_iff_of_nodup (List.nodup_range.filter _) h.nodup]
  intro slot
  simp only [List.mem_filter, List.mem_range, decide_eq_true_eq]
  constructor
  · rintro ⟨hlt, hocc⟩
    exact (h.listed slot hlt).mp hocc
  · intro hmem
    exact ⟨h.slot_lt hmem, (h.listed slot (h.slot_lt hmem)).mpr hmem⟩

theorem RegistryInv.recordValid (h : RegistryInv r) {i : Nat} (hi : i < registryCapacity) :
    recordValid r i = true := by
  unfold VectoredHandler.recordValid
  rw [Bool.and_eq_true, decide_eq_true_eq, Bool.or_eq_true, decide_eq_true_eq]
  refine ⟨h.slots i hi, ?_⟩
  by_cases hocc : (r.records i).occupied = 0
  · exact .inl hocc
  · right
    have hhandle := h.handles i hi hocc
    have hseq := h.sequences i hi hocc
    simp only [Bool.and_eq_true, decide_eq_true_eq, List.all_eq_true, Bool.or_eq_true]
    refine ⟨⟨⟨?_, hseq.1⟩, hseq.2⟩, ?_⟩
    · rw [hhandle]
      exact recordAddress_ne_zero r i
    · intro j hj
      rw [List.mem_range'_1] at hj
      have hj8 : j < registryCapacity := by omega
      by_cases hoccj : (r.records j).occupied = 0
      · exact .inl hoccj
      · refine .inr ⟨?_, h.distinct j hj8 i hi hoccj hocc (by omega)⟩
        rw [hhandle, h.handles j hj8 hoccj]
        intro he
        have := recordAddress_inj he
        omega

theorem RegistryInv.positionValid (h : RegistryInv r) {i : Nat} (hi : i < r.liveCount) :
    positionValid r i = true := by
  obtain ⟨hlt, hocc⟩ := h.occupied_of_lt hi
  unfold VectoredHandler.positionValid
  simp only [Bool.and_eq_true, decide_eq_true_eq, List.all_eq_true]
  refine ⟨⟨⟨hlt, hocc⟩, ?_⟩, ?_⟩
  · rw [h.handles _ hlt hocc]
    exact recordAddress_ne_zero r _
  · intro j hj
    rw [List.mem_range'_1] at hj
    exact h.order_ne hi (by omega) (by omega)

theorem RegistryInv.valid (h : RegistryInv r) : registryValid r = 1 := by
  have hlive := h.live
  have himages := h.images
  have hall : (List.range registryCapacity).all (VectoredHandler.recordValid r) = true := by
    rw [List.all_eq_true]
    exact fun i hi => h.recordValid (List.mem_range.mp hi)
  have hpos : (List.range r.liveCount).all (VectoredHandler.positionValid r) = true := by
    rw [List.all_eq_true]
    exact fun i hi => h.positionValid (List.mem_range.mp hi)
  have hrest : (List.range' r.liveCount (registryCapacity - r.liveCount)).any
      (fun i => decide (r.order i ≥ registryCapacity)) = false := by
    rw [List.any_eq_false]
    intro i hi
    rw [List.mem_range'_1] at hi
    have := h.order i (by omega)
    simpa using this
  unfold registryValid
  rw [if_neg (by have := h.sequence.1; omega), hall, h.occupiedCount_eq, hpos, hrest]
  simp

/-! ## The operations keep it -/

theorem RegistryInv.init (memory : Registry) : RegistryInv (registryInit memory) := by
  have hocc : ∀ i < registryCapacity, ((registryInit memory).records i).occupied = 0 := by
    intro i hi
    simp [registryInit, hi]
  refine ⟨Nat.zero_le _, Nat.zero_le _, ⟨Nat.one_ne_zero, ?_⟩, ?_, ?_, ?_, ?_, ?_, ?_, ?_⟩
  · change 1 ≤ uint64Max
    decide
  · intro i hi
    simp [registryInit, hi]
  · exact fun i hi h => absurd (hocc i hi) h
  · exact fun i hi h => absurd (hocc i hi) h
  · exact fun i hi _ _ h => absurd (hocc i hi) h
  · intro i hi
    simp only [registryInit, hi, if_true]
    decide
  · intro slot hslot
    rw [hocc slot hslot]
    simp [orderSlots, registryInit]
  · simp [orderSlots, registryInit]

/-- The registry looks the same to the validity check and to a dispatch. -/
structure SameShape (r r' : Registry) : Prop where
  place : r'.place = r.place
  live : r'.liveCount = r.liveCount
  images : r'.imageCount = r.imageCount
  pointers : r'.images = r.images
  sequence : r'.nextRegistrationSequence = r.nextRegistrationSequence
  order : r'.order = r.order
  records : ∀ i, (r'.records i).slot = (r.records i).slot ∧
    (r'.records i).occupied = (r.records i).occupied ∧
    (r'.records i).opaqueHandle = (r.records i).opaqueHandle ∧
    (r'.records i).registrationSequence = (r.records i).registrationSequence ∧
    (r'.records i).callback = (r.records i).callback

section Shape

variable {r' r'' : Registry}

theorem SameShape.trans (h : SameShape r r') (h' : SameShape r' r'') : SameShape r r'' where
  place := h'.place.trans h.place
  live := h'.live.trans h.live
  images := h'.images.trans h.images
  pointers := h'.pointers.trans h.pointers
  sequence := h'.sequence.trans h.sequence
  order := h'.order.trans h.order
  records i := by
    obtain ⟨h1, h2, h3, h4, h5⟩ := h.records i
    obtain ⟨h1', h2', h3', h4', h5'⟩ := h'.records i
    exact ⟨h1'.trans h1, h2'.trans h2, h3'.trans h3, h4'.trans h4, h5'.trans h5⟩

theorem SameShape.orderSlots (h : SameShape r r') :
    VectoredHandler.orderSlots r' = VectoredHandler.orderSlots r := by
  unfold VectoredHandler.orderSlots
  rw [h.live, h.order]

theorem SameShape.handlerAt (h : SameShape r r') (slot : Nat) :
    VectoredHandler.handlerAt r' slot = VectoredHandler.handlerAt r slot := by
  unfold VectoredHandler.handlerAt
  obtain ⟨-, -, h3, -, h5⟩ := h.records slot
  rw [h3, h5]

theorem SameShape.handlers (h : SameShape r r') :
    VectoredHandler.handlers r' = VectoredHandler.handlers r := by
  unfold VectoredHandler.handlers
  rw [h.orderSlots]
  exact List.map_congr_left fun slot _ => h.handlerAt slot

theorem SameShape.imageSet (h : SameShape r r') :
    VectoredHandler.imageSet r' = VectoredHandler.imageSet r := by
  unfold VectoredHandler.imageSet
  rw [h.images, h.pointers]

theorem RegistryInv.sameShape (h : RegistryInv r) (hs : SameShape r r') : RegistryInv r' := by
  have hocc : ∀ i, (r'.records i).occupied = (r.records i).occupied := fun i => (hs.records i).2.1
  have hseq : ∀ i, (r'.records i).registrationSequence = (r.records i).registrationSequence :=
    fun i => (hs.records i).2.2.2.1
  refine ⟨by rw [hs.live]; exact h.live, by rw [hs.images]; exact h.images,
    by rw [hs.sequence]; exact h.sequence, ?_, ?_, ?_, ?_, by rw [hs.order]; exact h.order, ?_,
    by rw [hs.orderSlots]; exact h.nodup⟩
  · intro i hi
    rw [(hs.records i).1]
    exact h.slots i hi
  · intro i hi ho
    rw [(hs.records i).2.2.1, h.handles i hi (by rwa [← hocc])]
    unfold recordAddress
    rw [hs.place]
  · intro i hi ho
    rw [hseq, hs.sequence]
    exact h.sequences i hi (by rwa [← hocc])
  · intro i hi j hj hoi hoj hij
    rw [hseq, hseq]
    exact h.distinct i hi j hj (by rwa [← hocc]) (by rwa [← hocc]) hij
  · intro slot hslot
    rw [hocc, hs.orderSlots]
    exact h.listed slot hslot

/-- A change of a record that keeps what is registered in it. -/
theorem sameShape_update (r : Registry) (slot : Nat) (record : Record) (active : Nat)
    (h : record.slot = (r.records slot).slot ∧ record.occupied = (r.records slot).occupied ∧
      record.opaqueHandle = (r.records slot).opaqueHandle ∧
      record.registrationSequence = (r.records slot).registrationSequence ∧
      record.callback = (r.records slot).callback) :
    SameShape r { r with
      records := Function.update r.records slot record, dispatchActive := active } where
  place := rfl
  live := rfl
  images := rfl
  pointers := rfl
  sequence := rfl
  order := rfl
  records i := by
    by_cases hi : i = slot
    · subst hi
      simpa using h
    · simp [Function.update_of_ne hi]

theorem sameShape_active (r : Registry) (active : Nat) :
    SameShape r { r with dispatchActive := active } :=
  ⟨rfl, rfl, rfl, rfl, rfl, rfl, fun _ => ⟨rfl, rfl, rfl, rfl, rfl⟩⟩

end Shape

theorem configureImages_cases (r : Registry) (images : Option (Nat → Nat)) (imageCount : Nat) :
    configureImages r images imageCount = (0, r) ∨
    (r.liveCount = 0 ∧ r.dispatchActive = 0 ∧ imageCount ≤ maxImages ∧
      (configureImages r images imageCount).1 = 1 ∧
      imageSet (configureImages r images imageCount).2 =
        (List.range imageCount).map (images.getD fun _ => 0) ∧
      (configureImages r images imageCount).2 = { r with
        images := (configureImages r images imageCount).2.images
        imageCount := imageCount }) := by
  unfold configureImages
  split
  · exact .inl rfl
  · rename_i hrefused
    dsimp only
    split
    · exact .inl rfl
    · refine .inr ⟨by omega, by omega, by omega, rfl, ?_, rfl⟩
      unfold imageSet
      apply List.map_congr_left
      intro i hi
      rw [List.mem_range] at hi
      change i < imageCount at hi
      change (if i < maxImages then if i < imageCount then _ else 0 else _) = _
      rw [if_pos (by omega), if_pos hi]

theorem shiftOrder_apply (order : Nat → Nat) (position n : Nat) (hn : position ≤ n) (j : Nat) :
    shiftOrder order position n j =
      if position < j ∧ j ≤ n then order (j - 1) else order j := by
  induction n generalizing order with
  | zero =>
    rw [if_neg (by omega)]
    rfl
  | succ n ih =>
    simp only [shiftOrder]
    split
    · rename_i hlt
      rw [ih _ (by omega)]
      by_cases hj : j = n + 1
      · subst hj
        rw [if_neg (by omega), if_pos (by omega), Function.update_self, Nat.add_sub_cancel]
      · rw [Function.update_of_ne hj]
        by_cases hin : position < j ∧ j ≤ n
        · rw [if_pos hin, if_pos (by omega), Function.update_of_ne (by omega)]
        · rw [if_neg hin, if_neg (by omega)]
    · rw [if_neg (by omega)]

/-- What a successful add did. -/
structure Added (r r' : Registry) (first callback slot : Nat) (d : Diagnostics) : Prop where
  room : r.liveCount < registryCapacity
  inactive : r.dispatchActive = 0
  below : r.nextRegistrationSequence ≠ uint64Max
  bound : slot < registryCapacity
  free : (r.records slot).occupied = 0
  records : r'.records = Function.update r.records slot (filledRecord r slot first callback d)
  order : r'.order =
    Function.update (shiftOrder r.order (if first = 0 then r.liveCount else 0) r.liveCount)
      (if first = 0 then r.liveCount else 0) slot
  sequence : r'.nextRegistrationSequence = r.nextRegistrationSequence + 1
  live : r'.liveCount = r.liveCount + 1
  place : r'.place = r.place
  images : r'.imageCount = r.imageCount ∧ r'.images = r.images
  active : r'.dispatchActive = r.dispatchActive

theorem sameShape_attempt (r : Registry) (attempts : Nat) :
    SameShape r { r with registrationAttemptCount := attempts } :=
  ⟨rfl, rfl, rfl, rfl, rfl, rfl, fun _ => ⟨rfl, rfl, rfl, rfl, rfl⟩⟩

/-- An add fails and only counts the attempt, or it fills a free slot. -/
theorem registryAdd_cases (h : RegistryInv r) (first callback : Nat) (d : Diagnostics)
    (imageAt : Nat → Image) :
    ((registryAdd r first callback d imageAt).1 = 0 ∧
      SameShape r (registryAdd r first callback d imageAt).2.2 ∧
      (registryAdd r first callback d imageAt).2.2.dispatchActive = r.dispatchActive) ∨
    ∃ slot d', (registryAdd r first callback d imageAt).1 = recordAddress r slot ∧
      Added r (registryAdd r first callback d imageAt).2.2 first callback slot d' := by
  have hsame := sameShape_attempt r ((r.registrationAttemptCount + 1) % 2 ^ 64)
  have hvalid := (h.sameShape hsame).valid
  unfold registryAdd
  dsimp only
  rw [if_neg (by rw [hvalid]; decide)]
  split
  · exact .inl ⟨rfl, hsame, rfl⟩
  · rename_i hactive
    split
    · exact .inl ⟨rfl, hsame, rfl⟩
    · split
      · exact .inl ⟨rfl, hsame, rfl⟩
      · rename_i hfull
        split
        · exact .inl ⟨rfl, hsame, rfl⟩
        · rename_i hsequence
          split
          · exact .inl ⟨rfl, hsame, rfl⟩
          · rename_i freeSlot hfind
            have hfree := List.find?_some hfind
            have hmem := List.mem_of_find?_eq_some hfind
            rw [decide_eq_true_eq] at hfree
            rw [List.mem_range] at hmem
            have hlive := h.live
            exact .inr ⟨freeSlot, _, rfl, by omega, by simpa using hactive, hsequence, hmem,
              hfree, rfl, rfl, rfl, rfl, rfl, ⟨rfl, rfl⟩, rfl⟩

section Added

variable {r' : Registry} {first callback slot : Nat} {d : Diagnostics}

/-- The insertion into the order is one into the list: in front or at the end. -/
theorem Added.orderSlots (ha : Added r r' first callback slot d) :
    VectoredHandler.orderSlots r' =
      if first = 0 then VectoredHandler.orderSlots r ++ [slot]
      else slot :: VectoredHandler.orderSlots r := by
  have hlive := ha.live
  apply List.ext_getElem?
  intro i
  by_cases hi : i < r.liveCount + 1
  · rw [orderSlots_get r' (by omega), ha.order]
    split
    · rename_i hfirst
      rcases Nat.lt_or_eq_of_le (Nat.lt_succ_iff.mp hi) with hlt | heq
      · rw [Function.update_of_ne (by omega), shiftOrder_apply _ _ _ (Nat.le_refl _),
          if_neg (by omega), List.getElem?_append_left (by simpa using hlt), orderSlots_get r hlt]
      · subst heq
        rw [Function.update_self, List.getElem?_append_right (by simp)]
        simp
    · rename_i hfirst
      cases i with
      | zero => simp
      | succ i =>
        rw [Function.update_of_ne (by omega), shiftOrder_apply _ _ _ (Nat.zero_le _),
          if_pos (by omega), Nat.add_sub_cancel, List.getElem?_cons_succ,
          orderSlots_get r (by omega)]
  · rw [List.getElem?_eq_none (by simp; omega), List.getElem?_eq_none]
    split <;> simp <;> omega

theorem Added.mem_orderSlots (ha : Added r r' first callback slot d) {i : Nat} :
    i ∈ VectoredHandler.orderSlots r' ↔ i = slot ∨ i ∈ VectoredHandler.orderSlots r := by
  rw [ha.orderSlots]
  split
  · rw [List.mem_append, List.mem_singleton, or_comm]
  · exact List.mem_cons

theorem Added.slot_new (ha : Added r r' first callback slot d) (h : RegistryInv r) :
    slot ∉ VectoredHandler.orderSlots r := fun hmem =>
  (h.listed slot ha.bound).mpr hmem ha.free

theorem Added.record_of_ne (ha : Added r r' first callback slot d) {i : Nat} (hi : i ≠ slot) :
    r'.records i = r.records i := by
  rw [ha.records, Function.update_of_ne hi]

theorem Added.record_self (ha : Added r r' first callback slot d) :
    r'.records slot = filledRecord r slot first callback d := by
  rw [ha.records, Function.update_self]

theorem Added.registryInv (ha : Added r r' first callback slot d) (h : RegistryInv r) :
    RegistryInv r' := by
  have haddress : ∀ i, recordAddress r' i = recordAddress r i := by
    intro i
    unfold recordAddress
    rw [ha.place]
  have hnext := h.sequence
  have hbelow := ha.below
  have hroom := ha.room
  refine ⟨by rw [ha.live]; omega, by rw [ha.images.1]; exact h.images,
    by rw [ha.sequence]; omega, ?_, ?_, ?_, ?_, ?_, ?_, ?_⟩
  · intro i hi
    by_cases his : i = slot
    · subst his
      rw [ha.record_self]
      rfl
    · rw [ha.record_of_ne his]
      exact h.slots i hi
  · intro i hi ho
    rw [haddress]
    by_cases his : i = slot
    · subst his
      rw [ha.record_self]
      rfl
    · rw [ha.record_of_ne his] at ho ⊢
      exact h.handles i hi ho
  · intro i hi ho
    rw [ha.sequence]
    by_cases his : i = slot
    · subst his
      rw [ha.record_self]
      exact ⟨hnext.1, Nat.lt_succ_self _⟩
    · rw [ha.record_of_ne his] at ho ⊢
      have := h.sequences i hi ho
      omega
  · intro i hi j hj hoi hoj hij
    -- the new sequence number is above those in use
    by_cases his : i = slot
    · subst his
      rw [ha.record_self, ha.record_of_ne hij.symm]
      rw [ha.record_of_ne hij.symm] at hoj
      exact Nat.ne_of_gt (h.sequences j hj hoj).2
    · by_cases hjs : j = slot
      · subst hjs
        rw [ha.record_self, ha.record_of_ne hij]
        rw [ha.record_of_ne hij] at hoi
        exact Nat.ne_of_lt (h.sequences i hi hoi).2
      · rw [ha.record_of_ne his, ha.record_of_ne hjs]
        rw [ha.record_of_ne his] at hoi
        rw [ha.record_of_ne hjs] at hoj
        exact h.distinct i hi j hj hoi hoj hij
  · intro i hi
    have hshift : ∀ position ≤ r.liveCount, shiftOrder r.order position r.liveCount i
        < registryCapacity := by
      intro position hle
      rw [shiftOrder_apply _ _ _ hle]
      split
      · exact h.order _ (by omega)
      · exact h.order i hi
    rw [ha.order]
    by_cases hip : i = if first = 0 then r.liveCount else 0
    · rw [hip, Function.update_self]
      exact ha.bound
    · rw [Function.update_of_ne hip]
      exact hshift _ (by split <;> omega)
  · intro i hi
    rw [ha.mem_orderSlots]
    by_cases his : i = slot
    · subst his
      rw [ha.record_self]
      simp [filledRecord]
    · rw [ha.record_of_ne his, h.listed i hi]
      simp [his]
  · rw [ha.orderSlots]
    split
    · rw [List.nodup_append]
      refine ⟨h.nodup, List.nodup_singleton _, ?_⟩
      rintro i hi j hj rfl
      rw [List.mem_singleton] at hj
      exact ha.slot_new h (hj ▸ hi)
    · exact List.nodup_cons.mpr ⟨ha.slot_new h, h.nodup⟩

/-- The list of handlers has the new one in front or at the end. -/
theorem Added.handlers (ha : Added r r' first callback slot d) (h : RegistryInv r) :
    VectoredHandler.handlers r' =
      if first = 0 then VectoredHandler.handlers r ++ [⟨recordAddress r slot, callback⟩]
      else ⟨recordAddress r slot, callback⟩ :: VectoredHandler.handlers r := by
  have hself : handlerAt r' slot = ⟨recordAddress r slot, callback⟩ := by
    unfold handlerAt
    rw [ha.record_self]
    rfl
  have hrest : (VectoredHandler.orderSlots r).map (handlerAt r') = VectoredHandler.handlers r := by
    apply List.map_congr_left
    intro i hi
    unfold handlerAt
    rw [ha.record_of_ne (by rintro rfl; exact ha.slot_new h hi)]
  unfold VectoredHandler.handlers at hrest ⊢
  rw [ha.orderSlots]
  split
  · rw [List.map_append, hrest, List.map_singleton, hself]
  · rw [List.map_cons, hrest, hself]

theorem Added.imageSet (ha : Added r r' first callback slot d) :
    VectoredHandler.imageSet r' = VectoredHandler.imageSet r := by
  unfold VectoredHandler.imageSet
  rw [ha.images.1, ha.images.2]

end Added

/-! ## A dispatch follows the list -/

/-- The frame of a dispatch that waits for a callback, and what an observer saw of it. -/
structure Waiting (r : Registry) (frame : Frame) (d : Dispatch) : Prop where
  active : r.dispatchActive = 1
  index : frame.index < r.liveCount
  snapshot : ∀ i < r.liveCount, frame.snapshot i = r.order i
  slot : frame.slot = r.order frame.index
  start : d.start = handlers r
  called : d.called = (handlers r).take (frame.index + 1)
  returned : d.results.length = frame.index
  searching : ∀ result ∈ d.results, result ≠ exceptionContinueExecution

/-- No dispatch runs, or one does. -/
inductive Dispatching (r : Registry) : List Frame → Option Dispatch → Prop
  | idle : r.dispatchActive = 0 → Dispatching r [] none
  | busy {frame : Frame} {d : Dispatch} : Waiting r frame d → Dispatching r [frame] (some d)

/-- The state is what the model says. -/
structure Follows (s : State) (m : Model) : Prop where
  registry : RegistryInv s.registry
  handlers : handlers s.registry = m.handlers
  images : imageSet s.registry = m.images
  dispatching : Dispatching s.registry s.frames m.running
  finished : ∀ d ∈ m.finished, d.Complete

theorem handlers_get {i : Nat} (hi : i < r.liveCount) :
    (handlers r)[i]? = some (handlerAt r (r.order i)) := by
  unfold handlers
  rw [List.getElem?_map, orderSlots_get r hi]
  rfl

/-- Two registered handlers have two handles. -/
theorem RegistryInv.handlers_nodup (h : RegistryInv r) : (handlers r).Nodup := by
  unfold VectoredHandler.handlers
  rw [List.nodup_map_iff_inj_on h.nodup]
  intro i hi j hj he
  have hi' := h.handles i (h.slot_lt hi) ((h.listed i (h.slot_lt hi)).mpr hi)
  have hj' := h.handles j (h.slot_lt hj) ((h.listed j (h.slot_lt hj)).mpr hj)
  have hhandle : (r.records i).opaqueHandle = (r.records j).opaqueHandle :=
    congrArg Handler.handle he
  rw [hi', hj'] at hhandle
  exact recordAddress_inj hhandle

/-- Calls that are the first ones of the list make a complete dispatch, once it ended. -/
theorem RegistryInv.complete (h : RegistryInv r) {d : Dispatch} {n : Nat}
    (hstart : d.start = VectoredHandler.handlers r)
    (hcalled : d.called = (VectoredHandler.handlers r).take n)
    (hreturned : d.results.length = d.called.length)
    (hsearching : ∀ result ∈ d.results.dropLast, result ≠ exceptionContinueExecution)
    (hended : d.called = d.start ∨ d.results.getLast? = some exceptionContinueExecution) :
    d.Complete where
  inOrder := by
    rw [hstart, hcalled]
    exact List.take_prefix _ _
  once := by
    rw [hcalled]
    exact h.handlers_nodup.sublist (List.take_sublist _ _)
  returned := hreturned
  searching := hsearching
  ended := hended

section Next

variable {m : Model} {d : Dispatch} {snapshot : Nat → Nat} {i : Nat} {report : Report}

@[simp] theorem Model.goOn_handlers (m : Model) (d : Dispatch) (r : Registry) (o : Output) :
    (m.goOn d r o).handlers = m.handlers := by
  cases o <;> rfl

@[simp] theorem Model.goOn_images (m : Model) (d : Dispatch) (r : Registry) (o : Output) :
    (m.goOn d r o).images = m.images := by
  cases o <;> rfl

/-- The loop of a dispatch whose first `i` calls were made and returned: it makes the next
call, or it is over. -/
theorem Follows.next (hr : RegistryInv s.registry)
    (hhandlers : VectoredHandler.handlers s.registry = m.handlers)
    (himages : imageSet s.registry = m.images) (hfinished : ∀ d ∈ m.finished, d.Complete)
    (hframes : s.frames = []) (hactive : s.registry.dispatchActive = 1)
    (hi : i ≤ s.registry.liveCount)
    (hsnapshot : ∀ j < s.registry.liveCount, snapshot j = s.registry.order j)
    (hstart : d.start = VectoredHandler.handlers s.registry)
    (hcalled : d.called = (VectoredHandler.handlers s.registry).take i)
    (hreturned : d.results.length = i)
    (hsearching : ∀ result ∈ d.results, result ≠ exceptionContinueExecution) :
    Follows (dispatchNext s snapshot i report).1
      (m.goOn d (dispatchNext s snapshot i report).1.registry
        (dispatchNext s snapshot i report).2) := by
  unfold dispatchNext
  split
  · rename_i hne
    have hlt : i < s.registry.liveCount := by omega
    have hshape := sameShape_update s.registry (snapshot i)
      { s.registry.records (snapshot i) with
        invocationCount := ((s.registry.records (snapshot i)).invocationCount + 1) % 2 ^ 64 }
      s.registry.dispatchActive ⟨rfl, rfl, rfl, rfl, rfl⟩
    refine ⟨hr.sameShape hshape, ?_, ?_, ?_, hfinished⟩
    · rw [Model.goOn_handlers, ← hhandlers]
      exact hshape.handlers
    · rw [Model.goOn_images, ← himages]
      exact hshape.imageSet
    · rw [hframes]
      refine .busy ⟨hactive, hlt, hsnapshot, hsnapshot i hlt, ?_, ?_, hreturned, hsearching⟩
      · rw [hshape.handlers]
        exact hstart
      · have hget := handlers_get hlt
        rw [List.getElem?_eq_some_iff] at hget
        obtain ⟨hlen, hget⟩ := hget
        rw [hshape.handlers, List.take_succ_eq_append_getElem hlen, hget, ← hcalled,
          ← hsnapshot i hlt]
        simp [handlerAt]
  · rename_i heq
    have heq : i = s.registry.liveCount := by omega
    have hall : d.called = VectoredHandler.handlers s.registry := by
      rw [hcalled, heq, ← length_handlers s.registry, List.take_length]
    have hshape := sameShape_active s.registry 0
    refine ⟨hr.sameShape hshape, ?_, ?_, ?_, ?_⟩
    · rw [Model.goOn_handlers, ← hhandlers]
      exact hshape.handlers
    · rw [Model.goOn_images, ← himages]
      exact hshape.imageSet
    · rw [hframes]
      exact .idle rfl
    · intro d' hd'
      rcases List.mem_cons.mp hd' with rfl | hd'
      · refine hr.complete hstart hcalled ?_ (fun result hm => ?_) (.inl (hall.trans hstart.symm))
        · rw [hall, length_handlers, hreturned, heq]
        · exact hsearching result (List.dropLast_subset _ hm)
      · exact hfinished d' hd'

end Next

/-! ## Every step follows the model -/

section Step

variable {m : Model}

theorem Follows.init (memory : Registry) : Follows ⟨registryInit memory, []⟩ {} where
  registry := RegistryInv.init memory
  handlers := rfl
  images := rfl
  dispatching := .idle rfl
  finished := by simp

theorem Dispatching.frames_nil {frames : List Frame} {running : Option Dispatch}
    (h : Dispatching r frames running) (hactive : r.dispatchActive = 0) :
    frames = [] ∧ running = none := by
  cases h with
  | idle => exact ⟨rfl, rfl⟩
  | busy hw => exact absurd (hw.active.symm.trans hactive) (by decide)

theorem Dispatching.active_of_frames {frames : List Frame} {running : Option Dispatch}
    (h : Dispatching r frames running) (hframes : frames ≠ []) : r.dispatchActive = 1 := by
  cases h with
  | idle => exact absurd rfl hframes
  | busy hw => exact hw.active

theorem Dispatching.active_iff {frames : List Frame} {running : Option Dispatch}
    (h : Dispatching r frames running) : r.dispatchActive ≠ 0 ↔ running ≠ none := by
  cases h with
  | idle hactive => simp [hactive]
  | busy hw => simp [hw.active]

theorem Dispatching.running_iff {frames : List Frame} {running : Option Dispatch}
    (h : Dispatching r frames running) : running ≠ none ↔ frames ≠ [] := by
  cases h with
  | idle => simp
  | busy => simp

theorem Dispatching.sameShape {r' : Registry} {frames : List Frame} {running : Option Dispatch}
    (h : Dispatching r frames running) (hs : SameShape r r')
    (hactive : r'.dispatchActive = r.dispatchActive) : Dispatching r' frames running := by
  cases h with
  | idle h => exact .idle (hactive.trans h)
  | @busy frame d hw =>
    refine .busy ⟨hactive.trans hw.active, ?_, ?_, ?_, ?_, ?_, hw.returned, hw.searching⟩
    · rw [hs.live]
      exact hw.index
    · rw [hs.live, hs.order]
      exact hw.snapshot
    · rw [hs.order]
      exact hw.slot
    · rw [hs.handlers]
      exact hw.start
    · rw [hs.handlers]
      exact hw.called

theorem Follows.configured (h : Follows s m) (images : Option (Nat → Nat)) (imageCount : Nat) :
    Follows (step s (.configureImages images imageCount))
      (modelStep s (.configureImages images imageCount) m) := by
  rcases configureImages_cases s.registry images imageCount with
    he | ⟨hlive, hactive, hcount, hresult, hset, he⟩
  · simp only [step, modelStep, react, he]
    exact h
  · obtain ⟨hframes, hrunning⟩ := h.dispatching.frames_nil hactive
    have horder : orderSlots (configureImages s.registry images imageCount).2 = [] := by
      rw [he]
      simp [orderSlots, hlive]
    have horder' : orderSlots s.registry = [] := by simp [orderSlots, hlive]
    have hr := h.registry
    simp only [step, modelStep, react, hresult]
    refine ⟨?_, ?_, hset, ?_, h.finished⟩
    · rw [he]
      refine ⟨hr.live, hcount, hr.sequence, hr.slots, hr.handles, hr.sequences, hr.distinct,
        hr.order, ?_, ?_⟩
      · intro slot hslot
        rw [← he, horder, ← horder', he]
        exact hr.listed slot hslot
      · rw [← he, horder]
        exact List.nodup_nil
    · have hempty := h.handlers
      unfold VectoredHandler.handlers at hempty ⊢
      rw [horder'] at hempty
      rw [horder]
      exact hempty
    · change Dispatching _ s.frames m.running
      rw [hframes, hrunning, he]
      exact .idle hactive

theorem Follows.added (h : Follows s m) (first callback : Nat) (d : Diagnostics)
    (imageAt : Nat → Image) :
    Follows (step s (.add first callback d imageAt))
      (modelStep s (.add first callback d imageAt) m) := by
  rcases registryAdd_cases h.registry first callback d imageAt with
    ⟨hfailed, hshape, hactive⟩ | ⟨slot, d', hhandle, ha⟩
  · simp only [step, modelStep, react, hfailed]
    exact ⟨h.registry.sameShape hshape, hshape.handlers.trans h.handlers,
      hshape.imageSet.trans h.images, h.dispatching.sameShape hshape hactive, h.finished⟩
  · obtain ⟨hframes, hrunning⟩ := h.dispatching.frames_nil ha.inactive
    have hne : (registryAdd s.registry first callback d imageAt).1 ≠ 0 := by
      rw [hhandle]
      exact recordAddress_ne_zero _ _
    have hlist := ha.handlers h.registry
    have hdispatching : Dispatching (registryAdd s.registry first callback d imageAt).2.2
        s.frames m.running := by
      rw [hframes, hrunning]
      exact .idle (ha.active.trans ha.inactive)
    simp only [step, modelStep, react, if_neg hne]
    by_cases hfirst : first = 0
    · rw [if_pos hfirst] at hlist ⊢
      refine ⟨ha.registryInv h.registry, ?_, ha.imageSet.trans h.images, hdispatching, h.finished⟩
      rw [hlist, h.handlers, hhandle]
    · rw [if_neg hfirst] at hlist ⊢
      refine ⟨ha.registryInv h.registry, ?_, ha.imageSet.trans h.images, hdispatching, h.finished⟩
      rw [hlist, h.handlers, hhandle]

theorem dispatch_refused (s : State) (pointersNull : Bool) (stack : Nat → Nat) (report : Report)
    (h : pointersNull = true ∨ registryValid s.registry = 0 ∨ s.registry.dispatchActive ≠ 0) :
    dispatch s pointersNull stack report = (s, .dispatched 0 (clearedReport report)) := by
  unfold dispatch
  rw [if_pos h]

/-- The result of the loop head is a call or the end of the dispatch, never a refusal. -/
theorem dispatchNext_output (s : State) (snapshot : Nat → Nat) (i : Nat) (report : Report) :
    (∃ slot callback, (dispatchNext s snapshot i report).2 = .called slot callback) ∨
      ∃ report', (dispatchNext s snapshot i report).2 = .dispatched 1 report' := by
  unfold dispatchNext
  split
  · exact .inl ⟨_, _, rfl⟩
  · exact .inr ⟨_, rfl⟩

theorem Follows.dispatched (h : Follows s m) (pointersNull : Bool) (stack : Nat → Nat)
    (report : Report) :
    Follows (step s (.dispatch pointersNull stack report))
      (modelStep s (.dispatch pointersNull stack report) m) := by
  by_cases hrefused : pointersNull = true ∨ registryValid s.registry = 0 ∨
      s.registry.dispatchActive ≠ 0
  · simp only [step, modelStep, react, dispatch_refused s pointersNull stack report hrefused]
    exact h
  · have hactive : s.registry.dispatchActive = 0 := by
      by_contra hne
      exact hrefused (.inr (.inr hne))
    obtain ⟨hframes, -⟩ := h.dispatching.frames_nil hactive
    have hshape := sameShape_active s.registry 1
    -- the state in which the loop starts
    obtain ⟨snapshot, report', hsnapshot, he⟩ : ∃ snapshot report',
        (∀ j < s.registry.liveCount, snapshot j = s.registry.order j) ∧
        dispatch s pointersNull stack report =
          dispatchNext { s with registry := { s.registry with dispatchActive := 1 } }
            snapshot 0 report' := by
      unfold dispatch
      rw [if_neg hrefused]
      exact ⟨fun i => if i < s.registry.liveCount then s.registry.order i else stack i, _,
        fun j hj => if_pos hj, rfl⟩
    have hnext : Follows
        (dispatchNext { s with registry := { s.registry with dispatchActive := 1 } }
          snapshot 0 report').1
        (m.goOn { start := m.handlers } _ _) :=
      Follows.next (h.registry.sameShape hshape) (hshape.handlers.trans h.handlers)
      (hshape.imageSet.trans h.images) h.finished hframes rfl (Nat.zero_le _) hsnapshot
      (h.handlers.symm.trans hshape.handlers.symm) rfl rfl (by simp)
    have hmodel : modelStep s (.dispatch pointersNull stack report) m =
        m.goOn { start := m.handlers }
          (step s (.dispatch pointersNull stack report)).registry
          (dispatch s pointersNull stack report).2 := by
      rcases dispatchNext_output { s with registry := { s.registry with dispatchActive := 1 } }
        snapshot 0 report' with ⟨slot, callback, ho⟩ | ⟨report'', ho⟩ <;>
      · rw [← he] at ho
        simp only [modelStep, react, ho]
    rw [hmodel]
    simp only [step, react, he]
    exact hnext

theorem Follows.returned (h : Follows s m) (result : Int) :
    Follows (step s (.callbackReturns result)) (modelStep s (.callbackReturns result) m) := by
  have hdispatching := h.dispatching
  generalize hframes : s.frames = frames at hdispatching
  generalize hrunning : m.running = running at hdispatching
  cases hdispatching with
  | idle hactive =>
    simp only [step, modelStep, react, hframes, hrunning]
    exact h
  | @busy frame d hw =>
    have hmodel : modelStep s (.callbackReturns result) m =
        m.goOn { d with results := d.results ++ [result] }
          (callbackReturned { s with frames := [] } frame result).1.registry
          (callbackReturned { s with frames := [] } frame result).2 := by
      simp only [step, modelStep, react, hframes, hrunning]
    have hstep : step s (.callbackReturns result) =
        (callbackReturned { s with frames := [] } frame result).1 := by
      simp only [step, react, hframes]
    rw [hmodel, hstep]
    unfold callbackReturned
    dsimp only
    split
    · rename_i hcontinue
      have hshape := sameShape_update s.registry frame.slot
        { s.registry.records frame.slot with lastReturnValue := result } 0
        ⟨rfl, rfl, rfl, rfl, rfl⟩
      refine ⟨h.registry.sameShape hshape, ?_, ?_, .idle rfl, ?_⟩
      · rw [Model.goOn_handlers, ← h.handlers]
        exact hshape.handlers
      · rw [Model.goOn_images, ← h.images]
        exact hshape.imageSet
      · intro d' hd'
        rcases List.mem_cons.mp hd' with rfl | hd'
        · refine h.registry.complete hw.start hw.called ?_ ?_ (.inr ?_)
          · have hlive := hw.index
            change (d.results ++ [result]).length = d.called.length
            rw [hw.called, List.length_append, hw.returned, List.length_take, length_handlers]
            change frame.index + 1 = _
            omega
          · change ∀ v ∈ (d.results ++ [result]).dropLast, _
            rw [List.dropLast_concat]
            exact hw.searching
          · change (d.results ++ [result]).getLast? = _
            rw [List.getLast?_concat, hcontinue]
        · exact h.finished d' hd'
    · rename_i hsearch
      have hshape := sameShape_update s.registry frame.slot
        { s.registry.records frame.slot with lastReturnValue := result } s.registry.dispatchActive
        ⟨rfl, rfl, rfl, rfl, rfl⟩
      refine Follows.next (h.registry.sameShape hshape) (hshape.handlers.trans h.handlers)
        (hshape.imageSet.trans h.images) h.finished rfl hw.active hw.index hw.snapshot ?_ ?_ ?_ ?_
      · exact hw.start.trans hshape.handlers.symm
      · rw [hshape.handlers]
        exact hw.called
      · change (d.results ++ [result]).length = _
        rw [List.length_append, hw.returned]
        rfl
      · intro v hv
        rcases List.mem_append.mp hv with hv | hv
        · exact hw.searching v hv
        · rw [List.mem_singleton.mp hv]
          exact hsearch

theorem Follows.step (h : Follows s m) (e : Event) : Follows (step s e) (modelStep s e m) := by
  cases e with
  | configureImages images imageCount => exact h.configured images imageCount
  | add first callback d imageAt => exact h.added first callback d imageAt
  | dispatch pointersNull stack report => exact h.dispatched pointersNull stack report
  | callbackReturns result => exact h.returned result

/-- What a callback asks of the registry is refused. -/
theorem Follows.refused (h : Follows s m) (hframes : s.frames ≠ []) (e : Event) :
    Refused e (react s e).2 := by
  have hactive := h.dispatching.active_of_frames hframes
  cases e with
  | configureImages images imageCount =>
    rcases configureImages_cases s.registry images imageCount with he | ⟨-, hidle, -⟩
    · simp only [react, he]
      exact rfl
    · rw [hactive] at hidle
      cases hidle
  | add first callback d imageAt =>
    rcases registryAdd_cases h.registry first callback d imageAt with
      ⟨hfailed, -⟩ | ⟨slot, d', -, ha⟩
    · simp only [react, hfailed]
      exact rfl
    · have hidle := ha.inactive
      rw [hactive] at hidle
      cases hidle
  | dispatch pointersNull stack report =>
    simp only [react, dispatch_refused s pointersNull stack report
      (.inr (.inr (by rw [hactive]; decide)))]
    exact rfl
  | callbackReturns result => trivial

/-- While no dispatch runs, one with its pointers is taken. -/
theorem Follows.accepted (h : Follows s m) (hframes : s.frames = []) (stack : Nat → Nat)
    (report : Report) : ¬ Refused (.dispatch false stack report)
      (react s (.dispatch false stack report)).2 := by
  have hactive : s.registry.dispatchActive = 0 := by
    by_contra hne
    exact h.dispatching.running_iff.mp (h.dispatching.active_iff.mp hne) hframes
  have hvalid := h.registry.valid
  simp only [react, dispatch, hvalid, hactive]
  rw [if_neg (by simp)]
  rcases dispatchNext_output { s with registry := { s.registry with dispatchActive := 1 } }
    (fun i => if i < s.registry.liveCount then s.registry.order i else stack i) 0 _ with
    ⟨slot, callback, ho⟩ | ⟨report', ho⟩
  · rw [ho]
    exact id
  · rw [ho]
    exact Nat.one_ne_zero

end Step

/-- The vectored handlers follow the list model, whatever the callbacks do: the registry is
valid, its order is the list and its images are those last configured, each dispatch that ended
called the handlers of its list up to the first that continued, a call from a callback is
refused, any other dispatch is taken, and the registry is marked active only while one runs. -/
theorem handlers_follow_the_list_model (memory : Registry) (events : List Event) :
    let p := Runs.run (Runs.noting step modelStep) (⟨registryInit memory, []⟩, {}) events
    registryValid p.1.registry = 1 ∧ handlers p.1.registry = p.2.handlers ∧
    imageSet p.1.registry = p.2.images ∧ (∀ d ∈ p.2.finished, d.Complete) ∧
    (p.1.frames ≠ [] → ∀ e, Refused e (react p.1 e).2) ∧
    (p.1.frames = [] → ∀ stack report, ¬ Refused (.dispatch false stack report)
      (react p.1 (.dispatch false stack report)).2) ∧
    (p.1.registry.dispatchActive ≠ 0 ↔ p.2.running ≠ none) ∧
    (p.2.running ≠ none ↔ p.1.frames ≠ []) := by
  intro p
  have h : Follows p.1 p.2 := by
    exact Runs.run_invariant (P := fun q : State × Model => Follows q.1 q.2)
      (Follows.init memory) (fun q e hq => hq.step e) events
  exact ⟨h.registry.valid, h.handlers, h.images, h.finished, h.refused, h.accepted,
    h.dispatching.active_iff, h.dispatching.running_iff⟩

end Gate4Harness.VectoredHandler
