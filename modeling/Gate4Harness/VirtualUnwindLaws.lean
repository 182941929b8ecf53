-- The loop of the unwinder, seen through the codes that the array stands for. Each code is
-- undone whole or not at all, so that a call that fails stops between two codes.
import Gate4Harness.VirtualUnwind

namespace Gate4Harness.Unwind

open ByteMemory Amd64 UnwindData
open Vm (uint64Max uint32Max)

variable {w : World} {f : Loop} {c c' : Context} {s : Slot} {rest rest' slots : List Slot}
  {code : Code} {codes : List Code} {l : List Entry} {a : Arguments} {t : Target}
  {d : Diagnostics}

/-! ## One code -/

/-- The checks that the loop makes before it undoes a code. -/
def admits (w : World) (f : Loop) (c : Context) : Code → Bool
  | .pushNonvol _ =>
    readableRange w (c.gpr .rsp).toNat 8 && decide ((c.gpr .rsp).toNat ≤ uint64Max - 8)
  | .alloc bytes => decide ((c.gpr .rsp).toNat ≤ uint64Max - bytes)
  | .setFpreg =>
    (unwindRegister f.frameRegister).any fun r => decide (f.frameOffset * 16 ≤ (c.gpr r).toNat)
  | .saveNonvol _ offset =>
    decide (f.frameBase.toNat ≤ uint64Max - offset) && decide (offset ≤ uint64Max) &&
      readableRange w (up f.frameBase offset).toNat 8
  | .saveXmm => true
  | .pushMachframe errorCode =>
    decide ((c.gpr .rsp).toNat ≤ uint64Max - if errorCode then 48 else 40)

/-- What the loop makes of a code. -/
def undone (w : World) (f : Loop) (c : Context) : Code → Context
  | .pushNonvol r =>
    (c.setGpr .rsp (up (c.gpr .rsp) 8)).setGpr r (read w.memory (c.gpr .rsp) 64)
  | .alloc bytes => c.setGpr .rsp (up (c.gpr .rsp) bytes)
  | .setFpreg =>
    match unwindRegister f.frameRegister with
    | none => c
    | some r => c.setGpr .rsp (c.gpr r - BitVec.ofNat 64 (f.frameOffset * 16))
  | .saveNonvol r offset => c.setGpr r (read w.memory (up f.frameBase offset) 64)
  | .saveXmm => c
  | .pushMachframe errorCode => c.setGpr .rsp (up (c.gpr .rsp) (if errorCode then 48 else 40))

/-- A step that undoes the code if its checks pass. -/
def undoChecked (w : World) (f : Loop) (c : Context) (code : Code) : Step :=
  if admits w f c code then .ok (undone w f c code) else .error c

theorem addToRsp_eq (w : World) (f : Loop) (c : Context) (bytes : Nat) :
    addToRsp c bytes = undoChecked w f c (.alloc bytes) := by
  unfold addToRsp undoChecked addU64 admits undone
  by_cases h : (c.gpr .rsp).toNat > uint64Max - bytes
  · simp [h]
  · simp [h, Nat.le_of_not_lt h]

theorem addToRsp_machframe (w : World) (f : Loop) (c : Context) (info : Nat) :
    addToRsp c (if info = 0 then 40 else 48) =
      undoChecked w f c (.pushMachframe (info ≠ 0)) := by
  have hsize : (if info = 0 then 40 else 48) = if decide (info ≠ 0) = true then 48 else 40 := by
    by_cases h : info = 0 <;> simp [h]
  rw [addToRsp_eq w f, hsize]
  rfl

theorem pushNonvol_eq (w : World) (f : Loop) (c : Context) {info : Nat} {r : Reg}
    (h : registers[info]? = some r) :
    pushNonvol w info c = undoChecked w f c (.pushNonvol r) := by
  unfold pushNonvol unwindRegister readStackU64 undoChecked addU64 admits undone
  rw [h]
  by_cases hread : readableRange w (c.gpr .rsp).toNat 8 = true
  · by_cases hfit : (c.gpr .rsp).toNat > uint64Max - 8
    · simp [hread, hfit]
    · simp [hread, hfit, Nat.le_of_not_lt hfit]
  · simp [hread]

theorem setFpreg_eq (w : World) (f : Loop) (c : Context) :
    setFpreg f c = undoChecked w f c .setFpreg := by
  unfold setFpreg undoChecked admits undone
  cases unwindRegister f.frameRegister with
  | none => rfl
  | some r =>
    by_cases h : (c.gpr r).toNat < f.frameOffset * 16
    · simp [h]
    · simp [h, Nat.le_of_not_lt h]

theorem saveNonvolFar_eq (w : World) (f : Loop) (c : Context) {info value : Nat} {r : Reg}
    (h : registers[info]? = some r) (hvalue : value ≤ uint64Max) :
    saveNonvolFar w f info value c = undoChecked w f c (.saveNonvol r value) := by
  unfold saveNonvolFar unwindRegister undoChecked addU64 admits undone
  rw [h]
  by_cases hfit : f.frameBase.toNat > uint64Max - value
  · simp [hfit, Nat.not_le.mpr hfit]
  · by_cases hread : readableRange w (up f.frameBase value).toNat 8 = true
    · simp [hfit, hread, hvalue, Nat.le_of_not_lt hfit]
    · simp [hfit, hread]

theorem saveNonvol_eq (w : World) (f : Loop) (c : Context) {info value : Nat} {r : Reg}
    (h : registers[info]? = some r) (hvalue : value < 65536) :
    saveNonvol w f info value c = undoChecked w f c (.saveNonvol r (8 * value)) := by
  have huint64 : uint64Max = 2 ^ 64 - 1 := by decide
  have hbase := f.frameBase.isLt
  have hlimit : value > (uint64Max - f.frameBase.toNat) / 8 ↔
      f.frameBase.toNat > uint64Max - 8 * value := by
    rw [huint64]
    omega
  unfold saveNonvol unwindRegister undoChecked admits undone
  rw [h, Nat.mul_comm value 8]
  simp only [hlimit]
  by_cases hfit : f.frameBase.toNat > uint64Max - 8 * value
  · simp [hfit, Nat.not_le.mpr hfit]
  · have hsmall : 8 * value ≤ uint64Max := by omega
    by_cases hread : readableRange w (up f.frameBase (8 * value)).toNat 8 = true
    · simp [hfit, hread, hsmall, Nat.le_of_not_lt hfit]
    · simp [hfit, hread]

/-! ## The array -/

/-- The slot is made of two bytes. -/
def InBytes (s : Slot) : Prop := s.low < 256 ∧ s.high < 256

theorem InBytes.info_lt (h : InBytes s) : s.info < 16 := by
  have := h.2
  unfold Slot.info
  omega

theorem InBytes.value_lt (h : InBytes s) : s.value < 65536 := by
  obtain ⟨hlow, hhigh⟩ := h
  unfold Slot.value
  omega

theorem slotsAt_inBytes (m : Memory) (base : Addr) (count : Nat) :
    ∀ s ∈ slotsAt m base count, InBytes s := by
  intro s hs
  obtain ⟨i, -, rfl⟩ := List.mem_map.mp hs
  exact ⟨(m _).isLt, (m _).isLt⟩

theorem registers_some {n : Nat} (h : n < 16) : ∃ r, registers[n]? = some r :=
  ⟨_, List.getElem?_eq_getElem (by exact h)⟩

theorem operand16_cons (x : Slot) (rest : List Slot) : operand16 (x :: rest) = x.value := rfl

theorem operand32_cons {x : Slot} (hx : InBytes x) (y : Slot) (rest : List Slot) :
    operand32 (x :: y :: rest) = x.value + 65536 * y.value := by
  have hlow : x.value < 2 ^ 16 := hx.value_lt
  have hor : x.value + 65536 * y.value = y.value <<< 16 ||| x.value := by
    have hsum := Nat.two_pow_add_eq_or_of_lt hlow y.value
    rw [Nat.shiftLeft_eq, Nat.mul_comm y.value, ← hsum]
    omega
  change (x.value + 65536 * y.value) ||| (y.value <<< 16) = _
  rw [hor, Nat.or_assoc, Nat.or_comm x.value, ← Nat.or_assoc, Nat.or_self]

/-- What the loop finds at a code that is well formed: how many slots it takes up, and that it
undoes what the code stands for. -/
structure Finds (w : World) (f : Loop) (s : Slot) (rest : List Slot) (code : Code)
    (rest' : List Slot) (operands : Nat) : Prop where
  slots : slotCount s.operation s.info = some (operands + 1)
  fits : operands ≤ rest.length
  left : rest' = rest.drop operands
  undoes : ∀ c, undoCode w f s.operation s.info rest c = undoChecked w f c code

theorem decodeOne_finds (hs : InBytes s) (hrest : ∀ x ∈ rest, InBytes x)
    (h : decodeOne (s :: rest) = some (code, rest')) :
    ∃ operands, Finds w f s rest code rest' operands := by
  obtain ⟨r, hr⟩ := registers_some hs.info_lt
  unfold decodeOne at h
  dsimp only at h
  split at h
  · -- a push
    rename_i hop
    rw [hr] at h
    cases h
    refine ⟨0, by rw [hop]; rfl, Nat.zero_le _, rfl, fun c => ?_⟩
    rw [hop]
    exact pushNonvol_eq w f c hr
  · -- a large allocation
    rename_i x rest hop
    split at h
    · rename_i hinfo
      cases h
      refine ⟨1, by rw [hop, hinfo]; rfl, Nat.le_add_left 1 _, rfl, fun c => ?_⟩
      rw [hop, hinfo, Nat.mul_comm]
      exact addToRsp_eq w f c _
    · rename_i y rest hinfo
      cases h
      refine ⟨2, by rw [hop, hinfo]; rfl, Nat.le_add_left 2 _, rfl, fun c => ?_⟩
      rw [hop, hinfo, ← operand32_cons (hrest x List.mem_cons_self) y rest']
      exact addToRsp_eq w f c _
    · cases h
  · -- a small allocation
    rename_i hop
    cases h
    refine ⟨0, by rw [hop]; rfl, Nat.zero_le _, rfl, fun c => ?_⟩
    rw [hop, Nat.mul_comm 8]
    exact addToRsp_eq w f c _
  · -- the frame pointer
    rename_i hop
    cases h
    refine ⟨0, by rw [hop]; rfl, Nat.zero_le _, rfl, fun c => ?_⟩
    rw [hop]
    exact setFpreg_eq w f c
  · -- a save
    rename_i x rest hop
    rw [hr] at h
    cases h
    refine ⟨1, by rw [hop]; rfl, Nat.le_add_left 1 _, rfl, fun c => ?_⟩
    rw [hop]
    exact saveNonvol_eq w f c hr (hrest x List.mem_cons_self).value_lt
  · -- a far save
    rename_i x y rest hop
    rw [hr] at h
    cases h
    have hx := (hrest x List.mem_cons_self).value_lt
    have hy := (hrest y (by simp)).value_lt
    have huint64 : uint64Max = 2 ^ 64 - 1 := by decide
    refine ⟨2, by rw [hop]; rfl, Nat.le_add_left 2 _, rfl, fun c => ?_⟩
    rw [hop, ← saveNonvolFar_eq w f c hr (by omega),
      ← operand32_cons (hrest x List.mem_cons_self) y rest']
    rfl
  · rename_i hop
    cases h
    exact ⟨1, by rw [hop]; rfl, Nat.le_add_left 1 _, rfl, fun c => by rw [hop]; rfl⟩
  · rename_i hop
    cases h
    exact ⟨2, by rw [hop]; rfl, Nat.le_add_left 2 _, rfl, fun c => by rw [hop]; rfl⟩
  · -- a machine frame
    rename_i hop
    cases h
    refine ⟨0, by rw [hop]; rfl, Nat.zero_le _, rfl, fun c => ?_⟩
    rw [hop]
    exact addToRsp_machframe w f c _
  · cases h

/-- A code with all its slots is well formed. -/
theorem decodeOne_isSome {operands : Nat} (hs : InBytes s)
    (h : slotCount s.operation s.info = some (operands + 1)) (hfits : operands ≤ rest.length) :
    (decodeOne (s :: rest)).isSome = true := by
  obtain ⟨r, hr⟩ := registers_some hs.info_lt
  have hone : 1 ≤ rest.length → ∃ x rest', rest = x :: rest' := by
    intro hlen
    cases rest with
    | nil => cases hlen
    | cons x rest => exact ⟨x, rest, rfl⟩
  have htwo : 2 ≤ rest.length → ∃ x y rest', rest = x :: y :: rest' := by
    intro hlen
    match rest with
    | x :: y :: rest => exact ⟨x, y, rest, rfl⟩
  unfold slotCount at h
  split at h
  · rename_i hop
    split at h
    · rename_i hinfo
      cases h
      obtain ⟨x, rest', rfl⟩ := hone hfits
      simp [decodeOne, hop, hinfo]
    · split at h
      · rename_i hinfo
        cases h
        obtain ⟨x, y, rest', rfl⟩ := htwo hfits
        simp [decodeOne, hop, hinfo]
      · cases h
  · split at h
    · rename_i hop
      cases h
      obtain ⟨x, rest', rfl⟩ := hone hfits
      rcases hop with hop | hop <;> simp [decodeOne, hop, hr]
    · split at h
      · rename_i hop
        cases h
        obtain ⟨x, y, rest', rfl⟩ := htwo hfits
        rcases hop with hop | hop <;> simp [decodeOne, hop, hr]
      · split at h
        · rename_i hop
          rcases hop with hop | hop | hop | hop <;> simp [decodeOne, hop, hr]
        · cases h

/-! ## The loop -/

/-- The codes are undone one after the other. -/
def undoAllChecked (w : World) (f : Loop) : List Code → Context → Step
  | [], c => .ok c
  | code :: codes, c =>
    match undoChecked w f c code with
    | .error c => .error c
    | .ok c => undoAllChecked w f codes c

theorem undoCodes_skip (w : World) (f : Loop) (slots : List Slot) (operands : Nat) (c : Context) :
    undoCodes w f slots operands c = undoCodes w f (slots.drop operands) 0 c := by
  induction slots generalizing operands with
  | nil => cases operands <;> rfl
  | cons s rest ih =>
    cases operands with
    | zero => rfl
    | succ operands => exact ih operands

/-- One turn of the loop, at a code. -/
theorem undoCodes_cons (w : World) (f : Loop) (hs : InBytes s) (hrest : ∀ x ∈ rest, InBytes x)
    (c : Context) :
    undoCodes w f (s :: rest) 0 c =
      match decodeOne (s :: rest) with
      | none => .error c
      | some (code, rest') =>
        if s.low ≤ f.prologueOffset then
          match undoChecked w f c code with
          | .error c => .error c
          | .ok c => undoCodes w f rest' 0 c
        else undoCodes w f rest' 0 c := by
  conv_lhs => unfold undoCodes
  cases hone : decodeOne (s :: rest) with
  | none =>
    dsimp only
    cases hslots : slotCount s.operation s.info with
    | none => rfl
    | some count =>
      dsimp only
      obtain ⟨operands, rfl⟩ : ∃ operands, count = operands + 1 := by
        refine ⟨count - 1, ?_⟩
        unfold slotCount at hslots
        grind
      rw [if_pos]
      by_contra hfits
      have hsome := decodeOne_isSome hs hslots (show operands ≤ rest.length by omega)
      rw [hone] at hsome
      cases hsome
  | some found =>
    obtain ⟨code, rest'⟩ := found
    obtain ⟨operands, hslots, hfits, rfl, hundoes⟩ :=
      decodeOne_finds (w := w) (f := f) hs hrest hone
    rw [hslots]
    simp only [gt_iff_lt, Nat.add_sub_cancel, Nat.add_lt_add_iff_right, Nat.not_lt.mpr hfits,
      if_false, hundoes, undoCodes_skip w f rest operands]
    by_cases hoffset : s.low ≤ f.prologueOffset
    · cases undoChecked w f c code <;> simp only [if_neg (Nat.not_lt.mpr hoffset), if_pos hoffset]
    · rw [if_pos (Nat.lt_of_not_le hoffset), if_neg hoffset]

theorem decodeOne_left (w : World) (f : Loop) (hs : InBytes s) (hrest : ∀ x ∈ rest, InBytes x)
    (h : decodeOne (s :: rest) = some (code, rest')) :
    (∀ x ∈ rest', InBytes x) ∧ rest'.length ≤ rest.length := by
  obtain ⟨operands, -, -, rfl, -⟩ := decodeOne_finds (w := w) (f := f) hs hrest h
  exact ⟨fun x hx => hrest x (List.mem_of_mem_drop hx), by simp⟩

theorem reached_cons_pos {e : Entry} {offset : Nat} (h : e.offset ≤ offset) :
    reached offset (e :: l) = e.code :: reached offset l := by
  unfold reached
  rw [List.filter_cons_of_pos (by simpa using h), List.map_cons]

theorem reached_cons_neg {e : Entry} {offset : Nat} (h : ¬ e.offset ≤ offset) :
    reached offset (e :: l) = reached offset l := by
  unfold reached
  rw [List.filter_cons_of_neg (by simpa using h)]

/-- The loop undoes the codes that are reached, if the array is well formed. -/
theorem undoCodes_decode (w : World) (f : Loop) :
    ∀ (turns : Nat) (slots : List Slot) (l : List Entry) (c : Context),
      (∀ s ∈ slots, InBytes s) → decode turns slots = some l →
      undoCodes w f slots 0 c = undoAllChecked w f (reached f.prologueOffset l) c := by
  intro turns
  induction turns with
  | zero =>
    intro slots l c hbytes h
    cases slots with
    | nil =>
      cases h
      rfl
    | cons s rest => cases h
  | succ turns ih =>
    intro slots l c hbytes h
    cases slots with
    | nil =>
      cases h
      rfl
    | cons s rest =>
      rw [List.forall_mem_cons] at hbytes
      unfold decode at h
      split at h
      · cases h
      · rename_i code rest' hone
        obtain ⟨l', hl', rfl⟩ := Option.map_eq_some_iff.mp h
        obtain ⟨hleft, -⟩ := decodeOne_left w f hbytes.1 hbytes.2 hone
        rw [undoCodes_cons w f hbytes.1 hbytes.2, hone]
        dsimp only
        by_cases hoffset : s.low ≤ f.prologueOffset
        · rw [if_pos hoffset, reached_cons_pos hoffset, undoAllChecked]
          cases undoChecked w f c code with
          | error c' => rfl
          | ok c' => exact ih _ _ c' hleft hl'
        · rw [if_neg hoffset, reached_cons_neg hoffset]
          exact ih _ _ c hleft hl'

/-- An array that is not well formed makes the loop fail, if nothing else does before. -/
theorem undoCodes_malformed (w : World) (f : Loop) :
    ∀ (turns : Nat) (slots : List Slot) (c : Context), slots.length ≤ turns →
      (∀ s ∈ slots, InBytes s) → decode turns slots = none →
      ∃ c', undoCodes w f slots 0 c = .error c' := by
  intro turns
  induction turns with
  | zero =>
    intro slots c hturns hbytes h
    cases slots with
    | nil => cases h
    | cons s rest => cases hturns
  | succ turns ih =>
    intro slots c hturns hbytes h
    cases slots with
    | nil => cases h
    | cons s rest =>
      rw [List.forall_mem_cons] at hbytes
      rw [List.length_cons] at hturns
      rw [undoCodes_cons w f hbytes.1 hbytes.2]
      unfold decode at h
      cases hone : decodeOne (s :: rest) with
      | none => exact ⟨c, rfl⟩
      | some found =>
        obtain ⟨code, rest'⟩ := found
        obtain ⟨hleft, hshort⟩ := decodeOne_left w f hbytes.1 hbytes.2 hone
        rw [hone] at h
        have hagain := fun c => ih rest' c (by omega) hleft (Option.map_eq_none_iff.mp h)
        dsimp only
        split
        · split
          · exact ⟨_, rfl⟩
          · exact hagain _
        · exact hagain c

/-- However the loop ends, it has undone some of the codes that are reached, the first ones,
and nothing else. -/
theorem undoCodes_stops (w : World) (f : Loop) :
    ∀ (turns : Nat) (slots : List Slot) (c c' : Context), slots.length ≤ turns →
      (∀ s ∈ slots, InBytes s) →
      (undoCodes w f slots 0 c = .error c' ∨ undoCodes w f slots 0 c = .ok c') →
      ∃ done, done <+: reached f.prologueOffset (wellFormed turns slots) ∧
        c' = done.foldl (undone w f) c := by
  intro turns
  induction turns with
  | zero =>
    intro slots c c' hturns hbytes h
    cases slots with
    | nil =>
      refine ⟨[], List.nil_prefix, ?_⟩
      rcases h with h | h
      · cases h
      · cases h
        rfl
    | cons s rest => cases hturns
  | succ turns ih =>
    intro slots c c' hturns hbytes h
    cases slots with
    | nil =>
      refine ⟨[], List.nil_prefix, ?_⟩
      rcases h with h | h
      · cases h
      · cases h
        rfl
    | cons s rest =>
      rw [List.forall_mem_cons] at hbytes
      rw [List.length_cons] at hturns
      rw [undoCodes_cons w f hbytes.1 hbytes.2] at h
      unfold wellFormed
      cases hone : decodeOne (s :: rest) with
      | none =>
        rw [hone] at h
        refine ⟨[], List.nil_prefix, ?_⟩
        rcases h with h | h
        · cases h
          rfl
        · cases h
      | some found =>
        obtain ⟨code, rest'⟩ := found
        obtain ⟨hleft, hshort⟩ := decodeOne_left w f hbytes.1 hbytes.2 hone
        rw [hone] at h
        dsimp only at h ⊢
        by_cases hoffset : s.low ≤ f.prologueOffset
        · rw [if_pos hoffset] at h
          rw [reached_cons_pos hoffset]
          unfold undoChecked at h
          split at h
          · rename_i c1 hc1
            refine ⟨[], List.nil_prefix, ?_⟩
            split at hc1
            · cases hc1
            · cases hc1
              rcases h with h | h
              · cases h
                rfl
              · cases h
          · rename_i c1 hc1
            split at hc1
            · cases hc1
              obtain ⟨done, hdone, heq⟩ := ih rest' _ c' (by omega) hleft h
              exact ⟨code :: done, List.prefix_cons_inj code |>.mpr hdone, heq⟩
            · cases hc1
        · rw [if_neg hoffset] at h
          rw [reached_cons_neg hoffset]
          exact ih rest' c c' (by omega) hleft h

end Gate4Harness.Unwind
