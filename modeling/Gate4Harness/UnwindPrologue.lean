-- Unwinding takes a prologue back. A prologue without a frame pointer pushes registers and
-- makes room on the stack, and then stores registers above RSP. Wherever it is interrupted,
-- the words that it left on the stack are those that the unwinder goes back to.
import Gate4Harness.UnwindOutcome

namespace Gate4Harness.Unwind

open ByteMemory Amd64 UnwindData
open Vm (uint64Max uint32Max)
open scoped Vm

/-! ## Prologues -/

inductive FrameOp
  | push (r : Reg)
  | alloc (bytes : Nat)
  deriving DecidableEq, Repr

namespace FrameOp

def instr : FrameOp → Instr
  | push r => .pushq r
  | alloc bytes => .subq bytes .rsp

def code : FrameOp → Code
  | push r => .pushNonvol r
  | alloc bytes => .alloc bytes

def bytes : FrameOp → Nat
  | push _ => 8
  | alloc bytes => bytes

def saved : FrameOp → List Reg
  | push r => [r]
  | alloc _ => []

end FrameOp

/-- The instructions in their order, each with the offset in the function at which it ends. A
store has its register and its offset above RSP. -/
structure Prologue where
  frame : List (Nat × FrameOp)
  saves : List (Nat × Reg × Nat)
  deriving DecidableEq, Repr

namespace Prologue

/-- The part of a prologue whose instructions have ended. -/
def upTo (p : Prologue) (offset : Nat) : Prologue :=
  { frame := p.frame.filter fun e => e.1 ≤ offset
    saves := p.saves.filter fun e => e.1 ≤ offset }

def stores (p : Prologue) : List (Reg × Nat) := p.saves.map Prod.snd

/-- The pushes and allocations, the last one first. -/
def ops (p : Prologue) : List FrameOp := (p.frame.map Prod.snd).reverse

def instrs (p : Prologue) : List Instr :=
  (p.ops.map FrameOp.instr).reverse ++ storeAll .rsp p.stores

/-- The codes of a prologue, in the order in which they stand in unwind data. -/
def entries (p : Prologue) : List Entry :=
  (p.saves.map fun e => ⟨e.1, .saveNonvol e.2.1 e.2.2⟩).reverse ++
    (p.frame.map fun e => ⟨e.1, e.2.code⟩).reverse

/-- The registers that have a place on the stack. -/
def saved (p : Prologue) : List Reg := p.ops.flatMap FrameOp.saved ++ p.stores.map Prod.fst

end Prologue

/-- The offsets above RSP of the words that were pushed, the return address last. -/
def frameOffsets : List FrameOp → Nat → List Nat
  | [], k => [k]
  | .push _ :: ops, k => k :: frameOffsets ops (k + 8)
  | .alloc bytes :: ops, k => frameOffsets ops (k + bytes)

def Prologue.offsets (p : Prologue) : List Nat :=
  p.stores.map Prod.snd ++ frameOffsets p.ops 0

/-- The registers are non-volatile, the instructions end one after the other, and no store hits
another one, a register that was pushed or the return address. -/
structure Prologue.Valid (p : Prologue) : Prop where
  nonvolatile : ∀ r ∈ p.saved, r ∈ nonvolatileGprs
  sorted : (p.frame.map Prod.fst ++ p.saves.map Prod.fst).Pairwise (· < ·)
  apart : p.offsets.Pairwise fun i j => i + 8 ≤ j ∨ j + 8 ≤ i

variable {w : World} {f : Loop} {c c' : Context} {p : Prologue} {offset k j : Nat}
  {ops : List FrameOp} {g ret : Addr} {m m' : Memory} {s x caller : State}
  {gpr : Reg → BitVec 64}

/-! ## What a prologue leaves on the stack -/

def frameBytes (ops : List FrameOp) : Nat := (ops.map FrameOp.bytes).sum

/-- The words that pushes leave, the newest first, with the return address under them. -/
def frameWords (gpr : Reg → BitVec 64) (ret : Addr) : List FrameOp → Nat → List Word
  | [], k => [⟨k, 64, ret⟩]
  | .push r :: ops, k => ⟨k, 64, gpr r⟩ :: frameWords gpr ret ops (k + 8)
  | .alloc bytes :: ops, k => frameWords gpr ret ops (k + bytes)

def Prologue.words (p : Prologue) (gpr : Reg → BitVec 64) (ret : Addr) : List Word :=
  gprWords gpr p.stores ++ frameWords gpr ret p.ops 0

theorem frameWords_offsets (gpr : Reg → BitVec 64) (ret : Addr) (ops : List FrameOp) (k : Nat) :
    (frameWords gpr ret ops k).map Word.offset = frameOffsets ops k := by
  induction ops generalizing k with
  | nil => rfl
  | cons op ops ih =>
    cases op with
    | push r => exact congrArg (k :: ·) (ih (k + 8))
    | alloc bytes => exact ih (k + bytes)

theorem frameWords_width {y : Word} (hy : y ∈ frameWords gpr ret ops k) : y.width = 64 := by
  induction ops generalizing k with
  | nil =>
    obtain rfl := List.mem_singleton.mp hy
    rfl
  | cons op ops ih =>
    cases op with
    | push r =>
      rcases List.mem_cons.mp hy with rfl | hy
      · rfl
      · exact ih hy
    | alloc bytes => exact ih hy

theorem frameWords_shift (gpr : Reg → BitVec 64) (ret : Addr) (ops : List FrameOp) (j k : Nat) :
    frameWords gpr ret ops (j + k) = (frameWords gpr ret ops k).map (Word.shift j) := by
  induction ops generalizing k with
  | nil => rfl
  | cons op ops ih =>
    cases op with
    | push r =>
      change _ :: frameWords gpr ret ops (j + k + 8) = _ :: _
      rw [Nat.add_assoc, ih]
      rfl
    | alloc bytes =>
      change frameWords gpr ret ops (j + k + bytes) = _
      rw [Nat.add_assoc, ih]
      rfl

/-- The words lie between where they are counted from and the end of the return address. -/
theorem frameOffsets_le (ops : List FrameOp) (k : Nat) :
    ∀ i ∈ frameOffsets ops k, k ≤ i ∧ i ≤ k + frameBytes ops := by
  induction ops generalizing k with
  | nil =>
    intro i hi
    obtain rfl := List.mem_singleton.mp hi
    exact ⟨Nat.le_refl _, Nat.le_add_right _ _⟩
  | cons op ops ih =>
    intro i hi
    have hbytes : frameBytes (op :: ops) = op.bytes + frameBytes ops := by simp [frameBytes]
    rw [hbytes]
    cases op with
    | push r =>
      simp only [FrameOp.bytes]
      rcases List.mem_cons.mp hi with rfl | hi
      · omega
      · have := ih (k + 8) i hi
        omega
    | alloc bytes =>
      simp only [FrameOp.bytes]
      have := ih (k + bytes) i hi
      omega

/-- The return address is the last of the words. -/
theorem ret_mem_frameWords (gpr : Reg → BitVec 64) (ret : Addr) (ops : List FrameOp) (k : Nat) :
    (⟨k + frameBytes ops, 64, ret⟩ : Word) ∈ frameWords gpr ret ops k := by
  induction ops generalizing k with
  | nil => exact List.mem_singleton.mpr rfl
  | cons op ops ih =>
    have hbytes : k + frameBytes (op :: ops) = k + op.bytes + frameBytes ops := by
      simp [frameBytes, Nat.add_assoc]
    rw [hbytes]
    cases op with
    | push r => exact List.mem_cons_of_mem _ (ih (k + 8))
    | alloc bytes => exact ih (k + bytes)

theorem ret_mem_frameOffsets (ops : List FrameOp) (k : Nat) :
    k + frameBytes ops ∈ frameOffsets ops k := by
  rw [← frameWords_offsets (fun _ => 0) 0]
  exact List.mem_map_of_mem (ret_mem_frameWords (fun _ => 0) 0 ops k)

theorem frameWords_within {y : Word} (hy : y ∈ frameWords gpr ret ops k) :
    y.Within k (k + frameBytes ops + 8) := by
  have hoffset : y.offset ∈ frameOffsets ops k := by
    rw [← frameWords_offsets gpr ret]
    exact List.mem_map_of_mem hy
  have hwidth := frameWords_width hy
  have := frameOffsets_le ops k _ hoffset
  unfold Word.Within
  omega

/-- The state after the pushes and allocations of a function that was called. -/
structure Framed (caller : State) (ret : Addr) (ops : List FrameOp) (s : State) : Prop where
  rsp : up (s.gpr .rsp) (frameBytes ops + 8) = caller.gpr .rsp
  gpr : ∀ r ≠ .rsp, s.gpr r = caller.gpr r
  words : Holds s.memory (s.gpr .rsp) (frameWords caller.gpr ret ops 0)

/-- A word that is stored below some words leaves them. -/
theorem Holds.push {words : List Word} (h : Holds m (up g 8) words) (v : BitVec 64)
    (hin : ∀ y ∈ words, y.width % 8 = 0 ∧ 8 + y.offset + y.width / 8 ≤ 2 ^ 64) :
    Holds (write m g v) (up g 8) words := by
  intro y hy
  obtain ⟨hwidth, hend⟩ := hin y hy
  have hapart : Apart g (64 / 8) (up g (8 + y.offset)) (y.width / 8) :=
    apart_above g (Nat.le_add_right 8 _) hend
  rw [← h y hy, up_up]
  exact read_write_apart m v hwidth hapart

theorem exec_frame (caller : State) (ret : Addr) (ops : List FrameOp)
    (hregs : .rsp ∉ ops.flatMap FrameOp.saved) (hfit : frameBytes ops + 8 ≤ 2 ^ 64) :
    Framed caller ret ops (exec (ops.map FrameOp.instr).reverse (caller.push ret)) := by
  induction ops with
  | nil =>
    refine ⟨?_, fun r hr => by simp [hr], ?_⟩
    · change up (caller.gpr .rsp - 8#64) 8 = _
      exact up_sub_self _ 8
    · intro y hy
      obtain rfl := List.mem_singleton.mp hy
      change read (write caller.memory (caller.gpr .rsp - 8#64) ret)
        (up (caller.gpr .rsp - 8#64) 0) 64 = ret
      rw [up_zero, read_write_same _ _ _ (by decide) (by decide)]
  | cons op ops ih =>
    have hbytes : frameBytes (op :: ops) = op.bytes + frameBytes ops := by simp [frameBytes]
    rw [hbytes] at hfit
    rw [List.flatMap_cons, List.mem_append, not_or] at hregs
    obtain ⟨hrsp, hgpr, hwords⟩ := ih hregs.2 (by omega)
    rw [List.map_cons, List.reverse_cons, exec_append]
    generalize exec (ops.map FrameOp.instr).reverse (caller.push ret) = s at hrsp hgpr hwords
    cases op with
    | push r =>
      have hup : up (s.gpr .rsp - 8#64) 8 = s.gpr .rsp := up_sub_self _ 8
      have hr : r ≠ .rsp := fun h => hregs.1 (by simp [FrameOp.saved, h])
      simp only [FrameOp.bytes] at hfit
      refine ⟨?_, fun r' hr' => ?_, ?_⟩
      · change up (s.gpr .rsp - 8#64) (8 + frameBytes ops + 8) = _
        rw [Nat.add_assoc, ← up_up, hup]
        exact hrsp
      · change Function.update s.gpr .rsp _ r' = _
        rw [Function.update_of_ne hr', hgpr r' hr']
      · change Holds (write s.memory (s.gpr .rsp - 8#64) (s.gpr r)) (s.gpr .rsp - 8#64)
          (⟨0, 64, caller.gpr r⟩ :: frameWords caller.gpr ret ops (8 + 0))
        rw [holds_cons, frameWords_shift, holds_shift, hup]
        constructor
        · change read _ (up _ 0) 64 = _
          rw [up_zero, read_write_same _ _ _ (by decide) (by decide), hgpr r hr]
        · rw [← hup] at hwords
          have hpush := Holds.push hwords (s.gpr r) fun y hy => by
            obtain ⟨hwidth, -, hend⟩ := frameWords_within hy
            exact ⟨hwidth, by omega⟩
          rwa [hup] at hpush
    | alloc bytes =>
      have hup : up (s.gpr .rsp - BitVec.ofNat 64 bytes) bytes = s.gpr .rsp := up_sub_self _ bytes
      refine ⟨?_, fun r' hr' => ?_, ?_⟩
      · change up (s.gpr .rsp - BitVec.ofNat 64 bytes) (bytes + frameBytes ops + 8) = _
        rw [Nat.add_assoc, ← up_up, hup]
        exact hrsp
      · change Function.update s.gpr .rsp _ r' = _
        rw [Function.update_of_ne hr', hgpr r' hr']
      · change Holds s.memory (s.gpr .rsp - BitVec.ofNat 64 bytes)
          (frameWords caller.gpr ret ops (0 + bytes))
        rw [Nat.add_comm, frameWords_shift, holds_shift, hup]
        exact hwords

/-- The state of a function that was called, after its prologue. -/
def Prologue.run (p : Prologue) (caller : State) (ret : Addr) : State :=
  exec p.instrs (caller.push ret)

theorem Prologue.instrs_rsp (p : Prologue) (s : State) :
    (exec p.instrs s).gpr .rsp = (exec (p.ops.map FrameOp.instr).reverse s).gpr .rsp := by
  unfold Prologue.instrs
  rw [exec_append, exec_storeAll]
  rfl

theorem gprWords_slot {slots : List (Reg × Nat)} {y : Word} (hy : y ∈ gprWords gpr slots) :
    y.width = 64 ∧ y.offset ∈ slots.map Prod.snd := by
  obtain ⟨e, he, rfl⟩ := List.mem_map.mp hy
  exact ⟨rfl, List.mem_map_of_mem he⟩

/-- Words of registers are clear of each other where their offsets are. -/
theorem gprWords_clear {slots : List (Reg × Nat)}
    (h : (slots.map Prod.snd).Pairwise fun i j => i + 8 ≤ j ∨ j + 8 ≤ i) :
    (gprWords gpr slots).Pairwise Word.Clear := by
  rw [List.pairwise_map] at h
  refine List.pairwise_map.mpr (h.imp fun {e e'} hclear => ?_)
  unfold Word.Clear
  simpa using hclear

/-- After a prologue each of its words is on the stack, counted from RSP. -/
theorem Prologue.run_words (caller : State) (ret : Addr) (hregs : ∀ r ∈ p.saved, r ≠ .rsp)
    (hapart : p.offsets.Pairwise fun i j => i + 8 ≤ j ∨ j + 8 ≤ i)
    (hfit : ∀ i ∈ p.offsets, i + 8 ≤ 2 ^ 64) :
    up ((p.run caller ret).gpr .rsp) (frameBytes p.ops + 8) = caller.gpr .rsp ∧
    (∀ r ≠ .rsp, (p.run caller ret).gpr r = caller.gpr r) ∧
    Holds (p.run caller ret).memory ((p.run caller ret).gpr .rsp) (p.words caller.gpr ret) := by
  have hret : frameBytes p.ops ∈ frameOffsets p.ops 0 := by
    have := ret_mem_frameOffsets p.ops 0
    rwa [Nat.zero_add] at this
  obtain ⟨hstores, hframe, hclear⟩ := List.pairwise_append.mp hapart
  obtain ⟨hrsp, hgpr, hwords⟩ := exec_frame caller ret p.ops
    (fun h => hregs .rsp (List.mem_append_left _ h) rfl)
    (hfit _ (List.mem_append_right _ hret))
  have hsame : ∀ e ∈ p.stores, (exec (p.ops.map FrameOp.instr).reverse
      (caller.push ret)).gpr e.1 = caller.gpr e.1 := fun e he =>
    hgpr _ (hregs _ (List.mem_append_right _ (List.mem_map_of_mem he)))
  have hvalues : gprWords (exec (p.ops.map FrameOp.instr).reverse (caller.push ret)).gpr p.stores =
      gprWords caller.gpr p.stores :=
    List.map_congr_left fun e he => by rw [hsame e he]
  unfold Prologue.run Prologue.instrs
  rw [exec_append, exec_storeAll, hvalues]
  generalize exec (p.ops.map FrameOp.instr).reverse (caller.push ret) = s at hrsp hgpr hwords
  refine ⟨hrsp, hgpr, ?_⟩
  unfold Prologue.words
  rw [holds_append]
  constructor
  · have hlaid : Laid 0 (2 ^ 64) (gprWords caller.gpr p.stores) := by
      refine ⟨fun y hy => ?_, gprWords_clear hstores⟩
      obtain ⟨hwidth, hslot⟩ := gprWords_slot hy
      have := hfit _ (List.mem_append_left _ hslot)
      unfold Word.Within
      omega
    exact holds_storeWords _ _ hlaid (Nat.le_refl _)
  · intro y hy
    have hoffset : y.offset ∈ frameOffsets p.ops 0 := by
      rw [← frameWords_offsets caller.gpr ret]
      exact List.mem_map_of_mem hy
    have hwidth := frameWords_width hy
    refine (read_storeWords s.memory (s.gpr .rsp) ?_ ?_ (by omega) ?_).trans (hwords y hy)
    · intro z hz
      obtain ⟨hwidth', hslot⟩ := gprWords_slot hz
      have := hclear _ hslot _ hoffset
      omega
    · intro z hz
      obtain ⟨hwidth', hslot⟩ := gprWords_slot hz
      have := hfit _ (List.mem_append_left _ hslot)
      omega
    · have := hfit _ (List.mem_append_right _ hoffset)
      omega

/-! ## Going back over the words -/

/-- The registers in `done` have their values of before the call again. -/
structure Restored (caller gpr : Reg → BitVec 64) (done : List Reg) (rsp : BitVec 64)
    (c : Context) : Prop where
  rsp : c.gpr .rsp = rsp
  gpr : ∀ r ≠ .rsp, c.gpr r = if r ∈ done then caller r else gpr r

theorem Restored.setGpr {values : Reg → BitVec 64} {done : List Reg} {rsp v : BitVec 64} {r : Reg}
    (h : Restored values gpr done rsp c) (hr : r ≠ .rsp) (hv : v = values r) :
    Restored values gpr (done ++ [r]) rsp (c.setGpr r v) := by
  refine ⟨?_, fun r' hr' => ?_⟩
  · change Function.update c.gpr r v .rsp = _
    rw [Function.update_of_ne hr.symm, h.rsp]
  · change Function.update c.gpr r v r' = _
    by_cases heq : r' = r
    · subst heq
      simp [hv]
    · rw [Function.update_of_ne heq, h.gpr r' hr']
      simp [heq]

theorem Restored.setRsp {values : Reg → BitVec 64} {done : List Reg} {rsp v : BitVec 64}
    (h : Restored values gpr done rsp c) : Restored values gpr done v (c.setGpr .rsp v) := by
  refine ⟨by simp [Context.setGpr], fun r hr => ?_⟩
  change Function.update c.gpr .rsp v r = _
  rw [Function.update_of_ne hr, h.gpr r hr]

theorem readableRange_fits {address bytes : Nat} (h : readableRange w address bytes = true) :
    bytes ≠ 0 ∧ address ≤ uint64Max - bytes := by
  have hrange : ∀ {lower upper}, rangeWithin address bytes lower upper = true →
      bytes ≠ 0 ∧ address ≤ uint64Max - bytes := by
    intro lower upper h
    unfold rangeWithin at h
    split at h
    · cases h
    · rename_i hargs
      simp only [not_or, Nat.not_lt, gt_iff_lt] at hargs
      exact ⟨hargs.1, hargs.2.2.2.2⟩
  have harena : committedArenaRange w.virtualArena address bytes = true →
      bytes ≠ 0 ∧ address ≤ uint64Max - bytes := by
    intro h
    unfold committedArenaRange at h
    split at h
    · cases h
    · rename_i hargs
      simp only [not_or, Nat.not_lt, gt_iff_lt] at hargs
      exact ⟨hargs.2.1, hargs.2.2.1⟩
  unfold readableRange at h
  split at h
  · cases h
  · simp only [Bool.or_eq_true, Bool.and_eq_true, List.any_eq_true] at h
    rcases h with (((h | h) | ⟨-, h⟩) | h) | ⟨_, -, h⟩
    · exact hrange h
    · exact hrange h
    · exact hrange h
    · exact harena h
    · exact hrange h

/-- The word at an offset is one that the unwinder may read. -/
def Readable (w : World) (g : Addr) (i : Nat) : Prop := readableRange w (g.toNat + i) 8 = true

theorem Readable.fits (h : Readable w g k) : g.toNat + k + 8 < 2 ^ 64 := by
  have := (readableRange_fits h).2
  have huint64 : uint64Max = 2 ^ 64 - 1 := by decide
  omega

theorem up_toNat (h : g.toNat + k < 2 ^ 64) : (up g k).toNat = g.toNat + k := by
  unfold up
  rw [BitVec.toNat_add, BitVec.toNat_ofNat, Nat.mod_eq_of_lt (by omega : k < 2 ^ 64),
    Nat.mod_eq_of_lt h]

variable {values : Reg → BitVec 64} {done : List Reg} {stores : List (Reg × Nat)}

/-- The saves come first, and each reads its slot above RSP. -/
theorem undo_saves (hbase : f.frameBase = g) (hstores : ∀ e ∈ stores, e.1 ≠ .rsp ∧
      Readable w g e.2 ∧ read w.memory (up g e.2) 64 = values e.1)
    (h : Restored values gpr done g c) (rest : List Code) :
    ∃ c', undoAllChecked w f ((stores.map fun e => .saveNonvol e.1 e.2) ++ rest) c =
        undoAllChecked w f rest c' ∧
      Restored values gpr (done ++ stores.map Prod.fst) g c' := by
  induction stores generalizing c done with
  | nil => exact ⟨c, rfl, by simpa using h⟩
  | cons e stores ih =>
    rw [List.forall_mem_cons] at hstores
    obtain ⟨⟨hr, hread, hvalue⟩, hrest⟩ := hstores
    have hfits := hread.fits
    have huint64 : uint64Max = 2 ^ 64 - 1 := by decide
    have hadmits : admits w f c (.saveNonvol e.1 e.2) = true := by
      simp only [admits, hbase]
      rw [up_toNat (by omega)]
      unfold Readable at hread
      simp only [hread, Bool.and_true, Bool.and_eq_true, decide_eq_true_eq]
      omega
    obtain ⟨c', hc', hrestored⟩ := ih hrest (h.setGpr hr hvalue)
    refine ⟨c', ?_, by simpa using hrestored⟩
    rw [List.map_cons, List.cons_append, undoAllChecked, undoChecked, if_pos hadmits]
    simp only [undone, hbase]
    exact hc'

/-- The pushes and allocations follow, and RSP goes up to the return address. -/
theorem undo_frame (hregs : .rsp ∉ ops.flatMap FrameOp.saved)
    (hwords : Holds w.memory g (frameWords values ret ops k))
    (hread : ∀ i ∈ frameOffsets ops k, Readable w g i)
    (h : Restored values gpr done (up g k) c) :
    ∃ c', undoAllChecked w f (ops.map FrameOp.code) c = .ok c' ∧
      Restored values gpr (done ++ ops.flatMap FrameOp.saved) (up g (k + frameBytes ops)) c' := by
  have huint64 : uint64Max = 2 ^ 64 - 1 := by decide
  induction ops generalizing c done k with
  | nil => exact ⟨c, rfl, by simpa [frameBytes] using h⟩
  | cons op ops ih =>
    rw [List.flatMap_cons, List.mem_append, not_or] at hregs
    have hfits := (hread _ (ret_mem_frameOffsets (op :: ops) k)).fits
    have hbytes : frameBytes (op :: ops) = op.bytes + frameBytes ops := by simp [frameBytes]
    rw [hbytes] at hfits ⊢
    rw [← Nat.add_assoc k]
    have hrsp := h.rsp
    cases op with
    | push r =>
      obtain ⟨hword, hwords⟩ := holds_cons.mp hwords
      have hr : r ≠ .rsp := fun heq => hregs.1 (by simp [FrameOp.saved, heq])
      have hread0 : Readable w g k := hread k List.mem_cons_self
      have hfits0 := hread0.fits
      have hadmits : admits w f c (.pushNonvol r) = true := by
        simp only [admits, hrsp]
        rw [up_toNat (by omega)]
        unfold Readable at hread0
        simp only [hread0, Bool.true_and, decide_eq_true_eq]
        omega
      have hstep : Restored values gpr (done ++ [r]) (up g (k + 8))
          (undone w f c (.pushNonvol r)) := by
        simp only [undone, hrsp, up_up]
        exact h.setRsp.setGpr hr hword
      obtain ⟨c', hc', hrestored⟩ := ih hregs.2 hwords
        (fun i hi => hread i (List.mem_cons_of_mem _ hi)) hstep
      refine ⟨c', ?_, by simpa [FrameOp.saved, FrameOp.bytes] using hrestored⟩
      rw [List.map_cons, undoAllChecked, undoChecked, FrameOp.code, if_pos hadmits]
      exact hc'
    | alloc bytes =>
      simp only [FrameOp.bytes] at hfits
      have hadmits : admits w f c (.alloc bytes) = true := by
        simp only [admits, hrsp, decide_eq_true_eq]
        rw [up_toNat (by omega)]
        omega
      have hstep : Restored values gpr done (up g (k + bytes)) (undone w f c (.alloc bytes)) := by
        simp only [undone, hrsp, up_up]
        exact h.setRsp
      obtain ⟨c', hc', hrestored⟩ := ih hregs.2 hwords hread hstep
      refine ⟨c', ?_, by simpa [FrameOp.saved, FrameOp.bytes] using hrestored⟩
      rw [List.map_cons, undoAllChecked, undoChecked, FrameOp.code, if_pos hadmits]
      exact hc'

theorem Readable.pop (h : Readable w g k) : ∃ e, readStackU64 w (up g k) = some e := by
  have hfits := h.fits
  have huint64 : uint64Max = 2 ^ 64 - 1 := by decide
  unfold readStackU64 addU64
  unfold Readable at h
  rw [up_toNat (by omega), if_neg (not_not.mpr h), if_neg (by omega)]
  exact ⟨_, rfl⟩

/-! ## Interrupted prologues -/

theorem frameOffsets_apart (ops : List FrameOp) (k : Nat) :
    (frameOffsets ops k).Pairwise fun i j => i + 8 ≤ j ∨ j + 8 ≤ i := by
  induction ops generalizing k with
  | nil => exact List.pairwise_singleton ..
  | cons op ops ih =>
    cases op with
    | push r =>
      refine List.pairwise_cons.mpr ⟨fun i hi => .inl ?_, ih (k + 8)⟩
      exact (frameOffsets_le ops (k + 8) i hi).1
    | alloc bytes => exact ih (k + bytes)

theorem Prologue.upTo_saved (p : Prologue) (offset : Nat) :
    (p.upTo offset).saved ⊆ p.saved := by
  have hframe : (p.upTo offset).ops ⊆ p.ops := by
    intro op hop
    unfold Prologue.ops Prologue.upTo at hop
    unfold Prologue.ops
    rw [List.mem_reverse] at hop ⊢
    exact List.map_subset _ (List.filter_subset_self _) hop
  intro r hr
  unfold Prologue.saved at hr ⊢
  rw [List.mem_append] at hr ⊢
  rcases hr with hr | hr
  · obtain ⟨op, hop, hr⟩ := List.mem_flatMap.mp hr
    exact .inl (List.mem_flatMap.mpr ⟨op, hframe hop, hr⟩)
  · obtain ⟨e, he, rfl⟩ := List.mem_map.mp hr
    obtain ⟨e', he', rfl⟩ := List.mem_map.mp he
    exact .inr (List.mem_map_of_mem (List.mem_map_of_mem (List.mem_filter.mp he').1))

/-- The words of a part of a prologue are clear of each other, as no store has ended before the
whole frame is there. -/
theorem Prologue.Valid.upTo_apart (hp : p.Valid) (offset : Nat) :
    (p.upTo offset).offsets.Pairwise fun i j => i + 8 ≤ j ∨ j + 8 ≤ i := by
  by_cases hsaves : (p.upTo offset).saves = []
  · unfold Prologue.offsets Prologue.stores
    rw [hsaves]
    exact frameOffsets_apart _ 0
  · obtain ⟨e, he⟩ := List.exists_mem_of_ne_nil _ hsaves
    obtain ⟨hmem, hend⟩ := List.mem_filter.mp he
    have hlast := (List.pairwise_append.mp hp.sorted).2.2
    have hwhole : (p.upTo offset).frame = p.frame := by
      refine List.filter_eq_self.mpr fun e' he' => ?_
      have := hlast _ (List.mem_map_of_mem he') _ (List.mem_map_of_mem hmem)
      simp only [decide_eq_true_eq] at hend ⊢
      omega
    have hops : (p.upTo offset).ops = p.ops := by
      unfold Prologue.ops
      rw [hwhole]
    unfold Prologue.offsets
    rw [hops]
    refine hp.apart.sublist (List.Sublist.append ?_ (List.Sublist.refl _))
    exact ((List.filter_sublist).map _).map _

theorem reached_entries (p : Prologue) (offset : Nat) :
    reached offset p.entries =
      ((p.upTo offset).stores.reverse.map fun e => .saveNonvol e.1 e.2) ++
        (p.upTo offset).ops.map FrameOp.code := by
  unfold reached Prologue.entries Prologue.stores Prologue.ops Prologue.upTo
  simp only [List.filter_append, List.filter_reverse, List.filter_map, List.map_append,
    List.map_reverse, List.map_map]
  rfl

/-- A state in which a function can be interrupted, at an offset from its start: what the
prologue did up to there is done. In the body other code has run, which left RSP and the words
of the prologue alone and changed no non-volatile register but those that are saved. -/
structure Interrupted (p : Prologue) (offset : Nat) (caller : State) (ret : Addr) (x : State) :
    Prop where
  rsp : x.gpr .rsp = ((p.upTo offset).run caller ret).gpr .rsp
  registers : ∀ r ∈ nonvolatileGprs, r ∉ (p.upTo offset).saved →
    x.gpr r = ((p.upTo offset).run caller ret).gpr r
  words : ∀ i ∈ (p.upTo offset).offsets, read x.memory (up (x.gpr .rsp) i) 64 =
    read ((p.upTo offset).run caller ret).memory (up (x.gpr .rsp) i) 64

/-- Within the prologue no other code has run. -/
theorem interrupted_self (p : Prologue) (offset : Nat) (caller : State) (ret : Addr) :
    Interrupted p offset caller ret ((p.upTo offset).run caller ret) :=
  ⟨rfl, fun _ _ _ => rfl, fun _ _ => rfl⟩

theorem word_offset_mem {y : Word} (hy : y ∈ p.words gpr ret) :
    y.offset ∈ p.offsets ∧ y.width = 64 := by
  unfold Prologue.words at hy
  unfold Prologue.offsets
  rw [List.mem_append] at hy ⊢
  rcases hy with hy | hy
  · exact ⟨.inl (gprWords_slot hy).2, (gprWords_slot hy).1⟩
  · refine ⟨.inr ?_, frameWords_width hy⟩
    rw [← frameWords_offsets gpr ret]
    exact List.mem_map_of_mem hy

/-- The arguments are those of a call in the loaded image, and the unwind data is an encoding of
the prologue. -/
structure Described (w : World) (a : Arguments) (p : Prologue) : Prop where
  image : a.imageBase ≠ 0 ∧ a.imageBase = w.managedImageBase
  pointers : a.functionEntry ≠ 0 ∧ a.contextRecord ≠ 0
  readable : readableRange w a.functionEntry sizeofRuntimeFunction = true ∧
    readableRange w a.contextRecord sizeofContext = true
  function : a.function.endAddress ≤ w.managedImageSize ∧ a.function.endAddress ≤ uint32Max
  controlPc : a.imageBase + a.function.beginAddress ≤ a.controlPc ∧
    a.controlPc < a.imageBase + a.function.endAddress
  unwindData : 0x1000 ≤ a.function.unwindData ∧ a.function.unwindData % 4 = 0
  info : a.function.unwindData + 4 + 2 * (infoAt w.memory
    (up (BitVec.ofNat 64 a.imageBase) a.function.unwindData)).slots.length ≤ w.managedImageSize
  codes : entries (infoAt w.memory
    (up (BitVec.ofNat 64 a.imageBase) a.function.unwindData)).slots = some p.entries

theorem Described.unwindInfo {a : Arguments} (h : Described w a p) :
    unwindInfo w a = some (a.controlPc - a.imageBase - a.function.beginAddress,
      up (BitVec.ofNat 64 a.imageBase) a.function.unwindData) := by
  obtain ⟨hzero, hbase⟩ := h.image
  obtain ⟨hentry, hrecord⟩ := h.pointers
  obtain ⟨hread, hread'⟩ := h.readable
  obtain ⟨hend, hsmall⟩ := h.function
  obtain ⟨hlow, hhigh⟩ := h.controlPc
  obtain ⟨hplace, halign⟩ := h.unwindData
  have hinfo := h.info
  have hlength : (infoAt w.memory (up (BitVec.ofNat 64 a.imageBase)
      a.function.unwindData)).slots.length =
      byteAt w.memory (up (BitVec.ofNat 64 a.imageBase) a.function.unwindData) 2 := by
    simp [infoAt, slotsAt]
  rw [hlength] at hinfo
  unfold Unwind.unwindInfo
  have hchecks : ¬ (a.imageBase = 0 ∨ a.imageBase ≠ w.managedImageBase ∨ a.functionEntry = 0 ∨
      a.contextRecord = 0 ∨ ¬ readableRange w a.functionEntry sizeofRuntimeFunction ∨
      ¬ readableRange w a.contextRecord sizeofContext ∨ a.controlPc < a.imageBase ∨
      w.managedImageSize = 0 ∨ a.controlPc - a.imageBase > uint32Max) := by
    simp only [not_or, not_not]
    exact ⟨hzero, hbase, hentry, hrecord, hread, hread', by omega, by omega, by omega⟩
  rw [if_neg hchecks]
  dsimp only
  rw [if_neg (by omega), Nat.div_mul_cancel (Nat.dvd_of_mod_eq_zero halign), if_neg (by omega),
    if_neg (by omega)]

/-- Unwinding a function that is interrupted, in its prologue or in its body, gives back the
registers of its caller. -/
theorem unwinding_inverts_a_prologue {a : Arguments} {t : Target} {d : Diagnostics}
    (hp : p.Valid) (hdata : Described w a p)
    (hx : Interrupted p (a.controlPc - a.imageBase - a.function.beginAddress) caller ret x)
    (hmemory : w.memory = x.memory) (hcontext : t.context.gpr = x.gpr)
    (hread : ∀ i ∈ (p.upTo (a.controlPc - a.imageBase - a.function.beginAddress)).offsets,
      Readable w (x.gpr .rsp) i) :
    (platformRtlVirtualUnwind w a t d).2.failures = d.failures ∧
    (platformRtlVirtualUnwind w a t d).1.context.gpr .rsp = caller.gpr .rsp ∧
    (platformRtlVirtualUnwind w a t d).1.context.rip = ret ∧
    (∀ r ∈ nonvolatileGprs,
      (platformRtlVirtualUnwind w a t d).1.context.gpr r = caller.gpr r) ∧
    ∀ r, r ∉ nonvolatileGprs → r ≠ .rsp →
      (platformRtlVirtualUnwind w a t d).1.context.gpr r = t.context.gpr r := by
  have hinfo := hdata.unwindInfo
  have hbytes : ∀ s ∈ (infoAt w.memory (up (BitVec.ofNat 64 a.imageBase)
      a.function.unwindData)).slots, InBytes s := slotsAt_inBytes _ _ _
  have hcodes := hdata.codes
  generalize a.controlPc - a.imageBase - a.function.beginAddress = offset at *
  generalize up (BitVec.ofNat 64 a.imageBase) a.function.unwindData = info at *
  have hvolatile : ∀ r ∈ (p.upTo offset).saved, r ∈ nonvolatileGprs :=
    fun r hr => hp.nonvolatile r (p.upTo_saved offset hr)
  have hrsp : Reg.rsp ∉ nonvolatileGprs := by decide
  have hregs : ∀ r ∈ (p.upTo offset).saved, r ≠ .rsp :=
    fun r hr heq => hrsp (heq ▸ hvolatile r hr)
  have hapart := hp.upTo_apart offset
  obtain ⟨htop, hgpr, hwords⟩ := Prologue.run_words caller ret hregs hapart
    fun i hi => by
      have := (hread i hi).fits
      omega
  -- the words are still there when the function is interrupted
  have hheld : Holds w.memory (x.gpr .rsp) ((p.upTo offset).words caller.gpr ret) := by
    intro y hy
    obtain ⟨hoffset, hwidth⟩ := word_offset_mem hy
    have hsame := hx.words _ hoffset
    have hword := hwords y hy
    obtain ⟨i, width, v⟩ := y
    subst hwidth
    rw [hmemory, hsame, hx.rsp]
    exact hword
  obtain ⟨hstored, hframed⟩ := holds_append.mp hheld
  have hstart : Restored caller.gpr x.gpr [] (x.gpr .rsp) t.context :=
    ⟨by rw [hcontext], fun r _ => by simp [hcontext]⟩
  have hstores : ∀ e ∈ (p.upTo offset).stores.reverse, e.1 ≠ .rsp ∧
      Readable w (x.gpr .rsp) e.2 ∧ read w.memory (up (x.gpr .rsp) e.2) 64 = caller.gpr e.1 := by
    intro e he
    rw [List.mem_reverse] at he
    refine ⟨hregs _ (List.mem_append_right _ (List.mem_map_of_mem he)),
      hread _ (List.mem_append_left _ (List.mem_map_of_mem he)), ?_⟩
    exact hstored _ (List.mem_map_of_mem he)
  obtain ⟨c1, hc1, hsaves⟩ := undo_saves (f := loopOf w offset info t.context)
    (congrFun hcontext .rsp) hstores hstart ((p.upTo offset).ops.map FrameOp.code)
  rw [← up_zero (x.gpr .rsp)] at hsaves
  obtain ⟨c2, hc2, hrestored⟩ := undo_frame (f := loopOf w offset info t.context)
    (fun h => hregs _ (List.mem_append_left _ h) rfl) hframed
    (fun i hi => hread i (List.mem_append_right _ hi)) hsaves
  have hwalk : walked w offset info t.context = .ok c2 := by
    unfold walked
    rw [undoCodes_decode w _ _ _ _ _ hbytes hcodes, reached_entries]
    exact hc1.trans hc2
  have hret : 0 + frameBytes (p.upTo offset).ops ∈ frameOffsets (p.upTo offset).ops 0 :=
    ret_mem_frameOffsets _ 0
  obtain ⟨e, hpop⟩ := (hread _ (List.mem_append_right _ hret)).pop
  rw [← hrestored.rsp] at hpop
  -- neither the arguments nor a code nor the return address stops the call
  rcases call_cases w a t d with ⟨⟨offset', info', c, hdata', hcodes', hresult, -⟩, hcount⟩ | hfail
  · rw [hinfo] at hdata'
    cases hdata'
    rw [hwalk] at hcodes'
    cases hcodes'
    have hlast : (⟨frameBytes (p.upTo offset).ops, 64, ret⟩ : Word) ∈
        frameWords caller.gpr ret (p.upTo offset).ops 0 := by
      have := ret_mem_frameWords caller.gpr ret (p.upTo offset).ops 0
      rwa [Nat.zero_add] at this
    rw [hresult]
    have hrip := hframed _ hlast
    have hother : ∀ r ≠ .rsp, (c2.setGpr .rsp (up (c2.gpr .rsp) 8)).gpr r =
        if r ∈ (p.upTo offset).saved then caller.gpr r else x.gpr r := by
      intro r hr
      rw [(hrestored.setRsp (v := up (c2.gpr .rsp) 8)).gpr r hr]
      congr 1
      simp only [Prologue.saved, List.nil_append, List.mem_append, List.map_reverse,
        List.mem_reverse, or_comm]
    refine ⟨hcount, ?_, ?_, fun r hr => ?_, fun r hr hne => ?_⟩
    · change Function.update c2.gpr .rsp _ .rsp = _
      rw [Function.update_self, hrestored.rsp, Nat.zero_add, up_up, hx.rsp]
      exact htop
    · change read w.memory (c2.gpr .rsp) 64 = ret
      rw [hrestored.rsp, Nat.zero_add]
      exact hrip
    · have hne : r ≠ .rsp := fun heq => hrsp (heq ▸ hr)
      refine (hother r hne).trans ?_
      split
      · rfl
      · rename_i hunsaved
        rw [hx.registers r hr hunsaved, hgpr r hne]
    · refine (hother r hne).trans ?_
      rw [if_neg fun hsaved => hr (hvolatile r hsaved), hcontext]
  · obtain ⟨c, hstop, -⟩ := hfail
    cases hstop with
    | arguments hnone =>
      rw [hinfo] at hnone
      cases hnone
    | loop hdata' herror =>
      rw [hinfo] at hdata'
      cases hdata'
      rw [hwalk] at herror
      cases herror
    | pop hdata' hok hnone =>
      rw [hinfo] at hdata'
      cases hdata'
      rw [hwalk] at hok
      cases hok
      rw [hpop] at hnone
      cases hnone

/-! ## A prologue -/

/-- `push rbp; sub rsp, 16; mov [rsp + 8], rbx` -/
def samplePrologue : Prologue :=
  { frame := [(1, .push .rbp), (5, .alloc 16)], saves := [(10, .rbx, 8)] }

instance (p : Prologue) : Decidable p.Valid :=
  decidable_of_iff ((∀ r ∈ p.saved, r ∈ nonvolatileGprs) ∧
    (p.frame.map Prod.fst ++ p.saves.map Prod.fst).Pairwise (· < ·) ∧
    p.offsets.Pairwise fun i j => i + 8 ≤ j ∨ j + 8 ≤ i)
    ⟨fun h => ⟨h.1, h.2.1, h.2.2⟩, fun h => ⟨h.nonvolatile, h.sorted, h.apart⟩⟩

/-- Unwind data of the prologue at 0x402000. -/
def sampleImage : Memory := fun p =>
  match p.toNat with
  | 0x402000 => 1
  | 0x402001 => 10
  | 0x402002 => 4
  | 0x402004 => 10
  | 0x402005 => 0x34
  | 0x402006 => 1
  | 0x402008 => 5
  | 0x402009 => 0x12
  | 0x40200A => 1
  | 0x40200B => 0x50
  | _ => 0

def sampleCaller : State :=
  { gpr := fun r =>
      match r with
      | .rsp => 0x108040
      | .rbx => 7
      | .rbp => 9
      | _ => 0
    xmm := fun _ => 0, mxcsr := 0, fpuControl := 0, rflags := 0, msr := fun _ => 0
    rip := 0, memory := sampleImage }

/-- After the allocation, before the store. -/
def sampleState : State := (samplePrologue.upTo 5).run sampleCaller 0x401234

def sampleWorld : World :=
  { managedImageBase := 0x400000, managedImageSize := 0x4000, stackLower := 0x100000
    stackUpper := 0x110000, memory := sampleState.memory }

def sampleArguments : Arguments :=
  { imageBase := 0x400000, controlPc := 0x401005, functionEntry := 0x403000
    function := ⟨0x1000, 0x1100, 0x2000⟩, contextRecord := 0x101000 }

instance (w : World) (g : Addr) (i : Nat) : Decidable (Readable w g i) :=
  inferInstanceAs (Decidable (_ = true))

theorem sample_described : Described sampleWorld sampleArguments samplePrologue where
  image := by decide
  pointers := by decide
  readable := by decide +kernel
  function := by decide
  controlPc := by decide
  unwindData := by decide
  info := by decide +kernel
  codes := by decide +kernel

theorem a_prologue_is_inverted :
    (platformRtlVirtualUnwind sampleWorld sampleArguments
      ⟨⟨sampleState.gpr, 0x401005⟩, none, none⟩ {}).1.context.rip = 0x401234 :=
  (unwinding_inverts_a_prologue (p := samplePrologue) (x := sampleState)
    (t := ⟨⟨sampleState.gpr, 0x401005⟩, none, none⟩) (d := {}) (by decide) sample_described
    (interrupted_self samplePrologue 5 sampleCaller 0x401234) rfl rfl
    (by decide +kernel)).2.2.1

end Gate4Harness.Unwind
