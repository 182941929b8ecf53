-- The dispatcher sees the interrupted machine in the trap frame, and what it leaves there is what
-- the interrupted code continues with.
import Gate4Harness.ExceptionEntryLaws

open ByteMemory Amd64 Amd64.State

namespace Gate4Harness.ExceptionEntry

variable {f : Fault} {m d e t x y z : Machine} {site : Addr} {kept : BitVec 32} {r : Reg}

/-! ## The call of the dispatcher -/

/-- The trap frame has the interrupted machine and the fault. -/
structure Captures (f : Fault) (m : Machine) (frame : TrapFrame) : Prop where
  vector : frame.vector = BitVec.ofNat 64 f.vector
  errorCode : frame.errorCode = f.errorCode
  gpr : ∀ r, frame.gpr r = m.cpu.gpr r
  rip : frame.rip = m.cpu.rip
  cs : frame.cs = m.cs.setWidth 64
  rflags : frame.rflags = m.cpu.rflags
  ss : frame.ss = m.ss.setWidth 64

/-- The return address of the dispatcher stands here. -/
def callBase (m : Machine) : Addr := (frameOf m &&& ~~~15#64) - 72#64

theorem frameOf_eq (m : Machine) : ∃ k, 72 ≤ k ∧ k < 88 ∧ frameOf m = up (callBase m) k := by
  have hup : up (callBase m) 72 = frameOf m &&& ~~~15#64 := up_sub_self _ 72
  refine ⟨72 + (frameOf m).toNat % 16, by omega, by omega, ?_⟩
  rw [← up_up, hup]
  apply BitVec.eq_of_toNat_eq
  have hlt := (frameOf m).isLt
  simp only [up, BitVec.toNat_add, align_toNat, BitVec.toNat_ofNat]
  omega

/-- The dispatcher is entered in this state. -/
structure Entered (f : Fault) (m e : Machine) : Prop where
  rsp : e.cpu.gpr .rsp = callBase m
  rcx : e.cpu.gpr .rcx = frameOf m
  slot : read e.cpu.memory (up (callBase m) 56) 64 = frameOf m
  words : Holds e.cpu.memory (frameOf m) (trapWords f m)

theorem trapWords_within : ∀ w ∈ trapWords f m, w.Within 0 224 := by
  simp [trapWords, copiedWords, firstWords, restWords, gprWords, trapCr2, trapFlags, trapVector,
    trapError, trapRaw, trapGpr, trapRip, trapCs, trapRflags, trapSs, Word.Within]

theorem callDispatch_entered (h : Filled f m (trapWords f m) x) :
    Entered f m (callDispatch site x) := by
  obtain ⟨k, hk, hk', hframe⟩ := frameOf_eq m
  have hbase : frameOf m &&& 0xFFFFFFFFFFFFFFF0#64 = up (callBase m) 72 :=
    (up_sub_self _ 72).symm
  have hmemory : (callDispatch site x).cpu.memory =
      write (write x.cpu.memory (up (callBase m) 56) (frameOf m)) (up (callBase m) 0) site := by
    simp [callDispatch, Machine.exec, Machine.setGpr, h.rsp, hbase]
  refine ⟨?_, ?_, ?_, ?_⟩
  · simp [callDispatch, Machine.exec, Machine.setGpr, h.rsp, hbase]
  · simp [callDispatch, Machine.exec, Machine.setGpr, h.rsp]
  · rw [hmemory, read_write_up _ _ _ (by decide) (by decide) (by decide) (by decide),
      read_write_same _ _ _ (by decide) (by decide)]
  · have hsame : SameBytes x.cpu.memory (callDispatch site x).cpu.memory (frameOf m) 0 224 := by
      rw [hmemory, hframe]
      have hslot : SameBytes x.cpu.memory
          (write x.cpu.memory (up (callBase m) 56) (up (callBase m) k)) (up (callBase m) k) 0 224 :=
        (within_write_self _ _ _ (Nat.le_refl _) (by decide)).sameBytes (by
          rw [up_up]
          exact apart_up (.inl (by omega)) (by omega) (by omega))
      refine hslot.trans ((within_write_self _ _ _ (Nat.le_refl _) (by decide)).sameBytes ?_)
      rw [up_up]
      exact apart_up (.inl (by omega)) (by omega) (by omega)
    exact Holds.keep h.words hsame trapWords_within

theorem Entered.captures (h : Entered f m e) :
    Captures f m (trapFrameAt e.cpu.memory (e.cpu.gpr .rcx)) ∧
      (trapFrameAt e.cpu.memory (e.cpu.gpr .rcx)).rawFrame = up (frameOf m) 344 ∧
      (trapFrameAt e.cpu.memory (e.cpu.gpr .rcx)).entryFlags =
        errorSource f ||| BitVec.ofNat 64 entryCpuStack := by
  have hwords := h.words
  simp only [trapWords, copiedWords, firstWords, restWords, gprWords, List.map_cons, List.map_nil,
    List.cons_append, List.nil_append, holds_cons] at hwords
  rw [h.rcx]
  refine ⟨⟨?_, ?_, fun r => ?_, ?_, ?_, ?_, ?_⟩, ?_, ?_⟩
  case refine_3 => cases r <;> simp only [trapFrameAt, hwords]
  all_goals simp only [trapFrameAt, hwords]

theorem entered_of_dispatchEntry (h : dispatchEntry site f m = some e) : Entered f m e := by
  unfold dispatchEntry at h
  cases hd : deliver f m with
  | none =>
    rw [hd] at h
    cases h
  | some d =>
    rw [hd] at h
    simp only [ite_not, Option.ite_none_right_eq_some] at h
    obtain ⟨_, h⟩ := h
    cases h
    exact callDispatch_entered (buildFrame_filled hd)

/-! ## The return of the dispatcher -/

/-- What the dispatcher, entered in `e`, keeps when it returns in `t`: the Windows x64 convention,
with the trap frame as the part of its caller's stack that it may write, and the two fields of
the trap frame that belong to the assembly. -/
structure Returns (kept : BitVec 32) (e t : Machine) : Prop where
  convention : Conforms kept 488 (e.cpu.gpr .rcx) trapFrameSize e.cpu t.cpu
  entryFlags : (trapFrameAt t.cpu.memory (e.cpu.gpr .rcx)).entryFlags =
    (trapFrameAt e.cpu.memory (e.cpu.gpr .rcx)).entryFlags
  rawFrame : (trapFrameAt t.cpu.memory (e.cpu.gpr .rcx)).rawFrame =
    (trapFrameAt e.cpu.memory (e.cpu.gpr .rcx)).rawFrame

/-- The assembly behind the call knows the trap frame and the raw frame again. -/
structure Back (m z : Machine) : Prop where
  rsp : z.cpu.gpr .rsp = up (callBase m) 8
  r10 : z.cpu.gpr .r10 = frameOf m
  rawFrame : read z.cpu.memory (up (frameOf m) trapRaw) 64 = up (frameOf m) 344
  stackPair : read z.cpu.memory (up (frameOf m) trapFlags) 64 &&& BitVec.ofNat 64 entryCpuStack ≠ 0

theorem Entered.back (h : Entered f m e) (ht : Returns kept e t) :
    Back m (t.exec [.load 48 .rsp .r10]) := by
  obtain ⟨k, hk, hk', hframe⟩ := frameOf_eq m
  have hrsp : t.cpu.gpr .rsp = up (callBase m) 8 := by
    rw [ht.convention.rsp, h.rsp]
  have hslot : read t.cpu.memory (up (callBase m) 56) 64 = frameOf m := by
    rw [← h.slot]
    refine read_congr (by decide) fun i hi => ?_
    rw [up_up]
    have hkept := ht.convention.frame (56 + i) (by omega) (by omega)
    rw [h.rsp, h.rcx] at hkept
    refine hkept fun j hj heq => ?_
    rw [hframe, up_up, up_inj _ (by simp only [trapFrameSize] at hj; omega) (by omega)] at heq
    omega
  obtain ⟨_, hraw, hflags⟩ := h.captures
  rw [← ht.rawFrame] at hraw
  rw [← ht.entryFlags] at hflags
  rw [h.rcx] at hraw hflags
  refine ⟨?_, ?_, ?_, ?_⟩
  · simp [Machine.exec, hrsp]
  · simp [Machine.exec, hrsp, hslot]
  · simpa [Machine.exec, trapFrameAt] using hraw
  · have hsource : ∀ v : Fin 32, (BitVec.ofNat 64 (if v.val ∈ errorVectors then entryCpuError else
        entrySyntheticError) ||| BitVec.ofNat 64 entryCpuStack) &&& BitVec.ofNat 64 entryCpuStack ≠
        0 := by decide
    have hbit := hsource f.vector
    have hread : read (t.exec [.load 48 .rsp .r10]).cpu.memory (up (frameOf m) trapFlags) 64 =
      errorSource f ||| BitVec.ofNat 64 entryCpuStack := hflags
    rw [hread]
    exact hbit

/-! ## The way back -/

/-- The words of the raw frame that are written back. -/
def backWords (m : Machine) (memory : Memory) : List Word :=
  [⟨360, 64, read memory (up (frameOf m) trapRip) 64⟩,
    ⟨376, 64, read memory (up (frameOf m) trapRflags) 64⟩,
    ⟨384, 64, read memory (up (frameOf m) (trapGpr .rsp)) 64⟩,
    ⟨392, 64, read memory (up (frameOf m) trapSs) 64⟩]

/-- Where the raw frame and the trap frame are while words go from one to the other. -/
structure Copying (m z : Machine) : Prop where
  rax : z.cpu.gpr .rax = up (frameOf m) 344
  r10 : z.cpu.gpr .r10 = frameOf m
  rsp : z.cpu.gpr .rsp = up (callBase m) 8

/-- One word goes from the trap frame to the raw frame. -/
theorem Copying.word (h : Copying m z) (source target : Nat) :
    Copying m (z.exec [.load source .r10 .r11, .store .r11 target .rax]) ∧
    (z.exec [.load source .r10 .r11, .store .r11 target .rax]).cpu.memory =
      write z.cpu.memory (up (frameOf m) (344 + target))
        (read z.cpu.memory (up (frameOf m) source) 64) := by
  refine ⟨⟨?_, ?_, ?_⟩, ?_⟩
  · simp [Machine.exec, h.rax]
  · simp [Machine.exec, h.r10]
  · simp [Machine.exec, h.rsp]
  · simp [Machine.exec, h.rax, h.r10]

theorem Copying.flags (h : Copying m z) :
    Copying m (z.exec [.load trapFlags .r10 .r11]) ∧
    (z.exec [.load trapFlags .r10 .r11]).cpu.memory = z.cpu.memory ∧
    (z.exec [.load trapFlags .r10 .r11]).cpu.gpr .r11 =
      read z.cpu.memory (up (frameOf m) trapFlags) 64 := by
  refine ⟨⟨?_, ?_, ?_⟩, ?_, ?_⟩
  · simp [Machine.exec, h.rax]
  · simp [Machine.exec, h.r10]
  · simp [Machine.exec, h.rsp]
  · simp [Machine.exec]
  · simp [Machine.exec, h.r10]

theorem Back.copying (h : Back m z) :
    Copying m (z.exec [.load trapRaw .r10 .rax]) ∧
    (z.exec [.load trapRaw .r10 .rax]).cpu.memory = z.cpu.memory := by
  refine ⟨⟨?_, ?_, ?_⟩, ?_⟩
  · simp [Machine.exec, h.r10, h.rawFrame]
  · simp [Machine.exec, h.r10]
  · simp [Machine.exec, h.rsp]
  · simp [Machine.exec]

theorem Machine.exec_append (z : Machine) (code code' : List Instr) :
    z.exec (code ++ code') = (z.exec code).exec code' := by
  unfold Machine.exec
  rw [Amd64.exec_append]

theorem writeBack_eq (z : Machine) :
    writeBack z =
      let y := (((z.exec [.load trapRaw .r10 .rax]).exec
        [.load trapRip .r10 .r11, .store .r11 16 .rax]).exec
        [.load trapRflags .r10 .r11, .store .r11 32 .rax]).exec [.load trapFlags .r10 .r11]
      if y.cpu.gpr .r11 &&& BitVec.ofNat 64 entryCpuStack ≠ 0 then
        (y.exec [.load (trapGpr .rsp) .r10 .r11, .store .r11 40 .rax]).exec
          [.load trapSs .r10 .r11, .store .r11 48 .rax]
      else y := by
  unfold writeBack
  simp only [← Machine.exec_append, List.cons_append, List.nil_append]

theorem Back.writtenBack (h : Back m z) :
    (writeBack z).cpu.memory =
      storeWords z.cpu.memory (frameOf m) (backWords m z.cpu.memory) ∧
    (writeBack z).cpu.gpr .rax = up (frameOf m) 344 ∧
    (writeBack z).cpu.gpr .r10 = frameOf m ∧
    (writeBack z).cpu.gpr .rsp = up (callBase m) 8 := by
  obtain ⟨hcopying, hstart⟩ := h.copying
  obtain ⟨hripped, hrip⟩ := hcopying.word trapRip 16
  obtain ⟨hflagged, hrflags⟩ := hripped.word trapRflags 32
  obtain ⟨htested, hkept, hflags⟩ := hflagged.flags
  rw [writeBack_eq]
  dsimp only
  generalize z.exec [.load trapRaw .r10 .rax] = y1 at *
  generalize y1.exec [.load trapRip .r10 .r11, .store .r11 16 .rax] = y2 at *
  generalize y2.exec [.load trapRflags .r10 .r11, .store .r11 32 .rax] = y3 at *
  generalize y3.exec [.load trapFlags .r10 .r11] = y4 at *
  rw [hrflags, hrip, hstart] at hkept hflags
  have hpair : y4.cpu.gpr .r11 &&& BitVec.ofNat 64 entryCpuStack ≠ 0 := by
    have hread : y4.cpu.gpr .r11 = read z.cpu.memory (up (frameOf m) trapFlags) 64 := by
      rw [hflags]
      simp [trapRip, trapRflags, trapFlags]
    rw [hread]
    exact h.stackPair
  rw [if_pos hpair]
  obtain ⟨hrsped, hrsp⟩ := htested.word (trapGpr .rsp) 40
  obtain ⟨hdone, hss⟩ := hrsped.word trapSs 48
  refine ⟨?_, hdone.rax, hdone.r10, hdone.rsp⟩
  rw [hss, hrsp, hkept]
  simp [backWords, trapRip, trapRflags, trapGpr, trapSs]

/-- The registers that the code behind `.Lno_cpu_rsp` loads. -/
def restoredSlots : List (Reg × Nat) := restoredGprs.map fun r => (r, trapGpr r)

theorem readAll_restored (memory : Memory) (a : Addr) (gpr : Reg → BitVec 64)
    (hr : r ∈ restoredGprs) :
    readAll memory a gpr restoredSlots r = read memory (up a (trapGpr r)) 64 :=
  readAll_mem memory a gpr (by decide) (e := (r, trapGpr r))
    (List.mem_map_of_mem (f := fun r => (r, trapGpr r)) hr)

/-- The restored registers and the frame of `iretq`, read from a memory that has both. -/
theorem restoreRegisters_state {memory : Memory}
    (hrax : y.cpu.gpr .rax = up (frameOf m) 344) (hr10 : y.cpu.gpr .r10 = frameOf m)
    (hrsp : y.cpu.gpr .rsp = up (callBase m) 8)
    (hmemory : write y.cpu.memory (up (callBase m) 56) (up (frameOf m) 344) = memory) :
    (restoreRegisters y).cpu.rip = read memory (up (frameOf m) 360) 64 ∧
    (restoreRegisters y).cpu.rflags = read memory (up (frameOf m) 376) 64 ∧
    (restoreRegisters y).cpu.gpr .rsp = read memory (up (frameOf m) 384) 64 ∧
    ∀ r, r ≠ .rsp → (restoreRegisters y).cpu.gpr r =
      read memory (up (frameOf m) (trapGpr r)) 64 := by
  have hslot : read memory (up (callBase m) 56) 64 = up (frameOf m) 344 := by
    rw [← hmemory]
    exact read_write_same _ _ _ (by decide) (by decide)
  have hloaded : exec ([.store .rax 48 .rsp] ++ loadAll .r10 restoredSlots) y.cpu =
      { y.cpu with gpr := readAll memory (frameOf m) y.cpu.gpr restoredSlots
                   memory := memory } := by
    have hstored : exec [.store .rax 48 .rsp] y.cpu = { y.cpu with memory := memory } := by
      simp [hrax, hrsp, hmemory]
    rw [exec_append, hstored, exec_loadAll _ _ _ (by decide), hr10]
  have hkept : ∀ r, r ∉ restoredSlots.map Prod.fst →
      readAll memory (frameOf m) y.cpu.gpr restoredSlots r = y.cpu.gpr r :=
    fun r hr => readAll_of_notMem _ _ _ _ hr
  let code : List Instr := [.load (trapGpr .r10) .r10 .r10, .load 48 .rsp .rsp, .addq 16 .rsp]
  generalize hs : exec ([.store .rax 48 .rsp] ++ loadAll .r10 restoredSlots) y.cpu = s at hloaded
  have hrestore : restoreRegisters y = Machine.iretq { y with cpu := exec code s } := by
    rw [← hs, ← exec_append]
    rfl
  rw [hrestore, hloaded]
  simp only [code]
  refine ⟨?_, ?_, ?_, fun r hne => ?_⟩
  · simp [Machine.iretq, hkept .rsp (by decide), hrsp, hslot]
  · simp [Machine.iretq, hkept .rsp (by decide), hrsp, hslot]
  · simp [Machine.iretq, hkept .rsp (by decide), hrsp, hslot]
  · by_cases hr : r = .r10
    · subst hr
      simp [Machine.iretq, hkept .r10 (by decide), hr10]
    · have hmem : r ∈ restoredGprs := by
        revert hne hr
        cases r <;> decide
      simp [Machine.iretq, hr, hne, readAll_restored _ _ _ hmem]

/-- The machine continues with what a trap frame says. -/
structure Continues (frame : TrapFrame) (m : Machine) : Prop where
  rip : m.cpu.rip = frame.rip
  rflags : m.cpu.rflags = frame.rflags
  gpr : ∀ r, m.cpu.gpr r = frame.gpr r

theorem Back.continued (h : Back m z) :
    Continues (trapFrameAt z.cpu.memory (frameOf m)) (restoreRegisters (writeBack z)) := by
  obtain ⟨k, hk, hk', hframe⟩ := frameOf_eq m
  obtain ⟨hmemory, hrax, hr10, hrsp⟩ := h.writtenBack
  obtain ⟨hrip, hflags, hstack, hgpr⟩ := restoreRegisters_state hrax hr10 hrsp rfl
  have hlaid : Laid 360 400 (backWords m z.cpu.memory) := by
    constructor <;> simp [backWords, Word.Within, Word.Clear]
  have hheld : Holds (writeBack z).cpu.memory (frameOf m) (backWords m z.cpu.memory) := by
    rw [hmemory]
    exact holds_storeWords _ _ hlaid (by decide)
  have hslot : ∀ o, o + 8 ≤ 400 →
      read (write (writeBack z).cpu.memory (up (callBase m) 56) (up (frameOf m) 344))
        (up (frameOf m) o) 64 = read (writeBack z).cpu.memory (up (frameOf m) o) 64 := by
    intro o ho
    generalize up (frameOf m) 344 = v
    rw [hframe, up_up]
    exact read_write_up _ _ _ (by decide) (.inl (by omega)) (by omega) (by omega)
  have hkept : ∀ o, o + 8 ≤ 224 → read (writeBack z).cpu.memory (up (frameOf m) o) 64 =
      read z.cpu.memory (up (frameOf m) o) 64 := by
    intro o ho
    rw [hmemory]
    refine read_storeWords _ _ (fun w hw => ?_) (fun w hw => ?_) (by decide) (by omega)
    · have hlow := (hlaid.within w hw).2.1
      exact .inr (by omega)
    · exact Nat.le_trans (hlaid.within w hw).2.2 (by decide)
  simp only [backWords, holds_cons] at hheld
  refine ⟨?_, ?_, fun r => ?_⟩
  · rw [hrip, hslot _ (by decide), hheld.1]
    rfl
  · rw [hflags, hslot _ (by decide), hheld.2.1]
    rfl
  · by_cases hr : r = .rsp
    · subst hr
      rw [hstack, hslot _ (by decide), hheld.2.2.1]
      rfl
    · have ho : trapGpr r + 8 ≤ 224 := by cases r <;> decide
      rw [hgpr r hr, hslot _ (by omega), hkept _ ho]
      rfl

/-- A fault that comes to the dispatcher shows it the interrupted machine. If the dispatcher
returns and asks to continue, the machine continues with what it left in the trap frame. -/
theorem resumed_exceptions_restore_the_machine (site : Addr) (dispatch : Machine → Machine)
    (kept : BitVec 32) (f : Fault) (m e : Machine) (h : dispatchEntry site f m = some e) :
    Captures f m (trapFrameAt e.cpu.memory (e.cpu.gpr .rcx)) ∧
    (Returns kept e (dispatch e) → continues (dispatch e) →
      ∃ m', handleFault site dispatch f m = .resumed m' ∧
        Continues (trapFrameAt (dispatch e).cpu.memory (e.cpu.gpr .rcx)) m') := by
  have hentered := entered_of_dispatchEntry h
  refine ⟨hentered.captures.1, fun hreturns hcontinues => ?_⟩
  have hback := hentered.back hreturns
  have hdelivered : deliver f m ≠ none := by
    intro hnone
    rw [dispatchEntry, hnone] at h
    cases h
  have hhandled : handleFault site dispatch f m = afterDispatch (dispatch e) := by
    unfold handleFault
    cases hd : deliver f m with
    | none => exact absurd hd hdelivered
    | some d => rw [h]
  have hrax : continues ((dispatch e).exec [.load 48 .rsp .r10]) := by
    have hload : ∀ i ∈ [Instr.load 48 .rsp .r10], Reg.rax ∉ i.targets := by decide
    have hgpr := Machine.exec_gpr (r := .rax) (dispatch e) hload
    unfold continues low at hcontinues ⊢
    rw [hgpr]
    exact hcontinues
  refine ⟨restoreRegisters (writeBack ((dispatch e).exec [.load 48 .rsp .r10])), ?_, ?_⟩
  · rw [hhandled, afterDispatch]
    exact if_pos hrax
  · rw [hentered.rcx]
    exact hback.continued

/-! ## A breakpoint -/

/-- A fault that is delivered to an idle handler comes to the dispatcher. -/
theorem dispatchEntry_of_deliver (site : Addr) (hd : deliver f m = some d) (hidle : m.dispatchActive = 0) :
    dispatchEntry site f m = some (callDispatch site (buildFrame (stub f.vector d))) := by
  have hactive := (buildFrame_filled hd).active
  rw [hidle] at hactive
  unfold dispatchEntry
  rw [hd]
  exact if_neg (not_not_intro hactive)

/-- A store into the window of a function changes no byte outside. -/
theorem write_outside {a p : Addr} {o n w : Nat} (memory : Memory) (v : BitVec w)
    (ho : o + w / 8 ≤ n) (hp : ∀ i < n, up a i ≠ p) : write memory (up a o) v p = memory p := by
  rw [write, if_neg]
  intro hin
  refine hp (o + (p - up a o).toNat) (by omega) ?_
  rw [← up_up, up_distance]

/-- A dispatcher that asks to continue at another place, with another RCX. -/
def redirect (target value : BitVec 64) (m : Machine) : Machine :=
  let frame := m.cpu.gpr .rcx
  let gpr := Function.update m.cpu.gpr .rsp (up (m.cpu.gpr .rsp) 8)
  let memory := write m.cpu.memory (up frame (trapGpr .rcx)) value
  { m with
    cpu := { m.cpu with
      gpr := Function.update gpr .rax 0xFFFFFFFF
      rip := m.cpu.top
      memory := write memory (up frame trapRip) target }
    dispatchActive := 0 }

theorem redirect_returns (target value : BitVec 64) (e : Machine) :
    Returns kept e (redirect target value e) := by
  refine ⟨⟨⟨⟨fun r hr => ?_, fun _ _ => rfl, rfl, rfl⟩, ?_⟩, rfl, fun o _ _ hout => ?_⟩, ?_, ?_⟩
  · have hne : r ≠ .rax ∧ r ≠ .rsp := by
      revert r
      decide
    simp [redirect, hne]
  · simp [redirect]
  · exact (write_outside _ _ (by decide) hout).trans (write_outside _ _ (by decide) hout)
  · simp [trapFrameAt, redirect, trapFlags, trapRip, trapGpr]
  · simp [trapFrameAt, redirect, trapRaw, trapRip, trapGpr]

/-- Idle code with 7 in each register and its stack at 1 MiB. -/
def idleMachine : Machine where
  cpu :=
    { gpr := fun r => if r = .rsp then 0x100000 else 7
      xmm := fun _ => 0
      mxcsr := 0x1F80
      fpuControl := 0x27F
      rflags := 0x202
      msr := fun _ => 0
      rip := 0x401001
      memory := fun _ => 0 }
  cs := 0x38
  ss := 0x30
  cr2 := 0
  dispatchActive := 0

theorem a_breakpoint_is_redirected : ∃ m',
    handleFault 0x500000 (redirect 0x402000 9) ⟨3, 0⟩ idleMachine = .resumed m' ∧
      m'.cpu.rip = 0x402000 ∧ m'.cpu.gpr .rcx = 9 ∧ m'.cpu.gpr .rbx = 7 ∧
      m'.cpu.gpr .rsp = 0x100000 := by
  obtain ⟨d, hd⟩ : ∃ d, deliver ⟨3, 0⟩ idleMachine = some d := by
    unfold deliver
    exact ⟨_, if_pos (by decide)⟩
  have hentry := dispatchEntry_of_deliver 0x500000 hd rfl
  obtain ⟨hcaptures, hresumes⟩ := resumed_exceptions_restore_the_machine 0x500000
    (redirect 0x402000 9) 0 ⟨3, 0⟩ idleMachine _ hentry
  obtain ⟨m', hm', hcontinues⟩ := hresumes (redirect_returns _ _ _) (by simp [continues, redirect])
  have hrbx := hcaptures.gpr .rbx
  have hrsp := hcaptures.gpr .rsp
  refine ⟨m', hm', ?_, ?_, ?_, ?_⟩
  · rw [hcontinues.rip]
    simp [trapFrameAt, redirect]
  · rw [hcontinues.gpr]
    simp [trapFrameAt, redirect, trapRip, trapGpr]
  · rw [hcontinues.gpr]
    refine Eq.trans ?_ hrbx
    simp [trapFrameAt, redirect, trapRip, trapGpr]
  · rw [hcontinues.gpr]
    refine Eq.trans ?_ hrsp
    simp [trapFrameAt, redirect, trapRip, trapGpr]

end Gate4Harness.ExceptionEntry
