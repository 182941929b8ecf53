-- A context switch is undone by switching back. While a thread is switched out, other threads
-- run and switch among themselves. As long as they leave the context on its stack alone, the
-- first switch back finds it as the thread left it.
import Gate4Harness.WaitingLaws

open ByteMemory Amd64 Amd64.State

namespace Gate4Harness.SchedulerContext

variable {a s t : State} {g c : Addr}

/-! ## Chains of switches -/

/-- The context that a thread leaves on its stack when it enters the switch in `a`. -/
def contextOf (a : State) : Addr := a.gpr .rsp - 304#64

/-- The place that the switch hands the context out through is not in the frame of the
switch. -/
def CellOffFrame (s : State) : Prop := Apart (s.gpr .rcx) 8 (s.gpr .rsp - 328#64) 336

/-- A switch that is entered in `s` by a thread with another stack than that of `a`. -/
structure OwnStack (a s : State) : Prop where
  frame : Apart (s.gpr .rsp - 328#64) 336 (contextOf a) 264
  cell : Apart (s.gpr .rcx) 8 (contextOf a) 264

/-- The states of the machine from the switch in `a` on. Other threads run any code that does
not write the context of `a`, and switch to any context, on stacks of their own. -/
inductive Away (a : State) : State → Prop
  | leaves : Away a (exec contextSwitch a)
  | runs {s t : State} : Away a s → SameBytes s.memory t.memory (contextOf a) 0 264 → Away a t
  | switches {s : State} : Away a s → OwnStack a s → Away a (exec contextSwitch s)

/-- A thread with another stack enters the switch in `s` to go back to the context that the
switch in `a` handed out. -/
structure GoesBack (a s : State) : Prop extends OwnStack a s where
  cellFrame : CellOffFrame s
  target : s.gpr .rdx = read (exec contextSwitch a).memory (a.gpr .rcx) 64

/-- The thread goes on in `t` as if its call of the switch in `a` had returned. -/
structure Resumes (a t : State) : Prop where
  rip : t.rip = a.top
  rsp : t.gpr .rsp = up (a.gpr .rsp) 8
  gprs : ∀ r ∈ nonvolatileGprs, t.gpr r = a.gpr r
  xmms : ∀ x : Xmm, 6 ≤ x → t.xmm x = a.xmm x
  mxcsr : t.mxcsr = a.mxcsr
  fpuControl : t.fpuControl = a.fpuControl
  gsBase : t.msr gsBase = a.msr gsBase
  interruptsOff : t.rflags.getLsbD 9 = false
  directionUp : t.rflags.getLsbD 10 = false

/-! ## One switch -/

theorem append_halves (v : BitVec 64) : (v >>> 32).setWidth 32 ++ v.setWidth 32 = v := by
  apply BitVec.eq_of_getLsbD_eq
  intro i hi
  rw [BitVec.getLsbD_append]
  split
  · rename_i h
    simp [h]
  · rename_i h
    have hstep : 32 + (i - 32) = i := by omega
    simp [BitVec.getLsbD_setWidth, BitVec.getLsbD_ushiftRight, hstep]
    omega

theorem enterContext_msr (t : State) :
    (exec enterContext t).msr gsBase = read t.memory (up (t.gpr .r11) 96) 64 := by
  dsimp only [enterContext, exec_cons, exec_nil, step, setGpr, setMemory, address, push, pop, top,
    low]
  simp [append_halves]

theorem enterContext_flags (hrsp : t.gpr .rsp = up g 8) :
    (exec enterContext t).rflags = read t.memory (up g 312) 64 &&& ~~~(1#64 <<< 10) := by
  dsimp only [enterContext, exec_cons, exec_nil, step, setGpr, setMemory, address, push, pop, top]
  simp [hrsp]

theorem loadContext_r11 (t : State) : (exec loadContext t).gpr .r11 = t.gpr .r11 := by
  rw [loadContext_eq rfl]
  exact readAll_of_notMem _ _ _ _ (by decide)

/-- What the switch brings back besides the registers of the convention: the GS base, and
flags without IF and DF. -/
theorem enterContext_resumes (h : Chosen a g c t) :
    Resumes a (exec enterContext (exec loadContext t)) := by
  obtain ⟨hkeeps, hrip⟩ := enterContext_restores (BitVec.allOnes 32) h
  have hflags : (exec enterContext (exec loadContext t)).rflags =
      a.rflags &&& flagsMask &&& ~~~(1#64 <<< 10) := by
    rw [enterContext_flags ((loadContext_rsp t).trans h.rsp), loadContext_memory, h.flags]
  refine ⟨hrip, hkeeps.rsp, hkeeps.gprs, hkeeps.xmms, ?_, hkeeps.fpuControl, ?_, ?_, ?_⟩
  · have hmxcsr := hkeeps.mxcsr
    rwa [BitVec.and_allOnes, BitVec.and_allOnes] at hmxcsr
  · rw [enterContext_msr, loadContext_r11, loadContext_memory, h.r11, h.saved.gsBase]
  · rw [hflags, BitVec.getLsbD_and, BitVec.getLsbD_and, flagsMask]
    simp
  · rw [hflags, BitVec.getLsbD_and, BitVec.getLsbD_and, flagsMask]
    simp

theorem frame_base (s : State) : s.gpr .rsp = up (s.gpr .rsp - 328#64) 328 :=
  (up_sub_self _ _).symm

theorem contextOf_eq (h : a.gpr .rsp = up g 328) : contextOf a = up g 24 := by
  rw [contextOf, h, up_sub g (by decide)]

/-- The switch hands out the address of the context that it saved. -/
theorem contextSwitch_handsOut (hcell : CellOffFrame a) :
    read (exec contextSwitch a).memory (a.gpr .rcx) 64 = contextOf a := by
  have hrsp := frame_base a
  rw [contextOf_eq hrsp]
  rw [CellOffFrame] at hcell
  generalize a.gpr .rsp - 328#64 = g at hrsp hcell ⊢
  obtain ⟨rip, rsp, flags, top, hmemory⟩ := switchRest_memory (saveContext_rsp hrsp)
  have hlaid : Laid 0 320 [(⟨296, 64, rip⟩ : Word), ⟨304, 64, rsp⟩, ⟨312, 64, flags⟩,
      ⟨0, 64, top⟩] := by
    constructor <;> simp [Word.Within, Word.Clear]
  have hwithin := within_storeWords (exec saveContext a).memory g hlaid
    (by decide : 320 ≤ 336) (by decide)
  have hsame : SameBytes (exec saveContext a).memory (exec contextSwitch a).memory
      (a.gpr .rcx) 0 8 := by
    simp only [contextSwitch, exec_append]
    rw [hmemory]
    exact hwithin.sameBytes (by rw [up_zero]; exact hcell.symm)
  have hread : read (exec contextSwitch a).memory (up (a.gpr .rcx) 0) 64 =
      read (exec saveContext a).memory (up (a.gpr .rcx) 0) 64 :=
    hsame.read (by decide) (by decide) (by decide)
  rw [up_zero] at hread
  rw [hread, saveContext_memory hrsp, read_write_same _ _ _ (by decide) (by decide)]

/-! ## The law -/

/-- While the thread is away, its context stays on its stack. -/
theorem Away.saved (hcell : CellOffFrame a) (h : Away a s) :
    Saved a (contextOf a) s.memory := by
  induction h with
  | leaves =>
    rw [contextOf_eq (frame_base a)]
    exact contextSwitch_saved (frame_base a) hcell
  | runs _ hsame ih => exact ih.keep hsame
  | switches _ hown ih =>
    refine ih.keep (contextSwitch_same (frame_base _) ?_ ?_)
    · rw [up_zero]
      exact hown.frame.mono (by decide) (by decide)
    · rw [up_zero]
      exact hown.cell

/-- However the other threads switch among themselves, the switch that goes back to a thread
resumes it as its own switch would have returned. -/
theorem switching_back_undoes_a_switch (a s : State) (hcell : CellOffFrame a)
    (haway : Away a s) (hback : GoesBack a s) : Resumes a (exec contextSwitch s) := by
  have htarget : s.gpr .rdx = contextOf a := hback.target.trans (contextSwitch_handsOut hcell)
  have hsaved : Saved a (s.gpr .rdx) s.memory := by
    rw [htarget]
    exact haway.saved hcell
  have hchosen := contextSwitch_chosen (frame_base s) (by rw [htarget]; exact hback.frame)
    (by rw [htarget]; exact hback.cell) hback.cellFrame hsaved
  simp only [contextSwitch, exec_append]
  exact enterContext_resumes hchosen

/-! ## A chain over two other threads -/

/-- Another thread gets to its own call of the switch. -/
def entersOn (rsp cell target : Addr) (t : State) : State :=
  ((t.setGpr .rsp rsp).setGpr .rcx cell).setGpr .rdx target

theorem entersOn_spec (rsp cell target : Addr) (t : State) :
    (entersOn rsp cell target t).gpr .rsp = rsp ∧ (entersOn rsp cell target t).gpr .rcx = cell ∧
      (entersOn rsp cell target t).gpr .rdx = target ∧
      (entersOn rsp cell target t).memory = t.memory := by
  simp [entersOn]

/-- The first thread that runs while `sampleCaller` is away switches to a context at zero. -/
def firstOther : State := entersOn 0x12000 0x20008 0 (exec contextSwitch sampleCaller)

/-- The second one goes back to the context that `sampleCaller` left. -/
def secondOther : State :=
  entersOn 0x14000 0x20010 (read (exec contextSwitch sampleCaller).memory 0x20000 64)
    (exec contextSwitch firstOther)

theorem sample_base : sampleCaller.gpr .rsp - 328#64 = 0xFEB8#64 ∧
    contextOf sampleCaller = 0xFED0#64 := by
  constructor <;> decide

theorem sample_cell : CellOffFrame sampleCaller := by
  rw [CellOffFrame, sample_base.1]
  have hapart : Apart 0xFEB8#64 336 (up 0xFEB8#64 65864) 8 := apart_above _ (by decide) (by decide)
  exact hapart.symm

theorem sample_apart {n : Nat} {k : Nat} {b : Addr} (hb : b = up 0xFED0#64 k) (hk : 264 ≤ k)
    (hfit : k + n ≤ 2 ^ 64) : Apart b n (contextOf sampleCaller) 264 := by
  rw [hb, sample_base.2]
  exact (apart_above _ hk hfit).symm

theorem firstOther_own : OwnStack sampleCaller firstOther := by
  obtain ⟨hrsp, hrcx, -, -⟩ := entersOn_spec 0x12000 0x20008 0 (exec contextSwitch sampleCaller)
  constructor
  · rw [firstOther, hrsp]
    exact sample_apart (k := 8168) (by decide) (by decide) (by decide)
  · rw [firstOther, hrcx]
    exact sample_apart (k := 65848) (by decide) (by decide) (by decide)

theorem secondOther_back : GoesBack sampleCaller secondOther := by
  obtain ⟨hrsp, hrcx, hrdx, -⟩ := entersOn_spec 0x14000 0x20010
    (read (exec contextSwitch sampleCaller).memory 0x20000 64) (exec contextSwitch firstOther)
  refine ⟨⟨?_, ?_⟩, ?_, ?_⟩
  · rw [secondOther, hrsp]
    exact sample_apart (k := 16360) (by decide) (by decide) (by decide)
  · rw [secondOther, hrcx]
    exact sample_apart (k := 65856) (by decide) (by decide) (by decide)
  · rw [CellOffFrame, secondOther, hrcx, hrsp]
    have hapart : Apart 0x13EB8#64 336 (up 0x13EB8#64 49496) 8 :=
      apart_above _ (by decide) (by decide)
    exact hapart.symm
  · rw [secondOther, hrdx]
    rfl

theorem secondOther_away : Away sampleCaller secondOther := by
  obtain ⟨-, -, -, hfirst⟩ := entersOn_spec 0x12000 0x20008 0 (exec contextSwitch sampleCaller)
  obtain ⟨-, -, -, hsecond⟩ := entersOn_spec 0x14000 0x20010
    (read (exec contextSwitch sampleCaller).memory 0x20000 64) (exec contextSwitch firstOther)
  have haway : Away sampleCaller firstOther := by
    refine Away.leaves.runs ?_
    rw [firstOther, hfirst]
    exact SameBytes.refl _ _ _ _
  refine (haway.switches firstOther_own).runs ?_
  rw [secondOther, hsecond]
  exact SameBytes.refl _ _ _ _

/-- The law on a chain over two other threads. -/
theorem switching_back_after_two : CellOffFrame sampleCaller ∧ Away sampleCaller secondOther ∧
    GoesBack sampleCaller secondOther ∧ Resumes sampleCaller (exec contextSwitch secondOther) :=
  ⟨sample_cell, secondOther_away, secondOther_back, switching_back_undoes_a_switch _ _ sample_cell
    secondOther_away secondOther_back⟩

end Gate4Harness.SchedulerContext
