-- The frame of a wrapper: what the opening saves there stays there through every call that the
-- wrapper makes, and is what the closing restores.
import Gate4Harness.ContextSwitch

open ByteMemory Amd64 Amd64.State

namespace Gate4Harness.SchedulerContext

variable {e s t u : State} {g : Addr} {arguments : List (Reg × Nat)} {kept : BitVec 32}
  {env : Environment}

/-! ## The frame -/

/-- What the frame of a wrapper that was entered in `e` holds for its end. -/
def frameWords (e : State) : List Word :=
  gprWords e.gpr frameGprs ++
    [⟨192, 32, e.mxcsr⟩, ⟨196, 16, e.fpuControl⟩, ⟨456, 64, e.top⟩]

/-- A wrapper that was entered in `e` is somewhere in its own code. The address `g` is the
lowest one that the switch below it uses. -/
structure Inside (arguments : List (Reg × Nat)) (g : Addr) (e s : State) : Prop where
  rsp : s.gpr .rsp = up g 336
  fits : ∀ x ∈ arguments, 40 ≤ x.2 ∧ x.2 + 8 ≤ 64
  arguments : Holds s.memory (up g 336) (gprWords e.gpr arguments)
  frame : Holds s.memory (up g 336) (frameWords e)

/-- A part of a wrapper's run leaves the stack pointer and, but for the plan, its frame. -/
structure FrameKept (g : Addr) (s t : State) : Prop where
  rsp : t.gpr .rsp = s.gpr .rsp
  low : SameBytes s.memory t.memory g 376 400
  high : SameBytes s.memory t.memory g 416 800

/-- It keeps the registers of the convention as well. -/
structure Passes (kept : BitVec 32) (g : Addr) (s t : State) : Prop
    extends FrameKept g s t, SameRegisters kept s t

theorem FrameKept.trans (h : FrameKept g s t) (h' : FrameKept g t u) : FrameKept g s u where
  rsp := h'.rsp.trans h.rsp
  low := h.low.trans h'.low
  high := h.high.trans h'.high

theorem Passes.trans (h : Passes kept g s t) (h' : Passes kept g t u) : Passes kept g s u :=
  ⟨h.toFrameKept.trans h'.toFrameKept, h.toSameRegisters.trans h'.toSameRegisters⟩

theorem FrameKept.of_same (hrsp : t.gpr .rsp = s.gpr .rsp)
    (h : SameBytes s.memory t.memory g 336 800) : FrameKept g s t :=
  ⟨hrsp, h.part (by decide) (by decide), h.part (by decide) (by decide)⟩

theorem Inside.keep (h : Inside arguments g e s) (hkept : FrameKept g s t) :
    Inside arguments g e t := by
  have hlow : SameBytes s.memory t.memory (up g 336) 40 64 := SameBytes.rebase hkept.low
  have hhigh : SameBytes s.memory t.memory (up g 336) 80 464 := SameBytes.rebase hkept.high
  refine ⟨hkept.rsp.trans h.rsp, h.fits, h.arguments.keep hlow ?_, h.frame.keep hhigh ?_⟩
  · refine List.forall_mem_map.mpr fun x hx => ?_
    have hx := h.fits x hx
    change 64 % 8 = 0 ∧ 40 ≤ x.2 ∧ x.2 + 64 / 8 ≤ 64
    omega
  · simp [frameWords, gprWords, frameGprs, Word.Within]

theorem Inside.argument (h : Inside arguments g e s) {x : Reg × Nat} (hx : x ∈ arguments) :
    read s.memory (up g (336 + x.2)) 64 = e.gpr x.1 := by
  rw [← up_up]
  exact List.forall_mem_map.mp h.arguments x hx

/-! ## Opening and closing -/

/-- The words that the opening of a wrapper stores, in the order of the stores. -/
def openWords (arguments : List (Reg × Nat)) (e : State) : List Word :=
  (gprWords e.gpr arguments).map (Word.shift 336) ++
    (gprWords e.gpr frameGprs).map (Word.shift 336) ++ [⟨328, 64, e.rflags⟩] ++
    ([(⟨184, 64, e.rflags &&& flagsMask⟩ : Word), ⟨192, 32, e.mxcsr⟩, ⟨196, 16, e.fpuControl⟩] ++
      xmmWords e.xmm frameXmms).map (Word.shift 336)

theorem openFrame_memory (hrsp : e.gpr .rsp = up g 792) (h : .rsp ∉ arguments.map Prod.fst) :
    (exec (openFrame arguments) e).memory = storeWords e.memory g (openWords arguments e) := by
  simp (disch := first | assumption | decide) [openFrame, openWords, Word.shift, hrsp,
    gprWords_update]

theorem openFrame_gpr {r : Reg} (h : r ∉ [Reg.rsp, .r10, .r11]) (e : State) :
    (exec (openFrame arguments) e).gpr r = e.gpr r := by
  simp only [openFrame, exec_append, exec_storeXmms, setMemory]
  rw [exec_gpr _ (by simp [Instr.targets] at h ⊢; simp [h])]
  simp only [exec_storeAll, setMemory]
  exact exec_gpr _ (by simp [Instr.targets] at h ⊢; simp [h])

theorem openFrame_same (e : State) : SameRegisters kept e (exec (openFrame arguments) e) where
  gprs r hr := openFrame_gpr (by revert r; decide) e
  xmms x _ := by simp [openFrame]
  mxcsr := by simp [openFrame]
  fpuControl := by simp [openFrame]

theorem openFrame_inside (hrsp : e.gpr .rsp = up g 792) (h : .rsp ∉ arguments.map Prod.fst)
    (hfits : ∀ x ∈ arguments, 40 ≤ x.2 ∧ x.2 + 8 ≤ 64)
    (hlaid : Laid 0 696 (openWords arguments e)) :
    Inside arguments g e (exec (openFrame arguments) e) := by
  have hheld := holds_storeWords e.memory g hlaid (by decide)
  have htop : read (storeWords e.memory g (openWords arguments e)) (up g 792) 64 = e.top := by
    have hread : read (storeWords e.memory (up g 0) (openWords arguments e)) (up g 792) 64 =
        read e.memory (up g 792) 64 :=
      read_storeWords_up e.memory g 0 hlaid (.inl (by decide)) (by decide) (by decide) (by decide)
    rw [up_zero] at hread
    rw [hread, top, hrsp]
  rw [← openFrame_memory hrsp h] at hheld htop
  simp only [openWords, List.map_append, holds_append, holds_shift, holds_cons] at hheld
  obtain ⟨⟨⟨harguments, hgprs⟩, -⟩, ⟨-, hmxcsr, hfpu, hnil⟩, -⟩ := hheld
  refine ⟨by simp [openFrame, hrsp], hfits, harguments, holds_append.mpr ⟨hgprs, ?_⟩⟩
  refine holds_cons.mpr ⟨hmxcsr, holds_cons.mpr ⟨hfpu, holds_cons.mpr ⟨?_, hnil⟩⟩⟩
  rw [up_up]
  exact htop

/-- The restoring code in one step: it loads the general registers and the control words, and
its push and pop leave the flags below the frame. -/
theorem restoreFrame_eq (hrsp : s.gpr .rsp = up g 336) : ∃ flags : BitVec 64,
    exec restoreFrame s =
      { s with
        gpr := Function.update (Function.update
          (readAll s.memory (up g 336) s.gpr frameGprs) .rax flags) .rsp (up g 336)
        mxcsr := read s.memory (up g 528) 32
        fpuControl := read s.memory (up g 532) 16
        rflags := flags &&& ~~~(1#64 <<< 10)
        memory := write s.memory (up g 328) flags } := by
  refine ⟨read s.memory (up g 520) 64, ?_⟩
  simp (disch := decide) only [restoreFrame, exec_append, exec_loadAll]
  dsimp only [exec_cons, exec_nil, step, setGpr, setMemory, address, push, pop, top]
  simp (disch := decide) [hrsp, readAll_of_notMem]

theorem restoreFrame_kept (hrsp : s.gpr .rsp = up g 336) :
    FrameKept g s (exec restoreFrame s) := by
  obtain ⟨flags, heq⟩ := restoreFrame_eq hrsp
  have hwithin : Within s.memory (exec restoreFrame s).memory g 336 := by
    rw [heq]
    exact within_write s.memory g flags (by decide) (by decide)
  refine ⟨?_, ?_, ?_⟩
  · rw [heq, hrsp]
    exact Function.update_self (f := Function.update
      (readAll s.memory (up g 336) s.gpr frameGprs) .rax flags) Reg.rsp (up g 336)
  · exact hwithin.sameBytes (apart_above g (by decide) (by decide))
  · exact hwithin.sameBytes (apart_above g (by decide) (by decide))

theorem frameGprs_keys : frameGprs.map Prod.fst = nonvolatileGprs := rfl

/-- The restoring code brings back what the wrapper was entered with, the vector registers
apart. -/
theorem restoreFrame_restores (h : Inside arguments g e s) :
    (∀ r ∈ nonvolatileGprs, (exec restoreFrame s).gpr r = e.gpr r) ∧
    (exec restoreFrame s).xmm = s.xmm ∧ (exec restoreFrame s).mxcsr = e.mxcsr ∧
    (exec restoreFrame s).fpuControl = e.fpuControl := by
  obtain ⟨flags, heq⟩ := restoreFrame_eq h.rsp
  obtain ⟨hgprs, hcontrol⟩ := holds_append.mp h.frame
  simp only [holds_cons, up_up] at hcontrol
  rw [heq]
  refine ⟨fun r hr => ?_, rfl, hcontrol.1, hcontrol.2.1⟩
  have hne : ∀ r ∈ nonvolatileGprs, r ≠ .rsp ∧ r ≠ .rax := by decide
  dsimp only
  rw [Function.update_of_ne (hne r hr).1, Function.update_of_ne (hne r hr).2]
  obtain ⟨x, hx, rfl⟩ := List.mem_map.mp (frameGprs_keys ▸ hr)
  exact (readAll_mem _ _ _ (by decide) hx).trans (List.forall_mem_map.mp hgprs x hx)

/-- The closing code returns to the caller of the wrapper. -/
theorem closeFrame_returns (h : Inside arguments g e s) (hrsp : e.gpr .rsp = up g 792) :
    (exec closeFrame s).gpr .rsp = up (e.gpr .rsp) 8 ∧ (exec closeFrame s).rip = e.top := by
  obtain ⟨-, hcontrol⟩ := holds_append.mp h.frame
  simp only [holds_cons, up_up] at hcontrol
  simp [closeFrame, h.rsp, hrsp, hcontrol.2.2.1]

/-! ## Calls from a wrapper -/

/-- A call of a function that obeys the convention comes back, and what it was given to write
is outside of the frame or is the plan. -/
theorem call_passes {callee : State → State} {site out : Addr} {n : Nat}
    (hrsp : s.gpr .rsp = up g 336)
    (hcallee : Conforms kept 472 out n (s.push site) (callee (s.push site)))
    (hout : ∀ d, 376 ≤ d → d < 800 → d < 400 ∨ 416 ≤ d → ∀ i < n, up out i ≠ up g d) :
    call site callee s = some (callee (s.push site)) ∧
      Passes kept g s (callee (s.push site)) := by
  have hpush : (s.push site).gpr .rsp = up g 328 := by simp [hrsp]
  have hmemory : (s.push site).memory = write s.memory (up g 328) site := by simp [hrsp]
  have hsite : (callee (s.push site)).rip = site := by
    rw [hcallee.rip, top, hpush, hmemory, read_write_same _ _ _ (by decide) (by decide)]
  have hsame : ∀ d, 376 ≤ d → d < 800 → d < 400 ∨ 416 ≤ d →
      (callee (s.push site)).memory (up g d) = s.memory (up g d) := by
    intro d hlo hhi hplan
    have hframe := hcallee.frame (d - 328) (by omega) (by omega)
    rw [hpush, up_up, Nat.add_sub_cancel' (by omega : 328 ≤ d)] at hframe
    have hwithin : Within s.memory (s.push site).memory g 336 := by
      rw [hmemory]
      exact within_write s.memory g site (by decide) (by decide)
    have hbelow : SameBytes s.memory (s.push site).memory g 336 800 :=
      hwithin.sameBytes (apart_above g (by decide) (by decide))
    exact (hframe (hout d hlo hhi hplan)).trans (hbelow d (by omega) hhi)
  refine ⟨if_pos hsite, ⟨⟨?_, ?_, ?_⟩, ?_⟩⟩
  · rw [hcallee.rsp, hpush, hrsp, up_up]
  · exact fun d hlo hhi => hsame d hlo (by omega) (.inl hhi)
  · exact fun d hlo hhi => hsame d (by omega) hhi (.inr hlo)
  · have hgprs : ∀ r ∈ nonvolatileGprs, r ≠ .rsp := by decide
    refine ⟨fun r hr => ?_, hcallee.xmms, hcallee.mxcsr, hcallee.fpuControl⟩
    rw [hcallee.gprs r hr]
    exact Function.update_of_ne (hgprs r hr) _ _

/-- The words of a snapshot that are stored before the flags are pushed. -/
def snapshotFirst (s : State) : List Word :=
  gprWords s.gpr contextGprs ++ xmmWords s.xmm snapshotXmms ++
    [⟨224, 32, s.mxcsr⟩, ⟨228, 16, s.fpuControl⟩, ⟨232, 64, s.gpr .rsp⟩]

def snapshotRest (s : State) : List Word := [⟨240, 64, s.rflags⟩, ⟨248, 64, s.msr gsBase⟩]

theorem snapshotFirst_laid (s : State) : Laid 0 240 (snapshotFirst s) := by
  constructor <;> simp [snapshotFirst, gprWords, contextGprs, xmmWords, snapshotXmms, Word.Within,
    Word.Clear]

theorem snapshotRest_laid (s : State) : Laid 240 256 (snapshotRest s) := by
  constructor <;> simp [snapshotRest, Word.Within, Word.Clear]

theorem captureRegisters_memory (hrsp : s.gpr .rsp = up g 328) :
    (exec captureRegisters s).memory =
      storeWords (write (storeWords s.memory (s.gpr .rcx) (snapshotFirst s)) (up g 320) s.rflags)
        (s.gpr .rcx) (snapshotRest s) := by
  simp (disch := decide) only [captureRegisters, exec_append, exec_storeAll, exec_storeXmms]
  dsimp only [exec_cons, exec_nil, step, setGpr, setMemory, address, push, pop, top]
  simp (disch := decide) [snapshotFirst, snapshotRest, hrsp, gprWords_update, msr_halves]

/-- What a snapshot stores is in the snapshot or below the stack pointer. -/
theorem captureRegisters_same (hrsp : s.gpr .rsp = up g 328)
    (hsnapshot : Apart (s.gpr .rcx) 256 g 800) :
    SameBytes s.memory (exec captureRegisters s).memory g 328 800 := by
  have hapart : Apart (s.gpr .rcx) 256 (up g 328) (800 - 328) :=
    hsnapshot.above 328 (by decide) (by decide)
  rw [captureRegisters_memory hrsp]
  have hfirst := (within_storeWords s.memory (s.gpr .rcx) (snapshotFirst_laid s)
    (by decide : 240 ≤ 256) (by decide)).sameBytes hapart
  have hpush : SameBytes (storeWords s.memory (s.gpr .rcx) (snapshotFirst s))
      (write (storeWords s.memory (s.gpr .rcx) (snapshotFirst s)) (up g 320) s.rflags) g 328 800 :=
    (within_write _ g s.rflags (by decide : 320 + 64 / 8 ≤ 328) (by decide)).sameBytes
      (apart_above g (by decide) (by decide))
  have hrest := (within_storeWords (write (storeWords s.memory (s.gpr .rcx) (snapshotFirst s))
    (up g 320) s.rflags) (s.gpr .rcx) (snapshotRest_laid s) (by decide : 256 ≤ 256)
    (by decide)).sameBytes hapart
  exact (hfirst.trans hpush).trans hrest

/-- Taking a snapshot keeps the convention, as long as the snapshot is not on the wrapper's
stack. -/
theorem captureRegisters_conforms (hrsp : s.gpr .rsp = up g 328)
    (hsnapshot : Apart (s.gpr .rcx) 256 g 800) :
    Conforms kept 472 0 0 s (exec captureRegisters s) := by
  have hsame := captureRegisters_same hrsp hsnapshot
  refine ⟨⟨⟨fun r hr => exec_gpr s ?_, ?_, ?_, ?_⟩, ?_⟩, ?_, fun d hlo hhi _ => ?_⟩
  · revert r
    decide
  · intro x _
    simp [captureRegisters]
  · simp [captureRegisters]
  · simp [captureRegisters]
  · simp [captureRegisters, hrsp]
  · have hrip : (exec captureRegisters s).rip =
        read (exec captureRegisters s).memory (up g 328) 64 := by
      simp [captureRegisters, hrsp]
    rw [hrip, top, hrsp]
    exact hsame.read (by decide) (by decide) (by decide)
  · rw [hrsp, up_up]
    exact hsame (328 + d) (by omega) (by omega)

/-! ## Sentinels -/

/-- Setting the sentinels leaves memory and returns, with constants in the vector registers. -/
theorem setSentinels_returns (first : BitVec 64) (xmms : List (Xmm × BitVec 128))
    (mxcsr : BitVec 32) (fpuControl : BitVec 16) (s : State) :
    (exec (setSentinels first xmms mxcsr fpuControl) s).gpr .rsp = up (s.gpr .rsp) 8 ∧
    (exec (setSentinels first xmms mxcsr fpuControl) s).rip = s.top ∧
    (exec (setSentinels first xmms mxcsr fpuControl) s).memory = s.memory ∧
    (exec (setSentinels first xmms mxcsr fpuControl) s).xmm = setAll s.xmm xmms ∧
    (exec (setSentinels first xmms mxcsr fpuControl) s).gpr .rcx = s.gpr .rcx := by
  simp [setSentinels, sentinelGprs, exec_constXmms]

/-- A call that sets sentinels keeps the whole frame. -/
theorem call_sentinels (site : Addr) (hrsp : s.gpr .rsp = up g 336) (first : BitVec 64)
    (xmms : List (Xmm × BitVec 128)) (hxmms : (xmms.map Prod.fst).Nodup) (mxcsr : BitVec 32)
    (fpuControl : BitVec 16) :
    ∃ t, call site (exec (setSentinels first xmms mxcsr fpuControl)) s = some t ∧
      t.gpr .rsp = s.gpr .rsp ∧ SameBytes s.memory t.memory g 336 800 ∧
      (∀ x ∈ xmms, t.xmm x.1 = x.2) ∧ t.gpr .rcx = s.gpr .rcx := by
  obtain ⟨hgpr, hrip, hmemory, hxmm, hrcx⟩ :=
    setSentinels_returns first xmms mxcsr fpuControl (s.push site)
  have hpush : (s.push site).gpr .rsp = up g 328 := by simp [hrsp]
  have hstored : (s.push site).memory = write s.memory (up g 328) site := by simp [hrsp]
  have hwithin : Within s.memory (s.push site).memory g 336 := by
    rw [hstored]
    exact within_write s.memory g site (by decide) (by decide)
  refine ⟨_, if_pos ?_, ?_, ?_, fun x hx => ?_, ?_⟩
  · rw [hrip, top, hpush, hstored, read_write_same _ _ _ (by decide) (by decide)]
  · rw [hgpr, hpush, hrsp, up_up]
  · rw [hmemory]
    exact hwithin.sameBytes (apart_above g (by decide) (by decide))
  · rw [hxmm]
    exact setAll_mem _ hxmms hx
  · rw [hrcx]
    simp

end Gate4Harness.SchedulerContext
