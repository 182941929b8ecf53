-- What the context switch saves and what it loads.
import Gate4Harness.SchedulerContext

open ByteMemory Amd64 Amd64.State

namespace Gate4Harness.SchedulerContext

variable {s t : State} {g c : Addr} {m m' : Memory}

/-- The words of a saved context that lie below the flags. -/
def savedFirst (s : State) : List Word :=
  gprWords s.gpr contextGprs ++ [⟨64, 64, up (s.gpr .rsp) 8⟩, ⟨72, 64, s.top⟩]

def savedRest (s : State) : List Word :=
  [⟨80, 64, s.rflags &&& flagsMask⟩, ⟨88, 32, s.mxcsr⟩, ⟨92, 16, s.fpuControl⟩,
    ⟨96, 64, s.msr gsBase⟩] ++ xmmWords s.xmm contextXmms

/-- The context at `c` is that of a thread which entered the switch in the state `s`. -/
def Saved (s : State) (c : Addr) (m : Memory) : Prop := Holds m c (savedFirst s ++ savedRest s)

/-- The words that the switch stores in its frame, in the order of the stores. -/
def switchWords (s : State) : List Word :=
  [⟨8, 64, s.gpr .rcx⟩, ⟨16, 64, s.gpr .rdx⟩] ++ (savedFirst s).map (Word.shift 24) ++
    [⟨0, 64, s.rflags⟩] ++ (savedRest s).map (Word.shift 24)

theorem contextGprs_laid (gpr : Reg → BitVec 64) : Laid 0 64 (gprWords gpr contextGprs) := by
  constructor <;> simp [gprWords, contextGprs, Word.Within, Word.Clear]

theorem contextXmms_laid (xmm : Xmm → BitVec 128) : Laid 104 264 (xmmWords xmm contextXmms) := by
  constructor <;> simp [xmmWords, contextXmms, Word.Within, Word.Clear]

theorem switchWords_laid (s : State) : Laid 0 288 (switchWords s) := by
  constructor <;> simp [switchWords, savedFirst, savedRest, gprWords, contextGprs, xmmWords,
    contextXmms, Word.Within, Word.Clear, Word.shift]

theorem msr_halves (v : BitVec 64) :
    (v.setWidth 32).setWidth 64 ||| (v >>> 32) <<< 32 = v := by
  ext i hi
  simp only [BitVec.getElem_or, BitVec.getElem_setWidth, BitVec.getElem_shiftLeft,
    BitVec.getLsbD_setWidth, BitVec.getElem_ushiftRight]
  by_cases h : i < 32
  · simp [h, BitVec.getLsbD_eq_getElem hi]
  · simp [h, Nat.add_sub_cancel' (Nat.le_of_not_lt h), BitVec.getLsbD_eq_getElem hi]

theorem saveContext_memory (hrsp : s.gpr .rsp = up g 328) :
    (exec saveContext s).memory =
      write (storeWords s.memory g (switchWords s)) (s.gpr .rcx) (up g 24) := by
  simp (disch := decide) [saveContext, switchWords, savedFirst, savedRest, Word.shift, hrsp,
    gprWords_update, read_storeWords_up _ _ _ (contextGprs_laid _),
    read_storeWords_up _ _ _ (contextXmms_laid _), msr_halves, -up_zero]
  simp only [up_zero]

theorem saveContext_rsp (hrsp : s.gpr .rsp = up g 328) :
    (exec saveContext s).gpr .rsp = up g 8 := by
  simp [saveContext, hrsp, -up_zero]

/-- The switch stores the context of its caller, as long as the place that it hands the
context out through is not in its own frame. -/
theorem saveContext_holds (hrsp : s.gpr .rsp = up g 328) (hcell : Apart (s.gpr .rcx) 8 g 336) :
    Holds (exec saveContext s).memory g (switchWords s) := by
  rw [saveContext_memory hrsp]
  have hwithin := within_write_self (storeWords s.memory g (switchWords s)) (s.gpr .rcx)
    (up g 24) (Nat.le_refl 8) (by decide)
  have hsame : SameBytes _ _ g 0 336 := hwithin.sameBytes (by rwa [up_zero])
  exact (holds_storeWords s.memory g (switchWords_laid s) (by decide)).keep
    (hsame.part (by decide) (by decide)) (switchWords_laid s).within

/-- What the switch stores is in its frame or where it hands out the context. -/
theorem saveContext_same (hrsp : s.gpr .rsp = up g 328) {b : Addr} {lo hi : Nat}
    (hframe : Apart g 328 (up b lo) (hi - lo))
    (hcell : Apart (s.gpr .rcx) 8 (up b lo) (hi - lo)) :
    SameBytes s.memory (exec saveContext s).memory b lo hi := by
  rw [saveContext_memory hrsp]
  have hwords := within_storeWords s.memory g (switchWords_laid s) (by decide : 288 ≤ 328)
    (by decide)
  exact (hwords.sameBytes hframe).trans
    ((within_write_self _ _ _ (Nat.le_refl 8) (by decide)).sameBytes hcell)

/-- The words of a saved context are among the words of the switch's frame. -/
theorem Saved.of_switch (h : Holds m g (switchWords s)) : Saved s (up g 24) m := by
  obtain ⟨⟨⟨-, hfirst⟩, -⟩, hrest⟩ : ((_ ∧ _) ∧ _) ∧ _ := by
    simpa only [switchWords, holds_append] using h
  exact holds_append.mpr ⟨holds_shift.mp hfirst, holds_shift.mp hrest⟩

theorem Saved.keep (h : Saved s c m) (hsame : SameBytes m m' c 0 264) : Saved s c m' := by
  refine Holds.keep h hsame ?_
  simp [savedFirst, savedRest, gprWords, contextGprs, xmmWords, contextXmms, Word.Within]

section Saved

variable (h : Saved s c m)
include h

theorem Saved.gpr {e : Reg × Nat} (he : e ∈ contextGprs) :
    read m (up c e.2) 64 = s.gpr e.1 := by
  refine h ⟨e.2, 64, s.gpr e.1⟩ (List.mem_append_left _ (List.mem_append_left _ ?_))
  exact List.mem_map_of_mem (f := fun e => (⟨e.2, 64, s.gpr e.1⟩ : Word)) he

theorem Saved.xmm {e : Xmm × Nat} (he : e ∈ contextXmms) :
    read m (up c e.2) 128 = s.xmm e.1 := by
  refine h ⟨e.2, 128, s.xmm e.1⟩ (List.mem_append_right _ (List.mem_append_right _ ?_))
  exact List.mem_map_of_mem (f := fun e => (⟨e.2, 128, s.xmm e.1⟩ : Word)) he

theorem Saved.rsp : read m (up c 64) 64 = up (s.gpr .rsp) 8 :=
  h ⟨64, 64, up (s.gpr .rsp) 8⟩ (by simp [savedFirst])

theorem Saved.rip : read m (up c 72) 64 = s.top :=
  h ⟨72, 64, s.top⟩ (by simp [savedFirst])

theorem Saved.flags : read m (up c 80) 64 = s.rflags &&& flagsMask :=
  h ⟨80, 64, s.rflags &&& flagsMask⟩ (by simp [savedRest])

theorem Saved.gsBase : read m (up c 96) 64 = s.msr gsBase :=
  h ⟨96, 64, s.msr SchedulerContext.gsBase⟩ (by simp [savedRest])

theorem Saved.mxcsr : read m (up c 88) 32 = s.mxcsr :=
  h ⟨88, 32, s.mxcsr⟩ (by simp [savedRest])

theorem Saved.fpuControl : read m (up c 92) 16 = s.fpuControl :=
  h ⟨92, 16, s.fpuControl⟩ (by simp [savedRest])

end Saved

/-! ## What the switch loads -/

theorem chooseContext_gprs (hrsp : t.gpr .rsp = up g 8) (hc : read t.memory (up g 16) 64 = c) :
    (exec chooseContext t).gpr .rsp = up g 8 ∧ (exec chooseContext t).gpr .r11 = c := by
  dsimp only [chooseContext, exec_cons, exec_nil, step, setGpr, setMemory, address]
  simp [hrsp, hc]

theorem chooseContext_stores (hrsp : t.gpr .rsp = up g 8) : ∃ rip rsp flags,
    (exec chooseContext t).memory =
      storeWords t.memory g [⟨296, 64, rip⟩, ⟨304, 64, rsp⟩, ⟨312, 64, flags⟩] := by
  dsimp only [chooseContext, exec_cons, exec_nil, step, setGpr, setMemory, address]
  simp only [ne_eq, reduceCtorEq, not_false_eq_true, Function.update_of_ne, hrsp, up_up]
  exact ⟨_, _, _, rfl⟩

theorem chooseContext_memory (hrsp : t.gpr .rsp = up g 8)
    (hc : read t.memory (up g 16) 64 = c) (hapart : Apart g 336 c 264) :
    (exec chooseContext t).memory = storeWords t.memory g [⟨296, 64, read t.memory (up c 72) 64⟩,
      ⟨304, 64, read t.memory (up c 64) 64⟩, ⟨312, 64, read t.memory (up c 80) 64⟩] := by
  have hskip : ∀ (m : Memory) (v : BitVec 64) (i j : Nat), i + 8 ≤ 336 → j + 8 ≤ 264 →
      read (write m (up g i) v) (up c j) 64 = read m (up c j) 64 := fun m v i j hi hj =>
    read_write_apart m v (by decide) (hapart.part hi hj)
  dsimp only [chooseContext, exec_cons, exec_nil, step, setGpr, setMemory, address]
  simp [hrsp, hc, hskip]

theorem loadContext_eq (hc : t.gpr .r11 = c) :
    exec loadContext t =
      { t with
        gpr := readAll t.memory c t.gpr contextGprs
        xmm := readAll t.memory c t.xmm contextXmms
        mxcsr := read t.memory (up c 88) 32
        fpuControl := read t.memory (up c 92) 16 } := by
  simp (disch := decide) [loadContext, exec_loadAll, readAll_of_notMem, hc]

theorem loadContext_memory (t : State) : (exec loadContext t).memory = t.memory := by
  rw [loadContext_eq rfl]

theorem loadContext_rsp (t : State) : (exec loadContext t).gpr .rsp = t.gpr .rsp := by
  rw [loadContext_eq rfl]
  exact readAll_of_notMem _ _ _ _ (by decide)

theorem enterContext_memory (hrsp : t.gpr .rsp = up g 8) :
    (exec enterContext t).memory = write t.memory g (read t.memory (up g 312) 64) := by
  dsimp only [enterContext, exec_cons, exec_nil, step, setGpr, setMemory, address, push, pop, top]
  simp [hrsp]

theorem enterContext_rsp (hrsp : t.gpr .rsp = up g 8) :
    (exec enterContext t).gpr .rsp = read t.memory (up g 304) 64 := by
  dsimp only [enterContext, exec_cons, exec_nil, step, setGpr, setMemory, address, push, pop, top]
  simp [hrsp, -up_zero]

theorem enterContext_rip (hrsp : t.gpr .rsp = up g 8) :
    (exec enterContext t).rip = read t.memory (up g 296) 64 := by
  dsimp only [enterContext, exec_cons, exec_nil, step, setGpr, setMemory, address, push, pop, top]
  simp [hrsp, -up_zero]

theorem enterContext_gpr {r : Reg} (h : r ∈ nonvolatileGprs) (t : State) :
    (exec enterContext t).gpr r = t.gpr r := by
  refine exec_gpr t ?_
  revert r
  decide

theorem enterContext_rest (t : State) : (exec enterContext t).xmm = t.xmm ∧
    (exec enterContext t).mxcsr = t.mxcsr ∧ (exec enterContext t).fpuControl = t.fpuControl :=
  ⟨rfl, rfl, rfl⟩

/-! ## The whole switch -/

/-- After the old context was handed out, the switch stores in two places of its frame, below
and above the context. -/
theorem switchRest_memory (hrsp : t.gpr .rsp = up g 8) : ∃ rip rsp flags top,
    (exec enterContext (exec loadContext (exec chooseContext t))).memory =
      storeWords t.memory g
        [⟨296, 64, rip⟩, ⟨304, 64, rsp⟩, ⟨312, 64, flags⟩, ⟨0, 64, top⟩] := by
  obtain ⟨rip, rsp, flags, hmemory⟩ := chooseContext_stores hrsp
  obtain ⟨hrsp', -⟩ := chooseContext_gprs hrsp rfl
  have hgpr := (loadContext_rsp (exec chooseContext t)).trans hrsp'
  refine ⟨rip, rsp, flags, read (exec loadContext (exec chooseContext t)).memory (up g 312) 64, ?_⟩
  rw [enterContext_memory hgpr]
  generalize read (exec loadContext (exec chooseContext t)).memory (up g 312) 64 = top
  rw [loadContext_memory, hmemory]
  simp only [storeWords_cons, storeWords_nil, up_zero]

theorem contextSwitch_saved (hrsp : s.gpr .rsp = up g 328)
    (hcell : Apart (s.gpr .rcx) 8 g 336) : Saved s (up g 24) (exec contextSwitch s).memory := by
  have hsaved := Saved.of_switch (saveContext_holds hrsp hcell)
  obtain ⟨rip, rsp, flags, top, hmemory⟩ := switchRest_memory (saveContext_rsp hrsp)
  refine hsaved.keep ?_
  simp only [contextSwitch, exec_append]
  rw [hmemory]
  have hsame : SameBytes (exec saveContext s).memory (storeWords (exec saveContext s).memory g
      [⟨296, 64, rip⟩, ⟨304, 64, rsp⟩, ⟨312, 64, flags⟩, ⟨0, 64, top⟩]) g (24 + 0) (24 + 264) :=
    sameBytes_storeWords _ _ (by simp) (by simp) (by decide) (by decide)
  exact hsame.rebase

theorem contextSwitch_same (hrsp : s.gpr .rsp = up g 328) {b : Addr} {lo hi : Nat}
    (hframe : Apart g 328 (up b lo) (hi - lo))
    (hcell : Apart (s.gpr .rcx) 8 (up b lo) (hi - lo)) :
    SameBytes s.memory (exec contextSwitch s).memory b lo hi := by
  obtain ⟨rip, rsp, flags, top, hmemory⟩ := switchRest_memory (saveContext_rsp hrsp)
  refine (saveContext_same hrsp hframe hcell).trans ?_
  simp only [contextSwitch, exec_append]
  rw [hmemory]
  have hlaid : Laid 0 320 [(⟨296, 64, rip⟩ : Word), ⟨304, 64, rsp⟩, ⟨312, 64, flags⟩,
      ⟨0, 64, top⟩] := by
    constructor <;> simp [Word.Within, Word.Clear]
  exact (within_storeWords _ g hlaid (by decide) (by decide)).sameBytes hframe

/-- The tables of a context list the registers that the convention keeps. -/
theorem contextGprs_keys : contextGprs.map Prod.fst = nonvolatileGprs := rfl

theorem contextXmms_keys (x : Xmm) : x ∈ contextXmms.map Prod.fst ↔ 6 ≤ x := by
  revert x
  decide

/-- The state in which the switch begins to load the context of a thread that entered it in
`s`. -/
structure Chosen (s : State) (g c : Addr) (u : State) : Prop where
  rsp : u.gpr .rsp = up g 8
  r11 : u.gpr .r11 = c
  saved : Saved s c u.memory
  rip : read u.memory (up g 296) 64 = s.top
  stack : read u.memory (up g 304) 64 = up (s.gpr .rsp) 8
  flags : read u.memory (up g 312) 64 = s.rflags &&& flagsMask

theorem chooseContext_chosen (hrsp : t.gpr .rsp = up g 8)
    (hc : read t.memory (up g 16) 64 = c) (hframe : Apart g 336 c 264)
    (hsaved : Saved s c t.memory) : Chosen s g c (exec chooseContext t) := by
  obtain ⟨hrsp', hr11⟩ := chooseContext_gprs hrsp hc
  have hmemory := chooseContext_memory hrsp hc hframe
  rw [hsaved.rip, hsaved.rsp, hsaved.flags] at hmemory
  generalize exec chooseContext t = u at hrsp' hr11 hmemory ⊢
  have hlaid : Laid 0 320 [(⟨296, 64, s.top⟩ : Word), ⟨304, 64, up (s.gpr .rsp) 8⟩,
      ⟨312, 64, s.rflags &&& flagsMask⟩] := by
    constructor <;> simp [Word.Within, Word.Clear]
  have hwithin : Within t.memory u.memory g 336 :=
    hmemory ▸ within_storeWords t.memory g hlaid (by decide) (by decide)
  have hheld := holds_storeWords t.memory g hlaid (by decide)
  rw [← hmemory] at hheld
  simp only [holds_cons] at hheld
  obtain ⟨hrip, hstack, hflags, -⟩ := hheld
  exact ⟨hrsp', hr11, hsaved.keep (hwithin.sameBytes (by rwa [up_zero])), hrip, hstack, hflags⟩

theorem enterContext_restores (kept : BitVec 32) (h : Chosen s g c t) :
    KeepsRegisters kept s (exec enterContext (exec loadContext t)) ∧
      (exec enterContext (exec loadContext t)).rip = s.top := by
  have hgpr := (loadContext_rsp t).trans h.rsp
  obtain ⟨hxmm, hmxcsr, hfpu⟩ := enterContext_rest (exec loadContext t)
  refine ⟨⟨⟨?_, ?_, ?_, ?_⟩, ?_⟩, ?_⟩
  · intro r hr
    obtain ⟨e, he, rfl⟩ := List.mem_map.mp (contextGprs_keys ▸ hr)
    rw [enterContext_gpr hr, loadContext_eq h.r11]
    exact (readAll_mem _ _ _ (by decide) he).trans (h.saved.gpr he)
  · intro x hx
    obtain ⟨e, he, rfl⟩ := List.mem_map.mp ((contextXmms_keys x).mpr hx)
    rw [hxmm, loadContext_eq h.r11]
    exact (readAll_mem _ _ _ (by decide) he).trans (h.saved.xmm he)
  · rw [hmxcsr, loadContext_eq h.r11]
    exact congrArg (· &&& kept) h.saved.mxcsr
  · rw [hfpu, loadContext_eq h.r11]
    exact h.saved.fpuControl
  · rw [enterContext_rsp hgpr, loadContext_memory, h.stack]
  · rw [enterContext_rip hgpr, loadContext_memory, h.rip]

/-- A switch to the context of a thread that entered it in `s` gets to load that context. -/
theorem contextSwitch_chosen (hrsp : t.gpr .rsp = up g 328)
    (hframe : Apart g 336 (t.gpr .rdx) 264) (hcell : Apart (t.gpr .rcx) 8 (t.gpr .rdx) 264)
    (hcell' : Apart (t.gpr .rcx) 8 g 336) (hsaved : Saved s (t.gpr .rdx) t.memory) :
    Chosen s g (t.gpr .rdx) (exec chooseContext (exec saveContext t)) := by
  have hheld := saveContext_holds hrsp hcell'
  have hc : read (exec saveContext t).memory (up g 16) 64 = t.gpr .rdx :=
    hheld ⟨16, 64, t.gpr .rdx⟩ (by simp [switchWords])
  have hsame : SameBytes t.memory (exec saveContext t).memory (t.gpr .rdx) 0 264 :=
    saveContext_same hrsp (by simpa using hframe.mono (by decide) (Nat.le_refl 264))
      (by rwa [up_zero])
  exact chooseContext_chosen (saveContext_rsp hrsp) hc hframe (hsaved.keep hsame)

/-- A switch to a context puts its thread back where it entered the switch: for the thread, the
switch away and back is a call that returns. -/
theorem contextSwitch_restores (kept : BitVec 32) (hrsp : t.gpr .rsp = up g 328)
    (hframe : Apart g 336 (t.gpr .rdx) 264) (hcell : Apart (t.gpr .rcx) 8 (t.gpr .rdx) 264)
    (hcell' : Apart (t.gpr .rcx) 8 g 336) (hsaved : Saved s (t.gpr .rdx) t.memory) :
    KeepsRegisters kept s (exec contextSwitch t) ∧ (exec contextSwitch t).rip = s.top := by
  simp only [contextSwitch, exec_append]
  exact enterContext_restores kept (contextSwitch_chosen hrsp hframe hcell hcell' hsaved)

/-- What the rest of the machine owes a thread that entered the switch in `s`: when control
enters the switch again in `t` to come back, it is for the context that was handed out, on
another stack, and the thread's own stack, from the context up to the frame of the wrapper, is
as the switch left it. -/
structure ComesBack (s t : State) : Prop where
  target : t.gpr .rdx = s.gpr .rsp - 304#64
  frame : Apart (t.gpr .rsp - 328#64) 336 (s.gpr .rsp - 304#64) 776
  cell : Apart (t.gpr .rcx) 8 (s.gpr .rsp - 304#64) 776
  cellFrame : Apart (t.gpr .rcx) 8 (t.gpr .rsp - 328#64) 336
  memory : SameBytes (exec contextSwitch s).memory t.memory (s.gpr .rsp - 304#64) 0 776

/-- The switch away and back obeys the convention. -/
theorem switchAndBack_conforms {env : Environment} (kept : BitVec 32) (out : Addr)
    (hrsp : s.gpr .rsp = up g 328) (hcell : Apart (s.gpr .rcx) 8 g 800)
    (hback : ComesBack s (env.elsewhere s (exec contextSwitch s))) :
    Conforms kept 472 out 0 s (switchAndBack env s) := by
  obtain ⟨htarget, hframe, hcellBack, hcellFrame, hmemory⟩ := hback
  have hcontext : s.gpr .rsp - 304#64 = up g 24 := by rw [hrsp, up_sub g (by decide)]
  rw [hcontext] at htarget hframe hcellBack hmemory
  rw [switchAndBack]
  generalize env.elsewhere s (exec contextSwitch s) = t at *
  have hrsp' : t.gpr .rsp = up (t.gpr .rsp - 328#64) 328 := (up_sub_self _ _).symm
  have hsaved : Saved s (t.gpr .rdx) t.memory := by
    rw [htarget]
    exact (contextSwitch_saved hrsp (hcell.mono (by decide) (by decide))).keep
      (hmemory.part (by decide) (by decide))
  obtain ⟨hregisters, hrip⟩ := contextSwitch_restores kept hrsp'
    (by rw [htarget]; exact hframe.mono (by decide) (by decide))
    (by rw [htarget]; exact hcellBack.mono (by decide) (by decide)) hcellFrame hsaved
  -- The frames above the switch are kept on the way out, while away, and on the way back.
  have hout : SameBytes s.memory (exec contextSwitch s).memory g 328 800 :=
    contextSwitch_same hrsp (apart_above g (by decide) (by decide))
      (hcell.above 328 (by decide) (by decide))
  have haway : SameBytes (exec contextSwitch s).memory t.memory g 328 800 :=
    (hmemory.part (Nat.zero_le 304) (Nat.le_refl 776)).unbase
  have hreturn : SameBytes t.memory (exec contextSwitch t).memory g 328 800 := by
    refine contextSwitch_same hrsp' ?_ ?_
    · rw [show up g 328 = up (up g 24) 304 from (up_up g 24 304).symm]
      exact hframe.above 304 (by decide) (by decide)
    · rw [show up g 328 = up (up g 24) 304 from (up_up g 24 304).symm]
      exact hcellBack.above 304 (by decide) (by decide)
  refine ⟨hregisters, hrip, fun d hd hd' _ => ?_⟩
  rw [hrsp, up_up]
  exact ((hout.trans haway).trans hreturn) (328 + d) (by omega) (by omega)

end Gate4Harness.SchedulerContext
