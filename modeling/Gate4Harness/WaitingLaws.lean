-- The registers that a caller of a waiting wrapper finds on return. The wrappers save all
-- that the convention asks them to keep, and restore all of it but the vector registers.
import Gate4Harness.WrapperFrames

open ByteMemory Amd64 Amd64.State

namespace Gate4Harness.SchedulerContext

variable {e s t : State} {g : Addr} {arguments : List (Reg × Nat)} {kept : BitVec 32}
  {env : Environment}

/-! ## What the wrappers rely on -/

/-- The functions around the wrappers obey the convention, and the pointers of a plan are not
on the stack of the thread that asked for it. Only the plan and the snapshot are theirs to
write on that stack. -/
structure Obeys (kept : BitVec 32) (env : Environment) : Prop where
  prepareWait : ∀ s, Apart (s.gpr .rdx) 16 (s.gpr .rsp) 40 →
    Conforms kept 472 (s.gpr .rdx) 16 s (env.prepareWait s)
  waitPlan : ∀ s, Apart (s.gpr .rdx) 16 (s.gpr .rsp) 40 → (env.prepareWait s).low .rax = 0 →
    Apart (read (env.prepareWait s).memory (s.gpr .rdx) 64) 8 (s.gpr .rsp - 328#64) 800
  finishWait : ∀ s, Conforms kept 472 0 0 s (env.finishWait s)
  prepareYield : ∀ s, Apart (s.gpr .rcx) 16 (s.gpr .rsp) 40 →
    Conforms kept 472 (s.gpr .rcx) 16 s (env.prepareYield s)
  pendingPlan : ∀ s, Conforms kept 472 0 0 s (env.pendingPlan s)
  yieldPlan : ∀ s site, (env.prepareYield s).low .rax ≠ 0 →
    Apart (read (env.pendingPlan ((env.prepareYield s).push site)).memory
      ((env.pendingPlan ((env.prepareYield s).push site)).gpr .rax) 64) 8
      (s.gpr .rsp - 328#64) 800
  elsewhere : ∀ s, Apart (s.gpr .rcx) 8 (s.gpr .rsp - 328#64) 800 →
    ComesBack s (env.elsewhere s (exec contextSwitch s))

/-- The stack from below the frame of the switch up to the return address of a wrapper that is
entered in `e` has nothing of the `n` bytes at `a`. -/
def OffStack (e : State) (a : Addr) (n : Nat) : Prop := Apart a n (e.gpr .rsp - 792#64) 800

/-- What a caller promises: the snapshot and the result are objects of its own. -/
def Promised (e : State) : Wrapper → Prop
  | .mainBlock | .workerWait => OffStack e (e.gpr .rdx) 256 ∧ OffStack e (e.gpr .r8) 4
  | .mainDispatch => OffStack e (e.gpr .rcx) 256

/-- The vector registers already hold the sentinels of a list. -/
def HoldsSentinels (xmms : List (Xmm × BitVec 128)) (e : State) : Prop :=
  ∀ x ∈ xmms, e.xmm x.1 = x.2

/-- The prepare function answers, which for a wait is anything but a failure. -/
def Wrapper.Answers (env : Environment) (e : State) : Wrapper → Prop
  | .mainBlock => ∃ s, mainBlockAsks env e = some s ∧ ¬ (s.low .rax).slt 0
  | .workerWait => ∃ s, workerWaitAsks env e = some s ∧ ¬ (s.low .rax).slt 0
  | .mainDispatch => True

/-- `gxos_scheduler_prepare_wait` tells a worker that it does not have to wait. -/
def WaitIsOver (env : Environment) (e : State) : Prop :=
  ∃ s, workerWaitAsks env e = some s ∧ (0#32).slt (s.low .rax)

/-- When a wrapper keeps the vector registers: it never gets to overwrite them, or they
already held what it overwrites them with. -/
def Wrapper.Harmless (env : Environment) (e : State) : Wrapper → Prop
  | .mainBlock | .mainDispatch => HoldsSentinels mainXmms e
  | .workerWait => WaitIsOver env e ∨ HoldsSentinels workerXmms e

/-! ## Pieces of the wrappers -/

/-- Code between two calls that only moves volatile registers, and stores outside of the
frame. -/
theorem glue_passes {code : List Instr}
    (htargets : ∀ i ∈ code, ∀ r ∈ i.targets, r ∉ nonvolatileGprs ∧ r ≠ .rsp)
    (hsame : SameBytes s.memory (exec code s).memory g 336 800)
    (hxmm : (exec code s).xmm = s.xmm) (hmxcsr : (exec code s).mxcsr = s.mxcsr)
    (hfpu : (exec code s).fpuControl = s.fpuControl) : Passes kept g s (exec code s) := by
  refine ⟨FrameKept.of_same (exec_gpr s fun i hi hr => ?_) hsame,
    ⟨fun r hr => exec_gpr s fun i hi hr' => ?_, fun x _ => by rw [hxmm], by rw [hmxcsr], hfpu⟩⟩
  · exact (htargets i hi _ hr).2 rfl
  · exact (htargets i hi r hr').1 hr

theorem load_passes (offset : Nat) (base dst : Reg) (h : dst ∉ nonvolatileGprs ∧ dst ≠ .rsp) :
    Passes kept g s (exec [.load offset base dst] s) :=
  glue_passes (by simpa [Instr.targets] using h) (SameBytes.refl s.memory g 336 800)
    rfl rfl rfl

theorem closeFrame_same (s : State) : SameRegisters kept s (exec closeFrame s) :=
  ⟨fun r hr => exec_gpr s (by revert r; decide), fun _ _ => rfl, rfl, rfl⟩

/-- At the end of a wrapper, its caller finds the registers as they are before the frame is
closed. -/
theorem closeFrame_keeps (kept : BitVec 32) (h : Inside arguments g e s)
    (hrsp : e.gpr .rsp = up g 792) :
    (exec closeFrame s).rip = e.top ∧
      (KeepsRegisters kept e (exec closeFrame s) ↔ SameRegisters kept e s) := by
  obtain ⟨hclosed, hrip⟩ := closeFrame_returns h hrsp
  have hsame : SameRegisters kept s (exec closeFrame s) := closeFrame_same s
  refine ⟨hrip, fun hkeeps => hkeeps.toSameRegisters.trans hsame.symm, fun hsame' => ?_⟩
  exact ⟨hsame'.trans hsame, hclosed⟩

/-- Once the rest is restored, what is left of the caller's registers is decided by the
sentinels in the vector registers. -/
theorem restoreFrame_same_iff (h : Inside arguments g e s) {xmms : List (Xmm × BitVec 128)}
    (hkeys : ∀ x : Xmm, x ∈ xmms.map Prod.fst ↔ 6 ≤ x) (hxmms : ∀ x ∈ xmms, s.xmm x.1 = x.2) :
    SameRegisters kept e (exec restoreFrame s) ↔ HoldsSentinels xmms e := by
  obtain ⟨hgprs, hxmm, hmxcsr, hfpu⟩ := restoreFrame_restores h
  constructor
  · intro hsame x hx
    have hkept := hsame.xmms x.1 ((hkeys x.1).mp (List.mem_map_of_mem hx))
    rw [← hkept, hxmm, hxmms x hx]
  · intro hholds
    refine ⟨hgprs, fun x hx => ?_, by rw [hmxcsr], hfpu⟩
    obtain ⟨y, hy, rfl⟩ := List.mem_map.mp ((hkeys x).mpr hx)
    rw [hxmm, hxmms y hy, hholds y hy]

theorem mainXmms_keys (x : Xmm) : x ∈ mainXmms.map Prod.fst ↔ 6 ≤ x := contextXmms_keys x

theorem workerXmms_keys (x : Xmm) : x ∈ workerXmms.map Prod.fst ↔ 6 ≤ x := contextXmms_keys x

/-! ## The calls -/

section Calls

variable (hobeys : Obeys kept env) (site : Addr)
include hobeys

/-- `gxos_scheduler_prepare_wait` fills in the plan in the frame, and nothing else of it. -/
theorem prepareWait_call (hrsp : s.gpr .rsp = up g 336) :
    ∃ t, call site env.prepareWait (exec [.load 40 .rsp .rcx, .leaq 64 .rsp .rdx] s) = some t ∧
      Passes kept g s t ∧
      (t.low .rax = 0 → Apart (read t.memory (up g 400) 64) 8 g 800) := by
  have hglue : Passes kept g s (exec [.load 40 .rsp .rcx, .leaq 64 .rsp .rdx] s) :=
    glue_passes (by decide) (SameBytes.refl s.memory g 336 800) rfl rfl rfl
  have hrsp' := hglue.rsp.trans hrsp
  have hrdx : (exec [.load 40 .rsp .rcx, .leaq 64 .rsp .rdx] s).gpr .rdx = up g 400 := by
    simp [hrsp]
  generalize exec [.load 40 .rsp .rcx, .leaq 64 .rsp .rdx] s = u at *
  have hpush : (u.push site).gpr .rsp = up g 328 := by simp [hrsp']
  have hplan : (u.push site).gpr .rdx = up g 400 := by simpa using hrdx
  have hapart : Apart ((u.push site).gpr .rdx) 16 ((u.push site).gpr .rsp) 40 := by
    rw [hpush, hplan]
    exact apart_up (by decide) (by decide) (by decide)
  have hconforms := hobeys.prepareWait (u.push site) hapart
  obtain ⟨hcall, hpasses⟩ := call_passes hrsp' hconforms (by
    intro d hlo hhi hd i hi
    rw [hplan, up_up, Ne, up_inj g (by omega) (by omega)]
    omega)
  refine ⟨_, hcall, hglue.trans hpasses, fun hrax => ?_⟩
  have hcell := hobeys.waitPlan (u.push site) hapart hrax
  rwa [hplan, hpush, up_sub g (by decide), Nat.sub_self, up_zero] at hcell

/-- `gxos_scheduler_prepare_yield` is given the snapshot as its plan. -/
theorem prepareYield_call (hrsp : s.gpr .rsp = up g 336)
    (hplan : Apart (s.gpr .rcx) 256 g 800) :
    ∃ t, call site env.prepareYield (exec [.leaq 64 .rsp .rdx] s) = some t ∧
      Passes kept g s t ∧
      (t.low .rax ≠ 0 → ∀ site', Apart (read (env.pendingPlan (t.push site')).memory
        ((env.pendingPlan (t.push site')).gpr .rax) 64) 8 g 800) := by
  have hglue : Passes kept g s (exec [.leaq 64 .rsp .rdx] s) :=
    glue_passes (by decide) (SameBytes.refl s.memory g 336 800) rfl rfl rfl
  have hrsp' := hglue.rsp.trans hrsp
  have hrcx : (exec [.leaq 64 .rsp .rdx] s).gpr .rcx = s.gpr .rcx := by simp
  generalize exec [.leaq 64 .rsp .rdx] s = u at *
  have hpush : (u.push site).gpr .rsp = up g 328 := by simp [hrsp']
  have hout : (u.push site).gpr .rcx = s.gpr .rcx := by simpa using hrcx
  have hapart : Apart ((u.push site).gpr .rcx) 16 ((u.push site).gpr .rsp) 40 := by
    rw [hpush, hout]
    exact hplan.above 328 (by decide) (by decide)
  have hconforms := hobeys.prepareYield (u.push site) hapart
  obtain ⟨hcall, hpasses⟩ := call_passes hrsp' hconforms (by
    intro d hlo hhi _ i hi
    rw [hout]
    exact hplan i (by omega) d hhi)
  refine ⟨_, hcall, hglue.trans hpasses, fun hrax site' => ?_⟩
  have hcell := hobeys.yieldPlan (u.push site) site' hrax
  rwa [hpush, up_sub g (by decide), Nat.sub_self, up_zero] at hcell

theorem pendingPlan_call (hrsp : s.gpr .rsp = up g 336) :
    call site env.pendingPlan s = some (env.pendingPlan (s.push site)) ∧
      Passes kept g s (env.pendingPlan (s.push site)) :=
  call_passes hrsp (hobeys.pendingPlan _) (fun _ _ _ _ _ hi => absurd hi (Nat.not_lt_zero _))

theorem finishWait_call (hrsp : s.gpr .rsp = up g 336) :
    ∃ t, call site env.finishWait (exec [.load 40 .rsp .rcx] s) = some t ∧
      Passes kept g s t := by
  have hglue : Passes kept g s (exec [.load 40 .rsp .rcx] s) := load_passes 40 .rsp .rcx (by decide)
  obtain ⟨hcall, hpasses⟩ := call_passes (hglue.rsp.trans hrsp)
    (hobeys.finishWait _) (fun _ _ _ _ _ hi => absurd hi (Nat.not_lt_zero _))
  exact ⟨_, hcall, hglue.trans hpasses⟩

/-- A thread that switches to another one comes back, its frame and registers unchanged. -/
theorem switch_call (hrsp : s.gpr .rsp = up g 336) (hcell : Apart (s.gpr .rcx) 8 g 800) :
    ∃ t, call site (switchAndBack env) s = some t ∧ Passes kept g s t := by
  have hpush : (s.push site).gpr .rsp = up g 328 := by simp [hrsp]
  have hrcx : (s.push site).gpr .rcx = s.gpr .rcx := by simp
  have hback := hobeys.elsewhere (s.push site) (by
    rwa [hrcx, hpush, up_sub g (by decide), Nat.sub_self, up_zero])
  have hconforms : Conforms kept 472 0 0 (s.push site) (switchAndBack env (s.push site)) :=
    switchAndBack_conforms kept 0 hpush (by rwa [hrcx]) hback
  obtain ⟨hcall, hpasses⟩ := call_passes hrsp hconforms
    (fun _ _ _ _ _ hi => absurd hi (Nat.not_lt_zero _))
  exact ⟨_, hcall, hpasses⟩

end Calls

theorem capture_call (site : Addr) (hrsp : s.gpr .rsp = up g 336)
    (hsnapshot : Apart (s.gpr .rcx) 256 g 800) :
    ∃ t, call site (exec captureRegisters) s = some t ∧ Passes kept g s t := by
  have hpush : (s.push site).gpr .rsp = up g 328 := by simp [hrsp]
  have hrcx : (s.push site).gpr .rcx = s.gpr .rcx := by simp
  have hconforms : Conforms kept 472 0 0 (s.push site) (exec captureRegisters (s.push site)) :=
    captureRegisters_conforms hpush (by rwa [hrcx])
  obtain ⟨hcall, hpasses⟩ := call_passes hrsp hconforms
    (fun _ _ _ _ _ hi => absurd hi (Nat.not_lt_zero _))
  exact ⟨_, hcall, hpasses⟩

/-! ## The wrappers -/

theorem openFrame_wait (hrsp : e.gpr .rsp = up g 792) :
    Inside waitArguments g e (exec (openFrame waitArguments) e) := by
  refine openFrame_inside hrsp (by decide) (by decide) ?_
  constructor <;> simp [openWords, waitArguments, gprWords, frameGprs, xmmWords, frameXmms,
    Word.Within, Word.Clear, Word.shift]

theorem openFrame_dispatch (hrsp : e.gpr .rsp = up g 792) :
    Inside dispatchArguments g e (exec (openFrame dispatchArguments) e) := by
  refine openFrame_inside hrsp (by decide) (by decide) ?_
  constructor <;> simp [openWords, dispatchArguments, gprWords, frameGprs, xmmWords, frameXmms,
    Word.Within, Word.Clear, Word.shift]

theorem mainBlockAsks_spec (hobeys : Obeys kept env) (hrsp : e.gpr .rsp = up g 792) :
    ∃ s, mainBlockAsks env e = some s ∧ Inside waitArguments g e s ∧
      (∀ x ∈ mainXmms, s.xmm x.1 = x.2) ∧
      (s.low .rax = 0 → Apart (read s.memory (up g 400) 64) 8 g 800) := by
  have hopen := openFrame_wait hrsp
  obtain ⟨s, hcall, hrsp', hsame, hxmms, -⟩ := call_sentinels (env.site .mainBlock 0) hopen.rsp
    0x4D4D000000000000 mainXmms (by decide) 0x00001F80 0x037F
  have hkept := FrameKept.of_same hrsp' hsame
  obtain ⟨t, hcall', hpasses, hplan⟩ :=
    prepareWait_call hobeys (env.site .mainBlock 1) (hopen.keep hkept).rsp
  refine ⟨t, ?_, (hopen.keep hkept).keep hpasses.toFrameKept, fun x hx => ?_, hplan⟩
  · rw [mainBlockAsks, setMainSentinels, hcall]
    exact hcall'
  · rw [hpasses.xmms x.1 ((mainXmms_keys x.1).mp (List.mem_map_of_mem hx)), hxmms x hx]

/-- A wait that blocks goes through the switch, on the plan in the frame. -/
theorem blocks_and_passes (hobeys : Obeys kept env) (site : Addr) (hrsp : s.gpr .rsp = up g 336)
    (hplan : Apart (read s.memory (up g 400) 64) 8 g 800) :
    ∃ t, call site (switchAndBack env) (exec loadPlan s) = some t ∧ Passes kept g s t := by
  have hglue : Passes kept g s (exec loadPlan s) :=
    glue_passes (by decide) (SameBytes.refl s.memory g 336 800) rfl rfl rfl
  have hrcx : (exec loadPlan s).gpr .rcx = read s.memory (up g 400) 64 := by
    dsimp only [loadPlan, exec_cons, exec_nil, step, setGpr, address]
    simp [hrsp]
  obtain ⟨t, hcall, hpasses⟩ := switch_call hobeys site (hglue.rsp.trans hrsp) (by rwa [hrcx])
  exact ⟨t, hcall, hglue.trans hpasses⟩

/-- The result of the wait is stored where the caller asked for it. -/
def storeResult : List Instr := [.movl .rax .r10, .load 56 .rsp .rcx, .storel .r10 0 .rcx]

theorem storeResult_passes (hin : Inside waitArguments g e s)
    (hresult : Apart (e.gpr .r8) 4 g 800) : Passes kept g s (exec storeResult s) := by
  have hr8 : read s.memory (up g 392) 64 = e.gpr .r8 :=
    hin.argument (x := (.r8, 56)) (by decide)
  have hmemory : (exec storeResult s).memory =
      write s.memory (e.gpr .r8) (((s.low .rax).setWidth 64).setWidth 32) := by
    dsimp only [storeResult, exec_cons, exec_nil, step, setGpr, setMemory, address, low]
    simp [hin.rsp, hr8]
  refine glue_passes (by decide) ?_ rfl rfl rfl
  rw [hmemory]
  exact (within_write_self _ _ _ (by decide : 32 / 8 ≤ 4) (by decide)).sameBytes
    (hresult.above 336 (by decide) (by decide))

/-- The snapshot is taken into the place that the wrapper kept as an argument. -/
theorem snapshot_passes (kept : BitVec 32) {x : Reg × Nat} (site : Addr)
    (hin : Inside arguments g e s) (hx : x ∈ arguments) (hsnapshot : Apart (e.gpr x.1) 256 g 800) :
    ∃ t, call site (exec captureRegisters) (exec [.load x.2 .rsp .rcx] s) = some t ∧
      Passes kept g s t := by
  have hglue : Passes kept g s (exec [.load x.2 .rsp .rcx] s) :=
    load_passes x.2 .rsp .rcx (by decide)
  have hrcx : (exec [.load x.2 .rsp .rcx] s).gpr .rcx = e.gpr x.1 := by
    rw [← hin.argument hx]
    simp [hin.rsp]
  obtain ⟨t, hcall, hpasses⟩ := capture_call site (hglue.rsp.trans hin.rsp) (by rwa [hrcx])
  exact ⟨t, hcall, hglue.trans hpasses⟩

/-- A wrapper that ends in the restoring code returns, with the sentinels that it was left
with in the vector registers. -/
theorem restore_and_close (hin : Inside arguments g e s) (hrsp : e.gpr .rsp = up g 792)
    (hxmms : ∀ x ∈ mainXmms, s.xmm x.1 = x.2) :
    (exec (restoreFrame ++ closeFrame) s).rip = e.top ∧
      (KeepsRegisters kept e (exec (restoreFrame ++ closeFrame) s) ↔
        HoldsSentinels mainXmms e) := by
  rw [exec_append]
  have hclosed := closeFrame_keeps kept (hin.keep (restoreFrame_kept hin.rsp)) hrsp
  exact ⟨hclosed.1, hclosed.2.trans (restoreFrame_same_iff hin mainXmms_keys hxmms)⟩

theorem Passes.sentinels (h : Passes kept g s t) {xmms : List (Xmm × BitVec 128)}
    (hkeys : ∀ x : Xmm, x ∈ xmms.map Prod.fst ↔ 6 ≤ x) (hxmms : ∀ x ∈ xmms, s.xmm x.1 = x.2) :
    ∀ x ∈ xmms, t.xmm x.1 = x.2 := by
  intro x hx
  rw [h.xmms x.1 ((hkeys x.1).mp (List.mem_map_of_mem hx)), hxmms x hx]

section MainBlock

variable (hobeys : Obeys kept env) (hin : Inside waitArguments g e s)
  (hrsp : e.gpr .rsp = up g 792) (hxmms : ∀ x ∈ mainXmms, s.xmm x.1 = x.2)
  (hsnapshot : Apart (e.gpr .rdx) 256 g 800) (hresult : Apart (e.gpr .r8) 4 g 800)
include hobeys hin hrsp hxmms hsnapshot hresult

theorem mainBlockAfterSwitch_spec :
    ∃ t, mainBlockAfterSwitch env s = some t ∧ t.rip = e.top ∧
      (KeepsRegisters kept e t ↔ HoldsSentinels mainXmms e) := by
  obtain ⟨u, hfinish, hu⟩ := finishWait_call hobeys (env.site .mainBlock 3) hin.rsp
  have hstored : Passes kept g u (exec storeResult u) :=
    storeResult_passes (hin.keep hu.toFrameKept) hresult
  have hsu := hu.trans hstored
  obtain ⟨v, hcapture, hv⟩ := snapshot_passes kept (x := (.rdx, 48))
    (env.site .mainBlock 4) (hin.keep hsu.toFrameKept) (by decide) hsnapshot
  have hsv := hsu.trans hv
  refine ⟨exec (restoreFrame ++ closeFrame) v, ?_, restore_and_close
    (hin.keep hsv.toFrameKept) hrsp (hsv.sentinels mainXmms_keys hxmms)⟩
  have hsplit : exec [.movl .rax .r10, .load 56 .rsp .rcx, .storel .r10 0 .rcx,
      .load 48 .rsp .rcx] u = exec [.load 48 .rsp .rcx] (exec storeResult u) := rfl
  rw [mainBlockAfterSwitch, hfinish, Option.bind_eq_bind, Option.bind_some, hsplit, hcapture]
  rfl

theorem mainBlockAnswered_spec (hanswer : ¬ (s.low .rax).slt 0)
    (hplan : s.low .rax = 0 → Apart (read s.memory (up g 400) 64) 8 g 800) :
    ∃ t, mainBlockAnswered env s = some t ∧ t.rip = e.top ∧
      (KeepsRegisters kept e t ↔ HoldsSentinels mainXmms e) := by
  rw [mainBlockAnswered, if_neg hanswer]
  by_cases hzero : s.low .rax = 0
  · obtain ⟨u, hcall, hu⟩ :=
      blocks_and_passes hobeys (env.site .mainBlock 2) hin.rsp (hplan hzero)
    rw [if_neg (not_not_intro hzero), hcall, Option.bind_some]
    exact mainBlockAfterSwitch_spec hobeys (hin.keep hu.toFrameKept) hrsp
      (hu.sentinels mainXmms_keys hxmms) hsnapshot hresult
  · rw [if_pos hzero]
    exact mainBlockAfterSwitch_spec hobeys hin hrsp hxmms hsnapshot hresult

end MainBlock

theorem workerWaitAsks_spec (hobeys : Obeys kept env) (hrsp : e.gpr .rsp = up g 792) :
    ∃ s, workerWaitAsks env e = some s ∧ Inside waitArguments g e s ∧ SameRegisters kept e s ∧
      (s.low .rax = 0 → Apart (read s.memory (up g 400) 64) 8 g 800) := by
  have hopen := openFrame_wait hrsp
  obtain ⟨t, hcall, hpasses, hplan⟩ :=
    prepareWait_call hobeys (env.site .workerWait 0) hopen.rsp
  refine ⟨t, ?_, hopen.keep hpasses.toFrameKept,
    (openFrame_same e).trans hpasses.toSameRegisters, hplan⟩
  rw [workerWaitAsks, exec_append, hcall]

section WorkerWait

variable (hobeys : Obeys kept env) (hin : Inside waitArguments g e s)
  (hrsp : e.gpr .rsp = up g 792) (hresult : Apart (e.gpr .r8) 4 g 800)
include hobeys hin hrsp hresult

/-- The end of a worker's wait keeps what it finds in the registers. -/
theorem workerWaitFinishImmediate_spec :
    ∃ t, workerWaitFinishImmediate env s = some t ∧ t.rip = e.top ∧
      (KeepsRegisters kept e t ↔ SameRegisters kept e s) := by
  obtain ⟨u, hfinish, hu⟩ := finishWait_call hobeys (env.site .workerWait 4) hin.rsp
  have hstored : Passes kept g u (exec storeResult u) :=
    storeResult_passes (hin.keep hu.toFrameKept) hresult
  have hsu := hu.trans hstored
  obtain ⟨hrip, hkeeps⟩ := closeFrame_keeps kept (hin.keep hsu.toFrameKept) hrsp
  refine ⟨exec closeFrame (exec storeResult u), ?_, hrip, hkeeps.trans ⟨?_, ?_⟩⟩
  · rw [workerWaitFinishImmediate, hfinish, Option.bind_eq_bind, Option.bind_some, exec_append]
    rfl
  · exact fun hsame => hsame.trans hsu.toSameRegisters.symm
  · exact fun hsame => hsame.trans hsu.toSameRegisters

theorem workerWaitBlocked_spec (hsnapshot : Apart (e.gpr .rdx) 256 g 800)
    (hplan : Apart (read s.memory (up g 400) 64) 8 g 800) :
    ∃ t, workerWaitBlocked env s = some t ∧ t.rip = e.top ∧
      (KeepsRegisters kept e t ↔ HoldsSentinels workerXmms e) := by
  obtain ⟨u, hset, hrspu, hsame, hxmms, -⟩ := call_sentinels (env.site .workerWait 1) hin.rsp
    0x5757000000000000 workerXmms (by decide) 0x00003F80 0x077F
  have hu := hin.keep (FrameKept.of_same hrspu hsame)
  have hplan' : Apart (read u.memory (up g 400) 64) 8 g 800 := by
    rwa [hsame.read (by decide) (by decide) (by decide)]
  obtain ⟨v, hswitch, hv⟩ := blocks_and_passes hobeys (env.site .workerWait 2) hu.rsp hplan'
  obtain ⟨x, hcapture, hx⟩ := snapshot_passes kept (x := (.rdx, 48)) (env.site .workerWait 3)
    (hu.keep hv.toFrameKept) (by decide) hsnapshot
  have hux := hv.trans hx
  have hinx := hu.keep hux.toFrameKept
  obtain ⟨t, hfinish, hrip, hkeeps⟩ := workerWaitFinishImmediate_spec hobeys
    (hinx.keep (restoreFrame_kept hinx.rsp)) hrsp hresult
  refine ⟨t, ?_, hrip, hkeeps.trans
    (restoreFrame_same_iff hinx workerXmms_keys (hux.sentinels workerXmms_keys hxmms))⟩
  rw [workerWaitBlocked, setWorkerSentinels, hset]
  simp only [Option.bind_eq_bind, Option.bind_some]
  rw [hswitch, Option.bind_some, hcapture, Option.bind_some]
  exact hfinish

end WorkerWait

theorem mainDispatchAsks_spec (hobeys : Obeys kept env) (hrsp : e.gpr .rsp = up g 792)
    (hsnapshot : Apart (e.gpr .rcx) 256 g 800) :
    ∃ s, mainDispatchAsks env e = some s ∧ Inside dispatchArguments g e s ∧
      (∀ x ∈ mainXmms, s.xmm x.1 = x.2) ∧
      (s.low .rax ≠ 0 → ∀ site, Apart (read (env.pendingPlan (s.push site)).memory
        ((env.pendingPlan (s.push site)).gpr .rax) 64) 8 g 800) := by
  have hopen := openFrame_dispatch hrsp
  obtain ⟨s, hcall, hrsp', hsame, hxmms, hrcx⟩ := call_sentinels (env.site .mainDispatch 0)
    hopen.rsp 0x4D4D000000000000 mainXmms (by decide) 0x00001F80 0x037F
  have hs := hopen.keep (FrameKept.of_same hrsp' hsame)
  rw [openFrame_gpr (by decide)] at hrcx
  obtain ⟨t, hcall', hpasses, hplan⟩ :=
    prepareYield_call hobeys (env.site .mainDispatch 1) hs.rsp (by rwa [hrcx])
  refine ⟨t, ?_, hs.keep hpasses.toFrameKept, hpasses.sentinels mainXmms_keys hxmms, hplan⟩
  rw [mainDispatchAsks, setMainSentinels, hcall]
  exact hcall'

section MainDispatch

variable (hin : Inside dispatchArguments g e s) (hrsp : e.gpr .rsp = up g 792)
  (hxmms : ∀ x ∈ mainXmms, s.xmm x.1 = x.2) (hsnapshot : Apart (e.gpr .rcx) 256 g 800)
include hin hrsp hxmms hsnapshot

theorem mainDispatchCapture_spec :
    ∃ t, mainDispatchCapture env s = some t ∧ t.rip = e.top ∧
      (KeepsRegisters kept e t ↔ HoldsSentinels mainXmms e) := by
  obtain ⟨u, hcapture, hu⟩ := snapshot_passes kept (x := (.rcx, 40))
    (env.site .mainDispatch 4) hin (by decide) hsnapshot
  refine ⟨exec (restoreFrame ++ closeFrame) u, ?_, restore_and_close
    (hin.keep hu.toFrameKept) hrsp (hu.sentinels mainXmms_keys hxmms)⟩
  rw [mainDispatchCapture, hcapture]
  rfl

theorem mainDispatchAnswered_spec (hobeys : Obeys kept env)
    (hplan : s.low .rax ≠ 0 → ∀ site, Apart (read (env.pendingPlan (s.push site)).memory
      ((env.pendingPlan (s.push site)).gpr .rax) 64) 8 g 800) :
    ∃ t, mainDispatchAnswered env s = some t ∧ t.rip = e.top ∧
      (KeepsRegisters kept e t ↔ HoldsSentinels mainXmms e) := by
  rw [mainDispatchAnswered]
  by_cases hzero : s.low .rax = 0
  · rw [if_pos hzero]
    exact mainDispatchCapture_spec hin hrsp hxmms hsnapshot
  rw [if_neg hzero, mainDispatchSwitch]
  obtain ⟨hpending, hu⟩ := pendingPlan_call hobeys (env.site .mainDispatch 2) hin.rsp
  have hcell := hplan hzero (env.site .mainDispatch 2)
  generalize env.pendingPlan (s.push (env.site .mainDispatch 2)) = u at *
  have hglue : Passes kept g u (exec [.load 0 .rax .rcx, .load 8 .rax .rdx] u) :=
    glue_passes (by decide) (SameBytes.refl u.memory g 336 800) rfl rfl rfl
  have hrcx : (exec [.load 0 .rax .rcx, .load 8 .rax .rdx] u).gpr .rcx =
      read u.memory (u.gpr .rax) 64 := by
    dsimp only [exec_cons, exec_nil, step, setGpr, address]
    simp
  have hsu := hu.trans hglue
  obtain ⟨v, hswitch, hv⟩ := switch_call hobeys (env.site .mainDispatch 3)
    (hin.keep hsu.toFrameKept).rsp (by rwa [hrcx])
  have hsv := hsu.trans hv
  rw [hpending]
  simp only [Option.bind_eq_bind, Option.bind_some]
  rw [hswitch, Option.bind_some]
  exact mainDispatchCapture_spec (hin.keep hsv.toFrameKept) hrsp
    (hsv.sentinels mainXmms_keys hxmms) hsnapshot

end MainDispatch

/-! ## The law -/

theorem stack_base (e : State) : e.gpr .rsp = up (e.gpr .rsp - 792#64) 792 :=
  (up_sub_self _ _).symm

theorem slt_of_answer {v : BitVec 32} (h : ¬ v.slt 0) (hne : v ≠ 0) : (0#32).slt v := by
  have hint : v.toInt ≠ 0 := fun hzero => hne (BitVec.eq_of_toInt_eq hzero)
  simp only [BitVec.slt_iff_toInt_lt, BitVec.ofNat_eq_ofNat, BitVec.toInt_zero] at h ⊢
  omega

/-- A run that comes to an end `t` of which the law holds. -/
theorem law_of_spec {w : Wrapper} {t : State} (hrun : w.run env e = some t)
    (hanswers : w.Answers env e)
    (hspec : t.rip = e.top ∧ (KeepsRegisters kept e t ↔ w.Harmless env e)) :
    ((w.run env e).isSome ↔ w.Answers env e) ∧
      ∀ t, w.run env e = some t → t.rip = e.top ∧
        (KeepsRegisters kept e t ↔ w.Harmless env e) := by
  rw [hrun]
  refine ⟨⟨fun _ => hanswers, fun _ => rfl⟩, fun t' ht => ?_⟩
  obtain rfl := Option.some.inj ht
  exact hspec

/-- A run that ends in the trap has no answer, and nothing is asked of its registers. -/
theorem law_of_trap {w : Wrapper} (hrun : w.run env e = none) (hanswers : ¬ w.Answers env e) :
    ((w.run env e).isSome ↔ w.Answers env e) ∧
      ∀ t, w.run env e = some t → t.rip = e.top ∧
        (KeepsRegisters kept e t ↔ w.Harmless env e) := by
  rw [hrun]
  exact ⟨⟨fun h => (nomatch h), fun h => absurd h hanswers⟩, fun t ht => (nomatch ht)⟩

/-- Every wait that does not end in the trap comes back to its caller. The caller then finds
all its registers as they were exactly when the wrapper could not do harm: a wrapper on the
main thread loses the vector registers unless they held the main sentinels, and a worker's
loses them unless the wait was over at once or they held the worker sentinels. -/
theorem waiting_keeps_registers_iff (kept : BitVec 32) (env : Environment)
    (hobeys : Obeys kept env) (w : Wrapper) (e : State) (hpromised : Promised e w) :
    ((w.run env e).isSome ↔ w.Answers env e) ∧
      ∀ t, w.run env e = some t → t.rip = e.top ∧
        (KeepsRegisters kept e t ↔ w.Harmless env e) := by
  have hrsp := stack_base e
  cases w with
  | mainBlock =>
    obtain ⟨hsnapshot, hresult⟩ := hpromised
    obtain ⟨s, hasks, hin, hxmms, hplan⟩ := mainBlockAsks_spec hobeys hrsp
    have hrun : Wrapper.mainBlock.run env e = mainBlockAnswered env s := by
      rw [Wrapper.run, Wrapper.asks, hasks, Option.bind_some, Wrapper.answered]
    by_cases hanswer : (s.low .rax).slt 0
    · refine law_of_trap (hrun.trans (if_pos hanswer)) ?_
      rintro ⟨s', hasks', hanswer'⟩
      obtain rfl := Option.some.inj (hasks.symm.trans hasks')
      exact hanswer' hanswer
    · obtain ⟨t, ht, hspec⟩ :=
        mainBlockAnswered_spec hobeys hin hrsp hxmms hsnapshot hresult hanswer hplan
      exact law_of_spec (hrun.trans ht) ⟨s, hasks, hanswer⟩ hspec
  | workerWait =>
    obtain ⟨hsnapshot, hresult⟩ := hpromised
    obtain ⟨s, hasks, hin, hsame, hplan⟩ := workerWaitAsks_spec hobeys hrsp
    have hrun : Wrapper.workerWait.run env e = workerWaitAnswered env s := by
      rw [Wrapper.run, Wrapper.asks, hasks, Option.bind_some, Wrapper.answered]
    have hover : WaitIsOver env e ↔ (0#32).slt (s.low .rax) := by
      constructor
      · rintro ⟨s', hasks', hpositive⟩
        obtain rfl := Option.some.inj (hasks.symm.trans hasks')
        exact hpositive
      · exact fun hpositive => ⟨s, hasks, hpositive⟩
    by_cases hanswer : (s.low .rax).slt 0
    · refine law_of_trap (hrun.trans (if_pos hanswer)) ?_
      rintro ⟨s', hasks', hanswer'⟩
      obtain rfl := Option.some.inj (hasks.symm.trans hasks')
      exact hanswer' hanswer
    · rw [workerWaitAnswered, if_neg hanswer] at hrun
      by_cases hzero : s.low .rax = 0
      · obtain ⟨t, ht, hrip, hkeeps⟩ :=
          workerWaitBlocked_spec hobeys hin hrsp hresult hsnapshot (hplan hzero)
        rw [if_neg (not_not_intro hzero)] at hrun
        refine law_of_spec (hrun.trans ht) ⟨s, hasks, hanswer⟩ ⟨hrip, hkeeps.trans ?_⟩
        rw [Wrapper.Harmless, hover, hzero]
        simp
      · obtain ⟨t, ht, hrip, hkeeps⟩ := workerWaitFinishImmediate_spec hobeys hin hrsp hresult
        rw [if_pos hzero] at hrun
        refine law_of_spec (hrun.trans ht) ⟨s, hasks, hanswer⟩
          ⟨hrip, hkeeps.trans (iff_of_true hsame (.inl (hover.mpr (slt_of_answer hanswer hzero))))⟩
  | mainDispatch =>
    obtain ⟨s, hasks, hin, hxmms, hplan⟩ := mainDispatchAsks_spec hobeys hrsp hpromised
    have hrun : Wrapper.mainDispatch.run env e = mainDispatchAnswered env s := by
      rw [Wrapper.run, Wrapper.asks, hasks, Option.bind_some, Wrapper.answered]
    obtain ⟨t, ht, hspec⟩ := mainDispatchAnswered_spec hin hrsp hxmms hpromised hobeys hplan
    exact law_of_spec (hrun.trans ht) trivial hspec

/-! ## A machine on which a wait blocks -/

/-- A scheduler that blocks every wait, with a plan that is far up in memory, and comes back
from another stack. A dispatch finds nothing to switch to. -/
def sampleEnvironment : Environment where
  prepareWait := exec [.leaq 4096 .rsp .rax, .store .rax 0 .rdx, .store .rax 8 .rdx,
    .movabsq 0 .rax, .ret]
  finishWait := exec [.ret]
  prepareYield := exec [.movabsq 0 .rax, .ret]
  pendingPlan := exec [.ret]
  elsewhere s t := ((t.setGpr .rdx (s.gpr .rsp - 304#64)).setGpr .rcx
    (up (s.gpr .rsp) 4096)).setGpr .rsp (up (s.gpr .rsp) 8192)
  site _ _ := 0

/-- A caller with zeros in its registers, but for its stack, its snapshot and its result. -/
def sampleCaller : State where
  gpr := setAll (fun _ => 0) [(.rsp, 0x10000), (.rcx, 0x20000), (.rdx, 0x20000), (.r8, 0x30000)]
  xmm _ := 0
  mxcsr := 0x1F80
  fpuControl := 0x037F
  rflags := 2
  msr _ := 0
  rip := 0
  memory _ := 0

/-- Code that only sets RAX and returns obeys the convention. -/
theorem returns_conforms (kept : BitVec 32) (code : List Instr) (s : State)
    (hgpr : ∀ r ≠ .rax, (exec code s).gpr r = s.gpr r) (hmemory : (exec code s).memory = s.memory)
    (hxmm : (exec code s).xmm = s.xmm) (hmxcsr : (exec code s).mxcsr = s.mxcsr)
    (hfpu : (exec code s).fpuControl = s.fpuControl) (out : Addr) (n : Nat) :
    Conforms kept 472 out n s (exec (code ++ [.ret]) s) := by
  have hne : ∀ r ∈ nonvolatileGprs, r ≠ .rsp ∧ r ≠ .rax := by decide
  simp only [exec_append, exec_cons, exec_nil, step, pop, top, setGpr]
  refine ⟨⟨⟨fun r hr => ?_, fun x _ => by rw [hxmm], by rw [hmxcsr], hfpu⟩, ?_⟩, ?_,
    fun d _ _ _ => by rw [hmemory]⟩
  · exact (Function.update_of_ne (hne r hr).1 _ _).trans (hgpr r (hne r hr).2)
  · simp [hgpr]
  · simp [hgpr, hmemory]

theorem sample_prepareWait_memory (s : State) : (sampleEnvironment.prepareWait s).memory =
    storeWords s.memory (s.gpr .rdx) [⟨0, 64, up (s.gpr .rsp) 4096⟩,
      ⟨8, 64, up (s.gpr .rsp) 4096⟩] := by
  dsimp only [sampleEnvironment, exec_cons, exec_nil, step, setGpr, setMemory, address, pop, top]
  simp

theorem sample_prepareWait_conforms (kept : BitVec 32) (s : State)
    (h : Apart (s.gpr .rdx) 16 (s.gpr .rsp) 40) :
    Conforms kept 472 (s.gpr .rdx) 16 s (sampleEnvironment.prepareWait s) := by
  have hmemory := sample_prepareWait_memory s
  have hlaid : Laid 0 16 [(⟨0, 64, up (s.gpr .rsp) 4096⟩ : Word),
      ⟨8, 64, up (s.gpr .rsp) 4096⟩] := by
    constructor <;> simp [Word.Within, Word.Clear]
  have hwithin : Within s.memory (sampleEnvironment.prepareWait s).memory (s.gpr .rdx) 16 :=
    hmemory ▸ within_storeWords s.memory _ hlaid (Nat.le_refl 16) (by decide)
  refine ⟨⟨⟨fun r hr => exec_gpr s (by revert r; decide), fun _ _ => rfl, rfl, rfl⟩, ?_⟩, ?_,
    fun d _ _ hd => ?_⟩
  · dsimp only [sampleEnvironment, exec_cons, exec_nil, step, setGpr, setMemory, address, pop, top]
    simp
  · have hsame : SameBytes s.memory (sampleEnvironment.prepareWait s).memory (s.gpr .rsp) 0 40 :=
      hwithin.sameBytes (by rwa [up_zero])
    have hrip : (sampleEnvironment.prepareWait s).rip =
        read (sampleEnvironment.prepareWait s).memory (up (s.gpr .rsp) 0) 64 := by
      dsimp only [sampleEnvironment, exec_cons, exec_nil, step, setGpr, setMemory, address, pop,
        top]
      simp
    rw [hrip, hsame.read (by decide) (by decide) (by decide), up_zero, top]
  · refine hwithin _ (Nat.le_of_not_lt fun hin => hd _ hin (up_distance _ _))

theorem sample_waitPlan (s : State) :
    read (sampleEnvironment.prepareWait s).memory (s.gpr .rdx) 64 =
      up (s.gpr .rsp - 328#64) 4424 := by
  have hlaid : Laid 0 16 [(⟨0, 64, up (s.gpr .rsp) 4096⟩ : Word),
      ⟨8, 64, up (s.gpr .rsp) 4096⟩] := by
    constructor <;> simp [Word.Within, Word.Clear]
  have hheld := holds_storeWords s.memory (s.gpr .rdx) hlaid (by decide)
  have hread := (holds_cons.mp hheld).1
  rw [up_zero] at hread
  rw [sample_prepareWait_memory, hread, show 4424 = 328 + 4096 from rfl, ← up_up, up_sub_self]

theorem sample_elsewhere (s t : State) :
    (sampleEnvironment.elsewhere s t).gpr .rdx = s.gpr .rsp - 304#64 ∧
    (sampleEnvironment.elsewhere s t).gpr .rcx = up (s.gpr .rsp) 4096 ∧
    (sampleEnvironment.elsewhere s t).gpr .rsp = up (s.gpr .rsp) 8192 ∧
    (sampleEnvironment.elsewhere s t).memory = t.memory := by
  simp [sampleEnvironment]

theorem sample_comesBack (s : State) :
    ComesBack s (sampleEnvironment.elsewhere s (exec contextSwitch s)) := by
  obtain ⟨hrdx, hrcx, hrsp', hmemory⟩ := sample_elsewhere s (exec contextSwitch s)
  generalize sampleEnvironment.elsewhere s (exec contextSwitch s) = t at *
  have hrsp : s.gpr .rsp = up (s.gpr .rsp - 328#64) 328 := (up_sub_self _ _).symm
  generalize s.gpr .rsp - 328#64 = g at hrsp
  have hcontext : s.gpr .rsp - 304#64 = up g 24 := by rw [hrsp, up_sub g (by decide)]
  have hcell : t.gpr .rcx = up g 4424 := by rw [hrcx, hrsp, up_up]
  have hstack : t.gpr .rsp - 328#64 = up g 8192 := by rw [hrsp', hrsp, up_up, up_sub g (by decide)]
  refine ⟨hrdx, ?_, ?_, ?_, ?_⟩
  · rw [hstack, hcontext]
    exact apart_up (by decide) (by decide) (by decide)
  · rw [hcell, hcontext]
    exact apart_up (by decide) (by decide) (by decide)
  · rw [hcell, hstack]
    exact apart_up (by decide) (by decide) (by decide)
  · rw [hmemory]
    exact SameBytes.refl _ _ _ _

theorem sample_obeys (kept : BitVec 32) : Obeys kept sampleEnvironment where
  prepareWait := sample_prepareWait_conforms kept
  waitPlan s _ _ := by
    rw [sample_waitPlan]
    exact (apart_above _ (by decide) (by decide)).symm
  finishWait s := returns_conforms kept [] s (fun _ _ => rfl) rfl rfl rfl rfl 0 0
  prepareYield s _ := returns_conforms kept [.movabsq 0 .rax] s
    (fun r hr => Function.update_of_ne hr _ _) rfl rfl rfl rfl _ 16
  pendingPlan s := returns_conforms kept [] s (fun _ _ => rfl) rfl rfl rfl rfl 0 0
  yieldPlan s site h := absurd rfl h
  elsewhere s _ := sample_comesBack s

theorem sample_promised (w : Wrapper) : Promised sampleCaller w := by
  have hsnapshot : OffStack sampleCaller 0x20000 256 := by
    have hapart := apart_above (n := 800) (k := 256) (sampleCaller.gpr .rsp - 792#64)
      (by decide : 800 ≤ 66328) (by decide)
    exact hapart.symm
  have hresult : OffStack sampleCaller 0x30000 4 := by
    have hapart := apart_above (n := 800) (k := 4) (sampleCaller.gpr .rsp - 792#64)
      (by decide : 800 ≤ 131864) (by decide)
    exact hapart.symm
  cases w with
  | mainBlock => exact ⟨hsnapshot, hresult⟩
  | workerWait => exact ⟨hsnapshot, hresult⟩
  | mainDispatch => exact hsnapshot

/-- The law on the sample machine, whichever wrapper is called there. -/
theorem waiting_keeps_registers_of_sample : Obeys 0xFFFFFFFF sampleEnvironment ∧
    ∀ w : Wrapper, Promised sampleCaller w ∧
    ((w.run sampleEnvironment sampleCaller).isSome ↔ w.Answers sampleEnvironment sampleCaller) ∧
      ∀ t, w.run sampleEnvironment sampleCaller = some t → t.rip = sampleCaller.top ∧
        (KeepsRegisters 0xFFFFFFFF sampleCaller t ↔ w.Harmless sampleEnvironment sampleCaller) :=
  ⟨sample_obeys _, fun w => ⟨sample_promised w, waiting_keeps_registers_iff _ _ (sample_obeys _) w
    _ (sample_promised w)⟩⟩

/-- On the sample machine the caller has zeros in XMM6, and all three wrappers return with a
sentinel there. -/
theorem waiting_loses_vector_registers : Obeys 0xFFFFFFFF sampleEnvironment ∧
    ∀ w : Wrapper, Promised sampleCaller w ∧
      ∃ t, w.run sampleEnvironment sampleCaller = some t ∧
        ¬ KeepsRegisters 0xFFFFFFFF sampleCaller t := by
  have hxmm : ∀ w : Wrapper, ∃ v, v ≠ 0 ∧
      (w.run sampleEnvironment sampleCaller).map (fun t => t.xmm 6) = some v := by
    intro w
    cases w with
    | mainBlock => exact ⟨quads 0x4D4D4D4D00000006 0x0606060606060606, by decide, by decide +kernel⟩
    | workerWait =>
      exact ⟨quads 0x5757575700000006 0x1616161616161616, by decide, by decide +kernel⟩
    | mainDispatch =>
      exact ⟨quads 0x4D4D4D4D00000006 0x0606060606060606, by decide, by decide +kernel⟩
  refine ⟨sample_obeys _, fun w => ⟨sample_promised w, ?_⟩⟩
  obtain ⟨v, hne, hv⟩ := hxmm w
  obtain ⟨t, ht, hxmm⟩ := Option.map_eq_some_iff.mp hv
  exact ⟨t, ht, fun hkeeps => hne (hxmm.symm.trans (hkeeps.xmms 6 (by decide)))⟩

end Gate4Harness.SchedulerContext
