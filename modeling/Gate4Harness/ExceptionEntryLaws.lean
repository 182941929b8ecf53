-- What a fault's handler is told about the interrupted code, and what that code gets back. All
-- places are counted from the trap frame, which ends 176 bytes below what the stubs push.
import Gate4Harness.ExceptionEntry

open ByteMemory Amd64 Amd64.State

namespace Gate4Harness.ExceptionEntry

variable {f : Fault} {m d e t : Machine} {g : Addr} {site : Addr}

/-! ## The stack of the entry -/

/-- Where the trap frame of a fault stands. -/
def frameOf (m : Machine) : Addr := (m.cpu.gpr .rsp &&& ~~~15#64) - 400#64

theorem up_frameOf (m : Machine) : up (frameOf m) 400 = m.cpu.gpr .rsp &&& ~~~15#64 :=
  up_sub_self _ 400

/-- What the processor and the stub push, in the order of the pushes. -/
def rawValues (f : Fault) (m : Machine) : List (BitVec 64) :=
  [m.ss.setWidth 64, m.cpu.gpr .rsp, m.cpu.rflags, m.cs.setWidth 64, m.cpu.rip, f.errorCode,
    BitVec.ofNat 64 f.vector]

/-- The registers that `gxos_fault_common` pushes. -/
def savedGprs : List Reg :=
  [.r15, .r14, .r13, .r12, .r11, .r10, .r9, .r8, .rbp, .rdi, .rsi, .rdx, .rcx, .rbx, .rax]

def pushedValues (f : Fault) (m : Machine) : List (BitVec 64) :=
  rawValues f m ++ savedGprs.map m.cpu.gpr

/-- The stack after the stub. -/
structure Stubbed (f : Fault) (m d : Machine) : Prop where
  cpu : d.cpu = { m.cpu with
    gpr := Function.update m.cpu.gpr .rsp (up (frameOf m) 344)
    rflags := m.cpu.rflags &&& ~~~0x34300#64
    memory := storeWords m.cpu.memory (frameOf m) (stacked 344 (rawValues f m)) }
  cs : d.cs = m.cs
  ss : d.ss = m.ss
  cr2 : d.cr2 = m.cr2
  active : d.dispatchActive = m.dispatchActive

theorem stub_of_deliver (h : deliver f m = some d) : Stubbed f m (stub f.vector d) := by
  simp only [deliver, Option.ite_none_right_eq_some, ← up_frameOf] at h
  obtain ⟨-, h⟩ := h
  cases h
  by_cases herror : f.vector.val ∈ errorVectors
  · have hstub : f.vector.val ∈ faultWithError := herror
    simp only [stub, if_pos hstub, Machine.pushImm, Fault.words, if_pos herror]
    constructor <;> simp [stacked, rawValues, Fault.errorCode, herror]
  · have hstub : f.vector.val ∉ faultWithError := herror
    simp only [stub, if_neg hstub, Machine.pushImm, Fault.words, if_neg herror]
    constructor <;> simp [stacked, rawValues, Fault.errorCode, herror]

/-- The stack after the registers were pushed. -/
structure SavedOn (f : Fault) (m : Machine) (s : State) : Prop where
  rsp : s.gpr .rsp = frameOf m
  r10 : s.gpr .r10 = up (frameOf m) 224
  r11 : s.gpr .r11 = up (frameOf m) 344
  memory : s.memory = storeWords m.cpu.memory (frameOf m) (stacked 224 (pushedValues f m))

theorem Stubbed.saved (h : Stubbed f m d) : SavedOn f m (exec saveRegisters d.cpu) := by
  have hcpu := h.cpu
  have hgprs : savedGprs.map d.cpu.gpr = savedGprs.map m.cpu.gpr := by
    refine List.map_congr_left fun r hr => ?_
    have hne : r ≠ .rsp := by
      rintro rfl
      simp [savedGprs] at hr
    simp [hcpu, hne]
  have hpush : exec (pushAll savedGprs) d.cpu = (savedGprs.map m.cpu.gpr).foldl push d.cpu := by
    rw [exec_pushAll _ _ (by decide), hgprs]
  rw [foldl_push (g := frameOf m) (k := 224) _ _ (by simp [hcpu, savedGprs])] at hpush
  have hmemory : (exec (pushAll savedGprs) d.cpu).memory =
      storeWords m.cpu.memory (frameOf m) (stacked 224 (pushedValues f m)) := by
    rw [hpush, pushedValues, stacked_append, storeWords_append, hcpu]
    rfl
  have hsave : exec saveRegisters d.cpu = exec [.movq .rsp .r11, .subq trapFrameSize .rsp,
      .leaq trapFrameSize .rsp .r10, .leaq 120 .r10 .r11] (exec (pushAll savedGprs) d.cpu) :=
    exec_append _ _ _
  rw [hsave]
  refine ⟨?_, ?_, ?_, ?_⟩
  · simp [hpush, trapFrameSize]
  · simp [hpush, trapFrameSize]
  · simp [hpush, trapFrameSize]
  · simpa [trapFrameSize] using hmemory

/-! ## The copies -/

/-- The words that are copied to the trap frame. -/
def firstWords (f : Fault) (m : Machine) : List Word :=
  [⟨trapVector, 64, BitVec.ofNat 64 f.vector⟩, ⟨trapError, 64, f.errorCode⟩,
    ⟨trapRaw, 64, up (frameOf m) 344⟩]

def restWords (m : Machine) : List Word :=
  gprWords m.cpu.gpr ([.rax, .rbx, .rcx, .rdx, .rsi, .rdi, .rbp, .r8, .r9, .r10, .r11, .r12, .r13,
    .r14, .r15].map fun r => (r, trapGpr r)) ++
  [⟨trapRip, 64, m.cpu.rip⟩, ⟨trapCs, 64, m.cs.setWidth 64⟩, ⟨trapRflags, 64, m.cpu.rflags⟩]

def copiedWords (f : Fault) (m : Machine) : List Word := firstWords f m ++ restWords m

/-- Where the two registers that the copies start from point. -/
def place (r : Reg) : Nat := if r = .r10 then 224 else 344

/-- The words that the entry pushed are where they were pushed to. -/
def HasPushed (f : Fault) (m : Machine) (memory : Memory) : Prop :=
  Holds memory (frameOf m) (stacked 224 (pushedValues f m))

theorem SavedOn.pushed {s : State} (h : SavedOn f m s) : HasPushed f m s.memory := by
  rw [HasPushed, h.memory]
  exact holds_storeWords _ _ (stacked_laid 224 _) (by simp [pushedValues, rawValues, savedGprs])

theorem HasPushed.keep {memory memory' : Memory} (h : HasPushed f m memory)
    (hsame : SameBytes memory memory' (frameOf m) 224 400) : HasPushed f m memory' :=
  Holds.keep h hsame within_stacked

theorem frameCopies_values {memory : Memory} (h : HasPushed f m memory) :
    (frameCopies.map fun e => (⟨e.2.2, 64,
      read memory (up (frameOf m) (place e.1 + e.2.1)) 64⟩ : Word)) = restWords m := by
  simp only [HasPushed, pushedValues, rawValues, savedGprs, List.map_cons, List.map_nil,
    List.cons_append, List.nil_append, stacked, List.length_cons, List.length_nil, holds_cons] at h
  simp [frameCopies, place, restWords, gprWords, h]

theorem SavedOn.copied {s : State} (h : SavedOn f m s) : ∃ v, exec copyToFrame s =
    { s with gpr := Function.update s.gpr .rax v
             memory := storeWords s.memory (frameOf m) (copiedWords f m) } := by
  obtain ⟨v1, h1⟩ := exec_copyAll 224 place [(.r11, 0, trapVector), (.r11, 8, trapError)] s h.rsp
    (by simp [place, h.r11, trapVector, trapError])
  let s1 := step (exec (copyAll [(.r11, 0, trapVector), (.r11, 8, trapError)]) s)
    (.store .r11 trapRaw .rsp)
  have hmemory : s1.memory = storeWords s.memory (frameOf m) (firstWords f m) := by
    have hpushed := h.pushed
    simp only [HasPushed, pushedValues, rawValues, savedGprs, List.map_cons, List.map_nil,
      List.cons_append, List.nil_append, stacked, List.length_cons, List.length_nil,
      holds_cons] at hpushed
    simp [s1, h1, firstWords, place, h.rsp, h.r11, hpushed]
  have hcopy : exec copyToFrame s = exec (copyAll frameCopies) s1 := by
    rw [copyToFrame, exec_append, exec_append]
    rfl
  obtain ⟨v2, h2⟩ := exec_copyAll 224 place frameCopies s1 (g := frameOf m)
    (by simp [s1, h1, h.rsp]) (by simp [s1, h1, frameCopies, place, h.r10, h.r11, trapGpr, trapRip,
      trapCs, trapRflags])
  have hsame : SameBytes s.memory s1.memory (frameOf m) 224 400 := by
    rw [hmemory]
    refine sameBytes_storeWords _ _ ?_ ?_ (by decide) (by decide)
    · simp [firstWords, trapVector, trapError, trapRaw]
    · simp [firstWords, trapVector, trapError, trapRaw]
  refine ⟨v2, hcopy.trans (h2.trans ?_)⟩
  rw [frameCopies_values (h.pushed.keep hsame), hmemory, copiedWords, storeWords_append]
  simp [s1, h1]

/-! ## The rest of the frame -/

/-- The machine builds the trap frame, and these words of it are there. -/
structure Filled (f : Fault) (m : Machine) (words : List Word) (x : Machine) : Prop where
  rsp : x.cpu.gpr .rsp = frameOf m
  r11 : x.cpu.gpr .r11 = up (frameOf m) 344
  words : Holds x.cpu.memory (frameOf m) words
  pushed : HasPushed f m x.cpu.memory
  ss : x.ss = m.ss
  cr2 : x.cr2 = m.cr2
  active : x.dispatchActive = m.dispatchActive

variable {words : List Word} {x y : Machine} {w : Word} {r : Reg} {v : BitVec 64} {o : Nat}

theorem Filled.part {words' : List Word} (h : Filled f m words x) (hpart : words' ⊆ words) :
    Filled f m words' x :=
  { h with words := fun w hw => h.words w (hpart hw) }

theorem Filled.tail (h : Filled f m (w :: words) x) : Filled f m words x :=
  h.part (List.subset_cons_self w words)

theorem Filled.setGpr (h : Filled f m words x) (hr : r ≠ .rsp) (hr' : r ≠ .r11) (v : BitVec 64) :
    Filled f m words (x.setGpr r v) :=
  { h with
    rsp := by simp [Machine.setGpr, hr.symm, h.rsp]
    r11 := by simp [Machine.setGpr, hr'.symm, h.r11] }

/-- A word is stored in the frame where no other of these words is. -/
theorem Filled.store (h : Filled f m words x) (ho : o + 8 ≤ 224)
    (hclear : ∀ w ∈ words, w.width % 8 = 0 ∧ w.offset + w.width / 8 ≤ 2 ^ 64 ∧
      (w.offset + w.width / 8 ≤ o ∨ o + 8 ≤ w.offset)) (v : BitVec 64) :
    Filled f m (⟨o, 64, v⟩ :: words)
      { x with cpu := x.cpu.setMemory (write x.cpu.memory (up (frameOf m) o) v) } := by
  refine { h with words := holds_cons.mpr ⟨?_, fun w hw => ?_⟩, pushed := h.pushed.keep ?_ }
  · exact read_write_same _ _ _ (by decide) (by decide)
  · obtain ⟨hwidth, hfit, hout⟩ := hclear w hw
    exact (read_write_up _ _ _ hwidth hout.symm (by omega) hfit).trans (h.words w hw)
  · exact (within_write_self _ _ _ (Nat.le_refl _) (by decide)).sameBytes
      (apart_up (.inl (by omega)) (by omega) (by omega))

/-- The store of a register. -/
theorem Filled.storeGpr (h : Filled f m words x) (ho : o + 8 ≤ 224)
    (hclear : ∀ w ∈ words, w.width % 8 = 0 ∧ w.offset + w.width / 8 ≤ 2 ^ 64 ∧
      (w.offset + w.width / 8 ≤ o ∨ o + 8 ≤ w.offset)) (r : Reg) :
    Filled f m (⟨o, 64, x.cpu.gpr r⟩ :: words) (x.exec [.store r o .rsp]) := by
  have hstore := h.store ho hclear (x.cpu.gpr r)
  simpa [Machine.exec, h.rsp] using hstore

theorem Filled.storeImm (h : Filled f m words x) (ho : o + 8 ≤ 224)
    (hclear : ∀ w ∈ words, w.width % 8 = 0 ∧ w.offset + w.width / 8 ≤ 2 ^ 64 ∧
      (w.offset + w.width / 8 ≤ o ∨ o + 8 ≤ w.offset)) (value : Nat) :
    Filled f m (⟨o, 64, BitVec.ofNat 64 value⟩ :: words) (x.storeImm value o .rsp) := by
  have hstore := h.store ho hclear (BitVec.ofNat 64 value)
  simpa [Machine.storeImm, h.rsp] using hstore

theorem Filled.orImm (h : Filled f m (⟨o, 64, v⟩ :: words) x) (ho : o + 8 ≤ 224)
    (hclear : ∀ w ∈ words, w.width % 8 = 0 ∧ w.offset + w.width / 8 ≤ 2 ^ 64 ∧
      (w.offset + w.width / 8 ≤ o ∨ o + 8 ≤ w.offset)) (value : Nat) :
    Filled f m (⟨o, 64, v ||| BitVec.ofNat 64 value⟩ :: words) (x.orImm value o .rsp) := by
  have hstore := h.tail.store ho hclear (v ||| BitVec.ofNat 64 value)
  have hold := (holds_cons.mp h.words).1
  simpa [Machine.orImm, h.rsp, hold] using hstore

theorem Filled.load (h : Filled f m words x) (hr : r ≠ .rsp) (hr' : r ≠ .r11) (o : Nat)
    (base : Reg) : Filled f m words (x.exec [.load o base r]) :=
  h.setGpr hr hr' _

/-- What a load from the pushed words gives. -/
theorem Filled.raw (h : Filled f m words x) :
    read x.cpu.memory (up (frameOf m) 384) 64 = m.cpu.gpr .rsp ∧
    read x.cpu.memory (up (frameOf m) 392) 64 = m.ss.setWidth 64 := by
  have hpushed := h.pushed
  simp only [HasPushed, pushedValues, rawValues, savedGprs, List.map_cons, List.map_nil,
    List.cons_append, List.nil_append, stacked, List.length_cons, List.length_nil,
    holds_cons] at hpushed
  exact ⟨hpushed.2.1, hpushed.1⟩

theorem Filled.loadRsp (h : Filled f m words x) (r : Reg) :
    (x.exec [.load 40 .r11 r]).cpu.gpr r = m.cpu.gpr .rsp := by
  simp only [Machine.exec, exec_cons, exec_nil, step, State.setGpr, address, Function.update_self,
    h.r11, up_up]
  exact h.raw.1

theorem Filled.loadSs (h : Filled f m words x) (r : Reg) :
    (x.exec [.load 48 .r11 r]).cpu.gpr r = m.ss.setWidth 64 := by
  simp only [Machine.exec, exec_cons, exec_nil, step, State.setGpr, address, Function.update_self,
    h.r11, up_up]
  exact h.raw.2

/-! ## Aligned and canonical stacks -/

theorem align_toNat (a : Addr) : (a &&& ~~~15#64).toNat = a.toNat / 16 * 16 := by
  have hmask : ∀ i < 64, (15#64).getLsbD i = decide (i < 4) := by decide
  have hshift : a &&& ~~~15#64 = (a >>> 4) <<< 4 := by
    apply BitVec.eq_of_getLsbD_eq
    intro i hi
    simp only [BitVec.getLsbD_and, BitVec.getLsbD_not, hmask i hi, hi, BitVec.getLsbD_shiftLeft,
      BitVec.getLsbD_ushiftRight]
    by_cases hlow : i < 4
    · simp [hlow]
    · simp [hlow, Nat.add_sub_cancel' (Nat.le_of_not_lt hlow)]
  have hlt := a.isLt
  rw [hshift, BitVec.toNat_shiftLeft, BitVec.toNat_ushiftRight, Nat.shiftLeft_eq,
    Nat.shiftRight_eq_div_pow]
  omega

/-- The words below the stack pointer are canonical, so the test of its upper bits passes. -/
theorem shr_of_canonical {a : Addr} (h : Canonical ((a &&& ~~~15#64) - 8#64)) :
    a >>> 48 = 0#64 ∨ a >>> 48 = 0xFFFF#64 := by
  have hlt := a.isLt
  have hsub : ((a &&& ~~~15#64) - 8#64).toNat = (2 ^ 64 - 8 + a.toNat / 16 * 16) % 2 ^ 64 := by
    rw [BitVec.toNat_sub, align_toNat]
    rfl
  rw [Canonical, hsub] at h
  have hshift : (a >>> 48).toNat = a.toNat / 2 ^ 48 := by
    rw [BitVec.toNat_ushiftRight, Nat.shiftRight_eq_div_pow]
  have hcases : a.toNat / 2 ^ 48 = 0 ∨ a.toNat / 2 ^ 48 = 0xFFFF := by omega
  rcases hcases with hzero | hones
  · exact .inl (BitVec.eq_of_toNat_eq (by rw [hshift, hzero]; rfl))
  · exact .inr (BitVec.eq_of_toNat_eq (by rw [hshift, hones]; rfl))

theorem rsp_of_deliver (h : deliver f m = some d) :
    m.cpu.gpr .rsp >>> 48 = 0#64 ∨ m.cpu.gpr .rsp >>> 48 = 0xFFFF#64 := by
  simp only [deliver, Option.ite_none_right_eq_some] at h
  exact shr_of_canonical (h.1 0 (by simp [Fault.words]))

/-! ## The frame is ready -/

/-- The first value of the entry flags says where the error code is from. -/
def errorSource (f : Fault) : BitVec 64 :=
  BitVec.ofNat 64 (if f.vector.val ∈ errorVectors then entryCpuError else entrySyntheticError)

/-- What the trap frame has when the dispatcher is called. -/
def trapWords (f : Fault) (m : Machine) : List Word :=
  [⟨trapFlags, 64, errorSource f ||| BitVec.ofNat 64 entryCpuStack⟩,
    ⟨trapSs, 64, m.ss.setWidth 64⟩, ⟨trapGpr .rsp, 64, m.cpu.gpr .rsp⟩, ⟨trapCr2, 64, m.cr2⟩] ++
  copiedWords f m

theorem noteCr2_filled (h : Filled f m (copiedWords f m) x) :
    Filled f m (⟨trapCr2, 64, m.cr2⟩ :: copiedWords f m) (noteCr2 x) := by
  have hmoved := h.setGpr (r := .rax) (by decide) (by decide) x.cr2
  have hstored := hmoved.storeGpr (o := trapCr2) (by decide) (by
    simp [copiedWords, firstWords, restWords, gprWords, trapCr2, trapVector, trapError, trapRaw,
      trapGpr, trapRip, trapCs, trapRflags]) .rax
  have hvalue : (x.setGpr .rax x.cr2).cpu.gpr .rax = m.cr2 := by
    simp [Machine.setGpr, h.cr2]
  rw [hvalue] at hstored
  exact hstored

theorem noteErrorSource_filled
    (h : Filled f m (⟨trapCr2, 64, m.cr2⟩ :: copiedWords f m) x) :
    Filled f m (⟨trapFlags, 64, errorSource f⟩ :: ⟨trapCr2, 64, m.cr2⟩ :: copiedWords f m)
      (noteErrorSource x) := by
  have hvector : (x.exec [.load trapVector .rsp .rax]).cpu.gpr .rax =
      BitVec.ofNat 64 f.vector := by
    have hwords := (holds_cons.mp h.words).2
    simp only [copiedWords, firstWords, List.cons_append, holds_cons] at hwords
    simpa [Machine.exec, h.rsp] using hwords.1
  have hmem : ∀ v : Fin 32, (BitVec.ofNat 64 v ∈ [8#64, 10#64, 11#64, 12#64, 13#64, 14#64, 17#64,
      21#64, 29#64, 30#64]) ↔ v.val ∈ errorVectors := by decide
  have hclear : ∀ w ∈ (⟨trapCr2, 64, m.cr2⟩ :: copiedWords f m : List Word), w.width % 8 = 0 ∧
      w.offset + w.width / 8 ≤ 2 ^ 64 ∧ (w.offset + w.width / 8 ≤ trapFlags ∨
        trapFlags + 8 ≤ w.offset) := by
    simp [copiedWords, firstWords, restWords, gprWords, trapCr2, trapFlags, trapVector, trapError,
      trapRaw, trapGpr, trapRip, trapCs, trapRflags]
  have hload := h.load (r := .rax) (by decide) (by decide) trapVector .rsp
  unfold noteErrorSource errorSource
  simp only [hvector, hmem f.vector]
  split
  · exact hload.storeImm (by decide) hclear entryCpuError
  · exact hload.storeImm (by decide) hclear entrySyntheticError

/-- The words of the frame before RSP and SS are known. -/
def sourceWords (f : Fault) (m : Machine) : List Word :=
  ⟨trapFlags, 64, errorSource f⟩ :: ⟨trapCr2, 64, m.cr2⟩ :: copiedWords f m

theorem sourceWords_clear (ho : o = trapGpr .rsp ∨ o = trapSs) : ∀ w ∈ sourceWords f m,
    w.width % 8 = 0 ∧ w.offset + w.width / 8 ≤ 2 ^ 64 ∧
      (w.offset + w.width / 8 ≤ o ∨ o + 8 ≤ w.offset) := by
  rcases ho with rfl | rfl <;>
  simp [sourceWords, copiedWords, firstWords, restWords, gprWords, trapCr2, trapFlags, trapVector,
    trapError, trapRaw, trapGpr, trapRip, trapCs, trapRflags, trapSs]

theorem Machine.exec_cons_cons (m : Machine) (i j : Instr) (code : List Instr) :
    m.exec (i :: j :: code) = (m.exec [i]).exec (j :: code) := rfl

theorem cpuStackFrame_filled (h : Filled f m (sourceWords f m) x) :
    Filled f m (trapWords f m) (cpuStackFrame x) := by
  have hclear : ∀ w ∈ (⟨trapGpr .rsp, 64, m.cpu.gpr .rsp⟩ :: sourceWords f m : List Word),
      w.width % 8 = 0 ∧ w.offset + w.width / 8 ≤ 2 ^ 64 ∧
        (w.offset + w.width / 8 ≤ trapSs ∨ trapSs + 8 ≤ w.offset) :=
    List.forall_mem_cons.mpr ⟨by simp [trapGpr, trapSs], sourceWords_clear (.inr rfl)⟩
  have hload := h.load (r := .rax) (by decide) (by decide) 40 .r11
  have hstore := hload.storeGpr (by decide) (sourceWords_clear (.inl rfl)) .rax
  rw [h.loadRsp] at hstore
  have hload' := hstore.load (r := .rax) (by decide) (by decide) 48 .r11
  have hstore' := hload'.storeGpr (by decide) hclear .rax
  rw [hstore.loadSs] at hstore'
  have hflags : Filled f m (⟨trapFlags, 64, errorSource f⟩ :: ⟨trapSs, 64, m.ss.setWidth 64⟩ ::
      ⟨trapGpr .rsp, 64, m.cpu.gpr .rsp⟩ :: ⟨trapCr2, 64, m.cr2⟩ :: copiedWords f m) _ :=
    hstore'.part fun w hw => by
      simp only [sourceWords, List.mem_cons] at hw ⊢
      tauto
  simp only [cpuStackFrame, Machine.exec_cons_cons]
  exact hflags.orImm (by decide) (by
    simp [copiedWords, firstWords, restWords, gprWords, trapCr2, trapFlags, trapVector, trapError,
      trapRaw, trapGpr, trapRip, trapCs, trapRflags, trapSs]) entryCpuStack

/-- The SS selector goes to a register, which was zero. -/
theorem Filled.movwSs (h : Filled f m words x) (hr : r ≠ .rsp) (hr' : r ≠ .r11) :
    Filled f m words ((x.setGpr r 0).movwSs r) ∧
      ((x.setGpr r 0).movwSs r).cpu.gpr r = m.ss.setWidth 64 := by
  refine ⟨(h.setGpr hr hr' 0).setGpr hr hr' _, ?_⟩
  simp [Machine.setGpr, Machine.movwSs, h.ss]

theorem movwSs_gpr {r' : Reg} (hne : r' ≠ r) :
    ((x.setGpr r 0).movwSs r).cpu.gpr r' = x.cpu.gpr r' := by
  simp [Machine.setGpr, Machine.movwSs, hne]

theorem Machine.exec_gpr {code : List Instr} (x : Machine) (h : ∀ i ∈ code, r ∉ i.targets) :
    (x.exec code).cpu.gpr r = x.cpu.gpr r :=
  Amd64.exec_gpr x.cpu h

/-- The test recognises the pair that the processor has pushed. -/
theorem testStackPair_filled (h : Filled f m (sourceWords f m) x)
    (hpair : (x.cpu.gpr .rcx).setWidth 16 = (x.cpu.gpr .rdx).setWidth 16)
    (hcanonical : x.cpu.gpr .rax >>> 48 = 0#64 ∨ x.cpu.gpr .rax >>> 48 = 0xFFFF#64) :
    Filled f m (trapWords f m) (testStackPair x) := by
  have hready : Filled f m (sourceWords f m) (x.exec [.movq .rax .rcx, .shrq 48 .rcx]) := by
    rw [Machine.exec_cons_cons]
    exact (h.setGpr (r := .rcx) (by decide) (by decide) _).setGpr (r := .rcx) (by decide)
      (by decide) _
  have hshifted : (x.exec [.movq .rax .rcx, .shrq 48 .rcx]).cpu.gpr .rcx =
      x.cpu.gpr .rax >>> 48 := by
    simp [Machine.exec]
  unfold testStackPair
  rw [if_neg (not_not_intro hpair)]
  dsimp only
  rw [hshifted]
  rcases hcanonical with hzero | hones
  · rw [if_pos hzero]
    exact cpuStackFrame_filled hready
  · rw [if_neg (by rw [hones]; decide), if_neg (by simp [hones])]
    exact cpuStackFrame_filled hready

theorem loadStackPair_filled (h : Filled f m words x) :
    Filled f m words (loadStackPair x) ∧
      (loadStackPair x).cpu.gpr .rax = m.cpu.gpr .rsp ∧
      (loadStackPair x).cpu.gpr .rcx = m.ss.setWidth 64 ∧
      (loadStackPair x).cpu.gpr .rdx = m.ss.setWidth 64 := by
  have hfirst := h.load (r := .rax) (by decide) (by decide) 40 .r11
  have hsecond := hfirst.load (r := .rcx) (by decide) (by decide) 48 .r11
  obtain ⟨hmoved, hrdx⟩ := hsecond.movwSs (r := .rdx) (by decide) (by decide)
  unfold loadStackPair
  rw [Machine.exec_cons_cons]
  refine ⟨hmoved, ?_, ?_, hrdx⟩
  · rw [movwSs_gpr (by decide), Machine.exec_gpr _ (by decide), h.loadRsp]
  · rw [movwSs_gpr (by decide), hfirst.loadSs]

theorem noteSs_filled (h : Filled f m (sourceWords f m) x) :
    Filled f m (sourceWords f m) (noteSs x) := by
  have hmoved := (h.movwSs (r := .rax) (by decide) (by decide)).1
  have hstored := (hmoved.storeGpr (by decide) (sourceWords_clear (.inr rfl)) .rax).tail
  rw [noteSs, Machine.exec_cons_cons]
  exact hstored.load (r := .rax) (by decide) (by decide) trapCs .rsp

theorem noteStack_filled (h : Filled f m (sourceWords f m) x)
    (hcanonical : m.cpu.gpr .rsp >>> 48 = 0#64 ∨ m.cpu.gpr .rsp >>> 48 = 0xFFFF#64) :
    Filled f m (trapWords f m) (noteStack x) := by
  have hnoted := noteSs_filled h
  obtain ⟨hloaded, hrax, hrcx, hrdx⟩ := loadStackPair_filled hnoted
  unfold noteStack
  dsimp only
  by_cases hcs : (noteSs x).cpu.gpr .rax &&& 3#64 ≠ 0
  · rw [if_pos hcs]
    exact cpuStackFrame_filled hnoted
  · rw [if_neg hcs]
    refine testStackPair_filled hloaded ?_ ?_
    · rw [hrcx, hrdx]
    · rwa [hrax]

/-- The trap frame is complete when the dispatcher is about to be called. -/
theorem buildFrame_filled (h : deliver f m = some d) :
    Filled f m (trapWords f m) (buildFrame (stub f.vector d)) := by
  have hstub := stub_of_deliver h
  have hsaved := hstub.saved
  obtain ⟨v, hcopied⟩ := hsaved.copied
  have hsame : SameBytes (exec saveRegisters (stub f.vector d).cpu).memory
      (exec copyToFrame (exec saveRegisters (stub f.vector d).cpu)).memory (frameOf m) 224 400 := by
    rw [hcopied]
    refine sameBytes_storeWords _ _ ?_ ?_ (by decide) (by decide)
    · simp [copiedWords, firstWords, restWords, gprWords, trapVector, trapError, trapRaw, trapGpr,
        trapRip, trapCs, trapRflags]
    · simp [copiedWords, firstWords, restWords, gprWords, trapVector, trapError, trapRaw, trapGpr,
        trapRip, trapCs, trapRflags]
  have hlaid : Laid 0 224 (copiedWords f m) := by
    constructor <;> simp [copiedWords, firstWords, restWords, gprWords, trapVector, trapError,
      trapRaw, trapGpr, trapRip, trapCs, trapRflags, Word.Within, Word.Clear]
  have hfirst : Filled f m (copiedWords f m)
      (((stub f.vector d).exec saveRegisters).exec copyToFrame) := by
    refine ⟨?_, ?_, ?_, hsaved.pushed.keep hsame, hstub.ss, hstub.cr2, hstub.active⟩
    · simp [Machine.exec, hcopied, hsaved.rsp]
    · simp [Machine.exec, hcopied, hsaved.r11]
    · simp only [Machine.exec, hcopied]
      exact holds_storeWords _ _ hlaid (by decide)
  exact noteStack_filled (noteErrorSource_filled (noteCr2_filled hfirst)) (rsp_of_deliver h)

end Gate4Harness.ExceptionEntry
