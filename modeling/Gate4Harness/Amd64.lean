-- A processor with the registers and the instructions that stack switching code uses, and
-- what the Windows x64 convention asks of a function that is called. A straight line of code
-- is a list of instructions. Operands stand in the order source, destination.
import Gate4Harness.ByteMemory

open ByteMemory

namespace Amd64

inductive Reg where
  | rax | rbx | rcx | rdx | rsi | rdi | rbp | rsp | r8 | r9 | r10 | r11 | r12 | r13 | r14 | r15
  deriving DecidableEq, Repr

/-- The number of a vector register. -/
abbrev Xmm := Fin 16

/-- `rflags` stands for the flags that arithmetic does not set: no code that is read here uses
the others after they are saved. -/
structure State where
  gpr : Reg → BitVec 64
  xmm : Xmm → BitVec 128
  mxcsr : BitVec 32
  fpuControl : BitVec 16
  rflags : BitVec 64
  msr : BitVec 32 → BitVec 64
  rip : Addr
  memory : Memory

inductive Instr where
  | movq (src dst : Reg)
  | movabsq (value : BitVec 64) (dst : Reg)
  | movl (src dst : Reg)
  | movlImm (value : BitVec 32) (dst : Reg)
  | load (offset : Nat) (base dst : Reg)
  | store (src : Reg) (offset : Nat) (base : Reg)
  | storel (src : Reg) (offset : Nat) (base : Reg)
  | leaq (offset : Nat) (base dst : Reg)
  | addq (value : Nat) (dst : Reg)
  | subq (value : Nat) (dst : Reg)
  | andq (src dst : Reg)
  | orq (src dst : Reg)
  | shlq (count : Nat) (dst : Reg)
  | shrq (count : Nat) (dst : Reg)
  | loadXmm (offset : Nat) (base : Reg) (dst : Xmm)
  | storeXmm (src : Xmm) (offset : Nat) (base : Reg)
  /-- A load of a constant of the program. -/
  | constXmm (value : BitVec 128) (dst : Xmm)
  | stmxcsr (offset : Nat) (base : Reg)
  | ldmxcsr (offset : Nat) (base : Reg)
  | constMxcsr (value : BitVec 32)
  | fnstcw (offset : Nat) (base : Reg)
  | fldcw (offset : Nat) (base : Reg)
  | constFpu (value : BitVec 16)
  | pushq (src : Reg)
  | popq (dst : Reg)
  | pushfq
  | popfq
  | cld
  | rdmsr
  | wrmsr
  | jmp (target : Reg)
  | ret

namespace State

@[simp] def setGpr (s : State) (r : Reg) (v : BitVec 64) : State :=
  { s with gpr := Function.update s.gpr r v }

@[simp] def setXmm (s : State) (x : Xmm) (v : BitVec 128) : State :=
  { s with xmm := Function.update s.xmm x v }

@[simp] def setMemory (s : State) (m : Memory) : State := { s with memory := m }

/-- The address of the operand `offset(base)`. -/
@[simp] def address (s : State) (offset : Nat) (base : Reg) : Addr := up (s.gpr base) offset

/-- The lower half of a register. -/
@[simp] def low (s : State) (r : Reg) : BitVec 32 := (s.gpr r).setWidth 32

@[simp] def push (s : State) (v : BitVec 64) : State :=
  let rsp := s.gpr .rsp - 8#64
  (s.setGpr .rsp rsp).setMemory (write s.memory rsp v)

/-- The word on top of the stack. -/
@[simp] def top (s : State) : BitVec 64 := read s.memory (s.gpr .rsp) 64

@[simp] def pop (s : State) : State := s.setGpr .rsp (up (s.gpr .rsp) 8)

end State

open State

@[simp] def step (s : State) : Instr → State
  | .movq src dst => s.setGpr dst (s.gpr src)
  | .movabsq value dst => s.setGpr dst value
  -- A 32-bit result clears the upper half of its register.
  | .movl src dst => s.setGpr dst ((s.low src).setWidth 64)
  | .movlImm value dst => s.setGpr dst (value.setWidth 64)
  | .load offset base dst => s.setGpr dst (read s.memory (s.address offset base) 64)
  | .store src offset base => s.setMemory (write s.memory (s.address offset base) (s.gpr src))
  | .storel src offset base => s.setMemory (write s.memory (s.address offset base) (s.low src))
  | .leaq offset base dst => s.setGpr dst (s.address offset base)
  | .addq value dst => s.setGpr dst (up (s.gpr dst) value)
  | .subq value dst => s.setGpr dst (s.gpr dst - BitVec.ofNat 64 value)
  | .andq src dst => s.setGpr dst (s.gpr dst &&& s.gpr src)
  | .orq src dst => s.setGpr dst (s.gpr dst ||| s.gpr src)
  | .shlq count dst => s.setGpr dst (s.gpr dst <<< count)
  | .shrq count dst => s.setGpr dst (s.gpr dst >>> count)
  | .loadXmm offset base dst => s.setXmm dst (read s.memory (s.address offset base) 128)
  | .storeXmm src offset base =>
    s.setMemory (write s.memory (s.address offset base) (s.xmm src))
  | .constXmm value dst => s.setXmm dst value
  | .stmxcsr offset base => s.setMemory (write s.memory (s.address offset base) s.mxcsr)
  | .ldmxcsr offset base => { s with mxcsr := read s.memory (s.address offset base) 32 }
  | .constMxcsr value => { s with mxcsr := value }
  | .fnstcw offset base => s.setMemory (write s.memory (s.address offset base) s.fpuControl)
  | .fldcw offset base => { s with fpuControl := read s.memory (s.address offset base) 16 }
  | .constFpu value => { s with fpuControl := value }
  | .pushq src => s.push (s.gpr src)
  | .popq dst => s.pop.setGpr dst s.top
  | .pushfq => s.push s.rflags
  | .popfq => { s.pop with rflags := s.top }
  -- The direction flag is bit 10.
  | .cld => { s with rflags := s.rflags &&& ~~~(1#64 <<< 10) }
  | .rdmsr =>
    let v := s.msr (s.low .rcx)
    (s.setGpr .rax ((v.setWidth 32).setWidth 64)).setGpr .rdx (v >>> 32)
  | .wrmsr =>
    { s with msr := Function.update s.msr (s.low .rcx) (s.low .rdx ++ s.low .rax) }
  | .jmp target => { s with rip := s.gpr target }
  | .ret => { s.pop with rip := s.top }

/-- What a straight line of code leaves. -/
def exec (code : List Instr) (s : State) : State := code.foldl step s

/-- The general registers that an instruction may change. -/
def Instr.targets : Instr → List Reg
  | .movq _ dst | .movabsq _ dst | .movl _ dst | .movlImm _ dst | .load _ _ dst | .leaq _ _ dst
  | .addq _ dst | .subq _ dst | .andq _ dst | .orq _ dst | .shlq _ dst | .shrq _ dst => [dst]
  | .pushq _ | .pushfq | .popfq | .ret => [.rsp]
  | .popq dst => [.rsp, dst]
  | .rdmsr => [.rax, .rdx]
  | .store .. | .storel .. | .loadXmm .. | .storeXmm .. | .constXmm .. | .stmxcsr .. | .ldmxcsr ..
  | .constMxcsr _ | .fnstcw .. | .fldcw .. | .constFpu _ | .cld | .wrmsr | .jmp _ => []

theorem step_gpr {i : Instr} {r : Reg} (s : State) (h : r ∉ i.targets) :
    (step s i).gpr r = s.gpr r := by
  cases i <;> simp_all [Instr.targets]

/-- A straight line of code keeps a register that none of its instructions may change. -/
theorem exec_gpr {code : List Instr} {r : Reg} (s : State) (h : ∀ i ∈ code, r ∉ i.targets) :
    (exec code s).gpr r = s.gpr r := by
  induction code generalizing s with
  | nil => rfl
  | cons i rest ih =>
    rw [List.forall_mem_cons] at h
    exact (ih _ h.2).trans (step_gpr s h.1)

/-! ## Tables of registers -/

def storeAll (base : Reg) (slots : List (Reg × Nat)) : List Instr :=
  slots.map fun e => .store e.1 e.2 base

def loadAll (base : Reg) (slots : List (Reg × Nat)) : List Instr :=
  slots.map fun e => .load e.2 base e.1

def storeXmms (base : Reg) (slots : List (Xmm × Nat)) : List Instr :=
  slots.map fun e => .storeXmm e.1 e.2 base

def loadXmms (base : Reg) (slots : List (Xmm × Nat)) : List Instr :=
  slots.map fun e => .loadXmm e.2 base e.1

def pushAll (regs : List Reg) : List Instr := regs.map .pushq

/-- Words that go from places over some registers to places over the stack pointer, each of them
through RAX. -/
def copyAll (slots : List (Reg × Nat × Nat)) : List Instr :=
  slots.flatMap fun e => [.load e.2.1 e.1 .rax, .store .rax e.2.2 .rsp]

/-- The words that a table of general registers asks to save. -/
def gprWords (gpr : Reg → BitVec 64) (slots : List (Reg × Nat)) : List Word :=
  slots.map fun e => ⟨e.2, 64, gpr e.1⟩

def xmmWords (xmm : Xmm → BitVec 128) (slots : List (Xmm × Nat)) : List Word :=
  slots.map fun e => ⟨e.2, 128, xmm e.1⟩

@[simp] theorem exec_nil (s : State) : exec [] s = s := rfl

@[simp] theorem exec_cons (i : Instr) (code : List Instr) (s : State) :
    exec (i :: code) s = exec code (step s i) := rfl

@[simp] theorem exec_append (code code' : List Instr) (s : State) :
    exec (code ++ code') s = exec code' (exec code s) := List.foldl_append ..

@[simp] theorem exec_storeAll (base : Reg) (slots : List (Reg × Nat)) (s : State) :
    exec (storeAll base slots) s =
      s.setMemory (storeWords s.memory (s.gpr base) (gprWords s.gpr slots)) := by
  induction slots generalizing s with
  | nil => rfl
  | cons e rest ih => exact ih _

@[simp] theorem exec_storeXmms (base : Reg) (slots : List (Xmm × Nat)) (s : State) :
    exec (storeXmms base slots) s =
      s.setMemory (storeWords s.memory (s.gpr base) (xmmWords s.xmm slots)) := by
  induction slots generalizing s with
  | nil => rfl
  | cons e rest ih => exact ih _

/-- Constants go to the vector registers of a list. -/
theorem exec_constXmms (xmms : List (Xmm × BitVec 128)) (s : State) :
    exec (xmms.map fun e => .constXmm e.2 e.1) s =
      { s with xmm := setAll s.xmm xmms } := by
  induction xmms generalizing s with
  | nil => rfl
  | cons e rest ih => exact ih _

/-- A register that a table does not list can change without the words of the table. -/
theorem gprWords_update (gpr : Reg → BitVec 64) {r : Reg} (v : BitVec 64)
    {slots : List (Reg × Nat)} (h : r ∉ slots.map Prod.fst) :
    gprWords (Function.update gpr r v) slots = gprWords gpr slots := by
  refine List.map_congr_left fun e he => ?_
  have hne : e.1 ≠ r := fun heq => h (heq ▸ List.mem_map_of_mem he)
  rw [Function.update_of_ne hne]

theorem exec_loadAll (base : Reg) (slots : List (Reg × Nat)) (s : State)
    (h : base ∉ slots.map Prod.fst) :
    exec (loadAll base slots) s =
      { s with gpr := readAll s.memory (s.gpr base) s.gpr slots } := by
  induction slots generalizing s with
  | nil => rfl
  | cons e rest ih =>
    rw [List.map_cons, List.mem_cons, not_or] at h
    refine (ih _ h.2).trans ?_
    simp only [step, setGpr, readAll, setAll, List.map_cons, List.foldl_cons, address,
      Function.update_of_ne h.1]

@[simp] theorem exec_loadXmms (base : Reg) (slots : List (Xmm × Nat)) (s : State) :
    exec (loadXmms base slots) s =
      { s with xmm := readAll s.memory (s.gpr base) s.xmm slots } := by
  induction slots generalizing s with
  | nil => rfl
  | cons e rest ih => exact ih _

/-! ## Pushes and copies -/

/-- The words that pushes leave, the last of them `k` bytes above where offsets are counted. -/
def stacked (k : Nat) : List (BitVec 64) → List Word
  | [] => []
  | v :: rest => ⟨k + 8 * rest.length, 64, v⟩ :: stacked k rest

theorem within_stacked {k : Nat} {values : List (BitVec 64)} :
    ∀ x ∈ stacked k values, x.Within k (k + 8 * values.length) := by
  induction values with
  | nil => exact fun _ hx => nomatch hx
  | cons v rest ih =>
    refine List.forall_mem_cons.mpr ⟨⟨show 64 % 8 = 0 from rfl, Nat.le_add_right _ _, ?_⟩, fun x hx => ?_⟩
    · simp only [List.length_cons]
      omega
    · obtain ⟨hwidth, hlo, hhi⟩ := ih x hx
      rw [List.length_cons]
      exact ⟨hwidth, hlo, by omega⟩

theorem stacked_laid (k : Nat) (values : List (BitVec 64)) :
    Laid k (k + 8 * values.length) (stacked k values) := by
  refine ⟨within_stacked, ?_⟩
  induction values with
  | nil => exact List.Pairwise.nil
  | cons v rest ih =>
    refine List.pairwise_cons.mpr ⟨fun y hy => .inr ?_, ih⟩
    exact (within_stacked y hy).2.2

theorem stacked_append (k : Nat) (values values' : List (BitVec 64)) :
    stacked k (values ++ values') = stacked (k + 8 * values'.length) values ++ stacked k values' := by
  induction values with
  | nil => rfl
  | cons v rest ih =>
    have hlength : k + 8 * (rest ++ values').length = k + 8 * values'.length + 8 * rest.length := by
      rw [List.length_append]
      omega
    rw [List.cons_append, stacked, ih, stacked, hlength, List.cons_append]

/-- Pushing some values stores them and moves the stack pointer. -/
theorem foldl_push {g : Addr} {k : Nat} (values : List (BitVec 64)) (s : State)
    (h : s.gpr .rsp = up g (k + 8 * values.length)) :
    values.foldl push s =
      { s with gpr := Function.update s.gpr .rsp (up g k)
               memory := storeWords s.memory g (stacked k values) } := by
  induction values generalizing s with
  | nil =>
    rw [List.length_nil, Nat.mul_zero, Nat.add_zero] at h
    rw [List.foldl_nil, stacked, storeWords_nil, ← h, Function.update_eq_self]
  | cons v rest ih =>
    have hrsp : s.gpr .rsp - 8#64 = up g (k + 8 * rest.length) := by
      rw [h, List.length_cons, up_sub g (by omega)]
      congr 1
    rw [List.foldl_cons, ih _ (by simp [hrsp])]
    simp [stacked, hrsp]

theorem exec_pushAll (regs : List Reg) (s : State) (h : .rsp ∉ regs) :
    exec (pushAll regs) s = (regs.map s.gpr).foldl push s := by
  induction regs generalizing s with
  | nil => rfl
  | cons r rest ih =>
    rw [List.mem_cons, not_or] at h
    refine (ih _ h.2).trans ?_
    rw [List.map_cons, List.foldl_cons]
    congr 1
    refine List.map_congr_left fun r' hr' => ?_
    have hne : r' ≠ .rsp := fun heq => h.2 (heq ▸ hr')
    exact Function.update_of_ne hne _ _

/-- Copies from above `lim` to places below it. -/
theorem exec_copyAll {g : Addr} (lim : Nat) (place : Reg → Nat) (slots : List (Reg × Nat × Nat))
    (s : State) (hrsp : s.gpr .rsp = g)
    (hslots : ∀ e ∈ slots, e.1 ≠ .rax ∧ s.gpr e.1 = up g (place e.1) ∧ e.2.2 + 8 ≤ lim ∧
      lim ≤ place e.1 + e.2.1 ∧ place e.1 + e.2.1 + 8 ≤ 2 ^ 64) :
    ∃ v, exec (copyAll slots) s =
      { s with gpr := Function.update s.gpr .rax v
               memory := storeWords s.memory g (slots.map fun e =>
                 ⟨e.2.2, 64, read s.memory (up g (place e.1 + e.2.1)) 64⟩) } := by
  induction slots generalizing s with
  | nil => exact ⟨s.gpr .rax, by simp [copyAll]⟩
  | cons e rest ih =>
    rw [List.forall_mem_cons] at hslots
    obtain ⟨⟨hne, hbase, hlow, hhigh, hfit⟩, hrest⟩ := hslots
    let x := read s.memory (up g (place e.1 + e.2.1)) 64
    let s1 := (s.setGpr .rax x).setMemory (write s.memory (up g e.2.2) x)
    have hstep : exec (copyAll (e :: rest)) s = exec (copyAll rest) s1 := by
      simp [copyAll, s1, x, hbase, hrsp]
    obtain ⟨v, hv⟩ := ih s1 (by simpa [s1] using hrsp) fun e' he' => by
      obtain ⟨hne', hbase', hlow', hhigh', hfit'⟩ := hrest e' he'
      exact ⟨hne', by simpa [s1, hne'] using hbase', hlow', hhigh', hfit'⟩
    refine ⟨v, hstep.trans (hv.trans ?_)⟩
    have hreads : rest.map (fun e' => (⟨e'.2.2, 64, read s1.memory (up g (place e'.1 + e'.2.1)) 64⟩
        : Word)) = rest.map fun e' => ⟨e'.2.2, 64, read s.memory (up g (place e'.1 + e'.2.1)) 64⟩ := by
      refine List.map_congr_left fun e' he' => ?_
      obtain ⟨-, -, hlow', hhigh', hfit'⟩ := hrest e' he'
      have hkept : read s1.memory (up g (place e'.1 + e'.2.1)) 64 =
          read s.memory (up g (place e'.1 + e'.2.1)) 64 :=
        read_write_up _ _ _ (by decide) (.inl (by omega)) (by omega) (by omega)
      rw [hkept]
    rw [hreads]
    simp [s1, x]

/-! ## The calling convention -/

def nonvolatileGprs : List Reg := [.rbx, .rbp, .rsi, .rdi, .r12, .r13, .r14, .r15]

/-- The registers that the Windows x64 convention keeps have the same values, the stack pointer
apart. Of MXCSR the convention asks for some bits only: `kept` are those that count. -/
structure SameRegisters (kept : BitVec 32) (s t : State) : Prop where
  gprs : ∀ r ∈ nonvolatileGprs, t.gpr r = s.gpr r
  xmms : ∀ x : Xmm, 6 ≤ x → t.xmm x = s.xmm x
  mxcsr : t.mxcsr &&& kept = s.mxcsr &&& kept
  fpuControl : t.fpuControl = s.fpuControl

theorem SameRegisters.trans {kept : BitVec 32} {s t u : State} (h : SameRegisters kept s t)
    (h' : SameRegisters kept t u) : SameRegisters kept s u where
  gprs r hr := (h'.gprs r hr).trans (h.gprs r hr)
  xmms x hx := (h'.xmms x hx).trans (h.xmms x hx)
  mxcsr := h'.mxcsr.trans h.mxcsr
  fpuControl := h'.fpuControl.trans h.fpuControl

theorem SameRegisters.symm {kept : BitVec 32} {s t : State} (h : SameRegisters kept s t) :
    SameRegisters kept t s where
  gprs r hr := (h.gprs r hr).symm
  xmms x hx := (h.xmms x hx).symm
  mxcsr := h.mxcsr.symm
  fpuControl := h.fpuControl.symm

/-- What the convention asks of the registers between the entry of a function in `s` and its
return in `t`. -/
structure KeepsRegisters (kept : BitVec 32) (s t : State) : Prop
    extends SameRegisters kept s t where
  rsp : t.gpr .rsp = up (s.gpr .rsp) 8

/-- A function that was entered in `s` returns in `t`. Above the return address and the four
words that belong to it, the stack is its caller's up to `extent`, and it writes there only
the `bytes` bytes at `out` that it was given. -/
structure Conforms (kept : BitVec 32) (extent : Nat) (out : Addr) (bytes : Nat) (s t : State) :
    Prop extends KeepsRegisters kept s t where
  rip : t.rip = s.top
  frame : ∀ d, 40 ≤ d → d < extent → (∀ i < bytes, up out i ≠ up (s.gpr .rsp) d) →
    t.memory (up (s.gpr .rsp) d) = s.memory (up (s.gpr .rsp) d)

end Amd64
