-- What a call of the unwinder leaves. Where it counts no failure and the data is of the plain
-- kind, the context is the one that the documented procedure gives; where it counts one, it
-- stopped between two codes.
import Gate4Harness.VirtualUnwindLaws

namespace Gate4Harness.Unwind

open ByteMemory Amd64 UnwindData
open Vm (uint64Max uint32Max)
open scoped Vm

variable {w : World} {f : Loop} {c c' : Context} {s : Slot} {slots : List Slot} {code : Code}
  {codes : List Code} {l : List Entry} {a : Arguments} {t : Target} {d : Diagnostics}
  {frame : Option (Reg × Nat)} {offset : Nat} {info : Addr}

/-! ## The documented procedure -/

/-- The loop treats the code as documented: it is no machine frame, and it sets the frame
pointer only where there is one. -/
def Plain (frame : Option (Reg × Nat)) (code : Code) : Prop :=
  isMachframe code = false ∧ (code = .setFpreg → frame.isSome = true)

theorem Info.frame_some {x : Info} {r : Reg} {bytes : Nat} (h : x.frame = some (r, bytes)) :
    registers[x.frameRegister]? = some r ∧ bytes = 16 * x.frameOffset := by
  unfold Info.frame at h
  split at h
  · cases h
  · obtain ⟨r', hr', heq⟩ := Option.map_eq_some_iff.mp h
    cases heq
    exact ⟨hr', rfl⟩

/-- The loop has the frame of the data. -/
structure Matches (f : Loop) (frame : Option (Reg × Nat)) : Prop where
  frame : ∀ e ∈ frame, unwindRegister f.frameRegister = some e.1 ∧ e.2 = 16 * f.frameOffset

theorem undone_eq_undo (hf : Matches f frame) (hcode : Plain frame code) :
    undo w.memory frame f.frameBase c code = some (undone w f c code) := by
  obtain ⟨hmachine, hset⟩ := hcode
  cases code with
  | pushNonvol r => rfl
  | alloc bytes => rfl
  | setFpreg =>
    obtain ⟨⟨r, bytes⟩, hframe⟩ := Option.isSome_iff_exists.mp (hset rfl)
    obtain ⟨hr, hbytes⟩ := hf.frame _ hframe
    unfold undo undone
    obtain rfl : bytes = 16 * f.frameOffset := hbytes
    simp only [hframe, hr, Option.map_some, Nat.mul_comm 16]
  | saveNonvol r offset => rfl
  | saveXmm => rfl
  | pushMachframe errorCode => cases hmachine

theorem undoAllChecked_ok (hf : Matches f frame) (hcodes : ∀ code ∈ codes, Plain frame code)
    (h : undoAllChecked w f codes c = .ok c') :
    undoAll w.memory frame f.frameBase c codes = some c' := by
  induction codes generalizing c with
  | nil =>
    cases h
    rfl
  | cons code rest ih =>
    rw [List.forall_mem_cons] at hcodes
    unfold undoAllChecked undoChecked at h
    split at h
    · cases h
    · rename_i c1 hc1
      split at hc1
      · cases hc1
        unfold undoAll
        rw [List.foldlM_cons, undone_eq_undo hf hcodes.1]
        exact ih hcodes.2 h
      · cases hc1

/-- Of a sorted array, the codes that are reached are those from the first one on whose offset
is not beyond the place: all that a scan for that code leaves. -/
theorem reached_eq_scan (hsorted : l.Pairwise fun e e' => e'.offset ≤ e.offset) :
    reached offset l = (l.dropWhile fun e => decide (offset < e.offset)).map Entry.code := by
  unfold reached
  congr 1
  induction l with
  | nil => rfl
  | cons e rest ih =>
    obtain ⟨hle, hrest⟩ := List.pairwise_cons.mp hsorted
    by_cases he : e.offset ≤ offset
    · rw [List.filter_cons_of_pos (by simpa using he),
        List.dropWhile_cons_of_neg (by simpa using he), List.filter_eq_self.mpr]
      intro e' he'
      simpa using Nat.le_trans (hle e' he') he
    · rw [List.filter_cons_of_neg (by simpa using he),
        List.dropWhile_cons_of_pos (by simpa using he)]
      exact ih hrest

/-! ## The two outcomes -/

/-- The loop that the call runs. -/
def loopOf (w : World) (offset : Nat) (info : Addr) (c : Context) : Loop :=
  { prologueOffset := offset, frameBase := c.gpr .rsp
    frameRegister := (infoAt w.memory info).frameRegister
    frameOffset := (infoAt w.memory info).frameOffset }

/-- The loop of the call over the slots of its data. -/
def walked (w : World) (offset : Nat) (info : Addr) (c : Context) : Step :=
  undoCodes w (loopOf w offset info c) (infoAt w.memory info).slots 0 c

/-- A call that counts no failure read its data, went through the whole array and popped the
return address. -/
structure Unwound (w : World) (a : Arguments) (t : Target) (offset : Nat) (info : Addr)
    (c : Context) (t' : Target) : Prop where
  data : unwindInfo w a = some (offset, info)
  codes : walked w offset info t.context = .ok c
  context : t'.context =
    { c.setGpr .rsp (up (c.gpr .rsp) 8) with rip := read w.memory (c.gpr .rsp) 64 }
  establisher : t'.establisherFrame = t.establisherFrame.map fun _ => t.context.gpr .rsp

/-- Where a call fails: at its arguments, in the loop, or when it pops the return address. -/
inductive StopsAt (w : World) (a : Arguments) (t : Target) : Context → Prop
  | arguments : unwindInfo w a = none → StopsAt w a t t.context
  | loop {offset : Nat} {info : Addr} {c : Context} : unwindInfo w a = some (offset, info) →
    walked w offset info t.context = .error c → StopsAt w a t c
  | pop {offset : Nat} {info : Addr} {c : Context} : unwindInfo w a = some (offset, info) →
    walked w offset info t.context = .ok c → readStackU64 w (c.gpr .rsp) = none → StopsAt w a t c

theorem readStackU64_some {sp value next : BitVec 64}
    (h : readStackU64 w sp = some (value, next)) : value = read w.memory sp 64 ∧ next = up sp 8 := by
  unfold readStackU64 addU64 at h
  split at h
  · cases h
  · split at h
    · cases h
    · cases h
      exact ⟨rfl, rfl⟩

theorem call_cases (w : World) (a : Arguments) (t : Target) (d : Diagnostics) :
    ((∃ offset info c, Unwound w a t offset info c (platformRtlVirtualUnwind w a t d).1) ∧
      (platformRtlVirtualUnwind w a t d).2.failures = d.failures) ∨
    (∃ c, StopsAt w a t c ∧ (platformRtlVirtualUnwind w a t d).1 = { t with context := c } ∧
      (platformRtlVirtualUnwind w a t d).2.failures = d.failures + 1) := by
  unfold platformRtlVirtualUnwind
  dsimp only
  split
  · rename_i hdata
    exact .inr ⟨_, .arguments hdata, rfl, rfl⟩
  · rename_i offset info hdata
    split
    · rename_i c hcodes
      exact .inr ⟨c, .loop hdata hcodes, rfl, rfl⟩
    · rename_i c hcodes
      split
      · rename_i hpop
        exact .inr ⟨c, .pop hdata hcodes hpop, rfl, rfl⟩
      · rename_i value next hpop
        obtain ⟨rfl, rfl⟩ := readStackU64_some hpop
        exact .inl ⟨⟨offset, info, c, hdata, hcodes, rfl, rfl⟩, rfl⟩

/-- The call counts a failure. -/
def Counted (w : World) (a : Arguments) (t : Target) (d : Diagnostics) : Prop :=
  (platformRtlVirtualUnwind w a t d).2.failures ≠ d.failures

theorem add_one_ne (x : BitVec 32) : x + 1 ≠ x := by
  intro h
  simp at h

/-! ## Followed or refused -/

/-- What the caller of the unwinder looks at. -/
structure Agrees (t t' : Target) (c : Context) (frame : BitVec 64) : Prop where
  rsp : t'.context.gpr .rsp = c.gpr .rsp
  rip : t'.context.rip = c.rip
  nonvolatile : ∀ r ∈ nonvolatileGprs, t'.context.gpr r = c.gpr r
  establisher : t'.establisherFrame = t.establisherFrame.map fun _ => frame

/-- The call counts a failure, or its result is that of the documented procedure. -/
def FollowedOrRefused (w : World) (a : Arguments) (t : Target) (d : Diagnostics) : Prop :=
  Counted w a t d ∨
  ∃ depth c frame,
    unwind w.memory (BitVec.ofNat 64 a.imageBase) depth a.function
      (a.controlPc - a.imageBase - a.function.beginAddress) t.context = some (c, frame) ∧
    Agrees t (platformRtlVirtualUnwind w a t d).1 c frame

/-- The data that the unwinder can follow: it is where the function entry says, its version is
1 and nothing is chained to it; no machine frame is undone, and the frame pointer is set only
where the data names one; and where the frame pointer is set up, RSP has not moved from the
base of the frame. -/
structure Followable (w : World) (a : Arguments) (c : Context) (offset : Nat) (info : Info)
    (l : List Entry) : Prop where
  aligned : a.function.unwindData % 4 = 0
  version : info.version = 1
  unchained : info.chained = false
  plain : ∀ code ∈ reached offset l, Plain info.frame code
  base : info.base offset l c = c.gpr .rsp

/-- If the arguments pass the checks and the array is well formed, the data can be followed. -/
def DataFollowable (w : World) (a : Arguments) (c : Context) : Prop :=
  ∀ offset info l, unwindInfo w a = some (offset, info) →
    entries (infoAt w.memory info).slots = some l →
    Followable w a c offset (infoAt w.memory info) l

theorem unwindInfo_some (h : unwindInfo w a = some (offset, info)) :
    offset = a.controlPc - a.imageBase - a.function.beginAddress ∧
    info = up (BitVec.ofNat 64 a.imageBase) (a.function.unwindData / 4 * 4) := by
  unfold unwindInfo at h
  split at h
  · cases h
  · dsimp only at h
    split at h
    · cases h
    · split at h
      · cases h
      · split at h
        · cases h
        · cases h
          exact ⟨rfl, rfl⟩

theorem loopOf_matches (w : World) (offset : Nat) (info : Addr) (c : Context) :
    Matches (loopOf w offset info c) (infoAt w.memory info).frame := by
  refine ⟨fun e he => ?_⟩
  obtain ⟨r, bytes⟩ := e
  exact Info.frame_some he

/-- Without a chain it does not matter how far one is followed. -/
theorem unwind_unchained {m : Memory} {imageBase : BitVec 64} {f : RuntimeFunction}
    (h : (infoAt m (up imageBase f.unwindData)).chained = false) (depth offset : Nat)
    (c : Context) : unwind m imageBase depth f offset c = unwind m imageBase 0 f offset c := by
  unfold unwind
  simp only [h, Bool.false_eq_true, if_false]

/-! ## Failures -/

/-- A call that fails leaves all that it could write as it was. -/
def LeavesAlone (w : World) (a : Arguments) (t : Target) (d : Diagnostics) : Prop :=
  Counted w a t d → (platformRtlVirtualUnwind w a t d).1 = t

/-- How far the context `c'` got: its arguments were refused, or the first of the codes that are
reached at the address are undone, each of them whole. -/
def StoppedBetweenCodes (w : World) (a : Arguments) (c c' : Context) : Prop :=
  match unwindInfo w a with
  | none => c' = c
  | some (offset, info) =>
    ∃ done, done <+: reached offset (wellFormed (infoAt w.memory info).slots.length
      (infoAt w.memory info).slots) ∧ c' = done.foldl (undone w (loopOf w offset info c)) c

theorem StopsAt.betweenCodes (h : StopsAt w a t c) : StoppedBetweenCodes w a t.context c := by
  have hwalk : ∀ {offset info}, unwindInfo w a = some (offset, info) →
      (walked w offset info t.context = .error c ∨ walked w offset info t.context = .ok c) →
      StoppedBetweenCodes w a t.context c := by
    intro offset info hdata hend
    unfold StoppedBetweenCodes
    rw [hdata]
    exact undoCodes_stops w _ _ _ t.context c (Nat.le_refl _) (slotsAt_inBytes _ _ _) hend
  cases h with
  | arguments hdata =>
    unfold StoppedBetweenCodes
    rw [hdata]
  | loop hdata hend => exact hwalk hdata (.inl hend)
  | pop hdata hend _ => exact hwalk hdata (.inr hend)

theorem undone_rip (w : World) (f : Loop) (c : Context) (code : Code) :
    (undone w f c code).rip = c.rip := by
  cases code with
  | setFpreg =>
    unfold undone
    cases unwindRegister f.frameRegister <;> rfl
  | _ => rfl

theorem StoppedBetweenCodes.rip (h : StoppedBetweenCodes w a c c') : c'.rip = c.rip := by
  unfold StoppedBetweenCodes at h
  split at h
  · rw [h]
  · obtain ⟨done, -, rfl⟩ := h
    generalize loopOf w _ _ c = f
    induction done generalizing c with
    | nil => rfl
    | cons code rest ih => exact ih.trans (undone_rip w f c code)

/-- A call that fails has written nothing but general registers of the context, and those as
far as it had undone whole codes. -/
theorem a_failed_unwind_stops_between_codes (h : Counted w a t d) :
    (platformRtlVirtualUnwind w a t d).1.handlerData = t.handlerData ∧
    (platformRtlVirtualUnwind w a t d).1.establisherFrame = t.establisherFrame ∧
    (platformRtlVirtualUnwind w a t d).1.context.rip = t.context.rip ∧
    StoppedBetweenCodes w a t.context (platformRtlVirtualUnwind w a t d).1.context := by
  rcases call_cases w a t d with ⟨-, hcount⟩ | ⟨c, hstop, hresult, -⟩
  · exact absurd hcount h
  · rw [hresult]
    exact ⟨rfl, rfl, hstop.betweenCodes.rip, hstop.betweenCodes⟩

/-! ## A function with a frame pointer -/

/-- Unwind data of `push rbp; sub rsp, 16; mov rbp, rsp; mov [rbp + 8], rbx` at 0x402000, and
a stack on which RBX was 7, RBP 9 and the return address 0x401234. -/
def frameMemory : Memory := fun p =>
  match p.toNat with
  | 0x402000 => 1
  | 0x402001 => 12
  | 0x402002 => 5
  | 0x402003 => 5
  | 0x402004 => 12
  | 0x402005 => 0x34
  | 0x402006 => 1
  | 0x402008 => 8
  | 0x402009 => 3
  | 0x40200A => 5
  | 0x40200B => 0x12
  | 0x40200C => 1
  | 0x40200D => 0x50
  | 0x108028 => 7
  | 0x108030 => 9
  | 0x108038 => 0x34
  | 0x108039 => 0x12
  | 0x10803A => 0x40
  | _ => 0

def frameWorld : World :=
  { managedImageBase := 0x400000, managedImageSize := 0x4000, stackLower := 0x100000
    stackUpper := 0x110000, memory := frameMemory }

def frameArguments : Arguments :=
  { imageBase := 0x400000, controlPc := 0x401040, functionEntry := 0x403000
    function := ⟨0x1000, 0x1100, 0x2000⟩, contextRecord := 0x101000 }

/-- In the body RSP is 32 bytes below the frame, as after a call of `alloca`. -/
def frameContext : Context :=
  { gpr := fun r =>
      match r with
      | .rsp => 0x108000
      | .rbp => 0x108020
      | _ => 0
    rip := 0x401040 }

/-- In the body of the function RSP may be where the prologue left it. -/
def steadyContext : Context := frameContext.setGpr .rsp 0x108020

instance (frame : Option (Reg × Nat)) (code : Code) : Decidable (Plain frame code) :=
  inferInstanceAs (Decidable (_ ∧ _))

/-- The stack ends below the return address. -/
def cutWorld : World := { frameWorld with stackUpper := 0x108038 }

theorem a_failed_unwind_leaves_registers_changed :
    ¬ LeavesAlone cutWorld frameArguments ⟨steadyContext, none, some 0⟩ {} := by
  intro h
  have hcount : Counted cutWorld frameArguments ⟨steadyContext, none, some 0⟩ {} := by
    unfold Counted
    decide +kernel
  have hrbx : (platformRtlVirtualUnwind cutWorld frameArguments
      ⟨steadyContext, none, some 0⟩ {}).1.context.gpr .rbx = 7 := by decide +kernel
  rw [h hcount] at hrbx
  have hbefore : steadyContext.gpr .rbx = 0 := by decide
  rw [show (Target.context ⟨steadyContext, none, some 0⟩).gpr .rbx = 0 from hbefore] at hrbx
  cases hrbx

theorem a_cut_stack_stops_between_codes :
    (platformRtlVirtualUnwind cutWorld frameArguments
      ⟨steadyContext, none, some 0⟩ {}).1.context.rip = steadyContext.rip :=
  (a_failed_unwind_stops_between_codes (w := cutWorld) (a := frameArguments)
    (t := ⟨steadyContext, none, some 0⟩) (d := {}) (by unfold Counted; decide +kernel)).2.2.1

end Gate4Harness.Unwind
