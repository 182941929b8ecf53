-- What the vectored handlers may change of an interrupted program (exception_context.c and
-- gxos_exception_dispatch of the loader). The registers of the trap frame are copied out to a
-- context record, the handlers change it, and it is checked and copied back. The registry with
-- its callbacks is a parameter, and null pointers and the serial output are left out.
import Gate4Harness.ExceptionEntry

open Amd64

namespace Gate4Harness.ExceptionContext

open ExceptionEntry

abbrev Word := BitVec 64

def continueSearch : Int := 0
def continueExecution : Int := -1
def contextFlagsBounded : BitVec 32 := 0x00100003
def allowedRflagsMask : Word := 0xDD5
def uintptrMax : Word := 0xFFFFFFFFFFFFFFFF

/-! ## The context record -/

/-- `GXOS_CONTEXT_COMPAT`, with the homes and the debug registers in their order. -/
structure ContextCompat where
  home : Fin 6 → Word := fun _ => 0
  contextFlags : BitVec 32 := 0
  mxcsr : BitVec 32 := 0
  segCs : BitVec 16 := 0
  segDs : BitVec 16 := 0
  segEs : BitVec 16 := 0
  segFs : BitVec 16 := 0
  segGs : BitVec 16 := 0
  segSs : BitVec 16 := 0
  eflags : BitVec 32 := 0
  debug : Fin 6 → Word := fun _ => 0
  gpr : Reg → Word := fun _ => 0
  rip : Word := 0

/-- The fields of `GXOS_EXCEPTION_RECORD_COMPAT` that are not 0. -/
structure ExceptionRecord where
  exceptionCode : BitVec 32
  exceptionAddress : Word
  deriving DecidableEq, Repr

structure ValidationBounds where
  stackLower : Word
  stackUpper : Word
  executableLower : Word
  executableUpper : Word
  deriving DecidableEq, Repr

inductive Validation
  | ok
  | noncanonicalRip
  | unapprovedRip
  | noncanonicalRsp
  | unsafeRsp
  | forbiddenRflags
  | badBounds
  deriving DecidableEq, Repr

/-- All sixteen registers are copied out. -/
def fillExceptionContext (trap : TrapFrame) (context : ContextCompat) : ContextCompat :=
  { context with
    contextFlags := contextFlagsBounded
    segCs := trap.cs.setWidth 16
    segSs := trap.ss.setWidth 16
    eflags := trap.rflags.setWidth 32
    gpr := trap.gpr
    rip := trap.rip }

def isCanonical (address : Word) : Bool :=
  decide (address ≤ 0x00007FFFFFFFFFFF#64) || decide (address ≥ 0xFFFF800000000000#64)

/-- `gxos_exception_validate_context_modifications` -/
def validateContextModifications (trap : TrapFrame) (context : ContextCompat)
    (bounds : ValidationBounds) : Validation :=
  if bounds.stackLower ≥ bounds.stackUpper ∨ bounds.executableLower ≥ bounds.executableUpper then
    .badBounds
  else if ¬ isCanonical context.rip then .noncanonicalRip
  else if context.rip < bounds.executableLower ∨ context.rip ≥ bounds.executableUpper then
    .unapprovedRip
  else if ¬ isCanonical (context.gpr .rsp) then .noncanonicalRsp
  else if context.gpr .rsp < bounds.stackLower ∨ context.gpr .rsp ≥ bounds.stackUpper then
    .unsafeRsp
  else if (trap.rflags ^^^ context.eflags.setWidth 64) &&& ~~~allowedRflagsMask ≠ 0 then
    .forbiddenRflags
  else .ok

/-- `gxos_exception_apply_context_modifications`, which copies three of the registers back. -/
def applyContextModifications (trap : TrapFrame) (context : ContextCompat) : TrapFrame :=
  { trap with
    gpr := fun r =>
      match r with
      | .rcx => context.gpr .rcx
      | .rdx => context.gpr .rdx
      | .rsp => context.gpr .rsp
      | other => trap.gpr other
    rip := context.rip
    rflags := (trap.rflags &&& ~~~allowedRflagsMask) |||
      (context.eflags.setWidth 64 &&& allowedRflagsMask) }

/-! ## The dispatch -/

/-- What the dispatcher reads of the loader: the probe, its code and the stack. -/
structure Setting where
  probeInt3 : Word
  probeLanding : Word
  code : Word → BitVec 8
  stackLower : Word
  stackUpper : Word

inductive RipSemantics
  | afterInt3
  | atInt3
  deriving DecidableEq, Repr

def translateVectorCode (vector : Word) : BitVec 32 := if vector = 3 then 0x80000003 else 0

def translateBreakpointRip (capturedRip int3Address : Word) (byteBeforeRip byteAtRip : BitVec 8) :
    Option (Word × RipSemantics) :=
  if int3Address = 0 then none
  else if capturedRip = int3Address + 1 ∧ byteBeforeRip = 0xCC then
    some (capturedRip - 1, .afterInt3)
  else if capturedRip = int3Address ∧ byteAtRip = 0xCC then some (capturedRip, .atInt3)
  else none

def breakpointExceptionAddress (setting : Setting) (trap : TrapFrame) :
    Option (Word × RipSemantics) :=
  if trap.vector ≠ 3 ∨ setting.probeInt3 = 0 ∨ setting.probeInt3 = uintptrMax then none
  else
    let byteBefore := if trap.rip = setting.probeInt3 + 1 then setting.code (trap.rip - 1) else 0
    let byteAt :=
      if trap.rip = setting.probeInt3 + 1 then 0
      else if trap.rip = setting.probeInt3 then setting.code trap.rip
      else 0
    translateBreakpointRip trap.rip setting.probeInt3 byteBefore byteAt

/-- `gxos_veh_dispatch` with its callbacks, as far as the dispatcher sees it: it is rejected, or
it tells whether a callback continued the execution and leaves a context. -/
abbrev Handlers : Type := ExceptionRecord → ContextCompat → Option (Bool × ContextCompat)

def Setting.bounds (setting : Setting) : ValidationBounds where
  stackLower := setting.stackLower
  stackUpper := setting.stackUpper
  executableLower := setting.probeInt3
  executableUpper := setting.probeLanding + 32

structure Dispatched where
  result : Int
  trap : TrapFrame
  dispatchActive : BitVec 32

/-- `gxos_exception_dispatch`, in a build with vectored handlers. -/
def exceptionDispatch (setting : Setting) (handlers : Handlers) (trap : TrapFrame)
    (dispatchActive : BitVec 32) : Dispatched :=
  let search : Dispatched := { result := continueSearch, trap, dispatchActive }
  if trap.vector ≠ 3 then search
  else
    match breakpointExceptionAddress setting trap with
    | none => search
    | some (exceptionAddress, _) =>
      match handlers { exceptionCode := translateVectorCode trap.vector, exceptionAddress }
          (fillExceptionContext trap {}) with
      | none => search
      | some (false, _) => search
      | some (true, context) =>
        if validateContextModifications trap context setting.bounds ≠ .ok then search
        else
          { result := continueExecution, trap := applyContextModifications trap context
            dispatchActive := 0 }

/-! ## What is honoured -/

variable {setting : Setting} {handlers : Handlers} {trap : TrapFrame} {active : BitVec 32}
  {context : ContextCompat} {bounds : ValidationBounds}

/-- The handlers continue the breakpoint with this context. -/
def LeftBy (setting : Setting) (handlers : Handlers) (trap : TrapFrame) (context : ContextCompat) :
    Prop :=
  ∃ address semantics, breakpointExceptionAddress setting trap = some (address, semantics) ∧
    handlers ⟨translateVectorCode trap.vector, address⟩ (fillExceptionContext trap {}) =
      some (true, context)

/-- Fields that stand for no register that may change are as they were filled in. -/
structure SameFields (context context' : ContextCompat) : Prop where
  home : context.home = context'.home
  contextFlags : context.contextFlags = context'.contextFlags
  mxcsr : context.mxcsr = context'.mxcsr
  segments : context.segCs = context'.segCs ∧ context.segDs = context'.segDs ∧
    context.segEs = context'.segEs ∧ context.segFs = context'.segFs ∧
    context.segGs = context'.segGs ∧ context.segSs = context'.segSs
  debug : context.debug = context'.debug

/-- The places that the validation approves. -/
structure InBounds (bounds : ValidationBounds) (rip rsp : Word) : Prop where
  canonicalRip : isCanonical rip = true
  rip : bounds.executableLower ≤ rip ∧ rip < bounds.executableUpper
  canonicalRsp : isCanonical rsp = true
  rsp : bounds.stackLower ≤ rsp ∧ rsp < bounds.stackUpper

/-- The trap frame takes the registers of the context, and keeps all the rest. -/
structure Takes (trap trap' : TrapFrame) (context : ContextCompat) : Prop where
  gpr : trap'.gpr = context.gpr
  rip : trap'.rip = context.rip
  rflags : trap'.rflags &&& allowedRflagsMask = context.eflags.setWidth 64 &&& allowedRflagsMask
  otherFlags : trap'.rflags &&& ~~~allowedRflagsMask = trap.rflags &&& ~~~allowedRflagsMask
  rest : trap' = { trap with gpr := trap'.gpr, rip := trap'.rip, rflags := trap'.rflags }

/-- The handlers' context is honoured as a whole: it changes nothing but registers and allowed
flags, and these are what the interrupted program continues with. -/
structure Honoured (trap trap' : TrapFrame) (bounds : ValidationBounds) (context : ContextCompat) :
    Prop where
  takes : Takes trap trap' context
  inBounds : InBounds bounds trap'.rip (trap'.gpr .rsp)
  flags : (trap.rflags ^^^ context.eflags.setWidth 64) &&& ~~~allowedRflagsMask = 0
  others : SameFields context (fillExceptionContext trap {})

/-- The context of the handlers is honoured, or the fault goes on with the trap frame as it was;
and a context that nobody changes changes nothing. -/
structure HonouredOrRefused (setting : Setting) (handlers : Handlers) (trap : TrapFrame)
    (active : BitVec 32) : Prop where
  answer : ((exceptionDispatch setting handlers trap active).result = continueExecution ∧
      ∃ context, LeftBy setting handlers trap context ∧
        Honoured trap (exceptionDispatch setting handlers trap active).trap setting.bounds
          context) ∨
    ((exceptionDispatch setting handlers trap active).result = continueSearch ∧
      (exceptionDispatch setting handlers trap active).trap = trap)
  unchanged : applyContextModifications trap (fillExceptionContext trap {}) = trap

/-- The registers that are not copied back, and the other fields, are as they were filled in. -/
structure KeepsOthers (trap : TrapFrame) (context : ContextCompat) : Prop where
  gpr : ∀ r, r ≠ .rcx → r ≠ .rdx → r ≠ .rsp → context.gpr r = trap.gpr r
  others : SameFields context (fillExceptionContext trap {})

theorem and_not_or_and (a m : Word) : (a &&& ~~~m) ||| (a &&& m) = a := by
  ext i hi
  simp only [BitVec.getElem_or, BitVec.getElem_and, BitVec.getElem_not]
  cases a[i] <;> cases m[i] <;> rfl

theorem and_or_not_and (a b m : Word) : ((a &&& ~~~m) ||| (b &&& m)) &&& m = b &&& m := by
  ext i hi
  simp only [BitVec.getElem_or, BitVec.getElem_and, BitVec.getElem_not]
  cases a[i] <;> cases b[i] <;> cases m[i] <;> rfl

theorem and_or_not_and_not (a b m : Word) :
    ((a &&& ~~~m) ||| (b &&& m)) &&& ~~~m = a &&& ~~~m := by
  ext i hi
  simp only [BitVec.getElem_or, BitVec.getElem_and, BitVec.getElem_not]
  cases a[i] <;> cases b[i] <;> cases m[i] <;> rfl

/-- All allowed flags are in the lower half. -/
theorem allowedRflagsMask_high {i : Nat} (h : 32 ≤ i) : allowedRflagsMask.getLsbD i = false := by
  have hsmall : allowedRflagsMask.toNat < 2 ^ 32 := by decide
  exact Nat.testBit_lt_two_pow (Nat.lt_of_lt_of_le hsmall (Nat.pow_le_pow_right (by decide) h))

theorem setWidth_and_mask (a : Word) :
    (a.setWidth 32).setWidth 64 &&& allowedRflagsMask = a &&& allowedRflagsMask := by
  apply BitVec.eq_of_getLsbD_eq
  intro i hi
  rw [BitVec.getLsbD_and, BitVec.getLsbD_and]
  by_cases hlow : i < 32
  · simp [hlow, hi]
  · rw [allowedRflagsMask_high (by omega), Bool.and_false, Bool.and_false]

theorem apply_gpr_self (h : ∀ r, r ≠ .rcx → r ≠ .rdx → r ≠ .rsp → context.gpr r = trap.gpr r) :
    (applyContextModifications trap context).gpr = context.gpr := by
  funext r
  cases r <;> first | rfl | exact (h _ (by decide) (by decide) (by decide)).symm

theorem applyContextModifications_fill (trap : TrapFrame) :
    applyContextModifications trap (fillExceptionContext trap {}) = trap := by
  have hgpr : (applyContextModifications trap (fillExceptionContext trap {})).gpr =
      (fillExceptionContext trap {}).gpr := apply_gpr_self fun _ _ _ _ => rfl
  have hrflags : (trap.rflags &&& ~~~allowedRflagsMask) |||
      ((trap.rflags.setWidth 32).setWidth 64 &&& allowedRflagsMask) = trap.rflags := by
    rw [setWidth_and_mask, and_not_or_and]
  unfold applyContextModifications at hgpr ⊢
  dsimp only [fillExceptionContext] at hgpr ⊢
  rw [hgpr, hrflags]

theorem validate_ok (h : validateContextModifications trap context bounds = .ok) :
    InBounds bounds context.rip (context.gpr .rsp) ∧
    (trap.rflags ^^^ context.eflags.setWidth 64) &&& ~~~allowedRflagsMask = 0 := by
  unfold validateContextModifications at h
  split at h
  · cases h
  · split at h
    · cases h
    · rename_i hrip
      split at h
      · cases h
      · rename_i hexecutable
        split at h
        · cases h
        · rename_i hrsp
          split at h
          · cases h
          · rename_i hstack
            split at h
            · cases h
            · rename_i hflags
              simp only [not_or, ge_iff_le, BitVec.not_lt, BitVec.not_le] at hexecutable hstack
              exact ⟨⟨Decidable.not_not.mp hrip, hexecutable, Decidable.not_not.mp hrsp, hstack⟩,
                Decidable.not_not.mp hflags⟩

/-- A continued dispatch applies the context that the handlers left; any other one leaves the
trap frame alone. -/
theorem exceptionDispatch_cases (setting : Setting) (handlers : Handlers) (trap : TrapFrame)
    (active : BitVec 32) :
    (∃ context, LeftBy setting handlers trap context ∧
      validateContextModifications trap context setting.bounds = .ok ∧
      exceptionDispatch setting handlers trap active =
        ⟨continueExecution, applyContextModifications trap context, 0⟩) ∨
    ((∀ context, LeftBy setting handlers trap context →
        validateContextModifications trap context setting.bounds ≠ .ok) ∧
      exceptionDispatch setting handlers trap active = ⟨continueSearch, trap, active⟩) := by
  unfold exceptionDispatch
  by_cases hvector : trap.vector ≠ 3
  · right
    refine ⟨?_, if_pos hvector⟩
    rintro context ⟨address, semantics, haddress, -⟩
    unfold breakpointExceptionAddress at haddress
    rw [if_pos (Or.inl hvector)] at haddress
    cases haddress
  · rw [if_neg hvector]
    cases haddress : breakpointExceptionAddress setting trap with
    | none =>
      right
      refine ⟨?_, rfl⟩
      rintro context ⟨address, semantics, hsome, -⟩
      rw [haddress] at hsome
      cases hsome
    | some found =>
      obtain ⟨address, semantics⟩ := found
      dsimp only
      have hleft : ∀ context, LeftBy setting handlers trap context →
          handlers ⟨translateVectorCode trap.vector, address⟩ (fillExceptionContext trap {}) =
            some (true, context) := by
        rintro context ⟨address', semantics', hsome, hhandlers⟩
        rw [haddress] at hsome
        cases hsome
        exact hhandlers
      cases hhandlers : handlers ⟨translateVectorCode trap.vector, address⟩
          (fillExceptionContext trap {}) with
      | none =>
        right
        refine ⟨fun context h => ?_, rfl⟩
        rw [hleft context h] at hhandlers
        cases hhandlers
      | some left =>
        obtain ⟨continued, context⟩ := left
        cases continued with
        | false =>
          right
          refine ⟨fun context' h => ?_, rfl⟩
          rw [hleft context' h] at hhandlers
          cases hhandlers
        | true =>
          dsimp only
          by_cases hvalid : validateContextModifications trap context setting.bounds = .ok
          · left
            exact ⟨context, ⟨address, semantics, haddress, hhandlers⟩, hvalid,
              if_neg (not_not_intro hvalid)⟩
          · right
            refine ⟨fun context' h => ?_, if_pos hvalid⟩
            have hsame := hleft context' h
            rw [hhandlers] at hsame
            cases hsame
            exact hvalid

theorem honoured_of_valid (hvalid : validateContextModifications trap context bounds = .ok)
    (hkeeps : KeepsOthers trap context) :
    Honoured trap (applyContextModifications trap context) bounds context := by
  obtain ⟨hbounds, hflags⟩ := validate_ok hvalid
  exact
    { takes :=
        { gpr := apply_gpr_self hkeeps.gpr
          rip := rfl
          rflags := and_or_not_and _ _ _
          otherFlags := and_or_not_and_not _ _ _
          rest := rfl }
      inBounds := hbounds
      flags := hflags
      others := hkeeps.others }

theorem Honoured.keepsOthers
    (h : Honoured trap (applyContextModifications trap context) bounds context) :
    KeepsOthers trap context := by
  refine ⟨fun r hrcx hrdx hrsp => ?_, h.others⟩
  have hgpr := congrFun h.takes.gpr r
  rw [← hgpr]
  cases r <;> first | rfl | exact absurd rfl hrcx | exact absurd rfl hrdx | exact absurd rfl hrsp

/-- The handlers leave one context at most. -/
theorem LeftBy.unique {context' : ContextCompat} (h : LeftBy setting handlers trap context)
    (h' : LeftBy setting handlers trap context') : context = context' := by
  obtain ⟨address, semantics, hsome, hhandlers⟩ := h
  obtain ⟨address', semantics', hsome', hhandlers'⟩ := h'
  rw [hsome] at hsome'
  cases hsome'
  rw [hhandlers] at hhandlers'
  cases hhandlers'
  rfl

/-- The handlers' context is honoured or refused if and only if no context that they continue
with and that passes the validation has a change in another register than RCX, RDX and RSP, or
in a field that stands for no register. -/
theorem contexts_are_honoured_or_refused_iff (setting : Setting) (handlers : Handlers)
    (trap : TrapFrame) (active : BitVec 32) :
    HonouredOrRefused setting handlers trap active ↔
      ∀ context, LeftBy setting handlers trap context →
        validateContextModifications trap context setting.bounds = .ok →
        KeepsOthers trap context := by
  rcases exceptionDispatch_cases setting handlers trap active with
    ⟨context, hleft, hvalid, hdispatch⟩ | ⟨hnone, hdispatch⟩
  · constructor
    · rintro ⟨⟨-, context', hleft', hhonoured⟩ | ⟨hsearch, -⟩, -⟩ context'' hleft'' -
      · obtain rfl := hleft.unique hleft'
        obtain rfl := hleft.unique hleft''
        rw [hdispatch] at hhonoured
        exact hhonoured.keepsOthers
      · rw [hdispatch] at hsearch
        cases hsearch
    · intro h
      refine ⟨Or.inl ⟨by rw [hdispatch], context, hleft, ?_⟩, applyContextModifications_fill trap⟩
      rw [hdispatch]
      exact honoured_of_valid hvalid (h context hleft hvalid)
  · refine iff_of_true ⟨Or.inr ?_, applyContextModifications_fill trap⟩ ?_
    · rw [hdispatch]
      exact ⟨rfl, rfl⟩
    · intro context hleft hvalid
      exact absurd hvalid (hnone context hleft)

/-! ## A handler that sets RAX -/

/-- A breakpoint at 0x400100, with the stack from 0x100000 to 0x200000. -/
def probeSetting : Setting where
  probeInt3 := 0x400100
  probeLanding := 0x400110
  code := fun _ => 0xCC
  stackLower := 0x100000
  stackUpper := 0x200000

def probeTrap : TrapFrame where
  vector := 3
  errorCode := 0
  entryFlags := 10
  gpr := fun r => if r = .rsp then 0x100100 else 0
  rip := 0x400101
  cs := 0x38
  rflags := 0x202
  ss := 0x30
  cr2 := 0
  rawFrame := 0x1000F0

/-- The handler sets RAX to 1 and continues the execution. -/
def setRax : Handlers := fun _ context =>
  some (true, { context with gpr := Function.update context.gpr .rax 1 })

/-- The execution continues, and RAX has its old value. -/
theorem rax_of_the_handler_is_lost :
    (exceptionDispatch probeSetting setRax probeTrap 1).result = continueExecution ∧
    (exceptionDispatch probeSetting setRax probeTrap 1).trap.gpr .rax = 0 ∧
    ¬ HonouredOrRefused probeSetting setRax probeTrap 1 := by
  have hresult : (exceptionDispatch probeSetting setRax probeTrap 1).result =
      continueExecution := by decide
  have hrax : (exceptionDispatch probeSetting setRax probeTrap 1).trap.gpr .rax = 0 := by decide
  refine ⟨hresult, hrax, ?_⟩
  rintro ⟨⟨-, context, ⟨address, semantics, haddress, hhandlers⟩, hhonoured⟩ | ⟨hsearch, -⟩, -⟩
  · cases hhandlers
    have hone := congrFun hhonoured.takes.gpr .rax
    rw [hrax] at hone
    exact absurd hone (by decide)
  · rw [hresult] at hsearch
    exact absurd hsearch (by decide)

end Gate4Harness.ExceptionContext
