-- Programs that read and write buffers of bytes. Such a program ends with a value, stops with
-- a message, is not done when its fuel runs out, or touches a byte that is in no buffer. The
-- rules below break the last case down to the accesses of the program.
import Mathlib.Algebra.GroupWithZero.Nat
import Mathlib.Logic.Function.Basic
import Mathlib.Tactic.Common

namespace Buffers

/-! ## Outcomes -/

inductive Outcome (α : Type) where
  | ok (value : α)
  | failed (message : String)
  | unfinished
  | outside
  deriving Repr

namespace Outcome

variable {α β : Type} {x : Outcome α} {f : α → Outcome β} {a : α}

def bind (x : Outcome α) (f : α → Outcome β) : Outcome β :=
  match x with
  | ok a => f a
  | failed message => failed message
  | unfinished => unfinished
  | outside => outside

instance : Monad Outcome where
  pure := ok
  bind := bind

/-- No byte outside of the buffers was touched. -/
def Inside : Outcome α → Prop
  | outside => False
  | _ => True

instance (x : Outcome α) : Decidable x.Inside :=
  match x with
  | ok _ | failed _ | unfinished => inferInstanceAs (Decidable True)
  | outside => inferInstanceAs (Decidable False)

/-- `if (condition) fail(message)`. -/
def failIf (condition : Prop) [Decidable condition] (message : String) : Outcome Unit :=
  if condition then failed message else ok ()

@[simp] theorem pure_eq (a : α) : (pure a : Outcome α) = ok a := rfl

@[simp] theorem ok_bind (a : α) (f : α → Outcome β) : (ok a >>= f) = f a := rfl

@[simp] theorem failed_bind (message : String) (f : α → Outcome β) :
    (failed message >>= f) = failed message := rfl

@[simp] theorem unfinished_bind (f : α → Outcome β) : (unfinished >>= f) = unfinished := rfl

@[simp] theorem outside_bind (f : α → Outcome β) : (outside >>= f) = outside := rfl

@[simp] theorem ok_inside (a : α) : (ok a).Inside := trivial

@[simp] theorem failed_inside (message : String) : (failed message : Outcome α).Inside := trivial

@[simp] theorem unfinished_inside : (unfinished : Outcome α).Inside := trivial

@[simp] theorem not_outside_inside : ¬ (outside : Outcome α).Inside := id

/-- A program stays inside exactly if its first part does and the rest does after it. -/
theorem bind_inside : (x >>= f).Inside ↔ x.Inside ∧ ∀ a, x = ok a → (f a).Inside := by
  cases x <;> simp

theorem bind_eq_ok {b : β} : (x >>= f) = ok b ↔ ∃ a, x = ok a ∧ f a = ok b := by
  cases x <;> simp

/-- A check goes on exactly if its condition is false. -/
theorem failIf_bind {condition : Prop} [Decidable condition] {message : String}
    {f : Unit → Outcome β} :
    (failIf condition message >>= f) = if condition then failed message else f () := by
  unfold failIf
  split <;> rfl

theorem failIf_bind_inside {condition : Prop} [Decidable condition] {message : String}
    {f : Unit → Outcome β} :
    (failIf condition message >>= f).Inside ↔ (¬ condition → (f ()).Inside) := by
  rw [failIf_bind]
  split
  · simp [*]
  · simp [*]

theorem failIf_bind_eq_ok {condition : Prop} [Decidable condition] {message : String}
    {f : Unit → Outcome β} {b : β} :
    (failIf condition message >>= f) = ok b ↔ ¬ condition ∧ f () = ok b := by
  rw [failIf_bind]
  split <;> simp [*]

/-! ### How a program ends -/

/-- The program stays inside exactly if `inside` holds. Then it gives a value of `post` if it
`passes` its checks, and none if it does not. -/
structure Ends (inside passes : Prop) (post : α → Prop) (x : Outcome α) : Prop where
  inside_iff : x.Inside ↔ inside
  passed : inside → passes → ∃ a, x = ok a ∧ post a
  stopped : ¬ passes → ∀ a, x ≠ ok a

section Ends

variable {inside inside' passes passes' condition : Prop} {post : α → Prop} {post' : β → Prop}

theorem Ends.ok (h : post a) : Ends True True post (ok a) :=
  ⟨by simp, fun _ _ => ⟨a, rfl, h⟩, fun h => absurd trivial h⟩

theorem Ends.failed (message : String) : Ends True False post (failed message) :=
  ⟨by simp, fun _ h => h.elim, nofun⟩

theorem Ends.outside : Ends False passes post outside :=
  ⟨by simp, fun h => h.elim, nofun⟩

theorem Ends.failIf [Decidable condition] (message : String) :
    Ends True (¬ condition) (fun _ => True) (failIf condition message) := by
  unfold Outcome.failIf
  split
  · next h => exact ⟨by simp, fun _ hn => absurd h hn, fun _ => nofun⟩
  · next h => exact ⟨by simp, fun _ _ => ⟨(), rfl, trivial⟩, fun hn => absurd h hn⟩

theorem Ends.congr (h : Ends inside passes post x) (hi : inside ↔ inside')
    (hp : passes ↔ passes') : Ends inside' passes' post x where
  inside_iff := h.inside_iff.trans hi
  passed hi' hp' := h.passed (hi.mpr hi') (hp.mpr hp')
  stopped hn := h.stopped fun hpass => hn (hp.mp hpass)

theorem Ends.weaken {post' : α → Prop} (h : Ends inside passes post x)
    (hp : ∀ a, post a → post' a) : Ends inside passes post' x where
  inside_iff := h.inside_iff
  passed := by
    intro hi hpass
    obtain ⟨a, ha, hpost⟩ := h.passed hi hpass
    exact ⟨a, ha, hp a hpost⟩
  stopped := h.stopped

/-- A family of programs that begin alike goes on from the values of the first part. -/
theorem Ends.forall_bind_inside {ι : Type} [Nonempty ι] {f : ι → α → Outcome β}
    (h : Ends inside passes post x)
    (hf : passes → ∀ a, post a → ((∀ i, (f i a).Inside) ↔ inside')) :
    (∀ i, (x >>= f i).Inside) ↔ inside ∧ (passes → inside') := by
  simp only [Outcome.bind_inside, h.inside_iff, forall_and, forall_const]
  refine and_congr_right fun hi => ?_
  constructor
  · intro hrest hpass
    obtain ⟨a, ha, hpost⟩ := h.passed hi hpass
    exact (hf hpass a hpost).mp fun i => hrest i a ha
  · intro hrest i a ha
    have hpass : passes := by
      by_contra hn
      exact h.stopped hn a ha
    obtain ⟨a', ha', hpost⟩ := h.passed hi hpass
    rw [ha'] at ha
    cases ha
    exact (hf hpass a hpost).mpr (hrest hpass) i

theorem Ends.bind_inside (h : Ends inside passes post x)
    (hf : passes → ∀ a, post a → ((f a).Inside ↔ inside')) :
    (x >>= f).Inside ↔ inside ∧ (passes → inside') := by
  have hunit := h.forall_bind_inside (ι := Unit) (f := fun _ => f) fun hpass a hpost =>
    (forall_const Unit).trans (hf hpass a hpost)
  exact (forall_const Unit).symm.trans hunit

theorem Ends.bind (h : Ends inside passes post x)
    (hf : passes → ∀ a, post a → Ends inside' passes' post' (f a)) :
    Ends (inside ∧ (passes → inside')) (passes ∧ passes') post' (x >>= f) where
  inside_iff := h.bind_inside fun hpass a hpost => (hf hpass a hpost).inside_iff
  passed := by
    rintro ⟨hi, hi'⟩ ⟨hpass, hpass'⟩
    obtain ⟨a, ha, hpost⟩ := h.passed hi hpass
    obtain ⟨b, hb, hpost'⟩ := (hf hpass a hpost).passed (hi' hpass) hpass'
    exact ⟨b, by rw [ha, ok_bind, hb], hpost'⟩
  stopped := by
    intro hn b hb
    obtain ⟨a, ha, hb⟩ := bind_eq_ok.mp hb
    have hpass : passes := by
      by_contra hno
      exact h.stopped hno a ha
    have hi : inside := h.inside_iff.mp (by rw [ha]; trivial)
    obtain ⟨a', ha', hpost⟩ := h.passed hi hpass
    rw [ha'] at ha
    cases ha
    exact (hf hpass a hpost).stopped (fun hpass' => hn ⟨hpass, hpass'⟩) b hb

/-- A program that begins with a check. -/
theorem Ends.failIf_bind [Decidable condition] {message : String} {f : Unit → Outcome β}
    (hf : ¬ condition → Ends inside' passes' post' (f ())) :
    Ends (¬ condition → inside') (¬ condition ∧ passes') post'
      (Outcome.failIf condition message >>= f) :=
  ((Ends.failIf message).bind fun hn _ _ => hf hn).congr (by simp) Iff.rfl

end Ends

end Outcome

open Outcome

/-! ## Buffers -/

/-- The bytes of a buffer. Those beyond its size are in no buffer. -/
structure Buffer where
  size : Nat
  byte : Nat → UInt8

namespace Buffer

variable {b src dst : Buffer} {p q n : Nat}

def get (b : Buffer) (p : Nat) : Outcome Nat := if p < b.size then ok (b.byte p).toNat else outside

def set (b : Buffer) (p : Nat) (value : UInt8) : Outcome Buffer :=
  if p < b.size then ok { b with byte := Function.update b.byte p value } else outside

/-! ### Words, the lowest byte first -/

def readU16 (b : Buffer) (p : Nat) : Outcome Nat := do
  let low ← b.get p
  let high ← b.get (p + 1)
  return low + 2 ^ 8 * high

def readU32 (b : Buffer) (p : Nat) : Outcome Nat := do
  let low ← b.readU16 p
  let high ← b.readU16 (p + 2)
  return low + 2 ^ 16 * high

def readU64 (b : Buffer) (p : Nat) : Outcome Nat := do
  let low ← b.readU32 p
  let high ← b.readU32 (p + 4)
  return low + 2 ^ 32 * high

/-- The word that stands at `p`, whether or not the buffer goes that far. -/
def u16 (b : Buffer) (p : Nat) : Nat := (b.byte p).toNat + 2 ^ 8 * (b.byte (p + 1)).toNat

def u32 (b : Buffer) (p : Nat) : Nat := b.u16 p + 2 ^ 16 * b.u16 (p + 2)

def u64 (b : Buffer) (p : Nat) : Nat := b.u32 p + 2 ^ 32 * b.u32 (p + 4)

theorem get_eq (b : Buffer) (p : Nat) :
    b.get p = if p + 1 ≤ b.size then ok (b.byte p).toNat else outside := rfl

/-- Two reads after one another are one read of both. -/
theorem read_twice {α : Type} {m k : Nat} (x y : Nat) (f : Nat → Nat → α) (hm : 0 < k) :
    ((if p + m ≤ n then ok x else outside) >>= fun low =>
      (if p + m + k ≤ n then ok y else outside) >>= fun high => ok (f low high)) =
      if p + m + k ≤ n then ok (f x y) else outside := by
  by_cases h : p + m ≤ n
  · rw [if_pos h, ok_bind]
    split <;> rfl
  · rw [if_neg h, outside_bind, if_neg (by omega)]

theorem readU16_eq (b : Buffer) (p : Nat) :
    b.readU16 p = if p + 2 ≤ b.size then ok (b.u16 p) else outside := by
  unfold readU16
  rw [get_eq, get_eq]
  exact read_twice _ _ (fun low high => low + 2 ^ 8 * high) Nat.one_pos

theorem readU32_eq (b : Buffer) (p : Nat) :
    b.readU32 p = if p + 4 ≤ b.size then ok (b.u32 p) else outside := by
  unfold readU32
  rw [readU16_eq, readU16_eq]
  exact read_twice _ _ (fun low high => low + 2 ^ 16 * high) Nat.two_pos

theorem readU64_eq (b : Buffer) (p : Nat) :
    b.readU64 p = if p + 8 ≤ b.size then ok (b.u64 p) else outside := by
  unfold readU64
  rw [readU32_eq, readU32_eq]
  exact read_twice _ _ (fun low high => low + 2 ^ 32 * high) (by omega)

section Reads

variable {β : Type} {f : Nat → Outcome β} {r : β}

/-- A program that begins with a read. -/
theorem read_bind {m x : Nat} : ((if p + m ≤ n then ok x else outside) >>= f) =
    if p + m ≤ n then f x else outside := by
  split <;> rfl

theorem get_bind_inside :
    (b.get p >>= f).Inside ↔ p + 1 ≤ b.size ∧ (f (b.byte p).toNat).Inside := by
  rw [get_eq, read_bind]
  split <;> simp [*]

theorem readU16_bind_inside :
    (b.readU16 p >>= f).Inside ↔ p + 2 ≤ b.size ∧ (f (b.u16 p)).Inside := by
  rw [readU16_eq, read_bind]
  split <;> simp [*]

theorem readU32_bind_inside :
    (b.readU32 p >>= f).Inside ↔ p + 4 ≤ b.size ∧ (f (b.u32 p)).Inside := by
  rw [readU32_eq, read_bind]
  split <;> simp [*]

theorem readU64_bind_inside :
    (b.readU64 p >>= f).Inside ↔ p + 8 ≤ b.size ∧ (f (b.u64 p)).Inside := by
  rw [readU64_eq, read_bind]
  split <;> simp [*]

theorem get_bind_eq_ok :
    (b.get p >>= f) = ok r ↔ p + 1 ≤ b.size ∧ f (b.byte p).toNat = ok r := by
  rw [get_eq, read_bind]
  split <;> simp [*]

theorem readU16_bind_eq_ok : (b.readU16 p >>= f) = ok r ↔ p + 2 ≤ b.size ∧ f (b.u16 p) = ok r := by
  rw [readU16_eq, read_bind]
  split <;> simp [*]

theorem readU32_bind_eq_ok : (b.readU32 p >>= f) = ok r ↔ p + 4 ≤ b.size ∧ f (b.u32 p) = ok r := by
  rw [readU32_eq, read_bind]
  split <;> simp [*]

theorem readU64_bind_eq_ok : (b.readU64 p >>= f) = ok r ↔ p + 8 ≤ b.size ∧ f (b.u64 p) = ok r := by
  rw [readU64_eq, read_bind]
  split <;> simp [*]

end Reads

theorem readU16_ok (h : p + 2 ≤ b.size) : b.readU16 p = ok (b.u16 p) := by
  rw [readU16_eq, if_pos h]

theorem readU32_ok (h : p + 4 ≤ b.size) : b.readU32 p = ok (b.u32 p) := by
  rw [readU32_eq, if_pos h]

theorem get_ok (h : p < b.size) : b.get p = ok (b.byte p).toNat := if_pos h

/-! ### Blocks of bytes -/

def write (b : Buffer) (p : Nat) : List UInt8 → Outcome Buffer
  | [] => ok b
  | value :: rest => do
    let b ← b.set p value
    b.write (p + 1) rest

/-- The `n` bytes from `p` on in one buffer go to `q` in another. -/
def copy (src dst : Buffer) (p q : Nat) : Nat → Outcome Buffer
  | 0 => ok dst
  | n + 1 => do
    let value ← src.get p
    let dst ← dst.set q (UInt8.ofNat value)
    src.copy dst (p + 1) (q + 1) n

/-- The `n` lowest bytes of a value, the lowest first. -/
def bytesOf (value : Nat) : Nat → List UInt8
  | 0 => []
  | n + 1 => UInt8.ofNat value :: bytesOf (value / 2 ^ 8) n

@[simp] theorem length_bytesOf (value n : Nat) : (bytesOf value n).length = n := by
  induction n generalizing value with
  | zero => rfl
  | succ n ih => simp [bytesOf, ih]

theorem set_ends (b : Buffer) (p : Nat) (value : UInt8) :
    Ends (p < b.size) True (fun b' => b'.size = b.size) (b.set p value) := by
  unfold set
  split
  · next h => exact Ends.congr (Ends.ok rfl) (by simp [h]) Iff.rfl
  · next h => exact Ends.congr Ends.outside (by simp [h]) Iff.rfl

theorem write_ends (b : Buffer) (p : Nat) (values : List UInt8) :
    Ends (values = [] ∨ p + values.length ≤ b.size) True (fun b' => b'.size = b.size)
      (b.write p values) := by
  induction values generalizing b p with
  | nil => exact Ends.congr (Ends.ok rfl) (by simp) Iff.rfl
  | cons value rest ih =>
    have hrest : ∀ b' : Buffer, b'.size = b.size →
        Ends (rest = [] ∨ p + 1 + rest.length ≤ b.size) True (fun c => c.size = b.size)
          (b'.write (p + 1) rest) := by
      intro b' hb'
      rw [← hb']
      exact ih b' (p + 1)
    refine Ends.congr ((set_ends b p value).bind fun _ b' hb' => hrest b' hb') ?_ (by simp)
    rw [List.length_cons]
    cases rest with
    | nil =>
      simp only [List.length_nil, Nat.add_zero, true_or, imp_self, and_true, List.cons_ne_self,
        Nat.zero_add, false_or]
      omega
    | cons _ _ =>
      simp only [reduceCtorEq, List.length_cons, false_or, forall_const]
      omega

theorem copy_ends (src dst : Buffer) (p q n : Nat) :
    Ends (n = 0 ∨ (p + n ≤ src.size ∧ q + n ≤ dst.size)) True (fun dst' => dst'.size = dst.size)
      (src.copy dst p q n) := by
  induction n generalizing dst p q with
  | zero => exact Ends.congr (Ends.ok rfl) (by simp) Iff.rfl
  | succ n ih =>
    rw [copy, get_eq]
    split
    · have hrest : ∀ dst' : Buffer, dst'.size = dst.size →
          Ends (n = 0 ∨ (p + 1 + n ≤ src.size ∧ q + 1 + n ≤ dst.size)) True
            (fun c => c.size = dst.size) (src.copy dst' (p + 1) (q + 1) n) := by
        intro dst' hdst'
        rw [← hdst']
        exact ih dst' (p + 1) (q + 1)
      refine Ends.congr ((set_ends dst q _).bind fun _ dst' h => hrest dst' h) ?_ (by simp)
      simp only [true_imp_iff]
      omega
    · exact Ends.congr Ends.outside (iff_of_false id (by omega)) Iff.rfl

end Buffer

end Buffers
