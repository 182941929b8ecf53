-- What the bytes of a buffer are after a write. A write that stays inside is a function of the
-- buffer, and a word is read back from the place it was put, or from a place apart.
import Gate4Harness.Buffers

namespace Buffers

namespace Outcome

variable {α β γ : Type} {x : Outcome α} {test : α → Bool}

/-! ## Programs -/

theorem bind_bind (x : Outcome α) (f : α → Outcome β) (g : β → Outcome γ) :
    (x >>= f >>= g) = (x >>= fun a => f a >>= g) := by
  cases x <;> rfl

theorem bind_eq_bind {f g : α → Outcome β} (h : ∀ a, f a = g a) : (x >>= f) = (x >>= g) := by
  rw [funext h]

/-- A program that has given a value has stayed inside and passed its checks. -/
theorem Ends.of_value {inside passes : Prop} {post : α → Prop} {a : α}
    (h : Ends inside passes post x) (hx : x = Outcome.ok a) : inside ∧ passes ∧ post a := by
  have hin : inside := h.inside_iff.mp (by rw [hx]; trivial)
  have hpass : passes := by
    by_contra hno
    exact h.stopped hno a hx
  obtain ⟨a', ha', hpost⟩ := h.passed hin hpass
  rw [hx] at ha'
  cases ha'
  exact ⟨hin, hpass, hpost⟩

theorem eq_outside (h : ¬ x.Inside) : x = outside := by
  cases x with
  | outside => rfl
  | ok _ | failed _ | unfinished => exact absurd trivial h

/-- The program has come to a value or to a message. -/
def Settled : Outcome α → Prop
  | ok _ | failed _ => True
  | unfinished | outside => False

theorem Settled.inside (h : x.Settled) : x.Inside := by
  cases x with
  | ok _ | failed _ => trivial
  | unfinished | outside => exact h.elim

theorem Settled.finished (h : x.Settled) : x ≠ unfinished := by
  rintro rfl
  exact h

theorem Settled.bind {f : α → Outcome β} (h : x.Settled) (hf : ∀ a, x = ok a → (f a).Settled) :
    (x >>= f).Settled := by
  cases x with
  | ok a => exact hf a rfl
  | failed _ => trivial
  | unfinished | outside => exact h.elim

theorem Settled.bind_ok (h : x.Settled) (g : α → β) : (x >>= fun a => ok (g a)).Settled :=
  h.bind fun _ _ => trivial

theorem Settled.failIf (condition : Prop) [Decidable condition] (message : String) :
    (failIf condition message).Settled := by
  unfold Outcome.failIf
  split <;> trivial

/-- The program gives a value, and it passes the test. -/
def gives (test : α → Bool) : Outcome α → Bool
  | ok a => test a
  | _ => false

theorem exists_of_gives (h : gives test x = true) : ∃ a, x = ok a ∧ test a = true := by
  cases x with
  | ok a => exact ⟨a, rfl, h⟩
  | failed _ | unfinished | outside => cases h

end Outcome

open Outcome

namespace Buffer

variable {b src dst : Buffer} {p q n i value : Nat}

/-! ## A range of bytes -/

/-- The buffer with `n` bytes from `p` on replaced. -/
def setRange (b : Buffer) (p n : Nat) (f : Nat → UInt8) : Buffer :=
  { b with byte := fun i => if p ≤ i ∧ i < p + n then f (i - p) else b.byte i }

@[simp] theorem size_setRange (f : Nat → UInt8) : (b.setRange p n f).size = b.size := rfl

theorem byte_setRange_in {f : Nat → UInt8} (h : i < n) : (b.setRange p n f).byte (p + i) = f i := by
  have hin : p ≤ p + i ∧ p + i < p + n := by omega
  rw [setRange]
  dsimp only
  rw [if_pos hin, Nat.add_sub_cancel_left]

theorem byte_setRange_out {f : Nat → UInt8} (h : i < p ∨ p + n ≤ i) :
    (b.setRange p n f).byte i = b.byte i := by
  have hout : ¬ (p ≤ i ∧ i < p + n) := by omega
  rw [setRange]
  dsimp only
  rw [if_neg hout]

theorem setRange_succ (b : Buffer) (p n : Nat) (f : Nat → UInt8) :
    ({ b with byte := Function.update b.byte p (f 0) } : Buffer).setRange (p + 1) n
      (fun i => f (i + 1)) = b.setRange p (n + 1) f := by
  unfold setRange
  congr 1
  funext i
  dsimp only
  by_cases hi : p + 1 ≤ i ∧ i < p + 1 + n
  · rw [if_pos hi, if_pos (by omega), show i - (p + 1) + 1 = i - p by omega]
  · rw [if_neg hi]
    by_cases hp : i = p
    · rw [if_pos (by omega), hp, Function.update_self, Nat.sub_self]
    · rw [if_neg (by omega), Function.update_of_ne hp]

theorem setRange_zero (b : Buffer) (p : Nat) (f : Nat → UInt8) : b.setRange p 0 f = b := by
  unfold setRange
  congr 1
  funext i
  exact if_neg (by omega)

theorem write_ok (b : Buffer) (p : Nat) (values : List UInt8) (h : p + values.length ≤ b.size) :
    b.write p values = ok (b.setRange p values.length fun i => values.getD i 0) := by
  induction values generalizing b p with
  | nil => rw [write, List.length_nil, setRange_zero]
  | cons v rest ih =>
    rw [List.length_cons] at h
    rw [write, set, if_pos (by omega), ok_bind, ih _ _ (by dsimp only; omega), List.length_cons,
      ← setRange_succ]
    rfl

theorem copy_ok (src dst : Buffer) (p q n : Nat) (hp : p + n ≤ src.size) (hq : q + n ≤ dst.size) :
    src.copy dst p q n = ok (dst.setRange q n fun i => src.byte (p + i)) := by
  induction n generalizing dst p q with
  | zero => rw [copy, setRange_zero]
  | succ n ih =>
    rw [copy, get_ok (by omega), ok_bind, set, if_pos (by omega), ok_bind,
      ih _ _ _ (by omega) (by dsimp only; omega), ← setRange_succ dst q n,
      UInt8.ofNat_toNat]
    simp only [Nat.add_right_comm p 1, Nat.add_assoc, Nat.add_zero]

/-- A copy that does not fit ends outside. -/
theorem copy_outside (src dst : Buffer) (p q n : Nat) (hn : 0 < n) (h : dst.size < q + n) :
    src.copy dst p q n = outside := by
  refine eq_outside ?_
  rw [(copy_ends src dst p q n).inside_iff]
  omega

/-- So does a write. -/
theorem write_outside (b : Buffer) (p : Nat) (values : List UInt8) (hn : 0 < values.length)
    (h : b.size < p + values.length) : b.write p values = outside := by
  refine eq_outside ?_
  rw [(write_ends b p values).inside_iff]
  rintro (hnil | hle)
  · rw [hnil] at hn
    exact absurd hn (Nat.lt_irrefl 0)
  · omega

/-! ## Words -/

/-- The buffer with a word of 64 bits put in. -/
def putU64 (b : Buffer) (p value : Nat) : Buffer :=
  b.setRange p 8 fun i => (bytesOf value 8).getD i 0

@[simp] theorem size_putU64 : (b.putU64 p value).size = b.size := rfl

theorem write_bytesOf (h : p + 8 ≤ b.size) :
    b.write p (bytesOf value 8) = ok (b.putU64 p value) :=
  write_ok b p (bytesOf value 8) h

theorem u16_congr {b' : Buffer} (h : ∀ i < 2, b.byte (p + i) = b'.byte (p + i)) :
    b.u16 p = b'.u16 p := by
  have h0 := h 0 (by omega)
  have h1 := h 1 (by omega)
  rw [Nat.add_zero] at h0
  rw [u16, u16, h0, h1]

theorem u32_congr {b' : Buffer} (h : ∀ i < 4, b.byte (p + i) = b'.byte (p + i)) :
    b.u32 p = b'.u32 p := by
  have hlow : b.u16 p = b'.u16 p := u16_congr fun i hi => h i (by omega)
  have hhigh : b.u16 (p + 2) = b'.u16 (p + 2) := u16_congr fun i hi => by
    rw [Nat.add_assoc]
    exact h (2 + i) (by omega)
  rw [u32, u32, hlow, hhigh]

theorem u64_congr {b' : Buffer} (h : ∀ i < 8, b.byte (p + i) = b'.byte (p + i)) :
    b.u64 p = b'.u64 p := by
  have hlow : b.u32 p = b'.u32 p := u32_congr fun i hi => h i (by omega)
  have hhigh : b.u32 (p + 4) = b'.u32 (p + 4) := u32_congr fun i hi => by
    rw [Nat.add_assoc]
    exact h (4 + i) (by omega)
  rw [u64, u64, hlow, hhigh]

theorem u64_setRange_out {f : Nat → UInt8} (h : q + 8 ≤ p ∨ p + n ≤ q) :
    (b.setRange p n f).u64 q = b.u64 q :=
  u64_congr fun i hi => byte_setRange_out (by omega)

theorem u64_putU64 (b : Buffer) (p value : Nat) : (b.putU64 p value).u64 p = value % 2 ^ 64 := by
  have hbyte : ∀ i < 8, (b.putU64 p value).byte (p + i) = (bytesOf value 8).getD i 0 :=
    fun i hi => byte_setRange_in hi
  have h0 := hbyte 0 (by omega)
  have h1 := hbyte 1 (by omega)
  have h2 := hbyte 2 (by omega)
  have h3 := hbyte 3 (by omega)
  have h4 := hbyte 4 (by omega)
  have h5 := hbyte 5 (by omega)
  have h6 := hbyte 6 (by omega)
  have h7 := hbyte 7 (by omega)
  simp only [Nat.add_zero] at h0
  simp only [u64, u32, u16, Nat.add_assoc, Nat.reduceAdd, h0, h1, h2, h3, h4, h5, h6, h7]
  simp only [bytesOf, List.getD_cons_zero, List.getD_cons_succ, UInt8.toNat_ofNat']
  omega

theorem u64_putU64_apart (h : q + 8 ≤ p ∨ p + 8 ≤ q) : (b.putU64 p value).u64 q = b.u64 q :=
  u64_setRange_out h

theorem u16_lt (b : Buffer) (p : Nat) : b.u16 p < 2 ^ 16 := by
  have h0 := (b.byte p).toNat_lt
  have h1 := (b.byte (p + 1)).toNat_lt
  simp only [u16]
  omega

theorem u32_lt (b : Buffer) (p : Nat) : b.u32 p < 2 ^ 32 := by
  have h0 := u16_lt b p
  have h1 := u16_lt b (p + 2)
  simp only [u32]
  omega

theorem u64_lt (b : Buffer) (p : Nat) : b.u64 p < 2 ^ 64 := by
  have h0 := u32_lt b p
  have h1 := u32_lt b (p + 4)
  simp only [u64]
  omega

end Buffer

end Buffers
