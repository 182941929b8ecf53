-- A memory of bytes under 64-bit addresses, read and written in words of any number of bytes.
-- Addresses wrap around. What a word reads as depends on its bytes only, so a store leaves
-- every word that it shares no byte with.
import Mathlib.Algebra.GroupWithZero.Nat
import Mathlib.Data.List.Nodup
import Mathlib.Logic.Function.Basic
import Mathlib.Tactic.Common

namespace ByteMemory

abbrev Addr := BitVec 64

abbrev Memory := Addr → BitVec 8

/-- The address `d` bytes up from `a`. -/
def up (a : Addr) (d : Nat) : Addr := a + BitVec.ofNat 64 d

/-- The `n` bytes from `a` on, the byte at `a` lowest. -/
def readBytes (m : Memory) (a : Addr) : (n : Nat) → BitVec (8 * n)
  | 0 => 0#0
  | n + 1 => readBytes m (a + 1) n ++ m a

/-- The word of `w` bits at `a`. -/
def read (m : Memory) (a : Addr) (w : Nat) : BitVec w := (readBytes m a (w / 8)).setWidth w

def write (m : Memory) (a : Addr) {w : Nat} (v : BitVec w) : Memory := fun p =>
  if (p - a).toNat < w / 8 then v.extractLsb' (8 * (p - a).toNat) 8 else m p

/-- The `n` bytes at `a` and the `k` bytes at `b` have no byte in common. -/
def Apart (a : Addr) (n : Nat) (b : Addr) (k : Nat) : Prop :=
  ∀ i < n, ∀ j < k, up a i ≠ up b j

/-- The bytes from `lo` up to `hi`, counted from `g`, are the same in both memories. -/
def SameBytes (m m' : Memory) (g : Addr) (lo hi : Nat) : Prop :=
  ∀ d, lo ≤ d → d < hi → m' (up g d) = m (up g d)

/-- The two memories differ at most in the `n` bytes from `a` on. -/
def Within (m m' : Memory) (a : Addr) (n : Nat) : Prop := ∀ p, n ≤ (p - a).toNat → m' p = m p

variable {m m' m'' : Memory} {a b g : Addr} {i j k n lo hi w w' : Nat}

/-! ## Addresses -/

@[simp] theorem up_zero (a : Addr) : up a 0 = a := by simp [up]

@[simp] theorem up_up (a : Addr) (i j : Nat) : up (up a i) j = up a (i + j) := by
  simp only [up, BitVec.add_assoc, BitVec.ofNat_add]

@[simp] theorem up_sub (a : Addr) (h : j ≤ i) : up a i - BitVec.ofNat 64 j = up a (i - j) := by
  obtain ⟨k, rfl⟩ := Nat.exists_eq_add_of_le h
  rw [Nat.add_sub_cancel_left]
  simp only [up, BitVec.ofNat_add, BitVec.add_comm (BitVec.ofNat 64 j), ← BitVec.add_assoc,
    BitVec.add_sub_cancel]

theorem up_sub_self (a : Addr) (d : Nat) : up (a - BitVec.ofNat 64 d) d = a := by
  simp only [up, BitVec.sub_add_cancel]

theorem up_distance (a p : Addr) : up a (p - a).toNat = p := by
  simp only [up, BitVec.ofNat_toNat, BitVec.setWidth_eq, BitVec.add_comm a,
    BitVec.sub_add_cancel]

theorem distance_up (a : Addr) (h : i < 2 ^ 64) : (up a i - a).toNat = i := by
  simp only [up, BitVec.add_comm a, BitVec.add_sub_cancel, BitVec.toNat_ofNat]
  exact Nat.mod_eq_of_lt h

theorem up_inj (a : Addr) (hi : i < 2 ^ 64) (hj : j < 2 ^ 64) : up a i = up a j ↔ i = j := by
  constructor
  · intro h
    rw [← distance_up a hi, ← distance_up a hj, h]
  · intro h
    rw [h]

/-! ## Ranges of bytes -/

theorem Apart.symm (h : Apart a n b k) : Apart b k a n :=
  fun j hj i hi heq => h i hi j hj heq.symm

theorem Apart.mono {n' k' : Nat} (h : Apart a n b k) (hn : n' ≤ n) (hk : k' ≤ k) :
    Apart a n' b k' :=
  fun i hi j hj => h i (by omega) j (by omega)

/-- A part of the second range that begins further up. -/
theorem Apart.above {n' k' : Nat} (h : Apart a n b k) (j : Nat) (hn : n' ≤ n)
    (hj : j + k' ≤ k) : Apart a n' (up b j) k' := by
  intro x hx y hy heq
  rw [up_up] at heq
  exact h x (by omega) (j + y) (by omega) heq

theorem Apart.part {n' k' : Nat} (h : Apart a n b k) (hi : i + n' ≤ n) (hj : j + k' ≤ k) :
    Apart (up a i) n' (up b j) k' := by
  intro x hx y hy heq
  rw [up_up, up_up] at heq
  exact h (i + x) (by omega) (j + y) (by omega) heq

/-- Two ranges counted from one address are apart when their offsets are. -/
theorem apart_up (h : i + n ≤ j ∨ j + k ≤ i) (hi : i + n ≤ 2 ^ 64) (hj : j + k ≤ 2 ^ 64) :
    Apart (up a i) n (up a j) k := by
  intro x hx y hy heq
  rw [up_up, up_up, up_inj a (by omega) (by omega)] at heq
  omega

theorem apart_above (a : Addr) (h : n ≤ j) (hj : j + k ≤ 2 ^ 64) : Apart a n (up a j) k := by
  have happart : Apart (up a 0) n (up a j) k := apart_up (by omega) (by omega) hj
  rwa [up_zero] at happart

theorem SameBytes.refl (m : Memory) (g : Addr) (lo hi : Nat) : SameBytes m m g lo hi :=
  fun _ _ _ => rfl

theorem SameBytes.trans (h : SameBytes m m' g lo hi) (h' : SameBytes m' m'' g lo hi) :
    SameBytes m m'' g lo hi :=
  fun d hlo hhi => (h' d hlo hhi).trans (h d hlo hhi)

theorem SameBytes.part {lo' hi' : Nat} (h : SameBytes m m' g lo hi) (hlo : lo ≤ lo')
    (hhi : hi' ≤ hi) : SameBytes m m' g lo' hi' :=
  fun d hd hd' => h d (by omega) (by omega)

/-- The same bytes, counted from an address `k` bytes further up. -/
theorem SameBytes.rebase (h : SameBytes m m' g (k + lo) (k + hi)) :
    SameBytes m m' (up g k) lo hi := by
  intro d hd hd'
  rw [up_up]
  exact h (k + d) (by omega) (by omega)

theorem SameBytes.unbase (h : SameBytes m m' (up g k) lo hi) :
    SameBytes m m' g (k + lo) (k + hi) := by
  intro d hd hd'
  obtain ⟨e, rfl⟩ := Nat.exists_eq_add_of_le (Nat.le_trans (Nat.le_add_right k lo) hd)
  rw [← up_up]
  exact h e (by omega) (by omega)

theorem Within.refl (m : Memory) (a : Addr) (n : Nat) : Within m m a n := fun _ _ => rfl

theorem Within.trans (h : Within m m' a n) (h' : Within m' m'' a n) : Within m m'' a n :=
  fun p hp => (h' p hp).trans (h p hp)

/-- A change leaves the bytes of every range that is apart from where it is. -/
theorem Within.sameBytes (h : Within m m' a n) (hapart : Apart a n (up b lo) (hi - lo)) :
    SameBytes m m' b lo hi := by
  intro d hlo hhi
  refine h _ (Nat.le_of_not_lt fun hin => hapart _ hin (d - lo) (by omega) ?_)
  rw [up_distance, up_up, Nat.add_sub_cancel' hlo]

/-! ## Reading and writing -/

theorem getLsbD_readBytes (m : Memory) (a : Addr) (n i : Nat) (h : i < 8 * n) :
    (readBytes m a n).getLsbD i = (m (up a (i / 8))).getLsbD (i % 8) := by
  induction n generalizing a i with
  | zero => omega
  | succ n ih =>
    rw [readBytes, BitVec.getLsbD_append]
    split
    · rename_i hlow
      rw [Nat.div_eq_of_lt hlow, Nat.mod_eq_of_lt hlow, up_zero]
    · rename_i hhigh
      rw [ih (a + 1) (i - 8) (by omega)]
      have hstep : up (a + 1) ((i - 8) / 8) = up a (i / 8) := by
        rw [show i / 8 = 1 + (i - 8) / 8 by omega, ← up_up]
        rfl
      rw [hstep, show (i - 8) % 8 = i % 8 by omega]

theorem getLsbD_read (m : Memory) (a : Addr) (h : i < 8 * (w / 8)) :
    (read m a w).getLsbD i = (m (up a (i / 8))).getLsbD (i % 8) := by
  rw [read, BitVec.getLsbD_setWidth, getLsbD_readBytes m a _ i h,
    decide_eq_true (by omega : i < w), Bool.true_and]

/-- A word reads the same in two memories that have the same bytes for it. -/
theorem read_congr (hw : w % 8 = 0) (h : ∀ i < w / 8, m' (up a i) = m (up a i)) :
    read m' a w = read m a w := by
  apply BitVec.eq_of_getLsbD_eq
  intro i hi
  rw [getLsbD_read m' a (by omega), getLsbD_read m a (by omega), h (i / 8) (by omega)]

theorem SameBytes.read (h : SameBytes m m' g lo hi) (hlo : lo ≤ i) (hhi : i + w / 8 ≤ hi)
    (hw : w % 8 = 0) : read m' (up g i) w = read m (up g i) w := by
  refine read_congr hw fun d hd => ?_
  rw [up_up]
  exact h (i + d) (by omega) (by omega)

@[simp] theorem read_write_same (m : Memory) (a : Addr) (v : BitVec w) (hw : w % 8 = 0)
    (hfit : w / 8 ≤ 2 ^ 64) : read (write m a v) a w = v := by
  apply BitVec.eq_of_getLsbD_eq
  intro i hi
  have hdistance : (up a (i / 8) - a).toNat = i / 8 := distance_up a (by omega)
  rw [getLsbD_read _ a (by omega), write, hdistance, if_pos (by omega),
    BitVec.getLsbD_extractLsb', decide_eq_true (by omega : i % 8 < 8), Bool.true_and,
    Nat.div_add_mod]

theorem within_write (m : Memory) (a : Addr) (v : BitVec w) (h : i + w / 8 ≤ n)
    (hn : n ≤ 2 ^ 64) : Within m (write m (up a i) v) a n := by
  intro p hp
  rw [write, if_neg]
  intro hin
  have hup := up_distance (up a i) p
  rw [up_up] at hup
  rw [← hup, distance_up a (by omega)] at hp
  omega

theorem within_write_self (m : Memory) (a : Addr) (v : BitVec w) (h : w / 8 ≤ n)
    (hn : n ≤ 2 ^ 64) : Within m (write m a v) a n := by
  have hwrite : Within m (write m (up a 0) v) a n := within_write m a v (by omega) hn
  rwa [up_zero] at hwrite

theorem read_write_apart (m : Memory) (v : BitVec w) (hw : w' % 8 = 0)
    (h : Apart a (w / 8) b (w' / 8)) : read (write m a v) b w' = read m b w' := by
  refine read_congr hw fun i hi => ?_
  rw [write, if_neg]
  intro hin
  exact h _ hin i hi (up_distance a (up b i))

/-- A store at another offset leaves a word that is counted from the same address. -/
@[simp] theorem read_write_up (m : Memory) (g : Addr) (v : BitVec w) (hw : w' % 8 = 0)
    (h : i + w / 8 ≤ j ∨ j + w' / 8 ≤ i) (hi : i + w / 8 ≤ 2 ^ 64) (hj : j + w' / 8 ≤ 2 ^ 64) :
    read (write m (up g i) v) (up g j) w' = read m (up g j) w' :=
  read_write_apart m v hw (apart_up h hi hj)

/-! ## Lists of words

Code that saves many registers stores one word after the other. As long as no two of these
words have a byte in common, each of them is in memory at the end. -/

/-- A word and the offset that it is stored at. -/
structure Word where
  offset : Nat
  width : Nat
  value : BitVec width

namespace Word

/-- The same word, with its offset counted from `k` bytes further down. -/
def shift (k : Nat) (x : Word) : Word := { x with offset := k + x.offset }

/-- The word is made of whole bytes between `lo` and `hi`. -/
def Within (lo hi : Nat) (x : Word) : Prop :=
  x.width % 8 = 0 ∧ lo ≤ x.offset ∧ x.offset + x.width / 8 ≤ hi

/-- Neither word has a byte of the other. -/
def Clear (x y : Word) : Prop :=
  x.offset + x.width / 8 ≤ y.offset ∨ y.offset + y.width / 8 ≤ x.offset

end Word

/-- Words that are clear of each other, all between `lo` and `hi`. -/
structure Laid (lo hi : Nat) (words : List Word) : Prop where
  within : ∀ x ∈ words, x.Within lo hi
  clear : words.Pairwise Word.Clear

def storeWords (m : Memory) (a : Addr) (words : List Word) : Memory :=
  words.foldl (fun m x => write m (up a x.offset) x.value) m

/-- Each word of the list is in memory, its offset counted from `a`. -/
def Holds (m : Memory) (a : Addr) (words : List Word) : Prop :=
  ∀ x ∈ words, read m (up a x.offset) x.width = x.value

variable {words rest : List Word} {x y : Word}

theorem laid_cons : Laid lo hi (x :: rest) ↔
    x.Within lo hi ∧ (∀ y ∈ rest, x.Clear y) ∧ Laid lo hi rest := by
  constructor
  · rintro ⟨hin, hclear⟩
    obtain ⟨hx, hrest⟩ := List.pairwise_cons.mp hclear
    exact ⟨hin x List.mem_cons_self, hx, fun y hy => hin y (List.mem_cons_of_mem x hy), hrest⟩
  · rintro ⟨hx, hclear, hin, hrest⟩
    exact ⟨List.forall_mem_cons.mpr ⟨hx, hin⟩, List.pairwise_cons.mpr ⟨hclear, hrest⟩⟩

@[simp] theorem storeWords_nil (m : Memory) (a : Addr) : storeWords m a [] = m := rfl

@[simp] theorem storeWords_cons (m : Memory) (a : Addr) (x : Word) (rest : List Word) :
    storeWords m a (x :: rest) = storeWords (write m (up a x.offset) x.value) a rest := rfl

@[simp] theorem storeWords_append (m : Memory) (a : Addr) (ws ws' : List Word) :
    storeWords m a (ws ++ ws') = storeWords (storeWords m a ws) a ws' := List.foldl_append ..

@[simp] theorem storeWords_shift (m : Memory) (a : Addr) (k : Nat) (ws : List Word) :
    storeWords m a (ws.map (Word.shift k)) = storeWords m (up a k) ws := by
  induction ws generalizing m with
  | nil => rfl
  | cons x rest ih =>
    rw [List.map_cons, storeWords_cons, storeWords_cons, ih, up_up]
    rfl

theorem within_storeWords (m : Memory) (a : Addr) (h : Laid lo hi words)
    (hhi : hi ≤ n) (hn : n ≤ 2 ^ 64) : Within m (storeWords m a words) a n := by
  induction words generalizing m with
  | nil => exact Within.refl m a n
  | cons x rest ih =>
    obtain ⟨hx, -, hrest⟩ := laid_cons.mp h
    obtain ⟨-, -, hend⟩ := hx
    exact (within_write m a x.value (by omega) hn).trans (ih _ hrest)

theorem sameBytes_storeWords (m : Memory) (a : Addr)
    (hclear : ∀ x ∈ words, x.offset + x.width / 8 ≤ lo ∨ hi ≤ x.offset)
    (hfit : ∀ x ∈ words, x.offset + x.width / 8 ≤ 2 ^ 64) (hlo : lo ≤ hi) (hhi : hi ≤ 2 ^ 64) :
    SameBytes m (storeWords m a words) a lo hi := by
  induction words generalizing m with
  | nil => exact SameBytes.refl m a lo hi
  | cons x rest ih =>
    rw [List.forall_mem_cons] at hclear hfit
    have hx : SameBytes m (write m (up a x.offset) x.value) a lo hi :=
      (within_write_self m _ _ (Nat.le_refl _) (by omega)).sameBytes
        (apart_up (by omega) hfit.1 (by omega))
    exact hx.trans (ih _ hclear.2 hfit.2)

/-- Storing words leaves a word that is clear of all of them. -/
theorem read_storeWords (m : Memory) (a : Addr)
    (hclear : ∀ x ∈ words, x.offset + x.width / 8 ≤ j ∨ j + w / 8 ≤ x.offset)
    (hhi : ∀ x ∈ words, x.offset + x.width / 8 ≤ 2 ^ 64) (hw : w % 8 = 0)
    (hj : j + w / 8 ≤ 2 ^ 64) : read (storeWords m a words) (up a j) w = read m (up a j) w := by
  induction words generalizing m with
  | nil => rfl
  | cons x rest ih =>
    rw [List.forall_mem_cons] at hclear hhi
    exact (ih _ hclear.2 hhi.2).trans (read_write_up m a x.value hw hclear.1 hhi.1 hj)

/-- Storing words leaves what lies below and above all of them. -/
theorem read_storeWords_up (m : Memory) (g : Addr) (k : Nat) (h : Laid lo hi words)
    (hout : k + hi ≤ j ∨ j + w / 8 ≤ k + lo) (hw : w % 8 = 0) (hhi : k + hi ≤ 2 ^ 64)
    (hj : j + w / 8 ≤ 2 ^ 64) :
    read (storeWords m (up g k) words) (up g j) w = read m (up g j) w := by
  rw [← storeWords_shift]
  refine read_storeWords m g (List.forall_mem_map.mpr ?_) (List.forall_mem_map.mpr ?_) hw hj
  · intro x hx
    obtain ⟨-, hlo, hend⟩ := h.within x hx
    simp only [Word.shift]
    omega
  · intro x hx
    obtain ⟨-, -, hend⟩ := h.within x hx
    simp only [Word.shift]
    omega

/-- After a list of words was stored, memory has each of them. -/
theorem holds_storeWords (m : Memory) (a : Addr) (h : Laid lo hi words) (hhi : hi ≤ 2 ^ 64) :
    Holds (storeWords m a words) a words := by
  induction words generalizing m with
  | nil => exact fun _ hx => nomatch hx
  | cons x rest ih =>
    obtain ⟨⟨hwidth, -, hend⟩, hclear, hrest⟩ := laid_cons.mp h
    refine List.forall_mem_cons.mpr ⟨?_, ih _ hrest⟩
    refine (read_storeWords _ a (fun y hy => (hclear y hy).symm) (fun y hy => ?_) hwidth
      (by omega)).trans (read_write_same m _ _ hwidth (by omega))
    exact Nat.le_trans (hrest.within y hy).2.2 hhi

/-- Words stay where their bytes stay. -/
theorem Holds.keep (h : Holds m a words) (hsame : SameBytes m m' a lo hi)
    (hin : ∀ x ∈ words, x.Within lo hi) : Holds m' a words := by
  intro x hx
  obtain ⟨hwidth, hlo, hhi⟩ := hin x hx
  rw [hsame.read hlo hhi hwidth, h x hx]

theorem holds_cons :
    Holds m a (x :: rest) ↔ read m (up a x.offset) x.width = x.value ∧ Holds m a rest :=
  List.forall_mem_cons

theorem holds_append {ws ws' : List Word} :
    Holds m a (ws ++ ws') ↔ Holds m a ws ∧ Holds m a ws' := by
  simp only [Holds, List.mem_append, or_imp, forall_and]

theorem holds_shift {ws : List Word} :
    Holds m a (ws.map (Word.shift k)) ↔ Holds m (up a k) ws := by
  simp only [Holds, List.forall_mem_map, Word.shift, up_up]

/-! ## Tables of places to load -/

variable {ι : Type*}

/-- Put each value of a list in its place in `f`. -/
def setAll {α : Type*} [DecidableEq ι] (f : ι → α) (values : List (ι × α)) : ι → α :=
  values.foldl (fun f e => Function.update f e.1 e.2) f

/-- Load each entry of the table into its place in `f`. -/
def readAll [DecidableEq ι] (m : Memory) (a : Addr) (f : ι → BitVec w)
    (slots : List (ι × Nat)) : ι → BitVec w :=
  setAll f (slots.map fun e => (e.1, read m (up a e.2) w))

theorem setAll_of_notMem {α : Type*} [DecidableEq ι] (f : ι → α) {values : List (ι × α)} {x : ι}
    (h : x ∉ values.map Prod.fst) : setAll f values x = f x := by
  induction values generalizing f with
  | nil => rfl
  | cons e rest ih =>
    rw [List.map_cons, List.mem_cons, not_or] at h
    exact (ih _ h.2).trans (Function.update_of_ne h.1 _ _)

theorem setAll_mem {α : Type*} [DecidableEq ι] (f : ι → α) {values : List (ι × α)}
    (hnodup : (values.map Prod.fst).Nodup) {e : ι × α} (he : e ∈ values) :
    setAll f values e.1 = e.2 := by
  induction values generalizing f with
  | nil => cases he
  | cons x rest ih =>
    rw [List.map_cons, List.nodup_cons] at hnodup
    rcases List.mem_cons.mp he with rfl | he
    · exact (setAll_of_notMem _ hnodup.1).trans (Function.update_self ..)
    · exact ih _ hnodup.2 he

theorem map_fst_reads (m : Memory) (a : Addr) (slots : List (ι × Nat)) :
    (slots.map fun e => (e.1, read m (up a e.2) w)).map Prod.fst = slots.map Prod.fst := by
  rw [List.map_map]
  rfl

theorem readAll_of_notMem [DecidableEq ι] (m : Memory) (a : Addr) (f : ι → BitVec w)
    (slots : List (ι × Nat)) {x : ι} (h : x ∉ slots.map Prod.fst) :
    readAll m a f slots x = f x :=
  setAll_of_notMem f (by rwa [map_fst_reads])

theorem readAll_mem [DecidableEq ι] (m : Memory) (a : Addr) (f : ι → BitVec w)
    {slots : List (ι × Nat)} (hnodup : (slots.map Prod.fst).Nodup) {e : ι × Nat}
    (he : e ∈ slots) : readAll m a f slots e.1 = read m (up a e.2) w :=
  setAll_mem (e := (e.1, read m (up a e.2) w)) f (by rwa [map_fst_reads])
    (List.mem_map_of_mem (f := fun e => (e.1, read m (up a e.2) w)) he)

end ByteMemory
