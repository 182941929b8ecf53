-- The string functions of the C runtime (crt_strlen.c, crt_stricmp.c, crt_strcmp.c). The first
-- two read each byte only after they have found it in a region of the image. What they answer
-- is the length of a text and the order of the texts, with or without its case.
import Gate4Harness.PeImage
import Mathlib.Algebra.GroupWithZero.Nat

namespace Gate4Harness.CrtStrings

open PeImage (MemoryRegion uintptrMax)

/-! ## The functions -/

abbrev Memory := Nat → UInt8

/-- `GXOS_READABLE_IMAGE` -/
structure ReadableImage where
  imageBase : Nat
  imageEnd : Nat
  relocationsApplied : Bool
  memoryRegions : List MemoryRegion

def maxMemoryRegions : Nat := 32

def isCanonical (address : Nat) : Bool :=
  let high := address >>> 47
  decide (high = 0) || decide (high = 0x1FFFF)

/-- What the two checks of the context share. -/
def imageIsValid (image : ReadableImage) : Bool :=
  !(decide (image.memoryRegions.length = 0) ||
    decide (image.memoryRegions.length > maxMemoryRegions) || decide (image.imageBase = 0) ||
    decide (image.imageEnd ≤ image.imageBase) || !isCanonical image.imageBase ||
    !isCanonical (image.imageEnd - 1)) && image.relocationsApplied

def regionIsValid (region : MemoryRegion) : Bool :=
  decide (region.base < region.stop) && isCanonical region.base && isCanonical (region.stop - 1)

/-- `gxos_crt_strlen_context_is_valid` -/
def strlenContextIsValid (image : ReadableImage) : Bool :=
  imageIsValid image && image.memoryRegions.all regionIsValid

/-- `gxos_crt_stricmp_context_is_valid`, which does not take a region at 0. -/
def stricmpContextIsValid (image : ReadableImage) : Bool :=
  imageIsValid image &&
  image.memoryRegions.all fun region => decide (region.base ≠ 0) && regionIsValid region

def findRegion (image : ReadableImage) (address : Nat) : Option MemoryRegion :=
  image.memoryRegions.find? fun region =>
    decide (address ≥ region.base) && decide (address < region.stop)

/-- The region that is found allows the read. -/
def readable (image : ReadableImage) (address : Nat) : Bool :=
  (findRegion image address).elim false MemoryRegion.readable

inductive StrlenStatus
  | ok (length : Nat)
  | nullPointer
  | noncanonicalPointer
  | unreadablePointer
  | unterminated
  | overflow
  | invalidContext
  deriving DecidableEq

/-- The loop, with `remaining` bytes before the limit of the scan. -/
def strlenLoop (memory : Memory) (image : ReadableImage) (base : Nat) :
    (remaining length : Nat) → StrlenStatus
  | 0, _ => .unterminated
  | remaining + 1, length =>
    if length > uintptrMax - base then .overflow
    else if ¬ isCanonical (base + length) then .noncanonicalPointer
    else if ¬ readable image (base + length) then .unreadablePointer
    else if memory (base + length) = 0 then .ok length
    else if length = uintptrMax then .overflow
    else strlenLoop memory image base remaining (length + 1)

/-- `gxos_crt_strlen_checked` -/
def strlenChecked (memory : Memory) (image : ReadableImage) (string maximumScan : Nat) :
    StrlenStatus :=
  if ¬ strlenContextIsValid image then .invalidContext
  else if string = 0 then .nullPointer
  else if ¬ isCanonical string then .noncanonicalPointer
  else if maximumScan = 0 then .unterminated
  else if maximumScan - 1 > uintptrMax - string then .overflow
  else if string ≥ image.imageBase ∧ string < image.imageEnd ∧ ¬ image.relocationsApplied then
    .invalidContext
  else strlenLoop memory image string maximumScan 0

inductive StricmpStatus
  | ok (comparison : Int)
  | nullPointer
  | noncanonicalPointer
  | unreadablePointer
  | scanLimit
  | pointerOverflow
  | invalidContext
  deriving DecidableEq

structure StricmpReport where
  string1Length : Nat := uintptrMax
  string2Length : Nat := uintptrMax
  string1Terminator : Nat := 0
  string2Terminator : Nat := 0
  bytesExamined : Nat := 0
  comparedPrefix : Nat := 0
  deriving DecidableEq

def asciiTolower (value : UInt8) : UInt8 :=
  if value ≥ 0x41 ∧ value ≤ 0x5A then value + (0x61 - 0x41) else value

def stricmpLoop (memory : Memory) (image : ReadableImage) (base1 base2 : Nat) :
    (remaining index : Nat) → StricmpReport → StricmpStatus × StricmpReport
  | 0, _, report => (.scanLimit, report)
  | remaining + 1, index, report =>
    let current1 := base1 + index
    let current2 := base2 + index
    if ¬ isCanonical current1 ∨ ¬ isCanonical current2 then (.noncanonicalPointer, report)
    else if ¬ readable image current1 ∨ ¬ readable image current2 then
      (.unreadablePointer, report)
    else
      let folded1 := asciiTolower (memory current1)
      let folded2 := asciiTolower (memory current2)
      let report := { report with
        bytesExamined :=
          if report.bytesExamined ≤ uintptrMax - 2 then report.bytesExamined + 2 else uintptrMax
        comparedPrefix := index + 1 }
      if folded1 ≠ folded2 then (.ok ((folded1.toNat : Int) - folded2.toNat), report)
      else if folded1 = 0 then
        (.ok 0, { report with
          string1Length := index, string2Length := index,
          string1Terminator := current1, string2Terminator := current2 })
      else stricmpLoop memory image base1 base2 remaining (index + 1) report

/-- `gxos_crt_stricmp_checked_report` -/
def stricmpChecked (memory : Memory) (image : ReadableImage)
    (string1 string2 maximumScanPerString : Nat) : StricmpStatus × StricmpReport :=
  if ¬ stricmpContextIsValid image then (.invalidContext, {})
  else if string1 = 0 ∨ string2 = 0 then (.nullPointer, {})
  else if ¬ isCanonical string1 ∨ ¬ isCanonical string2 then (.noncanonicalPointer, {})
  else if maximumScanPerString = 0 then (.scanLimit, {})
  else if maximumScanPerString - 1 > uintptrMax - string1 ∨
      maximumScanPerString - 1 > uintptrMax - string2 then (.pointerOverflow, {})
  else stricmpLoop memory image string1 string2 maximumScanPerString 0 {}

/-- The loop of `gxos_crt_strcmp`, which has no limit. Without an answer it still runs when the
fuel is out. -/
def strcmpLoop (memory : Memory) : (fuel lhs rhs : Nat) → Option Int
  | 0, _, _ => none
  | fuel + 1, lhs, rhs =>
    let left := memory lhs
    let right := memory rhs
    if left ≠ right then some (if left < right then -1 else 1)
    else if left = 0 then some 0
    else strcmpLoop memory fuel (lhs + 1) (rhs + 1)

variable {memory : Memory} {image : ReadableImage} {base base1 base2 remaining index n : Nat}
  {x y : UInt8} {xs ys : List UInt8}

/-! ## Texts -/

/-- From `base` on, the memory has the text and its terminator. -/
def Holds (memory : Memory) : Nat → List UInt8 → Prop
  | base, [] => memory base = 0
  | base, x :: xs => memory base = x ∧ x ≠ 0 ∧ Holds memory (base + 1) xs

/-- The functions may read these bytes. -/
def ReadableFrom (image : ReadableImage) (base count : Nat) : Prop :=
  ∀ p, base ≤ p → p < base + count → isCanonical p = true ∧ readable image p = true

theorem ReadableFrom.head (h : ReadableFrom image base (n + 1)) :
    isCanonical base = true ∧ readable image base = true :=
  h base (Nat.le_refl _) (by omega)

theorem readableFrom_succ :
    ReadableFrom image base (n + 1) ↔
      (isCanonical base = true ∧ readable image base = true) ∧
        ReadableFrom image (base + 1) n := by
  constructor
  · exact fun h => ⟨h.head, fun p hp hlt => h p (by omega) (by omega)⟩
  · rintro ⟨hhead, htail⟩ p hp hlt
    rcases Nat.eq_or_lt_of_le hp with rfl | hgt
    · exact hhead
    · exact htail p hgt (by omega)

/-! ## The length -/

/-- The loop finds the terminator of a text that it may read, and that ends before the limit. -/
theorem strlenLoop_iff (hfits : index + remaining ≤ uintptrMax - base + 1) :
    strlenLoop memory image base remaining index = .ok n ↔
      ∃ xs, Holds memory (base + index) xs ∧ n = index + xs.length ∧ xs.length < remaining ∧
        ReadableFrom image (base + index) (xs.length + 1) := by
  induction remaining generalizing index with
  | zero => exact iff_of_false nofun fun ⟨_, _, _, h, _⟩ => absurd h (Nat.not_lt_zero _)
  | succ remaining ih =>
    unfold strlenLoop
    rw [if_neg (by omega)]
    by_cases hcanonical : isCanonical (base + index) = true
    · rw [if_neg (not_not_intro hcanonical)]
      by_cases hreadable : readable image (base + index) = true
      · rw [if_neg (not_not_intro hreadable)]
        by_cases hzero : memory (base + index) = 0
        · rw [if_pos hzero]
          constructor
          · intro h
            have hone : ReadableFrom image (base + index) 1 :=
              readableFrom_succ.mpr ⟨⟨hcanonical, hreadable⟩, fun p hp hlt => absurd hlt (by omega)⟩
            cases h
            exact ⟨[], hzero, rfl, Nat.succ_pos _, hone⟩
          · rintro ⟨xs, hxs, rfl, _⟩
            cases xs with
            | nil => rfl
            | cons x xs => exact absurd (hxs.1.symm.trans hzero) hxs.2.1
        · rw [if_neg hzero]
          by_cases hlast : index = uintptrMax
          · rw [if_pos hlast]
            refine iff_of_false nofun ?_
            rintro ⟨xs, hxs, _, hlt, _⟩
            cases xs with
            | nil => exact hzero hxs
            | cons x xs =>
              simp only [List.length_cons] at hlt
              omega
          · rw [if_neg hlast, ih (by omega)]
            constructor
            · rintro ⟨xs, hxs, hn, hlt, hread⟩
              refine ⟨memory (base + index) :: xs, ⟨rfl, hzero, hxs⟩, ?_, ?_, ?_⟩
              · rw [hn, List.length_cons]
                omega
              · simpa using hlt
              · exact readableFrom_succ.mpr ⟨⟨hcanonical, hreadable⟩, hread⟩
            · rintro ⟨xs, hxs, hn, hlt, hread⟩
              cases xs with
              | nil => exact absurd hxs hzero
              | cons x xs =>
                refine ⟨xs, hxs.2.2, ?_, ?_, (readableFrom_succ.mp hread).2⟩
                · rw [hn, List.length_cons]
                  omega
                · simpa using hlt
      · rw [if_pos hreadable]
        exact iff_of_false nofun fun ⟨_, _, _, _, h⟩ => hreadable h.head.2
    · rw [if_pos hcanonical]
      exact iff_of_false nofun fun ⟨_, _, _, _, h⟩ => hcanonical h.head.1

/-- A pointer and a limit that a function accepts before it reads. -/
structure Scannable (string maximumScan : Nat) : Prop where
  nonzero : string ≠ 0
  canonical : isCanonical string = true
  positive : maximumScan ≠ 0
  fits : maximumScan - 1 ≤ uintptrMax - string

/-- The length is given for the texts that may be read and end before the limit, and for these
only. -/
theorem strlenChecked_iff (maximumScan : Nat) :
    strlenChecked memory image base maximumScan = .ok n ↔
      strlenContextIsValid image = true ∧ Scannable base maximumScan ∧
      ∃ xs, Holds memory base xs ∧ n = xs.length ∧ n < maximumScan ∧
        ReadableFrom image base (n + 1) := by
  unfold strlenChecked
  by_cases hvalid : strlenContextIsValid image = true
  · rw [if_neg (not_not_intro hvalid)]
    by_cases hscan : Scannable base maximumScan
    · have happlied : image.relocationsApplied = true := by
        simp only [strlenContextIsValid, imageIsValid, Bool.and_eq_true] at hvalid
        exact hvalid.1.2
      have hfits := hscan.fits
      have hpositive := hscan.positive
      rw [if_neg hscan.nonzero, if_neg (not_not_intro hscan.canonical), if_neg hpositive,
        if_neg (by omega), if_neg (by simp [happlied]), strlenLoop_iff (by omega)]
      simp only [hvalid, hscan, true_and, Nat.add_zero, Nat.zero_add]
      constructor
      · rintro ⟨xs, hxs, rfl, hlt, hread⟩
        exact ⟨xs, hxs, rfl, hlt, hread⟩
      · rintro ⟨xs, hxs, rfl, hlt, hread⟩
        exact ⟨xs, hxs, rfl, hlt, hread⟩
    · refine iff_of_false ?_ fun h => hscan h.2.1
      split
      · nofun
      · rename_i hzero
        split
        · nofun
        · rename_i hcanonical
          split
          · nofun
          · rename_i hpositive
            split
            · nofun
            · rename_i hfits
              exact absurd ⟨hzero, Decidable.not_not.mp hcanonical, hpositive,
                Nat.not_lt.mp hfits⟩ hscan
  · rw [if_pos hvalid]
    exact iff_of_false nofun fun h => hvalid h.1

/-! ## The order -/

/-- A text without its case. -/
def lower (xs : List UInt8) : List UInt8 := xs.map asciiTolower

theorem asciiTolower_ne_zero (h : x ≠ 0) : asciiTolower x ≠ 0 := by
  unfold asciiTolower
  split
  · rename_i hupper
    intro hzero
    have hlow := UInt8.le_iff_toNat_le.mp hupper.1
    have hhigh := UInt8.le_iff_toNat_le.mp hupper.2
    have hsum := congrArg UInt8.toNat hzero
    rw [UInt8.toNat_add] at hsum
    simp only [UInt8.reduceToNat, UInt8.reduceSub] at hlow hhigh hsum
    omega
  · exact h

/-- How many bytes the texts have in common at their start. -/
def agree : List UInt8 → List UInt8 → Nat
  | x :: xs, y :: ys => if x = y then agree xs ys + 1 else 0
  | _, _ => 0

/-- The difference of the first bytes that differ, the terminator being 0. -/
def difference : List UInt8 → List UInt8 → Int
  | [], [] => 0
  | x :: _, [] => x.toNat
  | [], y :: _ => -y.toNat
  | x :: xs, y :: ys => if x = y then difference xs ys else (x.toNat : Int) - y.toNat

/-- The sign of the difference tells the order of the texts. -/
theorem difference_spec (hxs : 0 ∉ xs) (hys : 0 ∉ ys) :
    (difference xs ys < 0 ↔ xs < ys) ∧ (difference xs ys = 0 ↔ xs = ys) := by
  have hpos : ∀ {z : UInt8}, z ≠ 0 → 0 < z.toNat := by
    intro z hz
    exact Nat.pos_of_ne_zero fun h => hz (UInt8.toNat_inj.mp h)
  induction xs generalizing ys with
  | nil =>
    cases ys with
    | nil => simp [difference]
    | cons y ys =>
      have hy := hpos fun h : y = 0 => hys (h ▸ List.mem_cons_self)
      refine ⟨iff_of_true ?_ (List.nil_lt_cons y ys), iff_of_false ?_ nofun⟩ <;>
        simp only [difference] <;> omega
  | cons x xs ih =>
    cases ys with
    | nil =>
      have hx := hpos fun h : x = 0 => hxs (h ▸ List.mem_cons_self)
      refine ⟨iff_of_false ?_ (List.not_lt_nil _), iff_of_false ?_ nofun⟩ <;>
        simp only [difference] <;> omega
    | cons y ys =>
      obtain ⟨hlt, heq⟩ := ih (fun h => hxs (List.mem_cons_of_mem _ h))
        (fun h => hys (List.mem_cons_of_mem _ h))
      rw [List.cons_lt_cons_iff, List.cons.injEq]
      simp only [difference]
      by_cases hsame : x = y
      · subst hsame
        rw [if_pos rfl]
        exact ⟨by rw [hlt]; simp, by rw [heq]; simp⟩
      · have hne : x.toNat ≠ y.toNat := fun h => hsame (UInt8.toNat_inj.mp h)
        rw [if_neg hsame]
        refine ⟨?_, iff_of_false (by omega) fun h => hsame h.1⟩
        rw [or_iff_left fun h => hsame h.1, UInt8.lt_iff_toNat_lt]
        omega

theorem difference_swap (xs ys : List UInt8) : difference ys xs = -difference xs ys := by
  induction xs generalizing ys with
  | nil => cases ys <;> simp [difference]
  | cons x xs ih =>
    cases ys with
    | nil => simp [difference]
    | cons y ys =>
      simp only [difference]
      by_cases hsame : x = y
      · rw [if_pos hsame, if_pos hsame.symm, ih]
      · rw [if_neg hsame, if_neg (Ne.symm hsame)]
        omega

theorem zero_notMem_lower (h : Holds memory base xs) : 0 ∉ lower xs := by
  induction xs generalizing base with
  | nil => exact List.not_mem_nil
  | cons x xs ih =>
    rintro hmem
    rcases List.mem_cons.mp hmem with hzero | hrest
    · exact asciiTolower_ne_zero h.2.1 hzero.symm
    · exact ih h.2.2 hrest

/-- Both functions may read the bytes of this turn. -/
def BothReadable (image : ReadableImage) (p q : Nat) : Prop :=
  (isCanonical p = true ∧ readable image p = true) ∧
  (isCanonical q = true ∧ readable image q = true)

theorem stricmpLoop_unreadable (h : ¬ BothReadable image (base1 + index) (base2 + index))
    (report : StricmpReport) (c : Int) :
    (stricmpLoop memory image base1 base2 (remaining + 1) index report).1 ≠ .ok c := by
  unfold stricmpLoop
  dsimp only
  split
  · nofun
  · rename_i hcanonical
    rw [not_or, Decidable.not_not, Decidable.not_not] at hcanonical
    split
    · nofun
    · rename_i hreadable
      rw [not_or, Decidable.not_not, Decidable.not_not] at hreadable
      exact absurd ⟨⟨hcanonical.1, hreadable.1⟩, hcanonical.2, hreadable.2⟩ h

/-- The report of a turn. -/
def StricmpReport.turn (report : StricmpReport) (index : Nat) : StricmpReport :=
  { report with
    bytesExamined :=
      if report.bytesExamined ≤ uintptrMax - 2 then report.bytesExamined + 2 else uintptrMax
    comparedPrefix := index + 1 }

/-- A turn that may read its two bytes. -/
theorem stricmpLoop_turn (h : BothReadable image (base1 + index) (base2 + index))
    (report : StricmpReport) :
    stricmpLoop memory image base1 base2 (remaining + 1) index report =
      if asciiTolower (memory (base1 + index)) = asciiTolower (memory (base2 + index)) then
        if asciiTolower (memory (base1 + index)) = 0 then
          (.ok 0, { report.turn index with
            string1Length := index, string2Length := index,
            string1Terminator := base1 + index, string2Terminator := base2 + index })
        else stricmpLoop memory image base1 base2 remaining (index + 1) (report.turn index)
      else
        (.ok (((asciiTolower (memory (base1 + index))).toNat : Int) -
          (asciiTolower (memory (base2 + index))).toNat), report.turn index) := by
  obtain ⟨⟨hc1, hr1⟩, hc2, hr2⟩ := h
  conv_lhs => unfold stricmpLoop
  dsimp only
  rw [if_neg (by simp [hc1, hc2]), if_neg (by simp [hr1, hr2]), ite_not]
  rfl

/-- The bytes that a comparison has to read of each text. -/
def needed (xs ys : List UInt8) : Nat := agree (lower xs) (lower ys) + 1

/-- The loop from a turn on, over the rests of two texts. -/
theorem stricmpLoop_spec (h1 : Holds memory (base1 + index) xs)
    (h2 : Holds memory (base2 + index) ys) (report : StricmpReport) :
    ((needed xs ys ≤ remaining ∧ ReadableFrom image (base1 + index) (needed xs ys) ∧
        ReadableFrom image (base2 + index) (needed xs ys)) →
      (stricmpLoop memory image base1 base2 remaining index report).1 =
        .ok (difference (lower xs) (lower ys)) ∧
      (stricmpLoop memory image base1 base2 remaining index report).2.comparedPrefix =
        index + needed xs ys) ∧
    (∀ c, (stricmpLoop memory image base1 base2 remaining index report).1 = .ok c →
      needed xs ys ≤ remaining ∧ ReadableFrom image (base1 + index) (needed xs ys) ∧
        ReadableFrom image (base2 + index) (needed xs ys)) := by
  have hone : ∀ {p : Nat}, isCanonical p = true ∧ readable image p = true →
      ReadableFrom image p 1 := by
    intro p hp
    exact readableFrom_succ.mpr ⟨hp, fun q hq hlt => absurd hlt (by omega)⟩
  have hzero : asciiTolower 0 = 0 := by decide
  induction remaining generalizing index xs ys report with
  | zero =>
    refine ⟨fun h => absurd h.1 (by unfold needed; omega), fun c hc => ?_⟩
    cases hc
  | succ remaining ih =>
    by_cases hread : BothReadable image (base1 + index) (base2 + index)
    · rw [stricmpLoop_turn hread]
      cases xs with
      | nil =>
        have hend1 : memory (base1 + index) = 0 := h1
        cases ys with
        | nil =>
          have hend2 : memory (base2 + index) = 0 := h2
          rw [hend1, hend2, hzero, if_pos rfl, if_pos rfl]
          exact ⟨fun _ => ⟨rfl, rfl⟩,
            fun _ _ => ⟨Nat.succ_pos _, hone hread.1, hone hread.2⟩⟩
        | cons y ys =>
          have hy := asciiTolower_ne_zero h2.2.1
          rw [hend1, h2.1, hzero, if_neg hy.symm]
          exact ⟨fun _ => ⟨by simp [difference, lower], rfl⟩,
            fun _ _ => ⟨Nat.succ_pos _, hone hread.1, hone hread.2⟩⟩
      | cons x xs =>
        have hx := asciiTolower_ne_zero h1.2.1
        cases ys with
        | nil =>
          have hend2 : memory (base2 + index) = 0 := h2
          rw [h1.1, hend2, hzero, if_neg hx]
          exact ⟨fun _ => ⟨by simp [difference, lower], rfl⟩,
            fun _ _ => ⟨Nat.succ_pos _, hone hread.1, hone hread.2⟩⟩
        | cons y ys =>
          rw [h1.1, h2.1]
          by_cases hsame : asciiTolower x = asciiTolower y
          · have hneeded : needed (x :: xs) (y :: ys) = needed xs ys + 1 := by
              simp [needed, lower, agree, hsame]
            have hdifference : difference (lower (x :: xs)) (lower (y :: ys)) =
                difference (lower xs) (lower ys) := by
              simp [difference, lower, hsame]
            have htail1 : Holds memory (base1 + (index + 1)) xs := h1.2.2
            have htail2 : Holds memory (base2 + (index + 1)) ys := h2.2.2
            have hrest := ih htail1 htail2 (report.turn index)
            have hturns : index + (needed xs ys + 1) = index + 1 + needed xs ys := by omega
            rw [if_pos hsame, if_neg hx, hneeded, hdifference, hturns,
              Nat.add_le_add_iff_right, readableFrom_succ, readableFrom_succ]
            exact ⟨fun h => hrest.1 ⟨h.1, h.2.1.2, h.2.2.2⟩, fun c hc =>
              ⟨(hrest.2 c hc).1, ⟨hread.1, (hrest.2 c hc).2.1⟩, hread.2, (hrest.2 c hc).2.2⟩⟩
          · have hneeded : needed (x :: xs) (y :: ys) = 1 := by
              simp [needed, lower, agree, hsame]
            have hdifference : difference (lower (x :: xs)) (lower (y :: ys)) =
                ((asciiTolower x).toNat : Int) - (asciiTolower y).toNat := by
              simp [difference, lower, hsame]
            rw [if_neg hsame, hneeded, hdifference]
            exact ⟨fun _ => ⟨rfl, rfl⟩,
              fun _ _ => ⟨Nat.succ_pos _, hone hread.1, hone hread.2⟩⟩
    · refine ⟨fun h => absurd ⟨?_, ?_⟩ hread,
        fun c hc => absurd hc (stricmpLoop_unreadable hread report c)⟩
      · exact h.2.1.head
      · exact h.2.2.head

theorem stricmpChecked_eq {string1 string2 maximumScan : Nat}
    (hvalid : stricmpContextIsValid image = true) (h1 : Scannable string1 maximumScan)
    (h2 : Scannable string2 maximumScan) :
    stricmpChecked memory image string1 string2 maximumScan =
      stricmpLoop memory image string1 string2 maximumScan 0 {} := by
  have hfits1 := h1.fits
  have hfits2 := h2.fits
  unfold stricmpChecked
  rw [if_neg (not_not_intro hvalid), if_neg (not_or.mpr ⟨h1.nonzero, h2.nonzero⟩),
    if_neg (by simp [h1.canonical, h2.canonical]), if_neg h1.positive, if_neg (by omega)]

/-- The loop without a limit gets to the first difference, or to both terminators. -/
theorem strcmpLoop_spec {fuel lhs rhs : Nat} (h1 : Holds memory lhs xs) (h2 : Holds memory rhs ys)
    (hfuel : agree xs ys < fuel) :
    strcmpLoop memory fuel lhs rhs =
      some (if xs < ys then -1 else if xs = ys then 0 else 1) := by
  induction fuel generalizing lhs rhs xs ys with
  | zero => exact absurd hfuel (Nat.not_lt_zero _)
  | succ fuel ih =>
    unfold strcmpLoop
    dsimp only
    cases xs with
    | nil =>
      have hend1 : memory lhs = 0 := h1
      cases ys with
      | nil =>
        have hend2 : memory rhs = 0 := h2
        rw [hend1, hend2, if_neg (not_not_intro rfl), if_pos rfl, if_neg (List.not_lt_nil _),
          if_pos rfl]
      | cons y ys =>
        have hless : (0 : UInt8) < y := UInt8.pos_iff_ne_zero.mpr h2.2.1
        rw [hend1, h2.1, if_pos h2.2.1.symm, if_pos hless, if_pos (List.nil_lt_cons y ys)]
    | cons x xs =>
      cases ys with
      | nil =>
        have hend2 : memory rhs = 0 := h2
        rw [h1.1, hend2, if_pos h1.2.1, if_neg (by exact UInt8.not_lt_zero),
          if_neg (List.not_lt_nil _), if_neg (List.cons_ne_nil x xs)]
      | cons y ys =>
        rw [h1.1, h2.1]
        simp only [List.cons_lt_cons_iff, List.cons.injEq]
        by_cases hsame : x = y
        · subst hsame
          have hrest : agree xs ys < fuel := by
            simpa [agree] using hfuel
          rw [if_neg (not_not_intro rfl), if_neg h1.2.1, ih h1.2.2 h2.2.2 hrest]
          simp [UInt8.lt_irrefl]
        · rw [if_pos hsame]
          by_cases hless : x < y <;> simp [hsame, hless]

/-! ## The functions together -/

theorem agree_le_left (xs ys : List UInt8) : agree xs ys ≤ xs.length := by
  induction xs generalizing ys with
  | nil => exact Nat.le_refl _
  | cons x xs ih =>
    cases ys with
    | nil => exact Nat.zero_le _
    | cons y ys =>
      simp only [agree, List.length_cons]
      split
      · exact Nat.succ_le_succ (ih ys)
      · exact Nat.zero_le _

theorem agree_le_right (xs ys : List UInt8) : agree xs ys ≤ ys.length := by
  induction xs generalizing ys with
  | nil => exact Nat.zero_le _
  | cons x xs ih =>
    cases ys with
    | nil => exact Nat.zero_le _
    | cons y ys =>
      simp only [agree, List.length_cons]
      split
      · exact Nat.succ_le_succ (ih ys)
      · exact Nat.zero_le _

theorem needed_le (xs ys : List UInt8) :
    needed xs ys ≤ xs.length + 1 ∧ needed xs ys ≤ ys.length + 1 := by
  have hleft := agree_le_left (lower xs) (lower ys)
  have hright := agree_le_right (lower xs) (lower ys)
  unfold lower at hleft hright
  rw [List.length_map] at hleft hright
  exact ⟨Nat.succ_le_succ hleft, Nat.succ_le_succ hright⟩

theorem ReadableFrom.shorter {m : Nat} (h : ReadableFrom image base n) (hle : m ≤ n) :
    ReadableFrom image base m := fun p hp hlt => h p hp (by omega)

/-- What the two comparisons say of two texts. -/
structure Compared (memory : Memory) (image : ReadableImage) (string1 string2 maximumScan : Nat)
    (xs ys : List UInt8) (ordered folded : Int) : Prop where
  strcmp : ∀ fuel, agree xs ys < fuel → strcmpLoop memory fuel string1 string2 = some ordered
  stricmp : (stricmpChecked memory image string1 string2 maximumScan).1 = .ok folded
  less : ordered < 0 ↔ xs < ys
  same : ordered = 0 ↔ xs = ys
  lessFolded : folded < 0 ↔ lower xs < lower ys
  sameFolded : folded = 0 ↔ lower xs = lower ys

theorem Compared.fold {string1 string2 maximumScan : Nat} {ordered folded : Int}
    (h : Compared memory image string1 string2 maximumScan xs ys ordered folded)
    (hzero : ordered = 0) : folded = 0 :=
  h.sameFolded.mpr (congrArg lower (h.same.mp hzero))

/-- The sign that strcmp gives two texts. -/
def order (xs ys : List UInt8) : Int := if xs < ys then -1 else if xs = ys then 0 else 1

theorem order_spec (xs ys : List UInt8) :
    (order xs ys < 0 ↔ xs < ys) ∧ (order xs ys = 0 ↔ xs = ys) := by
  unfold order
  by_cases hless : xs < ys
  · rw [if_pos hless]
    refine ⟨iff_of_true (by decide) hless, iff_of_false (by decide) fun heq => ?_⟩
    rw [heq] at hless
    exact List.lt_irrefl _ hless
  · rw [if_neg hless]
    by_cases hsame : xs = ys
    · rw [if_pos hsame]
      exact ⟨iff_of_false (by decide) hless, iff_of_true rfl hsame⟩
    · rw [if_neg hsame]
      exact ⟨iff_of_false (by decide) hless, iff_of_false (by decide) hsame⟩

/-- `Gc` at 0x1000, and `gC` at 0x1008, at the end of what may be read. -/
def sampleMemory : Memory := fun p =>
  if p = 0x1000 then 0x47 else if p = 0x1001 then 0x63 else if p = 0x1008 then 0x67
  else if p = 0x1009 then 0x43 else 0

def sampleImage : ReadableImage :=
  { imageBase := 0x1000, imageEnd := 0x2000, relocationsApplied := true
    memoryRegions := [⟨0x1000, 0x100B, true, false, false⟩] }

theorem sample_holds :
    Holds sampleMemory 0x1000 [0x47, 0x63] ∧ Holds sampleMemory 0x1008 [0x67, 0x43] :=
  ⟨⟨rfl, by decide, rfl, by decide, rfl⟩, rfl, by decide, rfl, by decide, rfl⟩

theorem sample_scannable : Scannable 0x1000 0x10000 ∧ Scannable 0x1008 0x10000 :=
  ⟨⟨by decide, by decide, by decide, by decide⟩, by decide, by decide, by decide, by decide⟩

end Gate4Harness.CrtStrings
