-- The images that may hold a callback are filled from their PE headers in memory
-- (gxos_veh_image_parse_pe of vectored_handler.c). Every range is tested before it is read, but
-- for the magic of the optional header, which is read before the test of that header.
import Gate4Harness.VectoredHandler
import Gate4Harness.PeLoaded

namespace Gate4Harness.VectoredHandler

open Buffers Buffer Outcome

/-! ## The parser -/

/-- `gxos_veh_range_contains`. -/
def rangeContains (offset length limit : Nat) : Prop := offset ≤ limit ∧ length ≤ limit - offset

instance (offset length limit : Nat) : Decidable (rangeContains offset length limit) :=
  inferInstanceAs (Decidable (_ ∧ _))

/-- `gxos_veh_copy_name`. -/
def copyName (base : Buffer) (source : Nat) : Outcome SectionName :=
  if source + 8 ≤ base.size then
    return Vector.ofFn fun i => if i.val < 8 then base.byte (source + i.val) else 0
  else outside

/-- The sections from `i` on are cleared. -/
def clearSections (image : Image) (i : Nat) : Image :=
  { image with
    sections := fun k =>
      if i ≤ k ∧ k < maxImageSections then
        { base := 0, limit := 0, characteristics := 0, name := (image.sections k).name.set 0 0 }
      else image.sections k }

/-- The loop over the section headers. The value is what the function returns, with the image
as it stands then. -/
def parseSections (base : Buffer) (imageBase imageSizeFromPe sectionOffset : Nat) :
    (count : Nat) → (i : Nat) → Image → Outcome (Nat × Image)
  | 0, i, image => return (1, clearSections image i)
  | count + 1, i, image => do
    let header := sectionOffset + i * 40
    let virtualSize ← base.readU32 (header + 8)
    let virtualAddress ← base.readU32 (header + 12)
    let rawSize ← base.readU32 (header + 16)
    let characteristics ← base.readU32 (header + 36)
    let extent := if virtualSize > rawSize then virtualSize else rawSize
    if extent = 0 ∨ virtualAddress + extent > imageSizeFromPe ∨
        imageBase > uintptrMax - virtualAddress then return (0, image)
    let sectionBase := imageBase + virtualAddress
    if extent > uintptrMax - sectionBase then return (0, image)
    let name ← copyName base header
    parseSections base imageBase imageSizeFromPe sectionOffset count (i + 1)
      { image with
        sections := Function.update image.sections i
          { base := sectionBase, limit := sectionBase + extent, characteristics, name } }

/-- The optional header and the sections. The magic is read before the range is tested. -/
def parseOptionalHeader (image : Image) (identity imageBase : Nat) (base : Buffer)
    (ntOffset : Nat) : Outcome (Nat × Image) := do
  let sectionCount ← base.readU16 (ntOffset + 6)
  let optionalSize ← base.readU16 (ntOffset + 20)
  let optionalMagic ← base.readU16 (ntOffset + 24)
  if optionalMagic ≠ 0x20B ∨ optionalSize < 0xF0 ∨ sectionCount = 0 ∨
      sectionCount > maxImageSections then return (0, image)
  if ¬ rangeContains (ntOffset + 24) optionalSize base.size then return (0, image)
  let imageSizeFromPe ← base.readU32 (ntOffset + 24 + 0x38)
  if imageSizeFromPe = 0 ∨ imageSizeFromPe > base.size then return (0, image)
  let sectionOffset := ntOffset + 24 + optionalSize
  if sectionOffset < ntOffset ∨ ¬ rangeContains sectionOffset (sectionCount * 40) base.size then
    return (0, image)
  parseSections base imageBase imageSizeFromPe sectionOffset sectionCount 0
    { image with identity, imageBase, imageSize := base.size, sectionCount }

/-- `gxos_veh_image_parse_pe`. The bytes of `base` are those at `imageBase`, and `image` is what
stands in the image before. -/
def imageParsePe (image : Image) (identity imageBase : Nat) (base : Buffer) :
    Outcome (Nat × Image) := do
  if identity = 0 ∨ imageBase = 0 ∨ base.size < 0x40 ∨ base.size > uintptrMax ∨
      imageBase > uintptrMax - base.size then return (0, image)
  let dosMagic ← base.readU16 0
  if dosMagic ≠ 0x5A4D then return (0, image)
  let ntOffset ← base.readU32 0x3C
  if ¬ rangeContains ntOffset 24 base.size then return (0, image)
  let signed ← PeImage.hasMagic base ntOffset [0x50, 0x45, 0, 0]
  if signed = false then return (0, image)
  parseOptionalHeader image identity imageBase base ntOffset

/-! ## What it fills in -/

variable {image : Image} {identity imageBase size imageSizeFromPe sectionOffset count i : Nat}
  {base : Buffer}

/-- The section is not empty, and it lies in an image of this place and size. -/
def SectionWithin (imageBase size : Nat) (s : Section) : Prop :=
  imageBase ≤ s.base ∧ s.base < s.limit ∧ s.limit ≤ imageBase + size

/-- An image as the parser leaves it when it returns 1. -/
structure Filled (identity imageBase size : Nat) (image : Image) : Prop where
  identity_eq : image.identity = identity
  base_eq : image.imageBase = imageBase
  size_eq : image.imageSize = size
  identity_ne : identity ≠ 0
  base_ne : imageBase ≠ 0
  size_ne : size ≠ 0
  fits : imageBase + size ≤ uintptrMax
  count_pos : 1 ≤ image.sectionCount
  count_le : image.sectionCount ≤ maxImageSections
  sections : ∀ i < image.sectionCount, SectionWithin imageBase size (image.sections i)

/-- All addresses of an image are canonical. -/
def Canonical (imageBase size : Nat) : Prop :=
  ∀ a, imageBase ≤ a → a < imageBase + size → exceptionIsCanonical a = true

/-- The search turns an image down before it looks at the callback. -/
def Rejected (pointer : Nat) (image : Image) : Prop :=
  match imageBounds pointer image with
  | .error _ => True
  | .ok imageEnd => ∃ i < image.sectionCount, sectionBad image imageEnd (image.sections i) = true

/-- If a search answers that an image or a section is bad, it is because of another image. -/
def NeverRejected (image : Image) : Prop :=
  ∀ r imageAt callback, ((findCallback r imageAt callback).1 = .badImage ∨
      (findCallback r imageAt callback).1 = .badSection) →
    ∃ k < r.imageCount, Rejected (r.images k) (imageAt (r.images k)) ∧
      (r.images k = 0 ∨ imageAt (r.images k) ≠ image)

/-- The parser reads bytes of the image only, and what it fills in is sound. -/
def ParsesWithin (image : Image) (identity imageBase : Nat) (base : Buffer) : Prop :=
  (imageParsePe image identity imageBase base).Inside ∧
    ∀ filled, imageParsePe image identity imageBase base = ok (1, filled) →
      Filled identity imageBase base.size filled ∧
        (Canonical imageBase base.size → NeverRejected filled)

theorem not_parsesWithin (h : ¬ (imageParsePe image identity imageBase base).Inside) :
    ¬ ParsesWithin image identity imageBase base := fun hwithin => h hwithin.1

/-- The checks up to the signature pass. -/
structure SignatureFound (identity imageBase : Nat) (base : Buffer) : Prop where
  identity_ne : identity ≠ 0
  base_ne : imageBase ≠ 0
  size_ge : 0x40 ≤ base.size
  fits : imageBase + base.size ≤ uintptrMax
  dosMagic : base.u16 0 = 0x5A4D
  ntOffset_le : base.u32 0x3C + 24 ≤ base.size
  signature : PeImage.ReadsAs base (base.u32 0x3C) [0x50, 0x45, 0, 0]

/-! ### The sections -/

theorem copyName_ok (base : Buffer) (source : Nat) (h : source + 8 ≤ base.size) :
    ∃ name, copyName base source = ok name :=
  ⟨_, if_pos h⟩

/-- Sections that are in place stay so, and each further one is put in place or ends the loop. -/
theorem parseSections_ok (image : Image) (hin : sectionOffset + (i + count) * 40 ≤ base.size)
    (hfrom : imageSizeFromPe ≤ size) (hcount : i + count ≤ maxImageSections)
    (hbefore : ∀ k < i, SectionWithin imageBase size (image.sections k)) :
    ∃ result filled, parseSections base imageBase imageSizeFromPe sectionOffset count i image =
        ok (result, filled) ∧
      (result = 1 → filled = { image with sections := filled.sections } ∧
        ∀ k < i + count, SectionWithin imageBase size (filled.sections k)) := by
  induction count generalizing i image with
  | zero =>
    refine ⟨1, clearSections image i, rfl, fun _ => ⟨rfl, fun k hk => ?_⟩⟩
    unfold clearSections
    dsimp only
    rw [if_neg (by omega)]
    exact hbefore k hk
  | succ count ih =>
    rw [parseSections, readU32_ok (by omega), ok_bind, readU32_ok (by omega), ok_bind,
      readU32_ok (by omega), ok_bind, readU32_ok (by omega), ok_bind]
    generalize base.u32 (sectionOffset + i * 40 + 12) = virtualAddress
    generalize base.u32 (sectionOffset + i * 40 + 36) = characteristics
    generalize (if base.u32 (sectionOffset + i * 40 + 8) > base.u32 (sectionOffset + i * 40 + 16)
      then base.u32 (sectionOffset + i * 40 + 8)
      else base.u32 (sectionOffset + i * 40 + 16)) = extent
    dsimp only
    by_cases hextent : extent = 0 ∨ virtualAddress + extent > imageSizeFromPe ∨
        imageBase > uintptrMax - virtualAddress
    · rw [if_pos hextent]
      exact ⟨0, image, rfl, nofun⟩
    · rw [if_neg hextent]
      by_cases hlimit : extent > uintptrMax - (imageBase + virtualAddress)
      · rw [if_pos hlimit]
        exact ⟨0, image, rfl, nofun⟩
      · obtain ⟨name, hname⟩ := copyName_ok base (sectionOffset + i * 40) (by omega)
        rw [if_neg hlimit, hname, ok_bind]
        generalize hs : Section.mk (imageBase + virtualAddress)
          (imageBase + virtualAddress + extent) characteristics name = s
        have hwithin : SectionWithin imageBase size s := by
          unfold SectionWithin
          rw [← hs]
          dsimp only
          omega
        have hupTo : ∀ k < i + 1,
            SectionWithin imageBase size (Function.update image.sections i s k) := by
          intro k hk
          rcases Nat.lt_succ_iff_lt_or_eq.mp hk with hlt | rfl
          · rw [Function.update_of_ne (Nat.ne_of_lt hlt)]
            exact hbefore k hlt
          · rw [Function.update_self]
            exact hwithin
        obtain ⟨result, filled, heq, hfilled⟩ :=
          @ih (i + 1) { image with sections := Function.update image.sections i s } (by omega)
            (by omega) hupTo
        rw [Nat.add_right_comm] at hfilled
        exact ⟨result, filled, heq, hfilled⟩

/-! ### The headers -/

/-- The function returns 0, or it returns 1 and the image is filled. -/
def Answers (identity imageBase size : Nat) (x : Outcome (Nat × Image)) : Prop :=
  ∃ result filled, x = ok (result, filled) ∧
    (result = 1 → Filled identity imageBase size filled)

theorem Answers.zero (image : Image) : Answers identity imageBase size (ok (0, image)) :=
  ⟨0, image, rfl, nofun⟩

/-- An early return, or what comes after it. -/
theorem Answers.of_ite {condition : Prop} [Decidable condition] {rest : Outcome (Nat × Image)}
    (h : ¬ condition → Answers identity imageBase size rest) :
    Answers identity imageBase size (if condition then pure (0, image) else rest) := by
  split
  · exact .zero image
  · next hcondition => exact h hcondition

/-- The function goes on to the optional header if and only if it finds the signature. -/
theorem imageParsePe_eq (image : Image) (identity imageBase : Nat) (base : Buffer) :
    (SignatureFound identity imageBase base ∧ imageParsePe image identity imageBase base =
      parseOptionalHeader image identity imageBase base (base.u32 0x3C)) ∨
    (¬ SignatureFound identity imageBase base ∧
      imageParsePe image identity imageBase base = ok (0, image)) := by
  have hmax : uintptrMax = 0xFFFFFFFFFFFFFFFF := rfl
  unfold imageParsePe
  by_cases hplace : identity = 0 ∨ imageBase = 0 ∨ base.size < 0x40 ∨ base.size > uintptrMax ∨
      imageBase > uintptrMax - base.size
  · rw [if_pos hplace]
    refine .inr ⟨fun h => ?_, rfl⟩
    have hidentity := h.identity_ne
    have hbase := h.base_ne
    have hsize := h.size_ge
    have hfits := h.fits
    omega
  rw [if_neg hplace, readU16_ok (by omega), ok_bind]
  by_cases hdos : base.u16 0 = 0x5A4D
  · rw [if_neg (not_not.mpr hdos), readU32_ok (by omega), ok_bind]
    by_cases hnt : rangeContains (base.u32 0x3C) 24 base.size
    · rw [if_neg (not_not.mpr hnt)]
      unfold rangeContains at hnt
      obtain ⟨signed, hsigned, hiff⟩ := PeImage.hasMagic_ok base (base.u32 0x3C)
        [0x50, 0x45, 0, 0] (by simp only [List.length_cons, List.length_nil]; omega)
      rw [hsigned, ok_bind]
      cases signed with
      | true =>
        exact .inl
          ⟨⟨by omega, by omega, by omega, by omega, hdos, by omega, hiff.mp rfl⟩, rfl⟩
      | false => exact .inr ⟨fun h => absurd (hiff.mpr h.signature) nofun, rfl⟩
    · rw [if_pos hnt]
      refine .inr ⟨fun h => hnt ?_, rfl⟩
      have hle := h.ntOffset_le
      exact ⟨by omega, by omega⟩
  · rw [if_pos hdos]
    exact .inr ⟨fun h => hdos h.dosMagic, rfl⟩

/-- The magic can be read, so every range is tested before it is read. -/
theorem parseOptionalHeader_answers (image : Image) (h : SignatureFound identity imageBase base)
    (hmagic : base.u32 0x3C + 26 ≤ base.size) : Answers identity imageBase base.size
      (parseOptionalHeader image identity imageBase base (base.u32 0x3C)) := by
  have hsize := h.size_ge
  have hfits := h.fits
  have hmax : uintptrMax = 0xFFFFFFFFFFFFFFFF := rfl
  unfold parseOptionalHeader
  rw [readU16_ok (by omega), ok_bind, readU16_ok (by omega), ok_bind, readU16_ok (by omega),
    ok_bind]
  refine .of_ite fun hcount => ?_
  refine .of_ite fun hoptional => ?_
  unfold rangeContains at hoptional
  rw [readU32_ok (by omega), ok_bind]
  refine .of_ite fun hfrom => ?_
  refine .of_ite fun htable => ?_
  unfold rangeContains at htable
  generalize base.u16 (base.u32 0x3C + 6) = sectionCount at *
  have hin : base.u32 0x3C + 24 + base.u16 (base.u32 0x3C + 20) + (0 + sectionCount) * 40 ≤
      base.size := by omega
  have hle : base.u32 (base.u32 0x3C + 24 + 0x38) ≤ base.size := by omega
  have hnone : ∀ k < 0, SectionWithin imageBase base.size (image.sections k) := nofun
  obtain ⟨result, filled, heq, hfilled⟩ := parseSections_ok
    { image with identity, imageBase, imageSize := base.size, sectionCount } hin hle
    (by omega) hnone
  refine ⟨result, filled, heq, fun hresult => ?_⟩
  obtain ⟨hframe, hsections⟩ := hfilled hresult
  rw [Nat.zero_add] at hsections
  have hsame : filled.sectionCount = sectionCount := by rw [hframe]
  exact {
    identity_eq := by rw [hframe]
    base_eq := by rw [hframe]
    size_eq := by rw [hframe]
    identity_ne := h.identity_ne
    base_ne := h.base_ne
    size_ne := by omega
    fits := hfits
    count_pos := by omega
    count_le := by omega
    sections := hsame ▸ hsections }

/-- The two bytes behind the NT headers are read before any test of the optional header. -/
theorem imageParsePe_cases (image : Image) (identity imageBase : Nat) (base : Buffer) :
    (SignatureFound identity imageBase base ∧ base.size < base.u32 0x3C + 26 ∧
      imageParsePe image identity imageBase base = outside) ∨
    ((SignatureFound identity imageBase base → base.u32 0x3C + 26 ≤ base.size) ∧
      Answers identity imageBase base.size (imageParsePe image identity imageBase base)) := by
  rcases imageParsePe_eq image identity imageBase base with ⟨hfound, heq⟩ | ⟨hnot, heq⟩
  · rw [heq]
    by_cases hmagic : base.u32 0x3C + 26 ≤ base.size
    · exact .inr ⟨fun _ => hmagic, parseOptionalHeader_answers image hfound hmagic⟩
    · have hnt := hfound.ntOffset_le
      refine .inl ⟨hfound, by omega, ?_⟩
      rw [parseOptionalHeader, readU16_ok (by omega), ok_bind, readU16_ok (by omega), ok_bind,
        readU16_eq, if_neg (by omega)]
      rfl
  · rw [heq]
    exact .inr ⟨fun h => absurd h hnot, .zero image⟩

/-! ## What a search makes of it -/

theorem exceptionIsCanonical_iff (a : Nat) : exceptionIsCanonical a = true ↔
    a ≤ 0x00007FFFFFFFFFFF ∨ 0xFFFF800000000000 ≤ a := by
  unfold exceptionIsCanonical
  rw [Bool.or_eq_true, decide_eq_true_iff, decide_eq_true_iff]

theorem Filled.imageBounds (h : Filled identity imageBase size image)
    (hcanonical : Canonical imageBase size) {pointer : Nat} (hpointer : pointer ≠ 0) :
    imageBounds pointer image = .ok (imageBase + size) := by
  have hidentity := h.identity_ne
  have hbase := h.base_ne
  have hsize := h.size_ne
  have hfits := h.fits
  have hpos := h.count_pos
  have hle := h.count_le
  have hmax : uintptrMax = 0xFFFFFFFFFFFFFFFF := rfl
  unfold VectoredHandler.imageBounds
  rw [h.identity_eq, h.base_eq, h.size_eq, if_neg (by omega), if_neg (by omega)]
  dsimp only
  rw [if_neg]
  rintro (hend | hlow | hhigh)
  · omega
  · exact hlow (hcanonical imageBase (Nat.le_refl _) (by omega))
  · exact hhigh (hcanonical _ (by omega) (by omega))

theorem Filled.not_rejected (h : Filled identity imageBase size image)
    (hcanonical : Canonical imageBase size) {pointer : Nat} (hpointer : pointer ≠ 0) :
    ¬ Rejected pointer image := by
  rw [Rejected, h.imageBounds hcanonical hpointer]
  rintro ⟨i, hi, hbad⟩
  obtain ⟨hlow, hlt, hhigh⟩ := h.sections i hi
  have hbase := h.base_ne
  have hfirst := hcanonical (image.sections i).base hlow (by omega)
  have hlast := hcanonical ((image.sections i).limit - 1) (by omega) (by omega)
  rw [sectionBad, h.base_eq, hfirst, hlast] at hbad
  simp only [Bool.or_eq_true, decide_eq_true_iff, Bool.not_true, Bool.false_eq_true, or_false]
    at hbad
  omega

/-- What makes a search answer that an image or a section is bad. -/
theorem findCallbackIn_rejected {r : Registry} {imageAt : Nat → Image} {callback : Nat}
    {indices : List Nat} {d : Diagnostics}
    (h : (findCallbackIn r imageAt callback indices d).1 = .badImage ∨
      (findCallbackIn r imageAt callback indices d).1 = .badSection) :
    ∃ k ∈ indices, Rejected (r.images k) (imageAt (r.images k)) := by
  induction indices generalizing d with
  | nil => rcases h with h | h <;> cases h
  | cons index rest ih =>
    by_cases hrejected : Rejected (r.images index) (imageAt (r.images index))
    · exact ⟨index, List.mem_cons_self, hrejected⟩
    have hrest (d : Diagnostics) (hd : (findCallbackIn r imageAt callback rest d).1 = .badImage ∨
        (findCallbackIn r imageAt callback rest d).1 = .badSection) :
        ∃ k ∈ index :: rest, Rejected (r.images k) (imageAt (r.images k)) := by
      obtain ⟨k, hk, hbad⟩ := ih hd
      exact ⟨k, List.mem_cons_of_mem index hk, hbad⟩
    cases hbounds : imageBounds (r.images index) (imageAt (r.images index)) with
    | error result =>
      rw [Rejected, hbounds] at hrejected
      exact absurd trivial hrejected
    | ok imageEnd =>
      rw [Rejected, hbounds] at hrejected
      have hsound : ((List.range (imageAt (r.images index)).sectionCount).any fun i =>
          sectionBad (imageAt (r.images index)) imageEnd
            ((imageAt (r.images index)).sections i)) = false := by
        rw [List.any_eq_false]
        exact fun i hi hbad => hrejected ⟨i, List.mem_range.mp hi, hbad⟩
      simp only [findCallbackIn, hbounds, hsound] at h
      rw [if_neg Bool.false_ne_true] at h
      split at h
      · exact hrest _ h
      · split at h
        · rcases h with h | h <;> cases h
        · split at h
          · rcases h with h | h <;> cases h
          · split at h
            · rcases h with h | h <;> cases h
            · split at h <;> rcases h with h | h <;> cases h

theorem Filled.neverRejected (h : Filled identity imageBase size image)
    (hcanonical : Canonical imageBase size) : NeverRejected image := by
  intro r imageAt callback hresult
  have hsearch : ∃ k ∈ List.range r.imageCount, Rejected (r.images k) (imageAt (r.images k)) := by
    unfold findCallback at hresult
    split at hresult
    · rcases hresult with h | h <;> cases h
    · split at hresult
      · rcases hresult with h | h <;> cases h
      · split at hresult
        · rcases hresult with h | h <;> cases h
        · exact findCallbackIn_rejected hresult
  obtain ⟨k, hk, hrejected⟩ := hsearch
  refine ⟨k, List.mem_range.mp hk, hrejected, ?_⟩
  by_cases hpointer : r.images k = 0
  · exact .inl hpointer
  · exact .inr fun hsame => h.not_rejected hcanonical hpointer (hsame ▸ hrejected)

/-- The parser stays in the image if and only if the image does not end right behind NT headers
with the signature. What it fills in is sound, and a search finds no fault in it. -/
theorem parses_within_iff (image : Image) (identity imageBase : Nat) (base : Buffer) :
    ParsesWithin image identity imageBase base ↔
      (SignatureFound identity imageBase base → base.u32 0x3C + 26 ≤ base.size) := by
  rcases imageParsePe_cases image identity imageBase base with
    ⟨hfound, hshort, heq⟩ | ⟨hmagic, result, filled, heq, hfilled⟩
  · refine iff_of_false (not_parsesWithin ?_) fun h => absurd (h hfound) (by omega)
    rw [heq]
    exact not_false
  · refine iff_of_true ⟨?_, fun image' heq' => ?_⟩ hmagic
    · rw [heq]
      trivial
    · rw [heq] at heq'
      cases heq'
      exact ⟨hfilled rfl, (hfilled rfl).neverRejected⟩

/-! ## An image that ends behind its NT headers -/

def clearedImage : Image :=
  ⟨0, 0, 0, 0, fun _ => ⟨0, 0, 0, Vector.replicate 9 0⟩⟩

def shortImage : Buffer := PeImage.fileOf 0x58 [(0, 0x5A4D), (0x3C, 0x40), (0x40, 0x4550)]

theorem short_image_is_left : ¬ ParsesWithin clearedImage 1 0x100000 shortImage :=
  not_parsesWithin (by decide +kernel)

end Gate4Harness.VectoredHandler
