-- The pages of a PE image and the copying of its sections. The headers of the image are copied
-- without a look at the size of the pages, and the section headers are read without a look at
-- the size of the file; every section itself is checked against both.
import Gate4Harness.PeImageLaws

namespace Gate4Harness.PeImage

open Buffers Buffer Outcome

variable {file : Buffer} {image : Image} {base memory executable : Nat} {x : Section}

/-! ## The pages -/

/-- The bytes of the pages that an image of this size gets. -/
def pageBytes (size : Nat) : Nat := (size + efiPageSize - 1) / efiPageSize * efiPageSize

theorem le_pageBytes (size : Nat) : size ≤ pageBytes size := by
  unfold pageBytes efiPageSize
  omega

/-- The image has its pages at `base`, what the headers say, and these many regions. -/
structure Placed (file : Buffer) (base memory executable : Nat) (image : Image) : Prop where
  loadedSize : image.loadedSize = (imageOf file).loadedSize
  sizeOfHeaders : image.sizeOfHeaders = (imageOf file).sizeOfHeaders
  preferredBase : image.preferredBase = (imageOf file).preferredBase
  relocRva : image.relocRva = (imageOf file).relocRva
  relocSize : image.relocSize = (imageOf file).relocSize
  actualBase : image.actualBase = base
  pages : image.loaded.size = pageBytes (imageOf file).loadedSize
  memory : image.memoryRegions.length = memory
  executable : image.executableRegions.length = executable

theorem Placed.loaded (h : Placed file base memory executable image) {loaded : Buffer}
    (hsize : loaded.size = image.loaded.size) :
    Placed file base memory executable { image with loaded } :=
  { h with pages := hsize.trans h.pages }

theorem Placed.loadedSize_le (h : Placed file base memory executable image) :
    image.loadedSize ≤ image.loaded.size := by
  rw [h.loadedSize, h.pages]
  exact le_pageBytes _

/-- Only the address of the image decides whether it is moved. -/
theorem Placed.delta (h : Placed file base memory executable image) :
    image.delta = { imageOf file with actualBase := base }.delta := by
  unfold Image.delta
  rw [h.actualBase, h.preferredBase]

/-! ## The security cookie -/

def HasLoadConfig (file : Buffer) : Prop :=
  (headerOf file).loadConfigRva ≠ 0 ∧ (headerOf file).loadConfigSize ≥ 0x60

instance (file : Buffer) : Decidable (HasLoadConfig file) :=
  inferInstanceAs (Decidable (_ ∧ _))

/-- A load configuration is in the file, and its cookie is in the image, if it has one. -/
def CookieFits (file : Buffer) : Prop :=
  HasLoadConfig file → ∃ p, fileOffset file (imageOf file).sizeOfHeaders
    (headerOf file).loadConfigRva 0x60 = some p ∧ (file.u64 (p + 0x58) ≠ 0 →
      (imageOf file).preferredBase ≤ file.u64 (p + 0x58) ∧
      file.u64 (p + 0x58) - (imageOf file).preferredBase ≤ uint32Max)

/-- The image as the headers give it, but for the cookie. -/
def IsHeaderImage (file : Buffer) (image : Image) : Prop :=
  ∃ rva, image = { imageOf file with securityCookieRva := rva }

theorem readSecurityCookie_ends (hs : Signed file) :
    Ends (HasLoadConfig file → Searched file (imageOf file).sizeOfHeaders
        (headerOf file).loadConfigRva 0x60)
      (CookieFits file) (IsHeaderImage file)
      (readSecurityCookie file (headerOf file) (imageOf file)) := by
  unfold readSecurityCookie
  by_cases hc : HasLoadConfig file
  · have hc' := hc
    unfold HasLoadConfig at hc'
    rw [if_pos hc']
    simp only [hc, true_imp_iff, CookieFits]
    by_cases hsearch : Searched file (imageOf file).sizeOfHeaders (headerOf file).loadConfigRva 0x60
    · rw [rvaToFile_of_searched hs hsearch, ok_bind]
      cases hoff : fileOffset file (imageOf file).sizeOfHeaders (headerOf file).loadConfigRva 0x60 with
      | none => exact Ends.congr (Ends.failed _) (by simp [hsearch]) (by simp)
      | some p =>
        have hp := fileOffset_le hoff
        dsimp only
        rw [readU64_eq, if_pos (by omega), ok_bind]
        by_cases hzero : file.u64 (p + 0x58) ≠ 0
        · rw [if_pos hzero]
          refine Ends.congr (Ends.failIf_bind fun _ => Ends.ok ⟨_, rfl⟩) (by simp [hsearch]) ?_
          simp [hzero]
        · rw [if_neg hzero]
          exact Ends.congr (Ends.ok ⟨0, rfl⟩) (by simp [hsearch]) (by simp [hzero])
    · rw [rvaToFile_of_not_searched hs hsearch, outside_bind]
      exact Ends.congr Ends.outside (by simp [hsearch]) Iff.rfl
  · have hc' := hc
    unfold HasLoadConfig at hc'
    rw [if_neg hc']
    exact Ends.congr (Ends.ok ⟨0, rfl⟩) (by simp [hc]) (by simp [CookieFits, hc])

/-! ## The allocation -/

/-- The image has bytes, and its headers are in the file. -/
def HeadersFit (file : Buffer) : Prop :=
  (imageOf file).loadedSize ≠ 0 ∧ (imageOf file).sizeOfHeaders ≤ file.size

theorem allocateImage_ends {b : Option Nat} (h : IsHeaderImage file image) :
    Ends (HeadersFit file ∧ b ≠ none →
        (imageOf file).sizeOfHeaders ≤ pageBytes (imageOf file).loadedSize)
      (HeadersFit file ∧ b ≠ none)
      (fun image' => ∀ base, b = some base → Placed file base 0 0 image')
      (allocateImage file b image) := by
  obtain ⟨rva, rfl⟩ := h
  simp only [allocateImage, pure_eq]
  have hcheck : ¬ ((imageOf file).loadedSize = 0 ∨ (imageOf file).sizeOfHeaders > file.size) ↔
      HeadersFit file := by
    unfold HeadersFit
    omega
  have hpages := le_pageBytes (imageOf file).loadedSize
  cases b with
  | none => exact Ends.congr (Ends.failIf_bind fun _ => Ends.failed _) (by simp) (by simp)
  | some base =>
    have hcopied : ∀ loaded : Buffer, HeadersFit file →
        loaded.size = pageBytes (imageOf file).loadedSize →
        Ends ((imageOf file).sizeOfHeaders ≤ pageBytes (imageOf file).loadedSize)
          True (fun loaded' => loaded'.size = pageBytes (imageOf file).loadedSize)
          (file.copy loaded 0 0 (imageOf file).sizeOfHeaders) := by
      intro loaded hfit hsize
      rw [← hsize]
      refine Ends.congr (copy_ends _ _ _ _ _) ?_ Iff.rfl
      have hheaders := hfit.2
      omega
    refine Ends.congr (Ends.failIf_bind fun hn => (write_ends _ _ _).bind fun _ loaded hsize =>
      (hcopied loaded (hcheck.mp hn) hsize).bind fun _ loaded' hsize' => Ends.ok ?_) ?_ ?_
    · rintro _ ⟨⟩
      exact ⟨rfl, rfl, rfl, rfl, rfl, rfl, hsize', rfl, rfl⟩
    · rw [hcheck]
      simp only [List.length_replicate, Nat.zero_add, true_imp_iff, and_true, ne_eq,
        reduceCtorEq, not_false_eq_true]
      exact ⟨fun h hfit => (h hfit).2, fun h hfit => ⟨.inr hpages, h hfit⟩⟩
    · rw [hcheck]
      simp

/-! ## The sections -/

/-- The region of the section has room in the image and in the table. -/
def MemoryFits (file : Buffer) (base memory : Nat) (x : Section) : Prop :=
  x.extent = 0 ∨ (memory < maxMemoryRegions ∧
    x.virtualAddress + x.extent ≤ (imageOf file).loadedSize ∧
    base ≤ uintptrMax - x.virtualAddress ∧ x.extent ≤ uintptrMax - (base + x.virtualAddress))

def ExecutableFits (file : Buffer) (base executable : Nat) (x : Section) : Prop :=
  x.characteristics.testBit 29 = false ∨ (executable < maxExecutableRegions ∧
    x.codeSize ≠ 0 ∧ x.virtualAddress + x.codeSize ≤ (imageOf file).loadedSize ∧
    base ≤ uintptrMax - x.virtualAddress ∧ x.codeSize ≤ uintptrMax - (base + x.virtualAddress))

/-- The section passes its checks, after these many regions. -/
def SectionFits (file : Buffer) (base memory executable : Nat) (x : Section) : Prop :=
  MemoryFits file base memory x ∧ (x.rawSize = 0 ∨
    (x.rawOffset + x.rawSize ≤ file.size ∧
      x.virtualAddress + x.rawSize ≤ (imageOf file).loadedSize ∧
      ExecutableFits file base executable x))

/-- How many regions the section adds. -/
def Section.memoryRegions (x : Section) : Nat := if x.extent = 0 then 0 else 1

def Section.executableRegions (x : Section) : Nat :=
  if x.characteristics.testBit 29 = false then 0 else 1

theorem noteMemoryRegion_ends (h : Placed file base memory executable image) :
    Ends True (MemoryFits file base memory x)
      (Placed file base (memory + x.memoryRegions) executable) (noteMemoryRegion image x) := by
  obtain ⟨hsize, hheaders, hpreferred, hrva, hreloc, rfl, hpages, rfl, rfl⟩ := h
  unfold noteMemoryRegion Section.memoryRegions MemoryFits
  rw [← hsize]
  by_cases hx : x.extent = 0
  · rw [if_pos hx, if_pos hx]
    exact Ends.congr (Ends.ok ⟨hsize, hheaders, hpreferred, hrva, hreloc, rfl, hpages, rfl, rfl⟩)
      Iff.rfl (by simp [hx])
  rw [if_neg hx, if_neg hx]
  by_cases hroom : image.memoryRegions.length < maxMemoryRegions
  · simp only [storeMemoryRegion, if_pos hroom, pure_eq, ok_bind]
    refine Ends.congr (Ends.failIf_bind fun _ => Ends.failIf_bind fun _ => Ends.ok ?_) (by simp) ?_
    · exact ⟨hsize, hheaders, hpreferred, hrva, hreloc, rfl, hpages, by simp, rfl⟩
    · simp only [hx, hroom, false_or, true_and, not_or, Nat.not_le, Nat.not_lt, gt_iff_lt, ge_iff_le,
        and_true, and_assoc]
  · rw [failIf_bind, if_pos (.inl (by omega))]
    exact Ends.congr (Ends.failed _) Iff.rfl (by simp [hx, hroom])

theorem noteExecutableRegion_ends (h : Placed file base memory executable image) :
    Ends True (ExecutableFits file base executable x)
      (Placed file base memory (executable + x.executableRegions))
      (noteExecutableRegion image x) := by
  obtain ⟨hsize, hheaders, hpreferred, hrva, hreloc, rfl, hpages, rfl, rfl⟩ := h
  unfold noteExecutableRegion Section.executableRegions ExecutableFits
  rw [← hsize]
  by_cases hx : x.characteristics.testBit 29 = false
  · rw [if_pos hx, if_pos hx]
    exact Ends.congr (Ends.ok ⟨hsize, hheaders, hpreferred, hrva, hreloc, rfl, hpages, rfl, rfl⟩)
      Iff.rfl (by simp [hx])
  rw [if_neg hx, if_neg hx]
  by_cases hroom : image.executableRegions.length < maxExecutableRegions
  · simp only [storeExecutableRegion, if_pos hroom, pure_eq]
    refine Ends.congr (Ends.failIf_bind fun _ => Ends.failIf_bind fun _ => Ends.ok ?_) (by simp) ?_
    · exact ⟨hsize, hheaders, hpreferred, hrva, hreloc, rfl, hpages, rfl, by simp⟩
    · simp only [hx, hroom, false_or, true_and, not_or, Nat.not_le, Nat.not_lt, gt_iff_lt, ge_iff_le,
        and_true, and_assoc, ne_eq, reduceCtorEq]
  · rw [failIf_bind, if_pos (.inl (by omega))]
    exact Ends.congr (Ends.failed _) Iff.rfl (by simp [hx, hroom])

theorem loadSection_ends (h : Placed file base memory executable image) :
    Ends True (SectionFits file base memory executable x)
      (Placed file base (memory + x.memoryRegions)
        (executable + if x.rawSize = 0 then 0 else x.executableRegions))
      (loadSection file image x) := by
  unfold loadSection SectionFits
  by_cases hraw : x.rawSize = 0
  · simp only [if_pos hraw]
    refine Ends.congr ((noteMemoryRegion_ends h).bind fun _ image1 h1 => Ends.ok h1) (by simp) ?_
    simp [hraw]
  · simp only [if_neg hraw]
    have hcopied : ∀ image1 : Image,
        Placed file base (memory + x.memoryRegions) (executable + x.executableRegions) image1 →
        x.rawOffset + x.rawSize ≤ file.size →
        x.virtualAddress + x.rawSize ≤ (imageOf file).loadedSize →
        Ends True True (fun loaded => loaded.size = image1.loaded.size)
          (file.copy image1.loaded x.rawOffset x.virtualAddress x.rawSize) := by
      intro image1 h1 hfile himage
      have hpages := h1.loadedSize_le
      rw [h1.loadedSize] at hpages
      exact Ends.congr (copy_ends _ _ _ _ _) (by simp only [iff_true]; omega) Iff.rfl
    have hrest : ∀ image1 : Image, Placed file base (memory + x.memoryRegions) executable image1 →
        Ends True (x.rawOffset + x.rawSize ≤ file.size ∧
            x.virtualAddress + x.rawSize ≤ (imageOf file).loadedSize ∧
            ExecutableFits file base executable x)
          (Placed file base (memory + x.memoryRegions) (executable + x.executableRegions))
          (do
            failIf (x.rawOffset + x.rawSize > file.size ∨
              x.virtualAddress + x.rawSize > image1.loadedSize) "section-bounds"
            let image2 ← noteExecutableRegion image1 x
            let loaded ← file.copy image2.loaded x.rawOffset x.virtualAddress x.rawSize
            return { image2 with loaded }) := by
      intro image1 h1
      rw [h1.loadedSize]
      refine Ends.congr (Ends.failIf_bind fun hn => (noteExecutableRegion_ends h1).bind
        fun _ image2 h2 => (hcopied image2 h2 (by omega) (by omega)).bind
          fun _ loaded hloaded => Ends.ok (h2.loaded hloaded)) (by simp) ?_
      simp only [not_or, Nat.not_lt, gt_iff_lt, and_true, and_assoc]
    refine Ends.congr ((noteMemoryRegion_ends h).bind fun _ image1 h1 => hrest image1 h1) (by simp) ?_
    simp [hraw]

/-- The section headers are in the file, up to the first section that fails its checks. -/
def SectionsInFile (file : Buffer) (base : Nat) : (memory executable count header : Nat) → Prop
  | _, _, 0, _ => True
  | memory, executable, count + 1, header =>
    let x := sectionAt file header
    header + 40 ≤ file.size ∧ (SectionFits file base memory executable x →
      SectionsInFile file base (memory + x.memoryRegions)
        (executable + if x.rawSize = 0 then 0 else x.executableRegions) count (header + 40))

/-- Every section passes its checks. -/
def SectionsFit (file : Buffer) (base : Nat) : (memory executable count header : Nat) → Prop
  | _, _, 0, _ => True
  | memory, executable, count + 1, header =>
    let x := sectionAt file header
    SectionFits file base memory executable x ∧ SectionsFit file base (memory + x.memoryRegions)
      (executable + if x.rawSize = 0 then 0 else x.executableRegions) count (header + 40)

theorem loadSections_ends (count header : Nat) (h : Placed file base memory executable image) :
    Ends (SectionsInFile file base memory executable count header)
      (SectionsFit file base memory executable count header)
      (fun image' => ∃ memory' executable', Placed file base memory' executable' image')
      (loadSections file count header image) := by
  induction count generalizing memory executable header image with
  | zero => exact Ends.ok ⟨memory, executable, h⟩
  | succ count ih =>
    have hrest := (loadSection_ends (x := sectionAt file header) h).bind fun _ image' h' =>
      ih (header + 40) h'
    by_cases hheader : header + 40 ≤ file.size
    · simp only [loadSections, readU32_eq]
      iterate 5 rw [if_pos (by omega), ok_bind]
      exact Ends.congr hrest (by simp [SectionsInFile, hheader]) Iff.rfl
    · have hout : ¬ (loadSections file (count + 1) header image).Inside := by
        simp only [loadSections, readU32_bind_inside]
        omega
      refine ⟨by simp [SectionsInFile, hheader, hout], ?_, ?_⟩
      · rintro ⟨hin, _⟩
        exact absurd hin hheader
      · intro _ image' hok
        rw [hok] at hout
        exact hout trivial

/-- A search over headers that are all in the file stays in the file. -/
theorem SectionsInFile.searched {count header rva size : Nat}
    (h : SectionsInFile file base memory executable count header)
    (hfit : SectionsFit file base memory executable count header) :
    SearchedInFile file rva size count header := by
  induction count generalizing memory executable header with
  | zero => trivial
  | succ count ih =>
    obtain ⟨hheader, hrest⟩ := h
    exact ⟨by omega, fun _ => ih (hrest hfit.1) hfit.2⟩

end Gate4Harness.PeImage
