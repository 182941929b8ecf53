-- The two views of a PE image. The loader reads the tables of an image through its file and the
-- program runs from the copied sections. Before the relocations both show the same bytes, as
-- each section is copied to its own place.
import Gate4Harness.PeLoaded

namespace Gate4Harness.PeImage

open Buffers Buffer Outcome

variable {file b b' loaded : Buffer} {image image' : Image} {x : Section} {sections : List Section}
  {rva size count header p q n : Nat}

/-! ## The sections of a file -/

/-- The sections whose headers stand one after another. -/
def sectionsFrom (file : Buffer) : (count header : Nat) → List Section
  | 0, _ => []
  | count + 1, header => sectionAt file header :: sectionsFrom file count (header + 40)

def sectionsOf (file : Buffer) : List Section :=
  sectionsFrom file (headerOf file).sectionCount (firstHeader file)

/-- The address is in the raw range of the section. -/
def Section.Raw (x : Section) (q : Nat) : Prop :=
  x.virtualAddress ≤ q ∧ q < x.virtualAddress + x.rawSize

/-- The raw ranges have no address in common, and none with the headers. -/
structure RawApart (sections : List Section) (sizeOfHeaders : Nat) : Prop where
  disjoint : sections.Pairwise fun x y => ∀ q, ¬ (x.Raw q ∧ y.Raw q)
  above : ∀ x ∈ sections, ∀ q, x.Raw q → sizeOfHeaders ≤ q

/-- What the copy of a section makes of the pages. -/
def copied (file b : Buffer) (x : Section) : Buffer :=
  b.setRange x.virtualAddress x.rawSize fun i => file.byte (x.rawOffset + i)

theorem byte_copied_of_not_raw (h : ¬ x.Raw q) : (copied file b x).byte q = b.byte q := by
  refine byte_setRange_out ?_
  unfold Section.Raw at h
  omega

theorem byte_copied_of_raw (h : x.Raw q) :
    (copied file b x).byte q = file.byte (x.rawOffset + (q - x.virtualAddress)) := by
  obtain ⟨hlow, hhigh⟩ := h
  obtain ⟨i, rfl⟩ := Nat.exists_eq_add_of_le hlow
  rw [copied, byte_setRange_in (by omega), Nat.add_sub_cancel_left]

/-- An address in no raw range keeps its byte. -/
theorem byte_of_no_section (h : ∀ x ∈ sections, ¬ x.Raw q) :
    (sections.foldl (copied file) b).byte q = b.byte q := by
  induction sections generalizing b with
  | nil => rfl
  | cons x rest ih =>
    rw [List.foldl_cons, ih fun y hy => h y (List.mem_cons_of_mem _ hy)]
    exact byte_copied_of_not_raw (h x (List.mem_cons_self ..))

/-- An address in the raw range of one section has the byte of that section. -/
theorem byte_of_section (hapart : sections.Pairwise fun x y => ∀ q, ¬ (x.Raw q ∧ y.Raw q))
    (hx : x ∈ sections) (hq : x.Raw q) : (sections.foldl (copied file) b).byte q =
      file.byte (x.rawOffset + (q - x.virtualAddress)) := by
  induction sections generalizing b with
  | nil => cases hx
  | cons y rest ih =>
    obtain ⟨hfirst, hrest⟩ := List.pairwise_cons.mp hapart
    rw [List.foldl_cons]
    rcases List.mem_cons.mp hx with rfl | hmem
    · -- no later copy touches the byte
      rw [byte_of_no_section fun y hy hraw => hfirst y hy q ⟨hq, hraw⟩]
      exact byte_copied_of_raw hq
    · exact ih hrest hmem

/-! ## The copies of the loader -/

theorem eq_of_copy {src dst : Buffer} (h : src.copy dst p q n = ok b) :
    b = dst.setRange q n fun i => src.byte (p + i) := by
  have hinside : (src.copy dst p q n).Inside := by
    rw [h]
    trivial
  rcases Nat.eq_zero_or_pos n with rfl | hpos
  · rw [setRange_zero]
    cases h
    rfl
  · have hfits := (copy_ends src dst p q n).inside_iff.mp hinside
    rw [copy_ok _ _ _ _ _ (by omega) (by omega)] at h
    cases h
    rfl

theorem eq_of_write {values : List UInt8} (h : b.write p values = ok b') :
    b' = b.setRange p values.length fun i => values.getD i 0 := by
  by_cases hfits : p + values.length ≤ b.size
  · rw [write_ok _ _ _ hfits] at h
    cases h
    rfl
  · cases values with
    | nil =>
      cases h
      exact (setRange_zero _ _ _).symm
    | cons v rest =>
      rw [write_outside _ _ _ (by simp) (by omega)] at h
      cases h

theorem noteMemoryRegion_loaded (h : noteMemoryRegion image x = ok image') :
    image'.loaded = image.loaded := by
  unfold noteMemoryRegion storeMemoryRegion at h
  split at h
  · cases h
    rfl
  · rw [failIf_bind_eq_ok] at h
    obtain ⟨image1, hstore, h⟩ := bind_eq_ok.mp h.2
    rw [failIf_bind_eq_ok] at h
    cases h.2
    split at hstore
    · cases hstore
      rfl
    · cases hstore

theorem noteExecutableRegion_loaded (h : noteExecutableRegion image x = ok image') :
    image'.loaded = image.loaded := by
  unfold noteExecutableRegion storeExecutableRegion at h
  split at h
  · cases h
    rfl
  · rw [failIf_bind_eq_ok] at h
    obtain ⟨-, h⟩ := h
    dsimp only at h
    rw [failIf_bind_eq_ok] at h
    obtain ⟨-, h⟩ := h
    split at h
    · cases h
      rfl
    · cases h

theorem loadSection_copied (h : loadSection file image x = ok image') :
    image'.loaded = copied file image.loaded x := by
  unfold loadSection at h
  obtain ⟨image1, hmemory, h⟩ := bind_eq_ok.mp h
  have hloaded1 := noteMemoryRegion_loaded hmemory
  split at h
  · rename_i hzero
    cases h
    rw [copied, hzero, setRange_zero, hloaded1]
  · rw [failIf_bind_eq_ok] at h
    obtain ⟨image2, hexecutable, h⟩ := bind_eq_ok.mp h.2
    have hloaded2 := noteExecutableRegion_loaded hexecutable
    obtain ⟨loaded, hcopy, h⟩ := bind_eq_ok.mp h
    cases h
    rw [hloaded2, hloaded1] at hcopy
    exact eq_of_copy hcopy

/-- The loop copies the sections in the order of their headers. -/
theorem loadSections_copied (h : loadSections file count header image = ok image') :
    image'.loaded = (sectionsFrom file count header).foldl (copied file) image.loaded := by
  induction count generalizing header image with
  | zero =>
    cases h
    rfl
  | succ count ih =>
    simp only [loadSections, readU32_bind_eq_ok] at h
    obtain ⟨-, -, -, -, -, h⟩ := h
    obtain ⟨image1, hsection, h⟩ := bind_eq_ok.mp h
    rw [ih h, loadSection_copied hsection]
    rfl

/-- New pages hold the headers of the file, and zeros up to the size of the image. -/
theorem allocateImage_bytes {base : Option Nat} (h : allocateImage file base image = ok image') :
    (∀ q < image.sizeOfHeaders, image'.loaded.byte q = file.byte q) ∧
    ∀ q < image.loadedSize, image.sizeOfHeaders ≤ q → image'.loaded.byte q = 0 := by
  unfold allocateImage at h
  rw [failIf_bind_eq_ok] at h
  obtain ⟨-, h⟩ := h
  cases base with
  | none => cases h
  | some base =>
    obtain ⟨zeroed, hzero, h⟩ := bind_eq_ok.mp h
    obtain ⟨loaded, hcopy, h⟩ := bind_eq_ok.mp h
    cases h
    have hzeroed := eq_of_write hzero
    rw [List.length_replicate] at hzeroed
    have hloaded := eq_of_copy hcopy
    simp only [Nat.zero_add] at hloaded
    constructor
    · intro q hq
      have hin := byte_setRange_in (b := zeroed) (p := 0) (f := file.byte) hq
      rw [Nat.zero_add] at hin
      rw [hloaded]
      exact hin
    · intro q hq hheaders
      rw [hloaded, byte_setRange_out (by omega), hzeroed]
      have hin := byte_setRange_in
        (b := { image.loaded with
          size := (image.loadedSize + efiPageSize - 1) / efiPageSize * efiPageSize }) (p := 0)
        (f := fun i => (List.replicate image.loadedSize (0 : UInt8)).getD i 0) hq
      rw [Nat.zero_add] at hin
      rw [hin]
      simp [hq]

/-- The bytes of an image just before its relocations. -/
theorem loadUnrelocated_bytes {r : NtHeader × Image} {base : Option Nat}
    (h : loadUnrelocated file base = ok r) :
    ∃ allocated : Buffer, (∀ q < (imageOf file).sizeOfHeaders, allocated.byte q = file.byte q) ∧
      (∀ q < (imageOf file).loadedSize, (imageOf file).sizeOfHeaders ≤ q → allocated.byte q = 0) ∧
      r.2.loaded = (sectionsOf file).foldl (copied file) allocated := by
  unfold loadUnrelocated at h
  obtain ⟨nt, hnt, h1⟩ := bind_eq_ok.mp h
  obtain ⟨_, hsigned, rfl⟩ := Ends.of_value (findNtHeader_ends file) hnt
  obtain ⟨_, hheaders, h2⟩ := bind_eq_ok.mp h1
  obtain ⟨_, _, rfl⟩ := Ends.of_value (readHeaders_ends hsigned) hheaders
  obtain ⟨image1, hcookie, h3⟩ := bind_eq_ok.mp h2
  obtain ⟨_, _, rva, rfl⟩ := Ends.of_value (readSecurityCookie_ends hsigned) hcookie
  obtain ⟨image2, hallocate, h4⟩ := bind_eq_ok.mp h3
  obtain ⟨hcopied, hzero⟩ := allocateImage_bytes hallocate
  obtain ⟨image3, hsections, h5⟩ := bind_eq_ok.mp h4
  cases h5
  exact ⟨image2.loaded, hcopied, hzero, loadSections_copied hsections⟩

/-! ## The views -/

/-- What the search finds is in the raw range of a section. -/
theorem section_of_found (h : sectionOffset file rva size count header = some p) :
    ∃ x ∈ sectionsFrom file count header, x.virtualAddress ≤ rva ∧
      rva + size ≤ x.virtualAddress + x.rawSize ∧
      p = x.rawOffset + (rva - x.virtualAddress) := by
  induction count generalizing header with
  | zero => cases h
  | succ count ih =>
    rw [sectionOffset] at h
    split at h
    · rename_i hmaps
      exact ⟨sectionAt file header, List.mem_cons_self .., hmaps.1, hmaps.2.1,
        (Option.some.inj h).symm⟩
    · obtain ⟨x, hmem, hx⟩ := ih h
      exact ⟨x, List.mem_cons_of_mem _ hmem, hx⟩

/-- What a lookup finds in the file is in the image too. -/
theorem Loaded.found_le (h : Loaded file image)
    (hheaders : (imageOf file).sizeOfHeaders ≤ (imageOf file).loadedSize) (hsize : 0 < size)
    (hfound : fileOffset file (imageOf file).sizeOfHeaders rva size = some p) :
    rva + size ≤ (imageOf file).loadedSize := by
  obtain ⟨base, _, hfit⟩ := h.sections
  unfold fileOffset at hfound
  split at hfound
  · omega
  · exact hfit.found_le hsize hfound

/-- The file view and the loaded view agree just before the relocations, and what neither the
headers nor a section fills is 0. -/
theorem views_agree {r : NtHeader × Image} {base : Option Nat}
    (hload : loadUnrelocated file base = ok r)
    (hheaders : (imageOf file).sizeOfHeaders ≤ (imageOf file).loadedSize)
    (hapart : RawApart (sectionsOf file) (imageOf file).sizeOfHeaders) :
    (∀ rva size p, 0 < size → rvaToFile file r.2 rva size = ok (some p) →
      rvaToLoaded r.2 rva size = some rva ∧ p + size ≤ file.size ∧
      ∀ i < size, r.2.loaded.byte (rva + i) = file.byte (p + i)) ∧
    ∀ q < r.2.loadedSize, r.2.sizeOfHeaders ≤ q → (∀ x ∈ sectionsOf file, ¬ x.Raw q) →
      r.2.loaded.byte q = 0 := by
  obtain ⟨-, hloaded⟩ := loadUnrelocated_loaded hload
  obtain ⟨_, _, _, hplaced⟩ := hloaded.placed
  obtain ⟨allocated, hcopied, hzero, hbytes⟩ := loadUnrelocated_bytes hload
  rw [hplaced.loadedSize, hplaced.sizeOfHeaders, hbytes]
  constructor
  · intro rva size p hsize hfile
    rw [hloaded.rvaToFile, Outcome.ok.injEq] at hfile
    have hle := hloaded.found_le hheaders hsize hfile
    refine ⟨?_, fileOffset_le hfile, fun i hi => ?_⟩
    · rw [rvaToLoaded, hplaced.loadedSize, if_neg (by omega)]
    · unfold fileOffset at hfile
      split at hfile
      · -- the headers, which no section covers
        rename_i hin
        split at hfile
        · cases hfile
          have hnone : ∀ x ∈ sectionsOf file, ¬ x.Raw (rva + i) := by
            intro x hx hraw
            have := hapart.above x hx (rva + i) hraw
            omega
          rw [byte_of_no_section hnone]
          exact hcopied _ (by omega)
        · cases hfile
      · obtain ⟨x, hx, hlow, hhigh, rfl⟩ := section_of_found hfile
        have hraw : x.Raw (rva + i) := ⟨by omega, by omega⟩
        rw [byte_of_section hapart.disjoint hx hraw, Nat.sub_add_comm hlow, Nat.add_assoc]
  · intro q hq habove hnone
    rw [byte_of_no_section hnone]
    exact hzero q hq habove

/-! ## A file with a section -/

/-- The section has 8 bytes, at 0x170 in the file and at 0x178 in the image. -/
def sectionFile : Buffer :=
  fileOf 0x178
    [(0, 0x5A4D), (0x3C, 0x40), (0x40, 0x4550), (0x46, 1), (0x54, 0xF0), (0x58, 0x20B),
      (0x70, 0x100000), (0x90, 0x180), (0x94, 0x170), (0x150, 8), (0x154, 0x178), (0x158, 8),
      (0x15C, 0x170), (0x170, 0x1122334455667788)]

theorem sectionFile_rawApart :
    RawApart (sectionsOf sectionFile) (imageOf sectionFile).sizeOfHeaders := by
  have hone : (sectionsOf sectionFile).length = 1 := by decide +kernel
  have habove : (sectionsOf sectionFile).all (fun x =>
      decide ((imageOf sectionFile).sizeOfHeaders ≤ x.virtualAddress)) = true := by decide +kernel
  refine ⟨?_, fun x hx q hq => ?_⟩
  · obtain ⟨x, hx⟩ := List.length_eq_one_iff.mp hone
    rw [hx]
    exact List.pairwise_singleton ..
  · exact Nat.le_trans (of_decide_eq_true (List.all_eq_true.mp habove x hx)) hq.1

theorem views_of_sectionFile_agree :
    ∃ r, loadUnrelocated sectionFile (some 0x100000) = ok r ∧
      rvaToFile sectionFile r.2 0x17A 4 = ok (some 0x172) ∧
      rvaToLoaded r.2 0x17A 4 = some 0x17A ∧
      ∀ i < 4, r.2.loaded.byte (0x17A + i) = sectionFile.byte (0x172 + i) := by
  have hgives : gives (fun _ => true) (loadUnrelocated sectionFile (some 0x100000)) = true := by
    decide +kernel
  obtain ⟨r, hload, -⟩ := exists_of_gives hgives
  have hfound : fileOffset sectionFile (imageOf sectionFile).sizeOfHeaders 0x17A 4 = some 0x172 := by
    decide +kernel
  have hfile : rvaToFile sectionFile r.2 0x17A 4 = ok (some 0x172) := by
    rw [(loadUnrelocated_loaded hload).2.rvaToFile, hfound]
  have hviews := views_agree hload (by decide +kernel) sectionFile_rawApart
  obtain ⟨hloaded, -, hbytes⟩ := hviews.1 0x17A 4 0x172 (by decide) hfile
  exact ⟨r, hload, hfile, hloaded, hbytes⟩

end Gate4Harness.PeImage
