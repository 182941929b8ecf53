-- What an image is when its sections are in place: its headers are those of the file, every
-- lookup in the file stays in it, and what a lookup finds ends below the end of 32 bits.
import Gate4Harness.PeLoading
import Gate4Harness.BufferContents

namespace Gate4Harness.PeImage

open Buffers Buffer Outcome

variable {file : Buffer} {image : Image} {base memory executable : Nat} {exports : List String}
  {rva size count header p fuel : Nat}

/-! ## The stages -/

/-- The stages of `load_pe_image` before the relocations. -/
def loadUnrelocated (file : Buffer) (base : Option Nat) : Outcome (NtHeader × Image) := do
  let nt ← findNtHeader file
  let (h, image) ← readHeaders file nt
  let image ← readSecurityCookie file h image
  let image ← allocateImage file base image
  let image ← loadSections file h.sectionCount (h.nt + 24 + h.optionalSize) image
  return (h, image)

/-- The relocations and all after them go on from these stages. -/
theorem loadPeImage_eq (base : Option Nat) :
    loadPeImage file base exports fuel = (loadUnrelocated file base >>= fun r => do
      let image ← applyRelocations file fuel r.2
      let image ← findAllManaged exports image
      readTlsDirectory file r.1 image) := by
  unfold loadPeImage loadUnrelocated
  rw [bind_bind]
  refine bind_eq_bind fun nt => ?_
  rw [bind_bind]
  refine bind_eq_bind fun r => ?_
  rw [bind_bind]
  refine bind_eq_bind fun image => ?_
  rw [bind_bind]
  refine bind_eq_bind fun image => ?_
  rw [bind_bind]
  refine bind_eq_bind fun image => ?_
  rw [pure_eq, ok_bind]

/-! ## The sections in place -/

/-- The sections are in the file, they have passed their checks, and the image has its pages. -/
structure Loaded (file : Buffer) (image : Image) : Prop where
  signed : Signed file
  headers_le : (imageOf file).sizeOfHeaders ≤ file.size
  placed : ∃ base memory executable, Placed file base memory executable image
  sections : ∃ base,
    SectionsInFile file base 0 0 (headerOf file).sectionCount (firstHeader file) ∧
      SectionsFit file base 0 0 (headerOf file).sectionCount (firstHeader file)

theorem Loaded.searched (h : Loaded file image) : AllSearched file := by
  obtain ⟨base, hin, hfit⟩ := h.sections
  exact fun _ _ _ _ => hin.searched hfit

theorem Loaded.rvaToFile (h : Loaded file image) (rva size : Nat) :
    rvaToFile file image rva size =
      ok (fileOffset file (imageOf file).sizeOfHeaders rva size) := by
  obtain ⟨base, memory, executable, hplaced⟩ := h.placed
  rw [← hplaced.sizeOfHeaders]
  exact rvaToFile_of_searched h.signed (h.searched _ _ _)

theorem Loaded.loadedSize_le (h : Loaded file image) : image.loadedSize ≤ image.loaded.size := by
  obtain ⟨base, memory, executable, hplaced⟩ := h.placed
  exact hplaced.loadedSize_le

theorem SectionsFit.found_le (h : SectionsFit file base memory executable count header)
    (hsize : 0 < size) (hfound : sectionOffset file rva size count header = some p) :
    rva + size ≤ (imageOf file).loadedSize := by
  induction count generalizing memory executable header with
  | zero => cases hfound
  | succ count ih =>
    rw [sectionOffset] at hfound
    split at hfound
    · rename_i hmaps
      obtain ⟨hlow, hhigh, _⟩ := hmaps
      rcases h.1.2 with hraw | ⟨_, hfits, _⟩
      · omega
      · omega
    · exact ih h.2 hfound

/-- What a lookup finds ends below the end of 32 bits. -/
theorem Loaded.found_lt (h : Loaded file image) (hsize : 0 < size)
    (hfound : fileOffset file (imageOf file).sizeOfHeaders rva size = some p) :
    rva + size < 2 ^ 32 := by
  have hheaders : (imageOf file).sizeOfHeaders < 2 ^ 32 := u32_lt _ _
  have himage : (imageOf file).loadedSize < 2 ^ 32 := u32_lt _ _
  obtain ⟨base, _, hfit⟩ := h.sections
  unfold fileOffset at hfound
  split at hfound
  · omega
  · have hle := hfit.found_le hsize hfound
    omega

theorem loadUnrelocated_loaded {r : NtHeader × Image} {base : Option Nat}
    (h : loadUnrelocated file base = ok r) : r.1 = headerOf file ∧ Loaded file r.2 := by
  unfold loadUnrelocated at h
  obtain ⟨nt, hnt, h1⟩ := bind_eq_ok.mp h
  obtain ⟨_, hsigned, rfl⟩ := Ends.of_value (findNtHeader_ends file) hnt
  obtain ⟨_, hheaders, h2⟩ := bind_eq_ok.mp h1
  obtain ⟨_, _, rfl⟩ := Ends.of_value (readHeaders_ends hsigned) hheaders
  obtain ⟨image1, hcookie, h3⟩ := bind_eq_ok.mp h2
  obtain ⟨_, _, himage1⟩ := Ends.of_value (readSecurityCookie_ends hsigned) hcookie
  obtain ⟨image2, hallocate, h4⟩ := bind_eq_ok.mp h3
  obtain ⟨_, ⟨hfit, hbase⟩, hplaced⟩ := Ends.of_value (allocateImage_ends himage1) hallocate
  obtain ⟨image3, hsections, h5⟩ := bind_eq_ok.mp h4
  obtain ⟨b, hb⟩ := Option.ne_none_iff_exists'.mp hbase
  obtain ⟨hin, hall, memory, executable, hplaced'⟩ :=
    Ends.of_value (loadSections_ends _ _ (hplaced b hb)) hsections
  cases h5
  exact ⟨rfl, hsigned, hfit.2, ⟨b, memory, executable, hplaced'⟩, b, hin, hall⟩

/-! ## A small file -/

/-- The bytes of a file by its fields, each an offset and a value, the lowest byte first. -/
def fileOf (size : Nat) (fields : List (Nat × Nat)) : Buffer where
  size
  byte p := UInt8.ofNat ((fields.map fun f => f.2 * 2 ^ (8 * f.1)).sum / 2 ^ (8 * p))

/-- An image of headers only, which exports `ManagedMain`. -/
def headerFields (size : Nat) : List (Nat × Nat) :=
  [(0, 0x5A4D), (0x3C, 0x40), (0x40, 0x4550), (0x54, 0xF0), (0x58, 0x20B), (0x70, 0x100000),
    (0x90, size), (0x94, size), (0xC8, 0x148), (0xCC, 40), (0x15C, 1), (0x160, 1), (0x164, 0x170),
    (0x168, 0x174), (0x16C, 0x178), (0x170, 0x10), (0x174, 0x17A),
    (0x17A, 0x6E69614D646567616E614D)]

end Gate4Harness.PeImage
