-- What the loading of a PE image touches. The section headers, the optional header and the
-- relocation entries are not all checked against the file, nor the size of the headers against
-- the pages. The loading stays inside exactly if the file has them all in place.
import Gate4Harness.PeImage

namespace Gate4Harness.PeImage

open Buffers Buffer Outcome

/-! ## What the file says -/

/-- The fields of the section header at `header`. -/
def sectionAt (file : Buffer) (header : Nat) : Section where
  virtualSize := file.u32 (header + 8)
  virtualAddress := file.u32 (header + 12)
  rawSize := file.u32 (header + 16)
  rawOffset := file.u32 (header + 20)
  characteristics := file.u32 (header + 36)

def ntOffset (file : Buffer) : Nat := file.u32 0x3C

/-- The headers of the file, read without any check. -/
def headerOf (file : Buffer) : NtHeader where
  nt := ntOffset file
  sectionCount := file.u16 (ntOffset file + 6)
  optionalSize := file.u16 (ntOffset file + 20)
  tlsRva := file.u32 (ntOffset file + 24 + 0xB8)
  loadConfigRva := file.u32 (ntOffset file + 24 + 0xC0)
  loadConfigSize := file.u32 (ntOffset file + 24 + 0xC4)

def imageOf (file : Buffer) : Image where
  loadedSize := file.u32 (ntOffset file + 24 + 0x38)
  sizeOfHeaders := file.u32 (ntOffset file + 24 + 0x3C)
  entryRva := file.u32 (ntOffset file + 24 + 0x10)
  preferredBase := file.u64 (ntOffset file + 24 + 0x18)
  importRva := file.u32 (ntOffset file + 24 + 0x78)
  importSize := file.u32 (ntOffset file + 24 + 0x7C)
  exportRva := file.u32 (ntOffset file + 24 + 0x70)
  exportSize := file.u32 (ntOffset file + 24 + 0x74)
  relocRva := file.u32 (ntOffset file + 24 + 0x98)
  relocSize := file.u32 (ntOffset file + 24 + 0x9C)

/-- The first section header. -/
def firstHeader (file : Buffer) : Nat := ntOffset file + 24 + (headerOf file).optionalSize

/-- These bytes stand at `p`. -/
def ReadsAs (file : Buffer) : (p : Nat) → List Nat → Prop
  | _, [] => True
  | p, value :: rest => (file.byte p).toNat = value ∧ ReadsAs file (p + 1) rest

/-- The file has the DOS magic, room for the first NT headers, and the PE signature. -/
structure Signed (file : Buffer) : Prop where
  size : 0x40 ≤ file.size
  magic : file.u16 0 = 0x5A4D
  room : ntOffset file + 24 ≤ file.size
  signature : ReadsAs file (ntOffset file) [0x50, 0x45, 0, 0]

/-- The file claims the format that the loader knows. -/
def Pe32Plus (file : Buffer) : Prop :=
  file.u16 (ntOffset file + 24) = 0x20B ∧ 0xF0 ≤ (headerOf file).optionalSize

/-- The section at `header` has the bytes in the file. -/
def Maps (file : Buffer) (rva size header : Nat) : Prop :=
  (sectionAt file header).virtualAddress ≤ rva ∧
  rva + size ≤ (sectionAt file header).virtualAddress + (sectionAt file header).rawSize ∧
  (sectionAt file header).rawOffset + (rva - (sectionAt file header).virtualAddress) + size ≤
    file.size

instance (file : Buffer) (rva size header : Nat) : Decidable (Maps file rva size header) :=
  inferInstanceAs (Decidable (_ ∧ _ ∧ _))

/-- The headers up to the first section that has the bytes are in the file, as far as the search
reads them. -/
def SearchedInFile (file : Buffer) (rva size : Nat) : (count : Nat) → (header : Nat) → Prop
  | 0, _ => True
  | count + 1, header => header + 24 ≤ file.size ∧
    (¬ Maps file rva size header → SearchedInFile file rva size count (header + 40))

/-- Where the first section has the bytes. -/
def sectionOffset (file : Buffer) (rva size : Nat) : (count : Nat) → (header : Nat) → Option Nat
  | 0, _ => none
  | count + 1, header =>
    if Maps file rva size header then
      some ((sectionAt file header).rawOffset + (rva - (sectionAt file header).virtualAddress))
    else sectionOffset file rva size count (header + 40)

/-- Where the file has the bytes, if it has them. -/
def fileOffset (file : Buffer) (sizeOfHeaders rva size : Nat) : Option Nat :=
  if rva + size ≤ sizeOfHeaders then if rva + size ≤ file.size then some rva else none
  else sectionOffset file rva size (headerOf file).sectionCount (firstHeader file)

/-! ## The search -/

variable {file : Buffer} {image image' : Image} {rva size count header p : Nat}

/-- One turn of the search. -/
theorem findSection_succ {r : Option Nat} :
    ((findSection file rva size (count + 1) header).Inside ↔ header + 24 ≤ file.size ∧
      (¬ Maps file rva size header → (findSection file rva size count (header + 40)).Inside)) ∧
    (findSection file rva size (count + 1) header = ok r ↔ header + 24 ≤ file.size ∧
      if Maps file rva size header then
        r = some ((sectionAt file header).rawOffset +
          (rva - (sectionAt file header).virtualAddress))
      else findSection file rva size count (header + 40) = ok r) := by
  simp only [findSection, readU32_bind_inside, readU32_bind_eq_ok]
  by_cases hm : Maps file rva size header
  · have hm' := hm
    simp only [Maps, sectionAt] at hm'
    rw [if_pos hm', if_pos hm]
    simp only [pure_eq, ok_inside, hm, not_true_eq_false, false_imp_iff, and_true, ok.injEq]
    refine ⟨by omega, ?_⟩
    constructor
    · rintro ⟨_, _, _, h, rfl⟩
      exact ⟨by omega, rfl⟩
    · rintro ⟨h, rfl⟩
      exact ⟨by omega, by omega, by omega, by omega, rfl⟩
  · have hm' := hm
    simp only [Maps, sectionAt] at hm'
    rw [if_neg hm', if_neg hm]
    simp only [hm, not_false_eq_true, true_imp_iff]
    constructor <;> constructor
    · rintro ⟨_, _, _, h, hrest⟩
      exact ⟨by omega, hrest⟩
    · rintro ⟨h, hrest⟩
      exact ⟨by omega, by omega, by omega, by omega, hrest⟩
    · rintro ⟨_, _, _, h, hrest⟩
      exact ⟨by omega, hrest⟩
    · rintro ⟨h, hrest⟩
      exact ⟨by omega, by omega, by omega, by omega, hrest⟩

theorem findSection_inside : (findSection file rva size count header).Inside ↔
    SearchedInFile file rva size count header := by
  induction count generalizing header with
  | zero => simp [findSection, SearchedInFile]
  | succ count ih =>
    rw [(findSection_succ (r := none)).1, SearchedInFile, ih]

theorem findSection_eq_ok {r : Option Nat} : findSection file rva size count header = ok r ↔
    SearchedInFile file rva size count header ∧ sectionOffset file rva size count header = r := by
  induction count generalizing header with
  | zero => simp [findSection, SearchedInFile, sectionOffset]
  | succ count ih =>
    rw [findSection_succ.2, SearchedInFile, sectionOffset, ih]
    by_cases hm : Maps file rva size header
    · simp [hm, eq_comm]
    · simp [hm, and_assoc]

theorem sectionOffset_le (h : sectionOffset file rva size count header = some p) :
    p + size ≤ file.size := by
  induction count generalizing header with
  | zero => cases h
  | succ count ih =>
    rw [sectionOffset] at h
    split at h
    · rename_i hm
      cases h
      exact hm.2.2
    · exact ih h

theorem fileOffset_le {sizeOfHeaders : Nat} (h : fileOffset file sizeOfHeaders rva size = some p) :
    p + size ≤ file.size := by
  unfold fileOffset at h
  split at h
  · split at h
    · cases h
      assumption
    · cases h
  · exact sectionOffset_le h

/-- What `rva_to_file` needs to be in the file. -/
def Searched (file : Buffer) (sizeOfHeaders rva size : Nat) : Prop :=
  sizeOfHeaders < rva + size →
    SearchedInFile file rva size (headerOf file).sectionCount (firstHeader file)

theorem rvaToFile_eq (hs : Signed file) : rvaToFile file image rva size =
    if rva + size ≤ image.sizeOfHeaders then
      ok (if rva + size ≤ file.size then some rva else none)
    else findSection file rva size (headerOf file).sectionCount (firstHeader file) := by
  have hroom : file.u32 0x3C + 24 ≤ file.size := hs.room
  have hsize := hs.size
  unfold rvaToFile
  split
  · rfl
  · rw [readU32_ok (by omega), ok_bind, readU16_ok (by omega), ok_bind, readU16_ok (by omega),
      ok_bind]
    rfl

theorem rvaToFile_inside (hs : Signed file) : (rvaToFile file image rva size).Inside ↔
    Searched file image.sizeOfHeaders rva size := by
  rw [rvaToFile_eq hs, Searched]
  split
  · simp only [ok_inside, true_iff]
    omega
  · rw [findSection_inside]
    exact ⟨fun h _ => h, fun h => h (by omega)⟩

theorem rvaToFile_eq_ok (hs : Signed file) {r : Option Nat} :
    rvaToFile file image rva size = ok r ↔ Searched file image.sizeOfHeaders rva size ∧
      fileOffset file image.sizeOfHeaders rva size = r := by
  rw [rvaToFile_eq hs, Searched, fileOffset]
  split
  · simp only [ok.injEq]
    exact ⟨fun h => ⟨fun _ => by omega, h⟩, fun h => h.2⟩
  · rw [findSection_eq_ok]
    exact ⟨fun h => ⟨fun _ => h.1, h.2⟩, fun h => ⟨h.1 (by omega), h.2⟩⟩

theorem rvaToFile_of_searched (hs : Signed file) (h : Searched file image.sizeOfHeaders rva size) :
    rvaToFile file image rva size = ok (fileOffset file image.sizeOfHeaders rva size) :=
  (rvaToFile_eq_ok hs).mpr ⟨h, rfl⟩

theorem rvaToFile_of_not_searched (hs : Signed file)
    (h : ¬ Searched file image.sizeOfHeaders rva size) :
    rvaToFile file image rva size = outside := by
  have hn := mt (rvaToFile_inside hs).mp h
  cases hr : rvaToFile file image rva size with
  | outside => rfl
  | ok _ | failed _ | unfinished =>
    rw [hr] at hn
    exact absurd trivial hn

/-! ## The headers -/

theorem hasMagic_ok (file : Buffer) (p : Nat) (values : List Nat)
    (h : p + values.length ≤ file.size) :
    ∃ b, hasMagic file p values = ok b ∧ (b = true ↔ ReadsAs file p values) := by
  induction values generalizing p with
  | nil => exact ⟨true, rfl, by simp [ReadsAs]⟩
  | cons value rest ih =>
    rw [List.length_cons] at h
    obtain ⟨b, hb, hiff⟩ := ih (p + 1) (by omega)
    rw [hasMagic, get_ok (by omega), ok_bind, ReadsAs]
    by_cases hv : (file.byte p).toNat = value
    · rw [if_pos hv]
      exact ⟨b, hb, by simp [hv, hiff]⟩
    · rw [if_neg hv]
      exact ⟨false, rfl, by simp [hv]⟩

/-- The checks stay in the file, and they pass exactly if the file is signed. -/
theorem findNtHeader_spec :
    (findNtHeader file).Inside ∧ ∀ nt, findNtHeader file = ok nt ↔
      Signed file ∧ nt = ntOffset file := by
  unfold findNtHeader
  by_cases hsize : file.size < 0x40
  · rw [failIf_bind, if_pos hsize]
    refine ⟨trivial, fun nt => ⟨nofun, fun h => ?_⟩⟩
    have hmin := h.1.size
    omega
  rw [failIf_bind, if_neg hsize, readU16_ok (by omega), ok_bind]
  by_cases hmagic : file.u16 0 ≠ 0x5A4D
  · rw [failIf_bind, if_pos hmagic]
    exact ⟨trivial, fun nt => ⟨nofun, fun h => absurd h.1.magic hmagic⟩⟩
  rw [failIf_bind, if_neg hmagic, readU32_ok (by omega), ok_bind]
  by_cases hroom : file.u32 0x3C + 24 > file.size
  · rw [failIf_bind, if_pos hroom]
    refine ⟨trivial, fun nt => ⟨nofun, fun h => ?_⟩⟩
    have hfits : file.u32 0x3C + 24 ≤ file.size := h.1.room
    omega
  rw [failIf_bind, if_neg hroom, ok_bind]
  obtain ⟨b, hb, hiff⟩ := hasMagic_ok file (file.u32 0x3C) [0x50, 0x45, 0, 0]
    (by simp only [List.length_cons, List.length_nil]; omega)
  rw [hb, ok_bind, failIf_bind]
  cases b with
  | false =>
    refine ⟨trivial, fun nt => ⟨nofun, fun h => ?_⟩⟩
    exact absurd (hiff.mpr h.1.signature) (by simp)
  | true =>
    refine ⟨trivial, fun nt => ⟨fun h => ?_, fun h => ?_⟩⟩
    · cases h
      exact ⟨⟨by omega, by omega, by simp only [ntOffset]; omega, hiff.mp rfl⟩, rfl⟩
    · rw [h.2]
      rfl

theorem findNtHeader_ends (file : Buffer) :
    Ends True (Signed file) (fun nt => nt = ntOffset file) (findNtHeader file) where
  inside_iff := iff_true_intro findNtHeader_spec.1
  passed _ hs := ⟨ntOffset file, (findNtHeader_spec.2 _).mpr ⟨hs, rfl⟩, rfl⟩
  stopped hn nt hok := hn ((findNtHeader_spec.2 nt).mp hok).1

/-- The optional header is read beyond the part that was checked. -/
theorem readHeaders_spec (hs : Signed file) :
    ((readHeaders file (ntOffset file)).Inside ↔ ntOffset file + 26 ≤ file.size ∧
      (Pe32Plus file → ntOffset file + 24 + 0xC8 ≤ file.size)) ∧
    ∀ r, readHeaders file (ntOffset file) = ok r ↔ Pe32Plus file ∧
      ntOffset file + 24 + 0xC8 ≤ file.size ∧ r = (headerOf file, imageOf file) := by
  have hroom := hs.room
  unfold readHeaders
  rw [readU16_ok (by omega), ok_bind, readU16_ok (by omega), ok_bind]
  simp only [readU16_bind_inside, readU32_bind_inside, readU64_bind_inside, failIf_bind_inside,
    readU16_bind_eq_ok, readU32_bind_eq_ok, readU64_bind_eq_ok, failIf_bind_eq_ok]
  have hformat : ¬ (file.u16 (ntOffset file + 24) ≠ 0x20B ∨ file.u16 (ntOffset file + 20) < 0xF0) ↔
      Pe32Plus file := by
    simp only [Pe32Plus, headerOf]
    omega
  rw [hformat]
  constructor
  · constructor
    · rintro ⟨hmagic, hrest⟩
      exact ⟨hmagic, fun hp => (hrest hp).2.2.2.2.2.2.2.2.2.2.2.2.1⟩
    · rintro ⟨hmagic, hrest⟩
      refine ⟨hmagic, fun hp => ?_⟩
      have h := hrest hp
      exact ⟨by omega, by omega, by omega, by omega, by omega, by omega, by omega, by omega,
        by omega, by omega, by omega, by omega, by omega, trivial⟩
  · intro r
    constructor
    · rintro ⟨_, hp, _, _, _, _, _, _, _, _, _, _, _, _, h, heq⟩
      cases heq
      exact ⟨hp, by omega, rfl⟩
    · rintro ⟨hp, h, rfl⟩
      exact ⟨by omega, hp, by omega, by omega, by omega, by omega, by omega, by omega, by omega,
        by omega, by omega, by omega, by omega, by omega, by omega, rfl⟩

theorem readHeaders_ends (hs : Signed file) :
    Ends (ntOffset file + 26 ≤ file.size ∧ (Pe32Plus file → ntOffset file + 24 + 0xC8 ≤ file.size))
      (Pe32Plus file) (fun r => r = (headerOf file, imageOf file))
      (readHeaders file (ntOffset file)) where
  inside_iff := (readHeaders_spec hs).1
  passed hin hp := ⟨_, ((readHeaders_spec hs).2 _).mpr ⟨hp, hin.2 hp, rfl⟩, rfl⟩
  stopped hn r hok := hn (((readHeaders_spec hs).2 r).mp hok).1

end Gate4Harness.PeImage
