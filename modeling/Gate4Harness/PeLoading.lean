-- The loading of a PE image as a whole. It stays inside of its buffers exactly if the file has
-- in place the few things that no check looks at.
import Gate4Harness.PeRelocations

namespace Gate4Harness.PeImage

open Buffers Buffer Outcome

variable {file view : Buffer} {image : Image} {name : CString} {count i rva : Nat}
  {exports : List String}

/-! ## The exports and the thread-local storage -/

theorem textEqualsFrom_inside : (textEqualsFrom view rva name count i).Inside := by
  induction count generalizing i with
  | zero => trivial
  | succ count ih =>
    unfold textEqualsFrom
    split
    · refine get_bind_inside.mpr ⟨by omega, ?_⟩
      split
      · trivial
      · split
        · trivial
        · exact ih
    · trivial

theorem findName_inside {tables : ExportTables}
    (hnames : tables.namesRva + (i + count) * 4 ≤ image.loadedSize)
    (hordinals : tables.ordinalsRva + (i + count) * 2 ≤ image.loadedSize)
    (hfunctions : tables.functionsRva + tables.functionCount * 4 ≤ image.loadedSize) :
    (findName image tables name count i).Inside := by
  induction count generalizing i with
  | zero => trivial
  | succ count ih =>
    have hsize : image.view.size = image.loadedSize := rfl
    have hrest : (findName image tables name count (i + 1)).Inside := ih (by omega) (by omega)
    unfold findName
    rw [readU32_bind_inside, readU16_bind_inside]
    refine ⟨by omega, by omega, ?_⟩
    by_cases hordinal : image.view.u16 (tables.ordinalsRva + i * 2) < tables.functionCount ∧
        rangeValid image.loadedSize (image.view.u32 (tables.namesRva + i * 4)) 1
    · rw [if_pos hordinal, bind_inside]
      refine ⟨textEqualsFrom_inside, fun equal _ => ?_⟩
      cases equal with
      | false => exact hrest
      | true =>
        dsimp only
        rw [if_pos rfl, readU32_bind_inside]
        refine ⟨by omega, ?_⟩
        split
        · trivial
        · split <;> trivial
    · rw [if_neg hordinal]
      exact hrest

/-- The search for an export checks every table before it reads it. -/
theorem findExport_inside : (findExport image name).Inside := by
  have hsize : image.view.size = image.loadedSize := rfl
  unfold findExport
  split
  · trivial
  split
  · trivial
  split
  · trivial
  next hdirectory =>
  simp only [not_or, Classical.not_not, rangeValid] at hdirectory
  simp only [readU32_bind_inside]
  refine ⟨by omega, by omega, by omega, by omega, by omega, by omega, ?_⟩
  split
  · trivial
  next htables =>
  simp only [not_or, Classical.not_not, rangeValid] at htables
  exact findName_inside (by simp only; omega) (by simp only; omega) (by simp only; omega)

theorem findAllManaged_inside : (findAllManaged exports image).Inside := by
  induction exports generalizing image with
  | nil => trivial
  | cons name rest ih =>
    refine bind_inside.mpr ⟨bind_inside.mpr ⟨findExport_inside, fun status _ => ?_⟩, fun _ _ => ih⟩
    cases status <;> trivial

theorem readTlsDirectory_inside (hs : Signed file) (hall : AllSearched file) (h : NtHeader) :
    (readTlsDirectory file h image).Inside := by
  unfold readTlsDirectory
  split
  · rw [rvaToFile_of_searched hs (hall _ _ _), ok_bind]
    cases hoff : fileOffset file image.sizeOfHeaders h.tlsRva 40 with
    | none => trivial
    | some tls =>
      have hin := fileOffset_le hoff
      simp only [readU64_bind_inside, failIf_bind_inside]
      refine ⟨by omega, by omega, by omega, by omega, fun _ => ?_⟩
      split
      · exact failIf_bind_inside.mpr fun _ => trivial
      · trivial
  · trivial

/-! ## The whole -/

/-- The checks on the headers pass. -/
def HeadersPass (file : Buffer) : Prop :=
  Signed file ∧ Pe32Plus file ∧ CookieFits file ∧ HeadersFit file

/-- What the loader takes to be in place. Each is needed only if the checks before it pass. -/
structure InPlace (file : Buffer) (base : Option Nat) : Prop where
  /-- The magic of the optional header is in the file. -/
  magic : Signed file → ntOffset file + 26 ≤ file.size
  /-- So are its fields. -/
  optional : Signed file → Pe32Plus file → ntOffset file + 24 + 0xC8 ≤ file.size
  /-- The search for the load configuration stays in the file. -/
  loadConfig : Signed file → Pe32Plus file → HasLoadConfig file →
    Searched file (imageOf file).sizeOfHeaders (headerOf file).loadConfigRva 0x60
  /-- The pages of the image have room for its headers. -/
  headers : HeadersPass file → base ≠ none →
    (imageOf file).sizeOfHeaders ≤ pageBytes (imageOf file).loadedSize
  /-- The section headers are in the file. -/
  sections : HeadersPass file → ∀ b, base = some b →
    SectionsInFile file b 0 0 (headerOf file).sectionCount (firstHeader file)
  /-- The file has the relocation entries that its blocks announce. -/
  relocations : HeadersPass file → ∀ b, base = some b →
    SectionsFit file b 0 0 (headerOf file).sectionCount (firstHeader file) →
    Relocated file b → RelocationsInFile file

/-- The last stages need the section headers, which are in the file by then. -/
theorem loadRest_inside (hs : Signed file) {b : Nat}
    (hin : SectionsInFile file b 0 0 (headerOf file).sectionCount (firstHeader file))
    (hfit : SectionsFit file b 0 0 (headerOf file).sectionCount (firstHeader file))
    {memory executable : Nat} (h : Placed file b memory executable image) :
    (∀ fuel, (do
      let image ← applyRelocations file fuel image
      let image ← findAllManaged exports image
      readTlsDirectory file (headerOf file) image).Inside) ↔
      (Relocated file b → RelocationsInFile file) := by
  have hall : AllSearched file := fun _ _ _ _ => hin.searched hfit
  have hrest : ∀ image : Image, (findAllManaged exports image >>= fun image =>
      readTlsDirectory file (headerOf file) image).Inside := fun image =>
    bind_inside.mpr ⟨findAllManaged_inside, fun image' _ => readTlsDirectory_inside hs hall _⟩
  rw [← applyRelocations_inside hs hall h]
  exact forall_congr' fun fuel => bind_inside.trans (and_iff_left fun image' _ => hrest image')

/-- The sections and relocations have what they need, with the image at this address. -/
def SectionsInPlace (file : Buffer) (b : Nat) : Prop :=
  SectionsInFile file b 0 0 (headerOf file).sectionCount (firstHeader file) ∧
    (SectionsFit file b 0 0 (headerOf file).sectionCount (firstHeader file) →
      Relocated file b → RelocationsInFile file)

theorem loadSections_inside (hs : Signed file) {b : Nat} (h : Placed file b 0 0 image) :
    (∀ fuel, (do
      let image ← loadSections file (headerOf file).sectionCount (firstHeader file) image
      let image ← applyRelocations file fuel image
      let image ← findAllManaged exports image
      readTlsDirectory file (headerOf file) image).Inside) ↔ SectionsInPlace file b := by
  by_cases hin : SectionsInFile file b 0 0 (headerOf file).sectionCount (firstHeader file)
  · refine (loadSections_ends _ _ h).forall_bind_inside fun hfit image' h' => ?_
    obtain ⟨memory, executable, hplaced⟩ := h'
    exact loadRest_inside hs hin hfit hplaced
  · refine iff_of_false (fun hall => ?_) (fun h => hin h.1)
    exact hin ((loadSections_ends _ _ h).inside_iff.mp (bind_inside.mp (hall 0)).1)

theorem allocateImage_inside (hs : Signed file) (himage : IsHeaderImage file image)
    (base : Option Nat) (exports : List String) :
    (∀ fuel, (do
      let image ← allocateImage file base image
      let image ← loadSections file (headerOf file).sectionCount (firstHeader file) image
      let image ← applyRelocations file fuel image
      let image ← findAllManaged exports image
      readTlsDirectory file (headerOf file) image).Inside) ↔
      (HeadersFit file ∧ base ≠ none →
        (imageOf file).sizeOfHeaders ≤ pageBytes (imageOf file).loadedSize) ∧
      (HeadersFit file ∧ base ≠ none → ∀ b, base = some b → SectionsInPlace file b) := by
  refine (allocateImage_ends himage).forall_bind_inside fun hpass image' h' => ?_
  cases base with
  | none => exact absurd rfl hpass.2
  | some b =>
    rw [loadSections_inside hs (h' b rfl)]
    exact ⟨fun h c hc => Option.some.inj hc ▸ h, fun h => h b rfl⟩

/-- The loading touches no byte outside of its buffers, however long its relocations go on, if
and only if the file has these things in place. -/
theorem loading_stays_inside_iff (file : Buffer) (base : Option Nat) (exports : List String) :
    (∀ fuel, (loadPeImage file base exports fuel).Inside) ↔ InPlace file base := by
  have hcookie (hs : Signed file) := (readSecurityCookie_ends hs).forall_bind_inside
    fun _ image himage => allocateImage_inside hs himage base exports
  apply Iff.trans
  · apply (findNtHeader_ends file).forall_bind_inside
    intro hs nt hnt
    subst hnt
    apply (readHeaders_ends hs).forall_bind_inside
    intro _ r hr
    subst hr
    exact hcookie hs
  · constructor
    · rintro ⟨_, h⟩
      refine ⟨fun hs => (h hs).1.1, fun hs hp => (h hs).1.2 hp, fun hs hp => ((h hs).2 hp).1,
        ?_, ?_, ?_⟩
      · rintro ⟨hs, hp, hc, hh⟩ hbase
        exact (((h hs).2 hp).2 hc).1 ⟨hh, hbase⟩
      · rintro ⟨hs, hp, hc, hh⟩ b hb
        exact ((((h hs).2 hp).2 hc).2 ⟨hh, by simp [hb]⟩ b hb).1
      · rintro ⟨hs, hp, hc, hh⟩ b hb
        exact ((((h hs).2 hp).2 hc).2 ⟨hh, by simp [hb]⟩ b hb).2
    · intro h
      refine ⟨trivial, fun hs => ⟨⟨h.magic hs, h.optional hs⟩, fun hp => ⟨h.loadConfig hs hp,
        fun hc => ⟨fun ⟨hh, hbase⟩ => h.headers ⟨hs, hp, hc, hh⟩ hbase, ?_⟩⟩⟩⟩
      rintro ⟨hh, _⟩ b hb
      exact ⟨h.sections ⟨hs, hp, hc, hh⟩ b hb, h.relocations ⟨hs, hp, hc, hh⟩ b hb⟩

/-! ## A file that is cut short -/

/-- The file ends where the 24 bytes of the NT headers do. -/
def cutFile : Buffer where
  size := 0x58
  byte p :=
    if p = 0 then 0x4D else if p = 1 then 0x5A else if p = 0x3C then 0x40
    else if p = 0x40 then 0x50 else if p = 0x41 then 0x45 else 0

/-- The magic of its optional header is read behind the end of the file. -/
theorem cut_file_is_left : ¬ (loadPeImage cutFile (some 0x100000) ["ManagedMain"] 1).Inside := by
  decide +kernel

end Gate4Harness.PeImage
