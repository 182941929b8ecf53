-- The two lists of regions that the loader keeps of an image. One has the code of a section, the
-- other all of it, so what the first calls executable is executable by the second as well.
import Gate4Harness.PeLoaded

namespace Gate4Harness.PeImage

open Buffers Buffer Outcome

variable {file : Buffer} {image image' : Image} {x : Section} {exports : List String}
  {count header fuel cursor i pageRva entry : Nat}

/-- Each executable region starts a region of memory that is executable, and ends in it. -/
def CodeInMemory (image : Image) : Prop :=
  ∀ code ∈ image.executableRegions, ∃ region ∈ image.memoryRegions,
    region.executable = true ∧ region.base = code.base ∧ code.stop ≤ region.stop

/-- The stages after the sections leave the lists alone. -/
def SameRegions (image image' : Image) : Prop :=
  image'.memoryRegions = image.memoryRegions ∧ image'.executableRegions = image.executableRegions

theorem SameRegions.refl (image : Image) : SameRegions image image := ⟨rfl, rfl⟩

theorem SameRegions.trans {image'' : Image} (h : SameRegions image image')
    (h' : SameRegions image' image'') : SameRegions image image'' :=
  ⟨h'.1.trans h.1, h'.2.trans h.2⟩

theorem CodeInMemory.same (h : CodeInMemory image) (hsame : SameRegions image image') :
    CodeInMemory image' := by
  unfold CodeInMemory
  rw [hsame.1, hsame.2]
  exact h

/-! ## The sections -/

theorem noteMemoryRegion_regions (h : noteMemoryRegion image x = ok image') :
    image'.executableRegions = image.executableRegions ∧ image'.actualBase = image.actualBase ∧
    (∀ region ∈ image.memoryRegions, region ∈ image'.memoryRegions) ∧
    (x.extent ≠ 0 → ∃ region ∈ image'.memoryRegions,
      region.executable = x.characteristics.testBit 29 ∧
      region.base = image.actualBase + x.virtualAddress ∧
      region.stop = image.actualBase + x.virtualAddress + x.extent) := by
  unfold noteMemoryRegion storeMemoryRegion at h
  split at h
  · rename_i hextent
    cases h
    exact ⟨rfl, rfl, fun _ hr => hr, fun hne => absurd hextent hne⟩
  · rw [failIf_bind_eq_ok] at h
    obtain ⟨image1, hstore, h⟩ := bind_eq_ok.mp h.2
    rw [failIf_bind_eq_ok] at h
    cases h.2
    split at hstore
    · cases hstore
      refine ⟨rfl, rfl, fun _ hr => List.mem_append_left _ hr, fun _ => ?_⟩
      exact ⟨_, List.mem_append_right _ (List.mem_singleton_self _), rfl, rfl, rfl⟩
    · cases hstore

theorem noteExecutableRegion_regions (h : noteExecutableRegion image x = ok image') :
    image' = image ∨
    x.characteristics.testBit 29 = true ∧ x.codeSize ≠ 0 ∧
      image' = { image with executableRegions := image.executableRegions ++
        [⟨image.actualBase + x.virtualAddress,
          image.actualBase + x.virtualAddress + x.codeSize⟩] } := by
  unfold noteExecutableRegion storeExecutableRegion at h
  split at h
  · cases h
    exact Or.inl rfl
  · rename_i hcode
    rw [failIf_bind_eq_ok] at h
    obtain ⟨hroom, h⟩ := h
    dsimp only at h
    rw [failIf_bind_eq_ok] at h
    obtain ⟨-, h⟩ := h
    split at h
    · cases h
      exact Or.inr ⟨by simpa using hcode, fun hzero => hroom (Or.inr (Or.inl hzero)), rfl⟩
    · cases h

/-- The code of a section is not longer than the section. -/
theorem codeSize_le (x : Section) : x.codeSize ≤ x.extent := by
  unfold Section.codeSize Section.extent
  split <;> split <;> omega

theorem loadSection_codeInMemory (hcode : CodeInMemory image)
    (h : loadSection file image x = ok image') : CodeInMemory image' := by
  unfold loadSection at h
  obtain ⟨image1, hmemory, h⟩ := bind_eq_ok.mp h
  obtain ⟨hsame, hbase, hkept, hnew⟩ := noteMemoryRegion_regions hmemory
  have hcode1 : CodeInMemory image1 := by
    intro code hc
    rw [hsame] at hc
    obtain ⟨region, hr, hrest⟩ := hcode code hc
    exact ⟨region, hkept region hr, hrest⟩
  split at h
  · cases h
    exact hcode1
  · rw [failIf_bind_eq_ok] at h
    obtain ⟨image2, hexecutable, h⟩ := bind_eq_ok.mp h.2
    obtain ⟨loaded, _, h⟩ := bind_eq_ok.mp h
    cases h
    rcases noteExecutableRegion_regions hexecutable with rfl | ⟨hbit, hsize, rfl⟩
    · exact hcode1
    · intro code hc
      rcases List.mem_append.mp hc with hold | hadded
      · exact hcode1 code hold
      · have hle := codeSize_le x
        obtain ⟨region, hr, hbit', hstart, hstop⟩ := hnew (by omega)
        rw [List.mem_singleton] at hadded
        subst hadded
        exact ⟨region, hr, hbit'.trans hbit, by rw [hstart, hbase], by
          rw [hstop, hbase]
          exact Nat.add_le_add_left hle _⟩

theorem loadSections_codeInMemory (hcode : CodeInMemory image)
    (h : loadSections file count header image = ok image') : CodeInMemory image' := by
  induction count generalizing header image with
  | zero =>
    cases h
    exact hcode
  | succ count ih =>
    simp only [loadSections, readU32_bind_eq_ok] at h
    obtain ⟨-, -, -, -, -, h⟩ := h
    obtain ⟨image1, hsection, h⟩ := bind_eq_ok.mp h
    exact ih (loadSection_codeInMemory hcode hsection) h

/-! ## The stages after the sections -/

theorem relocate_regions (h : relocate image pageRva entry = ok image') :
    SameRegions image image' := by
  unfold relocate at h
  dsimp only at h
  split at h
  · split at h
    · cases h
    · obtain ⟨_, _, h⟩ := bind_eq_ok.mp h
      obtain ⟨_, _, h⟩ := bind_eq_ok.mp h
      cases h
      exact SameRegions.refl _
  · rw [failIf_bind_eq_ok] at h
    cases h.2
    exact SameRegions.refl _

theorem relocateEntries_regions
    (h : relocateEntries file pageRva cursor count i image = ok image') :
    SameRegions image image' := by
  induction count generalizing i image with
  | zero =>
    cases h
    exact SameRegions.refl _
  | succ count ih =>
    unfold relocateEntries at h
    obtain ⟨found, _, h⟩ := bind_eq_ok.mp h
    cases found with
    | none => cases h
    | some p =>
      obtain ⟨_, _, h⟩ := bind_eq_ok.mp h
      obtain ⟨image1, hone, h⟩ := bind_eq_ok.mp h
      exact (relocate_regions hone).trans (ih h)

theorem relocateBlocks_regions (h : relocateBlocks file fuel cursor image = ok image') :
    SameRegions image image' := by
  induction fuel generalizing cursor image with
  | zero => cases h
  | succ fuel ih =>
    unfold relocateBlocks at h
    split at h
    · obtain ⟨found, _, h⟩ := bind_eq_ok.mp h
      cases found with
      | none => cases h
      | some block =>
        obtain ⟨_, _, h⟩ := bind_eq_ok.mp h
        obtain ⟨_, _, h⟩ := bind_eq_ok.mp h
        rw [failIf_bind_eq_ok] at h
        obtain ⟨image1, hentries, h⟩ := bind_eq_ok.mp h.2
        exact (relocateEntries_regions hentries).trans (ih h)
    · cases h
      exact SameRegions.refl _

theorem applyRelocations_regions (h : applyRelocations file fuel image = ok image') :
    SameRegions image image' := by
  unfold applyRelocations at h
  split at h
  · cases h
    exact SameRegions.refl _
  · rw [failIf_bind_eq_ok] at h
    exact relocateBlocks_regions h.2

theorem findAllManaged_regions (h : findAllManaged exports image = ok image') :
    SameRegions image image' := by
  induction exports generalizing image with
  | nil =>
    cases h
    exact SameRegions.refl _
  | cons name rest ih =>
    obtain ⟨image1, hone, h⟩ := bind_eq_ok.mp h
    refine SameRegions.trans ?_ (ih h)
    unfold findManaged at hone
    obtain ⟨status, _, hone⟩ := bind_eq_ok.mp hone
    cases status <;> cases hone
    exact SameRegions.refl _

theorem readTlsDirectory_regions {nt : NtHeader} (h : readTlsDirectory file nt image = ok image') :
    SameRegions image image' := by
  unfold readTlsDirectory at h
  split at h
  · obtain ⟨found, _, h⟩ := bind_eq_ok.mp h
    cases found with
    | none => cases h
    | some tls =>
      simp only [readU64_bind_eq_ok, failIf_bind_eq_ok] at h
      obtain ⟨_, _, _, _, _, h⟩ := h
      split at h
      · rw [failIf_bind_eq_ok] at h
        cases h.2
        exact SameRegions.refl _
      · cases h
        exact SameRegions.refl _
  · cases h
    exact SameRegions.refl _

theorem loadUnrelocated_codeInMemory {r : NtHeader × Image} {base : Option Nat}
    (h : loadUnrelocated file base = ok r) : CodeInMemory r.2 := by
  unfold loadUnrelocated at h
  obtain ⟨nt, _, h⟩ := bind_eq_ok.mp h
  obtain ⟨headers, _, h⟩ := bind_eq_ok.mp h
  obtain ⟨image1, _, h⟩ := bind_eq_ok.mp h
  obtain ⟨image2, hallocate, h⟩ := bind_eq_ok.mp h
  obtain ⟨image3, hsections, h⟩ := bind_eq_ok.mp h
  cases h
  refine loadSections_codeInMemory ?_ hsections
  have hempty : image2.executableRegions = [] := by
    unfold allocateImage at hallocate
    rw [failIf_bind_eq_ok] at hallocate
    obtain ⟨-, hallocate⟩ := hallocate
    cases base with
    | none => cases hallocate
    | some base =>
      obtain ⟨_, _, hallocate⟩ := bind_eq_ok.mp hallocate
      obtain ⟨_, _, hallocate⟩ := bind_eq_ok.mp hallocate
      cases hallocate
      rfl
  intro code hc
  rw [hempty] at hc
  cases hc

/-- In a loaded image all code is executable memory. -/
theorem loadPeImage_codeInMemory {base : Option Nat}
    (h : loadPeImage file base exports fuel = ok image) : CodeInMemory image := by
  rw [loadPeImage_eq] at h
  obtain ⟨r, hunrelocated, h⟩ := bind_eq_ok.mp h
  obtain ⟨image1, hrelocations, h⟩ := bind_eq_ok.mp h
  obtain ⟨image2, hexports, h⟩ := bind_eq_ok.mp h
  exact (((loadUnrelocated_codeInMemory hunrelocated).same
    (applyRelocations_regions hrelocations)).same (findAllManaged_regions hexports)).same
    (readTlsDirectory_regions h)

end Gate4Harness.PeImage
