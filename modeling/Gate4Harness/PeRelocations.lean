-- The relocations of a PE image. A block is looked up and checked before it is read, but its
-- entries are read where `rva_to_file` says, also if it says null.
import Gate4Harness.PeSections

namespace Gate4Harness.PeImage

open Buffers Buffer Outcome

variable {file : Buffer} {image : Image} {base memory executable fuel cursor block : Nat}
  {pageRva entry i : Nat}

/-! ## What the file says -/

def entryOffset (file : Buffer) (cursor i : Nat) : Option Nat :=
  fileOffset file (imageOf file).sizeOfHeaders (entryRva (imageOf file) cursor i) 2

/-- The entry moves eight bytes of the image, or none. -/
def RelocationFits (file : Buffer) (pageRva entry : Nat) : Prop :=
  if entry >>> 12 = 10 then
    (pageRva + entry % 2 ^ 12) % 2 ^ 32 + 8 ≤ (imageOf file).loadedSize
  else entry >>> 12 = 0

def EntryFits (file : Buffer) (pageRva cursor i : Nat) : Prop :=
  ∃ p, entryOffset file cursor i = some p ∧ RelocationFits file pageRva (file.u16 p)

/-- The block of the cursor stands at `block` in the file, and it passes its checks. -/
structure BlockAt (file : Buffer) (cursor block : Nat) : Prop where
  cursor_le : (cursor + 8) % 2 ^ 32 ≤ (imageOf file).relocSize
  offset : fileOffset file (imageOf file).sizeOfHeaders
    (((imageOf file).relocRva + cursor) % 2 ^ 32) 8 = some block
  size : 8 ≤ file.u32 (block + 4)
  fits : (cursor + file.u32 (block + 4)) % 2 ^ 32 ≤ (imageOf file).relocSize

def entryCount (file : Buffer) (block : Nat) : Nat := (file.u32 (block + 4) - 8) / 2

def nextCursor (file : Buffer) (cursor block : Nat) : Nat :=
  (cursor + file.u32 (block + 4)) % 2 ^ 32

/-- The file has every entry of the block, up to the first that cannot be applied. -/
def EntriesInFile (file : Buffer) (cursor block : Nat) : Prop :=
  ∀ k < entryCount file block, (∀ j < k, EntryFits file (file.u32 block) cursor j) →
    (entryOffset file cursor k).isSome

def EntriesFit (file : Buffer) (cursor block : Nat) : Prop :=
  ∀ k < entryCount file block, EntryFits file (file.u32 block) cursor k

/-- The cursors that the loop comes to. -/
inductive BlockReached (file : Buffer) : Nat → Prop
  | first : BlockReached file 0
  | next {cursor block : Nat} : BlockReached file cursor → BlockAt file cursor block →
      EntriesFit file cursor block → BlockReached file (nextCursor file cursor block)

/-- The file has the entries of every block that the loop comes to. -/
def RelocationsInFile (file : Buffer) : Prop :=
  ∀ cursor block, BlockReached file cursor → BlockAt file cursor block →
    EntriesInFile file cursor block

/-- The section headers are in the file wherever a search goes. -/
def AllSearched (file : Buffer) : Prop :=
  ∀ sizeOfHeaders rva size, Searched file sizeOfHeaders rva size

/-! ## The entries -/

theorem relocate_ends (h : Placed file base memory executable image) :
    Ends True (RelocationFits file pageRva entry) (Placed file base memory executable)
      (relocate image pageRva entry) := by
  unfold relocate RelocationFits
  by_cases htype : entry >>> 12 = 10
  · simp only [if_pos htype, rvaToLoaded, readU64_eq]
    rw [← h.loadedSize]
    by_cases htarget : (pageRva + entry % 2 ^ 12) % 2 ^ 32 + 8 > image.loadedSize
    · rw [if_pos htarget]
      exact Ends.congr (Ends.failed _) Iff.rfl (iff_of_false id (by omega))
    · have hpages := h.loadedSize_le
      rw [if_neg htarget]
      dsimp only
      rw [if_pos (by simp only [Image.view]; omega), ok_bind]
      refine Ends.congr ((write_ends _ _ _).bind fun _ loaded hloaded =>
        Ends.ok (h.loaded hloaded)) ?_ ?_
      · simp only [length_bytesOf, true_imp_iff, and_true, iff_true]
        omega
      · simp only [and_true, true_iff]
        omega
  · simp only [if_neg htype]
    exact Ends.congr (Ends.failIf_bind fun _ => Ends.ok h) (by simp) (by simp)

theorem relocateEntries_ends (hs : Signed file) (hall : AllSearched file) (count : Nat)
    (h : Placed file base memory executable image) :
    Ends (∀ k < count, (∀ j < k, EntryFits file pageRva cursor (i + j)) →
        (entryOffset file cursor (i + k)).isSome)
      (∀ k < count, EntryFits file pageRva cursor (i + k)) (Placed file base memory executable)
      (relocateEntries file pageRva cursor count i image) := by
  induction count generalizing i image with
  | zero => exact Ends.congr (Ends.ok h) (by simp) (by simp)
  | succ count ih =>
    have hrva : entryRva image cursor i = entryRva (imageOf file) cursor i := by
      rw [entryRva, entryRva, h.relocRva]
    rw [relocateEntries, rvaToFile_of_searched hs (hall _ _ _), ok_bind, hrva, h.sizeOfHeaders,
      ← entryOffset]
    cases hoff : entryOffset file cursor i with
    | none =>
      refine Ends.congr Ends.outside (iff_of_false id fun hin => ?_) Iff.rfl
      have hfirst := hin 0 (Nat.succ_pos count) (fun j hj => absurd hj (Nat.not_lt_zero j))
      rw [Nat.add_zero, hoff] at hfirst
      cases hfirst
    | some p =>
      have hp := fileOffset_le hoff
      have hfits : EntryFits file pageRva cursor i ↔ RelocationFits file pageRva (file.u16 p) := by
        simp [EntryFits, hoff]
      dsimp only
      rw [readU16_ok hp, ok_bind]
      refine Ends.congr ((relocate_ends h).bind fun _ image' h' => ih (i := i + 1) h') ?_ ?_
      · simp only [← hfits, Nat.forall_lt_succ_left, Nat.add_zero, hoff, Option.isSome_some,
          imp_true_iff, true_and, Nat.add_assoc, Nat.add_comm 1]
        exact ⟨fun h k hk hbefore => h hbefore.1 k hk hbefore.2,
          fun h hfirst k hk hbefore => h k hk ⟨hfirst, hbefore⟩⟩
      · simp only [← hfits, Nat.forall_lt_succ_left, Nat.add_zero, Nat.add_assoc, Nat.add_comm 1]

/-! ## The blocks -/

/-- A block that is there is read, and the loop goes on behind it. -/
theorem relocateBlocks_at (hs : Signed file) (hall : AllSearched file)
    (h : Placed file base memory executable image) (hblock : BlockAt file cursor block) :
    relocateBlocks file (fuel + 1) cursor image =
      (relocateEntries file (file.u32 block) cursor (entryCount file block) 0 image >>=
        relocateBlocks file fuel (nextCursor file cursor block)) := by
  have hin := fileOffset_le hblock.offset
  rw [relocateBlocks, h.relocSize, if_pos hblock.cursor_le,
    rvaToFile_of_searched hs (hall _ _ _), ok_bind, h.sizeOfHeaders, h.relocRva, hblock.offset]
  dsimp only
  rw [readU32_ok (by omega), ok_bind, readU32_ok (by omega), ok_bind, failIf_bind, if_neg]
  · rfl
  · have hsize := hblock.size
    have hfits := hblock.fits
    omega

/-- Without one the loop ends or stops. -/
theorem relocateBlocks_last (hs : Signed file) (hall : AllSearched file)
    (h : Placed file base memory executable image) (hno : ∀ block, ¬ BlockAt file cursor block) :
    (relocateBlocks file (fuel + 1) cursor image).Inside := by
  rw [relocateBlocks, h.relocSize]
  split
  · next hcursor =>
    rw [rvaToFile_of_searched hs (hall _ _ _), ok_bind, h.sizeOfHeaders, h.relocRva]
    cases hoff : fileOffset file (imageOf file).sizeOfHeaders
      (((imageOf file).relocRva + cursor) % 2 ^ 32) 8 with
    | none => trivial
    | some block =>
      have hin := fileOffset_le hoff
      dsimp only
      rw [readU32_ok (by omega), ok_bind, readU32_ok (by omega), ok_bind, failIf_bind, if_pos]
      · trivial
      · by_contra hn
        exact hno block ⟨hcursor, hoff, by omega, by omega⟩
  · trivial

theorem relocateBlock_ends (hs : Signed file) (hall : AllSearched file)
    (h : Placed file base memory executable image) (cursor block : Nat) :
    Ends (EntriesInFile file cursor block) (EntriesFit file cursor block)
      (Placed file base memory executable)
      (relocateEntries file (file.u32 block) cursor (entryCount file block) 0 image) :=
  Ends.congr (relocateEntries_ends hs hall (entryCount file block) h)
    (by simp [EntriesInFile]) (by simp [EntriesFit])

/-- With all entries in the file, the loop stays inside for as long as it runs. -/
theorem RelocationsInFile.inside (hs : Signed file) (hall : AllSearched file)
    (hin : RelocationsInFile file) (hreached : BlockReached file cursor)
    (h : Placed file base memory executable image) :
    (relocateBlocks file fuel cursor image).Inside := by
  induction fuel generalizing cursor image with
  | zero => trivial
  | succ fuel ih =>
    by_cases hblock : ∃ block, BlockAt file cursor block
    · obtain ⟨block, hblock⟩ := hblock
      rw [relocateBlocks_at hs hall h hblock]
      refine ((relocateBlock_ends hs hall h cursor block).bind_inside fun hfit image' h' => ?_).mpr
        ⟨hin cursor block hreached hblock, fun _ => trivial⟩
      exact iff_of_true (ih (hreached.next hblock hfit) h') trivial
    · exact relocateBlocks_last hs hall h (not_exists.mp hblock)

/-- The loop comes to every cursor that is reached, if it stays inside. -/
theorem BlockReached.inside (hs : Signed file) (hall : AllSearched file)
    (h : Placed file base memory executable image)
    (hin : ∀ fuel, (relocateBlocks file fuel 0 image).Inside)
    (hreached : BlockReached file cursor) :
    ∃ image', Placed file base memory executable image' ∧
      ∀ fuel, (relocateBlocks file fuel cursor image').Inside := by
  induction hreached with
  | first => exact ⟨image, h, hin⟩
  | @next cursor block _ hblock hfit ih =>
    obtain ⟨image1, h1, hin1⟩ := ih
    have hends := relocateBlock_ends hs hall h1 cursor block
    have hentries : (relocateEntries file (file.u32 block) cursor (entryCount file block) 0
        image1).Inside := by
      have hstep := hin1 1
      rw [relocateBlocks_at hs hall h1 hblock] at hstep
      exact (bind_inside.mp hstep).1
    obtain ⟨image2, hok, h2⟩ := hends.passed (hends.inside_iff.mp hentries) hfit
    refine ⟨image2, h2, fun fuel => ?_⟩
    have hstep := hin1 (fuel + 1)
    rw [relocateBlocks_at hs hall h1 hblock, hok, ok_bind] at hstep
    exact hstep

theorem relocateBlocks_inside (hs : Signed file) (hall : AllSearched file)
    (h : Placed file base memory executable image) :
    (∀ fuel, (relocateBlocks file fuel 0 image).Inside) ↔ RelocationsInFile file := by
  constructor
  · intro hin cursor block hreached hblock
    obtain ⟨image', h', hin'⟩ := hreached.inside hs hall h hin
    have hstep := hin' 1
    rw [relocateBlocks_at hs hall h' hblock] at hstep
    exact (relocateBlock_ends hs hall h' cursor block).inside_iff.mp (bind_inside.mp hstep).1
  · intro hin fuel
    exact hin.inside hs hall .first h

/-- The image is moved, and the file says how. -/
def Relocated (file : Buffer) (base : Nat) : Prop :=
  { imageOf file with actualBase := base }.delta ≠ 0 ∧ (imageOf file).relocRva ≠ 0 ∧
    8 ≤ (imageOf file).relocSize

theorem applyRelocations_inside (hs : Signed file) (hall : AllSearched file)
    (h : Placed file base memory executable image) :
    (∀ fuel, (applyRelocations file fuel image).Inside) ↔
      (Relocated file base → RelocationsInFile file) := by
  rw [← relocateBlocks_inside hs hall h, Relocated, ← h.delta, ← h.relocRva, ← h.relocSize]
  unfold applyRelocations
  by_cases hdelta : image.delta = 0
  · simp [hdelta]
  · simp only [if_neg hdelta, failIf_bind_inside]
    constructor
    · rintro hin ⟨_, hrva, hsize⟩ fuel
      exact hin fuel (by omega)
    · intro hin fuel hn
      exact hin ⟨hdelta, by omega, by omega⟩ fuel

end Gate4Harness.PeImage
