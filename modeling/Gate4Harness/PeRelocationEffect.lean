-- What the relocations do to an image. If nothing of the directory wraps in 32 bits, its blocks
-- stand side by side, and the cells that its entries name are moved one after the other.
import Gate4Harness.PeLoaded

namespace Gate4Harness.PeImage

open Buffers Buffer Outcome

variable {file : Buffer} {image image' : Image} {base memory executable fuel cursor block : Nat}
  {pageRva entry i : Nat}

/-! ## A directory -/

/-- The cell at `target` is moved by the distance of the image. -/
def moveCell (delta : Nat) (loaded : Buffer) (target : Nat) : Buffer :=
  loaded.putU64 target ((loaded.u64 target + delta) % 2 ^ 64)

/-- The cells are moved one after the other. -/
def moveCells (delta : Nat) (loaded : Buffer) (targets : List Nat) : Buffer :=
  targets.foldl (moveCell delta) loaded

structure Block where
  pageRva : Nat
  size : Nat
  entries : List Nat

/-- The cells that the entries of type 10 name. -/
def Block.targets (x : Block) : List Nat :=
  (x.entries.filter fun entry => entry >>> 12 = 10).map fun entry => x.pageRva + entry % 2 ^ 12

/-- The file has the block at this place of the directory. -/
structure Block.StandsAt (x : Block) (file : Buffer) (cursor : Nat) : Prop where
  header : ∃ p, fileOffset file (imageOf file).sizeOfHeaders ((imageOf file).relocRva + cursor) 8 =
    some p ∧ file.u32 p = x.pageRva ∧ file.u32 (p + 4) = x.size
  size_ge : 8 ≤ x.size
  fits : cursor + x.size ≤ (imageOf file).relocSize
  count : x.entries.length = (x.size - 8) / 2
  entries : ∀ i entry, x.entries[i]? = some entry → ∃ q, fileOffset file
    (imageOf file).sizeOfHeaders ((imageOf file).relocRva + cursor + 8 + i * 2) 2 = some q ∧
      file.u16 q = entry

/-- From `cursor` on the blocks lie side by side in the directory, until the test of the loop
finds too few bytes behind them. -/
inductive Tiles (file : Buffer) : (cursor : Nat) → List Block → Prop
  | done {cursor : Nat} : cursor ≤ (imageOf file).relocSize →
      (imageOf file).relocSize < (cursor + 8) % 2 ^ 32 → Tiles file cursor []
  | block {cursor : Nat} {x : Block} {rest : List Block} : x.StandsAt file cursor →
      Tiles file (cursor + x.size) rest → Tiles file cursor (x :: rest)

/-- The directory is tiled by blocks, and the image differs from before in the cells of their
entries, all of which lie in it. -/
def MovedByBlocks (file : Buffer) (image image' : Image) : Prop :=
  ∃ blocks, Tiles file 0 blocks ∧
    (∀ target ∈ blocks.flatMap Block.targets, target + 8 ≤ image.loadedSize) ∧
    image' = { image with
      loaded := moveCells image.delta image.loaded (blocks.flatMap Block.targets)
      relocationsApplied := true }

/-- Nothing outside of the file is read, the loop ends, and if it does not stop in `fail` then
the image is moved by the blocks of its directory. -/
def RelocatesExactly (file : Buffer) (image : Image) : Prop :=
  (∀ fuel, (applyRelocations file fuel image).Inside) ∧
    (∃ fuel, applyRelocations file fuel image ≠ unfinished) ∧
    ∀ fuel image', applyRelocations file fuel image = ok image' → MovedByBlocks file image image'

/-! ## What it takes -/

/-- The loop comes to a block, or an entry of one, that a check refuses. -/
def Refused (file : Buffer) : Prop :=
  ∃ cursor, BlockReached file cursor ∧ (cursor + 8) % 2 ^ 32 ≤ (imageOf file).relocSize ∧
    ∀ block, BlockAt file cursor block → ¬ EntriesFit file cursor block

/-- The address of no block that the loop comes to, and of no cell, goes past 32 bits. -/
def NoneWraps (file : Buffer) : Prop :=
  ∀ cursor block, BlockReached file cursor → BlockAt file cursor block →
    EntriesFit file cursor block → (imageOf file).relocRva + cursor < 2 ^ 32 ∧
      ∀ i < entryCount file block, ∀ q, entryOffset file cursor i = some q →
        file.u16 q >>> 12 = 10 → file.u32 block + file.u16 q % 2 ^ 12 < 2 ^ 32

/-- The file has the entries of every block that the loop comes to, and the loop is stopped by a
check or nothing wraps. -/
def RelocationsHold (file : Buffer) : Prop :=
  RelocationsInFile file ∧ (Refused file ∨ NoneWraps file)

/-! ## The entries -/

/-- The entry, where the file has it. -/
def entryAt (file : Buffer) (cursor i : Nat) : Nat :=
  match entryOffset file cursor i with
  | some q => file.u16 q
  | none => 0

/-- The cell of an entry as the loader computes it. -/
def wrappedTargets (pageRva entry : Nat) : List Nat :=
  if entry >>> 12 = 10 then [(pageRva + entry % 2 ^ 12) % 2 ^ 32] else []

/-- The image with these cells moved. -/
def Image.moved (image : Image) (targets : List Nat) : Image :=
  { image with loaded := moveCells image.delta image.loaded targets }

@[simp] theorem size_moveCells (delta : Nat) (loaded : Buffer) (targets : List Nat) :
    (moveCells delta loaded targets).size = loaded.size := by
  induction targets generalizing loaded with
  | nil => rfl
  | cons target rest ih => exact ih (moveCell delta loaded target)

theorem Placed.moved (h : Placed file base memory executable image) (targets : List Nat) :
    Placed file base memory executable (image.moved targets) :=
  h.loaded (size_moveCells _ _ _)

theorem Image.moved_append (image : Image) (first second : List Nat) :
    image.moved (first ++ second) = (image.moved first).moved second := by
  unfold Image.moved moveCells
  rw [List.foldl_append]
  rfl

theorem relocate_ok (h : Placed file base memory executable image)
    (hfits : RelocationFits file pageRva entry) :
    relocate image pageRva entry = ok (image.moved (wrappedTargets pageRva entry)) := by
  unfold RelocationFits at hfits
  unfold relocate wrappedTargets
  by_cases htype : entry >>> 12 = 10
  · have hpages := h.loadedSize_le
    rw [if_pos htype, ← h.loadedSize] at hfits
    simp only [if_pos htype, rvaToLoaded]
    rw [if_neg (by omega)]
    dsimp only
    have hview : (pageRva + entry % 2 ^ 12) % 2 ^ 32 + 8 ≤ image.view.size := hfits
    rw [readU64_eq, if_pos hview, ok_bind, write_bytesOf (by omega), ok_bind]
    rfl
  · rw [if_neg htype] at hfits
    simp only [if_neg htype]
    rw [failIf_bind, if_neg (by omega)]
    rfl

theorem EntryFits.entryAt {j : Nat} (h : EntryFits file pageRva cursor j) :
    RelocationFits file pageRva (entryAt file cursor j) ∧
      ∃ q, entryOffset file cursor j = some q ∧ file.u16 q = PeImage.entryAt file cursor j := by
  obtain ⟨q, hq, hfits⟩ := h
  unfold PeImage.entryAt
  rw [hq]
  exact ⟨hfits, q, rfl, rfl⟩

theorem relocateEntries_ok (hs : Signed file) (hall : AllSearched file) (count : Nat)
    (h : Placed file base memory executable image)
    (hfit : ∀ k < count, EntryFits file pageRva cursor (i + k)) :
    relocateEntries file pageRva cursor count i image = ok (image.moved
      ((List.range' i count).flatMap fun k => wrappedTargets pageRva (entryAt file cursor k))) := by
  induction count generalizing i image with
  | zero => rfl
  | succ count ih =>
    obtain ⟨hfits, q, hq, heq⟩ := (hfit 0 (Nat.succ_pos count)).entryAt
    rw [Nat.add_zero] at hfits hq heq
    have hin := fileOffset_le hq
    have hrest : ∀ k < count, EntryFits file pageRva cursor (i + 1 + k) := by
      intro k hk
      have hk' := hfit (k + 1) (by omega)
      rwa [Nat.add_comm k 1, ← Nat.add_assoc] at hk'
    have hrva : entryRva image cursor i = entryRva (imageOf file) cursor i := by
      rw [entryRva, entryRva, h.relocRva]
    rw [relocateEntries, rvaToFile_of_searched hs (hall _ _ _), ok_bind, hrva, h.sizeOfHeaders,
      ← entryOffset, hq]
    dsimp only
    rw [readU16_ok hin, ok_bind, heq, relocate_ok h hfits, ok_bind,
      ih (h.moved _) hrest, List.range'_succ, List.flatMap_cons, Image.moved_append]

theorem relocate_failed (h : Placed file base memory executable image)
    (hno : ¬ RelocationFits file pageRva entry) :
    ∃ message, relocate image pageRva entry = failed message := by
  unfold RelocationFits at hno
  unfold relocate
  by_cases htype : entry >>> 12 = 10
  · rw [if_pos htype, ← h.loadedSize] at hno
    simp only [if_pos htype, rvaToLoaded]
    rw [if_pos (by omega)]
    exact ⟨_, rfl⟩
  · rw [if_neg htype] at hno
    simp only [if_neg htype]
    rw [failIf_bind, if_pos hno]
    exact ⟨_, rfl⟩

/-- With every entry in the file that the loop reads, the first that cannot be applied fails. -/
theorem relocateEntries_failed (hs : Signed file) (hall : AllSearched file) (count : Nat)
    (h : Placed file base memory executable image)
    (hin : ∀ k < count, (∀ j < k, EntryFits file pageRva cursor (i + j)) →
      (entryOffset file cursor (i + k)).isSome)
    (hno : ¬ ∀ k < count, EntryFits file pageRva cursor (i + k)) :
    ∃ message, relocateEntries file pageRva cursor count i image = failed message := by
  induction count generalizing i image with
  | zero => exact absurd (fun k hk => absurd hk (Nat.not_lt_zero k)) hno
  | succ count ih =>
    obtain ⟨q, hq⟩ := Option.isSome_iff_exists.mp
      (hin 0 (Nat.succ_pos count) fun j hj => absurd hj (Nat.not_lt_zero j))
    rw [Nat.add_zero] at hq
    have hle := fileOffset_le hq
    have hrva : entryRva image cursor i = entryRva (imageOf file) cursor i := by
      rw [entryRva, entryRva, h.relocRva]
    rw [relocateEntries, rvaToFile_of_searched hs (hall _ _ _), ok_bind, hrva, h.sizeOfHeaders,
      ← entryOffset, hq]
    dsimp only
    rw [readU16_ok hle, ok_bind]
    by_cases hfits : RelocationFits file pageRva (file.u16 q)
    · have hfirst : EntryFits file pageRva cursor i := ⟨q, hq, hfits⟩
      rw [relocate_ok h hfits, ok_bind]
      simp only [Nat.forall_lt_succ_left, Nat.add_zero, hfirst, true_and] at hin hno
      have hshift : ∀ k, i + 1 + k = i + (k + 1) := fun k => by omega
      refine ih (h.moved _) (fun k hk hbefore => ?_) (fun hall' => hno fun k hk => ?_)
      · rw [hshift]
        exact hin.2 k hk fun j hj => hshift j ▸ hbefore j hj
      · exact hshift k ▸ hall' k hk
    · obtain ⟨message, hfailed⟩ := relocate_failed h hfits
      rw [hfailed]
      exact ⟨message, rfl⟩

/-! ## The walk over the blocks -/

/-- The block that the loader reads. -/
def blockOf (file : Buffer) (cursor block : Nat) : Block where
  pageRva := file.u32 block
  size := file.u32 (block + 4)
  entries := (List.range' 0 (entryCount file block)).map (entryAt file cursor)

/-- The cells of a block as the loader computes them. -/
def Block.wrapped (x : Block) : List Nat := x.entries.flatMap (wrappedTargets x.pageRva)

/-- The loop goes over these blocks and ends. -/
inductive Walk (file : Buffer) : (cursor : Nat) → List Block → Prop
  | done {cursor : Nat} : (imageOf file).relocSize < (cursor + 8) % 2 ^ 32 → Walk file cursor []
  | block {cursor block : Nat} {rest : List Block} : BlockAt file cursor block →
      EntriesFit file cursor block → Walk file (nextCursor file cursor block) rest →
      Walk file cursor (blockOf file cursor block :: rest)

theorem BlockAt.unique {block' : Nat} (h : BlockAt file cursor block)
    (h' : BlockAt file cursor block') : block = block' :=
  Option.some.inj (h.offset.symm.trans h'.offset)

theorem BlockReached.cursor_le (h : BlockReached file cursor) :
    cursor ≤ (imageOf file).relocSize := by
  cases h with
  | first => exact Nat.zero_le _
  | next _ hblock _ => exact hblock.fits

/-- A walk comes to every cursor that is reached. -/
theorem Walk.at_reached {blocks : List Block} (h : Walk file 0 blocks)
    (hreached : BlockReached file cursor) : ∃ rest, Walk file cursor rest := by
  induction hreached with
  | first => exact ⟨blocks, h⟩
  | next _ hblock hfit ih =>
    obtain ⟨rest, hrest⟩ := ih
    cases hrest with
    | done hend =>
      have hle := hblock.cursor_le
      omega
    | block hblock' _ hnext =>
      rw [hblock.unique hblock']
      exact ⟨_, hnext⟩

theorem blockOf_wrapped : (blockOf file cursor block).wrapped =
    (List.range' 0 (entryCount file block)).flatMap fun k =>
      wrappedTargets (file.u32 block) (entryAt file cursor k) := by
  rw [Block.wrapped, blockOf, List.flatMap_map]

theorem relocateEntries_of_fit (hs : Signed file) (hall : AllSearched file)
    (h : Placed file base memory executable image) (hfit : EntriesFit file cursor block) :
    relocateEntries file (file.u32 block) cursor (entryCount file block) 0 image =
      ok (image.moved (blockOf file cursor block).wrapped) := by
  rw [relocateEntries_ok hs hall _ h fun k hk => by rw [Nat.zero_add]; exact hfit k hk,
    blockOf_wrapped]

/-- What the loop says at a cursor without a block. -/
theorem relocateBlocks_last_eq (hs : Signed file) (hall : AllSearched file)
    (h : Placed file base memory executable image) (fuel : Nat)
    (hno : ∀ block, ¬ BlockAt file cursor block) :
    ((imageOf file).relocSize < (cursor + 8) % 2 ^ 32 ∧
      relocateBlocks file (fuel + 1) cursor image = ok { image with relocationsApplied := true }) ∨
    ((cursor + 8) % 2 ^ 32 ≤ (imageOf file).relocSize ∧
      ∃ message, relocateBlocks file (fuel + 1) cursor image = failed message) := by
  rw [relocateBlocks, h.relocSize]
  by_cases hcursor : (cursor + 8) % 2 ^ 32 ≤ (imageOf file).relocSize
  · rw [if_pos hcursor, rvaToFile_of_searched hs (hall _ _ _), ok_bind, h.sizeOfHeaders, h.relocRva]
    refine .inr ⟨hcursor, ?_⟩
    cases hoff : fileOffset file (imageOf file).sizeOfHeaders
      (((imageOf file).relocRva + cursor) % 2 ^ 32) 8 with
    | none => exact ⟨_, rfl⟩
    | some block =>
      have hin := fileOffset_le hoff
      dsimp only
      rw [readU32_ok (by omega), ok_bind, readU32_ok (by omega), ok_bind, failIf_bind, if_pos]
      · exact ⟨_, rfl⟩
      · by_contra hn
        exact hno block ⟨hcursor, hoff, by omega, by omega⟩
  · rw [if_neg hcursor]
    exact .inl ⟨by omega, rfl⟩

/-- A block whose entries are not all applied stops the loop. -/
theorem relocateBlocks_failed (hs : Signed file) (hall : AllSearched file)
    (h : Placed file base memory executable image) (fuel : Nat)
    (hblock : BlockAt file cursor block) (hin : EntriesInFile file cursor block)
    (hno : ¬ EntriesFit file cursor block) :
    ∃ message, relocateBlocks file (fuel + 1) cursor image = failed message := by
  obtain ⟨message, hfailed⟩ := relocateEntries_failed hs hall (entryCount file block) (i := 0) h
    (by simpa only [Nat.zero_add, EntriesInFile] using hin)
    (by simpa only [Nat.zero_add, EntriesFit] using hno)
  rw [relocateBlocks_at hs hall h hblock, hfailed]
  exact ⟨message, rfl⟩

theorem relocateBlocks_next (hs : Signed file) (hall : AllSearched file)
    (h : Placed file base memory executable image) (hblock : BlockAt file cursor block)
    (hfit : EntriesFit file cursor block) :
    relocateBlocks file (fuel + 1) cursor image =
      relocateBlocks file fuel (nextCursor file cursor block)
        (image.moved (blockOf file cursor block).wrapped) := by
  rw [relocateBlocks_at hs hall h hblock, relocateEntries_of_fit hs hall h hfit, ok_bind]

/-- A value of the loop is that of a walk. -/
theorem relocateBlocks_walk (hs : Signed file) (hall : AllSearched file)
    (h : Placed file base memory executable image)
    (hok : relocateBlocks file fuel cursor image = ok image') :
    ∃ blocks, Walk file cursor blocks ∧
      image' = { image.moved (blocks.flatMap Block.wrapped) with relocationsApplied := true } := by
  induction fuel generalizing cursor image with
  | zero => cases hok
  | succ fuel ih =>
    by_cases hblock : ∃ block, BlockAt file cursor block
    · obtain ⟨block, hblock⟩ := hblock
      have hok' := hok
      rw [relocateBlocks_at hs hall h hblock] at hok'
      obtain ⟨image1, hentries, _⟩ := bind_eq_ok.mp hok'
      obtain ⟨_, hfit, _⟩ := Ends.of_value (relocateBlock_ends hs hall h cursor block) hentries
      rw [relocateBlocks_next hs hall h hblock hfit] at hok
      obtain ⟨blocks, hwalk, rfl⟩ := ih (h.moved _) hok
      exact ⟨_, .block hblock hfit hwalk, by rw [List.flatMap_cons, Image.moved_append]⟩
    · rcases relocateBlocks_last_eq hs hall h fuel (not_exists.mp hblock) with
        ⟨hend, heq⟩ | ⟨_, message, heq⟩
      · rw [heq] at hok
        cases hok
        exact ⟨[], .done hend, rfl⟩
      · rw [heq] at hok
        cases hok

/-- The loop comes to every cursor that is reached. -/
theorem BlockReached.run (hs : Signed file) (hall : AllSearched file)
    (h : Placed file base memory executable image) (hreached : BlockReached file cursor) :
    ∃ n image', Placed file base memory executable image' ∧
      ∀ fuel, relocateBlocks file (fuel + n) 0 image = relocateBlocks file fuel cursor image' := by
  induction hreached with
  | first => exact ⟨0, image, h, fun fuel => rfl⟩
  | @next cursor block _ hblock hfit ih =>
    obtain ⟨n, image1, h1, hrun⟩ := ih
    refine ⟨n + 1, _, h1.moved (blockOf file cursor block).wrapped, fun fuel => ?_⟩
    rw [Nat.add_comm n 1, ← Nat.add_assoc, hrun]
    exact relocateBlocks_next hs hall h1 hblock hfit

/-! ## The loop that is stopped -/

theorem Refused.ends (hs : Signed file) (hall : AllSearched file)
    (h : Placed file base memory executable image) (hin : RelocationsInFile file)
    (hrefused : Refused file) :
    ∃ fuel message, relocateBlocks file fuel 0 image = failed message := by
  obtain ⟨cursor, hreached, htest, hno⟩ := hrefused
  obtain ⟨n, image', h', hrun⟩ := hreached.run hs hall h
  by_cases hblock : ∃ block, BlockAt file cursor block
  · obtain ⟨block, hblock⟩ := hblock
    obtain ⟨message, hfailed⟩ := relocateBlocks_failed hs hall h' 0 hblock
      (hin cursor block hreached hblock) (hno block hblock)
    exact ⟨0 + 1 + n, message, (hrun (0 + 1)).trans hfailed⟩
  · rcases relocateBlocks_last_eq hs hall h' 0 (not_exists.mp hblock) with
      ⟨hend, _⟩ | ⟨_, message, hfailed⟩
    · omega
    · exact ⟨0 + 1 + n, message, (hrun (0 + 1)).trans hfailed⟩

theorem Refused.not_walk (hrefused : Refused file) (blocks : List Block) :
    ¬ Walk file 0 blocks := by
  intro hwalk
  obtain ⟨cursor, hreached, htest, hno⟩ := hrefused
  obtain ⟨rest, hrest⟩ := hwalk.at_reached hreached
  cases hrest with
  | done hend => omega
  | block hblock hfit _ => exact hno _ hblock hfit

/-- A loop that no check stops is not stopped. -/
theorem relocateBlocks_not_refused (hs : Signed file) (hall : AllSearched file)
    (h : Placed file base memory executable image) (hno : ¬ Refused file)
    (hreached : BlockReached file cursor) (fuel : Nat) :
    relocateBlocks file fuel cursor image = unfinished ∨
      ∃ image', relocateBlocks file fuel cursor image = ok image' := by
  induction fuel generalizing cursor image with
  | zero => exact .inl rfl
  | succ fuel ih =>
    by_cases hblock : ∃ block, BlockAt file cursor block ∧ EntriesFit file cursor block
    · obtain ⟨block, hblock, hfit⟩ := hblock
      rw [relocateBlocks_next hs hall h hblock hfit]
      exact ih (h.moved _) (hreached.next hblock hfit)
    · have hend : ¬ (cursor + 8) % 2 ^ 32 ≤ (imageOf file).relocSize := fun htest =>
        hno ⟨cursor, hreached, htest, fun block hat hfit => hblock ⟨block, hat, hfit⟩⟩
      rw [relocateBlocks, h.relocSize, if_neg hend]
      exact .inr ⟨_, rfl⟩

/-! ## The loop that goes on to its end -/

/-- With no wrap in front of it, a block stands in the directory as the loader reads it. -/
theorem Loaded.entries_lt (h : Loaded file image) (hblock : BlockAt file cursor block)
    (hfit : EntriesFit file cursor block) (hrva : (imageOf file).relocRva + cursor < 2 ^ 32) :
    (imageOf file).relocRva + cursor + 8 + entryCount file block * 2 < 2 ^ 32 := by
  have hheader := hblock.offset
  rw [Nat.mod_eq_of_lt hrva] at hheader
  have hstart := h.found_lt (by decide) hheader
  have hupto : ∀ k ≤ entryCount file block,
      (imageOf file).relocRva + cursor + 8 + k * 2 < 2 ^ 32 := by
    intro k
    induction k with
    | zero => exact fun _ => by omega
    | succ k ih =>
      intro hk
      have hbefore := ih (by omega)
      obtain ⟨q, hq, _⟩ := hfit k (by omega)
      rw [entryOffset, entryRva, Nat.mod_eq_of_lt hbefore] at hq
      have hend := h.found_lt (by decide) hq
      omega
  exact hupto _ (Nat.le_refl _)

/-- No block carries the cursor around. -/
theorem Loaded.nextCursor_eq (h : Loaded file image) (hreloc : (imageOf file).relocRva ≠ 0)
    (hblock : BlockAt file cursor block) (hfit : EntriesFit file cursor block)
    (hrva : (imageOf file).relocRva + cursor < 2 ^ 32) :
    nextCursor file cursor block = cursor + file.u32 (block + 4) := by
  have hentries := h.entries_lt hblock hfit hrva
  have hsize := hblock.size
  unfold entryCount at hentries
  exact Nat.mod_eq_of_lt (by omega)

theorem Loaded.blockOf_standsAt (h : Loaded file image) (hreloc : (imageOf file).relocRva ≠ 0)
    (hblock : BlockAt file cursor block) (hfit : EntriesFit file cursor block)
    (hrva : (imageOf file).relocRva + cursor < 2 ^ 32) :
    (blockOf file cursor block).StandsAt file cursor where
  header := by
    have hheader := hblock.offset
    rw [Nat.mod_eq_of_lt hrva] at hheader
    exact ⟨block, hheader, rfl, rfl⟩
  size_ge := hblock.size
  fits := by
    have hfits := hblock.fits
    change nextCursor file cursor block ≤ _ at hfits
    rwa [h.nextCursor_eq hreloc hblock hfit hrva] at hfits
  count := by
    rw [blockOf, List.length_map, List.length_range']
    rfl
  entries := by
    intro i entry hentry
    have hentries := h.entries_lt hblock hfit hrva
    simp only [blockOf, List.getElem?_map, Option.map_eq_some_iff] at hentry
    obtain ⟨k, hk, rfl⟩ := hentry
    obtain ⟨hi, rfl⟩ := List.getElem?_eq_some_iff.mp hk
    rw [List.length_range'] at hi
    simp only [List.getElem_range', Nat.zero_add, Nat.one_mul]
    obtain ⟨_, q, hq, heq⟩ := (hfit i hi).entryAt
    rw [entryOffset, entryRva, Nat.mod_eq_of_lt (by omega)] at hq
    exact ⟨q, hq, heq⟩

/-- Without a wrap the cells are where the entries say. -/
theorem wrapped_eq (hfit : EntriesFit file cursor block)
    (hcells : ∀ i < entryCount file block, ∀ q, entryOffset file cursor i = some q →
      file.u16 q >>> 12 = 10 → file.u32 block + file.u16 q % 2 ^ 12 < 2 ^ 32) :
    (blockOf file cursor block).wrapped = (blockOf file cursor block).targets := by
  have hentry : ∀ entry ∈ (blockOf file cursor block).entries, entry >>> 12 = 10 →
      (blockOf file cursor block).pageRva + entry % 2 ^ 12 < 2 ^ 32 := by
    intro entry hmem htype
    simp only [blockOf, List.mem_map, List.mem_range'_1] at hmem
    obtain ⟨i, ⟨_, hi⟩, rfl⟩ := hmem
    obtain ⟨_, q, hq, heq⟩ := (hfit i (by omega)).entryAt
    rw [← heq] at htype ⊢
    exact hcells i (by omega) q hq htype
  generalize blockOf file cursor block = x at hentry ⊢
  obtain ⟨pageRva, size, entries⟩ := x
  simp only [Block.wrapped, Block.targets] at hentry ⊢
  induction entries with
  | nil => rfl
  | cons entry rest ih =>
    simp only [List.mem_cons, forall_eq_or_imp] at hentry
    rw [List.flatMap_cons, ih hentry.2, wrappedTargets]
    by_cases htype : entry >>> 12 = 10
    · rw [if_pos htype, List.filter_cons_of_pos (by simpa using htype),
        Nat.mod_eq_of_lt (hentry.1 htype)]
      rfl
    · rw [if_neg htype, List.filter_cons_of_neg (by simpa using htype)]
      rfl

/-- The cells of a block whose entries fit lie in the image. -/
theorem wrapped_le (hfit : EntriesFit file cursor block) :
    ∀ target ∈ (blockOf file cursor block).wrapped, target + 8 ≤ (imageOf file).loadedSize := by
  intro target hmem
  rw [blockOf_wrapped, List.mem_flatMap] at hmem
  obtain ⟨i, hi, hmem⟩ := hmem
  rw [List.mem_range'_1] at hi
  have hfits := (hfit i (by omega)).entryAt.1
  unfold RelocationFits at hfits
  unfold wrappedTargets at hmem
  by_cases htype : entryAt file cursor i >>> 12 = 10
  · rw [if_pos htype] at hmem hfits
    rw [List.mem_singleton.mp hmem]
    exact hfits
  · rw [if_neg htype] at hmem
    cases hmem

/-- Without a wrap a walk tiles the directory. -/
theorem Walk.tiles {blocks : List Block} (h : Loaded file image)
    (hreloc : (imageOf file).relocRva ≠ 0) (hnone : NoneWraps file)
    (hwalk : Walk file cursor blocks) (hreached : BlockReached file cursor) :
    Tiles file cursor blocks ∧ blocks.flatMap Block.wrapped = blocks.flatMap Block.targets ∧
      ∀ target ∈ blocks.flatMap Block.targets, target + 8 ≤ (imageOf file).loadedSize := by
  induction hwalk with
  | done hend => exact ⟨.done hreached.cursor_le hend, rfl, fun _ hmem => nomatch hmem⟩
  | @block cursor block rest hblock hfit _ ih =>
    obtain ⟨hrva, hcells⟩ := hnone cursor block hreached hblock hfit
    obtain ⟨htiles, hsame, hin⟩ := ih (hreached.next hblock hfit)
    have hwrapped := wrapped_eq hfit hcells
    refine ⟨.block (h.blockOf_standsAt hreloc hblock hfit hrva) ?_, ?_, ?_⟩
    · rw [h.nextCursor_eq hreloc hblock hfit hrva] at htiles
      exact htiles
    · rw [List.flatMap_cons, List.flatMap_cons, hwrapped, hsame]
    · intro target hmem
      rw [List.flatMap_cons, List.mem_append] at hmem
      rcases hmem with hmem | hmem
      · exact wrapped_le hfit target (hwrapped ▸ hmem)
      · exact hin target hmem

/-- Without a wrap every block brings the loop nearer to its end. -/
theorem NoneWraps.ends (h : Loaded file image) (hplaced : Placed file base memory executable image')
    (hreloc : (imageOf file).relocRva ≠ 0) (hin : RelocationsInFile file) (hnone : NoneWraps file)
    (hreached : BlockReached file cursor)
    (hfuel : (imageOf file).relocSize < cursor + fuel) :
    relocateBlocks file fuel cursor image' ≠ unfinished := by
  have hs := h.signed
  have hall := h.searched
  induction fuel generalizing cursor image' with
  | zero =>
    have hle := hreached.cursor_le
    omega
  | succ fuel ih =>
    by_cases hblock : ∃ block, BlockAt file cursor block
    · obtain ⟨block, hblock⟩ := hblock
      by_cases hfit : EntriesFit file cursor block
      · have hrva := (hnone cursor block hreached hblock hfit).1
        have hsize := hblock.size
        rw [relocateBlocks_next hs hall hplaced hblock hfit]
        refine ih (hplaced.moved _) (hreached.next hblock hfit) ?_
        rw [h.nextCursor_eq hreloc hblock hfit hrva]
        omega
      · obtain ⟨message, hfailed⟩ := relocateBlocks_failed hs hall hplaced fuel hblock
          (hin cursor block hreached hblock) hfit
        rw [hfailed]
        nofun
    · rcases relocateBlocks_last_eq hs hall hplaced fuel (not_exists.mp hblock) with
        ⟨_, heq⟩ | ⟨_, message, heq⟩
      · rw [heq]
        nofun
      · rw [heq]
        nofun

/-- Tiles go over every cursor that is reached. -/
theorem Tiles.at_reached (h : Loaded file image) {blocks : List Block}
    (htiles : Tiles file 0 blocks) (hreached : BlockReached file cursor) :
    ∃ rest, Tiles file cursor rest ∧ ∀ x ∈ rest, x ∈ blocks := by
  induction hreached with
  | first => exact ⟨blocks, htiles, fun x hx => hx⟩
  | @next cursor block _ hblock _ ih =>
    obtain ⟨rest, hrest, hmem⟩ := ih
    cases hrest with
    | done _ hend =>
      have hle := hblock.cursor_le
      omega
    | @block _ x rest hat hnext =>
      obtain ⟨p, hp, _, hsize⟩ := hat.header
      have hlt := h.found_lt (by decide) hp
      have hoffset := hblock.offset
      rw [Nat.mod_eq_of_lt (by omega), hp] at hoffset
      cases hoffset
      have hfits := hat.fits
      have hreloc : (imageOf file).relocSize < 2 ^ 32 := u32_lt _ _
      refine ⟨rest, ?_, fun y hy => hmem y (List.mem_cons_of_mem x hy)⟩
      rw [nextCursor, hsize, Nat.mod_eq_of_lt (by omega)]
      exact hnext

/-- Where blocks tile the directory and their cells lie in the image, nothing wraps. -/
theorem Tiles.noneWraps (h : Loaded file image) {blocks : List Block} (htiles : Tiles file 0 blocks)
    (hcells : ∀ target ∈ blocks.flatMap Block.targets, target + 8 ≤ (imageOf file).loadedSize) :
    NoneWraps file := by
  intro cursor block hreached hblock hfit
  obtain ⟨rest, hrest, hmem⟩ := htiles.at_reached h hreached
  cases hrest with
  | done _ hend =>
    have hle := hblock.cursor_le
    omega
  | @block _ x rest hat _ =>
    obtain ⟨p, hp, hrva, hsize⟩ := hat.header
    have hlt := h.found_lt (by decide) hp
    have hoffset := hblock.offset
    rw [Nat.mod_eq_of_lt (by omega), hp] at hoffset
    cases hoffset
    refine ⟨by omega, fun i hi q hq htype => ?_⟩
    have hentries := h.entries_lt hblock hfit (by omega)
    have hlength : i < x.entries.length := by
      rw [hat.count, ← hsize]
      exact hi
    obtain ⟨q', hq', heq⟩ := hat.entries i _ (List.getElem?_eq_getElem hlength)
    rw [entryOffset, entryRva, Nat.mod_eq_of_lt (by omega), hq'] at hq
    cases hq
    have hin : file.u32 block + file.u16 q % 2 ^ 12 ∈ x.targets := by
      rw [hrva, heq, Block.targets]
      refine List.mem_map.mpr ⟨_, List.mem_filter.mpr ⟨List.getElem_mem hlength, ?_⟩, rfl⟩
      rw [← heq]
      exact decide_eq_true htype
    have hle := hcells _ (List.mem_flatMap.mpr ⟨x, hmem x List.mem_cons_self, hin⟩)
    have himage : (imageOf file).loadedSize < 2 ^ 32 := u32_lt _ _
    omega

/-! ## The relocations -/

/-- What is left of the function when the image is moved and has a directory. -/
theorem applyRelocations_eq (file : Buffer) (hdelta : image.delta ≠ 0) (hrva : image.relocRva ≠ 0)
    (hsize : 8 ≤ image.relocSize) (fuel : Nat) :
    applyRelocations file fuel image = relocateBlocks file fuel 0 image := by
  unfold applyRelocations
  rw [if_neg hdelta, failIf_bind, if_neg (by omega)]

/-- The relocations of a loaded image that is moved are exact if and only if the file has the
entries of every block that the loop comes to, and either a check stops the loop or nothing
wraps. An image without a directory is refused. -/
theorem relocation_is_exact_iff {b : Option Nat} {r : NtHeader × Image}
    (hload : loadUnrelocated file b = ok r) (hdelta : r.2.delta ≠ 0) :
    RelocatesExactly file r.2 ↔
      ((imageOf file).relocRva ≠ 0 → 8 ≤ (imageOf file).relocSize → RelocationsHold file) := by
  obtain ⟨_, h⟩ := loadUnrelocated_loaded hload
  obtain ⟨base, memory, executable, hplaced⟩ := h.placed
  have hs := h.signed
  have hall := h.searched
  by_cases hdirectory : (imageOf file).relocRva ≠ 0 ∧ 8 ≤ (imageOf file).relocSize
  · obtain ⟨hrva, hsize⟩ := hdirectory
    have heq := applyRelocations_eq file hdelta (hplaced.relocRva ▸ hrva)
      (hplaced.relocSize ▸ hsize)
    simp only [RelocatesExactly, MovedByBlocks, heq, hrva, hsize, ne_eq, not_false_eq_true,
      true_imp_iff]
    rw [relocateBlocks_inside hs hall hplaced, RelocationsHold]
    refine and_congr_right fun hin => ⟨fun ⟨hends, hexact⟩ => ?_, ?_⟩
    · by_cases hrefused : Refused file
      · exact .inl hrefused
      · obtain ⟨fuel, hfuel⟩ := hends
        rcases relocateBlocks_not_refused hs hall hplaced hrefused .first fuel with
          hun | ⟨image', hok⟩
        · exact absurd hun hfuel
        · obtain ⟨blocks, htiles, hcells, _⟩ := hexact fuel image' hok
          exact .inr (htiles.noneWraps h (hplaced.loadedSize ▸ hcells))
    · rintro (hrefused | hnone)
      · obtain ⟨fuel, message, hfailed⟩ := hrefused.ends hs hall hplaced hin
        refine ⟨⟨fuel, by rw [hfailed]; nofun⟩, fun fuel image' hok => ?_⟩
        obtain ⟨blocks, hwalk, _⟩ := relocateBlocks_walk hs hall hplaced hok
        exact absurd hwalk (hrefused.not_walk blocks)
      · refine ⟨⟨(imageOf file).relocSize + 1, hnone.ends h hplaced hrva hin .first (by omega)⟩,
          fun fuel image' hok => ?_⟩
        obtain ⟨blocks, hwalk, rfl⟩ := relocateBlocks_walk hs hall hplaced hok
        obtain ⟨htiles, hsame, hcells⟩ := hwalk.tiles h hrva hnone .first
        exact ⟨blocks, htiles, hplaced.loadedSize ▸ hcells, by rw [hsame]; rfl⟩
  · have hfailed : ∀ fuel, applyRelocations file fuel r.2 = failed "relocations-required" := by
      intro fuel
      unfold applyRelocations
      rw [if_neg hdelta, failIf_bind, hplaced.relocRva, hplaced.relocSize, if_pos (by omega)]
    refine iff_of_true ⟨fun fuel => ?_, ⟨0, ?_⟩, fun fuel image' hok => ?_⟩
      (fun hrva hsize => absurd ⟨hrva, hsize⟩ hdirectory)
    · rw [hfailed]
      trivial
    · rw [hfailed]
      nofun
    · rw [hfailed] at hok
      cases hok

/-! ## Two directories -/

/-- An image of headers only. The file ends behind the header of its relocation block, which
announces one entry. -/
def lateEntryFile : Buffer :=
  fileOf 0x1B0 (headerFields 0x1B0 ++ [(0xF0, 0x1A8), (0xF4, 10), (0x1AC, 10)])

theorem late_entry_is_read : ∃ r, loadUnrelocated lateEntryFile (some 0x200000) = ok r ∧
    r.2.delta ≠ 0 ∧ ¬ RelocatesExactly lateEntryFile r.2 := by
  have hgives : gives (fun r => decide (r.2.delta ≠ 0 ∧
      ¬ (applyRelocations lateEntryFile 1 r.2).Inside))
      (loadUnrelocated lateEntryFile (some 0x200000)) = true := by decide +kernel
  obtain ⟨r, hload, htest⟩ := exists_of_gives hgives
  obtain ⟨hdelta, houtside⟩ := of_decide_eq_true htest
  exact ⟨r, hload, hdelta, fun h => houtside (h.1 1)⟩

/-- One entry moves the cell at `0x110`, which is in the image. -/
def oneEntryFile : Buffer :=
  fileOf 0x1B0 (headerFields 0x1B0 ++ [(0xF0, 0x1A4), (0xF4, 10), (0x1A8, 10), (0x1AC, 0xA110)])

theorem oneEntryFile_reached (hreached : BlockReached oneEntryFile cursor)
    (hblock : BlockAt oneEntryFile cursor block) : cursor = 0 ∧ block = 0x1A4 := by
  have hfirst : fileOffset oneEntryFile (imageOf oneEntryFile).sizeOfHeaders
      (((imageOf oneEntryFile).relocRva + 0) % 2 ^ 32) 8 = some 0x1A4 := by decide +kernel
  have hnext : nextCursor oneEntryFile 0 0x1A4 = 10 := by decide +kernel
  have hsize : (imageOf oneEntryFile).relocSize = 10 := by decide +kernel
  induction hreached generalizing block with
  | first =>
    have hoffset := hblock.offset
    rw [hfirst] at hoffset
    exact ⟨rfl, (Option.some.inj hoffset).symm⟩
  | next _ hbefore _ ih =>
    obtain ⟨rfl, rfl⟩ := ih hbefore
    have hle := hblock.cursor_le
    rw [hnext, hsize] at hle
    exact absurd hle (by decide)

theorem one_entry_is_relocated : ∃ r, loadUnrelocated oneEntryFile (some 0x200000) = ok r ∧
    r.2.delta ≠ 0 ∧ RelocatesExactly oneEntryFile r.2 := by
  have hgives : gives (fun r => decide (r.2.delta ≠ 0))
      (loadUnrelocated oneEntryFile (some 0x200000)) = true := by decide +kernel
  obtain ⟨r, hload, htest⟩ := exists_of_gives hgives
  have hdelta := of_decide_eq_true htest
  have hentry : entryOffset oneEntryFile 0 0 = some 0x1AC := by decide +kernel
  have hcount : entryCount oneEntryFile 0x1A4 = 1 := by decide +kernel
  refine ⟨r, hload, hdelta, (relocation_is_exact_iff hload hdelta).mpr fun _ _ =>
    ⟨fun cursor block hreached hblock k hk _ => ?_,
      .inr fun cursor block hreached hblock _ => ⟨?_, fun i hi q hq _ => ?_⟩⟩⟩
  all_goals obtain ⟨rfl, rfl⟩ := oneEntryFile_reached hreached hblock
  · obtain rfl : k = 0 := by omega
    rw [hentry]
    rfl
  · decide +kernel
  · obtain rfl : i = 0 := by omega
    rw [hentry] at hq
    cases hq
    decide +kernel

end Gate4Harness.PeImage
