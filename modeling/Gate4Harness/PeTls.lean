-- The thread-local storage that a loaded image starts with (initialize_nativeaot_tls of the
-- loader). The directory may name a template of up to a megabyte, and its copy gets one page; the
-- address of the index is looked up, and what the lookup says is not looked at.
import Gate4Harness.PeLoaded

namespace Gate4Harness.PeImage

open Buffers Buffer Outcome

/-! ## The pages -/

/-- A page from the firmware, and what it holds. -/
structure Page where
  address : Nat
  byte : Nat → UInt8
  fits : address + efiPageSize ≤ 2 ^ 64

/-- The answers of `AllocatePages`, in the order of the calls. -/
structure TlsPages where
  vector : Option Page
  block : Option Page
  gsArea : Option Page
  tebArea : Option Page

/-- The registers that are read. -/
structure TlsRegisters where
  rsp : Nat
  flags : Nat
  gsBase : Nat

/-- The four pages and the globals of the loader afterwards. -/
structure TlsState where
  vector : Buffer
  block : Buffer
  gsArea : Buffer
  tebArea : Buffer
  stackLower : Nat
  stackUpper : Nat
  savedFlags : Nat
  savedGsBase : Nat
  gsBase : Nat

def allocatePage (page : Option Page) (message : String) : Outcome Page :=
  match page with
  | none => failed message
  | some page => ok page

/-- `zero_bytes` of a whole page. -/
def zeroPage (page : Page) : Outcome Buffer :=
  Buffer.write ⟨efiPageSize, page.byte⟩ 0 (List.replicate efiPageSize 0)

/-- `read_u32` of a looked up address, which may be null. -/
def readLoaded (image : Image) (rva : Nat) : Outcome Nat :=
  match rvaToLoaded image rva 4 with
  | none => outside
  | some p => image.view.readU32 p

/-- What is written when the four pages are there. -/
def fillTlsPages (image : Image) (tlsIndex : Nat) (vectorPage blockPage gsPage tebPage : Page)
    (registers : TlsRegisters) : Outcome TlsState := do
  let vector ← zeroPage vectorPage
  let block ← zeroPage blockPage
  match rvaToLoaded image image.tlsTemplateRva image.tlsTemplateSize with
  | none => failed "tls-template-bounds"
  | some templateStart =>
    let block ← image.view.copy block templateStart 0 image.tlsTemplateSize
    let vector ← vector.write (tlsIndex * 8) (bytesOf blockPage.address 8)
    let gsArea ← zeroPage gsPage
    let stackLower := registers.rsp - registers.rsp % efiPageSize
    let stackUpper := (stackLower + 0x100000) % 2 ^ 64
    let tebArea ← zeroPage tebPage
    let tebArea ← tebArea.write 0x08 (bytesOf stackUpper 8)
    let tebArea ← tebArea.write 0x10 (bytesOf stackLower 8)
    let gsArea ← gsArea.write 0x30 (bytesOf tebPage.address 8)
    let gsArea ← gsArea.write 0x58 (bytesOf vectorPage.address 8)
    return { vector, block, gsArea, tebArea, stackLower, stackUpper, savedFlags := registers.flags,
             savedGsBase := registers.gsBase, gsBase := gsPage.address }

def initializeNativeaotTls (image : Image) (pages : TlsPages) (registers : TlsRegisters) :
    Outcome TlsState := do
  failIf (image.tlsTemplateSize = 0 ∨ image.tlsIndexRva = 0) "tls-directory-missing"
  let tlsIndex ← readLoaded image image.tlsIndexRva
  failIf (tlsIndex ≥ 512) "tls-index-too-large"
  let vectorPage ← allocatePage pages.vector "allocate-tls-vector"
  let blockPage ← allocatePage pages.block "allocate-tls-block"
  let gsPage ← allocatePage pages.gsArea "allocate-gs-area"
  let tebPage ← allocatePage pages.tebArea "allocate-teb-area"
  fillTlsPages image tlsIndex vectorPage blockPage gsPage tebPage registers

/-! ## What it is for -/

variable {image : Image} {pages : TlsPages} {registers : TlsRegisters} {tlsIndex : Nat}
  {vectorPage blockPage gsPage tebPage : Page}

/-- The block starts with the template, and the vector has the block at the index. -/
def TlsState.HoldsTemplate (s : TlsState) (image : Image) (tlsIndex blockAddress : Nat) : Prop :=
  (∀ i < image.tlsTemplateSize, s.block.byte i = image.loaded.byte (image.tlsTemplateRva + i)) ∧
    s.vector.u64 (tlsIndex * 8) = blockAddress

/-- Every access stays in the image and in the four pages, and what comes out holds the
template. -/
def TlsIsSetUp (image : Image) (pages : TlsPages) (registers : TlsRegisters) : Prop :=
  (initializeNativeaotTls image pages registers).Inside ∧
    ∀ s, initializeNativeaotTls image pages registers = ok s → ∃ block, pages.block = some block ∧
      s.HoldsTemplate image (image.view.u32 image.tlsIndexRva) block.address

/-- The firmware gives all four pages. -/
def TlsPages.Given (pages : TlsPages) : Prop :=
  pages.vector ≠ none ∧ pages.block ≠ none ∧ pages.gsArea ≠ none ∧ pages.tebArea ≠ none

/-- The index of a directory that is there lies in the image. A template that is copied, since
nothing before it fails, has a page at most. -/
def TlsFits (image : Image) (pages : TlsPages) : Prop :=
  image.tlsTemplateSize ≠ 0 → image.tlsIndexRva ≠ 0 →
    image.tlsIndexRva + 4 ≤ image.loadedSize ∧
    (image.view.u32 image.tlsIndexRva < 512 → pages.Given →
      image.tlsTemplateRva + image.tlsTemplateSize ≤ image.loadedSize →
      image.tlsTemplateSize ≤ efiPageSize)

theorem allocatePage_some (page : Page) (message : String) :
    allocatePage (some page) message = ok page := rfl

theorem zeroPage_ok (page : Page) : ∃ b : Buffer, zeroPage page = ok b ∧ b.size = efiPageSize :=
  ⟨_, write_ok _ _ _ (by simp only [List.length_replicate, Nat.zero_add, Nat.le_refl]), rfl⟩

/-- The vector has room for every index that is accepted, the block for a template of a page. -/
theorem fillTlsPages_cases (hindex : tlsIndex < 512)
    (hin : image.tlsTemplateRva + image.tlsTemplateSize ≤ image.loadedSize) :
    (efiPageSize < image.tlsTemplateSize ∧
      fillTlsPages image tlsIndex vectorPage blockPage gsPage tebPage registers = outside) ∨
    ∃ s, fillTlsPages image tlsIndex vectorPage blockPage gsPage tebPage registers = ok s ∧
      image.tlsTemplateSize ≤ efiPageSize ∧
      s.HoldsTemplate image tlsIndex blockPage.address := by
  have hpage : efiPageSize = 4096 := rfl
  obtain ⟨vector, hvector, hvectorSize⟩ := zeroPage_ok vectorPage
  obtain ⟨block, hblock, hblockSize⟩ := zeroPage_ok blockPage
  obtain ⟨gsArea, hgsArea, hgsAreaSize⟩ := zeroPage_ok gsPage
  obtain ⟨tebArea, htebArea, htebAreaSize⟩ := zeroPage_ok tebPage
  have hview : image.view.size = image.loadedSize := rfl
  unfold fillTlsPages
  rw [hvector, hblock, ok_bind, ok_bind, rvaToLoaded, if_neg (by omega)]
  dsimp only
  by_cases hfits : image.tlsTemplateSize ≤ efiPageSize
  · rw [copy_ok _ _ _ _ _ (by omega) (by omega), ok_bind, write_bytesOf (by omega), ok_bind,
      hgsArea, ok_bind, htebArea, ok_bind, write_bytesOf (by omega), ok_bind,
      write_bytesOf (by rw [size_putU64]; omega), ok_bind, write_bytesOf (by omega), ok_bind,
      write_bytesOf (by rw [size_putU64]; omega), ok_bind]
    refine .inr ⟨_, rfl, hfits, fun i hi => ?_, ?_⟩
    · have hbyte := byte_setRange_in (b := block) (p := 0)
        (f := fun i => image.view.byte (image.tlsTemplateRva + i)) hi
      rwa [Nat.zero_add] at hbyte
    · have haddress := blockPage.fits
      dsimp only
      rw [u64_putU64]
      exact Nat.mod_eq_of_lt (by omega)
  · rw [copy_outside _ _ _ _ _ (by omega) (by omega)]
    exact .inl ⟨by omega, rfl⟩

theorem fillTlsPages_failed
    (hin : ¬ image.tlsTemplateRva + image.tlsTemplateSize ≤ image.loadedSize) :
    fillTlsPages image tlsIndex vectorPage blockPage gsPage tebPage registers =
      failed "tls-template-bounds" := by
  obtain ⟨vector, hvector, _⟩ := zeroPage_ok vectorPage
  obtain ⟨block, hblock, _⟩ := zeroPage_ok blockPage
  unfold fillTlsPages
  rw [hvector, hblock, ok_bind, ok_bind, rvaToLoaded, if_pos (by omega)]

theorem readLoaded_eq (image : Image) (rva : Nat) : readLoaded image rva =
    if rva + 4 ≤ image.loadedSize then ok (image.view.u32 rva) else outside := by
  unfold readLoaded rvaToLoaded
  by_cases h : rva + 4 ≤ image.loadedSize
  · rw [if_pos h, if_neg (by omega)]
    exact readU32_ok h
  · rw [if_neg h, if_pos (by omega)]

/-- A function that stops in `fail` has set up nothing, and nothing is wrong. -/
theorem TlsIsSetUp.of_failed {message : String}
    (h : initializeNativeaotTls image pages registers = failed message) :
    TlsIsSetUp image pages registers := by
  rw [TlsIsSetUp, h]
  exact ⟨trivial, fun s hs => nomatch hs⟩

/-- What the function comes to when the directory is there and the index is read. -/
theorem initializeNativeaotTls_eq (hsize : image.tlsTemplateSize ≠ 0)
    (hrva : image.tlsIndexRva ≠ 0) (hread : image.tlsIndexRva + 4 ≤ image.loadedSize)
    (hindex : image.view.u32 image.tlsIndexRva < 512) (pages : TlsPages)
    (registers : TlsRegisters) : initializeNativeaotTls image pages registers = (do
      let vectorPage ← allocatePage pages.vector "allocate-tls-vector"
      let blockPage ← allocatePage pages.block "allocate-tls-block"
      let gsPage ← allocatePage pages.gsArea "allocate-gs-area"
      let tebPage ← allocatePage pages.tebArea "allocate-teb-area"
      fillTlsPages image (image.view.u32 image.tlsIndexRva) vectorPage blockPage gsPage tebPage
        registers) := by
  unfold initializeNativeaotTls
  rw [failIf_bind, if_neg (by omega), readLoaded_eq, if_pos hread, ok_bind, failIf_bind,
    if_neg (by omega)]

theorem initializeNativeaotTls_given (hsize : image.tlsTemplateSize ≠ 0)
    (hrva : image.tlsIndexRva ≠ 0) (hread : image.tlsIndexRva + 4 ≤ image.loadedSize)
    (hindex : image.view.u32 image.tlsIndexRva < 512) (hvector : pages.vector = some vectorPage)
    (hblock : pages.block = some blockPage) (hgs : pages.gsArea = some gsPage)
    (hteb : pages.tebArea = some tebPage) : initializeNativeaotTls image pages registers =
      fillTlsPages image (image.view.u32 image.tlsIndexRva) vectorPage blockPage gsPage tebPage
        registers := by
  rw [initializeNativeaotTls_eq hsize hrva hread hindex pages registers, hvector, hblock, hgs, hteb,
    allocatePage_some, ok_bind, allocatePage_some, ok_bind, allocatePage_some, ok_bind,
    allocatePage_some, ok_bind]

/-- Without one of the pages the function stops. -/
theorem initializeNativeaotTls_not_given (hsize : image.tlsTemplateSize ≠ 0)
    (hrva : image.tlsIndexRva ≠ 0) (hread : image.tlsIndexRva + 4 ≤ image.loadedSize)
    (hindex : image.view.u32 image.tlsIndexRva < 512) (h : ¬ pages.Given)
    (registers : TlsRegisters) :
    ∃ message, initializeNativeaotTls image pages registers = failed message := by
  rw [initializeNativeaotTls_eq hsize hrva hread hindex pages registers]
  obtain ⟨vector, block, gsArea, tebArea⟩ := pages
  cases vector with
  | none => exact ⟨_, rfl⟩
  | some vector =>
    cases block with
    | none => exact ⟨_, rfl⟩
    | some block =>
      cases gsArea with
      | none => exact ⟨_, rfl⟩
      | some gsArea =>
        cases tebArea with
        | none => exact ⟨_, rfl⟩
        | some tebArea => exact absurd ⟨nofun, nofun, nofun, nofun⟩ h

/-- The index is read wherever its lookup says. -/
theorem TlsIsSetUp.index_in (h : TlsIsSetUp image pages registers)
    (hsize : image.tlsTemplateSize ≠ 0) (hrva : image.tlsIndexRva ≠ 0) :
    image.tlsIndexRva + 4 ≤ image.loadedSize := by
  by_contra hread
  have hinside := h.1
  rw [initializeNativeaotTls, failIf_bind, if_neg (by omega), readLoaded_eq,
    if_neg hread] at hinside
  exact hinside

/-- The function sets up the storage if and only if the index lies in the image and the template
that is copied has a page at most. -/
theorem tls_is_set_up_iff (image : Image) (pages : TlsPages) (registers : TlsRegisters) :
    TlsIsSetUp image pages registers ↔ TlsFits image pages := by
  unfold TlsFits
  by_cases hmissing : image.tlsTemplateSize = 0 ∨ image.tlsIndexRva = 0
  · have hfailed : initializeNativeaotTls image pages registers =
        failed "tls-directory-missing" := by
      rw [initializeNativeaotTls, failIf_bind, if_pos hmissing]
    exact iff_of_true (.of_failed hfailed) (fun hsize hrva => absurd hmissing (by omega))
  obtain ⟨hsize, hrva⟩ := not_or.mp hmissing
  simp only [hsize, hrva, ne_eq, not_false_eq_true, true_imp_iff]
  by_cases hread : image.tlsIndexRva + 4 ≤ image.loadedSize
  · simp only [hread, true_and]
    by_cases hindex : image.view.u32 image.tlsIndexRva < 512
    · simp only [hindex, true_imp_iff]
      by_cases hgiven : pages.Given
      · simp only [hgiven, true_imp_iff]
        obtain ⟨vectorPage, hvector⟩ := Option.ne_none_iff_exists'.mp hgiven.1
        obtain ⟨blockPage, hblock⟩ := Option.ne_none_iff_exists'.mp hgiven.2.1
        obtain ⟨gsPage, hgs⟩ := Option.ne_none_iff_exists'.mp hgiven.2.2.1
        obtain ⟨tebPage, hteb⟩ := Option.ne_none_iff_exists'.mp hgiven.2.2.2
        rw [TlsIsSetUp,
          initializeNativeaotTls_given hsize hrva hread hindex hvector hblock hgs hteb]
        by_cases hin : image.tlsTemplateRva + image.tlsTemplateSize ≤ image.loadedSize
        · rcases fillTlsPages_cases hindex hin with ⟨hlarge, hout⟩ | ⟨s, hok, hfits, hholds⟩
          · rw [hout]
            exact iff_of_false (fun h => h.1) (fun h => by have := h hin; omega)
          · rw [hok]
            refine iff_of_true ⟨trivial, fun s' hs' => ⟨blockPage, hblock, ?_⟩⟩ (fun _ => hfits)
            cases hs'
            exact hholds
        · rw [fillTlsPages_failed hin]
          exact iff_of_true ⟨trivial, fun s hs => nomatch hs⟩ (fun h => absurd h hin)
      · obtain ⟨message, hfailed⟩ :=
          initializeNativeaotTls_not_given hsize hrva hread hindex hgiven registers
        exact iff_of_true (.of_failed hfailed) (fun h => absurd h hgiven)
    · have hfailed :
          initializeNativeaotTls image pages registers = failed "tls-index-too-large" := by
        rw [initializeNativeaotTls, failIf_bind, if_neg hmissing, readLoaded_eq, if_pos hread,
          ok_bind, failIf_bind, if_pos (by omega)]
      exact iff_of_true (.of_failed hfailed) (fun h => absurd h hindex)
  · exact iff_of_false (fun h => hread (h.index_in hsize hrva)) (fun h => hread h.1)

/-! ## An index behind the image -/

/-- The last two bytes of its image are the first two of the index. -/
def lateIndexFile : Buffer :=
  fileOf 0x1B0 (headerFields 0x1B0 ++ [(0x110, 0x188), (0x188, 0x100010), (0x190, 0x100020),
    (0x198, 0x1001AE)])

/-- The image is accepted, and then its index is read through a null pointer. -/
theorem late_index_is_read : ∃ image,
    loadPeImage lateIndexFile (some 0x100000) ["ManagedMain"] 1 = ok image ∧
      ¬ TlsIsSetUp image ⟨none, none, none, none⟩ ⟨0, 0, 0⟩ := by
  have hgives : gives (fun image => decide (image.tlsTemplateSize ≠ 0 ∧ image.tlsIndexRva ≠ 0 ∧
      image.loadedSize < image.tlsIndexRva + 4))
      (loadPeImage lateIndexFile (some 0x100000) ["ManagedMain"] 1) = true := by decide +kernel
  obtain ⟨image, hload, htest⟩ := exists_of_gives hgives
  obtain ⟨hsize, hrva, hlate⟩ := of_decide_eq_true htest
  exact ⟨image, hload, fun h => absurd (h.index_in hsize hrva) (by omega)⟩

end Gate4Harness.PeImage
