-- The loading of a PE image (load_pe_image of the loader). The file and the pages of the image
-- are buffers, and an access to any other byte is an outcome of its own. An offset into a
-- buffer stands for a pointer.
import Gate4Harness.Buffers

namespace Gate4Harness.PeImage

open Buffers Outcome

/-! ## The image -/

def maxMemoryRegions : Nat := 32
def maxExecutableRegions : Nat := 8
def efiPageSize : Nat := 4096
def uint32Max : Nat := 0xFFFFFFFF
def uintptrMax : Nat := 0xFFFFFFFFFFFFFFFF

/-- `GXOS_CRT_INITTERM_MEMORY_REGION`. -/
structure MemoryRegion where
  base : Nat
  stop : Nat
  readable : Bool
  writable : Bool
  executable : Bool

/-- `GXOS_CRT_INITTERM_E_EXECUTABLE_REGION`. -/
structure ExecutableRegion where
  base : Nat
  stop : Nat

/-- `PE_IMAGE` without the file. `loaded` is the whole of the pages that were allocated, and
`managedRvas` are the exports that were found. -/
structure Image where
  loaded : Buffer := ⟨0, fun _ => 0⟩
  loadedSize : Nat := 0
  preferredBase : Nat := 0
  actualBase : Nat := 0
  sizeOfHeaders : Nat := 0
  entryRva : Nat := 0
  importRva : Nat := 0
  importSize : Nat := 0
  relocRva : Nat := 0
  relocSize : Nat := 0
  exportRva : Nat := 0
  exportSize : Nat := 0
  managedRvas : List Nat := []
  tlsTemplateRva : Nat := 0
  tlsTemplateSize : Nat := 0
  tlsIndexRva : Nat := 0
  tlsCallbacksRva : Nat := 0
  securityCookieRva : Nat := 0
  relocationsApplied : Bool := false
  memoryRegions : List MemoryRegion := []
  executableRegions : List ExecutableRegion := []

/-- The bytes of the loaded image itself. -/
def Image.view (image : Image) : Buffer := { image.loaded with size := image.loadedSize }

/-- What `load_pe_image` keeps in local variables of the headers. -/
structure NtHeader where
  nt : Nat
  sectionCount : Nat
  optionalSize : Nat
  tlsRva : Nat
  loadConfigRva : Nat
  loadConfigSize : Nat

/-! ## Addresses in the file and in the image -/

/-- The loop of `rva_to_file` over the section headers. -/
def findSection (file : Buffer) (rva size : Nat) : (count : Nat) → (header : Nat) →
    Outcome (Option Nat)
  | 0, _ => return none
  | count + 1, header => do
    let _virtualSize ← file.readU32 (header + 8)
    let virtualAddress ← file.readU32 (header + 12)
    let rawSize ← file.readU32 (header + 16)
    let rawOffset ← file.readU32 (header + 20)
    if virtualAddress ≤ rva ∧ rva + size ≤ virtualAddress + rawSize ∧
        rawOffset + (rva - virtualAddress) + size ≤ file.size then
      return some (rawOffset + (rva - virtualAddress))
    else findSection file rva size count (header + 40)

def rvaToFile (file : Buffer) (image : Image) (rva size : Nat) : Outcome (Option Nat) := do
  if rva + size ≤ image.sizeOfHeaders then
    return if rva + size ≤ file.size then some rva else none
  let nt ← file.readU32 0x3C
  let sectionCount ← file.readU16 (nt + 6)
  let optionalSize ← file.readU16 (nt + 20)
  findSection file rva size sectionCount (nt + 24 + optionalSize)

def rvaToLoaded (image : Image) (rva size : Nat) : Option Nat :=
  if rva + size > image.loadedSize then none else some rva

/-! ## The headers -/

/-- `has_magic`. -/
def hasMagic (file : Buffer) : (p : Nat) → List Nat → Outcome Bool
  | _, [] => return true
  | p, expected :: rest => do
    let actual ← file.get p
    if actual = expected then hasMagic file (p + 1) rest else return false

/-- The checks up to the PE signature, and the offset of the NT headers. -/
def findNtHeader (file : Buffer) : Outcome Nat := do
  failIf (file.size < 0x40) "dos-header"
  let magic ← file.readU16 0
  failIf (magic ≠ 0x5A4D) "dos-header"
  let offset ← file.readU32 0x3C
  failIf (offset + 24 > file.size) "nt-header-bounds"
  let nt ← file.readU32 0x3C
  let signed ← hasMagic file nt [0x50, 0x45, 0, 0]
  failIf (signed = false) "pe-signature"
  return nt

def readHeaders (file : Buffer) (nt : Nat) : Outcome (NtHeader × Image) := do
  let sectionCount ← file.readU16 (nt + 6)
  let optionalSize ← file.readU16 (nt + 20)
  let magic ← file.readU16 (nt + 24)
  failIf (magic ≠ 0x20B ∨ optionalSize < 0xF0) "pe32-plus"
  let optional := nt + 24
  let sizeOfImage ← file.readU32 (optional + 0x38)
  let sizeOfHeaders ← file.readU32 (optional + 0x3C)
  let entryRva ← file.readU32 (optional + 0x10)
  let preferredBase ← file.readU64 (optional + 0x18)
  let importRva ← file.readU32 (optional + 0x78)
  let importSize ← file.readU32 (optional + 0x7C)
  let exportRva ← file.readU32 (optional + 0x70)
  let exportSize ← file.readU32 (optional + 0x74)
  let relocRva ← file.readU32 (optional + 0x98)
  let relocSize ← file.readU32 (optional + 0x9C)
  let tlsRva ← file.readU32 (optional + 0xB8)
  let loadConfigRva ← file.readU32 (optional + 0xC0)
  let loadConfigSize ← file.readU32 (optional + 0xC4)
  return ({ nt, sectionCount, optionalSize, tlsRva, loadConfigRva, loadConfigSize },
    { loadedSize := sizeOfImage, sizeOfHeaders, entryRva, preferredBase, importRva, importSize,
      exportRva, exportSize, relocRva, relocSize })

def readSecurityCookie (file : Buffer) (h : NtHeader) (image : Image) : Outcome Image := do
  if h.loadConfigRva ≠ 0 ∧ h.loadConfigSize ≥ 0x60 then
    match ← rvaToFile file image h.loadConfigRva 0x60 with
    | none => failed "load-config-bounds"
    | some loadConfig =>
      let cookie ← file.readU64 (loadConfig + 0x58)
      if cookie ≠ 0 then
        failIf (cookie < image.preferredBase ∨ cookie - image.preferredBase > uint32Max)
          "security-cookie-address"
        return { image with securityCookieRva := cookie - image.preferredBase }
      else return image
  else return image

/-- `base` is the answer of `AllocatePages`, if it succeeds. -/
def allocateImage (file : Buffer) (base : Option Nat) (image : Image) : Outcome Image := do
  failIf (image.loadedSize = 0 ∨ image.sizeOfHeaders > file.size) "image-size"
  let pages := (image.loadedSize + efiPageSize - 1) / efiPageSize
  match base with
  | none => failed "allocate-image"
  | some base =>
    let loaded : Buffer := { image.loaded with size := pages * efiPageSize }
    let loaded ← loaded.write 0 (List.replicate image.loadedSize 0)
    let loaded ← file.copy loaded 0 0 image.sizeOfHeaders
    return { image with loaded, actualBase := base, memoryRegions := [], executableRegions := [] }

/-! ## The sections -/

/-- The assignments to `memory_regions[memory_region_count]`. -/
def storeMemoryRegion (image : Image) (region : MemoryRegion) : Outcome Image :=
  if image.memoryRegions.length < maxMemoryRegions then
    return { image with memoryRegions := image.memoryRegions ++ [region] }
  else outside

def storeExecutableRegion (image : Image) (region : ExecutableRegion) : Outcome Image :=
  if image.executableRegions.length < maxExecutableRegions then
    return { image with executableRegions := image.executableRegions ++ [region] }
  else outside

/-- The fields of a section header that the loader reads. -/
structure Section where
  virtualSize : Nat
  virtualAddress : Nat
  rawSize : Nat
  rawOffset : Nat
  characteristics : Nat

def Section.extent (x : Section) : Nat :=
  if x.virtualSize > x.rawSize then x.virtualSize else x.rawSize

/-- The `extent` of the executable region. -/
def Section.codeSize (x : Section) : Nat := if x.virtualSize = 0 then x.rawSize else x.virtualSize

def noteMemoryRegion (image : Image) (x : Section) : Outcome Image :=
  if x.extent = 0 then return image
  else do
    failIf (image.memoryRegions.length ≥ maxMemoryRegions ∨
      x.virtualAddress + x.extent > image.loadedSize ∨
      image.actualBase > uintptrMax - x.virtualAddress) "memory-section-bounds"
    let base := image.actualBase + x.virtualAddress
    let image ← storeMemoryRegion image
      { base, stop := base + x.extent, readable := x.characteristics.testBit 30,
        writable := x.characteristics.testBit 31, executable := x.characteristics.testBit 29 }
    failIf (x.extent > uintptrMax - base) "memory-section-overflow"
    return image

def noteExecutableRegion (image : Image) (x : Section) : Outcome Image :=
  if x.characteristics.testBit 29 = false then return image
  else do
    failIf (image.executableRegions.length ≥ maxExecutableRegions ∨ x.codeSize = 0 ∨
      x.virtualAddress + x.codeSize > image.loadedSize ∨
      image.actualBase > uintptrMax - x.virtualAddress) "executable-section-bounds"
    let base := image.actualBase + x.virtualAddress
    failIf (x.codeSize > uintptrMax - base) "executable-section-overflow"
    storeExecutableRegion image { base, stop := base + x.codeSize }

def loadSection (file : Buffer) (image : Image) (x : Section) : Outcome Image := do
  let image ← noteMemoryRegion image x
  if x.rawSize = 0 then return image
  failIf (x.rawOffset + x.rawSize > file.size ∨ x.virtualAddress + x.rawSize > image.loadedSize)
    "section-bounds"
  let image ← noteExecutableRegion image x
  let loaded ← file.copy image.loaded x.rawOffset x.virtualAddress x.rawSize
  return { image with loaded }

def loadSections (file : Buffer) : (count : Nat) → (header : Nat) → Image → Outcome Image
  | 0, _, image => return image
  | count + 1, header, image => do
    let rawSize ← file.readU32 (header + 16)
    let rawOffset ← file.readU32 (header + 20)
    let virtualAddress ← file.readU32 (header + 12)
    let virtualSize ← file.readU32 (header + 8)
    let characteristics ← file.readU32 (header + 36)
    let image ← loadSection file image
      { virtualSize, virtualAddress, rawSize, rawOffset, characteristics }
    loadSections file count (header + 40) image

/-! ## The relocations -/

/-- `actual_base - preferred_base`. -/
def Image.delta (image : Image) : Nat :=
  (image.actualBase + 2 ^ 64 - image.preferredBase % 2 ^ 64) % 2 ^ 64

/-- One entry of a block. -/
def relocate (image : Image) (pageRva entry : Nat) : Outcome Image :=
  let type := entry >>> 12
  let offset := entry % 2 ^ 12
  if type = 10 then
    match rvaToLoaded image ((pageRva + offset) % 2 ^ 32) 8 with
    | none => failed "relocation-target"
    | some target => do
      let value ← image.view.readU64 target
      let loaded ← image.loaded.write target
        (Buffer.bytesOf ((value + image.delta) % 2 ^ 64) 8)
      return { image with loaded }
  else do
    failIf (type ≠ 0) "relocation-type"
    return image

/-- The address of the entry `i` of the block at `cursor`. -/
def entryRva (image : Image) (cursor i : Nat) : Nat :=
  (image.relocRva + cursor + 8 + i * 2) % 2 ^ 32

/-- The entries of a block from `i` on. `rva_to_file` can return null, and the entry is read
through the null pointer then. -/
def relocateEntries (file : Buffer) (pageRva cursor : Nat) : (count : Nat) → (i : Nat) → Image →
    Outcome Image
  | 0, _, image => return image
  | count + 1, i, image => do
    match ← rvaToFile file image (entryRva image cursor i) 2 with
    | none => outside
    | some p =>
      let entry ← file.readU16 p
      let image ← relocate image pageRva entry
      relocateEntries file pageRva cursor count (i + 1) image

/-- The loop over the blocks. The cursor is a `uint32_t`. -/
def relocateBlocks (file : Buffer) : (fuel : Nat) → (cursor : Nat) → Image → Outcome Image
  | 0, _, _ => unfinished
  | fuel + 1, cursor, image => do
    if (cursor + 8) % 2 ^ 32 ≤ image.relocSize then
      match ← rvaToFile file image ((image.relocRva + cursor) % 2 ^ 32) 8 with
      | none => failed "relocation-bounds"
      | some block =>
        let pageRva ← file.readU32 block
        let blockSize ← file.readU32 (block + 4)
        failIf (blockSize < 8 ∨ (cursor + blockSize) % 2 ^ 32 > image.relocSize)
          "relocation-block"
        let image ← relocateEntries file pageRva cursor ((blockSize - 8) / 2) 0 image
        relocateBlocks file fuel ((cursor + blockSize) % 2 ^ 32) image
    else return { image with relocationsApplied := true }

def applyRelocations (file : Buffer) (fuel : Nat) (image : Image) : Outcome Image := do
  if image.delta = 0 then return { image with relocationsApplied := true }
  failIf (image.relocRva = 0 ∨ image.relocSize < 8) "relocations-required"
  relocateBlocks file fuel 0 image

/-! ## The exports -/

/-- `range_valid`. -/
def rangeValid (imageSize rva size : Nat) : Prop := rva ≤ imageSize ∧ size ≤ imageSize - rva

instance (imageSize rva size : Nat) : Decidable (rangeValid imageSize rva size) :=
  inferInstanceAs (Decidable (_ ∧ _))

/-- A C string without its terminator. -/
structure CString where
  bytes : List UInt8
  ends : 0 ∉ bytes

/-- The C string that starts with these bytes. -/
def CString.ofBytes (bytes : List UInt8) : CString where
  bytes := bytes.takeWhile (· ≠ 0)
  ends h := by
    have hall := List.all_eq_true.mp (List.all_takeWhile (p := (· ≠ 0)) (l := bytes)) 0 h
    exact absurd hall (by decide)

/-- A string literal of the source. -/
def literal (text : String) : CString := .ofBytes text.toByteArray.data.toList

/-- The characters of a C string, with its terminator. -/
def character (name : CString) (i : Nat) : Nat := (name.bytes.getD i 0).toNat

/-- The loop of `text_equals_bounded`, which looks at 4096 characters at most. -/
def textEqualsFrom (view : Buffer) (rva : Nat) (name : CString) : (count : Nat) → (i : Nat) →
    Outcome Bool
  | 0, _ => return false
  | count + 1, i => do
    if rva + i < view.size then
      let actual ← view.get (rva + i)
      if actual ≠ character name i then return false
      else if actual = 0 then return true
      else textEqualsFrom view rva name count (i + 1)
    else return false

def textEqualsBounded (view : Buffer) (rva : Nat) (name : CString) : Outcome Bool :=
  textEqualsFrom view rva name 4096 0

/-- `GXOS_NATIVEAOT_EXPORT_RESOLUTION`. -/
structure ExportResolution where
  rva : Nat
  ordinal : Nat
  address : Nat

/-- `GXOS_NATIVEAOT_EXPORT_STATUS`, with what was found. -/
inductive ExportStatus
  | found (resolution : ExportResolution)
  | nullImage
  | nullName
  | invalidDirectory
  | invalidTable
  | forwarder
  | notFound

/-- The tables of an export directory. -/
structure ExportTables where
  ordinalBase : Nat
  functionCount : Nat
  functionsRva : Nat
  namesRva : Nat
  ordinalsRva : Nat

/-- The loop of `gxos_nativeaot_find_export` over the names. -/
def findName (image : Image) (tables : ExportTables) (name : CString) : (count : Nat) → (i : Nat) →
    Outcome ExportStatus
  | 0, _ => return .notFound
  | count + 1, i => do
    let nameRva ← image.view.readU32 (tables.namesRva + i * 4)
    let ordinal ← image.view.readU16 (tables.ordinalsRva + i * 2)
    let equal ←
      if ordinal < tables.functionCount ∧ rangeValid image.loadedSize nameRva 1 then
        textEqualsBounded image.view nameRva name
      else pure false
    if equal then
      let functionRva ← image.view.readU32 (tables.functionsRva + ordinal * 4)
      if functionRva = 0 ∨ ¬ rangeValid image.loadedSize functionRva 1 then return .invalidTable
      else if rangeValid image.loadedSize functionRva image.exportSize ∧
          functionRva ≥ image.exportRva ∧ functionRva - image.exportRva < image.exportSize then
        return .forwarder
      else return .found { rva := functionRva
                           ordinal := (tables.ordinalBase + ordinal) % 2 ^ 32
                           address := image.actualBase + functionRva }
    else findName image tables name count (i + 1)

/-- `gxos_nativeaot_find_export`. -/
def findExport (image : Image) (name : CString) : Outcome ExportStatus := do
  if image.actualBase = 0 then return .nullImage
  if character name 0 = 0 then return .nullName
  if image.loadedSize > uint32Max ∨
      ¬ rangeValid image.loadedSize image.exportRva image.exportSize ∨ image.exportSize < 40 then
    return .invalidDirectory
  let ordinalBase ← image.view.readU32 (image.exportRva + 16)
  let functionCount ← image.view.readU32 (image.exportRva + 20)
  let nameCount ← image.view.readU32 (image.exportRva + 24)
  let functionsRva ← image.view.readU32 (image.exportRva + 28)
  let namesRva ← image.view.readU32 (image.exportRva + 32)
  let ordinalsRva ← image.view.readU32 (image.exportRva + 36)
  if functionCount = 0 ∨ nameCount > functionCount ∨
      ¬ rangeValid image.loadedSize functionsRva (functionCount * 4) ∨
      ¬ rangeValid image.loadedSize namesRva (nameCount * 4) ∨
      ¬ rangeValid image.loadedSize ordinalsRva (nameCount * 2) then return .invalidTable
  findName image { ordinalBase, functionCount, functionsRva, namesRva, ordinalsRva } name
    nameCount 0

/-- `find_managed_main` and its siblings. -/
def findManaged (image : Image) (name : String) : Outcome Image := do
  match ← findExport image (literal name) with
  | .found found => return { image with managedRvas := image.managedRvas ++ [found.rva] }
  | _ => failed (name ++ "-export-missing")

def findAllManaged : List String → Image → Outcome Image
  | [], image => return image
  | name :: rest, image => do
    let image ← findManaged image name
    findAllManaged rest image

/-! ## The thread-local storage -/

def readTlsDirectory (file : Buffer) (h : NtHeader) (image : Image) : Outcome Image := do
  if h.tlsRva ≠ 0 then
    match ← rvaToFile file image h.tlsRva 40 with
    | none => failed "tls-directory-bounds"
    | some tls =>
      let start ← file.readU64 tls
      let stop ← file.readU64 (tls + 8)
      let index ← file.readU64 (tls + 16)
      let callbacks ← file.readU64 (tls + 24)
      failIf (start < image.preferredBase ∨ stop < start ∨ stop - start > 0x100000 ∨
        index < image.preferredBase ∨ index - image.preferredBase > uint32Max ∨
        start - image.preferredBase > uint32Max) "tls-directory-values"
      let image := { image with tlsTemplateRva := start - image.preferredBase
                                tlsTemplateSize := stop - start
                                tlsIndexRva := index - image.preferredBase }
      if callbacks ≠ 0 then
        failIf (callbacks < image.preferredBase ∨ callbacks - image.preferredBase > uint32Max)
          "tls-callbacks-address"
        return { image with tlsCallbacksRva := callbacks - image.preferredBase }
      else return image
  else return image

/-! ## The whole -/

/-- `exports` are the names that the build looks for, `ManagedMain` the first of them. -/
def loadPeImage (file : Buffer) (base : Option Nat) (exports : List String) (fuel : Nat) :
    Outcome Image := do
  let nt ← findNtHeader file
  let (h, image) ← readHeaders file nt
  let image ← readSecurityCookie file h image
  let image ← allocateImage file base image
  let image ← loadSections file h.sectionCount (h.nt + 24 + h.optionalSize) image
  let image ← applyRelocations file fuel image
  let image ← findAllManaged exports image
  readTlsDirectory file h image

end Gate4Harness.PeImage
