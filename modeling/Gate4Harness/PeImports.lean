-- The binding of the imports of a loaded image (resolve_imports of the loader). A named import
-- gets the function of the platform, or a stub in the one page that the firmware gives. Names
-- are compared as C strings of the file, of which only the first byte or two are looked up.
import Gate4Harness.PeTls

namespace Gate4Harness.PeImage

open Buffers Buffer Outcome

/-! ## The platform -/

def maxImportSymbols : Nat := 256
/-- `sizeof(IMPORT_RECORD)`. -/
def importRecordBytes : Nat := 32
def stubBytes : Nat := 32

/-- `IMPORT_RECORD`. The names are offsets into the file. -/
structure ImportRecord where
  moduleName : Nat
  symbol : Nat
  descriptorIndex : Nat
  symbolIndex : Nat
  iatRva : Nat

/-- A line of `platform_import_target`. -/
structure PlatformTarget where
  moduleName : CString
  symbol : CString
  address : Nat
  nonnull : address ≠ 0
  fits : address < 2 ^ 64

/-- A build of the loader with the answer of `AllocatePages`. `watched` are the imports whose
place it keeps, and `unresolvedImport` is the build that leaves the first import unresolved. -/
structure ImportPlatform where
  stubPage : Option Page
  recordsAddress : Nat
  records_fit : recordsAddress + maxImportSymbols * importRecordBytes ≤ 2 ^ 64
  failfastEntry : Nat
  watched : List (CString × CString)
  targets : List PlatformTarget
  unresolvedImport : Bool

/-- What the binding of an import changes: the image, the page of the stubs, the globals and the
counts. `records` are those of `g_import_records` up to `symbols`. -/
structure ImportState where
  loaded : Buffer
  stubs : Buffer
  records : List ImportRecord
  noted : List (CString × ImportRecord)
  functional : Nat
  failfast : Nat
  unresolved : Nat

/-! ## The names -/

/-- `equal_text` of a name in the file and a literal. -/
def equalText (file : Buffer) : (p : Nat) → List UInt8 → Outcome Bool
  | p, [] => do
    let left ← file.get p
    return decide (left = 0)
  | p, right :: rest => do
    let left ← file.get p
    if left ≠ 0 ∧ left = right.toNat then equalText file (p + 1) rest
    else return decide (left = 0 ∧ right.toNat = 0)

def namesEqual (file : Buffer) (record : ImportRecord) (moduleName symbol : CString) :
    Outcome Bool := do
  if ← equalText file record.moduleName moduleName.bytes then
    equalText file record.symbol symbol.bytes
  else return false

/-- The comparisons that keep the place of an import. -/
def noteImport (file : Buffer) (record : ImportRecord) :
    List (CString × CString) → List (CString × ImportRecord) →
      Outcome (List (CString × ImportRecord))
  | [], noted => return noted
  | (moduleName, symbol) :: rest, noted => do
    if ← namesEqual file record moduleName symbol then
      noteImport file record rest ((symbol, record) :: noted)
    else noteImport file record rest noted

def platformImportTarget (file : Buffer) (record : ImportRecord) :
    List PlatformTarget → Outcome (Option Nat)
  | [] => return none
  | target :: rest => do
    if ← namesEqual file record target.moduleName target.symbol then return some target.address
    else platformImportTarget file record rest

/-! ## One import -/

/-- The code of a stub. -/
def stubCode (recordAddress handlerAddress : Nat) : List UInt8 :=
  [0x49, 0xBA] ++ bytesOf recordAddress 8 ++ [0x49, 0xBB] ++ bytesOf handlerAddress 8 ++
    [0x41, 0xFF, 0xE3] ++ List.replicate 9 0xCC

/-- `emit_import_failfast_stub` for the import of this number. -/
def emitImportFailfastStub (platform : ImportPlatform) (stubs : Buffer) (symbols : Nat) :
    Outcome Buffer :=
  stubs.write (symbols * stubBytes)
    (stubCode (platform.recordsAddress + symbols * importRecordBytes) platform.failfastEntry)

/-- The binding of a named import. -/
def bindImport (file : Buffer) (platform : ImportPlatform) (page : Page) (record : ImportRecord)
    (s : ImportState) : Outcome ImportState := do
  let symbols := s.records.length
  let noted ← noteImport file record platform.watched s.noted
  let s := { s with records := s.records ++ [record], noted }
  let target ← platformImportTarget file record platform.targets
  if platform.unresolvedImport ∧ symbols = 0 then
    let loaded ← s.loaded.write record.iatRva (bytesOf 0 8)
    return { s with loaded, unresolved := s.unresolved + 1 }
  else match target with
    | some target =>
      let loaded ← s.loaded.write record.iatRva (bytesOf target 8)
      return { s with loaded, functional := s.functional + 1 }
    | none =>
      let stubs ← emitImportFailfastStub platform s.stubs symbols
      let loaded ← s.loaded.write record.iatRva (bytesOf (page.address + symbols * stubBytes) 8)
      return { s with stubs, loaded, failfast := s.failfast + 1 }

/-! ## The loops -/

/-- What the loader takes from an import descriptor. -/
structure ImportDescriptor where
  moduleName : Nat
  lookupRva : Nat
  firstThunkRva : Nat

/-- The descriptor at `cursor`; none stands for the one of zeros that ends the table. -/
def readDescriptor (file : Buffer) (image : Image) (cursor : Nat) :
    Outcome (Option ImportDescriptor) := do
  match ← rvaToFile file image ((image.importRva + cursor) % 2 ^ 32) 20 with
  | none => failed "import-bounds"
  | some descriptor =>
    let lookupRva ← file.readU32 descriptor
    let timeStamp ← file.readU32 (descriptor + 4)
    let forwarderChain ← file.readU32 (descriptor + 8)
    let nameRva ← file.readU32 (descriptor + 12)
    let firstThunkRva ← file.readU32 (descriptor + 16)
    if lookupRva = 0 ∧ timeStamp = 0 ∧ forwarderChain = 0 ∧ nameRva = 0 ∧ firstThunkRva = 0 then
      return none
    let lookupRva := if lookupRva = 0 then firstThunkRva else lookupRva
    match ← rvaToFile file image nameRva 1 with
    | none => failed "import-descriptor"
    | some moduleName =>
      failIf (lookupRva = 0 ∨ firstThunkRva = 0) "import-descriptor"
      return some { moduleName, lookupRva, firstThunkRva }

/-- The place of the slot `index` in the import address table. -/
def ImportDescriptor.iatRva (d : ImportDescriptor) (index : Nat) : Nat :=
  (d.firstThunkRva + index * 8) % 2 ^ 32

/-- The hint and name of a lookup; none stands for the zero that ends the table. -/
def readLookup (file : Buffer) (image : Image) (d : ImportDescriptor) (index : Nat) :
    Outcome (Option Nat) := do
  match ← rvaToFile file image ((d.lookupRva + index * 8) % 2 ^ 32) 8 with
  | none => failed "import-lookup-bounds"
  | some lookup =>
    let lookupValue ← file.readU64 lookup
    if lookupValue = 0 then return none
    failIf (lookupValue.testBit 63) "import-ordinal"
    failIf (lookupValue > uint32Max) "import-name-rva"
    match ← rvaToFile file image lookupValue 2 with
    | none => failed "import-iat-bounds"
    | some hintName =>
      failIf (rvaToLoaded image (d.iatRva index) 8 = none) "import-iat-bounds"
      return some hintName

/-- The record of the lookup `index`, whose name follows its hint. -/
def ImportDescriptor.record (d : ImportDescriptor) (descriptorIndex index hintName : Nat) :
    ImportRecord where
  moduleName := d.moduleName
  symbol := hintName + 2
  descriptorIndex
  symbolIndex := index
  iatRva := d.iatRva index

/-- The loop over the lookups of a descriptor. -/
def bindLookups (file : Buffer) (image : Image) (platform : ImportPlatform) (page : Page)
    (d : ImportDescriptor) (descriptorIndex : Nat) :
    (fuel : Nat) → (index : Nat) → ImportState → Outcome ImportState
  | 0, _, _ => unfinished
  | fuel + 1, index, s => do
    match ← readLookup file image d index with
    | none => return s
    | some hintName =>
      failIf (s.records.length ≥ maxImportSymbols) "import-symbol-capacity"
      let s ← bindImport file platform page (d.record descriptorIndex index hintName) s
      bindLookups file image platform page d descriptorIndex fuel (index + 1) s

/-- The loop over the descriptors. The cursor is a `uint32_t`, and the value has the number of
descriptors. -/
def bindDescriptors (file : Buffer) (image : Image) (platform : ImportPlatform) (page : Page) :
    (fuel : Nat) → (cursor : Nat) → (descriptors : Nat) → ImportState →
      Outcome (Nat × ImportState)
  | 0, _, _, _ => unfinished
  | fuel + 1, cursor, descriptors, s => do
    if (cursor + 20) % 2 ^ 32 ≤ image.importSize then
      match ← readDescriptor file image cursor with
      | none => return (descriptors, s)
      | some d =>
        let s ← bindLookups file image platform page d descriptors fuel 0 s
        bindDescriptors file image platform page fuel ((cursor + 20) % 2 ^ 32) (descriptors + 1) s
    else return (descriptors, s)

/-- The descriptor count and what is bound in the end. -/
def resolveImports (file : Buffer) (image : Image) (platform : ImportPlatform) (fuel : Nat) :
    Outcome (Nat × ImportState) := do
  let s : ImportState := { loaded := image.loaded, stubs := ⟨0, fun _ => 0⟩, records := []
                           noted := [], functional := 0, failfast := 0, unresolved := 0 }
  if image.importRva = 0 ∨ image.importSize < 20 then return (0, s)
  let page ← allocatePage platform.stubPage "allocate-import-stubs"
  let stubs ← zeroPage page
  bindDescriptors file image platform page fuel 0 0 { s with stubs }

/-! ## The imports of a file -/

/-- The named imports that the loops come to, without any binding, and how the loops end. -/
structure Scan (α : Type) where
  records : List ImportRecord
  ending : Outcome α

def scanLookups (file : Buffer) (image : Image) (d : ImportDescriptor) (descriptorIndex : Nat) :
    (fuel : Nat) → (index : Nat) → (symbols : Nat) → Scan Unit
  | 0, _, _ => ⟨[], unfinished⟩
  | fuel + 1, index, symbols =>
    match readLookup file image d index with
    | ok none => ⟨[], ok ()⟩
    | ok (some hintName) =>
      if symbols ≥ maxImportSymbols then ⟨[], failed "import-symbol-capacity"⟩
      else
        let rest := scanLookups file image d descriptorIndex fuel (index + 1) (symbols + 1)
        ⟨d.record descriptorIndex index hintName :: rest.records, rest.ending⟩
    | failed message => ⟨[], failed message⟩
    | unfinished => ⟨[], unfinished⟩
    | outside => ⟨[], outside⟩

def scanDescriptors (file : Buffer) (image : Image) :
    (fuel : Nat) → (cursor : Nat) → (descriptors : Nat) → (symbols : Nat) → Scan Nat
  | 0, _, _, _ => ⟨[], unfinished⟩
  | fuel + 1, cursor, descriptors, symbols =>
    if (cursor + 20) % 2 ^ 32 ≤ image.importSize then
      match readDescriptor file image cursor with
      | ok none => ⟨[], ok descriptors⟩
      | ok (some d) =>
        let first := scanLookups file image d descriptors fuel 0 symbols
        match first.ending with
        | ok _ =>
          let rest := scanDescriptors file image fuel ((cursor + 20) % 2 ^ 32) (descriptors + 1)
            (symbols + first.records.length)
          ⟨first.records ++ rest.records, rest.ending⟩
        | failed message => ⟨first.records, failed message⟩
        | unfinished => ⟨first.records, unfinished⟩
        | outside => ⟨first.records, outside⟩
      | failed message => ⟨[], failed message⟩
      | unfinished => ⟨[], unfinished⟩
      | outside => ⟨[], outside⟩
    else ⟨[], ok descriptors⟩

/-- The imports of an image, if it has any and there is a page for the stubs. -/
def namedImports (file : Buffer) (image : Image) (platform : ImportPlatform) (fuel : Nat) :
    List ImportRecord :=
  if image.importRva = 0 ∨ image.importSize < 20 ∨ platform.stubPage.isNone then []
  else (scanDescriptors file image fuel 0 0 0).records

end Gate4Harness.PeImage
