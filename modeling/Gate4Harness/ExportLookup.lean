-- The search for an export by its name. It looks at the entries of the name table in order, up
-- to the first with a valid ordinal whose name it finds equal. The test for a forwarder asks for
-- room that a directory at the end of the image does not leave.
import Gate4Harness.PeLoaded

namespace Gate4Harness.PeImage

open Buffers Buffer Outcome

variable {view : Buffer} {image : Image} {name : CString} {count i rva : Nat}

/-! ## Names -/

/-- The whole name, with its terminator, stands in the image at this address. -/
def NameAt (view : Buffer) (rva : Nat) (name : CString) : Prop :=
  rva + name.bytes.length < view.size ∧
    ∀ j ≤ name.bytes.length, (view.byte (rva + j)).toNat = character name j

theorem character_eq_zero_iff (hi : i ≤ name.bytes.length) :
    character name i = 0 ↔ i = name.bytes.length := by
  unfold character
  constructor
  · intro hzero
    by_contra hne
    have hlt : i < name.bytes.length := by omega
    rw [List.getD_eq_getElem?_getD, List.getElem?_eq_getElem hlt] at hzero
    have hbyte : name.bytes[i] = 0 := UInt8.toNat_inj.mp hzero
    exact name.ends (hbyte ▸ List.getElem_mem hlt)
  · rintro rfl
    rw [List.getD_eq_getElem?_getD, List.getElem?_eq_none (Nat.le_refl _)]
    rfl

/-- After `i` equal characters, of which none is the terminator. -/
theorem textEqualsFrom_eq (count : Nat) (hi : i ≤ name.bytes.length)
    (hbefore : ∀ j < i, (view.byte (rva + j)).toNat = character name j) :
    ∃ equal, textEqualsFrom view rva name count i = ok equal ∧
      (equal = true ↔ NameAt view rva name ∧ name.bytes.length < i + count) := by
  induction count generalizing i with
  | zero => exact ⟨false, rfl, iff_of_false nofun fun h => by omega⟩
  | succ count ih =>
    unfold textEqualsFrom
    by_cases hsize : rva + i < view.size
    · rw [if_pos hsize, get_eq, if_pos (Nat.succ_le_of_lt hsize), ok_bind]
      by_cases hequal : (view.byte (rva + i)).toNat = character name i
      · rw [if_neg (not_not.mpr hequal)]
        have hupTo : ∀ j < i + 1, (view.byte (rva + j)).toNat = character name j := by
          intro j hj
          rcases Nat.lt_succ_iff_lt_or_eq.mp hj with hlt | rfl
          · exact hbefore j hlt
          · exact hequal
        by_cases hend : (view.byte (rva + i)).toNat = 0
        · rw [if_pos hend]
          obtain rfl := (character_eq_zero_iff hi).mp (hequal ▸ hend)
          exact ⟨true, rfl, iff_of_true rfl ⟨⟨hsize, fun j hj => hupTo j (by omega)⟩, by omega⟩⟩
        · rw [if_neg hend]
          have hne : i ≠ name.bytes.length := fun h =>
            hend (hequal.trans ((character_eq_zero_iff hi).mpr h))
          obtain ⟨equal, heq, hiff⟩ := ih (i := i + 1) (by omega) hupTo
          exact ⟨equal, heq, by rw [hiff, Nat.add_right_comm i 1 count]; rfl⟩
      · rw [if_pos hequal]
        exact ⟨false, rfl, iff_of_false nofun fun h => hequal (h.1.2 i hi)⟩
    · rw [if_neg hsize]
      refine ⟨false, rfl, iff_of_false nofun fun h => ?_⟩
      have hin := h.1.1
      omega

/-- A name of more than 4095 characters is equal to none. -/
theorem textEqualsBounded_eq (view : Buffer) (rva : Nat) (name : CString) :
    ∃ equal, textEqualsBounded view rva name = ok equal ∧
      (equal = true ↔ NameAt view rva name ∧ name.bytes.length < 4096) := by
  have hnone : ∀ j < 0, (view.byte (rva + j)).toNat = character name j := nofun
  obtain ⟨equal, heq, hiff⟩ := textEqualsFrom_eq 4096 (Nat.zero_le _) hnone
  exact ⟨equal, heq, by rw [hiff, Nat.zero_add]⟩

/-! ## The tables -/

/-- What the directory says of its tables. -/
def Image.exportTables (image : Image) : ExportTables where
  ordinalBase := image.view.u32 (image.exportRva + 16)
  functionCount := image.view.u32 (image.exportRva + 20)
  functionsRva := image.view.u32 (image.exportRva + 28)
  namesRva := image.view.u32 (image.exportRva + 32)
  ordinalsRva := image.view.u32 (image.exportRva + 36)

def Image.nameCount (image : Image) : Nat := image.view.u32 (image.exportRva + 24)

/-- The tables of the directory lie in the image. -/
structure TablesFit (image : Image) : Prop where
  size_le : image.loadedSize ≤ uint32Max
  directory : rangeValid image.loadedSize image.exportRva image.exportSize
  fields : 40 ≤ image.exportSize
  some_function : image.exportTables.functionCount ≠ 0
  names_le : image.nameCount ≤ image.exportTables.functionCount
  functions : rangeValid image.loadedSize image.exportTables.functionsRva
    (image.exportTables.functionCount * 4)
  names : rangeValid image.loadedSize image.exportTables.namesRva (image.nameCount * 4)
  ordinals : rangeValid image.loadedSize image.exportTables.ordinalsRva (image.nameCount * 2)

/-- The ordinal index of an entry of the name table. -/
def Image.ordinalAt (image : Image) (i : Nat) : Nat :=
  image.view.u16 (image.exportTables.ordinalsRva + i * 2)

/-- The function of that ordinal. -/
def Image.functionAt (image : Image) (i : Nat) : Nat :=
  image.view.u32 (image.exportTables.functionsRva + image.ordinalAt i * 4)

/-- The entry has a valid ordinal and the name. -/
def EntryNames (image : Image) (name : CString) (i : Nat) : Prop :=
  image.ordinalAt i < image.exportTables.functionCount ∧
    NameAt image.view (image.view.u32 (image.exportTables.namesRva + i * 4)) name

/-- The first such entry, in an image and for a name that are there. -/
structure FirstEntry (image : Image) (name : CString) (i : Nat) : Prop where
  loaded : image.actualBase ≠ 0
  named : character name 0 ≠ 0
  tables : TablesFit image
  lt : i < image.nameCount
  names : EntryNames image name i
  first : ∀ j < i, ¬ EntryNames image name j

/-- What the caller is given for an entry. -/
def Image.resolutionAt (image : Image) (i : Nat) : ExportResolution where
  rva := image.functionAt i
  ordinal := (image.exportTables.ordinalBase + image.ordinalAt i) % 2 ^ 32
  address := image.actualBase + image.functionAt i

def InDirectory (image : Image) (rva : Nat) : Prop :=
  image.exportRva ≤ rva ∧ rva < image.exportRva + image.exportSize

instance (image : Image) (rva : Nat) : Decidable (InDirectory image rva) :=
  inferInstanceAs (Decidable (_ ∧ _))

/-- The lookup stays in the image, what it finds is the function of the first entry and no
forwarder, and it says of each forwarder that it is one. -/
def LookupIsExact (image : Image) (name : CString) : Prop :=
  (findExport image name).Inside ∧
    (∀ r, findExport image name = ok (.found r) → ∃ i, FirstEntry image name i ∧
      r = image.resolutionAt i ∧ r.rva < image.loadedSize ∧ ¬ InDirectory image r.rva) ∧
    (findExport image name = ok .forwarder ↔
      ∃ i, FirstEntry image name i ∧ InDirectory image (image.functionAt i))

/-! ## The search -/

/-- What the search answers at an entry with the name. -/
def entryStatus (image : Image) (i : Nat) : ExportStatus :=
  if image.functionAt i = 0 ∨ ¬ rangeValid image.loadedSize (image.functionAt i) 1 then
    .invalidTable
  else if rangeValid image.loadedSize (image.functionAt i) image.exportSize ∧
      image.functionAt i ≥ image.exportRva ∧
      image.functionAt i - image.exportRva < image.exportSize then .forwarder
  else .found (image.resolutionAt i)

theorem NameAt.lt (h : NameAt image.view rva name) : rangeValid image.loadedSize rva 1 := by
  have hin : rva + name.bytes.length < image.loadedSize := h.1
  unfold rangeValid
  omega

/-- One entry of the table. -/
theorem findName_succ (name : CString) (count : Nat) (h : TablesFit image)
    (hi : i < image.nameCount) :
    (EntryNames image name i ∧ name.bytes.length < 4096 ∧
      findName image image.exportTables name (count + 1) i = ok (entryStatus image i)) ∨
    (¬ (EntryNames image name i ∧ name.bytes.length < 4096) ∧
      findName image image.exportTables name (count + 1) i =
        findName image image.exportTables name count (i + 1)) := by
  have hview : image.view.size = image.loadedSize := rfl
  have hnames := h.names
  have hordinals := h.ordinals
  have hfunctions := h.functions
  unfold rangeValid at hnames hordinals hfunctions
  have hordinal : image.view.u16 (image.exportTables.ordinalsRva + i * 2) = image.ordinalAt i := rfl
  have hfunction : image.view.u32 (image.exportTables.functionsRva + image.ordinalAt i * 4) =
      image.functionAt i := rfl
  rw [findName, readU32_ok (by omega), ok_bind, readU16_ok (by omega), ok_bind, hordinal]
  by_cases hvalid : image.ordinalAt i < image.exportTables.functionCount ∧
      rangeValid image.loadedSize (image.view.u32 (image.exportTables.namesRva + i * 4)) 1
  · obtain ⟨equal, heq, hiff⟩ := textEqualsBounded_eq image.view
      (image.view.u32 (image.exportTables.namesRva + i * 4)) name
    rw [if_pos hvalid, heq, ok_bind]
    cases equal with
    | true =>
      obtain ⟨hname, hlength⟩ := hiff.mp rfl
      refine .inl ⟨⟨hvalid.1, hname⟩, hlength, ?_⟩
      have hlt := hvalid.1
      dsimp only
      rw [if_pos rfl, readU32_ok (by omega), ok_bind, hfunction]
      unfold entryStatus
      split
      · rfl
      · split <;> rfl
    | false =>
      dsimp only
      rw [if_neg Bool.false_ne_true]
      exact .inr ⟨fun ⟨⟨_, hname⟩, hlength⟩ => absurd (hiff.mpr ⟨hname, hlength⟩) nofun, rfl⟩
  · rw [if_neg hvalid, pure_eq, ok_bind]
    dsimp only
    rw [if_neg Bool.false_ne_true]
    exact .inr ⟨fun ⟨⟨hordinal, hname⟩, _⟩ => hvalid ⟨hordinal, hname.lt⟩, rfl⟩

/-- The search goes on to the first entry with the name. -/
theorem findName_cases (name : CString) (h : TablesFit image)
    (hcount : i + count = image.nameCount) :
    (name.bytes.length < 4096 ∧ ∃ k, i ≤ k ∧ k < image.nameCount ∧ EntryNames image name k ∧
      (∀ j < k, i ≤ j → ¬ EntryNames image name j) ∧
      findName image image.exportTables name count i = ok (entryStatus image k)) ∨
    ((name.bytes.length < 4096 → ∀ j < image.nameCount, i ≤ j → ¬ EntryNames image name j) ∧
      findName image image.exportTables name count i = ok .notFound) := by
  induction count generalizing i with
  | zero => exact .inr ⟨fun _ j hj hij => by omega, rfl⟩
  | succ count ih =>
    rcases findName_succ name count h (i := i) (by omega) with
      ⟨hnames, hlength, heq⟩ | ⟨hno, heq⟩
    · exact .inl ⟨hlength, i, Nat.le_refl i, by omega, hnames, fun j hj hij => by omega, heq⟩
    · have hlater : ∀ j, i ≤ j → name.bytes.length < 4096 → EntryNames image name j →
          i + 1 ≤ j := by
        intro j hij hlength hj
        rcases Nat.eq_or_lt_of_le hij with rfl | hlt
        · exact absurd ⟨hj, hlength⟩ hno
        · exact hlt
      rw [heq]
      rcases ih (i := i + 1) (by omega) with
        ⟨hlength, k, hik, hk, hnames, hfirst, hfound⟩ | ⟨hnone, hnot⟩
      · exact .inl ⟨hlength, k, by omega, hk, hnames,
          fun j hj hij hname => hfirst j hj (hlater j hij hlength hname) hname, hfound⟩
      · exact .inr ⟨fun hlength j hj hij hname =>
          hnone hlength j hj (hlater j hij hlength hname) hname, hnot⟩

/-- The directory passes its checks. -/
def DirectoryFits (image : Image) : Prop :=
  ¬ (image.loadedSize > uint32Max ∨
    ¬ rangeValid image.loadedSize image.exportRva image.exportSize ∨ image.exportSize < 40)

/-- The checks of the tables are left then. -/
theorem findExport_eq (hloaded : image.actualBase ≠ 0) (hnamed : character name 0 ≠ 0)
    (hdirectory : DirectoryFits image) : findExport image name =
      if image.exportTables.functionCount = 0 ∨
          image.nameCount > image.exportTables.functionCount ∨
          ¬ rangeValid image.loadedSize image.exportTables.functionsRva
            (image.exportTables.functionCount * 4) ∨
          ¬ rangeValid image.loadedSize image.exportTables.namesRva (image.nameCount * 4) ∨
          ¬ rangeValid image.loadedSize image.exportTables.ordinalsRva (image.nameCount * 2) then
        ok .invalidTable
      else findName image image.exportTables name image.nameCount 0 := by
  have hview : image.view.size = image.loadedSize := rfl
  unfold findExport
  rw [if_neg hloaded, if_neg hnamed, if_neg hdirectory]
  unfold DirectoryFits rangeValid at hdirectory
  rw [readU32_ok (by omega), ok_bind, readU32_ok (by omega), ok_bind, readU32_ok (by omega),
    ok_bind, readU32_ok (by omega), ok_bind, readU32_ok (by omega), ok_bind,
    readU32_ok (by omega), ok_bind]
  rfl

/-- The search starts, or the lookup answers without any entry. -/
theorem findExport_cases (image : Image) (name : CString) :
    (image.actualBase ≠ 0 ∧ character name 0 ≠ 0 ∧ TablesFit image ∧
      findExport image name = findName image image.exportTables name image.nameCount 0) ∨
    ((∀ i, ¬ FirstEntry image name i) ∧
      ∃ status, findExport image name = ok status ∧ status ≠ .forwarder ∧
        ∀ r, status ≠ .found r) := by
  by_cases hloaded : image.actualBase = 0
  · refine .inr ⟨fun i h => h.loaded hloaded, .nullImage, ?_, nofun, nofun⟩
    rw [findExport, if_pos hloaded]
    rfl
  by_cases hnamed : character name 0 = 0
  · refine .inr ⟨fun i h => h.named hnamed, .nullName, ?_, nofun, nofun⟩
    rw [findExport, if_neg hloaded, if_pos hnamed]
    rfl
  by_cases hdirectory : DirectoryFits image
  · rw [findExport_eq hloaded hnamed hdirectory]
    unfold DirectoryFits at hdirectory
    split
    · next hinvalid =>
      refine .inr ⟨fun i ⟨_, _, h, _, _, _⟩ => ?_, .invalidTable, rfl, nofun, nofun⟩
      have hcount := h.names_le
      rcases hinvalid with hno | hmore | hrange | hrange | hrange
      · exact h.some_function hno
      · omega
      · exact hrange h.functions
      · exact hrange h.names
      · exact hrange h.ordinals
    · next hvalid =>
      simp only [not_or, Classical.not_not] at hvalid hdirectory
      exact .inl ⟨hloaded, hnamed, ⟨by omega, hdirectory.2.1, by omega, hvalid.1, by omega,
        hvalid.2.2.1, hvalid.2.2.2.1, hvalid.2.2.2.2⟩, rfl⟩
  · refine .inr ⟨fun i h => hdirectory ?_, .invalidDirectory, ?_, nofun, nofun⟩
    · have hsize := h.tables.size_le
      have hfields := h.tables.fields
      rintro (hlarge | hrange | hsmall)
      · omega
      · exact hrange h.tables.directory
      · omega
    · rw [findExport, if_neg hloaded, if_neg hnamed, if_pos (not_not.mp hdirectory)]
      rfl

theorem FirstEntry.eq {k : Nat} (hi : FirstEntry image name i) (hk : FirstEntry image name k) :
    i = k := by
  rcases Nat.lt_trichotomy i k with hlt | heq | hlt
  · exact absurd hi.names (hk.first i hlt)
  · exact heq
  · exact absurd hk.names (hi.first k hlt)

/-- The lookup answers for the first entry, if there is one and the name is not too long. -/
theorem findExport_first (image : Image) (name : CString) :
    (name.bytes.length < 4096 ∧ ∃ i, FirstEntry image name i ∧
      findExport image name = ok (entryStatus image i)) ∨
    ((name.bytes.length < 4096 → ∀ i, ¬ FirstEntry image name i) ∧
      ∃ status, findExport image name = ok status ∧ status ≠ .forwarder ∧
        ∀ r, status ≠ .found r) := by
  rcases findExport_cases image name with ⟨hloaded, hnamed, htables, heq⟩ | ⟨hnone, hstatus⟩
  · rw [heq]
    rcases findName_cases name htables (Nat.zero_add _) with
      ⟨hlength, k, _, hk, hnames, hfirst, hfound⟩ | ⟨hnone, hnot⟩
    · exact .inl ⟨hlength, k, ⟨hloaded, hnamed, htables, hk, hnames,
        fun j hj => hfirst j hj (Nat.zero_le j)⟩, hfound⟩
    · exact .inr ⟨fun hlength i h => hnone hlength i h.lt (Nat.zero_le i) h.names,
        .notFound, hnot, nofun, nofun⟩
  · exact .inr ⟨fun _ => hnone, hstatus⟩

/-! ## When it is exact -/

/-- The size of the directory fits behind the function, which is what the test for a forwarder
asks for first. -/
def RoomBehind (image : Image) (rva : Nat) : Prop := rva + image.exportSize ≤ image.loadedSize

theorem entryStatus_forwarder (h : TablesFit image) : entryStatus image i = .forwarder ↔
    image.functionAt i ≠ 0 ∧ RoomBehind image (image.functionAt i) ∧
      InDirectory image (image.functionAt i) := by
  have hfields := h.fields
  unfold entryStatus RoomBehind InDirectory rangeValid
  split
  · exact iff_of_false nofun fun hin => by omega
  · split
    · exact iff_of_true rfl (by omega)
    · exact iff_of_false nofun fun hin => by omega

theorem entryStatus_found {r : ExportResolution} (h : entryStatus image i = .found r) :
    r = image.resolutionAt i ∧ image.functionAt i < image.loadedSize ∧
      ¬ (RoomBehind image (image.functionAt i) ∧ InDirectory image (image.functionAt i)) := by
  unfold entryStatus rangeValid at h
  unfold RoomBehind InDirectory
  split at h
  · cases h
  · split at h
    · cases h
    · cases h
      exact ⟨rfl, by omega, fun hin => by omega⟩

/-- What the lookup needs to see that a function in the directory is a forwarder. -/
def ForwarderSeen (image : Image) (name : CString) (rva : Nat) : Prop :=
  rva ≠ 0 ∧ name.bytes.length < 4096 ∧ RoomBehind image rva

/-- The lookup is exact if and only if the directory, where it has the function of the first
entry, leaves its own size behind that function. The function is not at 0 then and the name is
short. -/
theorem lookup_is_exact_iff (image : Image) (name : CString) :
    LookupIsExact image name ↔ ∀ i, FirstEntry image name i →
      InDirectory image (image.functionAt i) → ForwarderSeen image name (image.functionAt i) := by
  rcases findExport_first image name with
    ⟨hlength, k, hk, heq⟩ | ⟨hnone, status, heq, hforwarder, hfound⟩
  · have hiff := entryStatus_forwarder (i := k) hk.tables
    refine ⟨fun ⟨_, _, hexact⟩ i hi hin => ?_,
      fun hseen => ⟨findExport_inside, fun r hr => ?_, fun hr => ?_, fun ⟨i, hi, hin⟩ => ?_⟩⟩
    · obtain rfl := hi.eq hk
      have hstatus := hexact.mpr ⟨i, hi, hin⟩
      rw [heq, ok.injEq, hiff] at hstatus
      exact ⟨hstatus.1, hlength, hstatus.2.1⟩
    · rw [heq, ok.injEq] at hr
      obtain ⟨rfl, hlt, hout⟩ := entryStatus_found hr
      exact ⟨k, hk, rfl, hlt, fun hin => hout ⟨(hseen k hk hin).2.2, hin⟩⟩
    · rw [heq, ok.injEq, hiff] at hr
      exact ⟨k, hk, hr.2.2⟩
    · obtain rfl := hi.eq hk
      obtain ⟨hzero, _, hroom⟩ := hseen i hi hin
      rw [heq, hiff.mpr ⟨hzero, hroom, hin⟩]
  · refine ⟨fun ⟨_, _, hexact⟩ i hi hin => ?_, fun hseen => ⟨findExport_inside, fun r hr => ?_,
      fun hr => ?_, fun ⟨i, hi, hin⟩ => ?_⟩⟩
    · have hstatus := hexact.mpr ⟨i, hi, hin⟩
      rw [heq, ok.injEq] at hstatus
      exact absurd hstatus hforwarder
    · rw [heq, ok.injEq] at hr
      exact absurd hr (hfound r)
    · rw [heq, ok.injEq] at hr
      exact absurd hr hforwarder
    · exact absurd hi (hnone (hseen i hi hin).2.1 i)

/-! ## A directory at the end -/

/-- The directory is the last `0x40` bytes of the image, and its only function is in it. -/
def forwardingImage : Image where
  loaded := fileOf 0x60 [(0x30, 1), (0x34, 1), (0x38, 1), (0x3C, 0x48), (0x40, 0x4C), (0x44, 0x10),
    (0x48, 0x50), (0x4C, 0x58), (0x50, 0x432E42), (0x58, 0x41)]
  loadedSize := 0x60
  actualBase := 0x100000
  exportRva := 0x20
  exportSize := 0x40

/-- A function is found, and it is in the directory. -/
def foundInDirectory : ExportStatus → Bool
  | .found r => decide (InDirectory forwardingImage r.rva)
  | _ => false

/-- The function is said to be the text that forwards it. -/
theorem text_is_taken_for_code : ¬ LookupIsExact forwardingImage (literal "A") := by
  have hgives : gives foundInDirectory (findExport forwardingImage (literal "A")) = true := by
    decide +kernel
  obtain ⟨status, heq, htest⟩ := exists_of_gives hgives
  cases status with
  | found r =>
    intro h
    obtain ⟨_, _, _, _, hout⟩ := h.2.1 r heq
    exact hout (of_decide_eq_true htest)
  | nullImage | nullName | invalidDirectory | invalidTable | forwarder | notFound => cases htest

end Gate4Harness.PeImage
