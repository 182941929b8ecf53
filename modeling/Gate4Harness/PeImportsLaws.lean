-- The laws of the import binding. The loops come to the same imports whatever is bound to them,
-- so the binding is one pass over a list that the file decides. A stub lies in its page as long
-- as its import is one of the first 128.
import Gate4Harness.PeImports
import Gate4Harness.ExportLookup

namespace Gate4Harness.PeImage

open Buffers Buffer Outcome

variable {file : Buffer} {image : Image} {platform : ImportPlatform} {page : Page}
  {d : ImportDescriptor} {r : ImportRecord} {s s' : ImportState}
  {descriptorIndex descriptors fuel index cursor symbols k p : Nat}

/-! ## One pass -/

/-- The imports are bound one after the other. -/
def bindAll (file : Buffer) (platform : ImportPlatform) (page : Page) :
    List ImportRecord → ImportState → Outcome ImportState
  | [], s => ok s
  | r :: rest, s => bindImport file platform page r s >>= bindAll file platform page rest

theorem bindAll_append (first second : List ImportRecord) (s : ImportState) :
    bindAll file platform page (first ++ second) s =
      (bindAll file platform page first s >>= bindAll file platform page second) := by
  induction first generalizing s with
  | nil => rfl
  | cons r rest ih =>
    rw [List.cons_append, bindAll, bindAll, bind_bind]
    exact bind_eq_bind ih

theorem bind_eq_bind_of_ok {α β : Type} {x : Outcome α} {f g : α → Outcome β}
    (h : ∀ a, x = ok a → f a = g a) : (x >>= f) = (x >>= g) := by
  cases x with
  | ok a => exact h a rfl
  | failed _ | unfinished | outside => rfl

/-- A binding adds its record. -/
theorem bindImport_records (h : bindImport file platform page r s = ok s') :
    s'.records = s.records ++ [r] := by
  unfold bindImport at h
  obtain ⟨noted, _, h⟩ := bind_eq_ok.mp h
  obtain ⟨target, _, h⟩ := bind_eq_ok.mp h
  dsimp only at h
  split at h
  · obtain ⟨loaded, _, h⟩ := bind_eq_ok.mp h
    cases h
    rfl
  · cases target with
    | some target =>
      obtain ⟨loaded, _, h⟩ := bind_eq_ok.mp h
      cases h
      rfl
    | none =>
      obtain ⟨stubs, _, h⟩ := bind_eq_ok.mp h
      obtain ⟨loaded, _, h⟩ := bind_eq_ok.mp h
      cases h
      rfl

theorem bindAll_records {records : List ImportRecord}
    (h : bindAll file platform page records s = ok s') :
    s'.records = s.records ++ records := by
  induction records generalizing s with
  | nil =>
    cases h
    rw [List.append_nil]
  | cons r rest ih =>
    obtain ⟨s1, hbind, hrest⟩ := bind_eq_ok.mp h
    rw [ih hrest, bindImport_records hbind, List.append_assoc]
    rfl

/-- The loop over the lookups binds the imports that it comes to, and ends as it does without
binding them. -/
theorem bindLookups_eq (file : Buffer) (image : Image) (d : ImportDescriptor)
    (descriptorIndex fuel index : Nat) (s : ImportState) :
    bindLookups file image platform page d descriptorIndex fuel index s =
      (bindAll file platform page
        (scanLookups file image d descriptorIndex fuel index s.records.length).records s >>=
      fun s' => (scanLookups file image d descriptorIndex fuel index s.records.length).ending >>=
        fun _ => ok s') := by
  induction fuel generalizing index s with
  | zero => rfl
  | succ fuel ih =>
    rw [bindLookups, scanLookups]
    cases readLookup file image d index with
    | failed _ | unfinished | outside => rfl
    | ok lookup =>
      cases lookup with
      | none => rfl
      | some hintName =>
        rw [ok_bind]
        dsimp only
        rw [failIf_bind]
        by_cases hfull : s.records.length ≥ maxImportSymbols
        · rw [if_pos hfull, if_pos hfull]
          rfl
        · rw [if_neg hfull, if_neg hfull, bindAll, bind_bind]
          refine bind_eq_bind_of_ok fun s1 hbind => ?_
          have hlength : s1.records.length = s.records.length + 1 := by
            rw [bindImport_records hbind, List.length_append]
            rfl
          rw [ih, hlength]

theorem bindDescriptors_eq (file : Buffer) (image : Image) (fuel cursor descriptors : Nat)
    (s : ImportState) :
    bindDescriptors file image platform page fuel cursor descriptors s =
      (bindAll file platform page
        (scanDescriptors file image fuel cursor descriptors s.records.length).records s >>=
      fun s' => (scanDescriptors file image fuel cursor descriptors s.records.length).ending >>=
        fun n => ok (n, s')) := by
  induction fuel generalizing cursor descriptors s with
  | zero => rfl
  | succ fuel ih =>
    rw [bindDescriptors, scanDescriptors]
    by_cases hcursor : (cursor + 20) % 2 ^ 32 ≤ image.importSize
    · rw [if_pos hcursor, if_pos hcursor]
      cases readDescriptor file image cursor with
      | failed _ | unfinished | outside => rfl
      | ok descriptor =>
        cases descriptor with
        | none => rfl
        | some d =>
          rw [ok_bind]
          dsimp only
          rw [bindLookups_eq, bind_bind]
          generalize scanLookups file image d descriptors fuel 0 s.records.length = first
          obtain ⟨records, ending⟩ := first
          dsimp only
          cases ending with
          | failed _ | unfinished | outside => rfl
          | ok _ =>
            dsimp only
            rw [bindAll_append, bind_bind]
            refine bind_eq_bind_of_ok fun s1 hbind => ?_
            rw [ok_bind, ok_bind, ih, bindAll_records hbind, List.length_append]
    · rw [if_neg hcursor, if_neg hcursor]
      rfl

/-! ## Names -/

/-- The string at `p` ends inside of the file. -/
def EndsInside (file : Buffer) (p : Nat) : Prop := ∃ n, p + n < file.size ∧ file.byte (p + n) = 0

def ImportRecord.NamesEnd (r : ImportRecord) (file : Buffer) : Prop :=
  EndsInside file r.moduleName ∧ EndsInside file r.symbol

/-- The import has these names. -/
def ImportRecord.Names (r : ImportRecord) (file : Buffer) (moduleName symbol : CString) : Prop :=
  NameAt file r.moduleName moduleName ∧ NameAt file r.symbol symbol

instance (view : Buffer) (rva : Nat) (name : CString) : Decidable (NameAt view rva name) :=
  inferInstanceAs (Decidable (_ ∧ ∀ j ≤ name.bytes.length, _))

instance (r : ImportRecord) (file : Buffer) (moduleName symbol : CString) :
    Decidable (r.Names file moduleName symbol) := inferInstanceAs (Decidable (_ ∧ _))

/-- The platform's function for the import, the first of its table with the names. -/
def targetOf (file : Buffer) (targets : List PlatformTarget) (r : ImportRecord) : Option Nat :=
  (targets.find? fun target => r.Names file target.moduleName target.symbol).map
    PlatformTarget.address

theorem EndsInside.lt (h : EndsInside file p) : p < file.size := by
  obtain ⟨n, hn, _⟩ := h
  omega

/-- A string that does not end at its first byte ends behind it. -/
theorem EndsInside.succ (h : EndsInside file p) (hbyte : (file.byte p).toNat ≠ 0) :
    EndsInside file (p + 1) := by
  obtain ⟨n, hn, hzero⟩ := h
  cases n with
  | zero =>
    rw [Nat.add_zero] at hzero
    rw [hzero] at hbyte
    exact absurd rfl hbyte
  | succ n =>
    rw [show p + (n + 1) = p + 1 + n by omega] at hn hzero
    exact ⟨n, hn, hzero⟩

theorem nameAt_nil {h : 0 ∉ ([] : List UInt8)} :
    NameAt file p ⟨[], h⟩ ↔ p < file.size ∧ (file.byte p).toNat = 0 := by
  refine and_congr_right fun _ => ⟨fun hall => hall 0 (Nat.le_refl 0), fun hzero j hj => ?_⟩
  obtain rfl : j = 0 := Nat.le_zero.mp hj
  exact hzero

theorem nameAt_cons {x : UInt8} {rest : List UInt8} {h : 0 ∉ x :: rest} (hrest : 0 ∉ rest) :
    NameAt file p ⟨x :: rest, h⟩ ↔
      (file.byte p).toNat = x.toNat ∧ NameAt file (p + 1) ⟨rest, hrest⟩ := by
  unfold NameAt
  dsimp only
  rw [List.length_cons, Nat.add_assoc, Nat.add_comm 1]
  constructor
  · rintro ⟨hlt, hall⟩
    refine ⟨hall 0 (Nat.zero_le _), hlt, fun j hj => ?_⟩
    have hbyte := hall (j + 1) (by omega)
    rw [show p + (j + 1) = p + 1 + j by omega] at hbyte
    exact hbyte
  · rintro ⟨hfirst, hlt, hall⟩
    refine ⟨hlt, fun j hj => ?_⟩
    cases j with
    | zero => exact hfirst
    | succ j =>
      rw [show p + (j + 1) = p + 1 + j by omega]
      exact hall j (by omega)

/-- The comparison of a name that ends inside of the file. -/
theorem equalText_ok {bytes : List UInt8} (h : EndsInside file p) (hbytes : 0 ∉ bytes) :
    ∃ equal, equalText file p bytes = ok equal ∧
      (equal = true ↔ NameAt file p ⟨bytes, hbytes⟩) := by
  induction bytes generalizing p with
  | nil =>
    refine ⟨_, by rw [equalText, get_eq, if_pos (Nat.succ_le_of_lt h.lt), ok_bind]; rfl, ?_⟩
    rw [decide_eq_true_iff, nameAt_nil]
    exact ⟨fun hzero => ⟨h.lt, hzero⟩, fun hname => hname.2⟩
  | cons x rest ih =>
    have hrest : 0 ∉ rest := fun hmem => hbytes (List.mem_cons_of_mem x hmem)
    have hx : x.toNat ≠ 0 := fun hzero => hbytes (by
      rw [← UInt8.toNat_inj.mp (hzero.trans UInt8.toNat_zero.symm)]
      exact List.mem_cons_self)
    rw [equalText, get_eq, if_pos (Nat.succ_le_of_lt h.lt), ok_bind]
    by_cases hsame : (file.byte p).toNat ≠ 0 ∧ (file.byte p).toNat = x.toNat
    · rw [if_pos hsame]
      obtain ⟨equal, heq, hiff⟩ := ih (h.succ hsame.1) hrest
      refine ⟨equal, heq, hiff.trans ?_⟩
      rw [nameAt_cons hrest]
      exact ⟨fun hname => ⟨hsame.2, hname⟩, fun hname => hname.2⟩
    · rw [if_neg hsame]
      refine ⟨_, rfl, ?_⟩
      rw [decide_eq_true_iff]
      refine iff_of_false (fun hzero => hx hzero.2) fun hname => ?_
      have hfirst := (nameAt_cons hrest).mp hname
      exact hsame ⟨hfirst.1 ▸ hx, hfirst.1⟩

theorem namesEqual_ok (h : r.NamesEnd file) (moduleName symbol : CString) :
    namesEqual file r moduleName symbol = ok (decide (r.Names file moduleName symbol)) := by
  obtain ⟨first, hfirst, hmodule⟩ := equalText_ok h.1 moduleName.ends
  obtain ⟨second, hsecond, hsymbol⟩ := equalText_ok h.2 symbol.ends
  rw [namesEqual, hfirst, ok_bind]
  cases first with
  | false =>
    have hno : ¬ r.Names file moduleName symbol := fun hname => absurd (hmodule.mpr hname.1) nofun
    rw [decide_eq_false hno]
    rfl
  | true =>
    rw [if_pos rfl, hsecond]
    congr 1
    rw [Bool.eq_iff_iff, hsymbol, decide_eq_true_iff]
    exact ⟨fun hname => ⟨hmodule.mp rfl, hname⟩, fun hname => hname.2⟩

theorem noteImport_ok (h : r.NamesEnd file) (watched : List (CString × CString))
    (noted : List (CString × ImportRecord)) :
    ∃ noted', noteImport file r watched noted = ok noted' := by
  induction watched generalizing noted with
  | nil => exact ⟨noted, rfl⟩
  | cons names rest ih =>
    rw [noteImport, namesEqual_ok h, ok_bind]
    split
    · exact ih _
    · exact ih _

theorem platformImportTarget_eq (h : r.NamesEnd file) (targets : List PlatformTarget) :
    platformImportTarget file r targets = ok (targetOf file targets r) := by
  induction targets with
  | nil => rfl
  | cons target rest ih =>
    rw [platformImportTarget, namesEqual_ok h, ok_bind, targetOf, List.find?_cons]
    by_cases hnames : r.Names file target.moduleName target.symbol
    · rw [decide_eq_true hnames]
      rfl
    · rw [decide_eq_false hnames]
      exact ih

/-! ## Slots and stubs -/

/-- Where the stub of the import `k` stands. -/
def stubAddress (page : Page) (k : Nat) : Nat := page.address + k * stubBytes

/-- The platform has no function for the import `k`, and it is not the one left unresolved. -/
def NeedsStub (file : Buffer) (platform : ImportPlatform) (k : Nat) (r : ImportRecord) : Prop :=
  ¬ (platform.unresolvedImport = true ∧ k = 0) ∧ targetOf file platform.targets r = none

instance (file : Buffer) (platform : ImportPlatform) (k : Nat) (r : ImportRecord) :
    Decidable (NeedsStub file platform k r) := inferInstanceAs (Decidable (_ ∧ _))

/-- What the slot of the import `k` is to hold. -/
def slotValue (file : Buffer) (platform : ImportPlatform) (page : Page) (k : Nat)
    (r : ImportRecord) : Nat :=
  if platform.unresolvedImport ∧ k = 0 then 0
  else match targetOf file platform.targets r with
    | some target => target
    | none => stubAddress page k

/-- The code of the stub `k`, which loads the record `k`. -/
def ImportPlatform.stubCode (platform : ImportPlatform) (k : Nat) : List UInt8 :=
  PeImage.stubCode (platform.recordsAddress + k * importRecordBytes) platform.failfastEntry

def stubsAfter (file : Buffer) (platform : ImportPlatform) (k : Nat) (r : ImportRecord)
    (stubs : Buffer) : Buffer :=
  if NeedsStub file platform k r then
    stubs.setRange (k * stubBytes) stubBytes fun i => (platform.stubCode k).getD i 0
  else stubs

/-- What the binding of one import does. -/
structure BoundBy (file : Buffer) (platform : ImportPlatform) (page : Page) (r : ImportRecord)
    (s s' : ImportState) : Prop where
  records : s'.records = s.records ++ [r]
  loaded : s'.loaded =
    s.loaded.putU64 r.iatRva (slotValue file platform page s.records.length r)
  stubs : s'.stubs = stubsAfter file platform s.records.length r s.stubs
  counts : s'.functional + s'.failfast + s'.unresolved =
    s.functional + s.failfast + s.unresolved + 1

theorem length_stubCode (recordAddress handlerAddress : Nat) :
    (stubCode recordAddress handlerAddress).length = stubBytes := by
  simp [stubCode, stubBytes]

theorem emitImportFailfastStub_eq {stubs : Buffer} (hsize : stubs.size = efiPageSize) :
    emitImportFailfastStub platform stubs k =
      if k < 128 then
        ok (stubs.setRange (k * stubBytes) stubBytes fun i => (platform.stubCode k).getD i 0)
      else outside := by
  have hlength := length_stubCode (platform.recordsAddress + k * importRecordBytes)
    platform.failfastEntry
  have hpage : efiPageSize = 4096 := rfl
  have hstub : stubBytes = 32 := rfl
  have hoffset : k * stubBytes = k * 32 := rfl
  unfold emitImportFailfastStub
  by_cases hlow : k < 128
  · rw [if_pos hlow, write_ok _ _ _ (by omega), hlength]
    rfl
  · rw [if_neg hlow, write_outside _ _ _ (by omega) (by omega)]

theorem bindImport_cases (hnames : r.NamesEnd file) (hiat : r.iatRva + 8 ≤ s.loaded.size)
    (hsize : s.stubs.size = efiPageSize) :
    (NeedsStub file platform s.records.length r ∧ 128 ≤ s.records.length ∧
      bindImport file platform page r s = outside) ∨
    ((NeedsStub file platform s.records.length r → s.records.length < 128) ∧
      ∃ s', bindImport file platform page r s = ok s' ∧ BoundBy file platform page r s s') := by
  obtain ⟨noted, hnoted⟩ := noteImport_ok hnames platform.watched s.noted
  unfold bindImport
  rw [hnoted, ok_bind, platformImportTarget_eq hnames, ok_bind]
  dsimp only
  by_cases hunresolved : platform.unresolvedImport = true ∧ s.records.length = 0
  · have hno : ¬ NeedsStub file platform s.records.length r := fun h => h.1 hunresolved
    rw [if_pos hunresolved, write_bytesOf hiat, ok_bind]
    refine .inr ⟨fun h => absurd h hno, _, rfl, rfl, ?_, ?_, ?_⟩
    · rw [slotValue, if_pos hunresolved]
    · rw [stubsAfter, if_neg hno]
    · dsimp only
      omega
  · rw [if_neg hunresolved]
    cases htarget : targetOf file platform.targets r with
    | some target =>
      have hno : ¬ NeedsStub file platform s.records.length r := fun h => by
        rw [NeedsStub, htarget] at h
        exact absurd h.2 nofun
      dsimp only
      rw [write_bytesOf hiat, ok_bind]
      refine .inr ⟨fun h => absurd h hno, _, rfl, rfl, ?_, ?_, ?_⟩
      · rw [slotValue, if_neg hunresolved, htarget]
      · rw [stubsAfter, if_neg hno]
      · dsimp only
        omega
    | none =>
      have hneeds : NeedsStub file platform s.records.length r := ⟨hunresolved, htarget⟩
      dsimp only
      rw [emitImportFailfastStub_eq hsize]
      by_cases hlow : s.records.length < 128
      · rw [if_pos hlow, ok_bind, write_bytesOf hiat, ok_bind]
        refine .inr ⟨fun _ => hlow, _, rfl, rfl, ?_, ?_, ?_⟩
        · rw [slotValue, if_neg hunresolved, htarget]
          rfl
        · rw [stubsAfter, if_pos hneeds]
        · dsimp only
          omega
      · rw [if_neg hlow]
        exact .inl ⟨hneeds, by omega, rfl⟩

/-! ## All imports -/

/-- The slots of the imports are apart from each other. -/
def SlotsApart (records : List ImportRecord) : Prop :=
  records.Pairwise fun a b => a.iatRva + 8 ≤ b.iatRva ∨ b.iatRva + 8 ≤ a.iatRva

/-- The stub `k` lies in the page, and it loads the record `k` and goes on to the helper. -/
structure StubStands (platform : ImportPlatform) (stubs : Buffer) (k : Nat) : Prop where
  fits : k * stubBytes + stubBytes ≤ efiPageSize
  code : ∀ i < stubBytes, stubs.byte (k * stubBytes + i) = (platform.stubCode k).getD i 0

/-- The imports so far are bound. -/
structure Bound (file : Buffer) (platform : ImportPlatform) (page : Page) (s : ImportState) :
    Prop where
  counts : s.functional + s.failfast + s.unresolved = s.records.length
  stubs : ∀ k r, s.records[k]? = some r → NeedsStub file platform k r →
    StubStands platform s.stubs k
  slots : SlotsApart s.records → ∀ k r, s.records[k]? = some r →
    s.loaded.u64 r.iatRva = slotValue file platform page k r

/-- The image has its pages, and there is the page of the stubs. -/
def Roomy (image : Image) (s : ImportState) : Prop :=
  image.loadedSize ≤ s.loaded.size ∧ s.stubs.size = efiPageSize

theorem BoundBy.roomy (h : BoundBy file platform page r s s') (hroomy : Roomy image s) :
    Roomy image s' := by
  obtain ⟨hloaded, hstubs⟩ := hroomy
  refine ⟨?_, ?_⟩
  · rw [h.loaded]
    exact hloaded
  · rw [h.stubs, stubsAfter]
    split
    · exact hstubs
    · exact hstubs

/-- A stub that stands is not touched by a later one. -/
theorem StubStands.stubsAfter {stubs : Buffer} {n : Nat} (h : StubStands platform stubs k)
    (hk : k < n) : StubStands platform (stubsAfter file platform n r stubs) k := by
  refine ⟨h.fits, fun i hi => ?_⟩
  have hstub : stubBytes = 32 := rfl
  have hoffset : k * stubBytes = k * 32 := rfl
  have hlater : n * stubBytes = n * 32 := rfl
  rw [← h.code i hi, PeImage.stubsAfter]
  split
  · exact byte_setRange_out (.inl (by omega))
  · rfl

theorem slotValue_lt {file : Buffer} {platform : ImportPlatform} {k : Nat} {r : ImportRecord}
    (page : Page) (hlow : NeedsStub file platform k r → k < 128) :
    slotValue file platform page k r < 2 ^ 64 := by
  have hpage : efiPageSize = 4096 := rfl
  have hoffset : k * stubBytes = k * 32 := rfl
  have hfits := page.fits
  unfold slotValue
  split
  · decide
  · next hunresolved =>
    cases htarget : targetOf file platform.targets r with
    | some target =>
      obtain ⟨line, _, rfl⟩ := Option.map_eq_some_iff.mp htarget
      exact line.fits
    | none =>
      have hk := hlow ⟨hunresolved, htarget⟩
      unfold stubAddress
      dsimp only
      omega

/-- The step of one binding. -/
theorem Bound.step (h : Bound file platform page s) (hby : BoundBy file platform page r s s')
    (hlow : NeedsStub file platform s.records.length r → s.records.length < 128) :
    Bound file platform page s' := by
  have hpage : efiPageSize = 4096 := rfl
  have hstub : stubBytes = 32 := rfl
  have hoffset : s.records.length * stubBytes = s.records.length * 32 := rfl
  have hcases : ∀ k a, s'.records[k]? = some a →
      (k < s.records.length ∧ s.records[k]? = some a) ∨ (k = s.records.length ∧ a = r) := by
    intro k a hk
    rw [hby.records] at hk
    rcases Nat.lt_trichotomy k s.records.length with hlt | rfl | hlt
    · rw [List.getElem?_append_left hlt] at hk
      exact .inl ⟨hlt, hk⟩
    · rw [List.getElem?_concat_length] at hk
      exact .inr ⟨rfl, (Option.some.inj hk).symm⟩
    · rw [List.getElem?_eq_none (by rw [List.length_append, List.length_singleton]; omega)] at hk
      cases hk
  refine ⟨?_, fun k a hk hneeds => ?_, fun hapart k a hk => ?_⟩
  · rw [hby.counts, h.counts, hby.records, List.length_append, List.length_singleton]
  · rw [hby.stubs]
    rcases hcases k a hk with ⟨hlt, hold⟩ | ⟨rfl, rfl⟩
    · exact (h.stubs k a hold hneeds).stubsAfter hlt
    · have hk128 := hlow hneeds
      refine ⟨by omega, fun i hi => ?_⟩
      rw [stubsAfter, if_pos hneeds]
      exact byte_setRange_in hi
  · rw [hby.records, SlotsApart, List.pairwise_append] at hapart
    obtain ⟨hbefore, _, hnew⟩ := hapart
    rw [hby.loaded]
    rcases hcases k a hk with ⟨hlt, hold⟩ | ⟨rfl, rfl⟩
    · rw [u64_putU64_apart (hnew a (List.mem_of_getElem? hold) r List.mem_cons_self)]
      exact h.slots hbefore k a hold
    · rw [u64_putU64, Nat.mod_eq_of_lt (slotValue_lt page hlow)]

/-- An import whose names end inside of the file, with its slot in the image. -/
def Bindable (file : Buffer) (image : Image) (r : ImportRecord) : Prop :=
  r.NamesEnd file ∧ r.iatRva + 8 ≤ image.loadedSize

/-- A pass over imports that can be bound stops at the first that needs a stub behind the page. -/
theorem bindAll_cases {records : List ImportRecord} (h : Bound file platform page s)
    (hroomy : Roomy image s) (hall : ∀ r ∈ records, Bindable file image r) :
    ((∃ k r, records[k]? = some r ∧ NeedsStub file platform (s.records.length + k) r ∧
        128 ≤ s.records.length + k) ∧ bindAll file platform page records s = outside) ∨
    ((∀ k r, records[k]? = some r → NeedsStub file platform (s.records.length + k) r →
        s.records.length + k < 128) ∧
      ∃ s', bindAll file platform page records s = ok s' ∧ Bound file platform page s') := by
  induction records generalizing s with
  | nil => exact .inr ⟨nofun, s, rfl, h⟩
  | cons r rest ih =>
    obtain ⟨hnames, hslot⟩ := hall r List.mem_cons_self
    rcases bindImport_cases hnames (Nat.le_trans hslot hroomy.1) hroomy.2 with
      ⟨hneeds, hhigh, hout⟩ | ⟨hlow, s1, hok, hby⟩
    · refine .inl ⟨⟨0, r, rfl, hneeds, hhigh⟩, ?_⟩
      rw [bindAll, hout]
      rfl
    · have hlength : s1.records.length = s.records.length + 1 := by
        rw [hby.records, List.length_append]
        rfl
      have hnumber (k : Nat) : s1.records.length + k = s.records.length + (k + 1) := by omega
      rw [bindAll, hok, ok_bind]
      rcases ih (h.step hby hlow) (hby.roomy hroomy)
          (fun a ha => hall a (List.mem_cons_of_mem r ha)) with
        ⟨⟨k, a, hk, hneeds, hhigh⟩, hout⟩ | ⟨hrest, hend⟩
      · rw [hnumber] at hneeds hhigh
        exact .inl ⟨⟨k + 1, a, hk, hneeds, hhigh⟩, hout⟩
      · refine .inr ⟨fun k a hk hneeds => ?_, hend⟩
        cases k with
        | zero =>
          cases hk
          exact hlow hneeds
        | succ k =>
          rw [← hnumber] at hneeds ⊢
          exact hrest k a hk hneeds

end Gate4Harness.PeImage
