-- The imports of an image that the loader accepts. The walk through its descriptors and lookups
-- ends and stays in the file, so that the binding is sound if the names end in the file and the
-- stubs fit in their page.
import Gate4Harness.PeImportsLaws
import Gate4Harness.PeRelocationEffect

namespace Gate4Harness.PeImage

open Buffers Buffer Outcome

variable {file : Buffer} {image : Image} {platform : ImportPlatform} {page : Page}
  {d : ImportDescriptor} {descriptorIndex descriptors fuel index cursor symbols : Nat}

/-! ## The walk through the file -/

/-- What the lookups of an image with its sections in place are. -/
theorem readLookup_slot {hintName : Nat} (h : readLookup file image d index = ok (some hintName)) :
    d.iatRva index + 8 ≤ image.loadedSize := by
  unfold readLookup at h
  obtain ⟨lookup, _, h⟩ := bind_eq_ok.mp h
  cases lookup with
  | none => cases h
  | some lookup =>
    obtain ⟨value, _, h⟩ := bind_eq_ok.mp h
    split at h
    · cases h
    · obtain ⟨_, _, h⟩ := bind_eq_ok.mp h
      obtain ⟨_, _, h⟩ := bind_eq_ok.mp h
      obtain ⟨name, _, h⟩ := bind_eq_ok.mp h
      cases name with
      | none => cases h
      | some name =>
        obtain ⟨hslot, _⟩ := failIf_bind_eq_ok.mp h
        unfold rvaToLoaded at hslot
        split at hslot
        · exact absurd rfl hslot
        · omega

theorem scanLookups_slots :
    ∀ r ∈ (scanLookups file image d descriptorIndex fuel index symbols).records,
      r.iatRva + 8 ≤ image.loadedSize := by
  induction fuel generalizing index symbols with
  | zero => exact List.forall_mem_nil _
  | succ fuel ih =>
    rw [scanLookups]
    split
    · exact List.forall_mem_nil _
    · next hintName hlookup =>
      split
      · exact List.forall_mem_nil _
      · intro r hr
        rcases List.mem_cons.mp hr with rfl | hr
        · exact readLookup_slot hlookup
        · exact ih r hr
    · exact List.forall_mem_nil _
    · exact List.forall_mem_nil _
    · exact List.forall_mem_nil _

theorem scanDescriptors_slots :
    ∀ r ∈ (scanDescriptors file image fuel cursor descriptors symbols).records,
      r.iatRva + 8 ≤ image.loadedSize := by
  induction fuel generalizing cursor descriptors symbols with
  | zero => exact List.forall_mem_nil _
  | succ fuel ih =>
    rw [scanDescriptors]
    split
    · split
      · exact List.forall_mem_nil _
      · dsimp only
        split
        · intro r hr
          rcases List.mem_append.mp hr with hr | hr
          · exact scanLookups_slots r hr
          · exact ih r hr
        · exact scanLookups_slots
        · exact scanLookups_slots
        · exact scanLookups_slots
      · exact List.forall_mem_nil _
      · exact List.forall_mem_nil _
      · exact List.forall_mem_nil _
    · exact List.forall_mem_nil _

theorem Loaded.readLookup_settled (h : Loaded file image) (d : ImportDescriptor) (index : Nat) :
    (readLookup file image d index).Settled := by
  unfold readLookup
  rw [h.rvaToFile, ok_bind]
  cases hlookup : fileOffset file (imageOf file).sizeOfHeaders
      ((d.lookupRva + index * 8) % 2 ^ 32) 8 with
  | none => trivial
  | some lookup =>
    have hle := fileOffset_le hlookup
    dsimp only
    rw [readU64_eq, if_pos hle, ok_bind]
    split
    · trivial
    · refine (Settled.failIf _ _).bind fun _ _ => (Settled.failIf _ _).bind fun _ _ => ?_
      rw [h.rvaToFile, ok_bind]
      split
      · trivial
      · exact (Settled.failIf _ _).bind fun _ _ => trivial

theorem Loaded.readDescriptor_settled (h : Loaded file image) (cursor : Nat) :
    (readDescriptor file image cursor).Settled := by
  unfold readDescriptor
  rw [h.rvaToFile, ok_bind]
  cases hdescriptor : fileOffset file (imageOf file).sizeOfHeaders
      ((image.importRva + cursor) % 2 ^ 32) 20 with
  | none => trivial
  | some descriptor =>
    have hle := fileOffset_le hdescriptor
    dsimp only
    rw [readU32_ok (by omega), ok_bind, readU32_ok (by omega), ok_bind, readU32_ok (by omega),
      ok_bind, readU32_ok (by omega), ok_bind, readU32_ok (by omega), ok_bind]
    split
    · trivial
    · rw [h.rvaToFile, ok_bind]
      split
      · trivial
      · exact (Settled.failIf _ _).bind fun _ _ => trivial

/-- A descriptor is found below the end of 32 bits. -/
theorem Loaded.readDescriptor_lt (h : Loaded file image)
    (hread : readDescriptor file image cursor = ok (some d)) :
    (image.importRva + cursor) % 2 ^ 32 + 20 < 2 ^ 32 := by
  unfold readDescriptor at hread
  rw [h.rvaToFile, ok_bind] at hread
  cases hdescriptor : fileOffset file (imageOf file).sizeOfHeaders
      ((image.importRva + cursor) % 2 ^ 32) 20 with
  | none =>
    rw [hdescriptor] at hread
    cases hread
  | some descriptor => exact h.found_lt (by decide) hdescriptor

theorem scanLookups_length (d : ImportDescriptor) (descriptorIndex fuel index : Nat)
    (h : symbols ≤ maxImportSymbols) : symbols +
      (scanLookups file image d descriptorIndex fuel index symbols).records.length ≤
        maxImportSymbols := by
  induction fuel generalizing index symbols with
  | zero => exact h
  | succ fuel ih =>
    rw [scanLookups]
    split
    · exact h
    · split
      · exact h
      · have hmore : symbols + 1 ≤ maxImportSymbols := by omega
        have hrest := ih (index + 1) hmore
        rw [List.length_cons]
        omega
    · exact h
    · exact h
    · exact h

/-- The capacity ends the loop over the lookups. -/
theorem Loaded.scanLookups_ends (h : Loaded file image) (d : ImportDescriptor)
    (descriptorIndex fuel index : Nat) (hsymbols : symbols ≤ maxImportSymbols) :
    (scanLookups file image d descriptorIndex fuel index symbols).ending.Settled ∨
    ((scanLookups file image d descriptorIndex fuel index symbols).ending = unfinished ∧
      fuel + symbols ≤ maxImportSymbols) := by
  induction fuel generalizing index symbols with
  | zero => exact .inr ⟨rfl, by omega⟩
  | succ fuel ih =>
    have hsettled := h.readLookup_settled d index
    rw [scanLookups]
    split
    · exact .inl trivial
    · split
      · exact .inl trivial
      · have hmore : symbols + 1 ≤ maxImportSymbols := by omega
        rcases ih (index + 1) hmore with hrest | ⟨hrest, hfuel⟩
        · exact .inl hrest
        · exact .inr ⟨hrest, by omega⟩
    · exact .inl trivial
    · next hread =>
      rw [hread] at hsettled
      exact hsettled.elim
    · next hread =>
      rw [hread] at hsettled
      exact hsettled.elim

/-- A descriptor that is found stands behind the one before, so the loop over the descriptors
comes to the end of 32 bits at last. -/
theorem Loaded.scanDescriptors_ends (h : Loaded file image)
    (fuel cursor descriptors : Nat) (hsymbols : symbols ≤ maxImportSymbols) :
    (scanDescriptors file image fuel cursor descriptors symbols).ending.Settled ∨
    ((scanDescriptors file image fuel cursor descriptors symbols).ending = unfinished ∧
      fuel + (image.importRva + cursor) % 2 ^ 32 < 2 ^ 32 + maxImportSymbols) := by
  have hmax : maxImportSymbols = 256 := rfl
  induction fuel generalizing cursor descriptors symbols with
  | zero =>
    refine .inr ⟨rfl, ?_⟩
    omega
  | succ fuel ih =>
    have hsettled := h.readDescriptor_settled cursor
    rw [scanDescriptors]
    split
    · split
      · exact .inl trivial
      · next d hread =>
        have hlt := h.readDescriptor_lt hread
        have hnext : (image.importRva + (cursor + 20) % 2 ^ 32) % 2 ^ 32 =
            (image.importRva + cursor) % 2 ^ 32 + 20 := by omega
        have hlength : symbols +
            (scanLookups file image d descriptors fuel 0 symbols).records.length ≤
              maxImportSymbols := scanLookups_length d descriptors fuel 0 hsymbols
        dsimp only
        rcases h.scanLookups_ends d descriptors fuel 0 hsymbols with hfirst | ⟨hfirst, hfuel⟩
        · split
          · rcases ih ((cursor + 20) % 2 ^ 32) (descriptors + 1) hlength with
              hrest | ⟨hrest, hfuel⟩
            · exact .inl hrest
            · exact .inr ⟨hrest, by omega⟩
          · exact .inl trivial
          · next hending =>
            rw [hending] at hfirst
            exact hfirst.elim
          · next hending =>
            rw [hending] at hfirst
            exact hfirst.elim
        · rw [hfirst]
          exact .inr ⟨rfl, by omega⟩
      · exact .inl trivial
      · next hread =>
        rw [hread] at hsettled
        exact hsettled.elim
      · next hread =>
        rw [hread] at hsettled
        exact hsettled.elim
    · exact .inl trivial

/-! ## The image that is loaded -/

theorem applyRelocations_loaded {image' : Image} (h : Loaded file image)
    (hok : applyRelocations file fuel image = ok image') : Loaded file image' := by
  obtain ⟨base, memory, executable, hplaced⟩ := h.placed
  unfold applyRelocations at hok
  split at hok
  · cases hok
    exact { h with placed := ⟨base, memory, executable, { hplaced with }⟩ }
  · obtain ⟨_, hok⟩ := failIf_bind_eq_ok.mp hok
    obtain ⟨blocks, _, rfl⟩ := relocateBlocks_walk h.signed h.searched hplaced hok
    exact { h with placed := ⟨base, memory, executable, { hplaced.moved _ with }⟩ }

theorem findAllManaged_loaded {image' : Image} {exports : List String} (h : Loaded file image)
    (hok : findAllManaged exports image = ok image') : Loaded file image' := by
  induction exports generalizing image with
  | nil =>
    cases hok
    exact h
  | cons name rest ih =>
    obtain ⟨image1, hfound, hrest⟩ := bind_eq_ok.mp hok
    refine ih ?_ hrest
    obtain ⟨status, _, hstatus⟩ := bind_eq_ok.mp hfound
    cases status with
    | found resolution =>
      cases hstatus
      obtain ⟨base, memory, executable, hplaced⟩ := h.placed
      exact { h with placed := ⟨base, memory, executable, { hplaced with }⟩ }
    | nullImage | nullName | invalidDirectory | invalidTable | forwarder | notFound => cases hstatus

theorem readTlsDirectory_loaded {image' : Image} {header : NtHeader} (h : Loaded file image)
    (hok : readTlsDirectory file header image = ok image') : Loaded file image' := by
  obtain ⟨base, memory, executable, hplaced⟩ := h.placed
  unfold readTlsDirectory at hok
  split at hok
  · obtain ⟨tls, _, hok⟩ := bind_eq_ok.mp hok
    cases tls with
    | none => cases hok
    | some tls =>
      obtain ⟨start, _, hok⟩ := bind_eq_ok.mp hok
      obtain ⟨stop, _, hok⟩ := bind_eq_ok.mp hok
      obtain ⟨index, _, hok⟩ := bind_eq_ok.mp hok
      obtain ⟨callbacks, _, hok⟩ := bind_eq_ok.mp hok
      obtain ⟨_, hok⟩ := failIf_bind_eq_ok.mp hok
      split at hok
      · obtain ⟨_, hok⟩ := failIf_bind_eq_ok.mp hok
        cases hok
        exact { h with placed := ⟨base, memory, executable, { hplaced with }⟩ }
      · cases hok
        exact { h with placed := ⟨base, memory, executable, { hplaced with }⟩ }
  · cases hok
    exact h

/-- Every image that is accepted has its sections in place. -/
theorem loadPeImage_loaded {base : Option Nat} {exports : List String}
    (h : loadPeImage file base exports fuel = ok image) : Loaded file image := by
  rw [loadPeImage_eq] at h
  obtain ⟨r, hload, h⟩ := bind_eq_ok.mp h
  obtain ⟨image1, hrelocated, h⟩ := bind_eq_ok.mp h
  obtain ⟨image2, hexports, htls⟩ := bind_eq_ok.mp h
  exact readTlsDirectory_loaded (findAllManaged_loaded (applyRelocations_loaded
    (loadUnrelocated_loaded hload).2 hrelocated) hexports) htls

/-! ## When the imports are bound -/

/-- The imports that are bound are those of the file, each is counted once, and each slot holds
the function of the platform or the address of a stub in the page that no other import has. -/
def BindsAll (file : Buffer) (image : Image) (platform : ImportPlatform) (fuel : Nat)
    (s : ImportState) : Prop :=
  s.records = namedImports file image platform fuel ∧
    s.functional + s.failfast + s.unresolved = s.records.length ∧
    ∀ page, platform.stubPage = some page → Bound file platform page s ∧
      ∀ k l, k ≠ l → stubAddress page k + stubBytes ≤ stubAddress page l ∨
        stubAddress page l + stubBytes ≤ stubAddress page k

/-- No access is outside, the loops end, every name that is compared ends inside of the file and
every slot lies in the image, and if the binding does not stop in `fail` then it is complete. -/
def ImportsAreBound (file : Buffer) (image : Image) (platform : ImportPlatform) : Prop :=
  (∀ fuel, (resolveImports file image platform fuel).Inside) ∧
    (∃ fuel, resolveImports file image platform fuel ≠ unfinished) ∧
    (∀ fuel, ∀ r ∈ namedImports file image platform fuel, Bindable file image r) ∧
    ∀ fuel descriptors s, resolveImports file image platform fuel = ok (descriptors, s) →
      BindsAll file image platform fuel s

/-- The names of every import that the loops come to end inside of the file, and those that need
a stub are among the first 128. -/
def ImportsFit (file : Buffer) (image : Image) (platform : ImportPlatform) : Prop :=
  ∀ fuel k r, (namedImports file image platform fuel)[k]? = some r →
    r.NamesEnd file ∧ (NeedsStub file platform k r → k < 128)

/-- Two stubs share no byte. -/
theorem stubs_apart (page : Page) {k l : Nat} (h : k ≠ l) :
    stubAddress page k + stubBytes ≤ stubAddress page l ∨
      stubAddress page l + stubBytes ≤ stubAddress page k := by
  unfold stubAddress stubBytes
  omega

/-- The state before the first import. -/
def startState (image : Image) (stubs : Buffer) : ImportState where
  loaded := image.loaded
  stubs := stubs
  records := []
  noted := []
  functional := 0
  failfast := 0
  unresolved := 0

theorem bound_start (file : Buffer) (image : Image) (platform : ImportPlatform) (page : Page)
    (stubs : Buffer) : Bound file platform page (startState image stubs) :=
  ⟨rfl, nofun, fun _ => nofun⟩

/-- Without imports or without a page for the stubs there is nothing to bind. -/
theorem resolveImports_none (file : Buffer) (hno : image.importRva = 0 ∨ image.importSize < 20 ∨
      platform.stubPage.isNone) (fuel : Nat) :
    namedImports file image platform fuel = [] ∧
      (resolveImports file image platform fuel = ok (0, startState image ⟨0, fun _ => 0⟩) ∨
        resolveImports file image platform fuel = failed "allocate-import-stubs") := by
  refine ⟨if_pos hno, ?_⟩
  unfold resolveImports
  by_cases hdirectory : image.importRva = 0 ∨ image.importSize < 20
  · rw [if_pos hdirectory]
    exact .inl rfl
  · have hnone : platform.stubPage = none :=
      Option.isNone_iff_eq_none.mp ((hno.resolve_left (hdirectory ∘ .inl)).resolve_left
        (hdirectory ∘ .inr))
    rw [if_neg hdirectory, hnone]
    exact .inr rfl

/-- With a page the imports of the file are bound in one pass. -/
theorem resolveImports_some (file : Buffer)
    (hdirectory : ¬ (image.importRva = 0 ∨ image.importSize < 20))
    (hpage : platform.stubPage = some page) : ∃ stubs : Buffer, stubs.size = efiPageSize ∧
      ∀ fuel, namedImports file image platform fuel =
          (scanDescriptors file image fuel 0 0 0).records ∧
        resolveImports file image platform fuel =
          (bindAll file platform page (scanDescriptors file image fuel 0 0 0).records
            (startState image stubs) >>= fun s =>
              (scanDescriptors file image fuel 0 0 0).ending >>= fun n => ok (n, s)) := by
  obtain ⟨stubs, hstubs, hsize⟩ := zeroPage_ok page
  refine ⟨stubs, hsize, fun fuel => ⟨if_neg ?_, ?_⟩⟩
  · rintro (hrva | hsmall | hnone)
    · exact hdirectory (.inl hrva)
    · exact hdirectory (.inr hsmall)
    · rw [hpage] at hnone
      exact absurd hnone nofun
  · unfold resolveImports
    rw [if_neg hdirectory, hpage, allocatePage_some, ok_bind, hstubs, ok_bind]
    exact bindDescriptors_eq file image fuel 0 0 (startState image stubs)

theorem imports_are_bound_none (hno : image.importRva = 0 ∨ image.importSize < 20 ∨
      platform.stubPage.isNone) : ImportsAreBound file image platform := by
  have hnone := resolveImports_none file hno
  refine ⟨fun fuel => ?_, ⟨0, ?_⟩, fun fuel r hr => ?_, fun fuel descriptors s hok => ?_⟩
  · rcases (hnone fuel).2 with heq | heq <;> rw [heq] <;> trivial
  · rcases (hnone 0).2 with heq | heq <;> rw [heq] <;> nofun
  · rw [(hnone fuel).1] at hr
    cases hr
  · rcases (hnone fuel).2 with heq | heq
    · rw [heq] at hok
      cases hok
      exact ⟨(hnone fuel).1.symm, rfl,
        fun page _ => ⟨bound_start file image platform page _, fun _ _ => stubs_apart page⟩⟩
    · rw [heq] at hok
      cases hok

/-- The pass over the imports that the loops come to. -/
theorem bindAll_scan (h : Loaded file image) (platform : ImportPlatform) (page : Page)
    {stubs : Buffer} (hsize : stubs.size = efiPageSize) {records : List ImportRecord}
    (hall : ∀ r ∈ records, Bindable file image r) :
    (¬ (∀ k r, records[k]? = some r → NeedsStub file platform k r → k < 128) ∧
      bindAll file platform page records (startState image stubs) = outside) ∨
    ((∀ k r, records[k]? = some r → NeedsStub file platform k r → k < 128) ∧
      ∃ s, bindAll file platform page records (startState image stubs) = ok s ∧
        Bound file platform page s) := by
  have hlength (k : Nat) : (startState image stubs).records.length + k = k := Nat.zero_add k
  rcases bindAll_cases (bound_start file image platform page stubs) ⟨h.loadedSize_le, hsize⟩ hall
    with ⟨⟨k, r, hk, hneeds, hhigh⟩, hout⟩ | ⟨hlow, hok⟩
  · rw [hlength] at hneeds hhigh
    exact .inl ⟨fun hlow => absurd (hlow k r hk hneeds) (by omega), hout⟩
  · refine .inr ⟨fun k r hk hneeds => ?_, hok⟩
    rw [← hlength k] at hneeds ⊢
    exact hlow k r hk hneeds

/-- What the imports that fit are bound to. -/
theorem ImportsFit.bound (h : Loaded file image) (hfit : ImportsFit file image platform)
    (hdirectory : ¬ (image.importRva = 0 ∨ image.importSize < 20))
    (hpage : platform.stubPage = some page) : ImportsAreBound file image platform := by
  obtain ⟨stubs, hsize, hresolve⟩ := resolveImports_some file hdirectory hpage
  have hbindable : ∀ fuel, ∀ r ∈ namedImports file image platform fuel, Bindable file image r := by
    intro fuel r hr
    obtain ⟨k, hk⟩ := List.mem_iff_getElem?.mp hr
    refine ⟨(hfit fuel k r hk).1, ?_⟩
    rw [(hresolve fuel).1] at hr
    exact scanDescriptors_slots r hr
  have hpass (fuel : Nat) : ∃ s, Bound file platform page s ∧
      s.records = namedImports file image platform fuel ∧
      resolveImports file image platform fuel =
        ((scanDescriptors file image fuel 0 0 0).ending >>= fun n => ok (n, s)) := by
    rcases bindAll_scan h platform page hsize (hbindable fuel) with
      ⟨hhigh, _⟩ | ⟨_, s, hok, hbound⟩
    · exact absurd (fun k r hk => (hfit fuel k r hk).2) hhigh
    · refine ⟨s, hbound, bindAll_records hok, ?_⟩
      rw [(hresolve fuel).2, ← (hresolve fuel).1, hok, ok_bind]
  have hends (fuel : Nat) := h.scanDescriptors_ends fuel 0 0 (Nat.zero_le maxImportSymbols)
  refine ⟨fun fuel => ?_, ?_, hbindable, fun fuel descriptors s hok => ?_⟩
  · obtain ⟨s, _, _, heq⟩ := hpass fuel
    rw [heq]
    rcases hends fuel with hsettled | ⟨hun, _⟩
    · exact (hsettled.bind_ok _).inside
    · rw [hun]
      trivial
  · obtain ⟨fuel, hfuel⟩ : ∃ fuel, 2 ^ 32 + maxImportSymbols ≤ fuel := ⟨_, Nat.le_refl _⟩
    refine ⟨fuel, ?_⟩
    obtain ⟨s, _, _, heq⟩ := hpass fuel
    rw [heq]
    rcases hends fuel with hsettled | ⟨_, hlow⟩
    · exact (hsettled.bind_ok _).finished
    · omega
  · obtain ⟨s', hbound, hrecords, heq⟩ := hpass fuel
    rw [heq] at hok
    obtain ⟨n, _, hn⟩ := bind_eq_ok.mp hok
    cases hn
    refine ⟨hrecords, hbound.counts, fun page' hpage' => ⟨?_, fun _ _ => stubs_apart page'⟩⟩
    rw [hpage] at hpage'
    cases hpage'
    exact hbound

/-- Imports that are bound fit. -/
theorem ImportsAreBound.fit (h : Loaded file image) (hbound : ImportsAreBound file image platform) :
    ImportsFit file image platform := by
  obtain ⟨hin, _, hbindable, _⟩ := hbound
  intro fuel k r hk
  by_cases hno : image.importRva = 0 ∨ image.importSize < 20 ∨ platform.stubPage.isNone
  · rw [(resolveImports_none file hno fuel).1] at hk
    cases hk
  · simp only [not_or] at hno
    obtain ⟨hrva, hsmall, hsome⟩ := hno
    obtain ⟨page, hpage⟩ := Option.ne_none_iff_exists'.mp (by simpa using hsome)
    obtain ⟨stubs, hsize, hresolve⟩ := resolveImports_some file (by tauto) hpage
    refine ⟨(hbindable fuel r (List.mem_of_getElem? hk)).1, ?_⟩
    rcases bindAll_scan h platform page hsize (hbindable fuel) with ⟨_, hout⟩ | ⟨hlow, _⟩
    · have hinside := hin fuel
      rw [(hresolve fuel).2, ← (hresolve fuel).1, hout] at hinside
      exact hinside.elim
    · exact hlow k r hk

/-- A build with one function of its own, and a page at `0x200000`. -/
def smallPlatform : ImportPlatform where
  stubPage := some ⟨0x200000, fun _ => 0, by decide⟩
  recordsAddress := 0x300000
  records_fit := by decide
  failfastEntry := 0x400000
  watched := []
  targets := [⟨literal "KERNEL32.dll", literal "FlsAlloc", 0x500000, by decide, by decide⟩]
  unresolvedImport := false

/-- The file ends right behind the eight characters of its only import. -/
def openNameFile : Buffer :=
  fileOf 0x1D0 (headerFields 0x1D0 ++ [(0xD0, 0x188), (0xD4, 20), (0x194, 0x1B0), (0x198, 0x1A0),
    (0x1A0, 0x1C6), (0x1B0, 0x6C6C642E32334C454E52454B), (0x1C8, 0x636F6C6C41736C46)])

theorem openNameFile_open : ¬ EndsInside openNameFile 0x1C8 := by
  have hbytes : ∀ n < 8, openNameFile.byte (0x1C8 + n) ≠ 0 := by decide +kernel
  rintro ⟨n, hn, hzero⟩
  have hsize : openNameFile.size = 0x1D0 := rfl
  exact hbytes n (by omega) hzero

end Gate4Harness.PeImage
