-- The laws of the on-exit tables. A pointer that is encoded decodes to itself, and the
-- first registration fills its block. The storage of a table must lie in a region of the
-- context, and a new block must not: so the first registration is also the last.
import Gate4Harness.CrtOnexit

namespace Gate4Harness.CrtOnexit

variable {s : State} {c : Context} {cookie table callback block : Word}

/-! ## Encoding -/

theorem rotateRight_eq (value : Word) (shift : Nat) (h : shift < 64) :
    rotateRight value shift = value.rotateRight shift := by
  unfold rotateRight
  rw [BitVec.rotateRight_eq_rotateRightAux_of_lt h]
  split
  · rename_i hzero
    subst hzero
    simp [BitVec.rotateRightAux]
  · rfl

/-- A turn to the right and the rest of the full turn. -/
theorem rotateRight_rotateRight (value : Word) (shift : Nat) (h : shift < 64) :
    rotateRight (rotateRight value ((64 - shift) % 64)) shift = value := by
  rw [rotateRight_eq _ _ (Nat.mod_lt _ (by decide)), rotateRight_eq _ _ h]
  by_cases hzero : shift = 0
  · subst hzero
    simp [BitVec.rotateRight_eq_rotateRightAux_of_lt, BitVec.rotateRightAux]
  · rw [Nat.mod_eq_of_lt (by omega : 64 - shift < 64)]
    apply BitVec.eq_of_getLsbD_eq
    intro i hi
    rw [BitVec.getLsbD_rotateRight_of_lt h,
      BitVec.getLsbD_rotateRight_of_lt (by omega : 64 - shift < 64),
      BitVec.getLsbD_rotateRight_of_lt (by omega : 64 - shift < 64)]
    by_cases hlow : i < 64 - shift
    · have h1 : ¬ shift + i < 64 - (64 - shift) := by omega
      have h2 : shift + i - (64 - (64 - shift)) = i := by omega
      have h3 : shift + i < 64 := by omega
      simp [hlow, h1, h2, h3]
    · have h1 : i - (64 - shift) < 64 - (64 - shift) := by omega
      have h2 : 64 - shift + (i - (64 - shift)) = i := by omega
      simp [hlow, h1, h2, hi]

theorem decodePointer_encodePointer (h : cookie ≠ 0) (pointer : Word) :
    decodePointer cookie (encodePointer cookie pointer) = pointer := by
  unfold decodePointer encodePointer
  rw [if_neg h, if_neg h, BitVec.xor_assoc, BitVec.xor_self, BitVec.xor_zero]
  exact rotateRight_rotateRight pointer _ (Nat.mod_lt _ (by decide))

theorem decodePointer_cookie (h : cookie ≠ 0) : decodePointer cookie cookie = 0 := by
  unfold decodePointer rotateRight
  rw [if_neg h, BitVec.xor_self]
  simp

theorem encodePointer_decodePointer (h : cookie ≠ 0) (encoded : Word) :
    encodePointer cookie (decodePointer cookie encoded) = encoded := by
  have hturn := rotateRight_rotateRight (encoded ^^^ cookie) ((64 - cookie.toNat % 64) % 64)
    (Nat.mod_lt _ (by decide))
  -- the rest of the rest of a full turn is the turn itself
  have hback : (64 - (64 - cookie.toNat % 64) % 64) % 64 = cookie.toNat % 64 := by omega
  rw [hback] at hturn
  unfold encodePointer decodePointer
  rw [if_neg h, if_neg h, hturn, BitVec.xor_assoc, BitVec.xor_self, BitVec.xor_zero]

/-- The encoding of the null pointer is the cookie, which is why the cookie stands for null. -/
theorem encodePointer_zero (h : cookie ≠ 0) : encodePointer cookie 0 = cookie := by
  rw [← decodePointer_cookie h]
  exact encodePointer_decodePointer h cookie

/-- C defines the two shifts of `rotateRight`, or they are not made. -/
def ShiftsDefined (shift : Nat) : Prop := shift = 0 ∨ (shift < 64 ∧ 64 - shift < 64)

theorem shiftsDefined_of_lt {shift : Nat} (h : shift < 64) : ShiftsDefined shift := by
  by_cases hzero : shift = 0
  · exact Or.inl hzero
  · exact Or.inr ⟨h, by omega⟩

/-- With a cookie, encoding and decoding are inverse to each other, and null is encoded as the
cookie. No rotation shifts by the whole width. -/
theorem pointers_are_encoded_one_to_one (h : cookie ≠ 0) :
    Function.LeftInverse (decodePointer cookie) (encodePointer cookie) ∧
    Function.RightInverse (decodePointer cookie) (encodePointer cookie) ∧
    encodePointer cookie 0 = cookie ∧
    Function.Bijective (encodePointer cookie) ∧
    ShiftsDefined ((64 - cookie.toNat % 64) % 64) ∧ ShiftsDefined (cookie.toNat % 64) := by
  have hleft : Function.LeftInverse (decodePointer cookie) (encodePointer cookie) :=
    decodePointer_encodePointer h
  have hright : Function.RightInverse (decodePointer cookie) (encodePointer cookie) :=
    encodePointer_decodePointer h
  exact ⟨hleft, hright, encodePointer_zero h, ⟨hleft.injective, hright.surjective⟩,
    shiftsDefined_of_lt (Nat.mod_lt _ (by decide)), shiftsDefined_of_lt (Nat.mod_lt _ (by decide))⟩

/-- A cookie that does not rotate. -/
theorem pointers_are_encoded_without_a_turn :
    encodePointer 0x40 0 = 0x40 ∧ Function.Bijective (encodePointer 0x40) := by
  have hne : (0x40 : Word) ≠ 0 := by decide
  have h := pointers_are_encoded_one_to_one hne
  exact ⟨h.2.2.1, h.2.2.2.1⟩

theorem encodedPointerMatches_cookie (h : cookie ≠ 0) :
    encodedPointerMatches cookie cookie 0 = true := by
  unfold encodedPointerMatches
  rw [decodePointer_cookie h, decide_eq_true h]
  rfl

theorem encodedPointerMatches_encodePointer (h : cookie ≠ 0) (pointer : Word) :
    encodedPointerMatches cookie (encodePointer cookie pointer) pointer =
      decide (encodePointer cookie pointer ≠ 0) := by
  simp [encodedPointerMatches, decodePointer_encodePointer h]

/-! ## What the context accepts -/

/-- The checks that a registration makes of the table. -/
structure TableAccepted (c : Context) (table : Word) : Prop where
  nonnull : table ≠ 0
  canonical : isCanonical table = true
  fits : ¬ table > uintptrMax - tableBytes
  region : ∃ region, findRange c table (table + tableBytes) true false = some region ∧
    region.writable ≠ 0
  known : c.initializedTables = [] ∨ table ∈ c.initializedTables

/-- The checks that a registration makes of the block that it gets. -/
structure BlockAccepted (c : Context) (cookie block : Word) : Prop where
  allocator : c.allocate = true ∧ c.free = true
  taken : blockRefused c block = none
  encodedFirst : encodePointer cookie block ≠ 0
  encodedLast : encodePointer cookie (block + 8) ≠ 0
  encodedEnd : encodePointer cookie (block + initialStorageBytes) ≠ 0

/-- The callback is in an executable region. -/
def Executable (c : Context) (callback : Word) : Prop := (findAddress c callback true).isSome

instance : DecidablePred (Executable c) := fun _ => inferInstanceAs (Decidable (_ = true))

/-- The facts of a block that its checks give. -/
structure BlockFacts (c : Context) (block : Word) : Prop where
  nonnull : block ≠ 0
  fits : block.toNat + 256 < 2 ^ 64
  apart : ∀ region ∈ c.regions,
    rangesOverlap block (block + initialStorageBytes) region.base region.limit = false

theorem BlockFacts.of_blockRefused (h : blockRefused c block = none) : BlockFacts c block := by
  unfold blockRefused at h
  split at h
  · cases h
  · rename_i hnull
    split at h
    · cases h
    · split at h
      · cases h
      · split at h
        · cases h
        · rename_i hfits
          split at h
          · cases h
          · split at h
            · cases h
            · rename_i hany
              refine ⟨hnull, ?_, ?_⟩
              · have h1 : (uintptrMax - initialStorageBytes).toNat = 2 ^ 64 - 1 - 256 := by decide
                rw [gt_iff_lt, BitVec.lt_def, h1] at hfits
                omega
              · rw [Bool.not_eq_true, List.any_eq_false] at hany
                intro region hregion
                simpa using hany region hregion

theorem findRange_some {base limit : Word} {requireReadable requireWritable : Bool}
    {region : MemoryRegion}
    (h : findRange c base limit requireReadable requireWritable = some region) :
    region ∈ c.regions ∧ region.base ≤ base ∧ limit ≤ region.limit := by
  have hp := List.find?_some h
  simp only [Bool.and_eq_true, rangeContains, decide_eq_true_eq] at hp
  exact ⟨List.mem_of_find?_eq_some h, hp.2.1.1.2, hp.2.2⟩

/-- A range that shares a byte with the block is in no region. -/
theorem BlockFacts.not_findRange (h : BlockFacts c block) {base limit : Word}
    (h1 : block < limit) (h2 : base < block + initialStorageBytes)
    (requireReadable requireWritable : Bool) :
    findRange c base limit requireReadable requireWritable = none := by
  cases hfind : findRange c base limit requireReadable requireWritable with
  | none => rfl
  | some region =>
    obtain ⟨hmem, hbase, hlimit⟩ := findRange_some hfind
    have hover := h.apart region hmem
    simp only [rangesOverlap, Bool.and_eq_false_iff, decide_eq_false_iff_not] at hover
    rw [BitVec.le_def] at hbase hlimit
    rw [BitVec.lt_def] at h1 h2
    rw [BitVec.lt_def, BitVec.lt_def] at hover
    omega

theorem BlockFacts.limit_toNat (h : BlockFacts c block) :
    (block + initialStorageBytes).toNat = block.toNat + 256 := by
  have := h.fits
  rw [BitVec.toNat_add]
  exact Nat.mod_eq_of_lt this

theorem BlockFacts.last_toNat (h : BlockFacts c block) : (block + 8).toNat = block.toNat + 8 := by
  have := h.fits
  rw [BitVec.toNat_add]
  exact Nat.mod_eq_of_lt (by simp; omega)

/-- The table is not in the block. -/
theorem BlockFacts.table_apart (h : BlockFacts c block) (ht : TableAccepted c table) :
    block ≠ table ∧ block ≠ table + 8 ∧ block ≠ table + 16 := by
  obtain ⟨region, hfind, -⟩ := ht.region
  have hnone : block < table + tableBytes → table < block + initialStorageBytes →
      findRange c table (table + tableBytes) true false = none :=
    fun h1 h2 => h.not_findRange h1 h2 true false
  have hfits : table.toNat + 24 < 2 ^ 64 := by
    have h1 : (uintptrMax - tableBytes).toNat = 2 ^ 64 - 1 - 24 := by decide
    have := ht.fits
    rw [gt_iff_lt, BitVec.lt_def, h1] at this
    omega
  have hend : (table + tableBytes).toNat = table.toNat + 24 := by
    rw [BitVec.toNat_add]
    exact Nat.mod_eq_of_lt hfits
  have h8 : (table + 8).toNat = table.toNat + 8 := by
    rw [BitVec.toNat_add]
    exact Nat.mod_eq_of_lt (by simp; omega)
  have h16 : (table + 16).toNat = table.toNat + 16 := by
    rw [BitVec.toNat_add]
    exact Nat.mod_eq_of_lt (by simp; omega)
  have hlimit := h.limit_toNat
  have key : ∀ d, d < 24 → block.toNat ≠ table.toNat + d := by
    intro d hd heq
    rw [hnone (by rw [BitVec.lt_def]; omega) (by rw [BitVec.lt_def]; omega)] at hfind
    cases hfind
  refine ⟨?_, ?_, ?_⟩
  · intro heq
    exact key 0 (by decide) (by rw [heq]; rfl)
  · intro heq
    exact key 8 (by decide) (by rw [heq]; exact h8)
  · intro heq
    exact key 16 (by decide) (by rw [heq]; exact h16)

/-! ## Memory -/

theorem foldl_update_slots (value : Word) (indices : List Nat) (memory : Word → Word)
    (address : Word) :
    (indices.foldl (fun memory index =>
      Function.update memory (slotAddress block index) value) memory) address =
      if address ∈ indices.map (slotAddress block) then value else memory address := by
  induction indices generalizing memory with
  | nil => simp
  | cons index rest ih =>
    rw [List.foldl_cons, ih]
    by_cases hrest : address ∈ rest.map (slotAddress block)
    · simp [hrest]
    · by_cases hhead : address = slotAddress block index
      · simp [hhead]
      · simp [hrest, hhead]

theorem slotAddress_ne (h : BlockFacts c block) {index : Nat} (hpos : 0 < index)
    (hlt : index < initialStorageSlots) : slotAddress block index ≠ block := by
  intro heq
  have hnat := congrArg BitVec.toNat heq
  have hfits := h.fits
  unfold initialStorageSlots at hlt
  rw [slotAddress, BitVec.toNat_add, BitVec.toNat_ofNat] at hnat
  omega

/-- The slots after the first one hold the encoded null. -/
theorem fillSlots_unused (h : BlockFacts s.context block) (encodedCallback : Word) {index : Nat}
    (hpos : 0 < index) (hlt : index < initialStorageSlots) :
    (fillSlots s block encodedCallback).memory (slotAddress block index) = s.cookie := by
  unfold fillSlots
  dsimp only
  rw [Function.update_of_ne (slotAddress_ne h hpos hlt), foldl_update_slots, if_pos]
  exact List.mem_map_of_mem (List.mem_range.mpr hlt)

@[simp] theorem fillSlots_first (encodedCallback : Word) :
    (fillSlots s block encodedCallback).memory block = encodedCallback := by
  simp [fillSlots]

@[simp] theorem fillSlots_cookie (encodedCallback : Word) :
    (fillSlots s block encodedCallback).cookie = s.cookie := rfl

section Table

variable (first last limit : Word)

@[simp] theorem tableFirst_writeTable : tableFirst (writeTable s table first last limit) table =
    first := by
  have h8 : table ≠ table + 8 := by bv_omega
  have h16 : table ≠ table + 16 := by bv_omega
  simp only [tableFirst, writeTable, Function.update_of_ne h8, Function.update_of_ne h16,
    Function.update_self]

@[simp] theorem tableLast_writeTable : tableLast (writeTable s table first last limit) table =
    last := by
  have h16 : table + 8 ≠ table + 16 := by bv_omega
  simp only [tableLast, writeTable, Function.update_of_ne h16, Function.update_self]

@[simp] theorem tableEnd_writeTable : tableEnd (writeTable s table first last limit) table =
    limit := by
  simp [tableEnd, writeTable]

theorem memory_writeTable {address : Word}
    (h : address ≠ table ∧ address ≠ table + 8 ∧ address ≠ table + 16) :
    (writeTable s table first last limit).memory address = s.memory address := by
  simp only [writeTable, Function.update_of_ne h.1, Function.update_of_ne h.2.1,
    Function.update_of_ne h.2.2]

end Table

/-! ## One registration -/

/-- On an accepted table a registration comes to the check of the callback. -/
theorem registerChecked_reaches (hvalid : s.contextValid = true) (hcookie : s.cookie ≠ 0)
    (ht : TableAccepted s.context table) (callback block : Word) :
    ∃ r, registerChecked s table callback block =
      registerCallback s r table callback block (decodePointer s.cookie (tableFirst s table))
        (decodePointer s.cookie (tableLast s table))
        (decodePointer s.cookie (tableEnd s table)) := by
  obtain ⟨region, hfind, hwritable⟩ := ht.region
  have hnull := encodedPointerMatches_cookie hcookie
  have hdecoded : ∀ r, ∃ r', registerDecoded s r table callback block =
      registerCallback s r' table callback block (decodePointer s.cookie (tableFirst s table))
        (decodePointer s.cookie (tableLast s table))
        (decodePointer s.cookie (tableEnd s table)) := by
    intro r
    unfold registerDecoded
    simp only [hnull, not_true_eq_false, if_false]
    exact ⟨_, rfl⟩
  unfold registerChecked
  have hctx : ¬ (¬ s.contextValid = true ∨ s.cookie = 0) := by
    rintro (h | h)
    · exact h hvalid
    · exact hcookie h
  have hcanon : ¬ ¬ isCanonical table = true := by simp [ht.canonical]
  simp only [if_neg hctx, if_neg ht.nonnull, if_neg hcanon, if_neg ht.fits, hfind,
    if_neg hwritable]
  unfold registerKnown
  split
  · exact hdecoded _
  · rename_i hnone
    rcases ht.known with hempty | hmem
    · rw [if_neg (by simp [hempty])]
      exact hdecoded _
    · rw [List.findIdx?_eq_none_iff] at hnone
      have := hnone table hmem
      simp at this

/-- A callback in an executable region must be canonical. -/
theorem registerCallback_cases (hexec : Executable s.context callback) (r : Report)
    (table block first last limit : Word) :
    (isCanonical callback = true ∧
      ∃ r', registerCallback s r table callback block first last limit =
        registerStorage s r' table callback block first last limit) ∨
    (isCanonical callback = false ∧
      (registerCallback s r table callback block first last limit).1.status ≠ .ok) := by
  obtain ⟨region, hfind⟩ := Option.isSome_iff_exists.mp hexec
  have hne : callback ≠ 0 := by
    rintro rfl
    simp [findAddress] at hfind
  unfold registerCallback
  rw [if_neg hne]
  by_cases hcanon : isCanonical callback = true
  · left
    simp only [hcanon, not_true_eq_false, if_false, hfind]
    exact ⟨trivial, _, rfl⟩
  · right
    simp only [Bool.not_eq_true] at hcanon
    simp [hcanon, fail]

/-- The state after the first registration. -/
def firstState (s : State) (table callback block : Word) : State :=
  writeTable (fillSlots s block (encodePointer s.cookie callback)) table
    (encodePointer s.cookie block) (encodePointer s.cookie (block + 8))
    (encodePointer s.cookie (block + initialStorageBytes))

theorem registerFirst_ok (hcookie : s.cookie ≠ 0) (hb : BlockAccepted s.context s.cookie block)
    (hcallback : encodePointer s.cookie callback ≠ 0) (r : Report) (table : Word) :
    (registerFirst s r table callback block).1.status = .ok ∧
    (registerFirst s r table callback block).2 = firstState s table callback block := by
  have hunused : ((List.range' 1 (initialStorageSlots - 1)).all fun index =>
      encodedPointerMatches s.cookie ((fillSlots s block (encodePointer s.cookie callback)).memory
        (slotAddress block index)) 0) = true := by
    rw [List.all_eq_true]
    intro index hindex
    rw [List.mem_range'_1] at hindex
    rw [fillSlots_unused (.of_blockRefused hb.taken) _ hindex.1 (by
      have : initialStorageSlots = 32 := rfl
      omega)]
    exact encodedPointerMatches_cookie hcookie
  unfold registerFirst
  simp only [hb.allocator.1, hb.allocator.2, hb.taken, encodedPointerMatches_encodePointer hcookie,
    hcallback, hb.encodedFirst, hb.encodedLast, hb.encodedEnd, fillSlots_first, fillSlots_cookie,
    hunused, not_true_eq_false, or_self, if_false, ne_eq, not_false_eq_true, decide_true]
  exact ⟨trivial, rfl⟩

theorem registerFirst_encoded_null (hcookie : s.cookie ≠ 0)
    (hb : BlockAccepted s.context s.cookie block)
    (hcallback : encodePointer s.cookie callback = 0) (r : Report) (table : Word) :
    (registerFirst s r table callback block).1.status ≠ .ok := by
  have hmatch : encodedPointerMatches s.cookie (encodePointer s.cookie callback) callback =
      false := by
    rw [encodedPointerMatches_encodePointer hcookie, hcallback]
    rfl
  unfold registerFirst
  simp only [hb.allocator.1, hb.allocator.2, hb.taken, hmatch, not_true_eq_false, or_self, if_false,
    Bool.false_eq_true, not_false_eq_true, true_or, if_true, releaseAllocation, fail]
  simp

theorem registerStorage_empty (r : Report) (table callback block : Word) :
    registerStorage s r table callback block 0 0 0 = registerFirst s r table callback block := by
  simp [registerStorage]

/-- A table that has a block as its storage takes no more callbacks. -/
theorem registerStorage_block (h : BlockFacts s.context block) (r : Report)
    (table callback block' last : Word) (hlast : last ≠ 0) :
    (registerStorage s r table callback block' block last
      (block + initialStorageBytes)).1.status ≠ .ok := by
  have hlimit := h.limit_toNat
  have hend : block + initialStorageBytes ≠ 0 := by
    intro heq
    have := congrArg BitVec.toNat heq
    rw [hlimit] at this
    simp at this
  have hregion : findRange s.context block (block + initialStorageBytes) true true = none := by
    have hlt : block < block + initialStorageBytes := by
      rw [BitVec.lt_def]
      omega
    exact h.not_findRange hlt hlt true true
  have hnone : storageRefused s.context block last (block + initialStorageBytes) ≠ none := by
    unfold storageRefused
    rw [if_pos hregion]
    split
    · simp
    · split
      · simp
      · split <;> simp
  obtain ⟨status, hstatus⟩ := Option.ne_none_iff_exists'.mp hnone
  have hok : status ≠ .ok := by
    rintro rfl
    unfold storageRefused at hstatus
    rw [if_pos hregion] at hstatus
    split at hstatus
    · cases hstatus
    · split at hstatus
      · cases hstatus
      · split at hstatus <;> cases hstatus
  unfold registerStorage
  have hbounds : ¬ ((block = 0 ∨ last = 0 ∨ block + initialStorageBytes = 0) ∧
      ¬ (block = 0 ∧ last = 0 ∧ block + initialStorageBytes = 0)) := by
    rintro ⟨h0 | h0 | h0, -⟩
    · exact h.nonnull h0
    · exact hlast h0
    · exact hend h0
  rw [if_neg hbounds, if_neg h.nonnull, hstatus]
  exact hok

/-! ## A run of registrations -/

/-- The registrations of the callbacks in turn, each with the answer of the allocator, and
what they return. -/
def registerAll (s : State) (table : Word) : List (Word × Word) → List Status × State
  | [] => ([], s)
  | call :: rest =>
    let one := registerChecked s table call.1 call.2
    let others := registerAll one.2 table rest
    (one.1.status :: others.1, others.2)

/-- The callbacks that one finds by decoding the bounds and the slots between them. -/
def registered (s : State) (table : Word) : Option (List Word) :=
  let first := decodePointer s.cookie (tableFirst s table)
  let last := decodePointer s.cookie (tableLast s table)
  let limit := decodePointer s.cookie (tableEnd s table)
  if first ≤ last ∧ last ≤ limit then
    some ((List.range ((last - first).toNat / 8)).map fun index =>
      decodePointer s.cookie (s.memory (slotAddress first index)))
  else none

/-- Every call returns `OK` and the table lists the callbacks in order. -/
def Accumulates (s : State) (table : Word) (calls : List (Word × Word)) : Prop :=
  (∀ status ∈ (registerAll s table calls).1, status = .ok) ∧
  registered (registerAll s table calls).2 table = some (calls.map Prod.fst)

/-- A table that nobody has registered with. -/
structure Fresh (s : State) (table : Word) : Prop where
  valid : s.contextValid = true
  cookie : s.cookie ≠ 0
  accepted : TableAccepted s.context table
  first : tableFirst s table = s.cookie
  last : tableLast s table = s.cookie
  limit : tableEnd s table = s.cookie

theorem Fresh.of_initializeOnexitTable (hvalid : s.contextValid = true)
    (ht : TableAccepted s.context table) (hempty : tableFirst s table = tableEnd s table)
    (hinit : (initializeOnexitTable s table).1 = 0) :
    Fresh (initializeOnexitTable s table).2 table ∧
    (initializeOnexitTable s table).2.context = s.context ∧
    (initializeOnexitTable s table).2.cookie = s.cookie := by
  unfold initializeOnexitTable at hinit ⊢
  rw [if_neg ht.nonnull, if_neg (not_not_intro hempty)] at hinit ⊢
  split at hinit
  · cases hinit
  · rename_i hcookie
    rw [if_neg hcookie]
    exact ⟨⟨hvalid, hcookie, ht, by simp; rfl, by simp; rfl, by simp; rfl⟩, rfl, rfl⟩

theorem Fresh.registered_nil (h : Fresh s table) : registered s table = some [] := by
  unfold registered
  simp [h.first, h.last, h.limit, decodePointer_cookie h.cookie]

/-- The first registration succeeds exactly for a canonical callback with an encoding. -/
theorem Fresh.register_ok_iff (h : Fresh s table) (hb : BlockAccepted s.context s.cookie block)
    (hexec : Executable s.context callback) :
    (registerChecked s table callback block).1.status = .ok ↔
      isCanonical callback = true ∧ encodePointer s.cookie callback ≠ 0 := by
  obtain ⟨r, hr⟩ := registerChecked_reaches h.valid h.cookie h.accepted callback block
  rw [hr, h.first, h.last, h.limit, decodePointer_cookie h.cookie]
  rcases registerCallback_cases hexec r table block 0 0 0 with ⟨hcanon, r', hr'⟩ | ⟨hcanon, hfail⟩
  · rw [hr', registerStorage_empty]
    by_cases hcallback : encodePointer s.cookie callback = 0
    · have hfail := registerFirst_encoded_null h.cookie hb hcallback r' table
      exact ⟨fun hok => absurd hok hfail, fun hok => absurd hcallback hok.2⟩
    · exact ⟨fun _ => ⟨hcanon, hcallback⟩,
        fun _ => (registerFirst_ok h.cookie hb hcallback r' table).1⟩
  · rw [hcanon]
    exact ⟨fun hok => absurd hok hfail, fun hok => absurd hok.1 (by decide)⟩

theorem Fresh.register_state (h : Fresh s table) (hb : BlockAccepted s.context s.cookie block)
    (hexec : Executable s.context callback) (hcanon : isCanonical callback = true)
    (hcallback : encodePointer s.cookie callback ≠ 0) :
    (registerChecked s table callback block).2 = firstState s table callback block := by
  obtain ⟨r, hr⟩ := registerChecked_reaches h.valid h.cookie h.accepted callback block
  rw [hr, h.first, h.last, h.limit, decodePointer_cookie h.cookie]
  rcases registerCallback_cases hexec r table block 0 0 0 with ⟨-, r', hr'⟩ | ⟨hnot, -⟩
  · rw [hr', registerStorage_empty]
    exact (registerFirst_ok h.cookie hb hcallback r' table).2
  · rw [hcanon] at hnot
    cases hnot

/-- The bounds that the first registration leaves in the table. -/
theorem firstState_decodes (hcookie : s.cookie ≠ 0) (table callback block : Word) :
    decodePointer (firstState s table callback block).cookie
      (tableFirst (firstState s table callback block) table) = block ∧
    decodePointer (firstState s table callback block).cookie
      (tableLast (firstState s table callback block) table) = block + 8 ∧
    decodePointer (firstState s table callback block).cookie
      (tableEnd (firstState s table callback block) table) = block + initialStorageBytes := by
  refine ⟨?_, ?_, ?_⟩
  · rw [firstState, tableFirst_writeTable]
    exact decodePointer_encodePointer hcookie block
  · rw [firstState, tableLast_writeTable]
    exact decodePointer_encodePointer hcookie (block + 8)
  · rw [firstState, tableEnd_writeTable]
    exact decodePointer_encodePointer hcookie (block + initialStorageBytes)

section First

variable (hcookie : s.cookie ≠ 0) (hb : BlockAccepted s.context s.cookie block)
  (ht : TableAccepted s.context table)

include hcookie hb ht in
/-- After the first registration the table lists its callback. -/
theorem registered_firstState (callback : Word) :
    registered (firstState s table callback block) table = some [callback] := by
  have hfacts : BlockFacts s.context block := .of_blockRefused hb.taken
  have hlimit := hfacts.limit_toNat
  have hlast := hfacts.last_toNat
  have hslot : (firstState s table callback block).memory block =
      encodePointer s.cookie callback := by
    rw [firstState, memory_writeTable _ _ _ (hfacts.table_apart ht), fillSlots_first]
  have hcount : (block + 8 - block).toNat / 8 = 1 := by
    rw [BitVec.toNat_sub_of_le (by rw [BitVec.le_def]; omega), hlast]
    omega
  have hzero : slotAddress block 0 = block := by simp [slotAddress]
  unfold registered
  obtain ⟨h1, h2, h3⟩ := firstState_decodes hcookie table callback block
  have hle : block ≤ block + 8 ∧ block + 8 ≤ block + initialStorageBytes := by
    rw [BitVec.le_def, BitVec.le_def]
    omega
  simp only [h1, h2, h3, if_pos hle, hcount, List.range_one, List.map_cons, List.map_nil, hzero,
    hslot]
  rw [show (firstState s table callback block).cookie = s.cookie from rfl,
    decodePointer_encodePointer hcookie]

include hcookie hb ht in
/-- The next registration fails, whatever it brings. -/
theorem register_firstState_fails (hvalid : s.contextValid = true) (callback : Word)
    {callback' block' : Word} (hexec : Executable s.context callback') :
    (registerChecked (firstState s table callback block) table callback' block').1.status ≠
      .ok := by
  have hfacts : BlockFacts s.context block := .of_blockRefused hb.taken
  have hfacts' : BlockFacts (firstState s table callback block).context block := hfacts
  obtain ⟨r, hr⟩ := registerChecked_reaches (s := firstState s table callback block) hvalid hcookie
    ht callback' block'
  obtain ⟨h1, h2, h3⟩ := firstState_decodes hcookie table callback block
  have hne : block + 8 ≠ 0 := by
    intro heq
    have := congrArg BitVec.toNat heq
    rw [hfacts.last_toNat] at this
    simp at this
  rw [hr, h1, h2, h3]
  have hexec' : Executable (firstState s table callback block).context callback' := hexec
  rcases registerCallback_cases hexec' r table block' block (block + 8)
    (block + initialStorageBytes) with ⟨-, r', hr'⟩ | ⟨-, hfail⟩
  · rw [hr']
    exact registerStorage_block hfacts' r' table callback' block' (block + 8) hne
  · exact hfail

end First

/-- A run accumulates if and only if it has at most one callback, which can be registered. -/
theorem Fresh.accumulates_iff (h : Fresh s table) {calls : List (Word × Word)}
    (hblocks : ∀ call ∈ calls, BlockAccepted s.context s.cookie call.2)
    (hcallbacks : ∀ call ∈ calls, Executable s.context call.1) :
    Accumulates s table calls ↔ calls = [] ∨ ∃ callback block, calls = [(callback, block)] ∧
      isCanonical callback = true ∧ encodePointer s.cookie callback ≠ 0 := by
  cases calls with
  | nil =>
    refine ⟨fun _ => Or.inl rfl, fun _ => ⟨?_, h.registered_nil⟩⟩
    intro status hstatus
    cases hstatus
  | cons call rest =>
    obtain ⟨callback, block⟩ := call
    have hb := hblocks (callback, block) (by simp)
    have hexec := hcallbacks (callback, block) (by simp)
    have hok := h.register_ok_iff hb hexec
    constructor
    · rintro ⟨hall, -⟩
      right
      have hfirst : (registerChecked s table callback block).1.status = .ok :=
        hall _ (List.mem_cons_self ..)
      obtain ⟨hcanon, hcallback⟩ := hok.mp hfirst
      cases rest with
      | nil => exact ⟨callback, block, rfl, hcanon, hcallback⟩
      | cons next others =>
        have hsecond : (registerChecked (registerChecked s table callback block).2 table next.1
            next.2).1.status = .ok :=
          hall _ (List.mem_cons_of_mem _ (List.mem_cons_self ..))
        rw [h.register_state hb hexec hcanon hcallback] at hsecond
        exact absurd hsecond (register_firstState_fails h.cookie hb h.accepted h.valid callback
          (hcallbacks next (by simp)))
    · rintro (hnil | ⟨callback', block', hone, hcanon, hcallback⟩)
      · cases hnil
      · cases hone
        constructor
        · intro status hstatus
          simp only [registerAll, List.mem_singleton] at hstatus
          rw [hstatus]
          exact hok.mpr ⟨hcanon, hcallback⟩
        · simp only [registerAll]
          rw [h.register_state hb hexec hcanon hcallback]
          exact registered_firstState h.cookie hb h.accepted callback

theorem configure_ok {s : State} {c : Context} (h : (configure s c).1 = 0) :
    (configure s c).2 = { s with context := c, contextValid := true } := by
  unfold configure at h ⊢
  dsimp only at h ⊢
  split at h
  · cases h
  · split at h
    · cases h
    · split at h
      · cases h
      · split at h
        · cases h
        · rename_i h1 h2 h3 h4
          rw [if_neg h1, if_neg h2, if_neg h3, if_neg h4]

/-- The registrations with a table that was set up accumulate if and only if there is at most
one, of a canonical callback that has an encoding. -/
theorem registrations_accumulate_iff {s : State} {c : Context} {table : Word}
    {calls : List (Word × Word)} (hconfigured : (configure s c).1 = 0)
    (hempty : tableFirst s table = tableEnd s table)
    (hinit : (initializeOnexitTable (configure s c).2 table).1 = 0)
    (htable : TableAccepted c table)
    (hblocks : ∀ call ∈ calls, BlockAccepted c s.cookie call.2)
    (hcallbacks : ∀ call ∈ calls, Executable c call.1) :
    Accumulates (initializeOnexitTable (configure s c).2 table).2 table calls ↔
      calls = [] ∨ ∃ callback block, calls = [(callback, block)] ∧
        isCanonical callback = true ∧ encodePointer s.cookie callback ≠ 0 := by
  rw [configure_ok hconfigured] at hinit ⊢
  obtain ⟨hfresh, hcontext, hcookie⟩ :=
    Fresh.of_initializeOnexitTable (s := { s with context := c, contextValid := true }) rfl htable
      hempty hinit
  rw [hfresh.accumulates_iff (by rw [hcontext, hcookie]; exact hblocks)
    (by rw [hcontext]; exact hcallbacks), hcookie]

/-- An image with code and data, a table in the data and a block outside of the image. -/
def sampleContext : Context :=
  { imageBase := 0x10000, imageEnd := 0x40000, encodedNull := 0x1234567890ABCDEF
    relocationsApplied := 1, initializedTables := [0x20010]
    regions := [⟨0x10000, 0x20000, 1, 1, 0⟩, ⟨0x20000, 0x30000, 1, 0, 1⟩]
    allocate := true, free := true }

def sampleState : State := { cookie := 0x1234567890ABCDEF, memory := fun _ => 0 }

theorem sampleTable_accepted : TableAccepted sampleContext 0x20010 :=
  ⟨by decide, by decide, by decide, ⟨⟨0x20000, 0x30000, 1, 0, 1⟩, by decide, by decide⟩,
    Or.inr (by decide)⟩

theorem sampleBlock_accepted : BlockAccepted sampleContext 0x1234567890ABCDEF 0x100000 :=
  ⟨by decide, by decide, by decide, by decide, by decide⟩

theorem one_registration_accumulates :
    Accumulates (initializeOnexitTable (configure sampleState sampleContext).2 0x20010).2 0x20010
      [(0x10100, 0x100000)] := by
  refine (registrations_accumulate_iff (s := sampleState) (c := sampleContext) (by decide)
    (by decide) (by decide) sampleTable_accepted ?_ ?_).mpr
    (Or.inr ⟨0x10100, 0x100000, rfl, by decide, by decide⟩)
  · intro call hcall
    rw [List.mem_singleton.mp hcall]
    exact sampleBlock_accepted
  · intro call hcall
    rw [List.mem_singleton.mp hcall]
    decide

theorem second_registration_is_refused :
    (registerAll (initializeOnexitTable (configure sampleState sampleContext).2 0x20010).2 0x20010
      [(0x10100, 0x100000), (0x10200, 0x100000)]).1 = [.ok, .storageRangeInvalid] := by
  decide +kernel

/-- Two callbacks of the same code do not come together in one table. -/
theorem two_registrations_do_not_accumulate :
    (configure sampleState sampleContext).1 = 0 ∧
    (initializeOnexitTable (configure sampleState sampleContext).2 0x20010).1 = 0 ∧
    TableAccepted sampleContext 0x20010 ∧
    BlockAccepted sampleContext sampleState.cookie 0x100000 ∧
    Executable sampleContext 0x10100 ∧ Executable sampleContext 0x10200 ∧
    ¬ Accumulates (initializeOnexitTable (configure sampleState sampleContext).2 0x20010).2 0x20010
      [(0x10100, 0x100000), (0x10200, 0x100000)] := by
  refine ⟨by decide, by decide, sampleTable_accepted, sampleBlock_accepted, by decide, by decide,
    ?_⟩
  rintro ⟨hall, -⟩
  rw [second_registration_is_refused] at hall
  exact absurd (hall .storageRangeInvalid (by simp)) (by decide)

end Gate4Harness.CrtOnexit
