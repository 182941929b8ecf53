-- A registration that fails leaves the table and its storage as they were, byte for byte,
-- and the block that it got goes back once. Only the first registration has a block, and the
-- block shares no byte with a region of the context, so none with the table.
import Gate4Harness.CrtOnexitLaws
import Gate4Harness.OnexitMemory

namespace Gate4Harness.OnexitMemory

open ByteMemory hiding Word
open CrtOnexit

variable {s : Machine} {table callback block first last limit : Word}

/-! ## Bytes -/

/-- A word that is read from one memory and written to another brings its bytes along. -/
theorem write_read_apply {w : Nat} (m m' : Memory) (a p : Addr) :
    write m' a (read m a w) p = if (p - a).toNat < w / 8 then m p else m' p := by
  unfold write
  split
  · rename_i hin
    apply BitVec.eq_of_getLsbD_eq
    intro i hi
    rw [BitVec.getLsbD_extractLsb', decide_eq_true hi, Bool.true_and,
      getLsbD_read m a (by omega), Nat.mul_add_div (by decide), Nat.div_eq_of_lt hi, Nat.add_zero,
      up_distance, Nat.mul_add_mod, Nat.mod_eq_of_lt hi]
  · rfl

/-- Words that are written and then written back with what they held are as they were, even
when some of them share bytes. -/
theorem restored (s : Machine) (table slot v first last limit : Word) :
    (storeTable (store (storeTable (store s slot v) table first last limit) slot (load s slot))
      table (tableFirst s table) (tableLast s table) (tableEnd s table)).memory = s.memory := by
  funext p
  simp only [storeTable, store, tableFirst, tableLast, tableEnd, load,
    write_read_apply]
  by_cases hend : (p - (table + 16)).toNat < 64 / 8
  · rw [if_pos hend]
  by_cases hlast : (p - (table + 8)).toNat < 64 / 8
  · rw [if_neg hend, if_pos hlast]
  by_cases hfirst : (p - table).toNat < 64 / 8
  · rw [if_neg hend, if_neg hlast, if_pos hfirst]
  by_cases hslot : (p - slot).toNat < 64 / 8
  · rw [if_neg hend, if_neg hlast, if_neg hfirst, if_pos hslot]
  simp only [write, hend, hlast, hfirst, hslot, if_false]

theorem slotAddress_eq_up (block : Word) (index : Nat) :
    slotAddress block index = up block (8 * index) := rfl

/-- Filling slots changes bytes of the block only, and nothing but memory. -/
theorem foldl_store_slots (block : Word) (indices : List Nat)
    (h : ∀ index ∈ indices, index < initialStorageSlots) (s : Machine) :
    ∃ memory, Within s.memory memory block 256 ∧
      indices.foldl (fun s index => store s (slotAddress block index) (getEncodedNull s)) s =
        { s with memory } := by
  induction indices generalizing s with
  | nil => exact ⟨s.memory, Within.refl _ _ _, rfl⟩
  | cons index rest ih =>
    rw [List.forall_mem_cons] at h
    obtain ⟨memory, hwithin, hrest⟩ := ih h.2 (store s (slotAddress block index) (getEncodedNull s))
    have hindex : index < 32 := h.1
    have hstore : Within s.memory (store s (slotAddress block index) (getEncodedNull s)).memory
        block 256 :=
      within_write s.memory block _ (by omega) (by decide)
    exact ⟨memory, hstore.trans hwithin, by rw [List.foldl_cons, hrest]; rfl⟩

theorem filled (s : Machine) (block v : Word) :
    ∃ memory, Within s.memory memory block 256 ∧
      store (fillSlots s block) block v = { s with memory } := by
  obtain ⟨memory, hwithin, hfill⟩ :=
    foldl_store_slots block (List.range initialStorageSlots)
      (fun _ => List.mem_range.mp) s
  refine ⟨write memory block v,
    hwithin.trans (within_write_self memory block v (by decide) (by decide)), ?_⟩
  rw [fillSlots, hfill]
  rfl

/-! ## What a call leaves and gives back -/

/-- A call gets at most one block, and gives it back when it fails. -/
def Accounts (s : Machine) (out : Status × Machine) : Prop :=
  ∃ got : List Word, got.length ≤ 1 ∧ out.2.obtained = got ++ s.obtained ∧
    out.2.released =
      (if out.1 = .ok then [] else got.filter fun b => decide (b ≠ 0)) ++ s.released

/-- What a call may have done from a table that decodes to `first` and `limit`. Where it fails
and memory differs, the table had no storage and only the block was written. -/
structure Attempt (s : Machine) (first limit block : Word) (out : Status × Machine) : Prop where
  accounts : Accounts s out
  kept : out.1 ≠ .ok → out.2.memory = s.memory ∨
    (first = limit ∧ BlockFacts s.context block ∧ Within s.memory out.2.memory block 256)

theorem Attempt.refused (status : Status) :
    Attempt s first limit block (status, s) :=
  ⟨⟨[], by simp⟩, fun _ => Or.inl rfl⟩

/-- The block that was obtained goes back with a status that is not OK. -/
theorem Attempt.givenBack (status : Status) (hstatus : status ≠ .ok)
    (hfree : s.context.free = true) {s' : Machine} {memory : Memory}
    (hs' : s' = { s with obtained := block :: s.obtained, memory })
    (hmemory : memory = s.memory ∨
      (first = limit ∧ BlockFacts s.context block ∧ Within s.memory memory block 256)) :
    Attempt s first limit block (releaseAllocation s' block status) := by
  subst hs'
  unfold releaseAllocation
  by_cases hnull : block = 0
  · rw [if_neg (by simp [hnull])]
    exact ⟨⟨[block], by simp, rfl, by simp [hnull]⟩, fun _ => hmemory⟩
  · rw [if_pos ⟨hnull, hfree⟩]
    have hback : [block].filter (fun b => decide (b ≠ 0)) = [block] :=
      List.filter_cons_of_pos (decide_eq_true hnull)
    exact ⟨⟨[block], by simp, rfl, by rw [hback, if_neg hstatus]; rfl⟩, fun _ => hmemory⟩

theorem blockRefused_ne_ok {c : Context} {status : Status}
    (h : blockRefused c block = some status) : status ≠ .ok := by
  rintro rfl
  unfold blockRefused at h
  repeat' split at h
  all_goals cases h

theorem registerFirst_attempt (s : Machine) (table callback block : Word) (h : first = limit) :
    Attempt s first limit block (registerFirst s table callback block) := by
  unfold registerFirst
  split
  · exact Attempt.refused _
  rename_i hallocator
  have hfree : s.context.free = true := by
    by_contra hfree
    exact hallocator (Or.inr hfree)
  dsimp only
  split
  · rename_i status hrefused
    exact Attempt.givenBack status (blockRefused_ne_ok hrefused) hfree rfl (Or.inl rfl)
  rename_i htaken
  have hfacts : BlockFacts s.context block := BlockFacts.of_blockRefused htaken
  unfold fillBlock
  dsimp only
  split
  · exact Attempt.givenBack _ (by decide) hfree rfl (Or.inl rfl)
  · obtain ⟨memory, hwithin, hfill⟩ := filled { s with obtained := block :: s.obtained } block
      (encode { s with obtained := block :: s.obtained } callback)
    rw [hfill]
    split
    · exact Attempt.givenBack _ (by decide) hfree rfl (Or.inr ⟨h, hfacts, hwithin⟩)
    · exact ⟨⟨[block], by simp, rfl, rfl⟩, fun hok => absurd rfl hok⟩

theorem storeSlot_attempt (s : Machine) (table first last limit a b c d : Word) :
    Attempt s first limit block (storeSlot s table first last limit a b c d) := by
  unfold storeSlot
  dsimp only
  split
  · exact ⟨⟨[], by simp, rfl, rfl⟩, fun _ => Or.inl (restored s table last a b c d)⟩
  · exact ⟨⟨[], by simp, rfl, rfl⟩, fun hok => absurd rfl hok⟩

theorem registerNext_attempt (s : Machine) (table callback first last limit : Word) :
    Attempt s first limit block (registerNext s table callback first last limit) := by
  unfold registerNext
  dsimp only
  repeat' split
  all_goals first
    | exact Attempt.refused _
    | exact storeSlot_attempt s table first last limit _ _ _ _

theorem registerStorage_attempt (s : Machine) (table callback block first last limit : Word) :
    Attempt s first limit block (registerStorage s table callback block first last limit) := by
  unfold registerStorage
  split
  · exact Attempt.refused _
  rename_i hmixed
  split
  · rename_i hfirst
    -- a table without storage has no end either
    have hlimit : limit = 0 := by
      by_contra hlimit
      exact hmixed ⟨Or.inl hfirst, fun hall => hlimit hall.2.2⟩
    exact registerFirst_attempt s table callback block (hfirst.trans hlimit.symm)
  split
  · exact Attempt.refused _
  · exact registerNext_attempt s table callback first last limit

theorem registerCallback_attempt (s : Machine) (table callback block first last limit : Word) :
    Attempt s first limit block (registerCallback s table callback block first last limit) := by
  unfold registerCallback
  repeat' split
  all_goals first
    | exact Attempt.refused _
    | exact registerStorage_attempt s table callback block first last limit

theorem registerKnown_attempt (s : Machine) (table callback block : Word) :
    Attempt s (decode s (tableFirst s table)) (decode s (tableEnd s table)) block
      (registerKnown s table callback block) := by
  unfold registerKnown
  dsimp only
  repeat' split
  all_goals first
    | exact Attempt.refused _
    | exact registerCallback_attempt s table callback block _ _ _

/-! ## The table and the block -/

/-- A block that is in no region shares no byte with a table that is in one. -/
theorem block_apart_table {c : Context} {region : MemoryRegion} (h : BlockFacts c block)
    (hfits : ¬ table > uintptrMax - tableBytes)
    (hfind : findRange c table (table + tableBytes) true false = some region) :
    Apart block 256 table 24 := by
  have htable : table.toNat + 24 < 2 ^ 64 := by
    have hmax : (uintptrMax - tableBytes).toNat = 2 ^ 64 - 1 - 24 := by decide
    rw [gt_iff_lt, BitVec.lt_def, hmax] at hfits
    omega
  have hend : (table + tableBytes).toNat = table.toNat + 24 := by
    rw [BitVec.toNat_add]
    exact Nat.mod_eq_of_lt htable
  have hblock := h.fits
  have hlimit := h.limit_toNat
  intro i hi j hj heq
  have hsum := congrArg BitVec.toNat heq
  simp only [up, BitVec.toNat_add, BitVec.toNat_ofNat] at hsum
  have hnone : findRange c table (table + tableBytes) true false = none :=
    h.not_findRange (by rw [BitVec.lt_def]; omega) (by rw [BitVec.lt_def]; omega) true false
  rw [hnone] at hfind
  cases hfind

/-- Words of the table when only the block was written. -/
theorem load_of_within {s' : Machine} (hwithin : Within s.memory s'.memory block 256)
    (hapart : Apart block 256 table 24) {d : Nat} (hd : d + 8 ≤ 24) :
    load s' (up table d) = load s (up table d) := by
  have hbytes : SameBytes s.memory s'.memory table 0 24 :=
    hwithin.sameBytes (by rwa [up_zero])
  exact hbytes.read (Nat.zero_le d) hd (by decide)

/-- The words of a table and of the storage that it decodes to. -/
structure Unchanged (s s' : Machine) (table : Word) : Prop where
  first : tableFirst s' table = tableFirst s table
  last : tableLast s' table = tableLast s table
  limit : tableEnd s' table = tableEnd s table
  slots : ∀ k < (decode s (tableEnd s table) - decode s (tableFirst s table)).toNat / 8,
    load s' (slotAddress (decode s (tableFirst s table)) k) =
      load s (slotAddress (decode s (tableFirst s table)) k)

theorem Unchanged.of_memory {s' : Machine} (h : s'.memory = s.memory) :
    Unchanged s s' table := by
  have hload : ∀ a, load s' a = load s a := fun a => by rw [load, load, h]
  exact ⟨hload _, hload _, hload _, fun _ _ => hload _⟩

theorem registerChecked_attempt (s : Machine) (table callback block : Word) :
    Accounts s (registerChecked s table callback block) ∧
    ((registerChecked s table callback block).1 ≠ .ok →
      Unchanged s (registerChecked s table callback block).2 table) := by
  have hrefused : ∀ status : Status,
      Accounts s (status, s) ∧ (status ≠ .ok → Unchanged s s table) :=
    fun _ => ⟨⟨[], by simp⟩, fun _ => Unchanged.of_memory rfl⟩
  unfold registerChecked
  split
  · exact hrefused _
  split
  · exact hrefused _
  split
  · exact hrefused _
  split
  · exact hrefused _
  rename_i hfits
  split
  · exact hrefused _
  rename_i region hfind
  split
  · exact hrefused _
  have hattempt := registerKnown_attempt s table callback block
  refine ⟨hattempt.accounts, fun hfailed => ?_⟩
  rcases hattempt.kept hfailed with hmemory | ⟨hempty, hfacts, hwithin⟩
  · exact Unchanged.of_memory hmemory
  · have hapart := block_apart_table hfacts hfits hfind
    have hfirst := load_of_within hwithin hapart (d := 0) (by decide)
    rw [up_zero] at hfirst
    refine ⟨hfirst, load_of_within hwithin hapart (d := 8) (by decide),
      load_of_within hwithin hapart (d := 16) (by decide), fun k hk => ?_⟩
    rw [← hempty, BitVec.sub_self] at hk
    exact absurd hk (Nat.not_lt_zero k)

/-- Whatever the context, the table, the callback and the answer of the allocator: a
registration that fails leaves the three words of the table and all slots, and gives back
the block that it got, once. One that succeeds gives back nothing. -/
theorem failed_registration_leaves_no_trace (s : Machine) (table callback block : Word) :
    ((registerChecked s table callback block).1 ≠ .ok →
      Unchanged s (registerChecked s table callback block).2 table) ∧
    ∃ got : List Word, got.length ≤ 1 ∧
      (registerChecked s table callback block).2.obtained = got ++ s.obtained ∧
      (registerChecked s table callback block).2.released =
        (if (registerChecked s table callback block).1 = .ok then []
          else got.filter fun b => decide (b ≠ 0)) ++ s.released := by
  obtain ⟨haccounts, hkept⟩ := registerChecked_attempt s table callback block
  exact ⟨hkept, haccounts⟩

/-! ## The same over words

`CrtOnexit` has a memory of words and a fixed cookie. With a cookie that has no address and an
aligned table, both models answer the same and leave the same words. -/

/-- The word memory holds what the bytes read as at each aligned address. -/
structure Agrees (s : Machine) (t : State) : Prop where
  encodedNullAddress : s.encodedNullAddress = 0
  cookie : t.cookie = s.encodedNull
  context : t.context = s.context
  contextValid : t.contextValid = s.contextValid
  memory : ∀ a : Word, a.toNat % 8 = 0 → t.memory a = load s a
  released : t.released = s.released

/-- Both models answer with the same status, in states that agree. -/
def SameAnswer (out : Status × Machine) (out' : Report × State) : Prop :=
  out'.1.status = out.1 ∧ Agrees out.2 out'.2

variable {t : State} {r : Report}

theorem Agrees.getEncodedNull (h : Agrees s t) : getEncodedNull s = t.cookie := by
  rw [OnexitMemory.getEncodedNull, if_neg (not_not_intro h.encodedNullAddress), h.cookie]

theorem Agrees.encode (h : Agrees s t) (pointer : Word) :
    encode s pointer = encodePointer t.cookie pointer := by
  rw [OnexitMemory.encode, h.getEncodedNull]

theorem Agrees.decode (h : Agrees s t) (pointer : Word) :
    decode s pointer = decodePointer t.cookie pointer := by
  rw [OnexitMemory.decode, h.getEncodedNull]

theorem Agrees.pointerMatches (h : Agrees s t) (encoded decoded : Word) :
    pointerMatches s encoded decoded = encodedPointerMatches t.cookie encoded decoded := by
  rw [OnexitMemory.pointerMatches, h.getEncodedNull]

/-- Two words at different aligned addresses share no byte. -/
theorem aligned_apart {a b : Word} (ha : a.toNat % 8 = 0) (hb : b.toNat % 8 = 0) (hne : a ≠ b) :
    Apart a 8 b 8 := by
  intro i hi j hj heq
  have hsum := congrArg BitVec.toNat heq
  simp only [up, BitVec.toNat_add, BitVec.toNat_ofNat] at hsum
  exact hne (BitVec.eq_of_toNat_eq (by omega))

theorem aligned_add {a : Word} (ha : a.toNat % 8 = 0) (d : Nat) :
    (a + BitVec.ofNat 64 (8 * d)).toNat % 8 = 0 := by
  rw [BitVec.toNat_add, BitVec.toNat_ofNat]
  omega

theorem Agrees.store (h : Agrees s t) {a : Word} (ha : a.toNat % 8 = 0) (v : Word) :
    Agrees (store s a v) { t with memory := Function.update t.memory a v } := by
  refine ⟨h.encodedNullAddress, h.cookie, h.context, h.contextValid, fun b hb => ?_, h.released⟩
  change Function.update t.memory a v b = read (write s.memory a v) b 64
  by_cases heq : b = a
  · subst heq
    rw [Function.update_self, read_write_same _ _ _ (by decide) (by decide)]
  · rw [Function.update_of_ne heq, h.memory b hb,
      read_write_apart _ _ (by decide) (aligned_apart ha hb (Ne.symm heq))]
    rfl

theorem Agrees.storeTable (h : Agrees s t) (htable : table.toNat % 8 = 0)
    (first last limit : Word) :
    Agrees (storeTable s table first last limit) (writeTable t table first last limit) :=
  ((h.store htable first).store (aligned_add htable 1) last).store (aligned_add htable 2) limit

theorem Agrees.fillSlots (h : Agrees s t) (hblock : block.toNat % 8 = 0) (v : Word) :
    Agrees (OnexitMemory.store (fillSlots s block) block v) (CrtOnexit.fillSlots t block v) := by
  have hslots : ∀ indices : List Nat, ∀ s memory, Agrees s { t with memory } →
      Agrees
        (indices.foldl (fun s index => OnexitMemory.store s (slotAddress block index)
          (OnexitMemory.getEncodedNull s)) s)
        { t with
          memory := indices.foldl (fun memory index =>
            Function.update memory (slotAddress block index) t.cookie) memory } := by
    intro indices
    induction indices with
    | nil => exact fun _ _ h => h
    | cons index rest ih =>
      intro s memory h
      rw [List.foldl_cons, List.foldl_cons, h.getEncodedNull]
      exact ih _ _ (h.store (aligned_add hblock index) t.cookie)
  exact (hslots _ s t.memory h).store hblock v

theorem Agrees.tables (h : Agrees s t) (htable : table.toNat % 8 = 0) :
    tableFirst s table = CrtOnexit.tableFirst t table ∧
    tableLast s table = CrtOnexit.tableLast t table ∧
    tableEnd s table = CrtOnexit.tableEnd t table :=
  ⟨(h.memory table htable).symm, (h.memory _ (aligned_add htable 1)).symm,
    (h.memory _ (aligned_add htable 2)).symm⟩

theorem SameAnswer.fail (h : Agrees s t) (r : Report) (status : Status) :
    SameAnswer (status, s) (CrtOnexit.fail t r status) := ⟨rfl, h⟩

theorem SameAnswer.ite {p : Prop} [Decidable p] {x y : Status × Machine} {x' y' : Report × State}
    (hyes : p → SameAnswer x x') (hno : ¬ p → SameAnswer y y') :
    SameAnswer (if p then x else y) (if p then x' else y') := by
  split
  · rename_i h
    exact hyes h
  · rename_i h
    exact hno h

theorem SameAnswer.releaseAllocation (h : Agrees s t) (block : Word) (r : Report)
    (status : Status) :
    SameAnswer (releaseAllocation s block status)
      (CrtOnexit.releaseAllocation t block r status) := by
  refine ⟨rfl, ?_⟩
  by_cases hback : block ≠ 0 ∧ s.context.free = true
  · have hback' : block ≠ 0 ∧ t.context.free = true := by rwa [h.context]
    rw [OnexitMemory.releaseAllocation, CrtOnexit.releaseAllocation, if_pos hback, if_pos hback']
    exact ⟨h.encodedNullAddress, h.cookie, h.context, h.contextValid, h.memory,
      congrArg (block :: ·) h.released⟩
  · have hback' : ¬ (block ≠ 0 ∧ t.context.free = true) := by rwa [h.context]
    rw [OnexitMemory.releaseAllocation, CrtOnexit.releaseAllocation, if_neg hback, if_neg hback']
    exact h

/-- A block that passed its checks is aligned, and so are the words of a storage that did. -/
theorem aligned_of_blockRefused {c : Context} (h : blockRefused c block = none) :
    block.toNat % 8 = 0 := by
  unfold blockRefused at h
  grind

theorem aligned_of_storageRefused {c : Context} (h : storageRefused c first last limit = none) :
    last.toNat % 8 = 0 := by
  unfold storageRefused at h
  grind

theorem registerFirst_agrees (h : Agrees s t) (htable : table.toNat % 8 = 0) (r : Report)
    (callback block : Word) :
    SameAnswer (registerFirst s table callback block)
      (CrtOnexit.registerFirst t r table callback block) := by
  unfold OnexitMemory.registerFirst CrtOnexit.registerFirst
  rw [h.context]
  dsimp only
  refine SameAnswer.ite (fun _ => SameAnswer.fail h _ _) fun _ => ?_
  have h : Agrees { s with obtained := block :: s.obtained } t :=
    ⟨h.encodedNullAddress, h.cookie, h.context, h.contextValid, h.memory, h.released⟩
  revert h
  generalize { s with obtained := block :: s.obtained } = s1
  intro h
  cases hrefused : blockRefused s.context block with
  | some status => exact SameAnswer.releaseAllocation h block _ status
  | none =>
    have hblock := aligned_of_blockRefused hrefused
    have hfill := h.fillSlots hblock (encodePointer t.cookie callback)
    have hunused : (List.range' 1 (initialStorageSlots - 1)).all (fun index =>
          pointerMatches (store (fillSlots s1 block) block (encodePointer t.cookie callback))
            (load (store (fillSlots s1 block) block (encodePointer t.cookie callback))
              (slotAddress block index)) 0) =
        (List.range' 1 (initialStorageSlots - 1)).all (fun index =>
          encodedPointerMatches (CrtOnexit.fillSlots t block (encodePointer t.cookie callback)).cookie
            ((CrtOnexit.fillSlots t block (encodePointer t.cookie callback)).memory
              (slotAddress block index)) 0) := by
      congr 1
      funext index
      have hslot : (slotAddress block index).toNat % 8 = 0 := aligned_add hblock index
      rw [hfill.pointerMatches, hfill.memory _ hslot]
    unfold fillBlock
    dsimp only
    simp only [h.encode, h.pointerMatches]
    refine SameAnswer.ite (fun _ => SameAnswer.releaseAllocation h block _ _) fun _ => ?_
    rw [hunused, hfill.pointerMatches, ← hfill.memory block hblock]
    refine SameAnswer.ite (fun _ => SameAnswer.releaseAllocation hfill block _ _) fun _ => ?_
    exact ⟨rfl, hfill.storeTable htable _ _ _⟩

theorem registerNext_agrees (h : Agrees s t) (htable : table.toNat % 8 = 0)
    (hlast : last.toNat % 8 = 0) (r : Report) (callback first limit : Word)
    (used capacity : Nat) :
    SameAnswer (registerNext s table callback first last limit)
      (CrtOnexit.registerNext t r table callback first last limit used capacity) := by
  unfold OnexitMemory.registerNext CrtOnexit.registerNext
  dsimp only
  simp only [h.encode, h.pointerMatches]
  refine SameAnswer.ite (fun _ => SameAnswer.fail h _ _) fun _ => ?_
  refine SameAnswer.ite (fun _ => SameAnswer.fail h _ _) fun _ => ?_
  refine SameAnswer.ite (fun _ => SameAnswer.fail h _ _) fun _ => ?_
  refine SameAnswer.ite (fun _ => SameAnswer.fail h _ _) fun _ => ?_
  refine SameAnswer.ite (fun _ => SameAnswer.fail h _ _) fun _ => ?_
  obtain ⟨hfirst, hlastWord, hlimit⟩ := h.tables htable
  have hdone := (h.store hlast (encodePointer t.cookie callback)).storeTable htable
    (encodePointer t.cookie first) (encodePointer t.cookie (last + 8)) (encodePointer t.cookie limit)
  obtain ⟨hfirst', hlast', hlimit'⟩ := hdone.tables htable
  unfold storeSlot
  dsimp only
  rw [hfirst', hlast', hlimit', hdone.decode, hdone.decode, hdone.decode, ← hdone.memory last hlast,
    hfirst, hlastWord, hlimit, ← h.memory last hlast]
  refine SameAnswer.ite (fun _ => ⟨rfl, ?_⟩) fun _ => ⟨rfl, hdone⟩
  exact (hdone.store hlast (t.memory last)).storeTable htable _ _ _

theorem registerStorage_agrees (h : Agrees s t) (htable : table.toNat % 8 = 0) (r : Report)
    (callback block first last limit : Word) :
    SameAnswer (registerStorage s table callback block first last limit)
      (CrtOnexit.registerStorage t r table callback block first last limit) := by
  unfold OnexitMemory.registerStorage CrtOnexit.registerStorage
  rw [h.context]
  refine SameAnswer.ite (fun _ => SameAnswer.fail h _ _) fun _ => ?_
  refine SameAnswer.ite (fun _ => registerFirst_agrees h htable _ _ _) fun _ => ?_
  cases hrefused : storageRefused s.context first last limit with
  | some status => exact SameAnswer.fail h _ _
  | none =>
    exact registerNext_agrees h htable (aligned_of_storageRefused hrefused) _ _ _ _ _ _

theorem registerCallback_agrees (h : Agrees s t) (htable : table.toNat % 8 = 0) (r : Report)
    (callback block first last limit : Word) :
    SameAnswer (registerCallback s table callback block first last limit)
      (CrtOnexit.registerCallback t r table callback block first last limit) := by
  unfold OnexitMemory.registerCallback CrtOnexit.registerCallback
  rw [h.context]
  refine SameAnswer.ite (fun _ => registerStorage_agrees h htable _ _ _ _ _ _) fun _ => ?_
  refine SameAnswer.ite (fun _ => SameAnswer.fail h _ _) fun _ => ?_
  cases findAddress s.context callback true with
  | none => exact SameAnswer.fail h _ _
  | some region => exact registerStorage_agrees h htable _ _ _ _ _ _

theorem registerDecoded_agrees (h : Agrees s t) (htable : table.toNat % 8 = 0) (r : Report)
    (callback block : Word) :
    SameAnswer
      (if ¬ pointerMatches s (getEncodedNull s) 0 then (.encodingUnavailable, s)
        else registerCallback s table callback block (decode s (tableFirst s table))
          (decode s (tableLast s table)) (decode s (tableEnd s table)))
      (CrtOnexit.registerDecoded t r table callback block) := by
  obtain ⟨hfirst, hlast, hlimit⟩ := h.tables htable
  unfold CrtOnexit.registerDecoded
  dsimp only
  rw [h.pointerMatches, h.getEncodedNull, hfirst, hlast, hlimit, h.decode, h.decode, h.decode]
  exact SameAnswer.ite (fun _ => SameAnswer.fail h _ _)
    fun _ => registerCallback_agrees h htable _ _ _ _ _ _

theorem registerKnown_agrees (h : Agrees s t) (htable : table.toNat % 8 = 0) (r : Report)
    (callback block : Word) :
    SameAnswer (registerKnown s table callback block)
      (CrtOnexit.registerKnown t r table callback block) := by
  unfold OnexitMemory.registerKnown CrtOnexit.registerKnown
  rw [h.context]
  dsimp only
  cases hfind : s.context.initializedTables.findIdx? (fun known => decide (known = table)) with
  | some index =>
    have hknown : table ∈ s.context.initializedTables := by
      obtain ⟨hlt, heq, -⟩ := List.findIdx?_eq_some_iff_getElem.mp hfind
      rw [← of_decide_eq_true heq]
      exact List.getElem_mem hlt
    rw [if_neg fun hno => hno.2 hknown]
    exact registerDecoded_agrees h htable _ _ _
  | none =>
    have hunknown : table ∉ s.context.initializedTables := by
      intro hmem
      have hno := List.findIdx?_eq_none_iff.mp hfind table hmem
      exact of_decide_eq_false hno rfl
    simp only [hunknown, not_false_eq_true, and_true]
    exact SameAnswer.ite (fun _ => SameAnswer.fail h _ _)
      fun _ => registerDecoded_agrees h htable _ _ _

/-- The registration over bytes and the one over words are the same where both apply. -/
theorem registerChecked_agrees (h : Agrees s t) (htable : table.toNat % 8 = 0)
    (callback block : Word) :
    SameAnswer (registerChecked s table callback block)
      (CrtOnexit.registerChecked t table callback block) := by
  unfold OnexitMemory.registerChecked CrtOnexit.registerChecked
  rw [h.getEncodedNull, h.context, h.contextValid]
  dsimp only
  refine SameAnswer.ite (fun _ => SameAnswer.fail h _ _) fun _ => ?_
  refine SameAnswer.ite (fun _ => SameAnswer.fail h _ _) fun _ => ?_
  refine SameAnswer.ite (fun _ => SameAnswer.fail h _ _) fun _ => ?_
  refine SameAnswer.ite (fun _ => SameAnswer.fail h _ _) fun _ => ?_
  cases findRange s.context table (table + tableBytes) true false with
  | none => exact SameAnswer.fail h _ _
  | some region =>
    exact SameAnswer.ite (fun _ => SameAnswer.fail h _ _)
      fun _ => registerKnown_agrees h htable _ _ _

end Gate4Harness.OnexitMemory
