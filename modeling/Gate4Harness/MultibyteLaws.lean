-- A conversion succeeds exactly on the encoding of a text whose units fit, and then the
-- destination holds the units. Whatever fails returns 0 and leaves the memory as it was.
import Gate4Harness.MultibytePasses
import Gate4Harness.MultibyteRanges

namespace Gate4Harness.Multibyte

variable {memory : MemoryContext} {m : Memory} {call : MultibyteCall} {report : MultibyteReport}
  {n bytes : Nat} {scalars : List Char}

/-! ## What is accepted -/

/-- The source has `n` bytes: the given number of them, or those up to and with the first
terminator. -/
inductive SourceLength (memory : MemoryContext) (m : Memory) (call : MultibyteCall) (n : Nat) :
    Prop
  | counted (hpos : 0 < call.cbMultiByte) (hcount : (n : Int) = call.cbMultiByte)
      (hcovered : Covered memory false call.source n)
  | terminated (hcount : call.cbMultiByte = -1) (hpresent : call.source ≠ 0)
      (hcanonical : canonicalAddress call.source = true)
      (hends : Terminated memory m call.source 0 n) (hscan : n ≤ maxNulScan)

/-- The destination is left out, or has place for a number of units that may be written. -/
def DestinationAccepted (memory : MemoryContext) (call : MultibyteCall) : Prop :=
  call.destination = 0 ∧ call.cchWideChar = 0 ∨
  0 < call.cchWideChar ∧ Covered memory true call.destination (call.cchWideChar.toNat * 2)

/-- The code page, the flags and the ranges of a call, with a source of `n` bytes. -/
structure Accepted (memory : MemoryContext) (m : Memory) (call : MultibyteCall) (n : Nat) :
    Prop where
  lastError : call.hasLastError = true
  codePage : call.codePage = cpUtf8
  flags : call.flags = 0 ∨ call.flags = mbErrInvalidChars
  source : SourceLength memory m call n
  destination : DestinationAccepted memory call
  apart : call.destination ≠ 0 → call.source + n ≤ call.destination ∨
    call.destination + 2 * call.cchWideChar.toNat ≤ call.source

theorem SourceLength.pos (h : SourceLength memory m call n) : 0 < n := by
  cases h with
  | counted hpos hcount hcovered => omega
  | terminated hcount hpresent hcanonical hends hscan => exact hends.past

theorem SourceLength.bounded (h : SourceLength memory m call n) :
    call.source + n ≤ uintptrMax := by
  cases h with
  | counted hpos hcount hcovered => exact hcovered.bounded
  | terminated hcount hpresent hcanonical hends hscan =>
    have hpast := hends.past
    have := (hends.readable (n - 1) (Nat.zero_le _) (by omega)).bounded
    omega

theorem sourceByteRange_eq_ok_iff (hapart : RegionsApart memory)
    (hcount : ¬ (call.cbMultiByte = 0 ∨ call.cbMultiByte < -1)) :
    (∃ n', sourceByteRange memory m call.source call.cbMultiByte = .ok (n, n')) ↔
      SourceLength memory m call n := by
  unfold sourceByteRange
  split
  · rename_i hnull
    refine iff_of_false (by simp) fun h => ?_
    cases h with
    | counted hpos hcount hcovered => exact hcovered.present hnull
    | terminated hcount hpresent hcanonical hends hscan => exact hpresent hnull
  · rename_i hpresent
    split
    · rename_i hbad
      refine iff_of_false (by simp) fun h => hbad ?_
      cases h with
      | counted hpos hcount hcovered => exact hcovered.canonical
      | terminated hcount hpresent hcanonical hends hscan => exact hcanonical
    · rename_i hcanonical
      split
      · rename_i hpos
        have hcovered : rangeCovered memory call.source call.cbMultiByte.toNat false
            sourceStatuses = .ok ↔ Covered memory false call.source call.cbMultiByte.toNat :=
          rangeCovered_eq_ok_iff hapart.disjoint sourceStatuses_fail (by omega)
        split
        · rename_i hok
          constructor
          · rintro ⟨n', h⟩
            cases h
            exact .counted hpos (by omega) (hcovered.mp hok)
          · intro h
            cases h with
            | counted hpos' hcount' hcovered' =>
              obtain rfl : n = call.cbMultiByte.toNat := by omega
              exact ⟨_, rfl⟩
            | terminated hcount' => omega
        · rename_i status hstatus
          refine iff_of_false (by simp) fun h => ?_
          cases h with
          | counted hpos' hcount' hcovered' =>
            obtain rfl : n = call.cbMultiByte.toNat := by omega
            exact hstatus (hcovered.mpr hcovered')
          | terminated hcount' => omega
      · rename_i hpos
        constructor
        · rintro ⟨n', h⟩
          obtain ⟨hends, hle, -⟩ := (scanNul_eq_ok_iff hapart).mp h
          exact .terminated (by omega) hpresent (Decidable.not_not.mp hcanonical) hends (by omega)
        · intro h
          cases h with
          | counted hpos' => exact absurd hpos' hpos
          | terminated hcount' hpresent' hcanonical' hends hscan =>
            exact ⟨n - 1, (scanNul_eq_ok_iff hapart).mpr ⟨hends, by omega, rfl⟩⟩

theorem destinationByteRange_eq_ok_iff (hapart : RegionsApart memory) :
    destinationByteRange memory call = .ok bytes ↔
      DestinationAccepted memory call ∧ bytes = call.cchWideChar.toNat * 2 := by
  unfold destinationByteRange DestinationAccepted
  split
  · rename_i hnull
    split
    · rename_i hcount
      refine iff_of_false (by simp) fun h => ?_
      obtain h | h := h.1
      · exact hcount h.2
      · exact h.2.present hnull
    · rename_i hcount
      have hzero : call.cchWideChar = 0 := Decidable.not_not.mp hcount
      rw [hzero]
      constructor
      · intro h
        cases h
        exact ⟨Or.inl ⟨hnull, rfl⟩, rfl⟩
      · rintro ⟨-, rfl⟩
        rfl
  · rename_i hpresent
    split
    · rename_i hcount
      refine iff_of_false (by simp) fun h => ?_
      obtain h | h := h.1
      · exact hpresent h.1
      · omega
    · rename_i hcount
      have hcovered : rangeCovered memory call.destination (call.cchWideChar.toNat * 2) true
          destinationStatuses = .ok ↔
            Covered memory true call.destination (call.cchWideChar.toNat * 2) :=
        rangeCovered_eq_ok_iff hapart.disjoint destinationStatuses_fail (by omega)
      split
      · rename_i hok
        constructor
        · intro h
          cases h
          exact ⟨Or.inr ⟨by omega, hcovered.mp hok⟩, rfl⟩
        · rintro ⟨-, rfl⟩
          rfl
      · rename_i status hstatus
        refine iff_of_false (by simp) fun h => ?_
        obtain h | h := h.1
        · exact hpresent h.1
        · exact hstatus (hcovered.mpr h.2)

/-- Ranges that do not go past the end of memory overlap when they have a byte in common. -/
theorem rangesOverlap_eq_false_iff {left leftLength right rightLength : Nat}
    (hleft : left + leftLength ≤ uintptrMax) (hright : right + rightLength ≤ uintptrMax)
    (hsome : leftLength ≠ 0 ∧ rightLength ≠ 0) :
    ¬ rangesOverlap left leftLength right rightLength = true ↔
      left + leftLength ≤ right ∨ right + rightLength ≤ left := by
  unfold rangesOverlap
  rw [if_neg (by omega), if_neg (by omega)]
  simp only [Bool.and_eq_true, decide_eq_true_eq]
  omega

theorem scanNul_error {turns index base : Nat} {status : MultibyteStatus}
    (h : scanNul memory m base turns index = .error status) : status ≠ .ok := by
  induction turns generalizing index with
  | zero =>
    cases h
    decide
  | succ turns ih =>
    unfold scanNul at h
    split at h
    · cases h
      decide
    · dsimp only at h
      split at h
      · split at h
        · cases h
        · exact ih h
      · rename_i hstatus
        cases h
        exact hstatus

theorem sourceByteRange_error {source : Nat} {cbMultiByte : Int} {status : MultibyteStatus}
    (h : sourceByteRange memory m source cbMultiByte = .error status) : status ≠ .ok := by
  unfold sourceByteRange at h
  split at h
  · cases h
    decide
  · split at h
    · cases h
      decide
    · split at h
      · split at h
        · cases h
        · rename_i hstatus
          cases h
          exact hstatus
      · exact scanNul_error h

theorem requiredUnits_error {source sourceLength turns offset required : Nat}
    {status : MultibyteStatus}
    (h : requiredUnits m source sourceLength turns offset required = .error status) :
    status ≠ .ok := by
  induction turns generalizing offset required with
  | zero => cases h
  | succ turns ih =>
    unfold requiredUnits at h
    split at h
    · cases h
    · split at h
      · cases h
        decide
      · rename_i codePoint consumed hdecode
        dsimp only at h
        obtain ⟨c, rfl, -⟩ := decodeOne_iff.mp hdecode
        rw [units_of_char] at h
        split at h
        · cases h
          decide
        · exact ih h

theorem destinationByteRange_error {status : MultibyteStatus}
    (h : destinationByteRange memory call = .error status) : status ≠ .ok := by
  unfold destinationByteRange at h
  split at h
  · split at h
    · cases h
      decide
    · cases h
  · split at h
    · cases h
      decide
    · split at h
      · cases h
      · rename_i hstatus
        cases h
        exact hstatus

/-! ## One call -/

/-- What is returned where nothing was done. -/
structure Failed (m : Memory) (outcome : MultibyteOutcome) : Prop where
  result : outcome.result = 0
  memory : outcome.memory = m
  status : outcome.report.status ≠ .ok

theorem failed_failResult {error : Nat} {status : MultibyteStatus} (h : status ≠ .ok) :
    Failed m (failResult report m error status) :=
  ⟨rfl, rfl, h⟩

theorem SourceLength.count (h : SourceLength memory m call n) :
    ¬ (call.cbMultiByte = 0 ∨ call.cbMultiByte < -1) := by
  cases h with
  | counted hpos hcount hcovered => omega
  | terminated hcount hpresent hcanonical hends hscan => omega

theorem SourceLength.unique {n' : Nat} (hapart : RegionsApart memory)
    (h : SourceLength memory m call n) (h' : SourceLength memory m call n') : n = n' := by
  obtain ⟨_, hn⟩ := (sourceByteRange_eq_ok_iff hapart h.count).mpr h
  obtain ⟨_, hn'⟩ := (sourceByteRange_eq_ok_iff hapart h.count).mpr h'
  rw [hn] at hn'
  cases hn'
  rfl

/-- A call fails, or converts an accepted source. -/
theorem multibyteToWideCharChecked_cases (hapart : RegionsApart memory)
    (hvalid : contextValid memory = true) (m : Memory) (call : MultibyteCall) :
    (Failed m (multibyteToWideCharChecked memory m call) ∧ ∀ n, ¬ Accepted memory m call n) ∨
    ∃ n report bytes, Accepted memory m call n ∧
      multibyteToWideCharChecked memory m call = convertAccepted m call report n bytes := by
  unfold multibyteToWideCharChecked
  dsimp only
  split
  · rename_i hno
    exact Or.inl ⟨⟨rfl, rfl, fun h => nomatch h⟩, fun n h => hno h.lastError⟩
  · rename_i hlast
    split
    · rename_i hpage
      exact Or.inl ⟨failed_failResult (by decide), fun n h => hpage h.codePage⟩
    · rename_i hpage
      split
      · rename_i hflags
        exact Or.inl ⟨failed_failResult (by decide), fun n h => by
          obtain h0 | h8 := h.flags
          · exact hflags.1 h0
          · exact hflags.2 h8⟩
      · rename_i hflags
        split
        · rename_i hcount
          exact Or.inl ⟨failed_failResult (by decide), fun n h => h.source.count hcount⟩
        · rename_i hcount
          split
          · rename_i status hdestination
            refine Or.inl ⟨failed_failResult (destinationByteRange_error hdestination),
              fun n h => ?_⟩
            rw [(destinationByteRange_eq_ok_iff hapart).mpr ⟨h.destination, rfl⟩] at hdestination
            cases hdestination
          · rename_i bytes hdestination
            obtain ⟨hto, rfl⟩ := (destinationByteRange_eq_ok_iff hapart).mp hdestination
            split
            · rename_i status hsource
              refine Or.inl ⟨failed_failResult (sourceByteRange_error hsource), fun n h => ?_⟩
              obtain ⟨n', hn⟩ := (sourceByteRange_eq_ok_iff hapart hcount).mpr h.source
              rw [hn] at hsource
              cases hsource
            · rename_i sourceLength without hsource
              have hfrom := (sourceByteRange_eq_ok_iff hapart hcount).mp ⟨_, hsource⟩
              have happart : call.destination ≠ 0 →
                  (¬ rangesOverlap call.source sourceLength call.destination
                    (call.cchWideChar.toNat * 2) = true ↔
                  call.source + sourceLength ≤ call.destination ∨
                    call.destination + 2 * call.cchWideChar.toNat ≤ call.source) := by
                intro hpresent
                obtain h | ⟨hpos, hcovered⟩ := hto
                · exact absurd h.1 hpresent
                · have hlength := hfrom.pos
                  rw [rangesOverlap_eq_false_iff hfrom.bounded hcovered.bounded
                    ⟨by omega, by omega⟩, Nat.mul_comm 2]
              split
              · rename_i hoverlap
                refine Or.inl ⟨failed_failResult (by decide), fun n h => ?_⟩
                obtain rfl := h.source.unique hapart hfrom
                exact (happart hoverlap.1).mpr (h.apart hoverlap.1) hoverlap.2
              · rename_i hnone
                refine Or.inr ⟨sourceLength, _, _, ?_, rfl⟩
                exact
                  { lastError := Decidable.not_not.mp hlast, codePage := not_not.mp hpage
                    flags := by omega, source := hfrom, destination := hto
                    apart := fun hpresent =>
                      (happart hpresent).mp fun hover => hnone ⟨hpresent, hover⟩ }

/-- The units can be counted in 31 bits, and the destination has place for them. -/
def Fits (call : MultibyteCall) (units : Nat) : Prop :=
  units ≤ 2 ^ 31 - 1 ∧ (call.destination ≠ 0 → (units : Int) ≤ call.cchWideChar)

/-- Where the units of a text are put. -/
def converted (m : Memory) (call : MultibyteCall) (scalars : List Char) : Memory :=
  if call.destination = 0 then m else storeUnits m call.destination (Utf.encode16 scalars)

theorem left_of_text (h : bytesAt m call.source n = Utf.encode8 scalars) :
    Left m call.source n 0 scalars :=
  ⟨Nat.zero_le _, h⟩

theorem text_length (h : bytesAt m call.source n = Utf.encode8 scalars) :
    (Utf.encode16 scalars).length ≤ n := by
  have hlength := congrArg List.length h
  rw [bytesAt_length] at hlength
  rw [hlength]
  exact Utf.encode16_length_le

theorem requiredUnits_of_text (hn : n ≤ uintptrMax)
    (h : bytesAt m call.source n = Utf.encode8 scalars) :
    requiredUnits m call.source n n 0 0 = .ok (Utf.encode16 scalars).length := by
  have hlength := text_length h
  rw [requiredUnits_of_left (left_of_text h) (by omega) (by omega), Nat.zero_add]

theorem convertAccepted_fits (report : MultibyteReport) (bytes : Nat)
    (ha : Accepted memory m call n)
    (h : bytesAt m call.source n = Utf.encode8 scalars)
    (hfits : Fits call (Utf.encode16 scalars).length) :
    ∃ report', convertAccepted m call report n bytes =
      okResult report' (converted m call scalars) call.previousLastError
        (Utf.encode16 scalars).length := by
  have hbounded := ha.source.bounded
  unfold convertAccepted converted
  rw [requiredUnits_of_text (by omega) h]
  dsimp only
  rw [if_neg (by have := hfits.1; omega)]
  by_cases hsizing : call.destination = 0
  · rw [if_pos hsizing, if_pos hsizing]
    exact ⟨_, rfl⟩
  · rw [if_neg hsizing, if_neg hsizing]
    have hplace := hfits.2 hsizing
    have hpass : writeUnits call.source n call.destination n 0 0 m =
        (storeUnits m (call.destination + 2 * 0) (Utf.encode16 scalars),
          some (0 + (Utf.encode16 scalars).length)) :=
      writeUnits_of_left (left_of_text h) (Nat.sub_le n 0) fun p hlow hhigh => by
        obtain hbelow | habove := ha.apart hsizing
        · exact Or.inl (by omega)
        · exact Or.inr (by omega)
    rw [Nat.mul_zero, Nat.add_zero, Nat.zero_add] at hpass
    rw [if_neg (by omega), hpass]
    exact ⟨_, rfl⟩

/-- Where the code cannot convert the source, it leaves the memory alone. -/
theorem convertAccepted_fails (ha : Accepted memory m call n)
    (h : ¬ ∃ scalars, bytesAt m call.source n = Utf.encode8 scalars ∧
      Fits call (Utf.encode16 scalars).length) :
    Failed m (convertAccepted m call report n bytes) := by
  have hbounded := ha.source.bounded
  unfold convertAccepted
  split
  · exact failed_failResult (by decide)
  · rename_i status _ hrequired
    exact failed_failResult (requiredUnits_error hrequired)
  · rename_i required hrequired
    obtain ⟨scalars, hleft, rfl⟩ := requiredUnits_eq_ok (Nat.zero_le _) (Nat.sub_le n 0) hrequired
    have htext : bytesAt m call.source n = Utf.encode8 scalars := hleft.2
    dsimp only
    split
    · exact failed_failResult (by decide)
    · split
      · rename_i hsizing
        exact absurd ⟨scalars, htext, by omega, fun hpresent => absurd hsizing hpresent⟩ h
      · split
        · exact failed_failResult (by decide)
        · rename_i hplace
          exact absurd ⟨scalars, htext, by omega, fun hpresent => by
            obtain hnone | hsome := ha.destination
            · exact absurd hnone.1 hpresent
            · have := hsome.1
              omega⟩ h

/-- The same source, with no destination. -/
def MultibyteCall.sizing (call : MultibyteCall) : MultibyteCall :=
  { call with destination := 0, cchWideChar := 0 }

/-- What a conversion that succeeds leaves behind. -/
structure Converted (memory : MemoryContext) (m : Memory) (call : MultibyteCall)
    (scalars : List Char) (outcome : MultibyteOutcome) : Prop where
  status : outcome.report.status = .ok
  counted : outcome.result = (Utf.encode16 scalars).length
  sized : (multibyteToWideCharChecked memory m call.sizing).result = outcome.result
  written : call.destination ≠ 0 →
    unitsAt outcome.memory call.destination outcome.result = Utf.encode16 scalars
  untouched : ∀ p, call.destination = 0 ∨ p < call.destination ∨
    call.destination + 2 * outcome.result ≤ p → outcome.memory p = m p

theorem Accepted.sizing (h : Accepted memory m call n) : Accepted memory m call.sizing n :=
  { lastError := h.lastError
    codePage := h.codePage
    flags := h.flags
    source := by
      cases h.source with
      | counted hpos hcount hcovered => exact .counted hpos hcount hcovered
      | terminated hcount hpresent hcanonical hends hscan =>
        exact .terminated hcount hpresent hcanonical hends hscan
    destination := Or.inl ⟨rfl, rfl⟩
    apart := fun hpresent => absurd rfl hpresent }

theorem checked_of_accepted (hvalid : contextValid memory = true) (hapart : RegionsApart memory)
    (h : Accepted memory m call n) :
    ∃ report bytes,
      multibyteToWideCharChecked memory m call = convertAccepted m call report n bytes := by
  obtain ⟨-, hnone⟩ | ⟨n', report, bytes, h', hchecked⟩ :=
    multibyteToWideCharChecked_cases hapart hvalid m call
  · exact absurd h (hnone n)
  · obtain rfl := h.source.unique hapart h'.source
    exact ⟨report, bytes, hchecked⟩

theorem text_pos (hn : 0 < n) (h : bytesAt m call.source n = Utf.encode8 scalars) :
    0 < (Utf.encode16 scalars).length := by
  cases scalars with
  | nil =>
    have hlength := congrArg List.length h
    rw [bytesAt_length, Utf.encode8_nil, List.length_nil] at hlength
    omega
  | cons c rest =>
    rw [Utf.encode16_cons, List.length_append]
    have := Utf.utf16EncodeChar_pos c
    omega

theorem convertAccepted_converted (hvalid : contextValid memory = true)
    (hapart : RegionsApart memory) (ha : Accepted memory m call n)
    (h : bytesAt m call.source n = Utf.encode8 scalars)
    (hfits : Fits call (Utf.encode16 scalars).length) :
    Converted memory m call scalars (multibyteToWideCharChecked memory m call) := by
  obtain ⟨report, bytes, hchecked⟩ := checked_of_accepted hvalid hapart ha
  obtain ⟨report', hdone⟩ := convertAccepted_fits report bytes ha h hfits
  have hsized : (multibyteToWideCharChecked memory m call.sizing).result =
      (Utf.encode16 scalars).length := by
    obtain ⟨report₀, bytes₀, hchecked₀⟩ := checked_of_accepted hvalid hapart ha.sizing
    obtain ⟨report₁, hdone₁⟩ := convertAccepted_fits report₀ bytes₀ ha.sizing h
      ⟨hfits.1, fun hpresent => absurd rfl hpresent⟩
    rw [hchecked₀, hdone₁]
    rfl
  rw [hchecked, hdone]
  refine ⟨rfl, rfl, hsized, fun hpresent => ?_, fun p hp => ?_⟩
  · simp only [okResult, converted, if_neg hpresent]
    exact unitsAt_storeUnits fun unit hunit => unit_lt hunit
  · simp only [okResult, converted] at hp ⊢
    split
    · rfl
    · rename_i hpresent
      exact storeUnits_outside (hp.resolve_left hpresent)

/-- A conversion of an accepted source succeeds exactly when the source is a text that fits,
and stores the units of the text. What fails, on an accepted source or not, returns 0 and
changes no byte. -/
theorem conversion_is_standard (hvalid : contextValid memory = true)
    (hapart : RegionsApart memory) (m : Memory) (call : MultibyteCall) :
    (∀ n, Accepted memory m call n →
      ((multibyteToWideCharChecked memory m call).result ≠ 0 ↔
        ∃ scalars, bytesAt m call.source n = Utf.encode8 scalars ∧
          Fits call (Utf.encode16 scalars).length) ∧
      ∀ scalars, bytesAt m call.source n = Utf.encode8 scalars →
        (multibyteToWideCharChecked memory m call).result ≠ 0 →
        Converted memory m call scalars (multibyteToWideCharChecked memory m call)) ∧
    ((multibyteToWideCharChecked memory m call).result ≠ 0 →
      ∃ n, Accepted memory m call n) ∧
    ((multibyteToWideCharChecked memory m call).report.status ≠ .ok ↔
      (multibyteToWideCharChecked memory m call).result = 0) ∧
    ((multibyteToWideCharChecked memory m call).result = 0 →
      (multibyteToWideCharChecked memory m call).memory = m) := by
  have haccepted : ∀ n, Accepted memory m call n →
      (∃ scalars, bytesAt m call.source n = Utf.encode8 scalars ∧
        Fits call (Utf.encode16 scalars).length ∧
        (multibyteToWideCharChecked memory m call).result ≠ 0 ∧
        Converted memory m call scalars (multibyteToWideCharChecked memory m call)) ∨
      (¬ ∃ scalars, bytesAt m call.source n = Utf.encode8 scalars ∧
        Fits call (Utf.encode16 scalars).length) ∧
        Failed m (multibyteToWideCharChecked memory m call) := by
    intro n ha
    by_cases htext : ∃ scalars, bytesAt m call.source n = Utf.encode8 scalars ∧
        Fits call (Utf.encode16 scalars).length
    · obtain ⟨scalars, h, hfits⟩ := htext
      have hconverted := convertAccepted_converted hvalid hapart ha h hfits
      have hpos := text_pos ha.source.pos h
      exact Or.inl ⟨scalars, h, hfits, by rw [hconverted.counted]; omega, hconverted⟩
    · obtain ⟨report, bytes, hchecked⟩ := checked_of_accepted hvalid hapart ha
      rw [hchecked]
      exact Or.inr ⟨htext, convertAccepted_fails ha htext⟩
  refine ⟨fun n ha => ?_, ?_⟩
  · obtain ⟨scalars, h, hfits, hresult, -⟩ | ⟨htext, hfailed⟩ := haccepted n ha
    · refine ⟨iff_of_true hresult ⟨scalars, h, hfits⟩, fun scalars' h' _ => ?_⟩
      have hsame := requiredUnits_of_text (by have := ha.source.bounded; omega) h
      rw [requiredUnits_of_text (by have := ha.source.bounded; omega) h'] at hsame
      exact convertAccepted_converted hvalid hapart ha h' (by
        rw [Except.ok.inj hsame]
        exact hfits)
    · exact ⟨iff_of_false (fun hne => hne hfailed.result) htext,
        fun _ _ hne => absurd hfailed.result hne⟩
  · obtain ⟨hfailed, -⟩ | ⟨n, -, -, ha, -⟩ :=
      multibyteToWideCharChecked_cases hapart hvalid m call
    · exact ⟨fun h => absurd hfailed.result h, iff_of_true hfailed.status hfailed.result,
        fun _ => hfailed.memory⟩
    · obtain ⟨scalars, -, -, hresult, hconverted⟩ | ⟨-, hfailed⟩ := haccepted n ha
      · exact ⟨fun _ => ⟨n, ha⟩, iff_of_false (fun h => h hconverted.status) hresult,
          fun h => absurd h hresult⟩
      · exact ⟨fun h => absurd hfailed.result h, iff_of_true hfailed.status hfailed.result,
          fun _ => hfailed.memory⟩

/-- A page to read from, and a page to write to. -/
def sampleContext : MemoryContext :=
  [⟨0x1000, 0x2000, true, false⟩, ⟨0x2000, 0x3000, true, true⟩]

/-- Characters of one, two, three and four bytes, and the terminator. -/
def sampleMemory : Memory := fun p =>
  ([0x61, 0xC3, 0xA9, 0xE2, 0x82, 0xAC, 0xF0, 0x9F, 0x98, 0x80] : List UInt8).getD (p - 0x1000) 0

def sampleCall : MultibyteCall :=
  { codePage := cpUtf8, flags := 0, source := 0x1000, cbMultiByte := -1, destination := 0x2000
    cchWideChar := 6, previousLastError := 7 }

theorem a_sample_text_is_converted :
    ∃ n scalars, bytesAt sampleMemory 0x1000 n = Utf.encode8 scalars ∧
      (Utf.encode16 scalars).length = 6 ∧
      Converted sampleContext sampleMemory sampleCall scalars
        (multibyteToWideCharChecked sampleContext sampleMemory sampleCall) := by
  have hapart : RegionsApart sampleContext := by
    unfold RegionsApart sampleContext
    decide
  have hlaws := conversion_is_standard (by decide) hapart sampleMemory sampleCall
  have hresult : (multibyteToWideCharChecked sampleContext sampleMemory sampleCall).result = 6 :=
    by decide +kernel
  obtain ⟨n, ha⟩ := hlaws.2.1 (by rw [hresult]; decide)
  obtain ⟨scalars, htext, -⟩ := (hlaws.1 n ha).1.mp (by rw [hresult]; decide)
  have hconverted := (hlaws.1 n ha).2 scalars htext (by rw [hresult]; decide)
  exact ⟨n, scalars, htext, hconverted.counted.symm.trans hresult, hconverted⟩

end Gate4Harness.Multibyte
