-- The performance counter follows the hardware and never runs back, for as long as 64 bits hold
-- its counts. Past that a read is refused, and a record of 2 ^ 64 values starts again.
import Gate4Harness.PlatformPerformance
import Mathlib.Data.List.Chain

namespace Gate4Harness.PlatformPerformance

variable {timer : PmTimer} {first initial before after hardware mask start raw : Nat}
  {values : List Nat} {s : PerfState}

/-! ## The timer -/

/-- The masks of the two widths. -/
def TwoWidths (mask : Nat) : Prop := mask = 2 ^ 24 - 1 ∨ mask = 2 ^ 32 - 1

theorem TwoWidths.half_le (h : TwoWidths mask) : mask >>> 1 ≤ uint64Max := by
  rcases h with h | h
  · rw [h]
    decide
  · rw [h]
    decide

/-- What has passed since the last read is seen in the low bits, however often they came round. -/
theorem maskedDelta_eq (hmask : TwoWidths mask) (hle : before ≤ after)
    (hgap : after - before ≤ mask >>> 1) :
    maskedDelta mask (before &&& mask) (after &&& mask) = after - before := by
  unfold maskedDelta
  rcases hmask with hmask | hmask
  · simp only [hmask, Nat.and_two_pow_sub_one_eq_mod, Nat.shiftRight_eq_div_pow] at hgap ⊢
    omega
  · simp only [hmask, Nat.and_two_pow_sub_one_eq_mod, Nat.shiftRight_eq_div_pow] at hgap ⊢
    omega

/-- The timer stands at `count`, and it has counted from `first` on. -/
structure Tracks (timer : PmTimer) (first initial count : Nat) : Prop where
  mask : TwoWidths timer.mask
  initialized : timer.initialized = true
  lastRaw : timer.lastRaw = count &&& timer.mask
  extended : timer.extended = initial + (count - first)
  first_le : first ≤ count

theorem initializePmTimer_tracks (port : Nat) (wide : Bool)
    (hshows : Shows (initializePmTimer port wide hardware).1.mask first hardware) :
    Tracks (initializePmTimer port wide hardware).1 first (initializePmTimer port wide hardware).2
      first := by
  refine ⟨?_, rfl, hshows, by rw [Nat.sub_self]; rfl, le_refl first⟩
  cases wide
  · exact .inl rfl
  · exact .inr rfl

/-- The timer after a read that came at `count`. -/
def PmTimer.at (timer : PmTimer) (first initial count : Nat) : PmTimer :=
  { timer with lastRaw := count &&& timer.mask, extended := initial + (count - first) }

theorem Tracks.at (h : Tracks timer first initial before) (hle : before ≤ after) :
    Tracks (timer.at first initial after) first initial after :=
  ⟨h.mask, h.initialized, rfl, rfl, Nat.le_trans h.first_le hle⟩

/-- A read gives the count from the first reading on, if it fits. -/
theorem Tracks.readSource (h : Tracks timer first initial before) (hle : before ≤ after)
    (hgap : after - before ≤ timer.mask >>> 1) (hshows : Shows timer.mask after hardware) :
    readSource .acpiPmTimer timer hardware =
      if initial + (after - first) ≤ uint64Max then
        (some (initial + (after - first)), timer.at first initial after)
      else (none, timer) := by
  have hfirst := h.first_le
  have hdelta : maskedDelta timer.mask timer.lastRaw (readPmTimer timer hardware) =
      after - before := by
    rw [h.lastRaw, readPmTimer, hshows]
    exact maskedDelta_eq h.mask hle hgap
  have hextended : timer.extended + (after - before) = initial + (after - first) := by
    rw [h.extended]
    omega
  unfold PlatformPerformance.readSource
  rw [if_neg (by decide), if_neg (by simp [h.initialized])]
  dsimp only
  rw [hdelta, hextended]
  have hsmall := h.mask.half_le
  by_cases hfits : initial + (after - first) ≤ uint64Max
  · have hroom : ¬ (after - before > timer.mask >>> 1 ∨
        timer.extended > uint64Max - (after - before)) := by omega
    rw [if_pos hfits, if_neg hroom, PmTimer.at, readPmTimer, hshows]
  · rw [if_neg hfits, if_pos (.inr (by omega))]

/-- A read is the step of the counter that the source also has as a function of its own. -/
theorem readSource_extends {width : Nat} (hmask : timer.mask = widthMask width)
    (hwidth : width = 24 ∨ width = 32) (hinit : timer.initialized = true)
    (hlast : timer.lastRaw &&& timer.mask = timer.lastRaw) :
    readSource .acpiPmTimer timer hardware =
      match extendWrappingCounter width timer.lastRaw hardware timer.extended with
      | none => (none, timer)
      | some (extension, normalized) =>
        (some extension, { timer with lastRaw := normalized, extended := extension }) := by
  have hknown : ¬ (width ≠ 24 ∧ width ≠ 32) := by omega
  simp only [readSource, extendWrappingCounter, if_neg hknown, ← hmask, hlast, readPmTimer, hinit]
  by_cases hgap : maskedDelta timer.mask timer.lastRaw (hardware &&& timer.mask) > timer.mask >>> 1
  · simp [hgap]
  · by_cases hfull : timer.extended >
      uint64Max - maskedDelta timer.mask timer.lastRaw (hardware &&& timer.mask)
    · simp [hgap, hfull]
    · simp [hgap, hfull]

/-- The reads of a paced count, each with what the register showed. -/
theorem Tracks.readAll (h : Tracks timer first initial before) (reads : List (Nat × Nat))
    (hpaced : Paced timer.mask (before :: reads.map Prod.fst))
    (hshows : ∀ r ∈ reads, Shows timer.mask r.1 r.2)
    (hfits : ∀ r ∈ reads, initial + (r.1 - first) ≤ uint64Max) :
    (readAll timer (reads.map Prod.snd)).1 = reads.map (fun r => some (initial + (r.1 - first))) ∧
      (readAll timer (reads.map Prod.snd)).2.mask = timer.mask ∧
      Tracks (readAll timer (reads.map Prod.snd)).2 first initial
        ((reads.map Prod.fst).getLastD before) := by
  induction reads generalizing timer before with
  | nil => exact ⟨rfl, rfl, h⟩
  | cons r rest ih =>
    simp only [List.mem_cons, forall_eq_or_imp] at hshows hfits
    simp only [Paced, List.map_cons, List.isChain_cons_cons] at hpaced
    obtain ⟨⟨hle, hgap⟩, hrest⟩ := hpaced
    have hread := h.readSource hle hgap hshows.1
    rw [if_pos hfits.1] at hread
    obtain ⟨hraws, hmask, htracks⟩ := ih (h.at hle) hrest hshows.2 hfits.2
    simp only [List.map_cons, PlatformPerformance.readAll, hread, List.getLastD_cons]
    exact ⟨by rw [hraws], hmask, htracks⟩

/-! ## The steps between the values -/

theorem gaps_concat (values : List Nat) (last value : Nat) :
    gaps (values ++ [last] ++ [value]) = gaps (values ++ [last]) ++ [value - last] := by
  induction values with
  | nil => rfl
  | cons v rest ih =>
    cases rest with
    | nil => rfl
    | cons w rest => exact congrArg ((w - v) :: ·) ih

theorem smallest_concat (xs : List Nat) (x : Nat) :
    (xs ++ [x]).min?.getD 0 = if xs = [] then x else min (xs.min?.getD 0) x := by
  cases xs with
  | nil => rfl
  | cons y ys => simp only [List.cons_append, List.min?_cons', List.foldl_append, Option.getD_some,
      List.foldl_cons, List.foldl_nil, reduceCtorEq, if_false]

theorem largest_concat (xs : List Nat) (x : Nat) :
    (xs ++ [x]).max?.getD 0 = max (xs.max?.getD 0) x := by
  cases xs with
  | nil => simp
  | cons y ys => simp only [List.cons_append, List.max?_cons', List.foldl_append, Option.getD_some,
      List.foldl_cons, List.foldl_nil]

/-! ## The record -/

/-- The state holds what there is to say about the values that were accepted. -/
structure Recorded (start : Nat) (values : List Nat) (s : PerfState) : Prop where
  initialized : s.initialized = true
  startRaw : s.startRaw = start
  callCount : s.callCount = values.length
  lastValue : s.lastValue = values.getLastD 0
  increasing : values.IsChain (· ≤ ·)
  minimum : s.minimumDelta = (gaps values).min?.getD 0
  maximum : s.maximumDelta = (gaps values).max?.getD 0

theorem start_recorded (start : Nat) : Recorded start [] (.start start) :=
  ⟨rfl, rfl, rfl, rfl, .nil, rfl, rfl⟩

/-- The value of the last read and the steps between, after one more. -/
theorem Recorded.accepted (h : Recorded start values s) (hfew : values.length + 1 < 2 ^ 64)
    {candidate : Nat} (hle : s.callCount ≠ 0 → s.lastValue ≤ candidate) {minimum maximum : Nat}
    (hminimum : minimum = (gaps (values ++ [candidate])).min?.getD 0)
    (hmaximum : maximum = (gaps (values ++ [candidate])).max?.getD 0) (firstValue : Nat) :
    Recorded start (values ++ [candidate])
      { s with firstValue, minimumDelta := minimum, maximumDelta := maximum, lastRaw := raw,
               lastValue := candidate, callCount := (s.callCount + 1) % 2 ^ 64 } := by
  refine ⟨h.initialized, h.startRaw, ?_, ?_, ?_, hminimum, hmaximum⟩
  · rw [h.callCount, List.length_append]
    exact Nat.mod_eq_of_lt hfew
  · rw [List.getLastD_concat]
  · rw [List.isChain_append]
    refine ⟨h.increasing, .singleton candidate, fun x hx y hy => ?_⟩
    have hne : s.callCount ≠ 0 := by
      rw [h.callCount]
      rintro hzero
      rw [List.length_eq_zero_iff.mp hzero] at hx
      cases hx
    have hlast := hle hne
    rw [h.lastValue, List.getLastD_eq_getLast?, Option.mem_def.mp hx] at hlast
    cases hy
    exact hlast

theorem reject_eq (s : PerfState) :
    ∃ regressions, reject s = (.regression, { s with regressions }) := ⟨_, rfl⟩

/-- The steps that the record holds, after one more. -/
theorem Recorded.gaps_concat (h : Recorded start values s) (hcalls : s.callCount ≠ 0)
    (candidate : Nat) : gaps (values ++ [candidate]) = gaps values ++ [candidate - s.lastValue] ∧
      (gaps values = [] ↔ s.callCount = 1) := by
  have hlast := h.lastValue
  rw [h.callCount] at hcalls ⊢
  obtain hnil | ⟨before, last, heq⟩ := List.eq_nil_or_concat values
  · rw [hnil] at hcalls
    exact absurd rfl hcalls
  · rw [List.concat_eq_append] at heq
    subst heq
    rw [List.getLastD_concat] at hlast
    refine ⟨hlast ▸ PlatformPerformance.gaps_concat before last candidate, ?_⟩
    cases before with
    | nil => exact iff_of_true rfl rfl
    | cons v rest => cases rest <;> simp [gaps]

/-- A value is taken over with its distance from the start, or only counted as a regression. -/
theorem Recorded.recordCounter (h : Recorded start values s) (raw : Nat) :
    (∃ s', recordCounter s raw = (.ok (raw - start), s') ∧ start ≤ raw ∧
      (values.length + 1 < 2 ^ 64 → Recorded start (values ++ [raw - start]) s')) ∨
    (∃ regressions, recordCounter s raw = (.regression, { s with regressions })) := by
  obtain rfl := h.startRaw
  unfold PlatformPerformance.recordCounter normalizeCounter
  rw [if_neg (by simp [h.initialized])]
  by_cases hlow : raw < s.startRaw
  · rw [if_pos hlow]
    exact .inr (reject_eq s)
  rw [if_neg hlow]
  by_cases hhigh : raw - s.startRaw > int64Max
  · simp only [if_pos hhigh]
    exact .inr (reject_eq s)
  simp only [if_neg hhigh]
  by_cases hfirst : s.callCount ≠ 0
  · rw [if_pos hfirst]
    by_cases hback : raw - s.startRaw < s.lastValue
    · rw [if_pos hback]
      exact .inr (reject_eq s)
    · rw [if_neg hback]
      obtain ⟨hgaps, hone⟩ := h.gaps_concat hfirst (raw - s.startRaw)
      refine .inl ⟨_, rfl, by omega, fun hfew => h.accepted hfew (fun _ => by omega) ?_ ?_ _⟩
      · rw [hgaps, smallest_concat, ← h.minimum]
        simp only [hone]
        split <;> split <;> omega
      · rw [hgaps, largest_concat, ← h.maximum]
        split <;> omega
  · rw [if_neg hfirst]
    have hnil : values = [] := by
      have hlength := h.callCount
      exact List.length_eq_zero_iff.mp (by omega)
    subst hnil
    exact .inl ⟨_, rfl, by omega, fun hfew =>
      h.accepted hfew (fun hne => absurd hne hfirst) rfl rfl _⟩

/-- A value that is not accepted changes the count of the regressions, and nothing else. -/
theorem recordCounter_rejected (s : PerfState) (raw : Nat)
    (h : ∀ normalized, (recordCounter s raw).1 ≠ .ok normalized) :
    ∃ regressions, (recordCounter s raw).2 = { s with regressions } := by
  unfold recordCounter at h ⊢
  split
  · exact ⟨s.regressions, rfl⟩
  · rename_i hinit
    rw [if_neg hinit] at h
    cases hnormal : normalizeCounter s.startRaw raw with
    | none => exact ⟨_, rfl⟩
    | some candidate =>
      simp only [hnormal] at h ⊢
      by_cases hfirst : s.callCount ≠ 0
      · rw [if_pos hfirst] at h ⊢
        by_cases hback : candidate < s.lastValue
        · rw [if_pos hback]
          exact ⟨_, rfl⟩
        · rw [if_neg hback] at h
          exact absurd rfl (h candidate)
      · rw [if_neg hfirst] at h
        exact absurd rfl (h candidate)

/-- A whole record, while the count of its values fits. -/
theorem Recorded.recordAll (h : Recorded start values s) (raws : List Nat)
    (hfew : values.length + (recordAll s raws).1.length < 2 ^ 64) :
    Recorded start (values ++ (recordAll s raws).1.map Prod.snd) (recordAll s raws).2 ∧
      ∀ p ∈ (recordAll s raws).1, start ≤ p.1 ∧ p.2 = p.1 - start := by
  induction raws generalizing values s with
  | nil =>
    refine ⟨?_, fun p hp => absurd hp List.not_mem_nil⟩
    rw [PlatformPerformance.recordAll, List.map_nil, List.append_nil]
    exact h
  | cons raw rest ih =>
    unfold PlatformPerformance.recordAll at hfew ⊢
    rcases h.recordCounter raw with ⟨s', heq, hle, hnext⟩ | ⟨regressions, heq⟩
    · simp only [heq, List.length_cons] at hfew
      simp only [heq, List.map_cons, List.mem_cons, forall_eq_or_imp]
      obtain ⟨hrecorded, heach⟩ := ih (hnext (by omega)) (by
        rw [List.length_append, List.length_singleton]
        omega)
      rw [List.append_assoc, List.singleton_append] at hrecorded
      exact ⟨hrecorded, ⟨hle, trivial⟩, heach⟩
    · simp only [heq] at hfew ⊢
      exact ih ⟨h.initialized, h.startRaw, h.callCount, h.lastValue, h.increasing, h.minimum,
        h.maximum⟩ hfew

/-! ## The counter -/

theorem Session.tracks (x : Session) : Tracks x.timer x.first x.initial x.first :=
  initializePmTimer_tracks x.port x.wide x.first_shows

/-- The timer follows the count of every session that 64 bits can hold, and refuses the first
read behind it. A record of fewer than `2 ^ 64` values never runs back, it knows the smallest and
the largest of its steps, and a value that it does not accept is only counted. -/
theorem counter_follows_the_hardware :
    (∀ x : Session, (∀ r ∈ x.reads, x.counted r.1 ≤ uint64Max) →
      x.answers = x.reads.map (fun r => some (x.counted r.1)) ∧
      ∀ count hardware, Paced x.timer.mask (x.first :: x.reads.map Prod.fst ++ [count]) →
        Shows x.timer.mask count hardware → uint64Max < x.counted count →
        readSource .acpiPmTimer x.after hardware = (none, x.after)) ∧
    (∀ start raws, (recordAll (.start start) raws).1.length < 2 ^ 64 →
      let (accepted, s) := recordAll (.start start) raws
      let values := accepted.map Prod.snd
      values.IsChain (· ≤ ·) ∧ (∀ p ∈ accepted, start ≤ p.1 ∧ p.2 = p.1 - start) ∧
        s.minimumDelta = (gaps values).min?.getD 0 ∧ s.maximumDelta = (gaps values).max?.getD 0) ∧
    ∀ s raw, (∀ normalized, (recordCounter s raw).1 ≠ .ok normalized) →
      ∃ regressions, (recordCounter s raw).2 = { s with regressions } := by
  refine ⟨fun x hfits => ?_, fun start raws hfew => ?_, recordCounter_rejected⟩
  · obtain ⟨hanswers, hmask, htracks⟩ := x.tracks.readAll x.reads x.paced x.reads_show hfits
    refine ⟨hanswers, fun count hardware hpaced hshows hpast => ?_⟩
    have hnext : (x.reads.map Prod.fst).getLastD x.first ≤ count ∧
        count - (x.reads.map Prod.fst).getLastD x.first ≤ x.timer.mask >>> 1 := by
      rw [Paced, List.cons_append, ← List.cons_append, List.isChain_append] at hpaced
      refine hpaced.2.2 _ ?_ count rfl
      rw [Option.mem_def, List.getLast?_cons, List.getLastD_eq_getLast?]
    rw [← hmask] at hnext hshows
    have hread := htracks.readSource hnext.1 hnext.2 hshows
    have hfull : ¬ x.initial + (count - x.first) ≤ uint64Max := Nat.not_le_of_gt hpast
    rw [if_neg hfull] at hread
    exact hread
  · obtain ⟨hrecorded, heach⟩ :=
      (start_recorded start).recordAll raws (by rw [List.length_nil, Nat.zero_add]; exact hfew)
    rw [List.nil_append] at hrecorded
    exact ⟨hrecorded.increasing, heach, hrecorded.minimum, hrecorded.maximum⟩

/-- Two reads of the timer of 24 bits, which comes round in between. -/
def roundSession : Session where
  port := 0x608
  wide := false
  first := 2 ^ 24 - 2
  hardware := 2 ^ 24 - 2
  reads := [(2 ^ 24 + 1, 1), (2 ^ 24 + 5, 5)]
  first_shows := rfl
  reads_show := by decide
  paced := by
    simp only [Paced, List.map_cons, List.map_nil]
    exact .cons_cons (by decide) (.cons_cons (by decide) (.singleton _))

theorem a_round_is_counted : roundSession.answers = [some (2 ^ 24 + 1), some (2 ^ 24 + 5)] ∧
    (let (accepted, s) := recordAll (.start 100) [100, 130, 110, 140]
     (accepted.map Prod.snd).IsChain (· ≤ ·) ∧ s.minimumDelta = 10 ∧ s.maximumDelta = 30) ∧
    ∃ regressions,
      (recordCounter (.start 100) 99).2 = { PerfState.start 100 with regressions } := by
  have hrecord := counter_follows_the_hardware.2.1 100 [100, 130, 110, 140] (by decide)
  exact ⟨(counter_follows_the_hardware.1 roundSession (by decide)).1,
    ⟨hrecord.1, hrecord.2.2.1.trans (by decide), hrecord.2.2.2.trans (by decide)⟩,
    counter_follows_the_hardware.2.2 _ _ (fun normalized h => by cases h)⟩

/-! ## Past 64 bits -/

theorem readSource_cases (hmask : TwoWidths timer.mask) (hardware : Nat) :
    readSource .acpiPmTimer timer hardware = (none, timer) ∨
      ∃ lastRaw extended, extended ≤ uint64Max ∧ readSource .acpiPmTimer timer hardware =
        (some extended, { timer with lastRaw, extended }) := by
  have hsmall := hmask.half_le
  unfold readSource
  rw [if_neg (by decide)]
  by_cases hinit : Source.acpiPmTimer ≠ .acpiPmTimer ∨ timer.initialized = false
  · rw [if_pos hinit]
    exact .inl rfl
  · rw [if_neg hinit]
    dsimp only
    generalize maskedDelta timer.mask timer.lastRaw (readPmTimer timer hardware) = delta
    by_cases hstop : delta > timer.mask >>> 1 ∨ timer.extended > uint64Max - delta
    · rw [if_pos hstop]
      exact .inl rfl
    · rw [if_neg hstop]
      exact .inr ⟨_, timer.extended + delta, by omega, rfl⟩

theorem readAll_le (hmask : TwoWidths timer.mask) (values : List Nat) :
    ∀ raw, some raw ∈ (readAll timer values).1 → raw ≤ uint64Max := by
  induction values generalizing timer with
  | nil => exact fun raw h => absurd h List.not_mem_nil
  | cons value rest ih =>
    intro raw hraw
    rw [readAll] at hraw
    rcases readSource_cases hmask value with hread | ⟨lastRaw, extended, hle, hread⟩
    · simp only [hread, List.mem_cons, reduceCtorEq, false_or] at hraw
      exact ih hmask raw hraw
    · simp only [hread, List.mem_cons, Option.some.injEq] at hraw
      rcases hraw with hraw | hraw
      · exact hraw ▸ hle
      · have hnext : TwoWidths ({ timer with lastRaw, extended } : PmTimer).mask := hmask
        exact ih hnext raw hraw

/-- A count that goes on by half of the mask from read to read. -/
def climb : (reads : Nat) → (count : Nat) → List Nat
  | 0, _ => []
  | reads + 1, count => (count + (2 ^ 31 - 1)) :: climb reads (count + (2 ^ 31 - 1))

theorem climb_paced (reads count : Nat) : Paced (2 ^ 32 - 1) (count :: climb reads count) := by
  induction reads generalizing count with
  | zero => exact .singleton count
  | succ reads ih =>
    refine .cons_cons ⟨Nat.le_add_right _ _, ?_⟩ (ih _)
    rw [Nat.add_sub_cancel_left]
    decide

theorem mem_climb (reads count : Nat) :
    count + (reads + 1) * (2 ^ 31 - 1) ∈ climb (reads + 1) count := by
  induction reads generalizing count with
  | zero => exact List.mem_singleton.mpr (by omega)
  | succ reads ih =>
    refine List.mem_cons_of_mem _ ?_
    have hnext := ih (count + (2 ^ 31 - 1))
    rwa [show count + (2 ^ 31 - 1) + (reads + 1) * (2 ^ 31 - 1) =
      count + (reads + 1 + 1) * (2 ^ 31 - 1) by omega] at hnext

/-- The session of a climb on the timer of 32 bits. -/
def climbSession (reads : Nat) : Session where
  port := 0x608
  wide := true
  first := 0
  hardware := 0
  reads := (climb reads 0).map fun count => (count, count)
  first_shows := rfl
  reads_show := by
    intro r hr
    obtain ⟨count, _, rfl⟩ := List.mem_map.mp hr
    rfl
  paced := by
    rw [List.map_map, show (Prod.fst ∘ fun count : Nat => (count, count)) = id from rfl,
      List.map_id]
    exact climb_paced reads 0

/-- After the first of them, values of 1 are accepted for as long as they come. -/
theorem recordAll_replicate (n : Nat) (s : PerfState) (hinit : s.initialized = true)
    (hstart : s.startRaw = 0) (hlast : s.callCount ≠ 0 → s.lastValue = 1)
    (hfew : s.callCount < 2 ^ 64) (rest : List Nat) :
    ∃ s', s'.initialized = true ∧ s'.startRaw = 0 ∧ s'.callCount = (s.callCount + n) % 2 ^ 64 ∧
      (recordAll s (List.replicate n 1 ++ rest)).1 =
        List.replicate n (1, 1) ++ (recordAll s' rest).1 := by
  induction n generalizing s with
  | zero => exact ⟨s, hinit, hstart, (Nat.mod_eq_of_lt hfew).symm, rfl⟩
  | succ n ih =>
    have hstep : ∃ s', recordCounter s 1 = (.ok 1, s') ∧ s'.initialized = true ∧ s'.startRaw = 0 ∧
        s'.lastValue = 1 ∧ s'.callCount = (s.callCount + 1) % 2 ^ 64 := by
      have hnormal : normalizeCounter s.startRaw 1 = some 1 := by
        rw [hstart]
        decide
      unfold recordCounter
      rw [if_neg (by simp [hinit]), hnormal]
      dsimp only
      by_cases hfirst : s.callCount ≠ 0
      · rw [if_pos hfirst, if_neg (by rw [hlast hfirst]; exact lt_irrefl 1)]
        exact ⟨_, rfl, hinit, hstart, rfl, rfl⟩
      · rw [if_neg hfirst]
        exact ⟨_, rfl, hinit, hstart, rfl, rfl⟩
    obtain ⟨s1, heq, hinit1, hstart1, hlast1, hcalls1⟩ := hstep
    obtain ⟨s', hinit', hstart', hcalls', hall⟩ := ih s1 hinit1 hstart1 (fun _ => hlast1)
      (hcalls1 ▸ Nat.mod_lt _ (Nat.two_pow_pos 64))
    refine ⟨s', hinit', hstart', ?_, ?_⟩
    · rw [hcalls', hcalls1, Nat.mod_add_mod, Nat.add_right_comm, Nat.add_assoc]
    · simp only [List.replicate_succ, List.cons_append, recordAll, heq, hall]

theorem climbSession_counted (n count : Nat) : (climbSession n).counted count = count := by
  simp only [Session.counted, Session.initial, climbSession, initializePmTimer, readPmTimer,
    Nat.zero_and, Nat.sub_zero, Nat.zero_add]

theorem climbSession_fails {n : Nat} (h : uint64Max < (n + 1) * (2 ^ 31 - 1)) :
    (climbSession (n + 1)).answers ≠
      (climbSession (n + 1)).reads.map fun r => some ((climbSession (n + 1)).counted r.1) := by
  intro heq
  have hlast := mem_climb n 0
  rw [Nat.zero_add] at hlast
  have hanswer : some ((n + 1) * (2 ^ 31 - 1)) ∈ (climbSession (n + 1)).answers := by
    rw [heq]
    refine List.mem_map.mpr ⟨_, List.mem_map.mpr ⟨_, hlast, rfl⟩, ?_⟩
    rw [climbSession_counted]
  exact absurd (readAll_le (.inr rfl) _ _ hanswer) (Nat.not_le_of_gt h)

/-- The value that comes when the count of the record is back at zero. -/
theorem recordAll_after {n : Nat} (hn : 0 < n) (hzero : n % 2 ^ 64 = 0) :
    ¬ ((recordAll (.start 0) (List.replicate n 1 ++ [0])).1.map Prod.snd).IsChain (· ≤ ·) := by
  obtain ⟨s, hinit, hstart, hcalls, hall⟩ :=
    recordAll_replicate n (.start 0) rfl rfl (fun h => absurd rfl h)
      (Nat.two_pow_pos 64) [0]
  rw [show (PerfState.start 0).callCount + n = n from Nat.zero_add n, hzero] at hcalls
  have hlast : (recordAll s [0]).1 = [(0, 0)] := by
    have hnormal : normalizeCounter s.startRaw 0 = some 0 := by
      rw [hstart]
      decide
    simp only [recordAll, recordCounter, hinit, hnormal, hcalls, ne_eq, not_true_eq_false,
      reduceCtorEq, if_false]
  rw [hall, hlast, List.map_append, List.map_replicate, List.isChain_append]
  rintro ⟨_, _, hle⟩
  have hone : 1 ∈ (List.replicate n 1).getLast? := by
    rw [List.getLast?_replicate, if_neg hn.ne']
    rfl
  exact absurd (hle 1 hone 0 rfl) (by decide)

/-- No timer of 64 bits follows a count past them, and a record of `2 ^ 64` values is followed by
one that may begin anywhere. -/
theorem counts_end_with_their_bits :
    (¬ ∀ x : Session, x.answers = x.reads.map fun r => some (x.counted r.1)) ∧
      ¬ ∀ start raws, ((recordAll (.start start) raws).1.map Prod.snd).IsChain (· ≤ ·) :=
  ⟨fun h => climbSession_fails (n := 2 ^ 34) (by decide) (h _),
    fun h => recordAll_after (n := 2 ^ 64) (by decide) (by decide) (h _ _)⟩

end Gate4Harness.PlatformPerformance
