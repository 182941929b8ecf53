-- What a pass over a table of initializers does. The entries are read one after another, each
-- when its turn comes, and a callback runs once for its entry, after all before it. On an image
-- that was loaded, the pass without results does what a successful pass with results does.
import Gate4Harness.CrtInitterm
import Gate4Harness.PeRegions

namespace Gate4Harness.CrtInitterm

open PeImage (Image MemoryRegion ExecutableRegion CodeInMemory uintptrMax)

variable {σ : Type*} {program : Program σ} {s s' : σ} {first last count index : Nat}

/-! ## Visits -/

/-- An entry of the table that had its turn. -/
inductive Visit
  | null (index : Nat)
  | called (index target : Nat) (result : Int)

/-- How the pass ends: at the end of the table, at a target that is not executable, or with a
callback that failed. -/
inductive Ending
  | completed
  | refused (index target : Nat)
  | stopped (result : Int)

/-- The visits lead from `s` to `s'`. Each entry is read in the state that its turn finds. -/
inductive Follows (program : Program σ) (runnable : Nat → Bool) (first : Nat) :
    Nat → σ → List Visit → σ → Prop
  | nil (index : Nat) (s : σ) : Follows program runnable first index s [] s
  | null {index : Nat} {s s' : σ} {visits : List Visit}
      (hzero : program.word s (first + index * 8) = 0)
      (hrest : Follows program runnable first (index + 1) s visits s') :
      Follows program runnable first index s (.null index :: visits) s'
  | called {index target : Nat} {s s' : σ} {visits : List Visit}
      (hword : program.word s (first + index * 8) = target) (hzero : target ≠ 0)
      (hrunnable : runnable target = true)
      (hrest : Follows program runnable first (index + 1) (program.call target s).2 visits s') :
      Follows program runnable first index s
        (.called index target (program.call target s).1 :: visits) s'

def Visit.isCall : Visit → Bool
  | .null _ => false
  | .called .. => true

def Visit.result : Visit → Int
  | .null _ => 0
  | .called _ _ result => result

/-- The trace of a visit, with what it shows of a result. -/
def Visit.events (shown : Int → Int) : Visit → List Event
  | .null index => [.entry index 0]
  | .called index target result =>
    [.entry index target, .callbackBegin index target, .callbackResult index target (shown result)]

def Ending.events : Ending → List Event
  | .refused index target => [.entry index target, .validationFailure index target 5]
  | _ => []

def Ending.result : Ending → Int
  | .completed => 0
  | .refused .. => validationFailure
  | .stopped result => result

def eventsOf (shown : Int → Int) (visits : List Visit) (ending : Ending) : List Event :=
  visits.flatMap (Visit.events shown) ++ ending.events

/-- The visits of a table of `count` entries from `index` on, and how they end. -/
def pass (program : Program σ) (runnable : Nat → Bool) (stops : Int → Bool) (first : Nat) :
    (count index : Nat) → σ → List Visit × Ending × σ
  | 0, _, s => ([], .completed, s)
  | count + 1, index, s =>
    let target := program.word s (first + index * 8)
    if target = 0 then
      let rest := pass program runnable stops first count (index + 1) s
      (.null index :: rest.1, rest.2)
    else if ¬ runnable target then ([], .refused index target, s)
    else
      let called := program.call target s
      if stops called.1 then ([.called index target called.1], .stopped called.1, called.2)
      else
        let rest := pass program runnable stops first count (index + 1) called.2
        (.called index target called.1 :: rest.1, rest.2)

/-! ## Traces -/

def Trace.addAll (limit : Nat) (t : Trace) (events : List Event) : Trace :=
  events.foldl (Trace.add limit) t

@[simp] theorem Trace.addAll_nil (limit : Nat) (t : Trace) : t.addAll limit [] = t := rfl

theorem Trace.addAll_cons (limit : Nat) (t : Trace) (event : Event) (events : List Event) :
    t.addAll limit (event :: events) = (t.add limit event).addAll limit events := rfl

/-- The trace function gets the first events, up to its limit, and the report tells whether
there were more. -/
theorem Trace.addAll_given {limit : Nat} {past : List Event} (hpast : past.length ≤ limit)
    (truncated : Bool) (events : List Event) :
    Trace.addAll limit ⟨true, past, truncated⟩ events =
      ⟨true, (past ++ events).take limit,
        truncated || decide (limit < (past ++ events).length)⟩ := by
  induction events generalizing past truncated with
  | nil => simp [Trace.addAll_nil, List.take_of_length_le hpast, Nat.not_lt.mpr hpast]
  | cons event events ih =>
    rw [Trace.addAll_cons]
    by_cases hfull : past.length = limit
    · have hadd : Trace.add limit ⟨true, past, truncated⟩ event = ⟨true, past, true⟩ := by
        simp [Trace.add, hfull]
      rw [hadd, ih hpast]
      simp [hfull]
    · have hadd : Trace.add limit ⟨true, past, truncated⟩ event =
          ⟨true, past ++ [event], truncated⟩ := by
        unfold Trace.add
        rw [if_neg (by simp), if_neg (by simp only [ge_iff_le, Nat.not_le]; omega)]
      rw [hadd, ih (by simp only [List.length_append, List.length_singleton]; omega)]
      simp

theorem Trace.addAll_not_given (limit : Nat) {t : Trace} (h : t.given = false)
    (events : List Event) : t.addAll limit events = t := by
  induction events with
  | nil => rfl
  | cons event events ih =>
    have hadd : t.add limit event = t := by simp [Trace.add, h]
    rw [Trace.addAll_cons, hadd, ih]

/-! ## The pass -/

theorem pass_follows (program : Program σ) (runnable : Nat → Bool) (stops : Int → Bool)
    (first count index : Nat) (s : σ) :
    Follows program runnable first index s (pass program runnable stops first count index s).1
      (pass program runnable stops first count index s).2.2 := by
  induction count generalizing index s with
  | zero => exact .nil index s
  | succ count ih =>
    unfold pass
    dsimp only
    split
    · rename_i hzero
      exact .null hzero (ih (index + 1) s)
    · rename_i hzero
      split
      · exact .nil index s
      · rename_i hrunnable
        rw [Bool.not_eq_true, Bool.not_eq_false] at hrunnable
        split
        · exact .called rfl hzero hrunnable (.nil _ _)
        · exact .called rfl hzero hrunnable (ih (index + 1) _)

/-- What an ending says of the visits before it. -/
def Ends (program : Program σ) (runnable : Nat → Bool) (stops : Int → Bool)
    (first count index : Nat) (visits : List Visit) (s : σ) : Ending → Prop
  | .completed => visits.length = count ∧ ∀ v ∈ visits, stops v.result = false
  | .refused at_ target => visits.length < count ∧ (∀ v ∈ visits, stops v.result = false) ∧
      at_ = index + visits.length ∧ program.word s (first + at_ * 8) = target ∧ target ≠ 0 ∧
      runnable target = false
  | .stopped result => visits.length ≤ count ∧ stops result = true ∧
      ∃ before at_ target, visits = before ++ [.called at_ target result] ∧
        ∀ v ∈ before, stops v.result = false

theorem pass_ends (program : Program σ) (runnable : Nat → Bool) (stops : Int → Bool)
    (hstops : stops 0 = false) (first count index : Nat) (s : σ) :
    Ends program runnable stops first count index
      (pass program runnable stops first count index s).1
      (pass program runnable stops first count index s).2.2
      (pass program runnable stops first count index s).2.1 := by
  have hcons : ∀ {v : Visit} {visits : List Visit} {s : σ} {ending : Ending} {count index : Nat},
      stops v.result = false → Ends program runnable stops first count (index + 1) visits s ending →
      Ends program runnable stops first (count + 1) index (v :: visits) s ending := by
    intro v visits s ending count index hv h
    cases ending with
    | completed => exact ⟨congrArg Nat.succ h.1, List.forall_mem_cons.mpr ⟨hv, h.2⟩⟩
    | refused at_ target =>
      obtain ⟨hlength, hall, hat, hrest⟩ := h
      refine ⟨Nat.succ_lt_succ hlength, List.forall_mem_cons.mpr ⟨hv, hall⟩, ?_, hrest⟩
      rw [hat, List.length_cons]
      omega
    | stopped result =>
      obtain ⟨hlength, hstop, before, at_, target, heq, hall⟩ := h
      exact ⟨Nat.succ_le_succ hlength, hstop, v :: before, at_, target, by rw [heq]; rfl,
        List.forall_mem_cons.mpr ⟨hv, hall⟩⟩
  induction count generalizing index s with
  | zero => exact ⟨rfl, List.forall_mem_nil _⟩
  | succ count ih =>
    unfold pass
    dsimp only
    split
    · exact hcons hstops (ih (index + 1) s)
    · rename_i hzero
      split
      · rename_i hrunnable
        refine ⟨Nat.succ_pos _, List.forall_mem_nil _, rfl, rfl, hzero, ?_⟩
        simpa using hrunnable
      · split
        · rename_i hstop
          exact ⟨Nat.succ_le_succ (Nat.zero_le _), hstop, [], index, _, rfl, List.forall_mem_nil _⟩
        · rename_i hstop
          exact hcons (by simpa [Visit.result] using hstop) (ih (index + 1) _)

/-! ## The table of initializers that can fail -/

def Ending.refusals : Ending → Nat
  | .refused .. => 1
  | _ => 0

def Ending.failures : Ending → Nat
  | .stopped _ => 1
  | _ => 0

def nulls (visits : List Visit) : Nat := visits.countP fun v => !v.isCall

def calls (visits : List Visit) : Nat := visits.countP Visit.isCall

@[simp] theorem nulls_null (index : Nat) (visits : List Visit) :
    nulls (.null index :: visits) = nulls visits + 1 := by
  simp [nulls, Visit.isCall]

@[simp] theorem nulls_called (index target : Nat) (result : Int) (visits : List Visit) :
    nulls (.called index target result :: visits) = nulls visits := by
  simp [nulls, Visit.isCall]

@[simp] theorem calls_null (index : Nat) (visits : List Visit) :
    calls (.null index :: visits) = calls visits := by
  simp [calls, Visit.isCall]

@[simp] theorem calls_called (index target : Nat) (result : Int) (visits : List Visit) :
    calls (.called index target result :: visits) = calls visits + 1 :=
  List.countP_cons_of_pos rfl

theorem eventsOf_cons (shown : Int → Int) (v : Visit) (visits : List Visit) (ending : Ending) :
    eventsOf shown (v :: visits) ending = v.events shown ++ eventsOf shown visits ending := by
  simp [eventsOf]

/-- The report of a pass, on top of what it had. -/
def ReportE.after (report : ReportE) (visits : List Visit) (ending : Ending) : ReportE :=
  { report with
    nullEntryCount := report.nullEntryCount + nulls visits
    nonnullEntryCount := report.nonnullEntryCount + (calls visits + ending.refusals)
    invokedCount := report.invokedCount + calls visits
    failureCount := report.failureCount + ending.failures
    validationFailure := if ending.refusals = 0 then report.validationFailure else 5
    result := ending.result }

theorem ReportE.after_null (report : ReportE) (index : Nat) (visits : List Visit)
    (ending : Ending) :
    { report with nullEntryCount := report.nullEntryCount + 1 }.after visits ending =
      report.after (.null index :: visits) ending := by
  unfold ReportE.after
  rw [nulls_null, calls_null, Nat.add_right_comm]
  rfl

theorem ReportE.after_called (report : ReportE) (index target : Nat) (result : Int)
    (visits : List Visit) (ending : Ending) :
    { report with
      nonnullEntryCount := report.nonnullEntryCount + 1
      invokedCount := report.invokedCount + 1
      result }.after visits ending =
      report.after (.called index target result :: visits) ending := by
  have hnonnull : report.nonnullEntryCount + 1 + (calls visits + ending.refusals) =
      report.nonnullEntryCount + (calls visits + 1 + ending.refusals) := by omega
  have hinvoked : report.invokedCount + 1 + calls visits =
      report.invokedCount + (calls visits + 1) := by omega
  simp only [ReportE.after, nulls_called, calls_called, hnonnull, hinvoked]

theorem addAll_null (limit : Nat) (t : Trace) (shown : Int → Int) (index : Nat)
    (visits : List Visit) (ending : Ending) :
    (t.add limit (.entry index 0)).addAll limit (eventsOf shown visits ending) =
      t.addAll limit (eventsOf shown (.null index :: visits) ending) := by
  rw [eventsOf_cons]
  rfl

theorem addAll_called (limit : Nat) (t : Trace) (shown : Int → Int) (index target : Nat)
    (result : Int) (visits : List Visit) (ending : Ending) :
    (((t.add limit (.entry index target)).add limit (.callbackBegin index target)).add limit
      (.callbackResult index target (shown result))).addAll limit (eventsOf shown visits ending) =
      t.addAll limit (eventsOf shown (.called index target result :: visits) ending) := by
  rw [eventsOf_cons]
  rfl

/-- A callback that does not return 0 stops the pass. -/
def fails (result : Int) : Bool := decide (result ≠ 0)

def passE (program : Program σ) (context : ContextE) (first count index : Nat) (s : σ) :
    List Visit × Ending × σ :=
  pass program (isExecutableE context) fails first count index s

/-- What a pass leaves, on top of what was there. -/
def outcomeE (report : ReportE) (t : Trace) (p : List Visit × Ending × σ) : OutcomeE σ :=
  ⟨p.2.1.result, report.after p.1 p.2.1, t.addAll maxTraceEntriesE (eventsOf id p.1 p.2.1), p.2.2⟩

/-- The indices stay far from the end of the address space, so the checks on them pass. -/
theorem loopE_eq (context : ContextE) (hfits : (index + count) * 8 ≤ uintptrMax - first) (s : σ)
    (report : ReportE) (t : Trace) :
    loopE program context first count index s report t =
      outcomeE report t (passE program context first count index s) := by
  unfold passE
  induction count generalizing index s report t with
  | zero => rfl
  | succ count ih =>
    unfold loopE pass
    rw [if_neg (by omega), if_neg (by omega)]
    dsimp only
    generalize htarget : program.word s (first + index * 8) = target
    by_cases hzero : target = 0
    · rw [if_pos hzero, if_pos hzero, ih (by omega)]
      simp only [outcomeE, hzero, addAll_null, ReportE.after_null report index]
    · rw [if_neg hzero, if_neg hzero]
      by_cases hrunnable : isExecutableE context target = true
      · have hgo : ¬ ¬ isExecutableE context target = true := not_not_intro hrunnable
        rw [if_neg hgo, if_neg hgo]
        by_cases hresult : (program.call target s).1 = 0
        · have hpasses : ¬ fails (program.call target s).1 = true := by simp [fails, hresult]
          rw [if_neg (not_not_intro hresult), if_neg hpasses, ih (by omega)]
          simp only [outcomeE, ← addAll_called, ← ReportE.after_called, id]
        · have hstops : fails (program.call target s).1 = true := by simp [fails, hresult]
          rw [if_pos hresult, if_pos hstops]
          simp [outcomeE, ReportE.after, eventsOf, Visit.events, Trace.addAll_cons,
            Ending.events, Ending.refusals, Ending.failures, Ending.result, nulls, calls,
            Visit.isCall]
      · rw [if_pos hrunnable, if_pos hrunnable]
        simp [outcomeE, failE, ReportE.after, eventsOf, Trace.addAll_cons, Ending.events,
          Ending.refusals, Ending.failures, Ending.result, nulls, calls, asInt32]

/-- The whole table is accepted before the first entry is read. -/
structure AcceptsE (context : ContextE) (first last : Nat) : Prop where
  good : tableGoodE context first last = true
  size : (last - first) / 8 ≤ maxEntries

theorem aligned_sub (hfirst : first &&& 7 = 0) (hlast : last &&& 7 = 0) :
    (last - first) &&& 7 = 0 := by
  have hmod : ∀ x : Nat, x &&& 7 = x % 8 := fun x => Nat.and_two_pow_sub_one_eq_mod x 3
  rw [hmod] at hfirst hlast ⊢
  omega

theorem inittermE_accepted {context : ContextE} (h : AcceptsE context first last)
    (hlast : last < 2 ^ 64) (program : Program σ) (traceGiven : Bool) (s : σ) :
    inittermE program (some context) first last traceGiven s =
      outcomeE { entryCount := (last - first) / 8 } { given := traceGiven }
        (passE program context first ((last - first) / 8) 0 s) := by
  have hgood := h.good
  simp only [tableGoodE, Bool.and_eq_true, decide_eq_true_eq] at hgood
  obtain ⟨⟨⟨⟨⟨_, hfirst⟩, hlast'⟩, _⟩, _⟩, _⟩ := hgood
  unfold inittermE
  dsimp only
  rw [if_neg (not_not_intro h.good), if_neg (not_not_intro (aligned_sub hfirst hlast')),
    if_neg (Nat.not_lt.mpr h.size)]
  apply loopE_eq
  have hmul := Nat.div_mul_le_self (last - first) 8
  unfold uintptrMax
  omega

/-- A table that is not accepted is not touched. -/
theorem inittermE_refused {context : ContextE} (h : ¬ AcceptsE context first last)
    (program : Program σ) (traceGiven : Bool) (s : σ) :
    ∃ reason, (reason = tableReasonE ∨ reason = 3) ∧
      inittermE program (some context) first last traceGiven s =
        failE s {} { given := traceGiven } reason 0 0 := by
  unfold inittermE
  dsimp only
  by_cases hgood : tableGoodE context first last = true
  · have hall := hgood
    simp only [tableGoodE, Bool.and_eq_true, decide_eq_true_eq] at hall
    obtain ⟨⟨⟨⟨⟨_, hfirst⟩, hlast⟩, _⟩, _⟩, _⟩ := hall
    rw [if_neg (not_not_intro hgood), if_neg (not_not_intro (aligned_sub hfirst hlast)),
      if_pos (Nat.lt_of_not_le fun hsize => h ⟨hgood, hsize⟩)]
    exact ⟨3, Or.inr rfl, rfl⟩
  · rw [if_pos hgood]
    exact ⟨_, Or.inl rfl, rfl⟩

/-- What a caller sees of a trace: the first events up to the limit. -/
def shownTrace (limit : Nat) (given : Bool) (events : List Event) : Trace :=
  if given then ⟨true, events.take limit, decide (limit < events.length)⟩ else { given := false }

theorem addAll_shown (limit : Nat) (given : Bool) (events : List Event) :
    Trace.addAll limit { given } events = shownTrace limit given events := by
  cases given with
  | true => exact @Trace.addAll_given limit [] (Nat.zero_le limit) false events
  | false => exact Trace.addAll_not_given limit rfl events

/-- The pass that a call makes, with its value and its report. -/
structure RunsTableE (program : Program σ) (context : ContextE) (first last : Nat)
    (traceGiven : Bool) (s : σ) (outcome : OutcomeE σ) (visits : List Visit) (ending : Ending) :
    Prop where
  follows : Follows program (isExecutableE context) first 0 s visits outcome.state
  ends : Ends program (isExecutableE context) fails first ((last - first) / 8) 0 visits
    outcome.state ending
  result : outcome.result = ending.result
  zero : outcome.result = 0 ↔ ending = .completed
  report : outcome.report =
    { entryCount := (last - first) / 8, nullEntryCount := nulls visits
      nonnullEntryCount := calls visits + ending.refusals, invokedCount := calls visits
      failureCount := ending.failures
      validationFailure := if ending.refusals = 0 then 0 else 5, result := ending.result }
  trace : outcome.trace =
    shownTrace maxTraceEntriesE traceGiven (eventsOf id visits ending)

theorem Ends.result_eq_zero {runnable : Nat → Bool} {visits : List Visit} {ending : Ending}
    (h : Ends program runnable fails first count index visits s ending) :
    ending.result = 0 ↔ ending = .completed := by
  cases ending with
  | completed => exact iff_of_true rfl rfl
  | refused at_ target =>
    have hfailure : validationFailure ≠ 0 := by decide
    exact iff_of_false hfailure nofun
  | stopped result => exact iff_of_false (of_decide_eq_true h.2.1) nofun

/-- A null entry and three callbacks, of which the second fails. -/
def failingProgram : Program (List Nat) where
  word _ address :=
    if address = 0x1008 ∨ address = 0x1018 then 0x2000 else if address = 0x1010 then 0x2008 else 0
  call target s := (if target = 0x2008 then 7 else 0, target :: s)

def sampleContextE : ContextE :=
  { imageBase := 0x1000, imageEnd := 0x3000, tableBase := 0x1000, tableEnd := 0x3000
    relocationsApplied := true, executableRegions := [⟨0x2000, 0x2010⟩] }

/-- The callback that the report names after a visit. -/
def Visit.current (c : Nat × Nat) : Visit → Nat × Nat
  | .null _ => c
  | .called index target _ => (index, target)

def currentAfter (c : Nat × Nat) (visits : List Visit) : Nat × Nat :=
  visits.foldl Visit.current c

def Ending.isCompleted : Ending → Bool
  | .completed => true
  | _ => false

/-- The report of a pass, on top of what it had. It names the last callback that ran, unless the
pass got to the end of the table. -/
def Report.after (report : Report) (visits : List Visit) (ending : Ending) : Report :=
  let c := currentAfter (report.currentCallbackIndex, report.currentCallbackTarget) visits
  { report with
    nullEntryCount := report.nullEntryCount + nulls visits
    nonnullEntryCount := report.nonnullEntryCount + (calls visits + ending.refusals)
    invokedCount := report.invokedCount + calls visits
    returnedCount := report.returnedCount + calls visits
    currentCallbackIndex := if ending.isCompleted then noCallback else c.1
    currentCallbackTarget := if ending.isCompleted then 0 else c.2
    validationFailure := if ending.refusals = 0 then report.validationFailure else 5
    completed := if ending.isCompleted then 1 else report.completed
    status := ending.result }

theorem Report.after_null (report : Report) (index : Nat) (visits : List Visit)
    (ending : Ending) :
    { report with nullEntryCount := report.nullEntryCount + 1 }.after visits ending =
      report.after (.null index :: visits) ending := by
  unfold Report.after
  rw [nulls_null, calls_null, Nat.add_right_comm]
  rfl

theorem Report.after_called (report : Report) (index target : Nat) (result : Int)
    (visits : List Visit) (ending : Ending) :
    { report with
      nonnullEntryCount := report.nonnullEntryCount + 1
      currentCallbackIndex := index
      currentCallbackTarget := target
      invokedCount := report.invokedCount + 1
      returnedCount := report.returnedCount + 1 }.after visits ending =
      report.after (.called index target result :: visits) ending := by
  have hnonnull : report.nonnullEntryCount + 1 + (calls visits + ending.refusals) =
      report.nonnullEntryCount + (calls visits + 1 + ending.refusals) := by omega
  have hinvoked : report.invokedCount + 1 + calls visits =
      report.invokedCount + (calls visits + 1) := by omega
  have hreturned : report.returnedCount + 1 + calls visits =
      report.returnedCount + (calls visits + 1) := by omega
  simp only [Report.after, nulls_called, calls_called, hnonnull, hinvoked, hreturned,
    currentAfter, List.foldl_cons, Visit.current]

/-- The callbacks have no result, and the trace has 0 for it. -/
def noResult (_ : Int) : Int := 0

def passVoid (program : Program σ) (context : Context) (first count index : Nat) (s : σ) :
    List Visit × Ending × σ :=
  pass program (targetIsExecutable context) (fun _ => false) first count index s

def outcomeVoid (report : Report) (t : Trace) (p : List Visit × Ending × σ) : Outcome σ :=
  ⟨p.2.1.result, report.after p.1 p.2.1, t.addAll maxTraceEntries (eventsOf noResult p.1 p.2.1),
    p.2.2⟩

theorem loop_eq (context : Context) (hfits : (index + count) * 8 ≤ uintptrMax - first)
    (hlast : first + (index + count) * 8 ≤ last) (s : σ) (report : Report) (t : Trace) :
    loop program context first last count index s report t =
      outcomeVoid report t (passVoid program context first count index s) := by
  unfold passVoid
  induction count generalizing index s report t with
  | zero => rfl
  | succ count ih =>
    unfold loop pass
    rw [if_neg (by omega), if_neg (by omega)]
    dsimp only
    generalize htarget : program.word s (first + index * 8) = target
    by_cases hzero : target = 0
    · rw [if_pos hzero, if_pos hzero, ih (by omega) (by omega)]
      simp only [outcomeVoid, hzero, addAll_null, Report.after_null report index]
    · rw [if_neg hzero, if_neg hzero]
      by_cases hrunnable : targetIsExecutable context target = true
      · have hgo : ¬ ¬ targetIsExecutable context target = true := not_not_intro hrunnable
        rw [if_neg hgo, if_neg hgo, if_neg Bool.false_ne_true, ih (by omega) (by omega)]
        simp only [outcomeVoid, ← addAll_called, ← Report.after_called, noResult]
      · rw [if_pos hrunnable, if_pos hrunnable]
        simp [outcomeVoid, failTable, Report.after, eventsOf, Trace.addAll_cons, Ending.events,
          Ending.refusals, Ending.isCompleted, Ending.result, nulls, calls, currentAfter, asInt32]

structure Accepts (context : Context) (first last : Nat) : Prop where
  good : tableGood context first last = true
  size : (last - first) / 8 ≤ maxEntries

theorem initterm_accepted {context : Context} (h : Accepts context first last)
    (hlast : last < 2 ^ 64) (program : Program σ) (traceGiven : Bool) (s : σ) :
    initterm program (some context) first last traceGiven s =
      outcomeVoid { entryCount := (last - first) / 8 } { given := traceGiven }
        (passVoid program context first ((last - first) / 8) 0 s) := by
  have hgood := h.good
  simp only [tableGood, Bool.and_eq_true, decide_eq_true_eq] at hgood
  obtain ⟨⟨⟨⟨⟨⟨_, hfirst⟩, hlast'⟩, hle⟩, _⟩, _⟩, _⟩ := hgood
  have hmul := Nat.div_mul_le_self (last - first) 8
  unfold initterm
  dsimp only
  rw [if_neg (not_not_intro h.good), if_neg (not_not_intro (aligned_sub hfirst hlast')),
    if_neg (Nat.not_lt.mpr h.size)]
  apply loop_eq
  · unfold uintptrMax
    omega
  · omega

/-! ## The two passes on one image -/

/-- A pass that completes is also the pass of a looser check that stops for no result. -/
theorem pass_of_completed {runnable : Nat → Bool} (runnable' : Nat → Bool) {stops : Int → Bool}
    (hmore : ∀ target, runnable target = true → runnable' target = true)
    (hdone : (pass program runnable stops first count index s).2.1 = .completed) :
    pass program runnable' (fun _ => false) first count index s =
      pass program runnable stops first count index s := by
  induction count generalizing index s with
  | zero => rfl
  | succ count ih =>
    unfold pass at hdone ⊢
    dsimp only at hdone ⊢
    split
    · rename_i hzero
      rw [if_pos hzero] at hdone
      rw [ih hdone]
    · rename_i hzero
      rw [if_neg hzero] at hdone
      by_cases hrunnable : runnable (program.word s (first + index * 8)) = true
      · rw [if_neg (not_not_intro hrunnable)] at hdone
        rw [if_neg (not_not_intro (hmore _ hrunnable)), if_neg (not_not_intro hrunnable),
          if_neg Bool.false_ne_true]
        split at hdone
        · cases hdone
        · rename_i hgoes
          rw [if_neg hgoes, ih hdone]
      · rw [if_pos hrunnable] at hdone
        cases hdone

theorem targetIsExecutable_of_code {image : Image} (hcode : CodeInMemory image) {target : Nat}
    (h : isExecutableE (contextOfE image) target = true) :
    targetIsExecutable (contextOf image) target = true := by
  unfold isExecutableE at h
  unfold targetIsExecutable
  split at h
  · cases h
  · rename_i hgood
    rw [if_neg hgood]
    obtain ⟨code, hc, hin⟩ := List.any_eq_true.mp h
    obtain ⟨region, hr, hexecutable, hbase, hstop⟩ := hcode code hc
    simp only [contains, Bool.and_eq_true, decide_eq_true_eq] at hin
    refine List.any_eq_true.mpr ⟨region, hr, ?_⟩
    simp only [contains, Bool.and_eq_true, decide_eq_true_eq]
    exact ⟨hexecutable, by omega, by omega⟩

theorem configureE_some {context c : ContextE} (h : configureE context = some c) : c = context := by
  unfold configureE at h
  split at h
  · cases h
  · split at h <;> cases h
    rfl

theorem configure_some {context c : Context} (h : configure context = some c) : c = context := by
  unfold configure at h
  split at h
  · cases h
  · split at h <;> cases h
    rfl

/-- A table of a loaded image that both functions accept. When all its callbacks return 0, the
function that ignores results runs the same callbacks, in the same states. -/
theorem the_passes_agree_on_a_loaded_image {file : Buffers.Buffer} {base : Option Nat}
    {exports : List String} {fuel : Nat} {image : Image} {context : Context}
    (hload : PeImage.loadPeImage file base exports fuel = .ok image) (hlast : last < 2 ^ 64)
    (traceGiven : Bool)
    (hdone : (inittermE program (configureE (contextOfE image)) first last traceGiven s).result = 0)
    (hconfigured : configure (contextOf image) = some context)
    (haccepts : Accepts context first last) :
    (initterm program (some context) first last traceGiven s).state =
      (inittermE program (configureE (contextOfE image)) first last traceGiven s).state ∧
    (initterm program (some context) first last traceGiven s).result = 0 ∧
    (initterm program (some context) first last traceGiven s).report.invokedCount =
      (inittermE program (configureE (contextOfE image)) first last traceGiven
        s).report.invokedCount ∧
    (initterm program (some context) first last traceGiven s).report.nullEntryCount =
      (inittermE program (configureE (contextOfE image)) first last traceGiven
        s).report.nullEntryCount := by
  obtain rfl := configure_some hconfigured
  have hfailure : validationFailure ≠ 0 := by decide
  cases hE : configureE (contextOfE image) with
  | none =>
    rw [hE] at hdone
    exact absurd hdone hfailure
  | some contextE =>
    obtain rfl := configureE_some hE
    rw [hE] at hdone
    by_cases hacceptsE : AcceptsE (contextOfE image) first last
    · have hends := pass_ends program (isExecutableE (contextOfE image)) fails rfl first
        ((last - first) / 8) 0 s
      rw [inittermE_accepted hacceptsE hlast] at hdone ⊢
      have hcompleted := hends.result_eq_zero.mp hdone
      rw [initterm_accepted haccepts hlast]
      have hsame := pass_of_completed (targetIsExecutable (contextOf image))
        (fun target => targetIsExecutable_of_code (PeImage.loadPeImage_codeInMemory hload))
        hcompleted
      unfold outcomeVoid outcomeE passVoid passE
      rw [hsame]
      exact ⟨rfl, hdone, rfl, rfl⟩
    · obtain ⟨reason, _, hrefused⟩ := inittermE_refused hacceptsE program traceGiven s
      rw [hrefused] at hdone
      exact absurd hdone hfailure

/-- A file with one section, of one word, which is its own only initializer. -/
def initializerFile : Buffers.Buffer :=
  PeImage.fileOf 0x178
    [(0, 0x5A4D), (0x3C, 0x40), (0x40, 0x4550), (0x46, 1), (0x54, 0xF0), (0x58, 0x20B),
      (0x70, 0x100000), (0x90, 0x180), (0x94, 0x170), (0x150, 8), (0x154, 0x178), (0x158, 8),
      (0x15C, 0x170), (0x16C, 0x60000000), (0x170, 0x100178)]

/-- Its callback counts its calls. -/
def countingProgram : Program Nat where
  word _ address := if address = 0x100178 then 0x100178 else 0
  call _ s := (0, s + 1)

theorem the_passes_agree_on_the_initializer_file :
    ∃ image context,
      PeImage.loadPeImage initializerFile (some 0x100000) [] 1 = .ok image ∧
      (initterm countingProgram (some context) 0x100178 0x100180 true 0).state = 1 ∧
      (inittermE countingProgram (configureE (contextOfE image)) 0x100178 0x100180 true 0).state =
        1 := by
  have hgives : Buffers.Outcome.gives (fun image =>
      decide ((inittermE countingProgram (configureE (contextOfE image)) 0x100178 0x100180 true
        0).result = 0) &&
      decide ((inittermE countingProgram (configureE (contextOfE image)) 0x100178 0x100180 true
        0).state = 1) &&
      (configure (contextOf image)).isSome && tableGood (contextOf image) 0x100178 0x100180)
      (PeImage.loadPeImage initializerFile (some 0x100000) [] 1) = true := by
    decide +kernel
  obtain ⟨image, hload, hall⟩ := Buffers.Outcome.exists_of_gives hgives
  simp only [Bool.and_eq_true, decide_eq_true_eq, Option.isSome_iff_exists] at hall
  obtain ⟨⟨⟨hresult, hstate⟩, context, hcontext⟩, hgood⟩ := hall
  have haccepts : Accepts context 0x100178 0x100180 := by
    rw [configure_some hcontext]
    exact ⟨hgood, by decide⟩
  have hagree := the_passes_agree_on_a_loaded_image hload (by decide) true hresult hcontext haccepts
  exact ⟨image, context, hload, hagree.1.trans hstate, hstate⟩

end Gate4Harness.CrtInitterm
