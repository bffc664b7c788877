import BoostSystem.ApiRuns

/-!
# The books of a run

What the statistics and the store must hold is read off the log since the last cleanup: every code
that was returned has been counted, every single one of them charged, every message kept, and two
handles kept for every comparison. Whatever else is called, and whatever throws, changes nothing.
-/

namespace BoostSystem.Api

open Runs Scripts

abbrev Entry := Call × Outcome

def isCleanup : Entry → Bool
  | (.cleanup, _) => true
  | _ => false

def sinceCleanup (log : Log) : Log := log.rtakeWhile fun entry => !isCleanup entry

/-- The codes that the call has returned. -/
def codesOf : Entry → List ErrorCode
  | (_, .ok (.code code)) => [code]
  | (_, .ok (.codes codes)) => codes
  | _ => []

/-- What the call is charged with. -/
def chargeOf : Entry → ℕ
  | (_, .ok (.code code)) => code.message.length + 16
  | _ => 0

/-- What a comparison stores of a code. -/
def storedCode (code : ErrorCode) : BoostErrorCode :=
  .ofPair (toInt32 code.value) (toInt32 (categoryType code.category))

/-- The codes that a comparison which has returned leaves in the store. -/
def comparedOf : Entry → List BoostErrorCode
  | (.compareErrorCodes code1 code2, .ok _) => [storedCode code1, storedCode code2]
  | _ => []

/-- Neither `initialize` nor `cleanup`. -/
def isMethod : Call → Bool
  | .initializeCall _ | .cleanup => false
  | _ => true

/-- The statistics that the log calls for. -/
def accountOf (log : Log) : MemoryUsage where
  totalAllocated := (log.map chargeOf).sum
  internedMessages := 0
  errorCodesCreated := (log.flatMap codesOf).length
  peakUsage := 0

/-- The storage begins with these, and goes on only when it is full. -/
def Holds {α : Type} (storage items : List α) : Prop :=
  ∃ rest, storage = items ++ rest ∧ (rest ≠ [] → ¬ storage.length + 1 < 2 ^ 31)

/-- The state is as the log says. -/
structure Books (log : Log) (s : ApiState) : Prop where
  usage : s.memoryUsage = accountOf log
  idle : s.initialized = false → log.flatMap codesOf = [] ∧ log.flatMap comparedOf = []
  messages : s.initialized = true →
    Holds s.store.messageStorage ((log.flatMap codesOf).map ErrorCode.message)
  handles : s.initialized = true → Holds s.store.errorStorage (log.flatMap comparedOf)
  interned : s.initialized = true → s.store.internedMessages = []

/-- What a method leaves of the books, whatever they hold: one more entry. -/
structure Entered (s : ApiState) (entry : Entry) (s' : ApiState) : Prop where
  initialized : s'.initialized = s.initialized
  usage : s'.memoryUsage = { s.memoryUsage with
    totalAllocated := s.memoryUsage.totalAllocated + chargeOf entry
    errorCodesCreated := s.memoryUsage.errorCodesCreated + (codesOf entry).length }
  idle : s.initialized = false → codesOf entry = [] ∧ comparedOf entry = []
  messages : ∀ items, Holds s.store.messageStorage items →
    Holds s'.store.messageStorage (items ++ (codesOf entry).map ErrorCode.message)
  handles : ∀ items, Holds s.store.errorStorage items →
    Holds s'.store.errorStorage (items ++ comparedOf entry)
  interned : s'.store.internedMessages = s.store.internedMessages

/-! ### One more entry -/

theorem holds_nil {α : Type} : Holds ([] : List α) [] := ⟨[], rfl, fun h => absurd rfl h⟩

theorem Holds.nothing {α : Type} {storage items : List α} (h : Holds storage items) :
    Holds storage (items ++ []) := by rwa [List.append_nil]

/-- A storage with room holds nothing else, and takes more. -/
theorem Holds.more {α : Type} {storage items more : List α} (h : Holds storage items)
    (hroom : more ≠ [] → storage.length + 1 < 2 ^ 31) : Holds (storage ++ more) (items ++ more) := by
  obtain ⟨rest, rfl, hfull⟩ := h
  by_cases hmore : more = []
  · subst hmore
    rw [List.append_nil, List.append_nil]
    exact ⟨rest, rfl, hfull⟩
  · have hrest : rest = [] := by
      by_contra hne
      exact hfull hne (hroom hmore)
    subst hrest
    exact ⟨[], by rw [List.append_nil, List.append_nil], fun hne => absurd rfl hne⟩

/-- What fills the storage up leaves what it held. -/
theorem Holds.full {α : Type} {storage items rest : List α} (h : Holds storage items)
    (hrest : rest ≠ [] → ¬ (storage ++ rest).length + 1 < 2 ^ 31) :
    Holds (storage ++ rest) items := by
  obtain ⟨before, rfl, hfull⟩ := h
  refine ⟨before ++ rest, List.append_assoc _ _ _, ?_⟩
  intro hne
  by_cases hlater : rest = []
  · subst hlater
    rw [List.append_nil] at hne ⊢
    exact hfull hne
  · exact hrest hlater

/-- Nothing is returned that the books would show. -/
structure Blank (entry : Entry) : Prop where
  codes : codesOf entry = []
  compared : comparedOf entry = []

theorem blank_error (call : Call) (e : JsError) : Blank (call, .error e) := by
  constructor
  · rfl
  · cases call with
    | _ => rfl

/-- Only codes that are returned are charged. -/
theorem chargeOf_eq_zero {entry : Entry} (h : codesOf entry = []) : chargeOf entry = 0 := by
  obtain ⟨call, outcome⟩ := entry
  cases outcome with
  | error e => rfl
  | ok reply =>
    cases reply with
    | code code => exact absurd h (List.cons_ne_nil _ _)
    | _ => rfl

theorem accountOf_eq_nil {log : Log} (h : log.flatMap codesOf = []) : accountOf log = accountOf [] := by
  have hcharges : (log.map chargeOf).sum = 0 := by
    rw [List.sum_eq_zero_iff]
    intro charge hcharge
    obtain ⟨entry, hentry, rfl⟩ := List.mem_map.mp hcharge
    exact chargeOf_eq_zero (List.flatMap_eq_nil_iff.mp h entry hentry)
  rw [accountOf, hcharges, h]
  rfl

theorem accountOf_append (log : Log) (entry : Entry) :
    accountOf (log ++ [entry]) = { accountOf log with
      totalAllocated := (accountOf log).totalAllocated + chargeOf entry
      errorCodesCreated := (accountOf log).errorCodesCreated + (codesOf entry).length } := by
  simp only [accountOf, List.map_append, List.map_singleton, List.sum_append, List.sum_singleton,
    List.flatMap_append, List.flatMap_singleton, List.length_append]

section Entries

variable {log : Log} {s s' : ApiState} {entry : Entry}

theorem entered_blank (hblank : Blank entry) (hbooks : s'.books = s.books) : Entered s entry s' := by
  obtain ⟨hinit, hrest⟩ := Prod.mk.inj hbooks
  obtain ⟨husage, hstore⟩ := Prod.mk.inj hrest
  refine ⟨hinit, ?_, fun _ => ⟨hblank.codes, hblank.compared⟩, ?_, ?_, by rw [hstore]⟩
  · rw [husage, chargeOf_eq_zero hblank.codes, hblank.codes]
    rfl
  · intro items hitems
    rw [hstore, hblank.codes]
    exact hitems.nothing
  · intro items hitems
    rw [hstore, hblank.compared]
    exact hitems.nothing

theorem entered_error (s : ApiState) (call : Call) (e : JsError) :
    Entered s (call, .error e) s := entered_blank (blank_error call e) rfl

theorem replying_apply {α : Type} (reply : α → Reply) (method : Js α) (s : ApiState) :
    replying reply method s = ((method s).1.map reply, (method s).2) := by
  rcases Script.outcome_cases method s with ⟨a, s', h⟩ | ⟨e, s', h⟩
  · rw [replying, Script.bind_of_ok h, h]
    rfl
  · rw [replying, Script.bind_of_error h, h]
    rfl

/-- A method that leaves the books alone and returns nothing that they would show. -/
theorem entered_observe {α : Type} {reply : α → Reply} {method : Js α}
    (hkeeps : method.Keeps ApiState.books) (call : Call)
    (hblank : ∀ a, Blank (call, .ok (reply a))) :
    Entered s (call, (replying reply method s).1) (replying reply method s).2 := by
  have hbooks := hkeeps s
  rw [replying_apply]
  rcases Script.outcome_cases method s with ⟨a, s', hmethod⟩ | ⟨e, s', hmethod⟩
  · rw [hmethod] at hbooks ⊢
    exact entered_blank (hblank a) hbooks
  · rw [hmethod] at hbooks ⊢
    exact entered_blank (blank_error call e) hbooks

theorem entered_ready (hinit : s.initialized = true) (hinit' : s'.initialized = true)
    (husage : s'.memoryUsage = { s.memoryUsage with
      totalAllocated := s.memoryUsage.totalAllocated + chargeOf entry
      errorCodesCreated := s.memoryUsage.errorCodesCreated + (codesOf entry).length })
    (hmessages : ∀ items, Holds s.store.messageStorage items →
      Holds s'.store.messageStorage (items ++ (codesOf entry).map ErrorCode.message))
    (hhandles : ∀ items, Holds s.store.errorStorage items →
      Holds s'.store.errorStorage (items ++ comparedOf entry))
    (hinterned : s'.store.internedMessages = s.store.internedMessages) : Entered s entry s' where
  initialized := hinit'.trans hinit.symm
  usage := husage
  idle := fun hidle => absurd (hinit.symm.trans hidle) (by decide)
  messages := hmessages
  handles := hhandles
  interned := hinterned

theorem Books.entered (h : Books log s) (hentered : Entered s entry s') :
    Books (log ++ [entry]) s' := by
  constructor
  · rw [hentered.usage, h.usage, accountOf_append]
  · rw [hentered.initialized, List.flatMap_append, List.flatMap_append, List.flatMap_singleton,
      List.flatMap_singleton]
    intro hidle
    rw [(h.idle hidle).1, (h.idle hidle).2, (hentered.idle hidle).1, (hentered.idle hidle).2]
    exact ⟨rfl, rfl⟩
  · rw [hentered.initialized, List.flatMap_append, List.flatMap_singleton, List.map_append]
    exact fun hinit => hentered.messages _ (h.messages hinit)
  · rw [hentered.initialized, List.flatMap_append, List.flatMap_singleton]
    exact fun hinit => hentered.handles _ (h.handles hinit)
  · rw [hentered.initialized, hentered.interned]
    exact h.interned

theorem Books.failed (h : Books log s) (call : Call) (e : JsError) :
    Books (log ++ [(call, .error e)]) s := h.entered (entered_error s call e)

end Entries

/-! ### The calls that change the books -/

section Changes

variable {log : Log} {s : ApiState}

theorem Books.cleaned (h : Books log s) : Books [] s.unload := by
  unfold ApiState.unload
  split_ifs with hinit
  · exact ⟨rfl, fun _ => ⟨rfl, rfl⟩, nofun, nofun, nofun⟩
  · have husage := h.usage
    rw [accountOf_eq_nil (h.idle (Bool.eq_false_iff.mpr hinit)).1] at husage
    exact ⟨husage, fun _ => ⟨rfl, rfl⟩, fun hready => absurd hready hinit,
      fun hready => absurd hready hinit, fun hready => absurd hready hinit⟩

theorem initializeModule_of_ready (hinit : s.initialized = true) (loaded : Option Heap) :
    initializeModule loaded s = (.ok (), s) := by
  unfold initializeModule
  rw [Script.bind_of_ok (Script.get_apply s), if_pos hinit, Script.pure_apply]

theorem initializeModule_of_not_ready (hinit : s.initialized ≠ true) (loaded : Option Heap) :
    initializeModule loaded s =
      match loaded with
      | some heap => (.ok (), s.load heap)
      | none => (.error .failure, s) := by
  unfold initializeModule
  rw [Script.bind_of_ok (Script.get_apply s), if_neg hinit]
  cases loaded with
  | some heap => rfl
  | none => rfl

theorem Books.loaded (h : Books log s) (loaded : Option Heap) :
    Books (log ++ [(.initializeCall loaded,
        (replying (fun _ => .done) (initializeModule loaded) s).1)])
      (replying (fun _ => .done) (initializeModule loaded) s).2 := by
  rw [replying_apply]
  by_cases hinit : s.initialized = true
  · rw [initializeModule_of_ready hinit]
    exact h.entered (entered_blank ⟨rfl, rfl⟩ rfl)
  · rw [initializeModule_of_not_ready hinit]
    cases loaded with
    | none => exact h.failed _ _
    | some heap =>
      have hidle := h.idle (Bool.eq_false_iff.mpr hinit)
      have hblank : Blank (Call.initializeCall (some heap), Except.ok Reply.done) := ⟨rfl, rfl⟩
      obtain ⟨hcodes, hcompared⟩ := hidle
      have hbefore : Books log { s with store := .empty, initialized := true } := by
        refine ⟨h.usage, nofun, fun _ => ?_, fun _ => ?_, fun _ => rfl⟩
        · rw [hcodes]
          exact holds_nil
        · rw [hcompared]
          exact holds_nil
      exact hbefore.entered (entered_blank hblank rfl)

/-- The state with these messages in its store. -/
def ApiState.withMessages (s : ApiState) (messages : List String) : ApiState :=
  { s with store := { s.store with messageStorage := s.store.messageStorage ++ messages } }

theorem withMessages_nil (s : ApiState) : s.withMessages [] = s := by
  simp only [ApiState.withMessages, List.append_nil]

theorem withMessages_append (s : ApiState) (messages more : List String) :
    (s.withMessages messages).withMessages more = s.withMessages (messages ++ more) := by
  simp only [ApiState.withMessages, List.append_assoc]

/-- The state with these codes in its store. -/
def ApiState.withCodes (s : ApiState) (codes : List BoostErrorCode) : ApiState :=
  { s with store := { s.store with errorStorage := s.store.errorStorage ++ codes } }

/-- Two codes are stored, or the storage is full with one of them or none. -/
theorem compareErrorCodes_cases (hinit : s.initialized = true) (code1 code2 : ErrorCode) :
    (s.store.errorStorage.length + 2 < 2 ^ 31 ∧ compareErrorCodes code1 code2 s =
      (.ok (comparison code1 code2), s.withCodes [storedCode code1, storedCode code2])) ∨
    ∃ rest, compareErrorCodes code1 code2 s = (.error .trap, s.withCodes rest) ∧
      (rest ≠ [] → ¬ (s.store.errorStorage ++ rest).length + 1 < 2 ^ 31) := by
  by_cases hroom : s.store.errorStorage.length + 2 < 2 ^ 31
  · left
    refine ⟨hroom, ?_⟩
    rw [compareErrorCodes_eq hinit hroom code1 code2, ApiState.withCodes]
    simp only [withCode, storedCode, List.append_assoc, List.singleton_append]
  · right
    rw [compareErrorCodes, Script.bind_of_ok (ensureInitialized_of_ready hinit)]
    by_cases hone : s.store.errorStorage.length + 1 < 2 ^ 31
    · have hfirst := createErrorCodeHandle_eq (s := s) code1.value (categoryType code1.category) hone
      have hsecond := createErrorCodeHandle_of_full (s := s.withCodes [storedCode code1])
        code2.value (categoryType code2.category)
        (by rw [ApiState.withCodes, List.length_append, List.length_singleton]; omega)
      rw [Script.bind_of_ok hfirst]
      refine ⟨[storedCode code1], Script.bind_of_error hsecond _, fun _ => ?_⟩
      rw [List.length_append, List.length_singleton]
      omega
    · have hfirst := createErrorCodeHandle_of_full (s := s) code1.value
        (categoryType code1.category) hone
      rw [Script.bind_of_error hfirst]
      refine ⟨[], ?_, fun hne => absurd rfl hne⟩
      simp only [ApiState.withCodes, List.append_nil]

theorem entered_compared (s : ApiState) (code1 code2 : ErrorCode) :
    Entered s (.compareErrorCodes code1 code2,
        (replying .comparison (compareErrorCodes code1 code2) s).1)
      (replying .comparison (compareErrorCodes code1 code2) s).2 := by
  rw [replying_apply]
  by_cases hinit : s.initialized = true
  · rcases compareErrorCodes_cases hinit code1 code2 with ⟨hroom, hcall⟩ | ⟨rest, hcall, hfull⟩
    · rw [hcall]
      refine entered_ready hinit hinit rfl (fun items hitems => ?_) (fun items hitems => ?_) rfl
      · exact hitems.nothing
      · exact hitems.more fun _ => by omega
    · rw [hcall]
      refine entered_ready hinit hinit rfl (fun items hitems => ?_) (fun items hitems => ?_) rfl
      · exact hitems.nothing
      · exact (hitems.full hfull).nothing
  · rw [compareErrorCodes, Script.bind_of_error (ensureInitialized_of_not_ready hinit)]
    exact entered_error _ _ _

/-- All the messages of a bulk are stored, or as many as there was room for. -/
theorem bulkLoop_cases (s : ApiState) (values : List ℤ) (category : ErrorCategory) :
    ((values ≠ [] → s.MessageRoom) ∧ values.mapM' (bulkCode category) s =
      (.ok (values.map (createdCode · category)),
        s.withMessages ((values.map (createdCode · category)).map ErrorCode.message))) ∨
    ∃ rest, values.mapM' (bulkCode category) s = (.error .trap, s.withMessages rest) ∧
      ¬ (s.store.messageStorage ++ rest).length + 1 < 2 ^ 31 := by
  induction values generalizing s with
  | nil =>
    left
    refine ⟨fun hne => absurd rfl hne, ?_⟩
    rw [List.map_nil, List.map_nil, withMessages_nil]
    rfl
  | cons value values ih =>
    rw [List.mapM'_cons]
    rcases bulkCode_cases s value category with ⟨hroom, hcode⟩ | ⟨hfull, hcode⟩
    · rw [Script.bind_of_ok hcode]
      rcases ih (s.withMessages [(createdCode value category).message]) with
        ⟨-, hloop⟩ | ⟨rest, hloop, hrest⟩
      · left
        refine ⟨fun _ => hroom, ?_⟩
        rw [withMessages_append] at hloop
        exact Script.bind_of_ok hloop _
      · right
        rw [withMessages_append] at hloop
        refine ⟨_, Script.bind_of_error hloop _, ?_⟩
        rwa [← List.append_assoc]
    · right
      refine ⟨[], ?_, ?_⟩
      · rw [Script.bind_of_error hcode, withMessages_nil]
      · rwa [List.append_nil]

theorem entered_created (s : ApiState) (value : ℤ) (category : ErrorCategory) :
    Entered s (.createErrorCode value category,
        (replying .code (createErrorCode value category) s).1)
      (replying .code (createErrorCode value category) s).2 := by
  rw [replying_apply]
  by_cases hinit : s.initialized = true
  · rcases createErrorCode_cases hinit value category with ⟨hroom, hcall⟩ | ⟨-, hcall⟩
    · rw [hcall]
      refine entered_ready hinit hinit rfl (fun items hitems => ?_) (fun items hitems => ?_) rfl
      · exact hitems.more fun _ => hroom
      · exact hitems.nothing
    · rw [hcall]
      exact entered_error _ _ _
  · rw [createErrorCode, Script.bind_of_error (ensureInitialized_of_not_ready hinit)]
    exact entered_error _ _ _

theorem entered_createdBulk (s : ApiState) (values : List ℤ) (category : ErrorCategory) :
    Entered s (.createErrorCodesBulk values category,
        (replying .codes (createErrorCodesBulk values category) s).1)
      (replying .codes (createErrorCodesBulk values category) s).2 := by
  rw [replying_apply]
  by_cases hinit : s.initialized = true
  · rcases createErrorCodesBulk_eq hinit values category with
      ⟨results, s', hloop, hcall⟩ | ⟨e, s', hloop, hcall, -⟩
    · rcases bulkLoop_cases s values category with ⟨hroom, hbulk⟩ | ⟨rest, hbulk, -⟩
      · obtain ⟨hresults, rfl⟩ := Prod.mk.inj (hloop.symm.trans hbulk)
        rw [hcall, Except.ok.inj hresults]
        refine entered_ready hinit hinit ?_ (fun items hitems => ?_) (fun items hitems => ?_) rfl
        · simp only [Except.map, codesOf, chargeOf, List.length_map, Nat.add_zero]
        · apply hitems.more
          intro hne
          apply hroom
          rintro rfl
          exact hne rfl
        · exact hitems.nothing
      · rw [hloop] at hbulk
        exact nomatch hbulk
    · rcases bulkLoop_cases s values category with ⟨-, hbulk⟩ | ⟨rest, hbulk, hfull⟩
      · rw [hloop] at hbulk
        exact nomatch hbulk
      · obtain ⟨-, rfl⟩ := Prod.mk.inj (hloop.symm.trans hbulk)
        rw [hcall]
        refine entered_ready hinit hinit rfl (fun items hitems => ?_) (fun items hitems => ?_) rfl
        · exact (hitems.full fun _ => hfull).nothing
        · exact hitems.nothing
  · rw [createErrorCodesBulk, Script.bind_of_error (ensureInitialized_of_not_ready hinit)]
    exact entered_error _ _ _

end Changes

/-! ### Whole runs -/

theorem sinceCleanup_append (log : Log) {entry : Entry} (h : isCleanup entry = false) :
    sinceCleanup (log ++ [entry]) = sinceCleanup log ++ [entry] :=
  List.rtakeWhile_concat_pos _ _ _ (by rw [h]; rfl)

theorem sinceCleanup_cleanup (log : Log) (outcome : Outcome) :
    sinceCleanup (log ++ [(.cleanup, outcome)]) = [] :=
  List.rtakeWhile_concat_neg _ _ _ Bool.false_ne_true

/-- What every method leaves of the books. -/
theorem entered_perform (env : Env) (s : ApiState) {call : Call} (h : isMethod call = true) :
    Entered s (call, (perform env call s).1) (perform env call s).2 := by
  cases call with
  | cleanup | initializeCall => cases h
  | createErrorCode value category => exact entered_created s value category
  | createErrorCodesBulk values category => exact entered_createdBulk s values category
  | compareErrorCodes code1 code2 => exact entered_compared s code1 code2
  | compareErrorCodesBulk codes1 codes2 enableSIMD =>
    exact entered_observe (compareErrorCodesBulk_keeps_books _ _ _) _ fun _ => ⟨rfl, rfl⟩
  | findErrorCode codes target =>
    exact entered_observe (findErrorCode_keeps_books _ _) _ fun _ => ⟨rfl, rfl⟩
  | validateErrorCodes codes minValue maxValue =>
    exact entered_observe (validateErrorCodes_keeps_books _ _ _) _ fun _ => ⟨rfl, rfl⟩
  | getErrorStats codes => exact entered_observe (getErrorStats_keeps_books codes) _ fun _ => ⟨rfl, rfl⟩
  | getSIMDMetrics => exact entered_observe getSIMDMetrics_keeps_books _ fun _ => ⟨rfl, rfl⟩
  | isInitialized | getMemoryStats => exact entered_blank ⟨rfl, rfl⟩ rfl

/-- Methods are no cleanups. -/
theorem isCleanup_of_isMethod {call : Call} (h : isMethod call = true) (outcome : Outcome) :
    isCleanup (call, outcome) = false := by
  cases call with
  | cleanup => cases h
  | _ => rfl

theorem Books.step {log : Log} {s : ApiState} (h : Books (sinceCleanup log) s) (env : Env)
    (call : Call) : Books (sinceCleanup (log ++ [(call, (perform env call s).1)]))
      (perform env call s).2 := by
  cases hmethod : isMethod call with
  | true =>
    rw [sinceCleanup_append _ (isCleanup_of_isMethod hmethod _)]
    exact h.entered (entered_perform env s hmethod)
  | false =>
    cases call with
    | cleanup =>
      rw [sinceCleanup_cleanup]
      exact h.cleaned
    | initializeCall loaded =>
      rw [sinceCleanup_append _ rfl]
      exact h.loaded loaded
    | _ => cases hmethod

theorem constructed_books : Books [] .constructed :=
  ⟨rfl, fun _ => ⟨rfl, rfl⟩, nofun, nofun, nofun⟩

theorem logged_books (env : Env) (calls : List Call) :
    Books (sinceCleanup (logged env calls).1) (logged env calls).2 := by
  have hstep (log : Log) (s : ApiState) (call : Call) (h : Books (sinceCleanup log) s) :
      Books (sinceCleanup (log ++ [(call, (perform env call s).1)])) (perform env call s).2 :=
    h.step env call
  exact transcript_invariant (fun log => Books (sinceCleanup log)) constructed_books hstep calls

/-- After any calls, whatever they threw, the statistics and the store are what the log since the last
cleanup says, and so is every answer of `getMemoryStats` on the way. -/
theorem books_balance (env : Env) (calls : List Call) :
    Books (sinceCleanup (logged env calls).1) (logged env calls).2 ∧
    ∀ before after, calls = before ++ .getMemoryStats :: after →
      (logged env calls).1[before.length]? = some (.getMemoryStats,
        .ok (.memory (accountOf (sinceCleanup (logged env before).1)))) := by
  refine ⟨logged_books env calls, ?_⟩
  rintro before after rfl
  rw [← (logged_books env before).usage]
  exact transcript_at _ _ before .getMemoryStats after

end BoostSystem.Api
