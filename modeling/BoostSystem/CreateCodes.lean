import BoostSystem.BoostApi
import BoostSystem.ErrorStoreRuns
import BoostSystem.MessageTables

/-!
# Creating error codes, one by one and in bulk

The two methods return the same codes and format the same messages. Only the single one adds to the
allocated total.
-/

namespace BoostSystem.Api

open CString Scripts

def formatErrorMessage (value categoryType : ℤ) : Js String :=
  callStore (·.wasmFormatErrorMessage (toInt32 value) (toInt32 categoryType))

def categoryName : ErrorCategory → String
  | .system => "System"
  | .generic => "Generic"
  | .network => "Network"
  | _ => "Unknown"

def createErrorCode (value : ℤ) (category : ErrorCategory) : Js ErrorCode := do
  ensureInitialized
  let message ← formatErrorMessage value (categoryType category)
  Script.modify fun s => { s with memoryUsage := { s.memoryUsage with
    errorCodesCreated := s.memoryUsage.errorCodesCreated + 1
    totalAllocated := s.memoryUsage.totalAllocated + (message.length + 16) } }
  return ⟨value, category, message, categoryName category⟩

def createErrorCodesBulk (values : List ℤ) (category : ErrorCategory) : Js (List ErrorCode) := do
  ensureInitialized
  let results ← values.mapM' fun value => do
    let message ← formatErrorMessage value (categoryType category)
    return ⟨value, category, message, categoryName category⟩
  Script.modify fun s => { s with memoryUsage := { s.memoryUsage with
    errorCodesCreated := s.memoryUsage.errorCodesCreated + values.length } }
  return results

/-! ### One message -/

/-- There is room for one more message. -/
def ApiState.MessageRoom (s : ApiState) : Prop := s.store.messageStorage.length + 1 < 2 ^ 31

def createdCode (value : ℤ) (category : ErrorCategory) : ErrorCode where
  value := value
  category := category
  message := getMessage (toInt32 value) (toInt32 (categoryType category))
  categoryName := categoryName category

def withMessage (store : ErrorStore) (message : String) : ErrorStore :=
  { store with messageStorage := store.messageStorage ++ [message] }

theorem formatErrorMessage_eq {s : ApiState} (hroom : s.MessageRoom) (value : ℤ)
    (category : ErrorCategory) : formatErrorMessage value (categoryType category) s =
      (.ok (createdCode value category).message,
        { s with store := withMessage s.store (createdCode value category).message }) := by
  simp only [formatErrorMessage, callStore, wasmFormatErrorMessage_eq s.store _ _ hroom, createdCode,
    withMessage]

theorem formatErrorMessage_of_full {s : ApiState} (hfull : ¬ s.MessageRoom)
    (value categoryType : ℤ) : formatErrorMessage value categoryType s = (.error .trap, s) := by
  have hlength : ¬ s.store.messageStorage.length + 1 < 2 ^ 31 := hfull
  have hnone : s.store.wasmFormatErrorMessage (toInt32 value) (toInt32 categoryType) = none := by
    rw [ErrorStore.wasmFormatErrorMessage, emplaceBack, if_neg hlength]
    rfl
  simp only [formatErrorMessage, callStore, hnone]

theorem formatErrorMessage_cases (s : ApiState) (value : ℤ) (category : ErrorCategory) :
    s.MessageRoom ∧ formatErrorMessage value (categoryType category) s =
      (.ok (createdCode value category).message,
        { s with store := withMessage s.store (createdCode value category).message }) ∨
    ¬ s.MessageRoom ∧ formatErrorMessage value (categoryType category) s = (.error .trap, s) := by
  by_cases hroom : s.MessageRoom
  · exact Or.inl ⟨hroom, formatErrorMessage_eq hroom value category⟩
  · exact Or.inr ⟨hroom, formatErrorMessage_of_full hroom value _⟩

/-! ### One code -/

def ApiState.afterCode (s : ApiState) (code : ErrorCode) : ApiState :=
  { s with
    store := withMessage s.store code.message
    memoryUsage := { s.memoryUsage with
      errorCodesCreated := s.memoryUsage.errorCodesCreated + 1
      totalAllocated := s.memoryUsage.totalAllocated + (code.message.length + 16) } }

theorem createErrorCode_cases {s : ApiState} (hinit : s.initialized = true) (value : ℤ)
    (category : ErrorCategory) :
    s.MessageRoom ∧ createErrorCode value category s =
      (.ok (createdCode value category), s.afterCode (createdCode value category)) ∨
    ¬ s.MessageRoom ∧ createErrorCode value category s = (.error .trap, s) := by
  rw [createErrorCode, Script.bind_of_ok (ensureInitialized_of_ready hinit)]
  rcases formatErrorMessage_cases s value category with ⟨hroom, hformat⟩ | ⟨hfull, hformat⟩
  · refine Or.inl ⟨hroom, ?_⟩
    rw [Script.bind_of_ok hformat]
    rfl
  · exact Or.inr ⟨hfull, Script.bind_of_error hformat _⟩

def bulkCode (category : ErrorCategory) (value : ℤ) : Js ErrorCode := do
  let message ← formatErrorMessage value (categoryType category)
  return ⟨value, category, message, categoryName category⟩

theorem bulkCode_cases (s : ApiState) (value : ℤ) (category : ErrorCategory) :
    s.MessageRoom ∧ bulkCode category value s = (.ok (createdCode value category), { s with
      store := withMessage s.store (createdCode value category).message }) ∨
    ¬ s.MessageRoom ∧ bulkCode category value s = (.error .trap, s) := by
  rcases formatErrorMessage_cases s value category with ⟨hroom, hformat⟩ | ⟨hfull, hformat⟩
  · refine Or.inl ⟨hroom, ?_⟩
    rw [bulkCode, Script.bind_of_ok hformat]
    rfl
  · exact Or.inr ⟨hfull, Script.bind_of_error hformat _⟩

/-! ### A list of codes -/

/-- Both states are ready and hold the same store; their books may differ. -/
def SameStore (s t : ApiState) : Prop := s.initialized = true ∧ s.store = t.store

theorem createErrorCode_related (value : ℤ) (category : ErrorCategory) :
    Script.Related SameStore (createErrorCode value category) (bulkCode category value) := by
  rintro s t ⟨hinit, hstore⟩
  have hroom : s.MessageRoom ↔ t.MessageRoom := by
    rw [ApiState.MessageRoom, ApiState.MessageRoom, hstore]
  rcases createErrorCode_cases hinit value category with ⟨hs, hsingle⟩ | ⟨hs, hsingle⟩
  · rcases bulkCode_cases t value category with ⟨-, hbulk⟩ | ⟨ht, -⟩
    · rw [hsingle, hbulk]
      refine ⟨rfl, hinit, ?_⟩
      rw [ApiState.afterCode, hstore]
    · exact absurd (hroom.mp hs) ht
  · rcases bulkCode_cases t value category with ⟨ht, -⟩ | ⟨-, hbulk⟩
    · exact absurd (hroom.mpr ht) hs
    · rw [hsingle, hbulk]
      exact ⟨rfl, hinit, hstore⟩

theorem bulkCode_keeps (category : ErrorCategory) (value : ℤ) :
    (bulkCode category value).Keeps ApiState.memoryUsage := by
  intro s
  rcases bulkCode_cases s value category with ⟨-, hbulk⟩ | ⟨-, hbulk⟩
  · rw [hbulk]
  · rw [hbulk]

/-- The single calls, one after the other. -/
def createErrorCodes (values : List ℤ) (category : ErrorCategory) : Js (List ErrorCode) :=
  values.mapM' (createErrorCode · category)

/-- The bulk call is its loop, with the number of codes added when it has returned. -/
theorem createErrorCodesBulk_eq {s : ApiState} (hinit : s.initialized = true) (values : List ℤ)
    (category : ErrorCategory) :
    (∃ results s', values.mapM' (bulkCode category) s = (.ok results, s') ∧
      createErrorCodesBulk values category s = (.ok results, { s' with
        memoryUsage := { s.memoryUsage with
          errorCodesCreated := s.memoryUsage.errorCodesCreated + values.length } })) ∨
    ∃ e s', values.mapM' (bulkCode category) s = (.error e, s') ∧
      createErrorCodesBulk values category s = (.error e, s') ∧ s'.memoryUsage = s.memoryUsage := by
  have hkept : (values.mapM' (bulkCode category) s).2.memoryUsage = s.memoryUsage :=
    Script.Keeps.mapM' (bulkCode_keeps category) values s
  have hcall : createErrorCodesBulk values category s =
      (values.mapM' (bulkCode category) >>= fun results => do
        Script.modify fun s => { s with memoryUsage := { s.memoryUsage with
          errorCodesCreated := s.memoryUsage.errorCodesCreated + values.length } }
        return results) s := by
    rw [createErrorCodesBulk, Script.bind_of_ok (ensureInitialized_of_ready hinit)]
    rfl
  rcases Script.outcome_cases (values.mapM' (bulkCode category)) s with ⟨results, s', h⟩ | ⟨e, s', h⟩
  · left
    rw [h] at hkept
    rw [hcall, Script.bind_of_ok h, ← hkept]
    exact ⟨results, s', h, rfl⟩
  · right
    rw [h] at hkept
    rw [hcall, Script.bind_of_error h]
    exact ⟨e, s', h, rfl, hkept⟩

/-- The bulk call has the outcome of the single calls and leaves the same store. -/
theorem createErrorCodesBulk_outcome {s : ApiState} (hinit : s.initialized = true)
    (values : List ℤ) (category : ErrorCategory) :
    (createErrorCodesBulk values category s).1 = (createErrorCodes values category s).1 ∧
      (createErrorCodesBulk values category s).2.store =
        (createErrorCodes values category s).2.store := by
  have hrelated := Script.Related.mapM' (fun value => createErrorCode_related value category) values
  obtain ⟨houtcome, -, hstore⟩ := hrelated s s ⟨hinit, rfl⟩
  rw [createErrorCodes, houtcome, hstore]
  rcases createErrorCodesBulk_eq hinit values category with
    ⟨results, s', hloop, hcall⟩ | ⟨e, s', hloop, hcall, -⟩
  · rw [hloop, hcall]
    exact ⟨rfl, rfl⟩
  · rw [hloop, hcall]
    exact ⟨rfl, rfl⟩

theorem totalAllocated_bulk {s : ApiState} (hinit : s.initialized = true) (values : List ℤ)
    (category : ErrorCategory) :
    (createErrorCodesBulk values category s).2.memoryUsage.totalAllocated =
      s.memoryUsage.totalAllocated := by
  rcases createErrorCodesBulk_eq hinit values category with
    ⟨results, s', -, hcall⟩ | ⟨e, s', -, hcall, hkept⟩
  · rw [hcall]
  · rw [hcall, hkept]

theorem totalAllocated_le {s : ApiState} (hinit : s.initialized = true) (values : List ℤ)
    (category : ErrorCategory) : s.memoryUsage.totalAllocated ≤
      (createErrorCodes values category s).2.memoryUsage.totalAllocated := by
  induction values generalizing s with
  | nil => exact le_rfl
  | cons value values ih =>
    rw [createErrorCodes, List.mapM'_cons]
    rcases createErrorCode_cases hinit value category with ⟨-, hsingle⟩ | ⟨-, hsingle⟩
    · rw [Script.bind_of_ok hsingle, Script.bind_pure_snd]
      have hrest := ih (s := s.afterCode (createdCode value category)) hinit
      exact (Nat.le_add_right _ _).trans hrest
    · rw [Script.bind_of_error hsingle]

theorem totalAllocated_lt {s : ApiState} (hinit : s.initialized = true) (hroom : s.MessageRoom)
    (value : ℤ) (values : List ℤ) (category : ErrorCategory) : s.memoryUsage.totalAllocated <
      (createErrorCodes (value :: values) category s).2.memoryUsage.totalAllocated := by
  rcases createErrorCode_cases hinit value category with ⟨-, hsingle⟩ | ⟨hfull, -⟩
  · rw [createErrorCodes, List.mapM'_cons, Script.bind_of_ok hsingle, Script.bind_pure_snd]
    have hrest := totalAllocated_le (s := s.afterCode (createdCode value category)) hinit values
      category
    have hcode : s.memoryUsage.totalAllocated <
        (s.afterCode (createdCode value category)).memoryUsage.totalAllocated := by
      simp only [ApiState.afterCode]
      omega
    exact hcode.trans_le hrest
  · exact absurd hroom hfull

theorem createErrorCodes_of_full {s : ApiState} (hinit : s.initialized = true)
    (hfull : ¬ s.MessageRoom) (value : ℤ) (values : List ℤ) (category : ErrorCategory) :
    createErrorCodes (value :: values) category s = (.error .trap, s) := by
  rcases createErrorCode_cases hinit value category with ⟨hroom, -⟩ | ⟨-, hsingle⟩
  · exact absurd hroom hfull
  · rw [createErrorCodes, List.mapM'_cons, Script.bind_of_error hsingle]

/-- The bulk call returns what the single calls return, and leaves the same statistics and the same
messages. -/
def SameCreation (s : ApiState) (values : List ℤ) (category : ErrorCategory) : Prop :=
  (createErrorCodesBulk values category s).1 = (createErrorCodes values category s).1 ∧
    (createErrorCodesBulk values category s).2.memoryUsage =
      (createErrorCodes values category s).2.memoryUsage ∧
    (createErrorCodesBulk values category s).2.store.messageStorage =
      (createErrorCodes values category s).2.store.messageStorage

/-- Bulk creation is creation one by one exactly if no code is created. -/
theorem bulk_creation_iff (s : ApiState) (hinit : s.initialized = true) (values : List ℤ)
    (category : ErrorCategory) :
    SameCreation s values category ↔ values = [] ∨ ¬ s.MessageRoom := by
  obtain ⟨houtcome, hstore⟩ := createErrorCodesBulk_outcome hinit values category
  constructor
  · rintro ⟨-, husage, -⟩
    by_contra hcreates
    rw [not_or, not_not] at hcreates
    obtain ⟨hvalues, hroom⟩ := hcreates
    obtain ⟨value, rest, rfl⟩ := List.exists_cons_of_ne_nil hvalues
    have hgrows := totalAllocated_lt hinit hroom value rest category
    rw [← husage, totalAllocated_bulk hinit] at hgrows
    exact lt_irrefl _ hgrows
  · intro hnone
    refine ⟨houtcome, ?_, congrArg ErrorStore.messageStorage hstore⟩
    rcases createErrorCodesBulk_eq hinit values category with
      ⟨results, s', hloop, hcall⟩ | ⟨e, s', hloop, hcall, hkept⟩
    · cases values with
      | nil =>
        rw [hcall]
        rfl
      | cons value values =>
        have hfull := hnone.resolve_left (List.cons_ne_nil value values)
        rw [hcall, createErrorCodes_of_full hinit hfull] at houtcome
        exact nomatch houtcome
    · cases values with
      | nil => exact nomatch hloop
      | cons value values =>
        have hfull := hnone.resolve_left (List.cons_ne_nil value values)
        rw [hcall, createErrorCodes_of_full hinit hfull, hkept]

/-- Two codes, with room for their messages. -/
theorem bulk_creation_iff_two :
    ¬ SameCreation (.start (.zeroes 0 (by decide))) [2, 3] .network := by
  rw [bulk_creation_iff _ rfl [2, 3] .network, not_or, not_not]
  exact ⟨List.cons_ne_nil _ _, (by decide : ([] : List String).length + 1 < 2 ^ 31)⟩

/-- One code in bulk, and one on its own. -/
theorem bulk_creation_of_one :
    ¬ SameCreation (.start (.zeroes 0 (by decide))) [2] .system := by
  rintro ⟨-, husage, -⟩
  exact nomatch congrArg MemoryUsage.totalAllocated husage

end BoostSystem.Api
