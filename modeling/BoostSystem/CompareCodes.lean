import BoostSystem.BoostApi
import BoostSystem.ErrorStoreRuns

/-!
# Comparing two error codes

The codes are compared as the store keeps them, a word and one of two categories, and what is said of
their values and categories is taken from the numbers and the five categories that were passed.
-/

namespace BoostSystem.Api

open Scripts

theorem toInt32_categoryType_eq_iff {category₁ category₂ : ErrorCategory} :
    toInt32 (categoryType category₁) = toInt32 (categoryType category₂) ↔
      (category₁ = .generic ↔ category₂ = .generic) := by
  have hdistinct : toInt32 1 ≠ toInt32 0 := by decide
  unfold categoryType
  split_ifs with h₁ h₂ h₂
  · simp [h₁, h₂]
  · simp [h₁, h₂, hdistinct]
  · simp [h₁, h₂, hdistinct.symm]
  · simp [h₁, h₂]

/-! ### Two fresh handles -/

theorem wasmCreateErrorCode_of_full {store : ErrorStore} (value category : Int32)
    (hfull : ¬ store.errorStorage.length + 1 < 2 ^ 31) :
    store.wasmCreateErrorCode value category = none := by
  rw [ErrorStore.wasmCreateErrorCode, emplaceBack, if_neg hfull]
  rfl

theorem outOfRange_ofNat {store : ErrorStore} (hfits : store.errorStorage.length < 2 ^ 31) {n : ℕ}
    (hn : n < store.errorStorage.length) : store.outOfRange (Int32.ofNat n) = false := by
  have hpos : 0 ≤ Int32.ofNat n := Int32.zero_le_ofNat_of_lt (by omega)
  rw [ErrorStore.outOfRange, Bool.or_eq_false_iff, decide_eq_false_iff_not, decide_eq_false_iff_not,
    Int32.not_lt, ge_iff_le, ofNat_le_iff hfits hpos, Int32.toNatClampNeg_ofNat_of_lt (by omega)]
  exact ⟨hpos, by omega⟩

/-- Handles within the store are looked up and compared. -/
theorem wasmCompareErrorCodes_ofNat {store : ErrorStore} (hfits : store.errorStorage.length < 2 ^ 31)
    {n₁ n₂ : ℕ} {ec₁ ec₂ : BoostErrorCode} (h₁ : store.errorStorage[n₁]? = some ec₁)
    (h₂ : store.errorStorage[n₂]? = some ec₂) :
    store.wasmCompareErrorCodes (Int32.ofNat n₁) (Int32.ofNat n₂) =
      some (ec₁.value == ec₂.value && ec₁.category == ec₂.category) := by
  obtain ⟨hlt₁, -⟩ := List.getElem?_eq_some_iff.mp h₁
  obtain ⟨hlt₂, -⟩ := List.getElem?_eq_some_iff.mp h₂
  rw [ErrorStore.wasmCompareErrorCodes, outOfRange_ofNat hfits hlt₁, outOfRange_ofNat hfits hlt₂,
    Int32.toNatClampNeg_ofNat_of_lt (by omega), Int32.toNatClampNeg_ofNat_of_lt (by omega), h₁, h₂]
  rfl

/-- The store with one more code. -/
def withCode (store : ErrorStore) (value category : ℤ) : ErrorStore :=
  { store with errorStorage :=
      store.errorStorage ++ [BoostErrorCode.ofPair (toInt32 value) (toInt32 category)] }

theorem length_withCode (store : ErrorStore) (value category : ℤ) :
    (withCode store value category).errorStorage.length = store.errorStorage.length + 1 := by
  rw [withCode, List.length_append, List.length_singleton]

theorem createErrorCodeHandle_eq {s : ApiState} (value category : ℤ)
    (hroom : s.store.errorStorage.length + 1 < 2 ^ 31) :
    createErrorCodeHandle value category s = (.ok s.store.errorStorage.length,
      { s with store := withCode s.store value category }) := by
  have hcall : callStore (·.wasmCreateErrorCode (toInt32 value) (toInt32 category)) s =
      (.ok (Int32.ofNat s.store.errorStorage.length),
        { s with store := withCode s.store value category }) := by
    simp only [callStore, wasmCreateErrorCode_eq s.store _ _ hroom, withCode]
  rw [createErrorCodeHandle, Script.bind_of_ok hcall, Script.pure_apply,
    Int32.toInt_ofNat_of_lt (by omega)]

theorem createErrorCodeHandle_of_full {s : ApiState} (value category : ℤ)
    (hfull : ¬ s.store.errorStorage.length + 1 < 2 ^ 31) :
    createErrorCodeHandle value category s = (.error .trap, s) := by
  have hcall : callStore (·.wasmCreateErrorCode (toInt32 value) (toInt32 category)) s =
      (.error .trap, s) := by
    simp only [callStore, wasmCreateErrorCode_of_full _ _ hfull]
  rw [createErrorCodeHandle, Script.bind_of_error hcall]

theorem toInt32_natCast (n : ℕ) : toInt32 n = Int32.ofNat n := Int32.ofInt_eq_ofNat

/-- The last two handles are compared by word and by `Generic` or not. -/
theorem compareHandles_fresh {s : ApiState} {store : ErrorStore} {code1 code2 : ErrorCode}
    (hroom : store.errorStorage.length + 2 < 2 ^ 31)
    (hs : s.store = withCode (withCode store code1.value (categoryType code1.category)) code2.value
      (categoryType code2.category)) :
    compareHandles store.errorStorage.length (store.errorStorage.length + 1 : ℕ) s =
      (.ok (decide (code1.value % 2 ^ 32 = code2.value % 2 ^ 32 ∧
        (code1.category = .generic ↔ code2.category = .generic))), s) := by
  have hlength : s.store.errorStorage.length = store.errorStorage.length + 2 := by
    rw [hs, length_withCode, length_withCode]
  have hfirst : s.store.errorStorage[store.errorStorage.length]? =
      some (.ofPair (toInt32 code1.value) (toInt32 (categoryType code1.category))) := by
    rw [hs]
    simp [withCode]
  have hsecond : s.store.errorStorage[store.errorStorage.length + 1]? =
      some (.ofPair (toInt32 code2.value) (toInt32 (categoryType code2.category))) := by
    rw [hs]
    simp [withCode]
  have hcompare := wasmCompareErrorCodes_ofNat (by omega) hfirst hsecond
  have hanswer : (toInt32 code1.value == toInt32 code2.value &&
      toInt32 (categoryType code1.category) == toInt32 (categoryType code2.category)) =
      decide (code1.value % 2 ^ 32 = code2.value % 2 ^ 32 ∧
        (code1.category = .generic ↔ code2.category = .generic)) := by
    rw [Bool.eq_iff_iff, Bool.and_eq_true, beq_iff_eq, beq_iff_eq, decide_eq_true_iff,
      toInt32_eq_iff, toInt32_categoryType_eq_iff]
  simp only [compareHandles, callStore, toInt32_natCast, hcompare, Option.map_some,
    BoostErrorCode.ofPair, hanswer]

/-! ### The comparison -/

/-- What a comparison that returns answers. -/
def comparison (code1 code2 : ErrorCode) : ComparisonResult where
  equal := decide (code1.value % 2 ^ 32 = code2.value % 2 ^ 32 ∧
    (code1.category = .generic ↔ code2.category = .generic))
  valueDifference := (code1.value - code2.value).natAbs
  categoryMatch := code1.category == code2.category
  messageMatch := code1.message == code2.message

theorem compareErrorCodes_eq {s : ApiState} (hinit : s.initialized = true)
    (hroom : s.store.errorStorage.length + 2 < 2 ^ 31) (code1 code2 : ErrorCode) :
    compareErrorCodes code1 code2 s = (.ok (comparison code1 code2), { s with
      store := withCode (withCode s.store code1.value (categoryType code1.category)) code2.value
        (categoryType code2.category) }) := by
  have hfirst := createErrorCodeHandle_eq (s := s) code1.value (categoryType code1.category)
    (by omega)
  have hsecond := createErrorCodeHandle_eq
    (s := { s with store := withCode s.store code1.value (categoryType code1.category) })
    code2.value (categoryType code2.category) (by rw [length_withCode]; omega)
  rw [length_withCode] at hsecond
  rw [compareErrorCodes, Script.bind_of_ok (ensureInitialized_of_ready hinit),
    Script.bind_of_ok hfirst, Script.bind_of_ok hsecond,
    Script.bind_of_ok (compareHandles_fresh hroom rfl)]
  rfl

theorem createErrorCodeHandle_room {s s' : ApiState} {value category handle : ℤ}
    (h : createErrorCodeHandle value category s = (.ok handle, s')) :
    s.store.errorStorage.length + 1 < 2 ^ 31 ∧
      s' = { s with store := withCode s.store value category } := by
  by_cases hroom : s.store.errorStorage.length + 1 < 2 ^ 31
  · rw [createErrorCodeHandle_eq value category hroom] at h
    exact ⟨hroom, (Prod.mk.inj h).2.symm⟩
  · rw [createErrorCodeHandle_of_full value category hroom] at h
    exact nomatch h

theorem ensureInitialized_ready {s s' : ApiState} (h : ensureInitialized s = (.ok (), s')) :
    s.initialized = true ∧ s' = s := by
  by_cases hinit : s.initialized = true
  · rw [ensureInitialized_of_ready hinit] at h
    exact ⟨hinit, (Prod.mk.inj h).2.symm⟩
  · rw [ensureInitialized_of_not_ready hinit] at h
    exact nomatch h

/-- A comparison that returns was made in an initialised state with room for both codes. -/
theorem compareErrorCodes_ready {s s' : ApiState} {code1 code2 : ErrorCode}
    {result : ComparisonResult} (h : compareErrorCodes code1 code2 s = (.ok result, s')) :
    s.initialized = true ∧ s.store.errorStorage.length + 2 < 2 ^ 31 := by
  obtain ⟨_, s₁, hready, h₁⟩ := Script.bind_eq_ok h
  obtain ⟨hinit, rfl⟩ := ensureInitialized_ready hready
  obtain ⟨handle1, s₂, hfirst, h₂⟩ := Script.bind_eq_ok h₁
  obtain ⟨-, rfl⟩ := createErrorCodeHandle_room hfirst
  obtain ⟨handle2, s₃, hsecond, -⟩ := Script.bind_eq_ok h₂
  obtain ⟨hroom, -⟩ := createErrorCodeHandle_room hsecond
  rw [length_withCode] at hroom
  exact ⟨hinit, hroom⟩

/-- The codes differ, but not in what the store keeps of them. -/
def Confused (code1 code2 : ErrorCode) : Prop :=
  code1.value % 2 ^ 32 = code2.value % 2 ^ 32 ∧
    (code1.category = .generic ↔ code2.category = .generic) ∧
    ¬ (code1.value = code2.value ∧ code1.category = code2.category)

theorem comparison_match_iff (code1 code2 : ErrorCode) :
    ((comparison code1 code2).valueDifference = 0 ∧ (comparison code1 code2).categoryMatch = true) ↔
      (code1.value = code2.value ∧ code1.category = code2.category) := by
  have hdifference : (code1.value - code2.value).natAbs = 0 ↔ code1.value = code2.value := by omega
  rw [comparison, hdifference, beq_iff_eq]

theorem comparison_equal_iff (code1 code2 : ErrorCode) :
    ((comparison code1 code2).equal = true ↔
      code1.value = code2.value ∧ code1.category = code2.category) ↔ ¬ Confused code1 code2 := by
  rw [comparison, decide_eq_true_iff]
  constructor
  · rintro h ⟨hvalue, hcategory, hdistinct⟩
    exact hdistinct (h.mp ⟨hvalue, hcategory⟩)
  · intro h
    constructor
    · rintro ⟨hvalue, hcategory⟩
      by_contra hdistinct
      exact h ⟨hvalue, hcategory, hdistinct⟩
    · rintro ⟨hvalue, hcategory⟩
      rw [hvalue, hcategory]
      exact ⟨rfl, Iff.rfl⟩

/-- A comparison returns if the system is initialised and the store has room, and its answer is
consistent unless the codes are confused. -/
theorem compare_consistent_iff (s : ApiState) (code1 code2 : ErrorCode) :
    (s.initialized = true → s.store.errorStorage.length + 2 < 2 ^ 31 →
      ∃ result s', compareErrorCodes code1 code2 s = (.ok result, s')) ∧
    ∀ result s', compareErrorCodes code1 code2 s = (.ok result, s') →
      (((result.equal = true ↔ code1.value = code2.value ∧ code1.category = code2.category) ∧
        (result.equal = true ↔ result.valueDifference = 0 ∧ result.categoryMatch = true)) ↔
      ¬ Confused code1 code2) := by
  constructor
  · intro hinit hroom
    exact ⟨_, _, compareErrorCodes_eq hinit hroom code1 code2⟩
  · intro result s' h
    obtain ⟨hinit, hroom⟩ := compareErrorCodes_ready h
    rw [compareErrorCodes_eq hinit hroom] at h
    obtain ⟨hresult, -⟩ := Prod.mk.inj h
    rw [← Except.ok.inj hresult, comparison_match_iff, and_self_iff]
    exact comparison_equal_iff code1 code2

/-- What `createErrorCode( 100, category )` returns for `System` and `Network`. -/
def hundred (category : ErrorCategory) : ErrorCode where
  value := 100
  category := category
  message := "System error 100"
  categoryName := if category = .system then "System" else "Network"

theorem compare_consistent_iff_hundred :
    ((comparison (hundred .system) (hundred .system)).equal = true ↔
      (hundred .system).value = (hundred .system).value ∧
        (hundred .system).category = (hundred .system).category) ∧
    ((comparison (hundred .system) (hundred .system)).equal = true ↔
      (comparison (hundred .system) (hundred .system)).valueDifference = 0 ∧
        (comparison (hundred .system) (hundred .system)).categoryMatch = true) :=
  ((compare_consistent_iff (.start (.zeroes 0 (by decide))) (hundred .system) (hundred .system)).2
    (comparison (hundred .system) (hundred .system)) _
    (compareErrorCodes_eq rfl (by decide) _ _)).mpr (by rintro ⟨-, -, h⟩; exact h ⟨rfl, rfl⟩)

/-- The same value as a system and as a network code. -/
theorem compare_system_network :
    ∃ result s', compareErrorCodes (hundred .system) (hundred .network)
        (.start (.zeroes 0 (by decide))) = (.ok result, s') ∧
      ¬ (result.equal = true ↔ (hundred .system).value = (hundred .network).value ∧
        (hundred .system).category = (hundred .network).category) := by
  refine ⟨_, _, compareErrorCodes_eq rfl (by decide) _ _, ?_⟩
  intro h
  exact nomatch (h.mp rfl).2

end BoostSystem.Api
