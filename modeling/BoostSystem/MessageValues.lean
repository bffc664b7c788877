import BoostSystem.CompareCodes
import BoostSystem.CreateCodes
import BoostSystem.ErrorStats

/-!
# Messages identify values

Within one category the messages of two values differ, so a comparison of messages is one of values,
and the statistics count every value on its own.
-/

namespace BoostSystem.Api

open Scripts Tallies

/-- The numbers that an `int` holds. -/
def IsInt32 (n : ℤ) : Prop := -2 ^ 31 ≤ n ∧ n < 2 ^ 31

/-- A code of an `int` value that one of the two methods has returned. -/
inductive Created (category : ErrorCategory) (code : ErrorCode) : Prop where
  | single (value : ℤ) (hvalue : IsInt32 value) (s s' : ApiState)
      (h : createErrorCode value category s = (.ok code, s')) : Created category code
  | bulk (values : List ℤ) (hvalues : ∀ value ∈ values, IsInt32 value) (s s' : ApiState)
      (codes : List ErrorCode) (h : createErrorCodesBulk values category s = (.ok codes, s'))
      (hcode : code ∈ codes) : Created category code

theorem createErrorCode_ok {value : ℤ} {category : ErrorCategory} {s s' : ApiState}
    {code : ErrorCode} (h : createErrorCode value category s = (.ok code, s')) :
    code = createdCode value category := by
  obtain ⟨_, s₁, hready, -⟩ := Script.bind_eq_ok h
  obtain ⟨hinit, -⟩ := ensureInitialized_ready hready
  rcases createErrorCode_cases hinit value category with ⟨-, hcall⟩ | ⟨-, hcall⟩
  · rw [hcall] at h
    exact (Except.ok.inj (Prod.mk.inj h).1).symm
  · rw [hcall] at h
    exact nomatch h

theorem mapM'_bulkCode_ok {values : List ℤ} {category : ErrorCategory} {s s' : ApiState}
    {codes : List ErrorCode} (h : values.mapM' (bulkCode category) s = (.ok codes, s')) :
    codes = values.map (createdCode · category) := by
  induction values generalizing s s' codes with
  | nil => exact (Except.ok.inj (Prod.mk.inj h).1).symm
  | cons value values ih =>
    rw [List.mapM'_cons] at h
    obtain ⟨code, s₁, hcode, h⟩ := Script.bind_eq_ok h
    obtain ⟨rest, s₂, hrest, h⟩ := Script.bind_eq_ok h
    rcases bulkCode_cases s value category with ⟨-, hcall⟩ | ⟨-, hcall⟩
    · rw [hcall] at hcode
      rw [← Except.ok.inj (Prod.mk.inj h).1, ← Except.ok.inj (Prod.mk.inj hcode).1, ih hrest,
        List.map_cons]
    · rw [hcall] at hcode
      exact nomatch hcode

theorem createErrorCodesBulk_ok {values : List ℤ} {category : ErrorCategory} {s s' : ApiState}
    {codes : List ErrorCode} (h : createErrorCodesBulk values category s = (.ok codes, s')) :
    codes = values.map (createdCode · category) := by
  obtain ⟨_, s₁, hready, -⟩ := Script.bind_eq_ok h
  obtain ⟨hinit, -⟩ := ensureInitialized_ready hready
  rcases createErrorCodesBulk_eq hinit values category with
    ⟨results, s₂, hloop, hcall⟩ | ⟨e, s₂, -, hcall, -⟩
  · rw [hcall] at h
    rw [← Except.ok.inj (Prod.mk.inj h).1]
    exact mapM'_bulkCode_ok hloop
  · rw [hcall] at h
    exact nomatch h

/-- Both methods return the code of the value. -/
theorem Created.eq {category : ErrorCategory} {code : ErrorCode} (h : Created category code) :
    ∃ value, IsInt32 value ∧ code = createdCode value category := by
  cases h with
  | single value hvalue s s' h => exact ⟨value, hvalue, createErrorCode_ok h⟩
  | bulk values hvalues s s' codes h hcode =>
    rw [createErrorCodesBulk_ok h] at hcode
    obtain ⟨value, hmem, rfl⟩ := List.mem_map.mp hcode
    exact ⟨value, hvalues value hmem, rfl⟩

theorem toInt32_inj {m n : ℤ} (hm : IsInt32 m) (hn : IsInt32 n) (h : toInt32 m = toInt32 n) :
    m = n := by
  obtain ⟨hmLow, hmHigh⟩ := hm
  obtain ⟨hnLow, hnHigh⟩ := hn
  rw [toInt32_eq_iff] at h
  omega

theorem Created.message_eq_iff {category : ErrorCategory} {code1 code2 : ErrorCode}
    (h1 : Created category code1) (h2 : Created category code2) :
    code1.message = code2.message ↔ code1.value = code2.value := by
  obtain ⟨value1, hvalue1, rfl⟩ := h1.eq
  obtain ⟨value2, hvalue2, rfl⟩ := h2.eq
  constructor
  · intro hmessage
    exact toInt32_inj hvalue1 hvalue2 (getMessage_injective _ hmessage)
  · intro hvalue
    have hsame : value1 = value2 := hvalue
    rw [hsame]

/-- Every value has a created code. -/
theorem created_createdCode {value : ℤ} (hvalue : IsInt32 value) (category : ErrorCategory) :
    Created category (createdCode value category) := by
  have hcases := createErrorCode_cases (s := .start (.zeroes 0 (by decide))) rfl value category
  rcases hcases with ⟨-, hcall⟩ | ⟨hfull, -⟩
  · exact Created.single value hvalue _ _ hcall
  · exact absurd (by decide : ([] : List String).length + 1 < 2 ^ 31) hfull

theorem Created.category_eq {category : ErrorCategory} {code : ErrorCode}
    (h : Created category code) : code.category = category := by
  obtain ⟨value, -, rfl⟩ := h.eq
  rfl

/-- The `messageCounts` of `getErrorStats`, after its loop. -/
def messageCounts (codes : List ErrorCode) : List (String × ℕ) :=
  (codes.foldl countCode (fun _ => 0, [])).2

/-- Distinct values of one category have distinct messages, compare as distinct, and are counted
apart. -/
theorem messages_identify_values :
    (∀ (categoryType v w : Int32), v ≠ w → ∀ (s t : ErrorStore) (a b : String × ErrorStore),
      s.wasmFormatErrorMessage v categoryType = some a →
        t.wasmFormatErrorMessage w categoryType = some b → a.1 ≠ b.1) ∧
    (∀ category code1 code2, Created category code1 → Created category code2 →
      ∀ s result s', compareErrorCodes code1 code2 s = (.ok result, s') →
        (result.messageMatch = true ↔ code1.value = code2.value)) ∧
    ∀ codes : List ErrorCode, (∀ code ∈ codes, ∃ category, Created category code) →
      ∀ entry ∈ messageCounts codes, entry.2 = occurrences codes entry.1 ∧
        ∀ code1 ∈ codes, ∀ code2 ∈ codes, code1.message = entry.1 → code2.message = entry.1 →
          code1.category = code2.category → code1.value = code2.value := by
  refine ⟨?_, ?_, ?_⟩
  · intro categoryType v w hne s t a b ha hb hsame
    obtain ⟨messages, -, ha⟩ := Option.bind_eq_some_iff.mp ha
    obtain ⟨messages', -, hb⟩ := Option.bind_eq_some_iff.mp hb
    rw [← Option.some.inj ha, ← Option.some.inj hb] at hsame
    exact hne (getMessage_injective categoryType hsame)
  · intro category code1 code2 h1 h2 s result s' hcompare
    obtain ⟨hinit, hroom⟩ := compareErrorCodes_ready hcompare
    rw [compareErrorCodes_eq hinit hroom] at hcompare
    rw [← Except.ok.inj (Prod.mk.inj hcompare).1, comparison, beq_iff_eq]
    exact h1.message_eq_iff h2
  · intro codes hcodes entry hentry
    have hcounts := (counted_foldl codes).messages.counts entry hentry
    refine ⟨hcounts.trans (occurrences_eq_count codes entry.1).symm, ?_⟩
    intro code1 hcode1 code2 hcode2 hmessage1 hmessage2 hcategory
    obtain ⟨category, h1⟩ := hcodes code1 hcode1
    obtain ⟨category', h2⟩ := hcodes code2 hcode2
    rw [h1.category_eq, h2.category_eq] at hcategory
    rw [← hcategory] at h2
    exact (h1.message_eq_iff h2).mp (hmessage1.trans hmessage2.symm)

theorem messages_identify_values_two :
    getMessage 2 0 ≠ getMessage 3 0 ∧
    (comparison (createdCode 2 .system) (createdCode 3 .system)).messageMatch = false ∧
    2 = occurrences [createdCode 2 .system, createdCode 3 .system, createdCode 2 .system]
      "No such file or directory" := by
  obtain ⟨htexts, hcompare, hcounts⟩ := messages_identify_values
  have htwo : Created .system (createdCode 2 .system) :=
    created_createdCode ⟨by decide, by decide⟩ .system
  have hthree : Created .system (createdCode 3 .system) :=
    created_createdCode ⟨by decide, by decide⟩ .system
  refine ⟨htexts 0 2 3 (by decide) .empty .empty _ _ rfl rfl, ?_, ?_⟩
  · have hmatch := hcompare .system _ _ htwo hthree (.start (.zeroes 0 (by decide))) _ _
      (compareErrorCodes_eq rfl (by decide) _ _)
    exact Bool.eq_false_iff.mpr (mt hmatch.mp (by decide : (2 : ℤ) ≠ 3))
  · refine (hcounts [createdCode 2 .system, createdCode 3 .system, createdCode 2 .system] ?_
      ("No such file or directory", 2) (by decide)).1
    intro code hcode
    simp only [List.mem_cons, List.not_mem_nil, or_false] at hcode
    rcases hcode with rfl | rfl | rfl
    · exact ⟨.system, htwo⟩
    · exact ⟨.system, hthree⟩
    · exact ⟨.system, htwo⟩

end BoostSystem.Api
