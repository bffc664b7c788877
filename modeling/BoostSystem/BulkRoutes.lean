import BoostSystem.BulkBuffers
import BoostSystem.ElementwiseKernels
import BoostSystem.FindKernel
import BoostSystem.StoredArrays
import BoostSystem.Wraparound
import Mathlib.Data.List.GetD

/-!
# The vector routes and the scalar routes

A vector route whose copies fit the view that they are written through answers what the words of its
numbers give. It agrees with the scalar route if the numbers give the same.
-/

namespace BoostSystem.Api

open LinearMemory Scripts

/-- The allocation does not grow memory, and the byte length is a `size_t`. -/
def CopyFits (env : Env) (s : ApiState) (array : List ℤ) : Prop :=
  (copyRequest env s array).heap.generation = s.heap.generation ∧ 4 * array.length < 2 ^ 32

section Copies

variable {env : Env} {s : ApiState} {array : List ℤ}

theorem writeThrows_iff_not_fits (hquiet : env.Quiet) (hlawful : env.Lawful)
    (hwell : s.heap.WellFormed) (hptr : (copyRequest env s array).ptr ≠ 0) :
    WriteThrows env s array ↔ ¬ CopyFits env s array := by
  have hrequest := request_lawful hlawful (s := s.tick) hwell (4 * array.length)
  rw [writeThrows_iff hquiet hrequest.toLegit hptr, CopyFits, not_and_or, Nat.not_lt]

theorem copy_of_fits (hquiet : env.Quiet) (hlawful : env.Lawful) (hwell : s.heap.WellFormed)
    (hptr : (copyRequest env s array).ptr ≠ 0) (hfits : CopyFits env s array) :
    copyArrayToWASM env array s = (.ok (copyRequest env s array).ptr, copied env s array) := by
  apply copyArrayToWASM_of_writes (hquiet.asks s)
  rw [writeThrows_iff_not_fits hquiet hlawful hwell hptr, not_not]
  exact hfits

theorem copy_of_not_fits (hquiet : env.Quiet) (hlawful : env.Lawful) (hwell : s.heap.WellFormed)
    (hptr : (copyRequest env s array).ptr ≠ 0) (hfits : ¬ CopyFits env s array) :
    ∃ e s', copyArrayToWASM env array s = (.error e, s') := by
  rw [← writeThrows_iff_not_fits hquiet hlawful hwell hptr] at hfits
  obtain ⟨e, hcopy⟩ := copyArrayToWASM_of_writeThrows (hquiet.asks s) hfits
  exact ⟨e, _, hcopy⟩

end Copies

/-! ### The search -/

theorem findErrorCodeSimd_eq_indexOf {m : Memory} {p : ℕ} {words : List Int32}
    (h : m.Int32s p words.length fun i => words.getD i 0) (target : Int32) (simd128 : Bool) :
    ∃ index, findErrorCodeSimd simd128 p words.length target m = some index ∧
      index.toInt = indexOf words target := by
  by_cases hmem : target ∈ words
  · have hlt : words.idxOf target < words.length := List.idxOf_lt_length_iff.mpr hmem
    have hmatch : words.getD (words.idxOf target) 0 = target := by
      rw [List.getD_eq_getElem _ _ hlt, List.getElem_idxOf hlt]
    have hleast : ∀ i < words.idxOf target, words.getD i 0 ≠ target := by
      intro i hi heq
      rw [List.getD_eq_getElem _ _ (hi.trans hlt)] at heq
      have hearlier : (words[i] == target) = false := List.not_of_lt_findIdx hi
      exact Bool.false_ne_true (hearlier.symm.trans (beq_iff_eq.mpr heq))
    have hlength := h.le
    refine ⟨_, findErrorCodeSimd_of_least h hlt hmatch hleast simd128, ?_⟩
    rw [indexOf, if_pos hmem, Int32.toInt_ofNat_of_lt (by omega)]
  · have habsent : ∀ i < words.length, words.getD i 0 ≠ target := by
      intro i hi heq
      rw [List.getD_eq_getElem _ _ hi] at heq
      exact hmem (heq ▸ List.getElem_mem hi)
    exact ⟨-1, findErrorCodeSimd_of_absent h habsent simd128, (if_neg hmem).symm⟩

section Routes

variable {env : Env} {s : ApiState}

theorem findSimd_eq (hquiet : env.Quiet) (hlawful : env.Lawful) (hwell : s.heap.WellFormed)
    {codes : List ℤ} (target : ℤ) (hptr : (copyRequest env s codes).ptr ≠ 0)
    (hfits : CopyFits env s codes) : ∃ s', findSimd env codes target s =
      (.ok (indexOf (codes.map toInt32) (toInt32 target)), s') := by
  have hstored := stored_copied hlawful hwell hptr hfits.2
  obtain ⟨index, hkernel, hindex⟩ :=
    findErrorCodeSimd_eq_indexOf hstored.int32s (toInt32 target) env.simd128
  rw [List.length_map] at hkernel
  have hcall : (findErrorCodeSimd env.simd128 (copyRequest env s codes).ptr codes.length
      (toInt32 target) (copied env s codes).heap.memory).map (·, (copied env s codes).heap.memory) =
        some (index, (copied env s codes).heap.memory) := by
    rw [hkernel, Option.map_some]
  rw [findSimd, Script.bind_of_ok (copy_of_fits hquiet hlawful hwell hptr hfits)]
  apply Script.tryFinally_returns
  · rw [Script.bind_of_ok (callKernel_of_quiet hquiet hcall), hindex]
    exact ⟨_, rfl⟩
  · exact fun s₁ => ⟨_, rfl⟩

/-! ### Validation and comparison -/

theorem request_fits (hlawful : env.Lawful) (hwell : s.heap.WellFormed) {count : ℕ}
    (hcount : count < 2 ^ 32) (hptr : (request env s count).ptr ≠ 0) :
    (request env s count).ptr + count ≤ (allocated env s count).heap.size := by
  have hfits := (request_lawful hlawful hwell count).fits hptr
  rwa [Nat.mod_eq_of_lt hcount] at hfits

theorem range_validateWords (codes : List ℤ) (minValue maxValue : ℤ) :
    ((List.range codes.length).map fun i =>
      decide ((codes.map toInt32).getD i 0 ≥ toInt32 minValue) &&
        decide ((codes.map toInt32).getD i 0 ≤ toInt32 maxValue)) =
      validateWords codes minValue maxValue := by
  apply List.ext_getElem
  · rw [List.length_map, List.length_range, validateWords, List.length_map]
  · intro i hi hi'
    rw [List.length_map, List.length_range] at hi
    have hword : (codes.map toInt32).getD i 0 = toInt32 codes[i] := by
      rw [List.getD_eq_getElem _ _ (by rwa [List.length_map]), List.getElem_map]
    simp only [validateWords, List.getElem_map, List.getElem_range, hword]

theorem validateSimd_eq (hquiet : env.Quiet) (hlawful : env.Lawful) (hwell : s.heap.WellFormed)
    {codes : List ℤ} (minValue maxValue : ℤ) (hptr : (copyRequest env s codes).ptr ≠ 0)
    (hfits : CopyFits env s codes)
    (hresults : (request env (copied env s codes) codes.length).ptr ≠ 0) :
    ∃ s', validateSimd env codes minValue maxValue s =
      (.ok (validateWords codes minValue maxValue), s') := by
  have hcount : codes.length < 2 ^ 32 := by
    have hlength := hfits.2
    omega
  have hwell₁ : (copied env s codes).heap.WellFormed := copied_wellFormed hlawful hwell
  have hstored : Stored (copied env s codes) _ (codes.map toInt32) :=
    stored_copied hlawful hwell hptr hfits.2
  have happart := hstored.apart hlawful hwell₁ hresults
  have hlater := (hstored.allocated hlawful hwell₁ codes.length).int32s
  have hwell₂ := (request_lawful hlawful hwell₁ codes.length).wellFormed
  have hroom := request_fits hlawful hwell₁ hcount hresults
  rw [List.length_map] at happart hlater
  rw [Nat.mod_eq_of_lt hcount] at happart
  have hkernel := validateErrorRangeSimd_eq hlater (hwell₂.accessible hroom) happart
    (toInt32 minValue) (toInt32 maxValue) env.simd128
  obtain ⟨s', hbody⟩ := kernel_then_read hquiet hwell₂ hroom hkernel
  rw [range_validateWords] at hbody
  rw [validateSimd, Script.bind_of_ok (copy_of_fits hquiet hlawful hwell hptr hfits),
    Script.bind_of_ok (allocateBuffer_of_passes _ (hquiet _))]
  apply Script.tryFinally_returns
  · exact ⟨s', hbody⟩
  · exact fun s₁ => ⟨_, rfl⟩

theorem range_compareWords (codes1 codes2 : List ℤ) :
    ((List.range (min codes1.length codes2.length)).map fun i =>
      (codes1.map toInt32).getD i 0 == (codes2.map toInt32).getD i 0) =
      compareWords codes1 codes2 := by
  apply List.ext_getElem
  · rw [List.length_map, List.length_range, compareWords, List.length_zipWith]
  · intro i hi hi'
    rw [List.length_map, List.length_range] at hi
    have hword1 : (codes1.map toInt32).getD i 0 = toInt32 codes1[i] := by
      rw [List.getD_eq_getElem _ _ (by rw [List.length_map]; omega), List.getElem_map]
    have hword2 : (codes2.map toInt32).getD i 0 = toInt32 codes2[i] := by
      rw [List.getD_eq_getElem _ _ (by rw [List.length_map]; omega), List.getElem_map]
    simp only [compareWords, List.getElem_map, List.getElem_range, List.getElem_zipWith, hword1,
      hword2]

/-- The state after both copies. -/
def copiedBoth (env : Env) (s : ApiState) (codes1 codes2 : List ℤ) : ApiState :=
  copied env (copied env s codes1) codes2

theorem compareSimd_eq (hquiet : env.Quiet) (hlawful : env.Lawful) (hwell : s.heap.WellFormed)
    {codes1 codes2 : List ℤ} (hptr1 : (copyRequest env s codes1).ptr ≠ 0)
    (hfits1 : CopyFits env s codes1)
    (hptr2 : (copyRequest env (copied env s codes1) codes2).ptr ≠ 0)
    (hfits2 : CopyFits env (copied env s codes1) codes2)
    (hresults : (request env (copiedBoth env s codes1 codes2)
      (min codes1.length codes2.length)).ptr ≠ 0) :
    ∃ s', compareSimd env codes1 codes2 (min codes1.length codes2.length) s =
      (.ok (compareWords codes1 codes2), s') := by
  have hmin1 : min codes1.length codes2.length ≤ codes1.length := Nat.min_le_left _ _
  have hmin2 : min codes1.length codes2.length ≤ codes2.length := Nat.min_le_right _ _
  have hcount : min codes1.length codes2.length < 2 ^ 32 := by
    have hlength := hfits1.2
    omega
  have hwell₁ : (copied env s codes1).heap.WellFormed := copied_wellFormed hlawful hwell
  have hwell₂ : (copiedBoth env s codes1 codes2).heap.WellFormed :=
    copied_wellFormed hlawful hwell₁
  have hstored1 : Stored (copiedBoth env s codes1 codes2) _ (codes1.map toInt32) :=
    (stored_copied hlawful hwell hptr1 hfits1.2).copied hlawful hwell₁ hptr2 hfits2.2
  have hstored2 : Stored (copiedBoth env s codes1 codes2) _ (codes2.map toInt32) :=
    stored_copied hlawful hwell₁ hptr2 hfits2.2
  have happart1 := hstored1.apart hlawful hwell₂ hresults
  have happart2 := hstored2.apart hlawful hwell₂ hresults
  have hlater1 := (hstored1.allocated hlawful hwell₂ (min codes1.length codes2.length)).int32s
  have hlater2 := (hstored2.allocated hlawful hwell₂ (min codes1.length codes2.length)).int32s
  have hwell₃ := (request_lawful hlawful hwell₂ (min codes1.length codes2.length)).wellFormed
  have hroom := request_fits hlawful hwell₂ hcount hresults
  rw [List.length_map] at happart1 happart2 hlater1 hlater2
  rw [Nat.mod_eq_of_lt hcount] at happart1 happart2
  have hkernel := compareErrorCodesSimd_eq (hlater1.mono hmin1) (hlater2.mono hmin2)
    (hwell₃.accessible hroom) (happart1.shrink (by omega)) (happart2.shrink (by omega)) env.simd128
  obtain ⟨s', hbody⟩ := kernel_then_read hquiet hwell₃ hroom hkernel
  rw [range_compareWords] at hbody
  rw [compareSimd, Script.bind_of_ok (copy_of_fits hquiet hlawful hwell hptr1 hfits1),
    Script.bind_of_ok (copy_of_fits hquiet hlawful hwell₁ hptr2 hfits2),
    Script.bind_of_ok (allocateBuffer_of_passes _ (hquiet _))]
  apply Script.tryFinally_returns
  · exact ⟨s', hbody⟩
  · exact fun s₁ => ⟨_, rfl⟩

end Routes

/-! ### Agreement -/

/-- The same environment without the vector build. -/
def Env.scalar (env : Env) : Env := { env with simd128 := false }

/-- Codes that are compared are equal if they are congruent. -/
def ComparesAlike (codes1 codes2 : List ℤ) : Prop :=
  ∀ p ∈ codes1.zip codes2, p.1 % 2 ^ 32 = p.2 % 2 ^ 32 → p.1 = p.2

/-- A code that is congruent to the target without being the target comes after it. -/
def FindsAlike (codes : List ℤ) (target : ℤ) : Prop :=
  ∀ (i : ℕ) (code : ℤ), codes[i]? = some code → code % 2 ^ 32 = target % 2 ^ 32 →
    code ≠ target → target ∈ codes.take i

/-- No code wraps into the range or out of it. -/
def ValidatesAlike (codes : List ℤ) (minValue maxValue : ℤ) : Prop :=
  ∀ code ∈ codes, ¬ WrapsIn minValue maxValue code ∧ ¬ WrapsOut minValue maxValue code

/-- The requests of a validation are served. -/
def ValidateServed (env : Env) (s : ApiState) (codes : List ℤ) : Prop :=
  (copyRequest env s codes).ptr ≠ 0 ∧
    (CopyFits env s codes → (request env (copied env s codes) codes.length).ptr ≠ 0)

/-- The requests of a comparison are served, as far as it gets. -/
def CompareServed (env : Env) (s : ApiState) (codes1 codes2 : List ℤ) : Prop :=
  (copyRequest env s codes1).ptr ≠ 0 ∧
    (CopyFits env s codes1 →
      (copyRequest env (copied env s codes1) codes2).ptr ≠ 0 ∧
        (CopyFits env (copied env s codes1) codes2 →
          (request env (copiedBoth env s codes1 codes2)
            (min codes1.length codes2.length)).ptr ≠ 0))

section Agreement

variable {env : Env} {s : ApiState}

/-- A branch and the scalar branch agree if the vector route answers as the scalar one. -/
theorem branch_agrees_iff {α β : Type} (observe : Except JsError α → β) {simd simd' : Js α}
    {x x' : α} (hsame : observe (.ok x) = observe (.ok x')) (taken : Bool) {taken' : Bool}
    (hscalar : taken' = false) (s : ApiState) :
    observe ((ensureInitialized >>= fun _ => if taken then simd else pure x) s).1 =
        observe ((ensureInitialized >>= fun _ => if taken' then simd' else pure x') s).1 ↔
      (s.initialized = true → taken = true → observe (simd s).1 = observe (.ok x)) := by
  by_cases hinit : s.initialized = true
  · rw [Script.bind_of_ok (ensureInitialized_of_ready hinit),
      Script.bind_of_ok (ensureInitialized_of_ready hinit), hscalar, hsame]
    cases taken with
    | true => exact ⟨fun h _ _ => h, fun h => h hinit rfl⟩
    | false => exact iff_of_true hsame fun _ h => absurd h Bool.false_ne_true
  · rw [Script.bind_of_error (ensureInitialized_of_not_ready hinit),
      Script.bind_of_error (ensureInitialized_of_not_ready hinit)]
    exact iff_of_true rfl fun h => absurd h hinit

theorem error_ne_ok {α : Type} (e : JsError) (x : α) :
    (Except.error e : Except JsError α) ≠ .ok x := by
  intro h
  cases h

theorem findSimd_agrees_iff (hquiet : env.Quiet) (hlawful : env.Lawful)
    (hwell : s.heap.WellFormed) (codes : List ℤ) (target : ℤ)
    (hptr : (copyRequest env s codes).ptr ≠ 0) :
    (findSimd env codes target s).1 = .ok (indexOf codes target) ↔
      CopyFits env s codes ∧ FindsAlike codes target := by
  by_cases hfits : CopyFits env s codes
  · obtain ⟨s', hfind⟩ := findSimd_eq hquiet hlawful hwell target hptr hfits
    rw [hfind, Except.ok.injEq, indexOf_words_eq_iff, and_iff_right hfits]
    rfl
  · obtain ⟨e, s', hcopy⟩ := copy_of_not_fits hquiet hlawful hwell hptr hfits
    rw [findSimd, Script.bind_of_error hcopy]
    exact iff_of_false (error_ne_ok e _) fun h => hfits h.1

theorem validateSimd_agrees_iff (hquiet : env.Quiet) (hlawful : env.Lawful)
    (hwell : s.heap.WellFormed) (codes : List ℤ) (minValue maxValue : ℤ)
    (hserved : ValidateServed env s codes) :
    (validateSimd env codes minValue maxValue s).1 = .ok (validateScalar codes minValue maxValue) ↔
      CopyFits env s codes ∧ ValidatesAlike codes minValue maxValue := by
  obtain ⟨hptr, hresults⟩ := hserved
  by_cases hfits : CopyFits env s codes
  · obtain ⟨s', hvalidate⟩ := validateSimd_eq hquiet hlawful hwell minValue maxValue hptr hfits
      (hresults hfits)
    rw [hvalidate, Except.ok.injEq, validateWords_eq_iff, and_iff_right hfits]
    rfl
  · obtain ⟨e, s', hcopy⟩ := copy_of_not_fits hquiet hlawful hwell hptr hfits
    rw [validateSimd, Script.bind_of_error hcopy]
    exact iff_of_false (error_ne_ok e _) fun h => hfits h.1

theorem compareSimd_agrees_iff (hquiet : env.Quiet) (hlawful : env.Lawful)
    (hwell : s.heap.WellFormed) (codes1 codes2 : List ℤ)
    (hserved : CompareServed env s codes1 codes2) :
    (compareSimd env codes1 codes2 (min codes1.length codes2.length) s).1 =
        .ok (compareScalar codes1 codes2) ↔
      CopyFits env s codes1 ∧ CopyFits env (copied env s codes1) codes2 ∧
        ComparesAlike codes1 codes2 := by
  obtain ⟨hptr1, hserved2⟩ := hserved
  by_cases hfits1 : CopyFits env s codes1
  · obtain ⟨hptr2, hresults⟩ := hserved2 hfits1
    by_cases hfits2 : CopyFits env (copied env s codes1) codes2
    · obtain ⟨s', hcompare⟩ := compareSimd_eq hquiet hlawful hwell hptr1 hfits1 hptr2 hfits2
        (hresults hfits2)
      rw [hcompare, Except.ok.injEq, compareWords_eq_iff, and_iff_right hfits1,
        and_iff_right hfits2]
      rfl
    · obtain ⟨e, s', hcopy⟩ := copy_of_not_fits hquiet hlawful
        (copied_wellFormed hlawful hwell) hptr2 hfits2
      rw [compareSimd, Script.bind_of_ok (copy_of_fits hquiet hlawful hwell hptr1 hfits1),
        Script.bind_of_error hcopy]
      exact iff_of_false (error_ne_ok e _) fun h => hfits2 h.2.1
  · obtain ⟨e, s', hcopy⟩ := copy_of_not_fits hquiet hlawful hwell hptr1 hfits1
    rw [compareSimd, Script.bind_of_error hcopy]
    exact iff_of_false (error_ne_ok e _) fun h => hfits1 h.1

/-- The branch of a bulk operation is taken exactly if its condition holds. -/
theorem takes_imp_iff {count : ℕ} {P Q : Prop} (h : TakesSimd env s count → (P ↔ Q)) :
    (s.initialized = true → (env.simd128 && decide (count ≥ 16)) = true → P) ↔
      (TakesSimd env s count → Q) := by
  rw [Bool.and_eq_true, decide_eq_true_iff]
  constructor
  · intro hbranch htakes
    exact (h htakes).mp (hbranch htakes.1 htakes.2)
  · intro hroute hinit hcondition
    have htakes : TakesSimd env s count := ⟨hinit, hcondition⟩
    exact (h htakes).mpr (hroute htakes)

theorem findErrorCode_agrees_iff (hquiet : env.Quiet) (hlawful : env.Lawful)
    (hwell : s.heap.WellFormed) (codes : List ℤ) (target : ℤ)
    (hserved : TakesSimd env s codes.length → (copyRequest env s codes).ptr ≠ 0) :
    (findErrorCode env codes target s).1 = (findErrorCode env.scalar codes target s).1 ↔
      (TakesSimd env s codes.length → CopyFits env s codes ∧ FindsAlike codes target) := by
  refine (branch_agrees_iff id rfl _ rfl s).trans (takes_imp_iff fun htakes => ?_)
  exact findSimd_agrees_iff hquiet hlawful hwell codes target (hserved htakes)

theorem validateErrorCodes_agrees_iff (hquiet : env.Quiet) (hlawful : env.Lawful)
    (hwell : s.heap.WellFormed) (codes : List ℤ) (minValue maxValue : ℤ)
    (hserved : TakesSimd env s codes.length → ValidateServed env s codes) :
    (validateErrorCodes env codes minValue maxValue s).1 =
        (validateErrorCodes env.scalar codes minValue maxValue s).1 ↔
      (TakesSimd env s codes.length →
        CopyFits env s codes ∧ ValidatesAlike codes minValue maxValue) := by
  refine (branch_agrees_iff id rfl _ rfl s).trans (takes_imp_iff fun htakes => ?_)
  exact validateSimd_agrees_iff hquiet hlawful hwell codes minValue maxValue (hserved htakes)

theorem map_batch (results : List Bool) (count : ℕ) (simd : Bool) :
    (Except.ok (batch results count simd) : Except JsError BatchResult).map BatchResult.results =
      .ok results := rfl

/-- The results of a comparison are those of its route. -/
theorem compareSimd_results (env : Env) (s : ApiState) (codes1 codes2 : List ℤ) (count : ℕ)
    (simd : Bool) :
    (((do
      let results ← compareSimd env codes1 codes2 count
      return batch results count simd) : Js BatchResult) s).1.map BatchResult.results =
      (compareSimd env codes1 codes2 count s).1 := by
  rcases Script.outcome_cases (compareSimd env codes1 codes2 count) s with
    ⟨results, s', h⟩ | ⟨e, s', h⟩
  · rw [Script.bind_of_ok h, h]
    rfl
  · rw [Script.bind_of_error h, h]
    rfl

theorem compareErrorCodesBulk_agrees_iff (hquiet : env.Quiet) (hlawful : env.Lawful)
    (hwell : s.heap.WellFormed) (codes1 codes2 : List ℤ) (enableSIMD : Bool)
    (hserved : enableSIMD = true → TakesSimd env s (min codes1.length codes2.length) →
      CompareServed env s codes1 codes2) :
    (compareErrorCodesBulk env codes1 codes2 enableSIMD s).1.map BatchResult.results =
        (compareErrorCodesBulk env.scalar codes1 codes2 enableSIMD s).1.map BatchResult.results ↔
      (enableSIMD = true → TakesSimd env s (min codes1.length codes2.length) →
        CopyFits env s codes1 ∧ CopyFits env (copied env s codes1) codes2 ∧
          ComparesAlike codes1 codes2) := by
  have hscalar : (enableSIMD && env.scalar.simd128 &&
      decide (min codes1.length codes2.length ≥ 16)) = false := by
    rw [Env.scalar, Bool.and_false, Bool.false_and]
  rw [compareErrorCodesBulk_eq env codes1 codes2 enableSIMD rfl rfl,
    compareErrorCodesBulk_eq env.scalar codes1 codes2 enableSIMD rfl rfl]
  refine (branch_agrees_iff (Except.map BatchResult.results)
    ((map_batch _ _ _).trans (map_batch _ _ _).symm) _ hscalar s).trans ?_
  rw [compareSimd_results, Bool.and_eq_true, Bool.and_eq_true, decide_eq_true_iff]
  constructor
  · intro h henabled htakes
    rw [← compareSimd_agrees_iff hquiet hlawful hwell codes1 codes2 (hserved henabled htakes)]
    exact h htakes.1 ⟨⟨henabled, htakes.2.1⟩, htakes.2.2⟩
  · rintro h hinit ⟨⟨henabled, hsimd⟩, hcount⟩
    have htakes : TakesSimd env s (min codes1.length codes2.length) := ⟨hinit, hsimd, hcount⟩
    exact (compareSimd_agrees_iff hquiet hlawful hwell codes1 codes2
      (hserved henabled htakes)).mpr (h henabled htakes)

end Agreement

/-- The bulk operations answer the same with the vector build as without it, unless a copy makes the
memory grow or does not fit in it, or a code and what it is held against lie in different windows of
2^32 numbers in a way that their words do not show. -/
theorem bulk_routes_agree_iff (env : Env) (hquiet : env.Quiet) (hlawful : env.Lawful)
    (s : ApiState) (hwell : s.heap.WellFormed) :
    (∀ codes1 codes2 enableSIMD,
      (enableSIMD = true → TakesSimd env s (min codes1.length codes2.length) →
        CompareServed env s codes1 codes2) →
      ((compareErrorCodesBulk env codes1 codes2 enableSIMD s).1.map BatchResult.results =
          (compareErrorCodesBulk env.scalar codes1 codes2 enableSIMD s).1.map
            BatchResult.results ↔
        (enableSIMD = true → TakesSimd env s (min codes1.length codes2.length) →
          CopyFits env s codes1 ∧ CopyFits env (copied env s codes1) codes2 ∧
            ComparesAlike codes1 codes2))) ∧
    (∀ codes target,
      (TakesSimd env s codes.length → (copyRequest env s codes).ptr ≠ 0) →
      ((findErrorCode env codes target s).1 = (findErrorCode env.scalar codes target s).1 ↔
        (TakesSimd env s codes.length → CopyFits env s codes ∧ FindsAlike codes target))) ∧
    (∀ codes minValue maxValue,
      (TakesSimd env s codes.length → ValidateServed env s codes) →
      ((validateErrorCodes env codes minValue maxValue s).1 =
          (validateErrorCodes env.scalar codes minValue maxValue s).1 ↔
        (TakesSimd env s codes.length →
          CopyFits env s codes ∧ ValidatesAlike codes minValue maxValue))) :=
  ⟨compareErrorCodesBulk_agrees_iff hquiet hlawful hwell,
    findErrorCode_agrees_iff hquiet hlawful hwell,
    validateErrorCodes_agrees_iff hquiet hlawful hwell⟩

theorem bulk_routes_agree_iff_sixteen :
    (findErrorCode (bumpEnv true fun _ => false) (List.replicate 16 5) 5 onePage).1 =
      (findErrorCode (bumpEnv true fun _ => false).scalar (List.replicate 16 5) 5 onePage).1 := by
  have hfits : CopyFits (bumpEnv true fun _ => false) onePage (List.replicate 16 5) :=
    ⟨rfl, by decide⟩
  refine ((bulk_routes_agree_iff (bumpEnv true fun _ => false) (bumpEnv_quiet true)
    (bumpEnv_lawful true _) onePage onePage_wellFormed).2.1 _ _ fun _ => by decide).mpr ?_
  intro _
  refine ⟨hfits, ?_⟩
  intro i code hcode _ hne
  exact absurd (List.eq_of_mem_replicate (List.mem_of_getElem? hcode)) hne

/-- The code 0x80004005 between the bounds 0 and 0xFFFFFFFF. -/
theorem validate_hresult_disagrees :
    (validateErrorCodes (bumpEnv true fun _ => false) (List.replicate 16 0x80004005) 0 0xFFFFFFFF
        onePage).1 ≠
      (validateErrorCodes (bumpEnv true fun _ => false).scalar (List.replicate 16 0x80004005) 0
        0xFFFFFFFF onePage).1 := by
  have hserved : ValidateServed (bumpEnv true fun _ => false) onePage
      (List.replicate 16 0x80004005) := ⟨by decide, fun _ => by decide⟩
  intro hagrees
  rw [validateErrorCodes_agrees_iff (bumpEnv_quiet true) (bumpEnv_lawful true _)
    onePage_wellFormed _ _ _ fun _ => hserved] at hagrees
  have hcode := (hagrees ⟨rfl, rfl, by decide⟩).2 0x80004005
    (List.mem_replicate.mpr ⟨by decide, rfl⟩)
  exact hcode.2 ⟨by decide, by decide, Or.inl (by decide)⟩

end BoostSystem.Api
