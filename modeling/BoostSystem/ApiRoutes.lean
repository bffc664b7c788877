import BoostSystem.ApiFrames

/-!
# Runs with the vector build and without it

The same calls are made on an object with the vector build and on one without it. Their books stay the
same, and at each call the two outcomes are the same exactly if the routes of that call agree, in the
state that the vector build has reached.
-/

namespace BoostSystem.Api

open LinearMemory Runs Scripts

/-- The outcome without what names the build. -/
def observe : Outcome → Outcome
  | .ok (.batch result) => .ok (.batch { result with simdUsed := false })
  | .ok (.metrics metrics) => .ok (.metrics { metrics with simdAvailable := false, speedupFactor := 1 })
  | outcome => outcome

/-- The routes of the call agree: the copies fit, and no number is told apart from its word. -/
def RoutesAlike (env : Env) (s : ApiState) : Call → Prop
  | .compareErrorCodesBulk codes1 codes2 enableSIMD =>
    enableSIMD = true → TakesSimd env s (min codes1.length codes2.length) →
      CopyFits env s codes1 ∧ CopyFits env (copied env s codes1) codes2 ∧ ComparesAlike codes1 codes2
  | .findErrorCode codes target =>
    TakesSimd env s codes.length → CopyFits env s codes ∧ FindsAlike codes target
  | .validateErrorCodes codes minValue maxValue =>
    TakesSimd env s codes.length → CopyFits env s codes ∧ ValidatesAlike codes minValue maxValue
  | .getSIMDMetrics => ∀ i < 1000, TakesSimd env (searched env i s) testData.length →
    CopyFits env (searched env i s) testData
  | _ => True

/-- The requests of the call are served. -/
def Served (env : Env) (s : ApiState) : Call → Prop
  | .compareErrorCodesBulk codes1 codes2 enableSIMD =>
    enableSIMD = true → TakesSimd env s (min codes1.length codes2.length) →
      CompareServed env s codes1 codes2
  | .findErrorCode codes _ => TakesSimd env s codes.length → (copyRequest env s codes).ptr ≠ 0
  | .validateErrorCodes codes _ _ => TakesSimd env s codes.length → ValidateServed env s codes
  | .getSIMDMetrics => ∀ i < 1000, TakesSimd env (searched env i s) testData.length →
    (copyRequest env (searched env i s) testData).ptr ≠ 0
  | _ => True

section Served

variable {env : Env} {s : ApiState}

theorem fits_of_returns (hquiet : env.Quiet) (hlawful : env.Lawful) (hwell : s.heap.WellFormed)
    {array : List ℤ} (hptr : (copyRequest env s array).ptr ≠ 0) (h : CopyReturns env s array) :
    CopyFits env s array := by
  by_contra hfits
  exact h.2 ((writeThrows_iff_not_fits hquiet hlawful hwell hptr).mpr hfits)

theorem Served.granted (hquiet : env.Quiet) (hlawful : env.Lawful) (hwell : s.heap.WellFormed)
    {call : Call} (h : Served env s call) : Granted env s call := by
  cases call with
  | compareErrorCodesBulk codes1 codes2 enableSIMD =>
    intro henabled htakes
    obtain ⟨hptr1, hserved⟩ := h henabled htakes
    refine ⟨fun _ => hptr1, fun hreturns1 => ?_⟩
    obtain ⟨hptr2, hresults⟩ := hserved (fits_of_returns hquiet hlawful hwell hptr1 hreturns1)
    refine ⟨fun _ => hptr2, fun hreturns2 => ?_⟩
    exact hresults (fits_of_returns hquiet hlawful (copied_wellFormed hlawful hwell) hptr2 hreturns2)
  | findErrorCode codes target => exact fun htakes _ => h htakes
  | validateErrorCodes codes minValue maxValue =>
    intro htakes
    obtain ⟨hptr, hresults⟩ := h htakes
    exact ⟨fun _ => hptr, fun hreturns =>
      hresults (fits_of_returns hquiet hlawful hwell hptr hreturns)⟩
  | getSIMDMetrics => exact fun i hi htakes _ => h i hi htakes
  | _ => exact trivial

end Served

/-! ### Calls that do not take routes -/

/-- Two states with the same books. -/
def SameBooks (s t : ApiState) : Prop := s.books = t.books

section Related

theorem SameBooks.initialized {s t : ApiState} (h : SameBooks s t) : s.initialized = t.initialized :=
  (Prod.mk.inj h).1

theorem SameBooks.store {s t : ApiState} (h : SameBooks s t) : s.store = t.store :=
  (Prod.mk.inj (Prod.mk.inj h).2).2

theorem SameBooks.memoryUsage {s t : ApiState} (h : SameBooks s t) : s.memoryUsage = t.memoryUsage :=
  (Prod.mk.inj (Prod.mk.inj h).2).1

theorem ensureInitialized_related :
    Script.Related SameBooks ensureInitialized ensureInitialized := by
  intro s t h
  by_cases hinit : s.initialized = true
  · rw [ensureInitialized_of_ready hinit, ensureInitialized_of_ready (h.initialized ▸ hinit)]
    exact ⟨rfl, h⟩
  · rw [ensureInitialized_of_not_ready hinit,
      ensureInitialized_of_not_ready (h.initialized ▸ hinit)]
    exact ⟨rfl, h⟩

theorem callStore_related {α : Type} (f : ErrorStore → Option (α × ErrorStore)) :
    Script.Related SameBooks (callStore f) (callStore f) := by
  intro s t h
  unfold callStore
  rw [h.store]
  cases f t.store with
  | none => exact ⟨rfl, h⟩
  | some result =>
    refine ⟨rfl, ?_⟩
    simp only [SameBooks, ApiState.books, h.initialized, h.memoryUsage]

theorem createErrorCode_sameBooks (value : ℤ) (category : ErrorCategory) :
    Script.Related SameBooks (createErrorCode value category) (createErrorCode value category) := by
  apply ensureInitialized_related.bind
  intro _
  apply (callStore_related _).bind
  intro message
  apply Script.Related.bind
  · intro s t h
    refine ⟨rfl, ?_⟩
    simp only [SameBooks, ApiState.books, Script.modify_apply, h.initialized, h.memoryUsage, h.store]
  · exact fun _ => Script.related_pure _

theorem createErrorCodesBulk_sameBooks (values : List ℤ) (category : ErrorCategory) :
    Script.Related SameBooks (createErrorCodesBulk values category)
      (createErrorCodesBulk values category) := by
  apply ensureInitialized_related.bind
  intro _
  apply Script.Related.bind
  · apply Script.Related.mapM'
    intro value
    exact (callStore_related _).bind fun _ => Script.related_pure _
  · intro results
    apply Script.Related.bind
    · intro s t h
      refine ⟨rfl, ?_⟩
      simp only [SameBooks, ApiState.books, Script.modify_apply, h.initialized, h.memoryUsage,
        h.store]
    · exact fun _ => Script.related_pure _

theorem compareErrorCodes_sameBooks (code1 code2 : ErrorCode) :
    Script.Related SameBooks (compareErrorCodes code1 code2) (compareErrorCodes code1 code2) := by
  have hcreate (value category : ℤ) : Script.Related SameBooks
      (createErrorCodeHandle value category) (createErrorCodeHandle value category) :=
    (callStore_related _).bind fun _ => Script.related_pure _
  apply ensureInitialized_related.bind
  intro _
  apply (hcreate _ _).bind
  intro handle1
  apply (hcreate _ _).bind
  intro handle2
  exact (callStore_related _).bind fun _ => Script.related_pure _

theorem getErrorStats_sameBooks (codes : List ErrorCode) :
    Script.Related SameBooks (getErrorStats codes) (getErrorStats codes) :=
  ensureInitialized_related.bind fun _ => Script.related_pure _

theorem initializeModule_sameBooks (loaded : Option Heap) :
    Script.Related SameBooks (initializeModule loaded) (initializeModule loaded) := by
  intro s t h
  by_cases hinit : s.initialized = true
  · rw [initializeModule_of_ready hinit, initializeModule_of_ready (h.initialized ▸ hinit)]
    exact ⟨rfl, h⟩
  · rw [initializeModule_of_not_ready hinit,
      initializeModule_of_not_ready (h.initialized ▸ hinit)]
    cases loaded with
    | none => exact ⟨rfl, h⟩
    | some heap =>
      refine ⟨rfl, ?_⟩
      simp only [SameBooks, ApiState.books, ApiState.load, h.memoryUsage]

theorem cleanup_sameBooks : Script.Related SameBooks cleanup cleanup := by
  intro s t h
  refine ⟨rfl, ?_⟩
  change SameBooks s.unload t.unload
  unfold ApiState.unload
  rw [h.initialized]
  split_ifs
  · simp only [SameBooks, ApiState.books, h.store]
  · exact h

theorem isInitialized_sameBooks : Script.Related SameBooks isInitialized isInitialized := by
  intro s t h
  refine ⟨?_, h⟩
  change Except.ok s.initialized = Except.ok t.initialized
  rw [h.initialized]

theorem getMemoryStats_sameBooks : Script.Related SameBooks getMemoryStats getMemoryStats := by
  intro s t h
  refine ⟨?_, h⟩
  change Except.ok s.memoryUsage = Except.ok t.memoryUsage
  rw [h.memoryUsage]

end Related

/-! ### Calls that take routes -/

theorem map_eq_map_iff {α β : Type} {f : α → β} (hf : Function.Injective f)
    {x y : Except JsError α} : x.map f = y.map f ↔ x = y := by
  constructor
  · intro h
    cases x with
    | ok a =>
      cases y with
      | ok b => exact congrArg Except.ok (hf (Except.ok.inj h))
      | error e => exact nomatch h
    | error e =>
      cases y with
      | ok b => exact nomatch h
      | error e' => exact congrArg Except.error (Except.error.inj h)
  · rintro rfl
    rfl

/-- Without the vector build, a method with two routes is told apart by the loading only. -/
theorem scalar_outcome {α : Type} {s t : ApiState} (h : SameBooks s t) (simd : Js α) (scalar : α)
    {taken : Bool} (htaken : taken = false) :
    ((ensureInitialized >>= fun _ => if taken then simd else pure scalar) s).1 =
      ((ensureInitialized >>= fun _ => if taken then simd else pure scalar) t).1 := by
  subst htaken
  exact ((ensureInitialized_related.bind fun _ => Script.related_pure scalar) s t h).1

section Outcomes

variable {env : Env} {s t : ApiState}

theorem observe_map {α : Type} {reply : α → Reply} (hreply : ∀ a, observe (.ok (reply a)) = .ok (reply a))
    (x : Except JsError α) : observe (x.map reply) = x.map reply := by
  cases x with
  | ok a => exact hreply a
  | error e => rfl

theorem find_alike (hquiet : env.Quiet) (hlawful : env.Lawful) (hwell : s.heap.WellFormed)
    (h : SameBooks s t) (codes : List ℤ) (target : ℤ)
    (hserved : TakesSimd env s codes.length → (copyRequest env s codes).ptr ≠ 0) :
    observe (perform env (.findErrorCode codes target) s).1 =
        observe (perform env.scalar (.findErrorCode codes target) t).1 ↔
      RoutesAlike env s (.findErrorCode codes target) := by
  have hscalar : (findErrorCode env.scalar codes target s).1 =
      (findErrorCode env.scalar codes target t).1 := scalar_outcome h _ _ rfl
  have hinjective : Function.Injective Reply.index := fun _ _ heq => Reply.index.inj heq
  rw [perform, perform, replying_apply, replying_apply, observe_map (fun _ => rfl),
    observe_map (fun _ => rfl), map_eq_map_iff hinjective, ← hscalar]
  exact findErrorCode_agrees_iff hquiet hlawful hwell codes target hserved

theorem validate_alike (hquiet : env.Quiet) (hlawful : env.Lawful) (hwell : s.heap.WellFormed)
    (h : SameBooks s t) (codes : List ℤ) (minValue maxValue : ℤ)
    (hserved : TakesSimd env s codes.length → ValidateServed env s codes) :
    observe (perform env (.validateErrorCodes codes minValue maxValue) s).1 =
        observe (perform env.scalar (.validateErrorCodes codes minValue maxValue) t).1 ↔
      RoutesAlike env s (.validateErrorCodes codes minValue maxValue) := by
  have hscalar : (validateErrorCodes env.scalar codes minValue maxValue s).1 =
      (validateErrorCodes env.scalar codes minValue maxValue t).1 := scalar_outcome h _ _ rfl
  have hinjective : Function.Injective Reply.valid := fun _ _ heq => Reply.valid.inj heq
  rw [perform, perform, replying_apply, replying_apply, observe_map (fun _ => rfl),
    observe_map (fun _ => rfl), map_eq_map_iff hinjective, ← hscalar]
  exact validateErrorCodes_agrees_iff hquiet hlawful hwell codes minValue maxValue hserved

/-- A comparison is its results, put into a batch. -/
theorem compareErrorCodesBulk_results (env : Env) (s : ApiState) (codes1 codes2 : List ℤ)
    (enableSIMD : Bool) : ∃ simd, (compareErrorCodesBulk env codes1 codes2 enableSIMD s).1 =
      ((compareErrorCodesBulk env codes1 codes2 enableSIMD s).1.map BatchResult.results).map
        fun results => batch results (min codes1.length codes2.length) simd := by
  refine ⟨enableSIMD && env.simd128 && decide (min codes1.length codes2.length ≥ 16), ?_⟩
  rw [compareErrorCodesBulk_eq env codes1 codes2 enableSIMD rfl rfl]
  by_cases hinit : s.initialized = true
  · rw [Script.bind_of_ok (ensureInitialized_of_ready hinit)]
    split_ifs with htaken
    · rcases Script.outcome_cases (compareSimd env codes1 codes2 (min codes1.length codes2.length)) s
        with ⟨results, s', hcompare⟩ | ⟨e, s', hcompare⟩
      · rw [Script.bind_of_ok hcompare]
        rfl
      · rw [Script.bind_of_error hcompare]
        rfl
    · rfl
  · rw [Script.bind_of_error (ensureInitialized_of_not_ready hinit)]
    rfl

theorem observe_batch (env : Env) (s : ApiState) (codes1 codes2 : List ℤ) (enableSIMD : Bool) :
    observe (perform env (.compareErrorCodesBulk codes1 codes2 enableSIMD) s).1 =
      ((compareErrorCodesBulk env codes1 codes2 enableSIMD s).1.map BatchResult.results).map
        fun results => .batch (batch results (min codes1.length codes2.length) false) := by
  obtain ⟨simd, hresults⟩ := compareErrorCodesBulk_results env s codes1 codes2 enableSIMD
  rw [perform, replying_apply, hresults]
  cases (compareErrorCodesBulk env codes1 codes2 enableSIMD s).1 with
  | ok result => rfl
  | error e => rfl

theorem compare_alike (hquiet : env.Quiet) (hlawful : env.Lawful) (hwell : s.heap.WellFormed)
    (h : SameBooks s t) (codes1 codes2 : List ℤ) (enableSIMD : Bool)
    (hserved : enableSIMD = true → TakesSimd env s (min codes1.length codes2.length) →
      CompareServed env s codes1 codes2) :
    observe (perform env (.compareErrorCodesBulk codes1 codes2 enableSIMD) s).1 =
        observe (perform env.scalar (.compareErrorCodesBulk codes1 codes2 enableSIMD) t).1 ↔
      RoutesAlike env s (.compareErrorCodesBulk codes1 codes2 enableSIMD) := by
  have hdisabled : (enableSIMD && env.scalar.simd128 &&
      decide (min codes1.length codes2.length ≥ 16)) = false := by
    rw [Env.scalar, Bool.and_false, Bool.false_and]
  have hscalar : (compareErrorCodesBulk env.scalar codes1 codes2 enableSIMD s).1 =
      (compareErrorCodesBulk env.scalar codes1 codes2 enableSIMD t).1 := by
    rw [compareErrorCodesBulk_eq env.scalar codes1 codes2 enableSIMD rfl rfl]
    exact scalar_outcome h _ _ hdisabled
  have hinjective : Function.Injective fun results =>
      Reply.batch (batch results (min codes1.length codes2.length) false) := by
    intro results results' heq
    exact congrArg BatchResult.results (Reply.batch.inj heq)
  rw [observe_batch, observe_batch, map_eq_map_iff hinjective, ← hscalar]
  exact compareErrorCodesBulk_agrees_iff hquiet hlawful hwell codes1 codes2 enableSIMD hserved

/-! ### The benchmark -/

theorem testData_findsAlike : FindsAlike testData 42 := by
  intro i code hcode hmod hne
  have hmem := List.mem_of_getElem? hcode
  unfold testData at hmem
  obtain ⟨j, -, rfl⟩ := List.mem_map.mp hmem
  have hlt := Nat.mod_lt j (show 0 < 100 by decide)
  exact absurd (by omega : ((j % 100 : ℕ) : ℤ) = 42) hne

theorem findErrorCode_kept (hfresh : env.Fresh) (hlawful : env.Lawful) (hreleases : env.Releases)
    (hwell : s.heap.WellFormed) {codes : List ℤ} {target : ℤ}
    (hserved : TakesSimd env s codes.length → CopyServed env s codes) :
    (findErrorCode env codes target s).2.heap.WellFormed := by
  have hd := contained_discipline hfresh hlawful hreleases hwell
  have hnothing := Contained.nothing hwell
  have hsettles : Settles (Contained s) 1 (findErrorCode env codes target) s :=
    findErrorCode_settles hd hnothing fun htakes =>
      findKeeps_contained hd hlawful hnothing (hserved htakes) target
  rcases hsettles with ⟨a, s', hfind, hs'⟩ | ⟨e, s', lost, hfind, -, hs'⟩
  · rw [hfind]
    exact hs'.wellFormed
  · rw [hfind]
    exact hs'.wellFormed

/-- A search of the test data returns exactly if its copy fits. -/
theorem search_returns_iff (hquiet : env.Quiet) (hlawful : env.Lawful) (hwell : s.heap.WellFormed)
    (hinit : s.initialized = true)
    (hserved : TakesSimd env s testData.length → (copyRequest env s testData).ptr ≠ 0) :
    (∃ index s', findErrorCode env testData 42 s = (.ok index, s')) ↔
      (TakesSimd env s testData.length → CopyFits env s testData) := by
  constructor
  · rintro ⟨index, s', hfind⟩ htakes
    by_contra hfits
    obtain ⟨e, s'', hcopy⟩ := copy_of_not_fits hquiet hlawful hwell (hserved htakes) hfits
    have htaken : (env.simd128 && decide (testData.length ≥ 16)) = true := by
      rw [Bool.and_eq_true, decide_eq_true_iff]
      exact htakes.2
    rw [findErrorCode, Script.bind_of_ok (ensureInitialized_of_ready hinit), if_pos htaken, findSimd,
      Script.bind_of_error hcopy] at hfind
    exact error_ne_ok e index (Prod.mk.inj hfind).1
  · intro hfits
    have hagrees : (findErrorCode env testData 42 s).1 =
        (findErrorCode env.scalar testData 42 s).1 :=
      (findErrorCode_agrees_iff hquiet hlawful hwell testData 42 hserved).mpr fun htakes =>
        ⟨hfits htakes, testData_findsAlike⟩
    have hscalar : (findErrorCode env.scalar testData 42 s).1 = .ok (indexOf testData 42) := by
      rw [findErrorCode, Script.bind_of_ok (ensureInitialized_of_ready hinit)]
      rfl
    exact ⟨_, _, Prod.ext (hagrees.trans hscalar) rfl⟩

theorem benchmark_returns_iff (hquiet : env.Quiet) (hfresh : env.Fresh) (hlawful : env.Lawful)
    (hreleases : env.Releases) (hwell : s.heap.WellFormed) (hinit : s.initialized = true)
    (iterations : ℕ)
    (hserved : ∀ i < iterations, TakesSimd env (searched env i s) testData.length →
      (copyRequest env (searched env i s) testData).ptr ≠ 0) :
    (∃ s', benchmark env iterations s = (.ok (), s')) ↔
      ∀ i < iterations, TakesSimd env (searched env i s) testData.length →
        CopyFits env (searched env i s) testData := by
  induction iterations generalizing s with
  | zero => exact iff_of_true ⟨s, rfl⟩ fun i hi => absurd hi (Nat.not_lt_zero i)
  | succ iterations ih =>
    have hfirst := search_returns_iff hquiet hlawful hwell hinit (hserved 0 (Nat.succ_pos _))
    by_cases hfits : TakesSimd env s testData.length → CopyFits env s testData
    · obtain ⟨index, s', hsearch⟩ := hfirst.mpr hfits
      have hstate : (findErrorCode env testData 42 s).2 = s' := by rw [hsearch]
      have hlater (i : ℕ) : searched env (i + 1) s = searched env i s' := by
        rw [searched, hstate]
      have hwell' : s'.heap.WellFormed := by
        rw [← hstate]
        exact findErrorCode_kept hfresh hlawful hreleases hwell fun htakes _ =>
          hserved 0 (Nat.succ_pos _) htakes
      have hinit' : s'.initialized = true := by
        rw [← hstate]
        exact (Prod.mk.inj (findErrorCode_keeps_books testData 42 s)).1.trans hinit
      have hrest := ih hwell' hinit' fun i hi => by
        have hnext := hserved (i + 1) (Nat.succ_lt_succ hi)
        rwa [hlater i] at hnext
      rw [benchmark, Script.bind_of_ok hsearch, hrest]
      constructor
      · intro h i hi
        cases i with
        | zero => exact hfits
        | succ i =>
          rw [hlater i]
          exact h i (Nat.lt_of_succ_lt_succ hi)
      · intro h i hi
        have hnext := h (i + 1) (Nat.succ_lt_succ hi)
        rwa [hlater i] at hnext
    · rcases Script.outcome_cases (findErrorCode env testData 42) s with
        ⟨index, s', hsearch⟩ | ⟨e, s', hsearch⟩
      · exact absurd (hfirst.mp ⟨index, s', hsearch⟩) hfits
      · rw [benchmark, Script.bind_of_error hsearch]
        refine iff_of_false ?_ fun h => hfits (h 0 (Nat.succ_pos _))
        rintro ⟨s'', heq⟩
        exact error_ne_ok e () (Prod.mk.inj heq).1

theorem searched_initialized (env : Env) (i : ℕ) (s : ApiState) :
    (searched env i s).initialized = s.initialized := by
  induction i generalizing s with
  | zero => rfl
  | succ i ih =>
    rw [searched, ih]
    exact (Prod.mk.inj (findErrorCode_keeps_books testData 42 s)).1

theorem metrics_alike (hquiet : env.Quiet) (hfresh : env.Fresh) (hlawful : env.Lawful)
    (hreleases : env.Releases) (hwell : s.heap.WellFormed) (h : SameBooks s t)
    (hserved : Served env s .getSIMDMetrics) :
    observe (perform env .getSIMDMetrics s).1 = observe (perform env.scalar .getSIMDMetrics t).1 ↔
      RoutesAlike env s .getSIMDMetrics := by
  rw [perform, perform, replying_apply, replying_apply, getSIMDMetrics, getSIMDMetrics]
  by_cases hinit : s.initialized = true
  · have hinit' : t.initialized = true := h.initialized ▸ hinit
    have hbenchmark := benchmark_returns_iff hquiet hfresh hlawful hreleases hwell hinit 1000 hserved
    rw [Script.bind_of_ok (ensureInitialized_of_ready hinit),
      Script.bind_of_ok (ensureInitialized_of_ready hinit')]
    by_cases hsimd : env.simd128 = true
    · rw [if_pos hsimd]
      rcases Script.outcome_cases (benchmark env 1000) s with ⟨u, s', hruns⟩ | ⟨e, s', hruns⟩
      · rw [Script.bind_of_ok hruns]
        exact iff_of_true rfl (hbenchmark.mp ⟨s', hruns⟩)
      · rw [Script.bind_of_error hruns]
        refine iff_of_false (error_ne_ok e _) fun halike => ?_
        obtain ⟨s'', hreturns⟩ := hbenchmark.mpr halike
        exact error_ne_ok e () (Prod.mk.inj (hruns.symm.trans hreturns)).1
    · rw [if_neg hsimd]
      exact iff_of_true rfl fun i _ htakes => absurd htakes.2.1 hsimd
  · have hinit' : t.initialized ≠ true := h.initialized ▸ hinit
    rw [Script.bind_of_error (ensureInitialized_of_not_ready hinit),
      Script.bind_of_error (ensureInitialized_of_not_ready hinit')]
    exact iff_of_true rfl fun i _ htakes =>
      absurd ((searched_initialized env i s).symm.trans htakes.1) hinit

end Outcomes

/-! ### Runs -/

section Runs

variable {env : Env} {s t : ApiState}

/-- The outcomes at a call are the same if the routes of the call agree, and only then. -/
def AlikeAt (env : Env) (s t : ApiState) (call : Call) : Prop :=
  observe (perform env call s).1 = observe (perform env.scalar call t).1 ↔ RoutesAlike env s call

theorem plain_alike {call : Call} {α : Type} {reply : α → Reply} {method : Js α}
    (hmethod : Script.Related SameBooks method method) (hvector : perform env call = replying reply method)
    (hscalar : perform env.scalar call = replying reply method) (hroutes : RoutesAlike env s call)
    (h : SameBooks s t) :
    AlikeAt env s t call ∧ SameBooks (perform env call s).2 (perform env.scalar call t).2 := by
  obtain ⟨houtcome, hbooks⟩ := hmethod s t h
  rw [AlikeAt, hvector, hscalar, replying_apply, replying_apply, houtcome]
  exact ⟨iff_of_true rfl hroutes, hbooks⟩

theorem replying_sameBooks {α : Type} {reply : α → Reply} {method method' : Js α}
    (hkeeps : method.Keeps ApiState.books) (hkeeps' : method'.Keeps ApiState.books)
    (h : SameBooks s t) : SameBooks (replying reply method s).2 (replying reply method' t).2 := by
  rw [replying_apply, replying_apply]
  exact (hkeeps s).trans (h.trans (hkeeps' t).symm)

theorem perform_alike (hquiet : env.Quiet) (hfresh : env.Fresh) (hlawful : env.Lawful)
    (hreleases : env.Releases) (hwell : s.heap.WellFormed) (h : SameBooks s t) {call : Call}
    (hserved : Served env s call) :
    AlikeAt env s t call ∧ SameBooks (perform env call s).2 (perform env.scalar call t).2 := by
  cases call with
  | initializeCall loaded =>
    exact plain_alike (initializeModule_sameBooks loaded) rfl rfl trivial h
  | cleanup => exact plain_alike cleanup_sameBooks rfl rfl trivial h
  | isInitialized => exact plain_alike isInitialized_sameBooks rfl rfl trivial h
  | getMemoryStats => exact plain_alike getMemoryStats_sameBooks rfl rfl trivial h
  | createErrorCode value category =>
    exact plain_alike (createErrorCode_sameBooks value category) rfl rfl trivial h
  | createErrorCodesBulk values category =>
    exact plain_alike (createErrorCodesBulk_sameBooks values category) rfl rfl trivial h
  | compareErrorCodes code1 code2 =>
    exact plain_alike (compareErrorCodes_sameBooks code1 code2) rfl rfl trivial h
  | getErrorStats codes => exact plain_alike (getErrorStats_sameBooks codes) rfl rfl trivial h
  | compareErrorCodesBulk codes1 codes2 enableSIMD =>
    exact ⟨compare_alike hquiet hlawful hwell h codes1 codes2 enableSIMD hserved,
      replying_sameBooks (compareErrorCodesBulk_keeps_books _ _ _)
        (compareErrorCodesBulk_keeps_books _ _ _) h⟩
  | findErrorCode codes target =>
    exact ⟨find_alike hquiet hlawful hwell h codes target hserved,
      replying_sameBooks (findErrorCode_keeps_books _ _) (findErrorCode_keeps_books _ _) h⟩
  | validateErrorCodes codes minValue maxValue =>
    exact ⟨validate_alike hquiet hlawful hwell h codes minValue maxValue hserved,
      replying_sameBooks (validateErrorCodes_keeps_books _ _ _)
        (validateErrorCodes_keeps_books _ _ _) h⟩
  | getSIMDMetrics =>
    exact ⟨metrics_alike hquiet hfresh hlawful hreleases hwell h hserved,
      replying_sameBooks getSIMDMetrics_keeps_books getSIMDMetrics_keeps_books h⟩

/-- The heap stays well formed, also where a module is loaded. -/
theorem perform_wellFormed (hfresh : env.Fresh) (hlawful : env.Lawful) (hreleases : env.Releases)
    (hwell : s.heap.WellFormed) {call : Call} (hgranted : Granted env s call)
    (hheap : ∀ heap, call = .initializeCall (some heap) → heap.WellFormed) :
    (perform env call s).2.heap.WellFormed := by
  by_cases hload : ∀ heap, call = .initializeCall (some heap) → s.initialized = true
  · exact (perform_kept hfresh hlawful hreleases hwell hgranted hload).wellFormed
  · rw [not_forall] at hload
    obtain ⟨heap, hcall⟩ := hload
    rw [Classical.not_imp] at hcall
    obtain ⟨rfl, hinit⟩ := hcall
    rw [perform, replying_apply, initializeModule_of_not_ready hinit]
    exact hheap heap rfl

/-- The two objects along a run. -/
theorem prefix_alike (hquiet : env.Quiet) (hfresh : env.Fresh) (hlawful : env.Lawful)
    (hreleases : env.Releases) {calls : List Call}
    (hheaps : ∀ heap, .initializeCall (some heap) ∈ calls → heap.WellFormed)
    (hserved : ∀ before call after, calls = before ++ call :: after →
      Served env (logged env before).2 call) (before after : List Call)
    (hcalls : calls = before ++ after) :
    (logged env before).2.heap.WellFormed ∧
      SameBooks (logged env before).2 (logged env.scalar before).2 := by
  induction before using List.reverseRecOn generalizing after with
  | nil => exact ⟨Heap.zeroes_wellFormed (by decide), rfl⟩
  | append_singleton before call ih =>
    have hsplit : calls = before ++ call :: after := by
      rw [hcalls, List.append_assoc, List.singleton_append]
    obtain ⟨hwell, hbooks⟩ := ih (call :: after) hsplit
    have hcall := hserved before call after hsplit
    rw [logged, logged, transcript_append, transcript_append]
    refine ⟨?_, (perform_alike hquiet hfresh hlawful hreleases hwell hbooks hcall).2⟩
    apply perform_wellFormed hfresh hlawful hreleases hwell (hcall.granted hquiet hlawful hwell)
    rintro heap rfl
    apply hheaps heap
    rw [hsplit]
    exact List.mem_append_right _ List.mem_cons_self

end Runs

/-- Over any calls the object with the vector build and the one without it keep the same books, and
their outcomes at a call are the same exactly if its routes agree in the state that has been reached. -/
theorem runs_alike_iff (env : Env) (hquiet : env.Quiet) (hfresh : env.Fresh) (hlawful : env.Lawful)
    (hreleases : env.Releases) (calls : List Call)
    (hheaps : ∀ heap, .initializeCall (some heap) ∈ calls → heap.WellFormed)
    (hserved : ∀ before call after, calls = before ++ call :: after →
      Served env (logged env before).2 call) :
    (logged env calls).2.books = (logged env.scalar calls).2.books ∧
    ∀ before call after, calls = before ++ call :: after → ∃ outcome outcome',
      (logged env calls).1[before.length]? = some (call, outcome) ∧
      (logged env.scalar calls).1[before.length]? = some (call, outcome') ∧
      (observe outcome = observe outcome' ↔ RoutesAlike env (logged env before).2 call) := by
  have halong := prefix_alike hquiet hfresh hlawful hreleases hheaps hserved
  refine ⟨(halong calls [] (List.append_nil calls).symm).2, ?_⟩
  rintro before call after rfl
  obtain ⟨hwell, hbooks⟩ := halong before (call :: after) rfl
  have halike := perform_alike hquiet hfresh hlawful hreleases hwell hbooks
    (hserved before call after rfl)
  exact ⟨_, _, transcript_at _ _ before call after, transcript_at _ _ before call after, halike.1⟩

/-- A load and a search. -/
theorem runs_alike_iff_search :
    (logged (bumpEnv true fun _ => false) [.initializeCall (some onePage.heap),
        .findErrorCode (List.replicate 16 5) 5]).2.books =
      (logged (bumpEnv true fun _ => false).scalar [.initializeCall (some onePage.heap),
        .findErrorCode (List.replicate 16 5) 5]).2.books := by
  refine (runs_alike_iff (bumpEnv true fun _ => false) (bumpEnv_quiet true) (bumpEnv_fresh true _)
    (bumpEnv_lawful true _) (bumpEnv_releases true _) _ ?_ ?_).1
  · intro heap hheap
    rcases List.mem_cons.mp hheap with hsame | hother
    · obtain rfl : heap = onePage.heap := Option.some.inj (Call.initializeCall.inj hsame)
      exact onePage_wellFormed
    · exact nomatch List.mem_singleton.mp hother
  · intro before call after hcalls
    cases before with
    | nil =>
      obtain ⟨rfl, -⟩ := List.cons.inj hcalls
      exact trivial
    | cons first before =>
      obtain ⟨rfl, hrest⟩ := List.cons.inj hcalls
      cases before with
      | nil =>
        obtain ⟨rfl, -⟩ := List.cons.inj hrest
        exact fun _ => by decide
      | cons second before => exact absurd (List.cons.inj hrest).2 (by simp)

end BoostSystem.Api
