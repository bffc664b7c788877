import BoostSystem.ApiBooks
import BoostSystem.BulkRoutes

/-!
# The blocks of a run

What is said of a state together with the blocks that a call holds in it goes through the bulk
operations step by step, if it goes through allocating, freeing and what is written in between. A
call that returns holds nothing, and one that throws at most what it had allocated. Over a run, the
blocks in use are bounded by the calls that threw, and none is ever freed twice.
-/

namespace BoostSystem.Api

open LinearMemory Runs Scripts

/-- What is said of the blocks that are held and the state is kept by allocating and freeing. -/
structure Discipline (env : Env) (P : List ℕ → ApiState → Prop) : Prop where
  tick : ∀ {ps s}, P ps s → P ps s.tick
  perm : ∀ {ps ps' s}, P ps s → ps.Perm ps' → P ps' s
  accept : ∀ {ps s}, P ps s → ∀ size, P ((env.malloc s size).ptr :: ps)
    (s.accept (env.malloc s size) size)
  release : ∀ {p ps s}, P (p :: ps) s → P ps (s.release env p)

/-- The call returns with nothing held, or throws with `k` blocks at most. -/
def Settles {α : Type} (P : List ℕ → ApiState → Prop) (k : ℕ) (x : Js α) (s : ApiState) : Prop :=
  (∃ a s', x s = (.ok a, s') ∧ P [] s') ∨
    ∃ e s' lost, x s = (.error e, s') ∧ lost.length ≤ k ∧ P lost s'

section Discipline

variable {env : Env} {P : List ℕ → ApiState → Prop} {s : ApiState} {ps : List ℕ}

theorem Discipline.allocate (d : Discipline env P) (h : P ps s) (size : ℕ) :
    P ((request env s size).ptr :: ps) (allocated env s size) := d.accept (d.tick h) _

theorem Discipline.free (d : Discipline env P) {p : ℕ} (h : P (p :: ps) s) :
    ∃ s', freeBuffer env p s = (.ok (), s') ∧ P ps s' := ⟨s.release env p, rfl, d.release h⟩

/-- A copy returns with its block, or throws with it or without it. -/
theorem Discipline.copy (d : Discipline env P) (h : P ps s) (array : List ℤ)
    (hwrites : CopyReturns env s array → P ((copyRequest env s array).ptr :: ps) (copied env s array)) :
    (CopyReturns env s array ∧
      copyArrayToWASM env array s = (.ok (copyRequest env s array).ptr, copied env s array) ∧
      P ((copyRequest env s array).ptr :: ps) (copied env s array)) ∨
    ∃ e s' lost, copyArrayToWASM env array s = (.error e, s') ∧ lost.length ≤ ps.length + 1 ∧
      P lost s' := by
  cases hfirst : env.fails s.clock with
  | true =>
    right
    refine ⟨_, _, ps, Script.bind_of_error (point_of_fails hfirst) _, Nat.le_succ _, d.tick h⟩
  | false =>
    cases hsecond : env.fails s.tick.clock with
    | true =>
      right
      refine ⟨.failure, s.tick.tick, ps, ?_, Nat.le_succ _, d.tick (d.tick h)⟩
      rw [copyArrayToWASM, Script.bind_of_ok (point_of_passes hfirst),
        Script.bind_of_ok (Script.get_apply _),
        Script.bind_of_error (allocateBuffer_of_fails _ hsecond)]
    | false =>
      have hasks : Asks env s := ⟨hfirst, hsecond⟩
      by_cases hwrite : WriteThrows env s array
      · right
        obtain ⟨e, hcopy⟩ := copyArrayToWASM_of_writeThrows hasks hwrite
        exact ⟨e, _, _, hcopy, Nat.le_refl _, d.tick (d.allocate (d.tick h) _)⟩
      · left
        exact ⟨⟨hasks, hwrite⟩, copyArrayToWASM_of_writes hasks hwrite, hwrites ⟨hasks, hwrite⟩⟩

/-- A `finally` that frees what is held leaves nothing, whatever the body does. -/
theorem Settles.tryFinally {α : Type} {body : Js α} (hbody : P ps (body s).2)
    {cleanup : Js Unit} (k : ℕ)
    (hcleanup : ∀ s₂, P ps s₂ → ∃ s₃, cleanup s₂ = (.ok (), s₃) ∧ P [] s₃) :
    Settles P k (Script.tryFinally body cleanup) s := by
  obtain ⟨s₃, hfreed, hnothing⟩ := hcleanup _ hbody
  have hfinally := Script.tryFinally_of_ok hfreed
  rcases Script.outcome_cases body s with ⟨a, s₂, h⟩ | ⟨e, s₂, h⟩
  · rw [h] at hfinally
    exact Or.inl ⟨a, s₃, hfinally, hnothing⟩
  · rw [h] at hfinally
    exact Or.inr ⟨e, s₃, [], hfinally, Nat.zero_le _, hnothing⟩

/-- The results are allocated, and then everything that is held is freed in the end. -/
theorem Discipline.results (d : Discipline env P) {α : Type} (h : P ps s) (count : ℕ)
    {body : ℕ → Js α} {cleanup : ℕ → Js Unit} {k : ℕ} (hk : ps.length ≤ k)
    (hbody : P ((request env s count).ptr :: ps) (allocated env s count) →
      P ((request env s count).ptr :: ps)
        (body (request env s count).ptr (allocated env s count)).2)
    (hcleanup : ∀ ptr s₂, P (ptr :: ps) s₂ → ∃ s₃, cleanup ptr s₂ = (.ok (), s₃) ∧ P [] s₃) :
    Settles P k (allocateBuffer env count >>= fun ptr =>
      Script.tryFinally (body ptr) (cleanup ptr)) s := by
  cases hfails : env.fails s.clock with
  | true =>
    right
    exact ⟨_, _, ps, Script.bind_of_error (allocateBuffer_of_fails _ hfails) _, hk, d.tick h⟩
  | false =>
    have hsettles : Settles P k (Script.tryFinally (body (request env s count).ptr)
        (cleanup (request env s count).ptr)) (allocated env s count) :=
      Settles.tryFinally (hbody (d.allocate h count)) k (hcleanup _)
    unfold Settles at hsettles ⊢
    rwa [Script.bind_of_ok (allocateBuffer_of_passes _ hfails)]

/-! ### The bulk operations -/

theorem Settles.pure {α : Type} (h : P [] s) (k : ℕ) (a : α) : Settles P k (pure a : Js α) s :=
  Or.inl ⟨a, s, rfl, h⟩

theorem Settles.error {α : Type} {x : Js α} {e : JsError} {s' : ApiState} {lost : List ℕ} {k : ℕ}
    (h : x s = (.error e, s')) (hlost : lost.length ≤ k) (hs' : P lost s') : Settles P k x s :=
  Or.inr ⟨e, s', lost, h, hlost, hs'⟩

/-- What follows a call that has returned with nothing held. -/
theorem Settles.bind {α β : Type} {x : Js α} {f : α → Js β} {k : ℕ} (h : Settles P k x s)
    (hf : ∀ a s', x s = (.ok a, s') → P [] s' → Settles P k (f a) s') : Settles P k (x >>= f) s := by
  rcases h with ⟨a, s', hx, hs'⟩ | ⟨e, s', lost, hx, hlost, hs'⟩
  · have hrest := hf a s' hx hs'
    unfold Settles at hrest ⊢
    rwa [Script.bind_of_ok hx]
  · exact Settles.error (Script.bind_of_error hx f) hlost hs'

end Discipline

/-- The `try` of a search. -/
def findBody (env : Env) (codes : List ℤ) (target : ℤ) (codesPtr : ℕ) : Js ℤ := do
  let index ← callKernel env fun m =>
    (findErrorCodeSimd env.simd128 codesPtr codes.length (toInt32 target) m).map (·, m)
  return index.toInt

/-- The `try` of a validation. -/
def validateBody (env : Env) (codes : List ℤ) (minValue maxValue : ℤ) (codesPtr resultsPtr : ℕ) :
    Js (List Bool) := do
  callKernel env fun m =>
    (validateErrorRangeSimd env.simd128 codesPtr resultsPtr codes.length (toInt32 minValue)
      (toInt32 maxValue) m).map ((), ·)
  readBools env resultsPtr codes.length

/-- The `try` of a comparison. -/
def compareBody (env : Env) (count codes1Ptr codes2Ptr resultsPtr : ℕ) : Js (List Bool) := do
  callKernel env fun m =>
    (compareErrorCodesSimd env.simd128 codes1Ptr codes2Ptr resultsPtr count m).map ((), ·)
  readBools env resultsPtr count

/-- The writes of a search keep what is said: the copy, and the `try`. -/
structure FindKeeps (env : Env) (P : List ℕ → ApiState → Prop) (s : ApiState) (codes : List ℤ)
    (target : ℤ) : Prop where
  copy : CopyReturns env s codes → P [(copyRequest env s codes).ptr] (copied env s codes)
  body : CopyReturns env s codes → P [(copyRequest env s codes).ptr]
    (findBody env codes target (copyRequest env s codes).ptr (copied env s codes)).2

structure ValidateKeeps (env : Env) (P : List ℕ → ApiState → Prop) (s : ApiState) (codes : List ℤ)
    (minValue maxValue : ℤ) : Prop where
  copy : CopyReturns env s codes → P [(copyRequest env s codes).ptr] (copied env s codes)
  body : CopyReturns env s codes →
    P [(request env (copied env s codes) codes.length).ptr, (copyRequest env s codes).ptr]
      (validateBody env codes minValue maxValue (copyRequest env s codes).ptr
        (request env (copied env s codes) codes.length).ptr
        (allocated env (copied env s codes) codes.length)).2

structure CompareKeeps (env : Env) (P : List ℕ → ApiState → Prop) (s : ApiState)
    (codes1 codes2 : List ℤ) (count : ℕ) : Prop where
  copy : CopyReturns env s codes1 → P [(copyRequest env s codes1).ptr] (copied env s codes1)
  copyBoth : CopyReturns env s codes1 → CopyReturns env (copied env s codes1) codes2 →
    P [(copyRequest env (copied env s codes1) codes2).ptr, (copyRequest env s codes1).ptr]
      (copiedBoth env s codes1 codes2)
  body : CopyReturns env s codes1 → CopyReturns env (copied env s codes1) codes2 →
    P [(request env (copiedBoth env s codes1 codes2) count).ptr,
        (copyRequest env (copied env s codes1) codes2).ptr, (copyRequest env s codes1).ptr]
      (compareBody env count (copyRequest env s codes1).ptr
        (copyRequest env (copied env s codes1) codes2).ptr
        (request env (copiedBoth env s codes1 codes2) count).ptr
        (allocated env (copiedBoth env s codes1 codes2) count)).2

section Operations

variable {env : Env} {P : List ℕ → ApiState → Prop} {s : ApiState}

theorem findSimd_settles (d : Discipline env P) (h : P [] s) {codes : List ℤ} {target : ℤ}
    (hkeeps : FindKeeps env P s codes target) : Settles P 1 (findSimd env codes target) s := by
  rcases d.copy h codes hkeeps.copy with
    ⟨hreturns, hcopy, -⟩ | ⟨e, s', lost, hcopy, hlost, hs'⟩
  · have hsettles : Settles P 1 (Script.tryFinally
        (findBody env codes target (copyRequest env s codes).ptr)
        (freeBuffer env (copyRequest env s codes).ptr)) (copied env s codes) :=
      Settles.tryFinally (hkeeps.body hreturns) 1 fun _ hs₂ => d.free hs₂
    unfold Settles at hsettles ⊢
    rwa [findSimd, Script.bind_of_ok hcopy]
  · exact Settles.error (Script.bind_of_error hcopy _) hlost hs'

theorem validateSimd_settles (d : Discipline env P) (h : P [] s) {codes : List ℤ}
    {minValue maxValue : ℤ} (hkeeps : ValidateKeeps env P s codes minValue maxValue) :
    Settles P 1 (validateSimd env codes minValue maxValue) s := by
  rcases d.copy h codes hkeeps.copy with
    ⟨hreturns, hcopy, hheld⟩ | ⟨e, s', lost, hcopy, hlost, hs'⟩
  · have hsettles : Settles P 1 (allocateBuffer env codes.length >>= fun resultsPtr =>
        Script.tryFinally
          (validateBody env codes minValue maxValue (copyRequest env s codes).ptr resultsPtr)
          (do
            freeBuffer env (copyRequest env s codes).ptr
            freeBuffer env resultsPtr)) (copied env s codes) := by
      refine d.results hheld codes.length (Nat.le_refl _) (fun _ => hkeeps.body hreturns) ?_
      intro resultsPtr s₂ hs₂
      obtain ⟨s₃, hfirst, hs₃⟩ := d.free (d.perm hs₂ (List.Perm.swap _ _ _))
      rw [Script.bind_of_ok hfirst]
      exact d.free hs₃
    unfold Settles at hsettles ⊢
    rwa [validateSimd, Script.bind_of_ok hcopy]
  · exact Settles.error (Script.bind_of_error hcopy _) hlost hs'

theorem compareSimd_settles (d : Discipline env P) (h : P [] s) {codes1 codes2 : List ℤ}
    {count : ℕ} (hkeeps : CompareKeeps env P s codes1 codes2 count) :
    Settles P 2 (compareSimd env codes1 codes2 count) s := by
  rcases d.copy h codes1 hkeeps.copy with
    ⟨hreturns1, hcopy1, hheld1⟩ | ⟨e, s', lost, hcopy1, hlost, hs'⟩
  · rcases d.copy hheld1 codes2 (hkeeps.copyBoth hreturns1) with
      ⟨hreturns2, hcopy2, hheld2⟩ | ⟨e, s', lost, hcopy2, hlost, hs'⟩
    · have hsettles : Settles P 2 (allocateBuffer env count >>= fun resultsPtr =>
          Script.tryFinally
            (compareBody env count (copyRequest env s codes1).ptr
              (copyRequest env (copied env s codes1) codes2).ptr resultsPtr)
            (do
              freeBuffer env (copyRequest env s codes1).ptr
              freeBuffer env (copyRequest env (copied env s codes1) codes2).ptr
              freeBuffer env resultsPtr)) (copiedBoth env s codes1 codes2) := by
        refine d.results hheld2 count (Nat.le_refl _) (fun _ => hkeeps.body hreturns1 hreturns2) ?_
        intro resultsPtr s₂ hs₂
        obtain ⟨s₃, hfirst, hs₃⟩ := d.free (d.perm hs₂ (List.reverse_perm _).symm)
        obtain ⟨s₄, hsecond, hs₄⟩ := d.free hs₃
        rw [Script.bind_of_ok hfirst, Script.bind_of_ok hsecond]
        exact d.free hs₄
      unfold Settles at hsettles ⊢
      rwa [compareSimd, Script.bind_of_ok hcopy1, Script.bind_of_ok hcopy2]
    · refine Or.inr ⟨e, s', lost, ?_, hlost, hs'⟩
      rw [compareSimd, Script.bind_of_ok hcopy1, Script.bind_of_error hcopy2]
  · refine Or.inr ⟨e, s', lost, ?_, hlost.trans (by decide), hs'⟩
    rw [compareSimd, Script.bind_of_error hcopy1]

/-- A method with a vector branch settles if the branch does. -/
theorem branch_settles {α : Type} (h : P [] s) {simd : Js α} {k : ℕ} (taken : Bool) (scalar : α)
    (hsimd : s.initialized = true → taken = true → Settles P k simd s) :
    Settles P k (ensureInitialized >>= fun _ => if taken then simd else pure scalar) s := by
  by_cases hinit : s.initialized = true
  · unfold Settles
    rw [Script.bind_of_ok (ensureInitialized_of_ready hinit)]
    cases taken with
    | true => exact hsimd hinit rfl
    | false => exact Settles.pure h k scalar
  · have hthrows := ensureInitialized_of_not_ready hinit
    exact Or.inr ⟨_, s, [], Script.bind_of_error hthrows _, Nat.zero_le k, h⟩

theorem findErrorCode_settles (d : Discipline env P) (h : P [] s) {codes : List ℤ} {target : ℤ}
    (hkeeps : TakesSimd env s codes.length → FindKeeps env P s codes target) :
    Settles P 1 (findErrorCode env codes target) s := by
  apply branch_settles h
  intro hinit htaken
  rw [Bool.and_eq_true, decide_eq_true_iff] at htaken
  exact findSimd_settles d h (hkeeps ⟨hinit, htaken⟩)

theorem validateErrorCodes_settles (d : Discipline env P) (h : P [] s) {codes : List ℤ}
    {minValue maxValue : ℤ}
    (hkeeps : TakesSimd env s codes.length → ValidateKeeps env P s codes minValue maxValue) :
    Settles P 1 (validateErrorCodes env codes minValue maxValue) s := by
  apply branch_settles h
  intro hinit htaken
  rw [Bool.and_eq_true, decide_eq_true_iff] at htaken
  exact validateSimd_settles d h (hkeeps ⟨hinit, htaken⟩)

theorem compareErrorCodesBulk_settles (d : Discipline env P) (h : P [] s)
    {codes1 codes2 : List ℤ} {enableSIMD : Bool}
    (hkeeps : enableSIMD = true → TakesSimd env s (min codes1.length codes2.length) →
      CompareKeeps env P s codes1 codes2 (min codes1.length codes2.length)) :
    Settles P 2 (compareErrorCodesBulk env codes1 codes2 enableSIMD) s := by
  rw [compareErrorCodesBulk_eq env codes1 codes2 enableSIMD rfl rfl]
  apply branch_settles h
  intro hinit htaken
  rw [Bool.and_eq_true, Bool.and_eq_true, decide_eq_true_iff] at htaken
  apply (compareSimd_settles d h (hkeeps htaken.1.1 ⟨hinit, htaken.1.2, htaken.2⟩)).bind
  exact fun results s' _ hs' => Settles.pure hs' 2 _

/-- The state after `i` searches of the benchmark. -/
def searched (env : Env) : ℕ → ApiState → ApiState
  | 0, s => s
  | i + 1, s => searched env i (findErrorCode env testData 42 s).2

/-- The benchmark stops at the first search that throws. -/
theorem benchmark_settles (d : Discipline env P) (h : P [] s) (iterations : ℕ)
    (hkeeps : ∀ i < iterations, P [] (searched env i s) →
      TakesSimd env (searched env i s) testData.length →
      FindKeeps env P (searched env i s) testData 42) :
    Settles P 1 (benchmark env iterations) s := by
  induction iterations generalizing s with
  | zero => exact Settles.pure h 1 ()
  | succ iterations ih =>
    apply (findErrorCode_settles d h (hkeeps 0 (Nat.succ_pos _) h)).bind
    intro _ s' hsearch hs'
    have hlater (i : ℕ) : searched env (i + 1) s = searched env i s' := by
      rw [searched, hsearch]
    apply ih hs'
    intro i hi
    have hnext := hkeeps (i + 1) (Nat.succ_lt_succ hi)
    rwa [hlater i] at hnext

theorem getSIMDMetrics_settles (d : Discipline env P) (h : P [] s)
    (hkeeps : env.simd128 = true → ∀ i < 1000, P [] (searched env i s) →
      TakesSimd env (searched env i s) testData.length →
      FindKeeps env P (searched env i s) testData 42) :
    Settles P 1 (getSIMDMetrics env) s := by
  by_cases hinit : s.initialized = true
  · unfold Settles
    rw [getSIMDMetrics, Script.bind_of_ok (ensureInitialized_of_ready hinit)]
    split_ifs with hsimd
    · exact (benchmark_settles d h 1000 (hkeeps hsimd)).bind fun _ s' _ hs' => Settles.pure hs' 1 _
    · exact (Settles.pure h 1 ()).bind fun _ s' _ hs' => Settles.pure hs' 1 _
  · have hthrows := ensureInitialized_of_not_ready hinit
    exact Or.inr ⟨_, s, [], Script.bind_of_error hthrows _, Nat.zero_le 1, h⟩

end Operations

/-! ### What a call holds -/

section Holding

variable {env : Env} {s s₁ : ApiState}

theorem holding_discipline (hfresh : env.Fresh) (s : ApiState) : Discipline env (Holding s) where
  tick h := h.congr rfl rfl
  perm h hperm := h.perm hperm
  accept h size := h.accept (hfresh _ size) size
  release h := h.release

theorem Holding.copied {ps : List ℕ} (h : Holding s ps s₁) (hfresh : env.Fresh) (array : List ℤ) :
    Holding s ((copyRequest env s₁ array).ptr :: ps) (copied env s₁ array) := by
  have htick : Holding s ps s₁.tick := h.congr rfl rfl
  exact (htick.allocated hfresh _).congr rfl rfl

theorem findKeeps_holding (hfresh : env.Fresh) (h : Holding s [] s₁) (codes : List ℤ) (target : ℤ) :
    FindKeeps env (Holding s) s₁ codes target where
  copy _ := h.copied hfresh codes
  body _ := (h.copied hfresh codes).keeps ((callKernel_keeps _).bind fun _ => Script.keeps_pure _)

theorem validateKeeps_holding (hfresh : env.Fresh) (h : Holding s [] s₁) (codes : List ℤ)
    (minValue maxValue : ℤ) : ValidateKeeps env (Holding s) s₁ codes minValue maxValue where
  copy _ := h.copied hfresh codes
  body _ := ((h.copied hfresh codes).allocated hfresh _).keeps
    ((callKernel_keeps _).bind fun _ => readBools_keeps _ _)

theorem compareKeeps_holding (hfresh : env.Fresh) (h : Holding s [] s₁) (codes1 codes2 : List ℤ)
    (count : ℕ) : CompareKeeps env (Holding s) s₁ codes1 codes2 count where
  copy _ := h.copied hfresh codes1
  copyBoth _ _ := (h.copied hfresh codes1).copied hfresh codes2
  body _ _ := (((h.copied hfresh codes1).copied hfresh codes2).allocated hfresh count).keeps
    ((callKernel_keeps _).bind fun _ => readBools_keeps _ _)

end Holding

/-! ### What a run loses -/

/-- The blocks that a call which has thrown may have lost. -/
def lossOf : Entry → ℕ
  | (.compareErrorCodesBulk _ _ _, .error _) => 2
  | (.findErrorCode _ _, .error _) => 1
  | (.validateErrorCodes _ _ _, .error _) => 1
  | (.getSIMDMetrics, .error _) => 1
  | _ => 0

/-- The blocks in use are distinct, at most as many as the log has losses, and none has been freed
twice. -/
structure Blocks (log : Log) (s : ApiState) : Prop where
  freed : s.freedTwice = false
  nodup : (s.live.map Prod.fst).Nodup
  nonzero : ∀ b ∈ s.live, b.1 ≠ 0
  lost : s.live.length ≤ (log.map lossOf).sum

section Blocks

variable {log : Log} {s s' : ApiState}

theorem Blocks.account (h : Blocks log s) (entry : Entry) (haccount : s'.account = s.account) :
    Blocks (log ++ [entry]) s' := by
  obtain ⟨hlive, hfreed⟩ := Prod.mk.inj haccount
  refine ⟨hfreed.trans h.freed, ?_, ?_, ?_⟩
  · rw [hlive]
    exact h.nodup
  · rw [hlive]
    exact h.nonzero
  · rw [hlive, List.map_append, List.sum_append]
    exact h.lost.trans (Nat.le_add_right _ _)

/-- What is held is in use once more than before. -/
theorem Blocks.holding (h : Blocks log s) {ps : List ℕ} (hheld : Holding s ps s') (entry : Entry)
    (hloss : ps.length ≤ lossOf entry) : Blocks (log ++ [entry]) s' := by
  obtain ⟨blocks, hlive, hblocks⟩ := hheld.blocks
  have hnonzero : ∀ b ∈ blocks, b.1 ∈ ps ∧ b.1 ≠ 0 := by
    intro b hb
    have hmem := hblocks.mem_iff.mp (List.mem_map_of_mem hb)
    rw [List.mem_filter, decide_eq_true_iff] at hmem
    exact hmem
  refine ⟨hheld.freed.trans h.freed, ?_, ?_, ?_⟩
  · rw [hlive, List.map_append, List.nodup_append]
    refine ⟨hblocks.nodup_iff.mpr hheld.nodup, h.nodup, ?_⟩
    rintro p hp q hq rfl
    obtain ⟨b, hb, rfl⟩ := List.mem_map.mp hp
    obtain ⟨b', hb', hsame⟩ := List.mem_map.mp hq
    exact hheld.fresh b.1 (hnonzero b hb).1 (hnonzero b hb).2 b' hb' hsame
  · intro b hb
    rw [hlive, List.mem_append] at hb
    rcases hb with hnew | hold
    · exact (hnonzero b hnew).2
    · exact h.nonzero b hold
  · have hlength : blocks.length ≤ ps.length := by
      have hperm := hblocks.length_eq
      rw [List.length_map] at hperm
      rw [hperm]
      exact List.length_filter_le _ _
    have hlost := h.lost
    rw [hlive, List.length_append, List.map_append, List.sum_append, List.map_singleton,
      List.sum_singleton]
    omega

theorem Blocks.settled (h : Blocks log s) {α : Type} {reply : α → Reply} {method : Js α} {k : ℕ}
    (hsettles : Settles (Holding s) k method s) (call : Call)
    (hloss : ∀ e, lossOf (call, .error e) = k) :
    Blocks (log ++ [(call, (replying reply method s).1)]) (replying reply method s).2 := by
  rw [replying_apply]
  rcases hsettles with ⟨a, s', hmethod, hs'⟩ | ⟨e, s', lost, hmethod, hlost, hs'⟩
  · rw [hmethod]
    exact h.holding hs' _ (Nat.zero_le _)
  · rw [hmethod]
    exact h.holding hs' _ (hlost.trans_eq (hloss e).symm)

end Blocks

section Steps

variable {log : Log} {s : ApiState}

theorem callStore_keeps {α γ : Type} (f : ErrorStore → Option (α × ErrorStore)) {g : ApiState → γ}
    (hg : ∀ s store, g { s with store := store } = g s) : (callStore f).Keeps g := by
  intro s
  unfold callStore
  cases f s.store with
  | none => rfl
  | some result => exact hg s result.2

/-- The state without its store and its statistics. -/
def ApiState.apart (s : ApiState) : ApiState := { s with store := .empty, memoryUsage := ⟨0, 0, 0, 0⟩ }

theorem ensureInitialized_keeps_apart : ensureInitialized.Keeps ApiState.apart := by
  apply Script.keeps_get.bind
  intro s
  split_ifs
  · exact Script.keeps_pure ()
  · exact Script.keeps_throw _

theorem createErrorCode_keeps_apart (value : ℤ) (category : ErrorCategory) :
    (createErrorCode value category).Keeps ApiState.apart := by
  apply ensureInitialized_keeps_apart.bind
  intro _
  apply (callStore_keeps _ fun _ _ => rfl).bind
  intro message
  apply Script.Keeps.bind
  · exact Script.keeps_modify fun _ => rfl
  · exact fun _ => Script.keeps_pure _

theorem createErrorCodesBulk_keeps_apart (values : List ℤ) (category : ErrorCategory) :
    (createErrorCodesBulk values category).Keeps ApiState.apart := by
  apply ensureInitialized_keeps_apart.bind
  intro _
  apply Script.Keeps.bind
  · apply Script.Keeps.mapM'
    intro value
    exact (callStore_keeps _ fun _ _ => rfl).bind fun _ => Script.keeps_pure _
  · intro results
    apply Script.Keeps.bind
    · exact Script.keeps_modify fun _ => rfl
    · exact fun _ => Script.keeps_pure _

theorem compareErrorCodes_keeps_apart (code1 code2 : ErrorCode) :
    (compareErrorCodes code1 code2).Keeps ApiState.apart := by
  have hcreate (value category : ℤ) : (createErrorCodeHandle value category).Keeps ApiState.apart :=
    (callStore_keeps _ fun _ _ => rfl).bind fun _ => Script.keeps_pure _
  apply ensureInitialized_keeps_apart.bind
  intro _
  apply (hcreate _ _).bind
  intro handle1
  apply (hcreate _ _).bind
  intro handle2
  exact (callStore_keeps _ fun _ _ => rfl).bind fun _ => Script.keeps_pure _

theorem getErrorStats_keeps_apart (codes : List ErrorCode) :
    (getErrorStats codes).Keeps ApiState.apart :=
  ensureInitialized_keeps_apart.bind fun _ => Script.keeps_pure _

/-- A loaded state has the blocks that the log since the last cleanup allows. -/
def LoadedBlocks (log : Log) (s : ApiState) : Prop :=
  s.initialized = true → Blocks (sinceCleanup log) s

theorem LoadedBlocks.apart (h : LoadedBlocks log s) {α : Type} {reply : α → Reply} {method : Js α}
    (hkeeps : method.Keeps ApiState.apart) (call : Call)
    (hcall : ∀ outcome, isCleanup (call, outcome) = false) :
    LoadedBlocks (log ++ [(call, (replying reply method s).1)]) (replying reply method s).2 := by
  have happart := hkeeps s
  rw [replying_apply]
  intro hinit
  rw [sinceCleanup_append _ (hcall _)]
  have hsame : (method s).2.apart.initialized = s.apart.initialized :=
    congrArg ApiState.initialized happart
  have haccount : (method s).2.apart.account = s.apart.account :=
    congrArg ApiState.account happart
  exact (h (hsame.symm.trans hinit)).account _ haccount

theorem LoadedBlocks.settled (h : LoadedBlocks log s) {α : Type} {reply : α → Reply}
    {method : Js α} {k : ℕ} (hkeeps : method.Keeps ApiState.books)
    (hsettles : Settles (Holding s) k method s) (call : Call)
    (hcall : ∀ outcome, isCleanup (call, outcome) = false)
    (hloss : ∀ e, lossOf (call, .error e) = k) :
    LoadedBlocks (log ++ [(call, (replying reply method s).1)]) (replying reply method s).2 := by
  intro hinit
  rw [sinceCleanup_append _ (hcall _)]
  rw [replying_apply] at hinit
  have hsame : (method s).2.initialized = s.initialized := (Prod.mk.inj (hkeeps s)).1
  exact (h (hsame.symm.trans hinit)).settled hsettles call hloss

theorem LoadedBlocks.loaded (h : LoadedBlocks log s) (loaded : Option Heap) :
    LoadedBlocks (log ++ [(.initializeCall loaded,
        (replying (fun _ => .done) (initializeModule loaded) s).1)])
      (replying (fun _ => .done) (initializeModule loaded) s).2 := by
  rw [replying_apply]
  intro hinit
  rw [sinceCleanup_append _ rfl]
  by_cases hready : s.initialized = true
  · rw [initializeModule_of_ready hready]
    exact (h hready).account _ rfl
  · rw [initializeModule_of_not_ready hready] at hinit ⊢
    cases loaded with
    | none => exact absurd hinit hready
    | some heap => exact ⟨rfl, List.nodup_nil, nofun, Nat.zero_le _⟩

theorem LoadedBlocks.step (h : LoadedBlocks log s) {env : Env} (hfresh : env.Fresh) (call : Call) :
    LoadedBlocks (log ++ [(call, (perform env call s).1)]) (perform env call s).2 := by
  have hnothing := Holding.nothing s
  have hd := holding_discipline hfresh s
  cases call with
  | cleanup =>
    intro hinit
    have hdown : s.unload.initialized ≠ true := by
      unfold ApiState.unload
      split_ifs with hready
      · exact Bool.false_ne_true
      · exact hready
    exact absurd hinit hdown
  | initializeCall loaded => exact h.loaded loaded
  | createErrorCode value category =>
    exact h.apart (createErrorCode_keeps_apart value category) _ fun _ => rfl
  | createErrorCodesBulk values category =>
    exact h.apart (createErrorCodesBulk_keeps_apart values category) _ fun _ => rfl
  | compareErrorCodes code1 code2 =>
    exact h.apart (compareErrorCodes_keeps_apart code1 code2) _ fun _ => rfl
  | getErrorStats codes => exact h.apart (getErrorStats_keeps_apart codes) _ fun _ => rfl
  | isInitialized | getMemoryStats =>
    intro hinit
    rw [sinceCleanup_append _ rfl]
    exact (h hinit).account _ rfl
  | compareErrorCodesBulk codes1 codes2 enableSIMD =>
    apply h.settled (compareErrorCodesBulk_keeps_books _ _ _) _ _ (fun _ => rfl) fun _ => rfl
    exact compareErrorCodesBulk_settles hd hnothing fun _ _ =>
      compareKeeps_holding hfresh hnothing _ _ _
  | findErrorCode codes target =>
    apply h.settled (findErrorCode_keeps_books _ _) _ _ (fun _ => rfl) fun _ => rfl
    exact findErrorCode_settles hd hnothing fun _ => findKeeps_holding hfresh hnothing _ _
  | validateErrorCodes codes minValue maxValue =>
    apply h.settled (validateErrorCodes_keeps_books _ _ _) _ _ (fun _ => rfl) fun _ => rfl
    exact validateErrorCodes_settles hd hnothing fun _ =>
      validateKeeps_holding hfresh hnothing _ _ _
  | getSIMDMetrics =>
    apply h.settled getSIMDMetrics_keeps_books _ _ (fun _ => rfl) fun _ => rfl
    exact getSIMDMetrics_settles hd hnothing fun _ _ _ hheld _ =>
      findKeeps_holding hfresh hheld _ _

end Steps

/-- While a module is loaded, the blocks in use are no more than the calls since the last cleanup that
threw can have lost, and none is freed twice; without such calls there are none. -/
theorem lost_blocks_bounded (env : Env) (hfresh : env.Fresh) (calls : List Call)
    (hinit : (logged env calls).2.initialized = true) :
    Blocks (sinceCleanup (logged env calls).1) (logged env calls).2 := by
  have hstep (log : Log) (s : ApiState) (call : Call) (h : LoadedBlocks log s) :
      LoadedBlocks (log ++ [(call, (perform env call s).1)]) (perform env call s).2 :=
    h.step hfresh call
  have hstart : LoadedBlocks [] .constructed := nofun
  exact transcript_invariant LoadedBlocks hstart hstep calls hinit

/-- A search whose write throws, and one that returns. -/
theorem lost_blocks_bounded_two :
    Blocks (sinceCleanup (logged (bumpEnv true (· == 2)) [.initializeCall (some onePage.heap),
        .findErrorCode (List.replicate 16 5) 5, .findErrorCode (List.replicate 16 5) 5]).1)
      (logged (bumpEnv true (· == 2)) [.initializeCall (some onePage.heap),
        .findErrorCode (List.replicate 16 5) 5, .findErrorCode (List.replicate 16 5) 5]).2 :=
  lost_blocks_bounded _ (bumpEnv_fresh true _) _ (by decide)

end BoostSystem.Api
