import BoostSystem.CopyArray
import Mathlib.Data.List.Basic

/-!
# The buffers of the bulk operations

What a call holds at a point is what it has allocated and not freed. An operation gives everything
back exactly if it holds nothing when it throws before its `try`; inside, the `finally` frees what is
held, whatever the body does.
-/

namespace BoostSystem.Api

open LinearMemory Scripts

/-- The blocks in use are the same, and nothing has been freed twice in between. -/
def Balanced (s s' : ApiState) : Prop :=
  (∀ b, b ∈ s'.live ↔ b ∈ s.live) ∧ s'.freedTwice = s.freedTwice

/-- Beyond what was live in `s`, the nonzero pointers among `ps` are, each once. -/
structure Holding (s : ApiState) (ps : List ℕ) (s' : ApiState) : Prop where
  blocks : ∃ blocks, s'.live = blocks ++ s.live ∧
    (blocks.map Prod.fst).Perm (ps.filter fun p => p ≠ 0)
  nodup : (ps.filter fun p => p ≠ 0).Nodup
  fresh : ∀ p ∈ ps, p ≠ 0 → ∀ b ∈ s.live, b.1 ≠ p
  freed : s'.freedTwice = s.freedTwice

section Holding

variable {env : Env} {s s₁ s₂ : ApiState} {ps : List ℕ}

theorem Holding.nothing (s : ApiState) : Holding s [] s :=
  ⟨⟨[], rfl, List.Perm.refl _⟩, List.nodup_nil, nofun, rfl⟩

theorem Holding.congr (h : Holding s ps s₁) (hlive : s₂.live = s₁.live)
    (hfreed : s₂.freedTwice = s₁.freedTwice) : Holding s ps s₂ where
  blocks := by rw [hlive]; exact h.blocks
  nodup := h.nodup
  fresh := h.fresh
  freed := hfreed.trans h.freed

theorem Holding.perm {ps' : List ℕ} (h : Holding s ps s₁) (hperm : ps.Perm ps') :
    Holding s ps' s₁ where
  blocks := by
    obtain ⟨blocks, hlive, hblocks⟩ := h.blocks
    exact ⟨blocks, hlive, hblocks.trans (hperm.filter _)⟩
  nodup := (hperm.filter _).nodup_iff.mp h.nodup
  fresh p hp := h.fresh p (hperm.mem_iff.mpr hp)
  freed := h.freed

theorem Holding.balanced_iff (h : Holding s ps s₁) : Balanced s s₁ ↔ ∀ p ∈ ps, p = 0 := by
  obtain ⟨blocks, hlive, hblocks⟩ := h.blocks
  constructor
  · rintro ⟨hsame, -⟩ p hp
    by_contra hne
    have hmem : p ∈ blocks.map Prod.fst := by
      rw [hblocks.mem_iff, List.mem_filter, decide_eq_true_iff]
      exact ⟨hp, hne⟩
    obtain ⟨b, hb, hfst⟩ := List.mem_map.mp hmem
    have hlater : b ∈ s₁.live := by
      rw [hlive]
      exact List.mem_append_left _ hb
    exact h.fresh p hp hne b ((hsame b).mp hlater) hfst
  · intro hzero
    have hnone : ps.filter (fun p => p ≠ 0) = [] := by
      rw [List.filter_eq_nil_iff]
      intro p hp
      rw [decide_eq_true_iff, not_not]
      exact hzero p hp
    rw [hnone, List.perm_nil, List.map_eq_nil_iff] at hblocks
    rw [hblocks, List.nil_append] at hlive
    exact ⟨fun b => by rw [hlive], h.freed⟩

theorem filter_cons_zero (ps : List ℕ) :
    (0 :: ps).filter (fun p => p ≠ 0) = ps.filter fun p => p ≠ 0 :=
  List.filter_cons_of_neg (by decide)

theorem filter_cons_ne {p : ℕ} (hp : p ≠ 0) (ps : List ℕ) :
    (p :: ps).filter (fun p => p ≠ 0) = p :: ps.filter fun p => p ≠ 0 :=
  List.filter_cons_of_pos (decide_eq_true hp)

theorem holding_zero_iff : Holding s (0 :: ps) s₁ ↔ Holding s ps s₁ := by
  constructor
  · rintro ⟨hblocks, hnodup, hfresh, hfreed⟩
    rw [filter_cons_zero] at hblocks hnodup
    exact ⟨hblocks, hnodup, fun p hp => hfresh p (List.mem_cons_of_mem _ hp), hfreed⟩
  · rintro ⟨hblocks, hnodup, hfresh, hfreed⟩
    rw [← filter_cons_zero] at hblocks hnodup
    refine ⟨hblocks, hnodup, ?_, hfreed⟩
    intro p hp hne
    rcases List.mem_cons.mp hp with rfl | hrest
    · exact absurd rfl hne
    · exact hfresh p hrest hne

theorem Holding.accept (h : Holding s ps s₁) {r : Response}
    (hfresh : r.ptr ≠ 0 → ∀ b ∈ s₁.live, b.1 ≠ r.ptr) (size : ℕ) :
    Holding s (r.ptr :: ps) (s₁.accept r size) := by
  by_cases hptr : r.ptr = 0
  · rw [hptr, holding_zero_iff]
    exact h.congr (if_pos hptr) rfl
  · obtain ⟨blocks, hlive, hblocks⟩ := h.blocks
    have hnew := hfresh hptr
    rw [hlive] at hnew
    refine ⟨⟨(r.ptr, size) :: blocks, ?_, ?_⟩, ?_, ?_, h.freed⟩
    · rw [ApiState.accept, hlive]
      exact if_neg hptr
    · rw [filter_cons_ne hptr]
      exact hblocks.cons _
    · rw [filter_cons_ne hptr, List.nodup_cons]
      refine ⟨?_, h.nodup⟩
      intro hmem
      obtain ⟨b, hb, hfst⟩ := List.mem_map.mp (hblocks.mem_iff.mpr hmem)
      exact hnew b (List.mem_append_left _ hb) hfst
    · intro p hp hne b hb
      rcases List.mem_cons.mp hp with rfl | hrest
      · exact hnew b (List.mem_append_right _ hb)
      · exact h.fresh p hrest hne b hb

theorem Holding.release {p : ℕ} (h : Holding s (p :: ps) s₁) :
    Holding s ps (s₁.release env p) := by
  by_cases hp : p = 0
  · rw [hp, holding_zero_iff] at h
    rw [hp]
    exact h
  · obtain ⟨blocks, hlive, hblocks⟩ := h.blocks
    have hnodup := h.nodup
    rw [filter_cons_ne hp] at hblocks hnodup
    obtain ⟨b, hb, hfst⟩ := List.mem_map.mp (hblocks.mem_iff.mpr List.mem_cons_self)
    have hfound : (b.1 == p) = true := beq_iff_eq.mpr hfst
    have hmap : (blocks.eraseP (·.1 == p)).map Prod.fst = (blocks.map Prod.fst).erase p := by
      rw [List.erase_eq_eraseP', List.eraseP_map]
      rfl
    have hrest := hblocks.erase p
    rw [List.erase_cons_head, ← hmap] at hrest
    unfold ApiState.release
    rw [if_neg hp]
    refine ⟨⟨blocks.eraseP (·.1 == p), ?_, hrest⟩, (List.nodup_cons.mp hnodup).2, ?_, ?_⟩
    · dsimp only
      rw [hlive]
      exact List.eraseP_append_left (p := fun b => b.1 == p) hfound _ hb
    · exact fun q hq => h.fresh q (List.mem_cons_of_mem _ hq)
    · have hany : s₁.live.any (·.1 == p) = true := by
        rw [List.any_eq_true, hlive]
        exact ⟨b, List.mem_append_left _ hb, hfound⟩
      dsimp only
      rw [hany, h.freed]
      exact Bool.or_false _

theorem Holding.allocated (h : Holding s ps s₁) (hfresh : env.Fresh) (size : ℕ) :
    Holding s ((request env s₁ size).ptr :: ps) (allocated env s₁ size) := by
  have htick : Holding s ps s₁.tick := h.congr rfl rfl
  exact htick.accept (hfresh s₁.tick (size % 2 ^ 32)) _

end Holding

/-! ### The body of the `try` -/

/-- The blocks in use and the record of double frees. -/
def ApiState.account (s : ApiState) : List (ℕ × ℕ) × Bool := (s.live, s.freedTwice)

section Body

variable {env : Env}

theorem point_keeps : (point env).Keeps ApiState.account := fun _ => rfl

theorem callKernel_keeps {α : Type} (kernel : Memory → Option (α × Memory)) :
    (callKernel env kernel).Keeps ApiState.account := by
  apply point_keeps.bind
  intro _
  apply Script.keeps_get.bind
  intro s
  cases kernel s.heap.memory with
  | none => exact Script.keeps_throw _
  | some result =>
    have hmodify : (Script.modify (·.withMemory result.2) : Js Unit).Keeps ApiState.account :=
      Script.keeps_modify fun _ => rfl
    exact hmodify.bind fun _ => Script.keeps_pure _

theorem readBools_keeps (ptr count : ℕ) : (readBools env ptr count).Keeps ApiState.account := by
  apply point_keeps.bind
  intro _
  apply Script.keeps_get.bind
  intro s
  split_ifs
  · exact Script.keeps_throw _
  · exact Script.keeps_pure _

theorem Holding.keeps {α : Type} {s s₁ : ApiState} {ps : List ℕ} (h : Holding s ps s₁)
    {body : Js α} (hbody : body.Keeps ApiState.account) : Holding s ps (body s₁).2 := by
  obtain ⟨hlive, hfreed⟩ := Prod.mk.inj (hbody s₁)
  exact h.congr hlive hfreed

end Body

/-! ### The operations -/

section Operations

variable {env : Env} {s : ApiState}

/-- The copy throws with the block that it has been given. -/
def CopyLeaks (env : Env) (s : ApiState) (array : List ℤ) : Prop :=
  Asks env s ∧ WriteThrows env s array ∧ (copyRequest env s array).ptr ≠ 0

def CopyReturns (env : Env) (s : ApiState) (array : List ℤ) : Prop :=
  Asks env s ∧ ¬ WriteThrows env s array

/-- A copy returns its block, or throws with it or without one. -/
theorem Holding.copy {s₁ : ApiState} {ps : List ℕ} (h : Holding s ps s₁) (hfresh : env.Fresh)
    (array : List ℤ) :
    (CopyReturns env s₁ array ∧
      copyArrayToWASM env array s₁ = (.ok (copyRequest env s₁ array).ptr, copied env s₁ array) ∧
      Holding s ((copyRequest env s₁ array).ptr :: ps) (copied env s₁ array)) ∨
    (¬ CopyReturns env s₁ array ∧ ∃ e s₂, copyArrayToWASM env array s₁ = (.error e, s₂) ∧
      (Balanced s s₂ ↔ ¬ CopyLeaks env s₁ array ∧ ∀ p ∈ ps, p = 0)) := by
  have hheld : Holding s ((copyRequest env s₁ array).ptr :: ps) (copyAllocated env s₁ array) := by
    have htick : Holding s ps s₁.tick := h.congr rfl rfl
    exact htick.allocated hfresh _
  by_cases hasks : Asks env s₁
  · by_cases hwrite : WriteThrows env s₁ array
    · right
      obtain ⟨e, hcopy⟩ := copyArrayToWASM_of_writeThrows hasks hwrite
      have hafter : Holding s ((copyRequest env s₁ array).ptr :: ps)
          (copyAllocated env s₁ array).tick := hheld.congr rfl rfl
      refine ⟨fun hreturns => hreturns.2 hwrite, e, _, hcopy, ?_⟩
      rw [hafter.balanced_iff, List.forall_mem_cons]
      refine and_congr_left fun _ => ?_
      constructor
      · rintro hzero ⟨-, -, hne⟩
        exact hne hzero
      · intro hleaks
        by_contra hne
        exact hleaks ⟨hasks, hwrite, hne⟩
    · left
      exact ⟨⟨hasks, hwrite⟩, copyArrayToWASM_of_writes hasks hwrite, hheld.congr rfl rfl⟩
  · right
    obtain ⟨e, s₂, hcopy, hlive, hfreed⟩ := copyArrayToWASM_of_not_asks array hasks
    have hafter : Holding s ps s₂ := h.congr hlive hfreed
    refine ⟨fun hreturns => hasks hreturns.1, e, s₂, hcopy, ?_⟩
    rw [hafter.balanced_iff]
    exact (and_iff_right fun hleaks => hasks hleaks.1).symm

theorem Holding.freeBuffer (env : Env) {s₁ : ApiState} {p : ℕ} {ps : List ℕ}
    (h : Holding s (p :: ps) s₁) : ∃ s₂, freeBuffer env p s₁ = (.ok (), s₂) ∧ Holding s ps s₂ :=
  ⟨s₁.release env p, rfl, h.release⟩

/-- A `finally` that frees what is held leaves nothing, whatever the body does. -/
theorem Holding.tryFinally {α : Type} {s₁ : ApiState} {ps : List ℕ} (h : Holding s ps s₁)
    {body : Js α} (hbody : body.Keeps ApiState.account) {cleanup : Js Unit}
    (hcleanup : ∀ s₂, Holding s ps s₂ → ∃ s₃, cleanup s₂ = (.ok (), s₃) ∧ Holding s [] s₃) :
    Balanced s (Script.tryFinally body cleanup s₁).2 := by
  obtain ⟨s₃, hfreed, hnothing⟩ := hcleanup _ (h.keeps hbody)
  rw [Script.tryFinally_of_ok hfreed, hnothing.balanced_iff]
  exact nofun

/-- If the allocation of the results throws, what is held is lost; if not, the `finally` frees all. -/
theorem Holding.results_balanced_iff {α : Type} {s₁ : ApiState} {ps : List ℕ}
    (h : Holding s ps s₁) (hfresh : env.Fresh) (count : ℕ) (body : ℕ → Js α)
    (hbody : ∀ ptr, (body ptr).Keeps ApiState.account) {cleanup : ℕ → Js Unit}
    (hcleanup : ∀ ptr s₂, Holding s (ptr :: ps) s₂ →
      ∃ s₃, cleanup ptr s₂ = (.ok (), s₃) ∧ Holding s [] s₃) :
    Balanced s ((allocateBuffer env count >>= fun ptr =>
      Script.tryFinally (body ptr) (cleanup ptr)) s₁).2 ↔
      (env.fails s₁.clock = true → ∀ p ∈ ps, p = 0) := by
  cases hfails : env.fails s₁.clock with
  | true =>
    have hafter : Holding s ps s₁.tick := h.congr rfl rfl
    rw [Script.bind_of_error (allocateBuffer_of_fails _ hfails), hafter.balanced_iff]
    exact ⟨fun hzero _ => hzero, fun hzero => hzero rfl⟩
  | false =>
    rw [Script.bind_of_ok (allocateBuffer_of_passes _ hfails)]
    refine iff_of_true ?_ fun hthrows => absurd hthrows Bool.false_ne_true
    exact (h.allocated hfresh count).tryFinally (hbody _) (hcleanup _)

theorem findSimd_balanced_iff (hfresh : env.Fresh) (codes : List ℤ) (target : ℤ) :
    Balanced s (findSimd env codes target s).2 ↔ ¬ CopyLeaks env s codes := by
  rcases (Holding.nothing s).copy hfresh codes with
    ⟨hreturns, hcopy, hheld⟩ | ⟨-, e, s₂, hcopy, hbalanced⟩
  · rw [findSimd, Script.bind_of_ok hcopy]
    refine iff_of_true ?_ fun hleaks => hreturns.2 hleaks.2.1
    apply hheld.tryFinally ((callKernel_keeps _).bind fun _ => Script.keeps_pure _)
    exact fun s₂ hs₂ => hs₂.freeBuffer env
  · rw [findSimd, Script.bind_of_error hcopy, hbalanced]
    exact and_iff_left nofun

/-- The copy leaks, or its block is lost when the allocation of the results throws. -/
def ValidateLeaks (env : Env) (s : ApiState) (codes : List ℤ) : Prop :=
  CopyLeaks env s codes ∨
    (CopyReturns env s codes ∧ env.fails (s.clock + 3) = true ∧ (copyRequest env s codes).ptr ≠ 0)

theorem validateSimd_balanced_iff (hfresh : env.Fresh) (codes : List ℤ) (minValue maxValue : ℤ) :
    Balanced s (validateSimd env codes minValue maxValue s).2 ↔ ¬ ValidateLeaks env s codes := by
  rcases (Holding.nothing s).copy hfresh codes with
    ⟨hreturns, hcopy, hheld⟩ | ⟨hthrows, e, s₂, hcopy, hbalanced⟩
  · have hleaks : ¬ CopyLeaks env s codes := fun hleaks => hreturns.2 hleaks.2.1
    rw [validateSimd, Script.bind_of_ok hcopy, ValidateLeaks, or_iff_right hleaks,
      and_iff_right hreturns]
    refine (hheld.results_balanced_iff hfresh codes.length _
      (fun _ => (callKernel_keeps _).bind fun _ => readBools_keeps _ _) ?_).trans ?_
    · intro resultsPtr s₂ hs₂
      have hordered := hs₂.perm (List.Perm.swap _ _ _)
      obtain ⟨s₃, hfirst, hs₃⟩ := hordered.freeBuffer env
      rw [Script.bind_of_ok hfirst]
      exact hs₃.freeBuffer env
    · rw [List.forall_mem_singleton, not_and, not_not]
      rfl
  · have hleaks : ValidateLeaks env s codes ↔ CopyLeaks env s codes :=
      or_iff_left fun hlost => hthrows hlost.1
    rw [validateSimd, Script.bind_of_error hcopy, hbalanced, hleaks]
    exact and_iff_left nofun

/-- A copy leaks, or a block is lost when the second copy or the allocation of the results throws. -/
def CompareLeaks (env : Env) (s : ApiState) (codes1 codes2 : List ℤ) : Prop :=
  CopyLeaks env s codes1 ∨
    (CopyReturns env s codes1 ∧
      (CopyLeaks env (copied env s codes1) codes2 ∨
        (¬ CopyReturns env (copied env s codes1) codes2 ∧ (copyRequest env s codes1).ptr ≠ 0) ∨
        (CopyReturns env (copied env s codes1) codes2 ∧ env.fails (s.clock + 6) = true ∧
          ((copyRequest env s codes1).ptr ≠ 0 ∨
            (copyRequest env (copied env s codes1) codes2).ptr ≠ 0))))

theorem compareSimd_balanced_iff (hfresh : env.Fresh) (codes1 codes2 : List ℤ) (count : ℕ) :
    Balanced s (compareSimd env codes1 codes2 count s).2 ↔ ¬ CompareLeaks env s codes1 codes2 := by
  rcases (Holding.nothing s).copy hfresh codes1 with
    ⟨hreturns, hcopy, hheld⟩ | ⟨hthrows, e, s₂, hcopy, hbalanced⟩
  · have hleaks : ¬ CopyLeaks env s codes1 := fun hleaks => hreturns.2 hleaks.2.1
    rw [compareSimd, Script.bind_of_ok hcopy, CompareLeaks, or_iff_right hleaks,
      and_iff_right hreturns]
    rcases hheld.copy hfresh codes2 with
      ⟨hreturns₂, hcopy₂, hheld₂⟩ | ⟨hthrows₂, e, s₂, hcopy₂, hbalanced₂⟩
    · have hleaks₂ : ¬ CopyLeaks env (copied env s codes1) codes2 :=
        fun hleaks => hreturns₂.2 hleaks.2.1
      have hlost : ¬ (¬ CopyReturns env (copied env s codes1) codes2 ∧
          (copyRequest env s codes1).ptr ≠ 0) := fun hlost => hlost.1 hreturns₂
      rw [Script.bind_of_ok hcopy₂, or_iff_right hleaks₂, or_iff_right hlost,
        and_iff_right hreturns₂]
      refine (hheld₂.results_balanced_iff hfresh count _
        (fun _ => (callKernel_keeps _).bind fun _ => readBools_keeps _ _) ?_).trans ?_
      · intro resultsPtr s₂ hs₂
        have hordered := hs₂.perm (List.reverse_perm _).symm
        obtain ⟨s₃, hfirst, hs₃⟩ := hordered.freeBuffer env
        obtain ⟨s₄, hsecond, hs₄⟩ := hs₃.freeBuffer env
        rw [Script.bind_of_ok hfirst, Script.bind_of_ok hsecond]
        exact hs₄.freeBuffer env
      · rw [List.forall_mem_cons, List.forall_mem_singleton, not_and, not_or, not_not, not_not,
          and_comm]
        rfl
    · have hresults : ¬ (CopyReturns env (copied env s codes1) codes2 ∧
          env.fails (s.clock + 6) = true ∧ ((copyRequest env s codes1).ptr ≠ 0 ∨
            (copyRequest env (copied env s codes1) codes2).ptr ≠ 0)) :=
        fun hlost => hthrows₂ hlost.1
      rw [Script.bind_of_error hcopy₂, hbalanced₂, List.forall_mem_singleton,
        or_iff_left hresults, and_iff_right hthrows₂, not_or, not_not]
  · have hleaks : CompareLeaks env s codes1 codes2 ↔ CopyLeaks env s codes1 :=
      or_iff_left fun hlost => hthrows hlost.1
    rw [compareSimd, Script.bind_of_error hcopy, hbalanced, hleaks]
    exact and_iff_left nofun

/-- What `compareErrorCodesBulk` returns with these results. -/
def batch (results : List Bool) (count : ℕ) (simd : Bool) : BatchResult :=
  ⟨results, [], count, count, 0, simd⟩

theorem compareErrorCodesBulk_eq (env : Env) (codes1 codes2 : List ℤ) (enableSIMD : Bool)
    {count : ℕ} (hcount : count = min codes1.length codes2.length) {simd : Bool}
    (hsimd : simd = (enableSIMD && env.simd128 && decide (count ≥ 16))) :
    compareErrorCodesBulk env codes1 codes2 enableSIMD =
      ensureInitialized >>= fun _ =>
        if simd then do
          let results ← compareSimd env codes1 codes2 count
          return batch results count simd
        else pure (batch (compareScalar codes1 codes2) count simd) := by
  simp only [compareErrorCodesBulk, ← hcount, ← hsimd]
  cases simd with
  | true => rfl
  | false => rfl

/-- Nothing is allocated unless the vector branch is taken. -/
theorem branch_balanced_iff {α : Type} {simd : Js α} {leaks : Prop}
    (h : Balanced s (simd s).2 ↔ ¬ leaks) (taken : Bool) (scalar : α) :
    Balanced s ((ensureInitialized >>= fun _ => if taken then simd else pure scalar) s).2 ↔
      ¬ (s.initialized = true ∧ taken = true ∧ leaks) := by
  have hidle : Balanced s s := ⟨fun _ => Iff.rfl, rfl⟩
  by_cases hinit : s.initialized = true
  · rw [Script.bind_of_ok (ensureInitialized_of_ready hinit), and_iff_right hinit]
    cases taken with
    | true => simpa only [if_true, true_and] using h
    | false => exact iff_of_true hidle fun hleaks => Bool.false_ne_true hleaks.1
  · rw [Script.bind_of_error (ensureInitialized_of_not_ready hinit)]
    exact iff_of_true hidle fun hleaks => hinit hleaks.1

/-- The vector branch is taken for `count` codes. -/
def TakesSimd (env : Env) (s : ApiState) (count : ℕ) : Prop :=
  s.initialized = true ∧ env.simd128 = true ∧ 16 ≤ count

theorem findErrorCode_balanced_iff (hfresh : env.Fresh) (codes : List ℤ) (target : ℤ) :
    Balanced s (findErrorCode env codes target s).2 ↔
      ¬ (TakesSimd env s codes.length ∧ CopyLeaks env s codes) := by
  refine (branch_balanced_iff (findSimd_balanced_iff hfresh codes target) _ _).trans ?_
  rw [Bool.and_eq_true, decide_eq_true_iff, TakesSimd]
  tauto

theorem validateErrorCodes_balanced_iff (hfresh : env.Fresh) (codes : List ℤ)
    (minValue maxValue : ℤ) :
    Balanced s (validateErrorCodes env codes minValue maxValue s).2 ↔
      ¬ (TakesSimd env s codes.length ∧ ValidateLeaks env s codes) := by
  refine (branch_balanced_iff (validateSimd_balanced_iff hfresh codes minValue maxValue) _
    _).trans ?_
  rw [Bool.and_eq_true, decide_eq_true_iff, TakesSimd]
  tauto

theorem compareErrorCodesBulk_balanced_iff (hfresh : env.Fresh) (codes1 codes2 : List ℤ)
    (enableSIMD : Bool) :
    Balanced s (compareErrorCodesBulk env codes1 codes2 enableSIMD s).2 ↔
      ¬ (enableSIMD = true ∧ TakesSimd env s (min codes1.length codes2.length) ∧
        CompareLeaks env s codes1 codes2) := by
  have hsimd : Balanced s _ ↔ _ :=
    compareSimd_balanced_iff hfresh codes1 codes2 (min codes1.length codes2.length)
  rw [← Script.bind_pure_snd _ fun results =>
    batch results (min codes1.length codes2.length) _] at hsimd
  rw [compareErrorCodesBulk_eq env codes1 codes2 enableSIMD rfl rfl]
  refine (branch_balanced_iff hsimd _ _).trans ?_
  rw [Bool.and_eq_true, Bool.and_eq_true, decide_eq_true_iff, TakesSimd]
  tauto

end Operations

/-- The bulk operations give back what they allocate and free nothing twice, unless something throws
before the `try` while a block is held. -/
theorem bulk_balanced_iff (env : Env) (hfresh : env.Fresh) (s : ApiState) :
    (∀ codes1 codes2 enableSIMD,
      Balanced s (compareErrorCodesBulk env codes1 codes2 enableSIMD s).2 ↔
        ¬ (enableSIMD = true ∧ TakesSimd env s (min codes1.length codes2.length) ∧
          CompareLeaks env s codes1 codes2)) ∧
    (∀ codes target, Balanced s (findErrorCode env codes target s).2 ↔
      ¬ (TakesSimd env s codes.length ∧ CopyLeaks env s codes)) ∧
    (∀ codes minValue maxValue,
      Balanced s (validateErrorCodes env codes minValue maxValue s).2 ↔
        ¬ (TakesSimd env s codes.length ∧ ValidateLeaks env s codes)) :=
  ⟨compareErrorCodesBulk_balanced_iff hfresh, findErrorCode_balanced_iff hfresh,
    validateErrorCodes_balanced_iff hfresh⟩

theorem bulk_balanced_iff_sixteen :
    Balanced onePage
      (findErrorCode (bumpEnv true fun _ => false) (List.replicate 16 5) 5 onePage).2 := by
  refine ((bulk_balanced_iff (bumpEnv true fun _ => false) (bumpEnv_fresh _ _)
    onePage).2.1 _ _).mpr ?_
  rintro ⟨-, -, hthrows | hgrown | hshort, -⟩
  · exact nomatch hthrows
  · exact hgrown rfl
  · exact absurd hshort (by decide)

/-- The memory grows for a page of codes, and the search throws with the block allocated. -/
theorem find_page_leaks :
    ¬ Balanced onePage (findErrorCode (bumpEnv true fun _ => false)
      (pageOfOnes.map Int32.toInt) 7 onePage).2 := by
  obtain ⟨hptr, hgeneration⟩ := copyRequest_pageOfOnes
  have hleaks : CopyLeaks (bumpEnv true fun _ => false) onePage (pageOfOnes.map Int32.toInt) := by
    refine ⟨(bumpEnv_quiet true).asks onePage, Or.inr (Or.inl ?_), ?_⟩
    · rw [hgeneration]
      exact Nat.one_ne_zero
    · rw [hptr]
      exact nofun
  have htaken : 16 ≤ (pageOfOnes.map Int32.toInt).length := by
    rw [List.length_map, pageOfOnes_length]
    omega
  rw [findErrorCode_balanced_iff (bumpEnv_fresh true fun _ => false), not_not]
  exact ⟨⟨rfl, rfl, htaken⟩, hleaks⟩

end BoostSystem.Api
