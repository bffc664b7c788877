import BoostSystem.ApiBlocks

/-!
# The blocks of the others

The bulk operations write into blocks that they have just been given, so whatever was live before a
call is as it was after it, whether the call returned or threw, as long as no request is refused: a
refused request is a null pointer, and the copy goes to the bottom of memory.
-/

namespace BoostSystem.Api

open LinearMemory Runs Scripts

/-- `free` changes nothing in the other blocks. -/
def Env.Releases (env : Env) : Prop :=
  ∀ (s : ApiState) p, s.heap.WellFormed → (env.free s p).WellFormed ∧
    ∀ b ∈ s.live, b.1 ≠ p → ∀ k < b.2, b.1 + k < s.heap.size →
      (env.free s p).memory.cell (b.1 + k) = s.heap.memory.cell (b.1 + k)

/-- What was live in `s` is as it was. -/
structure Contained (s : ApiState) (ps : List ℕ) (s₁ : ApiState) : Prop
    extends Holding s ps s₁ where
  wellFormed : s₁.heap.WellFormed
  intact : ∀ b ∈ s.live, ∀ k < b.2, b.1 + k < s.heap.size →
    s₁.heap.memory.cell (b.1 + k) = s.heap.memory.cell (b.1 + k)

section Contained

variable {env : Env} {s s₁ s₂ : ApiState} {ps : List ℕ}

theorem Contained.nothing (hwell : s.heap.WellFormed) : Contained s [] s :=
  ⟨Holding.nothing s, hwell, fun _ _ _ _ _ => rfl⟩

theorem Contained.congr (h : Contained s ps s₁) (haccount : s₂.account = s₁.account)
    (hheap : s₂.heap = s₁.heap) : Contained s ps s₂ := by
  obtain ⟨hlive, hfreed⟩ := Prod.mk.inj haccount
  refine ⟨h.toHolding.congr hlive hfreed, ?_, ?_⟩
  · rw [hheap]
    exact h.wellFormed
  · rw [hheap]
    exact h.intact

theorem Contained.mem (h : Contained s ps s₁) {b : ℕ × ℕ} (hb : b ∈ s.live) : b ∈ s₁.live := by
  obtain ⟨blocks, hlive, -⟩ := h.blocks
  rw [hlive]
  exact List.mem_append_right _ hb

theorem Contained.lt (h : Contained s ps s₁) (hwell : s.heap.WellFormed) {b : ℕ × ℕ}
    (hb : b ∈ s.live) {k : ℕ} (hk : k < b.2) (hlt : b.1 + k < s.heap.size) :
    b.1 + k < s₁.heap.size := by
  rw [← h.wellFormed (b.1 + k), h.intact b hb k hk hlt, hwell]
  exact hlt

theorem Contained.write (h : Contained s ps s₁) {q n : ℕ}
    (happart : ∀ b ∈ s.live, Apart b.1 b.2 q n) (f : ℕ → UInt8) :
    Contained s ps (s₁.withMemory (s₁.heap.memory.write q n f)) := by
  refine ⟨h.toHolding.congr rfl rfl, h.wellFormed.withMemory_write q n f, ?_⟩
  intro b hb k hk hlt
  have houtside : b.1 + k < q ∨ q + n ≤ b.1 + k := by
    rcases happart b hb with hbelow | habove
    · exact Or.inl (by omega)
    · exact Or.inr (by omega)
  exact (Memory.write_cell_of_outside _ f houtside).trans (h.intact b hb k hk hlt)

theorem contained_discipline (hfresh : env.Fresh) (hlawful : env.Lawful) (hreleases : env.Releases)
    (hwell : s.heap.WellFormed) : Discipline env (Contained s) where
  tick h := h.congr rfl rfl
  perm h hperm := ⟨h.toHolding.perm hperm, h.wellFormed, h.intact⟩
  accept := by
    intro ps s₁ h size
    have hanswer := hlawful s₁ size h.wellFormed
    refine ⟨h.toHolding.accept (hfresh s₁ size) size, hanswer.wellFormed, ?_⟩
    intro b hb k hk hlt
    exact (hanswer.keeps b (h.mem hb) k hk (h.lt hwell hb hk hlt)).trans (h.intact b hb k hk hlt)
  release := by
    intro p ps s₁ h
    have hheld : Holding s ps (s₁.release env p) := h.toHolding.release
    by_cases hp : p = 0
    · have hsame : s₁.release env p = s₁ := if_pos hp
      rw [hsame] at hheld ⊢
      exact ⟨hheld, h.wellFormed, h.intact⟩
    · have hheap : (s₁.release env p).heap = env.free s₁ p := by
        unfold ApiState.release
        rw [if_neg hp]
      obtain ⟨hwell', hkept⟩ := hreleases s₁ p h.wellFormed
      refine ⟨hheld, by rwa [hheap], ?_⟩
      intro b hb k hk hlt
      rw [hheap, hkept b (h.mem hb) (h.fresh p List.mem_cons_self hp b hb) k hk
        (h.lt hwell hb hk hlt)]
      exact h.intact b hb k hk hlt

/-- A copy that returns has written into its block. -/
theorem Contained.copy (h : Contained s ps s₁) (hd : Discipline env (Contained s))
    (hlawful : env.Lawful) (array : List ℤ) (hreturns : CopyReturns env s₁ array)
    (hptr : (copyRequest env s₁ array).ptr ≠ 0) :
    4 * array.length < 2 ^ 32 ∧
      Contained s ((copyRequest env s₁ array).ptr :: ps) (copied env s₁ array) := by
  have htick : Contained s ps s₁.tick := hd.tick h
  have hanswer := request_lawful hlawful (s := s₁.tick) h.wellFormed (4 * array.length)
  have hlength : 4 * array.length < 2 ^ 32 := by
    have hwrites := hreturns.2
    have hsize := h.wellFormed.size_le
    have haligned := Nat.div_mul_cancel hanswer.aligned
    simp only [WriteThrows, not_or, Nat.not_lt] at hwrites
    have hroom := hwrites.2.2
    have hpos : 0 < (copyRequest env s₁ array).ptr / 4 := by
      unfold copyRequest at hptr ⊢
      omega
    omega
  refine ⟨hlength, ?_⟩
  have hallocated := hd.allocate htick (4 * array.length)
  have happart : ∀ b ∈ s.live, Apart b.1 b.2 (copyRequest env s₁ array).ptr
      (4 * (array.map toInt32).length) := by
    intro b hb
    have hb' := hanswer.apart hptr b (htick.mem hb)
    rw [Nat.mod_eq_of_lt hlength] at hb'
    rwa [List.length_map]
  have hsame : copied env s₁ array = (copyAllocated env s₁ array).tick.setWords
      (copyRequest env s₁ array).ptr (array.map toInt32) := by
    have haligned : 4 * ((copyRequest env s₁ array).ptr / 4) = (copyRequest env s₁ array).ptr :=
      Nat.mul_div_cancel' hanswer.aligned
    unfold copied
    rw [haligned]
  rw [hsame]
  exact (hd.tick hallocated).write happart _

/-! ### The kernels -/

theorem readBools_snd (ptr count : ℕ) (s : ApiState) :
    (readBools env ptr count s).2 = s.tick := by
  cases hfails : env.fails s.clock with
  | true => rw [readBools, Script.bind_of_error (point_of_fails hfails)]
  | false =>
    rw [readBools, Script.bind_of_ok (point_of_passes hfails), Script.bind_of_ok (Script.get_apply _)]
    split_ifs
    · rfl
    · rfl

theorem callKernel_cases (env : Env) {α : Type} (kernel : Memory → Option (α × Memory)) (s : ApiState) :
    (∃ e, callKernel env kernel s = (.error e, s.tick)) ∨
      ∃ a m, kernel s.heap.memory = some (a, m) ∧
        callKernel env kernel s = (.ok a, s.tick.withMemory m) := by
  cases hfails : env.fails s.clock with
  | true => exact Or.inl ⟨_, Script.bind_of_error (point_of_fails hfails) _⟩
  | false =>
    rw [callKernel, Script.bind_of_ok (point_of_passes hfails), Script.bind_of_ok (Script.get_apply _)]
    have htick : s.tick.heap.memory = s.heap.memory := rfl
    rw [htick]
    cases hkernel : kernel s.heap.memory with
    | none => exact Or.inl ⟨_, rfl⟩
    | some result => exact Or.inr ⟨result.1, result.2, rfl, rfl⟩

theorem Contained.find (h : Contained s ps s₁) (hd : Discipline env (Contained s))
    (codes : List ℤ) (target : ℤ) (ptr : ℕ) :
    Contained s ps (findBody env codes target ptr s₁).2 := by
  unfold findBody
  rw [Script.bind_pure_snd]
  rcases callKernel_cases env (fun m =>
    (findErrorCodeSimd env.simd128 ptr codes.length (toInt32 target) m).map (·, m)) s₁ with
    ⟨e, hcall⟩ | ⟨index, m, hkernel, hcall⟩
  · rw [hcall]
    exact hd.tick h
  · obtain ⟨found, -, heq⟩ := Option.map_eq_some_iff.mp hkernel
    obtain ⟨-, rfl⟩ := Prod.mk.inj heq
    rw [hcall]
    exact hd.tick h

/-- A kernel that sets a block which is apart from what was live, and the read that follows it. -/
theorem Contained.kernel (h : Contained s ps s₁) (hd : Discipline env (Contained s))
    {ptr count : ℕ} (happart : ∀ b ∈ s.live, Apart b.1 b.2 ptr count)
    {kernel : Memory → Option Memory} {v : ℕ → Bool}
    (hkernel : kernel s₁.heap.memory = some (s₁.heap.memory.setBools ptr count v)) :
    Contained s ps ((do
      callKernel env fun m => (kernel m).map ((), ·)
      readBools env ptr count : Js (List Bool)) s₁).2 := by
  rcases callKernel_cases env (fun m => (kernel m).map ((), ·)) s₁ with
    ⟨e, hcall⟩ | ⟨u, m, hresult, hcall⟩
  · rw [Script.bind_of_error hcall]
    exact hd.tick h
  · rw [hkernel, Option.map_some] at hresult
    obtain ⟨-, rfl⟩ := Prod.mk.inj (Option.some.inj hresult)
    rw [Script.bind_of_ok hcall, readBools_snd]
    exact hd.tick ((hd.tick h).write happart _)

end Contained

/-! ### The operations -/

/-- The request of a copy is served. -/
def CopyServed (env : Env) (s : ApiState) (array : List ℤ) : Prop :=
  CopyReturns env s array → (copyRequest env s array).ptr ≠ 0

/-- The requests of a validation are served, as far as it gets. -/
def ValidateGranted (env : Env) (s : ApiState) (codes : List ℤ) : Prop :=
  CopyServed env s codes ∧
    (CopyReturns env s codes → (request env (copied env s codes) codes.length).ptr ≠ 0)

/-- The requests of a comparison are served, as far as it gets. -/
def CompareGranted (env : Env) (s : ApiState) (codes1 codes2 : List ℤ) (count : ℕ) : Prop :=
  CopyServed env s codes1 ∧
    (CopyReturns env s codes1 → CopyServed env (copied env s codes1) codes2 ∧
      (CopyReturns env (copied env s codes1) codes2 →
        (request env (copiedBoth env s codes1 codes2) count).ptr ≠ 0))

section Operations

variable {env : Env} {s s₁ : ApiState}

theorem findKeeps_contained (hd : Discipline env (Contained s)) (hlawful : env.Lawful)
    (h : Contained s [] s₁) {codes : List ℤ} (hserved : CopyServed env s₁ codes) (target : ℤ) :
    FindKeeps env (Contained s) s₁ codes target where
  copy hreturns := (h.copy hd hlawful codes hreturns (hserved hreturns)).2
  body hreturns := (h.copy hd hlawful codes hreturns (hserved hreturns)).2.find hd codes target _

theorem Contained.apart {ps : List ℕ} (h : Contained s ps s₁) (hlawful : env.Lawful) {count : ℕ}
    (hcount : count < 2 ^ 32) (hptr : (request env s₁ count).ptr ≠ 0) :
    ∀ b ∈ s.live, Apart b.1 b.2 (request env s₁ count).ptr count := by
  intro b hb
  have happart := (request_lawful hlawful h.wellFormed count).apart hptr b (h.mem hb)
  rwa [Nat.mod_eq_of_lt hcount] at happart

theorem validateKeeps_contained (hd : Discipline env (Contained s)) (hlawful : env.Lawful)
    (h : Contained s [] s₁) {codes : List ℤ} (hserved : ValidateGranted env s₁ codes)
    (minValue maxValue : ℤ) :
    ValidateKeeps env (Contained s) s₁ codes minValue maxValue where
  copy hreturns := (h.copy hd hlawful codes hreturns (hserved.1 hreturns)).2
  body hreturns := by
    have hptr := hserved.1 hreturns
    have hresults := hserved.2 hreturns
    obtain ⟨hlength, hheld⟩ := h.copy hd hlawful codes hreturns hptr
    have hcount : codes.length < 2 ^ 32 := by omega
    have hstored : Stored (copied env s₁ codes) _ (codes.map toInt32) :=
      stored_copied hlawful h.wellFormed hptr hlength
    have hinput := hstored.apart hlawful hheld.wellFormed hresults
    have hlater := (hstored.allocated hlawful hheld.wellFormed codes.length).int32s
    have hroom := request_fits hlawful hheld.wellFormed hcount hresults
    have hallocated := hd.allocate hheld codes.length
    rw [List.length_map] at hinput hlater
    rw [Nat.mod_eq_of_lt hcount] at hinput
    exact hallocated.kernel hd (hheld.apart hlawful hcount hresults)
      (validateErrorRangeSimd_eq hlater (hallocated.wellFormed.accessible hroom) hinput
        (toInt32 minValue) (toInt32 maxValue) env.simd128)

theorem compareKeeps_contained (hd : Discipline env (Contained s)) (hlawful : env.Lawful)
    (h : Contained s [] s₁) {codes1 codes2 : List ℤ}
    (hserved : CompareGranted env s₁ codes1 codes2 (min codes1.length codes2.length)) :
    CompareKeeps env (Contained s) s₁ codes1 codes2 (min codes1.length codes2.length) where
  copy hreturns1 := (h.copy hd hlawful codes1 hreturns1 (hserved.1 hreturns1)).2
  copyBoth hreturns1 hreturns2 :=
    ((h.copy hd hlawful codes1 hreturns1 (hserved.1 hreturns1)).2.copy hd hlawful codes2 hreturns2
      ((hserved.2 hreturns1).1 hreturns2)).2
  body hreturns1 hreturns2 := by
    have hptr1 := hserved.1 hreturns1
    have hptr2 := (hserved.2 hreturns1).1 hreturns2
    have hresults := (hserved.2 hreturns1).2 hreturns2
    obtain ⟨hlength1, hheld1⟩ := h.copy hd hlawful codes1 hreturns1 hptr1
    obtain ⟨hlength2, hheld2⟩ := hheld1.copy hd hlawful codes2 hreturns2 hptr2
    have hmin1 : min codes1.length codes2.length ≤ codes1.length := Nat.min_le_left _ _
    have hmin2 : min codes1.length codes2.length ≤ codes2.length := Nat.min_le_right _ _
    have hcount : min codes1.length codes2.length < 2 ^ 32 := by omega
    have hstored1 : Stored (copiedBoth env s₁ codes1 codes2) _ (codes1.map toInt32) :=
      (stored_copied hlawful h.wellFormed hptr1 hlength1).copied hlawful hheld1.wellFormed hptr2
        hlength2
    have hstored2 : Stored (copiedBoth env s₁ codes1 codes2) _ (codes2.map toInt32) :=
      stored_copied hlawful hheld1.wellFormed hptr2 hlength2
    have happart1 := hstored1.apart hlawful hheld2.wellFormed hresults
    have happart2 := hstored2.apart hlawful hheld2.wellFormed hresults
    have hlater1 := (hstored1.allocated hlawful hheld2.wellFormed
      (min codes1.length codes2.length)).int32s
    have hlater2 := (hstored2.allocated hlawful hheld2.wellFormed
      (min codes1.length codes2.length)).int32s
    have hroom := request_fits hlawful hheld2.wellFormed hcount hresults
    have hallocated := hd.allocate hheld2 (min codes1.length codes2.length)
    rw [List.length_map] at happart1 happart2 hlater1 hlater2
    rw [Nat.mod_eq_of_lt hcount] at happart1 happart2
    exact hallocated.kernel hd (hheld2.apart hlawful hcount hresults)
      (compareErrorCodesSimd_eq (hlater1.mono hmin1) (hlater2.mono hmin2)
        (hallocated.wellFormed.accessible hroom) (happart1.shrink (by omega))
        (happart2.shrink (by omega)) env.simd128)

end Operations

/-! ### Runs while a module is loaded -/

/-- What was live is live, and as it was. -/
structure Kept (s s' : ApiState) : Prop where
  wellFormed : s'.heap.WellFormed
  live : ∀ b ∈ s.live, b ∈ s'.live
  intact : ∀ b ∈ s.live, ∀ k < b.2, b.1 + k < s.heap.size →
    s'.heap.memory.cell (b.1 + k) = s.heap.memory.cell (b.1 + k)

/-- The requests of the call are served, as far as it gets. -/
def Granted (env : Env) (s : ApiState) : Call → Prop
  | .compareErrorCodesBulk codes1 codes2 enableSIMD =>
    enableSIMD = true → TakesSimd env s (min codes1.length codes2.length) →
      CompareGranted env s codes1 codes2 (min codes1.length codes2.length)
  | .findErrorCode codes _ => TakesSimd env s codes.length → CopyServed env s codes
  | .validateErrorCodes codes _ _ => TakesSimd env s codes.length → ValidateGranted env s codes
  | .getSIMDMetrics => ∀ i < 1000, TakesSimd env (searched env i s) testData.length →
    CopyServed env (searched env i s) testData
  | _ => True

def afterCalls (env : Env) (s : ApiState) (calls : List Call) : ApiState :=
  Runs.run (fun s call => (perform env call s).2) s calls

section Runs

variable {env : Env} {s s' s'' : ApiState}

theorem Kept.refl (hwell : s.heap.WellFormed) : Kept s s := ⟨hwell, fun _ hb => hb, fun _ _ _ _ _ => rfl⟩

theorem Kept.trans (h : Kept s s') (h' : Kept s' s'') (hwell : s.heap.WellFormed) : Kept s s'' := by
  refine ⟨h'.wellFormed, fun b hb => h'.live b (h.live b hb), ?_⟩
  intro b hb k hk hlt
  have hcell := h.intact b hb k hk hlt
  have hlt' : b.1 + k < s'.heap.size := by
    rw [← h.wellFormed (b.1 + k), hcell, hwell]
    exact hlt
  exact (h'.intact b (h.live b hb) k hk hlt').trans hcell

theorem Contained.kept {ps : List ℕ} (h : Contained s ps s') : Kept s s' :=
  ⟨h.wellFormed, fun _ hb => h.mem hb, h.intact⟩

theorem Settles.kept {α : Type} {reply : α → Reply} {method : Js α} {k : ℕ}
    (h : Settles (Contained s) k method s) : Kept s (replying reply method s).2 := by
  rw [replying_apply]
  rcases h with ⟨a, s', hmethod, hs'⟩ | ⟨e, s', lost, hmethod, -, hs'⟩
  · rw [hmethod]
    exact hs'.kept
  · rw [hmethod]
    exact hs'.kept

theorem Kept.of_apart (hwell : s.heap.WellFormed) (h : s'.apart = s.apart) : Kept s s' := by
  have hheap : s'.apart.heap = s.apart.heap := congrArg ApiState.heap h
  have hlive : s'.apart.live = s.apart.live := congrArg ApiState.live h
  have hsame : s'.heap = s.heap := hheap
  refine ⟨by rwa [hsame], fun b hb => ?_, fun b _ k _ _ => by rw [hsame]⟩
  exact hlive.symm ▸ hb

theorem replying_kept {α : Type} {reply : α → Reply} {method : Js α}
    (hkeeps : method.Keeps ApiState.apart) (hwell : s.heap.WellFormed) :
    Kept s (replying reply method s).2 := by
  rw [replying_apply]
  exact Kept.of_apart hwell (hkeeps s)

/-- A call leaves alone what was live, unless it loads a module. -/
theorem perform_kept (hfresh : env.Fresh) (hlawful : env.Lawful) (hreleases : env.Releases)
    (hwell : s.heap.WellFormed) {call : Call} (hgranted : Granted env s call)
    (hload : ∀ heap, call = .initializeCall (some heap) → s.initialized = true) :
    Kept s (perform env call s).2 := by
  have hd := contained_discipline hfresh hlawful hreleases hwell
  have hnothing := Contained.nothing hwell
  cases call with
  | cleanup =>
    change Kept s s.unload
    unfold ApiState.unload
    split_ifs
    · exact ⟨hwell, fun _ hb => hb, fun _ _ _ _ _ => rfl⟩
    · exact Kept.refl hwell
  | initializeCall loaded =>
    rw [perform, replying_apply]
    by_cases hinit : s.initialized = true
    · rw [initializeModule_of_ready hinit]
      exact Kept.refl hwell
    · rw [initializeModule_of_not_ready hinit]
      cases loaded with
      | none => exact Kept.refl hwell
      | some heap => exact absurd (hload heap rfl) hinit
  | createErrorCode value category =>
    exact replying_kept (createErrorCode_keeps_apart value category) hwell
  | createErrorCodesBulk values category =>
    exact replying_kept (createErrorCodesBulk_keeps_apart values category) hwell
  | compareErrorCodes code1 code2 =>
    exact replying_kept (compareErrorCodes_keeps_apart code1 code2) hwell
  | getErrorStats codes => exact replying_kept (getErrorStats_keeps_apart codes) hwell
  | isInitialized | getMemoryStats => exact Kept.refl hwell
  | compareErrorCodesBulk codes1 codes2 enableSIMD =>
    exact (compareErrorCodesBulk_settles hd hnothing fun henabled htakes =>
      compareKeeps_contained hd hlawful hnothing (hgranted henabled htakes)).kept
  | findErrorCode codes target =>
    exact (findErrorCode_settles hd hnothing fun htakes =>
      findKeeps_contained hd hlawful hnothing (hgranted htakes) target).kept
  | validateErrorCodes codes minValue maxValue =>
    exact (validateErrorCodes_settles hd hnothing fun htakes =>
      validateKeeps_contained hd hlawful hnothing (hgranted htakes) minValue maxValue).kept
  | getSIMDMetrics =>
    exact (getSIMDMetrics_settles hd hnothing fun _ i hi hheld htakes =>
      findKeeps_contained hd hlawful hheld (hgranted i hi htakes) 42).kept

theorem books_initialized {α : Type} {reply : α → Reply} {method : Js α}
    (hkeeps : method.Keeps ApiState.books) (hinit : s.initialized = true) :
    (replying reply method s).2.initialized = true := by
  rw [replying_apply]
  exact (Prod.mk.inj (hkeeps s)).1.trans hinit

theorem apart_initialized {α : Type} {reply : α → Reply} {method : Js α}
    (hkeeps : method.Keeps ApiState.apart) (hinit : s.initialized = true) :
    (replying reply method s).2.initialized = true := by
  have hsame : (method s).2.apart.initialized = s.apart.initialized :=
    congrArg ApiState.initialized (hkeeps s)
  rw [replying_apply]
  exact hsame.trans hinit

theorem perform_initialized (hinit : s.initialized = true) {call : Call} (hcall : call ≠ .cleanup) :
    (perform env call s).2.initialized = true := by
  cases call with
  | cleanup => exact absurd rfl hcall
  | initializeCall loaded =>
    rw [perform, replying_apply, initializeModule_of_ready hinit]
    exact hinit
  | createErrorCode value category =>
    exact apart_initialized (createErrorCode_keeps_apart value category) hinit
  | createErrorCodesBulk values category =>
    exact apart_initialized (createErrorCodesBulk_keeps_apart values category) hinit
  | compareErrorCodes code1 code2 =>
    exact apart_initialized (compareErrorCodes_keeps_apart code1 code2) hinit
  | getErrorStats codes => exact apart_initialized (getErrorStats_keeps_apart codes) hinit
  | isInitialized | getMemoryStats => exact hinit
  | compareErrorCodesBulk codes1 codes2 enableSIMD =>
    exact books_initialized (compareErrorCodesBulk_keeps_books _ _ _) hinit
  | findErrorCode codes target => exact books_initialized (findErrorCode_keeps_books _ _) hinit
  | validateErrorCodes codes minValue maxValue =>
    exact books_initialized (validateErrorCodes_keeps_books _ _ _) hinit
  | getSIMDMetrics => exact books_initialized getSIMDMetrics_keeps_books hinit

end Runs

/-- While a module is loaded, no call touches a block that was live before, whatever is thrown on the
way, as long as the requests of the calls are served. -/
theorem live_blocks_kept (env : Env) (hfresh : env.Fresh) (hlawful : env.Lawful)
    (hreleases : env.Releases) (s : ApiState) (hwell : s.heap.WellFormed)
    (hinit : s.initialized = true) (calls : List Call) (hloaded : .cleanup ∉ calls)
    (hgranted : ∀ before call after, calls = before ++ call :: after →
      Granted env (afterCalls env s before) call) : Kept s (afterCalls env s calls) := by
  have hstep (before : List Call) (call : Call) (after : List Call)
      (hcalls : calls = before ++ call :: after)
      (h : (afterCalls env s before).initialized = true ∧ Kept s (afterCalls env s before)) :
      (perform env call (afterCalls env s before)).2.initialized = true ∧
        Kept s (perform env call (afterCalls env s before)).2 := by
    obtain ⟨hready, hkept⟩ := h
    have hcall : call ≠ .cleanup := by
      rintro rfl
      exact hloaded (hcalls ▸ List.mem_append_right _ List.mem_cons_self)
    have hnext := perform_kept hfresh hlawful hreleases hkept.wellFormed
      (hgranted before call after hcalls) fun _ _ => hready
    exact ⟨perform_initialized hready hcall, hkept.trans hnext hwell⟩
  exact (@run_invariant_at _ _ _ (fun s' => s'.initialized = true ∧ Kept s s') s
    ⟨hinit, Kept.refl hwell⟩ calls hstep).2

theorem bumpEnv_releases (simd128 : Bool) (fails : ℕ → Bool) : (bumpEnv simd128 fails).Releases :=
  fun _ _ hwell => ⟨hwell, fun _ _ _ _ _ _ => rfl⟩

/-- One page with a block at its bottom. -/
def onePageInUse : ApiState := { onePage with live := [(16, 64)] }

/-- A validation beside a block in use, which writes the codes and the answers and returns. -/
theorem live_blocks_kept_validation :
    Kept onePageInUse (afterCalls (bumpEnv true fun _ => false) onePageInUse
        [.validateErrorCodes (List.replicate 16 5) 0 10]) ∧
      (perform (bumpEnv true fun _ => false) (.validateErrorCodes (List.replicate 16 5) 0 10)
        onePageInUse).1 = .ok (.valid (List.replicate 16 true)) := by
  refine ⟨?_, rfl⟩
  apply live_blocks_kept _ (bumpEnv_fresh true _) (bumpEnv_lawful true _) (bumpEnv_releases true _)
    onePageInUse onePage_wellFormed rfl
  · exact fun h => nomatch List.mem_singleton.mp h
  · intro before call after hcalls
    cases before with
    | nil =>
      obtain ⟨rfl, -⟩ := List.cons.inj hcalls
      exact fun _ => ⟨fun _ => by decide, fun _ => by decide⟩
    | cons first before => exact absurd (List.cons.inj hcalls).2 (by simp)

end BoostSystem.Api
