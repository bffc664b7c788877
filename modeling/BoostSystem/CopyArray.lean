import BoostSystem.Allocator

/-!
# Copying an array into linear memory

`copyArrayToWASM` takes the view on the heap before it allocates. What it does is given by the answer of
the allocator: the block, the heap that comes with it, and whether that heap is still the one of the
view.
-/

namespace BoostSystem.Api

open LinearMemory Scripts

section Steps

variable {env : Env} {s : ApiState}

theorem point_of_passes (h : env.fails s.clock = false) : point env s = (.ok (), s.tick) := by
  rw [point, h]
  rfl

theorem point_of_fails (h : env.fails s.clock = true) : point env s = (.error .failure, s.tick) := by
  rw [point, h]
  rfl

/-- The answer of the allocator to a request made as the next operation. -/
def request (env : Env) (s : ApiState) (size : ℕ) : Response :=
  env.malloc s.tick (size % 2 ^ 32)

/-- The state once that answer is in. -/
def allocated (env : Env) (s : ApiState) (size : ℕ) : ApiState :=
  s.tick.accept (request env s size) (size % 2 ^ 32)

theorem allocateBuffer_of_passes (size : ℕ) (h : env.fails s.clock = false) :
    allocateBuffer env size s = (.ok (request env s size).ptr, allocated env s size) := by
  rw [allocateBuffer, Script.bind_of_ok (point_of_passes h), Script.bind_of_ok (Script.get_apply _)]
  rfl

theorem allocateBuffer_of_fails (size : ℕ) (h : env.fails s.clock = true) :
    allocateBuffer env size s = (.error .failure, s.tick) := by
  rw [allocateBuffer, Script.bind_of_error (point_of_fails h)]

/-- Writing through a view of an earlier buffer throws. -/
theorem set_of_detached (view : View) (typedArray : List Int32) (offset : ℕ)
    (h : env.fails s.clock = false) (hview : view.generation ≠ s.heap.generation) :
    view.set env typedArray offset s = (.error .typeError, s.tick) := by
  have hdetached : view.generation ≠ s.tick.heap.generation := hview
  rw [View.set, Script.bind_of_ok (point_of_passes h), Script.bind_of_ok (Script.get_apply _),
    if_pos hdetached, Script.throw_apply]

theorem set_of_short (view : View) (typedArray : List Int32) (offset : ℕ)
    (h : env.fails s.clock = false) (hview : view.generation = s.heap.generation)
    (hroom : offset + typedArray.length > view.length) :
    view.set env typedArray offset s = (.error .rangeError, s.tick) := by
  have hcurrent : ¬ view.generation ≠ s.tick.heap.generation := not_not.mpr hview
  rw [View.set, Script.bind_of_ok (point_of_passes h), Script.bind_of_ok (Script.get_apply _),
    if_neg hcurrent, if_pos hroom, Script.throw_apply]

theorem set_of_room (view : View) (typedArray : List Int32) (offset : ℕ)
    (h : env.fails s.clock = false) (hview : view.generation = s.heap.generation)
    (hroom : offset + typedArray.length ≤ view.length) :
    view.set env typedArray offset s = (.ok (), s.tick.setWords (4 * offset) typedArray) := by
  have hcurrent : ¬ view.generation ≠ s.tick.heap.generation := not_not.mpr hview
  rw [View.set, Script.bind_of_ok (point_of_passes h), Script.bind_of_ok (Script.get_apply _),
    if_neg hcurrent, if_neg (by omega), Script.modify_apply]

theorem set_of_fails (view : View) (typedArray : List Int32) (offset : ℕ)
    (h : env.fails s.clock = true) :
    view.set env typedArray offset s = (.error .failure, s.tick) := by
  rw [View.set, Script.bind_of_error (point_of_fails h)]

end Steps

/-! ### The copy -/

section Copy

variable (env : Env) (s : ApiState) (array : List ℤ)

/-- What the allocator answers to a copy. -/
def copyRequest : Response := request env s.tick (4 * array.length)

/-- The state in which a copy writes. -/
def copyAllocated : ApiState := allocated env s.tick (4 * array.length)

/-- The state that a copy leaves when it returns. -/
def copied : ApiState :=
  (copyAllocated env s array).tick.setWords (4 * ((copyRequest env s array).ptr / 4))
    (array.map toInt32)

/-- The allocator has answered, and the write throws. -/
def WriteThrows : Prop :=
  env.fails (s.clock + 2) = true ∨
    (copyRequest env s array).heap.generation ≠ s.heap.generation ∨
    s.heap.size / 4 < (copyRequest env s array).ptr / 4 + array.length

/-- The allocator is asked. -/
def Asks : Prop := env.fails s.clock = false ∧ env.fails (s.clock + 1) = false

variable {env s array}

theorem copyArrayToWASM_of_not_asks (array : List ℤ) (h : ¬ Asks env s) :
    ∃ e s', copyArrayToWASM env array s = (.error e, s') ∧ s'.live = s.live ∧
      s'.freedTwice = s.freedTwice := by
  cases hfirst : env.fails s.clock with
  | true =>
    rw [copyArrayToWASM, Script.bind_of_error (point_of_fails hfirst)]
    exact ⟨_, _, rfl, rfl, rfl⟩
  | false =>
    have hsecond : env.fails s.tick.clock = true := by
      cases hsecond : env.fails s.tick.clock with
      | true => rfl
      | false => exact absurd ⟨hfirst, hsecond⟩ h
    rw [copyArrayToWASM, Script.bind_of_ok (point_of_passes hfirst),
      Script.bind_of_ok (Script.get_apply _),
      Script.bind_of_error (allocateBuffer_of_fails _ hsecond)]
    exact ⟨_, _, rfl, rfl, rfl⟩

/-- Once the allocator is asked, a copy is the allocation and the write through the earlier view. -/
theorem copyArrayToWASM_of_asks (h : Asks env s) :
    copyArrayToWASM env array s =
      (do
        s.heap.heap32.set env (array.map toInt32) ((copyRequest env s array).ptr / 4)
        return (copyRequest env s array).ptr) (copyAllocated env s array) := by
  have hsecond : env.fails s.tick.clock = false := h.2
  rw [copyArrayToWASM, Script.bind_of_ok (point_of_passes h.1),
    Script.bind_of_ok (Script.get_apply _),
    Script.bind_of_ok (allocateBuffer_of_passes _ hsecond), List.length_map]
  rfl

theorem copyArrayToWASM_of_writeThrows (h : Asks env s) (hwrite : WriteThrows env s array) :
    ∃ e, copyArrayToWASM env array s = (.error e, (copyAllocated env s array).tick) := by
  rw [copyArrayToWASM_of_asks h]
  cases hfails : env.fails (copyAllocated env s array).clock with
  | true => exact ⟨_, Script.bind_of_error (set_of_fails _ _ _ hfails) _⟩
  | false =>
    by_cases hview : s.heap.heap32.generation = (copyAllocated env s array).heap.generation
    · have hroom : (copyRequest env s array).ptr / 4 + (array.map toInt32).length >
          s.heap.heap32.length := by
        rcases hwrite with hthrows | hgrown | hshort
        · exact nomatch hfails.symm.trans hthrows
        · exact absurd hview.symm hgrown
        · rwa [List.length_map]
      exact ⟨_, Script.bind_of_error (set_of_short _ _ _ hfails hview hroom) _⟩
    · exact ⟨_, Script.bind_of_error (set_of_detached _ _ _ hfails hview) _⟩

theorem copyArrayToWASM_of_writes (h : Asks env s) (hwrite : ¬ WriteThrows env s array) :
    copyArrayToWASM env array s = (.ok (copyRequest env s array).ptr, copied env s array) := by
  simp only [WriteThrows, not_or, Bool.not_eq_true, ne_eq, not_not, Nat.not_lt] at hwrite
  obtain ⟨hfails, hview, hroom⟩ := hwrite
  have hset : s.heap.heap32.set env (array.map toInt32) ((copyRequest env s array).ptr / 4)
      (copyAllocated env s array) = (.ok (), copied env s array) :=
    set_of_room _ _ _ hfails hview.symm (by rwa [List.length_map])
  rw [copyArrayToWASM_of_asks h, Script.bind_of_ok hset]
  rfl

end Copy

/-! ### What is delivered -/

/-- The words are at `p`, and every other cell is as it was. -/
def Delivers (before after : Memory) (p : ℕ) (words : List Int32) : Prop :=
  after.Int32s p words.length (fun i => words.getD i 0) ∧
    ∀ q, q < p ∨ p + 4 * words.length ≤ q → after.cell q = before.cell q

section Delivery

variable {env : Env} {s : ApiState} {array : List ℤ}

theorem Env.Quiet.asks (hquiet : env.Quiet) (s : ApiState) : Asks env s := ⟨hquiet _, hquiet _⟩

/-- The write throws if memory has grown, or if the block does not hold the array. -/
theorem writeThrows_iff (hquiet : env.Quiet)
    (hlegit : (copyRequest env s array).Legit s.heap (4 * array.length % 2 ^ 32))
    (hptr : (copyRequest env s array).ptr ≠ 0) :
    WriteThrows env s array ↔ (copyRequest env s array).heap.generation ≠ s.heap.generation ∨
      2 ^ 32 ≤ 4 * array.length := by
  have hpass : ¬ env.fails (s.clock + 2) = true := Bool.eq_false_iff.mp (hquiet _)
  have haligned := Nat.div_mul_cancel hlegit.aligned
  unfold WriteThrows
  by_cases hgrown : (copyRequest env s array).heap.generation = s.heap.generation
  · have hsize := hlegit.same hgrown
    have hfits := hlegit.fits hptr
    have hbound := hlegit.wellFormed.size_le
    have hshort : s.heap.size / 4 < (copyRequest env s array).ptr / 4 + array.length ↔
        2 ^ 32 ≤ 4 * array.length := by
      rw [hsize] at hfits hbound
      omega
    rw [hshort, or_iff_right hpass]
  · exact iff_of_true (Or.inr (Or.inl hgrown)) (Or.inl hgrown)

theorem copied_memory (haligned : 4 ∣ (copyRequest env s array).ptr) :
    (copied env s array).heap.memory = (copyRequest env s array).heap.memory.setInt32s
      (copyRequest env s array).ptr (array.map toInt32).length
      fun i => (array.map toInt32).getD i 0 := by
  unfold copied ApiState.setWords
  rw [Nat.mul_div_cancel' haligned]
  rfl

theorem copied_delivers
    (hlegit : (copyRequest env s array).Legit s.heap (4 * array.length % 2 ^ 32))
    (hptr : (copyRequest env s array).ptr ≠ 0) (hlength : 4 * array.length < 2 ^ 32) :
    Delivers (copyRequest env s array).heap.memory (copied env s array).heap.memory
      (copyRequest env s array).ptr (array.map toInt32) := by
  have hfits := hlegit.fits hptr
  rw [Nat.mod_eq_of_lt hlength] at hfits
  rw [copied_memory hlegit.aligned]
  constructor
  · apply Memory.setInt32s_int32s
    rw [List.length_map]
    exact hlegit.wellFormed.accessible hfits
  · intro q hq
    exact Memory.write_cell_of_outside _ _ hq

end Delivery

/-- A block is returned with the array in it and nothing else changed, and a refused request throws
and changes nothing, as far as the allocator goes. -/
structure CopyDelivers (env : Env) (s : ApiState) (words : List Int32) (r : Response) : Prop where
  delivers : r.ptr ≠ 0 → ∃ s', copyArrayToWASM env (words.map Int32.toInt) s = (.ok r.ptr, s') ∧
    Delivers r.heap.memory s'.heap.memory r.ptr words
  refused : r.ptr = 0 → words ≠ [] → ∃ e s',
    copyArrayToWASM env (words.map Int32.toInt) s = (.error e, s') ∧
      s'.heap.memory = r.heap.memory

/-- The memory is not grown for a block, and the byte length does not wrap; a refused request comes
with growth, or is larger than the whole heap. -/
def CopySafe (s : ApiState) (words : List Int32) (r : Response) : Prop :=
  (r.ptr ≠ 0 → r.heap.generation = s.heap.generation ∧ 4 * words.length < 2 ^ 32) ∧
    (r.ptr = 0 → words ≠ [] →
      r.heap.generation ≠ s.heap.generation ∨ s.heap.size / 4 < words.length)

theorem map_toInt32_toInt (words : List Int32) : (words.map Int32.toInt).map toInt32 = words := by
  have hword : toInt32 ∘ Int32.toInt = id := funext toInt32_toInt
  rw [List.map_map, hword, List.map_id]

theorem copy_delivers_iff (env : Env) (hquiet : env.Quiet) (s : ApiState) (words : List Int32)
    (hlegit : (copyRequest env s (words.map Int32.toInt)).Legit s.heap
      (4 * words.length % 2 ^ 32)) :
    CopyDelivers env s words (copyRequest env s (words.map Int32.toInt)) ↔
      CopySafe s words (copyRequest env s (words.map Int32.toInt)) := by
  have hwords : (words.map Int32.toInt).map toInt32 = words := map_toInt32_toInt words
  have hlength : (words.map Int32.toInt).length = words.length := List.length_map _
  have hasks := hquiet.asks s
  rw [← hlength] at hlegit
  by_cases hptr : (copyRequest env s (words.map Int32.toInt)).ptr = 0
  · have hwriteThrows : WriteThrows env s (words.map Int32.toInt) ↔
        (copyRequest env s (words.map Int32.toInt)).heap.generation ≠ s.heap.generation ∨
          s.heap.size / 4 < words.length := by
      rw [WriteThrows, hptr, hlength, Nat.zero_div, Nat.zero_add,
        or_iff_right (Bool.eq_false_iff.mp (hquiet _))]
    constructor
    · intro hclaim
      refine ⟨fun h => absurd hptr h, fun _ hne => ?_⟩
      rw [← hwriteThrows]
      by_contra hwrite
      obtain ⟨e, s', hcopy, -⟩ := hclaim.refused hptr hne
      rw [copyArrayToWASM_of_writes hasks hwrite] at hcopy
      exact nomatch hcopy
    · intro hsafe
      refine ⟨fun h => absurd hptr h, fun _ hne => ?_⟩
      obtain ⟨e, hcopy⟩ := copyArrayToWASM_of_writeThrows hasks
        (hwriteThrows.mpr (hsafe.2 hptr hne))
      exact ⟨e, _, hcopy, rfl⟩
  · have hwriteThrows := writeThrows_iff hquiet hlegit hptr
    rw [hlength] at hwriteThrows
    constructor
    · intro hclaim
      refine ⟨fun _ => ?_, fun h => absurd h hptr⟩
      have hwrite : ¬ WriteThrows env s (words.map Int32.toInt) := by
        intro hwrite
        obtain ⟨s', hreturns, -⟩ := hclaim.delivers hptr
        obtain ⟨e, hthrows⟩ := copyArrayToWASM_of_writeThrows hasks hwrite
        rw [hreturns] at hthrows
        exact nomatch hthrows
      rw [hwriteThrows, not_or, ne_eq, not_not] at hwrite
      exact ⟨hwrite.1, by omega⟩
    · intro hsafe
      refine ⟨fun _ => ?_, fun h => absurd h hptr⟩
      obtain ⟨hsame, hshort⟩ := hsafe.1 hptr
      have hwrite : ¬ WriteThrows env s (words.map Int32.toInt) := by
        rw [hwriteThrows, not_or, ne_eq, not_not]
        exact ⟨hsame, by omega⟩
      have hdelivers := copied_delivers hlegit hptr (by rwa [hlength])
      rw [hwords] at hdelivers
      exact ⟨_, copyArrayToWASM_of_writes hasks hwrite, hdelivers⟩

/-- A heap of one page. -/
def onePage : ApiState := .start (.zeroes 65536 (by omega))

theorem onePage_wellFormed : onePage.heap.WellFormed := Heap.zeroes_wellFormed _

theorem bumpEnv_quiet (simd128 : Bool) : (bumpEnv simd128 fun _ => false).Quiet := fun _ => rfl

theorem copyRequest_bumpEnv (simd128 : Bool) (fails : ℕ → Bool) (s : ApiState) (array : List ℤ) :
    copyRequest (bumpEnv simd128 fails) s array = bump s.tick.tick (4 * array.length % 2 ^ 32) :=
  rfl

theorem copyRequest_legit (simd128 : Bool) {s : ApiState} (hwell : s.heap.WellFormed)
    (array : List ℤ) : (copyRequest (bumpEnv simd128 fun _ => false) s array).Legit s.heap
      (4 * array.length % 2 ^ 32) := bump_legit (s := s.tick.tick) hwell _

theorem copy_delivers_iff_three :
    CopyDelivers (bumpEnv true fun _ => false) onePage [1, 2, 3] ⟨16, onePage.heap⟩ :=
  (copy_delivers_iff (bumpEnv true fun _ => false) (bumpEnv_quiet true) onePage [1, 2, 3]
    (bump_legit onePage_wellFormed 12)).mpr
      ⟨fun _ => ⟨rfl, by decide⟩, fun h => absurd h (by decide)⟩

/-- A page of ones. -/
def pageOfOnes : List Int32 := List.replicate 16384 1

theorem pageOfOnes_length : pageOfOnes.length = 16384 := List.length_replicate

theorem copyRequest_pageOfOnes :
    (copyRequest (bumpEnv true fun _ => false) onePage (pageOfOnes.map Int32.toInt)).ptr = 16 ∧
      (copyRequest (bumpEnv true fun _ => false) onePage
        (pageOfOnes.map Int32.toInt)).heap.generation = 1 := by
  have hsize : 4 * (pageOfOnes.map Int32.toInt).length % 2 ^ 32 = 65536 := by
    rw [List.length_map, pageOfOnes_length]
    omega
  have hfull : onePage.tick.tick.heap.size < bumpPtr onePage.tick.tick.live + 65536 := by decide
  rw [copyRequest_bumpEnv, hsize, bump_of_grows hfull (by decide)]
  exact ⟨rfl, rfl⟩

/-- The memory has to grow for a page of data: the write goes to the buffer of before, and throws. -/
theorem copy_page_throws :
    (copyRequest (bumpEnv true fun _ => false) onePage (pageOfOnes.map Int32.toInt)).Legit
      onePage.heap (4 * (pageOfOnes.map Int32.toInt).length % 2 ^ 32) ∧
    ¬ CopyDelivers (bumpEnv true fun _ => false) onePage pageOfOnes
      (copyRequest (bumpEnv true fun _ => false) onePage (pageOfOnes.map Int32.toInt)) := by
  obtain ⟨hptr, hgeneration⟩ := copyRequest_pageOfOnes
  constructor
  · exact copyRequest_legit true onePage_wellFormed _
  · intro hclaim
    have hgrown : WriteThrows (bumpEnv true fun _ => false) onePage
        (pageOfOnes.map Int32.toInt) := by
      right
      left
      rw [hgeneration]
      exact Nat.one_ne_zero
    obtain ⟨e, hthrows⟩ := copyArrayToWASM_of_writeThrows ((bumpEnv_quiet true).asks onePage) hgrown
    obtain ⟨s', hreturns, -⟩ := hclaim.delivers (by rw [hptr]; exact nofun)
    rw [hreturns] at hthrows
    exact nomatch hthrows

end BoostSystem.Api
