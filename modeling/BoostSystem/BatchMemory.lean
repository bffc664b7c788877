import BoostSystem.StandaloneStore
import BoostSystem.Streams

/-!
# The batch functions in linear memory

`wasm_create_error_codes_bulk` and `wasm_validate_error_codes_batch` as they run over arrays in memory,
in both modules. Creation in bulk is what the list model says of the values and categories that were
there before the call, and may put the handles in the place of its input.
-/

namespace BoostSystem

open LinearMemory Loops

/-- `handles[i]`, of the code that has just been put behind the others. -/
def createBulkElement {σ : Type} (create : σ → Int32 → Int32 → Option (Int32 × σ))
    (values categoryTypes handles i : ℕ) (state : σ × Memory) : Option (σ × Memory) := do
  let value ← state.2.loadInt32 (values + 4 * i)
  let categoryType ← state.2.loadInt32 (categoryTypes + 4 * i)
  let (handle, s) ← create state.1 value categoryType
  let m ← state.2.storeInt32 (handles + 4 * i) handle
  return (s, m)

def ErrorStore.wasmCreateErrorCodesBulkAt (s : ErrorStore) (values categoryTypes count handles : ℕ)
    (m : Memory) : Option (ErrorStore × Memory) :=
  forLoop 0 count 1 (createBulkElement wasmCreateErrorCode values categoryTypes handles) (s, m)

def Standalone.ErrorStore.wasmCreateErrorCodesBulkAt (s : Standalone.ErrorStore)
    (values categoryTypes count handles : ℕ) (m : Memory) :
    Option (Standalone.ErrorStore × Memory) :=
  forLoop 0 count 1 (createBulkElement wasmCreateErrorCode values categoryTypes handles) (s, m)

def wasmValidateErrorCodesBatch (values categories results count : ℕ) (m : Memory) :
    Option Memory :=
  forLoop 0 count 1 (fun i m => do
    let value ← m.loadInt32 (values + 4 * i)
    let valid ←
      if decide (value ≥ 0) && decide (value ≤ 9999) then do
        let category ← m.loadInt32 (categories + 4 * i)
        pure (decide (category ≥ 0) && decide (category ≤ 1))
      else pure false
    m.storeBool (results + i) valid) m

def Standalone.wasmValidateErrorCodesBatch (values _categories results count : ℕ) (m : Memory) :
    Option Memory :=
  forLoop 0 count 1 (fun i m => do
    let value ← m.loadInt32 (values + 4 * i)
    m.storeBool (results + i) (decide (value ≥ 0) && decide (value ≤ 255))) m

/-! ### Creation in bulk -/

section Bulk

variable {m : Memory} {values categoryTypes handles count : ℕ} {a b : ℕ → Int32}

/-- The pair that an iteration reads. -/
def readPair (values categoryTypes i : ℕ) (m : Memory) : Option (Int32 × Int32) := do
  let value ← m.loadInt32 (values + 4 * i)
  let categoryType ← m.loadInt32 (categoryTypes + 4 * i)
  return (value, categoryType)

theorem createBulkElement_eq {σ : Type} (create : σ → Int32 → Int32 → Option (Int32 × σ)) :
    createBulkElement create values categoryTypes handles =
      streamBody (readPair values categoryTypes) (fun s pair => create s pair.1 pair.2) int32Byte
        handles 4 := by
  funext i state
  simp only [createBulkElement, streamBody, readPair, Memory.storeInt32, Option.bind_eq_bind,
    Option.bind_assoc, Option.pure_def, Option.bind_some]

theorem readPair_trailed (ha : m.Int32s values count a) (hb : m.Int32s categoryTypes count b)
    (hvalues : Trails values handles 4 count) (hcategories : Trails categoryTypes handles 4 count)
    {i : ℕ} (hi : i < count) (out : ℕ → UInt8) :
    readPair values categoryTypes i (m.write handles (4 * i) out) = some (a i, b i) := by
  rw [readPair, loadInt32_trailed hvalues hi, loadInt32_trailed hcategories hi, ha i hi, hb i hi]
  rfl

theorem createBulk_eq {σ : Type} (create : σ → Int32 → Int32 → Option (Int32 × σ)) (s : σ)
    (ha : m.Int32s values count a) (hb : m.Int32s categoryTypes count b)
    (hhandles : m.Accessible handles (4 * count)) (hvalues : Trails values handles 4 count)
    (hcategories : Trails categoryTypes handles 4 count) :
    forLoop 0 count 1 (createBulkElement create values categoryTypes handles) (s, m) =
      (mapAccum (fun s pair => create s pair.1 pair.2) s
        ((List.range count).map fun i => (a i, b i))).map fun result =>
          (result.2, m.setInt32s handles count fun i => result.1.getD i 0) := by
  rw [createBulkElement_eq]
  exact stream_eq (by omega)
    (fun i hi out => readPair_trailed ha hb hvalues hcategories hi out) hhandles s

theorem mapAccum_create (s : ErrorStore) (pairs : List (Int32 × Int32)) :
    mapAccum (fun s pair => ErrorStore.wasmCreateErrorCode s pair.1 pair.2) s pairs =
      s.wasmCreateErrorCodesBulk pairs := by
  induction pairs generalizing s with
  | nil => rfl
  | cons pair pairs ih =>
    simp only [mapAccum, ih]
    simp only [ErrorStore.wasmCreateErrorCodesBulk, ErrorStore.wasmCreateErrorCode,
      Option.bind_eq_bind, Option.bind_assoc, Option.pure_def, Option.bind_some]

theorem Standalone.mapAccum_create (s : Standalone.ErrorStore) (pairs : List (Int32 × Int32)) :
    mapAccum (fun s pair => ErrorStore.wasmCreateErrorCode s pair.1 pair.2) s pairs =
      s.wasmCreateErrorCodesBulk pairs := by
  induction pairs generalizing s with
  | nil => rfl
  | cons pair pairs ih =>
    simp only [mapAccum, ih]
    simp only [ErrorStore.wasmCreateErrorCodesBulk, ErrorStore.wasmCreateErrorCode,
      Option.bind_eq_bind, Option.bind_assoc, Option.pure_def, Option.bind_some]

end Bulk

/-- The arrays of a bulk call: the handles are not written over a value or a category before it has been
read. -/
structure BulkArrays (m : Memory) (values categoryTypes handles count : ℕ)
    (pairs : List (Int32 × Int32)) : Prop where
  length : pairs.length = count
  values_hold : m.Int32s values count fun i => (pairs.getD i (0, 0)).1
  categories_hold : m.Int32s categoryTypes count fun i => (pairs.getD i (0, 0)).2
  room : m.Accessible handles (4 * count)
  values_read : Trails values handles 4 count
  categories_read : Trails categoryTypes handles 4 count

theorem map_getD_range (pairs : List (Int32 × Int32)) :
    ((List.range pairs.length).map fun i =>
      ((pairs.getD i (0, 0)).1, (pairs.getD i (0, 0)).2)) = pairs := by
  apply List.ext_getElem
  · rw [List.length_map, List.length_range]
  · intro i hi hi'
    rw [List.getElem_map, List.getElem_range, List.getD_eq_getElem _ _ hi']

/-- In both modules a bulk call over memory is the call over the lists that the arrays held, with the
handles in their array and nothing else written. -/
theorem bulk_in_memory (m : Memory) (values categoryTypes handles count : ℕ)
    (pairs : List (Int32 × Int32))
    (harrays : BulkArrays m values categoryTypes handles count pairs) :
    (∀ s : ErrorStore, s.wasmCreateErrorCodesBulkAt values categoryTypes count handles m =
      (s.wasmCreateErrorCodesBulk pairs).map fun result =>
        (result.2, m.setInt32s handles count fun i => result.1.getD i 0)) ∧
    ∀ t : Standalone.ErrorStore, t.wasmCreateErrorCodesBulkAt values categoryTypes count handles m =
      (t.wasmCreateErrorCodesBulk pairs).map fun result =>
        (result.2, m.setInt32s handles count fun i => result.1.getD i 0) := by
  obtain ⟨rfl, ha, hb, hhandles, hvalues, hcategories⟩ := harrays
  constructor
  · intro s
    rw [ErrorStore.wasmCreateErrorCodesBulkAt,
      createBulk_eq _ s ha hb hhandles hvalues hcategories, map_getD_range, mapAccum_create]
  · intro t
    rw [Standalone.ErrorStore.wasmCreateErrorCodesBulkAt,
      createBulk_eq _ t ha hb hhandles hvalues hcategories, map_getD_range,
      Standalone.mapAccum_create]

/-- Sixteen bytes, of which the first eight are two values and the others two categories. -/
def fourWords : Memory :=
  (Memory.ofSize 16 (by decide) fun _ => 0).setInt32s 0 4 fun i => [2, 3, 0, 1].getD i 0

/-- The handles in the place of the values. -/
theorem bulk_in_memory_in_place :
    (ErrorStore.empty.wasmCreateErrorCodesBulkAt 0 8 2 0 fourWords) =
      (ErrorStore.empty.wasmCreateErrorCodesBulk [(2, 0), (3, 1)]).map fun result =>
        (result.2, fourWords.setInt32s 0 2 fun i => result.1.getD i 0) := by
  have harrays : BulkArrays fourWords 0 8 0 2 [(2, 0), (3, 1)] :=
    ⟨rfl, by decide, by decide, by decide, trails_of_le le_rfl le_rfl, trails_of_le (by decide) le_rfl⟩
  exact (bulk_in_memory fourWords 0 8 0 2 [(2, 0), (3, 1)] harrays).1 .empty

/-! ### Validation -/

/-- What the simple module accepts, and what the standalone one. -/
def validCode (value category : Int32) : Bool :=
  (decide (value ≥ 0) && decide (value ≤ 9999)) && (decide (category ≥ 0) && decide (category ≤ 1))

def Standalone.validCode (value : Int32) : Bool := decide (value ≥ 0) && decide (value ≤ 255)

section Validate

variable {m : Memory} {values categories results count : ℕ} {a b : ℕ → Int32}

/-- The value, with the category if the value is in range. -/
def readValidated (values categories i : ℕ) (m : Memory) : Option (Int32 × Option Int32) := do
  let value ← m.loadInt32 (values + 4 * i)
  if decide (value ≥ 0) && decide (value ≤ 9999) then do
    let category ← m.loadInt32 (categories + 4 * i)
    return (value, some category)
  else return (value, none)

def validRead : Int32 × Option Int32 → Bool
  | (_, some category) => decide (category ≥ 0) && decide (category ≤ 1)
  | (_, none) => false

theorem validateElement_eq (i : ℕ) (m : Memory) :
    (do
      let value ← m.loadInt32 (values + 4 * i)
      let valid ←
        if decide (value ≥ 0) && decide (value ≤ 9999) then do
          let category ← m.loadInt32 (categories + 4 * i)
          pure (decide (category ≥ 0) && decide (category ≤ 1))
        else pure false
      m.storeBool (results + i) valid) =
      (do
        let x ← readValidated values categories i m
        m.store (results + 1 * i) 1 fun _ => if validRead x then 1 else 0) := by
  rw [readValidated, Nat.one_mul]
  cases m.loadInt32 (values + 4 * i) with
  | none => rfl
  | some value =>
    simp only [Option.bind_eq_bind, Option.bind_some]
    split_ifs
    · cases m.loadInt32 (categories + 4 * i) with
      | none => rfl
      | some category => rfl
    · rfl

/-- The categories of the values in range are there. -/
def CategoriesHeld (m : Memory) (categories count : ℕ) (a b : ℕ → Int32) : Prop :=
  ∀ i < count, decide (a i ≥ 0) && decide (a i ≤ 9999) →
    m.loadInt32 (categories + 4 * i) = some (b i)

theorem readValidated_trailed (ha : m.Int32s values count a)
    (hb : CategoriesHeld m categories count a b) (hvalues : Trails values results 1 count)
    (hcategories : Trails categories results 1 count) {i : ℕ} (hi : i < count) (out : ℕ → UInt8) :
    readValidated values categories i (m.write results (1 * i) out) =
      some (a i, if decide (a i ≥ 0) && decide (a i ≤ 9999) then some (b i) else none) := by
  rw [readValidated, loadInt32_trailed hvalues hi, loadInt32_trailed hcategories hi, ha i hi,
    Option.bind_eq_bind, Option.bind_some]
  split_ifs with hrange
  · rw [hb i hi hrange]
    rfl
  · rfl

theorem validRead_eq (value category : Int32) :
    validRead (value, if decide (value ≥ 0) && decide (value ≤ 9999) then some category else none) =
      validCode value category := by
  unfold validCode
  split_ifs with hrange
  · rw [hrange, Bool.true_and]
    rfl
  · rw [Bool.not_eq_true] at hrange
    rw [hrange, Bool.false_and]
    rfl

end Validate

/-- In both modules validation is element by element of the arrays before the call, also when the
results are put in the place of the input, and nothing else is written; the simple module does not read
the category of a value that is out of range. -/
theorem validate_in_memory (m : Memory) (values categories results count : ℕ) (a b : ℕ → Int32)
    (ha : m.Int32s values count a) (hresults : m.Accessible results count)
    (hvalues : Trails values results 1 count) :
    (CategoriesHeld m categories count a b → Trails categories results 1 count →
      wasmValidateErrorCodesBatch values categories results count m =
        some (m.setBools results count fun i => validCode (a i) (b i))) ∧
    Standalone.wasmValidateErrorCodesBatch values categories results count m =
      some (m.setBools results count fun i => Standalone.validCode (a i)) := by
  have hroom : m.Accessible results (1 * count) := by rwa [Nat.one_mul]
  constructor
  · intro hb hcategories
    have hloop := streamMap_eq (readValidated values categories) validRead
      (fun b _ => if b then 1 else 0) Nat.one_pos
      (fun i hi out => readValidated_trailed ha hb hvalues hcategories hi out) hroom
    simp only [validRead_eq, Nat.one_mul, Nat.div_one] at hloop
    rw [wasmValidateErrorCodesBatch, funext₂ validateElement_eq]
    simp only [Nat.one_mul]
    exact hloop
  · have hread : ∀ i < count, ∀ out,
        (m.write results (1 * i) out).loadInt32 (values + 4 * i) = some (a i) := by
      intro i hi out
      rw [loadInt32_trailed hvalues hi, ha i hi]
    have hloop := streamMap_eq (fun i m => m.loadInt32 (values + 4 * i)) Standalone.validCode
      (fun b _ => if b then 1 else 0) Nat.one_pos hread hroom
    simp only [Nat.one_mul, Nat.div_one] at hloop
    exact hloop

/-- The results in the place of the values. -/
theorem validate_in_memory_in_place :
    wasmValidateErrorCodesBatch 0 8 0 2 fourWords =
      some (fourWords.setBools 0 2 fun i => validCode ([2, 3].getD i 0) ([0, 1].getD i 0)) :=
  (validate_in_memory fourWords 0 8 0 2 (fun i => [2, 3].getD i 0) (fun i => [0, 1].getD i 0)
    (by decide) (by decide) (trails_of_le le_rfl (by decide))).1
    (fun i hi _ => (show ∀ i < 2, fourWords.loadInt32 (8 + 4 * i) = some ([0, 1].getD i 0) by decide)
      i hi) (trails_of_le (by decide) (by decide))

end BoostSystem
