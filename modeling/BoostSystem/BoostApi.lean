import BoostSystem.ErrorSimd
import BoostSystem.ErrorStore
import BoostSystem.Scripts
import Mathlib.Algebra.Group.Int.Defs

/-!
# The TypeScript class

`src/lib/index.ts` over one module instance. Numbers are integers, and `toInt32` is the conversion of
`Int32Array` and of `cwrap`. A view on the heap belongs to the buffer that was current when it was
taken: growth replaces the buffer and detaches every earlier view. `Env` is what the class runs on:
whether the kernels are the vector build, which operations throw, by their number, and how `malloc`
and `free` answer. The state keeps the blocks that have been allocated and not freed, with their
sizes.
-/

namespace BoostSystem.Api

open LinearMemory Scripts

inductive JsError where
  | notInitialized
  | typeError
  | rangeError
  | trap
  | failure
deriving DecidableEq

inductive ErrorCategory where
  | unknown
  | system
  | generic
  | network
  | custom
deriving DecidableEq

structure ErrorCode where
  value : ℤ
  category : ErrorCategory
  message : String
  categoryName : String
deriving DecidableEq

structure MemoryUsage where
  totalAllocated : ℕ
  internedMessages : ℕ
  errorCodesCreated : ℕ
  peakUsage : ℕ
deriving DecidableEq

/-- The linear memory of the instance and the identity of its current buffer. -/
structure Heap where
  memory : Memory
  size : ℕ
  generation : ℕ

def Heap.WellFormed (h : Heap) : Prop := ∀ p, (h.memory.cell p).isSome = true ↔ p < h.size

structure ApiState where
  initialized : Bool
  store : ErrorStore
  memoryUsage : MemoryUsage
  heap : Heap
  live : List (ℕ × ℕ)
  freedTwice : Bool
  clock : ℕ

structure Response where
  ptr : ℕ
  heap : Heap

structure Env where
  simd128 : Bool
  fails : ℕ → Bool
  malloc : ApiState → ℕ → Response
  free : ApiState → ℕ → Heap

/-- The system right after `initialize`, on a heap. -/
def ApiState.start (heap : Heap) : ApiState where
  initialized := true
  store := .empty
  memoryUsage := ⟨0, 0, 0, 0⟩
  heap := heap
  live := []
  freedTwice := false
  clock := 0

/-- A heap of `size` zeroes. -/
def Heap.zeroes (size : ℕ) (hsize : size ≤ 2 ^ 32) : Heap := ⟨.ofSize size hsize fun _ => 0, size, 0⟩

abbrev Js := Script JsError ApiState

def toInt32 (n : ℤ) : Int32 := Int32.ofInt n

theorem toInt_toInt32 (n : ℤ) : (toInt32 n).toInt = n.bmod (2 ^ 32) := Int32.toInt_ofInt

@[simp] theorem toInt32_toInt (x : Int32) : toInt32 x.toInt = x := Int32.ofInt_toInt x

/-- Two numbers have one word exactly if they are congruent. -/
theorem toInt32_eq_iff {m n : ℤ} : toInt32 m = toInt32 n ↔ m % 2 ^ 32 = n % 2 ^ 32 := by
  rw [← Int32.toInt_inj, toInt_toInt32, toInt_toInt32]
  constructor
  · intro h
    have hmod := congrArg (· % ((2 ^ 32 : ℕ) : ℤ)) h
    simp only [Int.bmod_emod] at hmod
    exact hmod
  · intro h
    have hmod : m % ((2 ^ 32 : ℕ) : ℤ) = n % ((2 ^ 32 : ℕ) : ℤ) := h
    rw [← Int.emod_bmod m, ← Int.emod_bmod n, hmod]

def ensureInitialized : Js Unit := do
  let s ← Script.get
  if s.initialized then pure () else Script.throw .notInitialized

theorem ensureInitialized_of_ready {s : ApiState} (hinit : s.initialized = true) :
    ensureInitialized s = (.ok (), s) := by
  rw [ensureInitialized, Script.bind_of_ok (Script.get_apply s), if_pos hinit, Script.pure_apply]

theorem ensureInitialized_of_not_ready {s : ApiState} (hinit : s.initialized ≠ true) :
    ensureInitialized s = (.error .notInitialized, s) := by
  rw [ensureInitialized, Script.bind_of_ok (Script.get_apply s), if_neg hinit, Script.throw_apply]

/-! ### Handles -/

/-- A call into the store; one that has no result traps. -/
def callStore {α : Type} (f : ErrorStore → Option (α × ErrorStore)) : Js α := fun s =>
  match f s.store with
  | some (a, store) => (.ok a, { s with store := store })
  | none => (.error .trap, s)

def createErrorCodeHandle (value category : ℤ) : Js ℤ := do
  let handle ← callStore (·.wasmCreateErrorCode (toInt32 value) (toInt32 category))
  return handle.toInt

def compareHandles (handle1 handle2 : ℤ) : Js Bool :=
  callStore fun store =>
    (store.wasmCompareErrorCodes (toInt32 handle1) (toInt32 handle2)).map (·, store)

structure ComparisonResult where
  equal : Bool
  valueDifference : ℕ
  categoryMatch : Bool
  messageMatch : Bool
deriving DecidableEq

/-- `category === ErrorCategory.Generic ? 1 : 0`. -/
def categoryType (category : ErrorCategory) : ℤ := if category = .generic then 1 else 0

def compareErrorCodes (code1 code2 : ErrorCode) : Js ComparisonResult := do
  ensureInitialized
  let handle1 ← createErrorCodeHandle code1.value (categoryType code1.category)
  let handle2 ← createErrorCodeHandle code2.value (categoryType code2.category)
  let equal ← compareHandles handle1 handle2
  return {
    equal := equal
    valueDifference := (code1.value - code2.value).natAbs
    categoryMatch := code1.category == code2.category
    messageMatch := code1.message == code2.message }

/-! ### The heap -/

def ApiState.tick (s : ApiState) : ApiState := { s with clock := s.clock + 1 }

/-- The heap as `malloc` leaves it, and the block that it has allocated. -/
def ApiState.accept (s : ApiState) (r : Response) (size : ℕ) : ApiState :=
  { s with
    heap := r.heap
    live := if r.ptr = 0 then s.live else (r.ptr, size) :: s.live }

def ApiState.release (env : Env) (s : ApiState) (ptr : ℕ) : ApiState :=
  if ptr = 0 then s
  else
    { s with
      heap := env.free s ptr
      live := s.live.eraseP (·.1 == ptr)
      freedTwice := s.freedTwice || !s.live.any (·.1 == ptr) }

def ApiState.withMemory (s : ApiState) (memory : Memory) : ApiState :=
  { s with heap := { s.heap with memory := memory } }

def ApiState.setWords (s : ApiState) (p : ℕ) (words : List Int32) : ApiState :=
  s.withMemory (s.heap.memory.setInt32s p words.length fun i => words.getD i 0)

/-- The next operation, which may throw. -/
def point (env : Env) : Js Unit := fun s =>
  (if env.fails s.clock then .error .failure else .ok (), s.tick)

/-- `_allocateBuffer`; the size is a `size_t`. -/
def allocateBuffer (env : Env) (size : ℕ) : Js ℕ := do
  point env
  let s ← Script.get
  let r := env.malloc s (size % 2 ^ 32)
  Script.modify (·.accept r (size % 2 ^ 32))
  return r.ptr

/-- `_freeBuffer`. -/
def freeBuffer (env : Env) (ptr : ℕ) : Js Unit := Script.modify (·.release env ptr)

/-- An `Int32Array` view on a buffer. -/
structure View where
  generation : ℕ
  length : ℕ

def Heap.heap32 (h : Heap) : View := ⟨h.generation, h.size / 4⟩

/-- `heap.set( typedArray, offset )`. -/
def View.set (env : Env) (view : View) (typedArray : List Int32) (offset : ℕ) : Js Unit := do
  point env
  let s ← Script.get
  if view.generation ≠ s.heap.generation then Script.throw .typeError
  else if offset + typedArray.length > view.length then Script.throw .rangeError
  else Script.modify (·.setWords (4 * offset) typedArray)

/-- `copyArrayToWASM( array, 'Int32Array' )`. -/
def copyArrayToWASM (env : Env) (array : List ℤ) : Js ℕ := do
  point env
  let typedArray := array.map toInt32
  let s ← Script.get
  let heap := s.heap.heap32
  let ptr ← allocateBuffer env (4 * typedArray.length)
  heap.set env typedArray (ptr / 4)
  return ptr

/-- A call of a kernel. -/
def callKernel {α : Type} (env : Env) (kernel : Memory → Option (α × Memory)) : Js α := do
  point env
  let s ← Script.get
  match kernel s.heap.memory with
  | some (a, memory) => do
    Script.modify (·.withMemory memory)
    return a
  | none => Script.throw .trap

/-- `new Uint8Array( HEAPU8.buffer, ptr, count )`, each byte compared with zero. -/
def readBools (env : Env) (ptr count : ℕ) : Js (List Bool) := do
  point env
  let s ← Script.get
  if ptr + count > s.heap.size then Script.throw .rangeError
  else return (List.range count).map fun i => (s.heap.memory.cell (ptr + i)).getD 0 != 0

/-! ### Bulk operations -/

structure BatchResult where
  results : List Bool
  errors : List ErrorCode
  processed : ℕ
  successful : ℕ
  failed : ℕ
  simdUsed : Bool
deriving DecidableEq

def compareScalar (codes1 codes2 : List ℤ) : List Bool := List.zipWith (· == ·) codes1 codes2

def validateScalar (codes : List ℤ) (minValue maxValue : ℤ) : List Bool :=
  codes.map fun code => decide (code ≥ minValue) && decide (code ≤ maxValue)

/-- `codes.indexOf( target )`. -/
def indexOf {α : Type} [DecidableEq α] (codes : List α) (target : α) : ℤ :=
  if target ∈ codes then codes.idxOf target else -1

/-- The vector branch of `compareErrorCodesBulk`. -/
def compareSimd (env : Env) (codes1 codes2 : List ℤ) (count : ℕ) : Js (List Bool) := do
  let codes1Ptr ← copyArrayToWASM env codes1
  let codes2Ptr ← copyArrayToWASM env codes2
  let resultsPtr ← allocateBuffer env count
  Script.tryFinally
    (do
      callKernel env fun m =>
        (compareErrorCodesSimd env.simd128 codes1Ptr codes2Ptr resultsPtr count m).map ((), ·)
      readBools env resultsPtr count)
    (do
      freeBuffer env codes1Ptr
      freeBuffer env codes2Ptr
      freeBuffer env resultsPtr)

/-- `enableSIMD` is `options?.enableSIMD !== false`. -/
def compareErrorCodesBulk (env : Env) (codes1 codes2 : List ℤ) (enableSIMD : Bool) :
    Js BatchResult := do
  ensureInitialized
  let count := min codes1.length codes2.length
  let simd := enableSIMD && env.simd128 && decide (count ≥ 16)
  let results ←
    if simd then compareSimd env codes1 codes2 count else pure (compareScalar codes1 codes2)
  return {
    results := results
    errors := []
    processed := count
    successful := count
    failed := 0
    simdUsed := simd }

/-- The vector branch of `findErrorCode`. -/
def findSimd (env : Env) (codes : List ℤ) (target : ℤ) : Js ℤ := do
  let codesPtr ← copyArrayToWASM env codes
  Script.tryFinally
    (do
      let index ← callKernel env fun m =>
        (findErrorCodeSimd env.simd128 codesPtr codes.length (toInt32 target) m).map (·, m)
      return index.toInt)
    (freeBuffer env codesPtr)

def findErrorCode (env : Env) (codes : List ℤ) (target : ℤ) : Js ℤ := do
  ensureInitialized
  if env.simd128 && decide (codes.length ≥ 16) then findSimd env codes target
  else return indexOf codes target

/-- The vector branch of `validateErrorCodes`. -/
def validateSimd (env : Env) (codes : List ℤ) (minValue maxValue : ℤ) : Js (List Bool) := do
  let codesPtr ← copyArrayToWASM env codes
  let resultsPtr ← allocateBuffer env codes.length
  Script.tryFinally
    (do
      callKernel env fun m =>
        (validateErrorRangeSimd env.simd128 codesPtr resultsPtr codes.length (toInt32 minValue)
          (toInt32 maxValue) m).map ((), ·)
      readBools env resultsPtr codes.length)
    (do
      freeBuffer env codesPtr
      freeBuffer env resultsPtr)

def validateErrorCodes (env : Env) (codes : List ℤ) (minValue maxValue : ℤ) : Js (List Bool) := do
  ensureInitialized
  if env.simd128 && decide (codes.length ≥ 16) then validateSimd env codes minValue maxValue
  else return validateScalar codes minValue maxValue

end BoostSystem.Api
