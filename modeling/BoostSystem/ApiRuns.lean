import BoostSystem.BulkBuffers
import BoostSystem.CreateCodes
import BoostSystem.ErrorStats
import BoostSystem.Transcripts
import Mathlib.Data.List.DropRight
import Mathlib.Data.Rat.Init

/-!
# Runs of the class

The methods are called one after the other on one object, by a caller who catches what they throw. A
load gives a module of its own, with an empty store and a heap, or fails. The books of the object are
what the log of calls and outcomes says: what has been returned since the last cleanup.
-/

namespace BoostSystem.Api

open LinearMemory Runs Scripts

/-- The object as it is constructed. -/
def ApiState.constructed : ApiState :=
  { ApiState.start (.zeroes 0 (by decide)) with initialized := false }

/-- A new module, whose store is empty and whose heap is `heap`. -/
def ApiState.load (s : ApiState) (heap : Heap) : ApiState :=
  { s with initialized := true, store := .empty, heap := heap, live := [], freedTwice := false }

/-- `initialize()`, awaited; `loaded` is the heap of the new module, if it loads. -/
def initializeModule (loaded : Option Heap) : Js Unit := do
  let s ← Script.get
  if s.initialized then pure ()
  else
    match loaded with
    | some heap => Script.modify (·.load heap)
    | none => Script.throw .failure

def ApiState.unload (s : ApiState) : ApiState :=
  if s.initialized then { s with initialized := false, memoryUsage := ⟨0, 0, 0, 0⟩ } else s

def cleanup : Js Unit := Script.modify ApiState.unload

def isInitialized : Js Bool := do
  let s ← Script.get
  return s.initialized

def getMemoryStats : Js MemoryUsage := do
  let s ← Script.get
  return s.memoryUsage

structure SIMDPerformanceMetrics where
  simdAvailable : Bool
  speedupFactor : ℚ
  recommendedBatchSize : ℕ
deriving DecidableEq

/-- `Array.from( { length: 1000 }, ( _, i ) => i % 100 )`. -/
def testData : List ℤ := (List.range 1000).map fun i => (i % 100 : ℕ)

/-- The benchmark searches `iterations` times and drops what it finds. -/
def benchmark (env : Env) : ℕ → Js Unit
  | 0 => pure ()
  | iterations + 1 => do
    let _ ← findErrorCode env testData 42
    benchmark env iterations

def getSIMDMetrics (env : Env) : Js SIMDPerformanceMetrics := do
  ensureInitialized
  if env.simd128 then benchmark env 1000 else pure ()
  return {
    simdAvailable := env.simd128
    speedupFactor := if env.simd128 then 3.5 else 1
    recommendedBatchSize := 64 }

/-! ### Calls and outcomes -/

inductive Call where
  | initializeCall (loaded : Option Heap)
  | cleanup
  | isInitialized
  | createErrorCode (value : ℤ) (category : ErrorCategory)
  | createErrorCodesBulk (values : List ℤ) (category : ErrorCategory)
  | compareErrorCodes (code1 code2 : ErrorCode)
  | compareErrorCodesBulk (codes1 codes2 : List ℤ) (enableSIMD : Bool)
  | findErrorCode (codes : List ℤ) (target : ℤ)
  | validateErrorCodes (codes : List ℤ) (minValue maxValue : ℤ)
  | getErrorStats (codes : List ErrorCode)
  | getSIMDMetrics
  | getMemoryStats

inductive Reply where
  | done
  | flag (value : Bool)
  | code (code : ErrorCode)
  | codes (codes : List ErrorCode)
  | comparison (result : ComparisonResult)
  | batch (result : BatchResult)
  | index (index : ℤ)
  | valid (results : List Bool)
  | stats (stats : ErrorStats)
  | metrics (metrics : SIMDPerformanceMetrics)
  | memory (usage : MemoryUsage)

/-- A method whose result is made a reply. -/
def replying {α : Type} (reply : α → Reply) (method : Js α) : Js Reply := do
  let a ← method
  return reply a

def perform (env : Env) : Call → Js Reply
  | .initializeCall loaded => replying (fun _ => .done) (initializeModule loaded)
  | .cleanup => replying (fun _ => .done) cleanup
  | .isInitialized => replying .flag isInitialized
  | .createErrorCode value category => replying .code (createErrorCode value category)
  | .createErrorCodesBulk values category => replying .codes (createErrorCodesBulk values category)
  | .compareErrorCodes code1 code2 => replying .comparison (compareErrorCodes code1 code2)
  | .compareErrorCodesBulk codes1 codes2 enableSIMD =>
    replying .batch (compareErrorCodesBulk env codes1 codes2 enableSIMD)
  | .findErrorCode codes target => replying .index (findErrorCode env codes target)
  | .validateErrorCodes codes minValue maxValue =>
    replying .valid (validateErrorCodes env codes minValue maxValue)
  | .getErrorStats codes => replying .stats (getErrorStats codes)
  | .getSIMDMetrics => replying .metrics (getSIMDMetrics env)
  | .getMemoryStats => replying .memory getMemoryStats

abbrev Outcome := Except JsError Reply

abbrev Log := List (Call × Outcome)

/-- The log of the calls on a new object, and the state that they leave. -/
def logged (env : Env) (calls : List Call) : Log × ApiState :=
  transcript (fun s call => perform env call s) .constructed calls

/-! ### The calls that leave the books alone -/

/-- Whether a module is loaded, the statistics, and the store. -/
def ApiState.books (s : ApiState) : Bool × MemoryUsage × ErrorStore :=
  (s.initialized, s.memoryUsage, s.store)

section Keeps

variable {env : Env}

theorem point_keeps_books : (point env).Keeps ApiState.books := fun _ => rfl

theorem ensureInitialized_keeps_books : ensureInitialized.Keeps ApiState.books := by
  apply Script.keeps_get.bind
  intro s
  split_ifs
  · exact Script.keeps_pure ()
  · exact Script.keeps_throw _

theorem allocateBuffer_keeps_books (size : ℕ) : (allocateBuffer env size).Keeps ApiState.books := by
  apply point_keeps_books.bind
  intro _
  apply Script.keeps_get.bind
  intro s
  have hmodify : (Script.modify (·.accept (env.malloc s (size % 2 ^ 32)) (size % 2 ^ 32)) :
      Js Unit).Keeps ApiState.books := Script.keeps_modify fun _ => rfl
  exact hmodify.bind fun _ => Script.keeps_pure _

theorem freeBuffer_keeps_books (ptr : ℕ) : (freeBuffer env ptr).Keeps ApiState.books := by
  apply Script.keeps_modify
  intro s
  unfold ApiState.release
  split_ifs
  · rfl
  · rfl

theorem set_keeps_books (view : View) (typedArray : List Int32) (offset : ℕ) :
    (view.set env typedArray offset).Keeps ApiState.books := by
  apply point_keeps_books.bind
  intro _
  apply Script.keeps_get.bind
  intro s
  split_ifs
  · exact Script.keeps_throw _
  · exact Script.keeps_throw _
  · exact Script.keeps_modify fun _ => rfl

theorem copyArrayToWASM_keeps_books (array : List ℤ) :
    (copyArrayToWASM env array).Keeps ApiState.books := by
  apply point_keeps_books.bind
  intro _
  apply Script.keeps_get.bind
  intro s
  apply (allocateBuffer_keeps_books _).bind
  intro ptr
  exact (set_keeps_books _ _ _).bind fun _ => Script.keeps_pure ptr

theorem callKernel_keeps_books {α : Type} (kernel : Memory → Option (α × Memory)) :
    (callKernel env kernel).Keeps ApiState.books := by
  apply point_keeps_books.bind
  intro _
  apply Script.keeps_get.bind
  intro s
  cases kernel s.heap.memory with
  | none => exact Script.keeps_throw _
  | some result =>
    have hmodify : (Script.modify (·.withMemory result.2) : Js Unit).Keeps ApiState.books :=
      Script.keeps_modify fun _ => rfl
    exact hmodify.bind fun _ => Script.keeps_pure _

theorem readBools_keeps_books (ptr count : ℕ) :
    (readBools env ptr count).Keeps ApiState.books := by
  apply point_keeps_books.bind
  intro _
  apply Script.keeps_get.bind
  intro s
  split_ifs
  · exact Script.keeps_throw _
  · exact Script.keeps_pure _

theorem compareSimd_keeps_books (codes1 codes2 : List ℤ) (count : ℕ) :
    (compareSimd env codes1 codes2 count).Keeps ApiState.books := by
  apply (copyArrayToWASM_keeps_books codes1).bind
  intro codes1Ptr
  apply (copyArrayToWASM_keeps_books codes2).bind
  intro codes2Ptr
  apply (allocateBuffer_keeps_books count).bind
  intro resultsPtr
  apply Script.Keeps.tryFinally
  · exact (callKernel_keeps_books _).bind fun _ => readBools_keeps_books _ _
  · exact (freeBuffer_keeps_books _).bind fun _ =>
      (freeBuffer_keeps_books _).bind fun _ => freeBuffer_keeps_books _

theorem findSimd_keeps_books (codes : List ℤ) (target : ℤ) :
    (findSimd env codes target).Keeps ApiState.books := by
  apply (copyArrayToWASM_keeps_books codes).bind
  intro codesPtr
  apply Script.Keeps.tryFinally
  · exact (callKernel_keeps_books _).bind fun _ => Script.keeps_pure _
  · exact freeBuffer_keeps_books _

theorem validateSimd_keeps_books (codes : List ℤ) (minValue maxValue : ℤ) :
    (validateSimd env codes minValue maxValue).Keeps ApiState.books := by
  apply (copyArrayToWASM_keeps_books codes).bind
  intro codesPtr
  apply (allocateBuffer_keeps_books _).bind
  intro resultsPtr
  apply Script.Keeps.tryFinally
  · exact (callKernel_keeps_books _).bind fun _ => readBools_keeps_books _ _
  · exact (freeBuffer_keeps_books _).bind fun _ => freeBuffer_keeps_books _

/-- A method that takes one of two routes, each of which leaves the books alone. -/
theorem branch_keeps_books {α : Type} {simd : Js α} (hsimd : simd.Keeps ApiState.books)
    (taken : Bool) (scalar : α) :
    (ensureInitialized >>= fun _ => if taken then simd else pure scalar).Keeps ApiState.books := by
  apply ensureInitialized_keeps_books.bind
  intro _
  split_ifs
  · exact hsimd
  · exact Script.keeps_pure scalar

theorem findErrorCode_keeps_books (codes : List ℤ) (target : ℤ) :
    (findErrorCode env codes target).Keeps ApiState.books :=
  branch_keeps_books (findSimd_keeps_books codes target) _ _

theorem validateErrorCodes_keeps_books (codes : List ℤ) (minValue maxValue : ℤ) :
    (validateErrorCodes env codes minValue maxValue).Keeps ApiState.books :=
  branch_keeps_books (validateSimd_keeps_books codes minValue maxValue) _ _

theorem compareErrorCodesBulk_keeps_books (codes1 codes2 : List ℤ) (enableSIMD : Bool) :
    (compareErrorCodesBulk env codes1 codes2 enableSIMD).Keeps ApiState.books := by
  rw [compareErrorCodesBulk_eq env codes1 codes2 enableSIMD rfl rfl]
  apply branch_keeps_books
  exact (compareSimd_keeps_books _ _ _).bind fun _ => Script.keeps_pure _

theorem benchmark_keeps_books (iterations : ℕ) :
    (benchmark env iterations).Keeps ApiState.books := by
  induction iterations with
  | zero => exact Script.keeps_pure ()
  | succ iterations ih => exact (findErrorCode_keeps_books _ _).bind fun _ => ih

theorem getSIMDMetrics_keeps_books : (getSIMDMetrics env).Keeps ApiState.books := by
  apply ensureInitialized_keeps_books.bind
  intro _
  split_ifs
  · exact (benchmark_keeps_books 1000).bind fun _ => Script.keeps_pure _
  · exact (Script.keeps_pure ()).bind fun _ => Script.keeps_pure _

theorem getErrorStats_keeps_books (codes : List ErrorCode) :
    (getErrorStats codes).Keeps ApiState.books :=
  ensureInitialized_keeps_books.bind fun _ => Script.keeps_pure _

end Keeps

end BoostSystem.Api
