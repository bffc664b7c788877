import BoostSystem.Loops
import BoostSystem.SimdLanes
import Mathlib.Algebra.Group.Int.Defs

/-!
# The vector kernels

`wasm/error_simd.cpp`: pointers are addresses of linear memory, `simd128` tells whether
`__wasm_simd128__` is defined. An access to an inaccessible cell and an `int` addition that
overflows have no result. Every kernel has the same shape, chunks of four and a tail, or the
elements one by one.
-/

namespace BoostSystem

open LinearMemory Loops SimdLanes

section Build

variable {M : Type → Type} [Monad M] {σ : Type}

def kernelLoop (simd128 : Bool) (count : ℕ) (chunk element : ℕ → σ → M σ) (s : σ) : M σ :=
  if simd128 then chunkedLoop count chunk element s else forLoop 0 count 1 element s

/-- Both builds run through the sequence of states that the chunks and the elements step through. -/
theorem kernelLoop_eq [LawfulMonad M] {count : ℕ} {chunk element : ℕ → σ → M σ} (st : ℕ → σ)
    (hchunk : ∀ i, i + 4 ≤ count → chunk i (st i) = pure (st (i + 4)))
    (helement : ∀ i < count, element i (st i) = pure (st (i + 1))) (simd128 : Bool) :
    kernelLoop simd128 count chunk element (st 0) = pure (st count) := by
  cases simd128 with
  | false => exact forLoop_eq st count.zero_le fun i _ hi => helement i hi
  | true => exact chunkedLoop_eq st hchunk helement

end Build

/-! ### Comparison and validation -/

/-- `results[i]` to `results[i + 3]` from the lanes of a mask. -/
def storeMask (results i : ℕ) (mask : V128) (m : Memory) : Option Memory := do
  let m ← m.storeBool (results + i) (mask 0 != 0)
  let m ← m.storeBool (results + (i + 1)) (mask 1 != 0)
  let m ← m.storeBool (results + (i + 2)) (mask 2 != 0)
  m.storeBool (results + (i + 3)) (mask 3 != 0)

def compareChunk (codes1 codes2 results i : ℕ) (m : Memory) : Option Memory := do
  let v1 ← v128Load m (codes1 + 4 * i)
  let v2 ← v128Load m (codes2 + 4 * i)
  storeMask results i (i32x4Eq v1 v2) m

def compareElement (codes1 codes2 results i : ℕ) (m : Memory) : Option Memory := do
  let code1 ← m.loadInt32 (codes1 + 4 * i)
  let code2 ← m.loadInt32 (codes2 + 4 * i)
  m.storeBool (results + i) (code1 == code2)

def compareErrorCodesSimd (simd128 : Bool) (codes1 codes2 results count : ℕ) (m : Memory) :
    Option Memory :=
  kernelLoop simd128 count (compareChunk codes1 codes2 results)
    (compareElement codes1 codes2 results) m

def validateChunk (codes valid : ℕ) (minVal maxVal : Int32) (i : ℕ) (m : Memory) :
    Option Memory := do
  let codesVec ← v128Load m (codes + 4 * i)
  let geMin := i32x4Ge codesVec (splat minVal)
  let leMax := i32x4Le codesVec (splat maxVal)
  storeMask valid i (v128And geMin leMax) m

def validateElement (codes valid : ℕ) (minVal maxVal : Int32) (i : ℕ) (m : Memory) :
    Option Memory := do
  let code ← m.loadInt32 (codes + 4 * i)
  m.storeBool (valid + i) (decide (code ≥ minVal) && decide (code ≤ maxVal))

def validateErrorRangeSimd (simd128 : Bool) (codes valid count : ℕ) (minVal maxVal : Int32)
    (m : Memory) : Option Memory :=
  kernelLoop simd128 count (validateChunk codes valid minVal maxVal)
    (validateElement codes valid minVal maxVal) m

/-! ### Search

The search leaves its loops with the index as an exception. -/

def findElement (codes : ℕ) (target : Int32) (m : Memory) (i : ℕ) (_ : Unit) :
    ExceptT Int32 Option Unit := do
  let code ← liftM (m.loadInt32 (codes + 4 * i))
  if code == target then throw (Int32.ofNat i)

/-- The scan of the four elements of a chunk. -/
def findInChunk (codes : ℕ) (target : Int32) (m : Memory) (i : ℕ) : ExceptT Int32 Option Unit :=
  forLoop 0 4 1 (fun j => findElement codes target m (i + j)) ()

def findChunk (codes : ℕ) (target : Int32) (m : Memory) (i : ℕ) (_ : Unit) :
    ExceptT Int32 Option Unit := do
  let codesVec ← liftM (v128Load m (codes + 4 * i))
  let mask := i32x4Bitmask (i32x4Eq codesVec (splat target))
  if mask != 0 then findInChunk codes target m i

def findErrorCodeSimd (simd128 : Bool) (codes count : ℕ) (target : Int32) (m : Memory) :
    Option Int32 := do
  match ← (kernelLoop simd128 count (findChunk codes target m) (findElement codes target m) ()).run with
  | .error index => return index
  | .ok () => return -1

/-! ### Categories -/

def categoryOf (code : Int32) : Int32 :=
  if code ≥ 1 ∧ code ≤ 99 then 1 else if code ≥ 100 ∧ code ≤ 199 then 2 else 0

def categorizeChunk (codes categories i : ℕ) (m : Memory) : Option Memory := do
  let codesVec ← v128Load m (codes + 4 * i)
  let isSystem := v128And (i32x4Ge codesVec (splat 1)) (i32x4Le codesVec (splat 99))
  let isNetwork := v128And (i32x4Ge codesVec (splat 100)) (i32x4Le codesVec (splat 199))
  let result := bitselect (splat 1) (splat 0) isSystem
  let result := bitselect (splat 2) result isNetwork
  v128Store m (categories + 4 * i) result

def categorizeElement (codes categories i : ℕ) (m : Memory) : Option Memory := do
  let code ← m.loadInt32 (codes + 4 * i)
  m.storeInt32 (categories + 4 * i) (categoryOf code)

def categorizeErrorCodesSimd (simd128 : Bool) (codes categories count : ℕ) (m : Memory) :
    Option Memory :=
  kernelLoop simd128 count (categorizeChunk codes categories) (categorizeElement codes categories) m

/-! ### Counting -/

/-- `x + y` on `int`. -/
def intAdd (x y : Int32) : Option Int32 :=
  if -2 ^ 31 ≤ x.toInt + y.toInt ∧ x.toInt + y.toInt < 2 ^ 31 then some (x + y) else none

structure LaneCounts where
  unknownCount : V128
  systemCount : V128
  networkCount : V128

def countChunk (categories : ℕ) (m : Memory) (i : ℕ) (n : LaneCounts) : Option LaneCounts := do
  let cats ← v128Load m (categories + 4 * i)
  let isUnknown := i32x4Eq cats (splat 0)
  let isSystem := i32x4Eq cats (splat 1)
  let isNetwork := i32x4Eq cats (splat 2)
  return {
    unknownCount := i32x4Add n.unknownCount (bitselect (splat 1) (splat 0) isUnknown)
    systemCount := i32x4Add n.systemCount (bitselect (splat 1) (splat 0) isSystem)
    networkCount := i32x4Add n.networkCount (bitselect (splat 1) (splat 0) isNetwork) }

/-- The lane counters after the loop over the chunks. -/
def countLanes (categories count : ℕ) (m : Memory) : Option LaneCounts :=
  forLoop 0 (count / 4 * 4) 4 (countChunk categories m) ⟨splat 0, splat 0, splat 0⟩

/-- `temp[0] + temp[1] + temp[2] + temp[3]`. -/
def horizontalSum (temp : V128) : Option Int32 := do
  let sum ← intAdd (temp 0) (temp 1)
  let sum ← intAdd sum (temp 2)
  intAdd sum (temp 3)

def countElement (categories counts i : ℕ) (m : Memory) : Option Memory := do
  let category ← m.loadInt32 (categories + 4 * i)
  if category ≥ 0 ∧ category ≤ 2 then do
    let counter := counts + 4 * category.toNatClampNeg
    let n ← m.loadInt32 counter
    let n ← intAdd n 1
    m.storeInt32 counter n
  else return m

/-- `counts[0]` to `counts[2]`. -/
def storeCounts (counts : ℕ) (unknown system network : Int32) (m : Memory) : Option Memory := do
  let m ← m.storeInt32 counts unknown
  let m ← m.storeInt32 (counts + 4) system
  m.storeInt32 (counts + 8) network

def countErrorsByCategorySimd (simd128 : Bool) (categories count counts : ℕ) (m : Memory) :
    Option Memory := do
  let m ← storeCounts counts 0 0 0 m
  if simd128 then do
    let n ← countLanes categories count m
    let unknown ← horizontalSum n.unknownCount
    let system ← horizontalSum n.systemCount
    let network ← horizontalSum n.networkCount
    let m ← storeCounts counts unknown system network m
    forLoop (count / 4 * 4) count 1 (countElement categories counts) m
  else forLoop 0 count 1 (countElement categories counts) m

/-- Ten words, 0, 30, 60 and so on, and room behind them. -/
def sampleCodes : Memory :=
  (Memory.ofSize 96 (by decide) fun _ => 0).setInt32s 0 10 fun i => Int32.ofNat (30 * i)

end BoostSystem
