import BoostSystem.LinearMemory
import Mathlib.Algebra.GroupWithZero.Nat
import Mathlib.Data.Fin.VecNotation
import Mathlib.Data.Fintype.Basic
import Mathlib.Tactic.FinCases

/-!
# Vectors of four 32-bit lanes

The operations of `wasm_simd128.h` on a `v128_t` read as `i32x4`. A comparison leaves a mask in each
lane, all ones or all zeros, which the bitwise operations combine and select by.
-/

namespace SimdLanes

abbrev V128 := Fin 4 → Int32

instance neZero_lanes : NeZero 4 := ⟨by decide⟩

def splat (x : Int32) : V128 := fun _ => x

/-- The lane that a comparison leaves. -/
def mask (b : Bool) : Int32 := if b then -1 else 0

def i32x4Eq (v w : V128) : V128 := fun l => mask (v l == w l)

def i32x4Ge (v w : V128) : V128 := fun l => mask (v l ≥ w l)

def i32x4Le (v w : V128) : V128 := fun l => mask (v l ≤ w l)

def i32x4Add (v w : V128) : V128 := fun l => v l + w l

def v128And (v w : V128) : V128 := fun l => v l &&& w l

/-- The bits of `v` where `c` has ones and those of `w` where it has zeros. -/
def bitselect (v w c : V128) : V128 := fun l => (v l &&& c l) ||| (w l &&& ~~~(c l))

/-- Bit `l` is the sign of lane `l`. -/
def i32x4Bitmask (v : V128) : Int32 :=
  (if v 0 < 0 then 1 else 0) ||| (if v 1 < 0 then 2 else 0) ||| (if v 2 < 0 then 4 else 0) |||
    (if v 3 < 0 then 8 else 0)

@[simp] theorem mask_ne_zero (b : Bool) : (mask b != 0) = b := by cases b <;> rfl

@[simp] theorem mask_and (b c : Bool) : mask b &&& mask c = mask (b && c) := by
  cases b <;> cases c <;> rfl

@[simp] theorem i32x4Eq_splat (v : V128) (x : Int32) (l : Fin 4) :
    i32x4Eq v (splat x) l = mask (v l == x) := rfl

@[simp] theorem i32x4Ge_splat (v : V128) (x : Int32) (l : Fin 4) :
    i32x4Ge v (splat x) l = mask (v l ≥ x) := rfl

@[simp] theorem i32x4Le_splat (v : V128) (x : Int32) (l : Fin 4) :
    i32x4Le v (splat x) l = mask (v l ≤ x) := rfl

theorem bitselect_of_mask {c : V128} {l : Fin 4} {b : Bool} (hc : c l = mask b) (v w : V128) :
    bitselect v w c l = if b then v l else w l := by
  rw [bitselect, hc]
  cases b with
  | false => simp [mask]
  | true => simp [mask]

theorem bitmask_mask_ne_zero (b : Fin 4 → Bool) :
    i32x4Bitmask (fun l => mask (b l)) ≠ 0 ↔ ∃ l, b l = true := by
  have hsign : ∀ c : Bool, mask c < 0 ↔ c = true := by decide
  rw [Fin.exists_fin_succ, Fin.exists_fin_succ, Fin.exists_fin_succ, Fin.exists_fin_one]
  simp only [i32x4Bitmask, hsign]
  change _ ↔ b 0 = true ∨ b 1 = true ∨ b 2 = true ∨ b 3 = true
  cases b 0 <;> cases b 1 <;> cases b 2 <;> cases b 3 <;> decide

/-! ### Vectors in memory -/

open LinearMemory

def v128Load (m : Memory) (p : ℕ) : Option V128 := do
  let x₀ ← m.loadInt32 p
  let x₁ ← m.loadInt32 (p + 4)
  let x₂ ← m.loadInt32 (p + 8)
  let x₃ ← m.loadInt32 (p + 12)
  return ![x₀, x₁, x₂, x₃]

def v128Store (m : Memory) (p : ℕ) (v : V128) : Option Memory :=
  m.store p 16 fun k => int32Byte (v (Fin.ofNat 4 (k / 4))) (k % 4)

/-- The four words of an array from `i` on. -/
def lanesAt (a : ℕ → Int32) (i : ℕ) : V128 := fun l => a (i + l)

theorem v128Load_of_words {m : Memory} {p i : ℕ} {a : ℕ → Int32}
    (h : ∀ l < 4, m.loadInt32 (p + 4 * (i + l)) = some (a (i + l))) :
    v128Load m (p + 4 * i) = some (lanesAt a i) := by
  have h₀ : m.loadInt32 (p + 4 * i) = some (a i) := h 0 (by omega)
  have h₁ : m.loadInt32 (p + 4 * i + 4) = some (a (i + 1)) := h 1 (by omega)
  have h₂ : m.loadInt32 (p + 4 * i + 8) = some (a (i + 2)) := h 2 (by omega)
  have h₃ : m.loadInt32 (p + 4 * i + 12) = some (a (i + 3)) := h 3 (by omega)
  have hlanes : ∀ l : Fin 4, ![a i, a (i + 1), a (i + 2), a (i + 3)] l = lanesAt a i l := by
    intro l
    fin_cases l <;> rfl
  simp only [v128Load, h₀, h₁, h₂, h₃, Option.bind_eq_bind, Option.bind_some]
  exact congrArg some (funext hlanes)

theorem v128Load_of_int32s {m : Memory} {p n i : ℕ} {a : ℕ → Int32} (h : m.Int32s p n a)
    (hi : i + 4 ≤ n) : v128Load m (p + 4 * i) = some (lanesAt a i) :=
  v128Load_of_words fun l _ => h (i + l) (by omega)

theorem v128Store_setInt32s {m : Memory} {p i : ℕ} {a : ℕ → Int32} {v : V128}
    (h : m.Accessible (p + 4 * i) 16) (hv : v = lanesAt a i) :
    v128Store (m.setInt32s p i a) (p + 4 * i) v = some (m.setInt32s p (i + 4) a) := by
  apply Memory.store_write _ h
  intro k hk
  have hdiv : (4 * i + k) / 4 = i + k / 4 := by omega
  have hmod : (4 * i + k) % 4 = k % 4 := by omega
  have hlane : (Fin.ofNat 4 (k / 4) : ℕ) = k / 4 := Nat.mod_eq_of_lt (by omega)
  rw [hdiv, hmod, hv, lanesAt, hlane]

end SimdLanes
