import Mathlib.Algebra.Group.Nat.Defs
import Mathlib.Data.Nat.Init
import Mathlib.Logic.Function.Basic
import Mathlib.Tactic.Common

/-!
# Byte-addressed memory of 32-bit addresses

A cell that is not accessible has no value: loading or storing it fails. Words are little-endian.
`write` is what any number of stores to a range comes to, whatever order they are made in.
-/

namespace LinearMemory

/-- The `n` cells at `p` and the `k` cells at `q` do not overlap. -/
def Apart (p n q k : ℕ) : Prop := p + n ≤ q ∨ q + k ≤ p

instance (p n q k : ℕ) : Decidable (Apart p n q k) := inferInstanceAs (Decidable (_ ∨ _))

theorem Apart.mono {p n q k j : ℕ} (h : Apart p n q k) (hj : j ≤ k) : Apart p n q j :=
  Or.imp_right (fun hle => by omega) h

theorem Apart.shrink {p n q k j : ℕ} (h : Apart p n q k) (hj : j ≤ n) : Apart p j q k :=
  Or.imp_left (fun hle => by omega) h

structure Memory where
  cell : ℕ → Option UInt8
  bounded : ∀ p, 2 ^ 32 ≤ p → cell p = none

namespace Memory

@[ext] theorem ext {m m' : Memory} (h : ∀ p, m.cell p = m'.cell p) : m = m' := by
  cases m
  cases m'
  congr
  exact funext h

/-- The memory whose accessible cells are the first `size`. -/
def ofSize (size : ℕ) (hsize : size ≤ 2 ^ 32) (byte : ℕ → UInt8) : Memory where
  cell p := if p < size then some (byte p) else none
  bounded p hp := if_neg (by omega)

def Accessible (m : Memory) (p n : ℕ) : Prop := ∀ k < n, (m.cell (p + k)).isSome = true

instance (m : Memory) (p n : ℕ) : Decidable (m.Accessible p n) :=
  inferInstanceAs (Decidable (∀ k < n, (m.cell (p + k)).isSome = true))

/-- The cells from `p` to `p + n` overwritten, as far as they are accessible. -/
def write (m : Memory) (p n : ℕ) (f : ℕ → UInt8) : Memory where
  cell q := if p ≤ q ∧ q < p + n then (m.cell q).map fun _ => f (q - p) else m.cell q
  bounded q hq := by
    rw [m.bounded q hq]
    split_ifs <;> rfl

def store (m : Memory) (p n : ℕ) (f : ℕ → UInt8) : Option Memory :=
  if m.Accessible p n then some (m.write p n f) else none

theorem Accessible.lt {m : Memory} {p n k : ℕ} (h : m.Accessible p n) (hk : k < n) :
    p + k < 2 ^ 32 := by
  by_contra hge
  have hnone := m.bounded (p + k) (by omega)
  have hsome := h k hk
  simp [hnone] at hsome

theorem Accessible.mono {m : Memory} {p n q k : ℕ} (h : m.Accessible p n) (hq : p ≤ q)
    (hk : q + k ≤ p + n) : m.Accessible q k := by
  intro j hj
  have hcell := h (q - p + j) (by omega)
  rwa [← Nat.add_assoc, Nat.add_sub_cancel' hq] at hcell

theorem isSome_write (m : Memory) (p n : ℕ) (f : ℕ → UInt8) (q : ℕ) :
    ((m.write p n f).cell q).isSome = (m.cell q).isSome := by
  unfold write
  dsimp only
  split_ifs
  · rw [Option.isSome_map]
  · rfl

@[simp] theorem accessible_write (m : Memory) (p n : ℕ) (f : ℕ → UInt8) (q k : ℕ) :
    (m.write p n f).Accessible q k ↔ m.Accessible q k := by
  refine forall₂_congr fun j _ => ?_
  rw [isSome_write]

theorem write_cell_of_outside (m : Memory) {p n q : ℕ} (f : ℕ → UInt8)
    (hq : q < p ∨ p + n ≤ q) : (m.write p n f).cell q = m.cell q :=
  if_neg (by omega)

@[simp] theorem write_zero (m : Memory) (p : ℕ) (f : ℕ → UInt8) : m.write p 0 f = m :=
  ext fun _ => write_cell_of_outside m f (by omega)

theorem write_cell_of_accessible {m : Memory} {p n k : ℕ} (f : ℕ → UInt8) (h : m.Accessible p n)
    (hk : k < n) : (m.write p n f).cell (p + k) = some (f k) := by
  obtain ⟨b, hb⟩ := Option.isSome_iff_exists.mp (h k hk)
  simp [write, hb, hk]

theorem write_congr (m : Memory) {p n : ℕ} {f g : ℕ → UInt8} (h : ∀ k < n, f k = g k) :
    m.write p n f = m.write p n g := by
  ext1 q
  unfold write
  dsimp only
  split_ifs with hq
  · rw [h (q - p) (by omega)]
  · rfl

/-- Two writes to consecutive ranges are one. -/
theorem write_append (m : Memory) (p n k : ℕ) (f : ℕ → UInt8) :
    (m.write p n f).write (p + n) k (fun j => f (n + j)) = m.write p (n + k) f := by
  ext1 q
  unfold write
  dsimp only
  by_cases hlow : p ≤ q ∧ q < p + n
  · rw [if_neg (by omega), if_pos hlow, if_pos (by omega)]
  · by_cases hhigh : p + n ≤ q ∧ q < p + n + k
    · have hindex : n + (q - (p + n)) = q - p := by omega
      rw [if_pos hhigh, if_neg hlow, if_pos (by omega), hindex]
    · rw [if_neg hhigh, if_neg hlow, if_neg (by omega)]

/-- A write inside a range already written. -/
theorem write_write_inside (m : Memory) {p n j k : ℕ} (hjk : j + k ≤ n) (f g : ℕ → UInt8) :
    (m.write p n f).write (p + j) k g =
      m.write p n fun x => if j ≤ x ∧ x < j + k then g (x - j) else f x := by
  ext1 q
  unfold write
  dsimp only
  by_cases hinner : p + j ≤ q ∧ q < p + j + k
  · have hindex : q - (p + j) = q - p - j := by omega
    rw [if_pos hinner, if_pos (by omega), if_pos (by omega), if_pos (by omega), Option.map_map,
      hindex]
    rfl
  · rw [if_neg hinner]
    by_cases houter : p ≤ q ∧ q < p + n
    · rw [if_pos houter, if_pos houter, if_neg (by omega)]
    · rw [if_neg houter, if_neg houter]

/-- Storing next to what has been written extends it. -/
theorem store_write {m : Memory} {p n k : ℕ} {f : ℕ → UInt8} (g : ℕ → UInt8)
    (h : m.Accessible (p + n) k) (hg : ∀ j < k, g j = f (n + j)) :
    (m.write p n f).store (p + n) k g = some (m.write p (n + k) f) := by
  rw [store, if_pos ((accessible_write m p n f (p + n) k).mpr h), ← write_append,
    write_congr _ hg]

end Memory

/-! ### Words -/

/-- Byte `k` of a word. -/
def int32Byte (x : Int32) (k : ℕ) : UInt8 := UInt8.ofNat (x.toUInt32.toNat / 256 ^ k)

def int32OfBytes (b₀ b₁ b₂ b₃ : UInt8) : Int32 :=
  (UInt32.ofNat (b₀.toNat + 256 * b₁.toNat + 65536 * b₂.toNat + 16777216 * b₃.toNat)).toInt32

theorem int32OfBytes_int32Byte (x : Int32) :
    int32OfBytes (int32Byte x 0) (int32Byte x 1) (int32Byte x 2) (int32Byte x 3) = x := by
  have hlt : x.toUInt32.toNat < 2 ^ 32 := x.toUInt32.toNat_lt
  have hsum : (int32Byte x 0).toNat + 256 * (int32Byte x 1).toNat + 65536 * (int32Byte x 2).toNat +
      16777216 * (int32Byte x 3).toNat = x.toUInt32.toNat := by
    simp only [int32Byte, UInt8.toNat_ofNat']
    omega
  rw [int32OfBytes, hsum, UInt32.ofNat_toNat, Int32.toInt32_toUInt32]

namespace Memory

def loadInt32 (m : Memory) (p : ℕ) : Option Int32 := do
  let b₀ ← m.cell p
  let b₁ ← m.cell (p + 1)
  let b₂ ← m.cell (p + 2)
  let b₃ ← m.cell (p + 3)
  return int32OfBytes b₀ b₁ b₂ b₃

def storeBool (m : Memory) (p : ℕ) (b : Bool) : Option Memory :=
  m.store p 1 fun _ => if b then 1 else 0

def storeInt32 (m : Memory) (p : ℕ) (x : Int32) : Option Memory := m.store p 4 (int32Byte x)

/-- The array of `n` bytes at `p` set to `v`, one and zero. -/
def setBools (m : Memory) (p n : ℕ) (v : ℕ → Bool) : Memory :=
  m.write p n fun k => if v k then 1 else 0

/-- The array of `n` words at `p` set to `v`. -/
def setInt32s (m : Memory) (p n : ℕ) (v : ℕ → Int32) : Memory :=
  m.write p (4 * n) fun k => int32Byte (v (k / 4)) (k % 4)

/-- The array of `n` words at `p` is accessible and holds `a`. -/
def Int32s (m : Memory) (p n : ℕ) (a : ℕ → Int32) : Prop :=
  ∀ i < n, m.loadInt32 (p + 4 * i) = some (a i)

instance (m : Memory) (p n : ℕ) (a : ℕ → Int32) : Decidable (m.Int32s p n a) :=
  inferInstanceAs (Decidable (∀ i < n, m.loadInt32 (p + 4 * i) = some (a i)))

theorem loadInt32_eq_some {m : Memory} {p : ℕ} {x : Int32} (h : ∀ k < 4, m.cell (p + k) =
    some (int32Byte x k)) : m.loadInt32 p = some x := by
  have h₀ := h 0 (by omega)
  rw [Nat.add_zero] at h₀
  simp [loadInt32, h₀, h 1 (by omega), h 2 (by omega), h 3 (by omega), int32OfBytes_int32Byte]

theorem loadInt32_congr {m m' : Memory} {p : ℕ} (h : ∀ k < 4, m.cell (p + k) = m'.cell (p + k)) :
    m.loadInt32 p = m'.loadInt32 p := by
  have h₀ := h 0 (by omega)
  rw [Nat.add_zero] at h₀
  simp only [loadInt32, h₀, h 1 (by omega), h 2 (by omega), h 3 (by omega)]

theorem accessible_of_loadInt32 {m : Memory} {p : ℕ} {x : Int32} (h : m.loadInt32 p = some x) :
    m.Accessible p 4 := by
  unfold loadInt32 at h
  simp only [Option.bind_eq_bind, Option.bind_eq_some_iff] at h
  obtain ⟨b₀, h₀, b₁, h₁, b₂, h₂, b₃, h₃, -⟩ := h
  intro k hk
  rcases by omega with rfl | rfl | rfl | rfl : k = 0 ∨ k = 1 ∨ k = 2 ∨ k = 3
  · simp [h₀]
  · simp [h₁]
  · simp [h₂]
  · simp [h₃]

theorem Int32s.mono {m : Memory} {p n k : ℕ} {a : ℕ → Int32} (h : m.Int32s p n a) (hk : k ≤ n) :
    m.Int32s p k a := fun i hi => h i (Nat.lt_of_lt_of_le hi hk)

theorem Int32s.accessible {m : Memory} {p n : ℕ} {a : ℕ → Int32} (h : m.Int32s p n a) :
    m.Accessible p (4 * n) := by
  intro k hk
  have hword := accessible_of_loadInt32 (h (k / 4) (by omega)) (k % 4) (by omega)
  have haddr : p + 4 * (k / 4) + k % 4 = p + k := by omega
  rwa [haddr] at hword

theorem Int32s.congr {m m' : Memory} {p n : ℕ} {a : ℕ → Int32} (h : m.Int32s p n a)
    (hcell : ∀ k < 4 * n, m'.cell (p + k) = m.cell (p + k)) : m'.Int32s p n a := by
  intro i hi
  rw [← h i hi]
  apply loadInt32_congr
  intro k hk
  rw [Nat.add_assoc]
  exact hcell (4 * i + k) (by omega)

/-- An array of words fits in memory. -/
theorem Int32s.le {m : Memory} {p n : ℕ} {a : ℕ → Int32} (h : m.Int32s p n a) : n ≤ 2 ^ 30 := by
  rcases Nat.eq_zero_or_pos n with hzero | hpos
  · omega
  · have hlast := h.accessible.lt (k := 4 * n - 1) (by omega)
    omega

theorem loadInt32_write_of_disjoint (m : Memory) {p n q : ℕ} (f : ℕ → UInt8)
    (h : q + 4 ≤ p ∨ p + n ≤ q) : (m.write p n f).loadInt32 q = m.loadInt32 q :=
  loadInt32_congr fun _ _ => write_cell_of_outside m f (by omega)

/-- A write elsewhere leaves an array as it is. -/
theorem Int32s.write {m : Memory} {p n : ℕ} {a : ℕ → Int32} (ha : m.Int32s p n a) {q k : ℕ}
    (f : ℕ → UInt8) (h : Apart p (4 * n) q k) : (m.write q k f).Int32s p n a := by
  intro i hi
  unfold Apart at h
  rw [loadInt32_write_of_disjoint m f (by omega)]
  exact ha i hi

theorem setInt32s_int32s {m : Memory} {p n : ℕ} (v : ℕ → Int32) (h : m.Accessible p (4 * n)) :
    (m.setInt32s p n v).Int32s p n v := by
  intro i hi
  apply loadInt32_eq_some
  intro k hk
  have hdiv : (4 * i + k) / 4 = i := by omega
  have hmod : (4 * i + k) % 4 = k := by omega
  rw [Nat.add_assoc, setInt32s, write_cell_of_accessible _ h (by omega), hdiv, hmod]

theorem accessible_setInt32s (m : Memory) (p n : ℕ) (v : ℕ → Int32) (q k : ℕ) :
    (m.setInt32s p n v).Accessible q k ↔ m.Accessible q k := accessible_write m p (4 * n) _ q k

theorem Int32s.setInt32s {m : Memory} {p n : ℕ} {a : ℕ → Int32} (ha : m.Int32s p n a) {q k : ℕ}
    (v : ℕ → Int32) (h : Apart p (4 * n) q (4 * k)) : (m.setInt32s q k v).Int32s p n a :=
  ha.write _ h

theorem storeBool_setBools {m : Memory} {p i : ℕ} {v : ℕ → Bool} {b : Bool}
    (h : m.Accessible (p + i) 1) (hb : b = v i) :
    (m.setBools p i v).storeBool (p + i) b = some (m.setBools p (i + 1) v) := by
  apply store_write _ h
  intro j hj
  obtain rfl : j = 0 := by omega
  rw [hb, Nat.add_zero]

theorem storeInt32_setInt32s {m : Memory} {p i : ℕ} {v : ℕ → Int32} {x : Int32}
    (h : m.Accessible (p + 4 * i) 4) (hx : x = v i) :
    (m.setInt32s p i v).storeInt32 (p + 4 * i) x = some (m.setInt32s p (i + 1) v) := by
  apply store_write _ h
  intro j hj
  have hdiv : (4 * i + j) / 4 = i := by omega
  have hmod : (4 * i + j) % 4 = j := by omega
  rw [hdiv, hmod, hx]

theorem setInt32s_congr (m : Memory) {p n : ℕ} {v w : ℕ → Int32} (h : ∀ i < n, v i = w i) :
    m.setInt32s p n v = m.setInt32s p n w :=
  write_congr m fun k _ => by rw [h (k / 4) (by omega)]

theorem setInt32s_setInt32s (m : Memory) (p n : ℕ) (v w : ℕ → Int32) :
    (m.setInt32s p n v).setInt32s p n w = m.setInt32s p n w := by
  have hwhole : 0 + 4 * n ≤ 4 * n := by omega
  refine (write_write_inside m hwhole _ _).trans (write_congr m fun k hk => ?_)
  rw [if_pos (by omega), Nat.sub_zero]

/-- Storing one word of an array that has been set. -/
theorem storeInt32_update {m : Memory} {p n i : ℕ} (v : ℕ → Int32) (x : Int32) (hi : i < n)
    (h : m.Accessible p (4 * n)) : (m.setInt32s p n v).storeInt32 (p + 4 * i) x =
      some (m.setInt32s p n (Function.update v i x)) := by
  have haccessible : (m.setInt32s p n v).Accessible (p + 4 * i) 4 :=
    (accessible_setInt32s m p n v _ _).mpr (h.mono (by omega) (by omega))
  rw [storeInt32, store, if_pos haccessible, setInt32s, write_write_inside m (by omega)]
  apply congrArg some
  apply write_congr
  intro k _
  by_cases hk : k / 4 = i
  · have hindex : k - 4 * i = k % 4 := by omega
    rw [if_pos (by omega), hindex, hk, Function.update_self]
  · rw [if_neg (by omega), Function.update_of_ne hk]

end Memory

end LinearMemory
