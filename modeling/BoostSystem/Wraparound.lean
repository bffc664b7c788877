import BoostSystem.BoostApi
import Mathlib.Data.List.Basic

/-!
# Numbers and their words

A number is its word and the window of 2^32 numbers that it lies in. The vector routes compare words
where the scalar routes compare numbers, and this is exactly when they agree.
-/

namespace BoostSystem.Api

/-- The windows are centred at the multiples of 2^32. -/
def window (n : ℤ) : ℤ := (n + 2 ^ 31) / 2 ^ 32

theorem window_add_word (n : ℤ) : n = (toInt32 n).toInt + 2 ^ 32 * window n := by
  rw [toInt_toInt32, window, Int.bmod]
  split_ifs with h
  · omega
  · omega

theorem word_bounds (n : ℤ) : -2 ^ 31 ≤ (toInt32 n).toInt ∧ (toInt32 n).toInt < 2 ^ 31 :=
  ⟨Int32.le_toInt _, Int32.toInt_lt _⟩

/-! ### Comparison -/

theorem word_beq_iff (m n : ℤ) :
    ((toInt32 m == toInt32 n) = (m == n)) ↔ (m % 2 ^ 32 = n % 2 ^ 32 → m = n) := by
  rw [Bool.eq_iff_iff, beq_iff_eq, beq_iff_eq, toInt32_eq_iff]
  constructor
  · exact fun h => h.mp
  · intro h
    exact ⟨h, fun heq => by rw [heq]⟩

/-- `compareScalar` on words. -/
def compareWords (codes1 codes2 : List ℤ) : List Bool :=
  List.zipWith (fun code1 code2 => toInt32 code1 == toInt32 code2) codes1 codes2

theorem compareWords_eq_iff (codes1 codes2 : List ℤ) :
    compareWords codes1 codes2 = compareScalar codes1 codes2 ↔
      ∀ p ∈ codes1.zip codes2, p.1 % 2 ^ 32 = p.2 % 2 ^ 32 → p.1 = p.2 := by
  rw [compareWords, compareScalar, ← List.map_uncurry_zip_eq_zipWith,
    ← List.map_uncurry_zip_eq_zipWith, List.map_inj_left]
  exact forall₂_congr fun p _ => word_beq_iff p.1 p.2

/-! ### Validation -/

/-- The word lies between the words of the bounds, the number in a window outside of theirs. -/
def WrapsIn (minValue maxValue code : ℤ) : Prop :=
  toInt32 minValue ≤ toInt32 code ∧ toInt32 code ≤ toInt32 maxValue ∧
    (window code < window minValue ∨ window maxValue < window code)

/-- The number lies between the bounds, its word not between theirs. -/
def WrapsOut (minValue maxValue code : ℤ) : Prop :=
  minValue ≤ code ∧ code ≤ maxValue ∧
    (toInt32 code < toInt32 minValue ∨ toInt32 maxValue < toInt32 code)

theorem word_range_iff (minValue maxValue code : ℤ) :
    ((decide (toInt32 code ≥ toInt32 minValue) && decide (toInt32 code ≤ toInt32 maxValue)) =
      (decide (code ≥ minValue) && decide (code ≤ maxValue))) ↔
    ¬ WrapsIn minValue maxValue code ∧ ¬ WrapsOut minValue maxValue code := by
  have hmin := window_add_word minValue
  have hmax := window_add_word maxValue
  have hcode := window_add_word code
  have hminWord := word_bounds minValue
  have hmaxWord := word_bounds maxValue
  have hcodeWord := word_bounds code
  rw [Bool.eq_iff_iff]
  simp only [Bool.and_eq_true, decide_eq_true_iff, ge_iff_le, WrapsIn, WrapsOut,
    Int32.le_iff_toInt_le, Int32.lt_iff_toInt_lt]
  omega

/-- `validateScalar` on words. -/
def validateWords (codes : List ℤ) (minValue maxValue : ℤ) : List Bool :=
  codes.map fun code =>
    decide (toInt32 code ≥ toInt32 minValue) && decide (toInt32 code ≤ toInt32 maxValue)

theorem validateWords_eq_iff (codes : List ℤ) (minValue maxValue : ℤ) :
    validateWords codes minValue maxValue = validateScalar codes minValue maxValue ↔
      ∀ code ∈ codes, ¬ WrapsIn minValue maxValue code ∧ ¬ WrapsOut minValue maxValue code := by
  rw [validateWords, validateScalar, List.map_inj_left]
  exact forall₂_congr fun code _ => word_range_iff minValue maxValue code

/-! ### Search -/

section Search

variable {α β : Type} [DecidableEq α] [DecidableEq β]

theorem indexOf_cons_self (x : α) (xs : List α) : indexOf (x :: xs) x = 0 := by
  rw [indexOf, if_pos List.mem_cons_self, List.idxOf_cons_self]
  rfl

theorem indexOf_cons_of_ne {a x : α} (hne : a ≠ x) (xs : List α) :
    indexOf (a :: xs) x = if x ∈ xs then indexOf xs x + 1 else -1 := by
  have hmem : x ∈ a :: xs ↔ x ∈ xs := by
    rw [List.mem_cons]
    exact or_iff_right hne.symm
  unfold indexOf
  split_ifs with h h' h'
  · rw [List.idxOf_cons_ne xs hne]
    exact Int.natCast_succ _
  · exact absurd (hmem.mp h) h'
  · exact absurd (hmem.mpr h') h
  · rfl

theorem indexOf_nonneg_iff (xs : List α) (x : α) : 0 ≤ indexOf xs x ↔ x ∈ xs := by
  unfold indexOf
  split_ifs with h
  · exact iff_of_true (Int.natCast_nonneg _) h
  · exact iff_of_false (by omega) h

theorem indexOf_of_not_mem {xs : List α} {x : α} (h : x ∉ xs) : indexOf xs x = -1 := if_neg h

/-- Elements in front that are not looked for move both indices. -/
theorem indexOf_cons_eq_iff {a x : α} {b y : β} (ha : a ≠ x) (hb : b ≠ y) {xs : List α}
    {ys : List β} : indexOf (a :: xs) x = indexOf (b :: ys) y ↔ indexOf xs x = indexOf ys y := by
  have hx := indexOf_nonneg_iff xs x
  have hy := indexOf_nonneg_iff ys y
  rw [indexOf_cons_of_ne ha, indexOf_cons_of_ne hb]
  split_ifs with hmem hmem' hmem'
  · omega
  · have hpos := hx.mpr hmem
    rw [indexOf_of_not_mem hmem']
    omega
  · have hpos := hy.mpr hmem'
    rw [indexOf_of_not_mem hmem]
    omega
  · rw [indexOf_of_not_mem hmem, indexOf_of_not_mem hmem']

/-- The images are found where the elements are exactly if no other element with the same image comes
first. -/
theorem indexOf_map_iff (f : α → β) (x : α) (xs : List α) :
    indexOf (xs.map f) (f x) = indexOf xs x ↔
      ∀ (i : ℕ) (y : α), xs[i]? = some y → f y = f x → y ≠ x → x ∈ xs.take i := by
  induction xs with
  | nil => exact iff_of_true rfl (by simp)
  | cons a xs ih =>
    by_cases ha : a = x
    · rw [ha, List.map_cons, indexOf_cons_self, indexOf_cons_self]
      refine iff_of_true rfl ?_
      intro i y hy _ hne
      cases i with
      | zero => exact absurd (Option.some.inj hy).symm hne
      | succ i => exact List.mem_cons_self
    · by_cases hfa : f a = f x
      · have hnonzero : (0 : ℤ) ≠ indexOf (a :: xs) x := by
          rw [indexOf_cons_of_ne ha]
          split_ifs with hmem
          · have hpos := (indexOf_nonneg_iff xs x).mpr hmem
            omega
          · omega
        rw [List.map_cons, hfa, indexOf_cons_self]
        exact iff_of_false hnonzero fun h => nomatch h 0 a rfl hfa ha
      · rw [List.map_cons, indexOf_cons_eq_iff hfa ha, ih]
        constructor
        · intro h i y hy himage hne
          cases i with
          | zero =>
            obtain rfl : a = y := Option.some.inj hy
            exact absurd himage hfa
          | succ i => exact List.mem_cons_of_mem a (h i y hy himage hne)
        · intro h i y hy himage hne
          have hmem := h (i + 1) y hy himage hne
          rw [List.take_succ_cons] at hmem
          exact (List.mem_cons.mp hmem).resolve_left (Ne.symm ha)

end Search

/-- A code is found by its word where it is found by its number. -/
theorem indexOf_words_eq_iff (codes : List ℤ) (target : ℤ) :
    indexOf (codes.map toInt32) (toInt32 target) = indexOf codes target ↔
      ∀ (i : ℕ) (code : ℤ), codes[i]? = some code → code % 2 ^ 32 = target % 2 ^ 32 →
        code ≠ target → target ∈ codes.take i := by
  rw [indexOf_map_iff]
  simp only [toInt32_eq_iff]

end BoostSystem.Api
