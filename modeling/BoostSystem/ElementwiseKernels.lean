import BoostSystem.ErrorSimd

/-!
# The kernels that map element by element

After `i` elements the output array holds the first `i` values and nothing else has changed, in the
loop over chunks as in the loop over elements.
-/

namespace BoostSystem

open LinearMemory SimdLanes

theorem storeMask_setBools {m : Memory} {results count i : ℕ} {v : ℕ → Bool} {mask : V128}
    (h : m.Accessible results count) (hi : i + 4 ≤ count)
    (hmask : ∀ l : Fin 4, (mask l != 0) = v (i + l)) :
    storeMask results i mask (m.setBools results i v) = some (m.setBools results (i + 4) v) := by
  have hcell (k : ℕ) (hk : k < 4) : m.Accessible (results + (i + k)) 1 :=
    h.mono (by omega) (by omega)
  have h₀ : (m.setBools results i v).storeBool (results + i) (mask 0 != 0) =
      some (m.setBools results (i + 1) v) :=
    Memory.storeBool_setBools (hcell 0 (by omega)) (hmask 0)
  have h₁ : (m.setBools results (i + 1) v).storeBool (results + (i + 1)) (mask 1 != 0) =
      some (m.setBools results (i + 2) v) :=
    Memory.storeBool_setBools (hcell 1 (by omega)) (hmask 1)
  have h₂ : (m.setBools results (i + 2) v).storeBool (results + (i + 2)) (mask 2 != 0) =
      some (m.setBools results (i + 3) v) :=
    Memory.storeBool_setBools (hcell 2 (by omega)) (hmask 2)
  have h₃ : (m.setBools results (i + 3) v).storeBool (results + (i + 3)) (mask 3 != 0) =
      some (m.setBools results (i + 4) v) :=
    Memory.storeBool_setBools (hcell 3 (by omega)) (hmask 3)
  simp only [storeMask, h₀, h₁, h₂, Option.bind_eq_bind, Option.bind_some]
  exact h₃

section Compare

variable {m : Memory} {codes1 codes2 results count : ℕ} {a b : ℕ → Int32}

theorem compareErrorCodesSimd_eq (ha : m.Int32s codes1 count a) (hb : m.Int32s codes2 count b)
    (hresults : m.Accessible results count) (hapart1 : Apart codes1 (4 * count) results count)
    (hapart2 : Apart codes2 (4 * count) results count) (simd128 : Bool) :
    compareErrorCodesSimd simd128 codes1 codes2 results count m =
      some (m.setBools results count fun i => a i == b i) := by
  have hinput (i : ℕ) (hi : i ≤ count) :
      (m.setBools results i fun i => a i == b i).Int32s codes1 count a ∧
        (m.setBools results i fun i => a i == b i).Int32s codes2 count b :=
    ⟨ha.write _ (hapart1.mono hi), hb.write _ (hapart2.mono hi)⟩
  have hstart : m = m.setBools results 0 fun i => a i == b i := (m.write_zero results _).symm
  conv_lhs => rw [hstart]
  apply kernelLoop_eq fun i => m.setBools results i fun i => a i == b i
  · intro i hi
    obtain ⟨ha', hb'⟩ := hinput i (by omega)
    simp only [compareChunk, v128Load_of_int32s ha' hi, v128Load_of_int32s hb' hi,
      Option.bind_eq_bind, Option.bind_some]
    apply storeMask_setBools hresults hi
    intro l
    exact mask_ne_zero _
  · intro i hi
    obtain ⟨ha', hb'⟩ := hinput i hi.le
    simp only [compareElement, ha' i hi, hb' i hi, Option.bind_eq_bind, Option.bind_some]
    exact Memory.storeBool_setBools (hresults.mono (by omega) (by omega)) rfl

end Compare

section Validate

variable {m : Memory} {codes valid count : ℕ} {a : ℕ → Int32}

theorem validateErrorRangeSimd_eq (ha : m.Int32s codes count a) (hvalid : m.Accessible valid count)
    (hapart : Apart codes (4 * count) valid count) (minVal maxVal : Int32) (simd128 : Bool) :
    validateErrorRangeSimd simd128 codes valid count minVal maxVal m =
      some (m.setBools valid count fun i => decide (a i ≥ minVal) && decide (a i ≤ maxVal)) := by
  let inRange (i : ℕ) : Bool := decide (a i ≥ minVal) && decide (a i ≤ maxVal)
  have hinput (i : ℕ) (hi : i ≤ count) : (m.setBools valid i inRange).Int32s codes count a :=
    ha.write _ (hapart.mono hi)
  have hstart : m = m.setBools valid 0 inRange := (m.write_zero valid _).symm
  conv_lhs => rw [hstart]
  apply kernelLoop_eq fun i => m.setBools valid i inRange
  · intro i hi
    simp only [validateChunk, v128Load_of_int32s (hinput i (by omega)) hi, Option.bind_eq_bind,
      Option.bind_some]
    apply storeMask_setBools hvalid hi
    intro l
    rw [v128And, i32x4Ge_splat, i32x4Le_splat, mask_and, mask_ne_zero]
    rfl
  · intro i hi
    simp only [validateElement, hinput i hi.le i hi, Option.bind_eq_bind, Option.bind_some]
    exact Memory.storeBool_setBools (hvalid.mono (by omega) (by omega)) rfl

end Validate

section Categorize

variable {m : Memory} {codes categories count : ℕ} {a : ℕ → Int32}

/-- The two selections of a chunk, the network range over the system range. -/
theorem select_category (v : V128) :
    bitselect (splat 2)
      (bitselect (splat 1) (splat 0)
        (v128And (i32x4Ge v (splat 1)) (i32x4Le v (splat 99))))
      (v128And (i32x4Ge v (splat 100)) (i32x4Le v (splat 199))) = fun l => categoryOf (v l) := by
  funext l
  have hrange (lo hi : Int32) : v128And (i32x4Ge v (splat lo)) (i32x4Le v (splat hi)) l =
      mask (decide (v l ≥ lo ∧ v l ≤ hi)) := by
    rw [v128And, i32x4Ge_splat, i32x4Le_splat, mask_and, Bool.decide_and]
  rw [bitselect_of_mask (hrange 100 199), bitselect_of_mask (hrange 1 99)]
  simp only [splat, categoryOf, decide_eq_true_eq]
  by_cases hsystem : v l ≥ 1 ∧ v l ≤ 99
  · have hnetwork : ¬ (v l ≥ 100 ∧ v l ≤ 199) := by
      rintro ⟨hge, -⟩
      exact absurd (Int32.le_trans hge hsystem.2) (by decide)
    rw [if_neg hnetwork, if_pos hsystem, if_pos hsystem]
  · rw [if_neg hsystem, if_neg hsystem]

theorem categorizeErrorCodesSimd_eq (ha : m.Int32s codes count a)
    (hcategories : m.Accessible categories (4 * count))
    (hplace : categories = codes ∨ Apart codes (4 * count) categories (4 * count))
    (simd128 : Bool) : categorizeErrorCodesSimd simd128 codes categories count m =
      some (m.setInt32s categories count fun i => categoryOf (a i)) := by
  -- what is still to be read has not been written, in place or not
  have hinput (i j : ℕ) (hij : i ≤ j) (hj : j < count) :
      (m.setInt32s categories i fun i => categoryOf (a i)).loadInt32 (codes + 4 * j) =
        some (a j) := by
    rw [← ha j hj]
    apply Memory.loadInt32_write_of_disjoint
    unfold Apart at hplace
    omega
  have hstart : m = m.setInt32s categories 0 fun i => categoryOf (a i) :=
    (m.write_zero categories _).symm
  conv_lhs => rw [hstart]
  apply kernelLoop_eq fun i => m.setInt32s categories i fun i => categoryOf (a i)
  · intro i hi
    have hload : v128Load (m.setInt32s categories i fun i => categoryOf (a i)) (codes + 4 * i) =
        some (lanesAt a i) :=
      v128Load_of_words fun l hl => hinput i (i + l) (by omega) (by omega)
    simp only [categorizeChunk, hload, select_category, Option.bind_eq_bind, Option.bind_some]
    exact v128Store_setInt32s (hcategories.mono (by omega) (by omega)) rfl
  · intro i hi
    simp only [categorizeElement, hinput i i le_rfl hi, Option.bind_eq_bind, Option.bind_some]
    exact Memory.storeInt32_setInt32s (hcategories.mono (by omega) (by omega)) rfl

end Categorize

/-- Both builds of the three kernels, on arrays whose cells past `count` need not be accessible:
one resulting memory, the scalar values in the output, every other cell as it was. -/
theorem elementwise_builds_agree (m : Memory) (count : ℕ) :
    (∀ (codes1 codes2 results : ℕ) (a b : ℕ → Int32),
      m.Int32s codes1 count a → m.Int32s codes2 count b → m.Accessible results count →
      Apart codes1 (4 * count) results count → Apart codes2 (4 * count) results count →
      ∃ m', (∀ simd128, compareErrorCodesSimd simd128 codes1 codes2 results count m = some m') ∧
        (∀ i < count, m'.cell (results + i) = some (if a i = b i then 1 else 0)) ∧
        ∀ q, q < results ∨ results + count ≤ q → m'.cell q = m.cell q) ∧
    (∀ (codes valid : ℕ) (minVal maxVal : Int32) (a : ℕ → Int32),
      m.Int32s codes count a → m.Accessible valid count →
      Apart codes (4 * count) valid count →
      ∃ m', (∀ simd128,
          validateErrorRangeSimd simd128 codes valid count minVal maxVal m = some m') ∧
        (∀ i < count,
          m'.cell (valid + i) = some (if minVal ≤ a i ∧ a i ≤ maxVal then 1 else 0)) ∧
        ∀ q, q < valid ∨ valid + count ≤ q → m'.cell q = m.cell q) ∧
    (∀ (codes categories : ℕ) (a : ℕ → Int32),
      m.Int32s codes count a → m.Accessible categories (4 * count) →
      categories = codes ∨ Apart codes (4 * count) categories (4 * count) →
      ∃ m', (∀ simd128, categorizeErrorCodesSimd simd128 codes categories count m = some m') ∧
        (∀ i < count, m'.loadInt32 (categories + 4 * i) = some (categoryOf (a i))) ∧
        ∀ q, q < categories ∨ categories + 4 * count ≤ q → m'.cell q = m.cell q) := by
  refine ⟨?_, ?_, ?_⟩
  · intro codes1 codes2 results a b ha hb hresults hapart1 hapart2
    refine ⟨_, compareErrorCodesSimd_eq ha hb hresults hapart1 hapart2, ?_, ?_⟩
    · intro i hi
      simp [Memory.setBools, Memory.write_cell_of_accessible _ hresults hi]
    · intro q hq
      exact Memory.write_cell_of_outside m _ hq
  · intro codes valid minVal maxVal a ha hvalid hapart
    refine ⟨_, validateErrorRangeSimd_eq ha hvalid hapart minVal maxVal, ?_, ?_⟩
    · intro i hi
      simp [Memory.setBools, Memory.write_cell_of_accessible _ hvalid hi]
    · intro q hq
      exact Memory.write_cell_of_outside m _ hq
  · intro codes categories a ha hcategories hplace
    refine ⟨_, categorizeErrorCodesSimd_eq ha hcategories hplace, ?_, ?_⟩
    · exact Memory.setInt32s_int32s _ hcategories
    · intro q hq
      exact Memory.write_cell_of_outside m _ hq

theorem elementwise_builds_agree_five :
    (∃ m', (∀ simd128, compareErrorCodesSimd simd128 0 20 40 5 sampleCodes = some m') ∧
      (∀ i < 5, m'.cell (40 + i) = some (if Int32.ofNat (30 * i) = Int32.ofNat (30 * (5 + i))
        then 1 else 0)) ∧
      ∀ q, q < 40 ∨ 40 + 5 ≤ q → m'.cell q = sampleCodes.cell q) ∧
    (∃ m', (∀ simd128, validateErrorRangeSimd simd128 0 40 5 (-1) 99 sampleCodes = some m') ∧
      (∀ i < 5, m'.cell (40 + i) = some (if -1 ≤ Int32.ofNat (30 * i) ∧ Int32.ofNat (30 * i) ≤ 99
        then 1 else 0)) ∧
      ∀ q, q < 40 ∨ 40 + 5 ≤ q → m'.cell q = sampleCodes.cell q) ∧
    ∃ m', (∀ simd128, categorizeErrorCodesSimd simd128 0 48 5 sampleCodes = some m') ∧
      (∀ i < 5, m'.loadInt32 (48 + 4 * i) = some (categoryOf (Int32.ofNat (30 * i)))) ∧
      ∀ q, q < 48 ∨ 48 + 4 * 5 ≤ q → m'.cell q = sampleCodes.cell q := by
  obtain ⟨hcompare, hvalidate, hcategorize⟩ := elementwise_builds_agree sampleCodes 5
  refine ⟨?_, ?_, ?_⟩
  · exact hcompare 0 20 40 (fun i => Int32.ofNat (30 * i)) (fun i => Int32.ofNat (30 * (5 + i)))
      (by decide) (by decide) (by decide) (by decide) (by decide)
  · exact hvalidate 0 40 (-1) 99 (fun i => Int32.ofNat (30 * i)) (by decide) (by decide) (by decide)
  · exact hcategorize 0 48 (fun i => Int32.ofNat (30 * i)) (by decide) (by decide)
      (Or.inr (by decide))

end BoostSystem
