import BoostSystem.ElementwiseKernels
import Mathlib.Data.Nat.Count

/-!
# The counting kernel

Each lane of a counter has counted its own quarter of the chunks, the counts of the lanes add up to
the count of the prefix, and the tail goes on from there. No count exceeds the length of an array
that fits in memory, so nothing overflows.
-/

namespace BoostSystem

open LinearMemory Loops SimdLanes

/-- The elements before `i` that equal `k`. -/
def tally (a : ℕ → Int32) (k : Int32) (i : ℕ) : ℕ := Nat.count (fun j => a j = k) i

/-- The elements in lane `l` of the first `n` chunks that equal `k`. -/
def laneTally (a : ℕ → Int32) (k : Int32) (n : ℕ) (l : Fin 4) : ℕ :=
  Nat.count (fun j => a (4 * j + l) = k) n

theorem tally_le (a : ℕ → Int32) (k : Int32) (i : ℕ) : tally a k i ≤ i := Nat.count_le _

theorem tally_succ (a : ℕ → Int32) (k : Int32) (i : ℕ) :
    tally a k (i + 1) = tally a k i + if a i = k then 1 else 0 := Nat.count_succ _ i

theorem laneTally_le (a : ℕ → Int32) (k : Int32) (n : ℕ) (l : Fin 4) : laneTally a k n l ≤ n :=
  Nat.count_le _

theorem laneTally_succ (a : ℕ → Int32) (k : Int32) (n : ℕ) (l : Fin 4) :
    laneTally a k (n + 1) l = laneTally a k n l + if a (4 * n + l) = k then 1 else 0 :=
  Nat.count_succ _ n

/-- The lanes add up. -/
theorem sum_laneTally (a : ℕ → Int32) (k : Int32) (n : ℕ) :
    laneTally a k n 0 + laneTally a k n 1 + laneTally a k n 2 + laneTally a k n 3 =
      tally a k (4 * n) := by
  induction n with
  | zero => rfl
  | succ n ih =>
    have hprefix : tally a k (4 * (n + 1)) = tally a k (4 * n) + (if a (4 * n) = k then 1 else 0) +
        (if a (4 * n + 1) = k then 1 else 0) + (if a (4 * n + 2) = k then 1 else 0) +
        (if a (4 * n + 3) = k then 1 else 0) := by
      rw [← tally_succ, ← tally_succ, ← tally_succ, ← tally_succ]
      rfl
    have h₀ : laneTally a k (n + 1) 0 = laneTally a k n 0 + if a (4 * n) = k then 1 else 0 :=
      laneTally_succ a k n 0
    have h₁ : laneTally a k (n + 1) 1 = laneTally a k n 1 + if a (4 * n + 1) = k then 1 else 0 :=
      laneTally_succ a k n 1
    have h₂ : laneTally a k (n + 1) 2 = laneTally a k n 2 + if a (4 * n + 2) = k then 1 else 0 :=
      laneTally_succ a k n 2
    have h₃ : laneTally a k (n + 1) 3 = laneTally a k n 3 + if a (4 * n + 3) = k then 1 else 0 :=
      laneTally_succ a k n 3
    omega

/-! ### Additions that do not overflow -/

theorem intAdd_ofNat {x y : ℕ} (h : x + y < 2 ^ 31) :
    intAdd (Int32.ofNat x) (Int32.ofNat y) = some (Int32.ofNat (x + y)) := by
  have hx : (Int32.ofNat x).toInt = x := Int32.toInt_ofNat_of_lt (by omega)
  have hy : (Int32.ofNat y).toInt = y := Int32.toInt_ofNat_of_lt (by omega)
  rw [intAdd, hx, hy, if_pos (by omega), Int32.ofNat_add]

theorem horizontalSum_laneTally (a : ℕ → Int32) (k : Int32) {n : ℕ} (hn : 4 * n < 2 ^ 31) :
    horizontalSum (fun l => Int32.ofNat (laneTally a k n l)) =
      some (Int32.ofNat (tally a k (4 * n))) := by
  have hle (l : Fin 4) := laneTally_le a k n l
  have h₀ := hle 0
  have h₁ := hle 1
  have h₂ := hle 2
  have h₃ := hle 3
  simp only [horizontalSum, intAdd_ofNat (show laneTally a k n 0 + laneTally a k n 1 < 2 ^ 31 by omega),
    Option.bind_eq_bind, Option.bind_some]
  rw [intAdd_ofNat (by omega), Option.bind_some, intAdd_ofNat (by omega), sum_laneTally]

/-! ### The loop over the chunks -/

/-- The lane counters after `n` chunks. -/
def laneCounts (a : ℕ → Int32) (n : ℕ) : LaneCounts where
  unknownCount l := Int32.ofNat (laneTally a 0 n l)
  systemCount l := Int32.ofNat (laneTally a 1 n l)
  networkCount l := Int32.ofNat (laneTally a 2 n l)

theorem addSelected_laneTally (a : ℕ → Int32) (k : Int32) (n : ℕ) :
    i32x4Add (fun l => Int32.ofNat (laneTally a k n l))
      (bitselect (splat 1) (splat 0) (i32x4Eq (lanesAt a (4 * n)) (splat k))) =
      fun l => Int32.ofNat (laneTally a k (n + 1) l) := by
  funext l
  rw [i32x4Add, bitselect_of_mask (i32x4Eq_splat _ _ _), laneTally_succ, Int32.ofNat_add]
  by_cases hk : a (4 * n + l) = k
  · simp [lanesAt, splat, hk]
  · simp [lanesAt, splat, hk]

section Run

variable {m : Memory} {categories counts count : ℕ} {a : ℕ → Int32}

theorem countLanes_eq (ha : m.Int32s categories count a) :
    countLanes categories count m = some (laneCounts a (count / 4)) := by
  have hchunk : ∀ n < count / 4, countChunk categories m (4 * n) (laneCounts a (4 * n / 4)) =
      some (laneCounts a ((4 * n + 4) / 4)) := by
    intro n hn
    have hdiv : 4 * n / 4 = n := by omega
    have hnext : (4 * n + 4) / 4 = n + 1 := by omega
    rw [hdiv, hnext]
    simp only [countChunk, v128Load_of_int32s ha (show 4 * n + 4 ≤ count by omega), laneCounts,
      addSelected_laneTally, Option.bind_eq_bind, Option.bind_some]
    rfl
  have hloop := forLoop_chunks_eq (fun i => laneCounts a (i / 4)) hchunk
  have hdiv : count / 4 * 4 / 4 = count / 4 := by omega
  rwa [hdiv] at hloop

/-- What `counts` holds once `i` elements have been counted. -/
def tallies (a : ℕ → Int32) (i k : ℕ) : Int32 := Int32.ofNat (tally a (Int32.ofNat k) i)

theorem storeCounts_tallies (hcounts : m.Accessible counts 12) (i : ℕ) :
    storeCounts counts (Int32.ofNat (tally a 0 i)) (Int32.ofNat (tally a 1 i))
      (Int32.ofNat (tally a 2 i)) m = some (m.setInt32s counts 3 (tallies a i)) := by
  have hstart : m.setInt32s counts 0 (tallies a i) = m := m.write_zero counts _
  have h₀ : (m.setInt32s counts 0 (tallies a i)).storeInt32 counts (Int32.ofNat (tally a 0 i)) =
      some (m.setInt32s counts 1 (tallies a i)) :=
    Memory.storeInt32_setInt32s (hcounts.mono (by omega) (by omega)) rfl
  rw [hstart] at h₀
  have h₁ : (m.setInt32s counts 1 (tallies a i)).storeInt32 (counts + 4)
      (Int32.ofNat (tally a 1 i)) = some (m.setInt32s counts 2 (tallies a i)) :=
    Memory.storeInt32_setInt32s (hcounts.mono (by omega) (by omega)) rfl
  have h₂ : (m.setInt32s counts 2 (tallies a i)).storeInt32 (counts + 8)
      (Int32.ofNat (tally a 2 i)) = some (m.setInt32s counts 3 (tallies a i)) :=
    Memory.storeInt32_setInt32s (hcounts.mono (by omega) (by omega)) rfl
  simp only [storeCounts, h₀, h₁, Option.bind_eq_bind, Option.bind_some]
  exact h₂

/-- The three categories, as an index and as a word. -/
theorem exists_category {x : Int32} (h : x ≥ 0 ∧ x ≤ 2) :
    x.toNatClampNeg < 3 ∧ Int32.ofNat x.toNatClampNeg = x := by
  have hlow : x.toInt ≥ 0 := Int32.le_iff_toInt_le.mp h.1
  have hhigh : x.toInt ≤ 2 := Int32.le_iff_toInt_le.mp h.2
  refine ⟨?_, Int32.ofNat_toNatClampNeg x h.1⟩
  unfold Int32.toNatClampNeg
  omega

theorem tallies_succ (i k : ℕ) : tallies a (i + 1) k =
    if a i = Int32.ofNat k then Int32.ofNat (tally a (Int32.ofNat k) i + 1) else tallies a i k := by
  unfold tallies
  rw [tally_succ]
  split_ifs <;> rfl

theorem countElement_tallies (ha : m.Int32s categories count a) (hcounts : m.Accessible counts 12)
    (hapart : Apart categories (4 * count) counts 12) {i : ℕ} (hi : i < count) :
    countElement categories counts i (m.setInt32s counts 3 (tallies a i)) =
      some (m.setInt32s counts 3 (tallies a (i + 1))) := by
  have hload : (m.setInt32s counts 3 (tallies a i)).loadInt32 (categories + 4 * i) = some (a i) :=
    ha.write _ hapart i hi
  simp only [countElement, hload, Option.bind_eq_bind, Option.bind_some]
  split_ifs with hcategory
  · obtain ⟨hlt, hword⟩ := exists_category hcategory
    have hcount := ha.le
    have hle := tally_le a (a i) i
    have hcounter : (m.setInt32s counts 3 (tallies a i)).loadInt32
        (counts + 4 * (a i).toNatClampNeg) = some (Int32.ofNat (tally a (a i) i)) := by
      rw [Memory.setInt32s_int32s (tallies a i) hcounts _ hlt, tallies, hword]
    have hadd : intAdd (Int32.ofNat (tally a (a i) i)) 1 =
        some (Int32.ofNat (tally a (a i) i + 1)) := intAdd_ofNat (y := 1) (by omega)
    rw [hcounter, Option.bind_some, hadd, Option.bind_some,
      Memory.storeInt32_update _ _ hlt hcounts]
    apply congrArg some
    apply Memory.setInt32s_congr
    intro k hk
    rw [tallies_succ i k]
    by_cases heq : k = (a i).toNatClampNeg
    · rw [heq, Function.update_self, hword, if_pos rfl]
    · rw [Function.update_of_ne heq, if_neg]
      intro hsame
      apply heq
      rw [hsame, Int32.toNatClampNeg_ofNat_of_lt (by omega)]
  · apply congrArg some
    apply Memory.setInt32s_congr
    intro k hk
    rw [tallies_succ i k, if_neg]
    intro hsame
    apply hcategory
    rw [hsame]
    rcases by omega with rfl | rfl | rfl : k = 0 ∨ k = 1 ∨ k = 2
    all_goals decide

/-- Both builds leave the three tallies in `counts`. -/
theorem countErrorsByCategorySimd_eq (ha : m.Int32s categories count a)
    (hcounts : m.Accessible counts 12) (hapart : Apart categories (4 * count) counts 12)
    (simd128 : Bool) : countErrorsByCategorySimd simd128 categories count counts m =
      some (m.setInt32s counts 3 (tallies a count)) := by
  have hzero : storeCounts counts 0 0 0 m = some (m.setInt32s counts 3 (tallies a 0)) :=
    storeCounts_tallies hcounts 0
  have helements (start : ℕ) (hstart : start ≤ count) :
      forLoop start count 1 (countElement categories counts)
        (m.setInt32s counts 3 (tallies a start)) = some (m.setInt32s counts 3 (tallies a count)) :=
    forLoop_eq (fun i => m.setInt32s counts 3 (tallies a i)) hstart
      fun i _ hi => countElement_tallies ha hcounts hapart hi
  simp only [countErrorsByCategorySimd, hzero, Option.bind_eq_bind, Option.bind_some]
  cases simd128 with
  | false => exact helements 0 count.zero_le
  | true =>
    have hcount := ha.le
    have hlanes := countLanes_eq (ha.setInt32s (k := 3) (tallies a 0) hapart)
    have hsum (k : Int32) : horizontalSum (fun l => Int32.ofNat (laneTally a k (count / 4) l)) =
        some (Int32.ofNat (tally a k (count / 4 * 4))) := by
      rw [Nat.mul_comm]
      exact horizontalSum_laneTally a k (by omega)
    have hstored : storeCounts counts (Int32.ofNat (tally a 0 (count / 4 * 4)))
        (Int32.ofNat (tally a 1 (count / 4 * 4))) (Int32.ofNat (tally a 2 (count / 4 * 4)))
        (m.setInt32s counts 3 (tallies a 0)) =
          some (m.setInt32s counts 3 (tallies a (count / 4 * 4))) := by
      rw [storeCounts_tallies ((Memory.accessible_setInt32s m _ _ _ _ _).mpr hcounts),
        Memory.setInt32s_setInt32s]
    simp only [if_true, hlanes, Option.bind_some, laneCounts, hsum, hstored]
    exact helements _ (by omega)

end Run

/-- A classification into three categories misses nothing. -/
theorem sum_tally (a : ℕ → Int32) (n : ℕ) (h : ∀ i < n, a i = 0 ∨ a i = 1 ∨ a i = 2) :
    tally a 0 n + tally a 1 n + tally a 2 n = n := by
  induction n with
  | zero => rfl
  | succ n ih =>
    have hprefix := ih fun i hi => h i (by omega)
    rw [tally_succ, tally_succ, tally_succ]
    rcases h n n.lt_succ_self with hn | hn | hn
    all_goals
      simp [hn]
      omega

theorem categoryOf_cases (code : Int32) :
    categoryOf code = 0 ∨ categoryOf code = 1 ∨ categoryOf code = 2 := by
  unfold categoryOf
  split_ifs
  · exact Or.inr (Or.inl rfl)
  · exact Or.inr (Or.inr rfl)
  · exact Or.inl rfl

theorem tally_toInt (a : ℕ → Int32) (k : Int32) {n : ℕ} (hn : n ≤ 2 ^ 30) :
    (Int32.ofNat (tally a k n)).toInt = tally a k n := by
  have hle := tally_le a k n
  exact Int32.toInt_ofNat_of_lt (by omega)

theorem laneTally_toInt (a : ℕ → Int32) (k : Int32) {n : ℕ} (hn : n ≤ 2 ^ 30) (l : Fin 4) :
    (Int32.ofNat (laneTally a k n l)).toInt = laneTally a k n l := by
  have hle := laneTally_le a k n l
  exact Int32.toInt_ofNat_of_lt (by omega)

/-- Exact counts in both builds, of every prefix in every lane, and a full count of what the
categorisation has written, over the codes or apart from them. The additions that could overflow fail when they do. -/
theorem category_counts_exact :
    (∀ (m : Memory) (categories counts count : ℕ) (a : ℕ → Int32),
      m.Int32s categories count a → m.Accessible counts 12 →
      Apart categories (4 * count) counts 12 →
      (∃ m', (∀ simd128, countErrorsByCategorySimd simd128 categories count counts m = some m') ∧
        (∀ k < 3, ∃ n, m'.loadInt32 (counts + 4 * k) = some n ∧
          n.toInt = Nat.count (fun i => a i = Int32.ofNat k) count) ∧
        ∀ q, q < counts ∨ counts + 12 ≤ q → m'.cell q = m.cell q) ∧
      ∀ done ≤ count, ∃ n, countLanes categories done m = some n ∧ ∀ l : Fin 4,
        (n.unknownCount l).toInt = Nat.count (fun j => a (4 * j + l) = 0) (done / 4) ∧
        (n.systemCount l).toInt = Nat.count (fun j => a (4 * j + l) = 1) (done / 4) ∧
        (n.networkCount l).toInt = Nat.count (fun j => a (4 * j + l) = 2) (done / 4)) ∧
    ∀ (m : Memory) (codes categories counts count : ℕ) (a : ℕ → Int32),
      m.Int32s codes count a → m.Accessible categories (4 * count) → m.Accessible counts 12 →
      (categories = codes ∨ Apart codes (4 * count) categories (4 * count)) →
      Apart categories (4 * count) counts 12 →
      ∀ simd128 simd128', ∃ m₁ m₂ n₀ n₁ n₂,
        categorizeErrorCodesSimd simd128 codes categories count m = some m₁ ∧
        countErrorsByCategorySimd simd128' categories count counts m₁ = some m₂ ∧
        m₂.loadInt32 counts = some n₀ ∧ m₂.loadInt32 (counts + 4) = some n₁ ∧
        m₂.loadInt32 (counts + 8) = some n₂ ∧ n₀.toInt + n₁.toInt + n₂.toInt = count := by
  refine ⟨?_, ?_⟩
  · intro m categories counts count a ha hcounts hapart
    have hcount := ha.le
    refine ⟨⟨_, countErrorsByCategorySimd_eq ha hcounts hapart, ?_, ?_⟩, ?_⟩
    · intro k hk
      exact ⟨_, Memory.setInt32s_int32s _ hcounts k hk, tally_toInt a _ hcount⟩
    · intro q hq
      exact Memory.write_cell_of_outside m _ hq
    · intro done hdone
      have hchunks : done / 4 ≤ 2 ^ 30 := by omega
      refine ⟨_, countLanes_eq (ha.mono hdone), ?_⟩
      intro l
      exact ⟨laneTally_toInt a 0 hchunks l, laneTally_toInt a 1 hchunks l,
        laneTally_toInt a 2 hchunks l⟩
  · intro m codes categories counts count a ha hcategories hcounts hplace hapart simd128 simd128'
    have hcount := ha.le
    have hcounts' : (m.setInt32s categories count fun i => categoryOf (a i)).Accessible counts 12 :=
      (Memory.accessible_setInt32s m _ _ _ _ _).mpr hcounts
    have hread := Memory.setInt32s_int32s (n := 3) (tallies (fun i => categoryOf (a i)) count) hcounts'
    have hsum := sum_tally (fun i => categoryOf (a i)) count fun i _ => categoryOf_cases (a i)
    refine ⟨_, _, _, _, _, categorizeErrorCodesSimd_eq ha hcategories hplace simd128,
      countErrorsByCategorySimd_eq (Memory.setInt32s_int32s _ hcategories) hcounts' hapart simd128',
      hread 0 (by omega), hread 1 (by omega), hread 2 (by omega), ?_⟩
    have h₀ := tally_toInt (fun i => categoryOf (a i)) 0 hcount
    have h₁ := tally_toInt (fun i => categoryOf (a i)) 1 hcount
    have h₂ := tally_toInt (fun i => categoryOf (a i)) 2 hcount
    change (Int32.ofNat (tally _ 0 count)).toInt + (Int32.ofNat (tally _ 1 count)).toInt +
      (Int32.ofNat (tally _ 2 count)).toInt = count
    rw [h₀, h₁, h₂]
    exact_mod_cast hsum

/-- The sample's codes, categorised in place and counted. -/
theorem category_counts_exact_five :
    ((∃ m', (∀ simd128, countErrorsByCategorySimd simd128 0 5 64 sampleCodes = some m') ∧
        (∀ k < 3, ∃ n, m'.loadInt32 (64 + 4 * k) = some n ∧
          n.toInt = Nat.count (fun i => Int32.ofNat (30 * i) = Int32.ofNat k) 5) ∧
        ∀ q, q < 64 ∨ 64 + 12 ≤ q → m'.cell q = sampleCodes.cell q) ∧
      ∀ done ≤ 5, ∃ n, countLanes 0 done sampleCodes = some n ∧ ∀ l : Fin 4,
        (n.unknownCount l).toInt =
          Nat.count (fun j => Int32.ofNat (30 * (4 * j + l)) = 0) (done / 4) ∧
        (n.systemCount l).toInt =
          Nat.count (fun j => Int32.ofNat (30 * (4 * j + l)) = 1) (done / 4) ∧
        (n.networkCount l).toInt =
          Nat.count (fun j => Int32.ofNat (30 * (4 * j + l)) = 2) (done / 4)) ∧
    ∀ simd128 simd128', ∃ m₁ m₂ n₀ n₁ n₂,
      categorizeErrorCodesSimd simd128 0 0 5 sampleCodes = some m₁ ∧
      countErrorsByCategorySimd simd128' 0 5 64 m₁ = some m₂ ∧
      m₂.loadInt32 64 = some n₀ ∧ m₂.loadInt32 (64 + 4) = some n₁ ∧
      m₂.loadInt32 (64 + 8) = some n₂ ∧ n₀.toInt + n₁.toInt + n₂.toInt = (5 : ℕ) := by
  obtain ⟨hcount, hcompose⟩ := category_counts_exact
  refine ⟨?_, ?_⟩
  · exact hcount sampleCodes 0 64 5 (fun i => Int32.ofNat (30 * i)) (by decide) (by decide)
      (by decide)
  · exact hcompose sampleCodes 0 0 64 5 (fun i => Int32.ofNat (30 * i)) (by decide) (by decide)
      (by decide) (Or.inl rfl) (by decide)

end BoostSystem
