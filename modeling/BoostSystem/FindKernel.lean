import BoostSystem.ErrorSimd

/-!
# The search kernel

A chunk without a match lets the search continue and a chunk with one ends it, at the first match of
the chunk. The chunk of the least matching index is the first that has a match.
-/

namespace BoostSystem

open LinearMemory Loops SimdLanes

theorem throw_bind {ε α β : Type} (e : ε) (f : α → ExceptT ε Option β) :
    (throw e : ExceptT ε Option α) >>= f = throw e := rfl

section Element

variable {m : Memory} {codes i : ℕ} {code target : Int32}

theorem findElement_of_ne (hcode : m.loadInt32 (codes + 4 * i) = some code) (hne : code ≠ target) :
    findElement codes target m i () = pure () := by
  simp only [findElement, hcode]
  rw [show liftM (some code) = (pure code : ExceptT Int32 Option Int32) from rfl, pure_bind,
    beq_false_of_ne hne]
  rfl

theorem findElement_of_eq (hcode : m.loadInt32 (codes + 4 * i) = some target) :
    findElement codes target m i () = throw (Int32.ofNat i) := by
  simp only [findElement, hcode]
  rw [show liftM (some target) = (pure target : ExceptT Int32 Option Int32) from rfl, pure_bind,
    beq_self_eq_true]
  rfl

end Element

section Chunk

variable {m : Memory} {codes i : ℕ} {a : ℕ → Int32} {target : Int32}

theorem findInChunk_of_least (ha : ∀ l < 4, m.loadInt32 (codes + 4 * (i + l)) = some (a (i + l)))
    {j : ℕ} (hj : j < 4) (hmatch : a (i + j) = target) (hleast : ∀ l < j, a (i + l) ≠ target) :
    findInChunk codes target m i = throw (Int32.ofNat (i + j)) := by
  have hindex (l : ℕ) : 0 + 1 * l = l := by omega
  have hlt : 0 + 1 * j < 4 := by omega
  have hbefore : ∀ l < j, findElement codes target m (i + (0 + 1 * l)) () = pure () := by
    intro l hl
    rw [hindex]
    exact findElement_of_ne (ha l (by omega)) (hleast l hl)
  have hload := ha j hj
  rw [hmatch] at hload
  rw [findInChunk, forLoop_reaches (fun _ => ()) Nat.one_pos j hlt hbefore, hindex,
    findElement_of_eq hload]
  exact throw_bind _ _

/-- A nonzero bitmask means that the inner loop returns the first match of the chunk. -/
theorem findInChunk_of_bitmask (ha : ∀ l < 4, m.loadInt32 (codes + 4 * (i + l)) = some (a (i + l)))
    (hmask : i32x4Bitmask (i32x4Eq (lanesAt a i) (splat target)) ≠ 0) :
    ∃ j < 4, a (i + j) = target ∧ (∀ l < j, a (i + l) ≠ target) ∧
      findInChunk codes target m i = throw (Int32.ofNat (i + j)) := by
  obtain ⟨l, hl⟩ := (bitmask_mask_ne_zero fun l => lanesAt a i l == target).mp hmask
  have hmatch : ∃ j, j < 4 ∧ a (i + j) = target := ⟨l, l.isLt, eq_of_beq hl⟩
  have hspec := Nat.find_spec hmatch
  have hleast : ∀ k < Nat.find hmatch, a (i + k) ≠ target := by
    intro k hk heq
    exact Nat.find_min hmatch hk ⟨hk.trans hspec.1, heq⟩
  exact ⟨_, hspec.1, hspec.2, hleast, findInChunk_of_least ha hspec.1 hspec.2 hleast⟩

theorem findChunk_eq (ha : ∀ l < 4, m.loadInt32 (codes + 4 * (i + l)) = some (a (i + l))) :
    findChunk codes target m i () =
      if i32x4Bitmask (i32x4Eq (lanesAt a i) (splat target)) ≠ 0 then findInChunk codes target m i
      else pure () := by
  simp only [findChunk, v128Load_of_words ha]
  rw [show liftM (some (lanesAt a i)) = (pure (lanesAt a i) : ExceptT Int32 Option V128) from rfl,
    pure_bind]
  simp only [bne_iff_ne]

theorem findChunk_of_absent (ha : ∀ l < 4, m.loadInt32 (codes + 4 * (i + l)) = some (a (i + l)))
    (habsent : ∀ l < 4, a (i + l) ≠ target) : findChunk codes target m i () = pure () := by
  rw [findChunk_eq ha, if_neg]
  intro hmask
  obtain ⟨j, hj, hmatch, -⟩ := findInChunk_of_bitmask ha hmask
  exact habsent j hj hmatch

theorem findChunk_of_least (ha : ∀ l < 4, m.loadInt32 (codes + 4 * (i + l)) = some (a (i + l)))
    {j : ℕ} (hj : j < 4) (hmatch : a (i + j) = target) (hleast : ∀ l < j, a (i + l) ≠ target) :
    findChunk codes target m i () = throw (Int32.ofNat (i + j)) := by
  have hmask : i32x4Bitmask (i32x4Eq (lanesAt a i) (splat target)) ≠ 0 :=
    (bitmask_mask_ne_zero fun l => lanesAt a i l == target).mpr ⟨⟨j, hj⟩, beq_iff_eq.mpr hmatch⟩
  rw [findChunk_eq ha, if_pos hmask, findInChunk_of_least ha hj hmatch hleast]

end Chunk

section Search

variable {m : Memory} {codes count : ℕ} {a : ℕ → Int32} {target : Int32}

theorem findErrorCodeSimd_of_absent (ha : m.Int32s codes count a)
    (habsent : ∀ i < count, a i ≠ target) (simd128 : Bool) :
    findErrorCodeSimd simd128 codes count target m = some (-1) := by
  have hloop : kernelLoop simd128 count (findChunk codes target m) (findElement codes target m) () =
      pure () := by
    apply kernelLoop_eq fun _ => ()
    · intro i hi
      exact findChunk_of_absent (fun l _ => ha (i + l) (by omega))
        fun l _ => habsent (i + l) (by omega)
    · intro i hi
      exact findElement_of_ne (ha i hi) (habsent i hi)
  rw [findErrorCodeSimd, hloop]
  rfl

/-- The loop over elements, from anywhere at or before the least match. -/
theorem findElements_of_least (ha : m.Int32s codes count a) {start k : ℕ} (hstart : start ≤ k)
    (hk : k < count) (hmatch : a k = target) (hleast : ∀ i < k, a i ≠ target) :
    forLoop start count 1 (findElement codes target m) () = throw (Int32.ofNat k) := by
  have hload := ha k hk
  rw [hmatch] at hload
  have hindex : start + 1 * (k - start) = k := by omega
  have hlt : start + 1 * (k - start) < count := by omega
  have hbefore : ∀ l < k - start, findElement codes target m (start + 1 * l) () = pure () := by
    intro l hl
    exact findElement_of_ne (ha _ (by omega)) (hleast _ (by omega))
  rw [forLoop_reaches (fun _ => ()) Nat.one_pos (k - start) hlt hbefore, hindex,
    findElement_of_eq hload]
  exact throw_bind _ _

theorem findChunks_of_least (ha : m.Int32s codes count a) {k : ℕ} (hk : k < count / 4 * 4)
    (hmatch : a k = target) (hleast : ∀ i < k, a i ≠ target) :
    forLoop 0 (count / 4 * 4) 4 (findChunk codes target m) () = throw (Int32.ofNat k) := by
  have hword (i : ℕ) (hi : i + 4 ≤ count) :
      ∀ l < 4, m.loadInt32 (codes + 4 * (i + l)) = some (a (i + l)) :=
    fun l _ => ha (i + l) (by omega)
  have hindex : 0 + 4 * (k / 4) + k % 4 = k := by omega
  have hlt : 0 + 4 * (k / 4) < count / 4 * 4 := by omega
  have hbefore : ∀ l < k / 4, findChunk codes target m (0 + 4 * l) () = pure () := by
    intro l hl
    exact findChunk_of_absent (hword _ (by omega)) fun j _ => hleast _ (by omega)
  have hfound : findChunk codes target m (0 + 4 * (k / 4)) () =
      throw (Int32.ofNat (0 + 4 * (k / 4) + k % 4)) := by
    apply findChunk_of_least (hword _ (by omega)) (Nat.mod_lt k (by omega))
    · rwa [hindex]
    · intro l hl
      exact hleast _ (by omega)
  rw [forLoop_reaches (fun _ => ()) (by omega) (k / 4) hlt hbefore, hfound, hindex]
  exact throw_bind _ _

theorem findErrorCodeSimd_of_least (ha : m.Int32s codes count a) {k : ℕ} (hk : k < count)
    (hmatch : a k = target) (hleast : ∀ i < k, a i ≠ target) (simd128 : Bool) :
    findErrorCodeSimd simd128 codes count target m = some (Int32.ofNat k) := by
  have hloop : kernelLoop simd128 count (findChunk codes target m) (findElement codes target m) () =
      throw (Int32.ofNat k) := by
    cases simd128 with
    | false => exact findElements_of_least ha k.zero_le hk hmatch hleast
    | true =>
      change chunkedLoop count (findChunk codes target m) (findElement codes target m) () = _
      unfold chunkedLoop
      by_cases hchunk : k < count / 4 * 4
      · rw [findChunks_of_least ha hchunk hmatch hleast]
        exact throw_bind _ _
      · have hskip : forLoop 0 (count / 4 * 4) 4 (findChunk codes target m) () = pure () := by
          apply forLoop_chunks_eq fun _ => ()
          intro l hl
          exact findChunk_of_absent (fun j _ => ha (4 * l + j) (by omega))
            fun j _ => hleast (4 * l + j) (by omega)
        rw [hskip, pure_bind]
        exact findElements_of_least ha (by omega) hk hmatch hleast
  rw [findErrorCodeSimd, hloop]
  rfl

end Search

/-- The least matching index, or -1, in both builds, and no chunk with a nonzero bitmask lets the
inner loop fall through. -/
theorem find_first_match (m : Memory) (codes count : ℕ) (a : ℕ → Int32) (target : Int32)
    (ha : m.Int32s codes count a) :
    (∃ result, (∀ simd128, findErrorCodeSimd simd128 codes count target m = some result) ∧
      ((result = -1 ∧ ∀ i < count, a i ≠ target) ∨
        ∃ k < count, result.toInt = k ∧ a k = target ∧ ∀ i < k, a i ≠ target)) ∧
    ∀ i, i + 4 ≤ count →
      ∃ v, v128Load m (codes + 4 * i) = some v ∧
        (i32x4Bitmask (i32x4Eq v (splat target)) ≠ 0 →
          ∃ index, (findInChunk codes target m i).run = some (.error index)) := by
  refine ⟨?_, ?_⟩
  · by_cases hmatch : ∃ k, k < count ∧ a k = target
    · have hspec := Nat.find_spec hmatch
      have hleast : ∀ i < Nat.find hmatch, a i ≠ target := by
        intro i hi heq
        exact Nat.find_min hmatch hi ⟨hi.trans hspec.1, heq⟩
      have hcount := ha.le
      have hindex : (Int32.ofNat (Nat.find hmatch)).toInt = Nat.find hmatch :=
        Int32.toInt_ofNat_of_lt (by omega)
      exact ⟨_, findErrorCodeSimd_of_least ha hspec.1 hspec.2 hleast,
        Or.inr ⟨_, hspec.1, hindex, hspec.2, hleast⟩⟩
    · have habsent : ∀ i < count, a i ≠ target := fun i hi heq => hmatch ⟨i, hi, heq⟩
      exact ⟨_, findErrorCodeSimd_of_absent ha habsent, Or.inl ⟨rfl, habsent⟩⟩
  · intro i hi
    refine ⟨lanesAt a i, v128Load_of_int32s ha hi, ?_⟩
    intro hmask
    obtain ⟨j, -, -, -, hreturns⟩ := findInChunk_of_bitmask (fun l _ => ha (i + l) (by omega)) hmask
    exact ⟨_, congrArg ExceptT.run hreturns⟩

theorem find_first_match_ten :
    (∃ result, (∀ simd128, findErrorCodeSimd simd128 0 10 180 sampleCodes = some result) ∧
      ((result = -1 ∧ ∀ i < 10, Int32.ofNat (30 * i) ≠ 180) ∨
        ∃ k < (10 : ℕ), result.toInt = k ∧ Int32.ofNat (30 * k) = 180 ∧
          ∀ i < k, Int32.ofNat (30 * i) ≠ 180)) ∧
    ∀ i, i + 4 ≤ 10 →
      ∃ v, v128Load sampleCodes (0 + 4 * i) = some v ∧
        (i32x4Bitmask (i32x4Eq v (splat 180)) ≠ 0 →
          ∃ index, (findInChunk 0 180 sampleCodes i).run = some (.error index)) :=
  find_first_match sampleCodes 0 10 (fun i => Int32.ofNat (30 * i)) 180 (by decide)

end BoostSystem
