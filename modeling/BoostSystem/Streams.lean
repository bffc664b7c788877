import BoostSystem.LinearMemory
import BoostSystem.Loops
import Mathlib.Data.List.GetD

/-!
# Loops that read one element and write one

Iteration `i` reads an element, computes from it and from a state that is carried along, and writes `w`
bytes at `q + w * i`. If no write reaches what a later iteration reads, the loop is a map over the
elements as they were before it, whether or not the arrays share memory.
-/

namespace LinearMemory

open Loops

def mapAccum {σ α β : Type} (f : σ → α → Option (β × σ)) : σ → List α → Option (List β × σ)
  | s, [] => some ([], s)
  | s, x :: xs => do
    let (y, s) ← f s x
    let (ys, s) ← mapAccum f s xs
    return (y :: ys, s)

def streamBody {σ α β : Type} (read : ℕ → Memory → Option α) (f : σ → α → Option (β × σ))
    (bytes : β → ℕ → UInt8) (q w : ℕ) (i : ℕ) (state : σ × Memory) : Option (σ × Memory) := do
  let x ← read i state.2
  let (y, s) ← f state.1 x
  let m ← state.2.store (q + w * i) w (bytes y)
  return (s, m)

/-- The bytes of a list of elements of `w` bytes each. -/
def flatBytes {β : Type} [Inhabited β] (bytes : β → ℕ → UInt8) (w : ℕ) (ys : List β) (k : ℕ) :
    UInt8 := bytes (ys.getD (k / w) default) (k % w)

/-- The writes at `q` do not reach the words at `p` before they have been read. -/
def Trails (p q w n : ℕ) : Prop :=
  ∀ i j, i < j → j < n → Apart (p + 4 * j) 4 (q + w * i) w

section Stream

variable {σ α β : Type} [Inhabited β] {read : ℕ → Memory → Option α} {f : σ → α → Option (β × σ)}
  {bytes : β → ℕ → UInt8} {q w n : ℕ} {m : Memory} {x : ℕ → α}

theorem flatBytes_append (hw : 0 < w) (ys : List β) (y : β) (k : ℕ) (hk : k < w) :
    bytes y k = flatBytes bytes w (ys ++ [y]) (w * ys.length + k) := by
  have hdiv : (w * ys.length + k) / w = ys.length := by
    rw [Nat.mul_add_div hw, Nat.div_eq_of_lt hk, Nat.add_zero]
  have hmod : (w * ys.length + k) % w = k := by
    rw [Nat.mul_add_mod, Nat.mod_eq_of_lt hk]
  rw [flatBytes, hdiv, hmod, List.getD_append_right _ _ _ _ (Nat.le_refl _), Nat.sub_self]
  rfl

theorem flatBytes_of_lt (hw : 0 < w) (ys : List β) (y : β) (k : ℕ) (hk : k < w * ys.length) :
    flatBytes bytes w ys k = flatBytes bytes w (ys ++ [y]) k := by
  have hindex : k / w < ys.length := by
    rw [Nat.div_lt_iff_lt_mul hw, Nat.mul_comm]
    exact hk
  rw [flatBytes, flatBytes, List.getD_append _ _ _ _ hindex]

theorem store_flatBytes (hw : 0 < w) (ys : List β) (y : β)
    (h : m.Accessible (q + w * ys.length) w) :
    (m.write q (w * ys.length) (flatBytes bytes w ys)).store (q + w * ys.length) w (bytes y) =
      some (m.write q (w * (ys.length + 1)) (flatBytes bytes w (ys ++ [y]))) := by
  rw [Memory.write_congr m (flatBytes_of_lt hw ys y), Nat.mul_succ]
  exact Memory.store_write _ h (flatBytes_append hw ys y)

theorem iterate_stream (hw : 0 < w)
    (hread : ∀ i < n, ∀ out, read i (m.write q (w * i) out) = some (x i))
    (haccess : m.Accessible q (w * n)) (rest : ℕ) (s : σ) (ys : List β)
    (hrest : ys.length + rest = n) :
    iterate 1 (streamBody read f bytes q w) rest ys.length
        (s, m.write q (w * ys.length) (flatBytes bytes w ys)) =
      (mapAccum f s ((List.range' ys.length rest).map x)).map fun result =>
        (result.2, m.write q (w * n) (flatBytes bytes w (ys ++ result.1))) := by
  induction rest generalizing s ys with
  | zero =>
    have hn : n = ys.length := by omega
    rw [hn]
    simp only [iterate, mapAccum, List.range'_zero, List.map_nil, Option.map_some, List.append_nil,
      Option.pure_def]
  | succ rest ih =>
    have hlt : ys.length < n := by omega
    have hroom : m.Accessible (q + w * ys.length) w := by
      apply haccess.mono (by omega)
      rw [Nat.add_assoc, ← Nat.mul_succ]
      exact Nat.add_le_add_left (Nat.mul_le_mul_left w hlt) q
    simp only [iterate, streamBody, hread _ hlt, Option.bind_eq_bind, Option.bind_some,
      List.range'_succ, List.map_cons, mapAccum]
    cases hstep : f s (x ys.length) with
    | none => rfl
    | some result =>
      obtain ⟨y, s'⟩ := result
      have hlater := ih s' (ys ++ [y]) (by rw [List.length_append, List.length_singleton]; omega)
      rw [List.length_append, List.length_singleton] at hlater
      simp only [Option.bind_some, store_flatBytes hw ys y hroom, Option.pure_def]
      rw [hlater]
      cases mapAccum f s' ((List.range' (ys.length + 1) rest).map x) with
      | none => rfl
      | some later =>
        simp only [Option.map_some, Option.bind_some, List.append_assoc, List.singleton_append]

/-- The loop is a map over what the elements were before it. -/
theorem stream_eq (hw : 0 < w)
    (hread : ∀ i < n, ∀ out, read i (m.write q (w * i) out) = some (x i))
    (haccess : m.Accessible q (w * n)) (s : σ) :
    forLoop 0 n 1 (streamBody read f bytes q w) (s, m) =
      (mapAccum f s ((List.range n).map x)).map fun result =>
        (result.2, m.write q (w * n) (flatBytes bytes w result.1)) := by
  have hloop : iterate 1 (streamBody read f bytes q w) n 0
      (s, m.write q (w * 0) (flatBytes bytes w [])) = _ :=
    iterate_stream hw hread haccess n s [] (Nat.zero_add n)
  rw [Nat.mul_zero, Memory.write_zero] at hloop
  rw [forLoop, Nat.sub_zero, Nat.sub_self, Nat.add_zero, Nat.div_one, List.range_eq_range']
  exact hloop

end Stream

theorem streamMap_eq {α β : Type} (read : ℕ → Memory → Option α) (g : α → β)
    (bytes : β → ℕ → UInt8) {q w n : ℕ} {m : Memory} {x : ℕ → α} (hw : 0 < w)
    (hread : ∀ i < n, ∀ out, read i (m.write q (w * i) out) = some (x i))
    (haccess : m.Accessible q (w * n)) :
    forLoop 0 n 1 (fun i m => do
      let x ← read i m
      m.store (q + w * i) w (bytes (g x))) m =
      some (m.write q (w * n) fun k => bytes (g (x (k / w))) (k % w)) := by
  have hstart : m = m.write q (w * 0) fun k => bytes (g (x (k / w))) (k % w) :=
    (Memory.write_zero m q _).symm
  conv_lhs => rw [hstart]
  apply forLoop_eq (fun i => m.write q (w * i) fun k => bytes (g (x (k / w))) (k % w)) n.zero_le
  intro i _ hi
  have hroom : m.Accessible (q + w * i) w := by
    apply haccess.mono (by omega)
    rw [Nat.add_assoc, ← Nat.mul_succ]
    exact Nat.add_le_add_left (Nat.mul_le_mul_left w hi) q
  rw [hread i hi]
  apply Memory.store_write _ hroom
  intro k hk
  rw [Nat.mul_add_div hw, Nat.div_eq_of_lt hk, Nat.add_zero, Nat.mul_add_mod, Nat.mod_eq_of_lt hk]

/-! ### What is read in time -/

section Trails

variable {p q w n : ℕ} {m : Memory}

theorem loadInt32_trailed (htrails : Trails p q w n) {i : ℕ} (hi : i < n) (out : ℕ → UInt8) :
    (m.write q (w * i) out).loadInt32 (p + 4 * i) = m.loadInt32 (p + 4 * i) := by
  apply Memory.loadInt32_congr
  intro k hk
  by_cases hinside : q ≤ p + 4 * i + k ∧ p + 4 * i + k < q + w * i
  · exfalso
    have hw : 0 < w := by
      rcases Nat.eq_zero_or_pos w with rfl | hw
      · omega
      · exact hw
    -- the element whose bytes are the ones read
    obtain ⟨j, hj⟩ : ∃ j, j = (p + 4 * i + k - q) / w := ⟨_, rfl⟩
    have hlow : w * j ≤ p + 4 * i + k - q := by rw [hj]; exact Nat.mul_div_le _ w
    have hhigh : p + 4 * i + k - q < w * (j + 1) := by
      rw [hj]
      exact Nat.lt_mul_div_succ _ hw
    have hji : j < i := by
      rw [hj, Nat.div_lt_iff_lt_mul hw, Nat.mul_comm i w]
      omega
    have happart := htrails j i hji hi
    unfold Apart at happart
    rw [Nat.mul_succ] at hhigh
    omega
  · exact Memory.write_cell_of_outside m out (by omega)

/-- Elements of at most four bytes written from an address that is not above the words, such as in
place. -/
theorem trails_of_le (h : q ≤ p) (hw : w ≤ 4) : Trails p q w n := by
  intro i j hij _
  have hi : w * i ≤ 4 * i := Nat.mul_le_mul_right i hw
  unfold Apart
  omega

end Trails

end LinearMemory
