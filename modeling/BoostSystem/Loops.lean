import Mathlib.Data.Nat.Init
import Mathlib.Tactic.Common

/-!
# Counting loops in a monad

`forLoop start stop stride body s` is `for (i = start; i < stop; i += stride)` with the loop's
variables as its state. The monad is what the body may do besides: fail, or leave the loop.
-/

namespace Loops

variable {M : Type → Type} [Monad M] {σ : Type}

def iterate (stride : ℕ) (body : ℕ → σ → M σ) : ℕ → ℕ → σ → M σ
  | 0, _, s => pure s
  | n + 1, i, s => do
    let s ← body i s
    iterate stride body n (i + stride) s

def forLoop (start stop stride : ℕ) (body : ℕ → σ → M σ) (s : σ) : M σ :=
  iterate stride body ((stop - start + (stride - 1)) / stride) start s

/-- A loop four elements at a time over the multiples of four, and one at a time over the rest. -/
def chunkedLoop (count : ℕ) (chunk body : ℕ → σ → M σ) (s : σ) : M σ := do
  let s ← forLoop 0 (count / 4 * 4) 4 chunk s
  forLoop (count / 4 * 4) count 1 body s

/-- The number of iterations is that of the loop as it is written. -/
theorem forLoop_unfold (start stop stride : ℕ) (hstride : 0 < stride) (body : ℕ → σ → M σ) (s : σ) :
    forLoop start stop stride body s =
      if start < stop then body start s >>= forLoop (start + stride) stop stride body
      else pure s := by
  unfold forLoop
  split_ifs with hlt
  · have hcount : (stop - start + (stride - 1)) / stride =
        (stop - (start + stride) + (stride - 1)) / stride + 1 := by
      rw [← Nat.add_div_right _ hstride]
      rcases Nat.lt_or_ge stop (start + stride) with hgt | hle
      · have hfirst : (stop - start + (stride - 1)) / stride = 1 := by
          apply Nat.div_eq_of_lt_le <;> omega
        have hlast : (stop - (start + stride) + (stride - 1) + stride) / stride = 1 := by
          apply Nat.div_eq_of_lt_le <;> omega
        rw [hfirst, hlast]
      · congr 1
        omega
    rw [hcount]
    rfl
  · have hcount : (stop - start + (stride - 1)) / stride = 0 := by
      apply Nat.div_eq_of_lt
      omega
    rw [hcount]
    rfl

section Lawful

variable [LawfulMonad M]

theorem iterate_eq {stride : ℕ} {body : ℕ → σ → M σ} (st : ℕ → σ) (n i : ℕ)
    (hbody : ∀ k < n, body (i + stride * k) (st (i + stride * k)) =
      pure (st (i + stride * k + stride))) :
    iterate stride body n i (st i) = pure (st (i + stride * n)) := by
  induction n generalizing i with
  | zero => rfl
  | succ n ih =>
    have hfirst : body i (st i) = pure (st (i + stride)) := hbody 0 n.succ_pos
    have hrest : iterate stride body n (i + stride) (st (i + stride)) =
        pure (st (i + stride + stride * n)) := by
      apply ih
      intro k hk
      have hstep := hbody (k + 1) (by omega)
      rwa [Nat.mul_succ, Nat.add_comm (stride * k), ← Nat.add_assoc] at hstep
    rw [iterate, hfirst, pure_bind, hrest, Nat.mul_succ, Nat.add_comm (stride * n),
      ← Nat.add_assoc]

/-- A loop whose body takes each state of a sequence to the next runs through the sequence. -/
theorem forLoop_eq {start stop : ℕ} {body : ℕ → σ → M σ} (st : ℕ → σ) (hle : start ≤ stop)
    (hbody : ∀ i, start ≤ i → i < stop → body i (st i) = pure (st (i + 1))) :
    forLoop start stop 1 body (st start) = pure (st stop) := by
  have hiter : iterate 1 body (stop - start) start (st start) =
      pure (st (start + 1 * (stop - start))) := by
    apply iterate_eq
    intro k hk
    rw [Nat.one_mul]
    exact hbody (start + k) (by omega) (by omega)
  rw [Nat.one_mul, Nat.add_sub_cancel' hle] at hiter
  simpa [forLoop] using hiter

theorem forLoop_chunks_eq {chunks : ℕ} {chunk : ℕ → σ → M σ} (st : ℕ → σ)
    (hchunk : ∀ k < chunks, chunk (4 * k) (st (4 * k)) = pure (st (4 * k + 4))) :
    forLoop 0 (chunks * 4) 4 chunk (st 0) = pure (st (chunks * 4)) := by
  have hiter : iterate 4 chunk chunks 0 (st 0) = pure (st (0 + 4 * chunks)) := by
    apply iterate_eq
    intro k hk
    rw [Nat.zero_add]
    exact hchunk k hk
  have hcount : (chunks * 4 - 0 + (4 - 1)) / 4 = chunks := by omega
  rw [forLoop, hcount, hiter, Nat.zero_add, Nat.mul_comm]

theorem forLoop_reaches {start stop stride : ℕ} {body : ℕ → σ → M σ} (st : ℕ → σ)
    (hstride : 0 < stride) (n : ℕ) (hlt : start + stride * n < stop)
    (hbody : ∀ k < n, body (start + stride * k) (st (start + stride * k)) =
      pure (st (start + stride * k + stride))) :
    forLoop start stop stride body (st start) =
      body (start + stride * n) (st (start + stride * n)) >>=
        forLoop (start + stride * n + stride) stop stride body := by
  induction n generalizing start with
  | zero =>
    rw [forLoop_unfold start stop stride hstride]
    exact if_pos hlt
  | succ n ih =>
    have hfirst : body start (st start) = pure (st (start + stride)) := hbody 0 n.succ_pos
    have hindex (k : ℕ) : start + stride * (k + 1) = start + stride + stride * k := by
      rw [Nat.mul_succ]
      omega
    rw [hindex] at hlt
    rw [forLoop_unfold start stop stride hstride, if_pos (by omega), hfirst, pure_bind, hindex]
    apply ih hlt
    intro k hk
    have hstep := hbody (k + 1) (by omega)
    rwa [hindex] at hstep

theorem chunkedLoop_eq {count : ℕ} {chunk body : ℕ → σ → M σ} (st : ℕ → σ)
    (hchunk : ∀ i, i + 4 ≤ count → chunk i (st i) = pure (st (i + 4)))
    (hbody : ∀ i < count, body i (st i) = pure (st (i + 1))) :
    chunkedLoop count chunk body (st 0) = pure (st count) := by
  unfold chunkedLoop
  rw [forLoop_chunks_eq st fun k hk => hchunk (4 * k) (by omega), pure_bind]
  exact forLoop_eq st (by omega) fun i _ hi => hbody i hi

end Lawful

end Loops
