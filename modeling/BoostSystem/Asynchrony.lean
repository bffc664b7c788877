import Mathlib.Logic.Function.Iterate
import Mathlib.Tactic.Common

/-!
# Asynchronous computations

An `Async` computation returns, throws, or awaits the answer to a request, which is a value or a
rejection. An environment answers every request. It decides the outcome of the computation and the
requests that lead there; to be resumed with its answers changes neither what the outcome will be nor
the requests that are left.
-/

namespace Asynchrony

inductive Async (Q : Type) (A : Q → Type) (ε α : Type) where
  | returned (a : α)
  | threw (e : ε)
  | await (q : Q) (next : Except ε (A q) → Async Q A ε α)

/-- The answer to every request. -/
def Answers (Q : Type) (A : Q → Type) (ε : Type) : Type := (q : Q) → Except ε (A q)

namespace Async

variable {Q : Type} {A : Q → Type} {ε α β : Type}

protected def bind : Async Q A ε α → (α → Async Q A ε β) → Async Q A ε β
  | returned a, f => f a
  | threw e, _ => threw e
  | await q next, f => await q fun r => (next r).bind f

instance : Monad (Async Q A ε) where
  pure := returned
  bind := Async.bind

def tryCatch : Async Q A ε α → (ε → Async Q A ε α) → Async Q A ε α
  | returned a, _ => returned a
  | threw e, handler => handler e
  | await q next, handler => await q fun r => (next r).tryCatch handler

def ofOutcome : Except ε α → Async Q A ε α
  | .ok a => returned a
  | .error e => threw e

/-- `await` of one request; a rejection is thrown. -/
def request (q : Q) : Async Q A ε (A q) := await q ofOutcome

variable (env : Answers Q A ε)

def outcome : Async Q A ε α → Except ε α
  | returned a => .ok a
  | threw e => .error e
  | await q next => (next (env q)).outcome

/-- The requests that are made, in their order. -/
def requests : Async Q A ε α → List Q
  | returned _ | threw _ => []
  | await q next => q :: (next (env q)).requests

/-- The answer to what is awaited arrives. -/
def resume : Async Q A ε α → Async Q A ε α
  | await q next => next (env q)
  | x => x

variable {env}

theorem outcome_ofOutcome (r : Except ε α) :
    (ofOutcome r : Async Q A ε α).outcome env = r := by
  cases r with
  | ok | error => rfl

theorem requests_ofOutcome (r : Except ε α) :
    (ofOutcome r : Async Q A ε α).requests env = [] := by
  cases r with
  | ok | error => rfl

theorem outcome_request (q : Q) : (request q : Async Q A ε (A q)).outcome env = env q :=
  outcome_ofOutcome (env q)

theorem requests_request (q : Q) : (request q : Async Q A ε (A q)).requests env = [q] :=
  congrArg (q :: ·) (requests_ofOutcome (env q))

theorem outcome_bind (x : Async Q A ε α) (f : α → Async Q A ε β) :
    (x >>= f).outcome env = (x.outcome env).bind fun a => (f a).outcome env := by
  induction x with
  | returned a => rfl
  | threw e => rfl
  | await q next ih => exact ih (env q)

theorem outcome_tryCatch (x : Async Q A ε α) (handler : ε → Async Q A ε α) :
    (x.tryCatch handler).outcome env = (x.outcome env).tryCatch fun e => (handler e).outcome env := by
  induction x with
  | returned a => rfl
  | threw e => rfl
  | await q next ih => exact ih (env q)

/-- What comes after makes at most as many requests as it makes for any value. -/
theorem length_requests_bind_le {x : Async Q A ε α} {f : α → Async Q A ε β} {m n : ℕ}
    (hx : (x.requests env).length ≤ m) (hf : ∀ a, ((f a).requests env).length ≤ n) :
    ((x >>= f).requests env).length ≤ m + n := by
  induction x generalizing m with
  | returned a => exact Nat.le_trans (hf a) (Nat.le_add_left n m)
  | threw e => exact Nat.zero_le _
  | await q next ih =>
    cases m with
    | zero => exact absurd hx (Nat.not_succ_le_zero _)
    | succ m =>
      have hlater := ih (env q) (Nat.le_of_succ_le_succ hx)
      rw [Nat.succ_add]
      exact Nat.succ_le_succ hlater

theorem length_requests_tryCatch_le {x : Async Q A ε α} {handler : ε → Async Q A ε α} {m n : ℕ}
    (hx : (x.requests env).length ≤ m) (hhandler : ∀ e, ((handler e).requests env).length ≤ n) :
    ((x.tryCatch handler).requests env).length ≤ m + n := by
  induction x generalizing m with
  | returned a => exact Nat.zero_le _
  | threw e => exact Nat.le_trans (hhandler e) (Nat.le_add_left n m)
  | await q next ih =>
    cases m with
    | zero => exact absurd hx (Nat.not_succ_le_zero _)
    | succ m =>
      have hlater := ih (env q) (Nat.le_of_succ_le_succ hx)
      rw [Nat.succ_add]
      exact Nat.succ_le_succ hlater

theorem length_requests_request (q : Q) :
    ((request q : Async Q A ε (A q)).requests env).length ≤ 1 := by
  rw [requests_request]
  exact Nat.le_refl 1

/-! ### Being resumed -/

theorem outcome_resume (x : Async Q A ε α) : (x.resume env).outcome env = x.outcome env := by
  cases x with
  | returned | threw | await => rfl

theorem requests_resume (x : Async Q A ε α) : (x.resume env).requests env = (x.requests env).tail := by
  cases x with
  | returned | threw | await => rfl

theorem outcome_iterate (x : Async Q A ε α) (n : ℕ) :
    ((resume env)^[n] x).outcome env = x.outcome env := by
  induction n generalizing x with
  | zero => rfl
  | succ n ih => rw [Function.iterate_succ_apply, ih, outcome_resume]

theorem requests_iterate (x : Async Q A ε α) (n : ℕ) :
    ((resume env)^[n] x).requests env = (x.requests env).drop n := by
  induction n generalizing x with
  | zero => rfl
  | succ n ih => rw [Function.iterate_succ_apply, ih, requests_resume, List.drop_tail]

/-- With no request left the computation has ended. -/
theorem eq_ofOutcome {x : Async Q A ε α} (h : x.requests env = []) :
    x = ofOutcome (x.outcome env) := by
  cases x with
  | returned | threw => rfl
  | await q next => cases h

/-- After as many answers as there are requests the computation has ended. -/
theorem iterate_eq_ofOutcome (x : Async Q A ε α) {n : ℕ} (h : (x.requests env).length ≤ n) :
    (resume env)^[n] x = ofOutcome (x.outcome env) := by
  have hnone : ((resume env)^[n] x).requests env = [] := by
    rw [requests_iterate, List.drop_eq_nil_of_le h]
  rw [eq_ofOutcome hnone, outcome_iterate]

end Async

end Asynchrony
