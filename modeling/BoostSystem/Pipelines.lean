import BoostSystem.Results

/-!
# Pipelines of stages

A pipeline applies its stages with `operator&`, each of them a function that returns a value or one
that returns a result. Any run of consecutive stages may be bracketed as one function, which starts
from `result( in_place_value, x )`.
-/

namespace BoostSystem

inductive Stage (M : Type → Type) (E T U : Type) where
  | value (f : T → M U)
  | result (f : T → M (Result U E))

inductive Stages (M : Type → Type) (E : Type) : Type → Type → Type 1 where
  | nil {T : Type} : Stages M E T T
  | cons {T U V : Type} (stage : Stage M E T U) (rest : Stages M E U V) : Stages M E T V

/-- Stages in brackets; a `group` is one stage for what is around it. -/
inductive Bracketing (M : Type → Type) (E : Type) : Type → Type → Type 1 where
  | nil {T : Type} : Bracketing M E T T
  | stage {T U V : Type} (s : Stage M E T U) (rest : Bracketing M E U V) : Bracketing M E T V
  | group {T U V : Type} (inner : Bracketing M E T U) (rest : Bracketing M E U V) :
      Bracketing M E T V

variable {M : Type → Type} {E T U V : Type}

def Stages.append : {T : Type} → Stages M E T U → Stages M E U V → Stages M E T V
  | _, .nil, after => after
  | _, .cons stage rest, after => .cons stage (rest.append after)

def Bracketing.flatten : {T U : Type} → Bracketing M E T U → Stages M E T U
  | _, _, .nil => .nil
  | _, _, .stage s rest => .cons s rest.flatten
  | _, _, .group inner rest => inner.flatten.append rest.flatten

section Evaluation

variable [Monad M]

/-- `r & stage`, by the overload that takes it. -/
def Stage.apply (r : Result T E) : Stage M E T U → M (Result U E)
  | .value f => r.andValue f
  | .result f => r.andResult f

def Stages.eval : {T U : Type} → Stages M E T U → Result T E → M (Result U E)
  | _, _, .nil, r => pure r
  | _, _, .cons stage rest, r => do
    let r ← stage.apply r
    rest.eval r

/-- The same with a function `x -> result( in_place_value, x ) & fi & ... & fj` for each group. -/
def Bracketing.eval : {T U : Type} → Bracketing M E T U → Result T E → M (Result U E)
  | _, _, .nil, r => pure r
  | _, _, .stage s rest, r => do
    let r ← s.apply r
    rest.eval r
  | _, _, .group inner rest, r => do
    let r ← r.andResult fun x => inner.eval (.value x)
    rest.eval r

theorem andResult_value (x : T) (f : T → M (Result U E)) : (Result.value x).andResult f = f x := rfl

theorem andValue_eq (r : Result T E) (f : T → M U) :
    r.andValue f = r.andResult fun x => do
      let u ← f x
      return .value u := by
  cases r with
  | value v => rfl
  | error e => rfl

theorem Stage.apply_error (s : Stage M E T U) (e : E) : s.apply (.error e) = pure (.error e) := by
  cases s with
  | value f => rfl
  | result f => rfl

variable [LawfulMonad M]

theorem Stages.eval_error (ss : Stages M E T U) (e : E) : ss.eval (.error e) = pure (.error e) := by
  induction ss with
  | nil => rfl
  | cons s ss ih => rw [Stages.eval, Stage.apply_error, pure_bind, ih]

theorem Stages.eval_append (ss : Stages M E T U) (after : Stages M E U V) (r : Result T E) :
    (ss.append after).eval r = ss.eval r >>= after.eval := by
  induction ss with
  | nil => exact (pure_bind r after.eval).symm
  | cons s ss ih =>
    rw [Stages.append, Stages.eval, Stages.eval, bind_assoc]
    exact bind_congr fun r => ih after r

theorem Bracketing.eval_eq (b : Bracketing M E T U) (r : Result T E) :
    b.eval r = b.flatten.eval r := by
  induction b with
  | nil => rfl
  | stage s rest ih =>
    rw [Bracketing.eval, Bracketing.flatten, Stages.eval]
    exact bind_congr ih
  | group inner rest ihInner ih =>
    rw [Bracketing.eval, Bracketing.flatten, Stages.eval_append]
    cases r with
    | value v =>
      rw [andResult_value, ihInner]
      exact bind_congr ih
    | error e =>
      rw [Stages.eval_error, pure_bind, Result.andResult, pure_bind, ih]

end Evaluation

/-- Every bracketing of a pipeline has the result of the pipeline and makes its calls. -/
theorem pipelines_regroup (C E : Type) :
    (∀ (T U : Type) (b : Bracketing (StateM (List C)) E T U) (r : Result T E) (calls : List C),
      (b.eval r).run calls = (b.flatten.eval r).run calls) ∧
    (∀ (T U : Type) (r : Result T E) (f : T → StateM (List C) U) (calls : List C),
      (r.andValue f).run calls = (r.andResult fun x => do
        let u ← f x
        return .value u).run calls) ∧
    ∀ (T U : Type) (x : T) (calls : List C),
      (∀ f : T → StateM (List C) (Result U E),
        ((Result.value x : Result T E).andResult f).run calls = (f x).run calls) ∧
      ∀ f : T → StateM (List C) U,
        ((Result.value x : Result T E).andValue f).run calls =
          (.value ((f x).run calls).1, ((f x).run calls).2) := by
  refine ⟨?_, ?_, ?_⟩
  · intro T U b r calls
    rw [b.eval_eq]
  · intro T U r f calls
    rw [andValue_eq]
  · intro T U x calls
    exact ⟨fun f => rfl, fun f => rfl⟩

end BoostSystem
