import Mathlib.Data.List.Basic

/-!
# Runs of a deterministic system

A run applies a list of operations to a state, first to last. What every single step preserves,
every run preserves; what every single step of two systems keeps related, their runs keep related.
-/

namespace Runs

variable {σ τ ο : Type*}

def run (step : σ → ο → σ) (s : σ) (ops : List ο) : σ := ops.foldl step s

theorem run_append (step : σ → ο → σ) (s : σ) (ops ops' : List ο) :
    run step s (ops ++ ops') = run step (run step s ops) ops' := List.foldl_append

theorem run_invariant {step : σ → ο → σ} {Inv : σ → Prop}
    (hstep : ∀ s o, Inv s → Inv (step s o)) (s : σ) (hs : Inv s) (ops : List ο) :
    Inv (run step s ops) := by
  induction ops generalizing s with
  | nil => exact hs
  | cons o ops ih => exact ih (step s o) (hstep s o hs)

/-- What every step of one run preserves, at its place in the run, the run preserves. -/
theorem run_invariant_at {step : σ → ο → σ} {Inv : σ → Prop} {s : σ} (hs : Inv s) {ops : List ο}
    (hstep : ∀ before o after, ops = before ++ o :: after → Inv (run step s before) →
      Inv (step (run step s before) o)) : Inv (run step s ops) := by
  induction ops generalizing s with
  | nil => exact hs
  | cons o ops ih =>
    apply ih (hstep [] o ops rfl hs)
    intro before o' after heq
    exact hstep (o :: before) o' after (by rw [heq, List.cons_append])

theorem run_simulates {step : σ → ο → σ} {step' : τ → ο → τ} {R : σ → τ → Prop}
    (hstep : ∀ s t o, R s t → R (step s o) (step' t o)) (s : σ) (t : τ) (hst : R s t)
    (ops : List ο) : R (run step s ops) (run step' t ops) := by
  induction ops generalizing s t with
  | nil => exact hst
  | cons o ops ih => exact ih (step s o) (step' t o) (hstep s t o hst)

/-! ### Operations that answer, or have no result -/

section Answers

variable {ρ : Type*}

/-- The answers to a list of operations and the state they leave, if every one has a result. -/
def answers (step : σ → ο → Option (ρ × σ)) : σ → List ο → Option (List ρ × σ)
  | s, [] => some ([], s)
  | s, o :: ops => (step s o).bind fun a =>
      (answers step a.2 ops).map fun rest => (a.1 :: rest.1, rest.2)

theorem answers_cons_eq_some {step : σ → ο → Option (ρ × σ)} {s s' : σ} {o : ο} {ops : List ο}
    {rs : List ρ} : answers step s (o :: ops) = some (rs, s') ↔
      ∃ r s₁ rest, step s o = some (r, s₁) ∧ answers step s₁ ops = some (rest, s') ∧
        rs = r :: rest := by
  constructor
  · intro h
    obtain ⟨⟨r, s₁⟩, hstep, h⟩ := Option.bind_eq_some_iff.mp h
    obtain ⟨⟨rest, s₂⟩, hrest, heq⟩ := Option.map_eq_some_iff.mp h
    obtain ⟨rfl, rfl⟩ := Prod.mk.inj heq
    exact ⟨r, s₁, rest, hstep, hrest, rfl⟩
  · rintro ⟨r, s₁, rest, hstep, hrest, rfl⟩
    simp only [answers, hstep, hrest, Option.bind_some, Option.map_some]

theorem answers_append_eq_some {step : σ → ο → Option (ρ × σ)} {s s' : σ} {ops ops' : List ο}
    {rs : List ρ} : answers step s (ops ++ ops') = some (rs, s') ↔
      ∃ rs₁ s₁ rs₂, answers step s ops = some (rs₁, s₁) ∧ answers step s₁ ops' = some (rs₂, s') ∧
        rs = rs₁ ++ rs₂ := by
  induction ops generalizing s rs with
  | nil =>
    constructor
    · intro h
      exact ⟨[], s, rs, rfl, h, rfl⟩
    · rintro ⟨rs₁, s₁, rs₂, h₁, h₂, rfl⟩
      obtain ⟨rfl, rfl⟩ := Prod.mk.inj (Option.some.inj h₁)
      exact h₂
  | cons o ops ih =>
    rw [List.cons_append, answers_cons_eq_some]
    constructor
    · rintro ⟨r, s₁, rest, hstep, hrest, rfl⟩
      obtain ⟨rs₁, s₂, rs₂, h₁, h₂, rfl⟩ := ih.mp hrest
      exact ⟨r :: rs₁, s₂, rs₂, answers_cons_eq_some.mpr ⟨r, s₁, rs₁, hstep, h₁, rfl⟩, h₂, rfl⟩
    · rintro ⟨rs₁, s₂, rs₂, h₁, h₂, rfl⟩
      obtain ⟨r, s₁, rest, hstep, hrest, rfl⟩ := answers_cons_eq_some.mp h₁
      exact ⟨r, s₁, rest ++ rs₂, hstep, ih.mpr ⟨rest, s₂, rs₂, hrest, h₂, rfl⟩, rfl⟩

theorem answers_length {step : σ → ο → Option (ρ × σ)} {s s' : σ} {ops : List ο} {rs : List ρ}
    (h : answers step s ops = some (rs, s')) : rs.length = ops.length := by
  induction ops generalizing s rs with
  | nil =>
    obtain ⟨rfl, -⟩ := Prod.mk.inj (Option.some.inj h)
    rfl
  | cons o ops ih =>
    obtain ⟨r, s₁, rest, -, hrest, rfl⟩ := answers_cons_eq_some.mp h
    rw [List.length_cons, List.length_cons, ih hrest]

end Answers

end Runs
