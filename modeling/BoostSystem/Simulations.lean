import BoostSystem.Runs

/-!
# Two systems side by side

Two systems are given the same operations, and a history is kept of what has been asked. The history
says how the two answers to the next operation compare. If every single step is in step, so are whole
runs: both have a result or neither has, and the answers compare at every position.
-/

namespace Runs

variable {σ τ ο ρ χ : Type*}

/-- At each operation the two answers compare as the history so far says. -/
inductive Compared (record : χ → ο → χ) (Q : χ → ο → ρ → ρ → Prop) :
    χ → List ο → List ρ → List ρ → Prop where
  | nil (l : χ) : Compared record Q l [] [] []
  | cons {l : χ} {o : ο} {ops : List ο} {r r' : ρ} {rs rs' : List ρ} (head : Q l o r r')
      (tail : Compared record Q (record l o) ops rs rs') :
      Compared record Q l (o :: ops) (r :: rs) (r' :: rs')

/-- From related states, an operation has a result in both systems or in neither, and results
compare and leave related states. -/
def InStep (step : σ → ο → Option (ρ × σ)) (step' : τ → ο → Option (ρ × τ)) (record : χ → ο → χ)
    (R : χ → σ → τ → Prop) (Q : χ → ο → ρ → ρ → Prop) : Prop :=
  ∀ l s t o, R l s t →
    (∃ r s' r' t', step s o = some (r, s') ∧ step' t o = some (r', t') ∧ Q l o r r' ∧
      R (record l o) s' t') ∨
    (step s o = none ∧ step' t o = none)

variable {step : σ → ο → Option (ρ × σ)} {step' : τ → ο → Option (ρ × τ)} {record : χ → ο → χ}
  {R : χ → σ → τ → Prop} {Q : χ → ο → ρ → ρ → Prop}

theorem InStep.answers (h : InStep step step' record R Q) {l : χ} {s : σ} {t : τ} (hst : R l s t)
    (ops : List ο) :
    (∃ rs s' rs' t', answers step s ops = some (rs, s') ∧ answers step' t ops = some (rs', t') ∧
      Compared record Q l ops rs rs' ∧ R (run record l ops) s' t') ∨
    (answers step s ops = none ∧ answers step' t ops = none) := by
  induction ops generalizing l s t with
  | nil => exact Or.inl ⟨[], s, [], t, rfl, rfl, Compared.nil l, hst⟩
  | cons o ops ih =>
    rcases h l s t o hst with ⟨r, s₁, r', t₁, hstep, hstep', hr, hst₁⟩ | ⟨hstep, hstep'⟩
    · rcases ih hst₁ with ⟨rs, s₂, rs', t₂, hrs, hrs', hcompared, hst₂⟩ | ⟨hnone, hnone'⟩
      · left
        exact ⟨r :: rs, s₂, r' :: rs', t₂,
          answers_cons_eq_some.mpr ⟨r, s₁, rs, hstep, hrs, rfl⟩,
          answers_cons_eq_some.mpr ⟨r', t₁, rs', hstep', hrs', rfl⟩, hcompared.cons hr, hst₂⟩
      · right
        simp only [Runs.answers, hstep, hstep', hnone, hnone', Option.bind_some, Option.map_none,
          and_self]
    · right
      simp only [Runs.answers, hstep, hstep', Option.bind_none, and_self]

/-- From related states, where the first system has a result the second has one, and the results
compare and leave related states. -/
def Follows (step : σ → ο → Option (ρ × σ)) (step' : τ → ο → Option (ρ × τ)) (record : χ → ο → χ)
    (R : χ → σ → τ → Prop) (Q : χ → ο → ρ → ρ → Prop) : Prop :=
  ∀ l s t o r s', R l s t → step s o = some (r, s') →
    ∃ r' t', step' t o = some (r', t') ∧ Q l o r r' ∧ R (record l o) s' t'

theorem Follows.answers (h : Follows step step' record R Q) {l : χ} {s s' : σ} {t : τ}
    (hst : R l s t) {ops : List ο} {rs : List ρ} (hrun : answers step s ops = some (rs, s')) :
    ∃ rs' t', answers step' t ops = some (rs', t') ∧ Compared record Q l ops rs rs' ∧
      R (run record l ops) s' t' := by
  induction ops generalizing l s t rs with
  | nil =>
    obtain ⟨rfl, rfl⟩ := Prod.mk.inj (Option.some.inj hrun)
    exact ⟨[], t, rfl, Compared.nil l, hst⟩
  | cons o ops ih =>
    obtain ⟨r, s₁, rest, hstep, hrest, rfl⟩ := answers_cons_eq_some.mp hrun
    obtain ⟨r', t₁, hstep', hr, hst₁⟩ := h l s t o r s₁ hst hstep
    obtain ⟨rs', t', hrest', hcompared, hst'⟩ := ih hst₁ hrest
    exact ⟨r' :: rs', t', answers_cons_eq_some.mpr ⟨r', t₁, rs', hstep', hrest', rfl⟩,
      hcompared.cons hr, hst'⟩

theorem Compared.at {l : χ} {ops : List ο} {rs rs' : List ρ} (h : Compared record Q l ops rs rs')
    {before after : List ο} {o : ο} (hops : ops = before ++ o :: after) :
    ∃ r r', rs[before.length]? = some r ∧ rs'[before.length]? = some r' ∧
      Q (run record l before) o r r' := by
  induction h generalizing before with
  | nil l => exact absurd hops.symm (List.append_ne_nil_of_right_ne_nil before (List.cons_ne_nil o after))
  | cons head tail ih =>
    cases before with
    | nil =>
      obtain ⟨rfl, rfl⟩ := List.cons.inj hops
      exact ⟨_, _, rfl, rfl, head⟩
    | cons first before =>
      obtain ⟨rfl, hrest⟩ := List.cons.inj hops
      exact ih hrest

end Runs
