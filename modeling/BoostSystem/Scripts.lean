import Mathlib.Tactic.Common

/-!
# Computations that throw and keep their state

A `Script` returns or throws, and what it has done to the state stays done. `tryFinally` runs its
cleanup on the state that the body leaves, whether the body returned or threw.
-/

namespace Scripts

def Script (ε σ α : Type) : Type := σ → Except ε α × σ

namespace Script

variable {ε σ τ α β γ : Type}

instance : Monad (Script ε σ) where
  pure a s := (.ok a, s)
  bind x f s :=
    match x s with
    | (.ok a, s) => f a s
    | (.error e, s) => (.error e, s)

def throw (e : ε) : Script ε σ α := fun s => (.error e, s)

def get : Script ε σ σ := fun s => (.ok s, s)

def modify (f : σ → σ) : Script ε σ Unit := fun s => (.ok (), f s)

/-- A throw of the cleanup replaces the outcome of the body. -/
def tryFinally (body : Script ε σ α) (cleanup : Script ε σ Unit) : Script ε σ α := fun s =>
  match cleanup (body s).2 with
  | (.ok (), s') => ((body s).1, s')
  | (.error e, s') => (.error e, s')

@[simp] theorem pure_apply (a : α) (s : σ) : (pure a : Script ε σ α) s = (.ok a, s) := rfl

@[simp] theorem throw_apply (e : ε) (s : σ) : (throw e : Script ε σ α) s = (.error e, s) := rfl

@[simp] theorem get_apply (s : σ) : (get : Script ε σ σ) s = (.ok s, s) := rfl

@[simp] theorem modify_apply (f : σ → σ) (s : σ) : (modify f : Script ε σ Unit) s = (.ok (), f s) :=
  rfl

theorem bind_of_ok {x : Script ε σ α} {a : α} {s s' : σ} (h : x s = (.ok a, s'))
    (f : α → Script ε σ β) : (x >>= f) s = f a s' := by
  simp only [bind, h]

theorem bind_of_error {x : Script ε σ α} {e : ε} {s s' : σ} (h : x s = (.error e, s'))
    (f : α → Script ε σ β) : (x >>= f) s = (.error e, s') := by
  simp only [bind, h]

theorem outcome_cases (x : Script ε σ α) (s : σ) :
    (∃ a s', x s = (.ok a, s')) ∨ ∃ e s', x s = (.error e, s') := by
  cases h : x s with
  | mk outcome s' =>
    cases outcome with
    | ok a => exact Or.inl ⟨a, s', rfl⟩
    | error e => exact Or.inr ⟨e, s', rfl⟩

/-- What a sequence that returns has gone through. -/
theorem bind_eq_ok {x : Script ε σ α} {f : α → Script ε σ β} {s s'' : σ} {b : β}
    (h : (x >>= f) s = (.ok b, s'')) : ∃ a s', x s = (.ok a, s') ∧ f a s' = (.ok b, s'') := by
  rcases outcome_cases x s with ⟨a, s', hx⟩ | ⟨e, s', hx⟩
  · rw [bind_of_ok hx] at h
    exact ⟨a, s', hx, h⟩
  · rw [bind_of_error hx] at h
    exact nomatch h

theorem tryFinally_of_ok {cleanup : Script ε σ Unit} {s s' : σ} {body : Script ε σ α}
    (h : cleanup (body s).2 = (.ok (), s')) : tryFinally body cleanup s = ((body s).1, s') := by
  simp only [tryFinally, h]

theorem tryFinally_returns {body : Script ε σ α} {cleanup : Script ε σ Unit} {a : α} {s : σ}
    (hbody : ∃ s', body s = (.ok a, s')) (hcleanup : ∀ s₁, ∃ s₂, cleanup s₁ = (.ok (), s₂)) :
    ∃ s', tryFinally body cleanup s = (.ok a, s') := by
  obtain ⟨s₁, hs₁⟩ := hbody
  obtain ⟨s₂, hs₂⟩ := hcleanup (body s).2
  refine ⟨s₂, ?_⟩
  rw [tryFinally_of_ok hs₂, hs₁]

theorem bind_pure_snd (x : Script ε σ α) (g : α → β) (s : σ) :
    ((x >>= fun a => pure (g a)) s).2 = (x s).2 := by
  rcases outcome_cases x s with ⟨a, s', h⟩ | ⟨e, s', h⟩
  · rw [bind_of_ok h, pure_apply, h]
  · rw [bind_of_error h, h]

/-! ### Observations that a script leaves alone -/

/-- Whatever its outcome, `x` does not change what `f` observes. -/
def Keeps (f : σ → γ) (x : Script ε σ α) : Prop := ∀ s, f (x s).2 = f s

variable {f : σ → γ}

theorem keeps_pure (a : α) : (pure a : Script ε σ α).Keeps f := fun _ => rfl

theorem keeps_throw (e : ε) : (throw e : Script ε σ α).Keeps f := fun _ => rfl

theorem keeps_get : (get : Script ε σ σ).Keeps f := fun _ => rfl

theorem keeps_modify {g : σ → σ} (h : ∀ s, f (g s) = f s) : (modify g : Script ε σ Unit).Keeps f := h

theorem Keeps.bind {x : Script ε σ α} {g : α → Script ε σ β} (hx : x.Keeps f)
    (hg : ∀ a, (g a).Keeps f) : (x >>= g).Keeps f := by
  intro s
  have hs := hx s
  rcases outcome_cases x s with ⟨a, s', h⟩ | ⟨e, s', h⟩
  · rw [h] at hs
    rw [bind_of_ok h, hg a s', hs]
  · rw [h] at hs
    rw [bind_of_error h, hs]

theorem Keeps.tryFinally {x : Script ε σ α} {cleanup : Script ε σ Unit} (hx : x.Keeps f)
    (hcleanup : cleanup.Keeps f) : (tryFinally x cleanup).Keeps f := by
  intro s
  have hs := hcleanup (x s).2
  rw [hx s] at hs
  rcases outcome_cases cleanup (x s).2 with ⟨u, s', h⟩ | ⟨e, s', h⟩
  · rw [h] at hs
    rw [tryFinally_of_ok h, hs]
  · rw [h] at hs
    simp only [Script.tryFinally, h, hs]

theorem Keeps.mapM' {g : α → Script ε σ β} (hg : ∀ a, (g a).Keeps f) (as : List α) :
    (as.mapM' g).Keeps f := by
  induction as with
  | nil => exact keeps_pure []
  | cons a as ih =>
    rw [List.mapM'_cons]
    apply (hg a).bind
    intro b
    apply ih.bind
    intro bs
    exact keeps_pure (b :: bs)

/-! ### Scripts on related states -/

/-- From related states the scripts have one outcome and leave related states. -/
def Related (R : σ → τ → Prop) (x : Script ε σ α) (y : Script ε τ α) : Prop :=
  ∀ s t, R s t → (x s).1 = (y t).1 ∧ R (x s).2 (y t).2

section Related

variable {R : σ → τ → Prop}

theorem related_pure (a : α) : Related R (pure a : Script ε σ α) (pure a) := fun _ _ h => ⟨rfl, h⟩

theorem Related.bind {x : Script ε σ α} {y : Script ε τ α} {g : α → Script ε σ β}
    {h : α → Script ε τ β} (hxy : Related R x y) (hgh : ∀ a, Related R (g a) (h a)) :
    Related R (x >>= g) (y >>= h) := by
  intro s t hst
  obtain ⟨houtcome, hstates⟩ := hxy s t hst
  rcases outcome_cases x s with ⟨a, s', hx⟩ | ⟨e, s', hx⟩
  · rcases outcome_cases y t with ⟨a', t', hy⟩ | ⟨e, t', hy⟩
    · rw [hx, hy] at houtcome hstates
      rw [bind_of_ok hx, bind_of_ok hy, Except.ok.inj houtcome]
      exact hgh a' s' t' hstates
    · rw [hx, hy] at houtcome
      exact nomatch houtcome
  · rcases outcome_cases y t with ⟨a, t', hy⟩ | ⟨e', t', hy⟩
    · rw [hx, hy] at houtcome
      exact nomatch houtcome
    · rw [hx, hy] at houtcome hstates
      rw [bind_of_error hx, bind_of_error hy, Except.error.inj houtcome]
      exact ⟨rfl, hstates⟩

theorem Related.mapM' {g : α → Script ε σ β} {h : α → Script ε τ β}
    (hgh : ∀ a, Related R (g a) (h a)) (as : List α) : Related R (as.mapM' g) (as.mapM' h) := by
  induction as with
  | nil => exact related_pure []
  | cons a as ih =>
    rw [List.mapM'_cons, List.mapM'_cons]
    apply (hgh a).bind
    intro b
    apply ih.bind
    intro bs
    exact related_pure (b :: bs)

end Related

end Script

end Scripts
