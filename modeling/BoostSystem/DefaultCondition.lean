import BoostSystem.Equivalence

/-!
# A code and its default condition

An unwrapped code equals the condition that its category maps it to. A code that wraps a standard
one is compared by `<system_error>`, while its default condition is made from `value()` and the
interop category, so the two meet only if the standard category maps the wrapped code there itself.
-/

namespace BoostSystem

variable {U K : Type}

section Defaults

variable (w : Program U K)

/-- Neither `equivalent` is overridden. -/
def ErrorCategory.DefaultEquivalent (c : ErrorCategory U) : Prop :=
  (w.classOf c).equivalentCondition = none ∧ (w.classOf c).equivalentCode = none

def StdErrorCategory.DefaultEquivalent (c : StdErrorCategory U K) : Prop :=
  ∃ cls, c.object w = .derived cls ∧ cls.equivalentCondition = none ∧ cls.equivalentCode = none

theorem equivalentCondition_default (c : ErrorCategory U) (hc : c.DefaultEquivalent w) (v : Int32) :
    c.equivalentCondition w v (c.defaultErrorCondition w v) = true := by
  rw [ErrorCategory.equivalentCondition, hc.1]
  exact ErrorCondition.eq_self w _

theorem std_equivalentCondition_default (c : StdErrorCategory U K) (hc : c.DefaultEquivalent w)
    (v : Int32) (sn : StdErrorCondition U K) :
    c.equivalentCondition w v sn = true ↔ c.defaultErrorCondition w v = sn := by
  obtain ⟨cls, hobj, hcond, -⟩ := hc
  rw [StdErrorCategory.equivalentCondition, hobj]
  simp only [hcond, StdErrorCondition.eq_iff]

theorem interop_equivalentCode_unreached (s : StdErrorCode U K)
    (hs : s.category.DefaultEquivalent w) (n : Int32) :
    ((ErrorCategory.interop : ErrorCategory U).toStd w).equivalentCode w s n = false := by
  obtain ⟨cls, hobj, -, -⟩ := hs
  have hself : s.category ≠ .stdcat .interop := by
    intro h
    rw [h] at hobj
    cases hobj
  rw [ErrorCategory.toStd_interop]
  change StdCategory.equivalentCode w ⟨.stdcat .interop, .interop⟩ s n = false
  rw [StdCategory.equivalentCode_eq]
  rcases StdCategory.translate_of_derived w ⟨.stdcat .interop, .interop⟩ _ cls hself hobj with
    htr | htr
  · rw [htr]
    change (ErrorCode.ofCategory w s.value .generic).equals w n .interop = false
    rw [ErrorCode.equals_ofCategory, ErrorCategory.eq_generic]
    simp
  · rw [htr]
    simp [ErrorCategory.eq_generic]

/-- A code whose category keeps the default `equivalent`s equals its default condition, unless it
wraps a standard code: then the standard category has to map that one to the same condition. -/
theorem eqCondition_defaultErrorCondition (ec : ErrorCode U K) (hec : Reachable w ec) :
    (ec.lcFlags ≠ 1 → ec.category.DefaultEquivalent w →
      ec.eqCondition w (ec.defaultErrorCondition w) = true) ∧
    ∀ s, ec.data = .d2 s → s.category.DefaultEquivalent w →
      (ec.eqCondition w (ec.defaultErrorCondition w) = true ↔
        s.defaultErrorCondition w = (ec.defaultErrorCondition w).toStd w) := by
  obtain ⟨x, rfl⟩ := (reachable_iff w ec).mp hec
  constructor
  · intro hun hcat
    have hself := equivalentCondition_default w _ hcat ((encode w x).value w)
    rw [ErrorCode.eqCondition, if_neg (mt beq_iff_eq.mp hun), Bool.or_eq_true]
    exact Or.inl hself
  · intro s hdata hcat
    obtain rfl : x = .wrapped s := by
      cases x with
      | empty => cases hdata
      | explicit val cat loc => cases hdata
      | wrapped s' => exact congrArg _ (Storage.d2.inj hdata)
    have hcode := interop_equivalentCode_unreached w s hcat ((ErrorCode.wrap s).value w)
    have hcond : (ErrorCode.wrap s).defaultErrorCondition w =
        ErrorCondition.ofCategory ((ErrorCode.wrap s).value w) .interop := rfl
    change StdErrorCode.eqCondition w s (((ErrorCode.wrap s).defaultErrorCondition w).toStd w) =
      true ↔ _
    rw [encode, hcond, ErrorCondition.toStd_eq, StdErrorCode.eqCondition, Bool.or_eq_true,
      std_equivalentCondition_default w s.category hcat]
    exact or_iff_left (Bool.eq_false_iff.mp hcode)

end Defaults

theorem eqCondition_defaultErrorCondition_user :
    (ErrorCode.ofCategory (plainPair 0) 5 (.user true)).eqCondition (plainPair 0)
      (.ofCategory 5 (.user true)) = true :=
  (eqCondition_defaultErrorCondition (plainPair 0) _
    ⟨[.ofCategory 0 5 (.user true)], 0, rfl⟩).1 (by decide) ⟨rfl, rfl⟩

/-- A code that wraps a standard system code differs from its default condition. -/
theorem wrapped_defaultErrorCondition :
    ¬ ∀ (ec : ErrorCode Bool Empty) (s : StdErrorCode Bool Empty), Reachable (plainPair 0) ec →
      ec.data = .d2 s → s.category.DefaultEquivalent (plainPair 0) →
        ec.eqCondition (plainPair 0) (ec.defaultErrorCondition (plainPair 0)) = true := by
  intro h
  have hsystem := h (.wrap ⟨5, .system⟩) ⟨5, .system⟩ ⟨[.ofStd 0 ⟨5, .system⟩], 0, rfl⟩ rfl
    ⟨stdSystemCategory (plainPair 0), rfl, rfl, rfl⟩
  exact absurd hsystem (by decide)

end BoostSystem
