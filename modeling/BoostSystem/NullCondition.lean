import BoostSystem.Equivalence

/-!
# Conditions without a category pointer

Each observer of an `error_condition` answers a null pointer by itself, the way the generic category
would. Put together: every observer is a function of the value and the category, so a condition with
a null pointer cannot be told from one that holds the generic category.
-/

namespace BoostSystem

open CString Keyed

variable {U K : Type}

namespace ErrorCondition

variable (w : Program U K)

theorem failed_eq (c : ErrorCondition U) : c.failed w = failedImpl w c.value c.category := by
  cases hc : c.cat with
  | none => simp [failed, hc, category, value, failedImpl]
  | some cat => simp [failed, hc, category, value]

theorem message_eq (c : ErrorCondition U) : c.message w = c.category.message w c.value := by
  cases hc : c.cat with
  | none =>
    simp only [message, hc, category, Option.getD_none]
    rfl
  | some cat => simp [message, hc, category]

theorem messageBuffer_eq (c : ErrorCondition U) (buffer : Option Buffer) (len : ℕ) :
    c.messageBuffer w buffer len = c.category.messageBuffer w c.value buffer len := by
  cases hc : c.cat with
  | none =>
    simp only [messageBuffer, hc, category, Option.getD_none]
    rfl
  | some cat => simp [messageBuffer, hc, category]

theorem toString_eq (c : ErrorCondition U) :
    c.toString w = appendInt w ("cond:" ++ c.category.name w) c.value := by
  cases hc : c.cat with
  | none =>
    simp only [toString, hc, category, Option.getD_none]
    rfl
  | some cat => simp [toString, hc, category]

/-- No observer, comparison or conversion tells the two apart; with codes they compare alike where
overrides see values and categories only. -/
structure Indistinguishable (a b : ErrorCondition U) : Prop where
  failed : a.failed w = b.failed w
  message : a.message w = b.message w
  messageBuffer : ∀ buffer len, a.messageBuffer w buffer len = b.messageBuffer w buffer len
  toString : a.toString w = b.toString w
  toStd : a.toStd w = b.toStd w
  eq_left : ∀ c : ErrorCondition U, a.eq w c = b.eq w c
  eq_right : ∀ c : ErrorCondition U, c.eq w a = c.eq w b
  lt_left : ∀ c : ErrorCondition U, a.lt w c = b.lt w c
  lt_right : ∀ c : ErrorCondition U, c.lt w a = c.lt w b
  eqCondition : w.ValueCategoryOnly → ∀ ec : ErrorCode U K, Reachable w ec →
    ec.eqCondition w a = ec.eqCondition w b
  eqCode : w.ValueCategoryOnly → ∀ ec : ErrorCode U K, Reachable w ec →
    a.eqCode w ec = b.eqCode w ec

theorem eqCondition_congr (hw : w.ValueCategoryOnly) (a b : ErrorCondition U)
    (hv : a.value = b.value) (hc : a.category = b.category) (ec : ErrorCode U K) :
    ec.eqCondition w a = ec.eqCondition w b := by
  have hstd : a.toStd w = b.toStd w := by rw [toStd_eq, toStd_eq, hv, hc]
  have hcond := equivalentCondition_congr w hw ec.category (ec.value w) a b hv hc
  unfold ErrorCode.eqCondition
  rw [hstd, hcond, hv, hc]

theorem indistinguishable_of_eq (a b : ErrorCondition U)
    (hv : a.value = b.value) (hc : a.category = b.category) : Indistinguishable w a b where
  failed := by rw [failed_eq, failed_eq, hv, hc]
  message := by rw [message_eq, message_eq, hv, hc]
  messageBuffer buffer len := by rw [messageBuffer_eq, messageBuffer_eq, hv, hc]
  toString := by rw [toString_eq, toString_eq, hv, hc]
  toStd := by rw [toStd_eq, toStd_eq, hv, hc]
  eq_left c := by rw [eq_eq, eq_eq, hv, hc]
  eq_right c := by rw [eq_eq, eq_eq, hv, hc]
  lt_left c := by
    change (a.category.lt w _ || (a.category.eq w _ && decide (a.value < _))) = _
    rw [hv, hc]
    rfl
  lt_right c := by
    change (c.category.lt w a.category || (c.category.eq w a.category && decide (_ < a.value))) = _
    rw [hv, hc]
    rfl
  eqCondition hw ec _ := eqCondition_congr w hw a b hv hc ec
  eqCode hw ec _ := eqCondition_congr w hw a b hv hc ec

end ErrorCondition

/-- Conditions compare as values and categories, coherently, and a null pointer stands for the
generic category. -/
theorem condition_null_generic (w : Program U K) :
    (∀ a b : ErrorCondition U, a.eq w b = true ↔
      a.value = b.value ∧ a.category.eq w b.category = true) ∧
    Coherent (ErrorCondition.eq w) (ErrorCondition.lt w) ∧
    ∀ val, (ErrorCondition.ofGenericValue val).Indistinguishable w (.ofCategory val .generic) :=
  ⟨ErrorCondition.eq_iff w, (ErrorCondition.keyed w).coherent,
    fun _ => ErrorCondition.indistinguishable_of_eq w _ _ rfl rfl⟩

theorem condition_null_generic_two :
    (ErrorCode.ofCategory osAwarePair 2 (.user true)).eqCondition osAwarePair (.ofGenericValue 2) =
      (ErrorCode.ofCategory osAwarePair 2 (.user true)).eqCondition osAwarePair
        (.ofCategory 2 .generic) :=
  ((condition_null_generic osAwarePair).2.2 2).eqCondition osAwarePair_valueCategoryOnly _
    ⟨[.ofCategory 0 2 (.user true)], 0, rfl⟩

end BoostSystem
