import BoostSystem.ConditionInterop

/-!
# Comparisons with the system category across the conversion to `<system_error>`

`std_category` does not translate `std::system_category()` back, so a user category is never asked
about a standard system code or condition. Whether the answer of the comparison survives depends on
what the category would have said.
-/

namespace BoostSystem

variable {U K : Type}

/-- What `c` has to say about the system code `v` for the comparison to survive. Under the
identifiers of the generic and system categories the standard view of `c` is theirs. -/
def SystemCodeKept (w : Program U K) (c : ErrorCategory U) (v n : Int32) : Prop :=
  if c.id w = genericCategoryId then
    c.equivalentCode w (.ofCategory w v .system) n = true → v = n
  else if c.id w = systemCategoryId then
    (c.equivalentCode w (.ofCategory w v .system) n = true ↔ v = n)
  else c.equivalentCode w (.ofCategory w v .system) n = false

/-- The same about the system condition `n`. -/
def SystemConditionKept (w : Program U K) (c : ErrorCategory U) (v n : Int32) : Prop :=
  if c.id w = genericCategoryId then
    c.equivalentCondition w v (.ofCategory n .system) = false
  else if c.id w = systemCategoryId then
    c.equivalentCondition w v (.ofCategory n .system) = true → v = n
  else
    c.equivalentCondition w v (.ofCategory n .system) =
      (c.defaultErrorCondition w v).eq w (.ofCategory n .system)

section Boost

variable (w : Program U K)

theorem system_equivalentCondition (v : Int32) (bn : ErrorCondition U) :
    (ErrorCategory.system : ErrorCategory U).equivalentCondition w v bn =
      (v == bn.value && bn.category.id w == genericCategoryId) := by
  rw [← ErrorCategory.eq_generic, ErrorCategory.eq_comm]
  exact ErrorCondition.eq_eq w ⟨v, none⟩ bn

theorem system_equivalentCode (v n : Int32) (c : ErrorCategory U) :
    (ErrorCategory.system : ErrorCategory U).equivalentCode w (.ofCategory w v c) n =
      (v == n && c.id w == systemCategoryId) := by
  rw [← ErrorCategory.eq_system, ErrorCategory.eq_comm, BEq.comm]
  exact ErrorCode.equals_ofCategory w v c n .system

theorem ofCategory_eqCondition (c : ErrorCategory U) (v : Int32) (bn : ErrorCondition U) :
    (ErrorCode.ofCategory w v c).eqCondition w bn =
      (c.equivalentCondition w v bn ||
        bn.category.equivalentCode w (.ofCategory w v c) bn.value) := by
  rw [ErrorCode.ofCategory_eq]
  simp [ErrorCode.eqCondition]

end Boost

section Std

variable (w : Program U K)

theorem std_generic_equivalentCode (code : StdErrorCode U K) (n : Int32) :
    (StdErrorCategory.generic : StdErrorCategory U K).equivalentCode w code n = true ↔
      code.category = .generic ∧ code.value = n :=
  StdErrorCategory.defaultEquivalentCode_iff w .generic code n

theorem std_system_equivalentCode (code : StdErrorCode U K) (n : Int32) :
    (StdErrorCategory.system : StdErrorCategory U K).equivalentCode w code n = true ↔
      code.category = .system ∧ code.value = n :=
  StdErrorCategory.defaultEquivalentCode_iff w .system code n

theorem std_system_equivalentCondition (v : Int32) (hposix : w.posixErrno v = some v)
    (sn : StdErrorCondition U K) :
    (StdErrorCategory.system : StdErrorCategory U K).equivalentCondition w v sn = true ↔
      sn = ⟨v, .generic⟩ := by
  have hdefault : StdErrorCategory.system.defaultErrorCondition w v =
      (⟨v, .generic⟩ : StdErrorCondition U K) := by
    simp [StdErrorCategory.defaultErrorCondition, StdErrorCategory.object, stdSystemCategory, hposix]
  change StdErrorCondition.eq w (StdErrorCategory.system.defaultErrorCondition w v) sn = true ↔ _
  rw [hdefault, StdErrorCondition.eq_iff]
  exact eq_comm

theorem std_generic_equivalentCondition (v : Int32) (sn : StdErrorCondition U K) :
    (StdErrorCategory.generic : StdErrorCategory U K).equivalentCondition w v sn = true ↔
      sn = ⟨v, .generic⟩ := by
  change StdErrorCondition.eq w ⟨v, .generic⟩ sn = true ↔ _
  rw [StdErrorCondition.eq_iff]
  exact eq_comm

variable (c : ErrorCategory U) (hown : c.id w ≠ genericCategoryId ∧ c.id w ≠ systemCategoryId)

include hown

/-- A category that has a view of its own is not asked about standard system arguments. -/
theorem stdcat_translate_system :
    StdCategory.translate w ⟨.stdcat c, c⟩ (.system : StdErrorCategory U K) = none := by
  have hview := ErrorCategory.toStd_of_id_ne w c hown.1 hown.2
  have h := StdCategory.translate_system w c (by rw [hview]; exact nofun)
  rwa [hview] at h

theorem stdcat_equivalentCode_system (v n : Int32) :
    (StdErrorCategory.stdcat c).equivalentCode w ⟨v, .system⟩ n = false := by
  change StdCategory.equivalentCode w ⟨.stdcat c, c⟩ ⟨v, .system⟩ n = false
  rw [StdCategory.equivalentCode_eq, stdcat_translate_system w c hown]
  simp [ErrorCategory.eq_generic, hown.1]

theorem stdcat_equivalentCondition_system (v n : Int32) :
    (StdErrorCategory.stdcat c).equivalentCondition w v ⟨n, .system⟩ =
      ((c.defaultErrorCondition w v).toStd w).eq w ⟨n, .system⟩ := by
  change StdCategory.equivalentCondition w ⟨.stdcat c, c⟩ v ⟨n, .system⟩ = _
  rw [StdCategory.equivalentCondition_eq, stdcat_translate_system w c hown]
  rfl

end Std

section Conversion

variable (w : Program U K) (hg : w.config.avoidStdGenericCategory = false)
  (hs : w.config.avoidStdSystemCategory = false) (hposix : ∀ v, w.posixErrno v = some v)

include hs in
theorem toStd_eq_system_iff (c : ErrorCategory U) :
    c.toStd w = .system ↔ c.id w = systemCategoryId := by
  by_cases hgen : c.id w = genericCategoryId
  · rw [ErrorCategory.toStd_of_generic_id w c hgen, hgen]
    refine iff_of_false ?_ systemCategoryId_ne_generic.symm
    split_ifs <;> exact nofun
  · by_cases hsys : c.id w = systemCategoryId
    · rw [ErrorCategory.toStd_of_system_id w c hsys, hs]
      exact iff_of_true rfl hsys
    · rw [ErrorCategory.toStd_of_id_ne w c hgen hsys]
      exact iff_of_false nofun hsys

include hg in
theorem toStd_eq_generic (c : ErrorCategory U) (hid : c.id w = genericCategoryId) :
    c.toStd w = .generic := by
  rw [ErrorCategory.toStd_of_generic_id w c hid, hg]
  rfl

include hg hs hposix in
/-- Which standard comparisons of a system code with the condition `n` of `c` succeed. -/
theorem system_toStd_eqCondition (c : ErrorCategory U) (v n : Int32) :
    ((ErrorCode.ofCategory w v .system).toStd w).eqCondition w
      ((ErrorCondition.ofCategory n c).toStd w) = true ↔
      v = n ∧ (c.id w = genericCategoryId ∨ c.id w = systemCategoryId) := by
  have hcode : (ErrorCode.ofCategory w v .system).toStd w = (⟨v, .system⟩ : StdErrorCode U K) := by
    simp [ErrorCode.toStd_ofCategory, hs]
  rw [hcode, ErrorCondition.toStd_eq, StdErrorCode.eqCondition, Bool.or_eq_true,
    std_system_equivalentCondition w v (hposix v)]
  change StdErrorCondition.mk n (c.toStd w) = _ ∨
    (c.toStd w).equivalentCode w ⟨v, .system⟩ n = true ↔ _
  by_cases hgen : c.id w = genericCategoryId
  · rw [toStd_eq_generic w hg c hgen, std_generic_equivalentCode]
    simp [hgen, eq_comm]
  · by_cases hsys : c.id w = systemCategoryId
    · rw [(toStd_eq_system_iff w hs c).mpr hsys, std_system_equivalentCode]
      simp [hsys]
    · rw [ErrorCategory.toStd_of_id_ne w c hgen hsys,
        stdcat_equivalentCode_system w c ⟨hgen, hsys⟩]
      simp [hgen, hsys]

include hg hs hposix in
theorem toStd_eqCondition_system (c : ErrorCategory U) (v n : Int32) :
    ((ErrorCode.ofCategory w v c).toStd w).eqCondition w
      ((ErrorCondition.ofCategory n .system).toStd w) =
      if c.id w = genericCategoryId then false
      else if c.id w = systemCategoryId then v == n
      else (c.defaultErrorCondition w v).eq w (.ofCategory n .system) := by
  have hcond : (ErrorCondition.ofCategory n .system).toStd w =
      (⟨n, .system⟩ : StdErrorCondition U K) := by
    rw [ErrorCondition.toStd_eq]
    simp [ErrorCondition.ofCategory, ErrorCondition.value, ErrorCondition.category, hs]
  rw [ErrorCode.toStd_ofCategory, hcond, Bool.eq_iff_iff, StdErrorCode.eqCondition, Bool.or_eq_true]
  change (c.toStd w).equivalentCondition w v ⟨n, .system⟩ = true ∨
    StdErrorCategory.system.equivalentCode w ⟨v, c.toStd w⟩ n = true ↔ _
  rw [std_system_equivalentCode, toStd_eq_system_iff w hs]
  split_ifs with hgen hsys
  · rw [toStd_eq_generic w hg c hgen, std_generic_equivalentCondition]
    simp [hgen, systemCategoryId_ne_generic.symm]
  · rw [(toStd_eq_system_iff w hs c).mpr hsys, std_system_equivalentCondition w v (hposix v)]
    simp [hsys]
  · rw [ErrorCategory.toStd_of_id_ne w c hgen hsys,
      stdcat_equivalentCondition_system w c ⟨hgen, hsys⟩, ErrorCondition.eq_iff,
      StdErrorCondition.eq_iff, ErrorCondition.toStd_eq, StdErrorCondition.mk.injEq,
      toStd_eq_system_iff w hs, ErrorCategory.eq_iff]
    simp [hsys, ErrorCondition.ofCategory, ErrorCondition.value, ErrorCondition.category]

include hg hs hposix in
/-- A comparison of a system code with a user condition, or of a user code with a system condition,
survives the conversion of both exactly when the user category says so. -/
theorem system_comparisons_iff (u : U) (v n : Int32) :
    ((ErrorCode.ofCategory w v .system).eqCondition w (.ofCategory n (.user u)) =
        ((ErrorCode.ofCategory w v .system).toStd w).eqCondition w
          ((ErrorCondition.ofCategory n (.user u)).toStd w) ↔
      SystemCodeKept w (.user u) v n) ∧
    ((ErrorCode.ofCategory w v (.user u)).eqCondition w (.ofCategory n .system) =
        ((ErrorCode.ofCategory w v (.user u)).toStd w).eqCondition w
          ((ErrorCondition.ofCategory n .system).toStd w) ↔
      SystemConditionKept w (.user u) v n) := by
  constructor
  · have hboost : (ErrorCode.ofCategory w v .system).eqCondition w (.ofCategory n (.user u)) =
        (v == n && (ErrorCategory.user u).id w == genericCategoryId ||
          (ErrorCategory.user u).equivalentCode w (.ofCategory w v .system) n) := by
      rw [ofCategory_eqCondition, system_equivalentCondition]
      rfl
    rw [hboost, Bool.eq_iff_iff, system_toStd_eqCondition w hg hs hposix, SystemCodeKept]
    split_ifs with hgen hsys
    · simp [hgen]
    · simp [hsys]
    · simp [hgen, hsys]
  · have hboost : (ErrorCode.ofCategory w v (.user u)).eqCondition w (.ofCategory n .system) =
        ((ErrorCategory.user u).equivalentCondition w v (.ofCategory n .system) ||
          (v == n && (ErrorCategory.user u).id w == systemCategoryId)) := by
      rw [ofCategory_eqCondition]
      exact congrArg _ (system_equivalentCode w v n (.user u))
    rw [hboost, toStd_eqCondition_system w hg hs hposix, SystemConditionKept]
    split_ifs with hgen hsys
    · simp [hgen, systemCategoryId_ne_generic.symm]
    · rw [hsys, beq_self_eq_true, Bool.and_true, Bool.eq_iff_iff, Bool.or_eq_true, beq_iff_eq]
      exact or_iff_right_iff_imp
    · rw [beq_false_of_ne hsys, Bool.and_false, Bool.or_false]

end Conversion

/-- Condition 2 of the category is not about system codes. -/
theorem system_comparisons_iff_two :
    ((ErrorCode.ofCategory osAwarePair 5 .system).toStd osAwarePair).eqCondition osAwarePair
      ((ErrorCondition.ofCategory 2 (.user true)).toStd osAwarePair) = false :=
  ((system_comparisons_iff osAwarePair rfl rfl (fun _ => rfl) true 5 2).1.mpr (by
    unfold SystemCodeKept
    decide)).symm.trans (by decide)

/-- A system code matches condition 1 until both are converted. -/
theorem system_code_lost :
    ¬ ((ErrorCode.ofCategory osAwarePair 5 .system).eqCondition osAwarePair
        (.ofCategory 1 (.user true)) = true ↔
      ((ErrorCode.ofCategory osAwarePair 5 .system).toStd osAwarePair).eqCondition osAwarePair
        ((ErrorCondition.ofCategory 1 (.user true)).toStd osAwarePair) = true) := by
  decide

end BoostSystem
