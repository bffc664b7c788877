import BoostSystem.Equivalence

/-!
# Comparisons with conditions across the conversion to `<system_error>`

For generic and user categories, asking the standard views is asking the categories: `std_category`
translates each argument back. The standard system category is not translated, so a user category
is never asked about it.
-/

namespace BoostSystem

variable {U K : Type}

/-- User categories keep off the library's identifiers. -/
def Program.Unreserved (w : Program U K) : Prop :=
  ∀ u, w.userId u ≠ genericCategoryId ∧ w.userId u ≠ systemCategoryId ∧
    w.userId u ≠ interopCategoryId

/-- The generic category or a user category. -/
inductive GenericOrUser : ErrorCategory U → Prop
  | generic : GenericOrUser .generic
  | user (u : U) : GenericOrUser (.user u)

section Views

variable (w : Program U K)

theorem toStd_user (hu : w.Unreserved) (u : U) :
    (ErrorCategory.user u).toStd w = .stdcat (.user u) :=
  ErrorCategory.toStd_of_id_ne w _ (hu u).1 (hu u).2.1

theorem genericThis_eq (hu : w.Unreserved) : w.genericThis = .generic := by
  have hid := w.genericThis_id
  cases h : w.genericThis with
  | generic => rfl
  | system => rw [h] at hid; exact absurd hid systemCategoryId_ne_generic
  | interop => rw [h] at hid; exact absurd hid interopCategoryId_ne_generic
  | user u => rw [h] at hid; exact absurd hid (hu u).1

theorem eq_generic_user (hu : w.Unreserved) (u : U) :
    (ErrorCategory.generic : ErrorCategory U).eq w (.user u) = false := by
  rw [ErrorCategory.eq_comm, ErrorCategory.eq_generic, beq_eq_false_iff_ne]
  exact (hu u).1

theorem toStd_generic_ne_user (hu : w.Unreserved) (u : U) :
    (ErrorCategory.generic : ErrorCategory U).toStd w ≠ (ErrorCategory.user u).toStd w := by
  rw [ErrorCategory.toStd_generic, toStd_user w hu]
  split_ifs <;> exact nofun

theorem toStd_injOn (hu : w.Unreserved) (c d : ErrorCategory U) (hc : GenericOrUser c)
    (hd : GenericOrUser d) (h : c.toStd w = d.toStd w) : c = d := by
  cases hc with
  | generic =>
    cases hd with
    | generic => rfl
    | user u => exact absurd h (toStd_generic_ne_user w hu u)
  | user u =>
    cases hd with
    | generic => exact absurd h.symm (toStd_generic_ne_user w hu u)
    | user u' =>
      rw [toStd_user w hu, toStd_user w hu] at h
      exact StdErrorCategory.stdcat.inj h

theorem toStd_generic_eq_iff (hu : w.Unreserved) (c : ErrorCategory U) (hc : GenericOrUser c) :
    (ErrorCategory.generic : ErrorCategory U).toStd w = c.toStd w ↔
      (ErrorCategory.generic : ErrorCategory U).eq w c = true := by
  cases hc with
  | generic => simp
  | user u =>
    exact iff_of_false (toStd_generic_ne_user w hu u) (Bool.eq_false_iff.mp (eq_generic_user w hu u))

/-- The standard view of a generic or user category is a `std_category` for it, or it is
`std::generic_category()`. -/
theorem object_toStd (hu : w.Unreserved) (c : ErrorCategory U) (hc : GenericOrUser c) :
    (c.toStd w).object w = .stdCategory c ∨ (c = .generic ∧ c.toStd w = .generic) := by
  cases hc with
  | generic =>
    rw [ErrorCategory.toStd_generic]
    split_ifs
    · exact Or.inl (congrArg StdObject.stdCategory (genericThis_eq w hu))
    · exact Or.inr ⟨rfl, rfl⟩
  | user u =>
    rw [toStd_user w hu]
    exact Or.inl rfl

end Views

namespace StdCategory

variable (w : Program U K)

theorem translate_toStd (hrtti : w.config.noRtti = false) (hu : w.Unreserved)
    (pc c : ErrorCategory U) (hpc : GenericOrUser pc) (hc : GenericOrUser c) :
    translate w ⟨pc.toStd w, pc⟩ (c.toStd w) = some c := by
  unfold translate
  by_cases hself : c.toStd w = pc.toStd w
  · rw [if_pos ((StdErrorCategory.eq_iff w _ _).mpr hself), toStd_injOn w hu c pc hc hpc hself]
  · rw [if_neg (mt (StdErrorCategory.eq_iff w _ _).mp hself)]
    cases hc with
    | generic => simp
    | user u =>
      have hne := (toStd_generic_ne_user w hu u).symm
      rw [toStd_user w hu] at hne ⊢
      have hcond : ((StdErrorCategory.stdcat (.user u)).eq w .generic ||
          (StdErrorCategory.stdcat (.user u)).eq w (ErrorCategory.generic.toStd w)) = false := by
        rw [Bool.or_eq_false_iff, Bool.eq_false_iff, Bool.eq_false_iff, ne_eq, ne_eq,
          StdErrorCategory.eq_iff, StdErrorCategory.eq_iff]
        exact ⟨nofun, hne⟩
      rw [hcond]
      simp [StdErrorCategory.dynamicCast, StdErrorCategory.object, hrtti]

/-- The system category of the standard library is not translated. -/
theorem translate_system (pc : ErrorCategory U) (hpc : pc.toStd w ≠ .system) :
    translate w ⟨pc.toStd w, pc⟩ .system = none := by
  have hself : (StdErrorCategory.system : StdErrorCategory U K).eq w (pc.toStd w) = false := by
    rw [Bool.eq_false_iff, ne_eq, StdErrorCategory.eq_iff]
    exact fun h => hpc h.symm
  have hgen : ((StdErrorCategory.system : StdErrorCategory U K).eq w .generic ||
      (StdErrorCategory.system : StdErrorCategory U K).eq w (ErrorCategory.generic.toStd w)) =
        false := by
    rw [Bool.or_eq_false_iff, Bool.eq_false_iff, Bool.eq_false_iff, ne_eq, ne_eq,
      StdErrorCategory.eq_iff, StdErrorCategory.eq_iff, ErrorCategory.toStd_generic]
    refine ⟨nofun, ?_⟩
    split_ifs <;> exact nofun
  simp only [translate, hself, hgen]
  cases h : w.config.noRtti <;> simp [StdErrorCategory.dynamicCast, StdErrorCategory.object, h]

end StdCategory

section Commute

variable (w : Program U K)

theorem equivalentCondition_toStd (hrtti : w.config.noRtti = false) (hu : w.Unreserved)
    (k c : ErrorCategory U) (hk : GenericOrUser k) (hc : GenericOrUser c) (v n : Int32) :
    (k.toStd w).equivalentCondition w v ⟨n, c.toStd w⟩ =
      k.equivalentCondition w v (.ofCategory n c) := by
  rcases object_toStd w hu k hk with hobj | ⟨rfl, hview⟩
  · rw [StdErrorCategory.equivalentCondition, hobj]
    simp only [StdCategory.equivalentCondition_eq,
      StdCategory.translate_toStd w hrtti hu k c hk hc]
  · -- `std::generic_category()` keeps the default, which compares with `( v, *this )`
    rw [hview]
    change StdErrorCondition.eq w ⟨v, .generic⟩ ⟨n, c.toStd w⟩ =
      ErrorCondition.eq w ⟨v, some .generic⟩ ⟨n, some c⟩
    have hiff := toStd_generic_eq_iff w hu c hc
    rw [hview] at hiff
    rw [Bool.eq_iff_iff, StdErrorCondition.eq_iff, ErrorCondition.eq_iff,
      StdErrorCondition.mk.injEq, hiff]
    rfl

theorem equivalentCode_toStd (hrtti : w.config.noRtti = false) (hu : w.Unreserved)
    (k c : ErrorCategory U) (hk : GenericOrUser k) (hc : GenericOrUser c) (v n : Int32) :
    (k.toStd w).equivalentCode w ⟨v, c.toStd w⟩ n =
      k.equivalentCode w (.ofCategory w v c) n := by
  rcases object_toStd w hu k hk with hobj | ⟨rfl, hview⟩
  · rw [StdErrorCategory.equivalentCode, hobj]
    simp only [StdCategory.equivalentCode_eq,
      StdCategory.translate_toStd w hrtti hu k c hk hc]
  · rw [hview]
    change StdErrorCategory.defaultEquivalentCode w .generic ⟨v, c.toStd w⟩ n =
      (ErrorCode.ofCategory w v c).equals w n .generic
    have hiff := toStd_generic_eq_iff w hu c hc
    rw [hview] at hiff
    rw [ErrorCode.equals_ofCategory, Bool.eq_iff_iff,
      StdErrorCategory.defaultEquivalentCode_iff, Bool.and_eq_true, beq_iff_eq, ← hiff]
    exact and_comm.trans (and_congr eq_comm eq_comm)

/-- Comparing a code with a condition commutes with the conversion of both to `<system_error>`,
when their categories are generic or user categories and overrides look at values and categories
only. -/
theorem eqCondition_toStd (hrtti : w.config.noRtti = false) (hu : w.Unreserved)
    (hw : w.ValueCategoryOnly) (bc : ErrorCode U K) (hbc : Reachable w bc) (hub : bc.lcFlags ≠ 1)
    (hk : GenericOrUser bc.category) (bn : ErrorCondition U) (hc : GenericOrUser bn.category) :
    bc.eqCondition w bn = (bc.toStd w).eqCondition w (bn.toStd w) := by
  obtain ⟨x, rfl⟩ := (reachable_iff w bc).mp hbc
  have hcode : bn.category.equivalentCode w (encode w x) bn.value =
      bn.category.equivalentCode w
        (.ofCategory w ((encode w x).value w) (encode w x).category) bn.value := by
    rw [ErrorCode.ofCategory_eq]
    exact equivalentCode_congr w hw _ x (.explicit _ _ none) _ (by simp [encode]) (by simp [encode])
  have hcond := equivalentCondition_congr w hw (encode w x).category ((encode w x).value w) bn
    (.ofCategory bn.value bn.category) rfl rfl
  rw [toStd_of_unwrapped w x hub, ErrorCondition.toStd_eq, StdErrorCode.eqCondition,
    equivalentCondition_toStd w hrtti hu _ _ hk hc, equivalentCode_toStd w hrtti hu _ _ hc hk,
    ← hcond, ← hcode]
  simp [ErrorCode.eqCondition, hub]

end Commute

theorem osAwarePair_unreserved : osAwarePair.Unreserved := by
  intro u
  cases u <;> decide

/-- A generic code and the condition of a user category that stands for it. -/
theorem eqCondition_toStd_generic :
    ((ErrorCode.ofCategory osAwarePair 2 .generic).toStd osAwarePair).eqCondition osAwarePair
      ((ErrorCondition.ofCategory 1 (.user true)).toStd osAwarePair) = true :=
  (eqCondition_toStd osAwarePair rfl osAwarePair_unreserved osAwarePair_valueCategoryOnly
    (.ofCategory osAwarePair 2 .generic) ⟨[.ofCategory 0 2 .generic], 0, rfl⟩ (by decide) .generic
    (.ofCategory 1 (.user true)) (.user true)).symm.trans (by decide)

end BoostSystem
