import BoostSystem.Equivalence

/-!
# Codes across the conversion to `<system_error>`

A standard code enters an `error_code` by two routes, and an `error_code` leaves through the
standard view of its category. The two routes disagree on standard views of boost categories, and
the view is one per category object except under the generic and system identifiers.
-/

namespace BoostSystem

variable {U K : Type}

section OutputParameter

variable (w : Program U K)

theorem writeStd_bindStd (x : Content U K) (s : StdErrorCode U K) :
    ((encode w x).bindStd w).writeStd s = ErrorCode.wrap s := by
  rw [ErrorCode.bindStd_encode]
  rfl

theorem wrap_eq_ofStd_iff (s : StdErrorCode U K) :
    (ErrorCode.wrap s).eq w (.ofStd w s) = true ↔ s.category.dynamicCast w = none := by
  unfold ErrorCode.ofStd
  cases s.category.dynamicCast w with
  | none => simp [ErrorCode.eq, ErrorCode.wrap]
  | some pc => simp [ErrorCode.ofCategory_eq, ErrorCode.eq, ErrorCode.wrap]

/-- After an assignment of `s` through the reference, the code is `error_code( s )` and converts
back to `s` exactly when the category of `s` is no `std_category`. -/
theorem output_parameter_iff (ec : ErrorCode U K) (hec : Reachable w ec) (s : StdErrorCode U K) :
    (((ec.bindStd w).writeStd s).eq w (.ofStd w s) = true ∧
      (((ec.bindStd w).writeStd s).toStd w).eq w s = true) ↔
      s.category.dynamicCast w = none := by
  obtain ⟨x, rfl⟩ := (reachable_iff w ec).mp hec
  rw [writeStd_bindStd, wrap_eq_ofStd_iff]
  exact and_iff_left ((StdErrorCode.eq_iff w _ _).mpr rfl)

end OutputParameter

theorem output_parameter_iff_system :
    ((ErrorCode.empty.bindStd (plainPair 0)).writeStd ⟨5, .system⟩).eq (plainPair 0)
      (.ofStd (plainPair 0) ⟨5, .system⟩) = true :=
  ((output_parameter_iff (plainPair 0) .empty ⟨[], 0, rfl⟩ ⟨5, .system⟩).mpr rfl).1

theorem output_parameter_user_view :
    ¬ ∀ (ec : ErrorCode Bool Empty), Reachable (plainPair 0) ec → ∀ s : StdErrorCode Bool Empty,
      ((ec.bindStd (plainPair 0)).writeStd s).eq (plainPair 0) (.ofStd (plainPair 0) s) = true ∧
        (((ec.bindStd (plainPair 0)).writeStd s).toStd (plainPair 0)).eq (plainPair 0) s = true := by
  intro h
  have hview := (h .empty ⟨[], 0, rfl⟩ ⟨5, (ErrorCategory.user false).toStd (plainPair 0)⟩).1
  exact absurd hview (by decide)

section Views

variable (w : Program U K)

/-- Two category objects that compare equal by their identifier but have standard views of their
own. -/
def SplitView (c d : ErrorCategory U) : Prop :=
  c ≠ d ∧ c.id w = d.id w ∧ d.id w ≠ 0 ∧ d.id w ≠ genericCategoryId ∧ d.id w ≠ systemCategoryId

theorem toStd_eq_of_eq (c d : ErrorCategory U) (hcd : c.eq w d = true) (hs : ¬ SplitView w c d) :
    c.toStd w = d.toStd w := by
  obtain ⟨hid, hzero⟩ := (ErrorCategory.eq_iff w c d).mp hcd
  by_cases hg : d.id w = genericCategoryId
  · rw [ErrorCategory.toStd_of_generic_id w d hg, ErrorCategory.toStd_of_generic_id w c (hid.trans hg)]
  · by_cases hsys : d.id w = systemCategoryId
    · rw [ErrorCategory.toStd_of_system_id w d hsys,
        ErrorCategory.toStd_of_system_id w c (hid.trans hsys)]
    · have heq : c = d := by
        by_contra hne
        exact hs ⟨hne, hid, fun h0 => hne (hzero h0), hg, hsys⟩
      rw [heq]

theorem toStd_ne_of_split (c d : ErrorCategory U) (hs : SplitView w c d) :
    c.toStd w ≠ d.toStd w := by
  obtain ⟨hne, hid, -, hg, hsys⟩ := hs
  rw [ErrorCategory.toStd_of_id_ne w c (hid ▸ hg) (hid ▸ hsys),
    ErrorCategory.toStd_of_id_ne w d hg hsys]
  exact fun h => hne (StdErrorCategory.stdcat.inj h)

theorem eq_of_split (c d : ErrorCategory U) (hs : SplitView w c d) : c.eq w d = true :=
  (ErrorCategory.eq_iff w c d).mpr ⟨hs.2.1, fun h0 => absurd h0 hs.2.2.1⟩

theorem eq_encode_iff (x y : Content U K) (hx : (encode w x).lcFlags ≠ 1)
    (hy : (encode w y).lcFlags ≠ 1) :
    (encode w x).eq w (encode w y) = true ↔
      (encode w x).value w = (encode w y).value w ∧
        (encode w x).category.eq w (encode w y).category = true := by
  simp [ErrorCode.eq, hx, hy]

/-- Equal unwrapped codes convert to equal standard codes, and compare equal to each other's
conversion, unless they name two objects that share an identifier but not a standard view. -/
theorem conversion_respects_eq_iff (a b : ErrorCode U K) (ha : Reachable w a) (hb : Reachable w b)
    (hua : a.lcFlags ≠ 1) (hub : b.lcFlags ≠ 1) :
    ((a.eq w b = true → (a.toStd w).eq w (b.toStd w) = true) ∧
      (a.eq w b = true → a.eqStd w (b.toStd w) = true)) ↔
      ¬ (a.value w = b.value w ∧ SplitView w a.category b.category) := by
  obtain ⟨x, rfl⟩ := (reachable_iff w a).mp ha
  obtain ⟨y, rfl⟩ := (reachable_iff w b).mp hb
  have hstd : ((encode w x).toStd w).eq w ((encode w y).toStd w) = true ↔
      (encode w x).value w = (encode w y).value w ∧
        (encode w x).category.toStd w = (encode w y).category.toStd w := by
    rw [toStd_of_unwrapped w x hua, toStd_of_unwrapped w y hub, StdErrorCode.eq_iff,
      StdErrorCode.mk.injEq]
  unfold ErrorCode.eqStd
  rw [and_self, hstd, eq_encode_iff w x y hua hub]
  constructor
  · rintro himp ⟨hv, hs⟩
    exact toStd_ne_of_split w _ _ hs (himp ⟨hv, eq_of_split w _ _ hs⟩).2
  · rintro hns ⟨hv, hc⟩
    exact ⟨hv, toStd_eq_of_eq w _ _ hc fun hs => hns ⟨hv, hs⟩⟩

end Views

theorem conversion_respects_eq_iff_same :
    ((ErrorCode.ofCategory (plainPair 7) 5 (.user true)).toStd (plainPair 7)).eq (plainPair 7)
      ((ErrorCode.ofCategoryAt (plainPair 7) 5 (.user true) someLocation).toStd (plainPair 7)) =
        true :=
  ((conversion_respects_eq_iff (plainPair 7) _ _
    ⟨[.ofCategory 0 5 (.user true)], 0, rfl⟩ ⟨[.ofCategoryAt 0 5 (.user true) someLocation], 0, rfl⟩
    (by decide) (by decide)).mpr fun h => h.2.1 rfl).1 (by decide)

/-- Two objects of one user category class with the identifier 7. -/
theorem conversion_splits_twins :
    ¬ ∀ a b : ErrorCode Bool Empty, Reachable (plainPair 7) a → Reachable (plainPair 7) b →
      a.lcFlags ≠ 1 → b.lcFlags ≠ 1 →
      (a.eq (plainPair 7) b = true →
        (a.toStd (plainPair 7)).eq (plainPair 7) (b.toStd (plainPair 7)) = true) ∧
      (a.eq (plainPair 7) b = true → a.eqStd (plainPair 7) (b.toStd (plainPair 7)) = true) := by
  intro h
  have htwins := (h (.ofCategory (plainPair 7) 5 (.user false))
    (.ofCategory (plainPair 7) 5 (.user true)) ⟨[.ofCategory 0 5 (.user false)], 0, rfl⟩
    ⟨[.ofCategory 0 5 (.user true)], 0, rfl⟩ (by decide) (by decide)).1 (by decide)
  exact absurd htwins (by decide)

end BoostSystem
