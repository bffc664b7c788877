import BoostSystem.Categories

/-!
# Error conditions

`error_condition`: a value and a category pointer that may be null, in which case the condition
belongs to the generic category. Each observer has a branch for the null pointer. `ofCategory` and
`ofGenericValue` are the constructors that take `( val, cat )` and `generic_value_tag( val )`.
-/

namespace BoostSystem

open CString Keyed

variable {U K : Type}

def appendInt (w : Program U K) (s : String) (v : Int32) : String :=
  s ++ readArray 32 (snprintf w.stack 32 (":" ++ decimal v).toList)

theorem int32_keyed : KeyedBy Int32.toInt (fun a b => a == b) (fun a b => decide (a < b)) where
  eq_iff a b := by rw [beq_iff_eq, Int32.toInt_inj]
  lt_iff a b := by rw [decide_eq_true_iff, Int32.lt_iff_toInt_lt]

namespace ErrorCondition

def ofCategory (val : Int32) (cat : ErrorCategory U) : ErrorCondition U := ⟨val, some cat⟩

def ofGenericValue (val : Int32) : ErrorCondition U := ⟨val, none⟩

def value (c : ErrorCondition U) : Int32 := c.val

def category (c : ErrorCondition U) : ErrorCategory U := c.cat.getD .generic

variable (w : Program U K)

def catId (c : ErrorCondition U) : UInt64 :=
  match c.cat with
  | some cat => cat.id w
  | none => genericCategoryId

def message (c : ErrorCondition U) : Option String :=
  match c.cat with
  | some cat => cat.message w c.value
  | none => some (genericErrorCategoryMessage w c.value)

def messageBuffer (c : ErrorCondition U) (buffer : Option Buffer) (len : ℕ) : Text :=
  match c.cat with
  | some cat => cat.messageBuffer w c.value buffer len
  | none => genericErrorCategoryMessageBuffer w c.value buffer len

def failed (c : ErrorCondition U) : Bool :=
  match c.cat with
  | some cat => failedImpl w c.val cat
  | none => c.val != 0

def eq (lhs rhs : ErrorCondition U) : Bool :=
  if lhs.val != rhs.val then false
  else match lhs.cat, rhs.cat with
    | none, _ => rhs.catId w == genericCategoryId
    | some _, none => lhs.catId w == genericCategoryId
    | some lcat, some rcat => lcat.eq w rcat

def lt (lhs rhs : ErrorCondition U) : Bool :=
  lhs.category.lt w rhs.category ||
    (lhs.category.eq w rhs.category && decide (lhs.val < rhs.val))

def toStd (c : ErrorCondition U) : StdErrorCondition U K :=
  if w.config.avoidStdGenericCategory then ⟨c.value, c.category.toStd w⟩
  else match c.cat with
    | some cat => ⟨c.val, cat.toStd w⟩
    | none => ⟨c.val, .generic⟩

def toString (c : ErrorCondition U) : String :=
  appendInt w ("cond:" ++ match c.cat with
    | some cat => cat.name w
    | none => "generic") c.value

theorem catId_eq (c : ErrorCondition U) : c.catId w = c.category.id w := by
  cases h : c.cat <;> simp [catId, category, h]

/-- The three branches on null pointers compare the categories. -/
theorem eq_eq (c d : ErrorCondition U) :
    c.eq w d = (c.value == d.value && c.category.eq w d.category) := by
  by_cases hv : c.val = d.val
  · cases hc : c.cat with
    | none =>
      have hcat : c.category = .generic := by simp [category, hc]
      have hsymm := ErrorCategory.eq_comm w .generic d.category
      rw [ErrorCategory.eq_generic] at hsymm
      simp [eq, value, hv, hc, hcat, hsymm, catId_eq]
    | some cat =>
      cases hd : d.cat with
      | none =>
        have hcat : d.category = .generic := by simp [category, hd]
        simp [eq, value, hv, hc, hd, hcat, ErrorCategory.eq_generic, catId_eq]
      | some dat => simp [eq, value, hv, hc, hd, category]
  · simp [eq, value, hv]

theorem eq_iff (c d : ErrorCondition U) :
    c.eq w d = true ↔ c.value = d.value ∧ c.category.eq w d.category = true := by
  rw [eq_eq, Bool.and_eq_true, beq_iff_eq]

@[simp] theorem eq_self (c : ErrorCondition U) : c.eq w c = true :=
  (eq_iff w c c).mpr ⟨rfl, ErrorCategory.eq_self w _⟩

theorem keyed : KeyedBy
    (fun c : ErrorCondition U => toLex (c.category.key w, c.value.toInt)) (eq w) (lt w) := by
  have hlex := ((ErrorCategory.keyed w).comap (category (U := U))).lex
    (int32_keyed.comap (value (U := U)))
  exact ⟨fun c d => by rw [eq_eq]; exact hlex.eq_iff c d, hlex.lt_iff⟩

theorem toStd_eq (c : ErrorCondition U) : c.toStd w = ⟨c.value, c.category.toStd w⟩ := by
  unfold toStd
  split_ifs with havoid
  · rfl
  · cases hc : c.cat with
    | some cat => simp [value, category, hc]
    | none => simp [value, category, hc, havoid]

end ErrorCondition

end BoostSystem
