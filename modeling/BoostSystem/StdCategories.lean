import BoostSystem.Conditions

/-!
# Standard categories, codes and conditions

What `<system_error>` does with `std::error_category` objects: identity, order by address, and the
virtual functions of `std::generic_category()`, `std::system_category()` and every other object.
`detail::std_category` forwards to the category that it stands for.
-/

namespace BoostSystem

open Keyed

variable {U K : Type}

def stdGenericCategory (w : Program U K) : StdCategoryClass U K where
  name := "generic"
  message := w.stdGenericMessage
  defaultErrorCondition := none
  equivalentCondition := none
  equivalentCode := none

def stdSystemCategory (w : Program U K) : StdCategoryClass U K where
  name := "system"
  message := w.stdSystemMessage
  defaultErrorCondition := some fun ev =>
    match w.posixErrno ev with
    | some posv => ⟨posv, .generic⟩
    | none => ⟨ev, .system⟩
  equivalentCondition := none
  equivalentCode := none

namespace StdErrorCategory

variable (w : Program U K)

def object : StdErrorCategory U K → StdObject U K
  | .generic => .derived (stdGenericCategory w)
  | .system => .derived (stdSystemCategory w)
  | .genericInstance => .stdCategory w.genericThis
  | .systemInstance => .stdCategory w.systemThis
  | .stdcat c => .stdCategory c
  | .foreign k => w.foreign k

/-- `dynamic_cast< std_category const* >( &cat )`, as the `original_category()` of the result.
Builds without RTTI leave it out, as if it always failed. -/
def dynamicCast (cat : StdErrorCategory U K) : Option (ErrorCategory U) :=
  if w.config.noRtti then none
  else match cat.object w with
    | .stdCategory pc => some pc
    | .derived _ => none

def name (cat : StdErrorCategory U K) : String :=
  match cat.object w with
  | .stdCategory pc => pc.name w
  | .derived cls => cls.name

def message (cat : StdErrorCategory U K) (ev : Int32) : Option String :=
  match cat.object w with
  | .stdCategory pc => pc.message w ev
  | .derived cls => cls.message ev

def defaultErrorCondition (cat : StdErrorCategory U K) (ev : Int32) : StdErrorCondition U K :=
  match cat.object w with
  | .stdCategory pc => (pc.defaultErrorCondition w ev).toStd w
  | .derived cls =>
    match cls.defaultErrorCondition with
    | some f => f ev
    | none => ⟨ev, cat⟩

def eq (lhs rhs : StdErrorCategory U K) : Bool := w.stdAddress lhs == w.stdAddress rhs

def lt (lhs rhs : StdErrorCategory U K) : Bool := w.stdAddress lhs < w.stdAddress rhs

@[simp] theorem eq_iff (c d : StdErrorCategory U K) : c.eq w d = true ↔ c = d := by
  rw [eq, beq_iff_eq, w.stdAddress_injective.eq_iff]

theorem keyed : KeyedBy (fun c => (w.stdAddress c).toNat) (eq w) (lt w) where
  eq_iff c d := by rw [eq_iff, UInt64.toNat_inj, w.stdAddress_injective.eq_iff]
  lt_iff c d := by rw [lt, decide_eq_true_iff, UInt64.lt_iff_toNat_lt]

end StdErrorCategory

namespace StdErrorCode

variable (w : Program U K)

def empty : StdErrorCode U K := ⟨0, .system⟩

def message (ec : StdErrorCode U K) : Option String := ec.category.message w ec.value

def defaultErrorCondition (ec : StdErrorCode U K) : StdErrorCondition U K :=
  ec.category.defaultErrorCondition w ec.value

def eq (lhs rhs : StdErrorCode U K) : Bool :=
  lhs.value == rhs.value && lhs.category.eq w rhs.category

def lt (lhs rhs : StdErrorCode U K) : Bool :=
  lhs.category.lt w rhs.category ||
    (lhs.category.eq w rhs.category && decide (lhs.value < rhs.value))

@[simp] theorem eq_iff (a b : StdErrorCode U K) : a.eq w b = true ↔ a = b := by
  cases a; cases b
  simp [eq]

theorem keyed : KeyedBy
    (fun a : StdErrorCode U K => toLex ((w.stdAddress a.category).toNat, a.value.toInt))
    (eq w) (lt w) :=
  ((StdErrorCategory.keyed w).comap category).lex (int32_keyed.comap value)

end StdErrorCode

namespace StdErrorCondition

variable (w : Program U K)

def eq (lhs rhs : StdErrorCondition U K) : Bool :=
  lhs.value == rhs.value && lhs.category.eq w rhs.category

@[simp] theorem eq_iff (a b : StdErrorCondition U K) : a.eq w b = true ↔ a = b := by
  cases a; cases b
  simp [eq]

end StdErrorCondition

end BoostSystem
