import BoostSystem.Representation

/-!
# Equivalence of codes and conditions

`operator==` between a code and a condition asks both categories, through the virtual functions
`equivalent`. A code that wraps a `std::error_code` is compared by `<system_error>` instead, where
`detail::std_category` translates standard arguments back to boost ones before it asks the category
that it stands for. `equivalentCondition` and `equivalentCode` are the overloads that take an `int`
and a condition, and a code and an `int`.
-/

namespace BoostSystem

variable {U K : Type}

namespace ErrorCategory

variable (w : Program U K)

def equivalentCondition (c : ErrorCategory U) (code : Int32) (condition : ErrorCondition U) :
    Bool :=
  match (w.classOf c).equivalentCondition with
  | some f => f code condition
  | none => (c.defaultErrorCondition w code).eq w condition

def equivalentCode (c : ErrorCategory U) (code : ErrorCode U K) (condition : Int32) : Bool :=
  match (w.classOf c).equivalentCode with
  | some f => f code condition
  | none => code.equals w condition c

end ErrorCategory

/-- A `detail::std_category` object, with its `pc_`. -/
structure StdCategory (U K : Type) where
  self : StdErrorCategory U K
  pc : ErrorCategory U

namespace StdErrorCategory

variable (w : Program U K)

/-- The `equivalent( std::error_code const&, int )` of the base class, which
`std::generic_category()` and `std::system_category()` keep. -/
def defaultEquivalentCode (cat : StdErrorCategory U K) (code : StdErrorCode U K)
    (condition : Int32) : Bool :=
  cat.eq w code.category && code.value == condition

theorem defaultEquivalentCode_iff (cat : StdErrorCategory U K) (code : StdErrorCode U K)
    (n : Int32) : cat.defaultEquivalentCode w code n = true ↔ code.category = cat ∧ code.value = n := by
  rw [defaultEquivalentCode, Bool.and_eq_true, eq_iff, beq_iff_eq, eq_comm]

end StdErrorCategory

namespace StdCategory

variable (w : Program U K)

def defaultErrorCondition (sc : StdCategory U K) (ev : Int32) : StdErrorCondition U K :=
  (sc.pc.defaultErrorCondition w ev).toStd w

def equivalentCondition (sc : StdCategory U K) (code : Int32)
    (condition : StdErrorCondition U K) : Bool :=
  if condition.category.eq w sc.self then
    sc.pc.equivalentCondition w code (.ofCategory condition.value sc.pc)
  else if condition.category.eq w .generic ||
      condition.category.eq w (ErrorCategory.generic.toStd w) then
    sc.pc.equivalentCondition w code (.ofCategory condition.value .generic)
  else match condition.category.dynamicCast w with
    | some pc2 => sc.pc.equivalentCondition w code (.ofCategory condition.value pc2)
    | none => (sc.defaultErrorCondition w code).eq w condition

def equivalentCode (sc : StdCategory U K) (code : StdErrorCode U K) (condition : Int32) : Bool :=
  if code.category.eq w sc.self then
    sc.pc.equivalentCode w (.ofCategory w code.value sc.pc) condition
  else if code.category.eq w .generic || code.category.eq w (ErrorCategory.generic.toStd w) then
    sc.pc.equivalentCode w (.ofCategory w code.value .generic) condition
  else match code.category.dynamicCast w with
    | some pc2 => sc.pc.equivalentCode w (.ofCategory w code.value pc2) condition
    | none =>
      if sc.pc.eq w .generic then
        StdErrorCategory.defaultEquivalentCode w .generic code condition
      else false

/-- The boost category that a `std_category` takes the category of its argument to stand for. -/
def translate (sc : StdCategory U K) (cat : StdErrorCategory U K) : Option (ErrorCategory U) :=
  if cat.eq w sc.self then some sc.pc
  else if cat.eq w .generic || cat.eq w (ErrorCategory.generic.toStd w) then some .generic
  else cat.dynamicCast w

theorem equivalentCondition_eq (sc : StdCategory U K) (code : Int32)
    (condition : StdErrorCondition U K) :
    sc.equivalentCondition w code condition =
      match sc.translate w condition.category with
      | some c => sc.pc.equivalentCondition w code (.ofCategory condition.value c)
      | none => (sc.defaultErrorCondition w code).eq w condition := by
  unfold equivalentCondition translate
  split_ifs <;> rfl

theorem equivalentCode_eq (sc : StdCategory U K) (code : StdErrorCode U K) (condition : Int32) :
    sc.equivalentCode w code condition =
      match sc.translate w code.category with
      | some c => sc.pc.equivalentCode w (.ofCategory w code.value c) condition
      | none => sc.pc.eq w .generic &&
          StdErrorCategory.defaultEquivalentCode w .generic code condition := by
  unfold equivalentCode translate
  split_ifs with hself hgeneric hpc
  · rfl
  · rfl
  · cases code.category.dynamicCast w <;> simp [hpc]
  · cases code.category.dynamicCast w <;> simp [hpc]

theorem translate_of_derived (sc : StdCategory U K) (cat : StdErrorCategory U K)
    (cls : StdCategoryClass U K) (hself : cat ≠ sc.self) (hcat : cat.object w = .derived cls) :
    sc.translate w cat = some .generic ∨ sc.translate w cat = none := by
  have hcast : cat.dynamicCast w = none := by
    rw [StdErrorCategory.dynamicCast, hcat]
    exact ite_self none
  rw [translate, if_neg (mt (StdErrorCategory.eq_iff w _ _).mp hself), hcast]
  split_ifs
  · exact Or.inl rfl
  · exact Or.inr rfl

end StdCategory

namespace StdErrorCategory

variable (w : Program U K)

def equivalentCondition (cat : StdErrorCategory U K) (code : Int32)
    (condition : StdErrorCondition U K) : Bool :=
  match cat.object w with
  | .stdCategory pc => StdCategory.equivalentCondition w ⟨cat, pc⟩ code condition
  | .derived cls =>
    match cls.equivalentCondition with
    | some f => f code condition
    | none => (cat.defaultErrorCondition w code).eq w condition

def equivalentCode (cat : StdErrorCategory U K) (code : StdErrorCode U K) (condition : Int32) :
    Bool :=
  match cat.object w with
  | .stdCategory pc => StdCategory.equivalentCode w ⟨cat, pc⟩ code condition
  | .derived cls =>
    match cls.equivalentCode with
    | some f => f code condition
    | none => cat.defaultEquivalentCode w code condition

end StdErrorCategory

def StdErrorCode.eqCondition (w : Program U K) (code : StdErrorCode U K)
    (condition : StdErrorCondition U K) : Bool :=
  code.category.equivalentCondition w code.value condition ||
    condition.category.equivalentCode w code condition.value

def ErrorCode.eqCondition (w : Program U K) (code : ErrorCode U K)
    (condition : ErrorCondition U) : Bool :=
  if code.lcFlags == 1 then (code.toStd w).eqCondition w (condition.toStd w)
  else code.category.equivalentCondition w (code.value w) condition ||
    condition.category.equivalentCode w code condition.value

def ErrorCondition.eqCode (w : Program U K) (condition : ErrorCondition U)
    (code : ErrorCode U K) : Bool := code.eqCondition w condition

section Unwrapped

variable (w : Program U K)

theorem toStd_of_unwrapped (x : Content U K) (hx : (encode w x).lcFlags ≠ 1) :
    (encode w x).toStd w = ⟨(encode w x).value w, (encode w x).category.toStd w⟩ := by
  cases x with
  | empty =>
    simp only [encode, ErrorCode.value_empty, ErrorCode.category_empty, ErrorCategory.toStd_system]
    cases h : w.config.avoidStdSystemCategory <;>
      simp [ErrorCode.toStd, ErrorCode.empty, StdErrorCode.empty, h]
  | explicit val cat loc => simp [encode]
  | wrapped s => exact absurd rfl hx

/-- The private `equals` compares the value and the category, whatever the representation. -/
theorem equals_encode (x : Content U K) (n : Int32) (k : ErrorCategory U) :
    (encode w x).equals w n k =
      (k.eq w (encode w x).category && (encode w x).value w == n) := by
  have hcomm (v : Int32) : (n == v) = (v == n) := BEq.comm
  cases x with
  | empty =>
    have hk := ErrorCategory.eq_of_id_ne_zero w k .system systemCategoryId_ne_zero
    simp only [encode, ErrorCode.value_empty, ErrorCode.category_empty, hk, ← hcomm, Bool.and_comm]
    rfl
  | explicit val cat loc => simp [encode, hcomm, Bool.and_comm]
  | wrapped s =>
    have hk := ErrorCategory.eq_of_id_ne_zero w k .interop interopCategoryId_ne_zero
    simp only [encode, ErrorCode.category_wrap, hk, ← hcomm]
    rfl

end Unwrapped

/-- Overrides of `equivalent` look at the value and the category of their argument only. -/
structure Program.ValueCategoryOnly (w : Program U K) : Prop where
  condition : ∀ u f, (w.userClass u).equivalentCondition = some f →
    ∀ ev (c d : ErrorCondition U), c.value = d.value → c.category = d.category → f ev c = f ev d
  code : ∀ u f, (w.userClass u).equivalentCode = some f →
    ∀ (a b : ErrorCode U K) n, a.value w = b.value w → a.category = b.category → f a n = f b n

theorem equivalentCondition_congr (w : Program U K) (hw : w.ValueCategoryOnly)
    (k : ErrorCategory U) (ev : Int32) (c d : ErrorCondition U) (hv : c.value = d.value)
    (hc : c.category = d.category) :
    k.equivalentCondition w ev c = k.equivalentCondition w ev d := by
  have hdefault (x : ErrorCondition U) : x.eq w c = x.eq w d := by
    rw [ErrorCondition.eq_eq, ErrorCondition.eq_eq, hv, hc]
  cases k with
  | generic => exact hdefault _
  | system => exact hdefault _
  | interop => exact hdefault _
  | user u =>
    unfold ErrorCategory.equivalentCondition
    simp only [Program.classOf]
    cases hf : (w.userClass u).equivalentCondition with
    | none => exact hdefault _
    | some f => exact hw.condition u f hf ev c d hv hc

/-- Codes with the same value and category get the same answer, if the overrides think so. -/
theorem equivalentCode_congr_of (w : Program U K) (k : ErrorCategory U) (x y : Content U K)
    (n : Int32) (hv : (encode w x).value w = (encode w y).value w)
    (hc : (encode w x).category = (encode w y).category)
    (hf : ∀ u f, (w.userClass u).equivalentCode = some f → f (encode w x) n = f (encode w y) n) :
    k.equivalentCode w (encode w x) n = k.equivalentCode w (encode w y) n := by
  have hdefault : (encode w x).equals w n k = (encode w y).equals w n k := by
    rw [equals_encode, equals_encode, hv, hc]
  cases k with
  | generic => exact hdefault
  | system => exact hdefault
  | interop => exact hdefault
  | user u =>
    unfold ErrorCategory.equivalentCode
    simp only [Program.classOf]
    cases hcls : (w.userClass u).equivalentCode with
    | none => exact hdefault
    | some f => exact hf u f hcls

theorem equivalentCode_congr (w : Program U K) (hw : w.ValueCategoryOnly) (k : ErrorCategory U)
    (x y : Content U K) (n : Int32) (hv : (encode w x).value w = (encode w y).value w)
    (hc : (encode w x).category = (encode w y).category) :
    k.equivalentCode w (encode w x) n = k.equivalentCode w (encode w y) n :=
  equivalentCode_congr_of w k x y n hv hc fun u f hf => hw.code u f hf _ _ n hv hc

/-- A class for which condition 1 stands for every generic and every system code. -/
def CategoryClass.osAware : CategoryClass Bool Empty where
  name := "os"
  message _ := some "message"
  messageBuffer := none
  failed := none
  defaultErrorCondition := none
  equivalentCondition := none
  equivalentCode := some fun code n =>
    n == 1 && (code.category == .generic || code.category == .system)

def osAwarePair : Program Bool Empty := pairProgram (fun _ => 0) fun _ => .osAware

theorem osAwarePair_valueCategoryOnly : osAwarePair.ValueCategoryOnly where
  condition _ _ hf := nomatch hf
  code _ _ hf a b n _ hc := by
    obtain rfl := Option.some.inj hf
    simp only [hc]

end BoostSystem
