import BoostSystem.CodeOrder
import BoostSystem.Equivalence

/-!
# The default-constructed code

The observers of `error_code` answer the default-constructed code without calling the system
category. Nothing tells it from `error_code( 0, system_category() )`.
-/

namespace BoostSystem

open CString

variable {U K : Type}

namespace ErrorCode

variable (w : Program U K)

theorem message_ofCategoryAt (val : Int32) (cat : ErrorCategory U) (loc : Option Location) :
    (ofCategoryAt w val cat loc).message w = cat.message w val := by
  simp only [message, lcFlags_ofCategoryAt_zero, lcFlags_ofCategoryAt_one, category_ofCategoryAt,
    value_ofCategoryAt]
  rfl

theorem messageBuffer_ofCategoryAt (val : Int32) (cat : ErrorCategory U) (loc : Option Location)
    (buffer : Option Buffer) (len : ℕ) :
    (ofCategoryAt w val cat loc).messageBuffer w buffer len =
      cat.messageBuffer w val buffer len := by
  simp only [messageBuffer, lcFlags_ofCategoryAt_zero, lcFlags_ofCategoryAt_one,
    category_ofCategoryAt, value_ofCategoryAt]
  rfl

theorem toString_ofCategoryAt (val : Int32) (cat : ErrorCategory U) (loc : Option Location) :
    (ofCategoryAt w val cat loc).toString w = appendInt w (cat.name w) val := by
  simp only [toString, categoryName, lcFlags_ofCategoryAt_zero, lcFlags_ofCategoryAt_one,
    value_ofCategoryAt]
  rfl

/-- The observers that do not compare. -/
structure SameObservers (a b : ErrorCode U K) : Prop where
  value : a.value w = b.value w
  category : a.category = b.category
  failed : a.failed = b.failed
  message : a.message w = b.message w
  messageBuffer : ∀ buffer len, a.messageBuffer w buffer len = b.messageBuffer w buffer len
  toString : a.toString w = b.toString w
  what : a.what w = b.what w
  hasLocation : a.hasLocation = b.hasLocation
  location : a.location = b.location
  hashValue : a.hashValue w = b.hashValue w
  defaultErrorCondition : a.defaultErrorCondition w = b.defaultErrorCondition w
  toStd : a.toStd w = b.toStd w

theorem empty_comparand : (empty : ErrorCode U K).comparand w =
    (ofCategoryAt w 0 .system none).comparand w := by
  simp only [comparand, lcFlags_ofCategoryAt_one, value_ofCategoryAt, category_ofCategoryAt]
  rfl

/-- The default-constructed code in the representation of an explicit one. -/
theorem empty_sameObservers :
    SameObservers w (empty : ErrorCode U K) (ofCategoryAt w 0 .system none) := by
  have hmessage : (empty : ErrorCode U K).message w = (ofCategoryAt w 0 .system none).message w := by
    rw [message_ofCategoryAt]
    rfl
  have htoString : (empty : ErrorCode U K).toString w =
      (ofCategoryAt w 0 .system none).toString w := by
    rw [toString_ofCategoryAt]
    rfl
  have hhas : (empty : ErrorCode U K).hasLocation =
      (ofCategoryAt w 0 .system none).hasLocation := by
    rw [hasLocation_ofCategoryAt]
    rfl
  have hlocation : (empty : ErrorCode U K).location = (ofCategoryAt w 0 .system none).location := by
    rw [location_ofCategoryAt]
    rfl
  have heq : (empty : ErrorCode U K).eq w (ofCategoryAt w 0 .system none) = true := by
    rw [(keyed w).eq_iff, empty_comparand]
  constructor
  · simp
  · simp
  · simp [failedImpl]
  · exact hmessage
  · intro buffer len
    rw [messageBuffer_ofCategoryAt]
    rfl
  · exact htoString
  · rw [what, what, hmessage, htoString, hhas, hlocation]
  · exact hhas
  · exact hlocation
  · exact hashValue_eq_of_eq w _ _ heq
  · simp [defaultErrorCondition]
  · rw [toStd_ofCategoryAt]
    exact toStd_of_unwrapped w .empty (by simp [encode, empty])

/-- No comparison tells the two apart either. -/
structure Indistinguishable (a b : ErrorCode U K) : Prop extends SameObservers w a b where
  eq_left : ∀ x : ErrorCode U K, Reachable w x → a.eq w x = b.eq w x
  eq_right : ∀ x : ErrorCode U K, Reachable w x → x.eq w a = x.eq w b
  ne_left : ∀ x : ErrorCode U K, Reachable w x → a.ne w x = b.ne w x
  ne_right : ∀ x : ErrorCode U K, Reachable w x → x.ne w a = x.ne w b
  lt_left : ∀ x : ErrorCode U K, Reachable w x → a.lt w x = b.lt w x
  lt_right : ∀ x : ErrorCode U K, Reachable w x → x.lt w a = x.lt w b
  eqCondition : ∀ c : ErrorCondition U, a.eqCondition w c = b.eqCondition w c
  eqCode : ∀ c : ErrorCondition U, c.eqCode w a = c.eqCode w b
  eqStd : ∀ s : StdErrorCode U K, a.eqStd w s = b.eqStd w s
  stdEq : ∀ s : StdErrorCode U K, stdEq w s a = stdEq w s b
  equivalentCode : ∀ k : ErrorCategory U, (w.classOf k).equivalentCode = none →
    ∀ n, k.equivalentCode w a n = k.equivalentCode w b n

theorem eq_congr_comparand (a b : ErrorCode U K) (h : a.comparand w = b.comparand w)
    (x : ErrorCode U K) : a.eq w x = b.eq w x ∧ x.eq w a = x.eq w b := by
  constructor <;> rw [Bool.eq_iff_iff, (keyed w).eq_iff, (keyed w).eq_iff, h]

theorem lt_congr_comparand (a b : ErrorCode U K) (h : a.comparand w = b.comparand w)
    (x : ErrorCode U K) : a.lt w x = b.lt w x ∧ x.lt w a = x.lt w b := by
  constructor <;> rw [Bool.eq_iff_iff, (keyed w).lt_iff, (keyed w).lt_iff, h]

end ErrorCode

/-- Overrides of `equivalent` see a code through its observers. -/
def Program.PublicOnly (w : Program U K) : Prop :=
  ∀ u f, (w.userClass u).equivalentCode = some f →
    ∀ a b : ErrorCode U K, a.SameObservers w b → ∀ n, f a n = f b n

section Invisible

variable (w : Program U K)

theorem empty_indistinguishable (hw : w.PublicOnly) :
    (ErrorCode.empty : ErrorCode U K).Indistinguishable w (.ofCategory w 0 .system) := by
  rw [ErrorCode.ofCategory_eq]
  have hobs := ErrorCode.empty_sameObservers w
  have hcmp := ErrorCode.empty_comparand w
  have hcode (k : ErrorCategory U) (n : Int32) : k.equivalentCode w .empty n =
      k.equivalentCode w (.ofCategoryAt w 0 .system none) n :=
    equivalentCode_congr_of w k .empty (.explicit 0 .system none) n hobs.value hobs.category
      fun u f hf => hw u f hf _ _ hobs n
  have hcond (c : ErrorCondition U) : ErrorCode.empty.eqCondition w c =
      (ErrorCode.ofCategoryAt w 0 .system none).eqCondition w c := by
    unfold ErrorCode.eqCondition
    rw [hcode, hobs.value, hobs.category, ErrorCode.lcFlags_ofCategoryAt_one]
    rfl
  exact
    { hobs with
      eq_left := fun x _ => (ErrorCode.eq_congr_comparand w _ _ hcmp x).1
      eq_right := fun x _ => (ErrorCode.eq_congr_comparand w _ _ hcmp x).2
      ne_left := fun x _ => congrArg not (ErrorCode.eq_congr_comparand w _ _ hcmp x).1
      ne_right := fun x _ => congrArg not (ErrorCode.eq_congr_comparand w _ _ hcmp x).2
      lt_left := fun x _ => (ErrorCode.lt_congr_comparand w _ _ hcmp x).1
      lt_right := fun x _ => (ErrorCode.lt_congr_comparand w _ _ hcmp x).2
      eqCondition := hcond
      eqCode := hcond
      eqStd := fun s => congrArg (StdErrorCode.eq w · s) hobs.toStd
      stdEq := fun s => congrArg (StdErrorCode.eq w s) hobs.toStd
      equivalentCode := fun k _ n => hcode k n }

/-- The default `equivalent` of a category decides whether the code is that category's `n`. -/
theorem equivalentCode_default (k : ErrorCategory U) (hk : (w.classOf k).equivalentCode = none)
    (x : Content U K) (n : Int32) : k.equivalentCode w (encode w x) n =
      (k.eq w (encode w x).category && (encode w x).value w == n) := by
  rw [ErrorCategory.equivalentCode, hk]
  exact equals_encode w x n k

/-- The default-constructed code cannot be told from `error_code( 0, system_category() )`, and a
category with the default `equivalent` answers for every code by its value and category. -/
theorem default_code_invisible (hw : w.PublicOnly) :
    (ErrorCode.empty : ErrorCode U K).Indistinguishable w (.ofCategory w 0 .system) ∧
    ∀ x : ErrorCode U K, Reachable w x → ∀ k : ErrorCategory U,
      (w.classOf k).equivalentCode = none → ∀ n,
        k.equivalentCode w x n = (k.eq w x.category && x.value w == n) := by
  refine ⟨empty_indistinguishable w hw, fun x hx k hk n => ?_⟩
  obtain ⟨content, rfl⟩ := (reachable_iff w x).mp hx
  exact equivalentCode_default w k hk content n

end Invisible

theorem osAwarePair_publicOnly : osAwarePair.PublicOnly := by
  intro u f hf a b hab n
  obtain rfl := Option.some.inj hf
  simp only [hab.category]

theorem default_code_invisible_osAware :
    (ErrorCode.empty : ErrorCode Bool Empty).eqCondition osAwarePair (.ofCategory 1 (.user true)) =
      (ErrorCode.ofCategory osAwarePair 0 .system).eqCondition osAwarePair
        (.ofCategory 1 (.user true)) :=
  (default_code_invisible osAwarePair osAwarePair_publicOnly).1.eqCondition _

end BoostSystem
