import BoostSystem.Codes
import BoostSystem.Runs

/-!
# The representation of error codes over whole runs

`Content` says what an `error_code` holds: nothing, a value and a category with the location
attached last, or a `std::error_code`. `encode` is the representation of a content. Every operation
takes encodings to encodings, so after any run each variable is the encoding of its content: the
word `lcFlags` and the union never disagree.
-/

namespace BoostSystem

variable {V U K : Type}

inductive Content (U K : Type) where
  | empty
  | explicit (val : Int32) (cat : ErrorCategory U) (loc : Option Location)
  | wrapped (ec : StdErrorCode U K)

/-- The location attached last, if no later operation dropped it. -/
def Content.location : Content U K → Option Location
  | .explicit _ _ loc => loc
  | _ => none

section Word

theorem locationWord_low (loc : Option Location) : locationWord loc &&& 1 = 0 := by
  cases loc with
  | none => decide
  | some loc => exact loc.aligned

theorem two_le_locationWord (loc : Option Location) : 2 ≤ locationWord loc := by
  cases loc with
  | none => decide
  | some loc => exact UInt64.le_trans (by decide) loc.four_le

theorem word_ne_zero (loc : Option Location) (b : Bool) : locationWord loc ||| b.toUInt64 ≠ 0 :=
  Tagged.ne_of_lt_le (by decide) (Tagged.le_or_of_le 2 _ _ (two_le_locationWord loc))

theorem word_ne_one (loc : Option Location) (b : Bool) : locationWord loc ||| b.toUInt64 ≠ 1 :=
  Tagged.ne_of_lt_le (by decide) (Tagged.le_or_of_le 2 _ _ (two_le_locationWord loc))

theorem four_le_word_iff (loc : Option Location) (b : Bool) :
    4 ≤ locationWord loc ||| b.toUInt64 ↔ loc.isSome := by
  cases loc with
  | none => cases b <;> decide
  | some loc => exact iff_of_true (Tagged.le_or_of_le 4 _ _ loc.four_le) rfl

end Word

/-- The representation of a content. -/
def encode (w : Program U K) : Content U K → ErrorCode U K
  | .empty => ErrorCode.empty
  | .explicit val cat loc => ErrorCode.ofCategoryAt w val cat loc
  | .wrapped ec => ErrorCode.wrap ec

namespace ErrorCode

variable (w : Program U K) (val : Int32) (cat : ErrorCategory U) (loc : Option Location)
  (s : StdErrorCode U K)

theorem lcFlags_ofCategoryAt : (ofCategoryAt w val cat loc).lcFlags =
    locationWord loc ||| (failedImpl w val cat).toUInt64 := rfl

@[simp] theorem lcFlags_ofCategoryAt_zero :
    ((ofCategoryAt w val cat loc).lcFlags == 0) = false :=
  beq_eq_false_iff_ne.mpr (word_ne_zero loc _)

@[simp] theorem lcFlags_ofCategoryAt_one :
    ((ofCategoryAt w val cat loc).lcFlags == 1) = false :=
  beq_eq_false_iff_ne.mpr (word_ne_one loc _)

theorem ofCategory_eq : ofCategory w val cat = ofCategoryAt w val cat none := by
  unfold ofCategory ofCategoryAt locationWord
  cases failedImpl w val cat <;> rfl

@[simp] theorem value_empty : (empty : ErrorCode U K).value w = 0 := rfl

@[simp] theorem category_empty : (empty : ErrorCode U K).category = .system := rfl

@[simp] theorem value_ofCategoryAt : (ofCategoryAt w val cat loc).value w = val := by
  simp only [value, bne, lcFlags_ofCategoryAt_one]
  rfl

@[simp] theorem category_ofCategoryAt : (ofCategoryAt w val cat loc).category = cat := by
  simp only [category, lcFlags_ofCategoryAt_zero, lcFlags_ofCategoryAt_one]
  rfl

@[simp] theorem category_wrap : (wrap s).category = .interop := rfl

@[simp] theorem failed_empty : (empty : ErrorCode U K).failed = false := by
  simp [failed, empty]

@[simp] theorem failed_ofCategoryAt :
    (ofCategoryAt w val cat loc).failed = failedImpl w val cat := by
  simp only [failed, lcFlags_ofCategoryAt_one]
  rw [lcFlags_ofCategoryAt, Tagged.or_bool_and_one _ (locationWord_low loc)]
  cases failedImpl w val cat <;> rfl

@[simp] theorem hasLocation_ofCategoryAt :
    (ofCategoryAt w val cat loc).hasLocation = loc.isSome := by
  simp only [hasLocation, lcFlags_ofCategoryAt, ge_iff_le, four_le_word_iff, Bool.decide_eq_true]

@[simp] theorem location_ofCategoryAt :
    (ofCategoryAt w val cat loc).location = loc.map Location.address := by
  simp only [location, lcFlags_ofCategoryAt, ge_iff_le, four_le_word_iff,
    Tagged.or_bool_and_not_one _ (locationWord_low loc)]
  cases loc <;> rfl

@[simp] theorem equals_ofCategoryAt (n : Int32) (k : ErrorCategory U) :
    (ofCategoryAt w val cat loc).equals w n k = (n == val && k.eq w cat) := by
  simp only [equals, lcFlags_ofCategoryAt_zero, lcFlags_ofCategoryAt_one]
  rfl

@[simp] theorem toStd_ofCategoryAt :
    (ofCategoryAt w val cat loc).toStd w = ⟨val, cat.toStd w⟩ := by
  simp only [toStd, lcFlags_ofCategoryAt_zero, lcFlags_ofCategoryAt_one]
  rfl

theorem equals_ofCategory (n : Int32) (k : ErrorCategory U) :
    (ofCategory w val cat).equals w n k = (n == val && k.eq w cat) := by
  rw [ofCategory_eq, equals_ofCategoryAt]

theorem toStd_ofCategory : (ofCategory w val cat).toStd w = ⟨val, cat.toStd w⟩ := by
  rw [ofCategory_eq, toStd_ofCategoryAt]

@[simp] theorem toStd_wrap : (wrap s).toStd w = s := rfl

theorem relocate_ofCategoryAt (loc' : Option Location) :
    (ofCategoryAt w val cat loc).relocate loc' = ofCategoryAt w val cat loc' := by
  simp only [relocate, bne, lcFlags_ofCategoryAt_zero, lcFlags_ofCategoryAt_one, Bool.not_false,
    Bool.and_self, if_true]
  rw [lcFlags_ofCategoryAt, Tagged.or_bool_and_one _ (locationWord_low loc)]
  rfl

theorem bindStd_encode (x : Content U K) :
    (encode w x).bindStd w = wrap ((encode w x).toStd w) := by
  cases x with
  | empty => rfl
  | explicit val cat loc => simp only [encode, bindStd, bne, lcFlags_ofCategoryAt_one]; rfl
  | wrapped s => rfl

end ErrorCode

/-- `error_code( ec, loc )` attaches a location only to an explicit code. -/
def Content.relocate (loc : Option Location) : Content U K → Content U K
  | .explicit val cat _ => .explicit val cat loc
  | x => x

/-- The standard view of a boost category is unwrapped, every other standard category is kept. -/
def Content.ofStd (w : Program U K) (ec : StdErrorCode U K) : Content U K :=
  match ec.category.dynamicCast w with
  | some original => .explicit ec.value original none
  | none => .wrapped ec

theorem ofStd_eq_encode (w : Program U K) (ec : StdErrorCode U K) :
    ErrorCode.ofStd w ec = encode w (.ofStd w ec) := by
  unfold ErrorCode.ofStd Content.ofStd
  cases ec.category.dynamicCast w with
  | none => rfl
  | some original => exact ErrorCode.ofCategory_eq w _ _

theorem relocate_encode (w : Program U K) (loc : Option Location) (x : Content U K) :
    (encode w x).relocate loc = encode w (x.relocate loc) := by
  cases x with
  | empty => rfl
  | explicit val cat loc' => exact ErrorCode.relocate_ofCategoryAt w val cat loc' loc
  | wrapped s => rfl

/-- What a program can do to its `error_code` variables; `x` is the variable written. Assignments
build their right-hand side first, so `assign` is the matching construction. -/
inductive Op (V U K : Type) where
  | construct (x : V)
  | ofCategory (x : V) (val : Int32) (cat : ErrorCategory U)
  | ofCategoryAt (x : V) (val : Int32) (cat : ErrorCategory U) (loc : Option Location)
  | copy (x y : V)
  | relocate (x y : V) (loc : Option Location)
  | clear (x : V)
  | ofStd (x : V) (ec : StdErrorCode U K)
  /-- `operator T&`, with an assignment through the reference if there is one. -/
  | bindStd (x : V) (write : Option (StdErrorCode U K))

def Op.target : Op V U K → V
  | .construct x | .ofCategory x _ _ | .ofCategoryAt x _ _ _ | .copy x _ | .relocate x _ _
  | .clear x | .ofStd x _ | .bindStd x _ => x

/-- The code that an operation leaves in its target. -/
def Op.written (w : Program U K) (env : V → ErrorCode U K) : Op V U K → ErrorCode U K
  | .construct _ => .empty
  | .ofCategory _ val cat => .ofCategory w val cat
  | .ofCategoryAt _ val cat loc => .ofCategoryAt w val cat loc
  | .copy _ y => env y
  | .relocate _ y loc => (env y).relocate loc
  | .clear _ => .empty
  | .ofStd _ ec => .ofStd w ec
  | .bindStd x none => (env x).bindStd w
  | .bindStd x (some s) => ((env x).bindStd w).writeStd s

/-- The same for contents. -/
def Op.content (w : Program U K) (env : V → Content U K) : Op V U K → Content U K
  | .construct _ => .empty
  | .ofCategory _ val cat => .explicit val cat none
  | .ofCategoryAt _ val cat loc => .explicit val cat loc
  | .copy _ y => env y
  | .relocate _ y loc => (env y).relocate loc
  | .clear _ => .empty
  | .ofStd _ ec => .ofStd w ec
  | .bindStd x none => .wrapped ((encode w (env x)).toStd w)
  | .bindStd _ (some s) => .wrapped s

theorem written_encode (w : Program U K) (env : V → Content U K) (op : Op V U K) :
    op.written w (fun v => encode w (env v)) = encode w (op.content w env) := by
  cases op with
  | construct x => rfl
  | ofCategory x val cat => exact ErrorCode.ofCategory_eq w val cat
  | ofCategoryAt x val cat loc => rfl
  | copy x y => rfl
  | relocate x y loc => exact relocate_encode w loc (env y)
  | clear x => rfl
  | ofStd x ec => exact ofStd_eq_encode w ec
  | bindStd x write =>
    cases write with
    | none => exact ErrorCode.bindStd_encode w (env x)
    | some s =>
      rw [Op.written, ErrorCode.bindStd_encode]
      rfl

variable [DecidableEq V]

def step (w : Program U K) (env : V → ErrorCode U K) (op : Op V U K) : V → ErrorCode U K :=
  Function.update env op.target (op.written w env)

def contentStep (w : Program U K) (env : V → Content U K) (op : Op V U K) : V → Content U K :=
  Function.update env op.target (op.content w env)

/-- All variables start default constructed. -/
def run (w : Program U K) (ops : List (Op V U K)) : V → ErrorCode U K :=
  Runs.run (step w) (fun _ => .empty) ops

def contents (w : Program U K) (ops : List (Op V U K)) : V → Content U K :=
  Runs.run (contentStep w) (fun _ => .empty) ops

theorem step_encode (w : Program U K) (env : V → Content U K) (op : Op V U K) :
    step w (fun v => encode w (env v)) op = fun v => encode w (contentStep w env op v) := by
  funext v
  rw [step, contentStep, written_encode]
  by_cases hv : v = op.target
  · rw [hv, Function.update_self, Function.update_self]
  · rw [Function.update_of_ne hv, Function.update_of_ne hv]

/-- After any run, every variable is the encoding of its content. -/
theorem run_eq_encode (w : Program U K) (ops : List (Op V U K)) (x : V) :
    run w ops x = encode w (contents w ops x) := by
  have h : run w ops = fun v => encode w (contents w ops v) := by
    apply Runs.run_simulates (R := fun (env : V → ErrorCode U K) (env' : V → Content U K) =>
      env = fun v => encode w (env' v))
    · intro env env' op henv
      rw [henv, step_encode]
    · rfl
  exact congrFun h x

theorem contents_snoc (w : Program U K) (ops : List (Op V U K)) (op : Op V U K) :
    contents w (ops ++ [op]) = contentStep w (contents w ops) op := by
  rw [contents, Runs.run_append]
  rfl

/-- The location that an operation leaves with its target, from the locations carried before: a
copy takes over its source's, and relocating a code that is not explicit attaches nothing. -/
def Op.attaches (env : V → Content U K) (before : V → Option Location) :
    Op V U K → Option Location
  | .ofCategoryAt _ _ _ loc => loc
  | .copy _ y => before y
  | .relocate _ y loc =>
    match env y with
    | .explicit _ _ _ => loc
    | _ => none
  | .construct _ | .ofCategory _ _ _ | .clear _ | .ofStd _ _ | .bindStd _ _ => none

/-- The location that `x` carries after a run, read off the run backwards: `history` has the last
operation first, and the first one found that writes `x` decides. -/
def attached (w : Program U K) : List (Op V U K) → V → Option Location
  | [], _ => none
  | op :: history, x =>
    if x = op.target then op.attaches (contents w history.reverse) (attached w history)
    else attached w history x

omit [DecidableEq V] in
theorem attaches_eq (w : Program U K) (env : V → Content U K) (before : V → Option Location)
    (hbefore : ∀ y, before y = (env y).location) (op : Op V U K) :
    op.attaches env before = (op.content w env).location := by
  cases op with
  | construct x => rfl
  | ofCategory x val cat => rfl
  | ofCategoryAt x val cat loc => rfl
  | copy x y => exact hbefore y
  | relocate x y loc =>
    simp only [Op.attaches, Op.content]
    cases env y <;> rfl
  | clear x => rfl
  | ofStd x ec =>
    simp only [Op.attaches, Op.content, Content.ofStd]
    cases ec.category.dynamicCast w <;> rfl
  | bindStd x write => cases write <;> rfl

theorem attached_eq (w : Program U K) (history : List (Op V U K)) (x : V) :
    attached w history x = (contents w history.reverse x).location := by
  induction history generalizing x with
  | nil => rfl
  | cons op history ih =>
    rw [List.reverse_cons, contents_snoc, contentStep, attached]
    by_cases hx : x = op.target
    · rw [if_pos hx, hx, Function.update_self]
      exact attaches_eq w _ _ ih op
    · rw [if_neg hx, Function.update_of_ne hx, ih]

/-- What the word `lcFlags` says about the union, for a code that carries the location `loc`. -/
structure ErrorCode.WellFormed (w : Program U K) (a : ErrorCode U K) (loc : Option Location) :
    Prop where
  empty : a.lcFlags = 0 → a.data = .d1 0 none
  wrapped : a.lcFlags = 1 ↔ ∃ ec, a.data = .d2 ec
  explicit : a.lcFlags ≠ 0 → a.lcFlags ≠ 1 → ∃ val cat, a.data = .d1 val (some cat) ∧
    a.lcFlags &&& 1 = (failedImpl w val cat).toUInt64 ∧ a.lcFlags &&& ~~~1 = locationWord loc

theorem encode_wellFormed (w : Program U K) (x : Content U K) :
    (encode w x).WellFormed w x.location := by
  cases x with
  | empty =>
    refine ⟨fun _ => rfl, ?_, fun h => absurd rfl h⟩
    exact iff_of_false (by simp [encode, ErrorCode.empty]) (by rintro ⟨ec, hec⟩; cases hec)
  | explicit val cat loc =>
    refine ⟨fun h => absurd h (word_ne_zero loc _), ?_, fun _ _ => ⟨val, cat, rfl, ?_, ?_⟩⟩
    · exact iff_of_false (word_ne_one loc _) (by rintro ⟨ec, hec⟩; cases hec)
    · exact Tagged.or_bool_and_one _ (locationWord_low loc) _
    · exact Tagged.or_bool_and_not_one _ (locationWord_low loc) _
  | wrapped s =>
    refine ⟨fun h => absurd h (by simp [encode, ErrorCode.wrap]), ?_, fun _ h => absurd rfl h⟩
    exact iff_of_true rfl ⟨s, rfl⟩

theorem encode_failed (w : Program U K) (hw : w.BuiltinFailed) (x : Content U K)
    (hx : (encode w x).lcFlags ≠ 1) :
    (encode w x).failed = (encode w x).category.failed w ((encode w x).value w) := by
  cases x with
  | empty => simp [encode, ErrorCategory.failed, Program.classOf, systemErrorCategory]
  | explicit val cat loc => simp [encode, failedImpl_eq_failed w hw]
  | wrapped s => exact absurd rfl hx

theorem encode_hasLocation (w : Program U K) (x : Content U K) :
    (encode w x).hasLocation = x.location.isSome := by
  cases x with
  | empty => simp [encode, ErrorCode.hasLocation, ErrorCode.empty, Content.location]
  | explicit val cat loc => simp [encode, Content.location]
  | wrapped s => simp [encode, ErrorCode.hasLocation, ErrorCode.wrap, Content.location]

theorem encode_location (w : Program U K) (x : Content U K) :
    (encode w x).location = x.location.map Location.address := by
  cases x with
  | empty => simp [encode, ErrorCode.location, ErrorCode.empty, Content.location]
  | explicit val cat loc => simp [encode, Content.location]
  | wrapped s => simp [encode, ErrorCode.location, ErrorCode.wrap, Content.location]

/-- After every run: the representation is well formed for the location attached last, it reports
exactly that location, and an unwrapped code has failed exactly when its category says so, if the
categories with a builtin identifier decide as the builtin ones do. -/
theorem run_representation (w : Program U K) (ops : List (Op V U K)) (x : V) :
    (run w ops x).WellFormed w (attached w ops.reverse x) ∧
      (w.BuiltinFailed → (run w ops x).lcFlags ≠ 1 →
        (run w ops x).failed = (run w ops x).category.failed w ((run w ops x).value w)) ∧
      (run w ops x).hasLocation = (attached w ops.reverse x).isSome ∧
      (run w ops x).location = (attached w ops.reverse x).map Location.address := by
  rw [run_eq_encode, attached_eq, List.reverse_reverse]
  exact ⟨encode_wellFormed w _, fun hw => encode_failed w hw _, encode_hasLocation w _,
    encode_location w _⟩

def someLocation : Location := ⟨0x1000, by decide, by decide⟩

theorem plainPair_builtinFailed (userId : Bool → UInt64) : (plainPair userId).BuiltinFailed := by
  intro c _ ev
  cases c <;> rfl

/-- A copy of a user code that gets a location of its own. -/
theorem run_representation_relocated :
    (run (plainPair 0) [.ofCategory 0 5 (.user true), .relocate 1 0 someLocation] 1).location =
        some 0x1000 ∧
      (run (plainPair 0) [.ofCategory 0 5 (.user true), .relocate 1 0 someLocation] 1).failed =
        (ErrorCategory.user true).failed (plainPair 0) 5 := by
  obtain ⟨-, hfailed, -, hlocation⟩ := run_representation (plainPair 0)
    [.ofCategory 0 5 (.user true), .relocate 1 0 someLocation] 1
  exact ⟨hlocation.trans (by decide), hfailed (plainPair_builtinFailed 0) (by decide)⟩

/-- A code that some run leaves in a variable. -/
def Reachable (w : Program U K) (a : ErrorCode U K) : Prop :=
  ∃ (ops : List (Op ℕ U K)) (x : ℕ), run w ops x = a

/-- The reachable codes are the encodings of contents, and every content is reached. -/
theorem reachable_iff (w : Program U K) (a : ErrorCode U K) :
    Reachable w a ↔ ∃ x : Content U K, a = encode w x := by
  constructor
  · rintro ⟨ops, x, rfl⟩
    exact ⟨contents w ops x, run_eq_encode w ops x⟩
  · rintro ⟨x, rfl⟩
    cases x with
    | empty => exact ⟨[], 0, rfl⟩
    | explicit val cat loc => exact ⟨[.ofCategoryAt 0 val cat loc], 0, rfl⟩
    | wrapped s => exact ⟨[.bindStd 0 (some s)], 0, rfl⟩

end BoostSystem
