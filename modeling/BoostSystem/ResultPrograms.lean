import BoostSystem.Results

/-!
# Results instead of exceptions

A program applies the operators of `result` one after the other. The same program can be written with
exceptions: `value()` is called on every result at once, and `|` is a `try` block with a handler for
what `value()` throws. `result<void, E>` is the case of `Unit`, and `result<U&, E>` that of a pointer.
Functions are computations of any monad; what they do besides returning is the same in both programs.
`Converting` marks an operator whose function returns a result of other types, for those that convert.
-/

namespace BoostSystem

/-- An error type, with what `throw_exception_from_error` throws for an error. -/
structure ErrorType (X : Type) where
  carrier : Type
  exception : carrier → X

namespace Result

variable {X : Type} {M : Type → Type} [Monad M]

section Operators

variable {T U E E' : Type}

/-- The converting constructor. It constructs an error first, which a value then replaces. -/
def ofResult (toT : U → T) (toE : E' → E) (r2 : Result U E') : Result T E :=
  match r2 with
  | .value v => .value (toT v)
  | .error e => .error (toE e)

def valueOrThrow (F : ErrorType X) (r : Result T F.carrier) : Except X T :=
  match r with
  | .value v => .ok v
  | .error e => .error (F.exception e)

def andConverting (toE : E → E') (r : Result T E) (f : T → M (Result U E')) : M (Result U E') :=
  match r with
  | .error e => pure (.error (toE e))
  | .value v => f v

def andAssignValue (toT : U → T) (r : Result T E) (f : T → M U) : M (Result T E) :=
  match r with
  | .value v => do
    let u ← f v
    return .value (toT u)
  | .error _ => pure r

def andAssignConverting (toT : U → T) (toE : E' → E) (r : Result T E)
    (f : T → M (Result U E')) : M (Result T E) :=
  match r with
  | .value v => do
    let r2 ← f v
    return r2.ofResult toT toE
  | .error _ => pure r

def orValue (toT : U → T) (r : Result T E) (f : M U) : M T :=
  match r with
  | .value v => pure v
  | .error _ => do
    let u ← f
    return toT u

def orConverting (toU : T → U) (r : Result T E) (f : M (Result U E')) : M (Result U E') :=
  match r with
  | .value v => pure (.value (toU v))
  | .error _ => f

def orAssignValue (toT : U → T) (r : Result T E) (f : M U) : M (Result T E) :=
  match r with
  | .value _ => pure r
  | .error _ => do
    let u ← f
    return .value (toT u)

def orAssignConverting (toT : U → T) (toE : E' → E) (r : Result T E)
    (f : M (Result U E')) : M (Result T E) :=
  match r with
  | .value _ => pure r
  | .error _ => do
    let r2 ← f
    return r2.ofResult toT toE

end Operators

end Result

/-! ### Programs -/

/-- From `result<T, E>` to `result<U, F>`, by one operator after the other. -/
inductive ResultProgram (X : Type) (M : Type → Type) :
    Type → ErrorType X → Type → ErrorType X → Type 1 where
  | done {T : Type} {E : ErrorType X} : ResultProgram X M T E T E
  | andValue {T V U : Type} {E F : ErrorType X} (f : T → M V) (rest : ResultProgram X M V E U F) :
      ResultProgram X M T E U F
  | andResult {T V U : Type} {E E' F : ErrorType X} (toE : E.carrier → E'.carrier)
      (f : T → M (Result V E'.carrier)) (rest : ResultProgram X M V E' U F) :
      ResultProgram X M T E U F
  | andAssignValue {T V U : Type} {E F : ErrorType X} (toT : V → T) (f : T → M V)
      (rest : ResultProgram X M T E U F) : ResultProgram X M T E U F
  | andAssignResult {T V U : Type} {E E' F : ErrorType X} (toT : V → T)
      (toE : E'.carrier → E.carrier) (f : T → M (Result V E'.carrier))
      (rest : ResultProgram X M T E U F) : ResultProgram X M T E U F
  | orResult {T V U : Type} {E E' F : ErrorType X} (toV : T → V) (f : M (Result V E'.carrier))
      (rest : ResultProgram X M V E' U F) : ResultProgram X M T E U F
  | orAssignValue {T V U : Type} {E F : ErrorType X} (toT : V → T) (f : M V)
      (rest : ResultProgram X M T E U F) : ResultProgram X M T E U F
  | orAssignResult {T V U : Type} {E E' F : ErrorType X} (toT : V → T)
      (toE : E'.carrier → E.carrier) (f : M (Result V E'.carrier))
      (rest : ResultProgram X M T E U F) : ResultProgram X M T E U F

namespace ResultProgram

variable {X : Type} {M : Type → Type}

/-- Conversions of errors keep the exception. -/
def Coherent {T U : Type} {E F : ErrorType X} : ResultProgram X M T E U F → Prop
  | .done => True
  | .andValue _ rest | .andAssignValue _ _ rest | .orResult _ _ rest | .orAssignValue _ _ rest =>
    rest.Coherent
  | @andResult _ _ _ _ _ E E' _ toE _ rest =>
    (∀ e, E'.exception (toE e) = E.exception e) ∧ rest.Coherent
  | @andAssignResult _ _ _ _ _ E E' _ _ toE _ rest =>
    (∀ e, E.exception (toE e) = E'.exception e) ∧ rest.Coherent
  | @orAssignResult _ _ _ _ _ E E' _ _ toE _ rest =>
    (∀ e, E.exception (toE e) = E'.exception e) ∧ rest.Coherent

variable [Monad M]

def eval {T U : Type} {E F : ErrorType X} :
    ResultProgram X M T E U F → Result T E.carrier → M (Result U F.carrier)
  | .done, r => pure r
  | .andValue f rest, r => do rest.eval (← r.andValue f)
  | .andResult toE f rest, r => do rest.eval (← r.andConverting toE f)
  | .andAssignValue toT f rest, r => do rest.eval (← r.andAssignValue toT f)
  | .andAssignResult toT toE f rest, r => do
    rest.eval (← r.andAssignConverting toT toE f)
  | .orResult toV f rest, r => do rest.eval (← r.orConverting toV f)
  | .orAssignValue toT f rest, r => do rest.eval (← r.orAssignValue toT f)
  | .orAssignResult toT toE f rest, r => do
    rest.eval (← r.orAssignConverting toT toE f)

def valueOf {T : Type} (F : ErrorType X) (r : M (Result T F.carrier)) : ExceptT X M T :=
  ExceptT.mk (Result.valueOrThrow F <$> r)

/-- The same with exceptions; `x` is the computation so far. -/
def throwing {T U : Type} {E F : ErrorType X} :
    ResultProgram X M T E U F → ExceptT X M T → ExceptT X M U
  | .done, x => x
  | .andValue f rest, x => rest.throwing do
    let v ← x
    ExceptT.lift (f v)
  | @andResult _ _ _ _ _ _ E' _ _ f rest, x => rest.throwing do
    let v ← x
    valueOf E' (f v)
  | .andAssignValue toT f rest, x => rest.throwing do
    let v ← x
    return toT (← ExceptT.lift (f v))
  | @andAssignResult _ _ _ _ _ _ E' _ toT _ f rest, x => rest.throwing do
    let v ← x
    return toT (← valueOf E' (f v))
  | @orResult _ _ _ _ _ _ E' _ toV f rest, x =>
    rest.throwing (tryCatch (do return toV (← x)) fun _ => valueOf E' f)
  | .orAssignValue toT f rest, x =>
    rest.throwing (tryCatch x fun _ => do return toT (← ExceptT.lift f))
  | @orAssignResult _ _ _ _ _ _ E' _ toT _ f rest, x =>
    rest.throwing (tryCatch x fun _ => do return toT (← valueOf E' f))

section Lawful

variable [LawfulMonad M]

theorem valueOf_bind {T U : Type} {E E' : ErrorType X} (c : M (Result T E.carrier))
    {k : T → ExceptT X M U} {g : Result T E.carrier → M (Result U E'.carrier)}
    (hvalue : ∀ v, k v = valueOf E' (g (.value v)))
    (herror : ∀ e, throw (E.exception e) = valueOf E' (g (.error e))) :
    valueOf E c >>= k = valueOf E' (c >>= g) := by
  apply ExceptT.ext
  rw [ExceptT.run_bind]
  simp only [valueOf, ExceptT.run_mk, bind_map_left, map_bind]
  apply bind_congr
  intro r
  cases r with
  | value v => exact congrArg ExceptT.run (hvalue v)
  | error e => exact congrArg ExceptT.run (herror e)

theorem valueOf_tryCatch {T : Type} {E E' : ErrorType X} (c : M (Result T E.carrier))
    {h : X → ExceptT X M T} {g : Result T E.carrier → M (Result T E'.carrier)}
    (hvalue : ∀ v, pure v = valueOf E' (g (.value v)))
    (herror : ∀ e, h (E.exception e) = valueOf E' (g (.error e))) :
    tryCatch (valueOf E c) h = valueOf E' (c >>= g) := by
  apply ExceptT.ext
  change (Result.valueOrThrow E <$> c) >>= _ = Result.valueOrThrow E' <$> (c >>= g)
  rw [bind_map_left, map_bind]
  apply bind_congr
  intro r
  cases r with
  | value v => exact congrArg ExceptT.run (hvalue v)
  | error e => exact congrArg ExceptT.run (herror e)

theorem valueOf_pure {T : Type} (E : ErrorType X) (r : Result T E.carrier) :
    valueOf E (pure r : M (Result T E.carrier)) = ExceptT.mk (pure (r.valueOrThrow E)) :=
  congrArg ExceptT.mk (map_pure _ r)

theorem valueOf_pure_value {T : Type} (E : ErrorType X) (v : T) :
    (pure v : ExceptT X M T) = valueOf E (pure (.value v)) := (valueOf_pure E (.value v)).symm

theorem throw_eq_valueOf {T : Type} (E : ErrorType X) (e : E.carrier) :
    (throw (E.exception e) : ExceptT X M T) = valueOf E (pure (.error e)) :=
  (valueOf_pure E (.error e)).symm

theorem lift_map_eq_valueOf {T V : Type} (E : ErrorType X) (toT : V → T) (x : M V) :
    (do return toT (← ExceptT.lift x) : ExceptT X M T) =
      valueOf E (do
        let v ← x
        return .value (toT v)) := by
  apply ExceptT.ext
  simp [valueOf, Result.valueOrThrow, Except.map]

theorem lift_eq_valueOf {V : Type} (E : ErrorType X) (x : M V) :
    (ExceptT.lift x : ExceptT X M V) =
      valueOf E (do
        let v ← x
        return .value v) := by
  apply ExceptT.ext
  simp [valueOf, Result.valueOrThrow]

theorem ofResult_valueOf {T V : Type} {E E' : ErrorType X} {toE : E'.carrier → E.carrier}
    (htoE : ∀ e, E.exception (toE e) = E'.exception e) (toT : V → T)
    (x : M (Result V E'.carrier)) :
    (do return toT (← valueOf E' x) : ExceptT X M T) =
      valueOf E (do
        let r2 ← x
        return r2.ofResult toT toE) := by
  apply valueOf_bind
  · intro v
    exact valueOf_pure_value E (toT v)
  · intro e
    rw [← htoE]
    exact throw_eq_valueOf E (toE e)

/-- Calling `value()` on every result at once is calling it on the last one. -/
theorem throwing_valueOf {T U : Type} {E F : ErrorType X} (p : ResultProgram X M T E U F)
    (hp : p.Coherent) (c : M (Result T E.carrier)) :
    p.throwing (valueOf E c) = valueOf F (c >>= p.eval) := by
  induction p with
  | done =>
    rw [throwing]
    exact congrArg (valueOf _) (bind_pure c).symm
  | @andValue T V U E F f rest ih =>
    have hstep : (valueOf E c >>= fun v => ExceptT.lift (f v)) =
        valueOf E (c >>= fun r => r.andValue f) := by
      apply valueOf_bind
      · intro v
        exact lift_eq_valueOf E (f v)
      · exact throw_eq_valueOf E
    rw [throwing, hstep, ih hp, bind_assoc]
    rfl
  | @andResult T V U E E' F toE f rest ih =>
    have hstep : (valueOf E c >>= fun v => valueOf E' (f v)) =
        valueOf E' (c >>= fun r => r.andConverting toE f) := by
      apply valueOf_bind
      · exact fun v => rfl
      · intro e
        rw [← hp.1]
        exact throw_eq_valueOf E' (toE e)
    rw [throwing, hstep, ih hp.2, bind_assoc]
    rfl
  | @andAssignValue T V U E F toT f rest ih =>
    have hstep : (valueOf E c >>= fun v => do return toT (← ExceptT.lift (f v))) =
        valueOf E (c >>= fun r => r.andAssignValue toT f) := by
      apply valueOf_bind
      · intro v
        exact lift_map_eq_valueOf E toT (f v)
      · exact throw_eq_valueOf E
    rw [throwing, hstep, ih hp, bind_assoc]
    rfl
  | @andAssignResult T V U E E' F toT toE f rest ih =>
    have hstep : (valueOf E c >>= fun v => do return toT (← valueOf E' (f v))) =
        valueOf E (c >>= fun r => r.andAssignConverting toT toE f) := by
      apply valueOf_bind
      · intro v
        exact ofResult_valueOf hp.1 toT (f v)
      · exact throw_eq_valueOf E
    rw [throwing, hstep, ih hp.2, bind_assoc]
    rfl
  | @orResult T V U E E' F toV f rest ih =>
    have hvalues : (do return toV (← valueOf E c)) =
        valueOf E (c >>= fun r => pure (r.ofResult toV id)) := ofResult_valueOf (fun _ => rfl) toV c
    have hstep : tryCatch (do return toV (← valueOf E c)) (fun _ => valueOf E' f) =
        valueOf E' (c >>= fun r => r.orConverting toV f) := by
      have hcatch : tryCatch (valueOf E (c >>= fun r => pure (r.ofResult toV id)))
          (fun _ => valueOf E' f) = valueOf E' ((c >>= fun r => pure (r.ofResult toV id)) >>=
            fun r => r.orConverting id f) := by
        apply valueOf_tryCatch
        · exact valueOf_pure_value E'
        · exact fun _ => rfl
      rw [hvalues, hcatch, bind_assoc]
      apply congrArg (valueOf E')
      apply bind_congr
      intro r
      rw [pure_bind]
      cases r with
      | value v => rfl
      | error e => rfl
    rw [throwing, hstep, ih hp, bind_assoc]
    rfl
  | @orAssignValue T V U E F toT f rest ih =>
    have hstep : tryCatch (valueOf E c) (fun _ => do return toT (← ExceptT.lift f)) =
        valueOf E (c >>= fun r => r.orAssignValue toT f) := by
      apply valueOf_tryCatch
      · exact valueOf_pure_value E
      · exact fun _ => lift_map_eq_valueOf E toT f
    rw [throwing, hstep, ih hp, bind_assoc]
    rfl
  | @orAssignResult T V U E E' F toT toE f rest ih =>
    have hstep : tryCatch (valueOf E c) (fun _ => do return toT (← valueOf E' f)) =
        valueOf E (c >>= fun r => r.orAssignConverting toT toE f) := by
      apply valueOf_tryCatch
      · exact valueOf_pure_value E
      · exact fun _ => ofResult_valueOf hp.1 toT f
    rw [throwing, hstep, ih hp.2, bind_assoc]
    rfl

/-! ### Leaving a program -/

/-- `catch` for the exceptions of one error type, as a result. -/
def caught {U : Type} {F : ErrorType X} (code : X → F.carrier) (x : ExceptT X M U) :
    M (Result U F.carrier) := do
  match ← x.run with
  | .ok u => return .value u
  | .error e => return .error (code e)

/-- A handler that puts a value in the place of an exception. -/
def handled {U V : Type} (toU : V → U) (f : M V) (x : ExceptT X M U) : M U := do
  match ← x.run with
  | .ok u => return u
  | .error _ => return toU (← f)

theorem caught_valueOf {U : Type} {F : ErrorType X} {code : X → F.carrier}
    (hcode : Function.LeftInverse code F.exception) (c : M (Result U F.carrier)) :
    caught code (valueOf F c) = c := by
  change (Result.valueOrThrow F <$> c) >>= _ = c
  rw [bind_map_left]
  conv_rhs => rw [← bind_pure c]
  apply bind_congr
  intro r
  cases r with
  | value u => rfl
  | error e =>
    change pure (Result.error (code (F.exception e))) = _
    rw [hcode]

section Program

variable {T U : Type} {E F : ErrorType X} (p : ResultProgram X M T E U F) (hp : p.Coherent)
  (r : Result T E.carrier)

include hp

theorem valueOf_eval :
    valueOf F (p.eval r) = p.throwing (ExceptT.mk (pure (r.valueOrThrow E))) := by
  rw [← valueOf_pure, throwing_valueOf p hp, pure_bind]

theorem eval_eq_caught {code : X → F.carrier} (hcode : Function.LeftInverse code F.exception) :
    p.eval r = caught code (p.throwing (ExceptT.mk (pure (r.valueOrThrow E)))) := by
  rw [← valueOf_eval p hp, caught_valueOf hcode]

/-- A last `|` that leaves a value. -/
theorem eval_orValue {V : Type} (toU : V → U) (f : M V) :
    (p.eval r >>= fun r => r.orValue toU f) =
      handled toU f (p.throwing (ExceptT.mk (pure (r.valueOrThrow E)))) := by
  rw [← valueOf_eval p hp]
  change _ = (Result.valueOrThrow F <$> p.eval r) >>= _
  rw [bind_map_left]
  apply bind_congr
  intro r
  cases r with
  | value u => rfl
  | error e => rfl

end Program

end Lawful

end ResultProgram

end BoostSystem
