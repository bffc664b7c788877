import Mathlib.Data.List.Basic

/-!
# Results and their chains

`result<T, E>` and its operators that take functions, with the functions computations of any monad, so
that what is called and when is part of the outcome. The overloads for `const&` and for `&&` do the
same and are one definition: `or` stands for `|`, `and` for `&`, and the last word says what the
function returns. The compound operators (`Assign`) return what the result holds afterwards.
-/

namespace BoostSystem

inductive Result (T E : Type) where
  | value (v : T)
  | error (e : E)
deriving DecidableEq

namespace Result

variable {T U E E' : Type} {M : Type → Type} [Monad M]

def orResult (r : Result T E) (f : M (Result T E')) : M (Result T E') :=
  match r with
  | .value v => pure (.value v)
  | .error _ => f

def orAssignResult (r : Result T E) (f : M (Result T E)) : M (Result T E) :=
  match r with
  | .value _ => pure r
  | .error _ => f

def andValue (r : Result T E) (f : T → M U) : M (Result U E) :=
  match r with
  | .error e => pure (.error e)
  | .value v => do
    let u ← f v
    return .value u

def andResult (r : Result T E) (f : T → M (Result U E)) : M (Result U E) :=
  match r with
  | .error e => pure (.error e)
  | .value v => f v

def andAssignResult (r : Result T E) (f : T → M (Result T E)) : M (Result T E) :=
  match r with
  | .value v => f v
  | .error _ => pure r

/-! ### Chains -/

def andChain (r : Result T E) (fs : List (T → M (Result T E))) : M (Result T E) :=
  fs.foldlM andResult r

def andAssignChain (r : Result T E) (fs : List (T → M (Result T E))) : M (Result T E) :=
  fs.foldlM andAssignResult r

def orChain (r : Result T E) (gs : List (M (Result T E))) : M (Result T E) :=
  gs.foldlM orResult r

def orAssignChain (r : Result T E) (gs : List (M (Result T E))) : M (Result T E) :=
  gs.foldlM orAssignResult r

theorem andAssignResult_eq (r : Result T E) (f : T → M (Result T E)) :
    r.andAssignResult f = r.andResult f := by
  cases r with
  | value v => rfl
  | error e => rfl

theorem orAssignResult_eq (r : Result T E) (g : M (Result T E)) :
    r.orAssignResult g = r.orResult g := by
  cases r with
  | value v => rfl
  | error e => rfl

theorem andAssignChain_eq (r : Result T E) (fs : List (T → M (Result T E))) :
    r.andAssignChain fs = r.andChain fs := by
  have hstep : (andAssignResult : Result T E → (T → M (Result T E)) → M (Result T E)) =
      andResult := funext₂ andAssignResult_eq
  rw [andAssignChain, andChain, hstep]

theorem orAssignChain_eq (r : Result T E) (gs : List (M (Result T E))) :
    r.orAssignChain gs = r.orChain gs := by
  have hstep : (orAssignResult : Result T E → M (Result T E) → M (Result T E)) = orResult :=
    funext₂ orAssignResult_eq
  rw [orAssignChain, orChain, hstep]

/-! ### Functions that record their calls -/

/-- The function number `i`. -/
def recorded (i : ℕ) (f : T → Result T E) (v : T) : StateM (List (ℕ × T)) (Result T E) := do
  modify (· ++ [(i, v)])
  return f v

def recordedAll (n : ℕ) (fs : List (T → Result T E)) :
    List (T → StateM (List (ℕ × T)) (Result T E)) :=
  (fs.zipIdx n).map fun p => recorded p.2 p.1

def recordedNullary (i : ℕ) (g : Result T E) : StateM (List ℕ) (Result T E) := do
  modify (· ++ [i])
  return g

def recordedNullaryAll (n : ℕ) (gs : List (Result T E)) : List (StateM (List ℕ) (Result T E)) :=
  (gs.zipIdx n).map fun p => recordedNullary p.2 p.1

/-! ### A chain of `&=` -/

/-- What `r` holds after `r &= f1; ...; r &= fn`, and the calls with their arguments. -/
inductive AndOutcome (fs : List (T → Result T E)) :
    Result T E → Result T E × List (ℕ × T) → Prop where
  | error (e : E) : AndOutcome fs (.error e) (.error e, [])
  | fails (vs : ℕ → T) (k : ℕ) (f : T → Result T E) (e : E)
      (before : ∀ i < k, ∃ f, fs[i]? = some f ∧ f (vs i) = .value (vs (i + 1)))
      (at_k : fs[k]? = some f) (fails : f (vs k) = .error e) :
      AndOutcome fs (.value (vs 0)) (.error e, (List.range (k + 1)).map fun i => (i, vs i))
  | succeeds (vs : ℕ → T)
      (all : ∀ i < fs.length, ∃ f, fs[i]? = some f ∧ f (vs i) = .value (vs (i + 1))) :
      AndOutcome fs (.value (vs 0))
        (.value (vs fs.length), (List.range fs.length).map fun i => (i, vs i))

/-- A sequence of values after one more at the front. -/
def after (v : T) (vs : ℕ → T) (i : ℕ) : T := if i = 0 then v else vs (i - 1)

theorem map_after (v : T) (vs : ℕ → T) (n : ℕ) :
    (0, v) :: ((List.range n).map fun i => (i, vs i)).map (fun c => (c.1 + 1, c.2)) =
      (List.range (n + 1)).map fun i => (i, after v vs i) := by
  rw [List.range_succ_eq_map, List.map_cons, List.map_map, List.map_map]
  rfl

theorem before_after {f : T → Result T E} {fs : List (T → Result T E)} {v : T} {vs : ℕ → T}
    {k : ℕ} (hv : f v = .value (vs 0))
    (hbefore : ∀ i < k, ∃ f, fs[i]? = some f ∧ f (vs i) = .value (vs (i + 1))) :
    ∀ i < k + 1, ∃ g, (f :: fs)[i]? = some g ∧
      g (after v vs i) = .value (after v vs (i + 1)) := by
  intro i hi
  cases i with
  | zero => exact ⟨f, rfl, hv⟩
  | succ i => exact hbefore i (by omega)

theorem AndOutcome.cons {f : T → Result T E} {fs : List (T → Result T E)} {v : T} {r : Result T E}
    {out : Result T E × List (ℕ × T)} (hr : f v = r) (h : AndOutcome fs r out) :
    AndOutcome (f :: fs) (.value v) (out.1, (0, v) :: out.2.map fun c => (c.1 + 1, c.2)) := by
  cases h with
  | error e => exact AndOutcome.fails (fun _ => v) 0 f e (fun i hi => absurd hi (by omega)) rfl hr
  | fails vs k g e hbefore hk hg =>
    rw [map_after]
    exact AndOutcome.fails (after v vs) (k + 1) g e (before_after hr hbefore) hk hg
  | succeeds vs hall =>
    rw [map_after]
    exact AndOutcome.succeeds (after v vs) (before_after hr hall)

/-- A chain runs as its outcome says, whatever has been called before. -/
theorem run_andAssignChain (r : Result T E) (fs : List (T → Result T E)) (n : ℕ)
    (log : List (ℕ × T)) : ∃ out, AndOutcome fs r out ∧
      (r.andAssignChain (recordedAll n fs)).run log =
        (out.1, log ++ out.2.map fun c => (n + c.1, c.2)) := by
  induction fs generalizing r n log with
  | nil =>
    cases r with
    | error e => exact ⟨_, AndOutcome.error e, by rw [List.map_nil, List.append_nil]; rfl⟩
    | value v =>
      refine ⟨_, AndOutcome.succeeds (fun _ => v) (fun i hi => absurd hi (by simp)), ?_⟩
      rw [List.length_nil, List.range_zero, List.map_nil, List.map_nil, List.append_nil]
      rfl
  | cons f fs ih =>
    cases r with
    | error e =>
      obtain ⟨out, hout, hrun⟩ := ih (.error e) (n + 1) log
      cases hout with
      | error => exact ⟨_, AndOutcome.error e, hrun⟩
    | value v =>
      obtain ⟨out, hout, hrun⟩ := ih (f v) (n + 1) (log ++ [(n, v)])
      refine ⟨_, hout.cons rfl, ?_⟩
      have hcalls : (out.2.map fun c => (c.1 + 1, c.2)).map (fun c => (n + c.1, c.2)) =
          out.2.map fun c => (n + 1 + c.1, c.2) := by
        rw [List.map_map]
        apply List.map_congr_left
        intro c _
        exact Prod.ext (by dsimp only [Function.comp]; omega) rfl
      rw [List.map_cons, hcalls, List.append_cons]
      exact hrun

/-! ### A chain of `|=` -/

/-- What `r` holds after `r |= g1; ...; r |= gn`, and the calls. -/
inductive OrOutcome (gs : List (Result T E)) : Result T E → Result T E × List ℕ → Prop where
  | value (v : T) : OrOutcome gs (.value v) (.value v, [])
  | succeeds (e : E) (k : ℕ) (v : T) (before : ∀ i < k, ∃ e', gs[i]? = some (.error e'))
      (at_k : gs[k]? = some (.value v)) : OrOutcome gs (.error e) (.value v, List.range (k + 1))
  | fails (e : E) (all : ∀ g ∈ gs, ∃ e', g = .error e') :
      OrOutcome gs (.error e) (gs.getLast?.getD (.error e), List.range gs.length)

theorem OrOutcome.cons {g : Result T E} {gs : List (Result T E)} {out : Result T E × List ℕ}
    (e : E) (h : OrOutcome gs g out) :
    OrOutcome (g :: gs) (.error e) (out.1, 0 :: out.2.map (· + 1)) := by
  cases h with
  | value v => exact OrOutcome.succeeds e 0 v (fun i hi => absurd hi (by omega)) rfl
  | succeeds e' k v hbefore hk =>
    rw [← List.range_succ_eq_map]
    refine OrOutcome.succeeds e (k + 1) v ?_ hk
    intro i hi
    cases i with
    | zero => exact ⟨e', rfl⟩
    | succ i => exact hbefore i (by omega)
  | fails e' hall =>
    have hout : OrOutcome (.error e' :: gs) (.error e) _ :=
      OrOutcome.fails e (List.forall_mem_cons.mpr ⟨⟨e', rfl⟩, hall⟩)
    rw [List.length_cons, List.range_succ_eq_map, List.getLast?_cons, Option.getD_some] at hout
    exact hout

theorem run_orAssignChain (r : Result T E) (gs : List (Result T E)) (n : ℕ) (log : List ℕ) :
    ∃ out, OrOutcome gs r out ∧
      (r.orAssignChain (recordedNullaryAll n gs)).run log = (out.1, log ++ out.2.map (n + ·)) := by
  induction gs generalizing r n log with
  | nil =>
    cases r with
    | value v => exact ⟨_, OrOutcome.value v, by rw [List.map_nil, List.append_nil]; rfl⟩
    | error e =>
      refine ⟨_, OrOutcome.fails e (fun g hg => absurd hg List.not_mem_nil), ?_⟩
      rw [List.length_nil, List.range_zero, List.map_nil, List.append_nil]
      rfl
  | cons g gs ih =>
    cases r with
    | value v =>
      obtain ⟨out, hout, hrun⟩ := ih (.value v) (n + 1) log
      cases hout with
      | value => exact ⟨_, OrOutcome.value v, hrun⟩
    | error e =>
      obtain ⟨out, hout, hrun⟩ := ih g (n + 1) (log ++ [n])
      refine ⟨_, hout.cons e, ?_⟩
      have hcalls : (out.2.map (· + 1)).map (n + ·) = out.2.map (n + 1 + ·) := by
        rw [List.map_map]
        apply List.map_congr_left
        intro c _
        dsimp only [Function.comp]
        omega
      rw [List.map_cons, hcalls, List.append_cons]
      exact hrun

/-! ### Both chains -/

/-- The chains of compound operators stop at the first error, respectively at the first value, and
are the chains of the operators. -/
theorem in_place_chains (T E : Type) :
    (∀ (r : Result T E) (fs : List (T → Result T E)),
      AndOutcome fs r ((r.andAssignChain (recordedAll 0 fs)).run [])) ∧
    (∀ (r : Result T E) (gs : List (Result T E)),
      OrOutcome gs r ((r.orAssignChain (recordedNullaryAll 0 gs)).run [])) ∧
    ∀ (M : Type → Type) [Monad M] (r : Result T E),
      (∀ fs : List (T → M (Result T E)), r.andAssignChain fs = r.andChain fs) ∧
      ∀ gs : List (M (Result T E)), r.orAssignChain gs = r.orChain gs := by
  refine ⟨?_, ?_, ?_⟩
  · intro r fs
    obtain ⟨out, hout, hrun⟩ := run_andAssignChain r fs 0 []
    have hcalls : out.2.map (fun c => (0 + c.1, c.2)) = out.2 := by simp
    rw [hrun, List.nil_append, hcalls]
    exact hout
  · intro r gs
    obtain ⟨out, hout, hrun⟩ := run_orAssignChain r gs 0 []
    have hcalls : out.2.map (0 + ·) = out.2 := by simp
    rw [hrun, List.nil_append, hcalls]
    exact hout
  · intro M _ r
    exact ⟨andAssignChain_eq r, orAssignChain_eq r⟩

end Result

end BoostSystem
