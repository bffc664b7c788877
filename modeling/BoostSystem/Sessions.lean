import BoostSystem.ApiBooks
import BoostSystem.LoadingRuns

/-!
# Sessions

One object, with calls of `initialize` that overlap and the other methods called between their answers.
The log has every call where it takes effect; a call of `initialize` does so where it ends. The methods
leave the overlapping calls where they would be without them.
-/

namespace BoostSystem.Sessions

open Api Asynchrony Loading Runs

/-- What the object runs on; each call of `initialize` has answers of its own, and a heap. -/
structure Host where
  deno : Bool
  env : Env
  answers : ℕ → Environment
  heaps : ℕ → Heap

abbrev Method := { call : Call // isMethod call = true }

inductive Event where
  | initializeCall
  | settle (call : ℕ)
  | cleanup
  | method (call : Method)

structure State extends Loading.State, ApiState where
  log : Log

namespace State

def constructed : State := { Loading.State.constructed, ApiState.constructed with log := [] }

/-- A call that finds the flag up ends at once. -/
def initializeCall (host : Host) (s : State) : State :=
  { s with
    toState := s.toState.initializeCall host.deno
    log := if s.initialized then s.log ++ [(.initializeCall none, .ok .done)] else s.log }

/-- A new module has an empty store and a heap of its own. -/
def finish (host : Host) (s : State) (call : ℕ) : Load Origin → State
  | .returned _ =>
    { s with
      store := .empty
      heap := host.heaps call
      live := []
      freedTwice := false
      log := s.log ++ [(.initializeCall (some (host.heaps call)), .ok .done)] }
  | .threw _ => { s with log := s.log ++ [(.initializeCall none, .error .failure)] }
  | .await _ _ => s

def goOn (host : Host) (s : State) (call : ℕ) (x : Load Origin) : State :=
  finish host { s with toState := s.toState.goOn call x } call x

def settle (host : Host) (s : State) (call : ℕ) : State :=
  match s.calls[call]? with
  | some (some (.await q next)) => s.goOn host call (next (host.answers call q))
  | _ => s

def cleanup (s : State) : State :=
  { s with toState := s.toState.cleanup, log := s.log ++ [(.cleanup, .ok .done)] }

def method (host : Host) (s : State) (call : Method) : State :=
  { (perform host.env call.1 s.toApiState).2, s with
    log := s.log ++ [(call.1, (perform host.env call.1 s.toApiState).1)] }

def step (host : Host) (s : State) : Event → State
  | .initializeCall => s.initializeCall host
  | .settle call => s.settle host call
  | .cleanup => s.cleanup
  | .method call => s.method host call

end State

def reached (host : Host) (events : List Event) : State :=
  Runs.run (State.step host) .constructed events

/-! ### What an event does -/

/-- The answer makes the call return an instance. -/
def Arrives (host : Host) (s : State) (call : ℕ) : Prop :=
  ∃ q next origin, s.calls[call]? = some (some (.await q next)) ∧
    next (host.answers call q) = .returned origin

/-- The flag is up exactly if there is a module. -/
def Flagged (s : State) : Prop := s.module.isSome = s.initialized

/-- What an event does to the object and to the log. -/
inductive Effect (host : Host) (s s' : State) : Event → Prop where
  | nothing {e : Event} (object : s'.toApiState = s.toApiState) (log : s'.log = s.log) :
      Effect host s s' e
  | guarded (up : s.initialized = true) (object : s'.toApiState = s.toApiState)
      (log : s'.log = s.log ++ [(.initializeCall none, .ok .done)]) :
      Effect host s s' .initializeCall
  | threw {call : ℕ} (object : s'.toApiState = s.toApiState)
      (log : s'.log = s.log ++ [(.initializeCall none, .error .failure)]) :
      Effect host s s' (.settle call)
  | arrived {call : ℕ} (arrives : Arrives host s call)
      (object : s'.toApiState = s.toApiState.load (host.heaps call))
      (log : s'.log = s.log ++ [(.initializeCall (some (host.heaps call)), .ok .done)]) :
      Effect host s s' (.settle call)
  | cleaned (object : s'.toApiState = s.toApiState.unload)
      (log : s'.log = s.log ++ [(.cleanup, .ok .done)]) : Effect host s s' .cleanup
  | performed {call : Method} (object : s'.toApiState = (perform host.env call.1 s.toApiState).2)
      (log : s'.log = s.log ++ [(call.1, (perform host.env call.1 s.toApiState).1)]) :
      Effect host s s' (.method call)

section Steps

variable {host : Host} {s : State} {call : ℕ}

theorem settle_cases (host : Host) (s : State) (call : ℕ) :
    s.settle host call = s ∨ ∃ q next, s.calls[call]? = some (some (.await q next)) ∧
      s.settle host call = s.goOn host call (next (host.answers call q)) := by
  unfold State.settle
  split
  · next q next h => exact Or.inr ⟨q, next, h, rfl⟩
  · exact Or.inl rfl

/-- An instance that arrives is loaded, whatever was in the module. -/
theorem Arrives.settle (h : Arrives host s call) :
    (s.settle host call).toApiState = s.toApiState.load (host.heaps call) ∧
      (s.settle host call).log =
        s.log ++ [(.initializeCall (some (host.heaps call)), .ok .done)] := by
  obtain ⟨q, next, origin, hawaits, hreturns⟩ := h
  unfold State.settle
  simp only [hawaits, State.goOn, hreturns]
  exact ⟨rfl, rfl⟩

theorem toApiState_cleanup (h : Flagged s) : s.cleanup.toApiState = s.toApiState.unload := by
  unfold State.cleanup Loading.State.cleanup ApiState.unload
  by_cases hmodule : s.module.isSome = true
  · rw [if_pos hmodule, if_pos (h.symm.trans hmodule)]
  · rw [if_neg hmodule, if_neg fun hinit => hmodule (h.trans hinit)]

theorem effect_settle (host : Host) (s : State) (call : ℕ) :
    Effect host s (s.settle host call) (.settle call) := by
  rcases settle_cases host s call with hsame | ⟨q, next, hawaits, hgoes⟩
  · rw [hsame]
    exact .nothing rfl rfl
  · cases hx : next (host.answers call q) with
    | returned origin =>
      have harrives : Arrives host s call := ⟨q, next, origin, hawaits, hx⟩
      exact .arrived harrives harrives.settle.1 harrives.settle.2
    | threw e =>
      rw [hgoes, hx]
      exact .threw rfl rfl
    | await q' next' =>
      rw [hgoes, hx]
      exact .nothing rfl rfl

theorem effect_step (host : Host) (h : Flagged s) (e : Event) : Effect host s (s.step host e) e := by
  cases e with
  | initializeCall =>
    by_cases hup : s.initialized = true
    · exact .guarded hup rfl (if_pos hup)
    · exact .nothing rfl (if_neg hup)
  | settle call => exact effect_settle host s call
  | cleanup => exact .cleaned (toApiState_cleanup h) rfl
  | method call => exact .performed rfl rfl

theorem Flagged.step (h : Flagged s) (e : Event) : Flagged (s.step host e) := by
  cases e with
  | initializeCall => exact h
  | settle call =>
    rcases settle_cases host s call with hsame | ⟨q, next, -, hgoes⟩
    · rw [State.step, hsame]
      exact h
    · rw [State.step, hgoes]
      cases next (host.answers call q) with
      | returned origin => rfl
      | threw e => exact h
      | await q' next' => exact h
  | cleanup =>
    unfold Flagged State.step State.cleanup Loading.State.cleanup
    by_cases hmodule : s.module.isSome = true
    · simp only [if_pos hmodule]
      rfl
    · simp only [if_neg hmodule]
      exact h
  | method call => exact h.trans (entered_perform host.env s.toApiState call.2).initialized.symm

end Steps

theorem reached_append (host : Host) (before after : List Event) :
    reached host (before ++ after) = Runs.run (State.step host) (reached host before) after :=
  run_append _ _ before after

theorem reached_flagged (host : Host) (events : List Event) : Flagged (reached host events) := by
  have hstep (s : State) (e : Event) (h : Flagged s) : Flagged (s.step host e) := h.step e
  exact run_invariant hstep State.constructed rfl events

/-! ### The calls that load -/

def Event.loading : Event → List Loading.Event
  | .initializeCall => [.initializeCall]
  | .settle call => [.settle call]
  | .cleanup => [.cleanup]
  | .method _ => []

/-- What the overlapping calls see of the object. -/
def State.loads (s : State) : Loading.State := { s.toState with memoryUsage := ⟨0, 0, 0, 0⟩ }

theorem loads_goOn (host : Host) (s : State) (call : ℕ) (x : Load Origin) :
    (s.goOn host call x).loads = s.loads.goOn call x := by
  cases x with
  | returned | threw | await => rfl

theorem loads_step (host : Host) (s : State) (e : Event) :
    (s.step host e).loads =
      Runs.run (Loading.State.step host.deno host.answers) s.loads e.loading := by
  cases e with
  | initializeCall => rfl
  | settle call =>
    change (s.settle host call).loads = s.loads.settle host.answers call
    unfold State.settle Loading.State.settle
    change _ = match s.calls[call]? with
      | some (some (.await q next)) => s.loads.goOn call (next (host.answers call q))
      | _ => s.loads
    split
    · exact loads_goOn host s call _
    · rfl
  | cleanup =>
    change s.cleanup.loads = s.loads.cleanup
    unfold State.cleanup Loading.State.cleanup State.loads
    by_cases hmodule : s.module.isSome = true
    · simp only [if_pos hmodule]
    · simp only [if_neg hmodule]
  | method call =>
    have hinit := (entered_perform host.env s.toApiState call.2).initialized
    change (s.method host call).loads = s.loads
    unfold State.method State.loads
    simp only [hinit]

theorem reached_loads (host : Host) (events : List Event) : (reached host events).loads =
    Loading.reached host.deno host.answers (events.flatMap Event.loading) := by
  induction events using List.reverseRecOn with
  | nil => rfl
  | append_singleton events e ih =>
    rw [reached_append, List.flatMap_append, List.flatMap_singleton, Loading.reached_append, ← ih]
    exact loads_step host _ e

end BoostSystem.Sessions
