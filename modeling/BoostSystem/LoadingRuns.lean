import BoostSystem.Loading

/-!
# Overlapping calls that load

Each call of `initialize` is suspended in a request of its own, and goes on when it is answered. In any
interleaving a call is where it would be by itself, and what the calls do to the object are steps of the
staged calls.
-/

namespace BoostSystem.Loading

open Api Asynchrony Runs

inductive Event where
  | initializeCall
  | settle (call : ℕ)
  | cleanup
deriving DecidableEq

/-- A call that found the flag up is `none`. -/
structure State where
  module : Option ℕ
  initialized : Bool
  memoryUsage : MemoryUsage
  bindings : Option ℕ
  instances : List Origin
  calls : List (Option (Load Origin))

namespace State

def constructed : State where
  module := none
  initialized := false
  memoryUsage := ⟨0, 0, 0, 0⟩
  bindings := none
  instances := []
  calls := []

def initializeCall (deno : Bool) (s : State) : State :=
  { s with calls := s.calls ++ [if s.initialized then none else some (load deno)] }

def cleanup (s : State) : State :=
  if s.module.isSome then
    { s with module := none, initialized := false, memoryUsage := ⟨0, 0, 0, 0⟩ }
  else s

/-- The assignment to `this.module`, `setupBindings` and the flag. -/
def assign (s : State) (origin : Origin) : State :=
  { s with
    module := some s.instances.length
    bindings := some s.instances.length
    initialized := true
    instances := s.instances ++ [origin] }

def moveTo (s : State) (call : ℕ) (x : Load Origin) : State :=
  { s with calls := s.calls.set call (some x) }

/-- A call goes on with the answer to what it awaits. -/
def goOn (s : State) (call : ℕ) : Load Origin → State
  | .returned origin => (s.assign origin).moveTo call (.returned origin)
  | x => s.moveTo call x

def settle (env : ℕ → Environment) (s : State) (call : ℕ) : State :=
  match s.calls[call]? with
  | some (some (.await q next)) => s.goOn call (next (env call q))
  | _ => s

def step (deno : Bool) (env : ℕ → Environment) (s : State) : Event → State
  | .initializeCall => s.initializeCall deno
  | .settle call => s.settle env call
  | .cleanup => s.cleanup

end State

def reached (deno : Bool) (env : ℕ → Environment) (events : List Event) : State :=
  run (State.step deno env) .constructed events

/-! ### Each call by itself -/

section Calls

variable {deno : Bool} {env : ℕ → Environment} {s : State} {call : ℕ} {x : Load Origin}

theorem calls_goOn (s : State) (call : ℕ) (x : Load Origin) :
    (s.goOn call x).calls = s.calls.set call (some x) := by
  cases x with
  | returned | threw | await => rfl

theorem calls_settle (h : s.calls[call]? = some (some x)) :
    (s.settle env call).calls[call]? = some (some (x.resume (env call))) := by
  obtain ⟨hlt, -⟩ := List.getElem?_eq_some_iff.mp h
  unfold State.settle
  rw [h]
  cases x with
  | returned | threw => exact h
  | await q next =>
    rw [calls_goOn, List.getElem?_set_self hlt]
    rfl

theorem calls_settle_of_ne {other : ℕ} (hne : other ≠ call) :
    (s.settle env other).calls[call]? = s.calls[call]? := by
  unfold State.settle
  split
  · rw [calls_goOn, List.getElem?_set_ne hne]
  · rfl

theorem calls_cleanup (s : State) : s.cleanup.calls = s.calls := by
  unfold State.cleanup
  split_ifs
  · rfl
  · rfl

/-- Only an answer of its own moves a call. -/
theorem calls_step (h : s.calls[call]? = some (some x)) (e : Event) :
    (s.step deno env e).calls[call]? =
      some (some (if e = .settle call then x.resume (env call) else x)) := by
  obtain ⟨hlt, -⟩ := List.getElem?_eq_some_iff.mp h
  cases e with
  | initializeCall =>
    rw [if_neg nofun]
    exact (List.getElem?_append_left hlt).trans h
  | settle other =>
    by_cases hother : other = call
    · rw [hother, if_pos rfl]
      exact calls_settle h
    · rw [if_neg fun heq => hother (Event.settle.inj heq)]
      exact (calls_settle_of_ne hother).trans h
  | cleanup =>
    rw [if_neg nofun, State.step, calls_cleanup]
    exact h

theorem calls_run (h : s.calls[call]? = some (some x)) (events : List Event) :
    (run (State.step deno env) s events).calls[call]? =
      some (some ((Async.resume (env call))^[events.count (.settle call)] x)) := by
  induction events generalizing s x with
  | nil => exact h
  | cons e events ih =>
    have hstep : (s.step deno env e).calls[call]? = _ := calls_step h e
    rw [List.count_cons]
    by_cases hown : e = .settle call
    · rw [if_pos hown] at hstep
      rw [if_pos (beq_iff_eq.mpr hown), Function.iterate_succ_apply]
      exact ih hstep
    · rw [if_neg hown] at hstep
      rw [if_neg (mt beq_iff_eq.mp hown)]
      exact ih hstep

end Calls

/-! ### The stages -/

def Request.stage : Request → Lifecycle.Stage
  | .readFile | .fetch _ | .arrayBuffer _ => .wasmBinary
  | .importModule _ => .moduleFactory
  | .moduleFactory _ _ => .module

def stageOf : Load Origin → Lifecycle.Stage
  | .returned _ => .returned
  | .threw _ => .threw
  | .await q _ => q.stage

/-- Where a call goes from its stage, or that it stays there with another request. -/
def Next : Lifecycle.Stage → Lifecycle.Stage → Prop
  | .wasmBinary, after => after = .wasmBinary ∨ after = .moduleFactory
  | .moduleFactory, after => after = .moduleFactory ∨ after = .module ∨ after = .threw
  | .module, after => after = .returned ∨ after = .threw
  | .returned, _ | .threw, _ => False

/-- Whatever the answers are, the requests come in the order of the stages. -/
def Staged : Load Origin → Prop
  | .await q next => ∀ r, Next q.stage (stageOf (next r)) ∧ Staged (next r)
  | .returned _ | .threw _ => True

def rethrow (error : String) : Load Origin :=
  throwNew ("Failed to initialize BoostSystem: " ++ error)

/-- The call from the request for the instance on. -/
def instantiating (binary : Option Source) (factory : Source) : Load Origin :=
  (moduleFactory binary factory >>= fun _ => pure ⟨binary, factory⟩).tryCatch rethrow

/-- The call from the request for the factory on. -/
def importing (loadFactory : Load Source) (binary : Option Source) : Load Origin :=
  (loadFactory >>= fun factory =>
    moduleFactory binary factory >>= fun _ => pure ⟨binary, factory⟩).tryCatch rethrow

theorem staged_instantiating (binary : Option Source) (factory : Source) :
    Staged (instantiating binary factory) := by
  intro r
  cases r with
  | ok _ => exact ⟨Or.inl rfl, trivial⟩
  | error e => exact ⟨Or.inr rfl, trivial⟩

theorem staged_importFromFirst (urls : List String) (binary : Option Source) :
    Staged (importing (importFromFirst urls) binary) ∧
      Next .moduleFactory (stageOf (importing (importFromFirst urls) binary)) := by
  induction urls with
  | nil => exact ⟨trivial, Or.inr (Or.inr rfl)⟩
  | cons url urls ih =>
    refine ⟨?_, Or.inl rfl⟩
    intro r
    cases r with
    | ok _ => exact ⟨Or.inr (Or.inl rfl), staged_instantiating binary _⟩
    | error e => exact ⟨ih.2, ih.1⟩

theorem staged_loadModuleFactory (deno : Bool) (binary : Option Source) :
    Staged (importing (loadModuleFactory deno) binary) ∧
      stageOf (importing (loadModuleFactory deno) binary) = .moduleFactory := by
  cases deno with
  | false => exact ⟨(staged_importFromFirst cdnUrls binary).1, rfl⟩
  | true =>
    refine ⟨?_, rfl⟩
    intro r
    cases r with
    | ok _ => exact ⟨Or.inr (Or.inl rfl), staged_instantiating binary _⟩
    | error e => exact ⟨Or.inr (Or.inr rfl), trivial⟩

/-- The call from the request for the binary on. -/
def fetching (loadBinary : Load (Option Source)) (loadFactory : Load Source) : Load Origin :=
  (loadBinary >>= fun binary => loadFactory >>= fun factory =>
    moduleFactory binary factory >>= fun _ => pure ⟨binary, factory⟩).tryCatch rethrow

theorem next_importing (deno : Bool) (binary : Option Source) :
    Next .wasmBinary (stageOf (importing (loadModuleFactory deno) binary)) ∧
      Staged (importing (loadModuleFactory deno) binary) :=
  ⟨Or.inr (staged_loadModuleFactory deno binary).2, (staged_loadModuleFactory deno binary).1⟩

theorem staged_loadFromFirst (deno : Bool) (urls : List String) :
    Next .wasmBinary (stageOf (fetching (loadFromFirst urls) (loadModuleFactory deno))) ∧
      Staged (fetching (loadFromFirst urls) (loadModuleFactory deno)) := by
  induction urls with
  | nil => exact next_importing deno none
  | cons url urls ih =>
    refine ⟨Or.inl rfl, ?_⟩
    intro r
    cases r with
    | error e => exact ih
    | ok ok =>
      cases ok with
      | false => exact ih
      | true =>
        refine ⟨Or.inl rfl, ?_⟩
        intro r'
        cases r' with
        | error e => exact ih
        | ok _ => exact next_importing deno (some (.mirror url))

theorem staged_load (deno : Bool) : Staged (load deno) := by
  cases deno with
  | false => exact (staged_loadFromFirst false cdnUrls).2
  | true =>
    intro r
    cases r with
    | ok _ => exact next_importing true (some .installed)
    | error e => exact next_importing true none

/-! ### What the calls do to the object -/

def stageOfCall : Option (Load Origin) → Lifecycle.Stage
  | none => .returned
  | some x => stageOf x

/-- The staged calls. -/
def State.loader (s : State) : Lifecycle.Loader where
  module := s.module
  initialized := s.initialized
  memoryUsage := s.memoryUsage
  bindings := s.bindings
  instances := s.instances.length
  calls := s.calls.map stageOfCall

def asks : Lifecycle.Event → Bool
  | .settle _ _ => false
  | .initializeCall | .cleanup => true

def Event.asked : Event → List Lifecycle.Event
  | .initializeCall => [.initializeCall]
  | .settle _ => []
  | .cleanup => [.cleanup]

section Stages

variable {s : State} {call : ℕ} {x : Load Origin} {stage : Lifecycle.Stage}

theorem loader_moveTo (s : State) (call : ℕ) (x : Load Origin) :
    (s.moveTo call x).loader = s.loader.moveTo call (stageOf x) := by
  simp only [State.loader, State.moveTo, Lifecycle.Loader.moveTo, List.map_set, stageOfCall]

theorem loader_goOn_of_ne (h : stageOf x ≠ .returned) :
    (s.goOn call x).loader = s.loader.moveTo call (stageOf x) := by
  cases x with
  | returned origin => exact absurd rfl h
  | threw e => exact loader_moveTo s call _
  | await q next => exact loader_moveTo s call _

theorem loader_goOn_of_returned (h : stageOf x = .returned) :
    (s.goOn call x).loader = s.loader.assign.moveTo call .returned := by
  cases x with
  | returned origin =>
    have hassign : (s.assign origin).loader = s.loader.assign := by
      simp only [State.loader, State.assign, Lifecycle.Loader.assign, List.length_append,
        List.length_singleton]
    rw [State.goOn, loader_moveTo, hassign]
    rfl
  | threw e => cases h
  | await q next => cases q <;> cases h

theorem moveTo_self (h : s.loader.calls[call]? = some stage) :
    s.loader.moveTo call stage = s.loader := by
  obtain ⟨hlt, rfl⟩ := List.getElem?_eq_some_iff.mp h
  rw [Lifecycle.Loader.moveTo, List.set_getElem_self]

theorem step_settle (h : s.loader.calls[call]? = some stage) (succeeds : Bool) :
    run Lifecycle.Loader.step s.loader [.settle call succeeds] =
      s.loader.resume call stage succeeds := by
  simp only [run, List.foldl_cons, List.foldl_nil, Lifecycle.Loader.step, Lifecycle.Loader.settle, h]

/-- To go on is a step of the staged call, or none. -/
theorem loader_goOn (h : s.loader.calls[call]? = some stage) (hnext : Next stage (stageOf x)) :
    ∃ stages : List Lifecycle.Event, stages.filter asks = [] ∧
      run Lifecycle.Loader.step s.loader stages = (s.goOn call x).loader := by
  have hstays : stageOf x = stage → stage ≠ .returned →
      run Lifecycle.Loader.step s.loader [] = (s.goOn call x).loader := by
    intro hsame hne
    rw [loader_goOn_of_ne (hsame ▸ hne), hsame, moveTo_self h]
    rfl
  cases stage with
  | wasmBinary =>
    rcases hnext with hsame | hmoved
    · exact ⟨[], rfl, hstays hsame nofun⟩
    · refine ⟨[.settle call true], rfl, ?_⟩
      rw [step_settle h, loader_goOn_of_ne (by rw [hmoved]; exact nofun), hmoved]
      rfl
  | moduleFactory =>
    rcases hnext with hsame | hmoved | hthrew
    · exact ⟨[], rfl, hstays hsame nofun⟩
    · refine ⟨[.settle call true], rfl, ?_⟩
      rw [step_settle h, loader_goOn_of_ne (by rw [hmoved]; exact nofun), hmoved]
      rfl
    · refine ⟨[.settle call false], rfl, ?_⟩
      rw [step_settle h, loader_goOn_of_ne (by rw [hthrew]; exact nofun), hthrew]
      rfl
  | module =>
    rcases hnext with hreturned | hthrew
    · refine ⟨[.settle call true], rfl, ?_⟩
      rw [step_settle h, loader_goOn_of_returned hreturned]
      rfl
    · refine ⟨[.settle call false], rfl, ?_⟩
      rw [step_settle h, loader_goOn_of_ne (by rw [hthrew]; exact nofun), hthrew]
      rfl
  | returned => exact hnext.elim
  | threw => exact hnext.elim

end Stages

/-! ### Whole runs -/

section Runs

variable {deno : Bool} {env : ℕ → Environment} {s : State}

/-- What is known of every call and of every instance. -/
structure Traced (deno : Bool) (env : ℕ → Environment) (s : State) : Prop where
  calls : ∀ call x, s.calls[call]? = some (some x) →
    Staged x ∧ x.outcome (env call) = originOf deno (env call)
  instances : ∀ origin ∈ s.instances, ∃ call, originOf deno (env call) = .ok origin ∧
    s.calls[call]? = some (some (.returned origin))
  module : ∀ n, s.module = some n → n < s.instances.length

theorem traced_constructed : Traced deno env .constructed := ⟨nofun, nofun, nofun⟩

theorem settle_cases (s : State) (call : ℕ) :
    s.settle env call = s ∨ ∃ q next, s.calls[call]? = some (some (.await q next)) ∧
      s.settle env call = s.goOn call (next (env call q)) := by
  unfold State.settle
  split
  · next q next h => exact Or.inr ⟨q, next, h, rfl⟩
  · exact Or.inl rfl

theorem Traced.initializeCall (h : Traced deno env s) : Traced deno env (s.initializeCall deno) where
  calls := by
    intro call x hcall
    by_cases hlt : call < s.calls.length
    · exact h.calls call x ((List.getElem?_append_left hlt).symm.trans hcall)
    · have hlast : some x = if s.initialized then none else some (load deno) := by
        rw [State.initializeCall, List.getElem?_append_right (Nat.le_of_not_lt hlt)] at hcall
        exact List.mem_singleton.mp (List.mem_of_getElem? hcall)
      split_ifs at hlast
      obtain rfl := Option.some.inj hlast
      exact ⟨staged_load deno, outcome_load deno⟩
  instances := by
    intro origin horigin
    obtain ⟨call, hloads, hcall⟩ := h.instances origin horigin
    obtain ⟨hlt, -⟩ := List.getElem?_eq_some_iff.mp hcall
    exact ⟨call, hloads, (List.getElem?_append_left hlt).trans hcall⟩
  module := h.module

theorem Traced.cleanup (h : Traced deno env s) : Traced deno env s.cleanup := by
  unfold State.cleanup
  split_ifs
  · exact ⟨h.calls, h.instances, nofun⟩
  · exact h

theorem instances_goOn (s : State) (call : ℕ) (x : Load Origin) :
    (∃ origin, x = .returned origin ∧ (s.goOn call x).instances = s.instances ++ [origin] ∧
      (s.goOn call x).module = some s.instances.length) ∨
    ((s.goOn call x).instances = s.instances ∧ (s.goOn call x).module = s.module) := by
  cases x with
  | returned origin => exact Or.inl ⟨origin, rfl, rfl, rfl⟩
  | threw | await => exact Or.inr ⟨rfl, rfl⟩

theorem Traced.goOn (h : Traced deno env s) {call : ℕ} {q : Request}
    {next : Except String (Answer q) → Load Origin}
    (hawaits : s.calls[call]? = some (some (.await q next))) :
    Traced deno env (s.goOn call (next (env call q))) := by
  obtain ⟨hstaged, hloads⟩ := h.calls call _ hawaits
  obtain ⟨hlt, -⟩ := List.getElem?_eq_some_iff.mp hawaits
  have hreturned : ∀ origin ∈ s.instances, ∃ other, originOf deno (env other) = .ok origin ∧
      (s.goOn call (next (env call q))).calls[other]? = some (some (.returned origin)) := by
    intro origin horigin
    obtain ⟨other, hother, hcall⟩ := h.instances origin horigin
    have hne : call ≠ other := by
      rintro rfl
      rw [hawaits] at hcall
      cases hcall
    refine ⟨other, hother, ?_⟩
    rw [calls_goOn, List.getElem?_set_ne hne]
    exact hcall
  refine ⟨?_, ?_, ?_⟩
  · intro other x hcall
    rw [calls_goOn] at hcall
    by_cases hown : call = other
    · rw [← hown, List.getElem?_set_self hlt] at hcall
      obtain rfl := Option.some.inj (Option.some.inj hcall)
      rw [← hown]
      exact ⟨(hstaged _).2, hloads⟩
    · rw [List.getElem?_set_ne hown] at hcall
      exact h.calls other x hcall
  · rcases instances_goOn s call (next (env call q)) with ⟨origin, hx, hinstances, -⟩ |
      ⟨hinstances, -⟩
    · rw [hinstances]
      intro origin' horigin
      rcases List.mem_append.mp horigin with hold | hnew
      · exact hreturned origin' hold
      · obtain rfl := List.mem_singleton.mp hnew
        refine ⟨call, ?_, ?_⟩
        · rw [← hloads, Async.outcome, hx]
          rfl
        · rw [calls_goOn, List.getElem?_set_self hlt, hx]
    · rw [hinstances]
      exact hreturned
  · rcases instances_goOn s call (next (env call q)) with ⟨origin, -, hinstances, hmodule⟩ |
      ⟨hinstances, hmodule⟩
    · rw [hinstances, hmodule, List.length_append, List.length_singleton]
      rintro n ⟨⟩
      exact Nat.lt_succ_self _
    · rw [hinstances, hmodule]
      exact h.module

theorem Traced.step (h : Traced deno env s) (e : Event) : Traced deno env (s.step deno env e) := by
  cases e with
  | initializeCall => exact h.initializeCall
  | cleanup => exact h.cleanup
  | settle call =>
    rcases settle_cases s call with hsame | ⟨q, next, hawaits, hgoes⟩
    · rw [State.step, hsame]
      exact h
    · rw [State.step, hgoes]
      exact h.goOn hawaits

theorem reached_traced (events : List Event) : Traced deno env (reached deno env events) :=
  run_invariant (fun _ e h => h.step e) State.constructed traced_constructed events

theorem reached_append (before after : List Event) : reached deno env (before ++ after) =
    run (State.step deno env) (reached deno env before) after := run_append _ _ before after

theorem loader_initializeCall (s : State) :
    (s.initializeCall deno).loader = s.loader.initializeCall := by
  have hcall : stageOfCall (if s.initialized then none else some (load deno)) =
      if s.initialized then .returned else .wasmBinary := by
    split_ifs
    · rfl
    · cases deno with
      | true | false => rfl
  simp only [State.loader, State.initializeCall, Lifecycle.Loader.initializeCall, List.map_append,
    List.map_singleton, hcall]
  rfl

theorem loader_cleanup (s : State) : s.cleanup.loader = s.loader.cleanup := by
  unfold State.cleanup Lifecycle.Loader.cleanup
  by_cases hmodule : s.module.isSome
  · have hloader : s.loader.module.isSome := hmodule
    rw [if_pos hmodule, if_pos hloader]
    rfl
  · have hloader : ¬ s.loader.module.isSome := hmodule
    rw [if_neg hmodule, if_neg hloader]

/-- Every event is a step of the staged calls, or none. -/
theorem Traced.loader_step (h : Traced deno env s) (e : Event) :
    ∃ stages : List Lifecycle.Event, stages.filter asks = e.asked ∧
      run Lifecycle.Loader.step s.loader stages = (s.step deno env e).loader := by
  cases e with
  | initializeCall => exact ⟨[.initializeCall], rfl, (loader_initializeCall s).symm⟩
  | cleanup => exact ⟨[.cleanup], rfl, (loader_cleanup s).symm⟩
  | settle call =>
    rcases settle_cases s call with hsame | ⟨q, next, hawaits, hgoes⟩
    · rw [State.step, hsame]
      exact ⟨[], rfl, rfl⟩
    · have hstage : s.loader.calls[call]? = some q.stage := by
        rw [State.loader, List.getElem?_map, hawaits]
        rfl
      rw [State.step, hgoes]
      exact loader_goOn hstage ((h.calls call _ hawaits).1 _).1

theorem reached_loader (events : List Event) :
    ∃ stages : List Lifecycle.Event, stages.filter asks = events.flatMap Event.asked ∧
      (reached deno env events).loader = Lifecycle.reached stages := by
  induction events using List.reverseRecOn with
  | nil => exact ⟨[], rfl, rfl⟩
  | append_singleton events e ih =>
    obtain ⟨stages, hasked, hloader⟩ := ih
    obtain ⟨more, hmore, hstep⟩ := (reached_traced events).loader_step e
    refine ⟨stages ++ more, ?_, ?_⟩
    · rw [List.filter_append, List.flatMap_append, hasked, hmore, List.flatMap_singleton]
    · rw [Lifecycle.reached_append, ← hloader, hstep, reached_append]
      rfl

end Runs

/-- What is said of the overlapping calls: their effects on the object are those of staged calls, each
is where it would be by itself after as many answers, and the module is the instance of a call. -/
structure LoadsApart (deno : Bool) (env : ℕ → Environment) (events : List Event) : Prop where
  stages : ∃ stages : List Lifecycle.Event, stages.filter asks = events.flatMap Event.asked ∧
    (reached deno env events).loader = Lifecycle.reached stages
  apart : ∀ before after call, events = before ++ .initializeCall :: after →
    (reached deno env before).initialized = false → (reached deno env before).calls.length = call →
      (reached deno env events).calls[call]? =
        some (some ((Async.resume (env call))^[after.count (.settle call)] (load deno)))
  ended : ∀ before after call, events = before ++ .initializeCall :: after →
    (reached deno env before).initialized = false → (reached deno env before).calls.length = call →
      7 ≤ after.count (.settle call) →
        (reached deno env events).calls[call]? =
          some (some (Async.ofOutcome (originOf deno (env call))))
  origin : (reached deno env events).initialized = true → ∃ n origin call,
    (reached deno env events).module = some n ∧ (reached deno env events).bindings = some n ∧
      (reached deno env events).instances[n]? = some origin ∧
        originOf deno (env call) = .ok origin

theorem loads_apart (deno : Bool) (env : ℕ → Environment) (events : List Event) :
    LoadsApart deno env events := by
  have happart : ∀ before after call, events = before ++ .initializeCall :: after →
      (reached deno env before).initialized = false → (reached deno env before).calls.length = call →
        (reached deno env events).calls[call]? =
          some (some ((Async.resume (env call))^[after.count (.settle call)] (load deno))) := by
    rintro before after call rfl hdown rfl
    have hstarted : ((reached deno env before).initializeCall deno).calls[
        (reached deno env before).calls.length]? = some (some (load deno)) := by
      rw [State.initializeCall, hdown, List.getElem?_concat_length]
      rfl
    rw [reached_append]
    exact calls_run hstarted after
  refine ⟨reached_loader events, happart, ?_, ?_⟩
  · intro before after call hevents hdown hcall hanswered
    rw [happart before after call hevents hdown hcall, Async.iterate_eq_ofOutcome _
      ((length_requests_load deno).trans hanswered), outcome_load]
  · intro hinit
    obtain ⟨stages, -, hloader⟩ : ∃ stages : List Lifecycle.Event, _ ∧
        (reached deno env events).loader = Lifecycle.reached stages := reached_loader events
    have hbound := Lifecycle.reached_bound stages
    rw [← hloader] at hbound
    obtain ⟨hsome, hbindings⟩ := hbound hinit
    obtain ⟨n, hn⟩ := Option.isSome_iff_exists.mp hsome
    have htraced : Traced deno env _ := reached_traced events
    have hlt := htraced.module n hn
    obtain ⟨call, hloads, -⟩ := htraced.instances _ (List.getElem_mem hlt)
    exact ⟨n, _, call, hn, hbindings.trans hn, List.getElem?_eq_getElem hlt, hloads⟩

end BoostSystem.Loading
