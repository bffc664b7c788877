import BoostSystem.BoostApi
import BoostSystem.Runs

/-!
# Calls of `initialize` and `cleanup` that overlap

The calls run in the segments between their awaits: a call of `initialize` waits for the binary, for
the factory and for the instance, and goes on when its load step settles. Module instances are
numbered in the order of their creation.
-/

namespace BoostSystem.Lifecycle

open Api Runs

/-- What a call of `initialize` awaits, or how it has ended. -/
inductive Stage where
  | wasmBinary
  | moduleFactory
  | module
  | returned
  | threw
deriving DecidableEq

structure Loader where
  module : Option ℕ
  initialized : Bool
  memoryUsage : MemoryUsage
  bindings : Option ℕ
  instances : ℕ
  calls : List Stage
deriving DecidableEq

inductive Event where
  | initializeCall
  | settle (call : ℕ) (succeeds : Bool)
  | cleanup
deriving DecidableEq

namespace Loader

def constructed : Loader where
  module := none
  initialized := false
  memoryUsage := ⟨0, 0, 0, 0⟩
  bindings := none
  instances := 0
  calls := []

/-- A call up to its first await. -/
def initializeCall (s : Loader) : Loader :=
  { s with calls := s.calls ++ [if s.initialized then .returned else .wasmBinary] }

def cleanup (s : Loader) : Loader :=
  if s.module.isSome then
    { s with module := none, initialized := false, memoryUsage := ⟨0, 0, 0, 0⟩ }
  else s

/-- The assignment to `this.module`, `setupBindings` and the flag. -/
def assign (s : Loader) : Loader :=
  { s with
    module := some s.instances
    bindings := some s.instances
    initialized := true
    instances := s.instances + 1 }

def moveTo (s : Loader) (call : ℕ) (stage : Stage) : Loader :=
  { s with calls := s.calls.set call stage }

/-- A call goes on from its await; a load step that fails makes it throw. -/
def resume (s : Loader) (call : ℕ) : Stage → Bool → Loader
  | .wasmBinary, true => s.moveTo call .moduleFactory
  | .moduleFactory, true => s.moveTo call .module
  | .module, true => s.assign.moveTo call .returned
  | .wasmBinary, false | .moduleFactory, false | .module, false => s.moveTo call .threw
  | .returned, _ | .threw, _ => s

def settle (s : Loader) (call : ℕ) (succeeds : Bool) : Loader :=
  match s.calls[call]? with
  | some stage => s.resume call stage succeeds
  | none => s

def step (s : Loader) : Event → Loader
  | .initializeCall => s.initializeCall
  | .settle call succeeds => s.settle call succeeds
  | .cleanup => s.cleanup

def isInitialized (s : Loader) : Bool := s.initialized

/-- The event is the arrival of an instance. -/
def Creates (s : Loader) : Event → Prop
  | .settle call succeeds => s.calls[call]? = some .module ∧ succeeds = true
  | .initializeCall | .cleanup => False

/-- `initialized` is true only while `module` is the instance the bindings were made from. -/
def Bound (s : Loader) : Prop := s.initialized = true → s.module.isSome = true ∧ s.bindings = s.module

structure SameModule (s s' : Loader) : Prop where
  module : s'.module = s.module
  bindings : s'.bindings = s.bindings
  initialized : s'.initialized = s.initialized
  instances : s'.instances = s.instances

/-- An instance has arrived. -/
structure NewModule (s s' : Loader) : Prop where
  module : s'.module = some s.instances
  bindings : s'.bindings = some s.instances
  initialized : s'.initialized = true
  instances : s'.instances = s.instances + 1

theorem resume_cases (s : Loader) (call : ℕ) (stage : Stage) (succeeds : Bool) :
    ((stage = .module ∧ succeeds = true) ∧ s.NewModule (s.resume call stage succeeds)) ∨
      (¬ (stage = .module ∧ succeeds = true) ∧ s.SameModule (s.resume call stage succeeds)) := by
  cases stage with
  | wasmBinary | moduleFactory =>
    cases succeeds with
    | true | false => exact Or.inr ⟨nofun, rfl, rfl, rfl, rfl⟩
  | module =>
    cases succeeds with
    | true => exact Or.inl ⟨⟨rfl, rfl⟩, rfl, rfl, rfl, rfl⟩
    | false => exact Or.inr ⟨nofun, rfl, rfl, rfl, rfl⟩
  | returned | threw => exact Or.inr ⟨nofun, rfl, rfl, rfl, rfl⟩

/-- A step creates an instance, cleans up, or has nothing to do with the module. -/
theorem step_cases (s : Loader) (e : Event) :
    (s.Creates e ∧ s.NewModule (s.step e)) ∨ e = .cleanup ∨
      (¬ s.Creates e ∧ s.SameModule (s.step e)) := by
  cases e with
  | initializeCall => exact Or.inr (Or.inr ⟨id, rfl, rfl, rfl, rfl⟩)
  | cleanup => exact Or.inr (Or.inl rfl)
  | settle call succeeds =>
    cases hcall : s.calls[call]? with
    | none =>
      have hstep : s.step (.settle call succeeds) = s := by simp only [step, settle, hcall]
      have hcreates : ¬ s.Creates (.settle call succeeds) := by simp [Creates, hcall]
      rw [hstep]
      exact Or.inr (Or.inr ⟨hcreates, rfl, rfl, rfl, rfl⟩)
    | some stage =>
      have hstep : s.step (.settle call succeeds) = s.resume call stage succeeds := by
        simp only [step, settle, hcall]
      have hcreates : s.Creates (.settle call succeeds) ↔ stage = .module ∧ succeeds = true := by
        simp only [Creates, hcall, Option.some.injEq]
      rw [hstep, hcreates]
      exact (resume_cases s call stage succeeds).imp_right Or.inr

theorem Creates.newModule {s : Loader} {e : Event} (h : s.Creates e) : s.NewModule (s.step e) := by
  rcases step_cases s e with ⟨-, hnew⟩ | rfl | ⟨hnot, -⟩
  · exact hnew
  · exact h.elim
  · exact absurd h hnot

/-! ### What every run keeps -/

theorem cleanup_module (s : Loader) : s.cleanup.module = none := by
  unfold cleanup
  split_ifs with h
  · rfl
  · exact Option.not_isSome_iff_eq_none.mp h

theorem cleanup_instances (s : Loader) : s.cleanup.instances = s.instances := by
  unfold cleanup
  split_ifs
  · rfl
  · rfl

/-- After a cleanup the flag is down. -/
theorem Bound.cleanup {s : Loader} (hs : s.Bound) : s.cleanup.initialized = false := by
  unfold Loader.cleanup
  split_ifs with h
  · rfl
  · rw [Bool.eq_false_iff]
    exact fun hinit => h (hs hinit).1

theorem Bound.step {s : Loader} (hs : s.Bound) (e : Event) : (s.step e).Bound := by
  intro hinit
  rcases step_cases s e with ⟨-, hnew⟩ | rfl | ⟨-, hsame⟩
  · rw [hnew.module, hnew.bindings]
    exact ⟨rfl, rfl⟩
  · exact absurd (hs.cleanup.symm.trans hinit) Bool.false_ne_true
  · rw [hsame.initialized] at hinit
    rw [hsame.module, hsame.bindings]
    exact hs hinit

end Loader

open Loader

def reached (events : List Event) : Loader := run step constructed events

theorem reached_bound (events : List Event) : (reached events).Bound :=
  run_invariant (fun _ e hs => hs.step e) constructed nofun events

theorem reached_append (before after : List Event) :
    reached (before ++ after) = run step (reached before) after := run_append step _ before after

theorem reached_cleanup_module (before : List Event) :
    (reached (before ++ [.cleanup])).module = none := by
  rw [reached_append]
  exact cleanup_module _

/-! ### Between two cleanups -/

/-- Beyond the first `n` there is no instance, or one, which is in the module. -/
def OneSince (n : ℕ) (s : Loader) : Prop :=
  (s.module = none ∧ s.instances = n) ∨ (s.module ≠ none ∧ s.instances = n + 1)

/-- An instance in the module is beyond the first `n`. -/
def CountedSince (n : ℕ) (s : Loader) : Prop :=
  n ≤ s.instances ∧ (s.module ≠ none → n + 1 ≤ s.instances)

def Down (s : Loader) : Prop := s.initialized = false

section Segments

variable {s : Loader} {events : List Event} {n : ℕ}

theorem CountedSince.step (hs : CountedSince n s) (e : Event) : CountedSince n (s.step e) := by
  obtain ⟨hle, hmodule⟩ := hs
  rcases step_cases s e with ⟨-, hnew⟩ | rfl | ⟨-, hsame⟩
  · rw [CountedSince, hnew.instances]
    exact ⟨by omega, fun _ => by omega⟩
  · have hcleaned : (s.step .cleanup).instances = s.instances := cleanup_instances s
    rw [CountedSince, hcleaned]
    exact ⟨hle, fun h => absurd (cleanup_module s) h⟩
  · rw [CountedSince, hsame.instances, hsame.module]
    exact ⟨hle, hmodule⟩

theorem run_countedSince (hs : CountedSince n s) (events : List Event) :
    CountedSince n (run Loader.step s events) :=
  run_invariant (fun _ e h => h.step e) s hs events

theorem instances_le_step (s : Loader) (e : Event) : s.instances ≤ (s.step e).instances := by
  rcases step_cases s e with ⟨-, hnew⟩ | rfl | ⟨-, hsame⟩
  · rw [hnew.instances]
    omega
  · exact (cleanup_instances s).ge
  · exact hsame.instances.ge

theorem instances_le_run (s : Loader) (events : List Event) :
    s.instances ≤ (run Loader.step s events).instances := by
  induction events generalizing s with
  | nil => exact le_rfl
  | cons e events ih => exact (instances_le_step s e).trans (ih (s.step e))

/-- Without a cleanup, and with every instance arriving at an empty module, there is one at most. -/
theorem run_oneSince (hs : OneSince n s) (hclean : .cleanup ∉ events)
    (hfresh : ∀ before e after, events = before ++ e :: after →
      (run Loader.step s before).Creates e → (run Loader.step s before).module = none) :
    OneSince n (run Loader.step s events) := by
  apply run_invariant_at hs
  intro before e after heq hbefore
  rcases step_cases (run Loader.step s before) e with ⟨hcreates, hnew⟩ | rfl | ⟨-, hsame⟩
  · have hempty := hfresh before e after heq hcreates
    right
    rw [hnew.module, hnew.instances]
    rcases hbefore with ⟨-, hcount⟩ | ⟨hfull, -⟩
    · exact ⟨nofun, by rw [hcount]⟩
    · exact absurd hempty hfull
  · refine absurd ?_ hclean
    rw [heq]
    exact List.mem_append_right _ List.mem_cons_self
  · rw [OneSince, hsame.module, hsame.instances]
    exact hbefore

/-- The flag stays down if no instance arrives. -/
theorem run_down (hs : Down s)
    (hnone : ∀ before e after, events = before ++ e :: after →
      ¬ (run Loader.step s before).Creates e) : Down (run Loader.step s events) := by
  apply run_invariant_at hs
  intro before e after heq hbefore
  rcases step_cases (run Loader.step s before) e with ⟨hcreates, -⟩ | rfl | ⟨-, hsame⟩
  · exact absurd hcreates (hnone before e after heq)
  · change (run Loader.step s before).cleanup.initialized = false
    unfold Loader.cleanup
    split_ifs
    · rfl
    · exact hbefore
  · exact hsame.initialized.trans hbefore

end Segments

/-! ### Overlapping calls -/

/-- One instance at most between two consecutive cleanups; the flag up only with the module that the
bindings are for; and the flag down from a cleanup until the next call of `initialize`. -/
structure Safe (events : List Event) : Prop where
  single : ∀ before middle after,
    events = before ++ .cleanup :: (middle ++ .cleanup :: after) → .cleanup ∉ middle →
      (reached (before ++ .cleanup :: middle)).instances ≤
        (reached (before ++ [.cleanup])).instances + 1
  bound : ∀ before after, events = before ++ after → (reached before).Bound
  down : ∀ before middle after, events = before ++ .cleanup :: (middle ++ after) →
    .initializeCall ∉ middle →
      (reached (before ++ .cleanup :: middle)).isInitialized = false

/-- Between two cleanups, instances arrive at an empty module only, and no instance arrives after a
cleanup before the next call of `initialize`. -/
structure Orderly (events : List Event) : Prop where
  empty : ∀ before e after, events = before ++ e :: after → (reached before).Creates e →
    .cleanup ∈ before → .cleanup ∈ after → (reached before).module = none
  asked : ∀ before middle e after, events = before ++ .cleanup :: (middle ++ e :: after) →
    (reached (before ++ .cleanup :: middle)).Creates e → .initializeCall ∈ middle

theorem reached_segment (before middle : List Event) :
    reached (before ++ .cleanup :: middle) =
      run Loader.step (reached (before ++ [.cleanup])) middle := by
  rw [← reached_append, List.append_assoc, List.singleton_append]

theorem Orderly.safe {events : List Event} (h : Orderly events) : Safe events where
  single := by
    intro before middle after heq hclean
    have hstart : OneSince (reached (before ++ [.cleanup])).instances
        (reached (before ++ [.cleanup])) := Or.inl ⟨reached_cleanup_module before, rfl⟩
    have hone : OneSince (reached (before ++ [.cleanup])).instances
        (reached (before ++ .cleanup :: middle)) := by
      rw [reached_segment before middle]
      apply run_oneSince hstart hclean
      intro earlier e later hmiddle hcreates
      rw [← reached_segment before earlier] at hcreates ⊢
      apply h.empty _ e (later ++ .cleanup :: after) _ hcreates
      · exact List.mem_append_right _ List.mem_cons_self
      · exact List.mem_append_right _ List.mem_cons_self
      · rw [heq, hmiddle]
        simp only [List.append_assoc, List.cons_append]
    rcases hone with ⟨-, hcount⟩ | ⟨-, hcount⟩
    · omega
    · omega
  bound := fun before _ _ => reached_bound before
  down := by
    intro before middle after heq hnone
    have hstart : Down (reached (before ++ [.cleanup])) := by
      rw [reached_append]
      exact (reached_bound before).cleanup
    rw [reached_segment before middle]
    apply run_down hstart
    intro earlier e later hmiddle hcreates
    rw [← reached_segment before earlier] at hcreates
    have hcall : .initializeCall ∈ earlier := by
      apply h.asked before earlier e (later ++ after) _ hcreates
      rw [heq, hmiddle]
      simp only [List.append_assoc, List.cons_append]
    apply hnone
    rw [hmiddle]
    exact List.mem_append_left _ hcall

theorem exists_last {α : Type} {a : α} {xs : List α} (h : a ∈ xs) :
    ∃ earlier later, xs = earlier ++ a :: later ∧ a ∉ later := by
  obtain ⟨later, earlier, hreverse, hfirst⟩ :=
    List.eq_append_cons_of_mem (List.mem_reverse.mpr h)
  refine ⟨earlier.reverse, later.reverse, ?_, ?_⟩
  · have hxs := congrArg List.reverse hreverse
    simpa only [List.reverse_reverse, List.reverse_append, List.reverse_cons, List.append_assoc,
      List.singleton_append] using hxs
  · rwa [List.mem_reverse]

/-- An instance that arrives at a full module is the second one since the cleanup. -/
theorem instances_of_full {before : List Event} {e : Event}
    (hcreates : (reached before).Creates e) (hfull : (reached before).module ≠ none)
    {earlier later : List Event} (hbefore : before = earlier ++ .cleanup :: later)
    (rest : List Event) : (reached (earlier ++ [.cleanup])).instances + 2 ≤
      (reached (before ++ e :: rest)).instances := by
  have hstart : CountedSince (reached (earlier ++ [.cleanup])).instances
      (reached (earlier ++ [.cleanup])) :=
    ⟨le_rfl, fun h => absurd (reached_cleanup_module earlier) h⟩
  have hcounted := run_countedSince hstart later
  rw [← reached_segment, ← hbefore] at hcounted
  have hfirst := hcounted.2 hfull
  have hsecond := hcreates.newModule.instances
  have hrest := instances_le_run ((reached before).step e) rest
  have hreached : reached (before ++ e :: rest) =
      run Loader.step ((reached before).step e) rest := reached_append before (e :: rest)
  rw [hreached]
  omega

theorem Safe.orderly {events : List Event} (h : Safe events) : Orderly events where
  empty := by
    intro before e after heq hcreates hbefore hafter
    by_contra hfull
    obtain ⟨earlier, later, hlast, hlater⟩ := exists_last hbefore
    obtain ⟨rest, beyond, hfirst, hrest⟩ := List.eq_append_cons_of_mem hafter
    have hclean : .cleanup ∉ later ++ e :: rest := by
      rw [List.mem_append, List.mem_cons]
      rintro (hmem | rfl | hmem)
      · exact hlater hmem
      · exact hcreates
      · exact hrest hmem
    have hsingle := h.single earlier (later ++ e :: rest) beyond
      (by rw [heq, hlast, hfirst]; simp only [List.append_assoc, List.cons_append]) hclean
    have htwo := instances_of_full hcreates hfull hlast rest
    have hsame : before ++ e :: rest = earlier ++ .cleanup :: (later ++ e :: rest) := by
      rw [hlast, List.append_assoc, List.cons_append]
    rw [hsame] at htwo
    omega
  asked := by
    intro before middle e after heq hcreates
    by_contra hnone
    have hcall : .initializeCall ∉ middle ++ [e] := by
      rw [List.mem_append, List.mem_singleton]
      rintro (hmem | rfl)
      · exact hnone hmem
      · exact hcreates
    have hdown := h.down before (middle ++ [e]) after
      (by rw [heq]; simp only [List.append_assoc, List.singleton_append]) hcall
    have hreached : reached (before ++ .cleanup :: (middle ++ [e])) =
        (reached (before ++ .cleanup :: middle)).step e := by
      rw [← List.cons_append, ← List.append_assoc, reached_append]
      rfl
    rw [hreached] at hdown
    exact Bool.false_ne_true (hdown.symm.trans hcreates.newModule.initialized)

/-- Overlapping calls are safe exactly if every instance arrives in order. -/
theorem overlap_safe_iff (events : List Event) : Safe events ↔ Orderly events :=
  ⟨Safe.orderly, Orderly.safe⟩

/-- An instance that was awaited at a cleanup arrives after it. -/
def lateArrival : List Event :=
  [.initializeCall, .settle 0 true, .settle 0 true, .cleanup, .settle 0 true]

/-- Two calls pass the guard, and both get an instance. -/
def twoArrivals : List Event :=
  [.initializeCall, .initializeCall, .settle 0 true, .settle 1 true, .settle 0 true,
    .settle 1 true, .settle 0 true, .settle 1 true]

theorem overlap_unsafe :
    ¬ Safe lateArrival ∧ ¬ Safe (.cleanup :: (twoArrivals ++ [.cleanup])) := by
  constructor
  · intro h
    have hdown := h.down [.initializeCall, .settle 0 true, .settle 0 true] [.settle 0 true] [] rfl
      (by decide)
    exact nomatch hdown
  · intro h
    have hsingle := h.single [] twoArrivals [] rfl (by decide)
    exact absurd hsingle (by decide)

end BoostSystem.Lifecycle
