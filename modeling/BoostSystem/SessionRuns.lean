import BoostSystem.Sessions

/-!
# The books of a session

The statistics go back to the last cleanup, and the store only to the last arrival of an instance: one
that arrives at a full module takes the place of the module that the statistics were made with. Where no
instance does so, the log is one of a sequential run.
-/

namespace BoostSystem.Sessions

open Api Asynchrony Loading Runs

/-! ### The accounts -/

def isLoad : Entry → Bool
  | (.initializeCall _, _) => true
  | _ => false

def isArrival : Entry → Bool
  | (.initializeCall (some _), .ok _) => true
  | _ => false

/-- The log since the module arrived. -/
def sinceArrival (log : Log) : Log := (sinceCleanup log).rtakeWhile fun entry => !isArrival entry

/-- The object with the statistics that the log calls for. -/
def chargedWith (s : ApiState) (log : Log) : ApiState := { s with memoryUsage := accountOf log }

/-- The statistics go back to the last cleanup, and the store to the last arrival. -/
structure Accounted (s : State) : Prop where
  usage : s.memoryUsage = accountOf (sinceCleanup s.log)
  idle : s.initialized = false → (sinceCleanup s.log).flatMap codesOf = []
  store : Books (sinceArrival s.log) (chargedWith s.toApiState (sinceArrival s.log))

section Accounts

variable {host : Host} {s s' : State} {entry : Entry}

theorem isLoad_of_method (call : Method) (outcome : Outcome) : isLoad (call.1, outcome) = false := by
  obtain ⟨call, hmethod⟩ := call
  cases call with
  | initializeCall => cases hmethod
  | _ => rfl

theorem isArrival_of_not_load (h : isLoad entry = false) : isArrival entry = false := by
  obtain ⟨call, outcome⟩ := entry
  cases call with
  | initializeCall => cases h
  | _ => rfl

theorem sinceArrival_append (log : Log) (hcleanup : isCleanup entry = false)
    (harrival : isArrival entry = false) :
    sinceArrival (log ++ [entry]) = sinceArrival log ++ [entry] := by
  rw [sinceArrival, sinceCleanup_append log hcleanup]
  exact List.rtakeWhile_concat_pos _ _ _ (by rw [harrival]; rfl)

theorem sinceArrival_arrival (log : Log) (hcleanup : isCleanup entry = false)
    (harrival : isArrival entry = true) : sinceArrival (log ++ [entry]) = [] := by
  rw [sinceArrival, sinceCleanup_append log hcleanup]
  exact List.rtakeWhile_concat_neg _ _ _ (by rw [harrival]; exact Bool.false_ne_true)

theorem entered_chargedWith {s s' : ApiState} (h : Entered s entry s') (log : Log) :
    Entered (chargedWith s log) entry (chargedWith s' (log ++ [entry])) where
  initialized := h.initialized
  usage := accountOf_append log entry
  idle := h.idle
  messages := h.messages
  handles := h.handles
  interned := h.interned

theorem Accounted.entered (h : Accounted s)
    (hentered : Entered s.toApiState entry s'.toApiState) (hlog : s'.log = s.log ++ [entry])
    (hcleanup : isCleanup entry = false) (harrival : isArrival entry = false) : Accounted s' := by
  constructor
  · rw [hlog, sinceCleanup_append _ hcleanup, accountOf_append, ← h.usage]
    exact hentered.usage
  · intro hdown
    have hidle : s.initialized = false := hentered.initialized.symm.trans hdown
    rw [hlog, sinceCleanup_append _ hcleanup, List.flatMap_append, List.flatMap_singleton,
      h.idle hidle, (hentered.idle hidle).1]
    rfl
  · rw [hlog, sinceArrival_append _ hcleanup harrival]
    exact h.store.entered (entered_chargedWith hentered _)

theorem Accounted.arrived (h : Accounted s) {heap : Heap}
    (hobject : s'.toApiState = s.toApiState.load heap)
    (hlog : s'.log = s.log ++ [(.initializeCall (some heap), .ok .done)]) : Accounted s' := by
  have husage : s'.memoryUsage = s.memoryUsage := congrArg ApiState.memoryUsage hobject
  have hup : s'.initialized = true := congrArg ApiState.initialized hobject
  constructor
  · rw [hlog, sinceCleanup_append _ rfl, accountOf_append, husage, h.usage]
    rfl
  · intro hdown
    exact absurd (hup.symm.trans hdown) (by decide)
  · rw [hlog, sinceArrival_arrival _ rfl rfl, hobject]
    exact ⟨rfl, nofun, fun _ => holds_nil, fun _ => holds_nil, fun _ => rfl⟩

theorem initialized_unload (s : ApiState) : s.unload.initialized = false := by
  unfold ApiState.unload
  split_ifs with hup
  · rfl
  · exact Bool.eq_false_iff.mpr hup

theorem Accounted.cleaned (h : Accounted s) (hobject : s'.toApiState = s.toApiState.unload)
    {outcome : Outcome} (hlog : s'.log = s.log ++ [(.cleanup, outcome)]) : Accounted s' := by
  have hsince : sinceCleanup s'.log = [] := by rw [hlog, sinceCleanup_cleanup]
  have hdown : s'.initialized = false := by
    change s'.toApiState.initialized = false
    rw [hobject, initialized_unload]
  have husage : s'.memoryUsage = accountOf [] := by
    change s'.toApiState.memoryUsage = accountOf []
    rw [hobject]
    unfold ApiState.unload
    split_ifs with hup
    · rfl
    · exact h.usage.trans (accountOf_eq_nil (h.idle (Bool.eq_false_iff.mpr hup)))
  constructor
  · rw [hsince, husage]
  · intro _
    rw [hsince]
    rfl
  · rw [sinceArrival, hsince]
    have hnot : (chargedWith s'.toApiState []).initialized ≠ true := Bool.eq_false_iff.mp hdown
    exact ⟨rfl, fun _ => ⟨rfl, rfl⟩, fun hup => absurd hup hnot, fun hup => absurd hup hnot,
      fun hup => absurd hup hnot⟩

theorem Accounted.step (h : Accounted s) (hflag : Flagged s) (e : Event) :
    Accounted (s.step host e) := by
  have hblank (outcome : Outcome) (hcodes : codesOf (.initializeCall none, outcome) = [])
      (hobject : (s.step host e).toApiState = s.toApiState) :
      Entered s.toApiState (.initializeCall none, outcome) (s.step host e).toApiState := by
    rw [hobject]
    exact entered_blank ⟨hcodes, rfl⟩ rfl
  cases effect_step host hflag e with
  | nothing hobject hlog =>
    constructor
    · rw [hlog]
      exact (congrArg ApiState.memoryUsage hobject).trans h.usage
    · rw [hlog]
      exact fun hdown => h.idle ((congrArg ApiState.initialized hobject).symm.trans hdown)
    · rw [hlog, hobject]
      exact h.store
  | guarded _ hobject hlog => exact h.entered (hblank _ rfl hobject) hlog rfl rfl
  | threw hobject hlog => exact h.entered (hblank _ rfl hobject) hlog rfl rfl
  | arrived _ hobject hlog => exact h.arrived hobject hlog
  | cleaned hobject hlog => exact h.cleaned hobject hlog
  | performed hobject hlog =>
    next call =>
    refine h.entered ?_ hlog (isCleanup_of_isMethod call.2 _) ?_
    · rw [hobject]
      exact entered_perform host.env s.toApiState call.2
    · exact isArrival_of_not_load (isLoad_of_method call _)

theorem reached_accounted (host : Host) (events : List Event) :
    Accounted (reached host events) := by
  have hstep (s : State) (e : Event) (h : Flagged s ∧ Accounted s) :
      Flagged (s.step host e) ∧ Accounted (s.step host e) := ⟨h.1.step e, h.2.step h.1 e⟩
  exact (run_invariant hstep State.constructed ⟨rfl, rfl, fun _ => rfl, constructed_books⟩ events).2

end Accounts

/-! ### Every call is in the log once -/

def hasEnded : Option (Load Origin) → Bool
  | some (.await _ _) => false
  | _ => true

/-- As many calls of `initialize` have ended as the log has. -/
def Counted (s : State) : Prop := s.log.countP isLoad = s.calls.countP hasEnded

section Counts

variable {host : Host} {s : State} {call : ℕ}

theorem hasEnded_load (deno : Bool) : hasEnded (some (load deno)) = false := by
  cases deno with
  | true | false => rfl

theorem Counted.goOn (h : Counted s) {q : Request} {next : Except String (Answer q) → Load Origin}
    (hawaits : s.calls[call]? = some (some (.await q next))) (x : Load Origin) :
    Counted (s.goOn host call x) := by
  obtain ⟨hlt, hcall⟩ := List.getElem?_eq_some_iff.mp hawaits
  have hcalls : (s.goOn host call x).calls = s.calls.set call (some x) := by
    cases x with
    | returned | threw | await => rfl
  have hset : (s.calls.set call (some x)).countP hasEnded =
      s.calls.countP hasEnded + if hasEnded (some x) then 1 else 0 := by
    rw [List.countP_set hlt, hcall]
    rfl
  unfold Counted
  rw [hcalls, hset, ← h]
  cases x with
  | returned | threw => exact List.countP_append
  | await => rfl

theorem Counted.step (h : Counted s) (e : Event) : Counted (s.step host e) := by
  cases e with
  | initializeCall =>
    have hcount : s.log.countP isLoad = s.calls.countP hasEnded := h
    unfold Counted State.step State.initializeCall Loading.State.initializeCall
    by_cases hup : s.initialized = true
    · simp only [if_pos hup, List.countP_append, hcount]
      rfl
    · simp only [if_neg hup, List.countP_append, List.countP_singleton, hasEnded_load, hcount]
      rfl
  | settle call =>
    rcases settle_cases host s call with hsame | ⟨q, next, hawaits, hgoes⟩
    · rw [State.step, hsame]
      exact h
    · rw [State.step, hgoes]
      exact h.goOn hawaits _
  | cleanup =>
    change (s.log ++ [_]).countP isLoad = s.toState.cleanup.calls.countP hasEnded
    rw [calls_cleanup, List.countP_append, h]
    rfl
  | method call =>
    change (s.log ++ [_]).countP isLoad = s.calls.countP hasEnded
    rw [List.countP_append, List.countP_singleton, isLoad_of_method, h]
    rfl

theorem reached_counted (host : Host) (events : List Event) : Counted (reached host events) := by
  have hstep (s : State) (e : Event) (h : Counted s) : Counted (s.step host e) := h.step e
  exact run_invariant hstep State.constructed rfl events

end Counts

/-! ### Whole sessions -/

section Logs

variable {host : Host}

theorem log_step {s : State} (h : Flagged s) (e : Event) : s.log <+: (s.step host e).log := by
  cases effect_step host h e with
  | nothing _ hlog => rw [hlog]
  | guarded _ _ hlog | threw _ hlog | arrived _ _ hlog | cleaned _ hlog | performed _ hlog =>
    rw [hlog]
    exact List.prefix_append _ _

/-- What is in the log stays there. -/
theorem log_prefix (host : Host) (before after : List Event) :
    (reached host before).log <+: (reached host (before ++ after)).log := by
  induction after using List.reverseRecOn with
  | nil => rw [List.append_nil]
  | append_singleton after e ih =>
    rw [← List.append_assoc, reached_append host (before ++ after)]
    exact ih.trans (log_step (reached_flagged host _) e)

/-- The entry of a method is what the method answers there. -/
theorem log_at (before : List Event) (call : Method) (after : List Event) :
    (reached host (before ++ .method call :: after)).log[(reached host before).log.length]? =
      some (call.1, (perform host.env call.1 (reached host before).toApiState).1) := by
  have hentry : (reached host (before ++ [.method call])).log =
      (reached host before).log ++
        [(call.1, (perform host.env call.1 (reached host before).toApiState).1)] := by
    rw [reached_append]
    rfl
  obtain ⟨rest, hrest⟩ := log_prefix host (before ++ [.method call]) after
  rw [List.append_cons, ← hrest, hentry, List.append_assoc,
    List.getElem?_append_right (Nat.le_refl _), Nat.sub_self]
  rfl

end Logs

/-- What is said of a session: the methods leave the calls that load where they would be, every such call
is in the log once it has ended, the books balance, and `getMemoryStats` has answered so. -/
structure Balanced (host : Host) (events : List Event) : Prop where
  loads : (reached host events).loads =
    Loading.reached host.deno host.answers (events.flatMap Event.loading)
  ended : Counted (reached host events)
  accounts : Accounted (reached host events)
  stats : ∀ before after, events = before ++ .method ⟨.getMemoryStats, rfl⟩ :: after →
    (reached host events).log[(reached host before).log.length]? = some (.getMemoryStats,
      .ok (.memory (accountOf (sinceCleanup (reached host before).log))))

theorem sessions_balance (host : Host) (events : List Event) : Balanced host events := by
  refine ⟨reached_loads host events, reached_counted host events, reached_accounted host events, ?_⟩
  rintro before after rfl
  rw [← (reached_accounted host before).usage]
  exact log_at before _ after

/-- Every request is granted. -/
def granted : Environment
  | .fetch _ => .ok true
  | .readFile | .arrayBuffer _ | .importModule _ | .moduleFactory _ _ => .ok ()

def grantedHost : Host where
  deno := true
  env := ⟨false, fun _ => false, fun s _ => ⟨0, s.heap⟩, fun s _ => s.heap⟩
  answers := fun _ => granted
  heaps := fun _ => ApiState.constructed.heap

/-- A code is created between the arrivals of two instances. -/
def overtaken : List Event :=
  [.initializeCall, .initializeCall, .settle 0, .settle 0, .settle 0,
    .method ⟨.createErrorCode 5 .generic, rfl⟩, .settle 1, .settle 1, .settle 1]

/-- The code is counted, and its message is not in the store. -/
example : (reached grantedHost overtaken).memoryUsage.errorCodesCreated = 1 ∧
    (reached grantedHost overtaken).store.messageStorage = [] := ⟨rfl, rfl⟩

/-! ### Sessions as sequential runs -/

def isFailedLoad : Entry → Bool
  | (.initializeCall none, .error _) => true
  | _ => false

/-- Without the loads that have thrown, which change nothing. -/
def served (log : Log) : Log := log.filter fun entry => !isFailedLoad entry

/-- The calls of the log, one after the other, have these outcomes and leave this object. -/
def Sequential (host : Host) (s : State) : Prop :=
  logged host.env ((served s.log).map Prod.fst) = (served s.log, s.toApiState)

/-- An instance that arrives finds no module, or one that is as new. -/
def Timely (host : Host) (s : State) (call : ℕ) : Prop :=
  s.initialized = false ∨ s.toApiState.load (host.heaps call) = s.toApiState

section Sequences

variable {host : Host} {s s' : State} {call : ℕ}

theorem logged_append (env : Env) (calls : List Call) (call : Call) :
    logged env (calls ++ [call]) =
      ((logged env calls).1 ++ [(call, (perform env call (logged env calls).2).1)],
        (perform env call (logged env calls).2).2) := transcript_append _ _ calls call

theorem isFailedLoad_of_not_load {entry : Entry} (h : isLoad entry = false) :
    isFailedLoad entry = false := by
  obtain ⟨call, outcome⟩ := entry
  cases call with
  | initializeCall => cases h
  | _ => rfl

theorem served_append (log : Log) {entry : Entry} (h : isFailedLoad entry = false) :
    served (log ++ [entry]) = served log ++ [entry] := by
  rw [served, List.filter_append, List.filter_cons_of_pos (by rw [h]; rfl)]
  rfl

/-- One more call of the log. -/
theorem Sequential.entered (h : Sequential host s) {entry : Entry}
    (hserved : isFailedLoad entry = false)
    (hcall : perform host.env entry.1 s.toApiState = (entry.2, s'.toApiState))
    (hlog : s'.log = s.log ++ [entry]) : Sequential host s' := by
  unfold Sequential
  rw [hlog, served_append _ hserved, List.map_append, List.map_singleton, logged_append, h, hcall]

theorem Sequential.same (h : Sequential host s) (hobject : s'.toApiState = s.toApiState)
    (hlog : served s'.log = served s.log) : Sequential host s' := by
  unfold Sequential
  rw [hlog, hobject]
  exact h

theorem perform_initialize_up {s : ApiState} (env : Env) (hup : s.initialized = true)
    (loaded : Option Heap) : perform env (.initializeCall loaded) s = (.ok .done, s) := by
  rw [perform, replying_apply, initializeModule_of_ready hup]
  rfl

theorem perform_initialize_down {s : ApiState} (env : Env) (hdown : s.initialized ≠ true)
    (heap : Heap) : perform env (.initializeCall (some heap)) s = (.ok .done, s.load heap) := by
  rw [perform, replying_apply, initializeModule_of_not_ready hdown]
  rfl

theorem Sequential.step (h : Sequential host s) (hflag : Flagged s) (e : Event)
    (htimely : ∀ call, e = .settle call → Arrives host s call → Timely host s call) :
    Sequential host (s.step host e) := by
  cases effect_step host hflag e with
  | nothing hobject hlog => exact h.same hobject (congrArg served hlog)
  | guarded hup hobject hlog =>
    refine h.entered rfl ?_ hlog
    rw [hobject]
    exact perform_initialize_up host.env hup none
  | threw hobject hlog =>
    refine h.same hobject ?_
    rw [hlog, served, List.filter_append]
    exact List.append_nil _
  | @arrived call harrives hobject hlog =>
    refine h.entered rfl ?_ hlog
    rw [hobject]
    rcases htimely call rfl harrives with hdown | hnew
    · exact perform_initialize_down host.env (Bool.eq_false_iff.mp hdown) _
    · rw [hnew]
      by_cases hup : s.initialized = true
      · exact perform_initialize_up host.env hup _
      · exact absurd (congrArg ApiState.initialized hnew).symm hup
  | cleaned hobject hlog =>
    refine h.entered rfl ?_ hlog
    rw [hobject]
    rfl
  | @performed call hobject hlog =>
    refine h.entered (isFailedLoad_of_not_load (isLoad_of_method call _)) ?_ hlog
    rw [hobject]

/-- At a full module, the calls of the log would have left the module that was there. -/
theorem Sequential.timely (h : Sequential host s) (harrives : Arrives host s call)
    (hafter : Sequential host (s.settle host call)) : Timely host s call := by
  by_cases hup : s.initialized = true
  · right
    obtain ⟨hobject, hlog⟩ := harrives.settle
    unfold Sequential at hafter
    rw [hlog, served_append _ rfl, List.map_append, List.map_singleton, logged_append, h,
      perform_initialize_up host.env hup] at hafter
    rw [← hobject]
    exact (congrArg Prod.snd hafter).symm
  · exact Or.inl (Bool.eq_false_iff.mpr hup)

end Sequences

/-- The log of a session is, all along, one of a sequential run that leaves the same object, exactly if
every instance that arrives finds no module, or one that is as new. -/
theorem sessions_sequential_iff (host : Host) (events : List Event) :
    (∀ before after, events = before ++ after → Sequential host (reached host before)) ↔
      ∀ before call after, events = before ++ .settle call :: after →
        Arrives host (reached host before) call → Timely host (reached host before) call := by
  constructor
  · rintro h before call after rfl harrives
    have hafter := h (before ++ [.settle call]) after (by rw [List.append_assoc]; rfl)
    rw [reached_append] at hafter
    exact (h before _ rfl).timely harrives hafter
  · rintro h before after rfl
    induction before using List.reverseRecOn generalizing after with
    | nil => exact rfl
    | append_singleton before e ih =>
      rw [reached_append]
      have hevents : before ++ [e] ++ after = before ++ e :: after := by
        rw [List.append_assoc, List.singleton_append]
      refine (ih (e :: after) (hevents ▸ h)).step (reached_flagged host before) e ?_
      rintro call rfl
      exact h before call after hevents

end BoostSystem.Sessions
