import BoostSystem.StdStorage

/-!
# Threads that convert at the same time

`operator std::error_category const &` and `init_stdcat` as the atomic steps of any number of
threads, under a scheduler that picks the next thread freely. One mutex serves every category.
A thread that waits for the mutex, or for a call, stays where it is when it is picked.
-/

namespace BoostSystem

variable {T U K : Type}

/-- The `stdcat_` bytes of a category: nothing yet, a construction under way, a `std_category`. -/
inductive StdcatBytes (U : Type) where
  | raw
  | begun
  | whole (pc : ErrorCategory U)
deriving DecidableEq

/-- The next atomic step of a thread inside the conversion operator. -/
inductive Point where
  | check
  | lock
  | recheck
  | construct
  | constructing
  | store
  | unlock
  | access
deriving DecidableEq

/-- A reference handed out, and what it referred to at that moment. -/
structure Return (T U K : Type) where
  thread : T
  category : ErrorCategory U
  reference : StdErrorCategory U K
  found : StdcatBytes U

structure Threads (T U K : Type) where
  threads : T → Option (Point × ErrorCategory U)
  mutex : Option T
  scInit : ErrorCategory U → UInt32
  stdcat : ErrorCategory U → StdcatBytes U
  constructions : ErrorCategory U → ℕ
  returns : List (Return T U K)

inductive Event (T U : Type) where
  | call (t : T) (c : ErrorCategory U)
  | tick (t : T)

namespace Threads

def initial : Threads T U K where
  threads _ := none
  mutex := none
  scInit _ := 0
  stdcat _ := .raw
  constructions _ := 0
  returns := []

/-! ### The invariant -/

def Fresh (s : Threads T U K) (c : ErrorCategory U) : Prop :=
  s.scInit c = 0 ∧ s.stdcat c = .raw ∧ s.constructions c = 0

def Done (s : Threads T U K) (c : ErrorCategory U) : Prop :=
  s.scInit c ≠ 0 ∧ s.stdcat c = .whole c ∧ s.constructions c = 1

/-- What thread `t` may rely on at each point. -/
def Holds (s : Threads T U K) (t : T) : Option (Point × ErrorCategory U) → Prop
  | none | some (.check, _) | some (.lock, _) => s.mutex ≠ some t
  | some (.recheck, _) => s.mutex = some t
  | some (.construct, c) => s.mutex = some t ∧ s.scInit c = 0
  | some (.constructing, c) =>
    s.mutex = some t ∧ s.scInit c = 0 ∧ s.stdcat c = .begun ∧ s.constructions c = 1
  | some (.store, c) =>
    s.mutex = some t ∧ s.scInit c = 0 ∧ s.stdcat c = .whole c ∧ s.constructions c = 1
  | some (.unlock, c) => s.mutex = some t ∧ s.scInit c ≠ 0
  | some (.access, c) => s.mutex ≠ some t ∧ s.scInit c ≠ 0

def Builds (c : ErrorCategory U) (x : Option (Point × ErrorCategory U)) : Prop :=
  x = some (.constructing, c) ∨ x = some (.store, c)

structure Inv (w : Program U K) (s : Threads T U K) : Prop where
  holds : ∀ t, s.Holds t (s.threads t)
  settled : ∀ c, s.Fresh c ∨ s.Done c ∨ ∃ t, Builds c (s.threads t)
  own : ∀ t point c, s.threads t = some (point, c) →
    c.id w ≠ genericCategoryId ∧ c.id w ≠ systemCategoryId
  returns : ∀ r ∈ s.returns,
    r.reference = .stdcat r.category ∧ r.found = .whole r.category ∧ s.Done r.category

theorem initial_inv (w : Program U K) : (initial : Threads T U K).Inv w where
  holds _ := nofun
  settled _ := Or.inl ⟨rfl, rfl, rfl⟩
  own _ _ _ h := nomatch h
  returns _ h := nomatch h

section Invariant

variable {w : Program U K} {s s' : Threads T U K} {t : T} {c : ErrorCategory U}

theorem Builds.mutex (hs : s.Inv w) (h : Builds c (s.threads t)) : s.mutex = some t := by
  have ht := hs.holds t
  rcases h with h | h
  · rw [h] at ht
    exact ht.1
  · rw [h] at ht
    exact ht.1

theorem Builds.scInit (hs : s.Inv w) (h : Builds c (s.threads t)) : s.scInit c = 0 := by
  have ht := hs.holds t
  rcases h with h | h
  · rw [h] at ht
    exact ht.2.1
  · rw [h] at ht
    exact ht.2.1

theorem Inv.done_of_set (hs : s.Inv w) (hset : s.scInit c ≠ 0) : s.Done c := by
  rcases hs.settled c with hfresh | hdone | ⟨t, hbuilds⟩
  · exact absurd hfresh.1 hset
  · exact hdone
  · exact absurd (hbuilds.scInit hs) hset

/-- The holder of the mutex finds an unset category untouched, unless it is building it. -/
theorem Inv.fresh_of_unset (hs : s.Inv w) (hunset : s.scInit c = 0) (hmutex : s.mutex = some t)
    (hbuilds : ¬ Builds c (s.threads t)) : s.Fresh c := by
  rcases hs.settled c with hfresh | hdone | ⟨t', hbuilds'⟩
  · exact hfresh
  · exact absurd hunset hdone.1
  · have hsame : t' = t := by
      have hmutex' := hbuilds'.mutex hs
      rw [hmutex] at hmutex'
      exact (Option.some.inj hmutex').symm
    rw [hsame] at hbuilds'
    exact absurd hbuilds' hbuilds

/-- A step of one thread leaves alone what another relies on: the flag never falls, the mutex is not
taken from it, and only the holder touches the storage. -/
theorem Holds.frame {x : Option (Point × ErrorCategory U)} (h : s.Holds t x)
    (hmutex : s'.mutex = some t ↔ s.mutex = some t)
    (hset : ∀ c, s.scInit c ≠ 0 → s'.scInit c ≠ 0)
    (hdata : s.mutex = some t → s'.scInit = s.scInit ∧ s'.stdcat = s.stdcat ∧
      s'.constructions = s.constructions) : s'.Holds t x := by
  cases x with
  | none => exact (not_congr hmutex).mpr h
  | some y =>
    obtain ⟨point, c⟩ := y
    cases point with
    | check | lock => exact (not_congr hmutex).mpr h
    | recheck => exact hmutex.mpr h
    | construct =>
      obtain ⟨hscInit, -, -⟩ := hdata h.1
      exact ⟨hmutex.mpr h.1, by rw [hscInit]; exact h.2⟩
    | constructing =>
      obtain ⟨hscInit, hstdcat, hconstructions⟩ := hdata h.1
      exact ⟨hmutex.mpr h.1, by rw [hscInit, hstdcat, hconstructions]; exact h.2⟩
    | store =>
      obtain ⟨hscInit, hstdcat, hconstructions⟩ := hdata h.1
      exact ⟨hmutex.mpr h.1, by rw [hscInit, hstdcat, hconstructions]; exact h.2⟩
    | unlock => exact ⟨hmutex.mpr h.1, hset c h.2⟩
    | access => exact ⟨(not_congr hmutex).mpr h.1, hset c h.2⟩

variable [DecidableEq T]

theorem Inv.settled_of_same (hs : s.Inv w) {x : Option (Point × ErrorCategory U)}
    (hthreads : s'.threads = Function.update s.threads t x) (hbuilds : ¬ Builds c (s.threads t))
    (hdata : s'.scInit c = s.scInit c ∧ s'.stdcat c = s.stdcat c ∧
      s'.constructions c = s.constructions c) :
    s'.Fresh c ∨ s'.Done c ∨ ∃ t, Builds c (s'.threads t) := by
  obtain ⟨hscInit, hstdcat, hconstructions⟩ := hdata
  rcases hs.settled c with hfresh | hdone | ⟨t', hbuilds'⟩
  · left
    unfold Fresh
    rw [hscInit, hstdcat, hconstructions]
    exact hfresh
  · right
    left
    unfold Done
    rw [hscInit, hstdcat, hconstructions]
    exact hdone
  · have hne : t' ≠ t := fun heq => hbuilds (heq ▸ hbuilds')
    refine Or.inr (Or.inr ⟨t', ?_⟩)
    rw [hthreads, Function.update_of_ne hne]
    exact hbuilds'

theorem Inv.quiet (hs : s.Inv w) {x : Option (Point × ErrorCategory U)}
    (hthreads : s'.threads = Function.update s.threads t x) (hx : s'.Holds t x)
    (hbuilds : ∀ c, ¬ Builds c (s.threads t))
    (hmutex : ∀ t' ≠ t, s'.mutex = some t' ↔ s.mutex = some t')
    (hdata : s'.scInit = s.scInit ∧ s'.stdcat = s.stdcat ∧ s'.constructions = s.constructions)
    (hown : ∀ point c, x = some (point, c) → c.id w ≠ genericCategoryId ∧ c.id w ≠ systemCategoryId)
    (hreturns : ∀ r ∈ s'.returns, r ∈ s.returns ∨
      (r.reference = .stdcat r.category ∧ r.found = .whole r.category ∧ s.Done r.category)) :
    s'.Inv w := by
  obtain ⟨hscInit, hstdcat, hconstructions⟩ := hdata
  refine ⟨?_, ?_, ?_, ?_⟩
  · intro t'
    by_cases heq : t' = t
    · rw [hthreads, heq, Function.update_self]
      exact hx
    · rw [hthreads, Function.update_of_ne heq]
      refine (hs.holds t').frame (hmutex t' heq) ?_ fun _ => ⟨hscInit, hstdcat, hconstructions⟩
      intro c hset
      rwa [hscInit]
  · intro c
    exact hs.settled_of_same hthreads (hbuilds c)
      ⟨congrFun hscInit c, congrFun hstdcat c, congrFun hconstructions c⟩
  · intro t' point c ht'
    rw [hthreads] at ht'
    by_cases heq : t' = t
    · rw [heq, Function.update_self] at ht'
      exact hown point c ht'
    · rw [Function.update_of_ne heq] at ht'
      exact hs.own t' point c ht'
  · intro r hr
    have hentry : r.reference = .stdcat r.category ∧ r.found = .whole r.category ∧
        s.Done r.category := by
      rcases hreturns r hr with hold | hnew
      · exact hs.returns r hold
      · exact hnew
    unfold Done
    rw [hscInit, hstdcat, hconstructions]
    exact hentry

theorem Inv.guarded (hs : s.Inv w) {point point' : Point} (ht : s.threads t = some (point, c))
    (hheld : s.mutex = some t)
    (hthreads : s'.threads = Function.update s.threads t (some (point', c)))
    (hx : s'.Holds t (some (point', c))) (hmutex : s'.mutex = s.mutex)
    (hunset : s.scInit c = 0)
    (hother : ∀ d ≠ c, s'.scInit d = s.scInit d ∧ s'.stdcat d = s.stdcat d ∧
      s'.constructions d = s.constructions d)
    (hsettled : s'.Done c ∨ Builds c (some (point', c))) (hreturns : s'.returns = s.returns) :
    s'.Inv w := by
  have hset : ∀ d, s.scInit d ≠ 0 → s'.scInit d ≠ 0 := by
    intro d hd
    have hne : d ≠ c := fun heq => hd (heq ▸ hunset)
    rwa [(hother d hne).1]
  refine ⟨?_, ?_, ?_, ?_⟩
  · intro t'
    by_cases heq : t' = t
    · rw [hthreads, heq, Function.update_self]
      exact hx
    · rw [hthreads, Function.update_of_ne heq]
      refine (hs.holds t').frame (by rw [hmutex]) hset ?_
      intro hheld'
      rw [hheld] at hheld'
      exact absurd (Option.some.inj hheld').symm heq
  · intro d
    by_cases heq : d = c
    · rw [heq]
      rcases hsettled with hdone | hbuilds
      · exact Or.inr (Or.inl hdone)
      · refine Or.inr (Or.inr ⟨t, ?_⟩)
        rwa [hthreads, Function.update_self]
    · have hbuilds : ¬ Builds d (s.threads t) := by
        rw [ht]
        rintro (h | h)
        · exact heq (congrArg Prod.snd (Option.some.inj h)).symm
        · exact heq (congrArg Prod.snd (Option.some.inj h)).symm
      exact hs.settled_of_same hthreads hbuilds (hother d heq)
  · intro t' point'' d ht'
    rw [hthreads] at ht'
    by_cases heq : t' = t
    · rw [heq, Function.update_self] at ht'
      have hcategory : c = d := congrArg Prod.snd (Option.some.inj ht')
      rw [← hcategory]
      exact hs.own t point c ht
    · rw [Function.update_of_ne heq] at ht'
      exact hs.own t' point'' d ht'
  · intro r hr
    rw [hreturns] at hr
    obtain ⟨hreference, hfound, hdone⟩ := hs.returns r hr
    have hne : r.category ≠ c := fun heq => hdone.1 (heq ▸ hunset)
    obtain ⟨hscInit, hstdcat, hconstructions⟩ := hother r.category hne
    refine ⟨hreference, hfound, ?_⟩
    unfold Done
    rw [hscInit, hstdcat, hconstructions]
    exact hdone

end Invariant

variable [DecidableEq T] [DecidableEq U]

def goto (s : Threads T U K) (t : T) (point : Point) (c : ErrorCategory U) : Threads T U K :=
  { s with threads := Function.update s.threads t (some (point, c)) }

/-- The next step of thread `t`, which converts `c`. -/
def advance (s : Threads T U K) (t : T) (c : ErrorCategory U) : Point → Threads T U K
  | .check => if s.scInit c == 0 then s.goto t .lock c else s.goto t .access c
  | .lock =>
    match s.mutex with
    | none => { s.goto t .recheck c with mutex := some t }
    | some _ => s
  | .recheck => if s.scInit c == 0 then s.goto t .construct c else s.goto t .unlock c
  | .construct =>
    { s.goto t .constructing c with
      stdcat := Function.update s.stdcat c .begun
      constructions := Function.update s.constructions c (s.constructions c + 1) }
  | .constructing =>
    { s.goto t .store c with stdcat := Function.update s.stdcat c (.whole c) }
  | .store => { s.goto t .unlock c with scInit := Function.update s.scInit c 1 }
  | .unlock => { s.goto t .access c with mutex := none }
  | .access =>
    { s with
      threads := Function.update s.threads t none
      returns := s.returns ++ [⟨t, c, .stdcat c, s.stdcat c⟩] }

/-- The conversions of the generic and system identifiers return before `sc_init_` is read. -/
def step (w : Program U K) (s : Threads T U K) : Event T U → Threads T U K
  | .call t c =>
    if s.threads t = none ∧ c.id w ≠ genericCategoryId ∧ c.id w ≠ systemCategoryId then
      s.goto t .check c
    else s
  | .tick t =>
    match s.threads t with
    | none => s
    | some (point, c) => s.advance t c point

section Steps

variable (w : Program U K) {s : Threads T U K} {t : T} {c : ErrorCategory U}

omit [DecidableEq U] in
theorem Inv.goto {w : Program U K} (hs : s.Inv w) {point point' : Point}
    (ht : s.threads t = some (point, c)) (hidle : ∀ d, ¬ Builds d (s.threads t))
    (hx : (s.goto t point' c).Holds t (some (point', c))) : (s.goto t point' c).Inv w := by
  refine hs.quiet rfl hx hidle (fun _ _ => Iff.rfl) ⟨rfl, rfl, rfl⟩ ?_ fun r hr => Or.inl hr
  rintro x d ⟨⟩
  exact hs.own t point c ht

theorem advance_inv (hs : s.Inv w) (point : Point) (ht : s.threads t = some (point, c)) :
    (s.advance t c point).Inv w := by
  have hholds := hs.holds t
  rw [ht] at hholds
  have hown (x point' : Point) (d : ErrorCategory U) (hx : some (x, c) = some (point', d)) :
      d.id w ≠ genericCategoryId ∧ d.id w ≠ systemCategoryId := by
    obtain ⟨-, rfl⟩ := Prod.mk.inj (Option.some.inj hx)
    exact hs.own t point c ht
  have hidle (hconstructing : point ≠ .constructing) (hstore : point ≠ .store)
      (d : ErrorCategory U) : ¬ Builds d (s.threads t) := by
    rw [ht]
    rintro (h | h)
    · exact hconstructing (congrArg Prod.fst (Option.some.inj h))
    · exact hstore (congrArg Prod.fst (Option.some.inj h))
  cases point with
  | check =>
    unfold advance
    split_ifs with hzero
    · exact hs.goto ht (hidle nofun nofun) hholds
    · have hset : s.scInit c ≠ 0 := fun heq => hzero (beq_iff_eq.mpr heq)
      exact hs.goto ht (hidle nofun nofun) ⟨hholds, hset⟩
  | lock =>
    unfold advance
    cases hmutex : s.mutex with
    | some t' => exact hs
    | none =>
      refine hs.quiet rfl ?_ (hidle nofun nofun) ?_ ⟨rfl, rfl, rfl⟩ (hown .recheck)
        fun r hr => Or.inl hr
      · exact rfl
      intro t' hne
      rw [hmutex]
      exact ⟨fun h => absurd (Option.some.inj h).symm hne, nofun⟩
  | recheck =>
    unfold advance
    split_ifs with hzero
    · exact hs.goto ht (hidle nofun nofun) ⟨hholds, eq_of_beq hzero⟩
    · have hset : s.scInit c ≠ 0 := fun heq => hzero (beq_iff_eq.mpr heq)
      exact hs.goto ht (hidle nofun nofun) ⟨hholds, hset⟩
  | construct =>
    obtain ⟨hheld, hunset⟩ := hholds
    have hfresh := hs.fresh_of_unset hunset hheld (hidle nofun nofun c)
    refine hs.guarded ht hheld rfl ?_ rfl hunset ?_ (Or.inr (Or.inl rfl)) rfl
    · refine ⟨hheld, hunset, Function.update_self .., ?_⟩
      change Function.update s.constructions c (s.constructions c + 1) c = 1
      rw [Function.update_self, hfresh.2.2]
    · intro d hne
      exact ⟨rfl, Function.update_of_ne hne .., Function.update_of_ne hne ..⟩
  | constructing =>
    obtain ⟨hheld, hunset, -, honce⟩ := hholds
    refine hs.guarded ht hheld rfl ?_ rfl hunset ?_ (Or.inr (Or.inr rfl)) rfl
    · exact ⟨hheld, hunset, Function.update_self .., honce⟩
    · intro d hne
      exact ⟨rfl, Function.update_of_ne hne .., rfl⟩
  | store =>
    obtain ⟨hheld, hunset, hwhole, honce⟩ := hholds
    have hset : Function.update s.scInit c 1 c ≠ 0 := by
      rw [Function.update_self]
      decide
    refine hs.guarded ht hheld rfl ?_ rfl hunset ?_ (Or.inl ⟨hset, hwhole, honce⟩) rfl
    · exact ⟨hheld, hset⟩
    · intro d hne
      exact ⟨Function.update_of_ne hne .., rfl, rfl⟩
  | unlock =>
    obtain ⟨hheld, hset⟩ := hholds
    refine hs.quiet rfl ⟨nofun, hset⟩ (hidle nofun nofun) ?_ ⟨rfl, rfl, rfl⟩ (hown .access)
      fun r hr => Or.inl hr
    intro t' hne
    rw [hheld]
    exact ⟨nofun, fun h => absurd (Option.some.inj h).symm hne⟩
  | access =>
    obtain ⟨hfree, hset⟩ := hholds
    have hdone := hs.done_of_set hset
    refine hs.quiet rfl hfree (hidle nofun nofun) (fun _ _ => Iff.rfl) ⟨rfl, rfl, rfl⟩ nofun ?_
    intro r hr
    rcases List.mem_append.mp hr with hold | hnew
    · exact Or.inl hold
    · right
      rw [List.mem_singleton.mp hnew]
      exact ⟨rfl, hdone.2.1, hdone⟩

theorem step_call (s : Threads T U K) (t : T) (c : ErrorCategory U) : s.step w (.call t c) =
    if s.threads t = none ∧ c.id w ≠ genericCategoryId ∧ c.id w ≠ systemCategoryId then
      s.goto t .check c
    else s := rfl

theorem step_tick_of_none (ht : s.threads t = none) : s.step w (.tick t) = s := by
  simp only [step, ht]

theorem step_tick_of_some {point : Point} (ht : s.threads t = some (point, c)) :
    s.step w (.tick t) = s.advance t c point := by
  simp only [step, ht]

theorem step_inv (hs : s.Inv w) (e : Event T U) : (s.step w e).Inv w := by
  cases e with
  | call t c =>
    rw [step_call]
    split_ifs with hcall
    · obtain ⟨hidle, hown⟩ := hcall
      have hholds := hs.holds t
      rw [hidle] at hholds
      refine hs.quiet rfl hholds ?_ (fun _ _ => Iff.rfl) ⟨rfl, rfl, rfl⟩ ?_ fun r hr => Or.inl hr
      · rw [hidle]
        rintro d (h | h)
        · exact nomatch h
        · exact nomatch h
      · rintro point d ⟨⟩
        exact hown
    · exact hs
  | tick t =>
    cases ht : s.threads t with
    | none =>
      rw [step_tick_of_none w ht]
      exact hs
    | some x =>
      rw [step_tick_of_some w ht]
      exact advance_inv w hs x.1 ht

theorem run_inv (events : List (Event T U)) :
    (Runs.run (step w) (initial : Threads T U K) events).Inv w := by
  have hstep (s : Threads T U K) (e : Event T U) (hs : s.Inv w) : (s.step w e).Inv w :=
    step_inv w hs e
  exact Runs.run_invariant hstep initial (initial_inv w) events

/-! ### One conversion after the other -/

/-- What a conversion that starts now finds constructed. -/
def view (s : Threads T U K) : Statics U where
  scInit := s.scInit
  stdcat c := if s.scInit c = 0 then none else some c
  genericInstance := none
  systemInstance := none

theorem view_advance_of_ne (s : Threads T U K) (t : T) (c : ErrorCategory U) {point : Point}
    (hpoint : point ≠ .store) : (s.advance t c point).view = s.view := by
  cases point with
  | check | recheck =>
    simp only [advance]
    split_ifs <;> rfl
  | lock =>
    simp only [advance]
    cases s.mutex <;> rfl
  | construct | constructing | unlock | access => rfl
  | store => exact absurd rfl hpoint

theorem view_advance_store (hs : s.Inv w) (ht : s.threads t = some (.store, c)) :
    (s.advance t c .store).view = (c.convert w s.view).2 := by
  have hholds := hs.holds t
  rw [ht] at hholds
  obtain ⟨-, hunset, -, -⟩ := hholds
  obtain ⟨hgeneric, hsystem⟩ := hs.own t .store c ht
  have hzero : s.view.scInit c = 0 := hunset
  have hconvert : (c.convert w s.view).2 = c.initStdcat s.view := by
    simp [ErrorCategory.convert, hgeneric, hsystem, hzero]
  have hstdcat : (s.advance t c .store).view.stdcat =
      Function.update s.view.stdcat c (some c) := by
    funext d
    by_cases hd : d = c
    · simp [view, advance, goto, hd]
    · simp [view, advance, goto, Function.update_of_ne hd]
  rw [hconvert, ErrorCategory.initStdcat, if_pos (beq_iff_eq.mpr hzero), ← hstdcat]
  rfl

theorem view_step (hs : s.Inv w) (e : Event T U) :
    (s.step w e).view = s.view ∨ ∃ c : ErrorCategory U, (s.step w e).view = (c.convert w s.view).2 := by
  cases e with
  | call t c =>
    left
    rw [step_call]
    split_ifs <;> rfl
  | tick t =>
    cases ht : s.threads t with
    | none =>
      left
      rw [step_tick_of_none w ht]
    | some x =>
      obtain ⟨point, c⟩ := x
      rw [step_tick_of_some w ht]
      by_cases hstore : point = .store
      · rw [hstore] at ht ⊢
        exact Or.inr ⟨c, view_advance_store w hs ht⟩
      · exact Or.inl (view_advance_of_ne s t c hstore)

/-- Every interleaving leaves what some sequence of conversions, one after the other, leaves. -/
theorem run_linearizes (hs : s.Inv w) (events : List (Event T U)) :
    ∃ conversions, (Runs.run (step w) s events).view = s.view.after w conversions := by
  induction events generalizing s with
  | nil => exact ⟨[], rfl⟩
  | cons e events ih =>
    obtain ⟨conversions, hrest⟩ := ih (step_inv w hs e)
    rcases view_step w hs e with hsame | ⟨c, hconvert⟩
    · rw [hsame] at hrest
      exact ⟨conversions, hrest⟩
    · rw [hconvert] at hrest
      exact ⟨c :: conversions, hrest⟩

/-- A flag that has been set stays set, since a conversion never resets one. -/
theorem scInit_run (hs : s.Inv w) (events : List (Event T U)) (hset : s.scInit c ≠ 0) :
    (Runs.run (step w) s events).scInit c ≠ 0 := by
  obtain ⟨conversions, hview⟩ := run_linearizes w hs events
  have hlive : (s.view.after w conversions).Live w (.stdcat c) :=
    after_live w s.view (.stdcat c) hset conversions
  rw [← hview] at hlive
  exact hlive

/-- Any number of threads and categories, any interleaving: at most one construction of each view, no
reference to it before it is whole, the same whole storage at every return and ever after, and a flag
that never falls. -/
theorem stdcat_constructed_once (events : List (Event T U)) :
    (∀ c, (Runs.run (step w) (initial : Threads T U K) events).constructions c ≤ 1) ∧
    (∀ r ∈ (Runs.run (step w) (initial : Threads T U K) events).returns,
      r.reference = .stdcat r.category ∧ r.found = .whole r.category ∧
      ∀ later, (Runs.run (step w) (initial : Threads T U K) (events ++ later)).stdcat r.category =
        .whole r.category) ∧
    ∀ c later, (Runs.run (step w) (initial : Threads T U K) events).scInit c ≠ 0 →
      (Runs.run (step w) (initial : Threads T U K) (events ++ later)).scInit c ≠ 0 := by
  have hs := run_inv w (T := T) events
  have hkeeps (c : ErrorCategory U) (later : List (Event T U))
      (hset : (Runs.run (step w) (initial : Threads T U K) events).scInit c ≠ 0) :
      (Runs.run (step w) (initial : Threads T U K) (events ++ later)).scInit c ≠ 0 := by
    rw [Runs.run_append]
    exact scInit_run w hs later hset
  refine ⟨?_, ?_, hkeeps⟩
  · intro c
    rcases hs.settled c with hfresh | hdone | ⟨t, hbuilds⟩
    · exact hfresh.2.2.trans_le (Nat.zero_le 1)
    · exact hdone.2.2.le
    · have hholds := hs.holds t
      rcases hbuilds with hpoint | hpoint
      · rw [hpoint] at hholds
        exact hholds.2.2.2.le
      · rw [hpoint] at hholds
        exact hholds.2.2.2.le
  · intro r hr
    obtain ⟨hreference, hfound, hdone⟩ := hs.returns r hr
    refine ⟨hreference, hfound, ?_⟩
    intro later
    exact ((run_inv w (events ++ later)).done_of_set (hkeeps r.category later hdone.1)).2.1

/-- Two threads convert one category, one step each in turn: the second waits, and both return. -/
example : ((Runs.run (step (plainPair 0)) (initial : Threads Bool Bool Empty)
    (.call true (.user true) :: .call false (.user true) ::
      (List.replicate 10 [.tick true, .tick false]).flatten)).returns.map Return.thread) =
    [true, false] := by
  decide

end Steps

end Threads

end BoostSystem
