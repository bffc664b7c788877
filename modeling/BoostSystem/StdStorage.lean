import BoostSystem.Runs
import BoostSystem.StdCategories

/-!
# Storage of the standard views

A `std_category` is constructed the first time its category is converted: in the `stdcat_` bytes of
the category itself, or, for the generic and system identifiers in the `AVOID` configurations, as a
function-local static that remembers whichever object came first. The state is what a history of
conversions has constructed so far, and round trips are followed through it.
-/

namespace BoostSystem

variable {U K : Type}

/-- `sc_init_` and the `pc_` found in `stdcat_`, of each category, and the `pc_` of the two
function-local statics. -/
structure Statics (U : Type) where
  scInit : ErrorCategory U → UInt32
  stdcat : ErrorCategory U → Option (ErrorCategory U)
  genericInstance : Option (ErrorCategory U)
  systemInstance : Option (ErrorCategory U)

namespace Statics

def initial : Statics U where
  scInit _ := 0
  stdcat _ := none
  genericInstance := none
  systemInstance := none

variable (w : Program U K)

/-- The object found at a reference, if it has been constructed. -/
def object (st : Statics U) : StdErrorCategory U K → Option (StdObject U K)
  | .generic => some (.derived (stdGenericCategory w))
  | .system => some (.derived (stdSystemCategory w))
  | .genericInstance => st.genericInstance.map .stdCategory
  | .systemInstance => st.systemInstance.map .stdCategory
  | .stdcat c => (st.stdcat c).map .stdCategory
  | .foreign k => some (w.foreign k)

def dynamicCast (st : Statics U) (cat : StdErrorCategory U K) : Option (ErrorCategory U) :=
  if w.config.noRtti then none
  else match st.object w cat with
    | some (.stdCategory pc) => some pc
    | _ => none

/-- A reference that a program can hold: `std_category` objects come from conversions only. -/
def Live (st : Statics U) : StdErrorCategory U K → Prop
  | .generic | .system => True
  | .genericInstance => st.genericInstance.isSome
  | .systemInstance => st.systemInstance.isSome
  | .stdcat c => st.scInit c ≠ 0
  | .foreign k => ∃ cls, w.foreign k = .derived cls

structure Valid (st : Statics U) : Prop where
  stdcat : ∀ c, st.stdcat c = if st.scInit c = 0 then none else some c
  own : ∀ c, st.scInit c ≠ 0 → c.id w ≠ genericCategoryId ∧ c.id w ≠ systemCategoryId
  generic : ∀ c, st.genericInstance = some c →
    c.id w = genericCategoryId ∧ w.config.avoidStdGenericCategory = true
  system : ∀ c, st.systemInstance = some c →
    c.id w = systemCategoryId ∧ w.config.avoidStdSystemCategory = true

theorem initial_valid : (initial : Statics U).Valid w where
  stdcat _ := rfl
  own _ h := absurd rfl h
  generic _ h := nomatch h
  system _ h := nomatch h

end Statics

section Convert

variable [DecidableEq U]

def ErrorCategory.initStdcat (c : ErrorCategory U) (st : Statics U) : Statics U :=
  if st.scInit c == 0 then
    { st with
      stdcat := Function.update st.stdcat c (some c)
      scInit := Function.update st.scInit c 1 }
  else st

variable (w : Program U K)

/-- `operator std::error_category const &`, with what it constructs. -/
def ErrorCategory.convert (c : ErrorCategory U) (st : Statics U) :
    StdErrorCategory U K × Statics U :=
  if c.id w == genericCategoryId then
    if w.config.avoidStdGenericCategory then
      (.genericInstance, { st with genericInstance := st.genericInstance.or (some c) })
    else (.generic, st)
  else if c.id w == systemCategoryId then
    if w.config.avoidStdSystemCategory then
      (.systemInstance, { st with systemInstance := st.systemInstance.or (some c) })
    else (.system, st)
  else (.stdcat c, if st.scInit c == 0 then c.initStdcat st else st)

theorem convert_fst (c : ErrorCategory U) (st : Statics U) : (c.convert w st).1 = c.toStd w := by
  unfold ErrorCategory.convert ErrorCategory.toStd
  split_ifs <;> rfl

def Statics.after (st : Statics U) (conversions : List (ErrorCategory U)) : Statics U :=
  Runs.run (fun st c => (c.convert w st).2) st conversions

theorem convert_cases (c : ErrorCategory U) (st : Statics U) :
    (c.convert w st).2 = st ∨
    (c.id w = genericCategoryId ∧ w.config.avoidStdGenericCategory = true ∧
      st.genericInstance = none ∧ (c.convert w st).2 = { st with genericInstance := some c }) ∨
    (c.id w = systemCategoryId ∧ w.config.avoidStdSystemCategory = true ∧
      st.systemInstance = none ∧ (c.convert w st).2 = { st with systemInstance := some c }) ∨
    (c.id w ≠ genericCategoryId ∧ c.id w ≠ systemCategoryId ∧ st.scInit c = 0 ∧
      (c.convert w st).2 =
        { st with
          stdcat := Function.update st.stdcat c (some c)
          scInit := Function.update st.scInit c 1 }) := by
  unfold ErrorCategory.convert ErrorCategory.initStdcat
  by_cases hg : c.id w = genericCategoryId
  · cases havoid : w.config.avoidStdGenericCategory with
    | false => simp [hg]
    | true =>
      cases hinst : st.genericInstance with
      | none => simp [hg]
      | some d =>
        left
        simp only [hg, beq_self_eq_true, if_true, Option.some_or]
        rw [← hinst]
  · by_cases hs : c.id w = systemCategoryId
    · cases havoid : w.config.avoidStdSystemCategory with
      | false => simp [hs]
      | true =>
        cases hinst : st.systemInstance with
        | none => simp [hs]
        | some d =>
          left
          simp only [hs, beq_self_eq_true, if_true, Option.some_or, beq_iff_eq,
            systemCategoryId_ne_generic, if_false]
          rw [← hinst]
    · by_cases hinit : st.scInit c = 0 <;> simp [hg, hs, hinit]

theorem convert_valid (c : ErrorCategory U) (st : Statics U) (hst : st.Valid w) :
    (c.convert w st).2.Valid w := by
  rcases convert_cases w c st with
    hsame | ⟨hid, havoid, -, hnext⟩ | ⟨hid, havoid, -, hnext⟩ | ⟨hg, hs, -, hnext⟩
  · rwa [hsame]
  · rw [hnext]
    refine ⟨hst.stdcat, hst.own, ?_, hst.system⟩
    rintro d ⟨⟩
    exact ⟨hid, havoid⟩
  · rw [hnext]
    refine ⟨hst.stdcat, hst.own, hst.generic, ?_⟩
    rintro d ⟨⟩
    exact ⟨hid, havoid⟩
  · rw [hnext]
    refine ⟨?_, ?_, hst.generic, hst.system⟩
    · intro d
      by_cases hd : d = c
      · simp [hd]
      · simpa [Function.update_of_ne hd] using hst.stdcat d
    · intro d hinit
      by_cases hd : d = c
      · rw [hd]
        exact ⟨hg, hs⟩
      · exact hst.own d (by simpa [Function.update_of_ne hd] using hinit)

theorem after_valid (st : Statics U) (hst : st.Valid w) (conversions : List (ErrorCategory U)) :
    (st.after w conversions).Valid w :=
  Runs.run_invariant (fun st c hst => convert_valid w c st hst) st hst conversions

theorem convert_live (c : ErrorCategory U) (st : Statics U) (cat : StdErrorCategory U K)
    (hcat : st.Live w cat) : (c.convert w st).2.Live w cat := by
  rcases convert_cases w c st with hsame | ⟨-, -, -, hnext⟩ | ⟨-, -, -, hnext⟩ | ⟨-, -, -, hnext⟩
  · rwa [hsame]
  · rw [hnext]
    cases cat with
    | genericInstance => rfl
    | generic | system | systemInstance | stdcat d | foreign k => exact hcat
  · rw [hnext]
    cases cat with
    | systemInstance => rfl
    | generic | system | genericInstance | stdcat d | foreign k => exact hcat
  · rw [hnext]
    cases cat with
    | stdcat d =>
      by_cases hd : d = c
      · simp [Statics.Live, hd]
      · simpa [Statics.Live, Function.update_of_ne hd] using hcat
    | generic | system | genericInstance | systemInstance | foreign k => exact hcat

theorem live_convert (c : ErrorCategory U) (st : Statics U) :
    (c.convert w st).2.Live w (c.toStd w) := by
  unfold ErrorCategory.convert ErrorCategory.initStdcat ErrorCategory.toStd
  split_ifs with hg havoid hs havoid hinit
  · simp [Statics.Live]
  · trivial
  · simp [Statics.Live]
  · trivial
  · simp [Statics.Live]
  · simpa [Statics.Live] using hinit

theorem after_live (st : Statics U) (cat : StdErrorCategory U K) (hcat : st.Live w cat)
    (conversions : List (ErrorCategory U)) : (st.after w conversions).Live w cat :=
  Runs.run_invariant (fun st c hst => convert_live w c st cat hst) st hcat conversions

theorem convert_object (c : ErrorCategory U) (st : Statics U) (cat : StdErrorCategory U K)
    (hcat : st.Live w cat) : (c.convert w st).2.object w cat = st.object w cat := by
  rcases convert_cases w c st with
    hsame | ⟨-, -, hnone, hnext⟩ | ⟨-, -, hnone, hnext⟩ | ⟨-, -, hinit, hnext⟩
  · rw [hsame]
  · rw [hnext]
    cases cat with
    | genericInstance =>
      have hsome : st.genericInstance.isSome = true := hcat
      rw [hnone] at hsome
      cases hsome
    | generic | system | systemInstance | stdcat d | foreign k => rfl
  · rw [hnext]
    cases cat with
    | systemInstance =>
      have hsome : st.systemInstance.isSome = true := hcat
      rw [hnone] at hsome
      cases hsome
    | generic | system | genericInstance | stdcat d | foreign k => rfl
  · rw [hnext]
    cases cat with
    | stdcat d =>
      have hne : d ≠ c := by
        rintro rfl
        exact hcat hinit
      simp only [Statics.object, Function.update_of_ne hne]
    | generic | system | genericInstance | systemInstance | foreign k => rfl

/-- What a live reference refers to never changes. -/
theorem after_object (st : Statics U) (cat : StdErrorCategory U K) (hcat : st.Live w cat)
    (conversions : List (ErrorCategory U)) :
    (st.after w conversions).object w cat = st.object w cat := by
  have hstep : ∀ (st' : Statics U) (c : ErrorCategory U),
      st'.Live w cat ∧ st'.object w cat = st.object w cat →
      (c.convert w st').2.Live w cat ∧ (c.convert w st').2.object w cat = st.object w cat := by
    rintro st' c ⟨hlive, hsame⟩
    exact ⟨convert_live w c st' cat hlive, (convert_object w c st' cat hlive).trans hsame⟩
  exact (Runs.run_invariant hstep st ⟨hcat, rfl⟩ conversions).2

theorem after_dynamicCast (st : Statics U) (cat : StdErrorCategory U K) (hcat : st.Live w cat)
    (conversions : List (ErrorCategory U)) :
    (st.after w conversions).dynamicCast w cat = st.dynamicCast w cat := by
  rw [Statics.dynamicCast, Statics.dynamicCast, after_object w st cat hcat]

end Convert

/-- The program once the storage is in a given state: its function-local statics remember what was
converted first. -/
def Program.remember (w : Program U K) (st : Statics U) (hst : st.Valid w) : Program U K :=
  { w with
    genericThis := st.genericInstance.getD w.genericThis
    genericThis_id := by
      cases h : st.genericInstance with
      | none => exact w.genericThis_id
      | some c => exact (hst.generic c h).1
    systemThis := st.systemInstance.getD w.systemThis
    systemThis_id := by
      cases h : st.systemInstance with
      | none => exact w.systemThis_id
      | some c => exact (hst.system c h).1 }

/-- Live references denote the objects that the program without storage says they do. -/
theorem dynamicCast_remember (w : Program U K) (st : Statics U) (hst : st.Valid w)
    (cat : StdErrorCategory U K) (hcat : st.Live w cat) :
    st.dynamicCast w cat = cat.dynamicCast (w.remember st hst) := by
  unfold Statics.dynamicCast StdErrorCategory.dynamicCast
  change (if w.config.noRtti then none else _) = if w.config.noRtti then none else _
  congr 1
  cases cat with
  | generic => rfl
  | system => rfl
  | genericInstance =>
    obtain ⟨c, hc⟩ := Option.isSome_iff_exists.mp hcat
    simp [Statics.object, StdErrorCategory.object, Program.remember, hc]
  | systemInstance =>
    obtain ⟨c, hc⟩ := Option.isSome_iff_exists.mp hcat
    simp [Statics.object, StdErrorCategory.object, Program.remember, hc]
  | stdcat c =>
    have hinit : st.scInit c ≠ 0 := hcat
    simp [Statics.object, StdErrorCategory.object, hst.stdcat, hinit]
  | foreign k =>
    obtain ⟨cls, hcls⟩ := hcat
    simp [Statics.object, StdErrorCategory.object, Program.remember, hcls]

end BoostSystem
