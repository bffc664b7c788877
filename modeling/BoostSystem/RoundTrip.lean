import BoostSystem.CodeOrder
import BoostSystem.Equivalence
import BoostSystem.StdStorage

/-!
# Round trips between the two kinds of codes

Conversions of codes read and construct standard views, so they act on the storage. Whatever was
converted before and in between, a standard code comes back as itself, and a code of a category of
its own comes back with the same category object.
-/

namespace BoostSystem

variable {U K : Type} (w : Program U K)

namespace ErrorCode

/-- `operator std::error_code`, with what it constructs. -/
def toStdIn [DecidableEq U] (ec : ErrorCode U K) (st : Statics U) : StdErrorCode U K × Statics U :=
  if ec.lcFlags == 1 then (ec.data.d2Code, st)
  else if ec.lcFlags == 0 then
    if w.config.avoidStdSystemCategory then
      let (cat, st') := ErrorCategory.system.convert w st
      (⟨0, cat⟩, st')
    else (.empty, st)
  else
    let (cat, st') := ec.data.d1Cat.convert w st
    (⟨ec.data.d1Val, cat⟩, st')

/-- `error_code( std::error_code const& )`, which looks at the object behind the category. -/
def ofStdIn (s : StdErrorCode U K) (st : Statics U) : ErrorCode U K :=
  match st.dynamicCast w s.category with
  | some original => ofCategory w s.value original
  | none => wrap s

theorem toStdIn_fst [DecidableEq U] (ec : ErrorCode U K) (st : Statics U) :
    (ec.toStdIn w st).1 = ec.toStd w := by
  unfold toStdIn toStd
  split_ifs
  · rfl
  · simp only [convert_fst]
  · rfl
  · simp only [convert_fst]

theorem ofStdIn_remember [DecidableEq U] (s : StdErrorCode U K) (st : Statics U)
    (hs : st.Live w s.category) (later : List (ErrorCategory U))
    (hvalid : (st.after w later).Valid w) :
    ofStdIn w s st = ofStd (w.remember (st.after w later) hvalid) s := by
  have hlive := after_live w st s.category hs later
  rw [ofStdIn, ofStd, ← dynamicCast_remember w _ hvalid s.category hlive,
    after_dynamicCast w st s.category hs]
  rfl

theorem toStd_ofStdIn (hrtti : w.config.noRtti = false) (s : StdErrorCode U K) (st : Statics U)
    (hst : st.Valid w) (hs : st.Live w s.category) : (ofStdIn w s st).toStd w = s := by
  obtain ⟨value, category⟩ := s
  unfold ofStdIn Statics.dynamicCast
  rw [hrtti]
  cases category with
  | generic => rfl
  | system => rfl
  | genericInstance =>
    obtain ⟨c, hc⟩ := Option.isSome_iff_exists.mp hs
    obtain ⟨hid, havoid⟩ := hst.generic c hc
    have hview := ErrorCategory.toStd_of_generic_id w c hid
    rw [havoid] at hview
    simp [Statics.object, hc, toStd_ofCategory, hview]
  | systemInstance =>
    obtain ⟨c, hc⟩ := Option.isSome_iff_exists.mp hs
    obtain ⟨hid, havoid⟩ := hst.system c hc
    have hview := ErrorCategory.toStd_of_system_id w c hid
    rw [havoid] at hview
    simp [Statics.object, hc, toStd_ofCategory, hview]
  | stdcat c =>
    have hinit : st.scInit c ≠ 0 := hs
    obtain ⟨hg, hsys⟩ := hst.own c hinit
    have hview := ErrorCategory.toStd_of_id_ne w c hg hsys
    simp [Statics.object, hst.stdcat, hinit, toStd_ofCategory, hview]
  | foreign k =>
    obtain ⟨cls, hcls⟩ := hs
    simp [Statics.object, hcls]

structure SameCode (a b : ErrorCode U K) : Prop where
  unwrapped : b.lcFlags ≠ 1
  category : b.category = a.category
  value : b.value w = a.value w
  failed : b.failed = a.failed
  eq : b.eq w a = true
  hashValue : b.hashValue w = a.hashValue w
  hasLocation : b.hasLocation = false

theorem explicit_sameCode (val : Int32) (cat : ErrorCategory U) (loc : Option Location) :
    (ofCategoryAt w val cat loc).SameCode w (ofCategoryAt w val cat none) := by
  have heq : (ofCategoryAt w val cat none).eq w (ofCategoryAt w val cat loc) = true := by
    rw [(keyed w).eq_iff]
    simp [comparand]
  constructor
  · exact beq_eq_false_iff_ne.mp (lcFlags_ofCategoryAt_one w val cat none)
  · simp
  · simp
  · simp
  · exact heq
  · exact hashValue_eq_of_eq w _ _ heq
  · simp

theorem eq_ofCategoryAt_of_own (x : Content U K) (hun : (encode w x).lcFlags ≠ 1)
    (hs : (encode w x).category.eq w .system = false) :
    ∃ val cat loc, encode w x = ofCategoryAt w val cat loc := by
  cases x with
  | empty =>
    rw [encode, category_empty, ErrorCategory.eq_self] at hs
    cases hs
  | explicit val cat loc => exact ⟨val, cat, loc, rfl⟩
  | wrapped s => exact absurd rfl hun

theorem ofStdIn_toStd [DecidableEq U] (hrtti : w.config.noRtti = false) (a : ErrorCode U K)
    (ha : Reachable w a) (hun : a.lcFlags ≠ 1) (hg : a.category.eq w .generic = false)
    (hs : a.category.eq w .system = false) (st : Statics U) (hst : st.Valid w)
    (later : List (ErrorCategory U)) :
    a.SameCode w (ofStdIn w (a.toStdIn w st).1 ((a.toStdIn w st).2.after w later)) := by
  obtain ⟨x, rfl⟩ := (reachable_iff w a).mp ha
  obtain ⟨val, cat, loc, hx⟩ := eq_ofCategoryAt_of_own w x hun hs
  rw [hx] at hg hs ⊢
  rw [category_ofCategoryAt, ErrorCategory.eq_generic, beq_eq_false_iff_ne] at hg
  rw [category_ofCategoryAt, ErrorCategory.eq_system, beq_eq_false_iff_ne] at hs
  have hview := ErrorCategory.toStd_of_id_ne w cat hg hs
  have hin : (ofCategoryAt w val cat loc).toStdIn w st =
      (⟨val, .stdcat cat⟩, (cat.convert w st).2) := by
    apply Prod.ext
    · rw [toStdIn_fst, toStd_ofCategoryAt, hview]
    · simp only [toStdIn, lcFlags_ofCategoryAt_zero, lcFlags_ofCategoryAt_one]
      rfl
  have hvalid := after_valid w _ (convert_valid w cat st hst) later
  have hlive := live_convert w cat st
  rw [hview] at hlive
  -- the view constructed on the way out is still there on the way back
  have hinit : ((cat.convert w st).2.after w later).scInit cat ≠ 0 := after_live w _ _ hlive later
  have hback : ofStdIn w ⟨val, .stdcat cat⟩ ((cat.convert w st).2.after w later) =
      ofCategoryAt w val cat none := by
    simp [ofStdIn, Statics.dynamicCast, Statics.object, hrtti, hvalid.stdcat, hinit, ofCategory_eq]
  rw [hin, hback]
  exact explicit_sameCode w val cat loc

end ErrorCode

/-- With RTTI, whatever was converted before: a standard code survives the trip through an
`error_code`, and an unwrapped code of a category other than the generic and system ones comes back
from its conversion as the same code. -/
theorem round_trips [DecidableEq U] (hrtti : w.config.noRtti = false)
    (earlier later : List (ErrorCategory U)) :
    (∀ s : StdErrorCode U K, (Statics.initial.after w earlier).Live w s.category →
      ((ErrorCode.ofStdIn w s (Statics.initial.after w earlier)).toStdIn w
        ((Statics.initial.after w earlier).after w later)).1 = s) ∧
    ∀ a : ErrorCode U K, Reachable w a → a.lcFlags ≠ 1 → a.category.eq w .generic = false →
      a.category.eq w .system = false →
        a.SameCode w (ErrorCode.ofStdIn w (a.toStdIn w (Statics.initial.after w earlier)).1
          ((a.toStdIn w (Statics.initial.after w earlier)).2.after w later)) := by
  have hvalid := after_valid w .initial (Statics.initial_valid w) earlier
  constructor
  · intro s hs
    rw [ErrorCode.toStdIn_fst]
    exact ErrorCode.toStd_ofStdIn w hrtti s _ hvalid hs
  · intro a ha hun hg hs
    exact ErrorCode.ofStdIn_toStd w hrtti a ha hun hg hs _ hvalid later

theorem round_trips_user :
    (ErrorCode.ofStdIn (plainPair 0)
      ((ErrorCode.ofCategory (plainPair 0) 5 (.user true)).toStdIn (plainPair 0) .initial).1
      (((ErrorCode.ofCategory (plainPair 0) 5 (.user true)).toStdIn (plainPair 0)
        .initial).2.after (plainPair 0) [.user false])).category = .user true :=
  ((round_trips (plainPair 0) rfl [] [.user false]).2 _
    ⟨[.ofCategory 0 5 (.user true)], 0, rfl⟩ (by decide) (by decide) (by decide)).category

/-- The program without a storage that has the static views of the end of a run makes all along the run
the conversions that are made with the storage. -/
theorem storage_remembered [DecidableEq U] (before after : List (ErrorCategory U)) :
    ∃ hvalid : (Statics.initial.after w (before ++ after)).Valid w,
      (∀ s : StdErrorCode U K, (Statics.initial.after w before).Live w s.category →
        ErrorCode.ofStdIn w s (Statics.initial.after w before) =
          ErrorCode.ofStd (w.remember (Statics.initial.after w (before ++ after)) hvalid) s) ∧
      ∀ ec : ErrorCode U K, (ec.toStdIn w (Statics.initial.after w before)).1 =
        ec.toStd (w.remember (Statics.initial.after w (before ++ after)) hvalid) := by
  have hafter : Statics.initial.after w (before ++ after) =
      (Statics.initial.after w before).after w after := Runs.run_append _ _ before after
  rw [hafter]
  refine ⟨after_valid w _ (after_valid w _ (Statics.initial_valid w) before) after, ?_, ?_⟩
  · intro s hs
    exact ErrorCode.ofStdIn_remember w s _ hs after _
  · intro ec
    exact ErrorCode.toStdIn_fst w ec _

theorem storage_remembered_user :
    ∃ hvalid : (Statics.initial.after (plainPair 0) [.user true, .user false]).Valid (plainPair 0),
      ErrorCode.ofStdIn (plainPair 0) ⟨5, .stdcat (.user true)⟩
          (Statics.initial.after (plainPair 0) [.user true]) =
        ErrorCode.ofStd ((plainPair 0).remember _ hvalid) ⟨5, .stdcat (.user true)⟩ := by
  have hlive : (Statics.initial.after (plainPair 0) [.user true]).scInit (.user true) ≠ 0 := by decide
  obtain ⟨hvalid, hconstruct, -⟩ := storage_remembered (plainPair 0) [.user true] [.user false]
  exact ⟨hvalid, hconstruct ⟨5, .stdcat (.user true)⟩ hlive⟩

end BoostSystem
