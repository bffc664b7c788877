import BoostSystem.BoundedCopies
import BoostSystem.DecimalText
import BoostSystem.Representation

/-!
# Texts of error codes that can be read back

`to_string` writes a name, a colon and a decimal value, and the prefix `std:` before the name of a
code that wraps a `std::error_code`. Values have no colon, so the last colon ends the name.
-/

namespace BoostSystem

open CString

variable {U K : Type}

theorem appendInt_eq (w : Program U K) (s : String) (v : Int32) :
    appendInt w s v = s ++ (":" ++ decimal v) := by
  have hlength : (":" ++ decimal v).toList.length < 32 :=
    (length_append_decimal_le ":" v).trans_lt (by decide)
  have hnul : nul ∉ (":" ++ decimal v).toList := nul_notMem_append_decimal (by simp [nul]) v
  have hcopy := snprintf_boundedCopy w.stack (":" ++ decimal v).toList 32
  rw [appendInt, hcopy.readArray hlength hnul]

namespace ErrorCode

variable (w : Program U K)

/-- The name of the category, which for a code that wraps a `std::error_code` is that of the
wrapped code. -/
def ownName (ec : ErrorCode U K) : String :=
  if ec.lcFlags == 1 then ec.data.d2Code.category.name w else ec.categoryName w

def ownValue (ec : ErrorCode U K) : Int32 :=
  if ec.lcFlags == 1 then ec.data.d2Code.value else ec.value w

/-- The text before the last colon. -/
def shownName (ec : ErrorCode U K) : String :=
  if ec.lcFlags == 1 then "std:" ++ ec.ownName w else ec.ownName w

theorem toString_eq (ec : ErrorCode U K) :
    ec.toString w = ec.shownName w ++ (":" ++ decimal (ec.ownValue w)) := by
  unfold toString shownName ownName ownValue
  split_ifs
  · rw [appendInt_eq]
  · rw [appendInt_eq]

theorem toString_inj {a b : ErrorCode U K} (h : a.toString w = b.toString w) :
    a.shownName w = b.shownName w ∧ a.ownValue w = b.ownValue w := by
  rw [toString_eq, toString_eq] at h
  have hlist : (a.shownName w).toList ++ ':' :: (decimal (a.ownValue w)).toList =
      (b.shownName w).toList ++ ':' :: (decimal (b.ownValue w)).toList := by
    have htext := congrArg String.toList h
    rw [String.toList_append, String.toList_append, String.toList_append, String.toList_append]
      at htext
    exact htext
  obtain ⟨hname, hvalue⟩ := append_separator_inj (colon_notMem_decimal _)
    (colon_notMem_decimal _) hlist
  exact ⟨String.toList_inj.mp hname, decimal_injective (String.toList_inj.mp hvalue)⟩

/-- An unwrapped name could be taken for a wrapped one. -/
def Confusable (ec : ErrorCode U K) : Prop :=
  ec.lcFlags ≠ 1 ∧ "std:".toList <+: (ec.categoryName w).toList

theorem not_wrapped_of_shownName_eq {a b : ErrorCode U K} (hb : ¬ b.Confusable w)
    (h : a.shownName w = b.shownName w) (ha : a.lcFlags = 1) : b.lcFlags = 1 := by
  by_contra hbFlags
  apply hb
  refine ⟨hbFlags, ?_⟩
  rw [shownName, shownName, if_pos (beq_iff_eq.mpr ha), if_neg (mt beq_iff_eq.mp hbFlags), ownName,
    ownName, if_neg (mt beq_iff_eq.mp hbFlags)] at h
  rw [← h, String.toList_append]
  exact List.prefix_append _ _

end ErrorCode

/-- Codes with one text wrap alike, and have one name and one value. -/
theorem code_strings_decodable (w : Program U K) :
    (∀ s v, appendInt w s v = s ++ (":" ++ decimal v)) ∧
    ∀ a b : ErrorCode U K, ¬ a.Confusable w → ¬ b.Confusable w → a.toString w = b.toString w →
      (a.lcFlags = 1 ↔ b.lcFlags = 1) ∧ a.ownName w = b.ownName w ∧
        a.ownValue w = b.ownValue w := by
  refine ⟨appendInt_eq w, ?_⟩
  intro a b ha hb htext
  obtain ⟨hname, hvalue⟩ := ErrorCode.toString_inj w htext
  have hwrap : a.lcFlags = 1 ↔ b.lcFlags = 1 :=
    ⟨ErrorCode.not_wrapped_of_shownName_eq w hb hname,
      ErrorCode.not_wrapped_of_shownName_eq w ha hname.symm⟩
  refine ⟨hwrap, ?_, hvalue⟩
  rw [ErrorCode.shownName, ErrorCode.shownName] at hname
  by_cases hflags : a.lcFlags = 1
  · rw [if_pos (beq_iff_eq.mpr hflags), if_pos (beq_iff_eq.mpr (hwrap.mp hflags))] at hname
    exact (String.append_right_inj "std:").mp hname
  · rw [if_neg (mt beq_iff_eq.mp hflags),
      if_neg (mt beq_iff_eq.mp (mt hwrap.mpr hflags))] at hname
    exact hname

theorem code_strings_decodable_zero :
    ((ErrorCode.empty : ErrorCode Bool Empty).lcFlags = 1 ↔
        (ErrorCode.ofCategory (plainPair 0) 0 .system).lcFlags = 1) ∧
      ErrorCode.empty.ownName (plainPair 0) =
        (ErrorCode.ofCategory (plainPair 0) 0 .system).ownName (plainPair 0) ∧
      ErrorCode.empty.ownValue (plainPair 0) =
        (ErrorCode.ofCategory (plainPair 0) 0 .system).ownValue (plainPair 0) :=
  (code_strings_decodable (plainPair 0)).2 .empty (.ofCategory (plainPair 0) 0 .system)
    (by rintro ⟨-, h⟩; exact absurd h (by decide)) (by rintro ⟨-, h⟩; exact absurd h (by decide))
    (by rw [ErrorCode.toString_eq, ErrorCode.toString_eq]; rfl)

end BoostSystem
