import BoostSystem.CString
import Mathlib.Data.List.GetD

/-!
# Bounded, truncating copies

The contract of a copy into a buffer of a given size: nothing at or behind the size is written, and
a buffer that is not empty holds as much of the text as fits, with a terminating NUL.
-/

namespace CString

/-- The text is in the first `size` characters of the buffer, cut off where it does not fit. -/
structure BoundedCopy (before after : Buffer) (size : ℕ) (text : List Char) : Prop where
  outside : ∀ i, size ≤ i → after i = before i
  copied : ∀ i < min text.length (size - 1), text[i]? = some (after i)
  terminated : 0 < size → after (min text.length (size - 1)) = nul

section Copies

variable (buffer : Buffer) (text : List Char)

theorem getD_of_lt {i : ℕ} (hi : i < text.length) : text[i]? = some (text.getD i nul) := by
  rw [List.getD_eq_getElem _ _ hi, List.getElem?_eq_getElem hi]

theorem getD_of_le {i : ℕ} (hi : text.length ≤ i) : text.getD i nul = nul :=
  List.getD_eq_default _ _ hi

theorem snprintf_boundedCopy (len : ℕ) :
    BoundedCopy buffer (snprintf buffer len text) len text where
  outside i hi := if_neg (by omega)
  copied i hi := by
    rw [snprintf, if_pos (by omega), if_pos hi]
    exact getD_of_lt text (by omega)
  terminated hlen := by
    rw [snprintf, if_pos (by omega), if_neg (by omega), if_pos rfl]

theorem store_zero_boundedCopy : BoundedCopy buffer (store buffer 0 nul) 1 text where
  outside i hi := Function.update_of_ne (by omega) _ _
  copied i hi := absurd hi (by omega)
  terminated _ := by
    rw [Nat.sub_self, Nat.min_zero]
    exact Function.update_self ..

/-- `strncpy` with the terminator that it may leave out. -/
theorem strncpy_store_boundedCopy {len : ℕ} (hlen : 0 < len) :
    BoundedCopy buffer (store (strncpy buffer text (len - 1)) (len - 1) nul) len text where
  outside i hi := by
    rw [store, Function.update_of_ne (by omega), strncpy, if_neg (by omega)]
  copied i hi := by
    rw [store, Function.update_of_ne (by omega), strncpy, if_pos (by omega)]
    exact getD_of_lt text (by omega)
  terminated _ := by
    by_cases hfits : text.length < len - 1
    · rw [store, Nat.min_eq_left hfits.le, Function.update_of_ne hfits.ne, strncpy, if_pos hfits]
      exact getD_of_le text le_rfl
    · rw [store, Nat.min_eq_right (Nat.le_of_not_lt hfits), Function.update_self]

theorem strcpy_boundedCopy {size : ℕ} (hfits : text.length < size) :
    BoundedCopy buffer (fun i => if i ≤ text.length then text.getD i nul else buffer i) size
      text where
  outside i hi := if_neg (by omega)
  copied i hi := by
    rw [if_pos (by omega)]
    exact getD_of_lt text (by omega)
  terminated _ := by
    rw [Nat.min_eq_left (by omega), if_pos le_rfl]
    exact getD_of_le text le_rfl

end Copies

/-! ### Reading a copy back -/

theorem cStr_of_nul_notMem {text : String} (h : nul ∉ text.toList) : cStr text = text.toList := by
  rw [cStr, List.takeWhile_eq_self_iff]
  intro c hc
  rw [decide_eq_true_iff]
  rintro rfl
  exact h hc

theorem BoundedCopy.readArray {before after : Buffer} {size : ℕ} {text : String}
    (h : BoundedCopy before after size text.toList) (hfits : text.toList.length < size)
    (hnul : nul ∉ text.toList) : readArray size after = text := by
  have hmin : min text.toList.length (size - 1) = text.toList.length := by omega
  have hcopied := h.copied
  have hterminated := h.terminated (by omega)
  rw [hmin] at hcopied hterminated
  have hcharacters : (List.range text.toList.length).map after = text.toList := by
    apply List.ext_getElem
    · rw [List.length_map, List.length_range]
    · intro i hi hlt
      have hcell := hcopied i hlt
      rw [List.getElem?_eq_getElem hlt] at hcell
      rw [List.getElem_map, List.getElem_range]
      exact (Option.some.inj hcell).symm
  obtain ⟨rest, hrest⟩ := Nat.exists_eq_add_of_lt hfits
  have hbefore : ∀ c ∈ text.toList, decide (c ≠ nul) = true := by
    intro c hc
    rw [decide_eq_true_iff]
    rintro rfl
    exact hnul hc
  rw [CString.readArray, hrest, Nat.add_assoc, List.range_add, List.map_append, hcharacters,
    List.takeWhile_append_of_pos hbefore, List.range_succ_eq_map, List.map_cons, List.map_cons,
    Nat.add_zero, hterminated, List.takeWhile_cons_of_neg (by decide), List.append_nil,
    String.ofList_toList]

end CString
