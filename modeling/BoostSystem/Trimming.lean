import BoostSystem.BoundedCopies
import Mathlib.Data.List.DropRight

/-!
# Texts that are trimmed in place

A loop that takes characters off the end of a text in a buffer overwrites each of them with a NUL. The
buffer holds the text that is left, and nothing behind the buffer's size is written.
-/

namespace CString

/-- `while( r > 0 && p( buffer[ r-1 ] ) ) buffer[ --r ] = 0`: the buffer and `r` afterwards. -/
def trimWhile (p : Char → Bool) (buffer : Buffer) : ℕ → Buffer × ℕ
  | 0 => (buffer, 0)
  | r + 1 => if p (buffer r) then trimWhile p (store buffer r nul) r else (buffer, r + 1)

/-- `while( r > 0 && p( buffer[ r-1 ] ) ) --r`. -/
def shrinkWhile (p : Char → Bool) (buffer : Buffer) : ℕ → ℕ
  | 0 => 0
  | r + 1 => if p (buffer r) then shrinkWhile p buffer r else r + 1

/-- `if( r > 0 && p( buffer[ r-1 ] ) ) buffer[ --r ] = 0`. -/
def trimOne (p : Char → Bool) (buffer : Buffer) : ℕ → Buffer × ℕ
  | 0 => (buffer, 0)
  | r + 1 => if p (buffer r) then (store buffer r nul, r) else (buffer, r + 1)

/-- `if( r > 0 && p( buffer[ r-1 ] ) ) --r`. -/
def shrinkOne (p : Char → Bool) (buffer : Buffer) : ℕ → ℕ
  | 0 => 0
  | r + 1 => if p (buffer r) then r else r + 1

def dropLastIf (p : Char → Bool) (text : List Char) : List Char :=
  if text.getLast?.any p then text.dropLast else text

theorem dropLastIf_concat_pos {p : Char → Bool} (text : List Char) {c : Char} (hc : p c = true) :
    dropLastIf p (text ++ [c]) = text := by
  rw [dropLastIf, List.getLast?_concat, Option.any_some, if_pos hc, List.dropLast_concat]

theorem dropLastIf_concat_neg {p : Char → Bool} (text : List Char) {c : Char}
    (hc : ¬ p c = true) : dropLastIf p (text ++ [c]) = text ++ [c] := by
  rw [dropLastIf, List.getLast?_concat, Option.any_some, if_neg hc]

theorem dropLastIf_isStart (p : Char → Bool) (text : List Char) : dropLastIf p text <+: text := by
  rw [dropLastIf]
  split_ifs
  · exact List.dropLast_prefix text
  · exact List.prefix_refl text

/-! ### Copies of other sizes and into other buffers -/

theorem boundedCopy_zero (buffer : Buffer) (text : List Char) :
    BoundedCopy buffer buffer 0 text where
  outside _ _ := rfl
  copied i hi := absurd hi (by omega)
  terminated h := absurd h (Nat.lt_irrefl 0)

theorem BoundedCopy.getElem {before after : Buffer} {size : ℕ} {text : List Char}
    (h : BoundedCopy before after size text) (hfits : text.length < size) {i : ℕ}
    (hi : i < text.length) : after i = text[i] := by
  have hcell := h.copied i (by omega)
  rw [List.getElem?_eq_getElem hi] at hcell
  exact (Option.some.inj hcell).symm

theorem BoundedCopy.end_nul {before after : Buffer} {size : ℕ} {text : List Char}
    (h : BoundedCopy before after size text) (hfits : text.length < size) :
    after text.length = nul := by
  have hend := h.terminated (by omega)
  rwa [Nat.min_eq_left (by omega)] at hend

theorem BoundedCopy.mono {before after : Buffer} {room size : ℕ} {text : List Char}
    (h : BoundedCopy before after room text) (hfits : text.length < room) (hroom : room ≤ size) :
    BoundedCopy before after size text where
  outside i hi := h.outside i (hroom.trans hi)
  copied i hi := h.copied i (by omega)
  terminated _ := by
    rw [Nat.min_eq_left (by omega)]
    exact h.end_nul hfits

theorem BoundedCopy.map_range {before after : Buffer} {size : ℕ} {text start : List Char}
    (h : BoundedCopy before after size text) (hfits : text.length < size)
    (hstart : start <+: text) : (List.range start.length).map after = start := by
  have hle := hstart.length_le
  apply List.ext_getElem
  · rw [List.length_map, List.length_range]
  · intro i hi hlt
    rw [List.getElem_map, List.getElem_range, h.getElem hfits (by omega), hstart.getElem]

theorem BoundedCopy.of_outside {before between after : Buffer} {size : ℕ} {text : List Char}
    (h : BoundedCopy between after size text)
    (houtside : ∀ i, size ≤ i → between i = before i) : BoundedCopy before after size text where
  outside i hi := (h.outside i hi).trans (houtside i hi)
  copied := h.copied
  terminated := h.terminated

section Last

variable {before after : Buffer} {size : ℕ} {text : List Char} {c : Char}
  (h : BoundedCopy before after size (text ++ [c])) (hfits : (text ++ [c]).length < size)

include h hfits

theorem BoundedCopy.store_last :
    BoundedCopy before (store after text.length nul) size text := by
  have hlength : (text ++ [c]).length = text.length + 1 := List.length_append
  refine ⟨?_, ?_, ?_⟩
  · intro i hi
    rw [store, Function.update_of_ne (by omega)]
    exact h.outside i hi
  · intro i hi
    have hlt : i < text.length := by omega
    rw [store, Function.update_of_ne (by omega), h.getElem hfits (by omega),
      List.getElem_append_left hlt, List.getElem?_eq_getElem hlt]
  · intro _
    rw [Nat.min_eq_left (by omega)]
    exact Function.update_self ..

theorem BoundedCopy.last : after text.length = c := by
  have hlength : (text ++ [c]).length = text.length + 1 := List.length_append
  rw [h.getElem hfits (by omega)]
  exact List.getElem_concat_length rfl _

end Last

/-! ### The loops -/

section Loops

variable (p : Char → Bool)

theorem shrinkWhile_congr {b b' : Buffer} {r : ℕ} (h : ∀ i < r, b i = b' i) :
    shrinkWhile p b r = shrinkWhile p b' r := by
  induction r with
  | zero => rfl
  | succ r ih =>
    rw [shrinkWhile, shrinkWhile, h r (Nat.lt_succ_self r),
      ih fun i hi => h i (hi.trans (Nat.lt_succ_self r))]

/-- The stores of the loop are behind what it reads next. -/
theorem trimWhile_snd (b : Buffer) (r : ℕ) : (trimWhile p b r).2 = shrinkWhile p b r := by
  induction r generalizing b with
  | zero => rfl
  | succ r ih =>
    rw [trimWhile, shrinkWhile]
    split_ifs with hr
    · rw [ih]
      exact shrinkWhile_congr p fun i hi => Function.update_of_ne hi.ne _ _
    · rfl

theorem trimOne_snd (b : Buffer) (r : ℕ) : (trimOne p b r).2 = shrinkOne p b r := by
  cases r with
  | zero => rfl
  | succ r =>
    rw [trimOne, shrinkOne]
    split_ifs <;> rfl

theorem shrinkOne_congr {b b' : Buffer} {r : ℕ} (h : ∀ i < r, b i = b' i) :
    shrinkOne p b r = shrinkOne p b' r := by
  cases r with
  | zero => rfl
  | succ r => rw [shrinkOne, shrinkOne, h r (Nat.lt_succ_self r)]

variable {before after : Buffer} {size : ℕ} {text : List Char}

/-- Each pass of the loop takes off the last character of the text that is left. -/
theorem BoundedCopy.trimWhile (h : BoundedCopy before after size text)
    (hfits : text.length < size) :
    BoundedCopy before (trimWhile p after text.length).1 size (text.rdropWhile p) ∧
      shrinkWhile p after text.length = (text.rdropWhile p).length := by
  rw [← trimWhile_snd]
  induction text using List.reverseRecOn generalizing after with
  | nil => exact ⟨h, rfl⟩
  | append_singleton text c ih =>
    have hlength : (text ++ [c]).length = text.length + 1 := List.length_append
    rw [hlength, CString.trimWhile, h.last hfits]
    by_cases hc : p c = true
    · rw [if_pos hc, List.rdropWhile_concat_pos p text c hc]
      exact ih (h.store_last hfits) (by omega)
    · rw [if_neg hc, List.rdropWhile_concat_neg p text c hc]
      exact ⟨h, hlength.symm⟩

theorem BoundedCopy.trimOne (h : BoundedCopy before after size text)
    (hfits : text.length < size) :
    BoundedCopy before (trimOne p after text.length).1 size (dropLastIf p text) ∧
      shrinkOne p after text.length = (dropLastIf p text).length := by
  rw [← trimOne_snd]
  induction text using List.reverseRecOn with
  | nil => exact ⟨h, rfl⟩
  | append_singleton text c _ =>
    have hlength : (text ++ [c]).length = text.length + 1 := List.length_append
    rw [hlength, CString.trimOne, h.last hfits]
    by_cases hc : p c = true
    · rw [if_pos hc, dropLastIf_concat_pos text hc]
      exact ⟨h.store_last hfits, rfl⟩
    · rw [if_neg hc, dropLastIf_concat_neg text hc]
      exact ⟨h, hlength.symm⟩

end Loops

end CString
