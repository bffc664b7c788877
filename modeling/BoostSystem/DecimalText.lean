import BoostSystem.CString
import Mathlib

/-!
# Decimal texts

What `%d` prints for an `int`: at most 11 characters, digits and a minus sign, and a different text
for every value. A text that is followed by a separator and a decimal can be read back from the
right.
-/

namespace CString

theorem decimal_injective : Function.Injective decimal := by
  intro m n h
  exact Int32.toInt_inj.mp (Int.repr_injective h)

theorem decimal_of_nonneg {n : Int32} (hn : 0 ≤ n.toInt) : decimal n = n.toInt.toNat.repr :=
  Int.repr_eq_if.trans (if_pos hn)

theorem decimal_of_neg {n : Int32} (hn : ¬ 0 ≤ n.toInt) : decimal n = "-" ++ (-n.toInt).toNat.repr :=
  Int.repr_eq_if.trans (if_neg hn)

theorem toList_decimal (n : Int32) :
    (decimal n).toList = if 0 ≤ n.toInt then Nat.toDigits 10 n.toInt.toNat
      else '-' :: Nat.toDigits 10 (-n.toInt).toNat := by
  split_ifs with hn
  · rw [decimal_of_nonneg hn, Nat.toList_repr]
  · rw [decimal_of_neg hn, String.toList_append, Nat.toList_repr]
    rfl

theorem isDigit_of_mem_decimal {n : Int32} {c : Char} (hc : c ∈ (decimal n).toList)
    (hsign : c ≠ '-') : c.isDigit = true := by
  rw [toList_decimal] at hc
  split_ifs at hc
  · exact Nat.isDigit_of_mem_toDigits (by omega) (by omega) hc
  · rcases List.mem_cons.mp hc with heq | hdigit
    · exact absurd heq hsign
    · exact Nat.isDigit_of_mem_toDigits (by omega) (by omega) hdigit

theorem nul_notMem_decimal (n : Int32) : nul ∉ (decimal n).toList := by
  intro hmem
  exact absurd (isDigit_of_mem_decimal hmem (by decide)) (by decide)

theorem colon_notMem_decimal (n : Int32) : ':' ∉ (decimal n).toList := by
  intro hmem
  exact absurd (isDigit_of_mem_decimal hmem (by decide)) (by decide)

/-- The longest text is that of `INT_MIN`. -/
theorem length_decimal_le (n : Int32) : (decimal n).toList.length ≤ 11 := by
  have hdigits (m : ℕ) (hm : m < 10 ^ 10) : (Nat.toDigits 10 m).length ≤ 10 :=
    (Nat.length_toDigits_le_iff (by omega) (by omega)).mpr hm
  have hlow := Int32.le_toInt n
  have hhigh := Int32.toInt_lt n
  rw [toList_decimal]
  split_ifs with hn
  · have hlength := hdigits n.toInt.toNat (by omega)
    omega
  · have hlength := hdigits (-n.toInt).toNat (by omega)
    rw [List.length_cons]
    omega

/-! ### Texts that end in a decimal -/

theorem append_decimal_injective (text : String) :
    Function.Injective fun n => text ++ decimal n := by
  intro m n h
  exact decimal_injective ((String.append_right_inj text).mp h)

theorem nul_notMem_append_decimal {text : String} (h : nul ∉ text.toList) (n : Int32) :
    nul ∉ (text ++ decimal n).toList := by
  rw [String.toList_append, List.mem_append, not_or]
  exact ⟨h, nul_notMem_decimal n⟩

theorem ne_append_decimal {t text : String} (h : ¬ text.toList <+: t.toList) (n : Int32) :
    t ≠ text ++ decimal n := by
  rintro rfl
  rw [String.toList_append] at h
  exact h (List.prefix_append _ _)

theorem length_append_decimal_le (text : String) (n : Int32) :
    (text ++ decimal n).toList.length ≤ text.length + 11 := by
  rw [String.toList_append, List.length_append, String.length_toList]
  exact Nat.add_le_add_left (length_decimal_le n) _

/-! ### A separator and a decimal -/

/-- No text with the separator in its second part begins as another ends. -/
theorem append_separator_inj {sep : Char} {s t d e : List Char} (hd : sep ∉ d) (he : sep ∉ e)
    (h : s ++ sep :: d = t ++ sep :: e) : s = t ∧ d = e := by
  have hsame {s t d e : List Char} (hd : sep ∉ d) {rest : List Char} (ht : t = s ++ rest)
      (hrest : sep :: d = rest ++ sep :: e) : s = t ∧ d = e := by
    cases rest with
    | nil =>
      rw [List.append_nil] at ht
      exact ⟨ht.symm, (List.cons.inj hrest).2⟩
    | cons c rest =>
      have htail : d = rest ++ sep :: e := (List.cons.inj hrest).2
      refine absurd ?_ hd
      rw [htail]
      exact List.mem_append_right _ List.mem_cons_self
  rcases List.append_eq_append_iff.mp h with ⟨rest, ht, hrest⟩ | ⟨rest, hs, hrest⟩
  · exact hsame hd ht hrest
  · obtain ⟨hts, hed⟩ := hsame he hs hrest
    exact ⟨hts.symm, hed.symm⟩

end CString
