import Mathlib.Data.UInt

/-!
# Words that carry a Boolean in their low bit

`p ||| b.toUInt64` packs a Boolean next to a word `p` whose low bit is free, such as the address of
an aligned object. Both parts can be read back, and the packed word is not below `p`.
-/

namespace Tagged

theorem or_and_distrib (x y z : UInt64) : (x ||| y) &&& z = (x &&& z) ||| (y &&& z) :=
  UInt64.toBitVec_inj.1 BitVec.and_or_distrib_right

theorem and_not_one_of_low_zero (p : UInt64) (hp : p &&& 1 = 0) : p &&& ~~~1 = p := by
  have hsplit : (p &&& 1) ||| (p &&& ~~~1) = p := by
    rw [UInt64.and_comm p, UInt64.and_comm p, ← or_and_distrib, UInt64.or_not_self,
      UInt64.neg_one_and]
  rw [hp, UInt64.zero_or] at hsplit
  exact hsplit

/-- The low bit of a packed word is the Boolean. -/
theorem or_bool_and_one (p : UInt64) (hp : p &&& 1 = 0) (b : Bool) :
    (p ||| b.toUInt64) &&& 1 = b.toUInt64 := by
  rw [or_and_distrib, hp, UInt64.zero_or]
  cases b <;> rfl

/-- Clearing the low bit of a packed word gives back the word. -/
theorem or_bool_and_not_one (p : UInt64) (hp : p &&& 1 = 0) (b : Bool) :
    (p ||| b.toUInt64) &&& ~~~1 = p := by
  have hb : b.toUInt64 &&& ~~~1 = 0 := by cases b <;> rfl
  rw [or_and_distrib, hb, UInt64.or_zero, and_not_one_of_low_zero p hp]

theorem le_or_of_le (n p q : UInt64) (hn : n ≤ p) : n ≤ p ||| q :=
  UInt64.le_trans hn UInt64.left_le_or

theorem ne_of_lt_le {m n p : UInt64} (hmn : m < n) (hn : n ≤ p) : p ≠ m := by
  intro hp
  have hlt := UInt64.lt_iff_toNat_lt.mp hmn
  have hle := UInt64.le_iff_toNat_le.mp hn
  rw [hp] at hle
  omega

end Tagged
