import BoostSystem.Representation

/-!
# Hashes that do not collide

A hash in rounds of exclusive or and multiplication. The multiplier is odd, so a round can be undone
on either of its sides, in 64 bits and in the low 32 of them.
-/

namespace BoostSystem

variable {U K : Type}

/-! ### One round -/

/-- `( 0x00000100 << 32 ) + 0x000001B3`. -/
def hashPrime : UInt64 := ((0x00000100 : UInt64) <<< 32) + 0x000001B3

def hashSeed : UInt64 := ((0xCBF29CE4 : UInt64) <<< 32) + 0x84222325

def hashRound (hv x : UInt64) : UInt64 := (hv ^^^ x) * hashPrime

theorem mul_hashPrime_injective : Function.Injective fun x : UInt64 => x * hashPrime := by
  have hinverse : hashPrime * 0xCE965057AFF6957B = 1 := by decide
  have hleft : Function.LeftInverse (fun x : UInt64 => x * 0xCE965057AFF6957B)
      fun x => x * hashPrime := by
    intro x
    dsimp only
    rw [UInt64.mul_assoc, hinverse, UInt64.mul_one]
  exact hleft.injective

theorem mul_hashPrime32_injective :
    Function.Injective fun x : UInt32 => x * hashPrime.toUInt32 := by
  have hinverse : hashPrime.toUInt32 * 0xAFF6957B = 1 := by decide
  have hleft : Function.LeftInverse (fun x : UInt32 => x * 0xAFF6957B)
      fun x => x * hashPrime.toUInt32 := by
    intro x
    dsimp only
    rw [UInt32.mul_assoc, hinverse, UInt32.mul_one]
  exact hleft.injective

theorem hashRound_right_injective (hv : UInt64) : Function.Injective (hashRound hv) := by
  intro x y h
  exact (UInt64.xor_right_inj hv).mp (mul_hashPrime_injective h)

theorem hashRound_left_injective (x : UInt64) : Function.Injective fun hv => hashRound hv x := by
  intro hv hv' h
  exact (UInt64.xor_left_inj x).mp (mul_hashPrime_injective h)

/-- The low halves of what goes in can be had from the low half of what comes out. -/
theorem hashRound_low_injective (hv : UInt64) :
    Function.Injective fun x : UInt32 => (hashRound hv x.toUInt64).toUInt32 := by
  intro x y h
  simp only [hashRound, UInt64.toUInt32_mul, UInt64.toUInt32_xor, UInt32.toUInt32_toUInt64] at h
  exact (UInt32.xor_right_inj hv.toUInt32).mp (mul_hashPrime32_injective h)

theorem toUInt32_injective : Function.Injective Int32.toUInt32 :=
  Function.LeftInverse.injective Int32.toInt32_toUInt32

/-! ### The hash of a code -/

namespace ErrorCode

variable (w : Program U K)

/-- The identifier, or the address if there is none. -/
def effectiveId (cat : ErrorCategory U) : UInt64 :=
  if cat.id w == 0 then w.address cat else cat.id w

/-- The hash in 64 bits. -/
def hash64 (v : Int32) (cat : ErrorCategory U) : UInt64 :=
  hashRound (hashRound hashSeed (effectiveId w cat)) v.toUInt32.toUInt64

theorem hashValue_ofCategory (v : Int32) (cat : ErrorCategory U) :
    (ofCategory w v cat : ErrorCode U K).hashValue w =
      if w.config.size32 then (hash64 w v cat).toUInt32.toUInt64 else hash64 w v cat := by
  rw [ofCategory_eq]
  unfold hashValue hash64 hashRound hashSeed hashPrime effectiveId
  rw [lcFlags_ofCategoryAt_one, category_ofCategoryAt, value_ofCategoryAt,
    if_neg Bool.false_ne_true]

/-- Codes of one category hash apart, in 64 and in 32 bits, and codes of one value hash apart in
64. -/
theorem hash_value_apart (w : Program U K) :
    (∀ (cat : ErrorCategory U) (v v' : Int32), v ≠ v' →
      (ofCategory w v cat : ErrorCode U K).hashValue w ≠ (ofCategory w v' cat).hashValue w) ∧
    (w.config.size32 = false → ∀ (v : Int32) (cat cat' : ErrorCategory U),
      effectiveId w cat ≠ effectiveId w cat' →
        (ofCategory w v cat : ErrorCode U K).hashValue w ≠ (ofCategory w v cat').hashValue w) := by
  constructor
  · intro cat v v' hne h
    apply hne
    rw [hashValue_ofCategory, hashValue_ofCategory] at h
    split_ifs at h
    · exact toUInt32_injective (hashRound_low_injective _ (UInt32.toUInt64_inj.mp h))
    · exact toUInt32_injective (UInt32.toUInt64_inj.mp (hashRound_right_injective _ h))
  · intro hsize v cat cat' hne h
    apply hne
    rw [hashValue_ofCategory, hashValue_ofCategory, hsize] at h
    exact hashRound_right_injective _ (hashRound_left_injective _ h)

/-- Neighbours in one category without an identifier, and two such categories. -/
theorem hash_value_apart_plain :
    (ofCategory (plainPair 0) 5 (.user true)).hashValue (plainPair 0) ≠
        (ofCategory (plainPair 0) 6 (.user true)).hashValue (plainPair 0) ∧
      (ofCategory (plainPair 0) 5 (.user true)).hashValue (plainPair 0) ≠
        (ofCategory (plainPair 0) 5 (.user false)).hashValue (plainPair 0) :=
  ⟨(hash_value_apart (plainPair 0)).1 (.user true) 5 6 (by decide),
    (hash_value_apart (plainPair 0)).2 rfl 5 (.user true) (.user false) (by decide)⟩

end ErrorCode

end BoostSystem
