import BoostSystem.Representation

/-!
# Equality, order and hash of error codes

A code compares as a category and a value, or, when it wraps one, as its `std::error_code`; the
former come first. Both comparisons read off that key, so they are coherent, and the hash depends
on what equality compares.
-/

namespace BoostSystem

open Keyed

variable {U K : Type}

namespace ErrorCode

variable (w : Program U K)

/-- What the comparisons look at. -/
def comparand (a : ErrorCode U K) : (ErrorCategory U × Int32) ⊕ StdErrorCode U K :=
  if a.lcFlags == 1 then .inr a.data.d2Code else .inl (a.category, a.value w)

theorem explicit_keyed : KeyedBy
    (fun p : ErrorCategory U × Int32 => toLex (p.1.key w, p.2.toInt))
    (fun p q => p.2 == q.2 && p.1.eq w q.1)
    (fun p q => p.1.lt w q.1 || (p.1.eq w q.1 && decide (p.2 < q.2))) :=
  ((ErrorCategory.keyed w).comap Prod.fst).lex (int32_keyed.comap Prod.snd)

theorem keyed : KeyedBy
    (fun a : ErrorCode U K => toLex ((a.comparand w).map
      (fun p => toLex (p.1.key w, p.2.toInt))
      (fun s => toLex ((w.stdAddress s.category).toNat, s.value.toInt)))) (eq w) (lt w) := by
  have hsum := KeyedBy.sum (f := comparand w) (explicit_keyed w) (StdErrorCode.keyed w)
  constructor
  · intro a b
    rw [← hsum.eq_iff]
    by_cases ha : a.lcFlags = 1 <;> by_cases hb : b.lcFlags = 1 <;>
      simp [eq, comparand, ha, hb]
  · intro a b
    rw [← hsum.lt_iff]
    by_cases ha : a.lcFlags = 1 <;> by_cases hb : b.lcFlags = 1 <;>
      simp [lt, comparand, ha, hb]

theorem hashValue_eq_of_eq (a b : ErrorCode U K) (hab : a.eq w b = true) :
    a.hashValue w = b.hashValue w := by
  by_cases ha : a.lcFlags = 1 <;> by_cases hb : b.lcFlags = 1
  · have hs : a.data.d2Code = b.data.d2Code := by simpa [eq, ha, hb] using hab
    simp [hashValue, ha, hb, hs]
  · simp [eq, ha, hb] at hab
  · simp [eq, ha, hb] at hab
  · have hvc : a.value w = b.value w ∧ a.category.eq w b.category = true := by
      simpa [eq, ha, hb] using hab
    obtain ⟨hv, hc⟩ := hvc
    obtain ⟨hid, haddr⟩ := (ErrorCategory.eq_iff w _ _).mp hc
    by_cases h0 : b.category.id w = 0
    · rw [hashValue, hashValue, haddr h0, hv]
      simp [ha, hb]
    · simp [hashValue, ha, hb, hid, hv, h0]

end ErrorCode

/-- The codes that runs leave in variables. -/
abbrev Program.Code (w : Program U K) := {a : ErrorCode U K // Reachable w a}

/-- Reachable codes are an equivalence under `==`, strictly and totally ordered by `<` modulo it,
and equal codes hash alike. -/
theorem code_coherent (w : Program U K) :
    Coherent (fun a b : w.Code => a.1.eq w b.1) (fun a b : w.Code => a.1.lt w b.1) ∧
      ∀ a b : w.Code, a.1.eq w b.1 = true → a.1.hashValue w = b.1.hashValue w :=
  ⟨((ErrorCode.keyed w).comap Subtype.val).coherent,
    fun a b => ErrorCode.hashValue_eq_of_eq w a.1 b.1⟩

end BoostSystem
