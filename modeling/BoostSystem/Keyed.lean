import Mathlib.Data.Prod.Lex
import Mathlib.Data.Sum.Order

/-!
# Comparisons read off a key

A pair of Boolean comparisons `eq`, `lt` is `KeyedBy key` when it decides equality and order of a
key in a linear order. Such a pair is `Coherent`: an equivalence, a strict order, and a trichotomy
between the two. Keys compose the way hand-written comparison operators do: lexicographically,
over a disjoint union whose left side comes first, and along a map.
-/

namespace Keyed

variable {α β γ κ μ : Type*}

/-- What ordered and unordered containers ask of a pair of comparisons. -/
structure Coherent (eq lt : α → α → Bool) : Prop where
  refl : ∀ a, eq a a = true
  symm : ∀ a b, eq a b = true → eq b a = true
  trans : ∀ a b c, eq a b = true → eq b c = true → eq a c = true
  irrefl : ∀ a, lt a a = false
  lt_trans : ∀ a b c, lt a b = true → lt b c = true → lt a c = true
  /-- Exactly one of `a < b`, `b < a` and `a = b` holds. -/
  trichotomy : ∀ a b, (lt a b = true ∧ lt b a = false ∧ eq a b = false) ∨
    (lt a b = false ∧ lt b a = true ∧ eq a b = false) ∨
    (lt a b = false ∧ lt b a = false ∧ eq a b = true)

structure KeyedBy [LinearOrder κ] (key : α → κ) (eq lt : α → α → Bool) : Prop where
  eq_iff : ∀ a b, eq a b = true ↔ key a = key b
  lt_iff : ∀ a b, lt a b = true ↔ key a < key b

variable [LinearOrder κ] [LinearOrder μ]

theorem KeyedBy.coherent {key : α → κ} {eq lt : α → α → Bool} (h : KeyedBy key eq lt) :
    Coherent eq lt where
  refl a := (h.eq_iff a a).mpr rfl
  symm a b hab := (h.eq_iff b a).mpr ((h.eq_iff a b).mp hab).symm
  trans a b c hab hbc := (h.eq_iff a c).mpr (((h.eq_iff a b).mp hab).trans ((h.eq_iff b c).mp hbc))
  irrefl a := Bool.eq_false_iff.mpr fun haa => lt_irrefl _ ((h.lt_iff a a).mp haa)
  lt_trans a b c hab hbc :=
    (h.lt_iff a c).mpr (((h.lt_iff a b).mp hab).trans ((h.lt_iff b c).mp hbc))
  trichotomy a b := by
    simp only [Bool.eq_false_iff, ne_eq, h.lt_iff, h.eq_iff]
    rcases lt_trichotomy (key a) (key b) with hlt | heq | hgt
    · exact Or.inl ⟨hlt, hlt.asymm, hlt.ne⟩
    · exact Or.inr (Or.inr ⟨heq.not_lt, heq.not_gt, heq⟩)
    · exact Or.inr (Or.inl ⟨hgt.asymm, hgt, hgt.ne'⟩)

theorem KeyedBy.comap {key : α → κ} {eq lt : α → α → Bool} (h : KeyedBy key eq lt) (f : β → α) :
    KeyedBy (key ∘ f) (fun a b => eq (f a) (f b)) (fun a b => lt (f a) (f b)) where
  eq_iff a b := h.eq_iff (f a) (f b)
  lt_iff a b := h.lt_iff (f a) (f b)

theorem KeyedBy.lex {key₁ : α → κ} {key₂ : α → μ} {eq₁ lt₁ eq₂ lt₂ : α → α → Bool}
    (h₁ : KeyedBy key₁ eq₁ lt₁) (h₂ : KeyedBy key₂ eq₂ lt₂) :
    KeyedBy (fun a => toLex (key₁ a, key₂ a)) (fun a b => eq₂ a b && eq₁ a b)
      (fun a b => lt₁ a b || (eq₁ a b && lt₂ a b)) where
  eq_iff a b := by
    simp only [Bool.and_eq_true, h₁.eq_iff, h₂.eq_iff, toLex_inj, Prod.mk.injEq, and_comm]
  lt_iff a b := by
    simp only [Bool.or_eq_true, Bool.and_eq_true, h₁.lt_iff, h₁.eq_iff, h₂.lt_iff,
      Prod.Lex.toLex_lt_toLex]

/-- Values that differ in kind compare by kind, the left kind first; values of one kind compare by
that kind's own comparisons. -/
theorem KeyedBy.sum {f : α → β ⊕ γ} {keyL : β → κ} {keyR : γ → μ} {eqL ltL : β → β → Bool}
    {eqR ltR : γ → γ → Bool} (hL : KeyedBy keyL eqL ltL) (hR : KeyedBy keyR eqR ltR) :
    KeyedBy (fun a => toLex ((f a).map keyL keyR))
      (fun a b => match f a, f b with
        | .inl x, .inl y => eqL x y
        | .inr x, .inr y => eqR x y
        | _, _ => false)
      (fun a b => match f a, f b with
        | .inl x, .inl y => ltL x y
        | .inl _, .inr _ => true
        | .inr _, .inl _ => false
        | .inr x, .inr y => ltR x y) where
  eq_iff a b := by
    cases f a <;> cases f b <;> simp [hL.eq_iff, hR.eq_iff]
  lt_iff a b := by
    cases f a <;> cases f b <;> simp [hL.lt_iff, hR.lt_iff]

end Keyed
