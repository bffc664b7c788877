import BoostSystem.DecimalText
import BoostSystem.ErrorStore

/-!
# Message tables

A table of texts with a fallback that is computed from the key. Distinct keys have distinct texts if
the table has no text twice, the fallback no text of the table, and none twice.
-/

namespace BoostSystem

open CString

section Lookup

variable {α β : Type*} [BEq α] [LawfulBEq α] {table : List (α × β)} {fallback : α → β}

theorem mem_of_lookup_eq_some {a : α} {b : β} (h : table.lookup a = some b) : (a, b) ∈ table := by
  obtain ⟨before, after, rfl, -⟩ := List.lookup_eq_some_iff.mp h
  exact List.mem_append_right _ List.mem_cons_self

theorem lookup_getD_cases (table : List (α × β)) (fallback : α → β) (a : α) :
    (a, (table.lookup a).getD (fallback a)) ∈ table ∨
      (table.lookup a).getD (fallback a) = fallback a := by
  cases h : table.lookup a with
  | none => exact Or.inr rfl
  | some b => exact Or.inl (mem_of_lookup_eq_some h)

theorem lookup_getD_injective (hnodup : (table.map Prod.snd).Nodup)
    (hapart : ∀ entry ∈ table, ∀ a, entry.2 ≠ fallback a) (hfallback : Function.Injective fallback) :
    Function.Injective fun a => (table.lookup a).getD (fallback a) := by
  intro a b hab
  dsimp only at hab
  rcases lookup_getD_cases table fallback a with ha | ha
  · rcases lookup_getD_cases table fallback b with hb | hb
    · have hentry := List.inj_on_of_nodup_map hnodup ha hb hab
      exact congrArg Prod.fst hentry
    · exact absurd (hab.trans hb) (hapart _ ha b)
  · rcases lookup_getD_cases table fallback b with hb | hb
    · exact absurd (hab.symm.trans ha) (hapart _ hb a)
    · exact hfallback (ha.symm.trans (hab.trans hb))

end Lookup

/-! ### The tables -/

/-- What is looked up in a table of texts without NULs has none. -/
theorem nul_notMem_lookup {table : List (Int32 × String)} {text : String}
    (htable : ∀ entry ∈ table, nul ∉ entry.2.toList) (htext : nul ∉ text.toList) (n : Int32) :
    nul ∉ ((table.lookup n).getD (text ++ decimal n)).toList := by
  rcases lookup_getD_cases table (fun n => text ++ decimal n) n with h | h
  · exact htable _ h
  · rw [h]
    exact nul_notMem_append_decimal htext n

theorem nul_notMem_getMessage (val cat : Int32) : nul ∉ (getMessage val cat).toList := by
  unfold getMessage
  split_ifs
  · exact nul_notMem_lookup (by simp [systemMessages, nul]) (by simp [nul]) val
  · exact nul_notMem_lookup (by simp [genericMessages, nul]) (by simp [nul]) val

/-- In each of the two tables, a message identifies its value. -/
theorem getMessage_injective (cat : Int32) : Function.Injective fun val => getMessage val cat := by
  unfold getMessage
  split_ifs
  · apply lookup_getD_injective
    · simp [systemMessages]
    · have hapart : ∀ entry ∈ systemMessages, ¬ "System error ".toList <+: entry.2.toList := by
        simp [systemMessages]
      exact fun entry hentry val => ne_append_decimal (hapart entry hentry) val
    · exact append_decimal_injective _
  · apply lookup_getD_injective
    · simp [genericMessages]
    · have hapart : ∀ entry ∈ genericMessages, ¬ "Generic error ".toList <+: entry.2.toList := by
        simp [genericMessages]
      exact fun entry hentry val => ne_append_decimal (hapart entry hentry) val
    · exact append_decimal_injective _

end BoostSystem
