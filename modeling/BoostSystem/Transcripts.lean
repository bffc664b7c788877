import BoostSystem.Runs
import Mathlib.Data.List.Induction

/-!
# Transcripts

The transcript of a run keeps every operation with its answer. An invariant of transcripts and states
is shown one operation at a time, and the entry at one position is what the state before it answers.
-/

namespace Runs

variable {σ ο ρ : Type*}

/-- The operation is answered, and the answer goes into the transcript. -/
def record (step : σ → ο → ρ × σ) (p : List (ο × ρ) × σ) (o : ο) : List (ο × ρ) × σ :=
  (p.1 ++ [(o, (step p.2 o).1)], (step p.2 o).2)

def transcript (step : σ → ο → ρ × σ) (s : σ) (ops : List ο) : List (ο × ρ) × σ :=
  run (record step) ([], s) ops

section Entries

variable (step : σ → ο → ρ × σ) (s : σ)

theorem transcript_append (ops : List ο) (o : ο) :
    transcript step s (ops ++ [o]) = record step (transcript step s ops) o :=
  run_append _ _ ops [o]

theorem transcript_prefix (ops later : List ο) :
    (transcript step s ops).1 <+: (transcript step s (ops ++ later)).1 := by
  induction later using List.reverseRecOn with
  | nil => exact ⟨[], by rw [List.append_nil, List.append_nil]⟩
  | append_singleton later o ih =>
    rw [← List.append_assoc, transcript_append]
    exact ih.trans (List.prefix_append _ _)

theorem transcript_length (ops : List ο) : (transcript step s ops).1.length = ops.length := by
  induction ops using List.reverseRecOn with
  | nil => rfl
  | append_singleton ops o ih =>
    rw [transcript_append, record, List.length_append, List.length_append, ih]
    rfl

/-- The entry at one position of a run. -/
theorem transcript_at (before : List ο) (o : ο) (after : List ο) :
    (transcript step s (before ++ o :: after)).1[before.length]? =
      some (o, (step (transcript step s before).2 o).1) := by
  have hentry : (transcript step s (before ++ [o])).1[before.length]? =
      some (o, (step (transcript step s before).2 o).1) := by
    rw [transcript_append, record, ← transcript_length step s before]
    exact List.getElem?_concat_length
  obtain ⟨rest, hrest⟩ := transcript_prefix step s (before ++ [o]) after
  rw [List.append_cons, ← hrest,
    List.getElem?_append_left (List.getElem?_eq_some_iff.mp hentry).1, hentry]

end Entries

section Invariants

variable {step : σ → ο → ρ × σ} {s : σ} (I : List (ο × ρ) → σ → Prop)

theorem transcript_invariant (hs : I [] s)
    (hstep : ∀ log s o, I log s → I (log ++ [(o, (step s o).1)]) (step s o).2) (ops : List ο) :
    I (transcript step s ops).1 (transcript step s ops).2 := by
  have hrecord (p : List (ο × ρ) × σ) (o : ο) (hp : I p.1 p.2) :
      I (record step p o).1 (record step p o).2 := hstep p.1 p.2 o hp
  exact @run_invariant _ _ (record step) (fun p => I p.1 p.2) hrecord ([], s) hs ops

end Invariants

end Runs
