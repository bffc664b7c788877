import Mathlib.Data.Finset.Card
import Mathlib.Data.Finset.Dedup
import Mathlib.Data.List.Basic

/-!
# Tallies and their ranking

A map that keeps its keys in the order in which they were inserted, the tally of a list in such a
map, and the keys of the tally by descending count. Keys with one count keep the order of their first
occurrence, because the sort is stable.
-/

namespace Tallies

variable {α β : Type*}

/-! ### A stable sort -/

section StableSort

variable {le : α → α → Bool} {R : α → α → Prop}

/-- Elements that tie after sorting are in the order in which they were. -/
theorem pairwise_mergeSort_stable (trans : ∀ a b c, le a b → le b c → le a c)
    (total : ∀ a b, le a b || le b a) {l : List α} (hl : l.Pairwise R) :
    (l.mergeSort le).Pairwise fun a b => le a b = true ∧ (le b a = true → R a b) := by
  rw [← List.mergeSort_zipIdx, List.pairwise_map]
  have hsorted := List.pairwise_mergeSort (List.zipIdxLE_trans trans) (List.zipIdxLE_total total)
    l.zipIdx
  have hindices : (l.zipIdx.mergeSort (List.zipIdxLE le)).Pairwise fun a b => a.2 ≠ b.2 := by
    apply List.pairwise_map.mp
    rw [← List.Nodup, ((List.mergeSort_perm _ _).map Prod.snd).nodup_iff, List.zipIdx_map_snd]
    exact List.nodup_range'
  refine (hsorted.and hindices).imp_of_mem ?_
  rintro ⟨a, i⟩ ⟨b, j⟩ ha hb ⟨hle, hne⟩
  rw [List.mem_mergeSort, List.mk_mem_zipIdx_iff_getElem?, List.getElem?_eq_some_iff] at ha hb
  obtain ⟨hi, rfl⟩ := ha
  obtain ⟨hj, rfl⟩ := hb
  unfold List.zipIdxLE at hle
  split_ifs at hle with hab hba
  · refine ⟨hab, fun _ => ?_⟩
    have hij : i ≤ j := of_decide_eq_true hle
    exact List.pairwise_iff_getElem.mp hl i j hi hj (lt_of_le_of_ne hij hne)
  · exact ⟨hab, fun h => absurd h hba⟩

end StableSort

/-! ### Maps in insertion order -/

section Maps

variable [DecidableEq α]

/-- A key that is present keeps its place. -/
def set : List (α × β) → α → β → List (α × β)
  | [], k, v => [(k, v)]
  | e :: es, k, v => if e.1 = k then (k, v) :: es else e :: set es k v

theorem set_of_not_mem {es : List (α × β)} {k : α} (hk : k ∉ es.map Prod.fst) (v : β) :
    set es k v = es ++ [(k, v)] := by
  induction es with
  | nil => rfl
  | cons e es ih =>
    rw [List.map_cons, List.mem_cons, not_or] at hk
    rw [set, if_neg (Ne.symm hk.1), ih hk.2, List.cons_append]

theorem keys_set_of_mem {es : List (α × β)} {k : α} (hk : k ∈ es.map Prod.fst) (v : β) :
    (set es k v).map Prod.fst = es.map Prod.fst := by
  induction es with
  | nil => exact absurd hk List.not_mem_nil
  | cons e es ih =>
    rw [set]
    split_ifs with he
    · rw [List.map_cons, List.map_cons, he]
    · rw [List.map_cons, List.mem_cons] at hk
      rw [List.map_cons, List.map_cons, ih (hk.resolve_left (Ne.symm he))]

/-- The entry of the key is new, the other entries are the old ones. -/
theorem mem_set {es : List (α × β)} (hnodup : (es.map Prod.fst).Nodup) {k : α} {v : β} {e : α × β}
    (he : e ∈ set es k v) : e = (k, v) ∨ e ∈ es ∧ e.1 ≠ k := by
  induction es with
  | nil => exact Or.inl (List.mem_singleton.mp he)
  | cons e' es ih =>
    rw [List.map_cons, List.nodup_cons] at hnodup
    rw [set] at he
    split_ifs at he with hkey
    · rcases List.mem_cons.mp he with rfl | he
      · exact Or.inl rfl
      · refine Or.inr ⟨List.mem_cons_of_mem e' he, ?_⟩
        intro heq
        exact hnodup.1 (List.mem_map.mpr ⟨e, he, heq.trans hkey.symm⟩)
    · rcases List.mem_cons.mp he with rfl | he
      · exact Or.inr ⟨List.mem_cons_self, hkey⟩
      · rcases ih hnodup.2 he with hnew | ⟨hmem, hne⟩
        · exact Or.inl hnew
        · exact Or.inr ⟨List.mem_cons_of_mem e' hmem, hne⟩

theorem not_mem_keys_of_lookup {es : List (α × β)} {k : α} (h : es.lookup k = none) :
    k ∉ es.map Prod.fst := by
  intro hk
  obtain ⟨e, he, rfl⟩ := List.mem_map.mp hk
  simpa using List.lookup_eq_none_iff.mp h e he

end Maps

/-! ### Tallies -/

section Tally

variable [DecidableEq α]

/-- One more occurrence of a key. -/
def count (es : List (α × ℕ)) (k : α) : List (α × ℕ) := set es k ((es.lookup k).getD 0 + 1)

/-- `es` counts the keys of `ks`, in the order of their first occurrence. -/
structure IsTally (ks : List α) (es : List (α × ℕ)) : Prop where
  counts : ∀ e ∈ es, e.2 = ks.count e.1
  keys : ∀ k, k ∈ es.map Prod.fst ↔ k ∈ ks
  order : (es.map Prod.fst).Pairwise fun a b => ks.idxOf a < ks.idxOf b

theorem isTally_nil : IsTally ([] : List α) [] := by
  refine ⟨?_, fun k => Iff.rfl, List.Pairwise.nil⟩
  intro e he
  exact absurd he List.not_mem_nil

variable {ks : List α} {es : List (α × ℕ)}

theorem IsTally.nodup (h : IsTally ks es) : (es.map Prod.fst).Nodup := by
  refine h.order.imp ?_
  rintro a b hlt rfl
  exact lt_irrefl _ hlt

theorem IsTally.lookup (h : IsTally ks es) (k : α) : (es.lookup k).getD 0 = ks.count k := by
  cases hk : es.lookup k with
  | none =>
    have hnotMem := mt (h.keys k).mpr (not_mem_keys_of_lookup hk)
    rw [Option.getD_none, List.count_eq_zero.mpr hnotMem]
  | some n =>
    obtain ⟨before, after, rfl, -⟩ := List.lookup_eq_some_iff.mp hk
    exact h.counts (k, n) (List.mem_append_right before List.mem_cons_self)

theorem IsTally.order_append (h : IsTally ks es) (k : α) :
    (es.map Prod.fst).Pairwise fun a b => (ks ++ [k]).idxOf a < (ks ++ [k]).idxOf b := by
  refine h.order.imp_of_mem ?_
  intro a b ha hb hlt
  rwa [List.idxOf_append_of_mem ((h.keys a).mp ha), List.idxOf_append_of_mem ((h.keys b).mp hb)]

theorem IsTally.counts_append (h : IsTally ks es) {k : α} {e : α × ℕ}
    (he : e ∈ count es k) : e.2 = (ks ++ [k]).count e.1 := by
  rcases mem_set h.nodup he with rfl | ⟨hmem, hne⟩
  · rw [h.lookup, List.count_append, List.count_singleton_self]
  · rw [List.count_append, List.count_singleton, if_neg (by simpa using Ne.symm hne), Nat.add_zero,
      h.counts e hmem]

/-- One more key, one more occurrence. -/
theorem IsTally.append (h : IsTally ks es) (k : α) : IsTally (ks ++ [k]) (count es k) := by
  by_cases hk : k ∈ es.map Prod.fst
  · have hkeys := keys_set_of_mem hk ((es.lookup k).getD 0 + 1)
    refine ⟨fun e he => h.counts_append he, ?_, ?_⟩
    · intro k'
      rw [count, hkeys, h.keys, List.mem_append, List.mem_singleton, iff_self_or]
      rintro rfl
      exact (h.keys k').mp hk
    · rw [count, hkeys]
      exact h.order_append k
  · have hkeys : (count es k).map Prod.fst = es.map Prod.fst ++ [k] := by
      rw [count, set_of_not_mem hk, List.map_append, List.map_singleton]
    refine ⟨fun e he => h.counts_append he, ?_, ?_⟩
    · intro k'
      rw [hkeys, List.mem_append, List.mem_append, h.keys]
    · rw [hkeys, List.pairwise_append]
      refine ⟨h.order_append k, List.pairwise_singleton _ _, ?_⟩
      intro a ha b hb
      have haks := (h.keys a).mp ha
      rw [List.mem_singleton.mp hb, List.idxOf_append_of_mem haks,
        List.idxOf_append_of_notMem (mt (h.keys k).mpr hk)]
      have hlt := List.idxOf_lt_length_iff.mpr haks
      omega

theorem IsTally.length (h : IsTally ks es) : es.length = ks.toFinset.card := by
  have hsame : (es.map Prod.fst).toFinset = ks.toFinset := by
    ext k
    rw [List.mem_toFinset, List.mem_toFinset, h.keys]
  rw [← hsame, List.toFinset_card_of_nodup h.nodup, List.length_map]

/-! ### The most frequent keys -/

/-- The entries by descending count. -/
def rank (es : List (α × ℕ)) : List (α × ℕ) := es.mergeSort fun a b => decide (b.2 ≤ a.2)

/-- `a` occurs more often than `b`, or as often and first. -/
def Before (ks : List α) (a b : α) : Prop :=
  ks.count b < ks.count a ∨ ks.count a = ks.count b ∧ ks.idxOf a < ks.idxOf b

theorem IsTally.rank_pairwise (h : IsTally ks es) :
    ((rank es).map Prod.fst).Pairwise (Before ks) := by
  have htrans : ∀ a b c : α × ℕ, decide (b.2 ≤ a.2) → decide (c.2 ≤ b.2) → decide (c.2 ≤ a.2) := by
    intro a b c hab hbc
    rw [decide_eq_true_iff] at hab hbc ⊢
    exact hbc.trans hab
  have htotal : ∀ a b : α × ℕ, decide (b.2 ≤ a.2) || decide (a.2 ≤ b.2) := by
    intro a b
    rw [Bool.or_eq_true, decide_eq_true_iff, decide_eq_true_iff]
    exact le_total b.2 a.2
  have hstable := pairwise_mergeSort_stable htrans htotal (List.pairwise_map.mp h.order)
  rw [List.pairwise_map]
  refine hstable.imp_of_mem ?_
  rintro a b ha hb ⟨hle, htie⟩
  rw [List.mem_mergeSort] at ha hb
  rw [decide_eq_true_iff] at hle htie
  rw [h.counts a ha, h.counts b hb] at hle htie
  rcases Nat.lt_or_eq_of_le hle with hlt | heq
  · exact Or.inl hlt
  · exact Or.inr ⟨heq.symm, htie heq.ge⟩

/-- `top` are the `n` keys that come first, or all of them. -/
structure IsTop (n : ℕ) (ks top : List α) : Prop where
  length : top.length = min n ks.toFinset.card
  mem : ∀ k ∈ top, k ∈ ks
  ranked : top.Pairwise (Before ks)
  maximal : ∀ k ∈ ks, k ∉ top → ∀ k' ∈ top, ks.count k ≤ ks.count k'

theorem IsTop.nodup {n : ℕ} {top : List α} (h : IsTop n ks top) : top.Nodup := by
  refine h.ranked.imp ?_
  rintro a b (hlt | ⟨-, hlt⟩) rfl
  · exact lt_irrefl _ hlt
  · exact lt_irrefl _ hlt

theorem IsTally.take_rank (h : IsTally ks es) (n : ℕ) :
    IsTop n ks (((rank es).take n).map Prod.fst) := by
  have hkeys : ∀ k, k ∈ (rank es).map Prod.fst ↔ k ∈ ks := by
    intro k
    rw [← h.keys, ((List.mergeSort_perm es _).map Prod.fst).mem_iff.symm]
    rfl
  have hranked := h.rank_pairwise
  have hsplit : (rank es).map Prod.fst =
      ((rank es).take n).map Prod.fst ++ ((rank es).drop n).map Prod.fst := by
    rw [← List.map_append, List.take_append_drop]
  rw [hsplit, List.pairwise_append] at hranked
  obtain ⟨htop, -, hleft⟩ := hranked
  refine ⟨?_, ?_, htop, ?_⟩
  · rw [List.length_map, List.length_take, rank, List.length_mergeSort, h.length]
  · intro k hk
    rw [← hkeys, hsplit]
    exact List.mem_append_left _ hk
  · intro k hk hout k' hk'
    rw [← hkeys, hsplit, List.mem_append] at hk
    rcases hleft k' hk' k (hk.resolve_left hout) with hlt | ⟨heq, -⟩
    · exact hlt.le
    · exact heq.ge

end Tally

end Tallies
