import BoostSystem.BoostApi

/-!
# What the allocator promises

The contract of `malloc` on a memory that may grow, and an allocator that keeps it: blocks are put
above every live block, and memory grows by whole pages when it has to.
-/

namespace BoostSystem.Api

open LinearMemory

/-- No operation throws of itself. -/
def Env.Quiet (env : Env) : Prop := ∀ t, env.fails t = false

/-- Blocks are aligned and lie in memory, and memory that has grown is in a new buffer. -/
structure Response.Legit (r : Response) (h : Heap) (size : ℕ) : Prop where
  wellFormed : r.heap.WellFormed
  same : r.heap.generation = h.generation → r.heap.size = h.size
  aligned : 4 ∣ r.ptr
  fits : r.ptr ≠ 0 → r.ptr + size ≤ r.heap.size

/-- A block is new and apart from the live ones, which keep their contents. -/
structure Response.Lawful (r : Response) (s : ApiState) (size : ℕ) : Prop
    extends r.Legit s.heap size where
  apart : r.ptr ≠ 0 → ∀ b ∈ s.live, Apart b.1 b.2 r.ptr size
  keeps : ∀ b ∈ s.live, ∀ k < b.2, b.1 + k < s.heap.size →
    r.heap.memory.cell (b.1 + k) = s.heap.memory.cell (b.1 + k)

/-- No block is given out twice. -/
def Env.Fresh (env : Env) : Prop :=
  ∀ s size, (env.malloc s size).ptr ≠ 0 → ∀ b ∈ s.live, b.1 ≠ (env.malloc s size).ptr

def Env.Lawful (env : Env) : Prop :=
  ∀ (s : ApiState) size, s.heap.WellFormed → (env.malloc s size).Lawful s size

section Heap

variable {h : Heap}

theorem Heap.WellFormed.size_le (hwell : h.WellFormed) : h.size ≤ 2 ^ 32 := by
  by_contra hlarge
  have hcell := (hwell (2 ^ 32)).mpr (by omega)
  rw [h.memory.bounded _ le_rfl] at hcell
  exact nomatch hcell

theorem Heap.WellFormed.accessible (hwell : h.WellFormed) {p n : ℕ} (hroom : p + n ≤ h.size) :
    h.memory.Accessible p n := by
  intro k hk
  exact (hwell (p + k)).mpr (by omega)

theorem Heap.zeroes_wellFormed {size : ℕ} (hsize : size ≤ 2 ^ 32) :
    (Heap.zeroes size hsize).WellFormed := by
  intro p
  unfold Heap.zeroes Memory.ofSize
  dsimp only
  split_ifs with hp
  · exact iff_of_true rfl hp
  · exact iff_of_false nofun hp

theorem Heap.grow_bounded (h : Heap) {size : ℕ} (hsize : size ≤ 2 ^ 32) {p : ℕ} (hp : 2 ^ 32 ≤ p) :
    (h.memory.cell p).or (if p < size then some 0 else none) = none := by
  rw [h.memory.bounded p hp, if_neg (by omega)]
  rfl

/-- The heap in a new buffer of `size` bytes. -/
def Heap.grow (h : Heap) (size : ℕ) (hsize : size ≤ 2 ^ 32) : Heap where
  memory :=
    { cell := fun p => (h.memory.cell p).or (if p < size then some 0 else none)
      bounded := fun _ => h.grow_bounded hsize }
  size := size
  generation := h.generation + 1

theorem Heap.grow_cell_of_lt (hwell : h.WellFormed) {size p : ℕ} (hsize : size ≤ 2 ^ 32)
    (hp : p < h.size) : (h.grow size hsize).memory.cell p = h.memory.cell p := by
  obtain ⟨b, hb⟩ := Option.isSome_iff_exists.mp ((hwell p).mpr hp)
  simp [Heap.grow, hb]

theorem Heap.grow_wellFormed (hwell : h.WellFormed) {size : ℕ} (hsize : size ≤ 2 ^ 32)
    (hgrows : h.size ≤ size) : (h.grow size hsize).WellFormed := by
  intro p
  by_cases hp : p < h.size
  · rw [Heap.grow_cell_of_lt hwell hsize hp]
    exact iff_of_true ((hwell p).mpr hp) (Nat.lt_of_lt_of_le hp hgrows)
  · have hcell : h.memory.cell p = none := by
      rw [← Option.not_isSome_iff_eq_none, hwell p]
      exact hp
    simp [Heap.grow, hcell]

end Heap

/-! ### A bump allocator -/

/-- The end of the highest block. -/
def blocksEnd : List (ℕ × ℕ) → ℕ
  | [] => 0
  | b :: live => max (b.1 + b.2) (blocksEnd live)

theorem le_blocksEnd {live : List (ℕ × ℕ)} {b : ℕ × ℕ} (hb : b ∈ live) :
    b.1 + b.2 ≤ blocksEnd live := by
  induction live with
  | nil => exact nomatch hb
  | cons first live ih =>
    rcases List.mem_cons.mp hb with rfl | hrest
    · exact Nat.le_max_left _ _
    · exact (ih hrest).trans (Nat.le_max_right _ _)

def bumpPtr (live : List (ℕ × ℕ)) : ℕ := 16 * (blocksEnd live / 16 + 1)

theorem blocksEnd_lt_bumpPtr (live : List (ℕ × ℕ)) : blocksEnd live < bumpPtr live := by
  unfold bumpPtr
  omega

/-- `n` bytes in whole pages. -/
def pages (n : ℕ) : ℕ := (n + 65535) / 65536 * 65536

def bump (s : ApiState) (size : ℕ) : Response :=
  if bumpPtr s.live + size ≤ s.heap.size then ⟨bumpPtr s.live, s.heap⟩
  else if hsize : pages (bumpPtr s.live + size) ≤ 2 ^ 32 then
    ⟨bumpPtr s.live, s.heap.grow (pages (bumpPtr s.live + size)) hsize⟩
  else ⟨0, s.heap⟩

def bumpEnv (simd128 : Bool) (fails : ℕ → Bool) : Env where
  simd128 := simd128
  fails := fails
  malloc := bump
  free s _ := s.heap

theorem bump_ptr (s : ApiState) (size : ℕ) :
    (bump s size).ptr = bumpPtr s.live ∨ (bump s size).ptr = 0 := by
  unfold bump
  split_ifs
  · exact Or.inl rfl
  · exact Or.inl rfl
  · exact Or.inr rfl

theorem bump_of_grows {s : ApiState} {size : ℕ} (hfull : s.heap.size < bumpPtr s.live + size)
    (hsize : pages (bumpPtr s.live + size) ≤ 2 ^ 32) :
    bump s size = ⟨bumpPtr s.live, s.heap.grow (pages (bumpPtr s.live + size)) hsize⟩ := by
  rw [bump, if_neg (by omega), dif_pos hsize]

theorem bumpEnv_fresh (simd128 : Bool) (fails : ℕ → Bool) : (bumpEnv simd128 fails).Fresh := by
  intro s size hptr b hb heq
  have hle := le_blocksEnd hb
  have hlt := blocksEnd_lt_bumpPtr s.live
  have hbump : (bump s size).ptr = bumpPtr s.live := (bump_ptr s size).resolve_right hptr
  have hsame : b.1 = (bump s size).ptr := heq
  omega

theorem bump_legit {s : ApiState} (hwell : s.heap.WellFormed) (size : ℕ) :
    (bump s size).Legit s.heap size := by
  have haligned : 4 ∣ bumpPtr s.live := by
    unfold bumpPtr
    omega
  unfold bump
  split_ifs with hroom hsize
  · exact ⟨hwell, fun _ => rfl, haligned, fun _ => hroom⟩
  · have hpages : bumpPtr s.live + size ≤ pages (bumpPtr s.live + size) := by
      unfold pages
      omega
    refine ⟨Heap.grow_wellFormed hwell hsize (by omega), ?_, haligned, fun _ => hpages⟩
    intro hgeneration
    exact absurd hgeneration (Nat.succ_ne_self _)
  · exact ⟨hwell, fun _ => rfl, ⟨0, rfl⟩, fun h => absurd rfl h⟩

theorem bump_cell_of_lt {s : ApiState} (hwell : s.heap.WellFormed) (size : ℕ) {p : ℕ}
    (hp : p < s.heap.size) : (bump s size).heap.memory.cell p = s.heap.memory.cell p := by
  unfold bump
  split_ifs with hroom hsize
  · rfl
  · exact Heap.grow_cell_of_lt hwell hsize hp
  · rfl

theorem bumpEnv_lawful (simd128 : Bool) (fails : ℕ → Bool) : (bumpEnv simd128 fails).Lawful := by
  intro s size hwell
  refine ⟨bump_legit hwell size, ?_, ?_⟩
  · intro hptr b hb
    have hbump : (bump s size).ptr = bumpPtr s.live := (bump_ptr s size).resolve_right hptr
    have hle := le_blocksEnd hb
    have hlt := blocksEnd_lt_bumpPtr s.live
    have happart : b.1 + b.2 ≤ (bump s size).ptr := by omega
    exact Or.inl happart
  · intro b _ k _ hlt
    exact bump_cell_of_lt hwell size hlt

end BoostSystem.Api
