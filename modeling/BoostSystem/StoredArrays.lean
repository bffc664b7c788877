import BoostSystem.CopyArray

/-!
# Arrays in live blocks

An array that has been copied stays where it is, whatever is allocated and copied after it, and what a
kernel writes to a block of results is what is read back.
-/

namespace BoostSystem.Api

open LinearMemory Scripts

/-- The words are in a live block at `p`. -/
structure Stored (s : ApiState) (p : ℕ) (words : List Int32) : Prop where
  live : (p, 4 * words.length) ∈ s.live
  int32s : s.heap.memory.Int32s p words.length fun i => words.getD i 0

section Blocks

variable {env : Env} {s : ApiState} {p : ℕ} {words : List Int32}

theorem request_lawful (hlawful : env.Lawful) (hwell : s.heap.WellFormed) (size : ℕ) :
    (request env s size).Lawful s.tick (size % 2 ^ 32) := hlawful s.tick _ hwell

theorem mem_accept_live {b : ℕ × ℕ} (hb : b ∈ s.live) (r : Response) (size : ℕ) :
    b ∈ (s.accept r size).live := by
  unfold ApiState.accept
  dsimp only
  split_ifs
  · exact hb
  · exact List.mem_cons_of_mem _ hb

theorem Stored.allocated (h : Stored s p words) (hlawful : env.Lawful)
    (hwell : s.heap.WellFormed) (size : ℕ) : Stored (allocated env s size) p words where
  live := mem_accept_live (s := s.tick) h.live _ _
  int32s := by
    apply h.int32s.congr
    intro k hk
    have hlt : p + k < s.heap.size := (hwell _).mp (h.int32s.accessible k hk)
    exact (request_lawful hlawful hwell size).keeps _ h.live k hk hlt

theorem Stored.apart (h : Stored s p words) (hlawful : env.Lawful) (hwell : s.heap.WellFormed)
    {size : ℕ} (hptr : (request env s size).ptr ≠ 0) :
    Apart p (4 * words.length) (request env s size).ptr (size % 2 ^ 32) :=
  (request_lawful hlawful hwell size).apart hptr _ h.live

theorem Heap.WellFormed.withMemory_write (hwell : s.heap.WellFormed) (q n : ℕ) (f : ℕ → UInt8) :
    (s.withMemory (s.heap.memory.write q n f)).heap.WellFormed := by
  intro a
  have hcell := hwell a
  rw [← Memory.isSome_write s.heap.memory q n f a] at hcell
  exact hcell

end Blocks

section Copies

variable {env : Env} {s : ApiState} {p : ℕ} {words : List Int32} {array : List ℤ}

theorem copied_wellFormed (hlawful : env.Lawful) (hwell : s.heap.WellFormed) :
    (copied env s array).heap.WellFormed := by
  have hrequest := request_lawful hlawful (s := s.tick) hwell (4 * array.length)
  exact hrequest.wellFormed.withMemory_write (s := (copyAllocated env s array).tick) _ _ _

theorem Stored.copied (h : Stored s p words) (hlawful : env.Lawful) (hwell : s.heap.WellFormed)
    (hptr : (copyRequest env s array).ptr ≠ 0) (hlength : 4 * array.length < 2 ^ 32) :
    Stored (copied env s array) p words := by
  have htick : Stored s.tick p words := ⟨h.live, h.int32s⟩
  have hallocated := htick.allocated hlawful hwell (4 * array.length)
  have hrequest := request_lawful hlawful (s := s.tick) hwell (4 * array.length)
  have happart := htick.apart hlawful hwell hptr
  rw [Nat.mod_eq_of_lt hlength] at happart
  refine ⟨hallocated.live, ?_⟩
  rw [copied_memory hrequest.aligned]
  apply hallocated.int32s.setInt32s
  rwa [List.length_map]

/-- The array is in the block that it has been copied to. -/
theorem stored_copied (hlawful : env.Lawful) (hwell : s.heap.WellFormed)
    (hptr : (copyRequest env s array).ptr ≠ 0) (hlength : 4 * array.length < 2 ^ 32) :
    Stored (Api.copied env s array) (copyRequest env s array).ptr (array.map toInt32) := by
  have hrequest := request_lawful hlawful (s := s.tick) hwell (4 * array.length)
  refine ⟨?_, (copied_delivers hrequest.toLegit hptr hlength).1⟩
  have hlive : (Api.copied env s array).live =
      ((copyRequest env s array).ptr, 4 * array.length % 2 ^ 32) :: s.live := if_neg hptr
  rw [hlive, Nat.mod_eq_of_lt hlength, List.length_map]
  exact List.mem_cons_self

end Copies

/-! ### Kernels and results -/

section Kernels

variable {env : Env} {s : ApiState}

theorem callKernel_of_quiet {α : Type} (hquiet : env.Quiet) {kernel : Memory → Option (α × Memory)}
    {a : α} {m : Memory} (h : kernel s.heap.memory = some (a, m)) :
    callKernel env kernel s = (.ok a, s.tick.withMemory m) := by
  have hkernel : kernel s.tick.heap.memory = some (a, m) := h
  rw [callKernel, Script.bind_of_ok (point_of_passes (hquiet _)),
    Script.bind_of_ok (Script.get_apply _)]
  simp only [hkernel]
  rfl

theorem readBools_of_quiet (hquiet : env.Quiet) {ptr count : ℕ}
    (hroom : ptr + count ≤ s.heap.size) : readBools env ptr count s =
      (.ok ((List.range count).map fun i => (s.heap.memory.cell (ptr + i)).getD 0 != 0), s.tick) := by
  have hfits : ¬ ptr + count > s.tick.heap.size := Nat.not_lt.mpr hroom
  rw [readBools, Script.bind_of_ok (point_of_passes (hquiet _)),
    Script.bind_of_ok (Script.get_apply _), if_neg hfits]
  rfl

/-- A kernel that sets a block of Booleans, and the read that follows it. -/
theorem kernel_then_read (hquiet : env.Quiet) (hwell : s.heap.WellFormed) {ptr count : ℕ}
    (hroom : ptr + count ≤ s.heap.size) {kernel : Memory → Option Memory} {v : ℕ → Bool}
    (h : kernel s.heap.memory = some (s.heap.memory.setBools ptr count v)) :
    ∃ s', (do
      callKernel env fun m => (kernel m).map ((), ·)
      readBools env ptr count : Js (List Bool)) s = (.ok ((List.range count).map v), s') := by
  have hkernel : (kernel s.heap.memory).map (fun m => ((), m)) =
      some ((), s.heap.memory.setBools ptr count v) := by
    rw [h, Option.map_some]
  have hread : (List.range count).map (fun i =>
      ((s.tick.withMemory (s.heap.memory.setBools ptr count v)).heap.memory.cell
        (ptr + i)).getD 0 != 0) = (List.range count).map v := by
    apply List.map_congr_left
    intro i hi
    have hcell := Memory.write_cell_of_accessible (fun k => if v k then 1 else 0)
      (hwell.accessible hroom) (List.mem_range.mp hi)
    have hsame : (s.tick.withMemory (s.heap.memory.setBools ptr count v)).heap.memory.cell
      (ptr + i) = some (if v i then 1 else 0) := hcell
    rw [hsame]
    cases v i with
    | true => rfl
    | false => rfl
  have hreads : ∃ s', readBools env ptr count
      (s.tick.withMemory (s.heap.memory.setBools ptr count v)) =
        (.ok ((List.range count).map v), s') := by
    rw [← hread]
    exact ⟨_, readBools_of_quiet hquiet hroom⟩
  obtain ⟨s', hs'⟩ := hreads
  exact ⟨s', (Script.bind_of_ok (callKernel_of_quiet hquiet hkernel) _).trans hs'⟩

end Kernels

end BoostSystem.Api
