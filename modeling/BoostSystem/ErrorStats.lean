import BoostSystem.CompareCodes
import BoostSystem.Tallies

/-!
# Error statistics

One loop counts the categories and tallies the messages; the five first entries of the ranked tally
are looked up in the list again.
-/

namespace BoostSystem.Api

open Scripts Tallies

structure ErrorStats where
  total : ℕ
  byCategory : ErrorCategory → ℕ
  mostCommon : List ErrorCode

/-- `byCategory[ category ]++`. -/
def countCategory (byCategory : ErrorCategory → ℕ) (category : ErrorCategory) :
    ErrorCategory → ℕ :=
  fun c => if c = category then byCategory c + 1 else byCategory c

/-- One round of the loop over the codes. -/
def countCode (counts : (ErrorCategory → ℕ) × List (String × ℕ)) (code : ErrorCode) :
    (ErrorCategory → ℕ) × List (String × ℕ) :=
  (countCategory counts.1 code.category, count counts.2 code.message)

def getErrorStats (codes : List ErrorCode) : Js ErrorStats := do
  ensureInitialized
  let (byCategory, messageCounts) := codes.foldl countCode (fun _ => 0, [])
  let mostCommon := (((rank messageCounts).take 5).map fun entry =>
    codes.find? (·.message == entry.1)).filterMap id
  return ⟨codes.length, byCategory, mostCommon⟩

/-! ### The loop -/

/-- The counts after a list of codes. -/
structure Counted (codes : List ErrorCode) (counts : (ErrorCategory → ℕ) × List (String × ℕ)) :
    Prop where
  byCategory : ∀ c, counts.1 c = codes.countP (·.category == c)
  messages : IsTally (codes.map ErrorCode.message) counts.2

theorem Counted.append {codes : List ErrorCode} {counts : (ErrorCategory → ℕ) × List (String × ℕ)}
    (h : Counted codes counts) (code : ErrorCode) :
    Counted (codes ++ [code]) (countCode counts code) := by
  constructor
  · intro c
    rw [List.countP_append, List.countP_singleton, ← h.byCategory]
    simp only [countCode, countCategory, beq_iff_eq, eq_comm (a := c)]
    split_ifs with hc
    · rfl
    · rfl
  · rw [List.map_append, List.map_singleton]
    exact h.messages.append code.message

theorem counted_foldl (codes : List ErrorCode) :
    Counted codes (codes.foldl countCode (fun _ => 0, [])) := by
  induction codes using List.reverseRecOn with
  | nil => exact ⟨fun _ => rfl, isTally_nil⟩
  | append_singleton codes code ih =>
    rw [List.foldl_append]
    exact ih.append code

/-- Every code is of one of the five categories. -/
theorem countP_categories (codes : List ErrorCode) :
    codes.countP (·.category == .unknown) + codes.countP (·.category == .system) +
      codes.countP (·.category == .generic) + codes.countP (·.category == .network) +
      codes.countP (·.category == .custom) = codes.length := by
  induction codes with
  | nil => rfl
  | cons code codes ih =>
    simp only [List.countP_cons, List.length_cons]
    cases code.category with
    | unknown | system | generic | network | custom =>
      simp only [beq_iff_eq, reduceCtorEq, if_true, if_false]
      omega

/-! ### The lookup -/

theorem message_of_find {codes : List ErrorCode} {message : String} {code : ErrorCode}
    (h : codes.find? (·.message == message) = some code) : code.message = message := by
  simpa only [beq_iff_eq] using List.find?_some h

/-- A message of the list finds the first code that has it. -/
theorem find_message {codes : List ErrorCode} {message : String}
    (h : message ∈ codes.map ErrorCode.message) : ∃ code,
      codes.find? (·.message == message) = some code ∧ code.message = message := by
  obtain ⟨code, hcode, rfl⟩ := List.mem_map.mp h
  cases hfind : codes.find? (·.message == code.message) with
  | none => exact absurd (beq_self_eq_true _) (List.find?_eq_none.mp hfind code hcode)
  | some first => exact ⟨first, rfl, message_of_find hfind⟩

theorem map_message_found {codes : List ErrorCode} {entries : List (String × ℕ)}
    (h : ∀ message ∈ entries.map Prod.fst, message ∈ codes.map ErrorCode.message) :
    ((entries.map fun entry => codes.find? (·.message == entry.1)).filterMap id).map
      ErrorCode.message = entries.map Prod.fst := by
  induction entries with
  | nil => rfl
  | cons entry entries ih =>
    rw [List.map_cons, List.forall_mem_cons] at h
    obtain ⟨code, hfind, hmessage⟩ := find_message h.1
    rw [List.map_cons, hfind, List.filterMap_cons_some (f := id) rfl, List.map_cons, ih h.2,
      hmessage, List.map_cons]

theorem find_of_mem_found {codes : List ErrorCode} {entries : List (String × ℕ)} {code : ErrorCode}
    (h : code ∈ (entries.map fun entry => codes.find? (·.message == entry.1)).filterMap id) :
    codes.find? (·.message == code.message) = some code := by
  obtain ⟨found, hfound, heq⟩ := List.mem_filterMap.mp h
  obtain ⟨entry, -, rfl⟩ := List.mem_map.mp hfound
  have hfind : codes.find? (·.message == entry.1) = some code := heq
  rwa [message_of_find hfind]

/-! ### The statistics -/

/-- The number of codes that have the message. -/
def occurrences (codes : List ErrorCode) (message : String) : ℕ :=
  codes.countP (·.message == message)

/-- Where the message occurs first. -/
def firstIndex (codes : List ErrorCode) (message : String) : ℕ :=
  codes.findIdx (·.message == message)

/-- An exact tally and the five most frequent messages. -/
structure ExactStats (codes : List ErrorCode) (stats : ErrorStats) : Prop where
  total : stats.total = codes.length
  byCategory : ∀ c, stats.byCategory c = codes.countP (·.category == c)
  sum : stats.byCategory .unknown + stats.byCategory .system + stats.byCategory .generic +
    stats.byCategory .network + stats.byCategory .custom = stats.total
  length : stats.mostCommon.length = min 5 (codes.map ErrorCode.message).toFinset.card
  distinct : (stats.mostCommon.map ErrorCode.message).Nodup
  first : ∀ code ∈ stats.mostCommon, codes.find? (·.message == code.message) = some code
  ranked : stats.mostCommon.Pairwise fun a b =>
    occurrences codes b.message < occurrences codes a.message ∨
      occurrences codes a.message = occurrences codes b.message ∧
        firstIndex codes a.message < firstIndex codes b.message
  maximal : ∀ code ∈ codes, code.message ∉ stats.mostCommon.map ErrorCode.message →
    ∀ common ∈ stats.mostCommon,
      occurrences codes code.message ≤ occurrences codes common.message

theorem occurrences_eq_count (codes : List ErrorCode) (message : String) :
    occurrences codes message = (codes.map ErrorCode.message).count message := by
  rw [occurrences, List.count, List.countP_map]
  rfl

theorem firstIndex_eq_idxOf (codes : List ErrorCode) (message : String) :
    firstIndex codes message = (codes.map ErrorCode.message).idxOf message := by
  rw [firstIndex, List.idxOf, List.findIdx_map]
  rfl

/-- The statistics are an exact tally, and the five most common errors are right. -/
theorem error_stats_exact (s : ApiState) (hinit : s.initialized = true) (codes : List ErrorCode) :
    ∃ stats, getErrorStats codes s = (.ok stats, s) ∧ ExactStats codes stats := by
  obtain ⟨hcategories, hmessages⟩ := counted_foldl codes
  have htop := hmessages.take_rank 5
  have hmostCommon := map_message_found htop.mem
  refine ⟨_, Script.bind_of_ok (ensureInitialized_of_ready hinit) _, rfl, hcategories, ?_, ?_, ?_,
    fun code hcode => find_of_mem_found hcode, ?_, ?_⟩
  · simp only [hcategories]
    exact countP_categories codes
  · rw [← htop.length, ← hmostCommon, List.length_map]
  · rw [hmostCommon]
    exact htop.nodup
  · have hranked := htop.ranked
    rw [← hmostCommon, List.pairwise_map] at hranked
    simp only [occurrences_eq_count, firstIndex_eq_idxOf]
    exact hranked
  · intro code hcode hout common hcommon
    rw [hmostCommon] at hout
    rw [occurrences_eq_count, occurrences_eq_count]
    apply htop.maximal code.message (List.mem_map_of_mem hcode) hout
    rw [← hmostCommon]
    exact List.mem_map_of_mem hcommon

theorem error_stats_exact_two :
    ∃ stats, getErrorStats [hundred .system, hundred .network] (.start (.zeroes 0 (by decide))) =
        (.ok stats, .start (.zeroes 0 (by decide))) ∧
      ExactStats [hundred .system, hundred .network] stats :=
  error_stats_exact _ rfl _

end BoostSystem.Api
