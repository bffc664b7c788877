import BoostSystem.BoundedCopies
import BoostSystem.ErrorStore
import Mathlib.Data.Finset.Dedup
import Mathlib.Data.Finset.Card

/-!
# Runs of the error handle store

The ledger of a history of calls keeps what a caller can count: the pairs created, the messages
formatted and the strings interned since the last clear. The store holds what the ledger says, and
every answer is the one that the ledger gives.
-/

namespace BoostSystem

open CString

structure Ledger where
  created : List (Int32 × Int32)
  formatted : ℕ
  interned : List String

namespace Ledger

def empty : Ledger := ⟨[], 0, []⟩

def record (l : Ledger) : StoreCall → Ledger
  | .create value categoryType => { l with created := l.created ++ [(value, categoryType)] }
  | .bulk pairs => { l with created := l.created ++ pairs }
  | .format _ _ => { l with formatted := l.formatted + 1 }
  | .intern message => { l with interned := l.interned ++ [message] }
  | .clear => empty
  | .compare _ _ | .info _ _ _ | .stats => l

/-- The storage sizes are below 2^31. -/
def Fits (l : Ledger) : Prop :=
  l.created.length < 2 ^ 31 ∧ l.formatted < 2 ^ 31 ∧ l.interned.toFinset.card < 2 ^ 31

instance (l : Ledger) : Decidable l.Fits := inferInstanceAs (Decidable (_ ∧ _ ∧ _))

/-- The handle `h` is issued, for a code created from `pair`. -/
def Issued (l : Ledger) (h : Int32) (pair : Int32 × Int32) : Prop :=
  0 ≤ h ∧ l.created[h.toNatClampNeg]? = some pair

/-- The answer that the history calls for. -/
def Answers (l : Ledger) : StoreCall → StoreReply → Prop
  | .create _ _, r => r = .handle (Int32.ofNat l.created.length)
  | .bulk pairs, r =>
    r = .handles ((List.range' l.created.length pairs.length).map Int32.ofNat)
  | .compare h₁ h₂, r =>
    ∃ b, r = .equal b ∧ (b = true ↔ ∃ pair, l.Issued h₁ pair ∧ l.Issued h₂ pair)
  | .format value categoryType, r => r = .text (getMessage value categoryType)
  | .intern _, r => ∃ h, r = .handle h
  | .info h _ _, r => ∃ found, r = .info found ∧ (found.isSome = true ↔ ∃ pair, l.Issued h pair) ∧
      ∀ value categoryType buffer, found = some (value, categoryType, buffer) →
        l.Issued h (value, categoryType)
  | .stats, r => r = .stats (Int32.ofNat l.created.length) (Int32.ofNat l.formatted)
      (Int32.ofNat l.interned.toFinset.card)
  | .clear, r => r = .done

/-- A call does not ask for the message of an issued handle in a buffer of size zero. -/
def Sized (l : Ledger) (call : StoreCall) : Prop :=
  ∀ h buffer, call = .info h buffer 0 → ¬ ∃ pair, l.Issued h pair

/-- What the store holds once the calls of the ledger have been made. -/
structure Represents (l : Ledger) (s : ErrorStore) : Prop where
  errors : s.errorStorage = l.created.map fun pair => BoostErrorCode.ofPair pair.1 pair.2
  messages : s.messageStorage.length = l.formatted
  nodup : s.internedMessages.Nodup
  interned : s.internedMessages.toFinset = l.interned.toFinset

end Ledger

/-- What has been created, formatted and interned since the last clear. -/
def ledger (calls : List StoreCall) : Ledger := Runs.run Ledger.record Ledger.empty calls

theorem emplaceBack_eq {α : Type} {xs : List α} (x : α) (h : xs.length + 1 < 2 ^ 31) :
    emplaceBack xs x = some (xs ++ [x]) := if_pos h

section Spec

variable {l : Ledger} {s : ErrorStore}

theorem Ledger.Represents.length (hs : l.Represents s) :
    s.errorStorage.length = l.created.length := by
  rw [hs.errors, List.length_map]

theorem Ledger.Represents.interned_length (hs : l.Represents s) :
    s.internedMessages.length = l.interned.toFinset.card := by
  rw [← hs.interned, List.toFinset_card_of_nodup hs.nodup]

theorem empty_represents : Ledger.empty.Represents ErrorStore.empty :=
  ⟨rfl, rfl, List.nodup_nil, rfl⟩

theorem ofNat_le_iff {n : ℕ} (hn : n < 2 ^ 31) {h : Int32} (hpos : 0 ≤ h) :
    Int32.ofNat n ≤ h ↔ n ≤ h.toNatClampNeg := by
  have hlow : h.toInt ≥ 0 := Int32.le_iff_toInt_le.mp hpos
  rw [Int32.le_iff_toInt_le, Int32.toInt_ofNat_of_lt hn]
  unfold Int32.toNatClampNeg
  omega

/-- The bound check of a handle is that it has been issued. -/
theorem outOfRange_iff (hs : l.Represents s) (hfits : l.created.length < 2 ^ 31) (h : Int32) :
    s.outOfRange h = false ↔ ∃ pair, l.Issued h pair := by
  unfold ErrorStore.outOfRange Ledger.Issued
  rw [hs.length, Bool.or_eq_false_iff, decide_eq_false_iff_not, decide_eq_false_iff_not,
    Int32.not_lt]
  constructor
  · rintro ⟨hpos, hlt⟩
    rw [ge_iff_le, ofNat_le_iff hfits hpos] at hlt
    exact ⟨_, hpos, List.getElem?_eq_getElem (by omega)⟩
  · rintro ⟨pair, hpos, hget⟩
    obtain ⟨hlt, -⟩ := List.getElem?_eq_some_iff.mp hget
    rw [ge_iff_le, ofNat_le_iff hfits hpos]
    exact ⟨hpos, by omega⟩

theorem getElem?_errorStorage (hs : l.Represents s) {h : Int32} {pair : Int32 × Int32}
    (hissued : l.Issued h pair) :
    s.errorStorage[h.toNatClampNeg]? = some (.ofPair pair.1 pair.2) := by
  rw [hs.errors, List.getElem?_map, hissued.2]
  rfl

theorem wasmCompareErrorCodes_eq (hs : l.Represents s) (hfits : l.created.length < 2 ^ 31)
    (h₁ h₂ : Int32) : ∃ b, s.wasmCompareErrorCodes h₁ h₂ = some b ∧
      (b = true ↔ ∃ pair, l.Issued h₁ pair ∧ l.Issued h₂ pair) := by
  unfold ErrorStore.wasmCompareErrorCodes
  split_ifs with hrange
  · refine ⟨false, rfl, ?_⟩
    simp only [Bool.false_eq_true, false_iff]
    rintro ⟨pair, hissued₁, hissued₂⟩
    have hin₁ := (outOfRange_iff hs hfits h₁).mpr ⟨pair, hissued₁⟩
    have hin₂ := (outOfRange_iff hs hfits h₂).mpr ⟨pair, hissued₂⟩
    rw [hin₁, hin₂] at hrange
    exact nomatch hrange
  · rw [Bool.not_eq_true, Bool.or_eq_false_iff] at hrange
    obtain ⟨pair₁, hissued₁⟩ := (outOfRange_iff hs hfits h₁).mp hrange.1
    obtain ⟨pair₂, hissued₂⟩ := (outOfRange_iff hs hfits h₂).mp hrange.2
    rw [getElem?_errorStorage hs hissued₁, getElem?_errorStorage hs hissued₂]
    refine ⟨_, rfl, ?_⟩
    simp only [BoostErrorCode.ofPair, Bool.and_eq_true, beq_iff_eq]
    constructor
    · rintro ⟨hvalue, hcategory⟩
      have hpair : pair₁ = pair₂ := Prod.ext hvalue hcategory
      exact ⟨pair₁, hissued₁, hpair ▸ hissued₂⟩
    · rintro ⟨pair, hpair₁, hpair₂⟩
      have hsame₁ : pair₁ = pair := Option.some.inj (hissued₁.2.symm.trans hpair₁.2)
      have hsame₂ : pair₂ = pair := Option.some.inj (hissued₂.2.symm.trans hpair₂.2)
      rw [hsame₁, hsame₂]
      exact ⟨rfl, rfl⟩

/-- Only a size of zero, which wraps around, sends the copy past the end of the buffer. -/
theorem copyMessage_zero (message : String) (buffer : Buffer) :
    copyMessage message buffer 0 = none := by
  have hroom : ¬ ((0 : UInt32) - 1).toNat ≤ (0 : UInt32).toNat := by decide
  have hlength : ¬ message.length < (0 : UInt32).toNat := Nat.not_lt_zero _
  rw [copyMessage, if_neg hlength, strncpyInto, if_neg hroom]
  rfl

/-- In every other buffer the copy is bounded. -/
theorem copyMessage_boundedCopy (message : String) (buffer : Buffer) {size : UInt32}
    (hsize : size ≠ 0) : ∃ after, copyMessage message buffer size = some after ∧
      BoundedCopy buffer after size.toNat (cStr message) := by
  have hpos : 0 < size.toNat := by
    rw [Nat.pos_iff_ne_zero]
    intro hzero
    exact hsize (UInt32.toNat_inj.mp hzero)
  have hlast : (size - 1).toNat = size.toNat - 1 :=
    UInt32.toNat_sub_of_le size 1 (UInt32.le_iff_toNat_le.mpr hpos)
  have hlength : (cStr message).length ≤ message.length := by
    rw [← String.length_toList]
    exact (List.takeWhile_sublist _).length_le
  unfold copyMessage
  split_ifs with hfits
  · have hroom : (cStr message).length < size.toNat := by omega
    rw [strcpyInto, if_pos hroom]
    exact ⟨_, rfl, strcpy_boundedCopy _ _ hroom⟩
  · rw [hlast, strncpyInto, if_pos (by omega), Option.bind_eq_bind, Option.bind_some, storeInto,
      if_pos (by omega)]
    exact ⟨_, rfl, strncpy_store_boundedCopy _ _ hpos⟩

theorem wasmGetErrorCodeInfo_of_issued (hs : l.Represents s) (hfits : l.created.length < 2 ^ 31)
    {h : Int32} {pair : Int32 × Int32} (hissued : l.Issued h pair) (buffer : Buffer)
    (size : UInt32) : s.wasmGetErrorCodeInfo h buffer size =
      (copyMessage (getMessage pair.1 pair.2) buffer size).map
        fun buffer => some (pair.1, pair.2, buffer) := by
  have hrange := (outOfRange_iff hs hfits h).mpr ⟨pair, hissued⟩
  unfold ErrorStore.wasmGetErrorCodeInfo
  rw [hrange, if_neg Bool.false_ne_true, getElem?_errorStorage hs hissued, Option.bind_eq_bind,
    Option.bind_some, Option.map_eq_bind]
  rfl

theorem wasmGetErrorCodeInfo_of_not_issued (hs : l.Represents s)
    (hfits : l.created.length < 2 ^ 31) {h : Int32} (hissued : ¬ ∃ pair, l.Issued h pair)
    (buffer : Buffer) (size : UInt32) : s.wasmGetErrorCodeInfo h buffer size = some none := by
  rw [← outOfRange_iff hs hfits h, Bool.not_eq_false] at hissued
  unfold ErrorStore.wasmGetErrorCodeInfo
  rw [hissued, if_pos rfl]

/-- An answer about a handle, unless the message of an issued handle is to go into a buffer of size
zero. -/
theorem wasmGetErrorCodeInfo_cases (hs : l.Represents s) (hfits : l.created.length < 2 ^ 31)
    (h : Int32) (buffer : Buffer) (size : UInt32) :
    (l.Sized (.info h buffer size) ∧ ∃ found, s.wasmGetErrorCodeInfo h buffer size = some found ∧
      l.Answers (.info h buffer size) (.info found)) ∨
    (¬ l.Sized (.info h buffer size) ∧ s.wasmGetErrorCodeInfo h buffer size = none) := by
  by_cases hissued : ∃ pair, l.Issued h pair
  · obtain ⟨pair, hpair⟩ := hissued
    have hinfo := wasmGetErrorCodeInfo_of_issued hs hfits hpair buffer size
    by_cases hsize : size = 0
    · right
      rw [hsize, copyMessage_zero] at hinfo
      rw [hsize]
      exact ⟨fun hsized => hsized h buffer rfl ⟨pair, hpair⟩, hinfo⟩
    · left
      obtain ⟨copied, hcopied, -⟩ :=
        copyMessage_boundedCopy (getMessage pair.1 pair.2) buffer hsize
      rw [hcopied] at hinfo
      refine ⟨?_, _, hinfo, _, rfl, ?_, ?_⟩
      · rintro h' buffer' ⟨⟩
        exact absurd rfl hsize
      · exact iff_of_true rfl ⟨pair, hpair⟩
      · rintro value categoryType buffer' ⟨⟩
        exact hpair
  · have hinfo := wasmGetErrorCodeInfo_of_not_issued hs hfits hissued buffer size
    refine Or.inl ⟨?_, _, hinfo, _, rfl, ?_, nofun⟩
    · rintro h' buffer' ⟨⟩
      exact hissued
    · exact iff_of_false nofun hissued

/-! ### Creation, in bulk and one by one -/

theorem wasmCreateErrorCode_eq (s : ErrorStore) (value categoryType : Int32)
    (hfits : s.errorStorage.length + 1 < 2 ^ 31) : s.wasmCreateErrorCode value categoryType =
      some (Int32.ofNat s.errorStorage.length, { s with
        errorStorage := s.errorStorage ++ [BoostErrorCode.ofPair value categoryType] }) := by
  unfold ErrorStore.wasmCreateErrorCode
  rw [emplaceBack_eq _ hfits, Option.bind_eq_bind, Option.bind_some, List.length_append,
    List.length_singleton, Nat.add_sub_cancel]
  rfl

/-- A bulk call is the single calls in order: the same handles, the same store. -/
theorem wasmCreateErrorCodesBulk_eq_singles (s : ErrorStore) (pairs : List (Int32 × Int32)) :
    (s.wasmCreateErrorCodesBulk pairs).map (fun a => (a.1.map StoreReply.handle, a.2)) =
      Runs.answers ErrorStore.call s (pairs.map fun pair => .create pair.1 pair.2) := by
  induction pairs generalizing s with
  | nil => rfl
  | cons pair pairs ih =>
    obtain ⟨value, categoryType⟩ := pair
    simp only [ErrorStore.wasmCreateErrorCodesBulk, List.map_cons, Runs.answers, ErrorStore.call,
      ErrorStore.wasmCreateErrorCode, Option.bind_eq_bind]
    cases emplaceBack s.errorStorage (BoostErrorCode.ofPair value categoryType) with
    | none => rfl
    | some codes =>
      simp only [Option.bind_some, Option.pure_def, Option.map_some, ← ih]
      cases ErrorStore.wasmCreateErrorCodesBulk { s with errorStorage := codes } pairs with
      | none => rfl
      | some rest => rfl

theorem wasmCreateErrorCodesBulk_eq (s : ErrorStore) (pairs : List (Int32 × Int32))
    (hfits : s.errorStorage.length + pairs.length < 2 ^ 31) :
    s.wasmCreateErrorCodesBulk pairs =
      some ((List.range' s.errorStorage.length pairs.length).map Int32.ofNat, { s with
        errorStorage := s.errorStorage ++
          pairs.map fun pair => BoostErrorCode.ofPair pair.1 pair.2 }) := by
  induction pairs generalizing s with
  | nil => simp [ErrorStore.wasmCreateErrorCodesBulk]
  | cons pair pairs ih =>
    obtain ⟨value, categoryType⟩ := pair
    rw [List.length_cons] at hfits
    have hrest := ih { s with
      errorStorage := s.errorStorage ++ [BoostErrorCode.ofPair value categoryType] } (by
        rw [List.length_append, List.length_singleton]
        omega)
    simp only [List.length_append, List.length_singleton] at hrest
    simp only [ErrorStore.wasmCreateErrorCodesBulk, Option.bind_eq_bind]
    rw [emplaceBack_eq _ (by omega), Option.bind_some, hrest]
    simp [List.range'_succ]

theorem wasmFormatErrorMessage_eq (s : ErrorStore) (value categoryType : Int32)
    (hfits : s.messageStorage.length + 1 < 2 ^ 31) : s.wasmFormatErrorMessage value categoryType =
      some (getMessage value categoryType, { s with
        messageStorage := s.messageStorage ++ [getMessage value categoryType] }) := by
  simp only [ErrorStore.wasmFormatErrorMessage, BoostErrorCode.ofPair, emplaceBack_eq _ hfits,
    Option.bind_eq_bind, Option.bind_some]
  rfl

/-! ### Interning -/

theorem wasmInternErrorMessage_of_mem (s : ErrorStore) {msg : String}
    (hmem : msg ∈ s.internedMessages) : s.wasmInternErrorMessage msg =
      some (Int32.ofNat (s.internedMessages.idxOf msg), s) :=
  if_pos (List.idxOf_lt_length_iff.mpr hmem)

theorem wasmInternErrorMessage_of_not_mem (s : ErrorStore) {msg : String}
    (hmem : msg ∉ s.internedMessages) (hfits : s.internedMessages.length + 1 < 2 ^ 31) :
    s.wasmInternErrorMessage msg = some (Int32.ofNat s.internedMessages.length,
      { s with internedMessages := s.internedMessages ++ [msg] }) := by
  unfold ErrorStore.wasmInternErrorMessage
  rw [if_neg (mt List.idxOf_lt_length_iff.mp hmem), emplaceBack_eq _ hfits, Option.bind_eq_bind,
    Option.bind_some, List.length_append, List.length_singleton, Nat.add_sub_cancel]
  rfl

theorem interned_record (hs : l.Represents s) (msg : String) :
    (l.record (.intern msg)).interned.toFinset = insert msg s.internedMessages.toFinset := by
  rw [hs.interned]
  ext m
  simp [Ledger.record]

theorem wasmInternErrorMessage_eq (hs : l.Represents s) (msg : String)
    (hfits : (l.record (.intern msg)).interned.toFinset.card < 2 ^ 31) :
    ∃ h s', s.wasmInternErrorMessage msg = some (h, s') ∧ (l.record (.intern msg)).Represents s' := by
  have hunion := interned_record hs msg
  by_cases hmem : msg ∈ s.internedMessages
  · refine ⟨_, _, wasmInternErrorMessage_of_mem s hmem, hs.errors, hs.messages, hs.nodup, ?_⟩
    rw [hunion, Finset.insert_eq_of_mem (List.mem_toFinset.mpr hmem)]
  · have hnodup : (s.internedMessages ++ [msg]).Nodup := by
      rw [List.nodup_append]
      refine ⟨hs.nodup, List.nodup_singleton msg, ?_⟩
      rintro m hm m' hm' rfl
      exact hmem (List.mem_singleton.mp hm' ▸ hm)
    have hsame : (s.internedMessages ++ [msg]).toFinset =
        (l.record (.intern msg)).interned.toFinset := by
      rw [hunion]
      ext m
      simp
    have hlength : s.internedMessages.length + 1 =
        (l.record (.intern msg)).interned.toFinset.card := by
      rw [← hsame, List.toFinset_card_of_nodup hnodup, List.length_append, List.length_singleton]
    exact ⟨_, _, wasmInternErrorMessage_of_not_mem s hmem (by omega), hs.errors, hs.messages,
      hnodup, hsame⟩

/-! ### One call -/

/-- A call answers what the ledger says and leaves a store that holds what the ledger says, unless it
asks for the message of an issued handle in a buffer of size zero, when it does not return. -/
theorem call_cases (hs : l.Represents s) (hfits : l.Fits) (call : StoreCall)
    (hnext : (l.record call).Fits) :
    (l.Sized call ∧ ∃ r s', s.call call = some (r, s') ∧ (l.record call).Represents s' ∧
      l.Answers call r) ∨ (¬ l.Sized call ∧ s.call call = none) := by
  cases call with
  | create value categoryType =>
    have hlength : s.errorStorage.length + 1 < 2 ^ 31 := by
      have hcreated := hnext.1
      simp only [Ledger.record, List.length_append, List.length_singleton] at hcreated
      rwa [hs.length]
    have hcall := congrArg (Option.map fun a => (StoreReply.handle a.1, a.2))
      (wasmCreateErrorCode_eq s value categoryType hlength)
    refine Or.inl ⟨nofun, _, _, hcall, ⟨?_, hs.messages, hs.nodup, hs.interned⟩, ?_⟩
    · rw [hs.errors, Ledger.record, List.map_append]
      rfl
    · rw [Ledger.Answers, hs.length]
  | bulk pairs =>
    have hlength : s.errorStorage.length + pairs.length < 2 ^ 31 := by
      have hcreated := hnext.1
      simp only [Ledger.record, List.length_append] at hcreated
      rwa [hs.length]
    have hcall := congrArg (Option.map fun a => (StoreReply.handles a.1, a.2))
      (wasmCreateErrorCodesBulk_eq s pairs hlength)
    refine Or.inl ⟨nofun, _, _, hcall, ⟨?_, hs.messages, hs.nodup, hs.interned⟩, ?_⟩
    · rw [hs.errors, Ledger.record, List.map_append]
    · rw [Ledger.Answers, hs.length]
  | compare h₁ h₂ =>
    obtain ⟨b, hcompare, hb⟩ := wasmCompareErrorCodes_eq hs hfits.1 h₁ h₂
    have hcall := congrArg (Option.map fun b => (StoreReply.equal b, s)) hcompare
    exact Or.inl ⟨nofun, _, _, hcall, hs, b, rfl, hb⟩
  | format value categoryType =>
    have hlength : s.messageStorage.length + 1 < 2 ^ 31 := by
      have hformatted := hnext.2.1
      simp only [Ledger.record] at hformatted
      rwa [hs.messages]
    have hcall := congrArg (Option.map fun a => (StoreReply.text a.1, a.2))
      (wasmFormatErrorMessage_eq s value categoryType hlength)
    refine Or.inl ⟨nofun, _, _, hcall, ⟨hs.errors, ?_, hs.nodup, hs.interned⟩, rfl⟩
    rw [List.length_append, hs.messages]
    rfl
  | intern message =>
    obtain ⟨h, s', hintern, hs'⟩ := wasmInternErrorMessage_eq hs message hnext.2.2
    have hcall := congrArg (Option.map fun a => (StoreReply.handle a.1, a.2)) hintern
    exact Or.inl ⟨nofun, _, _, hcall, hs', h, rfl⟩
  | info h buffer size =>
    rcases wasmGetErrorCodeInfo_cases hs hfits.1 h buffer size with
      ⟨hsized, found, hinfo, hanswers⟩ | ⟨hsized, hinfo⟩
    · have hcall := congrArg (Option.map fun found => (StoreReply.info found, s)) hinfo
      exact Or.inl ⟨hsized, _, _, hcall, hs, hanswers⟩
    · have hcall := congrArg (Option.map fun found => (StoreReply.info found, s)) hinfo
      exact Or.inr ⟨hsized, hcall⟩
  | stats =>
    refine Or.inl ⟨nofun, _, _, rfl, hs, ?_⟩
    rw [Ledger.Answers, ErrorStore.wasmGetStorageStats, hs.length, hs.messages, hs.interned_length]
  | clear => exact Or.inl ⟨nofun, _, _, rfl, empty_represents, rfl⟩

/-! ### Runs -/

/-- Every message of an issued handle is asked for with a buffer of positive size. -/
def SizedFrom (l : Ledger) (calls : List StoreCall) : Prop :=
  ∀ before call after, calls = before ++ call :: after →
    (Runs.run Ledger.record l before).Sized call

def FitsFrom (l : Ledger) (calls : List StoreCall) : Prop :=
  ∀ n ≤ calls.length, (Runs.run Ledger.record l (calls.take n)).Fits

instance (l : Ledger) (calls : List StoreCall) : Decidable (FitsFrom l calls) :=
  inferInstanceAs (Decidable (∀ n ≤ calls.length, (Runs.run Ledger.record l (calls.take n)).Fits))

theorem FitsFrom.head {call : StoreCall} {calls : List StoreCall} (h : FitsFrom l (call :: calls)) :
    l.Fits ∧ (l.record call).Fits ∧ FitsFrom (l.record call) calls := by
  refine ⟨h 0 (Nat.zero_le _), h 1 (by simp), ?_⟩
  intro n hn
  exact h (n + 1) (by simpa using hn)

theorem sizedFrom_cons {call : StoreCall} {calls : List StoreCall} :
    SizedFrom l (call :: calls) ↔ l.Sized call ∧ SizedFrom (l.record call) calls := by
  constructor
  · intro h
    refine ⟨h [] call calls rfl, ?_⟩
    rintro before call' after rfl
    exact h (call :: before) call' after rfl
  · rintro ⟨hhead, htail⟩ before call' after heq
    cases before with
    | nil =>
      obtain ⟨rfl, rfl⟩ := List.cons.inj heq
      exact hhead
    | cons first before =>
      obtain ⟨rfl, rfl⟩ := List.cons.inj heq
      exact htail before call' after rfl

/-- The answers of a run are those of the ledger at each position. -/
def AnswersFrom (l : Ledger) (calls : List StoreCall) (replies : List StoreReply) : Prop :=
  ∀ before call after, calls = before ++ call :: after →
    ∃ r, replies[before.length]? = some r ∧ (Runs.run Ledger.record l before).Answers call r

theorem AnswersFrom.cons {call : StoreCall} {calls : List StoreCall} {r : StoreReply}
    {replies : List StoreReply} (hr : l.Answers call r)
    (hrest : AnswersFrom (l.record call) calls replies) :
    AnswersFrom l (call :: calls) (r :: replies) := by
  intro before call' after heq
  cases before with
  | nil =>
    obtain ⟨rfl, rfl⟩ := List.cons.inj heq
    exact ⟨r, rfl, hr⟩
  | cons first before =>
    obtain ⟨rfl, rfl⟩ := List.cons.inj heq
    obtain ⟨r', hget, hanswers⟩ := hrest before call' after rfl
    exact ⟨r', by simpa using hget, hanswers⟩

theorem run_cases (hs : l.Represents s) (calls : List StoreCall) (hfits : FitsFrom l calls) :
    (SizedFrom l calls ∧ ∃ replies s', Runs.answers ErrorStore.call s calls = some (replies, s') ∧
      (Runs.run Ledger.record l calls).Represents s' ∧ AnswersFrom l calls replies) ∨
    (¬ SizedFrom l calls ∧ Runs.answers ErrorStore.call s calls = none) := by
  induction calls generalizing l s with
  | nil => exact Or.inl ⟨by simp [SizedFrom], [], s, rfl, hs, by simp [AnswersFrom]⟩
  | cons call calls ih =>
    obtain ⟨hnow, hnext, hlater⟩ := hfits.head
    rw [sizedFrom_cons]
    rcases call_cases hs hnow call hnext with ⟨hsized, r, s₁, hcall, hs₁, hr⟩ | ⟨hsized, hcall⟩
    · rcases ih hs₁ hlater with ⟨hrest, replies, s', hreplies, hs', hanswers⟩ | ⟨hrest, hreplies⟩
      · exact Or.inl ⟨⟨hsized, hrest⟩, r :: replies, s',
          Runs.answers_cons_eq_some.mpr ⟨r, s₁, replies, hcall, hreplies, rfl⟩, hs',
          AnswersFrom.cons hr hanswers⟩
      · right
        refine ⟨fun h => hrest h.2, ?_⟩
        rw [Runs.answers, hcall, Option.bind_some, hreplies, Option.map_none]
    · right
      refine ⟨fun h => hsized h.1, ?_⟩
      rw [Runs.answers, hcall, Option.bind_none]

/-- Nothing but a clear takes a created code away. -/
theorem created_prefix (l : Ledger) (calls : List StoreCall) (hclear : ∀ c ∈ calls, c ≠ .clear) :
    l.created <+: (Runs.run Ledger.record l calls).created := by
  induction calls generalizing l with
  | nil => exact List.prefix_rfl
  | cons call calls ih =>
    have hrest := ih (l.record call) fun c hc => hclear c (List.mem_cons_of_mem call hc)
    have hstep : l.created <+: (l.record call).created := by
      cases call with
      | create | bulk => exact List.prefix_append ..
      | clear => exact absurd rfl (hclear _ List.mem_cons_self)
      | compare | format | intern | info | stats => exact List.prefix_rfl
    exact hstep.trans hrest

/-- In a run from any store that returns, a bulk call is worth its single calls. -/
theorem bulk_as_singles {calls before after : List StoreCall} {pairs : List (Int32 × Int32)}
    {replies : List StoreReply} {s' : ErrorStore}
    (hrun : Runs.answers ErrorStore.call s calls = some (replies, s'))
    (hcalls : calls = before ++ .bulk pairs :: after) :
    ∃ earlier handles s₁, replies[before.length]? = some (.handles handles) ∧
      Runs.answers ErrorStore.call s (before ++ [.bulk pairs]) =
        some (earlier ++ [.handles handles], s₁) ∧
      Runs.answers ErrorStore.call s (before ++ pairs.map fun pair => .create pair.1 pair.2) =
        some (earlier ++ handles.map .handle, s₁) := by
  rw [hcalls] at hrun
  obtain ⟨earlier, s₀, rest, hearlier, hrest, hreplies⟩ := Runs.answers_append_eq_some.mp hrun
  obtain ⟨r, s₁, later, hcall, -, hcons⟩ := Runs.answers_cons_eq_some.mp hrest
  obtain ⟨⟨handles, s₂⟩, hbulk, heq⟩ := Option.map_eq_some_iff.mp hcall
  obtain ⟨hr, hs₁⟩ := Prod.mk.inj heq
  have hsingles := wasmCreateErrorCodesBulk_eq_singles s₀ pairs
  rw [hbulk, Option.map_some] at hsingles
  refine ⟨earlier, handles, s₂, ?_, ?_, ?_⟩
  · rw [hreplies, hcons, ← Runs.answers_length hearlier, List.getElem?_append_right le_rfl,
      Nat.sub_self, ← hr]
    rfl
  · rw [Runs.answers_append_eq_some]
    refine ⟨earlier, s₀, [.handles handles], hearlier, ?_, rfl⟩
    rw [Runs.answers_cons_eq_some]
    exact ⟨.handles handles, s₂, [], congrArg (Option.map _) hbulk, rfl, rfl⟩
  · exact Runs.answers_append_eq_some.mpr ⟨earlier, s₀, _, hearlier, hsingles.symm, rfl⟩

/-! ### Runs that return -/

theorem empty_fits : Ledger.empty.Fits := by decide

theorem emplaceBack_eq_some {α : Type} {xs ys : List α} {x : α} (h : emplaceBack xs x = some ys) :
    xs.length + 1 < 2 ^ 31 ∧ ys = xs ++ [x] := by
  unfold emplaceBack at h
  split_ifs at h with hroom
  exact ⟨hroom, (Option.some.inj h).symm⟩

theorem wasmCreateErrorCodesBulk_room {pairs : List (Int32 × Int32)} {a : List Int32 × ErrorStore}
    (hroom : s.errorStorage.length < 2 ^ 31) (h : s.wasmCreateErrorCodesBulk pairs = some a) :
    s.errorStorage.length + pairs.length < 2 ^ 31 := by
  induction pairs generalizing s a with
  | nil => exact hroom
  | cons pair pairs ih =>
    obtain ⟨codes, hcodes, h⟩ := Option.bind_eq_some_iff.mp h
    obtain ⟨hlength, rfl⟩ := emplaceBack_eq_some hcodes
    obtain ⟨rest, hrest, -⟩ := Option.bind_eq_some_iff.mp h
    have hlater := ih (by rwa [List.length_append]) hrest
    rw [List.length_append, List.length_singleton] at hlater
    rw [List.length_cons]
    omega

/-- A call that returns leaves the storage sizes below 2^31. -/
theorem record_fits (hs : l.Represents s) (hfits : l.Fits) {call : StoreCall}
    {a : StoreReply × ErrorStore} (h : s.call call = some a) : (l.record call).Fits := by
  obtain ⟨hcreated, hformatted, hinterned⟩ := hfits
  cases call with
  | create value categoryType =>
    obtain ⟨b, hb, -⟩ := Option.map_eq_some_iff.mp h
    obtain ⟨codes, hcodes, -⟩ := Option.bind_eq_some_iff.mp hb
    obtain ⟨hlength, -⟩ := emplaceBack_eq_some hcodes
    rw [hs.length] at hlength
    refine ⟨?_, hformatted, hinterned⟩
    rwa [Ledger.record, List.length_append, List.length_singleton]
  | bulk pairs =>
    obtain ⟨b, hb, -⟩ := Option.map_eq_some_iff.mp h
    rw [← hs.length] at hcreated
    have hlength := wasmCreateErrorCodesBulk_room hcreated hb
    rw [hs.length] at hlength
    refine ⟨?_, hformatted, hinterned⟩
    rwa [Ledger.record, List.length_append]
  | format value categoryType =>
    obtain ⟨b, hb, -⟩ := Option.map_eq_some_iff.mp h
    obtain ⟨messages, hmessages, -⟩ := Option.bind_eq_some_iff.mp hb
    obtain ⟨hlength, -⟩ := emplaceBack_eq_some hmessages
    rw [hs.messages] at hlength
    exact ⟨hcreated, hlength, hinterned⟩
  | intern message =>
    refine ⟨hcreated, hformatted, ?_⟩
    have hunion := interned_record hs message
    rw [hunion]
    by_cases hmem : message ∈ s.internedMessages
    · rwa [Finset.insert_eq_of_mem (List.mem_toFinset.mpr hmem), hs.interned]
    · obtain ⟨b, hb, -⟩ := Option.map_eq_some_iff.mp h
      rw [ErrorStore.wasmInternErrorMessage, if_neg (mt List.idxOf_lt_length_iff.mp hmem)] at hb
      obtain ⟨messages, hmessages, -⟩ := Option.bind_eq_some_iff.mp hb
      obtain ⟨hlength, -⟩ := emplaceBack_eq_some hmessages
      rw [Finset.card_insert_of_notMem (mt List.mem_toFinset.mp hmem),
        List.toFinset_card_of_nodup hs.nodup]
      exact hlength
  | clear => exact empty_fits
  | compare | info | stats => exact ⟨hcreated, hformatted, hinterned⟩

/-- A run that returns leaves a store that holds what the ledger says, within the storage sizes. -/
theorem represents_of_answers {calls : List StoreCall} {replies : List StoreReply}
    {s' : ErrorStore} (hs : l.Represents s) (hfits : l.Fits)
    (h : Runs.answers ErrorStore.call s calls = some (replies, s')) :
    (Runs.run Ledger.record l calls).Represents s' ∧ (Runs.run Ledger.record l calls).Fits := by
  induction calls generalizing l s replies with
  | nil =>
    obtain ⟨-, rfl⟩ := Prod.mk.inj (Option.some.inj h)
    exact ⟨hs, hfits⟩
  | cons call calls ih =>
    obtain ⟨r, s₁, rest, hcall, hrest, -⟩ := Runs.answers_cons_eq_some.mp h
    have hnext := record_fits hs hfits hcall
    rcases call_cases hs hfits call hnext with ⟨-, r', s₂, hcall', hs₁, -⟩ | ⟨-, hnone⟩
    · rw [hcall] at hcall'
      obtain ⟨-, rfl⟩ := Prod.mk.inj (Option.some.inj hcall')
      exact ih hs₁ hnext hrest
    · rw [hcall] at hnone
      exact nomatch hnone

end Spec

/-- Every answer is the one of the ledger before the call, records stay as they are until the next
clear, and bulk creation answers and ends as its pairs created one by one. -/
structure BooksKept (calls : List StoreCall) (replies : List StoreReply) (s : ErrorStore) :
    Prop where
  answers : AnswersFrom Ledger.empty calls replies
  issued : s.errorStorage.length = (ledger calls).created.length
  kept : ∀ before after, calls = before ++ after → (∀ c ∈ after, c ≠ .clear) →
    ∀ (n : ℕ) (pair : Int32 × Int32), (ledger before).created[n]? = some pair →
      s.errorStorage[n]? = some (.ofPair pair.1 pair.2)
  bulk : ∀ before pairs after, calls = before ++ .bulk pairs :: after →
    ∃ earlier handles s₁, replies[before.length]? = some (.handles handles) ∧
      Runs.answers ErrorStore.call .empty (before ++ [.bulk pairs]) =
        some (earlier ++ [.handles handles], s₁) ∧
      Runs.answers ErrorStore.call .empty (before ++ pairs.map fun pair => .create pair.1 pair.2) =
        some (earlier ++ handles.map .handle, s₁)

/-- Every run of calls within the storage sizes returns and keeps the books exactly, unless it asks
for the message of an issued handle with a buffer size of zero. -/
theorem store_runs_iff (calls : List StoreCall) (hfits : FitsFrom Ledger.empty calls) :
    (∃ replies s, Runs.answers ErrorStore.call .empty calls = some (replies, s) ∧
      BooksKept calls replies s) ↔ SizedFrom Ledger.empty calls := by
  rcases run_cases empty_represents calls hfits with
    ⟨hsized, replies, s, hrun, hs, hanswers⟩ | ⟨hsized, hrun⟩
  · refine iff_of_true ⟨replies, s, hrun, hanswers, hs.length, ?_, ?_⟩ hsized
    · intro before after hcalls hclear n pair hpair
      have hprefix : (ledger before).created <+: (ledger calls).created := by
        have hlater := created_prefix (ledger before) after hclear
        rwa [ledger, ← Runs.run_append, ← hcalls] at hlater
      have hkept : (ledger calls).created[n]? = some pair := by
        obtain ⟨rest, hrest⟩ := hprefix
        rw [← hrest]
        obtain ⟨hlt, -⟩ := List.getElem?_eq_some_iff.mp hpair
        rwa [List.getElem?_append_left hlt]
      have herrors : s.errorStorage =
          (ledger calls).created.map fun pair => BoostErrorCode.ofPair pair.1 pair.2 := hs.errors
      rw [herrors, List.getElem?_map, hkept]
      rfl
    · intro before pairs after hcalls
      exact bulk_as_singles hrun hcalls
  · refine iff_of_false ?_ hsized
    rintro ⟨replies, s, hreturns, -⟩
    rw [hrun] at hreturns
    exact nomatch hreturns

def sampleCalls : List StoreCall :=
  [.create 2 0, .bulk [(2, 0), (3, 1)], .compare 0 1, .format 5 1, .intern "retry",
   .info 1 (fun _ => nul) 64, .stats, .clear, .create 7 0]

theorem store_runs_iff_sample :
    (∃ replies s, Runs.answers ErrorStore.call .empty sampleCalls = some (replies, s) ∧
      BooksKept sampleCalls replies s) ↔ SizedFrom Ledger.empty sampleCalls :=
  store_runs_iff sampleCalls (by decide)

/-- A code is created, and its message asked for with a size of zero. -/
theorem info_of_size_zero :
    (ledger [.create 2 0]).Issued 0 (2, 0) ∧
      ¬ ∃ replies s, Runs.answers ErrorStore.call .empty
          [.create 2 0, .info 0 (fun _ => nul) 0] = some (replies, s) ∧
        BooksKept [.create 2 0, .info 0 (fun _ => nul) 0] replies s := by
  refine ⟨⟨by decide, rfl⟩, ?_⟩
  rintro ⟨replies, s, hrun, -⟩
  have hnone : Runs.answers ErrorStore.call .empty [.create 2 0, .info 0 (fun _ => nul) 0] =
      none := rfl
  rw [hnone] at hrun
  exact nomatch hrun

end BoostSystem
