import BoostSystem.CompareCodes
import BoostSystem.ErrorInfo
import BoostSystem.InternTable
import BoostSystem.Simulations

/-!
# The standalone store beside the simple one

`wasm/boost_system_standalone.cpp` exports the functions of `wasm/boost_system_simple.cpp` over codes
that refer to one of two category objects. The two modules are given the same calls. They issue the
same handles, and their answers differ exactly where a category type that is neither 0 nor 1, or a text
that the tables do not share, shows through.
-/

namespace BoostSystem

open CString

/-! ### What the implementations share -/

/-- The search of `intern_error_message`, and the string added behind the others. -/
def internMessage (table : List String) (msg : String) : Option (Int32 × List String) :=
  if table.idxOf msg < table.length then some (Int32.ofNat (table.idxOf msg), table)
  else do
    let messages ← emplaceBack table msg
    return (Int32.ofNat (messages.length - 1), messages)

/-- `get_interned_message`. -/
def internedMessage (table : List String) (handle : Int32) : Option (Option String) :=
  if decide (handle ≥ 0) && decide (handle < Int32.ofNat table.length) then do
    let message ← table[handle.toNatClampNeg]?
    return some message
  else some none

theorem wasmInternErrorMessage_eq_internMessage (s : ErrorStore) (msg : String) :
    s.wasmInternErrorMessage msg = (internMessage s.internedMessages msg).map fun a =>
      (a.1, { s with internedMessages := a.2 }) := by
  unfold ErrorStore.wasmInternErrorMessage internMessage
  split_ifs
  · rfl
  · cases emplaceBack s.internedMessages msg with
    | none => rfl
    | some messages => rfl

theorem wasmGetInternedMessage_eq_internedMessage (s : ErrorStore) (handle : Int32) :
    s.wasmGetInternedMessage handle = internedMessage s.internedMessages handle := rfl

inductive StoreExport where
  | create (value categoryType : Int32)
  | bulk (pairs : List (Int32 × Int32))
  | compare (handle1 handle2 : Int32)
  | format (value categoryType : Int32)
  | intern (message : String)
  | interned (handle : Int32)
  | categoryName (categoryType : Int32)
  | stats
  | clear

inductive ExportReply where
  | handle (h : Int32)
  | handles (hs : List Int32)
  | equal (b : Bool)
  | text (message : String)
  | interned (message : Option String)
  | stats (errorCount messageCount internedCount : Int32)
  | done
deriving DecidableEq

def ErrorStore.answer (s : ErrorStore) : StoreExport → Option (ExportReply × ErrorStore)
  | .create value categoryType =>
    (s.wasmCreateErrorCode value categoryType).map fun (h, s) => (.handle h, s)
  | .bulk pairs => (s.wasmCreateErrorCodesBulk pairs).map fun (hs, s) => (.handles hs, s)
  | .compare handle1 handle2 =>
    (s.wasmCompareErrorCodes handle1 handle2).map fun b => (.equal b, s)
  | .format value categoryType =>
    (s.wasmFormatErrorMessage value categoryType).map fun (text, s) => (.text text, s)
  | .intern message => (s.wasmInternErrorMessage message).map fun (h, s) => (.handle h, s)
  | .interned handle => (s.wasmGetInternedMessage handle).map fun message => (.interned message, s)
  | .categoryName categoryType => some (.text (wasmGetCategoryName categoryType), s)
  | .stats => some (.stats s.wasmGetStorageStats.1 s.wasmGetStorageStats.2.1
      s.wasmGetStorageStats.2.2, s)
  | .clear => some (.done, s.wasmClearStorage)

/-! ### The standalone functions -/

namespace Standalone

def ErrorCode.eq (lhs rhs : ErrorCode) : Bool :=
  lhs.value == rhs.value && lhs.category == rhs.category

structure ErrorStore where
  errorStorage : List ErrorCode
  messageStorage : List String
  internedMessages : List String
deriving DecidableEq

def wasmGetCategoryName (categoryType : Int32) : String := (categoryOf categoryType).name

namespace ErrorStore

def empty : ErrorStore := ⟨[], [], []⟩

def wasmCreateErrorCode (s : ErrorStore) (value categoryType : Int32) :
    Option (Int32 × ErrorStore) := do
  let codes ← emplaceBack s.errorStorage ⟨value, categoryOf categoryType⟩
  return (Int32.ofNat (codes.length - 1), { s with errorStorage := codes })

def outOfRange (s : ErrorStore) (handle : Int32) : Bool :=
  decide (handle < 0) || decide (handle ≥ Int32.ofNat s.errorStorage.length)

def wasmCompareErrorCodes (s : ErrorStore) (handle1 handle2 : Int32) : Option Bool :=
  if s.outOfRange handle1 || s.outOfRange handle2 then some false
  else do
    let ec1 ← s.errorStorage[handle1.toNatClampNeg]?
    let ec2 ← s.errorStorage[handle2.toNatClampNeg]?
    return ec1.eq ec2

def wasmFormatErrorMessage (s : ErrorStore) (value categoryType : Int32) :
    Option (String × ErrorStore) := do
  let message := (categoryOf categoryType).message value
  let messages ← emplaceBack s.messageStorage message
  return (message, { s with messageStorage := messages })

/-- The two arrays of `count` elements as one list of pairs. -/
def wasmCreateErrorCodesBulk : ErrorStore → List (Int32 × Int32) →
    Option (List Int32 × ErrorStore)
  | s, [] => some ([], s)
  | s, (value, categoryType) :: pairs => do
    let codes ← emplaceBack s.errorStorage ⟨value, categoryOf categoryType⟩
    let handle := Int32.ofNat (codes.length - 1)
    let (handles, s) ← wasmCreateErrorCodesBulk { s with errorStorage := codes } pairs
    return (handle :: handles, s)

def wasmInternErrorMessage (s : ErrorStore) (msg : String) : Option (Int32 × ErrorStore) :=
  (internMessage s.internedMessages msg).map fun a => (a.1, { s with internedMessages := a.2 })

def wasmGetInternedMessage (s : ErrorStore) (handle : Int32) : Option (Option String) :=
  internedMessage s.internedMessages handle

def wasmClearStorage (_ : ErrorStore) : ErrorStore := empty

def wasmGetStorageStats (s : ErrorStore) : Int32 × Int32 × Int32 :=
  (Int32.ofNat s.errorStorage.length, Int32.ofNat s.messageStorage.length,
    Int32.ofNat s.internedMessages.length)

def answer (s : ErrorStore) : StoreExport → Option (ExportReply × ErrorStore)
  | .create value categoryType =>
    (s.wasmCreateErrorCode value categoryType).map fun (h, s) => (.handle h, s)
  | .bulk pairs => (s.wasmCreateErrorCodesBulk pairs).map fun (hs, s) => (.handles hs, s)
  | .compare handle1 handle2 =>
    (s.wasmCompareErrorCodes handle1 handle2).map fun b => (.equal b, s)
  | .format value categoryType =>
    (s.wasmFormatErrorMessage value categoryType).map fun (text, s) => (.text text, s)
  | .intern message => (s.wasmInternErrorMessage message).map fun (h, s) => (.handle h, s)
  | .interned handle => (s.wasmGetInternedMessage handle).map fun message => (.interned message, s)
  | .categoryName categoryType => some (.text (wasmGetCategoryName categoryType), s)
  | .stats => some (.stats s.wasmGetStorageStats.1 s.wasmGetStorageStats.2.1
      s.wasmGetStorageStats.2.2, s)
  | .clear => some (.done, s.wasmClearStorage)

end ErrorStore

end Standalone

/-! ### The texts -/

/-- Replacing the text of one key changes no other lookup. -/
theorem lookup_replace {α β : Type*} [BEq α] [LawfulBEq α] (before after : List (α × β)) {a k : α}
    (hne : a ≠ k) (b b' : β) :
    (before ++ (k, b) :: after).lookup a = (before ++ (k, b') :: after).lookup a := by
  have hkey : (a == k) = false := beq_eq_false_iff_ne.mpr hne
  rw [List.lookup_append, List.lookup_append, List.lookup_cons, List.lookup_cons, hkey]

/-- The rows of the system table from 1 to 22. -/
def sharedSystemMessages : List (Int32 × String) := (systemMessages.drop 1).take 22

theorem int32_mem_range {v : Int32} (hlow : 1 ≤ v) (hhigh : v ≤ 22) :
    ∃ n, 1 ≤ n ∧ n ≤ 22 ∧ v = Int32.ofNat n := by
  rw [Int32.le_iff_toInt_le] at hlow hhigh
  have hlow' : 1 ≤ v.toInt := hlow
  have hhigh' : v.toInt ≤ 22 := hhigh
  refine ⟨v.toNatClampNeg, ?_, ?_, (Int32.ofNat_toNatClampNeg v ?_).symm⟩
  · unfold Int32.toNatClampNeg
    omega
  · unfold Int32.toNatClampNeg
    omega
  · rw [Int32.le_iff_toInt_le]
    exact hlow'.trans' (by decide)

theorem lookup_shared {v : Int32} (hlow : 1 ≤ v) (hhigh : v ≤ 22) :
    ∃ text, sharedSystemMessages.lookup v = some text := by
  obtain ⟨n, hn, hn', rfl⟩ := int32_mem_range hlow hhigh
  rw [← Option.isSome_iff_exists]
  interval_cases n
  all_goals decide

theorem shared_range : ∀ entry ∈ sharedSystemMessages, 1 ≤ entry.1 ∧ entry.1 ≤ 22 := by decide

theorem lookup_shared_eq_none {v : Int32} (hv : v < 1 ∨ 22 < v) :
    sharedSystemMessages.lookup v = none := by
  rw [List.lookup_eq_none_iff]
  intro entry hentry
  rw [bne_iff_ne]
  rintro rfl
  obtain ⟨hlow, hhigh⟩ := shared_range entry hentry
  rcases hv with hlt | hgt
  · exact absurd hlow (Int32.not_le.mpr hlt)
  · exact absurd hhigh (Int32.not_le.mpr hgt)

/-- The other rows of the two system tables. -/
def simpleOnlyMessages : List (Int32 × String) :=
  [(0, "Success"), (404, "Not found"), (500, "Internal server error"), (503, "Service unavailable")]

def standaloneOnlyMessages : List (Int32 × String) :=
  [(23, "File table overflow"), (24, "Too many open files"), (25, "Not a typewriter")]

theorem systemMessages_lookup (v : Int32) : systemMessages.lookup v =
    (sharedSystemMessages.lookup v).or (simpleOnlyMessages.lookup v) := by
  have hsplit : systemMessages = [(0, "Success")] ++ sharedSystemMessages ++
      simpleOnlyMessages.drop 1 := rfl
  have hcons : simpleOnlyMessages = [(0, "Success")] ++ simpleOnlyMessages.drop 1 := rfl
  rw [hsplit, hcons, List.lookup_append, List.lookup_append, List.lookup_append]
  by_cases hv : v = 0
  · have hnone : sharedSystemMessages.lookup v = none := lookup_shared_eq_none (Or.inl (by rw [hv]; decide))
    rw [hnone, Option.or_none, Option.none_or]
    rfl
  · have hkey : (v == 0) = false := beq_eq_false_iff_ne.mpr hv
    rw [List.lookup_cons, hkey]
    rfl

theorem standalone_systemMessages_lookup (v : Int32) : Standalone.systemMessages.lookup v =
    (sharedSystemMessages.lookup v).or (standaloneOnlyMessages.lookup v) := by
  have hsplit : Standalone.systemMessages = sharedSystemMessages ++ standaloneOnlyMessages := rfl
  rw [hsplit, List.lookup_append]

/-- No text that is not shared occurs on both sides. -/
theorem unshared_texts_ne (v : Int32) :
    (simpleOnlyMessages.lookup v).getD ("System error " ++ decimal v) ≠
      (standaloneOnlyMessages.lookup v).getD ("Unknown error " ++ decimal v) := by
  have htables : ∀ entry ∈ simpleOnlyMessages, ∀ entry' ∈ standaloneOnlyMessages,
      entry.2 ≠ entry'.2 := by simp [simpleOnlyMessages, standaloneOnlyMessages]
  have hsimple : ∀ entry ∈ simpleOnlyMessages, ¬ "Unknown error ".toList <+: entry.2.toList := by
    simp [simpleOnlyMessages]
  have hstandalone : ∀ entry ∈ standaloneOnlyMessages,
      ¬ "System error ".toList <+: entry.2.toList := by simp [standaloneOnlyMessages]
  rcases lookup_getD_cases simpleOnlyMessages (fun v => "System error " ++ decimal v) v with h | h
  · rcases lookup_getD_cases standaloneOnlyMessages (fun v => "Unknown error " ++ decimal v) v with
      h' | h'
    · exact htables _ h _ h'
    · rw [h']
      exact ne_append_decimal (hsimple _ h) v
  · rcases lookup_getD_cases standaloneOnlyMessages (fun v => "Unknown error " ++ decimal v) v with
      h' | h'
    · rw [h]
      exact (ne_append_decimal (hstandalone _ h') v).symm
    · rw [h, h']
      intro heq
      have hhead := congrArg (fun text => text.toList.head?) heq
      simp at hhead

theorem system_text_eq_iff (v : Int32) :
    getMessage v 0 = Standalone.ErrorCategory.system.message v ↔ ¬ (v < 1 ∨ 22 < v) := by
  have hsimple : getMessage v 0 =
      (systemMessages.lookup v).getD ("System error " ++ decimal v) := rfl
  have hstandalone : Standalone.ErrorCategory.system.message v =
      (Standalone.systemMessages.lookup v).getD ("Unknown error " ++ decimal v) := rfl
  rw [hsimple, hstandalone, systemMessages_lookup, standalone_systemMessages_lookup]
  by_cases hv : v < 1 ∨ 22 < v
  · rw [lookup_shared_eq_none hv, Option.none_or, Option.none_or]
    exact iff_of_false (unshared_texts_ne v) (not_not.mpr hv)
  · obtain ⟨hlow, hhigh⟩ := not_or.mp hv
    obtain ⟨text, htext⟩ := lookup_shared (Int32.not_lt.mp hlow) (Int32.not_lt.mp hhigh)
    rw [htext]
    exact iff_of_true rfl hv

theorem generic_text_eq_iff (v : Int32) {categoryType : Int32} (hcategory : categoryType ≠ 0) :
    getMessage v categoryType = Standalone.ErrorCategory.generic.message v ↔ ¬ v = 22 := by
  have hsimple : getMessage v categoryType =
      (genericMessages.lookup v).getD ("Generic error " ++ decimal v) :=
    if_neg (mt beq_iff_eq.mp hcategory)
  have hstandalone : Standalone.ErrorCategory.generic.message v =
      (Standalone.genericMessages.lookup v).getD ("Generic error " ++ decimal v) := rfl
  rw [hsimple, hstandalone]
  by_cases hv : v = 22
  · have hrow : genericMessages.lookup 22 = some "Invalid argument" := rfl
    have hrow' : Standalone.genericMessages.lookup 22 = some "Filename too long" := rfl
    rw [hv, hrow, hrow']
    exact iff_of_false (by simp) (not_not.mpr rfl)
  · have hrow : genericMessages = genericMessages.take 22 ++ (22, "Invalid argument") ::
        genericMessages.drop 23 := rfl
    have hrow' : Standalone.genericMessages = genericMessages.take 22 ++ (22, "Filename too long") ::
        genericMessages.drop 23 := rfl
    rw [hrow, hrow', lookup_replace _ _ hv "Invalid argument" "Filename too long"]
    exact iff_of_true rfl hv

/-! ### Side by side -/

/-- The pairs created since the last clear. -/
def recordCreated (created : List (Int32 × Int32)) : StoreExport → List (Int32 × Int32)
  | .create value categoryType => created ++ [(value, categoryType)]
  | .bulk pairs => created ++ pairs
  | .clear => []
  | _ => created

/-- The handle `h` was issued for a code created from `pair`. -/
def IssuedFor (created : List (Int32 × Int32)) (h : Int32) (pair : Int32 × Int32) : Prop :=
  ∃ n, created[n]? = some pair ∧ h = Int32.ofNat n

/-- The calls that the two modules answer differently. -/
def AnswersDiffer (created : List (Int32 × Int32)) : StoreExport → Prop
  | .compare h₁ h₂ => ∃ value c₁ c₂, IssuedFor created h₁ (value, c₁) ∧
      IssuedFor created h₂ (value, c₂) ∧ c₁ ≠ c₂ ∧ c₁ ≠ 0 ∧ c₂ ≠ 0
  | .format value categoryType =>
    if categoryType = 0 then value < 1 ∨ 22 < value else value = 22
  | .categoryName categoryType => categoryType ≠ 0 ∧ categoryType ≠ 1
  | _ => False

/-- Both stores hold the codes created, each in its own way. -/
structure SameCodes (created : List (Int32 × Int32)) (s : ErrorStore) (t : Standalone.ErrorStore) :
    Prop where
  simple : s.errorStorage = created.map fun pair => BoostErrorCode.ofPair pair.1 pair.2
  standalone : t.errorStorage = created.map fun pair => ⟨pair.1, Standalone.categoryOf pair.2⟩
  messages : t.messageStorage.length = s.messageStorage.length
  interned : t.internedMessages = s.internedMessages
  fits : created.length < 2 ^ 31

theorem sameCodes_empty : SameCodes [] .empty .empty :=
  ⟨rfl, rfl, rfl, rfl, Nat.two_pow_pos 31⟩

/-- Two vectors of one length have room for one more element, or neither has. -/
theorem emplaceBack_twins {α β : Type} {xs : List α} {ys : List β} (h : ys.length = xs.length)
    (x : α) (y : β) :
    (xs.length + 1 < 2 ^ 31 ∧ emplaceBack xs x = some (xs ++ [x]) ∧
      emplaceBack ys y = some (ys ++ [y])) ∨
    (emplaceBack xs x = none ∧ emplaceBack ys y = none) := by
  unfold emplaceBack
  rw [h]
  by_cases hroom : xs.length + 1 < 2 ^ 31
  · exact Or.inl ⟨hroom, if_pos hroom, if_pos hroom⟩
  · exact Or.inr ⟨if_neg hroom, if_neg hroom⟩

section SideBySide

variable {created : List (Int32 × Int32)} {s : ErrorStore} {t : Standalone.ErrorStore}

theorem SameCodes.length_simple (h : SameCodes created s t) :
    s.errorStorage.length = created.length := by
  rw [h.simple, List.length_map]

theorem SameCodes.length_standalone (h : SameCodes created s t) :
    t.errorStorage.length = created.length := by
  rw [h.standalone, List.length_map]

/-- The bound check of a handle tells the issued handles from the others. -/
theorem handle_cases {n : ℕ} (hn : n < 2 ^ 31) (h : Int32) :
    (∃ k < n, h = Int32.ofNat k ∧ h.toNatClampNeg = k ∧
      (decide (h < 0) || decide (h ≥ Int32.ofNat n)) = false) ∨
    ((∀ k < n, h ≠ Int32.ofNat k) ∧
      (decide (h < 0) || decide (h ≥ Int32.ofNat n)) = true) := by
  cases hrange : decide (h < 0) || decide (h ≥ Int32.ofNat n) with
  | false =>
    rw [Bool.or_eq_false_iff, decide_eq_false_iff_not, decide_eq_false_iff_not, Int32.not_lt,
      ge_iff_le] at hrange
    obtain ⟨hpos, hlt⟩ := hrange
    rw [ofNat_le_iff hn hpos, Nat.not_le] at hlt
    exact Or.inl ⟨_, hlt, (Int32.ofNat_toNatClampNeg h hpos).symm, rfl, rfl⟩
  | true =>
    refine Or.inr ⟨?_, rfl⟩
    rintro k hk rfl
    have hpos : 0 ≤ Int32.ofNat k := Int32.zero_le_ofNat_of_lt (by omega)
    rw [Bool.or_eq_true, decide_eq_true_iff, decide_eq_true_iff, ge_iff_le,
      ofNat_le_iff hn hpos, Int32.toNatClampNeg_ofNat_of_lt (by omega)] at hrange
    rcases hrange with hneg | hge
    · exact absurd hpos (Int32.not_le.mpr hneg)
    · omega

theorem IssuedFor.unique (hcreated : created.length < 2 ^ 31) {h : Int32} {p q : Int32 × Int32}
    (hp : IssuedFor created h p) (hq : IssuedFor created h q) : p = q := by
  obtain ⟨n, hget, rfl⟩ := hp
  obtain ⟨n', hget', heq⟩ := hq
  obtain ⟨hlt, -⟩ := List.getElem?_eq_some_iff.mp hget
  obtain ⟨hlt', -⟩ := List.getElem?_eq_some_iff.mp hget'
  have hplace : n = n' := by
    rw [← Int32.toNatClampNeg_ofNat_of_lt (n := n) (by omega), heq,
      Int32.toNatClampNeg_ofNat_of_lt (by omega)]
  rw [← hplace, hget] at hget'
  exact Option.some.inj hget'

/-- Handles are compared by what they were issued for, in either module. -/
theorem SameCodes.compare (h : SameCodes created s t) (h₁ h₂ : Int32) :
    (∃ p₁ p₂, IssuedFor created h₁ p₁ ∧ IssuedFor created h₂ p₂ ∧
      s.wasmCompareErrorCodes h₁ h₂ = some (p₁.1 == p₂.1 && p₁.2 == p₂.2) ∧
      t.wasmCompareErrorCodes h₁ h₂ =
        some (p₁.1 == p₂.1 && Standalone.categoryOf p₁.2 == Standalone.categoryOf p₂.2)) ∨
    ((∀ p₁ p₂, IssuedFor created h₁ p₁ → ¬ IssuedFor created h₂ p₂) ∧
      s.wasmCompareErrorCodes h₁ h₂ = some false ∧ t.wasmCompareErrorCodes h₁ h₂ = some false) := by
  have hnot : ∀ {h : Int32}, (∀ k < created.length, h ≠ Int32.ofNat k) → ∀ p,
      ¬ IssuedFor created h p := by
    rintro h hrange p ⟨n, hget, rfl⟩
    obtain ⟨hlt, -⟩ := List.getElem?_eq_some_iff.mp hget
    exact hrange n hlt rfl
  simp only [ErrorStore.wasmCompareErrorCodes, ErrorStore.outOfRange, h.length_simple,
    Standalone.ErrorStore.wasmCompareErrorCodes, Standalone.ErrorStore.outOfRange,
    h.length_standalone]
  rcases handle_cases h.fits h₁ with ⟨k₁, hk₁, hofNat₁, hplace₁, hrange₁⟩ | ⟨hout₁, hrange₁⟩
  · rcases handle_cases h.fits h₂ with ⟨k₂, hk₂, hofNat₂, hplace₂, hrange₂⟩ | ⟨hout₂, hrange₂⟩
    · left
      refine ⟨created[k₁], created[k₂], ⟨k₁, List.getElem?_eq_getElem hk₁, hofNat₁⟩,
        ⟨k₂, List.getElem?_eq_getElem hk₂, hofNat₂⟩, ?_, ?_⟩
      · rw [hrange₁, hrange₂, Bool.or_false, if_neg Bool.false_ne_true, hplace₁, hplace₂, h.simple,
          List.getElem?_map, List.getElem?_map, List.getElem?_eq_getElem hk₁,
          List.getElem?_eq_getElem hk₂]
        rfl
      · rw [hrange₁, hrange₂, Bool.or_false, if_neg Bool.false_ne_true, hplace₁, hplace₂,
          h.standalone, List.getElem?_map, List.getElem?_map, List.getElem?_eq_getElem hk₁,
          List.getElem?_eq_getElem hk₂]
        rfl
    · rw [hrange₂, Bool.or_true, if_pos rfl, if_pos rfl]
      exact Or.inr ⟨fun _ p₂ _ => hnot hout₂ p₂, rfl, rfl⟩
  · rw [hrange₁, Bool.true_or, if_pos rfl, if_pos rfl]
    exact Or.inr ⟨fun p₁ _ hp₁ => absurd hp₁ (hnot hout₁ p₁), rfl, rfl⟩

theorem categoryOf_eq_iff (c₁ c₂ : Int32) :
    Standalone.categoryOf c₁ = Standalone.categoryOf c₂ ↔ (c₁ = 0 ↔ c₂ = 0) := by
  simp only [Standalone.categoryOf, beq_iff_eq]
  split_ifs with h₁ h₂ h₂
  · simp [h₁, h₂]
  · simp [h₁, h₂]
  · simp [h₁, h₂]
  · simp [h₁, h₂]

theorem SameCodes.append (h : SameCodes created s t) (value categoryType : Int32)
    (hroom : created.length + 1 < 2 ^ 31) :
    SameCodes (created ++ [(value, categoryType)])
      { s with errorStorage := s.errorStorage ++ [.ofPair value categoryType] }
      { t with errorStorage := t.errorStorage ++ [⟨value, Standalone.categoryOf categoryType⟩] } where
  simple := by rw [h.simple, List.map_append, List.map_singleton]
  standalone := by rw [h.standalone, List.map_append, List.map_singleton]
  messages := h.messages
  interned := h.interned
  fits := by rwa [List.length_append, List.length_singleton]

/-- Both modules have room for a code, or neither has. -/
theorem SameCodes.emplaceBack (h : SameCodes created s t) (value categoryType : Int32) :
    (created.length + 1 < 2 ^ 31 ∧
      emplaceBack s.errorStorage (.ofPair value categoryType) =
        some (s.errorStorage ++ [.ofPair value categoryType]) ∧
      emplaceBack t.errorStorage ⟨value, Standalone.categoryOf categoryType⟩ =
        some (t.errorStorage ++ [⟨value, Standalone.categoryOf categoryType⟩])) ∨
    (emplaceBack s.errorStorage (.ofPair value categoryType) = none ∧
      emplaceBack t.errorStorage ⟨value, Standalone.categoryOf categoryType⟩ = none) := by
  have hlength : t.errorStorage.length = s.errorStorage.length :=
    h.length_standalone.trans h.length_simple.symm
  rw [← h.length_simple]
  exact emplaceBack_twins hlength _ _

theorem SameCodes.create (h : SameCodes created s t) (value categoryType : Int32) :
    (∃ handle s' t', s.wasmCreateErrorCode value categoryType = some (handle, s') ∧
      t.wasmCreateErrorCode value categoryType = some (handle, t') ∧
      SameCodes (created ++ [(value, categoryType)]) s' t') ∨
    (s.wasmCreateErrorCode value categoryType = none ∧
      t.wasmCreateErrorCode value categoryType = none) := by
  simp only [ErrorStore.wasmCreateErrorCode, Standalone.ErrorStore.wasmCreateErrorCode]
  rcases h.emplaceBack value categoryType with ⟨hroom, hs, ht⟩ | ⟨hs, ht⟩
  · rw [hs, ht]
    refine Or.inl ⟨_, _, _, rfl, ?_, h.append value categoryType hroom⟩
    simp only [Option.bind_eq_bind, Option.bind_some, Option.pure_def, List.length_append,
      List.length_singleton, h.length_simple, h.length_standalone]
  · rw [hs, ht]
    exact Or.inr ⟨rfl, rfl⟩

theorem SameCodes.bulk (h : SameCodes created s t) (pairs : List (Int32 × Int32)) :
    (∃ handles s' t', s.wasmCreateErrorCodesBulk pairs = some (handles, s') ∧
      t.wasmCreateErrorCodesBulk pairs = some (handles, t') ∧
      SameCodes (created ++ pairs) s' t') ∨
    (s.wasmCreateErrorCodesBulk pairs = none ∧ t.wasmCreateErrorCodesBulk pairs = none) := by
  induction pairs generalizing created s t with
  | nil =>
    refine Or.inl ⟨[], s, t, rfl, rfl, ?_⟩
    rwa [List.append_nil]
  | cons pair pairs ih =>
    obtain ⟨value, categoryType⟩ := pair
    simp only [ErrorStore.wasmCreateErrorCodesBulk, Standalone.ErrorStore.wasmCreateErrorCodesBulk,
      Option.bind_eq_bind]
    rcases h.emplaceBack value categoryType with ⟨hroom, hs, ht⟩ | ⟨hs, ht⟩
    · rw [hs, ht]
      simp only [Option.bind_some, List.length_append, List.length_singleton, h.length_simple,
        h.length_standalone]
      rcases ih (h.append value categoryType hroom) with ⟨handles, s', t', hs', ht', h'⟩ | ⟨hs', ht'⟩
      · rw [hs', ht']
        refine Or.inl ⟨_, s', t', rfl, rfl, ?_⟩
        rwa [← List.append_cons] at h'
      · rw [hs', ht']
        exact Or.inr ⟨rfl, rfl⟩
    · rw [hs, ht]
      exact Or.inr ⟨rfl, rfl⟩

theorem SameCodes.intern (h : SameCodes created s t) (msg : String) :
    (∃ handle s' t', s.wasmInternErrorMessage msg = some (handle, s') ∧
      t.wasmInternErrorMessage msg = some (handle, t') ∧ SameCodes created s' t') ∨
    (s.wasmInternErrorMessage msg = none ∧ t.wasmInternErrorMessage msg = none) := by
  rw [wasmInternErrorMessage_eq_internMessage, Standalone.ErrorStore.wasmInternErrorMessage,
    h.interned]
  cases internMessage s.internedMessages msg with
  | none => exact Or.inr ⟨rfl, rfl⟩
  | some a =>
    exact Or.inl ⟨a.1, _, _, rfl, rfl, h.simple, h.standalone, h.messages, rfl, h.fits⟩

theorem text_eq_iff (value categoryType : Int32) :
    getMessage value categoryType = (Standalone.categoryOf categoryType).message value ↔
      ¬ AnswersDiffer created (.format value categoryType) := by
  rw [AnswersDiffer]
  by_cases hcategory : categoryType = 0
  · rw [if_pos hcategory, hcategory]
    exact system_text_eq_iff value
  · have hgeneric : Standalone.categoryOf categoryType = .generic :=
      if_neg (mt beq_iff_eq.mp hcategory)
    rw [if_neg hcategory, hgeneric]
    exact generic_text_eq_iff value hcategory

theorem SameCodes.format (h : SameCodes created s t) (value categoryType : Int32) :
    (∃ s' t', s.wasmFormatErrorMessage value categoryType =
        some (getMessage value categoryType, s') ∧
      t.wasmFormatErrorMessage value categoryType =
        some ((Standalone.categoryOf categoryType).message value, t') ∧ SameCodes created s' t') ∨
    (s.wasmFormatErrorMessage value categoryType = none ∧
      t.wasmFormatErrorMessage value categoryType = none) := by
  simp only [ErrorStore.wasmFormatErrorMessage, BoostErrorCode.ofPair,
    Standalone.ErrorStore.wasmFormatErrorMessage]
  rcases emplaceBack_twins h.messages (getMessage value categoryType)
    ((Standalone.categoryOf categoryType).message value) with ⟨-, hs, ht⟩ | ⟨hs, ht⟩
  · rw [hs, ht]
    refine Or.inl ⟨_, _, rfl, rfl, h.simple, h.standalone, ?_, h.interned, h.fits⟩
    simp only [List.length_append, List.length_singleton, h.messages]
  · rw [hs, ht]
    exact Or.inr ⟨rfl, rfl⟩

theorem categoryName_eq_iff (categoryType : Int32) :
    wasmGetCategoryName categoryType = Standalone.wasmGetCategoryName categoryType ↔
      ¬ (categoryType ≠ 0 ∧ categoryType ≠ 1) := by
  simp only [wasmGetCategoryName, Standalone.wasmGetCategoryName, Standalone.categoryOf, beq_iff_eq]
  split_ifs with hzero hone
  · simp [Standalone.ErrorCategory.name, hzero]
  · simp [Standalone.ErrorCategory.name, hone]
  · simp [Standalone.ErrorCategory.name, hzero, hone]

/-- The answers to a comparison agree unless equal values of two generic category types are compared. -/
theorem compare_differs_iff (hcreated : created.length < 2 ^ 31) {h₁ h₂ : Int32}
    {p₁ p₂ : Int32 × Int32} (hp₁ : IssuedFor created h₁ p₁) (hp₂ : IssuedFor created h₂ p₂) :
    (p₁.1 == p₂.1 && p₁.2 == p₂.2) =
        (p₁.1 == p₂.1 && Standalone.categoryOf p₁.2 == Standalone.categoryOf p₂.2) ↔
      ¬ AnswersDiffer created (.compare h₁ h₂) := by
  have hdiffer : AnswersDiffer created (.compare h₁ h₂) ↔
      p₁.1 = p₂.1 ∧ p₁.2 ≠ p₂.2 ∧ p₁.2 ≠ 0 ∧ p₂.2 ≠ 0 := by
    constructor
    · rintro ⟨value, c₁, c₂, hissued₁, hissued₂, hne, hzero₁, hzero₂⟩
      rw [hp₁.unique hcreated hissued₁, hp₂.unique hcreated hissued₂]
      exact ⟨rfl, hne, hzero₁, hzero₂⟩
    · rintro ⟨hvalue, hne, hzero₁, hzero₂⟩
      refine ⟨p₁.1, p₁.2, p₂.2, hp₁, ?_, hne, hzero₁, hzero₂⟩
      rw [hvalue]
      exact hp₂
  rw [hdiffer, Bool.eq_iff_iff, Bool.and_eq_true, Bool.and_eq_true, beq_iff_eq, beq_iff_eq,
    beq_iff_eq, categoryOf_eq_iff]
  constructor
  · rintro hsame ⟨hvalue, hne, hzero₁, hzero₂⟩
    exact hne (hsame.mpr ⟨hvalue, iff_of_false hzero₁ hzero₂⟩).2
  · intro hnot
    constructor
    · rintro ⟨hvalue, hcategory⟩
      exact ⟨hvalue, by rw [hcategory]⟩
    · rintro ⟨hvalue, hzero⟩
      refine ⟨hvalue, ?_⟩
      by_contra hne
      by_cases h0 : p₁.2 = 0
      · exact hne (h0.trans (hzero.mp h0).symm)
      · exact hnot ⟨hvalue, hne, h0, mt hzero.mpr h0⟩

/-- A call that returns the same in both modules is answered the same. -/
theorem same_answer {α : Type} {x : Option (α × ErrorStore)} {y : Option (α × Standalone.ErrorStore)}
    (reply : α → ExportReply)
    (h : (∃ a s' t', x = some (a, s') ∧ y = some (a, t') ∧ SameCodes created s' t') ∨
      (x = none ∧ y = none)) :
    (∃ r s' r' t', x.map (fun a => (reply a.1, a.2)) = some (r, s') ∧
      y.map (fun a => (reply a.1, a.2)) = some (r', t') ∧ (r = r' ↔ ¬ False) ∧
      SameCodes created s' t') ∨
    (x.map (fun a => (reply a.1, a.2)) = none ∧ y.map (fun a => (reply a.1, a.2)) = none) := by
  rcases h with ⟨a, s', t', rfl, rfl, h'⟩ | ⟨rfl, rfl⟩
  · exact Or.inl ⟨_, s', _, t', rfl, rfl, iff_of_true rfl id, h'⟩
  · exact Or.inr ⟨rfl, rfl⟩

theorem text_reply_eq_iff (text text' : String) :
    ExportReply.text text = .text text' ↔ text = text' := ⟨ExportReply.text.inj, congrArg _⟩

theorem answer_inStep : Runs.InStep ErrorStore.answer Standalone.ErrorStore.answer recordCreated
    SameCodes fun created call r r' => r = r' ↔ ¬ AnswersDiffer created call := by
  intro created s t call h
  cases call with
  | create value categoryType => exact same_answer .handle (h.create value categoryType)
  | bulk pairs => exact same_answer .handles (h.bulk pairs)
  | compare h₁ h₂ =>
    rcases h.compare h₁ h₂ with ⟨p₁, p₂, hp₁, hp₂, hs, ht⟩ | ⟨hnone, hs, ht⟩
    · have hequal : ∀ b b', ExportReply.equal b = .equal b' ↔ b = b' :=
        fun _ _ => ⟨ExportReply.equal.inj, congrArg _⟩
      exact Or.inl ⟨_, s, _, t, congrArg (Option.map _) hs, congrArg (Option.map _) ht,
        (hequal _ _).trans (compare_differs_iff h.fits hp₁ hp₂), h⟩
    · refine Or.inl ⟨_, s, _, t, congrArg (Option.map _) hs, congrArg (Option.map _) ht,
        iff_of_true rfl ?_, h⟩
      rintro ⟨value, c₁, c₂, hissued₁, hissued₂, -⟩
      exact hnone _ _ hissued₁ hissued₂
  | format value categoryType =>
    rcases h.format value categoryType with ⟨s', t', hs, ht, h'⟩ | ⟨hs, ht⟩
    · exact Or.inl ⟨_, s', _, t', congrArg (Option.map _) hs, congrArg (Option.map _) ht,
        (text_reply_eq_iff _ _).trans (text_eq_iff value categoryType), h'⟩
    · exact Or.inr ⟨congrArg (Option.map _) hs, congrArg (Option.map _) ht⟩
  | intern message => exact same_answer .handle (h.intern message)
  | interned handle =>
    have hs := wasmGetInternedMessage_eq_internedMessage s handle
    have ht : t.wasmGetInternedMessage handle = internedMessage s.internedMessages handle := by
      rw [Standalone.ErrorStore.wasmGetInternedMessage, h.interned]
    cases hfound : internedMessage s.internedMessages handle with
    | none =>
      rw [hfound] at hs ht
      exact Or.inr ⟨congrArg (Option.map _) hs, congrArg (Option.map _) ht⟩
    | some message =>
      rw [hfound] at hs ht
      exact Or.inl ⟨_, s, _, t, congrArg (Option.map _) hs, congrArg (Option.map _) ht,
        iff_of_true rfl id, h⟩
  | categoryName categoryType =>
    exact Or.inl ⟨_, s, _, t, rfl, rfl,
      (text_reply_eq_iff _ _).trans (categoryName_eq_iff categoryType), h⟩
  | stats =>
    refine Or.inl ⟨_, s, _, t, rfl, rfl, iff_of_true ?_ id, h⟩
    simp only [ErrorStore.wasmGetStorageStats, Standalone.ErrorStore.wasmGetStorageStats,
      h.length_simple, h.length_standalone, h.messages, h.interned]
  | clear => exact Or.inl ⟨_, _, _, _, rfl, rfl, iff_of_true rfl id, sameCodes_empty⟩

end SideBySide

/-- What is said of a run that returns in both modules. -/
structure RunsAlike (calls : List StoreExport) (replies replies' : List ExportReply)
    (s : ErrorStore) (t : Standalone.ErrorStore) : Prop where
  answers : ∀ before call after, calls = before ++ call :: after →
    ∃ r r', replies[before.length]? = some r ∧ replies'[before.length]? = some r' ∧
      (r = r' ↔ ¬ AnswersDiffer (Runs.run recordCreated [] before) call)
  codes : t.errorStorage =
    s.errorStorage.map fun ec => ⟨ec.value, Standalone.categoryOf ec.category⟩
  messages : t.messageStorage.length = s.messageStorage.length
  interned : t.internedMessages = s.internedMessages

/-- Every run of calls returns in both modules or in neither, and the answers differ exactly at the
calls that are listed. -/
theorem standalone_runs_alike (calls : List StoreExport) :
    (∃ replies s replies' t, Runs.answers ErrorStore.answer .empty calls = some (replies, s) ∧
      Runs.answers Standalone.ErrorStore.answer .empty calls = some (replies', t) ∧
      RunsAlike calls replies replies' s t) ∨
    (Runs.answers ErrorStore.answer .empty calls = none ∧
      Runs.answers Standalone.ErrorStore.answer .empty calls = none) := by
  rcases answer_inStep.answers sameCodes_empty calls with
    ⟨replies, s, replies', t, hs, ht, hcompared, h⟩ | hnone
  · refine Or.inl ⟨replies, s, replies', t, hs, ht, ?_, ?_, h.messages, h.interned⟩
    · intro before call after hcalls
      exact hcompared.at hcalls
    · rw [h.standalone, h.simple, List.map_map]
      rfl
  · exact Or.inr hnone

end BoostSystem
