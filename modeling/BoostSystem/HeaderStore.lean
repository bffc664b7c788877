import BoostSystem.BatchMemory
import BoostSystem.DefaultCode

/-!
# The store over the library

`wasm/boost_system_wasm.cpp` exports much the same functions over the codes of the library itself; its
callers pass category objects. It is given the calls that are given to `wasm/boost_system_simple.cpp`.
Codes made in bulk are not stored, and handles are compared as numbers, so that handles and comparisons
part ways as soon as a code is made in bulk or twice.
-/

namespace BoostSystem

open CString LinearMemory Loops

namespace Header

variable {U K : Type}

structure ErrorStore (U K : Type) where
  errorStorage : List (ErrorCode U K)
  messageBuffer : String
  internedMessages : List String

def getSystemCategory : ErrorCategory U := .system

def getGenericCategory : ErrorCategory U := .generic

namespace ErrorStore

def empty : ErrorStore U K := ⟨[], "", []⟩

variable (w : Program U K) (s : ErrorStore U K)

def createErrorCode (value : Int32) (category : ErrorCategory U) :
    Option (Int32 × ErrorStore U K) := do
  let codes ← emplaceBack s.errorStorage (.ofCategory w value category)
  return (Int32.ofNat (codes.length - 1), { s with errorStorage := codes })

/-- What C reads in the message buffer; an exception of `message()` has no result. -/
def formatErrorMessage (value : Int32) (category : ErrorCategory U) :
    Option (String × ErrorStore U K) := do
  let message ← (ErrorCode.ofCategory w value category).message w
  return (String.ofList (cStr message), { s with messageBuffer := message })

def internErrorMessage (msg : String) : Option (Int32 × ErrorStore U K) :=
  (internMessage s.internedMessages msg).map fun a => (a.1, { s with internedMessages := a.2 })

def getInternedMessage (handle : Int32) : Option (Option String) :=
  internedMessage s.internedMessages handle

end ErrorStore

variable (w : Program U K)

def compareErrorCodes (handle1 handle2 : Int32) : Bool :=
  (ErrorCode.ofCategory w handle1 .system).eq w (.ofCategory w handle2 .system)

def createJsErrorInfo (value : Int32) (category : ErrorCategory U) (nameBuf : Buffer)
    (nameSize : UInt32) (messageBuf : Buffer) (messageSize : UInt32) :
    Option (Int32 × Buffer × Buffer) := do
  let ec := ErrorCode.ofCategory w value category
  let message ← ec.message w
  copyErrorInfo (ec.value w) (category.name w) message nameBuf nameSize messageBuf messageSize

/-- `handles[i] = values[i]`. -/
def createErrorCodesBulk (values : List Int32) : List Int32 := values

theorem message_ofCategory (value : Int32) (category : ErrorCategory U) :
    (ErrorCode.ofCategory w value category).message w = category.message w value := by
  rw [ErrorCode.ofCategory_eq, ErrorCode.message_ofCategoryAt]

theorem createJsErrorInfo_eq (value : Int32) (category : ErrorCategory U) (nameBuf : Buffer)
    (nameSize : UInt32) (messageBuf : Buffer) (messageSize : UInt32) :
    createJsErrorInfo w value category nameBuf nameSize messageBuf messageSize =
      (category.message w value).bind fun message =>
        copyErrorInfo value (category.name w) message nameBuf nameSize messageBuf messageSize := by
  have hvalue : (ErrorCode.ofCategory w value category).value w = value := by
    rw [ErrorCode.ofCategory_eq, ErrorCode.value_ofCategoryAt]
  simp only [createJsErrorInfo, message_ofCategory, hvalue, Option.bind_eq_bind]

/-- Name and message are copied, each as C reads it, exactly if both buffers have room for the
terminator and `message()` does not throw. -/
theorem createJsErrorInfo_copied_iff (value : Int32) (category : ErrorCategory U)
    (nameBuf : Buffer) (nameSize : UInt32) (messageBuf : Buffer) (messageSize : UInt32) :
    (∃ nameBuf' messageBuf' message,
      createJsErrorInfo w value category nameBuf nameSize messageBuf messageSize =
        some (value, nameBuf', messageBuf') ∧
      category.message w value = some message ∧
      BoundedCopy nameBuf nameBuf' nameSize.toNat (cStr (category.name w)) ∧
      BoundedCopy messageBuf messageBuf' messageSize.toNat (cStr message)) ↔
    nameSize ≠ 0 ∧ messageSize ≠ 0 ∧ category.message w value ≠ none := by
  rw [createJsErrorInfo_eq]
  constructor
  · rintro ⟨nameBuf', messageBuf', message, hcall, hmessage, -, -⟩
    rw [hmessage, Option.bind_some] at hcall
    obtain ⟨b, hb, hcall⟩ := Option.bind_eq_some_iff.mp hcall
    obtain ⟨b', hb', -⟩ := Option.bind_eq_some_iff.mp hcall
    refine ⟨?_, ?_, by rw [hmessage]; exact Option.some_ne_none message⟩
    · rintro rfl
      rw [copyMessage_zero] at hb
      cases hb
    · rintro rfl
      rw [copyMessage_zero] at hb'
      cases hb'
  · rintro ⟨hname, hsize, hthrows⟩
    obtain ⟨message, hmessage⟩ := Option.ne_none_iff_exists'.mp hthrows
    obtain ⟨b, hb, hcopied⟩ := copyMessage_boundedCopy (category.name w) nameBuf hname
    obtain ⟨b', hb', hcopied'⟩ := copyMessage_boundedCopy message messageBuf hsize
    refine ⟨b, b', message, ?_, hmessage, hcopied, hcopied'⟩
    rw [hmessage, Option.bind_some, copyErrorInfo, hb, hb']
    rfl

end Header

/-! ### The calls of both modules -/

inductive SharedExport where
  | create (value categoryType : Int32)
  | bulk (pairs : List (Int32 × Int32))
  | compare (handle1 handle2 : Int32)
  | format (value categoryType : Int32)
  | intern (message : String)
  | interned (handle : Int32)

def SharedExport.toExport : SharedExport → StoreExport
  | create value categoryType => .create value categoryType
  | bulk pairs => .bulk pairs
  | compare handle1 handle2 => .compare handle1 handle2
  | format value categoryType => .format value categoryType
  | intern message => .intern message
  | interned handle => .interned handle

namespace Header

variable {U K : Type} (w : Program U K)

/-- The object that a caller passes for a category type. -/
def pointerOf (categoryType : Int32) : ErrorCategory U :=
  if categoryType == 0 then getSystemCategory else getGenericCategory

def ErrorStore.answer (s : ErrorStore U K) :
    SharedExport → Option (ExportReply × ErrorStore U K)
  | .create value categoryType =>
    (s.createErrorCode w value (pointerOf categoryType)).map fun (h, s) => (.handle h, s)
  | .bulk pairs => some (.handles (createErrorCodesBulk (pairs.map Prod.fst)), s)
  | .compare handle1 handle2 => some (.equal (compareErrorCodes w handle1 handle2), s)
  | .format value categoryType =>
    (s.formatErrorMessage w value (pointerOf categoryType)).map fun (text, s) => (.text text, s)
  | .intern message => (s.internErrorMessage message).map fun (h, s) => (.handle h, s)
  | .interned handle => (s.getInternedMessage handle).map fun message => (.interned message, s)

/-! ### Side by side -/

/-- The pairs created so far, and those of them that were created one by one. -/
structure Creations where
  created : List (Int32 × Int32)
  singles : List (Int32 × Int32)

def Creations.empty : Creations := ⟨[], []⟩

def Creations.record (l : Creations) : SharedExport → Creations
  | .create value categoryType =>
    ⟨l.created ++ [(value, categoryType)], l.singles ++ [(value, categoryType)]⟩
  | .bulk pairs => { l with created := l.created ++ pairs }
  | _ => l

/-- The calls that the two modules answer differently. -/
def AnswersDiffer (l : Creations) : SharedExport → Prop
  | .create _ _ => l.singles.length ≠ l.created.length
  | .bulk pairs => pairs.map Prod.fst ≠ (List.range' l.created.length pairs.length).map Int32.ofNat
  | .compare h₁ h₂ => ¬ (h₁ = h₂ ↔ ∃ pair, IssuedFor l.created h₁ pair ∧ IssuedFor l.created h₂ pair)
  | .format value categoryType =>
    getMessage value categoryType ≠ String.ofList (cStr (genericErrorCategoryMessage w value))
  | _ => False

structure SameCodes (l : Creations) (s : BoostSystem.ErrorStore) (t : ErrorStore U K) : Prop where
  simple : s.errorStorage = l.created.map fun pair => BoostErrorCode.ofPair pair.1 pair.2
  library : t.errorStorage = l.singles.map fun pair => .ofCategory w pair.1 (pointerOf pair.2)
  singles : l.singles.Sublist l.created
  interned : t.internedMessages = s.internedMessages
  fits : l.created.length < 2 ^ 31

theorem sameCodes_empty : SameCodes w .empty .empty .empty :=
  ⟨rfl, rfl, List.Sublist.slnil, rfl, Nat.two_pow_pos 31⟩

section SideBySide

variable {w} {l : Creations} {s : BoostSystem.ErrorStore} {t : ErrorStore U K}

theorem SameCodes.length_simple (h : SameCodes w l s t) :
    s.errorStorage.length = l.created.length := by
  rw [h.simple, List.length_map]

theorem SameCodes.length_library (h : SameCodes w l s t) :
    t.errorStorage.length = l.singles.length := by
  rw [h.library, List.length_map]

/-- Either of the two categories asks `strerror`. -/
theorem formatErrorMessage_eq (t : ErrorStore U K) (value categoryType : Int32) :
    t.formatErrorMessage w value (pointerOf categoryType) =
      some (String.ofList (cStr (genericErrorCategoryMessage w value)),
        { t with messageBuffer := genericErrorCategoryMessage w value }) := by
  have hmessage : (pointerOf categoryType : ErrorCategory U).message w value =
      some (genericErrorCategoryMessage w value) := by
    unfold pointerOf
    split_ifs
    · rfl
    · rfl
  unfold ErrorStore.formatErrorMessage
  rw [message_ofCategory, hmessage]
  rfl

theorem compareErrorCodes_iff (h₁ h₂ : Int32) : compareErrorCodes w h₁ h₂ = true ↔ h₁ = h₂ := by
  have hsystem : (ErrorCategory.system : ErrorCategory U).eq w .system = true := ErrorCategory.eq_self w _
  unfold compareErrorCodes ErrorCode.eq
  simp only [ErrorCode.ofCategory_eq, ErrorCode.lcFlags_ofCategoryAt_one, ErrorCode.value_ofCategoryAt,
    ErrorCode.category_ofCategoryAt, hsystem]
  simp

theorem SameCodes.create (h : SameCodes w l s t) {value categoryType handle : Int32}
    {s' : BoostSystem.ErrorStore}
    (hs : s.wasmCreateErrorCode value categoryType = some (handle, s')) :
    ∃ t', handle = Int32.ofNat l.created.length ∧
      t.createErrorCode w value (pointerOf categoryType) =
        some (Int32.ofNat l.singles.length, t') ∧
      SameCodes w (l.record (.create value categoryType)) s' t' := by
  obtain ⟨codes, hcodes, -⟩ := Option.bind_eq_some_iff.mp hs
  obtain ⟨hroom, -⟩ := emplaceBack_eq_some hcodes
  have hsingles := h.singles.length_le
  rw [wasmCreateErrorCode_eq s value categoryType hroom] at hs
  obtain ⟨rfl, rfl⟩ := Prod.mk.inj (Option.some.inj hs)
  rw [h.length_simple] at hroom ⊢
  refine ⟨{ t with
    errorStorage := t.errorStorage ++ [.ofCategory w value (pointerOf categoryType)] }, rfl, ?_, ?_⟩
  · unfold ErrorStore.createErrorCode
    rw [emplaceBack_eq _ (by rw [h.length_library]; omega), Option.bind_eq_bind, Option.bind_some,
      List.length_append, List.length_singleton, Nat.add_sub_cancel, h.length_library]
    rfl
  · refine ⟨?_, ?_, h.singles.append (List.Sublist.refl _), h.interned, ?_⟩
    · rw [h.simple, Creations.record, List.map_append, List.map_singleton]
    · rw [h.library, Creations.record, List.map_append, List.map_singleton]
    · rwa [Creations.record, List.length_append, List.length_singleton]

theorem SameCodes.bulk (h : SameCodes w l s t) {pairs : List (Int32 × Int32)}
    {handles : List Int32} {s' : BoostSystem.ErrorStore}
    (hs : s.wasmCreateErrorCodesBulk pairs = some (handles, s')) :
    handles = (List.range' l.created.length pairs.length).map Int32.ofNat ∧
      SameCodes w (l.record (.bulk pairs)) s' t := by
  have hfits := h.fits
  rw [← h.length_simple] at hfits
  have hroom := wasmCreateErrorCodesBulk_room hfits hs
  rw [wasmCreateErrorCodesBulk_eq s pairs hroom] at hs
  obtain ⟨rfl, rfl⟩ := Prod.mk.inj (Option.some.inj hs)
  rw [h.length_simple] at hroom ⊢
  refine ⟨rfl, ?_, h.library, h.singles.trans (List.sublist_append_left _ _), h.interned, ?_⟩
  · rw [h.simple, Creations.record, List.map_append]
  · rwa [Creations.record, List.length_append]

/-- The simple module compares what the handles were issued for. -/
theorem SameCodes.compare (h : SameCodes w l s t) (h₁ h₂ : Int32) :
    ∃ b, s.wasmCompareErrorCodes h₁ h₂ = some b ∧
      (b = true ↔ ∃ pair, IssuedFor l.created h₁ pair ∧ IssuedFor l.created h₂ pair) := by
  -- the standalone store of the same codes stands beside it
  have hsame : BoostSystem.SameCodes l.created s
      ⟨l.created.map fun pair => ⟨pair.1, Standalone.categoryOf pair.2⟩, s.messageStorage,
        s.internedMessages⟩ := ⟨h.simple, rfl, rfl, rfl, h.fits⟩
  rcases hsame.compare h₁ h₂ with ⟨p₁, p₂, hp₁, hp₂, hs, -⟩ | ⟨hnone, hs, -⟩
  · refine ⟨_, hs, ?_⟩
    rw [Bool.and_eq_true, beq_iff_eq, beq_iff_eq]
    constructor
    · rintro ⟨hvalue, hcategory⟩
      exact ⟨p₁, hp₁, Prod.ext hvalue hcategory ▸ hp₂⟩
    · rintro ⟨pair, hpair₁, hpair₂⟩
      rw [hp₁.unique h.fits hpair₁, hp₂.unique h.fits hpair₂]
      exact ⟨rfl, rfl⟩
  · refine ⟨false, hs, iff_of_false Bool.false_ne_true ?_⟩
    rintro ⟨pair, hpair₁, hpair₂⟩
    exact hnone pair pair hpair₁ hpair₂

theorem SameCodes.intern (h : SameCodes w l s t) {msg : String} {handle : Int32}
    {s' : BoostSystem.ErrorStore} (hs : s.wasmInternErrorMessage msg = some (handle, s')) :
    ∃ t', t.internErrorMessage msg = some (handle, t') ∧ SameCodes w l s' t' := by
  rw [wasmInternErrorMessage_eq_internMessage] at hs
  obtain ⟨⟨handle', table⟩, htable, heq⟩ := Option.map_eq_some_iff.mp hs
  obtain ⟨rfl, rfl⟩ := Prod.mk.inj heq
  refine ⟨{ t with internedMessages := table }, ?_, h.simple, h.library, h.singles, rfl, h.fits⟩
  unfold ErrorStore.internErrorMessage
  rw [h.interned, htable]
  rfl

theorem handle_reply_eq_iff {m n : ℕ} (hm : m < 2 ^ 31) (hn : n < 2 ^ 31) :
    ExportReply.handle (Int32.ofNat m) = .handle (Int32.ofNat n) ↔ m = n := by
  constructor
  · intro heq
    rw [← Int32.toNatClampNeg_ofNat_of_lt hm, ExportReply.handle.inj heq,
      Int32.toNatClampNeg_ofNat_of_lt hn]
  · rintro rfl
    rfl

theorem answer_follows : Runs.Follows (fun (s : BoostSystem.ErrorStore) (call : SharedExport) =>
      s.answer call.toExport) (ErrorStore.answer w) Creations.record (SameCodes w)
    fun l call r r' => r = r' ↔ ¬ AnswersDiffer w l call := by
  intro l s t call r s' h hcall
  cases call with
  | create value categoryType =>
    obtain ⟨⟨handle, s₁⟩, hs, heq⟩ := Option.map_eq_some_iff.mp hcall
    obtain ⟨rfl, rfl⟩ := Prod.mk.inj heq
    obtain ⟨t', rfl, ht, h'⟩ := h.create hs
    have hsingles := h.singles.length_le
    have hcreated := h.fits
    exact ⟨_, t', congrArg (Option.map _) ht,
      (handle_reply_eq_iff hcreated (by omega)).trans (eq_comm.trans not_not.symm), h'⟩
  | bulk pairs =>
    obtain ⟨⟨handles, s₁⟩, hs, heq⟩ := Option.map_eq_some_iff.mp hcall
    obtain ⟨rfl, rfl⟩ := Prod.mk.inj heq
    obtain ⟨rfl, h'⟩ := h.bulk hs
    have hreply : ∀ hs hs', ExportReply.handles hs = .handles hs' ↔ hs = hs' :=
      fun _ _ => ⟨ExportReply.handles.inj, congrArg _⟩
    exact ⟨_, t, rfl, (hreply _ _).trans (eq_comm.trans not_not.symm), h'⟩
  | compare h₁ h₂ =>
    obtain ⟨b, hs, heq⟩ := Option.map_eq_some_iff.mp hcall
    obtain ⟨rfl, rfl⟩ := Prod.mk.inj heq
    obtain ⟨b', hs', hissued⟩ := h.compare h₁ h₂
    obtain rfl : b' = b := Option.some.inj (hs'.symm.trans hs)
    refine ⟨_, t, rfl, Iff.trans ?_ not_not.symm, h⟩
    rw [ExportReply.equal.injEq, Bool.eq_iff_iff, hissued, compareErrorCodes_iff]
    exact iff_comm
  | format value categoryType =>
    obtain ⟨⟨text, s₁⟩, hs, heq⟩ := Option.map_eq_some_iff.mp hcall
    obtain ⟨rfl, rfl⟩ := Prod.mk.inj heq
    obtain ⟨messages, -, heq⟩ := Option.bind_eq_some_iff.mp hs
    obtain ⟨rfl, rfl⟩ := Prod.mk.inj (Option.some.inj heq)
    exact ⟨_, _, congrArg (Option.map _) (formatErrorMessage_eq t value categoryType),
      (text_reply_eq_iff _ _).trans not_not.symm,
      h.simple, h.library, h.singles, h.interned, h.fits⟩
  | intern message =>
    obtain ⟨⟨handle, s₁⟩, hs, heq⟩ := Option.map_eq_some_iff.mp hcall
    obtain ⟨rfl, rfl⟩ := Prod.mk.inj heq
    obtain ⟨t', ht, h'⟩ := h.intern hs
    exact ⟨_, t', congrArg (Option.map _) ht, iff_of_true rfl id, h'⟩
  | interned handle =>
    obtain ⟨message, hs, heq⟩ := Option.map_eq_some_iff.mp hcall
    obtain ⟨rfl, rfl⟩ := Prod.mk.inj heq
    have ht : t.getInternedMessage handle = some message := by
      rw [ErrorStore.getInternedMessage, h.interned]
      exact hs
    exact ⟨_, t, congrArg (Option.map _) ht, iff_of_true rfl id, h⟩

end SideBySide

/-- What is said of a run that returns in the simple module. -/
structure RunsAlike (calls : List SharedExport) (replies replies' : List ExportReply)
    (s : BoostSystem.ErrorStore) (t : ErrorStore U K) : Prop where
  answers : ∀ before call after, calls = before ++ call :: after →
    ∃ r r', replies[before.length]? = some r ∧ replies'[before.length]? = some r' ∧
      (r = r' ↔ ¬ AnswersDiffer w (Runs.run Creations.record .empty before) call)
  codes : t.errorStorage.Sublist
    (s.errorStorage.map fun ec => .ofCategory w ec.value (pointerOf ec.category))
  singles : t.errorStorage = (Runs.run Creations.record .empty calls).singles.map fun pair =>
    .ofCategory w pair.1 (pointerOf pair.2)
  interned : t.internedMessages = s.internedMessages

/-- A run of calls that returns in the simple module returns over the library too, and the answers
differ exactly at the calls that are listed. -/
theorem header_runs_alike (calls : List SharedExport) (replies : List ExportReply)
    (s : BoostSystem.ErrorStore)
    (hcalls : Runs.answers (fun (s : BoostSystem.ErrorStore) (call : SharedExport) =>
      s.answer call.toExport) .empty calls = some (replies, s)) :
    ∃ replies' t, Runs.answers (ErrorStore.answer w) .empty calls = some (replies', t) ∧
      RunsAlike w calls replies replies' s t := by
  obtain ⟨replies', t, ht, hcompared, h⟩ := answer_follows.answers (sameCodes_empty w) hcalls
  refine ⟨replies', t, ht, ?_, ?_, h.library, h.interned⟩
  · intro before call after hsplit
    exact hcompared.at hsplit
  · have hcodes : (s.errorStorage.map fun ec => ErrorCode.ofCategory w ec.value (pointerOf ec.category)) =
        (Runs.run Creations.record .empty calls).created.map fun pair =>
          .ofCategory w pair.1 (pointerOf pair.2) := by
      rw [h.simple, List.map_map]
      rfl
    rw [h.library, hcodes]
    exact h.singles.map _

theorem header_runs_alike_two :
    ∃ replies' t, Runs.answers (ErrorStore.answer (plainPair 0)) .empty
        [.bulk [(0, 0)], .create 2 0, .compare 0 1] = some (replies', t) ∧
      RunsAlike (plainPair 0) [.bulk [(0, 0)], .create 2 0, .compare 0 1]
        [.handles [0], .handle 1, .equal false] replies'
        ⟨[.ofPair 0 0, .ofPair 2 0], [], []⟩ t :=
  header_runs_alike (plainPair 0) [.bulk [(0, 0)], .create 2 0, .compare 0 1]
    [.handles [0], .handle 1, .equal false] ⟨[.ofPair 0 0, .ofPair 2 0], [], []⟩ rfl

end Header

end BoostSystem
