import BoostSystem.BoundedCopies
import BoostSystem.Codes
import BoostSystem.DecimalText

/-!
# Messages in buffers

Four overloads of `message` that take a buffer, with guards of their own each, and one contract: the
text of the allocating overload, cut off at the length of the buffer.
-/

namespace BoostSystem

open CString

variable {U K : Type}

/-- What the buffer is to hold; `none` is a throw. -/
def messageText (message : Option String) (fallback : String) : List Char :=
  (message.map cStr).getD fallback.toList

/-- With a length of zero nothing is written. Otherwise nothing is written at or behind the length,
and the text that is returned is a literal or a bounded copy in the buffer. -/
structure Truncates (message : Option String) (fallback : String)
    (f : Option Buffer → ℕ → Text) : Prop where
  empty : ∀ buffer, f buffer 0 = ⟨.buffer, buffer⟩
  outside : ∀ b len, ∃ b', (f (some b) len).buffer = some b' ∧ ∀ i, len ≤ i → b' i = b i
  text : ∀ b len, 0 < len →
    (∃ m, (f (some b) len).ptr = .literal m ∧ message = some m) ∨
    (f (some b) len).ptr = .buffer ∧ ∃ b', (f (some b) len).buffer = some b' ∧
      BoundedCopy b b' len (messageText message fallback)

/-- A function that always returns the buffer with a bounded copy in it. -/
theorem truncates_of_boundedCopy {message : Option String} {fallback : String}
    {f : Option Buffer → ℕ → Text} {write : Buffer → ℕ → Buffer}
    (hf : ∀ buffer len, f buffer len = ⟨.buffer, buffer.map (write · len)⟩)
    (hzero : ∀ b, write b 0 = b)
    (hwrite : ∀ b len, 0 < len →
      BoundedCopy b (write b len) len (messageText message fallback)) :
    Truncates message fallback f := by
  refine ⟨?_, ?_, ?_⟩
  · intro buffer
    cases buffer with
    | none => exact hf none 0
    | some b => rw [hf, Option.map_some, hzero]
  · intro b len
    refine ⟨write b len, by rw [hf, Option.map_some], ?_⟩
    rcases Nat.eq_zero_or_pos len with rfl | hlen
    · intro i _
      rw [hzero]
    · exact (hwrite b len hlen).outside
  · intro b len hlen
    rw [hf]
    exact Or.inr ⟨rfl, _, rfl, hwrite b len hlen⟩

theorem snprintf_zero (buffer : Buffer) (text : List Char) : snprintf buffer 0 text = buffer := by
  funext i
  exact if_neg (Nat.not_lt_zero i)

/-! ### The default overload -/

/-- What the default overload does to a buffer. -/
def writeMessage (text : List Char) (buffer : Buffer) (len : ℕ) : Buffer :=
  if len = 0 then buffer else if len = 1 then store buffer 0 nul else snprintf buffer len text

theorem writeMessage_boundedCopy (text : List Char) (buffer : Buffer) {len : ℕ} (hlen : 0 < len) :
    BoundedCopy buffer (writeMessage text buffer len) len text := by
  unfold writeMessage
  rw [if_neg (Nat.pos_iff_ne_zero.mp hlen)]
  split_ifs with hone
  · rw [hone]
    exact store_zero_boundedCopy buffer text
  · exact snprintf_boundedCopy buffer text len

theorem messageBuffer_default (w : Program U K) {c : ErrorCategory U}
    (hdefault : (w.classOf c).messageBuffer = none) (ev : Int32) (buffer : Option Buffer)
    (len : ℕ) : c.messageBuffer w ev buffer len = ⟨.buffer, buffer.map
      (writeMessage (messageText (c.message w ev)
        ("No message text available for error " ++ decimal ev)) · len)⟩ := by
  unfold ErrorCategory.messageBuffer writeMessage
  rw [hdefault]
  dsimp only
  split_ifs with hzero hone
  · rw [Option.map_id']
  · rfl
  · cases c.message w ev with
    | none => rfl
    | some m => rfl

theorem messageBuffer_default_truncates (w : Program U K) {c : ErrorCategory U}
    (hdefault : (w.classOf c).messageBuffer = none) (ev : Int32) :
    Truncates (c.message w ev) ("No message text available for error " ++ decimal ev)
      (c.messageBuffer w ev) :=
  truncates_of_boundedCopy (messageBuffer_default w hdefault ev) (fun _ => if_pos rfl)
    fun b _ hlen => writeMessage_boundedCopy _ b hlen

/-! ### The generic and the system category -/

/-- What the helper does to a buffer once it has an error text. -/
def writeError (text : List Char) (buffer : Buffer) (len : ℕ) : Buffer :=
  if len = 0 then buffer
  else if len = 1 then store buffer 0 nul
  else store (strncpy buffer text (len - 1)) (len - 1) nul

theorem writeError_boundedCopy (text : List Char) (buffer : Buffer) {len : ℕ} (hlen : 0 < len) :
    BoundedCopy buffer (writeError text buffer len) len text := by
  unfold writeError
  rw [if_neg (Nat.pos_iff_ne_zero.mp hlen)]
  split_ifs with hone
  · rw [hone]
    exact store_zero_boundedCopy buffer text
  · exact strncpy_store_boundedCopy buffer text hlen

section Generic

variable {w : Program U K} {strerror : Int32 → Option String} (hlibc : w.libc = .other strerror)
  (ev : Int32)

include hlibc

theorem genericErrorCategoryMessage_other :
    genericErrorCategoryMessage w ev = (strerror ev).getD "Unknown error" := by
  unfold genericErrorCategoryMessage
  rw [hlibc]

theorem genericErrorCategoryMessageBuffer_some {m : String} (hm : strerror ev = some m)
    (buffer : Option Buffer) (len : ℕ) : genericErrorCategoryMessageBuffer w ev buffer len =
      ⟨.buffer, buffer.map (writeError (cStr m) · len)⟩ := by
  unfold genericErrorCategoryMessageBuffer writeError
  simp only [hlibc, hm]
  split_ifs with hzero hone
  · rw [Option.map_id']
  · rfl
  · rfl

theorem genericErrorCategoryMessageBuffer_none (hnone : strerror ev = none)
    (buffer : Option Buffer) (len : ℕ) : genericErrorCategoryMessageBuffer w ev buffer len =
      if len = 0 then ⟨.buffer, buffer⟩
      else if len = 1 then ⟨.buffer, buffer.map (store · 0 nul)⟩
      else ⟨.literal "Unknown error", buffer⟩ := by
  unfold genericErrorCategoryMessageBuffer
  simp only [hlibc, hnone]

/-- Without an error text the literal is returned, as the allocating overload returns it. -/
theorem genericErrorCategoryMessageBuffer_truncates (fallback : String) :
    Truncates (some (genericErrorCategoryMessage w ev)) fallback
      (genericErrorCategoryMessageBuffer w ev) := by
  rw [genericErrorCategoryMessage_other hlibc]
  cases herror : strerror ev with
  | some m =>
    exact truncates_of_boundedCopy (genericErrorCategoryMessageBuffer_some hlibc ev herror)
      (fun _ => if_pos rfl) fun b _ hlen => writeError_boundedCopy _ b hlen
  | none =>
    have hcall := genericErrorCategoryMessageBuffer_none hlibc ev herror
    refine ⟨fun buffer => (hcall buffer 0).trans (if_pos rfl), ?_, ?_⟩
    · intro b len
      rw [hcall]
      split_ifs with hzero hone
      · exact ⟨b, rfl, fun _ _ => rfl⟩
      · refine ⟨_, rfl, ?_⟩
        rw [hone]
        exact (store_zero_boundedCopy b []).outside
      · exact ⟨b, rfl, fun _ _ => rfl⟩
    · intro b len hlen
      rw [hcall, if_neg (Nat.pos_iff_ne_zero.mp hlen)]
      split_ifs with hone
      · refine Or.inr ⟨rfl, _, rfl, ?_⟩
        rw [hone]
        exact store_zero_boundedCopy b _
      · exact Or.inl ⟨_, rfl, rfl⟩

end Generic

/-! ### The interop category -/

/-- The text of a value that the interop category knows nothing about. -/
def interopText (ev : Int32) : String := "Unknown interop error " ++ decimal ev

theorem nul_notMem_interopText (ev : Int32) : nul ∉ (interopText ev).toList :=
  nul_notMem_append_decimal (by simp [nul]) ev

theorem length_interopText (ev : Int32) : (interopText ev).toList.length < 48 := by
  have hlength := length_append_decimal_le "Unknown interop error " ev
  have hprefix : "Unknown interop error ".length = 22 := by decide
  exact hlength.trans_lt (by omega)

theorem interopErrorCategoryMessageBuffer_eq (ev : Int32) (buffer : Option Buffer) (len : ℕ) :
    interopErrorCategoryMessageBuffer ev buffer len =
      ⟨.buffer, buffer.map fun b => snprintf b len (interopText ev).toList⟩ := rfl

/-- The local array is long enough for every value. -/
theorem interopErrorCategory_message (w : Program U K) (ev : Int32) :
    (interopErrorCategory w).message ev = some (interopText ev) := by
  have hcopy := snprintf_boundedCopy w.stack (interopText ev).toList 48
  have hread := hcopy.readArray (length_interopText ev) (nul_notMem_interopText ev)
  exact congrArg some hread

theorem interopErrorCategoryMessageBuffer_truncates (w : Program U K) (ev : Int32)
    (fallback : String) : Truncates ((interopErrorCategory w).message ev) fallback
      (interopErrorCategoryMessageBuffer ev) := by
  rw [interopErrorCategory_message]
  refine truncates_of_boundedCopy (interopErrorCategoryMessageBuffer_eq ev)
    (fun b => snprintf_zero b _) ?_
  intro b len _
  rw [messageText, Option.map_some, Option.getD_some,
    cStr_of_nul_notMem (nul_notMem_interopText ev)]
  exact snprintf_boundedCopy b _ len

/-! ### A code that wraps a `std::error_code` -/

/-- The text for a `std` message that cannot be had. -/
def stdFallback (w : Program U K) (ec : ErrorCode U K) : String :=
  "No message text available for error std:" ++ ec.data.d2Code.category.name w ++ ":" ++
    decimal ec.data.d2Code.value

theorem messageBuffer_wrapped (w : Program U K) {ec : ErrorCode U K} (hwrapped : ec.lcFlags = 1)
    (buffer : Option Buffer) (len : ℕ) : ec.messageBuffer w buffer len = ⟨.buffer, buffer.map
      fun b => snprintf b len (messageText (ec.message w) (stdFallback w ec))⟩ := by
  have hflags : (ec.lcFlags == 1) = true := beq_iff_eq.mpr hwrapped
  rw [ErrorCode.messageBuffer, ErrorCode.message, if_pos hflags, if_pos hflags]
  cases ec.data.d2Code.message w with
  | none => rfl
  | some m => rfl

theorem messageBuffer_wrapped_truncates (w : Program U K) {ec : ErrorCode U K}
    (hwrapped : ec.lcFlags = 1) :
    Truncates (ec.message w) (stdFallback w ec) (ec.messageBuffer w) :=
  truncates_of_boundedCopy (messageBuffer_wrapped w hwrapped) (fun b => snprintf_zero b _)
    fun b len _ => snprintf_boundedCopy b _ len

/-! ### The four overloads -/

/-- Every overload that takes a buffer truncates the message of the one that allocates. -/
theorem message_buffers_truncate (w : Program U K) :
    (∀ c : ErrorCategory U, (w.classOf c).messageBuffer = none → ∀ ev,
      Truncates (c.message w ev) ("No message text available for error " ++ decimal ev)
        (c.messageBuffer w ev)) ∧
    (∀ strerror, w.libc = .other strerror → ∀ ev,
      Truncates (some (genericErrorCategoryMessage w ev)) ""
          (genericErrorCategoryMessageBuffer w ev) ∧
        Truncates (some (systemErrorCategoryMessage w ev)) ""
          (systemErrorCategoryMessageBuffer w ev)) ∧
    (∀ ev, Truncates ((interopErrorCategory w).message ev) ""
      (interopErrorCategoryMessageBuffer ev)) ∧
    ∀ ec : ErrorCode U K, ec.lcFlags = 1 →
      Truncates (ec.message w) (stdFallback w ec) (ec.messageBuffer w) := by
  refine ⟨?_, ?_, ?_, ?_⟩
  · intro c hdefault ev
    exact messageBuffer_default_truncates w hdefault ev
  · intro strerror hlibc ev
    exact ⟨genericErrorCategoryMessageBuffer_truncates hlibc ev "",
      genericErrorCategoryMessageBuffer_truncates hlibc ev ""⟩
  · intro ev
    exact interopErrorCategoryMessageBuffer_truncates w ev ""
  · intro ec hwrapped
    exact messageBuffer_wrapped_truncates w hwrapped

theorem message_buffers_truncate_plain :
    Truncates (some "message") ("No message text available for error " ++ decimal 5)
        ((ErrorCategory.user false).messageBuffer (plainPair 0) 5) ∧
      Truncates (some "Unknown error") "" (genericErrorCategoryMessageBuffer (plainPair 0) 5) ∧
      Truncates (some "system") (stdFallback (plainPair 0) (.wrap ⟨5, .system⟩))
        ((ErrorCode.wrap ⟨5, .system⟩).messageBuffer (plainPair 0)) :=
  ⟨(message_buffers_truncate (plainPair 0)).1 (.user false) rfl 5,
    ((message_buffers_truncate (plainPair 0)).2.1 (fun _ => none) rfl 5).1,
    (message_buffers_truncate (plainPair 0)).2.2.2 (.wrap ⟨5, .system⟩) rfl⟩

end BoostSystem
