import BoostSystem.DecimalText
import BoostSystem.Trimming

/-!
# The texts of Windows system errors

Both overloads of `system_category_message_win32`. The functions of the Windows API that they call are
parameters; a text that `FormatMessageW` allocates is a block of `LocalHeap`. `NULL` flags, language
and arguments are the same at every call and are left out of the parameters.
-/

namespace BoostSystem

namespace Win32

open CString

inductive CodePage where
  | acp
  | utf8
deriving DecidableEq

/-- The blocks that `LocalFree` has not been called for, by their addresses. -/
abbrev LocalHeap := List (ℕ × List UInt16)

structure Winapi where
  /-- `BOOST_SYSTEM_USE_UTF8` -/
  useUtf8 : Bool
  /-- `BOOST_NO_ANSI_APIS` -/
  noAnsiApis : Bool
  /-- What is in a local array. -/
  stack : Buffer
  /-- From the error number, `lpBuffer` and `nSize`. -/
  formatMessageA : UInt32 → Buffer → UInt32 → UInt32 × Buffer
  /-- With `FORMAT_MESSAGE_ALLOCATE_BUFFER` and no size; also the address that is stored through `lpBuffer`. -/
  formatMessageW : UInt32 → LocalHeap → UInt32 × ℕ × LocalHeap
  /-- From the code page, `lpWideCharStr`, `lpMultiByteStr` and `cbMultiByte`. -/
  wideCharToMultiByte : CodePage → ℕ → LocalHeap → Buffer → Int32 → Int32 × Buffer
  localFree : ℕ → LocalHeap → LocalHeap

/-! ### The functions -/

def unknownText (ev : Int32) : String := "Unknown error (" ++ decimal ev ++ ")"

def unknownMessageWin32Buffer (ev : Int32) (buffer : Buffer) (len : ℕ) : Buffer :=
  snprintf buffer len (unknownText ev).toList

def isLineBreak (c : Char) : Bool := c == '\n' || c == '\r'

def isFullStop (c : Char) : Bool := c == '.'

section Functions

variable (api : Winapi)

def messageCpWin32 : CodePage := if api.useUtf8 then .utf8 else .acp

/-- Whether `FormatMessageA` is called. -/
def formatsAnsi : Bool := !api.noAnsiApis && messageCpWin32 api == .acp

/-- The call of `FormatMessageA`, or of `FormatMessageW` and `WideCharToMultiByte`: `r` and the buffer. -/
def formatInto (ev : Int32) (buffer : Buffer) (len : ℕ) (heap : LocalHeap) :
    Int32 × Buffer × LocalHeap :=
  if formatsAnsi api then
    let (retval, buffer) := api.formatMessageA ev.toUInt32 buffer (UInt32.ofNat len)
    (retval.toInt32, buffer, heap)
  else
    let (retval, lpMsgBuf, heap) := api.formatMessageW ev.toUInt32 heap
    if retval != 0 then
      let (r, buffer) :=
        api.wideCharToMultiByte (messageCpWin32 api) lpMsgBuf heap buffer (Int32.ofNat len)
      (if r != 0 then r - 1 else r, buffer, api.localFree lpMsgBuf heap)
    else (0, buffer, heap)

def systemCategoryMessageWin32Buffer (ev : Int32) (buffer : Buffer) (len : ℕ)
    (heap : LocalHeap) : Buffer × LocalHeap :=
  if len = 0 then (buffer, heap)
  else if len = 1 then (store buffer 0 nul, heap)
  else
    let (r, buffer, heap) := formatInto api ev buffer len heap
    if r == 0 then (unknownMessageWin32Buffer ev buffer len, heap)
    else
      -- a negative `r` stops both loops at once
      let (buffer, r) := trimWhile isLineBreak buffer r.toInt.toNat
      ((trimOne isFullStop buffer r).1, heap)

def unknownMessageWin32 (ev : Int32) : String :=
  readArray 38 (unknownMessageWin32Buffer ev api.stack 38)

/-- The overload that allocates; `none` is the exception of a string that is made, or resized, too long. -/
def systemCategoryMessageWin32 (ev : Int32) (heap : LocalHeap) : Option String × LocalHeap :=
  let (retval, lpMsgBuf, heap) := api.formatMessageW ev.toUInt32 heap
  if retval == 0 then (some (unknownMessageWin32 api ev), heap)
  else
    -- from here on the destructor of `lf_` frees the text
    let (r, _) := api.wideCharToMultiByte (messageCpWin32 api) lpMsgBuf heap (fun _ => nul) 0
    if r == 0 then (some (unknownMessageWin32 api ev), api.localFree lpMsgBuf heap)
    else if r < 0 then (none, api.localFree lpMsgBuf heap)
    else
      let (r, buffer) :=
        api.wideCharToMultiByte (messageCpWin32 api) lpMsgBuf heap (fun _ => nul) r
      if r == 0 then (some (unknownMessageWin32 api ev), api.localFree lpMsgBuf heap)
      else if r < 0 then (none, api.localFree lpMsgBuf heap)
      else
        let r := shrinkOne isFullStop buffer (shrinkWhile isLineBreak buffer (r - 1).toInt.toNat)
        (some (String.ofList ((List.range r).map buffer)), api.localFree lpMsgBuf heap)

end Functions

/-! ### What is documented of the API -/

/-- A call that writes a text and its terminator into `size` characters, if it fits. -/
structure Fills (before after : Buffer) (size : ℕ) (text : List Char) : Prop where
  outside : ∀ i, size ≤ i → after i = before i
  copied : text.length < size → BoundedCopy before after size text

/-- `message` are the texts of the system, and `convert` is what a code page makes of a text. -/
structure Documented (api : Winapi) (message : UInt32 → Option (List UInt16))
    (convert : CodePage → List UInt16 → Option (List Char)) : Prop where
  /-- The size of the output buffer is at most 64 K. -/
  ansi : ∀ ev buffer (size : UInt32), 0 < size → size.toNat ≤ 65536 →
    let result := api.formatMessageA ev buffer size
    match (message ev).bind (convert .acp) with
    | none => result.1 = 0 ∧ ∀ i, size.toNat ≤ i → result.2 i = buffer i
    | some text => Fills buffer result.2 size.toNat text ∧
      result.1.toNat = if text.length < size.toNat then text.length else 0
  wide_none : ∀ ev heap, message ev = none →
    (api.formatMessageW ev heap).1 = 0 ∧ (api.formatMessageW ev heap).2.2 = heap
  wide_some : ∀ ev heap text, message ev = some text →
    (api.formatMessageW ev heap).1 ≠ 0 ∧ ∃ p, heap.lookup p = none ∧
      (api.formatMessageW ev heap).2 = (p, (p, text) :: heap)
  /-- The characters that are written, the terminator included, or with a size of zero the size that
  is needed. -/
  conversion : ∀ cp p (heap : LocalHeap) wide buffer size, heap.lookup p = some wide →
    let result := api.wideCharToMultiByte cp p heap buffer size
    match convert cp wide with
    | none => result.1 = 0 ∧ ∀ i, size.toInt.toNat ≤ i → result.2 i = buffer i
    | some text => Fills buffer result.2 size.toInt.toNat text ∧
      result.1.toInt = if size = 0 ∨ (text.length : ℤ) < size.toInt then (text.length : ℤ) + 1 else 0
  free : ∀ p text (heap : LocalHeap), heap.lookup p = none →
    api.localFree p ((p, text) :: heap) = heap
  /-- The texts are terminated by NULs. -/
  nul_notMem : ∀ cp wide text, convert cp wide = some text → nul ∉ text

/-! ### Filling the buffer -/

/-- The text without the line breaks at its end, and then without a full stop at its end. -/
def trimmed (text : List Char) : List Char := dropLastIf isFullStop (text.rdropWhile isLineBreak)

theorem trimmed_isStart (text : List Char) : trimmed text <+: text := by
  have hstart := List.rdropWhile_prefix isLineBreak text
  exact (dropLastIf_isStart _ _).trans hstart

section Trim

variable {before after : Buffer} {size : ℕ} {text : List Char}
  (h : BoundedCopy before after size text) (hfits : text.length < size)

include h hfits

/-- The loop and the test after it in a buffer. -/
theorem trim_boundedCopy :
    BoundedCopy before (trimOne isFullStop (trimWhile isLineBreak after text.length).1
      (trimWhile isLineBreak after text.length).2).1 size (trimmed text) := by
  obtain ⟨hcopy, hshrink⟩ := h.trimWhile isLineBreak hfits
  have hstart := List.rdropWhile_prefix isLineBreak text
  rw [trimWhile_snd, hshrink]
  exact (hcopy.trimOne isFullStop (hstart.length_le.trans_lt hfits)).1

/-- The same on a string, which is cut off only at the end. -/
theorem shrink_map_range :
    (List.range (shrinkOne isFullStop after (shrinkWhile isLineBreak after text.length))).map
      after = trimmed text := by
  obtain ⟨hcopy, hshrink⟩ := h.trimWhile isLineBreak hfits
  have hstart := List.rdropWhile_prefix isLineBreak text
  have hshorter := hstart.length_le.trans_lt hfits
  have hsame : shrinkOne isFullStop after (text.rdropWhile isLineBreak).length =
      (trimmed text).length := by
    rw [trimmed, ← (hcopy.trimOne isFullStop hshorter).2]
    apply shrinkOne_congr
    intro i hi
    rw [h.getElem hfits (hi.trans_le hstart.length_le), hcopy.getElem hshorter hi,
      hstart.getElem]
  rw [hshrink, hsame]
  exact h.map_range hfits (trimmed_isStart text)

end Trim

/-- How many characters the functions of the API are told to write. -/
def room (api : Winapi) (len : ℕ) : ℤ :=
  if formatsAnsi api then len else (Int32.ofNat len).toInt

/-- The lengths that the API can be given. A size of zero would not ask for the text. -/
def Served (api : Winapi) (len : ℕ) : Prop :=
  if formatsAnsi api then len ≤ 65536 else len = 0 ∨ (Int32.ofNat len).toInt ≠ 0

/-- What the buffer holds when the first part of the function is done: a text that fits, or nothing
that matters. -/
inductive Formatted (before : Buffer) (len : ℕ) : Option (List Char) → Int32 → Buffer → Prop where
  | text {t : List Char} {r : Int32} {after : Buffer} (length : r.toInt = t.length)
      (nonempty : t ≠ []) (fits : t.length < len) (copy : BoundedCopy before after len t) :
      Formatted before len (some t) r after
  | failed {after : Buffer} (outside : ∀ i, len ≤ i → after i = before i) :
      Formatted before len none 0 after

theorem toInt_sub_one {r : Int32} (hr : 0 < r.toInt) : (r - 1).toInt = r.toInt - 1 := by
  have hlt := r.toInt_lt
  rw [Int32.toInt_sub]
  exact Int.bmod_eq_of_le (by simp; omega) (by simp; omega)

theorem toInt_toInt32 {x : UInt32} (hx : x.toNat ≤ 65536) : x.toInt32.toInt = x.toNat := by
  rw [← Int32.toInt_toBitVec, UInt32.toBitVec_toInt32, BitVec.toInt_eq_toNat_bmod]
  exact Int.bmod_eq_of_le (by simp) (by simp; omega)

theorem toInt_ofNat_le (len : ℕ) : (Int32.ofNat len).toInt ≤ len := by
  rw [Int32.toInt_ofNat', Int32.size, Int.bmod]
  split_ifs
  · omega
  · omega

theorem length_eq_zero_of_not {text : List Char} {short : Prop} (h : ¬ (text ≠ [] ∧ short))
    (hshort : short) : text.length = 0 := by
  by_contra hne
  exact h ⟨fun hnil => hne (by rw [hnil]; rfl), hshort⟩

theorem excluding_terminator {r : Int32} (h : r.toInt = 0 ∨ r.toInt = 1) :
    (if r != 0 then r - 1 else r) = 0 := by
  rcases h with hzero | hone
  · have hr : r = 0 := Int32.toInt_inj.mp hzero
    rw [hr]
    rfl
  · have hr : r = 1 := Int32.toInt_inj.mp hone
    rw [hr]
    rfl

section Overloads

variable {api : Winapi} {message : UInt32 → Option (List UInt16)}
  {convert : CodePage → List UInt16 → Option (List Char)} (hdoc : Documented api message convert)
  (ev : Int32)

/-- The text of an error number in the code page. -/
def narrow (api : Winapi) (message : UInt32 → Option (List UInt16))
    (convert : CodePage → List UInt16 → Option (List Char)) (ev : Int32) : Option (List Char) :=
  (message ev.toUInt32).bind (convert (messageCpWin32 api))

/-- The text that fits in the buffer. -/
def fitting (api : Winapi) (message : UInt32 → Option (List UInt16))
    (convert : CodePage → List UInt16 → Option (List Char)) (ev : Int32) (len : ℕ) :
    Option (List Char) :=
  (narrow api message convert ev).filter fun text => text ≠ [] ∧ (text.length : ℤ) < room api len

include hdoc

theorem formatInto_ansi (hansi : formatsAnsi api = true) (buffer : Buffer) {len : ℕ}
    (hlen : 0 < len) (hserved : len ≤ 65536) (heap : LocalHeap) :
    ∃ r after, formatInto api ev buffer len heap = (r, after, heap) ∧
      Formatted buffer len (fitting api message convert ev len) r after := by
  have hcode : messageCpWin32 api = .acp := by
    rw [formatsAnsi, Bool.and_eq_true, beq_iff_eq] at hansi
    exact hansi.2
  have hsize : (UInt32.ofNat len).toNat = len :=
    UInt32.toNat_ofNat_of_lt' (by simp [UInt32.size]; omega)
  have hcall := hdoc.ansi ev.toUInt32 buffer (UInt32.ofNat len)
    (UInt32.lt_iff_toNat_lt.mpr (by rw [hsize]; exact hlen)) (by omega)
  have hroom : room api len = len := if_pos hansi
  rcases hresult : api.formatMessageA ev.toUInt32 buffer (UInt32.ofNat len) with ⟨retval, after⟩
  rw [hresult, hsize, ← hcode] at hcall
  refine ⟨retval.toInt32, after, ?_, ?_⟩
  · rw [formatInto, if_pos hansi, hresult]
  · rw [fitting, narrow, hroom]
    cases htext : (message ev.toUInt32).bind (convert (messageCpWin32 api)) with
    | none =>
      rw [htext] at hcall
      obtain ⟨hzero, houtside⟩ := hcall
      rw [show retval = 0 from hzero]
      exact Formatted.failed houtside
    | some text =>
      rw [htext] at hcall
      obtain ⟨hfills, hlength⟩ := hcall
      dsimp only at hfills hlength
      by_cases hfits : text ≠ [] ∧ text.length < len
      · rw [if_pos hfits.2] at hlength
        rw [Option.filter_some_pos (by simpa using hfits)]
        refine Formatted.text ?_ hfits.1 hfits.2 (hfills.copied hfits.2)
        rw [toInt_toInt32 (by omega), hlength]
      · have hzero : retval = 0 := by
          apply UInt32.toNat_inj.mp
          rw [hlength]
          split_ifs with hshort
          · rw [length_eq_zero_of_not hfits hshort]
            rfl
          · rfl
        rw [Option.filter_some_neg (by simpa using hfits), hzero]
        exact Formatted.failed hfills.outside

theorem formatInto_wide (hwide : ¬ formatsAnsi api = true) (buffer : Buffer) {len : ℕ}
    (hserved : (Int32.ofNat len).toInt ≠ 0) (heap : LocalHeap) :
    ∃ r after, formatInto api ev buffer len heap = (r, after, heap) ∧
      Formatted buffer len (fitting api message convert ev len) r after := by
  have hroom : room api len = (Int32.ofNat len).toInt := if_neg hwide
  have hle := toInt_ofNat_le len
  rw [formatInto, if_neg hwide, fitting, narrow, hroom]
  rcases hformat : api.formatMessageW ev.toUInt32 heap with ⟨retval, p, blocks⟩
  cases hmessage : message ev.toUInt32 with
  | none =>
    obtain ⟨hzero, hheap⟩ := hdoc.wide_none ev.toUInt32 heap hmessage
    rw [hformat] at hzero hheap
    dsimp only at hzero hheap
    subst hzero hheap
    exact ⟨0, buffer, rfl, Formatted.failed fun _ _ => rfl⟩
  | some wide =>
    obtain ⟨hnonzero, q, hfresh, hblock⟩ := hdoc.wide_some ev.toUInt32 heap wide hmessage
    rw [hformat] at hnonzero hblock
    cases hblock
    have hcall := hdoc.conversion (messageCpWin32 api) p ((p, wide) :: heap) wide buffer
      (Int32.ofNat len) List.lookup_cons_self
    rcases hresult : api.wideCharToMultiByte (messageCpWin32 api) p ((p, wide) :: heap) buffer
      (Int32.ofNat len) with ⟨r, after⟩
    rw [hresult] at hcall
    refine ⟨if r != 0 then r - 1 else r, after, ?_, ?_⟩
    · refine (if_pos (bne_iff_ne.mpr hnonzero)).trans ?_
      rw [hresult, hdoc.free p wide heap hfresh]
    · rw [Option.bind_some]
      cases htext : convert (messageCpWin32 api) wide with
      | none =>
        rw [htext] at hcall
        obtain ⟨hzero, houtside⟩ := hcall
        rw [show r = 0 from hzero]
        exact Formatted.failed fun i hi => houtside i (by omega)
      | some text =>
        rw [htext] at hcall
        obtain ⟨hfills, hlength⟩ := hcall
        dsimp only at hfills hlength
        have hsize : Int32.ofNat len ≠ 0 := fun hzero => hserved (by rw [hzero]; rfl)
        by_cases hfits : text ≠ [] ∧ (text.length : ℤ) < (Int32.ofNat len).toInt
        · rw [if_pos (Or.inr hfits.2)] at hlength
          have hr : r ≠ 0 := by
            rintro rfl
            rw [Int32.toInt_zero] at hlength
            omega
          have hcopy := hfills.copied (by omega)
          rw [Option.filter_some_pos (by simpa using hfits), if_pos (bne_iff_ne.mpr hr)]
          refine Formatted.text ?_ hfits.1 (by omega) (hcopy.mono (by omega) (by omega))
          rw [toInt_sub_one (by omega), hlength]
          omega
        · have hzero : (if r != 0 then r - 1 else r) = 0 := by
            apply excluding_terminator
            split_ifs at hlength with hshort
            · right
              rw [hlength, length_eq_zero_of_not hfits (hshort.resolve_left hsize)]
              rfl
            · exact Or.inl hlength
          rw [Option.filter_some_neg (by simpa using hfits), hzero]
          exact Formatted.failed fun i hi => hfills.outside i (by omega)

/-- A text that fits is in the buffer, and what was allocated for it is free again. -/
theorem formatInto_spec (buffer : Buffer) {len : ℕ} (hlen : 0 < len) (hserved : Served api len)
    (heap : LocalHeap) : ∃ r after, formatInto api ev buffer len heap = (r, after, heap) ∧
      Formatted buffer len (fitting api message convert ev len) r after := by
  rw [Served] at hserved
  split_ifs at hserved with hansi
  · exact formatInto_ansi hdoc ev hansi buffer hlen hserved heap
  · exact formatInto_wide hdoc ev hansi buffer (hserved.resolve_left (by omega)) heap

/-- What the buffer shows. -/
def shown (api : Winapi) (message : UInt32 → Option (List UInt16))
    (convert : CodePage → List UInt16 → Option (List Char)) (ev : Int32) (len : ℕ) : List Char :=
  ((fitting api message convert ev len).map trimmed).getD (unknownText ev).toList

theorem systemCategoryMessageWin32Buffer_spec (buffer : Buffer) {len : ℕ}
    (hserved : Served api len) (heap : LocalHeap) :
    ∃ after, systemCategoryMessageWin32Buffer api ev buffer len heap = (after, heap) ∧
      BoundedCopy buffer after len (shown api message convert ev len) := by
  rw [systemCategoryMessageWin32Buffer]
  split_ifs with hzero hone
  · rw [hzero]
    exact ⟨buffer, rfl, boundedCopy_zero buffer _⟩
  · rw [hone]
    exact ⟨_, rfl, store_zero_boundedCopy buffer _⟩
  · obtain ⟨r, between, hformat, hresult⟩ :=
      formatInto_spec hdoc ev buffer (Nat.pos_of_ne_zero hzero) hserved heap
    rw [hformat, shown]
    generalize fitting api message convert ev len = fits at hresult
    cases hresult with
    | failed houtside =>
      exact ⟨_, rfl, (snprintf_boundedCopy between _ len).of_outside houtside⟩
    | @text t r after hlength hnonempty hfits hcopy =>
      have hr : ¬ (r == 0) = true := by
        rw [beq_iff_eq]
        rintro rfl
        rw [Int32.toInt_zero] at hlength
        exact hnonempty (List.length_eq_zero_iff.mp (by omega))
      have hcount : r.toInt.toNat = t.length := by omega
      refine ⟨_, if_neg hr, ?_⟩
      rw [hcount]
      exact trim_boundedCopy hcopy hfits

/-! ### The string -/

/-- The text that the overload without a buffer returns. -/
def answer (api : Winapi) (message : UInt32 → Option (List UInt16))
    (convert : CodePage → List UInt16 → Option (List Char)) (ev : Int32) : List Char :=
  ((narrow api message convert ev).map trimmed).getD (unknownText ev).toList

omit hdoc in
theorem nul_notMem_unknownText : nul ∉ (unknownText ev).toList := by
  have hstart : nul ∉ "Unknown error (".toList := by decide
  rw [unknownText, String.toList_append, List.mem_append, not_or]
  exact ⟨nul_notMem_append_decimal hstart ev, by decide⟩

omit hdoc in
/-- The local array is long enough for every value. -/
theorem unknownMessageWin32_eq (api : Winapi) : unknownMessageWin32 api ev = unknownText ev := by
  have hcopy := snprintf_boundedCopy api.stack (unknownText ev).toList 38
  refine hcopy.readArray ?_ (nul_notMem_unknownText ev)
  have hlength := length_append_decimal_le "Unknown error (" ev
  have hstart : "Unknown error (".length = 15 := by decide
  rw [unknownText, String.toList_append, List.length_append]
  have hend : ")".toList.length = 1 := by decide
  omega

theorem nul_notMem_answer : nul ∉ answer api message convert ev := by
  rw [answer, narrow]
  cases hmessage : message ev.toUInt32 with
  | none => exact nul_notMem_unknownText ev
  | some wide =>
    rw [Option.bind_some]
    cases htext : convert (messageCpWin32 api) wide with
    | none => exact nul_notMem_unknownText ev
    | some text =>
      intro hmem
      exact hdoc.nul_notMem _ _ _ htext ((trimmed_isStart text).subset hmem)

/-- Both calls of `WideCharToMultiByte` agree, and the text is freed on every path. -/
theorem systemCategoryMessageWin32_spec (heap : LocalHeap) :
    systemCategoryMessageWin32 api ev heap =
      (some (String.ofList (answer api message convert ev)), heap) := by
  rw [systemCategoryMessageWin32, unknownMessageWin32_eq, answer, narrow]
  rcases hformat : api.formatMessageW ev.toUInt32 heap with ⟨retval, p, blocks⟩
  cases hmessage : message ev.toUInt32 with
  | none =>
    obtain ⟨hzero, hheap⟩ := hdoc.wide_none ev.toUInt32 heap hmessage
    rw [hformat] at hzero hheap
    dsimp only at hzero hheap
    subst hzero hheap
    rw [Option.bind_none, Option.map_none, Option.getD_none, String.ofList_toList]
    rfl
  | some wide =>
    obtain ⟨hnonzero, q, hfresh, hblock⟩ := hdoc.wide_some ev.toUInt32 heap wide hmessage
    rw [hformat] at hnonzero hblock
    cases hblock
    have hfree := hdoc.free p wide heap hfresh
    have hcall (size : Int32) := hdoc.conversion (messageCpWin32 api) p ((p, wide) :: heap)
      wide (fun _ => nul) size List.lookup_cons_self
    refine (if_neg (by rwa [beq_iff_eq])).trans ?_
    rw [Option.bind_some, hfree]
    have hneed := hcall 0
    rcases hquery : api.wideCharToMultiByte (messageCpWin32 api) p ((p, wide) :: heap)
      (fun _ => nul) 0 with ⟨r, unused⟩
    rw [hquery] at hneed
    cases htext : convert (messageCpWin32 api) wide with
    | none =>
      rw [htext] at hneed
      rw [show r = 0 from hneed.1]
      exact congrArg (fun text => (some text, heap)) String.ofList_toList.symm
    | some text =>
      rw [htext] at hneed
      have hr : r.toInt = text.length + 1 := hneed.2.trans (if_pos (Or.inl rfl))
      have hwritten := hcall r
      rcases hwrite : api.wideCharToMultiByte (messageCpWin32 api) p ((p, wide) :: heap)
        (fun _ => nul) r with ⟨r', after⟩
      rw [hwrite, htext] at hwritten
      have hr' : r'.toInt = text.length + 1 := hwritten.2.trans (if_pos (Or.inr (by omega)))
      have hcopy := hwritten.1.copied (by omega)
      have hcount : (r' - 1).toInt.toNat = text.length := by
        rw [toInt_sub_one (by omega)]
        omega
      have hpositive (x : Int32) (hx : x.toInt = text.length + 1) : ¬ (x == 0) = true := by
        rw [beq_iff_eq]
        rintro rfl
        rw [Int32.toInt_zero] at hx
        omega
      have hnonneg (x : Int32) (hx : x.toInt = text.length + 1) : ¬ x < 0 := by
        rw [Int32.lt_iff_toInt_lt, Int32.toInt_zero]
        omega
      refine (if_neg (hpositive r hr)).trans ((if_neg (hnonneg r hr)).trans ?_)
      rw [hwrite]
      refine (if_neg (hpositive r' hr')).trans ((if_neg (hnonneg r' hr')).trans ?_)
      rw [hcount]
      exact congrArg (fun start => (some (String.ofList start), heap))
        (shrink_map_range hcopy (by omega))

/-- Nothing at or behind the length is written, every text that was allocated is free again, and the
buffer holds the text of the other overload if that fits before it is trimmed, or if there is none;
otherwise the text is not cut off but counts as unknown. -/
theorem win32_overloads (heap : LocalHeap) :
    systemCategoryMessageWin32 api ev heap =
        (some (String.ofList (answer api message convert ev)), heap) ∧
      ∀ buffer len, Served api len →
        ∃ after, systemCategoryMessageWin32Buffer api ev buffer len heap = (after, heap) ∧
          BoundedCopy buffer after len (shown api message convert ev len) ∧
          (fitting api message convert ev len = narrow api message convert ev →
            (answer api message convert ev).length < len →
            readArray len after = String.ofList (answer api message convert ev)) := by
  refine ⟨systemCategoryMessageWin32_spec hdoc ev heap, ?_⟩
  intro buffer len hserved
  obtain ⟨after, hcall, hcopy⟩ := systemCategoryMessageWin32Buffer_spec hdoc ev buffer hserved heap
  refine ⟨after, hcall, hcopy, ?_⟩
  intro hfitting hlength
  rw [shown, hfitting, ← answer, ← String.toList_ofList (l := answer api message convert ev)] at hcopy
  refine hcopy.readArray ?_ ?_
  · rwa [String.toList_ofList]
  · rw [String.toList_ofList]
    exact nul_notMem_answer hdoc ev

end Overloads

/-! ### A system with one text -/

def plainText : List UInt16 := "Access is denied.\x0d\n".toList.map fun c => c.toNat.toUInt16

def plainMessage (ev : UInt32) : Option (List UInt16) := if ev = 5 then some plainText else none

def plainConvert (_ : CodePage) (wide : List UInt16) : Option (List Char) :=
  let text := wide.map fun u => Char.ofNat u.toNat
  if text.length < 100 ∧ nul ∉ text then some text else none

/-- A function that writes a text if it fits. -/
def plainWrite (text : Option (List Char)) (buffer : Buffer) (size : ℕ) : Option ℕ × Buffer :=
  match text with
  | none => (none, buffer)
  | some text =>
    if text.length < size then (some text.length, snprintf buffer size text) else (none, buffer)

def plainWinapi : Winapi where
  useUtf8 := true
  noAnsiApis := false
  stack := fun _ => 'x'
  formatMessageA ev buffer size :=
    let (count, buffer) := plainWrite ((plainMessage ev).bind (plainConvert .acp)) buffer size.toNat
    ((count.getD 0).toUInt32, buffer)
  formatMessageW ev heap :=
    match plainMessage ev with
    | none => (0, 0, heap)
    | some text =>
      let p := (heap.map (·.1)).foldr max 0 + 1
      (text.length.toUInt32, p, (p, text) :: heap)
  wideCharToMultiByte cp p heap buffer size :=
    match (heap.lookup p).bind (plainConvert cp) with
    | none => (0, buffer)
    | some text =>
      if size = 0 then (Int32.ofNat (text.length + 1), buffer)
      else
        let (count, buffer) := plainWrite (some text) buffer size.toInt.toNat
        (count.elim 0 fun n => Int32.ofNat (n + 1), buffer)
  localFree p heap := heap.filter (·.1 ≠ p)

theorem plainConvert_spec {cp : CodePage} {wide : List UInt16} {text : List Char}
    (h : plainConvert cp wide = some text) : text.length < 100 ∧ nul ∉ text := by
  rw [plainConvert] at h
  split_ifs at h with hplain
  cases h
  exact hplain

theorem plainWrite_fills (text : List Char) (buffer : Buffer) (size : ℕ) :
    Fills buffer (plainWrite (some text) buffer size).2 size text ∧
      (plainWrite (some text) buffer size).1 = if text.length < size then some text.length else none := by
  rw [plainWrite]
  split_ifs with hfits
  · have hcopy := snprintf_boundedCopy buffer text size
    exact ⟨⟨hcopy.outside, fun _ => hcopy⟩, rfl⟩
  · exact ⟨⟨fun _ _ => rfl, fun h => absurd h hfits⟩, rfl⟩

theorem plain_documented : Documented plainWinapi plainMessage plainConvert where
  ansi ev buffer size hpos hsize := by
    dsimp only [plainWinapi]
    cases htext : (plainMessage ev).bind (plainConvert .acp) with
    | none => exact ⟨rfl, fun _ _ => rfl⟩
    | some text =>
      obtain ⟨hfills, hcount⟩ := plainWrite_fills text buffer size.toNat
      refine ⟨hfills, ?_⟩
      rw [hcount]
      split_ifs with hfits
      · exact UInt32.toNat_ofNat_of_lt' (by simp [UInt32.size]; omega)
      · rfl
  wide_none ev heap hmessage := by
    dsimp only [plainWinapi]
    rw [hmessage]
    exact ⟨rfl, rfl⟩
  wide_some ev heap text hmessage := by
    have hfive : ev = 5 ∧ plainText = text := by
      rw [plainMessage] at hmessage
      split_ifs at hmessage with hev
      exact ⟨hev, Option.some.inj hmessage⟩
    dsimp only [plainWinapi]
    rw [hmessage, ← hfive.2]
    have hlength : plainText.length.toUInt32 ≠ 0 := by decide
    refine ⟨hlength, _, ?_, rfl⟩
    rw [List.lookup_eq_none_iff]
    intro block hblock
    rw [bne_iff_ne]
    have hle := List.le_max_of_le' (l := heap.map (·.1)) (a := block.1) 0 (List.mem_map_of_mem hblock) le_rfl
    omega
  conversion cp p heap wide buffer size hlookup := by
    dsimp only [plainWinapi]
    rw [hlookup, Option.bind_some]
    cases htext : plainConvert cp wide with
    | none => exact ⟨rfl, fun _ _ => rfl⟩
    | some text =>
      have hlength := (plainConvert_spec htext).1
      have hcount : (Int32.ofNat (text.length + 1)).toInt = text.length + 1 :=
        Int32.toInt_ofNat_of_lt (by omega)
      by_cases hzero : size = 0
      · subst hzero
        exact ⟨⟨fun _ _ => rfl, fun h => absurd h (by simp)⟩, hcount⟩
      · obtain ⟨hfills, hwritten⟩ := plainWrite_fills text buffer size.toInt.toNat
        dsimp only
        rw [if_neg hzero, hwritten]
        refine ⟨hfills, ?_⟩
        by_cases hfits : (text.length : ℤ) < size.toInt
        · rw [if_pos (Or.inr hfits), if_pos (by omega)]
          exact hcount
        · rw [if_neg (not_or.mpr ⟨hzero, hfits⟩), if_neg (by omega)]
          rfl
  free p text heap hfresh := by
    rw [List.lookup_eq_none_iff] at hfresh
    dsimp only [plainWinapi]
    rw [List.filter_cons_of_neg (by simp), List.filter_eq_self]
    intro block hblock
    have hne := hfresh block hblock
    rw [bne_iff_ne] at hne
    exact decide_eq_true hne.symm
  nul_notMem _ _ _ htext := (plainConvert_spec htext).2

theorem win32_overloads_plain :
    systemCategoryMessageWin32 plainWinapi 5 [] = (some "Access is denied", []) ∧
      ∃ after, systemCategoryMessageWin32Buffer plainWinapi 5 (fun _ => 'x') 20 [] = (after, []) ∧
        BoundedCopy (fun _ => 'x') after 20 "Access is denied".toList := by
  obtain ⟨hstring, hbuffer⟩ := win32_overloads plain_documented 5 []
  have hserved : Served plainWinapi 20 := Or.inr (by decide)
  obtain ⟨after, hcall, hcopy, -⟩ := hbuffer (fun _ => 'x') 20 hserved
  have hanswer : answer plainWinapi plainMessage plainConvert 5 = "Access is denied".toList := by
    decide
  have hshown : shown plainWinapi plainMessage plainConvert 5 20 = "Access is denied".toList := by
    decide
  rw [hanswer] at hstring
  rw [hshown] at hcopy
  exact ⟨hstring, after, hcall, hcopy⟩

end Win32

end BoostSystem
