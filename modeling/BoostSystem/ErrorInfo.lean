import BoostSystem.ErrorStoreRuns
import BoostSystem.MessageTables

/-!
# The string outputs of the C interface

`wasm_create_js_error_info` of `wasm/boost_system_simple.cpp` and of `wasm/boost_system_standalone.cpp`
and `wasm_get_error_code_info`. Each copies with the same two branches, which make a bounded copy in
every buffer that has room for the terminator.
-/

namespace BoostSystem

open CString

/-! ### The copy -/

/-- The copy is bounded exactly if the buffer has room for the terminator. -/
theorem copyMessage_bounded_iff {message : String} (hnul : nul ∉ message.toList) (buffer : Buffer)
    (size : UInt32) : (∃ after, copyMessage message buffer size = some after ∧
      BoundedCopy buffer after size.toNat message.toList) ↔ size ≠ 0 := by
  constructor
  · rintro ⟨after, hcopy, -⟩ rfl
    rw [copyMessage_zero] at hcopy
    exact nomatch hcopy
  · intro hsize
    have hcopy := copyMessage_boundedCopy message buffer hsize
    rwa [cStr_of_nul_notMem hnul] at hcopy

/-- The two copies of `wasm_create_js_error_info`; the buffers do not overlap. -/
def copyErrorInfo (value : Int32) (name message : String) (nameBuf : Buffer) (nameSize : UInt32)
    (messageBuf : Buffer) (messageSize : UInt32) : Option (Int32 × Buffer × Buffer) := do
  let nameBuf ← copyMessage name nameBuf nameSize
  let messageBuf ← copyMessage message messageBuf messageSize
  return (value, nameBuf, messageBuf)

/-- The call returns the value, and the name and the message are in their buffers as far as they
fit. -/
def InfoCopied (call : Option (Int32 × Buffer × Buffer)) (value : Int32) (name message : String)
    (nameBuf : Buffer) (nameSize : UInt32) (messageBuf : Buffer) (messageSize : UInt32) : Prop :=
  ∃ nameBuf' messageBuf', call = some (value, nameBuf', messageBuf') ∧
    BoundedCopy nameBuf nameBuf' nameSize.toNat name.toList ∧
    BoundedCopy messageBuf messageBuf' messageSize.toNat message.toList

theorem copyErrorInfo_copied_iff (value : Int32) {name message : String}
    (hname : nul ∉ name.toList) (hmessage : nul ∉ message.toList) (nameBuf : Buffer)
    (nameSize : UInt32) (messageBuf : Buffer) (messageSize : UInt32) :
    InfoCopied (copyErrorInfo value name message nameBuf nameSize messageBuf messageSize) value name
      message nameBuf nameSize messageBuf messageSize ↔ nameSize ≠ 0 ∧ messageSize ≠ 0 := by
  rw [← copyMessage_bounded_iff hname nameBuf, ← copyMessage_bounded_iff hmessage messageBuf]
  constructor
  · rintro ⟨nameBuf', messageBuf', hcall, hnameCopy, hmessageCopy⟩
    obtain ⟨b, hb, hcall⟩ := Option.bind_eq_some_iff.mp hcall
    obtain ⟨b', hb', heq⟩ := Option.bind_eq_some_iff.mp hcall
    obtain ⟨-, rfl, rfl⟩ : _ ∧ b = nameBuf' ∧ b' = messageBuf' := by
      simpa only [Option.pure_def, Option.some.injEq, Prod.mk.injEq] using heq
    exact ⟨⟨b, hb, hnameCopy⟩, b', hb', hmessageCopy⟩
  · rintro ⟨⟨b, hb, hnameCopy⟩, b', hb', hmessageCopy⟩
    refine ⟨b, b', ?_, hnameCopy, hmessageCopy⟩
    simp only [copyErrorInfo, hb, hb', Option.bind_eq_bind, Option.bind_some]
    rfl

/-! ### The simple implementation -/

def wasmGetCategoryName (categoryType : Int32) : String :=
  if categoryType == 0 then "system"
  else if categoryType == 1 then "generic"
  else "unknown"

def wasmCreateJsErrorInfo (value categoryType : Int32) (nameBuf : Buffer) (nameSize : UInt32)
    (messageBuf : Buffer) (messageSize : UInt32) : Option (Int32 × Buffer × Buffer) :=
  let ec := BoostErrorCode.ofPair value categoryType
  copyErrorInfo ec.value (wasmGetCategoryName categoryType) ec.message nameBuf nameSize messageBuf
    messageSize

theorem nul_notMem_wasmGetCategoryName (categoryType : Int32) :
    nul ∉ (wasmGetCategoryName categoryType).toList := by
  unfold wasmGetCategoryName
  split_ifs
  all_goals simp [nul]

/-! ### The standalone implementation -/

namespace Standalone

/-- The two static instances, which are told apart by their addresses. -/
inductive ErrorCategory where
  | system
  | generic
deriving DecidableEq

def systemMessages : List (Int32 × String) :=
  [(1, "Operation not permitted"),
   (2, "No such file or directory"),
   (3, "No such process"),
   (4, "Interrupted system call"),
   (5, "I/O error"),
   (6, "No such device or address"),
   (7, "Argument list too long"),
   (8, "Exec format error"),
   (9, "Bad file number"),
   (10, "No child processes"),
   (11, "Try again"),
   (12, "Out of memory"),
   (13, "Permission denied"),
   (14, "Bad address"),
   (15, "Block device required"),
   (16, "Device or resource busy"),
   (17, "File exists"),
   (18, "Cross-device link"),
   (19, "No such device"),
   (20, "Not a directory"),
   (21, "Is a directory"),
   (22, "Invalid argument"),
   (23, "File table overflow"),
   (24, "Too many open files"),
   (25, "Not a typewriter")]

def genericMessages : List (Int32 × String) :=
  [(0, "Success"),
   (1, "Address family not supported"),
   (2, "Address in use"),
   (3, "Address not available"),
   (4, "Already connected"),
   (5, "Argument list too long"),
   (6, "Argument out of domain"),
   (7, "Bad address"),
   (8, "Bad file descriptor"),
   (9, "Bad message"),
   (10, "Broken pipe"),
   (11, "Connection aborted"),
   (12, "Connection already in progress"),
   (13, "Connection refused"),
   (14, "Connection reset"),
   (15, "Cross-device link"),
   (16, "Destination address required"),
   (17, "Device or resource busy"),
   (18, "Directory not empty"),
   (19, "Executable format error"),
   (20, "File exists"),
   (21, "File too large"),
   (22, "Filename too long"),
   (23, "Function not supported"),
   (24, "Host unreachable"),
   (25, "Identifier removed")]

namespace ErrorCategory

def name : ErrorCategory → String
  | system => "system"
  | generic => "generic"

def message : ErrorCategory → Int32 → String
  | system, value => (systemMessages.lookup value).getD ("Unknown error " ++ decimal value)
  | generic, value => (genericMessages.lookup value).getD ("Generic error " ++ decimal value)

end ErrorCategory

structure ErrorCode where
  value : Int32
  category : ErrorCategory
deriving DecidableEq

def ErrorCode.message (ec : ErrorCode) : String := ec.category.message ec.value

def categoryOf (categoryType : Int32) : ErrorCategory :=
  if categoryType == 0 then .system else .generic

def wasmCreateJsErrorInfo (value categoryType : Int32) (nameBuf : Buffer) (nameSize : UInt32)
    (messageBuf : Buffer) (messageSize : UInt32) : Option (Int32 × Buffer × Buffer) :=
  let cat := categoryOf categoryType
  let ec : ErrorCode := ⟨value, cat⟩
  copyErrorInfo ec.value cat.name ec.message nameBuf nameSize messageBuf messageSize

theorem nul_notMem_name (c : ErrorCategory) : nul ∉ c.name.toList := by
  cases c with
  | system | generic => simp [ErrorCategory.name, nul]

theorem nul_notMem_message (c : ErrorCategory) (value : Int32) :
    nul ∉ (c.message value).toList := by
  cases c with
  | system => exact nul_notMem_lookup (by simp [systemMessages, nul]) (by simp [nul]) value
  | generic => exact nul_notMem_lookup (by simp [genericMessages, nul]) (by simp [nul]) value

end Standalone

/-! ### The three functions -/

/-- The outputs are bounded, truncating copies exactly if every size is positive, and asking for a
handle that is not issued writes nothing. -/
theorem string_outputs_bounded_iff (value categoryType : Int32) (nameBuf : Buffer)
    (nameSize : UInt32) (messageBuf : Buffer) (messageSize : UInt32) :
    (InfoCopied (wasmCreateJsErrorInfo value categoryType nameBuf nameSize messageBuf messageSize)
        value (wasmGetCategoryName categoryType) (getMessage value categoryType) nameBuf nameSize
        messageBuf messageSize ↔
      nameSize ≠ 0 ∧ messageSize ≠ 0) ∧
    (InfoCopied (Standalone.wasmCreateJsErrorInfo value categoryType nameBuf nameSize messageBuf
          messageSize)
        value (Standalone.categoryOf categoryType).name
        ((Standalone.categoryOf categoryType).message value) nameBuf nameSize messageBuf
        messageSize ↔
      nameSize ≠ 0 ∧ messageSize ≠ 0) ∧
    ∀ calls replies s, Runs.answers ErrorStore.call .empty calls = some (replies, s) →
      ∀ handle,
        ((¬ ∃ pair, (ledger calls).Issued handle pair) →
          s.wasmGetErrorCodeInfo handle messageBuf messageSize = some none) ∧
        ∀ pair, (ledger calls).Issued handle pair →
          ((∃ messageBuf', s.wasmGetErrorCodeInfo handle messageBuf messageSize =
              some (some (pair.1, pair.2, messageBuf')) ∧
            BoundedCopy messageBuf messageBuf' messageSize.toNat
              (getMessage pair.1 pair.2).toList) ↔ messageSize ≠ 0) := by
  refine ⟨?_, ?_, ?_⟩
  · exact copyErrorInfo_copied_iff value (nul_notMem_wasmGetCategoryName categoryType)
      (nul_notMem_getMessage value categoryType) nameBuf nameSize messageBuf messageSize
  · exact copyErrorInfo_copied_iff value (Standalone.nul_notMem_name _)
      (Standalone.nul_notMem_message _ value) nameBuf nameSize messageBuf messageSize
  · intro calls replies s hrun handle
    obtain ⟨hs, hfits⟩ := represents_of_answers empty_represents empty_fits hrun
    constructor
    · intro hissued
      exact wasmGetErrorCodeInfo_of_not_issued hs hfits.1 hissued messageBuf messageSize
    · intro pair hissued
      rw [wasmGetErrorCodeInfo_of_issued hs hfits.1 hissued messageBuf messageSize,
        ← copyMessage_bounded_iff (nul_notMem_getMessage pair.1 pair.2) messageBuf messageSize]
      simp only [Option.map_eq_some_iff, Option.some.injEq, Prod.mk.injEq, true_and,
        exists_eq_right]

/-- The message of a code that has been created, in a buffer of eight characters. -/
theorem string_outputs_bounded_iff_eight :
    ∃ messageBuf', (ErrorStore.mk [.ofPair 2 0] [] []).wasmGetErrorCodeInfo 0 (fun _ => 'x') 8 =
        some (some (2, 0, messageBuf')) ∧
      BoundedCopy (fun _ => 'x') messageBuf' 8 (getMessage 2 0).toList :=
  (((string_outputs_bounded_iff 2 0 (fun _ => 'x') 8 (fun _ => 'x') 8).2.2 [.create 2 0] _ _ rfl
    0).2 (2, 0) ⟨by decide, rfl⟩).mpr (by decide)

/-- A name buffer of size zero. -/
theorem js_error_info_of_size_zero :
    ¬ InfoCopied (wasmCreateJsErrorInfo 2 0 (fun _ => nul) 0 (fun _ => nul) 64) 2 "system"
      "No such file or directory" (fun _ => nul) 0 (fun _ => nul) 64 := by
  rintro ⟨nameBuf', messageBuf', hcall, -⟩
  have hnone : wasmCreateJsErrorInfo 2 0 (fun _ => nul) 0 (fun _ => nul) 64 = none := by
    simp only [wasmCreateJsErrorInfo, copyErrorInfo, copyMessage_zero]
    rfl
  rw [hnone] at hcall
  exact nomatch hcall

end BoostSystem
