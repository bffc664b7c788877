import BoostSystem.CString
import BoostSystem.Runs

/-!
# The error handle store

`wasm/boost_system_simple.cpp`: the three static vectors and the exported functions over them. A
vector that would reach 2^31 elements does not fit in memory, so adding to it has no result, and
neither has an access past the end of an array. Pointer parameters are the arrays they point at.
-/

namespace BoostSystem

open CString

def systemMessages : List (Int32 × String) :=
  [(0, "Success"),
   (1, "Operation not permitted"),
   (2, "No such file or directory"),
   (3, "No such process"),
   (4, "Interrupted system call"),
   (5, "I/O error"),
   (6, "No such device or address"),
   (7, "Argument list too long"),
   (8, "Exec format error"),
   (9, "Bad file number"),
   (10, "No child processes"),
   (11, "Try again"),
   (12, "Out of memory"),
   (13, "Permission denied"),
   (14, "Bad address"),
   (15, "Block device required"),
   (16, "Device or resource busy"),
   (17, "File exists"),
   (18, "Cross-device link"),
   (19, "No such device"),
   (20, "Not a directory"),
   (21, "Is a directory"),
   (22, "Invalid argument"),
   (404, "Not found"),
   (500, "Internal server error"),
   (503, "Service unavailable")]

def genericMessages : List (Int32 × String) :=
  [(0, "Success"),
   (1, "Address family not supported"),
   (2, "Address in use"),
   (3, "Address not available"),
   (4, "Already connected"),
   (5, "Argument list too long"),
   (6, "Argument out of domain"),
   (7, "Bad address"),
   (8, "Bad file descriptor"),
   (9, "Bad message"),
   (10, "Broken pipe"),
   (11, "Connection aborted"),
   (12, "Connection already in progress"),
   (13, "Connection refused"),
   (14, "Connection reset"),
   (15, "Cross-device link"),
   (16, "Destination address required"),
   (17, "Device or resource busy"),
   (18, "Directory not empty"),
   (19, "Executable format error"),
   (20, "File exists"),
   (21, "File too large"),
   (22, "Invalid argument"),
   (23, "Function not supported"),
   (24, "Host unreachable"),
   (25, "Identifier removed")]

def getMessage (val cat : Int32) : String :=
  if cat == 0 then (systemMessages.lookup val).getD ("System error " ++ decimal val)
  else (genericMessages.lookup val).getD ("Generic error " ++ decimal val)

structure BoostErrorCode where
  value : Int32
  category : Int32
  message : String
deriving DecidableEq

def BoostErrorCode.ofPair (val cat : Int32) : BoostErrorCode := ⟨val, cat, getMessage val cat⟩

structure ErrorStore where
  errorStorage : List BoostErrorCode
  messageStorage : List String
  internedMessages : List String
deriving DecidableEq

/-- `emplace_back` and `push_back`. -/
def emplaceBack {α : Type} (xs : List α) (x : α) : Option (List α) :=
  if xs.length + 1 < 2 ^ 31 then some (xs ++ [x]) else none

/-- The bounded copy of a message into a `char[ size ]`; `size - 1` wraps. -/
def copyMessage (message : String) (buffer : Buffer) (size : UInt32) : Option Buffer :=
  if message.length < size.toNat then strcpyInto size.toNat buffer (cStr message)
  else do
    let buffer ← strncpyInto size.toNat buffer (cStr message) (size - 1).toNat
    storeInto size.toNat buffer (size - 1).toNat nul

namespace ErrorStore

def empty : ErrorStore := ⟨[], [], []⟩

def wasmCreateErrorCode (s : ErrorStore) (value categoryType : Int32) :
    Option (Int32 × ErrorStore) := do
  let codes ← emplaceBack s.errorStorage (BoostErrorCode.ofPair value categoryType)
  return (Int32.ofNat (codes.length - 1), { s with errorStorage := codes })

/-- `handle < 0 || handle >= static_cast<int>( error_storage.size() )`. -/
def outOfRange (s : ErrorStore) (handle : Int32) : Bool :=
  decide (handle < 0) || decide (handle ≥ Int32.ofNat s.errorStorage.length)

def wasmCompareErrorCodes (s : ErrorStore) (handle1 handle2 : Int32) : Option Bool :=
  if s.outOfRange handle1 || s.outOfRange handle2 then some false
  else do
    let ec1 ← s.errorStorage[handle1.toNatClampNeg]?
    let ec2 ← s.errorStorage[handle2.toNatClampNeg]?
    return ec1.value == ec2.value && ec1.category == ec2.category

def wasmFormatErrorMessage (s : ErrorStore) (value categoryType : Int32) :
    Option (String × ErrorStore) := do
  let ec := BoostErrorCode.ofPair value categoryType
  let messages ← emplaceBack s.messageStorage ec.message
  return (ec.message, { s with messageStorage := messages })

/-- The two arrays of `count` elements as one list of pairs. -/
def wasmCreateErrorCodesBulk : ErrorStore → List (Int32 × Int32) →
    Option (List Int32 × ErrorStore)
  | s, [] => some ([], s)
  | s, (value, categoryType) :: pairs => do
    let codes ← emplaceBack s.errorStorage (BoostErrorCode.ofPair value categoryType)
    let handle := Int32.ofNat (codes.length - 1)
    let (handles, s) ← wasmCreateErrorCodesBulk { s with errorStorage := codes } pairs
    return (handle :: handles, s)

def wasmInternErrorMessage (s : ErrorStore) (msg : String) : Option (Int32 × ErrorStore) :=
  if s.internedMessages.idxOf msg < s.internedMessages.length then
    some (Int32.ofNat (s.internedMessages.idxOf msg), s)
  else do
    let messages ← emplaceBack s.internedMessages msg
    return (Int32.ofNat (messages.length - 1), { s with internedMessages := messages })

def wasmClearStorage (_ : ErrorStore) : ErrorStore := empty

def wasmGetStorageStats (s : ErrorStore) : Int32 × Int32 × Int32 :=
  (Int32.ofNat s.errorStorage.length, Int32.ofNat s.messageStorage.length,
    Int32.ofNat s.internedMessages.length)

/-- `false`, or `true` with what has been written to `*value`, `*category` and the buffer. -/
def wasmGetErrorCodeInfo (s : ErrorStore) (handle : Int32) (messageBuf : Buffer)
    (messageSize : UInt32) : Option (Option (Int32 × Int32 × Buffer)) :=
  if s.outOfRange handle then some none
  else do
    let ec ← s.errorStorage[handle.toNatClampNeg]?
    let messageBuf ← copyMessage ec.message messageBuf messageSize
    return some (ec.value, ec.category, messageBuf)

end ErrorStore

/-! ### Calls -/

inductive StoreCall where
  | create (value categoryType : Int32)
  | bulk (pairs : List (Int32 × Int32))
  | compare (handle1 handle2 : Int32)
  | format (value categoryType : Int32)
  | intern (message : String)
  | info (handle : Int32) (messageBuf : Buffer) (messageSize : UInt32)
  | stats
  | clear

inductive StoreReply where
  | handle (h : Int32)
  | handles (hs : List Int32)
  | equal (b : Bool)
  | text (message : String)
  | info (found : Option (Int32 × Int32 × Buffer))
  | stats (errorCount messageCount internedCount : Int32)
  | done

def ErrorStore.call (s : ErrorStore) : StoreCall → Option (StoreReply × ErrorStore)
  | .create value categoryType =>
    (s.wasmCreateErrorCode value categoryType).map fun (h, s) => (.handle h, s)
  | .bulk pairs => (s.wasmCreateErrorCodesBulk pairs).map fun (hs, s) => (.handles hs, s)
  | .compare handle1 handle2 =>
    (s.wasmCompareErrorCodes handle1 handle2).map fun b => (.equal b, s)
  | .format value categoryType =>
    (s.wasmFormatErrorMessage value categoryType).map fun (text, s) => (.text text, s)
  | .intern message => (s.wasmInternErrorMessage message).map fun (h, s) => (.handle h, s)
  | .info handle messageBuf messageSize =>
    (s.wasmGetErrorCodeInfo handle messageBuf messageSize).map fun found => (.info found, s)
  | .stats => some (.stats s.wasmGetStorageStats.1 s.wasmGetStorageStats.2.1
      s.wasmGetStorageStats.2.2, s)
  | .clear => some (.done, s.wasmClearStorage)

end BoostSystem
