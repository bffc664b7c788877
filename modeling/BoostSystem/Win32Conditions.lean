import BoostSystem.Equivalence

/-!
# The conditions of Windows system errors

`system_category_condition_win32` and the Windows branch of the system category: a Win32 error, or an
`HRESULT` that wraps one, has the default condition that the decode table gives it. The numbers of the
Win32 errors and of the `errno` macros are not part of the library and are parameters.
-/

namespace BoostSystem

namespace Win32

/-- The members of `errc::errc_t` that are in the decode table. -/
inductive Errc where
  | success | addressFamilyNotSupported | addressInUse | addressNotAvailable | alreadyConnected
  | badAddress | badFileDescriptor | brokenPipe | connectionAborted | connectionAlreadyInProgress
  | connectionRefused | connectionReset | crossDeviceLink | destinationAddressRequired
  | deviceOrResourceBusy | directoryNotEmpty | fileExists | filenameTooLong
  | functionNotSupported | hostUnreachable | interrupted | invalidArgument | ioError
  | messageSize | networkDown | networkReset | networkUnreachable | noBufferSpace
  | noLockAvailable | noProtocolOption | noSpaceOnDevice | noSuchDevice | noSuchFileOrDirectory
  | notASocket | notConnected | notEnoughMemory | notSupported | operationCanceled
  | operationInProgress | operationNotSupported | operationWouldBlock | permissionDenied
  | protocolNotSupported | resourceUnavailableTryAgain | timedOut | tooManyFilesOpen
  | wrongProtocolType
deriving DecidableEq

inductive WinError where
  | errorAccessDenied | errorAlreadyExists | errorBadNetpath | errorBadNetName | errorBadUnit
  | errorBrokenPipe | errorBufferOverflow | errorBusy | errorBusyDrive | errorCannotMake
  | errorCantopen | errorCantread | errorCantwrite | errorConnectionAborted
  | errorCurrentDirectory | errorDevNotExist | errorDeviceInUse | errorDirNotEmpty
  | errorDirectory | errorDiskFull | errorFilenameExcedRange | errorFileExists
  | errorFileNotFound | errorHandleDiskFull | errorInvalidAccess | errorInvalidDrive
  | errorInvalidFunction | errorInvalidHandle | errorInvalidName | errorInvalidParameter
  | errorLockViolation | errorLocked | errorNegativeSeek | errorNoaccess | errorNotEnoughMemory
  | errorNotReady | errorNotSameDevice | errorOpenFailed | errorOpenFiles
  | errorOperationAborted | errorOutofmemory | errorPathNotFound | errorReadFault
  | errorReparseTagInvalid | errorRetry | errorSeek | errorSemTimeout | errorSharingViolation
  | errorNotSupported | errorTimeout | errorTooManyOpenFiles | errorWriteFault
  | errorWriteProtect | wsaeacces | wsaeaddrinuse | wsaeaddrnotavail | wsaeafnosupport
  | wsaealready | wsaebadf | wsaeconnaborted | wsaeconnrefused | wsaeconnreset
  | wsaedestaddrreq | wsaefault | wsaehostunreach | wsaeinprogress | wsaeintr | wsaeinval
  | wsaeisconn | wsaemfile | wsaemsgsize | wsaenametoolong | wsaenetdown | wsaenetreset
  | wsaenetunreach | wsaenobufs | wsaenoprotoopt | wsaenotconn | wsaenotsock | wsaeopnotsupp
  | wsaeprotonosupport | wsaeprototype | wsaetimedout | wsaewouldblock
deriving DecidableEq

def WinError.all : List WinError := [
  .errorAccessDenied, .errorAlreadyExists, .errorBadNetpath, .errorBadNetName, .errorBadUnit,
  .errorBrokenPipe, .errorBufferOverflow, .errorBusy, .errorBusyDrive, .errorCannotMake,
  .errorCantopen, .errorCantread, .errorCantwrite, .errorConnectionAborted,
  .errorCurrentDirectory, .errorDevNotExist, .errorDeviceInUse, .errorDirNotEmpty,
  .errorDirectory, .errorDiskFull, .errorFilenameExcedRange, .errorFileExists,
  .errorFileNotFound, .errorHandleDiskFull, .errorInvalidAccess, .errorInvalidDrive,
  .errorInvalidFunction, .errorInvalidHandle, .errorInvalidName, .errorInvalidParameter,
  .errorLockViolation, .errorLocked, .errorNegativeSeek, .errorNoaccess, .errorNotEnoughMemory,
  .errorNotReady, .errorNotSameDevice, .errorOpenFailed, .errorOpenFiles,
  .errorOperationAborted, .errorOutofmemory, .errorPathNotFound, .errorReadFault,
  .errorReparseTagInvalid, .errorRetry, .errorSeek, .errorSemTimeout, .errorSharingViolation,
  .errorNotSupported, .errorTimeout, .errorTooManyOpenFiles, .errorWriteFault,
  .errorWriteProtect, .wsaeacces, .wsaeaddrinuse, .wsaeaddrnotavail, .wsaeafnosupport,
  .wsaealready, .wsaebadf, .wsaeconnaborted, .wsaeconnrefused, .wsaeconnreset,
  .wsaedestaddrreq, .wsaefault, .wsaehostunreach, .wsaeinprogress, .wsaeintr, .wsaeinval,
  .wsaeisconn, .wsaemfile, .wsaemsgsize, .wsaenametoolong, .wsaenetdown, .wsaenetreset,
  .wsaenetunreach, .wsaenobufs, .wsaenoprotoopt, .wsaenotconn, .wsaenotsock, .wsaeopnotsupp,
  .wsaeprotonosupport, .wsaeprototype, .wsaetimedout, .wsaewouldblock]

def WinError.condition : WinError → Errc
  | .errorAccessDenied => .permissionDenied
  | .errorAlreadyExists => .fileExists
  | .errorBadNetpath => .noSuchFileOrDirectory
  | .errorBadNetName => .noSuchFileOrDirectory
  | .errorBadUnit => .noSuchDevice
  | .errorBrokenPipe => .brokenPipe
  | .errorBufferOverflow => .filenameTooLong
  | .errorBusy => .deviceOrResourceBusy
  | .errorBusyDrive => .deviceOrResourceBusy
  | .errorCannotMake => .permissionDenied
  | .errorCantopen => .ioError
  | .errorCantread => .ioError
  | .errorCantwrite => .ioError
  | .errorConnectionAborted => .connectionAborted
  | .errorCurrentDirectory => .permissionDenied
  | .errorDevNotExist => .noSuchDevice
  | .errorDeviceInUse => .deviceOrResourceBusy
  | .errorDirNotEmpty => .directoryNotEmpty
  | .errorDirectory => .invalidArgument
  | .errorDiskFull => .noSpaceOnDevice
  | .errorFilenameExcedRange => .filenameTooLong
  | .errorFileExists => .fileExists
  | .errorFileNotFound => .noSuchFileOrDirectory
  | .errorHandleDiskFull => .noSpaceOnDevice
  | .errorInvalidAccess => .permissionDenied
  | .errorInvalidDrive => .noSuchDevice
  | .errorInvalidFunction => .functionNotSupported
  | .errorInvalidHandle => .invalidArgument
  | .errorInvalidName => .noSuchFileOrDirectory
  | .errorInvalidParameter => .invalidArgument
  | .errorLockViolation => .noLockAvailable
  | .errorLocked => .noLockAvailable
  | .errorNegativeSeek => .invalidArgument
  | .errorNoaccess => .permissionDenied
  | .errorNotEnoughMemory => .notEnoughMemory
  | .errorNotReady => .resourceUnavailableTryAgain
  | .errorNotSameDevice => .crossDeviceLink
  | .errorOpenFailed => .ioError
  | .errorOpenFiles => .deviceOrResourceBusy
  | .errorOperationAborted => .operationCanceled
  | .errorOutofmemory => .notEnoughMemory
  | .errorPathNotFound => .noSuchFileOrDirectory
  | .errorReadFault => .ioError
  | .errorReparseTagInvalid => .invalidArgument
  | .errorRetry => .resourceUnavailableTryAgain
  | .errorSeek => .ioError
  | .errorSemTimeout => .timedOut
  | .errorSharingViolation => .permissionDenied
  | .errorNotSupported => .notSupported
  | .errorTimeout => .timedOut
  | .errorTooManyOpenFiles => .tooManyFilesOpen
  | .errorWriteFault => .ioError
  | .errorWriteProtect => .permissionDenied
  | .wsaeacces => .permissionDenied
  | .wsaeaddrinuse => .addressInUse
  | .wsaeaddrnotavail => .addressNotAvailable
  | .wsaeafnosupport => .addressFamilyNotSupported
  | .wsaealready => .connectionAlreadyInProgress
  | .wsaebadf => .badFileDescriptor
  | .wsaeconnaborted => .connectionAborted
  | .wsaeconnrefused => .connectionRefused
  | .wsaeconnreset => .connectionReset
  | .wsaedestaddrreq => .destinationAddressRequired
  | .wsaefault => .badAddress
  | .wsaehostunreach => .hostUnreachable
  | .wsaeinprogress => .operationInProgress
  | .wsaeintr => .interrupted
  | .wsaeinval => .invalidArgument
  | .wsaeisconn => .alreadyConnected
  | .wsaemfile => .tooManyFilesOpen
  | .wsaemsgsize => .messageSize
  | .wsaenametoolong => .filenameTooLong
  | .wsaenetdown => .networkDown
  | .wsaenetreset => .networkReset
  | .wsaenetunreach => .networkUnreachable
  | .wsaenobufs => .noBufferSpace
  | .wsaenoprotoopt => .noProtocolOption
  | .wsaenotconn => .notConnected
  | .wsaenotsock => .notASocket
  | .wsaeopnotsupp => .operationNotSupported
  | .wsaeprotonosupport => .protocolNotSupported
  | .wsaeprototype => .wrongProtocolType
  | .wsaetimedout => .timedOut
  | .wsaewouldblock => .operationWouldBlock

/-- The numbers that the headers of the platform give the symbols. -/
structure Numbers where
  winError : WinError → Int32
  errno : Errc → Int32

/-- `success` is not a macro of the platform. -/
def Numbers.errc (numbers : Numbers) : Errc → Int32
  | .success => 0
  | e => numbers.errno e

/-- The labels of a `switch` are distinct; error numbers are positive, and those of Win32 fit in the
code of an `HRESULT`. -/
structure Numbers.Documented (numbers : Numbers) : Prop where
  distinct : Function.Injective numbers.winError
  ne_timeout : ∀ e, numbers.winError e ≠ 258
  pos : ∀ e, 0 < (numbers.winError e).toInt
  lt : ∀ e, (numbers.winError e).toInt < 65536
  errno_pos : ∀ e, 0 < (numbers.errno e).toInt

/-- The number that the table is asked for. -/
def tableCode (ev : Int32) : Int32 :=
  if ev < 0 && (ev >>> 16) &&& 0x1fff == 7 then ev &&& 0xFFFF else ev

section Functions

variable (numbers : Numbers)

def systemCategoryConditionWin32 (ev : Int32) : Int32 :=
  if tableCode ev == 0 then numbers.errc .success
  else match WinError.all.find? fun e => numbers.winError e == tableCode ev with
    | some e => numbers.errc e.condition
    | none => if tableCode ev == 258 then numbers.errc .timedOut else -1

variable {U K : Type}

def defaultErrorCondition (ev : Int32) : ErrorCondition U :=
  let e2 := systemCategoryConditionWin32 numbers ev
  if e2 == -1 then .ofCategory ev .system else .ofGenericValue e2

/-- `error_code( ev, system_category() ) == condition`. -/
def eqCondition (w : Program U K) (ev : Int32) (condition : ErrorCondition U) : Bool :=
  (defaultErrorCondition numbers ev).eq w condition ||
    condition.category.equivalentCode w (.ofCategory w ev .system) condition.value

end Functions

/-! ### The numbers that wrap a Win32 error -/

/-- An `HRESULT` with the failure bit, the facility of Win32 and any two bits between them. -/
def Wraps (ev : Int32) (code : ℕ) : Prop :=
  code < 2 ^ 16 ∧ ∃ bits < 4, ev.toUInt32.toNat = 2 ^ 31 + bits * 2 ^ 29 + 7 * 2 ^ 16 + code

theorem neg_iff (ev : Int32) : ev < 0 ↔ 2 ^ 31 ≤ ev.toUInt32.toNat := by
  have hbits : ev.toInt = ev.toBitVec.toInt := rfl
  have hnat : ev.toUInt32.toNat = ev.toBitVec.toNat := rfl
  have hlt := ev.toBitVec.isLt
  rw [Int32.lt_iff_toInt_lt, Int32.toInt_zero, hbits, hnat, BitVec.toInt_eq_toNat_cond]
  split_ifs <;> omega

theorem facility_iff {ev : Int32} (hev : ev < 0) :
    ((ev >>> 16) &&& 0x1fff == 7) = true ↔ ev.toUInt32.toNat / 2 ^ 16 % 2 ^ 13 = 7 := by
  have hnat : ev.toUInt32.toNat = ev.toBitVec.toNat := rfl
  have hmsb : ev.toBitVec.msb = true := by
    have hle := (neg_iff ev).mp hev
    rw [BitVec.msb_eq_true_iff_two_mul_ge]
    omega
  have hshift : (ev >>> 16).toBitVec = ~~~((~~~ev.toBitVec) >>> 16) :=
    BitVec.sshiftRight_eq_of_msb_true hmsb
  have hlt := ev.toBitVec.isLt
  have hmask : ((ev >>> 16) &&& 0x1fff).toBitVec.toNat = ev.toUInt32.toNat / 2 ^ 16 % 2 ^ 13 := by
    have hand : ((ev >>> 16) &&& 0x1fff).toBitVec = (ev >>> 16).toBitVec &&& 0x1fff#32 := rfl
    rw [hand, hshift, BitVec.toNat_and, BitVec.toNat_not, BitVec.toNat_ushiftRight, BitVec.toNat_not,
      show (0x1fff#32).toNat = 2 ^ 13 - 1 from rfl, Nat.and_two_pow_sub_one_eq_mod,
      Nat.shiftRight_eq_div_pow, hnat]
    omega
  rw [beq_iff_eq, ← hmask, ← Int32.toBitVec_inj, ← BitVec.toNat_inj]
  rfl

theorem code_toInt (ev : Int32) : (ev &&& 0xFFFF).toInt = (ev.toUInt32.toNat % 2 ^ 16 : ℕ) := by
  have hand : (ev &&& 0xFFFF).toBitVec = ev.toBitVec &&& 0xFFFF#32 := rfl
  have hmask : (ev &&& 0xFFFF).toBitVec.toNat = ev.toUInt32.toNat % 2 ^ 16 := by
    rw [hand, BitVec.toNat_and, show (0xFFFF#32).toNat = 2 ^ 16 - 1 from rfl,
      Nat.and_two_pow_sub_one_eq_mod]
    rfl
  have hint : (ev &&& 0xFFFF).toInt = (ev &&& 0xFFFF).toBitVec.toInt := rfl
  rw [hint, BitVec.toInt_eq_toNat_cond, hmask, if_pos (by omega)]

theorem wraps_iff (ev : Int32) (code : ℕ) : Wraps ev code ↔
    (ev < 0 && (ev >>> 16) &&& 0x1fff == 7) = true ∧ ev.toUInt32.toNat % 2 ^ 16 = code := by
  rw [Bool.and_eq_true, decide_eq_true_iff]
  constructor
  · rintro ⟨hcode, bits, hbits, hev⟩
    have hneg : ev < 0 := (neg_iff ev).mpr (by omega)
    exact ⟨⟨hneg, (facility_iff hneg).mpr (by omega)⟩, by omega⟩
  · rintro ⟨⟨hneg, hfacility⟩, rfl⟩
    rw [facility_iff hneg] at hfacility
    rw [neg_iff] at hneg
    have hlt := ev.toUInt32.toNat_lt
    refine ⟨by omega, ev.toUInt32.toNat / 2 ^ 29 - 4, ?_, ?_⟩
    · omega
    · omega

theorem Wraps.neg {ev : Int32} {code : ℕ} (h : Wraps ev code) : ev.toInt < 0 := by
  obtain ⟨-, bits, -, hev⟩ := h
  have hneg : ev < 0 := (neg_iff ev).mpr (by omega)
  rwa [Int32.lt_iff_toInt_lt, Int32.toInt_zero] at hneg

theorem tableCode_wraps {ev : Int32} {code : ℕ} (h : Wraps ev code) :
    tableCode ev = Int32.ofNat code := by
  have hcode := h.1
  obtain ⟨hhresult, hlow⟩ := (wraps_iff ev code).mp h
  rw [tableCode, if_pos hhresult]
  apply Int32.toInt_inj.mp
  rw [code_toInt, hlow, Int32.toInt_ofNat_of_lt (by omega)]

theorem tableCode_plain {ev : Int32} (h : ∀ code, ¬ Wraps ev code) : tableCode ev = ev := by
  rw [tableCode, if_neg]
  intro hhresult
  exact h _ ((wraps_iff ev _).mpr ⟨hhresult, rfl⟩)

/-- Only zero and a wrapped zero are looked up as zero. -/
theorem tableCode_eq_zero (ev : Int32) : tableCode ev = 0 ↔ ev = 0 ∨ Wraps ev 0 := by
  constructor
  · intro h
    by_cases hwraps : ∃ code, Wraps ev code
    · obtain ⟨code, hcode⟩ := hwraps
      rw [tableCode_wraps hcode] at h
      have hint := congrArg Int32.toInt h
      rw [Int32.toInt_ofNat_of_lt (by have := hcode.1; omega), Int32.toInt_zero] at hint
      have hzero : code = 0 := by omega
      exact Or.inr (hzero ▸ hcode)
    · rw [tableCode_plain (not_exists.mp hwraps)] at h
      exact Or.inl h
  · rintro (rfl | h)
    · rfl
    · exact tableCode_wraps h

/-! ### The decode table -/

theorem mem_all (e : WinError) : e ∈ WinError.all := by
  cases e <;> decide

theorem condition_ne_success (e : WinError) : e.condition ≠ .success := by
  cases e <;> decide

section Table

variable {numbers : Numbers} (hdoc : numbers.Documented)

include hdoc

theorem errc_pos {e : Errc} (he : e ≠ .success) : 0 < (numbers.errc e).toInt := by
  cases e with
  | success => exact absurd rfl he
  | _ => exact hdoc.errno_pos _

theorem find_winError (e : WinError) :
    (WinError.all.find? fun f => numbers.winError f == numbers.winError e) = some e := by
  cases hfind : WinError.all.find? fun f => numbers.winError f == numbers.winError e with
  | none =>
    rw [List.find?_eq_none] at hfind
    exact absurd (beq_self_eq_true _) (hfind e (mem_all e))
  | some f =>
    have hnumber := List.find?_some hfind
    rw [beq_iff_eq] at hnumber
    rw [hdoc.distinct hnumber]

/-- What the table makes of a number: nothing, or an error. -/
theorem systemCategoryConditionWin32_cases (ev : Int32) :
    (tableCode ev = 0 ∧ systemCategoryConditionWin32 numbers ev = 0) ∨
      (tableCode ev ≠ 0 ∧ 0 < (systemCategoryConditionWin32 numbers ev).toInt) ∨
      (tableCode ev ≠ 0 ∧ systemCategoryConditionWin32 numbers ev = -1) := by
  rw [systemCategoryConditionWin32]
  by_cases hzero : tableCode ev = 0
  · rw [if_pos (beq_iff_eq.mpr hzero)]
    exact Or.inl ⟨hzero, rfl⟩
  · rw [if_neg (mt beq_iff_eq.mp hzero)]
    refine Or.inr ?_
    cases hfind : WinError.all.find? fun e => numbers.winError e == tableCode ev with
    | some e => exact Or.inl ⟨hzero, errc_pos hdoc (condition_ne_success e)⟩
    | none =>
      dsimp only
      split_ifs
      · exact Or.inl ⟨hzero, errc_pos hdoc (by decide)⟩
      · exact Or.inr ⟨hzero, rfl⟩

theorem systemCategoryConditionWin32_winError (e : WinError) :
    systemCategoryConditionWin32 numbers (numbers.winError e) = numbers.errc e.condition := by
  have hpos := hdoc.pos e
  have hcode : tableCode (numbers.winError e) = numbers.winError e := by
    apply tableCode_plain
    intro code hwraps
    have hneg := hwraps.neg
    omega
  have hzero : numbers.winError e ≠ 0 := by
    intro h
    rw [h, Int32.toInt_zero] at hpos
    omega
  rw [systemCategoryConditionWin32, hcode, if_neg (mt beq_iff_eq.mp hzero), find_winError hdoc]

/-- `WAIT_TIMEOUT`, which has no symbol. -/
theorem systemCategoryConditionWin32_timeout :
    systemCategoryConditionWin32 numbers 258 = numbers.errc .timedOut := by
  have hcode : tableCode 258 = 258 := by decide
  have hfind : (WinError.all.find? fun e => numbers.winError e == 258) = none := by
    rw [List.find?_eq_none]
    exact fun e _ => mt beq_iff_eq.mp (hdoc.ne_timeout e)
  rw [systemCategoryConditionWin32, hcode, hfind]
  rfl

omit hdoc in
theorem systemCategoryConditionWin32_default {ev : Int32} (hplain : ∀ code, ¬ Wraps ev code)
    (hzero : ev ≠ 0) (htimeout : ev ≠ 258) (hother : ∀ e, numbers.winError e ≠ ev) :
    systemCategoryConditionWin32 numbers ev = -1 := by
  have hfind : (WinError.all.find? fun e => numbers.winError e == ev) = none := by
    rw [List.find?_eq_none]
    exact fun e _ => mt beq_iff_eq.mp (hother e)
  rw [systemCategoryConditionWin32, tableCode_plain hplain, if_neg (mt beq_iff_eq.mp hzero), hfind]
  exact if_neg (mt beq_iff_eq.mp htimeout)

variable {U K : Type} (w : Program U K)

/-- A condition fails exactly if the code does, but for the zero that is wrapped as a failure. -/
theorem failed_defaultErrorCondition (ev : Int32) :
    (defaultErrorCondition numbers ev : ErrorCondition U).failed w =
      (ErrorCode.ofCategory w ev .system : ErrorCode U K).failed ↔ ¬ Wraps ev 0 := by
  have hcode : (ErrorCode.ofCategory w ev .system : ErrorCode U K).failed = (ev != 0) := by
    rw [ErrorCode.ofCategory_eq, ErrorCode.failed_ofCategoryAt]
    rfl
  have htable := tableCode_eq_zero ev
  rw [hcode, defaultErrorCondition]
  rcases systemCategoryConditionWin32_cases hdoc ev with ⟨hzero, he⟩ | ⟨hne, he⟩ | ⟨hne, he⟩
  · -- the condition is success, whatever the code is
    rw [he]
    change false = (ev != 0) ↔ ¬ Wraps ev 0
    rw [eq_comm, bne_eq_false_iff_eq]
    constructor
    · rintro rfl hwraps
      have hneg := hwraps.neg
      rw [Int32.toInt_zero] at hneg
      exact absurd hneg (Int.lt_irrefl 0)
    · exact fun hwraps => (htable.mp hzero).resolve_right hwraps
  · have hfails : systemCategoryConditionWin32 numbers ev ≠ 0 := by
      intro h
      rw [h, Int32.toInt_zero] at he
      exact absurd he (Int.lt_irrefl 0)
    have hmapped : systemCategoryConditionWin32 numbers ev ≠ -1 := by
      intro h
      rw [h] at he
      exact absurd he (by decide)
    rw [ne_eq, htable, not_or] at hne
    rw [if_neg (mt beq_iff_eq.mp hmapped), iff_true_right hne.2]
    change (systemCategoryConditionWin32 numbers ev != 0) = (ev != 0)
    rw [bne_iff_ne.mpr hfails, bne_iff_ne.mpr hne.1]
  · rw [ne_eq, htable, not_or] at hne
    rw [he, iff_true_right hne.2]
    rfl

omit hdoc in
/-- With a condition of the generic category only the table counts. -/
theorem eqCondition_generic (ev : Int32) {condition : ErrorCondition U}
    (hgeneric : condition.category = .generic) : eqCondition numbers w ev condition = true ↔
      systemCategoryConditionWin32 numbers ev = condition.value ∧ condition.value ≠ -1 := by
  have hother : (ErrorCategory.generic : ErrorCategory U).equivalentCode w
      (ErrorCode.ofCategory w ev .system) condition.value = false := by
    change (ErrorCode.ofCategory w ev .system).equals w condition.value .generic = false
    rw [ErrorCode.equals_ofCategory, ErrorCategory.eq_system, Bool.and_eq_false_iff]
    exact Or.inr rfl
  rw [eqCondition, hgeneric, hother, Bool.or_false, ErrorCondition.eq_iff, hgeneric,
    defaultErrorCondition]
  split_ifs with hmapped
  · rw [beq_iff_eq] at hmapped
    rw [hmapped]
    constructor
    · rintro ⟨-, hsystem⟩
      rw [ErrorCategory.eq_generic, beq_iff_eq] at hsystem
      exact absurd hsystem systemCategoryId_ne_generic
    · rintro ⟨heq, hne⟩
      exact absurd heq.symm hne
  · rw [beq_iff_eq] at hmapped
    constructor
    · rintro ⟨heq, -⟩
      exact ⟨heq, fun h => hmapped (heq.trans h)⟩
    · rintro ⟨heq, -⟩
      exact ⟨heq, ErrorCategory.eq_self w _⟩

/-- An error that an `HRESULT` wraps has the conditions that it has by itself; every row of the table
is reached, and a number without a row has no entry. The one failure that is equivalent to success is a
wrapped zero. -/
theorem win32_conditions :
    (systemCategoryConditionWin32 numbers 0 = numbers.errc .success ∧
      systemCategoryConditionWin32 numbers 258 = numbers.errc .timedOut ∧
      ∀ e, systemCategoryConditionWin32 numbers (numbers.winError e) = numbers.errc e.condition) ∧
    (∀ ev code, Wraps ev code → systemCategoryConditionWin32 numbers ev =
      systemCategoryConditionWin32 numbers (Int32.ofNat code)) ∧
    (∀ ev, (∀ code, ¬ Wraps ev code) → ev ≠ 0 → ev ≠ 258 → (∀ e, numbers.winError e ≠ ev) →
      systemCategoryConditionWin32 numbers ev = -1) ∧
    (∀ ev, (∀ code, ¬ Wraps ev code) → ev.toInt < 0 ∨ 65536 ≤ ev.toInt →
      systemCategoryConditionWin32 numbers ev = -1) ∧
    (∀ ev, (defaultErrorCondition numbers ev : ErrorCondition U).failed w =
      (ErrorCode.ofCategory w ev .system : ErrorCode U K).failed ↔ ¬ Wraps ev 0) ∧
    ∀ ev (condition : ErrorCondition U), condition.category = .generic →
      (eqCondition numbers w ev condition = true ↔
        systemCategoryConditionWin32 numbers ev = condition.value ∧ condition.value ≠ -1) := by
  refine ⟨⟨rfl, systemCategoryConditionWin32_timeout hdoc, systemCategoryConditionWin32_winError hdoc⟩,
    ?_, fun ev => systemCategoryConditionWin32_default, ?_, failed_defaultErrorCondition hdoc w,
    fun ev _ => eqCondition_generic w ev⟩
  · intro ev code hwraps
    have hplain : tableCode (Int32.ofNat code) = Int32.ofNat code := by
      apply tableCode_plain
      intro inner hinner
      have hneg := hinner.neg
      rw [Int32.toInt_ofNat_of_lt (by have := hwraps.1; omega)] at hneg
      omega
    rw [systemCategoryConditionWin32, systemCategoryConditionWin32, tableCode_wraps hwraps, hplain]
  · intro ev hplain hout
    apply systemCategoryConditionWin32_default hplain
    · rintro rfl
      rw [Int32.toInt_zero] at hout
      omega
    · rintro rfl
      exact absurd hout (by decide)
    · rintro e rfl
      have hpos := hdoc.pos e
      have hlt := hdoc.lt e
      omega

end Table

/-! ### Numbers that are documented -/

def plainNumber (e : WinError) : ℕ :=
  if e = .errorAccessDenied then 5 else 1000 + WinError.all.idxOf e

def plainNumbers : Numbers where
  winError e := Int32.ofNat (plainNumber e)
  errno e := if e = .permissionDenied then 13 else 1

theorem plainNumber_bounds (e : WinError) :
    plainNumber e = 5 ∨ 1000 ≤ plainNumber e ∧ plainNumber e < 2000 := by
  have hindex := List.idxOf_lt_length_of_mem (mem_all e)
  have hlength : WinError.all.length = 84 := rfl
  rw [plainNumber]
  split_ifs
  · exact Or.inl rfl
  · right
    omega

theorem plainNumber_injective : Function.Injective plainNumber := by
  intro e f h
  rw [plainNumber, plainNumber] at h
  split_ifs at h with he hf hf
  · rw [he, hf]
  · omega
  · omega
  · exact (List.idxOf_inj (mem_all e)).mp (Nat.add_left_cancel h)

theorem plainNumbers_documented : plainNumbers.Documented := by
  have hint (e : WinError) : (plainNumbers.winError e).toInt = plainNumber e := by
    have hbounds := plainNumber_bounds e
    exact Int32.toInt_ofNat_of_lt (by omega)
  refine ⟨?_, ?_, ?_, ?_, ?_⟩
  · intro e f h
    have hnumber := congrArg Int32.toInt h
    rw [hint, hint] at hnumber
    exact plainNumber_injective (by omega)
  · intro e h
    have hbounds := plainNumber_bounds e
    have hnumber := congrArg Int32.toInt h
    rw [hint, show (258 : Int32).toInt = 258 from rfl] at hnumber
    omega
  · intro e
    have hbounds := plainNumber_bounds e
    rw [hint]
    omega
  · intro e
    have hbounds := plainNumber_bounds e
    rw [hint]
    omega
  · intro e
    change 0 < (if e = .permissionDenied then 13 else 1 : Int32).toInt
    split_ifs
    · decide
    · decide

/-- `0x80070005` is `errc::permission_denied`. -/
theorem win32_conditions_plain :
    eqCondition plainNumbers (plainPair 0) (-0x7ff8fffb) (.ofGenericValue 13) = true := by
  obtain ⟨⟨-, -, htable⟩, hwrapped, -, -, -, hgeneric⟩ :=
    win32_conditions plainNumbers_documented (plainPair 0)
  have hwraps : Wraps (-0x7ff8fffb) 5 := ⟨by decide, 0, by decide, by decide⟩
  refine (hgeneric _ _ rfl).mpr ⟨?_, by decide⟩
  rw [hwrapped _ 5 hwraps]
  exact htable .errorAccessDenied

end Win32

end BoostSystem
