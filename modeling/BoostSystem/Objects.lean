import BoostSystem.CString
import Mathlib.Data.UInt
import Mathlib.Logic.Function.Basic

/-!
# Categories, codes and conditions

References to category objects are names: the three builtin singletons, and one name for every
other object of a class derived from `error_category`, whatever identifier it was given. References
to `std::error_category` objects are names too: the two standard singletons, the two function-local
statics `generic_instance` and `system_instance` of the conversion operator, the object in the
`stdcat_` storage of a category, and one name for every other object. A `Program` says what the
names stand for: their addresses, their identifiers (`id_`), and the virtual functions of the
classes they belong to, where `none` stands for a function that is not overridden and a `message`
that yields `none` throws. Machine integers have their own widths; `uintptr_t` and
`ulong_long_type` are 64-bit words, of which a platform with shorter pointers uses the lower part.
-/

namespace BoostSystem

open CString

def genericCategoryId : UInt64 := ((0xB2AB117A : UInt64) <<< 32) + 0x257EDFD0

def systemCategoryId : UInt64 := genericCategoryId + 1

def interopCategoryId : UInt64 := genericCategoryId + 2

@[simp] theorem genericCategoryId_ne_zero : genericCategoryId ≠ 0 := by decide

@[simp] theorem systemCategoryId_ne_zero : systemCategoryId ≠ 0 := by decide

@[simp] theorem interopCategoryId_ne_zero : interopCategoryId ≠ 0 := by decide

@[simp] theorem systemCategoryId_ne_generic : systemCategoryId ≠ genericCategoryId := by decide

@[simp] theorem interopCategoryId_ne_generic : interopCategoryId ≠ genericCategoryId := by decide

@[simp] theorem interopCategoryId_ne_system : interopCategoryId ≠ systemCategoryId := by decide

inductive ErrorCategory (U : Type) where
  | generic
  | system
  | interop
  | user (u : U)
deriving DecidableEq

inductive StdErrorCategory (U K : Type) where
  | generic
  | system
  | genericInstance
  | systemInstance
  | stdcat (c : ErrorCategory U)
  | foreign (k : K)
deriving DecidableEq

structure ErrorCondition (U : Type) where
  val : Int32
  cat : Option (ErrorCategory U)
deriving DecidableEq

structure StdErrorCode (U K : Type) where
  value : Int32
  category : StdErrorCategory U K
deriving DecidableEq

structure StdErrorCondition (U K : Type) where
  value : Int32
  category : StdErrorCategory U K
deriving DecidableEq

/-- The union of `error_code`: `d1_`, whose category pointer may be null, or a `std::error_code`
placed in `d2_`. -/
inductive Storage (U K : Type) where
  | d1 (val : Int32) (cat : Option (ErrorCategory U))
  | d2 (ec : StdErrorCode U K)
deriving DecidableEq

/-- The representation of an `error_code`.
`lcFlags` 0: default constructed; 1: holds a `std::error_code` in `d2_`; 2, 3: holds a code in
`d1_`, with `failed` in the low bit; above 3: a pointer to a source location, `failed` in the low
bit. -/
structure ErrorCode (U K : Type) where
  data : Storage U K
  lcFlags : UInt64
deriving DecidableEq

/-- The `char const*` that a `message( ev, buffer, len )` returns. -/
inductive TextPtr where
  | buffer
  | literal (text : String)
deriving DecidableEq

structure Text where
  ptr : TextPtr
  buffer : Option Buffer

structure CategoryClass (U K : Type) where
  name : String
  message : Int32 → Option String
  messageBuffer : Option (Int32 → Option Buffer → ℕ → Text)
  failed : Option (Int32 → Bool)
  defaultErrorCondition : Option (Int32 → ErrorCondition U)
  equivalentCondition : Option (Int32 → ErrorCondition U → Bool)
  equivalentCode : Option (ErrorCode U K → Int32 → Bool)

structure StdCategoryClass (U K : Type) where
  name : String
  message : Int32 → Option String
  defaultErrorCondition : Option (Int32 → StdErrorCondition U K)
  equivalentCondition : Option (Int32 → StdErrorCondition U K → Bool)
  equivalentCode : Option (StdErrorCode U K → Int32 → Bool)

/-- The dynamic type of a `std::error_category` object: `detail::std_category` with its `pc_`, or
any other derived class. -/
inductive StdObject (U K : Type) where
  | stdCategory (pc : ErrorCategory U)
  | derived (cls : StdCategoryClass U K)

/-- The macros `BOOST_SYSTEM_AVOID_STD_GENERIC_CATEGORY`, `BOOST_SYSTEM_AVOID_STD_SYSTEM_CATEGORY`
and `BOOST_NO_RTTI`, and whether `std::size_t` has 32 bits. -/
structure Config where
  avoidStdGenericCategory : Bool
  avoidStdSystemCategory : Bool
  noRtti : Bool
  size32 : Bool
deriving DecidableEq

/-- The C library's error texts: glibc has one of two `strerror_r`, everything else `strerror`. -/
inductive Libc where
  | gnu (strerrorR : Int32 → Buffer → ℕ → TextPtr × Buffer)
  | xsi (strerrorR : Int32 → Buffer → ℕ → Int32 × Buffer)
  | other (strerror : Int32 → Option String)

def ErrorCategory.idOf {U : Type} (userId : U → UInt64) : ErrorCategory U → UInt64
  | .generic => genericCategoryId
  | .system => systemCategoryId
  | .interop => interopCategoryId
  | .user u => userId u

/-- A program on a POSIX platform. `stack` is the contents of an uninitialised local array.
`genericThis` is the `this` with which `generic_instance` was constructed: the first category with
the generic identifier to be converted. The fields about `std` are what the standard leaves to the
implementation; `posixErrno` is the `errno` value that `std::system_category()` takes a value to
correspond to. `locationToString` is `source_location::to_string`, of the location at an address or
of a default-constructed one. -/
structure Program (U K : Type) where
  config : Config
  libc : Libc
  stack : Buffer
  address : ErrorCategory U → UInt64
  address_injective : Function.Injective address
  userId : U → UInt64
  userClass : U → CategoryClass U K
  stdAddress : StdErrorCategory U K → UInt64
  stdAddress_injective : Function.Injective stdAddress
  foreign : K → StdObject U K
  genericThis : ErrorCategory U
  genericThis_id : genericThis.idOf userId = genericCategoryId
  systemThis : ErrorCategory U
  systemThis_id : systemThis.idOf userId = systemCategoryId
  stdGenericMessage : Int32 → Option String
  stdSystemMessage : Int32 → Option String
  posixErrno : Int32 → Option Int32
  stdHash : StdErrorCode U K → UInt64
  locationToString : Option UInt64 → String

def CategoryClass.plain {U K : Type} (name : String) : CategoryClass U K where
  name := name
  message _ := some "message"
  messageBuffer := none
  failed := none
  defaultErrorCondition := none
  equivalentCondition := none
  equivalentCode := none

def pairAddress : ErrorCategory Bool → UInt64
  | .generic => 0x10
  | .system => 0x20
  | .interop => 0x30
  | .user false => 0x40
  | .user true => 0x50

theorem pairAddress_injective : Function.Injective pairAddress := by
  rintro (_ | _ | _ | (_ | _)) (_ | _ | _ | (_ | _)) h <;> first | rfl | exact absurd h (by decide)

def pairStdAddress : StdErrorCategory Bool Empty → UInt64
  | .generic => 0x100
  | .system => 0x200
  | .genericInstance => 0x300
  | .systemInstance => 0x400
  | .stdcat .generic => 0x510
  | .stdcat .system => 0x520
  | .stdcat .interop => 0x530
  | .stdcat (.user false) => 0x540
  | .stdcat (.user true) => 0x550

theorem pairStdAddress_injective : Function.Injective pairStdAddress := by
  rintro (_ | _ | _ | _ | (_ | _ | _ | (_ | _)) | ⟨⟨⟩⟩) (_ | _ | _ | _ | (_ | _ | _ | (_ | _)) | ⟨⟨⟩⟩)
    h <;> first | rfl | exact absurd h (by decide)

/-- A program in the default configuration with two categories of its own, for concrete runs. -/
def pairProgram (userId : Bool → UInt64) (userClass : Bool → CategoryClass Bool Empty) :
    Program Bool Empty where
  config := ⟨false, false, false, false⟩
  libc := .other fun _ => none
  stack _ := nul
  address := pairAddress
  address_injective := pairAddress_injective
  userId := userId
  userClass := userClass
  stdAddress := pairStdAddress
  stdAddress_injective := pairStdAddress_injective
  foreign k := k.elim
  genericThis := .generic
  genericThis_id := rfl
  systemThis := .system
  systemThis_id := rfl
  stdGenericMessage _ := some "generic"
  stdSystemMessage _ := some "system"
  posixErrno ev := some ev
  stdHash ec := ec.value.toUInt32.toUInt64
  locationToString _ := "location"

/-- Two categories of one user class that overrides nothing. -/
def plainPair (userId : Bool → UInt64) : Program Bool Empty :=
  pairProgram userId fun _ => .plain "user"

end BoostSystem
