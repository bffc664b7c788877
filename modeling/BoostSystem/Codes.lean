import BoostSystem.StdCategories
import BoostSystem.Tagged

/-!
# Error codes

The constructors, modifiers, observers, comparisons and conversions of `error_code`, as they act on
its representation. An observer that finds `lcFlags` 1 reads `d2_`, and otherwise `d1_`; reading
the other member of the union is undefined, and `d1Val`, `d1Cat` and `d2Code` then give an arbitrary
value. The constructors are `empty`, `ofCategory` and `ofCategoryAt` from a value and a category
without and with a location, `relocate` from a code and a location, and `ofStd` from a
`std::error_code`. `operator T&` is `bindStd`, followed by `writeStd` when the reference is assigned
to. `eqStd` and `stdEq` compare with a `std::error_code` on the right and on the left.
-/

namespace BoostSystem

open CString

variable {U K : Type}

/-- The address of a `source_location`. -/
structure Location where
  address : UInt64
  aligned : address &&& 1 = 0
  four_le : 4 ≤ address

def locationWord : Option Location → UInt64
  | some loc => loc.address
  | none => 2

namespace Storage

def d1Val : Storage U K → Int32
  | .d1 val _ => val
  | .d2 _ => 0

def d1Cat : Storage U K → ErrorCategory U
  | .d1 _ (some cat) => cat
  | _ => .system

def d2Code : Storage U K → StdErrorCode U K
  | .d2 ec => ec
  | .d1 _ _ => .empty

end Storage

namespace ErrorCode

variable (w : Program U K)

def empty : ErrorCode U K := ⟨.d1 0 none, 0⟩

def ofCategory (val : Int32) (cat : ErrorCategory U) : ErrorCode U K :=
  ⟨.d1 val (some cat), 2 + (failedImpl w val cat).toUInt64⟩

def ofCategoryAt (val : Int32) (cat : ErrorCategory U) (loc : Option Location) : ErrorCode U K :=
  ⟨.d1 val (some cat), locationWord loc ||| (failedImpl w val cat).toUInt64⟩

def relocate (ec : ErrorCode U K) (loc : Option Location) : ErrorCode U K :=
  if ec.lcFlags != 0 && ec.lcFlags != 1 then
    { ec with lcFlags := locationWord loc ||| (ec.lcFlags &&& 1) }
  else ec

/-- `::new( d2_ ) std::error_code( ec ); lc_flags_ = 1`. -/
def wrap (ec : StdErrorCode U K) : ErrorCode U K := ⟨.d2 ec, 1⟩

def ofStd (ec : StdErrorCode U K) : ErrorCode U K :=
  match ec.category.dynamicCast w with
  | some original => ofCategory w ec.value original
  | none => wrap ec

def value (ec : ErrorCode U K) : Int32 :=
  if ec.lcFlags != 1 then ec.data.d1Val
  else
    let cv := ec.data.d2Code.value.toUInt32
    let ch := (w.stdAddress ec.data.d2Code.category % 2097143).toUInt32
    (cv + 1000 * ch).toInt32

def category (ec : ErrorCode U K) : ErrorCategory U :=
  if ec.lcFlags == 0 then .system
  else if ec.lcFlags == 1 then .interop
  else ec.data.d1Cat

def categoryName (ec : ErrorCode U K) : String :=
  if ec.lcFlags == 0 then "system"
  else if ec.lcFlags == 1 then "std:unknown"
  else ec.data.d1Cat.name w

def defaultErrorCondition (ec : ErrorCode U K) : ErrorCondition U :=
  ec.category.defaultErrorCondition w (ec.value w)

def message (ec : ErrorCode U K) : Option String :=
  if ec.lcFlags == 1 then ec.data.d2Code.message w
  else if ec.lcFlags == 0 then some (systemErrorCategoryMessage w (ec.value w))
  else ec.category.message w (ec.value w)

def messageBuffer (ec : ErrorCode U K) (buffer : Option Buffer) (len : ℕ) : Text :=
  if ec.lcFlags == 1 then
    match ec.data.d2Code.message w with
    | some m => ⟨.buffer, buffer.map (snprintf · len (cStr m))⟩
    | none =>
      let text := "No message text available for error std:" ++
        ec.data.d2Code.category.name w ++ ":" ++ decimal ec.data.d2Code.value
      ⟨.buffer, buffer.map (snprintf · len text.toList)⟩
  else if ec.lcFlags == 0 then systemErrorCategoryMessageBuffer w (ec.value w) buffer len
  else ec.category.messageBuffer w (ec.value w) buffer len

def failed (ec : ErrorCode U K) : Bool :=
  if ec.lcFlags &&& 1 != 0 then
    if ec.lcFlags == 1 then ec.data.d2Code.value != 0 else true
  else false

def hasLocation (ec : ErrorCode U K) : Bool := ec.lcFlags ≥ 4

/-- The address of the location, or `none` for the static default-constructed one. -/
def location (ec : ErrorCode U K) : Option UInt64 :=
  if ec.lcFlags ≥ 4 then some (ec.lcFlags &&& ~~~1) else none

def equals (ec : ErrorCode U K) (val : Int32) (cat : ErrorCategory U) : Bool :=
  if ec.lcFlags == 0 then val == 0 && cat.id w == systemCategoryId
  else if ec.lcFlags == 1 then cat.id w == interopCategoryId && val == ec.value w
  else val == ec.data.d1Val && cat.eq w ec.data.d1Cat

def toStd (ec : ErrorCode U K) : StdErrorCode U K :=
  if ec.lcFlags == 1 then ec.data.d2Code
  else if ec.lcFlags == 0 then
    if w.config.avoidStdSystemCategory then ⟨0, (ErrorCategory.system).toStd w⟩ else .empty
  else ⟨ec.data.d1Val, ec.data.d1Cat.toStd w⟩

/-- What `operator T&` makes of the code before it returns the reference to `d2_`. -/
def bindStd (ec : ErrorCode U K) : ErrorCode U K :=
  if ec.lcFlags != 1 then wrap (ec.toStd w) else ec

def writeStd (ec : ErrorCode U K) (s : StdErrorCode U K) : ErrorCode U K :=
  { ec with data := .d2 s }

def eq (lhs rhs : ErrorCode U K) : Bool :=
  let s1 := lhs.lcFlags == 1
  let s2 := rhs.lcFlags == 1
  if s1 != s2 then false
  else if s1 && s2 then lhs.data.d2Code.eq w rhs.data.d2Code
  else lhs.value w == rhs.value w && lhs.category.eq w rhs.category

def ne (lhs rhs : ErrorCode U K) : Bool := !lhs.eq w rhs

def lt (lhs rhs : ErrorCode U K) : Bool :=
  let s1 := lhs.lcFlags == 1
  let s2 := rhs.lcFlags == 1
  if !s1 && s2 then true
  else if !s2 && s1 then false
  else if s1 && s2 then lhs.data.d2Code.lt w rhs.data.d2Code
  else lhs.category.lt w rhs.category ||
    (lhs.category.eq w rhs.category && decide (lhs.value w < rhs.value w))

def eqStd (lhs : ErrorCode U K) (rhs : StdErrorCode U K) : Bool := (lhs.toStd w).eq w rhs

def stdEq (lhs : StdErrorCode U K) (rhs : ErrorCode U K) : Bool := lhs.eq w (rhs.toStd w)

def toString (ec : ErrorCode U K) : String :=
  if ec.lcFlags == 1 then
    appendInt w ("std:" ++ ec.data.d2Code.category.name w) ec.data.d2Code.value
  else appendInt w (ec.categoryName w) (ec.value w)

def what (ec : ErrorCode U K) : Option String :=
  (ec.message w).map fun m =>
    m ++ " [" ++ ec.toString w ++
      (if ec.hasLocation then " at " ++ w.locationToString ec.location else "") ++ "]"

def hashValue (ec : ErrorCode U K) : UInt64 :=
  if ec.lcFlags == 1 then w.stdHash ec.data.d2Code
  else
    let cat := ec.category
    let id := if cat.id w == 0 then w.address cat else cat.id w
    let prime : UInt64 := ((0x00000100 : UInt64) <<< 32) + 0x000001B3
    let hv : UInt64 := ((0xCBF29CE4 : UInt64) <<< 32) + 0x84222325
    let hv := (hv ^^^ id) * prime
    let hv := (hv ^^^ (ec.value w).toUInt32.toUInt64) * prime
    -- `static_cast<std::size_t>`
    if w.config.size32 then hv.toUInt32.toUInt64 else hv

end ErrorCode

end BoostSystem
