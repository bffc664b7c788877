import Mathlib.Data.List.TakeWhile
import Mathlib.Data.String.Basic

/-!
# Character buffers and the C library's copies into them

A `char*` is a function from indices to characters, so that a write past the end is visible as a
change at a large index. `snprintf buffer len text` is the effect of formatting `text` into
`buffer`, and `readArray` reads back the NUL-terminated text of an array of a known size.
-/

namespace CString

abbrev Buffer := ℕ → Char

def nul : Char := '\x00'

/-- The characters of `text` that `text.c_str()` shows to C. -/
def cStr (text : String) : List Char := text.toList.takeWhile (· ≠ nul)

/-- `snprintf( buffer, len, "%s", text )`: at most `len - 1` characters and a terminating NUL, and
nothing at all when `len` is 0. -/
def snprintf (buffer : Buffer) (len : ℕ) (text : List Char) : Buffer := fun i =>
  if i < len then
    if i < min text.length (len - 1) then text.getD i nul
    else if i = min text.length (len - 1) then nul
    else buffer i
  else buffer i

/-- `strncpy( buffer, text, n )`: the text, padded with NULs up to `n` characters. -/
def strncpy (buffer : Buffer) (text : List Char) (n : ℕ) : Buffer := fun i =>
  if i < n then text.getD i nul else buffer i

def store (buffer : Buffer) (i : ℕ) (c : Char) : Buffer := Function.update buffer i c

/-! ### Arrays of a known size

A function that would write past the end of a `char[ room ]` has no result. -/

def strcpyInto (room : ℕ) (buffer : Buffer) (text : List Char) : Option Buffer :=
  if text.length < room then
    some fun i => if i ≤ text.length then text.getD i nul else buffer i
  else none

def strncpyInto (room : ℕ) (buffer : Buffer) (text : List Char) (n : ℕ) : Option Buffer :=
  if n ≤ room then some (strncpy buffer text n) else none

def storeInto (room : ℕ) (buffer : Buffer) (i : ℕ) (c : Char) : Option Buffer :=
  if i < room then some (store buffer i c) else none

/-- The text held by a `char[ size ]`, up to its first NUL. -/
def readArray (size : ℕ) (buffer : Buffer) : String :=
  String.ofList (((List.range size).map buffer).takeWhile (· ≠ nul))

def decimal (n : Int32) : String := toString n.toInt

end CString
