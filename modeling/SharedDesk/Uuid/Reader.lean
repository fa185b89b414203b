import SharedDesk.Text.Unprintable
import SharedDesk.Uuid
/-!
# Reading identifiers

An identifier is read from any of four spellings, in either letter case: 32 digits in a row, the
grouped form, the grouped form in braces, and the grouped form after `urn:uuid:`. The length in
bytes decides which spelling is meant.

A text that is none of them is described by its first fault: its length, a character that is
neither a digit nor a hyphen, the number of groups, or the size of a group.
-/

namespace SharedDesk.Uuid

open Text (isHexDigit)

/-- Why a text is no identifier. Sizes and positions count bytes. -/
inductive Fault
  | size (found : Nat)
  | character (c : Char) (position : Nat)
  | groupCount (found : Nat)
  | groupSize (group expected found : Nat)
deriving DecidableEq, Repr

/-- The wording of a fault. -/
def Fault.message : Fault → String
  | size n => "invalid length: found " ++ toString n
  | character c i => "invalid character: found \x60" ++ c.toString ++ "\x60 at " ++ toString i
  | groupCount n => "invalid group count: expected 5, found " ++ toString n
  | groupSize g e n =>
    "invalid group length in group " ++ toString g ++ ": expected " ++ toString e ++
      ", found " ++ toString n

/-- The length of a text in bytes. -/
def byteSize (cs : List Char) : Nat := cs.foldr (fun c size => c.utf8Size + size) 0

/-- What stands before the grouped form in its longest spelling, in lower case. -/
def urn : List Char := "urn:uuid:".toList

/-- Whether a text starts with `urn:uuid:`, in either letter case. -/
def startsWithUrn (cs : List Char) : Bool := (cs.take urn.length).map Char.toLower == urn

/-- Cuts a text at every hyphen. -/
def groups : List Char → List (List Char)
  | [] => [[]]
  | c :: rest =>
    if c = '-' then [] :: groups rest
    else match groups rest with
      | g :: gs => (c :: g) :: gs
      | [] => [[c]]

/-- The identifier of 32 digits in a row. -/
def ofDigits? (cs : List Char) : Option Uuid :=
  if cs.length = 32 ∧ cs.all isHexDigit then some (ofNat (Text.valueOf 16 cs)) else none

/-- The identifier in the grouped form. -/
def ofGrouped? (cs : List Char) : Option Uuid :=
  let gs := groups cs
  if gs.map List.length = groupSizes then ofDigits? gs.flatten else none

/-- The inside of a text in braces. -/
def inBraces? : List Char → Option (List Char)
  | '\x7b' :: rest => if rest.getLast? = some '\x7d' then some rest.dropLast else none
  | _ => none

/-- Takes the braces or the `urn:uuid:` off a text of the length that goes with them. -/
def unwrap (cs : List Char) : List Char :=
  if byteSize cs = 38 then (inBraces? cs).getD cs
  else if byteSize cs = 45 ∧ startsWithUrn cs then cs.drop urn.length
  else cs

/-- The identifier that a text spells. -/
def ofChars? (cs : List Char) : Option Uuid :=
  let inner := unwrap cs
  if byteSize inner = 36 then ofGrouped? inner
  else if byteSize cs = 32 then ofDigits? cs
  else none

/-- The first character that is neither a digit nor a hyphen, with its position. -/
def firstStray? : (position : Nat) → List Char → Option Fault
  | _, [] => none
  | i, c :: rest =>
    if isHexDigit c || c == '-' then firstStray? (i + c.utf8Size) rest
    else some (.character c i)

/-- The first group of the wrong size. When the first four are right, the last one is to blame, and
all that follows the first 24 bytes of the whole text counts as its size. -/
def groupFault (size : Nat) : (group : Nat) → (expected : List Nat) → List (List Char) → Fault
  | i, e :: expected, g :: gs =>
    if i < 4 ∧ g.length ≠ e then .groupSize i e g.length
    else if i < 4 then groupFault size (i + 1) expected gs
    else .groupSize 4 12 (size - 24)
  | _, _, _ => .groupSize 4 12 (size - 24)

/-- The fault of what is left of a text after `skipped` bytes. `grouped` says that only the grouped
form is meant, so that a text without hyphens has too few groups rather than the wrong length. -/
def bodyFault (size skipped : Nat) (grouped : Bool) (body : List Char) : Fault :=
  match firstStray? skipped body with
  | some fault => fault
  | none =>
    let gs := groups body
    if !grouped && gs.length == 1 then .size size
    else if gs.length ≠ 5 then .groupCount gs.length
    else groupFault size 0 groupSizes gs

/-- The first fault of a text that is no identifier. -/
def fault (cs : List Char) : Fault :=
  let inner := unwrap cs
  let size := byteSize inner
  if size = 0 ∨ 45 < size then .size size
  else if size = 36 then bodyFault size 0 true inner
  else match inBraces? inner with
    | some body => bodyFault size 1 true body
    | none =>
      if startsWithUrn inner then bodyFault size urn.length true (inner.drop urn.length)
      else bodyFault size 0 false inner

/-- Reads an identifier, or says what is wrong with the text. -/
def read (s : String) : Except Fault Uuid :=
  match ofChars? s.toList with
  | some id => .ok id
  | none => .error (fault s.toList)

end SharedDesk.Uuid
