import SharedDesk.Address
import SharedDesk.Text.Digits
/-!
# Reading addresses

An address is four decimal bytes without leading zeros, or groups of up to four hexadecimal
digits. Two colons stand for as many zero groups as are missing, at least one, and the last two
groups may be written as four decimal bytes. The text has to end with the address.
-/

namespace SharedDesk

/-- Reads a number of at most `limit` digits. A longer run of digits is no number. -/
def readNumber? (base limit : Nat) (cs : List Char) : Option (Nat × List Char) :=
  let digits := cs.takeWhile (Text.isDigitOf base)
  if digits.length = 0 ∨ limit < digits.length then none
  else some (Text.valueOf base digits, cs.dropWhile (Text.isDigitOf base))

namespace Quad

/-- Reads a decimal byte without leading zeros. -/
def readByte? (cs : List Char) : Option (UInt8 × List Char) := do
  let (n, rest) ← readNumber? 10 3 cs
  if n < 256 ∧ ¬(cs.head? = some '0' ∧ 1 < cs.length - rest.length) then
    some (UInt8.ofNat n, rest)
  else none

/-- Reads a dot and a decimal byte. -/
def readNext? : List Char → Option (UInt8 × List Char)
  | '.' :: rest => readByte? rest
  | _ => none

/-- Reads four decimal bytes with dots between them. -/
def read? (cs : List Char) : Option (Quad × List Char) := do
  let (a, cs) ← readByte? cs
  let (b, cs) ← readNext? cs
  let (c, cs) ← readNext? cs
  let (d, cs) ← readNext? cs
  some (⟨a, b, c, d⟩, cs)

/-- The two groups that four bytes fill. -/
def groups (q : Quad) : List UInt16 :=
  [UInt16.ofNat (q.a.toNat * 256 + q.b.toNat), UInt16.ofNat (q.c.toNat * 256 + q.d.toNat)]

end Quad

namespace Address

/-- Groups read from the front of a text. -/
structure GroupRun where
  groups : List UInt16
  /-- Whether the last two groups were written as four bytes. -/
  endsInQuad : Bool
  rest : List Char

/-- Reads up to `limit` groups with colons between them; `first` says that no colon comes before the
next one. Four bytes may stand for two groups, and nothing follows them. -/
def readGroups : (limit : Nat) → (first : Bool) → List Char → GroupRun
  | 0, _, cs => ⟨[], false, cs⟩
  | limit + 1, first, cs =>
    let body? : Option (List Char) :=
      if first then some cs
      else match cs with
        | ':' :: rest => some rest
        | _ => none
    match body? with
    | none => ⟨[], false, cs⟩
    | some body =>
      match if 0 < limit then Quad.read? body else none with
      | some (q, rest) => ⟨q.groups, true, rest⟩
      | none =>
        match readNumber? 16 4 body with
        | some (n, rest) =>
          let run := readGroups limit false rest
          { run with groups := UInt16.ofNat n :: run.groups }
        | none => ⟨[], false, cs⟩

/-- The address of eight groups, if there are eight. -/
def ofGroups? (gs : List UInt16) : Option Address :=
  if h : gs.length = 8 then some (v6 ⟨gs.toArray, by simpa using h⟩) else none

/-- Reads an address of eight groups. -/
def readV6? (cs : List Char) : Option (Address × List Char) :=
  let head := readGroups 8 true cs
  if head.groups.length = 8 then (ofGroups? head.groups).map (·, head.rest)
  else if head.endsInQuad then none
  else match head.rest with
    | ':' :: ':' :: rest =>
      let tail := readGroups (7 - head.groups.length) true rest
      let missing := 8 - head.groups.length - tail.groups.length
      (ofGroups? (head.groups ++ List.replicate missing 0 ++ tail.groups)).map (·, tail.rest)
    | _ => none

/-- Reads an address from characters. -/
def ofChars? (cs : List Char) : Option Address :=
  let found := match Quad.read? cs with
    | some (q, rest) => some (v4 q, rest)
    | none => readV6? cs
  match found with
  | some (a, []) => some a
  | _ => none

/-- Reads an address. -/
def read? (s : String) : Option Address := ofChars? s.toList

end Address

end SharedDesk
