import SharedDesk.Address
/-!
# Writing addresses

Four bytes are written in decimal with dots. Eight groups are written in hexadecimal with colons,
without leading zeros, and the first longest run of at least two zero groups is left out between two
colons. An address that stands for four bytes (five zero groups, then `ffff`) shows them in decimal.
-/

namespace SharedDesk

/-- The four bytes in decimal, with dots between them. -/
def Quad.chars (q : Quad) : List Char :=
  List.intercalate ['.'] ([q.a, q.b, q.c, q.d].map fun n => Nat.toDigits 10 n.toNat)

namespace Address

/-- A stretch of groups. -/
structure Stretch where
  start : Nat
  length : Nat
deriving DecidableEq, Repr

/-- The first longest stretch of zero groups, where `i` is the place of the next group, `current`
the stretch that ends there, and `longest` the best one before. -/
def zeroStretch : (i : Nat) → (current longest : Stretch) → List UInt16 → Stretch
  | _, _, longest, [] => longest
  | i, current, longest, g :: gs =>
    if g = 0 then
      let start := if current.length = 0 then i else current.start
      let grown : Stretch := ⟨start, current.length + 1⟩
      zeroStretch (i + 1) grown (if longest.length < grown.length then grown else longest) gs
    else zeroStretch (i + 1) ⟨0, 0⟩ longest gs

/-- Groups in hexadecimal, with colons between them. -/
def groupChars (gs : List UInt16) : List Char :=
  List.intercalate [':'] (gs.map fun g => Nat.toDigits 16 g.toNat)

/-- The four bytes that an address of eight groups stands for. -/
def mapped? : List UInt16 → Option Quad
  | [0, 0, 0, 0, 0, 0xFFFF, g, h] =>
    some ⟨UInt8.ofNat (g.toNat / 256), UInt8.ofNat (g.toNat % 256), UInt8.ofNat (h.toNat / 256),
      UInt8.ofNat (h.toNat % 256)⟩
  | _ => none

/-- The text of eight groups as characters. -/
def v6Chars (gs : List UInt16) : List Char :=
  match mapped? gs with
  | some q => "::ffff:".toList ++ q.chars
  | none =>
    let zeros := zeroStretch 0 ⟨0, 0⟩ ⟨0, 0⟩ gs
    if 1 < zeros.length then
      groupChars (gs.take zeros.start) ++ [':', ':'] ++
        groupChars (gs.drop (zeros.start + zeros.length))
    else groupChars gs

/-- The text of an address as characters. -/
def chars : Address → List Char
  | v4 q => q.chars
  | v6 gs => v6Chars gs.toList

/-- The text of an address. -/
def text (a : Address) : String := String.ofList a.chars

end Address

end SharedDesk
