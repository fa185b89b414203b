import SharedDesk.Table
import SharedDesk.Text.Digits
/-!
# Identifiers of 128 bits

Clients and pairing sessions are named by 128-bit identifiers. They sort by value, which is also the
order of their text: 32 lower-case hexadecimal digits in groups of 8, 4, 4, 4 and 12.
-/

namespace SharedDesk

/-- A 128-bit identifier. -/
structure Uuid where
  /-- All 128 bits, the first byte most significant. -/
  bits : BitVec 128
deriving DecidableEq

namespace Uuid

instance : Ranked Uuid where
  rank id := id.bits.toNat
  rank_inj {a b} h := by
    cases a; cases b
    exact congrArg Uuid.mk (BitVec.eq_of_toNat_eq h)

/-- The identifier with a given value, modulo 2 ^ 128. -/
def ofNat (n : Nat) : Uuid := ⟨BitVec.ofNat 128 n⟩

/-- The value of the identifier. -/
def toNat (id : Uuid) : Nat := id.bits.toNat

instance : Inhabited Uuid := ⟨ofNat 0⟩

/-- How many digits stand in each group of the text. -/
def groupSizes : List Nat := [8, 4, 4, 4, 12]

/-- Cuts digits into groups of the given sizes. -/
def cut : List Nat → List Char → List (List Char)
  | [], _ => []
  | n :: sizes, ds => ds.take n :: cut sizes (ds.drop n)

/-- The text of the identifier as characters. -/
def chars (id : Uuid) : List Char :=
  List.intercalate ['-'] (cut groupSizes (Text.hexDigits 32 id.toNat))

/-- The text of the identifier. -/
def text (id : Uuid) : String := String.ofList id.chars

/-- The sixteen bytes of the identifier, most significant first. -/
def bytes (id : Uuid) : List UInt8 :=
  (List.range 16).map fun i => UInt8.ofNat (id.toNat / Nat.pow 256 (15 - i))

/-- The identifier made of sixteen bytes, most significant first. -/
def ofBytes (bs : List UInt8) : Uuid :=
  ofNat (bs.foldl (fun n b => 256 * n + b.toNat) 0)

end Uuid

end SharedDesk
