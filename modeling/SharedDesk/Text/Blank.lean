/-!
# Blank space

The characters of Unicode's `White_Space` property, and cutting them off both ends of a text.
-/

namespace SharedDesk.Text

/-- First and last code point of each range of blank characters. -/
def blankRanges : List (Nat × Nat) :=
  [(0x9, 0xD), (0x20, 0x20), (0x85, 0x85), (0xA0, 0xA0), (0x1680, 0x1680), (0x2000, 0x200A),
    (0x2028, 0x2029), (0x202F, 0x202F), (0x205F, 0x205F), (0x3000, 0x3000)]

/-- Whether a character is blank. -/
def isBlank (c : Char) : Bool :=
  blankRanges.any fun range => range.1 ≤ c.toNat && c.toNat ≤ range.2

/-- Cuts blanks off the front. -/
def trimLeft (cs : List Char) : List Char := cs.dropWhile isBlank

/-- Cuts blanks off the back. -/
def trimRight (cs : List Char) : List Char := (cs.reverse.dropWhile isBlank).reverse

/-- Cuts blanks off both ends. -/
def trim (cs : List Char) : List Char := trimRight (trimLeft cs)

end SharedDesk.Text
