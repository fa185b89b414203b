/-!
# Digits

Numbers as digits, most significant first: hexadecimal to a fixed width, and the value of a run of
digits in any base up to sixteen. Digits are written in lower case and read in either.
-/

namespace SharedDesk.Text

/-- The value of a digit, whatever the base. -/
def digitValue? (c : Char) : Option Nat :=
  if '0' ≤ c ∧ c ≤ '9' then some (c.toNat - '0'.toNat)
  else if 'a' ≤ c ∧ c ≤ 'f' then some (c.toNat - 'a'.toNat + 10)
  else if 'A' ≤ c ∧ c ≤ 'F' then some (c.toNat - 'A'.toNat + 10)
  else none

/-- Whether a character is a digit of base `base`. -/
def isDigitOf (base : Nat) (c : Char) : Bool :=
  match digitValue? c with
  | some d => d < base
  | none => false

/-- Whether a character is a hexadecimal digit, in either letter case. -/
def isHexDigit (c : Char) : Bool := isDigitOf 16 c

/-- Whether a character is one of `0` to `9`. -/
def isDecimalDigit (c : Char) : Bool := isDigitOf 10 c

/-- The number that a run of digits stands for in base `base`. -/
def valueOf (base : Nat) (digits : List Char) : Nat :=
  digits.foldl (fun n c => base * n + (digitValue? c).getD 0) 0

/-- The last `width` hexadecimal digits of `n`, with leading zeros. -/
def hexDigits : (width n : Nat) → List Char
  | 0, _ => []
  | width + 1, n => hexDigits width (n / 16) ++ [Nat.digitChar (n % 16)]

/-- The last `width` decimal digits of `n`, with leading zeros. -/
def decimalDigits : (width n : Nat) → List Char
  | 0, _ => []
  | width + 1, n => decimalDigits width (n / 10) ++ [Nat.digitChar (n % 10)]

end SharedDesk.Text
