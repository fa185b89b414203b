import SharedDesk.Toml.Node
import SharedDesk.Toml.Quote
/-!
# Numbers, dates and truth values

Whole numbers fit in 64 bits with a sign; underscores may stand between digits, and only a decimal
number may have a sign. Numbers with a fraction or an exponent are recognised and not kept, and so
are dates and times; a positive number too large for double precision is refused.
-/

namespace SharedDesk.Toml

open Text (isDecimalDigit)

/-! ## Runs of digits -/

/-- Reads on in a run of digits, where an underscore may stand between two of them. Gives the digits
alone. -/
def readDigits (isDigit : Char → Bool) : List Char → Option (List Char × List Char)
  | [] => some ([], [])
  | ['_'] => none
  | '_' :: c :: rest => if isDigit c then found c (readDigits isDigit rest) else none
  | c :: rest => if isDigit c then found c (readDigits isDigit rest) else some ([], c :: rest)

/-- Reads a run of at least one digit. -/
def readRun? (isDigit : Char → Bool) : List Char → Option (List Char × List Char)
  | c :: rest => if isDigit c then found c (readDigits isDigit rest) else none
  | [] => none

/-- Reads a decimal number without leading zeros. -/
def readWhole? : List Char → Option (List Char × List Char)
  | '0' :: rest => some (['0'], rest)
  | cs => readRun? isDecimalDigit cs

/-! ## Numbers -/

/-- A whole number, if 64 bits can hold it. -/
def integer? (n : Int) : Option Node :=
  if Int64.minValue.toInt ≤ n ∧ n ≤ Int64.maxValue.toInt then some (.integer n) else none

/-- A whole number by its sign and size, if 64 bits can hold it. -/
def signed? (negative : Bool) (size : Nat) : Option Node :=
  integer? (if negative then -(size : Int) else size)

/-- Reads the digits of a number in another base, after its mark. -/
def readBased? (base : Nat) (cs : List Char) : Option (Node × List Char) := do
  let (digits, rest) ← readRun? (Text.isDigitOf base) cs
  let node ← integer? (Text.valueOf base digits)
  some (node, rest)

/-- Whether `digits` times ten to the `exponent` rounds to infinity in double precision: it lies
at or beyond the middle between the largest number and the next power of two. -/
def roundsToInfinity (digits : Nat) (exponent : Int) : Bool :=
  let magnitude := (Nat.toDigits 10 digits).length + exponent
  let bound := Nat.pow 2 1024 - Nat.pow 2 970
  if digits = 0 ∨ magnitude < 300 then false
  else if 320 < magnitude then true
  else if 0 ≤ exponent then bound ≤ digits * Nat.pow 10 exponent.toNat
  else bound * Nat.pow 10 (-exponent).toNat ≤ digits

/-- Reads the number of an exponent, which may have a sign. -/
def readPower? : List Char → Option (Int × List Char)
  | '-' :: rest => (readRun? isDecimalDigit rest).map fun p => (-(Text.valueOf 10 p.1 : Int), p.2)
  | '+' :: rest => (readRun? isDecimalDigit rest).map fun p => (Text.valueOf 10 p.1, p.2)
  | rest => (readRun? isDecimalDigit rest).map fun p => (Text.valueOf 10 p.1, p.2)

/-- Reads an exponent, if there is one. -/
def readExponent? : List Char → Option (Int × List Char)
  | c :: rest => if c = 'e' ∨ c = 'E' then readPower? rest else some (0, c :: rest)
  | [] => some (0, [])

/-- Reads a decimal number after its sign. -/
def readDecimal? (negative : Bool) (cs : List Char) : Option (Node × List Char) := do
  let (whole, rest) ← readWhole? cs
  match rest with
  | '.' :: rest =>
    let (fraction, rest) ← readRun? isDecimalDigit rest
    let (exponent, rest) ← readExponent? rest
    let digits := Text.valueOf 10 (whole ++ fraction)
    if !negative && roundsToInfinity digits (exponent - fraction.length) then none
    else some (.float, rest)
  | c :: _ =>
    if c = 'e' ∨ c = 'E' then
      let (exponent, rest) ← readExponent? rest
      if !negative && roundsToInfinity (Text.valueOf 10 whole) exponent then none
      else some (.float, rest)
    else some (← signed? negative (Text.valueOf 10 whole), rest)
  | [] => some (← signed? negative (Text.valueOf 10 whole), [])

/-- Reads a number after its sign, or one of the two words that stand for numbers. -/
def readUnsigned? (negative : Bool) : List Char → Option (Node × List Char)
  | 'i' :: 'n' :: 'f' :: rest => some (.float, rest)
  | 'n' :: 'a' :: 'n' :: rest => some (.float, rest)
  | cs => readDecimal? negative cs

/-- Reads a number. -/
def readNumber? : List Char → Option (Node × List Char)
  | '0' :: 'x' :: rest => readBased? 16 rest
  | '0' :: 'o' :: rest => readBased? 8 rest
  | '0' :: 'b' :: rest => readBased? 2 rest
  | '-' :: rest => readUnsigned? true rest
  | '+' :: rest => readUnsigned? false rest
  | cs => readUnsigned? false cs

/-! ## Dates and times -/

/-- Reads exactly `n` digits. -/
def readFixed? (n : Nat) (cs : List Char) : Option (Nat × List Char) :=
  let digits := cs.take n
  if digits.length = n ∧ digits.all isDecimalDigit then
    some (Text.valueOf 10 digits, cs.drop n)
  else none

/-- Takes one character off the front. -/
def expect (c : Char) : List Char → Option (List Char)
  | d :: rest => if d = c then some rest else none
  | [] => none

/-- The number of days in a month. -/
def daysIn (year month : Nat) : Nat :=
  if month = 2 then
    if year % 4 = 0 ∧ (year % 100 ≠ 0 ∨ year % 400 = 0) then 29 else 28
  else if month = 4 ∨ month = 6 ∨ month = 9 ∨ month = 11 then 30
  else 31

/-- Takes a date off the front. -/
def skipDate? (cs : List Char) : Option (List Char) := do
  let (year, cs) ← readFixed? 4 cs
  let cs ← expect '-' cs
  let (month, cs) ← readFixed? 2 cs
  let cs ← expect '-' cs
  let (day, cs) ← readFixed? 2 cs
  if 1 ≤ month ∧ month ≤ 12 ∧ 1 ≤ day ∧ day ≤ daysIn year month then some cs else none

/-- Takes hours and minutes off the front. -/
def skipMinutes? (cs : List Char) : Option (List Char) := do
  let (hour, cs) ← readFixed? 2 cs
  let cs ← expect ':' cs
  let (minute, cs) ← readFixed? 2 cs
  if hour ≤ 23 ∧ minute ≤ 59 then some cs else none

/-- Takes a fraction of a second off the front, if there is one. -/
def skipFraction : List Char → List Char
  | '.' :: c :: rest => if isDecimalDigit c then rest.dropWhile isDecimalDigit else '.' :: c :: rest
  | cs => cs

/-- Takes a time of day off the front; its minutes may hold a leap second. -/
def skipTime? (cs : List Char) : Option (List Char) := do
  let cs ← skipMinutes? cs
  let cs ← expect ':' cs
  let (second, cs) ← readFixed? 2 cs
  if second ≤ 60 then some (skipFraction cs) else none

/-- Takes the distance from universal time off the front, if there is one. -/
def skipOffset : List Char → List Char
  | [] => []
  | c :: rest =>
    if c = 'Z' ∨ c = 'z' then rest
    else if c = '+' ∨ c = '-' then (skipMinutes? rest).getD (c :: rest)
    else c :: rest

/-- Takes a time and its offset off the front, when they follow a date. -/
def skipTimeOfDate : List Char → List Char
  | [] => []
  | c :: rest =>
    if c = 'T' ∨ c = 't' ∨ c = ' ' then
      match skipTime? rest with
      | some rest => skipOffset rest
      | none => c :: rest
    else c :: rest

/-- Reads a date, a date with a time, or a time. -/
def readDateTime? (cs : List Char) : Option (Node × List Char) :=
  match skipDate? cs with
  | some rest => some (.dateTime, skipTimeOfDate rest)
  | none => (skipTime? cs).map fun rest => (.dateTime, rest)

/-! ## Any scalar -/

/-- Reads a value that is neither a list nor a table. -/
def readScalar? (cs : List Char) : Option (Node × List Char) :=
  match cs with
  | '"' :: _ => (readString? cs).map fun p => (.string (String.ofList p.1), p.2)
  | '\'' :: _ => (readString? cs).map fun p => (.string (String.ofList p.1), p.2)
  | 't' :: 'r' :: 'u' :: 'e' :: rest => some (.boolean true, rest)
  | 'f' :: 'a' :: 'l' :: 's' :: 'e' :: rest => some (.boolean false, rest)
  | _ =>
    match readDateTime? cs with
    | some result => some result
    | none => readNumber? cs

end SharedDesk.Toml
