import SharedDesk.Text.Digits
import SharedDesk.Toml.Blank
/-!
# Strings

A string has one of four forms. Double quotes understand escapes and single quotes do not; tripled
quotes may span lines, and drop a line break that comes first. Within tripled double quotes, a
backslash at the end of a line drops all blanks and line breaks up to the next character.

`readString?` reads all four, and `Quote.write` chooses the first form that can hold a text as it
is.
-/

namespace SharedDesk.Toml

/-! ## Reading -/

/-- Puts a character before what a reader found. -/
def found (c : Char) (result : Option (List Char × List Char)) : Option (List Char × List Char) :=
  result.map fun p => (c :: p.1, p.2)

/-- The character with a given number, if all digits are hexadecimal and there is such a
character. -/
def hexChar? (digits : List Char) : Option Char :=
  let n := Text.valueOf 16 digits
  if digits.all Text.isHexDigit then
    if n.isValidChar then some (Char.ofNat n) else none
  else none

/-- The character that a short escape stands for. -/
def shortEscape? : Char → Option Char
  | 'b' => some '\x08'
  | 'f' => some '\x0c'
  | 'n' => some '\n'
  | 'r' => some '\r'
  | 't' => some '\t'
  | '\\' => some '\\'
  | '"' => some '"'
  | _ => none

/-- Reads up to the closing double quote. -/
def readBasic : List Char → Option (List Char × List Char)
  | [] => none
  | '"' :: rest => some ([], rest)
  | '\\' :: 'u' :: a :: b :: c :: d :: rest =>
    match hexChar? [a, b, c, d] with
    | some x => found x (readBasic rest)
    | none => none
  | '\\' :: 'U' :: a :: b :: c :: d :: e :: f :: g :: h :: rest =>
    match hexChar? [a, b, c, d, e, f, g, h] with
    | some x => found x (readBasic rest)
    | none => none
  | '\\' :: c :: rest =>
    match shortEscape? c with
    | some x => found x (readBasic rest)
    | none => none
  | c :: rest => if isPlain c && c != '\\' then found c (readBasic rest) else none

/-- Whether nothing but blanks stands before the next line break. -/
def lineIsOver (cs : List Char) : Bool := (newline? (skipSpaces cs)).isSome

/-- Reads up to the closing three double quotes; `skipping` drops blanks and line breaks first. Up
to two quotes right before the closing ones belong to the text. -/
def readMultiBasic : (skipping : Bool) → List Char → Option (List Char × List Char)
  | _, [] => none
  | true, ' ' :: rest => readMultiBasic true rest
  | true, '\t' :: rest => readMultiBasic true rest
  | true, '\n' :: rest => readMultiBasic true rest
  | true, '\r' :: '\n' :: rest => readMultiBasic true rest
  | _, '"' :: '"' :: '"' :: '"' :: '"' :: rest => some (['"', '"'], rest)
  | _, '"' :: '"' :: '"' :: '"' :: rest => some (['"'], rest)
  | _, '"' :: '"' :: '"' :: rest => some ([], rest)
  | _, '"' :: rest => found '"' (readMultiBasic false rest)
  | _, '\n' :: rest => found '\n' (readMultiBasic false rest)
  | _, '\r' :: '\n' :: rest => found '\n' (readMultiBasic false rest)
  | _, '\\' :: 'u' :: a :: b :: c :: d :: rest =>
    match hexChar? [a, b, c, d] with
    | some x => found x (readMultiBasic false rest)
    | none => none
  | _, '\\' :: 'U' :: a :: b :: c :: d :: e :: f :: g :: h :: rest =>
    match hexChar? [a, b, c, d, e, f, g, h] with
    | some x => found x (readMultiBasic false rest)
    | none => none
  | _, '\\' :: c :: rest =>
    match shortEscape? c with
    | some x => found x (readMultiBasic false rest)
    | none => if lineIsOver (c :: rest) then readMultiBasic true (c :: rest) else none
  | _, c :: rest => if isPlain c && c != '\\' then found c (readMultiBasic false rest) else none

/-- Reads up to the closing single quote. -/
def readLiteral : List Char → Option (List Char × List Char)
  | [] => none
  | '\'' :: rest => some ([], rest)
  | c :: rest => if isPlain c then found c (readLiteral rest) else none

/-- Reads up to the closing three single quotes. Up to two quotes right before the closing ones
belong to the text. -/
def readMultiLiteral : List Char → Option (List Char × List Char)
  | [] => none
  | '\'' :: '\'' :: '\'' :: '\'' :: '\'' :: rest => some (['\'', '\''], rest)
  | '\'' :: '\'' :: '\'' :: '\'' :: rest => some (['\''], rest)
  | '\'' :: '\'' :: '\'' :: rest => some ([], rest)
  | '\n' :: rest => found '\n' (readMultiLiteral rest)
  | '\r' :: '\n' :: rest => found '\n' (readMultiLiteral rest)
  | c :: rest => if isPlain c then found c (readMultiLiteral rest) else none

/-- Drops a line break that comes first. -/
def dropNewline (cs : List Char) : List Char := (newline? cs).getD cs

/-- Reads a string on one line. -/
def readShortString? : List Char → Option (List Char × List Char)
  | '"' :: rest => readBasic rest
  | '\'' :: rest => readLiteral rest
  | _ => none

/-- Reads a string in any of the four forms. -/
def readString? : List Char → Option (List Char × List Char)
  | '"' :: '"' :: '"' :: rest => readMultiBasic false (dropNewline rest)
  | '\'' :: '\'' :: '\'' :: rest => readMultiLiteral (dropNewline rest)
  | cs => readShortString? cs

/-! ## Writing -/

namespace Quote

/-- Whether a character needs an escape in every form: controls, but the tab and the line feed. -/
def isUnwritable (c : Char) : Bool :=
  (c.toNat ≤ 0x1F && c != '\t' && c != '\n') || c.toNat == 0x7F

/-- The longest run of a character, when `current` of them came just before. -/
def longestRun (q : Char) : (current : Nat) → List Char → Nat
  | current, [] => current
  | current, c :: rest =>
    if c = q then longestRun q (current + 1) rest
    else max current (longestRun q 0 rest)

/-- What stands for a character that is neither a quote nor a line feed between double quotes. -/
def escape (c : Char) : List Char :=
  match c with
  | '\x08' => ['\\', 'b']
  | '\t' => ['\\', 't']
  | '\x0c' => ['\\', 'f']
  | '\r' => ['\\', 'r']
  | '\\' => ['\\', '\\']
  | _ =>
    if isUnwritable c then '\\' :: 'u' :: (Text.hexDigits 4 c.toNat).map Char.toUpper else [c]

/-- The inside of double quotes. -/
def basicBody (cs : List Char) : List Char :=
  cs.flatMap fun c =>
    match c with
    | '"' => ['\\', '"']
    | '\n' => ['\\', 'n']
    | _ => escape c

/-- The inside of three double quotes, where `run` quotes stand just before. A third quote in a
row is escaped, so that the text does not close early. -/
def multiBasicBody : (run : Nat) → List Char → List Char
  | _, [] => []
  | run, '"' :: rest =>
    if run = 2 then '\\' :: '"' :: multiBasicBody 0 rest else '"' :: multiBasicBody (run + 1) rest
  | _, '\n' :: rest => '\n' :: multiBasicBody 0 rest
  | _, c :: rest => escape c ++ multiBasicBody 0 rest

/-- The line break after the opening quotes of a text with several lines. -/
def opening (cs : List Char) : List Char := if cs.contains '\n' then ['\n'] else []

/-- The text between double quotes. -/
def basic (cs : List Char) : List Char := '"' :: basicBody cs ++ ['"']

/-- The text between single quotes. -/
def literal (cs : List Char) : List Char := '\'' :: cs ++ ['\'']

/-- The text between three double quotes. -/
def multiBasic (cs : List Char) : List Char :=
  ['"', '"', '"'] ++ opening cs ++ multiBasicBody 0 cs ++ ['"', '"', '"']

/-- The text between three single quotes. -/
def multiLiteral (cs : List Char) : List Char :=
  ['\'', '\'', '\''] ++ opening cs ++ cs ++ ['\'', '\'', '\'']

/-- The text in the first form that needs no escape but the tab's, and in double quotes with escapes
when there is none. -/
def write (cs : List Char) : List Char :=
  let raw := !cs.any isUnwritable
  let rawBasic := raw && !cs.contains '\\'
  let lines := cs.contains '\n'
  let doubles := longestRun '"' 0 cs
  let singles := longestRun '\'' 0 cs
  if rawBasic && doubles == 0 && !lines then basic cs
  else if raw && singles == 0 && !lines then literal cs
  else if rawBasic && doubles ≤ 2 then multiBasic cs
  else if raw && singles ≤ 2 then multiLiteral cs
  else if lines then multiBasic cs
  else basic cs

end Quote

end SharedDesk.Toml
