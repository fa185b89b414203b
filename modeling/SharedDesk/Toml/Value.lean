import SharedDesk.Toml.Scalar
/-!
# Keys and values

A key is names with dots between them. A value is a scalar, a list in brackets that may span
lines, or a table in braces on one line. Lists, tables in braces and dotted keys go fewer than 80
deep.
-/

namespace SharedDesk.Toml

/-- How deep lists and tables in braces may go, and how many names a key may have. -/
def deepest : Nat := 79

/-! ## Keys -/

/-- Whether a character may stand in a name without quotes. -/
def isBare (c : Char) : Bool :=
  ('a' ≤ c && c ≤ 'z') || ('A' ≤ c && c ≤ 'Z') || ('0' ≤ c && c ≤ '9') || c == '-' || c == '_'

/-- Reads one name, with or without quotes. -/
def readName? (cs : List Char) : Option (String × List Char) :=
  match cs with
  | '"' :: _ => (readShortString? cs).map fun p => (String.ofList p.1, p.2)
  | '\'' :: _ => (readShortString? cs).map fun p => (String.ofList p.1, p.2)
  | _ =>
    let name := cs.takeWhile isBare
    if name.isEmpty then none else some (String.ofList name, cs.dropWhile isBare)

/-- Reads at most `limit` names with dots between them, and the blanks around them. -/
def readKey? : (limit : Nat) → List Char → Option (Key × List Char)
  | 0, _ => none
  | limit + 1, cs => do
    let (name, cs) ← readName? (skipSpaces cs)
    match skipSpaces cs with
    | '.' :: rest =>
      let (key, rest) ← readKey? limit rest
      some ({ key with parents := name :: key.parents }, rest)
    | rest => some (⟨[], name⟩, rest)

/-! ## Lists and tables in braces -/

/-- Reads the items of a list up to its closing bracket, where `readItem` reads one. Every item
takes a character, so as many rounds as there are characters are enough. -/
def readItems (readItem : List Char → Option (Node × List Char)) :
    (rounds : Nat) → List Char → Option (List Node × List Char)
  | 0, _ => none
  | rounds + 1, cs => do
    match ← skipGap false cs with
    | ']' :: rest => some ([], rest)
    | cs =>
      let (item, cs) ← readItem cs
      match ← skipGap false cs with
      | ',' :: rest =>
        let (items, rest) ← readItems readItem rounds rest
        some (item :: items, rest)
      | ']' :: rest => some ([item], rest)
      | _ => none

/-- Reads a key, an equals sign and a value, where `readItem` reads the value. -/
def readSetting? (readItem : List Char → Option (Node × List Char)) (cs : List Char) :
    Option ((Key × Node) × List Char) := do
  let (key, cs) ← readKey? deepest cs
  let cs ← expect '=' cs
  let (node, cs) ← readItem (skipSpaces cs)
  some ((key, node), cs)

/-- Reads the settings of a table in braces up to its closing brace, at least one. -/
def readSettings (readItem : List Char → Option (Node × List Char)) :
    (rounds : Nat) → List Char → Option (List (Key × Node) × List Char)
  | 0, _ => none
  | rounds + 1, cs => do
    let (setting, cs) ← readSetting? readItem cs
    match skipSpaces cs with
    | ',' :: rest =>
      let (settings, rest) ← readSettings readItem rounds rest
      some (setting :: settings, rest)
    | '\x7d' :: rest => some ([setting], rest)
    | _ => none

/-- Reads a table after its opening brace. -/
def readBraces? (readItem : List Char → Option (Node × List Char)) (cs : List Char) :
    Option (Node × List Char) := do
  match skipSpaces cs with
  | '\x7d' :: rest => some (.table .braces [], rest)
  | cs =>
    let (settings, rest) ← readSettings readItem cs.length cs
    let entries ← Entries.assignAll [] settings
    some (.table .braces entries, rest)

/-- Reads a value in which lists and tables in braces go at most `depth` deep. -/
def readValue? : (depth : Nat) → List Char → Option (Node × List Char)
  | 0, cs =>
    match cs with
    | '[' :: _ => none
    | '\x7b' :: _ => none
    | _ => readScalar? cs
  | depth + 1, cs =>
    match cs with
    | '[' :: rest =>
      (readItems (readValue? depth) (rest.length + 1) rest).map fun p => (.array p.1, p.2)
    | '\x7b' :: rest => readBraces? (readValue? depth) rest
    | _ => readScalar? cs

end SharedDesk.Toml
