import SharedDesk.Toml.Value
/-!
# Settings texts

A text is a list of statements, one to a line: a setting, the header of a table in brackets, or
the header of an element of a list of tables in double brackets. The settings after a header
belong to it.

`Document.read?` reads the statements and sorts them under their headers; `Document.entries?`
builds the tree, in which no name is given twice.
-/

namespace SharedDesk.Toml

/-- One line of a text that says something. -/
inductive Statement
  | setting (key : Key) (node : Node)
  | table (key : Key)
  | element (key : Key)

/-- A header and the settings under it. -/
structure Block where
  /-- Whether the header is an element of a list of tables. -/
  repeated : Bool
  key : Key
  settings : List (Key × Node)

/-- The settings before the first header, and the headers with theirs. -/
structure Document where
  top : List (Key × Node)
  blocks : List Block

namespace Statement

/-- Reads a header after its opening brackets, up to the end of the line. -/
def readHeader? (closing : List Char) (cs : List Char) : Option (Key × List Char) := do
  let (key, cs) ← readKey? deepest cs
  if closing.isPrefixOf cs then
    let rest ← lineEnd? (cs.drop closing.length)
    some (key, rest)
  else none

/-- Reads one line that is not empty and has no blanks before it. -/
def readLine? (cs : List Char) : Option (Option Statement × List Char) :=
  match cs with
  | '#' :: _ => (lineEnd? cs).map (none, ·)
  | '\n' :: _ => (lineEnd? cs).map (none, ·)
  | '\r' :: _ => (lineEnd? cs).map (none, ·)
  | '[' :: '[' :: rest => (readHeader? [']', ']'] rest).map fun p => (some (.element p.1), p.2)
  | '[' :: rest => (readHeader? [']'] rest).map fun p => (some (.table p.1), p.2)
  | _ => do
    let ((key, node), cs) ← readSetting? (readValue? deepest) cs
    let rest ← lineEnd? cs
    some (some (.setting key node), rest)

/-- Reads all statements of a text. Every line takes a character, so as many rounds as there are
characters are enough. -/
def readAll : (rounds : Nat) → List Char → Option (List Statement)
  | rounds, cs =>
    match skipSpaces cs with
    | [] => some []
    | line =>
      match rounds with
      | 0 => none
      | rounds + 1 => do
        let (statement, rest) ← readLine? line
        let statements ← readAll rounds rest
        some (statement.toList ++ statements)

end Statement

namespace Document

/-- Puts a statement before a document. -/
def cons (statement : Statement) (d : Document) : Document :=
  match statement with
  | .setting key node => { d with top := (key, node) :: d.top }
  | .table key => ⟨[], ⟨false, key, d.top⟩ :: d.blocks⟩
  | .element key => ⟨[], ⟨true, key, d.top⟩ :: d.blocks⟩

/-- Sorts statements under their headers. -/
def ofStatements (statements : List Statement) : Document := statements.foldr cons ⟨[], []⟩

/-- Drops a byte order mark that comes first. -/
def dropMark : List Char → List Char
  | '\uFEFF' :: rest => rest
  | cs => cs

/-- Reads a text. -/
def read? (text : String) : Option Document :=
  let cs := dropMark text.toList
  (Statement.readAll cs.length cs).map ofStatements

/-- Adds a header and its settings to a tree. -/
def addBlock (es : Entries) (b : Block) : Option Entries :=
  if b.repeated then es.append b.key b.settings else es.define b.key b.settings

/-- The tree that a document describes, if no name is given twice. -/
def entries? (d : Document) : Option Entries := do
  let top ← Entries.assignAll [] d.top
  d.blocks.foldlM addBlock top

end Document

end SharedDesk.Toml
