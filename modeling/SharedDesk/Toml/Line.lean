import SharedDesk.Toml.Document
/-!
# Writing settings texts

A text is written line by line: settings as a name, an equals sign and a value, and headers with
an empty line before each but a first one. `Line.statement` says what a line means, so that
reading what `Line.render` wrote can be compared with it.
-/

namespace SharedDesk.Toml

/-- A value that is written on one line. -/
inductive Scalar
  | string (text : String)
  | integer (value : Int)
  | boolean (value : Bool)
  | emptyList
deriving DecidableEq, Repr

/-- One line to be written. -/
inductive Line
  | setting (name : String) (value : Scalar)
  | table (path : Key)
  | element (path : Key)
deriving DecidableEq, Repr

namespace Scalar

/-- The value as characters. -/
def render : Scalar → List Char
  | string text => Quote.write text.toList
  | integer n => if n < 0 then '-' :: Nat.toDigits 10 n.natAbs else Nat.toDigits 10 n.natAbs
  | boolean true => "true".toList
  | boolean false => "false".toList
  | emptyList => "[]".toList

/-- The value that is meant. -/
def node : Scalar → Node
  | string text => .string text
  | integer n => .integer n
  | boolean b => .boolean b
  | emptyList => .array []

end Scalar

/-- The names of a key with dots between them. -/
def Key.render (k : Key) : List Char :=
  List.intercalate ['.'] ((k.parents ++ [k.name]).map String.toList)

namespace Line

/-- The line as characters, without its line break. -/
def chars : Line → List Char
  | setting name value => name.toList ++ " = ".toList ++ value.render
  | table path => '[' :: path.render ++ [']']
  | element path => ['[', '['] ++ path.render ++ [']', ']']

/-- What the line means. -/
def statement : Line → Statement
  | setting name value => .setting ⟨[], name⟩ value.node
  | table path => .table path
  | element path => .element path

/-- The line with its line break, and an empty line before it if it is a header. -/
def spaced (line : Line) : List Char :=
  match line with
  | setting .. => line.chars ++ ['\n']
  | _ => '\n' :: line.chars ++ ['\n']

/-- The text of some lines. -/
def render : List Line → List Char
  | [] => []
  | line :: rest => line.chars ++ '\n' :: rest.flatMap spaced

end Line

end SharedDesk.Toml
