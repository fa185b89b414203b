/-!
# What a settings text holds

A text holds a tree of named values. A table remembers how it came about, because that decides what
may still be added to it:

* a table in braces is finished,
* a table with a header of its own takes no dotted key from outside,
* a table that only a longer header implies may still get its own header,
* a table that a dotted key made takes further dotted keys and no header.

`Entries.assign`, `Entries.define` and `Entries.append` add a value, a table with a header, and an
element of a list of tables; each refuses what was there already.
-/

namespace SharedDesk.Toml

/-- How a table came about. -/
inductive Origin
  | braces
  | header
  | implied
  | dotted
deriving DecidableEq, Repr

/-- A value of a settings text. -/
inductive Node
  | string (text : String)
  | integer (value : Int)
  | boolean (value : Bool)
  /-- A number with a fraction or an exponent. No setting is one, so the number is not kept. -/
  | float
  /-- A date, a time or both. No setting is one, so it is not kept. -/
  | dateTime
  /-- A list in brackets. -/
  | array (items : List Node)
  | table (origin : Origin) (entries : List (String × Node))
  /-- A list of tables, each with a header in double brackets. -/
  | tables (items : List (List (String × Node)))
deriving Inhabited

/-- The named values of one table. -/
abbrev Entries := List (String × Node)

/-- Where a value stands: the tables on the way to it, and its name in the last one. -/
structure Key where
  parents : List String
  name : String
deriving DecidableEq, Repr

namespace Entries

/-- Replaces the value of a name that is there. -/
def put (es : Entries) (name : String) (node : Node) : Entries :=
  es.map fun e => if e.1 = name then (name, node) else e

/-- Changes the table at the end of a path. Missing tables are made on the way, by the dotted key
(`dotted`) or the header that the path belongs to. A list of tables stands for its last element. -/
def within (dotted : Bool) (change : Origin → Entries → Option Entries) :
    (path : List String) → Origin → Entries → Option Entries
  | [], origin, es => change origin es
  | name :: path, _, es =>
    match es.lookup name with
    | none =>
      let origin := if dotted then .dotted else .implied
      (within dotted change path origin []).map fun sub => es ++ [(name, .table origin sub)]
    | some (.table origin sub) =>
      if origin = .braces ∨ (dotted = true ∧ origin = .header) then none
      else (within dotted change path origin sub).map fun sub => put es name (.table origin sub)
    | some (.tables items) =>
      match items.getLast? with
      | some sub =>
        (within dotted change path .header sub).map fun sub =>
          put es name (.tables (items.dropLast ++ [sub]))
      | none => none
    | some _ => none

/-- Adds a value under a key that is free. A dotted key ends in a table that dotted keys made. -/
def assign (es : Entries) (key : Key) (node : Node) : Option Entries :=
  within true (fun origin t =>
    if key.parents ≠ [] ∧ origin ≠ .dotted then none
    else if (t.lookup key.name).isSome then none
    else some (t ++ [(key.name, node)])) key.parents .header es

/-- Adds values one after the other. -/
def assignAll (es : Entries) (settings : List (Key × Node)) : Option Entries :=
  settings.foldlM (fun t setting => t.assign setting.1 setting.2) es

/-- Gives a table its header and its values. Only an implied table may be there already. -/
def define (es : Entries) (key : Key) (settings : List (Key × Node)) : Option Entries :=
  within false (fun _ t =>
    match t.lookup key.name with
    | none => (assignAll [] settings).map fun sub => t ++ [(key.name, .table .header sub)]
    | some (.table .implied sub) =>
      (assignAll sub settings).map fun sub => put t key.name (.table .header sub)
    | some _ => none) key.parents .header es

/-- Adds an element with its values to a list of tables. -/
def append (es : Entries) (key : Key) (settings : List (Key × Node)) : Option Entries :=
  within false (fun _ t =>
    match t.lookup key.name with
    | none => (assignAll [] settings).map fun sub => t ++ [(key.name, .tables [sub])]
    | some (.tables items) =>
      (assignAll [] settings).map fun sub => put t key.name (.tables (items ++ [sub]))
    | some _ => none) key.parents .header es

end Entries

end SharedDesk.Toml
