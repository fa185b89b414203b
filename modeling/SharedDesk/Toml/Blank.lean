/-!
# Between the values

What separates the parts of a settings text: blanks, comments and line ends. A reader takes its part
off the front of the text and gives the rest.
-/

namespace SharedDesk.Toml

/-- Whether a character may stand in a comment: all but control characters, and the tab. -/
def isPlain (c : Char) : Bool := c == '\t' || (0x20 ≤ c.toNat && c.toNat ≠ 0x7F)

/-- Whether a character is a blank within a line. -/
def isSpace (c : Char) : Bool := c == ' ' || c == '\t'

/-- Takes blanks off the front. -/
def skipSpaces (cs : List Char) : List Char := cs.dropWhile isSpace

/-- Takes a line break off the front. -/
def newline? : List Char → Option (List Char)
  | '\n' :: rest => some rest
  | '\r' :: '\n' :: rest => some rest
  | _ => none

/-- Takes a comment off the front, if there is one. -/
def skipComment : List Char → List Char
  | '#' :: rest => rest.dropWhile isPlain
  | cs => cs

/-- Takes the end of a line off the front: blanks, perhaps a comment, and a line break or the end.
-/
def lineEnd? (cs : List Char) : Option (List Char) :=
  match skipComment (skipSpaces cs) with
  | [] => some []
  | rest => newline? rest

/-- Takes blanks, line breaks and whole comment lines off the front; `inComment` says that a comment
has begun. A comment that never ends is refused. -/
def skipGap : (inComment : Bool) → List Char → Option (List Char)
  | _, '\n' :: rest => skipGap false rest
  | _, '\r' :: '\n' :: rest => skipGap false rest
  | true, c :: rest => if isPlain c then skipGap true rest else none
  | true, [] => none
  | false, '#' :: rest => skipGap true rest
  | false, ' ' :: rest => skipGap false rest
  | false, '\t' :: rest => skipGap false rest
  | false, cs => some cs

end SharedDesk.Toml
