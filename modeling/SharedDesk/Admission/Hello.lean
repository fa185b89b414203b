import SharedDesk.Text.Blank
import SharedDesk.Text.Unprintable
import SharedDesk.Uuid
/-!
# What a client says first

A hello names the client, the version it speaks and the name it goes by. `Hello.check` accepts one
version, and names that are not blank, not too long and free of control characters, blanks around
the name aside. `displayName` makes a name that can be shown out of any text.
-/

namespace SharedDesk

/-- The first words of a client. -/
structure Hello where
  client : Uuid
  version : UInt16
  name : String
deriving DecidableEq

/-- What is wrong with a name. -/
inductive NameFault
  | empty
  | tooLong
  | control
deriving DecidableEq, Repr

/-- The wording of a name fault. -/
def NameFault.word : NameFault → String
  | empty => "empty"
  | tooLong => "longer than 64 characters"
  | control => "contains control characters"

/-- What is wrong with a hello. -/
inductive HelloFault
  | unsupportedVersion (got : UInt16)
  | badName (fault : NameFault)
deriving DecidableEq, Repr

namespace Hello

/-- The version that is spoken here. -/
def spokenVersion : UInt16 := 1

/-- The length of the longest name. -/
def longestName : Nat := 64

/-- What is wrong with a name, blanks around it aside. -/
def nameFault? (name : String) : Option NameFault :=
  let cs := Text.trim name.toList
  if cs.isEmpty then some .empty
  else if longestName < cs.length then some .tooLong
  else if cs.any Text.isControl then some .control
  else none

/-- Looks at the version first, and then at the name. -/
def check (h : Hello) : Except HelloFault Unit :=
  if h.version ≠ spokenVersion then .error (.unsupportedVersion h.version)
  else match nameFault? h.name with
    | some fault => .error (.badName fault)
    | none => .ok ()

/-- The name under which a client is shown: without blanks around it and without control characters,
cut to length, and never empty. -/
def displayName (name : String) : String :=
  let cs := ((Text.trim name.toList).filter fun c => !Text.isControl c).take longestName
  if cs.isEmpty then "unnamed" else String.ofList cs

end Hello

/-- The wording of a refused hello. -/
def HelloFault.message : HelloFault → String
  | unsupportedVersion got =>
    "unsupported protocol version " ++ toString got.toNat ++ " (expected " ++
      toString Hello.spokenVersion.toNat ++ ")"
  | badName fault => "invalid client name: " ++ fault.word

end SharedDesk
