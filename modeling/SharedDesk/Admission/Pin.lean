import SharedDesk.Sha256
import SharedDesk.Uuid
/-!
# PINs

The operator reads a PIN of six digits off the master's screen and types it at the client. The
client answers with the digest of the session's identifier followed by the PIN, so the PIN itself
is never sent and an answer fits one session only.
-/

namespace SharedDesk

/-- A number of six decimal digits, leading zeros included. -/
structure Pin where
  number : Fin 1000000
deriving DecidableEq, Repr

namespace Pin

instance : Inhabited Pin := ⟨⟨0⟩⟩

/-- The six digits. -/
def text (p : Pin) : String := String.ofList (Text.decimalDigits 6 p.number.val)

/-- The answer that proves knowledge of a PIN's text within a session. -/
def answerTo (session : Uuid) (pinText : String) : String :=
  Sha256.hexDigest (session.bytes ++ pinText.toUTF8.data.toList)

end Pin

end SharedDesk
