import SharedDesk.Config.Location
import SharedDesk.Config.Reader
import SharedDesk.Config.Writer
/-!
# The settings file

Loading the settings from where they are kept, and saving them there. A file that is not there stands
for the standard settings. Saving makes the folder first, then the text, and writes last, so a failed
save leaves the file alone.
-/

namespace SharedDesk.ConfigFile

/-- The text of the file, if there is a readable one. -/
def text? (f : ConfigFile) : Option String :=
  match f.state with
  | .file content => String.fromUTF8? content
  | _ => none

/-- Loads the settings. -/
def load (f : ConfigFile) : Except ConfigFault Config :=
  match f.state with
  | .absent => .ok {}
  | .folder => .error (.access f.path .isFolder)
  | .blocked => .error (.access f.path .notFolder)
  | .file content =>
    match String.fromUTF8? content with
    | none => .error (.access f.path .notText)
    | some text =>
      match Config.ofText? text with
      | some c => .ok c
      | none => .error .malformed

/-- Saves the settings. -/
def save (f : ConfigFile) (c : Config) : Except ConfigFault ConfigFile :=
  if f.state = .blocked then .error (.access f.folder .alreadyExists)
  else match c.text? with
    | none => .error .outOfRange
    | some text =>
      if f.state = .folder then .error (.access f.path .isFolder)
      else .ok { f with state := .file text.toUTF8 }

end SharedDesk.ConfigFile
