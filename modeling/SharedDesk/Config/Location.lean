/-!
# Where the settings file belongs

What can stand at the place of the settings file, and why it cannot be read or written there. The
folder for a user's settings is named by one environment variable, or lies in the home folder that
another one names.
-/

namespace SharedDesk

/-! ## What stands there -/

/-- Contents are compared byte by byte. -/
instance decidableEqContent : DecidableEq ByteArray := fun a b =>
  decidable_of_iff (a.data = b.data) ⟨ByteArray.ext, congrArg ByteArray.data⟩

/-- What stands where the settings file belongs. -/
inductive FileState
  /-- Nothing yet; the folders can be made. -/
  | absent
  | file (content : ByteArray)
  /-- A folder of that name. -/
  | folder
  /-- A file stands where the folder belongs. -/
  | blocked
deriving DecidableEq

/-- The place of the settings file, and what stands there. -/
structure ConfigFile where
  folder : String
  path : String
  state : FileState
deriving DecidableEq

/-- Why a file cannot be read or written. -/
inductive AccessFault
  | notText
  | alreadyExists
  | notFolder
  | isFolder
deriving DecidableEq, Repr

/-- The wording of a failed access. -/
def AccessFault.message : AccessFault → String
  | notText => "stream did not contain valid UTF-8"
  | alreadyExists => "File exists (os error 17)"
  | notFolder => "Not a directory (os error 20)"
  | isFolder => "Is a directory (os error 21)"

/-- Why settings cannot be loaded or saved. -/
inductive ConfigFault
  | noFolder
  | access (path : String) (fault : AccessFault)
  | malformed
  | outOfRange
deriving DecidableEq, Repr

/-- The wording of settings that cannot be loaded or saved. -/
def ConfigFault.message : ConfigFault → String
  | noFolder => "no per-user configuration directory on this system"
  | access path fault => "cannot access " ++ path ++ ": " ++ fault.message
  | malformed => "malformed configuration"
  | outOfRange => "cannot encode configuration: out-of-range value for u64 type"

/-! ## Where it belongs -/

/-- A path within a folder. The empty folder and one that ends in a slash need no slash more. -/
def joinPath (folder name : String) : String :=
  if folder.isEmpty || folder.toList.getLast? == some '/' then folder ++ name
  else folder ++ "/" ++ name

/-- The folder of the settings, from the folder for settings (`settings`) and the home folder. -/
def configFolder (settings home : Option String) : Except ConfigFault String :=
  match settings, home with
  | some folder, _ => .ok (joinPath folder "kvmoverip")
  | none, some home => .ok (joinPath (joinPath home ".config") "kvmoverip")
  | none, none => .error .noFolder

/-- The path of the settings file within the folder of the settings. -/
def configPath (folder : String) : String := joinPath folder "config.toml"

end SharedDesk
