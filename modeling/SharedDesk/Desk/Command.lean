import SharedDesk.Desk
/-!
# What the operator may ask for

The commands of the operator's window. Clients are named by text, in any spelling of an
identifier, and a command either gives its data or says why it could not. A command that has
changed the desk but could not save the change says so.
-/

namespace SharedDesk

/-- A screen as the operator's window sends and shows it. -/
structure ScreenForm where
  clientId : String
  region : Region
deriving DecidableEq

/-- Network settings as the operator's window sends and shows them. -/
structure NetworkForm where
  controlPort : UInt16
  inputPort : UInt16
  discoveryPort : UInt16
  bindAddress : String
deriving DecidableEq

/-- Settings that were staged, and whether they need a restart. -/
structure StagedForm where
  restartRequired : Bool
  settings : NetworkForm
deriving DecidableEq

/-- A text that names no client. -/
structure BadClientId where
  text : String
  fault : Uuid.Fault
deriving DecidableEq

/-- The wording of a text that names no client. -/
def BadClientId.message (b : BadClientId) : String :=
  "invalid client_id UUID " ++ Text.quoted b.text ++ ": " ++ b.fault.message

/-- Why a command fails. -/
inductive CommandFault
  | badClientId (bad : BadClientId)
  | arrangement (fault : ArrangementFault)
  | registry (fault : RegistryFault)
  | network (fault : NetworkFault)
  | layoutNotSaved (fault : ConfigFault)
  | settingsNotSaved (fault : ConfigFault)
  | forgetNotSaved (fault : ConfigFault)
deriving DecidableEq

/-- The wording of a failed command. -/
def CommandFault.message : CommandFault → String
  | badClientId bad => bad.message
  | arrangement fault => fault.message
  | registry fault => fault.message
  | network fault => fault.message
  | layoutNotSaved fault => "layout applied but not saved: " ++ fault.message
  | settingsNotSaved fault => "settings staged but not saved: " ++ fault.message
  | forgetNotSaved fault => "client forgotten but not saved: " ++ fault.message

/-- The client that a text names. -/
def readClientId (text : String) : Except BadClientId Uuid :=
  match Uuid.read text with
  | .ok id => .ok id
  | .error fault => .error ⟨text, fault⟩

namespace ScreenForm

/-- The placement that the form describes. -/
def placement (f : ScreenForm) : Except BadClientId Placement :=
  match readClientId f.clientId with
  | .ok id => .ok (id, f.region)
  | .error bad => .error bad

/-- The form that describes a placement. -/
def ofPlacement (p : Placement) : ScreenForm := ⟨p.1.text, p.2⟩

/-- The placements that forms describe, or the first text that names no client. -/
def placements (forms : List ScreenForm) : Except BadClientId (List Placement) :=
  forms.mapM placement

end ScreenForm

/-- The form that describes network settings. -/
def NetworkForm.ofSettings (s : NetworkSettings) : NetworkForm :=
  ⟨s.control, s.input, s.discovery, s.address.text⟩

/-- The settings that the form describes, if they are valid. -/
def NetworkForm.settings (f : NetworkForm) : Except NetworkFault NetworkSettings :=
  NetworkSettings.ofParts f.controlPort f.inputPort f.discoveryPort f.bindAddress

namespace Desk

/-- Shows all clients. -/
def getClients (d : Desk) (now : Time) : List ClientView := d.registry.views now

/-- Shows the arrangement. -/
def getLayout (d : Desk) : Except CommandFault (List ScreenForm) :=
  match d.verify with
  | .ok () => .ok (d.layout.placements.map ScreenForm.ofPlacement)
  | .error fault => .error (.arrangement fault)

/-- Replaces the arrangement. -/
def updateLayout (d : Desk) (forms : List ScreenForm) : Except CommandFault Unit × Desk :=
  match ScreenForm.placements forms with
  | .error bad => (.error (.badClientId bad), d)
  | .ok candidate =>
    match d.arrange candidate with
    | .error fault => (.error (.arrangement fault), d)
    | .ok arranged =>
      match arranged.persist with
      | (.ok (), saved) => (.ok (), saved)
      | (.error fault, unsaved) => (.error (.layoutNotSaved fault), unsaved)

/-- Shows the staged network settings. -/
def getNetwork (d : Desk) : NetworkForm := .ofSettings d.network.staged

/-- Shows the network settings in use. -/
def getActiveNetwork (d : Desk) : NetworkForm := .ofSettings d.network.active

/-- Stages network settings for the next start. -/
def updateNetwork (d : Desk) (form : NetworkForm) : Except CommandFault StagedForm × Desk :=
  match form.settings with
  | .error fault => (.error (.network fault), d)
  | .ok settings =>
    match d.network.stage settings with
    | .error fault => (.error (.network fault), d)
    | .ok network =>
      match { d with network }.configure fun c => { c with network := .ofSettings settings } with
      | (.ok (), saved) => (.ok ⟨network.restartRequired, .ofSettings settings⟩, saved)
      | (.error fault, unsaved) => (.error (.settingsNotSaved fault), unsaved)

/-- Whether input is shared. -/
def getSharing (d : Desk) : Bool := d.router.sharing

/-- Turns sharing on or off. -/
def setSharing (d : Desk) (on : Bool) : Bool × Desk :=
  (on, { d with router := d.router.setSharing on })

/-- Forgets a client. Sessions and trust go first, whether or not the client is registered. -/
def forgetClient (d : Desk) (text : String) : Except CommandFault Unit × Desk :=
  match readClientId text with
  | .error bad => (.error (.badClientId bad), d)
  | .ok id =>
    let distrusting := { d with admission := (d.admission.forget id).2 }
    match d.registry.forget id with
    | .error fault => (.error (.registry fault), distrusting)
    | .ok (_, registry) =>
      let forgotten := { distrusting with
        registry, layout := d.layout.remove id, router := d.router.forget id }
      match forgotten.persist with
      | (.ok (), saved) => (.ok (), saved)
      | (.error fault, unsaved) => (.error (.forgetNotSaved fault), unsaved)

end Desk

end SharedDesk
