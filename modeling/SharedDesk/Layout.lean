import SharedDesk.Region
import SharedDesk.Uuid
/-!
# The arrangement of screens

The master screen lies at the origin, and each client's screen somewhere around it. An arrangement
is replaced as a whole: `Layout.validate` looks at the candidate, and `Layout.replace` commits it
only if no two screens share area, every client is known and named once, every screen has area,
and every screen can be reached from the master by crossing shared edges.

`Layout.clientAt` says whose screen a point lies on.
-/

namespace SharedDesk

/-- A client and where its screen lies. -/
abbrev Placement := Uuid × Region

/-- A screen of the desktop. -/
inductive Screen
  | master
  | client (id : Uuid)
deriving DecidableEq

/-- The screen's name within a sentence. -/
def Screen.word : Screen → String
  | master => "master"
  | client id => "client " ++ id.text

/-- Why an arrangement is refused. -/
inductive LayoutFault
  | overlap (first second : Screen)
  | unknownClient (id : Uuid)
  | duplicateClient (id : Uuid)
  | noArea (id : Uuid)
  | unreachable (id : Uuid)
deriving DecidableEq

/-- The wording of a refused arrangement. -/
def LayoutFault.message : LayoutFault → String
  | overlap a b => "screen regions overlap: " ++ a.word ++ " and " ++ b.word
  | unknownClient id => "client not found: " ++ id.text
  | duplicateClient id => "client appears more than once in the layout: " ++ id.text
  | noArea id => "screen of client " ++ id.text ++ " must have a positive width and height"
  | unreachable id => "screen of client " ++ id.text ++ " is unreachable from the master screen"

/-- The master screen and the screens of clients around it. -/
structure Layout where
  master : Region
  screens : Table Uuid Region
deriving DecidableEq

namespace Layout

/-! ## Looking at a candidate -/

/-- The first pair of screens that share area, in the order of the candidate, where each screen is
compared with the master and then with the ones after it. -/
def firstOverlap? (master : Region) : List Placement → Option (Screen × Screen)
  | [] => none
  | p :: rest =>
    if p.2.overlaps master then some (.master, .client p.1)
    else match rest.find? fun q => p.2.overlaps q.2 with
      | some q => some (.client p.1, .client q.1)
      | none => firstOverlap? master rest

/-- The first client that is not known, or that already occurs among `seen`. -/
def firstMisnamed? (known : Uuid → Bool) :
    (seen : List Uuid) → List Placement → Option LayoutFault
  | _, [] => none
  | seen, p :: rest =>
    if !known p.1 then some (.unknownClient p.1)
    else if seen.contains p.1 then some (.duplicateClient p.1)
    else firstMisnamed? known (p.1 :: seen) rest

/-- Walks from screen to touching screen, first come first served. `queue` holds the screens that
were reached and not yet left, `unreached` the others in candidate order. Gives the screens in the
order in which they were left, and those never reached. A queued screen is never queued again, so
as many steps as there are screens are enough. -/
def explore :
    (steps : Nat) → (queue unreached : List Placement) → List Placement × List Placement
  | 0, _, unreached => ([], unreached)
  | _ + 1, [], unreached => ([], unreached)
  | steps + 1, p :: queue, unreached =>
    let (near, far) := unreached.partition fun q => q.2.touches p.2
    let (left, never) := explore steps (queue ++ near) far
    (p :: left, never)

/-- The screens that no chain of touching screens links to the master, in candidate order. -/
def unreachable (master : Region) (candidate : List Placement) : List Placement :=
  let (near, far) := candidate.partition fun p => p.2.touches master
  (explore candidate.length near far).2

/-- Looks for the first fault of a candidate: overlaps first, then names, then empty screens, then
screens out of reach. -/
def validate (l : Layout) (known : Uuid → Bool) (candidate : List Placement) :
    Except LayoutFault Unit :=
  match firstOverlap? l.master candidate with
  | some (a, b) => .error (.overlap a b)
  | none =>
    match firstMisnamed? known [] candidate with
    | some fault => .error fault
    | none =>
      match candidate.find? fun p => p.2.hasNoArea with
      | some p => .error (.noArea p.1)
      | none =>
        match unreachable l.master candidate with
        | p :: _ => .error (.unreachable p.1)
        | [] => .ok ()

/-! ## The committed arrangement -/

/-- Only the master screen, at the origin. -/
def ofMaster (width height : UInt32) : Layout := ⟨⟨0, 0, width, height⟩, .empty⟩

/-- Commits a candidate that has no fault, in place of what was there. -/
def replace (l : Layout) (known : Uuid → Bool) (candidate : List Placement) :
    Except LayoutFault Layout :=
  match l.validate known candidate with
  | .ok () => .ok { l with screens := .ofList candidate }
  | .error fault => .error fault

/-- Takes a client's screen away. -/
def remove (l : Layout) (id : Uuid) : Layout := { l with screens := l.screens.erase id }

/-- The committed screens, ascending by client. -/
def placements (l : Layout) : List Placement := l.screens.rows

/-- The client whose screen a point lies on. The master screen comes first. -/
def clientAt (l : Layout) (x y : Int) : Option Uuid :=
  if l.master.contains x y then none
  else (l.screens.rows.find? fun p => p.2.contains x y).map Prod.fst

/-- The screens whose client is not known, ascending. -/
def orphans (l : Layout) (known : Uuid → Bool) : List Uuid :=
  l.screens.keys.filter fun id => !known id

/-- Takes the screens of unknown clients away. -/
def prune (l : Layout) (known : Uuid → Bool) : Layout :=
  { l with screens := l.screens.filter fun id _ => known id }

end Layout

end SharedDesk
