import SharedDesk.Layout
import SharedDesk.Registry
/-!
# Routing input

While sharing is on, a pointer event goes to the client under the pointer if that client is
active, and every other event follows the pointer. All else stays with the master. Events that go
to a client are counted in short buckets until the registry takes the counts over.
-/

namespace SharedDesk

/-- Who gets an event. -/
inductive Target
  | master
  | client (id : Uuid)
deriving DecidableEq

/-- Events of one client that came close together. -/
structure Bucket where
  start : Time
  count : Nat
deriving DecidableEq, Repr

/-- How long a bucket takes events. -/
def bucketWidth : Duration := Duration.ofMillis 10

/-- Who gets the events, and what is to be counted. -/
structure Router where
  sharing : Bool
  target : Target
  /-- The buckets of each client, newest first. -/
  pending : Table Uuid (List Bucket)
deriving DecidableEq

namespace Router

/-- Sharing is off at first. -/
def idle : Router := ⟨false, .master, .empty⟩

instance : Inhabited Router := ⟨idle⟩

/-- Turns sharing on or off. Events stay with the master when it is off. -/
def setSharing (r : Router) (on : Bool) : Router :=
  { r with sharing := on, target := if on then r.target else .master }

/-- Counts one event into the newest bucket, or into a new one when that is too old. -/
def countInto (buckets : List Bucket) (now : Time) : List Bucket :=
  match buckets with
  | b :: rest =>
    if Time.elapsed now b.start < bucketWidth then { b with count := addCount b.count 1 } :: rest
    else ⟨now, 1⟩ :: b :: rest
  | [] => [⟨now, 1⟩]

/-- Counts an event that goes to a target. -/
def count (r : Router) (now : Time) : Target → Router
  | .master => r
  | .client id =>
    { r with pending := r.pending.insert id (countInto ((r.pending.find? id).getD []) now) }

/-- Who gets a pointer event at a point. -/
def pointerTarget (r : Router) (layout : Layout) (registry : Registry) (x y : Int) : Target :=
  if r.sharing then
    match layout.clientAt x y with
    | some id => if registry.isActive id then .client id else .master
    | none => .master
  else .master

/-- Who gets an event that follows the pointer. -/
def focusTarget (r : Router) (registry : Registry) : Target :=
  match r.target with
  | .client id => if r.sharing && registry.isActive id then .client id else .master
  | .master => .master

/-- Routes a pointer event. -/
def routePointer (r : Router) (layout : Layout) (registry : Registry) (x y : Int) (now : Time) :
    Target × Router :=
  let target := r.pointerTarget layout registry x y
  (target, { r with target }.count now target)

/-- Routes an event that follows the pointer. -/
def routeFocused (r : Router) (registry : Registry) (now : Time) : Target × Router :=
  let target := r.focusTarget registry
  (target, { r with target }.count now target)

/-- Drops everything about a client. -/
def forget (r : Router) (id : Uuid) : Router :=
  { r with
    target := if r.target = .client id then .master else r.target
    pending := r.pending.erase id }

/-- The sum of some buckets. -/
def total (buckets : List Bucket) : Nat := buckets.foldr (fun b n => addCount n b.count) 0

/-- Takes the counts of all clients out. -/
def takeCounts (r : Router) : List (Uuid × Nat) × Router :=
  (r.pending.rows.map fun row => (row.1, total row.2), { r with pending := .empty })

/-- Takes the buckets of one client over, oldest first. A client that is gone loses its counts. -/
def flushClient (registry : Registry) (id : Uuid) (buckets : List Bucket) : Registry :=
  buckets.foldr (fun b registry =>
    match registry.measure id none b.count b.start with
    | .ok registry => registry
    | .error _ => registry) registry

/-- Takes all counts over into the registry. -/
def flush (r : Router) (registry : Registry) : Router × Registry :=
  ({ r with pending := .empty },
    r.pending.rows.foldl (fun registry row => flushClient registry row.1 row.2) registry)

end Router

end SharedDesk
