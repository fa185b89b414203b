/-!
# Bounded queues

A queue hands its items on in the order in which they came. It holds a fixed number at most, and
once closed it takes nothing more; what it holds can still be taken out.
-/

namespace SharedDesk

/-- Why a queue does not take an item. -/
inductive ChannelFault
  | full
  | closed
deriving DecidableEq, Repr

/-- The wording of a refused item. -/
def ChannelFault.message : ChannelFault → String
  | full => "no available capacity"
  | closed => "channel closed"

/-- A queue, its oldest item first. -/
structure Channel (α : Type) where
  capacity : Nat
  isOpen : Bool
  items : List α
deriving DecidableEq, Repr

namespace Channel

variable {α : Type}

/-- An empty queue for at least one item. -/
def ofCapacity (n : Nat) : Channel α := ⟨max n 1, true, []⟩

/-- Puts an item at the end. -/
def push (c : Channel α) (a : α) : Except ChannelFault (Channel α) :=
  if !c.isOpen then .error .closed
  else if c.capacity ≤ c.items.length then .error .full
  else .ok { c with items := c.items ++ [a] }

/-- Puts an item at the end, or loses it. -/
def offer (c : Channel α) (a : α) : Channel α :=
  match c.push a with
  | .ok c => c
  | .error _ => c

/-- Takes everything out. -/
def drain (c : Channel α) : List α × Channel α := (c.items, { c with items := [] })

/-- Takes nothing more from now on. -/
def close (c : Channel α) : Channel α := { c with isOpen := false }

/-- Takes nothing more from now on, and loses what it holds. -/
def abandon (c : Channel α) : Channel α := { c with isOpen := false, items := [] }

end Channel

end SharedDesk
