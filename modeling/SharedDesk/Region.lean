/-!
# Screen regions

A region is a rectangle of whole points: its left and top edges belong to it, its right and bottom
edges do not. Corners are 32-bit numbers, and edges are exact integers, so nothing wraps.

Two regions overlap when both their column and their row ranges do; they touch when they share a
stretch of an edge.
-/

namespace SharedDesk

/-- Whether two half-open ranges meet. Stated on the ends alone, so an empty range that lies inside
the other one counts as meeting it. -/
def rangesMeet (a₀ a₁ b₀ b₁ : Int) : Bool := a₀ < b₁ && b₀ < a₁

/-- A rectangle on the virtual desktop. -/
structure Region where
  x : Int32
  y : Int32
  width : UInt32
  height : UInt32
deriving DecidableEq, Repr, Inhabited

namespace Region

/-- The first column. -/
def left (r : Region) : Int := r.x.toInt

/-- The first row. -/
def top (r : Region) : Int := r.y.toInt

/-- The column after the last one. -/
def right (r : Region) : Int := r.x.toInt + r.width.toNat

/-- The row after the last one. -/
def bottom (r : Region) : Int := r.y.toInt + r.height.toNat

/-- Whether a point lies in the region. -/
def contains (r : Region) (x y : Int) : Bool :=
  r.left ≤ x && x < r.right && (r.top ≤ y && y < r.bottom)

/-- Whether two regions share area. -/
def overlaps (r s : Region) : Bool :=
  rangesMeet r.left r.right s.left s.right && rangesMeet r.top r.bottom s.top s.bottom

/-- Whether two regions share a stretch of an edge. -/
def touches (r s : Region) : Bool :=
  ((r.right == s.left || s.right == r.left) && rangesMeet r.top r.bottom s.top s.bottom) ||
    ((r.bottom == s.top || s.bottom == r.top) && rangesMeet r.left r.right s.left s.right)

/-- Whether the region has no points, because one of its sides is zero. -/
def hasNoArea (r : Region) : Bool := r.width == 0 || r.height == 0

end Region

end SharedDesk
