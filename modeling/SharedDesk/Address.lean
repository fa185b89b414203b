import SharedDesk.Table
/-!
# Network addresses

An address has four bytes or eight groups of 16 bits. The two kinds are kept apart, also where an
address of the second kind stands for one of the first.
-/

namespace SharedDesk

/-- Four bytes, most significant first. -/
structure Quad where
  a : UInt8
  b : UInt8
  c : UInt8
  d : UInt8
deriving DecidableEq, Repr

/-- An address of a machine. -/
inductive Address
  | v4 (quad : Quad)
  | v6 (groups : Vector UInt16 8)
deriving DecidableEq, Repr

namespace Quad

/-- The 32-bit value. -/
def toNat (q : Quad) : Nat := ((q.a.toNat * 256 + q.b.toNat) * 256 + q.c.toNat) * 256 + q.d.toNat

theorem toNat_inj {p q : Quad} (h : p.toNat = q.toNat) : p = q := by
  have := p.a.toNat_lt; have := p.b.toNat_lt; have := p.c.toNat_lt; have := p.d.toNat_lt
  have := q.a.toNat_lt; have := q.b.toNat_lt; have := q.c.toNat_lt; have := q.d.toNat_lt
  unfold toNat at h
  cases p; cases q
  simp only [Quad.mk.injEq, ← UInt8.toNat_inj]
  simp_all only
  omega

theorem toNat_lt (q : Quad) : q.toNat < UInt32.size := by
  have := q.a.toNat_lt; have := q.b.toNat_lt; have := q.c.toNat_lt; have := q.d.toNat_lt
  unfold toNat UInt32.size; omega

end Quad

namespace Address

/-- The value of groups of 16 bits, most significant first. -/
def groupsValue (gs : List UInt16) : Nat := gs.foldl (fun n g => 65536 * n + g.toNat) 0

theorem groupsValue_inj {xs ys : List UInt16} (hl : xs.length = ys.length)
    (h : groupsValue xs = groupsValue ys) : xs = ys := by
  have key : ∀ (xs ys : List UInt16) (m n : Nat), xs.length = ys.length →
      xs.foldl (fun n g => 65536 * n + g.toNat) m = ys.foldl (fun n g => 65536 * n + g.toNat) n →
      m = n ∧ xs = ys := by
    intro xs
    induction xs with
    | nil =>
      intro ys m n hl h
      cases ys with
      | nil => exact ⟨h, rfl⟩
      | cons _ _ => simp at hl
    | cons x xs ih =>
      intro ys m n hl h
      cases ys with
      | nil => simp at hl
      | cons y ys =>
        obtain ⟨hsum, rfl⟩ := ih ys _ _ (by simpa using hl) h
        have hsum : 65536 * m + x.toNat = 65536 * n + y.toNat := hsum
        have := x.toNat_lt; have := y.toNat_lt
        have hxy : x.toNat = y.toNat := by omega
        exact ⟨by omega, by rw [UInt16.toNat_inj.1 hxy]⟩
  exact (key xs ys 0 0 hl h).2

/-- Addresses of four bytes sort before the others. -/
def rank : Address → Nat
  | v4 q => q.toNat
  | v6 gs => UInt32.size + groupsValue gs.toList

instance : Ranked Address where
  rank := rank
  rank_inj {x y} h := by
    cases x with
    | v4 p =>
      cases y with
      | v4 q => rw [Quad.toNat_inj h]
      | v6 hs => have := p.toNat_lt; simp only [rank] at h; omega
    | v6 gs =>
      cases y with
      | v4 q => have := q.toNat_lt; simp only [rank] at h; omega
      | v6 hs =>
        have : gs.toList = hs.toList := groupsValue_inj (by simp) (by simp only [rank] at h; omega)
        exact congrArg v6 (Vector.toList_inj.1 this)

/-- The address of four zero bytes, which stands for every interface. -/
def anyV4 : Address := v4 ⟨0, 0, 0, 0⟩

instance : Inhabited Address := ⟨anyV4⟩

end Address

end SharedDesk
