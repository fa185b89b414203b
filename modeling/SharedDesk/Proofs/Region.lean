import SharedDesk.Region
import Mathlib.Tactic.ByContra
/-!
# Regions as sets of points

What the tests on edges say about the points of two regions: regions with area overlap exactly
when they have a point in common, and two that do not overlap touch exactly when a point of one
lies right next to a point of the other.
-/

namespace SharedDesk

theorem rangesMeet_iff (a₀ a₁ b₀ b₁ : Int) : rangesMeet a₀ a₁ b₀ b₁ = true ↔ a₀ < b₁ ∧ b₀ < a₁ := by
  simp [rangesMeet]

/-- Two ranges that are not empty meet in the larger of their starts. -/
theorem exists_of_rangesMeet {a₀ a₁ b₀ b₁ : Int} (ha : a₀ < a₁) (hb : b₀ < b₁)
    (h : rangesMeet a₀ a₁ b₀ b₁ = true) : ∃ i, (a₀ ≤ i ∧ i < a₁) ∧ b₀ ≤ i ∧ i < b₁ := by
  obtain ⟨h₁, h₂⟩ := (rangesMeet_iff ..).1 h
  exact ⟨max a₀ b₀, by omega, by omega⟩

theorem rangesMeet_of_mem {a₀ a₁ b₀ b₁ i : Int} (ha : a₀ ≤ i ∧ i < a₁) (hb : b₀ ≤ i ∧ i < b₁) :
    rangesMeet a₀ a₁ b₀ b₁ = true :=
  (rangesMeet_iff ..).2 (by omega)

theorem rangesMeet_comm (a₀ a₁ b₀ b₁ : Int) : rangesMeet a₀ a₁ b₀ b₁ = rangesMeet b₀ b₁ a₀ a₁ := by
  simp [rangesMeet, Bool.and_comm]

namespace Region

theorem contains_iff (r : Region) (x y : Int) :
    r.contains x y = true ↔ (r.left ≤ x ∧ x < r.right) ∧ r.top ≤ y ∧ y < r.bottom := by
  simp [contains]

/-- A region has area exactly when both of its sides are positive. -/
theorem hasNoArea_eq_false_iff (r : Region) : r.hasNoArea = false ↔ 0 < r.width ∧ 0 < r.height := by
  simp [hasNoArea, UInt32.pos_iff_ne_zero]

theorem edges_of_area {r : Region} (h : r.hasNoArea = false) : r.left < r.right ∧ r.top < r.bottom := by
  obtain ⟨hw, hh⟩ := (hasNoArea_eq_false_iff r).1 h
  rw [UInt32.lt_iff_toNat_lt] at hw hh
  simp only [UInt32.toNat_zero] at hw hh
  simp only [left, right, top, bottom]
  omega

/-! ## Overlapping -/

theorem overlaps_comm (r s : Region) : r.overlaps s = s.overlaps r := by
  simp only [overlaps, rangesMeet_comm r.left, rangesMeet_comm r.top]

/-- Regions with a point in common overlap, whatever their sides. -/
theorem overlaps_of_contains {r s : Region} {x y : Int} (hr : r.contains x y = true)
    (hs : s.contains x y = true) : r.overlaps s = true := by
  obtain ⟨hrx, hry⟩ := (contains_iff ..).1 hr
  obtain ⟨hsx, hsy⟩ := (contains_iff ..).1 hs
  rw [overlaps, rangesMeet_of_mem hrx hsx, rangesMeet_of_mem hry hsy, Bool.and_self]

theorem exists_contains_of_overlaps {r s : Region} (hr : r.hasNoArea = false)
    (hs : s.hasNoArea = false) (h : r.overlaps s = true) :
    ∃ x y, r.contains x y = true ∧ s.contains x y = true := by
  obtain ⟨hrx, hry⟩ := edges_of_area hr
  obtain ⟨hsx, hsy⟩ := edges_of_area hs
  obtain ⟨hx, hy⟩ := Bool.and_eq_true_iff.1 h
  obtain ⟨x, hxr, hxs⟩ := exists_of_rangesMeet hrx hsx hx
  obtain ⟨y, hyr, hys⟩ := exists_of_rangesMeet hry hsy hy
  exact ⟨x, y, (contains_iff ..).2 ⟨hxr, hyr⟩, (contains_iff ..).2 ⟨hxs, hys⟩⟩

/-- No point lies in both regions. -/
def Apart (r s : Region) : Prop := ∀ x y, ¬ (r.contains x y = true ∧ s.contains x y = true)

theorem Apart.symm {r s : Region} (h : Apart r s) : Apart s r := fun x y hp => h x y hp.symm

theorem apart_of_not_overlaps {r s : Region} (h : r.overlaps s = false) : Apart r s := by
  rintro x y ⟨hr, hs⟩
  rw [overlaps_of_contains hr hs] at h
  cases h

theorem apart_iff {r s : Region} (hr : r.hasNoArea = false) (hs : s.hasNoArea = false) :
    Apart r s ↔ r.overlaps s = false := by
  refine ⟨fun h => ?_, apart_of_not_overlaps⟩
  by_contra hne
  obtain ⟨x, y, hp⟩ := exists_contains_of_overlaps hr hs (by simpa using hne)
  exact h x y hp

/-! ## Touching -/

/-- The second point lies right beside the first one, or right above or below it. -/
def NextTo (x y x' y' : Int) : Prop :=
  (y = y' ∧ (x' = x + 1 ∨ x = x' + 1)) ∨ (x = x' ∧ (y' = y + 1 ∨ y = y' + 1))

/-- A point of one region lies right next to a point of the other. -/
def Borders (r s : Region) : Prop :=
  ∃ x y x' y', r.contains x y = true ∧ s.contains x' y' = true ∧ NextTo x y x' y'

theorem touches_iff (r s : Region) : r.touches s = true ↔
    ((r.right = s.left ∨ s.right = r.left) ∧ r.top < s.bottom ∧ s.top < r.bottom) ∨
      ((r.bottom = s.top ∨ s.bottom = r.top) ∧ r.left < s.right ∧ s.left < r.right) := by
  simp [touches, rangesMeet]

theorem borders_of_touches {r s : Region} (hr : r.hasNoArea = false) (hs : s.hasNoArea = false)
    (h : r.touches s = true) : Borders r s := by
  obtain ⟨hrx, hry⟩ := edges_of_area hr
  obtain ⟨hsx, hsy⟩ := edges_of_area hs
  rcases (touches_iff r s).1 h with ⟨hseam, hmeet⟩ | ⟨hseam, hmeet⟩
  · -- side by side: the points of a common row at the seam
    obtain ⟨y, hyr, hys⟩ := exists_of_rangesMeet hry hsy ((rangesMeet_iff ..).2 hmeet)
    rcases hseam with hseam | hseam
    · exact ⟨r.right - 1, y, s.left, y, (contains_iff ..).2 ⟨by omega, hyr⟩,
        (contains_iff ..).2 ⟨by omega, hys⟩, .inl ⟨rfl, by omega⟩⟩
    · exact ⟨r.left, y, s.right - 1, y, (contains_iff ..).2 ⟨by omega, hyr⟩,
        (contains_iff ..).2 ⟨by omega, hys⟩, .inl ⟨rfl, by omega⟩⟩
  · -- one above the other: the points of a common column
    obtain ⟨x, hxr, hxs⟩ := exists_of_rangesMeet hrx hsx ((rangesMeet_iff ..).2 hmeet)
    rcases hseam with hseam | hseam
    · exact ⟨x, r.bottom - 1, x, s.top, (contains_iff ..).2 ⟨hxr, by omega⟩,
        (contains_iff ..).2 ⟨hxs, by omega⟩, .inr ⟨rfl, by omega⟩⟩
    · exact ⟨x, r.top, x, s.bottom - 1, (contains_iff ..).2 ⟨hxr, by omega⟩,
        (contains_iff ..).2 ⟨hxs, by omega⟩, .inr ⟨rfl, by omega⟩⟩

theorem touches_of_borders {r s : Region} (hap : Apart r s) (h : Borders r s) :
    r.touches s = true := by
  obtain ⟨x, y, x', y', hr, hs, hnext⟩ := h
  -- neither region has the other's point, which puts the seam between the two
  have hrs : ¬ s.contains x y = true := fun hs' => hap x y ⟨hr, hs'⟩
  have hsr : ¬ r.contains x' y' = true := fun hr' => hap x' y' ⟨hr', hs⟩
  rw [contains_iff] at hr hs hrs hsr
  rw [touches_iff]
  rcases hnext with ⟨rfl, hx⟩ | ⟨rfl, hy⟩
  · left
    omega
  · right
    omega

end Region

end SharedDesk
