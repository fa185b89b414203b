import SharedDesk.Proofs.Layout.Linked
import SharedDesk.Proofs.Table
import Mathlib.Data.List.Pairwise
import Mathlib.Data.List.Perm.Basic
/-!
# What a candidate must be like

`Faultless` lists the rules for an arrangement, and `validate_eq_ok_iff` says that validation accepts
exactly the candidates that obey them. `accepts_exactly` says the same about the points of the
screens, and that what is committed are the screens of the candidate, in whatever order it lists them.
-/

namespace SharedDesk.Layout

/-- An arrangement that obeys every rule. -/
structure Faultless (master : Region) (known : Uuid → Bool) (c : List Placement) : Prop where
  clear : ∀ p ∈ c, p.2.overlaps master = false
  apart : c.Pairwise fun p q => p.2.overlaps q.2 = false
  known : ∀ p ∈ c, known p.1 = true
  once : (c.map Prod.fst).Nodup
  area : ∀ p ∈ c, p.2.hasNoArea = false
  linked : ∀ p ∈ c, Linked Touching master c p

variable {master : Region} {known : Uuid → Bool} {c c' : List Placement}

/-! ## One rule after the other -/

theorem firstOverlap?_eq_none_iff (master : Region) (c : List Placement) :
    firstOverlap? master c = none ↔
      (∀ p ∈ c, p.2.overlaps master = false) ∧ c.Pairwise fun p q => p.2.overlaps q.2 = false := by
  induction c with
  | nil => simp [firstOverlap?]
  | cons p rest ih =>
    rw [firstOverlap?, List.forall_mem_cons, List.pairwise_cons]
    cases hm : p.2.overlaps master with
    | true => simp
    | false =>
      cases hf : rest.find? fun q => p.2.overlaps q.2 with
      | some q =>
        have hq := List.find?_some hf
        have hmem := List.mem_of_find?_eq_some hf
        simp only [Bool.false_eq_true, if_false, reduceCtorEq, true_and, false_iff]
        rintro ⟨-, hnone, -⟩
        rw [hnone q hmem] at hq
        cases hq
      | none =>
        have hnone : ∀ q ∈ rest, p.2.overlaps q.2 = false := by simpa using hf
        simp only [Bool.false_eq_true, if_false, ih, true_and]
        exact ⟨fun ⟨h₁, h₂⟩ => ⟨h₁, hnone, h₂⟩, fun ⟨h₁, _, h₂⟩ => ⟨h₁, h₂⟩⟩

theorem firstMisnamed?_eq_none_iff (known : Uuid → Bool) (seen : List Uuid) (c : List Placement) :
    firstMisnamed? known seen c = none ↔
      (∀ p ∈ c, known p.1 = true) ∧ (c.map Prod.fst).Nodup ∧ ∀ p ∈ c, p.1 ∉ seen := by
  induction c generalizing seen with
  | nil => simp [firstMisnamed?]
  | cons p rest ih =>
    rw [firstMisnamed?, List.map_cons, List.nodup_cons, List.forall_mem_cons, List.forall_mem_cons]
    by_cases hk : known p.1 = true
    · by_cases hs : p.1 ∈ seen
      · simp [hk, hs]
      · have hsplit : (∀ q ∈ rest, q.1 ∉ p.1 :: seen) ↔
            p.1 ∉ rest.map Prod.fst ∧ ∀ q ∈ rest, q.1 ∉ seen := by
          simp only [List.mem_cons, not_or, List.mem_map, not_exists, not_and]
          exact ⟨fun h => ⟨fun q hq heq => (h q hq).1 heq, fun q hq => (h q hq).2⟩,
            fun h q hq => ⟨fun heq => h.1 q hq heq, h.2 q hq⟩⟩
        simp only [hk, Bool.not_true, Bool.false_eq_true, if_false, List.contains_eq_mem, hs,
          decide_false, ih, hsplit, true_and]
        tauto
    · simp [hk]

/-- Validation accepts exactly the candidates that obey every rule. -/
theorem validate_eq_ok_iff (l : Layout) (known : Uuid → Bool) (c : List Placement) :
    l.validate known c = .ok () ↔ Faultless l.master known c := by
  have hchecks : l.validate known c = .ok () ↔ firstOverlap? l.master c = none ∧
      firstMisnamed? known [] c = none ∧ (c.find? fun p => p.2.hasNoArea) = none ∧
      unreachable l.master c = [] := by
    unfold validate
    cases firstOverlap? l.master c <;> simp only [reduceCtorEq, false_and, true_and]
    cases firstMisnamed? known [] c <;> simp only [reduceCtorEq, false_and, true_and]
    cases c.find? (fun p => p.2.hasNoArea) <;> simp only [reduceCtorEq, false_and, true_and]
    cases unreachable l.master c <;> simp
  have hreach : unreachable l.master c = [] ↔ ∀ p ∈ c, Linked Touching l.master c p := by
    rw [List.eq_nil_iff_forall_not_mem]
    exact forall_congr' fun p => by rw [mem_unreachable_iff]; tauto
  rw [hchecks, firstOverlap?_eq_none_iff, firstMisnamed?_eq_none_iff, List.find?_eq_none, hreach]
  constructor
  · rintro ⟨⟨h₁, h₂⟩, ⟨h₃, h₄, -⟩, h₅, h₆⟩
    exact ⟨h₁, h₂, h₃, h₄, fun p hp => by simpa using h₅ p hp, h₆⟩
  · rintro ⟨h₁, h₂, h₃, h₄, h₅, h₆⟩
    exact ⟨⟨h₁, h₂⟩, ⟨h₃, h₄, by simp⟩, fun p hp => by simp [h₅ p hp], h₆⟩

/-! ## Committing -/

theorem replace_eq_ok_iff (l l' : Layout) (known : Uuid → Bool) (c : List Placement) :
    l.replace known c = .ok l' ↔
      Faultless l.master known c ∧ l' = { l with screens := .ofList c } := by
  rw [← validate_eq_ok_iff, replace]
  cases l.validate known c with
  | ok _ => simp [eq_comm]
  | error _ => simp

/-- A candidate that validation accepts is committed as it is, around the master that was there. -/
theorem replace_eq_ok_iff_placements (l l' : Layout) (known : Uuid → Bool) (c : List Placement) :
    l.replace known c = .ok l' ↔
      l.validate known c = .ok () ∧ l'.master = l.master ∧ ∀ p, p ∈ l'.placements ↔ p ∈ c := by
  rw [replace_eq_ok_iff, validate_eq_ok_iff]
  refine and_congr_right fun hf => ⟨?_, ?_⟩
  · rintro rfl
    exact ⟨rfl, Table.mem_rows_ofList hf.once⟩
  · rintro ⟨hmaster, hplaced⟩
    have hscreens : l'.screens = .ofList c :=
      Table.ext_rows fun p => (hplaced p).trans (Table.mem_rows_ofList hf.once p).symm
    rw [← hmaster, ← hscreens]

/-- A commit leaves screens of known clients only. -/
theorem known_of_replace {l l' : Layout} {id : Uuid} (h : l.replace known c = .ok l')
    (hid : l'.screens.contains id = true) : known id = true := by
  obtain ⟨hvalid, -, hplaced⟩ := (replace_eq_ok_iff_placements ..).1 h
  obtain ⟨region, hregion⟩ := Table.contains_iff.1 hid
  exact ((validate_eq_ok_iff ..).1 hvalid).known _ ((hplaced _).1 hregion)

theorem Faultless.perm (hp : c.Perm c') (h : Faultless master known c) :
    Faultless master known c' where
  clear p hp' := h.clear p (hp.mem_iff.2 hp')
  apart := (hp.pairwise_iff fun hpq => by rwa [Region.overlaps_comm]).1 h.apart
  known p hp' := h.known p (hp.mem_iff.2 hp')
  once := (hp.map Prod.fst).nodup_iff.1 h.once
  area p hp' := h.area p (hp.mem_iff.2 hp')
  linked p hp' := (h.linked p (hp.mem_iff.2 hp')).mono fun _ => hp.mem_iff.1

/-- Whether a candidate is accepted, and what is committed, does not depend on its order. -/
theorem replace_perm (l : Layout) (known : Uuid → Bool) (hp : c.Perm c') :
    (l.replace known c).toOption = (l.replace known c').toOption := by
  have hfaultless : Faultless l.master known c ↔ Faultless l.master known c' := ⟨.perm hp, .perm hp.symm⟩
  have hiff : ∀ l', l.replace known c = .ok l' ↔ l.replace known c' = .ok l' := fun l' => by
    simp only [replace_eq_ok_iff_placements, validate_eq_ok_iff, hfaultless, hp.mem_iff]
  cases h : l.replace known c with
  | ok l' => rw [(hiff l').1 h]
  | error f =>
    cases h' : l.replace known c' with
    | ok l' => rw [(hiff l').2 h'] at h; cases h
    | error f' => rfl

/-! ## In points -/

/-- Of screens that are apart two by two, any two are apart. -/
theorem forall_apart (h : c.Pairwise fun p q => Region.Apart p.2 q.2) :
    ∀ p ∈ c, ∀ q ∈ c, p ≠ q → Region.Apart p.2 q.2 := by
  have : Std.Symm fun p q : Placement => Region.Apart p.2 q.2 := ⟨fun _ _ => Region.Apart.symm⟩
  exact fun p hp q hq hne => h.forall hp hq hne

/-- Where no two screens have a point in common, touching screens are those with points next to each
other, so the two kinds of chain lead to the same screens. -/
theorem linked_borders_iff {p : Placement} (hm : master.hasNoArea = false)
    (harea : ∀ p ∈ c, p.2.hasNoArea = false) (hclear : ∀ p ∈ c, Region.Apart p.2 master)
    (hapart : c.Pairwise fun p q => Region.Apart p.2 q.2) :
    Linked Touching master c p ↔ Linked Region.Borders master c p := by
  constructor
  · exact Linked.imp (fun p hp => Region.borders_of_touches (harea p hp) hm)
      fun p hp q hq _ => Region.borders_of_touches (harea p hp) (harea q hq)
  · exact Linked.imp (fun p hp => Region.touches_of_borders (hclear p hp))
      fun p hp q hq hne => Region.touches_of_borders (forall_apart hapart p hp q hq hne)

/-- The points of the screens are told apart when no region of the list shares one with a later one. -/
theorem pairwise_apart_iff (master : Region) (c : List Placement) :
    (master :: c.map Prod.snd).Pairwise Region.Apart ↔
      (∀ p ∈ c, Region.Apart p.2 master) ∧ c.Pairwise fun p q => Region.Apart p.2 q.2 := by
  rw [List.pairwise_cons, List.pairwise_map, List.forall_mem_map]
  exact and_congr_left' (forall₂_congr fun p _ => ⟨Region.Apart.symm, Region.Apart.symm⟩)

/-- What a candidate must be like, told by the points of its screens: known clients, each once,
screens of at least one point in either direction, no point in two screens, and for every screen a
chain to the master in which each screen has a point right next to a point of the one before. Such
a candidate is committed around the same master, as exactly the screens that it lists, and in whatever
order it lists them the same arrangement is committed. -/
theorem accepts_exactly (l : Layout) (hw : 0 < l.master.width) (hh : 0 < l.master.height)
    (known : Uuid → Bool) (c : List Placement) :
    (l.validate known c = .ok () ↔
      (∀ p ∈ c, known p.1 = true) ∧ (c.map Prod.fst).Nodup ∧
      (∀ p ∈ c, 0 < p.2.width ∧ 0 < p.2.height) ∧
      (l.master :: c.map Prod.snd).Pairwise Region.Apart ∧
      ∀ p ∈ c, Linked Region.Borders l.master c p) ∧
    (∀ l', l.replace known c = .ok l' ↔
      l.validate known c = .ok () ∧ l'.master = l.master ∧ ∀ p, p ∈ l'.placements ↔ p ∈ c) ∧
    ∀ c', c.Perm c' → (l.replace known c).toOption = (l.replace known c').toOption := by
  have hm : l.master.hasNoArea = false := (Region.hasNoArea_eq_false_iff _).2 ⟨hw, hh⟩
  refine ⟨?_, fun l' => replace_eq_ok_iff_placements l l' known c, fun c' hp => replace_perm l known hp⟩
  simp only [validate_eq_ok_iff, pairwise_apart_iff, ← Region.hasNoArea_eq_false_iff]
  constructor
  · intro h
    have hclear : ∀ p ∈ c, Region.Apart p.2 l.master :=
      fun p hp => Region.apart_of_not_overlaps (h.clear p hp)
    have hapart : c.Pairwise fun p q => Region.Apart p.2 q.2 := h.apart.imp Region.apart_of_not_overlaps
    exact ⟨h.known, h.once, h.area, ⟨hclear, hapart⟩,
      fun p hp => (linked_borders_iff hm h.area hclear hapart).1 (h.linked p hp)⟩
  · rintro ⟨hknown, honce, harea, ⟨hclear, hapart⟩, hlinked⟩
    refine ⟨fun p hp => (Region.apart_iff (harea p hp) hm).1 (hclear p hp), ?_, hknown, honce, harea,
      fun p hp => (linked_borders_iff hm harea hclear hapart).2 (hlinked p hp)⟩
    exact hapart.imp_of_mem fun hp hq h => (Region.apart_iff (harea _ hp) (harea _ hq)).1 h

/-- Two screens in a row to the right of a master of 1920 by 1080 points. -/
def rowOfTwo : List Placement :=
  [(.ofNat 1, ⟨1920, 0, 1920, 1080⟩), (.ofNat 2, ⟨3840, 0, 1280, 1024⟩)]

theorem accepts_row_of_two :
    0 < (ofMaster 1920 1080).master.width ∧ 0 < (ofMaster 1920 1080).master.height ∧
    (∀ p ∈ rowOfTwo, Linked Region.Borders (ofMaster 1920 1080).master rowOfTwo p) ∧
    (∃ l, (ofMaster 1920 1080).replace (fun _ => true) rowOfTwo = .ok l ∧
      l.master = (ofMaster 1920 1080).master ∧ ∀ p, p ∈ l.placements ↔ p ∈ rowOfTwo) ∧
    rowOfTwo.Perm rowOfTwo.reverse ∧
    ((ofMaster 1920 1080).replace (fun _ => true) rowOfTwo).toOption =
      ((ofMaster 1920 1080).replace (fun _ => true) rowOfTwo.reverse).toOption := by
  obtain ⟨hiff, hcommit, hperm⟩ :=
    accepts_exactly (ofMaster 1920 1080) (by decide) (by decide) (fun _ => true) rowOfTwo
  obtain ⟨-, -, -, -, hlinked⟩ := hiff.1 rfl
  have hp : rowOfTwo.Perm rowOfTwo.reverse := rowOfTwo.reverse_perm.symm
  have hok : (ofMaster 1920 1080).replace (fun _ => true) rowOfTwo =
      .ok { ofMaster 1920 1080 with screens := .ofList rowOfTwo } := rfl
  exact ⟨by decide, by decide, hlinked, ⟨_, hok, ((hcommit _).1 hok).2⟩, hp, hperm _ hp⟩

end SharedDesk.Layout
