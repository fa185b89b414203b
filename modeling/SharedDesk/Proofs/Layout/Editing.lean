import SharedDesk.Desk
import SharedDesk.Proofs.Layout.Validation
import Mathlib.Data.List.Nodup
/-!
# The committed arrangement over time

`Edited` follows a layout from the bare master screen through replacements, accepted or refused, and
removals. Whatever happened, the committed screens are those of the last accepted candidate that
have not been taken away, so they stay apart and have area (`Edited.spec`). `clientAt_edited`: every
point is resolved to the one client whose screen it lies on.

What a removal may cost is the way to the master: the screens behind the removed one can be left as
an island (`island_after_removal`), and such an arrangement would not be accepted again.
`edited_connected_iff` says when that happens.
-/

namespace SharedDesk.Layout

/-- `Edited width height accepted kept l` says that `l` came about from the bare master screen of
that size, that `accepted` is the candidate that was accepted last, and that of its screens those of
the clients in `kept` have not been taken away since. -/
inductive Edited (width height : UInt32) : List Placement → (Uuid → Bool) → Layout → Prop
  | bare : Edited width height [] (fun _ => true) (ofMaster width height)
  | replaced {accepted kept l l'} (known : Uuid → Bool) (c : List Placement) :
      Edited width height accepted kept l → l.replace known c = .ok l' →
      Edited width height c (fun _ => true) l'
  | refused {accepted kept l fault} (known : Uuid → Bool) (c : List Placement) :
      Edited width height accepted kept l → l.replace known c = .error fault →
      Edited width height accepted kept l
  | removed {accepted kept l} (id : Uuid) :
      Edited width height accepted kept l →
      Edited width height accepted (fun j => kept j && j != id) (l.remove id)
  | pruned {accepted kept l} (known : Uuid → Bool) :
      Edited width height accepted kept l →
      Edited width height accepted (fun j => kept j && known j) (l.prune known)

variable {width height : UInt32} {accepted : List Placement} {kept : Uuid → Bool} {l : Layout}

/-- The master never moves, the candidate that was accepted last obeyed every rule, and the committed
screens are those of its screens that were kept. -/
theorem Edited.spec (h : Edited width height accepted kept l) :
    l.master = ⟨0, 0, width, height⟩ ∧ (∃ known, Faultless l.master known accepted) ∧
      ∀ p, p ∈ l.placements ↔ p ∈ accepted ∧ kept p.1 = true := by
  induction h with
  | bare => exact ⟨rfl, ⟨fun _ => true, by constructor <;> simp⟩, by simp [ofMaster, placements, Table.empty]⟩
  | replaced known c _ hok ih =>
    obtain ⟨hvalid, hmaster, hplaced⟩ := (replace_eq_ok_iff_placements ..).1 hok
    rw [hmaster]
    exact ⟨ih.1, ⟨known, (validate_eq_ok_iff ..).1 hvalid⟩, fun p => by simp [hplaced]⟩
  | refused _ _ _ _ ih => exact ih
  | removed id _ ih =>
    obtain ⟨hm, hf, hp⟩ := ih
    refine ⟨hm, hf, fun p => ?_⟩
    rw [placements, remove, Table.mem_rows_erase, ← placements, hp]
    simp [and_assoc]
  | pruned known _ ih =>
    obtain ⟨hm, hf, hp⟩ := ih
    refine ⟨hm, hf, fun p => ?_⟩
    rw [placements, prune, Table.mem_rows_filter, ← placements, hp]
    simp [and_assoc]

/-! ## Whose screen a point lies on -/

/-- Two committed screens with a point in common are the same one. -/
theorem Edited.eq_of_contains (h : Edited width height accepted kept l) {p q : Placement} {x y : Int}
    (hp : p ∈ l.placements) (hq : q ∈ l.placements) (hpx : p.2.contains x y = true)
    (hqx : q.2.contains x y = true) : p = q := by
  obtain ⟨-, ⟨known, hf⟩, hmem⟩ := h.spec
  by_contra hne
  have hapart := hf.apart.imp Region.apart_of_not_overlaps
  exact forall_apart hapart p ((hmem p).1 hp).1 q ((hmem q).1 hq).1 hne x y ⟨hpx, hqx⟩

/-- No point of the master screen lies on a committed one. -/
theorem Edited.clear_of_master (h : Edited width height accepted kept l) {p : Placement} {x y : Int}
    (hp : p ∈ l.placements) (hm : l.master.contains x y = true) : p.2.contains x y = false := by
  obtain ⟨-, ⟨known, hf⟩, hmem⟩ := h.spec
  have hclear := Region.apart_of_not_overlaps (hf.clear p ((hmem p).1 hp).1)
  simpa using fun hpx => hclear x y ⟨hpx, hm⟩

theorem clientAt_eq_some_iff (h : Edited width height accepted kept l) (x y : Int) (id : Uuid) :
    l.clientAt x y = some id ↔ ∃ r, (id, r) ∈ l.placements ∧ r.contains x y = true := by
  unfold clientAt
  constructor
  · intro hat
    split at hat
    · cases hat
    · obtain ⟨p, hfind, rfl⟩ := Option.map_eq_some_iff.1 hat
      exact ⟨p.2, List.mem_of_find?_eq_some hfind, by simpa using List.find?_some hfind⟩
  · rintro ⟨r, hr, hin⟩
    have hm : ¬ l.master.contains x y = true := fun hm => by
      rw [h.clear_of_master hr hm] at hin
      cases hin
    rw [if_neg hm]
    -- the scan finds some screen under the point, and there is only one
    obtain ⟨p, hfind⟩ : ∃ p, (l.screens.rows.find? fun p => p.2.contains x y) = some p :=
      Option.isSome_iff_exists.1 (List.find?_isSome.2 ⟨(id, r), hr, hin⟩)
    have hp : p = (id, r) := h.eq_of_contains (List.mem_of_find?_eq_some hfind) hr
      (by simpa using List.find?_some hfind) hin
    rw [hfind, hp]
    rfl

/-- At all times a point is resolved to the client whose committed screen it lies on; it lies on one
screen at most, and on none if it is the master's. The committed screens are those of the last
accepted candidate whose clients were not taken away since, ascending by client. -/
theorem clientAt_edited (h : Edited width height accepted kept l) :
    (∀ x y id, l.clientAt x y = some id ↔ ∃ r, (id, r) ∈ l.placements ∧ r.contains x y = true) ∧
    (∀ x y, ∀ p ∈ l.placements, ∀ q ∈ l.placements,
      p.2.contains x y = true → q.2.contains x y = true → p = q) ∧
    (∀ x y, l.master.contains x y = true →
      (∀ p ∈ l.placements, p.2.contains x y = false) ∧ l.clientAt x y = none) ∧
    (∀ p, p ∈ l.placements ↔ p ∈ accepted ∧ kept p.1 = true) ∧
    l.placements.Pairwise fun p q => p.1.toNat < q.1.toNat := by
  refine ⟨clientAt_eq_some_iff h, fun x y p hp q hq => h.eq_of_contains hp hq, fun x y hm => ?_,
    h.spec.2.2, l.screens.ascending⟩
  exact ⟨fun p hp => h.clear_of_master hp hm, by simp [clientAt, hm]⟩

/-- The row of two screens, committed. -/
def row : Layout := ⟨⟨0, 0, 1920, 1080⟩, .ofList rowOfTwo⟩

/-- A candidate that overlaps the master is refused, and then the nearer of two screens is removed. -/
theorem edited_row : Edited 1920 1080 rowOfTwo (fun j => true && j != .ofNat 1) (row.remove (.ofNat 1)) :=
  .removed _ (.refused (fun _ => true) [(.ofNat 3, ⟨0, 0, 1, 1⟩)]
    (.replaced (fun _ => true) rowOfTwo .bare rfl) rfl)

theorem clientAt_row : Edited 1920 1080 rowOfTwo (fun j => true && j != .ofNat 1) (row.remove (.ofNat 1)) ∧
    (row.remove (.ofNat 1)).clientAt 4000 10 = some (.ofNat 2) ∧
    (row.remove (.ofNat 1)).master.contains 1919 10 = true ∧
    (row.remove (.ofNat 1)).clientAt 1919 10 = none := by
  obtain ⟨hat, -, hmaster, -, -⟩ := clientAt_edited edited_row
  have hm : (row.remove (.ofNat 1)).master.contains 1919 10 = true := by decide
  exact ⟨edited_row, (hat ..).2 ⟨⟨3840, 0, 1280, 1024⟩, by decide, by decide⟩, hm, (hmaster 1919 10 hm).2⟩

/-! ## The way to the master -/

/-- Every committed screen is linked to the master by a chain of touching ones. -/
def Connected (l : Layout) : Prop := ∀ p ∈ l.placements, Linked Touching l.master l.placements p

/-- The rules that hold at all times: all but the one about the way to the master. -/
theorem Edited.standing (h : Edited width height accepted kept l) :
    (∀ p ∈ l.placements, p.2.overlaps l.master = false) ∧
      (l.placements.Pairwise fun p q => p.2.overlaps q.2 = false) ∧
      (∀ p ∈ l.placements, p.2.hasNoArea = false) ∧ (l.placements.map Prod.fst).Nodup := by
  obtain ⟨-, ⟨known, hf⟩, hmem⟩ := h.spec
  have : Std.Symm fun p q : Placement => p.2.overlaps q.2 = false :=
    ⟨fun p q hpq => by rwa [Region.overlaps_comm]⟩
  refine ⟨fun p hp => hf.clear p ((hmem p).1 hp).1, ?_, fun p hp => hf.area p ((hmem p).1 hp).1,
    l.screens.nodup_keys⟩
  refine List.Nodup.pairwise_of_forall_ne l.screens.nodup_keys.of_map fun p hp q hq hne => ?_
  exact hf.apart.forall ((hmem p).1 hp).1 ((hmem q).1 hq).1 hne

theorem Edited.faultless_iff (h : Edited width height accepted kept l) :
    Faultless l.master (fun _ => true) l.placements ↔ l.Connected := by
  obtain ⟨hclear, hapart, harea, honce⟩ := h.standing
  exact ⟨fun hf => hf.linked, fun hlinked => ⟨hclear, hapart, fun _ _ => rfl, honce, harea, hlinked⟩⟩

/-- Where all screens were linked, the ones that remain are still linked as soon as those of them are
that touched a missing one. -/
theorem linked_of_neighbours {master : Region} {c rest : List Placement}
    (hall : ∀ p ∈ c, Linked Touching master c p) (hsub : ∀ p ∈ rest, p ∈ c)
    (hnext : ∀ p ∈ rest, ∀ q ∈ c, q ∉ rest → p.2.touches q.2 = true → Linked Touching master rest p) :
    ∀ p ∈ rest, Linked Touching master rest p := by
  intro p hp
  induction hall p (hsub p hp) with
  | first _ htouch => exact .first hp htouch
  | @next q p hq _ htouch ih =>
    by_cases hrest : q ∈ rest
    · exact .next (ih hrest) hp htouch
    · exact hnext p hp q hq.mem hrest htouch

/-- Loaded from settings that hold the committed screens, an arrangement comes back exactly if every
screen is linked to the master; otherwise all its screens are dropped. -/
theorem Edited.storedLayout_eq_iff (h : Edited width height accepted kept l) {known : Uuid → Bool}
    (hknown : ∀ p ∈ l.placements, known p.1 = true) :
    Desk.storedLayout ⟨width, height, l.placements⟩ known = l ↔ l.Connected := by
  obtain ⟨hclear, hapart, harea, honce⟩ := h.standing
  obtain ⟨hm, -, -⟩ := h.spec
  have hbare : (ofMaster width height).master = l.master := hm.symm
  have hall : l.placements.filter (fun p => known p.1) = l.placements := List.filter_eq_self.2 hknown
  simp only [Desk.storedLayout, hall]
  constructor
  · intro hload
    cases hrep : (ofMaster width height).replace known l.placements with
    | ok l' =>
      have hf := ((replace_eq_ok_iff ..).1 hrep).1
      rw [hbare] at hf
      exact hf.linked
    | error fault =>
      -- the bare master has no screens at all
      rw [hrep] at hload
      intro p hp
      rw [← hload] at hp
      simp [ofMaster, placements, Table.empty] at hp
  · intro hlinked
    have hok : (ofMaster width height).replace known l.placements = .ok l :=
      (replace_eq_ok_iff ..).2 ⟨by rw [hbare]; exact ⟨hclear, hapart, hknown, honce, harea, hlinked⟩, by
        cases l
        simp only [placements, Table.ofList_rows] at hm ⊢
        rw [hm]
        rfl⟩
    rw [hok]

/-- At all times the committed screens are apart, have area and belong to different clients. They
would be accepted again, and would come back from stored settings, exactly if every one of them is
linked to the master, and that is so exactly if every one that touched a screen taken away since is
still linked without it. -/
theorem edited_connected_iff (h : Edited width height accepted kept l) :
    ((∀ p ∈ l.placements, p.2.overlaps l.master = false) ∧
      (l.placements.Pairwise fun p q => p.2.overlaps q.2 = false) ∧
      (∀ p ∈ l.placements, 0 < p.2.width ∧ 0 < p.2.height) ∧ (l.placements.map Prod.fst).Nodup) ∧
    (l.replace (fun _ => true) l.placements = .ok l ↔ l.Connected) ∧
    (∀ known : Uuid → Bool, (∀ p ∈ l.placements, known p.1 = true) →
      (Desk.storedLayout ⟨width, height, l.placements⟩ known = l ↔ l.Connected)) ∧
    (l.Connected ↔ ∀ p ∈ l.placements, ∀ q ∈ accepted, kept q.1 = false → p.2.touches q.2 = true →
      Linked Touching l.master l.placements p) := by
  obtain ⟨hm, ⟨known, hf⟩, hmem⟩ := h.spec
  refine ⟨?_, ?_, fun known => h.storedLayout_eq_iff, fun hl p hp _ _ _ _ => hl p hp, fun hnext => ?_⟩
  · simpa only [← Region.hasNoArea_eq_false_iff] using h.standing
  · rw [replace_eq_ok_iff, h.faultless_iff, placements, Table.ofList_rows]
    exact and_iff_left rfl
  · refine linked_of_neighbours hf.linked (fun p hp => ((hmem p).1 hp).1) fun p hp q hq hgone => ?_
    exact hnext p hp q hq (by simpa [hmem, hq] using hgone)

/-- Without the farther of two screens in a row the nearer one is still linked to the master. -/
theorem connected_without_end :
    Edited 1920 1080 rowOfTwo (fun j => true && j != .ofNat 2) (row.remove (.ofNat 2)) ∧
      (row.remove (.ofNat 2)).replace (fun _ => true) (row.remove (.ofNat 2)).placements =
        .ok (row.remove (.ofNat 2)) := by
  have hrow : Edited 1920 1080 rowOfTwo (fun j => true && j != .ofNat 2) (row.remove (.ofNat 2)) :=
    .removed _ (.replaced (fun _ => true) rowOfTwo .bare rfl)
  obtain ⟨-, hagain, -, hnext⟩ := edited_connected_iff hrow
  refine ⟨hrow, hagain.2 (hnext.2 fun p hp _ _ _ _ => .first hp ?_)⟩
  have hplacements : (row.remove (.ofNat 2)).placements = [(.ofNat 1, ⟨1920, 0, 1920, 1080⟩)] := by decide
  obtain rfl : p = (.ofNat 1, ⟨1920, 0, 1920, 1080⟩) := by simpa [hplacements] using hp
  decide

/-- Without the nearer one the other is an island: the committed screens are not linked to the master,
would be refused, and are dropped when they are loaded from stored settings. -/
theorem island_after_removal :
    Edited 1920 1080 rowOfTwo (fun j => true && j != .ofNat 1) (row.remove (.ofNat 1)) ∧
      ¬ (row.remove (.ofNat 1)).Connected ∧
      (row.remove (.ofNat 1)).replace (fun _ => true) (row.remove (.ofNat 1)).placements =
        .error (.unreachable (.ofNat 2)) ∧
      Desk.storedLayout ⟨1920, 1080, (row.remove (.ofNat 1)).placements⟩ (fun _ => true) =
        ofMaster 1920 1080 := by
  have hrefused : (row.remove (.ofNat 1)).replace (fun _ => true) (row.remove (.ofNat 1)).placements =
      .error (.unreachable (.ofNat 2)) := by rfl
  refine ⟨edited_row, fun hlinked => ?_, hrefused, by rfl⟩
  rw [(replace_eq_ok_iff ..).2 ⟨edited_row.faultless_iff.2 hlinked, rfl⟩] at hrefused
  cases hrefused

end SharedDesk.Layout
