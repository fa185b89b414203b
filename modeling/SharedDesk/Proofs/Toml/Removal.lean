import SharedDesk.Proofs.Toml.Outline
/-!
# Texts with lines cut out

A `Spot` is something that a text may lack: what has a name of its own in it, a setting or a list of one of its tables,
or a setting of one item of a list. Every line of an outline is a `Piece` that knows the spots it belongs to, and a
`Cut` takes the pieces of some spots out of a text. What is left is a text of the outline without these spots
(`linesLeft_outline`), in which still no name is given twice (`wellFormed_without`). So it is read as what is left of
the outline (`read?_cut`), where what went is not found and everything else is found as before (`lookup_left`).
-/

namespace SharedDesk.Toml

/-- Something that a text may lack. -/
inductive Spot
  /-- What has a name of its own in the text, with all below it. -/
  | part (name : String)
  /-- A setting of a table, or a list of tables below it. -/
  | field (part name : String)
  /-- A setting of one item of a list. -/
  | item (list : Key) (place : Nat) (name : String)
deriving DecidableEq

/-- A line, and the spots that it belongs to. -/
structure Piece where
  spots : List Spot
  line : Line

/-- A piece stays when none of its spots goes. -/
def Piece.stays (gone : Spot → Bool) (p : Piece) : Bool := !p.spots.any gone

/-- The pieces of settings. -/
def settingPieces (spots : String → List Spot) (settings : List Setting) : List Piece :=
  settings.map fun s => ⟨spots s.1, .setting s.1 s.2⟩

namespace Listing

/-- The pieces of a list of tables in the table at `path`, all of which belong to `spots`. -/
def pieces (path : List String) (spots : List Spot) (l : Listing) : List Piece :=
  l.items.zipIdx.flatMap fun item => ⟨spots, .element ⟨path, l.name⟩⟩ ::
    settingPieces (fun name => .item ⟨path, l.name⟩ item.2 name :: spots) item.1

/-- What is left of a list of tables when none of them goes. -/
def without (gone : Spot → Bool) (path : List String) (l : Listing) : Listing :=
  { l with items := l.items.mapIdx fun i item => item.filter fun s => !gone (.item ⟨path, l.name⟩ i s.1) }

end Listing

namespace Part

/-- The pieces of a part. -/
def pieces : Part → List Piece
  | table name settings listings =>
    ⟨[.part name], .table ⟨[], name⟩⟩ :: settingPieces (fun field => [.part name, .field name field]) settings ++
      listings.flatMap fun l => l.pieces [name] [.part name, .field name l.name]
  | listing l => l.pieces [] [.part l.name]

/-- What is left of a part that stays. -/
def without (gone : Spot → Bool) : Part → Part
  | table name settings listings =>
    table name (settings.filter fun s => !gone (.field name s.1))
      ((listings.filter fun l => !gone (.field name l.name)).map (Listing.without gone [name]))
  | listing l => listing (l.without gone [])

end Part

namespace Outline

/-- The pieces of an outline. -/
def pieces (o : Outline) : List Piece := settingPieces (fun name => [.part name]) o.top ++ o.parts.flatMap Part.pieces

/-- What is left of an outline. -/
def without (gone : Spot → Bool) (o : Outline) : Outline where
  top := o.top.filter fun s => !gone (.part s.1)
  parts := (o.parts.filter fun part => !gone (.part part.name)).map (Part.without gone)

end Outline

variable {gone : Spot → Bool} {pieces pieces' : List Piece} {saved rest : List Char} {spots : List Spot} {o : Outline}

/-! ## The lines that are left -/

/-- The lines of the pieces that stay. -/
def linesLeft (gone : Spot → Bool) (pieces : List Piece) : List Line := (pieces.filter (Piece.stays gone)).map Piece.line

theorem linesLeft_append : linesLeft gone (pieces ++ pieces') = linesLeft gone pieces ++ linesLeft gone pieces' := by
  simp [linesLeft]

theorem linesLeft_flatMap {α : Type} (f : α → List Piece) (xs : List α) :
    linesLeft gone (xs.flatMap f) = xs.flatMap fun x => linesLeft gone (f x) := by
  rw [linesLeft, List.filter_flatMap, List.map_flatMap]
  rfl

theorem linesLeft_cons (line : Line) (h : spots.any gone = false) :
    linesLeft gone (⟨spots, line⟩ :: pieces) = line :: linesLeft gone pieces := by
  rw [linesLeft, List.filter_cons_of_pos (by simp [Piece.stays, h])]
  rfl

theorem linesLeft_of_gone (h : spots.any gone = true) (hspots : ∀ p ∈ pieces, spots ⊆ p.spots) :
    linesLeft gone pieces = [] := by
  obtain ⟨spot, hspot, hgone⟩ := List.any_eq_true.1 h
  rw [linesLeft, List.map_eq_nil_iff, List.filter_eq_nil_iff]
  intro p hp
  have hany : p.spots.any gone = true := List.any_eq_true.2 ⟨spot, hspots p hp hspot, hgone⟩
  simp [Piece.stays, hany]

theorem linesLeft_settings (spots : String → List Spot) (settings : List Setting) :
    linesLeft gone (settingPieces spots settings) =
      settingLines (settings.filter fun s => !(spots s.1).any gone) := by
  rw [linesLeft, settingPieces, List.filter_map, List.map_map]
  rfl

/-- What is left of many things is what those of them are that stay. -/
theorem flatMap_left {α β : Type} (goes : α → Bool) (f : α → List β) (xs : List α) :
    (xs.flatMap fun x => if goes x then [] else f x) = (xs.filter fun x => !goes x).flatMap f := by
  induction xs with
  | nil => rfl
  | cons x xs ih => cases hx : goes x <;> simp [hx, ih]

theorem spots_of_mem_listing {path : List String} {l : Listing} {p : Piece} (hp : p ∈ l.pieces path spots) :
    spots ⊆ p.spots := by
  obtain ⟨item, -, hp⟩ := List.mem_flatMap.1 hp
  rcases List.mem_cons.1 hp with rfl | hp
  · exact List.Subset.refl _
  · obtain ⟨s, -, rfl⟩ := List.mem_map.1 hp
    exact List.subset_cons_self _ _

theorem linesLeft_listing (path : List String) (spots : List Spot) (l : Listing) :
    linesLeft gone (l.pieces path spots) = if spots.any gone then [] else (l.without gone path).lines path := by
  split
  · rename_i hgone
    exact linesLeft_of_gone hgone fun p => spots_of_mem_listing
  · rename_i hstays
    rw [Bool.not_eq_true] at hstays
    have hitem : ∀ item : List Setting × Nat, linesLeft gone (⟨spots, .element ⟨path, l.name⟩⟩ ::
        settingPieces (fun name => .item ⟨path, l.name⟩ item.2 name :: spots) item.1) =
        .element ⟨path, l.name⟩ ::
          settingLines (item.1.filter fun s => !gone (.item ⟨path, l.name⟩ item.2 s.1)) := by
      intro item
      rw [linesLeft_cons _ hstays, linesLeft_settings]
      simp only [List.any_cons, hstays, Bool.or_false]
    rw [Listing.pieces, linesLeft_flatMap]
    simp only [hitem]
    rw [Listing.lines, Listing.without, List.mapIdx_eq_zipIdx_map, List.flatMap_map]

theorem spots_of_mem_part {part : Part} {p : Piece} (hp : p ∈ part.pieces) : [Spot.part part.name] ⊆ p.spots := by
  cases part with
  | table name settings listings =>
    simp only [Part.pieces, List.cons_append, List.mem_cons, List.mem_append, List.mem_flatMap] at hp
    rcases hp with rfl | hp | ⟨l, -, hp⟩
    · exact List.Subset.refl _
    · obtain ⟨s, -, rfl⟩ := List.mem_map.1 hp
      simp [Part.name]
    · exact List.Subset.trans (by simp [Part.name]) (spots_of_mem_listing hp)
  | listing l => exact spots_of_mem_listing hp

theorem linesLeft_part (part : Part) :
    linesLeft gone part.pieces = if gone (.part part.name) then [] else (part.without gone).lines := by
  cases part with
  | table name settings listings =>
    split
    · rename_i hgone
      have hany : [Spot.part name].any gone = true := by simpa [Part.name] using hgone
      exact linesLeft_of_gone hany fun p => spots_of_mem_part
    · rename_i hstays
      have hstays : gone (.part name) = false := Bool.eq_false_iff.2 hstays
      rw [Part.pieces, List.cons_append, linesLeft_cons _ (by simp [hstays]), linesLeft_append, linesLeft_settings,
        linesLeft_flatMap]
      simp only [linesLeft_listing, List.any_cons, List.any_nil, hstays, Bool.false_or, Bool.or_false]
      rw [flatMap_left, Part.without, Part.lines, List.flatMap_map]
      rfl
  | listing l =>
    simp only [Part.pieces, linesLeft_listing, List.any_cons, List.any_nil, Bool.or_false]
    rfl

theorem linesLeft_outline (o : Outline) : linesLeft gone o.pieces = (o.without gone).lines := by
  rw [Outline.pieces, linesLeft_append, linesLeft_settings, linesLeft_flatMap]
  simp only [linesLeft_part, List.any_cons, List.any_nil, Bool.or_false]
  rw [flatMap_left, Outline.lines, Outline.without, List.flatMap_map]

/-! ## Where nothing goes -/

theorem filter_nothing {α : Type} (xs : List α) : (xs.filter fun _ => !false) = xs :=
  List.filter_eq_self.2 fun _ _ => rfl

theorem mapIdx_unchanged {α : Type} (xs : List α) : (xs.mapIdx fun _ x => x) = xs := by
  rw [List.mapIdx_eq_zipIdx_map]
  exact List.zipIdx_map_fst 0 xs

theorem Listing.without_nothing (path : List String) (l : Listing) : l.without (fun _ => false) path = l := by
  simp only [without, filter_nothing, mapIdx_unchanged]

theorem Part.without_nothing (part : Part) : part.without (fun _ => false) = part := by
  cases part with
  | table name settings listings =>
    have hlistings : Listing.without (fun _ => false) [name] = id := funext (Listing.without_nothing [name])
    simp only [without, filter_nothing, hlistings, List.map_id]
  | listing l => rw [without, Listing.without_nothing]

theorem Outline.without_nothing (o : Outline) : o.without (fun _ => false) = o := by
  have hparts : Part.without (fun _ => false) = id := funext Part.without_nothing
  simp only [without, filter_nothing, hparts, List.map_id]

/-- The pieces of an outline are its lines. -/
theorem map_line_pieces (o : Outline) : o.pieces.map Piece.line = o.lines := by
  have hall : o.pieces.filter (Piece.stays fun _ => false) = o.pieces :=
    List.filter_eq_self.2 fun p _ => by simp [Piece.stays]
  have hlines : linesLeft (fun _ => false) o.pieces = (o.without fun _ => false).lines := linesLeft_outline o
  rwa [linesLeft, hall, o.without_nothing] at hlines

/-! ## What is left is laid out without fault -/

theorem Part.name_without (part : Part) : (part.without gone).name = part.name := by cases part <;> rfl

theorem Listing.WellFormed.without {l : Listing} (h : l.WellFormed) (path : List String) :
    (l.without gone path).WellFormed := by
  refine ⟨fun hnil => h.nonempty (List.mapIdx_eq_nil_iff.1 hnil), fun item hitem => ?_⟩
  obtain ⟨i, hi, rfl⟩ := List.mem_mapIdx.1 hitem
  exact (h.distinct _ (List.getElem_mem hi)).sublist (List.filter_sublist.map _)

theorem Part.WellFormed.without {part : Part} (h : part.WellFormed) : (part.without gone).WellFormed := by
  cases part with
  | table name settings listings =>
    obtain ⟨hdistinct, hlistings⟩ := h
    refine ⟨hdistinct.sublist ?_, ?_⟩
    · rw [List.map_map]
      exact (List.filter_sublist.map _).append (List.filter_sublist.map Listing.name)
    · intro l hl
      obtain ⟨l, hmem, rfl⟩ := List.mem_map.1 hl
      exact (hlistings l (List.mem_filter.1 hmem).1).without _
  | listing l => exact Listing.WellFormed.without h []

theorem wellFormed_without (ho : o.WellFormed) : (o.without gone).WellFormed := by
  refine ⟨ho.distinct.sublist ?_, ?_⟩
  · rw [Outline.without, List.map_map, Function.comp_def]
    simp only [Part.name_without]
    exact (List.filter_sublist.map _).append (List.filter_sublist.map _)
  · intro part hpart
    obtain ⟨part, hmem, rfl⟩ := List.mem_map.1 hpart
    exact (ho.parts part (List.mem_filter.1 hmem).1).without

/-! ## Cutting lines out of a text -/

/-- The lines of `gone` are cut out of a text, with their line breaks, and the others stay. An empty line may stay or
go. -/
inductive Cut (gone : Spot → Bool) : (pieces : List Piece) → (saved rest : List Char) → Prop
  | done : Cut gone [] [] []
  | gapStays {pieces : List Piece} {saved rest : List Char} :
    Cut gone pieces saved rest → Cut gone pieces ('\n' :: saved) ('\n' :: rest)
  | gapGoes {pieces : List Piece} {saved rest : List Char} :
    Cut gone pieces saved rest → Cut gone pieces ('\n' :: saved) rest
  | stays {p : Piece} {pieces : List Piece} {saved rest : List Char} (h : p.stays gone = true) :
    Cut gone pieces saved rest →
      Cut gone (p :: pieces) (p.line.chars ++ '\n' :: saved) (p.line.chars ++ '\n' :: rest)
  | goes {p : Piece} {pieces : List Piece} {saved rest : List Char} (h : p.stays gone = false) :
    Cut gone pieces saved rest → Cut gone (p :: pieces) (p.line.chars ++ '\n' :: saved) rest

theorem Cut.textOf (h : Cut gone pieces saved rest) : TextOf (linesLeft gone pieces) rest := by
  induction h with
  | done => exact .done
  | gapStays _ ih => exact ih.gap
  | gapGoes _ ih => exact ih
  | stays hstays _ ih =>
    rw [linesLeft, List.filter_cons_of_pos hstays]
    exact .line _ ih
  | goes hgoes _ ih =>
    rw [linesLeft, List.filter_cons_of_neg (Bool.eq_false_iff.1 hgoes)]
    exact ih

/-- Lines can be cut out of every text. -/
theorem exists_cut (gone : Spot → Bool) (h : TextOf (pieces.map Piece.line) saved) :
    ∃ rest, Cut gone pieces saved rest := by
  generalize hlines : pieces.map Piece.line = lines at h
  induction h generalizing pieces with
  | done =>
    obtain rfl := List.map_eq_nil_iff.1 hlines
    exact ⟨[], .done⟩
  | gap _ ih =>
    obtain ⟨rest, hrest⟩ := ih hlines
    exact ⟨rest, hrest.gapGoes⟩
  | line line _ ih =>
    obtain ⟨p, pieces, rfl, rfl, hpieces⟩ := List.map_eq_cons_iff.1 hlines
    obtain ⟨rest, hrest⟩ := ih hpieces
    cases hp : p.stays gone with
    | true => exact ⟨_, hrest.stays hp⟩
    | false => exact ⟨_, hrest.goes hp⟩

/-- What is left of the text of an outline is read as the document of what is left of the outline. -/
theorem read?_cut {text : String} (hcut : Cut gone o.pieces saved text.toList)
    (h : ∀ line ∈ o.lines, line.Writable) : Document.read? text = some (o.without gone).document := by
  have htext : TextOf (o.without gone).lines text.toList := linesLeft_outline o ▸ hcut.textOf
  refine read?_outline htext fun line hline => h line ?_
  rw [← linesLeft_outline, linesLeft] at hline
  rw [← map_line_pieces]
  exact (List.filter_sublist.map _).subset hline

/-! ## Looking up what is left -/

/-- A name that goes is not found, and the others are found as before. -/
theorem lookup_left {α : Type} {names : α → String} {entry : α → String × Node} (hentry : ∀ x, (entry x).1 = names x)
    (goes : String → Bool) (xs : List α) (name : String) :
    ((xs.filter fun x => !goes (names x)).map entry).lookup name =
      if goes name then none else (xs.map entry).lookup name := by
  induction xs with
  | nil => simp
  | cons x xs ih =>
    by_cases hname : name = names x
    · have hfound : (name == (entry x).1) = true := by rw [hentry]; exact beq_iff_eq.2 hname
      cases hgoes : goes name with
      | true => rw [List.filter_cons_of_neg (by simp [← hname, hgoes]), ih, hgoes]; rfl
      | false =>
        rw [List.filter_cons_of_pos (by simp [← hname, hgoes]), List.map_cons, List.map_cons, List.lookup_cons,
          List.lookup_cons, hfound]
        rfl
    · have hother : (name == (entry x).1) = false := by rw [hentry]; exact beq_false_of_ne hname
      rw [List.map_cons, List.lookup_cons, hother, ← ih, List.filter_cons]
      split
      · rw [List.map_cons, List.lookup_cons, hother]
      · rfl

theorem lookup_settings_left (goes : String → Bool) (settings : List Setting) (name : String) :
    (settingEntries (settings.filter fun s => !goes s.1)).lookup name =
      if goes name then none else (settingEntries settings).lookup name :=
  lookup_left (fun _ => rfl) goes settings name

theorem lookup_append_left {es es' left left' : Entries} {goes : Bool} {name : String}
    (h : left.lookup name = if goes then none else es.lookup name)
    (h' : left'.lookup name = if goes then none else es'.lookup name) :
    (left ++ left').lookup name = if goes then none else (es ++ es').lookup name := by
  rw [List.lookup_append, List.lookup_append, h, h']
  cases goes <;> rfl

/-- The entries of a table that stays, where its fields stay too. -/
def Part.entriesBelow (gone : Spot → Bool) (part : String) (settings : List Setting) (listings : List Listing) :
    Entries :=
  settingEntries settings ++ (listings.map (Listing.without gone [part])).map Listing.entry

theorem lookup_table_left (gone : Spot → Bool) (part : String) (settings : List Setting) (listings : List Listing)
    (name : String) :
    (settingEntries (settings.filter fun s => !gone (.field part s.1)) ++
      ((listings.filter fun l => !gone (.field part l.name)).map (Listing.without gone [part])).map
        Listing.entry).lookup name =
      if gone (.field part name) then none else (Part.entriesBelow gone part settings listings).lookup name := by
  refine lookup_append_left (lookup_settings_left (fun name => gone (.field part name)) settings name) ?_
  rw [List.map_map, List.map_map]
  exact lookup_left (fun _ => rfl) (fun name => gone (.field part name)) listings name

/-- The entries of an outline where its parts stay. -/
def Outline.entriesBelow (gone : Spot → Bool) (o : Outline) : Entries :=
  settingEntries o.top ++ (o.parts.map (Part.without gone)).map Part.entry

theorem lookup_outline_left (gone : Spot → Bool) (o : Outline) (name : String) :
    (o.without gone).entries.lookup name = if gone (.part name) then none else (o.entriesBelow gone).lookup name := by
  refine lookup_append_left (lookup_settings_left (fun name => gone (.part name)) o.top name) ?_
  rw [Outline.without, List.map_map, List.map_map]
  refine lookup_left (fun part => ?_) (fun name => gone (.part name)) o.parts name
  cases part <;> rfl

end SharedDesk.Toml
