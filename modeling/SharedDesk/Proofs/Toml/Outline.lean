import SharedDesk.Proofs.Toml.Line
/-!
# Texts by their outline

An `Outline` is how a writer lays out a text: some settings, then tables with headers of their own, which may have
lists of tables below them, and lists of tables. Where no name is given twice, reading the lines of an outline
builds the tree that the outline stands for (`read?_outline`, `entries?_outline`): every header adds one entry
behind those that are there, and the elements of a list all go into one entry.
-/

namespace SharedDesk.Toml

/-- A name and the value that it is given. -/
abbrev Setting := String × Scalar

/-- A list of tables under one name, each by its settings. -/
structure Listing where
  name : String
  items : List (List Setting)

/-- What has a header: a table, perhaps with lists of tables below it, or a list of tables. -/
inductive Part
  | table (name : String) (settings : List Setting) (listings : List Listing)
  | listing (l : Listing)

/-- How a text is laid out. -/
structure Outline where
  /-- The settings before the first header. -/
  top : List Setting
  parts : List Part

/-! ## The lines of an outline, and its tree -/

/-- The lines of settings. -/
def settingLines (settings : List Setting) : List Line := settings.map fun s => .setting s.1 s.2

/-- The entries that settings make. -/
def settingEntries (settings : List Setting) : Entries := settings.map fun s => (s.1, s.2.node)

/-- Settings as they are assigned. -/
def assignments (settings : List Setting) : List (Key × Node) := settings.map fun s => (⟨[], s.1⟩, s.2.node)

namespace Listing

/-- The lines of a list of tables in the table at `path`. -/
def lines (path : List String) (l : Listing) : List Line :=
  l.items.flatMap fun item => .element ⟨path, l.name⟩ :: settingLines item

/-- The headers of a list of tables in the table at `path`. -/
def blocks (path : List String) (l : Listing) : List Block :=
  l.items.map fun item => ⟨true, ⟨path, l.name⟩, assignments item⟩

/-- The entry that a list of tables makes. -/
def entry (l : Listing) : String × Node := (l.name, .tables (l.items.map settingEntries))

/-- There is an element, and none has two settings of one name. -/
structure WellFormed (l : Listing) : Prop where
  nonempty : l.items ≠ []
  distinct : ∀ item ∈ l.items, (item.map Prod.fst).Nodup

end Listing

namespace Part

/-- The name of a part. -/
def name : Part → String
  | table name _ _ => name
  | listing l => l.name

/-- The lines of a part. -/
def lines : Part → List Line
  | table name settings listings =>
    .table ⟨[], name⟩ :: settingLines settings ++ listings.flatMap (Listing.lines [name])
  | listing l => l.lines []

/-- The headers of a part. -/
def blocks : Part → List Block
  | table name settings listings =>
    ⟨false, ⟨[], name⟩, assignments settings⟩ :: listings.flatMap (Listing.blocks [name])
  | listing l => l.blocks []

/-- The entry that a part makes. -/
def entry : Part → String × Node
  | table name settings listings => (name, .table .header (settingEntries settings ++ listings.map Listing.entry))
  | listing l => l.entry

/-- No name is given twice in a part. -/
def WellFormed : Part → Prop
  | table _ settings listings =>
    (settings.map Prod.fst ++ listings.map Listing.name).Nodup ∧ ∀ l ∈ listings, l.WellFormed
  | listing l => l.WellFormed

end Part

namespace Outline

/-- The lines of an outline. -/
def lines (o : Outline) : List Line := settingLines o.top ++ o.parts.flatMap Part.lines

/-- The document of an outline. -/
def document (o : Outline) : Document := ⟨assignments o.top, o.parts.flatMap Part.blocks⟩

/-- The tree of an outline. -/
def entries (o : Outline) : Entries := settingEntries o.top ++ o.parts.map Part.entry

/-- No name is given twice. -/
structure WellFormed (o : Outline) : Prop where
  distinct : (o.top.map Prod.fst ++ o.parts.map Part.name).Nodup
  parts : ∀ part ∈ o.parts, part.WellFormed

end Outline

variable {es sub : Entries} {name parent : String} {settings : List Setting} {l : Listing} {part : Part} {o : Outline}

/-! ## From lines to headers -/

/-- Lines that put headers before whatever headers follow. -/
def Adds (lines : List Line) (blocks : List Block) : Prop :=
  ∀ bs, (lines.map Line.statement).foldr Document.cons ⟨[], bs⟩ = ⟨[], blocks ++ bs⟩

theorem Adds.append {lines lines' : List Line} {blocks blocks' : List Block} (h : Adds lines blocks)
    (h' : Adds lines' blocks') : Adds (lines ++ lines') (blocks ++ blocks') := by
  intro bs
  rw [List.map_append, List.foldr_append, h' bs, h (blocks' ++ bs), List.append_assoc]

theorem adds_flatMap {α : Type} {xs : List α} {lines : α → List Line} {blocks : α → List Block}
    (h : ∀ x ∈ xs, Adds (lines x) (blocks x)) : Adds (xs.flatMap lines) (xs.flatMap blocks) := by
  induction xs with
  | nil => exact fun bs => rfl
  | cons x xs ih =>
    rw [List.flatMap_cons, List.flatMap_cons]
    exact (h x List.mem_cons_self).append (ih fun y hy => h y (List.mem_cons_of_mem _ hy))

theorem foldr_settingLines (settings : List Setting) (d : Document) :
    ((settingLines settings).map Line.statement).foldr Document.cons d =
      { d with top := assignments settings ++ d.top } := by
  induction settings with
  | nil => rfl
  | cons s settings ih =>
    change Document.cons _ (((settingLines settings).map Line.statement).foldr Document.cons d) = _
    rw [ih]
    rfl

theorem adds_table (key : Key) (settings : List Setting) :
    Adds (.table key :: settingLines settings) [⟨false, key, assignments settings⟩] := by
  intro bs
  rw [List.map_cons, List.foldr_cons, foldr_settingLines, List.append_nil]
  rfl

theorem adds_element (key : Key) (settings : List Setting) :
    Adds (.element key :: settingLines settings) [⟨true, key, assignments settings⟩] := by
  intro bs
  rw [List.map_cons, List.foldr_cons, foldr_settingLines, List.append_nil]
  rfl

theorem adds_listing (path : List String) (l : Listing) : Adds (l.lines path) (l.blocks path) := by
  have hblocks : l.blocks path = l.items.flatMap fun item => [⟨true, ⟨path, l.name⟩, assignments item⟩] := by
    rw [Listing.blocks, List.map_eq_flatMap]
  rw [hblocks]
  exact adds_flatMap fun item _ => adds_element _ item

theorem adds_part (part : Part) : Adds part.lines part.blocks := by
  cases part with
  | table name settings listings =>
    exact (adds_table ⟨[], name⟩ settings).append (adds_flatMap fun l _ => adds_listing [name] l)
  | listing l => exact adds_listing [] l

theorem ofStatements_outline (o : Outline) :
    Document.ofStatements (o.lines.map Line.statement) = o.document := by
  have hparts : Adds (o.parts.flatMap Part.lines) (o.parts.flatMap Part.blocks) :=
    adds_flatMap fun part _ => adds_part part
  rw [Document.ofStatements, Outline.lines, List.map_append, List.foldr_append, hparts [], foldr_settingLines]
  simp [Outline.document]

/-- A text of the lines of an outline is read as its document. -/
theorem read?_outline {text : String} (htext : TextOf o.lines text.toList) (h : ∀ line ∈ o.lines, line.Writable) :
    Document.read? text = some o.document := by
  rw [read?_textOf htext h, ofStatements_outline]

/-! ## From headers to the tree -/

theorem lookup_eq_none (h : name ∉ es.map Prod.fst) : es.lookup name = none := by
  rw [List.lookup_eq_none_iff]
  intro e he
  have hne : name ≠ e.1 := fun heq => h (List.mem_map.2 ⟨e, he, heq.symm⟩)
  simp [hne]

theorem lookup_concat (h : name ∉ es.map Prod.fst) (node : Node) : (es ++ [(name, node)]).lookup name = some node := by
  simp [List.lookup_append, lookup_eq_none h]

theorem put_concat (h : name ∉ es.map Prod.fst) (node node' : Node) :
    Entries.put (es ++ [(name, node)]) name node' = es ++ [(name, node')] := by
  have hothers : es.map (fun e => if e.1 = name then (name, node') else e) = es := by
    refine (List.map_congr_left fun e he => if_neg fun heq => ?_).trans (List.map_id' es)
    exact h (List.mem_map.2 ⟨e, he, heq⟩)
  rw [Entries.put, List.map_append, hothers]
  simp

theorem assign_free (h : name ∉ es.map Prod.fst) (node : Node) :
    es.assign ⟨[], name⟩ node = some (es ++ [(name, node)]) := by
  simp [Entries.assign, Entries.within, lookup_eq_none h]

/-- Settings of new names go behind the entries that are there. -/
theorem assignAll_assignments (es : Entries) (h : (es.map Prod.fst ++ settings.map Prod.fst).Nodup) :
    es.assignAll (assignments settings) = some (es ++ settingEntries settings) := by
  induction settings generalizing es with
  | nil => simp [Entries.assignAll, assignments, settingEntries]
  | cons s settings ih =>
    have hfree : s.1 ∉ es.map Prod.fst := fun hmem =>
      (List.nodup_append.1 h).2.2 s.1 hmem s.1 (by simp) rfl
    have hrest : ((es ++ [(s.1, s.2.node)]).map Prod.fst ++ settings.map Prod.fst).Nodup := by simpa using h
    have hassign : es.assignAll (assignments (s :: settings)) =
        (es ++ [(s.1, s.2.node)] : Entries).assignAll (assignments settings) := by
      simp [Entries.assignAll, assignments, assign_free hfree]
    rw [hassign, ih _ hrest]
    simp [settingEntries]

theorem assignAll_alone (hs : (settings.map Prod.fst).Nodup) :
    Entries.assignAll [] (assignments settings) = some (settingEntries settings) :=
  assignAll_assignments [] hs

theorem define_free (hname : name ∉ es.map Prod.fst) (hs : (settings.map Prod.fst).Nodup) :
    es.define ⟨[], name⟩ (assignments settings) = some (es ++ [(name, .table .header (settingEntries settings))]) := by
  simp [Entries.define, Entries.within, lookup_eq_none hname, assignAll_alone hs]

theorem append_free (hname : name ∉ es.map Prod.fst) (hs : (settings.map Prod.fst).Nodup) :
    es.append ⟨[], name⟩ (assignments settings) = some (es ++ [(name, .tables [settingEntries settings])]) := by
  simp [Entries.append, Entries.within, lookup_eq_none hname, assignAll_alone hs]

theorem append_tables (hname : name ∉ es.map Prod.fst) (hs : (settings.map Prod.fst).Nodup) (items : List Entries) :
    (es ++ [(name, .tables items)] : Entries).append ⟨[], name⟩ (assignments settings) =
      some (es ++ [(name, .tables (items ++ [settingEntries settings]))]) := by
  simp [Entries.append, Entries.within, lookup_concat hname, put_concat hname, assignAll_alone hs]

/-- The elements of a list all go into its entry. -/
theorem foldlM_elements (hname : name ∉ es.map Prod.fst) {items : List (List Setting)}
    (hitems : ∀ item ∈ items, (item.map Prod.fst).Nodup) (before : List Entries) :
    (items.map fun item => (⟨true, ⟨[], name⟩, assignments item⟩ : Block)).foldlM Document.addBlock
        (es ++ [(name, .tables before)]) =
      some (es ++ [(name, .tables (before ++ items.map settingEntries))]) := by
  induction items generalizing before with
  | nil => simp
  | cons item items ih =>
    have hitem : (item.map Prod.fst).Nodup := hitems item List.mem_cons_self
    have hrest := ih (fun i hi => hitems i (List.mem_cons_of_mem _ hi)) (before ++ [settingEntries item])
    simp [Document.addBlock, append_tables hname hitem, hrest]

theorem foldlM_listing (hname : l.name ∉ es.map Prod.fst) (hl : l.WellFormed) :
    (l.blocks []).foldlM Document.addBlock es = some (es ++ [l.entry]) := by
  obtain ⟨name, items⟩ := l
  obtain ⟨hnonempty, hdistinct⟩ := hl
  cases items with
  | nil => exact absurd rfl hnonempty
  | cons item items =>
    have hitem : (item.map Prod.fst).Nodup := hdistinct item List.mem_cons_self
    have hrest := foldlM_elements hname (fun i hi => hdistinct i (List.mem_cons_of_mem _ hi)) [settingEntries item]
    simp [Listing.blocks, Listing.entry, Document.addBlock, append_free hname hitem, hrest]

/-- A header below a table. -/
def Block.below (parent : String) (b : Block) : Block :=
  { b with key := { b.key with parents := parent :: b.key.parents } }

/-- A header below the last table changes nothing but that table. -/
theorem addBlock_below (h : parent ∉ es.map Prod.fst) (sub : Entries) (b : Block) :
    Document.addBlock (es ++ [(parent, .table .header sub)]) (b.below parent) =
      (Document.addBlock sub b).map fun sub => es ++ [(parent, .table .header sub)] := by
  cases hb : b.repeated <;>
    simp [Document.addBlock, Block.below, hb, Entries.append, Entries.define, Entries.within, lookup_concat h,
      put_concat h]

theorem foldlM_below (h : parent ∉ es.map Prod.fst) (sub : Entries) (bs : List Block) :
    (bs.map (Block.below parent)).foldlM Document.addBlock (es ++ [(parent, .table .header sub)]) =
      (bs.foldlM Document.addBlock sub).map fun sub => es ++ [(parent, .table .header sub)] := by
  induction bs generalizing sub with
  | nil => rfl
  | cons b bs ih =>
    rw [List.map_cons, List.foldlM_cons, List.foldlM_cons, addBlock_below h]
    cases Document.addBlock sub b with
    | none => rfl
    | some sub => exact ih sub

theorem blocks_below (parent : String) (path : List String) (l : Listing) :
    l.blocks (parent :: path) = (l.blocks path).map (Block.below parent) := by
  simp [Listing.blocks, Block.below, Function.comp_def]

/-- What adds one entry each adds its entries in their order. -/
theorem foldlM_each {α : Type} {xs : List α} {names : α → String} {blocks : α → List Block}
    {entry : α → String × Node} (hentry : ∀ x, (entry x).1 = names x)
    (hstep : ∀ x ∈ xs, ∀ es : Entries, names x ∉ es.map Prod.fst →
      (blocks x).foldlM Document.addBlock es = some (es ++ [entry x]))
    (hnames : (es.map Prod.fst ++ xs.map names).Nodup) :
    (xs.flatMap blocks).foldlM Document.addBlock es = some (es ++ xs.map entry) := by
  induction xs generalizing es with
  | nil => simp
  | cons x xs ih =>
    have hfree : names x ∉ es.map Prod.fst := fun hmem =>
      (List.nodup_append.1 hnames).2.2 (names x) hmem (names x) (by simp) rfl
    have hrest : ((es ++ [entry x]).map Prod.fst ++ xs.map names).Nodup := by simpa [hentry] using hnames
    have htail := ih (fun y hy => hstep y (List.mem_cons_of_mem _ hy)) hrest
    rw [List.flatMap_cons, List.foldlM_append, hstep x List.mem_cons_self es hfree]
    simpa using htail

theorem foldlM_listings {listings : List Listing} (hnames : (es.map Prod.fst ++ listings.map Listing.name).Nodup)
    (hlistings : ∀ l ∈ listings, l.WellFormed) :
    (listings.flatMap (Listing.blocks [])).foldlM Document.addBlock es = some (es ++ listings.map Listing.entry) :=
  foldlM_each (fun _ => rfl) (fun l hl _ hname => foldlM_listing hname (hlistings l hl)) hnames

/-- A part adds its entry behind those that are there. -/
theorem foldlM_part (hname : part.name ∉ es.map Prod.fst) (hpart : part.WellFormed) :
    part.blocks.foldlM Document.addBlock es = some (es ++ [part.entry]) := by
  cases part with
  | table name settings listings =>
    obtain ⟨hnames, hlistings⟩ := hpart
    have hfree : name ∉ es.map Prod.fst := hname
    have hsettings : (settings.map Prod.fst).Nodup := (List.nodup_append.1 hnames).1
    have hheader : Document.addBlock es ⟨false, ⟨[], name⟩, assignments settings⟩ =
        some (es ++ [(name, .table .header (settingEntries settings))]) := by
      simp [Document.addBlock, define_free hfree hsettings]
    have hblocks : listings.flatMap (Listing.blocks [name]) =
        (listings.flatMap (Listing.blocks [])).map (Block.below name) := by
      rw [List.map_flatMap, funext (blocks_below name [])]
    have hentries : ((settingEntries settings).map Prod.fst ++ listings.map Listing.name).Nodup := by
      simpa [settingEntries, Function.comp_def] using hnames
    rw [Part.blocks, List.foldlM_cons, hheader, hblocks]
    simp [foldlM_below hfree, foldlM_listings hentries hlistings, Part.entry]
  | listing l => exact foldlM_listing hname hpart

theorem foldlM_parts {parts : List Part} (hnames : (es.map Prod.fst ++ parts.map Part.name).Nodup)
    (hparts : ∀ part ∈ parts, part.WellFormed) :
    (parts.flatMap Part.blocks).foldlM Document.addBlock es = some (es ++ parts.map Part.entry) :=
  foldlM_each (fun part => by cases part <;> rfl) (fun p hp _ hname => foldlM_part hname (hparts p hp)) hnames

/-- The document of an outline describes its tree. -/
theorem entries?_outline (ho : o.WellFormed) : o.document.entries? = some o.entries := by
  obtain ⟨hdistinct, hparts⟩ := ho
  have htop : (o.top.map Prod.fst).Nodup := (List.nodup_append.1 hdistinct).1
  have hnames : ((settingEntries o.top).map Prod.fst ++ o.parts.map Part.name).Nodup := by
    simpa [settingEntries, Function.comp_def] using hdistinct
  simp [Document.entries?, Outline.document, assignAll_alone htop, foldlM_parts hnames hparts, Outline.entries]

end SharedDesk.Toml
