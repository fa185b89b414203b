import SharedDesk.Proofs.Text.Digits
import SharedDesk.Uuid.Reader
/-!
# The spellings of an identifier

A text is read as an identifier exactly when it is one of its spellings (`ofChars?_eq_some_iff`): its 32 digits in any
letter case, in a row, in groups, in groups between braces, or in groups after `urn:uuid:`. The text that is
written for an identifier is the one in groups and in lower case, so it is read back (`ofChars?_chars`).
-/

namespace SharedDesk.Uuid

open Text (isHexDigit hexDigits valueOf)

variable {c : Char} {cs ds g : List Char} {gs : List (List Char)} {sizes : List Nat} {id : Uuid}

/-- The digits of an identifier, in any letter case. -/
def IsDigits (id : Uuid) (ds : List Char) : Prop := ds.map Char.toLower = hexDigits 32 id.toNat

/-- Digits in groups with hyphens between them. -/
def grouped (ds : List Char) : List Char := List.intercalate ['-'] (cut groupSizes ds)

/-- What an identifier may be spelled like. -/
inductive Spells (id : Uuid) : List Char → Prop
  | simple {ds : List Char} (h : id.IsDigits ds) : Spells id ds
  | hyphenated {ds : List Char} (h : id.IsDigits ds) : Spells id (grouped ds)
  | braced {ds : List Char} (h : id.IsDigits ds) : Spells id ('\x7b' :: grouped ds ++ ['\x7d'])
  | named {ds mark : List Char} (h : id.IsDigits ds) (hmark : mark.map Char.toLower = urn) :
    Spells id (mark ++ grouped ds)

/-! ## Digits -/

theorem isDigits_hexDigits (id : Uuid) : id.IsDigits (hexDigits 32 id.toNat) := by
  rw [IsDigits]
  exact (List.map_congr_left fun c hc => (Text.isHexDigit_of_mem_hexDigits hc).2).trans (List.map_id' _)

theorem IsDigits.length (h : id.IsDigits ds) : ds.length = 32 := by
  rw [← List.length_map Char.toLower, h, Text.length_hexDigits]

theorem IsDigits.isHexDigit (h : id.IsDigits ds) : ∀ c ∈ ds, isHexDigit c = true := by
  intro c hc
  have hlower : c.toLower ∈ hexDigits 32 id.toNat := by
    rw [← h]
    exact List.mem_map_of_mem hc
  rw [← Text.isHexDigit_toLower]
  exact (Text.isHexDigit_of_mem_hexDigits hlower).1

theorem ofNat_toNat (id : Uuid) : ofNat id.toNat = id := by
  cases id
  simp [ofNat, toNat]

theorem toNat_ofNat (n : Nat) : (ofNat n).toNat = n % 16 ^ 32 := by
  simp [ofNat, toNat]

/-- Digits are read as the identifier whose digits they are. -/
theorem ofDigits?_eq_some_iff : ofDigits? ds = some id ↔ id.IsDigits ds := by
  constructor
  · intro h
    unfold ofDigits? at h
    split at h
    · rename_i hds
      obtain ⟨hlength, hhex⟩ := hds
      obtain rfl := Option.some.inj h
      have hvalue := Text.hexDigits_valueOf (List.all_eq_true.1 hhex)
      rw [hlength] at hvalue
      rw [IsDigits, toNat_ofNat, Text.hexDigits_mod, hvalue]
    · cases h
  · intro h
    have hvalue : valueOf 16 ds = id.toNat := by
      rw [← Text.valueOf_toLower, h]
      exact Text.valueOf_hexDigits id.bits.isLt
    rw [ofDigits?, if_pos ⟨h.length, List.all_eq_true.2 h.isHexDigit⟩, hvalue, ofNat_toNat]

/-! ## Groups -/

theorem groups_of_not_mem (h : '-' ∉ g) : groups g = [g] := by
  induction g with
  | nil => rfl
  | cons c g ih =>
    have hc : c ≠ '-' := fun heq => h (heq ▸ List.mem_cons_self)
    rw [groups, if_neg hc, ih fun hmem => h (List.mem_cons_of_mem _ hmem)]

theorem groups_append (h : '-' ∉ g) (rest : List Char) : groups (g ++ '-' :: rest) = g :: groups rest := by
  induction g with
  | nil => rw [List.nil_append, groups, if_pos rfl]
  | cons c g ih =>
    have hc : c ≠ '-' := fun heq => h (heq ▸ List.mem_cons_self)
    rw [List.cons_append, groups, if_neg hc, ih fun hmem => h (List.mem_cons_of_mem _ hmem)]

theorem groups_intercalate (hsome : gs ≠ []) (h : ∀ g ∈ gs, '-' ∉ g) : groups (List.intercalate ['-'] gs) = gs := by
  induction gs with
  | nil => exact absurd rfl hsome
  | cons g gs ih =>
    have hg : '-' ∉ g := h g List.mem_cons_self
    cases gs with
    | nil => simpa using groups_of_not_mem hg
    | cons g' gs =>
      have hrest := ih (List.cons_ne_nil _ _) fun x hx => h x (List.mem_cons_of_mem _ hx)
      rw [List.intercalate_cons_cons, List.append_assoc, List.singleton_append, groups_append hg, hrest]

theorem groups_ne_nil (cs : List Char) : groups cs ≠ [] := by
  cases cs with
  | nil => nofun
  | cons c cs =>
    unfold groups
    split
    · nofun
    · split <;> nofun

theorem intercalate_groups (cs : List Char) : List.intercalate ['-'] (groups cs) = cs := by
  induction cs with
  | nil => rfl
  | cons c cs ih =>
    obtain ⟨g, gs, hgroups⟩ := List.exists_cons_of_ne_nil (groups_ne_nil cs)
    rw [hgroups] at ih
    rw [groups]
    split
    · rename_i hc
      rw [hgroups, List.intercalate_cons_cons, ih, hc]
      rfl
    · rw [hgroups]
      cases gs <;> simpa [List.intercalate_cons_cons] using ih

theorem cut_flatten (gs : List (List Char)) : cut (gs.map List.length) gs.flatten = gs := by
  induction gs with
  | nil => rfl
  | cons g gs ih => simp [cut, ih]

theorem flatten_cut (h : ds.length ≤ sizes.sum) : (cut sizes ds).flatten = ds := by
  induction sizes generalizing ds with
  | nil => simpa [cut] using h
  | cons n sizes ih =>
    rw [List.sum_cons] at h
    rw [cut, List.flatten_cons, ih (by rw [List.length_drop]; omega), List.take_append_drop]

theorem map_length_cut (h : sizes.sum ≤ ds.length) : (cut sizes ds).map List.length = sizes := by
  induction sizes generalizing ds with
  | nil => rfl
  | cons n sizes ih =>
    rw [List.sum_cons] at h
    rw [cut, List.map_cons, ih (by rw [List.length_drop]; omega), List.length_take, Nat.min_eq_left (by omega)]

theorem mem_of_mem_cut (hg : g ∈ cut sizes ds) (hc : c ∈ g) : c ∈ ds := by
  induction sizes generalizing ds with
  | nil => cases hg
  | cons n sizes ih =>
    rcases List.mem_cons.1 hg with rfl | hrest
    · exact List.mem_of_mem_take hc
    · exact List.mem_of_mem_drop (ih hrest)

/-- Groups are read as the identifier whose digits stand in them. -/
theorem ofGrouped?_eq_some_iff : ofGrouped? cs = some id ↔ ∃ ds, id.IsDigits ds ∧ cs = grouped ds := by
  constructor
  · intro h
    unfold ofGrouped? at h
    dsimp only at h
    split at h
    · rename_i hsizes
      refine ⟨(groups cs).flatten, ofDigits?_eq_some_iff.1 h, ?_⟩
      rw [grouped, ← hsizes, cut_flatten, intercalate_groups]
    · cases h
  · rintro ⟨ds, hds, rfl⟩
    have hlength : ds.length = groupSizes.sum := hds.length
    have hhyphen : ∀ g ∈ cut groupSizes ds, '-' ∉ g := by
      intro g hg hmem
      cases hds.isHexDigit '-' (mem_of_mem_cut hg hmem)
    have hgroups : groups (grouped ds) = cut groupSizes ds := groups_intercalate nofun hhyphen
    rw [ofGrouped?, hgroups, if_pos (map_length_cut (Nat.le_of_eq hlength.symm)), flatten_cut (Nat.le_of_eq hlength)]
    exact ofDigits?_eq_some_iff.2 hds

/-! ## Sizes -/

theorem byteSize_append (cs ds : List Char) : byteSize (cs ++ ds) = byteSize cs + byteSize ds := by
  induction cs with
  | nil => simp [byteSize]
  | cons c cs ih =>
    have hcons : ∀ xs, byteSize (c :: xs) = c.utf8Size + byteSize xs := fun _ => rfl
    rw [List.cons_append, hcons, hcons, ih, Nat.add_assoc]

/-- Nothing but characters of one byte. -/
def IsAscii (cs : List Char) : Prop := ∀ c ∈ cs, c.toNat < 128

instance (cs : List Char) : Decidable (IsAscii cs) :=
  decidable_of_iff (cs.all (fun c => c.toNat < 128) = true) (by simp [IsAscii])

theorem byteSize_eq_length (h : IsAscii cs) : byteSize cs = cs.length := by
  induction cs with
  | nil => rfl
  | cons c cs ih =>
    have hc : c.utf8Size = 1 := Char.utf8Size_eq_one_iff.2 (Nat.le_of_lt_succ (h c List.mem_cons_self))
    have hcons : byteSize (c :: cs) = c.utf8Size + byteSize cs := rfl
    rw [hcons, hc, ih fun x hx => h x (List.mem_cons_of_mem _ hx), List.length_cons, Nat.add_comm]

theorem IsAscii.append (h : IsAscii cs) (h' : IsAscii ds) : IsAscii (cs ++ ds) := fun c hc =>
  (List.mem_append.1 hc).elim (h c) (h' c)

theorem toNat_lt_of_toLower (h : c.toLower.toNat < 128) : c.toNat < 128 := by
  by_cases hupper : c.val ≥ 'A'.val ∧ c.val ≤ 'Z'.val
  · exact Nat.lt_of_le_of_lt hupper.2 (by decide)
  · have hsame : c.toLower = c := dif_neg hupper
    rwa [hsame] at h

theorem isAscii_of_toLower (h : IsAscii (cs.map Char.toLower)) : IsAscii cs := fun _ hc =>
  toNat_lt_of_toLower (h _ (List.mem_map_of_mem hc))

theorem IsDigits.isAscii (h : id.IsDigits ds) : IsAscii ds := by
  intro c hc
  obtain ⟨d, hd⟩ := Text.digitValue?_of_isHexDigit (h.isHexDigit c hc)
  exact Nat.lt_trans (Text.toNat_lt_of_digitValue? hd) (by decide)

theorem isAscii_intercalate (h : ∀ g ∈ gs, IsAscii g) : IsAscii (List.intercalate ['-'] gs) := by
  induction gs with
  | nil => nofun
  | cons g gs ih =>
    have hg : IsAscii g := h g List.mem_cons_self
    cases gs with
    | nil => simpa using hg
    | cons g' gs =>
      have hhyphen : IsAscii ['-'] := by
        intro c hc
        obtain rfl := List.mem_singleton.1 hc
        decide
      rw [List.intercalate_cons_cons]
      exact (hg.append hhyphen).append (ih fun x hx => h x (List.mem_cons_of_mem _ hx))

theorem IsDigits.isAscii_grouped (h : id.IsDigits ds) : IsAscii (grouped ds) :=
  isAscii_intercalate fun _ hg c hc => h.isAscii c (mem_of_mem_cut hg hc)

theorem IsDigits.length_grouped (h : id.IsDigits ds) : (grouped ds).length = 36 := by
  have hlength := h.length
  simp [grouped, cut, groupSizes, List.intercalate_cons_cons, hlength]

theorem IsDigits.byteSize_grouped (h : id.IsDigits ds) : byteSize (grouped ds) = 36 :=
  (byteSize_eq_length h.isAscii_grouped).trans h.length_grouped

/-! ## Whole texts -/

/-- Taking braces or `urn:uuid:` off leaves the rest. -/
theorem unwrap_cases (cs : List Char) : unwrap cs = cs ∨ cs = '\x7b' :: unwrap cs ++ ['\x7d'] ∨
    ∃ mark, mark.map Char.toLower = urn ∧ cs = mark ++ unwrap cs := by
  unfold unwrap
  split
  · unfold inBraces?
    split
    · split
      · rename_i hlast
        obtain ⟨front, rfl⟩ := List.getLast?_eq_some_iff.1 hlast
        exact .inr (.inl (by simp))
      · exact .inl rfl
    · exact .inl rfl
  · split
    · rename_i hmark
      exact .inr (.inr ⟨cs.take urn.length, eq_of_beq hmark.2, (List.take_append_drop _ _).symm⟩)
    · exact .inl rfl

theorem unwrap_grouped (h : id.IsDigits ds) : unwrap (grouped ds) = grouped ds := by
  simp [unwrap, h.byteSize_grouped]

theorem unwrap_braces (h : id.IsDigits ds) : unwrap ('\x7b' :: grouped ds ++ ['\x7d']) = grouped ds := by
  have hsize : byteSize ('\x7b' :: grouped ds ++ ['\x7d']) = 38 := by
    rw [byteSize_append, ← List.singleton_append, byteSize_append, h.byteSize_grouped]
    rfl
  rw [unwrap, if_pos hsize]
  simp [inBraces?]

theorem unwrap_named {mark : List Char} (hmark : mark.map Char.toLower = urn) (h : id.IsDigits ds) :
    unwrap (mark ++ grouped ds) = grouped ds := by
  have hlength : mark.length = urn.length := by rw [← List.length_map Char.toLower, hmark]
  have hascii : IsAscii mark := isAscii_of_toLower (by rw [hmark]; decide)
  have hsize : byteSize (mark ++ grouped ds) = 45 := by
    rw [byteSize_append, h.byteSize_grouped, byteSize_eq_length hascii, hlength]
    rfl
  have hstarts : startsWithUrn (mark ++ grouped ds) = true := by
    rw [startsWithUrn, List.take_left' hlength, hmark]
    exact beq_self_eq_true urn
  rw [unwrap, if_neg (by rw [hsize]; decide), if_pos ⟨hsize, hstarts⟩, List.drop_left' hlength]

theorem ofChars?_of_unwrap (h : id.IsDigits ds) (hcs : unwrap cs = grouped ds) : ofChars? cs = some id := by
  rw [ofChars?, hcs, if_pos h.byteSize_grouped]
  exact ofGrouped?_eq_some_iff.2 ⟨ds, h, rfl⟩

/-- A text is read as an identifier exactly when it spells it. -/
theorem ofChars?_eq_some_iff : ofChars? cs = some id ↔ id.Spells cs := by
  constructor
  · intro h
    unfold ofChars? at h
    dsimp only at h
    split at h
    · obtain ⟨ds, hds, hinner⟩ := ofGrouped?_eq_some_iff.1 h
      obtain hsame | hbraces | ⟨mark, hmark, hnamed⟩ := unwrap_cases cs
      · rw [← hsame, hinner]
        exact .hyphenated hds
      · rw [hbraces, hinner]
        exact .braced hds
      · rw [hnamed, hinner]
        exact .named hds hmark
    · split at h
      · exact .simple (ofDigits?_eq_some_iff.1 h)
      · cases h
  · intro h
    cases h with
    | simple h =>
      have hsize : byteSize cs = 32 := (byteSize_eq_length h.isAscii).trans h.length
      have hunwrap : unwrap cs = cs := by simp [unwrap, hsize]
      simp [ofChars?, hunwrap, hsize, ofDigits?_eq_some_iff.2 h]
    | hyphenated h => exact ofChars?_of_unwrap h (unwrap_grouped h)
    | braced h => exact ofChars?_of_unwrap h (unwrap_braces h)
    | named h hmark => exact ofChars?_of_unwrap h (unwrap_named hmark h)

/-- The text that is written for an identifier is read back. -/
theorem ofChars?_chars (id : Uuid) : ofChars? id.chars = some id :=
  ofChars?_eq_some_iff.2 (.hyphenated id.isDigits_hexDigits)

end SharedDesk.Uuid
