import SharedDesk.Proofs.Toml.Scalar
/-!
# Lines survive being written

A line whose names need no quotes is read back as the statement it means, up to its line break
(`readLine?_chars`), and a whole text as the statements of its lines in their order (`read?_textOf`). Empty lines
between them say nothing, and cost the reader one round each.
-/

namespace SharedDesk.Toml

variable {c : Char} {cs rest : List Char} {name : String} {k : Key} {line : Line} {lines : List Line} {limit : Nat}

/-! ## Names and keys -/

/-- A name that needs no quotes. -/
def IsBareName (name : String) : Prop := name.toList ≠ [] ∧ ∀ c ∈ name.toList, isBare c = true

instance (name : String) : Decidable (IsBareName name) :=
  decidable_of_iff (name.toList ≠ [] ∧ name.toList.all isBare = true) (by rw [IsBareName, List.all_eq_true])

/-- A key of such names, and not too many of them. -/
structure Key.IsBare (k : Key) : Prop where
  short : k.parents.length < deepest
  parents : ∀ name ∈ k.parents, IsBareName name
  name : IsBareName k.name

/-- A line that can be written. -/
def Line.Writable : Line → Prop
  | .setting name value => IsBareName name ∧ value.Writable
  | .table path => path.IsBare
  | .element path => path.IsBare

/-- A text goes on with something that belongs to no name. -/
def EndsName (rest : List Char) : Prop := ∀ c ∈ rest.head?, isBare c = false

theorem ne_of_isBare (h : isBare c = true) {d : Char} (hd : isBare d = false) : c ≠ d := by
  rintro rfl
  cases h.symm.trans hd

theorem not_isSpace_of_isBare (h : isBare c = true) : isSpace c = false := by
  have hblank : c ≠ ' ' := ne_of_isBare h (by decide)
  have htab : c ≠ '\t' := ne_of_isBare h (by decide)
  simp [isSpace, hblank, htab]

theorem IsBareName.exists_cons (h : IsBareName name) : ∃ c cs, name.toList = c :: cs ∧ isBare c = true := by
  obtain ⟨hsome, hall⟩ := h
  cases hname : name.toList with
  | nil => exact absurd hname hsome
  | cons c cs => exact ⟨c, cs, rfl, hall c (by rw [hname]; exact List.mem_cons_self)⟩

theorem readName?_append (h : IsBareName name) (hrest : EndsName rest) :
    readName? (name.toList ++ rest) = some (name, rest) := by
  have htake : (name.toList ++ rest).takeWhile isBare = name.toList := by
    rw [List.takeWhile_append_of_pos h.2]
    cases rest with
    | nil => simp
    | cons c rest => simp [hrest c rfl]
  have hdrop : (name.toList ++ rest).dropWhile isBare = rest := by
    rw [List.dropWhile_append_of_pos h.2]
    cases rest with
    | nil => simp
    | cons c rest => simp [hrest c rfl]
  obtain ⟨c, cs, hname, hc⟩ := h.exists_cons
  have hdouble : c ≠ '"' := ne_of_isBare hc (by decide)
  have hsingle : c ≠ '\'' := ne_of_isBare hc (by decide)
  rw [hname, List.cons_append] at htake hdrop ⊢
  rw [readName?]
  · rw [htake, hdrop, ← hname, String.ofList_toList]
    simp [hname]
  · exact fun _ heq => hdouble (List.cons.inj heq).1
  · exact fun _ heq => hsingle (List.cons.inj heq).1

theorem skipSpaces_append (h : IsBareName name) (rest : List Char) :
    skipSpaces (name.toList ++ rest) = name.toList ++ rest := by
  obtain ⟨c, cs, hname, hc⟩ := h.exists_cons
  rw [hname, List.cons_append, skipSpaces, List.dropWhile_cons_of_neg (by simp [not_isSpace_of_isBare hc])]

theorem render_cons (parent : String) (parents : List String) (name : String) :
    Key.render ⟨parent :: parents, name⟩ = parent.toList ++ '.' :: Key.render ⟨parents, name⟩ := by
  cases parents <;> simp [Key.render, List.intercalate_cons_cons]

theorem endsName_dot (rest : List Char) : EndsName ('.' :: rest) := by
  intro c hc
  obtain rfl : '.' = c := Option.some.inj hc
  decide

theorem readKey?_names {parents : List String} (hparents : ∀ parent ∈ parents, IsBareName parent)
    (hname : IsBareName name) (hends : EndsName rest) (hdot : ∀ cs, skipSpaces rest ≠ '.' :: cs)
    (hlimit : parents.length < limit) :
    readKey? limit (Key.render ⟨parents, name⟩ ++ rest) = some (⟨parents, name⟩, skipSpaces rest) := by
  induction parents generalizing limit with
  | nil =>
    obtain ⟨limit, rfl⟩ := Nat.exists_eq_add_one_of_ne_zero (Nat.ne_of_gt hlimit)
    have hrender : Key.render ⟨[], name⟩ = name.toList := by simp [Key.render]
    simp only [readKey?, hrender, skipSpaces_append hname, readName?_append hname hends, Option.bind_eq_bind,
      Option.bind_some]
  | cons parent parents ih =>
    obtain ⟨limit, rfl⟩ := Nat.exists_eq_add_one_of_ne_zero (Nat.ne_of_gt (Nat.zero_lt_of_lt hlimit))
    have hparent : IsBareName parent := hparents parent List.mem_cons_self
    have hrest : readKey? limit (Key.render ⟨parents, name⟩ ++ rest) = _ :=
      ih (fun p hp => hparents p (List.mem_cons_of_mem _ hp)) (by simpa using hlimit)
    have hskip : ∀ cs, skipSpaces ('.' :: cs) = '.' :: cs := fun cs => rfl
    simp [readKey?, render_cons, skipSpaces_append hparent, readName?_append hparent (endsName_dot _), hskip, hrest]

theorem Key.IsBare.exists_cons (hk : k.IsBare) : ∃ c cs, k.render = c :: cs ∧ isBare c = true := by
  obtain ⟨parents, name⟩ := k
  cases parents with
  | nil =>
    obtain ⟨c, cs, hname, hc⟩ := hk.name.exists_cons
    exact ⟨c, cs, by simpa [Key.render] using hname, hc⟩
  | cons parent parents =>
    obtain ⟨c, cs, hparent, hc⟩ := (hk.parents parent List.mem_cons_self).exists_cons
    exact ⟨c, _, by rw [render_cons, hparent, List.cons_append], hc⟩

/-- A key is read up to what follows it, blanks aside. -/
theorem readKey?_render (hk : k.IsBare) (hends : EndsName rest) (hdot : ∀ cs, skipSpaces rest ≠ '.' :: cs) :
    readKey? deepest (k.render ++ rest) = some (k, skipSpaces rest) :=
  readKey?_names hk.parents hk.name hends hdot hk.short

/-! ## One line -/

theorem lineEnd?_newline (rest : List Char) : lineEnd? ('\n' :: rest) = some rest := rfl

theorem readHeader?_render (hk : k.IsBare) (closing rest : List Char) :
    Statement.readHeader? (']' :: closing) (k.render ++ ((']' :: closing) ++ '\n' :: rest)) = some (k, rest) := by
  have hkey : readKey? deepest (k.render ++ ((']' :: closing) ++ '\n' :: rest)) =
      some (k, (']' :: closing) ++ '\n' :: rest) := by
    refine readKey?_render hk ?_ ?_
    · intro c hc
      obtain rfl : ']' = c := Option.some.inj hc
      decide
    · exact fun cs heq => nomatch (List.cons.inj heq).1
  have hclosing : (']' :: closing).isPrefixOf ((']' :: closing) ++ '\n' :: rest) = true :=
    List.isPrefixOf_iff_prefix.2 (List.prefix_append _ _)
  rw [Statement.readHeader?, hkey]
  simp only [Option.bind_eq_bind, Option.bind_some, hclosing, if_true, List.drop_left, lineEnd?_newline]

theorem skipSpaces_render (s : Scalar) (rest : List Char) : skipSpaces (s.render ++ rest) = s.render ++ rest := by
  suffices hhead : ∃ c cs, s.render = c :: cs ∧ isSpace c = false by
    obtain ⟨c, cs, hs, hc⟩ := hhead
    rw [hs, List.cons_append, skipSpaces, List.dropWhile_cons_of_neg (by simp [hc])]
  cases s with
  | string text =>
    obtain ⟨q, cs, hwrite, hq⟩ := head_write text.toList
    exact ⟨q, cs, hwrite, by obtain rfl | rfl := hq <;> rfl⟩
  | integer n =>
    obtain ⟨c, cs, hn, hc⟩ := head_integer n
    refine ⟨c, cs, hn, ?_⟩
    obtain rfl | hdigit := hc
    · rfl
    · have hblank : c ≠ ' ' := ne_of_isDecimalDigit hdigit (by decide)
      have htab : c ≠ '\t' := ne_of_isDecimalDigit hdigit (by decide)
      simp [isSpace, hblank, htab]
  | boolean b => cases b <;> exact ⟨_, _, rfl, rfl⟩
  | emptyList => exact ⟨_, _, rfl, rfl⟩

theorem readSetting?_chars (hname : IsBareName name) (s : Scalar) (hs : s.Writable) (rest : List Char) :
    readSetting? (readValue? deepest) ((Line.setting name s).chars ++ '\n' :: rest) =
      some ((⟨[], name⟩, s.node), '\n' :: rest) := by
  have hkey : readKey? deepest (name.toList ++ (" = ".toList ++ s.render ++ '\n' :: rest)) =
      some (⟨[], name⟩, '=' :: ' ' :: s.render ++ '\n' :: rest) := by
    have hrender : Key.render ⟨[], name⟩ = name.toList := by simp [Key.render]
    rw [← hrender]
    refine readKey?_render ⟨Nat.zero_lt_succ _, nofun, hname⟩ ?_ ?_
    · intro c hc
      obtain rfl : ' ' = c := Option.some.inj hc
      decide
    · exact fun cs heq => nomatch (List.cons.inj heq).1
  have hvalue : skipSpaces (' ' :: (s.render ++ '\n' :: rest)) = s.render ++ '\n' :: rest := skipSpaces_render s _
  rw [readSetting?, Line.chars, List.append_assoc, List.append_assoc, ← List.append_assoc " = ".toList, hkey]
  simp [expect, hvalue, readValue?_render s hs]

/-- A line is read as what it means. -/
theorem readLine?_chars (h : line.Writable) (rest : List Char) :
    Statement.readLine? (line.chars ++ '\n' :: rest) = some (some line.statement, rest) := by
  cases line with
  | setting name value =>
    obtain ⟨hname, hvalue⟩ := h
    have hsetting := readSetting?_chars hname value hvalue rest
    obtain ⟨c, cs, hchars, hc⟩ := hname.exists_cons
    have hother : ∀ d, isBare d = false → c ≠ d := fun d hd => ne_of_isBare hc hd
    rw [Line.chars, hchars, List.cons_append, List.cons_append, List.cons_append] at hsetting ⊢
    rw [Statement.readLine?, hsetting]
    · rfl
    · exact fun _ heq => hother '#' (by decide) (List.cons.inj heq).1
    · exact fun _ heq => hother '\n' (by decide) (List.cons.inj heq).1
    · exact fun _ heq => hother '\r' (by decide) (List.cons.inj heq).1
    · exact fun _ heq => hother '[' (by decide) (List.cons.inj heq).1
    · exact fun _ heq => hother '[' (by decide) (List.cons.inj heq).1
  | table path =>
    have hheader := readHeader?_render h [] rest
    obtain ⟨c, cs, hpath, hc⟩ := h.exists_cons
    have hbracket : c ≠ '[' := ne_of_isBare hc (by decide)
    simp only [Line.chars, List.cons_append, List.append_assoc, List.nil_append] at hheader ⊢
    rw [hpath, List.cons_append] at hheader ⊢
    rw [Statement.readLine?, hheader]
    · rfl
    · exact fun _ heq => hbracket (List.cons.inj heq).1
  | element path =>
    have hheader := readHeader?_render h [']'] rest
    simp only [Line.chars, List.cons_append, List.append_assoc, List.nil_append] at hheader ⊢
    rw [Statement.readLine?, hheader]
    rfl

/-! ## All lines -/

/-- A text of lines: they come in their order, each with its line break, and empty lines may stand between them. -/
inductive TextOf : List Line → List Char → Prop
  | done : TextOf [] []
  | gap {lines : List Line} {text : List Char} : TextOf lines text → TextOf lines ('\n' :: text)
  | line {lines : List Line} {text : List Char} (line : Line) :
    TextOf lines text → TextOf (line :: lines) (line.chars ++ '\n' :: text)

theorem textOf_spaced (lines : List Line) : TextOf lines (lines.flatMap Line.spaced) := by
  induction lines with
  | nil => exact .done
  | cons line lines ih =>
    have hline : TextOf (line :: lines) (line.chars ++ '\n' :: lines.flatMap Line.spaced) := .line line ih
    rw [List.flatMap_cons]
    cases line with
    | setting name value => simpa [Line.spaced] using hline
    | table path => simpa [Line.spaced] using hline.gap
    | element path => simpa [Line.spaced] using hline.gap

theorem textOf_render (lines : List Line) : TextOf lines (Line.render lines) := by
  cases lines with
  | nil => exact .done
  | cons line lines => exact .line line (textOf_spaced lines)

/-- What a line begins with is neither a blank nor a byte order mark. -/
theorem Line.Writable.exists_cons (h : line.Writable) :
    ∃ c cs, line.chars = c :: cs ∧ isSpace c = false ∧ c ≠ '\uFEFF' := by
  cases line with
  | setting name value =>
    obtain ⟨c, cs, hname, hc⟩ := h.1.exists_cons
    exact ⟨c, _, by rw [Line.chars, hname, List.cons_append, List.cons_append], not_isSpace_of_isBare hc,
      ne_of_isBare hc (by decide)⟩
  | table path => exact ⟨'[', _, rfl, rfl, by decide⟩
  | element path => exact ⟨'[', _, rfl, rfl, by decide⟩

namespace Statement

theorem readAll_line (h : line.Writable) (rounds : Nat) :
    readAll (rounds + 1) (line.chars ++ '\n' :: rest) = (readAll rounds rest).map (line.statement :: ·) := by
  have hline := readLine?_chars h rest
  obtain ⟨c, cs, hchars, hspace, -⟩ := h.exists_cons
  rw [hchars, List.cons_append] at hline ⊢
  have hskip : skipSpaces (c :: (cs ++ '\n' :: rest)) = c :: (cs ++ '\n' :: rest) := by
    rw [skipSpaces, List.dropWhile_cons_of_neg (by simp [hspace])]
  rw [readAll, hskip]
  simp only [hline, Option.bind_eq_bind, Option.bind_some]
  cases readAll rounds rest <;> rfl

theorem readAll_empty (rounds : Nat) (rest : List Char) :
    readAll (rounds + 1) ('\n' :: rest) = readAll rounds rest := by
  have hskip : skipSpaces ('\n' :: rest) = '\n' :: rest := rfl
  have hline : readLine? ('\n' :: rest) = some (none, rest) := rfl
  rw [readAll, hskip]
  simp only [hline, Option.bind_eq_bind, Option.bind_some]
  cases readAll rounds rest <;> rfl

/-- As many rounds as there are characters read every line. -/
theorem readAll_textOf {rounds : Nat} (htext : TextOf lines cs) (h : ∀ line ∈ lines, line.Writable)
    (hrounds : cs.length ≤ rounds) : readAll rounds cs = some (lines.map Line.statement) := by
  induction htext generalizing rounds with
  | done => cases rounds <;> rfl
  | gap _ ih =>
    obtain ⟨n, rfl⟩ : ∃ n, rounds = n + 1 := ⟨rounds - 1, by simp at hrounds; omega⟩
    rw [readAll_empty]
    exact ih h (by simpa using hrounds)
  | line line _ ih =>
    obtain ⟨n, rfl⟩ : ∃ n, rounds = n + 1 := ⟨rounds - 1, by simp at hrounds; omega⟩
    rw [readAll_line (h line List.mem_cons_self),
      ih (fun l hl => h l (List.mem_cons_of_mem _ hl)) (by simp at hrounds; omega)]
    rfl

end Statement

theorem dropMark_eq {cs : List Char} (h : cs.head? ≠ some '\uFEFF') : Document.dropMark cs = cs := by
  cases cs with
  | nil => rfl
  | cons c cs =>
    rw [Document.dropMark]
    exact fun _ heq => h (by rw [(List.cons.inj heq).1]; rfl)

theorem TextOf.head_ne_mark (htext : TextOf lines cs) (h : ∀ line ∈ lines, line.Writable) :
    cs.head? ≠ some '\uFEFF' := by
  cases htext with
  | done => nofun
  | gap => exact fun heq => absurd (Option.some.inj heq) (by decide)
  | line line =>
    obtain ⟨c, cs, hchars, -, hmark⟩ := (h line List.mem_cons_self).exists_cons
    rw [hchars]
    exact fun heq => hmark (Option.some.inj heq)

/-- A text of lines is read as what the lines mean. -/
theorem read?_textOf {text : String} (htext : TextOf lines text.toList) (h : ∀ line ∈ lines, line.Writable) :
    Document.read? text = some (Document.ofStatements (lines.map Line.statement)) := by
  rw [Document.read?]
  rw [dropMark_eq (htext.head_ne_mark h), Statement.readAll_textOf htext h (Nat.le_refl _)]
  rfl

end SharedDesk.Toml
