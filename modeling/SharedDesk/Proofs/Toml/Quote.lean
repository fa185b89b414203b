import SharedDesk.Toml.Quote
/-!
# Strings survive being written

Whatever form `Quote.write` chooses for a text, `readString?` reads that text back and stops behind the closing
quotes, unless another quote follows them (`readString?_write`). Between double quotes every character is there
itself or behind an escape (`Stands`). Between tripled quotes no more than two quotes come in a row, so in front
of what is left to read there are never just three of them but at the end (`readMultiBasic_quote`).
-/

namespace SharedDesk.Toml

open Quote (longestRun)

variable {c q : Char} {cs rest text : List Char} {run : Nat}

theorem ne_of_isPlain (h : isPlain c = true) : c ≠ '\n' ∧ c ≠ '\r' := by
  constructor <;> rintro rfl <;> cases h

/-! ## One character between double quotes -/

/-- A text stands for a character between double quotes. -/
inductive Stands (c : Char) : List Char → Prop
  | short {e : Char} : shortEscape? e = some c → Stands c ['\\', e]
  | hex {i j k l : Char} : hexChar? [i, j, k, l] = some c → Stands c ['\\', 'u', i, j, k, l]
  | plain : isPlain c = true → c ≠ '\\' → c ≠ '"' → Stands c [c]

theorem readBasic_of_stands (h : Stands c text) (rest : List Char) :
    readBasic (text ++ rest) = found c (readBasic rest) := by
  cases h with
  | short he =>
    unfold shortEscape? at he
    split at he <;> cases he <;> simp [readBasic, shortEscape?]
  | hex hc => simp [readBasic, hc]
  | plain hplain hslash hquote => simp [readBasic, hplain, hslash]

theorem readMultiBasic_of_stands (h : Stands c text) (rest : List Char) :
    readMultiBasic false (text ++ rest) = found c (readMultiBasic false rest) := by
  cases h with
  | short he =>
    unfold shortEscape? at he
    split at he <;> cases he <;> simp [readMultiBasic, shortEscape?]
  | hex hc => simp [readMultiBasic, hc]
  | plain hplain hslash hquote =>
    obtain ⟨hbreak, hreturn⟩ := ne_of_isPlain hplain
    simp [readMultiBasic, hplain, hslash, hquote, hreturn]

/-- Characters that may not stand in a comment have an escape, but for the line break. -/
theorem isPlain_of_writable (h : Quote.isUnwritable c = false) (hbreak : c ≠ '\n') : isPlain c = true := by
  simp only [Quote.isUnwritable, Bool.or_eq_false_iff, Bool.and_eq_false_iff, decide_eq_false_iff_not,
    bne_eq_false_iff_eq, beq_eq_false_iff_ne] at h
  obtain ⟨(hcode | rfl) | rfl, hdelete⟩ := h
  · rw [isPlain, Bool.or_eq_true, Bool.and_eq_true, decide_eq_true_eq, decide_eq_true_eq]
    exact .inr ⟨by omega, hdelete⟩
  · rfl
  · exact absurd rfl hbreak

theorem hexChar?_upper (h : Quote.isUnwritable c = true) :
    hexChar? ((Text.hexDigits 4 c.toNat).map Char.toUpper) = some c := by
  have hsmall : c.toNat < 128 := by
    simp only [Quote.isUnwritable, Bool.or_eq_true, Bool.and_eq_true, decide_eq_true_eq, beq_iff_eq] at h
    omega
  have hall : ∀ n : Fin 128, hexChar? ((Text.hexDigits 4 n).map Char.toUpper) = some (Char.ofNat n) := by
    decide
  rw [hall ⟨c.toNat, hsmall⟩, Char.ofNat_toNat]

theorem stands_escape (hquote : c ≠ '"') (hbreak : c ≠ '\n') : Stands c (Quote.escape c) := by
  unfold Quote.escape
  split
  · exact .short rfl
  · exact .short rfl
  · exact .short rfl
  · exact .short rfl
  · exact .short rfl
  · rename_i hslash
    split
    · rename_i hescape
      exact .hex (hexChar?_upper hescape)
    · rename_i hwritable
      exact .plain (isPlain_of_writable (Bool.eq_false_iff.2 hwritable) hbreak) hslash hquote

/-! ## Between two double quotes -/

/-- What stands for a character between double quotes. -/
def Quote.inBasic (c : Char) : List Char :=
  match c with
  | '"' => ['\\', '"']
  | '\n' => ['\\', 'n']
  | _ => escape c

theorem stands_inBasic (c : Char) : Stands c (Quote.inBasic c) := by
  unfold Quote.inBasic
  split
  · exact .short rfl
  · exact .short rfl
  · rename_i hquote hbreak
    exact stands_escape hquote hbreak

theorem readBasic_basicBody (cs rest : List Char) :
    readBasic (Quote.basicBody cs ++ '"' :: rest) = some (cs, rest) := by
  induction cs with
  | nil => rfl
  | cons c cs ih =>
    have hbody : Quote.basicBody (c :: cs) = Quote.inBasic c ++ Quote.basicBody cs := rfl
    rw [hbody, List.append_assoc, readBasic_of_stands (stands_inBasic c), ih]
    rfl

theorem readLiteral_append (hcs : ∀ c ∈ cs, isPlain c = true ∧ c ≠ '\'') (rest : List Char) :
    readLiteral (cs ++ '\'' :: rest) = some (cs, rest) := by
  induction cs with
  | nil => rfl
  | cons c cs ih =>
    obtain ⟨⟨hplain, hquote⟩, hcs⟩ := List.forall_mem_cons.1 hcs
    simp [readLiteral, hplain, ih hcs, found]

/-! ## Runs of quotes -/

/-- How often a character comes in a row in front of a text. -/
def leading (q : Char) (cs : List Char) : Nat := (cs.takeWhile (· == q)).length

theorem leading_cons (q c : Char) (cs : List Char) :
    leading q (c :: cs) = if c = q then leading q cs + 1 else 0 := by
  by_cases h : c = q <;> simp [leading, h]

theorem exists_of_leading (q : Char) (text : List Char) :
    ∃ cs, text = List.replicate (leading q text) q ++ cs ∧ ∀ ds, cs ≠ q :: ds := by
  induction text with
  | nil => exact ⟨[], rfl, nofun⟩
  | cons c text ih =>
    rw [leading_cons]
    split
    · rename_i hc
      obtain ⟨cs, htext, hend⟩ := ih
      exact ⟨cs, by rw [hc, List.replicate_succ, List.cons_append, ← htext], hend⟩
    · rename_i hc
      exact ⟨c :: text, rfl, fun ds h => hc (List.cons.inj h).1⟩

/-- In front of a text stand at most two of a quote, or the closing three with at most two before them, where
`run` of them came already. -/
def Sparse (q : Char) (run : Nat) (text : List Char) : Prop :=
  leading q text + run ≤ 2 ∨ (3 ≤ leading q text ∧ leading q text + run ≤ 5)

theorem sparse_cons (hrun : run ≤ 2) (hc : c ≠ q) (cs : List Char) : Sparse q run (c :: cs) := by
  left
  rw [leading_cons, if_neg hc]
  omega

theorem sparse_cons_self : Sparse q run (q :: text) ↔
    leading q text + (run + 1) ≤ 2 ∨ (2 ≤ leading q text ∧ leading q text + (run + 1) ≤ 5) := by
  rw [Sparse, leading_cons, if_pos rfl]
  omega

theorem Sparse.leading_eq (h : Sparse q 1 text) :
    leading q text = 0 ∨ leading q text = 1 ∨ leading q text = 3 ∨ leading q text = 4 := by
  unfold Sparse at h
  omega

/-- Where quotes are sparse, one of them is read by itself. -/
theorem readMultiBasic_quote (h : Sparse '"' 1 text) :
    readMultiBasic false ('"' :: text) = found '"' (readMultiBasic false text) := by
  obtain ⟨cs, htext, hend⟩ := exists_of_leading '"' text
  obtain hn | hn | hn | hn := h.leading_eq <;> rw [htext, hn] <;>
    simp [readMultiBasic, List.replicate, found, hend]

theorem readMultiLiteral_quote (h : Sparse '\'' 1 text) :
    readMultiLiteral ('\'' :: text) = found '\'' (readMultiLiteral text) := by
  obtain ⟨cs, htext, hend⟩ := exists_of_leading '\'' text
  obtain hn | hn | hn | hn := h.leading_eq <;> rw [htext, hn] <;>
    simp [readMultiLiteral, List.replicate, found, hend, isPlain]

/-! ## Between tripled quotes -/

theorem head_of_stands (h : Stands c text) : ∃ d cs, text = d :: cs ∧ d ≠ '"' ∧ isPlain d = true := by
  cases h with
  | short => exact ⟨_, _, rfl, by decide, by decide⟩
  | hex => exact ⟨_, _, rfl, by decide, by decide⟩
  | plain hplain _ hquote => exact ⟨_, _, rfl, hquote, hplain⟩

theorem multiBasicBody_cons (hquote : c ≠ '"') (hbreak : c ≠ '\n') :
    Quote.multiBasicBody run (c :: cs) = Quote.escape c ++ Quote.multiBasicBody 0 cs := by
  rw [Quote.multiBasicBody]
  · exact hquote
  · exact hbreak

theorem sparse_multiBasicBody (hrest : leading '"' rest = 0) (hrun : run ≤ 2) :
    Sparse '"' run (Quote.multiBasicBody run cs ++ '"' :: '"' :: '"' :: rest) := by
  induction cs generalizing run with
  | nil =>
    simp only [Quote.multiBasicBody, List.nil_append, Sparse, leading_cons, if_pos, hrest]
    omega
  | cons c cs ih =>
    by_cases hquote : c = '"'
    · subst hquote
      rw [Quote.multiBasicBody]
      split
      · exact sparse_cons hrun (by decide) _
      · rw [List.cons_append, sparse_cons_self]
        have hlater : Sparse '"' (run + 1) (Quote.multiBasicBody (run + 1) cs ++ '"' :: '"' :: '"' :: rest) :=
          ih (by omega)
        unfold Sparse at hlater
        omega
    · by_cases hbreak : c = '\n'
      · subst hbreak
        exact sparse_cons hrun (by decide) _
      · obtain ⟨d, ds, htext, hd, -⟩ := head_of_stands (stands_escape hquote hbreak)
        rw [multiBasicBody_cons hquote hbreak, htext]
        exact sparse_cons hrun hd _

theorem readMultiBasic_multiBasicBody (hrest : leading '"' rest = 0) (hrun : run ≤ 2) :
    readMultiBasic false (Quote.multiBasicBody run cs ++ '"' :: '"' :: '"' :: rest) = some (cs, rest) := by
  induction cs generalizing run with
  | nil =>
    obtain ⟨ds, htext, hend⟩ := exists_of_leading '"' rest
    rw [hrest] at htext
    subst htext
    simp [Quote.multiBasicBody, readMultiBasic, hend]
  | cons c cs ih =>
    by_cases hquote : c = '"'
    · subst hquote
      rw [Quote.multiBasicBody]
      split
      · have hstands : Stands '"' ['\\', '"'] := .short rfl
        have hread := readMultiBasic_of_stands hstands
          (Quote.multiBasicBody 0 cs ++ '"' :: '"' :: '"' :: rest)
        rw [List.cons_append, List.cons_append]
        exact hread.trans (by rw [ih (Nat.zero_le 2)]; rfl)
      · have hlater : Sparse '"' 1 (Quote.multiBasicBody (run + 1) cs ++ '"' :: '"' :: '"' :: rest) := by
          have hsparse : Sparse '"' (run + 1) (Quote.multiBasicBody (run + 1) cs ++ '"' :: '"' :: '"' :: rest) :=
            sparse_multiBasicBody hrest (by omega)
          unfold Sparse at hsparse ⊢
          omega
        rw [List.cons_append, readMultiBasic_quote hlater, ih (by omega)]
        rfl
    · by_cases hbreak : c = '\n'
      · subst hbreak
        simp [Quote.multiBasicBody, readMultiBasic, ih (Nat.zero_le 2), found]
      · rw [multiBasicBody_cons hquote hbreak, List.append_assoc,
          readMultiBasic_of_stands (stands_escape hquote hbreak), ih (Nat.zero_le 2)]
        rfl

theorem le_longestRun (q : Char) (cs : List Char) (run : Nat) : run ≤ longestRun q run cs := by
  induction cs generalizing run with
  | nil => exact Nat.le_refl run
  | cons c cs ih =>
    unfold longestRun
    split
    · exact Nat.le_trans (Nat.le_succ run) (ih (run + 1))
    · exact Nat.le_max_left ..

theorem ne_of_longestRun (h : longestRun q 0 cs = 0) : ∀ c ∈ cs, c ≠ q := by
  induction cs with
  | nil => nofun
  | cons c cs ih =>
    unfold longestRun at h
    split at h
    · have hone := le_longestRun q cs (0 + 1)
      omega
    · rename_i hc
      exact List.forall_mem_cons.2 ⟨hc, ih (Nat.max_eq_zero_iff.1 h).2⟩

theorem sparse_of_longestRun (hrest : leading q rest = 0) (h : longestRun q run cs ≤ 2) :
    Sparse q run (cs ++ q :: q :: q :: rest) := by
  induction cs generalizing run with
  | nil =>
    have hrun : run ≤ 2 := h
    simp only [List.nil_append, Sparse, leading_cons, if_pos, hrest]
    omega
  | cons c cs ih =>
    unfold longestRun at h
    split at h
    · rename_i hc
      subst hc
      have hlater := ih h
      rw [List.cons_append, sparse_cons_self]
      unfold Sparse at hlater
      omega
    · rename_i hc
      exact sparse_cons (by omega) hc _

theorem readMultiLiteral_append (hrest : leading '\'' rest = 0) (hcs : ∀ c ∈ cs, isPlain c = true ∨ c = '\n')
    (h : longestRun '\'' run cs ≤ 2) :
    readMultiLiteral (cs ++ '\'' :: '\'' :: '\'' :: rest) = some (cs, rest) := by
  induction cs generalizing run with
  | nil =>
    obtain ⟨ds, htext, hend⟩ := exists_of_leading '\'' rest
    rw [hrest] at htext
    subst htext
    simp [readMultiLiteral, hend]
  | cons c cs ih =>
    obtain ⟨hc, hlater⟩ := List.forall_mem_cons.1 hcs
    by_cases hquote : c = '\''
    · subst hquote
      rw [longestRun, if_pos rfl] at h
      have hnext : Sparse '\'' 1 (cs ++ '\'' :: '\'' :: '\'' :: rest) := by
        have hsparse := sparse_of_longestRun hrest h
        unfold Sparse at hsparse ⊢
        omega
      rw [List.cons_append, readMultiLiteral_quote hnext, ih hlater h]
      rfl
    · rw [longestRun, if_neg hquote] at h
      have hread := ih hlater (Nat.le_trans (Nat.le_max_right ..) h)
      obtain hplain | rfl := hc
      · obtain ⟨hbreak, hreturn⟩ := ne_of_isPlain hplain
        simp [readMultiLiteral, hquote, hplain, hreturn, hread, found]
      · simp [readMultiLiteral, hread, found]

/-! ## Every form -/

theorem newline?_of_isPlain (h : isPlain c = true) (cs : List Char) : newline? (c :: cs) = none := by
  obtain ⟨hbreak, hreturn⟩ := ne_of_isPlain h
  simp [newline?, hbreak, hreturn]

/-- The line break after the opening quotes is dropped, and no other one. -/
theorem dropNewline_opening (h : '\n' ∉ cs → ∃ c ds, text = c :: ds ∧ isPlain c = true) :
    dropNewline (Quote.opening cs ++ text) = text := by
  rw [Quote.opening]
  split
  · rfl
  · rename_i hone
    obtain ⟨c, ds, rfl, hplain⟩ := h (by simpa using hone)
    rw [List.nil_append, dropNewline, newline?_of_isPlain hplain]
    rfl

theorem head_multiBasicBody (h : '\n' ∉ cs) (rest : List Char) :
    ∃ c ds, Quote.multiBasicBody run cs ++ '"' :: rest = c :: ds ∧ isPlain c = true := by
  cases cs with
  | nil => exact ⟨_, _, rfl, rfl⟩
  | cons c cs =>
    by_cases hquote : c = '"'
    · subst hquote
      rw [Quote.multiBasicBody]
      split <;> exact ⟨_, _, rfl, rfl⟩
    · have hbreak : c ≠ '\n' := fun heq => h (by simp [heq])
      obtain ⟨d, ds, htext, -, hplain⟩ := head_of_stands (stands_escape hquote hbreak)
      rw [multiBasicBody_cons hquote hbreak, htext]
      exact ⟨_, _, rfl, hplain⟩

/-- What does not begin with three quotes is read on one line. -/
theorem readString?_of_leading (h : leading q text ≤ 1) : readString? (q :: text) = readShortString? (q :: text) := by
  rw [readString?]
  · rintro ds ⟨rfl, rfl⟩
    simp [leading_cons] at h
  · rintro ds ⟨rfl, rfl⟩
    simp [leading_cons] at h

theorem readString?_basic (hrest : leading '"' rest = 0) (cs : List Char) :
    readString? (Quote.basic cs ++ rest) = some (cs, rest) := by
  have htext : Quote.basic cs ++ rest = '"' :: (Quote.basicBody cs ++ '"' :: rest) := by
    simp [Quote.basic]
  have hfew : leading '"' (Quote.basicBody cs ++ '"' :: rest) ≤ 1 := by
    cases cs with
    | nil =>
      rw [show Quote.basicBody [] ++ '"' :: rest = '"' :: rest from rfl]
      simp [leading_cons, hrest]
    | cons c cs =>
      obtain ⟨d, ds, hhead, hd, -⟩ := head_of_stands (stands_inBasic c)
      change leading '"' (Quote.inBasic c ++ Quote.basicBody cs ++ '"' :: rest) ≤ 1
      rw [hhead, List.cons_append, List.cons_append, leading_cons, if_neg hd]
      exact Nat.zero_le 1
  rw [htext, readString?_of_leading hfew, readShortString?, readBasic_basicBody]

theorem readString?_literal (hrest : leading '\'' rest = 0) (hcs : ∀ c ∈ cs, isPlain c = true ∧ c ≠ '\'') :
    readString? (Quote.literal cs ++ rest) = some (cs, rest) := by
  have htext : Quote.literal cs ++ rest = '\'' :: (cs ++ '\'' :: rest) := by
    simp [Quote.literal]
  have hfew : leading '\'' (cs ++ '\'' :: rest) ≤ 1 := by
    cases cs with
    | nil => simp [leading_cons, hrest]
    | cons c cs =>
      rw [List.cons_append, leading_cons, if_neg (hcs c List.mem_cons_self).2]
      exact Nat.zero_le 1
  rw [htext, readString?_of_leading hfew, readShortString?, readLiteral_append hcs]

theorem readString?_multiBasic (hrest : leading '"' rest = 0) (cs : List Char) :
    readString? (Quote.multiBasic cs ++ rest) = some (cs, rest) := by
  have htext : Quote.multiBasic cs ++ rest = '"' :: '"' :: '"' :: (Quote.opening cs ++
      (Quote.multiBasicBody 0 cs ++ '"' :: '"' :: '"' :: rest)) := by
    simp [Quote.multiBasic]
  rw [htext, readString?, dropNewline_opening fun hone => head_multiBasicBody hone _,
    readMultiBasic_multiBasicBody hrest (Nat.zero_le 2)]

theorem readString?_multiLiteral (hrest : leading '\'' rest = 0) (hcs : ∀ c ∈ cs, isPlain c = true ∨ c = '\n')
    (h : longestRun '\'' 0 cs ≤ 2) : readString? (Quote.multiLiteral cs ++ rest) = some (cs, rest) := by
  have htext : Quote.multiLiteral cs ++ rest = '\'' :: '\'' :: '\'' :: (Quote.opening cs ++
      (cs ++ '\'' :: '\'' :: '\'' :: rest)) := by
    simp [Quote.multiLiteral]
  have hhead : '\n' ∉ cs → ∃ c ds, cs ++ '\'' :: '\'' :: '\'' :: rest = c :: ds ∧ isPlain c = true := by
    intro hone
    cases cs with
    | nil => exact ⟨_, _, rfl, rfl⟩
    | cons c cs =>
      obtain hplain | rfl := hcs c List.mem_cons_self
      · exact ⟨_, _, rfl, hplain⟩
      · exact absurd List.mem_cons_self hone
  rw [htext, readString?, dropNewline_opening hhead, readMultiLiteral_append hrest hcs h]

/-- A text that is written is read back, unless another quote comes right after it. -/
theorem readString?_write (cs : List Char) (hdouble : leading '"' rest = 0) (hsingle : leading '\'' rest = 0) :
    readString? (Quote.write cs ++ rest) = some (cs, rest) := by
  have hplain : (!cs.any Quote.isUnwritable) = true → ∀ c ∈ cs, isPlain c = true ∨ c = '\n' := by
    intro hraw c hc
    rw [Bool.not_eq_true', List.any_eq_false] at hraw
    by_cases hbreak : c = '\n'
    · exact .inr hbreak
    · exact .inl (isPlain_of_writable (Bool.eq_false_iff.2 (hraw c hc)) hbreak)
  unfold Quote.write
  dsimp only
  split
  · exact readString?_basic hdouble cs
  · split
    · rename_i hliteral
      simp only [Bool.and_eq_true, beq_iff_eq] at hliteral
      obtain ⟨⟨hraw, hsingles⟩, hone⟩ := hliteral
      have hbreak : '\n' ∉ cs := by simpa using hone
      refine readString?_literal hsingle fun c hc => ⟨?_, ne_of_longestRun hsingles c hc⟩
      exact (hplain hraw c hc).resolve_right fun heq => hbreak (heq ▸ hc)
    · split
      · exact readString?_multiBasic hdouble cs
      · split
        · rename_i hliteral
          simp only [Bool.and_eq_true, decide_eq_true_eq] at hliteral
          exact readString?_multiLiteral hsingle (hplain hliteral.1) hliteral.2
        · split
          · exact readString?_multiBasic hdouble cs
          · exact readString?_basic hdouble cs

end SharedDesk.Toml
