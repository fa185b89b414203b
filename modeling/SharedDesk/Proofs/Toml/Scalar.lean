import SharedDesk.Proofs.Text.Digits
import SharedDesk.Proofs.Toml.Quote
import SharedDesk.Toml.Line
/-!
# Values survive being written

A value at the end of a line is read back as what it means (`readValue?_render`). Digits at the end of a line are
no date, since nothing stands between them (`readDateTime?_of_digital`), so a number is read as one.
-/

namespace SharedDesk.Toml

open Text (isDecimalDigit isDigitOf)

variable {c : Char} {cs ds rest : List Char} {n : Nat}

/-! ## Digits -/

/-- Nothing but decimal digits. -/
def Digital (ds : List Char) : Prop := ∀ c ∈ ds, isDecimalDigit c = true

theorem digital_toDigits (n : Nat) : Digital (Nat.toDigits 10 n) :=
  Text.isDigitOf_of_mem (by decide) (by decide)

theorem ne_of_isDecimalDigit (h : isDecimalDigit c = true) {d : Char} (hd : isDecimalDigit d = false) : c ≠ d := by
  rintro rfl
  rw [h] at hd
  cases hd

theorem readDigits_append (hds : Digital ds) :
    readDigits isDecimalDigit (ds ++ '\n' :: rest) = some (ds, '\n' :: rest) := by
  induction ds with
  | nil => rfl
  | cons c ds ih =>
    obtain ⟨hc, hds⟩ := List.forall_mem_cons.1 hds
    have hscore : c ≠ '_' := ne_of_isDecimalDigit hc (by decide)
    rw [List.cons_append, readDigits]
    · rw [if_pos hc, ih hds]
      rfl
    · rintro rfl
      exact absurd rfl hscore
    · exact fun _ _ heq => absurd heq hscore

theorem toDigits_cases (n : Nat) : Nat.toDigits 10 n = ['0'] ∨
    ∃ c ds, Nat.toDigits 10 n = c :: ds ∧ isDecimalDigit c = true ∧ Digital ds ∧ c ≠ '0' := by
  have hdigits := digital_toDigits n
  have hzero : (Nat.toDigits 10 n).head? = some '0' → Nat.toDigits 10 n = ['0'] :=
    Text.eq_singleton_of_head (by decide) (by decide)
  cases hds : Nat.toDigits 10 n with
  | nil => exact absurd hds (Text.toDigits_ne_nil (by decide))
  | cons c ds =>
    rw [hds] at hdigits hzero
    obtain ⟨hc, hds⟩ := List.forall_mem_cons.1 hdigits
    by_cases hfirst : c = '0'
    · exact .inl (hzero (by rw [hfirst]; rfl))
    · exact .inr ⟨c, ds, rfl, hc, hds, hfirst⟩

theorem readWhole?_toDigits (n : Nat) :
    readWhole? (Nat.toDigits 10 n ++ '\n' :: rest) = some (Nat.toDigits 10 n, '\n' :: rest) := by
  obtain hn | ⟨c, ds, hn, hc, hds, hfirst⟩ := toDigits_cases n
  · rw [hn]
    rfl
  · rw [hn, List.cons_append, readWhole?]
    · rw [readRun?, if_pos hc, readDigits_append hds]
      rfl
    · exact fun _ heq => absurd (List.cons.inj heq).1 hfirst

theorem readDecimal?_toDigits (negative : Bool) (n : Nat) :
    readDecimal? negative (Nat.toDigits 10 n ++ '\n' :: rest) =
      (signed? negative n).map fun node => (node, '\n' :: rest) := by
  rw [readDecimal?, readWhole?_toDigits]
  simp only [Option.bind_eq_bind, Option.bind_some]
  rw [Text.valueOf_toDigits (by decide) (by decide)]
  cases signed? negative n <;> rfl

/-! ## Neither dates nor times -/

/-- What is left behind a number of digits still ends the line after nothing but digits. -/
theorem readFixed?_of_digital {k v : Nat} (hds : Digital ds) (h : readFixed? k (ds ++ '\n' :: rest) = some (v, cs)) :
    ∃ es, Digital es ∧ cs = es ++ '\n' :: rest := by
  unfold readFixed? at h
  dsimp only at h
  split at h
  · rename_i hall
    obtain ⟨hlength, hdigits⟩ := hall
    cases h
    have hshort : k ≤ ds.length := by
      refine Nat.not_lt.1 fun hlong => ?_
      have hbreak : '\n' ∈ (ds ++ '\n' :: rest).take k := by
        rw [List.take_append]
        refine List.mem_append_right _ ?_
        obtain ⟨m, hm⟩ : ∃ m, k - ds.length = m + 1 := ⟨k - ds.length - 1, by omega⟩
        rw [hm]
        exact List.mem_cons_self
      have hdigit := List.all_eq_true.1 hdigits _ hbreak
      revert hdigit
      decide
    exact ⟨ds.drop k, fun c hc => hds c (List.mem_of_mem_drop hc), List.drop_append_of_le_length hshort⟩
  · cases h

theorem expect_of_digital (hds : Digital ds) (hc : isDecimalDigit c = false) (hbreak : c ≠ '\n') :
    expect c (ds ++ '\n' :: rest) = none := by
  cases ds with
  | nil => simp [expect, hbreak.symm]
  | cons d ds =>
    have hd : d ≠ c := ne_of_isDecimalDigit (hds d List.mem_cons_self) hc
    simp [expect, hd]

theorem readDateTime?_of_digital (hds : Digital ds) : readDateTime? (ds ++ '\n' :: rest) = none := by
  have hdate : skipDate? (ds ++ '\n' :: rest) = none := by
    rw [skipDate?]
    cases hyear : readFixed? 4 (ds ++ '\n' :: rest) with
    | none => rfl
    | some p =>
      obtain ⟨es, hes, htail⟩ := readFixed?_of_digital hds hyear
      simp only [Option.bind_eq_bind, Option.bind_some]
      rw [htail, expect_of_digital hes (by decide) (by decide)]
      rfl
  have htime : skipTime? (ds ++ '\n' :: rest) = none := by
    rw [skipTime?, skipMinutes?]
    cases hhour : readFixed? 2 (ds ++ '\n' :: rest) with
    | none => rfl
    | some p =>
      obtain ⟨es, hes, htail⟩ := readFixed?_of_digital hds hhour
      simp only [Option.bind_eq_bind, Option.bind_some]
      rw [htail, expect_of_digital hes (by decide) (by decide)]
      rfl
  rw [readDateTime?, hdate, htime]
  rfl

theorem readDateTime?_minus (cs : List Char) : readDateTime? ('-' :: cs) = none := by
  have hfixed : ∀ k, readFixed? (k + 1) ('-' :: cs) = none := by
    intro k
    simp [readFixed?, show isDecimalDigit '-' = false from by decide]
  simp [readDateTime?, skipDate?, skipTime?, skipMinutes?, hfixed]

/-! ## Whole numbers -/

theorem readUnsigned?_toDigits (negative : Bool) (n : Nat) :
    readUnsigned? negative (Nat.toDigits 10 n ++ '\n' :: rest) =
      (signed? negative n).map fun node => (node, '\n' :: rest) := by
  rw [← readDecimal?_toDigits]
  obtain hn | ⟨c, ds, hn, hc, -, -⟩ := toDigits_cases n <;> rw [hn]
  · rfl
  · have hi : c ≠ 'i' := ne_of_isDecimalDigit hc (by decide)
    have hword : c ≠ 'n' := ne_of_isDecimalDigit hc (by decide)
    rw [List.cons_append, readUnsigned?]
    · exact fun _ heq => absurd (List.cons.inj heq).1 hi
    · exact fun _ heq => absurd (List.cons.inj heq).1 hword

theorem readNumber?_toDigits (n : Nat) : readNumber? (Nat.toDigits 10 n ++ '\n' :: rest) =
    (signed? false n).map fun node => (node, '\n' :: rest) := by
  rw [← readUnsigned?_toDigits]
  obtain hn | ⟨c, ds, hn, hc, -, hfirst⟩ := toDigits_cases n <;> rw [hn]
  · rfl
  · have hminus : c ≠ '-' := ne_of_isDecimalDigit hc (by decide)
    have hplus : c ≠ '+' := ne_of_isDecimalDigit hc (by decide)
    rw [List.cons_append, readNumber?]
    · exact fun _ heq => absurd (List.cons.inj heq).1 hfirst
    · exact fun _ heq => absurd (List.cons.inj heq).1 hfirst
    · exact fun _ heq => absurd (List.cons.inj heq).1 hfirst
    · exact fun _ heq => absurd (List.cons.inj heq).1 hminus
    · exact fun _ heq => absurd (List.cons.inj heq).1 hplus

/-- A whole number that 64 bits can hold. -/
def FitsIn64 (n : Int) : Prop := Int64.minValue.toInt ≤ n ∧ n ≤ Int64.maxValue.toInt

theorem integer?_eq {n : Int} (h : FitsIn64 n) : integer? n = some (.integer n) := if_pos h

theorem readNumber?_render {n : Int} (h : FitsIn64 n) (rest : List Char) :
    readNumber? ((Scalar.integer n).render ++ '\n' :: rest) = some (.integer n, '\n' :: rest) := by
  rw [Scalar.render]
  split
  · rename_i hneg
    have hsize : -(n.natAbs : Int) = n := by omega
    rw [List.cons_append, readNumber?, readUnsigned?_toDigits, signed?, if_pos rfl, hsize, integer?_eq h]
    rfl
  · rename_i hpos
    have hsize : (n.natAbs : Int) = n := by omega
    rw [readNumber?_toDigits, signed?, if_neg nofun, hsize, integer?_eq h]
    rfl

theorem readDateTime?_render (n : Int) (rest : List Char) :
    readDateTime? ((Scalar.integer n).render ++ '\n' :: rest) = none := by
  rw [Scalar.render]
  split
  · exact readDateTime?_minus _
  · exact readDateTime?_of_digital (digital_toDigits _)

theorem head_integer (n : Int) : ∃ c cs, (Scalar.integer n).render = c :: cs ∧
    (c = '-' ∨ isDecimalDigit c = true) := by
  rw [Scalar.render]
  split
  · exact ⟨_, _, rfl, .inl rfl⟩
  · obtain hn | ⟨c, ds, hn, hc, -, -⟩ := toDigits_cases n.natAbs
    · exact ⟨_, _, hn, .inr (by decide)⟩
    · exact ⟨c, ds, hn, .inr hc⟩

theorem readScalar?_integer {n : Int} (h : FitsIn64 n) (rest : List Char) :
    readScalar? ((Scalar.integer n).render ++ '\n' :: rest) = some (.integer n, '\n' :: rest) := by
  have hnumber := readNumber?_render h rest
  have hdate := readDateTime?_render n rest
  obtain ⟨c, cs, hn, hc⟩ := head_integer n
  have hother : ∀ d, isDecimalDigit d = false → d ≠ '-' → c ≠ d := by
    rintro d hd hminus rfl
    obtain rfl | hdigit := hc
    · exact hminus rfl
    · cases hd.symm.trans hdigit
  rw [hn, List.cons_append] at hnumber hdate ⊢
  rw [readScalar?, hdate, hnumber]
  · exact fun _ heq => hother '"' (by decide) (by decide) (List.cons.inj heq).1
  · exact fun _ heq => hother '\'' (by decide) (by decide) (List.cons.inj heq).1
  · exact fun _ heq => hother 't' (by decide) (by decide) (List.cons.inj heq).1
  · exact fun _ heq => hother 'f' (by decide) (by decide) (List.cons.inj heq).1

/-! ## Any value -/

/-- A value that can be written. -/
def Scalar.Writable : Scalar → Prop
  | .integer n => FitsIn64 n
  | _ => True

theorem head_write (cs : List Char) : ∃ q ds, Quote.write cs = q :: ds ∧ (q = '"' ∨ q = '\'') := by
  unfold Quote.write
  dsimp only
  split
  · exact ⟨_, _, rfl, .inl rfl⟩
  · split
    · exact ⟨_, _, rfl, .inr rfl⟩
    · split
      · exact ⟨_, _, rfl, .inl rfl⟩
      · split
        · exact ⟨_, _, rfl, .inr rfl⟩
        · split <;> exact ⟨_, _, rfl, .inl rfl⟩

theorem readScalar?_string (text : String) : readScalar? ((Scalar.string text).render ++ '\n' :: rest) =
    some (.string text, '\n' :: rest) := by
  have hread : readString? (Quote.write text.toList ++ '\n' :: rest) = some (text.toList, '\n' :: rest) :=
    readString?_write text.toList rfl rfl
  rw [Scalar.render]
  obtain ⟨q, ds, hhead, rfl | rfl⟩ := head_write text.toList <;> rw [hhead, List.cons_append] at hread ⊢ <;>
    simp [readScalar?, hread]

theorem readValue?_eq_readScalar? (hbracket : c ≠ '[') (hbrace : c ≠ '\x7b') (depth : Nat) (cs : List Char) :
    readValue? depth (c :: cs) = readScalar? (c :: cs) := by
  cases depth <;> simp [readValue?, hbracket, hbrace]

theorem readValue?_render (s : Scalar) (h : s.Writable) :
    readValue? deepest (s.render ++ '\n' :: rest) = some (s.node, '\n' :: rest) := by
  cases s with
  | string text =>
    obtain ⟨q, ds, hhead, hq⟩ := head_write text.toList
    have hscalar : readScalar? (Quote.write text.toList ++ '\n' :: rest) = _ := readScalar?_string text
    rw [Scalar.render]
    rw [hhead, List.cons_append] at hscalar ⊢
    rw [readValue?_eq_readScalar? _ _, hscalar]
    · rfl
    · obtain rfl | rfl := hq <;> decide
    · obtain rfl | rfl := hq <;> decide
  | integer n =>
    obtain ⟨c, cs, hn, hc⟩ := head_integer n
    have hscalar := readScalar?_integer h rest
    rw [hn, List.cons_append] at hscalar ⊢
    rw [readValue?_eq_readScalar? _ _, hscalar]
    · rfl
    · rintro rfl
      revert hc
      decide
    · rintro rfl
      revert hc
      decide
  | boolean b => cases b <;> rfl
  | emptyList => rfl

end SharedDesk.Toml
