import SharedDesk.Text.Blank
import SharedDesk.Text.Digits
import Mathlib.Algebra.GroupWithZero.Nat
/-!
# Written numbers

A number written in a base up to sixteen consists of digits of that base (`isDigitOf_of_mem`), stands for
itself (`valueOf_toDigits`), and has no leading zero (`eq_singleton_of_head`). Digits in either letter case are the
digits of their value once they are in lower case (`hexDigits_valueOf`). No digit is blank (`isBlank_of_isDigitOf`).
-/

namespace SharedDesk.Text

variable {base n d : Nat} {c : Char} {cs : List Char}

/-! ## One digit -/

theorem digitValue?_digitChar (h : d < 16) : digitValue? (Nat.digitChar d) = some d := by
  have hall : ∀ d : Fin 16, digitValue? (Nat.digitChar d) = some d.val := by decide
  exact hall ⟨d, h⟩

theorem isDigitOf_digitChar (hbase : base ≤ 16) (h : d < base) :
    isDigitOf base (Nat.digitChar d) = true := by
  rw [isDigitOf, digitValue?_digitChar (Nat.lt_of_lt_of_le h hbase)]
  exact decide_eq_true h

theorem isBlank_of_isDigitOf (h : isDigitOf base c = true) : isBlank c = false := by
  have hvalue : (digitValue? c).isSome = true := by
    unfold isDigitOf at h
    split at h
    · rename_i hd
      rw [hd]
      rfl
    · cases h
  -- Digits lie within three ranges of code points, and no blank does.
  have hrange : (48 ≤ c.toNat ∧ c.toNat ≤ 57) ∨ (97 ≤ c.toNat ∧ c.toNat ≤ 102) ∨
      (65 ≤ c.toNat ∧ c.toNat ≤ 70) := by
    unfold digitValue? at hvalue
    split at hvalue
    · rename_i hc
      exact .inl hc
    · split at hvalue
      · rename_i hc
        exact .inr (.inl hc)
      · split at hvalue
        · rename_i hc
          exact .inr (.inr hc)
        · cases hvalue
  simp only [isBlank, blankRanges, List.any_cons, List.any_nil, Bool.or_eq_false_iff,
    Bool.and_eq_false_iff, decide_eq_false_iff_not, and_true]
  omega

/-! ## Whole numbers -/

theorem isDigitOf_of_mem (hone : 1 < base) (hbase : base ≤ 16) :
    ∀ c ∈ Nat.toDigits base n, isDigitOf base c = true := by
  induction n using Nat.strongRecOn with
  | ind n ih =>
    rw [Nat.toDigits_eq_if hone]
    split
    · rename_i hlt
      simpa using isDigitOf_digitChar hbase hlt
    · rename_i hge
      intro c hc
      rcases List.mem_append.1 hc with hc | hc
      · exact ih (n / base) (Nat.div_lt_self (by omega) hone) c hc
      · rw [List.mem_singleton.1 hc]
        exact isDigitOf_digitChar hbase (Nat.mod_lt _ (by omega))

theorem valueOf_concat (base : Nat) (cs : List Char) (c : Char) :
    valueOf base (cs ++ [c]) = base * valueOf base cs + (digitValue? c).getD 0 := by
  simp [valueOf]

theorem valueOf_toDigits (hone : 1 < base) (hbase : base ≤ 16) : valueOf base (Nat.toDigits base n) = n := by
  induction n using Nat.strongRecOn with
  | ind n ih =>
    rw [Nat.toDigits_eq_if hone]
    split
    · rename_i hlt
      simp [valueOf, digitValue?_digitChar (Nat.lt_of_lt_of_le hlt hbase)]
    · rename_i hge
      have hlast : n % base < 16 := Nat.lt_of_lt_of_le (Nat.mod_lt _ (by omega)) hbase
      rw [valueOf_concat, ih (n / base) (Nat.div_lt_self (by omega) hone), digitValue?_digitChar hlast]
      exact Nat.div_add_mod n base

theorem toDigits_ne_nil (hone : 1 < base) : Nat.toDigits base n ≠ [] := by
  rw [Nat.toDigits_eq_if hone]
  split <;> simp

/-- Only zero is written with a zero in front. -/
theorem eq_singleton_of_head (hone : 1 < base) (hbase : base ≤ 16)
    (h : (Nat.toDigits base n).head? = some '0') : Nat.toDigits base n = ['0'] := by
  induction n using Nat.strongRecOn with
  | ind n ih =>
    rw [Nat.toDigits_eq_if hone] at h ⊢
    split at h
    · rename_i hlt
      rw [if_pos hlt]
      simpa using h
    · rename_i hge
      have hdigits := toDigits_ne_nil (n := n / base) hone
      rw [List.head?_append, Option.or_of_isSome (List.isSome_head?.2 hdigits)] at h
      -- The digits in front would be those of zero, and nothing comes before a single digit.
      have hzero := ih (n / base) (Nat.div_lt_self (by omega) hone) h
      have hvalue := valueOf_toDigits (n := n / base) hone hbase
      rw [hzero] at hvalue
      have hpos : 0 < n / base := Nat.div_pos (by omega) (by omega)
      have hnone : valueOf base ['0'] = 0 := by simp [valueOf, digitValue?]
      omega

/-! ## Hexadecimal digits of a fixed width -/

variable {width : Nat}

theorem length_hexDigits (width n : Nat) : (hexDigits width n).length = width := by
  induction width generalizing n with
  | zero => rfl
  | succ width ih => rw [hexDigits, List.length_append, ih, List.length_singleton]

/-- Only the last digits of a number are written. -/
theorem hexDigits_mod (width n : Nat) : hexDigits width (n % 16 ^ width) = hexDigits width n := by
  induction width generalizing n with
  | zero => rfl
  | succ width ih =>
    have hdiv : n % 16 ^ (width + 1) / 16 = n / 16 % 16 ^ width := by
      rw [Nat.pow_succ, Nat.mul_comm, Nat.mod_mul_right_div_self]
    have hmod : n % 16 ^ (width + 1) % 16 = n % 16 :=
      Nat.mod_mod_of_dvd n (by rw [Nat.pow_succ]; exact Nat.dvd_mul_left _ _)
    rw [hexDigits, hexDigits, hdiv, hmod, ih]

theorem toNat_lt_of_digitValue? (h : digitValue? c = some d) : c.toNat < 103 := by
  unfold digitValue? at h
  split at h
  · rename_i hc
    exact Nat.lt_of_le_of_lt hc.2 (by decide)
  · split at h
    · rename_i hc
      exact Nat.lt_of_le_of_lt hc.2 (by decide)
    · split at h
      · rename_i hc
        exact Nat.lt_of_le_of_lt hc.2 (by decide)
      · cases h

/-- A digit in lower case is the one that is written for its value. -/
theorem toLower_eq_digitChar (h : digitValue? c = some d) : d < 16 ∧ c.toLower = Nat.digitChar d := by
  have hall : ∀ i : Fin 103, ∀ d ∈ digitValue? (Char.ofNat i), d < 16 ∧ (Char.ofNat i).toLower = Nat.digitChar d := by
    decide
  have hc := hall ⟨c.toNat, toNat_lt_of_digitValue? h⟩ d
  rw [Char.ofNat_toNat] at hc
  exact hc h

theorem digitValue?_toLower (c : Char) : digitValue? c.toLower = digitValue? c := by
  have hall : ∀ i : Fin 91, digitValue? (Char.ofNat i).toLower = digitValue? (Char.ofNat i) := by decide
  by_cases hc : c.toNat < 91
  · have h := hall ⟨c.toNat, hc⟩
    rwa [Char.ofNat_toNat] at h
  · have hsame : c.toLower = c := dif_neg fun hupper => hc (Nat.lt_succ_of_le hupper.2)
    rw [hsame]

theorem digitValue?_of_isHexDigit (h : isHexDigit c = true) : ∃ d, digitValue? c = some d := by
  rw [isHexDigit, isDigitOf] at h
  split at h
  · exact ⟨_, ‹_›⟩
  · cases h

theorem isHexDigit_of_digitValue? (h : digitValue? c = some d) : isHexDigit c = true := by
  rw [isHexDigit, isDigitOf, h]
  exact decide_eq_true (toLower_eq_digitChar h).1

theorem valueOf_hexDigits (h : n < 16 ^ width) : valueOf 16 (hexDigits width n) = n := by
  induction width generalizing n with
  | zero =>
    obtain rfl : n = 0 := by simpa using h
    rfl
  | succ width ih =>
    have hfront : n / 16 < 16 ^ width := by
      rw [Nat.pow_succ] at h
      omega
    rw [hexDigits, valueOf_concat, ih hfront, digitValue?_digitChar (Nat.mod_lt _ (by decide))]
    exact Nat.div_add_mod n 16

theorem isHexDigit_toLower (c : Char) : isHexDigit c.toLower = isHexDigit c := by
  rw [isHexDigit, isHexDigit, isDigitOf, isDigitOf, digitValue?_toLower]

theorem valueOf_toLower (cs : List Char) : valueOf base (cs.map Char.toLower) = valueOf base cs := by
  rw [valueOf, List.foldl_map]
  simp only [digitValue?_toLower]
  rfl

theorem isHexDigit_of_mem_hexDigits (h : c ∈ hexDigits width n) : isHexDigit c = true ∧ c.toLower = c := by
  induction width generalizing n with
  | zero => cases h
  | succ width ih =>
    rcases List.mem_append.1 h with hfront | hlast
    · exact ih hfront
    · obtain rfl := List.mem_singleton.1 hlast
      have hd : digitValue? (Nat.digitChar (n % 16)) = some (n % 16) :=
        digitValue?_digitChar (Nat.mod_lt _ (by decide))
      exact ⟨isHexDigit_of_digitValue? hd, (toLower_eq_digitChar hd).2⟩

theorem hexDigits_valueOf (h : ∀ c ∈ cs, isHexDigit c = true) :
    hexDigits cs.length (valueOf 16 cs) = cs.map Char.toLower := by
  generalize hlength : cs.length = width
  induction width generalizing cs with
  | zero =>
    obtain rfl := List.eq_nil_of_length_eq_zero hlength
    rfl
  | succ width ih =>
    -- The last digit is split off, since the width counts from the other end.
    obtain rfl | ⟨front, c, rfl⟩ := List.eq_nil_or_concat cs
    · cases hlength
    · rw [List.concat_eq_append] at h hlength ⊢
      obtain ⟨d, hd⟩ := digitValue?_of_isHexDigit (h c (by simp))
      obtain ⟨hlt, hlower⟩ := toLower_eq_digitChar hd
      have hfront := ih (fun c hc => h c (List.mem_append_left _ hc)) (by simpa using hlength)
      have hdiv : (16 * valueOf 16 front + d) / 16 = valueOf 16 front := by omega
      have hmod : (16 * valueOf 16 front + d) % 16 = d := by omega
      rw [valueOf_concat, hd, Option.getD_some, hexDigits, hdiv, hmod, hfront, ← hlower, List.map_append]
      rfl

end SharedDesk.Text
