import SharedDesk.Address.Printer
import SharedDesk.Address.Reader
import SharedDesk.Proofs.Text.Blank
import SharedDesk.Proofs.Text.Digits
/-!
# Addresses survive being written

What is written for an address is read back as that address (`ofChars?_chars`), blanks around it aside: four
bytes, eight groups with or without a stretch left out, and eight groups that end in four bytes. Of the stretch
that is left out only its zeros matter here (`take_zerosOf_drop`); that it is the longest one does not.
-/

namespace SharedDesk

open Text (isDigitOf isBlank)

/-! ## Numbers in front of a text -/

/-- A text goes on with something other than a digit. -/
def Ends (base : Nat) (rest : List Char) : Prop := ∀ c ∈ rest.head?, isDigitOf base c = false

theorem ends_nil (base : Nat) : Ends base [] := nofun

theorem ends_cons {base : Nat} {c : Char} (h : isDigitOf base c = false) (rest : List Char) :
    Ends base (c :: rest) := by
  rintro _ ⟨⟩
  exact h

theorem Ends.takeWhile {base : Nat} {rest : List Char} (h : Ends base rest) :
    rest.takeWhile (isDigitOf base) = [] := by
  cases rest with
  | nil => rfl
  | cons c rest => rw [List.takeWhile_cons, h c rfl]; rfl

theorem Ends.dropWhile {base : Nat} {rest : List Char} (h : Ends base rest) :
    rest.dropWhile (isDigitOf base) = rest := by
  cases rest with
  | nil => rfl
  | cons c rest => rw [List.dropWhile_cons, h c rfl]; rfl

theorem readNumber?_of_ends {base limit : Nat} {rest : List Char} (h : Ends base rest) :
    readNumber? base limit rest = none := by
  rw [readNumber?, h.takeWhile]
  simp

theorem readNumber?_toDigits {base limit n : Nat} {rest : List Char} (hone : 1 < base) (hbase : base ≤ 16)
    (hlimit : 0 < limit) (hn : n < Nat.pow base limit) (h : Ends base rest) :
    readNumber? base limit (Nat.toDigits base n ++ rest) = some (n, rest) := by
  have hdigits := Text.isDigitOf_of_mem (n := n) hone hbase
  have hlength : (Nat.toDigits base n).length ≤ limit := (Nat.length_toDigits_le_iff hone hlimit).2 hn
  have hnonempty : (Nat.toDigits base n).length ≠ 0 := by
    rw [ne_eq, List.length_eq_zero_iff]
    exact Text.toDigits_ne_nil hone
  rw [readNumber?, List.takeWhile_append_of_pos hdigits, List.dropWhile_append_of_pos hdigits,
    h.takeWhile, h.dropWhile, List.append_nil, if_neg (by omega), Text.valueOf_toDigits hone hbase]

namespace Quad

theorem readByte?_toDigits (b : UInt8) {rest : List Char} (h : Ends 10 rest) :
    readByte? (Nat.toDigits 10 b.toNat ++ rest) = some (b, rest) := by
  have hb : b.toNat < 256 := b.toNat_lt
  have hshort : b.toNat < Nat.pow 10 3 := Nat.lt_trans hb (by decide)
  have hhead : (Nat.toDigits 10 b.toNat ++ rest).head? = (Nat.toDigits 10 b.toNat).head? := by
    rw [List.head?_append,
      Option.or_of_isSome (List.isSome_head?.2 (Text.toDigits_ne_nil (by decide)))]
  have hzero : ¬((Nat.toDigits 10 b.toNat ++ rest).head? = some '0' ∧
      1 < (Nat.toDigits 10 b.toNat ++ rest).length - rest.length) := by
    rintro ⟨hfirst, hlong⟩
    rw [hhead] at hfirst
    rw [Text.eq_singleton_of_head (by decide) (by decide) hfirst] at hlong
    simp at hlong
  rw [readByte?, readNumber?_toDigits (by decide) (by decide) (by decide) hshort h]
  simp only [Option.bind_eq_bind, Option.bind_some]
  rw [if_pos ⟨hb, hzero⟩, UInt8.ofNat_toNat]

theorem chars_eq (q : Quad) : q.chars = Nat.toDigits 10 q.a.toNat ++ '.' :: (Nat.toDigits 10 q.b.toNat ++
    '.' :: (Nat.toDigits 10 q.c.toNat ++ '.' :: Nat.toDigits 10 q.d.toNat)) := by
  simp [chars, List.intercalate]

theorem read?_chars (q : Quad) {rest : List Char} (h : Ends 10 rest) :
    read? (q.chars ++ rest) = some (q, rest) := by
  have hdot : ∀ cs, Ends 10 ('.' :: cs) := ends_cons (by decide)
  rw [chars_eq]
  simp only [List.append_assoc, List.cons_append, read?]
  rw [readByte?_toDigits q.a (hdot _)]
  simp only [Option.bind_eq_bind, Option.bind_some, readNext?]
  rw [readByte?_toDigits q.b (hdot _)]
  simp only [Option.bind_some]
  rw [readByte?_toDigits q.c (hdot _)]
  simp only [Option.bind_some]
  rw [readByte?_toDigits q.d h]
  rfl

theorem readByte?_of_ends {cs : List Char} (h : Ends 10 cs) : readByte? cs = none := by
  rw [readByte?, readNumber?_of_ends h]
  rfl

theorem rest_of_readByte? {cs rest : List Char} {b : UInt8} (h : readByte? cs = some (b, rest)) :
    rest = cs.dropWhile (isDigitOf 10) := by
  unfold readByte? readNumber? at h
  dsimp only at h
  split at h
  · cases h
  · simp only [Option.bind_eq_bind, Option.bind_some] at h
    split at h
    · exact (congrArg Prod.snd (Option.some.inj h)).symm
    · cases h

/-- Four bytes have dots between them. -/
theorem read?_of_dotless {cs : List Char} (h : '.' ∉ cs) : read? cs = none := by
  cases hbyte : readByte? cs with
  | none => rw [read?, hbyte]; rfl
  | some p =>
    obtain ⟨b, rest⟩ := p
    rw [read?, hbyte]
    simp only [Option.bind_eq_bind, Option.bind_some]
    have hrest : '.' ∉ rest := by
      rw [rest_of_readByte? hbyte]
      exact fun hmem => h ((List.dropWhile_sublist _).subset hmem)
    have hnext : readNext? rest = none := by
      unfold readNext?
      split
      · exact absurd List.mem_cons_self hrest
      · rfl
    rw [hnext]
    rfl

theorem read?_of_ends {cs : List Char} (h : Ends 10 cs) : read? cs = none := by
  rw [read?, readByte?_of_ends h]
  rfl

end Quad

namespace Address

/-! ## Groups -/

/-- The text of groups that come after another one. -/
def laterChars (gs : List UInt16) : List Char := gs.flatMap fun g => ':' :: Nat.toDigits 16 g.toNat

theorem groupChars_cons (g : UInt16) (gs : List UInt16) :
    groupChars (g :: gs) = Nat.toDigits 16 g.toNat ++ laterChars gs := by
  induction gs generalizing g with
  | nil => simp [groupChars, laterChars, List.intercalate]
  | cons h gs ih =>
    rw [show groupChars (g :: h :: gs) = Nat.toDigits 16 g.toNat ++ [':'] ++ groupChars (h :: gs) from
      List.intercalate_cons_cons, ih]
    simp [laterChars]

theorem isDigitOf_of_mem_groupChars {gs : List UInt16} {c : Char} (h : c ∈ groupChars gs) :
    c = ':' ∨ isDigitOf 16 c = true := by
  have hlater : ∀ gs, c ∈ laterChars gs → c = ':' ∨ isDigitOf 16 c = true := by
    intro gs hmem
    obtain ⟨g, -, hg⟩ := List.mem_flatMap.1 hmem
    exact (List.mem_cons.1 hg).imp_right (Text.isDigitOf_of_mem (by decide) (by decide) c)
  cases gs with
  | nil => cases h
  | cons g gs =>
    rw [groupChars_cons] at h
    rcases List.mem_append.1 h with h | h
    · exact .inr (Text.isDigitOf_of_mem (by decide) (by decide) c h)
    · exact hlater gs h

theorem dotless_groupChars (gs : List UInt16) : '.' ∉ groupChars gs := by
  intro h
  have hdot := isDigitOf_of_mem_groupChars h
  revert hdot
  decide

/-- Reading groups stops in front of a text. -/
structure Stops (rest : List Char) : Prop where
  ends : Ends 16 rest
  dotless : '.' ∉ rest
  next : ∀ body, rest = ':' :: body → Ends 16 body

theorem stops_nil : Stops [] := ⟨ends_nil 16, nofun, nofun⟩

theorem stops_colons {rest : List Char} (h : '.' ∉ rest) : Stops (':' :: ':' :: rest) where
  ends := ends_cons (by decide) _
  dotless := by simpa using h
  next := by
    rintro _ ⟨⟩
    exact ends_cons (by decide) _

theorem Stops.readGroups_eq {rest : List Char} (h : Stops rest) (limit : Nat) (first : Bool) :
    readGroups limit first rest = ⟨[], false, rest⟩ := by
  cases limit with
  | zero => rfl
  | succ limit =>
    unfold readGroups
    dsimp only
    split
    · rfl
    · rename_i body hbody
      have hends : Ends 16 body ∧ '.' ∉ body := by
        cases first with
        | true =>
          cases hbody
          exact ⟨h.ends, h.dotless⟩
        | false =>
          simp only [Bool.false_eq_true, if_false] at hbody
          split at hbody
          · cases hbody
            exact ⟨h.next _ rfl, fun hmem => h.dotless (List.mem_cons_of_mem _ hmem)⟩
          · cases hbody
      have hquad : (if 0 < limit then Quad.read? body else none) = none := by
        rw [Quad.read?_of_dotless hends.2, ite_self]
      rw [hquad, readNumber?_of_ends hends.1]

/-- One group in front, where no dot follows. -/
theorem readGroups_group (g : UInt16) {rest : List Char} (hends : Ends 16 rest) (hdots : '.' ∉ rest)
    {limit : Nat} {run : GroupRun} (hrun : readGroups limit false rest = run) :
    readGroups (limit + 1) true (Nat.toDigits 16 g.toNat ++ rest) =
      { run with groups := g :: run.groups } := by
  have hone : 1 < 16 := by decide
  have hnumber := readNumber?_toDigits hone (Nat.le_refl 16) (show 0 < 4 by decide)
    (show g.toNat < Nat.pow 16 4 from g.toNat_lt) hends
  have hdotless : '.' ∉ Nat.toDigits 16 g.toNat ++ rest := by
    intro hmem
    rcases List.mem_append.1 hmem with hmem | hmem
    · have hdigit := Text.isDigitOf_of_mem (by decide) (by decide) _ hmem
      revert hdigit
      decide
    · exact hdots hmem
  have hquad : (if 0 < limit then Quad.read? (Nat.toDigits 16 g.toNat ++ rest) else none) = none := by
    rw [Quad.read?_of_dotless hdotless, ite_self]
  unfold readGroups
  simp only [if_true, hquad, hnumber, hrun, UInt16.ofNat_toNat]

theorem readGroups_colon (limit : Nat) (cs : List Char) (g : UInt16) (gs : List UInt16) {rest : List Char}
    (h : readGroups limit true cs = ⟨g :: gs, false, rest⟩) :
    readGroups limit false (':' :: cs) = ⟨g :: gs, false, rest⟩ := by
  cases limit with
  | zero => cases h
  | succ limit =>
    unfold readGroups at h ⊢
    simp only [Bool.false_eq_true, if_true, if_false] at h ⊢
    -- Only where nothing can be read does the colon make a difference.
    split at h
    · exact h
    · split at h
      · exact h
      · cases h

/-- Groups are read back up to where reading stops. -/
theorem readGroups_groupChars {rest : List Char} (hstops : Stops rest) (gs : List UInt16) (limit : Nat)
    (hlimit : gs.length ≤ limit) : readGroups limit true (groupChars gs ++ rest) = ⟨gs, false, rest⟩ := by
  induction gs generalizing limit with
  | nil => exact hstops.readGroups_eq limit true
  | cons g gs ih =>
    obtain ⟨limit, rfl⟩ : ∃ n, limit = n + 1 := ⟨limit - 1, by simp at hlimit; omega⟩
    have hshort : gs.length ≤ limit := by simpa using hlimit
    have hlater : readGroups limit false (laterChars gs ++ rest) = ⟨gs, false, rest⟩ ∧
        Ends 16 (laterChars gs ++ rest) ∧ '.' ∉ laterChars gs ++ rest := by
      cases gs with
      | nil => exact ⟨hstops.readGroups_eq limit false, hstops.ends, hstops.dotless⟩
      | cons h gs =>
        have htext : laterChars (h :: gs) ++ rest = ':' :: (groupChars (h :: gs) ++ rest) := by
          rw [groupChars_cons]
          simp [laterChars]
        rw [htext]
        refine ⟨readGroups_colon limit _ h gs (ih limit hshort), ends_cons (by decide) _, ?_⟩
        simp [dotless_groupChars, hstops.dotless]
    obtain ⟨hread, hends, hdots⟩ := hlater
    rw [groupChars_cons, List.append_assoc, readGroups_group g hends hdots hread]

/-! ## The stretch that is left out -/

/-- All groups of a stretch are zero. -/
def ZerosOf (gs : List UInt16) (z : Stretch) : Prop :=
  ∀ k, z.start ≤ k → k < z.start + z.length → gs[k]? = some 0

/-- The stretch found so far stays one of zeros, and so does the one that grows. -/
theorem zerosOf_zeroStretch (gs : List UInt16) (i : Nat) (current longest : Stretch)
    (hcurrent : ZerosOf gs current) (hplace : current.length = 0 ∨ current.start + current.length = i)
    (hlongest : ZerosOf gs longest) : ZerosOf gs (zeroStretch i current longest (gs.drop i)) := by
  generalize hrest : gs.drop i = rest
  induction rest generalizing i current longest with
  | nil => exact hlongest
  | cons g rest ih =>
    have hg : gs[i]? = some g := by
      rw [← List.head?_drop, hrest]
      rfl
    have htail : gs.drop (i + 1) = rest := by
      rw [← List.drop_drop, hrest]
      rfl
    rw [zeroStretch]
    split
    · rename_i hzero
      subst hzero
      have hgrown : ZerosOf gs ⟨if current.length = 0 then i else current.start, current.length + 1⟩ := by
        intro k hk hk'
        dsimp only at hk hk'
        by_cases hlast : k = i
        · rw [hlast, hg]
        · split at hk
          · rename_i hempty
            rw [if_pos hempty, hempty] at hk'
            omega
          · rename_i hsome
            rw [if_neg hsome] at hk'
            exact hcurrent k hk (by omega)
      refine ih (i + 1) _ _ hgrown (.inr ?_) ?_ htail
      · dsimp only
        split <;> omega
      · by_cases hlonger : longest.length < current.length + 1
        · rw [if_pos hlonger]
          exact hgrown
        · rw [if_neg hlonger]
          exact hlongest
    · refine ih (i + 1) _ _ ?_ (.inl rfl) hlongest htail
      intro k hk hk'
      simp at hk'

theorem end_of_zerosOf {gs : List UInt16} {z : Stretch} (h : ZerosOf gs z) (hz : 0 < z.length) :
    z.start + z.length ≤ gs.length := by
  have hlast := h (z.start + z.length - 1) (by omega) (by omega)
  have := (List.getElem?_eq_some_iff.1 hlast).1
  omega

/-- With zeros put in for the stretch the groups are complete again. -/
theorem take_zerosOf_drop {gs : List UInt16} {z : Stretch} (h : ZerosOf gs z) (hz : 0 < z.length) :
    gs.take z.start ++ List.replicate z.length 0 ++ gs.drop (z.start + z.length) = gs := by
  have hend := end_of_zerosOf h hz
  have hmiddle : (gs.drop z.start).take z.length = List.replicate z.length 0 := by
    refine List.ext_getElem? fun k => ?_
    rw [List.getElem?_take, List.getElem?_drop, List.getElem?_replicate]
    split
    · rename_i hk
      exact h (z.start + k) (by omega) (by omega)
    · rfl
  rw [← hmiddle, List.append_assoc, ← List.drop_drop, List.take_append_drop, List.take_append_drop]

/-! ## Whole addresses -/

theorem ofGroups?_toList (gs : Vector UInt16 8) : ofGroups? gs.toList = some (v6 gs) := by
  rw [ofGroups?, dif_pos (by simp)]
  rfl

theorem readV6?_groupChars (gs : Vector UInt16 8) : readV6? (groupChars gs.toList) = some (v6 gs, []) := by
  have hread := readGroups_groupChars stops_nil gs.toList 8 (by simp)
  rw [List.append_nil] at hread
  rw [readV6?, hread]
  dsimp only
  rw [if_pos (by simp), ofGroups?_toList]
  rfl

theorem readV6?_shortened (gs : Vector UInt16 8) {z : Stretch} (h : ZerosOf gs.toList z) (hz : 1 < z.length) :
    readV6? (groupChars (gs.toList.take z.start) ++ [':', ':'] ++
      groupChars (gs.toList.drop (z.start + z.length))) = some (v6 gs, []) := by
  have hend : z.start + z.length ≤ 8 := by simpa using end_of_zerosOf h (by omega)
  have hfront : (gs.toList.take z.start).length = z.start := by
    rw [List.length_take, Vector.length_toList]
    omega
  have hback : (gs.toList.drop (z.start + z.length)).length = 8 - (z.start + z.length) := by
    rw [List.length_drop, Vector.length_toList]
  have hhead := readGroups_groupChars
    (stops_colons (dotless_groupChars (gs.toList.drop (z.start + z.length)))) (gs.toList.take z.start) 8
    (by omega)
  have htail := readGroups_groupChars stops_nil (gs.toList.drop (z.start + z.length)) (7 - z.start) (by omega)
  rw [List.append_nil] at htail
  have htext : groupChars (gs.toList.take z.start) ++ [':', ':'] ++
      groupChars (gs.toList.drop (z.start + z.length)) = groupChars (gs.toList.take z.start) ++
        ':' :: ':' :: groupChars (gs.toList.drop (z.start + z.length)) := by simp
  rw [htext, readV6?, hhead]
  dsimp only
  rw [if_neg (by omega), if_neg (by simp), hfront]
  simp only [htail]
  rw [hback, show 8 - z.start - (8 - (z.start + z.length)) = z.length by omega,
    take_zerosOf_drop h (by omega), ofGroups?_toList]
  rfl

theorem groups_of_mapped {gs : List UInt16} {q : Quad} (h : mapped? gs = some q) :
    gs = [0, 0, 0, 0, 0, 0xFFFF] ++ q.groups := by
  have hsplit : ∀ g : UInt16, UInt16.ofNat ((UInt8.ofNat (g.toNat / 256)).toNat * 256 +
      (UInt8.ofNat (g.toNat % 256)).toNat) = g := by
    intro g
    have hg : g.toNat < 65536 := g.toNat_lt
    rw [UInt8.toNat_ofNat_of_lt' (by simp [UInt8.size]; omega),
      UInt8.toNat_ofNat_of_lt' (by simp [UInt8.size]; omega), Nat.div_add_mod' g.toNat 256,
      UInt16.ofNat_toNat]
  unfold mapped? at h
  split at h
  · rename_i g g'
    cases h
    rw [Quad.groups, hsplit, hsplit]
    rfl
  · cases h

theorem readV6?_mapped (gs : Vector UInt16 8) {q : Quad} (h : mapped? gs.toList = some q) :
    readV6? ("::ffff:".toList ++ q.chars) = some (v6 gs, []) := by
  have hquad := q.read?_chars (ends_nil 10)
  rw [List.append_nil] at hquad
  have hten : ∀ cs, Ends 10 (':' :: cs) := ends_cons (by decide)
  have hsixteen : ∀ cs, Ends 16 (':' :: cs) := ends_cons (by decide)
  have hhead : ∀ cs, readGroups 8 true (':' :: cs) = ⟨[], false, ':' :: cs⟩ := by
    intro cs
    unfold readGroups
    simp only [if_true, show (0 < 7) = True by simp, Quad.read?_of_ends (hten cs),
      readNumber?_of_ends (hsixteen cs)]
  -- After the two colons comes one group, and then the four bytes.
  have htail : readGroups 7 true ('f' :: 'f' :: 'f' :: 'f' :: ':' :: q.chars) =
      ⟨0xFFFF :: q.groups, true, []⟩ := by
    have hf : Ends 10 ('f' :: 'f' :: 'f' :: 'f' :: ':' :: q.chars) := ends_cons (by decide) _
    have hnumber : readNumber? 16 4 ('f' :: 'f' :: 'f' :: 'f' :: ':' :: q.chars) =
        some (0xFFFF, ':' :: q.chars) := by
      have hwritten : 'f' :: 'f' :: 'f' :: 'f' :: ':' :: q.chars =
          Nat.toDigits 16 0xFFFF ++ ':' :: q.chars := by
        rw [show Nat.toDigits 16 0xFFFF = ['f', 'f', 'f', 'f'] by decide]
        rfl
      rw [hwritten]
      exact readNumber?_toDigits (by decide) (by decide) (by decide) (by decide) (hsixteen _)
    have hbytes : readGroups 6 false (':' :: q.chars) = ⟨q.groups, true, []⟩ := by
      unfold readGroups
      simp only [Bool.false_eq_true, if_false, show (0 < 5) = True by simp, if_true, hquad]
    unfold readGroups
    simp only [if_true, show (0 < 6) = True by simp, Quad.read?_of_ends hf, hnumber, hbytes]
    rfl
  have htext : "::ffff:".toList ++ q.chars =
      ':' :: ':' :: 'f' :: 'f' :: 'f' :: 'f' :: ':' :: q.chars := rfl
  rw [htext, readV6?, hhead]
  simp only [List.length_nil, show ((0 : Nat) = 8) = False by simp, if_false, Bool.false_eq_true,
    Nat.sub_zero, htail]
  have hgroups : [] ++ List.replicate (8 - (0xFFFF :: q.groups).length) 0 ++ 0xFFFF :: q.groups =
      gs.toList := (groups_of_mapped h).symm
  rw [hgroups, ofGroups?_toList]
  rfl

/-- Every address is read back from what is written for it. -/
theorem ofChars?_chars (a : Address) : ofChars? a.chars = some a := by
  cases a with
  | v4 q =>
    have hquad := q.read?_chars (ends_nil 10)
    rw [List.append_nil] at hquad
    rw [chars, ofChars?, hquad]
  | v6 gs =>
    rw [chars, v6Chars]
    split
    · rename_i q hq
      have hcolon : Ends 10 ("::ffff:".toList ++ q.chars) := ends_cons (c := ':') (by decide) _
      rw [ofChars?, Quad.read?_of_ends hcolon]
      dsimp only
      rw [readV6?_mapped gs hq]
    · have hzeros : ZerosOf gs.toList (zeroStretch 0 ⟨0, 0⟩ ⟨0, 0⟩ gs.toList) := by
        have hnone : ZerosOf gs.toList ⟨0, 0⟩ := fun k _ hk => absurd hk (by simp)
        have hall := zerosOf_zeroStretch gs.toList 0 ⟨0, 0⟩ ⟨0, 0⟩ hnone (.inl rfl) hnone
        rwa [List.drop_zero] at hall
      dsimp only
      split
      · rename_i hlong
        rw [ofChars?, Quad.read?_of_dotless (by simp [dotless_groupChars])]
        dsimp only
        rw [readV6?_shortened gs hzeros hlong]
      · rw [ofChars?, Quad.read?_of_dotless (dotless_groupChars _)]
        dsimp only
        rw [readV6?_groupChars]

/-! ## Blanks -/

theorem not_blank_of_mem {a : Address} {c : Char} (h : c ∈ a.chars) : isBlank c = false := by
  have hcolon : isBlank ':' = false := by decide
  have hgroup : ∀ gs, c ∈ groupChars gs → isBlank c = false := by
    intro gs hmem
    rcases isDigitOf_of_mem_groupChars hmem with rfl | hdigit
    · exact hcolon
    · exact Text.isBlank_of_isDigitOf hdigit
  have hquad : ∀ q : Quad, c ∈ q.chars → isBlank c = false := by
    intro q hmem
    have hdigits : ∀ n, c ∈ Nat.toDigits 10 n → isBlank c = false := fun n hn =>
      Text.isBlank_of_isDigitOf (Text.isDigitOf_of_mem (by decide) (by decide) c hn)
    rw [Quad.chars_eq] at hmem
    simp only [List.mem_append, List.mem_cons] at hmem
    rcases hmem with hmem | rfl | hmem | rfl | hmem | rfl | hmem
    · exact hdigits _ hmem
    · decide
    · exact hdigits _ hmem
    · decide
    · exact hdigits _ hmem
    · decide
    · exact hdigits _ hmem
  cases a with
  | v4 q => exact hquad q h
  | v6 gs =>
    rw [chars, v6Chars] at h
    split at h
    · rename_i q hq
      rcases List.mem_append.1 h with h | h
      · have hnone : "::ffff:".toList.any isBlank = false := by decide
        exact Bool.eq_false_iff.2 (List.any_eq_false.1 hnone c h)
      · exact hquad q h
    · dsimp only at h
      split at h
      · simp only [List.mem_append, List.mem_cons, List.not_mem_nil, or_false] at h
        rcases h with (h | h | h) | h
        · exact hgroup _ h
        · rw [h, hcolon]
        · rw [h, hcolon]
        · exact hgroup _ h
      · exact hgroup _ h

theorem trim_text (a : Address) : Text.trim a.text.toList = a.chars := by
  rw [text, String.toList_ofList, Text.IsTrim.trim_eq]
  exact Text.isTrim_of_not_blank fun c hc => not_blank_of_mem hc

end Address

end SharedDesk
