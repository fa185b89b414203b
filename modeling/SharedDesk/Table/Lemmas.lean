import SharedDesk.Table
/-!
# What a look-up finds in a table

Look-up is the view of a table: `find?_insert`, `find?_erase`, `find?_filter` and `find?_map` say what
every operation does to it, and `ext_find?` that tables which answer every look-up alike are equal.
-/

namespace SharedDesk

open Ranked (rank)

variable {κ α β : Type} [Ranked κ]

namespace Table

/-! ## Look-up and rows -/

theorem find?_eq_some_iff {t : Table κ α} {k : κ} {a : α} :
    t.find? k = some a ↔ (k, a) ∈ t.rows := by
  have hdistinct : t.rows.Pairwise fun x y => rank x.1 ≠ rank y.1 :=
    t.ascending.imp fun h => Nat.ne_of_lt h
  unfold find?
  generalize t.rows = rows at hdistinct
  induction rows with
  | nil => simp
  | cons r rest ih =>
    obtain ⟨hr, hrest⟩ := List.pairwise_cons.1 hdistinct
    by_cases hk : rank r.1 = rank k
    · obtain rfl : r.1 = k := Ranked.rank_inj hk
      simp only [List.find?_cons, beq_self_eq_true, Option.map_some, Option.some.injEq,
        List.mem_cons]
      constructor
      · rintro rfl
        exact .inl rfl
      · rintro (h | h)
        · exact (congrArg Prod.snd h).symm
        · exact absurd rfl (hr (r.1, a) h)
    · have hne : (k, a) ≠ r := fun h => hk (by rw [← h])
      simpa [List.find?_cons, hk, hne] using ih hrest

theorem contains_iff {t : Table κ α} {k : κ} : t.contains k = true ↔ ∃ a, (k, a) ∈ t.rows := by
  simp only [contains, Option.isSome_iff_exists, find?_eq_some_iff]

theorem mem_keys_iff {t : Table κ α} {k : κ} : k ∈ t.keys ↔ t.contains k = true := by
  simp [keys, contains_iff]

/-- Rows in order are told by their members. -/
theorem eq_of_ascending {rows rows' : List (κ × α)} (h : Ascending rows) (h' : Ascending rows')
    (hmem : ∀ row, row ∈ rows ↔ row ∈ rows') : rows = rows' := by
  induction rows generalizing rows' with
  | nil =>
    exact (List.eq_nil_iff_forall_not_mem.2 fun row hrow => by simpa using (hmem row).2 hrow).symm
  | cons r rest ih =>
    cases rows' with
    | nil => simpa using (hmem r).1 List.mem_cons_self
    | cons r' rest' =>
      obtain ⟨hr, hrest⟩ := List.pairwise_cons.1 h
      obtain ⟨hr', hrest'⟩ := List.pairwise_cons.1 h'
      have hhead : r = r' := by
        rcases List.mem_cons.1 ((hmem r).1 List.mem_cons_self) with heq | hmem₁
        · exact heq
        · rcases List.mem_cons.1 ((hmem r').2 List.mem_cons_self) with heq | hmem₂
          · exact heq.symm
          · exact absurd (Nat.lt_trans (hr r' hmem₂) (hr' r hmem₁)) (Nat.lt_irrefl _)
      subst hhead
      refine congrArg (r :: ·) (ih hrest hrest' fun row => ?_)
      constructor
      · intro hrow
        rcases List.mem_cons.1 ((hmem row).1 (List.mem_cons_of_mem r hrow)) with heq | hrow'
        · exact absurd (heq ▸ hr row hrow) (Nat.lt_irrefl _)
        · exact hrow'
      · intro hrow
        rcases List.mem_cons.1 ((hmem row).2 (List.mem_cons_of_mem r hrow)) with heq | hrow'
        · exact absurd (heq ▸ hr' row hrow) (Nat.lt_irrefl _)
        · exact hrow'

theorem ext_find? {t u : Table κ α} (h : ∀ k, t.find? k = u.find? k) : t = u := by
  have hrows : t.rows = u.rows := eq_of_ascending t.ascending u.ascending fun row => by
    rw [← find?_eq_some_iff (t := t), ← find?_eq_some_iff (t := u), h]
  cases t
  cases u
  simpa using hrows

/-! ## Look-up after an operation -/

@[simp]
theorem find?_empty (k : κ) : (empty : Table κ α).find? k = none := rfl

theorem mem_place_iff [DecidableEq κ] {k j : κ} {a b : α} {rows : List (κ × α)} (h : Ascending rows) :
    (j, b) ∈ place k a rows ↔ if j = k then b = a else (j, b) ∈ rows := by
  induction rows with
  | nil => by_cases hj : j = k <;> simp [place, hj]
  | cons r rest ih =>
    obtain ⟨hr, hrest⟩ := List.pairwise_cons.1 h
    have hlater : rank k ≤ rank r.1 → (k, b) ∉ rest := fun hle hmem =>
      absurd (Nat.lt_of_lt_of_le (hr (k, b) hmem) hle) (Nat.lt_irrefl _)
    unfold place
    split
    · rename_i hlt
      have hne : (k, b) ≠ r := fun heq => by simp [← heq] at hlt
      by_cases hj : j = k
      · subst hj
        simp [hne, hlater (Nat.le_of_lt hlt)]
      · simp [hj]
    · split
      · rename_i heq
        obtain rfl : k = r.1 := Ranked.rank_inj heq
        by_cases hj : j = r.1
        · subst hj
          simp [hlater (Nat.le_refl _)]
        · have hne : (j, b) ≠ r := fun heq => hj (congrArg Prod.fst heq)
          simp [hj, hne]
      · rename_i hne
        by_cases hj : j = k
        · subst hj
          have hne' : (j, b) ≠ r := fun heq => hne (by rw [← heq])
          simpa [hne'] using ih hrest
        · simpa [hj] using or_congr_right (ih hrest)

theorem find?_insert [DecidableEq κ] (t : Table κ α) (k j : κ) (a : α) :
    (t.insert k a).find? j = if j = k then some a else t.find? j := by
  refine Option.ext fun b => ?_
  rw [find?_eq_some_iff, insert, mem_place_iff t.ascending]
  split
  · simp [eq_comm]
  · exact find?_eq_some_iff.symm

theorem find?_filter (t : Table κ α) (keep : κ → α → Bool) (k : κ) :
    (t.filter keep).find? k = (t.find? k).filter (keep k) := by
  refine Option.ext fun a => ?_
  rw [find?_eq_some_iff, Option.filter_eq_some_iff, find?_eq_some_iff]
  simp [filter]

theorem find?_erase [DecidableEq κ] (t : Table κ α) (k j : κ) :
    (t.erase k).find? j = if j = k then none else t.find? j := by
  rw [erase, find?_filter]
  by_cases hj : j = k
  · simp [hj]
  · have hne : (rank j != rank k) = true := bne_iff_ne.2 fun h => hj (Ranked.rank_inj h)
    simp only [hne, hj, if_false]
    cases t.find? j <;> rfl

theorem find?_map (t : Table κ α) (f : κ → α → β) (k : κ) :
    (t.map f).find? k = (t.find? k).map (f k) := by
  refine Option.ext fun b => ?_
  rw [find?_eq_some_iff, Option.map_eq_some_iff]
  simp only [map, List.mem_map, Prod.mk.injEq, find?_eq_some_iff]
  constructor
  · rintro ⟨row, hrow, rfl, rfl⟩
    exact ⟨row.2, hrow, rfl⟩
  · rintro ⟨a, ha, rfl⟩
    exact ⟨(k, a), ha, rfl, rfl⟩

end Table

end SharedDesk
