import SharedDesk.Table.Lemmas
/-!
# Rows of a table

The rows after an operation, and the table made of rows whose keys differ: it holds exactly those
rows.
-/

namespace SharedDesk.Table

open Ranked (rank)

variable {κ α : Type} [Ranked κ]

theorem mem_rows_filter {t : Table κ α} {keep : κ → α → Bool} {row : κ × α} :
    row ∈ (t.filter keep).rows ↔ row ∈ t.rows ∧ keep row.1 row.2 = true :=
  List.mem_filter

theorem mem_rows_erase {t : Table κ α} {k : κ} {row : κ × α} :
    row ∈ (t.erase k).rows ↔ row ∈ t.rows ∧ row.1 ≠ k := by
  rw [erase, mem_rows_filter, bne_iff_ne]
  exact and_congr_right fun _ => not_congr ⟨fun h => Ranked.rank_inj h, fun h => h ▸ rfl⟩

/-- Of the rows put in one after the other, none is lost while no key comes twice. -/
theorem find?_foldl_insert [DecidableEq κ] (rows : List (κ × α)) (t : Table κ α)
    (hn : (rows.map Prod.fst).Nodup) (k : κ) (a : α) :
    (rows.foldl (fun t row => t.insert row.1 row.2) t).find? k = some a ↔
      (k, a) ∈ rows ∨ (k ∉ rows.map Prod.fst ∧ t.find? k = some a) := by
  induction rows generalizing t with
  | nil => simp
  | cons row rest ih =>
    obtain ⟨j, b⟩ := row
    obtain ⟨hj, hrest⟩ := List.nodup_cons.1 hn
    rw [List.foldl_cons, ih (t.insert j b) hrest, find?_insert]
    by_cases hk : k = j
    · subst hk
      have hnot : (k, a) ∉ rest := fun h => hj (List.mem_map.2 ⟨(k, a), h, rfl⟩)
      simp only [List.map_cons, List.mem_cons, Prod.mk.injEq, true_and, if_true, hj, hnot, not_true,
        not_false_eq_true, false_and, or_false, false_or, Option.some.injEq]
      exact eq_comm
    · simp [hk]

theorem mem_rows_ofList [DecidableEq κ] {rows : List (κ × α)} (hn : (rows.map Prod.fst).Nodup)
    (row : κ × α) : row ∈ (ofList rows).rows ↔ row ∈ rows := by
  rw [← find?_eq_some_iff (k := row.1) (a := row.2), ofList, find?_foldl_insert rows empty hn]
  simp

theorem nodup_keys (t : Table κ α) : (t.rows.map Prod.fst).Nodup :=
  List.pairwise_map.2 (t.ascending.imp fun hlt heq => Nat.ne_of_lt hlt (congrArg rank heq))

/-- Tables with the same rows are equal. -/
theorem ext_rows {t u : Table κ α} (h : ∀ row, row ∈ t.rows ↔ row ∈ u.rows) : t = u :=
  ext_find? fun k => Option.ext fun a => by rw [find?_eq_some_iff, find?_eq_some_iff, h]

/-- A table is made of its own rows. -/
theorem ofList_rows [DecidableEq κ] (t : Table κ α) : ofList t.rows = t :=
  ext_rows (mem_rows_ofList t.nodup_keys)

end SharedDesk.Table
