/-!
# Tables sorted by key

A `Table κ α` holds at most one `α` for each key, its rows ascending by the key's rank. The order
is part of the type, so two tables that answer every look-up alike are equal, and every listing
comes out in key order.
-/

namespace SharedDesk

/-- Keys that can be put in order: each has a rank, and no two share one. -/
class Ranked (κ : Type) where
  /-- Where the key stands in the order. -/
  rank : κ → Nat
  rank_inj : ∀ {a b : κ}, rank a = rank b → a = b

open Ranked (rank)

/-- Rows in ascending order of their keys. -/
def Ascending {κ α : Type} [Ranked κ] (rows : List (κ × α)) : Prop :=
  rows.Pairwise fun a b => rank a.1 < rank b.1

instance {κ α : Type} [Ranked κ] (rows : List (κ × α)) : Decidable (Ascending rows) :=
  inferInstanceAs (Decidable (rows.Pairwise _))

/-- At most one value for each key, sorted by key. -/
structure Table (κ α : Type) [Ranked κ] where
  /-- The rows, in ascending order of their keys. -/
  rows : List (κ × α)
  ascending : Ascending rows
deriving DecidableEq

namespace Table

variable {κ α β : Type} [Ranked κ]

/-! ## Putting a row in its place -/

/-- Puts a row where its key belongs, in place of a row of the same key. -/
def place (k : κ) (a : α) : List (κ × α) → List (κ × α)
  | [] => [(k, a)]
  | row :: rest =>
    if rank k < rank row.1 then (k, a) :: row :: rest
    else if rank k = rank row.1 then (k, a) :: rest
    else row :: place k a rest

theorem mem_place {k : κ} {a : α} {rows : List (κ × α)} {row : κ × α}
    (h : row ∈ place k a rows) : row = (k, a) ∨ row ∈ rows := by
  induction rows with
  | nil => simpa [place] using h
  | cons r rest ih =>
    unfold place at h
    split at h
    · simpa using h
    · split at h
      · rcases List.mem_cons.1 h with h | h
        · exact .inl h
        · exact .inr (by simp [h])
      · rcases List.mem_cons.1 h with h | h
        · exact .inr (by simp [h])
        · rcases ih h with h | h
          · exact .inl h
          · exact .inr (by simp [h])

theorem ascending_place (k : κ) (a : α) {rows : List (κ × α)} (h : Ascending rows) :
    Ascending (place k a rows) := by
  induction rows with
  | nil => simp [place, Ascending]
  | cons r rest ih =>
    obtain ⟨hr, hrest⟩ := List.pairwise_cons.1 h
    unfold place
    split
    · rename_i hlt
      refine List.pairwise_cons.2 ⟨fun row hrow => ?_, h⟩
      rcases List.mem_cons.1 hrow with rfl | hrow
      · exact hlt
      · exact Nat.lt_trans hlt (hr row hrow)
    · split
      · rename_i heq
        exact List.pairwise_cons.2 ⟨fun row hrow => by simpa [heq] using hr row hrow, hrest⟩
      · rename_i hlt hne
        refine List.pairwise_cons.2 ⟨fun row hrow => ?_, ih hrest⟩
        rcases mem_place hrow with rfl | hrow
        · show rank r.1 < rank k
          omega
        · exact hr row hrow

/-! ## Operations -/

/-- The table with no rows. -/
def empty : Table κ α := ⟨[], List.Pairwise.nil⟩

instance : Inhabited (Table κ α) := ⟨empty⟩

/-- The value stored for a key. -/
def find? (t : Table κ α) (k : κ) : Option α :=
  (t.rows.find? fun row => rank row.1 == rank k).map Prod.snd

/-- Whether a key has a row. -/
def contains (t : Table κ α) (k : κ) : Bool := (t.find? k).isSome

/-- Stores a value for a key, in place of what was there. -/
def insert (t : Table κ α) (k : κ) (a : α) : Table κ α :=
  ⟨place k a t.rows, ascending_place k a t.ascending⟩

/-- The rows for which `keep` holds. -/
def filter (t : Table κ α) (keep : κ → α → Bool) : Table κ α :=
  ⟨t.rows.filter fun row => keep row.1 row.2, t.ascending.filter _⟩

/-- Drops the row of a key. -/
def erase (t : Table κ α) (k : κ) : Table κ α := t.filter fun k' _ => rank k' != rank k

/-- Changes every value, and no key. -/
def map (t : Table κ α) (f : κ → α → β) : Table κ β :=
  ⟨t.rows.map fun row => (row.1, f row.1 row.2), by
    simpa [Ascending, List.pairwise_map] using t.ascending⟩

/-- The keys, ascending. -/
def keys (t : Table κ α) : List κ := t.rows.map Prod.fst

/-- The number of rows. -/
def size (t : Table κ α) : Nat := t.rows.length

/-- Whether there are no rows. -/
def isEmpty (t : Table κ α) : Bool := t.rows.isEmpty

/-- The rows of a list, a later one in place of an earlier one of the same key. -/
def ofList (rows : List (κ × α)) : Table κ α :=
  rows.foldl (fun t row => t.insert row.1 row.2) empty

end Table

end SharedDesk
