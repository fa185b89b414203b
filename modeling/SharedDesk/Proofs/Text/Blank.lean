import Mathlib.Data.List.DropRight
import SharedDesk.Text.Blank
/-!
# Cutting blanks off

Cutting blanks off both ends leaves a text that neither begins nor ends with one (`isTrim_trim`), and such a text stays
as it is (`IsTrim.trim_eq`). What is cut off are blanks only: nothing is left of a text exactly when all of it is
blank (`trim_eq_nil_iff`). Blanks added around a text are cut off with those that it had (`trim_surrounded`).
-/

namespace SharedDesk.Text

/-- A text that neither begins nor ends with a blank. -/
def IsTrim (cs : List Char) : Prop :=
  (∀ c ∈ cs.head?, isBlank c = false) ∧ ∀ c ∈ cs.getLast?, isBlank c = false

variable {cs : List Char}

theorem isTrim_of_not_blank (h : ∀ c ∈ cs, isBlank c = false) : IsTrim cs :=
  ⟨fun c hc => h c (List.mem_of_head? hc), fun c hc => h c (List.mem_of_getLast? hc)⟩

theorem trim_eq_rdropWhile (cs : List Char) : trim cs = (cs.dropWhile isBlank).rdropWhile isBlank := rfl

theorem trim_sublist (cs : List Char) : (trim cs).Sublist cs :=
  (List.rdropWhile_prefix _ _).sublist.trans (List.dropWhile_suffix _).sublist

theorem isTrim_trim (cs : List Char) : IsTrim (trim cs) := by
  constructor
  · intro c hc
    -- What is left begins where the blanks in front end.
    obtain ⟨rest, hrest⟩ := List.rdropWhile_prefix isBlank (cs.dropWhile isBlank)
    have hhead : (cs.dropWhile isBlank).head? = some c := by
      rw [← hrest, List.head?_append_of_ne_nil]
      · exact hc
      · rintro heq
        rw [trim_eq_rdropWhile, heq] at hc
        cases hc
    have hnot := List.head?_dropWhile_not isBlank cs
    rw [hhead] at hnot
    simpa using hnot
  · intro c hc
    have hne : trim cs ≠ [] := by
      intro heq
      rw [heq] at hc
      cases hc
    have hlast : (trim cs).getLast hne = c := Option.some.inj ((List.getLast?_eq_some_getLast hne).symm.trans hc)
    have hnot : ¬ isBlank ((trim cs).getLast hne) = true :=
      List.rdropWhile_last_not isBlank (cs.dropWhile isBlank) hne
    rw [hlast] at hnot
    simpa using hnot

theorem IsTrim.trim_eq (h : IsTrim cs) : trim cs = cs := by
  have hfront : cs.dropWhile isBlank = cs := by
    rw [List.dropWhile_eq_self_iff]
    intro hpos
    have hhead : cs.head? = some cs[0] := List.head?_eq_getElem? ▸ List.getElem?_eq_getElem hpos
    simp [h.1 _ hhead]
  have hback : cs.rdropWhile isBlank = cs := by
    rw [List.rdropWhile_eq_self_iff]
    intro hne
    simp [h.2 _ (List.getLast?_eq_some_getLast hne)]
  rw [trim_eq_rdropWhile, hfront, hback]

theorem trim_eq_nil_iff : trim cs = [] ↔ ∀ c ∈ cs, isBlank c = true := by
  rw [trim_eq_rdropWhile, List.rdropWhile_eq_nil_iff]
  constructor
  · intro hall c hc
    rw [← List.takeWhile_append_dropWhile (p := isBlank) (l := cs), List.mem_append] at hc
    rcases hc with hc | hc
    · exact List.mem_takeWhile_imp hc
    · exact hall c hc
  · intro hall c hc
    exact hall c ((List.dropWhile_suffix _).subset hc)

theorem trim_surrounded {before after : List Char} (hbefore : ∀ c ∈ before, isBlank c = true)
    (hafter : ∀ c ∈ after, isBlank c = true) (cs : List Char) : trim (before ++ cs ++ after) = trim cs := by
  have hfront : (before ++ cs ++ after).dropWhile isBlank =
      if (cs.dropWhile isBlank).isEmpty then [] else cs.dropWhile isBlank ++ after := by
    rw [List.append_assoc, List.dropWhile_append_of_pos hbefore, List.dropWhile_append,
      List.dropWhile_eq_nil_iff.2 hafter]
  have hback : ∀ rest : List Char, (rest ++ after).rdropWhile isBlank = rest.rdropWhile isBlank := by
    intro rest
    have hreverse : ∀ c ∈ after.reverse, isBlank c = true := fun c hc => hafter c (List.mem_reverse.1 hc)
    rw [List.rdropWhile, List.reverse_append, List.dropWhile_append_of_pos hreverse, ← List.rdropWhile]
  rw [trim_eq_rdropWhile, hfront]
  split
  · rename_i hempty
    rw [trim_eq_rdropWhile, List.isEmpty_iff.1 hempty]
  · exact hback _

end SharedDesk.Text
