import SharedDesk.Proofs.Desk.Restart
import SharedDesk.Proofs.Uuid.Spelling
import Mathlib.Data.List.Forall2
import Mathlib.Data.List.Nodup
/-!
# What is set is what is shown

A form describes a placement when its text spells the client (`Describes`), and reading forms finds the one
placement that each describes (`placements_eq_ok_iff`). A list of forms that is applied names every client once, and
what is shown afterwards are its placements, ascending by client (`arrangement_shown`).
-/

namespace SharedDesk

variable {text : String} {id : Uuid} {f : ScreenForm} {p : Placement} {forms : List ScreenForm}
  {candidate : List Placement}

/-! ## Forms and placements -/

theorem readClientId_eq_ok_iff : readClientId text = .ok id ↔ id.Spells text.toList := by
  rw [← Uuid.ofChars?_eq_some_iff, readClientId, Uuid.read]
  cases Uuid.ofChars? text.toList with
  | none => simp
  | some found => simp

/-- A text spells one client at most. -/
theorem Uuid.Spells.unique {cs : List Char} {id id' : Uuid} (h : id.Spells cs) (h' : id'.Spells cs) : id = id' :=
  Option.some.inj ((Uuid.ofChars?_eq_some_iff.2 h).symm.trans (Uuid.ofChars?_eq_some_iff.2 h'))

namespace ScreenForm

/-- A form describes a placement in any spelling of its client. -/
def Describes (f : ScreenForm) (p : Placement) : Prop := p.1.Spells f.clientId.toList ∧ f.region = p.2

theorem placement_eq_ok_iff : f.placement = .ok p ↔ f.Describes p := by
  rw [placement, Describes, ← readClientId_eq_ok_iff]
  cases readClientId f.clientId with
  | error bad => simp
  | ok id => simp [Prod.ext_iff]

theorem placement_ofPlacement (p : Placement) : (ofPlacement p).placement = .ok p := by
  refine placement_eq_ok_iff.2 ⟨?_, rfl⟩
  rw [ofPlacement, Uuid.text, String.toList_ofList]
  exact .hyphenated p.1.isDigits_hexDigits

/-- Forms are read as the placements that they describe one by one. -/
theorem placements_eq_ok_iff : placements forms = .ok candidate ↔ List.Forall₂ Describes forms candidate := by
  rw [placements]
  induction forms generalizing candidate with
  | nil => cases candidate <;> simp [pure, Except.pure]
  | cons f forms ih =>
    rw [List.mapM_cons]
    cases candidate with
    | nil =>
      cases hf : f.placement with
      | error bad => simp [bind, Except.bind]
      | ok p => cases forms.mapM placement <;> simp [bind, Except.bind, pure, Except.pure]
    | cons p candidate =>
      rw [List.forall₂_cons, ← placement_eq_ok_iff, ← ih]
      cases f.placement with
      | error bad => simp [bind, Except.bind]
      | ok p' => cases forms.mapM placement <;> simp [bind, Except.bind, pure, Except.pure]

theorem exists_describes (h : List.Forall₂ Describes forms candidate) (hf : f ∈ forms) :
    ∃ p ∈ candidate, f.Describes p := by
  induction h with
  | nil => cases hf
  | cons hp hrest ih =>
    rcases List.mem_cons.1 hf with rfl | hf
    · exact ⟨_, List.mem_cons_self, hp⟩
    · obtain ⟨q, hq, hfq⟩ := ih hf
      exact ⟨q, List.mem_cons_of_mem _ hq, hfq⟩

/-- Where no client is placed twice, no two forms spell one client, in whatever spellings. -/
theorem pairwise_of_once (h : List.Forall₂ Describes forms candidate) (honce : (candidate.map Prod.fst).Nodup) :
    forms.Pairwise fun f g => ∀ id : Uuid, id.Spells f.clientId.toList → ¬ id.Spells g.clientId.toList := by
  induction h with
  | nil => exact .nil
  | @cons f p forms candidate hf hrest ih =>
    obtain ⟨hnew, honce⟩ := List.nodup_cons.1 honce
    refine List.pairwise_cons.2 ⟨fun g hg id hidf hidg => ?_, ih honce⟩
    obtain ⟨q, hq, hgq⟩ := exists_describes hrest hg
    have hsame : p.1 = q.1 := (hf.1.unique hidf).trans (hidg.unique hgq.1)
    exact hnew (List.mem_map.2 ⟨q, hq, hsame.symm⟩)

end ScreenForm

/-! ## Applying -/

namespace Desk

variable {d : Desk} {past : List Act} {config : Config} {file : Option ConfigFile} {capacity : Nat}
  {opening : Time}

/-- The answer to an arrangement that was taken over, saved or not. -/
def Applied : Except CommandFault Unit → Prop
  | .ok () => True
  | .error (.layoutNotSaved _) => True
  | .error _ => False

/-- An arrangement is taken over with all its placements, or nothing changes. -/
theorem updateLayout_cases (d : Desk) (forms : List ScreenForm) :
    (¬ Applied (d.updateLayout forms).1 ∧ (d.updateLayout forms).2 = d) ∨
    (Applied (d.updateLayout forms).1 ∧ ∃ candidate, ScreenForm.placements forms = .ok candidate ∧
      Layout.Faultless d.layout.master d.registry.contains candidate ∧
      (d.updateLayout forms).2.layout = { d.layout with screens := .ofList candidate }) := by
  unfold updateLayout arrange
  cases hread : ScreenForm.placements forms with
  | error bad => exact .inl ⟨id, rfl⟩
  | ok candidate =>
    dsimp only
    cases hreplace : d.layout.replace d.registry.contains candidate with
    | error fault => exact .inl ⟨id, rfl⟩
    | ok layout =>
      obtain ⟨hfaultless, rfl⟩ := (Layout.replace_eq_ok_iff ..).1 hreplace
      have hkept : ({ d with layout := { d.layout with screens := .ofList candidate } } : Desk).persist.2.layout =
          { d.layout with screens := .ofList candidate } := configure_layout ..
      dsimp only
      split <;> rename_i hsaved <;> rw [hsaved] at hkept <;>
        exact .inr ⟨trivial, candidate, rfl, hfaultless, hkept⟩

/-- The rows of a table made of rows with different keys are those rows in order. -/
theorem perm_rows_ofList (h : (candidate.map Prod.fst).Nodup) : (Table.ofList candidate).rows.Perm candidate :=
  (List.perm_ext_iff_of_nodup (List.Nodup.of_map _ (Table.nodup_keys _)) (List.Nodup.of_map _ h)).2
    (Table.mem_rows_ofList h)

/-- Between any two acts of a run, forms are applied as a whole or change nothing. Each applied form describes one
placement, and what is shown then are these placements with every client in lower case and in groups, strictly
ascending by client. No two applied forms spell one client, whether or not they spell it alike: a text is read as
a client exactly when it is one of its spellings, and the text that is shown for a client is read as that client. -/
theorem arrangement_shown (h : start config file capacity opening = .ok d)
    (hpast : ∀ a ∈ past, a.isWhole = true) (forms : List ScreenForm) :
    let d := d.after past
    (Applied (d.updateLayout forms).1 → ∃ candidate shown : List Placement,
      List.Forall₂ ScreenForm.Describes forms candidate ∧ shown.Perm candidate ∧
      shown.Pairwise (fun p q => p.1.toNat < q.1.toNat) ∧
      (d.updateLayout forms).2.getLayout =
        .ok (shown.map fun p => ⟨String.ofList (Uuid.grouped (Text.hexDigits 32 p.1.toNat)), p.2⟩) ∧
      forms.Pairwise fun f g => ∀ id : Uuid, id.Spells f.clientId.toList → ¬ id.Spells g.clientId.toList) ∧
    (¬ Applied (d.updateLayout forms).1 → (d.updateLayout forms).2 = d) ∧
    (∀ text id, readClientId text = .ok id ↔ id.Spells text.toList) ∧
    ∀ p, (ScreenForm.ofPlacement p).placement = .ok p := by
  have hverify : ((d.after past).updateLayout forms).2.verify = .ok () :=
    (referenced_act (a := .arrange forms) (referenced_after (referenced_start h) hpast) rfl).verify_eq
  dsimp only
  refine ⟨fun happlied => ?_, fun hrefused => ?_, fun _ _ => readClientId_eq_ok_iff, ScreenForm.placement_ofPlacement⟩
  · rcases (d.after past).updateLayout_cases forms with ⟨hnot, -⟩ | ⟨-, candidate, hread, hfaultless, hlayout⟩
    · exact absurd happlied hnot
    · have hdescribes := ScreenForm.placements_eq_ok_iff.1 hread
      refine ⟨candidate, (Table.ofList candidate).rows, hdescribes, perm_rows_ofList hfaultless.once,
        (Table.ofList candidate).ascending, ?_, ScreenForm.pairwise_of_once hdescribes hfaultless.once⟩
      rw [getLayout, hverify, hlayout]
      rfl
  · rcases (d.after past).updateLayout_cases forms with ⟨-, hsame⟩ | ⟨happlied, -⟩
    · exact hsame
    · exact absurd happlied hrefused

/-- The guest's screen in braces and capital letters, and the left one's after `urn:uuid:`. -/
def spelledOddly : List ScreenForm :=
  [⟨"\x7b00000000-0000-0000-0000-00000000000A\x7d", ⟨1920, 0, 1280, 1024⟩⟩,
    ⟨"URN:uuid:00000000-0000-0000-0000-000000000001", ⟨-1280, 0, 1280, 1024⟩⟩]

/-- A guest says hello. -/
def guestArrives : List Act := [.hello ⟨.ofNat 10, Hello.spokenVersion, "guest"⟩ .anyV4 1 (.ofNat 9) default]

theorem spelledOddly_shown : ∃ d, start besideEachOther none 8 0 = .ok d ∧
    (∀ a ∈ guestArrives, a.isWhole = true) ∧ Applied ((d.after guestArrives).updateLayout spelledOddly).1 ∧
    (∃ candidate, List.Forall₂ ScreenForm.Describes spelledOddly candidate) ∧
    ((d.after guestArrives).updateLayout spelledOddly).2.getLayout =
      .ok [⟨"00000000-0000-0000-0000-000000000001", ⟨-1280, 0, 1280, 1024⟩⟩,
        ⟨"00000000-0000-0000-0000-00000000000a", ⟨1920, 0, 1280, 1024⟩⟩] := by
  have hwhole : ∀ a ∈ guestArrives, a.isWhole = true := by
    simp [guestArrives, Act.isWhole]
  have hrun : (start besideEachOther none 8 0).toOption.map (fun d =>
      (((d.after guestArrives).updateLayout spelledOddly).1.toOption,
        ((d.after guestArrives).updateLayout spelledOddly).2.getLayout.toOption)) =
        some (some (), some [⟨"00000000-0000-0000-0000-000000000001", ⟨-1280, 0, 1280, 1024⟩⟩,
          ⟨"00000000-0000-0000-0000-00000000000a", ⟨1920, 0, 1280, 1024⟩⟩]) := by
    decide +kernel
  obtain ⟨d, hd, hrun⟩ := exists_start hrun
  obtain ⟨hok, hlayout⟩ := Prod.mk.inj hrun
  have happlied : Applied ((d.after guestArrives).updateLayout spelledOddly).1 := by
    rw [eq_ok_of_toOption hok]
    trivial
  obtain ⟨candidate, -, hdescribes, -⟩ := (arrangement_shown hd hwhole spelledOddly).1 happlied
  exact ⟨d, hd, hwhole, happlied, ⟨candidate, hdescribes⟩, eq_ok_of_toOption hlayout⟩

end Desk

end SharedDesk
