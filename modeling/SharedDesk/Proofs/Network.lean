import SharedDesk.Config
import SharedDesk.Proofs.Address.RoundTrip
/-!
# Network settings survive being stored

Settings have no fault when their ports need no privilege and differ from each other (`validate_eq_ok_iff`). Such
settings are read back from the section that describes them (`settings_ofSettings`), and only they are ever
staged. Whatever text an address was given as, the settings that come of it are read back from what is written for
them (`kept_as_text`).
-/

namespace SharedDesk

variable {s t : NetworkSettings}

namespace NetworkSettings

/-- Three different ports from 1024 on. -/
structure Bindable (s : NetworkSettings) : Prop where
  distinct : [s.control, s.input, s.discovery].Nodup
  unprivileged : ∀ port ∈ [s.control, s.input, s.discovery], 1024 ≤ port.toNat

theorem firstDuplicate?_eq_none_iff (ports : List (PortUse × UInt16)) :
    firstDuplicate? ports = none ↔ (ports.map Prod.snd).Nodup := by
  induction ports with
  | nil => simp [firstDuplicate?]
  | cons p rest ih =>
    rw [firstDuplicate?, List.map_cons, List.nodup_cons]
    cases hrepeat : rest.find? fun q => q.2 == p.2 with
    | some q =>
      have hfound := List.find?_some hrepeat
      have hsame : q.2 = p.2 := eq_of_beq hfound
      have hmem : p.2 ∈ rest.map Prod.snd := List.mem_map.2 ⟨q, List.mem_of_find?_eq_some hrepeat, hsame⟩
      simp [hmem]
    | none =>
      have hnew : p.2 ∉ rest.map Prod.snd := by
        intro hmem
        obtain ⟨q, hq, hsame⟩ := List.mem_map.1 hmem
        exact absurd (beq_iff_eq.2 hsame) (List.find?_eq_none.1 hrepeat q hq)
      simp only [ih, hnew, not_false_eq_true, true_and]

theorem validate_eq_ok_iff : s.validate = .ok () ↔ s.Bindable := by
  have hprivilege : (s.ports.find? fun p => p.2 < lowestPort) = none ↔
      ∀ port ∈ [s.control, s.input, s.discovery], 1024 ≤ port.toNat := by
    simp [ports, lowestPort, UInt16.lt_iff_toNat_lt]
  have hchecks : s.validate = .ok () ↔
      (s.ports.find? fun p => p.2 < lowestPort) = none ∧ firstDuplicate? s.ports = none := by
    rw [validate]
    cases s.ports.find? fun p => p.2 < lowestPort <;> simp only [reduceCtorEq, false_and, true_and]
    cases firstDuplicate? s.ports <;> simp
  rw [hchecks, hprivilege, firstDuplicate?_eq_none_iff]
  exact ⟨fun h => ⟨h.2, h.1⟩, fun h => ⟨h.unprivileged, h.distinct⟩⟩

theorem validate_of_ofParts {control input discovery : UInt16} {text : String}
    (h : ofParts control input discovery text = .ok s) : s.validate = .ok () := by
  unfold ofParts at h
  split at h
  · cases h
  · dsimp only at h
    split at h
    · cases h
      assumption
    · cases h

theorem ofParts_text (h : s.validate = .ok ()) :
    ofParts s.control s.input s.discovery s.address.text = .ok s := by
  rw [ofParts, Address.trim_text, Address.ofChars?_chars]
  dsimp only
  rw [h]

end NetworkSettings

theorem NetworkSection.settings_ofSettings (h : s.validate = .ok ()) :
    (NetworkSection.ofSettings s).settings = .ok s :=
  NetworkSettings.ofParts_text h

namespace NetworkSettings

section Texts

variable {control input discovery : UInt16} {text : String} {before after : List Char}

theorem ofParts_surrounded (h : ofParts control input discovery text = .ok s)
    (hbefore : ∀ c ∈ before, Text.isBlank c = true) (hafter : ∀ c ∈ after, Text.isBlank c = true) :
    ofParts control input discovery (String.ofList (before ++ text.toList ++ after)) = .ok s := by
  rw [ofParts] at h ⊢
  rw [String.toList_ofList, Text.trim_surrounded hbefore hafter]
  split at h
  · cases h
  · exact h

/-- Settings with three different ports from 1024 on, and any address, are read back from the section that is written
for them. They are what every text stands for that is accepted for an address, blanks around it or not. -/
theorem kept_as_text (s : NetworkSettings) :
    ((NetworkSection.ofSettings s).settings = .ok s ↔ s.Bindable) ∧
    ∀ n : NetworkSection, n.settings = .ok s → (NetworkSection.ofSettings s).settings = .ok s ∧
      ∀ before after : List Char, (∀ c ∈ before, Text.isBlank c = true) → (∀ c ∈ after, Text.isBlank c = true) →
        { n with bindAddress := String.ofList (before ++ n.bindAddress.toList ++ after) }.settings = .ok s := by
  refine ⟨⟨fun h => validate_eq_ok_iff.1 (validate_of_ofParts h), fun h => ?_⟩, fun n h => ⟨?_, ?_⟩⟩
  · exact NetworkSection.settings_ofSettings (validate_eq_ok_iff.2 h)
  · exact NetworkSection.settings_ofSettings (validate_of_ofParts h)
  · exact fun before after hbefore hafter => ofParts_surrounded h hbefore hafter

/-- An address of eight groups that stands for one of four bytes, given in capital letters with a line break. -/
theorem mapped_address_kept :
    (NetworkSection.ofSettings ⟨5000, 5001, 5002, .v6 #v[0, 0, 0, 0, 0, 0xFFFF, 0xC000, 0x201]⟩).settings =
      .ok ⟨5000, 5001, 5002, .v6 #v[0, 0, 0, 0, 0, 0xFFFF, 0xC000, 0x201]⟩ ∧
    (⟨5000, 5001, 5002, "\u3000 0:0::FFFF:C000:201\n"⟩ : NetworkSection).settings =
      .ok ⟨5000, 5001, 5002, .v6 #v[0, 0, 0, 0, 0, 0xFFFF, 0xC000, 0x201]⟩ := by
  have hread : (⟨5000, 5001, 5002, "0:0::FFFF:C000:201"⟩ : NetworkSection).settings =
      .ok ⟨5000, 5001, 5002, .v6 #v[0, 0, 0, 0, 0, 0xFFFF, 0xC000, 0x201]⟩ := by decide +kernel
  obtain ⟨hkept, hsurrounded⟩ := (kept_as_text _).2 _ hread
  exact ⟨hkept, hsurrounded ['\u3000', ' '] ['\n'] (List.all_eq_true.1 rfl) (List.all_eq_true.1 rfl)⟩

end Texts

end NetworkSettings

theorem StagedNetwork.stage_eq_ok_iff (n n' : StagedNetwork) :
    n.stage s = .ok n' ↔ s.validate = .ok () ∧ n' = { n with staged := s } := by
  rw [stage]
  cases s.validate with
  | ok _ => simp [eq_comm]
  | error _ => simp

end SharedDesk
