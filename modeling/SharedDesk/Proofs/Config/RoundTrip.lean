import SharedDesk.Desk
import SharedDesk.Proofs.Config.Defaults
/-!
# Saved settings load as they were

Where no part is missing the settings are read as they were (`ofNode?_outline`). So settings with numbers that can be
written are read back from their text (`ofText?_text`), and a saved file loads as what was saved in it (`load_saved`).
-/

namespace SharedDesk

open Toml (Line)

variable {c : Config}

theorem Config.without_nothing (c : Config) : c.without (fun _ => false) = c := by
  have hclients : (c.clients.mapIdx fun _ k => k.without fun _ => false) = c.clients :=
    Toml.mapIdx_unchanged c.clients
  exact congrArg (Config.mk c.master c.network c.layout c.liveness c.pairing) hclients

theorem Config.complete_nothing (c : Config) : c.Complete fun _ => false :=
  ⟨fun _ _ _ _ _ _ => rfl, fun _ _ _ _ _ => rfl⟩

theorem Config.ofNode?_outline (c : Config) : ofNode? (.table .header c.outline.entries) = some c := by
  have hleft := c.ofNode?_left fun _ => false
  rwa [Toml.Outline.without_nothing, if_pos c.complete_nothing, c.without_nothing] at hleft

theorem Config.ofText?_text (h : c.isWritable = true) :
    ofText? (String.ofList (Line.render c.lines)) = some c := by
  have hread : Toml.Document.read? (String.ofList (Line.render c.lines)) = some c.outline.document := by
    rw [← lines_outline]
    refine Toml.read?_outline ?_ (by rw [lines_outline]; exact writable_lines h)
    rw [String.toList_ofList]
    exact Toml.textOf_render _
  rw [ofText?, hread]
  dsimp only [Option.bind_eq_bind, Option.bind_some]
  rw [ofDocument?, Toml.entries?_outline c.wellFormed_outline]
  exact c.ofNode?_outline

theorem Config.text?_eq (h : c.isWritable = true) : c.text? = some (String.ofList (Line.render c.lines)) := if_pos h

theorem ConfigFile.load_text (f : ConfigFile) (h : c.isWritable = true) :
    load { f with state := .file (String.ofList (Line.render c.lines)).toUTF8 } = .ok c := by
  rw [load_file, Config.ofText?_text h]

theorem Config.isWritable_iff_lt : c.isWritable = true ↔ ∀ n ∈ c.wideNumbers, n.toNat < 2 ^ 63 :=
  isWritable_iff.trans (forall₂_congr fun _ _ => Nat.lt_succ_iff.symm)

/-- Where no folder is in the way, settings whose numbers of 64 bits are below the half of their range are saved, and
the saved file loads as exactly these settings. Other settings are refused for their numbers: saving fails, and
whichever desk tried to save them leaves the file as it was. -/
theorem ConfigFile.load_saved (f : ConfigFile) (c : Config) (hfolder : f.state ≠ .folder)
    (hplace : f.state ≠ .blocked) :
    ((∀ n ∈ c.wideNumbers, n.toNat < 2 ^ 63) →
      ∃ f', f.save c = .ok f' ∧ f'.folder = f.folder ∧ f'.path = f.path ∧ f'.load = .ok c) ∧
    ((∃ n ∈ c.wideNumbers, 2 ^ 63 ≤ n.toNat) →
      f.save c = .error .outOfRange ∧ ∀ (d : Desk) (change : Config → Config), d.file = some f → change d.config = c →
        (d.configure change).1 = .error .outOfRange ∧ (d.configure change).2.file = some f) := by
  constructor
  · intro hsmall
    have hwritable : c.isWritable = true := Config.isWritable_iff_lt.2 hsmall
    refine ⟨{ f with state := .file (String.ofList (Line.render c.lines)).toUTF8 }, ?_, rfl, rfl,
      f.load_text hwritable⟩
    rw [save, if_neg hplace, Config.text?_eq hwritable]
    dsimp only
    rw [if_neg hfolder]
  · rintro ⟨n, hn, hlarge⟩
    have hwritable : c.isWritable ≠ true := fun h => Nat.not_lt.2 hlarge (Config.isWritable_iff_lt.1 h n hn)
    have hsave : f.save c = .error .outOfRange := by
      rw [save, if_neg hplace, Config.text?, if_neg hwritable]
    refine ⟨hsave, fun d change hfile hchange => ?_⟩
    rw [Desk.configure, hfile, hchange]
    dsimp only
    rw [hsave]
    exact ⟨rfl, rfl⟩

/-- Settings with quotes of both kinds, line breaks, a backslash and a control character, a client and a screen. -/
def oddSettings : Config :=
  { master := ⟨"\n\"\"\"' \\ '''"⟩
    network := { bindAddress := "\u0001\r\"" }
    layout := ⟨1920, 1080, [(.ofNat 1, ⟨-2147483648, 0, 1, 4294967295⟩)]⟩
    clients := [⟨.ofNat 1, "it's \"left\"\"", true⟩, ⟨.ofNat 2, "", false⟩] }

/-- They replace what was saved before; with a lockout of as many seconds as 64 bits can hold they do not. -/
theorem oddSettings_saved :
    (∃ f', (⟨"desk", "desk/config.toml", .file "old".toUTF8⟩ : ConfigFile).save oddSettings = .ok f' ∧
      f'.load = .ok oddSettings) ∧
    (⟨"desk", "desk/config.toml", .file "old".toUTF8⟩ : ConfigFile).save
      { oddSettings with pairing := { lockoutSeconds := 18446744073709551615 } } = .error .outOfRange := by
  have hsaved := fun c => ConfigFile.load_saved ⟨"desk", "desk/config.toml", .file "old".toUTF8⟩ c nofun nofun
  obtain ⟨f', hsave, -, -, hload⟩ := (hsaved oddSettings).1 (Config.isWritable_iff_lt.1 rfl)
  refine ⟨⟨f', hsave, hload⟩, ((hsaved _).2 ⟨18446744073709551615, ?_, by decide⟩).1⟩
  simp [Config.wideNumbers]

end SharedDesk
