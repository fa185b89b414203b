import SharedDesk.Proofs.Admission.Outcome
import SharedDesk.Proofs.Text.Blank
/-!
# The name that is kept of a client

Whatever a client calls itself, the name that is kept is not empty, not too long and free of control characters
(`presentable_displayName`). Control characters are taken out after the blanks around the name have been cut off,
though, and so is what is too long. Blanks that stood next to them are left at either end, or alone
(`blank_name_kept`). A name that is free of them is kept for good (`displayName_eq_self_iff`), and the name of a hello
in order is one (`isTrim_displayName`).
-/

namespace SharedDesk

namespace Hello

variable {name : String} {cs : List Char}

/-- What can be shown as a name. -/
structure Presentable (cs : List Char) : Prop where
  ne_nil : cs ≠ []
  length_le : cs.length ≤ longestName
  no_control : ∀ c ∈ cs, Text.isControl c = false

theorem unnamed_plain : ∀ c ∈ "unnamed".toList, Text.isControl c = false ∧ Text.isBlank c = false := by
  have hall : ("unnamed".toList.all fun c => !Text.isControl c && !Text.isBlank c) = true := by decide
  intro c hc
  simpa using List.all_eq_true.1 hall c hc

theorem presentable_unnamed : Presentable "unnamed".toList :=
  ⟨by decide, by decide, fun c hc => (unnamed_plain c hc).1⟩

theorem Presentable.trim (h : Presentable cs) (hne : Text.trim cs ≠ []) : Presentable (Text.trim cs) where
  ne_nil := hne
  length_le := Nat.le_trans (Text.trim_sublist cs).length_le h.length_le
  no_control c hc := h.no_control c ((Text.trim_sublist cs).subset hc)

/-- A name is in order if what is left between the blanks around it can be shown. -/
theorem nameFault?_eq_none_iff : nameFault? name = none ↔ Presentable (Text.trim name.toList) := by
  unfold nameFault?
  generalize Text.trim name.toList = cs
  constructor
  · intro h
    by_cases hempty : cs.isEmpty <;> by_cases hlong : longestName < cs.length <;>
      by_cases hcontrol : cs.any Text.isControl <;> simp [hempty, hlong, hcontrol] at h
    exact ⟨by simpa using hempty, Nat.not_lt.1 hlong, by simpa using hcontrol⟩
  · rintro ⟨hne, hlength, hcontrol⟩
    simpa [hne, Nat.not_lt.2 hlength] using hcontrol

theorem nameFault?_eq_empty_iff : nameFault? name = some .empty ↔ Text.trim name.toList = [] := by
  unfold nameFault?
  generalize Text.trim name.toList = cs
  by_cases hempty : cs = []
  · simp [hempty]
  · by_cases hlong : longestName < cs.length <;> by_cases hcontrol : cs.any Text.isControl <;>
      simp [hempty, hlong, hcontrol]

/-- The characters of a name that are kept. -/
def keptChars (name : String) : List Char :=
  ((Text.trim name.toList).filter fun c => !Text.isControl c).take longestName

theorem toList_displayName (name : String) :
    (displayName name).toList = if keptChars name = [] then "unnamed".toList else keptChars name := by
  unfold displayName
  change (if (keptChars name).isEmpty then "unnamed" else String.ofList (keptChars name)).toList = _
  by_cases h : keptChars name = [] <;> simp [h]

theorem presentable_displayName (name : String) : Presentable (displayName name).toList := by
  rw [toList_displayName]
  split
  · exact presentable_unnamed
  · rename_i hne
    refine ⟨hne, List.length_take_le .., ?_⟩
    intro c hc
    simpa using (List.mem_filter.1 (List.mem_of_mem_take hc)).2

/-- Of a name in order all is kept between the blanks around it. -/
theorem toList_displayName_of_inOrder (h : nameFault? name = none) :
    (displayName name).toList = Text.trim name.toList := by
  have hp := nameFault?_eq_none_iff.1 h
  have hkept : keptChars name = Text.trim name.toList := by
    rw [keptChars, List.filter_eq_self.2 fun c hc => by simp [hp.no_control c hc], List.take_of_length_le hp.length_le]
  rw [toList_displayName, hkept, if_neg hp.ne_nil]

/-- There are no blanks around what is kept of a name that is in order, or blank. -/
theorem isTrim_displayName (h : nameFault? name ∈ [none, some .empty]) : Text.IsTrim (displayName name).toList := by
  simp only [List.mem_cons, List.not_mem_nil, or_false] at h
  rcases h with h | h
  · rw [toList_displayName_of_inOrder h]
    exact Text.isTrim_trim _
  · have hkept : keptChars name = [] := by simp [keptChars, nameFault?_eq_empty_iff.1 h]
    rw [toList_displayName, if_pos hkept]
    exact Text.isTrim_of_not_blank fun c hc => (unnamed_plain c hc).2

/-! ## The kept name as a name -/

/-- All that can be wrong with a name that was kept is that it is blank. -/
theorem nameFault?_displayName (name : String) : nameFault? (displayName name) ∈ [none, some .empty] := by
  by_cases h : Text.trim (displayName name).toList = []
  · simp [nameFault?_eq_empty_iff.2 h]
  · simp [nameFault?_eq_none_iff.2 ((presentable_displayName name).trim h)]

theorem nameFault?_displayName_eq_none_iff :
    nameFault? (displayName name) = none ↔ ∃ c ∈ (displayName name).toList, Text.isBlank c = false := by
  have hblank : Text.trim (displayName name).toList ≠ [] ↔ ∃ c ∈ (displayName name).toList, Text.isBlank c = false := by
    simp [Text.trim_eq_nil_iff]
  rw [nameFault?_eq_none_iff, ← hblank]
  exact ⟨Presentable.ne_nil, (presentable_displayName name).trim⟩

theorem inOrder_of_isTrim (h : Text.IsTrim (displayName name).toList) : nameFault? (displayName name) = none := by
  rw [nameFault?_eq_none_iff, h.trim_eq]
  exact presentable_displayName name

/-- A kept name is kept as it is if there are no blanks around it. -/
theorem displayName_eq_self_iff :
    displayName (displayName name) = displayName name ↔ Text.IsTrim (displayName name).toList := by
  constructor
  · intro h
    rw [← h]
    exact isTrim_displayName (nameFault?_displayName name)
  · intro h
    rw [← String.toList_inj, toList_displayName_of_inOrder (inOrder_of_isTrim h), h.trim_eq]

theorem check_eq_ok_iff {h : Hello} : h.check = .ok () ↔ h.version = spokenVersion ∧ nameFault? h.name = none := by
  unfold check
  by_cases hv : h.version = spokenVersion
  · cases nameFault? h.name <;> simp [hv]
  · simp [hv]

end Hello

namespace Client

/-! ## The name in the registry -/

@[simp]
theorem enter_name (c : Client) (p : Phase) (now : Time) : (c.enter p now).name = c.name := rfl

end Client

namespace Registry

/-- The name under which a client is known. -/
def name? (r : Registry) (id : Uuid) : Option String := (r.find? id).map Client.name

theorem greeted_name (r : Registry) (id : Uuid) (name : String) (now : Time) : (r.greeted id name now).name = name := by
  unfold greeted
  split
  · unfold Client.greetAgain
    split <;> rfl
  · rfl

end Registry

namespace Admission

open Hello (displayName nameFault? longestName spokenVersion)

variable {m : Admission} {r : Registry} {h : Hello} {peer : Address} {now : Time} {session : Uuid} {pin : Pin}

/-- Every hello, in order or not, leaves the name that is kept of it. -/
theorem name?_welcome (m : Admission) (r : Registry) (h : Hello) (now : Time) (session : Uuid) (pin : Pin) :
    (m.welcome r h now session pin).registry.name? h.client = some (displayName h.name) := by
  have hr := welcome_reception m r h now session pin
  generalize m.welcome r h now session pin = o at hr
  cases hr <;> rw [Registry.name?, Registry.find?_store, if_pos rfl] <;> simp [Registry.greeted_name]

/-- The client can say its kept name, be let in with it or shown a PIN, and still be known by it. -/
def Repeats (o : Outcome HandshakeFault Welcome) (h : Hello) : Prop :=
  ∀ peer now session pin, o.admission.lockedOut? peer now = none →
    let again := o.admission.hello o.registry ⟨h.client, spokenVersion, displayName h.name⟩ peer now session pin
    (∃ w, again.result = .ok w) ∧ again.registry.name? h.client = some (displayName h.name)

theorem repeats_iff (hl : m.lockedOut? peer now = none) :
    Repeats (m.hello r h peer now session pin) h ↔ Text.IsTrim (displayName h.name).toList := by
  rw [← Hello.displayName_eq_self_iff, hello_of_free hl]
  constructor
  · intro hrepeats
    have hfree : (m.welcome r h now session pin).admission.lockedOut? peer now = none := by
      rw [lockedOut?, lockouts_welcome]
      exact hl
    have hname := (hrepeats peer now session pin hfree).2
    rw [hello_of_free hfree, name?_welcome] at hname
    exact Option.some.inj hname
  · intro hsame peer' now' session' pin' hfree
    have hcheck : Hello.check ⟨h.client, spokenVersion, displayName h.name⟩ = .ok () :=
      Hello.check_eq_ok_iff.2 ⟨rfl, Hello.inOrder_of_isTrim (Hello.displayName_eq_self_iff.1 hsame)⟩
    rw [hello_of_free hfree]
    constructor
    · rw [result_welcome, hcheck]
      dsimp only
      split <;> exact ⟨_, rfl⟩
    · rw [name?_welcome]
      exact congrArg some hsame

/-- Every hello from an address that is not locked out leaves a name that is not empty, not too long and free of control
characters; as a name it is in order unless all of it is blank. The client can say it again, and still be known by it,
exactly when it neither begins nor ends with a blank. So it is for every name announced that is in order, or blank
itself, and of a hello in order the name is kept as it is, but for the blanks around it. -/
theorem name_kept (m : Admission) (r : Registry) (h : Hello) (peer : Address) (now : Time) (session : Uuid) (pin : Pin)
    (hl : m.lockedOut? peer now = none) :
    let o := m.hello r h peer now session pin
    let name := displayName h.name
    o.registry.name? h.client = some name ∧
    name ≠ "" ∧ name.length ≤ longestName ∧ (∀ c ∈ name.toList, Text.isControl c = false) ∧
    (nameFault? name = none ↔ ∃ c ∈ name.toList, Text.isBlank c = false) ∧
    (Repeats o h ↔ Text.IsTrim name.toList) ∧
    (nameFault? h.name ∈ [none, some .empty] → Text.IsTrim name.toList) ∧
    (h.check = .ok () → name.toList = Text.trim h.name.toList) := by
  have hp := Hello.presentable_displayName h.name
  refine ⟨?_, ?_, hp.length_le, hp.no_control, Hello.nameFault?_displayName_eq_none_iff, repeats_iff hl,
    Hello.isTrim_displayName, ?_⟩
  · rw [hello_of_free hl]
    exact name?_welcome ..
  · intro hempty
    exact hp.ne_nil (by rw [hempty]; rfl)
  · intro hcheck
    exact Hello.toList_displayName_of_inOrder (Hello.check_eq_ok_iff.1 hcheck).2

/-- Three tries, and a minute for each PIN. -/
def threeTries : Admission := ofPolicy ⟨3, Duration.ofSeconds 60, Duration.ofSeconds 60⟩

/-- A guest is known by its name without the blanks around it, and can say that name again. -/
theorem guest_name_kept :
    let h : Hello := ⟨.ofNat 1, spokenVersion, " guest "⟩
    let o := threeTries.hello .empty h .anyV4 0 (.ofNat 9) default
    o.registry.name? (.ofNat 1) = some "guest" ∧ Repeats o h := by
  have hkept : displayName " guest " = "guest" := by decide +kernel
  obtain ⟨hname, -, -, -, -, hrepeats, htrim, -⟩ :=
    name_kept threeTries .empty ⟨.ofNat 1, spokenVersion, " guest "⟩ .anyV4 0 (.ofNat 9) default rfl
  exact ⟨hkept ▸ hname, hrepeats.2 (htrim (by decide +kernel))⟩

/-- Of a blank between two control characters the blank is kept, which is no name: said again, it is refused, and
another name is kept. -/
theorem blank_name_kept :
    let o := threeTries.hello .empty ⟨.ofNat 1, spokenVersion, "\x1b \x1b"⟩ .anyV4 0 (.ofNat 9) default
    let again := o.admission.hello o.registry ⟨.ofNat 1, spokenVersion, " "⟩ .anyV4 1 (.ofNat 8) default
    o.registry.name? (.ofNat 1) = some " " ∧ nameFault? " " = some .empty ∧
    again.result = .error (.refused (.badName .empty)) ∧ again.registry.name? (.ofNat 1) = some "unnamed" := by
  decide +kernel

end Admission

end SharedDesk
