import SharedDesk.Proofs.Desk.Entry
import SharedDesk.Proofs.Desk.Routing
import SharedDesk.Proofs.Registry.Probing
/-!
# Who has the keys

An event that follows the pointer goes to the client that the last pointer event went to, unless something has
released it since (`target_iff`). The router asks again whether sharing is on and the client is active, and
nothing else: not whether the client has been active all the time, and not whether its screen is still there.
`key_focus` says how far it can be trusted: the client has been active since the last pointer event unless it has
been brought in anew, and then its screen is still under the pointer unless an arrangement has taken it away.
`focus_left_behind` shows that either can happen.
-/

namespace SharedDesk

namespace Act

/-- An event of the pointer. -/
def isPointer : Act → Bool
  | .point .. => true
  | _ => false

/-- An event of the pointer that goes to a client. -/
def PointsAt (d : Desk) (id : Uuid) : Act → Prop
  | .point x y now => (d.routePointer x y now).1 = .client id
  | _ => False

/-- An act that takes the focus from a client without the pointer: sharing is turned off, the client is
forgotten, or an event would have to go to it while it is not active. -/
def Releases (d : Desk) (id : Uuid) : Act → Prop
  | .share on => on = false
  | .forget text => readClientId text = .ok id ∧ d.registry.contains id = true
  | .focus _ => d.registry.isActive id = false
  | _ => False

/-- A new arrangement in which a client's screen does not lie under a point any more. -/
def TakesAway (d : Desk) (id : Uuid) (x y : Int) : Act → Prop
  | .arrange forms => d.layout.Places id x y ∧ ¬ (d.act (.arrange forms)).layout.Places id x y
  | _ => False

end Act

namespace Desk

variable {d : Desk} {a : Act} {past since before : List Act} {id : Uuid} {x y : Int} {t now : Time}
  {config : Config} {file : Option ConfigFile} {capacity : Nat} {opening : Time}

/-! ## Screens -/

/-- The screen of a client that is active after an act stays where it is, unless a new arrangement has taken it
away. -/
theorem places_act (h : d.layout.Places id x y) (hactive : (d.act a).registry.isActive id = true)
    (ha : ¬ a.TakesAway d id x y) : (d.act a).layout.Places id x y := by
  obtain ⟨c, hc, -⟩ := Registry.isActive_iff_exists.1 hactive
  have hfrom := layout_act d a
  generalize hlayout : (d.act a).layout = layout at hfrom
  cases hfrom with
  | kept => exact h
  | arranged _ =>
    by_contra hgone
    exact ha ⟨h, hlayout ▸ hgone⟩
  | removed hread =>
    obtain ⟨region, hregion, hin⟩ := h
    refine ⟨region, Table.mem_rows_erase.2 ⟨hregion, fun hid => ?_⟩, hin⟩
    have hnone := find?_forgetClient hread d id
    rw [if_pos hid] at hnone
    cases hnone.symm.trans hc
  | pruned =>
    obtain ⟨region, hregion, hin⟩ := h
    exact ⟨region, Table.mem_rows_filter.2 ⟨hregion, Registry.contains_iff.2 ⟨c, hc⟩⟩, hin⟩

/-! ## Who has the focus -/

/-- A client has the focus if the pointer has brought it, or if it had the focus and nothing took it away. -/
theorem target_act (hquiet : d.router.Quiet) (a : Act) : (d.act a).router.target = .client id ↔
    a.PointsAt d id ∨ (d.router.target = .client id ∧ a.isPointer = false ∧ ¬ a.Releases d id) := by
  rw [router_act]
  cases a with
  | share on => cases on <;> simp [rerouted, Router.setSharing, Act.PointsAt, Act.isPointer, Act.Releases]
  | point x y now =>
    rw [rerouted, Router.sent_target]
    exact (or_iff_left fun hkept => Bool.noConfusion hkept.2.1).symm
  | focus now =>
    rw [rerouted, Router.sent_target, Router.focusTarget_eq_client_iff]
    constructor
    · rintro ⟨htarget, -, hactive⟩
      exact .inr ⟨htarget, rfl, by simp [Act.Releases, hactive]⟩
    · rintro (hpoints | ⟨htarget, -, hactive⟩)
      · cases hpoints
      · exact ⟨htarget, hquiet.sharing htarget, by simpa [Act.Releases] using hactive⟩
  | forget text =>
    simp only [rerouted, Act.PointsAt, Act.isPointer, Act.Releases, false_or, true_and]
    cases hread : readClientId text with
    | error bad => simp
    | ok j =>
      by_cases hknown : d.registry.contains j = true
      · by_cases hj : j = id
        · subst hj
          by_cases htarget : d.router.target = .client j <;> simp [hknown, Router.forget, htarget]
        · by_cases htarget : d.router.target = .client j <;> simp [hknown, Router.forget, htarget, hj]
      · simp only [hknown, Except.ok.injEq]
        refine (and_iff_left ?_).symm
        rintro ⟨rfl, hknown'⟩
        exact hknown hknown'
  | _ => simp [rerouted, Act.PointsAt, Act.isPointer, Act.Releases]

/-- The last event of the pointer went to a client, and nothing has released it since. -/
def Focused (d : Desk) (id : Uuid) (past : List Act) : Prop :=
  Since (fun a past => a.PointsAt (d.after past) id)
    (fun a past => a.isPointer = false ∧ ¬ a.Releases (d.after past) id) past

theorem target_iff (hidle : d.router = .idle) (past : List Act) :
    (d.after past).router.target = .client id ↔ Focused d id past := by
  have hquiet : d.router.Quiet := by
    rw [hidle]
    exact fun _ => rfl
  induction past with
  | nil =>
    rw [after, hidle]
    constructor
    · intro htarget
      cases htarget
    · intro hfocused
      cases hfocused
  | cons a past ih =>
    refine (target_act (quiet_after hquiet past) a).trans ?_
    constructor
    · rintro (hpoints | ⟨htarget, hkept⟩)
      · exact .here hpoints
      · exact .there hkept (ih.1 htarget)
    · intro hfocused
      cases hfocused with
      | here hpoints => exact .inl hpoints
      | there hkept hfocused => exact .inr ⟨ih.2 hfocused, hkept⟩

/-- Who has the focus got the last event of the pointer. -/
theorem Focused.points (h : Focused d id (since ++ .point x y t :: before))
    (hsince : ∀ a ∈ since, a.isPointer = false) : ((d.after before).routePointer x y t).1 = .client id := by
  induction since with
  | nil =>
    cases h with
    | here hpoints => exact hpoints
    | there hkept _ => cases hkept.1
  | cons a since ih =>
    obtain ⟨ha, hsince⟩ := List.forall_mem_cons.1 hsince
    cases h with
    | here hpoints =>
      cases a with
      | point => cases ha
      | _ => cases hpoints
    | there _ h => exact ih h hsince

/-! ## How long the focus has its reason -/

/-- Along the acts since some past, a client stays active, and no act brings it in anew. -/
def Uninterrupted (d : Desk) (id : Uuid) (before since : List Act) : Prop :=
  ∀ a past, a :: past <:+ since →
    (d.after (a :: past ++ before)).registry.isActive id = true ∧ ¬ Enters d id a (past ++ before)

/-- Who is active and has not been brought in anew has been active all the time. -/
theorem uninterrupted_iff (hactive : (d.after (since ++ before)).registry.isActive id = true) :
    Uninterrupted d id before since ↔ ∀ a past, a :: past <:+ since → ¬ Enters d id a (past ++ before) := by
  constructor
  · intro h a past hsuffix
    exact (h a past hsuffix).2
  · intro hnone
    induction since with
    | nil =>
      intro a past hsuffix
      cases List.suffix_nil.1 hsuffix
    | cons b since ih =>
      have hb := hnone b since List.suffix_rfl
      have hbefore : (d.after (since ++ before)).registry.isActive id = true := by
        by_contra hidle
        exact hb ⟨hactive, .inl (Bool.eq_false_iff.2 hidle)⟩
      intro a past hsuffix
      rcases List.suffix_cons_iff.1 hsuffix with heq | hsuffix
      · obtain ⟨rfl, rfl⟩ := List.cons.inj heq
        exact ⟨hactive, hb⟩
      · exact ih hbefore (fun a past h => hnone a past (h.trans (List.suffix_cons ..))) a past hsuffix

/-- While a client is active all the time, only a new arrangement can take its screen away. -/
theorem places_after (h : (d.after before).layout.Places id x y) (hactive : Uninterrupted d id before since)
    (hnone : ∀ a past, a :: past <:+ since → ¬ a.TakesAway (d.after (past ++ before)) id x y) :
    (d.after (since ++ before)).layout.Places id x y := by
  induction since with
  | nil => exact h
  | cons a since ih =>
    have hsuffix : since <:+ a :: since := List.suffix_cons ..
    refine places_act (ih ?_ ?_) (hactive a since List.suffix_rfl).1 (hnone a since List.suffix_rfl)
    · exact fun b past h => hactive b past (h.trans hsuffix)
    · exact fun b past h => hnone b past (h.trans hsuffix)

/-- After any run of a desk, an event that follows the pointer goes to a client exactly if sharing is on, the
client is active, and the last event of the pointer went to it and nothing has released it since; otherwise the
master keeps it. That last event found the client's screen under the pointer. The client has been active ever
since exactly if no act has brought it in anew, and then its screen is still there unless a new arrangement has
taken it away. -/
theorem key_focus (h : start config file capacity opening = .ok d) (past : List Act) (now : Time) :
    let d' := d.after past
    (∀ id, (d'.routeFocused now).1 = .client id ↔
      d'.router.sharing = true ∧ d'.registry.isActive id = true ∧ Focused d id past) ∧
    ((d'.routeFocused now).1 = .master ↔
      ¬ ∃ id, d'.router.sharing = true ∧ d'.registry.isActive id = true ∧ Focused d id past) ∧
    ∀ id x y t since before, (d'.routeFocused now).1 = .client id → past = since ++ .point x y t :: before →
      (∀ a ∈ since, a.isPointer = false) →
      let pointed := .point x y t :: before
      ((d.after before).routePointer x y t).1 = .client id ∧ (d.after pointed).layout.Places id x y ∧
      (Uninterrupted d id pointed since ↔
        ∀ a past, a :: past <:+ since → ¬ Enters d id a (past ++ pointed)) ∧
      (Uninterrupted d id pointed since → d'.layout.Places id x y ∨
        ∃ a past, a :: past <:+ since ∧ a.TakesAway (d.after (past ++ pointed)) id x y) := by
  intro d'
  have hgoes : ∀ id, (d'.routeFocused now).1 = .client id ↔
      d'.router.sharing = true ∧ d'.registry.isActive id = true ∧ Focused d id past := by
    intro id
    rw [← target_iff (router_start h)]
    exact Router.focusTarget_eq_client_iff.trans and_rotate
  refine ⟨hgoes, ?_, ?_⟩
  · simp only [← hgoes]
    cases (d'.routeFocused now).1 <;> simp
  · intro id x y t since before hclient hpast hsince pointed
    obtain ⟨-, hactive, hfocused⟩ := (hgoes id).1 hclient
    rw [hpast] at hfocused
    have hpoints := hfocused.points hsince
    obtain ⟨width, height, accepted, kept, hedited⟩ := (arranged_start h).after before
    have hplaces : (d.after pointed).layout.Places id x y :=
      ((Router.pointerTarget_eq_client_iff hedited x y).1 hpoints).2.1
    have hactive' : (d.after (since ++ pointed)).registry.isActive id = true := hpast ▸ hactive
    refine ⟨hpoints, hplaces, uninterrupted_iff hactive', fun hunbroken => ?_⟩
    by_contra hnone
    obtain ⟨hgone, hnone⟩ := not_or.1 hnone
    apply hgone
    rw [show d' = d.after (since ++ pointed) from congrArg d.after hpast]
    exact places_after hplaces hunbroken fun a past hsuffix htakes => hnone ⟨a, past, hsuffix, htakes⟩

/-- The left one has the keys while the right one comes in. -/
theorem keys_on_the_left : ∃ d since pointed, start besideEachOther none 8 0 = .ok d ∧
    bothArrive = since ++ pointed ∧ pointed.head? = some (.point (-10) 10 2) ∧
    ((d.after bothArrive).routeFocused 4).1 = .client (.ofNat 1) ∧ Focused d (.ofNat 1) bothArrive ∧
    Uninterrupted d (.ofNat 1) pointed since := by
  have hrun : (start besideEachOther none 8 0).toOption.map (fun d =>
      (((d.after bothArrive).routeFocused 4).1, (d.after bothArrive.tail).registry.isActive (.ofNat 1))) =
        some (.client (.ofNat 1), true) := by
    decide +kernel
  obtain ⟨d, hd, hrun⟩ := exists_start hrun
  obtain ⟨hclient, hactive⟩ := Prod.mk.inj hrun
  obtain ⟨hgoes, -, hlast⟩ := key_focus hd bothArrive 4
  let arrival : Act := .hello ⟨.ofNat 2, Hello.spokenVersion, "right"⟩ .anyV4 3 (.ofNat 9) default
  obtain ⟨-, -, hunbroken, -⟩ := hlast (.ofNat 1) (-10) 10 2 _ _ hclient
    (show bothArrive = [arrival] ++ _ from rfl) (by simp [arrival, Act.isPointer])
  refine ⟨d, _, _, hd, rfl, rfl, hclient, ((hgoes _).1 hclient).2.2, hunbroken.2 ?_⟩
  intro a past hsuffix
  obtain ⟨rfl, rfl⟩ : a = arrival ∧ past = [] := by
    simpa [List.suffix_cons_iff] using hsuffix
  rintro ⟨-, hidle | ⟨heq, -⟩⟩
  · cases hactive.symm.trans hidle
  · cases heq

/-- The left one is sent the pointer, goes, and comes again; the latest act comes first. -/
def leftAndReturned : List Act :=
  [.hello ⟨.ofNat 1, Hello.spokenVersion, "left"⟩ .anyV4 5 (.ofNat 9) default,
    .disconnect (.ofNat 1) 4,
    .point (-10) 10 2,
    .share true,
    .hello ⟨.ofNat 1, Hello.spokenVersion, "left"⟩ .anyV4 1 (.ofNat 8) default]

/-- The left one is sent the pointer, and its screen is taken away. -/
def screenTakenAway : List Act :=
  [.arrange [],
    .point (-10) 10 2,
    .share true,
    .hello ⟨.ofNat 1, Hello.spokenVersion, "left"⟩ .anyV4 1 (.ofNat 8) default]

/-- A client gets the keys though it has not been active all the time since the last event of the pointer; and
another time though its screen does not lie under the pointer any more. -/
theorem focus_left_behind : ∃ d, start besideEachOther none 8 0 = .ok d ∧
    ((d.after leftAndReturned).routeFocused 6).1 = .client (.ofNat 1) ∧
    (d.after leftAndReturned.tail).registry.isActive (.ofNat 1) = false ∧
    ((d.after screenTakenAway).routeFocused 6).1 = .client (.ofNat 1) ∧
    ¬ (d.after screenTakenAway).layout.Places (.ofNat 1) (-10) 10 := by
  have hrun : (start besideEachOther none 8 0).toOption.map (fun d =>
      (((d.after leftAndReturned).routeFocused 6).1,
        (d.after leftAndReturned.tail).registry.isActive (.ofNat 1),
        ((d.after screenTakenAway).routeFocused 6).1, (d.after screenTakenAway).layout.placements)) =
          some (.client (.ofNat 1), false, .client (.ofNat 1), []) := by
    decide +kernel
  obtain ⟨d, hd, hrun⟩ := exists_start hrun
  simp only [Prod.mk.injEq] at hrun
  obtain ⟨hreturned, hidle, htaken, hnone⟩ := hrun
  refine ⟨d, hd, hreturned, hidle, htaken, ?_⟩
  rintro ⟨region, hregion, -⟩
  rw [hnone] at hregion
  cases hregion

end Desk

end SharedDesk
