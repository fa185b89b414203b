import SharedDesk.Proofs.Admission.Outcome
/-!
# Every hello settles

Whatever the registry knows of a client, a hello takes it all the way: into the desk, to its PIN, or out again
(`settled_welcome`). No answer and no goodbye is stopped halfway by the table of legal moves either
(`hello_settles`).
-/

namespace SharedDesk.Admission

variable {m : Admission} {r : Registry} {h : Hello} {now : Time} {session : Uuid} {pin : Pin}

/-- How a hello leaves things that could go on with `session`. -/
structure Settled (m : Admission) (r : Registry) (h : Hello) (session : Uuid)
    (o : Outcome HandshakeFault Welcome) : Prop where
  never_stuck : ∀ fault, o.result ≠ .error (.registry fault)
  activated : o.result = .ok .activated ↔ h.check = .ok () ∧ m.isTrusted h.client = true
  invited : ∀ sid, o.result = .ok (.pairingRequired sid) ↔
    h.check = .ok () ∧ m.isTrusted h.client = false ∧ sid = session
  refused : ∀ fault, o.result = .error (.refused fault) ↔ h.check = .error fault
  active : o.registry.phase? h.client = some .active ↔ o.result = .ok .activated
  pairing : o.registry.phase? h.client = some .pairing ↔ ∃ sid, o.result = .ok (.pairingRequired sid)
  disconnected : o.registry.phase? h.client = some .disconnected ↔ ∃ fault, o.result = .error (.refused fault)
  /-- The client has no session but one that the answer names. -/
  own_sessions : ∀ sid, (∃ s, o.admission.sessions.find? sid = some s ∧ s.client = h.client) ↔
    o.result = .ok (.pairingRequired sid)
  other_records : ∀ j, j ≠ h.client → o.registry.find? j = r.find? j
  /-- The identifier drawn for a new session is to be nobody's. -/
  other_sessions : m.sessions.find? session = none → ∀ sid s, s.client ≠ h.client →
    (o.admission.sessions.find? sid = some s ↔ m.sessions.find? sid = some s)

/-- After a hello its client has the session that was just opened, and no other. -/
theorem exists_session_welcome_iff {sid : Uuid} :
    (∃ s, (m.welcome r h now session pin).admission.sessions.find? sid = some s ∧ s.client = h.client) ↔
      (m.welcome r h now session pin).result = .ok (.pairingRequired sid) := by
  constructor
  · rintro ⟨s, hs, hclient⟩
    rcases find?_welcome hs with ⟨rfl, hresult, -⟩ | ⟨-, hother⟩
    · exact hresult
    · exact absurd hclient hother
  · intro hresult
    exact ⟨_, (find?_of_pairingRequired hresult).2, rfl⟩

theorem settled_welcome (m : Admission) (r : Registry) (h : Hello) (now : Time) (session : Uuid) (pin : Pin) :
    Settled m r h session (m.welcome r h now session pin) := by
  have hresult := result_welcome m r h now session pin
  have hphase := phase?_welcome_self m r h now session pin
  refine
    { never_stuck := ?_, activated := ?_, invited := ?_, refused := ?_, active := ?_, pairing := ?_, disconnected := ?_
      own_sessions := fun _ => exists_session_welcome_iff
      other_records := fun j hj => record_welcome hj ..
      other_sessions := fun hfresh sid s hs => find?_welcome_of_ne hs hfresh r now pin sid }
  -- What is left is told by the answer and the phase alone.
  all_goals
    simp only [hresult, hphase]
    cases h.check with
    | error fault => simp
    | ok => cases m.isTrusted h.client <;> simp [eq_comm]

/-! ## Answers and goodbyes -/

theorem submit_ne_registry (m : Admission) (r : Registry) (session : Uuid) (answer : String) (peer : Address)
    (now : Time) (fault : RegistryFault) :
    (m.submit r session answer peer now).result ≠ .error (.registry fault) := by
  cases hl : m.lockedOut? peer now with
  | some n => simp [submit_of_locked hl]
  | none =>
    rw [submit_of_free hl]
    have hv := judge_verdict m r session answer peer now
    generalize m.judge r session answer peer now = o at hv
    cases hv <;> nofun

theorem disconnect_eq_error_iff {id : Uuid} {fault : RegistryFault} :
    (m.disconnect r id now).result = .error fault ↔ r.find? id = none ∧ fault = .unknownClient id := by
  have hf := disconnect_farewell m r id now
  generalize m.disconnect r id now = o at hf
  cases hf with
  | unknown hc => simp [hc, eq_comm]
  | closed hc | idle hc => simp [hc]

/-- A hello from an address that is not locked out is never stopped by the table of legal moves, wherever its client
is and whether it is known at all. A trusted client with a hello in order is active afterwards, any other one with a
hello in order is shown a PIN, is pairing and has one session, which is the one it was told, and a client whose hello
is not in order is disconnected, told why, and has no session. Nothing of other clients changes. An answer is never
stopped in that way, and a goodbye fails for clients that are not known and for no others. -/
theorem hello_settles (m : Admission) (r : Registry) :
    (∀ h peer now session pin, m.lockedOut? peer now = none →
      Settled m r h session (m.hello r h peer now session pin)) ∧
    (∀ session answer peer now fault,
      (m.submit r session answer peer now).result ≠ .error (.registry fault)) ∧
    (∀ id now fault, (m.disconnect r id now).result = .error fault ↔
      r.find? id = none ∧ fault = .unknownClient id) := by
  refine ⟨fun h peer now session pin hl => ?_, submit_ne_registry m r, fun _ _ _ => disconnect_eq_error_iff⟩
  rw [hello_of_free hl]
  exact settled_welcome m r h now session pin

/-- Two guests are shown their PINs, the first one after two wrong answers. -/
def twoGuests : Admission :=
  { ofPolicy ⟨3, Duration.ofSeconds 60, Duration.ofSeconds 60⟩ with
    sessions := (Table.empty.insert (.ofNat 8) ⟨.ofNat 2, "", 0, 0⟩).insert (.ofNat 9) ⟨.ofNat 1, "", 0, 2⟩ }

/-- The first guest says hello again: it gets a new session instead of its old one, and the other guest keeps its
own. -/
theorem guest_starts_over :
    let r := (Registry.empty.store (.ofNat 1) (.new "guest" .pairing 0)).store (.ofNat 2) (.new "other" .pairing 0)
    let o := twoGuests.hello r ⟨.ofNat 1, Hello.spokenVersion, "guest"⟩ .anyV4 1 (.ofNat 7) default
    o.result = .ok (.pairingRequired (.ofNat 7)) ∧ o.registry.phase? (.ofNat 1) = some .pairing ∧
    (¬ ∃ s, o.admission.sessions.find? (.ofNat 9) = some s ∧ s.client = .ofNat 1) ∧
    o.admission.sessions.find? (.ofNat 8) = some ⟨.ofNat 2, "", 0, 0⟩ ∧
    o.registry.find? (.ofNat 2) = r.find? (.ofNat 2) := by
  intro r o
  have hs := (hello_settles twoGuests r).1 ⟨.ofNat 1, Hello.spokenVersion, "guest"⟩ .anyV4 1 (.ofNat 7) default rfl
  have hresult : o.result = .ok (.pairingRequired (.ofNat 7)) :=
    (hs.invited (.ofNat 7)).2 ⟨rfl, by decide +kernel, rfl⟩
  refine ⟨hresult, hs.pairing.2 ⟨_, hresult⟩, fun hold => ?_, ?_, hs.other_records _ (by decide)⟩
  · have hnine := hresult.symm.trans ((hs.own_sessions (.ofNat 9)).1 hold)
    exact absurd (Welcome.pairingRequired.inj (Except.ok.inj hnine)) (by decide)
  · exact (hs.other_sessions (by decide +kernel) _ _ (by decide)).2 (by decide +kernel)

end SharedDesk.Admission
