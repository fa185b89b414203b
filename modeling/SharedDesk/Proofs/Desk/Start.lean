import SharedDesk.Desk
import SharedDesk.Proofs.Admission.Outcome
/-!
# The desk at the start

Stored settings give a desk on which every client of the settings is disconnected, no session is open,
no address is locked out, and those clients are trusted that the settings trust (`start_admission`,
`start_phase?`).
-/

namespace SharedDesk.Desk

variable {config : Config} {file : Option ConfigFile} {capacity : Nat} {now : Time} {d : Desk} {id : Uuid}

/-- The settings trust a client. -/
def ListsTrusted (config : Config) (id : Uuid) : Prop :=
  ∃ c ∈ config.clients, c.trusted = true ∧ c.id = id

/-- A desk that something is computed from has started. -/
theorem exists_start {α : Type} {f : Desk → α} {x : α}
    (h : (start config file capacity now).toOption.map f = some x) :
    ∃ d, start config file capacity now = .ok d ∧ f d = x := by
  cases hd : start config file capacity now with
  | error fault =>
    rw [hd] at h
    cases h
  | ok d =>
    rw [hd] at h
    exact ⟨d, rfl, Option.some.inj h⟩

theorem isTrusted_trustAll (clients : List KnownClient) (m : Admission) (id : Uuid) :
    (clients.foldl (fun m c => m.trust c.id) m).isTrusted id = true ↔
      (∃ c ∈ clients, c.id = id) ∨ m.isTrusted id = true := by
  induction clients generalizing m with
  | nil => simp
  | cons c rest ih =>
    simp only [List.foldl_cons, ih, Admission.isTrusted_trust, Bool.or_eq_true, decide_eq_true_iff,
      List.mem_cons, exists_eq_or_imp]
    rw [← or_assoc, or_comm (a := ∃ _, _), eq_comm (a := id)]

/-- Trusting clients changes nothing but trust. -/
theorem trustAll_frame (clients : List KnownClient) (m : Admission) :
    let m' := clients.foldl (fun m c => m.trust c.id) m
    m'.policy = m.policy ∧ m'.sessions = m.sessions ∧ m'.lockouts = m.lockouts := by
  induction clients generalizing m with
  | nil => exact ⟨rfl, rfl, rfl⟩
  | cons c rest ih => exact ih (m.trust c.id)

theorem start_admission (h : start config file capacity now = .ok d) :
    d.admission.policy = config.pairing.policy ∧ d.admission.sessions = .empty ∧
      d.admission.lockouts = .empty ∧ ∀ id, d.admission.isTrusted id = true ↔ ListsTrusted config id := by
  unfold start at h
  split at h <;> cases h
  obtain ⟨hpolicy, hsessions, hlockouts⟩ :=
    trustAll_frame (config.clients.filter KnownClient.trusted) (.ofPolicy config.pairing.policy)
  refine ⟨hpolicy, hsessions, hlockouts, fun id => ?_⟩
  rw [storedTrust, isTrusted_trustAll, ListsTrusted]
  simp only [List.mem_filter, and_assoc, Admission.isTrusted, Admission.ofPolicy, Table.contains,
    Table.find?_empty, Option.isSome_none, Bool.false_eq_true, or_false]

/-- A pairing may take as long as its PIN is good. -/
theorem start_liveness (h : start config file capacity now = .ok d) :
    d.liveness.pairingTimeout = d.admission.policy.pinExpiry := by
  rw [(start_admission h).1]
  unfold start at h
  split at h <;> cases h
  rfl

theorem phase?_knownClients (clients : List KnownClient) (now : Time) (id : Uuid) :
    (knownClients clients now).phase? id ∈ [none, some .disconnected] := by
  have hstep : ∀ (clients : List KnownClient) (r : Registry), r.phase? id ∈ [none, some .disconnected] →
      (clients.foldl (fun r c => (r.register? c.id c.name now).getD r) r).phase? id ∈
        [none, some .disconnected] := by
    intro clients
    induction clients with
    | nil => exact fun r hr => hr
    | cons c rest ih =>
      intro r hr
      refine ih _ ?_
      dsimp only [Registry.register?]
      split
      · exact hr
      · rw [Option.getD_some, Registry.phase?_store]
        split
        · simp [Client.new]
        · exact hr
  exact hstep clients .empty (by simp [Registry.phase?, Registry.find?, Registry.empty])

theorem start_phase? (h : start config file capacity now = .ok d) (id : Uuid) :
    d.registry.phase? id ∈ [none, some .disconnected] := by
  unfold start at h
  split at h <;> cases h
  exact phase?_knownClients ..

end SharedDesk.Desk
