import SharedDesk.Proofs.Admission.Outcome
import SharedDesk.Proofs.Table
import Mathlib.Data.List.Nodup
import Mathlib.Data.List.Perm.Basic
/-!
# Sessions and pairing clients

Between two operations a client is pairing within one session, which was opened when it began to pair,
or it is not on the way in and has no session (`Stands`). `stands_welcome`, `stands_judge` and
`stands_dropped` keep that of every client at once. Where it holds of every client, there are as many
sessions as pairing clients (`size_eq_countP`).
-/

namespace SharedDesk.Admission

/-- How a client stands between two operations. -/
inductive Stands (sessions : Table Uuid Session) (r : Registry) (id : Uuid) : Prop
  | pairing {sid : Uuid} {s : Session} : sessions.find? sid = some s → s.client = id →
      r.standing? id = some (.pairing, s.openedAt) →
      (∀ sid' s', sessions.find? sid' = some s' → s'.client = id → sid' = sid) →
      Stands sessions r id
  | apart : r.phase? id ∈ [none, some .disconnected, some .active] →
      (∀ sid s, sessions.find? sid = some s → s.client ≠ id) → Stands sessions r id

variable {sessions sessions' : Table Uuid Session} {m : Admission} {r r' : Registry}
  {id session sid sid' : Uuid} {s s' : Session} {now : Time}

theorem Stands.phase?_of_session (h : Stands sessions r id) (hs : sessions.find? sid = some s)
    (hc : s.client = id) : r.phase? id = some .pairing := by
  cases h with
  | pairing _ _ hstanding _ => rw [Registry.phase?_eq_map, hstanding]; rfl
  | apart _ hnone => exact absurd hc (hnone sid s hs)

theorem Stands.unique (h : Stands sessions r id) (hs : sessions.find? sid = some s)
    (hc : s.client = id) (hs' : sessions.find? sid' = some s') (hc' : s'.client = id) : sid = sid' := by
  cases h with
  | pairing _ _ _ honly => exact (honly sid s hs hc).trans (honly sid' s' hs' hc').symm
  | apart _ hnone => exact absurd hc (hnone sid s hs)

theorem Stands.settled (h : Stands sessions r id) :
    r.phase? id ≠ some .connecting ∧ r.phase? id ≠ some .connected := by
  cases h with
  | pairing _ _ hstanding _ => rw [Registry.phase?_eq_map, hstanding]; simp
  | apart hphase _ =>
    simp only [List.mem_cons, List.not_mem_nil, or_false] at hphase
    rcases hphase with h | h | h <;> simp [h]

/-! ## What leaves a client as it stands -/

theorem Stands.congr (h : Stands sessions r id)
    (hs : ∀ sid s, s.client = id → (sessions'.find? sid = some s ↔ sessions.find? sid = some s))
    (hr : r'.standing? id = r.standing? id) : Stands sessions' r' id := by
  cases h with
  | pairing hfound hclient hstanding honly =>
    refine .pairing ((hs _ _ hclient).2 hfound) hclient (hr.trans hstanding) ?_
    intro sid' s' hs' hc'
    exact honly sid' s' ((hs sid' s' hc').1 hs') hc'
  | apart hphase hnone =>
    refine .apart (Registry.phase?_of_standing? hr ▸ hphase) ?_
    intro sid s hfound hclient
    exact hnone sid s ((hs sid s hclient).1 hfound) hclient

/-- Losing the connection of an active client has nothing to do with pairing. -/
theorem Stands.of_registry (h : Stands sessions r id) (hr : r'.standing? id = r.standing? id ∨
    (r.phase? id = some .active ∧ r'.phase? id = some .disconnected)) : Stands sessions r' id := by
  rcases hr with hr | ⟨hactive, hgone⟩
  · exact h.congr (fun _ _ _ => Iff.rfl) hr
  · refine .apart (by simp [hgone]) ?_
    intro sid s hs hc
    have hpairing := h.phase?_of_session hs hc
    rw [hactive] at hpairing
    cases hpairing

/-! ## What takes a client off the way in -/

theorem stands_dropped (h : ∀ j, Stands m.sessions r j) (id : Uuid)
    (hphase : r'.phase? id ∈ [none, some .disconnected, some .active])
    (hr : ∀ j, j ≠ id → r'.standing? j = r.standing? j) (j : Uuid) :
    Stands (m.dropSessions id).sessions r' j := by
  by_cases hj : j = id
  · subst hj
    exact .apart hphase fun sid s hs => (find?_dropSessions_iff.1 hs).2
  · refine (h j).congr ?_ (hr j hj)
    intro sid s hc
    rw [find?_dropSessions_iff]
    exact and_iff_left (hc ▸ hj)

theorem stands_stored (h : ∀ j, Stands m.sessions r j) (id : Uuid) {c : Client}
    (hc : some c.phase ∈ [none, some .disconnected, some .active]) (j : Uuid) :
    Stands (m.dropSessions id).sessions (r.store id c) j := by
  apply stands_dropped h id
  · rwa [Registry.phase?_store, if_pos rfl]
  · intro j hj
    rw [Registry.standing?_store, if_neg hj]

/-- Closing the session of a pairing client is dropping all it has. -/
theorem closeSession_eq_dropSessions (h : ∀ j, Stands m.sessions r j)
    (hs : m.sessions.find? session = some s) : m.closeSession session = m.dropSessions s.client := by
  have hsame : (m.closeSession session).sessions = (m.dropSessions s.client).sessions := by
    refine Table.ext_find? fun sid => Option.ext fun s' => ?_
    rw [find?_closeSession_iff, find?_dropSessions_iff]
    constructor
    · rintro ⟨hne, hs'⟩
      exact ⟨hs', fun hc => hne ((h s.client).unique hs' hc hs rfl)⟩
    · rintro ⟨hs', hc⟩
      refine ⟨?_, hs'⟩
      rintro rfl
      exact hc (by rw [Option.some.inj (hs'.symm.trans hs)])
  exact congrArg (fun t => { m with sessions := t }) hsame

/-! ## Hello, answer, goodbye -/

/-- A hello leaves its client active, disconnected, or pairing within the session just opened. -/
theorem stands_welcome (h : ∀ j, Stands m.sessions r j) (hello : Hello)
    (hfresh : m.sessions.find? session = none) (pin : Pin) (j : Uuid) :
    Stands (m.welcome r hello now session pin).admission.sessions
      (m.welcome r hello now session pin).registry j := by
  by_cases hj : j = hello.client
  · subst hj
    have hr := welcome_reception m r hello now session pin
    generalize m.welcome r hello now session pin = o at hr
    cases hr with
    | refused | activated => exact stands_stored h hello.client (by simp) _
    | invited =>
      refine .pairing (by rw [Table.find?_insert, if_pos rfl]) rfl ?_ ?_
      · rw [Registry.standing?_store, if_pos rfl]
        simp [Client.standing, Client.enter]
      · intro sid' s' hs' hc'
        by_contra hne
        rw [Table.find?_insert, if_neg hne] at hs'
        exact (find?_dropSessions_iff.1 hs').2 hc'
  · refine (h j).congr ?_ (congrArg (Option.map Client.standing) (record_welcome hj ..))
    intro sid s hc
    exact find?_welcome_of_ne (hc ▸ hj) hfresh r now pin sid

/-- An answer leaves its client pairing within its session, or takes it off the way in. -/
theorem stands_judge (h : ∀ j, Stands m.sessions r j) (session : Uuid) (answer : String)
    (peer : Address) (now : Time)
    (hclock : (m.judge r session answer peer now).result ≠ .error .clockOverflow) (j : Uuid) :
    Stands (m.judge r session answer peer now).admission.sessions
      (m.judge r session answer peer now).registry j := by
  by_cases hother : ∀ s, m.sessions.find? session = some s → s.client ≠ j
  · refine (h j).congr ?_ (congrArg (Option.map Client.standing) (record_judge hother ..))
    intro sid s hc
    exact find?_judge_of_ne (hc ▸ hother) ..
  have hv := judge_verdict m r session answer peer now
  generalize m.judge r session answer peer now = o at hclock hv
  cases hv with
  | unknown => exact h j
  | stale hs hphase => exact absurd ((h _).phase?_of_session hs rfl) hphase
  | @late s c hdoor | @last s c deadline hdoor =>
    change Stands (m.closeSession session).sessions (r.store s.client (c.enter .disconnected now)) j
    rw [closeSession_eq_dropSessions h hdoor.session]
    exact stands_stored h s.client (by simp) j
  | @right s c hdoor =>
    change Stands (m.closeSession session).sessions (r.store s.client (c.enter .active now)) j
    rw [closeSession_eq_dropSessions h hdoor.session]
    exact stands_stored h s.client (by simp) j
  | @wrong s c hdoor =>
    cases h j with
    | apart _ hnone => exact absurd (fun s hs => hnone session s hs) hother
    | @pairing sid₀ s₀ hs₀ hc₀ hstanding honly =>
      -- The answer was given within the only session of `j`, which stays.
      obtain rfl : session = sid₀ := by
        by_contra hne
        exact hother fun s' hs' hc' => hne (honly session s' hs' hc')
      obtain rfl : s₀ = s := Option.some.inj (hs₀.symm.trans hdoor.session)
      have hcounted : (m.sessions.insert session { s₀ with attempts := s₀.attempts + 1 }).find? session =
          some { s₀ with attempts := s₀.attempts + 1 } := by
        rw [Table.find?_insert, if_pos rfl]
      refine .pairing hcounted hc₀ hstanding ?_
      intro sid' s' hs' hc'
      by_contra hne
      rw [Table.find?_insert, if_neg hne] at hs'
      exact hne (honly sid' s' hs' hc')
  | overflow => exact absurd rfl hclock

theorem stands_disconnect (h : ∀ j, Stands m.sessions r j) (id : Uuid) (now : Time) (j : Uuid) :
    Stands (m.disconnect r id now).admission.sessions (m.disconnect r id now).registry j := by
  have hf := disconnect_farewell m r id now
  generalize m.disconnect r id now = o at hf
  cases hf with
  | unknown hc => exact stands_dropped h id (by simp [Registry.phase?, hc]) (fun _ _ => rfl) j
  | closed => exact stands_stored h id (by simp) j
  | @idle c hc hidle =>
    refine stands_dropped h id ?_ (fun _ _ => rfl) j
    have hphase : r.phase? id = some c.phase := Registry.phase?_eq_some_iff.2 ⟨c, hc, rfl⟩
    have hsettled := (h id).settled
    rw [hphase] at hsettled ⊢
    cases hp : c.phase <;> simp_all [closingSignal?]

/-! ## Counting -/

/-- The clients of the sessions are the pairing clients, each once. -/
theorem size_eq_countP (h : ∀ id, Stands sessions r id) :
    sessions.size = r.clients.rows.countP fun row => row.2.phase = .pairing := by
  have hsessions : (sessions.rows.map fun row => row.2.client).Nodup := by
    refine List.Nodup.map_on ?_ sessions.nodup_keys.of_map
    rintro ⟨sid, s⟩ hs ⟨sid', s'⟩ hs' hc
    rw [← Table.find?_eq_some_iff] at hs hs'
    obtain rfl : sid = sid' := (h s.client).unique hs rfl hs' hc.symm
    rw [Option.some.inj (hs.symm.trans hs')]
  have hclients : ((r.clients.rows.filter fun row => row.2.phase = .pairing).map Prod.fst).Nodup :=
    r.clients.nodup_keys.sublist (List.filter_sublist.map _)
  have hperm : (sessions.rows.map fun row => row.2.client).Perm
      ((r.clients.rows.filter fun row => row.2.phase = .pairing).map Prod.fst) := by
    rw [List.perm_ext_iff_of_nodup hsessions hclients]
    intro id
    have hpairing : id ∈ (r.clients.rows.filter fun row => row.2.phase = .pairing).map Prod.fst ↔
        r.phase? id = some .pairing := by
      simp [Registry.phase?_eq_some_iff, Registry.find?, Table.find?_eq_some_iff]
    rw [hpairing, List.mem_map]
    constructor
    · rintro ⟨⟨sid, s⟩, hs, rfl⟩
      exact (h s.client).phase?_of_session (Table.find?_eq_some_iff.2 hs) rfl
    · intro hphase
      cases h id with
      | @pairing sid s hs hc _ _ => exact ⟨(sid, s), Table.find?_eq_some_iff.1 hs, hc⟩
      | apart hapart _ => simp [hphase] at hapart
  rw [Table.size, List.countP_eq_length_filter, ← List.length_map (fun row => row.2.client),
    hperm.length_eq, List.length_map]

end SharedDesk.Admission
