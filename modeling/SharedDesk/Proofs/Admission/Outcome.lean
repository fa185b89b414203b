import SharedDesk.Admission
import SharedDesk.Proofs.Registry.Lookup
/-!
# What an admission leads to

The table of legal moves never stands in the way of a hello, an answer or a goodbye, so that each of
them comes down to one record stored (`welcome_eq`, `completePairing_eq`, `countWrong_eq`,
`failPairing_eq`, `disconnect_eq`). All that a hello can lead to is a `Reception`, all that an answer can, a `Verdict`,
and all that a goodbye can, a `Farewell`; the facts about them below are read off these cases. `judge_eq_ok_iff` tells
the right answer from all others.
-/

namespace SharedDesk.Admission

variable {m : Admission} {r : Registry} {id j session sid : Uuid} {s : Session} {c : Client} {now : Time}
  {h : Hello} {answer : String} {peer : Address} {pin : Pin}

/-! ## Tables -/

@[simp]
theorem isTrusted_trust (m : Admission) (id j : Uuid) :
    (m.trust id).isTrusted j = (decide (j = id) || m.isTrusted j) := by
  rw [isTrusted, Table.contains, show (m.trust id).trusted.find? j = _ from Table.find?_insert ..]
  by_cases h : j = id <;> simp [h, isTrusted, Table.contains]

@[simp]
theorem isTrusted_forget (m : Admission) (id j : Uuid) :
    (m.forget id).2.isTrusted j = (decide (j ≠ id) && m.isTrusted j) := by
  rw [isTrusted, Table.contains, show (m.forget id).2.trusted.find? j = _ from Table.find?_erase ..]
  by_cases h : j = id <;> simp [h, isTrusted, Table.contains]

theorem find?_dropSessions (m : Admission) (id sid : Uuid) :
    (m.dropSessions id).sessions.find? sid = (m.sessions.find? sid).filter fun s => s.client != id :=
  Table.find?_filter ..

theorem find?_dropSessions_iff : (m.dropSessions id).sessions.find? session = some s ↔
    m.sessions.find? session = some s ∧ s.client ≠ id := by
  rw [find?_dropSessions, Option.filter_eq_some_iff, bne_iff_ne]

theorem find?_closeSession_iff : (m.closeSession session).sessions.find? sid = some s ↔
    sid ≠ session ∧ m.sessions.find? sid = some s := by
  rw [show (m.closeSession session).sessions.find? sid = _ from Table.find?_erase ..]
  by_cases h : sid = session <;> simp [h]

theorem find?_purge_iff : (m.purge now).2.sessions.find? session = some s ↔
    m.sessions.find? session = some s ∧ Time.elapsed now s.openedAt ≤ m.policy.pinExpiry := by
  rw [show (m.purge now).2.sessions.find? session = _ from Table.find?_filter ..,
    Option.filter_eq_some_iff, decide_eq_true_iff]

/-- The sessions after those of some clients were dropped; nothing else is dropped with them. -/
theorem abandonAll_spec (ids : List Uuid) (m : Admission) :
    let m' := ids.foldl (fun m id => (m.abandonPairing id).2) m
    (∀ sid s, m'.sessions.find? sid = some s ↔ m.sessions.find? sid = some s ∧ s.client ∉ ids) ∧
      m'.policy = m.policy ∧ m'.lockouts = m.lockouts ∧ m'.trusted = m.trusted := by
  induction ids generalizing m with
  | nil => simp
  | cons id rest ih =>
    obtain ⟨hs, hp, hl, ht⟩ := ih (m.abandonPairing id).2
    refine ⟨fun sid s => ?_, hp, hl, ht⟩
    rw [List.foldl_cons, hs, show (m.abandonPairing id).2 = m.dropSessions id from rfl,
      find?_dropSessions_iff, List.mem_cons, not_or, and_assoc]

/-! ## Lockouts -/

theorem lockedOut?_eq_none_iff : m.lockedOut? peer now = none ↔
    ¬ ∃ deadline, m.lockouts.find? peer = some deadline ∧ now < deadline := by
  unfold lockedOut?
  cases m.lockouts.find? peer with
  | none => simp
  | some deadline => simp

theorem hello_of_locked {n : Nat} (hl : m.lockedOut? peer now = some n) :
    m.hello r h peer now session pin = ⟨.error (.lockedOut peer n), m, r, none⟩ := by
  rw [hello, hl]

theorem hello_of_free (hl : m.lockedOut? peer now = none) :
    m.hello r h peer now session pin = m.welcome r h now session pin := by
  rw [hello, hl]

theorem submit_of_locked {n : Nat} (hl : m.lockedOut? peer now = some n) :
    m.submit r session answer peer now = ⟨.error (.lockedOut n), m, r, none⟩ := by
  rw [submit, hl]

theorem submit_of_free (hl : m.lockedOut? peer now = none) :
    m.submit r session answer peer now = m.judge r session answer peer now := by
  rw [submit, hl]

/-! ## Hello -/

/-- A hello from an address that is not locked out leaves its client in one of three phases. -/
theorem welcome_eq (m : Admission) (r : Registry) (h : Hello) (now : Time) (session : Uuid)
    (pin : Pin) : m.welcome r h now session pin =
      let c := r.greeted h.client (Hello.displayName h.name) now
      match h.check with
      | .error fault =>
        ⟨.error (.refused fault), m.dropSessions h.client, r.store h.client (c.enter .disconnected now),
          some (.rejected h.client fault.message)⟩
      | .ok () =>
        if m.isTrusted h.client then
          ⟨.ok .activated, m.dropSessions h.client,
            r.store h.client ((c.enter .connected now).enter .active now), some (.activated h.client)⟩
        else
          let opened : Session := ⟨h.client, Pin.answerTo session pin.text, now, 0⟩
          ⟨.ok (.pairingRequired session),
            { m.dropSessions h.client with
              sessions := (m.dropSessions h.client).sessions.insert session opened },
            r.store h.client ((c.enter .connected now).enter .pairing now),
            some (.pairingRequested h.client session pin)⟩ := by
  have hc := r.greeted_phase h.client (Hello.displayName h.name) now
  unfold welcome
  dsimp only
  rw [Registry.greet_eq]
  generalize r.greeted h.client (Hello.displayName h.name) now = c at hc ⊢
  have hrejected : c.phase.next? .helloRejected = some .disconnected := by rw [hc]; rfl
  have haccepted : c.phase.next? .helloAccepted = some .connected := by rw [hc]; rfl
  cases h.check with
  | error fault =>
    dsimp only
    rw [Registry.signal_store hrejected]
  | ok =>
    dsimp only
    rw [Registry.signal_store haccepted]
    -- From `connected` on, trust decides between the two ways into the desk.
    dsimp only
    rw [show (m.dropSessions h.client).isTrusted h.client = m.isTrusted h.client from rfl]
    split
    · rw [Registry.signal_store (p := .active) rfl]
    · rw [Registry.signal_store (p := .pairing) rfl]

/-- All that a hello from an address that is not locked out can lead to. -/
inductive Reception (m : Admission) (r : Registry) (h : Hello) (now : Time) (session : Uuid) (pin : Pin) :
    Outcome HandshakeFault Welcome → Prop
  | refused {fault : HelloFault} : h.check = .error fault → Reception m r h now session pin
      ⟨.error (.refused fault), m.dropSessions h.client,
        r.store h.client ((r.greeted h.client (Hello.displayName h.name) now).enter .disconnected now),
        some (.rejected h.client fault.message)⟩
  | activated : h.check = .ok () → m.isTrusted h.client = true → Reception m r h now session pin
      ⟨.ok .activated, m.dropSessions h.client, r.store h.client
        (((r.greeted h.client (Hello.displayName h.name) now).enter .connected now).enter .active now),
        some (.activated h.client)⟩
  | invited : h.check = .ok () → m.isTrusted h.client = false → Reception m r h now session pin
      ⟨.ok (.pairingRequired session),
        { m.dropSessions h.client with
          sessions := (m.dropSessions h.client).sessions.insert session
            ⟨h.client, Pin.answerTo session pin.text, now, 0⟩ },
        r.store h.client
          (((r.greeted h.client (Hello.displayName h.name) now).enter .connected now).enter .pairing now),
        some (.pairingRequested h.client session pin)⟩

theorem welcome_reception (m : Admission) (r : Registry) (h : Hello) (now : Time) (session : Uuid) (pin : Pin) :
    Reception m r h now session pin (m.welcome r h now session pin) := by
  rw [welcome_eq]
  cases hcheck : h.check with
  | error fault => exact .refused hcheck
  | ok =>
    cases htrusted : m.isTrusted h.client with
    | true => exact .activated hcheck htrusted
    | false => exact .invited hcheck htrusted

/-- The hello and trust decide what is answered; what the registry knows of the client does not matter. -/
theorem result_welcome (m : Admission) (r : Registry) (h : Hello) (now : Time) (session : Uuid) (pin : Pin) :
    (m.welcome r h now session pin).result =
      match h.check with
      | .error fault => .error (.refused fault)
      | .ok () => if m.isTrusted h.client then .ok .activated else .ok (.pairingRequired session) := by
  have hr := welcome_reception m r h now session pin
  generalize m.welcome r h now session pin = o at hr
  cases hr with
  | refused hcheck => rw [hcheck]
  | activated hcheck htrusted | invited hcheck htrusted => simp [hcheck, htrusted]

/-- The session that a hello opened. -/
theorem find?_of_pairingRequired
    (hresult : (m.welcome r h now session pin).result = .ok (.pairingRequired sid)) :
    sid = session ∧ (m.welcome r h now session pin).admission.sessions.find? sid =
      some ⟨h.client, Pin.answerTo session pin.text, now, 0⟩ := by
  have hr := welcome_reception m r h now session pin
  generalize m.welcome r h now session pin = o at hresult hr ⊢
  cases hr with
  | refused | activated => cases hresult
  | invited =>
    obtain rfl := Welcome.pairingRequired.inj (Except.ok.inj hresult)
    exact ⟨rfl, by rw [Table.find?_insert, if_pos rfl]⟩

/-- Who is welcomed is not told of a lockout. -/
theorem welcome_ne_lockedOut (m : Admission) (r : Registry) (h : Hello) (now : Time) (session : Uuid)
    (pin : Pin) (address : Address) (n : Nat) :
    (m.welcome r h now session pin).result ≠ .error (.lockedOut address n) := by
  have hr := welcome_reception m r h now session pin
  generalize m.welcome r h now session pin = o at hr
  cases hr <;> nofun

/-! ## Answers -/

theorem failPairing_eq (hc : r.find? id = some c) (hp : c.phase = .pairing) (m : Admission) (now : Time)
    (reason : String) (fault : PairingFault) : m.failPairing r id now reason fault =
      ⟨.error fault, m, r.store id (c.enter .disconnected now), some (.pairingFailed id reason)⟩ := by
  rw [failPairing, Registry.signal_eq hc (p := .disconnected) (by rw [hp]; rfl)]

theorem completePairing_eq (hc : r.find? id = some c) (hp : c.phase = .pairing) (m : Admission)
    (session : Uuid) (now : Time) : m.completePairing r session id now =
      ⟨.ok id, (m.closeSession session).trust id, r.store id (c.enter .active now),
        some (.pairingCompleted id)⟩ := by
  rw [completePairing, Registry.signal_eq hc (p := .active) (by rw [hp]; rfl)]

/-- The attempts that are left decide what a wrong answer leads to. -/
theorem countWrong_eq (hc : r.find? s.client = some c) (hp : c.phase = .pairing) (m : Admission)
    (session : Uuid) (peer : Address) (now : Time) : m.countWrong r session s peer now =
      if s.attempts + 1 < m.policy.maxAttempts then
        ⟨.error (.wrongPin (m.policy.maxAttempts - (s.attempts + 1))),
          { m with sessions := m.sessions.insert session { s with attempts := s.attempts + 1 } },
          r, none⟩
      else match Time.later? now m.policy.lockout with
        | none => ⟨.error .clockOverflow, m.closeSession session, r, none⟩
        | some deadline =>
          ⟨.error (.wrongPin 0),
            { m.closeSession session with lockouts := m.lockouts.insert peer deadline },
            r.store s.client (c.enter .disconnected now),
            some (.pairingFailed s.client "too many incorrect PINs")⟩ := by
  unfold countWrong
  dsimp only
  split
  · rename_i hleft
    rw [if_neg (by omega), show (m.closeSession session).policy = m.policy from rfl]
    cases Time.later? now m.policy.lockout with
    | none => rfl
    | some deadline =>
      dsimp only
      rw [failPairing_eq hc hp]
      rfl
  · rename_i left hleft
    rw [if_pos (by omega), Registry.signal_eq hc (p := .pairing) (by rw [hp]; rfl)]
    dsimp only
    rw [Client.enter_pairing hp, Registry.store_self hc, hleft]

/-- The session of a client that is not pairing is of no use any more. -/
theorem judge_eq_of_not_pairing (hs : m.sessions.find? session = some s)
    (hp : r.phase? s.client ≠ some .pairing) (answer : String) (peer : Address) (now : Time) :
    m.judge r session answer peer now = ⟨.error .expired, m.closeSession session, r, none⟩ := by
  simp [judge, hs, hp]

/-- A session, and the record of its client while that is pairing. -/
structure AtDoor (m : Admission) (r : Registry) (session : Uuid) (s : Session) (c : Client) : Prop where
  session : m.sessions.find? session = some s
  record : r.find? s.client = some c
  pairing : c.phase = .pairing

theorem AtDoor.phase? (h : AtDoor m r session s c) : r.phase? s.client = some .pairing :=
  Registry.phase?_eq_some_iff.2 ⟨c, h.record, h.pairing⟩

/-- What an answer leads to while the client of its session is pairing. -/
theorem judge_eq_of_pairing (h : AtDoor m r session s c) (answer : String) (peer : Address)
    (now : Time) : m.judge r session answer peer now =
      if m.policy.pinExpiry < Time.elapsed now s.openedAt then
        ⟨.error .expired, m.closeSession session, r.store s.client (c.enter .disconnected now),
          some (.pairingFailed s.client "pairing session expired")⟩
      else if s.answer = answer then
        ⟨.ok s.client, (m.closeSession session).trust s.client, r.store s.client (c.enter .active now),
          some (.pairingCompleted s.client)⟩
      else m.countWrong r session s peer now := by
  simp only [judge, h.session, h.phase?, ne_eq, not_true, if_false, failPairing_eq h.record h.pairing,
    completePairing_eq h.record h.pairing]

/-- All that an answer from an address that is not locked out can lead to. -/
inductive Verdict (m : Admission) (r : Registry) (session : Uuid) (answer : String) (peer : Address)
    (now : Time) : Outcome PairingFault Uuid → Prop
  | unknown : m.sessions.find? session = none →
      Verdict m r session answer peer now ⟨.error .noSession, m, r, none⟩
  | stale {s : Session} : m.sessions.find? session = some s → r.phase? s.client ≠ some .pairing →
      Verdict m r session answer peer now ⟨.error .expired, m.closeSession session, r, none⟩
  | late {s : Session} {c : Client} : AtDoor m r session s c →
      m.policy.pinExpiry < Time.elapsed now s.openedAt →
      Verdict m r session answer peer now
        ⟨.error .expired, m.closeSession session, r.store s.client (c.enter .disconnected now),
          some (.pairingFailed s.client "pairing session expired")⟩
  | right {s : Session} {c : Client} : AtDoor m r session s c →
      Time.elapsed now s.openedAt ≤ m.policy.pinExpiry → s.answer = answer →
      Verdict m r session answer peer now
        ⟨.ok s.client, (m.closeSession session).trust s.client, r.store s.client (c.enter .active now),
          some (.pairingCompleted s.client)⟩
  | wrong {s : Session} {c : Client} : AtDoor m r session s c →
      Time.elapsed now s.openedAt ≤ m.policy.pinExpiry → s.answer ≠ answer →
      s.attempts + 1 < m.policy.maxAttempts →
      Verdict m r session answer peer now
        ⟨.error (.wrongPin (m.policy.maxAttempts - (s.attempts + 1))),
          { m with sessions := m.sessions.insert session { s with attempts := s.attempts + 1 } },
          r, none⟩
  | last {s : Session} {c : Client} {deadline : Time} : AtDoor m r session s c →
      Time.elapsed now s.openedAt ≤ m.policy.pinExpiry → s.answer ≠ answer →
      m.policy.maxAttempts ≤ s.attempts + 1 → Time.later? now m.policy.lockout = some deadline →
      Verdict m r session answer peer now
        ⟨.error (.wrongPin 0),
          { m.closeSession session with lockouts := m.lockouts.insert peer deadline },
          r.store s.client (c.enter .disconnected now),
          some (.pairingFailed s.client "too many incorrect PINs")⟩
  | overflow {s : Session} {c : Client} : AtDoor m r session s c →
      Time.elapsed now s.openedAt ≤ m.policy.pinExpiry → s.answer ≠ answer →
      m.policy.maxAttempts ≤ s.attempts + 1 → Time.later? now m.policy.lockout = none →
      Verdict m r session answer peer now ⟨.error .clockOverflow, m.closeSession session, r, none⟩

theorem judge_verdict (m : Admission) (r : Registry) (session : Uuid) (answer : String)
    (peer : Address) (now : Time) :
    Verdict m r session answer peer now (m.judge r session answer peer now) := by
  cases hs : m.sessions.find? session with
  | none =>
    rw [show m.judge r session answer peer now = ⟨.error .noSession, m, r, none⟩ by simp [judge, hs]]
    exact .unknown hs
  | some s =>
    by_cases hp : r.phase? s.client = some .pairing
    · obtain ⟨c, hc, hcp⟩ := Registry.phase?_eq_some_iff.1 hp
      have hdoor : AtDoor m r session s c := ⟨hs, hc, hcp⟩
      -- Age comes before content, and content before the number of tries.
      rw [judge_eq_of_pairing hdoor]
      by_cases he : m.policy.pinExpiry < Time.elapsed now s.openedAt
      · rw [if_pos he]
        exact .late hdoor he
      · have hle := Nat.not_lt.1 he
        rw [if_neg he]
        by_cases ha : s.answer = answer
        · rw [if_pos ha]
          exact .right hdoor hle ha
        · rw [if_neg ha, countWrong_eq hc hcp]
          by_cases hleft : s.attempts + 1 < m.policy.maxAttempts
          · rw [if_pos hleft]
            exact .wrong hdoor hle ha hleft
          · rw [if_neg hleft]
            cases hd : Time.later? now m.policy.lockout with
            | none => exact .overflow hdoor hle ha (Nat.not_lt.1 hleft) hd
            | some deadline => exact .last hdoor hle ha (Nat.not_lt.1 hleft) hd
    · rw [judge_eq_of_not_pairing hs hp]
      exact .stale hs hp

/-- What is told apart from all other answers: the right one, in time, for a client that is pairing. -/
theorem judge_eq_ok_iff :
    (m.judge r session answer peer now).result = .ok id ↔
      ∃ s c, AtDoor m r session s c ∧ s.client = id ∧
        Time.elapsed now s.openedAt ≤ m.policy.pinExpiry ∧ s.answer = answer := by
  constructor
  · intro h
    have hv := judge_verdict m r session answer peer now
    generalize m.judge r session answer peer now = o at h hv
    cases hv with
    | right hdoor hle ha => exact ⟨_, _, hdoor, Except.ok.inj h, hle, ha⟩
    | unknown | stale | late | wrong | last | overflow => cases h
  · rintro ⟨s, c, hdoor, rfl, hle, ha⟩
    rw [judge_eq_of_pairing hdoor, if_neg (Nat.not_lt.2 hle), if_pos ha]

/-! ## Goodbye -/

/-- A goodbye leaves nobody who was on the way in, or in, with a phase of its own. -/
theorem disconnect_eq (hc : r.find? id = some c) (m : Admission) (now : Time) :
    m.disconnect r id now =
      if (closingSignal? c.phase).isSome then
        ⟨.ok (), m.dropSessions id, r.store id (c.enter .disconnected now), some (.disconnected id)⟩
      else ⟨.ok (), m.dropSessions id, r, none⟩ := by
  unfold disconnect
  rw [show r.phase? id = some c.phase from Registry.phase?_eq_some_iff.2 ⟨c, hc, rfl⟩]
  cases hp : c.phase with
  | disconnected => rfl
  | connected => rfl
  | connecting | pairing | active =>
    simp only [closingSignal?, Option.isSome_some, if_true]
    rw [Registry.signal_eq hc (p := .disconnected) (by rw [hp]; rfl)]

theorem disconnect_eq_of_none (hc : r.find? id = none) (m : Admission) (now : Time) :
    m.disconnect r id now = ⟨.error (.unknownClient id), m.dropSessions id, r, none⟩ := by
  simp [disconnect, Registry.phase?, hc]

/-- All that a goodbye can lead to. -/
inductive Farewell (m : Admission) (r : Registry) (id : Uuid) (now : Time) : Outcome RegistryFault Unit → Prop
  | unknown : r.find? id = none →
      Farewell m r id now ⟨.error (.unknownClient id), m.dropSessions id, r, none⟩
  | closed {c : Client} : r.find? id = some c → (closingSignal? c.phase).isSome = true →
      Farewell m r id now
        ⟨.ok (), m.dropSessions id, r.store id (c.enter .disconnected now), some (.disconnected id)⟩
  | idle {c : Client} : r.find? id = some c → closingSignal? c.phase = none →
      Farewell m r id now ⟨.ok (), m.dropSessions id, r, none⟩

theorem disconnect_farewell (m : Admission) (r : Registry) (id : Uuid) (now : Time) :
    Farewell m r id now (m.disconnect r id now) := by
  cases hc : r.find? id with
  | none =>
    rw [disconnect_eq_of_none hc]
    exact .unknown hc
  | some c =>
    rw [disconnect_eq hc]
    split
    · rename_i hopen
      exact .closed hc hopen
    · rename_i hidle
      exact .idle hc (by simpa using hidle)

theorem disconnect_admission (m : Admission) (r : Registry) (id : Uuid) (now : Time) :
    (m.disconnect r id now).admission = m.dropSessions id := by
  have hf := disconnect_farewell m r id now
  generalize m.disconnect r id now = o at hf
  cases hf <;> rfl

/-! ## Other clients -/

/-- A hello stores the record of its own client. -/
theorem record_welcome (hj : j ≠ h.client) (m : Admission) (r : Registry) (now : Time) (session : Uuid)
    (pin : Pin) : (m.welcome r h now session pin).registry.find? j = r.find? j := by
  have hr := welcome_reception m r h now session pin
  generalize m.welcome r h now session pin = o at hr
  cases hr <;> rw [Registry.find?_store, if_neg hj]

/-- An answer stores the record of the client of its session. -/
theorem record_judge (hj : ∀ s, m.sessions.find? session = some s → s.client ≠ j) (r : Registry)
    (answer : String) (peer : Address) (now : Time) :
    (m.judge r session answer peer now).registry.find? j = r.find? j := by
  have hv := judge_verdict m r session answer peer now
  generalize m.judge r session answer peer now = o at hv
  cases hv with
  | unknown | stale | wrong | overflow => rfl
  | late hdoor | right hdoor | last hdoor =>
    rw [Registry.find?_store, if_neg (Ne.symm (hj _ hdoor.session))]

theorem record_disconnect (hj : j ≠ id) (m : Admission) (r : Registry) (now : Time) :
    (m.disconnect r id now).registry.find? j = r.find? j := by
  have hf := disconnect_farewell m r id now
  generalize m.disconnect r id now = o at hf
  cases hf with
  | unknown | idle => rfl
  | closed => rw [Registry.find?_store, if_neg hj]

/-- A hello that brings a new identifier leaves the sessions of other clients alone. -/
theorem find?_welcome_of_ne (hc : s.client ≠ h.client) (hfresh : m.sessions.find? session = none)
    (r : Registry) (now : Time) (pin : Pin) (sid : Uuid) :
    (m.welcome r h now session pin).admission.sessions.find? sid = some s ↔
      m.sessions.find? sid = some s := by
  have hdropped : (m.dropSessions h.client).sessions.find? sid = some s ↔ m.sessions.find? sid = some s :=
    find?_dropSessions_iff.trans (and_iff_left hc)
  have hr := welcome_reception m r h now session pin
  generalize m.welcome r h now session pin = o at hr
  cases hr with
  | refused | activated => exact hdropped
  | invited =>
    rw [Table.find?_insert]
    split
    · rename_i hsid
      -- Nobody's session had the identifier of the new one.
      rw [hsid, hfresh]
      constructor
      · intro heq
        exact absurd (by rw [← Option.some.inj heq]) hc
      · nofun
    · exact hdropped

/-- An answer leaves the sessions of all clients alone but that of its own session. -/
theorem find?_judge_of_ne (hc : ∀ s', m.sessions.find? session = some s' → s'.client ≠ s.client)
    (r : Registry) (answer : String) (peer : Address) (now : Time) (sid : Uuid) :
    (m.judge r session answer peer now).admission.sessions.find? sid = some s ↔
      m.sessions.find? sid = some s := by
  have hne : m.sessions.find? sid = some s → sid ≠ session := by
    rintro hs rfl
    exact hc s hs rfl
  have hclosed : (m.closeSession session).sessions.find? sid = some s ↔ m.sessions.find? sid = some s :=
    find?_closeSession_iff.trans (and_iff_right_of_imp hne)
  have hv := judge_verdict m r session answer peer now
  generalize m.judge r session answer peer now = o at hv
  cases hv with
  | unknown => rfl
  | stale | late | right | last | overflow => exact hclosed
  | wrong hdoor =>
    rw [Table.find?_insert]
    split
    · rename_i hsid
      constructor
      · intro heq
        exact absurd (by rw [← Option.some.inj heq]) (hc _ hdoor.session)
      · intro hs
        exact absurd hsid (hne hs)
    · rfl

/-! ## Phases -/

/-- The phase in which a hello leaves its client. -/
theorem phase?_welcome_self (m : Admission) (r : Registry) (h : Hello) (now : Time) (session : Uuid)
    (pin : Pin) : (m.welcome r h now session pin).registry.phase? h.client = some
      (match h.check with
      | .error _ => .disconnected
      | .ok () => if m.isTrusted h.client then .active else .pairing) := by
  have hr := welcome_reception m r h now session pin
  generalize m.welcome r h now session pin = o at hr
  cases hr with
  | refused hcheck => rw [Registry.phase?_store, if_pos rfl, hcheck, Client.enter_phase]
  | activated hcheck htrusted | invited hcheck htrusted =>
    rw [Registry.phase?_store, if_pos rfl, hcheck, Client.enter_phase]
    simp [htrusted]

/-- A hello that opens a session leaves its client pairing from then on. -/
theorem standing?_of_pairingRequired
    (hresult : (m.welcome r h now session pin).result = .ok (.pairingRequired sid)) :
    (m.welcome r h now session pin).registry.standing? h.client = some (.pairing, now) := by
  have hr := welcome_reception m r h now session pin
  generalize m.welcome r h now session pin = o at hresult hr ⊢
  cases hr with
  | refused | activated => cases hresult
  | invited =>
    rw [Registry.standing?_store, if_pos rfl]
    simp [Client.standing, Client.enter]

/-- Only the right answer takes a client anywhere but to `disconnected`. -/
theorem standing?_judge (m : Admission) (r : Registry) (session : Uuid) (answer : String) (peer : Address)
    (now : Time) (j : Uuid) : (m.judge r session answer peer now).result = .ok j ∨
      (m.judge r session answer peer now).registry.phase? j = some .disconnected ∨
      (m.judge r session answer peer now).registry.standing? j = r.standing? j := by
  have hv := judge_verdict m r session answer peer now
  generalize m.judge r session answer peer now = o at hv
  cases hv with
  | unknown | stale | wrong | overflow => exact .inr (.inr rfl)
  | @late s c | @last s c deadline =>
    refine .inr ?_
    rw [Registry.phase?_store, Registry.standing?_store]
    split <;> simp
  | @right s c =>
    by_cases hj : s.client = j
    · exact .inl (by rw [hj])
    · rw [Registry.standing?_store, if_neg (Ne.symm hj)]
      exact .inr (.inr rfl)

theorem standing?_disconnect (m : Admission) (r : Registry) (id : Uuid) (now : Time) (j : Uuid) :
    (m.disconnect r id now).registry.phase? j = some .disconnected ∨
      (m.disconnect r id now).registry.standing? j = r.standing? j := by
  have hf := disconnect_farewell m r id now
  generalize m.disconnect r id now = o at hf
  cases hf with
  | unknown | idle => exact .inr rfl
  | closed =>
    rw [Registry.phase?_store, Registry.standing?_store]
    split <;> simp

/-! ## Trust -/

theorem isTrusted_welcome (m : Admission) (r : Registry) (h : Hello) (now : Time) (session : Uuid)
    (pin : Pin) (j : Uuid) : (m.welcome r h now session pin).admission.isTrusted j = m.isTrusted j := by
  have hr := welcome_reception m r h now session pin
  generalize m.welcome r h now session pin = o at hr
  cases hr <;> rfl

theorem isTrusted_judge_iff :
    (m.judge r session answer peer now).admission.isTrusted j = true ↔
      (m.judge r session answer peer now).result = .ok j ∨ m.isTrusted j = true := by
  have hv := judge_verdict m r session answer peer now
  generalize m.judge r session answer peer now = o at hv
  cases hv with
  | unknown | stale | late | wrong | last | overflow => exact ⟨.inr, fun h => h.resolve_left nofun⟩
  | @right s c =>
    rw [isTrusted_trust, Bool.or_eq_true, decide_eq_true_iff, Except.ok.injEq, eq_comm]
    rfl

/-! ## Sessions -/

/-- The sessions after a hello: the one it opened, and those of other clients. -/
theorem find?_welcome
    (hs : (m.welcome r h now session pin).admission.sessions.find? sid = some s) :
    (sid = session ∧ (m.welcome r h now session pin).result = .ok (.pairingRequired session) ∧
      s = ⟨h.client, Pin.answerTo session pin.text, now, 0⟩) ∨
    (m.sessions.find? sid = some s ∧ s.client ≠ h.client) := by
  have hr := welcome_reception m r h now session pin
  generalize m.welcome r h now session pin = o at hs hr ⊢
  cases hr with
  | refused | activated => exact .inr (find?_dropSessions_iff.1 hs)
  | invited =>
    rw [Table.find?_insert] at hs
    split at hs
    · rename_i hsid
      exact .inl ⟨hsid, rfl, (Option.some.inj hs).symm⟩
    · exact .inr (find?_dropSessions_iff.1 hs)

/-- The sessions after an answer: the one it was given within only if it was wrong and not the last, and
all others. -/
theorem find?_judge
    (hs : (m.judge r session answer peer now).admission.sessions.find? sid = some s) :
    (sid ≠ session ∧ m.sessions.find? sid = some s) ∨
    (sid = session ∧ ∃ s₀ c, AtDoor m r session s₀ c ∧ s₀.answer ≠ answer ∧
      s₀.attempts + 1 < m.policy.maxAttempts ∧ s = { s₀ with attempts := s₀.attempts + 1 }) := by
  have hv := judge_verdict m r session answer peer now
  generalize m.judge r session answer peer now = o at hs hv
  cases hv with
  | unknown hnone =>
    refine .inl ⟨?_, hs⟩
    rintro rfl
    simp [hnone] at hs
  | stale | late | right | last | overflow => exact .inl (find?_closeSession_iff.1 hs)
  | wrong hdoor _ ha hleft =>
    rw [Table.find?_insert] at hs
    split at hs
    · rename_i hsid
      exact .inr ⟨hsid, _, _, hdoor, ha, hleft, (Option.some.inj hs).symm⟩
    · rename_i hsid
      exact .inl ⟨hsid, hs⟩

/-! ## The rules stay -/

theorem policy_welcome (m : Admission) (r : Registry) (h : Hello) (now : Time) (session : Uuid)
    (pin : Pin) : (m.welcome r h now session pin).admission.policy = m.policy := by
  have hr := welcome_reception m r h now session pin
  generalize m.welcome r h now session pin = o at hr
  cases hr <;> rfl

theorem lockouts_welcome (m : Admission) (r : Registry) (h : Hello) (now : Time) (session : Uuid)
    (pin : Pin) : (m.welcome r h now session pin).admission.lockouts = m.lockouts := by
  have hr := welcome_reception m r h now session pin
  generalize m.welcome r h now session pin = o at hr
  cases hr <;> rfl

theorem policy_judge (m : Admission) (r : Registry) (session : Uuid) (answer : String) (peer : Address)
    (now : Time) : (m.judge r session answer peer now).admission.policy = m.policy := by
  have hv := judge_verdict m r session answer peer now
  generalize m.judge r session answer peer now = o at hv
  cases hv <;> rfl

end SharedDesk.Admission
