import SharedDesk.Proofs.Admission.Outcome
/-!
# Wrong answers

An answer is looked at if it comes in time, for a client that is pairing, from an address that is not
locked out; `Mistaken` are those that are looked at and wrong. `Mistaken.submit_eq` says what they lead
to, and `submit_eq_wrongPin_zero_iff` and `submit_eq_clockOverflow_iff` tell the two ends of a session's
last attempt apart by what the clock can show.
-/

namespace SharedDesk.Admission

/-- A wrong answer that is looked at. -/
structure Mistaken (m : Admission) (r : Registry) (session : Uuid) (answer : String) (peer : Address)
    (now : Time) (s : Session) (c : Client) : Prop where
  free : m.lockedOut? peer now = none
  door : AtDoor m r session s c
  inTime : Time.elapsed now s.openedAt ≤ m.policy.pinExpiry
  wrong : s.answer ≠ answer

/-- Whether an answer is looked at and found wrong. -/
def mistakes (m : Admission) (r : Registry) (session : Uuid) (answer : String) (peer : Address)
    (now : Time) : Bool :=
  (m.lockedOut? peer now).isNone && (m.sessions.find? session).any fun s =>
    r.phase? s.client == some .pairing && decide (Time.elapsed now s.openedAt ≤ m.policy.pinExpiry) &&
      s.answer != answer

/-- A wrong answer that leaves its session without attempts. -/
def UsesUp (m : Admission) (r : Registry) (session : Uuid) (answer : String) (peer : Address)
    (now : Time) : Prop :=
  ∃ s c, Mistaken m r session answer peer now s c ∧ m.policy.maxAttempts ≤ s.attempts + 1

variable {m : Admission} {r : Registry} {session : Uuid} {answer : String} {peer : Address}
  {now : Time} {s : Session} {c : Client}

theorem mistakes_iff : m.mistakes r session answer peer now = true ↔
    ∃ s c, Mistaken m r session answer peer now s c := by
  unfold mistakes
  rw [Bool.and_eq_true, Option.isNone_iff_eq_none, Option.any_eq_true]
  simp only [Bool.and_eq_true, beq_iff_eq, decide_eq_true_iff, bne_iff_ne,
    Registry.phase?_eq_some_iff]
  constructor
  · rintro ⟨hl, s, hs, ⟨⟨c, hc, hp⟩, hle⟩, ha⟩
    exact ⟨s, c, hl, ⟨hs, hc, hp⟩, hle, ha⟩
  · rintro ⟨s, c, hl, ⟨hs, hc, hp⟩, hle, ha⟩
    exact ⟨hl, s, hs, ⟨⟨c, hc, hp⟩, hle⟩, ha⟩

theorem Mistaken.submit_eq (h : Mistaken m r session answer peer now s c) :
    m.submit r session answer peer now = m.countWrong r session s peer now := by
  rw [submit_of_free h.free, judge_eq_of_pairing h.door, if_neg (Nat.not_lt.2 h.inTime), if_neg h.wrong]

theorem Mistaken.submit_eq_of_left (h : Mistaken m r session answer peer now s c)
    (hleft : s.attempts + 1 < m.policy.maxAttempts) : m.submit r session answer peer now =
      ⟨.error (.wrongPin (m.policy.maxAttempts - (s.attempts + 1))),
        { m with sessions := m.sessions.insert session { s with attempts := s.attempts + 1 } },
        r, none⟩ := by
  rw [h.submit_eq, countWrong_eq h.door.record h.door.pairing, if_pos hleft]

theorem Mistaken.submit_eq_of_last (h : Mistaken m r session answer peer now s c)
    (hlast : m.policy.maxAttempts ≤ s.attempts + 1) {deadline : Time}
    (hd : Time.later? now m.policy.lockout = some deadline) : m.submit r session answer peer now =
      ⟨.error (.wrongPin 0),
        { m.closeSession session with lockouts := m.lockouts.insert peer deadline },
        r.store s.client (c.enter .disconnected now),
        some (.pairingFailed s.client "too many incorrect PINs")⟩ := by
  rw [h.submit_eq, countWrong_eq h.door.record h.door.pairing, if_neg (Nat.not_lt.2 hlast), hd]

theorem Mistaken.submit_eq_of_overflow (h : Mistaken m r session answer peer now s c)
    (hlast : m.policy.maxAttempts ≤ s.attempts + 1) (hd : Time.later? now m.policy.lockout = none) :
    m.submit r session answer peer now = ⟨.error .clockOverflow, m.closeSession session, r, none⟩ := by
  rw [h.submit_eq, countWrong_eq h.door.record h.door.pairing, if_neg (Nat.not_lt.2 hlast), hd]

/-- All that an answer leads to, from whatever address. -/
theorem submit_verdict (m : Admission) (r : Registry) (session : Uuid) (answer : String)
    (peer : Address) (now : Time) :
    (∃ n, m.lockedOut? peer now = some n ∧
      m.submit r session answer peer now = ⟨.error (.lockedOut n), m, r, none⟩) ∨
    (m.lockedOut? peer now = none ∧
      Verdict m r session answer peer now (m.submit r session answer peer now)) := by
  cases hl : m.lockedOut? peer now with
  | some n => exact .inl ⟨n, rfl, submit_of_locked hl⟩
  | none =>
    rw [submit_of_free hl]
    exact .inr ⟨rfl, judge_verdict ..⟩

/-- No other answer is told that it is wrong. -/
theorem mistakes_of_wrongPin {n : Nat}
    (h : (m.submit r session answer peer now).result = .error (.wrongPin n)) :
    m.mistakes r session answer peer now = true := by
  rcases submit_verdict m r session answer peer now with ⟨n, -, heq⟩ | ⟨hl, hv⟩
  · rw [heq] at h
    cases h
  · generalize m.submit r session answer peer now = o at h hv
    cases hv with
    | unknown | stale | late | right | overflow => cases h
    | wrong hdoor hle ha | last hdoor hle ha => exact mistakes_iff.2 ⟨_, _, hl, hdoor, hle, ha⟩

/-- Any other answer closes its session, or leaves it as it was. -/
theorem find?_of_not_mistakes (hm : m.mistakes r session answer peer now = false)
    (hs : (m.submit r session answer peer now).admission.sessions.find? session = some s) :
    m.sessions.find? session = some s := by
  have hnone : ¬ ∃ s c, Mistaken m r session answer peer now s c := by
    rw [← mistakes_iff, hm]
    nofun
  rcases submit_verdict m r session answer peer now with ⟨n, -, heq⟩ | ⟨hl, hv⟩
  · rw [heq] at hs
    exact hs
  · generalize m.submit r session answer peer now = o at hs hv
    cases hv with
    | unknown => exact hs
    | stale | late | right | last | overflow => exact absurd rfl (find?_closeSession_iff.1 hs).1
    | wrong hdoor hle ha => exact absurd ⟨_, _, hl, hdoor, hle, ha⟩ hnone

/-- The end of the lockout is shown by the clock: the answer is told that no attempts are left. -/
theorem submit_eq_wrongPin_zero_iff :
    (m.submit r session answer peer now).result = .error (.wrongPin 0) ↔
      UsesUp m r session answer peer now ∧ (Time.later? now m.policy.lockout).isSome = true := by
  constructor
  · intro h
    rcases submit_verdict m r session answer peer now with ⟨n, -, heq⟩ | ⟨hl, hv⟩
    · rw [heq] at h
      cases h
    · generalize m.submit r session answer peer now = o at h hv
      cases hv with
      | wrong _ _ _ hleft =>
        have hzero := PairingFault.wrongPin.inj (Except.error.inj h)
        omega
      | last hdoor hle ha hlast hd => exact ⟨⟨_, _, ⟨hl, hdoor, hle, ha⟩, hlast⟩, by rw [hd]; rfl⟩
      | unknown | stale | late | right | overflow => cases h
  · rintro ⟨⟨s, c, hm, hlast⟩, hd⟩
    obtain ⟨deadline, hd⟩ := Option.isSome_iff_exists.1 hd
    rw [hm.submit_eq_of_last hlast hd]

/-- Nothing but the last attempt of a session can ask for a time beyond what the clock can show. -/
theorem submit_eq_clockOverflow_iff :
    (m.submit r session answer peer now).result = .error .clockOverflow ↔
      UsesUp m r session answer peer now ∧ Time.later? now m.policy.lockout = none := by
  constructor
  · intro h
    rcases submit_verdict m r session answer peer now with ⟨n, -, heq⟩ | ⟨hl, hv⟩
    · rw [heq] at h
      cases h
    · generalize m.submit r session answer peer now = o at h hv
      cases hv with
      | overflow hdoor hle ha hlast hd => exact ⟨⟨_, _, ⟨hl, hdoor, hle, ha⟩, hlast⟩, hd⟩
      | unknown | stale | late | right | wrong | last => cases h
  · rintro ⟨⟨s, c, hm, hlast⟩, hd⟩
    rw [hm.submit_eq_of_overflow hlast hd]

end SharedDesk.Admission
