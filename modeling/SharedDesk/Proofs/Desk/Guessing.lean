import SharedDesk.Proofs.Desk.Lockout
import SharedDesk.Proofs.Desk.Start
import Mathlib.Control.Monad.Basic
/-!
# Guessing a PIN

The wrong answers within a session count down what is left of its attempts, from whatever addresses they
come (`Counted`); the one that is told that nothing is left ends the pairing and locks its address out, and
no other (`guesses_bounded`). Only a lockout whose end the clock cannot show is never begun (`last_attempt`).
-/

namespace SharedDesk

namespace Act

/-- A hello that opens a session. -/
def opens (d : Desk) (session : Uuid) : Act → Bool
  | .hello h peer now sid pin => (d.hello h peer now sid pin).1 = .ok (.pairingRequired session)
  | _ => false

/-- What a wrong answer within a session is told, if it is looked at. -/
def rebuke? (d : Desk) (session : Uuid) : Act → Option (Except PairingFault Uuid)
  | .submit sid answer peer now =>
    if sid = session ∧ d.admission.mistakes d.registry sid answer peer now = true then
      some (d.submit sid answer peer now).1
    else none
  | _ => none

end Act

namespace Desk

/-- What the wrong answers within a session were told since it was opened, the earliest first. -/
def rebukes (d : Desk) (session : Uuid) : List Act → List (Except PairingFault Uuid)
  | [] => []
  | a :: past =>
    if a.opens (d.after past) session then []
    else d.rebukes session past ++ (a.rebuke? (d.after past) session).toList

/-- What the first `k` of some tries are told when they fail. -/
def countdown (tries k : Nat) : List (Except PairingFault Uuid) :=
  (List.range k).map fun i => .error (.wrongPin (tries - 1 - i))

theorem countdown_succ (tries k : Nat) :
    countdown tries (k + 1) = countdown tries k ++ [.error (.wrongPin (tries - 1 - k))] := by
  simp [countdown, List.range_succ]

/-- The wrong answers within a session have counted its tries down, and as long as the session is open it
has some left. -/
def Counted (tries : Nat) (d : Desk) (session : Uuid) (past : List Act) : Prop :=
  ∃ k ≤ tries, d.rebukes session past = countdown tries k ∧
    ∀ s, (d.after past).admission.sessions.find? session = some s → s.attempts = k ∧ k < tries

variable {d : Desk} {a : Act} {past : List Act} {session : Uuid} {answer : String} {peer : Address}
  {now : Time} {s : Session} {reply : Except PairingFault Uuid} {config : Config}
  {file : Option ConfigFile} {capacity : Nat} {opening : Time}

/-! ## One act -/

theorem attempts_of_opens (ho : a.opens d session = true)
    (hs : (d.act a).admission.sessions.find? session = some s) : s.attempts = 0 := by
  cases a with
  | hello h peer now sid pin =>
    have hresult : (d.hello h peer now sid pin).1 = .ok (.pairingRequired session) :=
      decide_eq_true_iff.1 ho
    cases hl : d.admission.lockedOut? peer now with
    | some n =>
      rw [hello_of_locked hl] at hresult
      cases hresult
    | none =>
      rw [hello_of_free hl, take] at hresult
      rw [act, hello_of_free hl, take] at hs
      obtain ⟨-, hfound⟩ := Admission.find?_of_pairingRequired hresult
      rw [← Option.some.inj (hfound.symm.trans hs)]
  | _ => cases ho

theorem find?_of_quiet (ho : a.opens d session = false) (hr : a.rebuke? d session = none)
    (hs : (d.act a).admission.sessions.find? session = some s) :
    d.admission.sessions.find? session = some s := by
  cases session_act hs with
  | opened hresult => exact absurd hresult (decide_eq_false_iff_not.1 ho)
  | @counted s₀ c answer peer now =>
    refine Admission.find?_of_not_mistakes ?_ hs
    simpa [Act.rebuke?] using hr
  | kept hold => exact hold

/-- What is told to a wrong answer, and what becomes of its session. -/
theorem rebuke_cases (hd : a.Datable d) (hr : a.rebuke? d session = some reply) :
    ∃ s, d.admission.sessions.find? session = some s ∧
      ((s.attempts + 1 < d.admission.policy.maxAttempts ∧
        reply = .error (.wrongPin (d.admission.policy.maxAttempts - (s.attempts + 1))) ∧
        (d.act a).admission.sessions.find? session = some { s with attempts := s.attempts + 1 }) ∨
      (d.admission.policy.maxAttempts ≤ s.attempts + 1 ∧ reply = .error (.wrongPin 0) ∧
        (d.act a).admission.sessions.find? session = none)) := by
  cases a with
  | submit sid answer peer now =>
    rw [Act.rebuke?] at hr
    split at hr
    · rename_i hwrong
      obtain ⟨rfl, hwrong⟩ := hwrong
      obtain rfl := Option.some.inj hr
      obtain ⟨s, c, hm⟩ := Admission.mistakes_iff.1 hwrong
      refine ⟨s, hm.door.session, ?_⟩
      rw [act, submit, take]
      rcases Nat.lt_or_ge (s.attempts + 1) d.admission.policy.maxAttempts with hleft | hlast
      · refine .inl ⟨hleft, ?_⟩
        rw [hm.submit_eq_of_left hleft]
        exact ⟨rfl, by rw [Table.find?_insert, if_pos rfl]⟩
      · refine .inr ⟨hlast, ?_⟩
        obtain ⟨deadline, hdeadline⟩ := Option.isSome_iff_exists.1 (hd ⟨s, c, hm, hlast⟩)
        rw [hm.submit_eq_of_last hlast hdeadline]
        refine ⟨rfl, ?_⟩
        rw [Admission.closeSession, Table.find?_erase, if_pos rfl]
    · cases hr
  | _ => cases hr

/-! ## A whole run -/

theorem counted_cons {tries : Nat} (htries : tries = max (d.after past).admission.policy.maxAttempts 1)
    (h : Counted tries d session past) (hd : a.Datable (d.after past)) :
    Counted tries d session (a :: past) := by
  obtain ⟨k, hk, hrebukes, hopen⟩ := h
  unfold Counted
  rw [rebukes, after]
  cases ho : a.opens (d.after past) session with
  | true =>
    refine ⟨0, Nat.zero_le _, rfl, fun s hs => ⟨attempts_of_opens ho hs, ?_⟩⟩
    omega
  | false =>
    rw [hrebukes]
    cases hr : a.rebuke? (d.after past) session with
    | none => exact ⟨k, hk, List.append_nil _, fun s hs => hopen s (find?_of_quiet ho hr hs)⟩
    | some reply =>
      obtain ⟨s, hs, hcases⟩ := rebuke_cases hd hr
      -- As many wrong answers were told so as the session has counted.
      obtain ⟨rfl, hlt⟩ := hopen s hs
      refine ⟨s.attempts + 1, hlt, ?_⟩
      rw [countdown_succ]
      rcases hcases with ⟨hleft, rfl, hs'⟩ | ⟨hlast, rfl, hs'⟩
      · -- With more than one try left, the policy's own limit counts.
        constructor
        · rw [show tries - 1 - s.attempts = (d.after past).admission.policy.maxAttempts - (s.attempts + 1)
            by omega]
          rfl
        · intro s' hfound
          rw [← Option.some.inj (hs'.symm.trans hfound)]
          exact ⟨rfl, by omega⟩
      · constructor
        · rw [show tries - 1 - s.attempts = 0 by omega]
          rfl
        · intro s' hfound
          cases hs'.symm.trans hfound

theorem counted_after (hstart : d.admission.sessions = .empty)
    (hdates : Throughout (fun d a => a.Datable d) d past) (session : Uuid) :
    Counted (max d.admission.policy.maxAttempts 1) d session past := by
  induction past with
  | nil =>
    refine ⟨0, Nat.zero_le _, rfl, fun s hs => ?_⟩
    rw [after, hstart, Table.find?_empty] at hs
    cases hs
  | cons a past ih => exact counted_cons (by rw [policy_after]) (ih hdates.2) hdates.1

/-! ## The last attempt -/

/-- An answer ends the pairing that its session is about: the session is gone, its client disconnected, and
of all addresses only its own is locked out anew. -/
def GivesUp (d : Desk) (session : Uuid) (answer : String) (peer : Address) (now : Time) : Prop :=
  ∃ s, d.admission.sessions.find? session = some s ∧ d.registry.phase? s.client = some .pairing ∧
    (d.act (.submit session answer peer now)).registry.phase? s.client = some .disconnected ∧
    (d.act (.submit session answer peer now)).admission = { d.admission with
      sessions := d.admission.sessions.erase session
      lockouts := d.admission.lockouts.insert peer (now + d.admission.policy.lockout) }

theorem givesUp_of_wrongPin_zero (h : (d.submit session answer peer now).1 = .error (.wrongPin 0)) :
    d.GivesUp session answer peer now := by
  obtain ⟨⟨s, c, hm, hlast⟩, hd⟩ := Admission.submit_eq_wrongPin_zero_iff.1 h
  obtain ⟨deadline, hd⟩ := Option.isSome_iff_exists.1 hd
  refine ⟨s, hm.door.session, hm.door.phase?, ?_⟩
  rw [act, submit, take, hm.submit_eq_of_last hlast hd, ← Time.eq_of_later? hd]
  refine ⟨?_, rfl⟩
  dsimp only
  rw [Registry.phase?_store, if_pos rfl, Client.enter_phase]

theorem GivesUp.shuts (h : d.GivesUp session answer peer now) (hlong : 0 < d.admission.policy.lockout) :
    (d.act (.submit session answer peer now)).Shuts peer now := by
  obtain ⟨s, -, -, -, hafter⟩ := h
  have hlocked : (d.act (.submit session answer peer now)).admission.lockedOut? peer now =
      some (Duration.wholeSeconds (now + d.admission.policy.lockout - now)) := by
    rw [hafter, Admission.lockedOut?, Table.find?_insert, if_pos rfl]
    dsimp only
    rw [if_pos (Nat.lt_add_of_pos_right hlong)]
  exact shuts_of_locked hlocked

/-- Within a session no more wrong answers are looked at than there are tries, and each of them, and no other
answer, is told how many are left. The one that is told that none is left ends the pairing; for the length of
a lockout nobody at its address is heard, and nobody else is shut out. -/
theorem guesses_bounded (hsessions : d.admission.sessions = .empty)
    (hlockouts : d.admission.lockouts = .empty) (ht : Timely now past)
    (hdates : Throughout (fun d a => a.Datable d) d past) :
    (∀ session, ∃ k ≤ max d.admission.policy.maxAttempts 1,
      d.rebukes session past = countdown (max d.admission.policy.maxAttempts 1) k) ∧
    (∀ session answer peer n, ((d.after past).submit session answer peer now).1 = .error (.wrongPin n) →
      (d.after past).admission.mistakes (d.after past).registry session answer peer now = true) ∧
    (∀ session answer peer, ((d.after past).submit session answer peer now).1 = .error (.wrongPin 0) →
      (d.after past).GivesUp session answer peer now) ∧
    ∀ peer, ((∃ t, d.LockedOutAt peer t past ∧ now < t + d.admission.policy.lockout) →
        (d.after past).Shuts peer now) ∧
      ((¬ ∃ t, d.LockedOutAt peer t past ∧ now < t + d.admission.policy.lockout) →
        (d.after past).Hears peer now) := by
  refine ⟨?_, ?_, ?_, shuts_and_hears hlockouts ht⟩
  · intro session
    obtain ⟨k, hk, hrebukes, -⟩ := counted_after hsessions hdates session
    exact ⟨k, hk, hrebukes⟩
  · intro session answer peer n
    exact Admission.mistakes_of_wrongPin
  · intro session answer peer
    exact givesUp_of_wrongPin_zero

/-- A guest says hello, and three wrong answers come in, the second one from elsewhere; the latest act comes
first. -/
def guesses : List Act :=
  [.submit (.ofNat 9) "c" .anyV4 (Duration.ofSeconds 3),
    .submit (.ofNat 9) "b" (.v4 ⟨10, 0, 0, 2⟩) (Duration.ofSeconds 2),
    .submit (.ofNat 9) "a" .anyV4 (Duration.ofSeconds 1),
    .hello ⟨.ofNat 1, Hello.spokenVersion, "guest"⟩ .anyV4 0 (.ofNat 9) default]

/-- The third guess shuts its own address out for a minute, and not the one that the second came from. -/
theorem third_guess_shuts_out : ∃ d, start {} none 8 0 = .ok d ∧
    Timely (Duration.ofSeconds 62) guesses ∧ Throughout (fun d a => a.Datable d) d guesses ∧
    d.rebukes (.ofNat 9) guesses = [.error (.wrongPin 2), .error (.wrongPin 1), .error (.wrongPin 0)] ∧
    (d.after guesses.tail).GivesUp (.ofNat 9) "c" .anyV4 (Duration.ofSeconds 3) ∧
    (d.after guesses).Shuts .anyV4 (Duration.ofSeconds 62) ∧
    (d.after guesses).Hears (.v4 ⟨10, 0, 0, 2⟩) (Duration.ofSeconds 62) := by
  have hrun : (start {} none 8 0).toOption.map (fun d => (d.rebukes (.ofNat 9) guesses,
      ((d.after (guesses.drop 2)).submit (.ofNat 9) "b" (.v4 ⟨10, 0, 0, 2⟩) (Duration.ofSeconds 2)).1,
      ((d.after guesses.tail).submit (.ofNat 9) "c" .anyV4 (Duration.ofSeconds 3)).1)) =
        some ([.error (.wrongPin 2), .error (.wrongPin 1), .error (.wrongPin 0)],
          .error (.wrongPin 1), .error (.wrongPin 0)) := by
    decide +kernel
  obtain ⟨d, hd, hrun⟩ := exists_start hrun
  obtain ⟨hrebukes, hanswers⟩ := Prod.mk.inj hrun
  obtain ⟨hone, hzero⟩ := Prod.mk.inj hanswers
  obtain ⟨hpolicy, hsessions, hlockouts, -⟩ := start_admission hd
  have ht : Timely (Duration.ofSeconds 62) guesses := by
    unfold Timely
    decide
  have hdates : Throughout (fun d a => a.Datable d) d guesses := by
    refine ⟨fun _ => ?_, fun _ => ?_, fun _ => ?_, trivial, trivial⟩ <;>
      rw [policy_after, hpolicy] <;> decide
  have hlocked : d.LockedOutAt .anyV4 (Duration.ofSeconds 3) guesses := .here ⟨rfl, rfl, hzero⟩
  have hfree : ∀ t, ¬ d.LockedOutAt (.v4 ⟨10, 0, 0, 2⟩) t guesses := by
    intro t h
    simp only [guesses, lockedOutAt_cons, Act.LocksOut] at h
    rcases h with ⟨hpeer, -⟩ | ⟨-, -, hnone⟩ | ⟨hpeer, -⟩ | h | h
    · revert hpeer
      decide
    · cases hone.symm.trans hnone
    · revert hpeer
      decide
    · exact h
    · cases h
  obtain ⟨-, -, -, hheard⟩ := guesses_bounded hsessions hlockouts ht hdates
  obtain ⟨-, -, hgives, -⟩ := guesses_bounded hsessions hlockouts (ht.head rfl).2 hdates.2
  have hlockout : d.admission.policy.lockout = Duration.ofSeconds 60 := by rw [hpolicy]; rfl
  refine ⟨d, hd, ht, hdates, hrebukes, hgives _ _ _ hzero, (hheard .anyV4).1 ⟨_, hlocked, ?_⟩,
    (hheard (.v4 ⟨10, 0, 0, 2⟩)).2 fun ⟨t, h, _⟩ => hfree t h⟩
  rw [hlockout]
  decide

/-! ## A lockout without end -/

/-- An answer takes its session away and leaves its client pairing. -/
def StopsHalfway (d : Desk) (session : Uuid) (answer : String) (peer : Address) (now : Time) : Prop :=
  ∃ s, d.admission.sessions.find? session = some s ∧ d.registry.phase? s.client = some .pairing ∧
    (d.act (.submit session answer peer now)).admission.sessions.find? session = none ∧
    (d.act (.submit session answer peer now)).registry.phase? s.client = some .pairing

theorem stopsHalfway_iff : d.StopsHalfway session answer peer now ↔
    (d.submit session answer peer now).1 = .error .clockOverflow := by
  unfold StopsHalfway
  rw [act, submit, take]
  dsimp only
  constructor
  · rintro ⟨s, hs, hphase, hgone, hstill⟩
    rcases Admission.submit_verdict d.admission d.registry session answer peer now with
      ⟨n, -, heq⟩ | ⟨-, hv⟩
    · rw [heq, hs] at hgone
      cases hgone
    · generalize d.admission.submit d.registry session answer peer now = o at hgone hstill hv
      cases hv with
      | unknown hnone => cases hnone.symm.trans hs
      | stale hfound hleft =>
        rw [Option.some.inj (hfound.symm.trans hs)] at hleft
        exact absurd hphase hleft
      | late hdoor | right hdoor | last hdoor =>
        rw [Option.some.inj (hdoor.session.symm.trans hs)] at hstill
        rw [Registry.phase?_store, if_pos rfl, Client.enter_phase] at hstill
        cases hstill
      | wrong =>
        rw [Table.find?_insert, if_pos rfl] at hgone
        cases hgone
      | overflow => rfl
  · intro h
    obtain ⟨⟨s, c, hm, hlast⟩, hd⟩ := Admission.submit_eq_clockOverflow_iff.1 h
    refine ⟨s, hm.door.session, hm.door.phase?, ?_⟩
    rw [hm.submit_eq_of_overflow hlast hd]
    exact ⟨by rw [Admission.closeSession, Table.find?_erase, if_pos rfl], hm.door.phase?⟩

/-- The second, on the clock's own counter, in which a lockout that begins now ends. The counter stood at
`Time.startSeconds` when the clock started, an arbitrary number. -/
def lockoutEnd (config : Config) (now : Time) : Nat :=
  Time.startSeconds + Duration.wholeSeconds now + config.pairing.lockoutSeconds.toNat

theorem deadline_eq_none_iff (h : start config file capacity opening = .ok d) (past : List Act)
    (now : Time) :
    Time.later? now (d.after past).admission.policy.lockout = none ↔
      Time.lastSecond < lockoutEnd config now := by
  rw [policy_after, (start_admission h).1]
  exact Time.later?_ofSeconds_eq_none_iff ..

/-- The last attempt of a session ends its pairing and locks its address out as long as the clock can show
the end of the lockout. If it cannot, the answer stops halfway and locks nobody out, and no other answer
does. -/
theorem last_attempt (h : start config file capacity opening = .ok d) (past : List Act) (session : Uuid)
    (answer : String) (peer : Address) (now : Time) :
    let d := d.after past
    let d' := d.act (.submit session answer peer now)
    (d.admission.UsesUp d.registry session answer peer now → lockoutEnd config now ≤ Time.lastSecond →
      (d.submit session answer peer now).1 = .error (.wrongPin 0) ∧ d.GivesUp session answer peer now ∧
      (config.pairing.lockoutSeconds ≠ 0 → d'.Shuts peer now)) ∧
    (d.StopsHalfway session answer peer now ↔
      d.admission.UsesUp d.registry session answer peer now ∧
        Time.lastSecond < lockoutEnd config now) ∧
    (d.StopsHalfway session answer peer now →
      (d.submit session answer peer now).1 = .error .clockOverflow ∧
      d'.admission.lockouts = d.admission.lockouts) := by
  have hnone := deadline_eq_none_iff h past now
  refine ⟨?_, ?_, ?_⟩
  · intro hlast hreach
    have hzero : ((d.after past).submit session answer peer now).1 = .error (.wrongPin 0) := by
      refine Admission.submit_eq_wrongPin_zero_iff.2 ⟨hlast, ?_⟩
      rw [Option.isSome_iff_ne_none, ne_eq, hnone]
      exact Nat.not_lt.2 hreach
    have hgives := givesUp_of_wrongPin_zero hzero
    refine ⟨hzero, hgives, fun hlong => hgives.shuts ?_⟩
    rw [policy_after, (start_admission h).1]
    exact Nat.mul_pos (Nat.pos_of_ne_zero fun hz => hlong (UInt64.toNat_inj.1 hz)) (by decide)
  · rw [stopsHalfway_iff, ← hnone]
    exact Admission.submit_eq_clockOverflow_iff
  · intro hhalf
    have hresult := stopsHalfway_iff.1 hhalf
    refine ⟨hresult, ?_⟩
    obtain ⟨⟨s, c, hm, hlast⟩, hd⟩ := Admission.submit_eq_clockOverflow_iff.1 hresult
    rw [act, submit, take, hm.submit_eq_of_overflow hlast hd]
    rfl

/-- The third guess is the last, and locks its address out. -/
theorem third_guess_is_last : ∃ d, start {} none 8 0 = .ok d ∧
    (d.after guesses.tail).admission.UsesUp (d.after guesses.tail).registry (.ofNat 9) "c" .anyV4
      (Duration.ofSeconds 3) ∧
    ((d.after guesses.tail).submit (.ofNat 9) "c" .anyV4 (Duration.ofSeconds 3)).1 =
      .error (.wrongPin 0) ∧
    (d.after guesses.tail).GivesUp (.ofNat 9) "c" .anyV4 (Duration.ofSeconds 3) ∧
    (d.after guesses).Shuts .anyV4 (Duration.ofSeconds 3) := by
  have hrun : (start {} none 8 0).toOption.map (fun d =>
      ((d.after guesses.tail).submit (.ofNat 9) "c" .anyV4 (Duration.ofSeconds 3)).1) =
        some (.error (.wrongPin 0)) := by
    decide +kernel
  obtain ⟨d, hd, hrun⟩ := exists_start hrun
  obtain ⟨hlast, -⟩ := Admission.submit_eq_wrongPin_zero_iff.1 hrun
  obtain ⟨hends, -, -⟩ := last_attempt hd guesses.tail (.ofNat 9) "c" .anyV4 (Duration.ofSeconds 3)
  obtain ⟨hzero, hgives, hshuts⟩ := hends hlast (by decide)
  exact ⟨d, hd, hlast, hzero, hgives, hshuts (by decide)⟩

/-- One try, and the longest lockout that settings can ask for. -/
def endless : Config := { pairing := { maxPinAttempts := 1, lockoutSeconds := 9223372036854775807 } }

/-- A guest says hello, and a wrong answer comes in; the latest act comes first. -/
def oneGuess : List Act :=
  [.submit (.ofNat 9) "" .anyV4 1,
    .hello ⟨.ofNat 1, Hello.spokenVersion, "guest"⟩ .anyV4 0 (.ofNat 9) default]

/-- With these settings the only guess takes the session away, the guest stays pairing, and nobody is locked
out. -/
theorem endless_lockout_never_begins :
    ConfigFile.load ⟨"", "", .file ("[pairing]\nmax_pin_attempts = 1\n" ++
      "lockout_secs = 9223372036854775807\n").toUTF8⟩ = .ok endless ∧
    ∃ d, start endless none 8 0 = .ok d ∧
      (d.after oneGuess.tail).admission.UsesUp (d.after oneGuess.tail).registry (.ofNat 9) "" .anyV4 1 ∧
      ((d.after oneGuess.tail).submit (.ofNat 9) "" .anyV4 1).1 = .error .clockOverflow ∧
      (d.after oneGuess.tail).StopsHalfway (.ofNat 9) "" .anyV4 1 ∧
      (d.after oneGuess).registry.phase? (.ofNat 1) = some .pairing ∧
      (d.after oneGuess).admission.lockedOut? .anyV4 1 = none := by
  refine ⟨by decide +kernel, ?_⟩
  have hrun : (start endless none 8 0).toOption.map (fun d =>
      (((d.after oneGuess.tail).submit (.ofNat 9) "" .anyV4 1).1,
        (d.after oneGuess).registry.phase? (.ofNat 1),
        (d.after oneGuess).admission.lockedOut? .anyV4 1)) =
          some (.error .clockOverflow, some .pairing, none) := by
    decide +kernel
  obtain ⟨d, hd, hrun⟩ := exists_start hrun
  obtain ⟨hresult, hafter⟩ := Prod.mk.inj hrun
  obtain ⟨hphase, hfree⟩ := Prod.mk.inj hafter
  obtain ⟨hlast, -⟩ := Admission.submit_eq_clockOverflow_iff.1 hresult
  exact ⟨d, hd, hlast, hresult, stopsHalfway_iff.2 hresult, hphase, hfree⟩

end Desk

end SharedDesk
