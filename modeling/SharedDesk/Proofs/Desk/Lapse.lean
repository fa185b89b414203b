import SharedDesk.Proofs.Desk.Entry
import Mathlib.Control.Monad.Basic
/-!
# When a pairing lapses

Three places look at how long a client has been pairing: the sweep, an answer, and the purge of sessions. The
sweep asks when the client's phase was entered, the others when its session was opened, and the two are the same
time (`synchronous_after`), whatever answers came in between (`session_of_answers`). All three compare with
how long a PIN is good, but at the very end of that span the sweep has already ended the pairing while the other
two still keep the session (`lapses`).

That the two are the same time is an assumption about the clock, which is read once for a hello and all that
it leads to (`Admission.welcome`). The three verdicts themselves do not rest on it: `timesOut_iff` asks for the
time of the phase, `refuses_iff` and `drops_iff` for the time of the session. Were the phase entered a moment
after the session is opened, they would part not at one age but for as long as that moment, in which an answer
is refused and the session dropped while the sweep still waits.
-/

namespace SharedDesk

/-- An answer, right or wrong. -/
def Act.isAnswer : Act → Bool
  | .submit .. => true
  | _ => false

namespace Desk

/-- A sweep ends the pairing of a client. -/
def TimesOut (d : Desk) (id : Uuid) (retain : Uuid → Bool) (now : Time) : Prop :=
  id ∈ (d.sweep d.liveness.sweepTimeouts retain now).1.timedOut

/-- Even the right answer within a session is refused, for being too late. -/
def Refuses (d : Desk) (session : Uuid) (pin : Pin) (peer : Address) (now : Time) : Prop :=
  (d.submit session (Pin.answerTo session pin.text) peer now).1 = .error .expired

/-- A purge drops a session. -/
def Drops (d : Desk) (session : Uuid) (now : Time) : Prop :=
  (d.admission.purge now).2.sessions.find? session = none

/-- Sweep, answer and purge agree about whether a pairing has lapsed. -/
def Concur (d : Desk) (id session : Uuid) (pin : Pin) (retain : Uuid → Bool) (peer : Address) (now : Time) :
    Prop :=
  (d.TimesOut id retain now ↔ d.Refuses session pin peer now) ∧
    (d.Refuses session pin peer now ↔ d.Drops session now)

/-- Every client that is pairing while it has a session has been so since the session was opened. This takes the
one reading of the clock that a hello is handled with. -/
def Synchronous (d : Desk) : Prop :=
  ∀ session s, d.admission.sessions.find? session = some s → d.registry.phase? s.client = some .pairing →
    d.registry.standing? s.client = some (.pairing, s.openedAt)

variable {d : Desk} {a : Act} {peer : Address} {retain : Uuid → Bool} {past answers : List Act}
  {id session : Uuid} {s s' : Session} {now : Time} {pin : Pin} {config : Config} {file : Option ConfigFile}
  {capacity : Nat} {opening : Time}

/-! ## Two times that agree -/

theorem synchronous_act (h : d.Synchronous) (a : Act) : (d.act a).Synchronous := by
  intro session s hs hp
  by_cases hg : a.Greets d s.client
  · -- A hello of the client leaves it no session but the one that it opens.
    cases session_act hs with
    | @opened hello peer now pin hresult heq =>
      obtain ⟨-, hl⟩ := hg
      rw [hello_of_free hl, take] at hresult
      rw [act, hello_of_free hl, take, heq]
      exact Admission.standing?_of_pairingRequired hresult
    | counted => cases hg
    | kept _ hgreets => exact absurd hg hgreets
  · obtain ⟨s₀, hs₀, hclient, -, hopened⟩ := session_before hs hg
    rw [standing?_of_pairing hp hg, ← hclient, ← hopened]
    apply h session s₀ hs₀
    rw [hclient]
    exact pairing_before hp hg

theorem synchronous_after (h : d.Synchronous) (past : List Act) : (d.after past).Synchronous := by
  induction past with
  | nil => exact h
  | cons a past ih => exact synchronous_act ih a

/-- Answers do not change whose session it is, what proves its PIN, and when it was opened. -/
theorem session_of_answers (hs : d.admission.sessions.find? session = some s)
    (hanswers : ∀ a ∈ answers, a.isAnswer = true)
    (hs' : (d.after answers).admission.sessions.find? session = some s') :
    s'.client = s.client ∧ s'.answer = s.answer ∧ s'.openedAt = s.openedAt := by
  induction answers generalizing s' with
  | nil =>
    rw [Option.some.inj (hs'.symm.trans hs)]
    exact ⟨rfl, rfl, rfl⟩
  | cons a answers ih =>
    obtain ⟨ha, hanswers⟩ := List.forall_mem_cons.1 hanswers
    have hg : ¬ a.Greets (d.after answers) s'.client := by
      cases a with
      | submit => exact id
      | _ => cases ha
    obtain ⟨s₀, hs₀, hclient, hanswer, hopened⟩ := session_before hs' hg
    rw [← hclient, ← hanswer, ← hopened]
    exact ih hanswers hs₀

/-! ## Three verdicts -/

theorem timesOut_iff {t : Time} (hexpiry : d.liveness.pairingTimeout = d.admission.policy.pinExpiry)
    (h : d.registry.standing? id = some (.pairing, t)) :
    d.TimesOut id retain now ↔ d.admission.policy.pinExpiry ≤ Time.elapsed now t := by
  rw [← hexpiry]
  rcases Registry.sweep_of_pairing h now d.liveness.sweepTimeouts retain with ⟨hlate, hout⟩ | ⟨hearly, hin, -⟩
  · exact iff_of_true hout hlate
  · exact iff_of_false hin (Nat.not_le.2 hearly)

theorem refuses_iff (hs : d.admission.sessions.find? session = some s)
    (hp : d.registry.phase? s.client = some .pairing) (hpin : s.answer = Pin.answerTo session pin.text)
    (hl : d.admission.lockedOut? peer now = none) :
    d.Refuses session pin peer now ↔ d.admission.policy.pinExpiry < Time.elapsed now s.openedAt := by
  obtain ⟨c, hc, hcp⟩ := Registry.phase?_eq_some_iff.1 hp
  rw [Refuses, submit_of_free hl, take, Admission.judge_eq_of_pairing ⟨hs, hc, hcp⟩, if_pos hpin]
  by_cases hlate : d.admission.policy.pinExpiry < Time.elapsed now s.openedAt
  · simp [hlate]
  · simp [hlate]

theorem drops_iff (hs : d.admission.sessions.find? session = some s) :
    d.Drops session now ↔ d.admission.policy.pinExpiry < Time.elapsed now s.openedAt := by
  rw [Drops, Option.eq_none_iff_forall_ne_some, ← Nat.not_le]
  constructor
  · intro hnone hle
    exact hnone s (Admission.find?_purge_iff.2 ⟨hs, hle⟩)
  · intro hlate s' hs'
    obtain ⟨hfound, hle⟩ := Admission.find?_purge_iff.1 hs'
    rw [Option.some.inj (hfound.symm.trans hs)] at hle
    exact hlate hle

theorem concur_iff (hexpiry : d.liveness.pairingTimeout = d.admission.policy.pinExpiry) (h : d.Synchronous)
    (hs : d.admission.sessions.find? session = some s)
    (hp : d.registry.phase? s.client = some .pairing) (hpin : s.answer = Pin.answerTo session pin.text)
    (hl : d.admission.lockedOut? peer now = none) :
    d.Concur s.client session pin retain peer now ↔
      Time.elapsed now s.openedAt ≠ d.admission.policy.pinExpiry := by
  rw [Concur, timesOut_iff hexpiry (h session s hs hp), refuses_iff hs hp hpin hl, drops_iff hs]
  constructor
  · rintro ⟨hsame, -⟩ hage
    exact absurd (hsame.1 (Nat.le_of_eq hage.symm)) (Nat.not_lt.2 (Nat.le_of_eq hage))
  · intro hne
    exact ⟨⟨fun hle => Nat.lt_of_le_of_ne hle hne.symm, Nat.le_of_lt⟩, Iff.rfl⟩

/-- While a client is pairing within a session, whatever answers came in since, the sweep would end its
pairing, the right answer be refused and the purge drop the session once a PIN has been good for long enough.
They agree about that at all times but one: when the session was opened exactly as long ago as a PIN is good,
the sweep ends the pairing, and the session can still be answered and is kept. That one age serves for all three
is owed to the one reading of the clock that a hello takes (`Synchronous`). -/
theorem lapses (hstart : start config file capacity opening = .ok d)
    (hs : (d.after past).admission.sessions.find? session = some s)
    (hp : (d.after past).registry.phase? s.client = some .pairing) :
    ∃ pin, s.answer = Pin.answerTo session pin.text ∧
      ∀ answers now retain peer, (∀ a ∈ answers, a.isAnswer = true) →
        ((d.after past).after answers).admission.sessions.contains session = true →
        ((d.after past).after answers).registry.phase? s.client = some .pairing →
        ((d.after past).after answers).admission.lockedOut? peer now = none →
        let d := (d.after past).after answers
        let age := Time.elapsed now s.openedAt
        (d.TimesOut s.client retain now ↔ config.pairing.policy.pinExpiry ≤ age) ∧
        (d.Refuses session pin peer now ↔ config.pairing.policy.pinExpiry < age) ∧
        (d.Drops session now ↔ config.pairing.policy.pinExpiry < age) ∧
        (d.Concur s.client session pin retain peer now ↔ age ≠ config.pairing.policy.pinExpiry) := by
  obtain ⟨hpolicy, hsessions, -⟩ := start_admission hstart
  have hnone : ∀ session, d.admission.sessions.find? session = none := fun session => by
    rw [hsessions, Table.find?_empty]
  obtain ⟨pin, hpin, -⟩ := (faithful_after hpolicy hnone past session s hs).2 hp
  refine ⟨pin, hpin, fun answers now retain peer hanswers hpending hp' hl => ?_⟩
  have hsync : d.Synchronous := fun session s hs => nomatch (hnone session).symm.trans hs
  have hsync : ((d.after past).after answers).Synchronous := synchronous_after (synchronous_after hsync _) _
  have hexpiry : ((d.after past).after answers).admission.policy.pinExpiry =
      config.pairing.policy.pinExpiry := by
    rw [policy_after, policy_after, hpolicy]
  have htimeout : ((d.after past).after answers).liveness.pairingTimeout =
      ((d.after past).after answers).admission.policy.pinExpiry := by
    rw [liveness_after, liveness_after, policy_after, policy_after, start_liveness hstart]
  obtain ⟨s', hs'⟩ := Option.isSome_iff_exists.1 hpending
  obtain ⟨hclient, hanswer, hopened⟩ := session_of_answers hs hanswers hs'
  rw [← hclient] at hp'
  rw [← hanswer] at hpin
  rw [← hclient, ← hopened, ← hexpiry]
  exact ⟨timesOut_iff htimeout (hsync session s' hs' hp'), refuses_iff hs' hp' hpin hl, drops_iff hs',
    concur_iff htimeout hsync hs' hp' hpin hl⟩

/-- A guest says hello, and answers wrong once after half a minute; the latest act comes first. -/
def slowGuest : List Act :=
  [.submit (.ofNat 9) "" .anyV4 (Duration.ofSeconds 30),
    .hello ⟨.ofNat 1, Hello.spokenVersion, "guest"⟩ .anyV4 0 (.ofNat 9) default]

/-- The session that the guest's hello opens. -/
def slowSession : Session := ⟨.ofNat 1, Pin.answerTo (.ofNat 9) (Pin.text default), 0, 0⟩

/-- A nanosecond before the guest's minute is over, and a nanosecond after, its pairing is judged alike. -/
theorem slow_guest_lapses : ∃ d pin, start {} none 8 0 = .ok d ∧
    (d.after slowGuest.tail).admission.sessions.find? (.ofNat 9) = some slowSession ∧
    (d.after slowGuest).registry.phase? (.ofNat 1) = some .pairing ∧
    slowSession.answer = Pin.answerTo (.ofNat 9) pin.text ∧
    ∀ now ∈ [Duration.ofSeconds 60 - 1, Duration.ofSeconds 60 + 1],
      (d.after slowGuest).Concur (.ofNat 1) (.ofNat 9) pin (fun _ => false) .anyV4 now := by
  have hrun : (start {} none 8 0).toOption.map (fun d =>
      decide ((d.after slowGuest.tail).admission.sessions.find? (.ofNat 9) = some slowSession ∧
        (d.after slowGuest.tail).registry.phase? (.ofNat 1) = some .pairing ∧
        (d.after slowGuest).admission.sessions.contains (.ofNat 9) = true ∧
        (d.after slowGuest).registry.phase? (.ofNat 1) = some .pairing ∧
        (d.after slowGuest).admission.lockouts = .empty)) = some true := by
    decide +kernel
  obtain ⟨d, hd, hrun⟩ := exists_start hrun
  obtain ⟨hs, hp, hpending, hp', hfree⟩ := of_decide_eq_true hrun
  have hl : ∀ now, (d.after slowGuest).admission.lockedOut? .anyV4 now = none := fun now => by
    rw [Admission.lockedOut?, hfree, Table.find?_empty]
  obtain ⟨pin, hpin, hlapses⟩ := lapses hd hs hp
  refine ⟨d, pin, hd, hs, hp', hpin, fun now hnow => ?_⟩
  have hage : ∀ now ∈ [Duration.ofSeconds 60 - 1, Duration.ofSeconds 60 + 1],
      Time.elapsed now slowSession.openedAt ≠ (PairingSection.policy {}).pinExpiry := by
    decide
  obtain ⟨-, -, -, hconcur⟩ := hlapses (slowGuest.take 1) now (fun _ => false) .anyV4 (by decide) hpending hp'
    (hl now)
  exact hconcur.2 (hage now hnow)

/-- A minute after its hello, to the nanosecond, the sweep ends the guest's pairing, whose session is kept, and
the right answer would have let it in. -/
theorem deadlines_part : ∃ d, start {} none 8 0 = .ok d ∧
    let invited := d.after slowGuest.tail
    invited.admission.sessions.contains (.ofNat 9) = true ∧
    invited.registry.phase? (.ofNat 1) = some .pairing ∧
    invited.TimesOut (.ofNat 1) invited.admission.isTrusted (Duration.ofSeconds 60) ∧
    (invited.submit (.ofNat 9) (Pin.answerTo (.ofNat 9) (Pin.text default)) .anyV4 (Duration.ofSeconds 60)).1 =
      .ok (.ofNat 1) ∧
    ¬ invited.Drops (.ofNat 9) (Duration.ofSeconds 60) ∧
    ¬ invited.Concur (.ofNat 1) (.ofNat 9) default invited.admission.isTrusted .anyV4
      (Duration.ofSeconds 60) := by
  have hrun : (start {} none 8 0).toOption.map (fun d =>
      let invited := d.after slowGuest.tail
      decide (invited.admission.sessions.contains (.ofNat 9) = true ∧
        invited.registry.phase? (.ofNat 1) = some .pairing ∧
        Uuid.ofNat 1 ∈ (invited.sweep invited.liveness.sweepTimeouts invited.admission.isTrusted
          (Duration.ofSeconds 60)).1.timedOut ∧
        (invited.submit (.ofNat 9) (Pin.answerTo (.ofNat 9) (Pin.text default)) .anyV4
          (Duration.ofSeconds 60)).1 = .ok (.ofNat 1) ∧
        (invited.admission.purge (Duration.ofSeconds 60)).2.sessions.find? (.ofNat 9) ≠ none)) = some true := by
    decide +kernel
  obtain ⟨d, hd, hrun⟩ := exists_start hrun
  obtain ⟨hpending, hpairing, hout, hin, hkept⟩ := of_decide_eq_true hrun
  refine ⟨d, hd, hpending, hpairing, hout, hin, hkept, ?_⟩
  rintro ⟨hsame, -⟩
  cases hin.symm.trans (hsame.1 hout)

end Desk

end SharedDesk
