import SharedDesk.Proofs.Desk.Guessing
import SharedDesk.Proofs.Desk.Pairing
/-!
# The right answer in time

A session that a hello has opened waits for its answer (`Awaits`), and nothing but time, its own wrong
answers and acts that are about its client take it away: neither maintenance, nor sweeps that know how
long a PIN is good, nor anything that other clients do (`Awaits.act`, `awaits_after`). So the right answer
in time lets the client in, and the trust it earns lasts until the client is forgotten
(`timely_answer_admits`).
-/

namespace SharedDesk

namespace Act

/-- A client goes, is forgotten, or has its pairing abandoned. -/
def Dismisses (id : Uuid) : Act → Prop
  | .disconnect j _ => j = id
  | .forget text => readClientId text = .ok id
  | .abandon j => j = id
  | _ => False

/-- A sweep gives every pairing as long as its PIN is good. -/
def Patient (d : Desk) : Act → Prop
  | .sweep timeouts _ _ => d.admission.policy.pinExpiry ≤ timeouts.pairing
  | _ => True

/-- An act while the PIN of a client's session is good that is neither a hello of the client nor its end, and
does not let it in. No hello draws the session's identifier again. -/
structure Spares (d : Desk) (id session : Uuid) (opened : Time) (a : Act) : Prop where
  inTime : ∀ t, a.time? = some t → Time.elapsed t opened < d.admission.policy.pinExpiry
  noHello : ¬ a.Greets d id
  noEnd : ¬ a.Dismisses id
  noEntry : ¬ a.Completes d id
  fresh : a.Fresh d
  unrepeated : a.opens d session = false
  patient : a.Patient d

end Act

namespace Desk

/-- A client is pairing within a session, the only one that it has, since that was opened. -/
structure Awaits (d : Desk) (id session : Uuid) (s : Session) : Prop where
  found : d.admission.sessions.find? session = some s
  client : s.client = id
  standing : d.registry.standing? id = some (.pairing, s.openedAt)
  only : ∀ sid s', d.admission.sessions.find? sid = some s' → s'.client = id → sid = session

/-- A client is active and trusted, and no session of it is open. -/
structure LetIn (d : Desk) (id : Uuid) : Prop where
  active : d.registry.phase? id = some .active
  trusted : d.admission.isTrusted id = true
  apart : ∀ sid s, d.admission.sessions.find? sid = some s → s.client ≠ id

/-- Every hello of a client without fault, from an address that is not locked out, makes it active at once. -/
def Recognises (d : Desk) (id : Uuid) : Prop :=
  ∀ hello peer now session pin, hello.client = id → hello.check = .ok () →
    d.admission.lockedOut? peer now = none →
    (d.hello hello peer now session pin).1 = .ok .activated ∧
      (d.act (.hello hello peer now session pin)).registry.phase? id = some .active

variable {d : Desk} {a : Act} {id session : Uuid} {s : Session} {past since : List Act} {answer : String}
  {peer : Address} {now : Time} {hello : Hello} {pin : Pin}

/-! ## A session that waits -/

theorem Awaits.phase? (h : d.Awaits id session s) : d.registry.phase? id = some .pairing := by
  rw [Registry.phase?_eq_map, h.standing]
  rfl

theorem Awaits.atDoor (h : d.Awaits id session s) :
    ∃ c, Admission.AtDoor d.admission d.registry session s c := by
  obtain ⟨c, hc, hp⟩ := Registry.phase?_eq_some_iff.1 h.phase?
  exact ⟨c, h.found, h.client ▸ hc, hp⟩

/-- The hello that opens a session leaves its client waiting within it. -/
theorem awaits_opened (h : (d.hello hello peer now session pin).1 = .ok (.pairingRequired session)) :
    (d.act (.hello hello peer now session pin)).Awaits hello.client session
      ⟨hello.client, Pin.answerTo session pin.text, now, 0⟩ := by
  cases hl : d.admission.lockedOut? peer now with
  | some n =>
    rw [hello_of_locked hl] at h
    cases h
  | none =>
    rw [hello_of_free hl, take] at h
    rw [act, hello_of_free hl, take]
    refine ⟨(Admission.find?_of_pairingRequired h).2, rfl, Admission.standing?_of_pairingRequired h, ?_⟩
    intro sid s hs hc
    rcases Admission.find?_welcome hs with ⟨hsid, -⟩ | ⟨-, hne⟩
    · exact hsid
    · exact absurd hc hne

/-- An answer that lets nobody in leaves the session of a client as it is, but for the attempt that a wrong
answer within it costs. -/
theorem Awaits.answered (h : d.Awaits id session s) {sid : Uuid}
    (ha : (Act.submit sid answer peer now).Spares d id session s.openedAt)
    (hleft : ((Act.submit sid answer peer now).rebuke? d session).isSome = true →
      s.attempts + 1 < d.admission.policy.maxAttempts) :
    let a := Act.submit sid answer peer now
    (d.act a).admission.sessions.find? session =
        some { s with attempts := s.attempts + (a.rebuke? d session).toList.length } ∧
      (d.act a).registry.standing? id = d.registry.standing? id := by
  intro a
  cases hl : d.admission.lockedOut? peer now with
  | some n =>
    have hquiet : a.rebuke? d session = none := by
      refine if_neg fun hwrong => ?_
      obtain ⟨s', c', hm⟩ := Admission.mistakes_iff.1 hwrong.2
      cases hl.symm.trans hm.free
    rw [hquiet, show d.act a = d by rw [act, submit_of_locked hl]]
    exact ⟨h.found, rfl⟩
  | none =>
    by_cases hsid : sid = session
    · subst hsid
      obtain ⟨c, hdoor⟩ := h.atDoor
      have hle : Time.elapsed now s.openedAt ≤ d.admission.policy.pinExpiry := Nat.le_of_lt (ha.inTime now rfl)
      have hwrong : s.answer ≠ answer := by
        intro hright
        apply ha.noEntry
        rw [Act.Completes, submit_of_free hl, take, Admission.judge_eq_ok_iff]
        exact ⟨s, c, hdoor, h.client, hle, hright⟩
      have hm : Admission.Mistaken d.admission d.registry sid answer peer now s c := ⟨hl, hdoor, hle, hwrong⟩
      have hrebuke : a.rebuke? d sid = some (d.submit sid answer peer now).1 :=
        if_pos ⟨rfl, Admission.mistakes_iff.2 ⟨s, c, hm⟩⟩
      rw [hrebuke, act, submit, take, hm.submit_eq_of_left (hleft (by rw [hrebuke]; rfl))]
      exact ⟨by rw [Table.find?_insert, if_pos rfl]; rfl, rfl⟩
    · have hquiet : a.rebuke? d session = none := if_neg fun hwrong => hsid hwrong.1
      have hother : ∀ s', d.admission.sessions.find? sid = some s' → s'.client ≠ id :=
        fun s' hs' hc => hsid (h.only sid s' hs' hc)
      rw [hquiet, act, submit_of_free hl, take]
      refine ⟨(Admission.find?_judge_of_ne (h.client ▸ hother) ..).2 h.found, ?_⟩
      exact congrArg (Option.map Client.standing) (Admission.record_judge hother ..)

/-- Of all acts that spare a client's session only a wrong answer changes it. -/
theorem Awaits.act (h : d.Awaits id session s)
    (hexpiry : d.liveness.pairingTimeout = d.admission.policy.pinExpiry) (ha : a.Spares d id session s.openedAt)
    (hleft : (a.rebuke? d session).isSome = true → s.attempts + 1 < d.admission.policy.maxAttempts) :
    (d.act a).Awaits id session { s with attempts := s.attempts + (a.rebuke? d session).toList.length } := by
  have honly : ∀ sid s', (d.act a).admission.sessions.find? sid = some s' → s'.client = id →
      sid = session := by
    intro sid s' hs' hc'
    obtain ⟨s₀, hs₀, hc₀, -⟩ := session_before hs' (hc' ▸ ha.noHello)
    exact h.only sid s₀ hs₀ (hc₀.trans hc')
  -- What is left to show of an act that is no answer: it keeps the session, and the client as it stands.
  have hkept : a.rebuke? d session = none → (d.act a).admission.sessions.find? session = some s →
      (d.act a).registry.standing? id = d.registry.standing? id →
      (d.act a).Awaits id session { s with attempts := s.attempts + (a.rebuke? d session).toList.length } := by
    intro hquiet hfound hstands
    rw [hquiet]
    exact ⟨hfound, h.client, hstands.trans h.standing, honly⟩
  cases a with
  | submit sid answer peer now =>
    obtain ⟨hfound, hstands⟩ := h.answered ha hleft
    exact ⟨hfound, h.client, hstands.trans h.standing, honly⟩
  | hello hello peer now sid pin =>
    rcases act_hello d hello peer now sid pin with heq | ⟨hl, heq⟩
    · exact hkept rfl (by rw [heq]; exact h.found) (by rw [heq])
    · have hother : id ≠ hello.client := fun hid => ha.noHello ⟨hid.symm, hl⟩
      refine hkept rfl ?_ ?_ <;> rw [heq]
      · exact (Admission.find?_welcome_of_ne (h.client ▸ hother) ha.fresh ..).2 h.found
      · exact congrArg (Option.map Client.standing) (Admission.record_welcome hother ..)
  | disconnect j now =>
    have hother : id ≠ j := fun hid => ha.noEnd hid.symm
    refine hkept rfl ?_ (congrArg (Option.map Client.standing) (Admission.record_disconnect hother ..))
    rw [Desk.act, disconnect, take, Admission.disconnect_admission]
    exact Admission.find?_dropSessions_iff.2 ⟨h.found, h.client ▸ hother⟩
  | forget text =>
    cases hread : readClientId text with
    | error bad =>
      have hsame : d.act (.forget text) = d := forgetClient_of_error hread d
      exact hkept rfl (by rw [hsame]; exact h.found) (by rw [hsame])
    | ok j =>
      have hother : id ≠ j := by
        rintro rfl
        exact ha.noEnd hread
      refine hkept rfl ?_ ?_
      · rw [Desk.act, forgetClient_admission hread]
        exact Admission.find?_dropSessions_iff.2 ⟨h.found, h.client ▸ hother⟩
      · simp [Desk.act, Registry.standing?, find?_forgetClient hread, hother]
  | abandon j =>
    have hother : id ≠ j := fun hid => ha.noEnd hid.symm
    exact hkept rfl (Admission.find?_dropSessions_iff.2 ⟨h.found, h.client ▸ hother⟩) rfl
  | purge now =>
    exact hkept rfl (Admission.find?_purge_iff.2 ⟨h.found, Nat.le_of_lt (ha.inTime now rfl)⟩) rfl
  | sweep timeouts retain now =>
    rcases Registry.sweep_of_pairing h.standing now timeouts retain with ⟨hlate, -⟩ | ⟨-, -, hstands⟩
    · exact absurd (Nat.le_trans ha.patient hlate) (Nat.not_le.2 (ha.inTime now rfl))
    · exact hkept rfl h.found (hstands.trans h.standing.symm)
  | maintain now =>
    have hearly := ha.inTime now rfl
    rcases Registry.sweep_of_pairing h.standing now d.liveness.sweepTimeouts
        (d.admission.purge now).2.isTrusted with ⟨hlate, -⟩ | ⟨-, hin, hstands⟩
    · rw [← hexpiry] at hearly
      exact absurd hlate (Nat.not_le.2 hearly)
    · refine hkept rfl ?_ (hstands.trans h.standing.symm)
      have hsessions := (Admission.abandonAll_spec (d.maintain now).1.timedOut (d.admission.purge now).2).1
      exact (hsessions session s).2
        ⟨Admission.find?_purge_iff.2 ⟨h.found, Nat.le_of_lt hearly⟩, h.client ▸ hin⟩
  | probe settings now =>
    rcases Registry.standing?_probeRound ProbeRound.throughQueue d.probes d.registry settings now id with
      hstands | ⟨hactive, -⟩
    · exact hkept rfl h.found hstands
    · cases h.phase?.symm.trans hactive
  | reply j number now =>
    exact hkept rfl (by rw [admission_of_other rfl]; exact h.found) (standing?_reply ..)
  | flush => exact hkept rfl h.found (Registry.standing?_flush ..)
  | arrange forms =>
    exact hkept rfl (by rw [admission_of_other rfl]; exact h.found)
      (by rw [Desk.act, (d.updateLayout_frame forms).2])
  | stage form =>
    exact hkept rfl (by rw [admission_of_other rfl]; exact h.found)
      (by rw [Desk.act, (d.updateNetwork_frame form).2])
  | share | point | focus | collect | read | transmit | disk => exact hkept rfl h.found rfl

/-! ## A run of acts that spare it -/

/-- A session waits as long as it is spared, and has counted the wrong answers within it, which have to leave it
attempts. -/
theorem awaits_after (h : d.Awaits id session s) (hnew : s.attempts = 0)
    (hexpiry : d.liveness.pairingTimeout = d.admission.policy.pinExpiry)
    (hspared : Throughout (fun d a => a.Spares d id session s.openedAt) d since)
    (hwrong : (d.rebukes session since).length < max d.admission.policy.maxAttempts 1) :
    (d.after since).Awaits id session { s with attempts := (d.rebukes session since).length } := by
  induction since with
  | nil =>
    rw [rebukes, List.length_nil, ← hnew]
    exact h
  | cons a since ih =>
    obtain ⟨ha, hspared⟩ := hspared
    rw [rebukes, ha.unrepeated, if_neg Bool.false_ne_true, List.length_append] at hwrong ⊢
    refine (ih hspared (by omega)).act (by rw [liveness_after, policy_after, hexpiry]) ha ?_
    intro hrebuke
    obtain ⟨reply, hrebuke⟩ := Option.isSome_iff_exists.1 hrebuke
    rw [hrebuke, Option.toList_some, List.length_singleton] at hwrong
    rw [policy_after]
    dsimp only
    omega

/-! ## The right answer -/

theorem Awaits.letIn (h : d.Awaits id session s) (hl : d.admission.lockedOut? peer now = none)
    (hle : Time.elapsed now s.openedAt ≤ d.admission.policy.pinExpiry) :
    (d.submit session s.answer peer now).1 = .ok id ∧
      (d.act (.submit session s.answer peer now)).LetIn id := by
  obtain ⟨c, hdoor⟩ := h.atDoor
  have hresult : (Act.submit session s.answer peer now).Completes d id := by
    rw [Act.Completes, submit_of_free hl, take, Admission.judge_eq_ok_iff]
    exact ⟨s, c, hdoor, h.client, hle, rfl⟩
  refine ⟨hresult, phase?_of_completes hresult, (isTrusted_act ..).2 (.inl hresult), ?_⟩
  intro sid s' hs' hc'
  rw [Desk.act, submit_of_free hl, take, Admission.judge_eq_of_pairing hdoor, if_neg (Nat.not_lt.2 hle),
    if_pos rfl] at hs'
  obtain ⟨hne, hbefore⟩ := Admission.find?_closeSession_iff.1 hs'
  exact hne (h.only sid s' hbefore hc')

/-! ## Trust lasts -/

theorem isTrusted_after (h : d.admission.isTrusted id = true) (hkept : ∀ a ∈ past, ¬ a.Forgets id) :
    (d.after past).admission.isTrusted id = true := by
  induction past with
  | nil => exact h
  | cons a past ih =>
    obtain ⟨ha, hkept⟩ := List.forall_mem_cons.1 hkept
    exact (isTrusted_act ..).2 (.inr ⟨ih hkept, ha⟩)

theorem recognises_of_isTrusted (h : d.admission.isTrusted id = true) : d.Recognises id := by
  rintro hello peer now session pin rfl hcheck hl
  constructor
  · rw [hello_of_free hl, take, Admission.result_welcome, hcheck]
    dsimp only
    rw [if_pos h]
  · rw [act, hello_of_free hl, take, Admission.phase?_welcome_self, hcheck]
    dsimp only
    rw [if_pos h]

/-- Whatever else happens while a client's PIN is good, as long as its session has attempts left the right
answer lets the client in, and from then on until it is forgotten it is let in without a PIN. -/
theorem timely_answer_admits {config : Config} {file : Option ConfigFile} {capacity : Nat}
    {opening opened : Time} {source : Address} {invited : Desk}
    (hstart : start config file capacity opening = .ok d) (earlier : List Act)
    (hopened : ((d.after earlier).hello hello source opened session pin).1 = .ok (.pairingRequired session))
    (hinvited : invited = (d.after earlier).act (.hello hello source opened session pin))
    (hspared : Throughout (fun d a => a.Spares d hello.client session opened) invited since)
    (hwrong : (invited.rebukes session since).length < max config.pairing.policy.maxAttempts 1)
    (hl : (invited.after since).admission.lockedOut? peer now = none)
    (hle : Time.elapsed now opened ≤ config.pairing.policy.pinExpiry) :
    let answer := Pin.answerTo session pin.text
    let admitted := (invited.after since).act (.submit session answer peer now)
    ((invited.after since).submit session answer peer now).1 = .ok hello.client ∧
      admitted.LetIn hello.client ∧
      ∀ later, (∀ a ∈ later, ¬ a.Forgets hello.client) → (admitted.after later).Recognises hello.client := by
  have hpolicy : invited.admission.policy = config.pairing.policy := by
    rw [hinvited, policy_act, policy_after, (start_admission hstart).1]
  have hexpiry : invited.liveness.pairingTimeout = invited.admission.policy.pinExpiry := by
    rw [hpolicy, hinvited, liveness_act, liveness_after, start_liveness hstart, (start_admission hstart).1]
  have hopen : invited.Awaits hello.client session ⟨hello.client, Pin.answerTo session pin.text, opened, 0⟩ :=
    hinvited ▸ awaits_opened hopened
  have hwaits := awaits_after hopen rfl hexpiry hspared (hpolicy ▸ hwrong)
  obtain ⟨hresult, hin⟩ := hwaits.letIn hl (by rw [policy_after, hpolicy]; exact hle)
  exact ⟨hresult, hin, fun later hkept => recognises_of_isTrusted (isTrusted_after hin.trusted hkept)⟩

/-- The guest says who it is. -/
def guest : Hello := ⟨.ofNat 1, Hello.spokenVersion, "guest"⟩

/-- The guest takes half a minute: it answers wrong once, and meanwhile another client says hello and the desk
is maintained. The latest act comes first. -/
def hesitation : List Act :=
  [.maintain (Duration.ofSeconds 30),
    .hello ⟨.ofNat 2, Hello.spokenVersion, "other"⟩ .anyV4 (Duration.ofSeconds 20) (.ofNat 8) default,
    .submit (.ofNat 9) "" .anyV4 (Duration.ofSeconds 10)]

/-- The hesitation spares the session of the guest, which is let in afterwards and need not show a PIN again. -/
theorem hesitant_guest_let_in : ∃ d invited, start {} none 8 0 = .ok d ∧
    (d.hello guest .anyV4 0 (.ofNat 9) default).1 = .ok (.pairingRequired (.ofNat 9)) ∧
    invited = d.act (.hello guest .anyV4 0 (.ofNat 9) default) ∧
    Throughout (fun d a => a.Spares d guest.client (.ofNat 9) 0) invited hesitation ∧
    (invited.rebukes (.ofNat 9) hesitation).length = 1 ∧
    let admitted := (invited.after hesitation).act
      (.submit (.ofNat 9) (Pin.answerTo (.ofNat 9) (Pin.text default)) .anyV4 (Duration.ofSeconds 40))
    admitted.LetIn guest.client ∧ (admitted.after [.maintain (Duration.ofSeconds 4000),
      .disconnect guest.client (Duration.ofSeconds 50)]).Recognises guest.client := by
  have hrun : (start {} none 8 0).toOption.map (fun d =>
      let invited := d.act (.hello guest .anyV4 0 (.ofNat 9) default)
      let erred := invited.act (.submit (.ofNat 9) "" .anyV4 (Duration.ofSeconds 10))
      decide ((d.hello guest .anyV4 0 (.ofNat 9) default).1 = .ok (.pairingRequired (.ofNat 9)) ∧
        (invited.rebukes (.ofNat 9) hesitation).length = 1 ∧
        (invited.submit (.ofNat 9) "" .anyV4 (Duration.ofSeconds 10)).1 = .error (.wrongPin 2) ∧
        erred.admission.sessions.find? (.ofNat 8) = none ∧
        (erred.hello ⟨.ofNat 2, Hello.spokenVersion, "other"⟩ .anyV4 (Duration.ofSeconds 20) (.ofNat 8)
          default).1 = .ok (.pairingRequired (.ofNat 8)) ∧
        (invited.after hesitation).admission.lockedOut? .anyV4 (Duration.ofSeconds 40) = none)) = some true := by
    decide +kernel
  obtain ⟨d, hd, hrun⟩ := exists_start hrun
  obtain ⟨hopened, hcount, hwrong, hfresh, hother, hfree⟩ := of_decide_eq_true hrun
  have hearly : ∀ past t, t < Duration.ofSeconds 60 → Time.elapsed t 0 <
      ((d.act (.hello guest .anyV4 0 (.ofNat 9) default)).after past).admission.policy.pinExpiry := by
    intro past t ht
    rw [policy_after, policy_act, (start_admission hd).1]
    exact ht
  have hspared : Throughout (fun d a => a.Spares d guest.client (.ofNat 9) 0)
      (d.act (.hello guest .anyV4 0 (.ofNat 9) default)) hesitation := by
    refine ⟨?_, ?_, ?_, trivial⟩
    · exact ⟨fun t ht => hearly _ t (by cases ht; decide), id, id, id, trivial, rfl, trivial⟩
    · refine ⟨fun t ht => hearly _ t (by cases ht; decide), fun hgreets => absurd hgreets.1 (by decide), id,
        id, hfresh, decide_eq_false fun hopens => ?_, trivial⟩
      have hsame := Welcome.pairingRequired.inj (Except.ok.inj (hother.symm.trans hopens))
      revert hsame
      decide
    · refine ⟨fun t ht => hearly [] t (by cases ht; decide), id, id, fun hcompletes => ?_, trivial, rfl, trivial⟩
      cases hwrong.symm.trans hcompletes
  obtain ⟨-, hin, hlasts⟩ := timely_answer_admits hd [] hopened rfl hspared
    (Nat.lt_of_le_of_lt (Nat.le_of_eq hcount) (by decide)) hfree (by decide)
  refine ⟨d, _, hd, hopened, rfl, hspared, hcount, hin, hlasts _ ?_⟩
  simp [Act.Forgets]

end Desk

end SharedDesk
