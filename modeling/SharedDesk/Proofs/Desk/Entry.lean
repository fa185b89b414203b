import SharedDesk.Proofs.Desk.Run
import SharedDesk.Proofs.Desk.Start
/-!
# How a client gets in

`nobody_slips_in`: after any run of a desk, a client is active only if the act that brought it in was a
hello of a client that was trusted by then, or an answer that proves the PIN of the session that the
client's latest hello had opened, in time and with tries left; and a client is trusted only if the
settings said so or it gave such an answer, and has not been forgotten since. What carries it from act
to act is that every session is what the past has made of it (`Faithful`).
-/

namespace SharedDesk

namespace Act

/-- A hello without fault of a trusted client, from an address that is not locked out. -/
def Recognised (d : Desk) (id : Uuid) : Act → Prop
  | .hello h peer now _ _ => h.client = id ∧ h.check = .ok () ∧
      d.admission.lockedOut? peer now = none ∧ d.admission.isTrusted id = true
  | _ => False

/-- An answer within a session, from an address that is not locked out, that does not prove its PIN. -/
def Errs (d : Desk) (session : Uuid) (pin : Pin) : Act → Prop
  | .submit sid answer peer now => sid = session ∧ d.admission.lockedOut? peer now = none ∧
      answer ≠ Pin.answerTo session pin.text
  | _ => False

end Act

namespace Desk

/-- The latest hello of a client, at `opened`, has opened a session with a PIN. Within it `wrong` wrong
answers were given, and the client has not gone, been forgotten or timed out since. -/
inductive Challenged (d : Desk) (id session : Uuid) (pin : Pin) (opened : Time) : Nat → List Act → Prop
  | opened {h : Hello} {peer : Address} {past : List Act} : h.client = id →
      ((d.after past).hello h peer opened session pin).1 = .ok (.pairingRequired session) →
      Challenged d id session pin opened 0 (.hello h peer opened session pin :: past)
  | erred {a : Act} {wrong : Nat} {past : List Act} : a.Errs (d.after past) session pin →
      Challenged d id session pin opened wrong past →
      Challenged d id session pin opened (wrong + 1) (a :: past)
  | waited {a : Act} {wrong : Nat} {past : List Act} : ¬ a.Errs (d.after past) session pin →
      ¬ a.Greets (d.after past) id → ¬ a.Ends (d.after past) id →
      Challenged d id session pin opened wrong past → Challenged d id session pin opened wrong (a :: past)

/-- An answer that proves the PIN of a client's challenge, from an address that is not locked out, in
time and with tries left. -/
def Proves (policy : PairingPolicy) (d : Desk) (id : Uuid) : Act → List Act → Prop
  | .submit session answer peer now, past => (d.after past).admission.lockedOut? peer now = none ∧
      ∃ pin opened wrong, answer = Pin.answerTo session pin.text ∧
        Challenged d id session pin opened wrong past ∧
        now ≤ opened + policy.pinExpiry ∧ wrong < max policy.maxAttempts 1
  | _, _ => False

/-- An act brings a client in: it is active afterwards, and was not before or has said hello anew. -/
def Enters (d : Desk) (id : Uuid) (a : Act) (past : List Act) : Prop :=
  (d.after (a :: past)).registry.isActive id = true ∧
    ((d.after past).registry.isActive id = false ∨ a.Greets (d.after past) id)

/-- A session is what the past has made of it: there are tries left, and while its client is pairing it
is the client's challenge. -/
def Faithful (policy : PairingPolicy) (d : Desk) (past : List Act) : Prop :=
  ∀ session s, (d.after past).admission.sessions.find? session = some s →
    s.attempts < max policy.maxAttempts 1 ∧
    ((d.after past).registry.phase? s.client = some .pairing →
      ∃ pin, s.answer = Pin.answerTo session pin.text ∧
        Challenged d s.client session pin s.openedAt s.attempts past)

variable {policy : PairingPolicy} {d : Desk} {a : Act} {past : List Act} {id : Uuid}

/-- A client that is pairing after an act that is no hello of it was pairing before. -/
theorem pairing_before (hp : (d.act a).registry.phase? id = some .pairing) (hg : ¬ a.Greets d id) :
    d.registry.phase? id = some .pairing := by
  rw [← Registry.phase?_of_standing? (standing?_of_pairing hp hg)]
  exact hp

theorem faithful_cons (hpolicy : d.admission.policy = policy) (hf : Faithful policy d past) (a : Act) :
    Faithful policy d (a :: past) := by
  intro session s hs
  cases session_act hs with
  | @opened h peer now pin hresult heq =>
    -- A new session, and nobody has answered yet.
    subst heq
    exact ⟨Nat.lt_of_lt_of_le Nat.one_pos (Nat.le_max_right ..), fun _ => ⟨pin, rfl, .opened rfl hresult⟩⟩
  | @counted s₀ c answer peer now hl hdoor ha hleft heq =>
    subst heq
    obtain ⟨pin, hanswer, hc⟩ := (hf session s₀ hdoor.session).2 hdoor.phase?
    rw [policy_after, hpolicy] at hleft
    refine ⟨Nat.lt_of_lt_of_le hleft (Nat.le_max_left ..), fun _ => ⟨pin, hanswer, ?_⟩⟩
    exact .erred ⟨rfl, hl, fun h => ha (hanswer.trans h.symm)⟩ hc
  | kept hold hgreets hanswers hends =>
    -- The session is what it was, so a client that is pairing now was so before, under this challenge.
    obtain ⟨hleft, hchallenge⟩ := hf session s hold
    refine ⟨hleft, fun hp => ?_⟩
    obtain ⟨pin, hanswer, hc⟩ := hchallenge (pairing_before hp hgreets)
    refine ⟨pin, hanswer, .waited ?_ hgreets (fun h => hends h hp) hc⟩
    intro herrs
    cases a with
    | submit sid answer peer now => exact hanswers ⟨herrs.1, herrs.2.1⟩
    | _ => exact herrs

theorem faithful_after (hpolicy : d.admission.policy = policy)
    (hstart : ∀ session, d.admission.sessions.find? session = none) (past : List Act) :
    Faithful policy d past := by
  induction past with
  | nil => exact fun session s hs => nomatch (hstart session).symm.trans hs
  | cons a past ih => exact faithful_cons hpolicy ih a

/-- The right answer was right about the client's challenge. -/
theorem proves_of_completes (hpolicy : d.admission.policy = policy) (hf : Faithful policy d past)
    (h : a.Completes (d.after past) id) : Proves policy d id a past := by
  cases a with
  | submit session answer peer now =>
    rw [Act.Completes] at h
    cases hl : (d.after past).admission.lockedOut? peer now with
    | some n =>
      rw [submit_of_locked hl] at h
      cases h
    | none =>
      rw [submit_of_free hl] at h
      obtain ⟨s, c, hdoor, rfl, hle, rfl⟩ := Admission.judge_eq_ok_iff.1 h
      obtain ⟨hleft, hchallenge⟩ := hf session s hdoor.session
      obtain ⟨pin, hanswer, hc⟩ := hchallenge hdoor.phase?
      rw [policy_after, hpolicy, Time.elapsed] at hle
      exact ⟨hl, pin, s.openedAt, s.attempts, hanswer, hc, Nat.sub_le_iff_le_add'.1 hle, hleft⟩
  | _ => cases h

/-- A hello that leaves its client active was one of a trusted client. -/
theorem recognised_of_greets (hg : a.Greets d id) (h : (d.act a).registry.isActive id = true) :
    a.Recognised d id := by
  cases a with
  | hello hello peer now session pin =>
    obtain ⟨rfl, hl⟩ := hg
    rw [Registry.isActive_iff, act, hello_of_free hl, take] at h
    have hphase := (Admission.phase?_welcome_self ..).symm.trans h
    split at hphase
    · cases hphase
    · rename_i hcheck
      split at hphase
      · rename_i htrusted
        exact ⟨rfl, hcheck, hl, htrusted⟩
      · cases hphase
  | _ => cases hg

/-- There are two ways in. -/
theorem entry (hpolicy : d.admission.policy = policy) (hf : Faithful policy d past)
    (he : Enters d id a past) : a.Recognised (d.after past) id ∨ Proves policy d id a past := by
  obtain ⟨hactive, hnew⟩ := he
  rcases phase?_act (d.after past) a id with hg | hc | hmem
  · exact .inl (recognised_of_greets hg hactive)
  · exact .inr (proves_of_completes hpolicy hf hc)
  · rcases hnew with hnew | hg
    · have hphase : ((d.after past).act a).registry.phase? id = some .active :=
        Registry.isActive_iff.1 hactive
      rw [hphase] at hmem
      have hbefore : (d.after past).registry.phase? id = some .active := by simpa [eq_comm] using hmem
      rw [Registry.isActive_iff.2 hbefore] at hnew
      cases hnew
    · exact .inl (recognised_of_greets hg hactive)

/-- Who is active came in by the last act that brought it in. -/
theorem entered (hpolicy : d.admission.policy = policy) (hf : ∀ past, Faithful policy d past)
    (hout : d.registry.isActive id = false) (h : (d.after past).registry.isActive id = true) :
    Since (fun a past => Enters d id a past ∧ (a.Recognised (d.after past) id ∨ Proves policy d id a past))
      (fun a past => ¬ Enters d id a past) past := by
  induction past with
  | nil => cases hout.symm.trans h
  | cons a past ih =>
    by_cases he : Enters d id a past
    · exact .here ⟨he, entry hpolicy (hf past) he⟩
    · refine .there he (ih ?_)
      -- An act that is no entry finds the client active.
      exact Bool.not_eq_false _ ▸ fun hbefore => he ⟨h, .inl hbefore⟩

/-- Who is trusted was so from the start, or gave an answer that proves its PIN. -/
theorem trust_earned (hpolicy : d.admission.policy = policy) (hf : ∀ past, Faithful policy d past)
    (h : (d.after past).admission.isTrusted id = true) :
    (d.admission.isTrusted id = true ∧ ∀ a ∈ past, ¬ a.Forgets id) ∨
      Since (fun a past => Proves policy d id a past) (fun a _ => ¬ a.Forgets id) past := by
  induction past with
  | nil => exact .inl ⟨h, nofun⟩
  | cons a past ih =>
    rcases (isTrusted_act ..).1 h with hc | ⟨hbefore, hkept⟩
    · exact .inr (.here (proves_of_completes hpolicy (hf past) hc))
    · rcases ih hbefore with ⟨hstart, hall⟩ | hsince
      · exact .inl ⟨hstart, List.forall_mem_cons.2 ⟨hkept, hall⟩⟩
      · exact .inr (.there hkept hsince)

/-- After any run of a desk, the last entry of an active client was a hello of a client that was trusted
by then, or an answer that proves the PIN of the client's challenge; and a trusted client is trusted by
the settings or has given such an answer, and has not been forgotten since. -/
theorem nobody_slips_in {config : Config} {file : Option ConfigFile} {capacity : Nat} {opening : Time}
    (h : start config file capacity opening = .ok d) (past : List Act) (id : Uuid) :
    ((d.after past).registry.isActive id = true →
      Since (fun a past => Enters d id a past ∧
          (a.Recognised (d.after past) id ∨ Proves config.pairing.policy d id a past))
        (fun a past => ¬ Enters d id a past) past) ∧
    ((d.after past).admission.isTrusted id = true →
      (ListsTrusted config id ∧ ∀ a ∈ past, ¬ a.Forgets id) ∨
        Since (fun a past => Proves config.pairing.policy d id a past) (fun a _ => ¬ a.Forgets id) past) := by
  obtain ⟨hpolicy, hsessions, -, htrust⟩ := start_admission h
  have hf : ∀ past, Faithful config.pairing.policy d past :=
    faithful_after hpolicy fun session => by rw [hsessions, Table.find?_empty]
  have hout : d.registry.isActive id = false := by
    have hphase := start_phase? h id
    rw [Registry.isActive]
    rcases List.mem_cons.1 hphase with hnone | hgone
    · rw [hnone]
      rfl
    · rw [List.mem_singleton.1 hgone]
      rfl
  refine ⟨entered hpolicy hf hout, fun htrusted => ?_⟩
  exact (trust_earned hpolicy hf htrusted).imp_left fun hstart => ⟨(htrust id).1 hstart.1, hstart.2⟩

/-- A guest says hello and answers wrong once before it answers right; the latest act comes first. -/
def visit : List Act :=
  [.submit (.ofNat 9) (Pin.answerTo (.ofNat 9) (Pin.text ⟨⟨4711, by decide⟩⟩)) .anyV4 3,
    .submit (.ofNat 9) "" .anyV4 2,
    .hello ⟨.ofNat 1, Hello.spokenVersion, "guest"⟩ .anyV4 1 (.ofNat 9) ⟨⟨4711, by decide⟩⟩]

/-- After its visit the guest is active and trusted, and both were earned. -/
theorem guest_let_in : ∃ d, start {} none 8 0 = .ok d ∧
    ((d.after visit).registry.isActive (.ofNat 1), (d.after visit).admission.isTrusted (.ofNat 1)) =
      (true, true) ∧
    Since (fun a past => Enters d (.ofNat 1) a past ∧
        (a.Recognised (d.after past) (.ofNat 1) ∨ Proves (PairingSection.policy {}) d (.ofNat 1) a past))
      (fun a past => ¬ Enters d (.ofNat 1) a past) visit ∧
    Since (fun a past => Proves (PairingSection.policy {}) d (.ofNat 1) a past)
      (fun a _ => ¬ a.Forgets (.ofNat 1)) visit := by
  have hrun : (start {} none 8 0).toOption.map (fun d =>
      ((d.after visit).registry.isActive (.ofNat 1), (d.after visit).admission.isTrusted (.ofNat 1))) =
        some (true, true) := by
    decide +kernel
  cases hd : start {} none 8 0 with
  | error fault =>
    rw [hd] at hrun
    cases hrun
  | ok d =>
    rw [hd] at hrun
    have hstanding := Option.some.inj hrun
    obtain ⟨hactive, htrusted⟩ := Prod.mk.inj hstanding
    obtain ⟨hentered, hearned⟩ := nobody_slips_in hd visit (.ofNat 1)
    refine ⟨d, rfl, hstanding, hentered hactive, (hearned htrusted).resolve_left fun hlisted => ?_⟩
    -- Nobody is trusted by settings that nobody has made.
    obtain ⟨⟨c, hc, -⟩, -⟩ := hlisted
    cases hc

end Desk

end SharedDesk
