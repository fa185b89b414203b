import SharedDesk.Proofs.Registry.Counting
import SharedDesk.Proofs.Registry.Misses
/-!
# The life of a client in a registry

A record begins in `connecting` or in `disconnected`, and goes on by legal moves, each of a signal that the
operation raises. All that an operation can do to the phase of a known client and to the time of its last change is
a `Client.Moves` (`moves_operate`): entering another phase sets that time, and nothing else does. So over a run it is
the time of the latest operation that made the phase another one, or made the record (`changedAt_after`).
-/

namespace SharedDesk

theorem Phase.before_active {p : Phase} {s : Signal} (h : p.next? s = some .active) :
    p = .connected ∨ p = .pairing := by
  cases p <;> cases s <;> first | exact .inl rfl | exact .inr rfl | cases h

namespace Client

/-- What can happen to a client in one step, which takes place at `now?` and raises the signals `raised`: it stays in
its phase, or it enters another one. -/
inductive Moves (now? : Option Time) (raised : Signal → Prop) (c c' : Client) : Prop
  | stays : c'.phase = c.phase → c'.changedAt = c.changedAt → Moves now? raised c c'
  | along {s} : raised s → c.phase.next? s = some c'.phase → c'.phase ≠ c.phase → now? = some c'.changedAt →
      Moves now? raised c c'

variable {now? : Option Time} {raised : Signal → Prop} {c c' : Client} {s : Signal} {p : Phase} {now : Time}

theorem moves_of_standing (h : c'.standing = c.standing) : Moves now? raised c c' := by
  obtain ⟨hphase, htime⟩ := Prod.mk.inj h
  exact .stays hphase htime

/-- A legal move that ends where it began is none. -/
theorem moves_enter {b : Client} (hb : b.standing = c.standing) (hs : raised s) (hp : c.phase.next? s = some p)
    (hnow : now? = some now) : Moves now? raised c (b.enter p now) := by
  obtain ⟨hphase, htime⟩ := Prod.mk.inj hb
  by_cases hsame : p = c.phase
  · have hkept : (b.enter p now).changedAt = b.changedAt := if_pos (hsame.trans hphase.symm)
    exact .stays hsame (hkept.trans htime)
  · have hset : (b.enter p now).changedAt = now := if_neg fun heq => hsame (heq.trans hphase)
    exact .along hs hp hsame (by rw [hnow, hset])

theorem moves_follow (hs : raised s) (hnow : now? = some now) :
    Moves now? raised c ((c.follow s now).toOption.getD c) := by
  cases hfollow : c.follow s now with
  | error move => exact moves_of_standing rfl
  | ok c' =>
    obtain ⟨p, hp, rfl⟩ := follow_eq_ok_iff.1 hfollow
    exact moves_enter rfl hs hp hnow

theorem moves_greetAgain (hs : raised .reconnect) (hnow : now? = some now) (name : String) :
    Moves now? raised c (c.greetAgain name now) := by
  unfold greetAgain
  split
  · exact moves_of_standing rfl
  · have hmove : c.phase.next? .reconnect = some .connecting := by
      cases c.phase <;> rfl
    exact moves_enter rfl hs hmove hnow

theorem moves_probe (c : Client) (now : Time) :
    Moves now? raised c (((c.probe? now).map Prod.snd).getD c) := by
  cases hprobe : c.probe? now with
  | none => exact moves_of_standing rfl
  | some p => exact moves_of_standing (probe?_standing hprobe)

theorem moves_answer (c : Client) (number : UInt64) (now : Time) :
    Moves now? raised c (((c.answer? number now).map Prod.snd).getD c) := by
  cases hanswer : c.answer? number now with
  | none => exact moves_of_standing rfl
  | some p => exact moves_of_standing (answer?_standing hanswer)

theorem moves_expireProbe (hs : raised .probesMissed) (hnow : now? = some now) (timeout : Duration)
    (threshold : Nat) : Moves now? raised c (c.expireProbe now timeout threshold).1 := by
  unfold expireProbe
  split
  · rename_i hactive
    split
    · exact moves_of_standing rfl
    · have hmove : c.phase.next? .probesMissed = some .disconnected := by
        rw [hactive]
        rfl
      dsimp only
      split
      · exact moves_enter rfl hs hmove hnow
      · exact moves_of_standing rfl
  · exact moves_of_standing rfl

theorem moves_timeOut (hs : raised (timeoutSignal c.phase)) (hnow : now? = some now) (timeouts : SweepTimeouts) :
    Moves now? raised c ((c.timeOut? now timeouts).getD c) := by
  rw [timeOut?_eq]
  split
  · rename_i hout
    exact moves_enter rfl hs hout.next? hnow
  · exact moves_of_standing rfl

end Client

namespace Registry

open Client (Moves)

namespace Operation

/-- The signals that an operation raises for a client. -/
def Raises (id : Uuid) : Operation → Signal → Prop
  | greet j .., s => j = id ∧ s = .reconnect
  | signal j s' _, s => j = id ∧ s = s'
  | expire .., s => s = .probesMissed
  | sweep .., s => s = .handshakeTimedOut ∨ s = .pairingFailed
  | _, _ => False

end Operation

/-- An operation answers an error. -/
inductive Fails (r : Registry) : Operation → RegistryFault → Prop
  | signal {id s now fault} : r.signal id s now = .error fault → Fails r (.signal id s now) fault
  | reply {id number now fault} : r.answer id number now = .error fault → Fails r (.reply id number now) fault
  | measure {id roundTrip count now fault} : r.measure id roundTrip count now = .error fault →
      Fails r (.measure id roundTrip count now) fault
  | forget {id fault} : r.forget id = .error fault → Fails r (.forget id) fault

/-- An operation that does not take a client to another phase, whatever else it does. -/
inductive Idles (r : Registry) (id : Uuid) : Operation → Prop
  /-- A PIN that does not match leaves the client pairing. -/
  | retried {j now} : r.phase? j = some .pairing → Idles r id (.signal j .pinMismatch now)
  | greetedAgain {j name now} : r.phase? j = some .connecting → Idles r id (.greet j name now)
  | failed {op fault} : r.Fails op fault → Idles r id op
  | probed {now} : Idles r id (.start now)
  /-- A probe that is given up is one too many for the clients that are told of, and for nobody else. -/
  | missed {now timeout threshold} : id ∉ (r.expireProbes now timeout threshold.toNat).1 →
      Idles r id (.expire now timeout threshold)
  | replied {j number now} : Idles r id (.reply j number now)
  | measured {j roundTrip count now} : Idles r id (.measure j roundTrip count now)

/-- The time of the latest operation that took a client to another phase, its first one included. -/
def lastChange (id : Uuid) : List Operation → Option Time
  | [] => none
  | op :: past =>
    if (after (op :: past)).phase? id = (after past).phase? id then lastChange id past else op.time?

variable {r : Registry} {id : Uuid} {c c' : Client} {op : Operation} {past : List Operation} {fault : RegistryFault}

/-! ## One operation -/

theorem moves_operate (h : r.find? id = some c) (h' : (r.operate op).find? id = some c') :
    Moves op.time? (op.Raises id) c c' := by
  cases revises_operate h h' with
  | other | registered | measured => exact Client.moves_of_standing rfl
  | greeted => exact Client.moves_greetAgain ⟨rfl, rfl⟩ rfl _
  | signalled => exact Client.moves_follow ⟨rfl, rfl⟩ rfl
  | probed => exact Client.moves_probe ..
  | @expired now timeout threshold =>
    have hraised : (Operation.expire now timeout threshold).Raises id .probesMissed := rfl
    exact Client.moves_expireProbe hraised rfl timeout threshold.toNat
  | replied => exact Client.moves_answer ..
  | swept =>
    refine Client.moves_timeOut ?_ rfl _
    change Client.timeoutSignal c.phase = _ ∨ Client.timeoutSignal c.phase = _
    cases c.phase <;> simp [Client.timeoutSignal]

theorem operate_of_fails (h : r.Fails op fault) : r.operate op = r := by
  cases h with
  | signal h | reply h | measure h | forget h =>
    rw [operate, h]
    rfl

theorem standing?_of_idles (h : r.Idles id op) : (r.operate op).standing? id = r.standing? id := by
  cases h with
  | @retried j now hphase =>
    obtain ⟨c, hc, hpairing⟩ := phase?_eq_some_iff.1 hphase
    have hmove : c.phase.next? .pinMismatch = some .pairing := by
      rw [hpairing]
      rfl
    have hsame : r.operate (.signal j .pinMismatch now) = r := by
      rw [operate, signal_eq hc hmove, Client.enter_pairing hpairing]
      exact store_self hc
    rw [hsame]
  | @greetedAgain j name now hphase =>
    obtain ⟨c, hc, hconnecting⟩ := phase?_eq_some_iff.1 hphase
    have hnamed : r.greeted j name now = { c with name } := by
      rw [greeted, hc]
      exact if_pos hconnecting
    have hsame : ({ c with name } : Client).standing = c.standing := rfl
    rw [operate, greet_eq, hnamed]
    exact standing?_store_of_eq hc hsame id
  | failed hfails => rw [operate_of_fails hfails]
  | probed => exact standing?_startProbes ..
  | missed hstays => exact (expireProbes_verdict ..).2 hstays
  | @replied j number now =>
    cases hanswer : r.answer j number now with
    | error fault => rw [operate_of_fails (.reply hanswer)]
    | ok p =>
      rw [operate, hanswer]
      exact standing?_answer hanswer id
  | @measured j roundTrip count now =>
    cases hmeasure : r.measure j roundTrip count now with
    | error fault => rw [operate_of_fails (.measure hmeasure)]
    | ok r' =>
      rw [operate, hmeasure]
      exact standing?_measure hmeasure id

/-- Nobody becomes active but from `connected` and from `pairing`. -/
theorem active_operate (h' : (r.operate op).phase? id = some .active) :
    r.phase? id ∈ [some .connected, some .pairing, some .active] := by
  obtain ⟨c', hc', hactive⟩ := phase?_eq_some_iff.1 h'
  cases hc : r.find? id with
  | none => cases created_operate hc hc' <;> cases hactive
  | some c =>
    have hphase : r.phase? id = some c.phase := phase?_eq_some_iff.2 ⟨c, hc, rfl⟩
    rw [hphase]
    cases moves_operate hc hc' with
    | stays hsame _ =>
      rw [← hsame, hactive]
      decide
    | along _ hmove _ _ =>
      rw [hactive] at hmove
      rcases Phase.before_active hmove with hbefore | hbefore <;> rw [hbefore] <;> decide

/-! ## Every run -/

theorem changedAt_after (h : (after past).find? id = some c) : lastChange id past = some c.changedAt := by
  induction past generalizing c with
  | nil => cases h
  | cons op past ih =>
    have hnew : (after (op :: past)).phase? id = some c.phase := phase?_eq_some_iff.2 ⟨c, h, rfl⟩
    rw [lastChange, hnew]
    cases hold : (after past).find? id with
    | none =>
      have hphase : (after past).phase? id = none := Option.map_eq_none_iff.2 hold
      rw [hphase, if_neg nofun]
      cases created_operate hold h <;> rfl
    | some b =>
      have hphase : (after past).phase? id = some b.phase := phase?_eq_some_iff.2 ⟨b, hold, rfl⟩
      rw [hphase]
      cases moves_operate hold h with
      | stays hsame htime => rw [if_pos (congrArg some hsame), ih hold, htime]
      | along _ _ hother htime => rw [if_neg fun heq => hother (Option.some.inj heq), htime]

/-- After every run there is at most one record for each client, and the time of its last change is that of the
latest operation that made it or took it to another phase. Whatever operation comes next: it makes a record in
`connecting` for a hello and in `disconnected` for a client of the settings, and no other; a client that is known
stays in its phase with its time, or goes to another one by a legal move of a signal that the operation raises, at
the time of the operation, and to `active` from `connected` and `pairing` only; a PIN that does not match, a hello of
a client that is connecting, an error, probes that are sent, missed or answered, and telemetry change neither phase
nor time; an error changes nothing at all; and one client is not touched by what names another. -/
theorem lifecycle_kept (past : List Operation) (op : Operation) (id : Uuid) :
    let r := after past
    let r' := r.operate op
    (r.clients.rows.map Prod.fst).Nodup ∧
    (∀ c, r.find? id = some c → lastChange id past = some c.changedAt) ∧
    (∀ c', r.find? id = none → r'.find? id = some c' → op.Creates id c') ∧
    (∀ c c', r.find? id = some c → r'.find? id = some c' → Moves op.time? (op.Raises id) c c') ∧
    (r'.phase? id = some .active → r.phase? id ∈ [some .connected, some .pairing, some .active]) ∧
    (r.Idles id op → r'.standing? id = r.standing? id) ∧
    (∀ fault, r.Fails op fault → r' = r) ∧
    (∀ j, op.client? = some j → id ≠ j → r'.find? id = r.find? id) :=
  ⟨Table.nodup_keys _, fun _ => changedAt_after, fun _ => created_operate, fun _ _ => moves_operate, active_operate,
    standing?_of_idles, fun _ => operate_of_fails, fun _ => find?_operate_of_ne⟩

/-- A client that has to be paired, and another one that the settings name; the latest operation comes first. -/
def oneAtThePin : List Operation :=
  [.register (.ofNat 2) "other" 8, .signal (.ofNat 1) .pairingRequired 7, .signal (.ofNat 1) .helloAccepted 6,
    .greet (.ofNat 1) "guest" 5]

/-- It is pairing since 7, and neither a wrong PIN nor a hello that is accepted once more moves that time; the right
PIN lets it in, and nobody else. -/
theorem pairing_since_seven : lastChange (.ofNat 1) oneAtThePin = some 7 ∧
    ((after oneAtThePin).operate (.signal (.ofNat 1) .pinMismatch 9)).standing? (.ofNat 1) = some (.pairing, 7) ∧
    (after oneAtThePin).operate (.signal (.ofNat 1) .helloAccepted 9) = after oneAtThePin ∧
    ((after oneAtThePin).operate (.signal (.ofNat 1) .pinVerified 9)).standing? (.ofNat 1) = some (.active, 9) ∧
    ((after oneAtThePin).operate (.signal (.ofNat 1) .pinVerified 9)).standing? (.ofNat 2) =
      some (.disconnected, 8) := by
  have hpairing : (after oneAtThePin).standing? (.ofNat 1) = some (.pairing, 7) := by
    decide +kernel
  have hrefused : (after oneAtThePin).signal (.ofNat 1) .helloAccepted 9 =
      .error (.illegalMove (.ofNat 1) ⟨.pairing, .helloAccepted⟩) := rfl
  obtain ⟨c, hc, hstanding⟩ := Option.map_eq_some_iff.1 hpairing
  obtain ⟨hphase, htime⟩ := Prod.mk.inj hstanding
  obtain ⟨-, hlast, -, -, -, hidle, -⟩ := lifecycle_kept oneAtThePin (.signal (.ofNat 1) .pinMismatch 9) (.ofNat 1)
  obtain ⟨-, -, -, -, -, -, hfails, -⟩ :=
    lifecycle_kept oneAtThePin (.signal (.ofNat 1) .helloAccepted 9) (.ofNat 1)
  obtain ⟨-, -, -, -, -, -, -, hother⟩ := lifecycle_kept oneAtThePin (.signal (.ofNat 1) .pinVerified 9) (.ofNat 2)
  have hretried := hidle (.retried (phase?_eq_some_iff.2 ⟨c, hc, hphase⟩))
  have hsame := hother (.ofNat 1) rfl (by decide)
  refine ⟨(hlast c hc).trans (congrArg some htime), hretried.trans hpairing, hfails _ (.signal hrefused),
    by decide +kernel, ?_⟩
  rw [standing?, hsame]
  decide +kernel

end Registry

end SharedDesk
