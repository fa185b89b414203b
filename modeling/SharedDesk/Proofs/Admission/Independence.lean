import SharedDesk.Proofs.Admission.Outcome
import Mathlib.Data.List.Basic
/-!
# Operations on different clients

An operation on a client reads the client's own record, sessions and trust and the lockout of its address, and
it writes nothing else (`run_writes`). A write leaves the rows of all others alone (`same_write_of`), and what
it does depends on nothing that others have written (`same_write`). So operations on different clients from
different addresses may come in either order (`run_either_order`).
-/

namespace SharedDesk

/-- What operations on clients work with. -/
structure Lobby where
  admission : Admission
  registry : Registry
deriving DecidableEq

namespace Lobby

/-- A change of one row, or of the sessions of one client. -/
inductive Write
  | record (id : Uuid) (c : Client)
  | session (sid : Uuid) (s : Session)
  | close (sid : Uuid)
  | drop (id : Uuid)
  | trust (id : Uuid)
  | distrust (id : Uuid)
  | lockOut (peer : Address) (deadline : Time)

/-- An operation on one client; a hello brings what is drawn for it. -/
inductive Op
  | hello (hello : Hello) (peer : Address) (now : Time) (session : Uuid) (pin : Pin)
  | submit (session : Uuid) (answer : String) (peer : Address) (now : Time)
  | disconnect (id : Uuid) (now : Time)
  | forget (id : Uuid)
  | abandon (id : Uuid)

/-- What an operation answers. -/
inductive Reply
  | welcomed (result : Except HandshakeFault Welcome)
  | judged (result : Except PairingFault Uuid)
  | gone (result : Except RegistryFault Unit)
  | forgotten (trusted : Bool)
  | abandoned (sessions : Nat)

/-- The lobby after a write. -/
def write (x : Lobby) : Write → Lobby
  | .record id c => { x with registry := x.registry.store id c }
  | .session sid s =>
    { x with admission := { x.admission with sessions := x.admission.sessions.insert sid s } }
  | .close sid => { x with admission := x.admission.closeSession sid }
  | .drop id => { x with admission := x.admission.dropSessions id }
  | .trust id => { x with admission := x.admission.trust id }
  | .distrust id => { x with admission := { x.admission with trusted := x.admission.trusted.erase id } }
  | .lockOut peer deadline =>
    { x with admission := { x.admission with lockouts := x.admission.lockouts.insert peer deadline } }

/-- The lobby after writes, the first of which comes first. -/
def writeAll (x : Lobby) (ws : List Write) : Lobby := ws.foldl write x

/-- What an operation answers, and the lobby afterwards. -/
def run (x : Lobby) : Op → Reply × Lobby
  | .hello h peer now session pin =>
    let o := x.admission.hello x.registry h peer now session pin
    (.welcomed o.result, ⟨o.admission, o.registry⟩)
  | .submit session answer peer now =>
    let o := x.admission.submit x.registry session answer peer now
    (.judged o.result, ⟨o.admission, o.registry⟩)
  | .disconnect id now =>
    let o := x.admission.disconnect x.registry id now
    (.gone o.result, ⟨o.admission, o.registry⟩)
  | .forget id =>
    let (trusted, admission) := x.admission.forget id
    (.forgotten trusted, { x with admission })
  | .abandon id =>
    let (sessions, admission) := x.admission.abandonPairing id
    (.abandoned sessions, { x with admission })

/-- Two lobbies are the same as far as some clients and some addresses are concerned. -/
structure Same (clients : Uuid → Prop) (peers : Address → Prop) (x y : Lobby) : Prop where
  record : ∀ id, clients id → x.registry.find? id = y.registry.find? id
  session : ∀ sid s, clients s.client →
    (x.admission.sessions.find? sid = some s ↔ y.admission.sessions.find? sid = some s)
  trust : ∀ id, clients id → x.admission.isTrusted id = y.admission.isTrusted id
  lockout : ∀ peer, peers peer → x.admission.lockouts.find? peer = y.admission.lockouts.find? peer
  policy : x.admission.policy = y.admission.policy

/-- If a session has an identifier, it is one of a client. -/
def Owned (x : Lobby) (id sid : Uuid) : Prop :=
  ∀ s, x.admission.sessions.find? sid = some s → s.client = id

/-- A write is about a client or about an address. -/
def Write.Of (x : Lobby) (id : Uuid) (peer : Address) : Write → Prop
  | .record j _ | .drop j | .trust j | .distrust j => j = id
  | .session sid s => s.client = id ∧ x.Owned id sid
  | .close sid => x.Owned id sid
  | .lockOut p _ => p = peer

namespace Op

/-- An operation is on a client, and comes from an address if it comes from anywhere. A hello draws an
identifier that no session has; an answer is given within a session of the client. -/
def Of (x : Lobby) (id : Uuid) (peer : Address) : Op → Prop
  | .hello h p _ session _ => h.client = id ∧ p = peer ∧ x.admission.sessions.find? session = none
  | .submit session _ p _ => p = peer ∧ ∃ s, x.admission.sessions.find? session = some s ∧ s.client = id
  | .disconnect j _ | .forget j | .abandon j => j = id

/-- The identifier that a hello draws. -/
def drawn? : Op → Option Uuid
  | .hello _ _ _ session _ => some session
  | _ => none

end Op

variable {clients clients' : Uuid → Prop} {peers peers' : Address → Prop} {x y z : Lobby} {w : Write}
  {ws : List Write} {id j sid : Uuid} {peer : Address} {op : Op}

/-! ## Lobbies that are the same -/

theorem Same.refl (x : Lobby) : Same clients peers x x :=
  ⟨fun _ _ => rfl, fun _ _ _ => Iff.rfl, fun _ _ => rfl, fun _ _ => rfl, rfl⟩

theorem Same.symm (h : Same clients peers x y) : Same clients peers y x :=
  ⟨fun j hj => (h.record j hj).symm, fun sid s hs => (h.session sid s hs).symm,
    fun j hj => (h.trust j hj).symm, fun p hp => (h.lockout p hp).symm, h.policy.symm⟩

theorem Same.trans (h : Same clients peers x y) (h' : Same clients peers y z) : Same clients peers x z :=
  ⟨fun j hj => (h.record j hj).trans (h'.record j hj),
    fun sid s hs => (h.session sid s hs).trans (h'.session sid s hs),
    fun j hj => (h.trust j hj).trans (h'.trust j hj),
    fun p hp => (h.lockout p hp).trans (h'.lockout p hp), h.policy.trans h'.policy⟩

theorem Same.mono (h : Same clients peers x y) (hclients : ∀ j, clients' j → clients j)
    (hpeers : ∀ p, peers' p → peers p) : Same clients' peers' x y :=
  ⟨fun j hj => h.record j (hclients j hj), fun sid s hs => h.session sid s (hclients _ hs),
    fun j hj => h.trust j (hclients j hj), fun p hp => h.lockout p (hpeers p hp), h.policy⟩

/-- Lobbies that are the same for a client and an address, and for all others, are equal. -/
theorem eq_of_same (h : Same (· = id) (· = peer) x y) (h' : Same (· ≠ id) (· ≠ peer) x y) : x = y := by
  have hregistry : x.registry = y.registry := by
    refine Registry.ext_find? fun j => ?_
    by_cases hj : j = id
    · exact h.record j hj
    · exact h'.record j hj
  have hsessions : x.admission.sessions = y.admission.sessions := by
    refine Table.ext_find? fun sid => Option.ext fun s => ?_
    by_cases hs : s.client = id
    · exact h.session sid s hs
    · exact h'.session sid s hs
  have hlockouts : x.admission.lockouts = y.admission.lockouts := by
    refine Table.ext_find? fun p => ?_
    by_cases hp : p = peer
    · exact h.lockout p hp
    · exact h'.lockout p hp
  have htrusted : x.admission.trusted = y.admission.trusted := by
    refine Table.ext_find? fun j => ?_
    have hsame : x.admission.isTrusted j = y.admission.isTrusted j := by
      by_cases hj : j = id
      · exact h.trust j hj
      · exact h'.trust j hj
    -- All that is stored for a trusted client is that it is trusted.
    rw [Admission.isTrusted, Admission.isTrusted, Table.contains, Table.contains] at hsame
    revert hsame
    cases x.admission.trusted.find? j <;> cases y.admission.trusted.find? j <;> simp
  obtain ⟨⟨policy, sessions, lockouts, trusted⟩, registry⟩ := x
  obtain ⟨⟨policy', sessions', lockouts', trusted'⟩, registry'⟩ := y
  obtain rfl : policy = policy' := h.policy
  obtain rfl : sessions = sessions' := hsessions
  obtain rfl : lockouts = lockouts' := hlockouts
  obtain rfl : trusted = trusted' := htrusted
  obtain rfl : registry = registry' := hregistry
  rfl

/-! ## Writes -/

theorem isTrusted_distrust (m : Admission) (id j : Uuid) :
    ({ m with trusted := m.trusted.erase id } : Admission).isTrusted j = (decide (j ≠ id) && m.isTrusted j) :=
  Admission.isTrusted_forget ..

/-- What a write does for some clients and addresses depends on them alone. -/
theorem same_write (h : Same clients peers x y) (w : Write) :
    Same clients peers (x.write w) (y.write w) := by
  cases w with
  | record id c =>
    refine ⟨fun j hj => ?_, h.session, h.trust, h.lockout, h.policy⟩
    rw [write, write, Registry.find?_store, Registry.find?_store, h.record j hj]
  | session sid s =>
    refine ⟨h.record, fun sid' s' hs' => ?_, h.trust, h.lockout, h.policy⟩
    rw [write, write, Table.find?_insert, Table.find?_insert]
    split
    · rfl
    · exact h.session sid' s' hs'
  | close sid =>
    refine ⟨h.record, fun sid' s' hs' => ?_, h.trust, h.lockout, h.policy⟩
    exact Admission.find?_closeSession_iff.trans
      ((and_congr_right fun _ => h.session sid' s' hs').trans Admission.find?_closeSession_iff.symm)
  | drop id =>
    refine ⟨h.record, fun sid' s' hs' => ?_, h.trust, h.lockout, h.policy⟩
    exact Admission.find?_dropSessions_iff.trans
      ((and_congr_left fun _ => h.session sid' s' hs').trans Admission.find?_dropSessions_iff.symm)
  | trust id =>
    refine ⟨h.record, h.session, fun j hj => ?_, h.lockout, h.policy⟩
    rw [write, write, Admission.isTrusted_trust, Admission.isTrusted_trust, h.trust j hj]
  | distrust id =>
    refine ⟨h.record, h.session, fun j hj => ?_, h.lockout, h.policy⟩
    rw [write, write, isTrusted_distrust, isTrusted_distrust, h.trust j hj]
  | lockOut peer deadline =>
    refine ⟨h.record, h.session, h.trust, fun p hp => ?_, h.policy⟩
    rw [write, write, Table.find?_insert, Table.find?_insert, h.lockout p hp]

/-- A write about a client and an address leaves all others alone. -/
theorem same_write_of (hw : w.Of x id peer) : Same (· ≠ id) (· ≠ peer) (x.write w) x := by
  have hx : Same (· ≠ id) (· ≠ peer) x x := .refl x
  cases w with
  | record j c =>
    obtain rfl := hw
    refine ⟨fun j hj => ?_, hx.session, hx.trust, hx.lockout, rfl⟩
    rw [write, Registry.find?_store, if_neg hj]
  | session sid s =>
    obtain ⟨rfl, howned⟩ := hw
    refine ⟨hx.record, fun sid' s' hs' => ?_, hx.trust, hx.lockout, rfl⟩
    rw [write, Table.find?_insert]
    split
    · rename_i hsid
      -- Neither the new session nor one that it replaces is of another client.
      subst hsid
      refine iff_of_false (fun heq => ?_) fun hfound => hs' (howned s' hfound)
      exact hs' (by rw [Option.some.inj heq])
    · rfl
  | close sid =>
    refine ⟨hx.record, fun sid' s' hs' => ?_, hx.trust, hx.lockout, rfl⟩
    refine Admission.find?_closeSession_iff.trans (and_iff_right_of_imp ?_)
    rintro hfound rfl
    exact hs' (hw s' hfound)
  | drop j =>
    obtain rfl := hw
    exact ⟨hx.record, fun sid' s' hs' => Admission.find?_dropSessions_iff.trans (and_iff_left hs'), hx.trust,
      hx.lockout, rfl⟩
  | trust j =>
    obtain rfl := hw
    refine ⟨hx.record, hx.session, fun j hj => ?_, hx.lockout, rfl⟩
    rw [write, Admission.isTrusted_trust, decide_eq_false hj, Bool.false_or]
  | distrust j =>
    obtain rfl := hw
    refine ⟨hx.record, hx.session, fun j hj => ?_, hx.lockout, rfl⟩
    rw [write, isTrusted_distrust, decide_eq_true hj, Bool.true_and]
  | lockOut p deadline =>
    obtain rfl := hw
    refine ⟨hx.record, hx.session, hx.trust, fun p hp => ?_, rfl⟩
    rw [write, Table.find?_insert, if_neg hp]

theorem Owned.of_same (h : y.Owned id sid) (hsame : Same (· ≠ id) (· ≠ peer) x y) : x.Owned id sid := by
  refine fun s hs => Decidable.byContradiction fun hne => ?_
  exact hne (h s ((hsame.session sid s hne).1 hs))

/-- What a write is about does not change with what else is written about the client and the address. -/
theorem of_same (h : w.Of y id peer) (hsame : Same (· ≠ id) (· ≠ peer) x y) : w.Of x id peer := by
  cases w with
  | session sid s => exact ⟨h.1, h.2.of_same hsame⟩
  | close sid => exact Owned.of_same h hsame
  | record | drop | trust | distrust | lockOut => exact h

theorem same_writeAll (h : Same clients peers x y) (ws : List Write) :
    Same clients peers (x.writeAll ws) (y.writeAll ws) := by
  induction ws generalizing x y with
  | nil => exact h
  | cons w ws ih => exact ih (same_write h w)

theorem same_writeAll_of (hws : ∀ w ∈ ws, w.Of x id peer) :
    Same (· ≠ id) (· ≠ peer) (x.writeAll ws) x := by
  induction ws generalizing x with
  | nil => exact .refl x
  | cons w ws ih =>
    obtain ⟨hw, hws⟩ := List.forall_mem_cons.1 hws
    have hfirst := same_write_of hw
    exact (ih fun w' hw' => of_same (hws w' hw') hfirst).trans hfirst

/-! ## What an operation writes -/

section Operations

variable {h : Hello} {now : Time} {session : Uuid} {pin : Pin} {s : Session} {c : Client} {answer : String}

theorem run_hello_of_locked {n : Nat} (hl : x.admission.lockedOut? peer now = some n) :
    x.run (.hello h peer now session pin) = (.welcomed (.error (.lockedOut peer n)), x.writeAll []) := by
  rw [run, Admission.hello_of_locked hl]
  rfl

theorem run_hello (hl : x.admission.lockedOut? peer now = none) :
    x.run (.hello h peer now session pin) =
      let c := x.registry.greeted h.client (Hello.displayName h.name) now
      match h.check with
      | .error fault => (.welcomed (.error (.refused fault)),
          x.writeAll [.drop h.client, .record h.client (c.enter .disconnected now)])
      | .ok () =>
        if x.admission.isTrusted h.client then (.welcomed (.ok .activated),
          x.writeAll [.drop h.client, .record h.client ((c.enter .connected now).enter .active now)])
        else (.welcomed (.ok (.pairingRequired session)),
          x.writeAll [.drop h.client,
            .session session ⟨h.client, Pin.answerTo session pin.text, now, 0⟩,
            .record h.client ((c.enter .connected now).enter .pairing now)]) := by
  rw [run, Admission.hello_of_free hl, Admission.welcome_eq]
  dsimp only
  cases h.check with
  | error fault => rfl
  | ok =>
    dsimp only
    split <;> rfl

theorem run_submit_of_locked {n : Nat} (hl : x.admission.lockedOut? peer now = some n) :
    x.run (.submit session answer peer now) = (.judged (.error (.lockedOut n)), x.writeAll []) := by
  rw [run, Admission.submit_of_locked hl]
  rfl

theorem run_submit (hl : x.admission.lockedOut? peer now = none)
    (hdoor : Admission.AtDoor x.admission x.registry session s c) :
    x.run (.submit session answer peer now) =
      if x.admission.policy.pinExpiry < Time.elapsed now s.openedAt then (.judged (.error .expired),
        x.writeAll [.close session, .record s.client (c.enter .disconnected now)])
      else if s.answer = answer then (.judged (.ok s.client),
        x.writeAll [.close session, .trust s.client, .record s.client (c.enter .active now)])
      else if s.attempts + 1 < x.admission.policy.maxAttempts then
        (.judged (.error (.wrongPin (x.admission.policy.maxAttempts - (s.attempts + 1)))),
          x.writeAll [.session session { s with attempts := s.attempts + 1 }])
      else match Time.later? now x.admission.policy.lockout with
        | none => (.judged (.error .clockOverflow), x.writeAll [.close session])
        | some deadline => (.judged (.error (.wrongPin 0)),
            x.writeAll [.close session, .lockOut peer deadline,
              .record s.client (c.enter .disconnected now)]) := by
  rw [run, Admission.submit_of_free hl, Admission.judge_eq_of_pairing hdoor,
    Admission.countWrong_eq hdoor.record hdoor.pairing]
  dsimp only
  split
  · rfl
  · split
    · rfl
    · split
      · rfl
      · cases Time.later? now x.admission.policy.lockout <;> rfl

theorem run_submit_of_not_pairing (hl : x.admission.lockedOut? peer now = none)
    (hs : x.admission.sessions.find? session = some s)
    (hp : x.registry.phase? s.client ≠ some .pairing) : x.run (.submit session answer peer now) =
      (.judged (.error .expired), x.writeAll [.close session]) := by
  rw [run, Admission.submit_of_free hl, Admission.judge_eq_of_not_pairing hs hp]
  rfl

theorem run_disconnect (x : Lobby) (id : Uuid) (now : Time) : x.run (.disconnect id now) =
      match x.registry.find? id with
      | none => (.gone (.error (.unknownClient id)), x.writeAll [.drop id])
      | some c =>
        if (Admission.closingSignal? c.phase).isSome then
          (.gone (.ok ()), x.writeAll [.drop id, .record id (c.enter .disconnected now)])
        else (.gone (.ok ()), x.writeAll [.drop id]) := by
  rw [run]
  cases hc : x.registry.find? id with
  | none =>
    rw [Admission.disconnect_eq_of_none hc]
    rfl
  | some c =>
    rw [Admission.disconnect_eq hc]
    dsimp only
    split <;> rfl

theorem run_forget (x : Lobby) (id : Uuid) : x.run (.forget id) =
    (.forgotten (x.admission.isTrusted id), x.writeAll [.drop id, .distrust id]) := rfl

/-- As many sessions are dropped as the client has. -/
theorem run_abandon (x : Lobby) (id : Uuid) : x.run (.abandon id) =
    (.abandoned (x.admission.sessions.filter fun _ s => s.client == id).size, x.writeAll [.drop id]) := by
  have hsplit : x.admission.sessions.size = (x.admission.sessions.filter fun _ s => s.client == id).size +
      (x.admission.dropSessions id).sessions.size :=
    List.length_eq_length_filter_add fun row : Uuid × Session => row.2.client == id
  rw [run, Admission.abandonPairing]
  dsimp only
  rw [hsplit, Nat.add_sub_cancel]
  rfl

end Operations

/-! ## What an operation reads -/

theorem Same.sessions_eq (h : Same (· = id) peers x y) :
    (x.admission.sessions.filter fun _ s => s.client == id) =
      y.admission.sessions.filter fun _ s => s.client == id := by
  refine Table.ext_find? fun sid => Option.ext fun s => ?_
  rw [Table.find?_filter, Table.find?_filter, Option.filter_eq_some_iff, Option.filter_eq_some_iff]
  exact and_congr_left fun hs => h.session sid s (beq_iff_eq.1 hs)

theorem Same.lockedOut?_eq (h : Same clients (· = peer) x y) (now : Time) :
    x.admission.lockedOut? peer now = y.admission.lockedOut? peer now := by
  rw [Admission.lockedOut?, Admission.lockedOut?, h.lockout peer rfl]

theorem Same.greeted_eq (h : Same (· = id) peers x y) (name : String) (now : Time) :
    x.registry.greeted id name now = y.registry.greeted id name now := by
  rw [Registry.greeted, Registry.greeted, h.record id rfl]

/-- In lobbies that are the same for its client and its address an operation answers the same, and writes the
same about them and nothing else. -/
theorem run_writes (hx : op.Of x id peer) (h : Same (· = id) (· = peer) x y) : ∃ reply ws,
    (∀ w ∈ ws, w.Of x id peer) ∧ x.run op = (reply, x.writeAll ws) ∧ y.run op = (reply, y.writeAll ws) := by
  cases op with
  | hello hello p now session pin =>
    obtain ⟨rfl, rfl, hfresh⟩ := hx
    have howned : x.Owned hello.client session := fun s hs => nomatch hfresh.symm.trans hs
    have hlocked := h.lockedOut?_eq now
    cases hl : x.admission.lockedOut? p now with
    | some n => exact ⟨_, _, by simp, run_hello_of_locked hl, run_hello_of_locked (hlocked.symm.trans hl)⟩
    | none =>
      rw [run_hello hl, run_hello (hlocked.symm.trans hl), ← h.greeted_eq, ← h.trust _ rfl]
      dsimp only
      split
      · exact ⟨_, _, by simp [Write.Of], rfl, rfl⟩
      · split
        · exact ⟨_, _, by simp [Write.Of], rfl, rfl⟩
        · exact ⟨_, _, by simp [Write.Of, howned], rfl, rfl⟩
  | submit session answer p now =>
    obtain ⟨rfl, s, hs, rfl⟩ := hx
    have hs' := (h.session session s rfl).1 hs
    have howned : x.Owned s.client session := fun s' hs' => by rw [Option.some.inj (hs'.symm.trans hs)]
    have hlocked := h.lockedOut?_eq now
    cases hl : x.admission.lockedOut? p now with
    | some n => exact ⟨_, _, by simp, run_submit_of_locked hl, run_submit_of_locked (hlocked.symm.trans hl)⟩
    | none =>
      have hl' := hlocked.symm.trans hl
      have hrecord := h.record s.client rfl
      by_cases hp : x.registry.phase? s.client = some .pairing
      · obtain ⟨c, hc, hcp⟩ := Registry.phase?_eq_some_iff.1 hp
        rw [run_submit hl ⟨hs, hc, hcp⟩, run_submit hl' ⟨hs', hrecord.symm.trans hc, hcp⟩, ← h.policy]
        split
        · exact ⟨_, _, by simp [Write.Of, howned], rfl, rfl⟩
        · split
          · exact ⟨_, _, by simp [Write.Of, howned], rfl, rfl⟩
          · split
            · exact ⟨_, _, by simp [Write.Of, howned], rfl, rfl⟩
            · split
              · exact ⟨_, _, by simp [Write.Of, howned], rfl, rfl⟩
              · exact ⟨_, _, by simp [Write.Of, howned], rfl, rfl⟩
      · have hp' : y.registry.phase? s.client ≠ some .pairing := by rwa [Registry.phase?, ← hrecord]
        rw [run_submit_of_not_pairing hl hs hp, run_submit_of_not_pairing hl' hs' hp']
        exact ⟨_, _, by simp [Write.Of, howned], rfl, rfl⟩
  | disconnect j now =>
    obtain rfl : j = id := hx
    rw [run_disconnect, run_disconnect, ← h.record j rfl]
    cases hc : x.registry.find? j with
    | none => exact ⟨_, _, by simp [Write.Of], rfl, rfl⟩
    | some c =>
      dsimp only
      split
      · exact ⟨_, _, by simp [Write.Of], rfl, rfl⟩
      · exact ⟨_, _, by simp [Write.Of], rfl, rfl⟩
  | forget j =>
    obtain rfl : j = id := hx
    rw [run_forget, run_forget, ← h.trust j rfl]
    exact ⟨_, _, by simp [Write.Of], rfl, rfl⟩
  | abandon j =>
    obtain rfl : j = id := hx
    rw [run_abandon, run_abandon, ← h.sessions_eq]
    exact ⟨_, _, by simp [Write.Of], rfl, rfl⟩

/-! ## Two operations -/

/-- An operation leaves all other clients and addresses alone. -/
theorem same_run_of (hop : op.Of x id peer) : Same (· ≠ id) (· ≠ peer) (x.run op).2 x := by
  obtain ⟨reply, ws, hws, hrun, -⟩ := run_writes hop (.refl x)
  rw [hrun]
  exact same_writeAll_of hws

/-- In particular it leaves each other client and each other address alone. -/
theorem same_run_other {q : Address} (hop : op.Of x id peer) (hj : j ≠ id) (hq : q ≠ peer) :
    Same (· = j) (· = q) (x.run op).2 x :=
  (same_run_of hop).mono (fun _ hk => hk ▸ hj) fun _ hr => hr ▸ hq

/-- What an operation does depends on its client and its address alone. -/
theorem same_run (hop : op.Of x id peer) (h : Same clients peers x y) (hid : clients id) (hpeer : peers peer) :
    (x.run op).1 = (y.run op).1 ∧ Same clients peers (x.run op).2 (y.run op).2 := by
  have hown : Same (· = id) (· = peer) x y := h.mono (fun j hj => hj ▸ hid) fun p hp => hp ▸ hpeer
  obtain ⟨reply, ws, -, hx, hy⟩ := run_writes hop hown
  rw [hx, hy]
  exact ⟨rfl, same_writeAll h ws⟩

/-- No session comes to be under an identifier that nobody has drawn. -/
theorem find?_run {s : Session} (hs : (x.run op).2.admission.sessions.find? sid = some s) :
    op.drawn? = some sid ∨ ∃ s₀, x.admission.sessions.find? sid = some s₀ := by
  cases op with
  | hello h p now session pin =>
    cases hl : x.admission.lockedOut? p now with
    | some n =>
      rw [run_hello_of_locked hl] at hs
      exact .inr ⟨s, hs⟩
    | none =>
      rw [run, Admission.hello_of_free hl] at hs
      rcases Admission.find?_welcome hs with ⟨hsid, -, -⟩ | ⟨hold, -⟩
      · exact .inl (congrArg some hsid.symm)
      · exact .inr ⟨s, hold⟩
  | submit session answer p now =>
    refine .inr ?_
    cases hl : x.admission.lockedOut? p now with
    | some n =>
      rw [run_submit_of_locked hl] at hs
      exact ⟨s, hs⟩
    | none =>
      rw [run, Admission.submit_of_free hl] at hs
      rcases Admission.find?_judge hs with ⟨-, hold⟩ | ⟨rfl, s₀, c, hdoor, -⟩
      · exact ⟨s, hold⟩
      · exact ⟨s₀, hdoor.session⟩
  | disconnect j now =>
    rw [run, Admission.disconnect_admission] at hs
    exact .inr ⟨s, (Admission.find?_dropSessions_iff.1 hs).1⟩
  | forget j => exact .inr ⟨s, (Admission.find?_dropSessions_iff.1 hs).1⟩
  | abandon j => exact .inr ⟨s, (Admission.find?_dropSessions_iff.1 hs).1⟩

variable {a b : Op} {p q : Address}

/-- An operation is still one on its client after another one on another client. -/
theorem of_run (ha : a.Of x id p) (hb : b.Of x j q) (hne : id ≠ j)
    (hdrawn : ∀ sid, a.drawn? = some sid → b.drawn? ≠ some sid) : b.Of (x.run a).2 j q := by
  cases b with
  | hello h p' now session pin =>
    obtain ⟨hclient, hpeer, hfresh⟩ := hb
    refine ⟨hclient, hpeer, Option.eq_none_iff_forall_ne_some.2 fun s hs => ?_⟩
    rcases find?_run hs with hsame | ⟨s₀, hs₀⟩
    · exact hdrawn session hsame rfl
    · cases hfresh.symm.trans hs₀
  | submit session answer p' now =>
    obtain ⟨hpeer, s, hs, hclient⟩ := hb
    exact ⟨hpeer, s, ((same_run_of ha).session session s (hclient ▸ hne.symm)).2 hs, hclient⟩
  | disconnect | forget | abandon => exact hb

/-- Two operations on different clients from different addresses answer the same in either order and lead to
the same lobby, and neither touches what the other is about. -/
theorem run_either_order (hne : id ≠ j) (hpq : p ≠ q) (ha : a.Of x id p) (hb : b.Of x j q)
    (hdrawn : ∀ sid, a.drawn? = some sid → b.drawn? ≠ some sid) :
    ((x.run b).2.run a).1 = (x.run a).1 ∧ ((x.run a).2.run b).1 = (x.run b).1 ∧
      ((x.run a).2.run b).2 = ((x.run b).2.run a).2 ∧
      Same (· = j) (· = q) (x.run a).2 x ∧ Same (· = id) (· = p) (x.run b).2 x := by
  have ha' : a.Of (x.run b).2 id p := of_run hb ha hne.symm fun sid hsid hsame => hdrawn sid hsame hsid
  have hb' : b.Of (x.run a).2 j q := of_run ha hb hne hdrawn
  have hfora : Same (· = id) (· = p) (x.run b).2 x := same_run_other hb hne hpq
  have hforb : Same (· = j) (· = q) (x.run a).2 x := same_run_other ha hne.symm hpq.symm
  obtain ⟨hreplya, hafter⟩ := same_run ha' hfora rfl rfl
  obtain ⟨hreplyb, -⟩ := same_run hb' hforb rfl rfl
  -- About its own client and address it is `a` that decides, in either order, and about all others `b`.
  have hown : Same (· = id) (· = p) ((x.run a).2.run b).2 ((x.run b).2.run a).2 :=
    (same_run_other hb' hne hpq).trans hafter.symm
  have hothers : Same (· ≠ id) (· ≠ p) ((x.run a).2.run b).2 ((x.run b).2.run a).2 :=
    (same_run hb' (same_run_of ha) hne.symm hpq.symm).2.trans (same_run_of ha').symm
  exact ⟨hreplya, hreplyb, eq_of_same hown hothers, hforb, hfora⟩

/-- A guest has said hello and was shown a PIN. -/
def oneGuest : Lobby :=
  ((⟨.ofPolicy ⟨3, Duration.ofSeconds 60, Duration.ofSeconds 60⟩, .empty⟩ : Lobby).run
    (.hello ⟨.ofNat 1, Hello.spokenVersion, "guest"⟩ .anyV4 0 (.ofNat 9) default)).2

/-- The guest answers wrong. -/
def wrongAnswer : Op := .submit (.ofNat 9) "" .anyV4 1

/-- Another guest says hello from elsewhere. -/
def otherHello : Op :=
  .hello ⟨.ofNat 2, Hello.spokenVersion, "other"⟩ (.v4 ⟨10, 0, 0, 2⟩) 1 (.ofNat 8) default

/-- The wrong answer and the other guest's hello may come in either order. -/
theorem guests_either_order :
    wrongAnswer.Of oneGuest (.ofNat 1) .anyV4 ∧ otherHello.Of oneGuest (.ofNat 2) (.v4 ⟨10, 0, 0, 2⟩) ∧
    ((oneGuest.run otherHello).2.run wrongAnswer).1 = (oneGuest.run wrongAnswer).1 ∧
    ((oneGuest.run wrongAnswer).2.run otherHello).1 = (oneGuest.run otherHello).1 ∧
    ((oneGuest.run wrongAnswer).2.run otherHello).2 = ((oneGuest.run otherHello).2.run wrongAnswer).2 ∧
    ((oneGuest.run wrongAnswer).2.run otherHello).2.admission.sessions.size = 2 := by
  have hfound : oneGuest.admission.sessions.find? (.ofNat 9) =
      some ⟨.ofNat 1, Pin.answerTo (.ofNat 9) (Pin.text default), 0, 0⟩ := by
    decide +kernel
  have hfresh : oneGuest.admission.sessions.find? (.ofNat 8) = none := by decide +kernel
  have ha : wrongAnswer.Of oneGuest (.ofNat 1) .anyV4 := ⟨rfl, _, hfound, rfl⟩
  have hb : otherHello.Of oneGuest (.ofNat 2) (.v4 ⟨10, 0, 0, 2⟩) := ⟨rfl, rfl, hfresh⟩
  obtain ⟨hreplya, hreplyb, hafter, -, -⟩ := run_either_order (by decide) (by decide) ha hb nofun
  exact ⟨ha, hb, hreplya, hreplyb, hafter, by decide +kernel⟩

end Lobby

end SharedDesk
