import SharedDesk.Proofs.Admission.Guess
import SharedDesk.Proofs.Desk.Run
import SharedDesk.Proofs.Desk.Start
import Mathlib.Control.Monad.Basic
/-!
# What the operator is told

An operation of admission takes a client through phases of which the operator sees only the last. It tells of
that with one notice or, where everybody stays in the phase that they were in, with none (`phase?_notice`). So
whoever reads the notices one after the other knows every client's phase, and the PIN of every session that is
opened (`notices_mirror`).
-/

namespace SharedDesk

namespace Notice

/-- The client that a notice is about. -/
def client : Notice → Uuid
  | activated id | rejected id _ | pairingRequested id _ _ | pairingCompleted id | pairingFailed id _
  | disconnected id => id

/-- The phase that a notice tells of. -/
def phase : Notice → Phase
  | activated _ | pairingCompleted _ => .active
  | pairingRequested .. => .pairing
  | rejected .. | pairingFailed .. | disconnected _ => .disconnected

/-- The phases as a reader knows them who has read one notice more. -/
def mark (phases : Uuid → Option Phase) (n : Notice) : Uuid → Option Phase :=
  fun id => if id = n.client then some n.phase else phases id

/-- The session that a notice shows the PIN of, with its client and the answer that proves the PIN. -/
def announced? : Notice → Option (Uuid × Uuid × String)
  | pairingRequested id session pin => some (session, id, Pin.answerTo session pin.text)
  | _ => none

end Notice

namespace Act

/-- An operation of admission, or the operator reading notices. -/
def isAtDoor : Act → Bool
  | .hello .. | .submit .. | .disconnect .. | .abandon _ | .purge _ | .read => true
  | _ => false

/-- What the operator is told of an act. -/
def notice? (d : Desk) : Act → Option Notice
  | .hello h peer now session pin => (d.admission.hello d.registry h peer now session pin).notice
  | .submit session answer peer now => (d.admission.submit d.registry session answer peer now).notice
  | .disconnect id now => (d.admission.disconnect d.registry id now).notice
  | _ => none

/-- The session that a hello is answered with, as it is stored. -/
def opening? (d : Desk) : Act → Option (Uuid × Session)
  | .hello h peer now session pin =>
    match (d.hello h peer now session pin).1 with
    | .ok (.pairingRequired sid) =>
      ((d.act (.hello h peer now session pin)).admission.sessions.find? sid).map (sid, ·)
    | _ => none
  | _ => none

end Act

namespace Channel

variable {α : Type} {c : Channel α}

theorem offer_of_room (hopen : c.isOpen = true) (hroom : c.items.length < c.capacity) (x : α) :
    c.offer x = { c with items := c.items ++ [x] } := by
  simp [offer, push, hopen, Nat.not_le.2 hroom]

/-- A queue stays open and keeps its size. -/
theorem offer_frame (c : Channel α) (x : α) :
    (c.offer x).isOpen = c.isOpen ∧ (c.offer x).capacity = c.capacity := by
  unfold offer push
  split
  · rename_i h
    split at h
    · cases h
    · split at h
      · cases h
      · cases h
        exact ⟨rfl, rfl⟩
  · exact ⟨rfl, rfl⟩

end Channel

/-! ## One operation -/

namespace Admission

/-- An operation tells of the phase that it leaves a client in, and leaves all others as they were; it shows
the PIN of a session that it opens. -/
structure Outcome.Tells {ε α : Type} (o : Outcome ε α) (r : Registry) (opened : Option (Uuid × Uuid × String)) :
    Prop where
  phases : o.registry.phase? = o.notice.toList.foldl Notice.mark r.phase?
  pin : o.notice.bind Notice.announced? = opened

theorem tells_nothing {ε α : Type} (result : Except ε α) (m : Admission) (r : Registry) :
    Outcome.Tells ⟨result, m, r, none⟩ r none := ⟨rfl, rfl⟩

/-- A record is stored in the phase that a notice about its client tells of. -/
theorem tells_stored {ε α : Type} (n : Notice) {c : Client} (hc : c.phase = n.phase) (result : Except ε α)
    (m : Admission) (r : Registry) :
    Outcome.Tells ⟨result, m, r.store n.client c, some n⟩ r n.announced? := by
  refine ⟨?_, rfl⟩
  funext id
  dsimp only [Option.toList_some, List.foldl_cons, List.foldl_nil, Notice.mark]
  rw [Registry.phase?_store, hc]

/-- A hello shows the PIN of the session that it is answered with, and of no other. -/
theorem tells_hello (m : Admission) (r : Registry) (h : Hello) (peer : Address) (now : Time) (session : Uuid)
    (pin : Pin) :
    let o := m.hello r h peer now session pin
    o.Tells r (match o.result with
      | .ok (.pairingRequired sid) =>
        (o.admission.sessions.find? sid).map fun s => (sid, s.client, s.answer)
      | _ => none) := by
  cases hl : m.lockedOut? peer now with
  | some n =>
    rw [hello_of_locked hl]
    exact tells_nothing ..
  | none =>
    rw [hello_of_free hl]
    have hr := welcome_reception m r h now session pin
    generalize m.welcome r h now session pin = o at hr
    cases hr with
    | @refused fault => exact tells_stored (.rejected h.client fault.message) rfl ..
    | activated => exact tells_stored (.activated h.client) rfl ..
    | invited =>
      dsimp only
      rw [Table.find?_insert, if_pos rfl]
      exact tells_stored (.pairingRequested h.client session pin) rfl ..

theorem tells_submit (m : Admission) (r : Registry) (session : Uuid) (answer : String) (peer : Address)
    (now : Time) : (m.submit r session answer peer now).Tells r none := by
  rcases submit_verdict m r session answer peer now with ⟨n, -, heq⟩ | ⟨-, hv⟩
  · rw [heq]
    exact tells_nothing ..
  · generalize m.submit r session answer peer now = o at hv
    cases hv with
    | unknown | stale | wrong | overflow => exact tells_nothing ..
    | @late s => exact tells_stored (.pairingFailed s.client "pairing session expired") rfl ..
    | @right s => exact tells_stored (.pairingCompleted s.client) rfl ..
    | @last s => exact tells_stored (.pairingFailed s.client "too many incorrect PINs") rfl ..

theorem tells_disconnect (m : Admission) (r : Registry) (id : Uuid) (now : Time) :
    (m.disconnect r id now).Tells r none := by
  have hf := disconnect_farewell m r id now
  generalize m.disconnect r id now = o at hf
  cases hf with
  | unknown | idle => exact tells_nothing ..
  | closed => exact tells_stored (.disconnected id) rfl ..

end Admission

namespace Desk

variable {d : Desk} {a : Act} {past : List Act}

/-- What the operator is told over a past, the earliest first. -/
def emitted (d : Desk) : List Act → List Notice
  | [] => []
  | a :: past => d.emitted past ++ (a.notice? (d.after past)).toList

/-- The sessions that hellos of a past were answered with, the earliest first. -/
def openings (d : Desk) : List Act → List (Uuid × Session)
  | [] => []
  | a :: past => d.openings past ++ (a.opening? (d.after past)).toList

/-- What the operator has read by the end of a past. -/
def readOut (d : Desk) : List Act → List Notice
  | [] => []
  | .read :: past => d.readOut past ++ (d.after past).notices.drain.1
  | _ :: past => d.readOut past

/-- What the operator has read by the end of a past, and what still waits. -/
def told (d : Desk) (past : List Act) : List Notice := d.readOut past ++ (d.after past).notices.items

/-! ## One act -/

theorem phase?_notice (h : a.isAtDoor = true) (d : Desk) :
    (d.act a).registry.phase? = (a.notice? d).toList.foldl Notice.mark d.registry.phase? := by
  cases a with
  | hello => exact (Admission.tells_hello ..).phases
  | submit => exact (Admission.tells_submit ..).phases
  | disconnect => exact (Admission.tells_disconnect ..).phases
  | abandon | purge | read => rfl
  | _ => cases h

theorem announced_opening (h : a.isAtDoor = true) (d : Desk) : (a.notice? d).bind Notice.announced? =
    (a.opening? d).map fun row => (row.1, row.2.client, row.2.answer) := by
  cases a with
  | hello h peer now session pin =>
    refine (Admission.tells_hello ..).pin.trans ?_
    rw [Act.opening?, act, hello, take]
    dsimp only
    split
    · rw [Option.map_map]
      rfl
    · rfl
  | submit => exact (Admission.tells_submit ..).pin
  | disconnect => exact (Admission.tells_disconnect ..).pin
  | abandon | purge | read => rfl
  | _ => cases h

theorem take_notices {ε α : Type} (d : Desk) (o : Admission.Outcome ε α) :
    (d.take o).2.notices = o.notice.toList.foldl Channel.offer d.notices := by
  rw [take]
  cases o.notice <;> rfl

theorem notices_act (h : a.isAtDoor = true) (hread : a ≠ .read) (d : Desk) :
    (d.act a).notices = (a.notice? d).toList.foldl Channel.offer d.notices := by
  cases a with
  | hello => exact take_notices ..
  | submit => exact take_notices ..
  | disconnect => exact take_notices ..
  | abandon | purge => rfl
  | read => exact absurd rfl hread
  | _ => cases h

/-! ## A run of acts -/

theorem queue_after (hnew : d.notices = .ofCapacity noticeCapacity) (hdoor : ∀ a ∈ past, a.isAtDoor = true) :
    (d.after past).notices.isOpen = true ∧ (d.after past).notices.capacity = noticeCapacity := by
  induction past with
  | nil =>
    rw [after, hnew]
    exact ⟨rfl, rfl⟩
  | cons a past ih =>
    obtain ⟨ha, hdoor⟩ := List.forall_mem_cons.1 hdoor
    obtain ⟨hopen, hcapacity⟩ := ih hdoor
    by_cases hread : a = .read
    · subst hread
      exact ⟨hopen, hcapacity⟩
    · rw [after, notices_act ha hread]
      cases a.notice? (d.after past) with
      | none => exact ⟨hopen, hcapacity⟩
      | some n =>
        obtain ⟨hopen', hcapacity'⟩ := (d.after past).notices.offer_frame n
        exact ⟨hopen'.trans hopen, hcapacity'.trans hcapacity⟩

/-- While the queue has room, every notice is either read or waits. -/
theorem told_eq_emitted (hnew : d.notices = .ofCapacity noticeCapacity)
    (hdoor : ∀ a ∈ past, a.isAtDoor = true)
    (hroom : Throughout (fun d _ => d.notices.items.length < noticeCapacity) d past) :
    d.told past = d.emitted past := by
  induction past with
  | nil =>
    rw [told, after, hnew]
    rfl
  | cons a past ih =>
    obtain ⟨ha, hdoor⟩ := List.forall_mem_cons.1 hdoor
    obtain ⟨hopen, hcapacity⟩ := queue_after hnew hdoor
    rw [emitted, ← ih hdoor hroom.2, told, told, after]
    by_cases hread : a = .read
    · -- What has waited is read.
      subst hread
      simp [readOut, act, Act.notice?, Channel.drain]
    · have hreads : d.readOut (a :: past) = d.readOut past := by
        cases a with
        | read => exact absurd rfl hread
        | _ => rfl
      rw [hreads, notices_act ha hread, List.append_assoc]
      cases a.notice? (d.after past) with
      | none => simp
      | some n =>
        dsimp only [Option.toList_some, List.foldl_cons, List.foldl_nil]
        rw [Channel.offer_of_room hopen (by rw [hcapacity]; exact hroom.1)]

theorem emitted_foldl (hdoor : ∀ a ∈ past, a.isAtDoor = true) :
    (d.emitted past).foldl Notice.mark d.registry.phase? = (d.after past).registry.phase? := by
  induction past with
  | nil => rfl
  | cons a past ih =>
    obtain ⟨ha, hdoor⟩ := List.forall_mem_cons.1 hdoor
    rw [emitted, List.foldl_append, ih hdoor, after, phase?_notice ha]

theorem emitted_announced (hdoor : ∀ a ∈ past, a.isAtDoor = true) :
    (d.emitted past).filterMap Notice.announced? =
      (d.openings past).map fun row => (row.1, row.2.client, row.2.answer) := by
  induction past with
  | nil => rfl
  | cons a past ih =>
    obtain ⟨ha, hdoor⟩ := List.forall_mem_cons.1 hdoor
    have hlast : (a.notice? (d.after past)).toList.filterMap Notice.announced? =
        ((a.notice? (d.after past)).bind Notice.announced?).toList := by
      cases a.notice? (d.after past) with
      | none => rfl
      | some n => cases hn : n.announced? <;> simp [hn]
    rw [emitted, openings, List.filterMap_append, ih hdoor, List.map_append, hlast, announced_opening ha]
    cases a.opening? (d.after past) <;> rfl

/-- A session that is pending was opened over the past, or was pending at its beginning. -/
theorem opened_of_pending {session : Uuid} {s : Session}
    (hs : (d.after past).admission.sessions.find? session = some s) :
    (∃ s₀, (session, s₀) ∈ d.openings past ∧ s₀.client = s.client ∧ s₀.answer = s.answer) ∨
      ∃ s₀, d.admission.sessions.find? session = some s₀ ∧ s₀.client = s.client ∧ s₀.answer = s.answer := by
  induction past generalizing s with
  | nil => exact .inr ⟨s, hs, rfl, rfl⟩
  | cons a past ih =>
    have hbefore : ∀ {s₀}, (d.after past).admission.sessions.find? session = some s₀ →
        (∃ s₁, (session, s₁) ∈ d.openings (a :: past) ∧ s₁.client = s₀.client ∧ s₁.answer = s₀.answer) ∨
          ∃ s₁, d.admission.sessions.find? session = some s₁ ∧ s₁.client = s₀.client ∧
            s₁.answer = s₀.answer := by
      intro s₀ hs₀
      refine (ih hs₀).imp_left ?_
      rintro ⟨s₁, hmem, hsame⟩
      exact ⟨s₁, List.mem_append_left _ hmem, hsame⟩
    cases session_act hs with
    | @opened h peer now pin hresult heq =>
      refine .inl ⟨s, List.mem_append_right _ ?_, rfl, rfl⟩
      rw [after] at hs
      rw [Act.opening?, hresult]
      dsimp only
      rw [hs]
      exact List.mem_singleton.2 rfl
    | counted _ hdoor _ _ heq =>
      have hcounted := hbefore hdoor.session
      rw [heq]
      exact hcounted
    | kept hold => exact hbefore hold

/-- Whoever knows what phases there were, and reads every notice over the operations of admission, knows every
client's phase at any time. An operation gives one notice at most, and every session that is opened is
announced, by one notice, with its client and a PIN that its answer proves. -/
theorem notices_mirror (hnew : d.notices = .ofCapacity noticeCapacity)
    (hdoor : ∀ a ∈ past, a.isAtDoor = true)
    (hroom : Throughout (fun d _ => d.notices.items.length < noticeCapacity) d past) :
    (d.told past).foldl Notice.mark d.registry.phase? = (d.after past).registry.phase? ∧
    (∀ a earlier, past = a :: earlier → ∃ n : Option Notice, d.told past = d.told earlier ++ n.toList) ∧
    ((d.told past).filterMap Notice.announced? =
      (d.openings past).map fun row => (row.1, row.2.client, row.2.answer)) ∧
    ∀ session s, (d.after past).admission.sessions.find? session = some s →
      (∃ s₀, (session, s₀) ∈ d.openings past ∧ s₀.client = s.client ∧ s₀.answer = s.answer) ∨
        ∃ s₀, d.admission.sessions.find? session = some s₀ ∧ s₀.client = s.client ∧ s₀.answer = s.answer := by
  refine ⟨?_, ?_, ?_, fun session s => opened_of_pending⟩
  · rw [told_eq_emitted hnew hdoor hroom, emitted_foldl hdoor]
  · rintro a earlier rfl
    refine ⟨a.notice? (d.after earlier), ?_⟩
    rw [told_eq_emitted hnew hdoor hroom,
      told_eq_emitted hnew (List.forall_mem_cons.1 hdoor).2 hroom.2, emitted]
  · rw [told_eq_emitted hnew hdoor hroom, emitted_announced hdoor]

/-- A guest is let in after a wrong answer, the operator reads what there is, and the guest goes; the latest act
comes first. -/
def shortStay : List Act :=
  [.disconnect (.ofNat 1) 5, .read,
    .submit (.ofNat 9) (Pin.answerTo (.ofNat 9) (Pin.text default)) .anyV4 3,
    .submit (.ofNat 9) "" .anyV4 2,
    .hello ⟨.ofNat 1, Hello.spokenVersion, "guest"⟩ .anyV4 1 (.ofNat 9) default]

/-- The notices tell of the guest's stay from its hello to its end. -/
theorem short_stay_told : ∃ d, start {} none 8 0 = .ok d ∧
    (∀ a ∈ shortStay, a.isAtDoor = true) ∧
    Throughout (fun d _ => d.notices.items.length < noticeCapacity) d shortStay ∧
    d.told shortStay = [.pairingRequested (.ofNat 1) (.ofNat 9) default, .pairingCompleted (.ofNat 1),
      .disconnected (.ofNat 1)] ∧
    d.openings shortStay = [(.ofNat 9, ⟨.ofNat 1, Pin.answerTo (.ofNat 9) (Pin.text default), 1, 0⟩)] ∧
    (d.told shortStay).foldl Notice.mark d.registry.phase? = (d.after shortStay).registry.phase? ∧
    (d.after shortStay).registry.phase? (.ofNat 1) = some .disconnected := by
  have hrun : (start {} none 8 0).toOption.map (fun d =>
      decide (d.notices = .ofCapacity noticeCapacity ∧
        (∀ n ∈ [0, 1, 2, 3, 4], (d.after (shortStay.drop (n + 1))).notices.items.length < noticeCapacity) ∧
        d.told shortStay = [.pairingRequested (.ofNat 1) (.ofNat 9) default, .pairingCompleted (.ofNat 1),
          .disconnected (.ofNat 1)] ∧
        d.openings shortStay = [(.ofNat 9, ⟨.ofNat 1, Pin.answerTo (.ofNat 9) (Pin.text default), 1, 0⟩)] ∧
        (d.after shortStay).registry.phase? (.ofNat 1) = some .disconnected)) = some true := by
    decide +kernel
  obtain ⟨d, hd, hrun⟩ := exists_start hrun
  obtain ⟨hnew, hlengths, htold, hopenings, hphase⟩ := of_decide_eq_true hrun
  have hdoor : ∀ a ∈ shortStay, a.isAtDoor = true := by simp [shortStay, Act.isAtDoor]
  have hroom : Throughout (fun d _ => d.notices.items.length < noticeCapacity) d shortStay :=
    ⟨hlengths 0 (by decide), hlengths 1 (by decide), hlengths 2 (by decide), hlengths 3 (by decide),
      hlengths 4 (by decide), trivial⟩
  obtain ⟨hmirror, -⟩ := notices_mirror hnew hdoor hroom
  exact ⟨d, hd, hdoor, hroom, htold, hopenings, hmirror, hphase⟩

end Desk

end SharedDesk
