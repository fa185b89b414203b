import SharedDesk.Proofs.Registry.Lookup
/-!
# Runs of a registry

An `Operation` is anything that can be done with a registry, with whatever arguments and at whatever times, and
`Registry.after` is the registry after a past of them. Every operation treats every record by itself
(`find?_operate`): it makes one (`created_operate`), or does one of few things to it (`revises_operate`). All that
this can do to phase and probes of a client is a `Turn` (`turn_operate`).
-/

namespace SharedDesk

namespace ProbeTracker

variable {t t' : ProbeTracker} {now : Time}

theorem expire?_eq_some_iff {timeout : Duration} : t.expire? now timeout = some t' ↔
    ∃ p, t.outstanding = some p ∧ timeout ≤ Time.elapsed now p.sentAt ∧
      t' = { t with outstanding := none, misses := addCount t.misses 1 } := by
  unfold expire?
  cases t.outstanding with
  | none => simp
  | some p =>
    by_cases hold : timeout ≤ Time.elapsed now p.sentAt <;> simp [hold, eq_comm]

theorem answer?_eq_some_iff {number : UInt64} {d : Duration} :
    t.answer? number now = some (d, t') ↔ ∃ p, t.outstanding = some p ∧ p.number = number ∧
      d = Time.elapsed now p.sentAt ∧ t' = t.reset := by
  unfold answer? reset
  cases t.outstanding with
  | none => simp
  | some p =>
    by_cases hnumber : p.number = number
    · simp [hnumber, eq_comm]
    · simp [hnumber]

end ProbeTracker

namespace Client

theorem follow_eq_ok_iff {c c' : Client} {s : Signal} {now : Time} : c.follow s now = .ok c' ↔
    ∃ p, c.phase.next? s = some p ∧ c' = c.enter p now := by
  unfold follow Phase.follow
  cases c.phase.next? s <;> simp [eq_comm]

end Client

namespace Registry

/-- Something that is done with a registry. -/
inductive Operation
  | greet (id : Uuid) (name : String) (now : Time)
  | register (id : Uuid) (name : String) (now : Time)
  | signal (id : Uuid) (s : Signal) (now : Time)
  | start (now : Time)
  | expire (now : Time) (timeout : Duration) (threshold : UInt32)
  | reply (id : Uuid) (number : UInt64) (now : Time)
  | measure (id : Uuid) (roundTrip : Option Duration) (count : Nat) (now : Time)
  | sweep (now : Time) (timeouts : SweepTimeouts) (retain : Uuid → Bool)
  | forget (id : Uuid)

/-- The registry after an operation; one that is refused changes nothing. -/
def operate (r : Registry) : Operation → Registry
  | .greet id name now => r.greet id name now
  | .register id name now => (r.register? id name now).getD r
  | .signal id s now => ((r.signal id s now).toOption.map Prod.snd).getD r
  | .start now => (r.startProbes now).2
  | .expire now timeout threshold => (r.expireProbes now timeout threshold.toNat).2
  | .reply id number now => ((r.answer id number now).toOption.map Prod.snd).getD r
  | .measure id roundTrip count now => (r.measure id roundTrip count now).toOption.getD r
  | .sweep now timeouts retain => (r.sweep now timeouts retain).2
  | .forget id => ((r.forget id).toOption.map Prod.snd).getD r

/-- The registry after a past, the latest operation first. -/
def after : List Operation → Registry
  | [] => .empty
  | op :: past => (after past).operate op

namespace Operation

/-- What an operation makes of the record of a client. -/
def touch (id : Uuid) : Operation → Option Client → Option Client
  | greet j name now, c? =>
    if id = j then some ((c?.map fun c => c.greetAgain name now).getD (.new name .connecting now)) else c?
  | register j name now, c? => if id = j then some (c?.getD (.new name .disconnected now)) else c?
  | signal j s now, c? => if id = j then c?.map fun c => (c.follow s now).toOption.getD c else c?
  | start now, c? => c?.map fun c => ((c.probe? now).map Prod.snd).getD c
  | expire now timeout threshold, c? => c?.map fun c => (c.expireProbe now timeout threshold.toNat).1
  | reply j number now, c? =>
    if id = j then c?.map fun c => ((c.answer? number now).map Prod.snd).getD c else c?
  | measure j roundTrip count now, c? => if id = j then c?.map fun c => c.measure roundTrip count now else c?
  | sweep now timeouts retain, c? =>
    (c?.map fun c => (c.timeOut? now timeouts).getD c).filter
      fun c => !(c.isAbsent now timeouts && !retain id)
  | forget j, c? => if id = j then none else c?

/-- The client that an operation names, if it is about one. -/
def client? : Operation → Option Uuid
  | greet id .. | register id .. | signal id .. | reply id .. | measure id .. | forget id => some id
  | start .. | expire .. | sweep .. => none

/-- The record that an operation makes for a client without one. -/
inductive Creates (id : Uuid) : Operation → Client → Prop
  | greeted {name now} : Creates id (.greet id name now) (.new name .connecting now)
  | registered {name now} : Creates id (.register id name now) (.new name .disconnected now)

/-- What an operation makes of the record of a client that had one and still has. -/
inductive Revises (id : Uuid) (c : Client) : Operation → Client → Prop
  | registered {name now} : Revises id c (.register id name now) c
  | greeted {name now} : Revises id c (.greet id name now) (c.greetAgain name now)
  | signalled {s now} : Revises id c (.signal id s now) ((c.follow s now).toOption.getD c)
  | probed {now} : Revises id c (.start now) (((c.probe? now).map Prod.snd).getD c)
  | expired {now timeout threshold} :
      Revises id c (.expire now timeout threshold) (c.expireProbe now timeout threshold.toNat).1
  | replied {number now} :
      Revises id c (.reply id number now) (((c.answer? number now).map Prod.snd).getD c)
  | measured {roundTrip count now} :
      Revises id c (.measure id roundTrip count now) (c.measure roundTrip count now)
  | swept {now timeouts retain} : Revises id c (.sweep now timeouts retain) ((c.timeOut? now timeouts).getD c)
  | other {op j} : op.client? = some j → id ≠ j → Revises id c op c

/-- An operation that an active client may not survive as such. -/
def mayEnd (id : Uuid) : Operation → Bool
  | greet j .. | signal j .. => j = id
  | expire .. => true
  | _ => false

/-- An operation that leaves the probes of an active client as they are. -/
def Passes (id : Uuid) (t : ProbeTracker) : Operation → Prop
  | start now => t.send? now = none
  | expire now timeout _ => t.expire? now timeout = none
  | reply j number now => j = id → t.answer? number now = none
  | _ => True

theorem passes_of_ne {op : Operation} {id j : Uuid} {t : ProbeTracker} (h : op.client? = some j) (hid : id ≠ j) :
    op.Passes id t := by
  cases op with
  | reply i number now =>
    cases h
    exact fun heq => absurd heq.symm hid
  | start now | expire now timeout threshold => cases h
  | _ => trivial

end Operation

/-- How many probes a client may miss in a row, the one that is too many included. -/
def allowance (threshold : UInt32) : Nat := max threshold.toNat 1

/-- What an operation can do to the phase and the probes of a client that was known and still is. -/
inductive Turn (id : Uuid) : Operation → Phase → ProbeTracker → Phase → ProbeTracker → Prop
  /-- A client that is not active stays so, and its probes may be put aside. -/
  | idle {op p p' t t'} : p ≠ .active → p' ≠ .active → t' = t ∨ t' = t.reset → Turn id op p t p' t'
  | activated {op p t} : p ≠ .active → Turn id op p t .active t.reset
  | ended {op p' t} : p' ≠ .active → op.mayEnd id = true → Turn id op .active t p' t.reset
  /-- An active client stays so, and the operation has nothing to do with its probes. -/
  | kept {op t} : op.Passes id t → Turn id op .active t .active t
  | sent {now t} : t.outstanding = none → Turn id (.start now) .active t .active
      { t with next := t.next + 1, outstanding := some ⟨t.next, now⟩ }
  | missed {now timeout threshold t p} : t.outstanding = some p → timeout ≤ Time.elapsed now p.sentAt →
      addCount t.misses 1 < allowance threshold → Turn id (.expire now timeout threshold) .active t .active
      { t with outstanding := none, misses := addCount t.misses 1 }
  | answered {number now t p} : t.outstanding = some p → p.number = number →
      Turn id (.reply id number now) .active t .active { t with outstanding := none, misses := 0 }

variable {r : Registry} {id : Uuid} {c c' : Client} {op : Operation} {past : List Operation} {now : Time}
  {timeouts : SweepTimeouts}

/-! ## Every record by itself -/

/-- The records after one of them was changed, if there is one to change. -/
theorem find?_one {r' : Registry} {j : Uuid} (f : Client → Client) (hnone : r.find? j = none → r' = r)
    (hsome : ∀ c, r.find? j = some c → r' = r.store j (f c)) (id : Uuid) :
    r'.find? id = if id = j then (r.find? id).map f else r.find? id := by
  cases hc : r.find? j with
  | none =>
    rw [hnone hc]
    split
    · rename_i hid
      rw [hid, hc, Option.map_none]
    · rfl
  | some c =>
    rw [hsome c hc, find?_store]
    split
    · rename_i hid
      rw [hid, hc, Option.map_some]
    · rfl

theorem find?_operate (r : Registry) (op : Operation) (id : Uuid) :
    (r.operate op).find? id = op.touch id (r.find? id) := by
  cases op with
  | greet j name now =>
    rw [operate, greet_eq, find?_store, Operation.touch, greeted]
    split
    · rename_i hid
      rw [hid]
      cases r.find? j <;> rfl
    · rfl
  | register j name now =>
    rw [operate, register?, Operation.touch]
    by_cases hknown : r.contains j = true
    · rw [if_pos hknown]
      split
      · rename_i hid
        obtain ⟨c, hc⟩ := contains_iff.1 hknown
        rw [hid, Option.getD_none, hc, Option.getD_some]
      · rfl
    · rw [if_neg hknown, Option.getD_some, find?_store]
      split
      · rename_i hid
        have hnone : r.find? j = none := Option.not_isSome_iff_eq_none.1 hknown
        rw [hid, hnone, Option.getD_none]
      · rfl
  | signal j s now =>
    refine find?_one _ (fun hnone => ?_) (fun c hc => ?_) id
    · simp only [operate, signal, hnone]
      rfl
    · simp only [operate, signal, hc]
      cases c.follow s now with
      | ok c' => rfl
      | error move => exact (store_self hc).symm
  | start now => exact find?_startProbes ..
  | expire now timeout threshold => exact find?_expireProbes ..
  | reply j number now =>
    refine find?_one _ (fun hnone => ?_) (fun c hc => ?_) id
    · simp only [operate, answer, hnone]
      rfl
    · simp only [operate, answer, hc]
      cases c.answer? number now with
      | some p => rfl
      | none => exact (store_self hc).symm
  | measure j roundTrip count now =>
    refine find?_one _ (fun hnone => ?_) (fun c hc => ?_) id
    · rw [operate, measure, hnone]
      rfl
    · rw [operate, measure, hc]
      rfl
  | sweep now timeouts retain => exact find?_sweep ..
  | forget j =>
    rw [operate, forget, Operation.touch]
    cases hc : r.find? j with
    | none =>
      change r.find? id = _
      split
      · rename_i hid
        rw [hid, hc]
      · rfl
    | some c => exact find?_erase r j id

theorem find?_operate_of_ne {j : Uuid} (h : op.client? = some j) (hid : id ≠ j) :
    (r.operate op).find? id = r.find? id := by
  rw [find?_operate]
  cases op with
  | greet i name now | register i name now | signal i s now | reply i number now
  | measure i roundTrip count now | forget i =>
    cases h
    exact if_neg hid
  | start now | expire now timeout threshold | sweep now timeouts retain => cases h

theorem created_operate (h : r.find? id = none) (h' : (r.operate op).find? id = some c') : op.Creates id c' := by
  rw [find?_operate, h] at h'
  cases op with
  | greet j name now =>
    rw [Operation.touch] at h'
    split at h'
    · rename_i hid
      subst hid
      cases h'
      exact .greeted
    · cases h'
  | register j name now =>
    rw [Operation.touch] at h'
    split at h'
    · rename_i hid
      subst hid
      cases h'
      exact .registered
    · cases h'
  | signal j s now | reply j number now | measure j roundTrip count now | forget j =>
    rw [Operation.touch] at h'
    split at h' <;> cases h'
  | start now | expire now timeout threshold | sweep now timeouts retain => cases h'

theorem revises_operate (h : r.find? id = some c) (h' : (r.operate op).find? id = some c') :
    op.Revises id c c' := by
  have hother : ∀ j, op.client? = some j → id ≠ j → op.Revises id c c' := by
    intro j hnamed hid
    rw [find?_operate_of_ne hnamed hid, h] at h'
    cases h'
    exact .other hnamed hid
  rw [find?_operate, h] at h'
  cases op with
  | start now | expire now timeout threshold =>
    cases h'
    constructor
  | sweep now timeouts retain =>
    rw [Operation.touch, Option.map_some] at h'
    obtain ⟨h', -⟩ := Option.filter_eq_some_iff.1 h'
    cases h'
    exact .swept
  | greet j name now | register j name now | signal j s now | reply j number now
  | measure j roundTrip count now =>
    by_cases hid : id = j
    · subst hid
      rw [Operation.touch, if_pos rfl] at h'
      cases h'
      constructor
    · exact hother j rfl hid
  | forget j =>
    by_cases hid : id = j
    · rw [Operation.touch, if_pos hid] at h'
      cases h'
    · exact hother j rfl hid

/-! ## What an operation can do -/

theorem turn_same {p : Phase} {t : ProbeTracker} (h : p = .active → op.Passes id t) :
    Turn id op p t p t := by
  by_cases hp : p = .active
  · subst hp
    exact .kept (h rfl)
  · exact .idle hp hp (.inl rfl)

/-- An active client leaves the phase by every legal move, and one that is not gets fresh probes with it. -/
theorem turn_enter {s : Signal} {p : Phase} (hp : c.phase.next? s = some p)
    (hends : c.phase = .active → op.mayEnd id = true) (now : Time) :
    Turn id op c.phase c.probes (c.enter p now).phase (c.enter p now).probes := by
  have hprobes : (c.enter p now).probes = if Client.endsProbes c.phase p then c.probes.reset else c.probes := rfl
  rw [Client.enter_phase, hprobes]
  by_cases hactive : c.phase = .active
  · -- Only `connecting` and `disconnected` can be reached.
    obtain ⟨hleft, hreset⟩ : p ≠ .active ∧ Client.endsProbes .active p = true := by
      rw [hactive] at hp
      cases s <;> cases hp <;> exact ⟨nofun, rfl⟩
    rw [hactive, if_pos hreset]
    exact .ended hleft (hends hactive)
  · by_cases hp : p = .active
    · have hreset : Client.endsProbes c.phase .active = true := by
        simp [Client.endsProbes, hactive]
      rw [hp, if_pos hreset]
      exact .activated hactive
    · refine .idle hactive hp ?_
      split
      · exact .inr rfl
      · exact .inl rfl

theorem turn_greetAgain (c : Client) (name : String) (now : Time) :
    Turn id (.greet id name now) c.phase c.probes (c.greetAgain name now).phase
      (c.greetAgain name now).probes := by
  unfold Client.greetAgain
  split
  · exact turn_same fun _ => trivial
  · have hmove : ({ c with name } : Client).phase.next? .reconnect = some .connecting := by
      cases c.phase <;> rfl
    have hends : (Operation.greet id name now).mayEnd id = true := decide_eq_true rfl
    exact turn_enter hmove (fun _ => hends) now

theorem turn_probe (c : Client) (now : Time) :
    Turn id (.start now) c.phase c.probes (((c.probe? now).map Prod.snd).getD c).phase
      (((c.probe? now).map Prod.snd).getD c).probes := by
  unfold Client.probe?
  split
  · rename_i hactive
    rw [hactive]
    cases hout : c.probes.outstanding with
    | none =>
      simp only [ProbeTracker.send?, hout, Option.map_some, Option.getD_some]
      exact .sent hout
    | some p =>
      simp only [ProbeTracker.send?, hout, Option.map_none, Option.getD_none, hactive]
      exact .kept (by rw [Operation.Passes, ProbeTracker.send?, hout])
  · rename_i hidle
    exact turn_same fun hactive => absurd hactive hidle

theorem turn_expireProbe (c : Client) (now : Time) (timeout : Duration) (threshold : UInt32) :
    Turn id (.expire now timeout threshold) c.phase c.probes
      (c.expireProbe now timeout threshold.toNat).1.phase
      (c.expireProbe now timeout threshold.toNat).1.probes := by
  unfold Client.expireProbe
  split
  · rename_i hactive
    cases hexpire : c.probes.expire? now timeout with
    | none =>
      rw [hactive]
      exact .kept hexpire
    | some probes =>
      obtain ⟨p, hout, hold, rfl⟩ := ProbeTracker.expire?_eq_some_iff.1 hexpire
      dsimp only
      split
      · rw [hactive]
        exact .ended nofun rfl
      · rename_i hfew
        rw [hactive]
        exact .missed hout hold (Nat.not_le.1 hfew)
  · rename_i hidle
    exact turn_same fun hactive => absurd hactive hidle

theorem turn_answer (c : Client) (number : UInt64) (now : Time) :
    Turn id (.reply id number now) c.phase c.probes (((c.answer? number now).map Prod.snd).getD c).phase
      (((c.answer? number now).map Prod.snd).getD c).probes := by
  unfold Client.answer?
  cases hanswer : c.probes.answer? number now with
  | none => exact turn_same fun _ _ => hanswer
  | some q =>
    obtain ⟨p, hout, hnumber, -, hprobes⟩ := ProbeTracker.answer?_eq_some_iff.1 hanswer
    change Turn id _ c.phase c.probes c.phase q.2
    rw [hprobes]
    by_cases hactive : c.phase = .active
    · rw [hactive]
      exact .answered hout hnumber
    · exact .idle hactive hactive (.inr rfl)

theorem turn_operate (h : r.find? id = some c) (h' : (r.operate op).find? id = some c') :
    Turn id op c.phase c.probes c'.phase c'.probes := by
  cases revises_operate h h' with
  | other hnamed hid => exact turn_same fun _ => Operation.passes_of_ne hnamed hid
  | registered | measured => exact turn_same fun _ => trivial
  | greeted => exact turn_greetAgain ..
  | @signalled s now =>
    cases hfollow : c.follow s now with
    | error move => exact turn_same fun _ => trivial
    | ok c' =>
      obtain ⟨p, hp, rfl⟩ := Client.follow_eq_ok_iff.1 hfollow
      have hends : (Operation.signal id s now).mayEnd id = true := decide_eq_true rfl
      exact turn_enter hp (fun _ => hends) now
  | probed => exact turn_probe ..
  | expired => exact turn_expireProbe ..
  | replied => exact turn_answer ..
  | @swept now timeouts retain =>
    rw [Client.timeOut?_eq]
    split
    · rename_i hout
      exact turn_enter hout.next? (fun hactive => absurd hactive hout.phase_ne.2) now
    · exact turn_same fun _ => trivial

/-- A client that was not known before is not active and was sent no probe. -/
theorem fresh_of_operate (h : r.find? id = none) (h' : (r.operate op).find? id = some c') :
    c'.phase ≠ .active ∧ c'.probes = .fresh := by
  cases created_operate h h' <;> exact ⟨nofun, rfl⟩

end Registry

end SharedDesk
