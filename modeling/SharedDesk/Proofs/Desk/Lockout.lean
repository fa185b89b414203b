import SharedDesk.Proofs.Admission.Guess
import SharedDesk.Proofs.Desk.Run
/-!
# Lockouts over a run

Acts that take place one after the other are told apart by their times (`Timely`). `lockouts_act` says
what one act does to the lockouts, and `locked_iff` what a run does: an address is locked out exactly as
long as an answer of its own that used up a session is less than a lockout ago.
-/

namespace SharedDesk

namespace Act

/-- When an act takes place, if it asks the clock. -/
def time? : Act → Option Time
  | .hello _ _ now _ _ | .submit _ _ _ now | .disconnect _ now | .purge now | .sweep _ _ now
  | .maintain now | .probe _ now | .reply _ _ now | .point _ _ now | .focus now => some now
  | .forget _ | .abandon _ | .arrange _ | .stage _ | .share _ | .flush | .collect | .read
  | .transmit | .disk _ => none

/-- The lockout that the last attempt of a session leads to ends within what the clock can show, wherever
the clock's counter stood when it started. -/
def Datable (d : Desk) : Act → Prop
  | .submit session answer peer now => d.admission.UsesUp d.registry session answer peer now →
      (Time.later? now d.admission.policy.lockout).isSome = true
  | _ => True

/-- An answer that came from an address at a time is told that no attempts are left. -/
def LocksOut (d : Desk) (peer : Address) (t : Time) : Act → Prop
  | .submit session answer p now =>
    p = peer ∧ now = t ∧ (d.submit session answer p now).1 = .error (.wrongPin 0)
  | _ => False

end Act

/-- The acts of the past took place one after the other, and none after `now`. -/
def Timely (now : Time) (past : List Act) : Prop :=
  (now :: past.filterMap Act.time?).Pairwise fun later earlier => earlier ≤ later

namespace Timely

variable {now t : Time} {a : Act} {past : List Act}

theorem tail (h : Timely now (a :: past)) : Timely now past :=
  h.sublist (((List.sublist_cons_self a past).filterMap _).cons_cons now)

theorem head (h : Timely now (a :: past)) (ht : a.time? = some t) : t ≤ now ∧ Timely t past := by
  unfold Timely at h
  rw [List.filterMap_cons_some ht] at h
  obtain ⟨hnow, hpast⟩ := List.pairwise_cons.1 h
  exact ⟨hnow t List.mem_cons_self, hpast⟩

end Timely

namespace Desk

variable {d : Desk} {a : Act} {past : List Act} {peer : Address} {now t : Time}

/-- Some time in the past an answer of an address used up a session, at `t`. -/
def LockedOutAt (d : Desk) (peer : Address) (t : Time) (past : List Act) : Prop :=
  Since (fun a past => a.LocksOut (d.after past) peer t) (fun _ _ => True) past

theorem lockedOutAt_cons : d.LockedOutAt peer t (a :: past) ↔
    a.LocksOut (d.after past) peer t ∨ d.LockedOutAt peer t past := by
  constructor
  · intro h
    cases h with
    | here h => exact .inl h
    | there _ h => exact .inr h
  · rintro (h | h)
    · exact .here h
    · exact .there trivial h

theorem LockedOutAt.le (h : d.LockedOutAt peer t past) (ht : Timely now past) : t ≤ now := by
  induction h with
  | @here a past hlocks =>
    cases a with
    | submit session answer p u =>
      obtain ⟨-, rfl, -⟩ := hlocks
      exact (ht.head rfl).1
    | _ => cases hlocks
  | there _ _ ih => exact ih ht.tail

/-! ## One act -/

/-- How the lockouts came to be what they are after an act. -/
inductive LockoutsFrom (d : Desk) : Act → Table Address Time → Prop
  | inserted {session : Uuid} {answer : String} {peer : Address} {now : Time} :
      (d.submit session answer peer now).1 = .error (.wrongPin 0) →
      LockoutsFrom d (.submit session answer peer now)
        (d.admission.lockouts.insert peer (now + d.admission.policy.lockout))
  | lapsed {a : Act} {now : Time} : a.time? = some now → (∀ peer t, ¬ a.LocksOut d peer t) →
      LockoutsFrom d a (d.admission.lockouts.filter fun _ deadline => now < deadline)
  | kept {a : Act} : (∀ peer t, ¬ a.LocksOut d peer t) → LockoutsFrom d a d.admission.lockouts

theorem lockouts_submit (d : Desk) (session : Uuid) (answer : String) (peer : Address) (now : Time) :
    LockoutsFrom d (.submit session answer peer now)
      (d.act (.submit session answer peer now)).admission.lockouts := by
  have hkept : (d.submit session answer peer now).1 ≠ .error (.wrongPin 0) →
      LockoutsFrom d (.submit session answer peer now) d.admission.lockouts := fun h =>
    .kept fun _ _ hlocks => h hlocks.2.2
  have hresult : (d.submit session answer peer now).1 =
      (d.admission.submit d.registry session answer peer now).result := rfl
  have hafter : (d.act (.submit session answer peer now)).admission =
      (d.admission.submit d.registry session answer peer now).admission := rfl
  rw [hafter]
  rcases Admission.submit_verdict d.admission d.registry session answer peer now with
    ⟨n, -, heq⟩ | ⟨-, hv⟩
  · rw [heq] at hresult ⊢
    exact hkept (by rw [hresult]; nofun)
  · generalize d.admission.submit d.registry session answer peer now = o at hresult hv
    cases hv with
    | last _ _ _ _ hd =>
      rw [Time.eq_of_later? hd]
      exact .inserted hresult
    | wrong _ _ _ hleft =>
      refine hkept ?_
      rw [hresult]
      intro hzero
      have hnone := PairingFault.wrongPin.inj (Except.error.inj hzero)
      omega
    | unknown | stale | late | right | overflow => exact hkept (by rw [hresult]; nofun)

theorem lockouts_act (d : Desk) (a : Act) : LockoutsFrom d a (d.act a).admission.lockouts := by
  cases a with
  | submit session answer peer now => exact lockouts_submit ..
  | hello h peer now session pin =>
    have hkept : (d.act (.hello h peer now session pin)).admission.lockouts = d.admission.lockouts := by
      rcases act_hello d h peer now session pin with heq | ⟨-, heq⟩ <;> rw [heq]
      exact Admission.lockouts_welcome ..
    rw [hkept]
    exact .kept fun _ _ => id
  | disconnect j now =>
    rw [act, disconnect, take, Admission.disconnect_admission]
    exact .kept fun _ _ => id
  | forget text =>
    have hkept : (d.act (.forget text)).admission.lockouts = d.admission.lockouts := by
      rw [act]
      cases h : readClientId text with
      | error bad => rw [forgetClient_of_error h]
      | ok id => rw [forgetClient_admission h]; rfl
    rw [hkept]
    exact .kept fun _ _ => id
  | purge now => exact .lapsed rfl fun _ _ => id
  | maintain now =>
    have hlapsed := (Admission.abandonAll_spec (d.maintain now).1.timedOut
      (d.admission.purge now).2).2.2.1
    rw [show (d.act (.maintain now)).admission.lockouts = _ from hlapsed]
    exact .lapsed rfl fun _ _ => id
  | abandon j => exact .kept fun _ _ => id
  | _ =>
    rw [admission_of_other rfl]
    exact .kept fun _ _ => id

/-! ## A whole run -/

/-- An address is locked out exactly as long as an answer of its own that used up a session is less than
a lockout ago. -/
theorem locked_iff (hstart : d.admission.lockouts = .empty) (ht : Timely now past) (peer : Address) :
    (∃ deadline, (d.after past).admission.lockouts.find? peer = some deadline ∧ now < deadline) ↔
      ∃ t, d.LockedOutAt peer t past ∧ now < t + d.admission.policy.lockout := by
  induction past with
  | nil =>
    constructor
    · rintro ⟨deadline, hfound, -⟩
      rw [after, hstart, Table.find?_empty] at hfound
      cases hfound
    · rintro ⟨t, hlocked, -⟩
      cases hlocked
  | cons a past ih =>
    have hbefore := ih ht.tail
    have hact := lockouts_act (d.after past) a
    rw [show (d.after past).act a = d.after (a :: past) from rfl] at hact
    generalize (d.after (a :: past)).admission.lockouts = lockouts at hact
    -- Unless the act locks somebody out, the past is what it was.
    have hsame : (∀ peer t, ¬ a.LocksOut (d.after past) peer t) →
        ((∃ t, d.LockedOutAt peer t (a :: past) ∧ now < t + d.admission.policy.lockout) ↔
          ∃ t, d.LockedOutAt peer t past ∧ now < t + d.admission.policy.lockout) := by
      intro hnone
      refine exists_congr fun t => and_congr_left' ?_
      rw [lockedOutAt_cons]
      exact or_iff_right (hnone peer t)
    cases hact with
    | kept hnone => rw [hsame hnone, hbefore]
    | @lapsed now' _ hat hnone =>
      rw [hsame hnone, ← hbefore]
      refine exists_congr fun deadline => ?_
      rw [Table.find?_filter, Option.filter_eq_some_iff, decide_eq_true_iff, and_assoc]
      have hle := (ht.head hat).1
      constructor
      · rintro ⟨hfound, -, hlt⟩
        exact ⟨hfound, hlt⟩
      · rintro ⟨hfound, hlt⟩
        exact ⟨hfound, Nat.lt_of_le_of_lt hle hlt, hlt⟩
    | @inserted session answer p now' hzero =>
      obtain ⟨-, hpast⟩ := ht.head (a := .submit session answer p now') rfl
      simp only [lockedOutAt_cons, Table.find?_insert, policy_after]
      by_cases hp : peer = p
      · subst hp
        -- Of all lockouts of the address the new one ends last.
        simp only [if_true, Option.some.injEq, exists_eq_left']
        constructor
        · intro hlt
          exact ⟨now', .inl ⟨rfl, rfl, hzero⟩, hlt⟩
        · rintro ⟨t, ⟨-, rfl, -⟩ | hearlier, hlt⟩
          · exact hlt
          · exact Nat.lt_of_lt_of_le hlt (Nat.add_le_add_right (hearlier.le hpast) _)
      · simp only [if_neg hp]
        rw [hbefore]
        refine exists_congr fun t => and_congr_left' ?_
        constructor
        · exact .inr
        · rintro (⟨heq, -⟩ | hearlier)
          · exact absurd heq.symm hp
          · exact hearlier

/-! ## Who is heard -/

/-- Nobody at an address is heard: hellos and answers are told so and change nothing. -/
def Shuts (d : Desk) (peer : Address) (now : Time) : Prop :=
  ∃ n, (∀ h session pin, d.hello h peer now session pin = (.error (.lockedOut peer n), d)) ∧
    ∀ session answer, d.submit session answer peer now = (.error (.lockedOut n), d)

/-- No hello and no answer from an address is told of a lockout. -/
def Hears (d : Desk) (peer : Address) (now : Time) : Prop :=
  (∀ h session pin address n, (d.hello h peer now session pin).1 ≠ .error (.lockedOut address n)) ∧
    ∀ session answer n, (d.submit session answer peer now).1 ≠ .error (.lockedOut n)

theorem shuts_of_locked {n : Nat} (hl : d.admission.lockedOut? peer now = some n) :
    d.Shuts peer now :=
  ⟨n, hello_of_locked hl, submit_of_locked hl⟩

theorem hears_of_free (hl : d.admission.lockedOut? peer now = none) : d.Hears peer now := by
  constructor
  · intro h session pin address n
    rw [hello_of_free hl]
    exact Admission.welcome_ne_lockedOut _ _ h now session pin address n
  · intro session answer n
    rw [submit_of_free hl]
    have hv := Admission.judge_verdict d.admission d.registry session answer peer now
    generalize d.admission.judge d.registry session answer peer now = o at hv
    cases hv <;> nofun

/-- An address is shut out for the length of a lockout after each answer of its own that used up a
session, and is heard at all other times. -/
theorem shuts_and_hears (hstart : d.admission.lockouts = .empty) (ht : Timely now past) (peer : Address) :
    ((∃ t, d.LockedOutAt peer t past ∧ now < t + d.admission.policy.lockout) →
      (d.after past).Shuts peer now) ∧
    ((¬ ∃ t, d.LockedOutAt peer t past ∧ now < t + d.admission.policy.lockout) →
      (d.after past).Hears peer now) := by
  rw [← locked_iff hstart ht]
  constructor
  · intro hlocked
    cases hl : (d.after past).admission.lockedOut? peer now with
    | some n => exact shuts_of_locked hl
    | none => exact absurd hlocked (Admission.lockedOut?_eq_none_iff.1 hl)
  · intro hfree
    exact hears_of_free (Admission.lockedOut?_eq_none_iff.2 hfree)

end Desk

end SharedDesk
