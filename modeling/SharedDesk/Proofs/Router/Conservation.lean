import SharedDesk.Proofs.Router.Routing
import SharedDesk.Proofs.Telemetry.RateWindow
/-!
# No routed event is lost

Every event that goes to a client is counted in one bucket, whatever its time. So what a router has to report for
a client (`tally`) goes up by one with each event that goes to the client, is gone once the counts have left the
router, and stays as it is otherwise (`tally_operate`). Over every run, the counts that are taken out are the
events that went to each client since its counts last left the router (`counts_conserved`).
-/

namespace SharedDesk.Router

/-- Something that is done with a router. Every event comes with a layout and a registry of its own. -/
inductive Operation
  | share (on : Bool)
  | point (layout : Layout) (registry : Registry) (x y : Int) (now : Time)
  | focus (registry : Registry) (now : Time)
  | forget (id : Uuid)
  | collect
  | flush (registry : Registry)

/-- The router after an operation. -/
def operate (r : Router) : Operation → Router
  | .share on => r.setSharing on
  | .point layout registry x y now => (r.routePointer layout registry x y now).2
  | .focus registry now => (r.routeFocused registry now).2
  | .forget id => r.forget id
  | .collect => r.takeCounts.2
  | .flush registry => (r.flush registry).1

/-- The router after a past, the latest operation first. -/
def after : List Operation → Router
  | [] => .idle
  | op :: past => (after past).operate op

/-- Whom an operation sends an event to, if it is about one. -/
def goesTo? (r : Router) : Operation → Option Target
  | .point layout registry x y now => some (r.routePointer layout registry x y now).1
  | .focus registry now => some (r.routeFocused registry now).1
  | _ => none

/-- With this operation the counts of a client leave the router. -/
def Operation.clears (id : Uuid) : Operation → Bool
  | forget j => id = j
  | collect | flush _ => true
  | _ => false

/-- How many events have gone to a client since its counts last left the router. -/
def unreported (id : Uuid) : List Operation → Nat
  | [] => 0
  | op :: past =>
    if op.clears id then 0
    else if (after past).goesTo? op = some (.client id) then unreported id past + 1
    else unreported id past

/-- What is reported for a client when the counts are taken out, if anything is. -/
def tally (r : Router) (id : Uuid) : Option Nat := (r.pending.find? id).map total

variable {r : Router} {id : Uuid} {n : Nat}

/-! ## One operation -/

theorem mem_takeCounts_iff : (id, n) ∈ r.takeCounts.1 ↔ r.tally id = some n := by
  have hrows : r.takeCounts.1 = (r.pending.map fun _ => total).rows := rfl
  rw [hrows, ← Table.find?_eq_some_iff, Table.find?_map, tally]

theorem ascending_takeCounts (r : Router) : Ascending r.takeCounts.1 :=
  (r.pending.map fun _ => total).ascending

theorem tally_sent (r : Router) (target : Target) (now : Time) (id : Uuid) :
    (r.sent target now).tally id =
      if target = .client id then some (addCount ((r.tally id).getD 0) 1) else r.tally id := by
  cases target with
  | master => rfl
  | client j =>
    unfold tally sent count
    dsimp only
    rw [Table.find?_insert]
    by_cases hid : id = j
    · subst hid
      -- A client without a row is one whose buckets are empty.
      have htotal : total ((r.pending.find? id).getD []) = ((r.pending.find? id).map total).getD 0 := by
        cases r.pending.find? id <;> rfl
      simp [total_countInto, htotal]
    · simp [hid, Ne.symm hid]

theorem tally_forget (r : Router) (j id : Uuid) :
    (r.forget j).tally id = if id = j then none else r.tally id := by
  unfold tally forget
  rw [Table.find?_erase]
  split <;> rfl

/-- An event adds one to what is reported for the client that it goes to, and nothing else adds to it. -/
theorem tally_operate (r : Router) (op : Operation) (id : Uuid) :
    (r.operate op).tally id =
      if op.clears id then none
      else if r.goesTo? op = some (.client id) then some (addCount ((r.tally id).getD 0) 1)
      else r.tally id := by
  cases op with
  | point | focus =>
    simp only [Operation.clears, goesTo?, Option.some.injEq]
    exact tally_sent ..
  | forget j =>
    simp only [Operation.clears, goesTo?, decide_eq_true_iff]
    exact tally_forget ..
  | share | collect | flush => rfl

/-! ## A run -/

theorem tally_after (past : List Operation) (id : Uuid) :
    (after past).tally id =
      if unreported id past = 0 then none else some (min (unreported id past) countCeiling) := by
  induction past with
  | nil => rfl
  | cons op past ih =>
    have hbefore : ((after past).tally id).getD 0 = min (unreported id past) countCeiling := by
      rw [ih]
      split
      · rename_i hnone
        rw [hnone, Option.getD_none, Nat.zero_min]
      · rfl
    rw [after, tally_operate, unreported]
    split
    · rfl
    · split
      · rw [hbefore, addCount_min, if_neg (Nat.succ_ne_zero _)]
      · exact ih

/-- After every run of a router, whatever the times of the events are and in whatever order they come, the counts
that are taken out name, in ascending order, exactly the clients that got events since their counts last left the
router, each with the number of these events, up to the ceiling; and nothing is left to be reported. -/
theorem counts_conserved (past : List Operation) :
    let r := after past
    (∀ id n, (id, n) ∈ r.takeCounts.1 ↔ 0 < unreported id past ∧ n = min (unreported id past) countCeiling) ∧
      Ascending r.takeCounts.1 ∧ r.takeCounts.2 = { r with pending := .empty } := by
  intro r
  refine ⟨?_, ascending_takeCounts r, rfl⟩
  intro id n
  rw [mem_takeCounts_iff, tally_after]
  split
  · rename_i hnone
    simp [hnone]
  · rename_i hsome
    rw [Option.some.injEq, eq_comm]
    exact (and_iff_right (Nat.pos_of_ne_zero hsome)).symm

/-- Times that run backwards lose nothing, and what went before the last flush does not count. -/
example :
    let registry := Registry.after [.signal (.ofNat 1) .pairingNotRequired 3, .signal (.ofNat 1) .helloAccepted 2,
      .greet (.ofNat 1) "guest" 1]
    let screen := (Layout.ofMaster 1920 1080).replace (fun _ => true) [(.ofNat 1, ⟨-1280, 0, 1280, 1024⟩)]
    let layout := screen.toOption.getD (.ofMaster 1920 1080)
    (after [.focus registry 0, .focus registry 1000000000, .point layout registry (-10) 10 500000000,
      .flush registry, .point layout registry (-10) 10 2000000000, .share true]).takeCounts.1 =
        [(.ofNat 1, 3)] := by
  decide +kernel

end SharedDesk.Router
