import SharedDesk.Layout
import SharedDesk.Proofs.Region
import Mathlib.Data.List.Basic
/-!
# Which screens the search from the master finds

`Linked` says what it means that a chain of screens leads to the master. `mem_unreachable_iff`: the
search misses exactly the screens without such a chain. Its invariant has three parts: what it
leaves is linked, at any time each screen has been left, waits or is yet to be reached (`explore_perm`),
and what it never reaches touches nothing that it leaves.
-/

namespace SharedDesk.Layout

/-- A chain of screens of the candidate leads from the placement to the master, where `near` says
which screens may follow each other. -/
inductive Linked (near : Region → Region → Prop) (master : Region) (candidate : List Placement) :
    Placement → Prop
  | first {p : Placement} : p ∈ candidate → near p.2 master → Linked near master candidate p
  | next {p q : Placement} : Linked near master candidate p → q ∈ candidate → near q.2 p.2 →
      Linked near master candidate q

/-- Touching is what the search goes by. -/
abbrev Touching (r s : Region) : Prop := r.touches s = true

variable {near near' : Region → Region → Prop} {master : Region} {c c' : List Placement} {p : Placement}

theorem Linked.mem (h : Linked near master c p) : p ∈ c := by
  cases h with
  | first hp _ => exact hp
  | next _ hp _ => exact hp

theorem Linked.mono (hsub : ∀ q ∈ c, q ∈ c') (h : Linked near master c p) : Linked near master c' p := by
  induction h with
  | first hp hn => exact .first (hsub _ hp) hn
  | next _ hq hn ih => exact .next ih (hsub _ hq) hn

/-- Chains may change the kind of their steps; a step that stays on one screen may be left out. -/
theorem Linked.imp (hmaster : ∀ q ∈ c, near q.2 master → near' q.2 master)
    (hnear : ∀ q ∈ c, ∀ q' ∈ c, q ≠ q' → near q.2 q'.2 → near' q.2 q'.2)
    (h : Linked near master c p) : Linked near' master c p := by
  induction h with
  | first hp hn => exact .first hp (hmaster _ hp hn)
  | @next p q hl hq hn ih =>
    by_cases heq : q = p
    · exact heq ▸ ih
    · exact .next ih hq (hnear _ hq _ hl.mem heq hn)

/-! ## The search -/

theorem explore_cons (steps : Nat) (p : Placement) (queue unreached : List Placement) :
    explore (steps + 1) (p :: queue) unreached =
      let near := unreached.filter fun q => q.2.touches p.2
      let far := unreached.filter fun q => !q.2.touches p.2
      (p :: (explore steps (queue ++ near) far).1, (explore steps (queue ++ near) far).2) := by
  simp [explore, List.partition_eq_filter_filter, Function.comp_def]

/-- The screens that wait in the queue when the steps are over. -/
def waiting : (steps : Nat) → (queue unreached : List Placement) → List Placement
  | 0, queue, _ => queue
  | _ + 1, [], _ => []
  | steps + 1, p :: queue, unreached =>
    waiting steps (queue ++ unreached.filter fun q => q.2.touches p.2)
      (unreached.filter fun q => !q.2.touches p.2)

/-- After any number of steps each screen has been left, waits in the queue or is yet to be reached, and it is only
one of these, once. -/
theorem explore_perm (steps : Nat) (queue unreached : List Placement) :
    ((explore steps queue unreached).1 ++ waiting steps queue unreached ++
      (explore steps queue unreached).2).Perm (queue ++ unreached) := by
  induction steps generalizing queue unreached with
  | zero => exact .refl _
  | succ steps ih =>
    cases queue with
    | nil => exact .refl _
    | cons p queue =>
      have hsplit := List.filter_append_perm (fun q : Placement => q.2.touches p.2) unreached
      rw [explore_cons]
      refine .cons p ((ih _ _).trans ?_)
      rw [List.append_assoc]
      exact hsplit.append_left queue

/-- While screens wait, every step leaves one. -/
theorem length_of_waiting {steps : Nat} {queue unreached : List Placement}
    (h : waiting steps queue unreached ≠ []) : (explore steps queue unreached).1.length = steps := by
  induction steps generalizing queue unreached with
  | zero => rfl
  | succ steps ih =>
    cases queue with
    | nil => exact absurd rfl h
    | cons p queue =>
      rw [explore_cons]
      exact congrArg (· + 1) (ih h)

/-- As many steps as there are screens empty the queue. -/
theorem waiting_eq_nil {steps : Nat} {queue unreached : List Placement}
    (hsteps : queue.length + unreached.length ≤ steps) : waiting steps queue unreached = [] := by
  by_contra hne
  have hlength := (explore_perm steps queue unreached).length_eq
  have hleft := length_of_waiting hne
  have hpos := List.length_pos_iff.2 hne
  simp only [List.length_append] at hlength
  omega

/-- What the search leaves is linked, if what it starts from is. -/
theorem linked_of_left (steps : Nat) (queue unreached : List Placement)
    (hqueue : ∀ p ∈ queue, Linked Touching master c p) (hun : ∀ p ∈ unreached, p ∈ c) :
    ∀ p ∈ (explore steps queue unreached).1, Linked Touching master c p := by
  induction steps generalizing queue unreached with
  | zero => simp [explore]
  | succ steps ih =>
    cases queue with
    | nil => simp [explore]
    | cons p queue =>
      have hp := hqueue p List.mem_cons_self
      rw [explore_cons]
      intro q hq
      rcases List.mem_cons.1 hq with rfl | hq
      · exact hp
      · refine ih _ _ (fun r hr => ?_) (fun r hr => hun r (List.mem_filter.1 hr).1) q hq
        rcases List.mem_append.1 hr with hr | hr
        · exact hqueue r (List.mem_cons_of_mem p hr)
        · obtain ⟨hr, htouch⟩ := List.mem_filter.1 hr
          exact .next hp (hun r hr) htouch

/-- What the search never reaches is what touches nothing that it leaves. -/
theorem explore_never (steps : Nat) (queue unreached : List Placement) :
    (explore steps queue unreached).2 = unreached.filter fun p =>
      (explore steps queue unreached).1.all fun q => !p.2.touches q.2 := by
  induction steps generalizing queue unreached with
  | zero => simp [explore]
  | succ steps ih =>
    cases queue with
    | nil => simp [explore]
    | cons p queue =>
      rw [explore_cons]
      dsimp only
      rw [ih, List.filter_filter]
      exact List.filter_congr fun q _ => Bool.and_comm ..

/-- The screens that the search from the master finds, in the order in which it leaves them. -/
def searched (master : Region) (c : List Placement) : List Placement :=
  (explore c.length (c.filter fun p => p.2.touches master)
    (c.filter fun p => !p.2.touches master)).1

/-- The screens that still wait when the search from the master is over. -/
def leftWaiting (master : Region) (c : List Placement) : List Placement :=
  waiting c.length (c.filter fun p => p.2.touches master) (c.filter fun p => !p.2.touches master)

theorem unreachable_eq (master : Region) (c : List Placement) : unreachable master c =
    (explore c.length (c.filter fun p => p.2.touches master)
      (c.filter fun p => !p.2.touches master)).2 := by
  simp [unreachable, List.partition_eq_filter_filter, Function.comp_def]

theorem linked_of_searched (h : p ∈ searched master c) : Linked Touching master c p :=
  linked_of_left _ _ _ (fun _ hq => .first (List.mem_filter.1 hq).1 (List.mem_filter.1 hq).2)
    (fun _ hq => (List.mem_filter.1 hq).1) p h

/-- The search ends: no screen is left waiting, so what was ever queued is what was left. -/
theorem leftWaiting_eq_nil (master : Region) (c : List Placement) : leftWaiting master c = [] := by
  have hsplit := List.length_eq_length_filter_add (l := c) fun p => p.2.touches master
  exact waiting_eq_nil (by omega)

/-- Every screen is found once or is out of reach. -/
theorem search_perm (master : Region) (c : List Placement) :
    (searched master c ++ unreachable master c).Perm c := by
  have hperm := explore_perm c.length (c.filter fun p => p.2.touches master) (c.filter fun p => !p.2.touches master)
  rw [← unreachable_eq, show waiting .. = _ from leftWaiting_eq_nil master c, List.append_nil] at hperm
  exact hperm.trans (List.filter_append_perm ..)

/-- Out of reach is what touches neither the master nor any screen that is found. -/
theorem unreachable_eq_filter (master : Region) (c : List Placement) : unreachable master c =
    c.filter fun p => !p.2.touches master && (searched master c).all fun q => !p.2.touches q.2 := by
  rw [unreachable_eq, explore_never, List.filter_filter]
  exact List.filter_congr fun p _ => Bool.and_comm ..

/-- The screens out of reach are those without a chain of touching screens to the master. -/
theorem mem_unreachable_iff (master : Region) (c : List Placement) (p : Placement) :
    p ∈ unreachable master c ↔ p ∈ c ∧ ¬ Linked Touching master c p := by
  have hcases : ∀ p ∈ c, p ∈ searched master c ∨ p ∈ unreachable master c := fun p hp =>
    List.mem_append.1 ((search_perm master c).mem_iff.2 hp)
  have hnever : ∀ p ∈ unreachable master c, p ∈ c ∧ ¬ Touching p.2 master ∧
      ∀ q ∈ searched master c, ¬ Touching p.2 q.2 := by
    intro p hp
    rw [unreachable_eq_filter] at hp
    simpa using hp
  constructor
  · intro hp
    refine ⟨(hnever p hp).1, fun hlinked => ?_⟩
    -- along the chain, each screen is found because the one before it is
    induction hlinked with
    | first _ htouch => exact (hnever _ hp).2.1 htouch
    | next hl _ htouch ih =>
      rcases hcases _ hl.mem with hq | hq
      · exact (hnever _ hp).2.2 _ hq htouch
      · exact ih hq
  · rintro ⟨hp, hnot⟩
    rcases hcases p hp with hq | hq
    · exact absurd (linked_of_searched hq) hnot
    · exact hq

end SharedDesk.Layout
