import SharedDesk.Proofs.Layout.Editing
import SharedDesk.Proofs.Registry.Run
/-!
# Where events go

A `Console` is all that routing looks at: the router with the layout and the registry, each of them open to
every operation of its own (`Move`). After every run of them a pointer event goes to a client exactly if
sharing is on, the client's committed screen lies under the pointer and the client is active; with sharing off
nothing goes anywhere but to the master; and each event is counted once, for the client that gets it
(`routing_exact`).
-/

namespace SharedDesk

/-- The committed screen of a client lies under a point. -/
def Layout.Places (l : Layout) (id : Uuid) (x y : Int) : Prop :=
  ∃ region, (id, region) ∈ l.placements ∧ region.contains x y = true

namespace Router

variable {r : Router} {id : Uuid} {now : Time} {target : Target} {layout : Layout} {registry : Registry}
  {width height : UInt32} {accepted : List Placement} {kept : Uuid → Bool}

/-! ## Whom an event goes to -/

theorem pointerTarget_eq_client_iff (h : Layout.Edited width height accepted kept layout) (x y : Int) :
    r.pointerTarget layout registry x y = .client id ↔
      r.sharing = true ∧ layout.Places id x y ∧ registry.isActive id = true := by
  rw [Layout.Places, ← Layout.clientAt_eq_some_iff h, pointerTarget]
  by_cases hsharing : r.sharing = true
  · rw [if_pos hsharing]
    cases layout.clientAt x y with
    | none => simp
    | some j =>
      by_cases hactive : registry.isActive j = true
      · simp only [hactive, hsharing, if_true, Target.client.injEq, Option.some.injEq, true_and]
        constructor
        · rintro rfl
          exact ⟨rfl, hactive⟩
        · exact And.left
      · simp only [hactive, hsharing, Option.some.injEq, true_and]
        constructor
        · nofun
        · rintro ⟨rfl, hactive'⟩
          exact absurd hactive' hactive
  · simp [hsharing]

theorem focusTarget_eq_client_iff : r.focusTarget registry = .client id ↔
    r.target = .client id ∧ r.sharing = true ∧ registry.isActive id = true := by
  unfold focusTarget
  cases r.target with
  | master => simp
  | client j =>
    by_cases hgoes : (r.sharing && registry.isActive j) = true
    · simp only [hgoes, if_true, Target.client.injEq]
      rw [Bool.and_eq_true] at hgoes
      constructor
      · rintro rfl
        exact ⟨rfl, hgoes⟩
      · exact And.left
    · simp only [hgoes, Target.client.injEq]
      constructor
      · nofun
      · rintro ⟨rfl, hgoes'⟩
        exact absurd (Bool.and_eq_true_iff.2 hgoes') hgoes

/-! ## What an event leaves behind -/

/-- The router after an event has gone to a target. -/
def sent (r : Router) (target : Target) (now : Time) : Router := { r with target }.count now target

@[simp]
theorem sent_sharing (r : Router) (target : Target) (now : Time) : (r.sent target now).sharing = r.sharing := by
  cases target <;> rfl

@[simp]
theorem sent_target (r : Router) (target : Target) (now : Time) : (r.sent target now).target = target := by
  cases target <;> rfl

/-- With sharing off the master has the focus. -/
def Quiet (r : Router) : Prop := r.sharing = false → r.target = .master

theorem Quiet.sharing (h : r.Quiet) (htarget : r.target = .client id) : r.sharing = true := by
  by_contra hoff
  cases htarget.symm.trans (h (Bool.eq_false_iff.2 hoff))

theorem quiet_setSharing (r : Router) (on : Bool) : (r.setSharing on).Quiet := by
  intro hoff
  exact if_neg (Bool.eq_false_iff.1 hoff)

theorem quiet_pointer (r : Router) (layout : Layout) (registry : Registry) (x y : Int) (now : Time) :
    (r.sent (r.pointerTarget layout registry x y) now).Quiet := by
  intro hoff
  rw [sent_sharing] at hoff
  rw [sent_target, pointerTarget, if_neg (Bool.eq_false_iff.1 hoff)]

theorem quiet_focus (r : Router) (registry : Registry) (now : Time) :
    (r.sent (r.focusTarget registry) now).Quiet := by
  intro hoff
  rw [sent_sharing] at hoff
  rw [sent_target]
  cases hfocus : r.focusTarget registry with
  | master => rfl
  | client id => cases hoff.symm.trans (focusTarget_eq_client_iff.1 hfocus).2.1

theorem Quiet.forget (h : r.Quiet) (id : Uuid) : (r.forget id).Quiet := by
  intro hoff
  simp [Router.forget, h hoff]

/-- The buckets of a client that wait to be taken over. -/
def bucketsOf (r : Router) (id : Uuid) : List Bucket := (r.pending.find? id).getD []

/-- An event is put into a bucket of the client that it goes to. -/
theorem bucketsOf_sent (r : Router) (target : Target) (now : Time) (id : Uuid) :
    (r.sent target now).bucketsOf id =
      if target = .client id then countInto (r.bucketsOf id) now else r.bucketsOf id := by
  cases target with
  | master => rfl
  | client j =>
    unfold bucketsOf sent count
    dsimp only
    rw [Table.find?_insert]
    by_cases hid : id = j
    · subst hid
      simp
    · simp [hid, Ne.symm hid]

theorem bucketsOf_forget (r : Router) (j id : Uuid) :
    (r.forget j).bucketsOf id = if id = j then [] else r.bucketsOf id := by
  unfold bucketsOf forget
  rw [Table.find?_erase]
  split <;> rfl

/-! ## Totals -/

/-- How many events the router reports for a client when its counts are taken out. -/
def routedTotal (r : Router) (id : Uuid) : Nat := (r.takeCounts.1.lookup id).getD 0

theorem routedTotal_eq (r : Router) (id : Uuid) : r.routedTotal id = total (r.bucketsOf id) := by
  unfold routedTotal takeCounts bucketsOf Table.find?
  generalize r.pending.rows = rows
  induction rows with
  | nil => rfl
  | cons row rest ih =>
    rw [List.map_cons, List.lookup_cons, List.find?_cons]
    by_cases hid : id = row.1
    · simp [hid]
    · have hrank : (Ranked.rank row.1 == Ranked.rank id) = false :=
        beq_eq_false_iff_ne.2 fun heq => hid (Ranked.rank_inj heq).symm
      rw [beq_eq_false_iff_ne.2 hid, hrank]
      exact ih

theorem total_countInto (buckets : List Bucket) (now : Time) :
    total (countInto buckets now) = addCount (total buckets) 1 := by
  unfold countInto
  cases buckets with
  | nil => rfl
  | cons b rest =>
    dsimp only
    split
    · simp only [total, List.foldr_cons, addCount]
      omega
    · rfl

theorem routedTotal_sent (r : Router) (target : Target) (now : Time) (id : Uuid) :
    (r.sent target now).routedTotal id =
      if target = .client id then addCount (r.routedTotal id) 1 else r.routedTotal id := by
  rw [routedTotal_eq, routedTotal_eq, bucketsOf_sent]
  split
  · exact total_countInto ..
  · rfl

end Router

/-! ## Runs -/

/-- An input event: the pointer at a point, or anything that follows the pointer. -/
inductive Input
  | pointer (x y : Int)
  | other

/-- The router with the layout and the registry that it looks at. -/
structure Console where
  router : Router
  layout : Layout
  registry : Registry
deriving DecidableEq

namespace Console

/-- Nothing has happened yet. -/
def opening (width height : UInt32) : Console := ⟨.idle, .ofMaster width height, .empty⟩

/-- Routes an event. -/
def route (k : Console) (i : Input) (now : Time) : Target × Router :=
  match i with
  | .pointer x y => k.router.routePointer k.layout k.registry x y now
  | .other => k.router.routeFocused k.registry now

/-- Something that is done with the router, the layout or the registry. -/
inductive Move
  | share (on : Bool)
  | input (i : Input) (now : Time)
  /-- The router drops everything about a client. -/
  | drop (id : Uuid)
  /-- The counts of routed events are taken out, past the registry. -/
  | collect
  | flush
  | replace (known : Uuid → Bool) (candidate : List Placement)
  | remove (id : Uuid)
  | prune (known : Uuid → Bool)
  | operate (op : Registry.Operation)

/-- The console after a move; an arrangement that is refused changes nothing. -/
def move (k : Console) : Move → Console
  | .share on => { k with router := k.router.setSharing on }
  | .input i now => { k with router := (k.route i now).2 }
  | .drop id => { k with router := k.router.forget id }
  | .collect => { k with router := k.router.takeCounts.2 }
  | .flush => { k with router := (k.router.flush k.registry).1, registry := (k.router.flush k.registry).2 }
  | .replace known candidate => { k with layout := (k.layout.replace known candidate).toOption.getD k.layout }
  | .remove id => { k with layout := k.layout.remove id }
  | .prune known => { k with layout := k.layout.prune known }
  | .operate op => { k with registry := k.registry.operate op }

/-- The console after a past, the latest move first. -/
def after (k : Console) : List Move → Console
  | [] => k
  | m :: past => (k.after past).move m

/-- Whom an event goes to. -/
def aim (k : Console) : Input → Target
  | .pointer x y => k.router.pointerTarget k.layout k.registry x y
  | .other => k.router.focusTarget k.registry

variable {k : Console} {width height : UInt32} {past : List Move} {id : Uuid} {now : Time}

theorem route_eq (k : Console) (i : Input) (now : Time) :
    k.route i now = (k.aim i, k.router.sent (k.aim i) now) := by
  cases i <;> rfl

/-- What holds at all times. -/
structure Sound (width height : UInt32) (k : Console) : Prop where
  quiet : k.router.Quiet
  edited : ∃ accepted kept, Layout.Edited width height accepted kept k.layout

theorem sound_opening (width height : UInt32) : (opening width height).Sound width height :=
  ⟨fun _ => rfl, [], _, .bare⟩

/-- With sharing off the master gets every event. -/
theorem aim_of_quiet (hquiet : k.router.Quiet) (h : k.router.sharing = false) (i : Input) :
    k.aim i = .master := by
  cases i with
  | pointer x y => simp [aim, Router.pointerTarget, h]
  | other => simp [aim, Router.focusTarget, hquiet h]

theorem Sound.move (h : k.Sound width height) (m : Move) : (k.move m).Sound width height := by
  obtain ⟨hquiet, accepted, kept, hedited⟩ := h
  cases m with
  | share on => exact ⟨k.router.quiet_setSharing on, accepted, kept, hedited⟩
  | input i now =>
    refine ⟨?_, accepted, kept, hedited⟩
    cases i with
    | pointer x y => exact k.router.quiet_pointer k.layout k.registry x y now
    | other => exact k.router.quiet_focus k.registry now
  | drop id => exact ⟨hquiet.forget id, accepted, kept, hedited⟩
  | replace known candidate =>
    refine ⟨hquiet, ?_⟩
    cases hreplace : k.layout.replace known candidate with
    | ok layout =>
      refine ⟨candidate, fun _ => true, ?_⟩
      rw [Console.move, hreplace]
      exact .replaced known candidate hedited hreplace
    | error fault =>
      refine ⟨accepted, kept, ?_⟩
      rw [Console.move, hreplace]
      exact hedited
  | remove id => exact ⟨hquiet, accepted, _, .removed id hedited⟩
  | prune known => exact ⟨hquiet, accepted, _, .pruned known hedited⟩
  | collect | flush | operate => exact ⟨hquiet, accepted, kept, hedited⟩

theorem sound_after (width height : UInt32) (past : List Move) :
    ((opening width height).after past).Sound width height := by
  induction past with
  | nil => exact sound_opening width height
  | cons m past ih => exact ih.move m

/-- After every run of moves, a pointer event goes to a client exactly if sharing is on, the client's committed
screen contains the point and the client is active, and to the master otherwise; an event that follows the
pointer goes to no client that is not active; with sharing off the target is the master, who gets every event,
and nothing is counted; and every event adds one to the total of the client that gets it, and to no other. -/
theorem routing_exact (width height : UInt32) (past : List Move) (now : Time) :
    let k := (opening width height).after past
    (∀ x y id, (k.route (.pointer x y) now).1 = .client id ↔
      k.router.sharing = true ∧ k.layout.Places id x y ∧ k.registry.isActive id = true) ∧
    (∀ x y, (k.route (.pointer x y) now).1 = .master ↔
      ¬ ∃ id, k.router.sharing = true ∧ k.layout.Places id x y ∧ k.registry.isActive id = true) ∧
    (∀ id, (k.route .other now).1 = .client id → k.registry.isActive id = true) ∧
    (k.router.sharing = false → k.router.target = .master ∧
      ∀ i, (k.route i now).1 = .master ∧ (k.route i now).2.pending = k.router.pending) ∧
    (∀ i id, (k.route i now).2.routedTotal id =
      if (k.route i now).1 = .client id then addCount (k.router.routedTotal id) 1
      else k.router.routedTotal id) := by
  intro k
  obtain ⟨hquiet, accepted, kept, hedited⟩ : k.Sound width height := sound_after width height past
  have hpointer : ∀ x y id, (k.route (.pointer x y) now).1 = .client id ↔
      k.router.sharing = true ∧ k.layout.Places id x y ∧ k.registry.isActive id = true := fun x y id =>
    Router.pointerTarget_eq_client_iff hedited x y
  refine ⟨hpointer, ?_, ?_, ?_, ?_⟩
  · intro x y
    simp only [← hpointer]
    cases (k.route (.pointer x y) now).1 <;> simp
  · intro id hgoes
    exact (Router.focusTarget_eq_client_iff.1 hgoes).2.2
  · intro hoff
    refine ⟨hquiet hoff, ?_⟩
    intro i
    rw [route_eq, aim_of_quiet hquiet hoff]
    exact ⟨rfl, rfl⟩
  · intro i id
    rw [route_eq]
    exact Router.routedTotal_sent ..

/-- A client whose screen is to the left has said hello, and sharing is on; the latest move comes first. -/
def guestAtDoor : List Move :=
  [.share true, .operate (.signal (.ofNat 1) .helloAccepted 2), .operate (.greet (.ofNat 1) "guest" 1),
    .replace (fun _ => true) [(.ofNat 1, ⟨-1280, 0, 1280, 1024⟩)]]

/-- Let in, it gets the pointer on its screen, and the master gets it on his own. -/
theorem pointer_goes_left :
    let k := (opening 1920 1080).after (.operate (.signal (.ofNat 1) .pairingNotRequired 3) :: guestAtDoor)
    (k.route (.pointer (-10) 10) 5).1 = .client (.ofNat 1) ∧
      (k.route (.pointer (-10) 10) 5).2.routedTotal (.ofNat 1) = 1 ∧
      (k.route (.pointer 10 10) 5).1 = .master := by
  intro k
  obtain ⟨hclient, hmaster, -, -, htotal⟩ :=
    routing_exact 1920 1080 (.operate (.signal (.ofNat 1) .pairingNotRequired 3) :: guestAtDoor) 5
  have hplaced : k.layout.placements = [(.ofNat 1, ⟨-1280, 0, 1280, 1024⟩)] := by
    decide +kernel
  have hgoes : (k.route (.pointer (-10) 10) 5).1 = .client (.ofNat 1) := by
    have hsharing : k.router.sharing = true := by decide +kernel
    have hactive : k.registry.isActive (.ofNat 1) = true := by decide +kernel
    have hregion : (.ofNat 1, ⟨-1280, 0, 1280, 1024⟩) ∈ k.layout.placements :=
      hplaced ▸ List.mem_singleton_self _
    exact (hclient (-10) 10 (.ofNat 1)).2 ⟨hsharing, ⟨_, hregion, by decide⟩, hactive⟩
  refine ⟨hgoes, ?_, (hmaster 10 10).2 ?_⟩
  · rw [htotal, if_pos hgoes]
    decide +kernel
  · rintro ⟨id, -, ⟨region, hregion, hin⟩, -⟩
    rw [show Layout.placements _ = _ from hplaced, List.mem_singleton] at hregion
    obtain ⟨-, rfl⟩ := Prod.mk.inj hregion
    cases hin

end Console

end SharedDesk
