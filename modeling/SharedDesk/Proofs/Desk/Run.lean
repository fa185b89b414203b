import SharedDesk.Desk.Command
import SharedDesk.Proofs.Admission.Outcome
/-!
# Runs of a desk

An `Act` is anything that can happen to a running desk, in whatever order and at whatever times, and
`Desk.after` is the desk after a past of them. Of one act it is told here what it can do to the phase
of a client (`phase?_act`), to a session (`session_act`) and to trust (`isTrusted_act`); all else about
letting clients in follows from these three.
-/

namespace SharedDesk

/-- Something that happens to a running desk. -/
inductive Act
  | hello (hello : Hello) (peer : Address) (now : Time) (session : Uuid) (pin : Pin)
  | submit (session : Uuid) (answer : String) (peer : Address) (now : Time)
  | disconnect (id : Uuid) (now : Time)
  | forget (text : String)
  | abandon (id : Uuid)
  | purge (now : Time)
  | sweep (timeouts : SweepTimeouts) (retain : Uuid → Bool) (now : Time)
  | maintain (now : Time)
  | probe (settings : LivenessSettings) (now : Time)
  | reply (id : Uuid) (number : UInt64) (now : Time)
  | arrange (forms : List ScreenForm)
  | stage (form : NetworkForm)
  | share (on : Bool)
  | point (x y : Int) (now : Time)
  | focus (now : Time)
  | flush
  /-- The counts of routed events are taken out, past the registry. -/
  | collect
  /-- The operator reads the notices. -/
  | read
  /-- The probes in the queue go over the network. -/
  | transmit
  /-- The place for the settings changes from outside. -/
  | disk (file : Option ConfigFile)

namespace Desk

/-- Takes the answer to a probe; one that is late, or of a client that is not known, changes nothing. -/
def reply (d : Desk) (id : Uuid) (number : UInt64) (now : Time) : Desk :=
  match d.registry.answer id number now with
  | .ok (_, registry) => { d with registry }
  | .error _ => d

/-- The desk after an act. -/
def act (d : Desk) : Act → Desk
  | .hello hello peer now session pin => (d.hello hello peer now session pin).2
  | .submit session answer peer now => (d.submit session answer peer now).2
  | .disconnect id now => (d.disconnect id now).2
  | .forget text => (d.forgetClient text).2
  | .abandon id => { d with admission := (d.admission.abandonPairing id).2 }
  | .purge now => { d with admission := (d.admission.purge now).2 }
  | .sweep timeouts retain now => (d.sweep timeouts retain now).2
  | .maintain now => (d.maintain now).2
  | .probe settings now => (d.probeRound settings now).2
  | .reply id number now => d.reply id number now
  | .arrange forms => (d.updateLayout forms).2
  | .stage form => (d.updateNetwork form).2
  | .share on => (d.setSharing on).2
  | .point x y now => (d.routePointer x y now).2
  | .focus now => (d.routeFocused now).2
  | .flush => d.flush
  | .collect => { d with router := d.router.takeCounts.2 }
  | .read => { d with notices := d.notices.drain.2 }
  | .transmit => { d with probes := d.probes.drain.2 }
  | .disk file => { d with file }

/-- The desk after a past, the latest act first. -/
def after (d : Desk) : List Act → Desk
  | [] => d
  | a :: past => (d.after past).act a

end Desk

/-- An act with property `p` lies in the past, and every later one has property `q`. Both are told of
an act together with the past it had. -/
inductive Since (p q : Act → List Act → Prop) : List Act → Prop
  | here {a past} : p a past → Since p q (a :: past)
  | there {a past} : q a past → Since p q past → Since p q (a :: past)

/-- Every act of the past had property `p`, told of the act and the desk that it met. -/
def Throughout (p : Desk → Act → Prop) (d : Desk) : List Act → Prop
  | [] => True
  | a :: past => p (d.after past) a ∧ Throughout p d past

namespace Act

/-- A hello of a client from an address that is not locked out. -/
def Greets (d : Desk) (id : Uuid) : Act → Prop
  | .hello h peer now _ _ => h.client = id ∧ d.admission.lockedOut? peer now = none
  | _ => False

/-- An answer within a session from an address that is not locked out. -/
def Answers (d : Desk) (session : Uuid) : Act → Prop
  | .submit sid _ peer now => sid = session ∧ d.admission.lockedOut? peer now = none
  | _ => False

/-- An answer that lets a client in. -/
def Completes (d : Desk) (id : Uuid) : Act → Prop
  | .submit session answer peer now => (d.submit session answer peer now).1 = .ok id
  | _ => False

/-- A client goes, is forgotten, or has its handshake ended. -/
def Ends (d : Desk) (id : Uuid) : Act → Prop
  | .disconnect j _ => j = id
  | .forget text => readClientId text = .ok id
  | .abandon j => j = id
  | .sweep timeouts retain now => id ∈ (d.sweep timeouts retain now).1.timedOut
  | .maintain now => id ∈ (d.maintain now).1.timedOut
  | _ => False

/-- An act that has to do with sessions, lockouts and trust. -/
def concernsAdmission : Act → Bool
  | .hello .. | .submit .. | .disconnect .. | .forget _ | .abandon _ | .purge _ | .maintain _ => true
  | _ => false

/-- The parts of maintenance come together and not one by one. -/
def isWhole : Act → Bool
  | .abandon _ | .purge _ | .sweep .. => false
  | _ => true

/-- A client is forgotten. -/
def Forgets (id : Uuid) : Act → Prop
  | .forget text => readClientId text = .ok id
  | _ => False

end Act

/-! ## Rounds over the registry -/

namespace Registry

theorem standing?_flushClient (r : Registry) (id : Uuid) (buckets : List Bucket) (j : Uuid) :
    (Router.flushClient r id buckets).standing? j = r.standing? j := by
  induction buckets with
  | nil => rfl
  | cons b rest ih =>
    rw [Router.flushClient, List.foldr_cons]
    split
    · rename_i r' h
      exact (standing?_measure h j).trans ih
    · exact ih

theorem standing?_flush (q : Router) (r : Registry) (j : Uuid) :
    (q.flush r).2.standing? j = r.standing? j := by
  unfold Router.flush
  generalize q.pending.rows = rows
  induction rows generalizing r with
  | nil => rfl
  | cons row rest ih =>
    -- The counts of one client leave every phase as it is, so the rest may start from any registry.
    exact (ih _).trans (standing?_flushClient r row.1 row.2 j)

/-- A probe round disconnects active clients and does nothing else to anybody's phase. -/
theorem standing?_probeRound {σ : Type} (send : σ → ProbeRequest → Bool × σ) (carrier : σ)
    (r : Registry) (settings : LivenessSettings) (now : Time) (j : Uuid) :
    (ProbeRound.run send carrier r settings now).2.1.standing? j = r.standing? j ∨
      (r.phase? j = some .active ∧
        (ProbeRound.run send carrier r settings now).2.1.phase? j = some .disconnected) := by
  have h : (ProbeRound.run send carrier r settings now).2.1.standing? j = _ :=
    standing?_startProbes (r.expireProbes now settings.probeTimeout settings.missThreshold).2 now j
  rw [h, phase?_of_standing? h]
  exact standing?_expireProbes ..

end Registry

namespace Desk

variable {d : Desk} {a : Act} {id session : Uuid} {s : Session} {peer : Address} {now : Time}

/-! ## Knocking -/

/-- From an address that is locked out nothing can be reached. -/
theorem hello_of_locked {n : Nat} (hl : d.admission.lockedOut? peer now = some n) (h : Hello)
    (session : Uuid) (pin : Pin) :
    d.hello h peer now session pin = (.error (.lockedOut peer n), d) := by
  rw [hello, Admission.hello_of_locked hl]
  rfl

theorem hello_of_free (hl : d.admission.lockedOut? peer now = none) (h : Hello) (session : Uuid)
    (pin : Pin) : d.hello h peer now session pin =
      d.take (d.admission.welcome d.registry h now session pin) := by
  rw [hello, Admission.hello_of_free hl]

theorem submit_of_locked {n : Nat} (hl : d.admission.lockedOut? peer now = some n) (session : Uuid)
    (answer : String) : d.submit session answer peer now = (.error (.lockedOut n), d) := by
  rw [submit, Admission.submit_of_locked hl]
  rfl

theorem submit_of_free (hl : d.admission.lockedOut? peer now = none) (session : Uuid)
    (answer : String) : d.submit session answer peer now =
      d.take (d.admission.judge d.registry session answer peer now) := by
  rw [submit, Admission.submit_of_free hl]

/-- A hello that is not heard changes nothing. -/
theorem act_hello (d : Desk) (h : Hello) (peer : Address) (now : Time) (session : Uuid) (pin : Pin) :
    d.act (.hello h peer now session pin) = d ∨
      (d.admission.lockedOut? peer now = none ∧ d.act (.hello h peer now session pin) =
        (d.take (d.admission.welcome d.registry h now session pin)).2) := by
  cases hl : d.admission.lockedOut? peer now with
  | some n => exact .inl (by rw [act, hello_of_locked hl])
  | none => exact .inr ⟨rfl, by rw [act, hello_of_free hl]⟩

theorem act_submit (d : Desk) (session : Uuid) (answer : String) (peer : Address) (now : Time) :
    d.act (.submit session answer peer now) = d ∨
      (d.admission.lockedOut? peer now = none ∧ d.act (.submit session answer peer now) =
        (d.take (d.admission.judge d.registry session answer peer now)).2) := by
  cases hl : d.admission.lockedOut? peer now with
  | some n => exact .inl (by rw [act, submit_of_locked hl])
  | none => exact .inr ⟨rfl, by rw [act, submit_of_free hl]⟩

/-! ## Commands -/

/-- A change of the settings reaches nothing but them and the file they are kept in. -/
theorem configure_eq (d : Desk) (change : Config → Config) :
    ∃ file, (d.configure change).2 = { d with config := change d.config, file } := by
  unfold configure
  cases d.file with
  | none => exact ⟨none, rfl⟩
  | some file =>
    dsimp only
    cases file.save (change d.config) with
    | ok saved => exact ⟨some saved, rfl⟩
    | error fault => exact ⟨some file, rfl⟩

@[simp]
theorem configure_admission (d : Desk) (change : Config → Config) :
    (d.configure change).2.admission = d.admission := by
  obtain ⟨file, h⟩ := d.configure_eq change
  rw [h]

@[simp]
theorem configure_registry (d : Desk) (change : Config → Config) :
    (d.configure change).2.registry = d.registry := by
  obtain ⟨file, h⟩ := d.configure_eq change
  rw [h]

@[simp]
theorem configure_layout (d : Desk) (change : Config → Config) :
    (d.configure change).2.layout = d.layout := by
  obtain ⟨file, h⟩ := d.configure_eq change
  rw [h]

@[simp]
theorem configure_router (d : Desk) (change : Config → Config) :
    (d.configure change).2.router = d.router := by
  obtain ⟨file, h⟩ := d.configure_eq change
  rw [h]

@[simp]
theorem configure_liveness (d : Desk) (change : Config → Config) :
    (d.configure change).2.liveness = d.liveness := by
  obtain ⟨file, h⟩ := d.configure_eq change
  rw [h]

/-- A layout command changes nothing, or it takes an arrangement of known clients over and saves it. -/
theorem updateLayout_writes (d : Desk) (forms : List ScreenForm) :
    (d.updateLayout forms).2 = d ∨ ∃ candidate layout, ScreenForm.placements forms = .ok candidate ∧
      d.layout.replace d.registry.contains candidate = .ok layout ∧
      (d.updateLayout forms).2 = { d with layout }.persist.2 := by
  unfold updateLayout arrange
  cases ScreenForm.placements forms with
  | error bad => exact .inl rfl
  | ok candidate =>
    dsimp only
    cases hr : d.layout.replace d.registry.contains candidate with
    | error fault => exact .inl rfl
    | ok layout =>
      refine .inr ⟨candidate, layout, rfl, hr, ?_⟩
      dsimp only
      split <;> rename_i hsaved <;> rw [hsaved]

/-- A network command changes nothing, or it stages and saves. -/
theorem updateNetwork_writes (d : Desk) (form : NetworkForm) :
    (d.updateNetwork form).2 = d ∨ ∃ settings network, form.settings = .ok settings ∧
      d.network.stage settings = .ok network ∧ (d.updateNetwork form).2 =
        ({ d with network }.configure fun c => { c with network := .ofSettings settings }).2 := by
  unfold updateNetwork
  cases form.settings with
  | error fault => exact .inl rfl
  | ok settings =>
    dsimp only
    cases hs : d.network.stage settings with
    | error fault => exact .inl rfl
    | ok network =>
      refine .inr ⟨settings, network, rfl, hs, ?_⟩
      dsimp only
      split <;> rename_i hsaved <;> rw [hsaved]

/-- Forgetting takes sessions and trust in any case; a client that is known is dropped, and that is
saved. -/
theorem forgetClient_writes {text : String} (h : readClientId text = .ok id) (d : Desk) :
    let distrusting := { d with admission := (d.admission.forget id).2 }
    (d.registry.find? id = none ∧ (d.forgetClient text).2 = distrusting) ∨
      (d.forgetClient text).2 = { distrusting with
        registry := ⟨d.registry.clients.erase id⟩
        layout := d.layout.remove id
        router := d.router.forget id }.persist.2 := by
  unfold forgetClient Registry.forget
  rw [h]
  dsimp only
  cases hc : d.registry.find? id with
  | none => exact .inl ⟨rfl, rfl⟩
  | some c =>
    refine .inr ?_
    dsimp only
    split <;> rename_i hsaved <;> rw [hsaved]

theorem forgetClient_of_error {text : String} {bad : BadClientId} (h : readClientId text = .error bad)
    (d : Desk) : (d.forgetClient text).2 = d := by
  rw [forgetClient, h]

/-- Neither layout nor network commands have to do with letting clients in. -/
theorem updateLayout_frame (d : Desk) (forms : List ScreenForm) :
    (d.updateLayout forms).2.admission = d.admission ∧ (d.updateLayout forms).2.registry = d.registry := by
  rcases d.updateLayout_writes forms with h | ⟨candidate, layout, -, -, h⟩
  · rw [h]
    exact ⟨rfl, rfl⟩
  · rw [h, persist, configure_admission, configure_registry]
    exact ⟨rfl, rfl⟩

theorem updateNetwork_frame (d : Desk) (form : NetworkForm) :
    (d.updateNetwork form).2.admission = d.admission ∧
      (d.updateNetwork form).2.registry = d.registry := by
  rcases d.updateNetwork_writes form with h | ⟨settings, network, -, -, h⟩
  · rw [h]
    exact ⟨rfl, rfl⟩
  · rw [h, configure_admission, configure_registry]
    exact ⟨rfl, rfl⟩

theorem forgetClient_admission {text : String} (h : readClientId text = .ok id) (d : Desk) :
    (d.forgetClient text).2.admission = (d.admission.forget id).2 := by
  rcases forgetClient_writes h d with ⟨-, hw⟩ | hw
  · rw [hw]
  · rw [hw, persist, configure_admission]

theorem find?_forgetClient {text : String} (h : readClientId text = .ok id) (d : Desk) (j : Uuid) :
    (d.forgetClient text).2.registry.find? j = if j = id then none else d.registry.find? j := by
  rcases forgetClient_writes h d with ⟨hnone, hw⟩ | hw
  · rw [hw]
    split
    · rename_i hj
      rw [hj, hnone]
    · rfl
  · rw [hw, persist, configure_registry]
    exact Registry.find?_erase ..

theorem standing?_reply (d : Desk) (id : Uuid) (number : UInt64) (now : Time) (j : Uuid) :
    (d.reply id number now).registry.standing? j = d.registry.standing? j := by
  unfold reply
  split
  · rename_i hanswer
    exact Registry.standing?_answer hanswer j
  · rfl

theorem reply_admission (d : Desk) (id : Uuid) (number : UInt64) (now : Time) :
    (d.reply id number now).admission = d.admission := by
  unfold reply
  split <;> rfl

/-! ## What one act does -/

/-- All other acts leave sessions, lockouts and trust alone. -/
theorem admission_of_other (h : a.concernsAdmission = false) (d : Desk) :
    (d.act a).admission = d.admission := by
  cases a with
  | hello | submit | disconnect | forget | abandon | purge | maintain => cases h
  | reply j number now => exact reply_admission ..
  | arrange forms => exact (d.updateLayout_frame forms).1
  | stage form => exact (d.updateNetwork_frame form).1
  | sweep | probe | share | point | focus | flush | collect | read | transmit | disk => rfl

/-- Besides a hello and the right answer, an act leaves a client as it stands, or takes it to `disconnected`
or out of the registry. -/
theorem standing?_act (d : Desk) (a : Act) (id : Uuid) : a.Greets d id ∨ a.Completes d id ∨
    (d.act a).registry.phase? id ∈ [none, some .disconnected] ∨
    (d.act a).registry.standing? id = d.registry.standing? id := by
  have hgone : ∀ {p : Option Phase}, p = some .disconnected → p ∈ [none, some .disconnected] := fun h => by
    simp [h]
  cases a with
  | hello h peer now session pin =>
    cases hl : d.admission.lockedOut? peer now with
    | some n => exact .inr (.inr (.inr (by rw [act, hello_of_locked hl])))
    | none =>
      by_cases hid : h.client = id
      · exact .inl ⟨hid, hl⟩
      · refine .inr (.inr (.inr ?_))
        rw [act, hello_of_free hl, take, Registry.standing?, Admission.record_welcome (Ne.symm hid)]
        rfl
  | submit session answer peer now =>
    refine .inr ?_
    cases hl : d.admission.lockedOut? peer now with
    | some n => exact .inr (.inr (by rw [act, submit_of_locked hl]))
    | none =>
      rw [act, Act.Completes, submit_of_free hl, take]
      exact (Admission.standing?_judge ..).imp_right (Or.imp_left hgone)
  | disconnect j now => exact .inr (.inr ((Admission.standing?_disconnect ..).imp_left hgone))
  | forget text =>
    refine .inr (.inr ?_)
    cases h : readClientId text with
    | error bad => exact .inr (by rw [act, forgetClient_of_error h])
    | ok j =>
      simp only [act, Registry.phase?, Registry.standing?, find?_forgetClient h]
      split <;> simp
  | sweep timeouts retain now => exact .inr (.inr (Registry.standing?_sweep ..))
  | maintain now => exact .inr (.inr (Registry.standing?_sweep ..))
  | probe settings now =>
    refine .inr (.inr ?_)
    rcases Registry.standing?_probeRound ProbeRound.throughQueue d.probes d.registry settings now id with
      h | ⟨-, h⟩
    · exact .inr h
    · exact .inl (hgone h)
  | reply j number now => exact .inr (.inr (.inr (standing?_reply ..)))
  | arrange forms => exact .inr (.inr (.inr (by rw [act, (d.updateLayout_frame forms).2])))
  | stage form => exact .inr (.inr (.inr (by rw [act, (d.updateNetwork_frame form).2])))
  | flush => exact .inr (.inr (.inr (Registry.standing?_flush ..)))
  | abandon | purge | share | point | focus | collect | read | transmit | disk =>
    exact .inr (.inr (.inr rfl))

/-- Besides a hello and the right answer, nothing gives a client a phase but `disconnected`. -/
theorem phase?_act (d : Desk) (a : Act) (id : Uuid) : a.Greets d id ∨ a.Completes d id ∨
    (d.act a).registry.phase? id ∈ [none, some .disconnected, d.registry.phase? id] := by
  refine (standing?_act d a id).imp_right (Or.imp_right ?_)
  rintro (hgone | hsame)
  · simp only [List.mem_cons, List.not_mem_nil, or_false] at hgone ⊢
    exact hgone.imp_right .inl
  · simp [Registry.phase?_of_standing? hsame]

/-- Trust comes with the right answer, and goes with being forgotten. -/
theorem isTrusted_act (d : Desk) (a : Act) (id : Uuid) : (d.act a).admission.isTrusted id = true ↔
    a.Completes d id ∨ (d.admission.isTrusted id = true ∧ ¬ a.Forgets id) := by
  have hsame : ∀ {b : Bool}, b = d.admission.isTrusted id →
      (b = true ↔ False ∨ (d.admission.isTrusted id = true ∧ ¬ False)) := fun h => by simp [h]
  cases a with
  | hello h peer now session pin =>
    refine hsame ?_
    rcases act_hello d h peer now session pin with heq | ⟨-, heq⟩ <;> rw [heq]
    exact Admission.isTrusted_welcome ..
  | submit session answer peer now =>
    cases hl : d.admission.lockedOut? peer now with
    | some n => simp [act, Act.Completes, Act.Forgets, submit_of_locked hl]
    | none =>
      rw [act, Act.Completes, submit_of_free hl, take]
      exact Admission.isTrusted_judge_iff.trans (or_congr_right (and_iff_left fun h => h).symm)
  | disconnect j now =>
    refine hsame ?_
    rw [act, disconnect, take, Admission.disconnect_admission]
    rfl
  | forget text =>
    change (d.forgetClient text).2.admission.isTrusted id = true ↔
      False ∨ (d.admission.isTrusted id = true ∧ ¬ readClientId text = .ok id)
    cases h : readClientId text with
    | error bad => simp [forgetClient_of_error h]
    | ok j =>
      rw [forgetClient_admission h, Admission.isTrusted_forget, Except.ok.injEq, eq_comm (a := j)]
      simp [and_comm]
  | maintain now =>
    refine hsame ?_
    have h := (Admission.abandonAll_spec (d.maintain now).1.timedOut (d.admission.purge now).2).2.2.2
    rw [Admission.isTrusted, show (d.act (.maintain now)).admission.trusted = _ from h]
    rfl
  | abandon | purge => exact hsame rfl
  | _ => exact hsame (by rw [admission_of_other rfl])

/-- Whom the right answer lets in, is active. -/
theorem phase?_of_completes (h : a.Completes d id) : (d.act a).registry.phase? id = some .active := by
  cases a with
  | submit session answer peer now =>
    rw [Act.Completes] at h
    cases hl : d.admission.lockedOut? peer now with
    | some n =>
      rw [submit_of_locked hl] at h
      cases h
    | none =>
      rw [submit_of_free hl] at h
      rw [act, submit_of_free hl, take]
      obtain ⟨s, c, hdoor, rfl, hle, ha⟩ := Admission.judge_eq_ok_iff.1 h
      rw [Admission.judge_eq_of_pairing hdoor, if_neg (Nat.not_lt.2 hle), if_pos ha]
      dsimp only
      rw [Registry.phase?_store, if_pos rfl, Client.enter_phase]
  | _ => cases h

/-- A client that is pairing after an act that is no hello of it stands as it did before. -/
theorem standing?_of_pairing (hp : (d.act a).registry.phase? id = some .pairing) (hg : ¬ a.Greets d id) :
    (d.act a).registry.standing? id = d.registry.standing? id := by
  rcases standing?_act d a id with h | h | h | h
  · exact absurd h hg
  · cases (phase?_of_completes h).symm.trans hp
  · simp [hp] at h
  · exact h

theorem policy_act (d : Desk) (a : Act) : (d.act a).admission.policy = d.admission.policy := by
  cases a with
  | hello h peer now session pin =>
    rcases act_hello d h peer now session pin with heq | ⟨-, heq⟩ <;> rw [heq]
    exact Admission.policy_welcome ..
  | submit session answer peer now =>
    rcases act_submit d session answer peer now with heq | ⟨-, heq⟩ <;> rw [heq]
    exact Admission.policy_judge ..
  | disconnect j now =>
    rw [act, disconnect, take, Admission.disconnect_admission]
    rfl
  | forget text =>
    rw [act]
    cases h : readClientId text with
    | error bad => rw [forgetClient_of_error h]
    | ok j =>
      rw [forgetClient_admission h]
      rfl
  | maintain now =>
    exact (Admission.abandonAll_spec (d.maintain now).1.timedOut (d.admission.purge now).2).2.1
  | abandon | purge => rfl
  | _ => rw [admission_of_other rfl]

theorem policy_after (d : Desk) (past : List Act) :
    (d.after past).admission.policy = d.admission.policy := by
  induction past with
  | nil => rfl
  | cons a past ih => exact (policy_act ..).trans ih

theorem liveness_act (d : Desk) (a : Act) : (d.act a).liveness = d.liveness := by
  cases a with
  | forget text =>
    rw [act]
    cases h : readClientId text with
    | error bad => rw [forgetClient_of_error h]
    | ok id =>
      rcases forgetClient_writes h d with ⟨-, hw⟩ | hw
      · rw [hw]
      · rw [hw, persist, configure_liveness]
  | arrange forms =>
    rcases d.updateLayout_writes forms with h | ⟨candidate, layout, -, -, h⟩
    · rw [act, h]
    · rw [act, h, persist, configure_liveness]
  | stage form =>
    rcases d.updateNetwork_writes form with h | ⟨settings, network, -, -, h⟩
    · rw [act, h]
    · rw [act, h, configure_liveness]
  | reply id number now =>
    rw [act, reply]
    split <;> rfl
  | _ => rfl

theorem liveness_after (d : Desk) (past : List Act) : (d.after past).liveness = d.liveness := by
  induction past with
  | nil => rfl
  | cons a past ih => exact (liveness_act ..).trans ih

/-- How a session came to be what it is after an act. -/
inductive SessionFrom (d : Desk) (session : Uuid) (s : Session) : Act → Prop
  | opened {h : Hello} {peer : Address} {now : Time} {pin : Pin} :
      (d.hello h peer now session pin).1 = .ok (.pairingRequired session) →
      s = ⟨h.client, Pin.answerTo session pin.text, now, 0⟩ →
      SessionFrom d session s (.hello h peer now session pin)
  | counted {s₀ : Session} {c : Client} {answer : String} {peer : Address} {now : Time} :
      d.admission.lockedOut? peer now = none →
      Admission.AtDoor d.admission d.registry session s₀ c → s₀.answer ≠ answer →
      s₀.attempts + 1 < d.admission.policy.maxAttempts →
      s = { s₀ with attempts := s₀.attempts + 1 } →
      SessionFrom d session s (.submit session answer peer now)
  | kept {a : Act} : d.admission.sessions.find? session = some s → ¬ a.Greets d s.client →
      ¬ a.Answers d session →
      (a.Ends d s.client → (d.act a).registry.phase? s.client ≠ some .pairing) →
      SessionFrom d session s a

theorem session_act (hs : (d.act a).admission.sessions.find? session = some s) :
    SessionFrom d session s a := by
  cases a with
  | hello h peer now sid pin =>
    cases hl : d.admission.lockedOut? peer now with
    | some n =>
      rw [act, hello_of_locked hl] at hs
      exact .kept hs (fun hg => nomatch hl.symm.trans hg.2) id nofun
    | none =>
      rw [act, hello_of_free hl, take] at hs
      rcases Admission.find?_welcome hs with ⟨rfl, hresult, rfl⟩ | ⟨hold, hne⟩
      · exact .opened (by rw [hello_of_free hl, take, hresult]) rfl
      · exact .kept hold (fun hg => hne hg.1.symm) id nofun
  | submit sid answer peer now =>
    cases hl : d.admission.lockedOut? peer now with
    | some n =>
      rw [act, submit_of_locked hl] at hs
      exact .kept hs id (fun ha => nomatch hl.symm.trans ha.2) nofun
    | none =>
      rw [act, submit_of_free hl, take] at hs
      rcases Admission.find?_judge hs with ⟨hne, hold⟩ | ⟨rfl, s₀, c, hdoor, ha, hleft, rfl⟩
      · exact .kept hold id (fun ha => hne ha.1.symm) nofun
      · exact .counted hl hdoor ha hleft rfl
  | disconnect j now =>
    rw [act, disconnect, take, Admission.disconnect_admission, Admission.find?_dropSessions_iff] at hs
    exact .kept hs.1 id id fun h => absurd h.symm hs.2
  | forget text =>
    rw [act] at hs
    cases h : readClientId text with
    | error bad =>
      rw [forgetClient_of_error h] at hs
      exact .kept hs id id fun hends => nomatch h.symm.trans hends
    | ok j =>
      rw [forgetClient_admission h] at hs
      obtain ⟨hold, hne⟩ := Admission.find?_dropSessions_iff.1 hs
      exact .kept hold id id fun hends => absurd (Except.ok.inj (hends.symm.trans h)) hne
  | abandon j =>
    obtain ⟨hold, hne⟩ := Admission.find?_dropSessions_iff.1 hs
    exact .kept hold id id fun hends => absurd hends.symm hne
  | purge now => exact .kept (Admission.find?_purge_iff.1 hs).1 id id nofun
  | sweep timeouts retain now =>
    -- A session outlives a sweep that ends its client's pairing, but nobody can answer it any more.
    refine .kept hs id id fun hends hp => ?_
    have h : (d.act (.sweep timeouts retain now)).registry.phase? s.client ∈ [none, some .disconnected] :=
      Registry.phase?_sweep_of_timedOut hends
    simp [hp] at h
  | maintain now =>
    obtain ⟨hpurged, hne⟩ := ((Admission.abandonAll_spec (d.maintain now).1.timedOut
      (d.admission.purge now).2).1 session s).1 hs
    exact .kept (Admission.find?_purge_iff.1 hpurged).1 id id fun hends => absurd hends hne
  | _ =>
    rw [admission_of_other rfl] at hs
    exact .kept hs id id nofun

/-- A session that no hello of its client has just opened was there before, but for its attempts. -/
theorem session_before (hs : (d.act a).admission.sessions.find? session = some s)
    (hg : ¬ a.Greets d s.client) : ∃ s₀, d.admission.sessions.find? session = some s₀ ∧
      s₀.client = s.client ∧ s₀.answer = s.answer ∧ s₀.openedAt = s.openedAt := by
  cases session_act hs with
  | @opened h peer now pin hresult heq =>
    cases hl : d.admission.lockedOut? peer now with
    | some n =>
      rw [hello_of_locked hl] at hresult
      cases hresult
    | none => exact absurd ⟨by rw [heq], hl⟩ hg
  | counted _ hdoor _ _ heq =>
    subst heq
    exact ⟨_, hdoor.session, rfl, rfl, rfl⟩
  | kept hold => exact ⟨s, hold, rfl, rfl, rfl⟩

end Desk

end SharedDesk
