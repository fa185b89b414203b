import SharedDesk.Proofs.Layout.Validation
/-!
# Which fault is reported

A candidate can break several rules at once. `Verdict` says which breach is reported: the rules in their order, and of
the entries that break the first broken rule the one that comes first. `reports_first_fault`: validation answers exactly
that. For the way to the master it relies on the search, which ends with every screen queued once at most.
-/

namespace SharedDesk.Layout

/-! ## The first of the entries -/

/-- The entry `p` at place `i` is `bad`, and none before it is. -/
structure FirstAt (bad : Nat → Placement → Prop) (cs : List Placement) (i : Nat) (p : Placement) : Prop where
  entry : cs[i]? = some p
  isBad : bad i p
  before : ∀ j q, j < i → cs[j]? = some q → ¬ bad j q

/-- No entry is `bad`. -/
def Free (bad : Nat → Placement → Prop) (cs : List Placement) : Prop := ∀ i p, cs[i]? = some p → ¬ bad i p

variable {bad : Nat → Placement → Prop} {master : Region} {known : Uuid → Bool} {seen : List Uuid}
  {cs rest : List Placement} {p q : Placement} {i : Nat} {a b : Screen} {fault : LayoutFault}

theorem free_cons : Free bad (p :: rest) ↔ ¬ bad 0 p ∧ Free (fun i => bad (i + 1)) rest := by
  constructor
  · exact fun h => ⟨h 0 p rfl, fun i q hq => h (i + 1) q hq⟩
  · rintro ⟨hp, hrest⟩ i q hq
    cases i with
    | zero => exact Option.some.inj hq ▸ hp
    | succ i => exact hrest i q hq

theorem firstAt_zero : FirstAt bad (p :: rest) 0 q ↔ q = p ∧ bad 0 p := by
  constructor
  · intro h
    obtain rfl := Option.some.inj h.entry
    exact ⟨rfl, h.isBad⟩
  · rintro ⟨rfl, hbad⟩
    exact ⟨rfl, hbad, nofun⟩

theorem firstAt_succ :
    FirstAt bad (p :: rest) (i + 1) q ↔ ¬ bad 0 p ∧ FirstAt (fun i => bad (i + 1)) rest i q := by
  constructor
  · rintro ⟨hentry, hbad, hbefore⟩
    exact ⟨hbefore 0 p (Nat.zero_lt_succ i) rfl, hentry, hbad,
      fun j r hj hr => hbefore (j + 1) r (Nat.succ_lt_succ hj) hr⟩
  · rintro ⟨hp, hentry, hbad, hbefore⟩
    refine ⟨hentry, hbad, fun j r hj hr => ?_⟩
    cases j with
    | zero => exact Option.some.inj hr ▸ hp
    | succ j => exact hbefore j r (Nat.lt_of_succ_lt_succ hj) hr

/-- The first bad entry is the head, or else the first one of the rest. -/
theorem exists_firstAt_cons {P : Nat → Placement → Prop} : (∃ i q, FirstAt bad (p :: rest) i q ∧ P i q) ↔
    bad 0 p ∧ P 0 p ∨ ¬ bad 0 p ∧ ∃ i q, FirstAt (fun i => bad (i + 1)) rest i q ∧ P (i + 1) q := by
  constructor
  · rintro ⟨i, q, hfirst, hP⟩
    cases i with
    | zero =>
      obtain ⟨rfl, hbad⟩ := firstAt_zero.1 hfirst
      exact .inl ⟨hbad, hP⟩
    | succ i =>
      obtain ⟨hgood, hrest⟩ := firstAt_succ.1 hfirst
      exact .inr ⟨hgood, i, q, hrest, hP⟩
  · rintro (⟨hbad, hP⟩ | ⟨hgood, i, q, hrest, hP⟩)
    · exact ⟨0, p, firstAt_zero.2 ⟨rfl, hbad⟩, hP⟩
    · exact ⟨i + 1, q, firstAt_succ.2 ⟨hgood, hrest⟩, hP⟩

theorem FirstAt.congr {bad' : Nat → Placement → Prop} (hiff : ∀ j q, cs[j]? = some q → (bad j q ↔ bad' j q))
    (h : FirstAt bad cs i p) : FirstAt bad' cs i p where
  entry := h.entry
  isBad := (hiff i p h.entry).1 h.isBad
  before j q hj hq hbad := h.before j q hj hq ((hiff j q hq).2 hbad)

theorem firstAt_congr {bad' : Nat → Placement → Prop} (h : ∀ j q, cs[j]? = some q → (bad j q ↔ bad' j q)) :
    FirstAt bad cs i p ↔ FirstAt bad' cs i p :=
  ⟨.congr h, .congr fun j q hq => (h j q hq).symm⟩

theorem free_congr {bad' : Nat → Placement → Prop} (h : ∀ j q, cs[j]? = some q → (bad j q ↔ bad' j q)) :
    Free bad cs ↔ Free bad' cs :=
  forall₂_congr fun j q => imp_congr_right fun hq => not_congr (h j q hq)

theorem find?_eq_some_iff {f : Placement → Bool} :
    cs.find? f = some p ↔ ∃ i, FirstAt (fun _ q => f q = true) cs i p := by
  rw [List.find?_eq_some_iff_getElem]
  constructor
  · rintro ⟨hf, i, hi, hentry, hbefore⟩
    refine ⟨i, List.getElem?_eq_some_iff.2 ⟨hi, hentry⟩, hf, fun j q hj hq => ?_⟩
    obtain ⟨hlt, rfl⟩ := List.getElem?_eq_some_iff.1 hq
    simpa using hbefore j hj
  · rintro ⟨i, hentry, hf, hbefore⟩
    obtain ⟨hi, heq⟩ := List.getElem?_eq_some_iff.1 hentry
    exact ⟨hf, i, hi, heq, fun j hj => by simpa using hbefore j _ hj (List.getElem?_eq_getElem _)⟩

theorem find?_eq_none_iff {f : Placement → Bool} :
    cs.find? f = none ↔ Free (fun _ q => f q = true) cs := by
  rw [List.find?_eq_none]
  constructor
  · exact fun h i p hp => h p (List.mem_of_getElem? hp)
  · intro h p hp
    obtain ⟨i, hi⟩ := List.mem_iff_getElem?.1 hp
    exact h i p hi

/-! ## The rules, entry by entry -/

/-- The entry at place `i` overlaps the master or a later entry. -/
def Clashes (master : Region) (cs : List Placement) (i : Nat) (p : Placement) : Prop :=
  p.2.overlaps master = true ∨ ∃ q ∈ cs.drop (i + 1), p.2.overlaps q.2 = true

/-- The client of the entry at place `i` is not known, is one of those `seen` before, or has an earlier entry. -/
def Misnamed (known : Uuid → Bool) (seen : List Uuid) (cs : List Placement) (i : Nat) (p : Placement) : Prop :=
  known p.1 = false ∨ p.1 ∈ seen ++ (cs.take i).map Prod.fst

/-- The pair that is named for the overlapping entry at place `i`: the master comes before later entries. -/
inductive Pair (master : Region) (cs : List Placement) (i : Nat) (p : Placement) : Screen → Screen → Prop
  | withMaster : p.2.overlaps master = true → Pair master cs i p .master (.client p.1)
  | withLater {j : Nat} {q : Placement} : p.2.overlaps master = false →
      FirstAt (fun k r => i < k ∧ p.2.overlaps r.2 = true) cs j q → Pair master cs i p (.client p.1) (.client q.1)

theorem pair_succ : Pair master (p :: rest) (i + 1) q a b ↔ Pair master rest i q a b := by
  have hshift : ∀ j r, FirstAt (fun k r => i + 1 < k ∧ q.2.overlaps r.2 = true) (p :: rest) (j + 1) r ↔
      FirstAt (fun k r => i < k ∧ q.2.overlaps r.2 = true) rest j r := fun j r => by
    rw [firstAt_succ]
    simp
  constructor
  · rintro (h | @⟨j, r, hclear, hfirst⟩)
    · exact .withMaster h
    · cases j with
      | zero => exact absurd hfirst.isBad.1 (Nat.not_lt_zero _)
      | succ j => exact .withLater hclear ((hshift j r).1 hfirst)
  · rintro (h | @⟨j, r, hclear, hfirst⟩)
    · exact .withMaster h
    · exact .withLater hclear ((hshift j r).2 hfirst)

/-- The pair that is named for the head of a list. -/
theorem pair_zero : Pair master (p :: rest) 0 p a b ↔
    p.2.overlaps master = true ∧ (.master, .client p.1) = (a, b) ∨
      p.2.overlaps master = false ∧ ∃ q, (rest.find? fun r => p.2.overlaps r.2) = some q ∧
        (.client p.1, .client q.1) = (a, b) := by
  have hlater : ∀ j q, FirstAt (fun k r => 0 < k ∧ p.2.overlaps r.2 = true) (p :: rest) (j + 1) q ↔
      FirstAt (fun _ r => p.2.overlaps r.2 = true) rest j q := fun j q => by
    rw [firstAt_succ]
    simp
  constructor
  · rintro (h | @⟨j, q, hclear, hfirst⟩)
    · exact .inl ⟨h, rfl⟩
    · cases j with
      | zero => exact absurd hfirst.isBad.1 (Nat.not_lt_zero _)
      | succ j => exact .inr ⟨hclear, q, find?_eq_some_iff.2 ⟨j, (hlater j q).1 hfirst⟩, rfl⟩
  · rintro (⟨h, heq⟩ | ⟨hclear, q, hfind, heq⟩)
    · cases heq
      exact .withMaster h
    · cases heq
      obtain ⟨j, hfirst⟩ := find?_eq_some_iff.1 hfind
      exact .withLater hclear ((hlater j q).2 hfirst)

theorem clashes_zero : Clashes master (p :: rest) 0 p ↔
    p.2.overlaps master = true ∨ (rest.find? fun r => p.2.overlaps r.2).isSome = true := by
  rw [List.find?_isSome]
  rfl

theorem firstOverlap?_eq_some_iff : firstOverlap? master cs = some (a, b) ↔
    ∃ i p, FirstAt (Clashes master cs) cs i p ∧ Pair master cs i p a b := by
  induction cs with
  | nil => exact ⟨nofun, fun ⟨i, p, hfirst, _⟩ => nomatch hfirst.entry⟩
  | cons p rest ih =>
    have hrest : (fun i => Clashes master (p :: rest) (i + 1)) = Clashes master rest := rfl
    rw [firstOverlap?, exists_firstAt_cons, clashes_zero, pair_zero, hrest]
    simp only [pair_succ]
    cases hm : p.2.overlaps master with
    | true => simp
    | false =>
      cases hf : rest.find? fun r => p.2.overlaps r.2 with
      | some q => simp
      | none => simpa using ih

theorem firstOverlap?_eq_none_iff_free : firstOverlap? master cs = none ↔ Free (Clashes master cs) cs := by
  induction cs with
  | nil => exact ⟨fun _ => nofun, fun _ => rfl⟩
  | cons p rest ih =>
    have hrest : (fun i => Clashes master (p :: rest) (i + 1)) = Clashes master rest := rfl
    rw [firstOverlap?, free_cons, clashes_zero, hrest, ← ih]
    cases hm : p.2.overlaps master with
    | true => simp
    | false => cases hf : rest.find? fun r => p.2.overlaps r.2 <;> simp

/-- A misnamed entry is reported as not known, and as repeated if it is known. -/
def misnaming (known : Uuid → Bool) (p : Placement) : LayoutFault :=
  if known p.1 then .duplicateClient p.1 else .unknownClient p.1

theorem misnamed_zero : Misnamed known seen (p :: rest) 0 p ↔ known p.1 = false ∨ p.1 ∈ seen := by
  simp [Misnamed]

theorem misnamed_succ (known : Uuid → Bool) (seen : List Uuid) (p : Placement) (rest : List Placement) :
    (fun i => Misnamed known seen (p :: rest) (i + 1)) = Misnamed known (p.1 :: seen) rest := by
  funext i q
  simp only [Misnamed, List.take_succ_cons, List.map_cons, List.mem_append, List.mem_cons, eq_iff_iff]
  tauto

theorem firstMisnamed?_eq_some_iff : firstMisnamed? known seen cs = some fault ↔
    ∃ i p, FirstAt (Misnamed known seen cs) cs i p ∧ misnaming known p = fault := by
  induction cs generalizing seen with
  | nil => exact ⟨nofun, fun ⟨i, p, hfirst, _⟩ => nomatch hfirst.entry⟩
  | cons p rest ih =>
    rw [firstMisnamed?, exists_firstAt_cons, misnamed_zero, misnamed_succ, ← ih]
    by_cases hk : known p.1 = true <;> by_cases hs : p.1 ∈ seen <;> simp [misnaming, hk, hs]

theorem firstMisnamed?_eq_none_iff_free :
    firstMisnamed? known seen cs = none ↔ Free (Misnamed known seen cs) cs := by
  induction cs generalizing seen with
  | nil => exact ⟨fun _ => nofun, fun _ => rfl⟩
  | cons p rest ih =>
    rw [firstMisnamed?, free_cons, misnamed_zero, misnamed_succ, ← ih]
    by_cases hk : known p.1 = true <;> by_cases hs : p.1 ∈ seen <;> simp [hk, hs]

theorem head?_unreachable (master : Region) (cs : List Placement) : (unreachable master cs).head? =
    cs.find? fun p => !p.2.touches master && (searched master cs).all fun q => !p.2.touches q.2 := by
  rw [← List.head?_filter, ← unreachable_eq_filter]

/-- What the search tests an entry for is whether no chain of touching screens leads from it to the master. -/
theorem not_linked_iff (h : p ∈ cs) : ¬ Linked Touching master cs p ↔
    (!p.2.touches master && (searched master cs).all fun q => !p.2.touches q.2) = true := by
  have hmem := mem_unreachable_iff master cs p
  rw [unreachable_eq_filter, List.mem_filter] at hmem
  exact ⟨fun hnot => (hmem.2 ⟨h, hnot⟩).2, fun hfar => (hmem.1 ⟨h, hfar⟩).2⟩

theorem head?_unreachable_eq_some_iff : (unreachable master cs).head? = some p ↔
    ∃ i, FirstAt (fun _ q => ¬ Linked Touching master cs q) cs i p := by
  rw [head?_unreachable, find?_eq_some_iff]
  exact exists_congr fun i => firstAt_congr fun j q hq => (not_linked_iff (List.mem_of_getElem? hq)).symm

theorem unreachable_eq_nil_iff : unreachable master cs = [] ↔ Free (fun _ q => ¬ Linked Touching master cs q) cs := by
  rw [← List.head?_eq_none_iff, head?_unreachable, find?_eq_none_iff]
  exact free_congr fun j q hq => (not_linked_iff (List.mem_of_getElem? hq)).symm

theorem find?_hasNoArea_eq_some_iff : (cs.find? fun p => p.2.hasNoArea) = some p ↔
    ∃ i, FirstAt (fun _ q => q.2.width = 0 ∨ q.2.height = 0) cs i p := by
  rw [find?_eq_some_iff]
  exact exists_congr fun i => firstAt_congr fun j q _ => by simp [Region.hasNoArea]

theorem find?_hasNoArea_eq_none_iff : (cs.find? fun p => p.2.hasNoArea) = none ↔
    Free (fun _ q => q.2.width = 0 ∨ q.2.height = 0) cs := by
  rw [find?_eq_none_iff]
  exact free_congr fun j q _ => by simp [Region.hasNoArea]

/-! ## The verdict -/

/-- What is reported of a candidate: the first pair of screens that overlap; if there is none, the first misnamed
entry; if there is none, the first screen without area; if there is none, the first screen without a way to the
master; and otherwise no fault. -/
inductive Verdict (master : Region) (known : Uuid → Bool) (cs : List Placement) : Except LayoutFault Unit → Prop
  | overlap {i : Nat} {p : Placement} {a b : Screen} : FirstAt (Clashes master cs) cs i p → Pair master cs i p a b →
      Verdict master known cs (.error (.overlap a b))
  | unknownClient {i : Nat} {p : Placement} : Free (Clashes master cs) cs → FirstAt (Misnamed known [] cs) cs i p →
      known p.1 = false → Verdict master known cs (.error (.unknownClient p.1))
  | duplicateClient {i : Nat} {p : Placement} : Free (Clashes master cs) cs → FirstAt (Misnamed known [] cs) cs i p →
      known p.1 = true → Verdict master known cs (.error (.duplicateClient p.1))
  | noArea {i : Nat} {p : Placement} : Free (Clashes master cs) cs → Free (Misnamed known [] cs) cs →
      FirstAt (fun _ q => q.2.width = 0 ∨ q.2.height = 0) cs i p → Verdict master known cs (.error (.noArea p.1))
  | unreachable {i : Nat} {p : Placement} : Free (Clashes master cs) cs → Free (Misnamed known [] cs) cs →
      Free (fun _ q => q.2.width = 0 ∨ q.2.height = 0) cs →
      FirstAt (fun _ q => ¬ Linked Touching master cs q) cs i p → Verdict master known cs (.error (.unreachable p.1))
  | accepted : Free (Clashes master cs) cs → Free (Misnamed known [] cs) cs →
      Free (fun _ q => q.2.width = 0 ∨ q.2.height = 0) cs → Free (fun _ q => ¬ Linked Touching master cs q) cs →
      Verdict master known cs (.ok ())

theorem verdict_validate (l : Layout) (known : Uuid → Bool) (cs : List Placement) :
    Verdict l.master known cs (l.validate known cs) := by
  unfold validate
  split
  · rename_i a b hoverlap
    obtain ⟨i, p, hfirst, hpair⟩ := firstOverlap?_eq_some_iff.1 hoverlap
    exact .overlap hfirst hpair
  rename_i hoverlap
  have hclear := firstOverlap?_eq_none_iff_free.1 hoverlap
  split
  · rename_i fault hmisnamed
    obtain ⟨i, p, hfirst, rfl⟩ := firstMisnamed?_eq_some_iff.1 hmisnamed
    unfold misnaming
    split
    · rename_i hknown
      exact .duplicateClient hclear hfirst hknown
    · rename_i hknown
      exact .unknownClient hclear hfirst (by simpa using hknown)
  rename_i hmisnamed
  have hnamed := firstMisnamed?_eq_none_iff_free.1 hmisnamed
  split
  · rename_i p hempty
    obtain ⟨i, hfirst⟩ := find?_hasNoArea_eq_some_iff.1 hempty
    exact .noArea hclear hnamed hfirst
  rename_i hempty
  have harea := find?_hasNoArea_eq_none_iff.1 hempty
  split
  · rename_i p _ hisland
    obtain ⟨i, hfirst⟩ := head?_unreachable_eq_some_iff.1 (congrArg List.head? hisland)
    exact .unreachable hclear hnamed harea hfirst
  · rename_i hisland
    exact .accepted hclear hnamed harea (unreachable_eq_nil_iff.1 hisland)

theorem Verdict.validate_eq {l : Layout} {v : Except LayoutFault Unit} (h : Verdict l.master known cs v) :
    l.validate known cs = v := by
  unfold validate
  cases h with
  | overlap hfirst hpair => rw [firstOverlap?_eq_some_iff.2 ⟨_, _, hfirst, hpair⟩]
  | unknownClient hclear hfirst hknown =>
    rw [firstOverlap?_eq_none_iff_free.2 hclear, firstMisnamed?_eq_some_iff.2 ⟨_, _, hfirst, rfl⟩]
    simp [misnaming, hknown]
  | duplicateClient hclear hfirst hknown =>
    rw [firstOverlap?_eq_none_iff_free.2 hclear, firstMisnamed?_eq_some_iff.2 ⟨_, _, hfirst, rfl⟩]
    simp [misnaming, hknown]
  | noArea hclear hnamed hfirst =>
    rw [firstOverlap?_eq_none_iff_free.2 hclear, firstMisnamed?_eq_none_iff_free.2 hnamed,
      find?_hasNoArea_eq_some_iff.2 ⟨_, hfirst⟩]
  | unreachable hclear hnamed harea hfirst =>
    obtain ⟨islands, hislands⟩ := List.head?_eq_some_iff.1 (head?_unreachable_eq_some_iff.2 ⟨_, hfirst⟩)
    rw [firstOverlap?_eq_none_iff_free.2 hclear, firstMisnamed?_eq_none_iff_free.2 hnamed,
      find?_hasNoArea_eq_none_iff.2 harea, hislands]
  | accepted hclear hnamed harea hlinked =>
    rw [firstOverlap?_eq_none_iff_free.2 hclear, firstMisnamed?_eq_none_iff_free.2 hnamed,
      find?_hasNoArea_eq_none_iff.2 harea, unreachable_eq_nil_iff.2 hlinked]

/-- Some entry overlaps the master or a later entry as soon as one overlaps the master or any other. -/
theorem not_free_clashes_iff : ¬ Free (Clashes master cs) cs ↔ ∃ (i : Nat) (p : Placement), cs[i]? = some p ∧
    (p.2.overlaps master = true ∨ ∃ (j : Nat) (q : Placement), j ≠ i ∧ cs[j]? = some q ∧ p.2.overlaps q.2 = true) := by
  have hlater : ∀ {i j : Nat} {q : Placement}, i < j → cs[j]? = some q → q ∈ cs.drop (i + 1) := by
    intro i j q hij hq
    refine List.mem_of_getElem? (i := j - (i + 1)) ?_
    rw [List.getElem?_drop, Nat.add_sub_cancel' hij, hq]
  simp only [Free, not_forall, not_not, exists_prop]
  constructor
  · rintro ⟨i, p, hp, hmaster | ⟨q, hq, hoverlap⟩⟩
    · exact ⟨i, p, hp, .inl hmaster⟩
    · obtain ⟨k, hk⟩ := List.mem_iff_getElem?.1 hq
      rw [List.getElem?_drop] at hk
      exact ⟨i, p, hp, .inr ⟨i + 1 + k, q, by omega, hk, hoverlap⟩⟩
  · rintro ⟨i, p, hp, hmaster | ⟨j, q, hne, hq, hoverlap⟩⟩
    · exact ⟨i, p, hp, .inl hmaster⟩
    · rcases Nat.lt_or_gt_of_ne hne with hlt | hgt
      · exact ⟨j, q, hq, .inr ⟨p, hlater hlt hp, by rwa [Region.overlaps_comm]⟩⟩
      · exact ⟨i, p, hp, .inr ⟨q, hlater hgt hq, hoverlap⟩⟩

theorem exists_overlap_iff (l : Layout) (known : Uuid → Bool) (cs : List Placement) :
    (∃ a b, l.validate known cs = .error (.overlap a b)) ↔ ¬ Free (Clashes l.master cs) cs := by
  constructor
  · rintro ⟨a, b, hreport⟩ hclear
    have hverdict := verdict_validate l known cs
    rw [hreport] at hverdict
    cases hverdict with
    | overlap hfirst _ => exact hclear _ _ hfirst.entry hfirst.isBad
  · intro hclash
    rw [← firstOverlap?_eq_none_iff_free] at hclash
    obtain ⟨⟨a, b⟩, hfirst⟩ := Option.ne_none_iff_exists'.1 hclash
    exact ⟨a, b, by rw [validate, hfirst]⟩

/-- Validation reports the first breach of the first broken rule, and nothing exactly if there is none. So it reports an
overlap exactly if some entry overlaps the master or another entry. The search for the screens out of reach ends with
no screen waiting, and until then it has queued each screen once at most: those that it has left and those out of reach
are together the entries of the candidate. -/
theorem reports_first_fault (l : Layout) (known : Uuid → Bool) (cs : List Placement) :
    (∀ v, l.validate known cs = v ↔ Verdict l.master known cs v) ∧
    ((∃ a b, l.validate known cs = .error (.overlap a b)) ↔
      ∃ (i : Nat) (p : Placement), cs[i]? = some p ∧ (p.2.overlaps l.master = true ∨
        ∃ (j : Nat) (q : Placement), j ≠ i ∧ cs[j]? = some q ∧ p.2.overlaps q.2 = true)) ∧
    leftWaiting l.master cs = [] ∧ (searched l.master cs ++ unreachable l.master cs).Perm cs := by
  refine ⟨fun v => ⟨?_, Verdict.validate_eq⟩, ?_, leftWaiting_eq_nil .., search_perm ..⟩
  · rintro rfl
    exact verdict_validate l known cs
  · rw [exists_overlap_iff, not_free_clashes_iff]

/-- A screen out of reach comes first, but the client that is listed twice is reported. -/
example : (ofMaster 1920 1080).validate (fun _ => true) [(.ofNat 1, ⟨3840, 0, 10, 10⟩), (.ofNat 2, ⟨1920, 0, 10, 10⟩),
    (.ofNat 2, ⟨1920, 10, 0, 10⟩)] = .error (.duplicateClient (.ofNat 2)) := by decide

end SharedDesk.Layout
