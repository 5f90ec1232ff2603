import ClientGen.Graph.Dependencies
import ClientGen.Proofs.Graph.Overlap
import ClientGen.Proofs.Outcome

/-!
# What a question for dependencies finds

A search expands every schema that it meets once, and takes what has been answered before as it is. It
finds all names that one or more references lead to, each once, and it fails if the schema or one of
these is broken.
-/

namespace ClientGen.Graph

open Api Relation Schema

variable {d : Description} {g : Dependencies} {q q' q'' : Search} {path answer : List String}
  {root name target s t : String} {budget : Nat}

/-! ### Broken schemas -/

/-- The schema is missing, or a pointer inside of it leads to no schema table. -/
def Broken (d : Description) (s : String) : Prop :=
  s ∉ d.schemaNames ∨
    ∃ node, d.schema? s = some node ∧ ∃ pointer, node.Mentions pointer ∧ targetName? pointer = none

/-- No chain of references leads from the schema to a broken one. -/
def Resolvable (d : Description) (s : String) : Prop :=
  ∀ t, ReflTransGen (Leads d) s t → ¬ Broken d t

lemma Resolvable.of_leads (h : Resolvable d s) (hl : Leads d s t) : Resolvable d t :=
  fun u chain => h u (.head hl chain)

lemma of_soundTargets_eq_ok {targets : List String} (h : d.soundTargets s = .ok targets) :
    ¬ Broken d s ∧ targets = d.targets s := by
  unfold Description.soundTargets at h
  split at h
  · cases h
  · cases h
  · next node found strays =>
    refine ⟨?_, (Except.ok.inj h).symm⟩
    rintro (missing | ⟨node', found', pointer, hp, hn⟩)
    · exact missing (mem_schemaNames_iff.2 (by simp [found]))
    · obtain rfl : node = node' := Option.some.inj (found.symm.trans found')
      have stray : pointer ∈ d.strays s := by
        simp [Description.strays, found, mem_distinct, mem_pointers_iff, hp, hn]
      simp [strays] at stray

lemma broken_of_soundTargets_eq_error {e : SchemaError} (h : d.soundTargets s = .error e) :
    Broken d s := by
  unfold Description.soundTargets at h
  split at h
  · next missing =>
    exact .inl fun known => by simpa [missing] using mem_schemaNames_iff.1 known
  · next node p rest found strays =>
    have stray : p ∈ d.strays s := by simp [strays]
    simp only [Description.strays, found, mem_distinct, List.mem_filter] at stray
    exact .inr ⟨node, found, p, mem_pointers_iff.1 stray.1, by simpa using stray.2⟩
  · cases h

/-! ### Steps of a search -/

/-- The search with the schema `target` met and expanded. -/
def Search.expand (q : Search) (path : List String) (target : String) : Search :=
  { q.meet path target with expanded := q.expanded ++ [target] }

/-- The search with all schemas of an answer met. -/
def Search.meetAll (q : Search) (path answer : List String) : Search :=
  answer.foldl (fun q t => q.meet path t) q

@[simp] lemma Search.expanded_meet : (q.meet path target).expanded = q.expanded := rfl

@[simp] lemma Search.expanded_expand :
    (q.expand path target).expanded = q.expanded ++ [target] := rfl

lemma Search.mem_met_meet : s ∈ (q.meet path target).met ↔ s ∈ q.met ∨ s = target := mem_addNew

lemma Search.mem_met_expand : s ∈ (q.expand path target).met ↔ s ∈ q.met ∨ s = target := mem_addNew

@[simp] lemma Search.expanded_meetAll : (q.meetAll path answer).expanded = q.expanded := by
  induction answer generalizing q with
  | nil => rfl
  | cons t rest ih => exact ih (q := q.meet path t)

lemma Search.met_meetAll : (q.meetAll path answer).met = answer.foldl addNew q.met := by
  induction answer generalizing q with
  | nil => rfl
  | cons t rest ih => exact ih (q := q.meet path t)

lemma Search.mem_met_meetAll : s ∈ (q.meetAll path answer).met ↔ s ∈ q.met ∨ s ∈ answer := by
  rw [met_meetAll, mem_foldl_addNew]

/-- What the walk along one reference comes to. -/
lemma outcome_followTarget : outcome (g.followTarget budget path name target) q =
    if target ∈ path ∨ target ∈ q.expanded then (.ok (), q.meet path target)
    else match g.answers.lookup target with
      | some answer => (.ok (), (q.expand path target).meetAll path answer)
      | none =>
        if target ∈ g.description.schemaNames then
          outcome (g.follow budget (path ++ [target]) target) (q.expand path target)
        else (.error (.notFound target (some name)), q.expand path target) := by
  rw [Dependencies.followTarget.eq_def]
  dsimp only
  rw [outcome_modify_bind, outcome_get_bind]
  by_cases old : target ∈ path ∨ target ∈ q.expanded
  · rw [if_pos old, if_pos (by simpa using old)]
    rfl
  · rw [if_neg old, if_neg (by simpa using old), outcome_modify_bind]
    cases g.answers.lookup target with
    | some answer => rfl
    | none =>
      by_cases known : target ∈ g.description.schemaNames
      · have found := mem_schemaNames_iff.1 known
        rw [if_pos known, if_neg (by simpa [← Option.isNone_iff_eq_none] using found)]
        rfl
      · rw [if_neg known, if_pos (by simpa [mem_schemaNames_iff] using known)]
        rfl

/-- The walk along one reference ends at once if its target has been expanded or answered before, it
fails if the target is missing, and it goes on at the target otherwise. -/
lemma meets_followTarget {Q : Unit → Search → Prop} {E : SchemaError → Search → Prop}
    (old : target ∈ path ∨ target ∈ q.expanded → Q ⟨⟩ (q.meet path target))
    (answered : ∀ answer, g.answers.lookup target = some answer →
      Q ⟨⟩ ((q.expand path target).meetAll path answer))
    (missing : target ∉ g.description.schemaNames →
      E (.notFound target (some name)) (q.expand path target))
    (follow : target ∉ path → target ∉ q.expanded → target ∈ g.description.schemaNames →
      Meets (g.follow budget (path ++ [target]) target) (q.expand path target) Q E) :
    Meets (g.followTarget budget path name target) q Q E := by
  unfold Meets
  rw [outcome_followTarget]
  by_cases seen : target ∈ path ∨ target ∈ q.expanded
  · rw [if_pos seen]
    exact old seen
  · rw [if_neg seen]
    rw [not_or] at seen
    cases found : g.answers.lookup target with
    | some answer => exact answered answer found
    | none =>
      dsimp only
      by_cases known : target ∈ g.description.schemaNames
      · rw [if_pos known]
        exact follow seen.1 seen.2 known
      · rw [if_neg known]
        exact missing known

lemma meets_follow_succ {Q : Unit → Search → Prop} {E : SchemaError → Search → Prop}
    (broken : ∀ e, Broken g.description name → E e q)
    (sound : ¬ Broken g.description name → Meets
      (forM (g.description.targets name) (g.followTarget budget path name)) q Q E) :
    Meets (g.follow (budget + 1) path name) q Q E := by
  rw [Dependencies.follow.eq_def]
  apply meets_bind.2
  apply meets_liftM.2
  constructor
  · intro targets h
    obtain ⟨whole, rfl⟩ := of_soundTargets_eq_ok h
    exact sound whole
  · exact fun e h => broken e (broken_of_soundTargets_eq_error h)

/-! ### What a search keeps -/

/-- The names are those that one or more references lead to from a schema, each once, and no broken
schema is in the way. -/
structure IsAnswer (d : Description) (name : String) (answer : List String) : Prop where
  resolvable : Resolvable d name
  nodup : answer.Nodup
  mem_iff : ∀ t, t ∈ answer ↔ TransGen (Leads d) name t

/-- Whatever is remembered is right. -/
def Dependencies.Sound (g : Dependencies) : Prop :=
  ∀ name answer, g.answers.lookup name = some answer → IsAnswer g.description name answer

/-- A later search has met and expanded what an earlier one has. -/
structure Search.Grows (q q' : Search) : Prop where
  met : q.met ⊆ q'.met
  expanded : q.expanded ⊆ q'.expanded

lemma Search.Grows.refl (q : Search) : q.Grows q :=
  ⟨fun _ h => h, fun _ h => h⟩

lemma Search.Grows.trans (h : q.Grows q') (h' : q'.Grows q'') : q.Grows q'' :=
  ⟨List.Subset.trans h.met h'.met, List.Subset.trans h.expanded h'.expanded⟩

/-- The schema is not broken, and what it references is met and expanded. -/
def Search.Followed (d : Description) (q : Search) (s : String) : Prop :=
  ¬ Broken d s ∧ ∀ t ∈ d.targets s, t ∈ q.met ∧ t ∈ q.expanded

lemma Search.Followed.grows (h : q.Followed d s) (grown : q.Grows q') : q'.Followed d s :=
  ⟨h.1, fun t ht => ⟨grown.met (h.2 t ht).1, grown.expanded (h.2 t ht).2⟩⟩

/-- The schema has been followed, or an answer about it has been met. -/
def Search.Settled (g : Dependencies) (q : Search) (s : String) : Prop :=
  q.Followed g.description s ∨ ∃ answer, g.answers.lookup s = some answer ∧ answer ⊆ q.met

lemma Search.Settled.grows (h : q.Settled g s) (grown : q.Grows q') : q'.Settled g s :=
  h.imp (·.grows grown) fun ⟨answer, found, met⟩ => ⟨answer, found, List.Subset.trans met grown.met⟩

/-- What holds of a search for what `root` references while the schemas of `path` are open. -/
structure Search.Sound (g : Dependencies) (root : String) (path : List String) (q : Search) :
    Prop where
  nodup : q.met.Nodup
  met : ∀ t ∈ q.met, TransGen (Leads g.description) root t
  opened : path ⊆ q.expanded
  settled : ∀ t ∈ q.expanded, t ∈ path ∨ q.Settled g t

/-- Fewer schemas than the budget are left to be expanded. -/
def Search.Room (d : Description) (budget : Nat) (q : Search) : Prop :=
  (d.schemaNames.filter fun n => !q.expanded.contains n).length < budget

namespace Search

lemma grows_meet : q.Grows (q.meet path target) :=
  ⟨fun _ h => mem_met_meet.2 (.inl h), fun _ h => h⟩

lemma grows_expand : q.Grows (q.expand path target) :=
  ⟨fun _ h => mem_met_expand.2 (.inl h), by simp⟩

lemma grows_meetAll : q.Grows (q.meetAll path answer) :=
  ⟨fun _ h => mem_met_meetAll.2 (.inl h), by simp⟩

lemma Sound.meet (h : q.Sound g root path) (reached : TransGen (Leads g.description) root target) :
    (q.meet path target).Sound g root path where
  nodup := nodup_addNew target h.nodup
  met t ht := by
    rcases mem_met_meet.1 ht with ht | rfl
    · exact h.met t ht
    · exact reached
  opened := h.opened
  settled t ht := (h.settled t ht).imp_right (·.grows grows_meet)

/-- The target of a reference is open once it is expanded. -/
lemma Sound.expand (h : q.Sound g root path)
    (reached : TransGen (Leads g.description) root target) :
    (q.expand path target).Sound g root (path ++ [target]) where
  nodup := (h.meet reached).nodup
  met := (h.meet reached).met
  opened := List.append_subset.2
    ⟨List.Subset.trans h.opened grows_expand.expanded, by simp⟩
  settled t ht := by
    rcases List.mem_append.1 ht with ht | ht
    · exact (h.settled t ht).imp (List.mem_append_left _) (·.grows grows_expand)
    · exact .inl (List.mem_append_right _ ht)

/-- An open schema is closed once it is settled. -/
lemma Sound.close (h : q.Sound g root (path ++ [target])) (settled : q.Settled g target) :
    q.Sound g root path where
  nodup := h.nodup
  met := h.met
  opened := (List.append_subset.1 h.opened).1
  settled t ht := by
    rcases h.settled t ht with ht | ht
    · rcases List.mem_append.1 ht with ht | ht
      · exact .inl ht
      · exact .inr (List.mem_singleton.1 ht ▸ settled)
    · exact .inr ht

lemma Sound.meetAll {open_ : List String} (h : q.Sound g root open_)
    (reached : ∀ t ∈ answer, TransGen (Leads g.description) root t) :
    (q.meetAll path answer).Sound g root open_ where
  nodup := by
    rw [met_meetAll]
    exact nodup_foldl_addNew h.nodup
  met t ht := (mem_met_meetAll.1 ht).elim (h.met t) (reached t)
  opened := by simpa using h.opened
  settled t ht := (h.settled t (by simpa using ht)).imp_right (·.grows grows_meetAll)

lemma Room.of_grows (h : q.Room d budget) (grown : q.Grows q') : q'.Room d budget :=
  Graph.Room.of_subset h grown.expanded

lemma Room.expand (h : q.Room d (budget + 1)) (known : target ∈ d.schemaNames)
    (new : target ∉ q.expanded) : (q.expand path target).Room d budget :=
  Graph.Room.enter h known new

end Search

/-! ### What a search finds -/

mutual

/-- A search that is never out of budget follows a schema with all that it references, or it fails
because something is broken. -/
lemma follow_meets (sound : g.Sound) : ∀ (budget : Nat) (path : List String) (name : String) (q : Search),
    q.Sound g root path → q.Room g.description budget →
    ReflTransGen (Leads g.description) root name →
    Meets (g.follow budget path name) q
      (fun _ q' => q'.Sound g root path ∧ q.Grows q' ∧ q'.Followed g.description name)
      fun _ _ => ¬ Resolvable g.description root
  | 0, _, _, _, _, room, _ => absurd room (Nat.not_lt_zero _)
  | budget + 1, path, name, q, hq, room, reached => by
    apply meets_follow_succ
    · exact fun _ broken resolvable => resolvable name reached broken
    · intro whole
      have targets := meets_forM Search.Grows (fun t q => t ∈ q.met ∧ t ∈ q.expanded)
        Search.Grows.refl (fun h h' => h.trans h')
        (fun grown h => ⟨grown.met h.1, grown.expanded h.2⟩)
        (g.description.targets name) q ⟨hq, room⟩ fun target leads q hq =>
          followTarget_meets sound budget path name target q hq.1 hq.2 reached leads
      exact targets.imp (fun _ _ ⟨hq', grown, met⟩ => ⟨hq'.1, grown, whole, met⟩)
        fun _ _ he => he
termination_by budget => (budget, 0)

lemma followTarget_meets (sound : g.Sound) : ∀ (budget : Nat) (path : List String) (name target : String)
    (q : Search), q.Sound g root path → q.Room g.description (budget + 1) →
    ReflTransGen (Leads g.description) root name → Leads g.description name target →
    Meets (g.followTarget budget path name target) q
      (fun _ q' => (q'.Sound g root path ∧ q'.Room g.description (budget + 1)) ∧ q.Grows q' ∧
        target ∈ q'.met ∧ target ∈ q'.expanded)
      fun _ _ => ¬ Resolvable g.description root
  | budget, path, name, target, q, hq, room, reached, leads => by
    have chain : TransGen (Leads g.description) root target := .tail' reached leads
    apply meets_followTarget
    · intro old
      refine ⟨⟨hq.meet chain, room⟩, Search.grows_meet, Search.mem_met_meet.2 (.inr rfl), ?_⟩
      exact old.elim (fun here => hq.opened here) id
    · intro answer found
      have right := sound target answer found
      have opened : ((q.expand path target).meetAll path answer).Sound g root (path ++ [target]) :=
        (hq.expand chain).meetAll fun t ht => chain.trans ((right.mem_iff t).1 ht)
      have grown : q.Grows ((q.expand path target).meetAll path answer) :=
        Search.grows_expand.trans Search.grows_meetAll
      refine ⟨⟨opened.close (.inr ⟨answer, found, ?_⟩), room.of_grows grown⟩, grown, ?_, by simp⟩
      · exact fun t ht => Search.mem_met_meetAll.2 (.inr ht)
      · exact Search.grows_meetAll.met (Search.mem_met_expand.2 (.inr rfl))
    · intro missing resolvable
      exact resolvable target chain.to_reflTransGen (.inl missing)
    · intro outside new known
      apply (follow_meets sound budget (path ++ [target]) target (q.expand path target)
        (hq.expand chain) (room.expand known new) chain.to_reflTransGen).imp
      · rintro ⟨⟩ q' ⟨hq', grown, followed⟩
        have grown' := Search.grows_expand.trans grown
        refine ⟨⟨hq'.close (.inl followed), room.of_grows grown'⟩, grown', ?_, ?_⟩
        · exact grown.met (Search.mem_met_expand.2 (.inr rfl))
        · exact grown.expanded (by simp)
      · exact fun _ _ he => he
termination_by budget => (budget, 1)

end

namespace Search.Sound

/-- Once no schema is open, nothing broken can be reached from what has been expanded. -/
lemma resolvable (h : q.Sound g root []) (sound : g.Sound) (hs : s ∈ q.expanded) :
    Resolvable g.description s := by
  intro t chain
  induction chain using ReflTransGen.head_induction_on with
  | refl =>
    rcases (h.settled t hs).resolve_left (by simp) with followed | ⟨answer, found, -⟩
    · exact followed.1
    · exact (sound t answer found).resolvable t .refl
  | head leads chain ih =>
    rcases (h.settled _ hs).resolve_left (by simp) with followed | ⟨answer, found, -⟩
    · exact ih (followed.2 _ leads).2
    · exact (sound _ answer found).resolvable t (.head leads chain)

/-- Once no schema is open, all that references lead to from what has been expanded is met. -/
lemma complete (h : q.Sound g root []) (sound : g.Sound) (hs : s ∈ q.expanded)
    (chain : TransGen (Leads g.description) s t) : t ∈ q.met := by
  induction chain using TransGen.head_induction_on with
  | single leads =>
    rcases (h.settled _ hs).resolve_left (by simp) with followed | ⟨answer, found, met⟩
    · exact (followed.2 t leads).1
    · exact met (((sound _ answer found).mem_iff t).2 (.single leads))
  | head leads chain ih =>
    rcases (h.settled _ hs).resolve_left (by simp) with followed | ⟨answer, found, met⟩
    · exact ih (followed.2 _ leads).2
    · exact met (((sound _ answer found).mem_iff t).2 (.head leads chain))

end Search.Sound

namespace Dependencies

/-- A search before its first step. -/
def start (g : Dependencies) (name : String) : Search where
  met := []
  expanded := [name]
  circular := g.circular

/-- How the search for what a schema references ends. -/
def searched (g : Dependencies) (name : String) : Except SchemaError Unit × Search :=
  outcome (g.follow (g.description.schemas.length + 1) [name] name) (g.start name)

/-- The budget of a search is never used up. -/
lemma room_start (g : Dependencies) (name : String) :
    (g.start name).Room g.description (g.description.schemas.length + 1) := by
  have room := Room.start g.description.schemaNames (g.start name).expanded
  rwa [Description.schemaNames, List.length_map] at room

/-- A search finds the answer, or something is broken. -/
lemma search_meets (sound : g.Sound) (name : String) :
    Meets (g.follow (g.description.schemas.length + 1) [name] name) (g.start name)
      (fun _ q => IsAnswer g.description name q.met)
      fun _ _ => ¬ Resolvable g.description name := by
  have begun : (g.start name).Sound g name [name] :=
    ⟨List.nodup_nil, by simp [start], fun _ h => h, fun _ h => .inl h⟩
  apply (follow_meets sound _ [name] name _ begun (g.room_start name) .refl).imp
  · rintro ⟨⟩ q ⟨hq, -, followed⟩
    have opened : q.Sound g name ([] ++ [name]) := hq
    have whole : q.Sound g name [] := opened.close (.inl followed)
    have here : name ∈ q.expanded := hq.opened (by simp)
    exact ⟨whole.resolvable sound here, whole.nodup,
      fun t => ⟨whole.met t, whole.complete sound here⟩⟩
  · exact fun _ _ he => he

lemma of_eq_searched (new : g.answers.lookup name = none) :
    g.of name = match g.searched name with
      | (.ok (), q) => (.ok q.met,
        { g with circular := q.circular, answers := g.answers ++ [(name, q.met)] })
      | (.error e, q) => (.error e, { g with circular := q.circular }) := by
  unfold Dependencies.of
  rw [new]
  rfl

/-- A question has been answered before, or its search ends with an answer that is remembered, or with
an error. -/
lemma of_cases (g : Dependencies) (name : String) :
    (∃ answer, g.answers.lookup name = some answer ∧ g.of name = (.ok answer, g)) ∨
    (∃ q, g.searched name = (.ok (), q) ∧ g.of name = (.ok q.met,
      { g with circular := q.circular, answers := g.answers ++ [(name, q.met)] })) ∨
    ∃ e q, g.answers.lookup name = none ∧ g.searched name = (.error e, q) ∧
      g.of name = (.error e, { g with circular := q.circular }) := by
  cases found : g.answers.lookup name with
  | some answer =>
    refine .inl ⟨answer, rfl, ?_⟩
    unfold Dependencies.of
    rw [found]
  | none =>
    rw [of_eq_searched found]
    rcases g.searched name with ⟨e | ⟨⟩, q⟩
    · exact .inr (.inr ⟨e, q, rfl, rfl, rfl⟩)
    · exact .inr (.inl ⟨q, rfl, rfl⟩)

lemma description_of : (g.of name).2.description = g.description := by
  rcases g.of_cases name with ⟨_, -, h⟩ | ⟨_, -, h⟩ | ⟨_, _, -, -, h⟩ <;> rw [h]

/-- An answer is right. -/
lemma isAnswer_of (sound : g.Sound) (h : (g.of name).1 = .ok answer) :
    IsAnswer g.description name answer := by
  rcases g.of_cases name with ⟨old, found, same⟩ | ⟨q, ended, same⟩ | ⟨e, q, -, -, same⟩
  · rw [same] at h
    obtain rfl := Except.ok.inj h
    exact sound name old found
  · rw [same] at h
    obtain rfl := Except.ok.inj h
    exact (search_meets sound name).of_ok ended
  · rw [same] at h
    cases h

/-- A failure has a cause, and nothing that is remembered is lost or changed. -/
lemma of_failed (sound : g.Sound) {e : SchemaError} (h : (g.of name).1 = .error e) :
    ¬ Resolvable g.description name ∧ (g.of name).2.answers = g.answers := by
  rcases g.of_cases name with ⟨old, -, same⟩ | ⟨q, -, same⟩ | ⟨e, q, -, ended, same⟩
  · rw [same] at h
    cases h
  · rw [same] at h
    cases h
  · rw [same]
    exact ⟨(search_meets sound name).of_error ended, rfl⟩

/-- What is remembered stays right. -/
lemma sound_of (sound : g.Sound) : (g.of name).2.Sound := by
  rcases g.of_cases name with ⟨old, -, same⟩ | ⟨q, ended, same⟩ | ⟨e, q, -, -, same⟩
  · rw [same]
    exact sound
  · rw [same]
    intro s answer found
    rw [List.lookup_append, Option.or_eq_some_iff] at found
    rcases found with found | ⟨-, found⟩
    · exact sound s answer found
    · by_cases here : s = name
      · subst here
        simp only [List.lookup_cons_self, Option.some.injEq] at found
        exact found ▸ (search_meets sound s).of_ok ended
      · have other : (s == name) = false := by simpa using here
        simp [List.lookup_cons, other] at found
  · rw [same]
    exact sound

end Dependencies

end ClientGen.Graph
