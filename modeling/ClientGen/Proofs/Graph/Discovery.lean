import ClientGen.Proofs.Graph.Questions

/-!
# The order of discovery

A walk with a list of names still to be met finds the same schemas as a recursive one that goes from
each schema into its references at once, and it finds them in the same order. So does a search for
the dependencies of a schema, as long as nothing is remembered.
-/

namespace ClientGen.Graph

open Api Relation

/-- What a recursive walk finds from the names, when it has found those of `seen` before: from a
known schema that is new it goes to all that this references before it goes to the next name. -/
inductive DepthFirst (d : Description) : List String → List String → List String → Prop
  | nil {seen} : DepthFirst d seen [] []
  | skip {seen name rest found} : (name ∈ d.schemaNames → name ∈ seen) →
      DepthFirst d seen rest found → DepthFirst d seen (name :: rest) found
  | visit {seen name rest below after} : name ∈ d.schemaNames → name ∉ seen →
      DepthFirst d (seen ++ [name]) (d.targets name) below →
      DepthFirst d (seen ++ name :: below) rest after →
      DepthFirst d seen (name :: rest) (name :: (below ++ after))

variable {d : Description} {g : Dependencies} {q q' q'' : Search}
  {seen names rest found found' path : List String} {name target root s t : String}
  {budget : Nat}

namespace DepthFirst

/-- A recursive walk finds one list only. -/
lemma unique (h : DepthFirst d seen names found) (h' : DepthFirst d seen names found') :
    found = found' := by
  induction h generalizing found' with
  | nil =>
    cases h'
    rfl
  | skip old _ ih =>
    cases h' with
    | skip _ h' => exact ih h'
    | visit known new _ _ => exact absurd (old known) new
  | visit known new _ _ ihBelow ihAfter =>
    cases h' with
    | skip old _ => exact absurd (old known) new
    | visit _ _ below after =>
      obtain rfl := ihBelow below
      obtain rfl := ihAfter after
      rfl

/-- What is found is new, and each schema is found once. -/
lemma nodup (h : DepthFirst d seen names found) : found.Nodup ∧ ∀ s ∈ found, s ∉ seen := by
  induction h with
  | nil => simp
  | skip _ _ ih => exact ih
  | visit _ new _ _ ihBelow ihAfter =>
    simp only [List.mem_append, List.mem_cons, List.not_mem_nil, or_false, not_or]
      at ihBelow ihAfter
    constructor
    · rw [List.nodup_cons, List.mem_append, not_or]
      refine ⟨⟨fun h => (ihBelow.2 _ h).2 rfl, fun h => (ihAfter.2 _ h).2.1 rfl⟩, ?_⟩
      exact ihBelow.1.append ihAfter.1 fun s hb ha => (ihAfter.2 s ha).2.2 hb
    · intro s hs
      rcases List.mem_cons.1 hs with rfl | hs
      · exact new
      · exact (List.mem_append.1 hs).elim (fun h => (ihBelow.2 s h).1) fun h => (ihAfter.2 s h).1

lemma append (h : DepthFirst d seen names found) (h' : DepthFirst d (seen ++ found) rest found') :
    DepthFirst d seen (names ++ rest) (found ++ found') := by
  induction h with
  | nil => simpa using h'
  | skip old _ ih => exact .skip old (ih h')
  | visit known new below _ _ ihAfter =>
    rw [List.cons_append, List.cons_append, List.append_assoc]
    exact .visit known new below (ihAfter (by simpa using h'))

/-- A walk over two lists is one over the first and then one over the second. -/
lemma exists_append (h : DepthFirst d seen (names ++ rest) found) : ∃ first last,
    found = first ++ last ∧ DepthFirst d seen names first ∧
      DepthFirst d (seen ++ first) rest last := by
  induction names generalizing seen found with
  | nil => exact ⟨[], found, rfl, .nil, by simpa using h⟩
  | cons name names ih =>
    cases h with
    | skip old h =>
      obtain ⟨first, last, rfl, hFirst, hLast⟩ := ih h
      exact ⟨first, last, rfl, .skip old hFirst, hLast⟩
    | @visit _ _ _ below _ known new hBelow h =>
      obtain ⟨first, last, rfl, hFirst, hLast⟩ := ih h
      exact ⟨name :: (below ++ first), last, by simp, .visit known new hBelow hFirst,
        by simpa using hLast⟩

/-- Names that have been found before may be left out. -/
lemma of_filter {p : String → Bool} : ∀ {names : List String} {seen found : List String},
    (∀ s, p s = false → s ∈ seen) → DepthFirst d seen (names.filter p) found →
    DepthFirst d seen names found
  | [], _, _, _, h => h
  | name :: names, seen, found, old, h => by
    by_cases kept : p name = true
    · rw [List.filter_cons_of_pos kept] at h
      cases h with
      | skip needless h => exact .skip needless (of_filter old h)
      | visit known new hBelow h =>
        exact .visit known new hBelow (of_filter (fun s hs => List.mem_append_left _ (old s hs)) h)
    · rw [List.filter_cons_of_neg kept] at h
      exact .skip (fun _ => old name (by simpa using kept)) (of_filter old h)

end DepthFirst

/-- The walk with a list of names to be met finds what a recursive one finds. -/
lemma depthFirst_visited (d : Description) (seen work : List String) :
    DepthFirst d seen work (visited d seen work) := by
  induction seen, work using walk.induct d with
  | case1 seen =>
    rw [visited_nil]
    exact .nil
  | case2 seen name work old ih =>
    rw [visited_seen old]
    exact .skip (fun _ => old) ih
  | case3 seen name work new known seen' ih =>
    rw [visited_known new known]
    obtain ⟨below, after, found, hBelow, hAfter⟩ := ih.exists_append
    change visited d (seen ++ [name]) _ = _ at found
    rw [found]
    refine .visit known new (hBelow.of_filter fun s hs => ?_) (by simpa [seen'] using hAfter)
    simpa only [Bool.not_eq_false', List.contains_iff_mem] using hs
  | case4 seen name work new missing ih =>
    rw [visited_missing new missing]
    exact .skip (fun known => absurd known missing) ih

/-! ### Errors of a closure -/

/-- An unknown name is met if it is to be met or referenced by a schema that is met. -/
lemma missing_mem_walk (missing : t ∉ d.schemaNames) {seen work : List String} (new : t ∉ seen)
    (h : t ∈ work ∨ ∃ s ∈ visited d seen work, Leads d s t) :
    Visit.missing t ∈ walk d seen work := by
  induction seen, work using walk.induct d with
  | case1 seen => simp [visited_nil] at h
  | case2 seen name work old ih =>
    have other : t ≠ name := fun he => new (he ▸ old)
    rw [visited_seen old, List.mem_cons, or_iff_right other] at h
    rw [walk, if_pos old]
    exact ih new h
  | case3 seen name work fresh known seen' ih =>
    have other : t ≠ name := fun he => missing (he ▸ known)
    have new' : t ∉ seen' := by simp [seen', new, other]
    rw [walk, if_neg fresh, if_pos known]
    refine List.mem_cons_of_mem _ (ih new' ?_)
    rw [visited_known fresh known] at h
    rcases h with h | ⟨s, hs, leads⟩
    · exact .inl (List.mem_append_right _ ((List.mem_cons.1 h).resolve_left other))
    · rcases List.mem_cons.1 hs with rfl | hs
      · exact .inl (List.mem_append_left _ (List.mem_filter.2 ⟨leads, by simpa using new'⟩))
      · exact .inr ⟨s, hs, leads⟩
  | case4 seen name work fresh unknown ih =>
    rw [walk, if_neg fresh, if_neg unknown]
    rw [visited_missing fresh unknown, List.mem_cons, or_assoc] at h
    rcases h with rfl | h
    · exact List.mem_cons_self
    · exact List.mem_cons_of_mem _ (ih new h)

/-- A schema that is met stands for an error if it is broken. -/
lemma error?_known_eq_none_iff : (Visit.known s).error? d = none ↔ ¬ Broken d s := by
  unfold Visit.error?
  dsimp only
  cases targets : d.soundTargets s with
  | error e => simpa using broken_of_soundTargets_eq_error targets
  | ok _ => simpa using (of_soundTargets_eq_ok targets).1

/-- A closure that does not skip anything fails exactly if references lead to something broken. -/
lemma soundClosure_eq_error_iff {roots : List String} : (∃ e, soundClosure d roots = .error e) ↔
    ∃ root ∈ roots, ∃ t, ReflTransGen (Leads d) root t ∧ Broken d t := by
  have fails : (∃ e, soundClosure d roots = .error e) ↔
      ∃ v ∈ walk d [] roots, v.error? d ≠ none := by
    rw [soundClosure]
    split
    · next e found =>
      obtain ⟨v, met, here⟩ := List.exists_of_findSome?_eq_some found
      exact ⟨fun _ => ⟨v, met, by simp [here]⟩, fun _ => ⟨e, rfl⟩⟩
    · next none_ =>
      rw [List.findSome?_eq_none_iff] at none_
      exact ⟨nofun, fun ⟨v, met, some_⟩ => absurd (none_ v met) some_⟩
  rw [fails]
  constructor
  · rintro ⟨visit, met, e⟩
    obtain ⟨holds, root, hr, chain⟩ := of_mem_walk met
    refine ⟨root, hr, visit.name, chain, ?_⟩
    cases visit with
    | known s => exact not_not.1 (mt error?_known_eq_none_iff.2 e)
    | missing s => exact .inl holds
  · rintro ⟨root, hr, t, chain, broken⟩
    by_cases known : t ∈ d.schemaNames
    · have met : t ∈ visited d [] roots := mem_closure_iff.2 ⟨known, root, hr, chain⟩
      exact ⟨.known t, known_mem_walk_iff.2 met, mt error?_known_eq_none_iff.1 (not_not.2 broken)⟩
    · refine ⟨.missing t, missing_mem_walk known List.not_mem_nil ?_, nofun⟩
      rcases chain.cases_tail with rfl | ⟨s, chain, leads⟩
      · exact .inl hr
      · exact .inr ⟨s, mem_closure_iff.2 ⟨mem_schemaNames_of_leads leads, root, hr, chain⟩, leads⟩

/-! ### The search of a fresh graph -/

/-- Between two searches what the later one has expanded in addition is what a recursive walk finds
from the names. -/
def Search.Finds (d : Description) (names : List String) (q q' : Search) : Prop :=
  ∃ found, q'.expanded = q.expanded ++ found ∧ DepthFirst d q.expanded names found

/-- What a search from `root` has met is what it has expanded, apart from `root` itself. -/
structure Search.Level (root : String) (path : List String) (q : Search) : Prop where
  begun : root ∈ q.expanded
  opened : path ⊆ q.expanded
  same : q.met.filter (· != root) = q.expanded.filter (· != root)

namespace Search

lemma Finds.refl (q : Search) : q.Finds d [] q :=
  ⟨[], by simp, .nil⟩

lemma Finds.append (h : q.Finds d names q') (h' : q'.Finds d rest q'') :
    q.Finds d (names ++ rest) q'' := by
  obtain ⟨found, grown, hFound⟩ := h
  obtain ⟨found', grown', hFound'⟩ := h'
  rw [grown] at grown' hFound'
  exact ⟨found ++ found', by rw [grown', List.append_assoc], hFound.append hFound'⟩

/-- What has been expanded has been met, unless the search started there. -/
lemma Level.mem_met_iff (h : q.Level root path) (other : s ≠ root) :
    s ∈ q.met ↔ s ∈ q.expanded := by
  have same : s ∈ q.met.filter (· != root) ↔ s ∈ q.expanded.filter (· != root) := by rw [h.same]
  simpa [other] using same

lemma Level.meet (h : q.Level root path) (old : target ∈ q.expanded) :
    (q.meet path target).Level root path where
  begun := h.begun
  opened := h.opened
  same := by
    rw [expanded_meet, ← h.same]
    by_cases start : target = root
    · exact filter_addNew (.inr (by simp [start]))
    · exact filter_addNew (.inl ((h.mem_met_iff start).2 old))

lemma Level.expand (h : q.Level root path) (new : target ∉ q.expanded) :
    (q.expand path target).Level root (path ++ [target]) where
  begun := List.mem_append_left _ h.begun
  opened := List.append_subset.2 ⟨List.Subset.trans h.opened (List.subset_append_left _ _), by simp⟩
  same := by
    have other : target ≠ root := fun he => new (he ▸ h.begun)
    have unmet : target ∉ q.met := mt (h.mem_met_iff other).1 new
    have met : (q.expand path target).met = q.met ++ [target] := if_neg (by simpa using unmet)
    rw [met, expanded_expand, List.filter_append, List.filter_append, h.same]

end Search

/-- What each step of a loop finds from its item, the whole loop finds from all items. -/
lemma finds_forM {step : String → ExceptT SchemaError (StateM Search) PUnit} {holds : Search → Prop}
    {E : SchemaError → Search → Prop} : ∀ (items : List String) (q : Search), holds q →
      (∀ a ∈ items, ∀ q, holds q → Meets (step a) q (fun _ q' => holds q' ∧ q.Finds d [a] q') E) →
      Meets (forM items step) q (fun _ q' => holds q' ∧ q.Finds d items q') E
  | [], q, hq, _ => by
    rw [List.forM_nil]
    exact meets_pure.2 ⟨hq, .refl q⟩
  | a :: rest, q, hq, each => by
    rw [List.forM_cons]
    apply meets_bind.2
    apply (each a (by simp) q hq).imp
    · rintro ⟨⟩ q' ⟨hq', first⟩
      apply (finds_forM rest q' hq' fun b hb => each b (by simp [hb])).imp
      · exact fun _ _ ⟨hq'', others⟩ => ⟨hq'', first.append others⟩
      · exact fun _ _ he => he
    · exact fun _ _ he => he

mutual

/-- A search without memory expands what a recursive walk finds from the schema's references. -/
lemma follow_finds (fresh : g.answers = []) : ∀ (budget : Nat) (path : List String) (name : String)
    (q : Search), q.Level root path → q.Room g.description budget →
    Meets (g.follow budget path name) q
      (fun _ q' => q'.Level root path ∧ q.Finds g.description (g.description.targets name) q')
      fun _ _ => True
  | 0, _, _, _, _, room => absurd room (Nat.not_lt_zero _)
  | budget + 1, path, name, q, hq, room => by
    apply meets_follow_succ
    · exact fun _ _ => trivial
    · intro _
      have targets := finds_forM (g.description.targets name) q ⟨hq, room⟩ fun target _ q hq =>
        followTarget_finds fresh budget path name target q hq.1 hq.2
      exact targets.imp (fun _ _ ⟨hq', found⟩ => ⟨hq'.1, found⟩) fun _ _ he => he
termination_by budget => (budget, 0)

lemma followTarget_finds (fresh : g.answers = []) : ∀ (budget : Nat) (path : List String)
    (name target : String) (q : Search), q.Level root path → q.Room g.description (budget + 1) →
    Meets (g.followTarget budget path name target) q
      (fun _ q' => (q'.Level root path ∧ q'.Room g.description (budget + 1)) ∧
        q.Finds g.description [target] q')
      fun _ _ => True
  | budget, path, name, target, q, hq, room => by
    apply meets_followTarget
    · intro old
      have expanded : target ∈ q.expanded := old.elim (fun here => hq.opened here) id
      exact ⟨⟨hq.meet expanded, room⟩, [], by simp, .skip (fun _ => expanded) .nil⟩
    · intro answer found
      rw [fresh] at found
      cases found
    · exact fun _ => trivial
    · intro _ new known
      apply (follow_finds fresh budget (path ++ [target]) target (q.expand path target)
        (hq.expand new) (room.expand known new)).imp
      · rintro ⟨⟩ q' ⟨hq', below, grown, found⟩
        rw [Search.expanded_expand] at grown found
        have visit : DepthFirst g.description q.expanded [target] (target :: (below ++ [])) :=
          .visit known new found .nil
        have level : q'.Level root path :=
          ⟨hq'.begun, (List.append_subset.1 hq'.opened).1, hq'.same⟩
        refine ⟨⟨level, ?_⟩, target :: below, ?_, ?_⟩
        · exact Room.of_subset room (by simp [grown])
        · rw [grown, List.append_assoc, List.singleton_append]
        · simpa using visit
      · exact fun _ _ _ => trivial
termination_by budget => (budget, 1)

end

namespace Dependencies

/-- A fresh graph answers with what a recursive walk finds from the references of the schema, and
with the schema itself where references lead back to it. -/
lemma exists_fresh_answer (resolvable : Resolvable d name) : ∃ answer,
    ((asked d []).of name).1 = .ok answer ∧
      DepthFirst d [name] (d.targets name) (answer.filter (· != name)) := by
  obtain ⟨about, sound⟩ := knows_asked d []
  have level : ((asked d []).start name).Level name [name] :=
    ⟨by simp [start], by simp [start], by simp [start]⟩
  have finds := follow_finds rfl _ [name] name _ level ((asked d []).room_start name)
  rcases (asked d []).of_cases name with ⟨_, found, -⟩ | ⟨q, ended, run⟩ | ⟨e, q, -, ended, run⟩
  · cases found
  · obtain ⟨hq, found, grown, walked⟩ := finds.of_ok ended
    have others : found.filter (· != name) = found := by
      refine List.filter_eq_self.2 fun s hs => ?_
      simpa [start] using walked.nodup.2 s hs
    have met : q.met.filter (· != name) = found := by
      rw [hq.same, grown, List.filter_append, others]
      simp [start]
    exact ⟨q.met, by rw [run], met ▸ walked⟩
  · exact absurd resolvable ((search_meets sound name).of_error ended)

end Dependencies

/-- A closure holds the known schemas that references lead to from its roots, each once, in the
order in which a recursive walk finds them. Skipping what is missing it never fails; if nothing is
skipped it fails exactly if references lead to something broken, and otherwise it is the same. From
a schema that leads to nothing broken it holds the schema itself and what a question for its
dependencies gives, whatever was asked before; a fresh graph gives them in the same order. -/
theorem closure_exact (d : Description) (roots : List String) :
    (closure d roots).Nodup ∧ DepthFirst d [] roots (closure d roots) ∧
    (∀ s, s ∈ closure d roots ↔
      s ∈ d.schemaNames ∧ ∃ root ∈ roots, ReflTransGen (References d) root s) ∧
    ((∃ e, soundClosure d roots = .error e) ↔
      ∃ root ∈ roots, ∃ t, ReflTransGen (References d) root t ∧ Broken d t) ∧
    (∀ found, soundClosure d roots = .ok found → found = closure d roots) ∧
    ∀ n, (∀ t, ReflTransGen (References d) n t → ¬ Broken d t) →
      (∀ questions, ∃ answer, ((Dependencies.asked d questions).of n).1 = .ok answer ∧
        ∀ t, t = n ∨ t ∈ answer ↔ t ∈ closure d [n]) ∧
      ∃ answer, ((Dependencies.asked d []).of n).1 = .ok answer ∧
        answer.filter (· != n) = (closure d [n]).filter (· != n) := by
  rw [← leads_eq]
  have walked := depthFirst_visited d [] roots
  refine ⟨walked.nodup.1, walked, fun s => mem_closure_iff, soundClosure_eq_error_iff, ?_, ?_⟩
  · intro found h
    unfold soundClosure at h
    split at h
    · cases h
    · exact (Except.ok.inj h).symm
  · intro n resolvable
    have known {t : String} (chain : ReflTransGen (Leads d) n t) : t ∈ d.schemaNames :=
      not_not.1 fun missing => resolvable t chain (.inl missing)
    constructor
    · intro questions
      obtain ⟨answer, h, right⟩ := Dependencies.exists_answer resolvable questions
      refine ⟨answer, h, fun t => ?_⟩
      have reached : t = n ∨ TransGen (Leads d) n t ↔ ReflTransGen (Leads d) n t := by
        rw [reflTransGen_iff_eq_or_transGen]
      rw [right.mem_iff, mem_closure_iff, reached, Reached]
      simp only [List.mem_singleton, exists_eq_left]
      exact ⟨fun chain => ⟨known chain, chain⟩, And.right⟩
    · obtain ⟨answer, h, searched⟩ := Dependencies.exists_fresh_answer resolvable
      have whole : DepthFirst d [] [n] (n :: (answer.filter (· != n) ++ [])) :=
        .visit (known .refl) List.not_mem_nil searched .nil
      have same : closure d [n] = n :: (answer.filter (· != n) ++ []) :=
        (depthFirst_visited d [] [n]).unique whole
      exact ⟨answer, h, by simp [same]⟩

end ClientGen.Graph
