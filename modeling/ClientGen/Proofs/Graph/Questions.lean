import ClientGen.Graph.Closure
import ClientGen.Graph.Cycles
import ClientGen.Graph.Order
import ClientGen.Proofs.Graph.Dependencies

/-!
# Questions in any order

A dependency graph answers a question for dependencies in the same way whatever it has been asked
before. Only schemas from which nothing broken can be reached have remembered answers, and they lead to
no others. So two searches, one of which remembers more, expand the same schemas among those that lead
to something broken, in the same order, and they stop at the same one.
-/

namespace ClientGen.Graph

open Api Relation

variable {d : Description} {g g' : Dependencies} {q q' q'' : Search} {path : List String}
  {name target s : String}

/-! ### Searches that are alike -/

/-- Two searches have expanded the same schemas among those that lead to something broken. -/
def Search.Alike (d : Description) (q q' : Search) : Prop :=
  ∀ s, ¬ Resolvable d s → (s ∈ q.expanded ↔ s ∈ q'.expanded)

namespace Search.Alike

lemma refl (q : Search) : q.Alike d q :=
  fun _ _ => Iff.rfl

lemma symm (h : q.Alike d q') : q'.Alike d q :=
  fun s hs => (h s hs).symm

lemma trans (h : q.Alike d q') (h' : q'.Alike d q'') : q.Alike d q'' :=
  fun s hs => (h s hs).trans (h' s hs)

lemma meet (h : q.Alike d q') : (q.meet path target).Alike d (q'.meet path target) :=
  h

lemma expand (h : q.Alike d q') : (q.expand path target).Alike d (q'.expand path target) := by
  intro s hs
  simp [h s hs]

/-- Nothing changes for those that lead to something broken when another schema is expanded. -/
lemma expand_resolvable (resolvable : Resolvable d target) : q.Alike d (q.expand path target) := by
  intro s hs
  have other : s ≠ target := by
    rintro rfl
    exact hs resolvable
  simp [other]

end Search.Alike

mutual

/-- A search from a schema that leads to nothing broken does not fail and expands no other schemas. -/
lemma follow_resolvable : ∀ (budget : Nat) (path : List String) (name : String) (q : Search),
    Resolvable g.description name →
    Meets (g.follow budget path name) q (fun _ q' => q.Alike g.description q') fun _ _ => False
  | 0, _, _, q, _ => by
    rw [Dependencies.follow.eq_def]
    exact meets_pure.2 (.refl q)
  | budget + 1, path, name, q, resolvable => by
    apply meets_follow_succ
    · exact fun _ broken => resolvable name .refl broken
    · intro _
      have targets := meets_forM (Search.Alike g.description) (fun _ _ => True) .refl
        (fun h h' => h.trans h') (fun _ _ => trivial)
        (g.description.targets name) q trivial fun target leads q _ =>
          (followTarget_resolvable budget path name target q (resolvable.of_leads leads)).imp
            (fun _ _ alike => ⟨trivial, alike, trivial⟩) fun _ _ he => he
      exact targets.imp (fun _ _ h => h.2.1) fun _ _ he => he
termination_by budget => (budget, 0)

lemma followTarget_resolvable : ∀ (budget : Nat) (path : List String) (name target : String)
    (q : Search), Resolvable g.description target →
    Meets (g.followTarget budget path name target) q (fun _ q' => q.Alike g.description q')
      fun _ _ => False
  | budget, path, name, target, q, resolvable => by
    apply meets_followTarget
    · exact fun _ => .refl q
    · intro answer _ s hs
      rw [Search.expanded_meetAll]
      exact Search.Alike.expand_resolvable resolvable s hs
    · exact fun missing => resolvable target .refl (.inl missing)
    · intro _ _ _
      apply (follow_resolvable budget (path ++ [target]) target (q.expand path target)
        resolvable).imp
      · exact fun _ _ alike => (Search.Alike.expand_resolvable resolvable).trans alike
      · exact fun _ _ he => he
termination_by budget => (budget, 1)

end

/-- Two searches end in the same way, and they are alike. -/
structure EndAlike (d : Description) (r r' : Except SchemaError Unit × Search) : Prop where
  result : r.1 = r'.1
  search : r.2.Alike d r'.2

/-- Two loops over the same items end in the same way if their steps do. -/
lemma endAlike_forM {f f' : String → ExceptT SchemaError (StateM Search) Unit} :
    ∀ (items : List String) (q q' : Search), q.Alike d q' →
      (∀ a ∈ items, ∀ q q' : Search, q.Alike d q' →
        EndAlike d (outcome (f a) q) (outcome (f' a) q')) →
      EndAlike d (outcome (forM items f) q) (outcome (forM items f') q')
  | [], q, q', alike, _ => by
    rw [List.forM_nil, List.forM_nil]
    exact ⟨rfl, alike⟩
  | a :: rest, q, q', alike, each => by
    rw [List.forM_cons, List.forM_cons, outcome_bind, outcome_bind]
    have first := each a (by simp) q q' alike
    revert first
    rcases outcome (f a) q with ⟨e | ⟨⟩, q₁⟩ <;> rcases outcome (f' a) q' with ⟨e' | ⟨⟩, q₁'⟩
    · intro first
      obtain rfl : e = e' := Except.error.inj first.result
      exact ⟨rfl, first.search⟩
    · exact fun first => nomatch first.result
    · exact fun first => nomatch first.result
    · exact fun first => endAlike_forM rest q₁ q₁' first.search fun b hb =>
        each b (by simp [hb])

mutual

/-- Searches for one schema of one description end in the same way, whatever is remembered. -/
lemma follow_alike (hg : g.description = d) (hg' : g'.description = d) (sound : g.Sound)
    (sound' : g'.Sound) : ∀ (budget : Nat) (path : List String) (name : String) (q q' : Search),
    q.Alike d q' →
    EndAlike d (outcome (g.follow budget path name) q) (outcome (g'.follow budget path name) q')
  | 0, _, _, q, q', alike => by
    rw [Dependencies.follow.eq_def, Dependencies.follow.eq_def]
    exact ⟨rfl, alike⟩
  | budget + 1, path, name, q, q', alike => by
    rw [Dependencies.follow.eq_def, Dependencies.follow.eq_def]
    dsimp only
    rw [hg, hg']
    cases d.soundTargets name with
    | error e => exact ⟨rfl, alike⟩
    | ok targets =>
      exact endAlike_forM targets q q' alike fun target _ q q' alike =>
        followTarget_alike hg hg' sound sound' budget path name target q q' alike
termination_by budget => (budget, 0)

lemma followTarget_alike (hg : g.description = d) (hg' : g'.description = d) (sound : g.Sound)
    (sound' : g'.Sound) : ∀ (budget : Nat) (path : List String) (name target : String)
    (q q' : Search), q.Alike d q' →
    EndAlike d (outcome (g.followTarget budget path name target) q)
      (outcome (g'.followTarget budget path name target) q')
  | budget, path, name, target, q, q', alike => by
    by_cases resolvable : Resolvable d target
    · -- One of them may have the answer and the other may look for it: neither fails.
      obtain ⟨⟨⟩, q₁, run, kept⟩ := (followTarget_resolvable (g := g) budget path name target q
        (hg.symm ▸ resolvable)).exists_ok
      obtain ⟨⟨⟩, q₁', run', kept'⟩ := (followTarget_resolvable (g := g') budget path name target q'
        (hg'.symm ▸ resolvable)).exists_ok
      rw [hg] at kept
      rw [hg'] at kept'
      rw [run, run']
      exact ⟨rfl, (kept.symm.trans alike).trans kept'⟩
    · have new {g : Dependencies} (hg : g.description = d) (sound : g.Sound) :
          g.answers.lookup target = none := by
        rw [Option.eq_none_iff_forall_ne_some]
        intro answer found
        exact resolvable (hg ▸ (sound target answer found).resolvable)
      rw [outcome_followTarget, outcome_followTarget, new hg sound, new hg' sound', hg, hg']
      simp only [alike target resolvable]
      by_cases old : target ∈ path ∨ target ∈ q'.expanded
      · rw [if_pos old, if_pos old]
        exact ⟨rfl, alike.meet⟩
      · rw [if_neg old, if_neg old]
        by_cases known : target ∈ d.schemaNames
        · rw [if_pos known, if_pos known]
          exact follow_alike hg hg' sound sound' budget (path ++ [target]) target _ _ alike.expand
        · rw [if_neg known, if_neg known]
          exact ⟨rfl, alike.expand⟩
termination_by budget => (budget, 1)

end

namespace Dependencies

/-- A question that fails fails in the same way on any other graph of the description. -/
lemma of_eq_error (same : g'.description = g.description) (sound : g.Sound) (sound' : g'.Sound)
    {e : SchemaError} (h : (g.of name).1 = .error e) : (g'.of name).1 = .error e := by
  rcases g.of_cases name with ⟨answer, -, run⟩ | ⟨q, -, run⟩ | ⟨e, q, -, ended, run⟩
  · rw [run] at h
    cases h
  · rw [run] at h
    cases h
  · rw [run] at h
    have broken := (search_meets sound name).of_error ended
    have alike : EndAlike g.description (g.searched name) (g'.searched name) := by
      unfold searched
      rw [same]
      exact follow_alike rfl same sound sound' _ [name] name _ _ (.refl _)
    have result := alike.result
    rw [ended] at result
    rcases g'.of_cases name with ⟨answer, found, -⟩ | ⟨q', ended', -⟩ | ⟨e', q', -, ended', run'⟩
    · exact absurd (same ▸ (sound' name answer found).resolvable) broken
    · rw [ended'] at result
      cases result
    · rw [ended'] at result
      obtain rfl : e = e' := Except.error.inj result
      rw [run', ← h]

/-! ### Histories -/

/-- A question that a graph is asked. -/
inductive Question
  | dependencies (name : String)
  | allDependencies
  | closure (roots : List String) (skipMissing : Bool)
  | cycles
  | order (names : List String)

/-- The graph after a question. Closures and orders are taken of the description alone. -/
def after (g : Dependencies) : Question → Dependencies
  | .dependencies name => (g.of name).2
  | .allDependencies => g.build.2
  | .closure _ _ => g
  | .cycles => g.cycles.2
  | .order _ => g

/-- The graph of a description after some questions. -/
def asked (d : Description) (questions : List Question) : Dependencies :=
  questions.foldl after { description := d }

/-- What is known about a description is right. -/
structure Knows (d : Description) (g : Dependencies) : Prop where
  description : g.description = d
  sound : g.Sound

lemma Knows.of (h : Knows d g) (name : String) : Knows d (g.of name).2 :=
  ⟨description_of.trans h.description, sound_of h.sound⟩

/-- To ask for all dependencies is to ask for those of one schema after the other. -/
lemma build_snd (g : Dependencies) :
    g.build.2 = g.description.schemaNames.foldl (fun g name => (g.of name).2) g := by
  refine (List.foldl_hom Prod.snd fun r name => ?_).symm
  dsimp only
  rcases r.2.of name with ⟨_ | _, g'⟩ <;> rfl

/-- What the questions for one schema and those for cycles keep, every question keeps. -/
lemma after_keeps (holds : Dependencies → Prop) (of : ∀ g name, holds g → holds (g.of name).2)
    (cycles : ∀ g, holds g → holds g.cycles.2) (h : holds g) (question : Question) :
    holds (g.after question) := by
  cases question with
  | dependencies name => exact of g name h
  | allDependencies =>
    rw [after, build_snd]
    exact List.foldlRecOn _ _ h fun g h name _ => of g name h
  | closure roots skipMissing => exact h
  | cycles => exact cycles g h
  | order names => exact h

/-- What is known stays right, whatever is asked. -/
lemma Knows.after (h : Knows d g) (question : Question) : Knows d (g.after question) :=
  after_keeps (Knows d) (fun _ name h => h.of name) (fun _ h => ⟨h.description, h.sound⟩) h question

lemma knows_asked (d : Description) (questions : List Question) : Knows d (asked d questions) := by
  have fresh : Knows d { description := d } := ⟨rfl, by simp [Dependencies.Sound]⟩
  exact List.foldlRecOn questions after fresh fun _ h question _ => h.after question

/-- A question for the dependencies of a schema that leads to nothing broken is answered. -/
lemma exists_answer (resolvable : Resolvable d name) (questions : List Question) :
    ∃ answer, ((asked d questions).of name).1 = .ok answer ∧ IsAnswer d name answer := by
  obtain ⟨about, sound⟩ := knows_asked d questions
  cases h : ((asked d questions).of name).1 with
  | error e =>
    have broken := (of_failed sound h).1
    rw [about] at broken
    exact absurd resolvable broken
  | ok answer =>
    have right := isAnswer_of sound h
    rw [about] at right
    exact ⟨answer, rfl, right⟩

/-- Whatever a graph has been asked before: a question for the dependencies of a schema fails exactly
if the schema or one that references lead to is broken, with the error of a fresh graph, and then
nothing that is remembered changes. Otherwise the answer is what references lead to, each name once,
and a fresh graph gives the same names. -/
theorem of_asked (d : Description) (questions : List Question) (name : String) :
    ((∃ e, ((asked d questions).of name).1 = .error e) ↔
      ∃ t, ReflTransGen (References d) name t ∧ Broken d t) ∧
    (∀ e, ((asked d questions).of name).1 = .error e →
      ((asked d []).of name).1 = .error e ∧
        ((asked d questions).of name).2.answers = (asked d questions).answers) ∧
    ∀ answer, ((asked d questions).of name).1 = .ok answer →
      answer.Nodup ∧ (∀ t, t ∈ answer ↔ TransGen (References d) name t) ∧
        ∃ fresh, ((asked d []).of name).1 = .ok fresh ∧ ∀ t, t ∈ answer ↔ t ∈ fresh := by
  rw [← leads_eq]
  obtain ⟨about, sound⟩ := knows_asked d questions
  obtain ⟨about', sound'⟩ := knows_asked d []
  have failed {e : SchemaError} (h : ((asked d questions).of name).1 = .error e) :
      ∃ t, ReflTransGen (Leads d) name t ∧ Broken d t := by
    have broken := (of_failed sound h).1
    rw [about] at broken
    simpa [Resolvable] using broken
  have answered {answer : List String} (h : ((asked d questions).of name).1 = .ok answer) :
      IsAnswer d name answer := by
    have right := isAnswer_of sound h
    rwa [about] at right
  refine ⟨⟨fun ⟨e, h⟩ => failed h, ?_⟩, ?_, ?_⟩
  · rintro ⟨t, chain, broken⟩
    cases h : ((asked d questions).of name).1 with
    | error e => exact ⟨e, rfl⟩
    | ok answer => exact absurd broken ((answered h).resolvable t chain)
  · intro e h
    exact ⟨of_eq_error (about'.trans about.symm) sound sound' h, (of_failed sound h).2⟩
  · intro answer h
    refine ⟨(answered h).nodup, (answered h).mem_iff, ?_⟩
    cases h' : ((asked d []).of name).1 with
    | error e =>
      have again := of_eq_error (about.trans about'.symm) sound' sound h'
      rw [h] at again
      cases again
    | ok fresh =>
      have right := isAnswer_of sound' h'
      rw [about'] at right
      exact ⟨fresh, rfl, fun t => ((answered h).mem_iff t).trans (right.mem_iff t).symm⟩

end Dependencies

end ClientGen.Graph
