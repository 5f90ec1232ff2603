import ClientGen.Proofs.Graph.Cycles
import ClientGen.Proofs.Graph.Questions

/-!
# The circular schemas

A search notes a schema as circular when it meets it on its own path, by a reference or by an answer
that is remembered. Whatever a graph is asked, and even if a search fails, all that it has noted
references itself; and a search that ends has met the schema that it started at, and noted it, if
that references itself.
-/

namespace ClientGen.Graph

open Api Relation Schema

variable {d : Description} {g : Dependencies} {q : Search} {before path answer : List String}
  {root name target s : String}

/-! ### Searches -/

/-- All that a search has noted is on a cycle, and what had been noted before is noted still. The
schema that it started at is noted once it is met. -/
structure Search.Marks (d : Description) (root : String) (before : List String) (q : Search) :
    Prop where
  onCycle : ∀ s ∈ q.circular, OnCycle d s
  kept : before ⊆ q.circular
  marked : root ∈ q.met → root ∈ q.circular

/-- References lead from the schema that a search started at along the path to the schema `name`. -/
structure OnWay (d : Description) (root : String) (path : List String) (name : String) : Prop where
  begun : root ∈ path
  leads : ∀ s ∈ path, ReflTransGen (Leads d) s name

lemma OnWay.snoc (h : OnWay d root path name) (leads : Leads d name target) :
    OnWay d root (path ++ [target]) target where
  begun := List.mem_append_left _ h.begun
  leads s hs := by
    rcases List.mem_append.1 hs with hs | hs
    · exact (h.leads s hs).tail leads
    · exact List.mem_singleton.1 hs ▸ .refl

/-- What references lead to from the end of the path is on a cycle if it is on the path. -/
lemma OnWay.onCycle (h : OnWay d root path name) (chain : TransGen (Leads d) name s)
    (hs : s ∈ path) : OnCycle d s :=
  onCycle_iff.2 (.trans_right (h.leads s hs) chain)

namespace Search

lemma mem_circular_meet :
    s ∈ (q.meet path target).circular ↔ s ∈ q.circular ∨ s = target ∧ target ∈ path := by
  unfold meet
  dsimp only
  split
  · next here =>
    have here : target ∈ path := by simpa using here
    simp [mem_addNew, here]
  · next other =>
    have other : target ∉ path := by simpa using other
    simp [other]

lemma Marks.meet (h : q.Marks d root before) (begun : root ∈ path)
    (onCycle : target ∈ path → OnCycle d target) : (q.meet path target).Marks d root before where
  onCycle s hs := by
    rcases mem_circular_meet.1 hs with hs | ⟨rfl, here⟩
    · exact h.onCycle s hs
    · exact onCycle here
  kept s hs := mem_circular_meet.2 (.inl (h.kept hs))
  marked met := mem_circular_meet.2 <| (mem_met_meet.1 met).imp h.marked fun same =>
    ⟨same, same ▸ begun⟩

lemma Marks.expand (h : q.Marks d root before) (begun : root ∈ path)
    (onCycle : target ∈ path → OnCycle d target) : (q.expand path target).Marks d root before :=
  have met := h.meet begun onCycle
  ⟨met.onCycle, met.kept, met.marked⟩

lemma Marks.meetAll (h : q.Marks d root before) (begun : root ∈ path)
    (onCycle : ∀ t ∈ answer, t ∈ path → OnCycle d t) :
    (q.meetAll path answer).Marks d root before := by
  induction answer generalizing q with
  | nil => exact h
  | cons t rest ih =>
    exact ih (h.meet begun (onCycle t (by simp))) fun t ht => onCycle t (List.mem_cons_of_mem _ ht)

end Search

mutual

/-- A search keeps its marks, whether it fails or not. -/
lemma follow_marks (sound : g.Sound) : ∀ (budget : Nat) (path : List String) (name : String)
    (q : Search), q.Marks g.description root before → OnWay g.description root path name →
    Meets (g.follow budget path name) q (fun _ q' => q'.Marks g.description root before)
      fun _ q' => q'.Marks g.description root before
  | 0, _, _, _, hq, _ => by
    rw [Dependencies.follow.eq_def]
    exact meets_pure.2 hq
  | budget + 1, path, name, q, hq, way => by
    apply meets_follow_succ
    · exact fun _ _ => hq
    · intro _
      have targets := meets_forM (fun _ _ : Search => True) (fun _ _ => True) (fun _ => trivial)
        (fun _ _ => trivial) (fun _ _ => trivial) (g.description.targets name) q hq
        fun target leads q hq =>
          (followTarget_marks sound budget path name target q hq way leads).imp
            (fun _ _ hq' => ⟨hq', trivial, trivial⟩) fun _ _ hq' => hq'
      exact targets.imp (fun _ _ hq' => hq'.1) fun _ _ hq' => hq'
termination_by budget => (budget, 0)

lemma followTarget_marks (sound : g.Sound) : ∀ (budget : Nat) (path : List String)
    (name target : String) (q : Search), q.Marks g.description root before →
    OnWay g.description root path name → Leads g.description name target →
    Meets (g.followTarget budget path name target) q
      (fun _ q' => q'.Marks g.description root before)
      fun _ q' => q'.Marks g.description root before
  | budget, path, name, target, q, hq, way, leads => by
    have expanded := hq.expand way.begun (way.onCycle (.single leads))
    apply meets_followTarget
    · exact fun _ => hq.meet way.begun (way.onCycle (.single leads))
    · intro answer found
      exact expanded.meetAll way.begun fun t ht => way.onCycle <|
        .head leads (((sound target answer found).mem_iff t).1 ht)
    · exact fun _ => expanded
    · intro _ _ _
      exact follow_marks sound budget (path ++ [target]) target _ expanded (way.snoc leads)
termination_by budget => (budget, 1)

end

namespace Dependencies

/-! ### Questions -/

/-- All that is noted is on a cycle, and every schema that is on a cycle is noted if the answer
about it is remembered. -/
structure Notes (d : Description) (g : Dependencies) : Prop extends Knows d g where
  onCycle : ∀ s ∈ g.circular, OnCycle d s
  noted : ∀ s answer, g.answers.lookup s = some answer → OnCycle d s → s ∈ g.circular

/-- A search from a schema keeps the marks of the graph. -/
lemma Notes.searched (h : Notes d g) (name : String) :
    Meets (g.follow (g.description.schemas.length + 1) [name] name) (g.start name)
      (fun _ q => q.Marks d name g.circular) fun _ q => q.Marks d name g.circular := by
  obtain rfl := h.description
  refine follow_marks h.sound _ [name] name _ ⟨h.onCycle, fun _ hs => hs, ?_⟩ ⟨by simp, ?_⟩
  · simp [start]
  · exact fun s hs => List.mem_singleton.1 hs ▸ .refl

lemma Notes.of (h : Notes d g) (name : String) : Notes d (g.of name).2 := by
  have known := h.toKnows.of name
  have marks := h.searched name
  rcases g.of_cases name with ⟨_, -, same⟩ | ⟨q, ended, same⟩ | ⟨e, q, -, ended, same⟩
  · rw [same]
    exact h
  · have marks := marks.of_ok ended
    have right := (search_meets h.sound name).of_ok ended
    rw [same] at known ⊢
    refine ⟨known, marks.onCycle, fun s answer found hs => ?_⟩
    rw [List.lookup_append, Option.or_eq_some_iff] at found
    rcases found with found | ⟨-, found⟩
    · exact marks.kept (h.noted s answer found hs)
    · obtain ⟨rfl, rfl⟩ : s = name ∧ answer = q.met := by simpa using mem_of_lookup found
      rw [h.description] at right
      exact marks.marked ((right.mem_iff s).2 (onCycle_iff.1 hs))
  · have marks := marks.of_error ended
    rw [same] at known ⊢
    exact ⟨known, marks.onCycle, fun s answer found hs => marks.kept (h.noted s answer found hs)⟩

/-- Cycles that are found are noted. -/
lemma Notes.cycles (h : Notes d g) : Notes d g.cycles.2 where
  description := h.description
  sound := h.sound
  onCycle s hs := by
    rcases mem_foldl_addNew.1 hs with hs | hs
    · exact h.onCycle s hs
    · obtain ⟨names, found, hs⟩ := List.mem_flatten.1 hs
      exact h.description ▸ (isCycle_of_mem_cycles found).onCycle hs
  noted s answer found hs := mem_foldl_addNew.2 (.inl (h.noted s answer found hs))

lemma Notes.after (h : Notes d g) (question : Question) : Notes d (g.after question) :=
  after_keeps (Notes d) (fun _ name h => h.of name) (fun _ h => h.cycles) h question

lemma notes_asked (d : Description) (questions : List Question) : Notes d (asked d questions) := by
  have fresh : Notes d { description := d } :=
    ⟨⟨rfl, by simp [Dependencies.Sound]⟩, by simp, by simp⟩
  exact List.foldlRecOn questions after fresh fun _ h question _ => h.after question

/-- What has been answered is remembered. -/
lemma lookup_of (h : (g.of name).1 = .ok answer) : (g.of name).2.answers.lookup name ≠ none := by
  rcases g.of_cases name with ⟨_, found, same⟩ | ⟨q, -, same⟩ | ⟨e, q, -, -, same⟩
  · rw [same, found]
    exact nofun
  · rw [same, List.lookup_append, List.lookup_cons_self]
    cases g.answers.lookup name <;> exact nofun
  · rw [same] at h
    cases h

/-- What is remembered stays remembered. -/
lemma lookup_after (h : g.answers.lookup s ≠ none) (question : Question) :
    (g.after question).answers.lookup s ≠ none := by
  refine after_keeps (fun g => g.answers.lookup s ≠ none) (fun g name h => ?_) (fun _ h => h) h
    question
  rcases g.of_cases name with ⟨_, -, same⟩ | ⟨q, -, same⟩ | ⟨e, q, -, -, same⟩
  · rw [same]
    exact h
  · rw [same, List.lookup_append]
    exact fun none => h (Option.or_eq_none_iff.1 none).1
  · rw [same]
    exact h

/-- The questions for dependencies that are asked one after the other to answer a question, if it is
one for all dependencies. -/
def Question.steps (d : Description) : Question → List Question
  | .allDependencies => d.schemaNames.map .dependencies
  | question => [question]

/-- A question for all dependencies may be taken apart into its steps. -/
lemma asked_steps (d : Description) (questions : List Question) :
    asked d (questions.flatMap (Question.steps d)) = asked d questions := by
  have each : ∀ (questions : List Question) (g : Dependencies), Knows d g →
      (questions.flatMap (Question.steps d)).foldl after g = questions.foldl after g := by
    intro questions
    induction questions with
    | nil => exact fun _ _ => rfl
    | cons question rest ih =>
      intro g h
      have first : (question.steps d).foldl after g = g.after question := by
        cases question with
        | allDependencies =>
          rw [after, build_snd, h.description, Question.steps, List.foldl_map]
          rfl
        | _ => rfl
      rw [List.flatMap_cons, List.foldl_append, first, List.foldl_cons, ih _ (h.after question)]
  exact each questions _ ⟨rfl, by simp [Dependencies.Sound]⟩

/-- Once a question for the dependencies of a schema has been answered, the schema is noted exactly
if it is on a cycle. -/
lemma mem_circular_iff (earlier later : List Question)
    (answered : ((asked d earlier).of name).1 = .ok answer) :
    name ∈ (asked d (earlier ++ .dependencies name :: later)).circular ↔ OnCycle d name := by
  have notes := notes_asked d (earlier ++ .dependencies name :: later)
  refine ⟨notes.onCycle name, fun cycle => ?_⟩
  have remembered :
      (asked d (earlier ++ .dependencies name :: later)).answers.lookup name ≠ none := by
    unfold asked
    rw [List.foldl_append, List.foldl_cons]
    exact List.foldlRecOn (motive := fun g => g.answers.lookup name ≠ none) later after
      (lookup_of answered) fun _ h question _ => lookup_after h question
  obtain ⟨answer, found⟩ := Option.ne_none_iff_exists'.1 remembered
  exact notes.noted name answer found cycle

/-- A question for all dependencies has one for each schema among its steps. -/
lemma exists_steps {questions : List Question} (all : .allDependencies ∈ questions)
    (known : name ∈ d.schemaNames) : ∃ earlier later,
    questions.flatMap (Question.steps d) = earlier ++ .dependencies name :: later := by
  refine List.append_of_mem (List.mem_flatMap.2 ⟨.allDependencies, all, ?_⟩)
  exact List.mem_map_of_mem known

/-- Every reference in the tree of a known schema leads to a known schema. -/
def NoneBroken (d : Description) : Prop :=
  ∀ s node pointer, d.schema? s = some node → node.Mentions pointer →
    ∃ t ∈ d.schemaNames, targetName? pointer = some t

lemma NoneBroken.resolvable (h : NoneBroken d) (known : s ∈ d.schemaNames) : Resolvable d s := by
  intro t chain
  have inside : t ∈ d.schemaNames := by
    rcases chain.cases_tail with rfl | ⟨u, -, leads⟩
    · exact known
    · obtain ⟨node, found, pointer, mentions, target⟩ := leads_iff.1 leads
      obtain ⟨t', known', target'⟩ := h u node pointer found mentions
      exact Option.some.inj (target'.symm.trans target) ▸ known'
  rintro (missing | ⟨node, found, pointer, mentions, stray⟩)
  · exact missing inside
  · obtain ⟨t', -, target⟩ := h t node pointer found mentions
    rw [stray] at target
    cases target

/-- Whatever a graph has been asked, even if some questions failed: each schema that is noted as
circular references itself, directly or through others, and if a question for the dependencies of a
schema has been answered, on its own or as a step of one for all dependencies, the schema is noted
exactly if it references itself. So once all dependencies have been asked for, and no reference is
broken, exactly those schemas are noted that reference themselves. However many chains of references
lead to a schema, it is not noted unless one leads from it back to it. -/
theorem circular_exact (d : Description) (questions : List Question) :
    (∀ s ∈ (asked d questions).circular, OnCycle d s) ∧
    (∀ earlier later name answer,
      questions.flatMap (Question.steps d) = earlier ++ .dependencies name :: later →
      ((asked d earlier).of name).1 = .ok answer →
      (name ∈ (asked d questions).circular ↔ OnCycle d name)) ∧
    (.allDependencies ∈ questions → NoneBroken d →
      ∀ s, s ∈ (asked d questions).circular ↔ OnCycle d s) ∧
    ∀ s, ¬ OnCycle d s → s ∉ (asked d questions).circular := by
  have notes := notes_asked d questions
  refine ⟨notes.onCycle, ?_, ?_, fun s off noted => off (notes.onCycle s noted)⟩
  · intro earlier later name answer steps answered
    rw [← asked_steps, steps]
    exact mem_circular_iff earlier later answered
  · intro all whole s
    refine ⟨notes.onCycle s, fun cycle => ?_⟩
    obtain ⟨t, leads, -⟩ := TransGen.head'_iff.1 cycle
    have known : s ∈ d.schemaNames := mem_schemaNames_of_leads (leads_iff.2 leads)
    obtain ⟨earlier, later, steps⟩ := exists_steps all known
    obtain ⟨answer, answered, -⟩ := exists_answer (whole.resolvable known) earlier
    rw [← asked_steps, steps]
    exact (mem_circular_iff earlier later answered).2 cycle

/-- Two chains of references lead from the top of a diamond to its base, and a node has further
nodes. -/
def diamond : Description where
  schemas := [
    ("Top", .object [⟨"left", false, .reference "#/components/schemas/Left" {}⟩,
      ⟨"right", false, .reference "#/components/schemas/Right" {}⟩] none {}),
    ("Left", .array (.reference "#/components/schemas/Base" {}) {} {}),
    ("Right", .array (.reference "#/components/schemas/Base" {}) {} {}),
    ("Base", .unknown {}),
    ("Node", .array (.reference "#/components/schemas/Node" {}) {} {})]

/-- Once all dependencies in the diamond have been asked for, the node is noted, the base is not. -/
theorem circular_exact_diamond : NoneBroken diamond ∧ ¬ OnCycle diamond "Base" ∧
    "Node" ∈ (asked diamond [.allDependencies]).circular ∧
    "Base" ∉ (asked diamond [.allDependencies]).circular := by
  have whole : NoneBroken diamond := by
    have all : ∀ e ∈ diamond.schemas, ∀ pointer ∈ e.2.pointers,
      ∃ t ∈ diamond.schemaNames, targetName? pointer = some t := by decide +kernel
    exact fun s node pointer found mentions =>
      all (s, node) (mem_of_lookup found) pointer (mem_pointers_iff.2 mentions)
  have cycle : OnCycle diamond "Node" := onCycle_iff.2 (.single (by unfold Leads; decide +kernel))
  have off : ¬ OnCycle diamond "Base" := by
    intro cycle
    obtain ⟨t, leads, -⟩ := TransGen.head'_iff.1 (onCycle_iff.1 cycle)
    have none : diamond.targets "Base" = [] := by decide +kernel
    simp [Leads, none] at leads
  obtain ⟨-, -, exact_, never⟩ := circular_exact diamond [.allDependencies]
  exact ⟨whole, off, (exact_ (by simp) whole "Node").2 cycle, never "Base" off⟩

end Dependencies

end ClientGen.Graph
