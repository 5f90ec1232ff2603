import ClientGen.Proofs.Plan.Planning

/-!
# What the files of a plan refer to

Nothing is referred to that is not declared, with two exceptions. Both concern schemas that fail: a
shared one is referred to from the modules all the same, and one on a cycle of references is
referred to by what was declared before it failed.
-/

namespace ClientGen

open Api Emission Enumeration Naming Output Relation Schema Template TypeScript

variable {c : Setting} {G : Ground c} {r r' : Registry} {q : Option String} {x k : String}

/-! ### References -/

/-- A declaration of the validator file refers to the constant, be it as soon as the validator is
made or only when it is used. -/
def TypeScript.ValidatorDeclaration.RefersTo (q : Option String) (k : String)
    (d : ValidatorDeclaration) : Prop :=
  d.Mentions q k ∨ q = none ∧ d.Defers k

/-- An argument or the response of an operation refers to the declaration. -/
def Emission.OperationParts.RefersTo (q : Option String) (x : String) (p : OperationParts) : Prop :=
  (∃ a ∈ p.arguments, a.type.Mentions q x) ∨ p.responseType.Mentions q x

/-- A failed schema has the identifier. -/
def FailedAs (c : Setting) (r : Registry) (failed : List String) (x : String) : Prop :=
  ∃ s ∈ failed, c.identifier? r s = some x

/-- A failed schema has the identifier `x`, and it lies on a cycle of references with one that has
the identifier `owner`. -/
def FailedOnCycle (c : Setting) (leads : String → String → Prop) (r : Registry)
    (failed : List String) (owner x : String) : Prop :=
  ∃ s ∈ failed, ∃ t, c.identifier? r s = some x ∧ c.identifier? r t = some owner ∧ leads t s ∧
    ReflTransGen leads s t

/-- A finished type file refers to declared types, to failed ones on a cycle, and to shared ones. -/
lemma Emission.TypesSound.reference {f : DeclarationFile TypeDeclaration}
    (h : TypesSound c G [] r f) {d : Written TypeDeclaration} (hd : d ∈ f.declarations)
    (hm : d.declaration.Mentions q x) :
    q = none ∧ (x ∈ f.emitted ∨ FailedOnCycle c G.leads r f.failed d.declaration.name x) ∨
      q = some commonNamespace ∧ f.usesCommon = true ∧ c.SharedName r x := by
  rcases h.mentions d hd q x hm with ⟨hq, hx | ⟨s, hs, t, hsx, ht, hts, hst⟩⟩ | shared
  · exact .inl ⟨hq, .inl hx⟩
  · rcases h.declared s hs with hp | hf | ⟨y, hy, hsy⟩
    · simp at hp
    · exact .inl ⟨hq, .inr ⟨s, hf, t, hsx, ht, hts, hst⟩⟩
    · obtain rfl := Option.some.inj (hsx.symm.trans hsy)
      exact .inl ⟨hq, .inl hy⟩
  · exact .inr shared

/-- A finished validator file refers to declared constants, to failed ones on a cycle, and to shared
ones. -/
lemma Emission.ValidatorsSound.reference {f : DeclarationFile ValidatorDeclaration}
    {targets : List String} (h : ValidatorsSound c G [] r f targets)
    {d : Written ValidatorDeclaration} (hd : d ∈ f.declarations)
    (hm : d.declaration.RefersTo q k) :
    q = none ∧ (k ∈ f.emitted ∨ ∃ owner x, d.declaration.name = validatorName owner ∧
      k = validatorName x ∧ FailedOnCycle c G.leads r f.failed owner x) ∨
      SharedConst c r f q k := by
  rcases hm with hm | ⟨hq, hm⟩
  · cases q with
    | none =>
      obtain ⟨above, below, hf⟩ := List.append_of_mem hd
      obtain ⟨e, he, hk⟩ := List.mem_map.1 (h.evaluable above d below hf k hm)
      refine .inl ⟨rfl, .inl (List.mem_map.2 ⟨e, ?_, hk⟩)⟩
      rw [hf]
      exact List.mem_append_left _ he
    | some n => exact .inr (h.shared d hd n k hm)
  · obtain ⟨s, ht, x, t, y, hx, hk, hy, ho, hts, hst⟩ := h.deferred d hd k hm
    rcases h.declared s (h.lowered s ht).1 with hp | hf | ⟨z, hz, hsz⟩
    · simp at hp
    · exact .inl ⟨hq, .inr ⟨y, x, ho, hk, s, hf, t, hx, hy, hts, hst⟩⟩
    · obtain rfl := Option.some.inj (hx.symm.trans hsz)
      exact .inl ⟨hq, .inl (hk ▸ hz)⟩

/-! ### Shared names -/

section Shared

variable {d : Description} {templates : TemplateId → ClientGen.Template} {layout : Layout}
  {modules common : List String} {part : SharedPart}

lemma SharedPart.exists_enumeration (h : x ∈ part.declarations) :
    ∃ e ∈ part.workspace.types.declarations, e.declaration.isEnumeration = true ∧
      e.declaration.name = x := by
  obtain ⟨a, ha, rfl⟩ := List.mem_map.1 h
  obtain ⟨ha, kind⟩ := List.mem_filter.1 ha
  obtain ⟨e, he, rfl⟩ := List.mem_map.1 ha
  refine ⟨e, he, ?_, rfl⟩
  rcases e with ⟨_ | _ | _, _⟩
  · exact absurd kind Bool.false_ne_true
  · rfl
  · exact absurd kind Bool.false_ne_true

/-- The type of a shared name is declared, or it is that of a failed schema. -/
lemma SharedSound.type (h : SharedSound d templates layout modules part)
    (hle : part.workspace.registry ≤ r) (by_two : ∀ s ∈ common, SharedBy d modules s)
    (hx : (d.setting templates common part.declarations).SharedName r x) :
    x ∈ part.workspace.types.emitted ∨
      FailedAs (d.setting templates common part.declarations) r part.workspace.types.failed x := by
  rcases hx with hx | ⟨s, hs, hx⟩
  · obtain ⟨e, he, -, rfl⟩ := SharedPart.exists_enumeration hx
    exact .inl (List.mem_map_of_mem he)
  · rcases h.files.types.declared s (h.settled s (by_two s hs)).1 with hp | hf | ⟨y, hy, hsy⟩
    · simp at hp
    · exact .inr ⟨s, hf, hx⟩
    · obtain rfl := Option.some.inj (hx.symm.trans (identifier?_mono hle hsy))
      exact .inl hy

/-- The validator of a shared schema is declared unless it has failed. -/
lemma SharedSound.schemaValidator (h : SharedSound d templates layout modules part)
    (hle : part.workspace.registry ≤ r) {s : String} (by_two : SharedBy d modules s)
    (hx : (d.setting templates [] []).identifier? r s = some x) :
    validatorName x ∈ part.workspace.validators.emitted ∨ s ∈ part.workspace.validators.failed := by
  rcases h.files.validators.declared s (h.settled s by_two).2 with hp | hf | ⟨y, hy, hsy⟩
  · simp at hp
  · exact .inr hf
  · obtain rfl := Option.some.inj (hx.symm.trans (identifier?_mono hle hsy))
    exact .inl hy

/-- The validator of a shared enumeration is declared, unless one of the schemas has failed that
would declare it. -/
lemma SharedSound.enumerationValidator (h : SharedSound d templates layout modules part)
    (shallow : d.Shallow) (hx : x ∈ part.declarations) :
    validatorName x ∈ part.workspace.validators.emitted ∨
      ∃ s, s ∈ part.workspace.validators.failed := by
  obtain ⟨e, he, enumeration, rfl⟩ := SharedPart.exists_enumeration hx
  obtain ⟨key, hk⟩ := h.files.types.bound e he enumeration
  rcases (h.covered shallow).names key _ hk with hd | ⟨s, hs, ⟨values, notes, hn⟩, hx⟩ |
    ⟨s, hs, hp | hf, -⟩
  · exact .inl hd
  · rw [← identifier?_enumeration hn] at hx
    exact (h.schemaValidator (le_refl _) hs hx).imp_right fun hf => ⟨s, hf⟩
  · exact absurd (h.settled s (h.files.types.within s hs)).2 hp
  · exact .inr ⟨s, hf⟩

end Shared

/-! ### Plans -/

variable {d : Description} {templates : TemplateId → ClientGen.Template} {settings : PlanSettings}
  {log : Log} {plan : Plan} {w : Workspace}

/-- The setting of the modules of a plan. -/
abbrev Plan.setting (plan : Plan) (d : Description) (templates : TemplateId → ClientGen.Template) :
    Setting :=
  d.setting templates plan.common plan.shared.declarations

/-- A type of the file itself is declared, or it has failed on a cycle with the declaration that
refers to it. -/
def LocalType (c : Setting) (w : Workspace) (owner x : String) : Prop :=
  x ∈ w.types.emitted ∨
    FailedOnCycle c (Graph.Leads c.description) w.registry w.types.failed owner x

/-- A constant of the file itself is declared, or its schema has failed on a cycle with that of the
declaration that refers to it. -/
def LocalValidator (c : Setting) (w : Workspace) (owner k : String) : Prop :=
  k ∈ w.validators.emitted ∨ ∃ y x, owner = validatorName y ∧ k = validatorName x ∧
    FailedOnCycle c (Graph.Leads c.description) w.registry w.validators.failed y x

/-- A shared type is declared, or its schema has failed. -/
def SharedType (c : Setting) (plan : Plan) (r : Registry) (x : String) : Prop :=
  x ∈ plan.shared.workspace.types.emitted ∨
    FailedAs c r plan.shared.workspace.types.failed x

/-- A shared constant is declared, or its schema has failed, or it is that of an enumeration that a
failed schema would have declared. -/
def SharedValidator (c : Setting) (plan : Plan) (r : Registry) (k : String) : Prop :=
  k ∈ plan.shared.workspace.validators.emitted ∨ ∃ x, k = validatorName x ∧
    (FailedAs c r plan.shared.workspace.validators.failed x ∨ x ∈ plan.shared.declarations ∧
      (c.description.Shallow → ∃ s, s ∈ plan.shared.workspace.validators.failed))

/-- Where the references in the files of a module lead. -/
structure ModulePart.Accounted (c : Setting) (plan : Plan) (part : ModulePart) : Prop where
  types : ∀ e ∈ part.workspace.types.declarations, ∀ q x, e.declaration.Mentions q x →
    q = none ∧ LocalType c part.workspace e.declaration.name x ∨
      q = some commonNamespace ∧ SharedType c plan part.workspace.registry x
  validators : ∀ e ∈ part.workspace.validators.declarations, ∀ q k, e.declaration.RefersTo q k →
    q = none ∧ LocalValidator c part.workspace e.declaration.name k ∨
      q = some commonNamespace ∧ SharedValidator c plan part.workspace.registry k
  operations : ∀ o ∈ part.operations, ∀ q x, o.parts.RefersTo q x →
    q = some part.target.namespace_ ∧ x ∈ part.workspace.types.emitted ∨
      q = some commonNamespace ∧ SharedType c plan part.workspace.registry x

/-- Where the references in the files of a plan lead. -/
structure Plan.Accounted (c : Setting) (plan : Plan) : Prop where
  types : ∀ e ∈ plan.shared.workspace.types.declarations, ∀ q x, e.declaration.Mentions q x →
    q = none ∧ LocalType c plan.shared.workspace e.declaration.name x
  validators : ∀ e ∈ plan.shared.workspace.validators.declarations, ∀ q k,
    e.declaration.RefersTo q k →
      q = none ∧ LocalValidator c plan.shared.workspace e.declaration.name k
  parts : ∀ part ∈ plan.parts, part.Accounted c plan

lemma not_sharedName {r : Registry} : ¬ (d.setting templates [] []).SharedName r x := by
  rintro (h | ⟨s, hs, -⟩)
  · simp at h
  · simp at hs

lemma PlanSound.part {part : ModulePart} (h : PlanSound d templates settings plan)
    (hp : part ∈ plan.parts) : ∃ m ∈ plan.modules,
      PartSound d templates plan.common plan.shared.declarations m part ∧
        plan.shared.workspace.registry ≤ part.workspace.registry := by
  obtain ⟨m, hm, hs⟩ := exists_of_forall₂_right h.parts hp
  exact ⟨m, hm, hs⟩

/-- The references in the files of a module are accounted for. -/
lemma PlanSound.accountedPart {part : ModulePart} (h : PlanSound d templates settings plan)
    (hp : part ∈ plan.parts) :
    part.Accounted (plan.setting d templates) plan := by
  obtain ⟨m, -, sound, hle⟩ := h.part hp
  have by_two (s : String) (hs : s ∈ plan.common) : SharedBy d plan.modules s := (h.common s).1 hs
  have shared {x : String} (hx : (plan.setting d templates).SharedName part.workspace.registry x) :
      SharedType (plan.setting d templates) plan part.workspace.registry x :=
    h.shared.type hle by_two hx
  refine ⟨fun e he q x hm => ?_, fun e he q k hm => ?_, fun o ho q x hm => ?_⟩
  · rcases sound.files.types.reference he hm with here | ⟨hq, -, hx⟩
    · exact .inl here
    · exact .inr ⟨hq, shared hx⟩
  · rcases sound.files.validators.reference he hm with here | ⟨hq, -, x, rfl, hx⟩
    · exact .inl here
    · refine .inr ⟨hq, ?_⟩
      rcases hx with hx | ⟨s, hs, hx⟩
      · by_cases shallow : d.Shallow
        · exact (h.shared.enumerationValidator shallow hx).imp_right fun failed =>
            ⟨x, rfl, .inr ⟨hx, fun _ => failed⟩⟩
        · exact .inr ⟨x, rfl, .inr ⟨hx, fun hs => absurd hs shallow⟩⟩
      · exact (h.shared.schemaValidator hle (by_two s hs) hx).imp_right fun hf =>
          ⟨x, rfl, .inl ⟨s, hf, hx⟩⟩
  · have target : OperationTarget (plan.setting d templates) part.target q x part.workspace := by
      rcases hm with ⟨a, ha, hm⟩ | hm
      · exact (sound.operations o ho).1.arguments a ha q x hm
      · exact (sound.operations o ho).1.response q x hm
    exact target.imp_right (And.imp_right shared)

lemma PlanSound.accounted (h : PlanSound d templates settings plan) :
    plan.Accounted (plan.setting d templates) := by
  refine ⟨fun e he q x hm => ?_, fun e he q k hm => ?_, fun part => h.accountedPart⟩
  · rcases h.shared.files.types.reference he hm with here | ⟨-, -, hx⟩
    · exact here
    · exact absurd hx not_sharedName
  · rcases h.shared.files.validators.reference he hm with here | ⟨-, -, x, -, hx⟩
    · exact here
    · exact absurd hx not_sharedName

/-! ### Closed plans -/

/-- Whatever the files of a module refer to is declared in the same file, in the file of the shared
schemas of its kind, or, for the files of operations, among the types of the module. -/
structure ModulePart.Closed (plan : Plan) (part : ModulePart) : Prop where
  types : ∀ e ∈ part.workspace.types.declarations, ∀ q x, e.declaration.Mentions q x →
    q = none ∧ x ∈ part.workspace.types.emitted ∨
      q = some commonNamespace ∧ x ∈ plan.shared.workspace.types.emitted
  validators : ∀ e ∈ part.workspace.validators.declarations, ∀ q k, e.declaration.RefersTo q k →
    q = none ∧ k ∈ part.workspace.validators.emitted ∨
      q = some commonNamespace ∧ k ∈ plan.shared.workspace.validators.emitted
  operations : ∀ o ∈ part.operations, ∀ q x, o.parts.RefersTo q x →
    q = some part.target.namespace_ ∧ x ∈ part.workspace.types.emitted ∨
      q = some commonNamespace ∧ x ∈ plan.shared.workspace.types.emitted

/-- Whatever the files of a plan refer to is declared where the reference leads. -/
structure Plan.Closed (plan : Plan) : Prop where
  types : ∀ e ∈ plan.shared.workspace.types.declarations, ∀ q x, e.declaration.Mentions q x →
    q = none ∧ x ∈ plan.shared.workspace.types.emitted
  validators : ∀ e ∈ plan.shared.workspace.validators.declarations, ∀ q k,
    e.declaration.RefersTo q k → q = none ∧ k ∈ plan.shared.workspace.validators.emitted
  parts : ∀ part ∈ plan.parts, part.Closed plan

/-- No schema has failed in the workspace that lies on a cycle of references. -/
def CyclesUnfailed (d : Description) (w : Workspace) : Prop :=
  ∀ s, s ∈ w.types.failed ∨ s ∈ w.validators.failed → ¬ TransGen (Graph.Leads d) s s

lemma FailedOnCycle.exists_cycle {leads : String → String → Prop} {failed : List String}
    {owner : String} (h : FailedOnCycle c leads r failed owner x) :
    ∃ s ∈ failed, TransGen leads s s := by
  obtain ⟨s, hs, t, -, -, hts, hst⟩ := h
  exact ⟨s, hs, .tail' hst hts⟩

lemma LocalType.emitted {owner : String} (h : LocalType c w owner x)
    (unfailed : CyclesUnfailed c.description w) : x ∈ w.types.emitted := by
  refine h.resolve_right fun hf => ?_
  obtain ⟨s, hs, cycle⟩ := hf.exists_cycle
  exact unfailed s (.inl hs) cycle

lemma LocalValidator.emitted {owner : String} (h : LocalValidator c w owner k)
    (unfailed : CyclesUnfailed c.description w) : k ∈ w.validators.emitted := by
  refine h.resolve_right ?_
  rintro ⟨y, x, -, -, hf⟩
  obtain ⟨s, hs, cycle⟩ := hf.exists_cycle
  exact unfailed s (.inr hs) cycle

/-- No shared schema has failed. -/
def Plan.SharedUnfailed (plan : Plan) : Prop :=
  ∀ s, s ∉ plan.shared.workspace.types.failed ∧ s ∉ plan.shared.workspace.validators.failed

lemma SharedType.emitted (h : SharedType c plan r x) (unfailed : plan.SharedUnfailed) :
    x ∈ plan.shared.workspace.types.emitted :=
  h.resolve_right fun ⟨s, hs, _⟩ => (unfailed s).1 hs

lemma SharedValidator.emitted (h : SharedValidator c plan r k) (unfailed : plan.SharedUnfailed)
    (shallow : c.description.Shallow) : k ∈ plan.shared.workspace.validators.emitted := by
  refine h.resolve_right ?_
  rintro ⟨x, -, ⟨s, hs, -⟩ | ⟨-, failed⟩⟩
  · exact (unfailed s).2 hs
  · obtain ⟨s, hs⟩ := failed shallow
    exact (unfailed s).2 hs

/-- A plan is closed if no shared schema has failed, and none on a cycle. -/
lemma Plan.Accounted.closed (h : plan.Accounted c) (shallow : c.description.Shallow)
    (unfailed : plan.SharedUnfailed)
    (cycles : ∀ part ∈ plan.parts, CyclesUnfailed c.description part.workspace) :
    plan.Closed where
  types e he q x hm := (h.types e he q x hm).imp_right fun hx => hx.resolve_right fun hf => by
    obtain ⟨s, hs, -⟩ := hf
    exact (unfailed s).1 hs
  validators e he q k hm := (h.validators e he q k hm).imp_right fun hk =>
    hk.resolve_right fun ⟨_, _, _, _, s, hs, _⟩ => (unfailed s).2 hs
  parts part hp :=
    { types := fun e he q x hm => ((h.parts part hp).types e he q x hm).imp
        (And.imp_right (·.emitted (cycles part hp))) (And.imp_right (·.emitted unfailed))
      validators := fun e he q k hm => ((h.parts part hp).validators e he q k hm).imp
        (And.imp_right (·.emitted (cycles part hp))) (And.imp_right (·.emitted unfailed shallow))
      operations := fun o ho q x hm => ((h.parts part hp).operations o ho q x hm).imp_right
        (And.imp_right (·.emitted unfailed)) }

/-- Whatever a plan refers to is declared, unless it is a shared schema that has failed, or a schema
that has failed on a cycle with the one that refers to it. Without such failures the plan is
closed. -/
theorem planOf_accounted :
    Meets (Plan.of d settings templates) log
      (fun plan _ => plan.Accounted (plan.setting d templates) ∧
        (d.Shallow → plan.SharedUnfailed →
          (∀ part ∈ plan.parts, CyclesUnfailed d part.workspace) → plan.Closed))
      fun e _ => NoPlan d templates settings e :=
  planOf_meets.imp (fun _ _ sound => ⟨sound.accounted, sound.accounted.closed⟩) fun _ _ he => he

end ClientGen
