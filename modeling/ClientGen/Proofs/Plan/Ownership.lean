import ClientGen.Proofs.Emission.Identity
import ClientGen.Proofs.Plan.Integrity
import ClientGen.Proofs.Plan.Steps

/-!
# Whose the declarations of a plan are

Every schema that a plan deals with and that does not fail has its own declaration in both files of
its directory, under the identifier that references to it go by, unless something else has the same
identifier: another schema, an enumeration, or the interface of a query.
-/

namespace ClientGen

open Api Emission Enumeration Naming Output Schema Template TypeScript

/-- A directory of a plan: its setting, the names of the queries that are declared in it, the
workspace that its files are written from, and these files if there are any. -/
structure Directory where
  setting : Setting
  queries : List String
  workspace : Workspace
  files : Option SchemaFiles

/-- The declaration of the type of a schema under the identifier `x`. An enumeration may share its
own with others that have the same values. -/
def OwnsType (c : Setting) (r : Registry) (failed : List String) (s x : String)
    (d : TypeDeclaration) : Prop :=
  match c.description.schema? s with
  | some (.enumeration values _) => ∃ values' description,
      d = .enumeration x values' description ∧ values ⊆ values' ∧ values' ⊆ values
  | _ => DeclaresType c r failed s d

/-- The declaration of the validator of a schema under the identifier `x`. -/
def OwnsValidator (c : Setting) (r : Registry) (failed : List String) (s x : String)
    (d : ValidatorDeclaration) : Prop :=
  match c.description.schema? s with
  | some (.enumeration values _) => ∃ values',
      d = .enumeration (validatorName x) values' ∧ values ⊆ values' ∧ values' ⊆ values
  | _ => DeclaresValidator c r failed s d

/-- Every schema that a file deals with and that does not fail is declared once under its identifier,
and what is declared there is its own if nothing else has the identifier. -/
def DeclaresOwn {δ : Type} [Declares δ] (c : Setting) (r : Registry) (f : DeclarationFile δ)
    (beside : String → Prop) (key : String → String) (owns : String → String → δ → Prop) : Prop :=
  ∀ s ∈ f.processed, s ∉ f.failed → ∃ x, c.identifier? r s = some x ∧
    ∃ e ∈ f.declarations, Declares.name e.declaration = key x ∧
      (∀ e' ∈ f.declarations, Declares.name e'.declaration = key x → e' = e) ∧
      (c.Unshared r (· ∈ f.processed) beside s x → owns s x e.declaration)

namespace Directory

/-- What is requested of a directory. -/
abbrev requests (D : Directory) : Requests D.setting :=
  .ofDirectory D.setting D.queries

/-- Everything in a directory has been asked for. -/
structure Recorded (D : Directory) : Prop where
  declarations : Emission.Recorded D.requests D.workspace
  names : D.workspace.registry.WellNamed

lemma recorded_of_steps {D : Directory} {r : Registry} {log : Log} (owned : r.Owned D.requests.asks)
    (named : r.WellNamed) (steps : Steps D.requests { registry := r, log } D.workspace) :
    D.Recorded :=
  ⟨(Emission.Recorded.fresh owned).steps steps, wellNamed_steps named steps⟩

/-- The schemas of a directory have their own declarations in both files. -/
structure Owns (D : Directory) : Prop where
  types : DeclaresOwn D.setting D.workspace.registry D.workspace.types (· ∈ D.queries) id
    (OwnsType D.setting D.workspace.registry D.workspace.types.failed)
  validators : DeclaresOwn D.setting D.workspace.registry D.workspace.validators (· ∈ D.queries)
    validatorName (OwnsValidator D.setting D.workspace.registry D.workspace.validators.failed)

/-- The files of a directory are among those of the plan and show what is declared. -/
def Shown (D : Directory) (plan : Plan) : Prop :=
  D.workspace = {} ∨
    ∃ files ∈ D.files, files.all ⊆ plan.files ∧ files.Shows D.workspace

end Directory

/-! ### Own declarations -/

section Own

variable {c : Setting} {R : Requests c} {r : Registry} {failed : List String} {s x : String}

lemma EnumerationNamed.sameValues {values values' : List String} {notes : Notes}
    (owned : r.Owned R.asks) (tell : KeysTell R.asks)
    (known : c.description.schema? s = some (.enumeration values notes))
    (hx : c.identifier? r s = some x) (named : EnumerationNamed R r x values') :
    values ⊆ values' ∧ values' ⊆ values := by
  obtain ⟨q, hq, hqx, rfl⟩ := enumerationNamed_of_schema (R := R) known hx
  obtain ⟨q', hq', hqx', rfl⟩ := named
  exact owned.sameValues tell hq hq' hqx hqx'

lemma Emission.OwnType.owns {d : TypeDeclaration} (h : OwnType R r failed s x d)
    (owned : r.Owned R.asks) (tell : KeysTell R.asks) (hx : c.identifier? r s = some x) :
    OwnsType c r failed s x d := by
  unfold OwnsType
  split
  · next values notes known =>
    obtain ⟨values', description, hd, named⟩ := h.enumeration ⟨values, notes, known⟩
    exact ⟨values', description, hd, EnumerationNamed.sameValues owned tell known hx named⟩
  · next other => exact h.plain fun ⟨values, notes, known⟩ => other values notes known

lemma Emission.OwnValidator.owns {d : ValidatorDeclaration} (h : OwnValidator R r failed s x d)
    (owned : r.Owned R.asks) (tell : KeysTell R.asks) (hx : c.identifier? r s = some x) :
    OwnsValidator c r failed s x d := by
  unfold OwnsValidator
  split
  · next values notes known =>
    obtain ⟨values', hd, named⟩ := h.enumeration ⟨values, notes, known⟩
    exact ⟨values', hd, EnumerationNamed.sameValues owned tell known hx named⟩
  · next other => exact h.plain fun ⟨values, notes, known⟩ => other values notes known

/-- A file that declares its schemas, and no name twice, declares each of them once. -/
lemma declaresOwn_of_declared {δ : Type} [Declares δ] {f : DeclarationFile δ}
    {beside : String → Prop} {key : String → String} {owns : String → String → δ → Prop}
    (declared : ∀ s ∈ f.processed, s ∉ f.failed →
      ∃ x, key x ∈ f.emitted ∧ c.identifier? r s = some x)
    (nodup : f.emitted.Nodup)
    (own : ∀ s x, c.identifier? r s = some x → c.Unshared r (· ∈ f.processed) beside s x →
      ∀ e ∈ f.declarations, Declares.name e.declaration = key x → owns s x e.declaration) :
    DeclaresOwn c r f beside key owns := by
  intro s hs unfailed
  obtain ⟨x, emitted, hx⟩ := declared s hs unfailed
  obtain ⟨e, he, name⟩ := List.mem_map.1 emitted
  exact ⟨x, hx, e, he, name,
    fun e' he' name' => List.inj_on_of_nodup_map nodup he' he (name'.trans name.symm),
    fun unshared => own s x hx unshared e he name⟩

lemma Directory.Recorded.owns {D : Directory} {G : Ground D.setting} (h : D.Recorded)
    (sound : FilesSound D.setting G D.workspace) (tell : KeysTell D.requests.asks) : D.Owns := by
  obtain ⟨recorded, -⟩ := h
  constructor
  · refine declaresOwn_of_declared (fun s hs unfailed => ?_) sound.types.emitted_nodup
      fun s x hx unshared e he name => ?_
    · rcases sound.types.declared s hs with path | failed | ⟨x, emitted, hx⟩
      · cases path
      · exact absurd failed unfailed
      · exact ⟨x, emitted, hx⟩
    · exact (recorded.ownType unshared he name).owns recorded.owned tell hx
  · refine declaresOwn_of_declared (fun s hs unfailed => ?_) sound.validators.emitted_nodup
      fun s x hx unshared e he name => ?_
    · rcases sound.validators.declared s hs with path | failed | own
      · cases path
      · exact absurd failed unfailed
      · exact own
    · exact (recorded.ownValidator unshared he name).owns recorded.owned tell hx

end Own

namespace Plan

variable (d : Description) (templates : TemplateId → ClientGen.Template)

/-- The directory of the shared schemas. -/
def sharedDirectory (part : SharedPart) : Directory :=
  ⟨d.setting templates [] [], [], part.workspace, part.files⟩

/-- The directory of a module. -/
def moduleDirectory (common declarations : List String) (part : ModulePart) : Directory :=
  ⟨d.setting templates common declarations, queryNames [] (d.operationsOf part.target.module),
    part.workspace, some part.files.schemas⟩

/-- The directories of a plan. -/
def directories (plan : Plan) : List Directory :=
  sharedDirectory d templates plan.shared ::
    plan.parts.map (moduleDirectory d templates plan.common plan.shared.declarations)

end Plan

/-! ### Descriptions whose names are apart -/

section Apart

variable {d : Description} {templates : TemplateId → ClientGen.Template}

mutual

/-- Where an enumeration stands does not change its values. -/
lemma Schema.SchemaNode.snd_enumerations (property property' : Option String) :
    ∀ n : SchemaNode,
      (n.enumerations property).map Prod.snd = (n.enumerations property').map Prod.snd
  | .enumeration _ _ => rfl
  | .primitive _ _ _ | .array _ _ _ | .object [] none _ | .object [] (some _) _
  | .object (_ :: _) _ _ | .reference _ _ | .unknown _ => rfl
  | .oneOf ns _ | .anyOf ns _ | .allOf ns _ =>
    SchemaNode.snd_enumerationsAll property property' ns

lemma Schema.SchemaNode.snd_enumerationsAll (property property' : Option String) :
    ∀ ns : List SchemaNode, (SchemaNode.enumerationsAll property ns).map Prod.snd =
      (SchemaNode.enumerationsAll property' ns).map Prod.snd
  | [] => rfl
  | n :: ns => by
    simp only [SchemaNode.enumerationsAll, List.map_append]
    rw [n.snd_enumerations property property', SchemaNode.snd_enumerationsAll property property' ns]

end

/-- The values of an enumeration are plain, and they are not the one value `schema`. -/
def PlainValues (values : List String) : Prop :=
  values ≠ ["schema"] ∧ ∀ v ∈ values, IsPlain v

instance (values : List String) : Decidable (PlainValues values) :=
  inferInstanceAs (Decidable (_ ∧ _))

/-- If the values of all enumerations are plain, the keys of the questions for their names are
apart. -/
lemma keysApart_of_plainValues
    (schemas : ∀ e ∈ d.schemas, ∀ e' ∈ e.2.enumerations none, PlainValues e'.2)
    (operations : ∀ op ∈ d.operations, ∀ n ∈ op.schemas, ∀ e' ∈ n.enumerations none,
      PlainValues e'.2) : KeysApart d.Asks := by
  have asked : ∀ q, d.Asks q → PlainValues q.values := by
    rintro (⟨values, s⟩ | ⟨values, context⟩) (hq | hq)
    · obtain ⟨notes, hs⟩ := hq
      exact schemas (s, .enumeration values notes) (mem_of_lookup hs) (none, values)
        (by simp [SchemaNode.enumerations])
    · cases hq
    · obtain ⟨s, n, e, hs, he, rfl, -⟩ := hq
      exact schemas (s, n) (mem_of_lookup hs) e he
    · obtain ⟨op, hop, n, hn, property, parent, e, he, rfl, -⟩ := hq
      have hv : e.2 ∈ (n.enumerations none).map Prod.snd :=
        n.snd_enumerations property none ▸ List.mem_map_of_mem he
      obtain ⟨e', he', same⟩ := List.mem_map.1 hv
      exact same ▸ operations op hop n hn e' he'
  refine keysApart_of_plain (fun q hq => (asked q hq).2) ?_ fun q hq => (asked q hq).1
  rintro values values' s (⟨notes, hs⟩ | none) (⟨notes', hs'⟩ | none')
  · exact (SchemaNode.enumeration.inj (Option.some.inj (hs.symm.trans hs'))).1
  · cases none'
  · cases none
  · cases none

/-- No interface of a query is called as an enumeration is. -/
lemma isEnumName_queryName (name : String) : isEnumName (queryName name) = false := by
  have parts : (queryName name).toList =
      (pascalCase name).toList ++ "QueryParam".toList ++ ['s'] := by
    rw [queryName, String.toList_append, List.append_assoc]
    rfl
  unfold isEnumName Text.endsWith
  rw [parts, Text.dropEndWhile_of_last (by decide), Bool.eq_false_iff, ne_eq,
    List.isSuffixOf_iff_suffix]
  rintro ⟨front, h⟩
  have last := congrArg List.getLast? h
  simp at last

lemma exists_of_mem_queryNames {x : String} : ∀ {asked : List (String × Nat)}
    {ops : List Operation}, x ∈ queryNames asked ops → ∃ name, x = queryName name
  | _, [], h => by simp [queryNames] at h
  | asked, op :: rest, h => by
    rw [queryNames] at h
    rcases List.mem_append.1 h with h | h
    · split at h
      · exact ⟨_, List.mem_singleton.1 h⟩
      · cases h
    · exact exists_of_mem_queryNames h

/-- No two schemas that are no enumerations have the same identifier, and none of them is called as
an enumeration or as the interface of a query is. -/
structure Api.Description.NamesApart (d : Description) : Prop where
  schemas : ∀ e ∈ d.schemas, ∀ e' ∈ d.schemas, e.2.isEnumeration = false →
    e'.2.isEnumeration = false → e'.1 ≠ e.1 → typeIdentifier e'.1 ≠ typeIdentifier e.1
  enumerations : ∀ e ∈ d.schemas, e.2.isEnumeration = false →
    isEnumName (typeIdentifier e.1) = false
  queries : ∀ e ∈ d.schemas, e.2.isEnumeration = false →
    ¬ "QueryParams".toList <:+ (typeIdentifier e.1).toList

lemma Api.Description.NamesApart.identifiersApart (apart : d.NamesApart) {plan : Plan}
    {D : Directory} (hD : D ∈ plan.directories d templates) :
    D.setting.IdentifiersApart (· ∈ D.queries) := by
  have same : D.setting.description = d ∧ ∀ x ∈ D.queries, ∃ name, x = queryName name := by
    rcases List.mem_cons.1 hD with rfl | hpart
    · exact ⟨rfl, by simp [Plan.sharedDirectory]⟩
    · obtain ⟨part, -, rfl⟩ := List.mem_map.1 hpart
      exact ⟨rfl, fun x => exists_of_mem_queryNames⟩
  obtain ⟨description, queries⟩ := same
  constructor
  · rw [description]
    intro s t n m hs ht hn hm ne
    exact apart.schemas (s, n) (mem_of_lookup hs) (t, m) (mem_of_lookup ht) hn hm ne
  · rw [description]
    exact fun s n hs hn => apart.enumerations (s, n) (mem_of_lookup hs) hn
  · rw [description]
    intro s n hs hn query
    obtain ⟨name, hx⟩ := queries _ query
    refine apart.queries (s, n) (mem_of_lookup hs) hn ?_
    rw [hx, queryName, String.toList_append]
    exact List.suffix_append _ _
  · intro x hx
    obtain ⟨name, rfl⟩ := queries x hx
    exact isEnumName_queryName name

end Apart

/-! ### Planning -/

variable {d : Description} {templates : TemplateId → ClientGen.Template} {settings : PlanSettings}
  {common declarations modules names : List String} {module : String} {log : Log}

lemma planShared_recorded :
    Meets (planShared (d.setting templates [] []) settings.layout common) log
      (fun part _ => (Plan.sharedDirectory d templates part).Recorded) fun _ _ => True := by
  unfold planShared
  split
  · exact meets_pure.2 ⟨.fresh Registry.owned_fresh, Registry.wellNamed_fresh⟩
  · have schemas : (Requests.ofDirectory (d.setting templates [] []) []).Steps
        (emitSchemas (d.setting templates [] []) common) {} := emitSchemas_takes
    refine meets_bind.2 (meets_modify.2 (meets_bind.2 (emitting_meets.2
      (schemas.imp ?_ fun _ _ _ => trivial))))
    rintro failures w ⟨steps, -⟩
    refine meets_bind.2 (planned_meets (fun files _ => ?_) fun _ _ => trivial)
    exact meets_pure.2 (Directory.recorded_of_steps (D := ⟨_, [], w, _⟩) Registry.owned_fresh
      Registry.wellNamed_fresh steps)

lemma planModule_recorded {registry : Registry} (owned : registry.Owned d.Asks)
    (named : registry.WellNamed) :
    Meets (planModule (d.setting templates common declarations) settings registry module names) log
      (fun part _ => (Plan.moduleDirectory d templates common declarations part).Recorded)
      fun _ _ => True := by
  have schemas : (Requests.ofDirectory (d.setting templates common declarations)
      (queryNames [] (d.operationsOf module))).Steps
        (emitSchemas (d.setting templates common declarations) names) { registry } :=
    emitSchemas_takes
  have operations (t : Target) (w : Workspace) :
      (Requests.ofDirectory (d.setting templates common declarations)
        (queryNames [] (d.operationsOf module))).Steps
          (emitOperations (d.setting templates common declarations) t [] (d.operationsOf module))
            w :=
    emitOperations_takes [] _ w (List.filter_subset_self _) (List.Subset.refl _)
  have library (log : Log) : Meets (hookLibrary settings.hooks) log (fun _ _ => True)
      fun _ _ => True :=
    (@hookLibrary_meets d templates settings log).imp (fun _ _ _ => trivial) fun _ _ _ => trivial
  unfold planModule
  refine meets_bind.2 (emitting_meets.2 (schemas.imp ?_ fun _ _ _ => trivial))
  rintro failures w ⟨steps, -⟩
  refine meets_bind.2 ((library _).imp ?_ fun _ _ _ => trivial)
  rintro hooks log' -
  refine meets_bind.2 (emitting_meets.2 ((operations _ _).imp ?_ fun _ _ _ => trivial))
  rintro ⟨ops, failures'⟩ w' ⟨steps', -⟩
  refine meets_bind.2 (planned_meets (fun files _ => ?_) fun _ _ => trivial)
  refine meets_bind.2 (meets_modify.2 (meets_pure.2 ?_))
  exact Directory.recorded_of_steps (D := ⟨_, _, w', _⟩) owned named
    ((steps.tail .report).trans steps')

/-- Each module takes the names from those before it. -/
lemma planModules_recorded {map : Partition.ModuleMap} :
    ∀ (modules : List String) (registry : Registry) (log : Log), registry.Owned d.Asks →
      registry.WellNamed →
      Meets (planModules (d.setting templates common declarations) settings map registry modules)
        log
        (fun parts _ => ∀ part ∈ parts,
          (Plan.moduleDirectory d templates common declarations part).Recorded)
        fun _ _ => True
  | [], _, _, _, _ => meets_pure.2 (by simp)
  | module :: rest, registry, log, owned, named => by
    rw [planModules]
    refine meets_bind.2 ((planModule_recorded owned named).imp ?_ fun _ _ he => he)
    intro part log' recorded
    refine meets_bind.2 ((planModules_recorded rest part.workspace.registry log'
      recorded.declarations.owned recorded.names).imp ?_ fun _ _ he => he)
    intro parts log'' others
    exact meets_pure.2 (List.forall_mem_cons.2 ⟨recorded, others⟩)

/-- Everything in the directories of a plan has been asked for. -/
lemma planOf_recorded :
    Meets (Plan.of d settings templates) log
      (fun plan _ => ∀ D ∈ plan.directories d templates, D.Recorded) fun _ _ => True := by
  unfold Plan.of
  refine meets_bind.2 (meets_modify.2 ?_)
  dsimp only
  refine meets_bind.2 (meets_modify.2 (meets_bind.2 (meets_liftM.2 ⟨fun modules _ => ?_,
    fun _ _ => trivial⟩)))
  refine meets_bind.2 (planShared_recorded.imp ?_ fun _ _ _ => trivial)
  intro shared log' hs
  refine meets_bind.2 ((planModules_recorded modules shared.workspace.registry log'
    hs.declarations.owned hs.names).imp ?_ fun _ _ _ => trivial)
  intro parts log'' hp
  refine meets_bind.2 (planned_meets (fun _ _ => ?_) fun _ _ => trivial)
  refine meets_pure.2 (List.forall_mem_cons.2 ⟨hs, fun D hD => ?_⟩)
  obtain ⟨part, hpart, rfl⟩ := List.mem_map.1 hD
  exact hp part hpart

lemma PlanSound.owns {plan : Plan} (h : PlanSound d templates settings plan)
    (recorded : ∀ D ∈ plan.directories d templates, D.Recorded) (tell : KeysTell d.Asks) :
    ∀ D ∈ plan.directories d templates, D.Owns := by
  intro D hD
  rcases List.mem_cons.1 hD with rfl | hpart
  · exact (recorded _ hD).owns h.shared.files tell
  · obtain ⟨part, hp, rfl⟩ := List.mem_map.1 hpart
    obtain ⟨m, -, sound, -⟩ := h.part hp
    exact (recorded _ hD).owns sound.files tell

lemma PlanSound.shown {plan : Plan} (h : PlanSound d builtin settings plan) :
    ∀ D ∈ plan.directories d builtin, D.Shown plan := by
  intro D hD
  rcases List.mem_cons.1 hD with rfl | hpart
  · refine h.shared.rendered.imp And.right ?_
    rintro ⟨files, hf, rendered⟩
    refine ⟨files, hf, fun f hmem => h.files.subset (List.mem_append_left _ ?_),
      h.shared.files.shows rfl rendered⟩
    exact List.mem_flatMap.2 ⟨files, by simp [hf], hmem⟩
  · obtain ⟨part, hp, rfl⟩ := List.mem_map.1 hpart
    obtain ⟨m, -, sound, -⟩ := h.part hp
    refine .inr ⟨_, rfl, fun f hmem => h.files.subset (List.mem_append_right _ ?_),
      sound.files.shows rfl (eq_of_moduleFiles sound.rendered).1⟩
    exact List.mem_flatMap.2 ⟨part, hp, by simp [ModuleFiles.all, hmem]⟩

/-- In every directory of a plan each schema that does not fail is declared once in both files under
its identifier, and what is declared there is its own unless something else has the identifier. In
all modules a shared schema goes by the identifier that it is declared under. With the built-in
templates the files show the declarations. -/
theorem planOf_owns {plan : Plan} {log' : Log} (tell : KeysTell d.Asks)
    (run : outcome (Plan.of d settings templates) log = (.ok plan, log')) :
    (∀ D ∈ plan.directories d templates, D.Owns) ∧
      (∀ D ∈ plan.directories d templates, ∀ s x,
        (d.setting templates [] []).identifier? plan.shared.workspace.registry s = some x →
          D.setting.identifier? D.workspace.registry s = some x) ∧
      (templates = builtin → ∀ D ∈ plan.directories d templates, D.Shown plan) := by
  have sound := planOf_meets.of_ok run
  refine ⟨sound.owns (planOf_recorded.of_ok run) tell, fun D hD s x hx => ?_, ?_⟩
  · rcases List.mem_cons.1 hD with rfl | hpart
    · exact hx
    · obtain ⟨part, hp, rfl⟩ := List.mem_map.1 hpart
      obtain ⟨m, -, -, hle⟩ := sound.part hp
      exact identifier?_mono hle hx
  · rintro rfl
    exact sound.shown

/-- Members of a club with their roles, of which a query may ask for one. -/
def club : Description where
  schemas := [
    ("Role", .enumeration ["admin", "guest"] {}),
    ("Member", .object [⟨"role", true, .reference "#/components/schemas/Role" {}⟩,
      ⟨"friend", false, .reference "#/components/schemas/Member" {}⟩] none {})]
  operations := [
    { method := .get, path := "/members", tags := ["members"],
      parameters := [⟨"role", "query", false, .enumeration ["guest", "admin"] {}, none⟩],
      responses := [("200", some (.reference "#/components/schemas/Member" {}))] }]

lemma club_namesApart : club.NamesApart where
  schemas := by decide +kernel
  enumerations := by decide +kernel
  queries := by decide +kernel

/-- In the plan of the club no identifier is shared, and roles and members have their own
declarations in both files. -/
theorem planOf_club : KeysTell club.Asks ∧
    ∃ plan log, outcome (Plan.of club {}) [] = (.ok plan, log) ∧
      (∀ D ∈ plan.directories club builtin, D.Owns ∧
        D.setting.IdentifiersApart (· ∈ D.queries)) ∧
      ∃ D ∈ plan.directories club builtin,
        (∀ s ∈ ["Role", "Member"], s ∈ D.workspace.types.processed ∧
          s ∈ D.workspace.validators.processed) ∧
        D.workspace.types.failed = [] ∧ D.workspace.validators.failed = [] := by
  have tell : KeysTell club.Asks := (keysApart_of_plainValues (by decide) (by decide)).tell
  obtain ⟨plan, log, run, sound, chosen⟩ : ∃ plan log, outcome (Plan.of club {}) [] =
      (.ok plan, log) ∧ PlanSound club builtin {} plan ∧ plan.modules = ["members"] :=
    exists_planOf (by decide +kernel) (by simp) (by decide +kernel)
  refine ⟨tell, plan, log, run, fun D hD =>
    ⟨(planOf_owns tell run).1 D hD, club_namesApart.identifiersApart hD⟩, ?_⟩
  have parts := sound.parts
  rw [chosen, List.forall₂_cons_left_iff] at parts
  obtain ⟨part, rest, ⟨members, -⟩, -, all⟩ := parts
  have hp : part ∈ plan.parts := by
    rw [all]
    exact List.mem_cons_self
  have unfailed := members.files.unfailed (by decide +kernel) fun _ he => he
  refine ⟨_, List.mem_cons_of_mem _ (List.mem_map_of_mem hp), fun s hs => ?_,
    List.eq_nil_iff_forall_not_mem.2 fun s => (unfailed s).1,
    List.eq_nil_iff_forall_not_mem.2 fun s => (unfailed s).2⟩
  have one : s ∉ plan.common := by
    rw [sound.common, chosen]
    rintro ⟨m, hm, m', hm', ne, -⟩
    exact ne ((List.mem_singleton.1 hm).trans (List.mem_singleton.1 hm').symm)
  have root : ∃ op ∈ club.operationsOf "members", "Member" ∈ op.referencedSchemas := by
    decide +kernel
  have leads : ∀ s ∈ ["Role", "Member"],
      s ∈ club.schemaNames ∧ (s = "Member" ∨ s ∈ club.targets "Member") := by decide +kernel
  obtain ⟨known, reached⟩ := leads s hs
  obtain ⟨op, hop, hroot⟩ := root
  refine members.settled s ⟨⟨known, op, hop, "Member", hroot, ?_⟩, one⟩
  rcases reached with rfl | step
  · exact .refl
  · exact .single step

end ClientGen
