import ClientGen.Plan
import ClientGen.Proofs.Emission.Coverage
import ClientGen.Proofs.Graph.Order

/-!
# The schemas of a directory

All schemas of a directory are dealt with in both of its files, one after another, and both files
stay sound. An error of a schema ends the emission of that schema only.
-/

namespace ClientGen

open Api Emission Schema

variable {c : Setting} {G : Ground c} {covering : Prop} {w w' : Workspace} {name : String}
  {node : SchemaNode}

/-- What holds of both files between the emissions of schemas. -/
structure FilesSound (c : Setting) (G : Ground c) (w : Workspace) : Prop where
  types : TypesSound c G [] w.registry w.types
  validators : ValidatorsSound c G [] w.registry w.validators w.deferredTargets

/-- Both files grow, and the registry with them. -/
structure FilesGrow (w w' : Workspace) : Prop where
  registry : w.registry ≤ w'.registry
  types : FileProceeds w.types w'.types
  validators : FileProceeds w.validators w'.validators

lemma FilesGrow.refl (w : Workspace) : FilesGrow w w :=
  ⟨le_refl _, .refl _, .refl _⟩

lemma FilesGrow.trans {w'' : Workspace} (h : FilesGrow w w') (h' : FilesGrow w' w'') :
    FilesGrow w w'' :=
  ⟨h.registry.trans h'.registry, h.types.trans h'.types, h.validators.trans h'.validators⟩

/-- What is needed for the validators of a directory to cover the enumerations of its types: that it
shares nothing, and that its schemas are not nested too deep. -/
structure Covering (c : Setting) (G : Ground c) : Prop where
  schemas : c.commonSchemas = []
  declarations : c.commonDeclarations = []
  shallow : ∀ s n, G.lowers s n → 1 + n.nesting ≤ c.maxDepth

/-- What emission of the schemas of a directory keeps: both files are sound and, if it covers its
enumerations, covered. -/
def Emission.Ground.files (G : Ground c) (covering : Prop) : Contract where
  holds w := FilesSound c G w ∧ (covering → Covered G w)
  grows := FilesGrow
  permits := G.permits
  grows_refl := .refl
  grows_trans := .trans
  quiet _ _ := ⟨⟨le_refl _, .refl _, .refl _⟩, fun h =>
    ⟨⟨h.1.types, h.1.validators⟩, fun hc => ⟨(h.2 hc).names, (h.2 hc).known⟩⟩⟩

lemma FilesSound.typesStep (h : FilesSound c G w) (hg : TypesStep w w')
    (types : TypesSound c G [] w'.registry w'.types) : FilesSound c G w' where
  types := types
  validators := by
    rw [hg.validators, hg.deferredTargets]
    exact h.validators.registry hg.registry

lemma FilesSound.validatorsStep (h : FilesSound c G w) (hg : ValidatorsStep w w')
    (validators : ValidatorsSound c G [] w'.registry w'.validators w'.deferredTargets) :
    FilesSound c G w' where
  types := by
    rw [hg.types]
    exact h.types.registry hg.registry
  validators := validators

lemma Emission.TypesStep.filesGrow (hg : TypesStep w w') : FilesGrow w w' :=
  ⟨hg.registry, hg.types, by rw [hg.validators]; exact .refl _⟩

lemma Emission.ValidatorsStep.filesGrow (hg : ValidatorsStep w w') : FilesGrow w w' :=
  ⟨hg.registry, by rw [hg.types]; exact .refl _, hg.validators⟩

/-- The type of a schema has been dealt with afterwards, whether it failed or not. -/
lemma caught_emitType_keeps (exact : G.Exact) (hc : covering → Covering c G)
    (within : G.within name) (lowers : G.lowers name node) :
    (G.files covering).handled.Keeps (caught (emitType c name none)) w fun r w' =>
      name ∈ w'.types.processed ∧ ∀ e, r = .error e → G.permits (.schema e) := by
  intro hw
  have asks : Meets (emitType c name none) w (fun _ w' => covering → TypesAsk G w w')
      fun e w' => ∀ s, e = .schema s → covering → TypesAsk G w w' := by
    by_cases h : covering
    · exact (emitType_asks exact (hc h).schemas within lowers trivial).imp
        (fun _ _ ha _ => ha.2.1) fun _ _ ha s hs _ => (ha.2 s hs).2
    · exact Meets.trivial.imp (fun _ _ _ hc => absurd hc h) fun _ _ _ _ _ hc => absurd hc h
  refine meets_caught.2 (((emitType_meets exact within lowers hw.1.types).and asks).imp ?_ ?_)
  · rintro _ w' ⟨⟨hw', hg, hp⟩, ha⟩
    exact ⟨⟨hw.1.typesStep hg hw', fun h => (hw.2 h).types (ha h) hg.validators⟩, hg.filesGrow, hp,
      by rintro _ ⟨⟩⟩
  · rintro (e | e | e | e) w' ⟨⟨he, hs⟩, ha⟩
    · obtain ⟨hw', hg, hp⟩ := hs e rfl
      refine ⟨⟨hw.1.typesStep hg hw', fun h => (hw.2 h).types (ha e rfl h) hg.validators⟩,
        hg.filesGrow, hp, ?_⟩
      rintro _ ⟨⟩
      exact he
    all_goals exact ⟨⟨he, by rintro _ ⟨⟩⟩, by rintro _ ⟨⟩⟩

/-- The validator of a schema has been dealt with afterwards, whether it failed or not. -/
lemma caught_emitValidator_keeps (exact : G.Exact) (hc : covering → Covering c G)
    (within : G.within name) (lowers : G.lowers name node) :
    (G.files covering).handled.Keeps (caught (emitValidator c name none)) w fun r w' =>
      name ∈ w'.validators.processed ∧ ∀ e, r = .error e → G.permits (.schema e) := by
  intro hw
  have known := exact lowers
  have asks : Meets (emitValidator c name none) w (fun _ w' => covering → ValidatorsAsk G w w')
      fun e w' => ∀ s, e = .schema s → covering → ValidatorsAsk G w w' := by
    by_cases h : covering
    · exact (emitValidator_asks exact (hc h).schemas (hc h).declarations (hc h).shallow within
        lowers trivial).imp (fun _ _ ha _ => ha.2.1) fun _ _ ha s hs _ => (ha.2 s hs).2
    · exact Meets.trivial.imp (fun _ _ _ hc => absurd hc h) fun _ _ _ _ _ hc => absurd hc h
  have sound := emitValidator_meets none within (fun n hn => by
    obtain rfl := Option.some.inj (known.symm.trans (hn.resolve_left (by rintro ⟨⟩)).2)
    exact lowers) hw.1.validators
  refine meets_caught.2 ((sound.and asks).imp ?_ ?_)
  · rintro _ w' ⟨⟨hw', hg, hp⟩, ha⟩
    exact ⟨⟨hw.1.validatorsStep hg hw', fun h => (hw.2 h).validators (ha h) hg.types⟩,
      hg.filesGrow, hp, by rintro _ ⟨⟩⟩
  · rintro (e | e | e | e) w' ⟨⟨he, hs⟩, ha⟩
    · obtain ⟨hw', hg, hp⟩ := hs e rfl
      refine ⟨⟨hw.1.validatorsStep hg hw', fun h => (hw.2 h).validators (ha e rfl h) hg.types⟩,
        hg.filesGrow, hp ⟨node, known⟩, ?_⟩
      rintro _ ⟨⟩
      exact he.resolve_right fun hn => by simp [known] at hn
    all_goals exact ⟨⟨he.resolve_right fun hn => by simp [known] at hn, by rintro _ ⟨⟩⟩,
      by rintro _ ⟨⟩⟩

/-- The schema has been dealt with in both files. -/
def BothProcessed (name : String) (w : Workspace) : Prop :=
  name ∈ w.types.processed ∧ name ∈ w.validators.processed

lemma BothProcessed.grows (hg : FilesGrow w w') (h : BothProcessed name w) :
    BothProcessed name w' :=
  ⟨hg.types.processed h.1, hg.validators.processed h.2⟩

/-- A schema has been dealt with in both files afterwards, and fails only if that is permitted. -/
lemma emitSchema_keeps (exact : G.Exact) (hc : covering → Covering c G)
    (within : G.within name) (lowers : G.lowers name node) :
    (G.files covering).handled.Keeps (emitSchema c name) w fun r w' =>
      BothProcessed name w' ∧ (r ≠ none → ∃ e, G.permits (.schema e)) := by
  unfold emitSchema
  refine (caught_emitType_keeps exact hc within lowers).bind fun type w₁ _ ht => ?_
  refine (caught_emitValidator_keeps exact hc within lowers).bind fun validator w₂ hg₂ hv => ?_
  have both : BothProcessed name w₂ := ⟨hg₂.types.processed ht.1, hv.1⟩
  have failed {e : SchemaError} (he : G.permits (.schema e)) :
      (G.files covering).handled.Keeps (do
        note .warning ("Skipping schema " ++ name ++ ": " ++ e.message)
        return some (name ++ ": " ++ e.message)) w₂ fun r w' =>
          BothProcessed name w' ∧ (r ≠ none → ∃ e, G.permits (.schema e)) :=
    .bind (.note (T := fun _ w' => BothProcessed name w') fun _ hg => both.grows hg)
      fun _ _ _ hb => .pure fun _ => ⟨hb, fun _ => ⟨e, he⟩⟩
  rcases type with e | ⟨⟩
  · exact failed (ht.2 e rfl)
  · rcases validator with e | ⟨⟩
    · exact failed (hv.2 e rfl)
    · exact .pure fun _ => ⟨both, fun h => absurd rfl h⟩

/-- All schemas of a directory have been dealt with in both files afterwards. -/
lemma emitSchemas_keeps (covering : Prop) {names : List String} (exact : G.Exact) (hc : covering → Covering c G)
    (within : ∀ s ∈ names, G.within s ∧ ∃ n, G.lowers s n) :
    (G.files covering).handled.Keeps (emitSchemas c names) w fun failures w' =>
      (∀ s ∈ names, BothProcessed s w') ∧ (failures ≠ [] → ∃ e, G.permits (.schema e)) := by
  unfold emitSchemas
  refine Contract.Keeps.bind (Q := fun _ _ => True) (.modify fun hw =>
    ⟨((G.files covering).quiet w _).2 hw, ((G.files covering).quiet w _).1, trivial⟩)
    fun _ w' _ _ => ?_
  have each := Contract.Keeps.mapM (K := (G.files covering).handled) (g := emitSchema c)
    (S := fun s r w => BothProcessed s w ∧ (r ≠ none → ∃ e, G.permits (.schema e)))
    (fun _ _ _ _ hg h => ⟨h.1.grows hg, h.2⟩) (Graph.dependencyOrder c.description names) w'
    fun s hs w'' _ => by
      obtain ⟨hin, n, hn⟩ := within s (Graph.mem_dependencyOrder.1 hs)
      exact emitSchema_keeps exact hc hin hn
  refine each.bind fun rs w'' _ hr => .pure fun _ => ⟨fun s hs => ?_, fun hne => ?_⟩
  · obtain ⟨_, -, hs, -⟩ :=
      exists_of_forall₂_left hr (Graph.mem_dependencyOrder.2 hs)
    exact hs
  · obtain ⟨failure, hf⟩ := List.exists_mem_of_ne_nil _ hne
    obtain ⟨r, hr', hrf⟩ := List.mem_filterMap.1 hf
    obtain ⟨s, -, -, hp⟩ := exists_of_forall₂_right hr hr'
    exact hp (by rw [show r = some failure from hrf]; simp)

end ClientGen
