import ClientGen.Plan
import ClientGen.Proofs.Machine.Beside

/-!
# Reading and planning behind other messages

What a document is read as, and what is planned for a description, does not depend on what was reported
before.
-/

namespace ClientGen

open Api Document Emission Output Partition Schema Template

/-! ### Reading a description -/

namespace Api

lemma isLogFree_readText (v : Value) : IsLogFree (readText v) :=
  isLogFree_liftM _

lemma isLogFree_readSchema (v : Value) : IsLogFree (readSchema v) :=
  isLogFree_liftM _

lemma isLogFree_textUnder (v : Value) (key : String) : IsLogFree (textUnder v key) := by
  unfold textUnder
  split
  · exact isLogFree_readText _
  · exact isLogFree_pure _

lemma isLogFree_follow (document : Value) (part : Option Value) (table : String) :
    IsLogFree (follow document part table) := by
  unfold follow
  split
  · split
    · exact isLogFree_pure _
    · dsimp only
      split
      · exact isLogFree_pure _
      · exact (isLogFree_report _ _).bind fun _ => isLogFree_pure _
  · exact isLogFree_pure _

lemma isLogFree_isJsonMedia (mediaType : Value) : IsLogFree (isJsonMedia mediaType) := by
  unfold isJsonMedia
  split
  · exact isLogFree_pure _
  · exact (isLogFree_readText _).bind fun _ => isLogFree_pure _

lemma isLogFree_firstJsonSchema : ∀ entries, IsLogFree (firstJsonSchema entries)
  | [] => isLogFree_pure _
  | (mediaType, media) :: rest => by
    rw [firstJsonSchema]
    split
    · exact isLogFree_firstJsonSchema rest
    · refine (isLogFree_isJsonMedia mediaType).bind fun b => ?_
      cases b
      · exact isLogFree_firstJsonSchema rest
      · rw [if_pos rfl]
        split
        · exact (isLogFree_readSchema _).bind fun _ => isLogFree_pure _
        · exact isLogFree_firstJsonSchema rest

lemma isLogFree_jsonSchema (content : Option Value) : IsLogFree (jsonSchema content) := by
  unfold jsonSchema
  split
  · exact isLogFree_firstJsonSchema _
  · exact isLogFree_pure _

lemma isLogFree_addParameter (document : Value) (acc : Parameters) (raw : Value) :
    IsLogFree (Parameters.add document acc raw) := by
  refine (isLogFree_follow _ _ _).bind fun found => ?_
  cases found with
  | none => exact isLogFree_pure _
  | some data =>
    dsimp only
    split
    · exact isLogFree_pure _
    · refine (isLogFree_textUnder _ _).bind fun location => ?_
      split
      · exact (isLogFree_readSchema _).bind fun _ => isLogFree_pure _
      · exact (isLogFree_textUnder _ _).bind fun _ => (isLogFree_readSchema _).bind fun _ =>
          isLogFree_pure _

lemma isLogFree_readResponses (document details : Value) :
    IsLogFree (readResponses document details) := by
  refine (isLogFree_mapM (fun e => ?_) _).bind fun _ => isLogFree_pure _
  refine (isLogFree_follow _ _ _).bind fun found => ?_
  cases found with
  | none => exact (isLogFree_readText _).bind fun _ => isLogFree_pure _
  | some data =>
    have named (schema : Option SchemaNode) :
        IsLogFree (do return (← readText e.1, schema) : Reporting ReadFault _) :=
      (isLogFree_readText _).bind fun _ => isLogFree_pure _
    refine (isLogFree_jsonSchema _).bind fun content => ?_
    dsimp only
    split
    · exact named _
    · exact ((isLogFree_readSchema _).map _).bind fun _ => named _
    · exact named _

lemma isLogFree_readOperation (document : Value) (path : String) (method : Method)
    (shared : List Value) (details : Value) :
    IsLogFree (readOperation document path method shared details) := by
  refine (isLogFree_foldlM (isLogFree_addParameter document) _ _).bind fun parameters => ?_
  have rest (body : Option SchemaNode) (required : Bool) : IsLogFree (do
      let responses ← readResponses document details
      let tags ← (itemsUnder details "tags").mapM readText
      let operationId ←
        if details.flag "operationId" then some <$> textUnder details "operationId" else pure none
      return {
        method, path, tags, operationId
        summary := details.getText? "summary"
        description := details.getText? "description"
        parameters := parameters.declared
        requestBody := body
        requestBodyRequired := required
        responses
        deprecated := details.flag "deprecated" } : Reporting ReadFault Operation) := by
    refine (isLogFree_readResponses _ _).bind fun responses =>
      (isLogFree_mapM isLogFree_readText _).bind fun tags => ?_
    split
    · exact ((isLogFree_textUnder _ _).map _).bind fun _ => isLogFree_pure _
    · exact isLogFree_pure _
  refine (isLogFree_follow _ _ _).bind fun found => ?_
  cases found with
  | none => exact rest _ _
  | some request => exact (isLogFree_jsonSchema _).bind fun _ => rest _ _

lemma isLogFree_readOperations (document : Value) : IsLogFree (readOperations document) := by
  refine (isLogFree_mapM (fun e => ?_) _).bind fun _ => isLogFree_pure _
  refine (isLogFree_mapM (fun method => ?_) _).bind fun _ => isLogFree_pure _
  split
  · exact (isLogFree_readText _).bind fun _ => (isLogFree_readOperation _ _ _ _ _).bind fun _ =>
      isLogFree_pure _
  · exact isLogFree_pure _

lemma isLogFree_ofDocument (document : Value) (source : Option String) :
    IsLogFree (Description.ofDocument document source) := by
  refine (isLogFree_mapM (fun e => ?_) _).bind fun schemas =>
    (isLogFree_mapM (fun v => isLogFree_textUnder _ _) _).bind fun tags =>
    (isLogFree_textUnder _ _).bind fun title => (isLogFree_textUnder _ _).bind fun version =>
    (isLogFree_readOperations document).bind fun operations => isLogFree_pure _
  exact (isLogFree_readText _).bind fun _ => (isLogFree_readSchema _).bind fun _ => isLogFree_pure _

end Api

/-! ### Planning -/

lemma isLogFree_reportAll {ε : Type} (messages : Log) : IsLogFree (reportAll messages : Reporting ε _) :=
  fun _ _ => rfl

lemma isLogFree_planned {α : Type} (r : Except RenderError α) : IsLogFree (planned r) :=
  isLogFree_liftM _

/-- An emission has messages of its own. -/
lemma isLogFree_emitting {α : Type} (w : Workspace) (x : Emit α) : IsLogFree (emitting w x) := by
  unfold emitting
  split
  refine (isLogFree_reportAll _).bind fun _ => ?_
  split
  · exact isLogFree_pure _
  · exact isLogFree_throw _

lemma isLogFree_planShared (c : Setting) (layout : Layout) (common : List String) :
    IsLogFree (planShared c layout common) := by
  unfold planShared
  split
  · exact isLogFree_pure _
  · exact (isLogFree_reportAll _).bind fun _ => (isLogFree_emitting _ _).bind fun _ =>
      (isLogFree_planned _).bind fun _ => isLogFree_pure _

lemma isLogFree_hookLibrary (name : Option String) : IsLogFree (hookLibrary name) := by
  unfold hookLibrary
  split
  · exact isLogFree_pure _
  · split
    · exact isLogFree_pure _
    · exact isLogFree_throw _

lemma isLogFree_planModule (c : Setting) (settings : PlanSettings) (registry : Enumeration.Registry)
    (module : String) (names : List String) :
    IsLogFree (planModule c settings registry module names) :=
  (isLogFree_emitting _ _).bind fun _ => (isLogFree_hookLibrary _).bind fun _ =>
    (isLogFree_emitting _ _).bind fun _ => (isLogFree_planned _).bind fun _ =>
    (isLogFree_reportAll _).bind fun _ => isLogFree_pure _

lemma isLogFree_planModules (c : Setting) (settings : PlanSettings) (map : ModuleMap) :
    ∀ (modules : List String) (registry : Enumeration.Registry),
      IsLogFree (planModules c settings map registry modules)
  | [], _ => isLogFree_pure _
  | module :: rest, registry => by
    rw [planModules]
    exact (isLogFree_planModule _ _ _ _ _).bind fun _ =>
      (isLogFree_planModules c settings map rest _).bind fun _ => isLogFree_pure _

lemma isLogFree_planOf (d : Description) (settings : PlanSettings)
    (templates : TemplateId → ClientGen.Template) : IsLogFree (Plan.of d settings templates) := by
  unfold Plan.of
  dsimp only
  exact (isLogFree_reportAll _).bind fun _ => (isLogFree_reportAll _).bind fun _ =>
    (isLogFree_liftM _).bind fun _ => (isLogFree_planShared _ _ _).bind fun _ =>
    (isLogFree_planModules _ _ _ _ _).bind fun _ => (isLogFree_planned _).bind fun _ => isLogFree_pure _

end ClientGen
