import ClientGen.Plan
import ClientGen.Proofs.Emission.History
import ClientGen.Proofs.Emission.TypeSteps
import ClientGen.Proofs.Emission.ValidatorSteps
import ClientGen.Proofs.Plan.Operations

/-!
# Steps of planning

A directory of a plan is emitted in steps as well: its schemas one after another, and then the
operations of its module, whose queries are declared beside the schemas.
-/

namespace ClientGen

open Api Emission Enumeration Naming Output Schema Template TypeScript

/-! ### What is requested -/

/-- The name of the interface of a query. -/
def queryName (functionName : String) : String :=
  pascalCase functionName ++ "QueryParams"

/-- The names of the interfaces that some operations declare for their queries. -/
def queryNames : List (String × Nat) → List Operation → List String
  | _, [] => []
  | asked, op :: rest =>
    let (name, asked) := uniqueName (functionName op.method op.path op.operationId) asked
    (if op.method.isQuery && !op.queryParameters.isEmpty then [queryName name] else []) ++
      queryNames asked rest

/-- What the operations of a description ask the registry, wherever they put an enumeration. -/
def OperationsAsk (d : Description) : Questions
  | .schema _ _ => False
  | .inline values context => ∃ op ∈ d.operations, ∃ n ∈ op.schemas, ∃ property parent e,
      e ∈ n.enumerations property ∧ values = e.2 ∧ context = contextOf parent e.1

/-- What a description asks the registry. -/
def Api.Description.Asks (d : Description) : Questions :=
  fun q => SchemasAsk d q ∨ OperationsAsk d q

/-- What a directory may request: what its schemas ask for, and interfaces for its queries. -/
def Emission.Requests.ofDirectory (c : Setting) (queries : List String) : Requests c where
  asks := c.description.Asks
  beside x := x ∈ queries
  faulty _ := True
  schemas _ h := .inl h
  broken _ _ _ := trivial

variable {c : Setting} {queries : List String} {w w' : Workspace} {t : Target} {op : Operation}
  {name parent : String} {property namespace_ : Option String} {n : SchemaNode} {α : Type}

/-! ### Schemas -/

lemma caught_takes {R : Requests c} {x : Emit α} (h : R.Steps x w) : R.Steps (caught x) w :=
  .caught h fun _ _ _ => trivial

/-- A schema that the description does not know leaves everything as it is. -/
lemma emitSchema_takes : (Requests.ofDirectory c queries).Steps (emitSchema c name) w := by
  have unknown {w : Workspace} {emit : SchemaNode → Emit Unit}
      (h : c.description.schema? name = none) :
      (Requests.ofDirectory c queries).Steps (nodeOf c name none >>= emit) w :=
    Requests.Takes.bind (Q := fun _ _ => False) (.orSchemaError (fun n hn => by
      rw [schema_eq_ok hn] at h
      cases h) fun _ _ => trivial) fun _ _ _ h => h.elim
  have type (w : Workspace) : (Requests.ofDirectory c queries).Steps (emitType c name none) w := by
    cases hs : c.description.schema? name with
    | some n => exact emitType_takes hs
    | none => exact .get_bind (.ite (fun _ => .pure trivial) fun _ => unknown hs)
  have validator (w : Workspace) :
      (Requests.ofDirectory c queries).Steps (emitValidator c name none) w := by
    cases hs : c.description.schema? name with
    | some n => exact emitValidator_takes hs
    | none => exact .get_bind (.ite (fun _ => .pure trivial) fun _ => unknown hs)
  unfold emitSchema
  refine (caught_takes (type w)).bind fun result w₁ _ _ => ?_
  refine (caught_takes (validator w₁)).bind fun result' w₂ _ _ => ?_
  dsimp only
  split
  · exact .pure trivial
  · exact .bind .note fun _ _ _ _ => .pure trivial

/-- The schemas of a directory are emitted one after another. -/
lemma emitSchemas_takes {names : List String} :
    (Requests.ofDirectory c queries).Steps (emitSchemas c names) w := by
  unfold emitSchemas
  refine Requests.Takes.bind (Q := fun _ _ => True) (.modify .report trivial) fun _ w' _ _ => ?_
  exact (Requests.Takes.mapM (R := .ofDirectory c queries) (g := emitSchema c)
    (T := fun _ _ _ => True) (fun _ _ => trivial) _ w' fun _ _ _ _ => emitSchema_takes).bind
      fun _ _ _ _ => .pure trivial

/-! ### Operations -/

/-- The enumerations inside a node of an operation are asked for. -/
def AsksAll (c : Setting) (n : SchemaNode) : Prop :=
  ∀ property parent, ∀ e ∈ n.enumerations property,
    c.description.Asks (.inline e.2 (contextOf parent e.1))

lemma asksAll_of_mem_schemas (hop : op ∈ c.description.operations) (hn : n ∈ op.schemas) :
    AsksAll c n :=
  fun property parent e he => .inr ⟨op, hop, n, hn, property, parent, e, he, rfl, rfl⟩

/-- The type of a node outside any schema. -/
lemma outerType_takes {depth : Int} (asks : AsksAll c n) :
    (Requests.ofDirectory c queries).Steps
      (typeAt c namespace_ (outerReferenceType c namespace_) parent property depth n) w :=
  (typeAt_takes property depth n w
    (fun _ _ _ _ _ => referenceType_takes (emitTypeWithin_takes _) fun _ _ => trivial)
    fun e he => asks property parent e (n.mem_enumerations property he)).weaken
      fun _ _ _ _ => trivial

lemma localValidator_takes {depth : Int} (asks : AsksAll c n) :
    (Requests.ofDirectory c queries).Steps (localValidator c parent property depth n) w := by
  have outside : NoEnumeration c [] := by simp [NoEnumeration]
  exact (validatorAt_takes property depth n w
    (fun _ _ _ _ _ => referenceValidator_takes outside (emitValidatorWithin_takes _ _ outside)
      fun _ _ => trivial) fun e he => asks property parent e he).weaken fun _ _ _ _ => trivial

lemma declareNeeds_takes (asks : AsksAll c n) :
    (Requests.ofDirectory c queries).Steps (declareNeeds c op parent property n) w := by
  unfold declareNeeds
  refine .get_bind ((caught_takes (localValidator_takes asks)).bind fun validator w' _ _ => ?_)
  refine Requests.Takes.bind (Q := fun _ _ => True) (.modify .noteValidators trivial)
    fun _ w'' _ _ => ?_
  split
  · exact .pure trivial
  · exact .note

lemma operationType_takes (asks : AsksAll c n) :
    (Requests.ofDirectory c queries).Steps (operationType c t op parent property n) w := by
  unfold operationType
  refine (caught_takes (outerType_takes asks)).bind fun type w' _ _ => ?_
  split
  · exact .bind .note fun _ _ _ _ => .pure trivial
  · exact (declareNeeds_takes asks).bind fun _ _ _ _ => .pure trivial

lemma asksAll_placeholderSchema (hop : op ∈ c.description.operations) :
    AsksAll c (placeholderSchema op name) := by
  unfold placeholderSchema
  split
  · next p hp =>
    have hp := List.mem_reverse.1 (List.mem_of_find?_eq_some hp)
    exact asksAll_of_mem_schemas hop
      (List.mem_append_right _ (List.mem_map_of_mem (List.mem_of_mem_filter hp)))
  · intro property parent e he
    simp [SchemaNode.enumerations] at he

lemma pathArguments_takes {pascal : String} (hop : op ∈ c.description.operations) :
    (Requests.ofDirectory c queries).Steps (pathArguments c t op pascal) w :=
  (Requests.Takes.mapM (R := .ofDirectory c queries) (T := fun _ _ _ => True)
    (fun _ _ => trivial) _ w fun _ _ _ _ =>
      (operationType_takes (asksAll_placeholderSchema hop)).bind
        fun _ _ _ _ => .pure trivial).weaken fun _ _ _ _ => trivial

lemma bodyArgument_takes {pascal : String} (hop : op ∈ c.description.operations) :
    (Requests.ofDirectory c queries).Steps (bodyArgument? c t op pascal) w := by
  unfold bodyArgument?
  split
  · exact .pure trivial
  · next node hb =>
    exact (operationType_takes (asksAll_of_mem_schemas hop (mem_schemas_of_body hb))).bind
      fun _ _ _ _ => .pure trivial

lemma operationResponse_takes {pascal : String} (hop : op ∈ c.description.operations) :
    (Requests.ofDirectory c queries).Steps (operationResponse c t op pascal) w := by
  unfold operationResponse
  split
  · exact .pure trivial
  · next node hr =>
    exact operationType_takes (asksAll_of_mem_schemas hop (mem_schemas_of_response hr))

lemma queryField_takes {pascal : String} {p : Parameter} (asks : AsksAll c p.schema) :
    (Requests.ofDirectory c queries).Steps (queryField c op pascal p) w := by
  have type : (Requests.ofDirectory c queries).Steps (queryTypeField c op pascal p) w := by
    unfold queryTypeField
    refine (caught_takes ((outerType_takes asks).bind fun _ _ _ _ => .pure trivial)).bind
      fun field w' _ _ => ?_
    split
    · exact .pure trivial
    · exact .bind .note fun _ _ _ _ => .pure trivial
  refine type.bind fun field w₁ _ _ => ?_
  refine Requests.Takes.bind (Q := fun _ _ => True) ?_ fun _ _ _ _ => .pure trivial
  unfold queryValidatorField
  refine (caught_takes (localValidator_takes asks)).bind fun validator w₂ _ _ => ?_
  split <;> exact .pure trivial

/-- The interface of a query and its validator are declared beside the schemas. -/
lemma queryArgument_takes {pascal : String} (hop : op ∈ c.description.operations)
    (beside : pascal ++ "QueryParams" ∈ queries) :
    (Requests.ofDirectory c queries).Steps (queryArgument c t op pascal) w := by
  unfold queryArgument
  refine (Requests.Takes.mapM (R := .ofDirectory c queries) (T := fun _ _ _ => True)
    (fun _ _ => trivial) op.queryParameters w fun p hp w' _ =>
      queryField_takes (asksAll_of_mem_schemas hop (mem_schemas_of_query hp))).bind
        fun fields w' _ _ => ?_
  refine (declareType_takes (.query beside)).bind fun _ w'' _ _ => ?_
  exact (declareValidator_takes (.query beside)).bind fun _ _ _ _ => .pure trivial

/-- The operations of a module are emitted after its schemas. -/
lemma emitOperations_takes : ∀ (asked : List (String × Nat)) (ops : List Operation) (w : Workspace),
    ops ⊆ c.description.operations → queryNames asked ops ⊆ queries →
    (Requests.ofDirectory c queries).Steps (emitOperations c t asked ops) w
  | _, [], _, _, _ => .pure trivial
  | asked, op :: rest, w, sub, names => by
    obtain ⟨hop, hrest⟩ := List.cons_subset.1 sub
    rw [queryNames] at names
    dsimp only at names
    rw [emitOperations]
    dsimp only
    refine Requests.Takes.bind (Q := fun _ _ => True) (caught_takes ?_) fun emitted w' _ _ => ?_
    · refine Requests.Takes.bind (Q := fun _ _ => True) ?_ fun parts _ _ _ =>
        .orRenderError fun _ _ => trivial
      unfold operationParts
      refine (pathArguments_takes hop).bind fun path w₁ _ _ => ?_
      refine (bodyArgument_takes hop).bind fun body w₂ _ _ => ?_
      refine Requests.Takes.bind (Q := fun _ _ => True) (.ite (fun asksQuery => ?_) fun _ =>
        .pure trivial) fun query w₃ _ _ => ?_
      · rw [if_pos asksQuery] at names
        exact .map ((queryArgument_takes hop (names (by simp [queryName]))).weaken
          fun _ _ _ _ => trivial)
      · exact (operationResponse_takes hop).bind fun _ _ _ _ => .pure trivial
    · have others (w : Workspace) : (Requests.ofDirectory c queries).Steps (emitOperations c t
          (uniqueName (functionName op.method op.path op.operationId) asked).2 rest) w :=
        emitOperations_takes _ rest w hrest
          (List.Subset.trans (List.subset_append_right _ _) names)
      split
      · exact (others w').bind fun _ _ _ _ => .pure trivial
      · exact .bind .note fun _ w'' _ _ => (others w'').bind fun _ _ _ _ => .pure trivial

end ClientGen
