import ClientGen.Proofs.Emission.TypeLowering
import ClientGen.Proofs.Emission.ValidatorLowering
import ClientGen.Proofs.Plan.Operations

/-!
# Errors of emissions

Which errors end an emission, whatever the workspace is that it starts from. An operation catches
every error of a schema.
-/

namespace ClientGen.Emission

open Api Naming Schema Template TypeScript

variable {c : Setting} {w : Workspace} {α : Type}

/-- Errors that may end the emission of a schema. -/
structure Faults (c : Setting) where
  may : EmitError → Prop
  schema : ∀ e, may (.schema e)
  typeUnwritten : ∀ (d : TypeDeclaration) e, writeDeclaration c.templates d = .error e →
    may (.render e)
  validatorUnwritten : ∀ (d : ValidatorDeclaration) e, writeDeclaration c.templates d = .error e →
    may (.render e)
  long : ∀ s n, c.description.schema? s = some n → n.hasLongInteger = true → ∀ f, may (.digits f)

namespace Faults

variable {F : Faults c}

variable {P : DeclarationFile ValidatorDeclaration → Prop}

/-- The contract of which nothing but the errors matters and what is known of the validators. -/
def contractFor (F : Faults c) (P : DeclarationFile ValidatorDeclaration → Prop) : Contract where
  holds w := P w.validators
  grows _ _ := True
  permits := F.may
  grows_refl _ := trivial
  grows_trans _ _ := trivial
  quiet _ _ := ⟨trivial, id⟩

/-- The contract of which nothing but the errors matters. -/
abbrev contract (F : Faults c) : Contract :=
  F.contractFor fun _ => True

/-- The emission ends with a result or with an error that it may end with, and what is known of the
validators stays so. -/
abbrev EndsFor (F : Faults c) (P : DeclarationFile ValidatorDeclaration → Prop) (x : Emit α)
    (w : Workspace) : Prop :=
  (F.contractFor P).Keeps x w fun _ _ => True

/-- The emission ends with a result or with an error that it may end with. -/
abbrev Ends (F : Faults c) (x : Emit α) (w : Workspace) : Prop :=
  F.EndsFor (fun _ => True) x w

/-- The emission ends with a result or with an error that is none of a schema. -/
abbrev Handles (F : Faults c) (x : Emit α) (w : Workspace) : Prop :=
  F.contract.handled.Keeps x w fun _ _ => True

lemma ends_pure {a : α} : F.EndsFor P (pure a) w :=
  .pure fun _ => trivial

lemma ends_bind {β : Type} {x : Emit α} {f : α → Emit β} (hx : F.EndsFor P x w)
    (hf : ∀ a w, F.EndsFor P (f a) w) : F.EndsFor P (x >>= f) w :=
  hx.bind fun a w' _ _ => hf a w'

lemma ends_modify {g : Workspace → Workspace} (keeps : P w.validators → P (g w).validators) :
    F.EndsFor P (modify g) w :=
  .modify fun hw => ⟨keeps hw, trivial, trivial⟩

lemma ends_orSchemaError {r : Except SchemaError α} : F.EndsFor P (orSchemaError r) w :=
  .orSchemaError (fun _ _ => trivial) fun e _ => F.schema e

/-- An emission that is caught hands the error of a schema on as a value. -/
lemma caught_endsFor {x : Emit α} (h : F.EndsFor P x w) :
    (F.contractFor P).handled.Keeps (caught x) w fun _ _ => True :=
  .handled h fun _ _ _ _ _ => trivial

lemma handles_caught {x : Emit α} (h : F.Ends x w) : F.Handles (caught x) w :=
  caught_endsFor h

/-! ### Types -/

variable {name parent : String} {property namespace_ : Option String} {values : List String}
  {node : SchemaNode}

lemma typeName_ends : F.EndsFor P (typeName c name) w := by
  refine ends_bind ends_orSchemaError fun n w => ?_
  cases n with
  | enumeration values notes => exact .modifyGet fun hw => ⟨hw, trivial, trivial⟩
  | _ => exact ends_pure

lemma declareType_ends {d : TypeDeclaration} : F.EndsFor P (declareType c d) w :=
  ends_bind (.orRenderError (fun _ _ => trivial) (F.typeUnwritten d)) fun _ _ => ends_modify id

lemma ensureTypeEnum_ends {description : Option String} :
    F.EndsFor P (ensureTypeEnum c name values description) w :=
  .get_bind (.ite (fun _ => ends_pure) fun _ => declareType_ends)

lemma commonType_ends : F.EndsFor P (commonType namespace_ name) w := by
  cases namespace_ with
  | none => exact ends_bind (ends_modify id) fun _ _ => ends_pure
  | some n => exact ends_pure

lemma inlineEnumName_ends {context : Option Enumeration.Context} :
    F.EndsFor P (inlineEnumName values context) w :=
  .of_meets inlineEnumName_meets (by
    rintro _ _ hw ⟨-, -, rfl⟩
    exact ⟨hw, trivial, trivial⟩) fun _ _ _ h => h.elim

lemma enumType_ends : F.EndsFor P (enumType c namespace_ parent property values) w :=
  ends_bind inlineEnumName_ends fun _ _ => .ite (fun _ => commonType_ends) fun _ =>
    ends_bind ensureTypeEnum_ends fun _ _ => ends_pure

/-- What is emitted for the sake of a reference ends as it may. -/
def EmitEnds (F : Faults c) (P : DeclarationFile ValidatorDeclaration → Prop)
    (emit : String → SchemaNode → Emit Unit) : Prop :=
  ∀ s n w, c.description.schema? s = some n → F.EndsFor P (emit s n) w

variable {emit : String → SchemaNode → Emit Unit}

lemma referenceType_ends (emits : F.EmitEnds P emit) {pointer : String} {notes : Notes} :
    F.EndsFor P (referenceType c namespace_ emit pointer notes) w := by
  unfold referenceType
  refine Contract.Keeps.bind (Q := fun p _ => c.description.resolve pointer = .ok p)
    (.orSchemaError (fun p hp => hp) fun e _ => F.schema e) ?_
  rintro ⟨s, target⟩ w' - hp
  refine .get_bind (.ite (fun _ => ends_pure) fun _ => ends_bind (.ite (fun _ => ?_) fun _ => ?_)
    fun _ _ => ends_pure)
  · exact ends_bind typeName_ends fun _ _ => commonType_ends
  · refine ends_bind (.get_bind (.ite (fun _ => emits s target _ (resolve_eq_ok hp))
      fun _ => ends_pure)) fun _ _ => ends_bind typeName_ends fun _ _ => ends_pure

lemma typeAt_ends (emits : F.EmitEnds P emit) {depth : Int} :
    F.EndsFor P (typeAt c namespace_ (referenceType c namespace_ emit) parent property depth node) w :=
  (typeAt_keeps (P := fun _ _ _ => True) (fun _ _ _ _ _ h => h) property depth node w
    (fun _ _ _ _ _ => (referenceType_ends emits).weaken fun _ _ _ _ _ _ _ _ => trivial)
    fun _ _ _ _ => enumType_ends.weaken fun _ _ _ _ _ _ _ _ => trivial).weaken
      fun _ _ _ _ _ => trivial

lemma typeField_ends (emits : F.EmitEnds P emit) {required : Bool} :
    F.EndsFor P (typeField c (referenceType c none emit) parent name required node) w :=
  ends_bind (typeAt_ends emits) fun _ _ => ends_pure

lemma declareSchemaType_ends (emits : F.EmitEnds P emit) :
    F.EndsFor P (declareSchemaType c (referenceType c none emit) name node) w := by
  refine ends_bind typeName_ends fun identifier w => ?_
  split
  · exact ensureTypeEnum_ends
  · refine ends_bind ((Contract.Keeps.mapM (S := fun _ _ _ => True) (fun _ _ _ _ _ h => h) _ w
      fun p _ w' _ => typeField_ends emits).weaken fun _ _ _ _ _ => trivial) fun _ _ =>
        declareType_ends
  · exact ends_bind (typeAt_ends emits) fun _ _ => declareType_ends

/-- Schemas are declared one inside the other; the induction is on how many more there may be. -/
lemma emitTypeWithin_ends : ∀ (budget : Nat), F.EmitEnds P (emitTypeWithin c budget)
  | 0 => fun _ _ _ _ => ends_pure
  | budget + 1 => fun s n w _ => by
    rw [emitTypeWithin]
    refine ends_bind (ends_modify id) fun _ w => ends_bind
      (caught_endsFor (declareSchemaType_ends (emitTypeWithin_ends budget))).of_handled
      fun r w => ?_
    cases r with
    | ok a => exact ends_pure
    | error e => exact ends_bind (ends_modify id) fun _ _ => .throw (F.schema e)

/-! ### Validators -/

lemma declareValidator_ends {d : ValidatorDeclaration} : F.Ends (declareValidator c d) w :=
  ends_bind (.orRenderError (fun _ _ => trivial) (F.validatorUnwritten d)) fun _ _ => ends_modify id

lemma ensureValidatorEnum_ends : F.Ends (ensureValidatorEnum c name values) w :=
  .get_bind (.ite (fun _ => ends_pure) fun _ => declareValidator_ends)

lemma enumValidator_ends : F.Ends (enumValidator c parent property values) w :=
  ends_bind inlineEnumName_ends fun _ _ => .ite (fun _ => ends_bind (ends_modify id) fun _ _ => ends_pure)
    fun _ => ends_bind ensureValidatorEnum_ends fun _ _ => ends_pure

lemma constName_ends : F.Ends (constName c name) w :=
  .map typeName_ends

lemma referenceValidator_ends (emits : F.EmitEnds (fun _ => True) emit) {path : List String} {pointer : String}
    {notes : Notes} : F.Ends (referenceValidator c path emit pointer notes) w := by
  unfold referenceValidator
  refine Contract.Keeps.bind (Q := fun p _ => c.description.resolve pointer = .ok p)
    (.orSchemaError (fun p hp => hp) fun e _ => F.schema e) ?_
  rintro ⟨s, target⟩ w' - hp
  refine .get_bind (.ite (fun _ => ends_pure) fun _ => .ite (fun _ => ?_) fun _ =>
    .ite (fun _ => ?_) fun _ => ?_)
  · exact ends_bind (ends_modify id) fun _ _ => ends_bind constName_ends fun _ _ => ends_pure
  · exact ends_bind (ends_modify id) fun _ _ => ends_bind constName_ends fun _ _ => ends_pure
  · exact ends_bind (.get_bind (.ite (fun _ => emits s target _ (resolve_eq_ok hp))
      fun _ => ends_pure)) fun _ _ => ends_bind constName_ends fun _ _ => ends_pure

lemma validatorAt_ends (emits : F.EmitEnds (fun _ => True) emit) {path : List String} {depth : Int}
    (long : node.hasLongInteger = true → ∀ f, F.may (.digits f)) :
    F.Ends (validatorAt c (referenceValidator c path emit) parent property depth node) w :=
  (validatorAt_keeps (N := anyTarget F.contract) property depth node w
    (fun _ _ _ _ _ => (referenceValidator_ends emits).weaken fun _ _ _ _ _ => covers_anyTarget)
    (fun _ _ _ _ => enumValidator_ends.weaken fun _ _ _ _ _ => ⟨covers_anyTarget, trivial⟩)
    long).weaken fun _ _ _ _ _ => trivial

lemma declareSchemaValidator_ends (emits : F.EmitEnds (fun _ => True) emit) {path : List String}
    (long : node.hasLongInteger = true → ∀ f, F.may (.digits f)) :
    F.Ends (declareSchemaValidator c (referenceValidator c path emit) name node) w := by
  unfold declareSchemaValidator
  split
  · exact ends_bind typeName_ends fun _ _ => ensureValidatorEnum_ends
  · exact ends_bind (validatorAt_ends emits long) fun _ _ => ends_bind constName_ends
      fun _ _ => .get_bind declareValidator_ends

lemma emitValidatorWithin_ends :
    ∀ (budget : Nat) (path : List String), F.EmitEnds (fun _ => True) (emitValidatorWithin c budget path)
  | 0, _ => fun _ _ _ _ => ends_pure
  | budget + 1, path => fun s n w hs => by
    rw [emitValidatorWithin]
    refine ends_bind (ends_modify id) fun _ w => ends_bind (handles_caught (declareSchemaValidator_ends
      (emitValidatorWithin_ends budget (s :: path)) (F.long s n hs))).of_handled fun r w => ?_
    cases r with
    | ok a => exact ends_pure
    | error e => exact ends_bind (ends_modify id) fun _ _ => .throw (F.schema e)

/-! ### Operations -/

variable {t : Target} {op : Operation} {pascal : String}

/-- The schemas of an operation have no integer that is too long, or such an error may end it. -/
def Admits (F : Faults c) (op : Operation) : Prop :=
  ∀ n ∈ op.schemas, n.hasLongInteger = true → ∀ f, F.may (.digits f)

lemma localValidator_ends (long : node.hasLongInteger = true → ∀ f, F.may (.digits f)) :
    F.Ends (localValidator c parent property 1 node) w :=
  validatorAt_ends (emitValidatorWithin_ends _ _) long

/-- Whether the validators refer to the shared schemas is put back, also behind an error that is
caught. -/
lemma declareNeeds_handles (long : node.hasLongInteger = true → ∀ f, F.may (.digits f)) :
    F.contract.handled.Keeps (declareNeeds c op parent property node) w fun _ w' =>
      w'.validators.usesCommon = w.validators.usesCommon := by
  unfold declareNeeds
  refine .get_bind ((handles_caught (localValidator_ends long)).bind fun r w' _ _ => ?_)
  refine Contract.Keeps.bind
    (Q := fun _ w'' => w''.validators.usesCommon = w.validators.usesCommon)
    (.modify fun _ => ⟨trivial, trivial, rfl⟩) fun _ _ _ same => ?_
  cases r with
  | ok v => exact .pure fun _ => same
  | error e => exact .modify fun _ => ⟨trivial, trivial, same⟩

lemma operationType_handles (long : node.hasLongInteger = true → ∀ f, F.may (.digits f)) :
    F.contract.handled.Keeps (operationType c t op parent property node) w fun _ w' =>
      w'.validators.usesCommon = w.validators.usesCommon := by
  intro _
  have type : (F.contractFor (· = w.validators)).handled.Keeps
      (caught (qualifiedType c t.namespace_ parent property node)) w fun _ _ => True :=
    caught_endsFor (typeAt_ends (emitTypeWithin_ends (nestingBound c)))
  refine meets_bind.2 ((type rfl).imp ?_ fun e w' he =>
    ⟨he.1, fun s hs => absurd hs (he.1.2 s)⟩)
  rintro r w' ⟨hw, -, -⟩
  have same : w'.validators = w.validators := hw
  cases r with
  | ok type =>
    refine ((declareNeeds_handles long).bind fun _ _ _ back => .pure fun _ => ?_) trivial
    rw [back, same]
  | error e =>
    exact (Contract.Keeps.bind (Q := fun _ w'' => w''.validators = w.validators)
      (.modify fun _ => ⟨trivial, trivial, same⟩) fun _ _ _ same =>
        .pure fun _ => congrArg DeclarationFile.usesCommon same) trivial

/-- There is one argument for each placeholder, called after it. -/
lemma pathArguments_handles (h : F.Admits op) :
    F.contract.handled.Keeps (pathArguments c t op pascal) w fun args _ =>
      args.map (·.name) = (distinct (placeholders op.path)).map pathArgumentName := by
  refine (Contract.Keeps.mapM (S := fun name (a : Argument) _ => a.name = pathArgumentName name)
    (fun _ _ _ _ _ h => h) _ w fun name _ w' _ => ?_).weaken fun args _ _ _ named => ?_
  · refine (operationType_handles fun long => ?_).bind fun _ _ _ _ => .pure fun _ => rfl
    rcases placeholderSchema_cases op name with hp | hp
    · exact h _ hp long
    · rw [hp] at long
      exact absurd long (by decide)
  · rw [← List.forall₂_eq_eq_eq, List.forall₂_map_left_iff, List.forall₂_map_right_iff]
    exact named.flip

lemma bodyArgument_handles (h : F.Admits op) : F.Handles (bodyArgument? c t op pascal) w := by
  unfold bodyArgument?
  split
  · exact .pure fun _ => trivial
  · next node hb =>
    exact (operationType_handles (h _ (mem_schemas_of_body hb))).bind fun _ _ _ _ => .pure fun _ => trivial

lemma operationResponse_handles (h : F.Admits op) :
    F.Handles (operationResponse c t op pascal) w := by
  unfold operationResponse
  split
  · exact .pure fun _ => trivial
  · next node hr =>
    exact (operationType_handles (h _ (mem_schemas_of_response hr))).weaken fun _ _ _ _ _ => trivial

lemma queryField_handles {p : Parameter} (h : F.Admits op) (hp : p ∈ op.queryParameters) :
    F.Handles (queryField c op pascal p) w := by
  have hp : p.schema ∈ op.schemas := mem_schemas_of_query hp
  refine Contract.Keeps.bind (Q := fun _ _ => True) ?_ fun field w' _ _ =>
    Contract.Keeps.bind (Q := fun _ _ => True) ?_ fun _ _ _ _ => .pure fun _ => trivial
  · refine (handles_caught (typeField_ends (emitTypeWithin_ends _))).bind fun r w' _ _ => ?_
    cases r with
    | ok field => exact .pure fun _ => trivial
    | error e =>
      exact Contract.Keeps.bind (Q := fun _ _ => True) (.note fun _ _ => trivial)
        fun _ _ _ _ => .pure fun _ => trivial
  · refine (handles_caught (localValidator_ends (h _ hp))).bind fun r w' _ _ => ?_
    cases r with
    | ok v => exact .pure fun _ => trivial
    | error e => exact .pure fun _ => trivial

/-- No error of a schema comes of a declaration. -/
lemma declareType_handles {d : TypeDeclaration} : F.Handles (declareType c d) w :=
  Contract.Keeps.bind (Q := fun _ _ => True)
    (.orRenderError (fun _ _ => trivial) fun e he =>
      ⟨F.typeUnwritten d e he, by rintro _ ⟨⟩⟩) fun _ _ _ _ =>
    .modify fun _ => ⟨trivial, trivial, trivial⟩

lemma declareValidator_handles {d : ValidatorDeclaration} : F.Handles (declareValidator c d) w :=
  Contract.Keeps.bind (Q := fun _ _ => True)
    (.orRenderError (fun _ _ => trivial) fun e he =>
      ⟨F.validatorUnwritten d e he, by rintro _ ⟨⟩⟩) fun _ _ _ _ =>
    .modify fun _ => ⟨trivial, trivial, trivial⟩

lemma queryArgument_handles (h : F.Admits op) : F.Handles (queryArgument? c t op pascal) w := by
  refine .ite (fun _ => .map ?_) fun _ => .pure fun _ => trivial
  have fields := Contract.Keeps.mapM (K := F.contract.handled) (g := queryField c op pascal)
    (S := fun _ _ _ => True) (fun _ _ _ _ _ h => h) op.queryParameters w
    fun p hp w' _ => queryField_handles h hp
  exact fields.bind fun _ _ _ _ => declareType_handles.bind fun _ _ _ _ =>
    declareValidator_handles.bind fun _ _ _ _ => .pure fun _ => trivial

end Faults

/-- The parts have an argument for every placeholder of the path. -/
def OperationParts.Filled (p : OperationParts) : Prop :=
  p.path.map (·.name) = (distinct (placeholders p.operation.path)).map pathArgumentName

/-- What comes of an operation under a name. -/
structure ClientOperation.IsFor (o : ClientOperation) (c : Setting) (t : Target) (name : String)
    (op : Operation) : Prop where
  name : o.parts.functionName = name
  operation : o.parts.operation = op
  filled : o.parts.Filled
  written : o.parts.write c t = .ok o

/-- An operation is written from parts of its own, and what keeps it from that is no error of a
schema. -/
lemma emitOperation_handles {F : Faults c} {t : Target} {op : Operation} {name : String}
    (h : F.Admits op)
    (unwritten : ∀ p e, OperationParts.write p c t = .error e → F.may (.render e)) :
    F.contract.handled.Keeps (emitOperation c t name op) w fun o _ => o.IsFor c t name op := by
  have parts : F.contract.handled.Keeps (operationParts c t name op) w fun p _ =>
      p.functionName = name ∧ p.operation = op ∧ p.Filled :=
    (Faults.pathArguments_handles h).bind fun _ _ _ filled =>
      (Faults.bodyArgument_handles h).bind fun _ _ _ _ =>
        (Faults.queryArgument_handles h).bind fun _ _ _ _ =>
          (Faults.operationResponse_handles h).bind fun _ _ _ _ =>
            .pure fun _ => ⟨rfl, rfl, filled⟩
  refine parts.bind fun p w' _ ⟨hn, ho, filled⟩ => .orRenderError (fun o hw => ?_) fun e he =>
    ⟨unwritten p e he, by rintro _ ⟨⟩⟩
  obtain rfl := (becomes_of_write hw).parts
  exact ⟨hn, ho, filled, hw⟩

end ClientGen.Emission
