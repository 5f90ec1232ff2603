import ClientGen.Proofs.Outcome
import ClientGen.Proofs.Schema.Malformed

/-!
# Malformed documents

Which values are read as schemas on the way through a document. A document fails as the first of these
does, and for no other reason: whatever else is malformed in it is left out.
-/

namespace ClientGen

open Api Document Json Schema

variable {ε α β : Type}

/-! ### Results and faults of computations that report -/

section Reporting

variable {y : Reporting ε α} {f : α → Reporting ε β} {r : Except ε β} {e later : Option ε}

/-- Whatever was reported before, a computation comes to this result. -/
def Gives (y : Reporting ε α) (r : Except ε α) : Prop :=
  ∀ log, (outcome y log).1 = r

/-- Whatever was reported before, a computation fails with this error, or does not fail. -/
def FailsAs (y : Reporting ε α) (e : Option ε) : Prop :=
  ∀ log, fault? (outcome y log).1 = e

lemma Gives.failsAs {r : Except ε α} (h : Gives y r) : FailsAs y (fault? r) :=
  fun log => congrArg fault? (h log)

lemma gives_pure (a : α) : Gives (pure a : Reporting ε α) (.ok a) := fun _ => rfl

lemma gives_liftM (r : Except ε α) : Gives (liftM r : Reporting ε α) r := by
  cases r <;> exact fun _ => rfl

lemma Gives.bind {a : α} (h : Gives y (.ok a)) (later : Gives (f a) r) : Gives (y >>= f) r := by
  intro log
  have first := h log
  rw [outcome_bind]
  revert first
  rcases outcome y log with ⟨_ | a', log'⟩
  · exact nofun
  · rintro ⟨⟩
    exact later log'

lemma FailsAs.bind (h : FailsAs y e) (hf : ∀ a log, (outcome y log).1 = .ok a → FailsAs (f a) later) :
    FailsAs (y >>= f) (e.or later) := by
  intro log
  rw [outcome_bind, ← h log]
  cases run : outcome y log with
  | mk r log' =>
    cases r with
    | error e => rfl
    | ok a => exact hf a log (by rw [run]) log'

lemma Gives.bind_pure {r : Except ε α} (h : Gives y r) (g : α → β) :
    Gives (y >>= fun a => pure (g a)) (g <$> r) := by
  intro log
  rw [outcome_bind, ← h log]
  rcases outcome y log with ⟨_ | _, _⟩ <;> rfl

/-- A step that gives a result is gone past. -/
lemma Gives.failsAs_bind {a : α} (h : Gives y (.ok a)) (hf : FailsAs (f a) later) :
    FailsAs (y >>= f) later :=
  h.failsAs.bind fun b log same => by
    obtain rfl := Except.ok.inj ((h log).symm.trans same)
    exact hf

/-- What only the last step does counts for nothing. -/
lemma FailsAs.bind_pure (h : FailsAs y e) (g : α → β) : FailsAs (y >>= fun a => pure (g a)) e := by
  rw [← e.or_none]
  exact h.bind fun a _ _ => (gives_pure (g a)).failsAs

lemma FailsAs.map (h : FailsAs y e) (g : α → β) : FailsAs (g <$> y) e := by
  rw [map_eq_pure_bind]
  exact h.bind_pure g

lemma failsAs_mapM {g : α → Reporting ε β} {w : α → Option ε} :
    ∀ {items : List α}, (∀ a ∈ items, FailsAs (g a) (w a)) →
      FailsAs (items.mapM g) (items.findSome? w)
  | [], _ => (gives_pure []).failsAs
  | a :: rest, h => by
    obtain ⟨first, others⟩ := List.forall_mem_cons.1 h
    rw [List.mapM_cons, findSome?_cons_eq_or]
    exact first.bind fun b _ _ => (failsAs_mapM others).bind_pure (b :: ·)

lemma failsAs_mapM_none {g : α → Reporting ε β} {items : List α}
    (h : ∀ a ∈ items, FailsAs (g a) none) : FailsAs (items.mapM g) none := by
  have all := failsAs_mapM h
  rwa [List.findSome?_eq_none_iff.2 fun _ _ => rfl] at all

/-- Steps that fail alike whatever the steps before came to. -/
lemma failsAs_foldlM {g : β → α → Reporting ε β} {w : α → Option ε} :
    ∀ {items : List α} (b : β), (∀ a ∈ items, ∀ b, FailsAs (g b a) (w a)) →
      FailsAs (items.foldlM g b) (items.findSome? w)
  | [], b, _ => (gives_pure b).failsAs
  | a :: rest, b, h => by
    obtain ⟨first, others⟩ := List.forall_mem_cons.1 h
    rw [List.foldlM_cons, findSome?_cons_eq_or]
    exact (first b).bind fun b _ _ => failsAs_foldlM b others

end Reporting

/-! ### Parts of documents -/

namespace Api

variable {document data v w : Value} {key : String}

lemma isRead_mapUnder (read : IsRead document) (key : String) : IsRead (mapUnder document key) := by
  unfold mapUnder
  split
  · next entries found =>
    rw [read.openAt?] at found
    exact read.get? found
  · exact isRead_map_nil

lemma isRead_of_mem_itemsUnder (read : IsRead document) (h : v ∈ itemsUnder document key) :
    IsRead v := by
  unfold itemsUnder at h
  split at h
  · next items found =>
    rw [read.openAt?] at found
    exact (read.get? found).of_mem h
  · cases h

/-- The schemas by name are those of two tables. -/
lemma isRead_of_mem_rawSchemas (read : IsRead document) {e : Value × Value}
    (h : e ∈ rawSchemas document) : IsRead e.1 ∧ IsRead e.2 := by
  have tables := (areRead_entriesUnder read "definitions").append
    (areRead_entriesUnder (isRead_mapUnder read "components") "schemas")
  exact tables.isRead.areRead.of_mem h

/-- The text under a key. -/
def shownUnder (data : Value) (key : String) : String :=
  (data.get? key).elim "" Value.shown

lemma gives_readText (read : IsRead v) : Gives (readText v) (.ok v.shown) := by
  have text : textOf v = .ok v.shown := by
    rw [textOf, read.written]
    rfl
  rw [← text]
  exact gives_liftM _

lemma gives_textUnder (read : IsRead data) (key : String) :
    Gives (textUnder data key) (.ok (shownUnder data key)) := by
  unfold textUnder shownUnder
  cases found : data.get? key with
  | none => exact gives_pure ""
  | some v => exact gives_readText (read.get? found)

lemma gives_readSchema (v : Value) : Gives (readSchema v) (SchemaNode.ofValue v) :=
  gives_liftM _

lemma failsAs_readSchema (read : IsRead v) : FailsAs (readSchema v) (schemaFault? v) :=
  fault?_ofValue_eq v read ▸ (gives_readSchema v).failsAs

/-! ### References to parts -/

/-- What a part of an operation is, or what its reference leads to. -/
def followed (document : Value) (part : Option Value) (table : String) : Option Value :=
  (outcome (follow document part table) []).1.toOption.join

/-- A part of an operation is followed to something that is read, or to nothing. -/
lemma gives_follow (read : IsRead document) {part : Option Value} (inside : ∀ v ∈ part, IsRead v)
    (table : String) : Gives (follow document part table) (.ok (followed document part table)) ∧
      ∀ v ∈ followed document part table, IsRead v := by
  suffices ∃ found, Gives (follow document part table) (.ok found) ∧ ∀ v ∈ found, IsRead v by
    obtain ⟨found, gives, reads⟩ := this
    have same : followed document part table = found := by
      rw [followed, gives []]
      rfl
    exact same ▸ ⟨gives, reads⟩
  unfold follow
  cases here : part.filter Value.isMap with
  | none => exact ⟨none, gives_pure none, nofun⟩
  | some data =>
    have reads := inside data (Option.filter_eq_some_iff.1 here).1
    dsimp only
    cases data.getText? "$ref" with
    | none => exact ⟨some data, gives_pure _, by simpa using reads⟩
    | some pointer =>
      dsimp only
      split
      · next target found =>
        refine ⟨some target, gives_pure _, ?_⟩
        rintro _ ⟨⟩
        obtain ⟨⟨head, entries⟩, table, led⟩ := List.exists_of_findSome?_eq_some found
        have entries_ : IsRead entries := by
          rcases List.mem_cons.1 table with same | table
          · exact (Prod.mk.inj same).2 ▸ isRead_mapUnder (isRead_mapUnder read _) _
          · exact (Prod.mk.inj (List.mem_singleton.1 table)).2 ▸ isRead_mapUnder read _
        obtain ⟨name, -, led⟩ := Option.bind_eq_some_iff.1 led
        obtain ⟨w, there, led⟩ := Option.bind_eq_some_iff.1 led
        split at led
        · obtain rfl := Option.some.inj led
          exact entries_.get? there
        · cases led
      · exact ⟨none, fun _ => rfl, nofun⟩

/-! ### Values of a document that are read as schemas -/

/-- Whether a media type stands for JSON. -/
def standsForJson (mediaType : Value) : Bool :=
  isText "application/json" mediaType || isText "*/*" mediaType ||
    Text.endsWith mediaType.shown.toList "+json".toList

/-- The schema of the first media type for JSON that has one. -/
def mediaSchema? (entries : List (Value × Value)) : Option Value :=
  entries.findSome? fun e => if standsForJson e.1 then e.2.get? "schema" else none

/-- The value that is read as the schema of a content. -/
def contentSchema? (content : Option Value) : Option Value :=
  match content.map Value.opened with
  | some (.map entries) => mediaSchema? entries
  | _ => none

/-- The value that is read as the schema of a parameter or, where Swagger has it so, of a body. -/
def declaredSchema? (document raw : Value) : Option Value :=
  (followed document (some raw) "parameters").bind fun data =>
    if !data.flag "name" || !data.flag "in" then none
    else if shownUnder data "in" == "body" then some ((data.get? "schema").getD .null)
    else some (parameterSchema data)

/-- The value that is read as the schema of a response. -/
def responseSchema? (document response : Value) : Option Value :=
  (followed document (some response) "responses").bind fun data =>
    (contentSchema? (data.get? "content")).or (data.get? "schema")

/-- The values that are read as schemas with an operation. -/
def operationSchemas (document : Value) (shared : List Value) (details : Value) : List Value :=
  (shared ++ itemsUnder details "parameters").filterMap (declaredSchema? document) ++
    ((followed document (details.get? "requestBody") "requestBodies").bind fun request =>
      contentSchema? (request.get? "content")).toList ++
    (entriesUnder details "responses").filterMap fun e => responseSchema? document e.2

/-- The operations of a path, as values. -/
def operationValues (item : Value) : List Value :=
  Method.listed.filterMap fun method => (item.get? method.key).filter Value.isMap

/-- The values that are read as schemas with a document. -/
def documentSchemas (document : Value) : List Value :=
  (rawSchemas document).map Prod.snd ++ (entriesUnder document "paths").flatMap fun e =>
    (operationValues e.2).flatMap (operationSchemas document (itemsUnder e.2 "parameters"))

lemma gives_isJsonMedia {mediaType : Value} (read : IsRead mediaType) :
    Gives (isJsonMedia mediaType) (.ok (standsForJson mediaType)) := by
  unfold isJsonMedia standsForJson
  split
  · next known =>
    rw [known]
    exact gives_pure true
  · next unknown =>
    rw [Bool.not_eq_true] at unknown
    rw [unknown]
    exact (gives_readText read).bind (gives_pure _)

/-- The schema of a content for JSON is what the value is read as that stands for it. -/
lemma gives_firstJsonSchema {entries : List (Value × Value)} (h : AreRead entries) :
    Gives (firstJsonSchema entries)
      ((mediaSchema? entries).elim (.ok none) fun v => some <$> SchemaNode.ofValue v) := by
  have reads : ∀ e ∈ entries, IsRead e.1 ∧ IsRead e.2 := fun e he => h.of_mem he
  clear h
  induction entries with
  | nil => exact gives_pure none
  | cons e rest ih =>
    obtain ⟨⟨key, value⟩, others⟩ := List.forall_mem_cons.1 reads
    have later := ih others
    have media : mediaSchema? (e :: rest) =
        (if standsForJson e.1 then e.2.get? "schema" else none).or (mediaSchema? rest) :=
      findSome?_cons_eq_or
    rw [firstJsonSchema, media]
    cases map : e.2.isMap with
    | false =>
      rw [get?_of_not_isMap map, ite_self]
      exact later
    | true =>
      rw [Bool.not_true, if_neg Bool.false_ne_true]
      refine (gives_isJsonMedia key).bind ?_
      cases standsForJson e.1 with
      | false => exact later
      | true =>
        rw [if_pos rfl, if_pos rfl]
        cases e.2.get? "schema" with
        | none => exact later
        | some schema =>
          exact (gives_readSchema schema).bind_pure some

lemma gives_jsonSchema {content : Option Value} (inside : ∀ v ∈ content, IsRead v) :
    Gives (jsonSchema content)
      ((contentSchema? content).elim (.ok none) fun v => some <$> SchemaNode.ofValue v) := by
  unfold jsonSchema contentSchema?
  cases content with
  | none => exact gives_pure none
  | some v =>
    have read := inside v rfl
    rw [Option.map_some, read.opened]
    cases read with
    | record nodup keys values => exact gives_firstJsonSchema (IsRead.record nodup keys values).areRead
    | null | bool | int | float | text | list => exact gives_pure none

lemma isRead_of_mem_contentSchema? {content : Option Value} (inside : ∀ v ∈ content, IsRead v)
    (h : v ∈ contentSchema? content) : IsRead v := by
  unfold contentSchema? at h
  split at h
  · next entries opens =>
    obtain ⟨whole, there, opens⟩ := Option.map_eq_some_iff.1 opens
    have read := inside whole there
    rw [read.opened] at opens
    obtain ⟨e, he, found⟩ := List.exists_of_findSome?_eq_some h
    split at found
    · exact ((opens ▸ read).areRead.of_mem he).2.get? found
    · cases found
  · cases h

lemma failsAs_jsonSchema {content : Option Value} (inside : ∀ v ∈ content, IsRead v) :
    FailsAs (jsonSchema content) ((contentSchema? content).bind schemaFault?) := by
  have gives := (gives_jsonSchema inside).failsAs
  cases found : contentSchema? content with
  | none => rwa [found] at gives
  | some v =>
    rw [found, Option.elim_some, fault?_map,
      fault?_ofValue_eq v (isRead_of_mem_contentSchema? inside found)] at gives
    exact gives

lemma isRead_parameterSchema (read : IsRead data) : IsRead (parameterSchema data) := by
  have own : IsRead (parameterSchema.ownType data) := by
    unfold parameterSchema.ownType
    rw [read.opened]
    split
    · exact read.filter _
    · exact read
  unfold parameterSchema
  split
  · next schema found =>
    split
    · exact own
    · exact read.get? found
  · split
    · exact own
    · exact .null

lemma failsAs_addParameter (read : IsRead document) (acc : Parameters) {raw : Value}
    (inside : IsRead raw) :
    FailsAs (Parameters.add document acc raw) ((declaredSchema? document raw).bind schemaFault?) := by
  unfold Parameters.add declaredSchema?
  have part : ∀ v ∈ some raw, IsRead v := by simpa using inside
  obtain ⟨gives, reads⟩ := gives_follow read part "parameters"
  refine gives.failsAs_bind ?_
  cases found : followed document (some raw) "parameters" with
  | none => exact (gives_pure acc).failsAs
  | some data =>
    have data_ := reads data found
    rw [Option.bind_some]
    dsimp only
    split
    · exact (gives_pure acc).failsAs
    · refine (gives_textUnder data_ "in").failsAs_bind ?_
      split
      · refine (failsAs_readSchema ?_).bind_pure _
        cases found : data.get? "schema" with
        | none => exact .null
        | some schema => exact data_.get? found
      · refine (gives_textUnder data_ "name").failsAs_bind ?_
        exact (failsAs_readSchema (isRead_parameterSchema data_)).bind_pure _

lemma failsAs_response (read : IsRead document) {e : Value × Value} (status : IsRead e.1)
    (inside : IsRead e.2) : FailsAs (do
      match ← follow document (some e.2) "responses" with
      | none => return (← readText e.1, none)
      | some data =>
        let schema ←
          match ← jsonSchema (data.get? "content"), data.get? "schema" with
          | some schema, _ => pure (some schema)
          | none, some schema => some <$> readSchema schema
          | none, none => pure none
        return (← readText e.1, schema))
      ((responseSchema? document e.2).bind schemaFault?) := by
  have part : ∀ v ∈ some e.2, IsRead v := by simpa using inside
  obtain ⟨gives, reads⟩ := gives_follow read part "responses"
  unfold responseSchema?
  refine gives.failsAs_bind ?_
  cases found : followed document (some e.2) "responses" with
  | none => exact ((gives_readText status).failsAs).bind_pure _
  | some data =>
    have data_ := reads data found
    have named (schema : Option SchemaNode) :
        FailsAs (do return (← readText e.1, schema) : Reporting ReadFault _) none :=
      (gives_readText status).failsAs.bind_pure _
    have inside := data_.forall_get? "content"
    have content := gives_jsonSchema inside
    rw [Option.bind_some]
    dsimp only
    cases json : contentSchema? (data.get? "content") with
    | some v =>
      rw [json] at content
      have read_ := isRead_of_mem_contentSchema? inside json
      rw [Option.some_or, Option.bind_some, ← fault?_ofValue_eq v read_,
        ← (fault? (SchemaNode.ofValue v)).or_none, ← fault?_map some]
      refine content.failsAs.bind fun schema log same => ?_
      obtain ⟨schema, -, rfl⟩ : ∃ s, SchemaNode.ofValue v = .ok s ∧ some s = schema := by
        rw [content log, Option.elim_some] at same
        cases node : SchemaNode.ofValue v with
        | error e =>
          rw [node] at same
          cases same
        | ok s =>
          rw [node] at same
          exact ⟨s, rfl, Except.ok.inj same⟩
      exact named _
    | none =>
      rw [json] at content
      refine content.failsAs_bind ?_
      cases found : data.get? "schema" with
      | none => exact named _
      | some schema =>
        rw [Option.none_or, Option.bind_some, ← (schemaFault? schema).or_none]
        exact ((failsAs_readSchema (data_.get? found)).map some).bind fun s _ _ => named s

lemma failsAs_readResponses (read : IsRead document) (details_ : IsRead data) :
    FailsAs (readResponses document data)
      ((entriesUnder data "responses").findSome? fun e =>
        (responseSchema? document e.2).bind schemaFault?) := by
  refine FailsAs.bind_pure (failsAs_mapM fun e he => ?_) tableOf
  obtain ⟨status, inside⟩ := (areRead_entriesUnder details_ _).of_mem he
  exact failsAs_response read status inside

/-- An operation fails as the first of the values does that are read as schemas with it. -/
lemma failsAs_readOperation (read : IsRead document) (path : String) (method : Method)
    {shared : List Value} (shared_ : ∀ v ∈ shared, IsRead v) (details_ : IsRead data) :
    FailsAs (readOperation document path method shared data)
      ((operationSchemas document shared data).findSome? schemaFault?) := by
  have parameters : ∀ raw ∈ shared ++ itemsUnder data "parameters", IsRead raw :=
    List.forall_mem_append.2 ⟨shared_, fun raw => isRead_of_mem_itemsUnder details_⟩
  obtain ⟨gives, reads⟩ := gives_follow read
    (details_.forall_get? "requestBody") "requestBodies"
  unfold operationSchemas readOperation
  rw [List.findSome?_append, List.findSome?_append, findSome?_filterMap, findSome?_filterMap,
    findSome?_toList, Option.or_assoc]
  have taken : ∀ raw ∈ shared ++ itemsUnder data "parameters", ∀ acc,
      FailsAs (Parameters.add document acc raw) ((declaredSchema? document raw).bind schemaFault?) :=
    fun raw hraw acc => failsAs_addParameter read acc (parameters raw hraw)
  refine (failsAs_foldlM {} taken).bind fun acc _ _ => ?_
  have rest (body : Option SchemaNode) (required : Bool) : FailsAs (do
      let responses ← readResponses document data
      let tags ← (itemsUnder data "tags").mapM readText
      let operationId ←
        if data.flag "operationId" then some <$> textUnder data "operationId" else pure none
      return {
        method, path, tags, operationId
        summary := data.getText? "summary"
        description := data.getText? "description"
        parameters := acc.declared
        requestBody := body
        requestBodyRequired := required
        responses
        deprecated := data.flag "deprecated" } : Reporting ReadFault Operation)
      ((entriesUnder data "responses").findSome? fun e =>
        (responseSchema? document e.2).bind schemaFault?) := by
    have tags : FailsAs ((itemsUnder data "tags").mapM readText) none := failsAs_mapM_none fun v hv =>
      (gives_readText (isRead_of_mem_itemsUnder details_ hv)).failsAs
    rw [← Option.or_none (o := List.findSome? _ _)]
    refine (failsAs_readResponses read details_).bind fun responses _ _ => ?_
    refine tags.bind fun tags _ _ => ?_
    split
    · exact ((gives_textUnder details_ "operationId").failsAs.map some).bind_pure _
    · exact (gives_pure none).failsAs.bind_pure _
  refine gives.failsAs_bind ?_
  cases found : followed document (data.get? "requestBody") "requestBodies" with
  | none => exact rest _ _
  | some request =>
    refine FailsAs.bind (failsAs_jsonSchema ((reads request found).forall_get? "content"))
      fun body _ _ => rest _ _

/-- The operations of a document fail as the first of the values does that are read as schemas with one. -/
lemma failsAs_readOperations (read : IsRead document) : FailsAs (readOperations document)
    (((entriesUnder document "paths").flatMap fun e =>
      (operationValues e.2).flatMap (operationSchemas document (itemsUnder e.2 "parameters"))).findSome?
        schemaFault?) := by
  rw [findSome?_flatMap]
  refine FailsAs.bind_pure (failsAs_mapM fun e he => ?_) List.flatten
  obtain ⟨path, item⟩ := (areRead_entriesUnder read _).of_mem he
  rw [findSome?_flatMap, operationValues, findSome?_filterMap]
  refine FailsAs.bind_pure (failsAs_mapM fun method _ => ?_) _
  cases found : (e.2.get? method.key).filter Value.isMap with
  | none => exact (gives_pure none).failsAs
  | some details =>
    have details_ := item.get? (Option.filter_eq_some_iff.1 found).1
    refine (gives_readText path).failsAs_bind ?_
    exact (failsAs_readOperation read _ method (fun v => isRead_of_mem_itemsUnder item) details_).bind_pure _

/-- A document fails as the first of the values does that are read as schemas with it. -/
lemma failsAs_ofDocument (read : IsRead document) (source : Option String) :
    FailsAs (Description.ofDocument document source)
      ((documentSchemas document).findSome? schemaFault?) := by
  have info := isRead_mapUnder read "info"
  have schemas : ∀ e ∈ rawSchemas document, FailsAs (do
      return (← readText e.1, ← readSchema e.2) : Reporting ReadFault _)
        (schemaFault? e.2) := fun e he =>
    (gives_readText (isRead_of_mem_rawSchemas read he).1).failsAs_bind
      ((failsAs_readSchema (isRead_of_mem_rawSchemas read he).2).bind_pure _)
  rw [documentSchemas, List.findSome?_append, List.findSome?_map]
  refine FailsAs.bind (failsAs_mapM schemas) fun schemas _ _ => ?_
  have tags : FailsAs (tagNames document) none := failsAs_mapM_none fun v hv =>
    (gives_textUnder (isRead_of_mem_itemsUnder read (List.mem_of_mem_filter hv)) "name").failsAs
  refine tags.bind fun tags _ _ => ?_
  refine (gives_textUnder info "title").failsAs_bind ?_
  refine (gives_textUnder info "version").failsAs_bind ?_
  exact (failsAs_readOperations read).bind_pure _

end Api

/-! ### Reading or stumbling -/

/-- There is a result if and only if none of some values stumbles, and an error is that of one of them. -/
def StopsAt (x : Except ReadFault α) (parts : List Value) : Prop :=
  ((∃ a, x = .ok a) ↔ ∀ part ∈ parts, stumble? part = none) ∧
    ∀ f, x = .error f → ∃ part ∈ parts, ∃ e, stumble? part = some e ∧ f = .key e

lemma stopsAt_of_fault? {x : Except ReadFault α} {parts : List Value}
    (h : fault? x = (parts.findSome? stumble?).map .key) : StopsAt x parts := by
  constructor
  · rw [← fault?_eq_none_iff, h, Option.map_eq_none_iff, List.findSome?_eq_none_iff]
  · rintro f rfl
    obtain ⟨e, found, rfl⟩ := Option.map_eq_some_iff.1 h.symm
    obtain ⟨part, hp, stumbles⟩ := List.exists_of_findSome?_eq_some found
    exact ⟨part, hp, e, stumbles, rfl⟩

/-- However malformed a value from JSON is, it is read as a schema, and as the description of an API,
unless a value stumbles that is read as a schema with it: one that requires a list or a map as the name
of a property, or whose only type is a list or a map. Then the error is that of such a value. What has a
form that is not supported is read as an unknown schema. -/
theorem reads_unless_stumbled {v : Value} (read : IsRead v) :
    (formOf v = .unsupported → SchemaNode.ofValue v = .ok (.unknown (notesOf v))) ∧
    StopsAt (SchemaNode.ofValue v) (schemasWithin v) ∧
    ∀ source log, StopsAt (outcome (Description.ofDocument v source) log).1
      ((documentSchemas v).flatMap schemasWithin) := by
  refine ⟨ofValue_of_unsupported read, stopsAt_of_fault? (fault?_ofValue_eq v read), fun source log =>
    stopsAt_of_fault? ?_⟩
  rw [failsAs_ofDocument read source log, findSome?_flatMap, List.map_findSome?]
  rfl

/-- A schema that requires a list as the name of a property is not read, and no document with it is. -/
theorem reads_unless_stumbled_list :
    let awkward : Value := .record [("type", .str "object"), ("required", .list [.list []])]
    let document : Value := .record [("definitions", .record [("Pet", awkward)])]
    IsRead awkward ∧ IsRead document ∧ (¬∃ s, SchemaNode.ofValue awkward = .ok s) ∧
      ¬∃ d, (outcome (Description.ofDocument document none) []).1 = .ok d := by
  intro awkward document
  have whole {k : String} (h : Text.halfMark ∉ k.toList) : IsWhole k := isWhole_of_notMem h
  have none : IsRead (.list []) := .list nofun
  have awkward_ : IsRead awkward := by
    refine .record (by decide) ?_ ?_
    · exact List.forall_mem_cons.2 ⟨whole (by decide), List.forall_mem_cons.2 ⟨whole (by decide), nofun⟩⟩
    · exact List.forall_mem_cons.2 ⟨.text (whole (by decide)),
        List.forall_mem_cons.2 ⟨.list (by simpa using none), nofun⟩⟩
  have document_ : IsRead document := by
    refine .record (by decide) (by simpa using whole (by decide)) (List.forall_mem_cons.2 ⟨?_, nofun⟩)
    exact .record (by decide) (by simpa using whole (by decide)) (by simpa using awkward_)
  have stumbles : stumble? awkward = some .list := rfl
  have within : awkward ∈ schemasWithin awkward := by
    rw [schemasWithin_eq]
    exact List.mem_cons_self
  have read : documentSchemas document = [awkward] := rfl
  obtain ⟨-, ⟨returns, -⟩, -⟩ := reads_unless_stumbled awkward_
  obtain ⟨-, -, describes⟩ := reads_unless_stumbled document_
  refine ⟨awkward_, document_, fun there => ?_, fun there => ?_⟩
  · have clear := returns.1 there awkward within
    rw [stumbles] at clear
    cases clear
  · have clear := (describes .none []).1.1 there awkward (by simpa [read] using within)
    rw [stumbles] at clear
    cases clear

end ClientGen
