import ClientGen.Api.Description
import ClientGen.Proofs.Collections
import ClientGen.Proofs.Json.Values

/-!
# Malformed schemas

Which values are read as schemas on the way through a value, and over which of them the reading stumbles.
Almost every shape of a value is read as some schema or other. The exceptions are two places where a list
or a map is looked up as a key: among the names that an object requires, and as the only type in a list
of types.
-/

namespace ClientGen

open Api Document Json Schema

/-! ### Forms of schemas -/

namespace Schema

/-- What decides how a value is read as a schema. -/
inductive Form
  /-- The value is no map, or none of the other forms fits. -/
  | unsupported
  | reference (pointer : Value)
  | composition (members : List Value)
  | enumeration
  | array
  | object
  | scalar (kind : PrimitiveKind)
  /-- The type cannot be looked up among the names of kinds. -/
  | awkward (e : KeyError)

/-- The members of a composition, if its list is there and not empty. -/
def members? (data : Value) (key : String) : Option (List Value) :=
  match data.openAt? key with
  | some (.list members) => if members.isEmpty then none else some members
  | _ => none

/-- The form of a schema that is neither a reference nor a composition nor an enumeration. -/
def typedForm (data : Value) : Form :=
  let type := typeOf? data
  let has (key : String) : Bool := type.isNone && (data.get? key).isSome
  if type.any (isText "array") || has "items" then .array
  else if type.any (isText "object") || has "properties" || has "additionalProperties" then .object
  else
    match type with
    | none => .unsupported
    | some t =>
      match kindError? t with
      | some e => .awkward e
      | none => (t.text?.bind PrimitiveKind.ofName?).elim .unsupported .scalar

/-- The form of a value. -/
def formOf (data : Value) : Form :=
  if !data.isMap then .unsupported
  else
    match data.get? "$ref" with
    | some pointer => .reference pointer
    | none =>
      match (members? data "allOf").or ((members? data "oneOf").or (members? data "anyOf")) with
      | some members => .composition members
      | none => if (enumValues? data).isSome then .enumeration else typedForm data

/-- The values directly inside a value of a form that are read as schemas with it, in order. -/
def Form.inner (data : Value) : Form → List Value
  | .composition members => members
  | .array => (data.get? "items").toList
  | .object => (entriesUnder data "properties").map Prod.snd ++
      ((data.get? "additionalProperties").filter Value.isMap).toList
  | _ => []

/-- Why a value of a form is not read because of what it is itself: among the names that an object
requires, or as its type, there is something that is no key. -/
def Form.stumble? (data : Value) : Form → Option KeyError
  | .object => (itemsUnder data "required").findSome? keyError?
  | .awkward e => some e
  | _ => none

/-- The values directly inside a value that are read as schemas with it. -/
def innerSchemas (data : Value) : List Value :=
  (formOf data).inner data

/-- Why a value is not read as a schema because of what it is itself. -/
def stumble? (data : Value) : Option KeyError :=
  (formOf data).stumble? data

variable {data v : Value} {key : String}

lemma get?_of_not_isMap (h : v.isMap = false) : v.get? key = none := by
  unfold Value.isMap at h
  unfold Value.get?
  split
  · next opens =>
    rw [opens] at h
    cases h
  · rfl

lemma openAt?_of_members? {members : List Value} (h : members? data key = some members) :
    data.openAt? key = some (.list members) := by
  unfold members? at h
  split at h
  · next found =>
    split at h
    · cases h
    · rw [found, Option.some.inj h]
  · cases h

lemma mem_entriesUnder {e : Value × Value} (h : e ∈ entriesUnder data key) :
    ∃ entries, data.openAt? key = some (.map entries) ∧ e ∈ entries := by
  unfold entriesUnder at h
  split at h
  · next entries found => exact ⟨entries, found, h⟩
  · cases h

lemma typedForm_ne_composition (members : List Value) : typedForm data ≠ .composition members := by
  unfold typedForm
  dsimp only
  intro same
  split at same
  · cases same
  · split at same
    · cases same
    · split at same
      · cases same
      · split at same
        · cases same
        · cases kind : Option.bind _ PrimitiveKind.ofName? <;> rw [kind] at same <;> cases same

lemma exists_members? {members : List Value} (h : formOf data = .composition members) :
    ∃ key, members? data key = some members := by
  unfold formOf at h
  split at h
  · cases h
  · split at h
    · cases h
    · split at h
      · next found =>
        obtain rfl := Form.composition.inj h
        obtain found | ⟨-, found⟩ := Option.or_eq_some_iff.1 found
        · exact ⟨_, found⟩
        · obtain found | ⟨-, found⟩ := Option.or_eq_some_iff.1 found
          · exact ⟨_, found⟩
          · exact ⟨_, found⟩
      · split at h
        · cases h
        · exact absurd h (typedForm_ne_composition members)

/-- Where the values inside a value come from. -/
lemma mem_innerSchemas (h : v ∈ innerSchemas data) :
    (∃ key members, data.openAt? key = some (.list members) ∧ v ∈ members) ∨
      (∃ key entries, data.openAt? key = some (.map entries) ∧ ∃ e ∈ entries, e.2 = v) ∨
        ∃ key, data.get? key = some v := by
  unfold innerSchemas Form.inner at h
  split at h
  · next members form =>
    obtain ⟨key, found⟩ := exists_members? form
    exact .inl ⟨key, members, openAt?_of_members? found, h⟩
  · exact .inr (.inr ⟨_, Option.mem_toList.1 h⟩)
  · rcases List.mem_append.1 h with h | h
    · obtain ⟨e, he, rfl⟩ := List.mem_map.1 h
      obtain ⟨entries, found, he⟩ := mem_entriesUnder he
      exact .inr (.inl ⟨_, entries, found, e, he, rfl⟩)
    · exact .inr (.inr ⟨_, (Option.filter_eq_some_iff.1 (Option.mem_toList.1 h)).1⟩)
  · cases h

lemma height_lt_of_mem_innerSchemas (h : v ∈ innerSchemas data) : v.height < data.height := by
  obtain ⟨key, members, found, hv⟩ | ⟨key, entries, found, e, he, rfl⟩ | ⟨key, found⟩ :=
    mem_innerSchemas h
  · exact height_member_lt found hv
  · exact height_property_lt found he
  · exact Value.height_get?_lt found

lemma isRead_of_mem_innerSchemas (read : IsRead data) (h : v ∈ innerSchemas data) : IsRead v := by
  obtain ⟨key, members, found, hv⟩ | ⟨key, entries, found, e, he, rfl⟩ | ⟨key, found⟩ :=
    mem_innerSchemas h
  · rw [read.openAt?] at found
    exact (read.get? found).of_mem hv
  · rw [read.openAt?] at found
    exact ((read.get? found).areRead.of_mem he).2
  · exact read.get? found

/-- All values that are read as schemas where a value is, that value first. -/
def schemasWithin (data : Value) : List Value :=
  data :: (innerSchemas data).attach.flatMap fun ⟨v, _⟩ => schemasWithin v
termination_by data.height
decreasing_by exact height_lt_of_mem_innerSchemas ‹_›

lemma schemasWithin_eq (data : Value) :
    schemasWithin data = data :: (innerSchemas data).flatMap schemasWithin := by
  rw [schemasWithin, List.flatMap_subtype fun _ _ => rfl, List.unattach_attach]

/-! ### Reading malformed schemas -/

/-- The values inside a value are read as schemas of their own. -/
abbrev ownReader (data : Value) : ChildReader data :=
  fun v _ => SchemaNode.ofValue v

lemma readMembers?_eq (data : Value) (key : String) : readMembers? data (ownReader data) key =
    (members? data key).map fun members => members.mapM SchemaNode.ofValue := by
  unfold readMembers?
  split
  · next members found =>
    have there : members? data key = if members.isEmpty then none else some members := by
      rw [members?, found]
    rw [there]
    split
    · rfl
    · exact congrArg some (mapM_attach members)
  · next other =>
    have none : members? data key = none := by
      unfold members?
      split
      · next members found => exact absurd found (other members)
      · rfl
    rw [none]
    rfl

lemma fault?_readUnder (data : Value) (key : String) : fault? (readUnder data (ownReader data) key) =
    (data.get? key).bind fun v => fault? (SchemaNode.ofValue v) := by
  unfold readUnder
  split
  · next v found =>
    change fault? (SchemaNode.ofValue v) = _
    rw [found, Option.bind_some]
  · next found =>
    rw [found]
    rfl

lemma fault?_readRequired (data : Value) : fault? (readRequired data) =
    ((itemsUnder data "required").findSome? keyError?).map .key := by
  unfold readRequired itemsUnder
  cases data.openAt? "required" with
  | none => rfl
  | some v =>
    cases v with
    | list names =>
      dsimp only
      cases names.findSome? keyError? <;> rfl
    | _ => rfl

lemma fault?_textOf (read : IsRead v) : fault? (textOf v) = none := by
  rw [textOf, read.written]
  rfl

/-- An entry of the properties as a property. -/
def ownProperty (required : List Value) (entry : Value × Value) : Except ReadFault Property := do
  let schema ← SchemaNode.ofValue entry.2
  return ⟨← textOf entry.1, required.any entry.1.sameKey, schema⟩

lemma readProperties_eq (data : Value) (required : List Value) :
    readProperties data (ownReader data) required =
      (entriesUnder data "properties").mapM (ownProperty required) := by
  unfold readProperties
  split
  · next entries found =>
    have there : entriesUnder data "properties" = entries := by rw [entriesUnder, found]
    rw [there]
    exact mapM_attach (f := ownProperty required) entries
  · next other =>
    have none : entriesUnder data "properties" = [] := by
      unfold entriesUnder
      split
      · next entries found => exact absurd found (other entries)
      · rfl
    rw [none]
    rfl

lemma fault?_ownProperty (required : List Value) {e : Value × Value} (read : IsRead e.1) :
    fault? (ownProperty required e) = fault? (SchemaNode.ofValue e.2) := by
  refine (fault?_bind fun schema _ => ?_).trans Option.or_none
  rw [fault?_bind fun name _ => fault?_pure _, fault?_textOf read]
  rfl

lemma areRead_entriesUnder (read : IsRead data) (key : String) : AreRead (entriesUnder data key) := by
  unfold entriesUnder
  split
  · next entries found =>
    rw [read.openAt?] at found
    exact (read.get? found).areRead
  · exact isRead_map_nil.areRead

lemma fault?_readProperties (read : IsRead data) (required : List Value) :
    fault? (readProperties data (ownReader data) required) =
      (entriesUnder data "properties").findSome? fun e => fault? (SchemaNode.ofValue e.2) := by
  rw [readProperties_eq, fault?_mapM]
  exact findSome?_congr fun e he => fault?_ownProperty required ((areRead_entriesUnder read _).of_mem he).1

lemma fault?_readAdditional (read : IsRead data) :
    fault? (readAdditional data (ownReader data)) =
      ((data.get? "additionalProperties").filter Value.isMap).bind fun v =>
        fault? (SchemaNode.ofValue v) := by
  unfold readAdditional
  rw [read.openAt?]
  cases found : data.get? "additionalProperties" with
  | none => rfl
  | some v =>
    rw [Option.filter_some]
    cases read.get? found with
    | record =>
      rw [if_pos (by rfl)]
      change fault? (some <$> readUnder data (ownReader data) "additionalProperties") = _
      rw [fault?_map, fault?_readUnder, found]
    | bool b => cases b <;> rfl
    | null | int | float | text | list => rfl

/-- The first fault of a value of a form: its own one, or the first of those of the values inside it. -/
def Form.fault? (data : Value) (form : Form) : Option ReadFault :=
  ((form.stumble? data).map .key).or
    ((form.inner data).findSome? fun v => ClientGen.fault? (SchemaNode.ofValue v))

/-- What the form of a value says about what it is read as: unknown if it is not supported, and with
which fault it is not read otherwise. -/
def Form.Explains (data : Value) (x : Except ReadFault SchemaNode) : Form → Prop
  | .unsupported => x = .ok (.unknown (notesOf data))
  | form => ClientGen.fault? x = form.fault? data

lemma typedForm_explains (read : IsRead data) :
    (typedForm data).Explains data (readTyped data (ownReader data)) := by
  unfold readTyped typedForm
  dsimp only
  split
  · change fault? _ = Form.array.fault? data
    rw [fault?_bind fun items _ => fault?_pure _, fault?_readUnder, Option.or_none]
    exact (findSome?_toList _).symm
  · split
    · have inside (required : List Value) : fault? (do
          let properties ← readProperties data (ownReader data) required
          let additional ← readAdditional data (ownReader data)
          return SchemaNode.object properties additional (notesOf data)) =
            (Form.object.inner data).findSome? fun v => fault? (SchemaNode.ofValue v) := by
        rw [fault?_bind fun properties _ => fault?_bind fun additional _ => fault?_pure _,
          fault?_readProperties read, fault?_readAdditional read, Option.or_none, Form.inner,
          List.findSome?_append, List.findSome?_map, findSome?_toList]
        rfl
      change fault? _ = Form.object.fault? data
      rw [fault?_bind fun required _ => inside required, fault?_readRequired]
      rfl
    · cases typeOf? data with
      | none => exact rfl
      | some t =>
        dsimp only
        cases kindError? t with
        | some e => exact rfl
        | none =>
          dsimp only
          cases t.text?.bind PrimitiveKind.ofName? <;> exact rfl

lemma notesOf_of_not_isMap (h : data.isMap = false) : notesOf data = {} := by
  have missing (key : String) : data.get? key = none := get?_of_not_isMap h
  simp [notesOf, allowsNull, isTrue, Value.getText?, Value.openAt?, missing]

/-- The form of a value says what it is read as. -/
lemma formOf_explains (read : IsRead data) :
    (formOf data).Explains data (SchemaNode.ofValue data) := by
  rw [SchemaNode.ofValue, readWith, read.isSpent, if_neg Bool.false_ne_true]
  unfold formOf
  cases map : data.isMap with
  | false =>
    change Except.ok (SchemaNode.unknown {}) = .ok (.unknown (notesOf data))
    rw [notesOf_of_not_isMap map]
  | true =>
    rw [Bool.not_true, if_neg Bool.false_ne_true, if_neg Bool.false_ne_true]
    cases pointed : data.get? "$ref" with
    | some pointer =>
      change fault? (_ <$> textOf pointer) = none
      rw [fault?_map, fault?_textOf (read.get? pointed)]
    | none =>
      dsimp only
      rw [readMembers?_eq, readMembers?_eq, readMembers?_eq]
      have composed (build : List SchemaNode → SchemaNode) (members : List Value) :
          (Form.composition members).Explains data (build <$> members.mapM SchemaNode.ofValue) := by
        change fault? _ = (Form.composition members).fault? data
        rw [fault?_map, fault?_mapM]
        rfl
      cases members? data "allOf" with
      | some members => exact composed _ members
      | none =>
        cases members? data "oneOf" with
        | some members => exact composed _ members
        | none =>
          cases members? data "anyOf" with
          | some members => exact composed _ members
          | none =>
            dsimp only [Option.map_none, Option.or_none]
            cases enumValues? data with
            | some values => exact rfl
            | none => exact typedForm_explains read

/-- A value of no form that is supported is read as an unknown schema. -/
lemma ofValue_of_unsupported (read : IsRead data) (h : formOf data = .unsupported) :
    SchemaNode.ofValue data = .ok (.unknown (notesOf data)) := by
  have explains := formOf_explains read
  rwa [h] at explains

/-- A value that is read as a schema stumbles over itself first, and then over the values inside it. -/
lemma fault?_ofValue (read : IsRead data) :
    fault? (SchemaNode.ofValue data) = (formOf data).fault? data := by
  have explains := formOf_explains read
  revert explains
  cases formOf data with
  | unsupported =>
    intro same
    rw [same]
    rfl
  | _ => exact id

/-- The fault with which reading a value as a schema stops: that of the first value over which it stumbles. -/
def schemaFault? (data : Value) : Option ReadFault :=
  ((schemasWithin data).findSome? stumble?).map .key

/-- A value that is read as a schema stumbles where the first of the values does that are read with it. -/
lemma fault?_ofValue_eq (data : Value) (read : IsRead data) :
    fault? (SchemaNode.ofValue data) = schemaFault? data := by
  have inside : ∀ v ∈ innerSchemas data, fault? (SchemaNode.ofValue v) =
      ((schemasWithin v).findSome? stumble?).map .key := fun v hv =>
    fault?_ofValue_eq v (isRead_of_mem_innerSchemas read hv)
  rw [fault?_ofValue read, schemaFault?, schemasWithin_eq, findSome?_cons_eq_or, findSome?_flatMap,
    Option.map_or, List.map_findSome?]
  exact congrArg _ (findSome?_congr inside)
termination_by data.height
decreasing_by exact height_lt_of_mem_innerSchemas hv

end Schema

end ClientGen
