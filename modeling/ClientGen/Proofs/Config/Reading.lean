import ClientGen.Failure
import ClientGen.Proofs.Collections

/-!
# Configurations that are read

A document is read as a configuration that says what the document says, or it is refused. Whatever is
refused is refused with an error of the configuration, except that a number with too many digits cannot
be made a text.
-/

namespace ClientGen.Config

open Document Emission Number

/-! ### What a document says -/

/-- The text under a key: that of a text or of a number. -/
def textAt? (v : Value) (key : String) : Option String :=
  ((v.get? key).filter countsAsText).map Value.shown

/-- The text under a key, unless it is empty or not given. -/
def textAt (v : Value) (key usual : String) : String :=
  match textAt? v key with
  | some s => if s.isEmpty then usual else s
  | none => usual

/-- The value under a key, which is null where none is given. -/
def valueAt (v : Value) (key : String) : Value :=
  (v.get? key).getD .null

/-- The items of a list. -/
def itemsOf (v : Value) : List Value :=
  match v.opened with
  | .list items => items
  | _ => []

/-- The texts of a value: one alone, or those of a list. -/
def textsIn : Value → List String
  | .str s => [s]
  | .list items => (items.filter countsAsItem).map Value.shown
  | _ => []

/-- The texts under a key. -/
def textsAt (v : Value) (key : String) : List String :=
  textsIn (valueAt v key).opened

/-- A block of the schemas says what a value says. -/
structure IsSchemas (v : Value) (b : SchemasBlock) : Prop where
  output : b.output = textAt v "output" "src/schemas"

/-- A block of the client functions says what a value says. -/
structure IsApis (v : Value) (b : ApisBlock) : Prop where
  output : b.output = textAt v "output" "src/apis"
  style : b.style.name = textAt v "style" "fetch"
  baseUrl : b.baseUrl = textAt v "base_url" ""

/-- A block of the modules says what a value says. -/
structure IsModules (v : Value) (b : ModulesBlock) : Prop where
  ignore : b.ignore = textsAt v "ignore"
  selected : b.selected = textsAt v "selected"

/-- A block of the hooks says what a value says. -/
structure IsHooks (v : Value) (b : HooksBlock) : Prop where
  library : b.library.map (·.name) = textAt? v "library"
  output : b.output = textAt v "output" "src/hooks"

/-- A block is the one under a key, or another one where none is given. -/
def IsBlock {α : Type} (isOf : Value → α → Prop) (v : Value) (key : String) (otherwise b : α) :
    Prop :=
  match v.get? key with
  | none => b = otherwise
  | some .null => b = otherwise
  | some u => isOf u b

/-! ### Parts of documents -/

/-- A value is part of a document, or it is null and stands for what is not given. -/
inductive IsPart (root : Value) : Value → Prop
  | root : IsPart root root
  | missing : IsPart root .null
  | field {v w : Value} {key : String} : IsPart root v → v.get? key = some w → IsPart root w
  | item {v w : Value} {items : List Value} : IsPart root v → v.opened = .list items → w ∈ items →
      IsPart root w

lemma IsPart.valueAt {root v : Value} (h : IsPart root v) (key : String) :
    IsPart root (valueAt v key) := by
  unfold Config.valueAt
  cases found : v.get? key with
  | none => exact .missing
  | some w => exact h.field found

/-- A document has a number with too many digits to be made a text. -/
def HasLongNumber (root : Value) : Prop :=
  ∃ n, IsPart root (.int n) ∧ isLong n = true

/-- An error of a document, and not of the file that it is in. -/
def IsOwn : ConfigError → Prop
  | .missing _ => False
  | .unreadable _ _ => False
  | .notYaml _ => False
  | .digits _ => False
  | _ => True

/-- What is read from a document satisfies `P`, or the document is refused for a reason. -/
def Reads {α : Type} (root : Value) (x : Except ConfigError α) (P : α → Prop) : Prop :=
  match x with
  | .ok a => P a
  | .error (.digits _) => HasLongNumber root
  | .error e => IsOwn e

variable {α β : Type} {root v u block : Value} {key field : String} {P : α → Prop} {Q : β → Prop}
  {x : Except ConfigError α} {f : α → Except ConfigError β}

lemma reads_pure {a : α} (h : P a) : Reads root (pure a) P :=
  h

lemma reads_ok {a : α} (h : P a) : Reads root (.ok a) P :=
  h

lemma Reads.bind (hx : Reads root x P) (hf : ∀ a, P a → Reads root (f a) Q) :
    Reads root (x >>= f) Q := by
  cases x with
  | ok a => exact hf a hx
  | error e => cases e <;> exact hx

lemma Reads.imp {P' : α → Prop} (hx : Reads root x P) (h : ∀ a, P a → P' a) :
    Reads root x P' := by
  cases x with
  | ok a => exact h a hx
  | error e => cases e <;> exact hx

/-! ### Texts -/

/-- What counts as text has a text, unless it is a number with too many digits. -/
lemma writtenOf_reads (part : IsPart root v) (text : countsAsItem v = true) :
    Reads root (writtenOf v) (· = v.shown) := by
  cases v with
  | int n =>
    cases long : isLong n with
    | true =>
      have fails : writtenOf (.int n) = .error (.digits {}) := by
        simp [writtenOf, Value.written, Value.hasLongInteger, longWith, long, Except.mapError]
      rw [fails]
      exact ⟨n, part, long⟩
    | false =>
      have fine : writtenOf (.int n) = .ok (Value.int n).shown := by
        simp [writtenOf, Value.written, Value.hasLongInteger, longWith, long, Except.mapError]
      rw [fine]
      exact reads_ok rfl
  | bool | float | str => exact reads_ok rfl
  | _ => cases text

/-- A map has the fields of the value that it is taken from. -/
lemma mapOf_reads (v : Value) (field : String) :
    Reads root (mapOf v field) fun block => ∀ key, block.get? key = v.get? key := by
  unfold mapOf
  split
  · next opens =>
    refine reads_ok fun key => ?_
    rw [Value.get?, Value.get?, opens]
    rfl
  · next opens =>
    refine reads_ok fun key => ?_
    rw [Value.get?, Value.get?, opens]
    rfl
  · exact trivial

lemma mapM_writtenOf_reads {items : List Value}
    (texts : ∀ w ∈ items, IsPart root w ∧ countsAsItem w = true) :
    Reads root (items.mapM writtenOf) (· = items.map Value.shown) := by
  induction items with
  | nil => exact reads_ok rfl
  | cons w items ih =>
    obtain ⟨⟨part, text⟩, others⟩ := List.forall_mem_cons.1 texts
    rw [List.mapM_cons]
    refine (writtenOf_reads part text).bind fun s hs => (ih others).bind fun ss hss => ?_
    rw [hs, hss]
    exact reads_pure rfl

lemma textsOf_reads (parts : ∀ items, v = .list items → ∀ w ∈ items, IsPart root w) :
    Reads root (textsOf v) (· = textsIn v) := by
  cases v with
  | str s => exact reads_ok rfl
  | list items =>
    refine mapM_writtenOf_reads fun w hw => ?_
    obtain ⟨mem, item⟩ := List.mem_filter.1 hw
    exact ⟨parts items rfl w mem, item⟩
  | _ => exact reads_ok rfl

section Fields

variable (part : IsPart root v) (same : ∀ key, block.get? key = v.get? key)

include part same

lemma textField?_reads (key : String) : Reads root (textField? block key) (· = textAt? v key) := by
  unfold textField? textAt?
  rw [same key]
  cases found : (v.get? key).filter countsAsText with
  | none => exact reads_ok rfl
  | some w =>
    obtain ⟨there, text⟩ := Option.filter_eq_some_iff.1 found
    have item : countsAsItem w = true := by
      cases w <;> first | rfl | exact text
    exact (writtenOf_reads (part.field there) item).bind fun s hs => reads_ok (congrArg some hs)

lemma textFieldOr_reads (key usual : String) :
    Reads root (textFieldOr block key usual) (· = textAt v key usual) := by
  refine (textField?_reads part same key).bind fun s hs => ?_
  unfold textAt
  rw [← hs]
  cases s with
  | none => exact reads_ok rfl
  | some s => exact reads_ok rfl

lemma textsField_reads (key : String) :
    Reads root (textsField block key) (· = textsAt v key) := by
  have value : (block.openAt? key).getD .null = (valueAt v key).opened := by
    rw [Value.openAt?, same, valueAt]
    cases v.get? key <;> rfl
  unfold textsField
  rw [value]
  exact textsOf_reads fun items opens w hw => (part.valueAt key).item opens hw

end Fields

/-! ### Blocks -/

lemma readSchemas_reads (part : IsPart root v) (same : ∀ key, block.get? key = v.get? key) :
    Reads root (readSchemas block) (IsSchemas v) :=
  (textFieldOr_reads part same "output" "src/schemas").bind fun _ output => reads_ok ⟨output⟩

lemma readApis_reads (part : IsPart root v) (same : ∀ key, block.get? key = v.get? key) :
    Reads root (readApis field block) (IsApis v) := by
  refine (textFieldOr_reads part same "output" "src/apis").bind fun output ho => ?_
  refine (textFieldOr_reads part same "style" "fetch").bind fun style hs => ?_
  refine (textFieldOr_reads part same "base_url" "").bind fun baseUrl hu => ?_
  cases found : ApiStyle.ofName? style with
  | none => exact trivial
  | some s =>
    have name : s.name = style := by simpa using List.find?_some found
    exact reads_ok ⟨ho, name.trans hs, hu⟩

lemma readModules_reads (part : IsPart root v) (same : ∀ key, block.get? key = v.get? key) :
    Reads root (readModules block) (IsModules v) :=
  (textsField_reads part same "ignore").bind fun _ ignore =>
    (textsField_reads part same "selected").bind fun _ selected => reads_ok ⟨ignore, selected⟩

lemma readHooks_reads (part : IsPart root v) (same : ∀ key, block.get? key = v.get? key) :
    Reads root (readHooks block) (IsHooks v) := by
  refine (textField?_reads part same "library").bind fun library hl => ?_
  refine (textFieldOr_reads part same "output" "src/hooks").bind fun output ho => ?_
  cases library with
  | none => exact reads_ok ⟨hl, ho⟩
  | some given =>
    dsimp only
    cases found : HookLibrary.ofName? given with
    | none => exact trivial
    | some l =>
      have name : l.name = given := by simpa using List.find?_some found
      exact reads_ok ⟨by rw [← hl, ← name]; rfl, ho⟩

/-- A block that is given is read, and one that is not is none. -/
lemma blockField?_reads {read : Value → Except ConfigError α} {isOf : Value → α → Prop}
    (part : IsPart root v) (same : ∀ key, block.get? key = v.get? key)
    (reads : ∀ {u block}, IsPart root u → (∀ key, block.get? key = u.get? key) →
      Reads root (read block) (isOf u)) :
    Reads root (blockField? block key field read)
      fun b => ∀ otherwise, IsBlock isOf v key otherwise (b.getD otherwise) := by
  unfold blockField? IsBlock
  rw [same]
  cases found : v.get? key with
  | none => exact reads_ok fun _ => rfl
  | some u =>
    have given : Reads root (do return some (← read (← mapOf u field)))
        fun b => ∀ otherwise, isOf u (b.getD otherwise) :=
      (mapOf_reads u field).bind fun _ same =>
        (reads (part.field found) same).bind fun _ h => reads_pure fun _ => h
    cases u with
    | null => exact reads_ok fun _ => rfl
    | _ => exact given

/-! ### Specifications -/

/-- What three blocks are, given the value that they are in. -/
structure AreBlocks (v : Value)
    (blocks : Option SchemasBlock × Option ApisBlock × Option ModulesBlock) : Prop where
  schemas : ∀ otherwise, IsBlock IsSchemas v "schemas" otherwise (blocks.1.getD otherwise)
  apis : ∀ otherwise, IsBlock IsApis v "apis" otherwise (blocks.2.1.getD otherwise)
  modules : ∀ otherwise, IsBlock IsModules v "modules" otherwise (blocks.2.2.getD otherwise)

lemma readBlocks_reads (part : IsPart root v) (same : ∀ key, block.get? key = v.get? key)
    (place : String) : Reads root (readBlocks block place) (AreBlocks v) :=
  (blockField?_reads part same readSchemas_reads).bind fun _ schemas =>
    (blockField?_reads part same readApis_reads).bind fun _ apis =>
      (blockField?_reads part same readModules_reads).bind fun _ modules =>
        reads_pure ⟨schemas, apis, modules⟩

/-- An entry of the list of specifications is what a value of the list is. -/
structure IsEntry (v : Value) (e : SpecEntry) : Prop where
  name : e.name = textAt v "name" ""
  path : e.path = textAt v "path" ""
  named : e.name ≠ ""
  found : e.path ≠ ""
  blocks : AreBlocks v (e.schemas, e.apis, e.modules)

lemma readEntry_reads (part : IsPart root v) (seen : List String) (field : String) :
    Reads root (readEntry seen field v) fun e => IsEntry v e ∧ e.name ∉ seen := by
  refine (mapOf_reads v field).bind fun block same => ?_
  refine (textFieldOr_reads part same "name" "").bind fun name hn => ?_
  refine (textFieldOr_reads part same "path" "").bind fun path hp => ?_
  by_cases noName : name.isEmpty
  · rw [if_pos noName]
    exact trivial
  by_cases noPath : path.isEmpty
  · rw [if_neg noName, if_pos noPath]
    exact trivial
  by_cases again : seen.contains name
  · rw [if_neg noName, if_neg noPath, if_pos again]
    exact trivial
  rw [if_neg noName, if_neg noPath, if_neg again]
  exact (readBlocks_reads part same (field ++ ".")).bind fun blocks hb =>
    reads_pure ⟨⟨hn, hp, by simpa using noName, by simpa using noPath, hb⟩, by simpa using again⟩

lemma readEntries_reads : ∀ {vs : List Value} {seen : List String} {index : Nat},
    (∀ v ∈ vs, IsPart root v) → Reads root (readEntries seen index vs) fun es =>
      List.Forall₂ IsEntry vs es ∧ (es.map (·.name)).Nodup ∧ ∀ e ∈ es, e.name ∉ seen
  | [], _, _, _ => reads_ok ⟨.nil, List.nodup_nil, by simp⟩
  | v :: vs, seen, index, parts => by
    obtain ⟨part, parts⟩ := List.forall_mem_cons.1 parts
    refine (readEntry_reads part seen _).bind fun e he => ?_
    refine (readEntries_reads parts).bind fun es ⟨each, distinct, fresh⟩ => ?_
    have others : e.name ∉ es.map (·.name) := by
      intro mem
      obtain ⟨e', he', same⟩ := List.mem_map.1 mem
      exact fresh e' he' (same ▸ List.mem_cons_self)
    refine reads_pure ⟨.cons he.1 each, List.nodup_cons.2 ⟨others, distinct⟩, ?_⟩
    refine List.forall_mem_cons.2 ⟨he.2, fun e' he' mem => ?_⟩
    exact fresh e' he' (List.mem_cons_of_mem _ mem)

lemma readSpecs_reads (part : ∀ items, v.opened = .list items → ∀ w ∈ items, IsPart root w) :
    Reads root (readSpecs v) fun es =>
      List.Forall₂ IsEntry (itemsOf v) es ∧ (es.map (·.name)).Nodup := by
  unfold readSpecs
  split
  · next opens =>
    rw [itemsOf, opens]
    exact reads_ok ⟨.nil, List.nodup_nil⟩
  · next items opens =>
    rw [itemsOf, opens]
    exact (readEntries_reads (part items opens)).imp fun es h => ⟨h.1, h.2.1⟩
  · exact trivial

/-! ### Configurations -/

/-- A configuration is what a document says. -/
structure IsOf (base : String) (root : Value) (c : Config) : Prop where
  place : c.base = base
  specPath : c.specPath = textAt? root "spec_path"
  specs : List.Forall₂ IsEntry (itemsOf (valueAt root "specs")) c.specs
  distinct : (c.specs.map (·.name)).Nodup
  single : c.specPath.any (!·.isEmpty) = true → c.specs = []
  schemas : IsBlock IsSchemas root "schemas" {} c.schemas
  apis : IsBlock IsApis root "apis" {} c.apis
  modules : IsBlock IsModules root "modules" {} c.modules
  hooks : IsHooks (valueAt root "hooks") c.hooks
  queryKeys : c.queryKeys.output = textAt (valueAt root "query_keys") "output" "src/query-keys"
  formatter : c.formatter.name = textAt root "formatter" "auto"
  templates : c.templates = if (textAt root "templates_dir" "").isEmpty then none
    else some (Path.below base (textAt root "templates_dir" ""))

lemma itemsOf_of_falsy (h : v.truthy = false) : itemsOf v = [] := by
  cases v with
  | list items => simpa [Value.truthy, itemsOf, Value.opened] using h
  | knot => cases h
  | _ => rfl

lemma readFormatter_reads (part : IsPart root v) :
    Reads root (readFormatter v) fun c => c.name = textAt v "formatter" "auto" := by
  refine (textFieldOr_reads part (fun _ => rfl) "formatter" "auto").bind fun given hg => ?_
  cases found : FormatterChoice.ofName? given with
  | none => exact trivial
  | some c =>
    have name : c.name = given := by simpa using List.find?_some found
    exact reads_ok (name.trans hg)

/-- A map under a key has the fields of the value there. -/
lemma mapField_reads (key : String) : Reads root (mapField v key)
    fun block => ∀ field, block.get? field = (valueAt v key).get? field :=
  mapOf_reads _ key

lemma ofDocument_reads (base : String) (root : Value) :
    Reads root (ofDocument base root) (IsOf base root) := by
  have part : IsPart root root := .root
  have same : ∀ key, root.get? key = root.get? key := fun _ => rfl
  unfold ofDocument
  cases isMap : root.isMap with
  | false => exact trivial
  | true =>
    refine (textField?_reads part same "spec_path").bind fun specPath hp => ?_
    dsimp only
    split
    · exact trivial
    next both =>
    refine (textFieldOr_reads part same "templates_dir" "").bind fun templates ht => ?_
    refine (readFormatter_reads part).bind fun formatter hf => ?_
    refine (mapField_reads "hooks").bind fun hooksBlock sameHooks => ?_
    refine (readHooks_reads (part.valueAt "hooks") sameHooks).bind fun hooks hh => ?_
    refine (mapField_reads "query_keys").bind fun keysBlock sameKeys => ?_
    refine (readSpecs_reads fun items opens w => (part.valueAt "specs").item opens).bind
      fun specs ⟨hs, distinct⟩ => ?_
    refine (readBlocks_reads part same "").bind fun blocks hb => ?_
    refine (textFieldOr_reads (part.valueAt "query_keys") sameKeys "output" "src/query-keys").bind
      fun queryKeys hk => ?_
    refine reads_pure ⟨rfl, hp, hs, distinct, fun given => ?_, hb.schemas {}, hb.apis {},
      hb.modules {}, hh, hk, hf, by rw [ht]⟩
    have falsy : (valueAt root "specs").truthy = false := by
      rw [given, Bool.true_and] at both
      exact Bool.eq_false_iff.2 both
    rw [itemsOf_of_falsy falsy] at hs
    exact List.forall₂_nil_left_iff.1 hs

/-! ### Sound configurations -/

/-- A specification is what a value of the list is, and the blocks that it lacks are those of the
configuration. -/
structure IsFilled (c : Config) (v : Value) (e : EffectiveSpec) : Prop where
  name : e.name = textAt v "name" ""
  path : e.path = textAt v "path" ""
  schemas : IsBlock IsSchemas v "schemas" c.schemas e.schemas
  apis : IsBlock IsApis v "apis" c.apis e.apis
  modules : IsBlock IsModules v "modules" c.modules e.modules

/-- The roots of the output, those of the single specifications among them. -/
def outputs (c : Config) : List String :=
  [c.schemas.output, c.apis.output, c.hooks.output, c.queryKeys.output] ++
    c.effectiveSpecs.flatMap fun e => [e.schemas.output, e.apis.output]

/-- The specification that stands alone, if there is one. -/
def alone (root : Value) (c : Config) : List EffectiveSpec :=
  match (textAt? root "spec_path").filter (!·.isEmpty) with
  | some path => [⟨"default", path, c.schemas, c.apis, c.modules⟩]
  | none => []

/-- A configuration that code can be generated from. -/
structure IsSound (root : Value) (c : Config) : Prop where
  formatter : textAt root "formatter" "auto" ∈ ["auto", "prettier", "biome", "none"]
  library : ∀ s ∈ textAt? (valueAt root "hooks") "library", s ∈ ["react-query", "swr"]
  styles : ∀ b ∈ c.apis :: c.effectiveSpecs.map (·.apis), b.style.name ∈ ["fetch"]
  outputs : ∀ s ∈ c.outputs, s ≠ ""
  single : ¬ (c.specPath.any (!·.isEmpty) = true ∧ c.specs ≠ [])
  distinct : (c.effectiveSpecs.map (·.name)).Nodup
  named : ∀ e ∈ c.effectiveSpecs, e.name ≠ "" ∧ e.path ≠ ""
  filled : itemsOf (valueAt root "specs") ≠ [] →
    List.Forall₂ (IsFilled c) (itemsOf (valueAt root "specs")) c.effectiveSpecs
  alone : itemsOf (valueAt root "specs") = [] → c.effectiveSpecs = alone root c
  layouts : ∀ here, ∀ e ∈ c.effectiveSpecs, (c.layoutOf here e).name =
    if 2 ≤ c.effectiveSpecs.length then some e.name else none

variable {base : String} {c : Config}

lemma textAt_ne_empty {usual : String} (some : usual ≠ "") : textAt v key usual ≠ "" := by
  unfold textAt
  split
  · split
    · exact some
    · next given => simpa using given
  · exact some

/-- What holds of the blocks that values give, and of the other one, holds of a block. -/
lemma IsBlock.elim {isOf : Value → α → Prop} {otherwise b : α} (h : IsBlock isOf v key otherwise b)
    (usual : P otherwise) (given : ∀ {u b}, isOf u b → P b) : P b := by
  unfold IsBlock at h
  split at h
  · exact h ▸ usual
  · exact h ▸ usual
  · exact given h

/-- The specifications are those of the list, or the one that stands alone. -/
lemma IsOf.effectiveSpecs (h : IsOf base root c) :
    (itemsOf (valueAt root "specs") ≠ [] ∧ c.effectiveSpecs = c.specs.map c.complete) ∨
      itemsOf (valueAt root "specs") = [] ∧ c.specs = [] ∧
        c.effectiveSpecs = Config.alone root c := by
  have each := h.specs
  cases items : itemsOf (valueAt root "specs") with
  | nil =>
    rw [items] at each
    have none : c.specs = [] := List.forall₂_nil_left_iff.1 each
    refine .inr ⟨rfl, none, ?_⟩
    rw [Config.effectiveSpecs, none, Config.alone, ← h.specPath]
    cases c.specPath with
    | none => rfl
    | some path => cases empty : path.isEmpty <;> simp [empty, Option.filter, complete]
  | cons v vs =>
    rw [items] at each
    obtain ⟨e, es, -, -, specs⟩ := List.forall₂_cons_left_iff.1 each
    refine .inl ⟨List.cons_ne_nil v vs, ?_⟩
    rw [Config.effectiveSpecs, specs]
    rfl

lemma isFilled_complete {e : SpecEntry} (h : IsEntry v e) : IsFilled c v (c.complete e) :=
  ⟨h.name, h.path, h.blocks.schemas c.schemas, h.blocks.apis c.apis, h.blocks.modules c.modules⟩

/-- What every entry of the list and the one that stands alone satisfy, every specification does. -/
lemma IsOf.forall_effectiveSpecs {P : EffectiveSpec → Prop} (h : IsOf base root c)
    (entries : ∀ v e, IsEntry v e → P (c.complete e))
    (single : ∀ path, path ≠ "" → P ⟨"default", path, c.schemas, c.apis, c.modules⟩) :
    ∀ e ∈ c.effectiveSpecs, P e := by
  obtain ⟨-, specs⟩ | ⟨-, -, specs⟩ := h.effectiveSpecs
  · rw [specs, List.forall_mem_map]
    intro e he
    obtain ⟨v, -, hv⟩ := exists_of_forall₂_right h.specs he
    exact entries v e hv
  · rw [specs, Config.alone]
    split
    · next path given =>
      have some := (Option.filter_eq_some_iff.1 given).2
      simpa using single path (by simpa using some)
    · simp

lemma name_mem_styles (s : ApiStyle) : s.name ∈ ["fetch"] := by
  cases s
  decide

/-- Every directory of the output is named. -/
lemma IsOf.forall_outputs_ne_empty (h : IsOf base root c) : ∀ s ∈ c.outputs, s ≠ "" := by
  have schemas : c.schemas.output ≠ "" :=
    h.schemas.elim (P := fun b => b.output ≠ "") (by decide)
      fun hb => hb.output ▸ textAt_ne_empty (by decide)
  have apis : c.apis.output ≠ "" :=
    h.apis.elim (P := fun b => b.output ≠ "") (by decide)
      fun hb => hb.output ▸ textAt_ne_empty (by decide)
  have hooks : c.hooks.output ≠ "" := h.hooks.output ▸ textAt_ne_empty (by decide)
  have queryKeys : c.queryKeys.output ≠ "" := h.queryKeys ▸ textAt_ne_empty (by decide)
  have own : ∀ e ∈ c.effectiveSpecs, e.schemas.output ≠ "" ∧ e.apis.output ≠ "" := by
    refine h.forall_effectiveSpecs (fun v e he => ?_) fun _ _ => ⟨schemas, apis⟩
    have filled := isFilled_complete (c := c) he
    exact ⟨filled.schemas.elim (P := fun b => b.output ≠ "") schemas
        fun hb => hb.output ▸ textAt_ne_empty (by decide),
      filled.apis.elim (P := fun b => b.output ≠ "") apis
        fun hb => hb.output ▸ textAt_ne_empty (by decide)⟩
  unfold outputs
  refine List.forall_mem_append.2 ⟨by simp [*], fun s hs => ?_⟩
  obtain ⟨e, he, hs⟩ := List.mem_flatMap.1 hs
  obtain rfl | rfl : s = e.schemas.output ∨ s = e.apis.output := by simpa using hs
  · exact (own e he).1
  · exact (own e he).2

lemma IsOf.isSound (h : IsOf base root c) : IsSound root c where
  formatter := by
    rw [← h.formatter]
    cases c.formatter <;> decide
  library := by
    rw [← h.hooks.library]
    intro s hs
    obtain ⟨l, -, rfl⟩ := Option.map_eq_some_iff.1 hs
    cases l <;> decide
  styles _ _ := name_mem_styles _
  outputs := h.forall_outputs_ne_empty
  single both := both.2 (h.single both.1)
  distinct := by
    obtain ⟨-, specs⟩ | ⟨-, -, specs⟩ := h.effectiveSpecs
    · rw [specs, List.map_map]
      exact h.distinct
    · rw [specs, Config.alone]
      split <;> simp
  named := h.forall_effectiveSpecs (fun _ e he => ⟨he.named, he.found⟩)
    fun path given => ⟨(by decide : "default" ≠ ""), given⟩
  filled given := by
    obtain ⟨-, specs⟩ | ⟨none, -⟩ := h.effectiveSpecs
    · rw [specs, List.forall₂_map_right_iff]
      exact h.specs.imp fun v e he => isFilled_complete he
    · exact absurd none given
  alone none := by
    obtain ⟨given, -⟩ | ⟨-, -, specs⟩ := h.effectiveSpecs
    · exact absurd none given
    · exact specs
  layouts here e he := by
    have several : 2 ≤ c.specs.length ↔ 2 ≤ c.effectiveSpecs.length := by
      obtain ⟨-, specs⟩ | ⟨-, none, specs⟩ := h.effectiveSpecs
      · rw [specs, List.length_map]
      · rw [specs, none, Config.alone]
        split <;> simp
    simp only [layoutOf, isMulti, decide_eq_true_eq, several]

/-- Every document is read as a configuration that is what the document says and that code can be
generated from, or it is refused with an error of the configuration. Only where text should be and a
number has too many digits, the error is another one. -/
theorem ofDocument_sound (base : String) (root : Value) :
    (∃ c, ofDocument base root = .ok c ∧ IsOf base root c ∧ IsSound root c) ∨
      (∃ e, (ofDocument base root).mapError Failure.ofConfig = .error (.config e) ∧ IsOwn e) ∨
        (∃ f, (ofDocument base root).mapError Failure.ofConfig = .error (.digits f)) ∧
          HasLongNumber root := by
  have reads := ofDocument_reads base root
  cases result : ofDocument base root with
  | ok c =>
    rw [result] at reads
    exact .inl ⟨c, rfl, reads, reads.isSound⟩
  | error e =>
    rw [result] at reads
    cases e with
    | digits f => exact .inr (.inr ⟨⟨f, rfl⟩, reads⟩)
    | _ => exact .inr (.inl ⟨_, rfl, reads⟩)

end ClientGen.Config
