import ClientGen.Proofs.Template.Shapes
import ClientGen.Template.Builtin
import ClientGen.TypeScript.Declaration

/-!
# What the built-in templates need

Each built-in template with the names that it relies on. Whatever is declared is written with it.
-/

namespace ClientGen.Template

open Document TypeScript

/-- The fields of an import. -/
def importFields : List (String × Leaf) :=
  [("namespace", .any), ("path", .any)]

/-- What every hook relies on. -/
def hookSignature : Signature :=
  [("banner", .leaf .any), ("function_name", .leaf .any), ("hook_name", .leaf .any),
   ("api_import", .leaf .any), ("keys_name", .leaf .any), ("keys_import", .leaf .any),
   ("imports", .records importFields), ("response_type", .leaf .any)]

/-- What a hook that asks relies on beyond that. -/
def querySignature : Signature :=
  [("params", .leaf .list), ("args", .leaf .list)]

/-- What a hook that changes something relies on beyond that, with React Query. -/
def reactQueryMutationSignature : Signature :=
  [("params", .leaf .list), ("variables_type", .leaf .any), ("variables_param", .leaf .any),
   ("args", .leaf .list)]

/-- What a hook that changes something relies on beyond that, with SWR. -/
def swrMutationSignature : Signature :=
  [("params", .leaf .list), ("variables_type", .leaf .any), ("key_args", .leaf .list),
   ("swr_variables_param", .leaf .any), ("args", .leaf .list)]

/-- What a built-in template relies on, in the order of its context. -/
def signature : TemplateId → Signature
  | .typeInterface =>
    [("name", .leaf .any),
     ("fields", .records [("key", .any), ("type", .any), ("optional", .any),
       ("description", .optional)]),
     ("description", .leaf .optional)]
  | .typeEnum =>
    [("name", .leaf .any), ("values", .leaf .list), ("description", .leaf .optional)]
  | .typeAlias =>
    [("name", .leaf .any), ("type", .leaf .any), ("description", .leaf .optional)]
  | .zodSchema =>
    [("name", .leaf .any), ("expression", .leaf .any), ("annotate", .leaf .any),
     ("description", .leaf .optional)]
  | .zodEnum => [("name", .leaf .any), ("values", .leaf .list)]
  | .apiFunction =>
    [("name", .leaf .any), ("summary", .leaf .optional), ("deprecated", .leaf .any),
     ("arguments", .leaf .list), ("response_type", .leaf .any), ("url", .leaf .any),
     ("has_query", .leaf .any), ("call", .leaf .any)]
  | .reactQueryQuery => hookSignature ++ querySignature
  | .reactQueryMutation => hookSignature ++ reactQueryMutationSignature
  | .swrQuery => hookSignature ++ querySignature
  | .swrMutation => hookSignature ++ swrMutationSignature
  | .queryKeys =>
    [("banner", .leaf .any), ("imports", .records importFields), ("keys_name", .leaf .any),
     ("module_key", .leaf .any),
     ("entries", .records [("name", .any), ("params", .list), ("args", .list)])]
  | .httpClient => [("banner", .leaf .any)]
  | .fileTypes =>
    [("banner", .leaf .any), ("imports", .records importFields), ("declarations", .leaf .list)]
  | .fileSchemas =>
    [("banner", .leaf .any), ("imports", .records importFields), ("declarations", .leaf .list)]
  | .fileIndex => [("banner", .leaf .any)]
  | .fileApi =>
    [("banner", .leaf .any), ("uses_query", .leaf .any), ("http_import", .leaf .any),
     ("imports", .records importFields), ("response_types", .leaf .list),
     ("functions", .leaf .list)]
  | .fileHooksIndex => [("banner", .leaf .any), ("hooks", .leaf .list)]

lemma reliesAll_builtin (id : TemplateId) : reliesAll (signature id) (builtin id) = true := by
  cases id <;> decide +kernel

/-- No context hides the word for the template or a constant. -/
lemma free_of_mem_signature (id : TemplateId) :
    ∀ e ∈ signature id, constants.lookup e.1 = none ∧ e.1 ≠ selfWord := by
  cases id <;> decide +kernel

/-- A built-in template is rendered from all that it relies on. -/
lemma exists_render_builtin {id : TemplateId} {context : Scope}
    (h : Matches Shape.Fits (signature id) context) :
    ∃ s, (builtin id).render context = .ok s := by
  refine exists_render (reliesAll_builtin id)
    (h.scope_fits fun e he => (free_of_mem_signature id e he).1) ?_
  refine List.lookup_eq_none_iff.2 fun e he => ?_
  have names : e.1 ∈ (signature id).map Prod.fst := h.map_fst ▸ List.mem_map_of_mem he
  obtain ⟨s, hs, hse⟩ := List.mem_map.1 names
  simpa [← hse] using (free_of_mem_signature id s hs).2.symm

/-! ### Declarations -/

/-- A declaration is written once its context matches. -/
lemma exists_writeDeclaration {δ : Type} [Declares δ] {d : δ}
    (h : Matches Shape.Fits (signature (Declares.template d)) (Declares.context d)) :
    ∃ d', writeDeclaration builtin d = .ok d' := by
  obtain ⟨s, hs⟩ := exists_render_builtin h
  exact ⟨_, by rw [writeDeclaration, hs]; rfl⟩

lemma exists_writeTypeDeclaration (d : TypeDeclaration) :
    ∃ d', writeDeclaration builtin d = .ok d' := by
  refine exists_writeDeclaration ?_
  cases d with
  | interface_ name fields description =>
    refine .cons ⟨rfl, trivial⟩ (.cons ⟨rfl, _, rfl, fun v hv => ?_⟩
      (.cons ⟨rfl, description, rfl⟩ .nil))
    obtain ⟨f, -, rfl⟩ := List.mem_map.1 hv
    exact hasFields_record (.cons ⟨rfl, trivial⟩ (.cons ⟨rfl, trivial⟩ (.cons ⟨rfl, trivial⟩
      (.cons ⟨rfl, f.description, rfl⟩ .nil))))
  | enumeration name values description =>
    exact .cons ⟨rfl, trivial⟩ (.cons ⟨rfl, _, rfl⟩ (.cons ⟨rfl, description, rfl⟩ .nil))
  | «alias» name type description =>
    exact .cons ⟨rfl, trivial⟩ (.cons ⟨rfl, trivial⟩ (.cons ⟨rfl, description, rfl⟩ .nil))

lemma exists_writeValidatorDeclaration (d : ValidatorDeclaration) :
    ∃ d', writeDeclaration builtin d = .ok d' := by
  refine exists_writeDeclaration ?_
  cases d with
  | schema name value annotated description =>
    exact .cons ⟨rfl, trivial⟩ (.cons ⟨rfl, trivial⟩ (.cons ⟨rfl, trivial⟩
      (.cons ⟨rfl, description, rfl⟩ .nil)))
  | enumeration name values => exact .cons ⟨rfl, trivial⟩ (.cons ⟨rfl, _, rfl⟩ .nil)

/-! ### Imports -/

/-- The text has the other one in it. -/
def Contains (text part : String) : Prop :=
  ∃ before after, text = before ++ part ++ after

lemma Contains.append_left {text part : String} (h : Contains text part) (s : String) :
    Contains (s ++ text) part := by
  obtain ⟨before, after, rfl⟩ := h
  exact ⟨s ++ before, after, by simp only [String.append_assoc]⟩

lemma Contains.append_right {text part : String} (h : Contains text part) (s : String) :
    Contains (text ++ s) part := by
  obtain ⟨before, after, rfl⟩ := h
  exact ⟨before, after ++ s, by simp only [String.append_assoc]⟩

lemma contains_join {part : String} : ∀ {parts : List String}, part ∈ parts →
    Contains (String.join parts) part
  | p :: rest, h => by
    rw [String.join_cons]
    rcases List.mem_cons.1 h with rfl | h
    · exact ⟨"", String.join rest, by simp⟩
    · exact (contains_join h).append_left p

/-- The line that imports all that a path offers under a namespace. -/
def importLine (keyword namespace_ path : String) : String :=
  keyword ++ namespace_ ++ " from \"" ++ path ++ "\";\n"

/-- What a template sees of an import. -/
def importEntry (namespace_ path : String) : Value :=
  .record [("namespace", .str namespace_), ("path", .str path)]

/-- What is made for an item of a list is part of what is made for the list. -/
lemma contains_each {item list : String} {body : List Piece} {ownLine : Bool} {scope : Scope}
    {items : List Value} {v : Value} {s : String}
    (hi : valueOfName? scope list = some (.list items)) (hv : v ∈ items)
    (h : (Piece.each item (.name list) body ownLine).render scope = .ok s) :
    ∃ last part, renderAll ((item, v) :: ("loop", .record [("last", .bool last)]) :: scope) body =
      .ok part ∧ Contains s part := by
  rw [Piece.render] at h
  simp only [Expr.eval, hi, bind, Except.bind, itemsOf, Value.opened] at h
  split at h
  · cases h
  · next parts hp =>
    obtain rfl := Except.ok.inj h
    obtain ⟨i, hlt, entry⟩ := List.mem_iff_getElem.1 hv
    obtain ⟨part, hpart, hr⟩ := exists_of_mapM_ok hp (List.mk_mem_zipIdx_iff_getElem?.2
      (List.getElem?_eq_getElem hlt))
    rw [entry] at hr
    exact ⟨_, part, hr, contains_join hpart⟩

/-- A text shown for every piece is part of the whole. -/
lemma renderAll_contains {scope : Scope} {piece : Piece} {part : String}
    (each : ∀ s, piece.render scope = .ok s → Contains s part) :
    ∀ {ps : List Piece} {s : String}, piece ∈ ps → renderAll scope ps = .ok s → Contains s part
  | p :: rest, s, hp, h => by
    rw [renderAll] at h
    obtain ⟨first, hf, h⟩ := bind_eq_ok h
    obtain ⟨second, hs, h⟩ := bind_eq_ok h
    obtain rfl := Except.ok.inj h
    rcases List.mem_cons.1 hp with rfl | hp
    · exact (each first hf).append_right second
    · exact (renderAll_contains each hp hs).append_left first

/-- An import is shown as a line. -/
lemma renderAll_importEntry {keyword n path : String} {last : Value} {scope : Scope} :
    renderAll (("import", importEntry n path) :: ("loop", last) :: scope)
      [.text keyword, .hole (.field (.name "import") "namespace"), .text " from \"",
        .hole (.field (.name "import") "path"), .text "\";\n"] =
      .ok (importLine keyword n path) := by
  have name : (importEntry n path).get? "namespace" = some (.str n) := lookup_record
  have target : (importEntry n path).get? "path" = some (.str path) := lookup_record
  have value : valueOfName? (("import", importEntry n path) :: ("loop", last) :: scope) "import" =
      some (importEntry n path) := rfl
  simp only [renderAll, Piece.render, Expr.eval, value, name, target, bind, Except.bind,
    Functor.map, Except.map, pure, Except.pure, Value.shown, importLine, String.append_empty,
    String.append_assoc]

/-- What the context gives a name for is found under the name. -/
lemma valueOfName?_of_lookup {context : Scope} {name : String} {v : Value}
    (free : constants.lookup name = none) (h : context.lookup name = some v) :
    valueOfName? context name = some v := by
  rw [valueOfName?, List.append_assoc, List.lookup_append, List.lookup_append, free, h]
  rfl

/-- Whether a built-in template is that of a file of declarations. -/
def hasDeclarations : TemplateId → Bool
  | .fileTypes => true
  | .fileSchemas => true
  | _ => false

/-- A file of declarations shows each of them. -/
lemma contains_declaration {id : TemplateId} {content s : String} {context : Scope}
    {texts : List String} (has : hasDeclarations id = true)
    (hd : context.lookup "declarations" = some (.texts texts)) (hc : content ∈ texts)
    (h : (builtin id).render context = .ok s) : Contains s content := by
  have piece : Piece.each "declaration" (.name "declarations")
      [.text "\n", shown "declaration", .text "\n"] true ∈ builtin id := by
    cases id
    case fileTypes => simp [builtin, fileTypes]
    case fileSchemas => simp [builtin, fileSchemas]
    all_goals exact absurd has Bool.false_ne_true
  unfold ClientGen.Template.render at h
  split at h
  · cases h
  · refine renderAll_contains (fun text ht => ?_) piece h
    obtain ⟨last, part, hr, hs⟩ := contains_each (valueOfName?_of_lookup rfl hd)
      (List.mem_map_of_mem hc) ht
    have value : valueOfName? (("declaration", .str content) ::
        ("loop", .record [("last", .bool last)]) :: context) "declaration" =
          some (.str content) := rfl
    simp only [renderAll, Piece.render, shown, Expr.eval, value, bind, Except.bind, Functor.map,
      Except.map, pure, Except.pure, Value.shown] at hr
    obtain rfl := Except.ok.inj hr
    obtain ⟨before, after, rfl⟩ := hs
    exact ⟨before ++ "\n", "\n" ++ after, by simp [String.append_assoc]⟩

end ClientGen.Template
